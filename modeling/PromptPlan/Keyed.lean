/-!
# Listings with distinct keys

Variables, the functions of a skill and the members of a JSON object are all kept in the order
in which they first came, and an item whose key is already present takes the place of the one
that had it. The key is computed from the item, and distinctness is part of the type.
-/

namespace PromptPlan

structure Keyed {α : Type} (key : α → String) where
  /-- The items, in the order in which their keys first came. -/
  toList : List α
  nodup : (toList.map key).Nodup

namespace Keyed

variable {α : Type} {key : α → String}

@[ext] theorem ext {a b : Keyed key} (h : a.toList = b.toList) : a = b := by
  cases a; cases b; simp_all

instance [DecidableEq α] : DecidableEq (Keyed key) := fun a b =>
  decidable_of_iff (a.toList = b.toList) ⟨ext, fun h => h ▸ rfl⟩

def empty : Keyed key := ⟨[], List.nodup_nil⟩

instance : EmptyCollection (Keyed key) := ⟨empty⟩

instance : Inhabited (Keyed key) := ⟨empty⟩

def keys (m : Keyed key) : List String := m.toList.map key

def find? (m : Keyed key) (k : String) : Option α :=
  m.toList.find? fun x => key x == k

def contains (m : Keyed key) (k : String) : Bool :=
  (m.find? k).isSome

def size (m : Keyed key) : Nat := m.toList.length

/-! ### Putting an item -/

def place (key : α → String) (x : α) : List α → List α
  | [] => [x]
  | y :: rest => if key y = key x then x :: rest else y :: place key x rest

theorem map_key_place (x : α) (l : List α) :
    (place key x l).map key = if key x ∈ l.map key then l.map key else l.map key ++ [key x] := by
  induction l with
  | nil => simp [place]
  | cons y rest ih =>
    by_cases h : key y = key x
    · simp [place, h]
    · have h' : key x ≠ key y := fun e => h e.symm
      simp only [place, h, if_false, List.map_cons, ih, List.mem_cons, h', false_or]
      split <;> simp

theorem nodup_place (x : α) {l : List α} (h : (l.map key).Nodup) :
    ((place key x l).map key).Nodup := by
  rw [map_key_place]
  split
  · exact h
  · rename_i hx
    refine List.nodup_append.2 ⟨h, by simp, ?_⟩
    intro a ha b hb hab
    simp only [List.mem_singleton] at hb
    exact hx (hb ▸ hab ▸ ha)

theorem find?_place (x : α) (l : List α) (k : String) :
    (place key x l).find? (fun y => key y == k) =
      if key x = k then some x else l.find? (fun y => key y == k) := by
  induction l with
  | nil => by_cases h : key x = k <;> simp [place, h]
  | cons y rest ih =>
    by_cases hy : key y = key x
    · by_cases h : key x = k <;> simp [place, hy, h]
    · by_cases h : key y = k
      · have hx : key x ≠ k := fun e => hy (h.trans e.symm)
        simp [place, h, hx, Ne.symm hx]
      · simp [place, hy, h, ih]

/-- Puts an item: in place of the one with its key, or else at the end. -/
def put (m : Keyed key) (x : α) : Keyed key :=
  ⟨place key x m.toList, nodup_place x m.nodup⟩

@[simp] theorem toList_put (m : Keyed key) (x : α) :
    (m.put x).toList = place key x m.toList := rfl

theorem find?_put (m : Keyed key) (x : α) (k : String) :
    (m.put x).find? k = if key x = k then some x else m.find? k :=
  find?_place x m.toList k

@[simp] theorem find?_put_self (m : Keyed key) (x : α) : (m.put x).find? (key x) = some x := by
  simp [find?_put]

/-- Puts the items of a list one after another. -/
def putAll (m : Keyed key) (l : List α) : Keyed key :=
  l.foldl put m

def ofList (l : List α) : Keyed key :=
  (empty : Keyed key).putAll l

/-! ### Erasing an item -/

/-- Drops the item with key `k`, if there is one; the others keep their order. -/
def erase (m : Keyed key) (k : String) : Keyed key :=
  ⟨m.toList.filter fun x => key x != k,
    m.nodup.sublist (List.filter_sublist.map key)⟩

@[simp] theorem toList_erase (m : Keyed key) (k : String) :
    (m.erase k).toList = m.toList.filter fun x => key x != k := rfl

theorem find?_erase (m : Keyed key) (k j : String) :
    (m.erase k).find? j = if k = j then none else m.find? j := by
  unfold find?
  rw [toList_erase, List.find?_filter]
  split
  · rename_i h
    subst h
    simp
  · rename_i h
    congr 1
    funext x
    by_cases hx : key x = j
    · simp [hx, Ne.symm h]
    · simp [hx]

/-! ### Reading back -/

@[simp] theorem toList_empty : (empty : Keyed key).toList = [] := rfl

@[simp] theorem find?_empty (k : String) : (empty : Keyed key).find? k = none := rfl

theorem key_of_find? {m : Keyed key} {k : String} {x : α} (h : m.find? k = some x) :
    key x = k := by
  simpa using List.find?_some h

theorem mem_of_find? {m : Keyed key} {k : String} {x : α} (h : m.find? k = some x) :
    x ∈ m.toList :=
  List.mem_of_find?_eq_some h

theorem find?_eq_none_iff {m : Keyed key} {k : String} :
    m.find? k = none ↔ k ∉ m.keys := by
  simp [find?, keys, List.find?_eq_none]

theorem contains_iff {m : Keyed key} {k : String} : m.contains k = true ↔ k ∈ m.keys := by
  simp [contains, Option.isSome_iff_ne_none, find?_eq_none_iff]

/-- Distinct keys make an item the only answer to its key. -/
theorem find?_key_of_mem {m : Keyed key} {x : α} (h : x ∈ m.toList) :
    m.find? (key x) = some x := by
  obtain ⟨l, hl⟩ := m
  simp only [find?] at *
  induction l with
  | nil => simp at h
  | cons y rest ih =>
    simp only [List.map_cons, List.nodup_cons] at hl
    rcases List.mem_cons.1 h with rfl | h
    · simp
    · have hne : key y ≠ key x := fun e => hl.1 (e ▸ List.mem_map_of_mem h)
      simp [hne, ih hl.2 h]

end Keyed

end PromptPlan
