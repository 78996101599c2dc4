import Mathlib.Data.List.Induction
import Mathlib.Data.List.Nodup
import PromptPlan.Keyed

/-!
# Where the items of a listing stand

Look-up says which items there are, and this is about their order. An item that is put where its
key is already present stands where the old one stood, and with a new key it stands at the end.
An item that is erased leaves the others as they were. Since keys are distinct, all of this is
said by splitting the list at the one item that has the key.

Of the items of a whole list the listing has, for each key, the last one, and it has the keys in the
order of their first occurrences (`keys_ofList`, `find?_ofList`).
-/

namespace PromptPlan

/-! ### First occurrences -/

theorem eraseDups_concat (l : List String) (k : String) :
    (l ++ [k]).eraseDups = if k ∈ l then l.eraseDups else l.eraseDups ++ [k] := by
  rw [List.eraseDups_append]
  split
  · rename_i h
    simp [List.removeAll, h]
  · rename_i h
    simp [List.removeAll, h, List.eraseDups_cons]

/-- Repetitions make no difference to what comes first after a renaming. -/
theorem eraseDups_map_eraseDups (f : String → String) (l : List String) :
    (l.eraseDups.map f).eraseDups = (l.map f).eraseDups := by
  induction l using List.reverseRecOn with
  | nil => rfl
  | append_singleton l k ih =>
      rw [eraseDups_concat, List.map_append, List.map_singleton, eraseDups_concat]
      by_cases hk : k ∈ l
      · rw [if_pos hk, if_pos (List.mem_map_of_mem hk), ih]
      · rw [if_neg hk, List.map_append, List.map_singleton, eraseDups_concat, ih]
        simp only [List.mem_map, List.mem_eraseDups]

namespace Keyed

variable {α : Type} {key : α → String}

theorem place_of_not_mem {x : α} {l : List α} (h : key x ∉ l.map key) :
    place key x l = l ++ [x] := by
  induction l with
  | nil => rfl
  | cons y l ih =>
      rw [List.map_cons, List.mem_cons, not_or] at h
      rw [place, if_neg (Ne.symm h.1), ih h.2, List.cons_append]

theorem place_append_cons {x y : α} {before : List α} (hbefore : key x ∉ before.map key)
    (hy : key y = key x) (after : List α) :
    place key x (before ++ y :: after) = before ++ x :: after := by
  induction before with
  | nil => rw [List.nil_append, place, if_pos hy, List.nil_append]
  | cons z before ih =>
      rw [List.map_cons, List.mem_cons, not_or] at hbefore
      rw [List.cons_append, place, if_neg (Ne.symm hbefore.1), ih hbefore.2, List.cons_append]

/-- What is read off the items stands where they stand, if it has their keys. -/
theorem map_place {β : Type} {key' : β → String} (f : α → β) (hkey : ∀ x, key' (f x) = key x)
    (x : α) (l : List α) : (place key x l).map f = place key' (f x) (l.map f) := by
  induction l with
  | nil => rfl
  | cons y l ih =>
      rw [List.map_cons, place, place, hkey, hkey]
      split
      · rw [List.map_cons]
      · rw [List.map_cons, ih]

theorem filter_key_of_not_mem {k : String} {l : List α} (h : k ∉ l.map key) :
    (l.filter fun x => key x != k) = l := by
  rw [List.filter_eq_self]
  intro x hx
  rw [bne_iff_ne]
  rintro rfl
  exact h (List.mem_map_of_mem hx)

/-- The items around the one that has a key. -/
theorem exists_around {m : Keyed key} {k : String} {x : α} (h : m.find? k = some x) :
    ∃ before after, m.toList = before ++ x :: after ∧
      k ∉ before.map key ∧ k ∉ after.map key := by
  obtain rfl : key x = k := key_of_find? h
  obtain ⟨before, after, hsplit⟩ := List.append_of_mem (mem_of_find? h)
  have hnodup := m.nodup
  rw [hsplit, List.map_append, List.map_cons, List.nodup_middle, List.nodup_cons,
    List.mem_append, not_or] at hnodup
  exact ⟨before, after, hsplit, hnodup.1⟩

/-- A listing is its keys, in order, and what is found under them. -/
theorem toList_eq_filterMap (m : Keyed key) : m.toList = m.keys.filterMap m.find? := by
  have hself : m.toList.filterMap (m.find? ∘ key) = m.toList.filterMap some :=
    List.filterMap_congr fun x hx => find?_key_of_mem hx
  rw [keys, List.filterMap_map, hself, List.filterMap_some]

theorem eq_of_keys {m m' : Keyed key} (hkeys : m.keys = m'.keys)
    (hfind : ∀ k, m.find? k = m'.find? k) : m = m' := by
  refine Keyed.ext ?_
  rw [toList_eq_filterMap, hkeys, funext hfind, ← toList_eq_filterMap]

/-- Among the items that pass a test, a key has the item it had, if that passes. -/
theorem find?_filter (m : Keyed key) (p : α → Bool) (k : String) :
    (m.toList.filter p).find? (fun x => key x == k) = (m.find? k).filter p := by
  have hnone : ∀ {l : List α}, k ∉ l.map key →
      (l.filter p).find? (fun x => key x == k) = none := by
    intro l hl
    rw [List.find?_eq_none]
    intro x hx hkey
    exact hl (List.mem_map.2 ⟨x, List.mem_of_mem_filter hx, beq_iff_eq.1 hkey⟩)
  cases hfind : m.find? k with
  | none => exact hnone (find?_eq_none_iff.1 hfind)
  | some x =>
      obtain ⟨before, after, hsplit, hbefore, hafter⟩ := exists_around hfind
      rw [hsplit, List.filter_append, List.find?_append, hnone hbefore, Option.none_or,
        List.filter_cons, Option.filter]
      cases p x with
      | true => simp [key_of_find? hfind]
      | false => simpa using hnone hafter

theorem filter_key_beq_of_not_mem {k : String} {l : List α} (h : k ∉ l.map key) :
    (l.filter fun x => key x == k) = [] := by
  rw [List.filter_eq_nil_iff]
  intro x hx hkey
  exact h (beq_iff_eq.1 hkey ▸ List.mem_map_of_mem hx)

/-- The items with a key, of which there is one at most. -/
theorem filter_key_beq (m : Keyed key) (k : String) :
    (m.toList.filter fun x => key x == k) = (m.find? k).toList := by
  cases hfind : m.find? k with
  | none => exact filter_key_beq_of_not_mem (find?_eq_none_iff.1 hfind)
  | some x =>
      obtain ⟨before, after, hsplit, hbefore, hafter⟩ := exists_around hfind
      rw [hsplit, List.filter_append, filter_key_beq_of_not_mem hbefore,
        List.filter_cons_of_pos (by simp [key_of_find? hfind]), filter_key_beq_of_not_mem hafter]
      rfl

theorem toList_put_of_find?_none {m : Keyed key} {x : α} (h : m.find? (key x) = none) :
    (m.put x).toList = m.toList ++ [x] :=
  place_of_not_mem (find?_eq_none_iff.1 h)

/-- The items around the one that is replaced stay. -/
theorem exists_around_put {m : Keyed key} {x y : α} (h : m.find? (key x) = some y) :
    ∃ before after, m.toList = before ++ y :: after ∧ (m.put x).toList = before ++ x :: after ∧
      key x ∉ before.map key ∧ key x ∉ after.map key := by
  obtain ⟨before, after, hsplit, hbefore, hafter⟩ := exists_around h
  refine ⟨before, after, hsplit, ?_, hbefore, hafter⟩
  rw [toList_put, hsplit, place_append_cons hbefore (key_of_find? h)]

/-- Putting an item does not show among the items that have other keys. -/
theorem filter_put {m : Keyed key} {x : α} {p : α → Bool}
    (h : ∀ y, key y = key x → p y = false) : (m.put x).toList.filter p = m.toList.filter p := by
  have hx : p x = false := h x rfl
  cases hfind : m.find? (key x) with
  | none => rw [toList_put_of_find?_none hfind, List.filter_append, List.filter_singleton, hx]; simp
  | some y =>
      obtain ⟨before, after, hsplit, hput, -, -⟩ := exists_around_put hfind
      have hy : p y = false := h y (key_of_find? hfind)
      rw [hput, hsplit, List.filter_append, List.filter_append,
        List.filter_cons_of_neg (by simp [hx]), List.filter_cons_of_neg (by simp [hy])]

theorem mem_put {m : Keyed key} {x y : α} (h : y ∈ (m.put x).toList) : y = x ∨ y ∈ m.toList := by
  cases hfind : m.find? (key x) with
  | none =>
      rw [toList_put_of_find?_none hfind, List.mem_append, List.mem_singleton] at h
      exact h.symm
  | some z =>
      obtain ⟨before, after, hsplit, hput, -, -⟩ := exists_around_put hfind
      rw [hput, List.mem_append, List.mem_cons] at h
      rw [hsplit, List.mem_append, List.mem_cons]
      exact h.elim (fun h => .inr (.inl h)) (Or.imp_right fun h => .inr (.inr h))

theorem toList_erase_of_find?_none {m : Keyed key} {k : String} (h : m.find? k = none) :
    (m.erase k).toList = m.toList :=
  filter_key_of_not_mem (find?_eq_none_iff.1 h)

/-- The items around the one that is erased stay. -/
theorem exists_around_erase {m : Keyed key} {k : String} {x : α} (h : m.find? k = some x) :
    ∃ before after, m.toList = before ++ x :: after ∧ (m.erase k).toList = before ++ after ∧
      k ∉ before.map key ∧ k ∉ after.map key := by
  obtain ⟨before, after, hsplit, hbefore, hafter⟩ := exists_around h
  refine ⟨before, after, hsplit, ?_, hbefore, hafter⟩
  rw [toList_erase, hsplit, List.filter_append, filter_key_of_not_mem hbefore,
    List.filter_cons_of_neg (by simp [key_of_find? h]), filter_key_of_not_mem hafter]

/-- Only the first item with the key is dropped, because there is no second one. -/
theorem toList_erase_eq_eraseP (m : Keyed key) (k : String) :
    (m.erase k).toList = m.toList.eraseP fun x => key x == k := by
  cases hfind : m.find? k with
  | none =>
      have hnone : ∀ x ∈ m.toList, ¬(key x == k) = true := List.find?_eq_none.1 hfind
      rw [toList_erase_of_find?_none hfind, List.eraseP_of_forall_not hnone]
  | some x =>
      obtain ⟨before, after, hsplit, herase, hbefore, -⟩ := exists_around_erase hfind
      have hskip : ∀ y ∈ before, ¬(key y == k) = true := by
        intro y hy hkey
        exact hbefore (beq_iff_eq.1 hkey ▸ List.mem_map_of_mem hy)
      rw [herase, hsplit, List.eraseP_append_right _ hskip,
        List.eraseP_cons_of_pos (by simp [key_of_find? hfind])]

theorem toList_putAll {l : List α} {m : Keyed key} (h : ((m.toList ++ l).map key).Nodup) :
    (m.putAll l).toList = m.toList ++ l := by
  induction l generalizing m with
  | nil => simp [putAll]
  | cons x l ih =>
      have hnodup := h
      rw [List.map_append, List.map_cons, List.nodup_middle, List.nodup_cons, List.mem_append,
        not_or] at hnodup
      have hput : (m.put x).toList = m.toList ++ [x] := place_of_not_mem hnodup.1.1
      have hsplit : (m.put x).toList ++ l = m.toList ++ x :: l := by
        rw [hput, List.append_assoc, List.singleton_append]
      rw [← hsplit] at h ⊢
      exact ih h

/-- Items with distinct keys are listed as they come. -/
theorem toList_ofList {l : List α} (h : (l.map key).Nodup) :
    (ofList l : Keyed key).toList = l :=
  toList_putAll (m := empty) h

/-! ### What the items of a list make -/

theorem ofList_concat (l : List α) (x : α) :
    (ofList (l ++ [x]) : Keyed key) = (ofList l).put x :=
  List.foldl_concat ..

theorem keys_ofList (l : List α) : (ofList l : Keyed key).keys = (l.map key).eraseDups := by
  induction l using List.reverseRecOn with
  | nil => rfl
  | append_singleton l x ih =>
      have hput : ((ofList l).put x : Keyed key).keys = _ := map_key_place x (ofList l).toList
      rw [ofList_concat, hput, ← keys, ih, List.map_append, List.map_singleton, eraseDups_concat]
      simp only [List.mem_eraseDups]

theorem find?_ofList (l : List α) (k : String) :
    (ofList l : Keyed key).find? k = (l.filter fun x => key x == k).getLast? := by
  induction l using List.reverseRecOn with
  | nil => rfl
  | append_singleton l x ih =>
      rw [ofList_concat, find?_put, List.filter_append, List.filter_singleton]
      split
      · rename_i hkey
        rw [beq_iff_eq.2 hkey, cond_true, List.getLast?_concat]
      · rename_i hkey
        rw [beq_eq_false_iff_ne.2 hkey, cond_false, List.append_nil, ih]

theorem getLast?_toList (m : Keyed key) : m.toList.getLast? = m.keys.getLast?.bind m.find? := by
  rw [keys, List.getLast?_map]
  cases hlast : m.toList.getLast? with
  | none => rfl
  | some x => exact (find?_key_of_mem (List.mem_of_getLast? hlast)).symm

theorem filter_place {p : α → Bool} (hp : ∀ x y, key x = key y → p x = p y) (x : α) (l : List α) :
    (place key x l).filter p = if p x then place key x (l.filter p) else l.filter p := by
  induction l with
  | nil => rw [place, List.filter_singleton]; cases p x <;> rfl
  | cons y l ih =>
      rw [place]
      split
      · rename_i hy
        rw [List.filter_cons, List.filter_cons, hp y x hy]
        cases p x with
        | true => simp [place, hy]
        | false => simp
      · rename_i hy
        rw [List.filter_cons, List.filter_cons, ih]
        cases p y <;> cases p x <;> simp [place, hy]

/-- Among the items with some keys, the listing is that of these items. -/
theorem filter_ofList {p : α → Bool} (hp : ∀ x y, key x = key y → p x = p y) (l : List α) :
    (ofList l : Keyed key).toList.filter p = (ofList (l.filter p) : Keyed key).toList := by
  induction l using List.reverseRecOn with
  | nil => rfl
  | append_singleton l x ih =>
      rw [ofList_concat, toList_put, filter_place hp, ih, List.filter_append,
        List.filter_singleton]
      cases p x with
      | true => rw [cond_true, ofList_concat]; rfl
      | false => rw [cond_false, List.append_nil]; rfl

end Keyed

end PromptPlan
