import PromptPlan.Proofs.Keyed
import PromptPlan.Variables

/-!
# Variables on a shelf

Variables have been described as a listing whose keys are made from the spellings. They can also
be pictured as a shelf of labelled slots. A slot is labelled once, when the first value comes
under a new name, and the label is what is looked for afterwards; the spelling and the value in
the slot change with each write, and nobody changes the label. Writing looks for a slot and puts
a new one at the end if there is none, and dropping a variable takes its slot away.

The two pictures agree after any number of operations, in any order and with merges of whole
shelves among them (`History.reflects`). In particular no label ever differs from the spelling
that is shown but in case, although only the spelling is written again. This is why the
spellings and values alone, in their order, are enough to have the variables back.
-/

namespace PromptPlan

/-- A slot: its label, and the variable as it was last written. -/
structure Slot where
  label : String
  name : String
  value : String
deriving DecidableEq, Repr

/-- Writes into the slot if it is the one for a name; the label stays. -/
def Slot.written (slot : Slot) (name value : String) : Slot :=
  if slot.label = Text.lower name then { slot with name, value } else slot

/-- Slots in the order in which they came. -/
abbrev Shelf := List Slot

namespace Shelf

/-- The slot for a name, in any case. -/
def slot? (shelf : Shelf) (name : String) : Option Slot :=
  shelf.find? fun slot => slot.label == Text.lower name

/-- The value under a name. -/
def value? (shelf : Shelf) (name : String) : Option String :=
  (shelf.slot? name).map Slot.value

/-- Writes spelling and value into the slot for a name, or puts up a new slot. -/
def write (shelf : Shelf) (name value : String) : Shelf :=
  if shelf.any fun slot => slot.label == Text.lower name then
    shelf.map fun slot => slot.written name value
  else shelf ++ [⟨Text.lower name, name, value⟩]

/-- Takes over one slot; with `overwrite` off, a slot that is there already stays as it is. -/
def mergeOne (overwrite : Bool) (shelf : Shelf) (slot : Slot) : Shelf :=
  if overwrite = false ∧ (shelf.slot? slot.name).isSome then shelf
  else shelf.write slot.name slot.value

/-- Takes over the slots of another shelf, one after another. -/
def merge (shelf other : Shelf) (overwrite : Bool) : Shelf :=
  other.foldl (mergeOne overwrite) shelf

/-- Takes the slot for a name away. -/
def drop (shelf : Shelf) (name : String) : Shelf :=
  shelf.eraseP fun slot => slot.label == Text.lower name

end Shelf

namespace Variables

/-- What is done to variables, starting from none; the variables that are merged have a history
of their own. -/
inductive History where
  | empty
  | ofPairs (pairs : List (String × String))
  | set (before : History) (name value : String)
  | setInput (before : History) (value : String)
  | append (before : History) (name value : String)
  | merge (before other : History) (overwrite : Bool)
  | remove (before : History) (name : String)

/-- What was done, done to variables. -/
def History.listed : History → Variables
  | empty => .empty
  | ofPairs pairs => .ofPairs pairs
  | set before name value => before.listed.set name value
  | setInput before value => before.listed.setInput value
  | append before name value => before.listed.append name value
  | merge before other overwrite => before.listed.merge other.listed overwrite
  | remove before name => before.listed.remove name

/-- What was done, done to a shelf. -/
def History.shelved : History → Shelf
  | empty => []
  | ofPairs pairs => pairs.foldl (fun shelf p => Shelf.write shelf p.1 p.2) []
  | set before name value => before.shelved.write name value
  | setInput before value => before.shelved.write mainSlot value
  | append before name value =>
    before.shelved.write name ((before.shelved.value? name).getD "" ++ value)
  | merge before other overwrite => before.shelved.merge other.shelved overwrite
  | remove before name => before.shelved.drop name

/-! ### The shelf of a listing

What is done to a listing is done to its shelf. -/

end Variables

/-- A variable as a slot, labelled with its key. -/
def Variable.slot (e : Variable) : Slot := ⟨e.key, e.name, e.value⟩

theorem map_written_of_not_mem {name : String} {l : List Variable}
    (h : Text.lower name ∉ l.map Variable.key) (value : String) :
    (l.map Variable.slot).map (fun slot => slot.written name value) = l.map Variable.slot := by
  rw [List.map_map, List.map_inj_left]
  intro e he
  have hkey : e.key ≠ Text.lower name := fun hkey => h (hkey ▸ List.mem_map_of_mem he)
  exact if_neg hkey

namespace Variables

/-- The slots of variables. -/
def shelf (v : Variables) : Shelf :=
  v.toList.map Variable.slot

theorem map_shelf {β : Type} (g : Slot → β) (v : Variables) :
    v.shelf.map g = v.toList.map fun e => g e.slot :=
  List.map_map

theorem slot?_shelf (v : Variables) (name : String) :
    v.shelf.slot? name = (v.entries.find? (Text.lower name)).map Variable.slot := by
  rw [Shelf.slot?, shelf, List.find?_map]
  rfl

theorem value?_shelf (v : Variables) (name : String) : v.shelf.value? name = v.get? name := by
  rw [Shelf.value?, slot?_shelf, Option.map_map]
  rfl

theorem isSome_slot?_shelf (v : Variables) (name : String) :
    (v.shelf.slot? name).isSome = v.contains name := by
  rw [slot?_shelf, Option.isSome_map, contains, Keyed.contains]

theorem shelf_set (v : Variables) (name value : String) :
    (v.set name value).shelf = v.shelf.write name value := by
  have hany := v.isSome_slot?_shelf name
  rw [Shelf.slot?, List.isSome_find?, contains, Keyed.contains] at hany
  rw [Shelf.write, hany]
  cases hfind : v.entries.find? (Text.lower name) with
  | none =>
      have hput := Keyed.toList_put_of_find?_none (x := (⟨name, value⟩ : Variable)) hfind
      rw [if_neg (by simp), shelf, toList, set, hput, List.map_append]
      rfl
  | some e =>
      obtain ⟨before, after, hsplit, hput, hbefore, hafter⟩ :=
        Keyed.exists_around_put (x := (⟨name, value⟩ : Variable)) hfind
      have hkey : e.key = Text.lower name := Keyed.key_of_find? hfind
      have hwritten : e.slot.written name value = (⟨name, value⟩ : Variable).slot := by
        have hlabel : e.slot.label = Text.lower name := hkey
        rw [Slot.written, if_pos hlabel, hlabel]
        rfl
      rw [if_pos (by simp), shelf, toList, set, hput, shelf, toList, hsplit]
      simp only [List.map_append, List.map_cons, map_written_of_not_mem hbefore,
        map_written_of_not_mem hafter, hwritten]

theorem shelf_remove (v : Variables) (name : String) :
    (v.remove name).shelf = v.shelf.drop name := by
  rw [Shelf.drop, shelf, shelf, List.eraseP_map, toList, toList, remove,
    Keyed.toList_erase_eq_eraseP]
  rfl

theorem shelf_mergeOne (overwrite : Bool) (v : Variables) (e : Variable) :
    (mergeOne overwrite v (e.name, e.value)).shelf = v.shelf.mergeOne overwrite e.slot := by
  have hsome : (v.shelf.slot? e.slot.name).isSome = v.contains e.name :=
    v.isSome_slot?_shelf e.name
  rw [Shelf.mergeOne, hsome, mergeOne]
  cases overwrite <;> cases v.contains e.name <;> simp [shelf_set, Variable.slot]

theorem shelf_merge (v other : Variables) (overwrite : Bool) :
    (v.merge other overwrite).shelf = v.shelf.merge other.shelf overwrite := by
  rw [merge, pairs, List.foldl_map, Shelf.merge, shelf.eq_def other, List.foldl_map]
  exact (List.foldl_hom shelf fun v e => (shelf_mergeOne overwrite v e).symm).symm

theorem shelf_setAll (v : Variables) (pairs : List (String × String)) :
    (v.setAll pairs).shelf = pairs.foldl (fun shelf p => shelf.write p.1 p.2) v.shelf :=
  (List.foldl_hom shelf fun v p => (v.shelf_set p.1 p.2).symm).symm

/-- By induction on what was done, with the merged variables as a second branch. -/
theorem History.shelf_listed (h : History) : h.listed.shelf = h.shelved := by
  induction h with
  | empty => rfl
  | ofPairs pairs => exact shelf_setAll .empty pairs
  | set before name value ih => rw [listed, shelved, shelf_set, ih]
  | setInput before value ih => rw [listed, shelved, Variables.setInput, shelf_set, ih]
  | append before name value ih =>
      rw [listed, shelved, Variables.append, shelf_set, ← value?_shelf, ih]
  | merge before other overwrite ih ih' => rw [listed, shelved, shelf_merge, ih, ih']
  | remove before name ih => rw [listed, shelved, shelf_remove, ih]

/-! ### What can be read -/

/-- The listing and the shelf cannot be told apart by reading, and the shelf is labelled as its
spellings say. -/
structure Reflects (v : Variables) (shelf : Shelf) : Prop where
  label : ∀ slot ∈ shelf, slot.label = Text.lower slot.name
  distinct : (shelf.map Slot.label).Nodup
  keys : v.entries.keys = shelf.map Slot.label
  get? : ∀ name, v.get? name = shelf.value? name
  contains : ∀ name, v.contains name = (shelf.slot? name).isSome
  input : v.input = (shelf.value? mainSlot).getD ""
  size : v.size = shelf.length
  names : v.names = shelf.map Slot.name
  pairs : v.pairs = shelf.map fun slot => (slot.name, slot.value)

theorem reflects_shelf (v : Variables) : Reflects v v.shelf where
  label := by
    intro slot hslot
    obtain ⟨e, _, rfl⟩ := List.mem_map.1 hslot
    rfl
  distinct := by
    rw [map_shelf]
    exact v.entries.nodup
  keys := (v.map_shelf Slot.label).symm
  get? name := (v.value?_shelf name).symm
  contains name := (v.isSome_slot?_shelf name).symm
  input := by rw [value?_shelf, Variables.input]
  size := (List.length_map _).symm
  names := (v.map_shelf Slot.name).symm
  pairs := (v.map_shelf fun slot => (slot.name, slot.value)).symm

/-! ### Spellings and look-up -/

/-- The spellings after a write do not depend on the values. -/
theorem names_set (v : Variables) (name value : String) :
    (v.set name value).names = Keyed.place Text.lower name v.names :=
  Keyed.map_place Variable.name (fun _ => rfl) _ _

theorem toList_eq_map_names (v : Variables) :
    v.toList = v.names.map fun name => ⟨name, (v.get? name).getD ""⟩ := by
  have hself : ∀ e ∈ v.toList, (⟨e.name, (v.get? e.name).getD ""⟩ : Variable) = id e := by
    intro e he
    have hfind : v.entries.find? (Text.lower e.name) = some e := Keyed.find?_key_of_mem he
    rw [get?, hfind]
    rfl
  rw [names, List.map_map]
  exact ((List.map_congr_left hself).trans (List.map_id _)).symm

/-- Variables are their spellings, in order, and what look-up shows. -/
theorem eq_of_names {v v' : Variables} (hnames : v'.names = v.names) (hget : v'.get? = v.get?) :
    v' = v := by
  refine Variables.ext ?_
  have hlist := v'.toList_eq_map_names
  rw [hnames, hget, ← toList_eq_map_names] at hlist
  exact hlist

/-! ### Spellings as keys -/

/-- Values by their spellings, compared exactly. -/
def bySpelling (v : Variables) : Keyed (Prod.fst : String × String → String) :=
  .ofList v.pairs

theorem nodup_names (v : Variables) : v.names.Nodup := by
  refine List.Nodup.of_map Text.lower ?_
  have hkeys : v.names.map Text.lower = v.entries.keys := List.map_map
  rw [hkeys]
  exact v.entries.nodup

theorem toList_bySpelling (v : Variables) : v.bySpelling.toList = v.pairs := by
  refine Keyed.toList_ofList ?_
  have hnames : v.pairs.map Prod.fst = v.names := List.map_map
  rw [hnames]
  exact v.nodup_names

theorem entries_setAll (v : Variables) (l : List Variable) :
    (v.setAll (l.map fun e => (e.name, e.value))).entries = v.entries.putAll l := by
  rw [setAll, List.foldl_map]
  exact (List.foldl_hom entries fun _ _ => rfl).symm

theorem ofPairs_pairs (v : Variables) : ofPairs v.pairs = v := by
  refine Variables.ext ?_
  rw [ofPairs, pairs, entries_setAll]
  exact Keyed.toList_ofList v.entries.nodup

/-- **One shelf.** Whatever is done to variables, starting from none, they read like a shelf on
which a write goes to the slot of its name, in place and with the label it has, or to a new slot
at the end. Every slot is labelled with the lower-case form of the spelling in it, and no two
labels are equal. So nothing is lost when the values are listed by their spellings, and writing
such a listing gives the variables back, in order and as they were spelled. -/
theorem History.reflects (h : History) :
    Reflects h.listed h.shelved ∧
      h.listed.bySpelling.toList = h.listed.pairs ∧
      Variables.ofPairs h.listed.bySpelling.toList = h.listed := by
  refine ⟨?_, toList_bySpelling _, ?_⟩
  · rw [← h.shelf_listed]
    exact reflects_shelf _
  · rw [toList_bySpelling, ofPairs_pairs]

end Variables

end PromptPlan
