import PromptPlan.Keyed
import PromptPlan.Text.Case

/-!
# Variables

Names are compared in lower case, so `City` and `city` are one variable, but the spelling of the
latest write is kept. The *main slot* `input` holds the text a function works on and the text it
answers with, so that functions can be chained without knowing each other's names.
-/

namespace PromptPlan

structure Variable where
  name : String
  value : String
deriving DecidableEq, Repr, Inhabited

def Variable.key (v : Variable) : String := Text.lower v.name

def mainSlot : String := "input"

/-- Variables in the order of their first writes, distinct up to case. -/
structure Variables where
  entries : Keyed Variable.key
deriving DecidableEq

namespace Variables

@[ext] theorem ext {a b : Variables} (h : a.entries.toList = b.entries.toList) : a = b := by
  cases a; cases b; simp only [mk.injEq]; exact Keyed.ext h

def empty : Variables := ⟨.empty⟩

instance : EmptyCollection Variables := ⟨empty⟩

instance : Inhabited Variables := ⟨empty⟩

/-! ### Reading -/

def toList (v : Variables) : List Variable := v.entries.toList

def pairs (v : Variables) : List (String × String) :=
  v.toList.map fun e => (e.name, e.value)

def names (v : Variables) : List String :=
  v.toList.map Variable.name

/-- The value of a variable, by its name in any case. -/
def get? (v : Variables) (name : String) : Option String :=
  (v.entries.find? (Text.lower name)).map Variable.value

/-- The value of a variable unless that is the empty text. -/
def filled? (v : Variables) (name : String) : Option String :=
  (v.get? name).filter fun value => !value.isEmpty

def contains (v : Variables) (name : String) : Bool :=
  v.entries.contains (Text.lower name)

/-- The text in the main slot; empty when it is not set. -/
def input (v : Variables) : String :=
  (v.get? mainSlot).getD ""

def size (v : Variables) : Nat := v.entries.size

def isEmpty (v : Variables) : Bool := v.toList.isEmpty

/-! ### Writing -/

/-- Writes a variable: a new one comes last, an old one changes spelling and value in place. -/
def set (v : Variables) (name value : String) : Variables :=
  ⟨v.entries.put ⟨name, value⟩⟩

def setInput (v : Variables) (value : String) : Variables :=
  v.set mainSlot value

/-- Appends to a variable; one that is not set counts as empty. -/
def append (v : Variables) (name value : String) : Variables :=
  v.set name ((v.get? name).getD "" ++ value)

/-- Drops a variable; the others keep their order. -/
def remove (v : Variables) (name : String) : Variables :=
  ⟨v.entries.erase (Text.lower name)⟩

def setAll (v : Variables) (pairs : List (String × String)) : Variables :=
  pairs.foldl (fun v p => v.set p.1 p.2) v

/-- The variables that pairs make, written one after another. -/
def ofPairs (pairs : List (String × String)) : Variables :=
  empty.setAll pairs

def ofInput (value : String) : Variables :=
  empty.setInput value

def mergeOne (overwrite : Bool) (v : Variables) (p : String × String) : Variables :=
  if overwrite || !v.contains p.1 then v.set p.1 p.2 else v

/-- Takes over the variables of `other`; with `overwrite` off, those already set stay as
they are and only new ones are added. -/
def merge (v other : Variables) (overwrite : Bool) : Variables :=
  other.pairs.foldl (mergeOne overwrite) v

/-- Equality without regard to order: the same spellings with the same values. -/
def sameSet (a b : Variables) : Bool :=
  a.size == b.size && a.toList.all fun e => b.entries.find? e.key == some e

/-! ### What a write does to look-up -/

@[simp] theorem get?_empty (name : String) : empty.get? name = none := rfl

theorem get?_set (v : Variables) (name value other : String) :
    (v.set name value).get? other =
      if Text.lower name = Text.lower other then some value else v.get? other := by
  simp only [get?, set, Keyed.find?_put, Variable.key]
  by_cases h : Text.lower name = Text.lower other <;> simp [h]

@[simp] theorem get?_set_self (v : Variables) (name value : String) :
    (v.set name value).get? name = some value := by
  simp [get?_set]

@[simp] theorem input_setInput (v : Variables) (value : String) :
    (v.setInput value).input = value := by
  simp [input, setInput]

theorem contains_eq_isSome (v : Variables) (name : String) :
    v.contains name = (v.get? name).isSome := by
  simp [contains, get?, Keyed.contains]

theorem get?_mergeOne (overwrite : Bool) (v : Variables) (p : String × String) (name : String) :
    (mergeOne overwrite v p).get? name =
      if Text.lower p.1 = Text.lower name ∧ (overwrite = true ∨ v.get? p.1 = none) then some p.2
      else v.get? name := by
  unfold mergeOne
  rw [contains_eq_isSome]
  cases overwrite <;> cases h : v.get? p.1 <;> simp [get?_set]

theorem get?_congr (v : Variables) {name other : String}
    (h : Text.lower name = Text.lower other) : v.get? name = v.get? other := by
  simp only [get?, h]

theorem get?_eq_find? (v : Variables) (name : String) :
    v.get? name =
      (v.pairs.find? fun p => Text.lower p.1 == Text.lower name).map Prod.snd := by
  rw [get?, pairs, List.find?_map, Option.map_map]
  rfl

/-- Without overwriting, look-up falls back on what was merged. -/
theorem get?_merge (v other : Variables) (name : String) :
    (v.merge other false).get? name = (v.get? name).or (other.get? name) := by
  rw [get?_eq_find? other, merge]
  induction other.pairs generalizing v with
  | nil => simp
  | cons p pairs ih =>
    rw [List.foldl_cons, ih, get?_mergeOne]
    by_cases hname : Text.lower p.1 = Text.lower name
    · rw [get?_congr v hname, List.find?_cons_of_pos (by simpa using hname)]
      cases v.get? name <;> simp [hname]
    · rw [if_neg fun h => hname h.1, List.find?_cons_of_neg (by simpa using hname)]

end Variables

end PromptPlan
