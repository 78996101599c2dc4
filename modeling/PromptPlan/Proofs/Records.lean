import Mathlib.Data.List.Basic
import PromptPlan.Json.Decode

/-!
# What a record is read from

A record is read field by field, out of the members of an object or the items of a list, and every
field that is read changes the record. Two things can be said of the outcome without looking at
the fields that were read before and after. What every field keeps is kept by the whole
(`visitMembers_keeps`). And what the reading of one field brings about is there at the end, if the
other fields leave it alone (`asRecord_field`): in an object because a field that comes again is a
fault, and in a list because the fields are different.
-/

namespace PromptPlan

theorem exists_of_bind_eq_ok {ε α β : Type} {x : Except ε α} {f : α → Except ε β} {b : β}
    (hbind : x >>= f = .ok b) : ∃ a, x = .ok a ∧ f a = .ok b := by
  cases x with
  | error e => cases hbind
  | ok a => exact ⟨a, rfl, hbind⟩

namespace Json

variable {ρ : Type}

/-! ### Members of an object -/

section Members

variable {fields : List String} {visit : ρ → String → Json → Except String ρ} {P : ρ → Prop}
  {members : List (String × Json)} {seen seen' : List String} {r r' : ρ}

/-- A member is passed over, or it is a field that comes for the first time and is read. -/
theorem cases_of_visitMembers {m : String × Json}
    (hread : visitMembers fields visit seen r (m :: members) = .ok (r', seen')) :
    m.1 ∉ fields ∧ visitMembers fields visit seen r members = .ok (r', seen') ∨
      m.1 ∈ fields ∧ m.1 ∉ seen ∧ ∃ next, visit r m.1 m.2 = .ok next ∧
        visitMembers fields visit (m.1 :: seen) next members = .ok (r', seen') := by
  rw [visitMembers] at hread
  split at hread
  case isTrue hfield => exact .inl ⟨by simpa using hfield, hread⟩
  case isFalse hfield =>
    split at hread
    case isTrue => cases hread
    case isFalse hseen =>
      exact .inr ⟨by simpa using hfield, by simpa using hseen, exists_of_bind_eq_ok hread⟩

/-- What is kept by every field that is read is kept by the whole object. -/
theorem visitMembers_keeps
    (hvisit : ∀ m ∈ members, m.1 ∈ fields → ∀ r r', P r → visit r m.1 m.2 = .ok r' → P r')
    (hr : P r) (hread : visitMembers fields visit seen r members = .ok (r', seen')) : P r' := by
  induction members generalizing seen r with
  | nil =>
      rw [visitMembers] at hread
      cases hread
      exact hr
  | cons m members ih =>
      have hrest := fun other hother => hvisit other (List.mem_cons_of_mem m hother)
      rcases cases_of_visitMembers hread with ⟨-, hread⟩ | ⟨hfield, -, next, hnext, hread⟩
      · exact ih hrest hr hread
      · exact ih hrest (hvisit m List.mem_cons_self hfield r next hr hnext) hread

theorem notMem_of_visitMembers {field : String} (hfield : field ∈ fields) (hseen : field ∈ seen)
    (hread : visitMembers fields visit seen r members = .ok (r', seen')) :
    field ∉ members.map Prod.fst := by
  induction members generalizing seen r with
  | nil => simp
  | cons m members ih =>
      rw [List.map_cons, List.mem_cons, not_or]
      rcases cases_of_visitMembers hread with ⟨hother, hread⟩ | ⟨-, hnew, next, -, hread⟩
      · refine ⟨?_, ih hseen hread⟩
        rintro rfl
        exact hother hfield
      · refine ⟨?_, ih (List.mem_cons_of_mem _ hseen) hread⟩
        rintro rfl
        exact hnew hseen

theorem visitMembers_field {field : String} {j : Json} (hfield : field ∈ fields)
    (hown : ∀ r r', visit r field j = .ok r' → P r')
    (hother : ∀ name j, name ∈ fields → name ≠ field → ∀ r r', P r → visit r name j = .ok r' → P r')
    (hmem : (field, j) ∈ members)
    (hread : visitMembers fields visit seen r members = .ok (r', seen')) : P r' := by
  induction members generalizing seen r with
  | nil => cases hmem
  | cons m members ih =>
      rcases cases_of_visitMembers hread with ⟨hpassed, hread⟩ | ⟨-, -, next, hnext, hread⟩
      · rcases List.mem_cons.1 hmem with rfl | hmem
        · exact absurd hfield hpassed
        · exact ih hmem hread
      · rcases List.mem_cons.1 hmem with rfl | hmem
        · have hlast := notMem_of_visitMembers hfield List.mem_cons_self hread
          refine visitMembers_keeps (fun m hm hname => ?_) (hown r next hnext) hread
          exact hother m.1 m.2 hname fun heq => hlast (heq ▸ List.mem_map_of_mem hm)
        · exact ih hmem hread

end Members

/-! ### Items of a list -/

section Items

variable {visit : ρ → String → Json → Except String ρ} {P : ρ → Prop} {names missing : List String}
  {items left : List Json} {r r' : ρ}

theorem visitItems_keeps
    (hvisit : ∀ name ∈ names, ∀ j r r', P r → visit r name j = .ok r' → P r')
    (hr : P r) (hread : visitItems visit r names items = .ok (r', missing, left)) : P r' := by
  induction names generalizing items r with
  | nil =>
      rw [visitItems] at hread
      · cases hread
        exact hr
      · simp
  | cons name names ih =>
      cases items with
      | nil =>
          rw [visitItems] at hread
          · cases hread
            exact hr
          · simp
      | cons j items =>
          obtain ⟨next, hnext, hread⟩ := exists_of_bind_eq_ok hread
          exact ih (fun other hother => hvisit other (List.mem_cons_of_mem name hother))
            (hvisit name List.mem_cons_self j r next hr hnext) hread

theorem visitItems_field {field : String} {j : Json} (hnodup : names.Nodup) (hfield : field ∈ names)
    (hown : ∀ r r', visit r field j = .ok r' → P r')
    (hother : ∀ name j, name ∈ names → name ≠ field → ∀ r r', P r → visit r name j = .ok r' → P r')
    (hitem : items[names.idxOf field]? = some j)
    (hread : visitItems visit r names items = .ok (r', missing, left)) : P r' := by
  induction names generalizing items r with
  | nil => cases hfield
  | cons name names ih =>
      cases items with
      | nil => simp at hitem
      | cons item items =>
          obtain ⟨hname, hnodup⟩ := List.nodup_cons.1 hnodup
          obtain ⟨next, hnext, hread⟩ := exists_of_bind_eq_ok hread
          have hrest := fun other j hmem => hother other j (List.mem_cons_of_mem name hmem)
          by_cases heq : name = field
          · subst heq
            rw [List.idxOf_cons_self] at hitem
            obtain rfl : item = j := by simpa using hitem
            refine visitItems_keeps (fun other hmem j => ?_) (hown r next hnext) hread
            exact hrest other j hmem fun hsame => hname (hsame ▸ hmem)
          · rw [List.idxOf_cons_ne _ heq, List.getElem?_cons_succ] at hitem
            exact ih hnodup (List.mem_of_ne_of_mem (Ne.symm heq) hfield) hrest hitem hread

end Items

/-! ### Records -/

/-- What stands for a field: a member of its name, or the item in its place. -/
def IsField (fields : List String) (field : String) (value : Json) : Json → Prop
  | .object members => (field, value) ∈ members
  | .array items => items[fields.idxOf field]? = some value
  | _ => False

section Records

variable {origin : Origin} {spec : Fields} {start r : ρ}
  {visit : Nat → ρ → String → Json → Except String ρ} {depth : Nat}

/-- A record out of an object is what the members make of the defaults. -/
theorem exists_of_asRecord_object {members : List (String × Json)}
    (hread : asRecord origin spec start visit (depth + 1) (.object members) = .ok r) :
    ∃ seen, visitMembers spec.fields (visit depth) [] start members = .ok (r, seen) := by
  rw [asRecord] at hread
  obtain ⟨⟨last, seen⟩, hvisited, hread⟩ := exists_of_bind_eq_ok hread
  refine ⟨seen, ?_⟩
  dsimp only at hread
  split at hread
  · cases hread
  · cases hread
    exact hvisited

/-- A record out of a list is what the items make of the defaults. -/
theorem exists_of_asRecord_array {items : List Json}
    (hread : asRecord origin spec start visit (depth + 1) (.array items) = .ok r) :
    ∃ missing left, visitItems (visit depth) start spec.fields items = .ok (r, missing, left) := by
  rw [asRecord] at hread
  obtain ⟨⟨last, missing, left⟩, hvisited, hread⟩ := exists_of_bind_eq_ok hread
  refine ⟨missing, left, ?_⟩
  dsimp only at hread
  split at hread
  · cases hread
  · split at hread
    · cases hread
      exact hvisited
    · split at hread
      · cases hread
      · cases hread
      · cases hread
        exact hvisited

/-- A record has what was read for a field, if no other field changes it. -/
theorem asRecord_field {P : ρ → Prop} {field : String} {value j : Json}
    (hnodup : spec.fields.Nodup) (hfield : field ∈ spec.fields)
    (hown : ∀ r r', visit depth r field value = .ok r' → P r')
    (hother : ∀ name j, name ∈ spec.fields → name ≠ field → ∀ r r', P r →
      visit depth r name j = .ok r' → P r')
    (hvalue : IsField spec.fields field value j)
    (hread : asRecord origin spec start visit (depth + 1) j = .ok r) : P r := by
  cases j with
  | object members =>
      obtain ⟨seen, hvisited⟩ := exists_of_asRecord_object hread
      exact visitMembers_field hfield hown hother hvalue hvisited
  | array items =>
      obtain ⟨missing, left, hvisited⟩ := exists_of_asRecord_array hread
      exact visitItems_field hnodup hfield hown hother hvalue hvisited
  | _ => exact hvalue.elim

end Records

end Json

end PromptPlan
