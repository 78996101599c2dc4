import PromptPlan.Plan.Basic
import PromptPlan.Proofs.Text.Case

/-!
# What a step is handed

A step can have a variable from its own parameters, which may refer to others, from the caller,
from the state of the plan, and from its description. Which of them comes first depends on the
name.

The variables are put together by two loops, one over what the function declares and one over the
parameters of the step, and each looks at what is there already. `PlanHead.given?` says the
preferences for one name without a loop, and `get?_stepVariables` that the loops come to them, in
whatever order, spelling and number the names are declared.
-/

namespace PromptPlan

variable {σ : Type}

namespace Variables

theorem filled?_congr (v : Variables) {name other : String}
    (h : Text.lower name = Text.lower other) : v.filled? name = v.filled? other := by
  rw [filled?, filled?, v.get?_congr h]

theorem filled?_eq_some_iff {v : Variables} {name value : String} :
    v.filled? name = some value ↔ v.get? name = some value ∧ value ≠ "" := by
  rw [filled?, Option.filter_eq_some_iff]
  simp

theorem filled?_eq_none_iff {v : Variables} {name : String} :
    v.filled? name = none ↔ v.get? name = none ∨ v.get? name = some "" := by
  rw [filled?, Option.filter_eq_none_iff]
  cases v.get? name <;> simp

/-- No two of the pairs are of one variable. -/
theorem nodup_lower_pairs (v : Variables) :
    (v.pairs.map fun p => Text.lower p.1).Nodup := by
  have hkeys : (v.pairs.map fun p => Text.lower p.1) = v.entries.keys := List.map_map
  rw [hkeys]
  exact v.entries.nodup

end Variables

/-- The main slot has the same namesakes up to ASCII case as by lower-case form. -/
theorem lower_eq_mainSlot_iff {name : String} :
    Text.lower name = Text.lower mainSlot ↔ Text.sameAscii name mainSlot = true := by
  have hascii : Text.IsAscii mainSlot.toList := Text.isAscii_of_all (by decide +kernel)
  have hk : (Text.asciiLower mainSlot).toList.contains 'k' = false := by decide +kernel
  exact Text.lower_eq_iff_sameAscii hascii (by simpa using hk)

/-- Whether the function of a step declares a parameter of that name. -/
def Plan.declares (step : Plan σ) (name : String) : Bool :=
  step.declared.any fun p => Text.lower p.name == Text.lower name

namespace PlanHead

/-! ### The preferences for one name -/

/-- A parameter that refers to nothing gives way to a variable of its own name. -/
def orDefault (h : PlanHead) (caller : Variables) (name value : String) : String :=
  if h.expand caller value ≠ value then h.expand caller value
  else ((caller.filled? name).or (h.state.filled? name)).getD value

/-- What a step is given under a name. -/
def given? (h : PlanHead) (caller : Variables) (step : Plan σ) (name : String) :
    Option String :=
  if Text.lower name = Text.lower mainSlot then
    some <| (((step.head.parameters.filled? mainSlot).map (h.expand caller)).or
      ((caller.filled? mainSlot).or (h.state.filled? mainSlot))).getD
        (if step.isCall then step.head.description else "")
  else
    (if step.declares name then (caller.filled? name).or (h.state.filled? name) else none).or
      ((step.head.parameters.get? name).map (h.orDefault caller name))

variable {h : PlanHead} {caller : Variables}

theorem visible?_congr {name other : String} (hname : Text.lower name = Text.lower other) :
    h.visible? caller name = h.visible? caller other := by
  rw [visible?, visible?, caller.filled?_congr hname, h.state.filled?_congr hname]

theorem ne_empty_of_visible? {name value : String} (hvalue : h.visible? caller name = some value) :
    value ≠ "" := by
  rcases Option.or_eq_some_iff.1 hvalue with hvalue | ⟨-, hvalue⟩
  · exact (Variables.filled?_eq_some_iff.1 hvalue).2
  · exact (Variables.filled?_eq_some_iff.1 hvalue).2

/-- What is seen counts as filled. -/
theorem filter_visible? (name : String) :
    (h.visible? caller name).filter (fun value => !value.isEmpty) = h.visible? caller name := by
  cases hvalue : h.visible? caller name with
  | none => rfl
  | some value => simp [Option.filter, ne_empty_of_visible? hvalue]

theorem given?_mainSlot {name : String} (hname : Text.lower name = Text.lower mainSlot)
    (step : Plan σ) : h.given? caller step name = some (h.stepInput caller step) := by
  rw [given?, if_pos hname, stepInput, visible?]
  cases step.head.parameters.filled? mainSlot with
  | some value => rfl
  | none => cases (caller.filled? mainSlot).or (h.state.filled? mainSlot) <;> rfl

/-! ### The loop over what the function declares -/

theorem get?_passDeclared (vars : Variables) (p : Parameter) (name : String) :
    (h.passDeclared caller vars p).get? name =
      if Text.lower p.name = Text.lower name ∧ Text.lower name ≠ Text.lower mainSlot then
        (h.visible? caller name).or (vars.get? name)
      else vars.get? name := by
  rw [passDeclared]
  by_cases hslot : Text.sameAscii p.name mainSlot = true
  · have hlower := lower_eq_mainSlot_iff.2 hslot
    rw [if_pos hslot, if_neg]
    rintro ⟨hname, hne⟩
    exact hne (hname.symm.trans hlower)
  · rw [if_neg hslot]
    by_cases hname : Text.lower p.name = Text.lower name
    · have hne : Text.lower name ≠ Text.lower mainSlot := fun hlower =>
        hslot (lower_eq_mainSlot_iff.1 (hname.trans hlower))
      rw [visible?_congr hname, if_pos ⟨hname, hne⟩]
      cases h.visible? caller name with
      | none => rfl
      | some value => exact (Variables.get?_set _ _ _ _).trans (if_pos hname)
    · rw [if_neg fun hboth => hname hboth.1]
      cases h.visible? caller p.name with
      | none => rfl
      | some value => exact (Variables.get?_set _ _ _ _).trans (if_neg hname)

theorem get?_foldl_passDeclared (parameters : List Parameter) (vars : Variables)
    (name : String) :
    (parameters.foldl (h.passDeclared caller) vars).get? name =
      if (parameters.any fun p => Text.lower p.name == Text.lower name) = true ∧
          Text.lower name ≠ Text.lower mainSlot then
        (h.visible? caller name).or (vars.get? name)
      else vars.get? name := by
  -- the first loop writes the same value under a name each time
  induction parameters generalizing vars with
  | nil => simp
  | cons p parameters ih =>
      rw [List.foldl_cons, ih, get?_passDeclared, List.any_cons]
      by_cases hslot : Text.lower name = Text.lower mainSlot
      · simp [hslot]
      · by_cases hname : Text.lower p.name = Text.lower name
        · cases h.visible? caller name <;> simp [hslot, hname]
        · simp [hslot, hname]

/-! ### The loop over the parameters of the step -/

theorem get?_passParameter (vars : Variables) (p : String × String) (name : String) :
    (h.passParameter caller vars p).get? name =
      if Text.lower p.1 = Text.lower name ∧ vars.filled? name = none then
        some (h.orDefault caller name p.2)
      else vars.get? name := by
  rw [passParameter]
  by_cases hname : Text.lower p.1 = Text.lower name
  · rw [vars.filled?_congr hname, visible?_congr hname]
    cases hfilled : vars.filled? name with
    | some value => simp
    | none =>
        by_cases hexpand : h.expand caller p.2 = p.2 <;>
          simp [hname, hexpand, Variables.get?_set, orDefault, visible?]
  · have hother : ¬(Text.lower p.1 = Text.lower name ∧ vars.filled? name = none) :=
      fun hboth => hname hboth.1
    rw [if_neg hother]
    split
    · rfl
    · exact (Variables.get?_set _ _ _ _).trans (if_neg hname)

theorem get?_foldl_passParameter {parameters : List (String × String)}
    (hdistinct : (parameters.map fun p => Text.lower p.1).Nodup) (vars : Variables)
    (name : String) :
    (parameters.foldl (h.passParameter caller) vars).get? name =
      match parameters.find? fun p => Text.lower p.1 == Text.lower name with
      | none => vars.get? name
      | some p =>
        if vars.filled? name = none then some (h.orDefault caller name p.2)
        else vars.get? name := by
  induction parameters generalizing vars with
  | nil => rfl
  | cons p parameters ih =>
      obtain ⟨hp, hrest⟩ := List.nodup_cons.1 hdistinct
      rw [List.foldl_cons, ih hrest, List.find?_cons]
      by_cases hname : Text.lower p.1 = Text.lower name
      · -- no later parameter is of this variable
        have hnone : parameters.find? (fun q => Text.lower q.1 == Text.lower name) = none := by
          rw [List.find?_eq_none]
          intro q hq hsame
          exact hp (List.mem_map.2 ⟨q, hq, (beq_iff_eq.1 hsame).trans hname.symm⟩)
        rw [hnone, beq_iff_eq.2 hname]
        simp [get?_passParameter, hname]
      · rw [beq_eq_false_iff_ne.2 hname]
        have hsame : (h.passParameter caller vars p).get? name = vars.get? name := by
          rw [get?_passParameter, if_neg fun hboth => hname hboth.1]
        have hfilled : (h.passParameter caller vars p).filled? name = vars.filled? name := by
          rw [Variables.filled?, hsame, Variables.filled?]
        simp only [hsame, hfilled]

/-! ### Both loops -/

/-- What a step has once the first loop is done. -/
def declaredVariables (h : PlanHead) (caller : Variables) (step : Plan σ) : Variables :=
  step.declared.foldl (h.passDeclared caller) (.ofInput (h.stepInput caller step))

theorem get?_declaredVariables_mainSlot {name : String}
    (hslot : Text.lower name = Text.lower mainSlot) (step : Plan σ) :
    (h.declaredVariables caller step).get? name = some (h.stepInput caller step) := by
  rw [declaredVariables, get?_foldl_passDeclared, if_neg fun hboth => hboth.2 hslot,
    Variables.get?_congr _ hslot]
  exact Variables.get?_set_self _ _ _

theorem get?_declaredVariables_of_ne {name : String}
    (hslot : Text.lower name ≠ Text.lower mainSlot) (step : Plan σ) :
    (h.declaredVariables caller step).get? name =
      if step.declares name then h.visible? caller name else none := by
  have hunset : (Variables.ofInput (h.stepInput caller step)).get? name = none := by
    rw [Variables.ofInput, Variables.setInput, Variables.get?_set, if_neg (Ne.symm hslot)]
    rfl
  rw [declaredVariables, get?_foldl_passDeclared, hunset, Option.or_none, Plan.declares]
  simp [hslot]

/-- Whatever is there after the first loop is filled, except for the main slot perhaps. -/
theorem filled?_declaredVariables_of_ne {name : String}
    (hslot : Text.lower name ≠ Text.lower mainSlot) (step : Plan σ) :
    (h.declaredVariables caller step).filled? name =
      (h.declaredVariables caller step).get? name := by
  rw [Variables.filled?, get?_declaredVariables_of_ne hslot]
  split
  · exact filter_visible? name
  · rfl

theorem expand_empty : h.expand caller "" = "" := by
  rw [expand, PromptPlan.expand, String.toList_empty, expandChars_nil, String.ofList_nil]

/-- A main slot that is still empty after the first loop stays empty. -/
theorem orDefault_mainSlot {step : Plan σ} {name value : String}
    (hslot : Text.lower name = Text.lower mainSlot)
    (hvalue : step.head.parameters.get? name = some value)
    (hempty : h.stepInput caller step = "") : h.orDefault caller name value = "" := by
  rw [Variables.get?_congr _ hslot] at hvalue
  rw [orDefault, ← visible?, visible?_congr hslot]
  rw [stepInput] at hempty
  by_cases hne : value = ""
  · subst hne
    have hfilled : step.head.parameters.filled? mainSlot = none :=
      Variables.filled?_eq_none_iff.2 (.inr hvalue)
    rw [hfilled] at hempty
    have hnone : h.visible? caller mainSlot = none := by
      cases hvisible : h.visible? caller mainSlot with
      | none => rfl
      | some seen =>
          rw [hvisible] at hempty
          exact absurd hempty (ne_empty_of_visible? hvisible)
    rw [expand_empty, hnone]
    rfl
  · have hfilled : step.head.parameters.filled? mainSlot = some value :=
      Variables.filled?_eq_some_iff.2 ⟨hvalue, hne⟩
    rw [hfilled] at hempty
    have hempty : h.expand caller value = "" := hempty
    rw [hempty, if_pos (Ne.symm hne)]

theorem get?_parameters_eq_find? (step : Plan σ) (name : String) :
    step.head.parameters.get? name =
      (step.head.parameters.pairs.find? fun p => Text.lower p.1 == Text.lower name).map Prod.snd :=
  Variables.get?_eq_find? _ _

theorem get?_stepVariables_mainSlot {name : String}
    (hslot : Text.lower name = Text.lower mainSlot) (step : Plan σ) :
    (h.stepVariables caller step).get? name = some (h.stepInput caller step) := by
  have hparameters := get?_parameters_eq_find? step name
  rw [stepVariables, ← declaredVariables, get?_foldl_passParameter (Variables.nodup_lower_pairs _),
    Variables.filled?, get?_declaredVariables_mainSlot hslot]
  cases hfind : step.head.parameters.pairs.find? fun p => Text.lower p.1 == Text.lower name with
  | none => rfl
  | some p =>
      rw [hfind] at hparameters
      dsimp only
      -- the second loop writes the main slot only if it is empty, and then writes nothing into it
      by_cases hinput : h.stepInput caller step = ""
      · rw [hinput, orDefault_mainSlot hslot hparameters hinput, ite_self]
      · simp [Option.filter, hinput]

theorem get?_stepVariables_of_ne {name : String} (hslot : Text.lower name ≠ Text.lower mainSlot)
    (step : Plan σ) : (h.stepVariables caller step).get? name = h.given? caller step name := by
  rw [stepVariables, ← declaredVariables, get?_foldl_passParameter (Variables.nodup_lower_pairs _),
    filled?_declaredVariables_of_ne hslot, get?_declaredVariables_of_ne hslot, given?,
    if_neg hslot, get?_parameters_eq_find?, ← visible?]
  cases step.head.parameters.pairs.find? fun p => Text.lower p.1 == Text.lower name with
  | none => simp
  | some p => cases (if step.declares name then h.visible? caller name else none) <;> simp

/-- **What a step is handed.** Under every name a step finds what it is given by preference, and
nothing under a name for which there is no preference. -/
theorem get?_stepVariables (h : PlanHead) (caller : Variables) (step : Plan σ) (name : String) :
    (h.stepVariables caller step).get? name = h.given? caller step name := by
  by_cases hslot : Text.lower name = Text.lower mainSlot
  · rw [get?_stepVariables_mainSlot hslot, given?_mainSlot hslot]
  · exact get?_stepVariables_of_ne hslot step

end PlanHead

end PromptPlan
