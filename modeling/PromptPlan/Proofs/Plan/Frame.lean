import PromptPlan.Proofs.Keyed
import PromptPlan.Proofs.Plan.Course

/-!
# What a run leaves alone

A function may do what it likes to the variables it is handed, since nobody looks at most of
them again. The state of a plan is written to by commits only, and a commit writes the main slot,
`PLAN.RESULT` and the outputs of its step. The variables of the caller are written to when the
state is shown, and then the main slot and the declared outputs are written; before each step
they take over what the state has and they lack. So under other names the state stays as it is
while a step is run, and the caller has after a run what it had before.

To say that nothing else has changed, listings are compared without the variables of the names
in question. This covers the values, their spellings and their order. What the caller had is
then a first part of what it is left with, because new variables come last.
-/

namespace PromptPlan

variable {σ : Type}

/-! ### Listings without some names -/

/-- A name is none of some names, in any case. -/
def ApartFrom (names : List String) (name : String) : Prop :=
  ∀ other ∈ names, Text.lower other ≠ Text.lower name

namespace Variables

/-- The variables, as they were last written, without those of some names. -/
def without (names : List String) (v : Variables) : List Variable :=
  v.toList.filter fun e => names.all fun name => Text.lower name != e.key

theorem without_set {names : List String} {name : String} (h : name ∈ names) (v : Variables)
    (value : String) : (v.set name value).without names = v.without names := by
  refine Keyed.filter_put fun y hy => ?_
  have hname : Text.lower name = y.key := hy.symm
  exact List.all_eq_false.2 ⟨name, h, by simp [hname]⟩

theorem without_foldl {β : Type} {names : List String} {write : Variables → β → Variables}
    {items : List β}
    (h : ∀ item ∈ items, ∀ v : Variables, (write v item).without names = v.without names)
    (v : Variables) : (items.foldl write v).without names = v.without names := by
  induction items generalizing v with
  | nil => rfl
  | cons item items ih =>
      rw [List.foldl_cons, ih fun item' hitem => h item' (List.mem_cons_of_mem item hitem),
        h item List.mem_cons_self]

theorem get?_eq_of_without {names : List String} {name : String} (h : ApartFrom names name)
    (v : Variables) :
    v.get? name = ((v.without names).find? fun e => e.key == Text.lower name).map
      Variable.value := by
  rw [without, List.find?_filter, get?, Keyed.find?]
  congr 2
  funext e
  -- an entry under this key is listed, since its key is none of the names
  by_cases hkey : e.key = Text.lower name
  · have hall : (names.all fun other => Text.lower other != Text.lower name) = true :=
      List.all_eq_true.2 fun other hother => bne_iff_ne.2 (h other hother)
    simp [hkey, hall]
  · simp [hkey]

/-- What variables have under a name is found in any listing that begins with theirs. -/
theorem get?_of_without_prefix {names : List String} {name value : String} {v v' : Variables}
    (hlisted : v.without names <+: v'.without names) (h : ApartFrom names name)
    (hvalue : v.get? name = some value) : v'.get? name = some value := by
  rw [get?_eq_of_without h] at hvalue ⊢
  obtain ⟨e, hfind, rfl⟩ := Option.map_eq_some_iff.1 hvalue
  rw [hlisted.find?_eq_some hfind]
  rfl

/-- Without overwriting, what is merged comes after what is there. -/
theorem toList_merge_prefix (v other : Variables) : v.toList <+: (v.merge other false).toList := by
  rw [merge]
  induction other.pairs generalizing v with
  | nil => exact List.prefix_rfl
  | cons p pairs ih =>
      refine List.IsPrefix.trans ?_ (ih _)
      rw [mergeOne, Bool.false_or]
      cases hcontains : v.contains p.1 with
      | true => exact List.prefix_rfl
      | false =>
          have hfind : v.entries.find? (Text.lower p.1) = none := by
            rwa [contains, Keyed.contains, Option.isSome_eq_false_iff, Option.isNone_iff_eq_none]
              at hcontains
          have hput := Keyed.toList_put_of_find?_none (x := (⟨p.1, p.2⟩ : Variable)) hfind
          rw [Bool.not_false, if_pos rfl, toList, toList, set, hput]
          exact List.prefix_append _ _

end Variables

namespace PlanHead

/-- A commit writes the main slot, `PLAN.RESULT` and the outputs of its step. -/
theorem without_commit (h : PlanHead) (answer : Variables) (outputs : List String) :
    (h.commit answer outputs).state.without (mainSlot :: resultSlot :: outputs) =
      h.state.without (mainSlot :: resultSlot :: outputs) := by
  rw [commit]
  refine (Variables.without_foldl (fun output houtput v => ?_) _).trans ?_
  · exact Variables.without_set (by simp [houtput]) v _
  · have hinput : (h.state.setInput (Text.trim answer.input)).without
        (mainSlot :: resultSlot :: outputs) = h.state.without (mainSlot :: resultSlot :: outputs) :=
      Variables.without_set (by simp) _ _
    split
    · exact (Variables.without_set (by simp) _ _).trans hinput
    · exact hinput

/-- Showing the state writes the main slot and the declared outputs. -/
theorem without_publish (h : PlanHead) (declared : List String) (caller : Variables) :
    (h.publish declared caller).without (mainSlot :: declared) =
      caller.without (mainSlot :: declared) := by
  rw [publish]
  refine (Variables.without_foldl (fun output houtput v => ?_) _).trans ?_
  · cases h.state.get? output with
    | none => rfl
    | some value => exact Variables.without_set (by simp [houtput]) v value
  · exact Variables.without_set (by simp) caller _

end PlanHead

namespace Pause

open Plan

variable {scope : Scope σ} {cancellable : Bool} {limits : Limits} {a b : Pause σ}

/-! ### One step, and any number of them -/

theorem Onward.without_prefix (h : Onward scope cancellable limits a b) :
    a.vars.without (mainSlot :: a.plan.declaredOutputs) <+:
      b.vars.without (mainSlot :: a.plan.declaredOutputs) := by
  rw [h.vars_eq, PlanHead.without_publish]
  exact (Variables.toList_merge_prefix _ _).filter _

theorem Reaches.without_prefix (h : Reaches scope cancellable limits a b) :
    a.vars.without (mainSlot :: a.plan.declaredOutputs) <+:
      b.vars.without (mainSlot :: a.plan.declaredOutputs) := by
  induction h with
  | refl => exact List.prefix_rfl
  | tail hbefore hlast ih =>
      have hstep := hlast.without_prefix
      rw [Reaches.declaredOutputs_eq hbefore] at hstep
      exact ih.trans hstep

/-- What the state holds under a name stays there in some form. -/
theorem Onward.state_ne_none (h : Onward scope cancellable limits a b) {name : String}
    (hstate : a.plan.head.state.get? name ≠ none) : b.plan.head.state.get? name ≠ none := by
  obtain ⟨step, answer, htaken⟩ := h.taken
  rw [htaken.head_eq]
  exact PlanHead.get?_commit_ne_none answer (.inr (.inl hstate))

/-- A step shows nothing but the main slot and what the state holds. -/
theorem Onward.of_vars_ne_none (h : Onward scope cancellable limits a b) {name : String}
    (hvars : b.vars.get? name ≠ none) :
    a.vars.get? name ≠ none ∨ Text.lower name = Text.lower mainSlot ∨
      b.plan.head.state.get? name ≠ none := by
  by_contra hcon
  simp only [not_or, not_not] at hcon
  obtain ⟨hunset, hslot, hstate⟩ := hcon
  refine hvars ?_
  have hbefore : a.plan.head.state.get? name = none := by
    by_contra hsome
    exact h.state_ne_none hsome hstate
  rw [h.vars_eq, PlanHead.get?_publish, hstate, Variables.setInput, Variables.get?_set,
    if_neg (Ne.symm hslot), Variables.get?_merge, hunset, hbefore]
  simp

theorem Reaches.of_vars_ne_none (h : Reaches scope cancellable limits a b) {name : String}
    (hvars : b.vars.get? name ≠ none) :
    a.vars.get? name ≠ none ∨ Text.lower name = Text.lower mainSlot ∨
      b.plan.head.state.get? name ≠ none := by
  induction h with
  | refl => exact .inl hvars
  | tail _ hlast ih =>
      rcases hlast.of_vars_ne_none hvars with hbefore | hlater
      · rcases ih hbefore with hcaller | hslot | hstate
        · exact .inl hcaller
        · exact .inr (.inl hslot)
        · exact .inr (.inr (hlast.state_ne_none hstate))
      · exact .inr hlater

end Pause

namespace Plan

/-- The names under which running the next step can write into the state. -/
def nextWrites (p : Plan σ) : List String :=
  mainSlot :: resultSlot :: (p.next?.map outputs).getD []

theorem Taken.without_eq {p step q : Plan σ} {answer : Variables} (h : Taken p step answer q) :
    q.head.state.without p.nextWrites = p.head.state.without p.nextWrites := by
  rw [nextWrites, h.next?_eq, h.head_eq]
  exact PlanHead.without_commit _ _ _

variable {scope : Scope σ}

theorem state_runNext {p left : Plan σ} {caller : Variables} {limits : Limits} {w after : World σ}
    (h : runNext scope caller p limits w = (.done (), left, after)) :
    left.head.state.without p.nextWrites = p.head.state.without p.nextWrites := by
  cases hnext : p.hasNext with
  | true =>
      obtain ⟨step, answer, htaken⟩ := exists_taken_of_runNext hnext h
      exact htaken.without_eq
  | false =>
      rw [runNext_of_complete hnext] at h
      cases h
      rfl

/-- **What a run leaves alone.** Running the next step, if it succeeds, leaves the state of the
plan as it was except under the main slot, `PLAN.RESULT` and the outputs of the step. Running
the plan to its end, if it succeeds, leaves the variables of the caller as they were, at the
front of the listing, except under the main slot and the declared outputs; and a variable that
the caller did not have is the main slot or is in the state that the plan ends with. -/
theorem frame_of_run (p : Plan σ) (scope : Scope σ) (limits : Limits) (w after : World σ)
    (left : Plan σ) :
    (∀ caller, runNext scope caller p limits w = (.done (), left, after) →
      left.head.state.without p.nextWrites = p.head.state.without p.nextWrites ∧
        ∀ name, ApartFrom p.nextWrites name →
          left.head.state.get? name = p.head.state.get? name) ∧
      ∀ cancellable vars vars',
        run scope cancellable p vars limits w = (.done vars', left, after) →
        vars.without (mainSlot :: p.declaredOutputs) <+:
            vars'.without (mainSlot :: p.declaredOutputs) ∧
          (∀ name value, ApartFrom (mainSlot :: p.declaredOutputs) name →
            vars.get? name = some value → vars'.get? name = some value) ∧
          ∀ name, vars.get? name = none → vars'.get? name ≠ none →
            Text.lower name = Text.lower mainSlot ∨ left.head.state.get? name ≠ none := by
  refine ⟨fun caller h => ?_, fun cancellable vars vars' h => ?_⟩
  · have hstate := state_runNext h
    refine ⟨hstate, fun name hname => ?_⟩
    rw [Variables.get?_eq_of_without hname, Variables.get?_eq_of_without hname, hstate]
  · obtain ⟨hreaches, _⟩ := Pause.exists_reaches_of_run_done h
    have hlisted := hreaches.without_prefix
    refine ⟨hlisted, fun name value hname => Variables.get?_of_without_prefix hlisted hname,
      fun name hunset hvars => ?_⟩
    exact (hreaches.of_vars_ne_none hvars).resolve_left fun hne => hne hunset

/-- A function that overwrites what it is handed, first as the next step of a plan and then in
a run of the plan to its end. -/
theorem frame_of_run_meddling :
    let meddle : Function Unit := .native "text" "meddle" "" [] fun _ vars =>
      pure ((vars.set "name" "another").setInput "said")
    let p := (ofSteps "goal" [(ofFunction meddle).withOutputs ["x"],
      ofFunction meddle]).withState ((Variables.ofInput "").set "kept" "here")
    let caller := (Variables.ofInput "asked").set "Name" "one"
    let ran := runNext (fun _ _ => none) caller p .none (.start ())
    let drained := run (fun _ _ => none) true p caller .none (.start ())
    ran.1 = .done () ∧ ApartFrom p.nextWrites "kept" ∧
      ran.2.1.head.state.without p.nextWrites = p.head.state.without p.nextWrites ∧
      ran.2.1.head.state.get? "kept" = some "here" ∧
      ∃ vars', drained.1 = .done vars' ∧ ApartFrom (mainSlot :: p.declaredOutputs) "name" ∧
        caller.without (mainSlot :: p.declaredOutputs) <+:
          vars'.without (mainSlot :: p.declaredOutputs) ∧
        vars'.get? "name" = some "one" ∧
        (vars'.get? "y" ≠ none → drained.2.1.head.state.get? "y" ≠ none) := by
  intro meddle p caller ran drained
  have hran : ran.1 = .done () := by decide +kernel
  have hkept : ApartFrom p.nextWrites "kept" := by
    unfold ApartFrom
    decide +kernel
  obtain ⟨vars', hdrained⟩ := Exit.isDone_iff.1 (by decide +kernel : drained.1.isDone = true)
  have hname : ApartFrom (mainSlot :: p.declaredOutputs) "name" := by
    unfold ApartFrom
    decide +kernel
  have hnext := (frame_of_run p (fun _ _ => none) .none (.start ()) ran.2.2 ran.2.1).1 caller
    (by rw [← hran])
  have hrun := (frame_of_run p (fun _ _ => none) .none (.start ()) drained.2.2 drained.2.1).2 true
    caller vars' (by rw [← hdrained])
  refine ⟨hran, hkept, hnext.1, ?_, vars', hdrained, hname, hrun.1, ?_, fun hshown => ?_⟩
  · rw [hnext.2 "kept" hkept]
    decide +kernel
  · exact hrun.2.1 "name" "one" hname (by decide +kernel)
  · exact (hrun.2.2 "y" (by decide +kernel) hshown).resolve_left (by decide +kernel)

end Plan

end PromptPlan
