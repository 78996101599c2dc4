import PromptPlan.Proofs.Plan.Failure
import PromptPlan.Proofs.Plan.Publication
import PromptPlan.Proofs.Plan.Restore

/-!
# Pauses in a run

A run keeps what it knows in the state of the plan and in the variables of the caller. If it is
stopped between two steps, only the state is left. Going on from the state alone is the same as
going on with the variables in hand as long as the state has, under every name, what they have.

Under nearly every name the variables have kept up with the state. Two names are different: the
main slot is shown the gathered result, while the state has the result of the last step, and
`PLAN.RESULT` is not shown unless it is declared as an output.
-/

namespace PromptPlan

variable {σ : Type}

namespace Plan

variable {scope : Scope σ}

theorem declaredOutputs_noted (p : Plan σ) :
    (p.noted scope []).declaredOutputs = p.declaredOutputs := by
  cases p with
  | call head function finished => rw [noted]; rfl
  | group head past ahead => rw [noted]; exact outputs_noted_steps head past ahead

end Plan

/-! ### From pause to pause -/

/-- A run between two of its steps: the plan as it is, the variables of the caller, the world. -/
structure Pause (σ : Type) where
  plan : Plan σ
  vars : Variables
  world : World σ

namespace Pause

open Plan

variable {scope : Scope σ} {cancellable : Bool} {limits : Limits} {a b c : Pause σ}

/-- The next pause of a run, if it commits a step. -/
def next? (scope : Scope σ) (cancellable : Bool) (limits : Limits) (a : Pause σ) :
    Option (Pause σ) :=
  match a.plan with
  | .group head past (step :: rest) =>
    let caller := a.vars.merge head.state false
    match head.attemptWatched cancellable step (runWhole scope step) caller limits a.world with
    | (.done head', left, after) =>
      some ⟨.group head' (past ++ [left]) rest, head'.publish a.plan.declaredOutputs caller, after⟩
    | _ => none
  | _ => none

/-- The pause of a run after a number of steps, if it commits so many. -/
def after? (scope : Scope σ) (cancellable : Bool) (limits : Limits) :
    Nat → Pause σ → Option (Pause σ)
  | 0, a => some a
  | k + 1, a => (a.next? scope cancellable limits).bind (after? scope cancellable limits k)

/-- From one pause to the next, a step is committed. -/
inductive Next (scope : Scope σ) (cancellable : Bool) (limits : Limits) :
    Pause σ → Pause σ → Prop
  | mk {head head' : PlanHead} {past rest : List (Plan σ)} {step left : Plan σ}
      {vars : Variables} {w after : World σ} :
      head.attemptWatched cancellable step (runWhole scope step) (vars.merge head.state false)
        limits w = (.done head', left, after) →
      Next scope cancellable limits ⟨.group head past (step :: rest), vars, w⟩
        ⟨.group head' (past ++ [left]) rest,
          head'.publish (Plan.group head past (step :: rest)).declaredOutputs
            (vars.merge head.state false), after⟩

/-- From one pause to a later one, a number of steps is committed. -/
inductive After (scope : Scope σ) (cancellable : Bool) (limits : Limits) :
    Nat → Pause σ → Pause σ → Prop
  | here (a : Pause σ) : After scope cancellable limits 0 a a
  | next {k : Nat} {a b c : Pause σ} : Next scope cancellable limits a b →
      After scope cancellable limits k b c → After scope cancellable limits (k + 1) a c

theorem next?_eq_some_iff :
    a.next? scope cancellable limits = some b ↔ Next scope cancellable limits a b := by
  constructor
  · intro h
    obtain ⟨plan, vars, w⟩ := a
    cases plan with
    | call head function finished => cases h
    | group head past ahead =>
        cases ahead with
        | nil => cases h
        | cons step rest =>
            rcases hrun : head.attemptWatched cancellable step (runWhole scope step)
              (vars.merge head.state false) limits w with ⟨exit, left, after⟩
            simp only [next?, hrun] at h
            cases exit with
            | done head' =>
                cases h
                exact .mk hrun
            | failed e => cases h
            | interrupted => cases h
            | stuck => cases h
  · rintro ⟨hrun⟩
    simp only [next?, hrun]

theorem after?_eq_some_iff {k : Nat} :
    a.after? scope cancellable limits k = some b ↔ After scope cancellable limits k a b := by
  induction k generalizing a with
  | zero =>
      constructor
      · intro h
        cases h
        exact .here _
      · rintro ⟨⟩
        rfl
  | succ k ih =>
      rw [after?, Option.bind_eq_some_iff]
      constructor
      · rintro ⟨c, hnext, hrest⟩
        exact .next (next?_eq_some_iff.1 hnext) (ih.1 hrest)
      · rintro (_ | ⟨hnext, hrest⟩)
        exact ⟨_, next?_eq_some_iff.2 hnext, ih.2 hrest⟩

theorem Next.declaredOutputs_eq (h : Next scope cancellable limits a b) :
    b.plan.declaredOutputs = a.plan.declaredOutputs := by
  cases h with
  | @mk head head' past rest step left vars w after hattempt =>
      obtain ⟨answer, rfl⟩ := exists_answer_of_attemptWatched (by rw [hattempt])
      obtain ⟨attempts, hworks⟩ := exists_works_attemptWatched
        (exists_works_runWhole step (fun _ _ => none) []) head cancellable
        (vars.merge head.state false) limits w
      have houtputs : left.outputs = step.outputs := (hworks.given hattempt).2.outputs_eq
      simp only [declaredOutputs, steps, List.flatMap_append, List.flatMap_cons, List.flatMap_nil,
        houtputs, List.append_nil, List.append_assoc]
      rfl

theorem Next.run_eq (h : Next scope cancellable limits a b) :
    run scope cancellable a.plan a.vars limits a.world =
      run scope cancellable b.plan b.vars limits b.world := by
  have hdeclared := h.declaredOutputs_eq
  cases h with
  | @mk head head' past rest step left vars w after hattempt =>
      have ha : run scope cancellable (.group head past (step :: rest)) vars limits w =
          runSteps scope cancellable (Plan.group head past (step :: rest)).declaredOutputs head past
            (step :: rest) vars limits w := by
        rw [run]
        rfl
      rw [ha, runSteps_of_done hattempt, ← hdeclared, run]
      rfl

theorem After.run_eq {k : Nat} (h : After scope cancellable limits k a b) :
    run scope cancellable a.plan a.vars limits a.world =
      run scope cancellable b.plan b.vars limits b.world := by
  induction h with
  | here a => rfl
  | next hnext _ ih => rw [hnext.run_eq, ih]

theorem After.cursor_eq {k : Nat} (h : After scope cancellable limits k a b) :
    b.plan.cursor = a.plan.cursor + k := by
  induction h with
  | here a => rfl
  | @next k a b c hnext _ ih =>
      have hstep : b.plan.cursor = a.plan.cursor + 1 := by
        cases hnext
        simp [cursor]
      omega

/-- Under an ordinary name the variables keep up with the state from pause to pause. -/
theorem Next.keptIn (h : Next scope cancellable limits a b) {name : String} (hname : Ordinary name)
    (hkept : a.vars.KeptIn a.plan.head.state name) : b.vars.KeptIn b.plan.head.state name := by
  cases h with
  | @mk head head' past rest step left vars w after hattempt =>
      obtain ⟨answer, rfl⟩ := exists_answer_of_attemptWatched (by rw [hattempt])
      refine PlanHead.keptIn_publish_commit hname hkept answer ?_
      intro output houtput
      simp [declaredOutputs, steps, houtput]

theorem After.keptIn {k : Nat} (h : After scope cancellable limits k a b) {name : String}
    (hname : Ordinary name) (hkept : a.vars.KeptIn a.plan.head.state name) :
    b.vars.KeptIn b.plan.head.state name := by
  induction h with
  | here a => exact hkept
  | next hnext _ ih => exact ih (hnext.keptIn hname hkept)

/-! ### Attempts before a pause -/

/-- The pause of a run with a journal. -/
def noted (scope : Scope σ) (journal : List Attempt) (a : Pause σ) :
    Pause (Journaled σ Attempt) where
  plan := a.plan.noted scope []
  vars := a.vars
  world := a.world.journaled journal

theorem Next.exists_noted (h : Next scope cancellable limits a b)
    (scope' : Scope (Journaled σ Attempt)) :
    ∃ attempts, Leads a.plan attempts b.plan ∧ ∀ journal,
      Next scope' cancellable limits (a.noted scope journal)
        (b.noted scope (journal ++ attempts)) := by
  cases h with
  | @mk head head' past rest step left vars w after hattempt =>
      obtain ⟨answer, rfl⟩ := exists_answer_of_attemptWatched (by rw [hattempt])
      obtain ⟨attempts, hworks⟩ := exists_works_attemptWatched
        (exists_works_runWhole step scope' [past.length]) head cancellable
        (vars.merge head.state false) limits w
      obtain ⟨hrecords, hran⟩ := hworks.given hattempt
      refine ⟨attempts.map (Attempt.below [past.length]), hran.committed rfl head past rest answer,
        fun journal => ?_⟩
      have hgroup : (Plan.group head past (step :: rest)).noted scope [] =
          .group head (notedFrom scope [] 0 past)
            (step.noted scope [past.length] :: notedFrom scope [] (past.length + 1) rest) := by
        rw [Plan.noted, notedFrom, List.nil_append]
      have hleft : (Plan.group (head.commit answer step.outputs) (past ++ [left]) rest).noted
          scope [] = .group (head.commit answer step.outputs)
            (notedFrom scope [] 0 past ++ [left.noted scope [past.length]])
            (notedFrom scope [] (past.length + 1) rest) := by
        rw [Plan.noted, notedFrom_append, notedFrom, notedFrom, List.nil_append, Nat.zero_add,
          List.length_append, List.length_singleton]
      have hdeclared : ((Plan.group head past (step :: rest)).noted scope []).declaredOutputs =
          (Plan.group head past (step :: rest)).declaredOutputs := declaredOutputs_noted _
      rw [hgroup] at hdeclared
      simp only [noted, hgroup, hleft, ← hdeclared]
      exact .mk (hrecords journal)

theorem After.exists_noted {k : Nat} (h : After scope cancellable limits k a b)
    (scope' : Scope (Journaled σ Attempt)) :
    ∃ attempts, Leads a.plan attempts b.plan ∧ ∀ journal,
      After scope' cancellable limits k (a.noted scope journal)
        (b.noted scope (journal ++ attempts)) := by
  induction h with
  | here a =>
      refine ⟨[], .refl _, fun journal => ?_⟩
      rw [List.append_nil]
      exact .here _
  | next hnext _ ih =>
      obtain ⟨attempts, hleads, hnoted⟩ := hnext.exists_noted scope'
      obtain ⟨later, hlater, hrest⟩ := ih
      refine ⟨attempts ++ later, hleads.trans hlater, fun journal => ?_⟩
      rw [← List.append_assoc]
      exact .next (hnoted journal) (hrest _)

/-- The visit that runs a plan from a pause on. -/
def visit (scope : Scope σ) (cancellable : Bool) (limits : Limits) (a : Pause σ) : Visit σ :=
  ⟨.drain cancellable a.vars, scope, limits, a.world⟩

/-- The attempts of a run are those before a pause and those from there on. -/
theorem After.exists_attempts {k : Nat} (h : After scope cancellable limits k a b) :
    ∃ earlier, Leads a.plan earlier b.plan ∧
      (a.visit scope cancellable limits).attempts a.plan =
        earlier ++ (b.visit scope cancellable limits).attempts b.plan := by
  obtain ⟨earlier, hleads, hnoted⟩ := h.exists_noted (fun _ _ => none)
  refine ⟨earlier, hleads, ?_⟩
  have hrun : (a.visit scope cancellable limits).performNoted a.plan [] =
      (b.visit scope cancellable limits).performNoted b.plan earlier := (hnoted []).run_eq
  rw [Visit.attempts, hrun]
  have hrecords := (advances_visit (b.visit scope cancellable limits) b.plan).records earlier
  rw [Visit.performNoted, hrecords]
  rfl

/-! ### What a stop leaves -/

/-- With the flag up a cancellable run does not begin another step. -/
theorem run_of_cancelled {p : Plan σ} {vars : Variables} {w : World σ} (hnext : p.hasNext = true)
    (hw : w.cancelled = true) : run scope true p vars limits w = (.failed .cancelled, p, w) := by
  cases p with
  | group head past ahead =>
      cases ahead with
      | nil => cases hnext
      | cons step rest => exact runSteps_of_not_done (attemptWatched_of_cancelled hw) rfl
  | call head function finished =>
      cases finished with
      | true => cases hnext
      | false => exact run_call (attemptWatched_of_cancelled hw)

/-- What the variables have is in the state as well, under all names. -/
theorem After.keptIn_all {k : Nat} {p : Plan σ} {w : World σ}
    (h : After scope cancellable limits k ⟨p, .empty, w⟩ b)
    (hslot : b.vars.KeptIn b.plan.head.state mainSlot)
    (hresult : b.vars.KeptIn b.plan.head.state resultSlot) (name : String) :
    b.vars.KeptIn b.plan.head.state name := by
  by_cases hmain : Text.lower name = Text.lower mainSlot
  · rw [Variables.KeptIn, Variables.get?_congr _ hmain, Variables.get?_congr _ hmain]
    exact hslot
  · by_cases hgathered : Text.lower name = Text.lower resultSlot
    · rw [Variables.KeptIn, Variables.get?_congr _ hgathered, Variables.get?_congr _ hgathered]
      exact hresult
    · exact h.keptIn ⟨hmain, hgathered⟩ (Variables.keptIn_empty _ name)

/-! ### Pauses before anything is gathered -/

/-- The variables have nothing under a name that the state has nothing under. -/
theorem Next.get?_state_ne_none (h : Next scope cancellable limits a b) {name : String}
    (hname : Text.lower name ≠ Text.lower mainSlot)
    (hkept : a.vars.get? name ≠ none → a.plan.head.state.get? name ≠ none)
    (hvars : b.vars.get? name ≠ none) : b.plan.head.state.get? name ≠ none := by
  cases h with
  | @mk head head' past rest step left vars w after hattempt =>
      obtain ⟨answer, rfl⟩ := exists_answer_of_attemptWatched (by rw [hattempt])
      intro hnone
      have hnone : (head.commit answer step.outputs).state.get? name = none := hnone
      have hstate : head.state.get? name = none := by
        by_contra hstate
        exact PlanHead.get?_commit_ne_none answer (.inr (.inl hstate)) hnone
      have hcaller : (vars.merge head.state false).get? name = none := by
        rw [Variables.get?_merge, hstate, Option.or_none]
        by_contra hcaller
        exact hkept hcaller hstate
      refine hvars ?_
      rw [PlanHead.get?_publish, hnone, Variables.setInput, Variables.get?_set,
        if_neg (Ne.symm hname), hcaller, Option.or_none, ite_self]

theorem Next.keptIn_mainSlot (h : Next scope cancellable limits a b)
    (hnone : b.plan.head.state.get? resultSlot = none) :
    b.vars.KeptIn b.plan.head.state mainSlot := by
  cases h with
  | @mk head head' past rest step left vars w after hattempt =>
      obtain ⟨answer, rfl⟩ := exists_answer_of_attemptWatched (by rw [hattempt])
      have hnone : (head.commit answer step.outputs).state.get? resultSlot = none := hnone
      have hset : (head.commit answer step.outputs).state.get? mainSlot ≠ none :=
        PlanHead.get?_commit_ne_none answer (.inr (.inr rfl))
      obtain ⟨value, hvalue⟩ := Option.ne_none_iff_exists'.1 hset
      have hshown : (head.commit answer step.outputs).result = value := by
        rw [PlanHead.result, Variables.filled?, hnone, Variables.input, hvalue]
        rfl
      refine .inr (Eq.trans ?_ hvalue.symm)
      show ((head.commit answer step.outputs).publish _ _).get? mainSlot = some value
      rw [PlanHead.get?_publish, hshown, hvalue, Variables.setInput, Variables.get?_set_self,
        Option.or_self, ite_self]

/-- While `PLAN.RESULT` is not set in the state, the run may be stopped anywhere. -/
theorem After.keptIn_of_ungathered {k : Nat} (h : After scope cancellable limits k a b)
    (hslot : a.plan.head.state.get? resultSlot = none →
      a.vars.KeptIn a.plan.head.state mainSlot)
    (hresult : a.vars.get? resultSlot ≠ none → a.plan.head.state.get? resultSlot ≠ none)
    (hnone : b.plan.head.state.get? resultSlot = none) :
    b.vars.KeptIn b.plan.head.state mainSlot ∧ b.vars.KeptIn b.plan.head.state resultSlot := by
  induction h with
  | here a =>
      refine ⟨hslot hnone, .inl ?_⟩
      by_contra hvars
      exact hresult hvars hnone
  | next hnext _ ih =>
      have hne : Text.lower resultSlot ≠ Text.lower mainSlot := by decide +kernel
      exact ih hnext.keptIn_mainSlot (hnext.get?_state_ne_none hne hresult) hnone

/-! ### Stopping and going on -/

/-- **Going on from a pause.** Let a run that began with no variables have committed some steps,
with more to come, and let its variables have nothing in the main slot and under `PLAN.RESULT` but
what the state of the plan has there. Then nothing is lost if it is stopped: whoever goes on with
the plan and no variables makes the same attempts as the run would with its own, and comes to the
same end, whatever the world is by then. This is so for the plan as it is, and for the plan that
is read from its document, once it is given the time limit again that it had at all depths. -/
theorem resumed_from_pause (catalog : Catalog σ) {k : Nat} {p : Plan σ} {w : World σ}
    {stop : Pause σ} (hstop : after? scope cancellable limits k ⟨p, .empty, w⟩ = some stop)
    (hnext : stop.plan.hasNext = true)
    (hslot : stop.vars.KeptIn stop.plan.head.state mainSlot)
    (hresult : stop.vars.KeptIn stop.plan.head.state resultSlot) :
    let start : Visit σ := ⟨.drain cancellable .empty, scope, limits, w⟩
    let rest := stop.visit scope cancellable limits
    stop.plan.cursor = p.cursor + k ∧
      start.perform p = rest.perform stop.plan ∧
      (∃ earlier, start.attempts p = earlier ++ rest.attempts stop.plan) ∧
      (∀ scope' limits' w', w'.cancelled = true →
        run scope' true stop.plan stop.vars limits' w' = (.failed .cancelled, stop.plan, w')) ∧
      (∀ scope' cancellable' limits' w',
        let unbroken : Visit σ := ⟨.drain cancellable' stop.vars, scope', limits', w'⟩
        let again : Visit σ := ⟨.drain cancellable' .empty, scope', limits', w'⟩
        SameEnd (unbroken.perform stop.plan) (again.perform stop.plan) ∧
          again.attempts stop.plan = unbroken.attempts stop.plan) ∧
      (BoundBy catalog p →
        let restored := stop.plan.withTimeout none
        (Document.ofPlan stop.plan).toPlan (some catalog) = .ok restored ∧
          ∀ timeout, p.withTimeout timeout = p → restored.withTimeout timeout = stop.plan) := by
  intro start rest
  have hafter := after?_eq_some_iff.1 hstop
  obtain ⟨earlier, hleads, hattempts⟩ := hafter.exists_attempts
  have hget : (Variables.empty.merge stop.plan.head.state false).get? =
      (stop.vars.merge stop.plan.head.state false).get? := by
    funext name
    rw [Variables.get?_merge_of_keptIn (Variables.keptIn_empty _ name),
      Variables.get?_merge_of_keptIn (hafter.keptIn_all hslot hresult name)]
  refine ⟨hafter.cursor_eq, hafter.run_eq, ⟨earlier, hattempts⟩,
    fun _ _ _ hw => run_of_cancelled hnext hw, ?_, ?_⟩
  · intro scope' cancellable' limits' w' unbroken again
    refine ⟨sameEnd_run hnext hget, ?_⟩
    -- the journal is part of the world that is left
    have hnoted : SameEnd (unbroken.performNoted stop.plan []) (again.performNoted stop.plan []) :=
      sameEnd_run ((hasNext_noted stop.plan).trans hnext) (by rwa [head_noted])
    rw [Visit.attempts, Visit.attempts, hnoted.world_eq]
  · intro hbound
    have hleft : BoundBy catalog stop.plan :=
      hleads.of_moves (fun _ _ hmove hbefore => BoundBy.move hmove hbefore) hbound
    refine ⟨toPlan_ofPlan hleft, fun timeout htimeout => ?_⟩
    rw [withTimeout_withTimeout]
    exact hleads.withTimeout_eq htimeout

/-- A plan with a time limit that is stopped after its first step, by that step. -/
theorem resumed_from_pause_halfway :
    let mark : Function Unit := .native "text" "mark" "" [] fun _ vars => do
      Run.cancel
      pure (vars.append mainSlot "!")
    let catalog : Catalog Unit := (Catalog.empty.register mark).2
    let p := (ofSteps "goal" [(ofFunction mark).withOutputs ["x"],
      (ofFunction mark).withParameters [("input", "$x$x")]]).withTimeout (some 5)
    let scope : Scope Unit := fun _ _ => none
    ∃ stop, after? scope true .none 1 ⟨p, .empty, .start ()⟩ = some stop ∧
      stop.plan.hasNext = true ∧ stop.vars.KeptIn stop.plan.head.state mainSlot ∧
      stop.vars.KeptIn stop.plan.head.state resultSlot ∧ BoundBy catalog p ∧
      p.withTimeout (some 5) = p ∧
      run scope true p .empty .none (.start ()) = (.failed .cancelled, stop.plan, stop.world) ∧
      SameEnd (run scope false stop.plan stop.vars .none stop.world)
        (run scope false stop.plan .empty .none stop.world) ∧
      (run scope false stop.plan .empty .none stop.world).1.map Variables.input = .done "!!!" ∧
      (Document.ofPlan stop.plan).toPlan (some catalog) = .ok (stop.plan.withTimeout none) ∧
      (stop.plan.withTimeout none).withTimeout (some 5) = stop.plan := by
  intro mark catalog p scope
  have hfound : catalog.get? (some "text") "mark" = some mark :=
    Catalog.get?_register_of_answersTo _ ⟨rfl, rfl⟩
  have hbound : BoundBy catalog p := by
    refine BoundBy.withTimeout (.group (by simp) ?_) _
    intro step hstep
    rcases List.mem_pair.1 hstep with rfl | rfl
    · exact .call hfound
    · exact .call hfound
  have hlimit : p.withTimeout (some 5) = p := withTimeout_withTimeout _ _ _
  let stop := (after? scope true .none 1 ⟨p, .empty, .start ()⟩).get (by decide +kernel)
  have hstop : after? scope true .none 1 ⟨p, .empty, .start ()⟩ = some stop :=
    (Option.some_get _).symm
  have hnext : stop.plan.hasNext = true := by decide +kernel
  obtain ⟨hslot, hresult⟩ := (after?_eq_some_iff.1 hstop).keptIn_of_ungathered
    (fun _ => Variables.keptIn_empty _ _) nofun (by decide +kernel)
  have hup : stop.world.cancelled = true := by decide +kernel
  obtain ⟨-, hunbroken, -, hcancelled, hagain, hdocument⟩ :=
    resumed_from_pause catalog hstop hnext hslot hresult
  obtain ⟨hread, hrestored⟩ := hdocument hbound
  exact ⟨stop, hstop, hnext, hslot, hresult, hbound, hlimit,
    hunbroken.trans (hcancelled scope .none stop.world hup),
    (hagain scope false .none stop.world).1, by decide +kernel, hread, hrestored (some 5) hlimit⟩

/-- Four runs that forget when they are stopped and gone on with: what they had in the main slot,
what they had under `PLAN.RESULT`, the time limit, if the plan is stored in between, and what was
in the main slot within a group that was at work. -/
theorem forgotten_in_pause :
    let say (text : String) (quits : Bool) : Function Unit := .native "text" text "" []
      fun _ vars => do
        if quits then Run.cancel
        pure (vars.setInput text)
    let echo : Function Unit := .native "text" "echo" "" [] fun _ vars =>
      pure (vars.setInput ((vars.get? resultSlot).getD vars.input))
    let slow : Function Unit := .native "text" "slow" "" [] fun _ vars => do
      Run.sleep 5
      pure vars
    let catalog : Catalog Unit := ((Catalog.empty.register (say "a" true)).2.register slow).2
    let scope : Scope Unit := fun _ _ => none
    let unbroken (p : Plan Unit) := run scope false p .empty .none (.start ())
    let stopped (p : Plan Unit) := run scope true p .empty .none (.start ())
    let again (p : Plan Unit) := run scope false (stopped p).2.1 .empty .none (stopped p).2.2
    let gathering (output : String) (parameters : List (String × String)) : Plan Unit :=
      (ofSteps "goal" [(ofFunction (say "a" false)).withOutputs [output],
        (ofFunction (say "b" true)).withOutputs [output],
        ((ofFunction echo).withOutputs [output]).withParameters parameters]).withOutputs [output]
    let p := gathering "x" []
    let q := gathering "input" [("PLAN.RESULT", "")]
    let r := (ofSteps "goal" [ofFunction (say "a" true), ofFunction slow]).withTimeout (some 1)
    let restored := (Document.ofPlan (stopped r).2.1).toPlan (some catalog)
    let nested := ofSteps "goal" [ofFunction (say "x" false),
      ofSteps "inner" [ofFunction (say "a" true), ofFunction slow]]
    ((stopped p).1 = .failed .cancelled ∧ (stopped p).2.1.cursor = 2 ∧
        (unbroken p).1.map Variables.input = .done "a\nb\na\nb" ∧
        (again p).1.map Variables.input = .done "a\nb\nb") ∧
      ((stopped q).1 = .failed .cancelled ∧ (stopped q).2.1.cursor = 2 ∧
        (unbroken q).1.map Variables.input = .done "a" ∧
        (again q).1.map Variables.input = .done "a\nb") ∧
      ((stopped r).1 = .failed .cancelled ∧ (stopped r).2.1.cursor = 1 ∧
        (unbroken r).1 = .failed (.planStep "text.slow" (.timeout 1)) ∧
        restored.toOption.map (fun plan =>
          (run scope false plan .empty .none (stopped r).2.2).1.map Variables.input) =
            some (.done "a")) ∧
      ((stopped nested).1 = .failed .cancelled ∧ (stopped nested).2.1.cursor = 1 ∧
        (unbroken nested).1.map Variables.input = .done "a" ∧
        (again nested).1.map Variables.input = .done "x") := by
  refine ⟨⟨?_, ?_, ?_, ?_⟩, ⟨?_, ?_, ?_, ?_⟩, ⟨?_, ?_, ?_, ?_⟩, ?_, ?_, ?_, ?_⟩ <;> decide +kernel

end Pause

end PromptPlan
