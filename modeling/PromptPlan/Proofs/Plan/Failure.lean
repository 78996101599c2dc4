import PromptPlan.Proofs.Plan.Positions
import PromptPlan.Proofs.Plan.Running

/-!
# What a failure leaves behind

A step may fail for many reasons: its function fails or is missing, its time runs out, or
the run is cancelled while it waits. Nothing is taken back in any of these cases, and nothing
has to be, because the plan is written to only when the step has ended with a value. So the
plan is spared (`Spared`), and what the step itself has become is all there is to say.

A call stays as it is. A group that is run as a step is a run of its own: it commits steps,
one after another, until one of them fails, and what it has committed stays. A `Failure` is
the derivation of what is left in this way, down to the call that failed, and `Halted` is the
same of a run of all that is ahead. Both follow the run itself: the limits, the worlds and
the variables of the caller are those under which each step was in fact attempted.
-/

namespace PromptPlan.Plan

variable {σ : Type} {scope : Scope σ}

/-- The outputs that a plan or one of its steps declares. -/
def declaredOutputs (p : Plan σ) : List String :=
  p.outputs ++ p.steps.flatMap outputs

mutual

/-- A run of the next step of a plan that does not end with a value, from one world to
another, and the plan that it leaves. -/
inductive Failure (scope : Scope σ) :
    Variables → Limits → Plan σ → World σ → Plan σ → World σ → Prop
  /-- A call that is no step. -/
  | self {caller : Variables} {limits : Limits} {head : PlanHead}
      {function : Option (Function σ)} {w after : World σ} :
      Failure scope caller limits (.call head function false) w (.call head function false) after
  | call {caller : Variables} {limits : Limits} {head : PlanHead} {past rest : List (Plan σ)}
      {step : Plan σ} {w after : World σ} : step.isCall = true →
        Failure scope caller limits (.group head past (step :: rest)) w
          (.group head past (step :: rest)) after
  /-- The step is a group, and is left as its own run left it. -/
  | group {caller : Variables} {limits : Limits} {head : PlanHead} {past rest : List (Plan σ)}
      {step left : Plan σ} {w after : World σ} : step.isCall = false →
        Halted scope false (limits.within (limitFor head w)) step.declaredOutputs step
          (head.stepVariables caller step) w left after →
        Failure scope caller limits (.group head past (step :: rest)) w
          (.group head past (left :: rest)) after

/-- A run of all that is ahead in a plan that does not end with a value. -/
inductive Halted (scope : Scope σ) : Bool → Limits → List String → Plan σ → Variables →
    World σ → Plan σ → World σ → Prop
  /-- The next step does not begin, which happens in cancellable runs only. -/
  | idle {limits : Limits} {declared : List String} {p : Plan σ} {vars : Variables}
      {w after : World σ} : Halted scope true limits declared p vars w p after
  | failed {cancellable : Bool} {limits : Limits} {declared : List String} {p left : Plan σ}
      {vars : Variables} {w between after : World σ} {exit : Exit Unit} :
      Begins cancellable limits w between →
      runNext scope (vars.merge p.head.state false) p (limits.watching cancellable) between =
        (exit, left, after) → exit.isDone = false →
      Failure scope (vars.merge p.head.state false) (limits.watching cancellable) p between left
        after →
        Halted scope cancellable limits declared p vars w left after
  /-- The next step is committed, and the rest halts. -/
  | committed {cancellable : Bool} {limits : Limits} {declared : List String}
      {p next left : Plan σ} {vars : Variables} {w between mid after : World σ} :
      Begins cancellable limits w between → p.hasNext = true →
      runNext scope (vars.merge p.head.state false) p (limits.watching cancellable) between =
        (.done (), next, mid) →
      Halted scope cancellable limits declared next
        (next.head.publish declared (vars.merge p.head.state false)) mid left after →
        Halted scope cancellable limits declared p vars w left after

end

/-! ### What is spared -/

/-- What a plan has kept, whatever else has changed: everything, except that the step at the
cursor may be another one if it is a group. -/
structure Spared (p left : Plan σ) : Prop where
  head_eq : left.head = p.head
  cursor_eq : left.cursor = p.cursor
  stepCount_eq : left.stepCount = p.stepCount
  steps_eq : ∀ i, i ≠ p.cursor → left.steps[i]? = p.steps[i]?
  of_call : p.isCall = true → left = p
  of_step_call : ∀ step, p.steps[p.cursor]? = some step → step.isCall = true → left = p

theorem Spared.refl (p : Plan σ) : Spared p p :=
  ⟨rfl, rfl, rfl, fun _ _ => rfl, fun _ => rfl, fun _ _ _ => rfl⟩

theorem Failure.spared {caller : Variables} {limits : Limits} {p left : Plan σ}
    {w after : World σ} (h : Failure scope caller limits p w left after) : Spared p left := by
  cases h with
  | self => exact .refl _
  | call _ => exact .refl _
  | @group _ _ head past rest step left _ _ hgroup _ =>
      refine ⟨rfl, rfl, rfl, fun i hi => getElem?_steps_of_ne head past rest step left hi, nofun,
        fun step' hstep hcall => ?_⟩
      obtain rfl : step = step' :=
        Option.some.inj ((getElem?_steps_group head past rest step).symm.trans hstep)
      rw [hgroup] at hcall
      cases hcall

/-! ### Failures of runs -/

/-- What a run of a step that does not end with a value comes to: a call is left as it is,
and a group halts. -/
def Fails (scope : Scope σ) (step : Plan σ) : Prop :=
  ∀ vars limits w, (runWhole scope step vars limits w).1.isDone = false →
    (step.isCall = true ∧ (runWhole scope step vars limits w).2.1 = step) ∨
      (step.isCall = false ∧ Halted scope false limits step.declaredOutputs step vars w
        (runWhole scope step vars limits w).2.1 (runWhole scope step vars limits w).2.2)

theorem Fails.of_attempt {head : PlanHead} {step left : Plan σ} {caller : Variables}
    {limits : Limits} {w after : World σ} {exit : Exit PlanHead} (hstep : Fails scope step)
    (hrun : head.attempt step (runWhole scope step) caller limits w = (exit, left, after))
    (hexit : exit.isDone = false) (past rest : List (Plan σ)) :
    Failure scope caller limits (.group head past (step :: rest)) w
      (.group head past (left :: rest)) after := by
  have hinner := hstep (head.stepVariables caller step) (limits.within (limitFor head w)) w
  rcases hwhole : runWhole scope step (head.stepVariables caller step)
    (limits.within (limitFor head w)) w with ⟨ended, left', after'⟩
  rw [hwhole] at hinner
  rw [attempt_eq hwhole] at hrun
  obtain ⟨rfl, rfl, rfl⟩ : _ = exit ∧ left' = left ∧ after' = after := by simpa using hrun
  rw [Exit.isDone_map, Exit.isDone_mapError, Exit.isDone_expire] at hexit
  rcases hinner hexit with ⟨hcall, rfl⟩ | ⟨hgroup, hhalted⟩
  · exact .call hcall
  · exact .group hgroup hhalted

theorem halted_runSteps {ahead : List (Plan σ)} (hsteps : ∀ step ∈ ahead, Fails scope step)
    {cancellable : Bool} {declared : List String} {head : PlanHead} {past : List (Plan σ)}
    {vars : Variables} {limits : Limits} {w : World σ}
    (h : (runSteps scope cancellable declared head past ahead vars limits w).1.isDone = false) :
    Halted scope cancellable limits declared (.group head past ahead) vars w
      (runSteps scope cancellable declared head past ahead vars limits w).2.1
      (runSteps scope cancellable declared head past ahead vars limits w).2.2 := by
  induction ahead generalizing head past vars w with
  | nil =>
      rw [runSteps] at h
      cases h
  | cons step rest ih =>
      have hstep := hsteps step (by simp)
      -- a step that does not begin, one that fails, and one that is committed
      rcases attemptWatched_cases head cancellable step (runWhole scope step)
          (vars.merge head.state false) limits w with
        ⟨exit, after, rfl, hexit, hwatched⟩ |
        ⟨between, exit, left, after, cancelled, hbegins, hattempt, hwatched⟩
      · rw [runSteps_of_not_done hwatched hexit]
        exact .idle
      · cases hexit : exit.isDone with
        | false =>
            have hsettled : (exit.settle cancelled).isDone = false := by
              rw [Exit.isDone_settle, hexit]
            rw [runSteps_of_not_done hwatched hsettled]
            have hnext : runNext scope _ (.group head past (step :: rest)) _ _ = _ :=
              runNext_group hattempt
            rw [stepAfter_of_not_done hexit] at hnext
            refine .failed hbegins hnext ?_ (hstep.of_attempt hattempt hexit past rest)
            rw [Exit.isDone_map, hexit]
        | true =>
            obtain ⟨head', rfl⟩ := Exit.isDone_iff.1 hexit
            rw [runSteps_of_done hwatched] at h ⊢
            exact .committed hbegins rfl (runNext_group hattempt)
              (ih (fun s hs => hsteps s (by simp [hs])) h)

theorem fails (step : Plan σ) : Fails scope step := by
  induction step using steps_induction with
  | call head function finished =>
      intro vars limits w _
      rw [runWhole]
      exact .inl ⟨rfl, rfl⟩
  | group head past ahead _ ih =>
      intro vars limits w h
      rw [runWhole] at h ⊢
      exact .inr ⟨rfl, halted_runSteps ih h⟩

theorem failure_of_runNext {p : Plan σ} {caller : Variables} {limits : Limits} {w : World σ}
    (h : (runNext scope caller p limits w).1.isDone = false) :
    Failure scope caller limits p w (runNext scope caller p limits w).2.1
      (runNext scope caller p limits w).2.2 := by
  cases p with
  | call head function finished =>
      cases finished with
      | true => cases h
      | false =>
          rcases hattempt : head.attempt (.call head function false)
            (runWhole scope (.call head function false)) caller limits w with ⟨exit, left, after⟩
          rw [runNext_call hattempt, Exit.isDone_map] at h
          rw [runNext_call hattempt, selfAfter_of_not_done h]
          exact .self
  | group head past ahead =>
      cases ahead with
      | nil => cases h
      | cons step rest =>
          rcases hattempt : head.attempt step (runWhole scope step) caller limits w with
            ⟨exit, left, after⟩
          rw [runNext_group hattempt, Exit.isDone_map] at h
          rw [runNext_group hattempt, stepAfter_of_not_done h]
          exact (fails step).of_attempt hattempt h past rest

theorem halted_run {p : Plan σ} {cancellable : Bool} {vars : Variables} {limits : Limits}
    {w : World σ} (h : (run scope cancellable p vars limits w).1.isDone = false) :
    Halted scope cancellable limits p.declaredOutputs p vars w
      (run scope cancellable p vars limits w).2.1
      (run scope cancellable p vars limits w).2.2 := by
  cases p with
  | group head past ahead =>
      rw [run] at h ⊢
      exact halted_runSteps (fun step _ => fails step) h
  | call head function finished =>
      cases finished with
      | true =>
          rw [run] at h
          cases h
      | false =>
          rcases attemptWatched_cases head cancellable (.call head function false)
              (runWhole scope (.call head function false)) (vars.merge head.state false) limits
              w with
            ⟨exit, after, rfl, hexit, hwatched⟩ |
            ⟨between, exit, left, after, cancelled, hbegins, hattempt, hwatched⟩
          · rw [run_call hwatched, selfAfter_of_not_done hexit]
            exact .idle
          · rw [run_call hwatched, Exit.isDone_map] at h
            have hexit : exit.isDone = false := by
              rwa [Exit.isDone_settle] at h
            rw [run_call hwatched, selfAfter_of_not_done h]
            have hnext := runNext_call hattempt
            rw [selfAfter_of_not_done hexit] at hnext
            refine .failed hbegins hnext ?_ .self
            rw [Exit.isDone_map, hexit]

/-- **What a failure leaves.** A run of the next step that does not end with a value spares
the plan, and what it leaves is that of a failure. A run to the end that does not end with a
value, cancelled or not, has committed steps one after another, and then a failure or nothing
comes. A failure spares the plan it is about wherever it occurs in another one. -/
theorem left_by_failure (scope : Scope σ) (p : Plan σ) (limits : Limits) (w : World σ) :
    (∀ caller, (runNext scope caller p limits w).1.isDone = false →
      Spared p (runNext scope caller p limits w).2.1 ∧
        Failure scope caller limits p w (runNext scope caller p limits w).2.1
          (runNext scope caller p limits w).2.2) ∧
      (∀ cancellable vars, (run scope cancellable p vars limits w).1.isDone = false →
        Halted scope cancellable limits p.declaredOutputs p vars w
          (run scope cancellable p vars limits w).2.1
          (run scope cancellable p vars limits w).2.2) ∧
      ∀ caller limits p w left after,
        Failure scope caller limits p w left after → Spared p left := by
  refine ⟨fun caller h => ?_, fun cancellable vars h => halted_run h,
    fun _ _ _ _ _ _ => Failure.spared⟩
  have hfailure := failure_of_runNext h
  exact ⟨hfailure.spared, hfailure⟩

/-- A group that fails halfway, as a step and when its plan is run to the end. -/
theorem left_by_failure_halfway :
    let good : Function Unit := .bare "" "good" "" fun _ vars => pure vars
    let bad : Function Unit := .bare "" "bad" "" fun _ _ => .fail .cancelled
    let inner := ofSteps "inner" [ofFunction good, ofFunction bad]
    let p := ofSteps "outer" [inner, ofFunction good]
    let ran := runNext (fun _ _ => none) .empty p .none (.start ())
    let drained := run (fun _ _ => none) true p .empty .none (.start ())
    ran.1.isDone = false ∧ ran.2.1.steps.map cursor = [1, 0] ∧ drained.1.isDone = false ∧
      (Spared p ran.2.1 ∧
        Failure (fun _ _ => none) .empty .none p (.start ()) ran.2.1 ran.2.2) ∧
      Halted (fun _ _ => none) true .none p.declaredOutputs p .empty (.start ()) drained.2.1
        drained.2.2 := by
  intro good bad inner p ran drained
  have hran : ran.1.isDone = false := by decide +kernel
  have hdrained : drained.1.isDone = false := by decide +kernel
  have h := left_by_failure (fun _ _ => none) p .none (.start ())
  exact ⟨hran, by decide +kernel, hdrained, h.1 .empty hran, h.2.1 true .empty hdrained⟩

end PromptPlan.Plan
