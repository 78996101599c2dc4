import PromptPlan.Proofs.Plan.Pauses

/-!
# The course of a run

A run to the end commits steps, one after another, until it has no step left or a step comes to
nothing. So it goes from pause to pause (`Onward`), and what it ends with is decided by the last
of them (`Ending`): the variables as they were shown last if nothing is ahead, or else the end of
the attempt at the next step. A call that is no step is a plan of one step in this respect.

What a run keeps is proved for one step, and then holds at the last pause. What is needed of
the one step is that a step which is next was run and ended with an answer, that the answer was
taken into the state, and that the state was shown (`Taken`, `Onward.vars_eq`).
-/

namespace PromptPlan

variable {σ : Type}

namespace Plan

/-- The step that comes next; a call that is no step is its own. -/
def next? : Plan σ → Option (Plan σ)
  | .call head function finished => if finished then none else some (.call head function false)
  | .group _ _ ahead => ahead.head?

/-- The next step of a plan is run with the variables made for it, ends with an answer, and is
committed. -/
inductive Taken (p step : Plan σ) (answer : Variables) (q : Plan σ) : Prop
  | mk {scope : Scope σ} {caller : Variables} {limits : Limits} {left : Plan σ}
      {w after : World σ} :
      p.next? = some step →
      runWhole scope step (p.head.stepVariables caller step) (limits.within (limitFor p.head w)) w =
        (.done answer, left, after) →
      runNext scope caller p limits w = (.done (), q, after) → Taken p step answer q

theorem outputs_runWhole (scope : Scope σ) (step : Plan σ) (vars : Variables) (limits : Limits)
    (w : World σ) : (runWhole scope step vars limits w).2.1.outputs = step.outputs := by
  obtain ⟨attempts, hworks⟩ := exists_works_runWhole step (fun _ _ => none) [] vars limits w
  exact hworks.ran.outputs_eq

theorem outputs_attempt (scope : Scope σ) (h : PlanHead) (step : Plan σ) (caller : Variables)
    (limits : Limits) (w : World σ) :
    (h.attempt step (runWhole scope step) caller limits w).2.1.outputs = step.outputs := by
  rw [attempt_eq rfl]
  exact outputs_runWhole scope step _ _ w

theorem runNext_of_complete {p : Plan σ} (h : p.hasNext = false) (scope : Scope σ)
    (caller : Variables) (limits : Limits) (w : World σ) :
    runNext scope caller p limits w = (.done (), p, w) := by
  cases p with
  | call head function finished =>
      obtain rfl : finished = true := by simpa [hasNext] using h
      rfl
  | group head past ahead =>
      obtain rfl : ahead = [] := by simpa [hasNext] using h
      rfl

/-- A group that is run as a step is run to its end. -/
theorem runWhole_eq_run {step : Plan σ} (h : step.isCall = false) (scope : Scope σ) :
    runWhole scope step = run scope false step := by
  cases step with
  | call _ _ _ => cases h
  | group head past ahead => rfl

/-! ### Attempts that end with a value -/

variable {scope : Scope σ}

/-- An attempt that ends with a value has run the step with the variables made for it. -/
theorem exists_run_of_attempt {h h' : PlanHead} {step left : Plan σ}
    {invoke : Variables → PlanRun σ Variables} {caller : Variables} {limits : Limits}
    {w after : World σ} (hrun : h.attempt step invoke caller limits w = (.done h', left, after)) :
    ∃ answer, invoke (h.stepVariables caller step) (limits.within (limitFor h w)) w =
        (.done answer, left, after) ∧ h' = h.commit answer step.outputs := by
  rcases hinner : invoke (h.stepVariables caller step) (limits.within (limitFor h w)) w with
    ⟨exit, left', after'⟩
  rw [attempt_eq hinner] at hrun
  obtain ⟨hexit, rfl, rfl⟩ : _ ∧ left' = left ∧ after' = after := by simpa using hrun
  obtain ⟨answer, hanswer, rfl⟩ := Exit.map_eq_done hexit
  refine ⟨answer, ?_, rfl⟩
  cases exit with
  | done value => rw [Exit.done.inj hanswer]
  | failed e => cases hanswer
  | interrupted =>
      have hdone := Exit.isDone_expire (limitFor h w) after' (.interrupted : Exit Variables)
      rw [← Exit.isDone_mapError, hanswer] at hdone
      cases hdone
  | stuck => cases hanswer

/-- A watched attempt that ends with a value is an attempt in the world in which it begins. -/
theorem exists_attempt_of_attemptWatched {h h' : PlanHead} {cancellable : Bool}
    {step left : Plan σ} {invoke : Variables → PlanRun σ Variables} {caller : Variables}
    {limits : Limits} {w after : World σ}
    (hrun : h.attemptWatched cancellable step invoke caller limits w = (.done h', left, after)) :
    ∃ between, Begins cancellable limits w between ∧
      h.attempt step invoke caller (limits.watching cancellable) between =
        (.done h', left, after) := by
  rcases attemptWatched_cases h cancellable step invoke caller limits w with
    ⟨exit, after', _, hexit, hwatched⟩ |
    ⟨between, exit, left', after', cancelled, hbegins, hattempt, hwatched⟩
  · obtain rfl : exit = .done h' := congrArg Prod.fst (hwatched.symm.trans hrun)
    cases hexit
  · obtain ⟨hsettled, rfl, rfl⟩ : _ ∧ left' = left ∧ after' = after := by
      simpa [hwatched] using hrun
    obtain rfl := Exit.settle_eq_done.1 hsettled
    exact ⟨between, hbegins, hattempt⟩

/-- A step that is next ends with an answer if the attempt at it ends with a value. -/
theorem taken_of_attempt {p q step left : Plan σ} {head' : PlanHead} {caller : Variables}
    {limits : Limits} {w after : World σ} (hnext : p.next? = some step)
    (hattempt : p.head.attempt step (runWhole scope step) caller limits w =
      (.done head', left, after))
    (hrun : runNext scope caller p limits w = (.done (), q, after)) :
    ∃ answer, Taken p step answer q := by
  obtain ⟨answer, hinner, _⟩ := exists_run_of_attempt hattempt
  exact ⟨answer, .mk hnext hinner hrun⟩

theorem exists_taken_of_runNext {p q : Plan σ} {caller : Variables} {limits : Limits}
    {w after : World σ} (hnext : p.hasNext = true)
    (hrun : runNext scope caller p limits w = (.done (), q, after)) :
    ∃ step answer, Taken p step answer q := by
  cases p with
  | call head function finished =>
      cases finished with
      | true => cases hnext
      | false =>
          rcases hattempt : head.attempt (.call head function false)
            (runWhole scope (.call head function false)) caller limits w with ⟨exit, left, after'⟩
          have hran := hrun
          rw [runNext_call hattempt] at hran
          obtain ⟨hexit, rfl, rfl⟩ : _ ∧ selfAfter head function exit = q ∧ after' = after := by
            simpa using hran
          obtain ⟨head', rfl, _⟩ := Exit.map_eq_done hexit
          exact ⟨_, taken_of_attempt rfl hattempt hrun⟩
  | group head past ahead =>
      cases ahead with
      | nil => cases hnext
      | cons step rest =>
          rcases hattempt : head.attempt step (runWhole scope step) caller limits w with
            ⟨exit, left, after'⟩
          have hran := hrun
          rw [runNext_group hattempt] at hran
          obtain ⟨hexit, rfl, rfl⟩ :
              _ ∧ stepAfter head past rest left exit = q ∧ after' = after := by
            simpa using hran
          obtain ⟨head', rfl, _⟩ := Exit.map_eq_done hexit
          exact ⟨step, taken_of_attempt rfl hattempt hrun⟩

/-- What a plan is before and after its next step is committed. -/
theorem Taken.exists_eq {p step q : Plan σ} {answer : Variables} (h : Taken p step answer q) :
    (∃ head function, p = .call head function false ∧ step = .call head function false ∧
      q = .call (head.commit answer head.outputs) function true) ∨
    ∃ head past rest left, p = .group head past (step :: rest) ∧ left.outputs = step.outputs ∧
      q = .group (head.commit answer step.outputs) (past ++ [left]) rest := by
  obtain ⟨hnext, hinner, hrun⟩ := h
  cases p with
  | call head function finished =>
      cases finished with
      | true => cases hnext
      | false =>
          obtain rfl := Option.some.inj hnext
          rw [runNext_call (attempt_eq hinner)] at hrun
          cases hrun
          exact .inl ⟨head, function, rfl, rfl, rfl⟩
  | group head past ahead =>
      cases ahead with
      | nil => cases hnext
      | cons step' rest =>
          obtain rfl : step' = step := Option.some.inj hnext
          have houtputs := congrArg (fun ran => ran.2.1.outputs) hinner
          rw [outputs_runWhole] at houtputs
          rw [runNext_group (attempt_eq (h := head) hinner)] at hrun
          cases hrun
          exact .inr ⟨head, past, rest, _, rfl, houtputs.symm, rfl⟩

theorem Taken.next?_eq {p step q : Plan σ} {answer : Variables} (h : Taken p step answer q) :
    p.next? = some step := by
  obtain ⟨hnext, _, _⟩ := h
  exact hnext

theorem Taken.head_eq {p step q : Plan σ} {answer : Variables} (h : Taken p step answer q) :
    q.head = p.head.commit answer step.outputs := by
  rcases h.exists_eq with ⟨head, function, rfl, rfl, rfl⟩ | ⟨head, past, rest, left, rfl, _, rfl⟩
  · rfl
  · rfl

end Plan

namespace Pause

open Plan

variable {scope : Scope σ} {cancellable : Bool} {limits : Limits} {a b : Pause σ}

/-! ### From pause to pause -/

/-- From one pause to the next a step is committed, in a group or in a call that is no step. -/
inductive Onward (scope : Scope σ) (cancellable : Bool) (limits : Limits) :
    Pause σ → Pause σ → Prop
  | step {a b : Pause σ} :
      Next scope cancellable limits a b → Onward scope cancellable limits a b
  | self {head head' : PlanHead} {function : Option (Function σ)} {left : Plan σ}
      {vars : Variables} {w after : World σ} :
      head.attemptWatched cancellable (.call head function false)
        (runWhole scope (.call head function false)) (vars.merge head.state false) limits w =
          (.done head', left, after) →
        Onward scope cancellable limits ⟨.call head function false, vars, w⟩
          ⟨.call head' function true, head'.publish head'.outputs (vars.merge head.state false),
            after⟩

/-- From one pause to a later one. -/
abbrev Reaches (scope : Scope σ) (cancellable : Bool) (limits : Limits) :
    Pause σ → Pause σ → Prop :=
  Relation.ReflTransGen (Onward scope cancellable limits)

theorem Onward.taken (h : Onward scope cancellable limits a b) :
    ∃ step answer, Taken a.plan step answer b.plan := by
  cases h with
  | step h =>
      cases h with
      | mk hattempt =>
          obtain ⟨between, _, hattempt⟩ := exists_attempt_of_attemptWatched hattempt
          exact ⟨_, taken_of_attempt rfl hattempt (runNext_group hattempt)⟩
  | self hattempt =>
      obtain ⟨between, _, hattempt⟩ := exists_attempt_of_attemptWatched hattempt
      exact ⟨_, taken_of_attempt rfl hattempt (runNext_call hattempt)⟩

theorem Onward.declaredOutputs_eq (h : Onward scope cancellable limits a b) :
    b.plan.declaredOutputs = a.plan.declaredOutputs := by
  cases h with
  | step h => exact h.declaredOutputs_eq
  | self hattempt =>
      obtain ⟨answer, rfl⟩ := exists_answer_of_attemptWatched (by rw [hattempt])
      rfl

theorem Onward.vars_eq (h : Onward scope cancellable limits a b) :
    b.vars = b.plan.head.publish a.plan.declaredOutputs
      (a.vars.merge a.plan.head.state false) := by
  have hdeclared := h.declaredOutputs_eq
  cases h with
  | step h =>
      cases h with
      | mk hattempt => rfl
  | @self head head' function left vars w after hattempt =>
      have houtputs : (Plan.call head function false).declaredOutputs = head'.outputs := by
        rw [← hdeclared, declaredOutputs, steps, List.flatMap_nil, List.append_nil]
        rfl
      rw [houtputs]
      rfl

theorem Onward.run_eq (h : Onward scope cancellable limits a b) :
    run scope cancellable a.plan a.vars limits a.world =
      run scope cancellable b.plan b.vars limits b.world := by
  cases h with
  | step h => exact h.run_eq
  | self hattempt =>
      rw [run_call hattempt]
      rfl

theorem Reaches.run_eq (h : Reaches scope cancellable limits a b) :
    run scope cancellable a.plan a.vars limits a.world =
      run scope cancellable b.plan b.vars limits b.world := by
  induction h with
  | refl => rfl
  | tail _ hlast ih => rw [ih, hlast.run_eq]

theorem Reaches.declaredOutputs_eq (h : Reaches scope cancellable limits a b) :
    b.plan.declaredOutputs = a.plan.declaredOutputs := by
  induction h with
  | refl => rfl
  | tail _ hlast ih => rw [hlast.declaredOutputs_eq, ih]

/-! ### The last pause -/

/-- How a run ends that commits no more steps: with the variables of its caller if nothing is
ahead, or else as the attempt at the next step ends. -/
inductive Ending (scope : Scope σ) (cancellable : Bool) (limits : Limits) :
    Pause σ → Exit Variables × Plan σ × World σ → Prop
  | complete {a : Pause σ} : a.plan.hasNext = false →
      Ending scope cancellable limits a (.done a.vars, a.plan, a.world)
  | step {head : PlanHead} {past rest : List (Plan σ)} {step left : Plan σ} {vars : Variables}
      {w after : World σ} {exit : Exit PlanHead} :
      head.attemptWatched cancellable step (runWhole scope step) (vars.merge head.state false)
        limits w = (exit, left, after) → exit.isDone = false →
        Ending scope cancellable limits ⟨.group head past (step :: rest), vars, w⟩
          (exit.map fun _ => vars, .group head past (left :: rest), after)
  | self {head : PlanHead} {function : Option (Function σ)} {left : Plan σ} {vars : Variables}
      {w after : World σ} {exit : Exit PlanHead} :
      head.attemptWatched cancellable (.call head function false)
        (runWhole scope (.call head function false)) (vars.merge head.state false) limits w =
          (exit, left, after) → exit.isDone = false →
        Ending scope cancellable limits ⟨.call head function false, vars, w⟩
          (exit.map fun _ => vars, .call head function false, after)

/-- A run that commits no more steps leaves the plan as it is, or as the attempt at its next step
leaves it. -/
theorem Ending.left_eq {ran : Exit Variables × Plan σ × World σ}
    (h : Ending scope cancellable limits a ran) :
    ran.2.1 = a.plan ∨ ∃ caller limits' w',
      (runNext scope caller a.plan limits' w').1.isDone = false ∧
        (runNext scope caller a.plan limits' w').2.1 = ran.2.1 := by
  cases h with
  | complete _ => exact .inl rfl
  | @step head past rest step left vars w after exit hattempt hexit =>
      rcases attemptWatched_cases head cancellable step (runWhole scope step)
        (vars.merge head.state false) limits w with ⟨exit', after', _, _, hidle⟩ |
        ⟨between, exit', left', after', cancelled, _, hran, hwatched⟩
      · cases hidle.symm.trans hattempt
        exact .inl rfl
      · cases hwatched.symm.trans hattempt
        rw [Exit.isDone_settle] at hexit
        refine .inr ⟨vars.merge head.state false, limits.watching cancellable, between, ?_⟩
        rw [runNext_group hran, Exit.isDone_map, stepAfter_of_not_done hexit]
        exact ⟨hexit, rfl⟩
  | self _ _ => exact .inl rfl

theorem Ending.eq_of_isDone {ran : Exit Variables × Plan σ × World σ}
    (h : Ending scope cancellable limits a ran) (hdone : ran.1.isDone = true) :
    a.plan.hasNext = false ∧ ran = (.done a.vars, a.plan, a.world) := by
  cases h with
  | complete hnext => exact ⟨hnext, rfl⟩
  | step _ hexit =>
      rw [Exit.isDone_map, hexit] at hdone
      cases hdone
  | self _ hexit =>
      rw [Exit.isDone_map, hexit] at hdone
      cases hdone

/-- A run goes from pause to pause, and ends as it ends at the last of them. -/
theorem exists_ending (scope : Scope σ) (cancellable : Bool) (p : Plan σ) (vars : Variables)
    (limits : Limits) (w : World σ) :
    ∃ b, Reaches scope cancellable limits ⟨p, vars, w⟩ b ∧
      Ending scope cancellable limits b (run scope cancellable p vars limits w) := by
  cases p with
  | group head past ahead =>
      -- by induction on what is ahead: the first step is committed, or it ends the run
      induction ahead generalizing head past vars w with
      | nil => exact ⟨_, .refl, .complete rfl⟩
      | cons step rest ih =>
          rcases hattempt : head.attemptWatched cancellable step (runWhole scope step)
            (vars.merge head.state false) limits w with ⟨exit, left, after⟩
          cases hexit : exit.isDone with
          | false =>
              refine ⟨_, .refl, ?_⟩
              rw [run, runSteps_of_not_done hattempt hexit]
              exact .step hattempt hexit
          | true =>
              obtain ⟨head', rfl⟩ := Exit.isDone_iff.1 hexit
              have honward : Onward scope cancellable limits
                  ⟨.group head past (step :: rest), vars, w⟩ _ := .step (.mk hattempt)
              obtain ⟨b, hb, hending⟩ := ih _ after head' (past ++ [left])
              rw [honward.run_eq]
              exact ⟨b, .head honward hb, hending⟩
  | call head function finished =>
      cases finished with
      | true => exact ⟨_, .refl, .complete rfl⟩
      | false =>
          rcases hattempt : head.attemptWatched cancellable (.call head function false)
            (runWhole scope (.call head function false)) (vars.merge head.state false) limits w
            with ⟨exit, left, after⟩
          cases hexit : exit.isDone with
          | false =>
              refine ⟨_, .refl, ?_⟩
              have hrun := run_call hattempt
              rw [selfAfter_of_not_done hexit, Exit.map_congr_of_not_done hexit _ fun _ => vars]
                at hrun
              rw [hrun]
              exact .self hattempt hexit
          | true =>
              obtain ⟨head', rfl⟩ := Exit.isDone_iff.1 hexit
              have honward : Onward scope cancellable limits _ _ := .self hattempt
              rw [honward.run_eq]
              exact ⟨_, .single honward, .complete rfl⟩

/-- A run that ends with a value has committed all steps, and gives what was shown last. -/
theorem exists_reaches_of_run_done {p left : Plan σ} {vars vars' : Variables} {w after : World σ}
    (h : run scope cancellable p vars limits w = (.done vars', left, after)) :
    Reaches scope cancellable limits ⟨p, vars, w⟩ ⟨left, vars', after⟩ ∧ left.hasNext = false := by
  obtain ⟨b, hreaches, hending⟩ := exists_ending scope cancellable p vars limits w
  rw [h] at hending
  obtain ⟨hnext, hran⟩ := hending.eq_of_isDone rfl
  cases hran
  exact ⟨hreaches, hnext⟩

end Pause

end PromptPlan
