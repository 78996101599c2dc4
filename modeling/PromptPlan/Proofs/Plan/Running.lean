import PromptPlan.Plan.Execution

/-!
# How a run of a plan begins and goes on

An attempt at a step is the run of the step under the time limit of the plan, and what a
plan does is decided by how the attempt at its first step ahead ends. If it ends with a
value, the step is committed and the plan goes on; if not, the plan keeps the step as the
attempt left it and ends in the same way. There is an equation for each way to run a plan,
given how the attempt ended, so that no proof has to look into the definitions again.
-/

namespace PromptPlan

variable {σ α β : Type}

namespace Exit

/-- Whether a run ended with a value. -/
def isDone : Exit α → Bool
  | .done _ => true
  | _ => false

theorem isDone_iff {exit : Exit α} : exit.isDone = true ↔ ∃ a, exit = .done a := by
  cases exit <;> simp [isDone]

@[simp] theorem isDone_map (f : α → β) (exit : Exit α) : (exit.map f).isDone = exit.isDone := by
  cases exit <;> rfl

theorem map_map {γ : Type} (f : α → β) (g : β → γ) (exit : Exit α) :
    (exit.map f).map g = exit.map fun a => g (f a) := by
  cases exit <;> rfl

theorem map_mapError (f : α → β) (g : Error → Error) (exit : Exit α) :
    (exit.mapError g).map f = (exit.map f).mapError g := by
  cases exit <;> rfl

theorem map_eq_self {f : α → α} {exit : Exit α} (h : ∀ a, exit = .done a → f a = a) :
    exit.map f = exit := by
  cases exit with
  | done a => exact congrArg done (h a rfl)
  | _ => rfl

/-- What becomes of a value does not matter to a run that ends with none. -/
theorem map_congr_of_not_done {exit : Exit α} (h : exit.isDone = false) (f g : α → β) :
    exit.map f = exit.map g := by
  cases exit with
  | done _ => cases h
  | _ => rfl

theorem map_eq_done {f : α → β} {exit : Exit α} {b : β} (h : exit.map f = .done b) :
    ∃ a, exit = .done a ∧ f a = b := by
  cases exit with
  | done a => exact ⟨a, rfl, done.inj h⟩
  | failed e => cases h
  | interrupted => cases h
  | stuck => cases h

@[simp] theorem isDone_mapError (f : Error → Error) (exit : Exit α) :
    (exit.mapError f).isDone = exit.isDone := by
  cases exit <;> rfl

@[simp] theorem isDone_expire (limit : Option TimeLimit) (w : World σ) (exit : Exit α) :
    (exit.expire limit w).isDone = exit.isDone := by
  cases exit with
  | interrupted =>
      cases limit with
      | none => rfl
      | some limit =>
          rw [expire]
          split <;> rfl
  | _ => rfl

theorem settle_eq_done {cancelled : Bool} {exit : Exit α} {a : α} :
    exit.settle cancelled = .done a ↔ exit = .done a := by
  cases exit with
  | interrupted => cases cancelled <;> simp [settle]
  | _ => simp [settle]

theorem settle_map (f : α → β) (cancelled : Bool) (exit : Exit α) :
    (exit.map f).settle cancelled = (exit.settle cancelled).map f := by
  cases exit with
  | interrupted => cases cancelled <;> rfl
  | _ => rfl

@[simp] theorem isDone_settle (cancelled : Bool) (exit : Exit α) :
    (exit.settle cancelled).isDone = exit.isDone := by
  cases exit with
  | interrupted => cases cancelled <;> rfl
  | _ => rfl

end Exit

namespace Plan

variable {scope : Scope σ}

/-! ### Attempts -/

/-- The time limit for a step of a plan that begins now. -/
def limitFor (h : PlanHead) (w : World σ) : Option TimeLimit :=
  h.timeout.map (.set w)

theorem attempt_eq {h : PlanHead} {step : Plan σ} {invoke : Variables → PlanRun σ Variables}
    {caller : Variables} {limits : Limits} {w after : World σ} {exit : Exit Variables}
    {left : Plan σ}
    (hrun : invoke (h.stepVariables caller step) (limits.within (limitFor h w)) w =
      (exit, left, after)) :
    h.attempt step invoke caller limits w =
      (((exit.expire (limitFor h w) after).mapError (.planStep step.qualifiedName)).map
        fun answer => h.commit answer step.outputs, left, after) := by
  rw [limitFor] at hrun
  simp only [PlanHead.attempt, hrun, limitFor]

/-- The head after an attempt that ended with a value has an answer in its state. -/
theorem exists_answer_of_attempt {h h' : PlanHead} {step : Plan σ}
    {invoke : Variables → PlanRun σ Variables} {caller : Variables} {limits : Limits}
    {w : World σ} (hdone : (h.attempt step invoke caller limits w).1 = .done h') :
    ∃ answer, h' = h.commit answer step.outputs := by
  rcases hrun : invoke (h.stepVariables caller step) (limits.within (limitFor h w)) w with
    ⟨exit, left, after⟩
  rw [attempt_eq hrun] at hdone
  obtain ⟨answer, _, hanswer⟩ := Exit.map_eq_done hdone
  exact ⟨answer, hanswer.symm⟩

/-- Attempts that are the same are the same when the flag is watched. -/
theorem attemptWatched_congr {h : PlanHead} {step : Plan σ}
    {invoke invoke' : Variables → PlanRun σ Variables} {caller caller' : Variables}
    (hattempt : h.attempt step invoke caller = h.attempt step invoke' caller')
    (cancellable : Bool) :
    h.attemptWatched cancellable step invoke caller =
      h.attemptWatched cancellable step invoke' caller' := by
  funext limits w
  rw [PlanHead.attemptWatched, PlanHead.attemptWatched, hattempt]

theorem attemptWatched_of_cancelled {h : PlanHead} {step : Plan σ}
    {invoke : Variables → PlanRun σ Variables} {caller : Variables} {limits : Limits}
    {w : World σ} (hw : w.cancelled = true) :
    h.attemptWatched true step invoke caller limits w = (.failed .cancelled, step, w) := by
  simp [PlanHead.attemptWatched, hw]

theorem attemptWatched_of_no_room {h : PlanHead} {step : Plan σ}
    {invoke : Variables → PlanRun σ Variables} {caller : Variables} {limits : Limits}
    {w after : World σ} {exit : Exit Unit} (hw : w.cancelled = false)
    (hroom : Run.makeRoom limits w = (exit, after)) (hexit : exit.isDone = false) :
    h.attemptWatched true step invoke caller limits w =
      (exit.map fun _ => h, step, after) := by
  simp only [PlanHead.attemptWatched, hw, hroom]
  cases exit with
  | done _ => cases hexit
  | _ => rfl

theorem attemptWatched_of_room {h : PlanHead} {step left : Plan σ}
    {invoke : Variables → PlanRun σ Variables} {caller : Variables} {limits : Limits}
    {w between after : World σ} {exit : Exit PlanHead} (hw : w.cancelled = false)
    (hroom : Run.makeRoom limits w = (.done (), between))
    (hrun : h.attempt step invoke caller (limits.watching true) between = (exit, left, after)) :
    h.attemptWatched true step invoke caller limits w =
      (exit.settle after.cancelled, left, after) := by
  simp only [PlanHead.attemptWatched, hw, hroom, hrun]
  rfl

/-- A step begins between two worlds: at once, or in a cancellable run in a turn with room
and with the flag down. -/
def Begins (cancellable : Bool) (limits : Limits) (w between : World σ) : Prop :=
  if cancellable then w.cancelled = false ∧ Run.makeRoom limits w = (.done (), between)
  else between = w

/-- A watched attempt either does not begin or is an attempt in the world in which it
begins. -/
theorem attemptWatched_cases (h : PlanHead) (cancellable : Bool) (step : Plan σ)
    (invoke : Variables → PlanRun σ Variables) (caller : Variables) (limits : Limits)
    (w : World σ) :
    (∃ exit after, cancellable = true ∧ exit.isDone = false ∧
      h.attemptWatched cancellable step invoke caller limits w = (exit, step, after)) ∨
    ∃ between exit left after cancelled, Begins cancellable limits w between ∧
      h.attempt step invoke caller (limits.watching cancellable) between =
        (exit, left, after) ∧
      h.attemptWatched cancellable step invoke caller limits w =
        (exit.settle cancelled, left, after) := by
  cases cancellable with
  | false =>
      rcases hrun : h.attempt step invoke caller limits w with ⟨exit, left, after⟩
      refine .inr ⟨w, exit, left, after, false, rfl, ?_, ?_⟩
      · rw [Limits.watching_false, hrun]
      · rw [PlanHead.attemptWatched_false, hrun]
        cases exit <;> rfl
  | true =>
      cases hw : w.cancelled with
      | true => exact .inl ⟨_, _, rfl, rfl, attemptWatched_of_cancelled hw⟩
      | false =>
          rcases hroom : Run.makeRoom limits w with ⟨exit, between⟩
          cases hexit : exit.isDone with
          | false =>
              refine .inl ⟨_, _, rfl, ?_, attemptWatched_of_no_room hw hroom hexit⟩
              rw [Exit.isDone_map, hexit]
          | true =>
              obtain ⟨⟨⟩, rfl⟩ := Exit.isDone_iff.1 hexit
              exact .inr ⟨_, _, _, _, _, ⟨hw, hroom⟩, rfl, attemptWatched_of_room hw hroom rfl⟩

theorem exists_answer_of_attemptWatched {h h' : PlanHead} {cancellable : Bool} {step : Plan σ}
    {invoke : Variables → PlanRun σ Variables} {caller : Variables} {limits : Limits}
    {w : World σ}
    (hdone : (h.attemptWatched cancellable step invoke caller limits w).1 = .done h') :
    ∃ answer, h' = h.commit answer step.outputs := by
  rcases attemptWatched_cases h cancellable step invoke caller limits w with
    ⟨exit, after, _, hexit, hrun⟩ | ⟨between, exit, left, after, cancelled, _, hrun, hwatched⟩
  · obtain rfl : exit = .done h' := by rw [← hdone, hrun]
    cases hexit
  · rw [hwatched] at hdone
    exact exists_answer_of_attempt (by rw [hrun]; exact Exit.settle_eq_done.1 hdone)

/-! ### Runs -/

theorem runSteps_of_done {cancellable : Bool} {declared : List String} {head head' : PlanHead}
    {past rest : List (Plan σ)} {step left : Plan σ} {vars : Variables} {limits : Limits}
    {w after : World σ}
    (h : head.attemptWatched cancellable step (runWhole scope step)
      (vars.merge head.state false) limits w = (.done head', left, after)) :
    runSteps scope cancellable declared head past (step :: rest) vars limits w =
      runSteps scope cancellable declared head' (past ++ [left]) rest
        (head'.publish declared (vars.merge head.state false)) limits after := by
  rw [runSteps]
  simp only [h]

theorem runSteps_of_not_done {cancellable : Bool} {declared : List String} {head : PlanHead}
    {past rest : List (Plan σ)} {step left : Plan σ} {vars : Variables} {limits : Limits}
    {w after : World σ} {exit : Exit PlanHead}
    (h : head.attemptWatched cancellable step (runWhole scope step)
      (vars.merge head.state false) limits w = (exit, left, after))
    (hexit : exit.isDone = false) :
    runSteps scope cancellable declared head past (step :: rest) vars limits w =
      (exit.map fun _ => vars, .group head past (left :: rest), after) := by
  rw [runSteps]
  simp only [h]
  cases exit with
  | done _ => cases hexit
  | _ => rfl

/-- A call that is no step, after an attempt at it. -/
def selfAfter (head : PlanHead) (function : Option (Function σ)) : Exit PlanHead → Plan σ
  | .done head' => .call head' function true
  | _ => .call head function false

/-- A group after an attempt at its next step that left it as `left`. -/
def stepAfter (head : PlanHead) (past rest : List (Plan σ)) (left : Plan σ) :
    Exit PlanHead → Plan σ
  | .done head' => .group head' (past ++ [left]) rest
  | _ => .group head past (left :: rest)

theorem selfAfter_of_not_done {exit : Exit PlanHead} (h : exit.isDone = false)
    (head : PlanHead) (function : Option (Function σ)) :
    selfAfter head function exit = .call head function false := by
  cases exit with
  | done _ => cases h
  | _ => rfl

theorem stepAfter_of_not_done {exit : Exit PlanHead} (h : exit.isDone = false)
    (head : PlanHead) (past rest : List (Plan σ)) (left : Plan σ) :
    stepAfter head past rest left exit = .group head past (left :: rest) := by
  cases exit with
  | done _ => cases h
  | _ => rfl

theorem run_call {cancellable : Bool} {head : PlanHead} {function : Option (Function σ)}
    {left : Plan σ} {vars : Variables} {limits : Limits} {w after : World σ}
    {exit : Exit PlanHead}
    (h : head.attemptWatched cancellable (.call head function false)
      (runWhole scope (.call head function false)) (vars.merge head.state false) limits w =
        (exit, left, after)) :
    run scope cancellable (.call head function false) vars limits w =
      (exit.map fun head' => head'.publish head'.outputs (vars.merge head.state false),
        selfAfter head function exit, after) := by
  cases exit <;> simp [run, h, Exit.map, selfAfter]

theorem runNext_call {head : PlanHead} {function : Option (Function σ)} {left : Plan σ}
    {caller : Variables} {limits : Limits} {w after : World σ} {exit : Exit PlanHead}
    (h : head.attempt (.call head function false) (runWhole scope (.call head function false))
      caller limits w = (exit, left, after)) :
    runNext scope caller (.call head function false) limits w =
      (exit.map fun _ => (), selfAfter head function exit, after) := by
  cases exit <;> simp [runNext, h, Exit.map, selfAfter]

theorem runNext_group {head : PlanHead} {past rest : List (Plan σ)} {step left : Plan σ}
    {caller : Variables} {limits : Limits} {w after : World σ} {exit : Exit PlanHead}
    (h : head.attempt step (runWhole scope step) caller limits w = (exit, left, after)) :
    runNext scope caller (.group head past (step :: rest)) limits w =
      (exit.map fun _ => (), stepAfter head past rest left exit, after) := by
  cases exit <;> simp [runNext, h, Exit.map, stepAfter]

end Plan

end PromptPlan
