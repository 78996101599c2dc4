import PromptPlan.Plan.Basic

/-!
# Running plans

A plan is run one step at a time. A step that is a group is run to its end as one step, and if
it fails halfway, what it got done stays done, so that a later attempt goes on from there. This
is why running a plan returns the plan as well, however it ends.
-/

namespace PromptPlan

/-- A computation that ends in some way and leaves a plan behind. -/
abbrev PlanRun (σ α : Type) : Type :=
  Limits → World σ → Exit α × Plan σ × World σ

def callStep {σ : Type} (scope : Scope σ) (function : Option (Function σ)) (name : String)
    (vars : Variables) : Run σ Variables :=
  match function with
  | some f => (f.body scope vars).mapError (·.inFunction name)
  | none =>
    .fail (.unknownFunction name (some "Plan step is not bound to a registered function"))

/-- Attempts a step: runs it with its variables under the time limit, and takes its answer
into the state. Gives the head afterwards and the step as the attempt left it. -/
def PlanHead.attempt {σ : Type} (h : PlanHead) (step : Plan σ)
    (invoke : Variables → PlanRun σ Variables) (caller : Variables) : PlanRun σ PlanHead :=
  fun limits w =>
    -- The limit is that of the plan, not of the step.
    let limit := h.timeout.map (.set w)
    let (exit, left, w) := invoke (h.stepVariables caller step) (limits.within limit) w
    let exit := (exit.expire limit w).mapError (.planStep step.qualifiedName)
    (exit.map fun answer => h.commit answer step.outputs, left, w)

/-- The end of what was watched: an interruption by the flag is a failure. -/
def Exit.settle {α : Type} (cancelled : Bool) : Exit α → Exit α
  | .interrupted => if cancelled then .failed .cancelled else .interrupted
  | exit => exit

def PlanHead.attemptWatched {σ : Type} (h : PlanHead) (cancellable : Bool) (step : Plan σ)
    (invoke : Variables → PlanRun σ Variables) (caller : Variables) : PlanRun σ PlanHead :=
  fun limits w =>
    if !cancellable then h.attempt step invoke caller limits w
    -- The flag is looked at before the turn is, so a cancelled run does not wait for room.
    else if w.cancelled then (.failed .cancelled, step, w)
    else
      match Run.makeRoom limits w with
      | (.done (), w) =>
        let (exit, left, w) := h.attempt step invoke caller (limits.watching true) w
        (exit.settle w.cancelled, left, w)
      | (exit, w) => (exit.map fun _ => h, step, w)

@[simp] theorem PlanHead.attemptWatched_false {σ : Type} (h : PlanHead) (step : Plan σ)
    (invoke : Variables → PlanRun σ Variables) (caller : Variables) :
    h.attemptWatched false step invoke caller = h.attempt step invoke caller := rfl

namespace Plan

variable {σ : Type}

mutual

/-- Runs a step of a plan: calls its function, or runs all that is ahead in its group. -/
def runWhole (scope : Scope σ) : Plan σ → Variables → PlanRun σ Variables
  | .call head function finished => fun vars limits w =>
    let (exit, w) := callStep scope function head.qualifiedName vars limits w
    (exit, .call head function finished, w)
  -- The steps within a step do not look at the flag between them.
  | .group head past ahead =>
    runSteps scope false (head.outputs ++ (past ++ ahead).flatMap outputs) head past ahead

/-- Runs the steps ahead in a group, one after another; `declared` are the outputs declared
by the plan and its steps. -/
def runSteps (scope : Scope σ) (cancellable : Bool) (declared : List String) (head : PlanHead)
    (past : List (Plan σ)) : List (Plan σ) → Variables → PlanRun σ Variables
  | [] => fun vars _ w => (.done vars, .group head past [], w)
  | step :: rest => fun vars limits w =>
    let caller := vars.merge head.state false
    let (exit, left, w) :=
      head.attemptWatched cancellable step (runWhole scope step) caller limits w
    match exit with
    | .done head =>
      runSteps scope cancellable declared head (past ++ [left]) rest
        (head.publish declared caller) limits w
    | .failed e => (.failed e, .group head past (left :: rest), w)
    | .interrupted => (.interrupted, .group head past (left :: rest), w)
    | .stuck => (.stuck, .group head past (left :: rest), w)

end

/-- Runs a plan to its end, cancellable or not, and gives the caller's variables as they
were shown last. -/
def run (scope : Scope σ) (cancellable : Bool) : Plan σ → Variables → PlanRun σ Variables
  | .call head function finished => fun vars limits w =>
    if finished then (.done vars, .call head function true, w)
    else
      let caller := vars.merge head.state false
      let self : Plan σ := .call head function false
      let (exit, _, w) :=
        head.attemptWatched cancellable self (runWhole scope self) caller limits w
      match exit with
      | .done head => (.done (head.publish head.outputs caller), .call head function true, w)
      | .failed e => (.failed e, .call head function false, w)
      | .interrupted => (.interrupted, .call head function false, w)
      | .stuck => (.stuck, .call head function false, w)
  | .group head past ahead =>
    runSteps scope cancellable (head.outputs ++ (past ++ ahead).flatMap outputs) head past ahead

def runNext (scope : Scope σ) (caller : Variables) : Plan σ → PlanRun σ Unit
  | .call head function finished => fun limits w =>
    if finished then (.done (), .call head function true, w)
    else
      let self : Plan σ := .call head function false
      let (exit, _, w) := head.attempt self (runWhole scope self) caller limits w
      match exit with
      | .done head => (.done (), .call head function true, w)
      | exit => (exit.map fun _ => (), .call head function false, w)
  | .group head past [] => fun _ w => (.done (), .group head past [], w)
  | .group head past (step :: rest) => fun limits w =>
    let (exit, left, w) := head.attempt step (runWhole scope step) caller limits w
    match exit with
    | .done head => (.done (), .group head (past ++ [left]) rest, w)
    | exit => (exit.map fun _ => (), .group head past (left :: rest), w)

/-- A plan as a function: each call runs a copy of the plan as it stands. -/
def toFunction (p : Plan σ) : Function σ where
  name := p.head.name
  skill := p.head.skill
  description := p.head.description
  semantic := false
  parameters := p.declared
  isPlan := true
  body := fun scope vars limits w =>
    let (exit, _, w) := p.run scope false vars limits w
    (exit, w)

end Plan

end PromptPlan
