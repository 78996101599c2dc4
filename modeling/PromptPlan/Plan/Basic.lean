import PromptPlan.Function
import PromptPlan.Plan.Expansion

/-!
# Plans

A plan is a tree: a leaf calls a function, and an inner node, a group, has a goal and runs its
steps in order. Progress is part of the shape. A group holds the steps it has behind it and
those it has ahead, so its cursor is never out of range, and a step that fails stays where it
was.
-/

namespace PromptPlan

/-- The state variable that gathers the results of steps whose outputs the plan declares. -/
def resultSlot : String := "PLAN.RESULT"

def planSkill : String := "plan"

structure PlanHead where
  name : String
  skill : String
  /-- The goal of a group; what a leaf is for. -/
  description : String
  /-- What the steps have produced so far. -/
  state : Variables
  /-- Inputs of the step; values may refer to variables. -/
  parameters : Variables
  /-- The variables that the step passes on to the plan it belongs to. -/
  outputs : List String
  /-- In seconds, for each of the steps below. -/
  timeout : Option Nat
deriving DecidableEq

/-- A function call, or a group of steps with the part that is done and the part that is
ahead. A call that was read from a document may lack its function. -/
inductive Plan (σ : Type) where
  | call (head : PlanHead) (function : Option (Function σ)) (finished : Bool)
  | group (head : PlanHead) (past ahead : List (Plan σ))

namespace PlanHead

def fresh (skill name description : String) : PlanHead :=
  ⟨name, skill, description, .empty, .empty, [], none⟩

def qualifiedName (h : PlanHead) : String :=
  -- A plan without a name goes by its skill.
  if h.name.isEmpty then h.skill else qualify h.skill h.name

/-- The gathered result, or the result of the last step. -/
def result (h : PlanHead) : String :=
  (h.state.filled? resultSlot).getD h.state.input

end PlanHead

namespace Plan

variable {σ : Type}

/-! ### Making plans -/

def ofSteps (goal : String) (steps : List (Plan σ)) : Plan σ :=
  .group (.fresh planSkill "" goal) [] steps

def ofFunction (f : Function σ) : Plan σ :=
  .call (.fresh f.skill f.name f.description) (some f) false

/-! ### Reading plans -/

def head : Plan σ → PlanHead
  | .call head _ _ => head
  | .group head _ _ => head

def withHead (head : PlanHead) : Plan σ → Plan σ
  | .call _ function finished => .call head function finished
  | .group _ past ahead => .group head past ahead

def isCall : Plan σ → Bool
  | .call .. => true
  | .group .. => false

def function? : Plan σ → Option (Function σ)
  | .call _ function _ => function
  | .group .. => none

def steps : Plan σ → List (Plan σ)
  | .call .. => []
  | .group _ past ahead => past ++ ahead

/-- Number of steps; a call counts as one. -/
def stepCount : Plan σ → Nat
  | .call .. => 1
  | .group _ past ahead => past.length + ahead.length

def cursor : Plan σ → Nat
  | .call _ _ finished => if finished then 1 else 0
  | .group _ past _ => past.length

def hasNext : Plan σ → Bool
  | .call _ _ finished => !finished
  | .group _ _ ahead => !ahead.isEmpty

def qualifiedName (p : Plan σ) : String := p.head.qualifiedName

def outputs (p : Plan σ) : List String := p.head.outputs

def result (p : Plan σ) : String := p.head.result

def declared (p : Plan σ) : List Parameter :=
  (p.function?.map fun f => f.parameters).getD []

theorem cursor_le_stepCount (p : Plan σ) : p.cursor ≤ p.stepCount := by
  cases p with
  | call _ _ finished => cases finished <;> simp [cursor, stepCount]
  | group => simp [cursor, stepCount]

/-! ### Changing plans -/

/-- Adds a step at the end; a call takes none. -/
def addStep (p step : Plan σ) : Result (Plan σ) :=
  match p with
  | .call head _ _ =>
    .error (.planning "Cannot add steps to a function step" (some head.qualifiedName))
  | .group head past ahead => .ok (.group head past (ahead ++ [step]))

def withName (skill name : String) (p : Plan σ) : Plan σ :=
  p.withHead { p.head with skill := skill, name := name }

def withOutputs (outputs : List String) (p : Plan σ) : Plan σ :=
  p.withHead { p.head with outputs := outputs }

def withParameters (pairs : List (String × String)) (p : Plan σ) : Plan σ :=
  p.withHead { p.head with parameters := p.head.parameters.setAll pairs }

/-- Takes variables over into the state, replacing those already there. -/
def withState (vars : Variables) (p : Plan σ) : Plan σ :=
  p.withHead { p.head with state := p.head.state.merge vars true }

mutual

/-- Sets the time limit for steps, in the whole tree. -/
def withTimeout (timeout : Option Nat) : Plan σ → Plan σ
  | .call head function finished => .call { head with timeout := timeout } function finished
  | .group head past ahead =>
    .group { head with timeout := timeout } (withTimeouts timeout past)
      (withTimeouts timeout ahead)

def withTimeouts (timeout : Option Nat) : List (Plan σ) → List (Plan σ)
  | [] => []
  | p :: rest => p.withTimeout timeout :: withTimeouts timeout rest

end

end Plan

/-! ### What a step gets and what it gives back -/

namespace PlanHead

variable {σ : Type}

/-- The value of a variable that a step can see, with the caller before the state; empty
values do not count. -/
def visible? (h : PlanHead) (caller : Variables) (name : String) : Option String :=
  (caller.filled? name).or (h.state.filled? name)

def expand (h : PlanHead) (caller : Variables) (s : String) : String :=
  PromptPlan.expand (fun name => (h.visible? caller name).getD "") s

/-- The main slot of a step: its own parameter, or what the caller or the state has there,
or else nothing for a group and the description for a call. -/
def stepInput (h : PlanHead) (caller : Variables) (step : Plan σ) : String :=
  match step.head.parameters.filled? mainSlot with
  | some value => h.expand caller value
  | none =>
    match h.visible? caller mainSlot with
    | some value => value
    | none => if step.isCall then step.head.description else ""

/-- Hands over a parameter that the function declares, if there is a value for it. -/
def passDeclared (h : PlanHead) (caller : Variables) (vars : Variables) (p : Parameter) :
    Variables :=
  if Text.sameAscii p.name mainSlot then vars
  else
    match h.visible? caller p.name with
    | some value => vars.set p.name value
    | none => vars

/-- Hands over a parameter of the step that has no value yet. -/
def passParameter (h : PlanHead) (caller : Variables) (vars : Variables)
    (p : String × String) : Variables :=
  if (vars.filled? p.1).isSome then vars
  else
    let expanded := h.expand caller p.2
    -- A parameter that refers to nothing is a default: it gives way to a variable of its name.
    vars.set p.1 (if expanded ≠ p.2 then expanded else (h.visible? caller p.1).getD expanded)

def stepVariables (h : PlanHead) (caller : Variables) (step : Plan σ) : Variables :=
  let declared := step.declared.foldl (h.passDeclared caller) (.ofInput (h.stepInput caller step))
  step.head.parameters.pairs.foldl (h.passParameter caller) declared

/-- Whether a step adds to the gathered result: it and the plan declare the same output. -/
def contributes (h : PlanHead) (outputs : List String) : Bool :=
  outputs.any fun output => h.outputs.any fun declared => Text.sameAscii declared output

def gather (current value : String) : String :=
  let current := Text.trim current
  if current.isEmpty then value else current ++ "\n" ++ value

/-- Takes the answer of a step into the state: its trimmed main slot, the gathered result if
the step adds to it, and the outputs that the step declares. -/
def commit (h : PlanHead) (answer : Variables) (outputs : List String) : PlanHead :=
  let value := Text.trim answer.input
  -- The main slot of the state is the last result, whether or not it is gathered.
  let state := h.state.setInput value
  let state :=
    if h.contributes outputs then
      state.set resultSlot (gather ((state.get? resultSlot).getD "") value)
    else state
  { h with
    state := outputs.foldl (fun s output => s.set output ((answer.filled? output).getD value))
      state }

/-- Shows the state to the caller: the result in the main slot, and every declared output
that has a value. -/
def publish (h : PlanHead) (declared : List String) (caller : Variables) : Variables :=
  declared.foldl
    (fun vars output => ((h.state.get? output).map (vars.set output)).getD vars)
    (caller.setInput h.result)

end PlanHead

end PromptPlan
