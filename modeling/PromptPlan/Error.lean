/-!
# Failures

A failure is a cause, or a cause seen from further out: raised within a function, or in a step
of a plan. So the path from the outermost plan to the cause can be read off a failure. All
wording is in this module.
-/

namespace PromptPlan

inductive Error where
  /-- A block of a template breaks the template grammar. -/
  | malformed (message : String) (fragment : Option String)
  | unknownFunction (name : String) (context : Option String)
  | raised (function message : String)
  /-- A failure inside a function, named from outside. -/
  | within (function : String) (source : Error)
  | planStep (step : String) (source : Error)
  | planning (message : String) (context : Option String)
  | config (message : String) (context : Option String)
  | io (message : String) (path : Option String)
  | timeout (seconds : Nat)
  | cancelled
deriving DecidableEq, Repr, Inhabited

namespace Error

/-- A malformed fragment, quoted at the end of the message. -/
def malformedIn (message fragment : String) : Error :=
  malformed s!"{message} (in `{fragment}`)" (some fragment)

/-- The sentence shown to a person. -/
def message : Error → String
  | malformed message _ => s!"Syntax error: {message}"
  | unknownFunction name _ => s!"Function not found: {name}"
  | raised function message => s!"Function '{function}' failed: {message}"
  | within function source => s!"Function '{function}' failed: {source.message}"
  | planStep step source => s!"Plan step '{step}' failed: {source.message}"
  | planning message _ => s!"Planning error: {message}"
  | config message _ => s!"Configuration error: {message}"
  | io message _ => s!"IO error: {message}"
  | timeout seconds => s!"Execution timeout after {seconds} seconds"
  | cancelled => "Execution was cancelled"

/-- The message without its preamble, or the name of what failed. -/
def detail : Error → String
  | malformed message _ => message
  | unknownFunction name _ => name
  | raised _ message => message
  | within _ source => source.message
  | planStep step _ => step
  | planning message _ => message
  | config message _ => message
  | io message _ => message
  | timeout _ => "Execution timeout"
  | cancelled => "Execution was cancelled"

/-- The fragment, function, step or place a failure belongs to. -/
def context : Error → Option String
  | malformed _ fragment => fragment
  | unknownFunction _ context => context
  | raised function _ => some function
  | within function _ => some function
  | planStep step _ => some step
  | planning _ context => context
  | config _ context => context
  | io _ path => path
  | timeout _ => none
  | cancelled => none

/-- A stable code for programs that handle failures. -/
def code : Error → String
  | malformed .. => "WEFT_SYNTAX"
  | unknownFunction .. => "WEFT_FUNCTION_NOT_FOUND"
  | raised .. => "WEFT_INVOCATION"
  | within .. => "WEFT_INVOCATION"
  | planStep .. => "WEFT_PLAN_STEP"
  | planning .. => "WEFT_PLANNING"
  | config .. => "WEFT_CONFIG"
  | io .. => "WEFT_IO"
  | timeout _ => "WEFT_TIMEOUT"
  | cancelled => "WEFT_CANCELLED"

/-- Trying again is never promised to help. -/
def isRetryable (_ : Error) : Bool := false

/-! ### Layers -/

/-- The failure one layer further in. -/
def source? : Error → Option Error
  | within _ source => some source
  | planStep _ source => some source
  | _ => none

/-- The failures further in, outermost first. -/
def sources : Error → List Error
  | within _ source => source :: source.sources
  | planStep _ source => source :: source.sources
  | _ => []

def rootCause : Error → Error
  | within _ source => source.rootCause
  | planStep _ source => source.rootCause
  | e => e

/-- Names the function a failure came from. A failure that already names a function or a
step keeps that inner name. -/
def inFunction (function : String) : Error → Error
  -- A cancelled run is nobody's fault.
  | e@(raised ..) | e@(within ..) | e@(planStep ..) | e@cancelled => e
  | e => within function e

/-- Puts a remark in front of a failure and files it under configuration. -/
def remark (text : String) (e : Error) : Error :=
  config s!"{text}: {e.message}" none

@[simp] theorem rootCause_inFunction (function : String) (e : Error) :
    (e.inFunction function).rootCause = e.rootCause := by
  cases e <;> rfl

end Error

abbrev Result := Except Error

end PromptPlan
