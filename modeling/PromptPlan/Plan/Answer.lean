import PromptPlan.Json.Decode
import PromptPlan.Plan.Basic
import PromptPlan.Catalog

/-!
# Plans from a planner's answer

A planner is asked to choose one function for a goal. Its answer is text with a JSON object
somewhere in it, whose member `plan` has the `rationale`, the `function` and the `parameters`.
It becomes a plan with one step, or with none if no function is named.
-/

namespace PromptPlan

structure Choice where
  rationale : String
  function : String
  parameters : List (String × Json)
deriving Inhabited

namespace Choice

def blank : Choice := ⟨"", "", []⟩

def fields : Json.Fields where
  name := "ActionPlanChoice"
  fields := ["rationale", "function", "parameters"]
  required := []
  listed := []

def visit (depth : Nat) (c : Choice) (name : String) (j : Json) : Except String Choice :=
  if name = "rationale" then return { c with rationale := ← Json.asString depth j }
  else if name = "function" then return { c with function := ← Json.asString depth j }
  else do
    let members ← Json.asMembers Json.asValue depth j
    return { c with
      parameters := (Keyed.ofList members : Keyed (Prod.fst : String × Json → String)).toList }

def answerFields : Json.Fields where
  name := "ActionPlanAnswer"
  fields := ["plan"]
  required := ["plan"]
  listed := ["plan"]

def decode : Json.Decoder Choice :=
  Json.asRecord .text answerFields blank fun depth _ _ j =>
    Json.asRecord .text fields blank visit depth j

end Choice

/-- The part of a text from its first opening brace to its last closing one. -/
def braced? (s : List Char) : Option (List Char) :=
  match s.dropWhile (· ≠ '\x7b') with
  | [] => none
  | first :: rest =>
    match (rest.reverse.dropWhile (· ≠ '\x7d')).reverse with
    | [] => none
    | inside => some (first :: inside)

def passChosen (vars : Variables) (p : String × Json) : Variables :=
  match p.2 with
  -- Null is as good as nothing; all that is no text is passed on as JSON text.
  | .null => vars
  | .string s => vars.set p.1 s
  | j => vars.set p.1 j.sorted.write

/-- The plan for a goal that a planner's answer describes. -/
def Plan.ofAnswer {σ : Type} (goal answer : String) (catalog : Catalog σ) :
    Result (Plan σ) := do
  match braced? answer.toList with
  | none =>
    throw (.planning "Planner answer contains no JSON object" (some (Text.trim answer)))
  | some object =>
    let text := String.ofList object
    match Json.decodeText Choice.decode text with
    | .error message => throw (.planning s!"Invalid planner answer: {message}" (some text))
    | .ok choice =>
      let name := Text.trim choice.function
      if name.isEmpty then return .ofSteps goal []
      let function ← catalog.resolveReference name
      let step : Plan σ := .ofFunction function
      let parameters := choice.parameters.foldl passChosen .empty
      return .ofSteps goal [step.withHead { step.head with parameters := parameters }]

end PromptPlan
