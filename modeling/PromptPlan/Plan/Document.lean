import PromptPlan.Json.Decode
import PromptPlan.Plan.Basic
import PromptPlan.Catalog

/-!
# Plans as documents

A document keeps all of a plan except what belongs to the process that runs it: a function is
stored by skill and name and looked up again in a catalog, and time limits are left out. Any
tree of nodes is a document, also one that no plan would be stored as.
-/

namespace PromptPlan

inductive NodeKind where
  | function
  | steps
deriving DecidableEq, Repr

inductive Document where
  | node (kind : NodeKind) (name skill description : String) (cursor : Nat)
    (state parameters : Variables) (outputs : List String) (steps : List Document)

namespace Document

def blank : Document := .node .steps "" "" "" 0 .empty .empty [] []

instance : Inhabited Document := ⟨blank⟩

/-! ### From plans and back -/

mutual

def ofPlan {σ : Type} : Plan σ → Document
  | .call h _ finished =>
    .node .function h.name h.skill h.description (if finished then 1 else 0) h.state
      h.parameters h.outputs []
  | .group h past ahead =>
    .node .steps h.name h.skill h.description past.length h.state h.parameters h.outputs
      (ofPlans past ++ ofPlans ahead)

def ofPlans {σ : Type} : List (Plan σ) → List Document
  | [] => []
  | p :: rest => ofPlan p :: ofPlans rest

end

/-- The failure of a node that counts more steps than it has. -/
def cursorError (h : PlanHead) (cursor count : Nat) : Error :=
  .planning s!"next_step_index {cursor} exceeds the {count} steps of the plan"
    (some h.qualifiedName)

mutual

/-- The plan of a document; functions are looked up in the catalog, if there is one. -/
def toPlan {σ : Type} (catalog : Option (Catalog σ)) : Document → Result (Plan σ)
  | .node kind name skill description cursor state parameters outputs steps => do
    let head : PlanHead := ⟨name, skill, description, state, parameters, outputs, none⟩
    match kind with
    -- The steps of a node that calls a function are passed over.
    | .function =>
      if 1 < cursor then throw (cursorError head cursor 1)
      return .call head (catalog.bind fun r => r.get? (some skill) name) (cursor == 1)
    -- Steps come first, so the failure is that of the first node in post-order.
    | .steps =>
      let plans ← toPlans catalog steps
      if plans.length < cursor then throw (cursorError head cursor plans.length)
      return .group head (plans.take cursor) (plans.drop cursor)

def toPlans {σ : Type} (catalog : Option (Catalog σ)) :
    List Document → Result (List (Plan σ))
  | [] => .ok []
  | d :: rest => do
    let p ← toPlan catalog d
    let others ← toPlans catalog rest
    return p :: others

end

mutual

/-- Equality of documents; variables are compared without regard to order. -/
def same : Document → Document → Bool
  | .node kind name skill description cursor state parameters outputs steps,
    .node kind' name' skill' description' cursor' state' parameters' outputs' steps' =>
    kind == kind' && name == name' && skill == skill' && description == description' &&
      cursor == cursor' && state.sameSet state' && parameters.sameSet parameters' &&
      outputs == outputs' && sameAll steps steps'

def sameAll : List Document → List Document → Bool
  | [], [] => true
  | a :: s, b :: t => same a b && sameAll s t
  | _, _ => false

end

/-! ### As JSON -/

def variablesToJson (v : Variables) : Json :=
  .object (v.pairs.map fun (name, value) => (name, .string value))

/-- Variables from the members of an object. A name that is repeated exactly counts once,
where it first stands and with its last value; the rest is written one after another. -/
def variablesOfMembers (members : List (String × String)) : Variables :=
  .ofPairs (Keyed.ofList members : Keyed (Prod.fst : String × String → String)).toList

def decodeVariables : Json.Decoder Variables := fun depth j =>
  (Json.asMembers Json.asString depth j).map variablesOfMembers

def kindLabel : NodeKind → String
  | .function => "function"
  | .steps => "steps"

mutual

def toJson : Document → Json
  | .node kind name skill description cursor state parameters outputs steps =>
    .object
      [("kind", .string (kindLabel kind)), ("name", .string name), ("skill_name", .string skill),
        ("description", .string description), ("next_step_index", .int cursor),
        ("state", variablesToJson state), ("parameters", variablesToJson parameters),
        ("outputs", .array (outputs.map .string)), ("steps", .array (toJsons steps))]

def toJsons : List Document → List Json
  | [] => []
  | d :: rest => d.toJson :: toJsons rest

end

def kindOfLabel (s : String) : Except String NodeKind :=
  if s = "function" then .ok .function
  else if s = "steps" then .ok .steps
  else .error s!"unknown variant `{s}`, expected `function` or `steps`"

/-- Reads a kind of node: a word, or an object with the word as its only name and nothing
as value. -/
def kind : Json.Decoder NodeKind
  | _, .string s => kindOfLabel s
  | 0, .object _ => Json.tooDeep
  | _ + 1, .object ((name, value) :: rest) => do
    let k ← kindOfLabel name
    match value with
    | .null => if rest.isEmpty then .ok k else .error "expected value"
    | j => Json.wrongType j "unit"
  | _, _ => .error "expected value"

def fields : Json.Fields where
  name := "PlanDocument"
  fields := ["kind", "name", "skill_name", "description", "next_step_index", "state",
    "parameters", "outputs", "steps"]
  required := []
  listed := []

/-- Reads one field of a document; `steps` reads the steps. -/
def visit (steps : Json.Decoder (List Document)) (depth : Nat) (d : Document) (name : String)
    (j : Json) : Except String Document :=
  match d with
  | .node k n s e c st p o t =>
    if name = "kind" then return .node (← kind depth j) n s e c st p o t
    else if name = "name" then return .node k (← Json.asString depth j) s e c st p o t
    else if name = "skill_name" then return .node k n (← Json.asString depth j) e c st p o t
    else if name = "description" then return .node k n s (← Json.asString depth j) c st p o t
    else if name = "next_step_index" then
      return .node k n s e (← Json.asNat "usize" Json.maxWord depth j) st p o t
    else if name = "state" then return .node k n s e c (← decodeVariables depth j) p o t
    else if name = "parameters" then return .node k n s e c st (← decodeVariables depth j) o t
    else if name = "outputs" then
      return .node k n s e c st p (← Json.asList Json.asString depth j) t
    else return .node k n s e c st p o (← steps depth j)

/-- Reads a document nested at most `fuel` deep. -/
def decodeWithin : Nat → Json.Decoder Document
  | 0 => fun _ j =>
    match j with
    | .object _ | .array _ => Json.tooDeep
    | j => Json.wrongType j "struct PlanDocument"
  | fuel + 1 =>
    Json.asRecord .text fields blank (visit (Json.asList (decodeWithin fuel)))

def decode : Json.Decoder Document := decodeWithin (Json.maxDepth + 1)

end Document

namespace Plan

variable {σ : Type}

def toJson (p : Plan σ) (pretty : Bool) : String :=
  let j := (Document.ofPlan p).toJson
  if pretty then j.writePretty 0 else j.write

def ofJson (text : String) (catalog : Option (Catalog σ)) : Result (Plan σ) :=
  match Json.decodeText Document.decode text with
  | .error message => .error (.planning message (some "invalid JSON"))
  | .ok d => d.toPlan catalog

end Plan

end PromptPlan
