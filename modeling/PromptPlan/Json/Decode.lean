import PromptPlan.Json.Read

/-!
# Taking records out of JSON

A record is described by an object with its fields as members, or by a list of its fields in
their order. Members that are no field are passed over, however deep they are nested. The first
fault in text order is reported, a missing field after all others.
-/

namespace PromptPlan.Json

/-- Where a value comes from. A dictionary has its members in the order of their names, each
once; a table is part of a settings file. -/
inductive Origin where
  | text
  | dictionary
  | table
deriving DecidableEq, Repr

/-- A reader of values nested at most so deep; it fails with a sentence. -/
abbrev Decoder (α : Type) := Nat → Json → Except String α

def describe : Json → String
  | .null => "null"
  | .bool b => if b then "boolean `true`" else "boolean `false`"
  | .int n => s!"integer `{n}`"
  | .float x => "floating point `" ++ Layout.document.write x ++ "`"
  | .string s => "string " ++ Text.quote s
  | .array _ => "sequence"
  | .object _ => "map"
  | .broken => "broken"

def wrongType {α : Type} (j : Json) (expected : String) : Except String α :=
  .error s!"invalid type: {j.describe}, expected {expected}"

def wrongValue {α : Type} (j : Json) (expected : String) : Except String α :=
  .error s!"invalid value: {j.describe}, expected {expected}"

def tooDeep {α : Type} : Except String α := .error "recursion limit exceeded"

/-! ### Simple values -/

def asString : Decoder String
  | _, .string s => .ok s
  | _, j => wrongType j "a string"

def asBool : Decoder Bool
  | _, .bool b => .ok b
  | _, j => wrongType j "a boolean"

/-- A number from zero to a bound; `name` is what such numbers are called. -/
def asNat (name : String) (bound : Nat) : Decoder Nat
  | _, .int n =>
    if 0 ≤ n ∧ n ≤ bound then .ok n.natAbs else wrongValue (.int n) name
  | _, j => wrongType j name

def asFloat : Decoder Float
  | _, .int n => .ok (Float.ofInt n)
  | _, .float x => .ok x
  | _, j => wrongType j "f64"

def asOptional {α : Type} (decode : Decoder α) : Decoder (Option α)
  | _, .null => .ok none
  | depth, j => (decode depth j).map some

def asList {α : Type} (decode : Decoder α) : Decoder (List α)
  | 0, .array _ => tooDeep
  | depth + 1, .array items => items.mapM (decode depth)
  | _, j => wrongType j "a sequence"

/-- An object read as names and values, in order. -/
def asMembers {α : Type} (decode : Decoder α) : Decoder (List (String × α))
  | 0, .object _ => tooDeep
  | depth + 1, .object members => members.mapM fun (name, j) => do
    return (name, ← decode depth j)
  | _, j => wrongType j "a map"

/-- Any value without a broken part. -/
def asValue : Decoder Json
  | depth, j => if j.isSound depth then .ok j else .error "no value"

/-! ### Records -/

/-- How a record is described: its name, its fields in order, and which of them an object
and a list must have. -/
structure Fields where
  name : String
  fields : List String
  required : List String
  listed : List String

/-- Reads the members of an object into a record; `seen` are the fields that have been read. -/
def visitMembers {ρ : Type} (fields : List String) (visit : ρ → String → Json → Except String ρ)
    (seen : List String) (r : ρ) : List (String × Json) → Except String (ρ × List String)
  | [] => .ok (r, seen)
  | (name, j) :: rest =>
    if !fields.contains name then visitMembers fields visit seen r rest
    else if seen.contains name then .error s!"duplicate field `{name}`"
    else do visitMembers fields visit (name :: seen) (← visit r name j) rest

/-- Reads the items of a list into a record, in the order of the fields; gives how many
fields were read and how many items are left. -/
def visitItems {ρ : Type} (visit : ρ → String → Json → Except String ρ) (r : ρ) :
    List String → List Json → Except String (ρ × List String × List Json)
  | name :: names, j :: rest => do visitItems visit (← visit r name j) names rest
  | names, rest => .ok (r, names, rest)

def countOf (n : Nat) : String := if n = 1 then "1 element" else s!"{n} elements"

/-- Reads a record, starting from one with all fields at their defaults. -/
def asRecord {ρ : Type} (origin : Origin) (spec : Fields) (start : ρ)
    (visit : Nat → ρ → String → Json → Except String ρ) : Decoder ρ
  | 0, .array _ | 0, .object _ => tooDeep
  | depth + 1, .object members => do
    let (r, seen) ← visitMembers spec.fields (visit depth) [] start members
    match spec.required.find? (!seen.contains ·) with
    | some name => .error s!"missing field `{name}`"
    | none => .ok r
  | depth + 1, .array items => do
    let (r, missing, left) ← visitItems (visit depth) start spec.fields items
    match missing.find? (spec.listed.contains ·) with
    | some name =>
      .error s!"invalid length {spec.fields.idxOf name}, expected struct {spec.name} with {
        countOf spec.fields.length}"
    | none =>
      if left.isEmpty then .ok r
      -- Items beyond the last field are refused, except in a table.
      else
        match origin with
        | .text => .error "trailing characters"
        | .dictionary =>
          .error s!"invalid length {items.length}, expected fewer elements in array"
        | .table => .ok r
  | _, j => wrongType j s!"struct {spec.name}"

/-! ### Texts -/

def decodeText {α : Type} (decode : Decoder α) (text : String) : Except String α :=
  match read? text with
  | none => .error "<json syntax error>"
  | some j =>
    match decode maxDepth j with
    | .ok a => .ok a
    | .error message =>
      -- What breaks the text breaks it before anything else that is wrong with it.
      if j.isSound maxDepth then .error message else .error "<json syntax error>"

def decodeValue {α : Type} (decode : Decoder α) (j : Json) : Except String α :=
  decode maxDepth j.sorted

end PromptPlan.Json
