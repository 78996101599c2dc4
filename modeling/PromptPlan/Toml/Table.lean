import PromptPlan.Json.Basic

/-!
# Tables of TOML documents

A table comes into being by a header of its own; *in passing*, because a header names a table
below it; by the dots of a key; or inside braces. What may be added to it later depends on which
it was.
-/

namespace PromptPlan

inductive Toml.Making where
  | header
  | passing
  | dotted
  | braces
deriving DecidableEq, Repr

inductive Toml where
  | scalar (j : Json)
  /-- A date or a time. -/
  | moment
  | array (items : List Toml)
  | table (making : Toml.Making) (members : List (String × Toml))
  /-- An array of tables made by headers, the last one first. -/
  | tables (last : List (String × Toml)) (before : List Toml)

namespace Toml

abbrev Members := List (String × Toml)

def find? (name : String) (members : Members) : Option Toml :=
  (members.find? fun m => m.1 == name).map (·.2)

def put (name : String) (t : Toml) : Members → Members
  | [] => [(name, t)]
  | (n, u) :: rest => if n = name then (n, t) :: rest else (n, u) :: put name t rest

/-- Changes the table that a path leads to, making tables on the way; the change is told how
the table came into being. -/
def descend (dotted : Bool) (change : Making → Members → Option Members) (making : Making) :
    List String → Members → Option Members
  | [], members => change making members
  | name :: path, members =>
    match find? name members with
    | none =>
      let made := if dotted then Making.dotted else .passing
      (descend dotted change made path []).map fun inside =>
        put name (.table made inside) members
    | some (.table made inside) =>
      -- Braces are closed for ever, and a header's table is closed to dots.
      if made = .braces ∨ (dotted = true ∧ made = .header) then none
      else
        (descend dotted change made path inside).map fun inside =>
          put name (.table made inside) members
    -- Any path goes into the last table of an array.
    | some (.tables last before) =>
      (descend dotted change .header path last).map fun last =>
        put name (.tables last before) members
    | some _ => none

def addNew (name : String) (t : Toml) (members : Members) : Option Members :=
  match find? name members with
  | some _ => none
  | none => some (members ++ [(name, t)])

def addValue (path : List String) (t : Toml) (members : Members) : Option Members :=
  match path.reverse with
  | [] => none
  | [name] => addNew name t members
  | name :: parents =>
    -- Dots add only to what dots have made.
    let change (making : Making) (members : Members) : Option Members :=
      if making = .dotted then addNew name t members else none
    descend true change .header parents.reverse members

def startTable (path : List String) (members : Members) : Option Members :=
  match path.reverse with
  | [] => none
  | name :: parents =>
    let change (_ : Making) (members : Members) : Option Members :=
      match find? name members with
      | none => some (members ++ [(name, .table .header [])])
      -- A table made in passing gets a header of its own once.
      | some (.table .passing inside) => some (put name (.table .header inside) members)
      | some _ => none
    descend false change .header parents.reverse members

def startItem (path : List String) (members : Members) : Option Members :=
  match path.reverse with
  | [] => none
  | name :: parents =>
    let change (_ : Making) (members : Members) : Option Members :=
      match find? name members with
      | none => some (members ++ [(name, .tables [] [])])
      | some (.tables last before) =>
        some (put name (.tables [] (.table .header last :: before)) members)
      | some _ => none
    descend false change .header parents.reverse members

/-- Adds the value of a key to the table that the latest header started. -/
def addBelow (header path : List String) (t : Toml) (members : Members) : Option Members :=
  descend false (fun _ => addValue path t) .header header members

mutual

/-- The value as JSON; a date or a time is an object without fields anybody knows. -/
def toJson : Toml → Json
  | .scalar j => j
  | .moment => .object []
  | .array items => .array (toJsons items)
  | .table _ members => .object (membersToJson members)
  | .tables last before => .array ((toJsons before).reverse ++ [.object (membersToJson last)])

def toJsons : List Toml → List Json
  | [] => []
  | t :: rest => t.toJson :: toJsons rest

def membersToJson : List (String × Toml) → List (String × Json)
  | [] => []
  | (name, t) :: rest => (name, t.toJson) :: membersToJson rest

end

end Toml

end PromptPlan
