import PromptPlan.Pattern.Atom

/-!
# Classes of characters

A class has members in brackets, ranges of them, named sets, and classes within the class. A
caret in front takes the complement, and double marks intersect or subtract what stands on their
two sides. What is kept of a class is how deep its parts are nested.
-/

namespace PromptPlan.Pattern

/-- The depth of parts side by side: a part alone stands for itself, a row of several adds a
level. -/
def rowDepth : List Nat → Nat
  | [] => 0
  | [d] => d
  | d :: ds => ds.foldl max d + 1

def setNames : List String :=
  ["alnum", "alpha", "ascii", "blank", "cntrl", "digit", "graph", "lower", "print", "punct",
    "space", "upper", "word", "xdigit"]

/-- Reads a named set from after its opening bracket; tells whether it is the complement. -/
def namedSet? : List Char → Option (Bool × List Char)
  | ':' :: rest =>
    let (complement, rest) :=
      match rest with
      | '^' :: rest => (true, rest)
      | _ => (false, rest)
    match rest.dropWhile (· != ':') with
    | ':' :: ']' :: after =>
      if setNames.contains (String.ofList (rest.takeWhile (· != ':'))) then
        some (complement, after)
      else none
    | _ => none
  | _ => none

def member? (mode : Mode) : List Char → Option (Atom × List Char)
  | [] => none
  | '\\' :: rest => escape? mode rest
  | c :: rest => some (.char c, rest)

def Atom.isMember (mode : Mode) : Atom → Bool
  | .char c => mode.allows c
  | .set => true
  | .place _ => false

def Atom.spans (mode : Mode) : Atom → Atom → Bool
  | .char low, .char high => low ≤ high && mode.allows low && mode.allows high
  | _, _ => false

/-- Reads a member or a range of members. -/
def range? (mode : Mode) (s : List Char) : Option (List Char) := do
  let (low, rest) ← member? mode s
  let alone (rest : List Char) : Option (List Char) :=
    if low.isMember mode then some rest else none
  match mode.skip rest with
  | [] => none
  | '-' :: after =>
    -- Before the end of the class, or before another hyphen, a hyphen makes no range.
    if mode.peek? after = some ']' ∨ mode.peek? after = some '-' then alone ('-' :: after)
    else
      let (high, rest) ← member? mode (mode.skip after)
      if low.spans mode high then return rest else none
  | rest => alone rest

def hyphens (mode : Mode) : Nat → List Char → Nat × List Char
  | 0, s => (0, s)
  | fuel + 1, s =>
    match s with
    | '-' :: rest =>
      let (n, after) := hyphens mode fuel (mode.skip rest)
      (n + 1, after)
    | s => (0, s)

/-- Reads the opening of a class from after its bracket, and returns how many members were
read. -/
def opening? (mode : Mode) (s : List Char) : Option (Nat × List Char) := do
  let s ←
    match mode.skip s with
    | '^' :: rest => if mode.unicode then some (mode.skip rest) else none
    | s => some s
  let (n, s) := hyphens mode s.length s
  match s with
  | [] => none
  -- A closing bracket that comes first is a member.
  | ']' :: rest => if n = 0 then return (1, mode.skip rest) else return (n, s)
  | _ => return (n, s)

/-- The depth of the members read, under the operation whose left side is `left`. -/
def closeSide (left : Option Nat) (members : List Nat) : Nat :=
  match left with
  | none => rowDepth members
  | some d => max d (rowDepth members) + 1

mutual

/-- Reads a class from after its opening bracket, and returns its depth. -/
def class? (mode : Mode) : Nat → List Char → Option (Nat × List Char)
  | 0, _ => none
  | fuel + 1, s => do
    let (n, rest) ← opening? mode s
    let (depth, rest) ← members? mode fuel none (List.replicate n 0) rest
    return (depth + 1, rest)

def members? (mode : Mode) : Nat → Option Nat → List Nat → List Char → Option (Nat × List Char)
  | 0, _, _, _ => none
  | fuel + 1, left, members, s =>
    match mode.skip s with
    | [] => none
    | ']' :: rest => some (closeSide left members, rest)
    | '&' :: '&' :: rest => members? mode fuel (some (closeSide left members)) [] rest
    | '-' :: '-' :: rest => members? mode fuel (some (closeSide left members)) [] rest
    | '~' :: '~' :: rest => members? mode fuel (some (closeSide left members)) [] rest
    | '[' :: rest =>
      match namedSet? rest with
      | some (complement, after) =>
        if complement && !mode.unicode then none
        else members? mode fuel left (0 :: members) after
      | none =>
        match class? mode fuel rest with
        | some (depth, after) => members? mode fuel left (depth :: members) after
        | none => none
    | s =>
      match range? mode s with
      | some rest => members? mode fuel left (0 :: members) rest
      | none => none

end

end PromptPlan.Pattern
