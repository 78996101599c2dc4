import PromptPlan.Pattern.Class

/-!
# Patterns

A pattern is a regular expression, which is only checked here: it has to be grammatical, nested
no deeper than a fixed limit, and fit for a matcher that reads a value once from left to right.
Of the parts that were read only the depths are kept.
-/

namespace PromptPlan.Pattern

inductive Fault where
  | malformed
  /-- It asks for the ends of words in any script. -/
  | wordEnd
deriving DecidableEq, Repr

def Fault.message : Fault → String
  | .malformed => "error building NFA"
  | .wordEnd =>
    "unsupported regex feature for DFAs: cannot build DFAs for regexes with Unicode word " ++
      "boundaries; switch to ASCII word boundaries, or heuristically enable Unicode word " ++
      "boundaries or use a different regex engine"

def maxDepth : Nat := 250

/-- A part of a row: something to be matched, of some depth, or a setting of switches, which
cannot be repeated. -/
inductive Part where
  | item (depth : Nat)
  | setting
deriving DecidableEq, Repr

def Part.depth : Part → Nat
  | .item d => d
  | .setting => 0

/-- A group that is still open: its switches, the depths of the rows before the last bar, and
the parts after it, the latest first. -/
structure Group where
  mode : Mode
  rows : List Nat
  parts : List Part
deriving Repr

namespace Group

def start (mode : Mode) : Group := ⟨mode, [], []⟩

def add (g : Group) (part : Part) : Group := { g with parts := part :: g.parts }

def bar (g : Group) : Group :=
  { g with rows := rowDepth (g.parts.map Part.depth) :: g.rows, parts := [] }

def depth (g : Group) : Nat := rowDepth g.bar.rows

def repeat? (g : Group) : Option Group :=
  match g.parts with
  | .item d :: before => some { g with parts := .item (d + 1) :: before }
  | _ => none

end Group

/-! ### How groups open -/

def switches : List Char := ['i', 'm', 's', 'U', 'u', 'R', 'x']

/-- Reads switches up to the colon or bracket after them. A hyphen switches off what follows
it; nothing stands twice. -/
def switches? (sofar : List Char) : List Char → Option (List Char × List Char)
  | [] => none
  | c :: rest =>
    if c = ':' ∨ c = ')' then
      if sofar.head? = some '-' then none else some (sofar.reverse, c :: rest)
    else if (c = '-' ∨ switches.contains c) ∧ !sofar.contains c then switches? (c :: sofar) rest
    else none

/-- The state of a switch after others were set. -/
def switched (letter : Char) (set : List Char) (before : Bool) : Bool :=
  if set.contains letter then (set.takeWhile (· != '-')).contains letter else before

def Mode.switch (mode : Mode) (set : List Char) : Mode :=
  ⟨switched 'x' set mode.spaced, switched 'u' set mode.unicode⟩

def startsName (c : Char) : Bool := c == '_' || Text.isLetter c

def continuesName (c : Char) : Bool :=
  ['_', '.', '[', ']'].contains c || Text.isAlphanumeric c

def groupName? (s : List Char) : Option (List Char × List Char) :=
  match s.takeWhile (· != '>'), s.dropWhile (· != '>') with
  | c :: name, '>' :: rest =>
    if startsName c && name.all continuesName then some (c :: name, rest) else none
  | _, _ => none

/-- What follows an opening bracket: a group with the switches inside it and perhaps a name,
or a setting of switches. -/
inductive Opening where
  | group (mode : Mode) (name : Option (List Char))
  | setting (mode : Mode)
deriving Repr

def groupOpening? (mode : Mode) (s : List Char) : Option (Opening × List Char) :=
  match mode.skip s with
  -- Groups that only look at what stands around them are refused.
  | '?' :: '=' :: _ | '?' :: '!' :: _ | '?' :: '<' :: '=' :: _ | '?' :: '<' :: '!' :: _ => none
  | '?' :: 'P' :: '<' :: rest | '?' :: '<' :: rest => do
    let (name, rest) ← groupName? rest
    return (.group mode (some name), rest)
  | '?' :: rest => do
    let (set, after) ← switches? [] rest
    match after with
    | ':' :: after => return (.group (mode.switch set) none, after)
    | _ :: after => if set.isEmpty then none else return (.setting (mode.switch set), after)
    | [] => none
  | rest => some (.group mode none, rest)

/-! ### Reading -/

/-- What has been read of a pattern: the innermost group, the groups around it, the names
given, and whether ends of words in any script are asked for. -/
structure Reading where
  group : Group
  outer : List Group
  names : List (List Char)
  wordEnd : Bool
deriving Repr

namespace Reading

def start : Reading := ⟨.start .initial, [], [], false⟩

def add (r : Reading) (part : Part) : Reading := { r with group := r.group.add part }

def open? (r : Reading) : Opening → Option Reading
  | .setting mode => some { r with group := { r.group.add .setting with mode := mode } }
  | .group mode name =>
    if name.any r.names.contains then none
    else some
      { r with group := .start mode, outer := r.group :: r.outer, names := name.toList ++ r.names }

def close? (r : Reading) : Option Reading :=
  match r.outer with
  | [] => none
  | g :: outer => some { r with group := g.add (.item (r.group.depth + 1)), outer := outer }

def addAtom (r : Reading) (atom : Atom) : Reading :=
  let looksAround :=
    match atom with
    | .place b => b
    | _ => false
  { r.add (.item 0) with wordEnd := r.wordEnd || (looksAround && r.group.mode.unicode) }

/-- Reads what begins with the character `c`, and returns what is left. -/
def step? (r : Reading) (c : Char) (rest : List Char) : Option (Reading × List Char) :=
  if c = '(' then do
    let (opening, rest) ← groupOpening? r.group.mode rest
    return (← r.open? opening, rest)
  else if c = ')' then r.close?.map (·, rest)
  else if c = '|' then some ({ r with group := r.group.bar }, rest)
  else if c = '[' then do
    let (depth, rest) ← class? r.group.mode (2 * rest.length + 2) rest
    return (r.add (.item depth), rest)
  else if c = '*' ∨ c = '+' ∨ c = '?' then do
    let g ← r.group.repeat?
    -- A question mark after a repetition belongs to it.
    return ({ r with group := g }, if rest.head? = some '?' then rest.tail else rest)
  -- A repetition by numbers cannot be closed in a field, which ends at the first brace.
  else if c = '\x7b' then none
  else if c = '\\' then do
    let (atom, rest) ← escape? r.group.mode rest
    return (r.addAtom atom, rest)
  else if c = '.' then if r.group.mode.unicode then some (r.add (.item 0), rest) else none
  else some (r.add (.item 0), rest)

def run? : Nat → Reading → List Char → Option Reading
  | 0, _, _ => none
  | fuel + 1, r, s =>
    match r.group.mode.skip s with
    | [] => if r.outer.isEmpty then some r else none
    | c :: rest =>
      match r.step? c rest with
      | some (r, rest) => run? fuel r rest
      | none => none

end Reading

def check (s : List Char) : Except Fault Unit :=
  match Reading.start.run? (s.length + 1) s with
  | none => .error .malformed
  | some r =>
    -- A matcher that reads once knows words of ASCII letters only.
    if maxDepth < r.group.depth then .error .malformed
    else if r.wordEnd then .error .wordEnd
    else .ok ()

end PromptPlan.Pattern
