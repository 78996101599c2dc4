import PromptPlan.Pattern
import PromptPlan.Text.Case

/-!
# Filters

A filter says what is logged: directives between commas, each a level, a target, or both with
an equals sign between them. A target may be narrowed to a span in brackets, and that to a
field in braces. Here a filter is only checked, and since a word that is no level is a target,
almost every text is one.
-/

namespace PromptPlan.Logging

inductive FilterFault where
  | directive
  | level
  | field (fault : Pattern.Fault)
deriving DecidableEq, Repr

def FilterFault.message : FilterFault → String
  | .directive => "invalid filter directive"
  | .level =>
    "error parsing level filter: expected one of \"off\", \"error\", \"warn\", " ++
      "\"info\", \"debug\", \"trace\", or a number 0-5"
  | .field fault => s!"invalid field filter: {fault.message}"

/-! ### Parts of a text -/

def dropBytes : Nat → List Char → List Char
  | 0, s => s
  | _ + 1, [] => []
  | n + 1, c :: rest => dropBytes (n + 1 - c.utf8Size) rest

def takeBytes : Nat → List Char → List Char
  | 0, _ => []
  | _ + 1, [] => []
  | n + 1, c :: rest => c :: takeBytes (n + 1 - c.utf8Size) rest

/-- The part of a text between two positions, counted in bytes. -/
def cut (start stop : Nat) (s : List Char) : List Char :=
  takeBytes (stop - start) (dropBytes start s)

/-! ### Levels and values -/

def isDigits (s : List Char) : Bool := !s.isEmpty && s.all Char.isDigit

def unsigned : List Char → List Char
  | '+' :: rest => rest
  | '-' :: rest => rest
  | s => s

def isLevel (s : List Char) : Bool :=
  let number :=
    match s with
    | '+' :: rest => rest
    | s => s
  ["off", "error", "warn", "info", "debug", "trace"].any (Text.sameAscii (String.ofList s)) ||
    (isDigits number && (number.foldl (fun n c => n * 10 + (c.toNat - 48)) 0) ≤ 5)

/-- Whether a text is an exponent: nothing, or a whole number after its letter. -/
def isExponent : List Char → Bool
  | [] => true
  | e :: rest => (e == 'e' || e == 'E') && isDigits (unsigned rest)

def isNumber (s : List Char) : Bool :=
  let s := unsigned s
  let whole := s.takeWhile Char.isDigit
  let rest := s.dropWhile Char.isDigit
  let (decimals, rest) :=
    match rest with
    | '.' :: rest => (rest.takeWhile Char.isDigit, rest.dropWhile Char.isDigit)
    | rest => ([], rest)
  ["inf", "infinity", "nan"].any (Text.sameAscii (String.ofList s)) ||
    (!(whole ++ decimals).isEmpty && isExponent rest)

/-- Checks a field, which is a name, or a name and a value with an equals sign between them. -/
def checkField (s : List Char) : Except FilterFault Unit :=
  match s.dropWhile (· != '=') with
  | [] => .ok ()
  | _ :: rest =>
    -- What comes after a second sign does not count.
    let value := rest.takeWhile (· != '=')
    if ["true", "false"].contains (String.ofList value) || isNumber value then .ok ()
    else (Pattern.check value).mapError .field

/-! ### Directives -/

/-- Where the walk through a directive stands; the number is the position at which a field
or a level began. -/
inductive Place where
  | start
  | word
  | span
  | field (first : Nat)
  | fields
  | target
  | level (first : Nat)
deriving DecidableEq, Repr

def Place.step (whole : List Char) (place : Place) (position : Nat) (c : Char) :
    Except FilterFault Place :=
  match place with
  | .start =>
    if c = '[' then .ok .span
    else if c = '-' ∨ c = ':' ∨ c = '_' ∨ Text.isAlphanumeric c then .ok .word
    else .error .directive
  | .word =>
    if c = '=' then .ok (.level (position + 1))
    else if c = '[' then .ok .span
    else .ok .word
  | .span =>
    if c = ']' then .ok .target
    else if c = '\x7b' then .ok (.field (position + 1))
    else .ok .span
  | .field first =>
    if c = '\x7d' then
      if first = position then .error .directive
      else (checkField (cut first position whole)).map fun _ => .fields
    else .ok (.field first)
  | .fields => if c = ']' then .ok .target else .error .directive
  | .target => if c = '=' then .ok (.level (position + 1)) else .error .directive
  | .level first => .ok (.level first)

def walk (whole : List Char) : Place → Nat → List Char → Except FilterFault Place
  | place, _, [] => .ok place
  | place, position, c :: rest => do
    walk whole (← place.step whole position c) (position + c.utf8Size) rest

def checkDirective (s : List Char) : Except FilterFault Unit := do
  -- The walk does not see the blanks around the directive, but its parts are cut out of the
  -- text with the blanks: so a blank at the end belongs to the level, which is then none.
  match ← walk s .start 0 (Text.trimChars s) with
  | .word | .target => return ()
  -- An equals sign with nothing after it asks for every level.
  | .level first =>
    let level := dropBytes first s
    if level.isEmpty || isLevel level then return () else throw .level
  | _ => throw .directive

def checkFilter (s : String) : Except FilterFault Unit :=
  ((s.splitOn ",").filter (!·.isEmpty)).forM fun d => checkDirective d.toList

end PromptPlan.Logging
