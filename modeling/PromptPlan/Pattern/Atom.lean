import PromptPlan.Json.Read
import PromptPlan.Text.Blank
import PromptPlan.Text.Letter

/-!
# Atoms of patterns

The atoms of a pattern are the characters that stand for themselves, and the escapes. When
patterns are *spaced*, blanks and comments between the atoms do not count. Unless *Unicode* is
switched off an atom may stand for any set of characters; without it, for ASCII ones only.
-/

namespace PromptPlan.Pattern

structure Mode where
  spaced : Bool
  unicode : Bool
deriving DecidableEq, Repr

def Mode.initial : Mode := ⟨false, true⟩

/-- Drops blanks and comments; a comment lasts to the end of its line. -/
def skipNotes (comment : Bool) : List Char → List Char
  | [] => []
  | c :: rest =>
    if comment then skipNotes (c ≠ '\n') rest
    else if Text.isBlank c then skipNotes false rest
    else if c = '#' then skipNotes true rest
    else c :: rest

def Mode.skip (mode : Mode) (s : List Char) : List Char :=
  if mode.spaced then skipNotes false s else s

/-- The first character that counts, where the mark of a comment hides itself and blanks
but not the words after it. -/
def Mode.peek? (mode : Mode) (s : List Char) : Option Char :=
  if mode.spaced then
    match Text.trimStart s with
    | '#' :: rest => (Text.trimStart rest).head?.or s.head?
    | c :: _ => some c
    | [] => s.head?
  else s.head?

/-- Whether a character may be a member of a class. -/
def Mode.allows (mode : Mode) (c : Char) : Bool := mode.unicode || c.val < 128

/-! ### Atoms -/

/-- What an atom stands for: a character, any of a set of characters, or a place between
characters. Some places are found by looking at the characters on both sides. -/
inductive Atom where
  | char (c : Char)
  | set
  | place (looksAround : Bool)
deriving DecidableEq, Repr

/-- Reads `count` hexadecimal digits after the number read already. -/
def hexDigits? (mode : Mode) : Nat → Nat → List Char → Option (Nat × List Char)
  | 0, n, s => some (n, s)
  | _ + 1, _, [] => none
  | count + 1, n, c :: rest => do
    hexDigits? mode count (n * 16 + (← Json.hexDigit? c)) (mode.skip rest)

def codePoint? (mode : Mode) (count : Nat) (s : List Char) : Option (Atom × List Char) := do
  let (n, rest) ← hexDigits? mode count 0 (mode.skip s)
  if n.isValidChar then return (.char (Char.ofNat n), rest) else none

/-- Reads the escape of a general category, which is named by one letter of any case. -/
def category? (mode : Mode) (s : List Char) : Option (Atom × List Char) :=
  match mode.skip s with
  | c :: rest =>
    if mode.unicode && ['c', 'l', 'm', 'n', 'p', 's', 'z'].contains (Text.lowerAscii c) then
      some (.set, mode.skip rest)
    else none
  | [] => none

def control? (c : Char) : Option Char :=
  if c = 'a' then some (Char.ofNat 7)
  else if c = 't' then some '\t'
  else if c = 'n' then some '\n'
  else if c = 'v' then some (Char.ofNat 11)
  else if c = 'f' then some (Char.ofNat 12)
  else if c = 'r' then some '\r'
  else none

/-- Marks that a backslash makes stand for themselves. -/
def isMark (c : Char) : Bool :=
  -- The angle brackets stand for the two ends of a word.
  c.val < 128 && !c.isAlphanum && c != '<' && c != '>'

def escape? (mode : Mode) : List Char → Option (Atom × List Char)
  | [] => none
  | c :: rest =>
    if isMark c then some (.char c, rest)
    else if c = 'x' then do
      let (atom, rest) ← codePoint? mode 2 rest
      match atom with
      | .char c => if mode.allows c then return (atom, rest) else none
      | _ => none
    else if c = 'u' then codePoint? mode 4 rest
    else if c = 'U' then codePoint? mode 8 rest
    else if c = 'p' ∨ c = 'P' then category? mode rest
    else if c = 'd' ∨ c = 's' ∨ c = 'w' then some (.set, rest)
    else if c = 'D' ∨ c = 'S' ∨ c = 'W' then if mode.unicode then some (.set, rest) else none
    else if c = 'A' ∨ c = 'z' then some (.place false, rest)
    else if c = 'b' ∨ c = 'B' ∨ c = '<' ∨ c = '>' then some (.place true, rest)
    else (control? c).map fun x => (.char x, rest)

end PromptPlan.Pattern
