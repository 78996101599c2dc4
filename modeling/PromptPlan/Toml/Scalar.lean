import PromptPlan.Json.Read

/-!
# Words of TOML documents

Blanks and comments, keys, texts in their four forms, numbers, and dates and times. A date has no
use in a configuration: it is checked, because a document with an impossible one is broken, and
its value is not kept.
-/

namespace PromptPlan.Toml

def isSpace (c : Char) : Bool := c == ' ' || c == '\t'

def skipSpace (s : List Char) : List Char := s.dropWhile isSpace

/-- Characters that may stand as themselves in comments and texts. -/
def isPlain (c : Char) : Bool :=
  c == '\t' || (0x20 ≤ c.val && c.val ≠ 0x7F)

def lineBreak? : List Char → Option (List Char)
  | '\n' :: rest => some rest
  | '\r' :: '\n' :: rest => some rest
  | _ => none

/-- Drops blanks, line breaks and comments; with `comment` set, one has begun. -/
def skipTrivia (comment : Bool) : List Char → Option (List Char)
  | [] => some []
  | '\n' :: rest => skipTrivia false rest
  | '\r' :: '\n' :: rest => skipTrivia false rest
  | c :: rest =>
    if comment then if isPlain c then skipTrivia true rest else none
    else if isSpace c then skipTrivia false rest
    else if c = '#' then skipTrivia true rest
    else some (c :: rest)

def endLine? (s : List Char) : Option (List Char) :=
  match skipSpace s with
  | [] => some []
  | '#' :: rest =>
    let after := rest.dropWhile isPlain
    if after.isEmpty then some [] else lineBreak? after
  | s => lineBreak? s

/-! ### Texts -/

def hexToNat? (digits : List Char) : Option Nat :=
  digits.foldlM (fun n c => (Json.hexDigit? c).map (n * 16 + ·)) 0

def codePoint? (count : Nat) (s : List Char) : Option Char := do
  let digits := s.take count
  if digits.length < count then none
  let n ← hexToNat? digits
  if n.isValidChar then some (Char.ofNat n) else none

def escaped? (c : Char) : Option Char :=
  if c = '"' ∨ c = '\\' then some c
  else if c = 'b' then some (Char.ofNat 8)
  else if c = 'f' then some (Char.ofNat 12)
  else if c = 'n' then some '\n'
  else if c = 'r' then some '\r'
  else if c = 't' then some '\t'
  else none

def push (c : Char) (r : Option (List Char × List Char)) : Option (List Char × List Char) :=
  r.map fun (text, rest) => (c :: text, rest)

/-- Reads a text from after its opening quote, with escapes, on one line. `skip` counts the
characters that belong to an escape already read. -/
def basicBody : Nat → List Char → Option (List Char × List Char)
  | _, [] => none
  | skip + 1, _ :: rest => basicBody skip rest
  | 0, '"' :: rest => some ([], rest)
  | 0, '\\' :: 'u' :: rest => do push (← codePoint? 4 rest) (basicBody 4 rest)
  | 0, '\\' :: 'U' :: rest => do push (← codePoint? 8 rest) (basicBody 8 rest)
  | 0, '\\' :: c :: rest => do push (← escaped? c) (basicBody 0 rest)
  | 0, c :: rest => if isPlain c ∧ c ≠ '\\' then push c (basicBody 0 rest) else none

def literalBody : List Char → Option (List Char × List Char)
  | [] => none
  | '\'' :: rest => some ([], rest)
  | c :: rest => if isPlain c then push c (literalBody rest) else none

def atLineEnd (s : List Char) : Bool := (lineBreak? (skipSpace s)).isSome

/-- Reads a text over several lines from after its opening quotes, with escapes. After a
backslash at the end of a line, blanks and line breaks are dropped: then `joining` is set. -/
def basicLines (joining : Bool) : Nat → List Char → Option (List Char × List Char)
  | _, [] => none
  | skip + 1, _ :: rest => basicLines false skip rest
  -- Up to two quotes may stand before the closing three.
  | 0, '"' :: '"' :: '"' :: '"' :: '"' :: rest => some (['"', '"'], rest)
  | 0, '"' :: '"' :: '"' :: '"' :: rest => some (['"'], rest)
  | 0, '"' :: '"' :: '"' :: rest => some ([], rest)
  | 0, '\\' :: 'u' :: rest => do push (← codePoint? 4 rest) (basicLines false 4 rest)
  | 0, '\\' :: 'U' :: rest => do push (← codePoint? 8 rest) (basicLines false 8 rest)
  | 0, '\r' :: '\n' :: rest =>
    if joining then basicLines true 0 rest else push '\n' (basicLines false 0 rest)
  | 0, '\n' :: rest =>
    if joining then basicLines true 0 rest else push '\n' (basicLines false 0 rest)
  | 0, '\\' :: c :: rest =>
    if atLineEnd (c :: rest) then basicLines true 0 (c :: rest)
    else do push (← escaped? c) (basicLines false 0 rest)
  | 0, c :: rest =>
    if joining ∧ isSpace c then basicLines true 0 rest
    else if isPlain c ∧ c ≠ '\\' then push c (basicLines false 0 rest)
    else none

def literalLines : List Char → Option (List Char × List Char)
  | [] => none
  | '\'' :: '\'' :: '\'' :: '\'' :: '\'' :: rest => some (['\'', '\''], rest)
  | '\'' :: '\'' :: '\'' :: '\'' :: rest => some (['\''], rest)
  | '\'' :: '\'' :: '\'' :: rest => some ([], rest)
  | '\r' :: '\n' :: rest => push '\n' (literalLines rest)
  | '\n' :: rest => push '\n' (literalLines rest)
  | c :: rest => if isPlain c then push c (literalLines rest) else none

def skipBreak (s : List Char) : List Char := (lineBreak? s).getD s

def text? : List Char → Option (List Char × List Char)
  | '"' :: '"' :: '"' :: rest => basicLines false 0 (skipBreak rest)
  | '"' :: rest => basicBody 0 rest
  | '\'' :: '\'' :: '\'' :: rest => literalLines (skipBreak rest)
  | '\'' :: rest => literalBody rest
  | _ => none

/-! ### Keys -/

def isBare (c : Char) : Bool :=
  ('a' ≤ c && c ≤ 'z') || ('A' ≤ c && c ≤ 'Z') || ('0' ≤ c && c ≤ '9') || c == '_' || c == '-'

def keyPart? : List Char → Option (String × List Char)
  | '"' :: rest => (basicBody 0 rest).map fun (k, rest) => (String.ofList k, rest)
  | '\'' :: rest => (literalBody rest).map fun (k, rest) => (String.ofList k, rest)
  | s =>
    let k := s.takeWhile isBare
    if k.isEmpty then none else some (String.ofList k, s.dropWhile isBare)

/-- Reads a key of at most so many parts with dots between them, blanks around all of them. -/
def key? : Nat → List Char → Option (List String × List Char)
  | 0, _ => none
  | fuel + 1, s => do
    let (part, rest) ← keyPart? (skipSpace s)
    match skipSpace rest with
    | '.' :: after => (key? fuel after).map fun (parts, rest) => (part :: parts, rest)
    | rest => some ([part], rest)

/-! ### Numbers -/

def isDigit (c : Char) : Bool := '0' ≤ c && c ≤ '9'

/-- Reads digits, single underscores between them dropped. -/
def digitRun (digit : Char → Bool) : List Char → List Char × List Char
  | '_' :: c :: rest =>
    if digit c then
      let (ds, after) := digitRun digit rest
      (c :: ds, after)
    else ([], '_' :: c :: rest)
  | c :: rest =>
    if digit c then
      let (ds, after) := digitRun digit rest
      (c :: ds, after)
    else ([], c :: rest)
  | [] => ([], [])

def digits? (digit : Char → Bool) (s : List Char) : Option (List Char × List Char) :=
  match s with
  | c :: _ => if digit c then some (digitRun digit s) else none
  | [] => none

def sign : List Char → Bool × List Char
  | '-' :: rest => (true, rest)
  | '+' :: rest => (false, rest)
  | s => (false, s)

def whole? (s : List Char) : Option (List Char × List Char) :=
  match s with
  -- A zero in front stands alone.
  | '0' :: rest => some (['0'], rest)
  | s => digits? isDigit s

def toNat? (base : Nat) (ds : List Char) : Option Nat :=
  ds.foldlM (fun n c => (Json.hexDigit? c).map (n * base + ·)) 0

def nearestFloat (ds : List Char) (exponent : Int) : Float :=
  let ds := ds.dropWhile (· == '0')
  let top := exponent + (ds.length : Int)
  if ds.isEmpty ∨ top < -400 then 0.0
  else if 400 < top then 1.0 / 0.0
  else Float.ofScientific ((toNat? 10 ds).getD 0) (exponent < 0) exponent.natAbs

def exponent? : List Char → Option (Int × List Char)
  | e :: rest =>
    if e = 'e' ∨ e = 'E' then do
      let (negative, rest) := sign rest
      let (ds, after) ← digits? isDigit rest
      let n ← toNat? 10 ds
      return (if negative then -(n : Int) else n, after)
    else none
  | [] => none

/-- Reads a float, which has decimals, an exponent or both. -/
def float? (s : List Char) : Option (Float × List Char) := do
  let (negative, s) := sign s
  match s with
  | 'i' :: 'n' :: 'f' :: rest => return (if negative then -1.0 / 0.0 else 1.0 / 0.0, rest)
  | 'n' :: 'a' :: 'n' :: rest => return (if negative then -(0.0 / 0.0) else 0.0 / 0.0, rest)
  | s =>
    let (ds, rest) ← whole? s
    let (decimals, rest) ←
      match rest with
      | '.' :: rest => digits? isDigit rest
      | _ => if (exponent? rest).isSome then some ([], rest) else none
    let (e, rest) := (exponent? rest).getD (0, rest)
    let f := nearestFloat (ds ++ decimals) (e - decimals.length)
    -- Beyond the greatest float only a number without a minus sign is refused.
    if negative then return (-f, rest)
    else if f.isInf then none
    else return (f, rest)

def int? (s : List Char) : Option (Int × List Char) := do
  let based (base : Nat) (digit : Char → Bool) (s : List Char) : Option (Int × List Char) := do
    let (ds, rest) ← digits? digit s
    let n ← toNat? base ds
    if n < Nat.pow 2 63 then return ((n : Int), rest) else none
  match s with
  | '0' :: 'x' :: rest => based 16 (fun c => (Json.hexDigit? c).isSome) rest
  | '0' :: 'o' :: rest => based 8 (fun c => '0' ≤ c && c ≤ '7') rest
  | '0' :: 'b' :: rest => based 2 (fun c => c == '0' || c == '1') rest
  | s =>
    let (negative, s) := sign s
    let (ds, rest) ← whole? s
    let n ← toNat? 10 ds
    if negative then if n ≤ Nat.pow 2 63 then return (-(n : Int), rest) else none
    else if n < Nat.pow 2 63 then return ((n : Int), rest)
    else none

/-! ### Dates and times -/

def fixed? (count low high : Nat) (s : List Char) : Option (Nat × List Char) := do
  let ds := s.take count
  if ds.length < count ∨ !ds.all isDigit then none
  let n ← toNat? 10 ds
  if low ≤ n ∧ n ≤ high then return (n, s.drop count) else none

def char? (c : Char) : List Char → Option (List Char)
  | d :: rest => if c = d then some rest else none
  | [] => none

def daysIn (year month : Nat) : Nat :=
  if month = 2 then
    if year % 4 = 0 ∧ (year % 100 ≠ 0 ∨ year % 400 = 0) then 29 else 28
  else if month ∈ [4, 6, 9, 11] then 30
  else 31

def date? (s : List Char) : Option (List Char) := do
  let (year, s) ← fixed? 4 0 9999 s
  let (month, s) ← fixed? 2 1 12 (← char? '-' s)
  let (_, s) ← fixed? 2 1 (daysIn year month) (← char? '-' s)
  return s

def time? (s : List Char) : Option (List Char) := do
  let (_, s) ← fixed? 2 0 23 s
  let (_, s) ← fixed? 2 0 59 (← char? ':' s)
  let (_, s) ← fixed? 2 0 60 (← char? ':' s)
  match s with
  | '.' :: rest => if (rest.takeWhile isDigit).isEmpty then none else return rest.dropWhile isDigit
  | s => return s

def offset? : List Char → Option (List Char)
  | c :: rest =>
    if c = 'Z' ∨ c = 'z' then some rest
    else if c = '+' ∨ c = '-' then do
      let (_, s) ← fixed? 2 0 23 rest
      let (_, s) ← fixed? 2 0 59 (← char? ':' s)
      return s
    else none
  | [] => none

def dateTime? (s : List Char) : Option (List Char) :=
  match date? s with
  | none => time? s
  | some rest =>
    let timed : Option (List Char) :=
      match rest with
      | c :: after => if c = 'T' ∨ c = 't' ∨ c = ' ' then time? after else none
      | [] => none
    match timed with
    -- What follows the date is no time and is left to the next reader.
    | none => some rest
    | some rest => some ((offset? rest).getD rest)

end PromptPlan.Toml
