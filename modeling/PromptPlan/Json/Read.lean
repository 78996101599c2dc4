import PromptPlan.Json.Number

/-!
# Reading JSON texts

A reader takes what is left of the text and returns a value with what is left after that, or
nothing if the grammar is broken. Values contain values, so reading is bounded by a number of
steps; the length of the text is enough, because every step takes at least one character.
-/

namespace PromptPlan.Json

def isSpace (c : Char) : Bool :=
  c == ' ' || c == '\n' || c == '\t' || c == '\r'

def skipSpace (s : List Char) : List Char := s.dropWhile isSpace

def hexDigit? (c : Char) : Option Nat :=
  if '0' ≤ c ∧ c ≤ '9' then some (c.toNat - 48)
  else if 'a' ≤ c ∧ c ≤ 'f' then some (c.toNat - 87)
  else if 'A' ≤ c ∧ c ≤ 'F' then some (c.toNat - 55)
  else none

def hexUnit? : List Char → Option (Nat × List Char)
  | a :: b :: c :: d :: rest => do
    let a ← hexDigit? a
    let b ← hexDigit? b
    let c ← hexDigit? c
    let d ← hexDigit? d
    return (((a * 16 + b) * 16 + c) * 16 + d, rest)
  | _ => none

def escaped? (c : Char) : Option Char :=
  if c = '"' ∨ c = '\\' ∨ c = '/' then some c
  else if c = 'b' then some (Char.ofNat 8)
  else if c = 'f' then some (Char.ofNat 12)
  else if c = 'n' then some '\n'
  else if c = 'r' then some '\r'
  else if c = 't' then some '\t'
  else none

/-- The escape by code units: a character, or nothing for half of a surrogate pair, and
what is left. The text starts after the `u`. -/
def unitEscape? (s : List Char) : Option (Option Char × List Char) := do
  let (unit, rest) ← hexUnit? s
  if unit < 0xD800 ∨ 0xDFFF < unit then return (some (Char.ofNat unit), rest)
  else if 0xDBFF < unit then return (none, rest)
  else
    match rest with
    | '\\' :: 'u' :: tail =>
      match hexUnit? tail with
      | some (low, after) =>
        if 0xDC00 ≤ low ∧ low ≤ 0xDFFF then
          return (some (Char.ofNat (0x10000 + (unit - 0xD800) * 0x400 + (low - 0xDC00))), after)
        else return (none, rest)
      | none => none
    | _ => return (none, rest)

/-- Reads a text from after its opening quote: its characters in reverse if it has a value,
and what is left. -/
def stringBody : Nat → Option (List Char) → List Char → Option (Option (List Char) × List Char)
  | 0, _, _ => none
  | _, _, [] => none
  | fuel + 1, sofar, c :: rest =>
    if c = '"' then some (sofar, rest)
    else if c.val < 32 then none
    else if c = '\\' then
      match rest with
      | 'u' :: tail =>
        match unitEscape? tail with
        | some (some e, after) => stringBody fuel (sofar.map (e :: ·)) after
        | some (none, after) => stringBody fuel none after
        | none => none
      | e :: after =>
        match escaped? e with
        | some x => stringBody fuel (sofar.map (x :: ·)) after
        | none => none
      | [] => none
    else stringBody fuel (sofar.map (c :: ·)) rest

def string? (s : List Char) : Option (Option String × List Char) :=
  (stringBody (s.length + 1) (some []) s).map fun (chars, rest) =>
    (chars.map fun cs => String.ofList cs.reverse, rest)

def digits (s : List Char) : List Nat × List Char :=
  let isDigit (c : Char) : Bool := '0' ≤ c && c ≤ '9'
  ((s.takeWhile isDigit).map fun c => c.toNat - 48, s.dropWhile isDigit)

def numberTail? (negative : Bool) (whole : List Nat) (s : List Char) :
    Option (NumberParts × List Char) := do
  let (decimals, s) ←
    match s with
    | '.' :: rest =>
      let (ds, after) := digits rest
      if ds.isEmpty then none else some (some ds, after)
    | _ => some (none, s)
  let signed (negativeExponent : Bool) (s : List Char) : Option (NumberParts × List Char) :=
    let (ds, after) := digits s
    if ds.isEmpty then none
    else some (⟨negative, whole, decimals, some (negativeExponent, ds)⟩, after)
  match s with
  | e :: rest =>
    if e = 'e' ∨ e = 'E' then
      match rest with
      | '+' :: after => signed false after
      | '-' :: after => signed true after
      | _ => signed false rest
    else return (⟨negative, whole, decimals, none⟩, s)
  | [] => return (⟨negative, whole, decimals, none⟩, [])

def number? (s : List Char) : Option (Json × List Char) := do
  let (negative, s) :=
    match s with
    | '-' :: rest => (true, rest)
    | _ => (false, s)
  let (whole, after) := digits s
  match whole with
  | [] => none
  -- A zero in front stands alone.
  | 0 :: _ :: _ => none
  | _ =>
    let (parts, rest) ← numberTail? negative whole after
    return (parts.value?.getD .broken, rest)

def word? (word : String) (j : Json) (s : List Char) : Option (Json × List Char) :=
  if word.toList.isPrefixOf s then some (j, s.drop word.length) else none

mutual

def value? : Nat → List Char → Option (Json × List Char)
  | 0, _ => none
  | fuel + 1, s =>
    match skipSpace s with
    | [] => none
    | c :: rest =>
      if c = '"' then
        match string? rest with
        | some (some s, after) => some (.string s, after)
        | some (none, after) => some (.broken, after)
        | none => none
      else if c = '[' then
        match skipSpace rest with
        | ']' :: after => some (.array [], after)
        | _ => (items? fuel rest).map fun (items, after) => (.array items, after)
      else if c = '\x7b' then
        match skipSpace rest with
        | '\x7d' :: after => some (.object [], after)
        | _ => (members? fuel rest).map fun (members, after) =>
          (members.elim .broken .object, after)
      else if c = 'n' then word? "null" .null (c :: rest)
      else if c = 't' then word? "true" (.bool true) (c :: rest)
      else if c = 'f' then word? "false" (.bool false) (c :: rest)
      else number? (c :: rest)

def items? : Nat → List Char → Option (List Json × List Char)
  | 0, _ => none
  | fuel + 1, s =>
    match value? fuel s with
    | none => none
    | some (item, after) =>
      match skipSpace after with
      | ',' :: rest => (items? fuel rest).map fun (items, after) => (item :: items, after)
      | ']' :: rest => some ([item], rest)
      | _ => none

/-- Reads members up to the closing brace; `none` inside if a name has no value. -/
def members? : Nat → List Char → Option (Option (List (String × Json)) × List Char)
  | 0, _ => none
  | fuel + 1, s =>
    match skipSpace s with
    | '"' :: rest =>
      match string? rest with
      | none => none
      | some (name, after) =>
        match skipSpace after with
        | ':' :: rest =>
          match value? fuel rest with
          | none => none
          | some (item, after) =>
            let add (others : Option (List (String × Json))) : Option (List (String × Json)) :=
              name.bind fun name => others.map fun others => (name, item) :: others
            match skipSpace after with
            | ',' :: rest =>
              (members? fuel rest).map fun (others, after) => (add others, after)
            | '\x7d' :: rest => some (add (some []), rest)
            | _ => none
        | _ => none
    | _ => none

end

def read? (text : String) : Option Json :=
  let s := text.toList
  match value? (2 * s.length + 2) s with
  | some (j, rest) => if (skipSpace rest).isEmpty then some j else none
  | none => none

end PromptPlan.Json
