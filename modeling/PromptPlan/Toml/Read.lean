import PromptPlan.Toml.Scalar
import PromptPlan.Toml.Table

/-!
# Reading TOML documents

A document is read line by line into a tree of tables: headers start tables, and keys add values
to the table of the latest header. A document that breaks the grammar or the rules for tables
anywhere has no value at all.
-/

namespace PromptPlan.Toml

/-- Arrays, braces and the parts of a key are nested at most this deep. -/
def maxNesting : Nat := 79

def word? (word : String) (t : Toml) (s : List Char) : Option (Toml × List Char) :=
  if word.toList.isPrefixOf s then some (t, s.drop word.length) else none

def number? (s : List Char) : Option (Toml × List Char) :=
  match dateTime? s with
  | some rest => some (.moment, rest)
  | none =>
    match float? s with
    | some (x, rest) => some (.scalar (.float x), rest)
    | none => (int? s).map fun (n, rest) => (.scalar (.int n), rest)

def items? (value : List Char → Option (Toml × List Char)) :
    Nat → List Char → Option (List Toml × List Char)
  | 0, _ => none
  | fuel + 1, s => do
    match ← skipTrivia false s with
    | ']' :: rest => return ([], rest)
    | s =>
      let (item, rest) ← value s
      match ← skipTrivia false rest with
      | ',' :: rest =>
        let (others, rest) ← items? value fuel rest
        return (item :: others, rest)
      | ']' :: rest => return ([item], rest)
      | _ => none

def members? (value : List Char → Option (Toml × List Char)) :
    Nat → Members → List Char → Option (Members × List Char)
  | 0, _, _ => none
  | fuel + 1, members, s => do
    let (path, rest) ← key? maxNesting s
    let (t, rest) ← value (skipSpace (← char? '=' rest))
    let members ← addValue path t members
    match skipSpace rest with
    | ',' :: rest => members? value fuel members rest
    | '\x7d' :: rest => return (members, rest)
    | _ => none

def value? : Nat → List Char → Option (Toml × List Char)
  | _, [] => none
  | depth, c :: rest =>
    if c = '"' ∨ c = '\'' then
      (text? (c :: rest)).map fun (s, rest) => (.scalar (.string (String.ofList s)), rest)
    else if c = 't' then word? "true" (.scalar (.bool true)) (c :: rest)
    else if c = 'f' then word? "false" (.scalar (.bool false)) (c :: rest)
    else if c = '[' then
      match depth with
      | 0 => none
      | depth + 1 =>
        (items? (value? depth) (rest.length + 1) rest).map fun (items, rest) =>
          (.array items, rest)
    else if c = '\x7b' then
      match depth with
      | 0 => none
      | depth + 1 =>
        match skipSpace rest with
        | '\x7d' :: rest => some (.table .braces [], rest)
        | rest =>
          (members? (value? depth) (rest.length + 1) [] rest).map fun (members, rest) =>
            (.table .braces members, rest)
    else number? (c :: rest)

/-- What has been read of a document: all tables, and the header that keys belong to. -/
structure Reading where
  header : List String
  members : Members

/-- Reads one line, or a key whose value goes on over several. -/
def line? (r : Reading) (s : List Char) : Option (Reading × List Char) := do
  match skipSpace s with
  | '[' :: '[' :: rest =>
    let (path, rest) ← key? maxNesting rest
    let rest ← char? ']' (← char? ']' rest)
    return (⟨path, ← startItem path r.members⟩, ← endLine? rest)
  | '[' :: rest =>
    let (path, rest) ← key? maxNesting rest
    let rest ← char? ']' rest
    return (⟨path, ← startTable path r.members⟩, ← endLine? rest)
  | '#' :: rest => return (r, ← endLine? ('#' :: rest))
  | s =>
    match lineBreak? s with
    | some rest => return (r, rest)
    | none =>
      if s.isEmpty then return (r, [])
      let (path, rest) ← key? maxNesting s
      let (t, rest) ← value? maxNesting (skipSpace (← char? '=' rest))
      return (⟨r.header, ← addBelow r.header path t r.members⟩, ← endLine? rest)

def lines? : Nat → Reading → List Char → Option Members
  | _, r, [] => some r.members
  | 0, _, _ => none
  | fuel + 1, r, s => do
    let (r, rest) ← line? r s
    lines? fuel r rest

def read? (text : String) : Option Toml :=
  let s :=
    match text.toList with
    -- A byte order mark is passed over.
    | '\ufeff' :: rest => rest
    | s => s
  (lines? (s.length + 1) ⟨[], []⟩ s).map (.table .header)

end PromptPlan.Toml
