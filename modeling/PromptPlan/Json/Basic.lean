import PromptPlan.Decimal.Layout
import PromptPlan.Text.Quoted

/-!
# JSON

The values are those of the text, not of a dictionary: the members of an object keep their
order and their repetitions. A text can be grammatical and still have parts without a value, a
number beyond the range of floats or half of a surrogate pair. Such a part is kept as `broken`
and does no harm where nobody looks.
-/

namespace PromptPlan

inductive Json where
  | null
  | bool (b : Bool)
  | int (n : Int)
  | float (x : Float)
  | string (s : String)
  | array (items : List Json)
  | object (members : List (String × Json))
  | broken
deriving Inhabited

namespace Json

mutual

/-- Whether a value has no broken part and is nested at most `depth` deep. -/
def isSound (depth : Nat) : Json → Bool
  | .broken => false
  | .array items => 0 < depth && allSound (depth - 1) items
  | .object members => 0 < depth && membersSound (depth - 1) members
  | _ => true

def allSound (depth : Nat) : List Json → Bool
  | [] => true
  | item :: rest => item.isSound depth && allSound depth rest

def membersSound (depth : Nat) : List (String × Json) → Bool
  | [] => true
  | (_, item) :: rest => item.isSound depth && membersSound depth rest

end

def maxDepth : Nat := 127

/-! ### Objects as dictionaries -/

/-- Puts a member where its name belongs in the order of names; one already there gives way. -/
def insertMember (name : String) (item : Json) : List (String × Json) → List (String × Json)
  | [] => [(name, item)]
  | (n, i) :: rest =>
    if name = n then (name, item) :: rest
    else if name < n then (name, item) :: (n, i) :: rest
    else (n, i) :: insertMember name item rest

mutual

/-- The value as a dictionary has it: members in the order of their names, and of several
with one name the last. -/
def sorted : Json → Json
  | .array items => .array (sortedAll items)
  | .object members => .object (sortedMembers [] members)
  | j => j

def sortedAll : List Json → List Json
  | [] => []
  | item :: rest => item.sorted :: sortedAll rest

def sortedMembers (sofar : List (String × Json)) : List (String × Json) → List (String × Json)
  | [] => sofar
  | (name, item) :: rest => sortedMembers (insertMember name item.sorted sofar) rest

end

/-- The last member with a name. -/
def member? (name : String) : Json → Option Json
  | .object members => (members.reverse.find? fun m => m.1 == name).map (·.2)
  | _ => none

/-! ### Writing -/

def hexByte (n : Nat) : String :=
  let s := Text.hex n
  if s.length < 2 then "0" ++ s else s

def writeChar (c : Char) : String :=
  if c = '"' then "\\\""
  else if c = '\\' then "\\\\"
  else if c = '\n' then "\\n"
  else if c = '\r' then "\\r"
  else if c = '\t' then "\\t"
  else if c.val = 8 then "\\b"
  else if c.val = 12 then "\\f"
  else if c.val < 32 then "\\u00" ++ hexByte c.toNat
  else c.toString

def writeString (s : String) : String :=
  "\"" ++ String.join (s.toList.map writeChar) ++ "\""

mutual

def write : Json → String
  | .null | .broken => "null"
  | .bool b => if b then "true" else "false"
  | .int n => toString n
  | .float x => Layout.document.write x
  | .string s => writeString s
  | .array items => "[" ++ ",".intercalate (writeItems items) ++ "]"
  | .object members => "\x7b" ++ ",".intercalate (writeMembers members) ++ "\x7d"

def writeItems : List Json → List String
  | [] => []
  | item :: rest => item.write :: writeItems rest

def writeMembers : List (String × Json) → List String
  | [] => []
  | (name, item) :: rest => (writeString name ++ ":" ++ item.write) :: writeMembers rest

end

def newLine (indent : Nat) : String := "\n" ++ "".pushn ' ' indent

mutual

/-- A value over several lines, each level indented by two blanks. -/
def writePretty (indent : Nat) : Json → String
  | .array items =>
    if items.isEmpty then "[]"
    else
      "[" ++ ",".intercalate (prettyItems (indent + 2) items) ++ newLine indent ++ "]"
  | .object members =>
    if members.isEmpty then "\x7b\x7d"
    else
      "\x7b" ++ ",".intercalate (prettyMembers (indent + 2) members) ++ newLine indent ++ "\x7d"
  | j => j.write

def prettyItems (indent : Nat) : List Json → List String
  | [] => []
  | item :: rest => (newLine indent ++ item.writePretty indent) :: prettyItems indent rest

def prettyMembers (indent : Nat) : List (String × Json) → List String
  | [] => []
  | (name, item) :: rest =>
    (newLine indent ++ writeString name ++ ": " ++ item.writePretty indent) ::
      prettyMembers indent rest

end

end Json

end PromptPlan
