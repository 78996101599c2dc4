import PromptPlan.Error
import PromptPlan.Reference
import PromptPlan.Template.Literal
import PromptPlan.Text.Word
import PromptPlan.Variables

/-!
# Blocks

A template is a list of blocks. Reading it never fails: whatever was written becomes a block,
and a block that breaks the grammar has a *flaw*, which is looked for before anything is
rendered. Everything else about a block is computed from the text it was made from.
-/

namespace PromptPlan.Template

inductive Block where
  | text (content : String)
  | variable (content : String)
  | value (content : String)
  | function (content : String)
  | code (content : String) (tokens : List Block)
deriving Inhabited

inductive Kind where
  | text
  | variable
  | value
  | function
  | code
deriving DecidableEq, Repr

def Kind.label : Kind → String
  | .text => "text"
  | .variable => "variable"
  | .value => "value"
  | .function => "function id"
  | .code => "code"

namespace Block

/-! ### Making blocks -/

def ofVariable (s : String) : Block := .variable (Text.trim s)

def ofValue (s : String) : Block := .value (Text.trim s)

def ofFunction (s : String) : Block := .function (Text.trim s)

def ofCode (s : String) (tokens : List Block) : Block := .code (Text.trim s) tokens

/-! ### Reading blocks -/

def kind : Block → Kind
  | .text _ => .text
  | .variable _ => .variable
  | .value _ => .value
  | .function _ => .function
  | .code .. => .code

/-- The text a block was made from. -/
def content : Block → String
  | .text s | .variable s | .value s | .function s | .code s _ => s

def tokens : Block → List Block
  | .code _ tokens => tokens
  | _ => []

/-- The argument of a call: the second token of a code block. -/
def argument? (b : Block) : Option Block :=
  b.tokens[1]?

def isCall (b : Block) : Bool :=
  match b.tokens with
  | .function _ :: _ => true
  | _ => false

end Block

/-- The name of a variable: what follows the dollar sign, or nothing without one. -/
def variableName (content : String) : String :=
  match content.toList with
  | '$' :: name => String.ofList name
  | _ => ""

/-- The text of a quoted value, escapes resolved. -/
def valueText (content : String) : String :=
  String.ofList (literalText content.toList)

def valueQuote? (content : String) : Option Char :=
  content.toList.head?.filter isQuote

/-! ### Flaws -/

inductive Flaw where
  | variableSign
  | variableEmpty
  | variableCharacters (name : String)
  | valueQuotes
  | valueMixedQuotes
  | valueOpen
  | functionEmpty
  | functionCharacters
  | functionDots
  | functionParts
  | codeEmpty
  | codeSecondToken (content : String)
  | codeArgument
  | codeArguments
deriving DecidableEq, Repr

def Flaw.message : Flaw → String
  | .variableSign => "A variable must start with the symbol $"
  | .variableEmpty => "The variable name is empty"
  | .variableCharacters name =>
    s!"The variable name '{name}' contains invalid characters. " ++
      "Only alphanumeric chars and underscore are allowed"
  | .valueQuotes => "A value must have single quotes or double quotes on both sides"
  | .valueMixedQuotes =>
    "A value must be defined using either single quotes or double quotes, not both"
  | .valueOpen => "The value is not terminated"
  | .functionEmpty => "The function identifier is empty"
  | .functionCharacters =>
    "The function identifier contains invalid characters. " ++
      "Only alphanumeric chars, underscore and a single dot are allowed"
  | .functionDots =>
    "The function identifier can contain at most one dot separating " ++
      "the skill name from the function name"
  | .functionParts => "The skill name and the function name must not be empty"
  | .codeEmpty => "A code block must contain a value, a variable or a function call"
  | .codeSecondToken content => s!"Unexpected second token found: {content}"
  | .codeArgument => "Functions support only one parameter, a value or a variable"
  | .codeArguments => "Functions support only one parameter"

/-- The failure for a flaw of a block with the given content. -/
def Flaw.error (content : String) : Flaw → Error
  -- An empty reference has no fragment to show.
  | .functionEmpty => .malformed Flaw.functionEmpty.message none
  | .codeEmpty => .malformedIn Flaw.codeEmpty.message ("\x7b\x7b" ++ content ++ "\x7d\x7d")
  | flaw => .malformedIn flaw.message content

def variableFlaw? (content : String) : Option Flaw :=
  match content.toList with
  | '$' :: name =>
    if name.isEmpty then some .variableEmpty
    else if name.all Text.isIdentifier then none
    else some (.variableCharacters (String.ofList name))
  | _ => some .variableSign

def valueFlaw? (content : String) : Option Flaw :=
  match content.toList with
  | first :: second :: rest =>
    let inside := (second :: rest).dropLast
    let last := (second :: rest).getLast (List.cons_ne_nil _ _)
    if !isQuote first || !isQuote last then some .valueQuotes
    else if first ≠ last then some .valueMixedQuotes
    -- After an odd run of backslashes the last quote is part of the text.
    else if (inside.reverse.takeWhile (· == '\\')).length % 2 = 1 then some .valueOpen
    else none
  | _ => some .valueQuotes

def functionFlaw? (content : String) : Option Flaw :=
  let s := content.toList
  if s.isEmpty then some .functionEmpty
  else if !s.all (fun c => Text.isIdentifier c || c == '.') then some .functionCharacters
  else if 1 < s.count '.' then some .functionDots
  else
    match cutDot s with
    | some (skill, name) =>
      if skill.isEmpty || name.isEmpty then some .functionParts else none
    | none => none

/-- The flaw of a code block whose tokens have none of their own. -/
def shapeFlaw? (tokens : List Block) : Option Flaw :=
  match tokens with
  | [] => some .codeEmpty
  | [_] => none
  | first :: second :: rest =>
    if first.kind ≠ .function then some (.codeSecondToken second.content)
    else if second.kind ≠ .value ∧ second.kind ≠ .variable then some .codeArgument
    else if rest.isEmpty then none
    else some .codeArguments

mutual

/-- The failure of a block that breaks the grammar; tokens come before the block they make. -/
def Block.error? : Block → Option Error
  | .text _ => none
  | .variable content => (variableFlaw? content).map (·.error content)
  | .value content => (valueFlaw? content).map (·.error content)
  | .function content => (functionFlaw? content).map (·.error content)
  | .code content tokens =>
    (firstError? tokens).or ((shapeFlaw? tokens).map (·.error content))

/-- The failure of the first block of a list that breaks the grammar. -/
def firstError? : List Block → Option Error
  | [] => none
  | b :: rest => b.error?.or (firstError? rest)

end

namespace Block

def isValid (b : Block) : Bool := b.error?.isNone

/-- What a block stands for without calling a function; references and code blocks stand
for nothing by themselves. -/
def render? (vars : Variables) : Block → Option String
  | .text s => some s
  | .variable s => some ((vars.get? (variableName s)).getD "")
  | .value s => some (valueText s)
  | .function _ => none
  | .code .. => none

end Block

mutual

/-- Equality of blocks: the same kind, content and tokens. -/
def Block.same : Block → Block → Bool
  | .text a, .text b => a == b
  | .variable a, .variable b => a == b
  | .value a, .value b => a == b
  | .function a, .function b => a == b
  | .code a s, .code b t => a == b && Block.sameAll s t
  | _, _ => false

def Block.sameAll : List Block → List Block → Bool
  | [], [] => true
  | a :: s, b :: t => a.same b && Block.sameAll s t
  | _, _ => false

end

theorem firstError?_eq_findSome? (blocks : List Block) :
    firstError? blocks = blocks.findSome? Block.error? := by
  induction blocks with
  | nil => simp [firstError?]
  | cons b rest ih =>
    rw [firstError?, ih, List.findSome?_cons]
    cases b.error? <;> rfl

theorem firstError?_eq_none_iff {blocks : List Block} :
    firstError? blocks = none ↔ ∀ b ∈ blocks, b.isValid = true := by
  simp [firstError?_eq_findSome?, Block.isValid]

end PromptPlan.Template
