import PromptPlan.Run
import PromptPlan.Template.Segment

/-!
# Rendering

A list of blocks is rendered from left to right. All blocks are looked over first, so a template
with a flaw fails before any function is called. A call gets a copy of the variables, and of its
answer only the main slot is used.
-/

namespace PromptPlan.Template

variable {σ : Type}

/-- Calls the function a reference names and gives its main slot. -/
def call (scope : Scope σ) (vars : Variables) (reference : String) (argument : Option Block) :
    Run σ String :=
  let target := Reference.parse reference
  match scope target.skill target.name with
  | none => .fail (.unknownFunction reference (some "Referenced by a template code block"))
  | some callee =>
    let received :=
      match argument with
      | some block => vars.setInput ((block.render? vars).getD "")
      | none => vars
    do return (← callee.invoke received).input

def renderCode (scope : Scope σ) (vars : Variables) (content : String) :
    List Block → Run σ String
  | [.function reference] => call scope vars reference none
  | [.function reference, argument] => call scope vars reference (some argument)
  | [token] =>
    match token.render? vars with
    | some text => pure text
    | none => .fail (.malformedIn "Unexpected token" content)
  | _ => .fail (.malformedIn "Invalid code block" content)

def renderBlock (scope : Scope σ) (vars : Variables) : Block → Run σ String
  | .code content tokens => renderCode scope vars content tokens
  | .function reference => call scope vars reference none
  | block => pure ((block.render? vars).getD "")

def renderEach (scope : Scope σ) (vars : Variables) : List Block → Run σ String
  | [] => pure ""
  | block :: rest => do
    let first ← renderBlock scope vars block
    let others ← renderEach scope vars rest
    return first ++ others

/-- Renders blocks, all of which must keep to the grammar. -/
def renderBlocks (scope : Scope σ) (vars : Variables) (blocks : List Block) : Run σ String :=
  match firstError? blocks with
  | some e => .fail e
  | none => renderEach scope vars blocks

/-- Renders a template. -/
def render (scope : Scope σ) (vars : Variables) (template : String) : Run σ String :=
  renderBlocks scope vars (read template)

def resolveBlock (vars : Variables) (block : Block) : Block :=
  match block with
  | .variable _ | .value _ => ((block.render? vars).map Block.text).getD block
  -- Of a span only the first token is looked at.
  | .code _ (token :: _) =>
    if !block.isCall && token.isValid then ((token.render? vars).map Block.text).getD block
    else block
  | _ => block

/-- Replaces every block that needs no function by its text. -/
def resolve (vars : Variables) (blocks : List Block) : List Block :=
  blocks.map (resolveBlock vars)

end PromptPlan.Template
