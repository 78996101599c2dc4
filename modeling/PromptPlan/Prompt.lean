import PromptPlan.Settings.Basic
import PromptPlan.Function
import PromptPlan.Template.Render

/-!
# Prompts as functions

A prompt template becomes a function: called, it renders the template with the variables it
received, sends the prompt to a completion backend, and answers with the completion.
-/

namespace PromptPlan

abbrev Backend (σ : Type) : Type := String → CompletionSettings → Run σ String

structure Prompt where
  skill : String
  name : String
  description : String
  template : String
  blocks : List Template.Block
  settings : CompletionSettings

namespace Prompt

/-- Makes a prompt; a template with a flaw is refused. -/
def make (skill name template : String) (settings : CompletionSettings) (description : String) :
    Result Prompt := do
  let blocks ← Template.readValid template
  return {
    skill := skillOrGlobal skill
    name := name
    description := description
    template := template
    blocks := blocks
    settings := settings }

def blockVariables : Template.Block → List String
  | .variable content => [Template.variableName content]
  | .code _ tokens => tokens.filterMap fun
    | .variable content => some (Template.variableName content)
    | _ => none
  | _ => []

/-- Keeps the first of several names that agree up to the case of ASCII letters. -/
def distinct (names : List String) : List String :=
  names.foldl (fun kept name => if kept.any (Text.sameAscii · name) then kept else kept ++ [name])
    []

def variableNames (p : Prompt) : List String :=
  distinct (p.blocks.flatMap blockVariables)

/-- The main slot and the other variables of the template. -/
def parameters (p : Prompt) : List Parameter :=
  -- An unset variable renders as nothing, so all have the empty text as default.
  .optional mainSlot "Input text" "" ::
    ((p.variableNames.filter (!Text.sameAscii · mainSlot)).map fun name => .optional name "" "")

def toFunction {σ : Type} (p : Prompt) (backend : Backend σ) : Function σ where
  name := p.name
  skill := p.skill
  description := p.description
  semantic := true
  parameters := p.parameters
  isPlan := false
  body := fun scope vars => do
    let prompt ← Template.renderBlocks scope vars p.blocks
    let answer ← backend prompt p.settings
    return vars.setInput answer

def shown (p : Prompt) : Text.Shown :=
  .record "SemanticFunction"
    [("skill_name", .text p.skill), ("name", .text p.name), ("template", .text p.template),
      ("settings", p.settings.shown)] false

end Prompt

end PromptPlan
