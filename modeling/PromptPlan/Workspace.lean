import PromptPlan.Plan.Execution
import PromptPlan.Catalog
import PromptPlan.Prompt

/-!
# The workspace

The workspace holds the registered functions, the settings, and a completion backend if there is
one. A context sees the catalog as it was when the context was made, whatever is registered
later.
-/

namespace PromptPlan

structure Context (σ : Type) where
  vars : Variables
  scope : Scope σ

structure Workspace (σ : Type) where
  catalog : Catalog σ
  backend : Option (Backend σ)
  settings : Settings
  /-- How deep calls of functions from functions may be nested. -/
  depth : Nat

namespace Workspace

variable {σ : Type}

def make (settings : Settings) (backend : Option (Backend σ)) (depth : Nat) : Workspace σ :=
  ⟨.empty, backend, settings, depth⟩

def scope (ws : Workspace σ) : Scope σ := ws.catalog.scope ws.depth

def context (ws : Workspace σ) (vars : Variables) : Context σ := ⟨vars, ws.scope⟩

def register (ws : Workspace σ) (f : Function σ) : Workspace σ :=
  { ws with catalog := (ws.catalog.register f).2 }

/-- Registers a prompt template as a function, and gives the function. -/
def registerPrompt (ws : Workspace σ) (skill name template description : String) :
    Result (Function σ × Workspace σ) :=
  match ws.backend with
  | none =>
    .error (.config "A completion backend is required for semantic functions"
      (some s!"Registering `{skill}.{name}`"))
  | some backend => do
    let prompt ← Prompt.make skill name template ws.settings.completion description
    let f := prompt.toFunction backend
    return (f, ws.register f)

def render (ws : Workspace σ) (template : String) (vars : Variables) : Run σ String :=
  Template.render ws.scope vars template

/-- Runs functions one after another, each on the variables that the one before returned. -/
def pipeline (scope : Scope σ) : List (Function σ) → Variables → Run σ Variables
  | [], vars => pure vars
  | f :: rest, vars => do pipeline scope rest (← f.invoke scope vars)

def run (ws : Workspace σ) (vars : Variables) (functions : List (Function σ)) : Run σ Variables :=
  pipeline ws.scope functions vars

/-- Runs a plan to its end, with the time limit of the settings in its whole tree. -/
def runPlan (ws : Workspace σ) (p : Plan σ) (vars : Variables) : PlanRun σ Variables :=
  (p.withTimeout ws.settings.plan.stepTimeout).run ws.scope false vars

end Workspace

end PromptPlan
