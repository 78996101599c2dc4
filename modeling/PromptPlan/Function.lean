import PromptPlan.Reference
import PromptPlan.Run
import PromptPlan.Text.Inspect

/-!
# Functions

A function receives variables and returns variables, with its answer in the main slot; its body
gets the scope it was called in. Before it is called it can be asked for its *profile*, and a
planner chooses functions by the manual made from profiles.
-/

namespace PromptPlan

structure Parameter where
  name : String
  description : String
  default : Option String
  required : Bool
deriving DecidableEq, Repr, Inhabited

def Parameter.needed (name description : String) : Parameter :=
  ⟨name, description, none, true⟩

def Parameter.optional (name description default : String) : Parameter :=
  ⟨name, description, some default, false⟩

def Parameter.shown (p : Parameter) : Text.Shown :=
  .record "ParameterView"
    [("name", .text p.name), ("description", .text p.description),
      ("default_value", .optional (p.default.map .text)), ("required", .ofBool p.required)] true

structure Profile where
  name : String
  skill : String
  description : String
  semantic : Bool
  parameters : List Parameter
deriving DecidableEq, Repr, Inhabited

namespace Profile

def manualLine (p : Parameter) : String :=
  "\n  - " ++ p.name ++ ": " ++ p.description ++
    (p.default.elim "" fun default => " (default: '" ++ default ++ "')")

/-- The entry of a manual for a function: its reference and description, and a line for
each parameter. -/
def manualEntry (p : Profile) : String :=
  p.skill ++ "." ++ p.name ++ ": " ++ p.description ++ String.join (p.parameters.map manualLine)

end Profile

/-- A function with its body. Plans can be registered as functions. -/
structure Function (σ : Type) extends Profile where
  isPlan : Bool
  body : Scope σ → Variables → Run σ Variables

namespace Function

variable {σ : Type}

def nameKey (f : Function σ) : String := Text.lower f.name

/-- The written form of a function; a plan without a name goes by its skill. -/
def qualifiedName (f : Function σ) : String :=
  if f.isPlan && f.name.isEmpty then f.skill else qualify f.skill f.name

def invoke (f : Function σ) (scope : Scope σ) (vars : Variables) : Run σ Variables :=
  (f.body scope vars).mapError (·.inFunction f.qualifiedName)

end Function

/-! ### Functions of the host -/

/-- The skill under which a function of the host is registered. -/
def skillOrGlobal (skill : String) : String :=
  if skill.isEmpty then globalSkill else skill

/-- A function of the host that is given with its name, purpose and parameters. -/
def Function.native {σ : Type} (skill name description : String) (parameters : List Parameter)
    (body : Scope σ → Variables → Run σ Variables) : Function σ where
  name := name
  skill := skillOrGlobal skill
  description := description
  semantic := false
  parameters := parameters
  isPlan := false
  body := body

/-- A function of the host that says nothing about its parameters and keeps its skill as
it was given. -/
def Function.bare {σ : Type} (skill name description : String)
    (body : Scope σ → Variables → Run σ Variables) : Function σ where
  name := name
  skill := skill
  description := description
  semantic := false
  parameters := []
  isPlan := false
  body := body

def Profile.shownNative (p : Profile) : Text.Shown :=
  .record "NativeFunction"
    [("skill_name", .text p.skill), ("name", .text p.name),
      ("parameters", .list (p.parameters.map Parameter.shown))] false

end PromptPlan
