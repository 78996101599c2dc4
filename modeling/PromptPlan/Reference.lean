import PromptPlan.Text.Blank

/-!
# References to functions

A function belongs to a skill, and is written `skill.name`. Functions registered without a skill
are *global*: they live in a skill with a reserved name that is never written out.
-/

namespace PromptPlan

/-- The skill of functions registered without one. -/
def globalSkill : String := "_GLOBAL_FUNCTIONS_"

/-- Whether a skill is the global one: unnamed, or by its reserved name. -/
def isGlobal (skill : String) : Bool :=
  skill.isEmpty || skill == globalSkill

/-- The written form of a function: `skill.name`, or the bare name of a global function. -/
def qualify (skill name : String) : String :=
  if isGlobal skill then name else skill ++ "." ++ name

/-- Cuts a text at its first dot. -/
def cutDot : List Char → Option (List Char × List Char)
  | [] => none
  | c :: rest =>
    if c = '.' then some ([], rest)
    else (cutDot rest).map fun (before, after) => (c :: before, after)

/-- A function named from outside; no skill means a global function. -/
structure Reference where
  skill : Option String
  name : String
deriving DecidableEq, Repr

def Reference.parse (s : String) : Reference :=
  -- A second dot is part of the name.
  match cutDot s.toList with
  | some (skill, name) => ⟨some (String.ofList skill), String.ofList name⟩
  | none => ⟨none, s⟩

def Reference.qualified (r : Reference) : String :=
  qualify (r.skill.getD "") r.name

end PromptPlan
