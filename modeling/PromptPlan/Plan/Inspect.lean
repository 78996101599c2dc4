import PromptPlan.Plan.Basic

/-!
# Plans as they are shown for inspection

A plan is shown with its written form, its goal, its steps, and everything it has gathered.
Variables are shown under their keys, with the spelling of the latest write beside the value.
-/

namespace PromptPlan

def Variables.shown (v : Variables) : Text.Shown :=
  .record "ContextVariables"
    [("entries", .table (v.toList.map fun e =>
      (e.key, .record "Entry" [("name", .text e.name), ("value", .text e.value)] true)))] true

/-- A plan with its steps and cursor already at hand. -/
def showPlan (h : PlanHead) (steps : List Text.Shown) (cursor : Nat) : Text.Shown :=
  .record "Plan"
    [("name", .text h.qualifiedName), ("description", .text h.description),
      ("steps", .list steps), ("state", h.state.shown), ("parameters", h.parameters.shown),
      ("outputs", .ofTexts h.outputs), ("next_step_index", .ofNat cursor)] true

mutual

def Plan.shown {σ : Type} : Plan σ → Text.Shown
  | .call h _ finished => showPlan h [] (if finished then 1 else 0)
  | .group h past ahead => showPlan h (Plan.shownAll past ++ Plan.shownAll ahead) past.length

def Plan.shownAll {σ : Type} : List (Plan σ) → List Text.Shown
  | [] => []
  | p :: rest => p.shown :: Plan.shownAll rest

end

end PromptPlan
