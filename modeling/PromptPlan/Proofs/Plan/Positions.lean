import Mathlib.Data.List.Nodup
import PromptPlan.Plan.Basic

/-!
# Positions in a plan

A node of a plan is found by its *position*: the index of a step, the index of a step of
that step, and so on. Indices count all steps of a group, done or ahead, so a step keeps its
position when it is done.

The calls that remain to be made are listed by their positions in the order in which they
come up: from left to right, and the calls of a group where the group stands. A step that is
a call remains as long as it is ahead, whatever it was on its own before it became a step;
of a group only what it has ahead remains.
-/

namespace PromptPlan

/-- The way from a plan down to a node. -/
abbrev Position : Type := List Nat

namespace Plan

variable {σ : Type}

/-- Induction over the tree: what holds of calls, and of a group if it holds of its steps,
holds of every plan. -/
theorem steps_induction {motive : Plan σ → Prop}
    (call : ∀ head function finished, motive (.call head function finished))
    (group : ∀ head past ahead, (∀ step ∈ past, motive step) → (∀ step ∈ ahead, motive step) →
      motive (.group head past ahead)) (p : Plan σ) : motive p := by
  have hnil : ∀ step ∈ ([] : List (Plan σ)), motive step := by simp
  have hcons : ∀ (step : Plan σ) (rest : List (Plan σ)), motive step →
      (∀ s ∈ rest, motive s) → ∀ s ∈ step :: rest, motive s := by
    intro step rest hstep hrest s hs
    rcases List.mem_cons.1 hs with rfl | hs
    · exact hstep
    · exact hrest s hs
  exact @Plan.rec σ motive (fun steps => ∀ step ∈ steps, motive step) call group hnil hcons p

theorem getElem?_steps_group (head : PlanHead) (past rest : List (Plan σ)) (step : Plan σ) :
    (Plan.group head past (step :: rest)).steps[past.length]? = some step := by
  simp [steps]

theorem getElem?_steps_of_ne (head : PlanHead) (past rest : List (Plan σ))
    (step step' : Plan σ) {i : Nat} (hi : i ≠ past.length) :
    (Plan.group head past (step' :: rest)).steps[i]? =
      (Plan.group head past (step :: rest)).steps[i]? := by
  simp only [steps, List.getElem?_append, List.getElem?_cons]
  have hi' : i < past.length ∨ i - past.length ≠ 0 := by omega
  rcases hi' with hi' | hi' <;> simp [hi']

/-- The node at a position. -/
def node? : Position → Plan σ → Option (Plan σ)
  | [], p => some p
  | i :: position, p => (p.steps[i]?).bind (node? position)

theorem node?_cons (i : Nat) (position : Position) (p : Plan σ) :
    node? (i :: position) p = (p.steps[i]?).bind (node? position) := rfl

theorem node?_append (parent position : Position) (p : Plan σ) :
    node? (parent ++ position) p = (node? parent p).bind (node? position) := by
  induction parent generalizing p with
  | nil => rfl
  | cons i parent ih =>
      rw [List.cons_append, node?_cons, node?_cons]
      cases p.steps[i]? with
      | none => rfl
      | some step => exact ih step

/-! ### The calls that remain -/

mutual

/-- The calls of a step that is ahead. -/
def callsAhead : Plan σ → List Position
  | .call .. => [[]]
  | .group _ past ahead => callsFrom past.length ahead

/-- The calls of steps that are ahead, the first of which has the index `i`. -/
def callsFrom (i : Nat) : List (Plan σ) → List Position
  | [] => []
  | step :: rest => (callsAhead step).map (i :: ·) ++ callsFrom (i + 1) rest

end

/-- The calls that a plan has to make until it is done. -/
def remaining : Plan σ → List Position
  | .call _ _ finished => if finished then [] else [[]]
  | .group _ past ahead => callsFrom past.length ahead

theorem remaining_eq_callsAhead {p : Plan σ} (h : p.isCall = false) :
    p.remaining = p.callsAhead := by
  cases p with
  | call head function finished => cases h
  | group head past ahead => rw [remaining, callsAhead]

theorem le_of_mem_callsFrom {i : Nat} {steps : List (Plan σ)} {position : Position}
    (h : position ∈ callsFrom i steps) : ∃ j rest, position = j :: rest ∧ i ≤ j := by
  induction steps generalizing i with
  | nil => simp [callsFrom] at h
  | cons step steps ih =>
      rw [callsFrom, List.mem_append] at h
      rcases h with h | h
      · obtain ⟨rest, _, rfl⟩ := List.mem_map.1 h
        exact ⟨i, rest, rfl, Nat.le_refl i⟩
      · obtain ⟨j, rest, rfl, hj⟩ := ih h
        exact ⟨j, rest, rfl, by omega⟩

theorem nodup_callsFrom {i : Nat} {steps : List (Plan σ)}
    (h : ∀ step ∈ steps, step.callsAhead.Nodup) : (callsFrom i steps).Nodup := by
  induction steps generalizing i with
  | nil => simp [callsFrom]
  | cons step steps ih =>
      rw [callsFrom, List.nodup_append]
      refine ⟨?_, ih fun s hs => h s (List.mem_cons_of_mem step hs), ?_⟩
      · exact (h step (by simp)).map (List.cons_injective)
      · -- the calls of a step begin with its index, and those of later steps with a greater one
        rintro a ha b hb rfl
        obtain ⟨rest, _, rfl⟩ := List.mem_map.1 ha
        obtain ⟨j, rest', heq, hj⟩ := le_of_mem_callsFrom hb
        rw [List.cons.injEq] at heq
        omega

theorem nodup_callsAhead (p : Plan σ) : p.callsAhead.Nodup := by
  induction p using steps_induction with
  | call head function finished => simp [callsAhead]
  | group head past ahead _ ih =>
      rw [callsAhead]
      exact nodup_callsFrom ih

/-- No call remains twice. -/
theorem nodup_remaining (p : Plan σ) : p.remaining.Nodup := by
  cases p with
  | call head function finished => cases finished <;> simp [remaining]
  | group head past ahead => exact nodup_callsFrom fun step _ => nodup_callsAhead step

end Plan

end PromptPlan
