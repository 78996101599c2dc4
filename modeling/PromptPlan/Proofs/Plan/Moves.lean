import Mathlib.Logic.Relation
import PromptPlan.Proofs.Plan.Positions
import PromptPlan.Proofs.Plan.Running

/-!
# How a plan advances

A plan advances by *commits*: the step at the cursor of one of its nodes is done, its answer goes
into the state of that node, and the cursor moves past it. A node is reached through cursors only,
so everything after a cursor stays as it is.

A *moment* is the plan with the calls that were attempted so far. Whatever the order and number of
the moves from moment to moment, the committed calls are the first of those that remained at the
start, in order and without a gap (`History.of_isChain`).
-/

namespace PromptPlan

/-- An attempt at a call of a plan: where the call stands, what the function received and how
it ended. -/
structure Attempt where
  position : Position
  received : Variables
  ended : Exit Variables

namespace Attempt

/-- Whether the function answered. -/
def succeeded (attempt : Attempt) : Bool :=
  attempt.ended.isDone

/-- An attempt in a node, seen from where the node stands. -/
def below (place : Position) (attempt : Attempt) : Attempt :=
  { attempt with position := place ++ attempt.position }

@[simp] theorem below_nil (attempt : Attempt) : attempt.below [] = attempt := rfl

theorem below_below (place inner : Position) (attempt : Attempt) :
    (attempt.below inner).below place = attempt.below (place ++ inner) := by
  simp [below]

end Attempt

namespace Plan

variable {σ : Type}

/-- The step at a position is committed; the position of a call that is no step is its own. -/
inductive Commit : Position → Plan σ → Plan σ → Prop
  | self {head : PlanHead} {function : Option (Function σ)} {answer : Variables} :
      Commit [] (.call head function false)
        (.call (head.commit answer head.outputs) function true)
  | step {head : PlanHead} {past rest : List (Plan σ)} {step : Plan σ} {answer : Variables} :
      Commit [past.length] (.group head past (step :: rest))
        (.group (head.commit answer step.outputs) (past ++ [step]) rest)
  | within {position : Position} {head : PlanHead} {past rest : List (Plan σ)}
      {step step' : Plan σ} :
      step.isCall = false → Commit position step step' →
        Commit (past.length :: position) (.group head past (step :: rest))
          (.group head past (step' :: rest))

/-- A plan, and the calls attempted so far. -/
structure Moment (σ : Type) where
  attempts : List Attempt
  plan : Plan σ

/-- What can happen next. -/
inductive Move : Moment σ → Moment σ → Prop
  /-- The next call does not succeed. -/
  | refused {attempts : List Attempt} {attempt : Attempt} {p : Plan σ} :
      p.remaining.head? = some attempt.position → attempt.succeeded = false →
        Move ⟨attempts, p⟩ ⟨attempts ++ [attempt], p⟩
  /-- The next call succeeds and is committed. -/
  | called {attempts : List Attempt} {attempt : Attempt} {p q : Plan σ} :
      p.remaining.head? = some attempt.position → attempt.succeeded = true →
        Commit attempt.position p q → Move ⟨attempts, p⟩ ⟨attempts ++ [attempt], q⟩
  /-- A group with nothing ahead is committed. -/
  | closed {attempts : List Attempt} {position : Position} {p q step : Plan σ} :
      node? position p = some step → step.isCall = false → step.hasNext = false →
        Commit position p q → Move ⟨attempts, p⟩ ⟨attempts, q⟩

/-- From `p`, attempts lead to `q`. -/
def Leads (p : Plan σ) (attempts : List Attempt) (q : Plan σ) : Prop :=
  Relation.ReflTransGen Move ⟨[], p⟩ ⟨attempts, q⟩

/-! ### What a commit leaves alone -/

theorem Commit.isCall_eq {position : Position} {p q : Plan σ} (h : Commit position p q) :
    q.isCall = p.isCall := by
  cases h <;> rfl

theorem Commit.outputs_eq {position : Position} {p q : Plan σ} (h : Commit position p q) :
    q.outputs = p.outputs := by
  cases h <;> rfl

theorem Move.isCall_eq {m m' : Moment σ} (h : Move m m') : m'.plan.isCall = m.plan.isCall := by
  cases h with
  | refused _ _ => rfl
  | called _ _ h => exact h.isCall_eq
  | closed _ _ _ h => exact h.isCall_eq

theorem Move.outputs_eq {m m' : Moment σ} (h : Move m m') :
    m'.plan.outputs = m.plan.outputs := by
  cases h with
  | refused _ _ => rfl
  | called _ _ h => exact h.outputs_eq
  | closed _ _ _ h => exact h.outputs_eq

/-! ### Work and more work -/

theorem Move.after {m m' : Moment σ} (h : Move m m') (earlier : List Attempt) :
    Move ⟨earlier ++ m.attempts, m.plan⟩ ⟨earlier ++ m'.attempts, m'.plan⟩ := by
  cases h with
  | refused hnext hended => rw [← List.append_assoc]; exact .refused hnext hended
  | called hnext hended h => rw [← List.append_assoc]; exact .called hnext hended h
  | closed hnode hgroup hclosed h => exact .closed hnode hgroup hclosed h

theorem Leads.refl (p : Plan σ) : Leads p [] p :=
  Relation.ReflTransGen.refl

theorem Leads.refused {attempt : Attempt} {p : Plan σ}
    (hnext : p.remaining.head? = some attempt.position) (hended : attempt.succeeded = false) :
    Leads p [attempt] p :=
  Relation.ReflTransGen.single (@Move.refused σ [] attempt p hnext hended)

theorem Leads.called {attempt : Attempt} {p q : Plan σ}
    (hnext : p.remaining.head? = some attempt.position) (hended : attempt.succeeded = true)
    (h : Commit attempt.position p q) : Leads p [attempt] q :=
  Relation.ReflTransGen.single (@Move.called σ [] attempt p q hnext hended h)

theorem Leads.closed {position : Position} {p q step : Plan σ}
    (hnode : node? position p = some step) (hgroup : step.isCall = false)
    (hclosed : step.hasNext = false) (h : Commit position p q) : Leads p [] q :=
  Relation.ReflTransGen.single (.closed hnode hgroup hclosed h)

theorem Leads.after {q r : Plan σ} {later : List Attempt} (h : Leads q later r)
    (earlier : List Attempt) :
    Relation.ReflTransGen Move ⟨earlier, q⟩ ⟨earlier ++ later, r⟩ := by
  have hlift := Relation.ReflTransGen.lift
    (fun m : Moment σ => (⟨earlier ++ m.attempts, m.plan⟩ : Moment σ))
    (fun _ _ hmove => Move.after hmove earlier) _ _ h
  simp only [Function.onFun, List.append_nil] at hlift
  exact hlift

theorem Leads.trans {p q r : Plan σ} {earlier later : List Attempt} (h : Leads p earlier q)
    (h' : Leads q later r) : Leads p (earlier ++ later) r :=
  Relation.ReflTransGen.trans h (h'.after earlier)

/-- What holds of a plan with nothing attempted and is kept by each move holds at the end. -/
theorem Leads.of_moves {motive : Moment σ → Prop} {p q : Plan σ} {attempts : List Attempt}
    (h : Leads p attempts q) (hmove : ∀ m m', Move m m' → motive m → motive m')
    (hp : motive ⟨[], p⟩) : motive ⟨attempts, q⟩ := by
  have hall : ∀ m, Relation.ReflTransGen Move ⟨[], p⟩ m → motive m := by
    intro m hm
    induction hm with
    | refl => exact hp
    | tail _ hlast ih => exact hmove _ _ hlast ih
  exact hall _ h

theorem isCall_eq_of_moves {m m' : Moment σ} (h : Relation.ReflTransGen Move m m') :
    m'.plan.isCall = m.plan.isCall := by
  induction h with
  | refl => rfl
  | tail _ hmove ih => rw [hmove.isCall_eq, ih]

theorem Leads.isCall_eq {p q : Plan σ} {attempts : List Attempt} (h : Leads p attempts q) :
    q.isCall = p.isCall :=
  isCall_eq_of_moves h

theorem outputs_eq_of_moves {m m' : Moment σ} (h : Relation.ReflTransGen Move m m') :
    m'.plan.outputs = m.plan.outputs := by
  induction h with
  | refl => rfl
  | tail _ hmove ih => rw [hmove.outputs_eq, ih]

theorem Leads.outputs_eq {p q : Plan σ} {attempts : List Attempt} (h : Leads p attempts q) :
    q.outputs = p.outputs :=
  outputs_eq_of_moves h

/-! ### Work within a step -/

/-- The moment of a plan whose step at the cursor is at the moment `m`. -/
def Moment.within (head : PlanHead) (past rest : List (Plan σ)) (m : Moment σ) : Moment σ :=
  ⟨m.attempts.map (Attempt.below [past.length]), .group head past (m.plan :: rest)⟩

theorem head?_remaining_group {p : Plan σ} (hp : p.isCall = false) {position : Position}
    (h : p.remaining.head? = some position) (head : PlanHead) (past rest : List (Plan σ)) :
    (Plan.group head past (p :: rest)).remaining.head? = some (past.length :: position) := by
  rw [remaining_eq_callsAhead hp] at h
  rw [remaining, callsFrom, List.head?_append, List.head?_map, h]
  rfl

theorem head?_remaining_call (head : PlanHead) (past rest : List (Plan σ)) (h : PlanHead)
    (function : Option (Function σ)) (finished : Bool) :
    (Plan.group head past (.call h function finished :: rest)).remaining.head? =
      some [past.length] := by
  rw [remaining, callsFrom, callsAhead]
  rfl

theorem Move.within {m m' : Moment σ} (h : Move m m') (hm : m.plan.isCall = false)
    (head : PlanHead) (past rest : List (Plan σ)) :
    Move (m.within head past rest) (m'.within head past rest) := by
  cases h with
  | refused hnext hended =>
      simp only [Moment.within, List.map_append]
      exact .refused (head?_remaining_group hm hnext head past rest) hended
  | called hnext hended h =>
      simp only [Moment.within, List.map_append]
      exact .called (head?_remaining_group hm hnext head past rest) hended (.within hm h)
  | @closed attempts position p q step hnode hgroup hclosed h =>
      have hnode' : node? (past.length :: position) (.group head past (p :: rest)) = some step := by
        rw [node?_cons, getElem?_steps_group, Option.bind_some, hnode]
      exact .closed hnode' hgroup hclosed (.within hm h)

/-- Work on a group is work on the plan in which it is the step at the cursor. -/
theorem Leads.within {step step' : Plan σ} {attempts : List Attempt}
    (h : Leads step attempts step') (hstep : step.isCall = false) (head : PlanHead)
    (past rest : List (Plan σ)) :
    Leads (.group head past (step :: rest)) (attempts.map (Attempt.below [past.length]))
      (.group head past (step' :: rest)) := by
  have hmoves : ∀ {m m' : Moment σ}, Relation.ReflTransGen Move m m' → m.plan.isCall = false →
      Relation.ReflTransGen Move (m.within head past rest) (m'.within head past rest) := by
    intro m m' hm hgroup
    induction hm with
    | refl => exact .refl
    | tail hbefore hmove ih =>
        have hgroup' := (isCall_eq_of_moves hbefore).trans hgroup
        exact ih.tail (hmove.within hgroup' head past rest)
  exact hmoves h hstep

/-! ### What a commit does to each node -/

/-- A commit moves the cursor of one node by one. In the other nodes it changes at most the
step at the cursor. -/
theorem Commit.exists_node? {position : Position} {p q : Plan σ} (h : Commit position p q)
    {place : Position} {node : Plan σ} (hnode : node? place p = some node) :
    ∃ node', node? place q = some node' ∧ node'.stepCount = node.stepCount ∧
      ((node'.cursor = node.cursor ∧ ∀ i, i ≠ node.cursor → node'.steps[i]? = node.steps[i]?) ∨
        (node'.cursor = node.cursor + 1 ∧ node'.steps = node.steps ∧
          ((position = place ∧ node.isCall = true) ∨ position = place ++ [node.cursor]))) := by
  induction h generalizing place node with
  | @self head function answer =>
      cases place with
      | nil =>
          obtain rfl := Option.some.inj hnode
          exact ⟨_, rfl, rfl, .inr ⟨rfl, rfl, .inl ⟨rfl, rfl⟩⟩⟩
      | cons i place => cases hnode
  | @step head past rest step answer =>
      cases place with
      | nil =>
          obtain rfl := Option.some.inj hnode
          refine ⟨_, rfl, ?_, .inr ⟨?_, ?_, .inr rfl⟩⟩
          · simp only [stepCount, List.length_append, List.length_cons, List.length_nil]
            omega
          · simp [cursor]
          · simp [steps]
      | cons i place =>
          refine ⟨node, ?_, rfl, .inl ⟨rfl, fun _ _ => rfl⟩⟩
          rw [node?_cons] at hnode ⊢
          simpa [steps] using hnode
  | @within position head past rest step step' hgroup h ih =>
      cases place with
      | nil =>
          obtain rfl := Option.some.inj hnode
          refine ⟨_, rfl, rfl, .inl ⟨rfl, ?_⟩⟩
          exact fun i hi => getElem?_steps_of_ne head past rest step step' hi
      | cons i place =>
          rw [node?_cons] at hnode
          -- the node is within the step that is worked on, or that step is not on the way to it
          by_cases hi : i = past.length
          · subst hi
            rw [getElem?_steps_group, Option.bind_some] at hnode
            obtain ⟨node', hnode', hcount, hstep⟩ := ih hnode
            refine ⟨node', ?_, hcount, ?_⟩
            · rw [node?_cons, getElem?_steps_group, Option.bind_some, hnode']
            · rcases hstep with hstep | ⟨hcursor, hsteps, hpos⟩
              · exact .inl hstep
              · refine .inr ⟨hcursor, hsteps, ?_⟩
                simpa using hpos
          · refine ⟨node, ?_, rfl, .inl ⟨rfl, fun _ _ => rfl⟩⟩
            rw [node?_cons, ← hnode]
            rw [getElem?_steps_of_ne head past rest step step' hi]

end Plan

end PromptPlan
