import Mathlib.Data.List.Chain
import PromptPlan.Proofs.Plan.Moves

/-!
# Calls are made in order

What holds of the work on a plan at every moment, compared with the plan at the start: the
calls that were committed are the first of those that remained, each attempt was at the
first call not committed at the time, cursors have only gone forward, and a node holds what
it held except for the steps that its cursor has reached. Each part is kept by a single move
(`Kept.move`), and so by any number of them.

The order of calls is a matter of what remains. A commit takes the calls of the committed
step off the front of the list (`Commit.remaining_eq`): its own position if the step is a
call, and none if it is a group with nothing ahead.
-/

namespace PromptPlan.Plan

variable {σ : Type}

/-! ### What remains -/

theorem Commit.remaining_eq {position : Position} {p q step : Plan σ} (h : Commit position p q)
    (hstep : node? position p = some step) :
    p.remaining = step.callsAhead.map (position ++ ·) ++ q.remaining := by
  induction h with
  | self =>
      obtain rfl := Option.some.inj hstep
      simp [remaining, callsAhead]
  | @step head past rest next answer =>
      rw [node?_cons, getElem?_steps_group] at hstep
      obtain rfl := Option.some.inj hstep
      rw [remaining, remaining, callsFrom, List.length_append]
      rfl
  | @within position head past rest next next' hgroup h ih =>
      rw [node?_cons, getElem?_steps_group] at hstep
      have hnext := ih hstep
      rw [remaining_eq_callsAhead hgroup,
        remaining_eq_callsAhead (h.isCall_eq.trans hgroup)] at hnext
      rw [remaining, remaining, callsFrom, callsFrom, hnext, List.map_append, List.map_map,
        List.append_assoc]
      rfl

theorem callsAhead_of_isCall {p : Plan σ} (h : p.isCall = true) : p.callsAhead = [[]] := by
  cases p with
  | call head function finished => rw [callsAhead]
  | group head past ahead => cases h

theorem callsAhead_of_closed {p : Plan σ} (hgroup : p.isCall = false)
    (hclosed : p.hasNext = false) : p.callsAhead = [] := by
  cases p with
  | call head function finished => cases hgroup
  | group head past ahead =>
      obtain rfl : ahead = [] := by simpa [hasNext] using hclosed
      rw [callsAhead, callsFrom]

theorem exists_call_of_mem_callsFrom {i : Nat} {ahead : List (Plan σ)} {position : Position}
    (h : position ∈ callsFrom i ahead)
    (ih : ∀ step ∈ ahead, ∀ position ∈ step.callsAhead,
      ∃ call, node? position step = some call ∧ call.isCall = true) :
    ∃ j inner step call, position = (i + j) :: inner ∧ ahead[j]? = some step ∧
      node? inner step = some call ∧ call.isCall = true := by
  induction ahead generalizing i with
  | nil => simp [callsFrom] at h
  | cons step ahead iha =>
      rw [callsFrom, List.mem_append] at h
      rcases h with h | h
      · obtain ⟨inner, hinner, rfl⟩ := List.mem_map.1 h
        obtain ⟨call, hnode, hcall⟩ := ih step (by simp) inner hinner
        exact ⟨0, inner, step, call, rfl, rfl, hnode, hcall⟩
      · obtain ⟨j, inner, step', call, rfl, hj, hnode, hcall⟩ :=
          iha h fun s hs => ih s (List.mem_cons_of_mem step hs)
        refine ⟨j + 1, inner, step', call, ?_, by simpa using hj, hnode, hcall⟩
        rw [Nat.add_right_comm, Nat.add_assoc]

theorem exists_call_of_mem_callsAhead (p : Plan σ) :
    ∀ position ∈ p.callsAhead, ∃ call, node? position p = some call ∧ call.isCall = true := by
  induction p using steps_induction with
  | call head function finished =>
      intro position h
      rw [callsAhead, List.mem_singleton] at h
      subst h
      exact ⟨_, rfl, rfl⟩
  | group head past ahead _ ih =>
      intro position h
      rw [callsAhead] at h
      obtain ⟨j, inner, step, call, rfl, hj, hnode, hcall⟩ := exists_call_of_mem_callsFrom h ih
      refine ⟨call, ?_, hcall⟩
      rw [node?_cons, steps, List.getElem?_append_right (Nat.le_add_right _ _),
        Nat.add_sub_cancel_left, hj, Option.bind_some, hnode]

theorem exists_call_of_mem_remaining {p : Plan σ} {position : Position}
    (h : position ∈ p.remaining) :
    ∃ call, node? position p = some call ∧ call.isCall = true := by
  cases hp : p.isCall with
  | false =>
      rw [remaining_eq_callsAhead hp] at h
      exact exists_call_of_mem_callsAhead p position h
  | true =>
      cases p with
      | call head function finished =>
          cases finished with
          | true => simp [remaining] at h
          | false =>
              obtain rfl : position = [] := by simpa [remaining] using h
              exact ⟨_, rfl, rfl⟩
      | group head past ahead => cases hp

theorem exists_call_of_head? {p : Plan σ} {position : Position}
    (h : p.remaining.head? = some position) :
    ∃ call, node? position p = some call ∧ call.isCall = true :=
  exists_call_of_mem_remaining (List.mem_of_mem_head? (Option.mem_def.2 h))

/-! ### Nodes -/

/-- What a node has become: its cursor has gone forward, the groups that it has passed are
done, and what comes after it has not changed. -/
structure Advanced (old new : Plan σ) : Prop where
  stepCount_eq : new.stepCount = old.stepCount
  cursor_le : old.cursor ≤ new.cursor
  cursor_le_stepCount : new.cursor ≤ new.stepCount
  passed : ∀ i step, old.cursor ≤ i → i < new.cursor → new.steps[i]? = some step →
    step.isCall = false → step.hasNext = false
  untouched : ∀ i, new.cursor < i → new.steps[i]? = old.steps[i]?

theorem Advanced.refl (p : Plan σ) : Advanced p p where
  stepCount_eq := rfl
  cursor_le := Nat.le_refl _
  cursor_le_stepCount := p.cursor_le_stepCount
  passed := by
    intro i step h h'
    omega
  untouched := fun _ _ => rfl

theorem Advanced.commit {position place : Position} {p q old node step : Plan σ}
    (h : Commit position p q) (hstep : node? position p = some step)
    (hclosed : step.isCall = false → step.hasNext = false) (hnode : node? place p = some node)
    (hold : Advanced old node) : ∃ node', node? place q = some node' ∧ Advanced old node' := by
  obtain ⟨node', hnode', hcount, ⟨hcursor, hsteps⟩ | ⟨hcursor, hsteps, hposition⟩⟩ :=
    h.exists_node? hnode
  · refine ⟨node', hnode', hcount.trans hold.stepCount_eq, ?_, node'.cursor_le_stepCount, ?_, ?_⟩
    · rw [hcursor]
      exact hold.cursor_le
    · intro i s hi hi' hs
      rw [hcursor] at hi'
      rw [hsteps i (by omega)] at hs
      exact hold.passed i s hi hi' hs
    · intro i hi
      rw [hcursor] at hi
      rw [hsteps i (by omega), hold.untouched i hi]
  · have hle := hold.cursor_le
    refine ⟨node', hnode', hcount.trans hold.stepCount_eq, by omega,
      node'.cursor_le_stepCount, ?_, ?_⟩
    · intro i s hi hi' hs
      rw [hsteps] at hs
      -- the step at the cursor is the one that is committed, those before it were passed earlier
      by_cases hlast : i = node.cursor
      · subst hlast
        rcases hposition with ⟨_, hcall⟩ | rfl
        · cases node with
          | call head function finished => cases hs
          | group head past ahead => cases hcall
        · rw [node?_append, hnode, Option.bind_some, node?_cons, hs] at hstep
          obtain rfl := Option.some.inj hstep
          exact hclosed
      · exact hold.passed i s hi (by omega) hs
    · intro i hi
      rw [hsteps, hold.untouched i (by omega)]

/-! ### Moments -/

/-- The calls that were committed: those whose functions answered. -/
def committed (attempts : List Attempt) : List Position :=
  (attempts.filter Attempt.succeeded).map Attempt.position

/-- What holds at every moment of the work on a plan. -/
structure Kept (start : Plan σ) (m : Moment σ) : Prop where
  /-- The calls committed so far, and then those that remain, are those that remained. -/
  in_order : start.remaining = committed m.attempts ++ m.plan.remaining
  /-- Each attempt was at the first call not committed at the time. -/
  in_turn : ∀ i attempt, m.attempts[i]? = some attempt →
    start.remaining[(committed (m.attempts.take i)).length]? = some attempt.position
  /-- Every node has gone forward. -/
  advanced : ∀ place node, node? place start = some node →
    ∃ node', node? place m.plan = some node' ∧ Advanced node node'

theorem committed_append (attempts : List Attempt) (attempt : Attempt) :
    committed (attempts ++ [attempt]) =
      committed attempts ++ if attempt.succeeded then [attempt.position] else [] := by
  rw [committed, List.filter_append, List.map_append]
  cases h : attempt.succeeded <;> simp [committed, h]

theorem Kept.start (p : Plan σ) : Kept p ⟨[], p⟩ where
  in_order := rfl
  in_turn := by simp
  advanced := fun _ node hnode => ⟨node, hnode, .refl node⟩

/-- A move commits a call or a group with nothing ahead, or leaves the plan alone. -/
theorem Move.plan_eq_or_commit {m m' : Moment σ} (h : Move m m') :
    m'.plan = m.plan ∨ ∃ position step, Commit position m.plan m'.plan ∧
      node? position m.plan = some step ∧ (step.isCall = false → step.hasNext = false) := by
  cases h with
  | refused _ _ => exact .inl rfl
  | @called attempts attempt p q hnext _ h =>
      obtain ⟨call, hnode, hcall⟩ := exists_call_of_head? hnext
      refine .inr ⟨_, call, h, hnode, fun hgroup => ?_⟩
      rw [hcall] at hgroup
      cases hgroup
  | closed hnode _ hclosed h => exact .inr ⟨_, _, h, hnode, fun _ => hclosed⟩

theorem in_turn_append {remaining : List Position} {attempts : List Attempt} {attempt : Attempt}
    (h : ∀ i a, attempts[i]? = some a →
      remaining[(committed (attempts.take i)).length]? = some a.position)
    (hnext : remaining[(committed attempts).length]? = some attempt.position) :
    ∀ i a, (attempts ++ [attempt])[i]? = some a →
      remaining[(committed ((attempts ++ [attempt]).take i)).length]? = some a.position := by
  intro i a ha
  rcases Nat.lt_trichotomy i attempts.length with hi | rfl | hi
  · rw [List.getElem?_append_left hi] at ha
    rw [List.take_append_of_le_length (Nat.le_of_lt hi)]
    exact h i a ha
  · rw [List.getElem?_append_right (Nat.le_refl _), Nat.sub_self] at ha
    obtain rfl := Option.some.inj ha
    rw [List.take_left']
    · exact hnext
    · rfl
  · rw [List.getElem?_eq_none (by simp; omega)] at ha
    cases ha

theorem Kept.committed_prefix {start : Plan σ} {m : Moment σ} (h : Kept start m) :
    committed m.attempts <+: start.remaining :=
  ⟨m.plan.remaining, h.in_order.symm⟩

theorem Kept.nodup_committed {start : Plan σ} {m : Moment σ} (h : Kept start m) :
    (committed m.attempts).Nodup :=
  (nodup_remaining start).sublist h.committed_prefix.sublist

theorem Kept.getElem?_remaining {start : Plan σ} {m : Moment σ} (h : Kept start m) :
    start.remaining[(committed m.attempts).length]? = m.plan.remaining.head? := by
  rw [h.in_order, List.getElem?_append_right (Nat.le_refl _), Nat.sub_self,
    List.head?_eq_getElem?]

theorem Kept.move {start : Plan σ} {m m' : Moment σ} (hkept : Kept start m) (h : Move m m') :
    Kept start m' where
  in_order := by
    have hbefore := hkept.in_order
    -- a call takes itself off the front of what remains, and a closed group nothing
    cases h with
    | refused _ hended => rw [committed_append, hended, hbefore]; simp
    | called hnext hended h =>
        obtain ⟨call, hnode, hcall⟩ := exists_call_of_head? hnext
        have hrest := h.remaining_eq hnode
        rw [callsAhead_of_isCall hcall] at hrest
        rw [hbefore, hrest, committed_append, hended]
        simp
    | closed hnode hgroup hclosed h =>
        have hrest := h.remaining_eq hnode
        rw [callsAhead_of_closed hgroup hclosed] at hrest
        rw [hbefore, hrest, List.map_nil, List.nil_append]
  in_turn := by
    have hnext := hkept.getElem?_remaining
    cases h with
    | refused hattempt _ => exact in_turn_append hkept.in_turn (hnext.trans hattempt)
    | called hattempt _ _ => exact in_turn_append hkept.in_turn (hnext.trans hattempt)
    | closed _ _ _ _ => exact hkept.in_turn
  advanced := by
    intro place node hnode
    obtain ⟨node', hnode', hadvanced⟩ := hkept.advanced place node hnode
    rcases h.plan_eq_or_commit with hplan | ⟨position, step, hcommit, hstep, hclosed⟩
    · rw [hplan]
      exact ⟨node', hnode', hadvanced⟩
    · exact Advanced.commit hcommit hstep hclosed hnode' hadvanced

theorem Leads.kept {p q : Plan σ} {attempts : List Attempt} (h : Leads p attempts q) :
    Kept p ⟨attempts, q⟩ :=
  h.of_moves (fun _ _ hmove hkept => Kept.move hkept hmove) (.start p)

/-! ### Histories -/

/-- The step that the cursor of a node stands at; a call stands at itself. -/
def standing (place : Position) (node : Plan σ) : Position :=
  if node.isCall then place else place ++ [node.cursor]

/-- From one moment to the next the step at a position is committed: a call with the attempt
that succeeded, or a group with nothing ahead. -/
def Commits (position : Position) (m m' : Moment σ) : Prop :=
  (∃ attempt, m'.attempts = m.attempts ++ [attempt] ∧ attempt.position = position ∧
      attempt.succeeded = true) ∨
    (m'.attempts = m.attempts ∧ ∃ step, node? position m.plan = some step ∧
      step.isCall = false ∧ step.hasNext = false)

/-- From one moment to the next every cursor stays or goes on by one, and it goes on only
past a step that is committed. -/
def CursorsFollow (m m' : Moment σ) : Prop :=
  ∀ place node, node? place m.plan = some node → ∃ node', node? place m'.plan = some node' ∧
    (node'.cursor = node.cursor ∨
      (node'.cursor = node.cursor + 1 ∧ Commits (standing place node) m m'))

theorem Commit.cursor_eq_or {position place : Position} {p q node step : Plan σ}
    (h : Commit position p q) (hstep : node? position p = some step)
    (hnode : node? place p = some node) :
    ∃ node', node? place q = some node' ∧
      (node'.cursor = node.cursor ∨
        (node'.cursor = node.cursor + 1 ∧ position = standing place node)) := by
  obtain ⟨node', hnode', _, ⟨hcursor, _⟩ | ⟨hcursor, _, hposition⟩⟩ := h.exists_node? hnode
  · exact ⟨node', hnode', .inl hcursor⟩
  · refine ⟨node', hnode', .inr ⟨hcursor, ?_⟩⟩
    rcases hposition with ⟨rfl, hcall⟩ | rfl
    · rw [standing, if_pos hcall]
    · cases node with
      | call head function finished =>
          rw [node?_append, hnode] at hstep
          cases hstep
      | group head past ahead => rfl

theorem Move.cursorsFollow {m m' : Moment σ} (h : Move m m') : CursorsFollow m m' := by
  intro place node hnode
  cases h with
  | refused _ _ => exact ⟨node, hnode, .inl rfl⟩
  | @called attempts attempt p q hnext hended h =>
      obtain ⟨call, hcall, _⟩ := exists_call_of_head? hnext
      obtain ⟨node', hnode', hcursor | ⟨hcursor, hposition⟩⟩ := h.cursor_eq_or hcall hnode
      · exact ⟨node', hnode', .inl hcursor⟩
      · exact ⟨node', hnode', .inr ⟨hcursor, .inl ⟨attempt, rfl, hposition, hended⟩⟩⟩
  | closed hstep hgroup hclosed h =>
      obtain ⟨node', hnode', hcursor | ⟨hcursor, rfl⟩⟩ := h.cursor_eq_or hstep hnode
      · exact ⟨node', hnode', .inl hcursor⟩
      · exact ⟨node', hnode', .inr ⟨hcursor, .inr ⟨rfl, _, hstep, hgroup, hclosed⟩⟩⟩

/-- The moments through which the work on a plan went, from the first to the last. -/
structure History (p : Plan σ) (attempts : List Attempt) (q : Plan σ)
    (moments : List (Moment σ)) : Prop where
  first : moments.head? = some ⟨[], p⟩
  last : moments.getLast? = some ⟨attempts, q⟩
  moves : moments.IsChain Move
  cursors : moments.IsChain CursorsFollow
  kept : ∀ m ∈ moments, Kept p m

theorem History.of_isChain {p q : Plan σ} {attempts : List Attempt}
    {moments : List (Moment σ)} (hfirst : moments.head? = some ⟨[], p⟩)
    (hlast : moments.getLast? = some ⟨attempts, q⟩) (hmoves : moments.IsChain Move) :
    History p attempts q moments where
  first := hfirst
  last := hlast
  moves := hmoves
  cursors := hmoves.imp fun _ _ => Move.cursorsFollow
  kept := by
    refine hmoves.induction (Kept p) _ (fun _ _ hmove hkept => hkept.move hmove) fun hne => ?_
    have hhead : moments.head hne = ⟨[], p⟩ := by
      rw [← Option.some_inj, ← List.head?_eq_some_head, hfirst]
    rw [hhead]
    exact .start p

theorem History.kept_last {p q : Plan σ} {attempts : List Attempt} {moments : List (Moment σ)}
    (h : History p attempts q moments) : Kept p ⟨attempts, q⟩ :=
  h.kept _ (List.mem_of_getLast? h.last)

end PromptPlan.Plan
