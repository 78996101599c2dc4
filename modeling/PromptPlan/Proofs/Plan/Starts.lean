import PromptPlan.Proofs.Journal
import PromptPlan.Proofs.Plan.Twins

/-!
# The calls that a run begins

Whether the cancellation flag is heeded is a question about the calls that begin when it is up,
which neither the plan that is left nor the attempts of a run tell. So the functions of a plan
are wrapped once more, and what is entered for a call is how the call found the flag, besides the
position of its step and the way it ended. The wrapped plan is a twin of the plan, so a journal
of this kind changes nothing but itself.

The steps within a step are run without looking at the flag. What can be said of the calls that
such a run begins (`Starting`) is that they find the flag where the run found it, until one of
them raises it, and that the way the last of them ended decides how the run ends, if no other
call remains (`Reported`).
-/

namespace PromptPlan

variable {σ ε α β : Type}

/-! ### Calls with the flag as they found it -/

/-- A call that was begun: the position of its step, whether the flag was up by then, and the
way the call ended. -/
structure Start where
  position : Position
  late : Bool
  ended : Exit Variables

/-- The function with a journal: each call is entered as a start at `place`. -/
def Function.announced (scope : Scope σ) (place : Position) (f : Function σ) :
    Function (Journaled σ Start) where
  toProfile := f.toProfile
  isPlan := f.isPlan
  body := fun _ vars limits w =>
    let (exit, after) := f.body scope vars limits w.bare
    (exit, after.journaled (w.host.journal ++ [⟨place, w.cancelled, exit⟩]))

/-- The host's own state in a state with a journal. -/
def Journaled.Beside (host : σ) (host' : Journaled σ ε) : Prop :=
  host'.host = host

theorem World.paired_journaled (w : World σ) (journal : List ε) :
    w.Paired Journaled.Beside (w.journaled journal) := by
  have hhost : Journaled.Beside w.host (⟨w.host, journal⟩ : Journaled σ ε) := rfl
  exact .mk hhost

theorem World.Paired.bare_eq {w : World σ} {w' : World (Journaled σ ε)}
    (h : w.Paired Journaled.Beside w') : w'.bare = w := by
  obtain ⟨hhost⟩ := h
  rename_i host
  have hhost : host.host = w.host := hhost
  rw [bare, onHost, hhost]

theorem Function.body_announced (scope : Scope σ) (scope' : Scope (Journaled σ Start))
    (place : Position) (f : Function σ) (vars : Variables) (limits : Limits)
    (w : World (Journaled σ Start)) :
    (f.announced scope place).body scope' vars limits w =
      ((f.body scope vars limits w.bare).1, (f.body scope vars limits w.bare).2.journaled
        (w.host.journal ++ [⟨place, w.cancelled, (f.body scope vars limits w.bare).1⟩])) := rfl

theorem Function.alike_announced (scope : Scope σ) (scope' : Scope (Journaled σ Start))
    (outputs : List String) (place : Position) (f : Function σ) :
    f.Alike Journaled.Beside scope scope' outputs (f.announced scope place) where
  parameters_eq := rfl
  ended_eq := by
    intro vars limits w w' hw
    rw [body_announced, hw.bare_eq]
  world := by
    intro vars limits w w' hw
    rw [body_announced, hw.bare_eq]
    exact World.paired_journaled _ _

namespace Plan

mutual

/-- The plan at `place` with its functions wrapped. -/
def announced (scope : Scope σ) (place : Position) : Plan σ → Plan (Journaled σ Start)
  | .call head function finished =>
    .call head (function.map (·.announced scope place)) finished
  | .group head past ahead =>
    .group head (announcedFrom scope place 0 past) (announcedFrom scope place past.length ahead)

/-- Steps with their functions wrapped, the first of which has the index `i`. -/
def announcedFrom (scope : Scope σ) (place : Position) (i : Nat) :
    List (Plan σ) → List (Plan (Journaled σ Start))
  | [] => []
  | step :: rest => announced scope (place ++ [i]) step :: announcedFrom scope place (i + 1) rest

end

theorem twins_announcedFrom {scope : Scope σ} {scope' : Scope (Journaled σ Start)}
    {steps : List (Plan σ)} (hsteps : ∀ step ∈ steps, ∀ place,
      Twins Journaled.Beside scope scope' step (step.announced scope place))
    (place : Position) (i : Nat) :
    List.Forall₂ (Twins Journaled.Beside scope scope') steps
      (announcedFrom scope place i steps) := by
  induction steps generalizing i with
  | nil => exact .nil
  | cons step rest ih =>
      rw [announcedFrom]
      exact .cons (hsteps step (by simp) _)
        (ih (fun s hs => hsteps s (List.mem_cons_of_mem step hs)) (i + 1))

theorem twins_announced (scope : Scope σ) (scope' : Scope (Journaled σ Start)) (p : Plan σ) :
    ∀ place, Twins Journaled.Beside scope scope' p (p.announced scope place) := by
  induction p using steps_induction with
  | call head function finished =>
      intro place
      cases function with
      | none => exact .unbound
      | some f => exact .bound (f.alike_announced scope scope' head.outputs place)
  | group head past ahead ihpast ihahead =>
      intro place
      rw [announced]
      exact .group (twins_announcedFrom ihpast place 0) (twins_announcedFrom ihahead place _)

/-! ### How the end of a call is reported -/

/-- What becomes of the end of a call without a value on its way up through the plan. -/
inductive Reported : Exit Variables → Exit α → Prop
  | failed {e e' : Error} : e'.rootCause = e.rootCause → Reported (.failed e) (.failed e')
  | stuck : Reported .stuck .stuck
  | interrupted : Reported .interrupted .interrupted
  | expired {e : Error} {seconds : Nat} :
      e.rootCause = .timeout seconds → Reported .interrupted (.failed e)

theorem reported_self {exit : Exit Variables} (h : exit.isDone = false) : Reported exit exit := by
  cases exit with
  | done _ => cases h
  | failed e => exact .failed rfl
  | interrupted => exact .interrupted
  | stuck => exact .stuck

theorem Reported.isDone_eq {call : Exit Variables} {exit : Exit α} (h : Reported call exit) :
    exit.isDone = false := by
  cases h <;> rfl

theorem Reported.map {call : Exit Variables} {exit : Exit α} (h : Reported call exit)
    (f : α → β) : Reported call (exit.map f) := by
  cases h with
  | failed h => exact .failed h
  | stuck => exact .stuck
  | interrupted => exact .interrupted
  | expired h => exact .expired h

theorem Reported.mapError {call : Exit Variables} {exit : Exit α} (h : Reported call exit)
    {g : Error → Error} (hg : ∀ e, (g e).rootCause = e.rootCause) :
    Reported call (exit.mapError g) := by
  cases h with
  | failed h => exact .failed ((hg _).trans h)
  | stuck => exact .stuck
  | interrupted => exact .interrupted
  | expired h => exact .expired ((hg _).trans h)

theorem Reported.expire {call : Exit Variables} {exit : Exit α} (h : Reported call exit)
    (limit : Option TimeLimit) (w : World σ) : Reported call (exit.expire limit w) := by
  cases h with
  | failed h => exact .failed h
  | stuck => exact .stuck
  | expired h => exact .expired h
  | interrupted =>
      cases limit with
      | none => exact .interrupted
      | some limit =>
          rw [Exit.expire]
          split
          · exact .expired rfl
          · exact .interrupted

/-! ### The calls of a step -/

variable {scope : Scope σ} {scope' : Scope (Journaled σ Start)} {place : Position}

/-- A run of a step at `place` that has so many calls ahead: the calls that it begins. They find
the flag where the run found it until one of them raises it, and a run that has begun all of its
calls ends without a value only because of the last one. -/
structure Starting (place : Position) (calls : Nat) (w : World (Journaled σ Start))
    (ran : Exit α × Plan (Journaled σ Start) × World (Journaled σ Start))
    (starts : List Start) : Prop where
  journal : ran.2.2.host.journal = w.host.journal ++ starts
  below : ∀ start ∈ starts, place <+: start.position
  length_le : starts.length ≤ calls
  first : ∀ start, starts.head? = some start → start.late = w.cancelled
  idle : starts = [] → ran.2.2.cancelled = w.cancelled
  ended : ran.1.isDone = false → starts.length = calls →
    ∃ start, starts.getLast? = some start ∧ Reported start.ended ran.1

theorem starting_nil (place : Position) {calls : Nat} {w : World (Journaled σ Start)}
    {exit : Exit α} {left : Plan (Journaled σ Start)} (h : exit.isDone = false → calls ≠ 0) :
    Starting place calls w (exit, left, w) [] where
  journal := (List.append_nil _).symm
  below := by simp
  length_le := Nat.zero_le calls
  first := by simp
  idle _ := rfl
  ended hexit hcalls := absurd hcalls.symm (h hexit)

/-- Another end of the same run, if it reports the same. -/
theorem Starting.report {calls : Nat} {w after : World (Journaled σ Start)} {exit : Exit α}
    {exit' : Exit β} {left left' : Plan (Journaled σ Start)} {starts : List Start}
    (h : Starting place calls w (exit, left, after) starts)
    (hdone : exit'.isDone = exit.isDone)
    (hreport : ∀ call, Reported call exit → Reported call exit') :
    Starting place calls w (exit', left', after) starts where
  journal := h.journal
  below := h.below
  length_le := h.length_le
  first := h.first
  idle := h.idle
  ended := by
    intro hexit hcalls
    obtain ⟨start, hlast, hended⟩ := h.ended (hdone.symm.trans hexit) hcalls
    exact ⟨start, hlast, hreport _ hended⟩

theorem below_of_below_step {starts : List Start} {i : Nat}
    (h : ∀ start ∈ starts, place ++ [i] <+: start.position) :
    ∀ start ∈ starts, place <+: start.position :=
  fun start hstart => (List.prefix_append place [i]).trans (h start hstart)

/-- The calls of the first step, which ended the run. -/
theorem Starting.of_step {calls later i : Nat} {w : World (Journaled σ Start)}
    {ran : Exit α × Plan (Journaled σ Start) × World (Journaled σ Start)} {starts : List Start}
    (h : Starting (place ++ [i]) calls w ran starts) :
    Starting place (calls + later) w ran starts where
  journal := h.journal
  below := below_of_below_step h.below
  length_le := Nat.le_trans h.length_le (Nat.le_add_right calls later)
  first := h.first
  idle := h.idle
  ended hexit hlength := h.ended hexit (by have := h.length_le; omega)

/-- The calls of the first step, and those of the steps behind it. -/
theorem Starting.append {calls later i : Nat} {w after : World (Journaled σ Start)}
    {exit : Exit β} {left : Plan (Journaled σ Start)}
    {ran : Exit α × Plan (Journaled σ Start) × World (Journaled σ Start)}
    {starts rest : List Start}
    (h : Starting (place ++ [i]) calls w (exit, left, after) starts)
    (hrest : Starting place later after ran rest) :
    Starting place (calls + later) w ran (starts ++ rest) where
  journal := by
    rw [hrest.journal, h.journal, List.append_assoc]
  below := List.forall_mem_append.2 ⟨below_of_below_step h.below, hrest.below⟩
  length_le := by
    rw [List.length_append]
    exact Nat.add_le_add h.length_le hrest.length_le
  first := by
    intro start hstart
    cases starts with
    | nil => exact (hrest.first start hstart).trans (h.idle rfl)
    | cons first starts => exact h.first start hstart
  idle := by
    intro hnil
    obtain ⟨hstarts, hrests⟩ := List.append_eq_nil_iff.1 hnil
    exact (hrest.idle hrests).trans (h.idle hstarts)
  ended := by
    intro hexit hlength
    rw [List.length_append] at hlength
    have hfirst := h.length_le
    have hlater := hrest.length_le
    obtain ⟨start, hlast, hended⟩ := hrest.ended hexit (by omega)
    exact ⟨start, by rw [List.getLast?_append, hlast, Option.some_or], hended⟩

theorem exists_starting_attempt (step : Plan (Journaled σ Start)) {calls : Nat}
    {invoke : Variables → PlanRun (Journaled σ Start) Variables}
    (hinvoke : ∀ vars limits w, ∃ starts,
      Starting place calls w (invoke vars limits w) starts)
    (h : PlanHead) (caller : Variables) (limits : Limits) (w : World (Journaled σ Start)) :
    ∃ starts, Starting place calls w (h.attempt step invoke caller limits w) starts := by
  obtain ⟨starts, hstarts⟩ :=
    hinvoke (h.stepVariables caller step) (limits.within (limitFor h w)) w
  rcases hrun : invoke (h.stepVariables caller step) (limits.within (limitFor h w)) w with
    ⟨exit, left, after⟩
  rw [hrun] at hstarts
  rw [attempt_eq hrun]
  refine ⟨starts, hstarts.report (by simp) fun call hcall => ?_⟩
  have hpath : ∀ e, (Error.planStep step.qualifiedName e).rootCause = e.rootCause := fun _ => rfl
  exact ((hcall.expire _ _).mapError hpath).map _

theorem exists_starting_call (head : PlanHead) (function : Option (Function σ)) (finished : Bool)
    (vars : Variables) (limits : Limits) (w : World (Journaled σ Start)) :
    ∃ starts, Starting place 1 w
      (runWhole scope' (announced scope place (.call head function finished)) vars limits w)
      starts := by
  cases function with
  | none => exact ⟨[], starting_nil place fun _ => Nat.one_ne_zero⟩
  | some f =>
      let ended := (f.body scope vars limits w.bare).1
      have hnamed : ∀ e, (Error.inFunction head.qualifiedName e).rootCause = e.rootCause :=
        Error.rootCause_inFunction _
      refine ⟨[⟨place, w.cancelled, ended⟩], rfl, by simp, Nat.le_refl 1, by simp, by simp, ?_⟩
      intro hexit _
      have hended : ended.isDone = false := (Exit.isDone_mapError _ ended).symm.trans hexit
      exact ⟨_, rfl, (reported_self hended).mapError hnamed⟩

theorem length_callsFrom_cons (i : Nat) (step : Plan σ) (rest : List (Plan σ)) :
    (callsFrom i (step :: rest)).length =
      step.callsAhead.length + (callsFrom (i + 1) rest).length := by
  rw [callsFrom, List.length_append, List.length_map]

theorem exists_starting_runSteps {ahead : List (Plan σ)}
    (hsteps : ∀ step ∈ ahead, ∀ place vars limits w, ∃ starts,
      Starting place step.callsAhead.length w
        (runWhole scope' (step.announced scope place) vars limits w) starts)
    (declared : List String) (head : PlanHead) (past : List (Plan (Journaled σ Start))) (i : Nat)
    (vars : Variables) (limits : Limits) (w : World (Journaled σ Start)) :
    ∃ starts, Starting place (callsFrom i ahead).length w
      (runSteps scope' false declared head past (announcedFrom scope place i ahead) vars limits w)
      starts := by
  -- the head, the steps done and the index of the next one vary
  induction ahead generalizing head past i vars w with
  | nil => exact ⟨[], starting_nil place fun hexit => by cases hexit⟩
  | cons step rest ih =>
      rw [announcedFrom, length_callsFrom_cons]
      let step' := step.announced scope (place ++ [i])
      let caller := vars.merge head.state false
      obtain ⟨starts, hstarts⟩ := exists_starting_attempt step'
        (hsteps step (by simp) (place ++ [i])) head caller limits w
      rcases hrun : head.attempt step' (runWhole scope' step') caller limits w with
        ⟨exit, left, after⟩
      rw [hrun] at hstarts
      rw [← PlanHead.attemptWatched_false] at hrun
      cases hexit : exit.isDone with
      | false =>
          rw [runSteps_of_not_done hrun hexit]
          exact ⟨starts, (hstarts.report (by simp) fun _ h => h.map _).of_step⟩
      | true =>
          obtain ⟨head', rfl⟩ := Exit.isDone_iff.1 hexit
          rw [runSteps_of_done hrun]
          obtain ⟨later, hlater⟩ := ih (fun s hs => hsteps s (List.mem_cons_of_mem step hs)) head'
            (past ++ [left]) (i + 1) (head'.publish declared (vars.merge head.state false)) after
          exact ⟨starts ++ later, hstarts.append hlater⟩

theorem exists_starting_runWhole (scope' : Scope (Journaled σ Start)) (step : Plan σ) :
    ∀ place vars limits w, ∃ starts, Starting place step.callsAhead.length w
      (runWhole scope' (step.announced scope place) vars limits w) starts := by
  induction step using steps_induction with
  | call head function finished =>
      intro place vars limits w
      rw [callsAhead]
      exact exists_starting_call head function finished vars limits w
  | group head past ahead _ ih =>
      intro place vars limits w
      rw [callsAhead, announced, runWhole]
      exact exists_starting_runSteps ih _ head _ past.length vars limits w

end Plan

end PromptPlan
