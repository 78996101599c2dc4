import PromptPlan.Proofs.Journal
import PromptPlan.Proofs.Plan.Moves

/-!
# The attempts of a run

Which functions a run calls cannot be seen from the plan that is left. So the functions of a plan
are wrapped, each with the position of its step, and the run of the wrapped plan enters an attempt
for every call it makes.

A step that is a call makes at most one attempt, and a step that is a group advances by moves.
Whether a step was committed depends on nothing but whether it ended with a value
(`Ran.left_behind`, `Ran.committed`), so each run of a plan is a sequence of moves.
-/

namespace PromptPlan

variable {σ α β : Type}

/-! ### Plans with a journal -/

/-- The function with a journal: each call is entered as an attempt at `place`. -/
def Function.noted (scope : Scope σ) (place : Position) (f : Function σ) :
    Function (Journaled σ Attempt) where
  toProfile := f.toProfile
  isPlan := f.isPlan
  body := fun _ vars => (f.body scope vars).noted fun ended => ⟨place, vars, ended⟩

namespace Plan

mutual

/-- The plan at `place` with its functions wrapped. -/
def noted (scope : Scope σ) (place : Position) : Plan σ → Plan (Journaled σ Attempt)
  | .call head function finished => .call head (function.map (·.noted scope place)) finished
  | .group head past ahead =>
    .group head (notedFrom scope place 0 past) (notedFrom scope place past.length ahead)

/-- Steps with their functions wrapped, the first of which has the index `i`. -/
def notedFrom (scope : Scope σ) (place : Position) (i : Nat) :
    List (Plan σ) → List (Plan (Journaled σ Attempt))
  | [] => []
  | step :: rest => noted scope (place ++ [i]) step :: notedFrom scope place (i + 1) rest

end

variable {scope : Scope σ} {place : Position}

@[simp] theorem head_noted (p : Plan σ) : (p.noted scope place).head = p.head := by
  cases p <;> rw [noted] <;> rfl

@[simp] theorem isCall_noted (p : Plan σ) : (p.noted scope place).isCall = p.isCall := by
  cases p <;> rw [noted] <;> rfl

@[simp] theorem outputs_noted (p : Plan σ) : (p.noted scope place).outputs = p.outputs := by
  rw [outputs, outputs, head_noted]

@[simp] theorem qualifiedName_noted (p : Plan σ) :
    (p.noted scope place).qualifiedName = p.qualifiedName := by
  rw [qualifiedName, qualifiedName, head_noted]

@[simp] theorem hasNext_noted (p : Plan σ) : (p.noted scope place).hasNext = p.hasNext := by
  cases p with
  | call head function finished => rw [noted]; rfl
  | group head past ahead => cases ahead <;> rw [noted] <;> rfl

@[simp] theorem declared_noted (p : Plan σ) : (p.noted scope place).declared = p.declared := by
  cases p with
  | call head function finished => rw [noted]; cases function <;> rfl
  | group head past ahead => rw [noted]; rfl

theorem notedFrom_append (i : Nat) (xs ys : List (Plan σ)) :
    notedFrom scope place i (xs ++ ys) =
      notedFrom scope place i xs ++ notedFrom scope place (i + xs.length) ys := by
  induction xs generalizing i with
  | nil => rfl
  | cons step xs ih =>
      rw [List.cons_append, notedFrom, notedFrom, ih, List.length_cons, List.cons_append,
        Nat.add_assoc, Nat.add_comm 1]

theorem flatMap_outputs_notedFrom (i : Nat) (steps : List (Plan σ)) :
    (notedFrom scope place i steps).flatMap outputs = steps.flatMap outputs := by
  induction steps generalizing i with
  | nil => rfl
  | cons step steps ih => rw [notedFrom, List.flatMap_cons, List.flatMap_cons, ih, outputs_noted]

theorem outputs_noted_steps (head : PlanHead) (past ahead : List (Plan σ)) :
    head.outputs ++ (notedFrom scope place 0 past ++
        notedFrom scope place past.length ahead).flatMap outputs =
      head.outputs ++ (past ++ ahead).flatMap outputs := by
  rw [List.flatMap_append, List.flatMap_append, flatMap_outputs_notedFrom,
    flatMap_outputs_notedFrom]

theorem noted_selfAfter (head : PlanHead) (function : Option (Function σ))
    (exit : Exit PlanHead) :
    (selfAfter head function exit).noted scope place =
      selfAfter head (function.map (·.noted scope place)) exit := by
  cases hexit : exit.isDone with
  | false => rw [selfAfter_of_not_done hexit, selfAfter_of_not_done hexit, noted]
  | true =>
      obtain ⟨head', rfl⟩ := Exit.isDone_iff.1 hexit
      rw [selfAfter, selfAfter, noted]

theorem noted_stepAfter (head : PlanHead) (past rest : List (Plan σ)) (left : Plan σ)
    (exit : Exit PlanHead) :
    (stepAfter head past rest left exit).noted scope place =
      stepAfter head (notedFrom scope place 0 past) (notedFrom scope place (past.length + 1) rest)
        (left.noted scope (place ++ [past.length])) exit := by
  cases hexit : exit.isDone with
  | false => rw [stepAfter_of_not_done hexit, stepAfter_of_not_done hexit, noted, notedFrom]
  | true =>
      obtain ⟨head', rfl⟩ := Exit.isDone_iff.1 hexit
      rw [stepAfter, stepAfter, noted, notedFrom_append, notedFrom, notedFrom, Nat.zero_add,
        List.length_append, List.length_singleton]

@[simp] theorem stepVariables_noted (h : PlanHead) (caller : Variables) (step : Plan σ) :
    h.stepVariables caller (step.noted scope place) = h.stepVariables caller step := by
  simp only [PlanHead.stepVariables, PlanHead.stepInput, declared_noted, head_noted, isCall_noted]

/-! ### What running a step comes to -/

/-- The plan that running `p` leaves and the attempts that were made, with whether it ended
with a value. -/
inductive Ran : Plan σ → Bool → List Attempt → Plan σ → Prop
  /-- Nothing was attempted. -/
  | idle {p : Plan σ} : Ran p false [] p
  /-- The function of a call was called. -/
  | call {head : PlanHead} {function : Option (Function σ)} {finished : Bool}
      {attempt : Attempt} : attempt.position = [] →
        Ran (.call head function finished) attempt.succeeded [attempt]
          (.call head function finished)
  /-- A group advanced, and to its end if it ended with a value. -/
  | group {p left : Plan σ} {attempts : List Attempt} {ended : Bool} :
      p.isCall = false → Leads p attempts left → (ended = true → left.hasNext = false) →
        Ran p ended attempts left

theorem Ran.outputs_eq {p left : Plan σ} {ended : Bool} {attempts : List Attempt}
    (h : Ran p ended attempts left) : left.outputs = p.outputs := by
  cases h with
  | idle => rfl
  | call _ => rfl
  | group _ h _ => exact h.outputs_eq

theorem Ran.after_leads {p q left : Plan σ} {ended : Bool} {earlier attempts : List Attempt}
    (h : Ran q ended attempts left) (hbefore : Leads p earlier q) (hp : p.isCall = false) :
    Ran p ended (earlier ++ attempts) left := by
  cases h with
  | idle =>
      rw [List.append_nil]
      exact .group hp hbefore nofun
  | call _ =>
      rw [← hbefore.isCall_eq] at hp
      cases hp
  | group _ h hclosed => exact .group hp (hbefore.trans h) hclosed

/-- A step that did not end with a value stays where it is, as it was left. -/
theorem Ran.left_behind {step left : Plan σ} {ended : Bool} {attempts : List Attempt}
    (h : Ran step ended attempts left) (hended : ended = false) (head : PlanHead)
    (past rest : List (Plan σ)) :
    Leads (.group head past (step :: rest)) (attempts.map (Attempt.below [past.length]))
      (.group head past (left :: rest)) := by
  cases h with
  | idle => exact .refl _
  | @call _ _ _ attempt hposition =>
      refine .refused ?_ hended
      rw [head?_remaining_call, Attempt.below, hposition]
      rfl
  | group hgroup h _ => exact h.within hgroup head past rest

/-- A step that ended with a value is committed. -/
theorem Ran.committed {step left : Plan σ} {ended : Bool} {attempts : List Attempt}
    (h : Ran step ended attempts left) (hended : ended = true) (head : PlanHead)
    (past rest : List (Plan σ)) (answer : Variables) :
    Leads (.group head past (step :: rest)) (attempts.map (Attempt.below [past.length]))
      (.group (head.commit answer step.outputs) (past ++ [left]) rest) := by
  cases h with
  | idle => cases hended
  | @call h' function finished attempt hposition =>
      have hplace : (attempt.below [past.length]).position = [past.length] := by
        rw [Attempt.below, hposition]
        rfl
      refine .called ?_ hended ?_
      · rw [head?_remaining_call, hplace]
      · rw [hplace]
        exact .step
  | group hgroup h hclosed =>
      -- the group advances to its end, and then it is committed as it is
      have hcommit : Leads (.group head past (left :: rest)) []
          (.group (head.commit answer left.outputs) (past ++ [left]) rest) := by
        have hnode : node? [past.length] (.group head past (left :: rest)) = some left := by
          rw [node?_cons, getElem?_steps_group]
          rfl
        exact .closed hnode (h.isCall_eq.trans hgroup) (hclosed hended) .step
      rw [← h.outputs_eq, ← List.append_nil (attempts.map _)]
      exact (h.within hgroup head past rest).trans hcommit

theorem Ran.leads_stepAfter {head : PlanHead} {step left : Plan σ} {exit : Exit PlanHead}
    {attempts : List Attempt} (h : Ran step exit.isDone attempts left)
    (hanswer : ∀ head', exit = .done head' → ∃ answer, head' = head.commit answer step.outputs)
    (past rest : List (Plan σ)) :
    Leads (.group head past (step :: rest)) (attempts.map (Attempt.below [past.length]))
      (stepAfter head past rest left exit) := by
  cases hexit : exit.isDone with
  | false =>
      rw [stepAfter_of_not_done hexit]
      exact h.left_behind hexit head past rest
  | true =>
      obtain ⟨head', rfl⟩ := Exit.isDone_iff.1 hexit
      obtain ⟨answer, rfl⟩ := hanswer head' rfl
      exact h.committed rfl head past rest answer

theorem Ran.leads_selfAfter {head : PlanHead} {function : Option (Function σ)}
    {left : Plan σ} {exit : Exit PlanHead} {attempts : List Attempt}
    (h : Ran (.call head function false) exit.isDone attempts left)
    (hanswer : ∀ head', exit = .done head' → ∃ answer, head' = head.commit answer head.outputs) :
    Leads (.call head function false) attempts (selfAfter head function exit) := by
  -- the call is no group, so it was attempted or it was not
  cases hexit : exit.isDone with
  | false =>
      rw [selfAfter_of_not_done hexit]
      generalize hended : exit.isDone = ended at h
      cases h with
      | idle => exact .refl _
      | call hposition =>
          refine .refused ?_ (hended.symm.trans hexit)
          rw [hposition]
          rfl
      | group hgroup _ _ => cases hgroup
  | true =>
      obtain ⟨head', rfl⟩ := Exit.isDone_iff.1 hexit
      obtain ⟨answer, rfl⟩ := hanswer head' rfl
      generalize hended : (Exit.done (head.commit answer head.outputs)).isDone = ended at h
      cases h with
      | idle => cases hended
      | call hposition =>
          refine .called ?_ hended.symm ?_
          · rw [hposition]
            rfl
          · rw [hposition]
            exact .self
      | group hgroup _ _ => cases hgroup

/-! ### Runs with a journal -/

/-- With its journal, the run `x'` of a wrapped plan does what `x` does without, and enters
`entries`. -/
def Records (scope : Scope σ) (place : Position) (x : PlanRun σ α)
    (x' : PlanRun (Journaled σ Attempt) α) (limits : Limits) (w : World σ)
    (entries : List Attempt) : Prop :=
  ∀ journal, x' limits (w.journaled journal) =
    ((x limits w).1, (x limits w).2.1.noted scope place,
      (x limits w).2.2.journaled (journal ++ entries))

/-- A run of the step at `place`: what it enters, and what the step comes to. -/
structure Works (scope : Scope σ) (place : Position) (step : Plan σ) (x : PlanRun σ α)
    (x' : PlanRun (Journaled σ Attempt) α) (limits : Limits) (w : World σ)
    (attempts : List Attempt) : Prop where
  records : Records scope place x x' limits w (attempts.map (Attempt.below place))
  ran : Ran step (x limits w).1.isDone attempts (x limits w).2.1

theorem limitFor_journaled (h : PlanHead) (w : World σ) (journal : List Attempt) :
    limitFor h (w.journaled journal) = limitFor h w := rfl

theorem Works.given {step left : Plan σ} {x : PlanRun σ α}
    {x' : PlanRun (Journaled σ Attempt) α} {limits : Limits} {w after : World σ}
    {exit : Exit α} {attempts : List Attempt}
    (h : Works scope place step x x' limits w attempts) (hrun : x limits w = (exit, left, after)) :
    (∀ journal, x' limits (w.journaled journal) = (exit, left.noted scope place,
        after.journaled (journal ++ attempts.map (Attempt.below place)))) ∧
      Ran step exit.isDone attempts left := by
  obtain ⟨hrecords, hran⟩ := h
  rw [Records, hrun] at hrecords
  rw [hrun] at hran
  exact ⟨hrecords, hran⟩

/-- A run that leaves the step alone and has no value enters nothing. -/
theorem Works.idle {step : Plan σ} {x : PlanRun σ α} {x' : PlanRun (Journaled σ Attempt) α}
    {limits : Limits} {w after : World σ} {exit : Exit α} (hexit : exit.isDone = false)
    (hrun : x limits w = (exit, step, after))
    (hrun' : ∀ journal, x' limits (w.journaled journal) =
      (exit, step.noted scope place, after.journaled journal)) :
    Works scope place step x x' limits w [] where
  records := by
    intro journal
    rw [hrun', hrun, List.map_nil, List.append_nil]
  ran := by
    rw [hrun, hexit]
    exact .idle

section

variable {step : Plan σ} {invoke : Variables → PlanRun σ Variables}
  {invoke' : Variables → PlanRun (Journaled σ Attempt) Variables}

/-- An attempt at a step makes the attempts that running the step makes. -/
theorem exists_works_attempt
    (hinvoke : ∀ vars limits w, ∃ attempts,
      Works scope place step (invoke vars) (invoke' vars) limits w attempts)
    (h : PlanHead) (caller : Variables) (limits : Limits) (w : World σ) :
    ∃ attempts, Works scope place step (h.attempt step invoke caller)
      (h.attempt (step.noted scope place) invoke' caller) limits w attempts := by
  obtain ⟨attempts, hworks⟩ :=
    hinvoke (h.stepVariables caller step) (limits.within (limitFor h w)) w
  rcases hrun : invoke (h.stepVariables caller step) (limits.within (limitFor h w)) w with
    ⟨exit, left, after⟩
  obtain ⟨hrecords, hran⟩ := hworks.given hrun
  refine ⟨attempts, ?_, ?_⟩
  · intro journal
    have hvars : h.stepVariables caller (step.noted scope place) = h.stepVariables caller step :=
      stepVariables_noted h caller step
    have hrun' := hrecords journal
    rw [← hvars, ← limitFor_journaled] at hrun'
    rw [attempt_eq hrun, attempt_eq hrun', limitFor_journaled, Exit.expire_journaled,
      qualifiedName_noted, outputs_noted]
  · rw [attempt_eq hrun]
    simpa using hran

theorem exists_works_attemptWatched
    (hinvoke : ∀ vars limits w, ∃ attempts,
      Works scope place step (invoke vars) (invoke' vars) limits w attempts)
    (h : PlanHead) (cancellable : Bool) (caller : Variables) (limits : Limits) (w : World σ) :
    ∃ attempts, Works scope place step (h.attemptWatched cancellable step invoke caller)
      (h.attemptWatched cancellable (step.noted scope place) invoke' caller) limits w
      attempts := by
  cases cancellable with
  | false => exact exists_works_attempt hinvoke h caller limits w
  | true =>
      cases hw : w.cancelled with
      | true =>
          refine ⟨[], .idle rfl (attemptWatched_of_cancelled hw) fun journal => ?_⟩
          have hw' : (w.journaled journal).cancelled = true := hw
          exact attemptWatched_of_cancelled hw'
      | false =>
          -- the journal does not matter to whether the turn has room
          have hmake := Run.records_makeRoom (ε := Attempt) limits w
          rcases hroom : Run.makeRoom limits w with ⟨exit, between⟩
          simp only [Run.Records, hroom, List.append_nil] at hmake
          have hw' : ∀ journal : List Attempt, (w.journaled journal).cancelled = false :=
            fun _ => hw
          cases hexit : exit.isDone with
          | false =>
              have hexit' : (exit.map fun _ => h).isDone = false := by
                rw [Exit.isDone_map, hexit]
              exact ⟨[], .idle hexit' (attemptWatched_of_no_room hw hroom hexit) fun journal =>
                attemptWatched_of_no_room (hw' journal) (hmake journal) hexit⟩
          | true =>
              obtain ⟨⟨⟩, rfl⟩ := Exit.isDone_iff.1 hexit
              obtain ⟨attempts, hworks⟩ :=
                exists_works_attempt hinvoke h caller (limits.watching true) between
              rcases hrun : h.attempt step invoke caller (limits.watching true) between with
                ⟨exit, left, after⟩
              obtain ⟨hrecords, hran⟩ := hworks.given hrun
              refine ⟨attempts, fun journal => ?_, ?_⟩
              · rw [attemptWatched_of_room hw hroom hrun,
                  attemptWatched_of_room (hw' journal) (hmake journal) (hrecords journal),
                  World.cancelled_journaled]
              · rw [attemptWatched_of_room hw hroom hrun, Exit.isDone_settle]
                exact hran

end

/-! ### Running steps and plans -/

theorem exists_works_call (head : PlanHead) (function : Option (Function σ)) (finished : Bool)
    (scope' : Scope (Journaled σ Attempt)) (vars : Variables) (limits : Limits) (w : World σ) :
    ∃ attempts, Works scope place (.call head function finished)
      (runWhole scope (.call head function finished) vars)
      (runWhole scope' (noted scope place (.call head function finished)) vars) limits w
      attempts := by
  cases function with
  | none =>
      have hexit : (runWhole scope (.call head none finished) vars limits w).1.isDone = false := rfl
      exact ⟨[], .idle hexit rfl fun journal => rfl⟩
  | some f =>
      let attempt : Attempt := ⟨[], vars, (f.body scope vars limits w).1⟩
      refine ⟨[attempt], fun journal => ?_, ?_⟩
      · have hplace : attempt.below place = ⟨place, vars, (f.body scope vars limits w).1⟩ := by
          rw [Attempt.below, List.append_nil]
        rw [List.map_singleton, hplace]
        rfl
      · -- a failure that names the step is a failure still
        have hended : (runWhole scope (.call head (some f) finished) vars limits w).1.isDone =
            attempt.succeeded := Exit.isDone_mapError _ _
        rw [hended]
        exact .call rfl

/-- Running the steps ahead in a group is a sequence of moves, to the end of the group if it
ends with a value. -/
theorem exists_works_runSteps {ahead : List (Plan σ)} {scope' : Scope (Journaled σ Attempt)}
    (hsteps : ∀ step ∈ ahead, ∀ place vars limits w, ∃ attempts,
      Works scope place step (runWhole scope step vars)
        (runWhole scope' (step.noted scope place) vars) limits w attempts)
    (cancellable : Bool) (declared : List String) (head : PlanHead) (past : List (Plan σ))
    (vars : Variables) (limits : Limits) (w : World σ) :
    ∃ attempts, Works scope place (.group head past ahead)
      (runSteps scope cancellable declared head past ahead vars)
      (runSteps scope' cancellable declared head (notedFrom scope place 0 past)
        (notedFrom scope place past.length ahead) vars) limits w attempts := by
  -- the head and the steps done are those of the group at the time, so they vary
  induction ahead generalizing head past vars w with
  | nil =>
      refine ⟨[], fun journal => ?_, .group rfl (.refl _) fun _ => rfl⟩
      rw [List.map_nil, List.append_nil]
      rfl
  | cons step rest ih =>
      let caller := vars.merge head.state false
      obtain ⟨attempts, hworks⟩ := exists_works_attemptWatched
        (fun vars => hsteps step (by simp) (place ++ [past.length]) vars)
        head cancellable caller limits w
      rcases hrun : head.attemptWatched cancellable step (runWhole scope step) caller limits w
        with ⟨exit, left, after⟩
      obtain ⟨hrecords, hran⟩ := hworks.given hrun
      have hbelow : attempts.map (Attempt.below (place ++ [past.length])) =
          (attempts.map (Attempt.below [past.length])).map (Attempt.below place) := by
        simp [Attempt.below_below]
      cases hexit : exit.isDone with
      | false =>
          refine ⟨attempts.map (Attempt.below [past.length]), fun journal => ?_, ?_⟩
          · rw [notedFrom, runSteps_of_not_done hrun hexit,
              runSteps_of_not_done (hrecords journal) hexit, ← hbelow, noted, notedFrom]
          · rw [runSteps_of_not_done hrun hexit, Exit.isDone_map]
            refine .group rfl (hran.left_behind hexit head past rest) fun hdone => ?_
            rw [hexit] at hdone
            cases hdone
      | true =>
          obtain ⟨head', rfl⟩ : ∃ head', exit = .done head' := Exit.isDone_iff.1 hexit
          obtain ⟨answer, rfl⟩ := exists_answer_of_attemptWatched (by rw [hrun])
          obtain ⟨later, hlater, hrest⟩ := ih (fun s hs => hsteps s (by simp [hs]))
            (head.commit answer step.outputs) (past ++ [left])
            ((head.commit answer step.outputs).publish declared caller) after
          refine ⟨attempts.map (Attempt.below [past.length]) ++ later, fun journal => ?_, ?_⟩
          · rw [notedFrom, runSteps_of_done hrun, runSteps_of_done (hrecords journal)]
            -- the wrapped step has joined those done, where its index is the same
            have hnoted := hlater (journal ++ attempts.map (Attempt.below (place ++ [past.length])))
            rw [notedFrom_append, notedFrom, notedFrom, Nat.zero_add, List.length_append,
              List.length_singleton] at hnoted
            rw [hnoted, List.map_append, hbelow, List.append_assoc]
          · rw [runSteps_of_done hrun]
            exact hrest.after_leads (hran.committed rfl head past rest answer) rfl

/-- Running a step makes attempts at its calls, each of which is entered. -/
theorem exists_works_runWhole (step : Plan σ) (scope' : Scope (Journaled σ Attempt)) :
    ∀ place vars limits w, ∃ attempts, Works scope place step (runWhole scope step vars)
      (runWhole scope' (step.noted scope place) vars) limits w attempts := by
  induction step using steps_induction with
  | call head function finished =>
      intro place vars limits w
      exact exists_works_call head function finished scope' vars limits w
  | group head past ahead _ ih =>
      intro place vars limits w
      rw [noted, runWhole, runWhole, outputs_noted_steps]
      exact exists_works_runSteps ih false _ head past vars limits w

end Plan

end PromptPlan
