import Mathlib.Data.List.Induction
import PromptPlan.Proofs.Plan.Attempts
import PromptPlan.Proofs.Plan.Order

/-!
# Coming back to a plan

A plan is kept by its owner, who comes back to it: runs its next step, runs it to its end,
does so with cancellation, and comes back again after a failure. Each *visit* finds the plan
as the one before left it. All else can have changed in between: the caller's variables, the
functions in scope, the limits, and the world.

Over all visits the calls of the plan are made in order. A call that was answered is not
made again, one that was not is the next to be made, and no other call comes before it.
-/

namespace PromptPlan

variable {σ α : Type}

namespace Plan

variable {scope : Scope σ}

/-! ### One visit -/

theorem map_below_nil (attempts : List Attempt) :
    attempts.map (Attempt.below []) = attempts := by
  induction attempts with
  | nil => rfl
  | cons attempt attempts ih => rw [List.map_cons, ih, Attempt.below_nil]

theorem Ran.leads {p left : Plan σ} {ended : Bool} {attempts : List Attempt}
    (h : Ran p ended attempts left) (hp : p.isCall = false) : Leads p attempts left := by
  cases h with
  | idle => exact .refl p
  | call _ => cases hp
  | group _ h _ => exact h

/-- A run of a whole plan: what it enters, and how it gets to the plan that it leaves. -/
structure Advances (scope : Scope σ) (p : Plan σ) (x : PlanRun σ α)
    (x' : PlanRun (Journaled σ Attempt) α) (limits : Limits) (w : World σ)
    (attempts : List Attempt) : Prop where
  records : Records scope [] x x' limits w attempts
  leads : Leads p attempts (x limits w).2.1

theorem Works.advances {p : Plan σ} {x : PlanRun σ α} {x' : PlanRun (Journaled σ Attempt) α}
    {limits : Limits} {w : World σ} {attempts : List Attempt}
    (h : Works scope [] p x x' limits w attempts) (hp : p.isCall = false) :
    Advances scope p x x' limits w attempts where
  records := by
    have hrecords := h.records
    rwa [map_below_nil] at hrecords
  leads := h.ran.leads hp

theorem exists_advances_run (p : Plan σ) (scope : Scope σ)
    (scope' : Scope (Journaled σ Attempt)) (cancellable : Bool) (vars : Variables)
    (limits : Limits) (w : World σ) :
    ∃ attempts, Advances scope p (run scope cancellable p vars)
      (run scope' cancellable (p.noted scope []) vars) limits w attempts := by
  cases p with
  | group head past ahead =>
      obtain ⟨attempts, hworks⟩ := exists_works_runSteps
        (fun step _ => exists_works_runWhole step scope') cancellable _ head past vars limits w
      rw [noted, run, run, outputs_noted_steps]
      exact ⟨attempts, hworks.advances rfl⟩
  | call head function finished =>
      cases finished with
      | true =>
          refine ⟨[], fun journal => ?_, .refl _⟩
          rw [List.append_nil]
          rfl
      | false =>
          let self : Plan σ := .call head function false
          let caller := vars.merge head.state false
          obtain ⟨attempts, hworks⟩ := exists_works_attemptWatched
            (exists_works_runWhole self scope' []) head cancellable caller limits w
          rcases hrun : head.attemptWatched cancellable self (runWhole scope self) caller limits w
            with ⟨exit, left, after⟩
          obtain ⟨hrecords, hran⟩ := hworks.given hrun
          rw [map_below_nil] at hrecords
          refine ⟨attempts, fun journal => ?_, ?_⟩
          · rw [run_call hrun, noted, run_call (hrecords journal), noted_selfAfter]
          · rw [run_call hrun]
            exact hran.leads_selfAfter fun head' hdone =>
              exists_answer_of_attemptWatched (by rw [hrun, hdone])

theorem exists_advances_runNext (p : Plan σ) (scope : Scope σ)
    (scope' : Scope (Journaled σ Attempt)) (caller : Variables) (limits : Limits) (w : World σ) :
    ∃ attempts, Advances scope p (runNext scope caller p)
      (runNext scope' caller (p.noted scope [])) limits w attempts := by
  cases p with
  | group head past ahead =>
      cases ahead with
      | nil =>
          refine ⟨[], fun journal => ?_, .refl _⟩
          rw [List.append_nil]
          rfl
      | cons step rest =>
          obtain ⟨attempts, hworks⟩ := exists_works_attempt
            (exists_works_runWhole step scope' [past.length]) head caller limits w
          rcases hrun : head.attempt step (runWhole scope step) caller limits w with
            ⟨exit, left, after⟩
          obtain ⟨hrecords, hran⟩ := hworks.given hrun
          refine ⟨attempts.map (Attempt.below [past.length]), fun journal => ?_, ?_⟩
          · rw [runNext_group hrun, noted, notedFrom, List.nil_append,
              runNext_group (hrecords journal), noted_stepAfter, List.nil_append]
          · rw [runNext_group hrun]
            exact hran.leads_stepAfter
              (fun head' hdone => exists_answer_of_attempt (by rw [hrun, hdone])) past rest
  | call head function finished =>
      cases finished with
      | true =>
          refine ⟨[], fun journal => ?_, .refl _⟩
          rw [List.append_nil]
          rfl
      | false =>
          let self : Plan σ := .call head function false
          obtain ⟨attempts, hworks⟩ := exists_works_attempt
            (exists_works_runWhole self scope' []) head caller limits w
          rcases hrun : head.attempt self (runWhole scope self) caller limits w with
            ⟨exit, left, after⟩
          obtain ⟨hrecords, hran⟩ := hworks.given hrun
          rw [map_below_nil] at hrecords
          refine ⟨attempts, fun journal => ?_, ?_⟩
          · rw [runNext_call hrun, noted, runNext_call (hrecords journal), noted_selfAfter]
          · rw [runNext_call hrun]
            exact hran.leads_selfAfter fun head' hdone =>
              exists_answer_of_attempt (by rw [hrun, hdone])

end Plan

/-! ### Visits -/

/-- What the owner of a plan does with it. The variables are those of the caller. -/
inductive Operation where
  | next (caller : Variables)
  | drain (cancellable : Bool) (caller : Variables)

/-- Performs an operation. Running the next step shows nothing to the caller. -/
def Operation.perform (scope : Scope σ) (p : Plan σ) : Operation → PlanRun σ Variables
  | .next caller => fun limits w =>
    let (exit, left, w) := p.runNext scope caller limits w
    (exit.map fun _ => caller, left, w)
  | .drain cancellable caller => p.run scope cancellable caller

/-- An operation with all it depends on besides the plan. -/
structure Visit (σ : Type) where
  operation : Operation
  scope : Scope σ
  limits : Limits
  world : World σ

namespace Visit

def perform (visit : Visit σ) (p : Plan σ) : Exit Variables × Plan σ × World σ :=
  visit.operation.perform visit.scope p visit.limits visit.world

def left (visit : Visit σ) (p : Plan σ) : Plan σ :=
  (visit.perform p).2.1

/-- A visit with a journal. The functions of the plan have their scope from the visit. -/
def performNoted (visit : Visit σ) (p : Plan σ) (journal : List Attempt) :
    Exit Variables × Plan (Journaled σ Attempt) × World (Journaled σ Attempt) :=
  visit.operation.perform (fun _ _ => none) (p.noted visit.scope []) visit.limits
    (visit.world.journaled journal)

def attempts (visit : Visit σ) (p : Plan σ) : List Attempt :=
  (visit.performNoted p []).2.2.host.journal

end Visit

namespace Plan

def leftBy (p : Plan σ) : List (Visit σ) → Plan σ
  | [] => p
  | visit :: rest => leftBy (visit.left p) rest

def attemptsOf (p : Plan σ) : List (Visit σ) → List Attempt
  | [] => []
  | visit :: rest => visit.attempts p ++ attemptsOf (visit.left p) rest

theorem exists_advances_perform (p : Plan σ) (scope : Scope σ)
    (scope' : Scope (Journaled σ Attempt)) (operation : Operation) (limits : Limits)
    (w : World σ) :
    ∃ attempts, Advances scope p (operation.perform scope p)
      (operation.perform scope' (p.noted scope [])) limits w attempts := by
  cases operation with
  | drain cancellable caller => exact exists_advances_run p scope scope' cancellable caller limits w
  | next caller =>
      obtain ⟨attempts, hrecords, hleads⟩ :=
        exists_advances_runNext p scope scope' caller limits w
      refine ⟨attempts, fun journal => ?_, hleads⟩
      simp only [Operation.perform, hrecords journal]

theorem advances_visit (visit : Visit σ) (p : Plan σ) :
    Advances visit.scope p (visit.operation.perform visit.scope p)
      (visit.operation.perform (fun _ _ => none) (p.noted visit.scope [])) visit.limits
      visit.world (visit.attempts p) := by
  obtain ⟨attempts, hadvances⟩ := exists_advances_perform p visit.scope (fun _ _ => none)
    visit.operation visit.limits visit.world
  have hattempts : visit.attempts p = attempts := by
    rw [Visit.attempts, Visit.performNoted, hadvances.records []]
    rfl
  rw [hattempts]
  exact hadvances

/-- The moment after visits. -/
def momentAfter (p : Plan σ) (visits : List (Visit σ)) : Moment σ :=
  ⟨attemptsOf p visits, leftBy p visits⟩

theorem leftBy_append (p : Plan σ) (visits later : List (Visit σ)) :
    leftBy p (visits ++ later) = leftBy (leftBy p visits) later := by
  induction visits generalizing p with
  | nil => rfl
  | cons visit visits ih => exact ih (visit.left p)

theorem attemptsOf_append (p : Plan σ) (visits later : List (Visit σ)) :
    attemptsOf p (visits ++ later) =
      attemptsOf p visits ++ attemptsOf (leftBy p visits) later := by
  induction visits generalizing p with
  | nil => rfl
  | cons visit visits ih =>
      rw [List.cons_append, attemptsOf, attemptsOf, leftBy, ih, List.append_assoc]

theorem momentAfter_concat (p : Plan σ) (visits : List (Visit σ)) (visit : Visit σ) :
    momentAfter p (visits ++ [visit]) =
      ⟨attemptsOf p visits ++ visit.attempts (leftBy p visits), visit.left (leftBy p visits)⟩ := by
  rw [momentAfter, leftBy_append, attemptsOf_append, attemptsOf, attemptsOf, List.append_nil]
  rfl

theorem moves_of_visit (p : Plan σ) (visits : List (Visit σ)) (visit : Visit σ) :
    Relation.ReflTransGen Move (momentAfter p visits) (momentAfter p (visits ++ [visit])) := by
  rw [momentAfter_concat]
  exact (advances_visit visit (leftBy p visits)).leads.after (attemptsOf p visits)

theorem exists_moments (p : Plan σ) (visits : List (Visit σ)) :
    ∃ moments : List (Moment σ), moments.head? = some ⟨[], p⟩ ∧
      moments.getLast? = some (momentAfter p visits) ∧ moments.IsChain Move ∧
        ∀ before, before <+: visits → momentAfter p before ∈ moments := by
  induction visits using List.reverseRecOn with
  | nil =>
      refine ⟨[⟨[], p⟩], rfl, rfl, .singleton _, fun before hbefore => ?_⟩
      rw [List.prefix_nil.1 hbefore]
      exact List.mem_singleton.2 rfl
  | append_singleton visits visit ih =>
      obtain ⟨moments, hfirst, hlast, hmoves, hmem⟩ := ih
      obtain ⟨later, hlater, hend⟩ :=
        List.exists_isChain_cons_of_relationReflTransGen (moves_of_visit p visits visit)
      -- the last moment so far is the one that the visit begins with, and is not listed twice
      have hlast' : (moments ++ later).getLast? = some (momentAfter p (visits ++ [visit])) := by
        rw [← hend, ← List.getLast?_eq_some_getLast, List.getLast?_append, hlast,
          List.getLast?_cons]
        cases later.getLast? <;> rfl
      refine ⟨moments ++ later, ?_, hlast', ?_, ?_⟩
      · rw [List.head?_append, hfirst]
        rfl
      · refine hmoves.append hlater.tail fun m hm next hnext => ?_
        obtain rfl : m = momentAfter p visits := Option.some.inj (hm.symm.trans hlast)
        exact hlater.rel_head? hnext
      · intro before hbefore
        rcases List.prefix_concat_iff.1 hbefore with rfl | hbefore
        · exact List.mem_of_getLast? hlast'
        · exact List.mem_append_left later (hmem before hbefore)

/-- **Calls are made in order.** Whatever visits a plan gets, the calls that they commit are
the first of those that remained, and none is committed twice. A visit with a journal does
what it does without and enters the attempts that it makes, and there is a history of these
attempts from the start to the end, in which the moments between visits occur. -/
theorem visits_in_order (p : Plan σ) (visits : List (Visit σ)) :
    committed (attemptsOf p visits) <+: p.remaining ∧
      (committed (attemptsOf p visits)).Nodup ∧
      (∀ (visit : Visit σ) q journal, visit.performNoted q journal =
        ((visit.perform q).1, (visit.left q).noted visit.scope [],
          (visit.perform q).2.2.journaled (journal ++ visit.attempts q))) ∧
      ∃ moments, History p (attemptsOf p visits) (leftBy p visits) moments ∧
        ∀ before, before <+: visits → momentAfter p before ∈ moments := by
  obtain ⟨moments, hfirst, hlast, hmoves, hmem⟩ := exists_moments p visits
  have hhistory : History p (attemptsOf p visits) (leftBy p visits) moments :=
    .of_isChain hfirst hlast hmoves
  have hkept := hhistory.kept_last
  exact ⟨hkept.committed_prefix, hkept.nodup_committed,
    fun visit q => (advances_visit visit q).records, moments, hhistory, hmem⟩

/-- A call within a group fails at first, and the work goes on from it. -/
example :
    let steady : Function Bool := .bare "" "steady" "" fun _ vars => pure vars
    let flaky : Function Bool := .bare "" "flaky" "" fun _ vars => do
      if ← Run.host fun up => (up, up) then return vars else Run.fail .cancelled
    let inner := ofSteps "inner" [ofFunction steady, ofFunction flaky]
    let p := ofSteps "outer" [inner, ofFunction steady]
    let visits : List (Visit Bool) :=
      [⟨.next .empty, fun _ _ => none, .none, .start false⟩,
        ⟨.drain true .empty, fun _ _ => none, .none, .start true⟩]
    (attemptsOf p visits).map Attempt.position = [[0, 0], [0, 1], [0, 1], [1]] := by
  decide +kernel

end Plan

end PromptPlan
