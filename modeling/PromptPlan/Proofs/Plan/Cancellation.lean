import PromptPlan.Proofs.Plan.Starts

/-!
# What the cancellation flag stops

A cancellable run looks at the flag before each step of the plan itself, and a step that is a
group is one step: its own steps are run without looking at the flag between them. So what the
flag stops depends on how a plan is grouped. A plan whose steps make one call each makes no call
once the flag is up. In a group the calls go on until the group is done or one of them suspends
itself, because that is where a watched run is interrupted.
-/

namespace PromptPlan

variable {σ α β : Type}

theorem Limits.cancelled_of_interrupt? {limits : Limits} {w after : World σ}
    (h : limits.interrupt? w = some after) : after.cancelled = w.cancelled := by
  unfold Limits.interrupt? at h
  split_ifs at h <;> cases h <;> rfl

/-- Looking for room changes neither the host nor the flag. -/
theorem Run.makeRoom_keeps {limits : Limits} {w between : World σ} {exit : Exit Unit}
    (h : makeRoom limits w = (exit, between)) :
    between.host = w.host ∧ between.cancelled = w.cancelled := by
  unfold makeRoom at h
  split at h
  · cases h
    exact ⟨rfl, rfl⟩
  · cases hint : limits.interrupt? w with
    | none =>
        rw [hint] at h
        cases h
        exact ⟨rfl, rfl⟩
    | some after =>
        rw [hint] at h
        cases h
        exact ⟨Limits.host_of_interrupt? hint, Limits.cancelled_of_interrupt? hint⟩

namespace Plan

variable {scope : Scope σ} {scope' : Scope (Journaled σ Start)} {place : Position}

/-! ### A watched step

A step of the plan itself begins with the flag down. So nothing but its calls can have raised the
flag when it is over, and if it has one call only, this call is the reason if it ends without a
value, or it suspended itself with the flag up. -/

/-- Why a run has ended without a value and with the flag up: by the flag, or as the call that
was begun last has ended. -/
inductive CutShort : Exit α → List Start → Prop
  | cancelled {starts : List Start} : CutShort (.failed .cancelled) starts
  | last {exit : Exit α} {starts : List Start} {start : Start} :
      starts.getLast? = some start → Reported start.ended exit → exit ≠ .interrupted →
        CutShort exit starts

theorem CutShort.map {exit : Exit α} {starts : List Start} (h : CutShort exit starts) (f : α → β) :
    CutShort (exit.map f) starts := by
  cases h with
  | cancelled => exact .cancelled
  | last hlast hreport hexit =>
      refine .last hlast (hreport.map f) ?_
      cases exit with
      | interrupted => exact absurd rfl hexit
      | _ => exact fun h => by cases h

theorem CutShort.append {exit : Exit α} {starts : List Start} (h : CutShort exit starts)
    (earlier : List Start) : CutShort exit (earlier ++ starts) := by
  cases h with
  | cancelled => exact .cancelled
  | last hlast hreport hexit =>
      refine .last ?_ hreport hexit
      rw [List.getLast?_append, hlast, Option.some_or]

/-- An interruption with the flag up is settled. -/
theorem cutShort_settle {exit : Exit α} {starts : List Start} {start : Start}
    (hlast : starts.getLast? = some start) (hreport : Reported start.ended exit) :
    CutShort (exit.settle true) starts := by
  cases exit with
  | done a => cases hreport.isDone_eq
  | failed e => exact .last hlast hreport (by simp [Exit.settle])
  | interrupted => exact .cancelled
  | stuck => exact .last hlast hreport (by simp [Exit.settle])

/-- A watched run of a step at `place` that has so many calls ahead. -/
structure Heeding (place : Position) (calls : Nat) (w : World (Journaled σ Start))
    (ran : Exit α × Plan (Journaled σ Start) × World (Journaled σ Start))
    (starts : List Start) : Prop where
  journal : ran.2.2.host.journal = w.host.journal ++ starts
  below : ∀ start ∈ starts, place <+: start.position
  length_le : starts.length ≤ calls
  first : ∀ start, starts.head? = some start → start.late = false
  ended : calls ≤ 1 → ran.1.isDone = false → ran.2.2.cancelled = true → CutShort ran.1 starts

/-- Nothing was begun. -/
theorem heeding_nil (place : Position) (calls : Nat) {w after : World (Journaled σ Start)}
    {exit : Exit α} {left : Plan (Journaled σ Start)} (hhost : after.host = w.host)
    (h : after.cancelled = true → CutShort exit []) :
    Heeding place calls w (exit, left, after) [] where
  journal := by rw [List.append_nil, hhost]
  below := by simp
  length_le := Nat.zero_le calls
  first := by simp
  ended _ _ hup := h hup

theorem exists_heeding_attemptWatched (step : Plan (Journaled σ Start)) {calls : Nat}
    {invoke : Variables → PlanRun (Journaled σ Start) Variables}
    (hinvoke : ∀ vars limits w, ∃ starts,
      Starting place calls w (invoke vars limits w) starts)
    (h : PlanHead) (caller : Variables) (limits : Limits) (w : World (Journaled σ Start)) :
    ∃ starts, Heeding place calls w (h.attemptWatched true step invoke caller limits w)
      starts := by
  cases hw : w.cancelled with
  | true =>
      rw [attemptWatched_of_cancelled hw]
      exact ⟨[], heeding_nil place calls rfl fun _ => .cancelled⟩
  | false =>
      rcases hroom : Run.makeRoom limits w with ⟨exit, between⟩
      obtain ⟨hhost, hflag⟩ := Run.makeRoom_keeps hroom
      have hdown : between.cancelled = false := hflag.trans hw
      cases hexit : exit.isDone with
      | false =>
          rw [attemptWatched_of_no_room hw hroom hexit]
          refine ⟨[], heeding_nil place calls hhost fun hup => ?_⟩
          rw [hdown] at hup
          cases hup
      | true =>
          obtain ⟨⟨⟩, rfl⟩ := Exit.isDone_iff.1 hexit
          obtain ⟨starts, hstarts⟩ := exists_starting_attempt step hinvoke h caller
            (limits.watching true) between
          rcases hrun : h.attempt step invoke caller (limits.watching true) between with
            ⟨exit, left, after⟩
          rw [hrun] at hstarts
          rw [attemptWatched_of_room hw hroom hrun]
          refine ⟨starts, ?_, hstarts.below, hstarts.length_le, ?_, ?_⟩
          · rw [← hhost]
            exact hstarts.journal
          · exact fun start hstart => (hstarts.first start hstart).trans hdown
          · intro hcalls hexit hup
            rw [Exit.isDone_settle] at hexit
            have hup : after.cancelled = true := hup
            -- the flag was raised by a call, which is the only one
            have hne : starts.length ≠ 0 := by
              intro hzero
              have hidle : after.cancelled = between.cancelled :=
                hstarts.idle (List.length_eq_zero_iff.1 hzero)
              rw [hup, hdown] at hidle
              cases hidle
            have hlength : starts.length = calls := by
              have := hstarts.length_le
              omega
            obtain ⟨start, hlast, hreport⟩ := hstarts.ended hexit hlength
            rw [hup]
            exact cutShort_settle hlast hreport

/-! ### A cancellable run -/

/-- A call that found the flag up belongs to a step of the plan that had begun with the flag
down, with another call. -/
def Prompted (starts : List Start) : Prop :=
  ∀ before start after, starts = before ++ start :: after → start.late = true →
    ∃ first ∈ before, first.late = false ∧ first.position.head? = start.position.head?

theorem prompted_nil : Prompted [] := by
  intro before start after hsplit
  simp at hsplit

theorem Prompted.append {starts later : List Start} (h : Prompted starts)
    (hlater : Prompted later) : Prompted (starts ++ later) := by
  intro before start after hsplit hlate
  rcases List.append_eq_append_iff.1 hsplit with ⟨middle, rfl, hback⟩ | ⟨middle, hfront, hback⟩
  · obtain ⟨first, hfirst, hdown, hhead⟩ := hlater middle start after hback hlate
    exact ⟨first, List.mem_append_right starts hfirst, hdown, hhead⟩
  · cases middle with
    | nil =>
        obtain ⟨first, hfirst, -, -⟩ := hlater [] start after hback.symm hlate
        cases hfirst
    | cons other middle =>
        obtain ⟨rfl, -⟩ := List.cons.inj hback
        exact h before start middle hfront hlate

theorem prompted_of_prompt {starts : List Start} (h : ∀ start ∈ starts, start.late = false) :
    Prompted starts := by
  rintro before start after rfl hlate
  rw [h start (by simp)] at hlate
  cases hlate

/-- Calls of one step, the first of which found the flag down. -/
theorem prompted_of_first {starts : List Start}
    (hfirst : ∀ start, starts.head? = some start → start.late = false)
    (hhead : ∀ a ∈ starts, ∀ b ∈ starts, a.position.head? = b.position.head?) :
    Prompted starts := by
  rintro before start after rfl hlate
  cases before with
  | nil =>
      rw [hfirst start rfl] at hlate
      cases hlate
  | cons first before =>
      exact ⟨first, by simp, hfirst first rfl, hhead first (by simp) start (by simp)⟩

/-- What a cancellable run begins, with a condition on the plan under which the flag is always
heeded. -/
structure Heeded (single : Prop) (w : World (Journaled σ Start))
    (ran : Exit α × Plan (Journaled σ Start) × World (Journaled σ Start))
    (starts : List Start) : Prop where
  journal : ran.2.2.host.journal = w.host.journal ++ starts
  prompted : Prompted starts
  prompt : single → ∀ start ∈ starts, start.late = false
  ended : single → ran.1.isDone = false → ran.2.2.cancelled = true → CutShort ran.1 starts

theorem Heeding.prompt {calls : Nat} {w : World (Journaled σ Start)}
    {ran : Exit α × Plan (Journaled σ Start) × World (Journaled σ Start)} {starts : List Start}
    (h : Heeding place calls w ran starts) (hcalls : calls ≤ 1) :
    ∀ start ∈ starts, start.late = false := by
  intro start hstart
  have hlength := h.length_le
  match starts, hstart with
  | [_], hstart => exact h.first start (by rw [List.mem_singleton.1 hstart]; rfl)
  | _ :: _ :: _, _ =>
      simp only [List.length_cons] at hlength
      omega

theorem Heeding.prompted {calls i : Nat} {w : World (Journaled σ Start)}
    {ran : Exit α × Plan (Journaled σ Start) × World (Journaled σ Start)} {starts : List Start}
    (h : Heeding [i] calls w ran starts) : Prompted starts := by
  refine prompted_of_first h.first fun a ha b hb => ?_
  obtain ⟨rest, hrest⟩ := h.below a ha
  obtain ⟨rest', hrest'⟩ := h.below b hb
  rw [← hrest, ← hrest']
  rfl

theorem Heeding.heeded {calls : Nat} {w after : World (Journaled σ Start)} {exit : Exit α}
    {left left' : Plan (Journaled σ Start)} {starts : List Start} {single : Prop}
    (h : Heeding place calls w (exit, left, after) starts) (hprompted : Prompted starts)
    (hsingle : single → calls ≤ 1) (f : α → β) :
    Heeded single w (exit.map f, left', after) starts where
  journal := h.journal
  prompted := hprompted
  prompt hs := h.prompt (hsingle hs)
  ended := by
    intro hs hexit hup
    rw [Exit.isDone_map] at hexit
    exact (h.ended (hsingle hs) hexit hup).map f

/-- The calls of the first step, which is done, and those of the steps behind it. -/
theorem Heeding.append {calls i : Nat} {w after : World (Journaled σ Start)} {exit : Exit β}
    {left : Plan (Journaled σ Start)}
    {ran : Exit α × Plan (Journaled σ Start) × World (Journaled σ Start)}
    {starts later : List Start} {single single' : Prop}
    (h : Heeding [i] calls w (exit, left, after) starts) (hsingle : single → calls ≤ 1)
    (hlater : Heeded single' after ran later) (hrest : single → single') :
    Heeded single w ran (starts ++ later) where
  journal := by rw [hlater.journal, h.journal, List.append_assoc]
  prompted := h.prompted.append hlater.prompted
  prompt hs := List.forall_mem_append.2 ⟨h.prompt (hsingle hs), hlater.prompt (hrest hs)⟩
  ended hs hexit hup := (hlater.ended (hrest hs) hexit hup).append starts

theorem heeded_nil {single : Prop} {w : World (Journaled σ Start)} (a : α)
    (left : Plan (Journaled σ Start)) : Heeded single w (.done a, left, w) [] where
  journal := (List.append_nil _).symm
  prompted := prompted_nil
  prompt := by simp
  ended := by
    intro _ hexit
    cases hexit

theorem exists_heeded_runSteps (ahead : List (Plan σ)) (declared : List String)
    (head : PlanHead) (past : List (Plan (Journaled σ Start))) (i : Nat) (vars : Variables)
    (limits : Limits) (w : World (Journaled σ Start)) :
    ∃ starts, Heeded (∀ step ∈ ahead, step.callsAhead.length ≤ 1) w
      (runSteps scope' true declared head past (announcedFrom scope [] i ahead) vars limits w)
      starts := by
  induction ahead generalizing head past i vars w with
  | nil => exact ⟨[], heeded_nil vars _⟩
  | cons step rest ih =>
      rw [announcedFrom, List.nil_append]
      let step' := step.announced scope [i]
      let caller := vars.merge head.state false
      obtain ⟨starts, hstarts⟩ := exists_heeding_attemptWatched step'
        (exists_starting_runWhole scope' step [i]) head caller limits w
      rcases hrun : head.attemptWatched true step' (runWhole scope' step') caller limits w with
        ⟨exit, left, after⟩
      rw [hrun] at hstarts
      cases hexit : exit.isDone with
      | false =>
          rw [runSteps_of_not_done hrun hexit]
          exact ⟨starts, hstarts.heeded hstarts.prompted (fun hs => hs step (by simp)) _⟩
      | true =>
          obtain ⟨head', rfl⟩ := Exit.isDone_iff.1 hexit
          rw [runSteps_of_done hrun]
          obtain ⟨later, hlater⟩ := ih head' (past ++ [left]) (i + 1)
            (head'.publish declared caller) after
          exact ⟨starts ++ later, hstarts.append (fun hs => hs step (by simp)) hlater
            fun hs s h => hs s (List.mem_cons_of_mem step h)⟩

/-- Each step that is ahead in a plan makes one call at most. -/
def SingleCalls : Plan σ → Prop
  | .call .. => True
  | .group _ _ ahead => ∀ step ∈ ahead, step.callsAhead.length ≤ 1

instance decidableSingleCalls : (p : Plan σ) → Decidable p.SingleCalls
  | .call .. => .isTrue trivial
  | .group _ _ ahead => inferInstanceAs (Decidable (∀ step ∈ ahead, step.callsAhead.length ≤ 1))

theorem exists_heeded_run (scope : Scope σ) (scope' : Scope (Journaled σ Start)) (p : Plan σ)
    (vars : Variables) (limits : Limits) (w : World (Journaled σ Start)) :
    ∃ starts, Heeded p.SingleCalls w
      (run scope' true (p.announced scope []) vars limits w) starts := by
  cases p with
  | group head past ahead =>
      rw [announced, run]
      exact exists_heeded_runSteps ahead _ head _ past.length vars limits w
  | call head function finished =>
      cases finished with
      | true => exact ⟨[], heeded_nil vars _⟩
      | false =>
          let self : Plan σ := .call head function false
          let self' := self.announced scope []
          let caller := vars.merge head.state false
          obtain ⟨starts, hstarts⟩ := exists_heeding_attemptWatched self'
            (exists_starting_runWhole scope' self []) head caller limits w
          rcases hrun : head.attemptWatched true self' (runWhole scope' self') caller limits w with
            ⟨exit, left, after⟩
          rw [hrun] at hstarts
          have hcalls : self.callsAhead.length ≤ 1 := by simp [self, callsAhead]
          have hprompted := prompted_of_prompt (hstarts.prompt hcalls)
          rw [announced, run_call hrun]
          exact ⟨starts, hstarts.heeded hprompted (fun _ => hcalls) _⟩

/-! ### Plans that are done -/

theorem remaining_runSteps_of_isDone {cancellable : Bool} {declared : List String}
    {ahead : List (Plan σ)} {head : PlanHead} {past : List (Plan σ)} {vars : Variables}
    {limits : Limits} {w : World σ}
    (h : (runSteps scope cancellable declared head past ahead vars limits w).1.isDone = true) :
    (runSteps scope cancellable declared head past ahead vars limits w).2.1.remaining = [] := by
  induction ahead generalizing head past vars w with
  | nil => rw [runSteps, remaining, callsFrom]
  | cons step rest ih =>
      rcases hrun : head.attemptWatched cancellable step (runWhole scope step)
        (vars.merge head.state false) limits w with ⟨exit, left, after⟩
      cases hexit : exit.isDone with
      | false =>
          rw [runSteps_of_not_done hrun hexit, Exit.isDone_map, hexit] at h
          cases h
      | true =>
          obtain ⟨head', rfl⟩ := Exit.isDone_iff.1 hexit
          rw [runSteps_of_done hrun] at h ⊢
          exact ih h

theorem remaining_run_of_isDone {cancellable : Bool} {p : Plan σ} {vars : Variables}
    {limits : Limits} {w : World σ} (h : (run scope cancellable p vars limits w).1.isDone = true) :
    (run scope cancellable p vars limits w).2.1.remaining = [] := by
  cases p with
  | group head past ahead =>
      rw [run] at h ⊢
      exact remaining_runSteps_of_isDone h
  | call head function finished =>
      cases finished with
      | true => rfl
      | false =>
          rcases hrun : head.attemptWatched cancellable (.call head function false)
            (runWhole scope (.call head function false)) (vars.merge head.state false) limits w
            with ⟨exit, left, after⟩
          rw [run_call hrun] at h ⊢
          rw [Exit.isDone_map] at h
          obtain ⟨head', rfl⟩ := Exit.isDone_iff.1 h
          rfl

/-- **Cancellation.** A journal of the calls that are begun changes nothing else in a
cancellable run. A call that finds the flag up belongs to a step of the plan that began with the
flag down, with an earlier call. So in a plan whose steps make one call each, no call begins once
the flag is up; and if calls remain then, the run ends as cancelled, unless the call that was
begun last failed, got stuck, or ran out of time. -/
theorem stopped_between_steps (scope : Scope σ) (p : Plan σ) (vars : Variables) (limits : Limits)
    (w : World σ) :
    let ran := p.run scope true vars limits w
    let ran' := (p.announced scope []).run (fun _ _ => none) true vars limits (w.journaled [])
    let starts := ran'.2.2.host.journal
    ran'.1 = ran.1 ∧ Twins Journaled.Beside scope (fun _ _ => none) ran.2.1 ran'.2.1 ∧
      ran'.2.2.bare = ran.2.2 ∧ Prompted starts ∧
      (p.SingleCalls → (∀ start ∈ starts, start.late = false) ∧
        (ran.2.2.cancelled = true → ran.2.1.remaining ≠ [] → CutShort ran.1 starts)) := by
  intro ran ran' starts
  obtain ⟨hexit, hleft, hworld⟩ := together_run (twins_announced scope (fun _ _ => none) p [])
    true vars limits (w.paired_journaled [])
  obtain ⟨begun, hbegun⟩ :=
    exists_heeded_run scope (fun _ _ => none) p vars limits (w.journaled [])
  have hstarts : starts = begun := hbegun.journal
  have hexit : ran'.1 = ran.1 := hexit.symm
  rw [hstarts]
  refine ⟨hexit, hleft, hworld.bare_eq, hbegun.prompted, fun hsingle =>
    ⟨hbegun.prompt hsingle, fun hup hremaining => ?_⟩⟩
  have hnot : ran'.1.isDone = false := by
    rw [hexit, Bool.eq_false_iff]
    exact fun hdone => hremaining (remaining_run_of_isDone hdone)
  rw [← hexit]
  exact hbegun.ended hsingle hnot (hworld.cancelled_eq.trans hup)

/-- A call raises the flag and answers, and the next step of its plan does not begin. -/
theorem stopped_between_steps_answered :
    let quit : Function Unit := .native "" "quit" "" [] fun _ vars => do
      Run.cancel
      pure vars
    let late : Function Unit := .native "" "late" "" [] fun _ vars => pure vars
    let p := ofSteps "" [ofSteps "" [ofFunction quit], ofFunction late]
    let ran := p.run (fun _ _ => none) true .empty .none (.start ())
    let starts := ((p.announced (fun _ _ => none) []).run (fun _ _ => none) true .empty .none
      ((World.start ()).journaled [])).2.2.host.journal
    p.SingleCalls ∧ ran.2.2.cancelled = true ∧ ran.2.1.remaining ≠ [] ∧
      (∀ start ∈ starts, start.late = false) ∧ CutShort ran.1 starts ∧
      starts.map Start.position = [[0, 0]] ∧ ran.1 = .failed .cancelled := by
  intro quit late p ran starts
  have hsingle : p.SingleCalls := by decide +kernel
  have hup : ran.2.2.cancelled = true := by decide +kernel
  have hremaining : ran.2.1.remaining ≠ [] := by decide +kernel
  obtain ⟨-, -, -, -, hstopped⟩ :=
    stopped_between_steps (fun _ _ => none) p .empty .none (.start ())
  obtain ⟨hprompt, hcut⟩ := hstopped hsingle
  exact ⟨hsingle, hup, hremaining, hprompt, hcut hup hremaining, by decide +kernel,
    by decide +kernel⟩

/-- In a group the next call begins with the flag up, and the run ends as if nothing had been
asked for. -/
theorem late_within_group :
    let quit : Function Unit := .native "" "quit" "" [] fun _ vars => do
      Run.cancel
      pure vars
    let late : Function Unit := .native "" "late" "" [] fun _ vars => pure vars
    let p := ofSteps "" [ofSteps "" [ofFunction quit, ofFunction late]]
    let ran := (p.announced (fun _ _ => none) []).run (fun _ _ => none) true .empty .none
      ((World.start ()).journaled [])
    ran.2.2.host.journal.map (fun start => (start.position, start.late)) =
        [([0, 0], false), ([0, 1], true)] ∧
      ran.1.isDone = true := by
  decide +kernel

end Plan

end PromptPlan
