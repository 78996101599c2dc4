import PromptPlan.Reference
import PromptPlan.Run

/-!
# Journals

Which functions a run calls, and with what, is not part of how it ends: a call whose answer
is thrown away leaves no trace there. To speak of calls the host is given a *journal* beside
its own state, and functions are wrapped so that each call is entered when it ends. The
wrapped function sees the host's own state only, so it does what it did before, and nobody
but the wrapper writes into the journal.

A run with wrapped functions *records* a run with the bare ones: from worlds that differ in
the journal only, both end in the same way and leave worlds that differ in the journal
only, and what was entered in between is the list of calls. How runs are put together
carries over to what they record, one lemma for each way.
-/

namespace PromptPlan

/-- A host's state with a journal beside it. -/
structure Journaled (σ ε : Type) where
  host : σ
  journal : List ε

variable {σ ε α β : Type}

namespace World

/-- The world without the journal. -/
def bare (w : World (Journaled σ ε)) : World σ :=
  ⟨w.host.host, w.now, w.cancelled, w.turn, w.room⟩

/-- The world with a journal beside the host's state. -/
def journaled (w : World σ) (journal : List ε) : World (Journaled σ ε) :=
  ⟨⟨w.host, journal⟩, w.now, w.cancelled, w.turn, w.room⟩

@[simp] theorem cancelled_journaled (w : World σ) (journal : List ε) :
    (w.journaled journal).cancelled = w.cancelled := rfl

end World

@[simp] theorem Exit.expire_journaled (limit : Option TimeLimit) (w : World σ)
    (journal : List ε) (exit : Exit α) :
    exit.expire limit (w.journaled journal) = exit.expire limit w := by
  cases exit <;> cases limit <;> rfl

theorem Limits.interrupt?_journaled (limits : Limits) (w : World σ) (journal : List ε) :
    limits.interrupt? (w.journaled journal) =
      (limits.interrupt? w).map (World.journaled · journal) := by
  show (if limits.times.any (·.hasPassed w) then some (w.take.journaled journal)
    else if limits.watched && w.cancelled then some (w.journaled journal) else .none) = _
  unfold Limits.interrupt?
  cases limits.times.any (·.hasPassed w) with
  | true => rfl
  | false => cases limits.watched && w.cancelled <;> rfl

namespace Run

/-- The run of a wrapped function: when it ends, an entry is made of the way it ended. -/
def noted (entry : Exit α → ε) (x : Run σ α) : Run (Journaled σ ε) α := fun limits w =>
  let (exit, after) := x limits w.bare
  (exit, after.journaled (w.host.journal ++ [entry exit]))

/-- With its journal, `x'` does what `x` does without, and enters `entries`. -/
def Records (x : Run σ α) (x' : Run (Journaled σ ε) α) (limits : Limits) (w : World σ)
    (entries : List ε) : Prop :=
  ∀ journal, x' limits (w.journaled journal) =
    ((x limits w).1, (x limits w).2.journaled (journal ++ entries))

theorem records_noted (entry : Exit α → ε) (x : Run σ α) (limits : Limits) (w : World σ) :
    Records x (x.noted entry) limits w [entry (x limits w).1] :=
  fun _ => rfl

theorem records_pure (a : α) (limits : Limits) (w : World σ) :
    Records (Pure.pure a) (Pure.pure a : Run (Journaled σ ε) α) limits w [] := by
  intro journal
  rw [List.append_nil]
  rfl

theorem records_fail (e : Error) (limits : Limits) (w : World σ) :
    Records (fail e : Run σ α) (fail e : Run (Journaled σ ε) α) limits w [] := by
  intro journal
  rw [List.append_nil]
  rfl

theorem Records.mapError {x : Run σ α} {x' : Run (Journaled σ ε) α} {limits : Limits}
    {w : World σ} {entries : List ε} (h : Records x x' limits w entries) (f : Error → Error) :
    Records (x.mapError f) (x'.mapError f) limits w entries := by
  intro journal
  rw [mapError_apply, mapError_apply, h journal]

theorem Records.bind {x : Run σ α} {x' : Run (Journaled σ ε) α} {f : α → Run σ β}
    {f' : α → Run (Journaled σ ε) β} {limits : Limits} {w after : World σ} {a : α}
    {entries later : List ε} (h : Records x x' limits w entries)
    (hdone : x limits w = (.done a, after)) (hf : Records (f a) (f' a) limits after later) :
    Records (x >>= f) (x' >>= f') limits w (entries ++ later) := by
  intro journal
  have hx' := h journal
  rw [hdone] at hx'
  rw [bind_of_done hdone, bind_of_done hx', hf, List.append_assoc]

theorem Records.bind_of_not_done {x : Run σ α} {x' : Run (Journaled σ ε) α} {f : α → Run σ β}
    {f' : α → Run (Journaled σ ε) β} {limits : Limits} {w : World σ} {entries : List ε}
    (h : Records x x' limits w entries) (hx : ∀ a, (x limits w).1 ≠ .done a) :
    Records (x >>= f) (x' >>= f') limits w entries := by
  intro journal
  have hx' := h journal
  rcases hrun : x limits w with ⟨exit, after⟩
  rw [hrun] at hx hx'
  cases exit with
  | done a => exact absurd rfl (hx a)
  | failed e => rw [bind_of_failed hrun, bind_of_failed hx']
  | interrupted => rw [bind_of_interrupted hrun, bind_of_interrupted hx']
  | stuck => rw [bind_of_stuck hrun, bind_of_stuck hx']

theorem bind_pure_apply (x : Run σ α) (f : α → β) (limits : Limits) (w : World σ) :
    (x >>= fun a => Pure.pure (f a)) limits w = ((x limits w).1.map f, (x limits w).2) := by
  rcases hrun : x limits w with ⟨exit, after⟩
  cases exit with
  | done a => rw [bind_of_done hrun]; rfl
  | failed e => rw [bind_of_failed hrun]; rfl
  | interrupted => rw [bind_of_interrupted hrun]; rfl
  | stuck => rw [bind_of_stuck hrun]; rfl

theorem Records.map {x : Run σ α} {x' : Run (Journaled σ ε) α} {limits : Limits} {w : World σ}
    {entries : List ε} (h : Records x x' limits w entries) (f : α → β) :
    Records (x >>= fun a => Pure.pure (f a)) (x' >>= fun a => Pure.pure (f a)) limits w
      entries := by
  intro journal
  rw [bind_pure_apply, bind_pure_apply, h journal]

theorem records_makeRoom (limits : Limits) (w : World σ) :
    Records makeRoom (makeRoom : Run (Journaled σ ε) Unit) limits w [] := by
  intro journal
  unfold makeRoom
  rw [List.append_nil, Limits.interrupt?_journaled]
  by_cases hroom : w.room ≠ 0
  · rw [if_pos hroom, if_pos (show (w.journaled journal).room ≠ 0 from hroom)]
  · rw [if_neg hroom, if_neg (show ¬(w.journaled journal).room ≠ 0 from hroom)]
    cases limits.interrupt? w <;> rfl

/-! ### Runs that can be recorded -/

/-- Whatever limits and world it is run with, `x'` does what `x` does and enters something. -/
def Recorded (x : Run σ α) (x' : Run (Journaled σ ε) α) : Prop :=
  ∀ limits w, ∃ entries, Records x x' limits w entries

theorem recorded_pure (a : α) :
    Recorded (Pure.pure a) (Pure.pure a : Run (Journaled σ ε) α) :=
  fun limits w => ⟨[], records_pure a limits w⟩

theorem recorded_fail (e : Error) :
    Recorded (fail e : Run σ α) (fail e : Run (Journaled σ ε) α) :=
  fun limits w => ⟨[], records_fail e limits w⟩

theorem Recorded.bind {x : Run σ α} {x' : Run (Journaled σ ε) α} {f : α → Run σ β}
    {f' : α → Run (Journaled σ ε) β} (hx : Recorded x x') (hf : ∀ a, Recorded (f a) (f' a)) :
    Recorded (x >>= f) (x' >>= f') := by
  intro limits w
  obtain ⟨entries, hentries⟩ := hx limits w
  rcases hrun : x limits w with ⟨exit, after⟩
  by_cases hdone : ∃ a, exit = .done a
  · obtain ⟨a, rfl⟩ := hdone
    obtain ⟨later, hlater⟩ := hf a limits after
    exact ⟨entries ++ later, hentries.bind hrun hlater⟩
  · refine ⟨entries, hentries.bind_of_not_done fun a ha => hdone ⟨a, ?_⟩⟩
    rw [← ha, hrun]

end Run

/-! ### Calls through a scope -/

/-- A call that was made: the function by its skill and name, the variables it received, and
the way it ended. -/
structure Call where
  target : Reference
  received : Variables
  ended : Exit Variables

/-- What a call asked for. -/
def Call.asked (call : Call) : Reference × Variables :=
  (call.target, call.received)

/-- A scope whose functions are wrapped. -/
def Scope.noted (scope : Scope σ) : Scope (Journaled σ Call) := fun skill name =>
  (scope skill name).map fun callee =>
    { qualifiedName := callee.qualifiedName
      call := fun vars => (callee.call vars).noted fun ended => ⟨⟨skill, name⟩, vars, ended⟩ }

theorem Scope.noted_of_none {scope : Scope σ} {skill : Option String} {name : String}
    (h : scope skill name = none) : scope.noted skill name = none := by
  rw [noted, h]
  rfl

/-- Calling a function through a scope enters that one call. -/
theorem Scope.exists_noted {scope : Scope σ} {skill : Option String} {name : String}
    {callee : Callee σ} (h : scope skill name = some callee) :
    ∃ callee', scope.noted skill name = some callee' ∧ ∀ vars limits w,
      Run.Records (callee.invoke vars) (callee'.invoke vars) limits w
        [⟨⟨skill, name⟩, vars, (callee.call vars limits w).1⟩] := by
  refine ⟨_, by rw [noted, h]; rfl, fun vars limits w => ?_⟩
  exact (Run.records_noted _ _ limits w).mapError _

end PromptPlan
