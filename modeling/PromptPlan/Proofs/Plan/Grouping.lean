import PromptPlan.Proofs.Plan.Relay
import PromptPlan.Proofs.Plan.Visits

/-!
# Groups make no difference

The calls of a plain plan can be grouped in any way, or in none: the plan with all of them
side by side makes the same calls with the same variables, in the same order, and ends with
the same text or at the same call with the same cause.

Both plans are relays of the same calls. Which calls a relay makes is seen when the calls are
wrapped, each with its position, and a relay does not depend on positions: the same calls are
entered, each at the position of its leaf. A plain plan that is wrapped is a plain plan, with
the same leaves at the positions that remain.
-/

namespace PromptPlan

variable {σ : Type}

/-- The attempt at a call that stands at a position. -/
def Attempt.ofCall (position : Position) (call : Variables × Exit Variables) : Attempt :=
  ⟨position, call.1, call.2⟩

namespace Plan

variable {scope : Scope σ} {place : Position}

/-! ### Positions of leaves -/

theorem map_node?_callsFrom {steps : List (Plan σ)}
    (h : ∀ step ∈ steps, step.callsAhead.map (node? · step) = step.leaves.map some)
    {p : Plan σ} {i : Nat} (hsteps : ∀ j, p.steps[i + j]? = steps[j]?) :
    (callsFrom i steps).map (node? · p) = (steps.flatMap leaves).map some := by
  induction steps generalizing i with
  | nil => simp [callsFrom]
  | cons step steps ih =>
      have hfirst : p.steps[i]? = some step := hsteps 0
      have hlater : ∀ j, p.steps[i + 1 + j]? = steps[j]? := by
        intro j
        rw [Nat.add_assoc, Nat.add_comm 1 j]
        exact hsteps (j + 1)
      have hstep : (step.callsAhead.map (i :: ·)).map (node? · p) = step.leaves.map some := by
        rw [List.map_map, ← h step (by simp)]
        refine List.map_congr_left fun position _ => ?_
        show node? (i :: position) p = node? position step
        rw [node?_cons, hfirst, Option.bind_some]
      rw [callsFrom, List.map_append, hstep, List.flatMap_cons, List.map_append,
        ih (fun s hs => h s (List.mem_cons_of_mem step hs)) hlater]

/-- The calls that a plain plan has to make are its leaves. -/
theorem Plain.map_node?_callsAhead {p : Plan σ} (h : Plain p) :
    p.callsAhead.map (node? · p) = p.leaves.map some := by
  induction h with
  | call _ =>
      rw [callsAhead, leaves]
      rfl
  | @group head ahead _ _ _ ih =>
      rw [callsAhead, leaves_group]
      refine map_node?_callsFrom ih fun j => ?_
      simp [steps]

theorem Plain.length_callsAhead {p : Plan σ} (h : Plain p) :
    p.callsAhead.length = p.leaves.length := by
  simpa using congrArg List.length h.map_node?_callsAhead

theorem Plain.callsAhead_eq {p : Plan σ} (h : Plain p) : p.callsAhead = p.remaining := by
  cases h with
  | call _ =>
      rw [callsAhead]
      rfl
  | group _ _ _ => rw [callsAhead, remaining]

/-! ### Wrapped leaves -/

theorem exists_of_mem_notedFrom {i : Nat} {steps : List (Plan σ)}
    {step' : Plan (Journaled σ Attempt)} (h : step' ∈ notedFrom scope place i steps) :
    ∃ step ∈ steps, ∃ j, step' = step.noted scope (place ++ [j]) := by
  induction steps generalizing i with
  | nil => simp [notedFrom] at h
  | cons step steps ih =>
      rw [notedFrom, List.mem_cons] at h
      rcases h with rfl | h
      · exact ⟨step, by simp, i, rfl⟩
      · obtain ⟨s, hs, j, rfl⟩ := ih h
        exact ⟨s, List.mem_cons_of_mem step hs, j, rfl⟩

theorem Plain.noted {p : Plan σ} (h : Plain p) (scope : Scope σ) (place : Position) :
    Plain (p.noted scope place) := by
  induction h generalizing place with
  | call hbare =>
      rw [Plan.noted]
      exact .call hbare
  | @group head ahead hbare hahead _ ih =>
      rw [Plan.noted]
      refine .group hbare ?_ fun step' hstep' => ?_
      · obtain ⟨step, rest, rfl⟩ := List.exists_cons_of_ne_nil hahead
        rw [notedFrom]
        exact List.cons_ne_nil _ _
      · obtain ⟨step, hstep, j, rfl⟩ := exists_of_mem_notedFrom hstep'
        exact ih step hstep _

/-- The leaves, each wrapped with its position in the plan at `place`. -/
def notedLeaves (scope : Scope σ) (place : Position) (positions : List Position)
    (leaves : List (Plan σ)) : List (Plan (Journaled σ Attempt)) :=
  List.zipWith (fun position leaf => leaf.noted scope (place ++ position)) positions leaves

theorem flatMap_leaves_notedFrom {steps : List (Plan σ)} (hplain : ∀ step ∈ steps, Plain step)
    (hsteps : ∀ step ∈ steps, ∀ place, (step.noted scope place).leaves =
      notedLeaves scope place step.callsAhead step.leaves) (i : Nat) :
    (notedFrom scope place i steps).flatMap leaves =
      notedLeaves scope place (callsFrom i steps) (steps.flatMap leaves) := by
  induction steps generalizing i with
  | nil => rfl
  | cons step steps ih =>
      -- a step has as many calls as leaves, so the next step begins at the same place in both
      have hlength : (step.callsAhead.map (i :: ·)).length = step.leaves.length := by
        rw [List.length_map, (hplain step (by simp)).length_callsAhead]
      have hstep : (step.noted scope (place ++ [i])).leaves =
          notedLeaves scope place (step.callsAhead.map (i :: ·)) step.leaves := by
        rw [hsteps step (by simp), notedLeaves, notedLeaves, List.zipWith_map_left]
        simp only [List.append_assoc, List.singleton_append]
      have hrest := ih (fun s hs => hplain s (List.mem_cons_of_mem step hs))
        (fun s hs => hsteps s (List.mem_cons_of_mem step hs)) (i + 1)
      rw [notedFrom, List.flatMap_cons, hstep, hrest, callsFrom, List.flatMap_cons]
      exact (List.zipWith_append hlength).symm

theorem Plain.leaves_noted {p : Plan σ} (h : Plain p) : ∀ place,
    (p.noted scope place).leaves = notedLeaves scope place p.callsAhead p.leaves := by
  induction h with
  | call _ =>
      intro place
      rw [Plan.noted, leaves, leaves, callsAhead]
      simp [notedLeaves, Plan.noted]
  | @group head ahead _ _ hplain ih =>
      intro place
      rw [Plan.noted, leaves_group, leaves_group, callsAhead]
      exact flatMap_leaves_notedFrom hplain ih 0

/-! ### The calls of a relay -/

theorem function?_noted (p : Plan σ) :
    (p.noted scope place).function? = p.function?.map (·.noted scope place) := by
  cases p with
  | call head function finished => rw [Plan.noted]; rfl
  | group head past ahead => rw [Plan.noted]; rfl

theorem handed_noted (p : Plan σ) (s : String) :
    (p.noted scope place).handed s = p.handed s :=
  stepVariables_noted _ _ _

/-- Which calls a relay makes does not depend on where its leaves stand. -/
theorem exists_calls_of_relay (scope : Scope σ) (leaves : List (Plan σ)) (s : String)
    (limits : Limits) (w : World σ) :
    ∃ calls : List (Variables × Exit Variables), calls.length ≤ leaves.length ∧
      ∀ (scope' : Scope (Journaled σ Attempt)) positions, positions.length = leaves.length →
        Run.Records (relay scope leaves s) (relay scope' (notedLeaves scope [] positions leaves) s)
          limits w (List.zipWith Attempt.ofCall positions calls) := by
  induction leaves generalizing s w with
  | nil =>
      refine ⟨[], Nat.le_refl _, fun scope' positions hpositions => ?_⟩
      obtain rfl : positions = [] := List.length_eq_zero_iff.1 hpositions
      exact Run.records_pure s limits w
  | cons leaf leaves ih =>
      -- the leaf is wrapped where it stands, and is handed the same
      have hwrapped : ∀ (scope' : Scope (Journaled σ Attempt)) position rest,
          relay scope' (notedLeaves scope [] (position :: rest) (leaf :: leaves)) s =
            callStep scope' (leaf.function?.map (·.noted scope position)) leaf.qualifiedName
              (leaf.handed s) >>= fun answer =>
                relay scope' (notedLeaves scope [] rest leaves) (Text.trim answer.input) := by
        intro scope' position rest
        rw [notedLeaves, List.zipWith_cons_cons, relay, function?_noted, qualifiedName_noted,
          handed_noted, List.nil_append]
        rfl
      cases hfunction : leaf.function? with
      | none =>
          -- an unbound step fails without a call
          refine ⟨[], Nat.zero_le _, fun scope' positions hpositions => ?_⟩
          obtain ⟨position, rest, rfl⟩ := List.exists_cons_of_length_eq_add_one hpositions
          rw [hwrapped, relay, hfunction]
          refine (Run.records_fail _ limits w).bind_of_not_done fun answer hanswer => ?_
          cases hanswer
      | some f =>
          let call := (leaf.handed s, (f.body scope (leaf.handed s) limits w).1)
          have hcall : ∀ (scope' : Scope (Journaled σ Attempt)) position,
              Run.Records (callStep scope (some f) leaf.qualifiedName (leaf.handed s))
                (callStep scope' (some (f.noted scope position)) leaf.qualifiedName
                  (leaf.handed s)) limits w [Attempt.ofCall position call] :=
            fun _ _ => (Run.records_noted _ _ limits w).mapError _
          rcases hrun : callStep scope (some f) leaf.qualifiedName (leaf.handed s) limits w with
            ⟨exit, after⟩
          cases hdone : exit.isDone with
          | true =>
              obtain ⟨answer, rfl⟩ := Exit.isDone_iff.1 hdone
              obtain ⟨calls, hlength, hcalls⟩ := ih (Text.trim answer.input) after
              refine ⟨call :: calls, Nat.succ_le_succ hlength, ?_⟩
              intro scope' positions hpositions
              obtain ⟨position, rest, rfl⟩ := List.exists_cons_of_length_eq_add_one hpositions
              rw [hwrapped, relay, hfunction, List.zipWith_cons_cons]
              exact (hcall scope' position).bind hrun (hcalls scope' rest (Nat.succ.inj hpositions))
          | false =>
              refine ⟨[call], Nat.succ_le_succ (Nat.zero_le _), ?_⟩
              intro scope' positions hpositions
              obtain ⟨position, rest, rfl⟩ := List.exists_cons_of_length_eq_add_one hpositions
              rw [hwrapped, relay, hfunction, List.zipWith_cons_cons, List.zipWith_nil_right]
              refine (hcall scope' position).bind_of_not_done fun answer hanswer => ?_
              rw [hrun] at hanswer
              rw [show exit = .done answer from hanswer] at hdone
              cases hdone

/-! ### Runs of plain plans -/

/-- A plain plan makes the calls of the relay of its leaves, where its leaves stand. -/
theorem Plain.attempts_eq {p : Plan σ} (h : Plain p) {vars : Variables} (hvars : vars.OnlyInput)
    {limits : Limits} {w : World σ} {calls : List (Variables × Exit Variables)}
    (hcalls : ∀ (scope' : Scope (Journaled σ Attempt)) positions,
      positions.length = p.leaves.length →
        Run.Records (relay scope p.leaves vars.input)
          (relay scope' (notedLeaves scope [] positions p.leaves) vars.input) limits w
          (List.zipWith Attempt.ofCall positions calls)) :
    (⟨.drain false vars, scope, limits, w⟩ : Visit σ).attempts p =
      List.zipWith Attempt.ofCall p.remaining calls := by
  have hworld := (relayed_run (fun _ _ => none) (h.noted scope []) hvars limits
    (w.journaled [])).world_eq
  rw [h.leaves_noted, hcalls _ _ h.length_callsAhead, h.callsAhead_eq, List.nil_append] at hworld
  exact congrArg (fun after => after.host.journal) hworld

theorem remaining_left (visit : Visit σ) (p : Plan σ) :
    (visit.left p).remaining = p.remaining.drop (committed (visit.attempts p)).length := by
  have horder := (advances_visit visit p).leads.kept.in_order
  rw [horder, List.drop_left' rfl]
  rfl

theorem length_committed_ofCall {positions : List Position}
    {calls : List (Variables × Exit Variables)} (h : calls.length ≤ positions.length) :
    (committed (List.zipWith Attempt.ofCall positions calls)).length =
      (calls.filter fun call => call.2.isDone).length := by
  induction calls generalizing positions with
  | nil => simp [committed]
  | cons call calls ih =>
      cases positions with
      | nil => simp at h
      | cons position positions =>
          have hrest := ih (Nat.le_of_succ_le_succ h)
          rw [committed, List.length_map] at hrest ⊢
          rw [List.zipWith_cons_cons, List.filter_cons, List.filter_cons]
          have hdone : (Attempt.ofCall position call).succeeded = call.2.isDone := rfl
          rw [hdone]
          split
          · rw [List.length_cons, List.length_cons, hrest]
          · exact hrest

theorem plain_ofSteps_leaves {p : Plan σ} (h : Plain p) (goal : String) :
    Plain (ofSteps goal p.leaves) ∧ (ofSteps goal p.leaves).leaves = p.leaves := by
  refine ⟨.group ⟨rfl, rfl, rfl, rfl⟩ h.leaves_ne_nil fun leaf hleaf => (h.of_mem_leaves hleaf).1,
    ?_⟩
  have hself : p.leaves.flatMap leaves = p.leaves.flatMap fun leaf => [leaf] :=
    List.flatMap_congr fun leaf hleaf => (h.of_mem_leaves hleaf).2
  rw [ofSteps, leaves_group, List.nil_append, hself, List.flatMap_singleton']

/-- **Groups make no difference.** A plain plan and the plan that has its calls side by side,
run by a caller who has nothing but perhaps a main slot, make the same calls in the same
order: with the same variables, and ending in the same way. Both come equally far, so that
the call that failed is the same. They end with the same text or with the same cause, and
leave the same world. -/
theorem ungrouped (scope : Scope σ) {p : Plan σ} (h : Plain p) (goal : String)
    {vars : Variables} (hvars : vars.OnlyInput) (limits : Limits) (w : World σ) :
    let flat := ofSteps goal p.leaves
    let visit : Visit σ := ⟨.drain false vars, scope, limits, w⟩
    (p.remaining.map (node? · p) = p.leaves.map some ∧
      flat.remaining.map (node? · flat) = p.leaves.map some) ∧
    (∃ calls, calls.length ≤ p.leaves.length ∧
      visit.attempts p = List.zipWith Attempt.ofCall p.remaining calls ∧
      visit.attempts flat = List.zipWith Attempt.ofCall flat.remaining calls) ∧
    (∃ n, (visit.left p).remaining = p.remaining.drop n ∧
      (visit.left flat).remaining = flat.remaining.drop n) ∧
    ((visit.perform flat).1.map Variables.input).cause =
      ((visit.perform p).1.map Variables.input).cause ∧
    (visit.perform flat).2.2 = (visit.perform p).2.2 := by
  intro flat visit
  obtain ⟨hflat, hleaves⟩ := plain_ofSteps_leaves h goal
  obtain ⟨calls, hlength, hcalls⟩ :=
    exists_calls_of_relay scope p.leaves vars.input limits w
  have hattempts : visit.attempts p = List.zipWith Attempt.ofCall p.remaining calls :=
    h.attempts_eq hvars hcalls
  have hattempts' : visit.attempts flat = List.zipWith Attempt.ofCall flat.remaining calls := by
    refine hflat.attempts_eq hvars ?_
    rwa [hleaves]
  have hremaining : p.remaining.length = p.leaves.length := by
    rw [← h.callsAhead_eq, h.length_callsAhead]
  have hremaining' : flat.remaining.length = p.leaves.length := by
    rw [← hflat.callsAhead_eq, hflat.length_callsAhead, hleaves]
  have hran := relayed_run scope h hvars limits w
  have hran' := relayed_run scope hflat hvars limits w
  rw [hleaves] at hran'
  refine ⟨⟨?_, ?_⟩, ⟨calls, hlength, hattempts, hattempts'⟩,
    ⟨(calls.filter fun call => call.2.isDone).length, ?_, ?_⟩, ?_, ?_⟩
  · rw [← h.callsAhead_eq, h.map_node?_callsAhead]
  · rw [← hflat.callsAhead_eq, hflat.map_node?_callsAhead, hleaves]
  · rw [remaining_left, hattempts, length_committed_ofCall (by omega)]
  · rw [remaining_left, hattempts', length_committed_ofCall (by omega)]
  · exact hran'.cause_eq.trans hran.cause_eq.symm
  · exact hran'.world_eq.trans hran.world_eq.symm

/-- A blank answer at the end of a group gives way to the description of the next call. -/
theorem ungrouped_blank :
    let loud : Function Unit := .bare "" "loud" "Speak up" fun _ vars =>
      pure (vars.setInput (" " ++ vars.input ++ "! "))
    let mute : Function Unit := .bare "" "mute" "Be quiet" fun _ vars => pure (vars.setInput "\n")
    let p := ofSteps "outer" [ofSteps "inner" [ofFunction loud, ofFunction mute], ofFunction loud]
    let flat := ofSteps "flat" p.leaves
    let visit : Visit Unit := ⟨.drain false (.ofInput "a"), fun _ _ => none, .none, .start ()⟩
    let seen (attempt : Attempt) : Position × String := (attempt.position, attempt.received.input)
    Plain p ∧ (Variables.ofInput "a").OnlyInput ∧
      (visit.attempts p).map seen = [([0, 0], "a"), ([0, 1], "a!"), ([1], "Speak up")] ∧
      (visit.attempts flat).map seen = [([0], "a"), ([1], "a!"), ([2], "Speak up")] ∧
      ((visit.perform flat).1.map Variables.input).cause =
        ((visit.perform p).1.map Variables.input).cause ∧
      (visit.perform flat).2.2 = (visit.perform p).2.2 := by
  intro loud mute p flat visit seen
  have hcall : ∀ f : Function Unit, Plain (ofFunction f) := fun f => .call ⟨rfl, rfl, rfl, rfl⟩
  have hinner : Plain (ofSteps "inner" [ofFunction loud, ofFunction mute]) := by
    refine .group ⟨rfl, rfl, rfl, rfl⟩ (List.cons_ne_nil _ _) fun step hstep => ?_
    rcases List.mem_pair.1 hstep with rfl | rfl <;> exact hcall _
  have hp : Plain p := by
    refine .group ⟨rfl, rfl, rfl, rfl⟩ (List.cons_ne_nil _ _) fun step hstep => ?_
    rcases List.mem_pair.1 hstep with rfl | rfl
    · exact hinner
    · exact hcall _
  have hvars : (Variables.ofInput "a").OnlyInput := Variables.onlyInput_empty.setInput "a"
  obtain ⟨_, _, _, hcause, hworld⟩ := ungrouped visit.scope hp "flat" hvars visit.limits visit.world
  exact ⟨hp, hvars, by decide +kernel, by decide +kernel, hcause, hworld⟩

end Plan

end PromptPlan
