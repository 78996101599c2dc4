import PromptPlan.Proofs.Plan.Confinement
import PromptPlan.Proofs.Plan.Gathering
import PromptPlan.Proofs.Variables

/-!
# A call on its own and as the only step

A call can be run by itself, or put into a group and run as the one step of that. On its own it is
plan and step at once, so its answer is gathered; in a group that declares no outputs it is not.

The caller cannot tell. The first contribution is gathered as it is, so the result is the answer
either way (`result_commit_of_unset`), and an output that is called `input` or `PLAN.RESULT` is
written over whatever was there (`get?_commit_eq`). The spellings and their order do not depend on
values at all (`names_publish`).
-/

namespace PromptPlan

variable {σ : Type}

namespace Variables

/-- Writes go over what was there, so it does not matter under the names that are written. -/
theorem get?_foldl_set_congr {outputs : List String} {name : String} {v v' : Variables}
    (h : (∃ output ∈ outputs, Text.lower output = Text.lower name) ∨ v'.get? name = v.get? name)
    (value : String → String) :
    (outputs.foldl (fun v output => v.set output (value output)) v').get? name =
      (outputs.foldl (fun v output => v.set output (value output)) v).get? name := by
  induction outputs generalizing v v' with
  | nil => simpa using h
  | cons output outputs ih =>
      refine ih ?_
      by_cases hname : Text.lower output = Text.lower name
      · exact .inr (by rw [get?_set, get?_set, if_pos hname, if_pos hname])
      · simpa [get?_set, hname] using h

end Variables

namespace PlanHead

variable {h g : PlanHead}

/-! ### Heads with the same state -/

/-- Two heads with the same state have the same after an answer, except under `PLAN.RESULT`, which
only one of them may have gathered. -/
theorem get?_commit_eq (hstate : g.state = h.state) (answer : Variables) {outputs : List String}
    {name : String} (hname : (∃ output ∈ outputs, Text.lower output = Text.lower name) ∨
      Text.lower name ≠ Text.lower resultSlot) :
    (g.commit answer outputs).state.get? name = (h.commit answer outputs).state.get? name := by
  have hgathered : ∀ (c : Prop) [Decidable c] (v : Variables) (value : String),
      Text.lower name ≠ Text.lower resultSlot →
      (if c then v.set resultSlot value else v).get? name = v.get? name := by
    intro c _ v value hne
    split
    · rw [Variables.get?_set, if_neg (Ne.symm hne)]
    · rfl
  rw [commit, commit, hstate]
  refine Variables.get?_foldl_set_congr (hname.imp_right fun hne => ?_) _
  rw [hgathered _ _ _ hne, hgathered _ _ _ hne]

theorem input_commit (h : PlanHead) (answer : Variables) {outputs : List String}
    (houtputs : ∀ output ∈ outputs, Text.lower output ≠ Text.lower mainSlot) :
    (h.commit answer outputs).state.input = Text.trim answer.input := by
  have hslots : Text.lower resultSlot ≠ Text.lower mainSlot := by decide +kernel
  have hslot : (h.commit answer outputs).state.get? mainSlot = some (Text.trim answer.input) := by
    rw [commit]
    refine (Variables.get?_foldl_set_of_not_output houtputs _ _).trans ?_
    split
    · rw [Variables.get?_set, if_neg hslots, Variables.setInput, Variables.get?_set_self]
    · exact Variables.get?_set_self _ _ _
  rw [Variables.input, hslot, Option.getD_some]

theorem result_commit_of_unset (hunset : h.state.get? resultSlot = none) (answer : Variables)
    {outputs : List String} (hinput : ∀ output ∈ outputs, Text.lower output ≠ Text.lower mainSlot)
    (houtputs : ∀ output ∈ outputs, Text.lower output ≠ Text.lower resultSlot) :
    (h.commit answer outputs).result = Text.trim answer.input := by
  have hgather : gather "" (Text.trim answer.input) = Text.trim answer.input := rfl
  rw [result, h.input_commit answer hinput, Variables.filled?,
    h.get?_commit_resultSlot answer houtputs, hunset, Option.getD_none, hgather]
  split
  · cases hempty : (Text.trim answer.input).isEmpty <;> simp [Option.filter, hempty]
  · rfl

theorem result_commit_eq (hstate : g.state = h.state) (hunset : h.state.get? resultSlot = none)
    (answer : Variables) {outputs : List String}
    (hinput : ∀ output ∈ outputs, Text.lower output ≠ Text.lower mainSlot) :
    (g.commit answer outputs).result = (h.commit answer outputs).result := by
  by_cases hresult : ∃ output ∈ outputs, Text.lower output = Text.lower resultSlot
  · rw [result, result, Variables.filled?, Variables.filled?,
      get?_commit_eq hstate answer (.inl hresult), g.input_commit answer hinput,
      h.input_commit answer hinput]
  · have houtputs : ∀ output ∈ outputs, Text.lower output ≠ Text.lower resultSlot :=
      fun output hmem hlower => hresult ⟨output, hmem, hlower⟩
    have hunset' : g.state.get? resultSlot = none := by rw [hstate, hunset]
    rw [result_commit_of_unset hunset' answer hinput houtputs,
      result_commit_of_unset hunset answer hinput houtputs]

/-- What the variables are called once the outputs are shown does not depend on their values. -/
theorem names_publish {declared : List String}
    (hsome : ∀ output ∈ declared, h.state.get? output ≠ none) (caller : Variables) :
    (h.publish declared caller).names =
      declared.foldl (fun names output => Keyed.place Text.lower output names)
        (Keyed.place Text.lower mainSlot caller.names) := by
  rw [publish, ← Variables.names_set caller mainSlot h.result, ← Variables.setInput]
  generalize caller.setInput h.result = v
  induction declared generalizing v with
  | nil => rfl
  | cons output declared ih =>
      obtain ⟨value, hvalue⟩ := Option.ne_none_iff_exists'.1 (hsome output List.mem_cons_self)
      rw [List.foldl_cons, List.foldl_cons, hvalue,
        ih fun other hother => hsome other (List.mem_cons_of_mem output hother)]
      exact congrArg (declared.foldl _) (v.names_set output value)

/-- Two heads with the same state, in which nothing was gathered, show the same of an answer to a
step, if they show the outputs of the step. -/
theorem publish_commit_eq (hstate : g.state = h.state) (hunset : h.state.get? resultSlot = none)
    (answer : Variables) (outputs : List String) (caller : Variables) :
    (g.commit answer outputs).publish outputs caller =
      (h.commit answer outputs).publish outputs caller := by
  have hsome : ∀ k : PlanHead, ∀ output ∈ outputs,
      (k.commit answer outputs).state.get? output ≠ none :=
    fun k output hmem => get?_commit_ne_none answer (.inl ⟨output, hmem, rfl⟩)
  refine Variables.eq_of_names ?_ (funext fun name => ?_)
  · rw [names_publish (hsome g), names_publish (hsome h)]
  · rw [get?_publish, get?_publish]
    by_cases houtput : ∃ output ∈ outputs, Text.lower output = Text.lower name
    · -- the output is shown, whatever the result is
      rw [if_pos (any_lower_iff.2 houtput), if_pos (any_lower_iff.2 houtput),
        get?_commit_eq hstate answer (.inl houtput)]
      cases hvalue : (h.commit answer outputs).state.get? name with
      | none => exact absurd hvalue (get?_commit_ne_none answer (.inl houtput))
      | some value => rfl
    · rw [if_neg (houtput ∘ any_lower_iff.1), if_neg (houtput ∘ any_lower_iff.1),
        Variables.setInput, Variables.setInput, Variables.get?_set, Variables.get?_set]
      by_cases hslot : Text.lower mainSlot = Text.lower name
      · have hinput : ∀ output ∈ outputs, Text.lower output ≠ Text.lower mainSlot :=
          fun output hmem hlower => houtput ⟨output, hmem, hlower.trans hslot⟩
        rw [if_pos hslot, if_pos hslot, result_commit_eq hstate hunset answer hinput]
      · rw [if_neg hslot, if_neg hslot]

end PlanHead

def PlanHead.begunWith (head : PlanHead) (state : Variables) : PlanHead :=
  { head with state := state }

namespace Plan

variable {scope : Scope σ}

/-! ### Attempts by two heads -/

/-- Two attempts that end with the same answer, each taken into the state of its own head. -/
def SameAnswer (h g : PlanHead) (outputs : List String)
    (ran ran' : Exit PlanHead × Plan σ × World σ) : Prop :=
  ∃ exit : Exit Variables, ran.1 = exit.map (fun answer => h.commit answer outputs) ∧
    ran'.1 = exit.map (fun answer => g.commit answer outputs) ∧ ran'.2.2 = ran.2.2

/-- Attempts that end with the same answer do so when the flag is watched. -/
theorem sameAnswer_attemptWatched {h g : PlanHead} {step step' : Plan σ} {outputs : List String}
    {invoke invoke' : Variables → PlanRun σ Variables} {caller : Variables}
    (hattempt : ∀ limits w, SameAnswer h g outputs (h.attempt step invoke caller limits w)
      (g.attempt step' invoke' caller limits w))
    (cancellable : Bool) (limits : Limits) (w : World σ) :
    SameAnswer h g outputs (h.attemptWatched cancellable step invoke caller limits w)
      (g.attemptWatched cancellable step' invoke' caller limits w) := by
  cases cancellable with
  | false => exact hattempt limits w
  | true =>
      cases hw : w.cancelled with
      | true =>
          rw [attemptWatched_of_cancelled hw, attemptWatched_of_cancelled hw]
          exact ⟨.failed .cancelled, rfl, rfl, rfl⟩
      | false =>
          rcases hroom : Run.makeRoom limits w with ⟨exit, between⟩
          cases hexit : exit.isDone with
          | false =>
              rw [attemptWatched_of_no_room hw hroom hexit,
                attemptWatched_of_no_room hw hroom hexit]
              refine ⟨exit.map fun _ => .empty, ?_, ?_, rfl⟩
              · rw [Exit.map_map]
                exact Exit.map_congr_of_not_done hexit _ _
              · rw [Exit.map_map]
                exact Exit.map_congr_of_not_done hexit _ _
          | true =>
              obtain ⟨⟨⟩, rfl⟩ := Exit.isDone_iff.1 hexit
              have hsame := hattempt (limits.watching true) between
              rcases hran : h.attempt step invoke caller (limits.watching true) between with
                ⟨exit, left, after⟩
              rcases hran' : g.attempt step' invoke' caller (limits.watching true) between with
                ⟨exit', left', after'⟩
              rw [hran, hran'] at hsame
              obtain ⟨answer, rfl, rfl, rfl⟩ := hsame
              rw [attemptWatched_of_room hw hroom hran, attemptWatched_of_room hw hroom hran']
              exact ⟨answer.settle after'.cancelled, Exit.settle_map _ _ _,
                Exit.settle_map _ _ _, rfl⟩

section

variable {head g : PlanHead} {state : Variables}

/-- A call that is no step sees the state as a group with that state shows it to its step. -/
theorem stepVariables_begunWith (hstate : g.state = state) (function : Option (Function σ))
    (caller : Variables) :
    g.stepVariables caller (.call head function false) =
      (head.begunWith state).stepVariables caller
        (.call (head.begunWith state) function false) := by
  have hvisible : g.visible? caller = (head.begunWith state).visible? caller := by
    funext name
    rw [PlanHead.visible?, PlanHead.visible?, hstate, PlanHead.begunWith]
  exact PlanHead.stepVariables_congr hvisible (.call (head.begunWith state) function false)

theorem sameAnswer_attempt (hstate : g.state = state) (htimeout : g.timeout = head.timeout)
    (scope : Scope σ) (function : Option (Function σ)) (caller : Variables) (limits : Limits)
    (w : World σ) :
    let self : Plan σ := .call (head.begunWith state) function false
    let step : Plan σ := .call head function false
    SameAnswer (head.begunWith state) g head.outputs
      ((head.begunWith state).attempt self (runWhole scope self) caller limits w)
      (g.attempt step (runWhole scope step) caller limits w) := by
  intro self step
  have hlimit : limitFor g w = limitFor (head.begunWith state) w := by
    rw [limitFor, limitFor, htimeout, PlanHead.begunWith]
  -- both run the function with the same variables, and leave different calls
  rcases hrun : callStep scope function head.qualifiedName (g.stepVariables caller step)
    (limits.within (limitFor g w)) w with ⟨exit, after⟩
  have hwithin : runWhole scope step (g.stepVariables caller step)
      (limits.within (limitFor g w)) w = (exit, step, after) := by
    rw [runWhole]
    exact congrArg (fun ran => (ran.1, step, ran.2)) hrun
  have halone : runWhole scope self ((head.begunWith state).stepVariables caller self)
      (limits.within (limitFor (head.begunWith state) w)) w = (exit, self, after) := by
    rw [← stepVariables_begunWith hstate, ← hlimit, runWhole]
    exact congrArg (fun ran => (ran.1, self, ran.2)) hrun
  rw [attempt_eq halone, attempt_eq hwithin, hlimit]
  exact ⟨_, rfl, rfl, rfl⟩

end

/-! ### Running the call -/

/-- A group with one step ahead and none behind. -/
theorem run_single {cancellable : Bool} {head : PlanHead} {step left : Plan σ} {vars : Variables}
    {limits : Limits} {w after : World σ} {exit : Exit PlanHead}
    (h : head.attemptWatched cancellable step (runWhole scope step)
      (vars.merge head.state false) limits w = (exit, left, after)) :
    run scope cancellable (.group head [] [step]) vars limits w =
      (exit.map fun head' => head'.publish (head.outputs ++ step.outputs)
          (vars.merge head.state false), stepAfter head [] [] left exit, after) := by
  have hdeclared : ([step] : List (Plan σ)).flatMap outputs = step.outputs :=
    List.flatMap_singleton _ _
  rw [run, List.nil_append, hdeclared]
  cases hexit : exit.isDone with
  | true =>
      obtain ⟨head', rfl⟩ := Exit.isDone_iff.1 hexit
      rw [runSteps_of_done h]
      rfl
  | false =>
      rw [runSteps_of_not_done h hexit, stepAfter_of_not_done hexit]
      exact congrArg (·, _) (Exit.map_congr_of_not_done hexit _ _)

/-- The plan for a goal whose only step is a call, with the state and the time limit that the call
has on its own. -/
def onlyStep (goal : String) (head : PlanHead) (function : Option (Function σ))
    (state : Variables) : Plan σ :=
  let p := ofSteps goal [.call head function false]
  p.withHead { p.head with state := state, timeout := head.timeout }

theorem run_onlyStep {state : Variables} (hunset : state.get? resultSlot = none) (goal : String)
    (head : PlanHead) (function : Option (Function σ)) (scope : Scope σ)
    (cancellable : Bool) (vars : Variables) (limits : Limits) (w : World σ) :
    let alone := run scope cancellable (.call (head.begunWith state) function false) vars limits w
    let within := run scope cancellable (onlyStep goal head function state) vars limits w
    within.1 = alone.1 ∧ within.2.2 = alone.2.2 := by
  intro alone within
  let g : PlanHead :=
    { PlanHead.fresh planSkill "" goal with state := state, timeout := head.timeout }
  let self : Plan σ := .call (head.begunWith state) function false
  let step : Plan σ := .call head function false
  let caller := vars.merge state false
  have hstate : g.state = state := rfl
  have htimeout : g.timeout = head.timeout := rfl
  have hsame := sameAnswer_attemptWatched (sameAnswer_attempt hstate htimeout scope function caller)
    cancellable limits w
  rcases hran : (head.begunWith state).attemptWatched cancellable self (runWhole scope self) caller
    limits w with ⟨exit, left, after⟩
  rcases hran' : g.attemptWatched cancellable step (runWhole scope step) caller limits w with
    ⟨exit', left', after'⟩
  rw [hran, hran'] at hsame
  obtain ⟨answer, rfl, rfl, rfl⟩ := hsame
  have halone := run_call hran
  have hwithin := run_single hran'
  refine ⟨?_, ?_⟩
  · refine (congrArg Prod.fst hwithin).trans (.trans ?_ (congrArg Prod.fst halone).symm)
    rw [Exit.map_map, Exit.map_map]
    refine congrArg (answer.map ·) (funext fun vars' => ?_)
    exact PlanHead.publish_commit_eq (g := g) (h := head.begunWith state) rfl hunset vars'
      head.outputs caller
  · exact (congrArg (·.2.2) hwithin).trans (congrArg (·.2.2) halone).symm

end Plan

/-! ### The call that is made -/

/-- Hosts in the same state, whose journals have the same attempts, seen from further up in the
second. -/
structure Beneath (place : Position) (host host' : Journaled σ Attempt) : Prop where
  host_eq : host'.host = host.host
  journal_eq : host'.journal = host.journal.map (Attempt.below place)

theorem World.paired_beneath (w : World σ) (place : Position) (journal : List Attempt) :
    (w.journaled journal).Paired (Beneath place)
      (w.journaled (journal.map (Attempt.below place))) :=
  .mk ⟨rfl, rfl⟩

theorem World.Paired.bare_eq_of_beneath {place : Position}
    {w w' : World (Journaled σ Attempt)} (h : w.Paired (Beneath place) w') : w'.bare = w.bare := by
  obtain ⟨hhost⟩ := h
  exact congrArg (World.mk · w.now w.cancelled w.turn w.room) hhost.host_eq

theorem World.Paired.journal_eq_of_beneath {place : Position}
    {w w' : World (Journaled σ Attempt)} (h : w.Paired (Beneath place) w') :
    w'.host.journal = w.host.journal.map (Attempt.below place) := by
  obtain ⟨hhost⟩ := h
  exact hhost.journal_eq

/-- Where the calls of a function are entered does not matter to the function. -/
theorem Function.alike_noted (scope : Scope σ) (place : Position)
    (outer : Scope (Journaled σ Attempt)) (outputs : List String) (f : Function σ) :
    (f.noted scope []).Alike (Beneath place) outer outer outputs (f.noted scope place) where
  parameters_eq := rfl
  ended_eq := by
    intro vars limits w w' hw
    show (f.body scope vars limits w'.bare).1.map _ = (f.body scope vars limits w.bare).1.map _
    rw [hw.bare_eq_of_beneath]
  world := by
    intro vars limits w w' hw
    have hjournal : ∀ ended, w'.host.journal ++ [(⟨place, vars, ended⟩ : Attempt)] =
        (w.host.journal ++ [(⟨[], vars, ended⟩ : Attempt)]).map (Attempt.below place) := by
      intro ended
      rw [List.map_append, ← hw.journal_eq_of_beneath, List.map_singleton, Attempt.below,
        List.append_nil]
    show World.Paired (Beneath place)
      ((f.body scope vars limits w.bare).2.journaled
        (w.host.journal ++ [⟨[], vars, (f.body scope vars limits w.bare).1⟩]))
      ((f.body scope vars limits w'.bare).2.journaled
        (w'.host.journal ++ [⟨place, vars, (f.body scope vars limits w'.bare).1⟩]))
    rw [hw.bare_eq_of_beneath, hjournal]
    exact World.paired_beneath _ place _

namespace Plan

/-- Both runs with a journal are compared with one in which the call on its own is entered as if it
were the first step. -/
theorem attempts_onlyStep {state : Variables} (hunset : state.get? resultSlot = none)
    (goal : String) (head : PlanHead) (function : Option (Function σ)) (scope : Scope σ)
    (cancellable : Bool) (vars : Variables) (limits : Limits) (w : World σ) :
    let visit : Visit σ := ⟨.drain cancellable vars, scope, limits, w⟩
    visit.attempts (onlyStep goal head function state) =
      (visit.attempts (.call (head.begunWith state) function false)).map (Attempt.below [0]) := by
  intro visit
  let outer : Scope (Journaled σ Attempt) := fun _ _ => none
  let entered (place : Position) : Option (Function (Journaled σ Attempt)) :=
    function.map (·.noted scope place)
  let alone (place : Position) : Plan (Journaled σ Attempt) :=
    .call (head.begunWith state) (entered place) false
  have htwins : Twins (Beneath [0]) outer outer (alone []) (alone [0]) := by
    cases function with
    | none => exact .unbound
    | some f => exact .bound (f.alike_noted scope [0] outer _)
  have hbeside : (w.journaled []).Paired (Beneath [0]) (w.journaled []) := .mk ⟨rfl, rfl⟩
  let journal (p : Plan (Journaled σ Attempt)) : List Attempt :=
    (run outer cancellable p vars limits (w.journaled [])).2.2.host.journal
  have hjournal : journal (alone [0]) = (journal (alone [])).map (Attempt.below [0]) :=
    (together_run htwins cancellable vars limits hbeside).world.journal_eq_of_beneath
  have hworld := (run_onlyStep hunset goal head (entered [0]) outer cancellable vars limits
    (w.journaled [])).2
  exact (congrArg (·.host.journal) hworld).trans hjournal

/-- **On its own or as the only step.** A call with a state in which nothing was gathered is run
on its own, or as the only step of a plan with that state and without outputs. Both runs end in
the same way, with the same variables in the same order and spelling or with the same error, and
leave the same world. Both make the same call, if any, with the same variables. -/
theorem as_only_step {state : Variables} (hunset : state.get? resultSlot = none) (goal : String)
    (head : PlanHead) (function : Option (Function σ)) (scope : Scope σ) (cancellable : Bool)
    (vars : Variables) (limits : Limits) (w : World σ) :
    let alone : Plan σ := .call (head.begunWith state) function false
    let within := onlyStep goal head function state
    let visit : Visit σ := ⟨.drain cancellable vars, scope, limits, w⟩
    (visit.perform within).1 = (visit.perform alone).1 ∧
      (visit.perform within).2.2 = (visit.perform alone).2.2 ∧
      visit.attempts within = (visit.attempts alone).map (Attempt.below [0]) := by
  intro alone within visit
  obtain ⟨hexit, hworld⟩ :=
    run_onlyStep hunset goal head function scope cancellable vars limits w
  exact ⟨hexit, hworld,
    attempts_onlyStep hunset goal head function scope cancellable vars limits w⟩

/-- A blank answer, an output with the name of the main slot, and one that is declared twice. -/
theorem as_only_step_blank :
    let f : Function Unit := .native "text" "f" "" [.needed "topic" ""] fun _ vars =>
      pure ((vars.setInput " ").set "x" ((vars.get? "topic").getD ""))
    let head : PlanHead := ((ofFunction f).withOutputs ["INPUT", "x", "X"]).head
    let state := Variables.ofPairs [("x", "old"), ("topic", "seas")]
    let alone : Plan Unit := .call (head.begunWith state) (some f) false
    let within := onlyStep "goal" head (some f) state
    let visit : Visit Unit :=
      ⟨.drain false (.ofPairs [("X", "passed")]), fun _ _ => none, .none, .start ()⟩
    state.get? resultSlot = none ∧
      (visit.perform within).1 = (visit.perform alone).1 ∧
      (visit.perform alone).1.map Variables.pairs =
        .done [("X", "seas"), ("topic", "seas"), ("INPUT", " ")] ∧
      visit.attempts within = (visit.attempts alone).map (Attempt.below [0]) ∧
      (visit.attempts alone).map (fun attempt => attempt.received.pairs) =
        [[("input", ""), ("topic", "seas")]] ∧
      (visit.left alone).head.state.get? resultSlot = some "" ∧
      (visit.left within).head.state.get? resultSlot = none := by
  intro f head state alone within visit
  have hunset : state.get? resultSlot = none := by decide +kernel
  obtain ⟨hexit, -, hattempts⟩ := as_only_step hunset "goal" head (some f) visit.scope false
    (.ofPairs [("X", "passed")]) visit.limits visit.world
  exact ⟨hunset, hexit, by decide +kernel, hattempts, by decide +kernel, by decide +kernel,
    by decide +kernel⟩

end Plan

end PromptPlan
