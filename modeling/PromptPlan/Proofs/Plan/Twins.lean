import Mathlib.Data.List.Forall2
import PromptPlan.Proofs.Plan.Positions
import PromptPlan.Proofs.Plan.Running

/-!
# Two runs side by side

Two plans are *twins* when they are the same tree, with a function at each call that does the
same to the world, ends in the same way, and passes the same on of its answer: the main slot,
and the values of the outputs that the call declares. What else the answers hold may differ.

Twins are run side by side, each in a world of its own. The worlds agree in time, flag and
turn, and their hosts are related in a way that the functions keep. Nothing in a run tells the
twins apart: an answer is only ever looked at when it is committed, and a commit takes no
more of it than what is passed on (`PlanHead.commit_congr`). So one attempt is like the other
(`together_attempt`), and by induction over the tree one run is like the other.
-/

namespace PromptPlan

variable {σ σ' α β γ : Type}

/-! ### Exits -/

namespace Exit

theorem map_expire (f : α → β) (limit : Option TimeLimit) (w : World σ) (exit : Exit α) :
    (exit.expire limit w).map f = (exit.map f).expire limit w := by
  cases exit with
  | interrupted =>
      cases limit with
      | none => rfl
      | some limit =>
          show Exit.map f (if _ then _ else _) = if _ then _ else _
          split <;> rfl
  | _ => rfl

/-- What is the same seen through `f` is the same seen through less. -/
theorem map_congr_of_map {f : α → β} {g : α → γ} (hfg : ∀ a a', f a' = f a → g a' = g a)
    {exit exit' : Exit α} (h : exit'.map f = exit.map f) : exit'.map g = exit.map g := by
  cases exit <;> cases exit' <;> simp_all [map]
  exact hfg _ _ h

end Exit

/-! ### Worlds -/

namespace World

/-- The world with another host. -/
def onHost (w : World σ) (host : σ') : World σ' :=
  ⟨host, w.now, w.cancelled, w.turn, w.room⟩

/-- Two worlds that agree in all but their hosts, which are related. -/
inductive Paired (R : σ → σ' → Prop) : World σ → World σ' → Prop
  | mk {w : World σ} {host : σ'} : R w.host host → Paired R w (w.onHost host)

theorem Paired.cancelled_eq {R : σ → σ' → Prop} {w : World σ} {w' : World σ'}
    (h : Paired R w w') : w'.cancelled = w.cancelled := by
  cases h
  rfl

theorem paired_eq_iff {w w' : World σ} : Paired Eq w w' ↔ w' = w := by
  constructor
  · rintro ⟨rfl⟩
    rfl
  · rintro rfl
    exact .mk rfl

end World

theorem Limits.interrupt?_onHost (limits : Limits) (w : World σ) (host : σ') :
    limits.interrupt? (w.onHost host) = (limits.interrupt? w).map (World.onHost · host) := by
  show (if limits.times.any (·.hasPassed w) then some (w.take.onHost host)
    else if limits.watched && w.cancelled then some (w.onHost host) else .none) = _
  unfold Limits.interrupt?
  split
  · rfl
  · split <;> rfl

theorem Limits.host_of_interrupt? {limits : Limits} {w after : World σ}
    (h : limits.interrupt? w = some after) : after.host = w.host := by
  unfold Limits.interrupt? at h
  split_ifs at h <;> cases h <;> rfl

theorem World.Paired.expire_eq {R : σ → σ' → Prop} {w : World σ} {w' : World σ'}
    (h : w.Paired R w') (limit : Option TimeLimit) (exit : Exit α) :
    exit.expire limit w' = exit.expire limit w := by
  cases h
  cases exit <;> cases limit <;> rfl

theorem World.Paired.makeRoom {R : σ → σ' → Prop} {w : World σ} {w' : World σ'}
    (h : w.Paired R w') (limits : Limits) :
    (Run.makeRoom limits w').1 = (Run.makeRoom limits w).1 ∧
      (Run.makeRoom limits w).2.Paired R (Run.makeRoom limits w').2 := by
  obtain ⟨hhost⟩ := h
  rename_i host
  unfold Run.makeRoom
  rw [Limits.interrupt?_onHost]
  by_cases hroom : w.room ≠ 0
  · rw [if_pos hroom, if_pos (show (w.onHost host).room ≠ 0 from hroom)]
    exact ⟨rfl, .mk hhost⟩
  · rw [if_neg hroom, if_neg (show ¬(w.onHost host).room ≠ 0 from hroom)]
    cases hint : limits.interrupt? w with
    | none => exact ⟨rfl, .mk hhost⟩
    | some after => exact ⟨rfl, .mk (by rwa [Limits.host_of_interrupt? hint])⟩

/-! ### What is passed on -/

/-- What a step passes on of its answer, given the outputs that it declares. -/
def Variables.passedOn (outputs : List String) (answer : Variables) :
    String × List (Option String) :=
  (answer.input, outputs.map answer.filled?)

theorem Variables.passedOn_eq_iff {outputs : List String} {answer answer' : Variables} :
    answer'.passedOn outputs = answer.passedOn outputs ↔
      answer'.input = answer.input ∧
        ∀ output ∈ outputs, answer'.filled? output = answer.filled? output := by
  simp [passedOn]

/-- A commit takes no more of an answer than what is passed on. -/
theorem PlanHead.commit_congr {outputs : List String} {answer answer' : Variables}
    (h : answer'.passedOn outputs = answer.passedOn outputs) (head : PlanHead) :
    head.commit answer' outputs = head.commit answer outputs := by
  obtain ⟨hinput, houtputs⟩ := Variables.passedOn_eq_iff.1 h
  have hwrites : ∀ (value : String) (state : Variables),
      outputs.foldl (fun s output => s.set output ((answer'.filled? output).getD value)) state =
        outputs.foldl (fun s output => s.set output ((answer.filled? output).getD value))
          state := by
    intro value state
    refine List.foldl_ext _ _ state fun s output houtput => ?_
    rw [houtputs output houtput]
  simp only [commit, hinput, hwrites]

/-! ### Twins -/

/-- Two functions that do the same, except for what is not passed on of their answers. -/
structure Function.Alike (R : σ → σ' → Prop) (scope : Scope σ) (scope' : Scope σ')
    (outputs : List String) (f : Function σ) (f' : Function σ') : Prop where
  parameters_eq : f'.parameters = f.parameters
  ended_eq : ∀ vars limits w w', World.Paired R w w' →
    (f'.body scope' vars limits w').1.map (Variables.passedOn outputs) =
      (f.body scope vars limits w).1.map (Variables.passedOn outputs)
  world : ∀ vars limits w w', World.Paired R w w' →
    (f.body scope vars limits w).2.Paired R (f'.body scope' vars limits w').2

namespace Plan

/-- The same tree, with functions that do the same except for what is not passed on. -/
inductive Twins (R : σ → σ' → Prop) (scope : Scope σ) (scope' : Scope σ') :
    Plan σ → Plan σ' → Prop
  | unbound {head : PlanHead} {finished : Bool} :
      Twins R scope scope' (.call head none finished) (.call head none finished)
  | bound {head : PlanHead} {f : Function σ} {f' : Function σ'} {finished : Bool} :
      f.Alike R scope scope' head.outputs f' →
        Twins R scope scope' (.call head (some f) finished) (.call head (some f') finished)
  | group {head : PlanHead} {past ahead : List (Plan σ)} {past' ahead' : List (Plan σ')} :
      List.Forall₂ (Twins R scope scope') past past' →
        List.Forall₂ (Twins R scope scope') ahead ahead' →
          Twins R scope scope' (.group head past ahead) (.group head past' ahead')

variable {R : σ → σ' → Prop} {scope : Scope σ} {scope' : Scope σ'}

theorem Twins.head_eq {p : Plan σ} {p' : Plan σ'} (h : Twins R scope scope' p p') :
    p'.head = p.head := by
  cases h <;> rfl

theorem Twins.isCall_eq {p : Plan σ} {p' : Plan σ'} (h : Twins R scope scope' p p') :
    p'.isCall = p.isCall := by
  cases h <;> rfl

theorem Twins.declared_eq {p : Plan σ} {p' : Plan σ'} (h : Twins R scope scope' p p') :
    p'.declared = p.declared := by
  cases h with
  | unbound => rfl
  | bound h => exact h.parameters_eq
  | group _ _ => rfl

theorem Twins.outputs_eq {p : Plan σ} {p' : Plan σ'} (h : Twins R scope scope' p p') :
    p'.outputs = p.outputs := by
  rw [outputs, outputs, h.head_eq]

theorem Twins.qualifiedName_eq {p : Plan σ} {p' : Plan σ'} (h : Twins R scope scope' p p') :
    p'.qualifiedName = p.qualifiedName := by
  rw [qualifiedName, qualifiedName, h.head_eq]

theorem Twins.stepVariables_eq {step : Plan σ} {step' : Plan σ'}
    (h : Twins R scope scope' step step') (head : PlanHead) (caller : Variables) :
    head.stepVariables caller step' = head.stepVariables caller step := by
  simp only [PlanHead.stepVariables, PlanHead.stepInput, h.head_eq, h.isCall_eq, h.declared_eq]

theorem flatMap_outputs_eq {steps : List (Plan σ)} {steps' : List (Plan σ')}
    (h : List.Forall₂ (Twins R scope scope') steps steps') :
    steps'.flatMap outputs = steps.flatMap outputs := by
  induction h with
  | nil => rfl
  | cons h _ ih => rw [List.flatMap_cons, List.flatMap_cons, ih, h.outputs_eq]

/-! ### Running twins -/

/-- What two runs come to that are like each other: exits that `same` relates, twins, and
paired worlds. -/
structure Together (R : σ → σ' → Prop) (scope : Scope σ) (scope' : Scope σ')
    (same : Exit α → Exit α → Prop) (ran : Exit α × Plan σ × World σ)
    (ran' : Exit α × Plan σ' × World σ') : Prop where
  exit : same ran.1 ran'.1
  left : Twins R scope scope' ran.2.1 ran'.2.1
  world : ran.2.2.Paired R ran'.2.2

/-- Exits that pass the same on. -/
def SamePassedOn (outputs : List String) (exit exit' : Exit Variables) : Prop :=
  exit'.map (Variables.passedOn outputs) = exit.map (Variables.passedOn outputs)

section

variable {step : Plan σ} {step' : Plan σ'} {invoke : Variables → PlanRun σ Variables}
  {invoke' : Variables → PlanRun σ' Variables}

theorem together_attempt (hstep : Twins R scope scope' step step')
    (hinvoke : ∀ vars limits w w', World.Paired R w w' →
      Together R scope scope' (SamePassedOn step.outputs) (invoke vars limits w)
        (invoke' vars limits w'))
    (head : PlanHead) (caller : Variables) (limits : Limits) {w : World σ} {w' : World σ'}
    (hw : w.Paired R w') :
    Together R scope scope' Eq (head.attempt step invoke caller limits w)
      (head.attempt step' invoke' caller limits w') := by
  have hran := hinvoke (head.stepVariables caller step) (limits.within (limitFor head w)) w w' hw
  rcases hrun : invoke (head.stepVariables caller step) (limits.within (limitFor head w)) w with
    ⟨exit, left, after⟩
  rcases hrun' : invoke' (head.stepVariables caller step) (limits.within (limitFor head w)) w'
    with ⟨exit', left', after'⟩
  rw [hrun, hrun'] at hran
  obtain ⟨hexit, hleft, hafter⟩ := hran
  have hlimit : limitFor head w' = limitFor head w := by
    cases hw
    rfl
  rw [← hstep.stepVariables_eq, ← hlimit] at hrun'
  rw [attempt_eq hrun, attempt_eq hrun', hlimit, hstep.qualifiedName_eq, hstep.outputs_eq]
  refine ⟨?_, hleft, hafter⟩
  -- how the step ended is seen through a commit only
  have hexpire : (exit'.expire (limitFor head w) after').map (Variables.passedOn step.outputs) =
      (exit.expire (limitFor head w) after).map (Variables.passedOn step.outputs) := by
    rw [Exit.map_expire, Exit.map_expire, show exit'.map _ = exit.map _ from hexit]
    exact hafter.expire_eq _ _
  refine (Exit.map_congr_of_map (fun _ _ h => PlanHead.commit_congr h head) ?_).symm
  rw [Exit.map_mapError, Exit.map_mapError, hexpire]

theorem together_attemptWatched (hstep : Twins R scope scope' step step')
    (hinvoke : ∀ vars limits w w', World.Paired R w w' →
      Together R scope scope' (SamePassedOn step.outputs) (invoke vars limits w)
        (invoke' vars limits w'))
    (head : PlanHead) (cancellable : Bool) (caller : Variables) (limits : Limits)
    {w : World σ} {w' : World σ'} (hw : w.Paired R w') :
    Together R scope scope' Eq (head.attemptWatched cancellable step invoke caller limits w)
      (head.attemptWatched cancellable step' invoke' caller limits w') := by
  cases cancellable with
  | false => exact together_attempt hstep hinvoke head caller limits hw
  | true =>
      cases hc : w.cancelled with
      | true =>
          have hc' : w'.cancelled = true := hw.cancelled_eq.trans hc
          rw [attemptWatched_of_cancelled hc, attemptWatched_of_cancelled hc']
          exact ⟨rfl, hstep, hw⟩
      | false =>
          have hc' : w'.cancelled = false := hw.cancelled_eq.trans hc
          obtain ⟨hexit, hbetween⟩ := hw.makeRoom limits
          rcases hroom : Run.makeRoom limits w with ⟨exit, between⟩
          rcases hroom' : Run.makeRoom limits w' with ⟨exit', between'⟩
          rw [hroom, hroom'] at hexit hbetween
          obtain rfl : exit' = exit := hexit
          cases hdone : exit'.isDone with
          | false =>
              rw [attemptWatched_of_no_room hc hroom hdone,
                attemptWatched_of_no_room hc' hroom' hdone]
              exact ⟨rfl, hstep, hbetween⟩
          | true =>
              obtain ⟨⟨⟩, rfl⟩ := Exit.isDone_iff.1 hdone
              have hran := together_attempt hstep hinvoke head caller (limits.watching true)
                hbetween
              rcases hrun : head.attempt step invoke caller (limits.watching true) between with
                ⟨exit, left, after⟩
              rcases hrun' : head.attempt step' invoke' caller (limits.watching true) between'
                with ⟨exit', left', after'⟩
              rw [hrun, hrun'] at hran
              obtain ⟨rfl, hleft, hafter⟩ := hran
              rw [attemptWatched_of_room hc hroom hrun, attemptWatched_of_room hc' hroom' hrun',
                hafter.cancelled_eq]
              exact ⟨rfl, hleft, hafter⟩

end

/-- Running the steps ahead is like running their twins, if running each of them is. -/
theorem together_runSteps {ahead : List (Plan σ)} {ahead' : List (Plan σ')}
    (hsteps : ∀ step ∈ ahead, ∀ step', Twins R scope scope' step step' →
      ∀ vars limits w w', World.Paired R w w' →
        Together R scope scope' (SamePassedOn step.outputs) (runWhole scope step vars limits w)
          (runWhole scope' step' vars limits w'))
    (hahead : List.Forall₂ (Twins R scope scope') ahead ahead') (cancellable : Bool)
    (declared : List String) (head : PlanHead) {past : List (Plan σ)} {past' : List (Plan σ')}
    (hpast : List.Forall₂ (Twins R scope scope') past past') (vars : Variables)
    (limits : Limits) {w : World σ} {w' : World σ'} (hw : w.Paired R w') :
    Together R scope scope' Eq
      (runSteps scope cancellable declared head past ahead vars limits w)
      (runSteps scope' cancellable declared head past' ahead' vars limits w') := by
  -- the head and the variables are the same in both runs all along
  induction hahead generalizing head past past' vars w w' with
  | nil => exact ⟨rfl, .group hpast .nil, hw⟩
  | @cons step step' rest rest' hstep hrest ih =>
      let caller := vars.merge head.state false
      have hran := together_attemptWatched hstep (hsteps step (by simp) step' hstep) head
        cancellable caller limits hw
      rcases hrun : head.attemptWatched cancellable step (runWhole scope step) caller limits w
        with ⟨exit, left, after⟩
      rcases hrun' : head.attemptWatched cancellable step' (runWhole scope' step') caller limits
        w' with ⟨exit', left', after'⟩
      rw [hrun, hrun'] at hran
      obtain ⟨rfl, hleft, hafter⟩ := hran
      cases hdone : exit.isDone with
      | false =>
          rw [runSteps_of_not_done hrun hdone, runSteps_of_not_done hrun' hdone]
          exact ⟨rfl, .group hpast (.cons hleft hrest), hafter⟩
      | true =>
          obtain ⟨head', rfl⟩ : ∃ head', exit = .done head' := Exit.isDone_iff.1 hdone
          rw [runSteps_of_done hrun, runSteps_of_done hrun']
          exact ih (fun s hs => hsteps s (List.mem_cons_of_mem step hs)) head'
            (List.rel_append hpast (.cons hleft .nil)) _ hafter

theorem together_runWhole (step : Plan σ) : ∀ step', Twins R scope scope' step step' →
    ∀ vars limits w w', World.Paired R w w' →
      Together R scope scope' (SamePassedOn step.outputs) (runWhole scope step vars limits w)
        (runWhole scope' step' vars limits w') := by
  induction step using steps_induction with
  | call head function finished =>
      intro step' hstep vars limits w w' hw
      cases hstep with
      | unbound => exact ⟨rfl, .unbound, hw⟩
      | @bound _ f f' _ h =>
          refine ⟨?_, .bound h, h.world vars limits w w' hw⟩
          show Exit.map _ (Exit.mapError _ _) = Exit.map _ (Exit.mapError _ _)
          rw [Exit.map_mapError, Exit.map_mapError]
          exact congrArg _ (h.ended_eq vars limits w w' hw)
  | group head past ahead _ ih =>
      intro step' hstep vars limits w w' hw
      cases hstep with
      | group hpast hahead =>
          rw [runWhole, runWhole, flatMap_outputs_eq (List.rel_append hpast hahead)]
          obtain ⟨hexit, hleft, hworld⟩ :=
            together_runSteps ih hahead false _ head hpast vars limits hw
          exact ⟨congrArg (Exit.map _) hexit.symm, hleft, hworld⟩

/-! ### Running plans that are twins -/

theorem Twins.exists_call {head : PlanHead} {function : Option (Function σ)} {finished : Bool}
    {p' : Plan σ'} (h : Twins R scope scope' (.call head function finished) p') :
    ∃ function', p' = .call head function' finished ∧
      ∀ head' finished', head'.outputs = head.outputs →
        Twins R scope scope'
          (.call head' function finished') (.call head' function' finished') := by
  cases h with
  | unbound => exact ⟨none, rfl, fun _ _ _ => .unbound⟩
  | bound h =>
      refine ⟨some _, rfl, fun head' _ houtputs => .bound ?_⟩
      rwa [houtputs]

theorem twins_stepAfter {head : PlanHead} {past rest : List (Plan σ)}
    {past' rest' : List (Plan σ')} {left : Plan σ} {left' : Plan σ'}
    (hpast : List.Forall₂ (Twins R scope scope') past past')
    (hrest : List.Forall₂ (Twins R scope scope') rest rest')
    (hleft : Twins R scope scope' left left') (exit : Exit PlanHead) :
    Twins R scope scope' (stepAfter head past rest left exit)
      (stepAfter head past' rest' left' exit) := by
  cases hdone : exit.isDone with
  | false =>
      rw [stepAfter_of_not_done hdone, stepAfter_of_not_done hdone]
      exact .group hpast (.cons hleft hrest)
  | true =>
      obtain ⟨head', rfl⟩ := Exit.isDone_iff.1 hdone
      exact .group (List.rel_append hpast (.cons hleft .nil)) hrest

/-- A commit leaves the outputs that are declared alone. -/
theorem twins_selfAfter {head : PlanHead} {function : Option (Function σ)}
    {function' : Option (Function σ')} {exit : Exit PlanHead}
    (h : ∀ head' finished', head'.outputs = head.outputs →
      Twins R scope scope' (.call head' function finished') (.call head' function' finished'))
    (hanswer : ∀ head', exit = .done head' → ∃ answer, head' = head.commit answer head.outputs) :
    Twins R scope scope' (selfAfter head function exit) (selfAfter head function' exit) := by
  cases hdone : exit.isDone with
  | false =>
      rw [selfAfter_of_not_done hdone, selfAfter_of_not_done hdone]
      exact h head false rfl
  | true =>
      obtain ⟨head', rfl⟩ := Exit.isDone_iff.1 hdone
      obtain ⟨answer, rfl⟩ := hanswer head' rfl
      exact h _ true rfl

theorem together_run {p : Plan σ} {p' : Plan σ'} (h : Twins R scope scope' p p')
    (cancellable : Bool) (vars : Variables) (limits : Limits) {w : World σ} {w' : World σ'}
    (hw : w.Paired R w') :
    Together R scope scope' Eq (run scope cancellable p vars limits w)
      (run scope' cancellable p' vars limits w') := by
  cases p with
  | group head past ahead =>
      cases h with
      | group hpast hahead =>
          rw [run, run, flatMap_outputs_eq (List.rel_append hpast hahead)]
          exact together_runSteps (fun step _ => together_runWhole step) hahead cancellable _ head
            hpast vars limits hw
  | call head function finished =>
      obtain ⟨function', rfl, hself⟩ := h.exists_call
      cases finished with
      | true => exact ⟨rfl, hself head true rfl, hw⟩
      | false =>
          have hran := together_attemptWatched h (together_runWhole _ _ h) head cancellable
            (vars.merge head.state false) limits hw
          rcases hrun : head.attemptWatched cancellable (.call head function false)
            (runWhole scope (.call head function false)) (vars.merge head.state false) limits w
            with ⟨exit, left, after⟩
          rcases hrun' : head.attemptWatched cancellable (.call head function' false)
            (runWhole scope' (.call head function' false)) (vars.merge head.state false) limits w'
            with ⟨exit', left', after'⟩
          rw [hrun, hrun'] at hran
          obtain ⟨rfl, _, hafter⟩ := hran
          rw [run_call hrun, run_call hrun']
          refine ⟨rfl, twins_selfAfter hself fun head' hdone => ?_, hafter⟩
          exact exists_answer_of_attemptWatched (by rw [hrun]; exact hdone)

theorem together_runNext {p : Plan σ} {p' : Plan σ'} (h : Twins R scope scope' p p')
    (caller : Variables) (limits : Limits) {w : World σ} {w' : World σ'}
    (hw : w.Paired R w') :
    Together R scope scope' Eq (runNext scope caller p limits w)
      (runNext scope' caller p' limits w') := by
  cases p with
  | group head past ahead =>
      cases h with
      | group hpast hahead =>
          cases hahead with
          | nil => exact ⟨rfl, .group hpast .nil, hw⟩
          | @cons step step' rest rest' hstep hrest =>
              have hran := together_attempt hstep (together_runWhole _ _ hstep) head caller limits
                hw
              rcases hrun : head.attempt step (runWhole scope step) caller limits w with
                ⟨exit, left, after⟩
              rcases hrun' : head.attempt step' (runWhole scope' step') caller limits w' with
                ⟨exit', left', after'⟩
              rw [hrun, hrun'] at hran
              obtain ⟨rfl, hleft, hafter⟩ := hran
              rw [runNext_group hrun, runNext_group hrun']
              exact ⟨rfl, twins_stepAfter hpast hrest hleft _, hafter⟩
  | call head function finished =>
      obtain ⟨function', rfl, hself⟩ := h.exists_call
      cases finished with
      | true => exact ⟨rfl, hself head true rfl, hw⟩
      | false =>
          have hran := together_attempt h (together_runWhole _ _ h) head caller limits hw
          rcases hrun : head.attempt (.call head function false)
            (runWhole scope (.call head function false)) caller limits w with ⟨exit, left, after⟩
          rcases hrun' : head.attempt (.call head function' false)
            (runWhole scope' (.call head function' false)) caller limits w' with
            ⟨exit', left', after'⟩
          rw [hrun, hrun'] at hran
          obtain ⟨rfl, _, hafter⟩ := hran
          rw [runNext_call hrun, runNext_call hrun']
          refine ⟨rfl, twins_selfAfter hself fun head' hdone => ?_, hafter⟩
          exact exists_answer_of_attempt (by rw [hrun]; exact hdone)

end Plan

end PromptPlan
