import PromptPlan.Proofs.Plan.Frame
import PromptPlan.Proofs.Plan.Gathering
import PromptPlan.Proofs.Plan.MainSlot
import PromptPlan.Proofs.Plan.StepVariables

/-!
# What is fresh in the variables of a run

Before each step the variables of the caller take over what the state has and they lack, and after
each step the result and the declared outputs are written into them anew. So they are only out of
date if the state has been written to since, and not under a declared output.

The exception is `PLAN.RESULT`, which a commit writes to as well. If no output has that name, the
variables have the result of the first step that contributed, however many have contributed since
(`fresh_of_run`), and the steps that come later see it in the place of what the state has.
-/

namespace PromptPlan

variable {σ : Type}

namespace Plan

/-- Whether a plan or one of its steps declares an output of that name. -/
def declaresOutput (p : Plan σ) (name : String) : Bool :=
  p.declaredOutputs.any fun output => Text.lower output == Text.lower name

theorem declaresOutput_of_mem {p : Plan σ} {name output : String}
    (houtput : output ∈ p.declaredOutputs) (hname : Text.lower name = Text.lower output) :
    p.declaresOutput name = true :=
  List.any_eq_true.2 ⟨output, houtput, beq_iff_eq.2 hname.symm⟩

theorem ne_of_not_declaresOutput {p : Plan σ} {name : String} (h : p.declaresOutput name = false)
    {output : String} (houtput : output ∈ p.declaredOutputs) :
    Text.lower output ≠ Text.lower name :=
  fun hname => absurd h (by rw [declaresOutput_of_mem houtput hname.symm]; decide)

/-- The outputs of the steps ahead are declared outputs. -/
theorem mem_declaredOutputs {p : Plan σ} {outputs : List String}
    (houtputs : outputs ∈ p.aheadOutputs) : outputs ⊆ p.declaredOutputs := by
  intro output houtput
  cases p with
  | call head function finished =>
      cases finished with
      | true => cases houtputs
      | false =>
          obtain rfl := List.mem_singleton.1 houtputs
          exact List.mem_append_left _ houtput
  | group head past ahead =>
      obtain ⟨step, hstep, rfl⟩ := List.mem_map.1 houtputs
      exact List.mem_append_right _
        (List.mem_flatMap.2 ⟨step, List.mem_append_right _ hstep, houtput⟩)

theorem ne_of_mem_aheadOutputs {p : Plan σ} {name : String} (h : p.declaresOutput name = false) :
    ∀ outputs ∈ p.aheadOutputs, ∀ output ∈ outputs, Text.lower output ≠ Text.lower name :=
  fun _ houtputs _ houtput => ne_of_not_declaresOutput h (mem_declaredOutputs houtputs houtput)

theorem Taken.outputs_subset {p step q : Plan σ} {answer : Variables}
    (h : Taken p step answer q) : step.outputs ⊆ p.declaredOutputs :=
  mem_declaredOutputs (by rw [h.aheadOutputs_eq]; exact List.mem_cons_self)

end Plan

namespace Pause

open Plan

variable {scope : Scope σ} {cancellable : Bool} {limits : Limits} {a b : Pause σ}

/-- The variables that the next step of a run has for those of its caller. -/
def caller (a : Pause σ) : Variables :=
  a.vars.merge a.plan.head.state false

/-- What the variables of a run have under a name, if they have anything, is `value`, and this is
also what the next step sees there. -/
def Shows (a : Pause σ) (name : String) (value : Option String) : Prop :=
  (a.vars.get? name = none ∨ a.vars.get? name = value) ∧ a.caller.get? name = value

theorem get?_caller (a : Pause σ) (name : String) :
    a.caller.get? name = (a.vars.get? name).or (a.plan.head.state.get? name) :=
  Variables.get?_merge _ _ _

/-! ### One step -/

/-- What the variables have under a name after a step. -/
theorem Onward.get?_vars (h : Onward scope cancellable limits a b) {name : String}
    (hslot : Text.lower name ≠ Text.lower mainSlot) :
    b.vars.get? name =
      if a.plan.declaresOutput name = true then
        (b.plan.head.state.get? name).or (a.caller.get? name)
      else a.caller.get? name := by
  rw [h.vars_eq, PlanHead.get?_publish, Variables.setInput, Variables.get?_set,
    if_neg (Ne.symm hslot)]
  rfl

theorem Onward.get?_vars_of_output (h : Onward scope cancellable limits a b) {name value : String}
    (houtput : a.plan.declaresOutput name = true)
    (hstate : b.plan.head.state.get? name = some value) : b.vars.get? name = some value := by
  rw [h.vars_eq, PlanHead.get?_publish, hstate]
  exact if_pos houtput

/-- What is no output of a plan is in its state what it was before. -/
theorem Onward.get?_state_of_ordinary (h : Onward scope cancellable limits a b) {name : String}
    (hname : Ordinary name) (houtput : a.plan.declaresOutput name = false) :
    b.plan.head.state.get? name = a.plan.head.state.get? name := by
  obtain ⟨step, answer, htaken⟩ := h.taken
  rw [htaken.head_eq]
  exact PlanHead.get?_commit_of_not_output hname answer fun output hmem =>
    ne_of_not_declaresOutput houtput (htaken.outputs_subset hmem)

/-- The variables keep up with the state, except under `PLAN.RESULT` if it is no output. -/
theorem Onward.keptIn (h : Onward scope cancellable limits a b) {name : String}
    (hslot : Text.lower name ≠ Text.lower mainSlot)
    (hresult : Text.lower name = Text.lower resultSlot → a.plan.declaresOutput name = true)
    (hkept : a.vars.KeptIn a.plan.head.state name) : b.vars.KeptIn b.plan.head.state name := by
  have hcaller : a.caller.get? name = a.plan.head.state.get? name :=
    Variables.get?_merge_of_keptIn hkept
  rw [Variables.KeptIn, h.get?_vars hslot, hcaller]
  cases houtput : a.plan.declaresOutput name with
  | true =>
      rw [if_pos rfl]
      cases hstate : b.plan.head.state.get? name with
      | some value => exact .inr rfl
      | none =>
          -- a commit takes nothing out of the state
          have hbefore : a.plan.head.state.get? name = none := by
            by_contra hsome
            exact h.state_ne_none hsome hstate
          exact .inl hbefore
  | false =>
      have hname : Ordinary name := by
        refine ⟨hslot, fun hgathered => ?_⟩
        rw [hresult hgathered] at houtput
        cases houtput
      rw [if_neg Bool.false_ne_true, h.get?_state_of_ordinary hname houtput]
      exact .inr rfl

/-! ### Any number of steps -/

theorem Reaches.declaresOutput_eq (h : Reaches scope cancellable limits a b) (name : String) :
    b.plan.declaresOutput name = a.plan.declaresOutput name := by
  rw [declaresOutput, h.declaredOutputs_eq, declaresOutput]

theorem Reaches.keptIn (h : Reaches scope cancellable limits a b) {name : String}
    (hslot : Text.lower name ≠ Text.lower mainSlot)
    (hresult : Text.lower name = Text.lower resultSlot → a.plan.declaresOutput name = true)
    (hkept : a.vars.KeptIn a.plan.head.state name) : b.vars.KeptIn b.plan.head.state name := by
  induction h with
  | refl => exact hkept
  | tail hbefore hlast ih =>
      refine hlast.keptIn hslot (fun hgathered => ?_) ih
      rw [Reaches.declaresOutput_eq hbefore]
      exact hresult hgathered

/-- What the caller did not pass is shown as the state has it. -/
theorem Reaches.shows_state (h : Reaches scope cancellable limits a b) {name : String}
    (hslot : Text.lower name ≠ Text.lower mainSlot)
    (hresult : Text.lower name = Text.lower resultSlot → a.plan.declaresOutput name = true)
    (hunset : a.vars.get? name = none) : b.Shows name (b.plan.head.state.get? name) := by
  have hkept := h.keptIn hslot hresult (.inl hunset)
  exact ⟨hkept, Variables.get?_merge_of_keptIn hkept⟩

end Pause

/-! ### The first contribution -/

theorem gathered_singleton (value : String) : gathered [value] = value := by
  have hnone : ∀ value ∈ ([] : List String), Text.Trimmed value.toList := nofun
  have h := gather_gathered hnone value
  rw [List.nil_append] at h
  rw [← h]
  rfl

namespace PlanHead

/-- What the variables of a run take over from `PLAN.RESULT` if they do not have it: what the state
had at the start, or else the first contribution. -/
def firstGathered (h : PlanHead) (answers : List StepAnswer) : Option String :=
  (h.state.get? resultSlot).or (h.contributions answers).head?

theorem firstGathered_concat_of_some {h : PlanHead} {answers : List StepAnswer} {value : String}
    (hfirst : h.firstGathered answers = some value) (answer : StepAnswer) :
    h.firstGathered (answers ++ [answer]) = some value := by
  rw [firstGathered] at hfirst ⊢
  cases hstate : h.state.get? resultSlot with
  | some before => rwa [hstate] at hfirst
  | none =>
      rw [hstate, Option.none_or] at hfirst
      rw [Option.none_or, contributions_concat, List.head?_append, hfirst]
      rfl

end PlanHead

namespace Plan

/-- Up to the first contribution, what was gathered is what the variables take over. -/
theorem Progress.get?_resultSlot_of_first {p q : Plan σ} {answers : List StepAnswer}
    {answer : StepAnswer} (h : Progress p (answers ++ [answer]) q)
    (houtput : p.declaresOutput resultSlot = false)
    (hfirst : p.head.firstGathered answers = none) :
    q.head.state.get? resultSlot = p.head.firstGathered (answers ++ [answer]) := by
  obtain ⟨hunset, hnone⟩ := Option.or_eq_none_iff.1 hfirst
  rw [h.get?_resultSlot hunset (ne_of_mem_aheadOutputs houtput), PlanHead.firstGathered, hunset,
    Option.none_or, PlanHead.contributions_concat, List.head?_eq_none_iff.1 hnone,
    List.nil_append]
  cases p.head.contributes answer.outputs with
  | true => simp [gathered_singleton]
  | false => simp

end Plan

namespace Pause

open Plan

variable {scope : Scope σ} {cancellable : Bool} {limits : Limits} {a b : Pause σ}

theorem shows_start {a : Pause σ} {name : String} (hunset : a.vars.get? name = none) :
    a.Shows name (a.plan.head.state.get? name) :=
  ⟨.inl hunset, by rw [get?_caller, hunset, Option.none_or]⟩

/-- If `PLAN.RESULT` is neither passed nor declared, the variables have what they first took
over. -/
theorem Reaches.exists_shows_first (h : Reaches scope cancellable limits a b)
    (houtput : a.plan.declaresOutput resultSlot = false) (hunset : a.vars.get? resultSlot = none) :
    ∃ answers, Progress a.plan answers b.plan ∧
      b.Shows resultSlot (a.plan.head.firstGathered answers) := by
  have hslot : Text.lower resultSlot ≠ Text.lower mainSlot := by decide +kernel
  induction h with
  | refl =>
      refine ⟨[], .start, ?_⟩
      have hnone : a.plan.head.firstGathered [] = a.plan.head.state.get? resultSlot :=
        Option.or_none
      rw [hnone]
      exact shows_start hunset
  | @tail b c hbefore hlast ih =>
      obtain ⟨answers, hprogress, _, hcaller⟩ := ih
      obtain ⟨step, answer, htaken⟩ := hlast.taken
      have hprogress' := hprogress.taken htaken
      refine ⟨_, hprogress', ?_⟩
      -- the step has shown the variables nothing under this name
      have hvars : c.vars.get? resultSlot = a.plan.head.firstGathered answers := by
        rw [hlast.get?_vars hslot, Reaches.declaresOutput_eq hbefore, houtput,
          if_neg Bool.false_ne_true, hcaller]
      rw [Shows, get?_caller, hvars]
      cases hfirst : a.plan.head.firstGathered answers with
      | some value =>
          rw [PlanHead.firstGathered_concat_of_some hfirst]
          exact ⟨.inr rfl, rfl⟩
      | none =>
          rw [hprogress'.get?_resultSlot_of_first houtput hfirst]
          exact ⟨.inl rfl, rfl⟩

end Pause

namespace Plan

/-! ### Runs -/

/-- **What is fresh in the variables of a run.** A run goes from pause to pause, and gives back the
variables of the last one. At each of them a variable that the caller did not pass is as the state
has it, if the run has it at all, and so the next step sees it. This does not go for the main slot,
and for `PLAN.RESULT` only if an output of that name is declared. Otherwise the run has there, and
shows to the next step, what the state had at the start or else the first contribution, whereas the
state has all that was gathered. -/
theorem fresh_of_run (p : Plan σ) (scope : Scope σ) (cancellable : Bool) (limits : Limits)
    (vars : Variables) (w : World σ) :
    let start : Pause σ := ⟨p, vars, w⟩
    (∃ b, Pause.Reaches scope cancellable limits start b ∧
      Pause.Ending scope cancellable limits b (run scope cancellable p vars limits w)) ∧
    (∀ vars' left after, run scope cancellable p vars limits w = (.done vars', left, after) →
      Pause.Reaches scope cancellable limits start ⟨left, vars', after⟩) ∧
    ∀ b, Pause.Reaches scope cancellable limits start b →
      (∀ name, Text.lower name ≠ Text.lower mainSlot → vars.get? name = none →
        (Text.lower name = Text.lower resultSlot → p.declaresOutput name = true) →
          b.Shows name (b.plan.head.state.get? name)) ∧
      (vars.get? resultSlot = none → p.declaresOutput resultSlot = false →
        ∃ answers, Progress p answers b.plan ∧
          b.Shows resultSlot (p.head.firstGathered answers) ∧
          (p.head.state.get? resultSlot = none →
            b.plan.head.state.get? resultSlot =
              if p.head.contributions answers = [] then none
              else some (gathered (p.head.contributions answers)))) := by
  intro start
  refine ⟨Pause.exists_ending scope cancellable p vars limits w, fun vars' left after h =>
    (Pause.exists_reaches_of_run_done h).1, fun b hreaches => ⟨?_, ?_⟩⟩
  · intro name hslot hunset hresult
    exact hreaches.shows_state hslot hresult hunset
  · intro hunset houtput
    obtain ⟨answers, hprogress, hshows⟩ := hreaches.exists_shows_first houtput hunset
    exact ⟨answers, hprogress, hshows, fun hstate =>
      hprogress.get?_resultSlot hstate (ne_of_mem_aheadOutputs houtput)⟩

/-- A run in which two steps contribute and the third is told, with an output in two spellings. -/
theorem fresh_of_run_gathering :
    let say (text : String) : Function Unit := .native "text" text "" [] fun _ vars =>
      pure (vars.setInput text)
    let p := (ofSteps "goal" [(ofFunction (say "one")).withOutputs ["x"],
      (ofFunction (say "two")).withOutputs ["X"], ofFunction (say "three")]).withOutputs ["x"]
    let caller := Variables.ofPairs [("input", "asked"), ("y", "passed")]
    let ran := run (fun _ _ => none) false p caller .none (.start ())
    ∃ vars', ran.1 = .done vars' ∧
      Text.lower "x" ≠ Text.lower mainSlot ∧ caller.get? "x" = none ∧
      Text.lower "x" ≠ Text.lower resultSlot ∧ caller.get? resultSlot = none ∧
      p.declaresOutput resultSlot = false ∧ p.head.state.get? resultSlot = none ∧
      (vars'.get? "x" = none ∨ vars'.get? "x" = ran.2.1.head.state.get? "x") ∧
      ran.2.1.head.state.get? "x" = some "two" ∧
      ∃ answers, Progress p answers ran.2.1 ∧
        (vars'.get? resultSlot = none ∨
          vars'.get? resultSlot = p.head.firstGathered answers) ∧
        vars'.get? resultSlot = some "one" ∧ p.head.contributions answers ≠ [] ∧
        ran.2.1.head.state.get? resultSlot = some (gathered (p.head.contributions answers)) ∧
        ran.2.1.head.state.get? resultSlot = some "one\ntwo" := by
  intro say p caller ran
  obtain ⟨vars', hran⟩ := Exit.isDone_iff.1 (by decide +kernel : ran.1.isDone = true)
  have hslot : Text.lower "x" ≠ Text.lower mainSlot := by decide +kernel
  have hother : Text.lower "x" ≠ Text.lower resultSlot := by decide +kernel
  have hunset : caller.get? "x" = none := by decide +kernel
  have hresult : caller.get? resultSlot = none := by decide +kernel
  have houtput : p.declaresOutput resultSlot = false := by decide +kernel
  have hstate : p.head.state.get? resultSlot = none := by decide +kernel
  have htold : ran.1.map (fun vars => vars.get? resultSlot) = .done (some "one") := by
    decide +kernel
  rw [hran] at htold
  have hgathered : ran.2.1.head.state.get? resultSlot = some "one\ntwo" := by decide +kernel
  obtain ⟨-, hreturned, hpauses⟩ :=
    fresh_of_run p (fun _ _ => none) false .none caller (.start ())
  obtain ⟨hkept, hfirst⟩ := hpauses _ (hreturned vars' ran.2.1 ran.2.2 (by rw [← hran]))
  obtain ⟨answers, hprogress, hshows, hall⟩ := hfirst hresult houtput
  have hleft := hall hstate
  have hsome : p.head.contributions answers ≠ [] := by
    intro hnone
    rw [if_pos hnone] at hleft
    exact absurd (hgathered.symm.trans hleft) (by decide)
  rw [if_neg hsome] at hleft
  exact ⟨vars', hran, hslot, hunset, hother, hresult, houtput, hstate,
    (hkept "x" hslot hunset fun hsame => absurd hsame hother).1, by decide +kernel, answers,
    hprogress, hshows.1, Exit.done.inj htold, hsome, hleft, hgathered⟩

/-- Where no output has the name of `PLAN.RESULT`, a run shows to a later step, and gives back, the
first contribution only. The same step is handed all contributions if it is run by hand, with the
same caller. -/
theorem stale_in_run :
    let say (text : String) : Function Unit := .native "text" text "" [] fun _ vars =>
      pure (vars.setInput text)
    let tell : Function Unit := .native "text" "tell" "" [.needed resultSlot ""] fun _ vars =>
      pure (vars.setInput ((vars.get? resultSlot).getD "nothing"))
    let p := (ofSteps "goal" [(ofFunction (say "one")).withOutputs ["x"],
      (ofFunction (say "two")).withOutputs ["x"], ofFunction tell]).withOutputs ["x"]
    let ran := run (fun _ _ => none) false p .empty .none (.start ())
    let next : Visit Unit := ⟨.next .empty, fun _ _ => none, .none, .start ()⟩
    let byHand := p.leftBy [next, next, next]
    (ran.1.map (fun vars => vars.get? resultSlot) = .done (some "one") ∧
        ran.2.1.head.state.get? resultSlot = some "one\ntwo" ∧
        ran.2.1.head.state.input = "one") ∧
      byHand.head.state.get? resultSlot = some "one\ntwo" ∧
        byHand.head.state.input = "one\ntwo" := by
  refine ⟨⟨?_, ?_, ?_⟩, ?_, ?_⟩ <;> decide +kernel

/-- **Declared outputs are shown.** After each step that a run commits, its variables have under
the name of a declared output, in any spelling, what the state has there, whatever the caller has
passed. The next step sees it so, and is handed it if its function declares a parameter of that
name and it is not empty. A run with a step ahead gives it back so. -/
theorem outputs_of_run (p : Plan σ) (scope : Scope σ) (cancellable : Bool) (limits : Limits)
    (vars : Variables) (w : World σ) {name output : String} (houtput : output ∈ p.declaredOutputs)
    (hname : Text.lower name = Text.lower output) :
    (∀ a b value, Pause.Reaches scope cancellable limits ⟨p, vars, w⟩ a →
      Pause.Onward scope cancellable limits a b →
      b.plan.head.state.get? name = some value →
        b.vars.get? name = some value ∧ b.caller.get? name = some value ∧
          ∀ step, b.plan.next? = some step → step.declares name = true →
            Text.lower name ≠ Text.lower mainSlot → value ≠ "" →
              (b.plan.head.stepVariables b.caller step).get? name = some value) ∧
    ∀ vars' left after value, p.hasNext = true →
      run scope cancellable p vars limits w = (.done vars', left, after) →
      left.head.state.get? name = some value → vars'.get? name = some value := by
  have hshown : ∀ {a b : Pause σ} {value : String},
      Pause.Reaches scope cancellable limits ⟨p, vars, w⟩ a →
      Pause.Onward scope cancellable limits a b →
      b.plan.head.state.get? name = some value → b.vars.get? name = some value := by
    intro a b value hreaches hstep hstate
    refine hstep.get?_vars_of_output ?_ hstate
    rw [hreaches.declaresOutput_eq]
    exact declaresOutput_of_mem houtput hname
  refine ⟨fun a b value hreaches hstep hstate => ?_,
    fun vars' left after value hnext hrun hstate => ?_⟩
  · have hvars := hshown hreaches hstep hstate
    have hcaller : b.caller.get? name = some value := by
      rw [Pause.get?_caller, hvars]
      rfl
    refine ⟨hvars, hcaller, fun step _ hdeclares hslot hvalue => ?_⟩
    have hfilled : b.caller.filled? name = some value :=
      Variables.filled?_eq_some_iff.2 ⟨hcaller, hvalue⟩
    rw [PlanHead.get?_stepVariables_of_ne hslot, PlanHead.given?, if_neg hslot, if_pos hdeclares,
      hfilled]
    rfl
  · obtain ⟨hreaches, hcomplete⟩ := Pause.exists_reaches_of_run_done hrun
    rcases hreaches.cases_tail with hsame | ⟨a, hbefore, hlast⟩
    · -- a step was ahead at the start, and none is at the end
      cases hsame
      rw [hnext] at hcomplete
      cases hcomplete
    · exact hshown hbefore hlast hstate

/-- A caller that passes its own value under the name of an output, in another spelling. -/
theorem outputs_of_run_passed :
    let name : Function Unit := .native "text" "name" "" [] fun _ vars =>
      pure (vars.setInput "found")
    let greet : Function Unit := .native "text" "greet" "" [.needed "NAME" ""] fun _ vars =>
      pure (vars.setInput ("Dear " ++ (vars.get? "name").getD ""))
    let p := ofSteps "goal" [(ofFunction name).withOutputs ["name"], ofFunction greet]
    let caller := Variables.ofPairs [("Name", "passed")]
    let start : Pause Unit := ⟨p, caller, .start ()⟩
    let ran := run (fun _ _ => none) false p caller .none (.start ())
    ∃ b vars', Pause.Onward (fun _ _ => none) false .none start b ∧
      "name" ∈ p.declaredOutputs ∧ Text.lower "Name" = Text.lower "name" ∧
      b.plan.head.state.get? "Name" = some "found" ∧ b.vars.get? "Name" = some "found" ∧
      b.plan.next? = p.steps[1]? ∧
      p.steps[1]?.map (fun step => (b.plan.head.stepVariables b.caller step).get? "Name") =
        some (some "found") ∧
      p.hasNext = true ∧ ran.1 = .done vars' ∧ vars'.get? "Name" = some "found" ∧
      vars'.input = "Dear found" := by
  intro name greet p caller start ran
  let b := (start.next? (fun _ _ => none) false .none).get (by decide +kernel)
  have hstep : Pause.Onward (fun _ _ => none) false .none start b :=
    .step (Pause.next?_eq_some_iff.1 (Option.some_get _).symm)
  obtain ⟨vars', hran⟩ := Exit.isDone_iff.1 (by decide +kernel : ran.1.isDone = true)
  have hanswer : ran.1.map Variables.input = .done "Dear found" := by decide +kernel
  rw [hran] at hanswer
  have hmem : "name" ∈ p.declaredOutputs := by decide +kernel
  have hname : Text.lower "Name" = Text.lower "name" := by decide +kernel
  have hnext : p.hasNext = true := by decide +kernel
  have hstate : b.plan.head.state.get? "Name" = some "found" := by decide +kernel
  obtain ⟨hpauses, hreturned⟩ :=
    outputs_of_run p (fun _ _ => none) false .none caller (.start ()) hmem hname
  obtain ⟨hvars, -, hhanded⟩ := hpauses start b _ .refl hstep hstate
  have hsecond : (b.plan.head.stepVariables b.caller (ofFunction greet)).get? "Name" =
      some "found" :=
    hhanded _ rfl (by decide +kernel) (by decide +kernel) (by decide)
  exact ⟨b, vars', hstep, hmem, hname, hstate, hvars, rfl, congrArg some hsecond, hnext, hran,
    hreturned vars' ran.2.1 ran.2.2 _ hnext (by rw [← hran]) (by decide +kernel),
    Exit.done.inj hanswer⟩

end Plan

end PromptPlan
