import PromptPlan.Proofs.Plan.Course

/-!
# What a run answers

A run to the end answers in the main slot of the variables it gives back. The result of the plan
is written there after each step, before the declared outputs are shown. So there are two ways
in which the answer is not the result. A run that finds nothing ahead shows nothing, and gives
its caller back what it was given. And an output may have the name of the main slot: then it is
shown last, and what the state has in its main slot, the value of the last step, stands where
the gathered result stood.

A group that is a step is run in the same way, and what it answers is taken for the value of the
step. A group that was done before thus hands on what it was handed.
-/

namespace PromptPlan

variable {σ : Type}

namespace Plan

/-- Whether a plan or one of its steps declares an output with the name of the main slot. -/
def declaresInput (p : Plan σ) : Bool :=
  p.declaredOutputs.any fun output => Text.lower output == Text.lower mainSlot

/-- What a run of `p` with the variables `vars` gives back if it leaves the plan as `left`. -/
structure Answered (p : Plan σ) (vars : Variables) (left : Plan σ) (vars' : Variables) : Prop where
  complete : left.hasNext = false
  idle : p.hasNext = false → vars' = vars ∧ left = p
  input_eq_result : p.hasNext = true → p.declaresInput = false → vars'.input = left.result
  input_eq_state : p.hasNext = true → p.declaresInput = true → vars'.input = left.head.state.input

/-- The answer is the result of the plan unless nothing was ahead or an output has its name. -/
theorem Answered.input_eq_result_iff {p left : Plan σ} {vars vars' : Variables}
    (h : Answered p vars left vars') :
    vars'.input = left.result ↔
      (p.hasNext = false → vars.input = p.result) ∧
        (p.hasNext = true → p.declaresInput = true → left.head.state.input = left.result) := by
  cases hnext : p.hasNext with
  | false =>
      obtain ⟨rfl, rfl⟩ := h.idle hnext
      simp
  | true =>
      cases hdeclares : p.declaresInput with
      | false => simp [h.input_eq_result hnext hdeclares]
      | true => simp [h.input_eq_state hnext hdeclares]

end Plan

open Plan

/-- What is shown in the main slot: the result, if no output has that name. -/
theorem PlanHead.input_publish (h : PlanHead) (declared : List String) (caller : Variables)
    (hstate : h.state.get? mainSlot ≠ none) :
    (h.publish declared caller).input =
      if declared.any (fun output => Text.lower output == Text.lower mainSlot) = true then
        h.state.input
      else h.result := by
  obtain ⟨value, hvalue⟩ := Option.ne_none_iff_exists'.1 hstate
  rw [Variables.input, get?_publish, Variables.input, hvalue, Variables.setInput,
    Variables.get?_set_self]
  split <;> rfl

namespace Pause

variable {scope : Scope σ} {cancellable : Bool} {limits : Limits} {a b : Pause σ}

theorem Onward.input_eq (h : Onward scope cancellable limits a b) :
    b.vars.input = if a.plan.declaresInput = true then b.plan.head.state.input
      else b.plan.result := by
  obtain ⟨step, answer, htaken⟩ := h.taken
  have hstate : b.plan.head.state.get? mainSlot ≠ none := by
    rw [htaken.head_eq]
    exact PlanHead.get?_commit_ne_none answer (.inr (.inr rfl))
  rw [h.vars_eq, PlanHead.input_publish _ _ _ hstate]
  rfl

theorem Onward.hasNext (h : Onward scope cancellable limits a b) : a.plan.hasNext = true := by
  cases h with
  | step h =>
      cases h with
      | mk _ => rfl
  | self _ => rfl

/-- From pause to pause, if at all, there is something ahead, and the last step decides. -/
theorem Reaches.answered (h : Reaches scope cancellable limits a b)
    (hcomplete : b.plan.hasNext = false) : Answered a.plan a.vars b.plan b.vars := by
  cases hnext : a.plan.hasNext with
  | false =>
      have hsame : a = b := by
        rcases h.cases_head with hsame | ⟨c, hfirst, _⟩
        · exact hsame
        · exact absurd hfirst.hasNext (by rw [hnext]; decide)
      subst hsame
      exact ⟨hcomplete, fun _ => ⟨rfl, rfl⟩, by simp [hnext], by simp [hnext]⟩
  | true =>
      rcases h.cases_tail with hsame | ⟨c, hbefore, hlast⟩
      · rw [hsame, hnext] at hcomplete
        cases hcomplete
      · have hdeclares : c.plan.declaresInput = a.plan.declaresInput := by
          rw [declaresInput, Reaches.declaredOutputs_eq hbefore, declaresInput]
        have hinput := hlast.input_eq
        rw [hdeclares] at hinput
        refine ⟨hcomplete, by simp [hnext], fun _ hnot => ?_, fun _ hyes => ?_⟩
        · rw [hinput, hnot, if_neg Bool.false_ne_true]
        · rw [hinput, hyes, if_pos rfl]

end Pause

namespace Plan

/-- **What a run answers.** If a run to the end gives variables back, then their main slot holds
the result of the plan as it was left, except in two cases: with nothing ahead the variables are
those of the caller, and with an output that has the name of the main slot it is the main slot
of the state. The same goes for a group that is run as a step, where the variables made for the
step take the place of the caller's: what is given back is the answer that the plan around it
takes into its state. -/
theorem answer_of_run (scope : Scope σ) (p left : Plan σ) (limits : Limits) (w after : World σ) :
    (∀ cancellable vars vars', run scope cancellable p vars limits w = (.done vars', left, after) →
      Answered p vars left vars' ∧
        (vars'.input = left.result ↔
          (p.hasNext = false → vars.input = p.result) ∧
            (p.hasNext = true → p.declaresInput = true →
              left.head.state.input = left.result))) ∧
      ∀ (head head' : PlanHead) caller, p.isCall = false →
        head.attempt p (runWhole scope p) caller limits w = (.done head', left, after) →
        ∃ answer, Answered p (head.stepVariables caller p) left answer ∧
          head' = head.commit answer p.outputs := by
  refine ⟨fun cancellable vars vars' h => ?_, fun head head' caller hgroup h => ?_⟩
  · obtain ⟨hreaches, hcomplete⟩ := Pause.exists_reaches_of_run_done h
    have hanswered := hreaches.answered hcomplete
    exact ⟨hanswered, hanswered.input_eq_result_iff⟩
  · obtain ⟨answer, hrun, rfl⟩ := exists_run_of_attempt h
    rw [runWhole_eq_run hgroup] at hrun
    obtain ⟨hreaches, hcomplete⟩ := Pause.exists_reaches_of_run_done hrun
    exact ⟨answer, hreaches.answered hcomplete, rfl⟩

/-- A plan of which one step is done, run to its end, and then once more as a step. -/
theorem answer_of_run_twice :
    let say (text : String) : Function Unit := .native "text" text "" [] fun _ vars =>
      pure (vars.setInput text)
    let p := (ofSteps "goal" [(ofFunction (say "one")).withOutputs ["x"],
      (ofFunction (say "two")).withOutputs ["x"]]).withOutputs ["x"]
    let started := (runNext (fun _ _ => none) .empty p .none (.start ())).2
    let ran := run (fun _ _ => none) true started.1 (.ofInput "asked") .none started.2
    let outer := (PlanHead.fresh planSkill "" "outer")
    let again := outer.attempt ran.2.1 (runWhole (fun _ _ => none) ran.2.1) (.ofInput "asked")
      .none ran.2.2
    started.1.cursor = 1 ∧ started.1.hasNext = true ∧ started.1.declaresInput = false ∧
      (∃ vars', ran.1 = .done vars' ∧ Answered started.1 (.ofInput "asked") ran.2.1 vars' ∧
        vars'.input = ran.2.1.result) ∧
      ran.2.1.result = "one\ntwo" ∧ ran.2.1.hasNext = false ∧
      ∃ head' answer, again.1 = .done head' ∧ ran.2.1.isCall = false ∧
        answer = outer.stepVariables (.ofInput "asked") ran.2.1 ∧
        head' = outer.commit answer ran.2.1.outputs := by
  intro say p started ran outer again
  obtain ⟨vars', hran⟩ := Exit.isDone_iff.1 (by decide +kernel : ran.1.isDone = true)
  obtain ⟨head', hagain⟩ := Exit.isDone_iff.1 (by decide +kernel : again.1.isDone = true)
  have hnext : started.1.hasNext = true := by decide +kernel
  have hinput : started.1.declaresInput = false := by decide +kernel
  have hdone : ran.2.1.hasNext = false := by decide +kernel
  have hgroup : ran.2.1.isCall = false := by decide +kernel
  obtain ⟨hanswered, _⟩ := (answer_of_run (fun _ _ => none) started.1 ran.2.1 .none started.2
    ran.2.2).1 true (.ofInput "asked") vars' (by rw [← hran])
  obtain ⟨answer, hstep, hcommit⟩ := (answer_of_run (fun _ _ => none) ran.2.1 again.2.1 .none
    ran.2.2 again.2.2).2 outer head' (.ofInput "asked") hgroup (by rw [← hagain])
  exact ⟨by decide +kernel, hnext, hinput,
    ⟨vars', hran, hanswered, hanswered.input_eq_result hnext hinput⟩, by decide +kernel, hdone,
    head', answer, hagain, hgroup, (hstep.idle hdone).1, hcommit⟩

/-- A plan that is run again when it is done answers with what it was asked, also as a step, and
an output with the name of the main slot hides what was gathered. -/
theorem answer_apart_from_result :
    let say (text : String) : Function Unit := .native "text" text "" [] fun _ vars =>
      pure (vars.setInput text)
    let scope : Scope Unit := fun _ _ => none
    let p := ofSteps "goal" [ofFunction (say "answer")]
    let first := run scope false p (.ofInput "first") .none (.start ())
    let second := run scope false first.2.1 (.ofInput "second") .none first.2.2
    let outer := run scope false (ofSteps "outer" [first.2.1]) (.ofInput "second") .none first.2.2
    let q := (ofSteps "goal" [(ofFunction (say "one")).withOutputs ["input"],
      (ofFunction (say "two")).withOutputs ["input"]]).withOutputs ["input"]
    let gathered := run scope false q .empty .none (.start ())
    (first.1.map Variables.input = .done "answer" ∧ first.2.1.result = "answer") ∧
      (second.1.map Variables.input = .done "second" ∧ second.2.1.result = "answer") ∧
      (outer.1.map Variables.input = .done "second" ∧ outer.2.1.steps.map result = ["answer"]) ∧
      gathered.1.map Variables.input = .done "two" ∧ gathered.2.1.result = "one\ntwo" := by
  refine ⟨⟨?_, ?_⟩, ⟨?_, ?_⟩, ⟨?_, ?_⟩, ?_, ?_⟩ <;> decide +kernel

end Plan

end PromptPlan
