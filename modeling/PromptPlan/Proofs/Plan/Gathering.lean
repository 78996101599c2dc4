import PromptPlan.Proofs.Text.Trim
import PromptPlan.Proofs.Plan.Course

/-!
# What a plan gathers

The answers of the steps that declare an output of their plan are gathered under `PLAN.RESULT`,
one under the other. The text is made anew for each of them: it is trimmed, and a line break and
the answer, trimmed as well, are put behind it, or the answer takes its place if nothing is left
of it. So a blank answer leaves no trace as soon as another one follows, and what has been
gathered are the answers that are not blank, with line breaks between them. A blank answer that
comes last is seen, because its line break is cut off only with the next answer.

This is a law about what was answered and not about how the plan was run. A plan may be worked
on over any number of runs, step by step or to the end, under changing limits and in changing
worlds, and steps may come to nothing in between (`Progress`).
-/

namespace PromptPlan

variable {σ : Type}

/-! ### Texts under each other -/

/-- The texts that are not empty, with line breaks between them. -/
def joined (values : List String) : String :=
  "\n".intercalate (values.filter (· ≠ ""))

/-- What is gathered of trimmed texts: if the last one is empty there is a line break too many,
unless all of them are. -/
def gathered (values : List String) : String :=
  if values.getLast? = some "" ∧ joined values ≠ "" then joined values ++ "\n" else joined values

theorem joined_concat_empty (values : List String) : joined (values ++ [""]) = joined values := by
  simp [joined]

theorem intercalate_ne_empty {pieces : List String} (hne : pieces ≠ [])
    (hpieces : ∀ piece ∈ pieces, piece ≠ "") : "\n".intercalate pieces ≠ "" := by
  cases pieces with
  | nil => exact absurd rfl hne
  | cons piece rest =>
      cases rest with
      | nil =>
          rw [String.intercalate_singleton]
          exact hpieces piece List.mem_cons_self
      | cons next rest =>
          rw [String.intercalate_cons_cons]
          intro hempty
          have hchars := congrArg String.toList hempty
          simp at hchars

theorem joined_concat {value : String} (hvalue : value ≠ "") (values : List String) :
    joined (values ++ [value]) =
      if joined values = "" then value else joined values ++ "\n" ++ value := by
  have hfilter : (values ++ [value]).filter (· ≠ "") = values.filter (· ≠ "") ++ [value] := by
    simp [hvalue]
  rw [joined, hfilter]
  by_cases hnone : values.filter (· ≠ "") = []
  · rw [joined, hnone, List.nil_append, String.intercalate_nil, if_pos rfl,
      String.intercalate_singleton]
  · have hsome : joined values ≠ "" :=
      intercalate_ne_empty hnone fun piece hpiece => by simpa using (List.mem_filter.1 hpiece).2
    rw [String.intercalate_append_of_ne_nil hnone (List.cons_ne_nil _ _),
      String.intercalate_singleton, if_neg hsome, joined]

theorem trimmed_joined {values : List String} (h : ∀ value ∈ values, Text.Trimmed value.toList) :
    Text.Trimmed (joined values).toList := by
  induction values using List.reverseRecOn with
  | nil => simp [joined, Text.Trimmed]
  | append_singleton values value ih =>
      have hvalues := ih fun other hother => h other (List.mem_append_left _ hother)
      have hvalue := h value (List.mem_append_right _ (List.mem_singleton.2 rfl))
      by_cases hempty : value = ""
      · rwa [hempty, joined_concat_empty]
      · rw [joined_concat hempty]
        split
        · exact hvalue
        · rename_i hsome
          rw [String.toList_append, String.toList_append]
          exact hvalues.append (by simpa using hsome) hvalue (by simpa using hempty) _

theorem trim_gathered {values : List String} (h : ∀ value ∈ values, Text.Trimmed value.toList) :
    Text.trim (gathered values) = joined values := by
  have hbreak : Text.IsBlanks "\n".toList := Text.isBlanks_cons.2 ⟨by decide, Text.isBlanks_nil⟩
  rw [gathered]
  split
  · exact Text.trim_append_blanks (trimmed_joined h) hbreak
  · exact Text.trim_eq_self (trimmed_joined h)

/-- One more text, put behind what was gathered. -/
theorem gather_gathered {values : List String} (h : ∀ value ∈ values, Text.Trimmed value.toList)
    (value : String) : PlanHead.gather (gathered values) value = gathered (values ++ [value]) := by
  rw [PlanHead.gather, trim_gathered h, gathered, List.getLast?_concat]
  by_cases hempty : value = ""
  · rw [hempty, joined_concat_empty]
    by_cases hnone : joined values = "" <;> simp [hnone]
  · rw [joined_concat hempty]
    by_cases hnone : joined values = "" <;> simp [hnone, hempty]

/-- A text is not the same with a line break behind it. -/
theorem gathered_eq_joined_iff {values : List String} :
    gathered values = joined values ↔ (values.getLast? = some "" → joined values = "") := by
  rw [gathered]
  split
  · rename_i hblank
    refine ⟨fun heq => ?_, fun hjoined => absurd (hjoined hblank.1) hblank.2⟩
    have hlength := congrArg String.length heq
    simp at hlength
  · rename_i hnot
    exact ⟨fun _ hlast => by_contra fun hsome => hnot ⟨hlast, hsome⟩, fun _ => rfl⟩

/-- Where nothing was gathered yet, it reads as what is gathered of nothing. -/
theorem getD_gathered (values : List String) :
    (if values = [] then none else some (gathered values)).getD "" = gathered values := by
  split
  · rename_i hnone
    rw [hnone]
    rfl
  · rfl

/-! ### What a commit gathers -/

/-- An answer that was taken into a state, with the outputs that its step declares. -/
structure StepAnswer where
  outputs : List String
  vars : Variables

namespace PlanHead

/-- What answers contribute to the gathered result. -/
def contributions (h : PlanHead) (answers : List StepAnswer) : List String :=
  (answers.filter fun answer => h.contributes answer.outputs).map fun answer =>
    Text.trim answer.vars.input

theorem contributions_concat (h : PlanHead) (answers : List StepAnswer) (answer : StepAnswer) :
    h.contributions (answers ++ [answer]) = h.contributions answers ++
      if h.contributes answer.outputs then [Text.trim answer.vars.input] else [] := by
  rw [contributions, contributions, List.filter_append, List.map_append]
  cases hcontributes : h.contributes answer.outputs <;> simp [hcontributes]

theorem trimmed_contributions {h : PlanHead} {answers : List StepAnswer} :
    ∀ value ∈ h.contributions answers, Text.Trimmed value.toList := by
  intro value hvalue
  obtain ⟨answer, _, rfl⟩ := List.mem_map.1 hvalue
  exact Text.trimmed_trim _

/-- What a commit leaves under `PLAN.RESULT` if the step does not write there itself. -/
theorem get?_commit_resultSlot (h : PlanHead) (answer : Variables) {outputs : List String}
    (houtputs : ∀ output ∈ outputs, Text.lower output ≠ Text.lower resultSlot) :
    (h.commit answer outputs).state.get? resultSlot =
      if h.contributes outputs then
        some (gather ((h.state.get? resultSlot).getD "") (Text.trim answer.input))
      else h.state.get? resultSlot := by
  have hslots : Text.lower mainSlot ≠ Text.lower resultSlot := by decide +kernel
  have hinput : (h.state.setInput (Text.trim answer.input)).get? resultSlot =
      h.state.get? resultSlot := by
    rw [Variables.setInput, Variables.get?_set, if_neg hslots]
  rw [commit]
  refine (Variables.get?_foldl_set_of_not_output houtputs _ _).trans ?_
  split
  · rw [Variables.get?_set_self, hinput]
  · exact hinput

end PlanHead

namespace Plan

/-! ### Progress -/

/-- The outputs of the steps ahead, step by step. -/
def aheadOutputs : Plan σ → List (List String)
  | .call head _ finished => if finished then [] else [head.outputs]
  | .group _ _ ahead => ahead.map outputs

/-- A plan is worked on, one step after another: its next step comes to nothing, or it ends with
an answer and is committed. -/
inductive Progress (p : Plan σ) : List StepAnswer → Plan σ → Prop
  | start : Progress p [] p
  | refused {answers : List StepAnswer} {q : Plan σ} {scope : Scope σ} {caller : Variables}
      {limits : Limits} {w : World σ} :
      Progress p answers q → (runNext scope caller q limits w).1.isDone = false →
        Progress p answers (runNext scope caller q limits w).2.1
  | taken {answers : List StepAnswer} {q step r : Plan σ} {answer : Variables} :
      Progress p answers q → Taken q step answer r →
        Progress p (answers ++ [⟨step.outputs, answer⟩]) r

/-- A step that comes to nothing leaves the head, the cursor and the outputs ahead. -/
theorem spared_of_runNext {q : Plan σ} {scope : Scope σ} {caller : Variables} {limits : Limits}
    {w : World σ} (h : (runNext scope caller q limits w).1.isDone = false) :
    (runNext scope caller q limits w).2.1.head = q.head ∧
      (runNext scope caller q limits w).2.1.cursor = q.cursor ∧
      (runNext scope caller q limits w).2.1.aheadOutputs = q.aheadOutputs := by
  have hspared := (failure_of_runNext h).spared
  refine ⟨hspared.head_eq, hspared.cursor_eq, ?_⟩
  cases q with
  | call head function finished => rw [hspared.of_call rfl]
  | group head past ahead =>
      cases ahead with
      | nil => cases h
      | cons step rest =>
          have houtputs := outputs_attempt scope head step caller limits w
          rcases hattempt : head.attempt step (runWhole scope step) caller limits w with
            ⟨exit, left, after⟩
          rw [hattempt] at houtputs
          rw [runNext_group hattempt] at h ⊢
          rw [Exit.isDone_map] at h
          rw [stepAfter_of_not_done h, aheadOutputs, List.map_cons, houtputs]
          rfl

variable {p q step r : Plan σ} {answer : Variables} {answers : List StepAnswer}

theorem Taken.cursor_eq (h : Taken p step answer q) : q.cursor = p.cursor + 1 := by
  rcases h.exists_eq with ⟨head, function, rfl, rfl, rfl⟩ | ⟨head, past, rest, left, rfl, _, rfl⟩
  · rfl
  · simp [cursor]

theorem Taken.aheadOutputs_eq (h : Taken p step answer q) :
    p.aheadOutputs = step.outputs :: q.aheadOutputs := by
  rcases h.exists_eq with ⟨head, function, rfl, rfl, rfl⟩ | ⟨head, past, rest, left, rfl, _, rfl⟩
  · rfl
  · rfl

theorem Progress.outputs_eq (h : Progress p answers q) : q.outputs = p.outputs := by
  induction h with
  | start => rfl
  | refused _ hfails ih => rw [outputs, (spared_of_runNext hfails).1, ← ih, outputs]
  | taken _ htaken ih =>
      rw [outputs, htaken.head_eq, ← ih]
      rfl

theorem Progress.cursor_eq (h : Progress p answers q) : q.cursor = p.cursor + answers.length := by
  induction h with
  | start => rfl
  | refused _ hfails ih => rw [(spared_of_runNext hfails).2.1, ih]
  | taken _ htaken ih => rw [htaken.cursor_eq, ih, List.length_append, List.length_singleton,
      Nat.add_assoc]

/-- The steps that were committed are the first of those that were ahead, in order. -/
theorem Progress.aheadOutputs_eq (h : Progress p answers q) :
    answers.map StepAnswer.outputs ++ q.aheadOutputs = p.aheadOutputs := by
  induction h with
  | start => rfl
  | refused _ hfails ih => rw [(spared_of_runNext hfails).2.2, ih]
  | taken _ htaken ih =>
      rw [← ih, htaken.aheadOutputs_eq, List.map_append, List.append_assoc]
      rfl

/-- What is under `PLAN.RESULT`, if only gathering writes there. -/
theorem Progress.get?_resultSlot (h : Progress p answers q)
    (hunset : p.head.state.get? resultSlot = none)
    (hfree : ∀ outputs ∈ p.aheadOutputs, ∀ output ∈ outputs,
      Text.lower output ≠ Text.lower resultSlot) :
    q.head.state.get? resultSlot = if p.head.contributions answers = [] then none
      else some (gathered (p.head.contributions answers)) := by
  induction h with
  | start => exact hunset
  | refused _ hfails ih => rw [(spared_of_runNext hfails).1, ih]
  | @taken answers q step r answer hbefore htaken ih =>
      have hstep : step.outputs ∈ p.aheadOutputs := by
        rw [← hbefore.aheadOutputs_eq, htaken.aheadOutputs_eq]
        simp
      have hcontributes : q.head.contributes step.outputs = p.head.contributes step.outputs := by
        have houtputs : q.head.outputs = p.head.outputs := hbefore.outputs_eq
        rw [PlanHead.contributes, houtputs, PlanHead.contributes]
      rw [htaken.head_eq, PlanHead.get?_commit_resultSlot _ _ (hfree _ hstep), hcontributes,
        PlanHead.contributions_concat, ih, getD_gathered,
        gather_gathered PlanHead.trimmed_contributions]
      split
      · simp
      · rw [List.append_nil]

/-! ### Runs make progress -/

theorem Progress.reaches {scope : Scope σ} {cancellable : Bool} {limits : Limits} {a b : Pause σ}
    (h : Progress p answers a.plan) (hreaches : Pause.Reaches scope cancellable limits a b) :
    ∃ later, Progress p (answers ++ later) b.plan := by
  induction hreaches with
  | refl => exact ⟨[], by rwa [List.append_nil]⟩
  | tail _ hlast ih =>
      obtain ⟨later, hlater⟩ := ih
      obtain ⟨step, answer, htaken⟩ := hlast.taken
      refine ⟨later ++ [⟨step.outputs, answer⟩], ?_⟩
      rw [← List.append_assoc]
      exact .taken hlater htaken

theorem Progress.visit (h : Progress p answers q) (visit : Visit σ) :
    ∃ later, Progress p (answers ++ later) (visit.left q) := by
  obtain ⟨operation, scope, limits, w⟩ := visit
  cases operation with
  | next caller =>
      change ∃ later, Progress p (answers ++ later) (runNext scope caller q limits w).2.1
      cases hexit : (runNext scope caller q limits w).1.isDone with
      | false => exact ⟨[], by rw [List.append_nil]; exact .refused h hexit⟩
      | true =>
          cases hnext : q.hasNext with
          | false =>
              rw [runNext_of_complete hnext]
              exact ⟨[], by rwa [List.append_nil]⟩
          | true =>
              rcases hrun : runNext scope caller q limits w with ⟨exit, left, after⟩
              rw [hrun] at hexit
              obtain ⟨⟨⟩, rfl⟩ := Exit.isDone_iff.1 hexit
              obtain ⟨step, answer, htaken⟩ := exists_taken_of_runNext hnext hrun
              exact ⟨[_], .taken h htaken⟩
  | drain cancellable caller =>
      obtain ⟨b, hreaches, hending⟩ := Pause.exists_ending scope cancellable q caller limits w
      obtain ⟨later, hlater⟩ := Progress.reaches (a := ⟨q, caller, w⟩) h hreaches
      change ∃ later, Progress p (answers ++ later) (run scope cancellable q caller limits w).2.1
      refine ⟨later, ?_⟩
      rcases hending.left_eq with hleft | ⟨caller', limits', w', hexit, hleft⟩
      · rwa [hleft]
      · rw [← hleft]
        exact .refused hlater hexit

theorem Progress.leftBy (h : Progress p answers q) (visits : List (Visit σ)) :
    ∃ later, Progress p (answers ++ later) (q.leftBy visits) := by
  induction visits generalizing answers q with
  | nil => exact ⟨[], by rwa [List.append_nil]⟩
  | cons visit visits ih =>
      obtain ⟨first, hfirst⟩ := h.visit visit
      obtain ⟨later, hlater⟩ := ih hfirst
      exact ⟨first ++ later, by rwa [← List.append_assoc]⟩

/-- **What a plan gathers.** If `PLAN.RESULT` is not set at the start and is no output of a step,
then it holds, whatever is done with the plan and after each step that is committed on the way,
what the answers so far have contributed: those of the first steps, in order and each once. It
is not set before there is a contribution. It is the join of the contributions that are not
blank unless the last one is blank and another one is not; then there is one line break more. -/
theorem result_of_progress (p : Plan σ) (hunset : p.head.state.get? resultSlot = none)
    (hfree : ∀ outputs ∈ p.aheadOutputs, ∀ output ∈ outputs,
      Text.lower output ≠ Text.lower resultSlot) :
    (∀ visits : List (Visit σ), ∃ answers, Progress p answers (p.leftBy visits)) ∧
      (∀ (visits : List (Visit σ)) scope cancellable limits vars w b,
        Pause.Reaches scope cancellable limits ⟨p.leftBy visits, vars, w⟩ b →
          ∃ answers, Progress p answers b.plan) ∧
      ∀ answers q, Progress p answers q →
        q.cursor = p.cursor + answers.length ∧
          answers.map StepAnswer.outputs ++ q.aheadOutputs = p.aheadOutputs ∧
          q.head.state.get? resultSlot = (if p.head.contributions answers = [] then none
            else some (gathered (p.head.contributions answers))) ∧
          ((q.head.state.get? resultSlot).getD "" = joined (p.head.contributions answers) ↔
            ((p.head.contributions answers).getLast? = some "" →
              joined (p.head.contributions answers) = "")) := by
  have hvisits : ∀ visits : List (Visit σ), ∃ answers, Progress p answers (p.leftBy visits) :=
    fun visits => by simpa using Progress.start.leftBy visits
  refine ⟨hvisits, fun visits scope cancellable limits vars w b hreaches => ?_,
    fun answers q h => ?_⟩
  · obtain ⟨answers, hprogress⟩ := hvisits visits
    obtain ⟨later, hlater⟩ := Progress.reaches (a := ⟨_, vars, w⟩) hprogress hreaches
    exact ⟨_, hlater⟩
  · have hresult := h.get?_resultSlot hunset hfree
    refine ⟨h.cursor_eq, h.aheadOutputs_eq, hresult, ?_⟩
    rw [hresult, getD_gathered]
    exact gathered_eq_joined_iff

/-- A plan that is run by hand at first and then to its end, with a blank answer on the way. -/
theorem result_of_progress_by_hand :
    let say (text : String) : Function Unit := .native "text" "say" "" [] fun _ vars =>
      pure (vars.setInput text)
    let p := (ofSteps "goal" [(ofFunction (say "one ")).withOutputs ["A"],
      (ofFunction (say " ")).withOutputs ["a"], ofFunction (say "aside"),
      (ofFunction (say "two")).withOutputs ["b", "a"]]).withOutputs ["a"]
    let next : Visit Unit := ⟨.next .empty, fun _ _ => none, .none, .start ()⟩
    let drain : Visit Unit := ⟨.drain true .empty, fun _ _ => none, .none, .start ()⟩
    let q := p.leftBy [next, drain]
    p.head.state.get? resultSlot = none ∧
      (∀ outputs ∈ p.aheadOutputs, ∀ output ∈ outputs,
        Text.lower output ≠ Text.lower resultSlot) ∧
      ∃ answers, Progress p answers q ∧ answers.length = 4 ∧
        answers.map StepAnswer.outputs = [["A"], ["a"], [], ["b", "a"]] ∧
        q.head.state.get? resultSlot = some "one\ntwo" ∧
        gathered (p.head.contributions answers) = "one\ntwo" := by
  intro say p next drain q
  have hunset : p.head.state.get? resultSlot = none := by decide +kernel
  have hfree : ∀ outputs ∈ p.aheadOutputs, ∀ output ∈ outputs,
      Text.lower output ≠ Text.lower resultSlot := by decide +kernel
  obtain ⟨hvisits, -, hlaw⟩ := result_of_progress p hunset hfree
  obtain ⟨answers, hprogress⟩ := hvisits [next, drain]
  obtain ⟨hcursor, houtputs, hresult, -⟩ := hlaw answers q hprogress
  have hleft : q.head.state.get? resultSlot = some "one\ntwo" := by decide +kernel
  have hcount : q.cursor = p.cursor + 4 := by decide +kernel
  have hahead : q.aheadOutputs = [] := by decide +kernel
  have hdeclared : p.aheadOutputs = [["A"], ["a"], [], ["b", "a"]] := by decide +kernel
  rw [hahead, List.append_nil, hdeclared] at houtputs
  refine ⟨hunset, hfree, answers, hprogress, by omega, houtputs, hleft, ?_⟩
  rw [hleft] at hresult
  split at hresult
  · cases hresult
  · exact (Option.some.inj hresult).symm

/-- A blank answer leaves a line break behind when it is the last one, and no trace when another
one follows. -/
theorem result_behind_blank :
    let say (text : String) : Plan Unit := (ofFunction (.native "text" "say" "" [] fun _ vars =>
      pure (vars.setInput text))).withOutputs ["x"]
    let result (texts : List String) : Option String :=
      (run (fun _ _ => none) false ((ofSteps "goal" (texts.map say)).withOutputs ["x"]) .empty .none
        (.start ())).2.1.head.state.get? resultSlot
    (result ["word", " "] = some "word\n" ∧ joined (["word", " "].map Text.trim) = "word") ∧
      (result ["word", " ", "more"] = some "word\nmore" ∧
        joined (["word", " ", "more"].map Text.trim) = "word\nmore") := by
  refine ⟨⟨?_, ?_⟩, ?_, ?_⟩ <;> decide +kernel

end Plan

end PromptPlan
