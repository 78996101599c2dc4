import PromptPlan.Proofs.Plan.Gathering
import PromptPlan.Proofs.Text.Case

/-!
# Which answers are gathered

An answer is gathered if its step declares an output that the plan declares as well. Whether two
names are the same is asked twice on the way, and answered in two ways. The outputs are written
into the state, where two spellings are one variable if their lower-case forms are equal. The
question whether to gather looks at the two lists of names, and takes spellings for the same if
they are equal up to the case of ASCII letters.

The second way is the finer one, so what is gathered comes from a step that writes a variable of
the plan. What it misses are spellings that have the same lower-case form and differ beyond ASCII:
a plan that declares `é` has what a step writes as `É`, and does not gather it. Between names that
are spelled in ASCII there is no difference.
-/

namespace PromptPlan

namespace PlanHead

/-- A step gathers if an output of it and one of the plan have the same lower-case form and the
same characters beyond ASCII. -/
theorem contributes_iff {h : PlanHead} {outputs : List String} :
    h.contributes outputs = true ↔ ∃ output ∈ outputs, ∃ declared ∈ h.outputs,
      Text.lower output = Text.lower declared ∧
        Text.beyondAscii output = Text.beyondAscii declared := by
  rw [contributes, List.any_eq_true]
  refine exists_congr fun output => and_congr_right fun _ => ?_
  rw [List.any_eq_true]
  refine exists_congr fun declared => and_congr_right fun _ => ?_
  rw [Text.sameAscii_iff_lower, eq_comm, @eq_comm _ (Text.beyondAscii declared)]

theorem contributes_iff_of_isAscii {h : PlanHead} {outputs : List String}
    (houtputs : ∀ output ∈ outputs, Text.IsAscii output.toList)
    (hdeclared : ∀ declared ∈ h.outputs, Text.IsAscii declared.toList) :
    h.contributes outputs = true ↔
      ∃ output ∈ outputs, ∃ declared ∈ h.outputs, Text.lower output = Text.lower declared := by
  rw [contributes, List.any_eq_true]
  refine exists_congr fun output => and_congr_right fun houtput => ?_
  rw [List.any_eq_true]
  refine exists_congr fun declared => and_congr_right fun hmem => ?_
  rw [Text.sameAscii_iff, Text.lower_of_isAscii (houtputs output houtput),
    Text.lower_of_isAscii (hdeclared declared hmem), eq_comm]

theorem get?_commit_resultSlot_of_output (h : PlanHead) (answer : Variables) {outputs : List String}
    (houtputs : ∃ output ∈ outputs, Text.lower output = Text.lower resultSlot) :
    (h.commit answer outputs).state.get? resultSlot =
      some ((answer.filled? resultSlot).getD (Text.trim answer.input)) := by
  rw [commit]
  refine Variables.get?_foldl_set_of_output houtputs (fun output hname => ?_) _
  rw [Variables.filled?, answer.get?_congr hname, Variables.filled?]

/-- **Which answers are gathered.** Two names are the same for the lists of outputs if they have
the same lower-case form, and so are one variable, and have the same characters beyond ASCII. A
step gathers if it and its plan have outputs that are the same in this sense; if all the names are
in ASCII, this is to say that they have a variable in common. So after a step, `PLAN.RESULT` holds
what the step declares of that name, and otherwise what has been gathered, with the answer behind
it if the step gathers. -/
theorem resultSlot_of_commit (h : PlanHead) (answer : Variables) (outputs : List String) :
    (∀ a b : String, Text.sameAscii a b = true ↔
        Text.lower a = Text.lower b ∧ Text.beyondAscii a = Text.beyondAscii b) ∧
      (h.contributes outputs = true ↔ ∃ output ∈ outputs, ∃ declared ∈ h.outputs,
        Text.lower output = Text.lower declared ∧
          Text.beyondAscii output = Text.beyondAscii declared) ∧
      ((∀ output ∈ outputs, Text.IsAscii output.toList) →
        (∀ declared ∈ h.outputs, Text.IsAscii declared.toList) →
        (h.contributes outputs = true ↔
          ∃ output ∈ outputs, ∃ declared ∈ h.outputs, Text.lower output = Text.lower declared)) ∧
      (h.commit answer outputs).state.get? resultSlot =
        if ∃ output ∈ outputs, Text.lower output = Text.lower resultSlot then
          some ((answer.filled? resultSlot).getD (Text.trim answer.input))
        else if h.contributes outputs then
          some (gather ((h.state.get? resultSlot).getD "") (Text.trim answer.input))
        else h.state.get? resultSlot := by
  refine ⟨fun a b => Text.sameAscii_iff_lower, contributes_iff, contributes_iff_of_isAscii, ?_⟩
  split
  case isTrue houtputs => exact h.get?_commit_resultSlot_of_output answer houtputs
  case isFalse houtputs =>
    refine h.get?_commit_resultSlot answer fun output hmem hname => ?_
    exact houtputs ⟨output, hmem, hname⟩

/-- A plan that has gathered `one` and declares `B`, after a step that declares `a` and `b`. -/
theorem resultSlot_of_commit_ascii :
    let h : PlanHead := ⟨"", "", "", .ofPairs [(resultSlot, "one")], .empty, ["B"], none⟩
    let outputs := ["a", "b"]
    (h.contributes outputs = true ↔
        ∃ output ∈ outputs, ∃ declared ∈ h.outputs, Text.lower output = Text.lower declared) ∧
      (h.commit (.ofInput "two ") outputs).state.get? resultSlot = some "one\ntwo" := by
  intro h outputs
  have hascii : ∀ {names : List String},
      (names.all fun name => name.toList.all fun c => decide (c.toNat < 128)) = true →
        ∀ name ∈ names, Text.IsAscii name.toList :=
    fun hall name hname => Text.isAscii_of_all (List.all_eq_true.1 hall name hname)
  obtain ⟨-, -, hcontributes, hslot⟩ := h.resultSlot_of_commit (.ofInput "two ") outputs
  refine ⟨hcontributes (hascii (by decide +kernel)) (hascii (by decide +kernel)), ?_⟩
  rw [hslot]
  decide +kernel

end PlanHead

namespace Plan

/-- A step that writes `É` writes the variable that its plan declares as `é`, and is not gathered;
the same goes for the Kelvin sign and `k`. In ASCII case makes no difference. -/
theorem accented_output_ungathered :
    let say (output : String) : Plan Unit := (ofFunction (.native "text" "say" "" [] fun _ vars =>
      pure (vars.setInput "word"))).withOutputs [output]
    let state (declared output : String) : Variables :=
      (run (fun _ _ => none) false ((ofSteps "goal" [say output]).withOutputs [declared]) .empty
        .none (.start ())).2.1.head.state
    (Text.lower "\u00C9" = Text.lower "\u00E9" ∧
        (state "\u00E9" "\u00C9").get? "\u00E9" = some "word" ∧
        (state "\u00E9" "\u00C9").get? resultSlot = none) ∧
      (Text.lower "\u212A" = Text.lower "k" ∧
        (state "k" "\u212A").get? "k" = some "word" ∧
        (state "k" "\u212A").get? resultSlot = none) ∧
      (state "e" "E").get? "e" = some "word" ∧ (state "e" "E").get? resultSlot = some "word" := by
  refine ⟨⟨?_, ?_, ?_⟩, ⟨?_, ?_, ?_⟩, ?_, ?_⟩ <;> decide +kernel

end Plan

end PromptPlan
