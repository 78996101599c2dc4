import PromptPlan.Proofs.Plan.Relay

/-!
# What a run shows to its caller

After each step a run shows the state of the plan to the variables of the caller: the result in
the main slot, and the outputs that are declared. A commit writes into the state under the main
slot, under `PLAN.RESULT`, and under the outputs of the step. So under every other name the
variables keep up with the state, if they ever did (`keptIn_publish_commit`): what is written
there is an output, and is shown.

Conversely, all that a run takes from the variables of its caller it takes by look-up, after the
state has been added to them. Two callers that look the same then are handed the same run
(`sameEnd_run`), in whatever order and spelling they have their variables.
-/

namespace PromptPlan

variable {σ : Type}

/-! ### What a commit and a publication do to look-up -/

namespace Variables

/-- What `v` has under a name, if anything, `state` has there too. -/
def KeptIn (v state : Variables) (name : String) : Prop :=
  v.get? name = none ∨ v.get? name = state.get? name

instance (v state : Variables) (name : String) : Decidable (v.KeptIn state name) :=
  inferInstanceAs (Decidable (_ ∨ _))

theorem keptIn_empty (state : Variables) (name : String) : empty.KeptIn state name := .inl rfl

theorem get?_merge_of_keptIn {v state : Variables} {name : String} (h : v.KeptIn state name) :
    (v.merge state false).get? name = state.get? name := by
  rw [get?_merge]
  rcases h with h | h
  · rw [h, Option.none_or]
  · rw [h, Option.or_self]

theorem get?_merge_eq {v v' : Variables} (hget : v'.get? = v.get?) (state : Variables) :
    (v'.merge state false).get? = (v.merge state false).get? := by
  funext name
  rw [get?_merge, get?_merge, hget]

theorem get?_foldl_set_of_not_output {outputs : List String} {name : String}
    (h : ∀ output ∈ outputs, Text.lower output ≠ Text.lower name) (value : String → String)
    (v : Variables) :
    (outputs.foldl (fun v output => v.set output (value output)) v).get? name = v.get? name := by
  induction outputs generalizing v with
  | nil => rfl
  | cons output outputs ih =>
      rw [List.foldl_cons, ih fun o ho => h o (List.mem_cons_of_mem output ho), get?_set,
        if_neg (h output List.mem_cons_self)]

/-- If all the names of a variable are written with one value, then it has that value. -/
theorem get?_foldl_set_of_output {outputs : List String} {name result : String}
    {value : String → String} (hmem : ∃ output ∈ outputs, Text.lower output = Text.lower name)
    (hvalue : ∀ output, Text.lower output = Text.lower name → value output = result)
    (v : Variables) :
    (outputs.foldl (fun v output => v.set output (value output)) v).get? name = some result := by
  induction outputs generalizing v with
  | nil => simp at hmem
  | cons output outputs ih =>
      rw [List.foldl_cons]
      by_cases hlater : ∃ later ∈ outputs, Text.lower later = Text.lower name
      · exact ih hlater _
      · have hname : Text.lower output = Text.lower name := by simpa [hlater] using hmem
        rw [get?_foldl_set_of_not_output fun later hmem hname => hlater ⟨later, hmem, hname⟩,
          get?_set, if_pos hname, hvalue output hname]

theorem get?_foldl_set_ne_none {outputs : List String} {name : String} {v : Variables}
    (h : (∃ output ∈ outputs, Text.lower output = Text.lower name) ∨ v.get? name ≠ none)
    (value : String → String) :
    (outputs.foldl (fun v output => v.set output (value output)) v).get? name ≠ none := by
  induction outputs generalizing v with
  | nil => simpa using h
  | cons output outputs ih =>
      rw [List.foldl_cons]
      refine ih ?_
      by_cases hname : Text.lower output = Text.lower name
      · exact .inr (by simp [get?_set, hname])
      · simpa [get?_set, hname] using h

end Variables

/-- A name that only outputs are written under: neither the main slot nor `PLAN.RESULT`. -/
structure Ordinary (name : String) : Prop where
  ne_mainSlot : Text.lower name ≠ Text.lower mainSlot
  ne_resultSlot : Text.lower name ≠ Text.lower resultSlot

namespace PlanHead

variable {h : PlanHead} {name : String}

theorem get?_commit_of_not_output (hname : Ordinary name) (answer : Variables)
    {outputs : List String} (houtputs : ∀ output ∈ outputs, Text.lower output ≠ Text.lower name) :
    (h.commit answer outputs).state.get? name = h.state.get? name := by
  rw [commit]
  refine (Variables.get?_foldl_set_of_not_output houtputs _ _).trans ?_
  have hinput : (h.state.setInput (Text.trim answer.input)).get? name = h.state.get? name := by
    rw [Variables.setInput, Variables.get?_set, if_neg (Ne.symm hname.ne_mainSlot)]
  split
  · rw [Variables.get?_set, if_neg (Ne.symm hname.ne_resultSlot), hinput]
  · exact hinput

/-- A commit takes nothing out of the state, and writes the main slot and the outputs. -/
theorem get?_commit_ne_none (answer : Variables) {outputs : List String}
    (hname : (∃ output ∈ outputs, Text.lower output = Text.lower name) ∨
      h.state.get? name ≠ none ∨ Text.lower name = Text.lower mainSlot) :
    (h.commit answer outputs).state.get? name ≠ none := by
  have hset : ∀ {v : Variables} {other value : String},
      v.get? name ≠ none → (v.set other value).get? name ≠ none := by
    intro v other value hv
    rw [Variables.get?_set]
    split
    · simp
    · exact hv
  rw [commit]
  refine Variables.get?_foldl_set_ne_none (hname.imp_right fun hname => ?_) _
  have hinput : (h.state.setInput (Text.trim answer.input)).get? name ≠ none := by
    rcases hname with hname | hname
    · exact hset hname
    · rw [Variables.setInput, Variables.get?_set, if_pos hname.symm]
      simp
  split
  · exact hset hinput
  · exact hinput

theorem any_lower_iff {outputs : List String} {name : String} :
    outputs.any (fun output => Text.lower output == Text.lower name) = true ↔
      ∃ output ∈ outputs, Text.lower output = Text.lower name := by
  simp only [List.any_eq_true, beq_iff_eq]

/-- A name that a plan or a step declares is shown as the state has it, if it has it at all. -/
theorem get?_publish (h : PlanHead) (declared : List String) (caller : Variables) (name : String) :
    (h.publish declared caller).get? name =
      if declared.any (fun output => Text.lower output == Text.lower name) = true then
        (h.state.get? name).or ((caller.setInput h.result).get? name)
      else (caller.setInput h.result).get? name := by
  rw [publish]
  generalize caller.setInput h.result = v
  induction declared generalizing v with
  | nil => rfl
  | cons output declared ih =>
      rw [List.foldl_cons, ih, List.any_cons]
      by_cases hname : Text.lower output = Text.lower name
      · rw [h.state.get?_congr hname]
        cases h.state.get? name <;> simp [Variables.get?_set, hname]
      · cases h.state.get? output <;> simp [Variables.get?_set, hname]

/-- Under an ordinary name the variables keep up with the state. -/
theorem keptIn_publish_commit {vars : Variables} (hname : Ordinary name)
    (hkept : vars.KeptIn h.state name) (answer : Variables) {outputs declared : List String}
    (hdeclared : outputs ⊆ declared) :
    ((h.commit answer outputs).publish declared (vars.merge h.state false)).KeptIn
      (h.commit answer outputs).state name := by
  have hcaller : ((vars.merge h.state false).setInput (h.commit answer outputs).result).get? name =
      h.state.get? name := by
    rw [Variables.setInput, Variables.get?_set, if_neg (Ne.symm hname.ne_mainSlot),
      Variables.get?_merge_of_keptIn hkept]
  refine .inr ?_
  rw [get?_publish, hcaller]
  by_cases houtput : ∃ output ∈ outputs, Text.lower output = Text.lower name
  · -- the step has written under the name, and what it has written is shown
    have hshown : ∃ output ∈ declared, Text.lower output = Text.lower name := by
      obtain ⟨output, hmem, hlower⟩ := houtput
      exact ⟨output, hdeclared hmem, hlower⟩
    rw [if_pos (any_lower_iff.2 hshown)]
    cases hstate : (h.commit answer outputs).state.get? name with
    | none => exact absurd hstate (get?_commit_ne_none answer (.inl houtput))
    | some value => rfl
  · have hstate : (h.commit answer outputs).state.get? name = h.state.get? name := by
      refine get?_commit_of_not_output hname answer fun output hmem hlower => ?_
      exact houtput ⟨output, hmem, hlower⟩
    rw [hstate, Option.or_self, ite_self]

/-! ### Callers that look the same

A step and a caller see of variables only what look-up shows of them, so variables can be compared
as functions from names to values. -/

theorem visible?_eq_of_get?_eq {caller caller' : Variables} (hget : caller'.get? = caller.get?) :
    h.visible? caller' = h.visible? caller := by
  funext name
  simp only [visible?, Variables.filled?, hget]

theorem get?_publish_eq {caller caller' : Variables} (hget : caller'.get? = caller.get?)
    (declared : List String) :
    (h.publish declared caller').get? = (h.publish declared caller).get? := by
  funext name
  simp only [get?_publish, Variables.setInput, Variables.get?_set, hget]

theorem attemptWatched_eq {step : Plan σ} {caller caller' : Variables}
    (hget : caller'.get? = caller.get?) (cancellable : Bool)
    (invoke : Variables → PlanRun σ Variables) :
    h.attemptWatched cancellable step invoke caller' =
      h.attemptWatched cancellable step invoke caller := by
  have hvars : h.stepVariables caller' step = h.stepVariables caller step :=
    stepVariables_congr (visible?_eq_of_get?_eq hget) step
  have hattempt : h.attempt step invoke caller' = h.attempt step invoke caller := by
    funext limits w
    rw [attempt, attempt, hvars]
  exact Plan.attemptWatched_congr hattempt cancellable

end PlanHead

/-- Two runs that end in the same way, with variables that look the same, and leave the same. -/
structure SameEnd (ran ran' : Exit Variables × Plan σ × World σ) : Prop where
  exit_eq : ran'.1.map Variables.get? = ran.1.map Variables.get?
  left_eq : ran'.2.1 = ran.2.1
  world_eq : ran'.2.2 = ran.2.2

namespace Plan

variable {scope : Scope σ} {cancellable : Bool} {limits : Limits} {w : World σ}

/-- The steps that are left run the same with variables that look the same once the state has
been added to them, if the steps after the first do so with variables that look the same. -/
theorem sameEnd_runSteps_cons {declared : List String} {rest : List (Plan σ)}
    (hrest : ∀ head past vars vars' w, vars'.get? = vars.get? →
      SameEnd (runSteps scope cancellable declared head past rest vars limits w)
        (runSteps scope cancellable declared head past rest vars' limits w))
    {head : PlanHead} {vars vars' : Variables}
    (hget : (vars'.merge head.state false).get? = (vars.merge head.state false).get?)
    (step : Plan σ) (past : List (Plan σ)) :
    SameEnd (runSteps scope cancellable declared head past (step :: rest) vars limits w)
      (runSteps scope cancellable declared head past (step :: rest) vars' limits w) := by
  rcases hrun : head.attemptWatched cancellable step (runWhole scope step)
    (vars.merge head.state false) limits w with ⟨exit, left, after⟩
  have hrun' := hrun
  rw [← PlanHead.attemptWatched_eq hget] at hrun'
  cases hexit : exit.isDone with
  | true =>
      obtain ⟨head', rfl⟩ := Exit.isDone_iff.1 hexit
      rw [runSteps_of_done hrun, runSteps_of_done hrun']
      exact hrest head' _ _ _ after (PlanHead.get?_publish_eq hget declared)
  | false =>
      rw [runSteps_of_not_done hrun hexit, runSteps_of_not_done hrun' hexit]
      refine ⟨?_, rfl, rfl⟩
      rw [Exit.map_map, Exit.map_map]
      exact Exit.map_congr_of_not_done hexit _ _

theorem sameEnd_runSteps {declared : List String} {ahead : List (Plan σ)} {head : PlanHead}
    {vars vars' : Variables} (hget : vars'.get? = vars.get?) (past : List (Plan σ)) :
    SameEnd (runSteps scope cancellable declared head past ahead vars limits w)
      (runSteps scope cancellable declared head past ahead vars' limits w) := by
  induction ahead generalizing head past vars vars' w with
  | nil => exact ⟨congrArg Exit.done hget, rfl, rfl⟩
  | cons step rest ih =>
      exact sameEnd_runSteps_cons (fun _ past _ _ _ hget => ih hget past)
        (Variables.get?_merge_eq hget head.state) step past

/-- A plan with something ahead does not tell variables apart that look the same once its state
has been added to them. -/
theorem sameEnd_run {p : Plan σ} {vars vars' : Variables} (hnext : p.hasNext = true)
    (hget : (vars'.merge p.head.state false).get? = (vars.merge p.head.state false).get?) :
    SameEnd (run scope cancellable p vars limits w) (run scope cancellable p vars' limits w) := by
  cases p with
  | group head past ahead =>
      cases ahead with
      | nil => cases hnext
      | cons step rest =>
          exact sameEnd_runSteps_cons (fun _ past _ _ _ hget => sameEnd_runSteps hget past) hget
            step past
  | call head function finished =>
      cases finished with
      | true => cases hnext
      | false =>
          rcases hrun : head.attemptWatched cancellable (.call head function false)
            (runWhole scope (.call head function false)) (vars.merge head.state false) limits w
            with ⟨exit, left, after⟩
          have hrun' := hrun
          have hget : (vars'.merge head.state false).get? =
              (vars.merge head.state false).get? := hget
          rw [← PlanHead.attemptWatched_eq hget] at hrun'
          rw [run_call hrun, run_call hrun']
          refine ⟨?_, rfl, rfl⟩
          rw [Exit.map_map, Exit.map_map]
          exact congrArg (exit.map ·) (funext fun head' => PlanHead.get?_publish_eq hget _)

end Plan

end PromptPlan
