import PromptPlan.Proofs.Journal
import PromptPlan.Proofs.Plan.Positions
import PromptPlan.Proofs.Plan.Running
import PromptPlan.Proofs.Text.Trim

/-!
# Plans that only pass on a text

A plan is *plain* when its nodes have nothing but their names and descriptions. All that its
steps get is then a text in the main slot, and all that they give is a text. Running such a
plan is a relay: its calls run one after another, and each is handed the trimmed answer of
the one before, or its own description where that answer is blank.

How the calls are grouped does not enter into a relay. A group is handed a text, and hands it
to its first step; its answer is that of its last step, already trimmed. This is said up to
the path in a failure, which names the groups that it passed through.
-/

namespace PromptPlan

variable {σ α β : Type}

/-! ### The cause of a failure -/

namespace Exit

/-- The end of a run with the path of its failure left out. -/
def cause (exit : Exit α) : Exit α :=
  exit.mapError Error.rootCause

theorem cause_map (f : α → β) (exit : Exit α) : (exit.map f).cause = exit.cause.map f :=
  (map_mapError f Error.rootCause exit).symm

theorem cause_mapError {f : Error → Error} (hf : ∀ e, (f e).rootCause = e.rootCause)
    (exit : Exit α) : (exit.mapError f).cause = exit.cause := by
  cases exit with
  | failed e => exact congrArg failed (hf e)
  | _ => rfl

theorem isDone_cause (exit : Exit α) : exit.cause.isDone = exit.isDone :=
  isDone_mapError _ exit

theorem cause_eq_done {exit : Exit α} {a : α} (h : exit.cause = .done a) : exit = .done a := by
  cases exit with
  | done b => exact h
  | failed e => cases h
  | interrupted => cases h
  | stuck => cases h

end Exit

namespace Run

theorem bind_of_not_done {x : Run σ α} {f : α → Run σ β} {limits : Limits} {w after : World σ}
    {exit : Exit α} (h : x limits w = (exit, after)) (hexit : exit.isDone = false) (g : α → β) :
    (x >>= f) limits w = (exit.map g, after) := by
  cases exit with
  | done a => cases hexit
  | failed e => exact bind_of_failed h
  | interrupted => exact bind_of_interrupted h
  | stuck => exact bind_of_stuck h

theorem exists_of_bind_eq_done {x : Run σ α} {f : α → Run σ β} {limits : Limits}
    {w after : World σ} {b : β} (h : (x >>= f) limits w = (.done b, after)) :
    ∃ a between, x limits w = (.done a, between) ∧ f a limits between = (.done b, after) := by
  rcases hx : x limits w with ⟨exit, between⟩
  cases exit with
  | done a => exact ⟨a, between, rfl, by rwa [bind_of_done hx] at h⟩
  | failed e => cases (bind_of_failed hx).symm.trans h
  | interrupted => cases (bind_of_interrupted hx).symm.trans h
  | stuck => cases (bind_of_stuck hx).symm.trans h

end Run

/-! ### Variables with a main slot only -/

namespace Variables

/-- No variable is set but perhaps the main slot. -/
def OnlyInput (v : Variables) : Prop :=
  ∀ name, Text.lower name ≠ Text.lower mainSlot → v.get? name = none

theorem onlyInput_empty : empty.OnlyInput :=
  fun _ _ => rfl

theorem OnlyInput.setInput {v : Variables} (h : v.OnlyInput) (value : String) :
    (v.setInput value).OnlyInput := by
  intro name hname
  rw [Variables.setInput, get?_set, if_neg (Ne.symm hname), h name hname]

theorem OnlyInput.merge {v other : Variables} (h : v.OnlyInput) (hother : other.OnlyInput) :
    (v.merge other false).OnlyInput := by
  intro name hname
  rw [get?_merge, h name hname, hother name hname]
  rfl

end Variables

/-! ### What a step is handed -/

/-- A head that has nothing but its names and its description. -/
structure PlanHead.Bare (head : PlanHead) : Prop where
  state_eq : head.state = .empty
  parameters_eq : head.parameters = .empty
  outputs_eq : head.outputs = []
  timeout_eq : head.timeout = none

namespace PlanHead

/-- A step sees of its plan and of the caller what look-up shows of them. -/
theorem stepVariables_congr {h h' : PlanHead} {caller caller' : Variables}
    (hvisible : h.visible? caller = h'.visible? caller') (step : Plan σ) :
    h.stepVariables caller step = h'.stepVariables caller' step := by
  have hexpand : h.expand caller = h'.expand caller' := by
    funext s
    rw [expand, expand, hvisible]
  have hdeclared : h.passDeclared caller = h'.passDeclared caller' := by
    funext vars parameter
    rw [passDeclared, passDeclared, hvisible]
  have hparameter : h.passParameter caller = h'.passParameter caller' := by
    funext vars p
    simp only [passParameter, hvisible, hexpand]
  have hinput : h.stepInput caller step = h'.stepInput caller' step := by
    rw [stepInput, stepInput, hvisible, hexpand]
  rw [stepVariables, stepVariables, hdeclared, hparameter, hinput]

/-- The variables of the caller and the state of a plan, when `s` is all that they have. -/
structure Carries (head : PlanHead) (vars : Variables) (s : String) : Prop where
  vars_only : vars.OnlyInput
  state_only : head.state.OnlyInput
  input_eq : vars.input = s
  state_eq : ∀ value, head.state.get? mainSlot = some value → value = s

variable {head : PlanHead} {vars : Variables} {s : String}

theorem Carries.start (hstate : head.state = .empty) (hvars : vars.OnlyInput) :
    head.Carries vars vars.input where
  vars_only := hvars
  state_only := by
    rw [hstate]
    exact Variables.onlyInput_empty
  input_eq := rfl
  state_eq := by
    rw [hstate]
    nofun

theorem Carries.visible?_eq (h : head.Carries vars s) :
    head.visible? (vars.merge head.state false) =
      (PlanHead.fresh "" "" "").visible? (.ofInput s) := by
  funext name
  by_cases hname : Text.lower name = Text.lower mainSlot
  · have hinput := h.input_eq
    have hstate := h.state_eq
    have hv : vars.get? mainSlot = some s ∨ vars.get? mainSlot = none ∧ s = "" := by
      rw [Variables.input] at hinput
      cases hget : vars.get? mainSlot with
      | none => exact .inr ⟨rfl, by simpa [hget, eq_comm] using hinput⟩
      | some value => exact .inl (by simpa [hget] using hinput)
    have hs : head.state.get? mainSlot = some s ∨ head.state.get? mainSlot = none := by
      cases hget : head.state.get? mainSlot with
      | none => exact .inr rfl
      | some value => exact .inl (congrArg some (hstate value hget))
    have hofInput : (Variables.ofInput s).get? mainSlot = some s := Variables.get?_set_self _ _ _
    -- the state has nothing to fall back on but what the caller has
    simp only [visible?, Variables.filled?, Variables.get?_congr _ hname, Variables.get?_merge,
      hofInput, fresh, Variables.get?_empty]
    rcases hv with hv | ⟨hv, rfl⟩
    · rcases hs with hs | hs <;> rw [hv, hs] <;> simp
    · rcases hs with hs | hs <;> rw [hv, hs] <;> rfl
  · have hmerged := (h.vars_only.merge h.state_only) name hname
    have hofInput := (Variables.onlyInput_empty.setInput s) name hname
    simp only [visible?, Variables.filled?, hmerged, h.state_only name hname]
    simp only [Variables.ofInput, hofInput, fresh, Variables.get?_empty]

/-- Once a step has answered `value`, it is all that the caller and the plan have. -/
theorem Carries.next (h : head.Carries vars s) (value : String) :
    let head' : PlanHead := { head with state := head.state.setInput value }
    head'.Carries (head'.publish [] (vars.merge head.state false)) value := by
  intro head'
  have hstate : head'.state.OnlyInput := h.state_only.setInput value
  have hslot : Text.lower resultSlot ≠ Text.lower mainSlot := by decide +kernel
  have hresult : head'.result = value := by
    rw [result, Variables.filled?, hstate resultSlot hslot]
    exact Variables.input_setInput _ _
  have hpublish : head'.publish [] (vars.merge head.state false) =
      (vars.merge head.state false).setInput value := by
    rw [publish, hresult]
    rfl
  refine ⟨?_, hstate, ?_, ?_⟩
  · rw [hpublish]
    exact (h.vars_only.merge h.state_only).setInput value
  · rw [hpublish, Variables.input_setInput]
  · intro value' hvalue
    rw [show head'.state.get? mainSlot = some value from Variables.get?_set_self _ _ _] at hvalue
    exact (Option.some.inj hvalue).symm

end PlanHead

namespace Plan

/-- The variables that a step is handed with a text. -/
def handed (step : Plan σ) (s : String) : Variables :=
  (PlanHead.fresh "" "" "").stepVariables (.ofInput s) step

theorem stepVariables_eq_handed {head : PlanHead} {vars : Variables} {s : String}
    (h : head.Carries vars s) (step : Plan σ) :
    head.stepVariables (vars.merge head.state false) step = step.handed s :=
  PlanHead.stepVariables_congr h.visible?_eq step

theorem handed_group {head : PlanHead} (h : head.parameters = .empty) (past ahead : List (Plan σ))
    (s : String) : (Plan.group head past ahead).handed s = .ofInput s := by
  have hinput : (PlanHead.fresh "" "" "").stepInput (.ofInput s) (.group head past ahead) = s := by
    have hslot : (Variables.ofInput s).get? mainSlot = some s := Variables.get?_set_self _ _ _
    simp only [PlanHead.stepInput, Plan.head, h, PlanHead.visible?, Variables.filled?, hslot]
    by_cases hs : s = ""
    · subst hs
      rfl
    · simp [hs, Option.filter]
  rw [handed, PlanHead.stepVariables, hinput, Plan.head, h]
  rfl

/-! ### Calls one after another -/

mutual

/-- The calls of a plan, from left to right. -/
def leaves : Plan σ → List (Plan σ)
  | .call head function finished => [.call head function finished]
  | .group _ past ahead => leavesAll past ++ leavesAll ahead

/-- The calls of plans, one after another. -/
def leavesAll : List (Plan σ) → List (Plan σ)
  | [] => []
  | p :: rest => p.leaves ++ leavesAll rest

end

theorem leavesAll_eq_flatMap (steps : List (Plan σ)) : leavesAll steps = steps.flatMap leaves := by
  induction steps with
  | nil => rfl
  | cons step steps ih => rw [leavesAll, ih, List.flatMap_cons]

/-- Makes calls one after another. Each is handed the trimmed answer of the one before. -/
def relay (scope : Scope σ) : List (Plan σ) → String → Run σ String
  | [], s => pure s
  | leaf :: rest, s => do
    let answer ← callStep scope leaf.function? leaf.qualifiedName (leaf.handed s)
    relay scope rest (Text.trim answer.input)

theorem relay_append (scope : Scope σ) (leaves later : List (Plan σ)) (s : String) :
    relay scope (leaves ++ later) s = relay scope leaves s >>= relay scope later := by
  induction leaves generalizing s with
  | nil => rw [List.nil_append, relay, pure_bind]
  | cons leaf leaves ih =>
      rw [List.cons_append, relay, relay, bind_assoc]
      exact congrArg _ (funext fun answer => ih _)

/-- What a relay comes to is trimmed, unless it is the untrimmed text that it began with. -/
theorem trim_of_relay {scope : Scope σ} {leaves : List (Plan σ)} {s value : String}
    {limits : Limits} {w after : World σ} (h : leaves ≠ [] ∨ Text.trim s = s)
    (hrun : relay scope leaves s limits w = (.done value, after)) : Text.trim value = value := by
  induction leaves generalizing s w with
  | nil =>
      obtain rfl : s = value := Exit.done.inj (congrArg Prod.fst hrun)
      simpa using h
  | cons leaf leaves ih =>
      obtain ⟨answer, between, _, hrest⟩ := Run.exists_of_bind_eq_done hrun
      exact ih (.inr (Text.trim_trim _)) hrest

/-! ### Plain plans -/

/-- A plan that has not begun, with bare heads and with no group without steps. -/
inductive Plain : Plan σ → Prop
  | call {head : PlanHead} {function : Option (Function σ)} :
      head.Bare → Plain (.call head function false)
  | group {head : PlanHead} {ahead : List (Plan σ)} :
      head.Bare → ahead ≠ [] → (∀ step ∈ ahead, Plain step) → Plain (.group head [] ahead)

theorem Plain.bare {p : Plan σ} (h : Plain p) : p.head.Bare := by
  cases h with
  | call hbare => exact hbare
  | group hbare _ _ => exact hbare

theorem leaves_group (head : PlanHead) (past ahead : List (Plan σ)) :
    (Plan.group head past ahead).leaves = (past ++ ahead).flatMap leaves := by
  rw [leaves, leavesAll_eq_flatMap, leavesAll_eq_flatMap, List.flatMap_append]

theorem Plain.leaves_ne_nil {p : Plan σ} (h : Plain p) : p.leaves ≠ [] := by
  induction h with
  | call _ => simp [leaves]
  | @group head ahead _ hahead _ ih =>
      obtain ⟨step, rest, rfl⟩ := List.exists_cons_of_ne_nil hahead
      have hstep : step.leaves ≠ [] := ih step (by simp)
      simp [leaves_group, hstep]

/-- The leaves are plain plans, each with itself for its only leaf. -/
theorem Plain.of_mem_leaves {p leaf : Plan σ} (h : Plain p) (hleaf : leaf ∈ p.leaves) :
    Plain leaf ∧ leaf.leaves = [leaf] := by
  induction h with
  | call hbare =>
      rw [leaves, List.mem_singleton] at hleaf
      subst hleaf
      exact ⟨.call hbare, by rw [leaves]⟩
  | group _ _ _ ih =>
      rw [leaves_group, List.nil_append] at hleaf
      obtain ⟨step, hstep, hleaf⟩ := List.mem_flatMap.1 hleaf
      exact ih step hstep hleaf

theorem flatMap_outputs_of_plain {steps : List (Plan σ)} (h : ∀ step ∈ steps, Plain step) :
    steps.flatMap outputs = [] :=
  List.flatMap_eq_nil_iff.2 fun step hstep => (h step hstep).bare.outputs_eq

/-! ### Running a plain plan -/

/-- A run of calls ends as their relay does, up to the path of a failure. -/
structure Relayed (scope : Scope σ) (leaves : List (Plan σ)) (s : String) (limits : Limits)
    (w : World σ) (exit : Exit String) (after : World σ) : Prop where
  cause_eq : exit.cause = (relay scope leaves s limits w).1.cause
  world_eq : after = (relay scope leaves s limits w).2

variable {scope : Scope σ}

theorem relayed_attempt {step : Plan σ} (hstep : Plain step) {head : PlanHead} {vars : Variables}
    {s : String} (h : head.Carries vars s) (htimeout : head.timeout = none) {limits : Limits}
    {w after : World σ} {exit : Exit Variables} {left : Plan σ}
    (hrun : runWhole scope step (step.handed s) limits w = (exit, left, after))
    (hrelayed : Relayed scope step.leaves s limits w
      (exit.map fun answer => Text.trim answer.input) after) :
    ∃ exit', head.attempt step (runWhole scope step) (vars.merge head.state false) limits w =
        (exit', left, after) ∧
      exit'.cause = (relay scope step.leaves s limits w).1.cause.map fun value =>
        { head with state := head.state.setInput value } := by
  have hlimit : limitFor head w = none := by
    rw [limitFor, htimeout]
    rfl
  rw [← stepVariables_eq_handed h step] at hrun
  rw [← Limits.within_none limits, ← hlimit] at hrun
  rw [attempt_eq hrun]
  refine ⟨_, rfl, ?_⟩
  have houtputs : step.outputs = [] := hstep.bare.outputs_eq
  have hpath : ∀ e, (Error.planStep step.qualifiedName e).rootCause = e.rootCause := fun _ => rfl
  rw [hlimit, Exit.expire_none, houtputs, Exit.cause_map, Exit.cause_mapError hpath,
    ← hrelayed.cause_eq, Exit.cause_map, Exit.map_map]
  rfl

/-- The steps ahead in a group, if each of them runs as the relay of its calls. -/
theorem relayed_runSteps {ahead : List (Plan σ)} (hplain : ∀ step ∈ ahead, Plain step)
    (hsteps : ∀ step ∈ ahead, ∀ s limits w, Relayed scope step.leaves s limits w
      ((runWhole scope step (step.handed s) limits w).1.map fun answer => Text.trim answer.input)
      (runWhole scope step (step.handed s) limits w).2.2)
    {head : PlanHead} {vars : Variables} {s : String} (h : head.Carries vars s)
    (htimeout : head.timeout = none) (past : List (Plan σ)) (limits : Limits) (w : World σ) :
    Relayed scope (ahead.flatMap leaves) s limits w
      ((runSteps scope false [] head past ahead vars limits w).1.map Variables.input)
      (runSteps scope false [] head past ahead vars limits w).2.2 := by
  -- each step turns the text that is carried into another one, which the rest begins with
  induction ahead generalizing head past vars s w with
  | nil =>
      refine ⟨?_, rfl⟩
      rw [runSteps, ← h.input_eq]
      rfl
  | cons step rest ih =>
      rcases hrun : runWhole scope step (step.handed s) limits w with ⟨ended, left, after⟩
      have hstep := hsteps step (by simp) s limits w
      rw [hrun] at hstep
      obtain ⟨exit, hattempt, hcause⟩ := relayed_attempt (hplain step (by simp)) h htimeout hrun
        hstep
      rw [← PlanHead.attemptWatched_false] at hattempt
      have hafter : after = (relay scope step.leaves s limits w).2 := hstep.world_eq
      rcases hrelay : relay scope step.leaves s limits w with ⟨relayed, after'⟩
      rw [hrelay] at hcause hafter
      obtain rfl : after = after' := hafter
      rw [List.flatMap_cons]
      cases hdone : relayed.isDone with
      | true =>
          obtain ⟨value, rfl⟩ := Exit.isDone_iff.1 hdone
          obtain rfl := Exit.cause_eq_done hcause
          rw [runSteps_of_done hattempt]
          have hrest := ih (fun s hs => hplain s (List.mem_cons_of_mem step hs))
            (fun s hs => hsteps s (List.mem_cons_of_mem step hs)) (h.next value) htimeout
            (past ++ [left]) after
          refine ⟨?_, ?_⟩
          · rw [hrest.cause_eq, relay_append, Run.bind_of_done hrelay]
          · rw [hrest.world_eq, relay_append, Run.bind_of_done hrelay]
      | false =>
          have hexit : exit.isDone = false := by
            rw [← Exit.isDone_cause, hcause, Exit.isDone_map, Exit.isDone_cause, hdone]
          rw [runSteps_of_not_done hattempt hexit]
          refine ⟨?_, ?_⟩
          · rw [relay_append, Run.bind_of_not_done hrelay hdone id, Exit.map_map, Exit.cause_map,
              hcause, Exit.map_map, Exit.cause_map]
            exact Exit.map_congr_of_not_done (by rwa [Exit.isDone_cause]) _ _
          · rw [relay_append, Run.bind_of_not_done hrelay hdone id]

theorem relayed_runWhole (scope : Scope σ) {step : Plan σ} (h : Plain step) : ∀ s limits w,
    Relayed scope step.leaves s limits w
      ((runWhole scope step (step.handed s) limits w).1.map fun answer => Text.trim answer.input)
      (runWhole scope step (step.handed s) limits w).2.2 := by
  induction h with
  | @call head function _ =>
      intro s limits w
      have hrelay : relay scope (Plan.call head function false).leaves s =
          callStep scope function head.qualifiedName ((Plan.call head function false).handed s) >>=
            fun answer => pure (Text.trim answer.input) := by
        rw [leaves, relay]
        rfl
      refine ⟨?_, ?_⟩
      · rw [hrelay, Run.bind_pure_apply]
        rfl
      · rw [hrelay, Run.bind_pure_apply]
        rfl
  | @group head ahead hbare hahead hplain ih =>
      intro s limits w
      -- whatever carried the text to the group, within the group it is a fresh main slot
      have hstart : head.Carries (.ofInput s) s := by
        have hcarries := PlanHead.Carries.start hbare.state_eq
          (Variables.onlyInput_empty.setInput s)
        rwa [Variables.input_setInput] at hcarries
      have hran := relayed_runSteps hplain ih hstart hbare.timeout_eq [] limits w
      rw [runWhole, handed_group hbare.parameters_eq, hbare.outputs_eq, List.nil_append,
        List.nil_append, flatMap_outputs_of_plain hplain, leaves_group, List.nil_append]
      refine ⟨?_, hran.world_eq⟩
      -- the answer of the group is trimmed already
      have htrim : (relay scope (ahead.flatMap leaves) s limits w).1.map Text.trim =
          (relay scope (ahead.flatMap leaves) s limits w).1 := by
        have hleaves := (Plain.group hbare hahead hplain).leaves_ne_nil
        rw [leaves_group] at hleaves
        exact Exit.map_eq_self fun value hvalue => trim_of_relay (.inl hleaves)
          (Prod.ext hvalue rfl)
      rw [← Exit.map_map Variables.input Text.trim, Exit.cause_map, hran.cause_eq,
        ← Exit.cause_map, htrim]

/-- **A plain plan is a relay.** Run to its end it does what its calls do one after another,
and its main slot is what their relay comes to. -/
theorem relayed_run (scope : Scope σ) {p : Plan σ} (h : Plain p) {vars : Variables}
    (hvars : vars.OnlyInput) (limits : Limits) (w : World σ) :
    Relayed scope p.leaves vars.input limits w
      ((run scope false p vars limits w).1.map Variables.input)
      (run scope false p vars limits w).2.2 := by
  cases h with
  | @group head ahead hbare hahead hplain =>
      have hsteps := fun step hstep => relayed_runWhole scope (hplain step hstep)
      have hran := relayed_runSteps hplain hsteps (.start hbare.state_eq hvars) hbare.timeout_eq []
        limits w
      rwa [run, hbare.outputs_eq, List.nil_append, List.nil_append,
        flatMap_outputs_of_plain hplain, leaves_group, List.nil_append]
  | @call head function hbare =>
      let self : Plan σ := .call head function false
      have hcarries := PlanHead.Carries.start hbare.state_eq hvars
      have hstep := relayed_runWhole scope (show Plain self from .call hbare) vars.input limits w
      rcases hrun : runWhole scope self (self.handed vars.input) limits w with ⟨ended, left, after⟩
      rw [hrun] at hstep
      obtain ⟨exit, hattempt, hcause⟩ := relayed_attempt (.call hbare) hcarries hbare.timeout_eq
        hrun hstep
      rw [← PlanHead.attemptWatched_false] at hattempt
      rw [run_call hattempt]
      refine ⟨?_, hstep.world_eq⟩
      rw [Exit.map_map, Exit.cause_map, hcause, Exit.map_map]
      refine Exit.map_eq_self fun value _ => ?_
      have hnext := (hcarries.next value).input_eq
      rwa [← hbare.outputs_eq] at hnext

end Plan

end PromptPlan
