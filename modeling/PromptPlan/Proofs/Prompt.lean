import Mathlib.Data.List.Induction
import PromptPlan.Plan.Execution
import PromptPlan.Prompt
import PromptPlan.Proofs.Keyed
import PromptPlan.Proofs.Plan.Relay
import PromptPlan.Proofs.Plan.StepVariables
import PromptPlan.Proofs.Template.Mentions

/-!
# A prompt as a step

As a step of a plan a function is handed what it declares and nothing else. A prompt reads what it
declares off its template, and a variable that it missed there, or took for another, would be
rendered as nothing, whatever the caller has under that name.

Nothing is missed. The collection looks at the tokens of a span and no deeper, and there is nothing
deeper in a template (`mem_blockVariables_iff`). It compares names by ASCII case, whereas variables
are looked up by their lower-case forms; but the names in a template that keeps to the grammar are
ASCII, so that the two agree (`Made.exists_name`, `Made.nodup_names`). Hence the step has under
each name that its template mentions what the plan and its caller have to offer, and a template
that calls nothing is rendered in the step as it would be with all of that.
-/

namespace PromptPlan

variable {σ : Type}

namespace Prompt

/-! ### Names, each once -/

theorem distinct_concat (names : List String) (name : String) :
    distinct (names ++ [name]) =
      if (distinct names).any (Text.sameAscii · name) then distinct names
      else distinct names ++ [name] := by
  rw [distinct, List.foldl_append]
  rfl

theorem distinct_sublist (names : List String) : (distinct names).Sublist names := by
  induction names using List.reverseRecOn with
  | nil => exact .slnil
  | append_singleton names name ih =>
      rw [distinct_concat]
      split
      · exact ih.trans (List.sublist_append_left names [name])
      · exact ih.append (List.Sublist.refl [name])

/-- A name is kept, if not in its spelling then in another. -/
theorem exists_mem_distinct {names : List String} {name : String} (h : name ∈ names) :
    ∃ kept ∈ distinct names, Text.sameAscii kept name = true := by
  induction names using List.reverseRecOn with
  | nil => cases h
  | append_singleton names last ih =>
      rw [distinct_concat]
      rcases List.mem_append.1 h with h | h
      · obtain ⟨kept, hkept, hsame⟩ := ih h
        refine ⟨kept, ?_, hsame⟩
        split
        · exact hkept
        · exact List.mem_append_left _ hkept
      · obtain rfl := List.mem_singleton.1 h
        split
        · rename_i hany
          exact List.any_eq_true.1 hany
        · exact ⟨name, List.mem_append_right _ (List.mem_singleton_self name),
            Text.sameAscii_refl name⟩

theorem pairwise_distinct (names : List String) :
    (distinct names).Pairwise fun a b => Text.sameAscii a b = false := by
  induction names using List.reverseRecOn with
  | nil => exact .nil
  | append_singleton names name ih =>
      rw [distinct_concat]
      split
      · exact ih
      · rename_i hany
        refine List.pairwise_append.2 ⟨ih, List.pairwise_singleton _ _, fun kept hkept b hb => ?_⟩
        rw [List.mem_singleton.1 hb]
        rw [List.any_eq_true, not_exists] at hany
        exact Bool.eq_false_iff.2 fun hsame => hany kept ⟨hkept, hsame⟩

/-- On ASCII names the two ways to compare names are one. -/
theorem nodup_lower_of_pairwise {names : List String}
    (hascii : ∀ name ∈ names, Text.IsAscii name.toList)
    (h : names.Pairwise fun a b => Text.sameAscii a b = false) : (names.map Text.lower).Nodup := by
  rw [List.Nodup, List.pairwise_map]
  refine h.imp_of_mem fun {a b} ha hb hsame hlower => ?_
  rw [Text.lower_of_isAscii (hascii a ha), Text.lower_of_isAscii (hascii b hb)] at hlower
  rw [Text.sameAscii_iff.2 hlower] at hsame
  cases hsame

/-! ### The variables of a template -/

/-- The collection looks no deeper than the tokens, and there is nothing deeper. -/
theorem mem_blockVariables_iff {template name : String} {block : Template.Block}
    (hmem : block ∈ Template.read template) :
    name ∈ blockVariables block ↔ Template.Mentions name block := by
  constructor
  · intro h
    cases block with
    | «variable» content =>
        rw [List.mem_singleton.1 h]
        exact .itself rfl
    | code content tokens =>
        obtain ⟨token, htoken, hname⟩ := List.mem_filterMap.1 h
        split at hname
        · exact .token htoken (.itself (Option.some.inj hname))
        · cases hname
    | text _ => cases h
    | value _ => cases h
    | function _ => cases h
  · intro h
    cases h with
    | itself hname => exact List.mem_singleton.2 hname.symm
    | token htoken hname =>
        cases hname with
        | itself hname => exact List.mem_filterMap.2 ⟨_, htoken, congrArg some hname⟩
        | token _ _ => exact absurd rfl (Template.kind_ne_code_of_mem_tokens hmem htoken)

/-- What making a prompt comes to. -/
structure Made (p : Prompt) (template description : String) (settings : CompletionSettings) :
    Prop where
  blocks_eq : p.blocks = Template.read template
  valid : ∀ block ∈ Template.read template, block.isValid = true
  description_eq : p.description = description
  settings_eq : p.settings = settings

theorem made_of_make {skill name template description : String} {settings : CompletionSettings}
    {p : Prompt} (h : make skill name template settings description = .ok p) :
    Made p template description settings := by
  rw [make, Template.readValid] at h
  cases herror : Template.firstError? (Template.read template) with
  | some e =>
      rw [herror] at h
      cases h
  | none =>
      rw [herror] at h
      cases h
      exact ⟨rfl, Template.firstError?_eq_none_iff.1 herror, rfl, rfl⟩

/-- The variables of the template besides the main slot, each as it is spelled first. -/
def otherNames (p : Prompt) : List String :=
  p.variableNames.filter (!Text.sameAscii · mainSlot)

section

variable {p : Prompt} {template description : String} {settings : CompletionSettings}

theorem Made.mentioned_of_mem (h : Made p template description settings) {name : String}
    (hname : name ∈ p.otherNames) : Template.MentionedIn template name := by
  have hmem := (distinct_sublist _).subset (List.mem_of_mem_filter hname)
  rw [h.blocks_eq] at hmem
  obtain ⟨block, hblock, hname⟩ := List.mem_flatMap.1 hmem
  exact ⟨block, hblock, (mem_blockVariables_iff hblock).1 hname⟩

theorem Made.isAscii (h : Made p template description settings) {name : String}
    (hname : Template.MentionedIn template name) : Text.IsAscii name.toList := by
  obtain ⟨block, hblock, hname⟩ := hname
  exact hname.isAscii (h.valid block hblock)

/-- Every variable of the template is among the names, up to case. -/
theorem Made.exists_name (h : Made p template description settings) {name : String}
    (hname : Template.MentionedIn template name) :
    ∃ other ∈ mainSlot :: p.otherNames, Text.lower other = Text.lower name := by
  obtain ⟨block, hblock, hmention⟩ := hname
  have hmem : name ∈ p.blocks.flatMap blockVariables := by
    rw [h.blocks_eq]
    exact List.mem_flatMap.2 ⟨block, hblock, (mem_blockVariables_iff hblock).2 hmention⟩
  obtain ⟨kept, hkept, hsame⟩ := exists_mem_distinct hmem
  have hlower : Text.lower kept = Text.lower name :=
    Text.lower_eq_of_sameAscii hsame
  by_cases hslot : Text.sameAscii kept mainSlot = true
  · exact ⟨mainSlot, List.mem_cons_self, (lower_eq_mainSlot_iff.2 hslot).symm.trans hlower⟩
  · refine ⟨kept, List.mem_cons_of_mem _ (List.mem_filter.2 ⟨hkept, ?_⟩), hlower⟩
    rw [Bool.not_eq_true] at hslot
    rw [hslot, Bool.not_false]

theorem Made.nodup_names (h : Made p template description settings) :
    ((mainSlot :: p.otherNames).map Text.lower).Nodup := by
  rw [List.map_cons, List.nodup_cons]
  refine ⟨fun hslot => ?_, nodup_lower_of_pairwise (fun name hname => ?_) ?_⟩
  · obtain ⟨name, hname, hlower⟩ := List.mem_map.1 hslot
    have hother := (List.mem_filter.1 hname).2
    rw [lower_eq_mainSlot_iff.1 hlower] at hother
    cases hother
  · exact h.isAscii (h.mentioned_of_mem hname)
  · exact (pairwise_distinct _).filter _

end

end Prompt

/-! ### What a plan has to offer -/

namespace Variables

/-- The variables that are not empty. -/
def filled (v : Variables) : Variables where
  entries := ⟨v.toList.filter fun e => !e.value.isEmpty,
    v.entries.nodup.sublist (List.filter_sublist.map _)⟩

theorem get?_filled (v : Variables) (name : String) : v.filled.get? name = v.filled? name := by
  have hfind : v.filled.entries.find? (Text.lower name) =
      (v.entries.find? (Text.lower name)).filter fun e => !e.value.isEmpty :=
    Keyed.find?_filter v.entries _ _
  rw [get?, hfind, filled?, get?]
  cases v.entries.find? (Text.lower name) with
  | none => rfl
  | some e => cases hempty : e.value.isEmpty <;> simp [Option.filter, hempty]

end Variables

namespace PlanHead

/-- What the caller and the plan have to offer to a step, the caller first. Empty texts do not
count, and the main slot falls back on a default. -/
def offered (h : PlanHead) (caller : Variables) (default : String) : Variables :=
  let known := caller.filled.merge h.state.filled false
  known.setInput ((known.get? mainSlot).getD default)

theorem get?_offered (h : PlanHead) (caller : Variables) (default name : String) :
    (h.offered caller default).get? name =
      if Text.lower name = Text.lower mainSlot then
        some (((caller.filled? mainSlot).or (h.state.filled? mainSlot)).getD default)
      else (caller.filled? name).or (h.state.filled? name) := by
  have hknown : ∀ other, (caller.filled.merge h.state.filled false).get? other =
      (caller.filled? other).or (h.state.filled? other) := by
    intro other
    rw [Variables.get?_merge, Variables.get?_filled, Variables.get?_filled]
  rw [offered, Variables.setInput, Variables.get?_set, hknown, hknown]
  by_cases hslot : Text.lower name = Text.lower mainSlot
  · rw [if_pos hslot, if_pos hslot.symm]
  · rw [if_neg hslot, if_neg (Ne.symm hslot)]

/-- A caller that the state has been added to offers nothing else. -/
theorem visible?_merge (h : PlanHead) (caller : Variables) :
    h.visible? (caller.merge h.state false) = h.visible? caller := by
  funext name
  rw [visible?, visible?, Variables.filled?, Variables.filled?, Variables.filled?,
    Variables.get?_merge]
  cases caller.get? name with
  | none => cases h.state.get? name <;> simp
  | some value => rfl

end PlanHead

namespace Prompt

variable {p : Prompt} {template description : String} {settings : CompletionSettings}

/-- The prompt as a step with outputs and a state, and without parameters. -/
def toStep (p : Prompt) (backend : Backend σ) (outputs : List String) (state : Variables) :
    Plan σ :=
  ((Plan.ofFunction (p.toFunction backend)).withOutputs outputs).withState state

theorem names_declared (p : Prompt) (backend : Backend σ) (outputs : List String)
    (state : Variables) :
    (p.toStep backend outputs state).declared.map Parameter.name = mainSlot :: p.otherNames := by
  refine congrArg (mainSlot :: ·) ?_
  exact (List.map_map).trans (List.map_id _)

theorem Made.declares (h : Made p template description settings) (backend : Backend σ)
    (outputs : List String) (state : Variables) {name : String}
    (hname : Template.MentionedIn template name) :
    (p.toStep backend outputs state).declares name = true := by
  obtain ⟨other, hother, hlower⟩ := h.exists_name hname
  rw [← names_declared p backend outputs state] at hother
  obtain ⟨parameter, hparameter, rfl⟩ := List.mem_map.1 hother
  exact List.any_eq_true.2 ⟨parameter, hparameter, beq_iff_eq.2 hlower⟩

/-- Under the names that its template mentions, the step is handed all that is offered. -/
theorem Made.get?_eq_offered (hmade : Made p template description settings) (h : PlanHead)
    (caller : Variables) (backend : Backend σ) (outputs : List String) (state : Variables)
    {name : String} (hname : Template.MentionedIn template name) :
    (h.stepVariables caller (p.toStep backend outputs state)).get? name =
      (h.offered caller description).get? name := by
  rw [PlanHead.get?_offered]
  by_cases hslot : Text.lower name = Text.lower mainSlot
  · have hdescription : (p.toStep backend outputs state).head.description = description :=
      hmade.description_eq
    rw [if_pos hslot, PlanHead.get?_stepVariables_mainSlot hslot, PlanHead.stepInput,
      PlanHead.visible?, hdescription]
    cases (caller.filled? mainSlot).or (h.state.filled? mainSlot) <;> rfl
  · have hparameters : (p.toStep backend outputs state).head.parameters = .empty := rfl
    rw [if_neg hslot, PlanHead.get?_stepVariables_of_ne hslot, PlanHead.given?, if_neg hslot,
      if_pos (hmade.declares backend outputs state hname), hparameters, Variables.get?_empty,
      Option.map_none, Option.or_none]

/-- The step asks the backend for what the template is rendered as with what is offered. -/
theorem Made.body_eq (hmade : Made p template description settings)
    (hcalls : ∀ block ∈ Template.read template, block.isCall = false) (h : PlanHead)
    (caller : Variables) (backend : Backend σ) (outputs : List String) (state : Variables)
    (scope : Scope σ) :
    let vars := h.stepVariables caller (p.toStep backend outputs state)
    (p.toFunction backend).body scope vars = do
      let answer ← backend (Template.plainText (h.offered caller description) template) settings
      return vars.setInput answer := by
  intro vars
  have htext : Template.plainText vars template =
      Template.plainText (h.offered caller description) template :=
    Template.plainText_congr hmade.valid hcalls fun name hname =>
      hmade.get?_eq_offered h caller backend outputs state hname
  have hrender : Template.renderBlocks scope vars p.blocks =
      pure (Template.plainText (h.offered caller description) template) := by
    rw [hmade.blocks_eq, ← Template.render, Template.render_of_no_calls hmade.valid hcalls, htext]
  show (Template.renderBlocks scope vars p.blocks >>= fun prompt =>
    backend prompt p.settings >>= fun answer => pure (vars.setInput answer)) = _
  rw [hrender, pure_bind, hmade.settings_eq]

/-- Runs a step by asking a backend for a prompt; the answer goes into the main slot. -/
def asking (backend : Backend σ) (settings : CompletionSettings) (prompt : String) (step : Plan σ)
    (vars : Variables) : PlanRun σ Variables := fun limits w =>
  let answered : Run σ Variables := do
    let answer ← backend prompt settings
    return vars.setInput answer
  let ran := answered.mapError (·.inFunction step.qualifiedName) limits w
  (ran.1, step, ran.2)

/-- **A prompt loses nothing as a step.** The parameters of a prompt that was made are the main
slot and every other variable of its template, once up to case. If the template calls nothing, a
plan runs the prompt as a step by asking the backend for the text that the template is rendered as
with all that the caller and the state have to offer, the description standing in for the main
slot. This goes for a run that has added the state to the caller too, and for a prompt that is run
on its own: `h` is its own head then. -/
theorem as_step {skill name : String}
    (hmake : make skill name template settings description = .ok p) (backend : Backend σ)
    (outputs : List String) (state : Variables) (h : PlanHead) (caller : Variables) :
    let step := p.toStep backend outputs state
    let offered := h.offered caller description
    (p.parameters = .optional mainSlot "Input text" "" ::
          p.otherNames.map (fun other => .optional other "" "") ∧
        ((mainSlot :: p.otherNames).map Text.lower).Nodup ∧
        (∀ other ∈ p.otherNames, Template.MentionedIn template other) ∧
        ∀ mentioned, Template.MentionedIn template mentioned →
          ∃ other ∈ mainSlot :: p.otherNames, Text.lower other = Text.lower mentioned) ∧
      (∀ other, offered.get? other =
        if Text.lower other = Text.lower mainSlot then
          some (((caller.filled? mainSlot).or (h.state.filled? mainSlot)).getD description)
        else (caller.filled? other).or (h.state.filled? other)) ∧
      ((∀ block ∈ Template.read template, block.isCall = false) → ∃ prompt,
        (∀ scope : Scope σ, Template.render scope offered template = pure prompt) ∧
          ∀ (scope : Scope σ) cancellable, ∀ caller' ∈ [caller, caller.merge h.state false],
            h.attemptWatched cancellable step (Plan.runWhole scope step) caller' =
              h.attemptWatched cancellable step (asking backend settings prompt step)
                caller') := by
  intro step offered
  have hmade := made_of_make hmake
  refine ⟨⟨rfl, hmade.nodup_names, fun other => hmade.mentioned_of_mem,
    fun mentioned => hmade.exists_name⟩, h.get?_offered caller description, fun hcalls => ?_⟩
  let prompt := Template.plainText offered template
  refine ⟨prompt, fun scope => Template.render_of_no_calls hmade.valid hcalls scope offered,
    fun scope cancellable caller' hcaller => ?_⟩
  have hsame : h.stepVariables caller' step = h.stepVariables caller step := by
    rcases List.mem_pair.1 hcaller with rfl | rfl
    · rfl
    · exact PlanHead.stepVariables_congr (h.visible?_merge caller) step
  have hbody := hmade.body_eq hcalls h caller backend outputs state scope
  have hinvoke : Plan.runWhole scope step (h.stepVariables caller' step) =
      asking backend settings prompt step (h.stepVariables caller' step) := by
    rw [hsame]
    funext limits w
    exact congrArg (fun x : Run σ Variables =>
      let ran := x.mapError (·.inFunction step.qualifiedName) limits w
      (ran.1, step, ran.2)) hbody
  refine Plan.attemptWatched_congr ?_ cancellable
  funext limits w
  rw [PlanHead.attempt, PlanHead.attempt, hinvoke]

/-- A letter: the state has the name, in another spelling and where the caller has left it empty,
and the tone is the caller's. -/
theorem as_step_letter :
    let template := "To \x7b\x7b$Name\x7d\x7d: \x7b\x7b$input\x7d\x7d, " ++
      "\x7b\x7b $tone \x7d\x7d and \x7b\x7b'yours'\x7d\x7d, \x7b\x7b$name\x7d\x7d"
    let p : Prompt := ⟨"writer", "letter", "Write a letter", template, Template.read template, {}⟩
    let backend : Backend Unit := fun prompt _ => pure prompt
    let h : PlanHead := { PlanHead.fresh planSkill "" "goal" with
      state := .ofPairs [("input", "hello"), ("NAME", "Ann"), ("tone", "cold")] }
    let caller := Variables.ofPairs [("INPUT", ""), ("name", ""), ("Tone", "warm")]
    let step := p.toStep backend [] .empty
    let unscoped : Scope Unit := fun _ _ => none
    make "writer" "letter" template {} "Write a letter" = .ok p ∧
      p.otherNames = ["Name", "tone"] ∧
      (∀ block ∈ Template.read template, block.isCall = false) ∧
      ∃ prompt,
        Template.render unscoped (h.offered caller "Write a letter") template = pure prompt ∧
        prompt = "To Ann: hello, warm and yours, Ann" ∧
        h.attemptWatched false step (Plan.runWhole unscoped step) caller =
          h.attemptWatched false step (asking backend {} prompt step) caller := by
  intro template p backend h caller step unscoped
  have hvalid : Template.firstError? (Template.read template) = none := by decide +kernel
  have hmake : make "writer" "letter" template {} "Write a letter" = .ok p := by
    rw [make, Template.readValid, hvalid]
    rfl
  have hcalls : ∀ block ∈ Template.read template, block.isCall = false := by
    have hall : (Template.read template).all (fun block => !block.isCall) = true := by
      decide +kernel
    simpa using hall
  obtain ⟨-, -, hrun⟩ := as_step hmake backend [] .empty h caller
  obtain ⟨prompt, hrender, hattempt⟩ := hrun hcalls
  have htext : (Template.render unscoped (h.offered caller "Write a letter") template .none
      (.start ())).1 = .done "To Ann: hello, warm and yours, Ann" := by decide +kernel
  rw [hrender unscoped] at htext
  exact ⟨hmake, by decide +kernel, hcalls, prompt, hrender unscoped, Exit.done.inj htext,
    hattempt unscoped false caller List.mem_cons_self⟩

end Prompt

end PromptPlan
