import PromptPlan.Proofs.Catalog
import PromptPlan.Proofs.Template.Quoting
import PromptPlan.Proofs.Text.Case

/-!
# Ways of naming a function

A function is named by its written form, by the reference at the head of its entry in a manual,
and by a span of a template. The written form leaves the skill of a global function out, and only
if that is spelled as it is reserved; the manual always writes the skill.

All three lead back to the function if its name and its skill are identifiers. A skill that is the
global one up to case is an identifier for that reason alone, or empty (`isName_of_skillKey`).
-/

namespace PromptPlan

open Template (IsName IsReference)

variable {σ : Type}

/-! ### Names that can be written -/

/-- The name is an identifier, and so is the skill unless it is the global one. -/
structure Function.Nameable (f : Function σ) : Prop where
  name : IsName f.name.toList
  skill : f.skillKey = PromptPlan.skillKey globalSkill ∨ IsName f.skill.toList

theorem isIdentifier_of_lowerAscii {c : Char} (h : Text.isIdentifier (Text.lowerAscii c) = true) :
    Text.isIdentifier c = true := by
  unfold Text.lowerAscii at h
  split at h
  · rename_i hupper
    simp only [Bool.and_eq_true, decide_eq_true_eq] at hupper
    simp [Text.isIdentifier, hupper]
  · exact h

theorem isAscii_globalSkill : Text.IsAscii globalSkill.toList := by
  have hall : (globalSkill.toList.all fun c => c.toNat < 128) = true := by decide
  simpa [Text.IsAscii] using hall

/-- However the global skill is spelled, it is spelled as an identifier or not at all. -/
theorem isName_of_skillKey {skill : String} (h : skillKey skill = skillKey globalSkill) :
    skill = "" ∨ IsName skill.toList := by
  by_cases hempty : skill = ""
  · exact .inl hempty
  · have hlower : Text.lower skill = Text.lower globalSkill := by
      simpa [skillKey, hempty] using h
    have hsame : Text.sameAscii skill globalSkill = true :=
      (Text.lower_eq_iff_sameAscii isAscii_globalSkill (by decide)).1 hlower
    have hchars : skill.toList.map Text.lowerAscii = globalSkill.toList.map Text.lowerAscii :=
      String.ofList_injective (Text.sameAscii_iff.1 hsame)
    have hidentifiers : ∀ c ∈ globalSkill.toList.map Text.lowerAscii,
        Text.isIdentifier c = true := List.all_eq_true.1 (by decide)
    refine .inr ⟨by simpa using hempty, fun c hc => isIdentifier_of_lowerAscii ?_⟩
    exact hidentifiers _ (hchars ▸ List.mem_map_of_mem hc)

/-! ### What a reference is read as -/

theorem parse_of_notMem {s : String} (h : '.' ∉ s.toList) : Reference.parse s = ⟨none, s⟩ := by
  rw [Reference.parse, Template.cutDot_of_notMem h]

theorem parse_dotted {skill : String} (h : '.' ∉ skill.toList) (name : String) :
    Reference.parse (skill ++ "." ++ name) = ⟨some skill, name⟩ := by
  have hcut : cutDot (skill ++ "." ++ name).toList = some (skill.toList, name.toList) := by
    simpa using Template.cutDot_append h name.toList
  rw [Reference.parse, hcut]
  simp

/-- The reference at the head of an entry of a manual: what stands in front of the first colon. -/
def headReference (entry : String) : String :=
  String.ofList (entry.toList.takeWhile fun c => c ≠ ':')

theorem headReference_append {s : String} (h : ':' ∉ s.toList) (rest : String) :
    headReference (s ++ ": " ++ rest) = s := by
  have hall : ∀ c ∈ s.toList, decide (c ≠ ':') = true := by
    intro c hc
    rw [decide_eq_true_iff]
    rintro rfl
    exact h hc
  have hchars : (s ++ ": " ++ rest).toList = s.toList ++ ':' :: ' ' :: rest.toList := by simp
  rw [headReference, hchars, List.takeWhile_append_of_pos hall,
    List.takeWhile_cons_of_neg (by decide), List.append_nil, String.ofList_toList]

namespace Function.Nameable

variable {f : Function σ}

theorem skill_cases (h : f.Nameable) : f.skill = "" ∨ IsName f.skill.toList :=
  h.skill.elim isName_of_skillKey .inr

/-- The reference in a manual has no other characters than identifiers have, and its dot. -/
theorem isIdentifier_of_mem (h : f.Nameable) : ∀ c ∈ (f.skill ++ "." ++ f.name).toList,
    c ≠ '.' → Text.isIdentifier c = true := by
  have hskill : ∀ c ∈ f.skill.toList, Text.isIdentifier c = true := by
    rcases h.skill_cases with hempty | hname
    · simp [hempty]
    · exact hname.2
  intro c hc hdot
  simp only [String.toList_append, List.mem_append] at hc
  rcases hc with (hc | hc) | hc
  · exact hskill c hc
  · exact absurd (by simpa using hc) hdot
  · exact h.name.2 c hc

theorem not_isBlank (h : f.Nameable) : ∀ c ∈ (f.skill ++ "." ++ f.name).toList,
    Text.isBlank c = false := by
  intro c hc
  by_cases hdot : c = '.'
  · rw [hdot]
    decide
  · exact Template.not_isBlank_of_isIdentifier (h.isIdentifier_of_mem c hc hdot)

theorem dot_notMem_skill (h : f.Nameable) : '.' ∉ f.skill.toList := by
  rcases h.skill_cases with hempty | hname
  · simp [hempty]
  · exact hname.dot_notMem

theorem headReference_manualEntry (h : f.Nameable) :
    headReference f.manualEntry = f.skill ++ "." ++ f.name := by
  have hcolon : ':' ∉ (f.skill ++ "." ++ f.name).toList := fun hc =>
    absurd (h.isIdentifier_of_mem ':' hc (by decide)) (by decide)
  rw [Profile.manualEntry, String.append_assoc]
  exact headReference_append hcolon _

theorem qualifiedName_eq (h : f.Nameable) : f.qualifiedName = qualify f.skill f.name := by
  have hname : f.name ≠ "" := by
    intro hempty
    exact h.name.1 (by simp [hempty])
  simp [qualifiedName, hname]

/-- The written form leaves out no skill but the global one. -/
theorem qualifiedName_cases (h : f.Nameable) :
    (f.qualifiedName = f.name ∧ f.skillKey = PromptPlan.skillKey "") ∨
      (f.qualifiedName = f.skill ++ "." ++ f.name ∧ IsName f.skill.toList) := by
  rw [h.qualifiedName_eq, qualify]
  by_cases hglobal : isGlobal f.skill = true
  · refine .inl ⟨if_pos hglobal, ?_⟩
    rw [isGlobal, Bool.or_eq_true, String.isEmpty_iff, beq_iff_eq] at hglobal
    rcases hglobal with hempty | hreserved
    · rw [skillKey, hempty]
    · rw [skillKey, hreserved]
      rfl
  · refine .inr ⟨if_neg hglobal, h.skill_cases.resolve_left ?_⟩
    intro hempty
    exact hglobal (by rw [hempty]; rfl)

theorem isReference_qualifiedName (h : f.Nameable) : IsReference f.qualifiedName.toList := by
  rcases h.qualifiedName_cases with ⟨hbare, -⟩ | ⟨hdotted, hskill⟩
  · rw [hbare]
    exact .name h.name
  · rw [hdotted]
    simpa using IsReference.qualified hskill h.name

theorem answersTo_qualifiedName (h : f.Nameable) :
    f.AnswersTo (Reference.parse f.qualifiedName).skill (Reference.parse f.qualifiedName).name := by
  rcases h.qualifiedName_cases with ⟨hbare, hglobal⟩ | ⟨hdotted, -⟩
  · rw [hbare, parse_of_notMem h.name.dot_notMem]
    exact ⟨hglobal, rfl⟩
  · rw [hdotted, parse_dotted h.dot_notMem_skill]
    exact ⟨rfl, rfl⟩

theorem answersTo_dotted (h : f.Nameable) :
    f.AnswersTo (Reference.parse (f.skill ++ "." ++ f.name)).skill
      (Reference.parse (f.skill ++ "." ++ f.name)).name := by
  rw [parse_dotted h.dot_notMem_skill]
  exact ⟨rfl, rfl⟩

end Function.Nameable

/-! ### What a catalog finds -/

namespace Catalog

variable {c : Catalog σ} {f : Function σ}

/-- A function of a catalog is what is found under every skill and name that it answers to. -/
theorem Kept.get?_of_answersTo (h : Kept c) (hf : f ∈ c.functions) {skill : Option String}
    {name : String} (hanswers : f.AnswersTo skill name) : c.get? skill name = some f := by
  rw [← (h.mem_functions_iff f).1 hf]
  exact get?_congr c hanswers.1.symm hanswers.2.symm

theorem Kept.resolveReference_eq (h : Kept c) (hf : f ∈ c.functions) {reference : String}
    (htrim : ∀ d ∈ reference.toList, Text.isBlank d = false)
    (hanswers : f.AnswersTo (Reference.parse reference).skill (Reference.parse reference).name) :
    c.resolveReference reference = .ok f := by
  have hreference : Text.trim reference = reference := by
    rw [Text.trim, Text.trimChars_of_trimmed (Template.trimmed_of_forall htrim),
      String.ofList_toList]
  rw [resolveReference, hreference, resolve, h.get?_of_answersTo hf hanswers]

/-! ### Spans -/

section

variable {reference : String} (h : IsReference reference.toList)

include h

/-- A span that holds a reference alone. -/
theorem read_span_reference :
    Template.read ("\x7b\x7b" ++ reference ++ "\x7d\x7d") =
      [.code reference [.function reference]] := by
  have hread := Template.read_span (.call h) ""
  have hempty : Template.read "" = [] := by
    rw [Template.read, String.toList_empty, Template.segments_of_unopened (by simp)]
    rfl
  rwa [String.ofList_toList, String.append_empty, hempty] at hread

theorem firstError?_span_reference :
    Template.firstError? [.code reference [.function reference]] = none := by
  have hvalid : (Template.Block.code (String.ofList reference.toList)
      [.function (String.ofList reference.toList)]).isValid = true :=
    (Template.SpanBody.call h).isValid
  rw [String.ofList_toList] at hvalid
  exact Template.firstError?_eq_none_iff.2 (List.forall_mem_singleton.2 hvalid)

theorem render_span_reference
    (hget : c.get? (Reference.parse reference).skill (Reference.parse reference).name = some f)
    (depth : Nat) (vars : Variables) :
    Template.render (c.scope (depth + 1)) vars ("\x7b\x7b" ++ reference ++ "\x7d\x7d") =
      (f.invoke (c.scope depth) vars >>= fun answer => pure answer.input) := by
  have hscope : c.scope (depth + 1) (Reference.parse reference).skill
      (Reference.parse reference).name =
        some ⟨f.qualifiedName, f.body (c.scope depth)⟩ := by
    simp only [scope, hget, Option.map_some]
  have hcall : Template.call (c.scope (depth + 1)) vars reference none =
      (f.invoke (c.scope depth) vars >>= fun answer => pure answer.input) := by
    rw [Template.call, hscope]
    rfl
  rw [Template.render, read_span_reference h, Template.renderBlocks,
    firstError?_span_reference h, Template.renderEach, Template.renderEach, Template.renderBlock,
    Template.renderCode, hcall]
  simp only [bind_assoc, pure_bind, String.append_empty]

end

/-- **Naming a function.** Let a function be in a catalog, whatever was registered and removed to
bring it about, with an identifier for its name, and in the global skill or in one whose name is
an identifier. Its written form and the reference at the head of its entry in a manual are both
resolved to this function. A span that holds its written form is read as a call without argument,
keeps to the grammar, and is rendered by calling this function with the variables that there are. -/
theorem found_by_its_names (changes : List (Change σ)) {f : Function σ}
    (hf : f ∈ (after changes).functions) (hname : f.Nameable) :
    (after changes).resolveReference f.qualifiedName = .ok f ∧
      headReference f.manualEntry = f.skill ++ "." ++ f.name ∧
      (after changes).resolveReference (headReference f.manualEntry) = .ok f ∧
      Template.readValid ("\x7b\x7b" ++ f.qualifiedName ++ "\x7d\x7d") =
        .ok [.code f.qualifiedName [.function f.qualifiedName]] ∧
      (after changes).get? (Reference.parse f.qualifiedName).skill
        (Reference.parse f.qualifiedName).name = some f ∧
      ∀ depth vars, Template.render ((after changes).scope (depth + 1)) vars
          ("\x7b\x7b" ++ f.qualifiedName ++ "\x7d\x7d") =
        (f.invoke ((after changes).scope depth) vars >>= fun answer => pure answer.input) := by
  have hkept := kept_after changes
  have href : IsReference f.qualifiedName.toList := hname.isReference_qualifiedName
  have hget := hkept.get?_of_answersTo hf hname.answersTo_qualifiedName
  have hhead := hname.headReference_manualEntry
  refine ⟨hkept.resolveReference_eq hf href.not_isBlank hname.answersTo_qualifiedName, hhead, ?_,
    ?_, hget, render_span_reference href hget⟩
  · rw [hhead]
    exact hkept.resolveReference_eq hf hname.not_isBlank hname.answersTo_dotted
  · rw [Template.readValid, read_span_reference href, firstError?_span_reference href]

/-- The reserved skill in a spelling of its own, with a colon in the description, and next to a
function of the same name in a skill of that name. -/
theorem found_by_its_names_reserved :
    let body : Scope Unit → Variables → Run Unit Variables := fun _ vars => pure vars
    let global : Function Unit := .bare "" "ECHO" "" body
    let other : Function Unit := .bare "echo" "Echo" "" body
    let echo : Function Unit := .bare "_Global_functions_" "Echo" "Says it: again" body
    let changes := [Change.register global, .register other, .register echo]
    let c := after changes
    echo ∈ c.functions ∧ echo.Nameable ∧ echo.qualifiedName = "_Global_functions_.Echo" ∧
      c.resolveReference echo.qualifiedName = .ok echo ∧
      headReference echo.manualEntry = echo.skill ++ "." ++ echo.name ∧
      c.resolveReference (headReference echo.manualEntry) = .ok echo ∧
      Template.readValid ("\x7b\x7b" ++ echo.qualifiedName ++ "\x7d\x7d") =
        .ok [.code echo.qualifiedName [.function echo.qualifiedName]] ∧
      c.get? (Reference.parse echo.qualifiedName).skill
        (Reference.parse echo.qualifiedName).name = some echo ∧
      ∀ depth vars, Template.render (c.scope (depth + 1)) vars
          ("\x7b\x7b" ++ echo.qualifiedName ++ "\x7d\x7d") =
        (echo.invoke (c.scope depth) vars >>= fun answer => pure answer.input) := by
  intro body global other echo changes c
  have hstands : Stands changes (some echo.skill) echo.name echo :=
    ⟨[.register global, .register other], [], rfl, ⟨rfl, rfl⟩, by simp⟩
  have hmem : echo ∈ c.functions :=
    ((kept_after changes).mem_functions_iff echo).2 ((get?_after changes _ _ _).2 hstands)
  have hname : echo.Nameable :=
    ⟨⟨by decide, List.all_eq_true.1 (by decide)⟩, .inl (by decide +kernel)⟩
  exact ⟨hmem, hname, by decide +kernel, found_by_its_names changes hmem hname⟩

end Catalog

end PromptPlan
