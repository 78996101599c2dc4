import PromptPlan.Proofs.Template.Calls

/-!
# Malformed templates

A rendering that fails because the template is malformed has done nothing yet: it fails so exactly
when a block breaks the grammar, with the failure of the first such block.

A block that passes the tests is a text or a request (`renderBlock_eq`), so the renderer's own
failures never come up. And a function that renders a malformed template of its own fails under its
own name, and no longer as the template that called it.
-/

namespace PromptPlan

/-- Whether a failure says that a template is malformed. -/
def Error.isMalformed : Error → Bool
  | .malformed .. => true
  | _ => false

/-- Whether a run ended because a template is malformed. -/
def Exit.isMalformed {α : Type} : Exit α → Bool
  | .failed e => e.isMalformed
  | _ => false

@[simp] theorem Error.isMalformed_inFunction (function : String) (e : Error) :
    (e.inFunction function).isMalformed = false := by
  cases e <;> rfl

variable {σ α β : Type}

/-- A run that ends in some other way, wherever it starts. -/
def Run.NeverMalformed (x : Run σ α) : Prop :=
  ∀ limits w, (x limits w).1.isMalformed = false

namespace Run.NeverMalformed

theorem pure (a : α) : NeverMalformed (Pure.pure a : Run σ α) :=
  fun _ _ => rfl

theorem fail {e : Error} (h : e.isMalformed = false) : NeverMalformed (Run.fail e : Run σ α) :=
  fun _ _ => h

theorem bind {x : Run σ α} {f : α → Run σ β} (hx : x.NeverMalformed)
    (hf : ∀ a, (f a).NeverMalformed) : NeverMalformed (x >>= f) := by
  intro limits w
  have hend := hx limits w
  rcases hrun : x limits w with ⟨exit, after⟩
  rw [hrun] at hend
  cases exit with
  | done a =>
      rw [bind_of_done hrun]
      exact hf a limits after
  | failed e =>
      rw [bind_of_failed hrun]
      exact hend
  | interrupted => rw [bind_of_interrupted hrun]; rfl
  | stuck => rw [bind_of_stuck hrun]; rfl

/-- The failure of a function is named after it. -/
theorem invoke (callee : Callee σ) (vars : Variables) : (callee.invoke vars).NeverMalformed := by
  intro limits w
  rw [Callee.invoke, mapError_apply]
  cases (callee.call vars limits w).1 with
  | failed e => exact Error.isMalformed_inFunction _ e
  | done _ => rfl
  | interrupted => rfl
  | stuck => rfl

end Run.NeverMalformed

namespace Template

/-! ### What renders is not malformed -/

theorem Piece.neverMalformed (piece : Piece) (scope : Scope σ) :
    (piece.render scope).NeverMalformed := by
  cases piece with
  | text s => exact .pure s
  | call request =>
      cases hscope : scope request.target.skill request.target.name with
      | none =>
          rw [render_unknown hscope]
          exact .fail rfl
      | some callee =>
          rw [render_known hscope]
          exact (Run.NeverMalformed.invoke callee _).bind fun answer => .pure answer.input

theorem neverMalformed_renderPieces (scope : Scope σ) (pieces : List Piece) :
    (renderPieces scope pieces).NeverMalformed := by
  induction pieces with
  | nil => exact .pure ""
  | cons piece pieces ih =>
      rw [renderPieces]
      exact (piece.neverMalformed scope).bind fun first =>
        ih.bind fun others => .pure (first ++ others)

/-! ### What breaks the grammar is malformed -/

theorem Flaw.isMalformed_error (flaw : Flaw) (content : String) :
    (flaw.error content).isMalformed = true := by
  cases flaw <;> rfl

theorem isMalformed_of_map {flaw? : Option Flaw} {content : String} {e : Error}
    (h : flaw?.map (·.error content) = some e) : e.isMalformed = true := by
  obtain ⟨flaw, _, rfl⟩ := Option.map_eq_some_iff.1 h
  exact flaw.isMalformed_error content

mutual

theorem isMalformed_of_error? : ∀ {block : Block} {e : Error},
    block.error? = some e → e.isMalformed = true
  | .text _, _, h => by simp [Block.error?] at h
  | .variable _, _, h => isMalformed_of_map (by rwa [Block.error?] at h)
  | .value _, _, h => isMalformed_of_map (by rwa [Block.error?] at h)
  | .function _, _, h => isMalformed_of_map (by rwa [Block.error?] at h)
  | .code _ tokens, _, h => by
      rw [Block.error?, Option.or_eq_some_iff] at h
      rcases h with h | ⟨_, h⟩
      · exact isMalformed_of_firstError? h
      · exact isMalformed_of_map h

theorem isMalformed_of_firstError? : ∀ {blocks : List Block} {e : Error},
    firstError? blocks = some e → e.isMalformed = true
  | [], _, h => by simp [firstError?] at h
  | block :: blocks, _, h => by
      rw [firstError?, Option.or_eq_some_iff] at h
      rcases h with h | ⟨_, h⟩
      · exact isMalformed_of_error? h
      · exact isMalformed_of_firstError? h

end

/-- The failure of a list is that of its first block that breaks the grammar. -/
theorem firstError?_eq_some_iff {blocks : List Block} {e : Error} :
    firstError? blocks = some e ↔ ∃ before block after, blocks = before ++ block :: after ∧
      (∀ b ∈ before, b.isValid = true) ∧ block.error? = some e := by
  simp only [firstError?_eq_findSome?, List.findSome?_eq_some_iff, Block.isValid,
    Option.isNone_iff_eq_none]
  constructor
  · rintro ⟨before, block, after, hsplit, he, hbefore⟩
    exact ⟨before, block, after, hsplit, hbefore, he⟩
  · rintro ⟨before, block, after, hsplit, hbefore, he⟩
    exact ⟨before, block, after, hsplit, he, hbefore⟩

theorem exists_firstError? {blocks : List Block} (h : ∃ block ∈ blocks, block.isValid = false) :
    ∃ e, firstError? blocks = some e := by
  obtain ⟨block, hmem, hinvalid⟩ := h
  cases hfirst : firstError? blocks with
  | some e => exact ⟨e, rfl⟩
  | none =>
      rw [firstError?_eq_none_iff.1 hfirst block hmem] at hinvalid
      cases hinvalid

/-! ### Refusal -/

theorem render_of_firstError? {template : String} {e : Error}
    (h : firstError? (read template) = some e) (scope : Scope σ) (vars : Variables) :
    render scope vars template = .fail e := by
  rw [render, renderBlocks, h]

/-- **Malformed templates.** Rendering fails because the template is malformed exactly when
one of its blocks breaks the grammar. It then fails at once, calling nothing, with the
failure of the first such block. And where all blocks keep to the grammar no code block fails
so in the middle of the rendering, whatever the functions do. -/
theorem isMalformed_render_iff (scope : Scope σ) (vars : Variables) (template : String)
    (limits : Limits) (w : World σ) :
    ((render scope vars template limits w).1.isMalformed = true ↔
        ∃ block ∈ read template, block.isValid = false) ∧
      ((∃ block ∈ read template, block.isValid = false) →
        ∃ before block after e, read template = before ++ block :: after ∧
          (∀ b ∈ before, b.isValid = true) ∧ block.error? = some e ∧
          render scope vars template limits w = (.failed e, w) ∧
          Run.Records (render scope vars template) (render scope.noted vars template) limits w
            []) ∧
      ((∀ block ∈ read template, block.isValid = true) →
        ∀ content tokens, Block.code content tokens ∈ read template →
          (renderCode scope vars content tokens).NeverMalformed) := by
  refine ⟨⟨fun hend => ?_, fun hflawed => ?_⟩, fun hflawed => ?_, fun hvalid => ?_⟩
  · by_contra hnone
    have hvalid : ∀ block ∈ read template, block.isValid = true := by
      intro block hmem
      by_contra hinvalid
      exact hnone ⟨block, hmem, by simpa using hinvalid⟩
    rw [render_eq hvalid, neverMalformed_renderPieces scope _ limits w] at hend
    cases hend
  · obtain ⟨e, he⟩ := exists_firstError? hflawed
    rw [render_of_firstError? he]
    exact isMalformed_of_firstError? he
  · obtain ⟨e, he⟩ := exists_firstError? hflawed
    obtain ⟨before, block, after, hsplit, hbefore, hblock⟩ := firstError?_eq_some_iff.1 he
    rw [render_of_firstError? he, render_of_firstError? he]
    exact ⟨before, block, after, e, hsplit, hbefore, hblock, rfl, Run.records_fail e limits w⟩
  · intro content tokens hmem
    have hrender := renderBlock_eq hmem (hvalid _ hmem) scope vars
    rw [renderBlock] at hrender
    rw [hrender]
    exact Piece.neverMalformed _ scope

end Template

end PromptPlan
