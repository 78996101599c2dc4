import Mathlib.Data.List.Forall2
import PromptPlan.Proofs.Template.Calls

/-!
# Rendering in two goes

The variables of a template can be filled in first, and the calls made later. Filling in decides by
the kind of a block and the first token of a span, and does not ask the renderer, so what matters is
that the two agree on every shape that the tests let pass.

There are only five things that can become of a block (`Resolved`). In each of them the block that
comes out is rendered as the one that went in, and is left alone by whoever fills in once more.
-/

namespace PromptPlan.Template

variable {σ : Type} {vars : Variables}

/-! ### What becomes of a block -/

/-- What filling in the variables makes of a block that keeps to the grammar. -/
inductive Resolved (vars : Variables) : Block → Block → Prop
  /-- What stands for a text by itself becomes that text. -/
  | alone {block : Block} {s : String} :
      block.render? vars = some s → Resolved vars block (.text s)
  /-- So does a span that holds it. -/
  | span {content s : String} {token : Block} :
      token.render? vars = some s → Resolved vars (.code content [token]) (.text s)
  /-- A reference stays. -/
  | reference {content : String} : Resolved vars (.function content) (.function content)
  /-- So does a span that calls a function. -/
  | call {content : String} {tokens : List Block} :
      (Block.code content tokens).isCall = true →
        Resolved vars (.code content tokens) (.code content tokens)
  /-- A span within a span stays, and stands for nothing. -/
  | nested {outer inner : String} {tokens : List Block} :
      Resolved vars (.code outer [.code inner tokens]) (.code outer [.code inner tokens])

theorem resolveBlock_span {content s : String} {token : Block} (hvalid : token.isValid = true)
    (h : token.render? vars = some s) (tokens : List Block) :
    resolveBlock vars (.code content (token :: tokens)) = .text s := by
  cases token with
  | function content => cases h
  | code content tokens => cases h
  | _ => simp [resolveBlock, Block.isCall, Block.tokens, hvalid, h]

theorem resolveBlock_call {content : String} {tokens : List Block}
    (h : (Block.code content tokens).isCall = true) (vars : Variables) :
    resolveBlock vars (.code content tokens) = .code content tokens := by
  cases tokens with
  | nil => rfl
  | cons token tokens => simp [resolveBlock, h]

theorem resolveBlock_nested (outer inner : String) (tokens : List Block) (vars : Variables) :
    resolveBlock vars (.code outer [.code inner tokens]) =
      .code outer [.code inner tokens] := by
  simp [resolveBlock, Block.render?]

theorem resolved_resolveBlock {block : Block} (h : block.isValid = true) :
    Resolved vars block (resolveBlock vars block) := by
  cases block with
  | text s => exact .alone rfl
  | «variable» content => exact .alone rfl
  | value content => exact .alone rfl
  | function content => exact .reference
  | code content tokens =>
      obtain ⟨hvalid, hshape⟩ := isValid_code_iff.1 h
      rcases shapeFlaw?_eq_none_iff.1 hshape with ⟨token, rfl⟩ | ⟨first, argument, rfl, hkind, _⟩
      · cases token with
        | function reference =>
            rw [resolveBlock_call rfl]
            exact .call rfl
        | code inner tokens =>
            rw [resolveBlock_nested]
            exact .nested
        | _ =>
            rw [resolveBlock_span (hvalid _ (by simp)) rfl []]
            exact .span rfl
      · have hcall : (Block.code content [first, argument]).isCall = true := by
          cases first with
          | function reference => rfl
          | _ => cases hkind
        rw [resolveBlock_call hcall]
        exact .call hcall

theorem forall₂_resolve {blocks : List Block} (h : ∀ block ∈ blocks, block.isValid = true) :
    List.Forall₂ (Resolved vars) blocks (resolve vars blocks) := by
  induction blocks with
  | nil => exact .nil
  | cons block blocks ih =>
      exact .cons (resolved_resolveBlock (h block (by simp)))
        (ih fun b hb => h b (List.mem_cons_of_mem block hb))

/-! ### What is left of a block is as good as the block -/

theorem renderBlock_of_render? {block : Block} {s : String} (h : block.render? vars = some s)
    (scope : Scope σ) : renderBlock scope vars block = pure s := by
  cases block with
  | function content => cases h
  | code content tokens => cases h
  | _ =>
      obtain rfl := Option.some.inj h
      rfl

theorem renderBlock_span {content s : String} {token : Block} (h : token.render? vars = some s)
    (scope : Scope σ) : renderBlock scope vars (.code content [token]) = pure s := by
  cases token with
  | function content => cases h
  | code content tokens => cases h
  | _ => simp only [renderBlock, renderCode, h]

theorem Resolved.renderBlock_eq {block left : Block} (h : Resolved vars block left)
    (scope : Scope σ) : renderBlock scope vars left = renderBlock scope vars block := by
  cases h with
  | alone h => rw [renderBlock_of_render? h, renderBlock_of_render? rfl]
  | span h => rw [renderBlock_span h, renderBlock_of_render? rfl]
  | reference => rfl
  | call _ => rfl
  | nested => rfl

theorem Resolved.isValid {block left : Block} (h : Resolved vars block left)
    (hvalid : block.isValid = true) : left.isValid = true := by
  cases h with
  | alone _ => simp [Block.isValid, Block.error?]
  | span _ => simp [Block.isValid, Block.error?]
  | reference => exact hvalid
  | call _ => exact hvalid
  | nested => exact hvalid

/-- What has been filled in leaves nothing to fill in. -/
theorem Resolved.resolveBlock_eq {block left : Block} (h : Resolved vars block left)
    (later : Variables) : resolveBlock later left = left := by
  cases h with
  | alone _ => rfl
  | span _ => rfl
  | reference => rfl
  | call hcall => exact resolveBlock_call hcall later
  | nested => exact resolveBlock_nested _ _ _ later

/-! ### Lists of blocks -/

section

variable {blocks left : List Block}

theorem renderEach_of_resolved (h : List.Forall₂ (Resolved vars) blocks left) (scope : Scope σ) :
    renderEach scope vars left = renderEach scope vars blocks := by
  induction h with
  | nil => rfl
  | cons hblock _ ih => rw [renderEach, renderEach, hblock.renderBlock_eq, ih]

theorem isValid_of_resolved (h : List.Forall₂ (Resolved vars) blocks left)
    (hvalid : ∀ block ∈ blocks, block.isValid = true) : ∀ block ∈ left, block.isValid = true := by
  induction h with
  | nil => simp
  | cons hblock _ ih =>
      rw [List.forall_mem_cons] at hvalid ⊢
      exact ⟨hblock.isValid hvalid.1, ih hvalid.2⟩

theorem resolve_of_resolved (h : List.Forall₂ (Resolved vars) blocks left) (later : Variables) :
    resolve later left = left := by
  induction h with
  | nil => rfl
  | cons hblock _ ih =>
      rw [resolve, List.map_cons, hblock.resolveBlock_eq]
      exact congrArg _ ih

theorem renderBlocks_of_isValid (h : ∀ block ∈ blocks, block.isValid = true) (scope : Scope σ) :
    renderBlocks scope vars blocks = renderEach scope vars blocks := by
  rw [renderBlocks, firstError?_eq_none_iff.2 h]

end

/-! ### The calls of blocks put together by hand -/

theorem Piece.recorded_render (piece : Piece) (scope : Scope σ) :
    Run.Recorded (piece.render scope) (piece.render scope.noted) := by
  cases piece with
  | text s => exact Run.recorded_pure s
  | call request =>
      cases hscope : scope request.target.skill request.target.name with
      | none =>
          rw [render_unknown hscope, render_unknown (Scope.noted_of_none hscope)]
          exact Run.recorded_fail _
      | some callee =>
          obtain ⟨callee', hnoted, hcall⟩ := Scope.exists_noted hscope
          rw [render_known hscope, render_known hnoted]
          exact fun limits w => ⟨_, (hcall request.received limits w).map Variables.input⟩

/-- Calling a function is what the request for the call is rendered as. -/
theorem call_eq_render (vars : Variables) (reference : String) (argument : Option Block) :
    ∃ received, ∀ {σ : Type} (scope : Scope σ),
      call scope vars reference argument = (Piece.call ⟨reference, received⟩).render scope :=
  ⟨_, fun _ => rfl⟩

theorem recorded_call (scope : Scope σ) (reference : String) (argument : Option Block) :
    Run.Recorded (call scope vars reference argument)
      (call scope.noted vars reference argument) := by
  obtain ⟨received, hcall⟩ := call_eq_render vars reference argument
  rw [hcall, hcall]
  exact Piece.recorded_render _ scope

theorem recorded_renderCode (scope : Scope σ) (content : String) (tokens : List Block) :
    Run.Recorded (renderCode scope vars content tokens)
      (renderCode scope.noted vars content tokens) := by
  unfold renderCode
  split
  · exact recorded_call scope _ none
  · exact recorded_call scope _ _
  · split
    · exact Run.recorded_pure _
    · exact Run.recorded_fail _
  · exact Run.recorded_fail _

theorem recorded_renderBlock (scope : Scope σ) (block : Block) :
    Run.Recorded (renderBlock scope vars block) (renderBlock scope.noted vars block) := by
  cases block with
  | code content tokens => exact recorded_renderCode scope content tokens
  | function content => exact recorded_call scope content none
  | _ => exact Run.recorded_pure _

theorem recorded_renderEach (scope : Scope σ) (blocks : List Block) :
    Run.Recorded (renderEach scope vars blocks) (renderEach scope.noted vars blocks) := by
  induction blocks with
  | nil => exact Run.recorded_pure ""
  | cons block blocks ih =>
      rw [renderEach, renderEach]
      exact (recorded_renderBlock scope block).bind fun first =>
        ih.bind fun others => Run.recorded_pure (first ++ others)

/-- **Filling in variables first.** Let blocks keep to the grammar, wherever they come from. With
the variables filled in they are rendered as they were: they end in the same way, leave the same
world, and make the same calls with the same variables in the same order. What was a text, a
variable or a value is a text now, what calls a function is what it was, and filling in once
more changes nothing, whatever the variables are then. -/
theorem render_resolve (scope : Scope σ) (vars : Variables) {blocks : List Block}
    (h : ∀ block ∈ blocks, block.isValid = true) :
    renderBlocks scope vars (resolve vars blocks) = renderBlocks scope vars blocks ∧
      (∀ limits w, ∃ calls : List Call,
        Run.Records (renderBlocks scope vars blocks) (renderBlocks scope.noted vars blocks)
            limits w calls ∧
          Run.Records (renderBlocks scope vars (resolve vars blocks))
            (renderBlocks scope.noted vars (resolve vars blocks)) limits w calls) ∧
      List.Forall₂ (Resolved vars) blocks (resolve vars blocks) ∧
      ∀ later, resolve later (resolve vars blocks) = resolve vars blocks := by
  have hresolved : List.Forall₂ (Resolved vars) blocks (resolve vars blocks) := forall₂_resolve h
  have hsame : ∀ {σ : Type} (scope : Scope σ),
      renderBlocks scope vars (resolve vars blocks) = renderBlocks scope vars blocks := by
    intro σ scope
    rw [renderBlocks_of_isValid h, renderBlocks_of_isValid (isValid_of_resolved hresolved h),
      renderEach_of_resolved hresolved]
  refine ⟨hsame scope, fun limits w => ?_, hresolved, resolve_of_resolved hresolved⟩
  have hrecorded : Run.Recorded (renderEach scope vars blocks)
      (renderEach scope.noted vars blocks) := recorded_renderEach scope blocks
  obtain ⟨calls, hcalls⟩ := hrecorded limits w
  rw [hsame, hsame, renderBlocks_of_isValid h, renderBlocks_of_isValid h]
  exact ⟨calls, hcalls, hcalls⟩

/-- Blocks of all shapes: the last one holds a span within a span, and fails when the call has
been made. -/
theorem render_resolve_by_hand :
    let scope : Scope Unit := fun _ name => some ⟨name, fun vars =>
      pure ((vars.set "x" "changed").setInput (name ++ "(" ++ vars.input ++ ")"))⟩
    let vars := Variables.ofPairs [("x", "1")]
    let blocks : List Block := [.text "$x", .variable "$x", .code "'$x'" [.value "'$x'"],
      .function "f", .code "g $x" [.function "g", .variable "$x"],
      .code "$x" [.code "$x" [.variable "$x"]]]
    (∀ block ∈ blocks, block.isValid = true) ∧
      (resolve vars blocks).map Block.kind = [.text, .text, .text, .function, .code, .code] ∧
      renderBlocks scope vars (resolve vars blocks) = renderBlocks scope vars blocks ∧
      ∀ later, resolve later (resolve vars blocks) = resolve vars blocks := by
  intro scope vars blocks
  have hvalid : ∀ block ∈ blocks, block.isValid = true :=
    firstError?_eq_none_iff.1 (by decide +kernel)
  obtain ⟨hsame, _, _, hlater⟩ := render_resolve scope vars hvalid
  exact ⟨hvalid, by decide +kernel, hsame, hlater⟩

end PromptPlan.Template
