import PromptPlan.Proofs.Template.Calls
import PromptPlan.Proofs.Text.Case

/-!
# The variables that a template mentions

A block mentions a variable if it is one, or if one of its tokens does. In a template that keeps
to the grammar the names are ASCII, whatever else the template is written in, so that it does not
matter by which case they are compared.

A template that calls nothing is rendered without asking anybody: its blocks are texts, and spans
that hold one value or one variable. What it is rendered as depends on the variables that it
mentions, and on nothing else (`plainText_congr`). Calls are different in this, for a function that
is called is handed all variables there are.
-/

namespace PromptPlan.Template

variable {σ : Type} {vars vars' : Variables} {name template : String} {block : Block}

/-- A variable of that name is somewhere in a block. -/
inductive Mentions (name : String) : Block → Prop
  | itself {content : String} : variableName content = name → Mentions name (.variable content)
  | token {content : String} {tokens : List Block} {token : Block} :
      token ∈ tokens → Mentions name token → Mentions name (.code content tokens)

/-- A template mentions a variable if one of its blocks does. -/
def MentionedIn (template name : String) : Prop :=
  ∃ block ∈ read template, Mentions name block

theorem isName_variableName {content : String} (h : variableFlaw? content = none) :
    IsName (variableName content).toList := by
  rw [← String.ofList_toList (s := content), variableFlaw?_eq_none_iff] at h
  generalize hchars : content.toList = chars at h
  cases h with
  | mk hname =>
      rw [variableName, hchars]
      simpa using hname

/-- The names in a block that keeps to the grammar are ASCII. -/
theorem Mentions.isAscii (h : Mentions name block) (hvalid : block.isValid = true) :
    Text.IsAscii name.toList := by
  induction h with
  | itself hname =>
      have hflaw := isName_variableName (isValid_variable.1 hvalid)
      rw [hname] at hflaw
      exact fun c hc => (toNat_of_isIdentifier (hflaw.2 c hc)).2
  | token hmem _ ih => exact ih ((isValid_code_iff.1 hvalid).1 _ hmem)

/-- The tokens of a template are not nested any further. -/
theorem kind_ne_code_of_mem_tokens (hmem : block ∈ read template) {token : Block}
    (htoken : token ∈ block.tokens) : token.kind ≠ .code := by
  obtain ⟨segment, _, rfl⟩ := List.mem_map.1 hmem
  cases segment with
  | text s => cases htoken
  | span raw =>
      rw [Segment.block, codeBlock_eq] at htoken
      obtain ⟨word, _, rfl⟩ := List.mem_map.1 htoken
      unfold wordBlock
      split
      · split_ifs <;> simp [Block.ofValue, Block.ofVariable, Block.ofFunction, Block.kind]
      · simp [Block.ofFunction, Block.kind]

/-! ### Blocks without calls -/

/-- A text, or a span that holds a value or a variable. -/
inductive Plain : Block → Prop
  | text {s : String} : Plain (.text s)
  | value {outer content : String} : Plain (.code outer [.value content])
  | «variable» {outer content : String} : Plain (.code outer [.variable content])

/-- A block of a template that calls nothing is plain. -/
theorem plain_of_isCall (hmem : block ∈ read template) (hvalid : block.isValid = true)
    (hcall : block.isCall = false) : Plain block := by
  obtain ⟨segment, _, rfl⟩ := List.mem_map.1 hmem
  cases segment with
  | text s => exact .text
  | span raw =>
      have hspan := span_of_isValid hvalid
      obtain ⟨content, tokens, hcode⟩ : ∃ content tokens, codeBlock raw = .code content tokens :=
        ⟨_, _, codeBlock_eq raw⟩
      rw [Segment.block, hcode] at hcall ⊢
      rw [hcode, Block.tokens] at hspan
      cases hspan with
      | mk _ hbody _ =>
          cases hbody with
          | operand h =>
              cases h with
              | ofLiteral _ => exact .value
              | ofVariable _ => exact .variable
          | call _ => cases hcall
          | callWith _ _ _ _ => cases hcall

theorem Plain.exists_piece (h : Plain block) (vars : Variables) :
    ∃ s, block.piece vars = .text s := by
  cases h <;> exact ⟨_, rfl⟩

theorem Plain.piece_congr (h : Plain block)
    (hagree : ∀ name, Mentions name block → vars'.get? name = vars.get? name) :
    block.piece vars' = block.piece vars := by
  cases h with
  | text => rfl
  | value => rfl
  | @«variable» outer content =>
      have hget := hagree _ (.token List.mem_cons_self (.itself rfl))
      exact congrArg (fun value : Option String => Piece.text (value.getD "")) hget

/-! ### Templates without calls -/

/-- What a template without calls is rendered as. -/
def plainText (vars : Variables) (template : String) : String :=
  fill ((read template).map (Block.piece vars)) []

theorem renderPieces_of_requests_nil {pieces : List Piece} (h : requests pieces = [])
    (scope : Scope σ) : renderPieces scope pieces = pure (fill pieces []) := by
  induction pieces with
  | nil => rfl
  | cons piece pieces ih =>
      cases piece with
      | text s =>
          rw [renderPieces_text, ih h, pure_bind]
          rfl
      | call request => cases h

theorem requests_of_plain {blocks : List Block} (h : ∀ block ∈ blocks, Plain block) :
    requests (blocks.map (Block.piece vars)) = [] := by
  induction blocks with
  | nil => rfl
  | cons block blocks ih =>
      obtain ⟨s, hs⟩ := (h block List.mem_cons_self).exists_piece vars
      rw [List.map_cons, hs]
      exact ih fun b hb => h b (List.mem_cons_of_mem block hb)

section

variable (hvalid : ∀ block ∈ read template, block.isValid = true)
  (hcalls : ∀ block ∈ read template, block.isCall = false)

include hvalid hcalls

theorem render_of_no_calls (scope : Scope σ) (vars : Variables) :
    render scope vars template = pure (plainText vars template) := by
  rw [render_eq hvalid]
  refine renderPieces_of_requests_nil (requests_of_plain fun block hmem => ?_) scope
  exact plain_of_isCall hmem (hvalid block hmem) (hcalls block hmem)

/-- Only the variables that a template mentions matter to it, if it calls nothing. -/
theorem plainText_congr
    (hagree : ∀ name, MentionedIn template name → vars'.get? name = vars.get? name) :
    plainText vars' template = plainText vars template := by
  have hpieces : (read template).map (Block.piece vars') =
      (read template).map (Block.piece vars) := by
    refine List.map_congr_left fun block hmem => ?_
    have hplain := plain_of_isCall hmem (hvalid block hmem) (hcalls block hmem)
    exact hplain.piece_congr fun name hname => hagree name ⟨block, hmem, hname⟩
  rw [plainText, plainText, hpieces]

end

end PromptPlan.Template
