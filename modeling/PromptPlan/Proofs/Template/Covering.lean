import PromptPlan.Proofs.Template.Resolving

/-!
# What filling in covers up

The variables of blocks that break the grammar can be filled in as well. A block that is left
as it is keeps its flaw, and whoever renders what has come out is told of it; a block in whose
place a text was put has lost it. So a block with a flaw has to be left, and a span is for
this reason only filled in if its first token has none. But a span has more tokens than the
first. One that goes on behind a value or a variable always breaks the grammar, and it is
replaced by the text of that value or variable, with everything wrong that stands behind it.

Of a list of any blocks, what is left are the flaws of those that are not filled in, in their
order (`firstError?_resolve`). In a template there is only one way for a flaw to be filled in:
it is that of a span whose first token is a good value or variable and not the only one.
-/

namespace PromptPlan.Template

variable {vars : Variables} {template : String} {block : Block}

/-! ### What is filled in -/

/-- Whether a block stands for a text by itself. -/
def Block.standsAlone : Block → Bool
  | .text _ | .variable _ | .value _ => true
  | .function _ | .code .. => false

/-- Whether a text is put in the place of a block, whatever the variables are. -/
def Block.isFilled : Block → Bool
  | .variable _ | .value _ => true
  | .code _ (token :: _) => token.isValid && token.standsAlone
  | _ => false

/-- Whether a block is filled in although it holds more than what is put in its place. -/
def Block.isOverlooked : Block → Bool
  | .code _ (first :: _ :: _) => first.isValid && first.standsAlone
  | _ => false

theorem Block.exists_render? (h : block.standsAlone = true) (vars : Variables) :
    ∃ s, block.render? vars = some s := by
  cases block with
  | function content => cases h
  | code content tokens => cases h
  | _ => exact ⟨_, rfl⟩

theorem Block.render?_eq_none (h : block.standsAlone = false) (vars : Variables) :
    block.render? vars = none := by
  cases block with
  | function content => rfl
  | code content tokens => rfl
  | _ => cases h

theorem exists_resolveBlock (h : block.isFilled = true) (vars : Variables) :
    ∃ s, resolveBlock vars block = .text s := by
  cases block with
  | text s => cases h
  | «variable» content => exact ⟨_, rfl⟩
  | value content => exact ⟨_, rfl⟩
  | function content => cases h
  | code content tokens =>
      cases tokens with
      | nil => cases h
      | cons token tokens =>
          obtain ⟨hvalid, halone⟩ : token.isValid = true ∧ token.standsAlone = true := by
            simpa [Block.isFilled] using h
          obtain ⟨s, hs⟩ := token.exists_render? halone vars
          exact ⟨s, resolveBlock_span hvalid hs tokens⟩

theorem resolveBlock_of_not_isFilled (h : block.isFilled = false) (vars : Variables) :
    resolveBlock vars block = block := by
  cases block with
  | text s => rfl
  | «variable» content => cases h
  | value content => cases h
  | function content => rfl
  | code content tokens =>
      cases tokens with
      | nil => rfl
      | cons token tokens =>
          rw [Block.isFilled, Bool.and_eq_false_iff] at h
          rcases h with hinvalid | halone
          · simp [resolveBlock, hinvalid]
          · simp [resolveBlock, token.render?_eq_none halone]

/-! ### The flaws that are left -/

theorem error?_resolveBlock (vars : Variables) (block : Block) :
    (resolveBlock vars block).error? = if block.isFilled then none else block.error? := by
  cases h : block.isFilled with
  | true =>
      obtain ⟨s, hs⟩ := exists_resolveBlock h vars
      rw [hs]
      rfl
  | false =>
      rw [resolveBlock_of_not_isFilled h]
      rfl

/-- Filling in leaves the flaws of the blocks that are not filled in, and no others. -/
theorem firstError?_resolve (vars : Variables) (blocks : List Block) :
    firstError? (resolve vars blocks) = firstError? (blocks.filter (!·.isFilled)) := by
  induction blocks with
  | nil => rfl
  | cons block blocks ih =>
      rw [resolve, List.map_cons, firstError?, error?_resolveBlock]
      rw [resolve] at ih
      cases h : block.isFilled with
      | true => simp [h, ih]
      | false => simp [h, ih, firstError?]

/-- Which blocks without a flaw there are does not matter. -/
theorem firstError?_filter_congr {blocks : List Block} {p q : Block → Bool}
    (h : ∀ block ∈ blocks, block.isValid = false → p block = q block) :
    firstError? (blocks.filter p) = firstError? (blocks.filter q) := by
  induction blocks with
  | nil => rfl
  | cons block blocks ih =>
      rw [List.forall_mem_cons] at h
      cases hflaw : block.error? with
      | none =>
          have hdrop : ∀ p : Block → Bool,
              firstError? ((block :: blocks).filter p) = firstError? (blocks.filter p) := by
            intro p
            rw [List.filter_cons]
            split
            · rw [firstError?, hflaw, Option.none_or]
            · rfl
          rw [hdrop, hdrop, ih h.2]
      | some e =>
          have hsame : p block = q block := h.1 (by rw [Block.isValid, hflaw]; rfl)
          rw [List.filter_cons, List.filter_cons, hsame]
          split
          · rw [firstError?, firstError?, ih h.2]
          · exact ih h.2

theorem isValid_resolveBlock_iff :
    (resolveBlock vars block).isValid = true ↔
      block.isValid = true ∨ block.isFilled = true := by
  rw [Block.isValid, error?_resolveBlock, Block.isValid]
  cases block.isFilled <;> simp

/-! ### Templates -/

theorem Block.isOverlooked_iff :
    block.isOverlooked = true ↔ ∃ content first second rest,
      block = .code content (first :: second :: rest) ∧
        first.isValid = true ∧ first.standsAlone = true := by
  constructor
  · intro h
    unfold Block.isOverlooked at h
    split at h
    · rename_i content first second rest
      rw [Bool.and_eq_true] at h
      exact ⟨content, first, second, rest, rfl, h⟩
    · cases h
  · rintro ⟨content, first, second, rest, rfl, hvalid, halone⟩
    rw [Block.isOverlooked, hvalid, halone]
    rfl

theorem Block.isFilled_of_isOverlooked (h : block.isOverlooked = true) :
    block.isFilled = true := by
  obtain ⟨content, first, second, rest, rfl, hvalid, halone⟩ := Block.isOverlooked_iff.1 h
  rw [Block.isFilled, hvalid, halone]
  rfl

/-- The text of the first token is put in its place. -/
theorem resolveBlock_of_isOverlooked (h : block.isOverlooked = true) (vars : Variables) :
    ∃ content first rest s, block = .code content (first :: rest) ∧
      first.render? vars = some s ∧ resolveBlock vars block = .text s := by
  obtain ⟨content, first, second, rest, rfl, hvalid, halone⟩ := Block.isOverlooked_iff.1 h
  obtain ⟨s, hs⟩ := first.exists_render? halone vars
  exact ⟨content, first, second :: rest, s, rfl, hs, resolveBlock_span hvalid hs _⟩

/-- A span that goes on behind what stands for a text breaks the grammar. -/
theorem Block.isValid_of_isOverlooked (h : block.isOverlooked = true) :
    block.isValid = false := by
  obtain ⟨content, first, second, rest, rfl, _, halone⟩ := Block.isOverlooked_iff.1 h
  by_contra hvalid
  rw [Bool.not_eq_false] at hvalid
  rcases shapeFlaw?_eq_none_iff.1 (isValid_code_iff.1 hvalid).2 with
    ⟨token, htokens⟩ | ⟨reference, argument, htokens, hkind, _⟩
  · cases htokens
  · obtain ⟨rfl, -⟩ := List.cons.inj htokens
    cases first with
    | function content => cases halone
    | _ => cases hkind

/-- In a template, a flaw that is filled in is that of a span that goes on. -/
theorem isOverlooked_of_isFilled (hmem : block ∈ read template) (hinvalid : block.isValid = false)
    (h : block.isFilled = true) : block.isOverlooked = true := by
  obtain ⟨segment, _, rfl⟩ := List.mem_map.1 hmem
  cases segment with
  | text s => cases h
  | span raw =>
      rw [Segment.block, codeBlock_eq] at hinvalid h ⊢
      generalize (words (Text.trimChars raw)).map wordBlock = tokens at hinvalid h ⊢
      cases tokens with
      | nil => cases h
      | cons first rest =>
          cases rest with
          -- a span with one token has no flaw but that of its token
          | nil =>
              have hfirst : first.isValid = true := by
                rw [Block.isFilled, Bool.and_eq_true] at h
                exact h.1
              rw [isValid_code_iff.2 ⟨by simpa using hfirst, rfl⟩] at hinvalid
              cases hinvalid
          | cons second rest => exact h

/-- **Flaws and filling in.** Whatever the variables are, filling them in leaves a template that
keeps to the grammar as good as it was. What has come out of any template keeps to the grammar
exactly when each of its blocks did or is a span that goes on behind a good value or variable;
the flaw of such a span is lost, a text is in its place, and the first of the other flaws is the
one that is found. So where no span goes on like that, no flaw is lost and none is gained. -/
theorem isValid_resolve_read (vars : Variables) (template : String) :
    ((∀ block ∈ resolve vars (read template), block.isValid = true) ↔
        ∀ block ∈ read template, block.isValid = true ∨ block.isOverlooked = true) ∧
      firstError? (resolve vars (read template)) =
        firstError? ((read template).filter (!·.isOverlooked)) ∧
      (∀ block ∈ read template, block.isOverlooked = true →
        block.isValid = false ∧ ∃ content first rest s, block = .code content (first :: rest) ∧
          first.render? vars = some s ∧ resolveBlock vars block = .text s) ∧
      ((∀ block ∈ read template, block.isOverlooked = false) →
        firstError? (resolve vars (read template)) = firstError? (read template)) := by
  have hfilled : ∀ block ∈ read template, block.isValid = false →
      block.isFilled = block.isOverlooked := by
    intro block hmem hinvalid
    rw [Bool.eq_iff_iff]
    exact ⟨isOverlooked_of_isFilled hmem hinvalid, Block.isFilled_of_isOverlooked⟩
  have hflaws : firstError? (resolve vars (read template)) =
      firstError? ((read template).filter (!·.isOverlooked)) := by
    rw [firstError?_resolve]
    exact firstError?_filter_congr fun block hmem hinvalid => by rw [hfilled block hmem hinvalid]
  refine ⟨?_, hflaws, fun block _ h => ?_, fun hnone => ?_⟩
  · rw [resolve, List.forall_mem_map]
    refine forall₂_congr fun block hmem => ?_
    rw [isValid_resolveBlock_iff]
    cases hvalid : block.isValid with
    | true => simp
    | false => rw [hfilled block hmem hvalid]
  · exact ⟨Block.isValid_of_isOverlooked h, resolveBlock_of_isOverlooked h vars⟩
  · rw [hflaws, List.filter_eq_self.2 (by simpa using hnone)]

/-- The second variable of the span is not called for, and with the first one unset nothing is
left of the span at all. -/
theorem resolve_second_variable :
    let blocks := read "a {{$a $b}}"
    firstError? blocks =
        some (.malformedIn "Unexpected second token found: $b" "$a $b") ∧
      firstError? (resolve (.ofPairs [("a", "1"), ("b", "2")]) blocks) = none ∧
      firstError? (resolve .empty blocks) = none ∧
      (resolve .empty blocks).map Block.content = ["a ", ""] := by
  decide +kernel

end PromptPlan.Template
