import PromptPlan.Proofs.Template.Refusal
import PromptPlan.Proofs.Template.Resolving

/-!
# Spans within spans

A template that was read has no span within a span, but blocks can also be put together by hand.
The tests refuse every shape that the renderer has no case for, except one: a span that holds
nothing but a span.

A list of blocks has a *front*, all that stands before the first such span. What becomes of the list
is what becomes of its front, and if the front is rendered to its end and is not all of the list,
the rendering strands there, with the calls of the front made.
-/

namespace PromptPlan.Template

variable {σ : Type} {vars : Variables}

/-- Whether a block is a span that holds nothing but a span. -/
def Block.isNested : Block → Bool
  | .code _ [.code ..] => true
  | _ => false

/-! ### Blocks -/

theorem Block.isNested_iff {block : Block} :
    block.isNested = true ↔
      ∃ outer inner tokens, block = .code outer [.code inner tokens] := by
  constructor
  · intro h
    unfold Block.isNested at h
    split at h
    · exact ⟨_, _, _, rfl⟩
    · cases h
  · rintro ⟨outer, inner, tokens, rfl⟩
    rfl

/-- A block that keeps to the grammar is rendered as its piece, unless it is a span within a
span. -/
theorem renderBlock_eq_piece {block : Block} (hvalid : block.isValid = true)
    (hflat : block.isNested = false) (scope : Scope σ) (vars : Variables) :
    renderBlock scope vars block = (block.piece vars).render scope := by
  cases block with
  | code content tokens =>
      rcases shapeFlaw?_eq_none_iff.1 (isValid_code_iff.1 hvalid).2 with
        ⟨token, rfl⟩ | ⟨first, argument, rfl, hfirst, hargument⟩
      · cases token with
        | code inner tokens => cases hflat
        | _ => rfl
      · cases first with
        | function reference =>
            cases argument with
            | value s => rfl
            | «variable» s => rfl
            | _ => rcases hargument with h | h <;> cases h
        | _ => cases hfirst
  | _ => rfl

theorem renderBlock_nested {block : Block} (h : block.isNested = true) (scope : Scope σ)
    (vars : Variables) :
    renderBlock scope vars block = .fail (.malformedIn "Unexpected token" block.content) := by
  obtain ⟨outer, inner, tokens, rfl⟩ := Block.isNested_iff.1 h
  rfl

/-! ### Lists of blocks -/

/-- The blocks that stand before the first span within a span. -/
def front (blocks : List Block) : List Block :=
  blocks.takeWhile (!·.isNested)

/-- What is left to do when the front has been rendered: to fail at the span within a span, if
there is one. -/
def strand (blocks : List Block) (output : String) : Run σ String :=
  match blocks.find? Block.isNested with
  | none => pure output
  | some span => .fail (.malformedIn "Unexpected token" span.content)

section

variable {blocks : List Block}

theorem isValid_of_mem_front (hvalid : ∀ block ∈ blocks, block.isValid = true) :
    ∀ block ∈ front blocks, block.isValid = true :=
  fun block hmem => hvalid block ((List.takeWhile_prefix _).subset hmem)

theorem isNested_of_mem_front {block : Block} (h : block ∈ front blocks) :
    block.isNested = false := by
  simpa using List.mem_takeWhile_imp h

theorem front_of_flat (h : ∀ block ∈ blocks, block.isNested = false) : front blocks = blocks :=
  List.takeWhile_eq_self_iff.2 (by simpa using h)

theorem strand_bind (first output : String) :
    (strand blocks output >>= fun others => pure (first ++ others) : Run σ String) =
      strand blocks (first ++ output) := by
  unfold strand
  split
  · rfl
  · rfl

end

/-- Blocks that keep to the grammar are rendered piece by piece up to the first span within a
span. -/
theorem renderEach_eq_front {blocks : List Block} (h : ∀ block ∈ blocks, block.isValid = true)
    (scope : Scope σ) (vars : Variables) :
    renderEach scope vars blocks =
      renderPieces scope ((front blocks).map (Block.piece vars)) >>= strand blocks := by
  induction blocks with
  | nil => rfl
  | cons block blocks ih =>
      rw [List.forall_mem_cons] at h
      -- a flat head goes to the front and leaves the place to strand at where it was
      cases hnested : block.isNested with
      | true =>
          have hfront : front (block :: blocks) = [] := by simp [front, hnested]
          have hstrand : ∀ output, (strand (block :: blocks) output : Run σ String) =
              .fail (.malformedIn "Unexpected token" block.content) := by
            simp [strand, hnested]
          rw [renderEach, renderBlock_nested hnested, hfront]
          exact (hstrand "").symm
      | false =>
          have hfront : front (block :: blocks) = block :: front blocks := by
            simp [front, hnested]
          have hstrand : (strand (block :: blocks) : String → Run σ String) = strand blocks := by
            funext output
            simp [strand, hnested]
          rw [renderEach, renderBlock_eq_piece h.1 hnested, ih h.2, hfront, hstrand, List.map_cons,
            renderPieces]
          simp only [bind_assoc, pure_bind, strand_bind]

/-- Blocks that keep to the grammar are rendered as their front, and strand behind it. -/
theorem renderBlocks_eq_front {blocks : List Block} (h : ∀ block ∈ blocks, block.isValid = true)
    (scope : Scope σ) (vars : Variables) :
    renderBlocks scope vars (front blocks) =
        renderPieces scope ((front blocks).map (Block.piece vars)) ∧
      renderBlocks scope vars blocks =
        renderBlocks scope vars (front blocks) >>= strand blocks := by
  have hfront : renderBlocks scope vars (front blocks) =
      renderPieces scope ((front blocks).map (Block.piece vars)) := by
    have hvalid := isValid_of_mem_front h
    rw [renderBlocks_of_isValid hvalid]
    exact renderEach_eq fun block hmem =>
      renderBlock_eq_piece (hvalid block hmem) (isNested_of_mem_front hmem) scope vars
  exact ⟨hfront, by rw [hfront, renderBlocks_of_isValid h, renderEach_eq_front h]⟩

/-! ### Where a rendering strands -/

theorem isMalformed_bind_strand {x : Run σ String} (hx : x.NeverMalformed) (blocks : List Block)
    (limits : Limits) (w : World σ) :
    ((x >>= strand blocks) limits w).1.isMalformed = true ↔
      (∃ block ∈ blocks, block.isNested = true) ∧
        ∃ output after, x limits w = (.done output, after) := by
  have hend := hx limits w
  rcases hrun : x limits w with ⟨exit, after⟩
  rw [hrun] at hend
  -- only what is rendered to its end gets to the span within a span
  cases exit with
  | done output =>
      rw [Run.bind_of_done hrun, strand]
      cases hfind : blocks.find? Block.isNested with
      | none =>
          have hflat : ∀ block ∈ blocks, block.isNested ≠ true := List.find?_eq_none.1 hfind
          exact ⟨nofun, fun ⟨⟨block, hmem, hnested⟩, _⟩ => absurd hnested (hflat block hmem)⟩
      | some span =>
          have hspan : span ∈ blocks ∧ span.isNested = true :=
            ⟨List.mem_of_find?_eq_some hfind, List.find?_some hfind⟩
          exact ⟨fun _ => ⟨⟨span, hspan⟩, output, after, rfl⟩, fun _ => rfl⟩
  | failed e =>
      rw [Run.bind_of_failed hrun, hend]
      exact ⟨nofun, fun ⟨_, _, _, h⟩ => nomatch h⟩
  | interrupted =>
      rw [Run.bind_of_interrupted hrun]
      exact ⟨nofun, fun ⟨_, _, _, h⟩ => nomatch h⟩
  | stuck =>
      rw [Run.bind_of_stuck hrun]
      exact ⟨nofun, fun ⟨_, _, _, h⟩ => nomatch h⟩

/-- What is left to do behind the front calls nothing. -/
theorem records_bind_strand {x : Run σ String} {x' : Run (Journaled σ Call) String}
    {limits : Limits} {w : World σ} {calls : List Call} (h : Run.Records x x' limits w calls)
    (blocks : List Block) :
    Run.Records (x >>= strand blocks) (x' >>= strand blocks) limits w calls := by
  have hstrand : ∀ output after, Run.Records (strand blocks output : Run σ String)
      (strand blocks output : Run (Journaled σ Call) String) limits after [] := by
    intro output after
    unfold strand
    split
    · exact Run.records_pure output limits after
    · exact Run.records_fail _ limits after
  rcases hrun : x limits w with ⟨exit, after⟩
  cases exit with
  | done output =>
      have hall := h.bind hrun (hstrand output after)
      rwa [List.append_nil] at hall
  | _ => exact h.bind_of_not_done (by rw [hrun]; nofun)

/-- Without a span within a span the front is everything. -/
theorem neverMalformed_of_flat {blocks : List Block}
    (hflat : ∀ block ∈ blocks, block.isNested = false) (scope : Scope σ) (vars : Variables)
    (hvalid : ∀ block ∈ blocks, block.isValid = true) :
    (renderBlocks scope vars blocks).NeverMalformed := by
  have hfront := (renderBlocks_eq_front hvalid scope vars).1
  rw [front_of_flat hflat] at hfront
  rw [hfront]
  exact neverMalformed_renderPieces scope _

theorem renderBlocks_of_isValid_eq_false {blocks : List Block}
    (h : ∃ block ∈ blocks, block.isValid = false) (scope : Scope σ) (vars : Variables)
    (limits : Limits) (w : World σ) :
    ∃ e, firstError? blocks = some e ∧ e.isMalformed = true ∧
      renderBlocks scope vars blocks limits w = (.failed e, w) ∧
      Run.Records (renderBlocks scope vars blocks) (renderBlocks scope.noted vars blocks)
        limits w [] := by
  obtain ⟨e, he⟩ := exists_firstError? h
  have hfail : ∀ {σ : Type} (scope : Scope σ), renderBlocks scope vars blocks = .fail e := by
    intro σ scope
    rw [renderBlocks, he]
  refine ⟨e, he, isMalformed_of_firstError? he, ?_, ?_⟩
  · rw [hfail]
    rfl
  · rw [hfail, hfail]
    exact Run.records_fail e limits w

/-- **Blocks put together by hand.** If one of them breaks the grammar, their rendering fails as
malformed at once, and nothing is called. If all of them keep to it, the calls that are made are
those of their front, and the rendering fails as malformed nevertheless exactly when there is a
span within a span and the front is rendered to its end. So where no span holds just a span the
tests are enough: blocks that keep to the grammar are not found malformed later, whatever the
functions do, and a rendering that fails as malformed has called nothing. -/
theorem isMalformed_renderBlocks (scope : Scope σ) (vars : Variables) (blocks : List Block)
    (limits : Limits) (w : World σ) :
    ((∃ block ∈ blocks, block.isValid = false) →
        ∃ e, firstError? blocks = some e ∧ e.isMalformed = true ∧
          renderBlocks scope vars blocks limits w = (.failed e, w) ∧
          Run.Records (renderBlocks scope vars blocks) (renderBlocks scope.noted vars blocks)
            limits w []) ∧
      ((∀ block ∈ blocks, block.isValid = true) →
        renderBlocks scope vars blocks =
            renderBlocks scope vars (front blocks) >>= strand blocks ∧
          (∃ calls : List Call,
            Run.Records (renderBlocks scope vars blocks) (renderBlocks scope.noted vars blocks)
                limits w calls ∧
              Rendering scope ((front blocks).map (Block.piece vars)) calls
                (renderBlocks scope vars (front blocks) limits w).1) ∧
          ((renderBlocks scope vars blocks limits w).1.isMalformed = true ↔
            (∃ block ∈ blocks, block.isNested = true) ∧
              ∃ output after,
                renderBlocks scope vars (front blocks) limits w = (.done output, after))) ∧
      ((∀ block ∈ blocks, block.isNested = false) →
        ((∀ block ∈ blocks, block.isValid = true) →
            (renderBlocks scope vars blocks).NeverMalformed) ∧
          ((renderBlocks scope vars blocks limits w).1.isMalformed = true →
            (renderBlocks scope vars blocks limits w).2 = w ∧
              Run.Records (renderBlocks scope vars blocks)
                (renderBlocks scope.noted vars blocks) limits w [])) := by
  refine ⟨fun hinvalid => renderBlocks_of_isValid_eq_false hinvalid scope vars limits w,
    fun hvalid => ?_, fun hflat => ⟨neverMalformed_of_flat hflat scope vars, fun hend => ?_⟩⟩
  · obtain ⟨hfront, hblocks⟩ := renderBlocks_eq_front hvalid scope vars
    obtain ⟨hfront', hblocks'⟩ := renderBlocks_eq_front hvalid scope.noted vars
    obtain ⟨calls, hrecords, hrendering⟩ :=
      exists_calls scope ((front blocks).map (Block.piece vars)) limits w
    rw [← hfront] at hrendering
    rw [← hfront, ← hfront'] at hrecords
    have hsound : (renderBlocks scope vars (front blocks)).NeverMalformed := by
      rw [hfront]
      exact neverMalformed_renderPieces scope _
    rw [hblocks, hblocks']
    exact ⟨rfl, ⟨calls, records_bind_strand hrecords blocks, hrendering⟩,
      isMalformed_bind_strand hsound blocks limits w⟩
  · have hinvalid : ∃ block ∈ blocks, block.isValid = false := by
      by_contra hnone
      have hvalid : ∀ block ∈ blocks, block.isValid = true := by simpa using hnone
      rw [neverMalformed_of_flat hflat scope vars hvalid limits w] at hend
      cases hend
    obtain ⟨e, _, _, hrun, hrecords⟩ :=
      renderBlocks_of_isValid_eq_false hinvalid scope vars limits w
    exact ⟨by rw [hrun], hrecords⟩

/-- The call in front of a span within a span has been made when the rendering fails. -/
theorem malformed_behind_call :
    let scope : Scope (List String) := fun _ name => some ⟨name, fun vars => do
      Run.host fun called => ((), called ++ [name])
      pure vars⟩
    let blocks := [Block.ofFunction "f", .ofCode "'a'" [.ofCode "'a'" [.ofValue "'a'"]]]
    (∀ block ∈ blocks, block.isValid = true) ∧
      renderBlocks scope .empty blocks .none (.start []) =
        (.failed (.malformedIn "Unexpected token" "'a'"), .start ["f"]) := by
  intro scope blocks
  exact ⟨firstError?_eq_none_iff.1 (by decide +kernel), by rfl⟩

end PromptPlan.Template
