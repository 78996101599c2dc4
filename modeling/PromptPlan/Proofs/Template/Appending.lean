import PromptPlan.Proofs.Template.Borders

/-!
# What is appended to a template

The braces that close a span are sought in all of the text that follows it, so what is written
behind a template may change how the template itself is read: a quote closes a literal that was
left open, and with it goes the rule that such a span ends at the first braces.

Nothing of this happens to a template whose spans are well formed. The search passes over the
inside of such a span whatever follows (`Span.spanBody_append`), so each span is cut off where it
was. What is left is the end of the template: text that follows it goes on in the text block
that is written behind it, as long as the two halves of an opening do not meet there.
-/

namespace PromptPlan.Template

/-! ### One list of blocks behind another -/

/-- The blocks of two templates one behind the other: a text that ends the first and a text that
begins the second are one text. -/
def joinBlocks : List Block → List Block → List Block
  | [], after => after
  | [.text s], .text t :: after => .text (s ++ t) :: after
  | block :: rest, after => block :: joinBlocks rest after

theorem joinBlocks_append {rest : List Block} (hrest : rest ≠ []) (before after : List Block) :
    joinBlocks (before ++ rest) after = before ++ joinBlocks rest after := by
  induction before with
  | nil => rfl
  | cons block before ih =>
      have hne : before ++ rest ≠ [] := List.append_ne_nil_of_right_ne_nil before hrest
      rw [List.cons_append, joinBlocks, ih, List.cons_append]
      exact fun _ _ _ _ _ hnil => hne hnil

/-- A code block is never joined with what follows it. -/
theorem joinBlocks_codeBlock (raw : List Char) (rest after : List Block) :
    joinBlocks (codeBlock raw :: rest) after = codeBlock raw :: joinBlocks rest after := by
  rw [joinBlocks]
  rintro s t after' - h
  rw [codeBlock_eq] at h
  cases h

/-- A text at the end, in front of a text that may be empty. -/
theorem joinBlocks_textSegment (s t : List Char) (rest : List Segment)
    (hrest : ∀ u, rest.head? ≠ some (.text u)) :
    joinBlocks ((textSegment s).map Segment.block) ((textSegment t ++ rest).map Segment.block) =
      (textSegment (s ++ t) ++ rest).map Segment.block := by
  cases s with
  | nil => rfl
  | cons c s =>
      cases t with
      | cons d t => simp [textSegment, Segment.block, joinBlocks, String.append_assoc]
      | nil =>
          cases rest with
          | nil => simp [textSegment, Segment.block, joinBlocks]
          | cons segment rest =>
              cases segment with
              | text u => exact absurd rfl (hrest u)
              | span raw => simp [textSegment, Segment.block, joinBlocks, codeBlock_eq]

/-! ### Where the appended text begins -/

theorem Unpaired.segments_append {s : List Char} (h : Unpaired '{' s) (t : List Char) :
    (segments (s ++ t)).map Segment.block =
      joinBlocks ((textSegment s).map Segment.block) ((segments t).map Segment.block) := by
  have happend := cutOpen_append h.1 h.2 t
  cases hcut : cutOpen t with
  | mk text inside? =>
      rw [hcut] at happend
      have hjoin := joinBlocks_textSegment s t [] (by simp)
      simp only [List.append_nil] at hjoin
      cases inside? with
      | none => rw [segments_of_cutOpen happend, segments_of_cutOpen hcut, hjoin]
      | some inside =>
          cases hbody : spanBody inside with
          | none =>
              rw [segments_of_unclosed happend hbody, segments_of_unclosed hcut hbody, hjoin]
          | some parts =>
              obtain ⟨raw, after⟩ := parts
              rw [segments_of_cut happend hbody, segments_of_cut hcut hbody]
              exact (joinBlocks_textSegment s text _ (by simp)).symm

/-- The text of a last text block, which nothing was cut off from. -/
theorem unpaired_of_last {s : List Char}
    (hopen : ∀ text, Segment.text text ∈ textSegment s → ¬['{', '{'] <:+: text)
    (hlast : s.getLast? ≠ some '{') : Unpaired '{' s := by
  cases s with
  | nil => exact unpaired_nil '{'
  | cons c s => exact ⟨hopen _ (text_mem_textSegment.2 ⟨rfl, by simp⟩), hlast⟩

/-! ### The whole -/

/-- The induction is on the spans of the first text: each of them is cut off where it was, and
the last text meets what was appended. -/
theorem segments_append {s : List Char}
    (hvalid : ∀ segment ∈ segments s, segment.block.isValid = true)
    (hopen : ∀ text, Segment.text text ∈ segments s → ¬['{', '{'] <:+: text)
    (hlast : s.getLast? ≠ some '{') (t : List Char) :
    (segments (s ++ t)).map Segment.block =
      joinBlocks ((segments s).map Segment.block) ((segments t).map Segment.block) := by
  fun_induction segments s with
  | case1 => exact (unpaired_of_last hopen hlast).segments_append t
  | case2 => exact (unpaired_of_last hopen hlast).segments_append t
  | case3 s text inside hcut raw after hbody _ ih =>
      have hspan : Span raw (codeBlock raw).tokens := span_of_isValid (hvalid (.span raw) (by simp))
      obtain ⟨htext, hborder⟩ := unpaired_of_cutOpen hcut
      have hs : s = text ++ ((Segment.span raw).write ++ after) := by
        rw [append_of_cutOpen hcut, append_of_spanBody hbody]
        simp [Segment.write]
      have hafter : after.getLast? ≠ some '{' := by
        intro h
        exact hlast (by rw [hs, List.getLast?_append, List.getLast?_append, h]; rfl)
      have hrest := ih (fun segment h => hvalid segment (by simp [h]))
        (fun text h => hopen text (by simp [h])) hafter
      rw [hs, List.append_assoc, List.append_assoc, segments_append_span htext hborder hspan]
      simp only [List.map_append, List.map_cons]
      rw [hrest, joinBlocks_append (by simp)]
      exact congrArg _ (joinBlocks_codeBlock raw _ _).symm

/-- **Appending.** If the spans of a template are well formed, no text in it holds an opening
and the template does not end in half of one, then it keeps its meaning whatever is appended:
its blocks come first, then those of the text that was appended, and two texts that meet are
one. -/
theorem read_append (first second : String)
    (hvalid : ∀ block ∈ read first, block.isValid = true)
    (hopen : ∀ s, Block.text s ∈ read first → ¬['{', '{'] <:+: s.toList)
    (hlast : first.toList.getLast? ≠ some '{') :
    read (first ++ second) = joinBlocks (read first) (read second) := by
  rw [read, String.toList_append]
  refine segments_append (fun segment h => hvalid _ (List.mem_map_of_mem h)) (fun text h => ?_)
    hlast _
  have hblock : Block.text (String.ofList text) ∈ read first := List.mem_map_of_mem h
  simpa using hopen _ hblock

/-- A literal of the first template holds braces and its own quote, and the second begins with
the rest of a text, goes on with a span and ends in an opening that nothing closes. -/
theorem read_append_braces :
    let first := "it\x7b\x7b f '\x7d\x7d\\'\x7b\x7b' \x7d\x7d\x7d it"
    let second := "'s\x7b\x7b$x\x7d\x7d\x7b\x7b \"\x7d\x7d \x7b\x7b"
    let span := codeBlock " f '\x7d\x7d\\'\x7b\x7b' ".toList
    read first = [.text "it", span, .text "\x7d it"] ∧
      (∀ block ∈ read first, block.isValid = true) ∧
      (∀ s, Block.text s ∈ read first → ¬['{', '{'] <:+: s.toList) ∧
      first.toList.getLast? ≠ some '{' ∧
      read (first ++ second) = joinBlocks (read first) (read second) := by
  intro first second span
  have hinside : Inside '\'' ['}', '}', '\\', '\'', '{', '{'] :=
    .plain (by decide) (by decide) (.plain (by decide) (by decide) (.escaped
      (.plain (by decide) (by decide) (.plain (by decide) (by decide) .nil))))
  have hblank : Text.IsBlanks [' '] := Text.isBlanks_cons.2 ⟨by decide, Text.isBlanks_nil⟩
  have hname : IsName ['f'] := ⟨by decide, List.forall_mem_singleton.2 (by decide)⟩
  have hspan : Span " f '\x7d\x7d\\'\x7b\x7b' ".toList _ := .mk hblank
    (.callWith (.name hname) hblank (by decide) (.ofLiteral (.mk rfl hinside))) hblank
  have hread : read first = [.text "it", span, .text "\x7d it"] := by
    have hcut := segments_append_span (s := ['i', 't']) (by decide) (by decide) hspan
      ['}', ' ', 'i', 't']
    have hrest : segments ['}', ' ', 'i', 't'] = [.text ['}', ' ', 'i', 't']] :=
      segments_of_unopened (by decide)
    have hfirst : first.toList =
        ['i', 't'] ++ ((Segment.span " f '\x7d\x7d\\'\x7b\x7b' ".toList).write ++
          ['}', ' ', 'i', 't']) := by decide
    rw [read, hfirst, hcut, hrest]
    rfl
  have hvalid : ∀ block ∈ read first, block.isValid = true := by
    simp only [hread, List.forall_mem_cons]
    exact ⟨rfl, hspan.codeBlock_eq.2, rfl, List.forall_mem_nil _⟩
  have hopen : ∀ s, Block.text s ∈ read first → ¬['{', '{'] <:+: s.toList := by
    intro s hs
    have hs : s = "it" ∨ s = "\x7d it" := by simpa [hread, span, codeBlock_eq] using hs
    rcases hs with rfl | rfl <;> decide
  have hlast : first.toList.getLast? ≠ some '{' := by decide
  exact ⟨hread, hvalid, hopen, hlast, read_append first second hvalid hopen hlast⟩

end PromptPlan.Template
