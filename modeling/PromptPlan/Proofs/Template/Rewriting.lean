import PromptPlan.Proofs.Template.Borders
import PromptPlan.Proofs.Template.Search

/-!
# Writing a template anew

A template that is written anew from its blocks, with exactly one space on either side of every
span, reads as before. A malformed span may be closed only because some quote in it is never
closed, and whether it is depends on all of the text behind it, in which blanks change as well.

What carries the argument is that the automaton of the search cannot tell spans apart that differ
in the blanks at their ends (`run_write_pad`), wherever it stands when it comes upon them.
-/

namespace PromptPlan.Template

namespace Mode

/-! ### Blanks -/

/-- Where the search stands behind a blank. -/
def rest : Mode → Mode
  | .outside => .outside
  | .brace => .outside
  | .opened quote => .inside quote
  | .inside quote => .inside quote
  | .escaped quote => .inside quote
  | .closed => .closed

@[simp] theorem rest_rest (m : Mode) : m.rest.rest = m.rest := by
  cases m <;> rfl

theorem stepInside_plain {quote : Quote} {c : Char} (hquote : isQuote c = false)
    (hbackslash : c ≠ '\\') : stepInside quote c = .inside quote := by
  rw [stepInside, if_neg hbackslash, if_neg (Quote.ne hquote quote)]

theorem step_blank {c : Char} (h : Text.isBlank c = true) (m : Mode) : m.step c = m.rest := by
  obtain ⟨hquote, hbrace, hbackslash⟩ := plain_of_isBlank h
  cases m with
  | outside => exact stepOutside_plain hquote hbrace
  | brace => rw [step, if_neg hbrace, stepOutside_plain hquote hbrace, rest]
  | opened quote => exact stepInside_plain hquote hbackslash
  | inside quote => exact stepInside_plain hquote hbackslash
  | escaped quote => rfl
  | closed => rfl

theorem run_blanks {gap : List Char} (h : Text.IsBlanks gap) (m : Mode) :
    m.run gap = m ∨ m.run gap = m.rest := by
  induction gap generalizing m with
  | nil => exact .inl rfl
  | cons c gap ih =>
      rw [Text.isBlanks_cons] at h
      rw [run_cons, step_blank h.1]
      rcases ih h.2 m.rest with hrun | hrun
      · exact .inr hrun
      · exact .inr (hrun.trans m.rest_rest)

theorem run_blanks_rest {gap : List Char} (h : Text.IsBlanks gap) (m : Mode) :
    m.rest.run gap = m.rest := by
  rcases run_blanks h m.rest with hrun | hrun
  · exact hrun
  · exact hrun.trans m.rest_rest

/-! ### Braces -/

theorem run_open_rest (m : Mode) : (m.run ['{', '{']).rest = m.run ['{', '{'] := by
  have hquote : isQuote '{' = false := by decide
  have hplain (quote : Quote) : stepInside quote '{' = .inside quote :=
    stepInside_plain hquote (by decide)
  cases m with
  | outside => rfl
  | brace => rfl
  | opened quote => simp [step, hplain, rest]
  | inside quote => simp [step, hplain, rest]
  | escaped quote => simp [step, hplain, rest]
  | closed => rfl

theorem run_rest_close (m : Mode) : m.rest.run ['}', '}'] = m.run ['}', '}'] := by
  have hquote : isQuote '}' = false := by decide
  have hplain (quote : Quote) : stepInside quote '}' = .inside quote :=
    stepInside_plain hquote (by decide)
  cases m with
  | outside => rfl
  | brace => rfl
  | opened quote => rfl
  | inside quote => rfl
  | escaped quote => simp [step, hplain, rest]
  | closed => rfl

theorem run_write (raw : List Char) (m : Mode) :
    m.run (Segment.span raw).write = ((m.run ['{', '{']).run raw).run ['}', '}'] := by
  rw [← run_append, ← run_append]
  rfl

/-- Blanks at the ends of a span make no difference to the search. -/
theorem run_write_span {lead trail : List Char} (hlead : Text.IsBlanks lead)
    (htrail : Text.IsBlanks trail) (body : List Char) (m : Mode) :
    m.run (Segment.span (lead ++ body ++ trail)).write = m.run (Segment.span body).write := by
  have hopen : (m.run ['{', '{']).run lead = m.run ['{', '{'] := by
    rw [← run_open_rest, run_blanks_rest hlead]
  rw [run_write, run_write, run_append, run_append, hopen]
  rcases run_blanks htrail ((m.run ['{', '{']).run body) with hrun | hrun
  · rw [hrun]
  · rw [hrun, run_rest_close]

end Mode

/-! ### One space on either side -/

/-- The inside of a span with one space on either side. -/
def padded (raw : List Char) : List Char :=
  [' '] ++ Text.trimChars raw ++ [' ']

theorem trimChars_padded (raw : List Char) :
    Text.trimChars (padded raw) = Text.trimChars raw :=
  Text.trimChars_append_trimChars Text.isBlanks_space Text.isBlanks_space raw

/-- A segment with one space on either side of a span. -/
def Segment.pad : Segment → Segment
  | .text s => .text s
  | .span raw => .span (padded raw)

theorem Segment.block_pad (segment : Segment) : segment.pad.block = segment.block := by
  cases segment with
  | text s => rfl
  | span raw => rw [pad, block, block, codeBlock_eq, codeBlock_eq, trimChars_padded]

theorem run_write_pad (segment : Segment) (m : Mode) :
    m.run segment.pad.write = m.run segment.write := by
  cases segment with
  | text s => rfl
  | span raw =>
      obtain ⟨lead, trail, hlead, htrail, hraw⟩ := Text.exists_trimChars raw
      calc m.run (Segment.span (padded raw)).write
        _ = m.run (Segment.span (Text.trimChars raw)).write :=
          Mode.run_write_span Text.isBlanks_space Text.isBlanks_space _ m
        _ = m.run (Segment.span (lead ++ Text.trimChars raw ++ trail)).write :=
          (Mode.run_write_span hlead htrail _ m).symm
        _ = m.run (Segment.span raw).write := by rw [← hraw]

theorem run_flatMap_pad (segments : List Segment) (m : Mode) :
    m.run ((segments.map Segment.pad).flatMap Segment.write) =
      m.run (segments.flatMap Segment.write) := by
  induction segments generalizing m with
  | nil => rfl
  | cons segment segments ih =>
      rw [List.map_cons, List.flatMap_cons, List.flatMap_cons, Mode.run_append, Mode.run_append,
        run_write_pad, ih]

/-! ### Where a span ends -/

/-- The inside of a span that leads outside again does so with other blanks at its ends. -/
theorem run_padded {raw : List Char} (h : Mode.outside.run raw = .outside) :
    Mode.outside.run (padded raw) = .outside := by
  obtain ⟨lead, trail, hlead, htrail, hraw⟩ := Text.exists_trimChars raw
  have hspace (m : Mode) : m.run [' '] = m.rest := Mode.step_blank (by decide) m
  have hfirst : Mode.outside.run lead = .outside := Mode.run_blanks_rest hlead .outside
  rw [hraw, Mode.run_append, Mode.run_append, hfirst] at h
  rw [padded, Mode.run_append, Mode.run_append, hspace, hspace, Mode.rest]
  rcases Mode.run_blanks htrail (Mode.outside.run (Text.trimChars raw)) with hrun | hrun
  · rw [hrun] at h
    rw [h, Mode.rest]
  · rw [← hrun, h]

theorem run_span (raw after : List Char) :
    Mode.outside.run (raw ++ '}' :: '}' :: after) =
      (Mode.outside.run (Segment.span raw).write).run after := by
  have hopen : Mode.outside.run ['{', '{'] = .outside := rfl
  rw [Mode.run_write, hopen, ← Mode.run_append, ← Mode.run_append]
  simp

theorem unpaired_concat {c d : Char} {s : List Char} (hd : d ≠ c) (hs : ¬[c, c] <:+: s) :
    Unpaired c (s ++ [d]) := by
  refine ⟨fun hpair => ?_, by simpa using hd⟩
  rcases List.infix_concat_iff.1 hpair with hsuffix | hinfix
  · obtain ⟨t, ht⟩ := hsuffix
    have hlast : c = d := by simpa using congrArg List.getLast? ht
    exact hd hlast.symm
  · exact hs hinfix

theorem unpaired_padded {raw : List Char} (h : Unpaired '}' raw) : Unpaired '}' (padded raw) := by
  obtain ⟨lead, trail, _, _, hraw⟩ := Text.exists_trimChars raw
  have hbody : ¬['}', '}'] <:+: Text.trimChars raw := by
    intro hpair
    apply h.1
    rw [hraw]
    exact hpair.trans (List.infix_append lead _ trail)
  refine unpaired_cons.2 ⟨fun h => absurd h (by decide), unpaired_concat (by decide) hbody⟩

/-- A span ends where it ended, with other blanks at its ends, if what follows it does the same
to the search. -/
theorem spanBody_padded {raw after after' : List Char}
    (h : spanBody (raw ++ '}' :: '}' :: after) = some (raw, after))
    (hafter : ∀ m : Mode, m.run after' = m.run after) :
    spanBody (padded raw ++ '}' :: '}' :: after') = some (padded raw, after') := by
  rcases closeSpan_cases h with ⟨t, hraw, _, ht⟩ | ⟨hopen, hcut⟩
  · obtain rfl : raw = t := by simpa using hraw
    rw [spanBody, passed_of_run (run_padded ht) _ _ _ (by simp), closeSpan_braces]
    simp
  · have hspan := run_write_pad (.span raw) .outside
    rw [Segment.pad] at hspan
    rw [run_span, ← hafter, ← hspan, ← run_span] at hopen
    rw [spanBody, closeSpan_of_isOpen hopen]
    exact cutClose_append (unpaired_padded (unpaired_of_cutClose hcut)) after'

/-! ### Reading anew -/

/-- Cutting a template that was written anew gives the same segments, with their spaces. -/
theorem segments_pad (s : List Char) :
    segments (((segments s).map Segment.pad).flatMap Segment.write) =
      (segments s).map Segment.pad := by
  have htext (s : List Char) : (textSegment s).map Segment.pad = textSegment s := by
    cases s <;> rfl
  fun_induction segments s with
  | case1 s text hcut =>
      rw [htext, flatMap_write_textSegment]
      exact segments_of_cutOpen hcut
  | case2 s text inside hcut hbody =>
      rw [htext, flatMap_write_textSegment]
      exact segments_of_unclosed hcut hbody
  | case3 s text inside hcut raw after hbody _ ih =>
      have hunpaired := unpaired_of_cutOpen hcut
      have hafter (m : Mode) : m.run (((segments after).map Segment.pad).flatMap Segment.write) =
          m.run after := by
        rw [run_flatMap_pad, flatMap_write_segments]
      rw [append_of_spanBody hbody] at hbody
      have hspan := spanBody_padded hbody hafter
      have hwritten :
          ((textSegment text ++ .span raw :: segments after).map Segment.pad).flatMap
              Segment.write =
            text ++ '{' :: '{' :: (padded raw ++ '}' :: '}' ::
              ((segments after).map Segment.pad).flatMap Segment.write) := by
        rw [List.map_append, List.flatMap_append, htext, flatMap_write_textSegment]
        simp [Segment.pad, Segment.write]
      rw [hwritten, segments_of_cut (cutOpen_append_open hunpaired.1 hunpaired.2 _) hspan, ih,
        List.map_append, htext, List.map_cons, Segment.pad]

/-- A block as it is written anew: a text as it is, a span with one space on either side of
its content. -/
def Block.rewritten : Block → String
  | .code content _ => "\x7b\x7b " ++ content ++ " \x7d\x7d"
  | block => block.content

theorem Segment.rewritten_block (segment : Segment) :
    segment.block.rewritten = String.ofList segment.pad.write := by
  cases segment with
  | text s => rfl
  | span raw =>
      rw [block, codeBlock_eq, Block.rewritten, ← String.toList_inj]
      simp [pad, padded, write]

/-- **Writing anew.** A template that is written anew from its blocks, each text as it is and
each span with one space on either side of its content, is read as the same blocks, whether they
keep to the grammar or not. -/
theorem read_rewritten (template : String) :
    read (String.join ((read template).map Block.rewritten)) = read template := by
  have htext : String.join ((read template).map Block.rewritten) =
      String.ofList (((segments template.toList).map Segment.pad).flatMap Segment.write) := by
    rw [← join_written, read, List.map_map, List.map_map]
    congr 2
    exact funext Segment.rewritten_block
  rw [htext, read, String.toList_ofList, segments_pad, List.map_map, read]
  congr 1
  exact funext Segment.block_pad

end PromptPlan.Template
