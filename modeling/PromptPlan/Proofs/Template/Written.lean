import Mathlib.Data.List.Chain
import PromptPlan.Proofs.Template.Words

/-!
# Writing a template and reading it back

A template can be put together from parts: texts that hold no opening braces, and spans whose
inside belongs to the grammar. The parts are written one after another, and reading gives
them back, as long as the borders between them can be told: no text stands next to another
one, and none that stands before a span ends in a brace.

The braces that close a span are sought in all of the text that follows, before anybody asks
what the words of the span are. The search agrees with the grammar because it passes over
each word as a whole (`Passed`), whatever follows the word: a name has neither quotes nor
braces, and a literal takes the search to its closing quote, with everything in it.
-/

namespace PromptPlan.Template

/-! ### What the search for closing braces passes over -/

/-- The search for closing braces goes on behind `s`. -/
def Passed (s : List Char) : Prop :=
  ∀ whole body rest, rest ≠ [] →
    closeSpan whole body (s ++ rest) = closeSpan whole (s.reverse ++ body) rest

theorem Passed.append {s t : List Char} (hs : Passed s) (ht : Passed t) : Passed (s ++ t) := by
  intro whole body rest hrest
  have hne : t ++ rest ≠ [] := List.append_ne_nil_of_right_ne_nil t hrest
  rw [List.append_assoc, hs whole body _ hne, ht whole _ _ hrest, List.reverse_append,
    List.append_assoc]

/-- A character that neither opens a literal nor, with the next one, closes the span. -/
theorem closeSpan_cons_cons {c d : Char} (hquote : isQuote c = false)
    (hpair : ¬(c = '}' ∧ d = '}')) (whole body s : List Char) :
    closeSpan whole body (c :: d :: s) = closeSpan whole (c :: body) (d :: s) := by
  rw [closeSpan, if_neg (by simp [hquote]), if_neg hpair]

theorem closeSpan_cons {c : Char} (hquote : isQuote c = false) (hbrace : c ≠ '}')
    (whole body : List Char) {s : List Char} (hs : s ≠ []) :
    closeSpan whole body (c :: s) = closeSpan whole (c :: body) s := by
  obtain ⟨d, s, rfl⟩ := List.exists_cons_of_ne_nil hs
  exact closeSpan_cons_cons hquote (fun hpair => hbrace hpair.1) whole body s

theorem closeSpan_literal {c d : Char} {rest inside after : List Char}
    (hquote : isQuote c = true) (hclose : closeQuote c (d :: rest) = some (inside, after))
    (whole body : List Char) :
    closeSpan whole body (c :: d :: rest) =
      closeSpan whole (inside.reverse ++ c :: body) after := by
  rw [closeSpan, if_pos hquote]
  split
  · rename_i inside' after' h
    rw [hclose] at h
    obtain ⟨rfl, rfl⟩ : inside = inside' ∧ after = after' := by simpa using h
    rfl
  · rename_i h
    rw [hclose] at h
    cases h

theorem closeSpan_braces (whole body rest : List Char) :
    closeSpan whole body ('}' :: '}' :: rest) = some (body.reverse, rest) := by
  rw [closeSpan, if_neg (by decide), if_pos ⟨rfl, rfl⟩]

theorem passed_of_forall {s : List Char} (h : ∀ c ∈ s, isQuote c = false ∧ c ≠ '}') :
    Passed s := by
  induction s with
  | nil =>
      intro whole body rest _
      rfl
  | cons c s ih =>
      intro whole body rest hrest
      obtain ⟨hquote, hbrace⟩ := h c (by simp)
      have hne : s ++ rest ≠ [] := List.append_ne_nil_of_right_ne_nil s hrest
      have hs : Passed s := ih fun d hd => h d (List.mem_cons_of_mem c hd)
      rw [List.cons_append, closeSpan_cons hquote hbrace whole body hne, hs whole _ _ hrest]
      simp

theorem plain_of_isBlank {c : Char} (h : Text.isBlank c = true) :
    isQuote c = false ∧ c ≠ '}' ∧ c ≠ '\\' := by
  refine ⟨?_, ?_, ?_⟩
  · rw [Bool.eq_false_iff]
    intro hquote
    rw [not_isBlank_of_isQuote hquote] at h
    cases h
  · rintro rfl
    exact absurd h (by decide)
  · rintro rfl
    exact absurd h (by decide)

theorem passed_of_isBlanks {s : List Char} (h : Text.IsBlanks s) : Passed s :=
  passed_of_forall fun c hc => ⟨(plain_of_isBlank (h c hc)).1, (plain_of_isBlank (h c hc)).2.1⟩

theorem plain_of_isIdentifier {c : Char} (h : Text.isIdentifier c = true) :
    isQuote c = false ∧ c ≠ '}' :=
  ⟨not_isQuote_of_isIdentifier h, ne_of_isIdentifier h (by decide)⟩

theorem passed_of_isLiteral {s : List Char} (h : IsLiteral s) : Passed s := by
  cases h with
  | @mk quote inside hquote hinside =>
      intro whole body rest _
      have hclose : closeQuote quote (inside ++ quote :: rest) = some (inside ++ [quote], rest) :=
        closeQuote_of_inside (ne_backslash_of_isQuote hquote) hinside
      obtain ⟨d, t, ht⟩ : ∃ d t, inside ++ quote :: rest = d :: t :=
        List.exists_cons_of_ne_nil (by simp)
      have hwhole : quote :: (inside ++ [quote]) ++ rest = quote :: d :: t := by simp [← ht]
      rw [ht] at hclose
      rw [hwhole, closeSpan_literal hquote hclose]
      simp

theorem passed_of_isVariable {s : List Char} (h : IsVariable s) : Passed s := by
  cases h with
  | mk h =>
      refine passed_of_forall fun c hc => ?_
      rcases List.mem_cons.1 hc with rfl | hc
      · decide
      · exact plain_of_isIdentifier (h.2 c hc)

theorem passed_of_isReference {s : List Char} (h : IsReference s) : Passed s := by
  refine passed_of_forall fun c hc => ?_
  have hall := List.all_eq_true.1 (all_of_isReference h) c hc
  rw [Bool.or_eq_true, beq_iff_eq] at hall
  rcases hall with hc | rfl
  · exact plain_of_isIdentifier hc
  · decide

theorem Operand.passed {s : List Char} {block : Block} (h : Operand s block) : Passed s := by
  cases h with
  | ofLiteral h => exact passed_of_isLiteral h
  | ofVariable h => exact passed_of_isVariable h

theorem SpanBody.passed {s : List Char} {tokens : List Block} (h : SpanBody s tokens) :
    Passed s := by
  cases h with
  | operand h => exact h.passed
  | call h => exact passed_of_isReference h
  | callWith h hgap _ harg =>
      exact ((passed_of_isReference h).append (passed_of_isBlanks hgap)).append harg.passed

theorem Span.passed {raw : List Char} {tokens : List Block} (h : Span raw tokens) :
    Passed raw := by
  cases h with
  | mk hlead hbody htrail =>
      exact ((passed_of_isBlanks hlead).append hbody.passed).append (passed_of_isBlanks htrail)

/-- The braces that close a span are found behind its inside, whatever follows. -/
theorem Span.spanBody_append {raw : List Char} {tokens : List Block} (h : Span raw tokens)
    (rest : List Char) : spanBody (raw ++ '}' :: '}' :: rest) = some (raw, rest) := by
  rw [spanBody, h.passed _ _ _ (by simp), closeSpan_braces]
  simp

/-! ### Where a text ends -/

theorem cutOpen_cons {c : Char} {s : List Char} (h : c = '{' → s.head? ≠ some '{') :
    cutOpen (c :: s) = (c :: (cutOpen s).1, (cutOpen s).2) := by
  rw [cutOpen]
  rintro rest rfl rfl
  exact h rfl rfl

/-- A pair of opening braces at the front of a text is a pair in the text. -/
theorem head?_ne_of_unopened {c : Char} {s : List Char} (h : ¬['{', '{'] <:+: c :: s) :
    c = '{' → s.head? ≠ some '{' := by
  rintro rfl hhead
  obtain ⟨s, rfl⟩ : ∃ t, s = '{' :: t := by
    cases s with
    | nil => cases hhead
    | cons d t => exact ⟨t, by rw [Option.some.inj hhead]⟩
  exact h (List.prefix_append ['{', '{'] s).isInfix

theorem cutOpen_of_unopened {s : List Char} (h : ¬['{', '{'] <:+: s) : cutOpen s = (s, none) := by
  induction s with
  | nil => rfl
  | cons c s ih =>
      have hs : ¬['{', '{'] <:+: s := fun hs => h (hs.trans (List.suffix_cons c s).isInfix)
      rw [cutOpen_cons (head?_ne_of_unopened h), ih hs]

/-- A text that holds no opening, not even half of one at its end, goes on in what follows. -/
theorem cutOpen_append {s : List Char} (h : ¬['{', '{'] <:+: s) (hlast : s.getLast? ≠ some '{')
    (rest : List Char) : cutOpen (s ++ rest) = (s ++ (cutOpen rest).1, (cutOpen rest).2) := by
  induction s with
  | nil => rfl
  | cons c s ih =>
      have hs : ¬['{', '{'] <:+: s := fun hs => h (hs.trans (List.suffix_cons c s).isInfix)
      cases s with
      | nil =>
          have hc : c ≠ '{' := fun hc => hlast (by rw [hc]; rfl)
          rw [List.cons_append, cutOpen_cons fun h => absurd h hc]
          rfl
      | cons d s =>
          have hhead : c = '{' → (d :: s).head? ≠ some '{' := head?_ne_of_unopened h
          rw [List.cons_append, cutOpen_cons (by simpa using hhead), ih hs (by simpa using hlast)]
          rfl

theorem cutOpen_append_open {s : List Char} (h : ¬['{', '{'] <:+: s)
    (hlast : s.getLast? ≠ some '{') (rest : List Char) :
    cutOpen (s ++ '{' :: '{' :: rest) = (s, some rest) := by
  rw [cutOpen_append h hlast, cutOpen, List.append_nil]

theorem segments_of_cutOpen {s text : List Char} (hcut : cutOpen s = (text, none)) :
    segments s = textSegment s := by
  rw [segments]
  split
  · rfl
  · rename_i hcut'
    rw [hcut] at hcut'
    cases hcut'

theorem segments_of_unopened {s : List Char} (h : ¬['{', '{'] <:+: s) :
    segments s = textSegment s :=
  segments_of_cutOpen (cutOpen_of_unopened h)

theorem segments_of_unclosed {s text inside : List Char} (hcut : cutOpen s = (text, some inside))
    (hbody : spanBody inside = none) : segments s = textSegment s := by
  rw [segments]
  split
  · rfl
  · rename_i text' inside' hcut'
    obtain ⟨rfl, rfl⟩ : text = text' ∧ inside = inside' := by simpa [hcut] using hcut'
    split
    · rfl
    · rename_i raw after hbody'
      rw [hbody] at hbody'
      cases hbody'

theorem segments_of_cut {s text inside raw after : List Char}
    (hcut : cutOpen s = (text, some inside)) (hbody : spanBody inside = some (raw, after)) :
    segments s = textSegment text ++ .span raw :: segments after := by
  rw [segments]
  split
  · rename_i hcut'
    rw [hcut] at hcut'
    cases hcut'
  · rename_i text' inside' hcut'
    obtain ⟨rfl, rfl⟩ : text = text' ∧ inside = inside' := by simpa [hcut] using hcut'
    split
    · rename_i hbody'
      rw [hbody] at hbody'
      cases hbody'
    · rename_i raw' after' hbody'
      obtain ⟨rfl, rfl⟩ : raw = raw' ∧ after = after' := by simpa [hbody] using hbody'
      rfl

/-- A span is cut off with the text in front of it, if the border between them can be told. -/
theorem segments_append_span {s raw : List Char} {tokens : List Block}
    (hopen : ¬['{', '{'] <:+: s) (hlast : s.getLast? ≠ some '{') (h : Span raw tokens)
    (rest : List Char) :
    segments (s ++ ((Segment.span raw).write ++ rest)) =
      textSegment s ++ .span raw :: segments rest := by
  have hwritten : (Segment.span raw).write ++ rest = '{' :: '{' :: (raw ++ '}' :: '}' :: rest) := by
    simp [Segment.write]
  rw [hwritten]
  exact segments_of_cut (cutOpen_append_open hopen hlast _) (h.spanBody_append rest)

/-! ### Parts -/

/-- A part of a template: a text without opening braces, or a span with blanks around a body
that belongs to the grammar. -/
inductive Part where
  | text (s : List Char) (ne_nil : s ≠ []) (no_open : ¬['{', '{'] <:+: s)
  | span (lead body trail : List Char) (tokens : List Block) (lead_blank : Text.IsBlanks lead)
      (body_tokens : SpanBody body tokens) (trail_blank : Text.IsBlanks trail)

namespace Part

/-- A part as a segment. -/
def segment : Part → Segment
  | text s _ _ => .text s
  | span lead body trail _ _ _ _ => .span (lead ++ body ++ trail)

/-- A part as it is written: a text as it is, and a span in its braces. -/
def write (part : Part) : List Char := part.segment.write

/-- The block of a part. -/
def block : Part → Block
  | text s _ _ => .text (String.ofList s)
  | span _ body _ tokens _ _ _ => .code (String.ofList body) tokens

/-- Whether the border between two parts can be told. -/
def MayPrecede : Part → Part → Prop
  | text .., text .. => False
  | text s _ _, span .. => s.getLast? ≠ some '{'
  | span .., _ => True

theorem block_segment (part : Part) : part.segment.block = part.block := by
  cases part with
  | text s _ _ => rfl
  | span lead body trail tokens hlead hbody htrail =>
      obtain ⟨htrimmed, hne⟩ := hbody.trimmed
      rw [segment, Segment.block, codeBlock_eq, Text.trimChars_append hlead htrimmed hne htrail,
        hbody.map_words, block]

theorem isValid_block (part : Part) : part.block.isValid = true := by
  cases part with
  | text s _ _ => rfl
  | span lead body trail tokens _ hbody _ => exact hbody.isValid

end Part

/-- Cutting what was written gives the segments of the parts. -/
theorem segments_flatMap_write : ∀ parts : List Part, parts.IsChain Part.MayPrecede →
    segments (parts.flatMap Part.write) = parts.map Part.segment
  | [], _ => segments_of_unopened (by simp)
  | [.text s hne hopen], _ => by
      have hs : textSegment s = [.text s] := by simp [textSegment, hne]
      rw [List.flatMap_singleton]
      exact (segments_of_unopened hopen).trans hs
  | .text .. :: .text .. :: _, h => (List.isChain_cons_cons.1 h).1.elim
  | .span lead body trail tokens hlead hbody htrail :: rest, h => by
      have hspan : Span (lead ++ body ++ trail) tokens := .mk hlead hbody htrail
      have hrest := segments_flatMap_write rest h.tail
      rw [List.flatMap_cons, List.map_cons, ← hrest]
      exact segments_append_span (s := []) (by simp) (by simp) hspan _
  | .text s hne hopen :: .span lead body trail tokens hlead hbody htrail :: rest, h => by
      have hspan : Span (lead ++ body ++ trail) tokens := .mk hlead hbody htrail
      obtain ⟨hlast, htail⟩ := List.isChain_cons_cons.1 h
      have hs : textSegment s = [.text s] := by simp [textSegment, hne]
      have hrest := segments_flatMap_write rest htail.tail
      -- a text is only cut off together with the span behind it
      rw [List.flatMap_cons, List.flatMap_cons, List.map_cons, List.map_cons, ← hrest]
      refine (segments_append_span hopen hlast hspan _).trans ?_
      rw [hs]
      rfl

/-- **Writing and reading.** A template that is written from parts is read as the blocks of
these parts, in order and each with its content and tokens, and all of them keep to the
grammar. -/
theorem read_write (parts : List Part) (h : parts.IsChain Part.MayPrecede) :
    read (String.ofList (parts.flatMap Part.write)) = parts.map Part.block ∧
      ∀ block ∈ parts.map Part.block, block.isValid = true := by
  constructor
  · have hblock : Segment.block ∘ Part.segment = Part.block := funext Part.block_segment
    rw [read, String.toList_ofList, segments_flatMap_write parts h, List.map_map, hblock]
  · intro block hblock
    obtain ⟨part, _, rfl⟩ := List.mem_map.1 hblock
    exact part.isValid_block

/-- A literal holds braces of both kinds and its own quote, and the texts around its span hold
single braces. -/
theorem read_write_braces :
    let value := ['\'', '}', '}', '\\', '\'', '{', '{', '\'']
    ∃ (hlead : Text.IsBlanks [' ']) (htrail : Text.IsBlanks [])
      (hbody : SpanBody (['f'] ++ [' ', '\n'] ++ value)
        [.function (String.ofList ['f']), .value (String.ofList value)])
      (hfirst : ¬['{', '{'] <:+: ['{', ' ']) (hlast : ¬['{', '{'] <:+: ['}', '{']),
      let parts : List Part :=
        [.text ['{', ' '] (List.cons_ne_nil _ _) hfirst, .span [' '] _ [] _ hlead hbody htrail,
          .text ['}', '{'] (List.cons_ne_nil _ _) hlast]
      parts.IsChain Part.MayPrecede ∧
        String.ofList (parts.flatMap Part.write) =
          "\x7b \x7b\x7b f \n'\x7d\x7d\\'\x7b\x7b'\x7d\x7d\x7d\x7b" ∧
        read (String.ofList (parts.flatMap Part.write)) = parts.map Part.block ∧
        ∀ block ∈ parts.map Part.block, block.isValid = true := by
  intro value
  have hinside : Inside '\'' ['}', '}', '\\', '\'', '{', '{'] :=
    .plain (by decide) (by decide) (.plain (by decide) (by decide) (.escaped
      (.plain (by decide) (by decide) (.plain (by decide) (by decide) .nil))))
  have hlead : Text.IsBlanks [' '] := Text.isBlanks_cons.2 ⟨by decide, Text.isBlanks_nil⟩
  have hgap : Text.IsBlanks [' ', '\n'] := Text.isBlanks_cons.2 ⟨by decide,
    Text.isBlanks_cons.2 ⟨by decide, Text.isBlanks_nil⟩⟩
  have hname : IsName ['f'] := ⟨by decide, List.forall_mem_singleton.2 (by decide)⟩
  refine ⟨hlead, Text.isBlanks_nil,
    .callWith (.name hname) hgap (by decide) (.ofLiteral (.mk rfl hinside)), by decide, by decide,
    ?_⟩
  intro parts
  have hborder : ['{', ' '].getLast? ≠ some '{' := by decide
  have hparts : parts.IsChain Part.MayPrecede :=
    .cons_cons hborder (.cons_cons trivial (.singleton _))
  exact ⟨hparts, rfl, read_write parts hparts⟩

end PromptPlan.Template
