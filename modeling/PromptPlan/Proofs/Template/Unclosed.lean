import PromptPlan.Proofs.Template.Refusal
import PromptPlan.Proofs.Template.Rewriting

/-!
# Quotes that are never closed

A quote that no later quote closes takes the protection away from all the literals of its span: the
span ends at the first closing braces behind its opening. What is cut off so is malformed, because
the search is still inside a literal when it comes to these braces.

There is one place where this fails. The search reads pairs of characters and never comes to the
last character of a template. A quote that stands there is not seen, and the span is text with
everything behind its opening.
-/

namespace PromptPlan.Template

/-! ### What the search passes over -/

/-- Literals that are closed and other characters, with no closing braces among these. -/
inductive Skipped : List Char → Prop
  | nil : Skipped []
  | literal {value rest : List Char} : IsLiteral value → Skipped rest → Skipped (value ++ rest)
  | plain {c : Char} {rest : List Char} :
      isQuote c = false → (c = '}' → rest.head? ≠ some '}') → Skipped rest → Skipped (c :: rest)

/-- The quote is never closed: no literal begins with it. -/
def Unclosed (quote : Char) (rest : List Char) : Prop :=
  ∀ value, IsLiteral value → ¬value <+: quote :: rest

theorem unclosed_iff {quote : Char} {rest : List Char} (hquote : isQuote quote = true) :
    Unclosed quote rest ↔ closeQuote quote rest = none := by
  constructor
  · intro h
    cases hclose : closeQuote quote rest with
    | none => rfl
    | some parts =>
        obtain ⟨inside, hinside, hclosed⟩ := inside_of_closeQuote hclose
        have hliteral : IsLiteral (quote :: (inside ++ [quote])) := .mk hquote hinside
        refine (h _ hliteral ⟨parts.2, ?_⟩).elim
        rw [append_of_closeQuote hclose, hclosed, List.cons_append]
  · rintro hclose value hvalue ⟨after, hsplit⟩
    cases hvalue with
    | @mk opening inside hopening hinside =>
        obtain ⟨rfl, rfl⟩ := List.cons.inj hsplit
        rw [List.append_eq, List.append_assoc, List.singleton_append,
          closeQuote_of_inside (ne_backslash_of_isQuote hquote) hinside] at hclose
        cases hclose

theorem Skipped.run_append {passed : List Char} (h : Skipped passed) {quote : Char}
    (hquote : isQuote quote = true) (rest : List Char) :
    Mode.outside.run (passed ++ quote :: rest) = Mode.outside.run (quote :: rest) := by
  induction h with
  | nil => rfl
  | @literal value others hvalue _ ih =>
      cases hvalue with
      | @mk opening inside hopening hinside =>
          have hclose : closeQuote opening (inside ++ [opening]) = some (inside ++ [opening], []) :=
            closeQuote_of_inside (ne_backslash_of_isQuote hopening) hinside
          rw [List.append_assoc, List.cons_append, Mode.run_literal hopening hclose, ih]
  | @plain c others hc hpair _ ih =>
      rw [← ih]
      cases others with
      | nil =>
          have hbrace : ¬(c = '}' ∧ quote = '}') := by
            rintro ⟨-, rfl⟩
            cases hquote
          exact Mode.run_outside_cons hc hbrace rest
      | cons d others =>
          have hbrace : ¬(c = '}' ∧ d = '}') := by
            rintro ⟨rfl, rfl⟩
            exact hpair rfl rfl
          exact Mode.run_outside_cons hc hbrace _

/-! ### Where the span is closed -/

/-- A search that ends neither in a literal nor at closing braces finds nothing. -/
theorem closeSpan_of_run {whole body s : List Char} (hopen : (Mode.outside.run s).isOpen = false)
    (hclosed : Mode.outside.run s ≠ .closed) : closeSpan whole body s = none := by
  cases hfound : closeSpan whole body s with
  | none => rfl
  | some parts =>
      rcases closeSpan_cases hfound with ⟨t, -, rfl, ht⟩ | ⟨hopen', -⟩
      · rw [Mode.run_append, ht, Mode.run_braces] at hclosed
        exact absurd rfl hclosed
      · rw [hopen] at hopen'
        cases hopen'

/-- A quote that is never closed and has something behind it gives the span up to its first
closing braces. -/
theorem spanBody_of_unclosed {passed rest : List Char} {quote : Char} (hpassed : Skipped passed)
    (hquote : isQuote quote = true) (hunclosed : Unclosed quote rest) (hrest : rest ≠ []) :
    (Mode.outside.run (passed ++ quote :: rest)).isOpen = true ∧
      spanBody (passed ++ quote :: rest) = cutClose (passed ++ quote :: rest) := by
  have hopen : (Mode.outside.run (passed ++ quote :: rest)).isOpen = true := by
    rw [hpassed.run_append hquote]
    exact Mode.isOpen_run_quote hquote hrest ((unclosed_iff hquote).1 hunclosed)
  exact ⟨hopen, closeSpan_of_isOpen hopen⟩

/-- A quote at the end is not seen. -/
theorem spanBody_concat_quote {passed : List Char} {quote : Char} (hpassed : Skipped passed)
    (hquote : isQuote quote = true) : spanBody (passed ++ [quote]) = none := by
  have hrun : Mode.outside.run (passed ++ [quote]) = .opened ⟨quote, hquote⟩ := by
    rw [hpassed.run_append hquote, Mode.run_cons, Mode.run_nil, Mode.step,
      Mode.stepOutside_quote hquote]
  refine closeSpan_of_run ?_ ?_
  · rw [hrun]
    rfl
  · rw [hrun]
    exact fun h => by cases h

/-- What the search passes over leads it outside literals again. -/
theorem Passed.run_eq {s : List Char} (h : Passed s) : Mode.outside.run s = .outside := by
  -- there is nothing to fall back on, so the braces behind the text are found in the regular way
  have hfound : closeSpan [] [] (s ++ ['}', '}']) = some (s, []) := by
    rw [h _ _ _ (List.cons_ne_nil _ _), closeSpan_braces]
    simp
  rcases closeSpan_cases hfound with ⟨t, hs, -, ht⟩ | ⟨-, hcut⟩
  · rw [hs]
    exact ht
  · cases hcut

/-- A span that is closed while a literal is open is malformed. -/
theorem not_isValid_of_isOpen {raw after : List Char}
    (h : (Mode.outside.run (raw ++ '}' :: '}' :: after)).isOpen = true) :
    (codeBlock raw).isValid = false := by
  cases hvalid : (codeBlock raw).isValid with
  | false => rfl
  | true =>
      rw [Mode.run_append, (span_of_isValid hvalid).passed.run_eq, Mode.run_braces] at h
      cases h

/-! ### Openings -/

/-- The reader of a text comes to the opening of a span: `front` has been cut off before, `text`
stands directly in front of the opening, and `inside` is all that follows it. -/
inductive Opens : List Char → List Segment → List Char → List Char → Prop
  | first {s text inside : List Char} : cutOpen s = (text, some inside) → Opens s [] text inside
  | later {s text inside raw after text' inside' : List Char} {front : List Segment} :
      cutOpen s = (text, some inside) → spanBody inside = some (raw, after) →
        Opens after front text' inside' →
          Opens s (textSegment text ++ .span raw :: front) text' inside'

theorem Opens.segments_of_closed {s text inside raw after : List Char} {front : List Segment}
    (h : Opens s front text inside) (hbody : spanBody inside = some (raw, after)) :
    segments s = front ++ textSegment text ++ .span raw :: segments after := by
  induction h with
  | first hcut => exact segments_of_cut hcut hbody
  | later hcut hspan _ ih =>
      rw [segments_of_cut hcut hspan, ih hbody]
      simp

theorem Opens.segments_of_unclosed {s text inside : List Char} {front : List Segment}
    (h : Opens s front text inside) (hbody : spanBody inside = none) :
    segments s = front ++ [.text (text ++ '{' :: '{' :: inside)] := by
  induction h with
  | first hcut =>
      rw [Template.segments_of_unclosed hcut hbody, append_of_cutOpen hcut, textSegment,
        if_neg (by simp), List.nil_append]
  | later hcut hspan _ ih =>
      rw [segments_of_cut hcut hspan, ih hbody]
      simp

variable {σ : Type}

theorem isMalformed_render {template : String} {block : Block} (hmem : block ∈ read template)
    (hinvalid : block.isValid = false) (scope : Scope σ) (vars : Variables) (limits : Limits)
    (w : World σ) : (render scope vars template limits w).1.isMalformed = true := by
  obtain ⟨e, he⟩ := exists_firstError? ⟨block, hmem, hinvalid⟩
  rw [render_of_firstError? he]
  exact isMalformed_of_firstError? he

theorem isLiteral_braces : IsLiteral ['\'', '}', '}', '\''] := by
  have hinside : Inside '\'' ['}', '}'] :=
    .plain (by decide) (by decide) (.plain (by decide) (by decide) .nil)
  exact .mk rfl hinside

/-- **A quote that is never closed.** Let the reader come to the opening of a span behind which a
quote that is never closed comes before any closing braces outside literals. If the quote is not
the last character, then the first closing braces behind the opening close the span, if there are
any; the block of the span is malformed, and the template is not rendered. If it is the last
character, or if there are no closing braces, then all is text from the end of the span before. -/
theorem span_of_unclosed {template : String} {front : List Segment}
    {text passed rest : List Char} {quote : Char}
    (hopens : Opens template.toList front text (passed ++ quote :: rest))
    (hpassed : Skipped passed) (hquote : isQuote quote = true) (hunclosed : Unclosed quote rest) :
    (∀ body after, rest ≠ [] → Unpaired '}' body →
        passed ++ quote :: rest = body ++ '}' :: '}' :: after →
          read template = (front ++ textSegment text).map Segment.block ++
              codeBlock body :: read (String.ofList after) ∧
            (codeBlock body).isValid = false ∧
            ∀ (scope : Scope σ) vars limits w,
              (render scope vars template limits w).1.isMalformed = true) ∧
      (rest = [] ∨ ¬['}', '}'] <:+: passed ++ quote :: rest →
        read template = front.map Segment.block ++
          [.text (String.ofList (text ++ '{' :: '{' :: (passed ++ quote :: rest)))]) := by
  refine ⟨fun body after hrest hbody hsplit => ?_, fun hnone => ?_⟩
  · obtain ⟨hopen, hspan⟩ := spanBody_of_unclosed hpassed hquote hunclosed hrest
    have hcut : cutClose (passed ++ quote :: rest) = some (body, after) := by
      rw [hsplit]
      exact cutClose_append hbody after
    have hread : read template = (front ++ textSegment text).map Segment.block ++
        codeBlock body :: read (String.ofList after) := by
      rw [read, hopens.segments_of_closed (hspan.trans hcut), List.map_append, List.map_cons, read,
        String.toList_ofList]
      rfl
    have hinvalid : (codeBlock body).isValid = false := not_isValid_of_isOpen (hsplit ▸ hopen)
    have hmem : codeBlock body ∈ read template := by simp [hread]
    exact ⟨hread, hinvalid, isMalformed_render hmem hinvalid⟩
  · have hspan : spanBody (passed ++ quote :: rest) = none := by
      rcases hnone with rfl | hnone
      · exact spanBody_concat_quote hpassed hquote
      · cases hfound : spanBody (passed ++ quote :: rest) with
        | none => rfl
        | some parts =>
            refine absurd ⟨parts.1, parts.2, ?_⟩ hnone
            rw [append_of_spanBody hfound]
            simp
    rw [read, hopens.segments_of_unclosed hspan, List.map_append, List.map_singleton]
    rfl

/-- The quote stands behind the second opening, with an escaped one at the end of the template;
the first closing braces are inside a literal that is closed. -/
theorem span_of_unclosed_escaped :
    let template := "\x7b\x7b$a\x7d\x7d \x7b\x7bf '\x7d\x7d'\"\\\""
    let front := [Segment.span ['$', 'a']]
    let passed := ['f', ' ', '\'', '}', '}', '\'']
    let rest := ['\\', '"']
    Opens template.toList front [' '] (passed ++ '"' :: rest) ∧ Skipped passed ∧
      Unclosed '"' rest ∧
      read template = [codeBlock ['$', 'a'], .text " ", codeBlock ['f', ' ', '\''],
        .text "'\"\\\""] ∧
      (codeBlock ['f', ' ', '\'']).isValid = false ∧
      ∀ (scope : Scope Unit) vars limits w,
        (render scope vars template limits w).1.isMalformed = true := by
  intro template front passed rest
  have hcut : cutOpen template.toList =
      ([], some ('$' :: 'a' :: '}' :: '}' :: ' ' :: '{' :: '{' :: (passed ++ '"' :: rest))) := by
    decide +kernel
  have hspan : spanBody ('$' :: 'a' :: '}' :: '}' :: ' ' :: '{' :: '{' :: (passed ++ '"' :: rest)) =
      some (['$', 'a'], ' ' :: '{' :: '{' :: (passed ++ '"' :: rest)) := by
    decide +kernel
  have hopens : Opens template.toList front [' '] (passed ++ '"' :: rest) :=
    .later hcut hspan (.first (by decide +kernel))
  have hpassed : Skipped passed :=
    .plain rfl nofun (.plain rfl nofun (.literal isLiteral_braces .nil))
  have hunclosed : Unclosed '"' rest := (unclosed_iff rfl).2 (by decide +kernel)
  have hbody : Unpaired '}' ['f', ' ', '\''] := ⟨by decide, by decide⟩
  obtain ⟨hread, hinvalid, hrender⟩ :=
    (span_of_unclosed hopens hpassed rfl hunclosed).1 ['f', ' ', '\''] ['\'', '"', '\\', '"']
      (by decide) hbody rfl
  have hafter : read (String.ofList ['\'', '"', '\\', '"']) = [.text "'\"\\\""] := by
    rw [read, String.toList_ofList, segments_of_unopened (by decide)]
    rfl
  rw [hafter] at hread
  exact ⟨hopens, hpassed, hunclosed, hread, hinvalid, hrender⟩

/-- The quote is the last character: there are closing braces behind the opening, and still the
span is taken for text and written as it is. -/
theorem swallowed_by_last_quote :
    let template := "\x7b\x7b'\x7d\x7d'\""
    let passed := ['\'', '}', '}', '\'']
    Opens template.toList [] [] (passed ++ ['"']) ∧ Skipped passed ∧ Unclosed '"' [] ∧
      cutClose (passed ++ ['"']) = some (['\''], ['\'', '"']) ∧
      read template = [.text template] ∧
      ∀ (scope : Scope Unit) vars limits w,
        (render scope vars template limits w).1 = .done template := by
  intro template passed
  have hopens : Opens template.toList [] [] (passed ++ ['"']) := .first (by decide +kernel)
  have hpassed : Skipped passed := .literal isLiteral_braces .nil
  have hread : read template = [.text template] := by
    rw [read, hopens.segments_of_unclosed (spanBody_concat_quote hpassed rfl)]
    rfl
  refine ⟨hopens, hpassed, (unclosed_iff rfl).2 rfl, rfl, hread, fun scope vars limits w => ?_⟩
  rw [render, hread]
  rfl

end PromptPlan.Template
