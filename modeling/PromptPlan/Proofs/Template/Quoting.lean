import PromptPlan.Proofs.Template.Calls
import PromptPlan.Proofs.Template.Written

/-!
# Texts as quoted values

Written as a literal, a text that nobody has looked at stays what it is: it is one token, with
the text as its value, and neither closes its span nor gets at the function that it is handed to.
All scanners take a backslash together with the character behind it, and the first quote without
one for the end; what `escape` writes has no such quote (`inside_escape`).

The test of a value looks for a quote at the end and counts the backslashes in front of it. What
the scan from the left cuts off is the shortest front that passes this test, and if it finds no end
then no front passes (`exists_closeQuote_of_front`).
-/

namespace PromptPlan.Template

/-! ### Escapes -/

theorem inside_escape (quote : Char) (s : List Char) : Inside quote (escape quote s) := by
  induction s with
  | nil => exact .nil
  | cons c s ih =>
      rw [escape]
      split_ifs with h
      · exact .escaped ih
      · rw [not_or] at h
        exact .plain h.1 h.2 ih

theorem unescape_cons {c : Char} (h : c ≠ '\\') (s : List Char) :
    unescape (c :: s) = c :: unescape s := by
  rw [unescape]
  rintro d rest rfl
  exact absurd rfl h

theorem unescape_escape (quote : Char) (s : List Char) : unescape (escape quote s) = s := by
  induction s with
  | nil => rfl
  | cons c s ih =>
      rw [escape]
      split_ifs with h
      · rw [unescape, ih]
      · rw [not_or] at h
        rw [unescape_cons h.1, ih]

/-! ### Literals -/

theorem isLiteral_literal {quote : Char} (hquote : isQuote quote = true) (s : List Char) :
    IsLiteral (literal quote s) :=
  .mk hquote (inside_escape quote s)

theorem literalText_literal {quote : Char} (hquote : isQuote quote = true) (s : List Char) :
    literalText (literal quote s) = s := by
  simp [literalText, literal, hquote, unescape_escape]

theorem valueText_literal {quote : Char} (hquote : isQuote quote = true) (v : String) :
    valueText (String.ofList (literal quote v.toList)) = v := by
  rw [valueText, String.toList_ofList, literalText_literal hquote, String.ofList_toList]

/-! ### The literal at the front of a text -/

theorem not_isValid_ofValue_empty : ¬(Block.ofValue (String.ofList [])).isValid = true := by
  decide

theorem not_isValid_ofValue_of_open {quote : Char} {s : List Char} (hquote : isQuote quote = true)
    (h : closeQuote quote s = none) :
    ¬(Block.ofValue (String.ofList (quote :: s))).isValid = true := by
  have hword := not_isValid_of_open hquote h
  rwa [wordBlock, if_pos hquote] at hword

theorem isValid_ofValue_of_closeQuote {quote : Char} {s closed after : List Char}
    (hquote : isQuote quote = true) (h : closeQuote quote s = some (closed, after)) :
    (Block.ofValue (String.ofList (quote :: closed))).isValid = true := by
  obtain ⟨inside, hinside, rfl⟩ := inside_of_closeQuote h
  have hliteral : IsLiteral (quote :: (inside ++ [quote])) := .mk hquote hinside
  rw [Block.ofValue, trim_ofList (trimmed_of_isLiteral hliteral), isValid_value]
  exact valueFlaw?_of_isLiteral hliteral

/-- A front that passes the test of a value has the literal at its own front. -/
theorem exists_closeQuote_of_front {quote : Char} {s front : List Char}
    (hquote : isQuote quote = true) (hfront : front <+: quote :: s)
    (hvalid : (Block.ofValue (String.ofList front)).isValid = true) :
    ∃ closed after, closeQuote quote s = some (closed, after) ∧ quote :: closed <+: front := by
  cases front with
  | nil => exact absurd hvalid not_isValid_ofValue_empty
  | cons c t =>
      obtain ⟨rfl, u, rfl⟩ := List.cons_prefix_cons.1 hfront
      cases hclose : closeQuote c t with
      | none => exact absurd hvalid (not_isValid_ofValue_of_open hquote hclose)
      | some parts =>
          obtain ⟨closed, after⟩ := parts
          refine ⟨closed, after ++ u, closeQuote_append hquote hclose u, ?_⟩
          rw [append_of_closeQuote hclose, ← List.cons_append]
          exact List.prefix_append _ _

/-- **The literal at the front.** If the scan from the left finds the end of the literal that a
text begins with, then what it cuts off passes the test of a value, and is the shortest front of
the text that does. If it finds none, then neither the text nor any front of it passes. -/
theorem literal_at_front {quote : Char} (hquote : isQuote quote = true) (s : List Char) :
    match closeQuote quote s with
    | some (closed, after) =>
      quote :: s = quote :: closed ++ after ∧
        (Block.ofValue (String.ofList (quote :: closed))).isValid = true ∧
        ∀ front, front <+: quote :: s → (Block.ofValue (String.ofList front)).isValid = true →
          quote :: closed <+: front
    | none =>
      (Block.ofValue (String.ofList (quote :: s))).isValid = false ∧
        ∀ front, front <+: quote :: s → (Block.ofValue (String.ofList front)).isValid = false := by
  cases hclose : closeQuote quote s with
  | some parts =>
      obtain ⟨closed, after⟩ := parts
      refine ⟨?_, isValid_ofValue_of_closeQuote hquote hclose, fun front hfront hvalid => ?_⟩
      · rw [append_of_closeQuote hclose, List.cons_append]
      · obtain ⟨closed', after', hclose', hshort⟩ :=
          exists_closeQuote_of_front hquote hfront hvalid
        obtain ⟨rfl, -⟩ : closed = closed' ∧ after = after' := by
          simpa [hclose] using hclose'
        exact hshort
  | none =>
      have hfronts : ∀ front, front <+: quote :: s →
          (Block.ofValue (String.ofList front)).isValid = false := by
        intro front hfront
        by_contra hvalid
        rw [Bool.not_eq_false] at hvalid
        obtain ⟨closed, after, hclose', -⟩ := exists_closeQuote_of_front hquote hfront hvalid
        rw [hclose] at hclose'
        cases hclose'
      exact ⟨hfronts _ (List.prefix_refl _), hfronts⟩

/-- An escaped quote, an escaped backslash, and a second literal behind the first; and an escaped
quote in front of blanks. -/
theorem literal_at_front_escapes :
    let closed := ['a', '\\', '\'', '\\', '\\', '\'']
    let behind := [' ', '\'', 'b', '\'']
    isQuote '\'' = true ∧ closeQuote '\'' (closed ++ behind) = some (closed, behind) ∧
      (Block.ofValue (String.ofList ('\'' :: closed))).isValid = true ∧
      (Block.ofValue (String.ofList ('\'' :: (closed ++ behind)))).isValid = true ∧
      (∀ front, front <+: '\'' :: (closed ++ behind) →
        (Block.ofValue (String.ofList front)).isValid = true → '\'' :: closed <+: front) ∧
      (Block.ofValue (String.ofList ['\'', 'a', '\\', '\'', ' ', ' '])).isValid = false := by
  intro closed behind
  have hquote : isQuote '\'' = true := rfl
  obtain ⟨-, hvalid, hshort⟩ := literal_at_front hquote (closed ++ behind)
  obtain ⟨hopen, -⟩ := literal_at_front hquote ['a', '\\', '\'', ' ', ' ']
  exact ⟨hquote, rfl, hvalid, by decide +kernel, hshort, hopen⟩

/-! ### Spans -/

/-- A span is read whatever follows it. -/
theorem read_span {body : List Char} {tokens : List Block} (h : SpanBody body tokens)
    (rest : String) :
    read ("\x7b\x7b" ++ String.ofList body ++ "\x7d\x7d" ++ rest) =
      .code (String.ofList body) tokens :: read rest := by
  have hspan : Span ([] ++ body ++ []) tokens := .mk Text.isBlanks_nil h Text.isBlanks_nil
  have hsegments := segments_append_span (s := []) (by simp) (by simp) hspan rest.toList
  have hblock :=
    (Part.span [] body [] tokens Text.isBlanks_nil h Text.isBlanks_nil).block_segment
  rw [Part.segment, Part.block] at hblock
  have htext : ("\x7b\x7b" ++ String.ofList body ++ "\x7d\x7d" ++ rest).toList =
      [] ++ ((Segment.span ([] ++ body ++ [])).write ++ rest.toList) := by
    simp [Segment.write]
  rw [read, htext, hsegments, textSegment, List.map_append, List.map_cons, hblock, read]
  rfl

theorem isReference_of_isValid {f : String} (h : (Block.function f).isValid = true) :
    IsReference f.toList := by
  rw [isValid_function, ← String.ofList_toList (s := f)] at h
  exact isReference_of_functionFlaw? h

/-! ### Values and calls -/

theorem spanBody_literal {quote : Char} (hquote : isQuote quote = true) (v : String) :
    SpanBody (literal quote v.toList) [.value (String.ofList (literal quote v.toList))] :=
  .operand (.ofLiteral (isLiteral_literal hquote _))

theorem spanBody_call_literal {f : String} (hf : (Block.function f).isValid = true) {quote : Char}
    (hquote : isQuote quote = true) (v : String) :
    SpanBody (f.toList ++ [' '] ++ literal quote v.toList)
      [.function f, .value (String.ofList (literal quote v.toList))] := by
  have h := SpanBody.callWith (isReference_of_isValid hf) Text.isBlanks_space (by decide)
    (.ofLiteral (isLiteral_literal hquote v.toList))
  rwa [String.ofList_toList] at h

variable {σ : Type}

/-- Rendering a block calls the function that `target` names, if there is one, with the
variables `received`, and nothing else. -/
structure Block.CallsOnly (block : Block) (scope : Scope σ) (vars : Variables)
    (target : Reference) (received : Variables) : Prop where
  known : ∀ {callee : Callee σ}, scope target.skill target.name = some callee →
    ∀ limits w, Run.Records (renderBlock scope vars block) (renderBlock scope.noted vars block)
      limits w [⟨target, received, (callee.call received limits w).1⟩]
  unknown : scope target.skill target.name = none →
    ∀ limits w, Run.Records (renderBlock scope vars block) (renderBlock scope.noted vars block)
      limits w []

/-- A block that renders as a request makes the call that is asked for. -/
theorem callsOnly_of_request {block : Block} {vars : Variables} {request : Request}
    (h : ∀ {τ : Type} (scope : Scope τ),
      renderBlock scope vars block = (Piece.call request).render scope) (scope : Scope σ) :
    block.CallsOnly scope vars request.target request.received where
  known := by
    intro callee hscope limits w
    obtain ⟨callee', hnoted, hcall⟩ := Scope.exists_noted hscope
    rw [h, h, render_known hscope, render_known hnoted]
    exact (hcall request.received limits w).map Variables.input
  unknown := by
    intro hscope limits w
    rw [h, h, render_unknown hscope, render_unknown (Scope.noted_of_none hscope)]
    exact Run.records_fail _ limits w

/-- **Quoted texts.** Any text can be written as a literal. In a span by itself it is a value
that is rendered as the text; behind a reference it is the argument, so that the function of
that name and no other is called, and receives the text in the main slot. In both cases the
template goes on behind the span as if it began there. -/
theorem read_literal (v : String) {quote : Char} (hquote : isQuote quote = true)
    (rest : String) :
    let lit := String.ofList (literal quote v.toList)
    (let block := Block.code lit [.value lit];
      read ("\x7b\x7b" ++ lit ++ "\x7d\x7d" ++ rest) = block :: read rest ∧
        block.isValid = true ∧ valueText lit = v ∧
        ∀ (scope : Scope σ) (vars : Variables), renderBlock scope vars block = pure v) ∧
      ∀ f, (Block.function f).isValid = true →
        let block := Block.code (f ++ " " ++ lit) [.function f, .value lit]
        read ("\x7b\x7b" ++ f ++ " " ++ lit ++ "\x7d\x7d" ++ rest) = block :: read rest ∧
          block.isValid = true ∧
          ∀ (scope : Scope σ) (vars : Variables),
            block.CallsOnly scope vars (Reference.parse f) (vars.setInput v) := by
  intro lit
  have hvalue : valueText lit = v := valueText_literal hquote v
  refine ⟨?_, fun f hf => ?_⟩
  · have hbody := spanBody_literal hquote v
    refine ⟨read_span hbody rest, hbody.isValid, hvalue, fun scope vars => ?_⟩
    show pure (valueText lit) = _
    rw [hvalue]
  · have hbody := spanBody_call_literal hf hquote v
    have hcontent : String.ofList (f.toList ++ [' '] ++ literal quote v.toList) =
        f ++ " " ++ lit := by
      simp [lit, String.append_assoc]
    have hread := read_span hbody rest
    rw [hcontent] at hread
    refine ⟨by simpa [String.append_assoc] using hread, ?_, fun scope vars => ?_⟩
    · rw [← hcontent]
      exact hbody.isValid
    · have hrequest {τ : Type} (scope : Scope τ) :
          renderBlock scope vars (.code (f ++ " " ++ lit) [.function f, .value lit]) =
            (Piece.call ⟨f, vars.setInput v⟩).render scope := by
        rw [← hvalue]
        rfl
      exact callsOnly_of_request hrequest scope

/-- A text of quotes, braces and backslashes that ends in a backslash, with a quote behind the
span that is never closed. -/
theorem read_literal_hostile :
    let v := "' \x7d\x7d\x7b\x7bshell.run '\\'\\"
    let lit := String.ofList (literal '\'' v.toList)
    let f := "text.upper"
    isQuote '\'' = true ∧ (Block.function f).isValid = true ∧
      (let block := Block.code lit [.value lit];
        read ("\x7b\x7b" ++ lit ++ "\x7d\x7d" ++ "it's") = block :: read "it's" ∧
          block.isValid = true ∧ valueText lit = v ∧
          ∀ (scope : Scope Unit) (vars : Variables), renderBlock scope vars block = pure v) ∧
      (let block := Block.code (f ++ " " ++ lit) [.function f, .value lit];
        read ("\x7b\x7b" ++ f ++ " " ++ lit ++ "\x7d\x7d" ++ "it's") = block :: read "it's" ∧
          block.isValid = true ∧
          ∀ (scope : Scope Unit) (vars : Variables),
            block.CallsOnly scope vars (Reference.parse f) (vars.setInput v)) := by
  intro v lit f
  have hf : (Block.function f).isValid = true := by decide +kernel
  obtain ⟨hvalue, hcall⟩ := read_literal v (show isQuote '\'' = true from rfl) "it's"
  exact ⟨rfl, hf, hvalue, hcall f hf⟩

end PromptPlan.Template
