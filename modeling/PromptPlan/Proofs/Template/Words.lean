import PromptPlan.Proofs.Template.Grammar

/-!
# The scanner and the grammar of spans

The scanner cuts the inside of a span into words and never fails; the tests that the words and the
whole are put to afterwards decide whether the span is well formed. Together they add up to the
grammar: a span passes the tests exactly when its inside belongs to it.

The step is the first word. Whatever a text goes on with after its first character that is no
blank, the scanner cuts off a word and continues behind it (`exists_word`), and a word that passes
its own test is a token of the grammar.
-/

namespace PromptPlan.Template

/-- A token, with its block. -/
inductive Token : List Char → Block → Prop
  | operand {s : List Char} {block : Block} : Operand s block → Token s block
  | reference {s : List Char} : IsReference s → Token s (.function (String.ofList s))

/-! ### Tokens have no blanks at their ends -/

theorem trimmed_of_isLiteral {s : List Char} (h : IsLiteral s) : Text.Trimmed s := by
  cases h with
  | @mk quote inside hquote hinside =>
      have hblank := not_isBlank_of_isQuote hquote
      refine ⟨by simpa using hblank, ?_⟩
      rw [← List.cons_append, List.getLast?_concat]
      simpa using hblank

theorem trimmed_of_forall {s : List Char} (h : ∀ c ∈ s, Text.isBlank c = false) :
    Text.Trimmed s :=
  ⟨fun c hc => h c (List.mem_of_mem_head? hc), fun c hc => h c (List.mem_of_mem_getLast? hc)⟩

theorem IsName.not_isBlank {s : List Char} (h : IsName s) : ∀ c ∈ s, Text.isBlank c = false :=
  fun c hc => not_isBlank_of_isIdentifier (h.2 c hc)

theorem IsVariable.not_isBlank {s : List Char} (h : IsVariable s) :
    ∀ c ∈ s, Text.isBlank c = false := by
  cases h with
  | mk h =>
      intro c hc
      rcases List.mem_cons.1 hc with rfl | hc
      · decide
      · exact h.not_isBlank c hc

theorem IsReference.not_isBlank {s : List Char} (h : IsReference s) :
    ∀ c ∈ s, Text.isBlank c = false := by
  cases h with
  | name h => exact h.not_isBlank
  | qualified hskill hname =>
      intro c hc
      rw [List.mem_append, List.mem_cons] at hc
      rcases hc with hc | rfl | hc
      · exact hskill.not_isBlank c hc
      · decide
      · exact hname.not_isBlank c hc

theorem Token.ne_nil {s : List Char} {block : Block} (h : Token s block) : s ≠ [] := by
  cases h with
  | operand h =>
      cases h with
      | ofLiteral h => cases h; simp
      | ofVariable h => cases h; simp
  | reference h =>
      cases h with
      | name h => exact h.1
      | qualified _ _ => simp

theorem Token.trimmed {s : List Char} {block : Block} (h : Token s block) : Text.Trimmed s := by
  cases h with
  | operand h =>
      cases h with
      | ofLiteral h => exact trimmed_of_isLiteral h
      | ofVariable h => exact trimmed_of_forall h.not_isBlank
  | reference h => exact trimmed_of_forall h.not_isBlank

/-! ### The block of a word -/

theorem trim_ofList {s : List Char} (h : Text.Trimmed s) :
    Text.trim (String.ofList s) = String.ofList s := by
  rw [Text.trim, String.toList_ofList, Text.trimChars_of_trimmed h]

@[simp] theorem isValid_variable {content : String} :
    (Block.variable content).isValid = true ↔ variableFlaw? content = none := by
  simp [Block.isValid, Block.error?]

@[simp] theorem isValid_value {content : String} :
    (Block.value content).isValid = true ↔ valueFlaw? content = none := by
  simp [Block.isValid, Block.error?]

@[simp] theorem isValid_function {content : String} :
    (Block.function content).isValid = true ↔ functionFlaw? content = none := by
  simp [Block.isValid, Block.error?]

theorem IsReference.exists_cons {s : List Char} (h : IsReference s) :
    ∃ c rest, s = c :: rest ∧ Text.isIdentifier c = true := by
  cases h with
  | name h =>
      obtain ⟨c, rest, rfl⟩ := List.exists_cons_of_ne_nil h.1
      exact ⟨c, rest, rfl, h.2 c (by simp)⟩
  | @qualified skill name h _ =>
      obtain ⟨c, rest, rfl⟩ := List.exists_cons_of_ne_nil h.1
      exact ⟨c, rest ++ '.' :: name, rfl, h.2 c (by simp)⟩

theorem not_isQuote_of_isIdentifier {c : Char} (h : Text.isIdentifier c = true) :
    isQuote c = false := by
  rw [Bool.eq_false_iff]
  intro hq
  rcases eq_of_isQuote hq with rfl | rfl
  · exact absurd h (by decide)
  · exact absurd h (by decide)

/-- A token is a word with the block that the grammar gives, and passes its test. -/
theorem Token.wordBlock_eq {s : List Char} {block : Block} (h : Token s block) :
    wordBlock s = block ∧ block.isValid = true := by
  have htrim := trim_ofList h.trimmed
  cases h with
  | operand h =>
      cases h with
      | ofLiteral h =>
          refine ⟨?_, isValid_value.2 (valueFlaw?_of_isLiteral h)⟩
          cases h with
          | mk hquote _ => rw [wordBlock, if_pos hquote, Block.ofValue, htrim]
      | ofVariable h =>
          refine ⟨?_, isValid_variable.2 (variableFlaw?_eq_none_iff.2 h)⟩
          cases h with
          | mk _ => rw [wordBlock, if_neg (by decide), if_pos rfl, Block.ofVariable, htrim]
  | reference h =>
      refine ⟨?_, isValid_function.2 (functionFlaw?_of_isReference h)⟩
      obtain ⟨c, rest, rfl, hc⟩ := h.exists_cons
      have hquote : ¬isQuote c = true := by simp [not_isQuote_of_isIdentifier hc]
      have hdollar : c ≠ '$' := ne_of_isIdentifier hc (by decide)
      rw [wordBlock, if_neg hquote, if_neg hdollar, Block.ofFunction, htrim]

/-! ### Cutting words off -/

@[simp] theorem words_nil : words [] = [] := by
  rw [words]

theorem words_cons_of_isBlank {c : Char} (h : Text.isBlank c = true) (s : List Char) :
    words (c :: s) = words s := by
  rw [words, if_pos h]

theorem words_append_of_isBlanks {gap : List Char} (h : Text.IsBlanks gap) (s : List Char) :
    words (gap ++ s) = words s := by
  induction gap with
  | nil => rfl
  | cons c gap ih =>
      rw [Text.isBlanks_cons] at h
      rw [List.cons_append, words_cons_of_isBlank h.1, ih h.2]

theorem words_of_isBlanks {gap : List Char} (h : Text.IsBlanks gap) : words gap = [] := by
  rw [← List.append_nil gap, words_append_of_isBlanks h, words_nil]

theorem words_of_closeQuote {quote : Char} {s closed after : List Char}
    (hquote : isQuote quote = true) (h : closeQuote quote s = some (closed, after)) :
    words (quote :: s) = (quote :: closed) :: words after := by
  have hblank : ¬Text.isBlank quote = true := by simp [not_isBlank_of_isQuote hquote]
  rw [words, if_neg hblank, if_pos hquote]
  split
  · rename_i closed' after' h'
    rw [h, Option.some.injEq, Prod.mk.injEq] at h'
    rw [h'.1, h'.2]
  · rename_i h'
    rw [h] at h'
    cases h'

theorem words_of_open {quote : Char} {s : List Char} (hquote : isQuote quote = true)
    (h : closeQuote quote s = none) : words (quote :: s) = [quote :: s] := by
  have hblank : ¬Text.isBlank quote = true := by simp [not_isBlank_of_isQuote hquote]
  rw [words, if_neg hblank, if_pos hquote]
  split
  · rename_i closed' after' h'
    rw [h] at h'
    cases h'
  · rfl

theorem words_of_run {c : Char} {s : List Char} (hblank : Text.isBlank c = false)
    (hquote : isQuote c = false) :
    words (c :: s) =
      (c :: s.takeWhile fun x => !Text.isBlank x) ::
        words (s.dropWhile fun x => !Text.isBlank x) := by
  rw [words, if_neg (by simp [hblank]), if_neg (by simp [hquote])]

theorem words_run_append {c : Char} {run rest : List Char} (hquote : isQuote c = false)
    (hrun : ∀ d ∈ c :: run, Text.isBlank d = false)
    (hrest : ∀ d ∈ rest.head?, Text.isBlank d = true) :
    words (c :: run ++ rest) = (c :: run) :: words rest := by
  have hall : ∀ d ∈ run, (!Text.isBlank d) = true := by
    intro d hd
    rw [hrun d (List.mem_cons_of_mem c hd)]
    rfl
  have htake : rest.takeWhile (fun x => !Text.isBlank x) = [] := by
    cases rest with
    | nil => rfl
    | cons d rest => simp [hrest d (by simp)]
  have hdrop : rest.dropWhile (fun x => !Text.isBlank x) = rest := by
    cases rest with
    | nil => rfl
    | cons d rest => simp [hrest d (by simp)]
  rw [List.cons_append, words_of_run (hrun c (by simp)) hquote,
    List.takeWhile_append_of_pos hall, List.dropWhile_append_of_pos hall, htake, hdrop,
    List.append_nil]

theorem words_literal_append {s : List Char} (h : IsLiteral s) (rest : List Char) :
    words (s ++ rest) = s :: words rest := by
  cases h with
  | @mk quote inside hquote hinside =>
      have hclose : closeQuote quote (inside ++ quote :: rest) = some (inside ++ [quote], rest) :=
        closeQuote_of_inside (ne_backslash_of_isQuote hquote) hinside
      rw [List.cons_append, List.append_assoc, List.singleton_append,
        words_of_closeQuote hquote hclose]

theorem Token.words_append {s : List Char} {block : Block} (h : Token s block)
    {rest : List Char} (hrest : ∀ d ∈ rest.head?, Text.isBlank d = true) :
    words (s ++ rest) = s :: words rest := by
  cases h with
  | operand h =>
      cases h with
      | ofLiteral h => exact words_literal_append h rest
      | ofVariable h =>
          have hblank := h.not_isBlank
          cases h with
          | mk _ => exact words_run_append (by decide) hblank hrest
  | reference h =>
      have hblank := h.not_isBlank
      obtain ⟨c, run, rfl, hc⟩ := h.exists_cons
      exact words_run_append (not_isQuote_of_isIdentifier hc) hblank hrest

/-! ### The first word -/

theorem token_of_run {c : Char} {run : List Char} (hquote : isQuote c = false)
    (hrun : ∀ d ∈ c :: run, Text.isBlank d = false)
    (h : (wordBlock (c :: run)).isValid = true) :
    Token (c :: run) (wordBlock (c :: run)) := by
  have htrim := trim_ofList (trimmed_of_forall hrun)
  have hquote' : ¬isQuote c = true := by simp [hquote]
  by_cases hdollar : c = '$'
  · rw [wordBlock, if_neg hquote', if_pos hdollar, Block.ofVariable, htrim] at h ⊢
    exact .operand (.ofVariable (variableFlaw?_eq_none_iff.1 (isValid_variable.1 h)))
  · rw [wordBlock, if_neg hquote', if_neg hdollar, Block.ofFunction, htrim] at h ⊢
    exact .reference (isReference_of_functionFlaw? (isValid_function.1 h))

theorem not_isValid_of_open {quote : Char} {s : List Char} (hquote : isQuote quote = true)
    (h : closeQuote quote s = none) : ¬(wordBlock (quote :: s)).isValid = true := by
  rw [wordBlock, if_pos hquote, Block.ofValue, isValid_value, Text.trim, String.toList_ofList]
  have hhead : ∀ c ∈ (quote :: s).head?, Text.isBlank c = false := by
    simpa using not_isBlank_of_isQuote hquote
  obtain ⟨trail, htrail, hs⟩ := Text.exists_trimChars_of_head hhead
  -- blanks at the end are cut off before the test, which leaves the literal open
  cases hcut : Text.trimChars (quote :: s) with
  | nil =>
      rw [hcut, List.nil_append] at hs
      have hblank := htrail quote (by simp [← hs])
      rw [not_isBlank_of_isQuote hquote] at hblank
      exact absurd hblank (by decide)
  | cons c t =>
      rw [hcut, List.cons_append, List.cons.injEq] at hs
      obtain ⟨rfl, rfl⟩ := hs
      apply valueFlaw?_of_closeQuote hquote
      cases hclose : closeQuote quote t with
      | none => rfl
      | some parts => rw [closeQuote_append hquote hclose] at h; cases h

/-- The scanner cuts a word off and goes on behind it. The word is a token if it passes its
test, and unless it is a literal a blank follows it or nothing. -/
theorem exists_word {c : Char} (hc : Text.isBlank c = false) (s : List Char) :
    ∃ word rest, c :: s = word ++ rest ∧ words (c :: s) = word :: words rest ∧
      ((wordBlock word).isValid = true → Token word (wordBlock word)) ∧
      (isQuote c = false → ∀ d ∈ rest.head?, Text.isBlank d = true) := by
  by_cases hquote : isQuote c = true
  · cases hclose : closeQuote c s with
    | none =>
        refine ⟨c :: s, [], by simp, ?_, ?_, by simp⟩
        · rw [words_of_open hquote hclose, words_nil]
        · intro h
          exact absurd h (not_isValid_of_open hquote hclose)
    | some parts =>
        obtain ⟨closed, after⟩ := parts
        obtain ⟨inside, hinside, rfl⟩ := inside_of_closeQuote hclose
        have htoken :
            Token (c :: (inside ++ [c])) (.value (String.ofList (c :: (inside ++ [c])))) :=
          .operand (.ofLiteral (.mk hquote hinside))
        refine ⟨c :: (inside ++ [c]), after, ?_, words_of_closeQuote hquote hclose, ?_, ?_⟩
        · rw [append_of_closeQuote hclose, List.cons_append]
        · intro _
          rw [htoken.wordBlock_eq.1]
          exact htoken
        · intro h
          rw [hquote] at h
          cases h
  · have hquote : isQuote c = false := by simpa using hquote
    refine ⟨_, _, ?_, words_of_run hc hquote, ?_, ?_⟩
    · rw [List.cons_append, List.takeWhile_append_dropWhile]
    · intro h
      refine token_of_run hquote ?_ h
      intro d hd
      rcases List.mem_cons.1 hd with rfl | hd
      · exact hc
      · simpa using List.mem_takeWhile_imp hd
    · intro _ d hd
      have h := List.head?_dropWhile_not (fun x => !Text.isBlank x) s
      rw [Option.mem_def.1 hd] at h
      simpa using h

theorem isBlanks_of_words {s : List Char} (h : words s = []) : Text.IsBlanks s := by
  induction s with
  | nil => exact Text.isBlanks_nil
  | cons c s ih =>
      cases hc : Text.isBlank c with
      | true =>
          rw [words_cons_of_isBlank hc] at h
          exact Text.isBlanks_cons.2 ⟨hc, ih h⟩
      | false =>
          obtain ⟨word, rest, _, hwords, _⟩ := exists_word hc s
          rw [hwords] at h
          cases h

/-! ### The tests for the whole -/

theorem isValid_code_iff {content : String} {tokens : List Block} :
    (Block.code content tokens).isValid = true ↔
      (∀ token ∈ tokens, token.isValid = true) ∧ shapeFlaw? tokens = none := by
  rw [← firstError?_eq_none_iff]
  simp [Block.isValid, Block.error?]

/-- A code block holds one token, or a reference and an operand. -/
theorem shapeFlaw?_eq_none_iff {tokens : List Block} :
    shapeFlaw? tokens = none ↔
      (∃ token, tokens = [token]) ∨
        ∃ reference argument, tokens = [reference, argument] ∧ reference.kind = .function ∧
          (argument.kind = .value ∨ argument.kind = .variable) := by
  match tokens with
  | [] => simp [shapeFlaw?]
  | [token] => simp [shapeFlaw?]
  | first :: second :: rest =>
      by_cases hfirst : first.kind = .function
      · by_cases hsecond : second.kind = .value ∨ second.kind = .variable
        · cases rest <;> simp [shapeFlaw?, hfirst, hsecond, ← not_or]
        · simp [shapeFlaw?, hfirst, hsecond, ← not_or]
      · simp [shapeFlaw?, hfirst]

theorem Operand.kind {s : List Char} {block : Block} (h : Operand s block) :
    block.kind = .value ∨ block.kind = .variable := by
  cases h with
  | ofLiteral _ => exact .inl rfl
  | ofVariable _ => exact .inr rfl

theorem Token.operand_of_kind {s : List Char} {block : Block} (h : Token s block)
    (hkind : block.kind = .value ∨ block.kind = .variable) : Operand s block := by
  cases h with
  | operand h => exact h
  | reference _ => rcases hkind with h | h <;> cases h

theorem Token.reference_of_kind {s : List Char} {block : Block} (h : Token s block)
    (hkind : block.kind = .function) :
    IsReference s ∧ block = .function (String.ofList s) := by
  cases h with
  | operand h => cases h <;> cases hkind
  | reference h => exact ⟨h, rfl⟩

theorem Token.spanBody {s : List Char} {block : Block} (h : Token s block) :
    SpanBody s [block] := by
  cases h with
  | operand h => exact .operand h
  | reference h => exact .call h

/-! ### Spans -/

theorem eq_of_words_nil {s word rest : List Char} (hs : ∀ c ∈ s.getLast?, Text.isBlank c = false)
    (h : s = word ++ rest) (hwords : words rest = []) : s = word := by
  have hblank := isBlanks_of_words hwords
  rcases List.eq_nil_or_concat rest with rfl | ⟨rest, c, rfl⟩
  · rw [h, List.append_nil]
  · have hc : Text.isBlank c = false := hs c (by simp [h])
    rw [hblank c (by simp)] at hc
    cases hc

theorem spanBody_of_isValid {s : List Char} (hs : Text.Trimmed s)
    (hvalid : ∀ token ∈ (words s).map wordBlock, token.isValid = true)
    (hshape : shapeFlaw? ((words s).map wordBlock) = none) :
    SpanBody s ((words s).map wordBlock) := by
  cases s with
  | nil => simp [shapeFlaw?] at hshape
  | cons c s =>
      obtain ⟨word, rest, hsplit, hwords, htoken, hgap⟩ := exists_word (hs.1 c rfl) s
      rw [hwords, List.map_cons] at hvalid hshape ⊢
      have hword : Token word (wordBlock word) := htoken (hvalid _ (by simp))
      rcases shapeFlaw?_eq_none_iff.1 hshape with ⟨token, h⟩ | ⟨reference, argument, h, hr, ha⟩
      · rw [List.cons.injEq, List.map_eq_nil_iff] at h
        rw [eq_of_words_nil hs.2 hsplit h.2, h.2, List.map_nil]
        exact hword.spanBody
      · -- the first word is a reference, so the second is not glued to it
        rw [List.cons.injEq] at h
        obtain ⟨rfl, h⟩ := h
        obtain ⟨hreference, hfunction⟩ := hword.reference_of_kind hr
        obtain ⟨gap, hblanks, hrest⟩ := Text.exists_trimStart rest
        have hhead := Text.head?_trimStart rest
        cases hcut : Text.trimStart rest with
        | nil =>
            rw [hcut, List.append_nil] at hrest
            rw [hrest, words_of_isBlanks hblanks] at h
            cases h
        | cons d t =>
            rw [hcut] at hrest hhead
            have hd : Text.isBlank d = false := hhead d rfl
            obtain ⟨word', rest', hsplit', hwords', htoken', _⟩ := exists_word hd t
            rw [hrest, words_append_of_isBlanks hblanks, hwords', List.map_cons] at h hvalid ⊢
            rw [List.cons.injEq, List.map_eq_nil_iff] at h
            obtain ⟨rfl, h⟩ := h
            have hlast : ∀ e ∈ (d :: t).getLast?, Text.isBlank e = false := by
              intro e he
              apply hs.2 e
              rw [hsplit, hrest, List.getLast?_append, List.getLast?_append, Option.mem_def.1 he]
              rfl
            have hword' : Token word' (wordBlock word') := htoken' (hvalid _ (by simp))
            have hne : gap ≠ [] := by
              rintro rfl
              obtain ⟨e, run, rfl, he⟩ := hreference.exists_cons
              rw [List.cons_append, List.cons.injEq] at hsplit
              have hquote : isQuote c = false := by
                rw [hsplit.1]
                exact not_isQuote_of_isIdentifier he
              have hblank := hgap hquote d (by simp [hrest])
              rw [hd] at hblank
              cases hblank
            rw [hsplit, hrest, eq_of_words_nil hlast hsplit' h, h, List.map_nil, hfunction,
              ← List.append_assoc]
            exact .callWith hreference hblanks hne (hword'.operand_of_kind ha)

theorem Token.words_eq {s : List Char} {block : Block} (h : Token s block) : words s = [s] := by
  have hrest : ∀ d ∈ ([] : List Char).head?, Text.isBlank d = true := by simp
  simpa using h.words_append hrest

theorem SpanBody.map_words {s : List Char} {tokens : List Block} (h : SpanBody s tokens) :
    (words s).map wordBlock = tokens := by
  cases h with
  | operand h =>
      have htoken := Token.operand h
      rw [htoken.words_eq, List.map_singleton, htoken.wordBlock_eq.1]
  | call h =>
      have htoken := Token.reference h
      rw [htoken.words_eq, List.map_singleton, htoken.wordBlock_eq.1]
  | @callWith reference gap s argument h hgap hne harg =>
      have hword := Token.reference h
      have hword' := Token.operand harg
      have hrest : ∀ d ∈ (gap ++ s).head?, Text.isBlank d = true := by
        obtain ⟨e, gap, rfl⟩ := List.exists_cons_of_ne_nil hne
        intro d hd
        rw [List.cons_append, List.head?_cons, Option.mem_some_iff] at hd
        exact hgap d (by simp [hd])
      rw [List.append_assoc, hword.words_append hrest, words_append_of_isBlanks hgap,
        hword'.words_eq, List.map_cons, List.map_singleton, hword.wordBlock_eq.1,
        hword'.wordBlock_eq.1]

theorem SpanBody.isValid {s content : List Char} {tokens : List Block} (h : SpanBody s tokens) :
    (Block.code (String.ofList content) tokens).isValid = true := by
  rw [isValid_code_iff, shapeFlaw?_eq_none_iff]
  cases h with
  | operand h => simpa using (Token.operand h).wordBlock_eq.2
  | call h => simpa using (Token.reference h).wordBlock_eq.2
  | callWith h _ _ harg =>
      have hvalid := (Token.reference h).wordBlock_eq.2
      have hvalid' := (Token.operand harg).wordBlock_eq.2
      have hkind := harg.kind
      refine ⟨by simp [hvalid, hvalid'], .inr ⟨_, _, rfl, rfl, hkind⟩⟩

theorem SpanBody.trimmed {s : List Char} {tokens : List Block} (h : SpanBody s tokens) :
    Text.Trimmed s ∧ s ≠ [] := by
  cases h with
  | operand h => exact ⟨(Token.operand h).trimmed, (Token.operand h).ne_nil⟩
  | call h => exact ⟨(Token.reference h).trimmed, (Token.reference h).ne_nil⟩
  | callWith h _ _ harg =>
      have hword := Token.reference h
      have hword' := Token.operand harg
      exact ⟨hword.trimmed.append hword.ne_nil hword'.trimmed hword'.ne_nil _,
        List.append_ne_nil_of_right_ne_nil _ hword'.ne_nil⟩

theorem codeBlock_eq (raw : List Char) :
    codeBlock raw =
      .code (String.ofList (Text.trimChars raw)) ((words (Text.trimChars raw)).map wordBlock) := by
  rw [codeBlock, Block.ofCode, Text.trim, String.toList_ofList]

/-- The code block of a span whose inside belongs to the grammar. -/
theorem Span.codeBlock_eq {raw : List Char} {tokens : List Block} (h : Span raw tokens) :
    (codeBlock raw).tokens = tokens ∧ (codeBlock raw).isValid = true := by
  cases h with
  | mk hlead hbody htrail =>
      obtain ⟨htrimmed, hne⟩ := hbody.trimmed
      rw [Template.codeBlock_eq, Text.trimChars_append hlead htrimmed hne htrail, hbody.map_words]
      exact ⟨rfl, hbody.isValid⟩

theorem span_of_isValid {raw : List Char} (h : (codeBlock raw).isValid = true) :
    Span raw (codeBlock raw).tokens := by
  rw [codeBlock_eq] at h ⊢
  obtain ⟨hvalid, hshape⟩ := isValid_code_iff.1 h
  obtain ⟨lead, trail, hlead, htrail, hraw⟩ := Text.exists_trimChars raw
  have hbody := spanBody_of_isValid (Text.trimmed_trimChars raw) hvalid hshape
  have hspan := Span.mk hlead hbody htrail
  rwa [← hraw] at hspan

/-- **Spans.** The inside of a span passes the tests exactly when it belongs to the grammar,
and the tokens of its block are then the ones that the grammar gives. -/
theorem isValid_codeBlock_iff (s : String) :
    ((codeBlock s.toList).isValid = true ↔ ∃ tokens, Span s.toList tokens) ∧
      ∀ tokens, Span s.toList tokens → (codeBlock s.toList).tokens = tokens := by
  refine ⟨⟨fun h => ⟨_, span_of_isValid h⟩, ?_⟩, fun tokens h => h.codeBlock_eq.1⟩
  rintro ⟨tokens, h⟩
  exact h.codeBlock_eq.2

/-- A glued argument is no argument, and a glued literal no second word. -/
example : words "fn'a' 'b''c'".toList =
    ["fn'a'".toList, "'b'".toList, "'c'".toList] := by
  cbv

end PromptPlan.Template
