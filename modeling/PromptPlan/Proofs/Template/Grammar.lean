import Mathlib.Data.List.Basic
import PromptPlan.Proofs.Text.Trim
import PromptPlan.Template.Segment

/-!
# The grammar of tokens

What may be written inside a span is said here as relations on texts, without the scanner
and without the flaws: quoted values, variables, references to functions, and the operands
and calls that are made of them. A value is a quote, an inside in which every backslash
takes the next character along and the quote does not stand by itself, and the same quote.

The second half ties the relations to the tests that blocks are put to. A variable and a
reference have no flaw exactly when they belong to the grammar. For values only one
direction holds of the test alone, because it looks at both ends of a text and not between
them; what it does catch is every literal that was never closed.
-/

namespace PromptPlan.Template

/-! ### Values -/

/-- What may stand between two quotes. -/
inductive Inside (quote : Char) : List Char → Prop
  | nil : Inside quote []
  | escaped {c : Char} {rest : List Char} :
      Inside quote rest → Inside quote ('\\' :: c :: rest)
  | plain {c : Char} {rest : List Char} :
      c ≠ '\\' → c ≠ quote → Inside quote rest → Inside quote (c :: rest)

/-- A quoted value. -/
inductive IsLiteral : List Char → Prop
  | mk {quote : Char} {inside : List Char} :
      isQuote quote = true → Inside quote inside → IsLiteral (quote :: (inside ++ [quote]))

/-! ### Names -/

/-- Identifier characters, at least one. -/
def IsName (s : List Char) : Prop :=
  s ≠ [] ∧ ∀ c ∈ s, Text.isIdentifier c = true

/-- A dollar sign and a name. -/
inductive IsVariable : List Char → Prop
  | mk {name : List Char} : IsName name → IsVariable ('$' :: name)

/-- A name, or two with a dot between them. -/
inductive IsReference : List Char → Prop
  | name {name : List Char} : IsName name → IsReference name
  | qualified {skill name : List Char} :
      IsName skill → IsName name → IsReference (skill ++ '.' :: name)

/-! ### Spans -/

/-- A value or a variable, with its block. -/
inductive Operand : List Char → Block → Prop
  | ofLiteral {s : List Char} : IsLiteral s → Operand s (.value (String.ofList s))
  | ofVariable {s : List Char} : IsVariable s → Operand s (.variable (String.ofList s))

/-- What a span holds between the blanks, with its tokens: an operand, or a reference that
blanks and one operand may follow. -/
inductive SpanBody : List Char → List Block → Prop
  | operand {s : List Char} {token : Block} : Operand s token → SpanBody s [token]
  | call {reference : List Char} :
      IsReference reference → SpanBody reference [.function (String.ofList reference)]
  | callWith {reference gap s : List Char} {argument : Block} :
      IsReference reference → Text.IsBlanks gap → gap ≠ [] → Operand s argument →
        SpanBody (reference ++ gap ++ s) [.function (String.ofList reference), argument]

/-- The inside of a span, with its tokens. -/
inductive Span : List Char → List Block → Prop
  | mk {lead body trail : List Char} {tokens : List Block} :
      Text.IsBlanks lead → SpanBody body tokens → Text.IsBlanks trail →
        Span (lead ++ body ++ trail) tokens

/-! ### Characters -/

theorem eq_of_isQuote {c : Char} (h : isQuote c = true) : c = '\'' ∨ c = '"' := by
  simpa [isQuote] using h

theorem ne_backslash_of_isQuote {c : Char} (h : isQuote c = true) : c ≠ '\\' := by
  rcases eq_of_isQuote h with rfl | rfl <;> decide

theorem not_isBlank_of_isQuote {c : Char} (h : isQuote c = true) : Text.isBlank c = false := by
  rcases eq_of_isQuote h with rfl | rfl <;> decide

theorem toNat_of_isIdentifier {c : Char} (h : Text.isIdentifier c = true) :
    48 ≤ c.toNat ∧ c.toNat < 128 := by
  simp only [Text.isIdentifier, Bool.or_eq_true, Bool.and_eq_true, decide_eq_true_eq,
    beq_iff_eq, Char.le_def, UInt32.le_iff_toNat_le] at h
  rcases h with ((⟨h1, h2⟩ | ⟨h1, h2⟩) | ⟨h1, h2⟩) | rfl
  · exact ⟨le_trans (by decide) h1, lt_of_le_of_lt h2 (by decide)⟩
  · exact ⟨le_trans (by decide) h1, lt_of_le_of_lt h2 (by decide)⟩
  · exact ⟨le_trans (by decide) h1, lt_of_le_of_lt h2 (by decide)⟩
  · decide

theorem not_isBlank_of_isIdentifier {c : Char} (h : Text.isIdentifier c = true) :
    Text.isBlank c = false := by
  obtain ⟨hlow, hhigh⟩ := toNat_of_isIdentifier h
  simp only [Text.isBlank, Bool.or_eq_false_iff, Bool.and_eq_false_iff, decide_eq_false_iff_not,
    beq_eq_false_iff_ne, UInt32.le_iff_toNat_le, ne_eq, ← UInt32.toNat_inj]
  simp
  omega

theorem ne_of_isIdentifier {c d : Char} (h : Text.isIdentifier c = true)
    (hd : Text.isIdentifier d = false) : c ≠ d := by
  rintro rfl
  rw [h] at hd
  exact absurd hd (by decide)

/-! ### Where a literal ends -/

theorem closeQuote_of_inside {quote : Char} {inside after : List Char}
    (hquote : quote ≠ '\\') (h : Inside quote inside) :
    closeQuote quote (inside ++ quote :: after) = some (inside ++ [quote], after) := by
  induction h with
  | nil => simp [closeQuote, hquote]
  | escaped h ih => simp [closeQuote, ih]
  | plain hc hq h ih => simp [closeQuote, hc, hq, ih]

theorem closeQuote_cons {quote c : Char} (hc : c ≠ '\\') (s : List Char) :
    closeQuote quote (c :: s) =
      if c = quote then some ([c], s)
      else (closeQuote quote s).map fun (inside, after) => (c :: inside, after) := by
  rw [closeQuote]
  · rintro rfl
    exact absurd rfl hc
  · rintro d rest rfl
    exact absurd rfl hc

theorem ne_backslash_of_cases {c : Char} {s : List Char} (hlast : c = '\\' → s = [] → False)
    (hpair : ∀ d rest, c = '\\' → s = d :: rest → False) : c ≠ '\\' := by
  rintro rfl
  cases s with
  | nil => exact hlast rfl rfl
  | cons d rest => exact hpair d rest rfl rfl

theorem inside_of_closeQuote {quote : Char} {s closed after : List Char}
    (h : closeQuote quote s = some (closed, after)) :
    ∃ inside, Inside quote inside ∧ closed = inside ++ [quote] := by
  fun_induction closeQuote quote s generalizing closed with
  | case1 => simp at h
  | case2 => simp at h
  | case3 c rest ih =>
      simp only [Option.map_eq_some_iff, Prod.exists, Prod.mk.injEq] at h
      obtain ⟨closed', after', h, rfl, rfl⟩ := h
      obtain ⟨inside, hinside, rfl⟩ := ih h
      exact ⟨'\\' :: c :: inside, .escaped hinside, rfl⟩
  | case4 rest =>
      simp only [Option.some.injEq, Prod.mk.injEq] at h
      exact ⟨[], .nil, h.1.symm⟩
  | case5 c rest hlast hpair hc ih =>
      simp only [Option.map_eq_some_iff, Prod.exists, Prod.mk.injEq] at h
      obtain ⟨closed', after', h, rfl, rfl⟩ := h
      obtain ⟨inside, hinside, rfl⟩ := ih h
      exact ⟨c :: inside, .plain (ne_backslash_of_cases hlast hpair) hc hinside, rfl⟩

theorem closeQuote_append {quote : Char} {s closed after : List Char}
    (hquote : isQuote quote = true) (h : closeQuote quote s = some (closed, after))
    (t : List Char) : closeQuote quote (s ++ t) = some (closed, after ++ t) := by
  obtain ⟨inside, hinside, rfl⟩ := inside_of_closeQuote h
  rw [append_of_closeQuote h, List.append_assoc, List.append_assoc, List.singleton_append]
  exact closeQuote_of_inside (ne_backslash_of_isQuote hquote) hinside

/-! ### The test for values

The test looks at the last quote and counts the backslashes in front of it. Read from the
left, the backslashes of a run pair up among themselves, because a run begins after a
character that is no backslash; so the count is even exactly when the last quote stands by
itself. -/

/-- Number of backslashes at the end of a text. -/
def endBackslashes (s : List Char) : Nat :=
  (s.reverse.takeWhile (· == '\\')).length

theorem endBackslashes_cons (c : Char) (s : List Char) :
    endBackslashes (c :: s) =
      if endBackslashes s = s.length then s.length + (if c = '\\' then 1 else 0)
      else endBackslashes s := by
  unfold endBackslashes
  rw [List.reverse_cons, List.takeWhile_append, List.length_reverse]
  by_cases hc : c = '\\' <;> split <;> simp_all

theorem endBackslashes_le (s : List Char) : endBackslashes s ≤ s.length := by
  rw [← List.length_reverse]
  exact (List.takeWhile_prefix _).length_le

theorem endBackslashes_pair (c : Char) (s : List Char) :
    endBackslashes ('\\' :: c :: s) % 2 = endBackslashes s % 2 := by
  have hle := endBackslashes_le s
  simp only [endBackslashes_cons, List.length_cons, if_true]
  split_ifs <;> omega

theorem endBackslashes_plain {c : Char} (hc : c ≠ '\\') (s : List Char) :
    endBackslashes (c :: s) = endBackslashes s := by
  rw [endBackslashes_cons, if_neg hc]
  split_ifs <;> omega

theorem even_endBackslashes {quote : Char} {inside : List Char} (h : Inside quote inside) :
    endBackslashes inside % 2 = 0 := by
  induction h with
  | nil => rfl
  | escaped h ih => rw [endBackslashes_pair, ih]
  | plain hc hq h ih => rw [endBackslashes_plain hc, ih]

theorem closeQuote_ne_none {quote : Char} {inside : List Char} (hquote : isQuote quote = true)
    (h : endBackslashes inside % 2 = 0) : closeQuote quote (inside ++ [quote]) ≠ none := by
  have hne : quote ≠ '\\' := ne_backslash_of_isQuote hquote
  -- along the scan of the inside; a pair changes the count by two or not at all
  fun_induction closeQuote quote inside with
  | case1 => simp [closeQuote_cons hne]
  | case2 => simp [endBackslashes] at h
  | case3 c rest ih =>
      rw [endBackslashes_pair] at h
      simpa [closeQuote] using ih h
  | case4 rest => simp [closeQuote_cons hne]
  | case5 c rest hlast hpair hc ih =>
      have hcb : c ≠ '\\' := ne_backslash_of_cases hlast hpair
      rw [endBackslashes_plain hcb] at h
      simpa [closeQuote_cons hcb, hc] using ih h

theorem valueFlaw?_ofList (first last : Char) (inside : List Char) :
    valueFlaw? (String.ofList (first :: (inside ++ [last]))) =
      if !isQuote first || !isQuote last then some .valueQuotes
      else if first ≠ last then some .valueMixedQuotes
      else if endBackslashes inside % 2 = 1 then some .valueOpen
      else none := by
  cases inside with
  | nil => simp [valueFlaw?, endBackslashes]
  | cons c inside =>
      have hinside : (c :: (inside ++ [last])).dropLast = c :: inside := by
        rw [← List.cons_append, List.dropLast_concat]
      simp [valueFlaw?, endBackslashes, hinside]

theorem valueFlaw?_of_isLiteral {s : List Char} (h : IsLiteral s) :
    valueFlaw? (String.ofList s) = none := by
  cases h with
  | @mk quote inside hquote hinside =>
      rw [valueFlaw?_ofList]
      simp [hquote, even_endBackslashes hinside]

theorem valueFlaw?_of_closeQuote {quote : Char} {s : List Char} (hquote : isQuote quote = true)
    (h : closeQuote quote s = none) : valueFlaw? (String.ofList (quote :: s)) ≠ none := by
  rcases List.eq_nil_or_concat s with rfl | ⟨inside, last, rfl⟩
  · simp [valueFlaw?]
  · rw [List.concat_eq_append, valueFlaw?_ofList]
    intro hflaw
    split_ifs at hflaw with h1 h2 h3
    have hlast : quote = last := by simpa using h2
    subst hlast
    rw [List.concat_eq_append] at h
    exact closeQuote_ne_none hquote (by omega) h

/-! ### The tests for names -/

theorem not_isIdentifier_dot : Text.isIdentifier '.' = false := by decide

theorem IsName.dot_notMem {s : List Char} (h : IsName s) : '.' ∉ s := by
  intro hdot
  exact ne_of_isIdentifier (h.2 _ hdot) not_isIdentifier_dot rfl

theorem variableFlaw?_eq_none_iff {s : List Char} :
    variableFlaw? (String.ofList s) = none ↔ IsVariable s := by
  unfold variableFlaw?
  rw [String.toList_ofList]
  constructor
  · intro h
    split at h
    · rename_i name
      split_ifs at h with hempty hname
      exact .mk ⟨by simpa using hempty, by simpa using hname⟩
    · exact absurd h (by simp)
  · rintro ⟨hne, hname⟩
    simp [hne, List.all_eq_true.2 hname]

theorem cutDot_of_notMem {s : List Char} (h : '.' ∉ s) : cutDot s = none := by
  induction s with
  | nil => rfl
  | cons c s ih =>
      rw [List.mem_cons, not_or] at h
      rw [cutDot, if_neg (Ne.symm h.1), ih h.2]
      rfl

theorem cutDot_append {skill : List Char} (h : '.' ∉ skill) (name : List Char) :
    cutDot (skill ++ '.' :: name) = some (skill, name) := by
  induction skill with
  | nil => simp [cutDot]
  | cons c skill ih =>
      rw [List.mem_cons, not_or] at h
      rw [List.cons_append, cutDot, if_neg (Ne.symm h.1), ih h.2]
      rfl

theorem all_of_isReference {s : List Char} (h : IsReference s) :
    s.all (fun c => Text.isIdentifier c || c == '.') = true := by
  rw [List.all_eq_true]
  intro c hc
  rw [Bool.or_eq_true, beq_iff_eq]
  cases h with
  | name h => exact .inl (h.2 c hc)
  | qualified hskill hname =>
      rw [List.mem_append, List.mem_cons] at hc
      rcases hc with hc | rfl | hc
      · exact .inl (hskill.2 c hc)
      · exact .inr rfl
      · exact .inl (hname.2 c hc)

theorem functionFlaw?_of_isReference {s : List Char} (h : IsReference s) :
    functionFlaw? (String.ofList s) = none := by
  have hall := all_of_isReference h
  simp only [functionFlaw?, String.toList_ofList, hall, Bool.not_true]
  cases h with
  | name h =>
      rw [cutDot_of_notMem h.dot_notMem, List.count_eq_zero_of_not_mem h.dot_notMem]
      simp [h.1]
  | @qualified skill name hskill hname =>
      rw [cutDot_append hskill.dot_notMem, List.count_append, List.count_cons_self,
        List.count_eq_zero_of_not_mem hskill.dot_notMem,
        List.count_eq_zero_of_not_mem hname.dot_notMem]
      simp [hskill.1, hname.1]

theorem isName_of_all {s : List Char} (hne : s ≠ []) (hdot : '.' ∉ s)
    (hall : ∀ c ∈ s, Text.isIdentifier c = true ∨ c = '.') : IsName s := by
  refine ⟨hne, fun c hc => (hall c hc).resolve_right ?_⟩
  rintro rfl
  exact hdot hc

theorem isReference_of_functionFlaw? {s : List Char}
    (h : functionFlaw? (String.ofList s) = none) : IsReference s := by
  simp only [functionFlaw?, String.toList_ofList] at h
  split_ifs at h with hempty hall hcount
  have hne : s ≠ [] := by simpa using hempty
  have hall : ∀ c ∈ s, Text.isIdentifier c = true ∨ c = '.' := by
    simpa [Classical.or_iff_not_imp_left] using hall
  -- the count leaves at most one dot, and the parts around it are not empty
  by_cases hdot : '.' ∈ s
  · obtain ⟨skill, name, rfl, hskill⟩ := List.eq_append_cons_of_mem hdot
    have hname : '.' ∉ name := by
      rw [List.count_append, List.count_cons_self] at hcount
      exact List.count_eq_zero.1 (by omega)
    rw [cutDot_append hskill] at h
    dsimp only at h
    split_ifs at h with hparts
    simp only [Bool.or_eq_true, List.isEmpty_iff, not_or] at hparts
    exact .qualified
      (isName_of_all hparts.1 hskill fun c hc => hall c (by simp [hc]))
      (isName_of_all hparts.2 hname fun c hc => hall c (by simp [hc]))
  · exact .name (isName_of_all hne hdot hall)

end PromptPlan.Template
