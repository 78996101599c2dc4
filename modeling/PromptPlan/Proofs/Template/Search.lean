import PromptPlan.Proofs.Template.Written

/-!
# The search for closing braces, character by character

The search that closes a span leaps from quote to quote. What it finds can be told just as well by
an automaton that reads one character after another, and the state in which a text leaves the
automaton says all about that text that matters to what follows it.

Read from outside, the inside of a span that is closed in the regular way leads outside again
(`closeSpan_cases`), and whatever leads outside again is passed over (`passed_of_run`). The search
gives up exactly where the text ends in a literal (`closeSpan_of_isOpen`).
-/

namespace PromptPlan.Template

/-- A character that opens and closes literals. -/
structure Quote where
  char : Char
  isQuote_char : isQuote char = true

theorem Quote.ne {c : Char} (h : isQuote c = false) (quote : Quote) : c ≠ quote.char := by
  rintro rfl
  rw [quote.isQuote_char] at h
  cases h

/-- Where the search stands. -/
inductive Mode where
  | outside
  | brace
  | opened (quote : Quote)
  | inside (quote : Quote)
  | escaped (quote : Quote)
  | closed

namespace Mode

/-- Reads a character outside literals. -/
def stepOutside (c : Char) : Mode :=
  if h : isQuote c = true then .opened ⟨c, h⟩ else if c = '}' then .brace else .outside

/-- Reads a character in a literal. -/
def stepInside (quote : Quote) (c : Char) : Mode :=
  if c = '\\' then .escaped quote else if c = quote.char then .outside else .inside quote

/-- Reads a character. -/
def step : Mode → Char → Mode
  | .outside, c => stepOutside c
  | .brace, c => if c = '}' then .closed else stepOutside c
  | .opened quote, c => stepInside quote c
  | .inside quote, c => stepInside quote c
  | .escaped quote, _ => .inside quote
  | .closed, _ => .closed

/-- Reads a text. -/
def run (m : Mode) (s : List Char) : Mode :=
  s.foldl step m

/-- Whether a text that ends here ends in a literal that has begun. -/
def isOpen : Mode → Bool
  | .inside _ => true
  | .escaped _ => true
  | _ => false

@[simp] theorem run_nil (m : Mode) : m.run [] = m := rfl

@[simp] theorem run_cons (m : Mode) (c : Char) (s : List Char) :
    m.run (c :: s) = (m.step c).run s := rfl

theorem run_append (m : Mode) (s t : List Char) : m.run (s ++ t) = (m.run s).run t :=
  List.foldl_append

@[simp] theorem run_closed (s : List Char) : Mode.closed.run s = .closed := by
  induction s with
  | nil => rfl
  | cons c s ih => exact ih

/-! ### Outside literals -/

theorem stepOutside_quote {c : Char} (hquote : isQuote c = true) :
    stepOutside c = .opened ⟨c, hquote⟩ := by
  rw [stepOutside, dif_pos hquote]

theorem stepOutside_plain {c : Char} (hquote : isQuote c = false) (hbrace : c ≠ '}') :
    stepOutside c = .outside := by
  rw [stepOutside, dif_neg (by simp [hquote]), if_neg hbrace]

theorem isOpen_stepOutside (c : Char) : (stepOutside c).isOpen = false := by
  unfold stepOutside
  split_ifs <;> rfl

theorem run_braces (s : List Char) : Mode.outside.run ('}' :: '}' :: s) = .closed :=
  run_closed s

/-- A character that neither opens a literal nor closes the span leaves no trace behind the
next one. -/
theorem run_outside_cons {c d : Char} (hquote : isQuote c = false) (hpair : ¬(c = '}' ∧ d = '}'))
    (s : List Char) : Mode.outside.run (c :: d :: s) = Mode.outside.run (d :: s) := by
  by_cases hc : c = '}'
  · subst hc
    have hd : d ≠ '}' := fun hd => hpair ⟨rfl, hd⟩
    have hbrace : stepOutside '}' = .brace := rfl
    simp [step, hbrace, hd]
  · simp [step, stepOutside_plain hquote hc]

/-! ### Literals -/

theorem run_inside {quote : Quote} {s : List Char} (h : Inside quote.char s) :
    (Mode.inside quote).run s = .inside quote := by
  induction h with
  | nil => rfl
  | escaped _ ih => simpa [step, stepInside] using ih
  | plain hc hq _ ih => simpa [step, stepInside, hc, hq] using ih

/-- Only at the end of a text it matters whether a literal has just been opened. -/
theorem run_opened (quote : Quote) {s : List Char} (h : s ≠ []) :
    (Mode.opened quote).run s = (Mode.inside quote).run s := by
  cases s with
  | nil => exact absurd rfl h
  | cons c s => rfl

/-- A literal that is closed leads outside again. -/
theorem run_literal {c : Char} (hquote : isQuote c = true) {s closed after : List Char}
    (h : closeQuote c s = some (closed, after)) (t : List Char) :
    Mode.outside.run (c :: (closed ++ t)) = Mode.outside.run t := by
  obtain ⟨inside, hinside, rfl⟩ := inside_of_closeQuote h
  have hinside' : (Mode.inside ⟨c, hquote⟩).run inside = .inside ⟨c, hquote⟩ :=
    run_inside hinside
  have hclose : stepInside ⟨c, hquote⟩ c = .outside := by
    rw [stepInside, if_neg (ne_backslash_of_isQuote hquote), if_pos rfl]
  rw [run_cons, step, stepOutside_quote hquote, run_opened _ (by simp), List.append_assoc,
    run_append, hinside']
  simp [step, hclose]

theorem isOpen_of_unclosed {quote : Quote} {s : List Char}
    (h : closeQuote quote.char s = none) :
    ((Mode.inside quote).run s).isOpen = true := by
  fun_induction closeQuote quote.char s with
  | case1 => rfl
  | case2 => rfl
  | case3 c rest ih =>
      have hrest : closeQuote quote.char rest = none := by simpa using h
      simpa [step, stepInside] using ih hrest
  | case4 => cases h
  | case5 c rest hlast hpair hc ih =>
      have hrest : closeQuote quote.char rest = none := by simpa using h
      have hbackslash : c ≠ '\\' := ne_backslash_of_cases hlast hpair
      simpa [step, stepInside, hbackslash, hc] using ih hrest

/-- A literal that is not closed stays open, unless the text ends with its quote. -/
theorem isOpen_run_quote {c : Char} (hquote : isQuote c = true) {s : List Char} (hs : s ≠ [])
    (h : closeQuote c s = none) : (Mode.outside.run (c :: s)).isOpen = true := by
  have hopen : ((Mode.inside ⟨c, hquote⟩).run s).isOpen = true := isOpen_of_unclosed h
  rwa [run_cons, step, stepOutside_quote hquote, run_opened _ hs]

/-- A literal that leads outside again is closed. -/
theorem exists_closeQuote {c : Char} (hquote : isQuote c = true) {s : List Char}
    (h : Mode.outside.run (c :: s) = .outside) :
    ∃ closed after, closeQuote c s = some (closed, after) ∧
      Mode.outside.run after = .outside := by
  cases hclose : closeQuote c s with
  | none =>
      cases s with
      | nil =>
          rw [run_cons, run_nil, step, stepOutside_quote hquote] at h
          cases h
      | cons d s =>
          have hopen := isOpen_run_quote hquote (List.cons_ne_nil d s) hclose
          rw [h] at hopen
          cases hopen
  | some parts =>
      refine ⟨parts.1, parts.2, rfl, ?_⟩
      rw [append_of_closeQuote hclose, run_literal hquote hclose] at h
      exact h

end Mode

/-! ### The search -/

theorem closeSpan_of_isOpen {whole body s : List Char}
    (h : (Mode.outside.run s).isOpen = true) : closeSpan whole body s = cutClose whole := by
  fun_induction closeSpan whole body s with
  | case1 => cases h
  | case2 body c =>
      rw [Mode.run_cons, Mode.run_nil, Mode.step, Mode.isOpen_stepOutside] at h
      cases h
  | case3 body c d rest hquote closed after hclose _ ih =>
      have hrun := Mode.run_literal hquote hclose after
      rw [← append_of_closeQuote hclose] at hrun
      exact ih (hrun ▸ h)
  | case4 => rfl
  | case5 body c d rest _ hpair =>
      obtain ⟨rfl, rfl⟩ := hpair
      rw [Mode.run_braces] at h
      cases h
  | case6 body c d rest hquote hpair ih =>
      rw [Mode.run_outside_cons (by simpa using hquote) hpair] at h
      exact ih h

/-- What the search finds is the first closing braces outside literals; or else the text ends
in a literal, and it is the first closing braces. -/
theorem closeSpan_cases {whole body s raw after : List Char}
    (h : closeSpan whole body s = some (raw, after)) :
    (∃ t, raw = body.reverse ++ t ∧ s = t ++ '}' :: '}' :: after ∧
        Mode.outside.run t = .outside) ∨
      ((Mode.outside.run s).isOpen = true ∧ cutClose whole = some (raw, after)) := by
  fun_induction closeSpan whole body s with
  | case1 => cases h
  | case2 => cases h
  | case3 body c d rest hquote closed after' hclose _ ih =>
      have hrun := Mode.run_literal hquote hclose
      have hs := append_of_closeQuote hclose
      rcases ih h with ⟨t, rfl, hafter, ht⟩ | ⟨hopen, hcut⟩
      · exact .inl ⟨c :: (closed ++ t), by simp, by simp [hs, hafter], (hrun t).trans ht⟩
      · refine .inr ⟨?_, hcut⟩
        rw [hs, ← hopen]
        exact congrArg Mode.isOpen (hrun after')
  | case4 body c d rest hquote hclose =>
      exact .inr ⟨Mode.isOpen_run_quote hquote (List.cons_ne_nil d rest) hclose, h⟩
  | case5 body c d rest _ hpair =>
      obtain ⟨rfl, rfl⟩ := hpair
      obtain ⟨rfl, rfl⟩ : body.reverse = raw ∧ rest = after := by simpa using h
      exact .inl ⟨[], by simp, rfl, rfl⟩
  | case6 body c d rest hquote hpair ih =>
      have hquote : isQuote c = false := by simpa using hquote
      rcases ih h with ⟨t, rfl, hs, ht⟩ | ⟨hopen, hcut⟩
      · refine .inl ⟨c :: t, by simp, by simp [hs], ?_⟩
        cases t with
        | nil =>
            -- the braces follow at once, so the character is not one of them
            have hbrace : c ≠ '}' := by
              rintro rfl
              exact hpair ⟨rfl, by simpa using congrArg List.head? hs⟩
            exact Mode.stepOutside_plain hquote hbrace
        | cons e t =>
            obtain rfl : d = e := by simpa using congrArg List.head? hs
            rw [Mode.run_outside_cons hquote hpair, ht]
      · refine .inr ⟨?_, hcut⟩
        rwa [Mode.run_outside_cons hquote hpair]

/-- The first literal is closed and holds braces; the second one is not closed, and so the
braces in the first are taken after all. -/
example : spanBody "'a\x7d\x7d' \"b\x7d\x7d".toList =
    some ("'a".toList, "' \"b\x7d\x7d".toList) := by
  cbv

/-- What leads outside again is passed over. -/
theorem passed_of_run : ∀ {s : List Char}, Mode.outside.run s = .outside → Passed s
  | [], _ => passed_of_forall (by simp)
  | c :: s, h => by
      by_cases hquote : isQuote c = true
      · obtain ⟨closed, after, hclose, hafter⟩ := Mode.exists_closeQuote hquote h
        obtain ⟨inside, hinside, hclosed⟩ := inside_of_closeQuote hclose
        have hlength : after.length < s.length := length_lt_of_closeQuote hclose
        have hliteral : IsLiteral (c :: closed) := by
          rw [hclosed]
          exact .mk hquote hinside
        rw [append_of_closeQuote hclose, ← List.cons_append]
        exact (passed_of_isLiteral hliteral).append (passed_of_run hafter)
      · have hquote : isQuote c = false := by simpa using hquote
        cases s with
        | nil =>
            refine passed_of_forall fun d hd => ?_
            obtain rfl : d = c := by simpa using hd
            refine ⟨hquote, ?_⟩
            rintro rfl
            cases h
        | cons d s =>
            have hpair : ¬(c = '}' ∧ d = '}') := by
              rintro ⟨rfl, rfl⟩
              rw [Mode.run_braces] at h
              cases h
            rw [Mode.run_outside_cons hquote hpair] at h
            have hs := passed_of_run h
            intro whole body rest hrest
            rw [List.cons_append, List.cons_append, closeSpan_cons_cons hquote hpair,
              ← List.cons_append, hs whole _ rest hrest]
            simp
termination_by s => s.length

end PromptPlan.Template
