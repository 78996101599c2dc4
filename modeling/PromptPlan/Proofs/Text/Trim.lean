import Mathlib.Data.List.Basic
import Mathlib.Data.List.TakeWhile
import PromptPlan.Text.Blank

/-!
# What trimming leaves

A text is *trimmed* when it neither begins nor ends with a blank. Trimming cuts a text into
blanks, a trimmed middle and blanks again, and gives the middle. There is only one such
cut when the middle is not empty, so a trimmed text between blanks is what trimming finds.
-/

namespace PromptPlan.Text

/-- Nothing but blanks. -/
def IsBlanks (s : List Char) : Prop :=
  ∀ c ∈ s, isBlank c = true

/-- No blank in front and none at the end. -/
def Trimmed (s : List Char) : Prop :=
  (∀ c ∈ s.head?, isBlank c = false) ∧ ∀ c ∈ s.getLast?, isBlank c = false

theorem isBlanks_nil : IsBlanks [] := by
  simp [IsBlanks]

theorem isBlanks_cons {c : Char} {s : List Char} :
    IsBlanks (c :: s) ↔ isBlank c = true ∧ IsBlanks s := by
  simp [IsBlanks]

theorem isBlanks_space : IsBlanks [' '] :=
  isBlanks_cons.2 ⟨by decide, isBlanks_nil⟩

theorem isBlanks_append {s t : List Char} (hs : IsBlanks s) (ht : IsBlanks t) :
    IsBlanks (s ++ t) :=
  List.forall_mem_append.2 ⟨hs, ht⟩

theorem Trimmed.append {s t : List Char} (hs : Trimmed s) (hsne : s ≠ []) (ht : Trimmed t)
    (htne : t ≠ []) (middle : List Char) : Trimmed (s ++ middle ++ t) := by
  obtain ⟨c, s, rfl⟩ := List.exists_cons_of_ne_nil hsne
  refine ⟨fun d hd => hs.1 d hd, ?_⟩
  intro d hd
  rw [List.getLast?_append_of_ne_nil _ htne] at hd
  exact ht.2 d hd

/-! ### Both ends -/

theorem trimStart_append {lead s : List Char} (hlead : IsBlanks lead)
    (hs : ∀ c ∈ s.head?, isBlank c = false) : trimStart (lead ++ s) = s := by
  unfold trimStart
  rw [List.dropWhile_append_of_pos hlead]
  cases s with
  | nil => rfl
  | cons c s => simp [hs c (by simp)]

theorem trimEnd_eq_reverse (s : List Char) : trimEnd s = (trimStart s.reverse).reverse := rfl

theorem trimEnd_append {s trail : List Char} (htrail : IsBlanks trail)
    (hs : ∀ c ∈ s.getLast?, isBlank c = false) : trimEnd (s ++ trail) = s := by
  rw [trimEnd_eq_reverse, List.reverse_append, trimStart_append, List.reverse_reverse]
  · intro c hc
    exact htrail c (List.mem_reverse.1 hc)
  · rwa [List.head?_reverse]

theorem exists_trimStart (s : List Char) :
    ∃ lead, IsBlanks lead ∧ s = lead ++ trimStart s := by
  refine ⟨s.takeWhile isBlank, ?_, (List.takeWhile_append_dropWhile).symm⟩
  intro c hc
  exact List.mem_takeWhile_imp hc

theorem exists_trimEnd (s : List Char) : ∃ trail, IsBlanks trail ∧ s = trimEnd s ++ trail := by
  obtain ⟨lead, hlead, h⟩ := exists_trimStart s.reverse
  refine ⟨lead.reverse, ?_, ?_⟩
  · intro c hc
    exact hlead c (List.mem_reverse.1 hc)
  · rw [trimEnd_eq_reverse, ← List.reverse_append, ← h, List.reverse_reverse]

theorem head?_trimStart (s : List Char) : ∀ c ∈ (trimStart s).head?, isBlank c = false := by
  intro c hc
  have h := List.head?_dropWhile_not isBlank s
  rw [show s.dropWhile isBlank = trimStart s from rfl, Option.mem_def.1 hc] at h
  exact h

theorem getLast?_trimEnd (s : List Char) : ∀ c ∈ (trimEnd s).getLast?, isBlank c = false := by
  rw [trimEnd_eq_reverse, List.getLast?_reverse]
  exact head?_trimStart s.reverse

/-! ### The whole -/

theorem trimChars_append {lead s trail : List Char} (hlead : IsBlanks lead) (hs : Trimmed s)
    (hne : s ≠ []) (htrail : IsBlanks trail) : trimChars (lead ++ s ++ trail) = s := by
  obtain ⟨c, s, rfl⟩ := List.exists_cons_of_ne_nil hne
  have hhead : ∀ d ∈ (c :: s ++ trail).head?, isBlank d = false := fun d hd => hs.1 d hd
  rw [trimChars, List.append_assoc, trimStart_append hlead hhead, trimEnd_append htrail hs.2]

theorem trimChars_of_trimmed {s : List Char} (hs : Trimmed s) : trimChars s = s := by
  cases s with
  | nil => rfl
  | cons c s =>
      simpa using trimChars_append isBlanks_nil hs (List.cons_ne_nil c s) isBlanks_nil

theorem trimChars_of_isBlanks {s : List Char} (hs : IsBlanks s) : trimChars s = [] := by
  have hstart : trimStart (s ++ []) = [] := trimStart_append hs (by simp)
  rw [List.append_nil] at hstart
  rw [trimChars, hstart]
  rfl

theorem exists_trimChars (s : List Char) :
    ∃ lead trail, IsBlanks lead ∧ IsBlanks trail ∧ s = lead ++ trimChars s ++ trail := by
  obtain ⟨lead, hlead, h1⟩ := exists_trimStart s
  obtain ⟨trail, htrail, h2⟩ := exists_trimEnd (trimStart s)
  refine ⟨lead, trail, hlead, htrail, ?_⟩
  rw [List.append_assoc, trimChars, ← h2, ← h1]

theorem trimmed_trimChars (s : List Char) : Trimmed (trimChars s) := by
  refine ⟨?_, getLast?_trimEnd _⟩
  -- cutting at the end leaves the first character where it is
  intro c hc
  obtain ⟨trail, _, h⟩ := exists_trimEnd (trimStart s)
  apply head?_trimStart s
  rw [h, Option.mem_def, List.head?_append]
  rw [trimChars] at hc
  rw [Option.mem_def.1 hc, Option.some_or]

/-- Blanks around what trimming left are cut off again. -/
theorem trimChars_append_trimChars {lead trail : List Char} (hlead : IsBlanks lead)
    (htrail : IsBlanks trail) (s : List Char) :
    trimChars (lead ++ trimChars s ++ trail) = trimChars s := by
  by_cases h : trimChars s = []
  · rw [h, List.append_nil]
    exact trimChars_of_isBlanks (isBlanks_append hlead htrail)
  · exact trimChars_append hlead (trimmed_trimChars s) h htrail

theorem trim_trim (s : String) : trim (trim s) = trim s := by
  rw [trim, toList_trim, trimChars_of_trimmed (trimmed_trimChars _), trim]

theorem trimmed_trim (s : String) : Trimmed (trim s).toList := by
  rw [toList_trim]
  exact trimmed_trimChars _

theorem trim_eq_self {s : String} (hs : Trimmed s.toList) : trim s = s := by
  rw [trim, trimChars_of_trimmed hs, String.ofList_toList]

/-- A trimmed text is what trimming finds in front of blanks. -/
theorem trim_append_blanks {s trail : String} (hs : Trimmed s.toList)
    (htrail : IsBlanks trail.toList) : trim (s ++ trail) = s := by
  have hchars := trimChars_append_trimChars isBlanks_nil htrail s.toList
  rw [trimChars_of_trimmed hs, List.nil_append] at hchars
  rw [trim, String.toList_append, hchars, String.ofList_toList]

/-- A text that begins with another character than a blank loses blanks only at the end. -/
theorem exists_trimChars_of_head {s : List Char} (hs : ∀ c ∈ s.head?, isBlank c = false) :
    ∃ trail, IsBlanks trail ∧ s = trimChars s ++ trail := by
  have h : trimStart s = s := trimStart_append isBlanks_nil hs
  rw [trimChars, h]
  exact exists_trimEnd s

end PromptPlan.Text
