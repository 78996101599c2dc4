import Mathlib.Data.List.Basic
import PromptPlan.Text.Case

/-!
# Lower case among the ASCII letters

Names are compared in two ways: by their lower-case forms, and up to the case of ASCII letters
only. On texts of ASCII characters the two forms are the same text, since the characters around
a letter matter to nothing but the sigma. What else could bring the two apart is a character
beyond ASCII with a lower-case form within it, and of these there is one, the Kelvin sign. So a
name that is spelled in ASCII and without the letter `k` has the same namesakes in both ways.

Among all texts the second way is the finer one. What it takes for the same has the same
lower-case form, because a capital and its small letter are alike to the sigmas around them as
well; and what has the same lower-case form it takes for the same if the characters beyond ASCII
are the same, place by place (`sameAscii_iff_lower`).
-/

namespace PromptPlan.Text

/-- A text of ASCII characters. -/
def IsAscii (s : List Char) : Prop :=
  ∀ c ∈ s, c.toNat < 128

theorem isAscii_of_all {s : List Char} (h : (s.all fun c => decide (c.toNat < 128)) = true) :
    IsAscii s :=
  fun c hc => of_decide_eq_true (List.all_eq_true.1 h c hc)

/-! ### Characters -/

theorem toNat_ofNat {n : Nat} (h : n.isValidChar) : (Char.ofNat n).toNat = n := by
  rw [Char.ofNat, dif_pos h]
  rfl

/-- A capital becomes the letter 32 places on, and every other character stays. -/
theorem lowerAscii_cases (c : Char) :
    lowerAscii c = c ∨ 65 ≤ c.toNat ∧ c.toNat ≤ 90 ∧ (lowerAscii c).toNat = c.toNat + 32 := by
  unfold lowerAscii
  split
  case isTrue h =>
    simp only [Bool.and_eq_true, decide_eq_true_eq, Char.le_def, UInt32.le_iff_toNat_le] at h
    have hlow : 65 ≤ c.toNat := h.1
    have hhigh : c.toNat ≤ 90 := h.2
    exact .inr ⟨hlow, hhigh, toNat_ofNat (.inl (by omega))⟩
  case isFalse => exact .inl rfl

/-- The lower-case form of an ASCII character is one. -/
theorem toNat_lowerAscii_lt_iff (c : Char) : (lowerAscii c).toNat < 128 ↔ c.toNat < 128 := by
  rcases lowerAscii_cases c with h | ⟨hlow, hhigh, hlower⟩
  · rw [h]
  · omega

theorem ne_sigma_of_ascii {c : Char} (h : c.toNat < 128) : c ≠ '\u03A3' := by
  rintro rfl
  exact absurd h (by decide)

theorem lowerChar_of_ascii {c : Char} (h : c.toNat < 128) : lowerChar c = [lowerAscii c] := by
  have hval : c.val < 128 := UInt32.lt_iff_toNat_lt.2 h
  rw [lowerChar, if_pos hval]

/-- The runs of the table stay beyond ASCII, except for the one of the Kelvin sign. -/
theorem lowerRuns_images : ∀ run ∈ Case.lowerRuns,
    run.1 = 0x212A ∧ run.2.1 = 0x212A ∨
      128 ≤ run.2.2.2 ∧ (run.2.2.2 + (run.2.1 - run.1) < 0xD800 ∨
        0xDFFF < run.2.2.2 ∧ run.2.2.2 + (run.2.1 - run.1) < 0x110000) := by
  decide +kernel

theorem exists_mem_lowerChar {c : Char} (hc : 128 ≤ c.toNat) (hkelvin : c.toNat ≠ 0x212A) :
    ∃ d ∈ lowerChar c, 128 ≤ d.toNat := by
  have hval : ¬c.val < 128 := fun h => Nat.not_lt.2 hc (UInt32.lt_iff_toNat_lt.1 h)
  rw [lowerChar, if_neg hval]
  split
  · exact ⟨'\u0307', by simp, by decide⟩
  · dsimp only
    split
    · rename_i first last step image hfind
      have hrange := List.find?_some hfind
      simp only [Bool.and_eq_true, decide_eq_true_eq] at hrange
      obtain ⟨⟨hfirst, hlast⟩, _⟩ := hrange
      refine ⟨_, List.mem_singleton_self _, ?_⟩
      have hrun := lowerRuns_images _ (List.mem_of_find?_eq_some hfind)
      rcases hrun with ⟨hone, hone'⟩ | ⟨himage, hvalid⟩
      · dsimp only at hone hone'
        omega
      · dsimp only at himage hvalid
        have hchar : (image + (c.toNat - first)).isValidChar := by
          rcases hvalid with hvalid | hvalid
          · exact .inl (by omega)
          · exact .inr ⟨by omega, by omega⟩
        rw [toNat_ofNat hchar]
        omega
    · exact ⟨c, by simp, hc⟩

/-! ### Texts -/

theorem lowerAfter_of_isAscii {s : List Char} (h : IsAscii s) (before : List Char) :
    lowerAfter before s = s.map lowerAscii := by
  induction s generalizing before with
  | nil => rfl
  | cons c s ih =>
      obtain ⟨hc, hs⟩ := List.forall_mem_cons.1 h
      have hsigma : c ≠ '\u03A3' := by
        rintro rfl
        exact absurd hc (by decide)
      rw [lowerAfter, if_neg hsigma, lowerChar_of_ascii hc, ih hs]
      rfl

/-- A text whose lower-case form is ASCII, and has no `k` that a Kelvin sign could have become. -/
theorem isAscii_of_lowerAfter {s before : List Char}
    (h : ∀ d ∈ lowerAfter before s, d.toNat < 128 ∧ d ≠ 'k') : IsAscii s := by
  induction s generalizing before with
  | nil => simp [IsAscii]
  | cons c s ih =>
      rw [lowerAfter, List.forall_mem_append] at h
      refine List.forall_mem_cons.2 ⟨?_, ih h.2⟩
      by_contra hc
      by_cases hsigma : c = '\u03A3'
      · rw [if_pos hsigma] at h
        have hfinal := (h.1 _ (List.mem_singleton_self _)).1
        split at hfinal <;> exact absurd hfinal (by decide)
      · rw [if_neg hsigma] at h
        by_cases hkelvin : c.toNat = 0x212A
        · obtain rfl : c = '\u212A' := Char.toNat_inj.1 hkelvin
          exact (h.1 'k' (by decide +kernel)).2 rfl
        · obtain ⟨d, hd, hlarge⟩ := exists_mem_lowerChar (Nat.not_lt.1 hc) hkelvin
          exact Nat.not_lt.2 hlarge (h.1 d hd).1

theorem lower_of_isAscii {s : String} (h : IsAscii s.toList) : lower s = asciiLower s := by
  rw [lower, lowerAfter_of_isAscii h, asciiLower]

theorem toList_lower (s : String) : (lower s).toList = lowerAfter [] s.toList :=
  String.toList_ofList

theorem isAscii_asciiLower_iff (s : String) :
    IsAscii (asciiLower s).toList ↔ IsAscii s.toList := by
  simp [IsAscii, asciiLower, toNat_lowerAscii_lt_iff]

/-- A name in ASCII letters without `k` has the same namesakes in both ways to compare names. -/
theorem lower_eq_iff_sameAscii {s name : String} (hname : IsAscii name.toList)
    (hk : 'k' ∉ (asciiLower name).toList) : lower s = lower name ↔ sameAscii s name = true := by
  rw [sameAscii_iff]
  constructor
  · intro h
    have hlower : ∀ d ∈ lowerAfter [] s.toList, d.toNat < 128 ∧ d ≠ 'k' := by
      rw [← toList_lower, h, lower_of_isAscii hname]
      exact fun d hd => ⟨(isAscii_asciiLower_iff name).2 hname d hd, fun hdk => hk (hdk ▸ hd)⟩
    have hs : IsAscii s.toList := isAscii_of_lowerAfter hlower
    rw [← lower_of_isAscii hs, h, lower_of_isAscii hname]
  · intro h
    have hs : IsAscii s.toList := by
      rw [← isAscii_asciiLower_iff, h, isAscii_asciiLower_iff]
      exact hname
    rw [lower_of_isAscii hs, h, lower_of_isAscii hname]

/-! ### Texts that differ in ASCII case -/

theorem lowerAscii_lowerAscii (c : Char) : lowerAscii (lowerAscii c) = lowerAscii c := by
  rcases lowerAscii_cases (lowerAscii c) with h | ⟨hlow, hhigh, -⟩
  · exact h
  · rcases lowerAscii_cases c with h | ⟨hlow', hhigh', hlower⟩
    · rw [h, h]
    · omega

/-- The code points of the ASCII letters. -/
def IsLetterCode (n : Nat) : Prop := 65 ≤ n ∧ n ≤ 90 ∨ 97 ≤ n ∧ n ≤ 122

theorem inRanges_cased {n : Nat} (h : IsLetterCode n) : inRanges Case.casedRanges n = true := by
  have hcapitals : (65, 90) ∈ Case.casedRanges := by decide +kernel
  have hsmall : (97, 122) ∈ Case.casedRanges := by decide +kernel
  rw [inRanges, List.any_eq_true]
  rcases h with h | h
  · exact ⟨_, hcapitals, by simpa using h⟩
  · exact ⟨_, hsmall, by simpa using h⟩

theorem inRanges_ignorable {n : Nat} (h : IsLetterCode n) :
    inRanges Case.ignorableRanges n = false := by
  have hbeside : ∀ range ∈ Case.ignorableRanges,
      range.2 < 65 ∨ 90 < range.1 ∧ range.2 < 97 ∨ 122 < range.1 := by decide +kernel
  rw [inRanges, List.any_eq_false]
  rintro ⟨low, high⟩ hmem
  have hbeside := hbeside _ hmem
  rw [IsLetterCode] at h
  simp only [Bool.and_eq_true, decide_eq_true_eq]
  omega

/-- A capital and its lower-case form are alike to what the mapping looks at. -/
theorem alike_lowerAscii (c : Char) :
    lowerChar (lowerAscii c) = lowerChar c ∧ isCased (lowerAscii c) = isCased c ∧
      isCaseIgnorable (lowerAscii c) = isCaseIgnorable c ∧
      (lowerAscii c = '\u03A3' ↔ c = '\u03A3') := by
  rcases lowerAscii_cases c with h | ⟨hlow, hhigh, hlower⟩
  · simp [h]
  · have hcapital : IsLetterCode c.toNat := .inl ⟨hlow, hhigh⟩
    have hsmall : IsLetterCode (lowerAscii c).toNat := .inr (by omega)
    refine ⟨?_, ?_, ?_, ?_⟩
    · rw [lowerChar_of_ascii (by omega), lowerChar_of_ascii (by omega), lowerAscii_lowerAscii]
    · rw [isCased, isCased, inRanges_cased hcapital, inRanges_cased hsmall]
    · rw [isCaseIgnorable, isCaseIgnorable, inRanges_ignorable hcapital, inRanges_ignorable hsmall]
    · exact iff_of_false (ne_sigma_of_ascii (by omega)) (ne_sigma_of_ascii (by omega))

theorem meetsCased_map_lowerAscii (s : List Char) :
    meetsCased (s.map lowerAscii) = meetsCased s := by
  have hignorable : isCaseIgnorable ∘ lowerAscii = isCaseIgnorable :=
    funext fun c => (alike_lowerAscii c).2.2.1
  rw [meetsCased, List.dropWhile_map, hignorable, meetsCased]
  cases s.dropWhile isCaseIgnorable with
  | nil => rfl
  | cons c rest => exact (alike_lowerAscii c).2.1

theorem lowerAfter_map_lowerAscii (before s : List Char) :
    lowerAfter (before.map lowerAscii) (s.map lowerAscii) = lowerAfter before s := by
  induction s generalizing before with
  | nil => rfl
  | cons c s ih =>
      obtain ⟨himage, -, -, hsigma⟩ := alike_lowerAscii c
      rw [List.map_cons, lowerAfter, lowerAfter, ← List.map_cons, ih, himage,
        meetsCased_map_lowerAscii, meetsCased_map_lowerAscii]
      simp only [hsigma]

theorem lower_asciiLower (s : String) : lower (asciiLower s) = lower s := by
  rw [lower, asciiLower, String.toList_ofList, lower, ← lowerAfter_map_lowerAscii [] s.toList,
    List.map_nil]

theorem lower_eq_of_sameAscii {a b : String} (h : sameAscii a b = true) : lower a = lower b := by
  rw [← lower_asciiLower a, sameAscii_iff.1 h, lower_asciiLower]

/-! ### Characters beyond ASCII -/

/-- A character, unless it is one of ASCII. -/
def beyondAscii? (c : Char) : Option Char :=
  if c.toNat < 128 then none else some c

/-- What a text has beyond ASCII, place by place. -/
def beyondAscii (s : String) : List (Option Char) :=
  s.toList.map beyondAscii?

theorem beyondAscii?_lowerAscii (c : Char) : beyondAscii? (lowerAscii c) = beyondAscii? c := by
  rcases lowerAscii_cases c with h | ⟨hlow, hhigh, hlower⟩
  · rw [h]
  · rw [beyondAscii?, if_pos (by omega), beyondAscii?, if_pos (by omega)]

theorem beyondAscii_asciiLower (s : String) : beyondAscii (asciiLower s) = beyondAscii s := by
  rw [beyondAscii, asciiLower, String.toList_ofList, List.map_map, beyondAscii]
  exact List.map_congr_left fun c _ => beyondAscii?_lowerAscii c

theorem eq_or_ascii_of_beyondAscii? {c d : Char} (h : beyondAscii? c = beyondAscii? d) :
    c = d ∨ c.toNat < 128 ∧ d.toNat < 128 := by
  rw [beyondAscii?, beyondAscii?] at h
  split at h
  · rename_i hc
    split at h
    · rename_i hd
      exact .inr ⟨hc, hd⟩
    · cases h
  · split at h
    · cases h
    · exact .inl (Option.some.inj h)

/-- Where two texts have the same characters beyond ASCII, their lower-case forms can be compared
character by character. -/
theorem map_lowerAscii_eq_of_lowerAfter {s t before before' : List Char}
    (hlower : lowerAfter before s = lowerAfter before' t)
    (hbeyond : s.map beyondAscii? = t.map beyondAscii?) : s.map lowerAscii = t.map lowerAscii := by
  induction s generalizing t before before' with
  | nil =>
      rw [List.map_nil, eq_comm, List.map_eq_nil_iff] at hbeyond
      rw [hbeyond]
  | cons c s ih =>
      cases t with
      | nil => cases hbeyond
      | cons d t =>
          rw [List.map_cons, List.map_cons, List.cons.injEq] at hbeyond
          rw [List.map_cons, List.map_cons]
          rw [lowerAfter, lowerAfter] at hlower
          rcases eq_or_ascii_of_beyondAscii? hbeyond.1 with rfl | ⟨hc, hd⟩
          · by_cases hsigma : c = '\u03A3'
            · -- the two images of a sigma may differ, but both are one character
              rw [if_pos hsigma, if_pos hsigma] at hlower
              rw [ih (List.cons.inj hlower).2 hbeyond.2]
            · rw [if_neg hsigma, if_neg hsigma] at hlower
              rw [ih (List.append_cancel_left hlower) hbeyond.2]
          · rw [if_neg (ne_sigma_of_ascii hc), if_neg (ne_sigma_of_ascii hd),
              lowerChar_of_ascii hc, lowerChar_of_ascii hd] at hlower
            obtain ⟨hhead, htail⟩ := List.cons.inj hlower
            rw [hhead, ih htail hbeyond.2]

/-- Names that are equal up to ASCII case are those with equal lower-case forms that have the same
characters beyond ASCII. -/
theorem sameAscii_iff_lower {a b : String} :
    sameAscii a b = true ↔ lower a = lower b ∧ beyondAscii a = beyondAscii b := by
  constructor
  · intro h
    refine ⟨lower_eq_of_sameAscii h, ?_⟩
    rw [← beyondAscii_asciiLower a, sameAscii_iff.1 h, beyondAscii_asciiLower]
  · rintro ⟨hlower, hbeyond⟩
    rw [lower, lower, String.ofList_inj] at hlower
    rw [sameAscii_iff, asciiLower, asciiLower, map_lowerAscii_eq_of_lowerAfter hlower hbeyond]

end PromptPlan.Text
