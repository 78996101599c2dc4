import Mathlib.Data.List.Chain
import Mathlib.Data.List.TakeWhile
import PromptPlan.Plan.Basic

/-!
# Texts with references

Any text is a front and references, each with what stands behind it up to the next one
(`exists_passage`), and in only one way (`write_injective`): a name goes as far as there are word
characters, and no piece has a dollar sign with a word character directly behind it.

Expansion puts values in place of the references and leaves the pieces in between as they are
(`expand_write`). A value may look like another reference, alone or with what stands behind it, and
is put in all the same.
-/

namespace PromptPlan

/-- No dollar sign has a word character directly behind it. -/
def NoReference (s : List Char) : Prop :=
  s.IsChain fun c d => c = '$' → Text.isWord d = false

instance (s : List Char) : Decidable (NoReference s) :=
  inferInstanceAs (Decidable (List.IsChain _ s))

/-- No name goes on at the front of a text. -/
def EndsName (s : List Char) : Prop := ∀ c ∈ s.head?, Text.isWord c = false

/-- A reference and what stands behind it up to the next one. -/
@[ext] structure Referral where
  name : List Char
  behind : List Char
  ne_nil : name ≠ []
  isWord : ∀ c ∈ name, Text.isWord c = true
  endsName : EndsName behind
  noReference : NoReference behind

/-- A text that is taken apart at its references. -/
@[ext] structure Passage where
  front : List Char
  referrals : List Referral
  noReference : NoReference front

/-- The text of a reference, with what stands behind it. -/
def Referral.write (r : Referral) : List Char := '$' :: (r.name ++ r.behind)

/-- A value in place of the reference. -/
def Referral.filled (value : String → String) (r : Referral) : List Char :=
  (value (String.ofList r.name)).toList ++ r.behind

/-- The text of a passage. -/
def Passage.write (p : Passage) : String :=
  String.ofList (p.front ++ p.referrals.flatMap Referral.write)

/-- Values in place of all references. -/
def Passage.filled (value : String → String) (p : Passage) : String :=
  String.ofList (p.front ++ p.referrals.flatMap (Referral.filled value))

/-! ### Where names end -/

theorem endsName_nil : EndsName [] := by
  simp [EndsName]

theorem endsName_dollar (s : List Char) : EndsName ('$' :: s) := by
  have hdollar : Text.isWord '$' = false := by decide
  simpa [EndsName] using hdollar

theorem EndsName.append {s t : List Char} (hs : EndsName s) (ht : EndsName t) :
    EndsName (s ++ t) := by
  cases s with
  | nil => exact ht
  | cons c s => exact hs

theorem EndsName.of_append {s t : List Char} (h : EndsName (s ++ t)) : EndsName s := by
  cases s with
  | nil => exact endsName_nil
  | cons c s => exact h

theorem takeWhile_eq_nil_iff_endsName {s : List Char} :
    s.takeWhile Text.isWord = [] ↔ EndsName s := by
  cases s with
  | nil => simp [endsName_nil]
  | cons c s => cases hc : Text.isWord c <;> simp [EndsName, hc]

instance (s : List Char) : Decidable (EndsName s) :=
  decidable_of_iff _ takeWhile_eq_nil_iff_endsName

theorem endsName_dropWhile (s : List Char) : EndsName (s.dropWhile Text.isWord) := by
  intro c hc
  have hhead := List.head?_dropWhile_not Text.isWord s
  rwa [Option.mem_def.1 hc] at hhead

theorem endsName_referrals (referrals : List Referral) :
    EndsName (referrals.flatMap Referral.write) := by
  cases referrals with
  | nil => exact endsName_nil
  | cons r referrals => exact endsName_dollar _

/-! ### Expansion from left to right -/

section Expansion

variable {value : String → String}

/-- A piece without references stays, if what follows does not complete a dollar sign at its
end. -/
theorem expandChars_append {s rest : List Char} (hs : NoReference s) (hrest : EndsName rest) :
    expandChars value (s ++ rest) = s ++ expandChars value rest := by
  induction s with
  | nil => rfl
  | cons c s ih =>
      obtain ⟨hhead, htail⟩ := List.isChain_cons.1 hs
      have hc : c ≠ '$' ∨ (s ++ rest).takeWhile Text.isWord = [] := by
        by_cases hdollar : c = '$'
        · have hends : EndsName s := fun d hd => hhead d hd hdollar
          exact .inr (takeWhile_eq_nil_iff_endsName.2 (hends.append hrest))
        · exact .inl hdollar
      rw [List.cons_append, expandChars_cons hc, ih htail, List.cons_append]

theorem expandChars_referral (r : Referral) {rest : List Char} (hrest : EndsName rest) :
    expandChars value (r.write ++ rest) = r.filled value ++ expandChars value rest := by
  have hends := takeWhile_eq_nil_iff_endsName.2 (r.endsName.append hrest)
  rw [Referral.write, List.cons_append, List.append_assoc,
    expandChars_reference r.ne_nil r.isWord hends, expandChars_append r.noReference hrest,
    Referral.filled, List.append_assoc]

theorem expandChars_referrals (referrals : List Referral) :
    expandChars value (referrals.flatMap Referral.write) =
      referrals.flatMap (Referral.filled value) := by
  induction referrals with
  | nil => exact expandChars_nil value
  | cons r referrals ih =>
      rw [List.flatMap_cons, expandChars_referral r (endsName_referrals referrals), ih,
        List.flatMap_cons]

theorem expand_write (p : Passage) : expand value p.write = p.filled value := by
  rw [expand, Passage.write, String.toList_ofList,
    expandChars_append p.noReference (endsName_referrals p.referrals), expandChars_referrals,
    Passage.filled]

theorem expand_of_noReference {s : String} (hs : NoReference s.toList) : expand value s = s := by
  have hstay : expandChars value (s.toList ++ []) = s.toList ++ expandChars value [] :=
    expandChars_append hs endsName_nil
  rw [List.append_nil, expandChars_nil, List.append_nil] at hstay
  rw [expand, hstay, String.ofList_toList]

end Expansion

/-! ### Any text is a passage in one way -/

theorem exists_parts (s : List Char) :
    ∃ p : Passage, p.front ++ p.referrals.flatMap Referral.write = s := by
  induction s using expandChars.induct with
  | case1 => exact ⟨⟨[], [], by decide⟩, rfl⟩
  | case2 c rest hle href ih =>
      obtain ⟨rfl, hne⟩ := href
      obtain ⟨p, hp⟩ := ih
      have hends : EndsName p.front := .of_append (hp ▸ endsName_dropWhile rest)
      have hword : ∀ c ∈ rest.takeWhile Text.isWord, Text.isWord c = true := fun c hc =>
        List.mem_takeWhile_imp hc
      refine ⟨⟨[], ⟨_, p.front, hne, hword, hends, p.noReference⟩ :: p.referrals, by decide⟩, ?_⟩
      rw [List.nil_append, List.flatMap_cons, Referral.write, List.cons_append, List.append_assoc,
        hp, List.takeWhile_append_dropWhile]
  | case3 c rest hle href ih =>
      obtain ⟨p, hp⟩ := ih
      have hfront : NoReference (c :: p.front) := by
        refine List.isChain_cons.2 ⟨fun d hd hdollar => ?_, p.noReference⟩
        have hnone : rest.takeWhile Text.isWord = [] := by
          by_contra hne
          exact href ⟨hdollar, hne⟩
        rw [takeWhile_eq_nil_iff_endsName, ← hp] at hnone
        exact hnone.of_append d hd
      exact ⟨⟨c :: p.front, p.referrals, hfront⟩, by rw [List.cons_append, hp]⟩

theorem exists_passage (s : String) : ∃ p : Passage, p.write = s := by
  obtain ⟨p, hp⟩ := exists_parts s.toList
  exact ⟨p, by rw [Passage.write, hp, String.ofList_toList]⟩

/-- No reference begins within a piece that has none, whatever ends the piece. -/
theorem not_append_reference {s rest : List Char} {c : Char} {r : Referral} {t : List Char}
    (hs : NoReference (c :: s)) (hrest : EndsName rest) : c :: (s ++ rest) ≠ r.write ++ t := by
  intro heq
  rw [Referral.write, List.cons_append, List.cons.injEq] at heq
  obtain ⟨rfl, heq⟩ := heq
  have hends : EndsName (s ++ rest) := by
    refine EndsName.append (fun d hd => ?_) hrest
    exact (List.isChain_cons.1 hs).1 d hd rfl
  obtain ⟨d, name, hname⟩ := List.exists_cons_of_ne_nil r.ne_nil
  have hword := r.isWord d (hname ▸ List.mem_cons_self)
  have hplain := hends d (by rw [heq, hname]; rfl)
  rw [hword] at hplain
  cases hplain

/-- What stands in front of the first reference is no matter of choice. -/
theorem append_referrals_inj {s s' : List Char} {referrals referrals' : List Referral}
    (hs : NoReference s) (hs' : NoReference s')
    (heq : s ++ referrals.flatMap Referral.write = s' ++ referrals'.flatMap Referral.write) :
    s = s' ∧ referrals.flatMap Referral.write = referrals'.flatMap Referral.write := by
  induction s generalizing s' with
  | nil =>
      cases s' with
      | nil => exact ⟨rfl, heq⟩
      | cons c s' =>
          cases referrals with
          | nil => cases heq
          | cons r referrals =>
              exact absurd heq.symm (not_append_reference hs' (endsName_referrals referrals'))
  | cons c s ih =>
      cases s' with
      | nil =>
          cases referrals' with
          | nil => cases heq
          | cons r referrals' =>
              exact absurd heq (not_append_reference hs (endsName_referrals referrals))
      | cons c' s' =>
          rw [List.cons_append, List.cons_append, List.cons.injEq] at heq
          obtain ⟨rfl, heq⟩ := heq
          obtain ⟨rfl, hrest⟩ := ih hs.tail hs'.tail heq
          exact ⟨rfl, hrest⟩

theorem takeWhile_name (r : Referral) {rest : List Char} (hrest : EndsName rest) :
    (r.name ++ (r.behind ++ rest)).takeWhile Text.isWord = r.name := by
  rw [List.takeWhile_append_of_pos r.isWord,
    takeWhile_eq_nil_iff_endsName.2 (r.endsName.append hrest), List.append_nil]

theorem referrals_inj {referrals referrals' : List Referral}
    (heq : referrals.flatMap Referral.write = referrals'.flatMap Referral.write) :
    referrals = referrals' := by
  induction referrals generalizing referrals' with
  | nil =>
      cases referrals' with
      | nil => rfl
      | cons r referrals' => cases heq
  | cons r referrals ih =>
      cases referrals' with
      | nil => cases heq
      | cons r' referrals' =>
          simp only [List.flatMap_cons, Referral.write, List.cons_append, List.append_assoc,
            List.cons.injEq, true_and] at heq
          have hname : r.name = r'.name := by
            rw [← takeWhile_name r (endsName_referrals referrals), heq,
              takeWhile_name r' (endsName_referrals referrals')]
          rw [hname] at heq
          obtain ⟨hbehind, hrest⟩ := append_referrals_inj r.noReference r'.noReference
            (List.append_cancel_left heq)
          rw [Referral.ext hname hbehind, ih hrest]

theorem write_injective : Function.Injective Passage.write := by
  intro p q heq
  rw [Passage.write, Passage.write, String.ofList_inj] at heq
  obtain ⟨hfront, hreferrals⟩ := append_referrals_inj p.noReference q.noReference heq
  exact Passage.ext hfront (referrals_inj hreferrals)

namespace PlanHead

/-- **References.** A text can be taken apart at its references in exactly one way. Each reference
gives way to the value that the caller has under its name, or else to the one of the state, or else
to nothing; empty values do not count. The pieces in between stay, and the values are put in as
they are. So a text without references stays as a whole. -/
theorem expand_passage (h : PlanHead) (caller : Variables) :
    (∀ s : String, ∃! p : Passage, p.write = s) ∧
      (∀ p : Passage, h.expand caller p.write = p.filled fun name =>
        ((caller.filled? name).or (h.state.filled? name)).getD "") ∧
      ∀ s : String, NoReference s.toList → h.expand caller s = s := by
  refine ⟨fun s => ?_, expand_write, fun s hs => expand_of_noReference hs⟩
  obtain ⟨p, hp⟩ := exists_passage s
  exact ⟨p, hp, fun q hq => write_injective (hq.trans hp.symm)⟩

/-- `$sign$name $ref $$name $é.`, taken apart. -/
def lookalikes : Passage where
  front := []
  referrals :=
    [⟨['s', 'i', 'g', 'n'], [], by decide, List.all_eq_true.1 rfl, by decide, by decide⟩,
      ⟨['n', 'a', 'm', 'e'], [' '], by decide, List.all_eq_true.1 rfl, by decide, by decide⟩,
      ⟨['r', 'e', 'f'], [' ', '$'], by decide, List.all_eq_true.1 rfl, by decide, by decide⟩,
      ⟨['n', 'a', 'm', 'e'], [' '], by decide, List.all_eq_true.1 rfl, by decide, by decide⟩,
      ⟨['\u00E9'], ['.'], by decide, List.all_eq_true.1 rfl, by decide, by decide⟩]
  noReference := by decide

/-- Values that look like references, or come to look like one with what stands behind them. -/
theorem expand_passage_lookalikes :
    let caller : Variables := .ofPairs [("sign", "$"), ("ref", "$name"), ("name", "")]
    let h : PlanHead := ⟨"", "", "", .ofPairs [("name", "input")], .empty, [], none⟩
    h.expand caller "$sign$name $ref $$name $\u00E9." = "$input $name $input ." ∧
      NoReference "100 $, $$".toList ∧ h.expand caller "100 $, $$" = "100 $, $$" := by
  intro caller h
  have hwrite : "$sign$name $ref $$name $\u00E9." = lookalikes.write := by decide +kernel
  have hplain : NoReference "100 $, $$".toList := by decide +kernel
  obtain ⟨-, hexpand, hstay⟩ := expand_passage h caller
  refine ⟨?_, hplain, hstay _ hplain⟩
  rw [hwrite, hexpand lookalikes]
  decide +kernel

end PlanHead

end PromptPlan
