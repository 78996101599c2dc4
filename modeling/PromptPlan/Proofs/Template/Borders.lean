import Mathlib.Data.List.Chain
import PromptPlan.Proofs.Template.Written

/-!
# Where a template is cut

Reading a template neither loses nor repeats anything: the blocks stand for consecutive pieces
of it, a text block for itself and a code block for a span in its braces. The cuts are where
they have to be. A text goes on up to the next opening of a span, so two texts never meet, and
a text in front of a span holds no opening, not even half of one at its end. Only the last
text may hold one, which is then never closed.
-/

namespace PromptPlan.Template

/-! ### Pairs

Openings and closings are pairs of one character. A text that is cut off in front of the first
pair has no pair in it, and does not end in the character either, because that would make a
pair with the first half of the other. -/

/-- No pair of `c` in a text, and none that would be complete with one more `c`. -/
def Unpaired (c : Char) (s : List Char) : Prop :=
  ¬[c, c] <:+: s ∧ s.getLast? ≠ some c

theorem unpaired_nil (c : Char) : Unpaired c [] :=
  ⟨by simp, by simp⟩

theorem unpaired_cons {c d : Char} {s : List Char} :
    Unpaired c (d :: s) ↔ (d = c → s ≠ [] ∧ s.head? ≠ some c) ∧ Unpaired c s := by
  cases s with
  | nil => simp [Unpaired, List.infix_cons_iff]
  | cons e s =>
      have hpair : [c, c] <+: d :: e :: s ↔ c = d ∧ c = e := by simp
      simp only [Unpaired, List.infix_cons_iff (a := d), hpair, List.getLast?_cons_cons,
        List.head?_cons]
      grind

/-- What stands in front of the first pair. -/
theorem unpaired_cons_of_append {c d : Char} {s rest after : List Char}
    (hpair : ∀ t, d = c → rest = c :: t → False) (hrest : rest = s ++ c :: c :: after)
    (hs : Unpaired c s) : Unpaired c (d :: s) := by
  refine unpaired_cons.2 ⟨fun hd => ?_, hs⟩
  cases s with
  | nil => exact (hpair _ hd hrest).elim
  | cons e s =>
      refine ⟨List.cons_ne_nil e s, fun he => ?_⟩
      rw [List.head?_cons, Option.some.injEq] at he
      rw [List.cons_append, he] at hrest
      exact hpair _ hd hrest

theorem unpaired_of_cutOpen {s text after : List Char} (h : cutOpen s = (text, some after)) :
    Unpaired '{' text := by
  fun_induction cutOpen s generalizing text with
  | case1 rest =>
      obtain ⟨rfl, _⟩ : [] = text ∧ rest = after := by simpa using h
      exact unpaired_nil '{'
  | case2 c rest hpair text' after' hcut ih =>
      obtain ⟨rfl, rfl⟩ : c :: text' = text ∧ after' = some after := by simpa using h
      exact unpaired_cons_of_append hpair (append_of_cutOpen hcut) (ih hcut)
  | case3 => cases h

theorem unpaired_of_cutClose {s body after : List Char} (h : cutClose s = some (body, after)) :
    Unpaired '}' body := by
  fun_induction cutClose s generalizing body with
  | case1 rest =>
      obtain ⟨rfl, _⟩ : [] = body ∧ rest = after := by simpa using h
      exact unpaired_nil '}'
  | case2 c rest hpair ih =>
      simp only [Option.map_eq_some_iff, Prod.exists, Prod.mk.injEq] at h
      obtain ⟨body', after', hcut, rfl, rfl⟩ := h
      exact unpaired_cons_of_append hpair (append_of_cutClose hcut) (ih hcut)
  | case3 => cases h

theorem cutClose_append {body : List Char} (h : Unpaired '}' body) (after : List Char) :
    cutClose (body ++ '}' :: '}' :: after) = some (body, after) := by
  induction body with
  | nil => rw [List.nil_append, cutClose]
  | cons c body ih =>
      obtain ⟨hc, hbody⟩ := unpaired_cons.1 h
      rw [List.cons_append, cutClose, ih hbody]
      · rfl
      · rintro rest rfl hrest
        obtain ⟨hne, hhead⟩ := hc rfl
        obtain ⟨d, body, rfl⟩ := List.exists_cons_of_ne_nil hne
        rw [List.cons_append, List.cons.injEq] at hrest
        exact hhead (by rw [hrest.1, List.head?_cons])

/-! ### Borders -/

/-- What may follow a segment. -/
def Segment.MayPrecede : Segment → Segment → Prop
  | .text _, .text _ => False
  | .text s, .span _ => Unpaired '{' s
  | .span _, _ => True

theorem isChain_textSegment (s : List Char) : (textSegment s).IsChain Segment.MayPrecede := by
  cases s <;> simp [textSegment]

theorem isChain_segments (s : List Char) : (segments s).IsChain Segment.MayPrecede := by
  fun_induction segments s with
  | case1 => exact isChain_textSegment _
  | case2 => exact isChain_textSegment _
  | case3 s text inside hcut raw after _ _ ih =>
      have hspan : (Segment.span raw :: segments after).IsChain Segment.MayPrecede :=
        List.isChain_cons.2 ⟨fun _ _ => trivial, ih⟩
      cases text with
      | nil => exact hspan
      | cons c text => exact hspan.cons_cons (unpaired_of_cutOpen hcut)

theorem text_mem_textSegment {s text : List Char} :
    Segment.text text ∈ textSegment s ↔ text = s ∧ s ≠ [] := by
  cases s <;> simp [textSegment]

/-- What is cut off as a text: something, and with no opening that braces would close. -/
theorem text_of_mem_segments {s text : List Char} (h : Segment.text text ∈ segments s) :
    text ≠ [] ∧
      ∀ before inside, cutOpen text = (before, some inside) → spanBody inside = none := by
  fun_induction segments s with
  | case1 s _ huncut =>
      obtain ⟨rfl, hne⟩ := text_mem_textSegment.1 h
      refine ⟨hne, fun before inside hcut => ?_⟩
      rw [huncut] at hcut
      cases hcut
  | case2 s _ inside' hcut' hbody =>
      obtain ⟨rfl, hne⟩ := text_mem_textSegment.1 h
      refine ⟨hne, fun before inside hcut => ?_⟩
      obtain rfl : inside' = inside := by simpa [hcut'] using congrArg Prod.snd hcut
      exact hbody
  | case3 s text' _ hcut' raw after _ _ ih =>
      rw [List.mem_append, List.mem_cons] at h
      rcases h with h | h | h
      · obtain ⟨rfl, hne⟩ := text_mem_textSegment.1 h
        refine ⟨hne, fun before inside hcut => ?_⟩
        rw [cutOpen_of_unopened (unpaired_of_cutOpen hcut').1] at hcut
        cases hcut
      · cases h
      · exact ih h

/-! ### The whole -/

/-- How a block stands in a template: a text as it is, and a code block as the span from whose
inside it was read. -/
inductive Written : Block → String → Prop
  | text (s : String) : Written (.text s) s
  | span (raw : String) : Written (codeBlock raw.toList) ("\x7b\x7b" ++ raw ++ "\x7d\x7d")

theorem Segment.written (segment : Segment) :
    Written segment.block (String.ofList segment.write) := by
  cases segment with
  | text s => exact .text (String.ofList s)
  | span raw =>
      have h := Written.span (String.ofList raw)
      rw [String.toList_ofList] at h
      have htext : "\x7b\x7b" ++ String.ofList raw ++ "\x7d\x7d" =
          String.ofList (Segment.span raw).write := by
        simp [← String.toList_inj, Segment.write]
      rwa [htext] at h

theorem Written.kind {block : Block} {s : String} (h : Written block s) :
    block.kind = .text ∨ block.kind = .code := by
  cases h with
  | text s => exact .inl rfl
  | span raw => exact .inr (by rw [codeBlock_eq]; rfl)

theorem Segment.eq_text_of_block {segment : Segment} {s : String}
    (h : segment.block = .text s) : segment = .text s.toList := by
  cases segment with
  | text t =>
      obtain rfl : String.ofList t = s := by simpa [Segment.block] using h
      rw [String.toList_ofList]
  | span raw =>
      rw [Segment.block, codeBlock_eq] at h
      cases h

theorem forall₂_written (segments : List Segment) :
    List.Forall₂ Written (segments.map Segment.block)
      (segments.map fun segment => String.ofList segment.write) := by
  rw [List.forall₂_map_left_iff, List.forall₂_map_right_iff, List.forall₂_same]
  exact fun segment _ => segment.written

theorem join_written (segments : List Segment) :
    String.join (segments.map fun segment => String.ofList segment.write) =
      String.ofList (segments.flatMap Segment.write) := by
  rw [← String.toList_inj, String.toList_join, String.toList_ofList, List.flatMap_map]
  simp

/-- A text block comes from a text, and what stands around it from the segments around that. -/
theorem exists_of_read_eq {template s : String} {before after : List Block}
    (h : read template = before ++ .text s :: after) :
    ∃ front back, segments template.toList = front ++ .text s.toList :: back ∧
      after = back.map Segment.block := by
  obtain ⟨front, tail, hsplit, _, htail⟩ := List.map_eq_append_iff.1 h
  obtain ⟨segment, back, rfl, hblock, hafter⟩ := List.map_eq_cons_iff.1 htail
  rw [Segment.eq_text_of_block hblock] at hsplit
  exact ⟨front, back, hsplit, hafter.symm⟩

/-- The border behind a text, read off the blocks. -/
theorem border_of_isChain {front back : List Segment} {s : List Char}
    (h : (front ++ .text s :: back).IsChain Segment.MayPrecede) :
    (∀ t, (back.map Segment.block).head? ≠ some (.text t)) ∧
      (back.map Segment.block ≠ [] → Unpaired '{' s) := by
  cases back with
  | nil => exact ⟨by simp, fun h => absurd rfl h⟩
  | cons next back =>
      have hnext : Segment.MayPrecede (.text s) next := (List.isChain_append_cons_cons.1 h).2.1
      cases next with
      | text t => exact hnext.elim
      | span raw =>
          refine ⟨fun t => ?_, fun _ => hnext⟩
          rw [List.map_cons, List.head?_cons, Segment.block, codeBlock_eq]
          exact fun h => by cases h

/-- **Cutting.** The blocks of a template are written as pieces that make up the template,
each text as it is and each code block as a span from whose inside it was read. A text block is
not empty and no text follows it; unless it is the last block, it holds no opening braces and
does not end in one; and if it holds opening braces, then no braces close them. -/
theorem exists_written (template : String) :
    (∃ pieces : List String, List.Forall₂ Written (read template) pieces ∧
        String.join pieces = template) ∧
      (∀ block ∈ read template, block.kind = .text ∨ block.kind = .code) ∧
      ∀ before s after, read template = before ++ .text s :: after →
        s ≠ "" ∧ (∀ t, after.head? ≠ some (.text t)) ∧
          (after ≠ [] → ¬['{', '{'] <:+: s.toList ∧ s.toList.getLast? ≠ some '{') ∧
          ∀ text inside, cutOpen s.toList = (text, some inside) → spanBody inside = none := by
  refine ⟨⟨_, forall₂_written _, ?_⟩, ?_, ?_⟩
  · rw [join_written, flatMap_write_segments, String.ofList_toList]
  · intro block hblock
    obtain ⟨segment, _, rfl⟩ := List.mem_map.1 hblock
    exact segment.written.kind
  · intro before s after hread
    obtain ⟨front, back, hsegments, rfl⟩ := exists_of_read_eq hread
    have hmem : Segment.text s.toList ∈ segments template.toList := by simp [hsegments]
    have hchain := isChain_segments template.toList
    rw [hsegments] at hchain
    obtain ⟨hnext, hunpaired⟩ := border_of_isChain hchain
    obtain ⟨hne, hopen⟩ := text_of_mem_segments hmem
    exact ⟨fun hs => hne (by simp [hs]), hnext, hunpaired, hopen⟩

end PromptPlan.Template
