import PromptPlan.Text.Word

/-!
# References in step parameters

A reference is a dollar sign and the longest run of word characters after it; a dollar sign
before anything else is itself. Values come from callers and models, so expansion never looks
into what it has put in.
-/

namespace PromptPlan

/-- Replaces every `$name` in a text by `value name`. -/
def expandChars (value : String → String) (s : List Char) : List Char :=
  match s with
  | [] => []
  | c :: rest =>
    have : (rest.dropWhile Text.isWord).length ≤ rest.length :=
      (List.dropWhile_suffix _).length_le
    if c = '$' ∧ (rest.takeWhile Text.isWord) ≠ [] then
      (value (String.ofList (rest.takeWhile Text.isWord))).toList ++
        expandChars value (rest.dropWhile Text.isWord)
    else c :: expandChars value rest
termination_by s.length
decreasing_by all_goals simp_all; try omega

@[simp] theorem expandChars_nil (value : String → String) : expandChars value [] = [] := by
  rw [expandChars]

/-- A character that opens no reference stays. -/
theorem expandChars_cons {value : String → String} {c : Char} {rest : List Char}
    (h : c ≠ '$' ∨ rest.takeWhile Text.isWord = []) :
    expandChars value (c :: rest) = c :: expandChars value rest := by
  rw [expandChars, if_neg]
  rintro ⟨hc, hrest⟩
  rcases h with h | h
  · exact h hc
  · exact hrest h

/-- A reference gives way to its value, and the rest is expanded on its own. -/
theorem expandChars_reference {value : String → String} {name rest : List Char}
    (hne : name ≠ []) (hname : ∀ c ∈ name, Text.isWord c = true)
    (hrest : rest.takeWhile Text.isWord = []) :
    expandChars value ('$' :: (name ++ rest)) =
      (value (String.ofList name)).toList ++ expandChars value rest := by
  have htake : (name ++ rest).takeWhile Text.isWord = name := by
    rw [List.takeWhile_append_of_pos hname, hrest, List.append_nil]
  have hdrop : (name ++ rest).dropWhile Text.isWord = rest := by
    have h := List.takeWhile_append_dropWhile (p := Text.isWord) (l := name ++ rest)
    rw [htake] at h
    exact List.append_cancel_left h
  rw [expandChars, htake, hdrop, if_pos ⟨rfl, hne⟩]

def expand (value : String → String) (s : String) : String :=
  String.ofList (expandChars value s.toList)

end PromptPlan
