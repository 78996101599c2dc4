import PromptPlan.Text.Word.Table

/-!
# Word characters and identifiers

A template names variables and functions with ASCII identifiers only. A plan parameter refers to
a variable by a run of word characters in the sense of Unicode: letters, marks, decimal digits,
connector punctuation and the two joiners.
-/

namespace PromptPlan.Text

/-- The ASCII letters, digits and the underscore: what a template identifier is made of. -/
def isIdentifier (c : Char) : Bool :=
  ('a' ≤ c && c ≤ 'z') || ('A' ≤ c && c ≤ 'Z') || ('0' ≤ c && c ≤ '9') || c == '_'

/-- Word characters: below 128 these are the identifier characters. -/
def isWord (c : Char) : Bool :=
  if c.val < 128 then isIdentifier c
  else Word.ranges.any fun (low, high) => low ≤ c.toNat && c.toNat ≤ high

end PromptPlan.Text
