import PromptPlan.Text.Case
import PromptPlan.Text.Quoted.Table

/-!
# Quoted text

Listings for inspection show every text between double quotes. Quotes, backslashes and
the common controls get a short escape, any other character that would not be visible on
its own is written as its code point in braces, and the rest stands for itself.
-/

namespace PromptPlan.Text

def isEscaped (c : Char) : Bool :=
  c.val < 32 || c.val == 127 || (128 ≤ c.val && inRanges Quoted.escapedRanges c.toNat)

def hex (n : Nat) : String :=
  String.ofList (Nat.toDigits 16 n)

def quoteChar (c : Char) : String :=
  if c = '"' then "\\\""
  else if c = '\\' then "\\\\"
  else if c = '\n' then "\\n"
  else if c = '\r' then "\\r"
  else if c = '\t' then "\\t"
  else if c.val = 0 then "\\0"
  else if isEscaped c then "\\u\x7b" ++ hex c.toNat ++ "\x7d"
  else c.toString

/-- A text between double quotes, everything invisible escaped. -/
def quote (s : String) : String :=
  "\"" ++ String.join (s.toList.map quoteChar) ++ "\""

end PromptPlan.Text
