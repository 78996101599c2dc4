import PromptPlan.Text.Case
import PromptPlan.Text.Letter.Table

/-!
# Letters and numerals

The words of a log filter may begin with a letter or a numeral of any script. A letter is
what Unicode calls alphabetic. A numeral is any character that stands for a number, be it a
digit, a fraction or a number in a circle.
-/

namespace PromptPlan.Text

def isLetter (c : Char) : Bool :=
  if c.val < 128 then c.isAlpha else inRanges Letter.ranges c.toNat

/-- Characters of any script that stand for a number. -/
def isNumeral (c : Char) : Bool :=
  if c.val < 128 then c.isDigit else inRanges Letter.numeralRanges c.toNat

def isAlphanumeric (c : Char) : Bool := isLetter c || isNumeral c

end PromptPlan.Text
