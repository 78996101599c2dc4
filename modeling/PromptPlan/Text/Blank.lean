/-!
# White space

Templates, plan results and planner answers are trimmed, and the words of a span are separated,
by the characters with the Unicode property `White_Space`.
-/

namespace PromptPlan.Text

def isBlank (c : Char) : Bool :=
  let n := c.val
  (9 ≤ n && n ≤ 13) || n == 0x20 || n == 0x85 || n == 0xA0 || n == 0x1680 ||
    (0x2000 ≤ n && n ≤ 0x200A) || n == 0x2028 || n == 0x2029 || n == 0x202F ||
    n == 0x205F || n == 0x3000

def trimStart (s : List Char) : List Char :=
  s.dropWhile isBlank

def trimEnd (s : List Char) : List Char :=
  (s.reverse.dropWhile isBlank).reverse

def trimChars (s : List Char) : List Char :=
  trimEnd (trimStart s)

/-- Drops the blanks on both sides of a string. -/
def trim (s : String) : String :=
  String.ofList (trimChars s.toList)

@[simp] theorem trim_empty : trim "" = "" := by decide

theorem toList_trim (s : String) : (trim s).toList = trimChars s.toList := by
  simp [trim]

end PromptPlan.Text
