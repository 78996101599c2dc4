import PromptPlan.Text.Case.Table

/-!
# Lower case

Two names are the same when their lower-case forms are equal. The form is the full Unicode
mapping, in which `İ` becomes two characters, and the capital sigma becomes `ς` at the end of a
word and `σ` elsewhere. A few places compare names by ASCII letters only.
-/

namespace PromptPlan.Text

def inRanges (ranges : List (Nat × Nat)) (n : Nat) : Bool :=
  ranges.any fun (low, high) => low ≤ n && n ≤ high

/-- Characters with an upper, lower or title case. -/
def isCased (c : Char) : Bool :=
  inRanges Case.casedRanges c.toNat

/-- Characters that are skipped when the case of a neighbour is asked for. -/
def isCaseIgnorable (c : Char) : Bool :=
  inRanges Case.ignorableRanges c.toNat

/-- Lowers an ASCII capital and leaves every other character alone. -/
def lowerAscii (c : Char) : Char :=
  if 'A' ≤ c && c ≤ 'Z' then Char.ofNat (c.toNat + 32) else c

/-- The lower-case form of a character by itself. -/
def lowerChar (c : Char) : List Char :=
  if c.val < 128 then [lowerAscii c]
  else if c = '\u0130' then ['i', '\u0307']
  else
    let n := c.toNat
    let run? := Case.lowerRuns.find? fun (first, last, step, _) =>
      first ≤ n && n ≤ last && (n - first) % step == 0
    match run? with
    | some (first, _, _, image) => [Char.ofNat (image + (n - first))]
    | none => [c]

/-- Whether the next character that casing does not ignore is cased. -/
def meetsCased (s : List Char) : Bool :=
  match s.dropWhile isCaseIgnorable with
  | c :: _ => isCased c
  | [] => false

/-- The lower-case form of `s`, where `before` is the text in front of it in reverse. -/
def lowerAfter (before : List Char) : List Char → List Char
  | [] => []
  | c :: rest =>
    -- A sigma is final after a cased character and before none, ignored ones apart.
    let image :=
      if c = '\u03A3' then [if meetsCased before && !meetsCased rest then '\u03C2' else '\u03C3']
      else lowerChar c
    image ++ lowerAfter (c :: before) rest

/-- The key under which a name is stored and sought. -/
def lower (s : String) : String :=
  String.ofList (lowerAfter [] s.toList)

def asciiLower (s : String) : String :=
  String.ofList (s.toList.map lowerAscii)

def sameAscii (a b : String) : Bool :=
  asciiLower a == asciiLower b

theorem sameAscii_iff {a b : String} : sameAscii a b = true ↔ asciiLower a = asciiLower b := by
  simp [sameAscii]

@[simp] theorem sameAscii_refl (a : String) : sameAscii a a = true := by
  simp [sameAscii]

end PromptPlan.Text
