import PromptPlan.Template.Block

/-!
# From text to blocks

A text is cut into *segments*, runs of text and spans in double braces, and the inside of a span
into words. A span closes at the first pair of closing braces outside quoted literals. A literal
that is never closed gives up this protection for the whole span, so that the mistake is
reported instead of the rest of the template being swallowed.
-/

namespace PromptPlan.Template

/-! ### Spans -/

/-- Splits a text at its first pair of closing braces. -/
def cutClose : List Char → Option (List Char × List Char)
  | '}' :: '}' :: rest => some ([], rest)
  | c :: rest => (cutClose rest).map fun (body, after) => (c :: body, after)
  | [] => none

/-- Splits what follows the opening of a span at the braces that close it; `whole` is the
text from the opening on, `s` the part still unread and `body` the part read, in reverse. -/
def closeSpan (whole body : List Char) (s : List Char) : Option (List Char × List Char) :=
  match s with
  | [] => none
  -- A last character alone closes nothing, whatever it is.
  | [_] => none
  | c :: d :: rest =>
    if isQuote c then
      match h : closeQuote c (d :: rest) with
      | some (inside, after) =>
        have : after.length < (d :: rest).length := length_lt_of_closeQuote h
        closeSpan whole (inside.reverse ++ c :: body) after
      -- The literals that were passed over before count no longer.
      | none => cutClose whole
    else if c = '}' ∧ d = '}' then some (body.reverse, rest)
    else closeSpan whole (c :: body) (d :: rest)
termination_by s.length
decreasing_by all_goals simp_all; try omega

def spanBody (s : List Char) : Option (List Char × List Char) :=
  closeSpan s [] s

/-- Splits a text at its first pair of opening braces, if it has one. -/
def cutOpen : List Char → List Char × Option (List Char)
  | '{' :: '{' :: rest => ([], some rest)
  | c :: rest =>
    let (text, after) := cutOpen rest
    (c :: text, after)
  | [] => ([], none)

/-! ### Nothing is lost -/

theorem append_of_cutClose {s body after : List Char} (h : cutClose s = some (body, after)) :
    s = body ++ '}' :: '}' :: after := by
  fun_induction cutClose s generalizing body with
  | case1 rest => simp_all
  | case2 c rest _ ih =>
    simp only [Option.map_eq_some_iff, Prod.exists, Prod.mk.injEq] at h
    obtain ⟨b, a, hba, rfl, rfl⟩ := h
    simp [ih hba]
  | case3 => simp at h

theorem append_of_closeSpan {whole body s raw after : List Char}
    (hs : whole = body.reverse ++ s) (h : closeSpan whole body s = some (raw, after)) :
    whole = raw ++ '}' :: '}' :: after := by
  fun_induction closeSpan whole body s with
  | case1 => simp at h
  | case2 => simp at h
  | case3 body c d rest _ inside rest' hq _ ih =>
    refine ih ?_ h
    simp [hs, append_of_closeQuote hq]
  | case4 => exact append_of_cutClose h
  | case5 body c d rest _ hcd =>
    simp only [Option.some.injEq, Prod.mk.injEq] at h
    simp [hs, ← h.1, ← h.2, hcd.1, hcd.2]
  | case6 body c d rest _ _ ih => exact ih (by simp [hs]) h

theorem append_of_spanBody {s raw after : List Char} (h : spanBody s = some (raw, after)) :
    s = raw ++ '}' :: '}' :: after :=
  append_of_closeSpan rfl h

theorem length_lt_of_spanBody {s raw after : List Char} (h : spanBody s = some (raw, after)) :
    after.length < s.length := by
  rw [append_of_spanBody h]
  simp
  omega

theorem append_of_cutOpen {s text after : List Char} (h : cutOpen s = (text, some after)) :
    s = text ++ '{' :: '{' :: after := by
  fun_induction cutOpen s generalizing text with
  | case1 rest => simp_all
  | case2 c rest _ t a hta ih =>
    simp only [Prod.mk.injEq] at h
    obtain ⟨rfl, rfl⟩ := h
    simp [ih hta]
  | case3 => simp at h

/-! ### Segments -/

/-- A run of text, or the inside of a span. -/
inductive Segment where
  | text (s : List Char)
  | span (raw : List Char)
deriving DecidableEq, Repr

/-- A segment as it stands in a template. -/
def Segment.write : Segment → List Char
  | .text s => s
  | .span raw => '{' :: '{' :: (raw ++ ['}', '}'])

/-- A run of text as a segment, unless it is empty. -/
def textSegment (s : List Char) : List Segment :=
  if s.isEmpty then [] else [.text s]

def segments (s : List Char) : List Segment :=
  match h : cutOpen s with
  | (_, none) => textSegment s
  | (text, some inside) =>
    match hb : spanBody inside with
    | none => textSegment s
    | some (raw, after) =>
      have : after.length < s.length := by
        have h1 := length_lt_of_spanBody hb
        have h2 := congrArg List.length (append_of_cutOpen h)
        simp at h2
        omega
      textSegment text ++ .span raw :: segments after
termination_by s.length

theorem flatMap_write_textSegment (s : List Char) :
    (textSegment s).flatMap Segment.write = s := by
  cases s <;> simp [textSegment, Segment.write]

/-- Writing the segments of a text gives the text back. -/
theorem flatMap_write_segments (s : List Char) : (segments s).flatMap Segment.write = s := by
  fun_induction segments s with
  | case1 => exact flatMap_write_textSegment _
  | case2 => exact flatMap_write_textSegment _
  | case3 s text inside h raw after hb _ ih =>
    simp only [List.flatMap_append, List.flatMap_cons, flatMap_write_textSegment, ih,
      Segment.write]
    rw [append_of_cutOpen h, append_of_spanBody hb]
    simp

/-! ### Words of a span -/

/-- Cuts the inside of a span into words: literals, and what stands between blanks. -/
def words (s : List Char) : List (List Char) :=
  match s with
  | [] => []
  | c :: rest =>
    if Text.isBlank c then words rest
    else if isQuote c then
      match h : closeQuote c rest with
      | some (inside, after) =>
        have : after.length < rest.length := length_lt_of_closeQuote h
        (c :: inside) :: words after
      -- A literal that is never closed takes all the rest, blanks and quotes among it.
      | none => [c :: rest]
    else
      have : (rest.dropWhile fun x => !Text.isBlank x).length ≤ rest.length :=
        (List.dropWhile_suffix _).length_le
      (c :: rest.takeWhile fun x => !Text.isBlank x) ::
        words (rest.dropWhile fun x => !Text.isBlank x)
termination_by s.length
decreasing_by all_goals simp_all; try omega

/-- The block of a word: its first character tells what it is. -/
def wordBlock (word : List Char) : Block :=
  match word with
  | c :: _ =>
    if isQuote c then .ofValue (String.ofList word)
    else if c = '$' then .ofVariable (String.ofList word)
    else .ofFunction (String.ofList word)
  | [] => .ofFunction ""

def codeBlock (raw : List Char) : Block :=
  .ofCode (String.ofList raw) ((words (Text.trimChars raw)).map wordBlock)

def Segment.block : Segment → Block
  | .text s => .text (String.ofList s)
  | .span raw => codeBlock raw

def read (template : String) : List Block :=
  (segments template.toList).map Segment.block

/-- The blocks of a template, all of which must keep to the grammar. -/
def readValid (template : String) : Result (List Block) :=
  let blocks := read template
  match firstError? blocks with
  | some e => .error e
  | none => .ok blocks

end PromptPlan.Template
