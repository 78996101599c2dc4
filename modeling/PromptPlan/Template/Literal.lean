import PromptPlan.Text.Blank

/-!
# Quoted literals

A literal stands between two equal quotes, single or double. Inside, a backslash makes the
character after it stand for itself.
-/

namespace PromptPlan.Template

def isQuote (c : Char) : Bool :=
  c == '\'' || c == '"'

/-- Splits what follows an opening `quote` after the quote that closes it. -/
def closeQuote (quote : Char) : List Char → Option (List Char × List Char)
  | [] => none
  -- A last backslash escapes nothing, and closes nothing either.
  | '\\' :: [] => none
  | '\\' :: c :: rest =>
    (closeQuote quote rest).map fun (inside, after) => ('\\' :: c :: inside, after)
  | c :: rest =>
    if c = quote then some ([c], rest)
    else (closeQuote quote rest).map fun (inside, after) => (c :: inside, after)

def unescape : List Char → List Char
  | '\\' :: c :: rest => c :: unescape rest
  | c :: rest => c :: unescape rest
  | [] => []

/-- Writes a text so that it can stand between two `quote`s. -/
def escape (quote : Char) : List Char → List Char
  | [] => []
  | c :: rest =>
    if c = '\\' ∨ c = quote then '\\' :: c :: escape quote rest else c :: escape quote rest

def literal (quote : Char) (s : List Char) : List Char :=
  quote :: (escape quote s ++ [quote])

/-- The text between the quotes of a literal, escapes resolved; a closing quote that is
missing is not missed. -/
def literalText : List Char → List Char
  | [] => []
  | quote :: inside =>
    if isQuote quote then
      unescape (if inside.getLast? = some quote then inside.dropLast else inside)
    else []

/-! ### Nothing is lost -/

theorem append_of_closeQuote {quote : Char} {s inside after : List Char}
    (h : closeQuote quote s = some (inside, after)) : s = inside ++ after := by
  fun_induction closeQuote quote s generalizing inside with
  | case1 => simp at h
  | case2 => simp at h
  | case3 c rest ih =>
    simp only [Option.map_eq_some_iff, Prod.exists, Prod.mk.injEq] at h
    obtain ⟨i, a, hia, rfl, rfl⟩ := h
    simp [ih hia]
  | case4 rest =>
    simp only [Option.some.injEq, Prod.mk.injEq] at h
    simp [← h.1, ← h.2]
  | case5 c rest _ _ _ ih =>
    simp only [Option.map_eq_some_iff, Prod.exists, Prod.mk.injEq] at h
    obtain ⟨i, a, hia, rfl, rfl⟩ := h
    simp [ih hia]

theorem length_lt_of_closeQuote {quote : Char} {s inside after : List Char}
    (h : closeQuote quote s = some (inside, after)) : after.length < s.length := by
  have hne : inside ≠ [] := by
    fun_cases closeQuote quote s <;> simp_all [closeQuote] <;>
      · rintro rfl; simp_all
  rw [append_of_closeQuote h, List.length_append]
  have := List.length_pos_iff.2 hne
  omega

end PromptPlan.Template
