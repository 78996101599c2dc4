import PromptPlan.Function

/-!
# The catalog

Functions are registered by skill and name, both compared in lower case, and listed in the
order in which they came. A skill exists exactly as long as it has a function.
-/

namespace PromptPlan

/-- The key of a skill; the global skill has the same key by name and without one. -/
def skillKey (skill : String) : String :=
  if skill.isEmpty then Text.lower globalSkill else Text.lower skill

def Function.skillKey {σ : Type} (f : Function σ) : String := PromptPlan.skillKey f.skill

/-- A function answers to every spelling of its skill and its name. -/
def Function.AnswersTo {σ : Type} (f : Function σ) (skill : Option String) (name : String) :
    Prop :=
  f.skillKey = PromptPlan.skillKey (skill.getD "") ∧ f.nameKey = Text.lower name

structure Skill (σ : Type) where
  key : String
  functions : Keyed (@Function.nameKey σ)

structure Catalog (σ : Type) where
  skills : Keyed (@Skill.key σ)

namespace Catalog

variable {σ : Type}

def empty : Catalog σ := ⟨.empty⟩

instance : EmptyCollection (Catalog σ) := ⟨empty⟩

instance : Inhabited (Catalog σ) := ⟨empty⟩

/-! ### Finding -/

/-- The function of a skill by name; no skill means the global functions. -/
def get? (c : Catalog σ) (skill : Option String) (name : String) : Option (Function σ) :=
  (c.skills.find? (skillKey (skill.getD ""))).bind fun s => s.functions.find? (Text.lower name)

def contains (c : Catalog σ) (skill : Option String) (name : String) : Bool :=
  (c.get? skill name).isSome

/-- The function of a skill by name, or the failure that names it. -/
def resolve (c : Catalog σ) (skill : Option String) (name : String) : Result (Function σ) :=
  match c.get? skill name with
  | some f => .ok f
  | none => .error (.unknownFunction (qualify (skill.getD "") name) none)

/-- The function that a written reference names; blanks around it do not count. -/
def resolveReference (c : Catalog σ) (reference : String) : Result (Function σ) :=
  let target := Reference.parse (Text.trim reference)
  c.resolve target.skill target.name

/-! ### Registering and removing -/

/-- Registers a function, and gives the function it displaced. -/
def register (c : Catalog σ) (f : Function σ) : Option (Function σ) × Catalog σ :=
  let skill := (c.skills.find? f.skillKey).getD ⟨f.skillKey, .empty⟩
  (skill.functions.find? f.nameKey,
    ⟨c.skills.put { skill with functions := skill.functions.put f }⟩)

/-- Removes a function, with its skill if nothing is left of that, and gives the function. -/
def remove (c : Catalog σ) (skill : Option String) (name : String) :
    Option (Function σ) × Catalog σ :=
  match c.skills.find? (skillKey (skill.getD "")) with
  | none => (none, c)
  | some s =>
    let rest := s.functions.erase (Text.lower name)
    (s.functions.find? (Text.lower name),
      if rest.toList.isEmpty then ⟨c.skills.erase s.key⟩
      else ⟨c.skills.put { s with functions := rest }⟩)

/-! ### What registering and removing do to finding -/

theorem get?_empty (skill : Option String) (name : String) :
    (empty : Catalog σ).get? skill name = none := rfl

theorem get?_register_of_answersTo (c : Catalog σ) {f : Function σ} {skill : Option String}
    {name : String} (h : f.AnswersTo skill name) : (c.register f).2.get? skill name = some f := by
  obtain ⟨hs, hn⟩ := h
  cases hf : c.skills.find? f.skillKey with
  | none => simp [get?, register, Keyed.find?_put, hf, hn, ← hs]
  | some s =>
    have hk : s.key = f.skillKey := Keyed.key_of_find? hf
    simp [get?, register, Keyed.find?_put, hf, hk, hn, ← hs]

theorem get?_register_of_not_answersTo (c : Catalog σ) {f : Function σ} {skill : Option String}
    {name : String} (h : ¬f.AnswersTo skill name) :
    (c.register f).2.get? skill name = c.get? skill name := by
  by_cases hs : f.skillKey = skillKey (skill.getD "")
  · have hn : f.nameKey ≠ Text.lower name := fun hn => h ⟨hs, hn⟩
    cases hf : c.skills.find? f.skillKey with
    | none => simp [get?, register, Keyed.find?_put, hf, hn, ← hs]
    | some s =>
      have hk : s.key = f.skillKey := Keyed.key_of_find? hf
      simp [get?, register, Keyed.find?_put, hf, hk, hn, ← hs]
  · cases hf : c.skills.find? f.skillKey with
    | none => simp [get?, register, Keyed.find?_put, hf, hs]
    | some s =>
      have hk : s.key = f.skillKey := Keyed.key_of_find? hf
      simp [get?, register, Keyed.find?_put, hf, hk, hs]

/-- What was there before gives way to the function that is registered. -/
theorem fst_register (c : Catalog σ) (f : Function σ) :
    (c.register f).1 = (c.skills.find? f.skillKey).bind fun s => s.functions.find? f.nameKey := by
  cases hf : c.skills.find? f.skillKey <;> simp [register, hf]

@[simp] theorem fst_remove (c : Catalog σ) (skill : Option String) (name : String) :
    (c.remove skill name).1 = c.get? skill name := by
  unfold remove get?
  cases hf : c.skills.find? (skillKey (skill.getD "")) <;> simp

@[simp] theorem get?_remove_self (c : Catalog σ) (skill : Option String) (name : String) :
    (c.remove skill name).2.get? skill name = none := by
  unfold remove
  cases hf : c.skills.find? (skillKey (skill.getD "")) with
  | none => simp [get?, hf]
  | some s =>
    have hk : s.key = skillKey (skill.getD "") := Keyed.key_of_find? hf
    dsimp only
    split <;> simp [get?, hk, Keyed.find?_erase]

/-! ### Listings -/

/-- All functions, skill by skill. -/
def functions (c : Catalog σ) : List (Function σ) :=
  c.skills.toList.flatMap fun s => s.functions.toList

def functionsIn (c : Catalog σ) (skill : String) : List (Function σ) :=
  ((c.skills.find? (skillKey skill)).map fun s => s.functions.toList).getD []

def profiles (c : Catalog σ) : List Profile :=
  c.functions.map Function.toProfile

def size (c : Catalog σ) : Nat :=
  c.skills.toList.foldl (fun n s => n + s.functions.size) 0

def isEmpty (c : Catalog σ) : Bool := c.size == 0

/-- The skills with the number of their functions, each spelled as its first function has it. -/
def skillCounts (c : Catalog σ) : List (String × Nat) :=
  c.skills.toList.filterMap fun s => s.functions.toList.head?.map fun f =>
    (f.skill, s.functions.size)

def skillNames (c : Catalog σ) : List String :=
  c.skillCounts.map (·.1)

def skillCount (c : Catalog σ) : Nat := c.skills.size

def shown (c : Catalog σ) : Text.Shown :=
  .record "FunctionRegistry"
    [("functions", .ofTexts (c.functions.map Function.qualifiedName))] true

/-! ### Calling -/

/-- The scope of the catalog for calls nested up to a depth. -/
def scope (c : Catalog σ) : Nat → Scope σ
  -- Functions that call themselves would go round for ever, so the last call is stuck.
  | 0 => fun skill name => (c.get? skill name).map fun f => ⟨f.qualifiedName, fun _ => .stuck⟩
  | depth + 1 => fun skill name =>
    (c.get? skill name).map fun f => ⟨f.qualifiedName, f.body (c.scope depth)⟩

end Catalog

end PromptPlan
