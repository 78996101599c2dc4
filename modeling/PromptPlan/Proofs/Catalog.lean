import Mathlib.Algebra.GroupWithZero.Nat
import Mathlib.Data.List.Induction
import PromptPlan.Proofs.Keyed
import PromptPlan.Catalog

/-!
# What a catalog remembers

A catalog is changed by registering functions and removing them, in any order. What is found in
it afterwards can be read off the changes alone: under a skill and a name stands the function
that was registered there last, unless somebody removed it since.

The listings know less than the changes do. A catalog does not keep how a skill is spelled and
asks its first function for that, so the listings are only right because no skill is ever
without functions and every function stands in its own skill. These two facts are the invariant
(`Kept`), and all that the listings say of each other follows from them.
-/

namespace PromptPlan.Catalog

variable {σ : Type}

/-! ### Changes -/

/-- What is done to a catalog. -/
inductive Change (σ : Type) where
  | register (f : Function σ)
  | remove (skill : Option String) (name : String)

/-- The catalog after a change. -/
def apply (c : Catalog σ) : Change σ → Catalog σ
  | .register f => (c.register f).2
  | .remove skill name => (c.remove skill name).2

/-- The catalog after changes, starting without functions. -/
def after (changes : List (Change σ)) : Catalog σ :=
  changes.foldl apply .empty

/-- Whether a change is about what is found under a skill and a name. -/
def Change.Concerns (skill : Option String) (name : String) : Change σ → Prop
  | .register f => f.AnswersTo skill name
  | .remove skill' name' =>
    skillKey (skill'.getD "") = skillKey (skill.getD "") ∧ Text.lower name' = Text.lower name

/-- Under a skill and a name a function was registered, and no change was about them since. -/
def Stands (changes : List (Change σ)) (skill : Option String) (name : String)
    (f : Function σ) : Prop :=
  ∃ earlier later, changes = earlier ++ .register f :: later ∧ f.AnswersTo skill name ∧
    ∀ change ∈ later, ¬change.Concerns skill name

theorem after_concat (changes : List (Change σ)) (change : Change σ) :
    after (changes ++ [change]) = (after changes).apply change :=
  List.foldl_concat ..

/-! ### What is found -/

theorem get?_congr (c : Catalog σ) {skill skill' : Option String} {name name' : String}
    (hskill : skillKey (skill'.getD "") = skillKey (skill.getD ""))
    (hname : Text.lower name' = Text.lower name) : c.get? skill' name' = c.get? skill name := by
  rw [get?, get?, hskill, hname]

theorem get?_remove_of_ne (c : Catalog σ) {skill skill' : Option String} {name name' : String}
    (h : ¬(skillKey (skill'.getD "") = skillKey (skill.getD "") ∧
      Text.lower name' = Text.lower name)) :
    (c.remove skill' name').2.get? skill name = c.get? skill name := by
  rw [remove]
  cases hfind : c.skills.find? (skillKey (skill'.getD "")) with
  | none => rfl
  | some s =>
      have hkey : s.key = skillKey (skill'.getD "") := Keyed.key_of_find? hfind
      by_cases hskill : skillKey (skill'.getD "") = skillKey (skill.getD "")
      · have hname : Text.lower name' ≠ Text.lower name := fun hname => h ⟨hskill, hname⟩
        have hs : c.skills.find? (skillKey (skill.getD "")) = some s := hskill ▸ hfind
        have hrest : (s.functions.erase (Text.lower name')).find? (Text.lower name) =
            s.functions.find? (Text.lower name) := by
          rw [Keyed.find?_erase, if_neg hname]
        dsimp only
        split
        · rename_i hempty
          have hnone : s.functions.find? (Text.lower name) = none := by
            rw [← hrest, Keyed.find?, List.isEmpty_iff.1 hempty, List.find?_nil]
          rw [get?, get?, Keyed.find?_erase, if_pos (hkey.trans hskill), hs, Option.bind_none,
            Option.bind_some, hnone]
        · rw [get?, get?, Keyed.find?_put, if_pos (hkey.trans hskill), hs, Option.bind_some,
            Option.bind_some, hrest]
      · have hne : s.key ≠ skillKey (skill.getD "") := fun hs => hskill (hkey.symm.trans hs)
        dsimp only
        split
        · rw [get?, get?, Keyed.find?_erase, if_neg hne]
        · rw [get?, get?, Keyed.find?_put, if_neg hne]

theorem get?_apply_of_not_concerns (c : Catalog σ) {change : Change σ} {skill : Option String}
    {name : String} (h : ¬change.Concerns skill name) :
    (c.apply change).get? skill name = c.get? skill name := by
  cases change with
  | register f => exact get?_register_of_not_answersTo c h
  | remove skill' name' => exact get?_remove_of_ne c h

theorem stands_concat {changes : List (Change σ)} {change : Change σ} {skill : Option String}
    {name : String} {f : Function σ} :
    Stands (changes ++ [change]) skill name f ↔
      (change = .register f ∧ change.Concerns skill name) ∨
        (¬change.Concerns skill name ∧ Stands changes skill name f) := by
  constructor
  · rintro ⟨earlier, later, hsplit, hf, hlater⟩
    cases later using List.reverseRecOn with
    | nil =>
        obtain ⟨-, rfl⟩ : changes = earlier ∧ change = .register f := by simpa using hsplit
        exact .inl ⟨rfl, hf⟩
    | append_singleton later last =>
        rw [← List.cons_append, ← List.append_assoc] at hsplit
        obtain ⟨rfl, rfl⟩ := List.append_singleton_inj.1 hsplit
        exact .inr ⟨hlater change (by simp), earlier, later, rfl, hf,
          fun change h => hlater change (by simp [h])⟩
  · rintro (⟨rfl, hf⟩ | ⟨hchange, earlier, later, rfl, hf, hlater⟩)
    · exact ⟨changes, [], rfl, hf, by simp⟩
    · refine ⟨earlier, later ++ [change], by simp, hf, ?_⟩
      rw [List.forall_mem_append]
      exact ⟨hlater, List.forall_mem_singleton.2 hchange⟩

/-- By induction on the changes, from the last one back. -/
theorem get?_after (changes : List (Change σ)) (skill : Option String) (name : String)
    (f : Function σ) : (after changes).get? skill name = some f ↔ Stands changes skill name f := by
  induction changes using List.reverseRecOn with
  | nil =>
      refine iff_of_false (by simp [after, get?_empty]) ?_
      rintro ⟨earlier, later, hsplit, -⟩
      simp at hsplit
  | append_singleton changes change ih =>
      rw [after_concat, stands_concat, ← ih]
      by_cases hchange : change.Concerns skill name
      · cases change with
        | register g =>
            rw [apply, get?_register_of_answersTo _ hchange]
            simp [hchange]
        | remove skill' name' =>
            rw [apply, ← get?_congr _ hchange.1 hchange.2, get?_remove_self]
            simp [hchange]
      · rw [get?_apply_of_not_concerns _ hchange]
        simp [hchange]

/-! ### The invariant -/

/-- No skill is without functions, and every function stands in its own skill. -/
structure Kept (c : Catalog σ) : Prop where
  nonempty : ∀ s ∈ c.skills.toList, s.functions.toList ≠ []
  own : ∀ s ∈ c.skills.toList, ∀ f ∈ s.functions.toList, f.skillKey = s.key

theorem kept_empty : Kept (empty : Catalog σ) :=
  ⟨by simp [empty], by simp [empty]⟩

/-- A skill that keeps the invariant takes the place of one, or comes new. -/
theorem Kept.put {c : Catalog σ} (h : Kept c) {s : Skill σ} (hne : s.functions.toList ≠ [])
    (hown : ∀ f ∈ s.functions.toList, f.skillKey = s.key) : Kept ⟨c.skills.put s⟩ := by
  constructor
  · intro t ht
    rcases Keyed.mem_put ht with rfl | ht
    · exact hne
    · exact h.nonempty t ht
  · intro t ht
    rcases Keyed.mem_put ht with rfl | ht
    · exact hown
    · exact h.own t ht

theorem Kept.erase {c : Catalog σ} (h : Kept c) (k : String) : Kept ⟨c.skills.erase k⟩ :=
  ⟨fun s hs => h.nonempty s (List.mem_of_mem_filter hs),
    fun s hs => h.own s (List.mem_of_mem_filter hs)⟩

theorem ne_nil_put {α : Type} {key : α → String} (m : Keyed key) (x : α) :
    (m.put x).toList ≠ [] := by
  intro hnil
  have hfind := m.find?_put_self x
  rw [Keyed.find?, hnil] at hfind
  cases hfind

theorem Kept.register {c : Catalog σ} (h : Kept c) (f : Function σ) : Kept (c.register f).2 := by
  refine h.put (ne_nil_put _ f) ?_
  cases hfind : c.skills.find? f.skillKey with
  | none =>
      intro g hg
      obtain rfl : g = f := by simpa [Keyed.place] using hg
      rfl
  | some s =>
      have hkey : s.key = f.skillKey := Keyed.key_of_find? hfind
      intro g hg
      rcases Keyed.mem_put hg with rfl | hg
      · exact hkey.symm
      · exact h.own s (Keyed.mem_of_find? hfind) g hg

theorem Kept.remove {c : Catalog σ} (h : Kept c) (skill : Option String) (name : String) :
    Kept (c.remove skill name).2 := by
  rw [Catalog.remove]
  cases hfind : c.skills.find? (skillKey (skill.getD "")) with
  | none => exact h
  | some s =>
      dsimp only
      split
      · exact h.erase s.key
      · rename_i hne
        refine h.put (fun hnil => hne (List.isEmpty_iff.2 hnil)) fun f hf => ?_
        exact h.own s (Keyed.mem_of_find? hfind) f (List.mem_of_mem_filter hf)

theorem Kept.apply {c : Catalog σ} (h : Kept c) (change : Change σ) : Kept (c.apply change) := by
  cases change with
  | register f => exact h.register f
  | remove skill name => exact h.remove skill name

theorem kept_after (changes : List (Change σ)) : Kept (after changes) := by
  induction changes using List.reverseRecOn with
  | nil => exact kept_empty
  | append_singleton changes change ih =>
      rw [after_concat]
      exact ih.apply change

/-! ### Listings

A skill that is not empty is spelled as its first function has it, and this spelling leads back
to the skill. The listings are then lists made from the skills, one entry for each. -/

/-- How a skill is spelled. -/
def spelling (s : Skill σ) : String :=
  (s.functions.toList.head?.map fun f => f.skill).getD ""

variable {c : Catalog σ} {s : Skill σ}

theorem Kept.head? (h : Kept c) (hs : s ∈ c.skills.toList) :
    ∃ f, s.functions.toList.head? = some f ∧ f.skill = spelling s ∧ f.skillKey = s.key := by
  obtain ⟨f, rest, hcons⟩ := List.exists_cons_of_ne_nil (h.nonempty s hs)
  have hf : f.skillKey = s.key := h.own s hs f (by simp [hcons])
  exact ⟨f, by simp [hcons], by simp [spelling, hcons], hf⟩

theorem Kept.skillKey_spelling (h : Kept c) (hs : s ∈ c.skills.toList) :
    skillKey (spelling s) = s.key := by
  obtain ⟨f, -, hskill, hkey⟩ := h.head? hs
  rw [← hskill]
  exact hkey

theorem Kept.functionsIn_spelling (h : Kept c) (hs : s ∈ c.skills.toList) :
    c.functionsIn (spelling s) = s.functions.toList := by
  rw [functionsIn, h.skillKey_spelling hs, Keyed.find?_key_of_mem hs]
  rfl

theorem Kept.skillCounts_eq (h : Kept c) :
    c.skillCounts = c.skills.toList.map fun s => (spelling s, s.functions.size) := by
  rw [skillCounts, ← List.filterMap_eq_map]
  refine List.filterMap_congr fun s hs => ?_
  obtain ⟨f, hhead, hskill, -⟩ := h.head? hs
  rw [hhead, Option.map_some, hskill]
  rfl

theorem Kept.skillNames_eq (h : Kept c) : c.skillNames = c.skills.toList.map spelling := by
  rw [skillNames, h.skillCounts_eq, List.map_map]
  rfl

theorem Kept.map_skillKey_skillNames (h : Kept c) : c.skillNames.map skillKey = c.skills.keys := by
  rw [h.skillNames_eq, List.map_map, Keyed.keys]
  exact List.map_congr_left fun s hs => h.skillKey_spelling hs

theorem size_eq_sum (c : Catalog σ) :
    c.size = (c.skills.toList.map fun s => s.functions.size).sum := by
  rw [size, List.sum_eq_foldl, List.foldl_map]

theorem size_eq_length (c : Catalog σ) : c.size = c.functions.length := by
  rw [size_eq_sum, functions, List.length_flatMap]
  rfl

theorem filter_skillKey {l : List (Skill σ)}
    (h : ∀ s ∈ l, ∀ f ∈ s.functions.toList, f.skillKey = s.key) (p : String → Bool) :
    ((l.flatMap fun s => s.functions.toList).filter fun f => p f.skillKey) =
      (l.filter fun s => p s.key).flatMap fun s => s.functions.toList := by
  induction l with
  | nil => rfl
  | cons s l ih =>
      rw [List.forall_mem_cons] at h
      rw [List.flatMap_cons, List.filter_append, ih h.2]
      cases hp : p s.key with
      | false =>
          have hnone : (s.functions.toList.filter fun f => p f.skillKey) = [] := by
            rw [List.filter_eq_nil_iff]
            intro f hf
            simp [h.1 f hf, hp]
          rw [hnone, List.filter_cons_of_neg (by simp [hp]), List.nil_append]
      | true =>
          have hall : (s.functions.toList.filter fun f => p f.skillKey) = s.functions.toList := by
            rw [List.filter_eq_self]
            intro f hf
            rw [h.1 f hf, hp]
          rw [hall, List.filter_cons_of_pos (by simpa using hp), List.flatMap_cons]

theorem Kept.functionsIn_eq_filter (h : Kept c) (skill : String) :
    c.functionsIn skill = c.functions.filter fun f => f.skillKey == skillKey skill := by
  rw [functions, filter_skillKey h.own fun k => k == skillKey skill, Keyed.filter_key_beq,
    functionsIn]
  cases c.skills.find? (skillKey skill) with
  | none => rfl
  | some s => simp

theorem Kept.mem_functions_iff (h : Kept c) (f : Function σ) :
    f ∈ c.functions ↔ c.get? (some f.skill) f.name = some f := by
  rw [functions, List.mem_flatMap]
  constructor
  · rintro ⟨s, hs, hf⟩
    have hfind : c.skills.find? (skillKey f.skill) = some s := by
      rw [← Keyed.find?_key_of_mem hs, ← h.own s hs f hf]
      rfl
    rw [get?, Option.getD_some, hfind, Option.bind_some]
    exact Keyed.find?_key_of_mem hf
  · intro hget
    obtain ⟨s, hs, hf⟩ := Option.bind_eq_some_iff.1 hget
    exact ⟨s, Keyed.mem_of_find? hs, Keyed.mem_of_find? hf⟩

/-- What the listings of a catalog say of each other and of what is found. -/
structure Listed (c : Catalog σ) : Prop where
  found : ∀ f, f ∈ c.functions ↔ c.get? (some f.skill) f.name = some f
  functionsIn : ∀ skill,
    c.functionsIn skill = c.functions.filter fun f => f.skillKey == skillKey skill
  profiles : c.profiles =
    c.skillNames.flatMap fun skill => (c.functionsIn skill).map Function.toProfile
  size : c.size = c.profiles.length
  isEmpty : c.isEmpty = true ↔ c.profiles = []
  spelled : ∀ skill ∈ c.skillNames,
    (c.functionsIn skill).head?.map (fun f => f.skill) = some skill
  keys : c.skillNames.map skillKey = c.skills.keys
  distinct : c.skillNames.Nodup
  counts : c.skillCounts = c.skillNames.map fun skill => (skill, (c.functionsIn skill).length)
  skillCount : c.skillCount = c.skillCounts.length
  sum : (c.skillCounts.map Prod.snd).sum = c.size

theorem Kept.listed (h : Kept c) : Listed c where
  found := h.mem_functions_iff
  functionsIn := h.functionsIn_eq_filter
  profiles := by
    rw [Catalog.profiles, functions, List.map_flatMap, h.skillNames_eq, List.flatMap_map]
    exact List.flatMap_congr fun s hs => by rw [h.functionsIn_spelling hs]
  size := by rw [size_eq_length, Catalog.profiles, List.length_map]
  isEmpty := by
    rw [Catalog.isEmpty, beq_iff_eq, size_eq_length, List.length_eq_zero_iff, Catalog.profiles,
      List.map_eq_nil_iff]
  spelled := by
    intro skill hskill
    rw [h.skillNames_eq] at hskill
    obtain ⟨s, hs, rfl⟩ := List.mem_map.1 hskill
    obtain ⟨f, hhead, hf, -⟩ := h.head? hs
    rw [h.functionsIn_spelling hs, hhead, Option.map_some, hf]
  keys := h.map_skillKey_skillNames
  distinct := by
    refine List.Nodup.of_map skillKey ?_
    rw [h.map_skillKey_skillNames]
    exact c.skills.nodup
  counts := by
    rw [h.skillCounts_eq, h.skillNames_eq, List.map_map]
    exact List.map_congr_left fun s hs => by
      rw [Function.comp_apply, h.functionsIn_spelling hs]
      rfl
  skillCount := by
    rw [h.skillCounts_eq, List.length_map]
    rfl
  sum := by
    rw [h.skillCounts_eq, List.map_map, size_eq_sum]
    rfl

/-! ### Where a function stands -/

/-- In the listings of a catalog one function takes the place of another. -/
structure Replaces (c : Catalog σ) (g f : Function σ) (c' : Catalog σ) : Prop where
  functions : ∃ before rest, c.functions = before ++ g :: rest ∧
    c'.functions = before ++ f :: rest
  functionsIn : ∃ before rest, c.functionsIn f.skill = before ++ g :: rest ∧
    c'.functionsIn f.skill = before ++ f :: rest
  skillNames : c'.skillNames.map skillKey = c.skillNames.map skillKey

/-- A function leaves the listings of a catalog with its skill, and then one comes that brings
the skill back, at the end. -/
structure Returns (c : Catalog σ) (g : Function σ) (without : Catalog σ) (f : Function σ)
    (c' : Catalog σ) : Prop where
  functions : ∃ before rest, c.functions = before ++ g :: rest ∧
    without.functions = before ++ rest ∧ c'.functions = before ++ rest ++ [f]
  skillNames : ∃ before rest, c.skillNames = before ++ g.skill :: rest ∧
    without.skillNames = before ++ rest ∧ c'.skillNames = before ++ rest ++ [f.skill]

/-- A skill with one more function, or with one in place of another. -/
def withFunction (s : Skill σ) (f : Function σ) : Skill σ :=
  { s with functions := s.functions.put f }

theorem skills_register_of_some {f : Function σ} (hs : c.skills.find? f.skillKey = some s) :
    (c.register f).2.skills = c.skills.put (withFunction s f) := by
  rw [register, hs, Option.getD_some]
  rfl

theorem toList_skills_register_of_none {f : Function σ}
    (hnone : c.skills.find? f.skillKey = none) :
    (c.register f).2.skills.toList =
      c.skills.toList ++ [⟨f.skillKey, Keyed.empty.put f⟩] := by
  rw [register, hnone, Option.getD_none]
  exact Keyed.toList_put_of_find?_none hnone

theorem Kept.replaces (h : Kept c) {f g : Function σ}
    (hget : c.get? (some f.skill) f.name = some g) : Replaces c g f (c.register f).2 := by
  obtain ⟨s, hs, hg⟩ := Option.bind_eq_some_iff.1 hget
  rw [Option.getD_some] at hs
  have hkey : s.key = skillKey f.skill := Keyed.key_of_find? hs
  have hskills : (c.register f).2.skills = c.skills.put (withFunction s f) :=
    skills_register_of_some hs
  obtain ⟨front, back, hsplit, hput, -, -⟩ :=
    Keyed.exists_around_put (x := withFunction s f) (hkey.symm ▸ hs)
  obtain ⟨before, rest, hold, hnew, -, -⟩ := Keyed.exists_around_put (x := f) hg
  refine ⟨?_, ⟨before, rest, ?_, ?_⟩, ?_⟩
  · refine ⟨front.flatMap (fun s => s.functions.toList) ++ before,
      rest ++ back.flatMap (fun s => s.functions.toList), ?_, ?_⟩
    · rw [functions, hsplit, List.flatMap_append, List.flatMap_cons, hold]
      simp
    · rw [functions, hskills, hput, List.flatMap_append, List.flatMap_cons, withFunction, hnew]
      simp
  · rw [functionsIn, hs, ← hold]
    rfl
  · have hfind : (c.register f).2.skills.find? (skillKey f.skill) = some (withFunction s f) := by
      rw [hskills, Keyed.find?_put]
      exact if_pos hkey
    rw [functionsIn, hfind, ← hnew]
    rfl
  · rw [(h.register f).map_skillKey_skillNames, h.map_skillKey_skillNames, Keyed.keys, Keyed.keys,
      hskills, hput, hsplit, List.map_append, List.map_append, List.map_cons, List.map_cons]
    rfl

theorem Kept.returns (h : Kept c) {skill : Option String} {name : String} {f g : Function σ}
    (honly : c.functionsIn (skill.getD "") = [g]) (hg : g.AnswersTo skill name)
    (hf : f.skillKey = skillKey (skill.getD "")) :
    Returns c g (c.remove skill name).2 f ((c.remove skill name).2.register f).2 := by
  obtain ⟨s, hs, hfunctions⟩ :
      ∃ s, c.skills.find? (skillKey (skill.getD "")) = some s ∧ s.functions.toList = [g] := by
    cases hfind : c.skills.find? (skillKey (skill.getD "")) with
    | none => simp [functionsIn, hfind] at honly
    | some s => exact ⟨s, rfl, by simpa [functionsIn, hfind] using honly⟩
  have hrest : (s.functions.erase (Text.lower name)).toList = [] := by
    rw [Keyed.toList_erase, hfunctions, List.filter_cons_of_neg (by simp [hg.2]), List.filter_nil]
  have hkey : s.key = skillKey (skill.getD "") := Keyed.key_of_find? hs
  have hremove : (c.remove skill name).2 = ⟨c.skills.erase (skillKey (skill.getD ""))⟩ := by
    rw [Catalog.remove, hs]
    simp only [hrest, hkey, List.isEmpty_nil, if_true]
  obtain ⟨front, back, hsplit, herase, -, -⟩ := Keyed.exists_around_erase hs
  have hwithout : (c.remove skill name).2.skills.toList = front ++ back := by rw [hremove, herase]
  have hnone : (c.remove skill name).2.skills.find? f.skillKey = none := by
    rw [hremove, Keyed.find?_erase, if_pos hf.symm]
  have hreturn : ((c.remove skill name).2.register f).2.skills.toList =
      front ++ back ++ [⟨f.skillKey, Keyed.empty.put f⟩] := by
    rw [toList_skills_register_of_none hnone, hwithout]
  have hspelling : spelling s = g.skill := by simp [spelling, hfunctions]
  refine ⟨⟨front.flatMap fun s => s.functions.toList, back.flatMap fun s => s.functions.toList,
    ?_, ?_, ?_⟩, ⟨front.map spelling, back.map spelling, ?_, ?_, ?_⟩⟩
  · rw [functions, hsplit, List.flatMap_append, List.flatMap_cons, hfunctions,
      List.singleton_append]
  · rw [functions, hwithout, List.flatMap_append]
  · rw [functions, hreturn, List.flatMap_append, List.flatMap_append, List.flatMap_singleton]
    rfl
  · rw [h.skillNames_eq, hsplit, List.map_append, List.map_cons, hspelling]
  · rw [(h.remove skill name).skillNames_eq, hwithout, List.map_append]
  · rw [((h.remove skill name).register f).skillNames_eq, hreturn, List.map_append,
      List.map_append]
    rfl

/-! ### The whole -/

/-- **What a catalog remembers.** Whatever was registered and removed: no skill is empty, and
every function stands under the keys of its own skill and its own name; what is found under a
skill and a name is what was registered there last and not removed since; registering and
removing give the function that has to go; and the listings agree. A function that is registered
over another one takes its place in the listings, and a skill whose only function is removed
comes back at the end. -/
theorem after_remembers (changes : List (Change σ)) :
    (∀ s ∈ (after changes).skills.toList, s.functions.toList ≠ [] ∧
      ∀ f ∈ s.functions.toList, (after changes).skills.find? f.skillKey = some s ∧
        s.functions.find? f.nameKey = some f) ∧
    (∀ skill name f, (after changes).get? skill name = some f ↔ Stands changes skill name f) ∧
    (∀ f, ((after changes).register f).1 = (after changes).get? (some f.skill) f.name) ∧
    (∀ skill name, ((after changes).remove skill name).1 = (after changes).get? skill name) ∧
    Listed (after changes) ∧
    (∀ f g, (after changes).get? (some f.skill) f.name = some g →
      Replaces (after changes) g f ((after changes).register f).2) ∧
    ∀ skill name g f, (after changes).functionsIn (skill.getD "") = [g] →
      g.AnswersTo skill name → f.skillKey = skillKey (skill.getD "") →
        Returns (after changes) g ((after changes).remove skill name).2 f
          (((after changes).remove skill name).2.register f).2 := by
  have h := kept_after changes
  refine ⟨fun s hs => ⟨h.nonempty s hs, fun f hf => ⟨?_, Keyed.find?_key_of_mem hf⟩⟩,
    get?_after changes, fun f => fst_register _ f, fun skill name => fst_remove _ skill name,
    h.listed, fun f g => h.replaces, fun skill name g f => h.returns⟩
  rw [h.own s hs f hf]
  exact Keyed.find?_key_of_mem hs

/-- Other spellings of a skill and a name, and the global skill without a name. -/
theorem after_remembers_spellings :
    let body : Scope Unit → Variables → Run Unit Variables := fun _ vars => pure vars
    let trim : Function Unit := .bare "Text" "Trim" "" body
    let again : Function Unit := .bare "TEXT" "tRIM" "" body
    let echo : Function Unit := .bare "" "echo" "" body
    let c := after [.register trim, .register echo]
    c.get? (some again.skill) again.name = some trim ∧
      Replaces c trim again (c.register again).2 ∧
      c.functionsIn "" = [echo] ∧ echo.AnswersTo none "ECHO" ∧
      Returns c echo (c.remove none "ECHO").2 echo ((c.remove none "ECHO").2.register echo).2 := by
  intro body trim again echo c
  obtain ⟨-, hfound, -, -, hlisted, hreplaces, hreturns⟩ :=
    after_remembers [Change.register trim, .register echo]
  have hget : c.get? (some again.skill) again.name = some trim := by
    have hplace : trim.AnswersTo (some again.skill) again.name :=
      ⟨by decide +kernel, by decide +kernel⟩
    have hother : ¬echo.AnswersTo (some again.skill) again.name :=
      fun h => absurd h.2 (by decide +kernel)
    exact (hfound (some again.skill) again.name trim).2
      ⟨[], [.register echo], rfl, hplace, List.forall_mem_singleton.2 hother⟩
  have hskill : trim.skillKey ≠ echo.skillKey := by decide +kernel
  have hone : (empty.register trim).2.skills.toList = [⟨trim.skillKey, Keyed.empty.put trim⟩] :=
    toList_skills_register_of_none rfl
  have hnone : (empty.register trim).2.skills.find? echo.skillKey = none := by
    rw [Keyed.find?, hone, List.find?_cons_of_neg (by simpa using hskill), List.find?_nil]
  have htwo : c.skills.toList =
      [⟨trim.skillKey, Keyed.empty.put trim⟩, ⟨echo.skillKey, Keyed.empty.put echo⟩] := by
    have h := toList_skills_register_of_none hnone
    rwa [hone] at h
  have honly : c.functionsIn "" = [echo] := by
    have hkey : skillKey "" = echo.skillKey := rfl
    rw [hlisted.functionsIn, functions, htwo, hkey]
    simp [Keyed.place, hskill]
  have hecho : echo.AnswersTo none "ECHO" := ⟨rfl, by decide +kernel⟩
  exact ⟨hget, hreplaces again trim hget, honly, hecho,
    hreturns none "ECHO" echo echo honly hecho rfl⟩

end PromptPlan.Catalog
