import Mathlib.Data.List.TakeWhile
import PromptPlan.Plan.Answer

/-!
# What becomes of a planner's answer

A planner writes what it likes around its choice, and all of it is ignored as long as it has no
opening brace in front of the object and no closing one behind it. The object is cut out of the
answer from the first opening brace to the last closing one, so braces inside it, in nested
objects or in texts, do not matter.

An answer has one of three outcomes. It holds no choice, because there is no object or because
the object is not read as one: then planning has failed. It holds a choice of a function that the
catalog does not have: then that is the failure. Or it becomes a fresh plan for the goal, with no
step if no function was named, and else with a single step that calls the function and has the
parameters that were chosen, written one after another.
-/

namespace PromptPlan

/-! ### The object in an answer -/

/-- What is left of a text once all in front of the first `x` is dropped. -/
theorem dropWhile_ne_eq_cons_iff {x y : Char} {s rest : List Char} :
    s.dropWhile (· ≠ x) = y :: rest ↔ y = x ∧ ∃ before, x ∉ before ∧ s = before ++ x :: rest := by
  constructor
  · intro h
    have hhead := List.head?_dropWhile_not (· ≠ x) s
    have hsplit := List.takeWhile_append_dropWhile (p := (· ≠ x)) (l := s)
    rw [h] at hhead hsplit
    obtain rfl : y = x := by simpa using hhead
    refine ⟨rfl, s.takeWhile (· ≠ y), fun hy => ?_, hsplit.symm⟩
    simpa using List.mem_takeWhile_imp hy
  · rintro ⟨rfl, before, hbefore, rfl⟩
    rw [List.dropWhile_append_of_pos]
    · simp
    · intro c hc
      simpa using ne_of_mem_of_not_mem hc hbefore

/-- A text that starts with an opening brace and ends with a closing one. -/
def Framed (s : List Char) : Prop :=
  s.head? = some '{' ∧ s.getLast? = some '}'

theorem framed_iff {s : List Char} : Framed s ↔ ∃ inside, s = '{' :: (inside ++ ['}']) := by
  constructor
  · rintro ⟨hhead, hlast⟩
    obtain ⟨rest, rfl⟩ := List.head?_eq_some_iff.1 hhead
    rcases List.eq_nil_or_concat rest with rfl | ⟨inside, c, rfl⟩
    · cases hlast
    · rw [List.concat_eq_append] at hlast ⊢
      rw [← List.cons_append, List.getLast?_concat] at hlast
      obtain rfl : c = '}' := Option.some.inj hlast
      exact ⟨inside, rfl⟩
  · rintro ⟨inside, rfl⟩
    refine ⟨rfl, ?_⟩
    rw [← List.cons_append, List.getLast?_concat]

/-- The part that is cut out is the one between texts that have no opening brace in front and
no closing brace behind. -/
theorem braced?_eq_some_iff {s object : List Char} :
    braced? s = some object ↔ ∃ before after,
      s = before ++ object ++ after ∧ Framed object ∧ '{' ∉ before ∧ '}' ∉ after := by
  constructor
  · intro h
    rw [braced?] at h
    split at h
    · cases h
    · rename_i first rest hfirst
      obtain ⟨rfl, before, hbefore, rfl⟩ := dropWhile_ne_eq_cons_iff.1 hfirst
      cases hlast : rest.reverse.dropWhile (· ≠ '}') with
      | nil =>
          rw [hlast] at h
          cases h
      | cons last inside =>
          obtain ⟨rfl, after, hafter, hrest⟩ := dropWhile_ne_eq_cons_iff.1 hlast
          have hobject : object = '{' :: (inside.reverse ++ ['}']) := by
            rw [hlast, List.reverse_cons] at h
            split at h
            · cases h
            · exact (Option.some.inj h).symm
          refine ⟨before, after.reverse, ?_, framed_iff.2 ⟨_, hobject⟩, hbefore,
            by simpa using hafter⟩
          rw [← List.reverse_reverse rest, hrest, hobject]
          simp
  · rintro ⟨before, after, rfl, hobject, hbefore, hafter⟩
    obtain ⟨inside, rfl⟩ := framed_iff.1 hobject
    have hfirst : (before ++ '{' :: (inside ++ ['}']) ++ after).dropWhile (· ≠ '{') =
        '{' :: (inside ++ '}' :: after) :=
      dropWhile_ne_eq_cons_iff.2 ⟨rfl, before, hbefore, by simp⟩
    have hlast : (inside ++ '}' :: after).reverse.dropWhile (· ≠ '}') = '}' :: inside.reverse :=
      dropWhile_ne_eq_cons_iff.2 ⟨rfl, after.reverse, by simpa using hafter, by simp⟩
    rw [braced?, hfirst]
    dsimp only
    rw [hlast, List.reverse_cons, List.reverse_reverse]
    split
    · rename_i hnil
      exact absurd hnil (by simp)
    · rfl

/-- The choice that an answer holds. -/
def Holds (answer : String) (choice : Choice) : Prop :=
  ∃ before object after, answer = before ++ object ++ after ∧ Framed object.toList ∧
    '{' ∉ before.toList ∧ '}' ∉ after.toList ∧ Json.decodeText Choice.decode object = .ok choice

theorem holds_iff {answer : String} {choice : Choice} :
    Holds answer choice ↔ ∃ object, braced? answer.toList = some object ∧
      Json.decodeText Choice.decode (String.ofList object) = .ok choice := by
  constructor
  · rintro ⟨before, object, after, rfl, hobject, hbefore, hafter, hread⟩
    refine ⟨object.toList, braced?_eq_some_iff.2 ⟨before.toList, after.toList, ?_, hobject,
      hbefore, hafter⟩, by rwa [String.ofList_toList]⟩
    rw [String.toList_append, String.toList_append]
  · rintro ⟨object, hbraced, hread⟩
    obtain ⟨before, after, hsplit, hobject, hbefore, hafter⟩ := braced?_eq_some_iff.1 hbraced
    refine ⟨.ofList before, .ofList object, .ofList after, ?_, ?_, ?_, ?_, hread⟩
    · rw [← String.toList_inj, hsplit]
      simp
    · rwa [String.toList_ofList]
    · rwa [String.toList_ofList]
    · rwa [String.toList_ofList]

/-! ### Parameters -/

/-- The text that a parameter is set to, unless its value is null: a text as it is, and any other
value as JSON text. -/
def assigned? : Json → Option String
  | .null => none
  | .string s => some s
  | j => some j.sorted.write

/-- The parameters of a choice that are set, in order. Of members with one and the same name, the
choice has the value of the last in the place of the first. -/
def Choice.assigned (choice : Choice) : List (String × String) :=
  choice.parameters.filterMap fun p => (assigned? p.2).map fun value => (p.1, value)

theorem passChosen_eq (vars : Variables) (p : String × Json) :
    passChosen vars p = ((assigned? p.2).map (vars.set p.1)).getD vars := by
  obtain ⟨name, j⟩ := p
  cases j <;> rfl

theorem foldl_passChosen (choice : Choice) :
    choice.parameters.foldl passChosen .empty = .ofPairs choice.assigned := by
  rw [Variables.ofPairs, Variables.setAll, Choice.assigned, List.foldl_filterMap]
  congr 1
  funext vars p
  rw [passChosen_eq]
  cases assigned? p.2 <;> rfl

/-! ### Outcomes -/

variable {σ : Type}

/-- The plan for a goal whose only step calls a function with the given parameters. -/
def Plan.ofChosen (goal : String) (f : Function σ) (parameters : Variables) : Plan σ :=
  .ofSteps goal [.call { PlanHead.fresh f.skill f.name f.description with
    parameters := parameters } (some f) false]

theorem Catalog.exists_of_resolveReference_eq_error {catalog : Catalog σ} {reference : String}
    {e : Error} (h : catalog.resolveReference reference = .error e) :
    ∃ name context, e = .unknownFunction name context := by
  rw [resolveReference, resolve] at h
  split at h
  · cases h
  · cases h
    exact ⟨_, _, rfl⟩

variable (goal : String) (catalog : Catalog σ)

/-- What is not cut out of an answer makes no difference. -/
theorem ofAnswer_congr {answer other : String} {object : List Char}
    (hanswer : braced? answer.toList = some object) (hother : braced? other.toList = some object) :
    Plan.ofAnswer goal answer catalog = Plan.ofAnswer goal other catalog := by
  rw [Plan.ofAnswer, Plan.ofAnswer, hanswer, hother]

/-- What can become of an answer. -/
inductive Outcome (answer : String) : Result (Plan σ) → Prop
  | idle {choice : Choice} (holds : Holds answer choice)
      (blank : Text.trim choice.function = "") : Outcome answer (.ok (.ofSteps goal []))
  | chosen {choice : Choice} {f : Function σ} (holds : Holds answer choice)
      (named : Text.trim choice.function ≠ "")
      (found : catalog.resolveReference (Text.trim choice.function) = .ok f) :
      Outcome answer (.ok (.ofChosen goal f (.ofPairs choice.assigned)))
  | unknown {choice : Choice} {name : String} {context : Option String}
      (holds : Holds answer choice) (named : Text.trim choice.function ≠ "")
      (missing : catalog.resolveReference (Text.trim choice.function) =
        .error (.unknownFunction name context)) :
      Outcome answer (.error (.unknownFunction name context))
  | refused {message : String} {context : Option String}
      (noChoice : ∀ choice, ¬Holds answer choice) :
      Outcome answer (.error (.planning message context))

theorem outcome_of_holds {answer : String} {choice : Choice} (hholds : Holds answer choice) :
    Outcome goal catalog answer (Plan.ofAnswer goal answer catalog) := by
  obtain ⟨object, hbraced, hread⟩ := holds_iff.1 hholds
  rw [Plan.ofAnswer, hbraced]
  dsimp only
  rw [hread]
  dsimp only
  rw [foldl_passChosen]
  by_cases hblank : Text.trim choice.function = ""
  · rw [if_pos (by rw [hblank]; rfl)]
    exact .idle hholds hblank
  · rw [if_neg (by rwa [String.isEmpty_iff])]
    cases hfound : catalog.resolveReference (Text.trim choice.function) with
    | ok f => exact .chosen hholds hblank hfound
    | error e =>
        obtain ⟨name, context, rfl⟩ := Catalog.exists_of_resolveReference_eq_error hfound
        exact .unknown hholds hblank hfound

theorem outcome_of_not_holds {answer : String} (hnone : ∀ choice, ¬Holds answer choice) :
    Outcome goal catalog answer (Plan.ofAnswer goal answer catalog) := by
  rw [Plan.ofAnswer]
  cases hbraced : braced? answer.toList with
  | none => exact .refused hnone
  | some object =>
      dsimp only
      cases hread : Json.decodeText Choice.decode (String.ofList object) with
      | error message => exact .refused hnone
      | ok choice => exact absurd (holds_iff.2 ⟨object, hbraced, hread⟩) (hnone choice)

theorem outcome (answer : String) :
    Outcome goal catalog answer (Plan.ofAnswer goal answer catalog) := by
  by_cases hsome : ∃ choice, Holds answer choice
  · obtain ⟨choice, hholds⟩ := hsome
    exact outcome_of_holds goal catalog hholds
  · exact outcome_of_not_holds goal catalog (not_exists.1 hsome)

/-- **Plans from answers.** What stands around the object in an answer makes no difference, as
long as there is no opening brace in front of it and no closing one behind. A plan that comes of
an answer is a fresh one for the goal, and for the choice in the answer: it has no step if the
choice names no function, and else one that calls the function of that name, with the parameters
that the choice sets, one after another. There is no plan only if the catalog lacks the function,
which is then the failure, or if the answer holds no choice, and then planning has failed. -/
theorem ofAnswer_of_any :
    (∀ before object after : String,
      Framed object.toList → '{' ∉ before.toList → '}' ∉ after.toList →
        Plan.ofAnswer goal (before ++ object ++ after) catalog =
          Plan.ofAnswer goal object catalog) ∧
      (∀ answer p, Plan.ofAnswer goal answer catalog = .ok p →
        p.isCall = false ∧ p.head.description = goal ∧ p.head.state = .empty ∧ p.cursor = 0 ∧
          ∃ choice, Holds answer choice ∧
            (Text.trim choice.function = "" ∧ p.steps = [] ∨
              Text.trim choice.function ≠ "" ∧ ∃ f step,
                catalog.resolveReference (Text.trim choice.function) = .ok f ∧ p.steps = [step] ∧
                  step.isCall = true ∧ step.cursor = 0 ∧ step.function? = some f ∧
                  step.head = { PlanHead.fresh f.skill f.name f.description with
                    parameters := .ofPairs choice.assigned })) ∧
      ∀ answer e, Plan.ofAnswer goal answer catalog = .error e →
        (∃ name context, e = .unknownFunction name context ∧
          ∃ choice, Holds answer choice ∧ Text.trim choice.function ≠ "" ∧
            catalog.resolveReference (Text.trim choice.function) = .error e) ∨
          (∃ message context, e = .planning message context ∧ ∀ choice, ¬Holds answer choice) := by
  refine ⟨?_, ?_, ?_⟩
  · intro before object after hobject hbefore hafter
    refine ofAnswer_congr goal catalog (braced?_eq_some_iff.2 ⟨_, _, ?_, hobject, hbefore, hafter⟩)
      (braced?_eq_some_iff.2 ⟨[], [], ?_, hobject, List.not_mem_nil, List.not_mem_nil⟩)
    · rw [String.toList_append, String.toList_append]
    · rw [List.nil_append, List.append_nil]
  · intro answer p hp
    have h := outcome goal catalog answer
    rw [hp] at h
    cases h with
    | idle holds blank => exact ⟨rfl, rfl, rfl, rfl, _, holds, .inl ⟨blank, rfl⟩⟩
    | chosen holds named found =>
        exact ⟨rfl, rfl, rfl, rfl, _, holds, .inr ⟨named, _, _, found, rfl, rfl, rfl, rfl, rfl⟩⟩
  · intro answer e he
    have h := outcome goal catalog answer
    rw [he] at h
    cases h with
    | unknown holds named missing => exact .inl ⟨_, _, rfl, _, holds, named, missing⟩
    | refused noChoice => exact .inr ⟨_, _, rfl, noChoice⟩

/-- Braces in the object and a name in two spellings, with words around it. -/
example :
    let draft : Function Unit := .bare "Writer" "Draft" "" fun _ vars => pure vars
    let answer := "Sure:\n\x7b\"plan\": \x7b\"function\": \" writer.draft \", \"parameters\": " ++
      "\x7b\"tone\": \"\x7ddry\x7b\", \"Tone\": [1, null], \"skip\": null\x7d\x7d\x7d\nDone \x7b"
    ((Plan.ofAnswer "goal" answer (Catalog.empty.register draft).2).toOption.map fun p =>
      p.steps.map fun step => step.head.parameters.pairs) =
        some [[("Tone", "[1,null]")]] := by
  decide +kernel

end PromptPlan
