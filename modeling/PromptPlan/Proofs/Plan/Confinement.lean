import PromptPlan.Proofs.Plan.Twins
import PromptPlan.Proofs.Plan.Visits

/-!
# What functions keep to themselves

A function gets variables of its own, and may do with them what it likes. Of the variables
that it returns a plan takes the main slot and the outputs that the step declares. The rest
stays with the function: whoever runs the plan cannot tell two functions apart that differ in
nothing else. Neither can the state of the plan, at any depth, nor a later step, which is
called with the same variables after the one as after the other.

This is said of two runs. Twins are run in the same world, and the calls that they make are
read off their journals. Wrapped twins are twins again, on hosts whose journals ask for the
same calls, so that the journals are compared by running the wrapped twins side by side.
-/

namespace PromptPlan

variable {σ σ' : Type} {R : σ → σ' → Prop} {scope : Scope σ} {scope' : Scope σ'}

/-- What an attempt asked for: the position of the call, and what its function received. -/
def Attempt.asked (attempt : Attempt) : Position × Variables :=
  (attempt.position, attempt.received)

/-- Hosts that are related, with journals of attempts that asked for the same. -/
structure AskedAlike (R : σ → σ' → Prop) (host : Journaled σ Attempt)
    (host' : Journaled σ' Attempt) : Prop where
  hosts : R host.host host'.host
  asked_eq : host'.journal.map Attempt.asked = host.journal.map Attempt.asked

theorem World.Paired.bare {w : World (Journaled σ Attempt)} {w' : World (Journaled σ' Attempt)}
    (h : w.Paired (AskedAlike R) w') : w.bare.Paired R w'.bare := by
  obtain ⟨hhost⟩ := h
  exact .mk hhost.hosts

theorem World.Paired.journaled {w : World σ} {w' : World σ'} (h : w.Paired R w')
    {journal journal' : List Attempt}
    (hjournal : journal'.map Attempt.asked = journal.map Attempt.asked) :
    (w.journaled journal).Paired (AskedAlike R) (w'.journaled journal') := by
  obtain ⟨hhost⟩ := h
  exact .mk ⟨hhost, hjournal⟩

theorem World.Paired.journal_eq {w : World (Journaled σ Attempt)}
    {w' : World (Journaled σ' Attempt)} (h : w.Paired (AskedAlike R) w') :
    w'.host.journal.map Attempt.asked = w.host.journal.map Attempt.asked := by
  obtain ⟨hhost⟩ := h
  exact hhost.asked_eq

/-- Functions that are alike are alike when they are wrapped. -/
theorem Function.Alike.noted {outputs : List String} {f : Function σ} {f' : Function σ'}
    (h : f.Alike R scope scope' outputs f') (place : Position)
    (outer : Scope (Journaled σ Attempt)) (outer' : Scope (Journaled σ' Attempt)) :
    (f.noted scope place).Alike (AskedAlike R) outer outer' outputs (f'.noted scope' place) where
  parameters_eq := h.parameters_eq
  ended_eq := fun vars limits _ _ hw => h.ended_eq vars limits _ _ hw.bare
  world := by
    intro vars limits w w' hw
    refine (h.world vars limits _ _ hw.bare).journaled ?_
    simp [Attempt.asked, hw.journal_eq]

namespace Plan

theorem twins_notedFrom {steps : List (Plan σ)} {outer : Scope (Journaled σ Attempt)}
    {outer' : Scope (Journaled σ' Attempt)} {place : Position}
    (hsteps : ∀ step ∈ steps, ∀ place step', Twins R scope scope' step step' →
      Twins (AskedAlike R) outer outer' (step.noted scope place) (step'.noted scope' place))
    {steps' : List (Plan σ')} (h : List.Forall₂ (Twins R scope scope') steps steps') (i : Nat) :
    List.Forall₂ (Twins (AskedAlike R) outer outer') (notedFrom scope place i steps)
      (notedFrom scope' place i steps') := by
  induction h generalizing i with
  | nil => exact .nil
  | @cons step step' rest rest' hstep _ ih =>
      rw [notedFrom, notedFrom]
      exact .cons (hsteps step (by simp) _ step' hstep)
        (ih (fun s hs => hsteps s (List.mem_cons_of_mem step hs)) (i + 1))

/-- Twins are twins when their functions are wrapped. -/
theorem twins_noted (outer : Scope (Journaled σ Attempt)) (outer' : Scope (Journaled σ' Attempt))
    (p : Plan σ) : ∀ place p', Twins R scope scope' p p' →
      Twins (AskedAlike R) outer outer' (p.noted scope place) (p'.noted scope' place) := by
  induction p using steps_induction with
  | call head function finished =>
      intro place p' h
      cases h with
      | unbound => exact .unbound
      | bound h => exact .bound (h.noted place outer outer')
  | group head past ahead ihpast ihahead =>
      intro place p' h
      cases h with
      | group hpast hahead =>
          -- as many steps are done in both, so the steps ahead have the same positions
          rw [noted, noted, ← hpast.length_eq]
          exact .group (twins_notedFrom ihpast hpast 0) (twins_notedFrom ihahead hahead _)

theorem together_perform {p : Plan σ} {p' : Plan σ'} (h : Twins R scope scope' p p')
    (operation : Operation) (limits : Limits) {w : World σ} {w' : World σ'}
    (hw : w.Paired R w') :
    Together R scope scope' Eq (operation.perform scope p limits w)
      (operation.perform scope' p' limits w') := by
  cases operation with
  | drain cancellable caller => exact together_run h cancellable caller limits hw
  | next caller =>
      obtain ⟨hexit, hleft, hworld⟩ := together_runNext h caller limits hw
      exact ⟨congrArg (Exit.map fun _ => caller) hexit, hleft, hworld⟩

/-- What a node shows of its progress: its head, with the state, and its cursor. -/
def progress (p : Plan σ) : PlanHead × Nat :=
  (p.head, p.cursor)

theorem Twins.progress_eq {p : Plan σ} {p' : Plan σ'} (h : Twins R scope scope' p p') :
    p'.progress = p.progress := by
  cases h with
  | unbound => rfl
  | bound _ => rfl
  | group hpast _ => simp [progress, head, cursor, hpast.length_eq]

theorem Twins.steps {p : Plan σ} {p' : Plan σ'} (h : Twins R scope scope' p p') :
    List.Forall₂ (Twins R scope scope') p.steps p'.steps := by
  cases h with
  | unbound => exact .nil
  | bound _ => exact .nil
  | group hpast hahead => exact List.rel_append hpast hahead

theorem rel_getElem?_of_forall₂ {α β : Type} {r : α → β → Prop} {l : List α} {l' : List β}
    (h : List.Forall₂ r l l') (i : Nat) : Option.Rel r l[i]? l'[i]? := by
  induction h generalizing i with
  | nil => exact .none
  | cons h _ ih =>
      cases i with
      | zero => exact .some h
      | succ i => exact ih i

theorem Twins.map_progress_node? {p : Plan σ} {p' : Plan σ'} (h : Twins R scope scope' p p')
    (position : Position) :
    (node? position p').map progress = (node? position p).map progress := by
  induction position generalizing p p' with
  | nil => exact congrArg some h.progress_eq
  | cons i position ih =>
      rw [node?_cons, node?_cons]
      have hsteps := rel_getElem?_of_forall₂ h.steps i
      generalize p.steps[i]? = step at hsteps
      generalize p'.steps[i]? = step' at hsteps
      cases hsteps with
      | none => rfl
      | some hstep => exact ih hstep

/-- **What a step does not declare is not seen.** Twins that are performed in paired worlds end
in the same way, with the same variables. They call the same functions with the same
variables, in the same order, and show the same progress at every node. They are twins again,
so whoever comes back to them cannot tell them apart either. -/
theorem confined {p : Plan σ} {p' : Plan σ'} (h : Twins R scope scope' p p')
    (operation : Operation) (limits : Limits) {w : World σ} {w' : World σ'}
    (hw : w.Paired R w') :
    let visit : Visit σ := ⟨operation, scope, limits, w⟩
    let visit' : Visit σ' := ⟨operation, scope', limits, w'⟩
    (visit'.perform p').1 = (visit.perform p).1 ∧
      (visit'.attempts p').map Attempt.asked = (visit.attempts p).map Attempt.asked ∧
      (∀ position, (node? position (visit'.left p')).map progress =
        (node? position (visit.left p)).map progress) ∧
      Twins R scope scope' (visit.left p) (visit'.left p') ∧
      (visit.perform p).2.2.Paired R (visit'.perform p').2.2 := by
  intro visit visit'
  have hran := together_perform h operation limits hw
  have hnoted : Twins (AskedAlike R) (fun _ _ => none) (fun _ _ => none) (p.noted scope [])
      (p'.noted scope' []) := twins_noted _ _ p [] p' h
  -- the wrapped twins are run as well, and what is asked for is in their journals
  have hjournal : (w.journaled []).Paired (AskedAlike R) (w'.journaled []) := hw.journaled rfl
  have hattempts := (together_perform hnoted operation limits hjournal).world.journal_eq
  exact ⟨hran.exit.symm, hattempts, hran.left.map_progress_node?, hran.left, hran.world⟩

/-- A function that leaves a secret behind, in a group and where a parameter asks for it. -/
theorem confined_secret :
    let discreet : Function Unit := .bare "" "f" "" fun _ vars => pure (vars.set "note" "n")
    let leaky : Function Unit := .bare "" "f" "" fun _ vars =>
      pure ((vars.set "note" "n").set "secret" "s")
    let plan (f : Function Unit) : Plan Unit :=
      let step := (ofFunction f).withOutputs ["note"]
      let inner := (ofSteps "inner" [step]).withOutputs ["note"]
      ofSteps "outer" [inner, step.withParameters [("x", "$secret-$note")]]
    let visit : Visit Unit := ⟨.drain false .empty, fun _ _ => none, .none, .start ()⟩
    Twins Eq visit.scope visit.scope (plan discreet) (plan leaky) ∧
      (visit.attempts (plan leaky)).map (fun attempt => attempt.received.get? "x") =
        [none, some "-n"] ∧
      (visit.perform (plan leaky)).1 = (visit.perform (plan discreet)).1 ∧
      (visit.attempts (plan leaky)).map Attempt.asked =
        (visit.attempts (plan discreet)).map Attempt.asked := by
  intro discreet leaky plan visit
  have halike : discreet.Alike Eq visit.scope visit.scope ["note"] leaky := by
    refine ⟨rfl, ?_, ?_⟩
    · intro vars limits w w' hw
      obtain rfl := World.paired_eq_iff.1 hw
      refine congrArg Exit.done (Variables.passedOn_eq_iff.2 ⟨?_, ?_⟩)
      · have hslot : Text.lower "secret" ≠ Text.lower mainSlot := by decide +kernel
        simp only [Variables.input, Variables.get?_set, if_neg hslot]
      · intro output houtput
        have hname : Text.lower "secret" ≠ Text.lower output := by
          rw [List.mem_singleton.1 houtput]
          decide +kernel
        simp only [Variables.filled?, Variables.get?_set, if_neg hname]
    · intro vars limits w w' hw
      obtain rfl := World.paired_eq_iff.1 hw
      exact .mk rfl
  have htwins : Twins Eq visit.scope visit.scope (plan discreet) (plan leaky) :=
    .group .nil (.cons (.group .nil (.cons (.bound halike) .nil)) (.cons (.bound halike) .nil))
  have hworld : visit.world.Paired Eq visit.world := World.paired_eq_iff.2 rfl
  have h := confined htwins visit.operation visit.limits hworld
  exact ⟨htwins, by decide +kernel, h.1, h.2.1⟩

end Plan

end PromptPlan
