import PromptPlan.Plan.Document
import PromptPlan.Proofs.Plan.Visits
import PromptPlan.Workspace

/-!
# Plans that are stored and restored

The document of a plan tells all of the plan but its functions and its time limits. Read with
a catalog that has the functions where the plan has them, it gives the plan without its time
limits: nothing else is lost at any node, however far the plan has come.

The functions stay where the catalog has them for as long as the plan is worked on, since no
step of the work changes a name or a function. So the plan can be stored whenever its owner
has it in hand. A workspace sets the time limits of a plan before it runs it, at all depths
and whatever they were, and then the plan that was restored is the one that was not.
-/

namespace PromptPlan

variable {σ : Type} {catalog : Catalog σ}

namespace Plan

/-! ### Time limits -/

theorem withTimeouts_eq_map (timeout : Option Nat) (steps : List (Plan σ)) :
    withTimeouts timeout steps = steps.map (withTimeout timeout) := by
  induction steps with
  | nil => rfl
  | cons step steps ih => rw [withTimeouts, ih, List.map_cons]

theorem withTimeout_group (timeout : Option Nat) (head : PlanHead) (past ahead : List (Plan σ)) :
    (Plan.group head past ahead).withTimeout timeout =
      .group { head with timeout := timeout } (past.map (withTimeout timeout))
        (ahead.map (withTimeout timeout)) := by
  rw [withTimeout, withTimeouts_eq_map, withTimeouts_eq_map]

/-- Of two time limits that are set, the later one holds. -/
theorem withTimeout_withTimeout (earlier later : Option Nat) (p : Plan σ) :
    (p.withTimeout earlier).withTimeout later = p.withTimeout later := by
  induction p using steps_induction with
  | call head function finished => rfl
  | group head past ahead ihpast ihahead =>
      rw [withTimeout_group, withTimeout_group, withTimeout_group, List.map_map, List.map_map]
      congr 1
      · exact List.map_congr_left ihpast
      · exact List.map_congr_left ihahead

theorem steps_withTimeout (timeout : Option Nat) (p : Plan σ) :
    (p.withTimeout timeout).steps = p.steps.map (withTimeout timeout) := by
  cases p with
  | call head function finished => rfl
  | group head past ahead => rw [withTimeout_group, steps, steps, List.map_append]

theorem node?_withTimeout (timeout : Option Nat) (position : Position) (p : Plan σ) :
    node? position (p.withTimeout timeout) = (node? position p).map (withTimeout timeout) := by
  induction position generalizing p with
  | nil => rfl
  | cons i position ih =>
      rw [node?_cons, node?_cons, steps_withTimeout, List.getElem?_map]
      cases p.steps[i]? with
      | none => rfl
      | some step => exact ih step

/-- Two nodes that are the same, except that the second has no time limit. -/
structure Untimed (node node' : Plan σ) : Prop where
  head_eq : node'.head = { node.head with timeout := none }
  isCall_eq : node'.isCall = node.isCall
  function?_eq : node'.function? = node.function?
  cursor_eq : node'.cursor = node.cursor
  stepCount_eq : node'.stepCount = node.stepCount

theorem untimed_withTimeout (p : Plan σ) : Untimed p (p.withTimeout none) := by
  cases p with
  | call head function finished => exact ⟨rfl, rfl, rfl, rfl, rfl⟩
  | group head past ahead =>
      rw [withTimeout_group]
      refine ⟨rfl, rfl, rfl, ?_, ?_⟩
      · rw [cursor, cursor, List.length_map]
      · rw [stepCount, stepCount, List.length_map, List.length_map]

theorem withTimeout_group_eq_iff {timeout : Option Nat} {head : PlanHead}
    {past ahead : List (Plan σ)} :
    (Plan.group head past ahead).withTimeout timeout = .group head past ahead ↔
      head.timeout = timeout ∧ past.map (withTimeout timeout) = past ∧
        ahead.map (withTimeout timeout) = ahead := by
  rw [withTimeout_group, group.injEq]
  have hhead : { head with timeout := timeout } = head ↔ head.timeout = timeout := by
    constructor
    · intro h
      exact (congrArg PlanHead.timeout h).symm
    · rintro rfl
      rfl
  rw [hhead]

/-- A time limit that holds at all depths is not changed by a commit. -/
theorem Commit.withTimeout_eq {position : Position} {p q : Plan σ} {timeout : Option Nat}
    (h : Commit position p q) (hp : p.withTimeout timeout = p) : q.withTimeout timeout = q := by
  induction h with
  | @self head function answer =>
      have hhead : timeout = head.timeout := congrArg (fun p => p.head.timeout) hp
      subst hhead
      rfl
  | @step head past rest step answer =>
      obtain ⟨hhead, hpast, hahead⟩ := withTimeout_group_eq_iff.1 hp
      obtain ⟨hstep, hrest⟩ := List.cons.inj hahead
      refine withTimeout_group_eq_iff.2 ⟨hhead, ?_, hrest⟩
      rw [List.map_append, hpast, List.map_singleton, hstep]
  | @within position head past rest step step' _ _ ih =>
      obtain ⟨hhead, hpast, hahead⟩ := withTimeout_group_eq_iff.1 hp
      obtain ⟨hstep, hrest⟩ := List.cons.inj hahead
      refine withTimeout_group_eq_iff.2 ⟨hhead, hpast, ?_⟩
      rw [List.map_cons, hrest, ih hstep]

theorem Leads.withTimeout_eq {p q : Plan σ} {attempts : List Attempt} {timeout : Option Nat}
    (h : Leads p attempts q) (hp : p.withTimeout timeout = p) : q.withTimeout timeout = q := by
  refine h.of_moves (motive := fun m => m.plan.withTimeout timeout = m.plan) ?_ hp
  intro m m' hmove hm
  cases hmove with
  | refused _ _ => exact hm
  | called _ _ h => exact h.withTimeout_eq hm
  | closed _ _ _ h => exact h.withTimeout_eq hm

/-! ### Functions that the catalog has -/

/-- Each call has the function that the catalog has under its skill and name, or none if the
catalog has none. -/
inductive BoundBy (catalog : Catalog σ) : Plan σ → Prop
  | call {head : PlanHead} {function : Option (Function σ)} {finished : Bool} :
      catalog.get? (some head.skill) head.name = function →
        BoundBy catalog (.call head function finished)
  | group {head : PlanHead} {past ahead : List (Plan σ)} :
      (∀ step ∈ past, BoundBy catalog step) → (∀ step ∈ ahead, BoundBy catalog step) →
        BoundBy catalog (.group head past ahead)

theorem BoundBy.commit {position : Position} {p q : Plan σ} (h : Commit position p q)
    (hp : BoundBy catalog p) : BoundBy catalog q := by
  induction h with
  | self =>
      -- the name that the function is found by is not part of the state
      cases hp with
      | call hfunction => exact .call hfunction
  | @step head past rest step answer =>
      cases hp with
      | group hpast hahead =>
          refine .group ?_ fun s hs => hahead s (List.mem_cons_of_mem step hs)
          intro s hs
          rcases List.mem_append.1 hs with hs | hs
          · exact hpast s hs
          · obtain rfl := List.mem_singleton.1 hs
            exact hahead s (by simp)
  | @within position head past rest step step' _ _ ih =>
      cases hp with
      | group hpast hahead =>
          refine .group hpast ?_
          intro s hs
          rcases List.mem_cons.1 hs with rfl | hs
          · exact ih (hahead step (by simp))
          · exact hahead s (List.mem_cons_of_mem step hs)

theorem BoundBy.move {m m' : Moment σ} (h : Move m m') (hm : BoundBy catalog m.plan) :
    BoundBy catalog m'.plan := by
  cases h with
  | refused _ _ => exact hm
  | called _ _ h => exact hm.commit h
  | closed _ _ _ h => exact hm.commit h

/-- Whatever visits a plan gets, its functions stay those of the catalog. -/
theorem BoundBy.leftBy {p : Plan σ} (h : BoundBy catalog p) (visits : List (Visit σ)) :
    BoundBy catalog (p.leftBy visits) := by
  induction visits generalizing p with
  | nil => exact h
  | cons visit visits ih =>
      have hmoves : Leads p (visit.attempts p) (visit.left p) := (advances_visit visit p).leads
      have hleft : BoundBy catalog (visit.left p) :=
        hmoves.of_moves (fun _ _ hmove hbefore => BoundBy.move hmove hbefore) h
      exact ih hleft

theorem BoundBy.withTimeout {p : Plan σ} (h : BoundBy catalog p) (timeout : Option Nat) :
    BoundBy catalog (p.withTimeout timeout) := by
  induction h with
  | call hfunction => exact .call hfunction
  | @group head past ahead _ _ ihpast ihahead =>
      rw [withTimeout_group]
      refine .group ?_ ?_
      · rintro _ hs
        obtain ⟨step, hstep, rfl⟩ := List.mem_map.1 hs
        exact ihpast step hstep
      · rintro _ hs
        obtain ⟨step, hstep, rfl⟩ := List.mem_map.1 hs
        exact ihahead step hstep

/-! ### Documents -/

theorem ofPlans_eq_map (steps : List (Plan σ)) :
    Document.ofPlans steps = steps.map Document.ofPlan := by
  induction steps with
  | nil => rfl
  | cons step steps ih => rw [Document.ofPlans, ih, List.map_cons]

theorem toPlans_map {f : Plan σ → Document} {g : Plan σ → Plan σ} {steps : List (Plan σ)}
    (h : ∀ step ∈ steps, (f step).toPlan (some catalog) = .ok (g step)) :
    Document.toPlans (some catalog) (steps.map f) = .ok (steps.map g) := by
  induction steps with
  | nil => rfl
  | cons step steps ih =>
      have hrest := ih fun s hs => h s (List.mem_cons_of_mem step hs)
      rw [List.map_cons, Document.toPlans, h step (by simp), hrest]
      rfl

/-- The document of a plan is read as the plan without its time limits. -/
theorem toPlan_ofPlan {p : Plan σ} (h : BoundBy catalog p) :
    (Document.ofPlan p).toPlan (some catalog) = .ok (p.withTimeout none) := by
  induction h with
  | @call head function finished hfunction =>
      rw [Document.ofPlan, Document.toPlan]
      cases finished <;> simp [withTimeout, hfunction] <;> rfl
  | @group head past ahead _ _ ihpast ihahead =>
      have hsteps : Document.toPlans (some catalog) ((past ++ ahead).map Document.ofPlan) =
          .ok ((past ++ ahead).map (Plan.withTimeout none)) := by
        refine toPlans_map fun step hstep => ?_
        rcases List.mem_append.1 hstep with hstep | hstep
        · exact ihpast step hstep
        · exact ihahead step hstep
      rw [Document.ofPlan, ofPlans_eq_map, ofPlans_eq_map, ← List.map_append, Document.toPlan,
        hsteps, withTimeout_group]
      -- the cursor is within the steps, and cuts them where the plan had cut them
      have hcursor : ¬((past ++ ahead).map (Plan.withTimeout none)).length < past.length := by
        simp
      have htake : ((past ++ ahead).map (Plan.withTimeout none)).take past.length =
          past.map (Plan.withTimeout none) := by
        rw [List.map_append, List.take_left' (by simp)]
      have hdrop : ((past ++ ahead).map (Plan.withTimeout none)).drop past.length =
          ahead.map (Plan.withTimeout none) := by
        rw [List.map_append, List.drop_left' (by simp)]
      rw [← htake, ← hdrop]
      exact if_neg hcursor

end Plan

/-! ### Going on -/

/-- The visit that a workspace pays to a plan when it runs it. -/
def Workspace.visit (ws : Workspace σ) (vars : Variables) (limits : Limits) (w : World σ) :
    Visit σ :=
  ⟨.drain false vars, ws.scope, limits, w⟩

/-- The attempts that a workspace makes when it runs a plan. -/
def Workspace.attempts (ws : Workspace σ) (p : Plan σ) (vars : Variables) (limits : Limits)
    (w : World σ) : List Attempt :=
  (ws.visit vars limits w).attempts (p.withTimeout ws.settings.plan.stepTimeout)

theorem Workspace.runPlan_eq_perform (ws : Workspace σ) (p : Plan σ) (vars : Variables)
    (limits : Limits) (w : World σ) :
    ws.runPlan p vars limits w =
      (ws.visit vars limits w).perform (p.withTimeout ws.settings.plan.stepTimeout) := rfl

namespace Plan

/-- **A plan goes on where it was stored.** Let a plan be bound by a catalog, and let it get
any visits. What they leave can be stored, and is read with the catalog as a plan that is the
same at every node but for the time limits, and is bound by the catalog again. A workspace
that goes on with the plan that was read makes the same attempts as with the plan that was
stored, ends in the same way, in the same world, and leaves the same plan. -/
theorem resumed {p : Plan σ} (h : BoundBy catalog p) (visits : List (Visit σ)) :
    let stored := p.leftBy visits
    ∃ restored, (Document.ofPlan stored).toPlan (some catalog) = .ok restored ∧
      (∀ position, Option.Rel Untimed (node? position stored) (node? position restored)) ∧
      BoundBy catalog restored ∧
      ∀ (ws : Workspace σ) (vars : Variables) (limits : Limits) (w : World σ),
        ws.attempts restored vars limits w = ws.attempts stored vars limits w ∧
          ws.runPlan restored vars limits w = ws.runPlan stored vars limits w := by
  intro stored
  have hstored : BoundBy catalog stored := h.leftBy visits
  refine ⟨_, toPlan_ofPlan hstored, ?_, hstored.withTimeout none, ?_⟩
  · intro position
    rw [node?_withTimeout]
    cases node? position stored with
    | none => exact .none
    | some node => exact .some (untimed_withTimeout node)
  · -- the time limits of the workspace take the place of those that were lost
    intro ws vars limits w
    constructor
    · rw [Workspace.attempts, Workspace.attempts, withTimeout_withTimeout]
    · rw [Workspace.runPlan_eq_perform, Workspace.runPlan_eq_perform, withTimeout_withTimeout]

/-- A plan with an unbound step, stored after its first step. -/
theorem resumed_halfway :
    let f : Function Unit := .native "Writing" "Upper" "" [] fun _ vars => pure (vars.setInput "a")
    let catalog : Catalog Unit := (Catalog.empty.register f).2
    let lost : Plan Unit := .call (.fresh "writing" "Lower" "") none false
    let p := (ofSteps "goal" [ofSteps "inner" [ofFunction f, lost], ofFunction f]).withTimeout
      (some 5)
    let visits : List (Visit Unit) := [⟨.next .empty, fun _ _ => none, .none, .start ()⟩]
    BoundBy catalog p ∧ (node? [0] (p.leftBy visits)).map cursor = some 1 ∧
      ∃ restored, (Document.ofPlan (p.leftBy visits)).toPlan (some catalog) = .ok restored ∧
        (∀ position,
          Option.Rel Untimed (node? position (p.leftBy visits)) (node? position restored)) ∧
        ∀ (ws : Workspace Unit) vars limits w,
          ws.runPlan restored vars limits w = ws.runPlan (p.leftBy visits) vars limits w := by
  intro f catalog lost p visits
  have hfound : catalog.get? (some "Writing") "Upper" = some f :=
    Catalog.get?_register_of_answersTo _ ⟨rfl, rfl⟩
  have hlost : catalog.get? (some "writing") "Lower" = none := by
    refine Catalog.get?_register_of_not_answersTo _ fun h => absurd h.2 ?_
    decide +kernel
  have hp : BoundBy catalog p := by
    refine BoundBy.withTimeout (.group (by simp) ?_) _
    intro step hstep
    rcases List.mem_pair.1 hstep with rfl | rfl
    · refine .group (by simp) fun s hs => ?_
      rcases List.mem_pair.1 hs with rfl | rfl
      · exact .call hfound
      · exact .call hlost
    · exact .call hfound
  obtain ⟨restored, hread, hnodes, _, hgo⟩ := resumed hp visits
  exact ⟨hp, by decide +kernel, restored, hread, hnodes,
    fun ws vars limits w => (hgo ws vars limits w).2⟩

end Plan

end PromptPlan
