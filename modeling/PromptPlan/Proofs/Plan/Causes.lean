import PromptPlan.Proofs.Plan.Course

/-!
# Where a failure comes from

A run that fails has got to a pause from which it could not go on, because the step that came
next failed there. If that step is a group, it has in turn got to a pause in its own run, and so
on down to a step that failed of itself: it has no function, its function gave up, or its time
ran out (`Cause`). So there is a position at which the run failed, with a cause (`Fault`).

Each level of the tree names the step it was at, and no level looks at what comes from further
in. The failure of the run is therefore the cause with the names of the steps on the way to the
position put in front of it, the outermost first (`path_of_failure`). A plan that is a call by
itself stands in for its only step. The names are those in the plan that was run, since running
a plan changes no name.
-/

namespace PromptPlan

variable {σ α : Type}

/-! ### Names in front of a failure -/

namespace Error

/-- A failure with the names of steps in front of it, the outermost first. -/
def inSteps (names : List String) (e : Error) : Error :=
  names.foldr planStep e

theorem rootCause_inSteps (names : List String) (e : Error) :
    (e.inSteps names).rootCause = e.rootCause := by
  induction names with
  | nil => rfl
  | cons name names ih => exact ih

/-- Whether a failure names a function or a step. -/
def isNamed : Error → Bool
  | raised .. | within .. | planStep .. => true
  | _ => false

theorem inFunction_of_isNamed {e : Error} (h : e.isNamed = true) (name : String) :
    e.inFunction name = e := by
  cases e <;> first | rfl | cases h

end Error

namespace Exit

theorem map_eq_failed_iff {β : Type} {f : α → β} {exit : Exit α} {e : Error} :
    exit.map f = .failed e ↔ exit = .failed e := by
  cases exit <;> simp [map]

theorem mapError_eq_failed_iff {f : Error → Error} {exit : Exit α} {e : Error} :
    exit.mapError f = .failed e ↔ ∃ source, exit = .failed source ∧ f source = e := by
  cases exit <;> simp [mapError]

theorem expire_eq_failed_iff {limit : Option TimeLimit} {w : World σ} {exit : Exit α}
    {e : Error} :
    exit.expire limit w = .failed e ↔ exit = .failed e ∨
      (exit = .interrupted ∧ ∃ l, limit = some l ∧ l.hasPassed w = true ∧
        .timeout l.seconds = e) := by
  cases exit with
  | interrupted =>
      cases limit with
      | none => simp [expire]
      | some l => cases hpassed : l.hasPassed w <;> simp [expire, hpassed]
  | _ => simp [expire]

end Exit

namespace Plan

variable {scope : Scope σ}

/-! ### Causes -/

/-- Why the attempt of a plan at a step fails, if it is not for something within the step: the
step lacks a function, the function gives up, or the time that the plan leaves it runs out. -/
inductive Cause (scope : Scope σ) (head : PlanHead) (caller : Variables) (limits : Limits)
    (w : World σ) : Plan σ → Error → Prop
  | unbound {own : PlanHead} {finished : Bool} :
      Cause scope head caller limits w (.call own none finished)
        (.unknownFunction own.qualifiedName
          (some "Plan step is not bound to a registered function"))
  | raised {own : PlanHead} {f : Function σ} {finished : Bool} {e : Error} {after : World σ} :
      f.body scope (head.stepVariables caller (.call own (some f) finished))
        (limits.within (limitFor head w)) w = (.failed e, after) →
        Cause scope head caller limits w (.call own (some f) finished)
          (e.inFunction own.qualifiedName)
  | expired {step left : Plan σ} {seconds : Nat} {after : World σ} :
      head.timeout = some seconds →
      runWhole scope step (head.stepVariables caller step) (limits.within (limitFor head w)) w =
        (.interrupted, left, after) →
      (TimeLimit.set w seconds).hasPassed after = true →
        Cause scope head caller limits w step (.timeout seconds)

theorem runWhole_call_eq_failed {own : PlanHead} {function : Option (Function σ)}
    {finished : Bool} {vars : Variables} {limits : Limits} {w : World σ} {e : Error} :
    (runWhole scope (.call own function finished) vars limits w).1 = .failed e ↔
      (function = none ∧ .unknownFunction own.qualifiedName
        (some "Plan step is not bound to a registered function") = e) ∨
      ∃ f source after, function = some f ∧
        f.body scope vars limits w = (.failed source, after) ∧
        source.inFunction own.qualifiedName = e := by
  cases function with
  | none => simp [runWhole, callStep]
  | some f =>
      rcases hbody : f.body scope vars limits w with ⟨exit, after⟩
      simp [runWhole, callStep, hbody, Exit.mapError_eq_failed_iff]

/-- An attempt fails for a cause of its own, or because a group fails within. -/
theorem attempt_eq_failed_iff {head : PlanHead} {step : Plan σ} {caller : Variables}
    {limits : Limits} {w : World σ} {e : Error} :
    (head.attempt step (runWhole scope step) caller limits w).1 = .failed e ↔
      ∃ source, .planStep step.qualifiedName source = e ∧
        (Cause scope head caller limits w step source ∨
          (step.isCall = false ∧ (runWhole scope step (head.stepVariables caller step)
            (limits.within (limitFor head w)) w).1 = .failed source)) := by
  rcases hinner : runWhole scope step (head.stepVariables caller step)
    (limits.within (limitFor head w)) w with ⟨exit, left, after⟩
  rw [attempt_eq hinner, Exit.map_eq_failed_iff, Exit.mapError_eq_failed_iff]
  constructor
  · rintro ⟨source, hexpire, rfl⟩
    refine ⟨source, rfl, ?_⟩
    rcases Exit.expire_eq_failed_iff.1 hexpire with rfl | ⟨rfl, l, hlimit, hpassed, rfl⟩
    · cases step with
      | group _ _ _ => exact .inr ⟨rfl, rfl⟩
      | call own function finished =>
          rcases runWhole_call_eq_failed.1 (congrArg Prod.fst hinner) with
            ⟨rfl, rfl⟩ | ⟨f, own', after', rfl, hbody, rfl⟩
          · exact .inl .unbound
          · exact .inl (.raised hbody)
    · obtain ⟨seconds, htimeout, rfl⟩ := Option.map_eq_some_iff.1 hlimit
      exact .inl (.expired htimeout hinner hpassed)
  · rintro ⟨source, rfl, hcause | ⟨_, hsource⟩⟩
    · have hexit := congrArg Prod.fst hinner
      refine ⟨source, Exit.expire_eq_failed_iff.2 ?_, rfl⟩
      cases hcause with
      | unbound => exact .inl (hexit.symm.trans (runWhole_call_eq_failed.2 (.inl ⟨rfl, rfl⟩)))
      | raised hbody =>
          exact .inl (hexit.symm.trans
            (runWhole_call_eq_failed.2 (.inr ⟨_, _, _, rfl, hbody, rfl⟩)))
      | expired htimeout hinterrupted hpassed =>
          cases hinner.symm.trans hinterrupted
          exact .inr ⟨rfl, _, by rw [limitFor, htimeout]; rfl, hpassed, rfl⟩
    · exact ⟨source, Exit.expire_eq_failed_iff.2 (.inl hsource), rfl⟩

/-! ### Names on the way -/

/-- The names of the steps on the way to a position, one for each level. -/
def namesTo : Position → Plan σ → List String
  | [], _ => []
  | i :: position, p =>
    (p.steps[i]?).elim [] fun step => step.qualifiedName :: namesTo position step

/-- The names that a failure at a position carries. A call has its own name in front. -/
def failurePath (position : Position) (p : Plan σ) : List String :=
  if p.isCall then [p.qualifiedName] else namesTo position p

theorem namesTo_group (head : PlanHead) (past rest : List (Plan σ)) (step : Plan σ)
    (position : Position) :
    namesTo (past.length :: position) (.group head past (step :: rest)) =
      step.qualifiedName :: namesTo position step := by
  rw [namesTo, getElem?_steps_group]
  rfl

theorem failurePath_of_group {p : Plan σ} (h : p.isCall = false) (position : Position) :
    failurePath position p = namesTo position p := by
  rw [failurePath, h, if_neg Bool.false_ne_true]

theorem Commit.qualifiedName_eq {position : Position} {p q : Plan σ} (h : Commit position p q) :
    q.qualifiedName = p.qualifiedName := by
  cases h <;> rfl

theorem Commit.namesTo_eq {position : Position} {p q : Plan σ} (h : Commit position p q)
    (place : Position) : namesTo place q = namesTo place p := by
  induction h generalizing place with
  | self => cases place <;> rfl
  | step => cases place <;> simp [namesTo, steps]
  | @within position head past rest step step' _ hcommit ih =>
      cases place with
      | nil => rfl
      | cons i place =>
          by_cases hi : i = past.length
          · rw [hi, namesTo_group, namesTo_group, ih, hcommit.qualifiedName_eq]
          · rw [namesTo, namesTo, getElem?_steps_of_ne head past rest step step' hi]

theorem Leads.namesTo_eq {p q : Plan σ} {attempts : List Attempt} (h : Leads p attempts q)
    (place : Position) : namesTo place q = namesTo place p := by
  refine h.of_moves (motive := fun m => namesTo place m.plan = namesTo place p)
    (fun m m' hmove hbefore => ?_) rfl
  cases hmove with
  | refused _ _ => exact hbefore
  | called _ _ hcommit => exact (hcommit.namesTo_eq place).trans hbefore
  | closed _ _ _ hcommit => exact (hcommit.namesTo_eq place).trans hbefore

end Plan

namespace Pause

open Plan

variable {scope : Scope σ} {cancellable : Bool} {limits : Limits} {a b : Pause σ}

theorem Onward.isCall_eq (h : Onward scope cancellable limits a b) :
    b.plan.isCall = a.plan.isCall := by
  cases h with
  | step h => cases h; rfl
  | self _ => rfl

theorem Reaches.isCall_eq (h : Reaches scope cancellable limits a b) :
    b.plan.isCall = a.plan.isCall := by
  induction h with
  | refl => rfl
  | tail _ hlast ih => rw [hlast.isCall_eq, ih]

theorem Onward.failurePath_eq (h : Onward scope cancellable limits a b) (position : Position) :
    failurePath position b.plan = failurePath position a.plan := by
  cases h with
  | step h =>
      obtain ⟨attempts, hleads, _⟩ := h.exists_noted (fun _ _ => none)
      cases h
      exact hleads.namesTo_eq position
  | self hattempt =>
      obtain ⟨answer, rfl⟩ := exists_answer_of_attemptWatched (by rw [hattempt])
      rfl

theorem Reaches.failurePath_eq (h : Reaches scope cancellable limits a b)
    (position : Position) : failurePath position b.plan = failurePath position a.plan := by
  induction h with
  | refl => rfl
  | tail _ hlast ih => rw [hlast.failurePath_eq, ih]

/-- What is ahead at a pause was ahead before. -/
theorem Reaches.mem_ahead {past rest : List (Plan σ)} {head : PlanHead}
    {step : Plan σ} (h : Reaches scope cancellable limits a b)
    (hb : b.plan = .group head past (step :: rest)) :
    ∃ head past ahead, a.plan = .group head past ahead ∧ step ∈ ahead := by
  induction h using Relation.ReflTransGen.head_induction_on with
  | refl => exact ⟨head, past, step :: rest, hb, List.mem_cons_self⟩
  | head hfirst _ ih =>
      obtain ⟨head', past', ahead, hplan, hmem⟩ := ih
      cases hfirst with
      | step hnext =>
          cases hnext
          obtain ⟨rfl, rfl, rfl⟩ : _ = head' ∧ _ = past' ∧ _ = ahead := by simpa using hplan
          exact ⟨_, _, _, rfl, List.mem_cons_of_mem _ hmem⟩
      | self _ => cases hplan

end Pause

namespace Plan

open Pause

variable {scope : Scope σ} {limits : Limits}

/-! ### Faults -/

/-- A run that is at a pause fails at a position of its plan: the step there fails for a cause of
its own. Above it, groups are run as steps, each with the variables and under the limits that
the plan around it makes for it, and have got to a pause in turn. -/
inductive Fault (scope : Scope σ) : Limits → Pause σ → Position → Plan σ → Error → Prop
  | self {limits : Limits} {head : PlanHead} {function : Option (Function σ)} {vars : Variables}
      {w : World σ} {cause : Error} :
      Cause scope head (vars.merge head.state false) limits w (.call head function false) cause →
        Fault scope limits ⟨.call head function false, vars, w⟩ [] (.call head function false) cause
  | step {limits : Limits} {head : PlanHead} {past rest : List (Plan σ)} {step : Plan σ}
      {vars : Variables} {w : World σ} {cause : Error} :
      Cause scope head (vars.merge head.state false) limits w step cause →
        Fault scope limits ⟨.group head past (step :: rest), vars, w⟩ [past.length] step cause
  | within {limits : Limits} {head : PlanHead} {past rest : List (Plan σ)} {step failed : Plan σ}
      {vars : Variables} {w : World σ} {b : Pause σ} {position : Position} {cause : Error} :
      step.isCall = false →
      Reaches scope false (limits.within (limitFor head w))
        ⟨step, head.stepVariables (vars.merge head.state false) step, w⟩ b →
      Fault scope (limits.within (limitFor head w)) b position failed cause →
        Fault scope limits ⟨.group head past (step :: rest), vars, w⟩ (past.length :: position)
          failed cause

theorem run_group_eq_failed {head : PlanHead} {past rest : List (Plan σ)} {step : Plan σ}
    {vars : Variables} {w : World σ} {e : Error}
    (h : (head.attempt step (runWhole scope step) (vars.merge head.state false) limits w).1 =
      .failed e) :
    (run scope false (.group head past (step :: rest)) vars limits w).1 = .failed e := by
  rcases hattempt : head.attemptWatched false step (runWhole scope step)
    (vars.merge head.state false) limits w with ⟨exit, left, after⟩
  rw [← PlanHead.attemptWatched_false, hattempt] at h
  obtain rfl : exit = .failed e := h
  rw [run, runSteps_of_not_done hattempt rfl]
  rfl

theorem run_call_eq_failed {head : PlanHead} {function : Option (Function σ)} {vars : Variables}
    {w : World σ} {e : Error}
    (h : (head.attempt (.call head function false) (runWhole scope (.call head function false))
      (vars.merge head.state false) limits w).1 = .failed e) :
    (run scope false (.call head function false) vars limits w).1 = .failed e := by
  rcases hattempt : head.attemptWatched false (.call head function false)
    (runWhole scope (.call head function false)) (vars.merge head.state false) limits w with
    ⟨exit, left, after⟩
  rw [← PlanHead.attemptWatched_false, hattempt] at h
  obtain rfl : exit = .failed e := h
  rw [run_call hattempt]
  rfl

/-- At a position with a fault the run fails, with the names on the way in front of the cause. -/
theorem Fault.run_eq {b : Pause σ} {position : Position} {step : Plan σ} {cause : Error}
    (h : Fault scope limits b position step cause) :
    (run scope false b.plan b.vars limits b.world).1 =
      .failed (cause.inSteps (failurePath position b.plan)) := by
  induction h with
  | @self limits head function vars w cause hcause =>
      rw [run_call_eq_failed (attempt_eq_failed_iff.2 ⟨cause, rfl, .inl hcause⟩)]
      rfl
  | @step limits head past rest step vars w cause hcause =>
      rw [run_group_eq_failed (attempt_eq_failed_iff.2 ⟨cause, rfl, .inl hcause⟩),
        failurePath_of_group rfl, namesTo_group]
      rfl
  | @within limits head past rest step failed vars w b position cause hgroup hreaches _ ih =>
      have hinner : (runWhole scope step (head.stepVariables (vars.merge head.state false) step)
          (limits.within (limitFor head w)) w).1 =
            .failed (cause.inSteps (failurePath position step)) := by
        rw [runWhole_eq_run hgroup, ← hreaches.failurePath_eq position, ← ih]
        exact congrArg Prod.fst hreaches.run_eq
      rw [run_group_eq_failed (attempt_eq_failed_iff.2 ⟨_, rfl, .inr ⟨hgroup, hinner⟩⟩),
        failurePath_of_group hgroup, failurePath_of_group rfl, namesTo_group]
      rfl

/-- A run that fails has got to a pause from which it fails at some position. -/
theorem exists_fault (p : Plan σ) {vars : Variables} {limits : Limits} {w : World σ} {e : Error}
    (h : (run scope false p vars limits w).1 = .failed e) :
    ∃ b position step cause, Reaches scope false limits ⟨p, vars, w⟩ b ∧
      Fault scope limits b position step cause := by
  induction p using steps_induction generalizing vars limits w e with
  | call head function finished =>
      obtain ⟨b, hreaches, hending⟩ :=
        exists_ending scope false (.call head function finished) vars limits w
      generalize run scope false (.call head function finished) vars limits w = ran at h hending
      cases hending with
      | complete _ => cases h
      | self hattempt _ =>
          have hfailed := (congrArg Prod.fst hattempt).trans (Exit.map_eq_failed_iff.1 h)
          obtain ⟨cause, rfl, hcause | ⟨hgroup, _⟩⟩ := attempt_eq_failed_iff.1 hfailed
          · exact ⟨_, [], _, cause, hreaches, .self hcause⟩
          · cases hgroup
      | step _ _ => cases hreaches.isCall_eq
  | group head past ahead _ ih =>
      obtain ⟨b, hreaches, hending⟩ :=
        exists_ending scope false (.group head past ahead) vars limits w
      generalize run scope false (.group head past ahead) vars limits w = ran at h hending
      cases hending with
      | complete _ => cases h
      | self _ _ => cases hreaches.isCall_eq
      | @step head' past' rest step left vars' w' after exit hattempt _ =>
          have hfailed := (congrArg Prod.fst hattempt).trans (Exit.map_eq_failed_iff.1 h)
          obtain ⟨cause, rfl, hcause | ⟨hgroup, hinner⟩⟩ := attempt_eq_failed_iff.1 hfailed
          · exact ⟨_, _, step, cause, hreaches, .step hcause⟩
          · -- the failure comes from within the step, which was ahead at the start
            obtain ⟨_, _, _, hplan, hmem⟩ := hreaches.mem_ahead rfl
            cases hplan
            rw [runWhole_eq_run hgroup] at hinner
            obtain ⟨b', position, failed, cause', hreaches', hfault⟩ := ih step hmem hinner
            exact ⟨_, _, failed, cause', hreaches, .within hgroup hreaches' hfault⟩

/-- The last name on the way is that of the step that failed, and there is a name for each level. -/
theorem Fault.failurePath_last {b : Pause σ} {position : Position} {step : Plan σ} {cause : Error}
    (h : Fault scope limits b position step cause) :
    (failurePath position b.plan).getLast? = some step.qualifiedName ∧
      (failurePath position b.plan).length = if b.plan.isCall then 1 else position.length := by
  induction h with
  | self _ => exact ⟨rfl, rfl⟩
  | step _ =>
      rw [failurePath_of_group rfl, namesTo_group]
      exact ⟨rfl, rfl⟩
  | within hgroup hreaches _ ih =>
      have hcall := hreaches.isCall_eq.trans hgroup
      rw [hcall, hreaches.failurePath_eq, failurePath_of_group hgroup] at ih
      rw [failurePath_of_group rfl, namesTo_group, List.getLast?_cons, ih.1, List.length_cons,
        ih.2]
      exact ⟨rfl, rfl⟩

/-- **Where a failure comes from.** A run that is not cancellable fails with `e` exactly when it
gets to a pause from which it fails at some position for some cause, and `e` is the cause with
the names of the steps on the way to the position in front of it. There is one name for each
level, and the last one is that of the step that failed; a plan that is a call has its own name.
The cause is a missing function under the name of the step, the time limit of the plan around the
step, or the function's own failure with the name of the step. This has the same root as the
failure it was made from, and is the same if that names a function or a step already. -/
theorem path_of_failure (scope : Scope σ) (p : Plan σ) (vars : Variables) (limits : Limits)
    (w : World σ) :
    (∀ e, (run scope false p vars limits w).1 = .failed e ↔
      ∃ b position step cause, Reaches scope false limits ⟨p, vars, w⟩ b ∧
        Fault scope limits b position step cause ∧
          e = cause.inSteps (failurePath position p)) ∧
      (∀ b position step cause, Reaches scope false limits ⟨p, vars, w⟩ b →
        Fault scope limits b position step cause →
          (failurePath position p).getLast? = some step.qualifiedName ∧
            (failurePath position p).length = if p.isCall then 1 else position.length) ∧
      ∀ (own : Error) (name : String) (names : List String),
        ((own.inFunction name).inSteps names).rootCause = own.rootCause ∧
          (own.isNamed = true → own.inFunction name = own) := by
  refine ⟨fun e => ⟨fun h => ?_, ?_⟩, fun b position step cause hreaches hfault => ?_,
    fun own name names => ⟨?_, fun hnamed => Error.inFunction_of_isNamed hnamed name⟩⟩
  · obtain ⟨b, position, step, cause, hreaches, hfault⟩ := exists_fault p h
    refine ⟨b, position, step, cause, hreaches, hfault, ?_⟩
    have hrun := (congrArg Prod.fst hreaches.run_eq).trans hfault.run_eq
    rw [hreaches.failurePath_eq] at hrun
    exact Exit.failed.inj (h.symm.trans hrun)
  · rintro ⟨b, position, step, cause, hreaches, hfault, rfl⟩
    have hrun := (congrArg Prod.fst hreaches.run_eq).trans hfault.run_eq
    rwa [hreaches.failurePath_eq] at hrun
  · have hlast := hfault.failurePath_last
    rwa [hreaches.failurePath_eq, hreaches.isCall_eq] at hlast
  · rw [Error.rootCause_inSteps, Error.rootCause_inFunction]

/-- A function that gives up in the second step of a group, which is the second step of a plan. -/
theorem path_of_failure_nested :
    let good : Function Unit := .native "io" "read" "" [] fun _ vars => pure vars
    let bad : Function Unit := .native "io" "write" "" [] fun _ _ => .fail (.io "denied" none)
    let inner := (ofSteps "inner" [ofFunction good, ofFunction bad]).withName "flows" "save"
    let p := ofSteps "outer" [ofFunction good, inner]
    let scope : Scope Unit := fun _ _ => none
    let e := Error.planStep "flows.save" (.planStep "io.write" (.within "io.write"
      (.io "denied" none)))
    (run scope false p .empty .none (.start ())).1 = .failed e ∧
      (∃ b position step cause, Reaches scope false .none ⟨p, .empty, .start ()⟩ b ∧
        Fault scope .none b position step cause ∧ e = cause.inSteps (failurePath position p) ∧
        (failurePath position p).getLast? = some step.qualifiedName ∧
        (failurePath position p).length = position.length) ∧
      ((Error.io "denied" none).inFunction "io.write").inSteps ["flows.save", "io.write"] = e ∧
      e.rootCause = .io "denied" none ∧
      (Error.planStep "io.write" .cancelled).isNamed = true ∧
      (Error.planStep "io.write" .cancelled).inFunction "flows.save" =
        .planStep "io.write" .cancelled := by
  intro good bad inner p scope e
  have hrun : (run scope false p .empty .none (.start ())).1 = .failed e := by decide +kernel
  obtain ⟨hfails, hnames, hroot⟩ := path_of_failure scope p .empty .none (.start ())
  obtain ⟨b, position, step, cause, hreaches, hfault, he⟩ := (hfails e).1 hrun
  obtain ⟨hlast, hlength⟩ := hnames b position step cause hreaches hfault
  exact ⟨hrun, ⟨b, position, step, cause, hreaches, hfault, he, hlast, hlength⟩, rfl,
    (hroot (.io "denied" none) "io.write" ["flows.save", "io.write"]).1, rfl,
    (hroot (.planStep "io.write" .cancelled) "flows.save" []).2 rfl⟩

end Plan

end PromptPlan
