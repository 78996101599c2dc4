import PromptPlan.Proofs.Plan.Restore

/-!
# Which documents are plans

Any tree of nodes can be handed in as a document, not only what a plan was stored as. Reading it
is a check of all the nodes that count steps, and nothing else can go wrong: a function that is
not found leaves its step unbound. The nodes that count are those that are not below a function
node, and they are checked in the order children before parents; the first that counts more steps
than it has is the one that is reported.

A document that passes is stored again as it was, except that function nodes have lost their
steps, which nobody looks at. So what is stored again is as good as what was handed in: it is read
as the same plan, and with any other catalog it is stored as the same document.
-/

namespace PromptPlan

variable {σ : Type}

namespace Document

/-- Induction over the tree: what holds of a node if it holds of its steps holds of every
document. -/
theorem nodes_induction {motive : Document → Prop}
    (node : ∀ kind name skill description cursor state parameters outputs steps,
      (∀ step ∈ steps, motive step) →
        motive (.node kind name skill description cursor state parameters outputs steps))
    (d : Document) : motive d := by
  have hnil : ∀ step ∈ ([] : List Document), motive step := by simp
  have hcons : ∀ (step : Document) (rest : List Document), motive step →
      (∀ s ∈ rest, motive s) → ∀ s ∈ step :: rest, motive s := by
    intro step rest hstep hrest s hs
    rcases List.mem_cons.1 hs with rfl | hs
    · exact hstep
    · exact hrest s hs
  exact @Document.rec motive (fun steps => ∀ step ∈ steps, motive step) node hnil hcons d

/-! ### Nodes that count -/

/-- What a node tells of its plan apart from its steps. -/
def head : Document → PlanHead
  | .node _ name skill description _ state parameters outputs _ =>
    ⟨name, skill, description, state, parameters, outputs, none⟩

/-- How many steps a node counts as done. -/
def cursor : Document → Nat
  | .node _ _ _ _ cursor _ _ _ _ => cursor

/-- How many steps a node has; a function counts as one. -/
def stepCount : Document → Nat
  | .node .function _ _ _ _ _ _ _ _ => 1
  | .node .steps _ _ _ _ _ _ _ steps => steps.length

/-- A node that counts more steps than it has. -/
def IsOverrun (d : Document) : Prop := d.stepCount < d.cursor

instance (d : Document) : Decidable d.IsOverrun := Nat.decLt _ _

mutual

/-- The nodes that are not below a function node, children before parents. -/
def counted : Document → List Document
  | .node .function name skill description cursor state parameters outputs steps =>
    [.node .function name skill description cursor state parameters outputs steps]
  | .node .steps name skill description cursor state parameters outputs steps =>
    countedAll steps ++ [.node .steps name skill description cursor state parameters outputs steps]

/-- The nodes of several documents, one after the other. -/
def countedAll : List Document → List Document
  | [] => []
  | d :: rest => counted d ++ countedAll rest

end

mutual

/-- The document without the steps of function nodes. -/
def pruned : Document → Document
  | .node .function name skill description cursor state parameters outputs _ =>
    .node .function name skill description cursor state parameters outputs []
  | .node .steps name skill description cursor state parameters outputs steps =>
    .node .steps name skill description cursor state parameters outputs (prunedAll steps)

/-- Documents without the steps of function nodes. -/
def prunedAll : List Document → List Document
  | [] => []
  | d :: rest => pruned d :: prunedAll rest

end

theorem length_prunedAll (steps : List Document) : (prunedAll steps).length = steps.length := by
  induction steps with
  | nil => rfl
  | cons step steps ih => rw [prunedAll, List.length_cons, ih, List.length_cons]

/-- The failure of the first node of a list that counts more steps than it has. -/
def fault? (nodes : List Document) : Option Error :=
  (nodes.find? fun node => node.IsOverrun).map fun node =>
    cursorError node.head node.cursor node.stepCount

theorem fault?_append (nodes rest : List Document) :
    fault? (nodes ++ rest) = (fault? nodes).or (fault? rest) := by
  rw [fault?, List.find?_append, Option.map_or, fault?, fault?]

theorem fault?_singleton (node : Document) :
    fault? [node] =
      if node.IsOverrun then some (cursorError node.head node.cursor node.stepCount) else none := by
  by_cases h : node.IsOverrun
  · simp [fault?, h]
  · simp [fault?, h]

theorem fault?_eq_none_iff {nodes : List Document} :
    fault? nodes = none ↔ ∀ node ∈ nodes, ¬node.IsOverrun := by
  simp [fault?]

theorem exists_fault?_iff {nodes : List Document} :
    (∃ e, fault? nodes = some e) ↔ ∃ node ∈ nodes, node.IsOverrun := by
  rw [← Option.ne_none_iff_exists', ne_eq, fault?_eq_none_iff]
  simp

theorem fault?_append_cons {before after : List Document} {node : Document}
    (hbefore : ∀ earlier ∈ before, ¬earlier.IsOverrun) (hnode : node.IsOverrun) :
    fault? (before ++ node :: after) = some (cursorError node.head node.cursor node.stepCount) := by
  rw [fault?_append, fault?_eq_none_iff.2 hbefore, Option.none_or, ← List.singleton_append,
    fault?_append, fault?_singleton, if_pos hnode, Option.some_or]

/-! ### Reading -/

section Nodes

variable (catalog : Option (Catalog σ)) (name skill description : String) (cursor : Nat)
  (state parameters : Variables) (outputs : List String) (steps : List Document)

theorem toPlan_function :
    (Document.node .function name skill description cursor state parameters outputs steps).toPlan
        catalog =
      let head : PlanHead := ⟨name, skill, description, state, parameters, outputs, none⟩
      if 1 < cursor then .error (cursorError head cursor 1)
      else .ok (.call head (catalog.bind fun r => r.get? (some skill) name) (cursor == 1)) := by
  rw [toPlan]
  rfl

theorem toPlan_steps :
    (Document.node .steps name skill description cursor state parameters outputs steps).toPlan
        catalog =
      let head : PlanHead := ⟨name, skill, description, state, parameters, outputs, none⟩
      (toPlans catalog steps).bind fun plans =>
        if plans.length < cursor then .error (cursorError head cursor plans.length)
        else .ok (.group head (plans.take cursor) (plans.drop cursor)) := by
  rw [toPlan]
  rfl

/-- What is read from a document: the failure of one of its nodes, or a plan that is stored as
the document without the steps of function nodes. -/
def Reads (d : Document) : Prop :=
  (∃ e, fault? d.counted = some e ∧ d.toPlan catalog = .error e) ∨
    fault? d.counted = none ∧ ∃ p, d.toPlan catalog = .ok p ∧ ofPlan p = d.pruned

theorem reads_steps {steps : List Document} (h : ∀ step ∈ steps, Reads catalog step) :
    (∃ e, fault? (countedAll steps) = some e ∧ toPlans catalog steps = .error e) ∨
      fault? (countedAll steps) = none ∧
        ∃ plans, toPlans catalog steps = .ok plans ∧ ofPlans plans = prunedAll steps := by
  induction steps with
  | nil => exact .inr ⟨rfl, [], rfl, rfl⟩
  | cons step steps ih =>
      rw [countedAll, fault?_append, toPlans]
      rcases h step List.mem_cons_self with ⟨e, hfault, hstep⟩ | ⟨hfault, p, hstep, hp⟩
      · rw [hfault, hstep]
        exact .inl ⟨e, rfl, rfl⟩
      · rw [hfault, hstep, Option.none_or]
        rcases ih fun s hs => h s (List.mem_cons_of_mem step hs) with
          ⟨e, hfaults, hsteps⟩ | ⟨hfaults, plans, hsteps, hplans⟩
        · rw [hsteps]
          exact .inl ⟨e, hfaults, rfl⟩
        · rw [hsteps]
          exact .inr ⟨hfaults, p :: plans, rfl, by rw [ofPlans, hp, hplans, prunedAll]⟩

theorem reads_function : Reads catalog
    (.node .function name skill description cursor state parameters outputs steps) := by
  rw [Reads, counted, fault?_singleton, toPlan_function, pruned]
  by_cases hcursor : 1 < cursor
  · exact .inl ⟨_, if_pos hcursor, if_pos hcursor⟩
  · have hfinished : (if (cursor == 1) = true then 1 else 0) = cursor := by
      obtain rfl | rfl : cursor = 0 ∨ cursor = 1 := by omega
      · rfl
      · rfl
    exact .inr ⟨if_neg hcursor, _, if_neg hcursor, by rw [ofPlan, hfinished]⟩

/-- A group is judged after its steps. -/
theorem reads_group (h : ∀ step ∈ steps, Reads catalog step) : Reads catalog
    (.node .steps name skill description cursor state parameters outputs steps) := by
  rw [Reads, counted, fault?_append, fault?_singleton, toPlan_steps, pruned]
  rcases reads_steps catalog h with ⟨e, hfault, hsteps⟩ | ⟨hfault, plans, hsteps, hplans⟩
  · rw [hfault, hsteps]
    exact .inl ⟨e, rfl, rfl⟩
  · have hlength : plans.length = steps.length := by
      have hmapped := congrArg List.length hplans
      rwa [Plan.ofPlans_eq_map, List.length_map, length_prunedAll] at hmapped
    rw [hfault, hsteps, Option.none_or]
    dsimp only [Except.bind]
    rw [hlength]
    by_cases hcursor : steps.length < cursor
    · exact .inl ⟨_, if_pos hcursor, if_pos hcursor⟩
    · have htake : (plans.take cursor).length = cursor :=
        List.length_take_of_le (hlength ▸ Nat.not_lt.1 hcursor)
      refine .inr ⟨if_neg hcursor, _, if_neg hcursor, ?_⟩
      rw [ofPlan, htake, Plan.ofPlans_eq_map, Plan.ofPlans_eq_map, ← List.map_append,
        List.take_append_drop, ← Plan.ofPlans_eq_map, hplans]

end Nodes

theorem reads (catalog : Option (Catalog σ)) (d : Document) : Reads catalog d := by
  induction d using nodes_induction with
  | node kind name skill description cursor state parameters outputs steps ih =>
      cases kind with
      | function => exact reads_function ..
      | steps => exact reads_group _ _ _ _ _ _ _ _ _ ih

variable {catalog : Option (Catalog σ)} {d : Document}

theorem toPlan_eq_error_iff {e : Error} :
    d.toPlan catalog = .error e ↔ fault? d.counted = some e := by
  rcases reads catalog d with ⟨e', hfault, he⟩ | ⟨hfault, p, hp, -⟩
  · rw [hfault, he, Except.error.injEq, Option.some.injEq]
  · rw [hfault, hp]
    exact ⟨nofun, nofun⟩

theorem fault?_of_toPlan {p : Plan σ} (hp : d.toPlan catalog = .ok p) :
    fault? d.counted = none := by
  rcases reads catalog d with ⟨e, -, he⟩ | ⟨hfault, -⟩
  · rw [hp] at he
    cases he
  · exact hfault

/-- Whether a document is read does not depend on the catalog. -/
theorem exists_toPlan (hfault : fault? d.counted = none) (catalog : Option (Catalog σ)) :
    ∃ p, d.toPlan catalog = .ok p ∧ ofPlan p = d.pruned := by
  rcases reads catalog d with ⟨e, hfault', -⟩ | ⟨-, hread⟩
  · rw [hfault] at hfault'
    cases hfault'
  · exact hread

mutual

/-- The steps of function nodes make no difference to reading. -/
theorem toPlan_pruned (catalog : Option (Catalog σ)) :
    ∀ d : Document, d.pruned.toPlan catalog = d.toPlan catalog
  | .node .function .. => by rw [pruned, toPlan_function, toPlan_function]
  | .node .steps _ _ _ _ _ _ _ steps => by
      rw [pruned, toPlan_steps, toPlan_steps, toPlans_prunedAll catalog steps]

theorem toPlans_prunedAll (catalog : Option (Catalog σ)) :
    ∀ steps : List Document, toPlans catalog (prunedAll steps) = toPlans catalog steps
  | [] => by rw [prunedAll]
  | step :: rest => by
      rw [prunedAll, toPlans, toPlans, toPlan_pruned catalog step, toPlans_prunedAll catalog rest]

end

/-- **Reading documents.** A document is refused exactly when one of the nodes that are not below
a function node counts more steps than it has, and the failure is that of the first such node,
children before parents. Any other document is read as a plan that is stored as the document
without the steps of function nodes; and what is stored is read as the same plan again, and
whatever the catalog as a plan that is stored in the same way. -/
theorem toPlan_of_any (catalog : Option (Catalog σ)) (d : Document) :
    ((∃ e, d.toPlan catalog = .error e) ↔ ∃ node ∈ d.counted, node.IsOverrun) ∧
      (∀ before node after, d.counted = before ++ node :: after →
        (∀ earlier ∈ before, ¬earlier.IsOverrun) → node.IsOverrun →
          d.toPlan catalog = .error (.planning
            s!"next_step_index {node.cursor} exceeds the {node.stepCount} steps of the plan"
            (some node.head.qualifiedName))) ∧
      ∀ p, d.toPlan catalog = .ok p →
        ofPlan p = d.pruned ∧ (ofPlan p).toPlan catalog = .ok p ∧
          ∀ other : Option (Catalog σ),
            ∃ p', (ofPlan p).toPlan other = .ok p' ∧ ofPlan p' = ofPlan p := by
  refine ⟨?_, ?_, ?_⟩
  · simp only [toPlan_eq_error_iff]
    exact exists_fault?_iff
  · intro before node after hsplit hbefore hnode
    rw [toPlan_eq_error_iff, hsplit, fault?_append_cons hbefore hnode]
    rfl
  · intro p hp
    have hfault := fault?_of_toPlan hp
    obtain ⟨p', hp', hstored⟩ := exists_toPlan hfault catalog
    obtain rfl : p = p' := Except.ok.inj (hp.symm.trans hp')
    refine ⟨hstored, by rw [hstored, toPlan_pruned, hp], fun other => ?_⟩
    obtain ⟨p', hp', hstored'⟩ := exists_toPlan hfault other
    exact ⟨p', by rw [hstored, toPlan_pruned, hp'], hstored'.trans hstored.symm⟩

/-- Of a group and the call in it, which both count too many steps, the call is reported; what is
below the call does not count. -/
example :
    let below : Document := .node .steps "below" "s" "" 1 .empty .empty [] []
    let call : Document := .node .function "call" "s" "" 2 .empty .empty [] [below]
    let group : Document := .node .steps "group" "s" "" 9 .empty .empty [] [call]
    (group.toPlan (none : Option (Catalog Unit))).toOption.isNone = true ∧
      fault? group.counted =
        some (.planning "next_step_index 2 exceeds the 1 steps of the plan" (some "s.call")) := by
  decide +kernel

end Document

end PromptPlan
