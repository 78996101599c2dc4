import PromptPlan.Proofs.Plan.Documents
import PromptPlan.Proofs.Records
import PromptPlan.Proofs.Variables

/-!
# Variables that are written more than once

Reading an object of texts is meant to write its members one by one, but before that, members of
exactly the same name are merged into one: it stands where the name first stood, and has its last
value. So a spelling that comes back after another one is overtaken: `a`, `A`, `a` leaves what the
one `A` says.

A variable is what was last written to it in the spelling that came up last
(`find?_variablesOfMembers`), and this is the last writer exactly if that spelling is also the last
one to be written (`find?_variablesOfMembers_eq_iff`).
-/

namespace PromptPlan

def Variable.ofPair (p : String × String) : Variable := ⟨p.1, p.2⟩

/-- The pairs that write a variable, in order. -/
def writesTo (k : String) (pairs : List (String × String)) : List (String × String) :=
  pairs.filter fun p => Text.lower p.1 == k

/-- The spellings in which a variable is written, in the order in which they come up. -/
def spellings (k : String) (pairs : List (String × String)) : List String :=
  ((writesTo k pairs).map Prod.fst).eraseDups

/-- The spelling that came up last is the one that is written last. -/
def EndsInNewest (k : String) (pairs : List (String × String)) : Prop :=
  (spellings k pairs).getLast? = ((writesTo k pairs).map Prod.fst).getLast?

instance (k : String) (pairs : List (String × String)) : Decidable (EndsInNewest k pairs) :=
  inferInstanceAs (Decidable (_ = _))

namespace Variables

theorem entries_ofPairs (pairs : List (String × String)) :
    (ofPairs pairs).entries = .ofList (pairs.map Variable.ofPair) := by
  have hentries := entries_setAll empty (pairs.map Variable.ofPair)
  rw [List.map_map] at hentries
  exact (congrArg (fun l => (ofPairs l).entries) (List.map_id pairs).symm).trans hentries

/-- A variable is what was written to it last. -/
theorem find?_ofPairs (pairs : List (String × String)) (k : String) :
    (ofPairs pairs).entries.find? k = (writesTo k pairs).getLast?.map Variable.ofPair := by
  rw [entries_ofPairs, Keyed.find?_ofList, List.filter_map, List.getLast?_map]
  rfl

theorem keys_ofPairs (pairs : List (String × String)) :
    (ofPairs pairs).entries.keys = ((pairs.map Prod.fst).map Text.lower).eraseDups := by
  rw [entries_ofPairs, Keyed.keys_ofList, List.map_map, List.map_map]
  rfl

end Variables

namespace Document

/-! ### Exact repetitions -/

theorem keys_variablesOfMembers (members : List (String × String)) :
    (variablesOfMembers members).entries.keys = (Variables.ofPairs members).entries.keys := by
  have hnames : (Keyed.ofList members : Keyed (Prod.fst : String × String → String)).toList.map
      Prod.fst = (members.map Prod.fst).eraseDups := Keyed.keys_ofList members
  rw [variablesOfMembers, Variables.keys_ofPairs, hnames, eraseDups_map_eraseDups,
    Variables.keys_ofPairs]

/-- Exact repetitions of one variable do not touch the other variables. -/
theorem writesTo_ofList (k : String) (members : List (String × String)) :
    writesTo k (Keyed.ofList members : Keyed (Prod.fst : String × String → String)).toList =
      (Keyed.ofList (writesTo k members) : Keyed (Prod.fst : String × String → String)).toList :=
  Keyed.filter_ofList (fun p q hkey => by rw [hkey]) members

theorem lower_of_mem_spellings {k s : String} {pairs : List (String × String)}
    (h : s ∈ spellings k pairs) : Text.lower s = k := by
  rw [spellings, List.mem_eraseDups] at h
  obtain ⟨p, hp, rfl⟩ := List.mem_map.1 h
  exact beq_iff_eq.1 (List.mem_filter.1 hp).2

theorem filter_writesTo {k s : String} (hs : Text.lower s = k) (pairs : List (String × String)) :
    ((writesTo k pairs).filter fun p => p.1 == s) = pairs.filter fun p => p.1 == s := by
  rw [writesTo, List.filter_filter]
  refine List.filter_congr fun p _ => ?_
  by_cases hp : p.1 = s
  · simp [hp, hs]
  · simp [hp]

/-- A variable is what was last written to it in the spelling that came up last. -/
theorem find?_variablesOfMembers (members : List (String × String)) (k : String) :
    (variablesOfMembers members).entries.find? k =
      ((spellings k members).getLast?.bind fun s =>
        (members.filter fun m => m.1 == s).getLast?).map Variable.ofPair := by
  rw [variablesOfMembers, Variables.find?_ofPairs, writesTo_ofList, Keyed.getLast?_toList,
    Keyed.keys_ofList, ← spellings]
  congr 1
  cases hlast : (spellings k members).getLast? with
  | none => rfl
  | some s =>
      have hs := lower_of_mem_spellings (List.mem_of_getLast? hlast)
      rw [Option.bind_some, Option.bind_some, Keyed.find?_ofList, filter_writesTo hs]

/-- A variable is as if written one by one exactly if its newest spelling is the last. -/
theorem find?_variablesOfMembers_eq_iff (members : List (String × String)) (k : String) :
    (variablesOfMembers members).entries.find? k = (Variables.ofPairs members).entries.find? k ↔
      EndsInNewest k members := by
  rw [find?_variablesOfMembers, Variables.find?_ofPairs, EndsInNewest, List.getLast?_map]
  cases hlast : (writesTo k members).getLast? with
  | none =>
      obtain hnone : writesTo k members = [] := List.getLast?_eq_none_iff.1 hlast
      simp [spellings, hnone]
  | some m =>
      have hm : m ∈ writesTo k members := List.mem_of_getLast? hlast
      have hown : (members.filter fun m' => m'.1 == m.1).getLast? = some m := by
        obtain ⟨front, hfront⟩ := List.getLast?_eq_some_iff.1 hlast
        rw [← filter_writesTo (beq_iff_eq.1 (List.mem_filter.1 hm).2), hfront, List.filter_append]
        simp
      constructor
      · intro hsame
        rw [Option.map_some, Option.map_eq_some_iff] at hsame
        obtain ⟨m', hm', hpair⟩ := hsame
        obtain ⟨s, hs, hm'⟩ := Option.bind_eq_some_iff.1 hm'
        have hname : m'.1 = s := beq_iff_eq.1 (List.mem_filter.1 (List.mem_of_getLast? hm')).2
        rw [hs, Option.map_some, ← hname]
        exact congrArg some (congrArg Variable.name hpair)
      · intro hnewest
        rw [hnewest, Option.map_some, Option.bind_some, hown]

theorem variablesOfMembers_eq_ofPairs_iff (members : List (String × String)) :
    variablesOfMembers members = .ofPairs members ↔ ∀ k, EndsInNewest k members := by
  constructor
  · intro heq k
    rw [← find?_variablesOfMembers_eq_iff, heq]
  · intro hnewest
    refine Variables.ext (congrArg Keyed.toList ?_)
    refine Keyed.eq_of_keys (keys_variablesOfMembers members) fun k => ?_
    exact (find?_variablesOfMembers_eq_iff members k).2 (hnewest k)

/-! ### Reading an object of texts -/

def textMembers (members : List (String × String)) : Json :=
  .object (members.map fun m => (m.1, .string m.2))

theorem asMembers_textMembers (depth : Nat) (members : List (String × String)) :
    Json.asMembers Json.asString (depth + 1) (textMembers members) = .ok members := by
  rw [textMembers, Json.asMembers]
  induction members with
  | nil => rfl
  | cons m members ih =>
      rw [List.map_cons, List.mapM_cons, ih]
      rfl

theorem decodeVariables_textMembers (depth : Nat) (members : List (String × String)) :
    decodeVariables (depth + 1) (textMembers members) = .ok (variablesOfMembers members) := by
  rw [decodeVariables, asMembers_textMembers, Except.map]

/-- The depth that is left decides whether the variables are read, but not as what. -/
theorem eq_of_decodeVariables {depth : Nat} {members : List (String × String)} {v : Variables}
    (hread : decodeVariables depth (textMembers members) = .ok v) :
    v = variablesOfMembers members := by
  cases depth with
  | zero => cases hread
  | succ depth =>
      rw [decodeVariables_textMembers] at hread
      exact (Except.ok.inj hread).symm

/-- A field of a document that is read changes its own part and no other. -/
theorem head_of_visit {steps : Json.Decoder (List Document)} {depth : Nat} {d d' : Document}
    {name : String} {j : Json} (hfield : name ∈ fields.fields)
    (hvisit : visit steps depth d name j = .ok d') :
    (if name = "state" then decodeVariables depth j = .ok d'.head.state
      else d'.head.state = d.head.state) ∧
    (if name = "parameters" then decodeVariables depth j = .ok d'.head.parameters
      else d'.head.parameters = d.head.parameters) := by
  obtain ⟨k, n, s, e, c, st, p, o, t⟩ := d
  simp only [fields, List.mem_cons, List.not_mem_nil, or_false] at hfield
  rcases hfield with rfl | rfl | rfl | rfl | rfl | rfl | rfl | rfl | rfl
  all_goals
    simp only [visit, String.reduceEq, if_true, if_false] at hvisit
    obtain ⟨value, hvalue, hd⟩ := exists_of_bind_eq_ok hvisit
    cases hd
    simp [head, hvalue]

/-- Variables that are kept in a field are what the members of that field make. -/
theorem field_of_decodeWithin {field : String} (slot : PlanHead → Variables)
    (hmem : field ∈ fields.fields)
    (hslot : ∀ {steps depth d d' name j}, name ∈ fields.fields →
      visit steps depth d name j = .ok d' →
        if name = field then decodeVariables depth j = .ok (slot d'.head)
        else slot d'.head = slot d.head)
    {fuel depth : Nat} {j : Json} {d : Document} {members : List (String × String)}
    (hfield : Json.IsField fields.fields field (textMembers members) j)
    (hread : decodeWithin (fuel + 1) (depth + 1) j = .ok d) :
    slot d.head = variablesOfMembers members := by
  have hnodup : fields.fields.Nodup := by decide
  rw [decodeWithin] at hread
  refine Json.asRecord_field (P := fun d => slot d.head = variablesOfMembers members)
    hnodup hmem (fun r r' hvisit => ?_) (fun name j hname hne r r' hr hvisit => ?_) hfield hread
  · have hown := hslot hmem hvisit
    rw [if_pos rfl] at hown
    exact eq_of_decodeVariables hown
  · have hkept := hslot hname hvisit
    rw [if_neg hne] at hkept
    exact hkept.trans hr

/-- Objects of texts are read as the state and as the parameters of a document. -/
theorem decodeWithin_textMembers (fuel depth : Nat) (state parameters : List (String × String)) :
    decodeWithin (fuel + 1) (depth + 2)
        (.object [("state", textMembers state), ("parameters", textMembers parameters)]) =
      .ok (.node .steps "" "" "" 0 (variablesOfMembers state) (variablesOfMembers parameters)
        [] []) := by
  simp [decodeWithin, Json.asRecord, Json.visitMembers, fields, visit, blank,
    decodeVariables_textMembers, bind, Except.bind, pure, Except.pure]

/-- **What an object of texts is read as.** It is read, on its own and as the state or the
parameters of a document, as variables in the order in which the members first name them. A
variable has what was last written to it in the spelling that came up last, with that spelling. So
the outcome is that of writing the members one by one exactly if every variable is last written in
its newest spelling. -/
theorem variables_of_members (members : List (String × String)) :
    (∀ depth, decodeVariables (depth + 1) (textMembers members) =
        .ok (variablesOfMembers members)) ∧
      (∀ fuel depth j d, decodeWithin (fuel + 1) (depth + 1) j = .ok d →
        (Json.IsField fields.fields "state" (textMembers members) j →
          d.head.state = variablesOfMembers members) ∧
        (Json.IsField fields.fields "parameters" (textMembers members) j →
          d.head.parameters = variablesOfMembers members)) ∧
      (variablesOfMembers members).entries.keys =
        ((members.map Prod.fst).map Text.lower).eraseDups ∧
      (∀ k, (variablesOfMembers members).entries.find? k =
        ((spellings k members).getLast?.bind fun s =>
          (members.filter fun m => m.1 == s).getLast?).map Variable.ofPair) ∧
      (variablesOfMembers members = .ofPairs members ↔ ∀ k, EndsInNewest k members) := by
  refine ⟨fun depth => decodeVariables_textMembers depth members, fun fuel depth j d hread => ?_,
    ?_, find?_variablesOfMembers members, variablesOfMembers_eq_ofPairs_iff members⟩
  · constructor
    · intro hstate
      exact field_of_decodeWithin PlanHead.state (by decide)
        (fun hname hvisit => (head_of_visit hname hvisit).1) hstate hread
    · intro hparameters
      exact field_of_decodeWithin PlanHead.parameters (by decide)
        (fun hname hvisit => (head_of_visit hname hvisit).2) hparameters hread
  · rw [keys_variablesOfMembers, Variables.keys_ofPairs]

/-- Variables that are last written in their newest spellings, read as the state of a document
and as its parameters. -/
theorem variables_of_members_newest :
    let members := [("a", "1"), ("b", "2"), ("a", "3"), ("B", "4")]
    ∃ d, decodeWithin 1 2
        (.object [("state", textMembers members), ("parameters", textMembers members)]) = .ok d ∧
      d.head.state = .ofPairs members ∧ d.head.parameters = .ofPairs members ∧
      d.head.state.pairs = [("a", "3"), ("B", "4")] := by
  intro members
  obtain ⟨-, hfields, -⟩ := variables_of_members members
  have hread := decodeWithin_textMembers 0 0 members members
  obtain ⟨hstate, hparameters⟩ := hfields 0 1 _ _ hread
  have hwritten : variablesOfMembers members = .ofPairs members := by decide +kernel
  refine ⟨_, hread, ?_, ?_, by decide +kernel⟩
  · exact (hstate List.mem_cons_self).trans hwritten
  · exact (hparameters (List.mem_cons_of_mem _ List.mem_cons_self)).trans hwritten

/-- A spelling that comes back after another one is overtaken: the last writer loses. -/
theorem overtaken_spelling :
    let members := [("a", "1"), ("A", "2"), ("a", "3")]
    ¬EndsInNewest "a" members ∧
      (decodeVariables 1 (textMembers members)).toOption.map Variables.pairs = some [("A", "2")] ∧
      (Variables.ofPairs members).pairs = [("a", "3")] := by
  decide +kernel

end Document

end PromptPlan
