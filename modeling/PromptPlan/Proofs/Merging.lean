import Mathlib.Data.List.Induction
import PromptPlan.Proofs.Variables

/-!
# Merging

Variables are merged in a loop that writes one after another. What the loop comes to is said here
in two equations, and after that nobody looks at the loop again. For a listing is its keys, in
order, with what stands under each of them, and of merged variables both are easily told: the keys
are the old ones with the new ones behind them, and under a key stands what the one side has there,
or else what the other side has, by which of them goes first. What stands under a key is a variable
as it was written last, so the spelling goes with the value.

The laws of merging are the laws of these two operations, on lists of keys and on what may stand
under a key.
-/

namespace PromptPlan

/-! ### New keys behind old ones -/

/-- Keys, and behind them those of another list that are new. -/
def extendKeys (keys others : List String) : List String :=
  keys ++ others.filter fun k => k ∉ keys

theorem extendKeys_nil (keys : List String) : extendKeys keys [] = keys :=
  List.append_nil keys

theorem nil_extendKeys (keys : List String) : extendKeys [] keys = keys := by
  simp [extendKeys]

theorem extendKeys_of_subset {keys others : List String} (h : others ⊆ keys) :
    extendKeys keys others = keys := by
  have hnone : (others.filter fun k => k ∉ keys) = [] := by
    rw [List.filter_eq_nil_iff]
    intro k hk
    simpa using h hk
  rw [extendKeys, hnone, List.append_nil]

theorem extendKeys_of_disjoint {keys others : List String} (h : ∀ k ∈ others, k ∉ keys) :
    extendKeys keys others = keys ++ others := by
  have hall : (others.filter fun k => k ∉ keys) = others := by
    rw [List.filter_eq_self]
    intro k hk
    simpa using h k hk
  rw [extendKeys, hall]

theorem extendKeys_assoc (a b c : List String) :
    extendKeys (extendKeys a b) c = extendKeys a (extendKeys b c) := by
  have hnew : (c.filter fun k => k ∉ extendKeys a b) =
      (c.filter fun k => k ∉ b).filter fun k => k ∉ a := by
    rw [List.filter_filter]
    refine List.filter_congr fun k _ => ?_
    by_cases ha : k ∈ a <;> by_cases hb : k ∈ b <;> simp [extendKeys, ha, hb]
  rw [extendKeys, hnew, extendKeys, extendKeys, extendKeys, List.filter_append, List.append_assoc]

/-! ### Which of two goes first -/

/-- What stands under a key when one thing may stand there already and another is to come: the
other goes first if it overwrites, and else last. -/
def preferred {α : Type} (overwrite : Bool) (own other : Option α) : Option α :=
  if overwrite then other.or own else own.or other

section

variable {α : Type} (overwrite : Bool)

@[simp] theorem preferred_none (own : Option α) : preferred overwrite own none = own := by
  cases overwrite <;> simp [preferred]

@[simp] theorem none_preferred (other : Option α) : preferred overwrite none other = other := by
  cases overwrite <;> simp [preferred]

@[simp] theorem preferred_self (own : Option α) : preferred overwrite own own = own := by
  cases overwrite <;> cases own <;> rfl

theorem preferred_some (own : α) (other : Option α) :
    preferred overwrite (some own) other =
      some (if overwrite then other.getD own else own) := by
  cases overwrite <;> cases other <;> rfl

theorem preferred_assoc (a b c : Option α) :
    preferred overwrite (preferred overwrite a b) c =
      preferred overwrite a (preferred overwrite b c) := by
  cases overwrite <;> simp [preferred, Option.or_assoc]

end

namespace Variables

/-! ### What the loop comes to -/

theorem mem_keys_iff {v : Variables} {e : Variable} :
    e.key ∈ v.entries.keys ↔ v.contains e.name = true :=
  Keyed.contains_iff.symm

theorem keys_mergeOne (overwrite : Bool) (v : Variables) (e : Variable) :
    (mergeOne overwrite v (e.name, e.value)).entries.keys =
      extendKeys v.entries.keys [e.key] := by
  have hput : (v.entries.put e).keys = extendKeys v.entries.keys [e.key] := by
    have hplace : (v.entries.put e).keys =
        if e.key ∈ v.entries.keys then v.entries.keys else v.entries.keys ++ [e.key] :=
      Keyed.map_key_place e v.entries.toList
    by_cases hmem : e.key ∈ v.entries.keys
    · rw [extendKeys_of_subset (by simpa using hmem)]
      rw [hplace, if_pos hmem]
    · rw [extendKeys_of_disjoint (by simpa using hmem)]
      rw [hplace, if_neg hmem]
  unfold mergeOne
  split
  · exact hput
  · rename_i hkeep
    simp only [Bool.or_eq_true, Bool.not_eq_true', not_or, Bool.not_eq_false] at hkeep
    have hmem : e.key ∈ v.entries.keys := mem_keys_iff.2 hkeep.2
    rw [extendKeys_of_subset (by simpa using hmem)]

theorem find?_mergeOne (overwrite : Bool) (v : Variables) (e : Variable) (k : String) :
    (mergeOne overwrite v (e.name, e.value)).entries.find? k =
      preferred overwrite (v.entries.find? k) ([e].find? fun x => x.key == k) := by
  have hput : (v.set e.name e.value).entries.find? k =
      if e.key = k then some e else v.entries.find? k := Keyed.find?_put v.entries e k
  by_cases hkey : e.key = k
  · subst hkey
    have hcontains : v.contains e.name = (v.entries.find? e.key).isSome := rfl
    rw [mergeOne, hcontains]
    cases overwrite <;> cases hfind : v.entries.find? e.key <;> simp [hput, hfind, preferred]
  · have hnone : ([e].find? fun x => x.key == k) = none := by simp [hkey]
    rw [hnone, preferred_none, mergeOne]
    split
    · rw [hput, if_neg hkey]
    · rfl

/-- Takes over the variables of a list, one after another. -/
def mergeAll (overwrite : Bool) (v : Variables) (l : List Variable) : Variables :=
  l.foldl (fun v e => mergeOne overwrite v (e.name, e.value)) v

theorem mergeAll_concat (overwrite : Bool) (v : Variables) (l : List Variable) (e : Variable) :
    v.mergeAll overwrite (l ++ [e]) =
      mergeOne overwrite (v.mergeAll overwrite l) (e.name, e.value) :=
  List.foldl_concat ..

theorem merge_eq_mergeAll (v other : Variables) (overwrite : Bool) :
    v.merge other overwrite = v.mergeAll overwrite other.toList :=
  List.foldl_map

/-- By induction on the list from its end, where the last variable comes to what the others made. -/
theorem mergeAll_eq (overwrite : Bool) (v : Variables) {l : List Variable}
    (h : (l.map Variable.key).Nodup) :
    (v.mergeAll overwrite l).entries.keys =
        extendKeys v.entries.keys (l.map Variable.key) ∧
      ∀ k, (v.mergeAll overwrite l).entries.find? k =
        preferred overwrite (v.entries.find? k) (l.find? fun x => x.key == k) := by
  induction l using List.reverseRecOn with
  | nil => exact ⟨(extendKeys_nil _).symm, fun k => (preferred_none overwrite _).symm⟩
  | append_singleton l e ih =>
      rw [List.map_append, List.map_singleton, List.nodup_append] at h
      obtain ⟨hl, -, hne⟩ := h
      have hnew : ∀ k ∈ l.map Variable.key, k ≠ e.key :=
        fun k hk => hne k hk e.key (List.mem_singleton_self _)
      obtain ⟨hkeys, hfind⟩ := ih hl
      constructor
      · have hlast : extendKeys (l.map Variable.key) [e.key] = l.map Variable.key ++ [e.key] := by
          refine extendKeys_of_disjoint (List.forall_mem_singleton.2 fun hmem => ?_)
          exact hnew e.key hmem rfl
        rw [mergeAll_concat, keys_mergeOne, hkeys, extendKeys_assoc, hlast, List.map_append,
          List.map_singleton]
      · intro k
        have hlast : preferred overwrite (l.find? fun x => x.key == k)
            ([e].find? fun x => x.key == k) = (l ++ [e]).find? fun x => x.key == k := by
          by_cases hkey : e.key = k
          · have hnone : (l.find? fun x => x.key == k) = none := by
              rw [List.find?_eq_none]
              intro x hx hxk
              exact hnew x.key (List.mem_map_of_mem hx) ((beq_iff_eq.1 hxk).trans hkey.symm)
            rw [List.find?_append, hnone, none_preferred, Option.none_or]
          · have hnone : ([e].find? fun x => x.key == k) = none := by simp [hkey]
            rw [List.find?_append, hnone, preferred_none, Option.or_none]
        rw [mergeAll_concat, find?_mergeOne, hfind, preferred_assoc, hlast]

/-- The keys of merged variables: the old ones, and the new ones behind them. -/
theorem keys_merge (v other : Variables) (overwrite : Bool) :
    (v.merge other overwrite).entries.keys = extendKeys v.entries.keys other.entries.keys := by
  rw [merge_eq_mergeAll]
  exact (mergeAll_eq overwrite v other.entries.nodup).1

/-- Under each key stands the variable of the side that goes first, as it is spelled there. -/
theorem find?_merge (v other : Variables) (overwrite : Bool) (k : String) :
    (v.merge other overwrite).entries.find? k =
      preferred overwrite (v.entries.find? k) (other.entries.find? k) := by
  rw [merge_eq_mergeAll]
  exact (mergeAll_eq overwrite v other.entries.nodup).2 k

/-! ### The laws -/

theorem eq_of_keys {v v' : Variables} (hkeys : v.entries.keys = v'.entries.keys)
    (hfind : ∀ k, v.entries.find? k = v'.entries.find? k) : v = v' :=
  Variables.ext (congrArg Keyed.toList (Keyed.eq_of_keys hkeys hfind))

theorem merge_assoc (a b c : Variables) (overwrite : Bool) :
    (a.merge b overwrite).merge c overwrite = a.merge (b.merge c overwrite) overwrite := by
  refine eq_of_keys ?_ fun k => ?_
  · simp only [keys_merge, extendKeys_assoc]
  · simp only [find?_merge, preferred_assoc]

theorem empty_merge (v : Variables) (overwrite : Bool) : empty.merge v overwrite = v := by
  refine eq_of_keys ?_ fun k => ?_
  · rw [keys_merge]
    exact nil_extendKeys _
  · rw [find?_merge]
    exact none_preferred overwrite _

theorem merge_empty (v : Variables) (overwrite : Bool) : v.merge empty overwrite = v := rfl

theorem merge_self (v : Variables) (overwrite : Bool) : v.merge v overwrite = v := by
  refine eq_of_keys ?_ fun k => ?_
  · rw [keys_merge, extendKeys_of_subset fun k hk => hk]
  · rw [find?_merge, preferred_self]

/-- The listing of merged variables, from the listings of both. -/
theorem toList_merge (v other : Variables) (overwrite : Bool) :
    (v.merge other overwrite).toList =
      v.toList.map (fun e => if overwrite then (other.entries.find? e.key).getD e else e) ++
        other.toList.filter fun e => !v.contains e.name := by
  have hold : v.entries.keys.filterMap (v.merge other overwrite).entries.find? =
      v.toList.map fun e => if overwrite then (other.entries.find? e.key).getD e else e := by
    rw [Keyed.keys, List.filterMap_map, ← List.filterMap_eq_map]
    refine List.filterMap_congr fun e he => ?_
    rw [Function.comp_apply, find?_merge, Keyed.find?_key_of_mem he, preferred_some]
    rfl
  have hkeys : (other.entries.keys.filter fun k => k ∉ v.entries.keys) =
      (other.toList.filter fun e => !v.contains e.name).map Variable.key := by
    have hread : other.entries.keys = other.toList.map Variable.key := rfl
    rw [hread, List.filter_map]
    refine congrArg _ (List.filter_congr fun e _ => ?_)
    simp [mem_keys_iff]
  have hnew : (other.entries.keys.filter fun k => k ∉ v.entries.keys).filterMap
      (v.merge other overwrite).entries.find? =
        (other.toList.filter fun e => !v.contains e.name).filterMap some := by
    rw [hkeys, List.filterMap_map]
    refine List.filterMap_congr fun e he => ?_
    obtain ⟨hmem, hfresh⟩ := List.mem_filter.1 he
    have hnone : v.entries.find? e.key = none := by
      rw [Keyed.find?_eq_none_iff, mem_keys_iff]
      simpa using hfresh
    rw [Function.comp_apply, find?_merge, hnone, none_preferred, Keyed.find?_key_of_mem hmem]
  have hlist := Keyed.toList_eq_filterMap (v.merge other overwrite).entries
  rw [keys_merge, extendKeys, List.filterMap_append, hold, hnew,
    List.filterMap_some] at hlist
  exact hlist

/-- **Merging.** With either precedence, merging is associative, has no variables as its unit on
both sides, and merging the same once more changes nothing; what is equal here is equal in values,
spellings and order. The old keys stay where they are, the new ones come behind them in their own
order, and the variable under a key is taken over as it is written, unless there is one already and
it is not to be overwritten. -/
theorem merge_laws (a b c : Variables) (overwrite : Bool) :
    (a.merge b overwrite).merge c overwrite = a.merge (b.merge c overwrite) overwrite ∧
      empty.merge a overwrite = a ∧ a.merge empty overwrite = a ∧
      (a.merge b overwrite).merge b overwrite = a.merge b overwrite ∧
      (a.merge b overwrite).entries.keys =
        a.entries.keys ++ b.entries.keys.filter (fun k => k ∉ a.entries.keys) ∧
      (a.merge b overwrite).toList =
        a.toList.map (fun e => if overwrite then (b.entries.find? e.key).getD e else e) ++
          b.toList.filter fun e => !a.contains e.name := by
  refine ⟨merge_assoc a b c overwrite, empty_merge a overwrite, merge_empty a overwrite, ?_,
    keys_merge a b overwrite, toList_merge a b overwrite⟩
  rw [merge_assoc, merge_self]

example : ((ofPairs [("A", "1"), ("b", "2")]).merge (ofPairs [("c", "3"), ("a", "4")]) true).pairs =
    [("a", "4"), ("b", "2"), ("c", "3")] := by decide +kernel

end Variables

end PromptPlan
