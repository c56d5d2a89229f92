import StorageLayout.Fingerprint.Basic
import StorageLayout.Proofs.Dictionary
import StorageLayout.Proofs.TypeDefinition.Inlining
import StorageLayout.Proofs.TypeDefinition.Reachability

/-!
# Why the context of a key suffices

A path of ancestors influences what is inlined below its end only through back-references, and these
can only go to ancestors that the end reaches again. Such ancestors form an unbroken run at the
lower end of the path, because each ancestor reaches all those below it: the run is the context.
Paths of one key with equal contexts are therefore interchangeable, whatever is built from the type.
-/
namespace StorageLayout

namespace TypeDictionary

variable {types : TypeDictionary}

/-- A path from the parent of a key to the root: each ancestor refers to the one below it. -/
def Ancestry (types : TypeDictionary) : String → List String → Prop
  | _, [] => True
  | key, parent :: rest => types.Refers parent key ∧ Ancestry types parent rest

theorem ancestry_nil (key : String) : types.Ancestry key [] := trivial

theorem Ancestry.cons {key reference : String} {path : List String}
    (ancestry : types.Ancestry key path) (edge : types.Refers key reference) :
    types.Ancestry reference (key :: path) :=
  ⟨edge, ancestry⟩

/-- Every ancestor leads to the key. -/
theorem Ancestry.leadsTo {key : String} {path : List String} (ancestry : types.Ancestry key path)
    {ancestor : String} (member : ancestor ∈ path) : types.LeadsTo ancestor key := by
  induction path generalizing key with
  | nil => simp at member
  | cons parent rest ih =>
    rcases List.mem_cons.1 member with rfl | member
    · exact .single ancestry.1
    · exact (ih ancestry.2 member).tail ancestry.1

end TypeDictionary

namespace Canonicalizer

/-- The reachability table agrees with the reference graph. -/
def Faithful (c : Canonicalizer) : Prop :=
  ∀ source target, c.reaches source target ↔ c.types.LeadsTo source target

/-- The table that is built for a dictionary agrees with its reference graph. -/
theorem faithful_ofScope (hash : String → String) (s : TypeScope) :
    (ofScope hash s).Faithful := by
  intro source target
  have distinct : (s.types.entries.map fun entry =>
      (entry.1, s.types.reachedFrom entry.2)).Pairwise (fun a b => (a.1 == b.1) = false) := by
    have keys_distinct := s.types.keys_distinct
    rw [List.Nodup, List.pairwise_map] at keys_distinct
    rw [List.pairwise_map]
    exact keys_distinct.imp fun unequal => by simpa using unequal
  cases entered : s.types.find? source with
  | some definition =>
    have member := (Dictionary.find?_eq_some_iff s.types source definition).1 entered
    have stored : (ofScope hash s).reach[source]? = some (s.types.reachedFrom definition) :=
      Std.HashMap.getElem?_ofList_of_mem BEq.rfl distinct
        (List.mem_map.2 ⟨(source, definition), member, rfl⟩)
    rw [reaches, stored]
    exact TypeDictionary.mem_reachedFrom_iff entered
  | none =>
    have absent := (Dictionary.find?_eq_none_iff s.types source).1 entered
    have stored : (ofScope hash s).reach[source]? = none := by
      apply Std.HashMap.getElem?_ofList_of_contains_eq_false
      simpa [Dictionary.keys] using absent
    have dead : ¬ s.types.LeadsTo source target := fun path => by
      simpa [Dictionary.contains, entered] using path.contains_source
    have lost : (ofScope hash s).reaches source target = false := by rw [reaches, stored]
    rw [lost]
    exact iff_of_false (by simp) dead

variable {c : Canonicalizer}

/-- The ancestors that a key reaches stand where they stand in the run of those that it reaches. -/
theorem idxOf?_takeWhile (faithful : c.Faithful) {base target key : String} {path : List String}
    (ancestry : c.types.Ancestry key path) (reached : c.types.LeadsTo base target) :
    path.idxOf? target = (path.takeWhile (c.reaches base ·)).idxOf? target := by
  induction path generalizing key with
  | nil => rfl
  | cons parent rest ih =>
    by_cases in_run : c.reaches base parent
    · simp [in_run, List.idxOf?_cons, ih ancestry.2]
    · -- A target further up would lead down to the parent, which is not reached.
      have absent : target ∉ parent :: rest := by
        intro member
        apply in_run
        rcases List.mem_cons.1 member with rfl | member
        · exact (faithful base target).2 reached
        · exact (faithful base parent).2 (reached.trans (ancestry.2.leadsTo member))
      have unindexed : (parent :: rest).idxOf? target = none := by simpa using absent
      rw [unindexed, List.takeWhile_cons_of_neg in_run]
      rfl

theorem idxOf?_context (faithful : c.Faithful) {key target : String} {path : List String}
    (ancestry : c.types.Ancestry key path) (reached : c.types.LeadsTo key target) :
    path.idxOf? target = (c.context key path).idxOf? target :=
  idxOf?_takeWhile faithful ancestry reached

/-- The context is the run of ancestors that lie on a cycle with the key. -/
theorem context_eq_takeWhile_cycle (faithful : c.Faithful) {key : String} {path : List String}
    (ancestry : c.types.Ancestry key path) :
    c.context key path = path.takeWhile fun a => c.reaches key a && c.reaches a key := by
  have back : ∀ ancestor ∈ path, c.reaches ancestor key :=
    fun ancestor member => (faithful ancestor key).2 (ancestry.leadsTo member)
  clear ancestry
  unfold context
  induction path with
  | nil => rfl
  | cons ancestor rest ih =>
    have tail := ih fun other member => back other (by simp [member])
    rw [List.takeWhile_cons, List.takeWhile_cons, tail, back ancestor (by simp), Bool.and_true]

/-- The context of a referred key: it goes on with the context of the key, or it is empty. -/
theorem context_cons (faithful : c.Faithful) {key reference : String} (path : List String)
    (edge : c.types.Refers key reference) :
    c.context reference (key :: path) =
      if c.reaches reference key then key :: c.context key path else [] := by
  rw [context, List.takeWhile_cons]
  by_cases back : c.reaches reference key
  · have one_cycle : ∀ target, c.reaches reference target = c.reaches key target := by
      intro target
      rw [Bool.eq_iff_iff, faithful, faithful]
      exact ⟨fun path => .head edge path, fun path => ((faithful _ _).1 back).trans path⟩
    simp [back, context, one_cycle]
  · simp [back]

/-- Paths with equal contexts are interchangeable for whatever is built from the key's type. -/
theorem inline_eq_of_context_eq {α : Type} (faithful : c.Faithful) (build : Inlining α)
    {key : String} {path other : List String} (ancestry : c.types.Ancestry key path)
    (ancestry' : c.types.Ancestry key other) (fresh : key ∉ path) (fresh' : key ∉ other)
    (same : c.context key path = c.context key other) :
    c.inline build key path = c.inline build key other := by
  -- Both paths grow by the same key at each step, and so do their contexts, unless they end there.
  fun_induction TypeScope.inline c.toTypeScope build key path generalizing other with
  | case1 key path above found => simp [List.idxOf?_eq_none_iff.2 fresh] at found
  | case2 key path _ absent => rw [TypeScope.inline_of_absent fresh' absent]
  | case3 key path _ definition entered ih =>
    rw [TypeScope.inline_of_find? fresh' entered]
    congr 1
    apply TypeNode.map_congr
    intro reference member
    have listed := (TypeDictionary.mem_references_node_iff definition reference).1 member
    by_cases entry : c.types.contains reference
    · have edge : c.types.Refers key reference := ⟨definition, entered, listed, entry⟩
      have same_index : (key :: path).idxOf? reference = (key :: other).idxOf? reference := by
        rw [List.idxOf?_cons, List.idxOf?_cons, idxOf?_context faithful ancestry (.single edge),
          idxOf?_context faithful ancestry' (.single edge), same]
      cases index : (key :: path).idxOf? reference with
      | some above =>
        rw [TypeScope.inline_of_idxOf? index, TypeScope.inline_of_idxOf? (same_index ▸ index)]
      | none =>
        have below_fresh : reference ∉ key :: path := by simpa using index
        have below_fresh' : reference ∉ key :: other := by
          rw [same_index] at index
          simpa using index
        refine ih reference (ancestry.cons edge) (ancestry'.cons edge) below_fresh below_fresh' ?_
        rw [context_cons faithful path edge, context_cons faithful other edge, same]
    · have absent : c.find? reference = none := by
        simpa [TypeScope.find?, Dictionary.contains] using entry
      have unrelated : ∀ {q : List String}, c.types.Ancestry key q → reference ∉ key :: q := by
        intro q above member
        rcases List.mem_cons.1 member with rfl | member
        · exact entry (by rw [Dictionary.contains]; exact Option.isSome_iff_exists.2 ⟨_, entered⟩)
        · exact entry (above.leadsTo member).contains_source
      rw [TypeScope.inline_of_absent (unrelated ancestry) absent,
        TypeScope.inline_of_absent (unrelated ancestry') absent]

end Canonicalizer
end StorageLayout
