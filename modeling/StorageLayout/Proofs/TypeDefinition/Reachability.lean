import Mathlib.Data.Set.Card
import Mathlib.Logic.Relation
import StorageLayout.Proofs.Dictionary
import StorageLayout.TypeDefinition.Node
import StorageLayout.TypeDefinition.Reach

/-!
# The reference graph of a dictionary

The keys of a dictionary are the nodes of a graph, with an edge wherever an entry refers to another
entry. The walk that collects the keys reached from an entry finds exactly those that a path of at
least one edge leads to. Two keys are on one cycle when each leads to the other.
-/
namespace StorageLayout.TypeDictionary

open Relation (TransGen ReflTransGen)

/-- The entry of one key refers to the other key, which has an entry too. -/
def Refers (types : TypeDictionary) (source target : String) : Prop :=
  ∃ definition, types.find? source = some definition ∧ target ∈ definition.references ∧
    types.contains target

/-- A path of at least one reference leads from one key to the other. -/
def LeadsTo (types : TypeDictionary) : String → String → Prop := TransGen types.Refers

variable {types : TypeDictionary}

theorem Refers.contains_source {source target : String} (edge : types.Refers source target) :
    types.contains source := by
  obtain ⟨definition, found, -, -⟩ := edge
  rw [Dictionary.contains, found]
  rfl

theorem Refers.contains_target {source target : String} (edge : types.Refers source target) :
    types.contains target :=
  edge.choose_spec.2.2

theorem LeadsTo.contains_source {source target : String} (path : types.LeadsTo source target) :
    types.contains source := by
  cases path using TransGen.head_induction_on with
  | single edge => exact edge.contains_source
  | head edge _ _ => exact edge.contains_source

/-- Nothing leads to a key that no entry refers to. -/
theorem not_leadsTo_of_unnamed {source target : String}
    (unnamed : ∀ entry ∈ types.entries, target ∉ entry.2.references) :
    ¬ types.LeadsTo source target := by
  have no_edge (last : String) : ¬ types.Refers last target := by
    rintro ⟨definition, entered, listed, -⟩
    exact unnamed _ ((Dictionary.find?_eq_some_iff _ _ _).1 entered) listed
  intro path
  cases path with
  | single edge => exact no_edge _ edge
  | tail _ edge => exact no_edge _ edge

/-- Nothing that was found is lost. -/
theorem mem_follow_of_mem (found : Std.HashSet String) (keys : List String) {key : String}
    (member : key ∈ found) : key ∈ types.follow found keys := by
  fun_induction follow types found keys with
  | case1 found => exact member
  | case2 found head rest _ ih => exact ih member
  | case3 found head rest _ _ ih => exact ih member
  | case4 found head rest _ definition _ ih => exact ih (by simp [member])

/-- The keys that the walk starts from are found, if they have entries. -/
theorem mem_follow_of_mem_keys (found : Std.HashSet String) (keys : List String) {key : String}
    (member : key ∈ keys) (entry : types.contains key) : key ∈ types.follow found keys := by
  fun_induction follow types found keys with
  | case1 found => simp at member
  | case2 found head rest known ih =>
    rcases List.mem_cons.1 member with rfl | member
    · exact mem_follow_of_mem found rest known
    · exact ih member
  | case3 found head rest _ absent ih =>
    rcases List.mem_cons.1 member with rfl | member
    · simp [Dictionary.contains, absent] at entry
    · exact ih member
  | case4 found head rest _ definition _ ih =>
    rcases List.mem_cons.1 member with rfl | member
    · exact mem_follow_of_mem _ _ (by simp)
    · exact ih (by simp [member])

/-- Whatever is found was found before, or a path leads to it from a key of the list. -/
theorem follow_sound (found : Std.HashSet String) (keys : List String) {target : String}
    (member : target ∈ types.follow found keys) :
    target ∈ found ∨ ∃ key ∈ keys, types.contains key ∧ ReflTransGen types.Refers key target := by
  fun_induction follow types found keys with
  | case1 found => exact Or.inl member
  | case2 found head rest _ ih =>
    rcases ih member with before | ⟨key, listed, entry, path⟩
    · exact Or.inl before
    · exact Or.inr ⟨key, by simp [listed], entry, path⟩
  | case3 found head rest _ _ ih =>
    rcases ih member with before | ⟨key, listed, entry, path⟩
    · exact Or.inl before
    · exact Or.inr ⟨key, by simp [listed], entry, path⟩
  | case4 found head rest _ definition entered ih =>
    have entry : types.contains head := by simp [Dictionary.contains, entered]
    rcases ih member with before | ⟨key, listed, reached, path⟩
    · rcases Std.HashSet.mem_insert.1 before with same | before
      · obtain rfl := eq_of_beq same
        exact Or.inr ⟨head, by simp, entry, .refl⟩
      · exact Or.inl before
    · rcases List.mem_append.1 listed with referred | listed
      · exact Or.inr ⟨head, by simp, entry,
          .head ⟨definition, entered, referred, reached⟩ path⟩
      · exact Or.inr ⟨key, by simp [listed], reached, path⟩

/-- If the references of all found keys are found or listed, the result is closed under
references. -/
theorem follow_closed (found : Std.HashSet String) (keys : List String)
    (pending : ∀ source ∈ found, ∀ target, types.Refers source target →
      target ∈ found ∨ target ∈ keys) {source target : String}
    (member : source ∈ types.follow found keys) (edge : types.Refers source target) :
    target ∈ types.follow found keys := by
  fun_induction follow types found keys with
  | case1 found => exact (pending source member target edge).resolve_right (by simp)
  | case2 found head rest known ih =>
    refine ih (fun a inside b referred => ?_) member
    rcases pending a inside b referred with before | listed
    · exact Or.inl before
    · rcases List.mem_cons.1 listed with rfl | listed
      · exact Or.inl known
      · exact Or.inr listed
  | case3 found head rest _ absent ih =>
    refine ih (fun a inside b referred => ?_) member
    rcases pending a inside b referred with before | listed
    · exact Or.inl before
    · rcases List.mem_cons.1 listed with rfl | listed
      · have entry := referred.contains_target
        simp [Dictionary.contains, absent] at entry
      · exact Or.inr listed
  | case4 found head rest _ definition entered ih =>
    refine ih (fun a inside b referred => ?_) member
    rcases Std.HashSet.mem_insert.1 inside with same | inside
    · obtain rfl := eq_of_beq same
      obtain ⟨own, entered', listed, -⟩ := referred
      obtain rfl := Option.some.inj (entered.symm.trans entered')
      exact Or.inr (by simp [listed])
    · rcases pending a inside b referred with before | listed
      · exact Or.inl (by simp [before])
      · rcases List.mem_cons.1 listed with rfl | listed
        · exact Or.inl (by simp)
        · exact Or.inr (by simp [listed])

/-- The keys collected for an entry are exactly those that a path leads to from its key. -/
theorem mem_reachedFrom_iff {source target : String} {definition : TypeDefinition}
    (entered : types.find? source = some definition) :
    target ∈ types.reachedFrom definition ↔ types.LeadsTo source target := by
  constructor
  · intro member
    rcases follow_sound ∅ definition.references member with before | ⟨key, listed, entry, path⟩
    · simp at before
    · exact TransGen.head' ⟨definition, entered, listed, entry⟩ path
  · intro path
    induction path with
    | single edge =>
      obtain ⟨own, entered', listed, entry⟩ := edge
      obtain rfl := Option.some.inj (entered.symm.trans entered')
      exact mem_follow_of_mem_keys ∅ definition.references listed entry
    | tail _ edge ih => exact follow_closed ∅ definition.references (by simp) ih edge

/-- A node refers to the same keys as its definition, in another order. -/
theorem mem_references_node_iff (definition : TypeDefinition) (key : String) :
    key ∈ definition.node.references ↔ key ∈ definition.references := by
  cases members : definition.members with
  | none =>
    simp [TypeDefinition.node, TypeNode.references, TypeDefinition.references, members]
  | some listed =>
    simp [TypeDefinition.node, TypeNode.references, TypeDefinition.references, members]
    grind

/-- The keys of the entries that a key reaches, its own among them. -/
def reachable (types : TypeDictionary) (key : String) : Set String :=
  {target | types.contains target ∧ ReflTransGen types.Refers key target}

theorem finite_reachable (types : TypeDictionary) (key : String) :
    (types.reachable key).Finite :=
  types.keys.finite_toSet.subset fun _ reached => (Dictionary.contains_iff _ _).1 reached.1

theorem length_le_ncard_reachable {key : String} {keys : List String}
    (distinct : keys.Nodup) (reached : ∀ target ∈ keys, target ∈ types.reachable key) :
    keys.length ≤ (types.reachable key).ncard := by
  rw [← List.toFinset_card_of_nodup distinct, ← Set.ncard_coe_finset]
  refine Set.ncard_le_ncard (fun target member => reached target ?_) (types.finite_reachable key)
  simpa using member

theorem ncard_reachable_le (types : TypeDictionary) (key : String) :
    (types.reachable key).ncard ≤ types.keys.length := by
  have within : types.reachable key ⊆ types.keys.toFinset := by
    intro target reached
    simpa using (Dictionary.contains_iff _ _).1 reached.1
  calc
    (types.reachable key).ncard ≤ (types.keys.toFinset : Set String).ncard :=
      Set.ncard_le_ncard within (Finset.finite_toSet _)
    _ = types.keys.toFinset.card := Set.ncard_coe_finset _
    _ ≤ types.keys.length := List.toFinset_card_le _

end StorageLayout.TypeDictionary
