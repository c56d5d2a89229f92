import Mathlib.Data.Set.Function
import Mathlib.Tactic.ByContra
import StorageLayout.Extraction.Artifact
import StorageLayout.Proofs.Dictionary
import StorageLayout.Proofs.Lists
import StorageLayout.Proofs.TypeDefinition.Skeleton
import StorageLayout.Proofs.TypeDefinition.Reachability

/-!
# Layouts that differ by a recompilation

From one build to the next the compiler may choose other keys for types, other labels and contract
paths, another order of the entries of a dictionary, and it may list entries that no variable needs.
What is left is a correspondence between the keys that the variables use: entries are found under
the new keys and refer to the new keys, and keys without an entry stay what they are.
-/
namespace StorageLayout

namespace RawLayout

/-- The keys that variables use: their types and, where such a key has an entry, all that the entry
refers to. A used key need not have an entry. -/
inductive Uses (storage : List RawEntry) (types : TypeDictionary) : String → Prop where
  | ofVariable {entry : RawEntry} (listed : entry ∈ storage) : Uses storage types entry.typeKey
  | ofEntry {key reference : String} {definition : TypeDefinition} (used : Uses storage types key)
      (entered : types.find? key = some definition) (listed : reference ∈ definition.references) :
      Uses storage types reference

/-- The keys that occur in a layout: those with an entry, and those that are referred to. -/
inductive Mentions (storage : List RawEntry) (types : TypeDictionary) : String → Prop where
  | asKey {key : String} (entry : types.contains key) : Mentions storage types key
  | ofVariable {entry : RawEntry} (listed : entry ∈ storage) : Mentions storage types entry.typeKey
  | ofEntry {key reference : String} {definition : TypeDefinition}
      (entered : types.find? key = some definition) (listed : reference ∈ definition.references) :
      Mentions storage types reference

theorem Uses.mentions {storage : List RawEntry} {types : TypeDictionary} {key : String}
    (used : Uses storage types key) : Mentions storage types key := by
  cases used with
  | ofVariable listed => exact .ofVariable listed
  | ofEntry _ entered listed => exact .ofEntry entered listed

end RawLayout

/-- The same variable with another key for its type. -/
structure RawEntry.Renamed (rename : String → String) (old new : RawEntry) : Prop where
  label : new.label = old.label
  slot : new.slot = old.slot
  offset : new.offset = old.offset
  typeKey : new.typeKey = rename old.typeKey

/-- The entry under its new key. It refers to the new keys, and its label and the contracts of its
members may be others. -/
def TypeDictionary.RenamedEntry (rename : String → String) (old new : String × TypeDefinition) :
    Prop :=
  new.1 = rename old.1 ∧ new.2.node = old.2.node.map rename

/-- The dictionary after a recompilation: keys are renamed apart, those that do not resolve are
kept, entries are permuted, and entries that are not used come and go. -/
structure TypeDictionary.Recompiled (rename : String → String) (storage storage' : List RawEntry)
    (types types' : TypeDictionary) : Prop where
  injective : Set.InjOn rename {key | RawLayout.Mentions storage types key}
  dangling : ∀ key, RawLayout.Mentions storage types key → types.find? key = none →
    rename key = key
  entries : ∃ kept kept' removed added, types.entries.Perm (kept ++ removed) ∧
    types'.entries.Perm (kept' ++ added) ∧
    List.Forall₂ (RenamedEntry rename) kept kept' ∧
    (∀ entry ∈ removed, ¬ RawLayout.Uses storage types entry.1) ∧
    ∀ entry ∈ added, ¬ RawLayout.Uses storage' types' entry.1

/-- The layout after a recompilation without a change of the layout. -/
structure RawLayout.Recompiled (rename : String → String) (old new : RawLayout) : Prop where
  storage : List.Forall₂ (RawEntry.Renamed rename) old.storage new.storage
  types : (old.types = none ∧ new.types = none) ∨ ∃ types types', old.types = some types ∧
    new.types = some types' ∧
    TypeDictionary.Recompiled rename old.storage new.storage types types'

/-- Two scopes correspond on a set of keys that is closed under references. -/
structure TypeScope.Corresponds (rename : String → String) (used : Set String) (s t : TypeScope) :
    Prop where
  contract : t.contract = s.contract
  injective : Set.InjOn rename used
  closed : ∀ key ∈ used, ∀ definition, s.find? key = some definition →
    ∀ reference ∈ definition.references, reference ∈ used
  entry : ∀ key ∈ used, ∀ definition, s.find? key = some definition →
    ∃ definition', t.find? (rename key) = some definition' ∧
      definition'.node = definition.node.map rename
  absent : ∀ key ∈ used, s.find? key = none → rename key = key ∧ t.find? key = none

namespace TypeDictionary.Recompiled

open RawLayout (Uses Mentions)

variable {rename : String → String} {storage storage' : List RawEntry}
  {types types' : TypeDictionary}

theorem mem_references_of_node {definition definition' : TypeDefinition}
    (node : definition'.node = definition.node.map rename) (reference : String) :
    reference ∈ definition'.references ↔ ∃ old ∈ definition.references, rename old = reference := by
  rw [← mem_references_node_iff, node, TypeNode.references_map, List.mem_map]
  simp only [mem_references_node_iff]

/-- Entries that are used are found under their new keys. -/
theorem entry (recompiled : Recompiled rename storage storage' types types') {key : String}
    {definition : TypeDefinition} (used : Uses storage types key)
    (entered : types.find? key = some definition) :
    ∃ definition', types'.find? (rename key) = some definition' ∧
      definition'.node = definition.node.map rename := by
  obtain ⟨kept, kept', removed, added, old, new, paired, unused, -⟩ := recompiled.entries
  have listed := old.mem_iff.1 ((Dictionary.find?_eq_some_iff types key definition).1 entered)
  rcases List.mem_append.1 listed with listed | listed
  · obtain ⟨⟨key', definition'⟩, listed', rfl, node⟩ := exists_of_forall₂ paired listed
    refine ⟨definition', ?_, node⟩
    exact (Dictionary.find?_eq_some_iff types' _ _).2
      (new.mem_iff.2 (List.mem_append_left added listed'))
  · exact absurd used (unused _ listed)

theorem uses (recompiled : Recompiled rename storage storage' types types')
    (renamed : List.Forall₂ (RawEntry.Renamed rename) storage storage') {key : String}
    (used : Uses storage types key) : Uses storage' types' (rename key) := by
  induction used with
  | ofVariable listed =>
    obtain ⟨entry', listed', same⟩ := exists_of_forall₂ renamed listed
    rw [← same.typeKey]
    exact .ofVariable listed'
  | ofEntry used entered listed ih =>
    obtain ⟨definition', entered', node⟩ := recompiled.entry used entered
    exact .ofEntry ih entered' ((mem_references_of_node node _).2 ⟨_, listed, rfl⟩)

/-- A used key without an entry is kept, and has no entry afterwards either. -/
theorem absent (recompiled : Recompiled rename storage storage' types types')
    (renamed : List.Forall₂ (RawEntry.Renamed rename) storage storage') {key : String}
    (used : Uses storage types key) (absent : types.find? key = none) :
    rename key = key ∧ types'.find? key = none := by
  have kept_key := recompiled.dangling key used.mentions absent
  refine ⟨kept_key, ?_⟩
  by_contra resolved
  obtain ⟨definition', entered'⟩ := Option.ne_none_iff_exists'.1 resolved
  obtain ⟨kept, kept', removed, added, old, new, paired, -, unused⟩ := recompiled.entries
  have listed := new.mem_iff.1 ((Dictionary.find?_eq_some_iff types' key definition').1 entered')
  rcases List.mem_append.1 listed with listed | listed
  · -- The entry comes from one of the old keys, which can only be this one.
    obtain ⟨⟨key₀, definition⟩, listed₀, same, -⟩ := exists_of_forall₂ paired.flip listed
    have entered := (Dictionary.find?_eq_some_iff types key₀ definition).2
      (old.mem_iff.2 (List.mem_append_left removed listed₀))
    have mentioned : Mentions storage types key₀ :=
      .asKey (Option.isSome_iff_exists.2 ⟨definition, entered⟩)
    obtain rfl : key = key₀ :=
      recompiled.injective used.mentions mentioned (kept_key.trans same)
    rw [absent] at entered
    cases entered
  · have used' := recompiled.uses renamed used
    rw [kept_key] at used'
    exact unused _ listed used'

/-- The scopes before and after a recompilation correspond on the keys that are used. -/
theorem corresponds (recompiled : Recompiled rename storage storage' types types')
    (renamed : List.Forall₂ (RawEntry.Renamed rename) storage storage') (name : String) :
    TypeScope.Corresponds rename {key | Uses storage types key} ⟨name, types⟩ ⟨name, types'⟩ where
  contract := rfl
  injective := recompiled.injective.mono fun _ used => used.mentions
  closed _ used _ entered _ listed := .ofEntry used entered listed
  entry _ used _ entered := recompiled.entry used entered
  absent _ used absent := recompiled.absent renamed used absent

end TypeDictionary.Recompiled

namespace TypeScope.Corresponds

open TypeDictionary

variable {rename : String → String} {used : Set String} {s t : TypeScope}

theorem contains_iff (corresponds : Corresponds rename used s t) {key : String}
    (member : key ∈ used) :
    t.types.contains (rename key) ↔ s.types.contains key := by
  rw [Dictionary.contains, Dictionary.contains]
  change (t.find? (rename key)).isSome ↔ (s.find? key).isSome
  cases entered : s.find? key with
  | none =>
    obtain ⟨kept, absent⟩ := corresponds.absent key member entered
    rw [kept, absent]
  | some definition =>
    obtain ⟨definition', entered', -⟩ := corresponds.entry key member definition entered
    rw [entered']
    simp

/-- What a renamed entry refers to are the new keys of what the entry refers to. -/
theorem exists_of_refers (corresponds : Corresponds rename used s t) {key target : String}
    (member : key ∈ used) (edge : t.types.Refers (rename key) target) :
    ∃ reference ∈ used, target = rename reference ∧ s.types.Refers key reference := by
  have entry := (corresponds.contains_iff member).1 edge.contains_source
  obtain ⟨definition, entered⟩ := Option.isSome_iff_exists.1 entry
  obtain ⟨own, entered', node⟩ := corresponds.entry key member definition entered
  obtain ⟨definition', entered'', listed, target_entry⟩ := edge
  obtain rfl := Option.some.inj (entered'.symm.trans entered'')
  obtain ⟨reference, listed', rfl⟩ := (Recompiled.mem_references_of_node node target).1 listed
  have inside := corresponds.closed key member definition entered reference listed'
  exact ⟨reference, inside, rfl, definition, entered, listed',
    (corresponds.contains_iff inside).1 target_entry⟩

theorem refers (corresponds : Corresponds rename used s t) {key reference : String}
    (member : key ∈ used) (edge : s.types.Refers key reference) :
    reference ∈ used ∧ t.types.Refers (rename key) (rename reference) := by
  obtain ⟨definition, entered, listed, entry⟩ := edge
  have inside := corresponds.closed key member definition entered reference listed
  obtain ⟨definition', entered', node⟩ := corresponds.entry key member definition entered
  exact ⟨inside, definition', entered', (Recompiled.mem_references_of_node node _).2
    ⟨reference, listed, rfl⟩, (corresponds.contains_iff inside).2 entry⟩

/-- New keys lead to each other as the old ones do. -/
theorem leadsTo_iff (corresponds : Corresponds rename used s t) {key target : String}
    (member : key ∈ used) (target_member : target ∈ used) :
    t.types.LeadsTo (rename key) (rename target) ↔ s.types.LeadsTo key target := by
  constructor
  · intro path
    have back : ∀ place, t.types.LeadsTo (rename key) place →
        ∃ reference ∈ used, place = rename reference ∧ s.types.LeadsTo key reference := by
      intro place path
      induction path with
      | single edge =>
        obtain ⟨reference, inside, same, edge'⟩ := corresponds.exists_of_refers member edge
        exact ⟨reference, inside, same, .single edge'⟩
      | tail _ edge ih =>
        obtain ⟨middle, inside, rfl, path'⟩ := ih
        obtain ⟨reference, inside', same, edge'⟩ := corresponds.exists_of_refers inside edge
        exact ⟨reference, inside', same, path'.tail edge'⟩
    obtain ⟨reference, inside, same, path'⟩ := back _ path
    obtain rfl := corresponds.injective target_member inside same
    exact path'
  · intro path
    have forth : ∀ place, s.types.LeadsTo key place →
        place ∈ used ∧ t.types.LeadsTo (rename key) (rename place) := by
      intro place path
      induction path with
      | single edge =>
        obtain ⟨inside, edge'⟩ := corresponds.refers member edge
        exact ⟨inside, .single edge'⟩
      | tail _ edge ih =>
        obtain ⟨inside, edge'⟩ := corresponds.refers ih.1 edge
        exact ⟨inside, ih.2.tail edge'⟩
    exact (forth _ path).2

end TypeScope.Corresponds
end StorageLayout
