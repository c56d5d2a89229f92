import Mathlib.Data.Set.Function
import Mathlib.Tactic.ByContra
import StorageLayout.Proofs.TypeDefinition.Reachability
import StorageLayout.Proofs.TypeDefinition.Shape

/-!
# Other names for the same types

A compiler may choose other keys for the entries of a dictionary, other labels for types and other
contract paths for members, as long as a key without an entry stays what it is. Walks in lockstep do
not see any of this, so that everything that is built by inlining stays the same.
-/
namespace StorageLayout.TypeScope

/-- The entries of one scope under other keys in the other scope, where labels and contracts may
differ and references to keys without entries are kept. -/
structure Relabels (s t : TypeScope) (rename : String → String) : Prop where
  injective : Set.InjOn rename {key | s.types.contains key}
  entry : ∀ key definition, s.find? key = some definition → ∃ definition',
    t.find? (rename key) = some definition' ∧ definition'.node = definition.node.map rename
  dangling : ∀ key definition, s.find? key = some definition →
    ∀ reference ∈ definition.references, s.find? reference = none →
      rename reference = reference ∧ t.find? reference = none

variable {s t : TypeScope} {rename : String → String}

/-- New keys leave a key at its place in a path. -/
theorem idxOf?_map {target : String} {path : List String}
    (distinguishes : ∀ key ∈ path, rename key = rename target → key = target) :
    (path.map rename).idxOf? (rename target) = path.idxOf? target := by
  induction path with
  | nil => rfl
  | cons key rest ih =>
    have tail := ih fun other member => distinguishes other (by simp [member])
    rw [List.map_cons, List.idxOf?_cons, List.idxOf?_cons, tail]
    by_cases same : key = target
    · simp [same]
    · have apart : rename key ≠ rename target := fun e => same (distinguishes key (by simp) e)
      simp [same, apart]

/-- In lockstep from a key and its new name, the second walk stands at the new name of where the
first one stands. -/
theorem Relabels.renamed (relabels : s.Relabels t rename) {key : String}
    (entry : s.types.contains key) {place place' : String × List String}
    (reached : Lockstep s t (key, []) (rename key, []) place place') :
    place' = (rename place.1, place.2.map rename) ∧
      (∀ ancestor ∈ place.2, s.types.contains ancestor) ∧
      (s.find? place.1 = none → rename place.1 = place.1 ∧ t.find? place.1 = none) := by
  induction reached with
  | here =>
    refine ⟨rfl, by simp, fun absent => ?_⟩
    simp [Dictionary.contains, show s.types.find? key = none from absent] at entry
  | @next at_key at_key' path path' definition definition' reference reference' position _ _ _
      entered entered' listed listed' ih =>
    obtain ⟨same, known, -⟩ := ih
    obtain ⟨rfl, rfl⟩ := Prod.mk.inj same
    obtain ⟨own, entered'', node⟩ := relabels.entry at_key definition entered
    obtain rfl := Option.some.inj (entered'.symm.trans entered'')
    have member : reference ∈ definition.references := by
      rw [← TypeDictionary.mem_references_node_iff]
      exact List.mem_of_getElem? listed
    have follows : reference' = rename reference := by
      rw [node, TypeNode.references_map, List.getElem?_map, listed] at listed'
      exact (Option.some.inj listed').symm
    refine ⟨by rw [follows]; rfl, ?_, relabels.dangling at_key definition entered reference member⟩
    intro ancestor listed
    rcases List.mem_cons.1 listed with rfl | above
    · exact Option.isSome_iff_exists.2 ⟨definition, entered⟩
    · exact known ancestor above

/-- Walks do not see the new names. -/
theorem Relabels.alike (relabels : s.Relabels t rename) {key : String}
    (entry : s.types.contains key) : Alike s t (key, []) (rename key, []) := by
  intro place place' reached
  obtain ⟨rfl, known, fixed⟩ := relabels.renamed entry reached
  obtain ⟨at_key, path⟩ := place
  dsimp only at known fixed ⊢
  rcases kind_of_reference s at_key path with
    ⟨above, found⟩ | ⟨fresh, absent⟩ | ⟨fresh, definition, entered⟩
  · have on_path : at_key ∈ path := by
      by_contra fresh
      simp [List.idxOf?_eq_none_iff.2 fresh] at found
    have found' : (path.map rename).idxOf? (rename at_key) = some above := by
      rw [idxOf?_map, found]
      intro ancestor member same
      exact relabels.injective (known ancestor member) (known at_key on_path) same
    rw [piece_of_idxOf? found, piece_of_idxOf? found']
  · obtain ⟨kept, absent'⟩ := fixed absent
    have fresh' : at_key ∉ path.map rename := by
      intro member
      obtain ⟨ancestor, above, same⟩ := List.mem_map.1 member
      obtain ⟨definition, entered⟩ := Option.isSome_iff_exists.1 (known ancestor above)
      obtain ⟨definition', entered', -⟩ := relabels.entry ancestor definition entered
      rw [same, absent'] at entered'
      cases entered'
    rw [piece_of_absent fresh absent, kept, piece_of_absent fresh' absent']
  · obtain ⟨definition', entered', node⟩ := relabels.entry at_key definition entered
    have fresh' : rename at_key ∉ path.map rename := by
      intro member
      obtain ⟨ancestor, above, same⟩ := List.mem_map.1 member
      have here : s.types.contains at_key := Option.isSome_iff_exists.2 ⟨definition, entered⟩
      obtain rfl := relabels.injective (known ancestor above) here same
      exact fresh above
    rw [piece_of_find? fresh entered, piece_of_find? fresh' entered', node, TypeNode.skeleton_map]

end StorageLayout.TypeScope
