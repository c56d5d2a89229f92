import Mathlib.Data.List.Chain
import Mathlib.Data.List.Nodup
import Std.Data.String.ToNat
import StorageLayout.Proofs.Fingerprint.Independence

/-!
# How deep types nest

A digest is as high as the longest path of references from its key through distinct entries, because
the recursion stops only at a key that is on the path already or has no entry. The limit on depth is
therefore a bound on such paths and on nothing else: what has been asked before does not move it,
although a remembered hash is checked by its height without going down again.
-/
namespace StorageLayout

namespace TypeDictionary

/-- A path of references through distinct entries. -/
structure SimplePath (types : TypeDictionary) (keys : List String) : Prop where
  entries : ∀ key ∈ keys, types.contains key
  linked : keys.IsChain types.Refers
  distinct : keys.Nodup

/-- A path of references from a key has more distinct entries than a limit allows. -/
def NestsBeyond (types : TypeDictionary) (limit : Nat) (key : String) : Prop :=
  ∃ below, types.SimplePath (key :: below) ∧ limit < (key :: below).length

/-- The same, where the path must not come back to an ancestor of the key. -/
def NestsBelow (types : TypeDictionary) (path : List String) (limit : Nat) (key : String) : Prop :=
  ∃ below, types.SimplePath (key :: below) ∧ (∀ visited ∈ key :: below, visited ∉ path) ∧
    limit < (key :: below).length

variable {types : TypeDictionary} {key reference : String} {below path : List String} {limit : Nat}

theorem simplePath_singleton (entry : types.contains key) : types.SimplePath [key] where
  entries := by simpa using entry
  linked := .singleton key
  distinct := List.nodup_singleton key

/-- A path starts with a reference to an entry that it does not come back to. -/
theorem simplePath_cons_cons_iff :
    types.SimplePath (key :: reference :: below) ↔
      types.Refers key reference ∧ key ∉ reference :: below ∧
        types.SimplePath (reference :: below) := by
  constructor
  · rintro ⟨entries, linked, distinct⟩
    obtain ⟨edge, linked⟩ := List.isChain_cons_cons.1 linked
    obtain ⟨fresh, distinct⟩ := List.nodup_cons.1 distinct
    exact ⟨edge, fresh, (List.forall_mem_cons.1 entries).2, linked, distinct⟩
  · rintro ⟨edge, fresh, entries, linked, distinct⟩
    exact ⟨List.forall_mem_cons.2 ⟨edge.contains_source, entries⟩,
      List.isChain_cons_cons.2 ⟨edge, linked⟩, List.nodup_cons.2 ⟨fresh, distinct⟩⟩

theorem nestsBelow_nil_iff : types.NestsBelow [] limit key ↔ types.NestsBeyond limit key := by
  simp [NestsBelow, NestsBeyond]

theorem NestsBelow.contains (nests : types.NestsBelow path limit key) : types.contains key := by
  obtain ⟨below, walked, -⟩ := nests
  exact walked.entries key List.mem_cons_self

theorem NestsBelow.not_mem (nests : types.NestsBelow path limit key) : key ∉ path := by
  obtain ⟨below, -, avoids, -⟩ := nests
  exact avoids key List.mem_cons_self

/-- An entry is itself a path. -/
theorem nestsBelow_zero (entry : types.contains key) (fresh : key ∉ path) :
    types.NestsBelow path 0 key :=
  ⟨[], simplePath_singleton entry, by simpa using fresh, Nat.one_pos⟩

/-- Beyond the entry, a path goes on from one of its references. -/
theorem nestsBelow_succ_iff {definition : TypeDefinition}
    (entered : types.find? key = some definition) (fresh : key ∉ path) :
    types.NestsBelow path (limit + 1) key ↔
      ∃ reference ∈ definition.references, types.NestsBelow (key :: path) limit reference := by
  constructor
  · rintro ⟨below, walked, avoids, long⟩
    have more : limit < below.length := Nat.lt_of_succ_lt_succ long
    obtain ⟨reference, below, rfl⟩ := List.exists_cons_of_length_pos (Nat.zero_lt_of_lt more)
    obtain ⟨⟨own, entered', listed, -⟩, unvisited, rest⟩ := simplePath_cons_cons_iff.1 walked
    obtain rfl := Option.some.inj (entered.symm.trans entered')
    refine ⟨reference, listed, below, rest, fun visited member above => ?_, more⟩
    rcases List.mem_cons.1 above with rfl | above
    · exact unvisited member
    · exact avoids visited (List.mem_cons_of_mem _ member) above
  · rintro ⟨reference, listed, below, walked, avoids, long⟩
    have edge : types.Refers key reference :=
      ⟨definition, entered, listed, walked.entries reference List.mem_cons_self⟩
    have unvisited : key ∉ reference :: below := fun member =>
      avoids key member List.mem_cons_self
    refine ⟨reference :: below, simplePath_cons_cons_iff.2 ⟨edge, unvisited, walked⟩, ?_,
      Nat.succ_lt_succ long⟩
    rw [List.forall_mem_cons]
    exact ⟨fresh, fun visited member above => avoids visited member (.tail key above)⟩

end TypeDictionary

/-- A node is higher than a limit if one of its references nearly is. -/
theorem NodeDigest.lt_height_ofNode_map_iff {ρ : Type} (hash : String → String) (n : TypeNode ρ)
    (f : ρ → ChildRef) (limit : Nat) :
    limit + 1 < (NodeDigest.ofNode hash (n.map f)).height ↔
      ∃ reference ∈ n.references, limit < (f reference).height := by
  rw [← Nat.not_le, height_ofNode_le, TypeNode.references_map]
  simp only [List.forall_mem_map, not_forall, Nat.not_le, exists_prop]

/-- A digest is higher than a limit exactly if a path below it is longer. -/
theorem TypeScope.lt_height_plainDigest_iff (s : TypeScope) (hash : String → String) (key : String)
    (path : List String) (limit : Nat) :
    limit < (s.plainDigest hash key path).height ↔ s.types.NestsBelow path limit key := by
  rw [plainDigest]
  fun_induction TypeScope.inline s (ChildRef.inlining hash) key path generalizing limit with
  | case1 key path above found =>
    refine iff_of_false (Nat.not_lt_zero limit) fun nests => ?_
    simp [List.idxOf?_eq_none_iff.2 nests.not_mem] at found
  | case2 key path _ absent =>
    refine iff_of_false (Nat.not_lt_zero limit) fun nests => ?_
    obtain ⟨definition, entered⟩ := Option.isSome_iff_exists.1 nests.contains
    rw [TypeScope.find?, entered] at absent
    cases absent
  | case3 key path unvisited definition entered ih =>
    have fresh : key ∉ path := by simpa using unvisited
    cases limit with
    | zero =>
      have entry : s.types.contains key := Option.isSome_iff_exists.2 ⟨definition, entered⟩
      exact iff_of_true (Nat.succ_pos _) (TypeDictionary.nestsBelow_zero entry fresh)
    | succ limit =>
      refine (NodeDigest.lt_height_ofNode_map_iff hash definition.node _ limit).trans ?_
      rw [TypeDictionary.nestsBelow_succ_iff entered fresh]
      simp only [TypeDictionary.mem_references_node_iff, ih]

namespace Canonicalizer

/-- Without a limit on steps, an entry has a fingerprint exactly if no path from it is too long. -/
theorem unlimitedFingerprint_of_contains (hash : String → String) {s : TypeScope} {key : String}
    (entry : s.types.contains key) :
    s.types.NestsBeyond maxTypeDepth key ∧
        s.unlimitedFingerprint hash key =
          .error (.typeDepthExceeded s.contract key maxTypeDepth) ∨
      ¬ s.types.NestsBeyond maxTypeDepth key ∧
        ∃ fingerprint, s.unlimitedFingerprint hash key = .ok fingerprint := by
  obtain ⟨definition, entered⟩ := Option.isSome_iff_exists.1 entry
  have digest : s.plainDigest hash key [] = .digest _ :=
    TypeScope.plainDigest_of_find? List.not_mem_nil entered
  rw [← TypeDictionary.nestsBelow_nil_iff, ← s.lt_height_plainDigest_iff hash,
    TypeScope.unlimitedFingerprint, digest]
  dsimp only [ChildRef.height]
  split
  · next deep => exact Or.inl ⟨deep, rfl⟩
  · next shallow => exact Or.inr ⟨shallow, _, rfl⟩

/-- Whatever was asked before, a type is too deep only if a path of references from its key goes
through more distinct entries than may nest; and if there is such a path, the type is too deep or
too complex, and otherwise it has a fingerprint or is too complex. -/
theorem depth_limit_bounds_simple_paths (hash : String → String) (s : TypeScope)
    (calls : List String) {key : String} (entry : s.types.contains key) :
    (∀ contract typeKey limit, (ofScope hash s).fingerprintAfter calls key =
        .error (.typeDepthExceeded contract typeKey limit) →
      s.types.NestsBeyond maxTypeDepth key) ∧
    (s.types.NestsBeyond maxTypeDepth key →
      (ofScope hash s).fingerprintAfter calls key =
          .error (.typeDepthExceeded s.contract key maxTypeDepth) ∨
        (ofScope hash s).fingerprintAfter calls key =
          .error (.typeTooComplex s.contract key maxResolveSteps)) ∧
    (¬ s.types.NestsBeyond maxTypeDepth key →
      (∃ fingerprint, (ofScope hash s).fingerprintAfter calls key = .ok fingerprint) ∨
        (ofScope hash s).fingerprintAfter calls key =
          .error (.typeTooComplex s.contract key maxResolveSteps)) := by
  have faithful := faithful_ofScope hash s
  have ends := (fingerprint_ends faithful (consistent_memoAfter faithful calls) key).2
  have unlimited := unlimitedFingerprint_of_contains hash entry
  change (ofScope hash s).fingerprintAfter calls key =
      .error (.typeTooComplex s.contract key maxResolveSteps) ∨
    (ofScope hash s).fingerprintAfter calls key = s.unlimitedFingerprint hash key at ends
  rcases ends with spent | same
  · rw [spent]
    exact ⟨fun _ _ _ other => (nomatch other), fun _ => Or.inr rfl, fun _ => Or.inr rfl⟩
  · rw [same]
    rcases unlimited with ⟨deep, failed⟩ | ⟨shallow, fingerprint, given⟩
    · exact ⟨fun _ _ _ _ => deep, fun _ => Or.inl failed, fun shallow => absurd deep shallow⟩
    · rw [given]
      exact ⟨fun _ _ _ other => (nomatch other), fun deep => absurd deep shallow,
        fun _ => Or.inl ⟨fingerprint, rfl⟩⟩

/-- Arrays with this many levels: the elements of each are of the next type, which the last one
lacks. -/
def nestedArrays (levels : Nat) : TypeScope where
  contract := "Nested"
  types := {
    entries := (List.range levels).map fun level =>
      (toString level,
        ⟨.dynamicArray, "array", "32", none, none, none, some (toString (level + 1))⟩)
    keys_distinct := by
      rw [List.map_map]
      exact List.nodup_range.map fun _ _ => Nat.repr_injective }

theorem find?_nestedArrays {levels level : Nat} (inside : level < levels) :
    (nestedArrays levels).types.find? (toString level) =
      some ⟨.dynamicArray, "array", "32", none, none, none, some (toString (level + 1))⟩ :=
  (Dictionary.find?_eq_some_iff _ _ _).2 (List.mem_map.2 ⟨level, List.mem_range.2 inside, rfl⟩)

/-- Each array leads to the next one, down to the innermost. -/
theorem simplePath_nestedArrays (levels : Nat) :
    (nestedArrays levels).types.SimplePath ((List.range levels).map toString) where
  entries := by
    intro key listed
    obtain ⟨level, inside, rfl⟩ := List.mem_map.1 listed
    rw [Dictionary.contains, find?_nestedArrays (List.mem_range.1 inside)]
    rfl
  linked := by
    rw [List.isChain_map, List.isChain_iff_getElem]
    intro level next
    rw [List.length_range] at next
    rw [List.getElem_range, List.getElem_range]
    refine ⟨_, find?_nestedArrays (Nat.lt_of_succ_lt next), ?_, ?_⟩
    · simp [TypeDefinition.references]
    · rw [Dictionary.contains, find?_nestedArrays next]
      rfl
  distinct := List.nodup_range.map fun _ _ => Nat.repr_injective

/-- Arrays with one level more than the limit, of which the inner ones have been asked for. -/
theorem nestedArrays_are_too_deep :
    (nestedArrays 65).types.contains "0" ∧ (nestedArrays 65).types.NestsBeyond maxTypeDepth "0" ∧
    ((ofScope Digest.blake3 (nestedArrays 65)).fingerprintAfter ["40"] "0" =
        .error (.typeDepthExceeded "Nested" "0" maxTypeDepth) ∨
      (ofScope Digest.blake3 (nestedArrays 65)).fingerprintAfter ["40"] "0" =
        .error (.typeTooComplex "Nested" "0" maxResolveSteps)) := by
  have path := simplePath_nestedArrays 65
  have entry := path.entries "0" (List.mem_map.2 ⟨0, by simp, rfl⟩)
  have deep : (nestedArrays 65).types.NestsBeyond maxTypeDepth "0" :=
    ⟨(List.range' 1 64).map toString, path, by simp [maxTypeDepth]⟩
  exact ⟨entry, deep,
    (depth_limit_bounds_simple_paths Digest.blake3 (nestedArrays 65) ["40"] entry).2.1 deep⟩

end Canonicalizer
end StorageLayout
