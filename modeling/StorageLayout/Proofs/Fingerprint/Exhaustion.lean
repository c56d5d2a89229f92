import Mathlib.Data.List.Perm.Subperm
import StorageLayout.Proofs.Fingerprint.Independence

/-!
# When the steps run out

A fingerprint that is computed with nothing remembered stores the hash of every place below its key,
so that it takes as many steps as there are places. If these are too many, nearly as many hashes as
there are steps are stored all the same, and another call for the same key goes on from there.
-/
namespace StorageLayout

/-- A type nests no deeper than there are keys that are not on the path. -/
theorem TypeScope.height_plainDigest_le (s : TypeScope) (hash : String → String) (key : String)
    (path : List String) :
    (s.plainDigest hash key path).height ≤ (s.types.keys.filter (· ∉ path)).length := by
  rw [plainDigest]
  fun_induction TypeScope.inline s (ChildRef.inlining hash) key path with
  | case1 key path above found => exact Nat.zero_le _
  | case2 key path unvisited absent => exact Nat.zero_le _
  | case3 key path unvisited definition entered ih =>
    have fewer := s.length_unvisited_lt unvisited entered
    have low : (NodeDigest.ofNode hash (definition.node.map fun below =>
        s.inline (ChildRef.inlining hash) below (key :: path))).height ≤
          (s.types.keys.filter (· ∉ key :: path)).length + 1 := by
      rw [NodeDigest.height_ofNode_le, TypeNode.references_map]
      intro child member
      obtain ⟨reference, -, rfl⟩ := List.mem_map.1 member
      exact ih reference
    exact Nat.le_trans low fewer

namespace Canonicalizer

open Resolution

variable {c : Canonicalizer}

theorem length_le_size {memo : Memo} {places : List Place} (distinct : places.Nodup)
    (stored : ∀ place ∈ places, place ∈ memo.nodes) : places.length ≤ memo.nodes.size := by
  rw [← Std.HashMap.length_keys]
  exact (distinct.subperm fun place member =>
    Std.HashMap.mem_keys.2 (stored place member)).length_le

theorem size_le_length {memo : Memo} {places : List Place}
    (listed : ∀ place ∈ memo.nodes, place ∈ places) : memo.nodes.size ≤ places.length := by
  have distinct : memo.nodes.keys.Nodup := by
    refine memo.nodes.distinct_keys.imp fun apart same => ?_
    simp [same] at apart
  rw [← Std.HashMap.length_keys]
  exact (distinct.subperm fun place member =>
    listed place (Std.HashMap.mem_keys.1 member)).length_le

/-- A fingerprint that runs out of steps has stored as many hashes, but for those unfinished. -/
theorem fingerprint_spent (faithful : c.Faithful) {memo : Memo} (consistent : c.Consistent memo)
    {key : String} (spent : ((c.fingerprint key).run memo).1 = .error (c.stepsError key [])) :
    ∃ unfinished ≤ maxTypeDepth + 1,
      Progress (c.Below key []) unfinished memo.restarted ((c.fingerprint key).run memo).2 ∧
        maxResolveSteps < ((c.fingerprint key).run memo).2.steps := by
  obtain ⟨none_stored, definition, entered⟩ := exists_find?_of_spent spent
  have digest : c.plainDigest c.hash key [] = .digest _ :=
    TypeScope.plainDigest_of_find? List.not_mem_nil entered
  have ends := digestEnds faithful maxTypeDepth entered (TypeDictionary.ancestry_nil key)
    List.not_mem_nil digest memo.restarted ⟨consistent.restarted, Nat.zero_le _⟩
  rw [run_fingerprint_of_find? none_stored entered] at spent ⊢
  generalize (c.digest maxTypeDepth key definition []).run memo.restarted = outcome
    at ends spent ⊢
  rcases outcome with ⟨e | root, after⟩
  · obtain ⟨-, ⟨unfinished, few, progress⟩, ⟨rfl, -⟩ | ⟨-, beyond⟩⟩ := ends
    · cases spent
    · exact ⟨unfinished, few, progress, beyond⟩
  · cases spent

/-- With more places below a key than steps, its fingerprint is not computed from nothing. -/
theorem freshFingerprint_of_many (faithful : c.Faithful) {key : String} {places : List Place}
    (entry : c.types.contains key) (distinct : places.Nodup)
    (below : ∀ place ∈ places, c.Below key [] place) (many : maxResolveSteps < places.length)
    (shallow : (c.plainDigest c.hash key []).height ≤ maxTypeDepth) :
    c.freshFingerprint key = .error (c.stepsError key []) := by
  obtain ⟨definition, entered⟩ := Option.isSome_iff_exists.1 entry
  have digest : c.plainDigest c.hash key [] = .digest _ :=
    TypeScope.plainDigest_of_find? List.not_mem_nil entered
  have ends := digestEnds faithful maxTypeDepth entered (TypeDictionary.ancestry_nil key)
    List.not_mem_nil digest ({} : Memo).restarted ⟨consistent_empty.restarted, Nat.zero_le _⟩
  have none_stored : ({} : Memo).fingerprints[key]? = none := by simp
  rw [freshFingerprint, run_fingerprint_of_find? none_stored entered]
  generalize (c.digest maxTypeDepth key definition []).run ({} : Memo).restarted = outcome at ends ⊢
  rcases outcome with ⟨e | root, after⟩
  · obtain ⟨-, -, ⟨-, deep⟩ | ⟨rfl, -⟩⟩ := ends
    · rw [digest] at shallow
      exact absurd shallow (by simpa [ChildRef.height] using deep)
    · rfl
  · exfalso
    obtain ⟨⟨consistent, within⟩, progress, -, -, stored⟩ := ends
    have all : ∀ place ∈ places, place ∈ after.nodes := by
      intro place member
      obtain ⟨last, above, walked, rfl⟩ := below place member
      exact consistent.closed.walk (TypeDictionary.ancestry_nil key) List.not_mem_nil stored walked
    have counted := progress.counted
    have size := length_le_size distinct all
    simp only [Memo.restarted, Std.HashMap.size_empty] at counted
    omega

/-- When the steps run out, another call for the same key has most of the places remembered. -/
theorem fingerprintAfter_again (faithful : c.Faithful) {key : String} {places : List Place}
    (complete : ∀ place, c.Below key [] place → place ∈ places)
    (few : places.length < 2 * (maxResolveSteps - maxTypeDepth))
    (first : c.freshFingerprint key = .error (c.stepsError key [])) :
    c.fingerprintAfter [key] key = c.unlimitedFingerprint c.hash key := by
  have consistent := consistent_memoAfter faithful [key]
  refine (fingerprint_ends faithful consistent key).2.resolve_left fun second => ?_
  obtain ⟨unfinished, levels, progress, beyond⟩ := fingerprint_spent faithful consistent_empty first
  obtain ⟨unfinished', levels', progress', beyond'⟩ := fingerprint_spent faithful consistent second
  have listed :
      ∀ place ∈ ((c.fingerprint key).run (c.memoAfter [key])).2.nodes, place ∈ places := by
    intro place member
    rcases progress'.within place member with before | below
    · rcases progress.within place before with none | below
      · simp [Memo.restarted] at none
      · exact complete place below
    · exact complete place below
  have counted := progress.counted
  have counted' := progress'.counted
  have size := size_le_length listed
  have remembered : c.memoAfter [key] = ((c.fingerprint key).run {}).2 := rfl
  simp only [Memo.restarted, Std.HashMap.size_empty, remembered, maxResolveSteps, maxTypeDepth]
    at counted counted' beyond beyond' levels levels' few size
  omega

end Canonicalizer
end StorageLayout
