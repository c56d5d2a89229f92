import Mathlib.Data.List.Perm.Basic
import StorageLayout.Proofs.Extraction.Entries
import StorageLayout.Proofs.Fingerprint.Structure

/-!
# What was asked before, and in which order

Fingerprints do not depend on earlier calls, and the variables of a layout not on the order of its
entries, except that a type too complex to be fingerprinted from nothing may succeed when parts of
it are remembered: the limit counts the hashes that are computed for one fingerprint.
-/
namespace StorageLayout.Canonicalizer

variable {c : Canonicalizer}

/-- Entries in another order give the same variables in that order. -/
theorem unlimitedVariables_perm {storage storage' : List RawEntry}
    (reordered : storage.Perm storage') {found : List StateVariable}
    (extracted : c.unlimitedVariables storage = .ok found) :
    ∃ found', c.unlimitedVariables storage' = .ok found' ∧ found.Perm found' := by
  have each := mapM_eq_ok_iff.1 extracted
  have composed : Relation.Comp List.Perm
      (List.Forall₂ fun (e : RawEntry) v => e.unlimitedVariable c = .ok v) storage' found :=
    ⟨storage, reordered.symm, each⟩
  rw [← List.forall₂_comp_perm_eq_perm_comp_forall₂] at composed
  obtain ⟨found', each', same⟩ := composed
  exact ⟨found', mapM_eq_ok_iff.2 each', same.symm⟩

/-- Whether all entries can be extracted does not depend on their order. -/
theorem isOk_unlimitedVariables_perm {storage storage' : List RawEntry}
    (reordered : storage.Perm storage') :
    (c.unlimitedVariables storage).isOk = (c.unlimitedVariables storage').isOk := by
  cases extracted : c.unlimitedVariables storage with
  | ok found =>
    obtain ⟨found', extracted', -⟩ := unlimitedVariables_perm reordered extracted
    rw [extracted']
    rfl
  | error e =>
    cases extracted' : c.unlimitedVariables storage' with
    | ok found' =>
      obtain ⟨found, extracted'', -⟩ := unlimitedVariables_perm reordered.symm extracted'
      exact nomatch extracted.symm.trans extracted''
    | error e' => rfl

/-- Whatever was asked before, a fingerprint is the one that is computed with nothing remembered,
unless that takes too many steps: then it is the same error or the one without a limit on steps. So
the order of the entries of a layout decides neither over success, unless a type is too complex, nor
over the variables. -/
theorem outcomes_independent_of_history (hash : String → String) (s : TypeScope)
    (calls : List String) (key : String) {storage storage' : List RawEntry}
    (reordered : storage.Perm storage') :
    ((¬ (ofScope hash s).TooComplex key →
        (ofScope hash s).fingerprintAfter calls key = (ofScope hash s).freshFingerprint key) ∧
      ((ofScope hash s).fingerprintAfter calls key = (ofScope hash s).freshFingerprint key ∨
        (ofScope hash s).fingerprintAfter calls key = s.unlimitedFingerprint hash key)) ∧
    ((∀ e ∈ storage, ¬ (ofScope Digest.blake3 s).TooComplex e.typeKey) →
      (RawLayout.extract s.contract (some ⟨storage, some s.types⟩)).isOk =
        (RawLayout.extract s.contract (some ⟨storage', some s.types⟩)).isOk) ∧
    ∀ found, RawLayout.extract s.contract (some ⟨storage, some s.types⟩) =
        .ok (some ⟨s.contract, found, s.types⟩) →
      (∃ found', RawLayout.extract s.contract (some ⟨storage', some s.types⟩) =
          .ok (some ⟨s.contract, found', s.types⟩) ∧ found.Perm found') ∨
        ∃ e ∈ storage, (ofScope Digest.blake3 s).TooComplex e.typeKey ∧
          RawLayout.extract s.contract (some ⟨storage', some s.types⟩) =
            .error (.typeTooComplex s.contract e.typeKey maxResolveSteps) := by
  have faithful := faithful_ofScope hash s
  have consistent := consistent_memoAfter faithful calls
  have extracted := extract_eq_unlimitedVariables_or s storage
  have extracted' := extract_eq_unlimitedVariables_or s storage'
  refine ⟨⟨fingerprint_eq_fresh faithful consistent, ?_⟩, fun simple => ?_, fun found success => ?_⟩
  · rcases fingerprint_eq_unlimited_or faithful consistent key with same | ⟨complex, spent⟩
    · exact Or.inr same
    · exact Or.inl (spent.trans complex.symm)
  · have plain := extracted.resolve_right fun ⟨e, member, complex, _⟩ => simple e member complex
    have plain' := extracted'.resolve_right fun ⟨e, member, complex, _⟩ =>
      simple e (reordered.mem_iff.2 member) complex
    have isOk_map (x : Except LayoutError (List StateVariable)) :
        (x.map fun found => some (ContractSnapshot.mk s.contract found s.types)).isOk = x.isOk := by
      cases x <;> rfl
    rw [plain, plain', isOk_map, isOk_map, isOk_unlimitedVariables_perm reordered]
  · obtain ⟨entries, -⟩ := unlimitedVariables_of_extract success
    obtain ⟨found', entries', permuted⟩ := unlimitedVariables_perm reordered entries
    rcases extracted' with same' | ⟨e, member, complex, spent⟩
    · rw [entries'] at same'
      exact Or.inl ⟨found', same', permuted⟩
    · exact Or.inr ⟨e, reordered.mem_iff.2 member, complex, spent⟩

/-- The scope of a linked struct. -/
def nodeTypes : TypeScope where
  contract := "Queue"
  types := { entries := [("node", linkedStruct "node" "struct Node" none)],
             keys_distinct := by decide }

/-- The first node of a list and the last one. -/
def nodeEntries : List RawEntry :=
  [⟨"head", "0", 0, "node", none, none⟩, ⟨"tail", "1", 0, "node", none, none⟩]

/-- The fingerprint of the linked struct can be computed with nothing remembered. -/
theorem freshFingerprint_nodeTypes :
    (ofScope Digest.blake3 nodeTypes).freshFingerprint "node" = .ok queueNode.fingerprint := by
  have entered : nodeTypes.find? "node" = some (linkedStruct "node" "struct Node" none) := rfl
  exact freshFingerprint_of_few (faithful_ofScope Digest.blake3 nodeTypes) (by decide)
    (plainDigest_linkedStruct entered)

/-- Both orders of two variables of one type are extracted. -/
theorem nodeEntries_swapped :
    nodeEntries.Perm nodeEntries.reverse ∧
    (¬ (ofScope Digest.blake3 nodeTypes).TooComplex "node") ∧
    (ofScope Digest.blake3 nodeTypes).fingerprintAfter ["missing", "node"] "node" =
      .ok queueNode.fingerprint ∧
    (RawLayout.extract "Queue" (some ⟨nodeEntries, some nodeTypes.types⟩)).isOk =
      (RawLayout.extract "Queue" (some ⟨nodeEntries.reverse, some nodeTypes.types⟩)).isOk := by
  have reordered : nodeEntries.Perm nodeEntries.reverse := (List.reverse_perm _).symm
  have simple : ¬ (ofScope Digest.blake3 nodeTypes).TooComplex "node" := fun complex =>
    nomatch freshFingerprint_nodeTypes.symm.trans complex
  have general := outcomes_independent_of_history Digest.blake3 nodeTypes ["missing", "node"] "node"
    reordered
  refine ⟨reordered, simple, ?_, general.2.1 ?_⟩
  · rw [general.1.1 simple, freshFingerprint_nodeTypes]
  · intro e member
    have same_type : e.typeKey = "node" := by
      simp only [nodeEntries, List.mem_cons, List.not_mem_nil, or_false] at member
      rcases member with rfl | rfl <;> rfl
    rwa [same_type]

def nineKeys : List String := ["a", "b", "c", "d", "e", "f", "g", "h", "i"]

/-- The scope of these structs, each of which refers to all nine. -/
def ninePeers : Canonicalizer := ofScope Digest.blake3 (clique nineKeys (by decide))

/-- Nine structs that refer to each other take too many steps when nothing is remembered, but the
second call for one of them succeeds. -/
theorem second_call_succeeds :
    ninePeers.freshFingerprint "a" = .error (.typeTooComplex "Clique" "a" 100000) ∧
      (∃ fingerprint, ninePeers.fingerprintAfter ["a"] "a" = .ok fingerprint) ∧
      ¬ ∀ calls key, ninePeers.fingerprintAfter calls key = ninePeers.freshFingerprint key := by
  obtain ⟨fresh, fingerprint, later⟩ := fingerprint_clique Digest.blake3
    (by decide : nineKeys.Nodup) (by decide : "a" ∈ nineKeys) (by decide) (by decide) (by decide)
  refine ⟨fresh, ⟨fingerprint, later⟩, fun same => ?_⟩
  exact nomatch later.symm.trans ((same ["a"] "a").trans fresh)

end StorageLayout.Canonicalizer
