import StorageLayout.Proofs.Comparison.Visibility

/-!
# Fingerprinted types are displayed

A fingerprint is given only for types that nest no deeper than the limit, whatever was remembered
when it was asked for. A display goes below no type that the plain recursion does not go below, so
that the same limit stops it nowhere: for the variables of an extracted snapshot a comparison shows
expanded types, and neither dictionary entries nor bare keys.
-/
namespace StorageLayout

open Canonicalizer TypeScope

/-- Whatever has been asked before, a type that has a fingerprint is displayed. So the types of
extracted variables are shown by their displays. -/
theorem fingerprinted_types_are_displayed :
    (∀ (hash : String → String) (s : TypeScope) (calls : List String) (key fingerprint : String),
      (ofScope hash s).fingerprintAfter calls key = .ok fingerprint →
        ∃ shown, s.resolve key = .ok shown) ∧
    ∀ (name : String) (layout : Option RawLayout) (c : ContractSnapshot),
      RawLayout.extract name layout = .ok (some c) → ∀ v ∈ c.stateVariables,
        ∃ shown, c.scope.resolve v.typeKey = .ok shown ∧
          c.renderType v.typeKey = (shown.displayLabel, shown.json.indented) := by
  constructor
  · intro hash s calls key fingerprint given
    have unlimited := unlimitedFingerprint_of_fingerprintAfter given
    obtain ⟨text, shown, order, shows⟩ := exists_shownAs unlimited
    exact ⟨shown, shows.resolved⟩
  · intro name layout c extracted v listed
    have unlimited := ContractSnapshot.unlimitedFingerprint_of_extract extracted listed
    obtain ⟨text, shown, order, shows⟩ := exists_shownAs unlimited
    refine ⟨shown, shows.resolved, ?_⟩
    rw [shows.renderType (c := c), shows.written]

/-- A node that is remembered from a mapping is displayed, and so is a table in a snapshot. -/
theorem queueNode_and_table_are_displayed :
    (ofScope Digest.blake3 queueTypes).fingerprintAfter ["queue", "missing"] "node" =
      .ok queueNode.fingerprint ∧
    (∃ shown, queueTypes.resolve "node" = .ok shown) ∧
    RawLayout.extract "Vault" (some (tableLayout false)) = .ok (some (tableSnapshot false)) ∧
    ∃ shown, (tableSnapshot false).scope.resolve "t_table" = .ok shown ∧
      (tableSnapshot false).renderType "t_table" = (shown.displayLabel, shown.json.indented) := by
  have remembered :
      (ofScope Digest.blake3 queueTypes).fingerprintAfter ["queue", "missing"] "node" =
        .ok queueNode.fingerprint := run_fingerprint_queueNode
  have extracted := extract_tableLayout false
  refine ⟨remembered, ?_, extracted, ?_⟩
  · exact fingerprinted_types_are_displayed.1 _ _ _ _ _ remembered
  · exact fingerprinted_types_are_displayed.2 _ _ _ extracted _ (List.mem_singleton_self _)

end StorageLayout
