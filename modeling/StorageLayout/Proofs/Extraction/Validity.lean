import StorageLayout.Proofs.Extraction.Entries
import StorageLayout.Proofs.TypeDefinition.Recompilation

/-!
# Extracted snapshots are valid

A variable is extracted only if its offset lies inside a slot and its type is in the dictionary,
which is what a valid snapshot demands of its variables.
-/
namespace StorageLayout

namespace ContractSnapshot

theorem validateVariable_eq_ok_iff (c : ContractSnapshot) (v : StateVariable) :
    c.validateVariable v = .ok () ↔
      Slot.holdsOffset v.offset.toNat ∧ c.types.contains v.typeKey := by
  unfold validateVariable
  cases Slot.holdsOffset v.offset.toNat <;> cases c.types.contains v.typeKey <;> simp

/-- A snapshot is valid exactly if each variable starts inside a slot and has a type in the
dictionary. -/
theorem validate_eq_ok_iff (c : ContractSnapshot) :
    c.validate = .ok () ↔
      ∀ v ∈ c.stateVariables, Slot.holdsOffset v.offset.toNat ∧ c.types.contains v.typeKey := by
  rw [validate, forM_eq_ok_iff]
  simp only [validateVariable_eq_ok_iff]

end ContractSnapshot

theorem SnapshotDocument.validate_eq_ok_iff (d : SnapshotDocument) :
    d.validate = .ok () ↔ ∀ c ∈ d.contracts, c.validate = .ok () :=
  forM_eq_ok_iff

namespace RawEntry

/-- An entry with a right place starts inside a slot. -/
theorem holdsOffset_of_place {contract : String} {e : RawEntry} {slot : Slot}
    (placed : e.place contract = .ok slot) : Slot.holdsOffset e.offset.toNat := by
  unfold place at placed
  cases read : Slot.ofText? e.slot with
  | none =>
    rw [read] at placed
    cases placed
  | some index =>
    simp only [read] at placed
    split at placed
    · cases placed
    · next inside => simpa using inside

/-- An offset inside a slot is kept as a byte. -/
theorem toNat_toUInt8_offset {e : RawEntry} (inside : Slot.holdsOffset e.offset.toNat) :
    e.offset.toUInt8.toNat = e.offset.toNat := by
  have bound : e.offset.toNat < 32 := of_decide_eq_true inside
  rw [UInt64.toNat_toUInt8]
  omega

end RawEntry

/-- Whatever is extracted from a layout is valid. -/
theorem RawLayout.validate_of_extract {name : String} {layout : Option RawLayout}
    {c : ContractSnapshot} (extracted : RawLayout.extract name layout = .ok (some c)) :
    c.validate = .ok () := by
  match layout with
  | none => cases extracted
  | some ⟨_, none⟩ => cases extracted
  | some ⟨storage, some types⟩ =>
    obtain ⟨each, -, same_types⟩ :=
      Canonicalizer.unlimitedVariables_of_extract (s := ⟨name, types⟩) extracted
    rw [ContractSnapshot.validate_eq_ok_iff]
    intro v listed
    obtain ⟨e, -, found⟩ := exists_of_forall₂ (mapM_eq_ok_iff.1 each).flip listed
    obtain ⟨slot, typeHash, placed, hashed, rfl⟩ := RawEntry.unlimitedVariable_eq_ok_iff.1 found
    have inside := RawEntry.holdsOffset_of_place placed
    refine ⟨?_, ?_⟩
    · change Slot.holdsOffset e.offset.toUInt8.toNat
      rwa [RawEntry.toNat_toUInt8_offset inside]
    · change c.types.contains e.typeKey
      rw [same_types]
      cases entered : types.find? e.typeKey with
      | none =>
        have absent := Canonicalizer.unlimitedFingerprint_of_absent
          (c := .ofScope Digest.blake3 ⟨name, types⟩) entered
        exact nomatch absent.symm.trans hashed
      | some definition => exact Option.isSome_of_eq_some entered

end StorageLayout
