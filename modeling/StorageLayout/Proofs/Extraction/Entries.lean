import StorageLayout.Extraction.Basic
import StorageLayout.Proofs.Fingerprint.Clique
import StorageLayout.Proofs.Lists

/-!
# Extraction, entry by entry

An entry of a layout is placed, and then its type is fingerprinted. The variables of a layout are
therefore those that each entry gives on its own when steps are not limited, unless the steps run
out at an entry whose type is too complex when nothing is remembered.
-/
namespace StorageLayout

namespace RawEntry

/-- The slot of an entry, if slot and offset are right. -/
def place (contract : String) (e : RawEntry) : Except LayoutError Slot :=
  match Slot.ofText? e.slot with
  | none => .error (.invalidSlot contract e.label e.slot)
  | some slot =>
    if !Slot.holdsOffset e.offset.toNat then
      .error (.invalidOffset contract e.label e.offset.toNat)
    else .ok slot

/-- The variable of an entry with a slot and the fingerprint of its type. -/
def stateVariable (e : RawEntry) (slot : Slot) (typeHash : String) : StateVariable :=
  ⟨e.label, slot, e.offset.toUInt8, e.typeKey, typeHash⟩

/-- The variable of an entry when steps are not limited. -/
def unlimitedVariable (e : RawEntry) (c : Canonicalizer) : Except LayoutError StateVariable := do
  let slot ← e.place c.contract
  e.stateVariable slot <$> c.unlimitedFingerprint c.hash e.typeKey

theorem extract_eq (e : RawEntry) (c : Canonicalizer) :
    e.extract c = match e.place c.contract with
      | .error reason => throw reason
      | .ok slot => e.stateVariable slot <$> c.fingerprint e.typeKey := by
  unfold extract place
  cases Slot.ofText? e.slot with
  | none => rfl
  | some slot =>
    dsimp only
    split
    · rfl
    · exact (map_eq_pure_bind (e.stateVariable slot) (c.fingerprint e.typeKey)).symm

theorem unlimitedVariable_eq_ok_iff {e : RawEntry} {c : Canonicalizer} {v : StateVariable} :
    e.unlimitedVariable c = .ok v ↔ ∃ slot typeHash, e.place c.contract = .ok slot ∧
      c.unlimitedFingerprint c.hash e.typeKey = .ok typeHash ∧
      e.stateVariable slot typeHash = v := by
  unfold unlimitedVariable
  cases e.place c.contract with
  | error reason => simp [bind, Except.bind]
  | ok slot =>
    cases c.unlimitedFingerprint c.hash e.typeKey with
    | error reason => simp [bind, Except.bind]
    | ok typeHash => simp [bind, Except.bind]

end RawEntry

namespace Canonicalizer

open Resolution Stateful

variable {c : Canonicalizer}

/-- An entry gives the variable that it gives without a limit on steps, unless its type is too
complex. -/
theorem extract_ends (faithful : c.Faithful) {memo : Memo} (consistent : c.Consistent memo)
    (e : RawEntry) :
    c.Consistent ((e.extract c).run memo).2 ∧
      (((e.extract c).run memo).1 = e.unlimitedVariable c ∨
        c.TooComplex e.typeKey ∧
          ((e.extract c).run memo).1 = .error (c.stepsError e.typeKey [])) := by
  rw [RawEntry.extract_eq, RawEntry.unlimitedVariable]
  cases e.place c.contract with
  | error reason => exact ⟨consistent, Or.inl rfl⟩
  | ok slot =>
    have consistent' := (fingerprint_ends faithful consistent e.typeKey).1
    have ends := fingerprint_eq_unlimited_or faithful consistent e.typeKey
    dsimp only
    rw [run_map]
    generalize (c.fingerprint e.typeKey).run memo = outcome at consistent' ends ⊢
    rcases outcome with ⟨reason | typeHash, after⟩
    · refine ⟨consistent', ends.imp (fun same => ?_) fun ⟨complex, spent⟩ => ⟨complex, ?_⟩⟩
      · rw [← same]
        rfl
      · rw [Except.error.inj spent]
    · refine ⟨consistent', ends.imp (fun same => ?_) fun ⟨_, spent⟩ => nomatch spent⟩
      rw [← same]
      rfl

def extractAll (c : Canonicalizer) (entries : List RawEntry) : Resolution (List StateVariable) :=
  entries.mapM fun e => e.extract c

/-- Entries are extracted in order, up to the first that fails. -/
theorem run_extractAll_cons (c : Canonicalizer) (e : RawEntry) (rest : List RawEntry)
    (memo : Memo) :
    (c.extractAll (e :: rest)).run memo = match (e.extract c).run memo with
      | (.ok v, after) => match (c.extractAll rest).run after with
        | (.ok found, last) => (.ok (v :: found), last)
        | (.error reason, last) => (.error reason, last)
      | (.error reason, after) => (.error reason, after) := by
  unfold extractAll
  rw [run_mapM_cons]
  rcases (e.extract c).run memo with ⟨_ | v, after⟩
  · rfl
  · dsimp only
    rcases (rest.mapM fun e : RawEntry => e.extract c).run after with ⟨_ | found, last⟩ <;> rfl

/-- The variables that entries give on their own when steps are not limited. -/
def unlimitedVariables (c : Canonicalizer) (entries : List RawEntry) :
    Except LayoutError (List StateVariable) :=
  entries.mapM fun e => e.unlimitedVariable c

/-- From whatever is remembered, each entry gives what it gives on its own, unless a type is too
complex. -/
theorem extractAll_ends (faithful : c.Faithful) {memo : Memo} (consistent : c.Consistent memo)
    (entries : List RawEntry) :
    ((c.extractAll entries).run memo).1 = c.unlimitedVariables entries ∨
      ∃ e ∈ entries, c.TooComplex e.typeKey ∧
        ((c.extractAll entries).run memo).1 = .error (c.stepsError e.typeKey []) := by
  unfold unlimitedVariables
  induction entries generalizing memo with
  | nil => exact Or.inl rfl
  | cons e rest ih =>
    obtain ⟨consistent', first⟩ := extract_ends faithful consistent e
    rw [run_extractAll_cons, List.mapM_cons]
    generalize (e.extract c).run memo = outcome at consistent' first ⊢
    rcases outcome with ⟨reason | found, middle⟩
    · rcases first with same | ⟨complex, spent⟩
      · left
        rw [← same]
        rfl
      · right
        refine ⟨e, by simp, complex, ?_⟩
        rw [Except.error.inj spent]
    · have same := first.resolve_right fun ⟨_, spent⟩ => nomatch spent
      rw [← same]
      have others := ih consistent'
      dsimp only
      generalize (c.extractAll rest).run middle = outcomes at others ⊢
      rcases outcomes with ⟨reason | found', after⟩
      · rcases others with same' | ⟨e', member, complex, spent⟩
        · left
          rw [← same']
          rfl
        · right
          refine ⟨e', by simp [member], complex, ?_⟩
          rw [Except.error.inj spent]
      · have same' := others.resolve_right fun ⟨_, _, _, spent⟩ => nomatch spent
        left
        rw [← same']
        rfl

end Canonicalizer

/-- The variables of a layout with types, with nothing remembered at the start. -/
theorem RawLayout.extract_some (name : String) (storage : List RawEntry) (types : TypeDictionary) :
    RawLayout.extract name (some ⟨storage, some types⟩) =
      (((Canonicalizer.ofScope Digest.blake3 ⟨name, types⟩).extractAll storage).run {}).1.map
        fun found => some ⟨name, found, types⟩ := rfl

namespace Canonicalizer

/-- The variables of a layout are those that its entries give on their own, unless a type is too
complex. -/
theorem extract_eq_unlimitedVariables_or (s : TypeScope) (storage : List RawEntry) :
    RawLayout.extract s.contract (some ⟨storage, some s.types⟩) =
        ((ofScope Digest.blake3 s).unlimitedVariables storage).map
          (fun found => some ⟨s.contract, found, s.types⟩) ∨
      ∃ e ∈ storage, (ofScope Digest.blake3 s).TooComplex e.typeKey ∧
        RawLayout.extract s.contract (some ⟨storage, some s.types⟩) =
          .error (.typeTooComplex s.contract e.typeKey maxResolveSteps) := by
  rw [RawLayout.extract_some]
  rcases extractAll_ends (faithful_ofScope Digest.blake3 s) consistent_empty storage with
    same | ⟨e, member, complex, spent⟩
  · rw [same]
    exact Or.inl rfl
  · rw [spent]
    exact Or.inr ⟨e, member, complex, rfl⟩

/-- A snapshot has the variables that the entries give on their own. -/
theorem unlimitedVariables_of_extract {s : TypeScope} {storage : List RawEntry}
    {extracted : ContractSnapshot}
    (success : RawLayout.extract s.contract (some ⟨storage, some s.types⟩) =
      .ok (some extracted)) :
    (ofScope Digest.blake3 s).unlimitedVariables storage = .ok extracted.stateVariables ∧
      extracted.name = s.contract ∧ extracted.types = s.types := by
  have same := (extract_eq_unlimitedVariables_or s storage).resolve_right
    fun ⟨_, _, _, spent⟩ => nomatch spent.symm.trans success
  rw [same] at success
  cases each : (ofScope Digest.blake3 s).unlimitedVariables storage with
  | error reason => exact nomatch (congrArg (Except.map _) each).symm.trans success
  | ok found =>
    rw [each] at success
    obtain rfl := Option.some.inj (Except.ok.inj success)
    exact ⟨rfl, rfl, rfl⟩

/-- Layouts with at most seven types are extracted entry by entry, and the digests are the plain
ones. -/
theorem extract_of_few {s : TypeScope} {storage : List RawEntry} {found : List StateVariable}
    (few : s.types.keys.length ≤ 7)
    (each : List.Forall₂ (fun e v => ∃ slot root, e.place s.contract = .ok slot ∧
      s.plainDigest Digest.blake3 e.typeKey [] = .digest root ∧
      e.stateVariable slot root.fingerprint = v) storage found) :
    RawLayout.extract s.contract (some ⟨storage, some s.types⟩) =
      .ok (some ⟨s.contract, found, s.types⟩) := by
  have given : (ofScope Digest.blake3 s).unlimitedVariables storage = .ok found :=
    mapM_eq_ok_iff.2 (each.imp fun e v ⟨slot, _, placed, digest, filled⟩ =>
      RawEntry.unlimitedVariable_eq_ok_iff.2
        ⟨slot, _, placed, unlimitedFingerprint_of_few few digest, filled⟩)
  rcases extract_eq_unlimitedVariables_or s storage with same | ⟨e, -, complex, -⟩
  · rw [same, given]
    rfl
  · exact absurd complex (not_tooComplex_of_few (faithful_ofScope Digest.blake3 s) few e.typeKey)

end Canonicalizer
end StorageLayout
