import StorageLayout.Proofs.Comparison.Verdict
import StorageLayout.Proofs.Extraction.Entries
import StorageLayout.Proofs.Fingerprint.Renaming
import StorageLayout.Proofs.Fingerprint.Structure

/-!
# A recompilation is not reported

When the compiler only renames types, changes labels and contract paths, permutes entries or lists
other entries that no variable uses, the extracted variables agree one by one, and a comparison in
either direction finds nothing. If the extraction fails, it fails with the same error.
-/
namespace StorageLayout

namespace ContractSnapshot

theorem isClean_compare_of_agrees {old new : ContractSnapshot}
    (agree : List.Forall₂ StateVariable.Agrees old.stateVariables new.stateVariables) :
    (old.compare new).isClean ∧ (new.compare old).isClean := by
  have back : List.Forall₂ StateVariable.Agrees new.stateVariables old.stateVariables :=
    agree.flip.imp fun _ _ same => ⟨same.name.symm, same.slot.symm, same.offset.symm,
      same.typeHash.symm⟩
  constructor
  · exact isClean_compare_of_isPrefixOf fun _ _ before => exists_getElem?_of_forall₂ agree before
  · exact isClean_compare_of_isPrefixOf fun _ _ before => exists_getElem?_of_forall₂ back before

end ContractSnapshot

open Canonicalizer Resolution

variable {rename : String → String} {used : Set String} {c c' : Canonicalizer}

/-- An error about the place of a variable does not name its type. -/
theorem RawEntry.mapKey_of_place {contract : String} {e : RawEntry} {reason : LayoutError}
    (wrong : e.place contract = .error reason) : reason.mapKey rename = reason := by
  unfold RawEntry.place at wrong
  cases slot : Slot.ofText? e.slot with
  | none =>
    rw [slot] at wrong
    cases wrong
    rfl
  | some index =>
    simp only [slot] at wrong
    split at wrong
    · cases wrong
      rfl
    · cases wrong

namespace Canonicalizer.Mirrors

/-- An entry and the same entry under the new key are extracted alike. -/
theorem extract (mirrors : Mirrors rename used c c') {e e' : RawEntry}
    (renamed : RawEntry.Renamed rename e e') (member : e.typeKey ∈ used) :
    RunsAlike rename used StateVariable.Agrees (e.extract c) (e'.extract c') := by
  have place : e'.place c'.contract = e.place c.contract := by
    rw [RawEntry.place, RawEntry.place, renamed.label, renamed.slot, renamed.offset,
      mirrors.corresponds.contract]
  rw [RawEntry.extract_eq, RawEntry.extract_eq, place]
  cases placed : e.place c.contract with
  | error reason =>
    intro memo memo' _
    exact Or.inr (RawEntry.mapKey_of_place placed).symm
  | ok slot =>
    have ran := mirrors.fingerprint member
    rw [← renamed.typeKey] at ran
    refine ran.map ?_
    rintro typeHash _ rfl
    exact ⟨renamed.label.symm, rfl, by rw [RawEntry.stateVariable, RawEntry.stateVariable,
      renamed.offset], rfl⟩

/-- The variables agree one by one, or both extractions fail alike. -/
theorem extractAll (mirrors : Mirrors rename used c c') {storage storage' : List RawEntry}
    (renamed : List.Forall₂ (RawEntry.Renamed rename) storage storage')
    (inside : ∀ e ∈ storage, e.typeKey ∈ used) :
    RunsAlike rename used (List.Forall₂ StateVariable.Agrees) (c.extractAll storage)
      (c'.extractAll storage') := by
  refine Tracks.mapM ?_
  induction renamed with
  | nil => exact .nil
  | cons first _ ih =>
    rw [List.forall_mem_cons] at inside
    exact .cons (mirrors.extract first inside.1) (ih inside.2)

end Canonicalizer.Mirrors

/-- The canonicalizers before and after a recompilation mirror each other on the keys that are
used. -/
theorem TypeDictionary.Recompiled.mirrors {storage storage' : List RawEntry}
    {types types' : TypeDictionary} (recompiled : Recompiled rename storage storage' types types')
    (renamed : List.Forall₂ (RawEntry.Renamed rename) storage storage') (name : String)
    (hash : String → String) :
    Mirrors rename {key | RawLayout.Uses storage types key} (.ofScope hash ⟨name, types⟩)
      (.ofScope hash ⟨name, types'⟩) where
  corresponds := recompiled.corresponds renamed name
  faithful := faithful_ofScope hash _
  faithful' := faithful_ofScope hash _
  hash := rfl

/-- After a recompilation without a change of the layout, every type that a variable uses has the
same fingerprint or fails with the same error about its new key; and both layouts are extracted with
a clean comparison in both directions, or both have no snapshot, or both fail with the same
error. -/
theorem recompilation_is_not_reported (name : String) {old new : RawLayout}
    (recompiled : RawLayout.Recompiled rename old new) :
    (∀ types types', old.types = some types → new.types = some types' →
      ∀ key, RawLayout.Uses old.storage types key →
        (ofScope Digest.blake3 ⟨name, types'⟩).freshFingerprint (rename key) =
          ((ofScope Digest.blake3 ⟨name, types⟩).freshFingerprint key).mapError
            (LayoutError.mapKey rename)) ∧
    (RawLayout.extract name (some old) = .ok none ∧ RawLayout.extract name (some new) = .ok none ∨
      (∃ before after, RawLayout.extract name (some old) = .ok (some before) ∧
        RawLayout.extract name (some new) = .ok (some after) ∧
        (before.compare after).isClean ∧ (after.compare before).isClean) ∨
      ∃ e, RawLayout.extract name (some old) = .error e ∧
        RawLayout.extract name (some new) = .error (e.mapKey rename)) := by
  obtain ⟨storage, old_types⟩ := old
  obtain ⟨storage', new_types⟩ := new
  have renamed := recompiled.storage
  rcases recompiled.types with ⟨none_old, none_new⟩ |
    ⟨types, types', some_old, some_new, dictionary⟩
  · dsimp only at none_old none_new
    subst none_old none_new
    exact ⟨fun _ _ absent => (nomatch absent), Or.inl ⟨rfl, rfl⟩⟩
  · dsimp only at some_old some_new renamed dictionary
    subst some_old some_new
    have mirrors := dictionary.mirrors renamed name Digest.blake3
    constructor
    · intro types types' same same' key used
      obtain rfl := Option.some.inj same
      obtain rfl := Option.some.inj same'
      exact mirrors.freshFingerprint used
    · right
      have ran := mirrors.extractAll renamed (fun e listed => .ofVariable listed) {} {}
        memoMirrors_empty
      rw [RawLayout.extract_some, RawLayout.extract_some]
      generalize ((ofScope Digest.blake3 ⟨name, types⟩).extractAll storage).run {} = outcome
        at ran ⊢
      generalize ((ofScope Digest.blake3 ⟨name, types'⟩).extractAll storage').run {} = outcome'
        at ran ⊢
      rcases outcome with ⟨e | found, memo⟩ <;> rcases outcome' with ⟨e' | found', memo'⟩
      · obtain rfl := ran.resolve_left id
        exact Or.inr ⟨e, rfl, rfl⟩
      · exact ran.elim
      · exact ran.elim
      · exact Or.inl ⟨_, _, rfl, rfl, ContractSnapshot.isClean_compare_of_agrees ran.1⟩

def flagType : TypeDefinition := ⟨.inplace, "bool", "1", none, none, none, none⟩

/-- A linked struct with an entry that nothing uses. -/
def nodeDictionary : TypeDictionary where
  entries := [("node", linkedStruct "node" "struct Node" none), ("flag", flagType)]
  keys_distinct := by decide

/-- The same struct under another key, after another entry that nothing uses. -/
def cellDictionary : TypeDictionary where
  entries := [("spare", flagType), ("cell", linkedStruct "cell" "struct Cell" "Queue.sol:Queue")]
  keys_distinct := by decide

def nodeLayout : RawLayout :=
  ⟨[⟨"head", "0", 0, "node", some 3, none⟩], some nodeDictionary⟩

def cellLayout : RawLayout :=
  ⟨[⟨"head", "0", 0, "cell", some 8, "Queue.sol:Queue"⟩], some cellDictionary⟩

/-- The struct has another key, and all other keys stay. -/
def nodeToCell (key : String) : String := if key = "node" then "cell" else key

theorem uses_linkedStruct {storage : List RawEntry} {types : TypeDictionary} {key label : String}
    {contract : Option String} (typed : ∀ e ∈ storage, e.typeKey = key)
    (entered : types.find? key = some (linkedStruct key label contract)) {used_key : String}
    (used : RawLayout.Uses storage types used_key) : used_key = key := by
  induction used with
  | ofVariable listed => exact typed _ listed
  | ofEntry _ entered' listed ih =>
    rw [ih, entered] at entered'
    obtain rfl := Option.some.inj entered'
    simpa [linkedStruct, TypeDefinition.references] using listed

theorem mentions_nodeLayout {key : String}
    (mentioned : RawLayout.Mentions nodeLayout.storage nodeDictionary key) :
    key = "node" ∨ key = "flag" := by
  have entries {entered_key : String} {definition : TypeDefinition}
      (entered : nodeDictionary.find? entered_key = some definition) :
      entered_key = "node" ∧ definition = linkedStruct "node" "struct Node" none ∨
        entered_key = "flag" ∧ definition = flagType := by
    rw [Dictionary.find?_eq_some_iff] at entered
    simpa [nodeDictionary] using entered
  cases mentioned with
  | asKey entry =>
    obtain ⟨definition, entered⟩ := Option.isSome_iff_exists.1 entry
    exact (entries entered).imp And.left And.left
  | ofVariable listed =>
    obtain rfl := List.mem_singleton.1 listed
    exact Or.inl rfl
  | ofEntry entered listed =>
    rcases entries entered with ⟨-, rfl⟩ | ⟨-, rfl⟩
    · left
      simpa [linkedStruct, TypeDefinition.references] using listed
    · simp [flagType, TypeDefinition.references] at listed

/-- A struct gets another key, label and contract; the entries that nothing uses come and go. -/
theorem recompiled_cellLayout : RawLayout.Recompiled nodeToCell nodeLayout cellLayout where
  storage := .cons ⟨rfl, rfl, rfl, by decide⟩ .nil
  types := by
    refine Or.inr ⟨nodeDictionary, cellDictionary, rfl, rfl, ?_, ?_, ?_⟩
    · intro key mentioned other mentioned' same
      rcases mentions_nodeLayout mentioned with rfl | rfl <;>
        rcases mentions_nodeLayout mentioned' with rfl | rfl
      · rfl
      · exact absurd same (by decide)
      · exact absurd same (by decide)
      · rfl
    · intro key mentioned absent
      rcases mentions_nodeLayout mentioned with rfl | rfl
      · exact absurd absent (by decide)
      · rfl
    · refine ⟨[("node", linkedStruct "node" "struct Node" none)],
        [("cell", linkedStruct "cell" "struct Cell" "Queue.sol:Queue")], [("flag", flagType)],
        [("spare", flagType)], .refl _, .swap _ _ _, .cons ⟨by decide, rfl⟩ .nil, ?_, ?_⟩
      · intro entry listed used
        obtain rfl := List.mem_singleton.1 listed
        have typed : ∀ e ∈ nodeLayout.storage, e.typeKey = "node" := by simp [nodeLayout]
        exact absurd (uses_linkedStruct typed (by rfl) used) (by decide)
      · intro entry listed used
        obtain rfl := List.mem_singleton.1 listed
        have typed : ∀ e ∈ cellLayout.storage, e.typeKey = "cell" := by simp [cellLayout]
        exact absurd (uses_linkedStruct typed (by rfl) used) (by decide)

/-- The extraction of the struct succeeds. -/
theorem extract_nodeLayout :
    RawLayout.extract "Queue" (some nodeLayout) = .ok (some ⟨"Queue",
      [⟨"head", ⟨0⟩, 0, "node", queueNode.fingerprint⟩], nodeDictionary⟩) := by
  have entered : TypeScope.find? ⟨"Queue", nodeDictionary⟩ "node" =
      some (linkedStruct "node" "struct Node" none) := rfl
  exact extract_of_few (s := ⟨"Queue", nodeDictionary⟩) (by decide)
    (.cons ⟨⟨0⟩, queueNode, rfl, plainDigest_linkedStruct entered, rfl⟩ .nil)

/-- The struct and its new name are extracted, and compare as equal. -/
theorem cellLayout_is_not_reported :
    RawLayout.Recompiled nodeToCell nodeLayout cellLayout ∧
    ∃ before after, RawLayout.extract "Queue" (some nodeLayout) = .ok (some before) ∧
      RawLayout.extract "Queue" (some cellLayout) = .ok (some after) ∧
      (before.compare after).isClean ∧ (after.compare before).isClean := by
  refine ⟨recompiled_cellLayout, ?_⟩
  have general := (recompilation_is_not_reported "Queue" recompiled_cellLayout).2
  rcases general with ⟨none_old, -⟩ | clean | ⟨e, failed, -⟩
  · exact nomatch extract_nodeLayout.symm.trans none_old
  · exact clean
  · exact nomatch extract_nodeLayout.symm.trans failed

end StorageLayout
