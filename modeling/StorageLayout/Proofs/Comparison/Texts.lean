import Mathlib.Data.Bool.AllAny
import StorageLayout.Fingerprint.Basic
import StorageLayout.Proofs.Comparison.Verdict
import StorageLayout.Proofs.Diff.Hunk
import StorageLayout.Proofs.Slot

/-!
# Every finding shows its change

The texts of a finding are compared line by line, and type keys may hold any characters, so that two
texts could differ and still have the same lines. What a rule has found is never lost in this way:
names stand between quotation marks on the first line, fingerprints of one length at the end of the
last line, and texts about places alone are a single line.
-/
namespace StorageLayout

def IsHexDigit (c : Char) : Prop := c.isDigit ∨ 'a' ≤ c ∧ c ≤ 'f' ∨ 'A' ≤ c ∧ c ≤ 'F'

instance : DecidablePred IsHexDigit := fun c =>
  inferInstanceAs (Decidable (c.isDigit ∨ 'a' ≤ c ∧ c ≤ 'f' ∨ 'A' ≤ c ∧ c ≤ 'F'))

/-- The name has neither a quotation mark nor the end of a line in it, as the names of variables do,
and the fingerprint looks like one. -/
structure StateVariable.IsPlain (v : StateVariable) : Prop where
  quote : '\'' ∉ v.name.toList
  lineFeed : '\n' ∉ v.name.toList
  carriageReturn : '\r' ∉ v.name.toList
  length : v.typeHash.length = fingerprintLength
  hex : ∀ c ∈ v.typeHash.toList, IsHexDigit c

/-- The old and the new state are different texts, and the difference that is shown is theirs and is
not empty. -/
structure Diagnostic.ShowsChange (d : Diagnostic) : Prop where
  texts : d.expected ≠ d.got
  diff : d.diff = Diff.unified d.expected d.got
  nonempty : d.diff ≠ ""

theorem Diagnostic.showsChange_ofRule {rule : Rule} {name expected got : String}
    {definitions : Option TypeDefinitions} (differ : Text.lines expected ≠ Text.lines got) :
    (ofRule rule name expected got definitions).ShowsChange where
  texts := fun same => differ (congrArg Text.lines same)
  diff := rfl
  nonempty := mt (Diff.unified_eq_empty_iff expected got).1 differ

/-- The first mark tells where the text before it ends. -/
theorem eq_of_append_cons_eq {mark : Char} {before before' after after' : List Char}
    (clean : mark ∉ before) (clean' : mark ∉ before')
    (same : before ++ mark :: after = before' ++ mark :: after') :
    before = before' ∧ after = after' := by
  induction before generalizing before' with
  | nil =>
    cases before' with
    | nil => exact ⟨rfl, (List.cons.inj same).2⟩
    | cons c before' => exact absurd (List.mem_cons.2 (.inl (List.cons.inj same).1)) clean'
  | cons c before ih =>
    cases before' with
    | nil => exact absurd (List.mem_cons.2 (.inl (List.cons.inj same).1.symm)) clean
    | cons c' before' =>
      obtain ⟨rfl, tails⟩ := List.cons.inj same
      obtain ⟨rfl, others⟩ := ih (fun member => clean (List.mem_cons_of_mem _ member))
        (fun member => clean' (List.mem_cons_of_mem _ member)) tails
      exact ⟨rfl, others⟩

theorem Slot.not_mem_text {s : Slot} {c : Char} (other : ¬ c.isDigit) : c ∉ s.text.toList :=
  Text.not_mem_toString other s.index

namespace StateVariable

def quotedName (v : StateVariable) : List Char := '\'' :: v.name.toList ++ ['\'']

variable {v w : StateVariable} {rest rest' : List Char}

theorem toList_onSlot (v : StateVariable) : v.onSlot.toList =
    v.quotedName ++ " on slot '".toList ++ v.slot.text.toList ++ ['\''] := by
  simp [onSlot, quotedName]

theorem toList_onSlotAndOffset (v : StateVariable) : v.onSlotAndOffset.toList =
    v.quotedName ++ " on slot '".toList ++ v.slot.text.toList ++
      '\'' :: (" offset '".toList ++ (toString v.offset.toNat).toList ++ ['\'']) := by
  simp [onSlotAndOffset, onSlot, quotedName]

theorem toList_withTypeOnSlot (v : StateVariable) : v.withTypeOnSlot.toList =
    v.quotedName ++ (" with type '".toList ++ v.typeKey.toList ++ "' on slot '".toList ++
      v.slot.text.toList ++ ['\'']) := by
  simp [withTypeOnSlot, quotedName]

theorem toList_withTypeHash (v : StateVariable) : v.withTypeHash.toList =
    v.quotedName ++ (" with type '".toList ++ v.typeKey.toList ++ "' (".toList) ++
      (v.typeHash.toList ++ [')']) := by
  simp [withTypeHash, quotedName]

theorem IsPlain.lineFeed_quotedName (plain : v.IsPlain) : '\n' ∉ v.quotedName := by
  simp [quotedName, plain.lineFeed]

theorem IsPlain.carriageReturn_quotedName (plain : v.IsPlain) : '\r' ∉ v.quotedName := by
  simp [quotedName, plain.carriageReturn]

theorem IsPlain.lineFeed_typeHash (plain : v.IsPlain) : '\n' ∉ v.typeHash.toList := by
  intro member
  exact absurd (plain.hex _ member) (by decide)

/-- The closing quotation mark tells where a name ends. -/
theorem eq_of_quotedName_append_eq (plain : v.IsPlain) (plain' : w.IsPlain)
    (same : v.quotedName ++ rest = w.quotedName ++ rest') : v.name = w.name ∧ rest = rest' := by
  simp only [quotedName, List.cons_append, List.append_assoc, List.nil_append,
    List.cons.injEq, true_and] at same
  obtain ⟨name, others⟩ := eq_of_append_cons_eq plain.quote plain'.quote same
  exact ⟨String.toList_inj.1 name, others⟩

theorem onSlot_ne (plain : v.IsPlain) (plain' : w.IsPlain) (moved : v.slot ≠ w.slot) :
    v.onSlot ≠ w.onSlot := by
  intro same
  rw [← String.toList_inj, toList_onSlot, toList_onSlot] at same
  simp only [List.append_assoc] at same
  obtain ⟨-, slots⟩ := eq_of_quotedName_append_eq plain plain' same
  rw [List.append_cancel_left_eq, List.append_cancel_right_eq, String.toList_inj, Slot.text_inj]
    at slots
  exact moved slots

theorem onSlotAndOffset_ne (plain : v.IsPlain) (plain' : w.IsPlain) (moved : v.offset ≠ w.offset) :
    v.onSlotAndOffset ≠ w.onSlotAndOffset := by
  intro same
  rw [← String.toList_inj, toList_onSlotAndOffset, toList_onSlotAndOffset] at same
  simp only [List.append_assoc] at same
  obtain ⟨-, places⟩ := eq_of_quotedName_append_eq plain plain' same
  have no_quote (s : Slot) : '\'' ∉ s.text.toList := Slot.not_mem_text (by decide)
  have offsets := (eq_of_append_cons_eq (no_quote _) (no_quote _)
    (List.append_cancel_left places)).2
  rw [List.append_cancel_left_eq, List.append_cancel_right_eq, String.toList_inj] at offsets
  exact moved (UInt8.toNat_inj.1 (Nat.repr_inj.1 offsets))

/-- The text about a variable's slot is a single line. -/
theorem lines_onSlot (plain : v.IsPlain) : Text.lines v.onSlot = [v.onSlot] := by
  have digits : '\n' ∉ v.slot.text.toList := Slot.not_mem_text (by decide)
  refine Text.lines_of_clean ?_ ?_
  · rw [toList_onSlot]
    simp [plain.lineFeed_quotedName, digits]
  · rw [← String.toList_inj.ne, toList_onSlot]
    simp

theorem lines_onSlotAndOffset (plain : v.IsPlain) :
    Text.lines v.onSlotAndOffset = [v.onSlotAndOffset] := by
  have digits : '\n' ∉ v.slot.text.toList := Slot.not_mem_text (by decide)
  have decimal : '\n' ∉ (toString v.offset.toNat).toList := Text.not_mem_toString (by decide) _
  refine Text.lines_of_clean ?_ ?_
  · rw [toList_onSlotAndOffset]
    simpa [plain.lineFeed_quotedName, digits] using decimal
  · rw [← String.toList_inj.ne, toList_onSlotAndOffset]
    simp

/-- Texts that begin with different names differ in their first lines. -/
theorem lines_ne_of_name_ne (plain : v.IsPlain) (plain' : w.IsPlain) (renamed : v.name ≠ w.name)
    {old new : String} (begins : old.toList = v.quotedName ++ rest)
    (begins' : new.toList = w.quotedName ++ rest') : Text.lines old ≠ Text.lines new := by
  intro same
  rw [← String.ofList_toList (s := old), ← String.ofList_toList (s := new), begins, begins'] at same
  obtain ⟨more, more', first⟩ := Text.exists_append_eq_of_lines_eq (by simp [quotedName])
    (by simp [quotedName]) ⟨plain.lineFeed_quotedName, plain.carriageReturn_quotedName⟩
    ⟨plain'.lineFeed_quotedName, plain'.carriageReturn_quotedName⟩ same
  exact renamed (eq_of_quotedName_append_eq plain plain' first).1

/-- Texts that end with different fingerprints differ in their last lines. -/
theorem lines_withTypeHash_ne (plain : v.IsPlain) (plain' : w.IsPlain)
    (changed : v.typeHash ≠ w.typeHash) :
    Text.lines v.withTypeHash ≠ Text.lines w.withTypeHash := by
  intro same
  rw [← String.ofList_toList (s := v.withTypeHash), ← String.ofList_toList (s := w.withTypeHash),
    toList_withTypeHash, toList_withTypeHash] at same
  have length : (v.typeHash.toList ++ [')']).length = (w.typeHash.toList ++ [')']).length := by
    simp only [List.length_append, String.length_toList, plain.length, plain'.length,
      List.length_singleton]
  have ends := Text.eq_of_lines_eq (by simp) (by simp [plain.lineFeed_typeHash])
    (by simp [plain'.lineFeed_typeHash]) length same
  rw [List.append_cancel_right_eq, String.toList_inj] at ends
  exact changed ends

end StateVariable

/-- What a rule finds among plain variables shows its change. -/
theorem Rule.showsChange_of_check {rule : Rule} {p : Position} {d : Diagnostic}
    (plain : ∀ v ∈ p.old.stateVariables, v.IsPlain) (plain' : ∀ v ∈ p.new.stateVariables, v.IsPlain)
    (finding : rule.check p = some d) : d.ShowsChange := by
  have plain_old {v : StateVariable} (listed : p.oldVariable? = some v) : v.IsPlain :=
    plain v (List.mem_of_getElem? listed)
  have plain_new {w : StateVariable} (listed : p.newVariable? = some w) : w.IsPlain :=
    plain' w (List.mem_of_getElem? listed)
  have plain_counterpart {w : StateVariable} (paired : p.counterpart? = some w) : w.IsPlain := by
    obtain ⟨index, -, listed⟩ := Option.bind_eq_some_iff.1 paired
    exact plain' w (List.mem_of_getElem? listed)
  cases rule with
  | missingVariable =>
    simp only [check, checkMissingVariable, bind, Option.bind_eq_some_iff, pure] at finding
    obtain ⟨old, before, -, -, made⟩ := finding
    rw [← Option.some.inj made]
    refine Diagnostic.showsChange_ofRule ?_
    rw [StateVariable.lines_onSlot (plain_old before), Text.lines_of_clean (by decide) (by decide)]
    intro same
    have texts := congrArg String.toList (List.cons.inj same).1
    simp [StateVariable.toList_onSlot, StateVariable.quotedName] at texts
  | slotChanged =>
    simp only [check, checkSlotChanged, bind, Option.bind_eq_some_iff, pure] at finding
    obtain ⟨old, before, new, paired, _, moved, made⟩ := finding
    have clean := plain_old before
    have clean' := plain_counterpart paired
    split at made
    case isTrue offset =>
      rw [← Option.some.inj made]
      refine Diagnostic.showsChange_ofRule ?_
      rw [StateVariable.lines_onSlotAndOffset clean, StateVariable.lines_onSlotAndOffset clean',
        ne_eq, List.cons.injEq, and_iff_left rfl]
      exact StateVariable.onSlotAndOffset_ne clean clean' (by simpa [Field.differs] using offset)
    case isFalse offset =>
      rw [← Option.some.inj made]
      refine Diagnostic.showsChange_ofRule ?_
      rw [StateVariable.lines_onSlot clean, StateVariable.lines_onSlot clean', ne_eq,
        List.cons.injEq, and_iff_left rfl]
      have slot : old.slot ≠ new.slot := by
        simp only [Field.differs, decide_eq_true_eq, not_not] at offset
        simpa [Field.differs, offset] using moved
      exact StateVariable.onSlot_ne clean clean' slot
  | orderChanged =>
    simp only [check, checkOrderChanged, bind, Option.bind_eq_some_iff, pure] at finding
    obtain ⟨old, before, new, after, _, differ, made⟩ := finding
    obtain ⟨renamed, -⟩ : old.name ≠ new.name ∧ old.typeHash ≠ new.typeHash := by
      simpa [Field.differs] using differ
    rw [← Option.some.inj made]
    exact Diagnostic.showsChange_ofRule <| StateVariable.lines_ne_of_name_ne (plain_old before)
      (plain_new after) renamed old.toList_withTypeOnSlot new.toList_withTypeOnSlot
  | typeChanged =>
    simp only [check, checkTypeChanged, bind, Option.bind_eq_some_iff, pure] at finding
    obtain ⟨old, before, new, after, _, differ, made⟩ := finding
    obtain ⟨-, changed⟩ :
        (old.name = new.name ∧ old.slot = new.slot) ∧ old.typeHash ≠ new.typeHash := by
      simpa [Field.differs] using differ
    rw [← Option.some.inj made]
    exact Diagnostic.showsChange_ofRule <|
      StateVariable.lines_withTypeHash_ne (plain_old before) (plain_new after) changed
  | nameChanged =>
    simp only [check, checkNameChanged, bind, Option.bind_eq_some_iff, pure] at finding
    obtain ⟨old, before, new, after, _, differ, made⟩ := finding
    obtain ⟨renamed, -⟩ : old.name ≠ new.name ∧ old.typeHash = new.typeHash := by
      simpa [Field.differs] using differ
    rw [← Option.some.inj made]
    exact Diagnostic.showsChange_ofRule <| StateVariable.lines_ne_of_name_ne (plain_old before)
      (plain_new after) renamed (old.toList_withTypeHash.trans (List.append_assoc ..))
      (new.toList_withTypeHash.trans (List.append_assoc ..))

namespace ContractSnapshot

/-- Every finding about snapshots with plain variables shows its change, whatever their type keys
are. -/
theorem findings_show_their_change (old new : ContractSnapshot)
    (plain : ∀ v ∈ old.stateVariables ++ new.stateVariables, v.IsPlain) :
    ∀ d ∈ (old.compare new).diagnostics, d.ShowsChange := by
  intro d listed
  rw [compare, Findings.mem_diagnostics_addAll_iff, List.mem_flatMap] at listed
  obtain ⟨p, position, listed⟩ := listed
  obtain ⟨index, -, rfl⟩ := List.mem_map.1 position
  obtain ⟨rule, -, finding⟩ := List.mem_filterMap.1 listed
  exact Rule.showsChange_of_check (fun v member => plain v (List.mem_append_left _ member))
    (fun v member => plain v (List.mem_append_right _ member)) finding

/-- A layout whose type key looks like the text of a finding. -/
def modeInEnum : ContractSnapshot where
  name := "Vault"
  stateVariables := [⟨"mode", ⟨0⟩, 0, "t_enum' (0f7a6c1b2d3e)\n'mode' with type 't_enum",
    "0f7a6c1b2d3e"⟩]
  types := .empty

/-- The type of the variable has changed, and its key is the old one without the first line. -/
def modeInNumber : ContractSnapshot where
  name := "Vault"
  stateVariables := [⟨"mode", ⟨0⟩, 0, "t_enum", "5e6f7a8b9c0d"⟩]
  types := .empty

theorem type_key_with_lines_shows_change :
    (∀ v ∈ modeInEnum.stateVariables ++ modeInNumber.stateVariables, v.IsPlain) ∧
      ∃ d ∈ (modeInEnum.compare modeInNumber).diagnostics, d.rule = .typeChanged ∧
        d.ShowsChange := by
  have plain : ∀ v ∈ modeInEnum.stateVariables ++ modeInNumber.stateVariables, v.IsPlain := by
    rintro v (_ | ⟨_, _ | ⟨_, ⟨⟩⟩⟩) <;>
      exact ⟨by decide, by decide, by decide, by decide,
        (List.all_iff_forall_prop (p := IsHexDigit)).1 (by decide)⟩
  have applies : Rule.typeChanged.Applies ⟨0, modeInEnum, modeInNumber⟩ :=
    ⟨_, _, rfl, rfl, rfl, rfl, by decide⟩
  obtain ⟨d, finding⟩ := Option.isSome_iff_exists.1 ((Rule.isSome_check_iff _ _).2 applies)
  have listed := (mem_byRule_compare_iff modeInEnum modeInNumber _ _).2 ⟨0, Nat.one_pos, finding⟩
  have member := (List.mem_filter.1 listed).1
  exact ⟨plain, d, member, Rule.rule_of_check finding,
    findings_show_their_change modeInEnum modeInNumber plain d member⟩

end ContractSnapshot
end StorageLayout
