import StorageLayout.Proofs.Comparison.Verdict

/-!
# Which differences are found

Four of the rules look at a position, and the fifth follows the old variable to its counterpart. A
difference at a position is therefore found there if the new layout lacks the position, if it holds
another name or the counterpart there, or if only the type has changed. Where names repeat, the
position may also hold a variable of the same name that is not the counterpart; then what counts is
whether the counterpart has moved, and if it has not, nothing is found at the position. This takes a
changed name at an earlier position, which is found there.
-/
namespace StorageLayout

/-- The position holds a variable of the old one's name in the new layout, but not its counterpart.
The counterpart, if there is one, has kept its place, and the type at the position has changed only
if the slot has. -/
def Position.HoldsOtherNamesake (p : Position) : Prop :=
  ∃ v w, p.oldVariable? = some v ∧ p.newVariable? = some w ∧ v.name = w.name ∧
    p.counterpartIndex? ≠ some p.index ∧
    (∀ u, p.counterpart? = some u → v.slot = u.slot ∧ v.offset = u.offset) ∧
    (v.slot = w.slot → v.typeHash = w.typeHash)

namespace ContractSnapshot

/-- The new layout ends before a position of the old one, or holds there a variable with which the
old one does not agree. -/
def DiffersAt (old new : ContractSnapshot) (index : Nat) : Prop :=
  ∃ v, old.variableAt? index = some v ∧ ∀ w, new.variableAt? index = some w → ¬ v.Agrees w

variable {old new : ContractSnapshot} {index : Nat} {v : StateVariable}

/-- A rule has a finding at a position, and the comparison files it. -/
def FoundAt (old new : ContractSnapshot) (index : Nat) : Prop :=
  ∃ rule d, rule.check ⟨index, old, new⟩ = some d ∧ d ∈ (old.compare new).byRule rule

theorem foundAt_iff (before : old.variableAt? index = some v) :
    old.FoundAt new index ↔ ∃ rule : Rule, rule.Applies ⟨index, old, new⟩ := by
  constructor
  · rintro ⟨rule, d, finding, -⟩
    exact ⟨rule, (Rule.isSome_check_iff rule _).1 (by rw [finding]; rfl)⟩
  · rintro ⟨rule, applies⟩
    obtain ⟨d, finding⟩ := Option.isSome_iff_exists.1 ((Rule.isSome_check_iff rule _).2 applies)
    have filed : d ∈ (old.compare new).byRule rule :=
      (mem_byRule_compare_iff old new rule d).2 ⟨index, lt_length_of_variableAt before, finding⟩
    exact ⟨rule, d, finding, filed⟩

/-- Nothing is found where the name is kept, the counterpart has not moved, and the type has changed
only if the slot has. -/
theorem forall_not_applies_iff (before : old.variableAt? index = some v) :
    (∀ rule : Rule, ¬ rule.Applies ⟨index, old, new⟩) ↔
      ∃ w, new.variableAt? index = some w ∧ v.name = w.name ∧
        (∀ u, (Position.mk index old new).counterpart? = some u →
          v.slot = u.slot ∧ v.offset = u.offset) ∧
        (v.slot = w.slot → v.typeHash = w.typeHash) := by
  constructor
  · intro quiet
    obtain ⟨w, after⟩ := exists_variableAt_of_not_missing before (quiet .missingVariable)
    have name := name_eq_of_not_applies before after quiet
    refine ⟨w, after, name, ?_, ?_⟩
    · intro u paired
      exact place_eq_of_not_moved before paired (quiet .slotChanged)
    · intro slot
      by_contra retyped
      exact quiet .typeChanged ⟨v, w, before, after, name, slot, retyped⟩
  · rintro ⟨w, after, name, followed, type⟩ rule applies
    cases rule with
    | missingVariable =>
      obtain ⟨_, -, absent⟩ := applies
      exact nomatch after.symm.trans absent
    | slotChanged =>
      obtain ⟨v', u, before', paired, moved⟩ := applies
      obtain rfl := Option.some.inj (before.symm.trans before')
      have kept := followed u paired
      exact moved.elim (· kept.1) (· kept.2)
    | orderChanged | nameChanged =>
      obtain ⟨v', w', before', after', renamed, -⟩ := applies
      obtain rfl := Option.some.inj (before.symm.trans before')
      obtain rfl := Option.some.inj (after.symm.trans after')
      exact renamed name
    | typeChanged =>
      obtain ⟨v', w', before', after', -, slot, retyped⟩ := applies
      obtain rfl := Option.some.inj (before.symm.trans before')
      obtain rfl := Option.some.inj (after.symm.trans after')
      exact retyped (type slot)

/-- A variable whose counterpart lies at its own position is found there unless it agrees. -/
theorem agrees_of_not_applies {w : StateVariable} (before : old.variableAt? index = some v)
    (after : new.variableAt? index = some w)
    (paired : (Position.mk index old new).counterpartIndex? = some index)
    (quiet : ∀ rule : Rule, ¬ rule.Applies ⟨index, old, new⟩) : v.Agrees w := by
  obtain ⟨w', after', name, followed, type⟩ := (forall_not_applies_iff before).1 quiet
  obtain rfl := Option.some.inj (after'.symm.trans after)
  have place := followed w' (Option.bind_eq_some_iff.2 ⟨index, paired, after⟩)
  exact ⟨name, place.1, place.2, type place.1⟩

/-- A position holds another variable of the same name only if a name before it has changed. -/
theorem exists_renamed_before (other : (Position.mk index old new).HoldsOtherNamesake) :
    ∃ earlier < index, ∃ a b, old.variableAt? earlier = some a ∧
      new.variableAt? earlier = some b ∧ a.name ≠ b.name := by
  obtain ⟨v, w, before, after, name, unpaired, -⟩ := other
  by_contra kept
  apply unpaired
  refine (Position.counterpartIndex?_eq_some_iff _ _).2
    ⟨v, w, before, after, name.symm, Position.occurrencesBefore_congr (fun j inside => ?_) v.name⟩
  obtain ⟨a, at_old⟩ := exists_variableAt (Nat.lt_trans inside (lt_length_of_variableAt before))
  obtain ⟨b, at_new⟩ := exists_variableAt (Nat.lt_trans inside (lt_length_of_variableAt after))
  have named : a.name = b.name := by
    by_contra renamed
    exact kept ⟨j, inside, a, b, at_old, at_new, renamed⟩
  rw [variableAt?] at at_old at_new
  rw [at_old, at_new, Option.map_some, Option.map_some, named]

theorem foundAt_of_renamed {w : StateVariable} (before : old.variableAt? index = some v)
    (after : new.variableAt? index = some w) (renamed : v.name ≠ w.name) :
    old.FoundAt new index := by
  rw [foundAt_iff before]
  by_contra quiet
  rw [not_exists] at quiet
  exact renamed (name_eq_of_not_applies before after quiet)

/-- A difference at a position is found there unless the position holds another variable of the same
name; and then something is found at an earlier position, where a name has changed. -/
theorem difference_is_found_there_or_earlier (differs : old.DiffersAt new index) :
    (old.FoundAt new index ↔ ¬ (Position.mk index old new).HoldsOtherNamesake) ∧
      ((Position.mk index old new).HoldsOtherNamesake →
        ∃ earlier < index, old.FoundAt new earlier) := by
  obtain ⟨v, before, apart⟩ := differs
  constructor
  · rw [foundAt_iff before, ← not_forall_not, not_iff_not]
    constructor
    · intro quiet
      obtain ⟨w, after, name, followed, type⟩ := (forall_not_applies_iff before).1 quiet
      refine ⟨v, w, before, after, name, fun paired => ?_, followed, type⟩
      exact apart w after (agrees_of_not_applies before after paired quiet)
    · rintro ⟨v', w, before', after, name, -, followed, type⟩
      obtain rfl := Option.some.inj (before.symm.trans before')
      exact (forall_not_applies_iff before).2 ⟨w, after, name, followed, type⟩
  · intro other
    obtain ⟨earlier, before_index, a, b, at_old, at_new, renamed⟩ := exists_renamed_before other
    exact ⟨earlier, before_index, foundAt_of_renamed at_old at_new renamed⟩

/-- A number, and space that is set aside behind it. -/
def capThenGap : ContractSnapshot where
  name := "Vault"
  stateVariables := [⟨"cap", ⟨0⟩, 0, "t_uint256", "9b4c2d1e0f3a"⟩,
    ⟨"gap", ⟨1⟩, 0, "t_array(t_uint256)49_storage", "0f7a6c1b2d3e"⟩]
  types := .empty

/-- The same space, and more of it further on. -/
def gapThenGap (further : Nat) : ContractSnapshot where
  name := "Vault"
  stateVariables := [⟨"gap", ⟨1⟩, 0, "t_array(t_uint256)49_storage", "0f7a6c1b2d3e"⟩,
    ⟨"gap", ⟨further⟩, 0, "t_array(t_uint256)49_storage", "0f7a6c1b2d3e"⟩]
  types := .empty

theorem differsAt_gapThenGap (c : ContractSnapshot) {slot further : Nat}
    (gap : c.variableAt? 1 =
      some ⟨"gap", ⟨slot⟩, 0, "t_array(t_uint256)49_storage", "0f7a6c1b2d3e"⟩)
    (moved : slot ≠ further) : c.DiffersAt (gapThenGap further) 1 := by
  refine ⟨_, gap, fun w after agrees => moved ?_⟩
  obtain rfl := Option.some.inj after
  exact congrArg Slot.index agrees.slot

/-- The second of two variables of one name has moved, which is found. -/
theorem moved_gap_is_found : (gapThenGap 50).DiffersAt (gapThenGap 60) 1 ∧
    (gapThenGap 50).FoundAt (gapThenGap 60) 1 := by
  have differs : (gapThenGap 50).DiffersAt (gapThenGap 60) 1 :=
    differsAt_gapThenGap _ rfl (by decide)
  refine ⟨differs, (difference_is_found_there_or_earlier differs).1.2 ?_⟩
  rintro ⟨-, -, -, -, -, other, -⟩
  exact other (by decide)

/-- Where the space keeps its place but becomes the first variable, nothing is found at its old
position, although the space there lies elsewhere. -/
theorem other_gap_is_not_found : capThenGap.DiffersAt (gapThenGap 50) 1 ∧
    ∀ rule : Rule, rule.check ⟨1, capThenGap, gapThenGap 50⟩ = none := by
  refine ⟨differsAt_gapThenGap capThenGap rfl (by decide), fun rule => ?_⟩
  cases rule <;> rfl

end ContractSnapshot
end StorageLayout
