import Mathlib.Tactic.ByContra
import StorageLayout.Proofs.Comparison.Pairing
import StorageLayout.Proofs.Comparison.Triggers

/-!
# What a verdict means

A clean comparison is a proof that the new layout begins with the old one. A comparison without
errors says less: variables are followed by name, so a variable keeps its place as long as the new
layout carries its name on. A renamed variable of unchanged type is a warning wherever it lies.
-/
namespace StorageLayout

structure StateVariable.Agrees (old new : StateVariable) : Prop where
  name : old.name = new.name
  slot : old.slot = new.slot
  offset : old.offset = new.offset
  typeHash : old.typeHash = new.typeHash

namespace ContractSnapshot

/-- The new layout holds every variable of the old one at its position. -/
def IsPrefixOf (old new : ContractSnapshot) : Prop :=
  ∀ index v, old.variableAt? index = some v → ∃ w, new.variableAt? index = some w ∧ v.Agrees w

theorem exists_variableAt {c : ContractSnapshot} {index : Nat}
    (bound : index < c.stateVariables.length) : ∃ v, c.variableAt? index = some v :=
  ⟨_, List.getElem?_eq_getElem bound⟩

theorem lt_length_of_variableAt {c : ContractSnapshot} {index : Nat} {v : StateVariable}
    (listed : c.variableAt? index = some v) : index < c.stateVariables.length :=
  (List.getElem?_eq_some_iff.1 listed).1

/-- The new layout holds a variable of the same name at every position of the old one. -/
def KeepsNames (old new : ContractSnapshot) : Prop :=
  ∀ index v, old.variableAt? index = some v → ∃ w, new.variableAt? index = some w ∧ v.name = w.name

/-- If no name changes, each position is its own counterpart, however often names repeat. -/
theorem counterpart?_of_keepsNames {old new : ContractSnapshot} (names : old.KeepsNames new)
    {index : Nat} {v w : StateVariable} (before : old.variableAt? index = some v)
    (after : new.variableAt? index = some w) :
    (Position.mk index old new).counterpart? = some w := by
  have bound := lt_length_of_variableAt before
  have same_names (j : Nat) (inside : j < index) :
      new.stateVariables[j]?.map (·.name) = old.stateVariables[j]?.map (·.name) := by
    obtain ⟨a, at_old⟩ := exists_variableAt (Nat.lt_trans inside bound)
    obtain ⟨b, at_new, named⟩ := names j a at_old
    rw [variableAt?] at at_old at_new
    rw [at_old, at_new, Option.map_some, Option.map_some, named]
  obtain ⟨w', after', named⟩ := names index v before
  obtain rfl : w' = w := Option.some.inj (after'.symm.trans after)
  exact Position.counterpart?_eq_newVariable? ⟨index, old, new⟩ before after named.symm
    (Position.occurrencesBefore_congr same_names v.name)

/-- Where neither the rule about order nor the one about names applies, the name is kept. -/
theorem name_eq_of_not_applies {old new : ContractSnapshot} {index : Nat} {v w : StateVariable}
    (before : old.variableAt? index = some v) (after : new.variableAt? index = some w)
    (none_applies : ∀ rule : Rule, ¬ rule.Applies ⟨index, old, new⟩) : v.name = w.name := by
  by_contra renamed
  by_cases type : v.typeHash = w.typeHash
  · exact none_applies .nameChanged ⟨v, w, before, after, renamed, type⟩
  · exact none_applies .orderChanged ⟨v, w, before, after, renamed, type⟩

/-- Where the rule about missing variables does not apply, the position is still held. -/
theorem exists_variableAt_of_not_missing {old new : ContractSnapshot} {index : Nat}
    {v : StateVariable} (before : old.variableAt? index = some v)
    (kept : ¬ Rule.Applies .missingVariable ⟨index, old, new⟩) :
    ∃ w, new.variableAt? index = some w := by
  cases after : new.variableAt? index with
  | none => exact absurd ⟨v, before, after⟩ kept
  | some w => exact ⟨w, rfl⟩

/-- Where the rule about moved variables does not apply, the counterpart lies at the same place. -/
theorem place_eq_of_not_moved {old new : ContractSnapshot} {index : Nat} {v w : StateVariable}
    (before : old.variableAt? index = some v)
    (paired : (Position.mk index old new).counterpart? = some w)
    (kept : ¬ Rule.Applies .slotChanged ⟨index, old, new⟩) :
    v.slot = w.slot ∧ v.offset = w.offset := by
  by_contra moved
  rw [not_and_or] at moved
  exact kept ⟨v, w, before, paired, moved⟩

theorem keepsNames_of_clean {old new : ContractSnapshot}
    (clean : ∀ index < old.stateVariables.length, ∀ rule : Rule,
      ¬ rule.Applies ⟨index, old, new⟩) : old.KeepsNames new := by
  intro index v before
  have quiet := clean index (lt_length_of_variableAt before)
  obtain ⟨w, after⟩ := exists_variableAt_of_not_missing before (quiet .missingVariable)
  exact ⟨w, after, name_eq_of_not_applies before after quiet⟩

/-- No rule applies where the counterpart lies at the same position and agrees. -/
theorem not_applies_of_agrees {old new : ContractSnapshot} {index : Nat} {v w : StateVariable}
    (before : old.variableAt? index = some v) (after : new.variableAt? index = some w)
    (paired : (Position.mk index old new).counterpart? = some w) (agrees : v.Agrees w)
    (rule : Rule) : ¬ rule.Applies ⟨index, old, new⟩ := by
  cases rule <;> simp [Rule.Applies, Position.oldVariable?, Position.newVariable?, before, after,
    paired, agrees.name, agrees.slot, agrees.offset, agrees.typeHash]

/-- A comparison with a layout that begins with the old one is clean. -/
theorem isClean_compare_of_isPrefixOf {old new : ContractSnapshot} (extended : old.IsPrefixOf new) :
    (old.compare new).isClean := by
  have names : old.KeepsNames new := fun position v before => by
    obtain ⟨w, after, agrees⟩ := extended position v before
    exact ⟨w, after, agrees.name⟩
  rw [isClean_compare_iff]
  intro position bound rule
  obtain ⟨v, before⟩ := exists_variableAt bound
  obtain ⟨w, after, agrees⟩ := extended position v before
  exact not_applies_of_agrees before after (counterpart?_of_keepsNames names before after) agrees
    rule

/-- Nothing is found between a snapshot and itself. -/
theorem isClean_compare_self (c : ContractSnapshot) : (c.compare c).isClean :=
  isClean_compare_of_isPrefixOf fun _ v listed => ⟨v, listed, rfl, rfl, rfl, rfl⟩

/-- A comparison is clean exactly if the old layout is a prefix of the new one on the compared
fields. -/
theorem isClean_compare_iff_isPrefixOf (old new : ContractSnapshot) :
    (old.compare new).isClean ↔ old.IsPrefixOf new := by
  constructor
  · intro clean index v before
    rw [isClean_compare_iff] at clean
    have names := keepsNames_of_clean clean
    have quiet := clean index (lt_length_of_variableAt before)
    obtain ⟨w, after, name⟩ := names index v before
    have paired := counterpart?_of_keepsNames names before after
    have place := place_eq_of_not_moved before paired (quiet .slotChanged)
    have type : v.typeHash = w.typeHash := by
      by_contra changed
      exact quiet .typeChanged ⟨v, w, before, after, name, place.1, changed⟩
    exact ⟨w, after, name, place.1, place.2, type⟩
  · exact isClean_compare_of_isPrefixOf

/-- A comparison has no error exactly if every position is still held by the same name or the same
type, and every variable whose counterpart exists has kept its place there. A position that carries
its own counterpart has therefore not moved, whatever its type; one that was renamed may have. -/
theorem no_errors_iff_places_follow_names (old new : ContractSnapshot) :
    (old.compare new).hasErrors = false ↔
      ∀ index v, old.variableAt? index = some v → ∃ w, new.variableAt? index = some w ∧
        (v.name = w.name ∨ v.typeHash = w.typeHash) ∧
        (v.name = w.name →
          Position.occurrencesBefore new.stateVariables index v.name =
            Position.occurrencesBefore old.stateVariables index v.name →
          v.slot = w.slot ∧ v.offset = w.offset) ∧
        (∀ u, (Position.mk index old new).counterpart? = some u →
          v.slot = u.slot ∧ v.offset = u.offset) := by
  rw [← Bool.not_eq_true, hasErrors_compare_iff]
  constructor
  · intro no_error index v before
    have quiet : ∀ rule : Rule, rule.severity = .error → ¬ rule.Applies ⟨index, old, new⟩ :=
      fun rule severe applies =>
        no_error ⟨index, lt_length_of_variableAt before, rule, severe, applies⟩
    obtain ⟨w, after⟩ := exists_variableAt_of_not_missing before (quiet .missingVariable rfl)
    have followed : ∀ u, (Position.mk index old new).counterpart? = some u →
        v.slot = u.slot ∧ v.offset = u.offset :=
      fun u paired => place_eq_of_not_moved before paired (quiet .slotChanged rfl)
    refine ⟨w, after, ?_, ?_, followed⟩
    · by_contra replaced
      rw [not_or] at replaced
      exact quiet .orderChanged rfl ⟨v, w, before, after, replaced⟩
    · intro name count
      exact followed w (Position.counterpart?_eq_newVariable? ⟨index, old, new⟩ before after
        name.symm count)
  · rintro places ⟨index, bound, rule, severe, applies⟩
    obtain ⟨v, before⟩ := exists_variableAt bound
    obtain ⟨w, after, identified, -, followed⟩ := places index v before
    cases rule with
    | missingVariable =>
      simp [Rule.Applies, Position.newVariable?, after] at applies
    | slotChanged =>
      obtain ⟨v', u, before', paired, moved⟩ := applies
      obtain rfl : v = v' := Option.some.inj (before.symm.trans before')
      have kept := followed u paired
      exact moved.elim (· kept.1) (· kept.2)
    | orderChanged =>
      simp only [Rule.Applies, Position.oldVariable?, Position.newVariable?, before, after,
        Option.some.injEq] at applies
      obtain ⟨_, _, rfl, rfl, renamed, retyped⟩ := applies
      exact identified.elim renamed retyped
    | typeChanged => cases severe
    | nameChanged => cases severe

/-- A layout with a struct and a number after it. -/
def structThenCap : ContractSnapshot where
  name := "Vault"
  stateVariables := [⟨"config", ⟨0⟩, 0, "t_struct(Config)4_storage", "0f7a6c1b2d3e"⟩,
    ⟨"cap", ⟨1⟩, 0, "t_uint256", "9b4c2d1e0f3a"⟩]
  types := .empty

/-- The struct has grown by a slot, and the number behind it has another name. -/
def grownStructThenLimit : ContractSnapshot where
  name := "Vault"
  stateVariables := [⟨"config", ⟨0⟩, 0, "t_struct(Config)9_storage", "5e6f7a8b9c0d"⟩,
    ⟨"limit", ⟨2⟩, 0, "t_uint256", "9b4c2d1e0f3a"⟩]
  types := .empty

/-- A comparison without errors does not mean that no position has moved: the number lies in another
slot, and the verdict has warnings only. -/
theorem renamed_variable_moves_without_error :
    (structThenCap.compare grownStructThenLimit).hasErrors = false ∧
      ¬ ∀ index v, structThenCap.variableAt? index = some v →
        ∃ w, grownStructThenLimit.variableAt? index = some w ∧
          v.slot = w.slot ∧ v.offset = w.offset := by
  constructor
  · decide
  · intro places
    obtain ⟨w, after, slot, -⟩ := places 1 _ rfl
    obtain rfl := Option.some.inj after
    exact absurd slot (by decide)

end ContractSnapshot
end StorageLayout
