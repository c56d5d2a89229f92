import Mathlib.Data.List.Basic
import Mathlib.Data.Option.Basic
import StorageLayout.Proofs.Comparison.Pairing

/-!
# Variables at the end

Variables that are appended to a new layout stay behind all positions of the old one, if the new
layout is long enough. They could only matter as counterparts of old variables, and they are none if
the new layout has as many variables of each name without them as the old one has. Then the whole
report stays as it is, whatever has been found before.
-/
namespace StorageLayout

namespace ContractSnapshot

def append (c : ContractSnapshot) (extra : List StateVariable) : ContractSnapshot :=
  { c with stateVariables := c.stateVariables ++ extra }

def countOf (c : ContractSnapshot) (name : String) : Nat :=
  (c.stateVariables.filter (·.name = name)).length

variable {c : ContractSnapshot} {index : Nat}

theorem occurrencesBefore_length (c : ContractSnapshot) (name : String) :
    Position.occurrencesBefore c.stateVariables c.stateVariables.length name = c.countOf name := by
  rw [Position.occurrencesBefore, List.take_length, countOf]

/-- Before its own position, a variable's name occurs less often than in the whole layout. -/
theorem occurrencesBefore_lt_countOf {v : StateVariable} (listed : c.variableAt? index = some v) :
    Position.occurrencesBefore c.stateVariables index v.name < c.countOf v.name := by
  rw [← occurrencesBefore_length]
  exact Position.occurrencesBefore_lt listed (List.getElem?_eq_some_iff.1 listed).1

section Append

variable (extra : List StateVariable)

theorem variableAt?_append (inside : index < c.stateVariables.length) :
    (c.append extra).variableAt? index = c.variableAt? index :=
  List.getElem?_append_left inside

theorem occurrencesBefore_append (inside : index ≤ c.stateVariables.length) (name : String) :
    Position.occurrencesBefore (c.append extra).stateVariables index name =
      Position.occurrencesBefore c.stateVariables index name := by
  simp only [Position.occurrencesBefore, append, List.take_append_of_le_length inside]

/-- An appended variable has all others of its name before it. -/
theorem countOf_le_occurrencesBefore_append (beyond : c.stateVariables.length ≤ index)
    (name : String) :
    c.countOf name ≤ Position.occurrencesBefore (c.append extra).stateVariables index name := by
  rw [Position.occurrencesBefore, append, List.take_append, List.take_of_length_le beyond,
    List.filter_append, List.length_append]
  exact Nat.le_add_right _ _

end Append
end ContractSnapshot

namespace Rule

/-- What a rule finds depends on the variable, on what it is compared with, and on how types are
shown. -/
theorem check_congr (p q : Position) (old_variable : p.oldVariable? = q.oldVariable?)
    (new_variable : p.newVariable? = q.newVariable?) (counterpart : p.counterpart? = q.counterpart?)
    (old_types : p.old.renderType = q.old.renderType)
    (new_types : p.new.renderType = q.new.renderType) (rule : Rule) :
    rule.check p = rule.check q := by
  cases rule <;> simp only [check, checkMissingVariable, checkSlotChanged, checkOrderChanged,
    checkTypeChanged, checkNameChanged, old_variable, new_variable, counterpart, old_types,
    new_types]

end Rule

namespace ContractSnapshot

variable {old new : ContractSnapshot} {extra : List StateVariable}

/-- Appended variables are no counterparts if the new layout has enough variables of each name. -/
theorem counterpart?_append {index : Nat}
    (enough : ∀ v ∈ old.stateVariables, ∀ w ∈ extra, v.name = w.name →
      old.countOf v.name ≤ new.countOf v.name) :
    (Position.mk index old (new.append extra)).counterpart? =
      (Position.mk index old new).counterpart? := by
  ext w
  rw [Position.counterpart?_eq_some_iff, Position.counterpart?_eq_some_iff]
  refine exists_congr fun j => exists_congr fun v => and_congr_right fun before => ?_
  by_cases inside : j < new.stateVariables.length
  · rw [variableAt?_append extra inside, occurrencesBefore_append extra (Nat.le_of_lt inside)]
  · constructor
    · rintro ⟨after, name, count⟩
      exfalso
      have beyond : new.stateVariables.length ≤ j := Nat.le_of_not_lt inside
      have appended : w ∈ extra := by
        rw [variableAt?, append, List.getElem?_append_right beyond] at after
        exact List.mem_of_getElem? after
      have fewer : Position.occurrencesBefore old.stateVariables index v.name <
          old.countOf v.name := occurrencesBefore_lt_countOf before
      have more := countOf_le_occurrencesBefore_append extra beyond v.name
      have held := enough v (List.mem_of_getElem? before) w appended name.symm
      dsimp only at count
      omega
    · rintro ⟨after, -⟩
      exact absurd (List.getElem?_eq_some_iff.1 after).1 inside

/-- Appended variables change nothing in the report, if they come after all positions of the old
layout and the new layout has enough variables of each name without them. -/
theorem compare_append (long : old.stateVariables.length ≤ new.stateVariables.length)
    (enough : ∀ v ∈ old.stateVariables, ∀ w ∈ extra, v.name = w.name →
      old.countOf v.name ≤ new.countOf v.name) :
    old.compare (new.append extra) = old.compare new := by
  have each (index : Nat) (inside : index < old.stateVariables.length) :
      (Position.mk index old (new.append extra)).diagnostics =
        (Position.mk index old new).diagnostics := by
    have held : (new.append extra).variableAt? index = new.variableAt? index :=
      variableAt?_append extra (Nat.lt_of_lt_of_le inside long)
    exact List.filterMap_congr fun rule _ => Rule.check_congr ⟨index, old, new.append extra⟩
      ⟨index, old, new⟩ rfl held (counterpart?_append enough) rfl rfl rule
  rw [compare, compare, Position.all, Position.all, List.flatMap_map, List.flatMap_map]
  congr 1
  exact List.flatMap_congr fun index listed => each index (List.mem_range.1 listed)

/-- A number with two reserves of one name behind it; the second one starts at the given slot. -/
def reserves (number : String) (second : Nat) : ContractSnapshot where
  name := "Vault"
  stateVariables := [⟨number, ⟨0⟩, 0, "t_uint256", "9b4c2d1e0f3a"⟩,
    ⟨"gap", ⟨1⟩, 0, "t_array(t_uint256)49_storage", "0f7a6c1b2d3e"⟩,
    ⟨"gap", ⟨second⟩, 0, "t_array(t_uint256)49_storage", "0f7a6c1b2d3e"⟩]
  types := .empty

/-- A number and one more reserve of the same name. -/
def thirdReserve : List StateVariable :=
  [⟨"fee", ⟨120⟩, 0, "t_uint256", "9b4c2d1e0f3a"⟩,
    ⟨"gap", ⟨121⟩, 0, "t_array(t_uint256)49_storage", "0f7a6c1b2d3e"⟩]

/-- A renamed number and a moved reserve are reported as before, when a third reserve follows. -/
theorem compare_append_thirdReserve :
    ((reserves "cap" 50).stateVariables.length ≤ (reserves "limit" 60).stateVariables.length ∧
      ∀ v ∈ (reserves "cap" 50).stateVariables, ∀ w ∈ thirdReserve, v.name = w.name →
        (reserves "cap" 50).countOf v.name ≤ (reserves "limit" 60).countOf v.name) ∧
    (reserves "cap" 50).compare ((reserves "limit" 60).append thirdReserve) =
      (reserves "cap" 50).compare (reserves "limit" 60) ∧
    ((reserves "cap" 50).compare (reserves "limit" 60)).hasErrors := by
  have enough : ∀ v ∈ (reserves "cap" 50).stateVariables, ∀ w ∈ thirdReserve, v.name = w.name →
      (reserves "cap" 50).countOf v.name ≤ (reserves "limit" 60).countOf v.name := by decide
  exact ⟨⟨Nat.le_refl _, enough⟩, compare_append (Nat.le_refl _) enough, by decide⟩

end ContractSnapshot
end StorageLayout
