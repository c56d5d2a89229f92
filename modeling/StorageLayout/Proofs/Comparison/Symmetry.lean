import Mathlib.Data.List.Nodup
import Mathlib.Data.List.Perm.Subperm
import StorageLayout.Proofs.Comparison.Pairing
import StorageLayout.Proofs.Comparison.Triggers

/-!
# Comparing in both directions

A counterpart has the variable for its own counterpart, since both have one name and equally many
variables of that name before them. The pairing is therefore one between positions of two layouts,
whichever of them is called the old one, and among the variables of one name it keeps their order.
Each direction of a comparison finds as many moved variables as the other; if the layouts have
equally many variables, this holds for every rule, because the other rules compare what lies at one
position.
-/
namespace StorageLayout

namespace Position

/-- The old layout and the new one may change places. -/
theorem counterpartIndex?_comm (a b : ContractSnapshot) (i j : Nat) :
    (Position.mk i a b).counterpartIndex? = some j ↔
      (Position.mk j b a).counterpartIndex? = some i := by
  have back {a b : ContractSnapshot} {i j : Nat}
      (paired : (Position.mk i a b).counterpartIndex? = some j) :
      (Position.mk j b a).counterpartIndex? = some i := by
    obtain ⟨v, w, at_i, at_j, named, count⟩ := (counterpartIndex?_eq_some_iff _ _).1 paired
    refine (counterpartIndex?_eq_some_iff _ _).2 ⟨w, v, at_j, at_i, named.symm, ?_⟩
    rw [named]
    exact count.symm
  exact ⟨back, back⟩

/-- Among the variables of one name, counterparts stand in the order of the variables. -/
theorem counterpartIndex?_lt_iff {a b : ContractSnapshot} {i i' j j' : Nat} {v v' : StateVariable}
    (at_i : a.variableAt? i = some v) (at_i' : a.variableAt? i' = some v')
    (named : v.name = v'.name) (paired : (Position.mk i a b).counterpartIndex? = some j)
    (paired' : (Position.mk i' a b).counterpartIndex? = some j') : i < i' ↔ j < j' := by
  obtain ⟨_, w, found, at_j, same, count⟩ := (counterpartIndex?_eq_some_iff _ _).1 paired
  obtain ⟨_, w', found', at_j', same', count'⟩ := (counterpartIndex?_eq_some_iff _ _).1 paired'
  obtain rfl := Option.some.inj (at_i.symm.trans found)
  obtain rfl := Option.some.inj (at_i'.symm.trans found')
  have named' : w.name = w'.name := by rw [same, same', named]
  rw [← occurrencesBefore_lt_iff at_i at_i' named, ← occurrencesBefore_lt_iff at_j at_j' named',
    same, count, named, count']

end Position

namespace Rule

/-- The counterpart of a moved variable has moved, seen from the other layout. -/
theorem exists_of_slotChanged_applies {a b : ContractSnapshot} {i : Nat}
    (applies : slotChanged.Applies ⟨i, a, b⟩) :
    ∃ j, (Position.mk i a b).counterpartIndex? = some j ∧ slotChanged.Applies ⟨j, b, a⟩ := by
  obtain ⟨v, w, at_i, paired, moved⟩ := applies
  obtain ⟨j, index, at_j⟩ := Option.bind_eq_some_iff.1 paired
  have back := (Position.counterpartIndex?_comm a b i j).1 index
  refine ⟨j, index, w, v, at_j, Option.bind_eq_some_iff.2 ⟨i, back, at_i⟩, ?_⟩
  exact moved.imp Ne.symm Ne.symm

/-- A rule that compares what lies at a position does not tell the layouts apart. -/
theorem applies_comm {rule : Rule} (positional : rule ≠ .missingVariable ∧ rule ≠ .slotChanged)
    (a b : ContractSnapshot) (i : Nat) : rule.Applies ⟨i, a, b⟩ ↔ rule.Applies ⟨i, b, a⟩ := by
  have back {a b : ContractSnapshot} (applies : rule.Applies ⟨i, a, b⟩) :
      rule.Applies ⟨i, b, a⟩ := by
    cases rule with
    | missingVariable => exact absurd rfl positional.1
    | slotChanged => exact absurd rfl positional.2
    | orderChanged =>
      obtain ⟨v, w, before, after, renamed, retyped⟩ := applies
      exact ⟨w, v, after, before, renamed.symm, retyped.symm⟩
    | typeChanged =>
      obtain ⟨v, w, before, after, named, slot, retyped⟩ := applies
      exact ⟨w, v, after, before, named.symm, slot.symm, retyped.symm⟩
    | nameChanged =>
      obtain ⟨v, w, before, after, renamed, type⟩ := applies
      exact ⟨w, v, after, before, renamed.symm, type.symm⟩
  exact ⟨back, back⟩

end Rule

namespace ContractSnapshot

/-- The positions of the old layout at which a rule has a finding. -/
def positionsFound (old new : ContractSnapshot) (rule : Rule) : List Nat :=
  (List.range old.stateVariables.length).filter fun i => (rule.check ⟨i, old, new⟩).isSome

theorem mem_positionsFound_iff {old new : ContractSnapshot} {rule : Rule} {i : Nat} :
    i ∈ old.positionsFound new rule ↔
      i < old.stateVariables.length ∧ rule.Applies ⟨i, old, new⟩ := by
  rw [positionsFound, List.mem_filter, List.mem_range, Rule.isSome_check_iff]

theorem length_byRule_compare (old new : ContractSnapshot) (rule : Rule) :
    ((old.compare new).byRule rule).length = (old.positionsFound new rule).length := by
  rw [byRule_compare, Position.all, List.filterMap_map, List.length_filterMap_eq_countP,
    List.countP_eq_length_filter]
  rfl

/-- Moved variables are paired with variables that have moved in the other direction. -/
theorem length_slotChanged_le (a b : ContractSnapshot) :
    (a.positionsFound b .slotChanged).length ≤ (b.positionsFound a .slotChanged).length := by
  let partner (i : Nat) := (Position.mk i a b).counterpartIndex?
  have moved (i : Nat) (member : i ∈ a.positionsFound b .slotChanged) :
      ∃ j, partner i = some j ∧ j ∈ b.positionsFound a .slotChanged := by
    obtain ⟨j, paired, applies⟩ :=
      Rule.exists_of_slotChanged_applies (mem_positionsFound_iff.1 member).2
    have bound : j < b.stateVariables.length := by
      obtain ⟨w, _, at_j, -⟩ := applies
      exact (List.getElem?_eq_some_iff.1 at_j).1
    exact ⟨j, paired, mem_positionsFound_iff.2 ⟨bound, applies⟩⟩
  have distinct : ((a.positionsFound b .slotChanged).filterMap partner).Nodup := by
    refine List.Nodup.filterMap (fun i i' j paired paired' => ?_) (List.nodup_range.filter _)
    have back := (Position.counterpartIndex?_comm a b i j).1 paired
    exact Option.some.inj (back.symm.trans ((Position.counterpartIndex?_comm a b i' j).1 paired'))
  have within : (a.positionsFound b .slotChanged).filterMap partner ⊆
      b.positionsFound a .slotChanged := by
    intro j listed
    obtain ⟨i, member, paired⟩ := List.mem_filterMap.1 listed
    obtain ⟨j', paired', found⟩ := moved i member
    obtain rfl := Option.some.inj (paired'.symm.trans paired)
    exact found
  have complete : ((a.positionsFound b .slotChanged).filterMap partner).length =
      (a.positionsFound b .slotChanged).length := by
    rw [List.filterMap_length_eq_length]
    intro i member
    obtain ⟨j, paired, -⟩ := moved i member
    rw [paired]
    rfl
  rw [← complete]
  exact (List.subperm_of_subset distinct within).length_le

/-- No variable is missing in a layout that is at least as long. -/
theorem positionsFound_missingVariable {old new : ContractSnapshot}
    (long : old.stateVariables.length ≤ new.stateVariables.length) :
    old.positionsFound new .missingVariable = [] := by
  rw [List.eq_nil_iff_forall_not_mem]
  intro i member
  obtain ⟨bound, v, -, absent⟩ := mem_positionsFound_iff.1 member
  have ended : new.stateVariables.length ≤ i := List.getElem?_eq_none_iff.1 absent
  omega

/-- With equal lengths, the rules that look for no counterpart ask the same in both directions. -/
theorem length_positionsFound_comm {a b : ContractSnapshot}
    (lengths : a.stateVariables.length = b.stateVariables.length) (rule : Rule) :
    (a.positionsFound b rule).length = (b.positionsFound a rule).length := by
  cases rule with
  | missingVariable =>
    rw [positionsFound_missingVariable (Nat.le_of_eq lengths),
      positionsFound_missingVariable (Nat.le_of_eq lengths.symm)]
  | slotChanged => exact Nat.le_antisymm (length_slotChanged_le a b) (length_slotChanged_le b a)
  | orderChanged | typeChanged | nameChanged =>
    rw [positionsFound, positionsFound, lengths]
    congr 2
    funext i
    rw [Bool.eq_iff_iff, Rule.isSome_check_iff, Rule.isSome_check_iff]
    exact Rule.applies_comm (by decide) a b i

/-- Counterparts have one name, and each of them has as many variables of that name before it as the
other. So the pairing is the same in both directions and keeps the order among variables of one
name. Both directions find equally many moved variables, and equally many of everything if the
layouts have equally many variables. -/
theorem pairing_reads_the_same_both_ways (a b : ContractSnapshot) :
    (∀ i j, (Position.mk i a b).counterpartIndex? = some j ↔
      ∃ v w, a.variableAt? i = some v ∧ b.variableAt? j = some w ∧ w.name = v.name ∧
        (b.stateVariables.take j).countP (·.name = v.name) =
          (a.stateVariables.take i).countP (·.name = v.name)) ∧
    (∀ i j, (Position.mk i a b).counterpartIndex? = some j ↔
      (Position.mk j b a).counterpartIndex? = some i) ∧
    (∀ i i' j j' v v', a.variableAt? i = some v → a.variableAt? i' = some v' →
      v.name = v'.name → (Position.mk i a b).counterpartIndex? = some j →
      (Position.mk i' a b).counterpartIndex? = some j' → (i = i' ↔ j = j') ∧ (i < i' ↔ j < j')) ∧
    ((a.compare b).byRule .slotChanged).length = ((b.compare a).byRule .slotChanged).length ∧
    (a.stateVariables.length = b.stateVariables.length → ∀ rule : Rule,
      ((a.compare b).byRule rule).length = ((b.compare a).byRule rule).length) := by
  simp only [length_byRule_compare]
  refine ⟨?_, Position.counterpartIndex?_comm a b, ?_, ?_, length_positionsFound_comm⟩
  · intro i j
    simp only [List.countP_eq_length_filter]
    exact Position.counterpartIndex?_eq_some_iff ⟨i, a, b⟩ j
  · intro i i' j j' v v' at_i at_i' named paired paired'
    have forward := Position.counterpartIndex?_lt_iff at_i at_i' named paired paired'
    have backward := Position.counterpartIndex?_lt_iff at_i' at_i named.symm paired' paired
    exact ⟨by omega, forward⟩
  · exact Nat.le_antisymm (length_slotChanged_le a b) (length_slotChanged_le b a)

end ContractSnapshot
end StorageLayout
