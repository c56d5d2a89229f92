import Std.Data.HashSet
import StorageLayout.TypeDefinition.Basic

/-!
# Which types lead to which

The entries of a dictionary refer to one another. The keys that can be reached from some keys by
following references are found by following every key once; keys that are not in the dictionary
lead nowhere and are not counted.
-/
namespace StorageLayout.TypeDictionary

/-- The keys of a dictionary that have not been found yet. -/
def unfound (types : TypeDictionary) (found : Std.HashSet String) : List String :=
  types.keys.filter (!found.contains ·)

theorem length_filter_lt {α : Type} {p q : α → Bool} {a : α} {l : List α}
    (hqp : ∀ x, q x → p x) (ha : a ∈ l) (hp : p a) (hq : ¬ q a) :
    (l.filter q).length < (l.filter p).length := by
  induction l with
  | nil => simp at ha
  | cons b l ih =>
    have hle : (l.filter q).length ≤ (l.filter p).length := by
      rw [← List.countP_eq_length_filter, ← List.countP_eq_length_filter]
      exact List.countP_mono_left fun x _ => hqp x
    rcases List.mem_cons.1 ha with rfl | ha
    · simp only [List.filter_cons, hp, if_true, hq, List.length_cons]
      exact Nat.lt_succ_of_le hle
    · have := ih ha
      by_cases hqb : q b
      · simp [hqb, hqp b hqb, this]
      · by_cases hpb : p b <;> simp [hqb, hpb] <;> omega

/-- Each key that is found leaves fewer to be found. -/
theorem unfound_insert_lt (types : TypeDictionary) {found : Std.HashSet String} {key : String}
    (hkey : types.contains key) (hnew : ¬ found.contains key) :
    (types.unfound (found.insert key)).length < (types.unfound found).length := by
  refine length_filter_lt (a := key) ?_ ?_ ?_ ?_
  · intro x
    simp only [Std.HashSet.contains_insert]
    grind
  · obtain ⟨definition, h⟩ := Option.isSome_iff_exists.1 hkey
    obtain ⟨before, after, he, -⟩ := List.lookup_eq_some_iff.1 h
    simp [Dictionary.keys, he]
  · simpa using hnew
  · simp

/-- Follows the keys of a list, and all that is reached from them, except through keys already
found. -/
def follow (types : TypeDictionary) (found : Std.HashSet String) :
    List String → Std.HashSet String
  | [] => found
  | key :: rest =>
    if _ : found.contains key then follow types found rest
    else
      match _hkey : types.find? key with
      | none => follow types found rest
      | some definition => follow types (found.insert key) (definition.references ++ rest)
termination_by keys => ((types.unfound found).length, keys.length)
decreasing_by
  · exact Prod.Lex.right _ (by simp)
  · exact Prod.Lex.right _ (by simp)
  · exact Prod.Lex.left _ _
      (unfound_insert_lt types (by simp [Dictionary.contains, *]) ‹_›)

/-- The keys that are reached from a type by following at least one reference. -/
def reachedFrom (types : TypeDictionary) (definition : TypeDefinition) : Std.HashSet String :=
  follow types ∅ definition.references

end StorageLayout.TypeDictionary
