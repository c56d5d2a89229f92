import Mathlib.Data.List.Chain
import StorageLayout.Proofs.Diff.Subsequence

/-!
# Lines are removed before others are added

Each step of the walk compares two neighbouring entries of the table. Where a line is added, the
entries say that the old line in front is needed for a longest common subsequence with what is left
of the new text. It is still needed after the addition, so that the next step keeps it or adds
another line, and the walk does not run out of new lines before it has kept it.
-/
namespace StorageLayout

/-- Whether one edit may stand directly before another: nothing is removed after an addition. -/
def Edit.MayPrecede : Edit → Edit → Prop
  | added _, removed _ => False
  | _, _ => True

namespace Diff

theorem isChain_removals_additions (removed added : List String) :
    (removed.map Edit.removed ++ added.map Edit.added).IsChain Edit.MayPrecede := by
  have removals : (removed.map Edit.removed).Pairwise Edit.MayPrecede :=
    List.pairwise_map.2 (List.pairwise_of_forall fun _ _ => trivial)
  have additions : (added.map Edit.added).Pairwise Edit.MayPrecede :=
    List.pairwise_map.2 (List.pairwise_of_forall fun _ _ => trivial)
  refine (List.pairwise_append.2 ⟨removals, additions, fun e first e' _ => ?_⟩).isChain
  obtain ⟨line, -, rfl⟩ := List.mem_map.1 first
  trivial

/-- Changes in which nothing is removed after an addition are removals and then additions. -/
theorem exists_removals_additions {run : List Edit} (ordered : run.IsChain Edit.MayPrecede)
    (changed : ∀ e ∈ run, e.isSame = false) :
    ∃ removed added : List String, run = removed.map Edit.removed ++ added.map Edit.added := by
  induction run with
  | nil => exact ⟨[], [], rfl⟩
  | cons e rest ih =>
    obtain ⟨first, ordered'⟩ := List.isChain_cons.1 ordered
    rw [List.forall_mem_cons] at changed
    obtain ⟨removed, added, rfl⟩ := ih ordered' changed.2
    cases e with
    | same line => exact absurd changed.1 (by simp [Edit.isSame])
    | removed line => exact ⟨line :: removed, added, rfl⟩
    | added line =>
      cases removed with
      | nil => exact ⟨[], line :: added, rfl⟩
      | cons other removed => exact (first (.removed other) rfl).elim

/-- A longest common subsequence exists. -/
theorem exists_length_eq_commonLength (as bs : List String) :
    ∃ common : List String, common.Sublist as ∧ common.Sublist bs ∧
      common.length = commonLength as bs := by
  let walk := script (.ofLines as bs) 0 0 as bs
  have old_lines : walk.filterMap Edit.oldLine? = as := oldLines_script
  have new_lines : walk.filterMap Edit.newLine? = bs := newLines_script
  have in_old : (walk.filterMap Edit.keptLine?).Sublist (walk.filterMap Edit.oldLine?) :=
    keptLines_sublist (fun _ => rfl) walk
  have in_new : (walk.filterMap Edit.keptLine?).Sublist (walk.filterMap Edit.newLine?) :=
    keptLines_sublist (fun _ => rfl) walk
  rw [old_lines] at in_old
  rw [new_lines] at in_new
  refine ⟨walk.filterMap Edit.keptLine?, in_old, in_new, ?_⟩
  rw [length_keptLines]
  exact countP_isSame_script List.drop_zero.symm List.drop_zero.symm

/-- With more lines on either side, no less is common. -/
theorem commonLength_mono {as as' bs bs' : List String} (left : as.Sublist as')
    (right : bs.Sublist bs') : commonLength as bs ≤ commonLength as' bs' := by
  obtain ⟨common, left', right', length⟩ := exists_length_eq_commonLength as bs
  rw [← length]
  exact length_le_commonLength (left'.trans left) (right'.trans right)

section Walk

variable {old new as bs : List String} {a : String} {i j : Nat}

/-- The walk does not begin with removing a line that a longest common subsequence needs. -/
theorem mayPrecede_head_script (left : a :: as = old.drop i) (right : bs = new.drop j)
    (needed : commonLength as bs < commonLength (a :: as) bs) (line : String) :
    ∀ e ∈ (script (.ofLines old new) i j (a :: as) bs).head?, (Edit.added line).MayPrecede e := by
  intro e first
  cases bs with
  | nil =>
    rw [commonLength_nil_right, commonLength_nil_right] at needed
    exact absurd needed (Nat.lt_irrefl 0)
  | cons b bs =>
    obtain ⟨after_adding, after_removing⟩ := get_neighbours left right
    rw [script, after_adding, after_removing] at first
    split at first
    · obtain rfl := Option.some.inj first
      trivial
    · next apart =>
      split at first
      · next removed =>
        -- Then the longest common subsequence is one of what is left without the line.
        rw [commonLength, if_neg apart, Nat.max_eq_left removed] at needed
        exact absurd needed (Nat.lt_irrefl _)
      · obtain rfl := Option.some.inj first
        trivial

/-- Nowhere in the walk is a line removed directly after one has been added. -/
theorem isChain_script (left : as = old.drop i) (right : bs = new.drop j) :
    (script (.ofLines old new) i j as bs).IsChain Edit.MayPrecede := by
  fun_induction script (.ofLines old new) i j as bs with
  | case1 i j as b bs ih =>
    refine List.isChain_cons.2 ⟨fun e _ => trivial, ?_⟩
    exact ih (drop_succ_of_cons left).1 (drop_succ_of_cons right).1
  | case2 i j a as b bs apart removed ih =>
    refine List.isChain_cons.2 ⟨fun e _ => trivial, ?_⟩
    exact ih (drop_succ_of_cons left).1 right
  | case3 i j a as b bs apart kept ih =>
    have right' := (drop_succ_of_cons right).1
    obtain ⟨after_adding, after_removing⟩ := get_neighbours left right
    rw [after_adding, after_removing, Nat.not_le] at kept
    have needed : commonLength as bs < commonLength (a :: as) bs := calc
      commonLength as bs ≤ commonLength as (b :: bs) :=
        commonLength_mono (List.Sublist.refl as) (List.sublist_cons_self b bs)
      _ < commonLength (a :: as) bs := kept
    refine List.isChain_cons.2 ⟨mayPrecede_head_script left right' needed b, ih left right'⟩
  | case4 i j as bs finished => exact isChain_removals_additions as bs

end Walk

/-- A script never has an added line directly before a removed one, so that in each run of changes
all removed lines come before all added ones. -/
theorem removals_come_before_additions (old new : String) :
    (∀ before after a b, edits old new ≠ before ++ .added a :: .removed b :: after) ∧
    ∀ before run after, edits old new = before ++ run ++ after → (∀ e ∈ run, e.isSame = false) →
      ∃ removed added : List String, run = removed.map Edit.removed ++ added.map Edit.added := by
  have ordered : (edits old new).IsChain Edit.MayPrecede :=
    isChain_script List.drop_zero.symm List.drop_zero.symm
  refine ⟨fun before after a b split => ?_, fun before run after split changed => ?_⟩
  · exact List.isChain_iff_forall_rel_of_append_cons_cons.1 ordered split
  · rw [split] at ordered
    exact exists_removals_additions ordered.left_of_append.right_of_append changed

example : edits "a\nb\nc" "a\nx\ny\nc" =
    [.same "a", .removed "b", .added "x", .added "y", .same "c"] := by cbv

end Diff
end StorageLayout
