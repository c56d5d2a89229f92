import Mathlib.Data.List.Infix
import StorageLayout.Diff.Basic

/-!
# Scripts keep as many lines as possible

A script is read in three ways: as the old lines, as the new lines and as the lines that are kept.
Its table holds the lengths of the longest common subsequences of all ends of the two line lists,
and the walk through the table gives away none of the length that it starts with. Hence the kept
lines are a common subsequence of the two texts, and no common subsequence is longer.
-/
namespace StorageLayout

namespace Edit

def oldLine? : Edit → Option String
  | same line | removed line => some line
  | added _ => none

def newLine? : Edit → Option String
  | same line | added line => some line
  | removed _ => none

/-- The line as a line of both texts. -/
def keptLine? : Edit → Option String
  | same line => some line
  | _ => none

theorem isSome_keptLine? (e : Edit) : e.keptLine?.isSome = e.isSame := by
  cases e <;> rfl

end Edit

namespace Diff

/-- A common subsequence of two lists than which none is longer. -/
structure LongestCommon (common as bs : List String) : Prop where
  left : common.Sublist as
  right : common.Sublist bs
  longest : ∀ other : List String, other.Sublist as → other.Sublist bs →
    other.length ≤ common.length

/-- The length of the longest common subsequences of two lists. -/
def commonLength : List String → List String → Nat
  | a :: as, b :: bs =>
    if a = b then commonLength as bs + 1
    else max (commonLength as (b :: bs)) (commonLength (a :: as) bs)
  | _, _ => 0
termination_by as bs => as.length + bs.length

theorem commonLength_nil_left (bs : List String) : commonLength [] bs = 0 := by
  rw [commonLength]
  simp

theorem commonLength_nil_right (as : List String) : commonLength as [] = 0 := by
  rw [commonLength]
  simp

/-- Without its first element, a subsequence still is one without the first element of the list. -/
theorem length_le_succ_of_tail {common as bs : List String} {a b : String} {length : Nat}
    (left : common.Sublist (a :: as)) (right : common.Sublist (b :: bs))
    (tails : common.tail.Sublist as → common.tail.Sublist bs → common.tail.length ≤ length) :
    common.length ≤ length + 1 := by
  have shorter := tails left.tail right.tail
  rw [List.length_tail] at shorter
  omega

/-- No common subsequence is longer. -/
theorem length_le_commonLength {common as bs : List String} (left : common.Sublist as)
    (right : common.Sublist bs) : common.length ≤ commonLength as bs := by
  fun_induction commonLength as bs generalizing common with
  | case1 a as bs ih =>
    exact length_le_succ_of_tail left right ih
  | case2 a as b bs apart ih_left ih_right =>
    -- The heads differ, so that the subsequence starts with at most one of them.
    rcases List.sublist_cons_iff.1 left with left' | ⟨rest, rfl, -⟩
    · exact Nat.le_trans (ih_left left' right) (Nat.le_max_left _ _)
    · rcases List.sublist_cons_iff.1 right with right' | ⟨rest', same, -⟩
      · exact Nat.le_trans (ih_right left right') (Nat.le_max_right _ _)
      · exact absurd (List.cons.inj same).1 apart
  | case3 as bs short =>
    cases as with
    | nil => simpa using left
    | cons a as =>
      cases bs with
      | nil => simpa using right
      | cons b bs => exact absurd rfl (short a as b bs rfl)

/-- The row of a list holds its lengths with each end of the other list. -/
theorem lengthRow_eq (a : String) (as bs : List String) :
    lengthRow a bs (bs.tails.map (commonLength as)) = bs.tails.map (commonLength (a :: as)) := by
  induction bs with
  | nil => simp [lengthRow, commonLength_nil_right]
  | cons b bs ih =>
    have head (list : List String) : (bs.tails.map (commonLength list)).headD 0 =
        commonLength list bs := by
      cases bs <;> rfl
    rw [List.tails_cons, List.map_cons, lengthRow, ih, head, head, List.map_cons]
    congr 1
    rw [commonLength]

/-- The rows hold the lengths of all ends with all ends. -/
theorem lengthRows_eq (as bs : List String) :
    lengthRows bs as = as.tails.map fun rest => bs.tails.map (commonLength rest) := by
  induction as with
  | nil =>
    have lengths : bs.tails.map (commonLength []) = List.replicate (bs.length + 1) 0 := by
      rw [List.eq_replicate_iff]
      simp [commonLength_nil_left]
    rw [lengthRows, ← lengths]
    rfl
  | cons a as ih =>
    have head : ((as.tails.map fun rest => bs.tails.map (commonLength rest)).headD []) =
        bs.tails.map (commonLength as) := by
      cases as <;> rfl
    rw [lengthRows, ih, head, lengthRow_eq, List.tails_cons, List.map_cons]

/-- The table holds the length for what is left of two lists. -/
theorem get_ofLines {old new : List String} {i j : Nat} (left : i ≤ old.length)
    (right : j ≤ new.length) :
    (LengthTable.ofLines old new).get i j = commonLength (old.drop i) (new.drop j) := by
  have ends {list : List String} {number : Nat} (inside : number ≤ list.length) :
      list.tails[number]? = some (list.drop number) := by
    rw [List.getElem?_eq_getElem (by rw [List.length_tails]; omega), List.getElem_tails]
  simp only [LengthTable.get, LengthTable.ofLines, lengthRows_eq, List.map_map,
    List.getElem?_toArray, List.getElem?_map, ends left, Option.map_some, Function.comp_apply,
    Option.getD_some, ends right]

section Script

variable {t : LengthTable} {i j : Nat} {as bs : List String}

/-- A script has all old lines, in order. -/
theorem oldLines_script : (script t i j as bs).filterMap Edit.oldLine? = as := by
  fun_induction script t i j as bs with
  | case1 i j as b bs ih => simp [Edit.oldLine?, ih]
  | case2 i j a as b bs apart removed ih => simp [Edit.oldLine?, ih]
  | case3 i j a as b bs apart kept ih => rw [List.filterMap_cons_none rfl, ih]
  | case4 i j as bs finished => simp [List.filterMap_map, Function.comp_def, Edit.oldLine?]

/-- A script has all new lines, in order. -/
theorem newLines_script : (script t i j as bs).filterMap Edit.newLine? = bs := by
  fun_induction script t i j as bs with
  | case1 i j as b bs ih => simp [Edit.newLine?, ih]
  | case2 i j a as b bs apart removed ih => rw [List.filterMap_cons_none rfl, ih]
  | case3 i j a as b bs apart kept ih => simp [Edit.newLine?, ih]
  | case4 i j as bs finished => simp [List.filterMap_map, Function.comp_def, Edit.newLine?]

/-- The kept lines are among those of each text. -/
theorem keptLines_sublist {line? : Edit → Option String}
    (keeps : ∀ line, line? (.same line) = some line) (edits : List Edit) :
    (edits.filterMap Edit.keptLine?).Sublist (edits.filterMap line?) := by
  induction edits with
  | nil => exact .slnil
  | cons e rest ih =>
    cases e with
    | same line =>
      simpa [Edit.keptLine?, keeps] using ih
    | removed line | added line =>
      rw [List.filterMap_cons_none rfl, ← List.singleton_append, List.filterMap_append]
      exact ih.trans (List.sublist_append_right _ _)

theorem length_keptLines (edits : List Edit) :
    (edits.filterMap Edit.keptLine?).length = edits.countP Edit.isSame := by
  rw [List.length_filterMap_eq_countP]
  exact List.countP_congr fun e _ => by rw [e.isSome_keptLine?]

end Script

theorem drop_succ_of_cons {list rest : List String} {a : String} {number : Nat}
    (left : a :: rest = list.drop number) :
    rest = list.drop (number + 1) ∧ number < list.length := by
  constructor
  · rw [← List.tail_drop, ← left, List.tail_cons]
  · have lengths := congrArg List.length left
    rw [List.length_drop, List.length_cons] at lengths
    omega

/-- The two entries that the walk compares, as lengths of what is left. -/
theorem get_neighbours {old new as bs : List String} {a b : String} {i j : Nat}
    (left : a :: as = old.drop i) (right : b :: bs = new.drop j) :
    (LengthTable.ofLines old new).get i (j + 1) = commonLength (a :: as) bs ∧
      (LengthTable.ofLines old new).get (i + 1) j = commonLength as (b :: bs) := by
  obtain ⟨left', inside⟩ := drop_succ_of_cons left
  obtain ⟨right', inside'⟩ := drop_succ_of_cons right
  rw [get_ofLines inside.le inside', get_ofLines inside inside'.le, ← left, ← left', ← right,
    ← right']
  exact ⟨rfl, rfl⟩

/-- From any place in the table, the walk keeps as many lines as the table says. -/
theorem countP_isSame_script {old new as bs : List String} {i j : Nat} (left : as = old.drop i)
    (right : bs = new.drop j) :
    (script (.ofLines old new) i j as bs).countP Edit.isSame = commonLength as bs := by
  fun_induction script (.ofLines old new) i j as bs with
  | case1 i j as b bs ih =>
    rw [List.countP_cons_of_pos rfl, ih (drop_succ_of_cons left).1 (drop_succ_of_cons right).1,
      commonLength, if_pos rfl]
  | case2 i j a as b bs apart removed ih =>
    obtain ⟨after_adding, after_removing⟩ := get_neighbours left right
    rw [after_adding, after_removing] at removed
    rw [List.countP_cons_of_neg Bool.false_ne_true, ih (drop_succ_of_cons left).1 right,
      commonLength, if_neg apart]
    omega
  | case3 i j a as b bs apart kept ih =>
    obtain ⟨after_adding, after_removing⟩ := get_neighbours left right
    rw [after_adding, after_removing] at kept
    rw [List.countP_cons_of_neg Bool.false_ne_true, ih left (drop_succ_of_cons right).1,
      commonLength, if_neg apart]
    omega
  | case4 i j as bs finished =>
    have kept : (as.map Edit.removed ++ bs.map Edit.added).countP Edit.isSame = 0 := by
      simp [List.countP_eq_zero, Edit.isSame]
    rw [kept]
    cases as with
    | nil => rw [commonLength_nil_left]
    | cons a as =>
      cases bs with
      | nil => rw [commonLength_nil_right]
      | cons b bs => exact (finished a as b bs rfl rfl).elim

theorem oldLines_edits (old new : String) :
    (edits old new).filterMap Edit.oldLine? = Text.lines old :=
  oldLines_script

theorem newLines_edits (old new : String) :
    (edits old new).filterMap Edit.newLine? = Text.lines new :=
  newLines_script

/-- The script of two texts has the lines of both in order, and the lines that it keeps are a
longest common subsequence of the two lists. -/
theorem edits_keep_longest_common (old new : String) :
    (edits old new).filterMap Edit.oldLine? = Text.lines old ∧
    (edits old new).filterMap Edit.newLine? = Text.lines new ∧
    LongestCommon ((edits old new).filterMap Edit.keptLine?) (Text.lines old) (Text.lines new) ∧
    (edits old new).countP Edit.isSame = ((edits old new).filterMap Edit.keptLine?).length := by
  have old_lines : (edits old new).filterMap Edit.oldLine? = Text.lines old := oldLines_script
  have new_lines : (edits old new).filterMap Edit.newLine? = Text.lines new := newLines_script
  refine ⟨old_lines, new_lines, ⟨?_, ?_, fun other left right => ?_⟩, (length_keptLines _).symm⟩
  · rw [← old_lines]
    exact keptLines_sublist (fun _ => rfl) _
  · rw [← new_lines]
    exact keptLines_sublist (fun _ => rfl) _
  · calc
      other.length ≤ commonLength (Text.lines old) (Text.lines new) :=
        length_le_commonLength left right
      _ = (edits old new).countP Edit.isSame :=
        (countP_isSame_script List.drop_zero.symm List.drop_zero.symm).symm
      _ = ((edits old new).filterMap Edit.keptLine?).length := (length_keptLines _).symm

end Diff
end StorageLayout
