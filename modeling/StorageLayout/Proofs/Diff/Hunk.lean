import Std.Data.String.ToNat
import StorageLayout.Proofs.Diff.Subsequence
import StorageLayout.Proofs.Text.Lines

/-!
# A difference can be applied

The text of a difference is one header and, below it, one marked line for each edit. No line of a
text holds a line feed, so that splitting the text at its line feeds gives the marked lines back,
whatever characters they hold. By their marks, they give the old lines and the new lines, and the
header states how many these are.
-/
namespace StorageLayout

namespace Diff

/-- The line behind a mark, if the mark is one of these. -/
def behindMark (marks : List Char) (line : String) : Option String :=
  match line.toList with
  | [] => none
  | mark :: rest => if mark ∈ marks then some (String.ofList rest) else none

/-- How many lines a range in a header stands for. -/
inductive Covers : String → Nat → Prop
  | none : Covers "0,0" 0
  | one : Covers "1" 1
  | several {count : Nat} (several : 2 ≤ count) : Covers ("1," ++ toString count) count

end Diff

namespace Edit

theorem behindMark_text_eq_oldLine? (e : Edit) :
    Diff.behindMark [' ', '-'] e.text = e.oldLine? := by
  cases e <;> simp [Diff.behindMark, text, oldLine?]

theorem behindMark_text_eq_newLine? (e : Edit) :
    Diff.behindMark [' ', '+'] e.text = e.newLine? := by
  cases e <;> simp [Diff.behindMark, text, newLine?]

theorem exists_mark_of_text (e : Edit) :
    ∃ mark ∈ [' ', '-', '+'], ∃ line : List Char, e.text.toList = mark :: line := by
  cases e <;> simp [text]

/-- The line of an edit is a line of one of the texts. -/
theorem lineFeed_not_mem_text {e : Edit}
    (clean : ∀ line, e.oldLine? = some line ∨ e.newLine? = some line → '\n' ∉ line.toList) :
    '\n' ∉ e.text.toList := by
  cases e with
  | same line | removed line => simpa [text] using clean line (Or.inl rfl)
  | added line => simpa [text] using clean line (Or.inr rfl)

end Edit

namespace Diff

theorem covers_range (count : Nat) : Covers (range count) count := by
  match count with
  | 0 => exact .none
  | 1 => exact .one
  | count + 2 => exact .several (Nat.le_add_left 2 count)

theorem Covers.eq_range {stated : String} {count : Nat} (covers : Covers stated count) :
    stated = range count := by
  cases covers with
  | none => rfl
  | one => rfl
  | several several =>
    match count with
    | count + 2 => rfl

theorem range_injective {count other : Nat} (same : range count = range other) :
    count = other := by
  match count, other with
  | 0, 0 | 1, 1 => rfl
  | 0, 1 | 1, 0 => exact absurd same (by decide)
  | 0, _ + 2 | 1, _ + 2 | _ + 2, 0 | _ + 2, 1 => simp [range, ← String.toList_inj] at same
  | count + 2, other + 2 =>
    exact Nat.repr_inj.1 ((String.append_right_inj _).1 same)

/-- A range stands for one number of lines. -/
theorem covers_range_iff {count other : Nat} : Covers (range count) other ↔ other = count := by
  constructor
  · exact fun covers => (range_injective covers.eq_range).symm
  · rintro rfl
    exact covers_range other

theorem lineFeed_not_mem_range (count : Nat) : '\n' ∉ (range count).toList := by
  match count with
  | 0 | 1 => decide
  | count + 2 =>
    have decimal : '\n' ∉ (toString (count + 2)).toList := Text.not_mem_toString (by decide) _
    simpa [range] using decimal

def header (old new : String) : String :=
  "@@ -" ++ range (Text.lines old).length ++ " +" ++ range (Text.lines new).length ++ " @@"

theorem lineFeed_not_mem_header (old new : String) : '\n' ∉ (header old new).toList := by
  simp [header, lineFeed_not_mem_range]

/-- A list has no changes from itself. -/
theorem all_isSame_script_self (t : LengthTable) (i j : Nat) (as : List String) :
    (script t i j as as).all Edit.isSame := by
  induction as generalizing i j with
  | nil => simp [script]
  | cons a as ih =>
    rw [script, if_pos rfl, List.all_cons, ih]
    rfl

/-- The script of two texts keeps every line exactly if the texts have the same lines. -/
theorem all_isSame_edits_iff {old new : String} :
    (edits old new).all Edit.isSame ↔ Text.lines old = Text.lines new := by
  constructor
  · intro kept
    have same_line : ∀ e ∈ edits old new, e.oldLine? = e.newLine? := by
      intro e listed
      have is_same := List.all_eq_true.1 kept e listed
      cases e with
      | same line => rfl
      | removed line | added line => cases is_same
    rw [← oldLines_edits old new, ← newLines_edits old new]
    exact List.filterMap_congr same_line
  · intro same
    unfold edits
    rw [same]
    exact all_isSame_script_self _ _ _ _

theorem unified_of_ne {old new : String} (differ : Text.lines old ≠ Text.lines new) :
    unified old new = "\n".intercalate (header old new :: (edits old new).map Edit.text) := by
  unfold unified
  dsimp only
  rw [if_neg (mt all_isSame_edits_iff.1 differ)]
  rfl

theorem lineFeed_not_mem_text_of_mem_edits {old new : String} {e : Edit}
    (listed : e ∈ edits old new) : '\n' ∉ e.text.toList := by
  refine e.lineFeed_not_mem_text fun line found => ?_
  rcases found with in_old | in_new
  · refine Text.lineFeed_not_mem_of_mem_lines (s := old) ?_
    rw [← oldLines_edits old new]
    exact List.mem_filterMap.2 ⟨e, listed, in_old⟩
  · refine Text.lineFeed_not_mem_of_mem_lines (s := new) ?_
    rw [← newLines_edits old new]
    exact List.mem_filterMap.2 ⟨e, listed, in_new⟩

/-- Split at its line feeds, a difference is its header and its marked edits. -/
theorem split_unified {old new : String} (differ : Text.lines old ≠ Text.lines new) :
    ((unified old new).split '\n').toList.map (·.copy) =
      header old new :: (edits old new).map Edit.text := by
  have clean : ∀ line ∈ header old new :: (edits old new).map Edit.text, '\n' ∉ line.toList := by
    rw [List.forall_mem_cons, List.forall_mem_map]
    exact ⟨lineFeed_not_mem_header old new, fun e => lineFeed_not_mem_text_of_mem_edits⟩
  rw [unified_of_ne differ]
  exact (String.toList_split_intercalate clean).trans (if_neg (List.cons_ne_nil _ _))

/-- There is no difference exactly if the lines are the same. -/
theorem unified_eq_empty_iff (old new : String) :
    unified old new = "" ↔ Text.lines old = Text.lines new := by
  constructor
  · intro empty
    by_contra differ
    have starts : ∃ rest, (unified old new).toList = '@' :: rest := by
      rw [unified_of_ne differ, String.toList_intercalate, List.map_cons, header]
      simp [List.intercalate_cons_cons_left]
    rw [empty] at starts
    obtain ⟨rest, impossible⟩ := starts
    cases impossible
  · intro same
    unfold unified
    exact if_pos (all_isSame_edits_iff.2 same)

/-- A difference is empty exactly if the lines are the same. Otherwise it is a header and marked
lines: those that are kept or removed are the old lines, those that are kept or added are the new
lines, and the ranges in the header stand for how many these are, and for no other numbers. -/
theorem unified_can_be_applied (old new : String) :
    (unified old new = "" ↔ Text.lines old = Text.lines new) ∧
    (Text.lines old ≠ Text.lines new → ∃ (oldRange newRange : String) (marked : List String),
      ((unified old new).split '\n').toList.map (·.copy) =
        ("@@ -" ++ oldRange ++ " +" ++ newRange ++ " @@") :: marked ∧
      (∀ count, Covers oldRange count ↔ count = (Text.lines old).length) ∧
      (∀ count, Covers newRange count ↔ count = (Text.lines new).length) ∧
      (∀ line ∈ marked, ∃ mark ∈ [' ', '-', '+'], ∃ rest, line.toList = mark :: rest) ∧
      marked.filterMap (behindMark [' ', '-']) = Text.lines old ∧
      marked.filterMap (behindMark [' ', '+']) = Text.lines new) := by
  refine ⟨unified_eq_empty_iff old new, fun differ => ?_⟩
  refine ⟨range (Text.lines old).length, range (Text.lines new).length,
    (edits old new).map Edit.text, split_unified differ, fun _ => covers_range_iff,
    fun _ => covers_range_iff, ?_, ?_, ?_⟩
  · rw [List.forall_mem_map]
    exact fun e _ => e.exists_mark_of_text
  · rw [List.filterMap_map, ← oldLines_edits old new]
    exact List.filterMap_congr fun e _ => e.behindMark_text_eq_oldLine?
  · rw [List.filterMap_map, ← newLines_edits old new]
    exact List.filterMap_congr fun e _ => e.behindMark_text_eq_newLine?

example : unified "a\n-b\r" "a\n" = "@@ -1,2 +1 @@\n a\n--b\r" := by cbv

end Diff
end StorageLayout
