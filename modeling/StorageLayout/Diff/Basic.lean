import StorageLayout.Text.Lines

/-!
# Line differences

The difference of two texts is a script of lines that are kept, removed and added. It keeps as many
lines as possible; where a choice remains, lines are removed before others are added. The script is
shown as one hunk with full context, under a header that states which lines of the two texts it
covers.
-/
namespace StorageLayout

/-- One line of a difference. -/
inductive Edit where
  | same (line : String)
  | removed (line : String)
  | added (line : String)
  deriving DecidableEq, Repr

namespace Edit

def isSame : Edit → Bool
  | same _ => true
  | _ => false

/-- The line behind the mark of its kind. -/
def text : Edit → String
  | same line => " " ++ line
  | removed line => "-" ++ line
  | added line => "+" ++ line

end Edit

namespace Diff

/-- The lengths of the longest common subsequences of a list that starts with `a` and each of the
ends of `bs`, from those of the list without `a`. -/
def lengthRow (a : String) : List String → List Nat → List Nat
  | b :: bs, below :: rest =>
    let row := lengthRow a bs rest
    (if a = b then rest.headD 0 + 1 else max below (row.headD 0)) :: row
  | _, _ => [0]

/-- The lengths of the longest common subsequences of each end of one list and each end of
another, longest ends first. -/
def lengthRows (bs : List String) : List String → List (List Nat)
  | [] => [List.replicate (bs.length + 1) 0]
  | a :: as =>
    let rows := lengthRows bs as
    lengthRow a bs (rows.headD []) :: rows

/-- The lengths of the longest common subsequences of the ends of two lists, by how many lines are
left out at their starts. -/
structure LengthTable where
  rows : Array (Array Nat)

def LengthTable.ofLines (old new : List String) : LengthTable :=
  ⟨((lengthRows new old).map List.toArray).toArray⟩

/-- The length when `i` lines of the old text and `j` lines of the new text are left out. -/
def LengthTable.get (t : LengthTable) (i j : Nat) : Nat :=
  ((t.rows[i]?).getD #[])[j]?.getD 0

/-- The script from what is left of the old lines, `i` of which are done, to what is left of the
new lines, `j` of which are done. -/
def script (t : LengthTable) (i j : Nat) : List String → List String → List Edit
  | a :: as, b :: bs =>
    if a = b then .same a :: script t (i + 1) (j + 1) as bs
    else if t.get i (j + 1) ≤ t.get (i + 1) j then .removed a :: script t (i + 1) j as (b :: bs)
    else .added b :: script t i (j + 1) (a :: as) bs
  | as, bs => as.map .removed ++ bs.map .added
termination_by as bs => as.length + bs.length

/-- The script that turns one text into another. -/
def edits (old new : String) : List Edit :=
  let oldLines := Text.lines old
  let newLines := Text.lines new
  script (.ofLines oldLines newLines) 0 0 oldLines newLines

/-- The lines that a hunk covers, as its header states them. -/
def range : Nat → String
  | 0 => "0,0"
  | 1 => "1"
  | n => "1," ++ toString n

/-- The difference of two texts without file names, empty if their lines are the same. -/
def unified (old new : String) : String :=
  let script := edits old new
  if script.all Edit.isSame then ""
  else
    let header := "@@ -" ++ range (Text.lines old).length ++ " +" ++
      range (Text.lines new).length ++ " @@"
    "\n".intercalate (header :: script.map Edit.text)

end Diff
end StorageLayout
