import StorageLayout.Snapshot.Basic
import StorageLayout.Text.Blank
import StorageLayout.Text.Columns

/-!
# Layouts as tables

A table has a header and rows of cells in a frame of box-drawing characters. A column is as wide as
its widest line, with a space on each side. A cell of several lines makes its row as high.
-/
namespace StorageLayout

structure Table where
  header : List String
  rows : List (List String)

namespace Table

def cellLines (cell : String) : List String := Text.parts '\n' cell

/-- The columns that the widest line of a cell takes. -/
def cellWidth (cell : String) : Nat := ((cellLines cell).map Text.columns).foldl max 0

/-- The widths that a row needs, taken together with the widths so far. -/
def widen (widths : List Nat) (row : List String) : List Nat :=
  List.zipWith max widths (row.map cellWidth)

def widths (t : Table) : List Nat := t.rows.foldl widen (t.header.map cellWidth)

/-- A line of a cell, filled up with spaces and between spaces. -/
def padded (width : Nat) (line : String) : String :=
  " " ++ line ++ String.ofList (List.replicate (width - Text.columns line) ' ') ++ " "

/-- A line of the frame: its left end, its stroke, its crossings and its right end. -/
def rule (left stroke crossing right : Char) (widths : List Nat) : String :=
  let strokes := widths.map fun width => String.ofList (List.replicate (width + 2) stroke)
  left.toString ++ crossing.toString.intercalate strokes ++ right.toString

def rowLines (widths : List Nat) (row : List String) : List String :=
  let cells := row.map cellLines
  let height := (cells.map List.length).foldl max 0
  (List.range height).map fun i =>
    let line := List.zipWith (fun width cell => padded width (cell.getD i "")) widths cells
    "│" ++ "┆".intercalate line ++ "│"

def lines (t : Table) : List String :=
  let widths := t.widths
  [rule '┌' '─' '┬' '┐' widths] ++ rowLines widths t.header ++ [rule '╞' '═' '╪' '╡' widths] ++
    t.rows.flatMap (rowLines widths) ++ [rule '└' '─' '┴' '┘' widths]

/-- A table as a text, without a line feed at its end. -/
def text (t : Table) : String := "\n".intercalate t.lines

end Table

/-- The cells that show a variable of a contract: its type is shown by its label if it has one. -/
def ContractSnapshot.cells (c : ContractSnapshot) (v : StateVariable) : List String :=
  let label := ((c.type? v.typeKey).map (·.label)).getD v.typeKey
  [c.name, v.name, v.slot.text, toString v.offset.toNat, label, v.typeHash]

/-- The table of a document, with a row for each variable of each contract. -/
def SnapshotDocument.table (d : SnapshotDocument) : Table where
  header := ["contract", "state_variable", "storage_slot", "offset", "type", "type_hash"]
  rows := d.contracts.flatMap fun c => c.stateVariables.map c.cells

end StorageLayout
