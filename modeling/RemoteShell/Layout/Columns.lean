import RemoteShell.Layout.Style

/-!
# Fixed columns

Listings of files are set in columns that are padded to a common width and separated by single spaces. A column may
have a cap: a cell wider than the cap is written in full and does not widen the column. Columns beyond the last that is
specified are set to the left and have no cap.

Main statements:

* `columnize_length`: every row becomes one line.
* `padCell_of_le`: a cell that is at least as wide as its column is written as it is.
-/

namespace RemoteShell

/-- The side of its column on which a cell stands. -/
inductive Justify where
  | left
  | right
deriving DecidableEq, Repr

/-- How a column is set: the side, and the widest cell that it is widened for. -/
structure ColumnSpec where
  justify : Justify
  most : Nat
deriving DecidableEq, Repr

/-- The width that a cell asks of its column, if it stays within the cap. -/
def cellWidth (spec : Option ColumnSpec) (cell : String) : Nat :=
  match spec with
  | some s => if displayWidth cell ≤ s.most then displayWidth cell else 0
  | none => displayWidth cell

/-- The width of the column `i`: that of the widest cell within the cap. -/
def columnWidth (rows : List (List String)) (specs : List ColumnSpec) (i : Nat) : Nat :=
  (rows.map fun row => match row[i]? with
    | some cell => cellWidth specs[i]? cell
    | none => 0).foldl max 0

/-- A cell padded to the width of its column on the side that its specification leaves free. -/
def padCell (spec : Option ColumnSpec) (width : Nat) (cell : String) : String :=
  let pad := String.ofList (List.replicate (width - displayWidth cell) ' ')
  match spec.map ColumnSpec.justify with
  | some .right => pad ++ cell
  | _ => cell ++ pad

/-- One line for each row. -/
def columnize (rows : List (List String)) (specs : List ColumnSpec) : List String :=
  let count := (rows.map List.length).foldl max 0
  let widths := (List.range count).map (columnWidth rows specs)
  rows.map fun row =>
    " ".intercalate (row.zipIdx.map fun (cell, i) => padCell specs[i]? (widths.getD i 0) cell)

/-- Every row becomes one line. -/
theorem columnize_length (rows : List (List String)) (specs : List ColumnSpec) :
    (columnize rows specs).length = rows.length := by
  simp [columnize]

/-- A cell that is at least as wide as its column is written as it is. -/
theorem padCell_of_le {spec : Option ColumnSpec} {width : Nat} {cell : String} (h : width ≤ displayWidth cell) :
    padCell spec width cell = cell := by
  have : width - displayWidth cell = 0 := by omega
  unfold padCell
  simp only [this, List.replicate_zero]
  split <;> simp

end RemoteShell
