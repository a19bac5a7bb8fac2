import RemoteShell.Layout.Style

/-!
# Tables

A table has a header, a dashed rule and one line for each row. A column is as wide as its widest cell. A table that is
wider than the terminal is squeezed: the widest column gives way one place at a time, the last of several equally wide
ones first, and no column below three places. A cell that no longer fits ends in a tilde.

Main statements:

* `squeezeBy_length`: squeezing keeps the number of columns.
* `fit_length`: a fitted cell without escape sequences is exactly as wide as its column.
-/

namespace RemoteShell.Table

/-- What stands between columns. -/
def gutter : String := "  "

/-- The narrowest a column is squeezed to. -/
def floor : Nat := 3

/-- Narrows the last of the columns that are `width` wide by one place. -/
def narrowLast (width : Nat) : List Nat → List Nat
  | [] => []
  | w :: rest =>
    if rest.contains width then w :: narrowLast width rest
    else if w = width then (w - 1) :: rest
    else w :: rest

/-- The width of the widest column. -/
def widest (widths : List Nat) : Nat :=
  widths.foldl max 0

/-- Narrows the widest column one place at a time, for as many places as are asked for or until all columns are at the
floor. -/
def squeezeBy : Nat → List Nat → List Nat
  | 0, widths => widths
  | excess + 1, widths =>
    if floor < widest widths then squeezeBy excess (narrowLast (widest widths) widths) else widths

/-- The width of a row whose columns have the given widths. -/
def totalWidth (widths : List Nat) : Nat :=
  widths.foldr (· + ·) 0 + 2 * (widths.length - 1)

/-- The widths of columns squeezed into a terminal of `limit` places. -/
def squeeze (widths : List Nat) (limit : Nat) : List Nat :=
  squeezeBy (totalWidth widths - limit) widths

/-- A cell padded to the width of its column, or cut to it with a final tilde. -/
def fit (cell : String) (width : Nat) : String :=
  let plain := stripEscapes cell.toList
  if plain.length ≤ width then cell ++ String.ofList (List.replicate (width - plain.length) ' ')
  else String.ofList (plain.take (width - 1) ++ ['~'])

/-- A row, without the blanks at its end. Missing cells are blank, and cells beyond the last column are left out. -/
def renderRow (widths : List Nat) (cells : List String) : String :=
  let fitted := widths.zipIdx.map fun (width, i) => fit (cells.getD i "") width
  String.ofList (Text.trimEnd (gutter.intercalate fitted).toList)

/-- The widths of columns, wide enough for one more row. -/
def widen : List Nat → List String → List Nat
  | [], _ => []
  | widths, [] => widths
  | w :: widths, cell :: cells => max w (displayWidth cell) :: widen widths cells

/-- The width of each column before squeezing. -/
def naturalWidths (headers : List String) (rows : List (List String)) : List Nat :=
  rows.foldl widen (headers.map displayWidth)

/-- The lines of a table. -/
def render (headers : List String) (rows : List (List String)) (style : Style) : List String :=
  let widths := squeeze (naturalWidths headers rows) style.width
  let dashes := widths.map fun width => String.ofList (List.replicate width '-')
  paint .heading (renderRow widths headers) style :: paint .rule (gutter.intercalate dashes) style ::
    rows.map (renderRow widths)

theorem narrowLast_length (width : Nat) (widths : List Nat) : (narrowLast width widths).length = widths.length := by
  fun_induction narrowLast width widths <;> simp_all

/-- Squeezing keeps the number of columns. -/
theorem squeezeBy_length (excess : Nat) (widths : List Nat) : (squeezeBy excess widths).length = widths.length := by
  induction excess generalizing widths with
  | zero => rfl
  | succ n ih =>
    rw [squeezeBy]
    split
    · rw [ih, narrowLast_length]
    · rfl

/-- **A fitted cell without escape sequences is exactly as wide as its column.** -/
theorem fit_length {cell : String} {width : Nat} (h : '\x1b' ∉ cell.toList) (hw : 0 < width) :
    (fit cell width).toList.length = width := by
  simp only [fit, stripEscapes_of_not_mem h]
  split
  · next hle =>
    simp only [String.toList_append, String.toList_ofList, List.length_append, List.length_replicate]
    omega
  · next hlt =>
    simp only [String.toList_ofList, List.length_append, List.length_take, List.length_singleton]
    omega

end RemoteShell.Table
