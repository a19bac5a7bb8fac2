import Mathlib.Data.List.Induction
import RemoteShell.Layout.Columns
import RemoteShell.Proofs.Layout.Width

/-!
# Fixed columns that align

Rows may be of different lengths, with more or fewer columns than are specified. Every cell is kept, and where no cell
in front of a column is wider than its cap, the column starts at the same place on every line.

The widths are those of a table that is widened in place, cell by cell, and the lines are set by looking each width up in
it. There is a width for every cell, so no look-up fails.

Main statements:

* `isGreatest_columnWidth`: a column is as wide as its widest cell within the cap.
* `columnizeInPlace?_eq`: widening in place finds a width for every cell.
* `drop_startOf`: where a cell starts on its line.
* `columnize_keeps_and_aligns`: all lines.
-/

namespace RemoteShell

/-- Whether a cell is no wider than the cap of its column. -/
def WithinCap (spec : Option ColumnSpec) (cell : String) : Prop :=
  ∀ s ∈ spec, displayWidth cell ≤ s.most

instance (spec : Option ColumnSpec) (cell : String) : Decidable (WithinCap spec cell) :=
  inferInstanceAs (Decidable (∀ s ∈ spec, displayWidth cell ≤ s.most))

/-- The widths that the column `i` is widened for. -/
def cappedWidths (rows : List (List String)) (specs : List ColumnSpec) (i : Nat) : Set Nat :=
  {width | ∃ row ∈ rows, ∃ cell, row[i]? = some cell ∧ WithinCap specs[i]? cell ∧ displayWidth cell = width}

/-- **How a cell is set in a column:** as it is if it fills the column, and else with blanks on the free side. -/
inductive SetIn (spec : Option ColumnSpec) (width : Nat) (cell : String) : String → Prop
  | whole (h : width ≤ displayWidth cell) : SetIn spec width cell cell
  | right {text : String} (h : displayWidth cell < width) (hside : spec.map ColumnSpec.justify = some .right)
      (htext : text.toList = List.replicate (width - displayWidth cell) ' ' ++ cell.toList) : SetIn spec width cell text
  | left {text : String} (h : displayWidth cell < width) (hside : spec.map ColumnSpec.justify ≠ some .right)
      (htext : text.toList = cell.toList ++ List.replicate (width - displayWidth cell) ' ') : SetIn spec width cell text

/-- The cells of a row, each set in its column. -/
def setCells (rows : List (List String)) (specs : List ColumnSpec) (row : List String) : List String :=
  row.zipIdx.map fun (cell, i) => padCell specs[i]? (columnWidth rows specs i) cell

/-- Where the text `j` starts on a line of texts with single blanks between them. -/
def startOf (texts : List String) (j : Nat) : Nat :=
  ((texts.take j).map (·.toList.length + 1)).sum

/-- Whether the cells of a row in front of the column `j` are within their caps and have no escape character. -/
def IsRegularBefore (specs : List ColumnSpec) (row : List String) (j : Nat) : Prop :=
  ∀ i < j, ∀ cell ∈ row[i]?, '\x1b' ∉ cell.toList ∧ WithinCap specs[i]? cell

instance (specs : List ColumnSpec) (row : List String) (j : Nat) : Decidable (IsRegularBefore specs row j) :=
  inferInstanceAs (Decidable (∀ i < j, ∀ cell ∈ row[i]?, '\x1b' ∉ cell.toList ∧ WithinCap specs[i]? cell))

/-! ## Widening in place -/

/-- Widens columns for the cells of a row, from the column `i` on. There has to be a width for every cell that is within
its cap. -/
def widenInPlace? (specs : List ColumnSpec) : Nat → List String → List Nat → Option (List Nat)
  | _, [], widths => some widths
  | i, cell :: rest, widths =>
    if WithinCap specs[i]? cell then do
      let width ← widths[i]?
      widenInPlace? specs (i + 1) rest (widths.set i (max width (displayWidth cell)))
    else widenInPlace? specs (i + 1) rest widths

/-- Sets the cells of a row, from the column `i` on. There has to be a width for every cell. -/
def setInPlace? (specs : List ColumnSpec) (widths : List Nat) : Nat → List String → Option (List String)
  | _, [] => some []
  | i, cell :: rest => do
    let width ← widths[i]?
    let texts ← setInPlace? specs widths (i + 1) rest
    return padCell specs[i]? width cell :: texts

/-- One line for each row, with a table of widths for as many columns as the longest row has. -/
def columnizeInPlace? (rows : List (List String)) (specs : List ColumnSpec) : Option (List String) := do
  let count := (rows.map List.length).foldl max 0
  let widths ← rows.foldlM (fun widths row => widenInPlace? specs 0 row widths) (List.replicate count 0)
  rows.mapM fun row => do
    let texts ← setInPlace? specs widths 0 row
    return " ".intercalate texts

/-! ## Widths -/

theorem cellWidth_of_withinCap {spec : Option ColumnSpec} {cell : String} (h : WithinCap spec cell) :
    cellWidth spec cell = displayWidth cell := by
  cases spec with
  | none => rfl
  | some s => simp [cellWidth, h s rfl]

theorem cellWidth_of_not_withinCap {spec : Option ColumnSpec} {cell : String} (h : ¬ WithinCap spec cell) :
    cellWidth spec cell = 0 := by
  cases spec with
  | none => exact absurd (by simp [WithinCap]) h
  | some s =>
      have hwide : ¬ displayWidth cell ≤ s.most := by simpa [WithinCap] using h
      simp [cellWidth, hwide]

/-- The width that a row asks of the column `i`. -/
def rowWidth (specs : List ColumnSpec) (i : Nat) (row : List String) : Nat :=
  match row[i]? with
  | some cell => cellWidth specs[i]? cell
  | none => 0

theorem columnWidth_eq (rows : List (List String)) (specs : List ColumnSpec) (i : Nat) :
    columnWidth rows specs i = (rows.map (rowWidth specs i)).foldl max 0 := rfl

theorem columnWidth_nil (specs : List ColumnSpec) (i : Nat) : columnWidth [] specs i = 0 := rfl

theorem columnWidth_snoc (rows : List (List String)) (specs : List ColumnSpec) (row : List String) (i : Nat) :
    columnWidth (rows ++ [row]) specs i = max (columnWidth rows specs i) (rowWidth specs i row) := by
  simp [columnWidth_eq]

/-- **A column is as wide as its widest cell within the cap,** and takes no room if there is none. -/
theorem isGreatest_columnWidth (rows : List (List String)) (specs : List ColumnSpec) (i : Nat) :
    IsGreatest (insert 0 (cappedWidths rows specs i)) (columnWidth rows specs i) := by
  obtain ⟨hmem, hupper⟩ := isGreatest_foldl_max (rows.map (rowWidth specs i)) 0
  rw [columnWidth_eq]
  constructor
  · rcases hmem with hzero | hmem
    · exact Or.inl hzero
    · obtain ⟨row, hrow, heq⟩ := List.mem_map.mp hmem
      rw [← heq]
      unfold rowWidth
      split
      · next cell hcell =>
          by_cases hcap : WithinCap specs[i]? cell
          · exact Or.inr ⟨row, hrow, cell, hcell, hcap, (cellWidth_of_withinCap hcap).symm⟩
          · exact Or.inl (cellWidth_of_not_withinCap hcap)
      · exact Or.inl rfl
  · rintro width (rfl | ⟨row, hrow, cell, hcell, hcap, rfl⟩)
    · exact Nat.zero_le _
    · have hwidth : rowWidth specs i row = displayWidth cell := by
        simp only [rowWidth, hcell, cellWidth_of_withinCap hcap]
      exact hupper (Or.inr (List.mem_map.mpr ⟨row, hrow, hwidth⟩))

/-- A cell within the cap is no wider than its column. -/
theorem displayWidth_le_columnWidth {rows : List (List String)} {specs : List ColumnSpec} {row : List String}
    (hrow : row ∈ rows) {i : Nat} {cell : String} (hcell : row[i]? = some cell) (hcap : WithinCap specs[i]? cell) :
    displayWidth cell ≤ columnWidth rows specs i :=
  (isGreatest_columnWidth rows specs i).2 (Or.inr ⟨row, hrow, cell, hcell, hcap, rfl⟩)

/-! ## Lines -/

theorem setIn_padCell (spec : Option ColumnSpec) (width : Nat) (cell : String) :
    SetIn spec width cell (padCell spec width cell) := by
  by_cases hwide : width ≤ displayWidth cell
  · rw [padCell_of_le hwide]
    exact .whole hwide
  · have hless : displayWidth cell < width := Nat.lt_of_not_le hwide
    unfold padCell
    dsimp only
    split
    · next hside => exact .right hless hside (by simp)
    · next hside => exact .left hless hside (by simp)

/-- A cell without the escape character that is within its column fills it once it is set. -/
theorem SetIn.length {spec : Option ColumnSpec} {width : Nat} {cell text : String} (h : SetIn spec width cell text)
    (hplain : '\x1b' ∉ cell.toList) (hle : displayWidth cell ≤ width) : text.toList.length = width := by
  have hcell : displayWidth cell = cell.toList.length := displayWidth_of_not_mem hplain
  cases h with
  | whole hwide => omega
  | right hless _ htext =>
      rw [htext, List.length_append, List.length_replicate]
      omega
  | left hless _ htext =>
      rw [htext, List.length_append, List.length_replicate]
      omega

theorem length_setCells (rows : List (List String)) (specs : List ColumnSpec) (row : List String) :
    (setCells rows specs row).length = row.length := by
  simp [setCells]

theorem getElem?_setCells {rows : List (List String)} {specs : List ColumnSpec} {row : List String} {i : Nat}
    {cell : String} (h : row[i]? = some cell) :
    (setCells rows specs row)[i]? = some (padCell specs[i]? (columnWidth rows specs i) cell) := by
  simp [setCells, List.getElem?_zipIdx, h]

/-- **From its start on, a line goes on with the text and those behind it.** -/
theorem drop_startOf (texts : List String) {j : Nat} (hj : j < texts.length) :
    (" ".intercalate texts).toList.drop (startOf texts j) = (" ".intercalate (texts.drop j)).toList := by
  have hlength : j < (texts.map String.toList).length := by simpa using hj
  have hdrop := drop_intercalate [' '] hlength
  simpa [startOf, ← List.map_take, ← List.map_drop, Function.comp_def] using hdrop

/-- Where a column starts on a line with no irregular cell in front of it. -/
theorem startOf_setCells {rows : List (List String)} {specs : List ColumnSpec} {row : List String} (hrow : row ∈ rows)
    {j : Nat} (hj : j ≤ row.length) (h : IsRegularBefore specs row j) :
    startOf (setCells rows specs row) j = ((List.range j).map fun i => columnWidth rows specs i + 1).sum := by
  induction j with
  | zero => rfl
  | succ j ih =>
      have hcell : row[j]? = some row[j] := List.getElem?_eq_getElem hj
      obtain ⟨hplain, hcap⟩ := h j (Nat.lt_succ_self j) row[j] hcell
      have hlength := (setIn_padCell specs[j]? (columnWidth rows specs j) row[j]).length hplain
        (displayWidth_le_columnWidth hrow hcell hcap)
      have hbefore := ih (Nat.le_of_lt hj) fun i hi => h i (Nat.lt_succ_of_lt hi)
      rw [startOf, List.take_add_one, getElem?_setCells hcell, List.map_append, List.sum_append, ← startOf, hbefore,
        List.range_succ, List.map_append, List.sum_append]
      simp [hlength]

/-! ## Widening in place -/

/-- **There is a width for every cell of a row that has no more cells than there are columns,** and afterwards the
columns of the cells are wide enough for them. -/
theorem widenInPlace?_eq (specs : List ColumnSpec) {i : Nat} {cells : List String} {widths : List Nat}
    (h : i + cells.length ≤ widths.length) :
    ∃ widened, widenInPlace? specs i cells widths = some widened ∧ widened.length = widths.length ∧
      ∀ k, widened[k]? = widths[k]?.map fun width =>
        if k < i then width else max width ((cells[k - i]?.map (cellWidth specs[k]?)).getD 0) := by
  induction cells generalizing i widths with
  | nil => exact ⟨widths, rfl, rfl, by simp⟩
  | cons cell rest ih =>
      simp only [List.length_cons] at h
      have hi : i < widths.length := by omega
      have hbehind : ∀ k, i < k → (cell :: rest)[k - i]? = rest[k - (i + 1)]? := by
        intro k hk
        rw [show k - i = k - (i + 1) + 1 by omega, List.getElem?_cons_succ]
      -- The column of the cell is widened now, those behind it later on.
      by_cases hcap : WithinCap specs[i]? cell
      · have hrest : i + 1 + rest.length ≤ (widths.set i (max widths[i] (displayWidth cell))).length := by
          simp only [List.length_set]
          omega
        obtain ⟨widened, heq, hlength, hwidth⟩ := ih hrest
        refine ⟨widened, ?_, by simpa using hlength, ?_⟩
        · simpa [widenInPlace?, hcap, hi] using heq
        · intro k
          rw [hwidth k]
          rcases Nat.lt_trichotomy k i with hk | rfl | hk
          · simp [hk, Nat.lt_succ_of_lt hk, List.getElem?_set_ne (Nat.ne_of_gt hk)]
          · simp [hi, cellWidth_of_withinCap hcap]
          · rw [List.getElem?_set_ne (Nat.ne_of_lt hk), hbehind k hk]
            simp [Nat.not_lt.mpr (Nat.succ_le_of_lt hk), Nat.not_lt.mpr (Nat.le_of_lt hk)]
      · have hrest : i + 1 + rest.length ≤ widths.length := by omega
        obtain ⟨widened, heq, hlength, hwidth⟩ := ih hrest
        refine ⟨widened, by simpa [widenInPlace?, hcap] using heq, hlength, ?_⟩
        intro k
        rw [hwidth k]
        rcases Nat.lt_trichotomy k i with hk | rfl | hk
        · simp [hk, Nat.lt_succ_of_lt hk]
        · simp [cellWidth_of_not_withinCap hcap]
        · rw [hbehind k hk]
          simp [Nat.not_lt.mpr (Nat.succ_le_of_lt hk), Nat.not_lt.mpr (Nat.le_of_lt hk)]

/-- Row after row, the table holds the widths of the columns so far. -/
theorem foldlM_widenInPlace? (specs : List ColumnSpec) {count : Nat} {rows : List (List String)}
    (h : ∀ row ∈ rows, row.length ≤ count) :
    rows.foldlM (fun widths row => widenInPlace? specs 0 row widths) (List.replicate count 0) =
      some ((List.range count).map (columnWidth rows specs)) := by
  induction rows using List.reverseRecOn with
  | nil =>
      have hnone : (List.range count).map (columnWidth [] specs) = List.replicate count 0 := by
        refine List.eq_replicate_iff.mpr ⟨by simp, ?_⟩
        intro width hwidth
        obtain ⟨i, -, rfl⟩ := List.mem_map.mp hwidth
        exact columnWidth_nil specs i
      rw [hnone]
      rfl
  | append_singleton rows row ih =>
      have hrow : 0 + row.length ≤ ((List.range count).map (columnWidth rows specs)).length := by
        simpa using h row (by simp)
      obtain ⟨widened, heq, -, hwidth⟩ := widenInPlace?_eq specs hrow
      have hsame : widened = (List.range count).map (columnWidth (rows ++ [row]) specs) := by
        apply List.ext_getElem?
        intro k
        rw [hwidth k]
        by_cases hk : k < count
        · have hask : (row[k]?.map (cellWidth specs[k]?)).getD 0 = rowWidth specs k row := by
            cases hcell : row[k]? <;> simp [rowWidth, hcell]
          simp [hk, columnWidth_snoc, hask]
        · simp [Nat.le_of_not_lt hk]
      rw [List.foldlM_append, ih fun other hother => h other (by simp [hother])]
      simp [heq, hsame]

/-- There is a width for every cell of a row that has no more cells than there are columns. -/
theorem setInPlace?_eq (specs : List ColumnSpec) {widths : List Nat} {i : Nat} {cells : List String}
    (h : i + cells.length ≤ widths.length) :
    setInPlace? specs widths i cells =
      some ((cells.zipIdx i).map fun (cell, k) => padCell specs[k]? (widths.getD k 0) cell) := by
  induction cells generalizing i with
  | nil => rfl
  | cons cell rest ih =>
      simp only [List.length_cons] at h
      have hi : i < widths.length := by omega
      rw [setInPlace?, ih (by omega)]
      simp [hi]

theorem mapM_eq_some_map {α β : Type} {f : α → Option β} {g : α → β} {items : List α}
    (h : ∀ item ∈ items, f item = some (g item)) : items.mapM f = some (items.map g) := by
  induction items with
  | nil => rfl
  | cons item rest ih =>
      rw [List.mapM_cons, h item List.mem_cons_self, ih fun other hother => h other (List.mem_cons_of_mem item hother)]
      rfl

/-- No row is longer than there are columns. -/
theorem length_le_count {rows : List (List String)} {row : List String} (h : row ∈ rows) :
    row.length ≤ (rows.map List.length).foldl max 0 :=
  (isGreatest_foldl_max _ 0).2 (Or.inr (List.mem_map_of_mem h))

/-- **Widening in place finds a width for every cell,** and sets the same lines. -/
theorem columnizeInPlace?_eq (rows : List (List String)) (specs : List ColumnSpec) :
    columnizeInPlace? rows specs = some (columnize rows specs) := by
  have hfold := foldlM_widenInPlace? specs fun row (hrow : row ∈ rows) => length_le_count hrow
  unfold columnizeInPlace?
  simp only [hfold, Option.bind_eq_bind, Option.bind_some]
  refine mapM_eq_some_map ?_
  intro row hrow
  have hlength : 0 + row.length ≤
      ((List.range ((rows.map List.length).foldl max 0)).map (columnWidth rows specs)).length := by
    simpa using length_le_count hrow
  rw [setInPlace?_eq specs hlength]
  rfl

/-! ## Listings -/

/-- A line is made of the cells of its row. -/
theorem columnize_eq (rows : List (List String)) (specs : List ColumnSpec) :
    columnize rows specs = rows.map fun row => " ".intercalate (setCells rows specs row) := by
  refine List.map_congr_left fun row hrow => congrArg " ".intercalate ?_
  refine List.map_congr_left fun ⟨cell, i⟩ hmem => ?_
  have hi : i < row.length := by
    obtain ⟨hi, -⟩ := List.getElem?_eq_some_iff.mp (List.mem_zipIdx_iff_getElem?.mp hmem)
    exact hi
  simp [Nat.lt_of_lt_of_le hi (length_le_count hrow)]

/-- **All lines of a listing.** No width is looked up in vain; a column is as wide as its widest cell within the cap. A
line is made of all cells of its row, in order, with single blanks between them, each set in its column. Two lines on
which no irregular cell stands in front of a column have this column at the same place. -/
theorem columnize_keeps_and_aligns (rows : List (List String)) (specs : List ColumnSpec) :
    columnizeInPlace? rows specs = some (columnize rows specs) ∧
    (∀ i, IsGreatest (insert 0 (cappedWidths rows specs i)) (columnWidth rows specs i)) ∧
    columnize rows specs = (rows.map fun row => " ".intercalate (setCells rows specs row)) ∧
    (∀ row, (setCells rows specs row).length = row.length ∧ ∀ i cell, row[i]? = some cell →
      ∃ text, (setCells rows specs row)[i]? = some text ∧ SetIn specs[i]? (columnWidth rows specs i) cell text) ∧
    (∀ row, ∀ j < row.length, (" ".intercalate (setCells rows specs row)).toList.drop
        (startOf (setCells rows specs row) j) = (" ".intercalate ((setCells rows specs row).drop j)).toList) ∧
    ∀ row ∈ rows, ∀ other ∈ rows, ∀ j, j < row.length → j < other.length → IsRegularBefore specs row j →
      IsRegularBefore specs other j → startOf (setCells rows specs row) j = startOf (setCells rows specs other) j := by
  refine ⟨columnizeInPlace?_eq rows specs, isGreatest_columnWidth rows specs, columnize_eq rows specs, ?_, ?_, ?_⟩
  · intro row
    refine ⟨length_setCells rows specs row, ?_⟩
    intro i cell hcell
    exact ⟨_, getElem?_setCells hcell, setIn_padCell _ _ cell⟩
  · intro row j hj
    exact drop_startOf _ (by rwa [length_setCells])
  · intro row hrow other hother j hj hjother hregular hregularOther
    rw [startOf_setCells hrow (Nat.le_of_lt hj) hregular, startOf_setCells hother (Nat.le_of_lt hjother) hregularOther]

/-- A ragged listing with fewer specifications than columns and a name that is wider than its cap. -/
theorem columnize_keeps_and_aligns_ragged :
    let rows := [["abc", "D", "12", "p"], ["much longer", "x"], ["b", "D", "7", "note"]]
    let specs : List ColumnSpec := [⟨.left, 4⟩, ⟨.right, 1⟩, ⟨.right, 6⟩]
    columnizeInPlace? rows specs = some ["abc D 12 p   ", "much longer x", "b   D  7 note"] ∧
      startOf (setCells rows specs ["abc", "D", "12", "p"]) 3 =
        startOf (setCells rows specs ["b", "D", "7", "note"]) 3 := by
  intro rows specs
  obtain ⟨hinPlace, -, -, -, -, haligns⟩ := columnize_keeps_and_aligns rows specs
  have hlines : columnize rows specs = ["abc D 12 p   ", "much longer x", "b   D  7 note"] := by decide +kernel
  refine ⟨hinPlace.trans (congrArg some hlines), ?_⟩
  exact haligns ["abc", "D", "12", "p"] (by decide) ["b", "D", "7", "note"] (by decide) 3 (by decide) (by decide)
    (by decide) (by decide)

end RemoteShell
