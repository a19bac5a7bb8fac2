import Mathlib.Data.List.Forall2
import Mathlib.Data.List.Induction
import RemoteShell.Proofs.Layout.Squeeze

/-!
# Tables that fit and align

Whatever stands in the cells of a table, escape sequences that are never closed included, no line of it is wider than
the terminal, unless its columns do not fit there even at the floor. Where the cells of a line are without the escape
character, every column starts at the same place on it as on the rule, and shows its cell in full or cut.

Main statements:

* `displayWidth_renderRow_le`: a row is at most as wide as its columns and what stands between them.
* `drop_columnStart`: what stands on a line from the start of a column on.
* `inColumns_fittedCells`, `liesOver_renderRow`: a row without the escape character lies over its columns.
* `render_fits_and_aligns`: all lines of a table.
-/

namespace RemoteShell.Table

/-- **The natural width of the column `i`:** that of the widest among the header and the cells under it. A missing cell
takes no room. -/
def naturalWidth (headers : List String) (rows : List (List String)) (i : Nat) : Nat :=
  ((headers :: rows).map fun cells => displayWidth (cells.getD i "")).foldl max 0

/-- The widths that the columns of a table have in the end. -/
def columnWidths (headers : List String) (rows : List (List String)) (style : Style) : List Nat :=
  squeeze (naturalWidths headers rows) style.width

/-- Where the column `i` starts. -/
def columnStart (widths : List Nat) (i : Nat) : Nat :=
  ((widths.take i).map (· + 2)).sum

/-- **What a column shows of a cell:** nothing of a missing one, the whole of one that fits, and else its beginning. -/
inductive Shown (width : Nat) : Option String → List Char → Prop
  | missing : Shown width none (List.replicate width ' ')
  | padded {cell : String} (h : cell.toList.length ≤ width) :
      Shown width (some cell) (cell.toList ++ List.replicate (width - cell.toList.length) ' ')
  | cut {cell : String} (h : width < cell.toList.length) :
      Shown width (some cell) (cell.toList.take (width - 1) ++ ['~'])

/-- **A text in columns,** with a field in each of them and blanks between neighbours. -/
structure InColumns (widths : List Nat) (shows : Nat → Nat → List Char → Prop) (text : List Char) : Prop where
  length : text.length = totalWidth widths
  field : ∀ i w, widths[i]? = some w → shows i w ((text.drop (columnStart widths i)).take w)
  between : ∀ i w, widths[i]? = some w → i + 1 < widths.length →
    (text.drop (columnStart widths i + w)).take 2 = [' ', ' ']

/-- **A line that lies over columns:** what is visible of it is a text in columns, perhaps without the blanks at its
end. -/
def LiesOver (widths : List Nat) (shows : Nat → Nat → List Char → Prop) (line : String) : Prop :=
  ∃ blanks : List Char, (∀ c ∈ blanks, Text.isBlank c = true) ∧
    InColumns widths shows (stripEscapes line.toList ++ blanks)

/-! ## Natural widths -/

theorem displayWidth_empty : displayWidth "" = 0 := by
  decide

theorem getElem?_widen (widths : List Nat) (cells : List String) (i : Nat) :
    (widen widths cells)[i]? = widths[i]?.map fun w => max w (displayWidth (cells.getD i "")) := by
  induction widths, cells using widen.induct generalizing i with
  | case1 cells => simp [widen]
  | case2 widths => simp [widen, displayWidth_empty]
  | case3 w widths cell cells ih =>
      cases i with
      | zero => simp [widen]
      | succ i => simpa [widen] using ih i

theorem naturalWidths_snoc (headers : List String) (rows : List (List String)) (row : List String) :
    naturalWidths headers (rows ++ [row]) = widen (naturalWidths headers rows) row := by
  simp [naturalWidths]

/-- The columns before squeezing have their natural widths. -/
theorem getElem?_naturalWidths (headers : List String) (rows : List (List String)) {i : Nat} (hi : i < headers.length) :
    (naturalWidths headers rows)[i]? = some (naturalWidth headers rows i) := by
  induction rows using List.reverseRecOn with
  | nil => simp [naturalWidths, naturalWidth, hi]
  | append_singleton rows row ih =>
      rw [naturalWidths_snoc, getElem?_widen, ih]
      simp [naturalWidth]

theorem length_widen (widths : List Nat) (cells : List String) : (widen widths cells).length = widths.length := by
  induction widths, cells using widen.induct with
  | case1 cells => simp [widen]
  | case2 widths => simp [widen]
  | case3 w widths cell cells ih => simp [widen, ih]

theorem length_naturalWidths (headers : List String) (rows : List (List String)) :
    (naturalWidths headers rows).length = headers.length := by
  induction rows using List.reverseRecOn with
  | nil => simp [naturalWidths]
  | append_singleton rows row ih =>
      rw [naturalWidths_snoc, length_widen, ih]

theorem naturalWidths_eq (headers : List String) (rows : List (List String)) :
    naturalWidths headers rows = (List.range headers.length).map (naturalWidth headers rows) := by
  apply List.ext_getElem?
  intro i
  by_cases hi : i < headers.length
  · rw [getElem?_naturalWidths headers rows hi]
    simp [hi]
  · rw [List.getElem?_eq_none (by rw [length_naturalWidths]; omega)]
    simp [Nat.le_of_not_lt hi]

/-- No cell is wider than its column naturally is. -/
theorem displayWidth_le_naturalWidth {headers cells : List String} {rows : List (List String)}
    (h : cells ∈ headers :: rows) (i : Nat) : displayWidth (cells.getD i "") ≤ naturalWidth headers rows i := by
  have hmem : displayWidth (cells.getD i "") ∈ (headers :: rows).map fun cells => displayWidth (cells.getD i "") :=
    List.mem_map.mpr ⟨cells, h, rfl⟩
  exact (isGreatest_foldl_max _ 0).2 (Or.inr hmem)

theorem length_columnWidths (headers : List String) (rows : List (List String)) (style : Style) :
    (columnWidths headers rows style).length = headers.length := by
  rw [columnWidths, ← (givesWay_squeeze _ _).length_eq, length_naturalWidths]

/-- In the end a column is no wider than it naturally is, and no narrower than that at the floor. -/
theorem columnWidth_bounds {headers : List String} {rows : List (List String)} {style : Style} {i v : Nat}
    (h : (columnWidths headers rows style)[i]? = some v) :
    v ≤ naturalWidth headers rows i ∧ min (naturalWidth headers rows i) floor ≤ v := by
  obtain ⟨hi, rfl⟩ := List.getElem?_eq_some_iff.mp h
  have hlt : i < headers.length := by rwa [length_columnWidths] at hi
  obtain ⟨hnatural, hvalue⟩ := List.getElem?_eq_some_iff.mp (getElem?_naturalWidths headers rows hlt)
  rw [← hvalue]
  exact (List.forall₂_iff_get.mp (givesWay_squeeze (naturalWidths headers rows) style.width)).2 i hnatural hi

/-- A column without any room has only cells that need none. -/
theorem displayWidth_of_columnWidth_zero {headers cells : List String} {rows : List (List String)} {style : Style}
    (h : cells ∈ headers :: rows) {i : Nat} (hzero : (columnWidths headers rows style)[i]? = some 0) :
    displayWidth (cells.getD i "") = 0 := by
  have hbounds := (columnWidth_bounds hzero).2
  have hmost := displayWidth_le_naturalWidth h i
  simp only [floor] at hbounds
  omega

/-! ## Lines that fit -/

theorem totalWidth_cons_cons (w v : Nat) (widths : List Nat) :
    totalWidth (w :: v :: widths) = w + 2 + totalWidth (v :: widths) := by
  simp only [totalWidth_eq, List.sum_cons, List.length_cons]
  omega

/-- The cells of a row, fitted into columns. -/
def fittedCells (widths : List Nat) (cells : List String) : List String :=
  widths.zipIdx.map fun (width, i) => fit (cells.getD i "") width

theorem renderRow_eq (widths : List Nat) (cells : List String) :
    renderRow widths cells = String.ofList (Text.trimEnd (gutter.intercalate (fittedCells widths cells)).toList) := rfl

/-- What holds of every cell and its column holds of all of them. -/
theorem forall₂_fittedCells {R : Nat → String → Prop} {widths : List Nat} {cells : List String}
    (h : ∀ i w, widths[i]? = some w → R w (fit (cells.getD i "") w)) : List.Forall₂ R widths (fittedCells widths cells) := by
  refine List.forall₂_iff_get.mpr ⟨by simp [fittedCells], ?_⟩
  intro i hi hfitted
  simpa [fittedCells] using h i widths[i] (List.getElem?_eq_getElem hi)

/-- A fitted cell is no wider than its column. -/
theorem displayWidth_fit_le {cell : String} {width : Nat} (h : width = 0 → displayWidth cell = 0) :
    displayWidth (fit cell width) ≤ width := by
  have hplain : (stripEscapes cell.toList).length = displayWidth cell := rfl
  unfold fit
  simp only [hplain]
  split
  · next hle =>
      have hsum := displayWidth_append_le cell (String.ofList (List.replicate (width - displayWidth cell) ' '))
      rw [displayWidth_spaces] at hsum
      omega
  · next hlt =>
      -- What is cut off may leave a sequence that was none before, which takes room away only.
      have hpos : width ≠ 0 := fun hzero => hlt (by rw [h hzero]; exact Nat.zero_le _)
      refine (displayWidth_le_length _).trans ?_
      simp only [String.toList_ofList, List.length_append, List.length_take, List.length_singleton]
      omega

/-- Texts with two blanks between neighbours are at most as wide as a row of their widths. -/
theorem displayWidth_intercalate_le {widths : List Nat} {texts : List String}
    (h : List.Forall₂ (fun w text => displayWidth text ≤ w) widths texts) :
    displayWidth (gutter.intercalate texts) ≤ totalWidth widths := by
  induction h with
  | nil => decide
  | @cons w text widths texts hfirst hrest ih =>
      cases hrest with
      | nil => simpa [totalWidth_eq] using hfirst
      | @cons v next widths texts _ _ =>
          have hgutter : displayWidth gutter = 2 := by decide
          have hleft := displayWidth_append_le text gutter
          have hwhole := displayWidth_append_le (text ++ gutter) (gutter.intercalate (next :: texts))
          rw [String.intercalate_cons_cons, totalWidth_cons_cons]
          omega

/-- **A row is at most as wide as its columns and what stands between them.** -/
theorem displayWidth_renderRow_le {widths : List Nat} {cells : List String}
    (h : ∀ i, widths[i]? = some 0 → displayWidth (cells.getD i "") = 0) :
    displayWidth (renderRow widths cells) ≤ totalWidth widths := by
  rw [renderRow_eq]
  refine (displayWidth_trimEnd_le _).trans (displayWidth_intercalate_le (forall₂_fittedCells ?_))
  intro i w hw
  refine displayWidth_fit_le ?_
  rintro rfl
  exact h i hw

/-- **What all lines may take:** the terminal, or what the columns take at the floor. -/
theorem totalWidth_columnWidths_le (headers : List String) (rows : List (List String)) (style : Style) :
    totalWidth (columnWidths headers rows style) ≤
      max style.width
        (((List.range headers.length).map fun i => min (naturalWidth headers rows i) 3).sum +
          2 * (headers.length - 1)) := by
  have hfloor : floorWidth (naturalWidths headers rows) =
      ((List.range headers.length).map fun i => min (naturalWidth headers rows i) 3).sum + 2 * (headers.length - 1) := by
    rw [floorWidth, totalWidth_eq, List.length_map, length_naturalWidths, naturalWidths_eq, List.map_map]
    rfl
  rw [columnWidths, totalWidth_squeeze, hfloor]
  omega

/-! ## Lines that align -/

/-- A fitted cell without the escape character is as wide as its column. -/
theorem length_fit {cell : String} {width : Nat} (h : '\x1b' ∉ cell.toList) (hzero : width = 0 → displayWidth cell = 0) :
    (fit cell width).toList.length = width := by
  rcases Nat.eq_zero_or_pos width with rfl | hpos
  · have hle : (stripEscapes cell.toList).length ≤ 0 := Nat.le_of_eq (hzero rfl)
    have hnone : cell.toList.length = 0 := by rw [← displayWidth_of_not_mem h, hzero rfl]
    simp [fit, hle, hnone]
  · exact fit_length h hpos

/-- A fitted cell shows the cell. -/
theorem shown_fit {cell : String} (h : '\x1b' ∉ cell.toList) (width : Nat) :
    Shown width (some cell) (fit cell width).toList := by
  unfold fit
  simp only [stripEscapes_of_not_mem h]
  split
  · next hle => simpa using Shown.padded hle
  · next hlt => simpa using Shown.cut (Nat.lt_of_not_le hlt)

/-- A missing cell is blank. -/
theorem shown_fit_missing (width : Nat) : Shown width none (fit "" width).toList := by
  have hblank : (fit "" width).toList = List.replicate width ' ' := by
    simp [fit, stripEscapes, Text.fields]
  rw [hblank]
  exact .missing

theorem escape_not_mem_fit {cell : String} (h : '\x1b' ∉ cell.toList) (width : Nat) : '\x1b' ∉ (fit cell width).toList := by
  unfold fit
  simp only [stripEscapes_of_not_mem h]
  split
  · simp [h, List.mem_replicate]
  · have hcut : '\x1b' ∉ cell.toList.take (width - 1) := fun hmem => h (List.mem_of_mem_take hmem)
    simp [hcut]

/-- Texts without the escape character are so with blanks between them. -/
theorem escape_not_mem_intercalate {texts : List String} (h : ∀ text ∈ texts, '\x1b' ∉ text.toList) :
    '\x1b' ∉ (gutter.intercalate texts).toList := by
  induction texts with
  | nil => simp
  | cons text rest ih =>
      have hfirst : '\x1b' ∉ text.toList := h text List.mem_cons_self
      cases rest with
      | nil => simpa using hfirst
      | cons next rest =>
          have hrest := ih fun other hother => h other (List.mem_cons_of_mem text hother)
          have hgutter : '\x1b' ∉ gutter.toList := by decide
          simp only [String.intercalate_cons_cons, String.toList_append, List.mem_append, not_or]
          exact ⟨⟨hfirst, hgutter⟩, hrest⟩

/-- Fields with two blanks between neighbours take what a row of their widths takes. -/
theorem length_intercalate (fields : List (List Char)) :
    ([' ', ' '].intercalate fields).length = totalWidth (fields.map List.length) := by
  induction fields with
  | nil => rfl
  | cons field rest ih =>
      cases rest with
      | nil => simp [totalWidth_eq]
      | cons next rest =>
          rw [List.intercalate_cons_cons, List.length_append, ih]
          simp [totalWidth_cons_cons]

/-- **From the start of a column on** there stand its field and the fields behind it. -/
theorem drop_columnStart {fields : List (List Char)} {i : Nat} (hi : i < fields.length) :
    ([' ', ' '].intercalate fields).drop (columnStart (fields.map List.length) i) =
      fields[i] ++ ([' ', ' '].intercalate (fields.drop i)).drop fields[i].length := by
  have hstart : columnStart (fields.map List.length) i = ((fields.take i).map (·.length + [' ', ' '].length)).sum := by
    simp [columnStart, ← List.map_take, Function.comp_def]
  rw [hstart, drop_intercalate _ hi, List.drop_eq_getElem_cons hi]
  cases fields.drop (i + 1) with
  | nil => simp
  | cons next rest => simp

/-- **Fields with two blanks between neighbours are a text in columns.** -/
theorem inColumns_intercalate {fields : List (List Char)} {shows : Nat → Nat → List Char → Prop}
    (h : ∀ i field, fields[i]? = some field → shows i field.length field) :
    InColumns (fields.map List.length) shows ([' ', ' '].intercalate fields) where
  length := length_intercalate fields
  field := by
    intro i w hw
    obtain ⟨field, hfield, rfl⟩ := Option.map_eq_some_iff.mp ((List.getElem?_map ..).symm.trans hw)
    obtain ⟨hi, rfl⟩ := List.getElem?_eq_some_iff.mp hfield
    rw [drop_columnStart hi, List.take_left]
    exact h i _ hfield
  between := by
    intro i w hw hnext
    obtain ⟨field, hfield, rfl⟩ := Option.map_eq_some_iff.mp ((List.getElem?_map ..).symm.trans hw)
    obtain ⟨hi, rfl⟩ := List.getElem?_eq_some_iff.mp hfield
    have hmore : i + 1 < fields.length := by simpa using hnext
    rw [← List.drop_drop, drop_columnStart hi, List.drop_left, List.drop_eq_getElem_cons hi,
      List.drop_eq_getElem_cons hmore, List.intercalate_cons_cons, List.append_assoc, List.drop_left]
    rfl

section

variable {widths : List Nat} {cells : List String}

/-- A missing cell has no escape character either. -/
theorem escape_not_mem_getD (hplain : ∀ cell ∈ cells.take widths.length, '\x1b' ∉ cell.toList) {i w : Nat}
    (hw : widths[i]? = some w) : '\x1b' ∉ (cells.getD i "").toList := by
  obtain ⟨hi, -⟩ := List.getElem?_eq_some_iff.mp hw
  cases hget : cells[i]? with
  | none => simp [List.getD, hget]
  | some cell =>
      have hmem : cell ∈ cells.take widths.length :=
        List.mem_of_getElem? ((List.getElem?_take_of_lt hi).trans hget)
      simpa [List.getD, hget] using hplain cell hmem

/-- A row in full has no escape character if its cells have none. -/
theorem escape_not_mem_fittedCells (hplain : ∀ cell ∈ cells.take widths.length, '\x1b' ∉ cell.toList) :
    '\x1b' ∉ (gutter.intercalate (fittedCells widths cells)).toList := by
  refine escape_not_mem_intercalate ?_
  intro text htext
  obtain ⟨⟨w, i⟩, hmem, rfl⟩ := List.mem_map.mp htext
  exact escape_not_mem_fit (escape_not_mem_getD hplain (List.mem_zipIdx_iff_getElem?.mp hmem)) w

/-- **A row in full is a text in columns,** and each column shows its cell. -/
theorem inColumns_fittedCells (hplain : ∀ cell ∈ cells.take widths.length, '\x1b' ∉ cell.toList)
    (hzero : ∀ i, widths[i]? = some 0 → displayWidth (cells.getD i "") = 0) :
    InColumns widths (fun i w => Shown w cells[i]?) (gutter.intercalate (fittedCells widths cells)).toList := by
  have hlength : ∀ i w, widths[i]? = some w → (fit (cells.getD i "") w).toList.length = w := by
    intro i w hw
    refine length_fit (escape_not_mem_getD hplain hw) ?_
    rintro rfl
    exact hzero i hw
  have hwide : ((fittedCells widths cells).map String.toList).map List.length = widths := by
    rw [List.map_map]
    refine (List.forall₂_eq_eq_eq ▸ List.forall₂_map_right_iff.mpr (forall₂_fittedCells ?_) : widths = _).symm
    exact fun i w hw => (hlength i w hw).symm
  have hshown : ∀ (i : Nat) (field : List Char), ((fittedCells widths cells).map String.toList)[i]? = some field →
      Shown field.length cells[i]? field := by
    intro i field hfield
    obtain ⟨w, hw, rfl⟩ : ∃ w, widths[i]? = some w ∧ (fit (cells.getD i "") w).toList = field := by
      simpa [fittedCells, List.getElem?_zipIdx] using hfield
    have hescape := escape_not_mem_getD hplain hw
    rw [hlength i w hw]
    cases hget : cells[i]? with
    | none => simpa [List.getD, hget] using shown_fit_missing w
    | some cell => simpa [List.getD, hget] using shown_fit (by simpa [List.getD, hget] using hescape) w
  have hcolumns : InColumns _ (fun i w => Shown w cells[i]?) _ := inColumns_intercalate hshown
  rw [hwide] at hcolumns
  rw [String.toList_intercalate]
  exact hcolumns

/-- **A row without the escape character lies over its columns,** if a column without any room has only cells that need
none. -/
theorem liesOver_renderRow (hplain : ∀ cell ∈ cells.take widths.length, '\x1b' ∉ cell.toList)
    (hzero : ∀ i, widths[i]? = some 0 → displayWidth (cells.getD i "") = 0) {line : String}
    (hline : stripEscapes line.toList = stripEscapes (renderRow widths cells).toList) :
    LiesOver widths (fun i w => Shown w cells[i]?) line := by
  -- Trimming takes blanks away and nothing else, so the row in full is what is left with these blanks.
  obtain ⟨blanks, hblanks, hfull⟩ := Text.exists_trimEnd_append (gutter.intercalate (fittedCells widths cells)).toList
  have htrimmed : '\x1b' ∉ Text.trimEnd (gutter.intercalate (fittedCells widths cells)).toList := by
    intro hmem
    exact escape_not_mem_fittedCells hplain ((Text.trimEnd_isPrefix _).subset hmem)
  refine ⟨blanks, hblanks, ?_⟩
  rw [hline, renderRow_eq, String.toList_ofList, stripEscapes_of_not_mem htrimmed, hfull]
  exact inColumns_fittedCells hplain hzero

end

/-- The rule lies over the columns, with dashes in each of them. -/
theorem liesOver_rule {widths : List Nat} {line : String}
    (hline : stripEscapes line.toList =
      stripEscapes (gutter.intercalate (widths.map fun w => String.ofList (List.replicate w '-'))).toList) :
    LiesOver widths (fun _ w text => text = List.replicate w '-') line := by
  have hescape : '\x1b' ∉ (gutter.intercalate (widths.map fun w => String.ofList (List.replicate w '-'))).toList := by
    refine escape_not_mem_intercalate ?_
    intro text htext
    obtain ⟨w, -, rfl⟩ := List.mem_map.mp htext
    simp [List.mem_replicate]
  have hwide : (widths.map (List.replicate · '-')).map List.length = widths := by
    simp [Function.comp_def]
  have hshows : ∀ (i : Nat) (field : List Char), (widths.map (List.replicate · '-'))[i]? = some field →
      field = List.replicate field.length '-' := by
    intro i field hfield
    obtain ⟨w, -, rfl⟩ := List.mem_map.mp (List.mem_of_getElem? hfield)
    simp
  refine ⟨[], by simp, ?_⟩
  have hcolumns : InColumns _ (fun _ w text => text = List.replicate w '-') _ := inColumns_intercalate hshows
  rw [hwide] at hcolumns
  rw [hline, stripEscapes_of_not_mem hescape, List.append_nil, String.toList_intercalate, List.map_map]
  simpa [Function.comp_def, gutter] using hcolumns

/-! ## Tables -/

/-- **All lines of a table fit and align.** No line is wider than the terminal, or than the columns at the floor if they
are wider than that. There is a header, a rule and a line for each row; over one and the same columns lies the rule, and
so does every line whose cells are without the escape character. -/
theorem render_fits_and_aligns (headers : List String) (rows : List (List String)) (style : Style) :
    (∀ line ∈ render headers rows style,
      displayWidth line ≤ max style.width
        (((List.range headers.length).map fun i => min (naturalWidth headers rows i) 3).sum +
          2 * (headers.length - 1))) ∧
    (columnWidths headers rows style).length = headers.length ∧
    ∃ heading rule body, render headers rows style = heading :: rule :: body ∧
      ((∀ cell ∈ headers, '\x1b' ∉ cell.toList) →
        LiesOver (columnWidths headers rows style) (fun i w => Shown w headers[i]?) heading) ∧
      LiesOver (columnWidths headers rows style) (fun _ w text => text = List.replicate w '-') rule ∧
      List.Forall₂ (fun row line => (∀ cell ∈ row.take headers.length, '\x1b' ∉ cell.toList) →
        LiesOver (columnWidths headers rows style) (fun i w => Shown w row[i]?) line) rows body := by
  have hlength := length_columnWidths headers rows style
  have hzero : ∀ cells ∈ headers :: rows, ∀ i, (columnWidths headers rows style)[i]? = some 0 →
      displayWidth (cells.getD i "") = 0 := fun cells hcells i => displayWidth_of_columnWidth_zero hcells
  refine ⟨?_, hlength, _, _, _, rfl, ?_, ?_, ?_⟩
  · intro line hline
    refine le_trans ?_ (totalWidth_columnWidths_le headers rows style)
    rcases List.mem_cons.mp hline with rfl | hline
    · rw [displayWidth_paint]
      exact displayWidth_renderRow_le (hzero headers List.mem_cons_self)
    · rcases List.mem_cons.mp hline with rfl | hline
      · rw [displayWidth_paint]
        refine displayWidth_intercalate_le (List.forall₂_map_right_iff.mpr (List.forall₂_same.mpr fun w _ => ?_))
        exact (displayWidth_le_length _).trans (by simp)
      · obtain ⟨row, hrow, rfl⟩ := List.mem_map.mp hline
        exact displayWidth_renderRow_le (hzero row (List.mem_cons_of_mem _ hrow))
  · intro hplain
    refine liesOver_renderRow ?_ (hzero headers List.mem_cons_self) (stripEscapes_paint _ _ _)
    exact fun cell hcell => hplain cell (List.mem_of_mem_take hcell)
  · exact liesOver_rule (stripEscapes_paint _ _ _)
  · refine List.forall₂_map_right_iff.mpr (List.forall₂_same.mpr fun row hrow hplain => ?_)
    exact liesOver_renderRow (hlength.symm ▸ hplain) (hzero row (List.mem_cons_of_mem _ hrow)) rfl

/-- A column of twenty places gives way to a terminal of twelve, on a coloured header and on a row whose last cell is
missing. -/
theorem render_fits_and_aligns_squeezed :
    let headers := ["Name", "Id"]
    let rows := [["abcdefghijklmnopqrst", "7"], ["bob"]]
    let style : Style := { color := true, width := 12, zone := 0 }
    columnWidths headers rows style = [8, 2] ∧
      ∃ heading rule first second, render headers rows style = [heading, rule, first, second] ∧
        (∀ line ∈ [heading, rule, first, second], displayWidth line ≤ 12) ∧
        LiesOver [8, 2] (fun i w => Shown w headers[i]?) heading ∧
        LiesOver [8, 2] (fun i w => Shown w ["abcdefghijklmnopqrst", "7"][i]?) first ∧
        LiesOver [8, 2] (fun i w => Shown w ["bob"][i]?) second := by
  intro headers rows style
  have hwidths : columnWidths headers rows style = [8, 2] := by decide
  obtain ⟨hfits, -, heading, rule, body, hrender, hheading, -, hbody⟩ := render_fits_and_aligns headers rows style
  rw [hwidths] at hheading hbody
  obtain ⟨first, rest, hfirst, hrest, rfl⟩ := List.forall₂_cons_left_iff.mp hbody
  obtain ⟨second, none, hsecond, hnone, rfl⟩ := List.forall₂_cons_left_iff.mp hrest
  obtain rfl := List.forall₂_nil_left_iff.mp hnone
  refine ⟨hwidths, heading, rule, first, second, hrender, ?_, hheading (by decide), hfirst (by decide), hsecond (by decide)⟩
  have hbound : max style.width (((List.range headers.length).map fun i => min (naturalWidth headers rows i) 3).sum +
      2 * (headers.length - 1)) = 12 := by decide
  rw [hrender, hbound] at hfits
  exact hfits

end RemoteShell.Table
