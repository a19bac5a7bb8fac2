import RemoteShell.Yaml.Character

/-!
# Places in a document

Indentation is counted in columns, and a name has to stand on one line and near its colon. So the reader carries along
where it is: how many characters are behind it, on which line, and how far into that line.

Main statements:

* `size_moveTo`, `size_skipBreak`, `size_endLine?`: a place that is moved on counts the characters passed.
-/

namespace RemoteShell.Yaml

/-- A place in a text. -/
structure Place where
  /-- How many characters are before it. -/
  index : Nat := 0
  line : Nat := 0
  column : Nat := 0
deriving DecidableEq, Repr

namespace Place

/-- The place some characters further on the same line. -/
def along (p : Place) (n : Nat) : Place :=
  { p with index := p.index + n, column := p.column + n }

/-- The place behind a line break of so many characters. -/
def nextLine (p : Place) (width : Nat) : Place :=
  { index := p.index + width, line := p.line + 1, column := 0 }

end Place

/-- A place in a text and the characters from there on. -/
structure Cursor where
  place : Place := {}
  rest : List Char
deriving DecidableEq, Repr

namespace Cursor

/-- The column of a place. -/
def column (c : Cursor) : Nat :=
  c.place.column

/-- How many characters the whole text has, as a place in it tells. -/
def size (c : Cursor) : Nat :=
  c.place.index + c.rest.length

/-- Moves on to where the given characters are left. They stand on the same line. -/
def moveTo (c : Cursor) (rest : List Char) : Cursor :=
  { place := c.place.along (c.rest.length - rest.length), rest }

/-- Moves on by some characters of the same line. -/
def skip (c : Cursor) (n : Nat) : Cursor :=
  c.moveTo (c.rest.drop n)

/-- Moves on behind the line break here, if there is one. -/
def skipBreak (c : Cursor) : Cursor :=
  match c.rest with
  | '\r' :: '\n' :: rest => { place := c.place.nextLine 2, rest }
  | first :: rest => if isBreak first then { place := c.place.nextLine 1, rest } else c
  | [] => c

/-- Moves on behind the spaces, the tabs and the comment here; nothing if more stands on the line. -/
def endLine? (c : Cursor) : Option Cursor :=
  let behind := c.rest.dropWhile isGap
  let left := if startsWith "#" behind then behind.dropWhile (!isBreak ·) else behind
  if endsLine left then some (c.moveTo left).skipBreak else none

/-- Whether a line starts here with three equal characters and nothing close behind them. -/
def isAtMark (c : Cursor) (mark : Char) : Bool :=
  c.column == 0 && c.rest.take 3 == [mark, mark, mark] && endsWord (c.rest.drop 3)

/-- Whether the mark at the start or at the end of a document stands here. -/
def isAtDocumentMark (c : Cursor) : Bool :=
  c.isAtMark '-' || c.isAtMark '.'

/-! ## Counting what is passed -/

theorem size_moveTo {c : Cursor} {rest : List Char} (h : rest.length ≤ c.rest.length) :
    (c.moveTo rest).size = c.size := by
  simp only [size, moveTo, Place.along]
  omega

theorem size_skipBreak (c : Cursor) : c.skipBreak.size = c.size := by
  unfold skipBreak
  split
  · next rest hrest =>
    simp only [size, Place.nextLine, hrest, List.length_cons]
    omega
  · next first rest _ hrest =>
    split
    · simp only [size, Place.nextLine, hrest, List.length_cons]
      omega
    · rfl
  · rfl

theorem size_endLine? {c next : Cursor} (h : c.endLine? = some next) : next.size = c.size := by
  have hgap : (c.rest.dropWhile isGap).length ≤ c.rest.length := (List.dropWhile_suffix _).length_le
  unfold endLine? at h
  dsimp only at h
  rw [Option.ite_none_right_eq_some, Option.some.injEq] at h
  obtain ⟨-, rfl⟩ := h
  rw [size_skipBreak]
  split
  · exact size_moveTo (Nat.le_trans (List.dropWhile_suffix _).length_le hgap)
  · exact size_moveTo hgap

end Cursor

end RemoteShell.Yaml
