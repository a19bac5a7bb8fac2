import RemoteShell.Yaml.Cursor

/-!
# Block scalars

A block is a text of indented lines behind a mark. How deep it is indented is either said behind the mark or told by
its first line that is not empty. The lines of a literal block stay as they are; those of a folded one are joined by
spaces unless one of them starts with a blank. Behind the mark also stands how the block ends.

Main statements:

* `size_readBlockGap`: the place in front of the next line counts the characters passed.
-/

namespace RemoteShell.Yaml

/-- How a block ends: with one line break, without any, or with all there are. -/
inductive Chomp where
  | clip
  | strip
  | keep
deriving DecidableEq, Repr

/-- What the marks behind the opening of a block say: how it ends, and its indentation. -/
structure BlockMarks where
  chomp : Chomp := .clip
  indent : Option Nat := none
deriving DecidableEq, Repr

/-- The ending that a mark asks for. -/
def chompOf? (c : Char) : Option Chomp :=
  if c == '+' then some .keep else if c == '-' then some .strip else none

/-- Reads the marks behind the opening of a block, in either order, and what is behind them; nothing if the
indentation is zero. -/
def readBlockMarks (cs : List Char) : Option (BlockMarks × List Char) :=
  let chomp := cs.head?.bind chompOf?
  let cs := if chomp.isSome then cs.drop 1 else cs
  let indent := cs.head?.bind (digit? 10)
  let cs := if indent.isSome then cs.drop 1 else cs
  let last := if chomp.isNone && indent.isSome then cs.head?.bind chompOf? else none
  let cs := if last.isSome then cs.drop 1 else cs
  if indent == some 0 then none else some ({ chomp := (chomp.or last).getD .clip, indent }, cs)

/-- The indentation and the empty lines in front of a line of a block. -/
structure BlockGap where
  /-- The deepest column that was reached. -/
  deepest : Nat
  breaks : List Char
  cursor : Cursor
deriving DecidableEq, Repr

/-- Reads on over indentation and empty lines. The indentation is not known if `indent` is zero. Nothing if a tab
stands where spaces indent a line. -/
def readBlockGap (indent : Nat) : List Char → Place → Nat → List Char → Option BlockGap
  | [], place, deepest, breaks =>
    some { deepest := max deepest place.column, breaks, cursor := { place, rest := [] } }
  | '\r' :: '\n' :: rest, place, deepest, breaks =>
    readBlockGap indent rest (place.nextLine 2) (max deepest place.column) (breaks ++ ['\n'])
  | c :: rest, place, deepest, breaks =>
    let outside := indent == 0 || place.column < indent
    if c == ' ' && outside then readBlockGap indent rest (place.along 1) deepest breaks
    else if c == '\t' && outside then none
    else if isBreak c then
      readBlockGap indent rest (place.nextLine 1) (max deepest place.column) (breaks ++ [keptBreak c])
    else some { deepest := max deepest place.column, breaks, cursor := { place, rest := c :: rest } }

/-- The end of the last line of a block, and the empty lines behind it. -/
structure BlockEnd where
  last : Option Char := none
  breaks : List Char
  /-- Whether the last line started with a blank. -/
  raised : Bool := false
deriving DecidableEq, Repr

namespace BlockEnd

/-- What stands between the last line and the next one. -/
def joint (e : BlockEnd) (folded raised : Bool) : List Char :=
  if folded && e.last == some '\n' && !e.raised && !raised then (if e.breaks.isEmpty then [' '] else e.breaks)
  else e.last.toList ++ e.breaks

/-- What stands behind the last line of all. -/
def tail (e : BlockEnd) : Chomp → List Char
  | .clip => e.last.toList
  | .strip => []
  | .keep => e.last.toList ++ e.breaks

end BlockEnd

/-- The line break at the start of what is left, as it is kept. -/
def breakHere? (rest : List Char) : Option Char :=
  (rest.head?.filter isBreak).map keptBreak

/-- Reads the lines of a block, given its text so far. Each round takes a line. -/
def readBlockLines (folded : Bool) (indent : Nat) :
    Nat → Cursor → List Char → BlockEnd → Option (List Char × BlockEnd × Cursor)
  | 0, _, _, _ => none
  | fuel + 1, cursor, text, done =>
    if cursor.column != indent || cursor.rest.isEmpty then some (text, done, cursor)
    else do
      let raised := startsWith " \t" cursor.rest
      let next := cursor.moveTo (cursor.rest.dropWhile (!isBreak ·))
      let gap ← readBlockGap indent next.skipBreak.rest next.skipBreak.place 0 []
      readBlockLines folded indent fuel gap.cursor
        (text ++ done.joint folded raised ++ cursor.rest.takeWhile (!isBreak ·))
        { last := breakHere? next.rest, breaks := gap.breaks, raised }

/-- Reads the block whose mark stands here, within a mapping that is indented by `outer`, if within any: its text, and
the place behind it. -/
def readBlock (folded : Bool) (outer : Option Nat) (cursor : Cursor) : Option (List Char × Cursor) := do
  let (marks, behind) ← readBlockMarks (cursor.rest.drop 1)
  let start ← (cursor.moveTo behind).endLine?
  let given := (marks.indent.map (· + outer.getD 0)).getD 0
  let gap ← readBlockGap given start.rest start.place 0 []
  let least := max 1 ((outer.map (· + 1)).getD 0)
  let indent := if given == 0 then max least gap.deepest else given
  let (text, done, next) ←
    readBlockLines folded indent (cursor.rest.length + 1) gap.cursor [] { breaks := gap.breaks }
  return (text ++ done.tail marks.chomp, next)

/-- The place in front of the next line counts the characters passed. -/
theorem size_readBlockGap {indent : Nat} {cs : List Char} {place : Place} {deepest : Nat} {breaks : List Char}
    {gap : BlockGap} (h : readBlockGap indent cs place deepest breaks = some gap) :
    gap.cursor.size = place.index + cs.length := by
  fun_induction readBlockGap indent cs place deepest breaks with
  | case1 =>
    cases h
    rfl
  | case2 rest place deepest breaks ih =>
    rw [ih h]
    simp only [Place.nextLine, List.length_cons]
    omega
  | case3 c rest place deepest breaks _ _ _ ih =>
    rw [ih h]
    simp only [Place.along, List.length_cons]
    omega
  | case4 => cases h
  | case5 c rest place deepest breaks _ _ _ _ _ ih =>
    rw [ih h]
    simp only [Place.nextLine, List.length_cons]
    omega
  | case6 =>
    cases h
    rfl

end RemoteShell.Yaml
