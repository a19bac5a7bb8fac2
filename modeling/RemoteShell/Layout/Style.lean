import RemoteShell.Text.Blank
import RemoteShell.Text.Fields
import RemoteShell.Text.Numeral

/-!
# Style of the output

Colour is put into a line by terminal escape sequences, which take no room on the screen. The width of a text is
therefore counted without them.

Main statements:

* `stripEscapes_of_not_mem`: a text without the escape character is all visible.
-/

namespace RemoteShell

/-- How output looks. -/
structure Style where
  /-- Whether it is coloured. -/
  color : Bool := false
  /-- How wide the terminal is. -/
  width : Nat := 80
  /-- How many minutes local time is ahead of universal time where the output is read. -/
  zone : Int
deriving DecidableEq, Repr

/-- What a piece of output is, which decides its colour. -/
inductive Role where
  | error
  | heading
  | rule
deriving DecidableEq, Repr

/-- The number of the display attribute for a role. -/
def Role.attribute : Role → String
  | .error => "31"
  | .heading => "1"
  | .rule => "2"

/-- A text in the colour of its role. -/
def paint (role : Role) (text : String) (style : Style) : String :=
  if style.color then "\x1b[" ++ role.attribute ++ "m" ++ text ++ "\x1b[0m" else text

/-- An ASCII letter, which ends an escape sequence. -/
def isAsciiLetter (c : Char) : Bool :=
  ('a' ≤ c && c ≤ 'z') || ('A' ≤ c && c ≤ 'Z')

/-- What remains of a stretch that follows an escape character: behind a bracket, all up to the first letter is a
sequence; without the bracket nothing is. -/
def stripStretch : List Char → List Char
  | '[' :: rest => (rest.dropWhile (!isAsciiLetter ·)).drop 1
  | stretch => '\x1b' :: stretch

/-- A text without its escape sequences. -/
def stripEscapes (cs : List Char) : List Char :=
  match Text.fields '\x1b' cs with
  | [] => []
  | head :: stretches => head ++ stretches.flatMap stripStretch

/-- How many characters of a string are visible. -/
def displayWidth (s : String) : Nat :=
  (stripEscapes s.toList).length

/-- The width of the terminal that is stated by a setting: at least forty, and eighty without a usable statement. -/
def detectWidth (columns : Option String) : Nat :=
  match columns.bind fun text => Text.readUnsigned? Text.maxUInt64 (Text.trim text.toList) with
  | some width => max width 40
  | none => 80

/-- The style for the place that output goes to: coloured on a terminal, unless the user wants no colour. -/
def Style.detect (isTerminal noColor : Bool) (columns : Option String) (zone : Int) : Style :=
  { color := isTerminal && !noColor, width := detectWidth columns, zone }

/-- **A text without the escape character is all visible.** -/
theorem stripEscapes_of_not_mem {cs : List Char} (h : '\x1b' ∉ cs) : stripEscapes cs = cs := by
  simp [stripEscapes, Text.fields_of_not_mem h]

end RemoteShell
