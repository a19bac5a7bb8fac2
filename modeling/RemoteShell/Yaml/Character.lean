/-!
# Characters of a document

The classes of characters that the rest of the reader tells apart. What follows a character is asked of the characters
that are left, since the end of the text counts like a blank.
-/

namespace RemoteShell.Yaml

/-- The characters that a document may hold. -/
def isAllowed (c : Char) : Bool :=
  let n := c.toNat
  n == 9 || n == 10 || n == 13 || (0x20 ≤ n && n ≤ 0x7E) || n == 0x85 || (0xA0 ≤ n && n ≤ 0xFFFD) || 0x10000 ≤ n

/-- A space or a tab. -/
def isGap (c : Char) : Bool :=
  c == ' ' || c == '\t'

/-- A character that ends a line. A carriage return and a line feed behind it are one line break. -/
def isBreak (c : Char) : Bool :=
  c == '\n' || c == '\r' || c == '\u0085' || c == '\u2028' || c == '\u2029'

/-- What a line break is kept as. -/
def keptBreak (c : Char) : Char :=
  if c == '\u2028' || c == '\u2029' then c else '\n'

/-- A character of a name, as anchors and directives have them. -/
def isNameChar (c : Char) : Bool :=
  c.isAlphanum || c == '-' || c == '_'

/-- A character that structures a mapping between braces. -/
def isFlowMark (c : Char) : Bool :=
  ",[]\x7b\x7d".toList.contains c

/-- Whether a word ends in front of what is left: at a space, a tab, a line break or the end. -/
def endsWord (rest : List Char) : Bool :=
  match rest with
  | [] => true
  | c :: _ => isGap c || isBreak c

/-- Whether a line ends in front of what is left. -/
def endsLine (rest : List Char) : Bool :=
  match rest with
  | [] => true
  | c :: _ => isBreak c

/-- Whether what is left starts with one of some characters. -/
def startsWith (marks : String) (rest : List Char) : Bool :=
  match rest with
  | [] => false
  | c :: _ => marks.toList.contains c

/-- The digit that a character stands for in a base up to sixteen. -/
def digit? (base : Nat) (c : Char) : Option Nat :=
  let n := c.toNat
  let value := if c.isDigit then some (n - 48) else if 'a' ≤ c && c ≤ 'f' then some (n - 87)
    else if 'A' ≤ c && c ≤ 'F' then some (n - 55) else none
  value.filter (· < base)

/-- The number that some digits stand for in a base; there is at least one digit. -/
def readDigits? (base : Nat) (cs : List Char) : Option Nat :=
  if cs.isEmpty then none
  else cs.foldl (fun n c => do return (← n) * base + (← digit? base c)) (some 0)

end RemoteShell.Yaml
