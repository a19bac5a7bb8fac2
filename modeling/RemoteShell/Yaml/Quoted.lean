import RemoteShell.Yaml.Gap

/-!
# Quoted scalars

Between single quotes only the quote itself is written in another way: twice. Between double quotes a backslash starts
an escape, and one at the end of a line takes the line break away. Line breaks are folded in both.

Main statements:

* `escapeOf?_isNone_of_code`: a letter that is followed by a code stands for no character itself.
-/

namespace RemoteShell.Yaml

/-- The character that a backslash and a letter stand for; nothing if there is none or a code follows. -/
def escapeOf? (letter : Char) : Option Char :=
  match letter with
  | '0' => some '\x00'
  | 'a' => some '\x07'
  | 'b' => some '\x08'
  | 't' => some '\t'
  | '\t' => some '\t'
  | 'n' => some '\n'
  | 'v' => some '\x0b'
  | 'f' => some '\x0c'
  | 'r' => some '\r'
  | 'e' => some '\x1b'
  | ' ' => some ' '
  | '"' => some '"'
  | '/' => some '/'
  | '\\' => some '\\'
  | 'N' => some '\u0085'
  | '_' => some '\u00a0'
  | 'L' => some '\u2028'
  | 'P' => some '\u2029'
  | _ => none

/-- How many digits the code behind a letter has. -/
def codeLength? (letter : Char) : Option Nat :=
  match letter with
  | 'x' => some 2
  | 'u' => some 4
  | 'U' => some 8
  | _ => none

/-- The character of a code of so many digits in base sixteen. -/
def codeChar? (width : Nat) (digits : List Char) : Option Char := do
  let n ← readDigits? 16 digits
  if h : n.isValidChar then (if digits.length = width then some (Char.ofNatAux n h) else none) else none

/-- The word that starts here between quotes, and what is behind it: a blank, the closing quote, the end, or a
backslash at the end of a line. Nothing if an escape is none. Each round takes a character. -/
def quotedWord (mark : Char) : Nat → List Char → Option (List Char × List Char)
  | 0, _ => none
  | _, [] => some ([], [])
  | fuel + 1, c :: rest =>
    let onward := fun (letter : Char) (behind : List Char) =>
      (quotedWord mark fuel behind).map fun (word, left) => (letter :: word, left)
    if isGap c || isBreak c then some ([], c :: rest)
    else if c == mark then
      match mark, rest with
      | '\'', '\'' :: behind => onward '\'' behind
      | _, _ => some ([], c :: rest)
    else if mark == '"' && c == '\\' then
      match rest with
      | [] => none
      | letter :: behind =>
        if isBreak letter then some ([], c :: rest)
        else match escapeOf? letter, codeLength? letter with
          | some meant, _ => onward meant behind
          | none, some width => do onward (← codeChar? width (behind.take width)) (behind.drop width)
          | none, none => none
    else onward c rest

/-- Reads a quoted scalar on, given what it holds so far: its text, and the place behind the closing quote. Each round
takes a gap. -/
def readQuotedFrom (mark : Char) : Nat → Cursor → List Char → Option (List Char × Cursor)
  | 0, _, _ => none
  | fuel + 1, cursor, text =>
    if cursor.isAtDocumentMark || cursor.rest.isEmpty then none
    else do
      let (word, behind) ← quotedWord mark (cursor.rest.length + 1) cursor.rest
      let text := text ++ word
      let next := cursor.moveTo behind
      let (gap, next) := if startsWith "\\" behind then (Gap.breaks none [], (next.skip 1).skipBreak)
        else (Gap.blanks [], next)
      if next.rest.head? == some mark then some (text, next.skip 1)
      else
        let (gap, next) ← gap.read 0 next.rest next.place
        readQuotedFrom mark fuel next (text ++ gap.text)

/-- Reads the quoted scalar whose opening quote stands here. -/
def readQuoted (mark : Char) (cursor : Cursor) : Option (List Char × Cursor) :=
  readQuotedFrom mark (cursor.rest.length + 1) (cursor.skip 1) []

/-- A letter that is followed by a code stands for no character itself. -/
theorem escapeOf?_isNone_of_code {letter : Char} (h : (codeLength? letter).isSome = true) :
    (escapeOf? letter).isNone = true := by
  unfold codeLength? at h
  split at h <;> first | rfl | cases h

end RemoteShell.Yaml
