import RemoteShell.Token.Basic

/-!
# Quoted texts

How a text is written in quotes and how it is read back. Writing escapes what reading resolves; a carriage return has
no escape and is written as it is, so it is the one character that does not survive: reading stops at a line break and
leaves it to the blanks that follow.

Main statements:

* `readQuoted_length_le`: reading never looks past what it was given.
* `escapeOf_escapeLetter`: the letter written for a character is the letter read for it.
-/

namespace RemoteShell

/-- The two characters that end a line. -/
def isLineBreak (c : Char) : Bool :=
  c == '\n' || c == '\r'

/-- The character that a backslash and a letter stand for. -/
def escapeOf (letter : Char) : Option Char :=
  match letter with
  | 'b' => some '\x08'
  | 'f' => some '\x0c'
  | 'n' => some '\n'
  | 't' => some '\t'
  | '\\' => some '\\'
  | '\'' => some '\''
  | '"' => some '"'
  | _ => none

/-- The letter that is written after a backslash for a character, inside quotes of the given mark. -/
def escapeLetter (mark c : Char) : Option Char :=
  match c with
  | '\\' => some '\\'
  | '\n' => some 'n'
  | '\t' => some 't'
  | '\x08' => some 'b'
  | '\x0c' => some 'f'
  | _ => if c = '\r' then none else if c = mark then some mark else none

/-- One character as it stands between quotes. -/
def escapeChar (mark c : Char) : List Char :=
  match escapeLetter mark c with
  | some letter => ['\\', letter]
  | none => [c]

/-- A text between quotes, up to and including the closing one. -/
def quoteBody (mark : Char) (cs : List Char) : List Char :=
  cs.flatMap (escapeChar mark) ++ [mark]

/-- A text in quotes. -/
def quoteChars (mark : Char) (cs : List Char) : List Char :=
  mark :: quoteBody mark cs

/-- A string in quotes. -/
def quote (text : String) (mark : Char) : String :=
  String.ofList (quoteChars mark text.toList)

/-- What was read from behind an opening quote mark. -/
structure QuotedRun where
  /-- The characters meant. -/
  text : List Char
  /-- Whether the closing mark was found. -/
  closed : Bool
  /-- The characters behind it. -/
  rest : List Char
deriving DecidableEq, Repr

/-- The same run with some characters in front of its text. -/
def QuotedRun.prepend (cs : List Char) (run : QuotedRun) : QuotedRun :=
  { run with text := cs ++ run.text }

/-- Reads a quoted text from behind its opening mark. An unknown escape keeps its backslash. A line break ends the text
without closing it and is not consumed; a backslash before it, or at the end of the input, stands for itself. -/
def readQuoted (mark : Char) : List Char → QuotedRun
  | [] => { text := [], closed := false, rest := [] }
  | c :: rest =>
    if c = '\\' then
      match rest with
      | [] => { text := ['\\'], closed := false, rest := [] }
      | letter :: after =>
        if isLineBreak letter then { text := ['\\'], closed := false, rest := letter :: after }
        else match escapeOf letter with
          | some e => (readQuoted mark after).prepend [e]
          | none => (readQuoted mark after).prepend ['\\', letter]
    else if isLineBreak c then { text := [], closed := false, rest := c :: rest }
    else if c = mark then { text := [], closed := true, rest := rest }
    else (readQuoted mark rest).prepend [c]

/-- The quoted token that a run amounts to. -/
def QuotedRun.token (mark : Char) (run : QuotedRun) : Token :=
  .quoted { text := String.ofList run.text, mark, closed := run.closed }

/-- Reading never looks past what it was given. -/
theorem readQuoted_length_le (mark : Char) (cs : List Char) : (readQuoted mark cs).rest.length ≤ cs.length := by
  fun_induction readQuoted mark cs <;> simp_all [QuotedRun.prepend] <;> omega

/-- The letter written for a character is the letter read for it. -/
theorem escapeOf_escapeLetter {mark c letter : Char} (hmark : isQuoteMark mark = true)
    (h : escapeLetter mark c = some letter) : escapeOf letter = some c := by
  unfold escapeLetter at h
  simp only [isQuoteMark, Bool.or_eq_true, beq_iff_eq] at hmark
  split at h <;> first
    | (cases h; rfl)
    | (split at h
       · simp at h
       · split at h
         · cases h
           rename_i heq
           subst heq
           rcases hmark with rfl | rfl <;> rfl
         · simp at h)

/-- A text as one token: a word if it would be read back as one, else a text in double quotes. -/
def wordOrQuoted (text : String) : Token :=
  if text != "" && text != Token.skipMarker && text.toList.all isWordChar then .word text
  else Token.closedQuote text '"'

end RemoteShell
