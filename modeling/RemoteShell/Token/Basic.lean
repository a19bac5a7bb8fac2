import RemoteShell.Text.Blank

/-!
# Tokens of a command line

A command line is a flat list of tokens: words, quoted texts, `name=value` pairs and single punctuation marks. Lists in
brackets are single level only, so `[` and `]` are marks like the others and the binding of arguments gives them
meaning.
-/

namespace RemoteShell

/-- The marks that always form a token of their own. -/
def isReserved (c : Char) : Bool :=
  c == '=' || c == ')' || c == '(' || c == '[' || c == ']' || c == '\x7b' || c == '\x7d'

/-- The two marks that open a quoted text. -/
def isQuoteMark (c : Char) : Bool :=
  c == '\'' || c == '"'

/-- The characters a word is made of: neither blank, nor a quote mark, nor reserved. -/
def isWordChar (c : Char) : Bool :=
  !Text.isBlank c && !isQuoteMark c && !isReserved c

/-- A text in quotes, with its escapes resolved. -/
structure Quotation where
  /-- What the quotes hold. -/
  text : String
  /-- The mark it was opened with. -/
  mark : Char
  /-- Whether the closing mark was found before the line ended. -/
  closed : Bool := true
deriving DecidableEq, Repr

/-- One unit of a command line. -/
inductive Token where
  /-- Word characters. -/
  | word (text : String)
  /-- A text in quotes. -/
  | quoted (quotation : Quotation)
  /-- A value given to an argument by name. -/
  | named (name : String) (value : Token)
  /-- A reserved mark. -/
  | punct (mark : Char)
deriving DecidableEq, Repr

namespace Token

/-- The word that stands for "this place was skipped". -/
def skipMarker : String := "-"

/-- The empty word, which holds the place of a value that was never given. -/
def placeholder : Token := .word ""

/-- An empty word or the skip marker. -/
def isPlaceholder : Token → Bool
  | .word text => text == "" || text == skipMarker
  | _ => false

/-- Whether the token is the punctuation mark `c`. -/
def isPunct (c : Char) : Token → Bool
  | .punct mark => mark == c
  | _ => false

/-- The text that a value is read from. -/
def text : Token → String
  | .word text => text
  | .quoted q => q.text
  | .named _ value => value.text
  | .punct mark => mark.toString

/-- Whether the token, or the value of a named token, is a quoted text without its closing mark. -/
def isUnterminated : Token → Bool
  | .quoted q => !q.closed
  | .named _ value => value.isUnterminated
  | _ => false

/-- A closed quoted text. -/
def closedQuote (text : String) (mark : Char) : Token :=
  .quoted { text, mark }

end Token

/-- What a word may hold, as three exclusions. -/
theorem isWordChar_iff {c : Char} :
    isWordChar c = true ↔ Text.isBlank c = false ∧ isQuoteMark c = false ∧ isReserved c = false := by
  simp [isWordChar, and_assoc]

end RemoteShell
