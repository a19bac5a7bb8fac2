import RemoteShell.Text.Bytes
import RemoteShell.Token.Hints
import RemoteShell.Token.Scan

/-!
# The line before the cursor

Completion looks only at what stands before the cursor. The token that ends right there is the one being typed; the
tokens before it, without hints, say what it is typed for.
-/

namespace RemoteShell

/-- The value being typed. -/
structure Typed where
  /-- The name of the argument, if the value is given by name. -/
  name : Option String := none
  /-- What has been typed so far, without the quote mark in front of it. -/
  value : String := ""
  /-- The quote mark it was opened with. -/
  mark : Option Char := none
deriving DecidableEq, Repr

namespace Typed

/-- The value typed as a token whose text in the line is `raw`. A quoted text counts as quoted only if the line has the
mark there. Punctuation is no value. -/
def ofValue? (name : Option String) (raw : List Char) : Token → Option Typed
  | .punct _ => none
  | .quoted q =>
    if raw.head? = some q.mark then some { name, value := q.text, mark := some q.mark }
    else some { name, value := String.ofList raw }
  | _ => some { name, value := String.ofList raw }

/-- The value typed as a token, with or without a name in front of it. -/
def ofToken? (token : Token) (raw : List Char) : Option Typed :=
  match token with
  | .named name value => ofValue? (some name) (raw.drop (name.length + 1)) value
  | other => ofValue? none raw other

/-- Whether anything has been typed. An opened quote counts. -/
def isEmpty (t : Typed) : Bool :=
  t.value == "" && t.mark.isNone

end Typed

/-- The line before the cursor: the tokens passed, the value being typed, and the byte offset where that starts. There
is no value if the cursor is right behind something else. -/
structure CursorView where
  tokens : List Token
  typed : Option Typed
  start : Nat
deriving DecidableEq, Repr

namespace CursorView

/-- Whether a token is the one being typed: it ends at the cursor and is not punctuation. -/
def isTyped (stop : Nat) (s : Spanned) : Bool :=
  s.stop == stop && match s.token with
    | .punct _ => false
    | _ => true

/-- The token being typed, if the cursor is right behind one. -/
def typedToken? (before : List Char) (spans : List Spanned) : Option Spanned :=
  spans.getLast?.filter (isTyped (Text.size before))

/-- The view of some characters before the cursor. -/
def ofChars (before : List Char) : CursorView :=
  let spans := scanFrom 0 before
  match typedToken? before spans with
  | some last =>
    { tokens := dropHints (spans.dropLast.map (·.token))
      typed := Typed.ofToken? last.token (Text.dropBytes last.start before)
      start := last.start }
  | none =>
    { tokens := dropHints (spans.map (·.token)), typed := some {}, start := Text.size before }

/-- The view of a line with the cursor at a byte offset. An offset inside a character means the start of it, one past
the end means the end. -/
def of (line : String) (pos : Nat) : CursorView :=
  ofChars (Text.takeBytes pos line.toList)

end CursorView

end RemoteShell
