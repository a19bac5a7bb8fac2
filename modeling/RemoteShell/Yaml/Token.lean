import RemoteShell.Yaml.Block
import RemoteShell.Yaml.Plain
import RemoteShell.Yaml.Quoted
import RemoteShell.Yaml.Scalar

/-!
# Tokens of a document

A settings file holds a single mapping of scalars, so tokens are read for that only: whatever opens a list, or a
mapping within a mapping, is refused where it stands.

A name is known to be one only when its colon comes. So the place of a token that may start a name is remembered, and
the colon puts the mark of a name in front of it, and the opening of the mapping in front of that if the name is the
first. A name stands on one line and is not longer than `longestName` characters. What stands at the indentation of an
open mapping has to be a name.

Main statements:

* `size_skipIdle`: the place of the next token counts the characters passed.
-/

namespace RemoteShell.Yaml

/-- A token of a document. -/
inductive Token where
  | directive (d : Directive)
  | documentStart
  | documentEnd
  /-- A mapping with a name to a line begins. -/
  | blockStart
  | blockEnd
  /-- A mapping between braces begins. -/
  | flowStart
  | flowEnd
  /-- The comma between two entries. -/
  | flowEntry
  /-- A name follows. -/
  | key
  /-- A value follows. -/
  | value
  | alias (name : List Char)
  | anchor (name : List Char)
  | tag (t : Tag)
  | scalar (style : ScalarStyle) (text : List Char)
deriving DecidableEq, Repr

/-- A place where a name may have started. -/
structure NameStart where
  /-- How many tokens are before it. -/
  count : Nat
  place : Place
  /-- Whether it has to be one. -/
  required : Bool
deriving DecidableEq, Repr

/-- The longest name. -/
def longestName : Nat := 1024

/-- A document that is being cut into tokens. -/
structure TokenReader where
  cursor : Cursor
  tokens : List Token := []
  /-- The column of the mapping that is open, with a name to a line. -/
  indent : Option Nat := none
  /-- Whether a mapping between braces is open. -/
  flow : Bool := false
  /-- Whether a name may start here. -/
  nameAllowed : Bool := true
  /-- Where a name outside of braces may have started. -/
  outerName : Option NameStart := none
  /-- Where a name between braces may have started. -/
  innerName : Option NameStart := none
deriving DecidableEq, Repr

namespace TokenReader

/-- Adds a token. -/
def push (r : TokenReader) (t : Token) : TokenReader :=
  { r with tokens := r.tokens ++ [t] }

/-- Puts tokens behind the first `count`. -/
def insert (r : TokenReader) (count : Nat) (ts : List Token) : TokenReader :=
  { r with tokens := r.tokens.take count ++ ts ++ r.tokens.drop count }

/-- The place where the name may have started that a colon here belongs to. -/
def nameStart (r : TokenReader) : Option NameStart :=
  if r.flow then r.innerName else r.outerName

/-- Sets where the name may have started that a colon here belongs to. -/
def setNameStart (r : TokenReader) (start : Option NameStart) : TokenReader :=
  if r.flow then { r with innerName := start } else { r with outerName := start }

/-- Forgets the place where a name may have started; fails if there has to be one. -/
def dropName (r : TokenReader) : Option TokenReader :=
  if r.nameStart.any (·.required) then none else some (r.setNameStart none)

/-- Remembers that a name may start here, if it may. -/
def saveName (r : TokenReader) : Option TokenReader :=
  if r.nameAllowed then do
    let start : NameStart :=
      { count := r.tokens.length, place := r.cursor.place, required := !r.flow && r.indent == some r.cursor.column }
    return (← r.dropName).setNameStart (some start)
  else some r

/-- Whether the colon can no longer come: the line has ended, or the name is too long. -/
def NameStart.isOver (start : NameStart) (place : Place) : Bool :=
  start.place.line < place.line || start.place.index + longestName < place.index

/-- Forgets the places whose colon can no longer come; fails if there has to be one. -/
def expireNames (r : TokenReader) : Option TokenReader :=
  let isOver := fun (start : NameStart) => NameStart.isOver start r.cursor.place
  if (r.outerName.filter isOver).any (·.required) then none
  else some
    { r with outerName := r.outerName.filter (!isOver ·), innerName := r.innerName.filter (!isOver ·) }

/-! ## Mappings with a name to a line -/

/-- Closes the open mapping if what comes stands less deep; at the end, whatever its depth. -/
def closeBlock (r : TokenReader) (column : Option Nat) : TokenReader :=
  match r.indent with
  | some indent =>
    if !r.flow && column.all (· < indent) then { r.push .blockEnd with indent := none } else r
  | none => r

/-- Opens a mapping at a column, with `ts` behind its opening, behind the first `count` tokens. Where one is open at
that column only `ts` are put there. Nothing if the mapping would be within another. -/
def openBlock (r : TokenReader) (column count : Nat) (ts : List Token) : Option TokenReader :=
  match r.indent with
  | none => if r.flow then some (r.insert count ts)
    else some { r.insert count (.blockStart :: ts) with indent := some column }
  | some indent => if !r.flow && indent < column then none else some (r.insert count ts)

/-! ## Tokens -/

/-- Skips what stands between two tokens: spaces, comments and line breaks, and tabs where no name can start. A byte
order mark may start a line. `comment` tells whether a comment has started. The result also says whether a name may
start behind. -/
def skipIdle (flow : Bool) : List Char → Place → Bool → Bool → Cursor × Bool
  | [], place, allowed, _ => ({ place, rest := [] }, allowed)
  | '\r' :: '\n' :: rest, place, allowed, _ => skipIdle flow rest (place.nextLine 2) (allowed || !flow) false
  | c :: rest, place, allowed, comment =>
    if isBreak c then skipIdle flow rest (place.nextLine 1) (allowed || !flow) false
    else if comment || c == '#' then skipIdle flow rest (place.along 1) allowed true
    else if c == ' ' || (c == '\t' && (flow || !allowed)) || (c == '\ufeff' && place.column == 0) then
      skipIdle flow rest (place.along 1) allowed false
    else ({ place, rest := c :: rest }, allowed)

/-- The place of the next token counts the characters passed. -/
theorem size_skipIdle (flow : Bool) (cs : List Char) (place : Place) (allowed comment : Bool) :
    (skipIdle flow cs place allowed comment).1.size = place.index + cs.length := by
  fun_induction skipIdle flow cs place allowed comment with
  | case1 => rfl
  | case2 rest place allowed _ ih =>
    rw [ih]
    simp only [Place.nextLine, List.length_cons]
    omega
  | case3 c rest place allowed comment _ _ ih =>
    rw [ih]
    simp only [Place.nextLine, List.length_cons]
    omega
  | case4 c rest place allowed comment _ _ _ ih =>
    rw [ih]
    simp only [Place.along, List.length_cons]
    omega
  | case5 c rest place allowed comment _ _ _ _ ih =>
    rw [ih]
    simp only [Place.along, List.length_cons]
    omega
  | case6 => rfl

/-- Adds a token of some characters and says whether a name may start behind it. -/
def take (r : TokenReader) (width : Nat) (t : Token) (allowed : Bool) : TokenReader :=
  { r.push t with cursor := r.cursor.skip width, nameAllowed := allowed }

/-- Takes the mark at the start or at the end of a document. -/
def takeDocumentMark (r : TokenReader) (t : Token) : Option TokenReader := do
  return (← (r.closeBlock none).dropName).take 3 t false

/-- Takes a directive. -/
def takeDirective (r : TokenReader) : Option TokenReader := do
  let r ← (r.closeBlock none).dropName
  let (directive, behind) ← readDirective (r.cursor.rest.drop 1)
  return { r.push (.directive directive) with
    cursor := ← (r.cursor.moveTo behind).endLine?, nameAllowed := false }

/-- Takes the mark in front of a name. -/
def takeKey (r : TokenReader) : Option TokenReader := do
  let r ← if r.flow then some r
    else if r.nameAllowed then r.openBlock r.cursor.column r.tokens.length [] else none
  return (← r.dropName).take 1 .key (!r.flow)

/-- Takes the colon in front of a value. -/
def takeValue (r : TokenReader) : Option TokenReader :=
  match r.nameStart with
  | some start => do
    let r ← r.openBlock start.place.column start.count [.key]
    return (r.setNameStart none).take 1 .value false
  | none => do
    let r ← if r.flow then some r
      else if r.nameAllowed then r.openBlock r.cursor.column r.tokens.length [] else none
    return r.take 1 .value (!r.flow)

/-- Takes the brace that opens a mapping. -/
def takeFlowStart (r : TokenReader) : Option TokenReader :=
  if r.flow then none
  else do
    let r ← r.saveName
    return { r.take 1 .flowStart true with flow := true, innerName := none }

/-- Takes the brace that closes a mapping. -/
def takeFlowEnd (r : TokenReader) : Option TokenReader :=
  if r.flow then some { r.take 1 .flowEnd false with flow := false, innerName := none } else none

/-- Takes a scalar or what may stand in front of one: a token whose characters end where `cursor` starts. -/
def takeNode (r : TokenReader) (t : Token) (cursor : Cursor) (allowed : Bool) : Option TokenReader := do
  return { (← r.saveName).push t with cursor, nameAllowed := allowed }

/-- Takes a tag. Behind it stands a blank or, between braces, a comma. -/
def takeTag (r : TokenReader) (rest : List Char) : Option TokenReader := do
  let (tag, behind) ← readTag rest
  if endsWord behind || (r.flow && startsWith "," behind) then
    r.takeNode (.tag tag) (r.cursor.moveTo behind) false
  else none

/-- Takes a block. -/
def takeBlock (r : TokenReader) (folded : Bool) : Option TokenReader := do
  let r ← r.dropName
  let (text, cursor) ← readBlock folded r.indent r.cursor
  return { r.push (.scalar (if folded then .folded else .literal) text) with cursor, nameAllowed := true }

/-- Takes the token that starts with `c`. -/
def takeToken (r : TokenReader) (c : Char) (rest : List Char) : Option TokenReader :=
  if r.cursor.column == 0 && c == '%' then r.takeDirective
  else if r.cursor.isAtMark '-' then r.takeDocumentMark .documentStart
  else if r.cursor.isAtMark '.' then r.takeDocumentMark .documentEnd
  else if c == '\x7b' then r.takeFlowStart
  else if c == '\x7d' then r.takeFlowEnd
  else if c == ',' then (if r.flow then r.dropName.map (·.take 1 .flowEntry true) else none)
  else if c == '-' && endsWord rest then none
  else if c == '?' && (r.flow || endsWord rest) then r.takeKey
  else if c == ':' && (r.flow || endsWord rest) then r.takeValue
  else if c == '*' then do
    let (name, behind) ← readAnchor rest
    r.takeNode (.alias name) (r.cursor.moveTo behind) false
  else if c == '&' then do
    let (name, behind) ← readAnchor rest
    r.takeNode (.anchor name) (r.cursor.moveTo behind) false
  else if c == '!' then r.takeTag rest
  else if (c == '|' || c == '>') && !r.flow then r.takeBlock (c == '>')
  else if c == '\'' || c == '"' then do
    let (text, cursor) ← readQuoted c r.cursor
    r.takeNode (.scalar .quoted text) cursor false
  else if startsPlain r.flow c rest then do
    let run ← readPlain r.flow ((r.indent.map (· + 1)).getD 0) r.cursor
    r.takeNode (.scalar .plain run.text) run.cursor run.broken
  else none

/-- Skips to the next token, and closes what ends in front of it. -/
def advance (r : TokenReader) : Option TokenReader := do
  let (cursor, nameAllowed) := skipIdle r.flow r.cursor.rest r.cursor.place r.nameAllowed false
  let r ← { r with cursor, nameAllowed }.expireNames
  return r.closeBlock (some r.cursor.column)

/-- The tokens of what is left. Each round takes a token. -/
def readFrom : Nat → TokenReader → Option (List Token)
  | 0, _ => none
  | fuel + 1, r => do
    let r ← r.advance
    match r.cursor.rest with
    | [] => return (← (r.closeBlock none).dropName).tokens
    | c :: rest => readFrom fuel (← r.takeToken c rest)

end TokenReader

/-- The tokens of a text. -/
def readTokens (cs : List Char) : Option (List Token) :=
  TokenReader.readFrom (cs.length + 1) { cursor := { rest := cs } }

end RemoteShell.Yaml
