import RemoteShell.Json.Basic
import RemoteShell.Text.Bytes

/-!
# Reading JSON

A text is read as exactly one value, with blanks around it. What is wrong with a text that is no value, and where, is
part of what a failed call reports: a line and a column, both counted in bytes and from one. Some faults are noticed at
a character that is only looked at, others behind a character that has been taken; the reader keeps the two apart.

Numbers without a point or an exponent are whole numbers if they fit sixty-four bits. All others are computed from the
leading digits that fit sixty-four bits without sign and a power of ten, in two rounded steps.

Main statements:

* `Json.skipBlanks_length_le`: blanks are cut off the front.
* `Json.parse_of_blank`: a blank text holds no value.
-/

namespace RemoteShell.Json

/-- What is wrong with a text that is no JSON value. -/
inductive Fault where
  | endInList | endInObject | endInText | endInValue
  | expectedColon | expectedCommaOrBracket | expectedCommaOrBrace | expectedWord | expectedValue
  | invalidEscape | invalidNumber | numberOutOfRange
  | controlCharacter | keyNotText | loneSurrogate | trailingComma | trailingCharacters
  | brokenSurrogate | tooDeep
deriving DecidableEq, Repr

/-- The wording of a fault. -/
def Fault.message : Fault → String
  | .endInList => "EOF while parsing a list"
  | .endInObject => "EOF while parsing an object"
  | .endInText => "EOF while parsing a string"
  | .endInValue => "EOF while parsing a value"
  | .expectedColon => "expected `:`"
  | .expectedCommaOrBracket => "expected `,` or `]`"
  | .expectedCommaOrBrace => "expected `,` or `\x7d`"
  | .expectedWord => "expected ident"
  | .expectedValue => "expected value"
  | .invalidEscape => "invalid escape"
  | .invalidNumber => "invalid number"
  | .numberOutOfRange => "number out of range"
  | .controlCharacter => "control character (\\u0000-\\u001F) found while parsing a string"
  | .keyNotText => "key must be a string"
  | .loneSurrogate => "lone leading surrogate in hex escape"
  | .trailingComma => "trailing comma"
  | .trailingCharacters => "trailing characters"
  | .brokenSurrogate => "unexpected end of hex escape"
  | .tooDeep => "recursion limit exceeded"

/-- A fault and the place where it was noticed. -/
structure SyntaxError where
  fault : Fault
  line : Nat
  column : Nat
deriving DecidableEq, Repr

/-- What is reported about a text that is no JSON value. -/
def SyntaxError.message (e : SyntaxError) : String :=
  e.fault.message ++ " at line " ++ toString e.line ++ " column " ++ toString e.column

/-- What is still to be read, and how many bytes have been read. -/
structure Cursor where
  rest : List Char
  offset : Nat
deriving DecidableEq, Repr

/-- A fault, at a byte offset. -/
abbrev Fault.At := Fault × Nat

namespace Cursor

/-- The cursor behind some characters. -/
def behind (cur : Cursor) (taken : List Char) (rest : List Char) : Cursor :=
  { rest, offset := cur.offset + Text.size taken }

/-- A fault noticed behind what has been read. -/
def fault (cur : Cursor) (f : Fault) : Fault.At :=
  (f, cur.offset)

/-- A fault noticed at the next byte, which is only looked at. -/
def faultAhead (cur : Cursor) (f : Fault) : Fault.At :=
  (f, if cur.rest.isEmpty then cur.offset else cur.offset + 1)

end Cursor

/-- The blanks that may stand between the parts of a value. -/
def isGap (c : Char) : Bool :=
  c == ' ' || c == '\n' || c == '\t' || c == '\r'

/-- The cursor behind the blanks. -/
def skipBlanks (cur : Cursor) : Cursor :=
  cur.behind (cur.rest.takeWhile isGap) (cur.rest.dropWhile isGap)

/-- Blanks are cut off the front. -/
theorem skipBlanks_length_le (cur : Cursor) : (skipBlanks cur).rest.length ≤ cur.rest.length :=
  (List.dropWhile_sublist isGap).length_le

theorem dropWhile_of_blank {cs : List Char} (h : ∀ c ∈ cs, isGap c = true) : cs.dropWhile isGap = [] := by
  induction cs with
  | nil => rfl
  | cons c rest ih =>
    rw [List.dropWhile_cons_of_pos (h c List.mem_cons_self)]
    exact ih fun d hd => h d (List.mem_cons_of_mem c hd)

/-- Reads the rest of a fixed word. -/
def readWord (cur : Cursor) : List Char → Except Fault.At Cursor
  | [] => .ok cur
  | expected :: more => match cur.rest with
    | [] => .error (cur.fault .endInValue)
    | c :: rest =>
      if c = expected then readWord (cur.behind [c] rest) more else .error (.expectedWord, cur.offset + 1)

/-- The value of a digit of base sixteen. -/
def hexValue? (c : Char) : Option Nat :=
  if c.isDigit then some (c.toNat - 48)
  else if 'a' ≤ c && c ≤ 'f' then some (c.toNat - 87)
  else if 'A' ≤ c && c ≤ 'F' then some (c.toNat - 55)
  else none

/-- Reads four digits of base sixteen. -/
def readHex (cur : Cursor) : Except Fault.At (Nat × Cursor) :=
  let digits := cur.rest.take 4
  if Text.size digits < 4 then .error (.endInText, cur.offset + Text.size digits)
  else match digits.mapM hexValue? with
    | some values => .ok (values.foldl (fun n v => n * 16 + v) 0, cur.behind digits (cur.rest.drop 4))
    | none => .error (.invalidEscape, cur.offset + 4)

/-- Takes one expected character of the second half of a surrogate pair. -/
def expectPair (cur : Cursor) (expected : Char) : Except Fault.At Cursor :=
  match cur.rest with
  | [] => .error (cur.fault .endInText)
  | c :: rest => if c = expected then .ok (cur.behind [c] rest) else .error (.brokenSurrogate, cur.offset + 1)

/-- Reads an escaped code point from behind the letter `u`. -/
def readCodePoint (cur : Cursor) : Except Fault.At (Char × Cursor) := do
  let (high, cur) ← readHex cur
  if 0xDC00 ≤ high && high ≤ 0xDFFF then .error (cur.fault .loneSurrogate)
  else if high < 0xD800 || 0xDFFF < high then .ok (Char.ofNat high, cur)
  else
    let cur ← expectPair cur '\\'
    let cur ← expectPair cur 'u'
    let (low, cur) ← readHex cur
    if low < 0xDC00 || 0xDFFF < low then .error (cur.fault .loneSurrogate)
    else .ok (Char.ofNat ((high - 0xD800) * 0x400 + (low - 0xDC00) + 0x10000), cur)

/-- Reads an escape from behind its backslash. -/
def readEscape (cur : Cursor) : Except Fault.At (Char × Cursor) :=
  match cur.rest with
  | [] => .error (cur.fault .endInText)
  | c :: rest =>
    let after := cur.behind [c] rest
    match c with
    | '"' => .ok ('"', after)
    | '\\' => .ok ('\\', after)
    | '/' => .ok ('/', after)
    | 'b' => .ok ('\x08', after)
    | 'f' => .ok ('\x0c', after)
    | 'n' => .ok ('\n', after)
    | 'r' => .ok ('\r', after)
    | 't' => .ok ('\t', after)
    | 'u' => readCodePoint after
    | _ => .error (.invalidEscape, cur.offset + 1)

/-- Reads a text from behind its opening quote, given the characters read so far, newest first. The first argument
bounds the characters left. -/
def readTextBody : Nat → List Char → Cursor → Except Fault.At (String × Cursor)
  | 0, _, cur => .error (cur.fault .endInText)
  | bound + 1, taken, cur => match cur.rest with
    | [] => .error (cur.fault .endInText)
    | c :: rest =>
      if c = '"' then .ok (String.ofList taken.reverse, cur.behind [c] rest)
      else if c = '\\' then do
        let (e, cur) ← readEscape (cur.behind [c] rest)
        readTextBody bound (e :: taken) cur
      else if c.toNat < 0x20 then .error (.controlCharacter, cur.offset + 1)
      else readTextBody bound (c :: taken) (cur.behind [c] rest)

/-- Reads a text from behind its opening quote. -/
def readText (cur : Cursor) : Except Fault.At (String × Cursor) :=
  readTextBody (cur.rest.length + 1) [] cur

/-- Adds digits to a number as long as it stays within sixty-four bits: the number and how many digits were added. -/
def absorb (number : Nat) : List Char → Nat × Nat
  | [] => (number, 0)
  | c :: rest =>
    let next := number * 10 + (c.toNat - 48)
    if Text.maxUInt64 < next then (number, 0)
    else
      let (final, count) := absorb next rest
      (final, count + 1)

/-- The value of leading digits and a power of ten. -/
def realOf (negative : Bool) (digits : Nat) (exponent : Int) (cur : Cursor) : Except Fault.At (Json × Cursor) :=
  let whole := (Decimal.Binary.ofFraction? digits 1).getD .zero
  if exponent < 0 then .ok (.real negative (whole.shiftRight exponent.natAbs), cur)
  else match whole.shiftLeft? exponent.natAbs with
    | some magnitude => .ok (.real negative magnitude, cur)
    | none => .error (cur.fault .numberOutOfRange)

/-- How many leading digits make a number that is too large for an exponent, if any do. -/
def exponentOverflow? (digits : List Char) : Option Nat :=
  (List.range (digits.length + 1)).find? fun count => 2147483647 < Text.digitsValue (digits.take count)

/-- Reads an exponent from behind its letter and finishes the number. -/
def readExponent (negative : Bool) (digits : Nat) (shift : Int) (cur : Cursor) :
    Except Fault.At (Json × Cursor) :=
  let (up, cur) := match cur.rest with
    | '+' :: rest => (true, cur.behind ['+'] rest)
    | '-' :: rest => (false, cur.behind ['-'] rest)
    | _ => (true, cur)
  match cur.rest with
  | [] => .error (cur.fault .endInValue)
  | c :: _ =>
    if !c.isDigit then .error (.invalidNumber, cur.offset + 1)
    else
      let places := cur.rest.takeWhile Char.isDigit
      let after := cur.behind places (cur.rest.dropWhile Char.isDigit)
      match exponentOverflow? places with
      | some count =>
        if digits ≠ 0 && up then .error (.numberOutOfRange, cur.offset + count)
        else .ok (.real negative .zero, after)
      | none =>
        let exponent : Int := Text.digitsValue places
        realOf negative digits (if up then shift + exponent else shift - exponent) after

/-- Finishes a number that has a point or an exponent or too many digits, from behind what has been read of it. -/
def readReal (negative : Bool) (digits : Nat) (shift : Int) (cur : Cursor) : Except Fault.At (Json × Cursor) :=
  match cur.rest with
  | 'e' :: rest => readExponent negative digits shift (cur.behind ['e'] rest)
  | 'E' :: rest => readExponent negative digits shift (cur.behind ['E'] rest)
  | _ => realOf negative digits shift cur

/-- Reads the digits behind a point and finishes the number. -/
def readFraction (negative : Bool) (digits : Nat) (shift : Int) (cur : Cursor) : Except Fault.At (Json × Cursor) :=
  let places := cur.rest.takeWhile Char.isDigit
  let after := cur.behind places (cur.rest.dropWhile Char.isDigit)
  if places.isEmpty then .error (cur.faultAhead (if cur.rest.isEmpty then .endInValue else .invalidNumber))
  else
    let (number, count) := absorb digits places
    readReal negative number (shift - count) after

/-- A number without a point or an exponent. What does not fit sixty-four bits, and a negative zero, is real. -/
def wholeOf (negative : Bool) (number : Nat) : Json :=
  if !negative then .int number
  else if number = 0 || 9223372036854775808 < number then
    .real true ((Decimal.Binary.ofFraction? number 1).getD .zero)
  else .int (-(number : Int))

/-- Reads a number from behind its sign. -/
def readNumber (negative : Bool) (cur : Cursor) : Except Fault.At (Json × Cursor) :=
  match cur.rest with
  | [] => .error (cur.fault .endInValue)
  | c :: rest =>
    if !c.isDigit then .error (.invalidNumber, cur.offset + 1)
    else
      let places := if c = '0' then [c] else cur.rest.takeWhile Char.isDigit
      let after := cur.behind places (cur.rest.drop places.length)
      if c = '0' && (rest.head?.map Char.isDigit).getD false then .error (after.faultAhead .invalidNumber)
      else
        let (number, count) := absorb 0 places
        let shift : Int := (places.length - count : Nat)
        match after.rest with
        | '.' :: behind => readFraction negative number shift (after.behind ['.'] behind)
        | 'e' :: _ => readReal negative number shift after
        | 'E' :: _ => readReal negative number shift after
        | _ => if shift = 0 then .ok (wholeOf negative number, after) else realOf negative number shift after

/-- Reads the items of a list from behind its bracket, or from behind an item. The second argument bounds the items
left. -/
def readItems (read : Cursor → Except Fault.At (Json × Cursor)) :
    Nat → Bool → List Json → Cursor → Except Fault.At (Json × Cursor)
  | 0, _, _, cur => .error (cur.fault .endInList)
  | bound + 1, isFirst, taken, cur =>
    let cur := skipBlanks cur
    match cur.rest with
    | [] => .error (cur.faultAhead .endInList)
    | c :: rest =>
      if c = ']' then .ok (.arr taken.reverse, cur.behind [c] rest)
      else if isFirst then do
        let (item, cur) ← read cur
        readItems read bound false (item :: taken) cur
      else if c = ',' then do
        let cur := skipBlanks (cur.behind [c] rest)
        match cur.rest.head? with
        | none => .error (cur.faultAhead .endInValue)
        | some ']' => .error (cur.faultAhead .trailingComma)
        | some _ =>
          let (item, cur) ← read cur
          readItems read bound false (item :: taken) cur
      else .error (cur.faultAhead .expectedCommaOrBracket)

/-- Reads a member of an object from behind the opening quote of its key. -/
def readMember (read : Cursor → Except Fault.At (Json × Cursor)) (cur : Cursor) :
    Except Fault.At ((String × Json) × Cursor) := do
  let (key, cur) ← readText cur
  let cur := skipBlanks cur
  match cur.rest with
  | [] => .error (cur.faultAhead .endInObject)
  | c :: rest =>
    if c = ':' then do
      let (value, cur) ← read (cur.behind [c] rest)
      return ((key, value), cur)
    else .error (cur.faultAhead .expectedColon)

/-- Reads the members of an object from behind its brace, or from behind a member. The second argument bounds the
members left. -/
def readMembers (read : Cursor → Except Fault.At (Json × Cursor)) :
    Nat → Bool → Dict Json → Cursor → Except Fault.At (Json × Cursor)
  | 0, _, _, cur => .error (cur.fault .endInObject)
  | bound + 1, isFirst, taken, cur =>
    let cur := skipBlanks cur
    match cur.rest with
    | [] => .error (cur.faultAhead .endInObject)
    | c :: rest =>
      if c = '\x7d' then .ok (.obj taken, cur.behind [c] rest)
      else if isFirst then
        if c = '"' then do
          let ((key, value), cur) ← readMember read (cur.behind [c] rest)
          readMembers read bound false (Dict.insert key value taken) cur
        else .error (cur.faultAhead .keyNotText)
      else if c = ',' then
        let cur := skipBlanks (cur.behind [c] rest)
        match cur.rest with
        | [] => .error (cur.faultAhead .endInValue)
        | '"' :: rest => do
          let ((key, value), cur) ← readMember read (cur.behind ['"'] rest)
          readMembers read bound false (Dict.insert key value taken) cur
        | '\x7d' :: _ => .error (cur.faultAhead .trailingComma)
        | _ :: _ => .error (cur.faultAhead .keyNotText)
      else .error (cur.faultAhead .expectedCommaOrBrace)

/-- Reads a value whose lists and objects are nested at most `depth` deep. -/
def readValue : Nat → Cursor → Except Fault.At (Json × Cursor)
  | depth, cur =>
    let cur := skipBlanks cur
    match cur.rest with
    | [] => .error (cur.faultAhead .endInValue)
    | c :: rest =>
      let after := cur.behind [c] rest
      match c with
      | 'n' => do return (.null, ← readWord after "ull".toList)
      | 't' => do return (.bool true, ← readWord after "rue".toList)
      | 'f' => do return (.bool false, ← readWord after "alse".toList)
      | '-' => readNumber true after
      | '"' => do
        let (text, cur) ← readText after
        return (.str text, cur)
      | '[' => match depth with
        | 0 => .error (cur.faultAhead .tooDeep)
        | deeper + 1 => readItems (readValue deeper) (rest.length + 1) true [] after
      | '\x7b' => match depth with
        | 0 => .error (cur.faultAhead .tooDeep)
        | deeper + 1 => readMembers (readValue deeper) (rest.length + 1) true [] after
      | _ => if c.isDigit then readNumber false cur else .error (cur.faultAhead .expectedValue)

theorem readValue_of_blank {cur : Cursor} (h : ∀ c ∈ cur.rest, isGap c = true) (depth : Nat) :
    readValue depth cur = .error ((skipBlanks cur).faultAhead .endInValue) := by
  have hrest : (skipBlanks cur).rest = [] := dropWhile_of_blank h
  rw [readValue]
  dsimp only
  split
  · rfl
  · next hcons =>
    rw [hrest] at hcons
    cases hcons

/-- How deep lists and objects may be nested. -/
def mostDepth : Nat := 127

/-- The line and column of a byte offset: how many line ends lie before it and how many bytes behind the last one. -/
def place (offset : Nat) : List Char → Nat → Nat → Nat → Nat × Nat
  | [], at_, line, column => (line, column + (offset - at_))
  | c :: rest, at_, line, column =>
    if offset ≤ at_ then (line, column)
    else if offset < at_ + c.utf8Size then (line, column + (offset - at_))
    else if c = '\n' then place offset rest (at_ + 1) (line + 1) 0
    else place offset rest (at_ + c.utf8Size) line (column + c.utf8Size)

/-- The error of a fault in a text. -/
def SyntaxError.ofFault (text : List Char) (e : Fault.At) : SyntaxError :=
  let (line, column) := place e.2 text 0 1 0
  { fault := e.1, line, column }

/-- Reads a text that is one value. -/
def parse (text : String) : Except SyntaxError Json :=
  let read : Except Fault.At Json := do
    let (value, cur) ← readValue mostDepth { rest := text.toList, offset := 0 }
    let cur := skipBlanks cur
    if cur.rest.isEmpty then .ok value else .error (cur.faultAhead .trailingCharacters)
  read.mapError (SyntaxError.ofFault text.toList)

/-- A blank text holds no value. -/
theorem parse_of_blank {text : String} (h : ∀ c ∈ text.toList, isGap c = true) (value : Json) :
    parse text ≠ .ok value := by
  have hread : readValue mostDepth { rest := text.toList, offset := 0 } =
      .error ((skipBlanks { rest := text.toList, offset := 0 }).faultAhead .endInValue) := readValue_of_blank h mostDepth
  unfold parse
  rw [hread]
  exact nofun

end RemoteShell.Json
