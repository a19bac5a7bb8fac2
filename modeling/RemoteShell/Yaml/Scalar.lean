import RemoteShell.Text.Numeral
import RemoteShell.Yaml.Tag

/-!
# Scalars

What a scalar stands for. A plain one may be a number, a truth value or nothing at all; a literal block is a number or
a truth value if its tag says so. Whatever is written is a text, unless it stands for nothing. A tag keeps a plain
scalar from standing for nothing, but for the tag that says it does.
-/

namespace RemoteShell.Yaml

/-- How a scalar is written. -/
inductive ScalarStyle where
  | plain
  | quoted
  | literal
  | folded
deriving DecidableEq, Repr

/-- A scalar. -/
structure Scalar where
  style : ScalarStyle
  text : List Char
  tag : Option Octets := none
deriving DecidableEq, Repr

namespace Scalar

/-- The scalar that is written by leaving it out. -/
def left : Scalar where
  style := .plain
  text := []

/-- The tag of a kind of values. -/
def standardTag (kind : String) : Octets :=
  ("tag:yaml.org,2002:" ++ kind).toList

/-- Whether a text is a word for nothing. -/
def isNullWord (text : List Char) : Bool :=
  ["~", "null", "Null", "NULL"].contains (String.ofList text)

/-- Whether a scalar stands for nothing. No answer if it is tagged to do so and does not. -/
def isNull? (s : Scalar) : Option Bool :=
  if s.style != .plain then some false
  else match s.tag with
    | none => some (s.text.isEmpty || isNullWord s.text)
    | some tag => if tag == standardTag "null" then (if isNullWord s.text then some true else none) else some false

/-- An optional value; the outer result is nothing if there is no such value. -/
def optional? {α : Type} (s : Scalar) (value : Option α) : Option (Option α) :=
  match s.isNull? with
  | none => none
  | some true => some none
  | some false => value.map some

/-- Whether a scalar may be a value of a kind other than a text. -/
def mayBe (s : Scalar) (kind : String) : Bool :=
  match s.style with
  | .plain => true
  | .literal => s.tag == some (standardTag kind)
  | _ => false

/-- Digits with a zero in front, which are no number. -/
def isPaddedNumber (cs : List Char) : Bool :=
  match cs with
  | '0' :: next :: rest => (next :: rest).all Char.isDigit
  | _ => false

/-- The number that a text stands for: in base ten, or with a mark in front in base sixteen, eight or two. -/
def readNat? (cs : List Char) : Option Nat :=
  let unsigned := match cs with
    | '+' :: rest => rest
    | _ => cs
  let marked := match unsigned with
    | '0' :: 'x' :: rest => readDigits? 16 rest
    | '0' :: 'o' :: rest => readDigits? 8 rest
    | '0' :: 'b' :: rest => readDigits? 2 rest
    | _ => none
  match marked with
  | some n => some n
  | none => if isPaddedNumber unsigned then none else readDigits? 10 unsigned

/-- An optional text. -/
def text? (s : Scalar) : Option (Option String) :=
  s.optional? (some (String.ofList s.text))

/-- An optional number of sixty-four bits without sign. -/
def nat? (s : Scalar) : Option (Option Nat) :=
  s.optional? (if s.mayBe "int" then (readNat? s.text).filter (· ≤ Text.maxUInt64) else none)

/-- The truth value that a text stands for. -/
def readBool? (cs : List Char) : Option Bool :=
  let word := String.ofList cs
  if ["true", "True", "TRUE"].contains word then some true
  else if ["false", "False", "FALSE"].contains word then some false
  else none

/-- An optional truth value. -/
def bool? (s : Scalar) : Option (Option Bool) :=
  s.optional? (if s.mayBe "bool" then readBool? s.text else none)

end Scalar

end RemoteShell.Yaml
