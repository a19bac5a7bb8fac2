import RemoteShell.Json.Basic

/-!
# The compact text of a JSON value

A value as it is sent and as it is shown in messages: no blanks, members in the order of their keys, control characters
escaped and every other character as it is.
-/

namespace RemoteShell.Json

/-- A digit of base sixteen, in lower case. -/
def hexDigit (n : Nat) : Char :=
  if n < 10 then Char.ofNat (48 + n) else Char.ofNat (87 + n)

/-- One character between the quotes of a JSON text. -/
def escape (c : Char) : List Char :=
  match c with
  | '"' => ['\\', '"']
  | '\\' => ['\\', '\\']
  | '\n' => ['\\', 'n']
  | '\r' => ['\\', 'r']
  | '\t' => ['\\', 't']
  | '\x08' => ['\\', 'b']
  | '\x0c' => ['\\', 'f']
  | _ =>
    if c.toNat < 0x20 then ['\\', 'u', '0', '0', hexDigit (c.toNat / 16), hexDigit (c.toNat % 16)] else [c]

/-- A JSON text. -/
def writeText (text : String) : List Char :=
  '"' :: text.toList.flatMap escape ++ ['"']

/-- Numbers have a point up to sixteen places before it and five behind it, and an exponent beyond. -/
def numberLayout : Decimal.Layout :=
  { leastPlace := -5, mostPlace := 16 }

mutual

/-- The characters of a value. -/
def write : Json → List Char
  | .null => "null".toList
  | .bool flag => (if flag then "true" else "false").toList
  | .int number => Text.writeInt number
  | .real negative magnitude =>
    (if negative then ['-'] else []) ++ numberLayout.write (Decimal.shortest magnitude)
  | .str text => writeText text
  | .arr items => '[' :: writeItems items
  | .obj members => '\x7b' :: writeMembers members

/-- The items of a list and its closing bracket. -/
def writeItems : List Json → List Char
  | [] => [']']
  | [item] => write item ++ [']']
  | item :: next :: rest => write item ++ ',' :: writeItems (next :: rest)

/-- The members of an object and its closing brace. -/
def writeMembers : List (String × Json) → List Char
  | [] => ['\x7d']
  | [(key, value)] => writeText key ++ ':' :: write value ++ ['\x7d']
  | (key, value) :: next :: rest => writeText key ++ ':' :: write value ++ ',' :: writeMembers (next :: rest)

end

/-- The compact text of a value. -/
def render (value : Json) : String :=
  String.ofList (write value)

end RemoteShell.Json
