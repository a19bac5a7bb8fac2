/-!
# Percent encoding

The parts of an address are written in ASCII: every other byte, and in each part some more, stands as a percent sign
and two digits of base sixteen.

Main statements:

* `encode_of_safe`: a part that holds nothing to be encoded is written as it is.
-/

namespace RemoteShell.Url

/-- A digit of base sixteen, in upper case. -/
def upperHex (n : Nat) : Char :=
  if n < 10 then Char.ofNat (48 + n) else Char.ofNat (55 + n)

/-- The encoded form of a byte. -/
def encodeByte (b : UInt8) : List Char :=
  ['%', upperHex (b.toNat / 16), upperHex (b.toNat % 16)]

/-- Characters that are encoded in every part: controls and everything beyond ASCII. -/
def isControl (c : Char) : Bool :=
  c.toNat < 0x20 || 0x7F ≤ c.toNat

/-- Encodes the characters of a part for which `encoded` holds. -/
def encode (encoded : Char → Bool) (cs : List Char) : List Char :=
  cs.flatMap fun c => if encoded c then (String.utf8EncodeChar c).flatMap encodeByte else [c]

/-- What is encoded in a fragment. -/
def inFragment (c : Char) : Bool :=
  isControl c || " \"<>`".toList.contains c

/-- What is encoded in a path. -/
def inPath (c : Char) : Bool :=
  inFragment c || "#?\x7b\x7d".toList.contains c

/-- What is encoded in a name or a password. -/
def inUserInfo (c : Char) : Bool :=
  inPath c || "/:;=@[\\]^|".toList.contains c

/-- What is encoded in a query. -/
def inQuery (special : Bool) (c : Char) : Bool :=
  isControl c || " \"#<>".toList.contains c || (special && c == '\'')

/-- The value of a digit of base sixteen. -/
def hexDigit? (c : Char) : Option Nat :=
  if c.isDigit then some (c.toNat - 48)
  else if 'a' ≤ c && c ≤ 'f' then some (c.toNat - 87)
  else if 'A' ≤ c && c ≤ 'F' then some (c.toNat - 55)
  else none

/-- The byte of two digits of base sixteen. -/
def hexByte? (high low : Char) : Option UInt8 := do
  let h ← hexDigit? high
  let l ← hexDigit? low
  return UInt8.ofNat (h * 16 + l)

/-- The bytes of a text with its encoded bytes resolved. A percent sign without two digits stands for itself. -/
def decodeBytes : List Char → List UInt8
  | '%' :: high :: low :: rest => match hexByte? high low with
    | some b => b :: decodeBytes rest
    | none => UInt8.ofNat 37 :: decodeBytes (high :: low :: rest)
  | c :: rest => String.utf8EncodeChar c ++ decodeBytes rest
  | [] => []
termination_by cs => cs.length

/-- A text with its encoded bytes resolved; none if the bytes are no text. -/
def decode? (cs : List Char) : Option (List Char) :=
  (String.fromUTF8? ⟨(decodeBytes cs).toArray⟩).map String.toList

/-- A part that holds nothing to be encoded is written as it is. -/
theorem encode_of_safe {encoded : Char → Bool} {cs : List Char} (h : ∀ c ∈ cs, encoded c = false) :
    encode encoded cs = cs := by
  induction cs with
  | nil => rfl
  | cons c rest ih =>
    have hc := h c (by simp)
    have hrest := ih fun d hd => h d (List.mem_cons_of_mem _ hd)
    simp only [encode] at hrest
    simp [encode, hc, hrest]

end RemoteShell.Url
