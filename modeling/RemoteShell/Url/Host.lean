import RemoteShell.Text.Fields
import RemoteShell.Text.Numeral
import RemoteShell.Url.Domain
import RemoteShell.Url.Percent

/-!
# Hosts

The host of an address is a domain name, a number of thirty-two bits in one of its many spellings, or a number of a
hundred and twenty-eight bits in brackets. Domain names are put into ASCII. A host whose last label is a number is
meant as a number as a whole.

Main statements:

* `splitGap?_eq_some`: what the gap of an address divides is the address.
-/

namespace RemoteShell.Url

/-- Why a text is no address. -/
inductive ParseError where
  | emptyHost
  | badDomainName
  | badPort
  | badIPv4
  | badIPv6
  | badHostCharacter
  | noScheme
deriving DecidableEq, Repr

/-- What is reported about a text that is no address. -/
def ParseError.message : ParseError → String
  | .emptyHost => "empty host"
  | .badDomainName => "invalid international domain name"
  | .badPort => "invalid port number"
  | .badIPv4 => "invalid IPv4 address"
  | .badIPv6 => "invalid IPv6 address"
  | .badHostCharacter => "invalid domain character"
  | .noScheme => "relative URL without a base"

/-! ## Numbers of thirty-two bits -/

/-- The base and the digits of a part of a number: hexadecimal behind `0x`, octal behind a zero, else decimal. -/
def numberBase (part : List Char) : Nat × List Char :=
  match part with
  | '0' :: 'x' :: rest => (16, rest)
  | '0' :: 'X' :: rest => (16, rest)
  | '0' :: c :: rest => (8, c :: rest)
  | _ => (10, part)

/-- The value of a part of a number, if it is one. -/
def numberPart? (part : List Char) : Option Nat := do
  if part.isEmpty then none
  else
    let (base, digits) := numberBase part
    let values ← digits.mapM fun c => (hexDigit? c).filter (· < base)
    return values.foldl (fun n d => n * base + d) 0

/-- The parts of a host between dots, without an empty last one. -/
def hostParts (host : List Char) : List (List Char) :=
  let parts := Text.fields '.' host
  if parts.getLast? = some [] then parts.dropLast else parts

/-- Whether the last label of a host is a number. -/
def endsInNumber (host : List Char) : Bool :=
  match (hostParts host).getLast? with
  | none => false
  | some last => (!last.isEmpty && last.all Char.isDigit) || (numberPart? last).isSome

/-- The number that parts stand for: the last one fills the places that the others leave. -/
def sumParts : List Nat → Option Nat
  | [] => none
  | parts =>
    let last := parts.getLastD 0
    let firsts := parts.dropLast
    if 4 < parts.length || firsts.any (255 < ·) || Nat.pow 256 (4 - firsts.length) ≤ last then none
    else some (firsts.zipIdx.foldl (fun n (part, i) => n + part * Nat.pow 256 (3 - i)) last)

/-- The number of thirty-two bits that a host stands for. -/
def parseIPv4 (host : List Char) : Except ParseError Nat :=
  match (hostParts host).mapM numberPart? |>.bind sumParts with
  | some n => .ok n
  | none => .error .badIPv4

/-- A number of thirty-two bits, as four bytes. -/
def renderIPv4 (n : Nat) : List Char :=
  Text.join ['.'] ([3, 2, 1, 0].map fun i => Text.writeNat (n / Nat.pow 256 i % 256))

/-! ## Numbers of a hundred and twenty-eight bits -/

/-- A piece of one to four digits of base sixteen. -/
def piece? (cs : List Char) : Option Nat := do
  if cs.isEmpty || 4 < cs.length then none
  else
    let digits ← cs.mapM hexDigit?
    return digits.foldl (fun n d => n * 16 + d) 0

/-- One of four bytes that stand for two pieces: up to three decimal digits without a leading zero. -/
def byte? (cs : List Char) : Option Nat :=
  if cs.head? = some '0' && 1 < cs.length then none else (Text.readNat? cs).filter (· ≤ 255)

/-- The pieces of the last part between colons, which may be four bytes between dots. -/
def lastPieces? (cs : List Char) : Option (List Nat) :=
  match (Text.fields '.' cs).mapM byte? with
  | some [a, b, c, d] => some [a * 256 + b, c * 256 + d]
  | _ => (piece? cs).map ([·])

/-- The pieces between colons. Only the last part of the whole number may be four bytes. -/
def pieces? (isLast : Bool) (cs : List Char) : Option (List Nat) :=
  if cs.isEmpty then some []
  else
    let parts := Text.fields ':' cs
    do
      let firsts ← parts.dropLast.mapM piece?
      let last ← (if isLast then lastPieces? else fun cs => (piece? cs).map ([·])) (parts.getLastD [])
      return firsts ++ last

/-- What stands before and behind the first double colon. -/
def splitGap? : List Char → Option (List Char × List Char)
  | ':' :: ':' :: rest => some ([], rest)
  | c :: rest => (splitGap? rest).map fun (before, behind) => (c :: before, behind)
  | [] => none

/-- The eight pieces of a number; a double colon stands for one or more pieces that are zero. -/
def parseIPv6 (cs : List Char) : Except ParseError (List Nat) :=
  let found : Option (List Nat) := match splitGap? cs with
    | none => (pieces? true cs).filter (·.length = 8)
    | some (before, behind) => do
      let left ← pieces? false before
      let right ← pieces? true behind
      if 7 < left.length + right.length then none
      else return left ++ List.replicate (8 - left.length - right.length) 0 ++ right
  match found with
  | some all => .ok all
  | none => .error .badIPv6

/-- A piece in base sixteen, without leading zeros. -/
def renderPiece (n : Nat) : List Char :=
  Nat.toDigits 16 n

/-- The length of the run of zeros at the front. -/
def zerosAhead (all : List Nat) : Nat :=
  (all.takeWhile (· = 0)).length

/-- The place and the length of the longest run of zeros, the first of several; a single zero is no run. -/
def longestGap (all : List Nat) : Nat × Nat :=
  (List.range all.length).foldl
    (fun (best : Nat × Nat) i =>
      let run := zerosAhead (all.drop i)
      if best.2 < run && 1 < run then (i, run) else best)
    (0, 0)

/-- Eight pieces between brackets, with the longest run of zeros left out. -/
def renderIPv6 (all : List Nat) : List Char :=
  let colons (ns : List Nat) := Text.join [':'] (ns.map renderPiece)
  match longestGap all with
  | (_, 0) => '[' :: colons all ++ [']']
  | (i, run) => '[' :: colons (all.take i) ++ [':', ':'] ++ colons (all.drop (i + run)) ++ [']']

/-! ## Hosts -/

/-- The host of an address with a known scheme, as it is written. -/
def parseHost (cs : List Char) : Except ParseError (List Char) :=
  match cs with
  | '[' :: rest =>
    if rest.getLast? = some ']' then (parseIPv6 rest.dropLast).map renderIPv6 else .error .badIPv6
  | _ => match decode? cs with
    | none => .error .badDomainName
    | some decoded => do
      let domain ← (toAscii? decoded).elim (.error .badDomainName) .ok
      if domain.isEmpty then .error .emptyHost
      else if endsInNumber domain then (parseIPv4 domain).map renderIPv4
      else .ok domain

/-- The characters that the host of an address with an unknown scheme never holds. -/
def isDeniedOpaque (c : Char) : Bool :=
  c.toNat = 0 || "\t\n\r #/:<>?@[\\]^|".toList.contains c

/-- The host of an address with an unknown scheme, as it is written. -/
def parseOpaqueHost (cs : List Char) : Except ParseError (List Char) :=
  match cs with
  | '[' :: rest =>
    if rest.getLast? = some ']' then (parseIPv6 rest.dropLast).map renderIPv6 else .error .badIPv6
  | _ => if cs.any isDeniedOpaque then .error .badHostCharacter else .ok (encode isControl cs)

/-- What the gap of an address divides is the address. -/
theorem splitGap?_eq_some {cs before behind : List Char} (h : splitGap? cs = some (before, behind)) :
    cs = before ++ ':' :: ':' :: behind := by
  fun_induction splitGap? cs generalizing before behind with
  | case1 rest =>
    cases h
    rfl
  | case2 c rest _ ih =>
    obtain ⟨⟨left, right⟩, hsplit, heq⟩ := Option.map_eq_some_iff.mp h
    cases heq
    rw [ih hsplit]
    rfl
  | case3 => cases h

end RemoteShell.Url
