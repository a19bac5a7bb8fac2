import RemoteShell.Yaml.Cursor

/-!
# Anchors, tags and directives

An anchor names a value so that an alias can stand for it again. A tag says what kind of value follows; it is written
in full between angle brackets, or as a suffix behind a handle that a directive has given a meaning. Octets that a tag
cannot hold are written as a percent sign and two digits.
-/

namespace RemoteShell.Yaml

/-- The text of a tag or of a part of one. Every character is an octet. -/
abbrev Octets := List Char

/-- A tag as it is written. Without a handle the suffix is the whole tag. -/
structure Tag where
  handle : Octets
  suffix : Octets
deriving DecidableEq, Repr

/-- What a handle stands for. -/
structure Handle where
  name : Octets
  meaning : Octets
deriving DecidableEq, Repr

/-- The handles that need no directive. -/
def usualHandles : List Handle :=
  [⟨['!'], ['!']⟩, ⟨['!', '!'], "tag:yaml.org,2002:".toList⟩]

/-- The whole tag, given what the handles stand for. -/
def Tag.resolve? (t : Tag) (handles : List Handle) : Option Octets :=
  if t.handle.isEmpty then some t.suffix
  else (handles.find? (·.name == t.handle)).map (·.meaning ++ t.suffix)

/-! ## Reading -/

/-- Whether a tag may hold a character as it is. Commas and brackets only where there is room for them. -/
def isUriChar (wide : Bool) (c : Char) : Bool :=
  isNameChar c || ";/?:@&=+$.!~*'()".toList.contains c || (wide && ",[]".toList.contains c)

/-- How many octets are in the sequence that an octet starts. -/
def sequenceLength? (octet : Nat) : Option Nat :=
  if octet < 0x80 then some 1
  else if octet < 0xC0 then none
  else if octet < 0xE0 then some 2
  else if octet < 0xF0 then some 3
  else if octet < 0xF8 then some 4
  else none

/-- Reads the octets of a tag, while `due` octets of a sequence are still to come, and what is behind them. -/
def readUri (wide : Bool) : Nat → List Char → Option (Octets × List Char)
  | due, '%' :: a :: b :: rest => do
    let octet := (← digit? 16 a) * 16 + (← digit? 16 b)
    let due ← if due == 0 then (sequenceLength? octet).map (· - 1)
      else if 0x80 ≤ octet && octet < 0xC0 then some (due - 1) else none
    let (octets, behind) ← readUri wide due rest
    return (Char.ofNat octet :: octets, behind)
  | due, c :: rest =>
    if due != 0 || c == '%' then none
    else if isUriChar wide c then (readUri wide 0 rest).map fun (octets, behind) => (c :: octets, behind)
    else some ([], c :: rest)
  | due, [] => if due == 0 then some ([], []) else none

/-- Octets that are at least one, up to the first that is zero. -/
def filled? (octets : Octets) : Option Octets :=
  if octets.isEmpty then none else some (octets.takeWhile (· != '\x00'))

/-- Reads a tag from behind its exclamation mark, and what is behind the tag. -/
def readTag (rest : List Char) : Option (Tag × List Char) :=
  let name := rest.takeWhile isNameChar
  match rest, rest.dropWhile isNameChar with
  | '<' :: inner, _ => do
    let (octets, behind) ← readUri true 0 inner
    let suffix ← filled? octets
    if startsWith ">" behind then some (⟨[], suffix⟩, behind.drop 1) else none
  | _, '!' :: behind => do
    let (octets, behind) ← readUri false 0 behind
    return (⟨'!' :: name ++ ['!'], ← filled? octets⟩, behind)
  | _, behind => do
    let (octets, behind) ← readUri false 0 behind
    let suffix := (name ++ octets).takeWhile (· != '\x00')
    return (if suffix.isEmpty then ⟨[], ['!']⟩ else ⟨['!'], suffix⟩, behind)

/-- Reads the name of an anchor or an alias from behind its mark, and what is behind the name. -/
def readAnchor (rest : List Char) : Option (List Char × List Char) :=
  let name := rest.takeWhile isNameChar
  let behind := rest.dropWhile isNameChar
  if !name.isEmpty && (endsWord behind || startsWith "?:,]\x7d%@\x60" behind) then some (name, behind) else none

/-! ## Directives -/

/-- A line with a percent sign in front of a document. -/
inductive Directive where
  | version (major minor : Nat)
  | handle (h : Handle)
deriving DecidableEq, Repr

/-- Reads a number of at most nine digits, and what is behind it. -/
def readVersionNumber (cs : List Char) : Option (Nat × List Char) := do
  let digits := cs.takeWhile Char.isDigit
  let n ← readDigits? 10 digits
  if digits.length ≤ 9 then some (n, cs.drop digits.length) else none

/-- Reads what stands behind the name of a version directive. -/
def readVersion (cs : List Char) : Option (Directive × List Char) := do
  let (major, behind) ← readVersionNumber (cs.dropWhile isGap)
  if startsWith "." behind then
    let (minor, behind) ← readVersionNumber (behind.drop 1)
    return (.version major minor, behind)
  else none

/-- Reads what stands behind the name of a tag directive. -/
def readHandle (cs : List Char) : Option (Directive × List Char) :=
  match cs.dropWhile isGap with
  | '!' :: rest => do
    let name := rest.takeWhile isNameChar
    let behind := rest.dropWhile isNameChar
    let closed := startsWith "!" behind
    let behind := if closed then behind.drop 1 else behind
    if (closed || name.isEmpty) && startsWith " \t" behind then
      let (octets, behind) ← readUri true 0 (behind.dropWhile isGap)
      let meaning ← filled? octets
      if endsWord behind then
        return (.handle ⟨'!' :: name ++ (if closed then ['!'] else []), meaning⟩, behind)
      else none
    else none
  | _ => none

/-- Reads a directive from behind its percent sign, and what is behind it on its line. -/
def readDirective (cs : List Char) : Option (Directive × List Char) :=
  let name := cs.takeWhile isNameChar
  let behind := cs.dropWhile isNameChar
  if !endsWord behind then none
  else if name == "YAML".toList then readVersion behind
  else if name == "TAG".toList then readHandle behind
  else none

end RemoteShell.Yaml
