import RemoteShell.Text.Composition
import RemoteShell.Text.Direction
import RemoteShell.Text.Joining
import RemoteShell.Url.DomainMap
import RemoteShell.Url.Punycode

/-!
# Domain names

A domain name is a number of labels with dots between them. It is put into plain characters first. A label beyond
ASCII is then written in ASCII with a mark in front, and a label that has the mark already has to stand for such a
label. Labels beyond ASCII start with no combining mark and hold joiners only where they mean something; if any label
runs from right to left, every label can be read in only one way.
-/

namespace RemoteShell.Url

/-- The ASCII characters that no domain name holds. -/
def isDenied (c : Char) : Bool :=
  c.toNat ≤ 0x20 || c.toNat == 0x7F || "%#/:<>?@[\\]^|".toList.contains c

/-- The mark in front of a label that was put into ASCII. -/
def asciiMark : List Char := "xn--".toList

/-- The longest label that is put into ASCII. -/
def longestLabel : Nat := 1000

/-- The longest label in ASCII that is read, without the mark. -/
def longestAsciiLabel : Nat := 2000

/-- A label of a domain name: how it reads, and how it is written in ASCII. -/
structure Label where
  text : List Char
  ascii : List Char
deriving DecidableEq, Repr

/-- Whether every character is one of ASCII. -/
def isAscii (cs : List Char) : Bool :=
  cs.all fun c => c.toNat < 0x80

/-- Whether a label beyond ASCII is one that can be used. -/
def isUsable (text : List Char) : Bool :=
  !text.head?.any Text.isMark && Text.joinersFit text

/-- The label of a text with the mark of ASCII labels in front, from behind the mark. -/
def readMarked? (rest : List Char) : Option Label := do
  let text ← if rest.length ≤ longestAsciiLabel then Punycode.decode? rest else none
  if !isAscii text && text.all isPlain && Text.composed text == text && !asciiMark.isPrefixOf text &&
      Punycode.encode text == rest && isUsable text then
    some { text, ascii := asciiMark ++ rest }
  else none

/-- The label of a text in plain characters. -/
def readLabel? (cs : List Char) : Option Label :=
  if cs.any isDenied then none
  else if asciiMark.isPrefixOf cs then readMarked? (cs.drop asciiMark.length)
  else if isAscii cs then some { text := cs, ascii := cs }
  else if isUsable cs && cs.length ≤ longestLabel then some { text := cs, ascii := asciiMark ++ Punycode.encode cs }
  else none

/-- Whether all labels of a name can be read in only one way. It matters only if one runs from right to left. -/
def areReadable (labels : List Label) : Bool :=
  !(labels.any fun l => l.text.any Text.turnsLeft) || labels.all fun l => Text.isReadable l.text

/-- A name in plain characters, in their composed spelling; nothing if it holds one that is not used in names. -/
def plainName? (cs : List Char) : Option (List Char) :=
  (cs.mapM plainForm?).map fun forms => Text.composed forms.flatten

/-- A domain name in lower case and in ASCII; nothing if it is none. -/
def toAscii? (cs : List Char) : Option (List Char) := do
  let labels ← (Text.fields '.' (← plainName? cs)).mapM readLabel?
  if areReadable labels then some (Text.join ['.'] (labels.map (·.ascii))) else none

end RemoteShell.Url
