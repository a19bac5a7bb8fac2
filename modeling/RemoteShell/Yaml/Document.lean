import RemoteShell.Yaml.Token

/-!
# Documents

A text holds at most one document, and a document holds one mapping from scalars to scalars, or nothing. Directives
and the mark at the start stand in front of it, marks at the end behind it. A name or a value that is left out is an
empty scalar.

A value may be anchored, and an alias stands for the value with its anchor. Anchors are numbered by how many names
there are when they are set, so an anchor that is set again and the next new one share a number; an alias means the
last value with the number that its name has where the alias stands.

Main statements:

* `number_of_set`: an alias has the number of the anchor set last.
-/

namespace RemoteShell.Yaml

/-- A name or a value as it is written: a scalar or an alias. -/
inductive Node where
  | scalar (anchor : Option (List Char)) (s : Scalar)
  | alias (name : List Char)
deriving DecidableEq, Repr

/-- What is left out. -/
def Node.left : Node :=
  .scalar none .left

/-- What a document holds: entries, with the anchor of the mapping; or nothing. -/
inductive Content where
  | nothing
  | mapping (anchor : Option (List Char)) (entries : List (Node × Node))
deriving DecidableEq, Repr

/-! ## From tokens to nodes -/

/-- What stands in front of a value. -/
structure Properties where
  anchor : Option (List Char) := none
  tag : Option Octets := none
deriving DecidableEq, Repr

/-- Whether nothing stands in front of a value. -/
def Properties.isEmpty (p : Properties) : Bool :=
  p.anchor.isNone && p.tag.isNone

/-- Reads an anchor and a tag, in either order, and what is behind them. -/
def readProperties (handles : List Handle) (ts : List Token) : Option (Properties × List Token) :=
  match ts with
  | .anchor name :: .tag t :: rest => do return ({ anchor := some name, tag := some (← t.resolve? handles) }, rest)
  | .anchor name :: rest => some ({ anchor := some name }, rest)
  | .tag t :: .anchor name :: rest => do return ({ anchor := some name, tag := some (← t.resolve? handles) }, rest)
  | .tag t :: rest => do return ({ tag := some (← t.resolve? handles) }, rest)
  | _ => some ({}, ts)

/-- Reads a name or a value, and what is behind it. -/
def readNode (handles : List Handle) (ts : List Token) : Option (Node × List Token) :=
  match ts with
  | .alias name :: rest => some (.alias name, rest)
  | _ => do
    let (p, rest) ← readProperties handles ts
    match rest with
    | .scalar style text :: rest => return (.scalar p.anchor { style, text, tag := p.tag }, rest)
    | _ => if p.isEmpty then none else return (.scalar p.anchor { Scalar.left with tag := p.tag }, rest)

/-- Reads a name or a value unless one of some tokens shows that it is left out. -/
def readOptionalNode (handles : List Handle) (stops : List Token) (ts : List Token) : Option (Node × List Token) :=
  match ts with
  | [] => none
  | t :: _ => if stops.contains t then some (.left, ts) else readNode handles ts

/-! ## Mappings -/

/-- The tokens that show that a name or a value is left out, where each name has its line. -/
def blockStops : List Token :=
  [.key, .value, .blockEnd]

/-- Reads the entries of a mapping with a name to a line, and what is behind it. Each round takes a token. -/
def readBlockEntries (handles : List Handle) : Nat → List Token → Option (List (Node × Node) × List Token)
  | 0, _ => none
  | fuel + 1, .key :: rest => do
    let (key, rest) ← readOptionalNode handles blockStops rest
    let (value, rest) ← match rest with
      | .value :: rest => readOptionalNode handles blockStops rest
      | _ => some (.left, rest)
    let (others, rest) ← readBlockEntries handles fuel rest
    return ((key, value) :: others, rest)
  | _, .blockEnd :: rest => some ([], rest)
  | _, _ => none

/-- Reads an entry between braces, and what is behind it. A name may stand there alone. -/
def readFlowEntry (handles : List Handle) (ts : List Token) : Option ((Node × Node) × List Token) :=
  match ts with
  | .key :: rest => do
    let (key, rest) ← readOptionalNode handles [.value, .flowEntry, .flowEnd] rest
    let (value, rest) ← match rest with
      | .value :: rest => readOptionalNode handles [.flowEntry, .flowEnd] rest
      | _ => some (.left, rest)
    return ((key, value), rest)
  | _ => do
    let (key, rest) ← readNode handles ts
    return ((key, .left), rest)

/-- Reads the entries of a mapping between braces, and what is behind it. Each round takes a token. -/
def readFlowEntries (handles : List Handle) : Nat → List Token → Option (List (Node × Node) × List Token)
  | 0, _ => none
  | _, .flowEnd :: rest => some ([], rest)
  | fuel + 1, ts => do
    let (entry, rest) ← readFlowEntry handles ts
    let (others, rest) ← match rest with
      | .flowEntry :: rest => readFlowEntries handles fuel rest
      | .flowEnd :: rest => some ([], rest)
      | _ => none
    return (entry :: others, rest)

/-! ## Documents -/

/-- Reads what a document holds, and what is behind it. -/
def readContent (handles : List Handle) (ts : List Token) : Option (Content × List Token) := do
  let (p, rest) ← readProperties handles ts
  match rest with
  | .blockStart :: inner => do
    let (entries, behind) ← readBlockEntries handles inner.length inner
    return (.mapping p.anchor entries, behind)
  | .flowStart :: inner => do
    let (entries, behind) ← readFlowEntries handles inner.length inner
    return (.mapping p.anchor entries, behind)
  | .scalar style text :: behind => if style == .plain && text.isEmpty then some (.nothing, behind) else none
  | _ => if p.isEmpty then none else some (.nothing, rest)

/-- The handles that some directives give; nothing if a handle or the version is given twice, or if the version is
none that can be read. -/
def handlesOf (directives : List Directive) : Option (List Handle) :=
  let handles := directives.filterMap fun
    | .handle h => some h
    | .version _ _ => none
  let versions := directives.filterMap fun
    | .handle _ => none
    | .version major minor => some (major, minor)
  if (handles.map (·.name)).Nodup ∧ versions.length ≤ 1 ∧ versions.all (fun v => v == (1, 1) || v == (1, 2)) then
    some (handles ++ usualHandles)
  else none

/-- The directives in front, and what is behind them. -/
def splitDirectives : List Token → List Directive × List Token
  | .directive d :: rest =>
    let (directives, behind) := splitDirectives rest
    (d :: directives, behind)
  | ts => ([], ts)

/-- Whether a document that was announced is empty. -/
def endsDocument (ts : List Token) : Bool :=
  match ts with
  | [] => true
  | .documentStart :: _ => true
  | .documentEnd :: _ => true
  | .directive _ :: _ => true
  | _ => false

/-- Reads the document that some tokens start with, and what is behind it. -/
def readDocument (ts : List Token) : Option (Content × List Token) :=
  match splitDirectives ts with
  | (directives, .documentStart :: rest) => do
    let handles ← handlesOf directives
    if endsDocument rest then some (.nothing, rest) else readContent handles rest
  | ([], []) => some (.nothing, [])
  | ([], ts) => readContent usualHandles ts
  | _ => none

/-- What the only document holds. -/
def contentOf (ts : List Token) : Option Content := do
  let (content, rest) ← readDocument ts
  if rest.all (· == .documentEnd) then some content else none

/-! ## Aliases -/

/-- A name and its value. -/
structure Entry where
  key : Scalar
  value : Scalar
deriving DecidableEq, Repr

/-- What a node is before all anchors are known: a scalar, or the number of an anchor. -/
inductive Reference where
  | scalar (s : Scalar)
  | anchored (number : Nat)
deriving DecidableEq, Repr

/-- The anchors that have been set. -/
structure Anchors where
  /-- The number of each name. -/
  numbers : List (List Char × Nat) := []
  /-- What is anchored under each number, the last first; nothing stands for a mapping. -/
  targets : List (Nat × Option Scalar) := []
deriving DecidableEq, Repr

namespace Anchors

/-- The number of a name. -/
def number? (a : Anchors) (name : List Char) : Option Nat :=
  (a.numbers.find? (·.1 == name)).map (·.2)

/-- Sets an anchor. -/
def set (a : Anchors) (name : List Char) (target : Option Scalar) : Anchors :=
  let number := a.numbers.length
  { numbers := (name, number) :: a.numbers.filter (·.1 != name), targets := (number, target) :: a.targets }

/-- Sets an anchor if there is one. -/
def setIf (a : Anchors) (name : Option (List Char)) (target : Option Scalar) : Anchors :=
  match name with
  | some name => a.set name target
  | none => a

/-- Notes a node; nothing if it is an alias for what has not been anchored. -/
def note (a : Anchors) : Node → Option (Reference × Anchors)
  | .scalar anchor s => some (.scalar s, a.setIf anchor (some s))
  | .alias name => (a.number? name).map fun n => (.anchored n, a)

/-- Notes the nodes of a mapping in order. -/
def noteAll (a : Anchors) : List (Node × Node) → Option (List (Reference × Reference) × Anchors)
  | [] => some ([], a)
  | (key, value) :: rest => do
    let (key, a) ← a.note key
    let (value, a) ← a.note value
    let (others, a) ← a.noteAll rest
    return ((key, value) :: others, a)

/-- The scalar that is meant; nothing if it is a mapping. -/
def meaning? (a : Anchors) : Reference → Option Scalar
  | .scalar s => some s
  | .anchored n => (a.targets.find? (·.1 == n)).bind (·.2)

/-- An alias has the number of the anchor set last. -/
theorem number_of_set (a : Anchors) (name : List Char) (target : Option Scalar) :
    (a.set name target).number? name = some a.numbers.length := by
  simp [set, number?]

end Anchors

/-- The entries of what a document holds. -/
def Content.entries? : Content → Option (List Entry)
  | .nothing => some []
  | .mapping anchor nodes => do
    let (references, anchors) ← (({} : Anchors).setIf anchor none).noteAll nodes
    references.mapM fun (key, value) => do
      return { key := ← anchors.meaning? key, value := ← anchors.meaning? value }

/-- The entries of a settings file; nothing if it is none. -/
def read (text : String) : Option (List Entry) :=
  let cs := text.toList
  if cs.all isAllowed then do (← contentOf (← readTokens cs)).entries? else none

end RemoteShell.Yaml
