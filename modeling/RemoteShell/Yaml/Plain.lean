import RemoteShell.Yaml.Gap

/-!
# Plain scalars

A scalar without quotes goes on over as many lines as are indented deeply enough. It ends at a colon with a blank
behind it, at a comment, at the mark of a document, and between braces also at a comma or a bracket.

Main statements:

* `plainWord_append`: a word is cut off the front of what is left.
-/

namespace RemoteShell.Yaml

/-- Whether a plain scalar starts with a character, given what is behind it. -/
def startsPlain (flow : Bool) (c : Char) (rest : List Char) : Bool :=
  if c == '-' then !startsWith " \t" rest
  else if c == '?' || c == ':' then !flow && !endsWord rest
  else !(isGap c || isBreak c || isFlowMark c || "#&*!|>'\"%@\x60".toList.contains c)

/-- The word of a plain scalar that starts here, and what is behind it. Nothing if, between braces, a colon stands
directly before a mark. -/
def plainWord (flow : Bool) : List Char → Option (List Char × List Char)
  | [] => some ([], [])
  | c :: rest =>
    if isGap c || isBreak c then some ([], c :: rest)
    else if flow && c == ':' && startsWith ",?[]\x7b\x7d" rest then none
    else if (c == ':' && endsWord rest) || (flow && isFlowMark c) then some ([], c :: rest)
    else (plainWord flow rest).map fun (word, behind) => (c :: word, behind)

/-- A plain scalar that was read. -/
structure PlainRun where
  text : List Char
  /-- Whether a line break was passed behind its last word. -/
  broken : Bool
  cursor : Cursor
deriving DecidableEq, Repr

/-- Reads a plain scalar on, given what it holds so far and the gap behind that. Each round takes a word, so that the
number of characters bounds the rounds. -/
def readPlainFrom (flow : Bool) (indent : Nat) : Nat → Cursor → List Char → Gap → Option PlainRun
  | 0, _, _, _ => none
  | fuel + 1, cursor, text, gap =>
    if cursor.isAtDocumentMark || startsWith "#" cursor.rest then some { text, broken := gap.isBroken, cursor }
    else do
      let (word, behind) ← plainWord flow cursor.rest
      let text := if word.isEmpty then text else text ++ gap.text ++ word
      let gap := if word.isEmpty then gap else .blanks []
      let next := cursor.moveTo behind
      if behind.isEmpty || !endsWord behind then some { text, broken := gap.isBroken, cursor := next }
      else
        let (gap, next) ← gap.read indent behind next.place
        if !flow && next.column < indent then some { text, broken := gap.isBroken, cursor := next }
        else readPlainFrom flow indent fuel next text gap

/-- Reads the plain scalar that starts here. Its lines are indented by at least `indent`. -/
def readPlain (flow : Bool) (indent : Nat) (cursor : Cursor) : Option PlainRun :=
  readPlainFrom flow indent (cursor.rest.length + 1) cursor [] (.blanks [])

/-- A word is cut off the front of what is left. -/
theorem plainWord_append {flow : Bool} {cs word behind : List Char} (h : plainWord flow cs = some (word, behind)) :
    word ++ behind = cs := by
  fun_induction plainWord flow cs generalizing word behind with
  | case1 =>
    cases h
    rfl
  | case2 =>
    cases h
    rfl
  | case3 => cases h
  | case4 =>
    cases h
    rfl
  | case5 c rest _ _ _ ih =>
    obtain ⟨⟨left, right⟩, hleft, heq⟩ := Option.map_eq_some_iff.mp h
    cases heq
    rw [List.cons_append, ih hleft]

end RemoteShell.Yaml
