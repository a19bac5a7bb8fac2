import RemoteShell.Yaml.Cursor

/-!
# Gaps within a scalar

Between two words of a scalar stand spaces and tabs, or line breaks. Spaces are kept as they are. Blanks around line
breaks are dropped, and the breaks are folded: a single one becomes a space, and of more the first is left out.

Main statements:

* `size_read`: the place behind a gap counts the characters passed.
-/

namespace RemoteShell.Yaml

/-- What stands between two words. -/
inductive Gap where
  /-- Spaces and tabs on one line. -/
  | blanks (cs : List Char)
  /-- Line breaks: the first, unless a backslash has taken it away, and the others. -/
  | breaks (first : Option Char) (others : List Char)
deriving DecidableEq, Repr

namespace Gap

/-- Whether there is a line break in a gap. -/
def isBroken : Gap → Bool
  | .blanks _ => false
  | .breaks _ _ => true

/-- A gap with one more space or tab. -/
def addBlank (g : Gap) (c : Char) : Gap :=
  match g with
  | .blanks cs => .blanks (cs ++ [c])
  | .breaks first others => .breaks first others

/-- A gap with one more line break. -/
def addBreak (g : Gap) (c : Char) : Gap :=
  match g with
  | .blanks _ => .breaks (some (keptBreak c)) []
  | .breaks first others => .breaks first (others ++ [keptBreak c])

/-- What a gap adds to the text. -/
def text : Gap → List Char
  | .blanks cs => cs
  | .breaks none others => others
  | .breaks (some first) others =>
    if first == '\n' then (if others.isEmpty then [' '] else others) else first :: others

/-- Reads on over blanks and line breaks; nothing if a tab stands where only spaces indent a line. -/
def read (indent : Nat) : List Char → Place → Gap → Option (Gap × Cursor)
  | [], place, g => some (g, { place, rest := [] })
  | '\r' :: '\n' :: rest, place, g => read indent rest (place.nextLine 2) (g.addBreak '\n')
  | c :: rest, place, g =>
    if isBreak c then read indent rest (place.nextLine 1) (g.addBreak c)
    else if isGap c then
      if g.isBroken && place.column < indent && c == '\t' then none
      else read indent rest (place.along 1) (g.addBlank c)
    else some (g, { place, rest := c :: rest })

/-- The place behind a gap counts the characters passed. -/
theorem size_read {indent : Nat} {cs : List Char} {place : Place} {g gap : Gap} {next : Cursor}
    (h : read indent cs place g = some (gap, next)) : next.size = place.index + cs.length := by
  fun_induction read indent cs place g with
  | case1 place g =>
    cases h
    rfl
  | case2 rest place g ih =>
    rw [ih h]
    simp only [Place.nextLine, List.length_cons]
    omega
  | case3 c rest place g _ _ ih =>
    rw [ih h]
    simp only [Place.nextLine, List.length_cons]
    omega
  | case4 => cases h
  | case5 c rest place g _ _ _ _ ih =>
    rw [ih h]
    simp only [Place.along, List.length_cons]
    omega
  | case6 =>
    cases h
    rfl

end Gap

end RemoteShell.Yaml
