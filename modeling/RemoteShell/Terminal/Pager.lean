import RemoteShell.Text.Blank

/-!
# The pager

Long output is shown one screen at a time. The pager holds the lines that have not been shown yet; as long as there are
any, the lines that the user types are keys for it. The cancel key drops what is held, every other key shows the next
screen. Output that comes while lines are held is held too.

Main statements:

* `page_conserves`, `nextScreen_conserves`: what is shown and what is held afterwards are the lines held before and the
  new ones, in order.
* `nextScreen_length_le`: a screen is never longer than the terminal.
-/

namespace RemoteShell

/-- The rows of a screen, whether paging is on, and the lines still to be shown. -/
structure Pager where
  rows : Nat
  enabled : Bool
  held : List String := []
  rows_pos : 0 < rows
deriving DecidableEq

namespace Pager

/-- A pager that holds nothing. A screen has at least one row. -/
def new (rows : Nat) (enabled : Bool) : Pager :=
  { rows := max rows 1, enabled, rows_pos := by omega }

/-- The key that drops what is held. -/
def cancelKey : String := "q"

/-- The prompt while lines are held. -/
def morePrompt : String := "-- more --"

/-- Whether lines are held. -/
def isActive (p : Pager) : Bool :=
  !p.held.isEmpty

/-- Turns paging on or off. Lines that are held stay so. -/
def setEnabled (p : Pager) (enabled : Bool) : Pager :=
  { p with enabled }

/-- Shows the next screen. -/
def nextScreen (p : Pager) : Pager × List String :=
  ({ p with held := p.held.drop p.rows }, p.held.take p.rows)

/-- Takes output in and shows what is to be shown at once: everything if it fits one screen or paging is off, else the
first screen, and nothing while lines are held. -/
def page (p : Pager) (lines : List String) : Pager × List String :=
  if p.isActive then ({ p with held := p.held ++ lines }, [])
  else if !p.enabled || lines.length ≤ p.rows then (p, lines)
  else nextScreen { p with held := lines }

/-- Drops what is held. -/
def cancel (p : Pager) : Pager :=
  { p with held := [] }

/-- Takes a key and shows what it asks for. -/
def key (p : Pager) (line : String) : Pager × List String :=
  if !p.isActive then (p, [])
  else if Text.trimmed line == cancelKey then (p.cancel, [])
  else p.nextScreen

/-- A screen and what is held behind it are what was held before it. -/
theorem nextScreen_conserves (p : Pager) : p.nextScreen.2 ++ p.nextScreen.1.held = p.held :=
  List.take_append_drop p.rows p.held

/-- A screen is never longer than the terminal. -/
theorem nextScreen_length_le (p : Pager) : p.nextScreen.2.length ≤ p.rows := by
  simp only [nextScreen, List.length_take]
  omega

/-- **Output is neither lost nor reordered.** -/
theorem page_conserves (p : Pager) (lines : List String) : (p.page lines).2 ++ (p.page lines).1.held = p.held ++ lines := by
  unfold page
  split
  · simp
  · next hidle =>
    have hheld : p.held = [] := by simpa [isActive] using hidle
    split
    · simp [hheld]
    · simp [nextScreen, hheld]

end Pager

end RemoteShell
