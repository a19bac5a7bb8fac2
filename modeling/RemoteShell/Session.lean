import RemoteShell.Path

/-!
# The session

What outlives a line: the working folder, the folders remembered to go back to, the home folder, and whether the user
has asked to leave.

Main statements:

* `back_foldl_enter_push`: going back undoes that a folder was remembered, whatever folders were entered meanwhile.
-/

namespace RemoteShell

/-- The folders of a session, and whether it is to end. -/
structure Session where
  cwd : String
  /-- The folders remembered, the last one first. -/
  remembered : List String := []
  home : String
  exiting : Bool := false
deriving DecidableEq, Repr

namespace Session

/-- A session in its home folder. -/
def new (home : String) : Session :=
  { cwd := Path.resolve "/" home, home := Path.resolve "/" home }

/-- Makes a folder the working folder. -/
def enter (s : Session) (folder : String) : Session :=
  { s with cwd := folder }

/-- Remembers the working folder. -/
def push (s : Session) : Session :=
  { s with remembered := s.cwd :: s.remembered }

/-- Goes back to the folder remembered last, if there is one, and forgets it. -/
def back (s : Session) : Session :=
  match s.remembered with
  | [] => s
  | folder :: rest => { s with cwd := folder, remembered := rest }

/-- Asks for the end of the session. -/
def exit (s : Session) : Session :=
  { s with exiting := true }

/-- The working folder and the remembered ones, on one line. -/
def folders (s : Session) : String :=
  " ".intercalate (s.cwd :: s.remembered)

theorem back_foldl_enter {s : Session} {folder : String} {rest : List String} (h : s.remembered = folder :: rest)
    (entered : List String) : (entered.foldl enter s).back = { s with cwd := folder, remembered := rest } := by
  induction entered generalizing s with
  | nil =>
    rw [List.foldl_nil, back, h]
  | cons first others ih =>
    have hrest : (s.enter first).remembered = folder :: rest := h
    exact ih hrest

/-- **Going back undoes that a folder was remembered,** whatever folders were entered meanwhile. -/
theorem back_foldl_enter_push (s : Session) (entered : List String) : (entered.foldl enter s.push).back = s :=
  back_foldl_enter rfl entered

end Session

end RemoteShell
