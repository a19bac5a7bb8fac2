import RemoteShell.Shell.Settle

/-!
# Scripted services

A script is a service whose answers are prepared, in a queue for each operation. An answer can be held back under a
label until the label is released, and a call can be left without an answer for good. Calls are logged in the order in
which they are made. On a script, a whole session can be rehearsed step by step.

Main statements:

* `answer_log`: every call is logged.
* `release_twice`: releasing a label for the second time does nothing.
-/

namespace RemoteShell

/-- A prepared answer. -/
structure ScriptEntry where
  op : String
  /-- What the call comes to; nothing if it is never answered. -/
  outcome : Option Outcome
  /-- The label under which the answer is held back. -/
  hold : Option String := none

/-- An answer held back for a call that has been made. -/
structure HeldAnswer where
  label : String
  ticket : Nat
  outcome : Outcome

/-- A service with prepared answers. -/
structure Script where
  entries : List ScriptEntry
  /-- The labels released so far. -/
  released : List String := []
  held : List HeldAnswer := []
  log : List Call := []

namespace Script

/-- What a call without a prepared answer comes to. -/
def unprepared (op : String) : Outcome :=
  .error (.status 404 ("no scripted reply for " ++ op))

/-- Gives a prepared answer, or holds it back. -/
def give (s : Script) (ticket : Nat) (entry : ScriptEntry) : Option Outcome × Script :=
  match entry.outcome, entry.hold with
  | some outcome, some label =>
    if s.released.contains label then (some outcome, s)
    else (none, { s with held := s.held ++ [{ label, ticket, outcome }] })
  | outcome, _ => (outcome, s)

/-- Answers a call with the next answer prepared for its operation. -/
def answer : Service Script := fun ticket call s =>
  let logged := { s with log := s.log ++ [call] }
  match s.entries.find? (·.op == call.op) with
  | none => (some (unprepared call.op), logged)
  | some entry => give { logged with entries := s.entries.eraseP (·.op == call.op) } ticket entry

/-- Releases a label: the answers held back under it, with the numbers of their calls. -/
def release (s : Script) (label : String) : Script × List (Nat × Outcome) :=
  if s.released.contains label then (s, [])
  else
    ({ s with released := label :: s.released, held := s.held.filter (·.label != label) },
      (s.held.filter (·.label == label)).map fun h => (h.ticket, h.outcome))

/-- Takes the calls logged so far. -/
def takeLog (s : Script) : Script × List Call :=
  ({ s with log := [] }, s.log)

/-- Every call is logged. -/
theorem answer_log (ticket : Nat) (call : Call) (s : Script) : (answer ticket call s).2.log = s.log ++ [call] := by
  unfold answer
  dsimp only
  split
  · rfl
  · unfold give
    split
    · split <;> rfl
    · rfl

/-- Releasing a label for the second time does nothing. -/
theorem release_twice (s : Script) (label : String) :
    (s.release label).1.release label = ((s.release label).1, []) := by
  have hreleased : (s.release label).1.released.contains label = true := by
    unfold release
    split
    · next h => exact h
    · simp
  exact if_pos hreleased

end Script

/-! ## Rehearsals -/

/-- A shell on a script. -/
structure Rehearsal where
  shell : Shell
  script : Script

/-- What can be seen of a rehearsal after a step. -/
structure Snapshot where
  /-- The output since the last step. -/
  output : List OutputLine
  prompt : String
  pending : Bool
  paging : Bool
  /-- The pager holds lines. -/
  pagerActive : Bool
  /-- A chain of questions is open. -/
  readerActive : Bool
  cwd : String
  /-- The folders remembered, the first one first. -/
  remembered : List String
  exiting : Bool
  /-- The calls since the last step. -/
  calls : List Call
  /-- The completions answered since the last step. -/
  completed : List (Nat × Completion)

namespace Rehearsal

/-- Carries every ready job on. -/
def settle (r : Rehearsal) : Rehearsal :=
  let (shell, script) := r.shell.settle Script.answer r.script
  { shell, script }

/-- Gives the shell a line. -/
def submit (r : Rehearsal) (line : String) : Rehearsal :=
  { r with shell := r.shell.submit line }

/-- Asks for a completion. -/
def complete (r : Rehearsal) (line : String) (pos : Nat) : Rehearsal :=
  { r with shell := r.shell.complete line pos }

/-- Interrupts what owns the input. -/
def interrupt (r : Rehearsal) : Rehearsal :=
  { r with shell := r.shell.interrupt }

/-- Lets the answers come that are held back under a label. -/
def deliver (r : Rehearsal) (label : String) : Rehearsal :=
  let (script, answers) := r.script.release label
  { shell := answers.foldl (fun shell (ticket, outcome) => shell.deliver ticket outcome) r.shell, script }

/-- Carries ready jobs on until one ends; says whether one did. -/
def next (r : Rehearsal) : Rehearsal × Bool :=
  let turn := r.shell.next Script.answer r.script
  ({ shell := turn.shell, script := turn.world }, turn.ended)

/-- What can be seen now. Output, calls and completions are shown once. -/
def snapshot (r : Rehearsal) : Rehearsal × Snapshot :=
  let (shell, output) := r.shell.drain
  let (shell, completed) := shell.takeCompleted
  let (script, calls) := r.script.takeLog
  ({ shell, script },
    { output, prompt := shell.console.promptText, pending := shell.hasPending, paging := shell.console.paging
      pagerActive := shell.isPaging, readerActive := shell.isAsking, cwd := shell.session.cwd
      remembered := shell.session.remembered.reverse, exiting := shell.session.exiting, calls, completed })

end Rehearsal

end RemoteShell
