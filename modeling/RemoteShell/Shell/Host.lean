import RemoteShell.Shell.Settle

/-!
# Running the shell

Commands given in advance are run one after the other, each to its end, with paging off. Lines that come from the input
are run as they come, with the prompt in front of each. Both stop when the user asks to leave.
-/

namespace RemoteShell

/-- Output as it is printed, one line each. -/
def printed (style : Style) (lines : List OutputLine) : String :=
  String.join (lines.map fun line => line.styled style ++ "\n")

/-- What a run printed, the state of the service after it, and whether it came to its end. A run that waits for an
answer that never comes does not. -/
structure BatchRun (σ : Type) where
  stdout : String
  world : σ
  finished : Bool

namespace Shell

variable {σ : Type} (service : Service σ)

/-- Takes the output as text. -/
def flush (s : Shell) : Shell × String :=
  let (next, lines) := s.drain
  (next, printed s.console.style lines)

/-! ## Commands given in advance -/

/-- Ends a run: what still owns the input is interrupted. -/
def runEnd (s : Shell) (world : σ) (stdout : String) : BatchRun σ :=
  let (s, world) := settle service s.interrupt world
  if s.isStuck then { stdout, world, finished := false }
  else { stdout := stdout ++ s.flush.2, world, finished := true }

/-- Runs commands one after the other, given what has been printed so far. -/
def runCommands (s : Shell) (world : σ) (stdout : String) : List String → BatchRun σ
  | [] => runEnd service s world stdout
  | line :: rest =>
    let (s, world) := settle service (s.submit line) world
    if s.isStuck then { stdout, world, finished := false }
    else
      let (s, text) := s.flush
      if s.session.exiting then runEnd service s world (stdout ++ text)
      else runCommands s world (stdout ++ text) rest

/-- Runs commands given in advance. -/
def runBatch (s : Shell) (world : σ) (commands : List String) : BatchRun σ :=
  runCommands service (s.perform (.setPaging false)) world "" commands

/-! ## Lines of input -/

/-- Runs a line of input; says what is printed, and how it goes on unless the user asked to leave. -/
def takeLine (s : Shell) (world : σ) (line : String) : String × Option (Shell × σ) :=
  let (s, text) := (s.submit line).flush
  if s.session.exiting then (text, none)
  else
    let (s, world) := settle service s world
    let (s, later) := s.flush
    (text ++ later, some (s, world))

/-- What is printed while lines of input are run, prompts included. -/
def runLines (s : Shell) (world : σ) : List String → String
  | [] => s.console.promptText
  | line :: rest =>
    match takeLine service s world line with
    | (text, none) => s.console.promptText ++ text
    | (text, some (next, world)) => s.console.promptText ++ text ++ runLines next world rest

end Shell

end RemoteShell
