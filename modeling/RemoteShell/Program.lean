import RemoteShell.Commands.Table
import RemoteShell.Layout.Style
import RemoteShell.Service.Http
import RemoteShell.Settings.CommandLine
import RemoteShell.Shell.Host

/-!
# The program

From the command line and the environment to a shell, and from there to what is printed. Everything that the program
decides is decided here; reading and writing are left to its outer layer.

Main statements:

* `offline_error`: without a network every call fails.
-/

namespace RemoteShell.Program

/-- What the program ends with: its exit code and what it printed. -/
structure Exit where
  code : Nat
  stdout : String := ""
  stderr : String := ""
deriving DecidableEq, Repr

/-- What the program looks at before it starts. -/
structure Environment where
  /-- The address of the service. -/
  server : Option String := none
  /-- The path of the settings file. -/
  config : Option String := none
  /-- The text of a file, or why it cannot be read. -/
  fileText : String → Except String String
  style : Style

/-- A program that is ready to run. -/
structure Launch where
  server : Url
  shell : Shell
  /-- The commands given in advance. -/
  commands : List String

/-- The line that names the version. -/
def version : String := "fsterm 0.1.0\n"

/-- The lines that explain the command line. -/
def usage : String :=
  "Usage: fsterm [OPTIONS]\n\nOptions:\n" ++
  "  -v, --verbose           Increase verbosity (-v, -vv)\n" ++
  "  -q, --quiet             Silence all non-error logging\n" ++
  "  -s, --server <URL>      Service base URL (http or https)\n" ++
  "      --config <PATH>     YAML settings file [env: FSTERM_CONFIG]\n" ++
  "      --rows <N>          Lines per pager screen\n" ++
  "      --no-pager          Print long output without pausing\n" ++
  "      --prompt <TEXT>     Prompt text\n" ++
  "      --home <PATH>       Starting working directory\n" ++
  "  -c, --command <LINE>    Run a command line and exit (repeatable, run in order)\n" ++
  "  -h, --help              Print help\n" ++
  "  -V, --version           Print version\n"

/-- What the program ends with if it runs nothing. -/
def refuse : UsageError → Exit
  | .help => { code := 0, stdout := usage }
  | .version => { code := 0, stdout := version }
  | _ => { code := 2, stderr := usage }

/-- What the program ends with if there are no settings. -/
def refuseSettings (e : LoadError) : Exit :=
  { code := 2, stderr := "Invalid configuration: " ++ e.message ++ "\n" }

/-- What the program ends with if it is told no address. -/
def noServer : Exit :=
  { code := 2, stderr := "No service URL: pass -s/--server or set " ++ serverVariable ++ "\n" }

/-- The shell that some settings ask for. -/
def shellOf (settings : Settings) (style : Style) : Shell :=
  Shell.new Commands.registry settings.home settings.prompt (Pager.new settings.rows settings.pager) style

/-- Prepares the program, or says what it ends with. -/
def prepare (words : List String) (env : Environment) : Except Exit Launch :=
  match CommandLine.parse words with
  | .error e => .error (refuse e)
  | .ok line => match Settings.load (line.flagsWith env.config) env.server env.fileText with
    | .error e => .error (refuseSettings e)
    | .ok settings => match settings.server with
      | none => .error noServer
      | some server => .ok { server, shell := shellOf settings env.style, commands := line.commands }

/-- A service that cannot be reached. -/
def offline (server : Url) : Service Unit := fun _ call world =>
  (some (Http.outcome server call .refused), world)

/-- The lines of a text, each up to a line feed, with a carriage return in front of that left out. -/
def inputLines (cs : List Char) : List (List Char) :=
  let all := Text.fields '\n' cs
  let whole := all.dropLast.map fun line => if line.getLast? = some '\r' then line.dropLast else line
  match all.getLast? with
  | some [] => whole
  | some last => whole ++ [last]
  | none => whole

/-- Runs a program that is ready, on an input that is no terminal. -/
def Launch.run (l : Launch) (input : String) : Exit :=
  let service := offline l.server
  if l.commands.isEmpty then
    { code := 0, stdout := l.shell.runLines service () ((inputLines input.toList).map String.ofList) }
  else { code := 0, stdout := (l.shell.runBatch service () l.commands).stdout }

/-- Runs the program without a network, on an input that is no terminal. -/
def run (words : List String) (env : Environment) (input : String) : Exit :=
  match prepare words env with
  | .error e => e
  | .ok launch => launch.run input

/-- Without a network every call fails. -/
theorem offline_error (server : Url) (ticket : Nat) (call : Call) :
    ∃ failure, (offline server ticket call ()).1 = some (.error failure) := by
  unfold offline Http.outcome
  dsimp only
  split
  · exact ⟨_, rfl⟩
  · exact ⟨_, rfl⟩

end RemoteShell.Program
