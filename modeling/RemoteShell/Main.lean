import RemoteShell.Program

/-!
# The outer layer of the program

Reads the environment, the settings file and the input, prints what the program says, and ends with its exit code. There
is no network here: every call of the service fails as one that cannot be reached.
-/

namespace RemoteShell

/-- Why a file cannot be read. -/
def readFailure : IO.Error → String
  | .noFileOrDirectory _ _ _ => "No such file or directory (os error 2)"
  | .permissionDenied _ _ _ => "Permission denied (os error 13)"
  | .inappropriateType _ code details => details ++ " (os error " ++ toString code ++ ")"
  | e => toString e

/-- Reads a file, or says why it cannot be read. -/
def readFileNow (path : String) : IO (Except String String) := do
  try
    return .ok (← IO.FS.readFile path)
  catch e => return .error (readFailure e)

/-- Runs lines of input as they come. -/
partial def converse (service : Service Unit) (shell : Shell) (input output : IO.FS.Stream) : IO Unit := do
  output.putStr shell.console.promptText
  output.flush
  let line ← input.getLine
  if !line.isEmpty then
    let content := ((Program.inputLines line.toList).head?).getD []
    match shell.takeLine service () (String.ofList content) with
    | (text, none) => output.putStr text
    | (text, some (next, _)) =>
      output.putStr text
      converse service next input output

/-- Looks at the environment. The settings file has been read already. -/
def environment (contents : Except String String) : IO Program.Environment := do
  let output ← IO.getStdout
  -- Every call fails, so no time is ever shown and universal time is as good as any.
  let zone := 0
  let style := Style.detect (← output.isTty) (← IO.getEnv "NO_COLOR").isSome (← IO.getEnv "COLUMNS") zone
  return { server := ← IO.getEnv serverVariable, config := ← IO.getEnv "FSTERM_CONFIG", fileText := fun _ => contents
           style }

/-- The contents of the settings file that a command line names. -/
def settingsFile (words : List String) : IO (Except String String) := do
  let named := match CommandLine.parse words with
    | .ok line => line.flags.config
    | .error _ => none
  match named.or (← IO.getEnv "FSTERM_CONFIG") with
  | some path => readFileNow path
  | none => return .ok ""

end RemoteShell

open RemoteShell in
/-- Runs the program. -/
def main (words : List String) : IO UInt32 := do
  let env ← environment (← settingsFile words)
  match Program.prepare words env with
  | .error e =>
    IO.print e.stdout
    IO.eprint e.stderr
    return UInt32.ofNat e.code
  | .ok launch =>
    if launch.commands.isEmpty then
      converse (Program.offline launch.server) launch.shell (← IO.getStdin) (← IO.getStdout)
      return 0
    else
      let e := launch.run ""
      IO.print e.stdout
      return UInt32.ofNat e.code
