/-!
# How much is logged

The command line says how much the program logs about itself: one level for the program, and a quieter one for what it
is built on.
-/

namespace RemoteShell

/-- How much is logged, from little to much. -/
inductive LogLevel where
  | error
  | info
  | debug
  | trace
deriving DecidableEq, Repr

namespace LogLevel

/-- The name of a level. -/
def name : LogLevel → String
  | .error => "error"
  | .info => "info"
  | .debug => "debug"
  | .trace => "trace"

/-- The level for what the program is built on. -/
def beneath : LogLevel → String
  | .error => "error"
  | .info => "warn"
  | .debug => "warn"
  | .trace => "info"

/-- The two levels as one directive. -/
def directive (l : LogLevel) : String :=
  "fsterm=" ++ l.name ++ "," ++ l.beneath

/-- The level that the command line asks for: how often to log more, and whether to be quiet. -/
def ofFlags (verbose : Nat) (quiet : Bool) : LogLevel :=
  if quiet then .error
  else match verbose with
    | 0 => .info
    | 1 => .debug
    | _ => .trace

end LogLevel

end RemoteShell
