/-!
# Why a line does not bind

Every way in which a line fails to become a command with its arguments, and the wording of each.
-/

namespace RemoteShell

/-- Why a line does not bind to a command. -/
inductive ParseError where
  | unknownCommand (name : String)
  | unterminatedQuote (text : String)
  | tooManyArguments (command : String) (most : Nat)
  | missingRequiredArgument (argument : String)
  | unknownArgument (argument : String)
  | duplicateArgument (argument : String)
  | invalidBoolean (argument text : String)
  | invalidInteger (argument text : String)
  | invalidLiteral (argument text : String)
  | invalidPair (argument text : String)
  | unexpectedToken (argument text : String)
deriving DecidableEq, Repr

/-- What is reported about a line that does not bind. -/
def ParseError.message : ParseError → String
  | .unknownCommand name => "Unknown command: " ++ name
  | .unterminatedQuote text => "unterminated quoted string: " ++ text
  | .tooManyArguments command most => command ++ " takes only " ++ toString most ++ " arguments."
  | .missingRequiredArgument argument => "missing required argument " ++ argument
  | .unknownArgument argument => "unknown argument " ++ argument
  | .duplicateArgument argument => "argument " ++ argument ++ " is given more than once"
  | .invalidBoolean argument text => "invalid boolean for " ++ argument ++ ": " ++ text
  | .invalidInteger argument text => "invalid number for " ++ argument ++ ": " ++ text
  | .invalidLiteral _ text => "unrecognized argument: " ++ text
  | .invalidPair argument text => "invalid key:value pair for " ++ argument ++ ": " ++ text
  | .unexpectedToken argument text => "unexpected '" ++ text ++ "' for argument " ++ argument

end RemoteShell
