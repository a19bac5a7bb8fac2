import RemoteShell.Json.Reader
import RemoteShell.Text.Blank
import RemoteShell.Url.Basic

/-!
# Calls without a usable answer

A call can fail before anything is sent, on the way, or because the answer is none: the wording of each case, in full
and in the short form that is shown to the user.
-/

namespace RemoteShell

/-- Why a call has no usable answer. -/
inductive Failure where
  /-- Nothing could be sent to the address, or no answer came back. -/
  | unreachable (address : String)
  /-- No answer came within the time allowed. -/
  | timeout (address : String)
  /-- The answer ended before it was complete. -/
  | cutShort
  /-- The address is none that can be called. -/
  | uncallable (address : String)
  /-- The server answered with a status other than success. -/
  | status (code : Nat) (body : String)
  /-- The answer is no JSON value. -/
  | malformed (e : Json.SyntaxError)
  /-- The address of the service is none. -/
  | badAddress (e : Url.ParseError)
deriving DecidableEq, Repr

namespace Failure

/-- What went wrong with a connection. -/
def connection (address : String) : String :=
  "error sending request for url (" ++ address ++ ")"

/-- A failure in full. -/
def message : Failure → String
  | .unreachable address => "request failed: " ++ connection address
  | .timeout address => "request failed: " ++ connection address
  | .cutShort => "request failed: error decoding response body"
  | .uncallable address => "request failed: builder error for url (" ++ address ++ ")"
  | .status code body => "server returned " ++ toString code ++ ": " ++ body
  | .malformed e => "malformed reply: " ++ e.message
  | .badAddress e => "invalid service url: " ++ e.message

/-- The text of a refusal as it is shown to the user. -/
def refusalText (body : String) : String :=
  if Text.isAllBlank body then "request failed" else Text.trimmed body

/-- A failure as it is shown to the user. -/
def report : Failure → String
  | .status code body => "status " ++ toString code ++ ": " ++ refusalText body
  | .timeout address => "status timeout: " ++ connection address
  | .malformed e => "status parsererror: " ++ e.message
  | .unreachable address => "status error: " ++ (unreachable address).message
  | .cutShort => "status error: " ++ cutShort.message
  | .uncallable address => "status error: " ++ (uncallable address).message
  | .badAddress e => "status error: " ++ (badAddress e).message

end Failure

/-- What comes of a call: an answer, or the reason why there is none. -/
abbrev Outcome := Except Failure Json

end RemoteShell
