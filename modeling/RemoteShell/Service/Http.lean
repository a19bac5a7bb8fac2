import RemoteShell.Json.Printer
import RemoteShell.Service.Failure
import RemoteShell.Service.Request

/-!
# Calls over HTTP

A call is posted to the address of the service with the interface added to the query. What the server sends back
decides the outcome: a status from 200 to 299 with a JSON value is an answer, everything else a failure. A status has
three digits, and one below 200 only announces an answer, which then does not come. What can go wrong on the way is
listed, so that the outcome is a function of what happened.

Main statements:

* `outcome_eq_ok_iff`: which calls succeed, and with what.
-/

namespace RemoteShell.Http

/-- The address of an interface. -/
def endpoint (base : Url) (api : Api) : Url :=
  base.appendPair "api".toList api.name.toList

/-- What happens to a request on its way. -/
inductive Event where
  /-- Nobody takes the connection. -/
  | refused
  /-- The connection is closed without an answer. -/
  | closed
  /-- No answer comes in time. -/
  | silent
  /-- The answer ends before its announced end. -/
  | cut (status : Nat)
  /-- The whole answer comes. -/
  | answered (status : Nat) (body : String)
deriving DecidableEq, Repr

/-- What the server is asked. -/
structure Request where
  method : String
  target : String
  contentType : String
  body : Json
deriving DecidableEq, Repr

/-- The request of a call. -/
def request (base : Url) (call : Call) : Request :=
  { method := "POST", target := String.ofList (endpoint base call.api).target, contentType := "application/json"
    body := call.body }

/-- The request that the server sees; none if nothing reaches it. -/
def seen? (base : Url) (call : Call) : Event → Option Request
  | .refused => none
  | _ => if base.isWeb then some (request base call) else none

/-- The status of an answer that gives the connection to another protocol. -/
def switching : Nat := 101

/-- Whether an answer with a status is the last one to a request. -/
def isFinal (status : Nat) : Bool :=
  status == switching || (200 ≤ status && status ≤ 999)

/-- Whether an answer with a status may have a body. Some never have one, whatever the server sends. -/
def hasBody (status : Nat) : Bool :=
  status != switching && status != 204 && status != 304

/-- The body of an answer. -/
def bodyOf (status : Nat) (body : String) : String :=
  if hasBody status then body else ""

/-- Whether a status says that all went well. -/
def isSuccess (status : Nat) : Bool :=
  200 ≤ status && status ≤ 299

/-- What comes of a request that was answered. -/
def answer (status : Nat) (body : String) : Outcome :=
  if isSuccess status then
    match Json.parse (bodyOf status body) with
    | .ok value => .ok value
    | .error e => .error (.malformed e)
  else .error (.status status (bodyOf status body))

/-- What comes of a request whose answer ends too early. A status without a body cannot end early. -/
def answerCut (status : Nat) : Outcome :=
  if isSuccess status && hasBody status then .error .cutShort else answer status ""

/-- What comes of a call. -/
def outcome (base : Url) (call : Call) (event : Event) : Outcome :=
  let address := (endpoint base call.api).bare.render
  if !base.isWeb then .error (.uncallable address)
  else match event with
    | .refused => .error (.unreachable address)
    | .closed => .error (.unreachable address)
    | .silent => .error (.timeout address)
    | .cut status => if isFinal status then answerCut status else .error (.unreachable address)
    | .answered status body => if isFinal status then answer status body else .error (.unreachable address)

theorem answer_eq_ok_iff {status : Nat} {body : String} {value : Json} :
    answer status body = .ok value ↔ isSuccess status = true ∧ Json.parse (bodyOf status body) = .ok value := by
  unfold answer
  split
  · next hsuccess =>
    cases hparse : Json.parse (bodyOf status body) with
    | ok parsed => simp [hsuccess]
    | error e => simp
  · next hno => simp [hno]

/-- An answer that ends early is never a success: without a body there is no value. -/
theorem answerCut_ne_ok (status : Nat) (value : Json) : answerCut status ≠ .ok value := by
  unfold answerCut
  split
  · exact nofun
  · intro h
    have hempty : bodyOf status "" = "" := ite_self _
    rw [answer_eq_ok_iff, hempty] at h
    exact Json.parse_of_blank (by simp) value h.2

theorem isFinal_of_isSuccess {status : Nat} (h : isSuccess status = true) : isFinal status = true := by
  simp only [isSuccess, Bool.and_eq_true, decide_eq_true_eq] at h
  simp only [isFinal, Bool.or_eq_true, Bool.and_eq_true, decide_eq_true_eq]
  omega

/-- A call succeeds exactly if it can be made and a whole answer comes, with a status of success and a value. -/
theorem outcome_eq_ok_iff {base : Url} {call : Call} {event : Event} {value : Json} :
    outcome base call event = .ok value ↔
      base.isWeb = true ∧ ∃ status body, event = .answered status body ∧ isSuccess status = true ∧
        Json.parse (bodyOf status body) = .ok value := by
  unfold outcome
  cases hweb : base.isWeb with
  | false => simp
  | true =>
    cases event with
    | refused => simp
    | closed => simp
    | silent => simp
    | cut status =>
      by_cases hfinal : isFinal status = true
      · simp [hfinal, answerCut_ne_ok]
      · simp [hfinal]
    | answered status body =>
      by_cases hfinal : isFinal status = true
      · simp [hfinal, answer_eq_ok_iff, and_assoc]
      · have hsuccess : isSuccess status ≠ true := mt isFinal_of_isSuccess hfinal
        simp [hfinal, hsuccess]

end RemoteShell.Http
