import RemoteShell.Json.Printer

/-!
# Replies

A reply is an object with a whole number as its status: positive for success, zero for nothing done, negative for an
error with a message. Lists are replied bare. Anything else is an error of the service.
-/

namespace RemoteShell

/-- What is reported about a failure without a message. -/
def unknownError : String := "unknown error"

namespace Json

/-- The status of a reply, if it is a whole number of sixty-four bits. -/
def status (value : Json) : Option Int :=
  (value.get? "status").bind int64?

/-- The message of a reply, or a general one if it has none. -/
def errorMessage (value : Json) : String :=
  match (value.get? "msg").bind text? with
  | some message => if message == "" then unknownError else message
  | none => unknownError

/-- A member of a reply as it is shown: texts as they are, nothing as nothing, other values as compact JSON. -/
def field (value : Json) (key : String) : String :=
  match value.get? key with
  | none => ""
  | some .null => ""
  | some (.str text) => text
  | some other => other.render

end Json

/-- A reply by its status. -/
inductive Reply where
  /-- A positive status, or an object without one. -/
  | success (value : Json)
  /-- The status zero. -/
  | benign (value : Json)
  /-- A negative status, or no reply of a known form. -/
  | failure (message : String)
  /-- A bare list. -/
  | list (items : List Json)
deriving DecidableEq, Repr

namespace Reply

/-- Sorts a reply by its status. -/
def classify : Json → Reply
  | .arr items => .list items
  | .obj members =>
    match (Json.obj members).status with
    | some s =>
      if s < 0 then .failure (Json.obj members).errorMessage
      else if s = 0 then .benign (.obj members)
      else .success (.obj members)
    | none => .success (.obj members)
  | other => .failure ("unexpected reply: " ++ other.render)

/-- What is reported about a reply that is not the success asked for. -/
def complaint : Reply → String
  | .failure message => message
  | .success value => value.errorMessage
  | .benign value => value.errorMessage
  | .list _ => unknownError

/-- **A negative status is always a failure.** -/
theorem classify_negative {members : List (String × Json)} {s : Int} (hs : (Json.obj members).status = some s)
    (hneg : s < 0) : classify (.obj members) = .failure (Json.obj members).errorMessage := by
  simp [classify, hs, hneg]

end Reply

end RemoteShell
