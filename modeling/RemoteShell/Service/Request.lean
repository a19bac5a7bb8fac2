import RemoteShell.Json.Basic

/-!
# Requests

A request names an operation of one of three interfaces of the service and carries parameters. On the wire it is one
object: the parameters, with everything left out that is nothing, and the operation under `op`. A list of parameters is
sent as it is, with nothing left out of it.

Main statements:

* `Json.get?_op_requestBody`: the operation is always the one that was asked for.
-/

namespace RemoteShell

/-- The interfaces of the service. -/
inductive Api where
  | file
  | group
  | user
deriving DecidableEq, Repr

/-- The name of an interface in an address. -/
def Api.name : Api → String
  | .file => "file"
  | .group => "group"
  | .user => "user"

/-- A call of the service: the interface, the operation and its parameters. -/
structure Call where
  api : Api
  op : String
  params : Json
deriving DecidableEq, Repr

namespace Json

mutual

/-- A value without the members of objects that are nothing, at any depth of objects within objects. -/
def prune : Json → Json
  | .obj members => .obj (pruneMembers members)
  | value => value

/-- Members without those that are nothing. -/
def pruneMembers : List (String × Json) → List (String × Json)
  | [] => []
  | (key, value) :: rest => if value.isNull then pruneMembers rest else (key, prune value) :: pruneMembers rest

end

/-- The members that parameters amount to. Parameters that are neither an object nor nothing are one member. -/
def paramMembers : Json → Dict Json
  | .obj members => members
  | .null => []
  | value => [("params", value)]

/-- The object that is sent for an operation with parameters. -/
def requestBody (op : String) (params : Json) : Json :=
  prune (.obj (Dict.insert "op" (.str op) (paramMembers params)))

theorem find?_pruneMembers_str {key text : String} {members : Dict Json}
    (h : Dict.find? key members = some (.str text)) : Dict.find? key (pruneMembers members) = some (.str text) := by
  induction members with
  | nil => simp [Dict.find?] at h
  | cons entry rest ih =>
    obtain ⟨k, value⟩ := entry
    by_cases hk : k = key
    · subst hk
      simp only [Dict.find?, if_true, Option.some.injEq] at h
      subst h
      simp [pruneMembers, isNull, prune, Dict.find?]
    · simp only [Dict.find?, hk, if_false] at h
      cases hn : value.isNull with
      | true => simp [pruneMembers, hn, ih h]
      | false => simp [pruneMembers, hn, Dict.find?, hk, ih h]

/-- **The operation is always the one that was asked for,** whatever the parameters say. -/
theorem get?_op_requestBody (op : String) (params : Json) : (requestBody op params).get? "op" = some (.str op) := by
  simp only [requestBody, prune, get?]
  exact find?_pruneMembers_str (Dict.find?_insert_self _ _ _)

end Json

/-- The object that is sent for a call. -/
def Call.body (c : Call) : Json :=
  Json.requestBody c.op c.params

end RemoteShell
