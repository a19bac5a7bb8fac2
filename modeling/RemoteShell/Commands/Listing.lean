import RemoteShell.Layout.Clock
import RemoteShell.Layout.Columns
import RemoteShell.Layout.Table
import RemoteShell.Service.Reply
import RemoteShell.Text.LetterCase

/-!
# Replies as lines

How files, policies, groups, users and sessions are shown. A field that a reply leaves out is shown as nothing, so any
reply of the right shape can be shown.

Main statements:

* `fileLines_length`: every file has one line.
* `withoutRepeats_head?`: the first of some users is always kept.
-/

namespace RemoteShell.Commands

/-- A time in a reply, shown in local time; nothing if there is none. -/
def timeField (style : Style) (value : Json) (key : String) : String :=
  match (value.get? key).bind Json.int64? with
  | some millis => Clock.render style.zone millis
  | none => ""

/-- The items of a member that is a list. -/
def itemsField (value : Json) (key : String) : List Json :=
  ((value.get? key).bind Json.items?).getD []

/-! ## Files -/

/-- The columns of a listing of files: name, folder mark, size, MIME type, count of links, time of the last change and
another number. -/
def fileColumns : List ColumnSpec :=
  [⟨.left, 24⟩, ⟨.right, 1⟩, ⟨.right, 6⟩, ⟨.left, 24⟩, ⟨.right, 4⟩, ⟨.right, 36⟩, ⟨.right, 4⟩]

/-- The mark of a folder: `D`, a space for any other file, and nothing where the reply does not say. -/
def folderMark (entry : Json) : String :=
  match (entry.get? "container").bind Json.bool? with
  | some true => "D"
  | some false => " "
  | none => ""

/-- The cells of a file. -/
def fileRow (style : Style) (entry : Json) : List String :=
  [entry.field "name", folderMark entry, entry.field "size", entry.field "mimetype", entry.field "refcount",
    timeField style entry "mtime", entry.field "altid"]

/-- Files by their names, without regard to case; files of one name keep their order. -/
def sortFiles (entries : List Json) : List Json :=
  let keyed := entries.map fun e => (Text.lowercase (e.field "name"), e)
  (keyed.mergeSort fun a b => !decide (b.1 < a.1)).map (·.2)

/-- A listing of files. -/
def fileLines (style : Style) (entries : List Json) : List String :=
  columnize ((sortFiles entries).map (fileRow style)) fileColumns

/-- The value of a detail of a file: times are shown in local time as well. -/
def detailText (style : Style) (key : String) (value : Json) : String :=
  match (if key == "crtime" || key == "mtime" then value.int64? else none), value with
  | some millis, _ => Clock.render style.zone millis ++ " [" ++ String.ofList (Text.writeInt millis) ++ "]"
  | none, .str text => text
  | none, other => other.render

/-- The details of a file, one a line. -/
def detailLines (style : Style) (members : List (String × Json)) : List String :=
  members.map fun (key, value) => key ++ ": " ++ detailText style key value

/-! ## Policies -/

/-- The line of a right that comes with a role. -/
def rightLine (right : Json) : String :=
  "\t\t" ++ right.field "name" ++ "(" ++ right.field "applicability" ++ ") - " ++ right.field "description"

/-- The line of who has which role, and the rights that come with it. -/
def assignmentLines (entry : Json) : List String :=
  let rights := itemsField entry "rights"
  (entry.field "principal" ++ "(" ++ entry.field "principalId" ++ ")\t" ++ entry.field "role" ++ "(" ++
      entry.field "roleId" ++ ")") ::
    (if rights.isEmpty then [] else "\tAccess rights:" :: rights.map rightLine)

/-- The role assignments of a policy. -/
def policyLines (reply : Json) : List String :=
  (itemsField reply "list").flatMap assignmentLines

/-- A member that is a path, or an object with a path. -/
def pathField (value : Json) (key : String) : String :=
  match value.get? key with
  | some (.obj members) => (Json.obj members).field "path"
  | _ => value.field key

/-- The path-based policies of the user. -/
def pathPolicyLines (style : Style) (entries : List Json) : List String :=
  "Your path-based policies:" ::
    Table.render ["Id", "Policy", "Pattern", "MIME type"]
      (entries.map fun p => [p.field "id", pathField p "policy", p.field "pattern", p.field "mimetype"]) style

/-! ## Groups and users -/

/-- The groups in a group. -/
def groupLines (style : Style) (group : String) (found : List Json) : List String :=
  ("Groups in " ++ group) ::
    Table.render ["Id", "Path", "Owner", "Description"]
      (found.map fun g => [g.field "id", g.field "path", g.field "owner", g.field "desc"]) style

/-- The name of a user: that of the user's file, or else that of the account. -/
def userName (user : Json) : String :=
  let path := (user.field "path").toList
  let name := (path.reverse.takeWhile (· != '/')).reverse
  if path.contains '/' && !name.isEmpty then String.ofList name else user.field "username"

/-- The cells of a user. -/
def userRow (user : Json) : List String :=
  [user.field "id", userName user, user.field "email", user.field "regcode"]

mutual

/-- A value as it is compared: a zero has no sign, at any depth. -/
def unsignedZero : Json → Json
  | .real negative size => .real (negative && size != Decimal.Binary.zero) size
  | .arr items => .arr (unsignedZeroItems items)
  | .obj members => .obj (unsignedZeroMembers members)
  | value => value

/-- Items as they are compared. -/
def unsignedZeroItems : List Json → List Json
  | [] => []
  | item :: rest => unsignedZero item :: unsignedZeroItems rest

/-- Members as they are compared. -/
def unsignedZeroMembers : List (String × Json) → List (String × Json)
  | [] => []
  | (key, value) :: rest => (key, unsignedZero value) :: unsignedZeroMembers rest

end

/-- Whether two entries are about one user: both have an identifier, and it is the same. -/
def sameUser (a b : Json) : Bool :=
  match a.get? "id", b.get? "id" with
  | some i, some j => unsignedZero i == unsignedZero j
  | _, _ => false

/-- Users without those that follow an entry about themselves. -/
def withoutRepeats : List Json → List Json
  | [] => []
  | [user] => [user]
  | user :: next :: rest =>
    if sameUser next user then withoutRepeats (user :: rest) else user :: withoutRepeats (next :: rest)

/-- The users in a group, or also in the groups below it. -/
def userLines (style : Style) (group : String) (deep : Bool) (found : List Json) : List String :=
  ((if deep then "Users under " else "Users in ") ++ group) ::
    Table.render ["Id", "Username", "EMail", "Reg. Code"]
      ((if deep then withoutRepeats found else found).map userRow) style

/-- The line of a session of a user. -/
def sessionLine (style : Style) (session : Json) : String :=
  session.field "userPath" ++ " since " ++ timeField style session "startTime" ++ " from " ++ session.field "ipAddress"

/-- Every file has one line. -/
theorem fileLines_length (style : Style) (entries : List Json) : (fileLines style entries).length = entries.length := by
  simp [fileLines, columnize_length, sortFiles]

/-- The first of some users is always kept. -/
theorem withoutRepeats_head? (users : List Json) : (withoutRepeats users).head? = users.head? := by
  fun_induction withoutRepeats users with
  | case1 => rfl
  | case2 => rfl
  | case3 user next rest _ ih => simpa using ih
  | case4 user next rest _ ih => simp

end RemoteShell.Commands
