import RemoteShell.Commands.Listing
import RemoteShell.Service.Failure
import RemoteShell.Service.Reply

/-!
# What comes of a call

A command that calls the service leaves a task behind: what is to be done with the outcome. A task is plain data, and
what it does is a list of effects that depends on the task, the style and the outcome alone. Which replies count as
success differs from task to task; a reply that does not is reported as an error.
-/

namespace RemoteShell

/-- What a command does to the shell. -/
inductive Effect where
  | echo (line : String)
  | error (line : String)
  /-- Output that goes through the pager. -/
  | page (lines : List String)
  /-- Makes a folder the working folder. -/
  | enter (folder : String)
  /-- Remembers the working folder. -/
  | push
  /-- Goes back to the folder remembered last, and forgets it. -/
  | back
  | setPaging (enabled : Bool)
  | exit
deriving DecidableEq, Repr

namespace Effect

/-- Reports that something failed. -/
def failed (message : String) : Effect :=
  .error ("Error: " ++ if message == "" then unknownError else message)

/-- Reports a reply that is not the success asked for. -/
def rejected (reply : Reply) : Effect :=
  failed reply.complaint

end Effect

/-- What is to be done with the outcome of a call. -/
inductive Task where
  /-- Makes a folder the working folder; if the one before was remembered for this, a failure takes that back. -/
  | enter (folder : String) (remembered : Bool)
  /-- Shows who is on the system. -/
  | listSessions
  /-- Shows the files of a folder. -/
  | listFiles
  /-- Shows the details of a file. -/
  | showDetails
  /-- Reports a change of files that did not fail. -/
  | acceptChange
  /-- Reports the new owner of a file. -/
  | showOwner
  /-- Reports the new type of a file. -/
  | showType
  /-- Shows the role assignments of a policy. -/
  | listAssignments
  /-- Reports how many files a policy was given to or taken from, as the word says. -/
  | countFiles (word : String)
  /-- Reports the number of a new path-based policy. -/
  | showPolicyId
  /-- Shows the path-based policies of the user. -/
  | listPathPolicies
  /-- Reports a success in so many words. -/
  | confirm (text : String)
  /-- Reports anything but a failure in so many words. -/
  | confirmUnlessFailed (text : String)
  /-- Shows the groups in a group. -/
  | listGroups (group : String)
  /-- Shows the users in a group, or also in the groups below it. -/
  | listUsers (group : String) (deep : Bool)
  /-- Reports on each user to be added to a group. -/
  | reportAdded
  /-- Reports on each user to be removed from a group. -/
  | reportRemoved
  /-- Reports a new user. -/
  | showUser
  /-- Reports on each user to be copied. -/
  | reportCopied
deriving DecidableEq, Repr

namespace Task

/-- What is done if a folder cannot be made the working folder. -/
def refuse (remembered : Bool) (report : Effect) : List Effect :=
  report :: if remembered then [.back] else []

/-- Makes the folder of a reply the working folder. -/
def enterReply (folder : String) (remembered : Bool) : Reply → List Effect
  | .failure message => refuse remembered (.failed message)
  | .list _ => refuse remembered (.error (folder ++ " is not a container."))
  | .success value | .benign value =>
    let path := if value.field "path" == "" then folder else value.field "path"
    if (value.get? "container").bind Json.bool? = some true then [.enter path]
    else refuse remembered (.error (path ++ " is not a container."))

/-- The line about a user to be added to a group. -/
def addedLine (entry : Json) : Effect :=
  match entry.status with
  | some s => if s < 0 then .failed entry.errorMessage else .echo ("User " ++ entry.field "username" ++ " added")
  | none => .echo ("User " ++ entry.field "username" ++ " added")

/-- The line about a user to be copied. -/
def copiedLine (entry : Json) : Effect :=
  let failed := Effect.error (entry.field "user" ++ " - failed: " ++ entry.errorMessage)
  match entry.status with
  | some s => if 0 < s then .echo (entry.field "user" ++ " - ok") else failed
  | none => failed

/-- Reports on the users to be removed from a group: a list is about those who were, anything else about one who was
not. -/
def removed : Json → List Effect
  | .arr entries => entries.map fun e => .echo ("User " ++ e.field "user" ++ " removed")
  | value =>
    if (value.get? "user").isSome then
      [.error ("User " ++ value.field "user" ++ " not removed: " ++ value.errorMessage)]
    else [.failed value.errorMessage]

/-- Shows the items of a list through the pager, or says that there are none. -/
def pageUnlessEmpty (items : List Json) (lines : List Json → List String) (none : String) : List Effect :=
  if items.isEmpty then [.echo none] else [.page (lines items)]

/-- What is done with a reply. -/
def concludeReply (style : Style) (task : Task) (reply : Reply) : List Effect :=
  match task, reply with
  | .enter folder remembered, _ => enterReply folder remembered reply
  | .listSessions, .success value =>
    if value.status = some 1 then
      (Commands.itemsField value "result").map fun s => .echo (Commands.sessionLine style s)
    else [.rejected reply]
  | .listFiles, .list entries => pageUnlessEmpty entries (Commands.fileLines style) "No files."
  | .listFiles, .success _ | .listFiles, .benign _ => [.echo "No files."]
  | .showDetails, .success (.obj members) | .showDetails, .benign (.obj members) =>
    (Commands.detailLines style members).map .echo
  | .acceptChange, .success _ | .acceptChange, .benign _ => [.echo "Completed"]
  | .showOwner, .success value =>
    [.echo ("Changed owner of " ++ value.field "path" ++ " to " ++ value.field "owner")]
  | .showType, .success value => [.echo ("Set MIME type to " ++ value.field "mimetype" ++ ".")]
  | .listAssignments, .success value | .listAssignments, .benign value =>
    [.page (Commands.policyLines value ++ ["Completed"])]
  | .countFiles word, .success value => [.echo (value.field "count" ++ " files " ++ word)]
  | .showPolicyId, .success value => [.echo ("Id of this path-based policy is " ++ value.field "id")]
  | .listPathPolicies, .list entries =>
    pageUnlessEmpty entries (Commands.pathPolicyLines style) "You have no path-based policies."
  | .confirm text, .success _ => [.echo text]
  | .confirmUnlessFailed _, .failure message => [.failed message]
  | .confirmUnlessFailed text, _ => [.echo text]
  | .listGroups _, .failure message => [.failed message]
  | .listGroups group, .list _ => [.echo (group ++ " has no subgroups.")]
  | .listGroups group, .success value | .listGroups group, .benign value =>
    pageUnlessEmpty (Commands.itemsField value "groups") (Commands.groupLines style group)
      (group ++ " has no subgroups.")
  | .listUsers group deep, .success value | .listUsers group deep, .benign value =>
    pageUnlessEmpty (Commands.itemsField value "users") (Commands.userLines style group deep)
      (group ++ " has no users.")
  | .reportAdded, .list entries => entries.map addedLine
  | .showUser, .success value | .showUser, .benign value =>
    [.echo ("id=" ++ value.field "id" ++ ", username=" ++ value.field "username" ++ ", password=" ++
      value.field "password")]
  | .showUser, .list _ => []
  | .reportCopied, .list entries =>
    if entries.isEmpty then [] else .echo "Users copied:" :: entries.map copiedLine
  | .reportCopied, .success _ | .reportCopied, .benign _ => []
  | _, _ => [.rejected reply]

/-- What is done if there is no usable answer. -/
def concludeFailure (task : Task) (failure : Failure) : List Effect :=
  match task with
  | .enter _ remembered => refuse remembered (.failed failure.report)
  | _ => [.failed failure.report]

/-- What is done with the outcome of a call. -/
def conclude (style : Style) (task : Task) : Outcome → List Effect
  | .error failure => concludeFailure task failure
  | .ok value => match task with
    | .reportRemoved => removed value
    | _ => concludeReply style task (Reply.classify value)

end Task

end RemoteShell
