import RemoteShell.Binding.Value
import RemoteShell.Commands.Letter
import RemoteShell.Commands.Task
import RemoteShell.Schema.Registry
import RemoteShell.Service.Request
import RemoteShell.Session

/-!
# What a command does

A bound command does something at once and may leave work: a call of the service with a task for its outcome, or a
letter to be written. Everything a plan depends on is the table of commands, the session and whether paging is on at
the time the line is given.
-/

namespace RemoteShell

/-- What is left to be done after a command has returned. -/
inductive Work where
  | call (call : Call) (task : Task)
  | letter (letter : Letter)
deriving DecidableEq, Repr

/-- What a command does at once, and what it leaves to be done. -/
structure Plan where
  effects : List Effect := []
  work : Option Work := none
deriving DecidableEq, Repr

/-- What a command can look at. -/
structure Surroundings where
  registry : Registry
  session : Session
  /-- Paging is on. -/
  paging : Bool

namespace Plan

/-- A plan that is carried out at once. -/
def now (effects : List Effect) : Plan :=
  { effects }

/-- A plan that calls the service. -/
def ask (api : Api) (op : String) (params : List (String × Json)) (task : Task) : Plan :=
  { work := some (.call { api, op, params := Json.ofMembers params } task) }

/-- The text of an argument as a parameter. -/
def textParam (args : Arguments) (name : String) : Json :=
  Json.ofText? (args.str name)

/-- The text of an argument as a parameter, if it is not empty. -/
def filledParam (args : Arguments) (name : String) : Json :=
  Json.ofText? ((args.str name).filter (· != ""))

/-- The truth value of an argument as a parameter. -/
def flagParam (args : Arguments) (name : String) : Json :=
  Json.ofBool? (args.bool name)

/-- Yes, or nothing at all. -/
def yesOrNothing (flag : Bool) : Json :=
  if flag then .bool true else .null

/-! ## Session -/

/-- The lines that end every overview of the commands. -/
def usageNotes : List String :=
  ["Use Tab for command completion and parameter prompts, and for file path completion.",
    "Parameters are separated by space."]

/-- The overview of the commands whose names begin in a certain way. -/
def overview (registry : Registry) (topic : Option String) : List String :=
  let chosen := registry.commands.filter fun c => match topic with
    | some start => start.toList.isPrefixOf c.name.toList
    | none => true
  chosen.map (fun c => "    " ++ c.helpLine) ++ usageNotes

/-- Help for one command, or an overview. -/
def help (registry : Registry) (topic : Option String) : List Effect :=
  match topic.bind registry.lookup with
  | some c => .echo c.helpLine :: (match c.longHelp with
    | some line => [.echo line]
    | none => [])
  | none => [.page (overview registry topic)]

/-- Goes back to the folder remembered last. -/
def goBack (session : Session) : List Effect :=
  match session.remembered with
  | [] => [.echo "Directory stack is empty."]
  | folder :: _ => [.back, .echo folder]

/-- Turns paging on, off or round. -/
def switchPaging (enabled : Bool) : List Effect :=
  [.setPaging enabled, .echo ("Output paging is " ++ if enabled then "enabled" else "disabled")]

/-- Moves to a folder once the service has looked it up. -/
def enter (session : Session) (args : Arguments) (remember : Bool) : Plan :=
  let folder := (args.str "dir").getD session.home
  { ask .file "lookup" [("path", .str folder)] (.enter folder remember) with
    effects := if remember then [.push] else [] }

/-- Asks who is on the system. -/
def who : Plan :=
  ask .file "lua" [("path", .str "/lua/who.lua"), ("asOwner", .bool true), ("args", .arr [])] .listSessions

/-! ## Files -/

/-- Looks a file up by its number or by its path. -/
def lookup (args : Arguments) : Plan :=
  match args.int "id", args.str "path" with
  | some id, _ => ask .file "lookup" [("id", .int id)] .showDetails
  | none, some path => ask .file "lookup" [("path", .str path)] .showDetails
  | none, none => now [.error "missing required argument path"]

/-- Changes a folder with or without what is in it. -/
def changeFolder (op : String) (args : Arguments) : Plan :=
  ask .file op [("path", textParam args "path"), ("recursive", flagParam args "recursive")] .acceptChange

/-- Links a file to another path, and removes the first one if it is to be renamed. -/
def link (args : Arguments) (rename : Bool) : Plan :=
  ask .file "link"
    [("srcpath", textParam args "srcpath"), ("dstpath", textParam args "dstpath"), ("rename", .bool rename)]
    .acceptChange

/-! ## Policies -/

/-- Gives a policy to files, or takes it from them. -/
def applyPolicy (op word : String) (args : Arguments) : Plan :=
  ask .file op [("policy", textParam args "policy"), ("filespec", textParam args "filespec")] (.countFiles word)

/-- The ways in which the pattern of a policy can be meant. -/
def patternTypes : List String := ["prefix", "regex", "globv1"]

/-- Creates a path-based policy. -/
def addPathPolicy (args : Arguments) : Plan :=
  let kind := (args.str "ptype").getD ""
  if patternTypes.contains kind then
    ask .file "pshare"
      [("policy", textParam args "policy"), ("ptype", .str kind), ("pattern", textParam args "pattern"),
        ("mimetype", textParam args "mimetype")]
      .showPolicyId
  else now [.echo ("invalid pattern type: " ++ kind)]

/-! ## Groups and users -/

/-- The group on the line. -/
def groupOf (args : Arguments) : String :=
  (args.str "group").getD ""

/-- The group on the line, and whether what is below it is meant too. -/
def groupParams (args : Arguments) (deep : Bool) : List (String × Json) :=
  [("group", .str (groupOf args)), ("recursive", yesOrNothing deep)]

/-- The group and the users on the line. -/
def memberParams (args : Arguments) : List (String × Json) :=
  [("group", .str (groupOf args)), ("users", Json.ofTexts (args.strings "users"))]

/-- Copies users to another group, under new names where the line gives some. -/
def copyUsers (args : Arguments) : Plan :=
  let renamed := args.pairs "rename"
  ask .group "copyusers"
    [("dstgroup", textParam args "dstgroup"), ("srcgroup", textParam args "srcgroup"),
      ("users", Json.ofTexts (args.strings "users")),
      ("rename", if renamed.isEmpty then .null
        else Json.ofMembers (renamed.map fun (source, target) => (source, .str target)))]
    .reportCopied

/-- The kind of an attribute of a group. -/
inductive AttributeKind where
  | onOff
  | text
deriving DecidableEq, Repr

/-- The attributes of a group, in the order in which they are sent. -/
def groupAttributes : List (String × AttributeKind) :=
  [("login", .onOff), ("signup", .onOff), ("captcha", .onOff), ("guest", .text), ("home", .text), ("desc", .text),
    ("googleLoginEnabled", .onOff), ("googleSignupEnabled", .onOff), ("verifyEmailEnabled", .onOff),
    ("regKey", .text)]

/-- The value that a line gives an attribute. An empty text and `none` clear the attribute. -/
def attributeValue? (args : Arguments) (name : String) : AttributeKind → Option Json
  | .onOff => (args.bool name).map .bool
  | .text => (args.str name).map fun text => if text == "" || text == "none" then .null else .str text

/-- The attributes that a line sets. -/
def attributes (args : Arguments) : List Json :=
  groupAttributes.filterMap fun (name, kind) =>
    (attributeValue? args name kind).map fun value => Json.ofMembers [("name", .str name), ("value", value)]

/-- Sets attributes of a group. -/
def setAttributes (args : Arguments) : Plan :=
  if (attributes args).isEmpty then now [.echo "no recognized attribute specified"]
  else ask .group "gattr" [("group", .str (groupOf args)), ("attrs", .arr (attributes args))]
    (.confirmUnlessFailed "Completed.")

/-! ## Mail -/

/-- Creates a mailer. -/
def addMailer (args : Arguments) : Plan :=
  ask .file "mkmailer"
    [("path", textParam args "path"),
      ("settings", Json.ofMembers
        [("host", textParam args "host"), ("port", Json.ofInt? (args.int "port")), ("auth", .bool (args.flag "auth")),
          ("starttls", .bool (args.flag "starttls")), ("username", filledParam args "username"),
          ("password", filledParam args "password")])]
    (.confirm "Completed.")

/-- Writes a letter. -/
def write (args : Arguments) : Plan :=
  { work := some (.letter { mailer := args.str "mailer", sender := args.str "from", html := args.flag "html" }) }

/-! ## All commands -/

/-- What a command does with its arguments. -/
def ofVerb (s : Surroundings) (args : Arguments) : Verb → Plan
  | .help => now (help s.registry (args.str "command"))
  | .exit => now [.exit]
  | .cd => enter s.session args false
  | .pushd => enter s.session args true
  | .popd => now (goBack s.session)
  | .pwd => now [.echo s.session.cwd]
  | .dirs => now [.echo s.session.folders]
  | .pager => now (switchPaging ((args.bool "enable").getD !s.paging))
  | .who => who
  | .ls =>
    ask .file "list" [("path", .str ((args.str "path").getD s.session.cwd)), ("folder", flagParam args "folder")]
      .listFiles
  | .lookup => lookup args
  | .mkdir => changeFolder "mkdir" args
  | .rm => changeFolder "rm" args
  | .link => link args false
  | .mv => link args true
  | .chown => ask .file "chown" [("path", textParam args "path"), ("owner", textParam args "owner")] .showOwner
  | .setmt => ask .file "setmt" [("path", textParam args "path"), ("mimetype", textParam args "mimetype")] .showType
  | .lspolicy => ask .file "lspolicy" [("path", textParam args "path")] .listAssignments
  | .share => applyPolicy "share" "shared" args
  | .unshare => applyPolicy "unshare" "unshared" args
  | .pshare => addPathPolicy args
  | .punshare => ask .file "punshare" [("id", Json.ofInt? (args.int "id"))] (.confirm "Completed.")
  | .pplist => ask .file "pplist" [] .listPathPolicies
  | .mkgroup =>
    ask .group "create" [("group", .str (groupOf args)), ("desc", textParam args "description")]
      (.confirmUnlessFailed ("Group " ++ groupOf args ++ " created."))
  | .groups => ask .group "groups" (groupParams args false) (.listGroups (groupOf args))
  | .groupsUnder => ask .group "groups" (groupParams args true) (.listGroups (groupOf args))
  | .users => ask .group "users" (groupParams args false) (.listUsers (groupOf args) false)
  | .usersUnder => ask .group "users" (groupParams args true) (.listUsers (groupOf args) true)
  | .adduser => ask .group "addusers" (memberParams args) .reportAdded
  | .rmuser => ask .group "remusers" (memberParams args) .reportRemoved
  | .mkuser =>
    ask .user "mkuser"
      [("username", textParam args "username"), ("password", textParam args "password"),
        ("email", textParam args "email"), ("regcode", textParam args "regcode"), ("group", textParam args "group")]
      .showUser
  | .ucopy => copyUsers args
  | .gmove =>
    ask .group "move" [("dstpath", textParam args "dstpath"), ("srcgroup", textParam args "srcgroup")]
      (.confirmUnlessFailed "Completed.")
  | .gattr => setAttributes args
  | .rmgroup => ask .group "remgroup" (groupParams args false) (.confirmUnlessFailed "Completed.")
  | .rmgroupUnder => ask .group "remgroup" (groupParams args true) (.confirmUnlessFailed "Completed.")
  | .mkmailer => addMailer args
  | .mail => write args
  | .idle => {}

end Plan

end RemoteShell
