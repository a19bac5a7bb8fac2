import RemoteShell.Schema.Registry

/-!
# The commands of the shell

Every command with its arguments, in the order in which positions are counted, and the words that help and completion
use for them.

Main statements:

* `build_all`: the declarations are accepted.
* `verb_ne_idle_of_mem_all`: every command does something.
-/

namespace RemoteShell.Commands

open Argument

/-- The folder that a command moves to. -/
def folder : Argument :=
  (path "dir" "directory").container

/-- The group that a command is about. -/
def group : Argument :=
  path "group" "group path"

/-- The users that a command is about. -/
def users : Argument :=
  ((text "users").hinted "user list").list

/-- The file that a command is about. -/
def file : Argument :=
  path "path" "file path"

/-- The policy that a command is about. -/
def policy : Argument :=
  path "policy" "policy path"

/-- The commands about the session itself. -/
def session : List Command :=
  [{ name := "help", help := "show this information", verb := .help
     arguments := [((text "command").hinted "command name").optional] },
   { name := "exit", help := "exit command line interpreter", verb := .exit },
   { name := "cd", help := "change current directory", verb := .cd, arguments := [folder.optional] },
   { name := "pushd", help := "push new current directory", verb := .pushd, arguments := [folder] },
   { name := "popd", help := "pop current directory stack", verb := .popd },
   { name := "pwd", help := "print current working directory", verb := .pwd },
   { name := "dirs", help := "show the directory stack", verb := .dirs },
   { name := "pager", help := "enable or disable output paging", verb := .pager
     arguments := [((yesNo "enable").hinted "on|off").optional] },
   { name := "who", help := "who is on the system", verb := .who }]

/-- The commands about files. -/
def files : List Command :=
  [{ name := "ls", help := "list files", verb := .ls, arguments := [file.optional, (literal "folder").optional] },
   { name := "lookup", help := "show file details", verb := .lookup
     longHelp := some "Give a path, or id=<n> to look a file up by its resource id."
     arguments := [file.optional, ((number "id").hinted "resource id").keywordOnly.optional] },
   { name := "mkdir", help := "create a folder", verb := .mkdir
     arguments := [path "path" "folder path", (literal "recursive").optional] },
   { name := "rm", help := "remove a file and optionally its descendants", verb := .rm
     arguments := [file, ((literal "recursive").hinted "recursive?").optional] },
   { name := "link", help := "create link to existing file", verb := .link
     arguments := [path "srcpath" "source file", path "dstpath" "target"] },
   { name := "mv", help := "rename a file", verb := .mv
     arguments := [path "srcpath" "current path", path "dstpath" "new path"] },
   { name := "chown", help := "change the owner of a file", verb := .chown
     arguments := [file, (path "owner" "owner path").optional] },
   { name := "setmt", help := "change the MIME type of a plain file", verb := .setmt
     arguments := [file, (text "mimetype").hinted "MIME type"] }]

/-- The commands about policies. -/
def policies : List Command :=
  [{ name := "lspolicy", help := "list the role assignments of a policy", verb := .lspolicy
     arguments := [path "path" "policy path"] },
   { name := "share", help := "assign a policy to file(s)", verb := .share, arguments := [policy, text "filespec"] },
   { name := "unshare", help := "remove a policy from file(s)", verb := .unshare
     arguments := [policy, text "filespec"] },
   { name := "pshare", help := "create a path-based policy", verb := .pshare
     arguments :=
       [policy, (text "ptype").hinted "prefix|globv1|regex", text "pattern", (text "mimetype").optional] },
   { name := "punshare", help := "remove a path-based policy", verb := .punshare, arguments := [number "id"] },
   { name := "pplist", help := "list my path-based policies", verb := .pplist }]

/-- The commands about groups and their users. -/
def groups : List Command :=
  [{ name := "mkgroup", aliases := ["create"], help := "create a new group", verb := .mkgroup
     arguments := [path "group" "new group path", text "description"] },
   { name := "groups", help := "list the immediate subgroups of a group", verb := .groups, arguments := [group] },
   { name := "groups!", help := "list all descendant groups of a group", verb := .groupsUnder
     arguments := [group] },
   { name := "users", help := "list the users in a group", verb := .users, arguments := [group] },
   { name := "users!", help := "list the users in a group and all its descendants", verb := .usersUnder
     arguments := [group] },
   { name := "adduser", help := "add users to a group", verb := .adduser, arguments := [group, users] },
   { name := "rmuser", help := "remove users from a group", verb := .rmuser, arguments := [group, users] },
   { name := "mkuser", help := "create a user", verb := .mkuser
     arguments := [text "username", text "password", group, (text "email").optional,
       ((text "regcode").hinted "registration code").optional] },
   { name := "ucopy", help := "copy users between groups", verb := .ucopy
     arguments := [path "dstgroup" "group path", path "srcgroup" "group path", users,
       ((keyValue "rename").hinted "rename pairs list").list.optional] },
   { name := "gmove", help := "move a group to a new parent", verb := .gmove
     arguments := [path "dstpath" "parent path", path "srcgroup" "group path"] },
   { name := "gattr", help := "enable/disable login/signup", verb := .gattr
     arguments := [group, (yesNo "login").optional, (yesNo "signup").optional, (yesNo "captcha").optional,
       ((text "guest").hinted "guest page").optional, ((text "home").hinted "home page").optional,
       ((text "desc").hinted "description").optional,
       ((yesNo "googleLoginEnabled").hinted "enable Google login").optional,
       ((yesNo "googleSignupEnabled").hinted "enable Google signup").optional,
       ((yesNo "verifyEmailEnabled").hinted "verify email").optional,
       ((text "regKey").hinted "self-registration key").optional] },
   { name := "rmgroup", help := "remove an empty group that has no subgroups", verb := .rmgroup
     arguments := [group] },
   { name := "rmgroup!", help := "remove a group and its descendants", verb := .rmgroupUnder
     arguments := [group] }]

/-- The commands about mail. -/
def mail : List Command :=
  [{ name := "mkmailer", help := "create a mailer", verb := .mkmailer
     arguments := [file, (text "host").hinted "SMTP relay host", (yesNo "auth").hinted "authenticate?",
       (yesNo "starttls").hinted "enable STARTTLS?", ((number "port").hinted "relay host port").optional,
       ((text "username").hinted "relay username").optional,
       ((text "password").hinted "relay password").optional] },
   { name := "mail", help := "send an email", verb := .mail
     arguments := [(path "mailer" "mailer path").optional, ((yesNo "html").hinted "HTML message?").optional,
       ((text "from").hinted "sender email address").optional] }]

/-- Every command of the shell. -/
def all : List Command :=
  session ++ files ++ policies ++ groups ++ mail

/-- The table of the commands of the shell. -/
def registry : Registry :=
  { commands := Registry.sortByName (all.flatMap Command.entries) }

/-- **The declarations are accepted,** and the table is what comes of them. -/
theorem build_all : (Registry.build all).toOption = some registry := by
  decide +kernel

/-- Every command does something. -/
theorem verb_ne_idle_of_mem_all {c : Command} (h : c ∈ all) : c.verb ≠ .idle := by
  have hall : all.all (fun d => d.verb != .idle) = true := by decide
  simpa using List.all_eq_true.mp hall c h

end RemoteShell.Commands
