import Mathlib.Data.List.Forall2
import Mathlib.Tactic.Choose
import RemoteShell.Commands.Table
import RemoteShell.Proofs.Commands.Origin
import RemoteShell.Proofs.Shell.Output

/-!
# Negative statuses

A negative status says that the service has refused. It comes with the whole reply, or, where a command is about several
users, with the entry of one of them. The question is whether a refusal is ever reported as a success.

With a whole reply it never is: the reply is sorted before a command looks at it, and what is sorted as a failure is
reported in one error line, whatever the command. Entries are looked at by three commands, each in its own way, and
`rmuser` takes every entry for a success.

Main statements:

* `Task.conclude_of_failure`: what is sorted as a failure is reported in one error line.
* `Task.exists_lines_added`, `Task.exists_lines_copied`: the refused entries of `adduser` and `ucopy` are errors.
* `Shell.reportsNegative_iff`: where refusals are reported as such.
-/

namespace RemoteShell

/-- The status of a reply, or of an entry of a reply, is negative. -/
def Json.isNegative (value : Json) : Bool :=
  value.status.any (decide <| · < 0)

/-- The commands whose replies have one entry for each user. -/
def Verb.answersByUser : Verb → Bool
  | .adduser | .rmuser | .ucopy => true
  | _ => false

/-- The line above the lines about the users. -/
def Verb.heading (verb : Verb) (entries : List Json) : List OutputLine :=
  if verb = .ucopy ∧ entries ≠ [] then [.echo "Users copied:"] else []

/-- A line is an error line. -/
def OutputLine.isError : OutputLine → Bool
  | .error _ => true
  | .echo _ => false

/-- There is one line about each entry, and it is an error line where the status of the entry is negative. -/
def AccountsFor (entries : List Json) (lines : List OutputLine) : Prop :=
  List.Forall₂ (fun entry line => entry.isNegative = true → line.isError = true) entries lines

namespace Shell

/-- **A reply to a command is not reported as a success where its status is negative.** An object is reported in one error
line, and the working folder stays, or is again the one that a `pushd` has left. A list of users is reported in one line
for each, which is an error line for those with a negative status. -/
def ReportsNegative (s : Shell) (verb : Verb) (task : Task) : Json → Prop
  | .obj members => (Json.obj members).isNegative = true → ∃ text,
      s.conclude (.task task) (.ok (.obj members)) =
        { s with
          console := s.console.error text
          session := if verb = .pushd then s.session.back else s.session }
  | .arr entries => verb.answersByUser = true → ∃ lines,
      s.conclude (.task task) (.ok (.arr entries)) =
        { s with console := { s.console with queue := s.console.queue ++ (verb.heading entries ++ lines) } } ∧
      AccountsFor entries lines
  | _ => True

end Shell

/-- A reply to `rmuser` with an entry whose status is negative. -/
def Verb.HidesRefusal (verb : Verb) (reply : Json) : Prop :=
  verb = .rmuser ∧ ∃ entries, reply = .arr entries ∧ ∃ entry ∈ entries, entry.isNegative = true

theorem Json.isNegative_iff {value : Json} : value.isNegative = true ↔ ∃ s, value.status = some s ∧ s < 0 := by
  simp [isNegative, Option.any_eq_true]

/-! ## Whole replies -/

namespace Task

/-- What is taken back when a task fails. -/
def retreat : Task → List Effect
  | .enter _ true => [.back]
  | _ => []

/-- **What is sorted as a failure is reported in one error line,** and a folder that was remembered for it is gone back
to. -/
theorem conclude_of_failure {value : Json} {message : String} (h : Reply.classify value = .failure message)
    (style : Style) (task : Task) : ∃ text, task.conclude style (.ok value) = .error text :: task.retreat := by
  cases task with
  | reportRemoved =>
      simp only [conclude, removed]
      split
      · simp [Reply.classify] at h
      · split
        · exact ⟨_, rfl⟩
        · exact ⟨_, rfl⟩
  | enter folder remembered =>
      simp only [conclude, h]
      cases remembered <;> exact ⟨_, rfl⟩
  | _ =>
      simp only [conclude, h]
      exact ⟨_, rfl⟩

/-- A refused call is reported in one error line. -/
theorem conclude_negative {members : List (String × Json)} (h : (Json.obj members).isNegative = true) (style : Style)
    (task : Task) : ∃ text, task.conclude style (.ok (.obj members)) = .error text :: task.retreat := by
  obtain ⟨s, hs, hneg⟩ := Json.isNegative_iff.mp h
  exact conclude_of_failure (Reply.classify_negative hs hneg) style task

end Task

/-- Only `pushd` takes something back when it fails. -/
theorem Verb.Makes.retreat {verb : Verb} {call : Call} {task : Task} (h : verb.Makes call task) :
    task.retreat = if verb = .pushd then [.back] else [] := by
  have hverb := h.mem_verbs
  cases task with
  | enter folder remembered =>
      cases remembered <;> simp [Task.verbs] at hverb <;> subst hverb <;> rfl
  | _ =>
      have hne : verb ≠ .pushd := by
        rintro rfl
        simp [Task.verbs] at hverb
      simp [Task.retreat, hne]

/-! ## Entries -/

/-- The effect that writes a line. -/
def OutputLine.effect : OutputLine → Effect
  | .echo text => .echo text
  | .error text => .error text

/-- Lines are written one after the other. -/
theorem Shell.performAll_lines (s : Shell) (lines : List OutputLine) :
    s.performAll (lines.map OutputLine.effect) =
      { s with console := { s.console with queue := s.console.queue ++ lines } } := by
  induction lines generalizing s with
  | nil => simp [performAll]
  | cons line rest ih =>
      have hfirst : s.perform line.effect = { s with console := { s.console with queue := s.console.queue ++ [line] } } := by
        cases line <;> rfl
      rw [List.map_cons, performAll, List.foldl_cons, hfirst]
      refine (ih _).trans ?_
      simp

/-- What is written about entries is one line for each, if it is for one entry. -/
theorem exists_lines {about : Json → Effect} {P : Json → OutputLine → Prop}
    (h : ∀ entry, ∃ line : OutputLine, about entry = line.effect ∧ P entry line) (entries : List Json) :
    ∃ lines : List OutputLine, entries.map about = lines.map OutputLine.effect ∧ List.Forall₂ P entries lines := by
  choose line heffect hline using h
  refine ⟨entries.map line, ?_, ?_⟩
  · rw [List.map_map]
    exact List.map_congr_left fun entry _ => heffect entry
  · rw [List.forall₂_map_right_iff, List.forall₂_same]
    exact fun entry _ => hline entry

namespace Task

/-- The users that could not be added are errors. -/
theorem exists_lines_added (entries : List Json) : ∃ lines : List OutputLine,
    entries.map addedLine = lines.map OutputLine.effect ∧ AccountsFor entries lines := by
  refine exists_lines (fun entry => ?_) entries
  unfold addedLine
  split
  · next s hs =>
    split
    · exact ⟨.error _, rfl, fun _ => rfl⟩
    · next hpos => exact ⟨.echo _, rfl, fun hneg => absurd hneg (by simp [Json.isNegative, hs, hpos])⟩
  · next hs => exact ⟨.echo _, rfl, fun hneg => absurd hneg (by simp [Json.isNegative, hs])⟩

/-- The users that could not be copied are errors. -/
theorem exists_lines_copied (entries : List Json) : ∃ lines : List OutputLine,
    entries.map copiedLine = lines.map OutputLine.effect ∧ AccountsFor entries lines := by
  refine exists_lines (fun entry => ?_) entries
  simp only [copiedLine]
  split
  · next s hs =>
    split
    · next hpos => exact ⟨.echo _, rfl, fun hneg => absurd hneg (by simp [Json.isNegative, hs, Int.le_of_lt hpos])⟩
    · exact ⟨.error _, rfl, fun _ => rfl⟩
  · exact ⟨.error _, rfl, fun _ => rfl⟩

/-- Every user in a reply is taken for one who was removed. -/
theorem conclude_removed (style : Style) (entries : List Json) :
    conclude style .reportRemoved (.ok (.arr entries)) =
      (entries.map fun e => OutputLine.echo ("User " ++ e.field "user" ++ " removed")).map OutputLine.effect := by
  rw [List.map_map]
  rfl

end Task

/-- Lines that report a success account for entries exactly if none of them was refused. -/
theorem accountsFor_echo_iff {entries : List Json} {text : Json → String} :
    AccountsFor entries (entries.map fun e => .echo (text e)) ↔ ∀ entry ∈ entries, entry.isNegative = false := by
  rw [AccountsFor, List.forall₂_map_right_iff, List.forall₂_same]
  simp [OutputLine.isError]

/-! ## All commands -/

namespace Shell

/-- `rmuser` reports its entries as such exactly if none of them was refused. -/
theorem reportsNegative_removed_iff (s : Shell) (entries : List Json) :
    s.ReportsNegative .rmuser .reportRemoved (.arr entries) ↔ ∀ entry ∈ entries, entry.isNegative = false := by
  have hwritten : s.conclude (.task .reportRemoved) (.ok (.arr entries)) = _ :=
    (congrArg s.performAll (Task.conclude_removed s.console.style entries)).trans (s.performAll_lines _)
  rw [← accountsFor_echo_iff]
  constructor
  · intro h
    obtain ⟨lines, hlines, haccounts⟩ := h rfl
    rw [hwritten] at hlines
    have hqueue := congrArg (fun t : Shell => t.console.queue) hlines
    rw [List.append_cancel_left hqueue]
    exact haccounts
  · exact fun haccounts _ => ⟨_, hwritten, haccounts⟩

/-- A refusal that is hidden is not reported as such. -/
theorem not_reportsNegative_of_hidesRefusal (s : Shell) {verb : Verb} {call : Call} {task : Task}
    (h : verb.Makes call task) {reply : Json} (hhidden : verb.HidesRefusal reply) : ¬ s.ReportsNegative verb task reply := by
  obtain ⟨rfl, entries, rfl, entry, hentry, hneg⟩ := hhidden
  obtain rfl := h.task_eq fun _ _ => ⟨_, rfl⟩
  rw [reportsNegative_removed_iff]
  intro hnone
  rw [hnone entry hentry] at hneg
  exact absurd hneg (by decide)

/-- A refusal that is not hidden is reported as such. -/
theorem reportsNegative_of_not_hidesRefusal (s : Shell) {verb : Verb} {call : Call} {task : Task}
    (h : verb.Makes call task) {reply : Json} (hshown : ¬ verb.HidesRefusal reply) : s.ReportsNegative verb task reply := by
  cases reply with
  | obj members =>
      intro hneg
      obtain ⟨text, htext⟩ := Task.conclude_negative hneg s.console.style task
      refine ⟨text, ?_⟩
      simp only [conclude, htext, h.retreat]
      split <;> rfl
  | arr entries =>
      cases verb with
      | adduser =>
          obtain rfl := h.task_eq fun _ _ => ⟨_, rfl⟩
          intro _
          obtain ⟨lines, hlines, haccounts⟩ := Task.exists_lines_added entries
          exact ⟨lines, (congrArg s.performAll hlines).trans (s.performAll_lines lines), haccounts⟩
      | ucopy =>
          obtain rfl := h.task_eq fun _ _ => ⟨_, rfl⟩
          intro _
          obtain ⟨lines, hlines, haccounts⟩ := Task.exists_lines_copied entries
          refine ⟨lines, ?_, haccounts⟩
          rw [← performAll_lines, List.map_append, ← hlines]
          cases entries <;> rfl
      | rmuser =>
          obtain rfl := h.task_eq fun _ _ => ⟨_, rfl⟩
          rw [reportsNegative_removed_iff]
          exact fun entry hentry => Bool.eq_false_iff.mpr fun hneg => hshown ⟨rfl, entries, rfl, entry, hentry, hneg⟩
      | _ => exact fun hby => absurd hby (by decide)
  | _ => trivial

/-- **Where refusals are reported as such:** everywhere, but for the entries of a reply to `rmuser`. -/
theorem reportsNegative_iff (s : Shell) {verb : Verb} {call : Call} {task : Task} (h : verb.Makes call task)
    (reply : Json) : s.ReportsNegative verb task reply ↔ ¬ verb.HidesRefusal reply :=
  ⟨fun hreports hhidden => s.not_reportsNegative_of_hidesRefusal h hhidden hreports,
    s.reportsNegative_of_not_hidesRefusal h⟩

/-- `adduser` reports the user that could not be added as an error. -/
theorem reportsNegative_adduser :
    let args : Arguments := [("group", .str "/g"), ("users", .list [.str "alice", .str "bob"])]
    let call : Call := { api := .group, op := "addusers", params := Json.ofMembers (Plan.memberParams args) }
    let reply : Json := .arr
      [Json.ofMembers [("status", .int 1), ("username", .str "alice")],
        Json.ofMembers [("status", .int (-1)), ("msg", .str "no such user bob")]]
    let s := Shell.new Commands.registry "/" "> " (Pager.new 24 true) { zone := 0 }
    Verb.adduser.Makes call .reportAdded ∧ s.ReportsNegative .adduser .reportAdded reply := by
  intro args call reply s
  have hmakes : Verb.adduser.Makes call .reportAdded :=
    ⟨s.surroundings, args, _, rfl, .call call .reportAdded⟩
  exact ⟨hmakes, (reportsNegative_iff s hmakes reply).mpr (by simp [Verb.HidesRefusal])⟩

/-- `rmuser` reports a user as removed whose entry says that there is none. -/
theorem not_reportsNegative_rmuser :
    let args : Arguments := [("group", .str "/g"), ("users", .str "bob")]
    let call : Call := { api := .group, op := "remusers", params := Json.ofMembers (Plan.memberParams args) }
    let reply : Json := .arr
      [Json.ofMembers [("status", .int (-1)), ("user", .str "bob"), ("msg", .str "no such user")]]
    let s := Shell.new Commands.registry "/" "> " (Pager.new 24 true) { zone := 0 }
    Verb.rmuser.Makes call .reportRemoved ∧ ¬ s.ReportsNegative .rmuser .reportRemoved reply := by
  intro args call reply s
  have hmakes : Verb.rmuser.Makes call .reportRemoved := ⟨s.surroundings, args, _, rfl, .call call .reportRemoved⟩
  exact ⟨hmakes, s.not_reportsNegative_of_hidesRefusal hmakes ⟨rfl, _, rfl, _, List.mem_singleton.mpr rfl, by decide⟩⟩

end Shell

end RemoteShell
