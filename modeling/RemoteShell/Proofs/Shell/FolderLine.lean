import RemoteShell.Commands.Table
import RemoteShell.Shell.Settle

/-!
# Lines that change the folder

What `cd` and `pushd` do to the shell, at the two moments when they do something. When the line is given, a folder is
asked for, and `pushd` remembers the working folder. When the outcome of the look-up has come, the shell either arrives
at a folder or is refused, and a refused `pushd` goes back. Apart from the session, a line adds a call to the queue, and
both may report an error; nothing else changes.

Main statements:

* `Task.conclude_enter`: what is done with the outcome of a look-up.
* `Shell.submit_folderLine`: what a line does.
* `Shell.conclude_enter`: what an outcome does.
-/

namespace RemoteShell

/-! ## Outcomes -/

/-- Where an outcome leads, if the folder was asked for: to the path of a container, or to the folder itself if the reply
names no path. -/
def arrival? (folder : String) : Outcome → Option String
  | .error _ => none
  | .ok value => match Reply.classify value with
    | .success value | .benign value =>
      let path := if value.field "path" == "" then folder else value.field "path"
      if (value.get? "container").bind Json.bool? = some true then some path else none
    | .failure _ | .list _ => none

/-- Whether an outcome leads nowhere: no answer, a negative status, a list, or something that is no container. -/
def isRefusal (outcome : Outcome) : Bool :=
  (arrival? "" outcome).isNone

/-- Whether an outcome is a refusal does not depend on the folder that was asked for. -/
theorem arrival?_eq_none_iff (folder : String) (outcome : Outcome) :
    arrival? folder outcome = none ↔ isRefusal outcome = true := by
  cases outcome with
  | error failure => simp [arrival?, isRefusal]
  | ok value =>
      cases hreply : Reply.classify value with
      | failure message => simp [arrival?, isRefusal, hreply]
      | list items => simp [arrival?, isRefusal, hreply]
      | success value | benign value =>
          by_cases hcontainer : (value.get? "container").bind Json.bool? = some true
          · simp [arrival?, isRefusal, hreply, hcontainer]
          · simp [arrival?, isRefusal, hreply, hcontainer]

theorem isRefusal_of_arrival? {folder path : String} {outcome : Outcome} (h : arrival? folder outcome = some path) :
    isRefusal outcome = false := by
  refine Bool.eq_false_iff.mpr ?_
  intro hrefused
  rw [(arrival?_eq_none_iff folder outcome).mpr hrefused] at h
  exact absurd h (by simp)

/-- **What is done with the outcome of a look-up:** the folder is entered, or an error is reported and, where the folder
before was remembered, gone back to. -/
theorem Task.conclude_enter (style : Style) (folder : String) (remember : Bool) (outcome : Outcome) :
    ∃ report, Task.conclude style (.enter folder remember) outcome = match arrival? folder outcome with
      | some path => [.enter path]
      | none => .error report :: if remember then [.back] else [] := by
  cases outcome with
  | error failure => exact ⟨_, rfl⟩
  | ok value =>
      have hunfold : Task.conclude style (.enter folder remember) (.ok value) =
          Task.enterReply folder remember (Reply.classify value) := rfl
      rw [hunfold]
      cases hreply : Reply.classify value with
      | failure message => exact ⟨_, by simp only [arrival?, hreply]; rfl⟩
      | list items => exact ⟨_, by simp only [arrival?, hreply]; rfl⟩
      | success value | benign value =>
          by_cases hcontainer : (value.get? "container").bind Json.bool? = some true
          · exact ⟨"", by simp [arrival?, hreply, hcontainer, Task.enterReply]⟩
          · exact ⟨_, by simp only [arrival?, hreply, hcontainer, Task.enterReply, if_false]; rfl⟩

/-! ## Lines -/

/-- The word that names the command of a line. -/
def commandWord? (text : String) : Option String :=
  (dropHints (tokenize text)).head?.map Token.text

/-- A line of `pushd`. -/
def IsPushLine (text : String) : Prop :=
  commandWord? text = some "pushd"

/-- A line of `cd` or `pushd`. -/
def IsFolderLine (text : String) : Prop :=
  commandWord? text = some "cd" ∨ IsPushLine text

instance (text : String) : Decidable (IsPushLine text) :=
  inferInstanceAs (Decidable (commandWord? text = some "pushd"))

instance (text : String) : Decidable (IsFolderLine text) :=
  inferInstanceAs (Decidable (commandWord? text = some "cd" ∨ IsPushLine text))

/-- The folder that a command asks for, and whether the working folder is to be remembered. -/
def Invocation.folderAsked? (home : String) (i : Invocation) : Option (String × Bool) :=
  match i.command.verb with
  | .cd => some ((i.args.str "dir").getD home, false)
  | .pushd => some ((i.args.str "dir").getD home, true)
  | _ => none

/-- The folder that a line asks for, if it can be read and asks for one. -/
def folderAsked? (home cwd text : String) : Option (String × Bool) :=
  match parseLine Commands.registry text cwd with
  | .ok (some i) => i.folderAsked? home
  | _ => none

/-- The call that looks a folder up. -/
def lookupCall (folder : String) : Call :=
  { api := .file, op := "lookup", params := Json.ofMembers [("path", .str folder)] }

theorem verb_of_lookup {word : String} {verb : Verb} (h : (Commands.registry.lookup word).map (·.verb) = some verb)
    {command : Command} (hlookup : Commands.registry.lookup word = some command) : command.verb = verb := by
  rw [hlookup] at h
  exact Option.some.inj h

/-- A line of a command that is declared is an error, or a call of that command. -/
theorem parseLine_of_commandWord? {text word : String} {verb : Verb} (hword : commandWord? text = some word)
    (hne : word ≠ "") (hverb : (Commands.registry.lookup word).map (·.verb) = some verb) (cwd : String) :
    (∃ e, parseLine Commands.registry text cwd = .error e) ∨
      ∃ i, parseLine Commands.registry text cwd = .ok (some i) ∧ i.command.verb = verb := by
  obtain ⟨command, hlookup⟩ : ∃ command, Commands.registry.lookup word = some command := by
    cases hlookup : Commands.registry.lookup word with
    | none => simp [hlookup] at hverb
    | some command => exact ⟨command, rfl⟩
  unfold commandWord? at hword
  unfold parseLine
  cases htokens : dropHints (tokenize text) with
  | nil => simp [htokens] at hword
  | cons head rest =>
      rw [htokens] at hword
      have htext : head.text = word := by simpa using hword
      by_cases hopen : head.isUnterminated = true
      · exact Or.inl ⟨_, by simp [parseTokens, hopen]; rfl⟩
      · cases hbind : command.bind rest cwd with
        | error e => exact Or.inl ⟨e, by simp [parseTokens, hopen, htext, hne, hlookup, hbind]⟩
        | ok args =>
            refine Or.inr ⟨{ command, args }, ?_, verb_of_lookup hverb hlookup⟩
            simp [parseTokens, hopen, htext, hne, hlookup, hbind]

/-- A line that asks for a folder remembers the one before exactly if it is a line of `pushd`. -/
theorem folderAsked?_of_isFolderLine {text : String} (h : IsFolderLine text) (home cwd : String) :
    (∃ e, parseLine Commands.registry text cwd = .error e) ∨
      ∃ i folder, parseLine Commands.registry text cwd = .ok (some i) ∧
        (i.command.verb = .cd ∧ i.folderAsked? home = some (folder, false) ∨
          i.command.verb = .pushd ∧ i.folderAsked? home = some (folder, true) ∧ IsPushLine text) := by
  rcases h with hcd | hpushd
  · rcases @parseLine_of_commandWord? text "cd" .cd hcd (by decide) (by decide +kernel) cwd with herror | ⟨i, hi, hverb⟩
    · exact Or.inl herror
    · exact Or.inr ⟨i, _, hi, Or.inl ⟨hverb, by simp only [Invocation.folderAsked?, hverb]; rfl⟩⟩
  · rcases @parseLine_of_commandWord? text "pushd" .pushd hpushd (by decide) (by decide +kernel) cwd with
      herror | ⟨i, hi, hverb⟩
    · exact Or.inl herror
    · exact Or.inr ⟨i, _, hi, Or.inr ⟨hverb, by simp only [Invocation.folderAsked?, hverb]; rfl, hpushd⟩⟩

theorem isPushLine_of_folderAsked? {text : String} (h : IsFolderLine text) {home cwd folder : String}
    (hasked : folderAsked? home cwd text = some (folder, true)) : IsPushLine text := by
  unfold folderAsked? at hasked
  rcases folderAsked?_of_isFolderLine h home cwd with ⟨e, herror⟩ | ⟨i, other, hi, hcd | hpushd⟩
  · simp [herror] at hasked
  · simp [hi, hcd.2] at hasked
  · exact hpushd.2.2

namespace Shell

/-- **What a line of `cd` or `pushd` does.** If it can be read, it adds the look-up of a folder to the queue; before that,
`pushd` remembers the working folder. -/
theorem submit_folderLine {s : Shell} (hregistry : s.registry = Commands.registry) (hpaging : s.isPaging = false)
    (hasking : s.isAsking = false) {text : String} (hline : IsFolderLine text) :
    ∃ console : Console, console.pager = s.console.pager ∧ console.reader = s.console.reader ∧
      s.submit text = match folderAsked? s.session.home s.session.cwd text with
        | some (folder, remember) =>
          { s with
            console, session := if remember then s.session.push else s.session
            ready := s.ready ++ [.call (lookupCall folder) (.task (.enter folder remember))] }
        | none => { s with console } := by
  have hsubmit : s.submit text = s.runCommand text := by simp [submit, hpaging, hasking]
  rw [hsubmit]
  rcases folderAsked?_of_isFolderLine hline s.session.home s.session.cwd with
    ⟨e, herror⟩ | ⟨i, folder, hi, hread⟩
  · have hnone : folderAsked? s.session.home s.session.cwd text = none := by simp [folderAsked?, herror]
    rw [← hregistry] at herror
    exact ⟨s.console.error (complaint e), rfl, rfl, by rw [hnone, runCommand, herror]⟩
  · have hsome : folderAsked? s.session.home s.session.cwd text = i.folderAsked? s.session.home := by
      simp [folderAsked?, hi]
    rw [← hregistry] at hi
    refine ⟨s.console, rfl, rfl, ?_⟩
    rw [hsome, runCommand, hi]
    rcases hread with ⟨hverb, hasked⟩ | ⟨hverb, hasked, -⟩
    · have hfolder : (i.args.str "dir").getD s.session.home = folder := by
        simpa [Invocation.folderAsked?, hverb] using hasked
      simp only [hasked, hverb, Plan.ofVerb, Plan.enter, hfolder]
      rfl
    · have hfolder : (i.args.str "dir").getD s.session.home = folder := by
        simpa [Invocation.folderAsked?, hverb] using hasked
      simp only [hasked, hverb, Plan.ofVerb, Plan.enter, hfolder]
      rfl

/-- **What the outcome of a look-up does.** The folder is entered, or a `pushd` goes back. -/
theorem conclude_enter (s : Shell) (folder : String) (remember : Bool) (outcome : Outcome) :
    ∃ console : Console, console.pager = s.console.pager ∧ console.reader = s.console.reader ∧
      s.conclude (.task (.enter folder remember)) outcome =
        { s with
          console
          session := match arrival? folder outcome with
            | some path => s.session.enter path
            | none => if remember then s.session.back else s.session } := by
  obtain ⟨report, hconclude⟩ := Task.conclude_enter s.console.style folder remember outcome
  have hunfold : s.conclude (.task (.enter folder remember)) outcome =
      s.performAll (Task.conclude s.console.style (.enter folder remember) outcome) := rfl
  rw [hunfold, hconclude]
  cases arrival? folder outcome with
  | some path => exact ⟨s.console, rfl, rfl, rfl⟩
  | none =>
      cases remember with
      | true => exact ⟨s.console.error report, rfl, rfl, rfl⟩
      | false => exact ⟨s.console.error report, rfl, rfl, rfl⟩

end Shell

end RemoteShell
