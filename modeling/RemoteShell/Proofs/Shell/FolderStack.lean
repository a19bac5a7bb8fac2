import RemoteShell.Proofs.Shell.FolderRun

/-!
# Folders as a stack

Lines of `cd`, `pushd` and `popd` are given one after the other, each when all work that the one before has left is done.
What they make of the working folder and the folders remembered is told by a machine that knows no jobs: a look-up that
leads to a folder is one move, to enter it or to push it, any other look-up is none, and `popd` is a pop.

The shell gets there on another way. A `pushd` remembers the working folder when it is given and enters the other one
when the outcome has come; in between the two folders do not belong to any state of the machine. The outcome settles it:
either the folder is entered, or what was remembered is taken back while the working folder is still the same.

Main statements:

* `destination?_eq_arrival?`: where a look-up leads.
* `Shell.conduct_folderLine`, `Shell.conduct_popLine`: one line, carried through.
* `Shell.stack_conductAll`: the shell is where the machine is, after any lines.
-/

namespace RemoteShell

/-! ## The machine -/

/-- The working folder, and the folders remembered, the last one first. -/
structure FolderStack where
  cwd : String
  remembered : List String
deriving DecidableEq, Repr

/-- What a line comes to. -/
inductive FolderMove where
  | stay
  | enter (folder : String)
  | push (folder : String)
  | pop
deriving DecidableEq, Repr

/-- Where a look-up of a folder leads: an object that does not report an error and is marked as a container leads to its
path, or to the folder itself if it names none. Nothing else leads anywhere. -/
def destination? (folder : String) : Outcome → Option String
  | .ok (.obj members) =>
    let reply := Json.obj members
    if (reply.status.any (· < 0)) then none
    else if reply.get? "container" = some (.bool true) then
      some (if reply.field "path" = "" then folder else reply.field "path")
    else none
  | _ => none

/-- A line, what the service answers to a call of it, and whether it does so at once. -/
structure AnsweredLine where
  text : String
  answer : Call → Outcome
  atOnce : Bool

namespace FolderStack

/-- Makes a move. There is nothing to pop from an empty stack. -/
def apply (f : FolderStack) : FolderMove → FolderStack
  | .stay => f
  | .enter folder => { f with cwd := folder }
  | .push folder => { cwd := folder, remembered := f.cwd :: f.remembered }
  | .pop => match f.remembered with
    | [] => f
    | folder :: rest => { cwd := folder, remembered := rest }

/-- What a line comes to. -/
def move (home : String) (f : FolderStack) (line : AnsweredLine) : FolderMove :=
  match parseLine Commands.registry line.text f.cwd with
  | .ok (some i) =>
    let folder := (i.args.str "dir").getD home
    match i.command.verb with
    | .cd => ((destination? folder (line.answer (lookupCall folder))).map .enter).getD .stay
    | .pushd => ((destination? folder (line.answer (lookupCall folder))).map .push).getD .stay
    | .popd => .pop
    | _ => .stay
  | _ => .stay

/-- What some lines come to, one after the other. -/
def moves (home : String) (f : FolderStack) : List AnsweredLine → List FolderMove
  | [] => []
  | line :: rest => f.move home line :: moves home (f.apply (f.move home line)) rest

/-- Where some lines lead. -/
def run (home : String) (f : FolderStack) (lines : List AnsweredLine) : FolderStack :=
  lines.foldl (fun f line => f.apply (f.move home line)) f

end FolderStack

/-- Moves in which every push is followed by its pop. Lines that come to nothing may stand anywhere. -/
inductive IsBalanced : List FolderMove → Prop
  | nil : IsBalanced []
  | stay {rest : List FolderMove} (tail : IsBalanced rest) : IsBalanced (.stay :: rest)
  | nested {folder : String} {inner rest : List FolderMove} (inside : IsBalanced inner) (tail : IsBalanced rest) :
      IsBalanced (.push folder :: (inner ++ .pop :: rest))

namespace FolderStack

theorem run_eq_foldl_moves (home : String) (f : FolderStack) (lines : List AnsweredLine) :
    f.run home lines = (f.moves home lines).foldl apply f := by
  induction lines generalizing f with
  | nil => rfl
  | cons line rest ih => exact ih (f.apply (f.move home line))

/-- **Balanced moves lead back to where they began.** -/
theorem foldl_apply_of_isBalanced {moves : List FolderMove} (h : IsBalanced moves) (f : FolderStack) :
    moves.foldl apply f = f := by
  induction h generalizing f with
  | nil => rfl
  | stay tail ih => exact ih f
  | @nested folder inner rest inside tail ihInner ihRest =>
      rw [List.foldl_cons, List.foldl_append, ihInner, List.foldl_cons]
      exact ihRest f

end FolderStack

/-- **Where a look-up leads** is where the shell arrives. -/
theorem destination?_eq_arrival? (folder : String) (outcome : Outcome) :
    destination? folder outcome = arrival? folder outcome := by
  cases outcome with
  | error failure => rfl
  | ok value =>
      cases value with
      | obj members =>
          have hcontainer : ((Json.obj members).get? "container").bind Json.bool? = some true ↔
              (Json.obj members).get? "container" = some (.bool true) := by
            rw [Option.bind_eq_some_iff]
            constructor
            · rintro ⟨value, hvalue, htrue⟩
              cases value with
              | bool flag => rw [hvalue, Option.some.inj htrue]
              | _ => cases htrue
            · intro hvalue
              exact ⟨_, hvalue, rfl⟩
          cases hstatus : (Json.obj members).status with
          | none => simp [destination?, arrival?, Reply.classify, hstatus, hcontainer]
          | some status =>
              by_cases hnegative : status < 0
              · simp [destination?, arrival?, Reply.classify, hstatus, hnegative]
              · by_cases hzero : status = 0
                · simp [destination?, arrival?, Reply.classify, hstatus, hzero, hcontainer]
                · simp [destination?, arrival?, Reply.classify, hstatus, hnegative, hzero, hcontainer]
      | arr items => rfl
      | _ => rfl

/-! ## One line, carried through -/

/-- The service of a line: it answers at once or not at all, and keeps the call. -/
def AnsweredLine.service (line : AnsweredLine) : Service (Option Call) :=
  fun _ call _ => (if line.atOnce then some (line.answer call) else none, some call)

/-- A line of `popd`. -/
def IsPopLine (text : String) : Prop :=
  commandWord? text = some "popd"

/-- A line of `cd`, `pushd` or `popd`. -/
def IsStackLine (text : String) : Prop :=
  IsFolderLine text ∨ IsPopLine text

instance (text : String) : Decidable (IsPopLine text) :=
  inferInstanceAs (Decidable (commandWord? text = some "popd"))

instance (text : String) : Decidable (IsStackLine text) :=
  inferInstanceAs (Decidable (IsFolderLine text ∨ IsPopLine text))

namespace Shell

/-- The folders of a shell. -/
def stack (s : Shell) : FolderStack :=
  { cwd := s.session.cwd, remembered := s.session.remembered }

/-- Gives a line and carries its work through: the service is asked, and where it has not answered at once, its answer is
delivered and the job that waited for it carried on. -/
def conduct (s : Shell) (line : AnsweredLine) : Shell :=
  match settle line.service (s.submit line.text) none with
  | (next, none) => next
  | (next, some call) => (settle line.service (next.deliver s.calls (line.answer call)) none).1

/-- Gives some lines, each when the work of the one before is done. -/
def conductAll (s : Shell) (lines : List AnsweredLine) : Shell :=
  lines.foldl conduct s

/-- A shell that has nothing to do and waits for nothing. -/
structure Rests (s : Shell) : Prop extends s.IsIdle where
  waiting : s.waiting = []

variable {s : Shell} {line : AnsweredLine}

/-- Where no job waits, an outcome comes for nothing. -/
theorem deliver_of_waiting_nil (hwaiting : s.waiting = []) (ticket : Nat) (outcome : Outcome) :
    s.deliver ticket outcome = s := by
  obtain ⟨registry, session, console, completer, ready, waiting, calls, completions, completed⟩ := s
  simp only at hwaiting
  subst hwaiting
  simp [deliver]

/-- The only job that waits is woken by its outcome. -/
theorem deliver_of_waiting_singleton (hready : s.ready = []) {ticket : Nat} {aim : Aim}
    (hwaiting : s.waiting = [.reply ticket aim]) (outcome : Outcome) :
    s.deliver ticket outcome = { s with ready := [.conclude aim outcome], waiting := [] } := by
  simp [deliver, hready, hwaiting, Waiting.aim?]

/-- A line that leaves no job. -/
theorem conduct_of_ready_nil (hready : (s.submit line.text).ready = []) : s.conduct line = s.submit line.text := by
  rw [conduct, settle_nil line.service hready]

/-- A line that leaves a call. Whether it is answered at once or later, the outcome is concluded. -/
theorem conduct_of_ready_call {next : Shell} {call : Call} {task : Task}
    (hsubmit : s.submit line.text = { next with ready := [.call call (.task task)] }) (hasking : next.isAsking = false)
    (hready : next.ready = []) (hwaiting : next.waiting = []) (hcalls : next.calls = s.calls) :
    s.conduct line = { next with calls := next.calls + 1 }.conclude (.task task) (line.answer call) := by
  obtain ⟨registry, session, console, completer, ready, waiting, calls, completions, completed⟩ := next
  simp only at hready hwaiting hcalls
  subst hready hwaiting hcalls
  have hasking' : ∀ ready waiting calls, Shell.isAsking
      { registry, session, console, completer, ready, waiting, calls, completions, completed } = false :=
    fun _ _ _ => hasking
  rw [conduct, hsubmit, settle_singleton line.service (hasking' _ _ _) rfl]
  cases hatOnce : line.atOnce with
  | true =>
      simp only [attend, place, AnsweredLine.service, hatOnce, if_true]
      -- The outcome that is delivered once more finds no job.
      rw [deliver_of_waiting_nil (performAll_waiting _ _), settle_nil line.service (performAll_ready _ _)]
  | false =>
      simp only [attend, place, AnsweredLine.service, hatOnce, Bool.false_eq_true, if_false, List.nil_append]
      rw [deliver_of_waiting_singleton rfl rfl, settle_singleton line.service (hasking' _ _ _) rfl]
      rfl

/-- **A line of `cd` or `pushd`, carried through.** If its look-up leads somewhere, the folder is entered, behind the
one before if that is to be remembered. Otherwise the session is as it was. -/
theorem conduct_folderLine (h : s.Rests) (hline : IsFolderLine line.text) :
    ∃ console : Console, ∃ calls, console.pager = s.console.pager ∧ console.reader = s.console.reader ∧
      s.conduct line = { s with
        console, calls
        session := match folderAsked? s.session.home s.session.cwd line.text with
          | some (folder, remember) => match arrival? folder (line.answer (lookupCall folder)) with
            | some path => (if remember then s.session.push else s.session).enter path
            | none => s.session
          | none => s.session } := by
  obtain ⟨console, hpager, hreader, hsubmit⟩ :=
    submit_folderLine h.registry h.paging h.asking hline
  have hasking : console.reader.isActive = false := by
    rw [hreader]
    exact h.asking
  cases hasked : folderAsked? s.session.home s.session.cwd line.text with
  | none =>
      rw [hasked] at hsubmit
      refine ⟨console, s.calls, hpager, hreader, ?_⟩
      rw [conduct_of_ready_nil (by rw [hsubmit]; exact h.ready), hsubmit]
  | some asked =>
      obtain ⟨folder, remember⟩ := asked
      rw [hasked, h.ready] at hsubmit
      have hconduct := @conduct_of_ready_call s line
        { s with console, session := if remember then s.session.push else s.session }
        _ _ hsubmit hasking h.ready h.waiting rfl
      obtain ⟨console', hpager', hreader', hconclude⟩ := conclude_enter
        { s with console, session := if remember then s.session.push else s.session, calls := s.calls + 1 }
        folder remember (line.answer (lookupCall folder))
      refine ⟨console', s.calls + 1, hpager'.trans hpager, hreader'.trans hreader, ?_⟩
      rw [hconduct, hconclude]
      dsimp only
      cases arrival? folder (line.answer (lookupCall folder)) with
      | some path => rfl
      | none =>
          -- What was remembered is taken back.
          cases remember <;> rfl

/-- **A line of `popd`, carried through.** -/
theorem conduct_popLine (h : s.Rests) (hline : IsPopLine line.text) :
    ∃ console : Console, console.pager = s.console.pager ∧ console.reader = s.console.reader ∧
      s.conduct line = { s with
        console
        session := match parseLine Commands.registry line.text s.session.cwd with
          | .ok _ => s.session.back
          | .error _ => s.session } := by
  have hsubmit : s.submit line.text = s.runCommand line.text := by
    simp [submit, h.paging, h.asking]
  rcases @parseLine_of_commandWord? line.text "popd" .popd hline (by decide) (by decide +kernel) s.session.cwd with
    ⟨e, herror⟩ | ⟨i, hi, hverb⟩
  · have hrun : s.submit line.text = { s with console := s.console.error (complaint e) } := by
      rw [hsubmit, runCommand, h.registry, herror]
    refine ⟨s.console.error (complaint e), rfl, rfl, ?_⟩
    rw [conduct_of_ready_nil (by rw [hrun]; exact h.ready), hrun, herror]
  · have hrun : s.submit line.text = s.performAll (Plan.goBack s.session) := by
      rw [hsubmit, runCommand, h.registry, hi]
      simp only [hverb, Plan.ofVerb]
      rfl
    have hready : (s.submit line.text).ready = [] := by rw [hrun, performAll_ready, h.ready]
    rw [conduct_of_ready_nil hready, hrun, hi, Plan.goBack]
    cases hremembered : s.session.remembered with
    | nil =>
        refine ⟨s.console.echo "Directory stack is empty.", rfl, rfl, ?_⟩
        simp [performAll, perform, Session.back, hremembered]
    | cons folder rest =>
        exact ⟨s.console.echo folder, rfl, rfl, rfl⟩

end Shell

/-! ## The shell and the machine -/

/-- A line of `cd` or `pushd` moves to where its look-up leads. -/
theorem FolderStack.apply_move_of_isFolderLine {line : AnsweredLine} (hline : IsFolderLine line.text) (home : String)
    (f : FolderStack) :
    f.apply (f.move home line) = match folderAsked? home f.cwd line.text with
      | some (folder, remember) => match arrival? folder (line.answer (lookupCall folder)) with
        | some path => { cwd := path, remembered := if remember then f.cwd :: f.remembered else f.remembered }
        | none => f
      | none => f := by
  unfold move
  rcases folderAsked?_of_isFolderLine hline home f.cwd with
    ⟨e, herror⟩ | ⟨i, folder, hi, ⟨hverb, hasked⟩ | ⟨hverb, hasked, -⟩⟩
  · simp [folderAsked?, herror, apply]
  · have hfolder : (i.args.str "dir").getD home = folder := by simpa [Invocation.folderAsked?, hverb] using hasked
    simp only [folderAsked?, hi, hverb, hasked, hfolder, destination?_eq_arrival?]
    cases arrival? folder (line.answer (lookupCall folder)) <;> rfl
  · have hfolder : (i.args.str "dir").getD home = folder := by simpa [Invocation.folderAsked?, hverb] using hasked
    simp only [folderAsked?, hi, hverb, hasked, hfolder, destination?_eq_arrival?]
    cases arrival? folder (line.answer (lookupCall folder)) <;> rfl

/-- A line of `popd` pops, if it can be read. -/
theorem FolderStack.apply_move_of_isPopLine {line : AnsweredLine} (hline : IsPopLine line.text) (home : String)
    (f : FolderStack) :
    f.apply (f.move home line) = match parseLine Commands.registry line.text f.cwd with
      | .ok _ => f.apply .pop
      | .error _ => f := by
  unfold move
  rcases @parseLine_of_commandWord? line.text "popd" .popd hline (by decide) (by decide +kernel) f.cwd with
    ⟨e, herror⟩ | ⟨i, hi, hverb⟩
  · simp [herror, apply]
  · simp [hi, hverb]

namespace Shell

variable {s : Shell} {line : AnsweredLine}

/-- With another session and another console, whose pager and reader are as they were, a shell still rests. -/
theorem Rests.of_console (h : s.Rests) {session : Session} {console : Console} {calls : Nat}
    (hpager : console.pager = s.console.pager) (hreader : console.reader = s.console.reader) :
    { s with session, console, calls }.Rests where
  toIsIdle := Course.isIdle_of_console h.toIsIdle rfl hpager hreader h.ready
  waiting := h.waiting

/-- **One line.** The shell rests again, and its folders have made the move of the machine. -/
theorem stack_conduct (h : s.Rests) (hline : IsStackLine line.text) :
    (s.conduct line).Rests ∧ (s.conduct line).session.home = s.session.home ∧
      (s.conduct line).stack = s.stack.apply (s.stack.move s.session.home line) := by
  rcases hline with hfolder | hpop
  · obtain ⟨console, calls, hpager, hreader, hconduct⟩ := conduct_folderLine h hfolder
    rw [FolderStack.apply_move_of_isFolderLine hfolder, hconduct]
    refine ⟨h.of_console hpager hreader, ?_⟩
    simp only [stack]
    cases folderAsked? s.session.home s.session.cwd line.text with
    | none => exact ⟨rfl, rfl⟩
    | some asked =>
        obtain ⟨folder, remember⟩ := asked
        dsimp only
        cases arrival? folder (line.answer (lookupCall folder)) with
        | none => exact ⟨rfl, rfl⟩
        | some path => cases remember <;> exact ⟨rfl, rfl⟩
  · obtain ⟨console, hpager, hreader, hconduct⟩ := conduct_popLine h hpop
    rw [FolderStack.apply_move_of_isPopLine hpop, hconduct]
    refine ⟨h.of_console hpager hreader, ?_⟩
    simp only [stack]
    cases parseLine Commands.registry line.text s.session.cwd with
    | error e => exact ⟨rfl, rfl⟩
    | ok parsed =>
        generalize s.session = session
        obtain ⟨cwd, remembered, home, exiting⟩ := session
        cases remembered <;> exact ⟨rfl, rfl⟩

/-- After any lines the shell rests, and its folders are those of the machine. -/
theorem rests_conductAll (h : s.Rests) {lines : List AnsweredLine} (hlines : ∀ line ∈ lines, IsStackLine line.text) :
    (s.conductAll lines).Rests ∧ (s.conductAll lines).stack = s.stack.run s.session.home lines := by
  induction lines generalizing s with
  | nil => exact ⟨h, rfl⟩
  | cons line rest ih =>
      obtain ⟨hline, hrest⟩ := List.forall_mem_cons.mp hlines
      obtain ⟨hrests, hhome, hstack⟩ := stack_conduct h hline
      obtain ⟨hend, hrun⟩ := ih hrests hrest
      refine ⟨hend, hrun.trans ?_⟩
      rw [hhome, hstack]
      rfl

theorem Rests.hasPending (h : s.Rests) : s.hasPending = false := by
  simp [Shell.hasPending, h.ready, h.waiting]

/-- **The shell is where the machine is.** Let lines of `cd`, `pushd` and `popd` be given to a shell that rests, each when
the work of the one before is done, whatever the service answers to them and however late. Nothing is pending then, and
the working folder and the folders remembered are those of the machine. So moves that are balanced leave both as they
were. -/
theorem stack_conductAll (h : s.Rests) {lines : List AnsweredLine} (hlines : ∀ line ∈ lines, IsStackLine line.text) :
    (s.conductAll lines).hasPending = false ∧ (s.conductAll lines).stack = s.stack.run s.session.home lines ∧
      (IsBalanced (s.stack.moves s.session.home lines) → (s.conductAll lines).stack = s.stack) := by
  obtain ⟨hrests, hstack⟩ := rests_conductAll h hlines
  refine ⟨hrests.hasPending, hstack, ?_⟩
  intro hbalanced
  rw [hstack, FolderStack.run_eq_foldl_moves, FolderStack.foldl_apply_of_isBalanced hbalanced]

/-- Two folders are pushed, one at once and one later, and a third one in between is refused. -/
theorem stack_conductAll_pushd :
    let s := Shell.new Commands.registry "/home/a" "> " (Pager.new 24 true) { zone := 0 }
    let container : Call → Outcome := fun _ => .ok (.obj [("container", .bool true)])
    let lines : List AnsweredLine :=
      [⟨"pushd /a", container, true⟩, ⟨"pushd b", fun _ => .error (.status 404 ""), false⟩, ⟨"pushd b", container, false⟩,
        ⟨"popd", container, true⟩, ⟨"popd", container, true⟩]
    s.Rests ∧ (∀ line ∈ lines, IsStackLine line.text) ∧
      s.stack.moves s.session.home lines = [.push "/a", .stay, .push "/a/b", .pop, .pop] ∧
      (s.conductAll lines).hasPending = false ∧ (s.conductAll lines).stack = { cwd := "/home/a", remembered := [] } := by
  intro s container lines
  have hrests : s.Rests := ⟨⟨rfl, rfl, rfl, rfl⟩, rfl⟩
  have hlines : ∀ line ∈ lines, IsStackLine line.text := by decide +kernel
  have hmoves : s.stack.moves s.session.home lines = [.push "/a", .stay, .push "/a/b", .pop, .pop] := by decide +kernel
  have hinner : IsBalanced [.stay, .push "/a/b", .pop] := .stay (@IsBalanced.nested "/a/b" [] [] .nil .nil)
  have hbalanced : IsBalanced (s.stack.moves s.session.home lines) := by
    rw [hmoves]
    exact @IsBalanced.nested "/a" _ [] hinner .nil
  obtain ⟨hpending, -, hback⟩ := stack_conductAll hrests hlines
  have hstart : s.stack = { cwd := "/home/a", remembered := [] } := by decide +kernel
  exact ⟨hrests, hlines, hmoves, hpending, (hback hbalanced).trans hstart⟩

end Shell

end RemoteShell
