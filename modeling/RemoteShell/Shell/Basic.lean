import RemoteShell.Commands.Plan
import RemoteShell.Completion.Completer
import RemoteShell.Shell.Line
import RemoteShell.Terminal.Console

/-!
# The shell

The shell takes lines and turns them into output and pending work. A line goes to whatever owns the input: the pager
while it holds lines, the open chain of questions, and only then to the commands. A command returns at once; the calls
it leaves are jobs that are carried on between lines, so that several commands can wait for the service at the same
time.

A job that can go on is in the queue of ready jobs, first come, first served; a job that waits for the service or for
the user is set aside, and goes to the end of the queue when what it waits for has come.

Main statements:

* `submit_waiting`: a line never makes a job wait.
-/

namespace RemoteShell

/-- What the outcome of a call is for. -/
inductive Aim where
  /-- What a command does with it. -/
  | task (task : Task)
  /-- The completion with a number, for the request with a number. -/
  | completion (number request : Nat)
deriving DecidableEq, Repr

/-- A job that can go on. -/
inductive Job where
  /-- A call still to be made. -/
  | call (call : Call) (aim : Aim)
  /-- A completion still to be started. -/
  | complete (number : Nat) (line : String) (pos : Nat) (cwd : String)
  /-- A letter whose questions have been asked in the chain with a number. -/
  | compose (chain : Nat) (letter : Letter)
  /-- A letter whose questions are answered. -/
  | send (letter : Letter) (answers : Answers)
  /-- A call whose outcome has come. -/
  | conclude (aim : Aim) (outcome : Outcome)

/-- A job that waits. -/
inductive Waiting where
  /-- For the outcome of the call with a number. -/
  | reply (ticket : Nat) (aim : Aim)
  /-- For the answers to the chain of questions with a number. -/
  | answers (chain : Nat) (letter : Letter)
deriving DecidableEq, Repr

/-- The letter of a waiting job, if it waits for the chain `id`. -/
def Waiting.letter? (id : Nat) : Waiting → Option Letter
  | .answers chain letter => if chain = id then some letter else none
  | .reply _ _ => none

/-- A job, with the answers to the chain `id` if it is about that. -/
def Job.answered (id : Nat) (answers : Answers) : Job → Job
  | .compose chain letter => if chain = id then .send letter answers else .compose chain letter
  | job => job

/-- What the call with a number is for, if a waiting job waits for it. -/
def Waiting.aim? (ticket : Nat) : Waiting → Option Aim
  | .reply number aim => if number = ticket then some aim else none
  | .answers _ _ => none

/-- The state of the shell. -/
structure Shell where
  registry : Registry
  session : Session
  console : Console
  completer : Completer := {}
  /-- The jobs that can go on, the next one first. -/
  ready : List Job := []
  /-- The jobs that wait. -/
  waiting : List Waiting := []
  /-- How many calls have been made. -/
  calls : Nat := 0
  /-- How many completions have been asked for. -/
  completions : Nat := 0
  /-- The completions answered and not yet handed over, each with its number. -/
  completed : List (Nat × Completion) := []

namespace Shell

/-- A shell in the folder `home`, with a prompt, a pager and a style. -/
def new (registry : Registry) (home prompt : String) (pager : Pager) (style : Style) : Shell :=
  { registry, session := Session.new home, console := { pager, prompt, style } }

/-- Whether there are jobs. -/
def hasPending (s : Shell) : Bool :=
  !s.ready.isEmpty || !s.waiting.isEmpty

/-- Whether a chain of questions is open. -/
def isAsking (s : Shell) : Bool :=
  s.console.reader.isActive

/-- Whether the pager holds lines. -/
def isPaging (s : Shell) : Bool :=
  s.console.pager.isActive

/-- Carries an effect out. -/
def perform (s : Shell) : Effect → Shell
  | .echo line => { s with console := s.console.echo line }
  | .error line => { s with console := s.console.error line }
  | .page lines => { s with console := s.console.page lines }
  | .enter folder => { s with session := s.session.enter folder }
  | .push => { s with session := s.session.push }
  | .back => { s with session := s.session.back }
  | .setPaging enabled => { s with console := s.console.setPaging enabled }
  | .exit => { s with session := s.session.exit }

/-- Carries effects out, in order. -/
def performAll (s : Shell) (effects : List Effect) : Shell :=
  effects.foldl perform s

/-- Puts a job at the end of the queue. -/
def enqueue (s : Shell) (job : Job) : Shell :=
  { s with ready := s.ready ++ [job] }

/-! ## Questions -/

/-- Hands the answers to a chain of questions to the letter they are for. A letter that waits goes to the end of the
queue, one that is in the queue keeps its place. -/
def answerLetter (s : Shell) (id : Nat) (answers : Answers) : Shell :=
  let woken := s.waiting.filterMap (Waiting.letter? id)
  { s with
    ready := s.ready.map (Job.answered id answers) ++ woken.map (Job.send · answers)
    waiting := s.waiting.filter fun w => (Waiting.letter? id w).isNone }

/-- Takes over what a step of the console came to. -/
def follow (s : Shell) (step : Console × Option (Nat × Answers)) : Shell :=
  let next := { s with console := step.1 }
  match step.2 with
  | some (id, answers) => next.answerLetter id answers
  | none => next

/-! ## Lines -/

/-- Takes the work on that a command leaves. -/
def undertake (s : Shell) : Work → Shell
  | .call call task => s.enqueue (.call call (.task task))
  | .letter letter =>
    (s.enqueue (.compose s.console.reader.asked letter)).follow (s.console.read Letter.questions)

/-- Carries a plan out. -/
def carryOut (s : Shell) (plan : Plan) : Shell :=
  let next := s.performAll plan.effects
  match plan.work with
  | some work => next.undertake work
  | none => next

/-- What is reported about a line that is no command. -/
def complaint : ParseError → String
  | .unknownCommand _ => "Unknown command"
  | e => e.message

/-- Runs a line as a command. -/
def runCommand (s : Shell) (line : String) : Shell :=
  match parseLine s.registry line s.session.cwd with
  | .error e => { s with console := s.console.error (complaint e) }
  | .ok none => s
  | .ok (some i) =>
    s.carryOut
      (Plan.ofVerb { registry := s.registry, session := s.session, paging := s.console.paging } i.args i.command.verb)

/-- Takes a line. -/
def submit (s : Shell) (line : String) : Shell :=
  if s.isPaging then { s with console := s.console.pagerKey line }
  else if s.isAsking then s.follow (s.console.answer line)
  else s.runCommand line

/-- Gives completions up, and what owns the input. -/
def interrupt (s : Shell) : Shell :=
  { s with completer := s.completer.reset }.follow s.console.interrupt

/-- Asks for a completion of a line with the cursor at a byte offset. While the input is owned by something else than
the commands, there is nothing to offer. -/
def complete (s : Shell) (line : String) (pos : Nat) : Shell :=
  let counted := { s with completions := s.completions + 1 }
  if s.isPaging || s.isAsking then { counted with completed := s.completed ++ [(s.completions, .nothing)] }
  else counted.enqueue (.complete s.completions line pos s.session.cwd)

/-! ## Outcomes -/

/-- Does what the outcome of a call is for. -/
def conclude (s : Shell) (aim : Aim) (outcome : Outcome) : Shell :=
  match aim with
  | .task task => s.performAll (task.conclude s.console.style outcome)
  | .completion number request =>
    let (completer, answer) := s.completer.resolve request outcome
    { s with completer, completed := s.completed ++ [(number, answer)] }

/-- Takes the outcome of a call that is waited for. -/
def deliver (s : Shell) (ticket : Nat) (outcome : Outcome) : Shell :=
  let woken := s.waiting.filterMap (Waiting.aim? ticket)
  { s with
    ready := s.ready ++ woken.map (Job.conclude · outcome)
    waiting := s.waiting.filter fun w => (Waiting.aim? ticket w).isNone }

/-- Takes the output that has not been printed. -/
def drain (s : Shell) : Shell × List OutputLine :=
  let (console, lines) := s.console.drain
  ({ s with console }, lines)

/-- Takes the completions that have been answered. -/
def takeCompleted (s : Shell) : Shell × List (Nat × Completion) :=
  ({ s with completed := [] }, s.completed)

/-- **While the pager holds lines, a line is a key for it.** -/
theorem submit_pager {s : Shell} (h : s.isPaging = true) (line : String) :
    s.submit line = { s with console := s.console.pagerKey line } := by
  simp [submit, h]

theorem perform_waiting (s : Shell) (e : Effect) : (s.perform e).waiting = s.waiting := by
  cases e <;> rfl

theorem performAll_waiting (s : Shell) (effects : List Effect) : (s.performAll effects).waiting = s.waiting := by
  induction effects generalizing s with
  | nil => rfl
  | cons e rest ih => exact (ih (s.perform e)).trans (perform_waiting s e)

theorem follow_waiting_sublist (s : Shell) (step : Console × Option (Nat × Answers)) :
    (s.follow step).waiting.Sublist s.waiting := by
  unfold follow
  dsimp only
  split
  · exact List.filter_sublist
  · exact List.Sublist.refl _

theorem undertake_waiting_sublist (s : Shell) (work : Work) : (s.undertake work).waiting.Sublist s.waiting := by
  cases work with
  | call call task => exact List.Sublist.refl _
  | letter letter => exact follow_waiting_sublist _ _

/-- A line never makes a job wait. -/
theorem submit_waiting (s : Shell) (line : String) : (s.submit line).waiting.Sublist s.waiting := by
  unfold submit
  split
  · exact List.Sublist.refl _
  · split
    · exact follow_waiting_sublist _ _
    · unfold runCommand
      split
      · exact List.Sublist.refl _
      · exact List.Sublist.refl _
      · unfold carryOut
        dsimp only
        split
        · exact (performAll_waiting s _) ▸ undertake_waiting_sublist _ _
        · exact (performAll_waiting s _) ▸ List.Sublist.refl _

end Shell

end RemoteShell
