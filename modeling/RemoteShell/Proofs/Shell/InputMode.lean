import RemoteShell.Commands.Table
import RemoteShell.Proofs.Shell.JobLaw

/-!
# Who takes the line

The pager and an open chain of questions take the typed line over, and they come and go independently of each other: a
reply can start the pager in the middle of a chain. The mode of the shell says in one place who takes the next line, and
whatever has to agree about it is compared with the mode: the line itself, the prompt, an interruption and a completion.

A chain is opened by a line that is run as a command. So it is never opened while another one is open, and no letter is
told that the input is busy: no job says so, whatever has happened to the shell.

Main statements:

* `Shell.takesLine_inputMode`: what a line does in each mode.
* `Shell.promptText_inputMode`, `Shell.interrupt_inputMode`, `Shell.complete_inputMode`: prompt, interruption and
  completion follow the mode.
* `Shell.jobLaw_hasInput`: no job is ever told that the input is busy.
* `Shell.one_input_mode`: all of it, in every state that a shell can come to.
-/

namespace RemoteShell

/-- Who takes the next line. -/
inductive InputMode where
  /-- The pager. -/
  | pager
  /-- The open chain of questions. -/
  | question (chain : Chain)
  /-- The commands. -/
  | command
deriving DecidableEq

/-- The prompt that names a mode, with the shell's own prompt for commands. -/
def InputMode.prompt (own : String) : InputMode → String
  | .pager => Pager.morePrompt
  | .question chain => chain.current.prompt
  | .command => own

namespace Shell

/-- Who takes the next line of a shell. -/
def inputMode (s : Shell) : InputMode :=
  if s.isPaging then .pager
  else match s.console.reader.chain with
    | some chain => .question chain
    | none => .command

/-- **What a line does to a shell in each mode.** The pager takes a line for a key, and only the pager and the output
change. A chain takes it for an answer: only the reader and the output change, and when that was the last answer, the
jobs that are about this chain have the answers. As a command, a line that does not parse is one error line, a line
without a command is nothing, and any other line has its plan carried out. -/
def TakesLine (s : Shell) (line : String) (next : Shell) : InputMode → Prop
  | .pager =>
    let (pager, shown) := s.console.pager.key line
    next = { s with console := { s.console with pager, queue := s.console.queue ++ shown.map .echo } }
  | .question chain =>
    let step := s.console.reader.answer line
    let console := { s.console with reader := step.reader, queue := s.console.queue ++ step.shown.map .echo }
    (step.reader.isActive = true ∧ next = { s with console }) ∨
      (step.reader.isActive = false ∧ ∃ texts, next = { s with
        console
        ready := s.ready.map (Job.answered chain.id (.ok texts)) ++
          (s.waiting.filterMap (Waiting.letter? chain.id)).map (Job.send · (.ok texts))
        waiting := s.waiting.filter fun w => (Waiting.letter? chain.id w).isNone })
  | .command => match parseLine s.registry line s.session.cwd with
    | .error e =>
      next = { s with console := { s.console with queue := s.console.queue ++ [.error (complaint e)] } }
    | .ok none => next = s
    | .ok (some i) => next = s.carryOut (Plan.ofVerb s.surroundings i.args i.command.verb)

end Shell

/-- A job that has not been told that the input is busy. -/
def Job.HasInput (job : Job) : Prop :=
  ∀ letter, job ≠ .send letter (.error .busy)

namespace Shell

/-! ## The mode -/

theorem inputMode_pager {s : Shell} (h : s.isPaging = true) : s.inputMode = .pager := by
  rw [inputMode, if_pos h]

theorem inputMode_question {s : Shell} (h : s.isPaging = false) {chain : Chain}
    (hchain : s.console.reader.chain = some chain) : s.inputMode = .question chain := by
  simp [inputMode, h, hchain]

theorem inputMode_command {s : Shell} (h : s.isPaging = false) (hchain : s.console.reader.chain = none) :
    s.inputMode = .command := by
  simp [inputMode, h, hchain]

/-- A shell is in one of three modes. -/
theorem inputMode_cases (s : Shell) :
    s.isPaging = true ∨ (s.isPaging = false ∧ ∃ chain, s.console.reader.chain = some chain) ∨
      (s.isPaging = false ∧ s.console.reader.chain = none) := by
  cases hpaging : s.isPaging with
  | true => exact Or.inl rfl
  | false =>
      cases hchain : s.console.reader.chain with
      | some chain => exact Or.inr (Or.inl ⟨rfl, chain, rfl⟩)
      | none => exact Or.inr (Or.inr ⟨rfl, rfl⟩)

/-- The commands have the input only if nothing else has it. -/
theorem idle_of_command {s : Shell} (h : s.inputMode = .command) :
    s.isPaging = false ∧ s.console.reader.chain = none := by
  rcases s.inputMode_cases with hpaging | ⟨hidle, chain, hchain⟩ | hclosed
  · simp [inputMode_pager hpaging] at h
  · simp [inputMode_question hidle hchain] at h
  · exact hclosed

theorem isAsking_of_open {s : Shell} {chain : Chain} (h : s.console.reader.chain = some chain) : s.isAsking = true := by
  simp [isAsking, Reader.isActive, h]

theorem isAsking_of_closed {s : Shell} (h : s.console.reader.chain = none) : s.isAsking = false := by
  simp [isAsking, Reader.isActive, h]

/-- While a chain of questions is open, a line is an answer to it, unless the pager holds lines. -/
theorem submit_question {s : Shell} (hidle : s.isPaging = false) {chain : Chain}
    (hchain : s.console.reader.chain = some chain) (line : String) : s.submit line = s.follow (s.console.answer line) := by
  simp only [submit, hidle, isAsking_of_open hchain, Bool.false_eq_true, if_false, if_true]

/-- If nothing else has the input, a line is run as a command. -/
theorem submit_command {s : Shell} (hidle : s.isPaging = false) (hchain : s.console.reader.chain = none) (line : String) :
    s.submit line = s.runCommand line := by
  simp only [submit, hidle, isAsking_of_closed hchain, Bool.false_eq_true, if_false]

/-- **A line goes to the mode of the shell.** -/
theorem takesLine_inputMode (s : Shell) (line : String) : s.TakesLine line (s.submit line) s.inputMode := by
  rcases s.inputMode_cases with hpaging | ⟨hidle, chain, hchain⟩ | ⟨hidle, hchain⟩
  · rw [inputMode_pager hpaging, submit_pager hpaging]
    rfl
  · rw [inputMode_question hidle hchain, submit_question hidle hchain]
    rcases Reader.answer_cases hchain line with ⟨hopen, hsettled⟩ | ⟨hclosed, texts, hsettled⟩
    · refine Or.inl ⟨hopen, ?_⟩
      simp only [follow, Console.answer, Console.follow, hsettled, Console.echoAll]
    · refine Or.inr ⟨hclosed, texts, ?_⟩
      simp only [follow, Console.answer, Console.follow, hsettled, Console.echoAll, answerLetter]
  · rw [inputMode_command hidle hchain, submit_command hidle hchain]
    unfold TakesLine runCommand
    cases parseLine s.registry line s.session.cwd with
    | error e => rfl
    | ok found => cases found <;> rfl

/-- **The prompt names the mode of the shell.** -/
theorem promptText_inputMode (s : Shell) : s.console.promptText = s.inputMode.prompt s.console.prompt := by
  rcases s.inputMode_cases with hpaging | ⟨hidle, chain, hchain⟩ | ⟨hidle, hchain⟩
  · rw [inputMode_pager hpaging]
    exact Console.promptText_pager hpaging
  · have hpager : s.console.pager.isActive = false := hidle
    rw [inputMode_question hidle hchain]
    simp [Console.promptText, hpager, Reader.prompt, hchain, InputMode.prompt]
  · have hpager : s.console.pager.isActive = false := hidle
    rw [inputMode_command hidle hchain]
    simp [Console.promptText, hpager, Reader.prompt, hchain, InputMode.prompt]

/-- **An interruption drops what the mode is about,** and gives completions up in every mode. -/
theorem interrupt_inputMode (s : Shell) :
    s.interrupt = match s.inputMode with
      | .pager =>
        { s with
          completer := s.completer.reset, console := { s.console with pager := s.console.pager.cancel } }
      | .question chain =>
        answerLetter
          { s with
            completer := s.completer.reset
            console := { s.console with reader := { s.console.reader with chain := none } } }
          chain.id (.error .cancelled)
      | .command => { s with completer := s.completer.reset } := by
  rcases s.inputMode_cases with hpaging | ⟨hidle, chain, hchain⟩ | ⟨hidle, hchain⟩
  · have hpager : s.console.pager.isActive = true := hpaging
    rw [inputMode_pager hpaging]
    simp only [interrupt, Console.interrupt, hpager, if_true, follow]
  · have hpager : s.console.pager.isActive = false := hidle
    rw [inputMode_question hidle hchain]
    simp [interrupt, Console.interrupt, hpager, follow, Console.follow, Reader.cancel, hchain, Console.echoAll]
  · have hpager : s.console.pager.isActive = false := hidle
    rw [inputMode_command hidle hchain]
    simp [interrupt, Console.interrupt, hpager, follow, Console.follow, Reader.cancel, hchain, Console.echoAll]

/-- **Completion is for commands only.** In any other mode there is nothing to offer, and that is answered at once. -/
theorem complete_inputMode (s : Shell) (line : String) (pos : Nat) :
    s.complete line pos =
      if s.inputMode = .command then
        { s with
          completions := s.completions + 1
          ready := s.ready ++ [.complete s.completions line pos s.session.cwd] }
      else
        { s with
          completions := s.completions + 1
          completed := s.completed ++ [(s.completions, .nothing)] } := by
  rcases s.inputMode_cases with hpaging | ⟨hidle, chain, hchain⟩ | ⟨hidle, hchain⟩
  · rw [inputMode_pager hpaging]
    simp [complete, hpaging]
  · rw [inputMode_question hidle hchain]
    simp [complete, isAsking_of_open hchain]
  · rw [inputMode_command hidle hchain]
    simp [complete, hidle, isAsking_of_closed hchain, enqueue]

/-! ## Refused chains -/

/-- **No job has been told that the input is busy.** -/
def NeverBusy (s : Shell) : Prop :=
  ∀ letter, Job.send letter (.error .busy) ∉ s.ready

/-- No change of form tells a job that the input is busy. -/
theorem jobLaw_hasInput : JobLaw Job.HasInput fun _ => True where
  call _ := by simp [Job.HasInput]
  letter _ := by simp [Job.HasInput]
  complete := by simp [Job.HasInput]
  answered _ hanswers := by simp [Job.HasInput, hanswers]
  composed _ := trivial
  woken _ hanswers := by simp [Job.HasInput, hanswers]
  sent _ _ _ := trivial
  called _ _ := trivial
  completed _ _ _ := trivial
  delivered _ := by simp [Job.HasInput]

theorem neverBusy_of_obeys {Q : Waiting → Prop} {s : Shell} (h : s.Obeys Job.HasInput Q) : s.NeverBusy :=
  fun letter hmem => h.ready _ hmem letter rfl

/-- **Every line goes to exactly one input mode.** Let anything happen to a new shell, with any service. Then a line does
what the mode of the shell says, and nothing else. It makes no call: the calls that the service has got are all that the
shell has made, before the line and after it. The prompt names the mode. And no job has been told that the input is busy,
before the line or after it. -/
theorem one_input_mode {σ : Type} (service : Service σ) (registry : Registry) (home prompt : String) (rows : Nat)
    (enabled : Bool) (style : Style) (world : σ) (stimuli : List Stimulus) (line : String) :
    let here := after (counting service)
      (Shell.new registry home prompt (Pager.new rows enabled) style, (world, 0)) stimuli
    here.1.TakesLine line (here.1.submit line) here.1.inputMode ∧
      (here.1.calls = here.2.2 ∧ (here.1.submit line).calls = here.2.2) ∧
      here.1.console.promptText = here.1.inputMode.prompt here.1.console.prompt ∧
      here.1.NeverBusy ∧ (here.1.submit line).NeverBusy := by
  intro here
  have hcalls : here.1.calls = here.2.2 := by
    apply calls_after
    rfl
  have hjobs : here.1.Obeys Job.HasInput fun _ => True :=
    Obeys.after (counting service) jobLaw_hasInput (obeys_new _ _ _ _ _) stimuli
  refine ⟨takesLine_inputMode here.1 line, ⟨hcalls, ?_⟩, promptText_inputMode here.1, neverBusy_of_obeys hjobs,
    neverBusy_of_obeys (hjobs.submit jobLaw_hasInput line)⟩
  rw [calls_submit, hcalls]

/-- A listing that comes in the middle of a letter: the pager takes the next line, though the letter is not finished. -/
example :
    let service : Service Unit := fun _ _ world => (none, world)
    let policy : Json := Json.ofMembers [("status", .int 1), ("list", .arr [Json.ofMembers [("role", .str "editor")]])]
    let s := (after service (Shell.new Commands.registry "/" "> " (Pager.new 1 true) { zone := 0 }, ())
      [.line "lspolicy p", .attend 0, .line "mail", .reply 0 (.ok policy), .attend 1]).1
    s.isAsking = true ∧ s.inputMode = .pager ∧ s.console.promptText = "-- more --" := by
  decide +kernel

end Shell

end RemoteShell
