import RemoteShell.Proofs.Shell.InputMode

/-!
# What follows from a stimulus

A shell has many parts, and a stimulus changes few of them. What each stimulus can do is said here once: which jobs come
into the queue and which are set aside, which call is made, what becomes of the folders and which completions are
answered. An invariant about one of these parts is then kept if what comes in new is as it has to be, and the shell need
not be opened again.

Whatever a job does when it is carried on, it does by the call that it makes or by the outcome that it concludes, which
has come before or is the answer that the service gives at once.

Main statements:

* `Shell.attend_of_callOf?`: a job that makes a call places it.
* `Shell.mem_ready_react`, `Shell.mem_waiting_react`: which jobs are new.
* `Shell.log_react`: the call that a stimulus makes.
* `Shell.session_react`: the folders, from the effects of a line or of an outcome.
* `Shell.mem_completed_react`: which completions are answered.
-/

namespace RemoteShell

/-- The job that some work begins as, if `asked` chains of questions have been asked for before. -/
def Work.job (asked : Nat) : Work → Job
  | .call made task => .call made (.task task)
  | .letter begun => .compose asked begun

/-- What a job is for that has a call or its outcome. -/
def Job.aim? : Job → Option Aim
  | .call _ aim | .conclude aim _ => some aim
  | .complete _ _ _ _ | .compose _ _ | .send _ _ => none

/-- The console after a line that is run as a command: its effects are carried out, and a letter asks its questions. -/
def Console.carryOut (c : Console) (plan : Plan) : Console :=
  match plan.work with
  | some (.letter _) => ((plan.effects.foldl Console.perform c).read Letter.questions).1
  | some (.call _ _) | none => plan.effects.foldl Console.perform c

namespace Shell

/-! ## Carrying a job on -/

/-- The shell once a job is begun: a completion takes the place of any before it. -/
def begun (s : Shell) : Job → Shell
  | .complete _ line pos cwd => { s with completer := (s.completer.start s.registry line pos cwd).1 }
  | .call _ _ | .compose _ _ | .send _ _ | .conclude _ _ => s

/-- The call that a job makes when it is carried on, and what it is for. -/
def callOf? (s : Shell) : Job → Option (Call × Aim)
  | .call call aim => some (call, aim)
  | .complete number line pos cwd => match (s.completer.start s.registry line pos cwd).2 with
    | .ask request => some (request.call, .completion number request.id)
    | .done _ => none
  | .send letter (.ok texts) => (letter.call? texts).map fun call => (call, .task (.confirm "Message sent."))
  | .send _ (.error _) | .compose _ _ | .conclude _ _ => none

/-- The job that a stimulus carries on. -/
def attended? (s : Shell) : Stimulus → Option Job
  | .attend place => s.ready[place]?
  | _ => none

theorem mem_ready_of_attended? {s : Shell} {stimulus : Stimulus} {job : Job} (h : s.attended? stimulus = some job) :
    job ∈ s.ready := by
  cases stimulus with
  | attend place => exact List.mem_of_getElem? h
  | _ => simp [attended?] at h

/-- A job about a letter whose questions are those of the chain `id`. -/
def HasLetter (s : Shell) (id : Nat) (letter : Letter) : Prop :=
  .compose id letter ∈ s.ready ∨ .answers id letter ∈ s.waiting

/-- **What a stimulus can put into the queue.** -/
inductive Adds (s : Shell) : Stimulus → Job → Prop
  /-- What a command leaves. -/
  | work {text : String} {work : Work} {job : Job} (hmode : s.inputMode = .command)
      (hwork : work ∈ (planOf s.surroundings text).work) (hjob : job = work.job s.console.reader.asked) :
      Adds s (.line text) job
  /-- A completion. -/
  | complete {text : String} {pos : Nat} (hmode : s.inputMode = .command) :
      Adds s (.complete text pos) (.complete s.completions text pos s.session.cwd)
  /-- A letter, when the last of its questions is answered. -/
  | answered {text : String} {chain : Chain} {letter : Letter} {texts : List String}
      (hmode : s.inputMode = .question chain)
      (hsettled : (s.console.reader.answer text).settled = some (chain.id, .ok texts))
      (hletter : s.HasLetter chain.id letter) : Adds s (.line text) (.send letter (.ok texts))
  /-- A letter, when its questions are given up. -/
  | cancelled {chain : Chain} {letter : Letter} (hmode : s.inputMode = .question chain)
      (hletter : s.HasLetter chain.id letter) : Adds s .interrupt (.send letter (.error .cancelled))
  /-- An outcome that is waited for. -/
  | outcome {ticket : Nat} {aim : Aim} {outcome : Outcome} (hwaiting : .reply ticket aim ∈ s.waiting) :
      Adds s (.reply ticket outcome) (.conclude aim outcome)

/-- **What a stimulus can set aside.** -/
inductive SetsAside (s : Shell) (stimulus : Stimulus) : Waiting → Prop
  /-- A letter that waits for its answers. -/
  | answers {chain : Nat} {letter : Letter} (hjob : s.attended? stimulus = some (.compose chain letter)) :
      SetsAside s stimulus (.answers chain letter)
  /-- A job that waits for the outcome of its call. -/
  | reply {job : Job} {call : Call} {aim : Aim} (hjob : s.attended? stimulus = some job)
      (hcall : s.callOf? job = some (call, aim)) : SetsAside s stimulus (.reply s.calls aim)

section

variable {σ : Type} (service : Service σ) {s : Shell}

/-- The outcome that is concluded when a job is carried on, and what it is for. -/
def outcomeOf? (s : Shell) (world : σ) : Job → Option (Aim × Outcome)
  | .conclude aim outcome => some (aim, outcome)
  | job => (s.callOf? job).bind fun made => (service s.calls made.1 world).1.map fun outcome => (made.2, outcome)

/-- The folders once a job is carried on. -/
def sessionOf (s : Shell) (world : σ) (job : Job) : Session :=
  match outcomeOf? service s world job with
  | some (.task task, outcome) => (task.conclude s.console.style outcome).foldl Effect.move s.session
  | some (.completion _ _, _) | none => s.session

/-- The completer once a job is carried on. -/
def completerOf (s : Shell) (world : σ) (job : Job) : Completer :=
  match outcomeOf? service s world job with
  | some (.completion _ request, outcome) => ((s.begun job).completer.resolve request outcome).1
  | some (.task _, _) | none => (s.begun job).completer

/-- The completion that a job answers when it is carried on, with its number. -/
def answerOf? (s : Shell) (world : σ) (job : Job) : Option (Nat × Completion) :=
  match outcomeOf? service s world job, job with
  | some (.completion number request, outcome), _ =>
    some (number, ((s.begun job).completer.resolve request outcome).2)
  | none, .complete number line pos cwd => match (s.completer.start s.registry line pos cwd).2 with
    | .done answer => some (number, answer)
    | .ask _ => none
  | _, _ => none

/-- What a job waits for once it is carried on. -/
def asideOf? (s : Shell) (world : σ) (job : Job) : Option Waiting :=
  match s.callOf? job, job with
  | some (call, aim), _ => if (service s.calls call world).1.isNone then some (.reply s.calls aim) else none
  | none, .compose chain letter => some (.answers chain letter)
  | none, _ => none

/-- **Which jobs make a call:** one that a command has left, a completion that asks the service, and a letter that is
complete. -/
theorem callOf?_cases {job : Job} {call : Call} {aim : Aim} (h : s.callOf? job = some (call, aim)) :
    job = .call call aim ∨
      (∃ number line pos cwd request, job = .complete number line pos cwd ∧
        (s.completer.start s.registry line pos cwd).2 = .ask request ∧ call = request.call ∧
        aim = .completion number request.id) ∨
      ∃ letter texts, job = .send letter (.ok texts) ∧ letter.call? texts = some call ∧
        aim = .task (.confirm "Message sent.") := by
  cases job with
  | call made own =>
      obtain ⟨rfl, rfl⟩ := Prod.mk.inj (Option.some.inj h)
      exact Or.inl rfl
  | complete number line pos cwd =>
      simp only [callOf?] at h
      split at h
      · next request hask =>
          obtain ⟨rfl, rfl⟩ := Prod.mk.inj (Option.some.inj h)
          exact Or.inr (Or.inl ⟨number, line, pos, cwd, request, rfl, hask, rfl, rfl⟩)
      · cases h
  | compose chain letter => simp [callOf?] at h
  | send letter answers =>
      cases answers with
      | error e => simp [callOf?] at h
      | ok texts =>
          obtain ⟨made, hmade, heq⟩ := Option.map_eq_some_iff.mp h
          obtain ⟨rfl, rfl⟩ := Prod.mk.inj heq
          exact Or.inr (Or.inr ⟨letter, texts, rfl, hmade, rfl⟩)
  | conclude own outcome => simp [callOf?] at h

/-- **A job that makes a call places it.** -/
theorem attend_of_callOf? {job : Job} {call : Call} {aim : Aim} (h : s.callOf? job = some (call, aim)) (world : σ) :
    attend service s world job = place service (s.begun job) world call aim := by
  rcases callOf?_cases h with rfl | ⟨number, line, pos, cwd, request, rfl, hask, rfl, rfl⟩ | ⟨letter, texts, rfl, hcall, rfl⟩
  · rfl
  · simp only [attend, startCompletion, begun]
    split
    · next completer answer hdone => simp [hdone] at hask
    · next completer other hother =>
        rw [hother] at hask ⊢
        obtain rfl := CompletionStep.ask.inj hask
        rfl
  · simp only [attend, sendLetter, hcall, begun]

/-- The outcome of a call comes at once, or it is waited for. -/
theorem place_cases (world : σ) (call : Call) (aim : Aim) :
    (∃ outcome, (service s.calls call world).1 = some outcome ∧
        place service s world call aim =
          { shell := ({ s with calls := s.calls + 1 } : Shell).conclude aim outcome
            world := (service s.calls call world).2, ended := true }) ∨
      ((service s.calls call world).1 = none ∧
        place service s world call aim =
          { shell := { s with calls := s.calls + 1, waiting := s.waiting ++ [.reply s.calls aim] }
            world := (service s.calls call world).2, ended := false }) := by
  unfold place
  dsimp only
  split
  · next outcome next hanswer => exact Or.inl ⟨outcome, by rw [hanswer], by rw [hanswer]⟩
  · next next hanswer => exact Or.inr ⟨by rw [hanswer], by rw [hanswer]⟩

theorem outcomeOf?_of_callOf? {job : Job} {call : Call} {aim : Aim} (h : s.callOf? job = some (call, aim)) (world : σ) :
    outcomeOf? service s world job = (service s.calls call world).1.map fun outcome => (aim, outcome) := by
  cases job with
  | conclude other outcome => simp [callOf?] at h
  | _ => simp [outcomeOf?, h]

/-- To begin a job changes no more than the completer. -/
theorem begun_eq (s : Shell) (job : Job) : s.begun job = { s with completer := (s.begun job).completer } := by
  cases job <;> rfl

/-- The shell once a job is carried on, with what it writes on a console. -/
def carriedOn (s : Shell) (world : σ) (job : Job) (console : Console) : Shell :=
  { s with
    console
    session := sessionOf service s world job
    completer := completerOf service s world job
    waiting := s.waiting ++ (asideOf? service s world job).toList
    calls := s.calls + (s.callOf? job).toList.length
    completed := s.completed ++ (answerOf? service s world job).toList }

/-- A job that waits for the outcome of its call answers no completion yet. -/
theorem answerOf?_of_pending {job : Job} {call : Call} {aim : Aim} (hcall : s.callOf? job = some (call, aim)) {world : σ}
    (h : outcomeOf? service s world job = none) : answerOf? service s world job = none := by
  cases job with
  | complete number line pos cwd =>
      simp only [callOf?] at hcall
      split at hcall
      · next request hask => simp [answerOf?, h, hask]
      · cases hcall
  | _ => simp [answerOf?, h]

theorem attend_shell_of_call {job : Job} {call : Call} {aim : Aim} (hcall : s.callOf? job = some (call, aim)) (world : σ) :
    ∃ console : Console, console.reader = s.console.reader ∧
      (attend service s world job).shell = carriedOn service s world job console := by
  have houtcome := outcomeOf?_of_callOf? service hcall world
  have hbegun := s.begun_eq job
  rw [attend_of_callOf? service hcall]
  rcases place_cases service (s := s.begun job) world call aim with ⟨outcome, hanswer, hplace⟩ | ⟨hanswer, hplace⟩
  · have hservice : (service s.calls call world).1 = some outcome := by rwa [hbegun] at hanswer
    rw [hservice] at houtcome
    have haside : asideOf? service s world job = none := by simp [asideOf?, hcall, hservice]
    simp only [hplace, carriedOn, haside]
    cases aim with
    | task task =>
        refine ⟨_, Console.reader_foldl_perform s.console (task.conclude s.console.style outcome), ?_⟩
        rw [hbegun]
        simp [conclude, performAll_eq, sessionOf, completerOf, answerOf?, houtcome, hcall]
    | completion number request =>
        refine ⟨s.console, rfl, ?_⟩
        simp only [conclude, sessionOf, completerOf, answerOf?, houtcome, hcall, Option.map_some, Option.toList_some,
          Option.toList_none, List.append_nil, List.length_singleton]
        rw [hbegun]
  · have hservice : (service s.calls call world).1 = none := by rwa [hbegun] at hanswer
    rw [hservice] at houtcome
    have hquiet := answerOf?_of_pending service hcall houtcome
    refine ⟨s.console, rfl, ?_⟩
    rw [hplace, hbegun]
    simp [carriedOn, sessionOf, completerOf, asideOf?, hquiet, houtcome, hcall, hservice]

theorem attend_shell_of_no_call {job : Job} (hcall : s.callOf? job = none) (world : σ) :
    ∃ console : Console, console.reader = s.console.reader ∧
      (attend service s world job).shell = carriedOn service s world job console := by
  cases job with
  | call call aim => simp [callOf?] at hcall
  | complete number line pos cwd =>
      refine ⟨s.console, rfl, ?_⟩
      cases hstart : s.completer.start s.registry line pos cwd with
      | mk completer step =>
          cases step with
          | ask request => simp [callOf?, hstart] at hcall
          | done answer =>
              simp [attend, startCompletion, hstart, carriedOn, sessionOf, completerOf, answerOf?, asideOf?, outcomeOf?,
                hcall, begun]
  | compose chain letter =>
      refine ⟨s.console, rfl, ?_⟩
      simp [attend, carriedOn, sessionOf, completerOf, answerOf?, asideOf?, outcomeOf?, callOf?, begun]
  | send letter answers =>
      have hquiet : outcomeOf? service s world (.send letter answers) = none := by simp [outcomeOf?, hcall]
      cases answers with
      | error e =>
          cases e with
          | cancelled =>
              refine ⟨s.console, rfl, ?_⟩
              simp [attend, sendLetter, carriedOn, sessionOf, completerOf, answerOf?, asideOf?, hquiet, hcall, begun]
          | busy =>
              refine ⟨s.console.error ReadError.busy.message, rfl, ?_⟩
              simp [attend, sendLetter, perform, carriedOn, sessionOf, completerOf, answerOf?, asideOf?, hquiet, hcall,
                begun]
      | ok texts =>
          have hletter : letter.call? texts = none := by simpa [callOf?] using hcall
          refine ⟨s.console, rfl, ?_⟩
          simp [attend, sendLetter, hletter, carriedOn, sessionOf, completerOf, answerOf?, asideOf?, hquiet, hcall, begun]
  | conclude aim outcome =>
      cases aim with
      | task task =>
          refine ⟨_, Console.reader_foldl_perform s.console (task.conclude s.console.style outcome), ?_⟩
          simp [attend, conclude, performAll_eq, carriedOn, sessionOf, completerOf, answerOf?, asideOf?, outcomeOf?,
            callOf?, begun]
      | completion number request =>
          refine ⟨s.console, rfl, ?_⟩
          simp [attend, conclude, carriedOn, sessionOf, completerOf, answerOf?, asideOf?, outcomeOf?, callOf?, begun]

/-- **All that carrying a job on does,** what it writes aside. -/
theorem attend_shell (s : Shell) (world : σ) (job : Job) :
    ∃ console : Console, console.reader = s.console.reader ∧
      (attend service s world job).shell = carriedOn service s world job console := by
  cases hcall : s.callOf? job with
  | some made => exact attend_shell_of_call service hcall world
  | none => exact attend_shell_of_no_call service hcall world

/-- The service is asked by the call that a job makes, and by nothing else. -/
theorem attend_world (s : Shell) (world : σ) (job : Job) :
    (attend service s world job).world = match s.callOf? job with
      | some (call, _) => (service s.calls call world).2
      | none => world := by
  cases hcall : s.callOf? job with
  | some made =>
      obtain ⟨call, aim⟩ := made
      rw [attend_of_callOf? service hcall, begun_eq]
      rcases place_cases service (s := { s with completer := (s.begun job).completer }) world call aim with
        ⟨outcome, -, hplace⟩ | ⟨-, hplace⟩
      · rw [hplace]
      · rw [hplace]
  | none =>
      cases job with
      | call call aim => simp [callOf?] at hcall
      | complete number line pos cwd =>
          cases hstart : s.completer.start s.registry line pos cwd with
          | mk completer step =>
              cases step with
              | ask request => simp [callOf?, hstart] at hcall
              | done answer => simp [attend, startCompletion, hstart]
      | compose chain letter => rfl
      | send letter answers =>
          cases answers with
          | error e => cases e <;> rfl
          | ok texts =>
              have hletter : letter.call? texts = none := by simpa [callOf?] using hcall
              simp [attend, sendLetter, hletter]
      | conclude aim outcome => rfl

/-- **All that a stimulus does which carries a job on.** -/
theorem react_attend {place : Nat} {job : Job} (h : s.ready[place]? = some job) (world : σ) :
    ∃ console : Console, console.reader = s.console.reader ∧
      (react service (s, world) (.attend place)).1 = { s with
        console
        ready := s.ready.eraseIdx place
        session := sessionOf service s world job
        completer := completerOf service s world job
        waiting := s.waiting ++ (asideOf? service s world job).toList
        calls := s.calls + (s.callOf? job).toList.length
        completed := s.completed ++ (answerOf? service s world job).toList } ∧
      (react service (s, world) (.attend place)).2 = match s.callOf? job with
        | some (call, _) => (service s.calls call world).2
        | none => world := by
  obtain ⟨console, hreader, hshell⟩ := attend_shell service { s with ready := s.ready.eraseIdx place } world job
  refine ⟨console, hreader, ?_, ?_⟩
  · simp only [react, h, hshell, carriedOn]
    cases job <;> rfl
  · simp only [react, h, attend_world]
    cases job <;> rfl

theorem react_attend_none {place : Nat} (h : s.ready[place]? = none) (world : σ) :
    react service (s, world) (.attend place) = (s, world) := by
  simp only [react, h]

/-! ## The queue -/

/-- Answers go to the letters of their chain. -/
theorem mem_ready_answerLetter {id : Nat} {answers : Answers} {job : Job} (h : job ∈ (s.answerLetter id answers).ready) :
    job ∈ s.ready ∨ ∃ letter, s.HasLetter id letter ∧ job = .send letter answers := by
  rcases List.mem_append.mp h with h | h
  · obtain ⟨old, hold, rfl⟩ := List.mem_map.mp h
    cases old with
    | compose chain letter =>
        by_cases hchain : chain = id
        · subst hchain
          exact Or.inr ⟨letter, Or.inl hold, by simp [Job.answered]⟩
        · exact Or.inl (by simpa [Job.answered, hchain] using hold)
    | _ => exact Or.inl hold
  · obtain ⟨letter, hletter, rfl⟩ := List.mem_map.mp h
    obtain ⟨w, hw, hwoken⟩ := List.mem_filterMap.mp hletter
    cases w with
    | reply ticket aim => simp [Waiting.letter?] at hwoken
    | answers chain other =>
        obtain ⟨rfl, rfl⟩ : chain = id ∧ other = letter := by simpa [Waiting.letter?] using hwoken
        exact Or.inr ⟨other, Or.inr hw, rfl⟩

/-- **A line that is run as a command** has its effects, and leaves at most one more job. -/
theorem runCommand_of_idle (hchain : s.console.reader.chain = none) (line : String) :
    s.runCommand line = { s with
      console := s.console.carryOut (planOf s.surroundings line)
      session := (planOf s.surroundings line).effects.foldl Effect.move s.session
      ready := s.ready ++ (planOf s.surroundings line).work.toList.map (Work.job s.console.reader.asked) } := by
  rw [runCommand_eq, carryOut, performAll_eq]
  generalize planOf s.surroundings line = plan
  have hreader := Console.reader_foldl_perform s.console plan.effects
  cases hwork : plan.work with
  | none => simp [Console.carryOut, hwork]
  | some work =>
      cases work with
      | call call task => simp [Console.carryOut, hwork, undertake, enqueue, Work.job]
      | letter letter =>
          have hquestions : (plan.effects.foldl Console.perform s.console).read Letter.questions =
              (((plan.effects.foldl Console.perform s.console).read Letter.questions).1, none) := by
            simp [Console.read, Console.follow, hreader, Reader.start, hchain, Letter.questions]
          simp only [Console.carryOut, hwork, undertake, enqueue, follow, hreader, Option.toList_some, List.map_cons,
            List.map_nil, Work.job]
          rw [hquestions]

/-- Answers change no more than the console and the jobs. -/
theorem follow_frame (s : Shell) (step : Console × Option (Nat × Answers)) :
    ∃ ready waiting, s.follow step = { s with console := step.1, ready, waiting } := by
  unfold follow
  dsimp only
  split
  · exact ⟨_, _, rfl⟩
  · exact ⟨_, _, rfl⟩

/-- A line that is not run as a command changes no more than the console and the jobs. -/
theorem submit_frame_of_ne_command (h : s.inputMode ≠ .command) (line : String) :
    ∃ console ready waiting, s.submit line = { s with console, ready, waiting } := by
  rcases s.inputMode_cases with hpaging | ⟨hidle, chain, hchain⟩ | ⟨hidle, hchain⟩
  · exact ⟨_, _, _, submit_pager hpaging line⟩
  · obtain ⟨ready, waiting, hfollow⟩ := s.follow_frame (s.console.answer line)
    exact ⟨_, ready, waiting, (submit_question hidle hchain line).trans hfollow⟩
  · exact absurd (inputMode_command hidle hchain) h

/-- A line that is run as a command. -/
theorem submit_of_command (h : s.inputMode = .command) (line : String) :
    s.submit line = { s with
      console := s.console.carryOut (planOf s.surroundings line)
      session := (planOf s.surroundings line).effects.foldl Effect.move s.session
      ready := s.ready ++ (planOf s.surroundings line).work.toList.map (Work.job s.console.reader.asked) } := by
  obtain ⟨hidle, hchain⟩ := idle_of_command h
  rw [submit_command hidle hchain, runCommand_of_idle hchain]

/-- A line changes no more than the console, the session and the jobs. -/
theorem submit_frame (s : Shell) (line : String) :
    ∃ console session ready waiting, s.submit line = { s with console, session, ready, waiting } := by
  by_cases hmode : s.inputMode = .command
  · exact ⟨_, _, _, s.waiting, submit_of_command hmode line⟩
  · obtain ⟨console, ready, waiting, hsubmit⟩ := submit_frame_of_ne_command hmode line
    exact ⟨console, s.session, ready, waiting, hsubmit⟩

/-- An interruption changes no more than the completer, the console and the jobs. -/
theorem interrupt_frame (s : Shell) :
    ∃ console ready waiting, s.interrupt = { s with completer := s.completer.reset, console, ready, waiting } := by
  obtain ⟨ready, waiting, hfollow⟩ :=
    ({ s with completer := s.completer.reset } : Shell).follow_frame s.console.interrupt
  exact ⟨_, ready, waiting, hfollow⟩

/-- With no question open, an interruption changes no more than the completer and the pager. -/
theorem interrupt_of_closed (h : s.console.reader.chain = none) :
    ∃ console : Console, console.reader = s.console.reader ∧
      s.interrupt = { s with completer := s.completer.reset, console } := by
  rw [interrupt_inputMode]
  rcases s.inputMode_cases with hpaging | ⟨-, chain, hchain⟩ | ⟨hidle, -⟩
  · rw [inputMode_pager hpaging]
    exact ⟨{ s.console with pager := s.console.pager.cancel }, rfl, rfl⟩
  · simp [h] at hchain
  · rw [inputMode_command hidle h]
    exact ⟨s.console, rfl, rfl⟩

theorem mem_ready_submit {text : String} {job : Job} (h : job ∈ (s.submit text).ready) :
    job ∈ s.ready ∨ s.Adds (.line text) job := by
  rcases s.inputMode_cases with hpaging | ⟨hidle, chain, hchain⟩ | ⟨hidle, hchain⟩
  · rw [submit_pager hpaging] at h
    exact Or.inl h
  · rw [submit_question hidle hchain] at h
    rcases Reader.answer_cases hchain text with ⟨-, hopen⟩ | ⟨-, texts, hclosed⟩
    · simp only [follow, Console.answer, Console.follow, hopen] at h
      exact Or.inl h
    · simp only [follow, Console.answer, Console.follow, hclosed] at h
      rcases mem_ready_answerLetter h with h | ⟨letter, hletter, rfl⟩
      · exact Or.inl h
      · exact Or.inr (.answered (inputMode_question hidle hchain) hclosed hletter)
  · have hmode := inputMode_command hidle hchain
    rw [submit_of_command hmode] at h
    rcases List.mem_append.mp h with h | h
    · exact Or.inl h
    · obtain ⟨work, hwork, rfl⟩ := List.mem_map.mp h
      exact Or.inr (.work hmode (by simpa using hwork) rfl)

theorem mem_ready_interrupt {job : Job} (h : job ∈ s.interrupt.ready) : job ∈ s.ready ∨ s.Adds .interrupt job := by
  rw [interrupt_inputMode] at h
  rcases s.inputMode_cases with hpaging | ⟨hidle, chain, hchain⟩ | ⟨hidle, hchain⟩
  · rw [inputMode_pager hpaging] at h
    exact Or.inl h
  · have hmode := inputMode_question hidle hchain
    rw [hmode] at h
    rcases mem_ready_answerLetter h with h | ⟨letter, hletter, rfl⟩
    · exact Or.inl h
    · exact Or.inr (.cancelled hmode hletter)
  · rw [inputMode_command hidle hchain] at h
    exact Or.inl h

theorem mem_ready_deliver {ticket : Nat} {outcome : Outcome} {job : Job} (h : job ∈ (s.deliver ticket outcome).ready) :
    job ∈ s.ready ∨ s.Adds (.reply ticket outcome) job := by
  rcases List.mem_append.mp h with h | h
  · exact Or.inl h
  · obtain ⟨aim, haim, rfl⟩ := List.mem_map.mp h
    obtain ⟨w, hw, hwoken⟩ := List.mem_filterMap.mp haim
    cases w with
    | answers chain letter => simp [Waiting.aim?] at hwoken
    | reply number other =>
        obtain ⟨rfl, rfl⟩ : number = ticket ∧ other = aim := by simpa [Waiting.aim?] using hwoken
        exact Or.inr (.outcome hw)

/-- **Which jobs are new in the queue.** -/
theorem mem_ready_react {here : Shell × σ} {stimulus : Stimulus} {job : Job}
    (h : job ∈ (react service here stimulus).1.ready) : job ∈ here.1.ready ∨ here.1.Adds stimulus job := by
  obtain ⟨s, world⟩ := here
  cases stimulus with
  | line text => exact mem_ready_submit h
  | interrupt => exact mem_ready_interrupt h
  | complete text pos =>
      rw [react, complete_inputMode] at h
      split at h
      · next hmode =>
          rcases List.mem_append.mp h with h | h
          · exact Or.inl h
          · rw [List.mem_singleton.mp h]
            exact Or.inr (.complete hmode)
      · exact Or.inl h
  | attend place =>
      simp only [react] at h
      split at h
      · rw [attend_ready] at h
        exact Or.inl (List.mem_of_mem_eraseIdx h)
      · exact Or.inl h
  | reply ticket outcome => exact mem_ready_deliver h
  | print | handOver | setPaging => exact Or.inl h

/-- What is set aside is what the job waits for that was carried on. -/
theorem setsAside_of_asideOf? {stimulus : Stimulus} {job : Job} (hjob : s.attended? stimulus = some job) {world : σ}
    {w : Waiting} (h : asideOf? service s world job = some w) : s.SetsAside stimulus w := by
  cases hcall : s.callOf? job with
  | some made =>
      obtain ⟨call, aim⟩ := made
      obtain ⟨-, rfl⟩ : _ ∧ Waiting.reply s.calls aim = w := by simpa [asideOf?, hcall] using h
      exact .reply hjob hcall
  | none =>
      cases job with
      | compose chain letter =>
          obtain rfl : Waiting.answers chain letter = w := by simpa [asideOf?, hcall] using h
          exact .answers hjob
      | _ => simp [asideOf?, hcall] at h

/-- **Which jobs are newly set aside.** -/
theorem mem_waiting_react {here : Shell × σ} {stimulus : Stimulus} {w : Waiting}
    (h : w ∈ (react service here stimulus).1.waiting) : w ∈ here.1.waiting ∨ here.1.SetsAside stimulus w := by
  obtain ⟨s, world⟩ := here
  cases stimulus with
  | line text => exact Or.inl ((submit_waiting s text).subset h)
  | interrupt => exact Or.inl ((follow_waiting_sublist { s with completer := s.completer.reset } _).subset h)
  | complete text pos =>
      rw [react, complete_inputMode] at h
      split at h <;> exact Or.inl h
  | attend place =>
      cases hjob : s.ready[place]? with
      | none =>
          rw [react_attend_none service hjob] at h
          exact Or.inl h
      | some job =>
          have hattended : s.attended? (.attend place) = some job := hjob
          obtain ⟨console, -, hshell, -⟩ := react_attend service hjob world
          rw [hshell] at h
          rcases List.mem_append.mp h with h | h
          · exact Or.inl h
          · exact Or.inr (setsAside_of_asideOf? service hattended (by simpa using h))
  | reply ticket outcome => exact Or.inl (List.mem_filter.mp h).1
  | print | handOver | setPaging => exact Or.inl h

/-- Some job has an aim: its call is still to be made, its outcome is waited for, or the outcome has come. -/
def HasAim (s : Shell) (aim : Aim) : Prop :=
  (∃ job ∈ s.ready, job.aim? = some aim) ∨ ∃ ticket, .reply ticket aim ∈ s.waiting

/-- **An aim was there before,** or it is that of a command which has just been given, of a completion which has just asked
the service, or of a letter which has just been sent. -/
theorem hasAim_react {here : Shell × σ} {stimulus : Stimulus} {aim : Aim}
    (h : (react service here stimulus).1.HasAim aim) :
    here.1.HasAim aim ∨
      (∃ text call task, stimulus = .line text ∧ here.1.inputMode = .command ∧
        .call call task ∈ (planOf here.1.surroundings text).work ∧ aim = .task task) ∨
      (∃ number line pos cwd request, here.1.attended? stimulus = some (.complete number line pos cwd) ∧
        (here.1.completer.start here.1.registry line pos cwd).2 = .ask request ∧ aim = .completion number request.id) ∨
      aim = .task (.confirm "Message sent.") := by
  rcases h with ⟨job, hmem, haim⟩ | ⟨ticket, hmem⟩
  · rcases mem_ready_react service hmem with hmem | hadds
    · exact Or.inl (Or.inl ⟨job, hmem, haim⟩)
    · cases hadds with
      | @work text work _ hmode hwork hjob =>
          cases work with
          | call call task =>
              obtain rfl : .task task = aim := by simpa [hjob, Work.job, Job.aim?] using haim
              exact Or.inr (Or.inl ⟨text, call, task, rfl, hmode, hwork, rfl⟩)
          | letter letter => simp [hjob, Work.job, Job.aim?] at haim
      | outcome hwaiting =>
          obtain rfl := Option.some.inj haim
          exact Or.inl (Or.inr ⟨_, hwaiting⟩)
      | complete | answered | cancelled => simp [Job.aim?] at haim
  · rcases mem_waiting_react service hmem with hmem | haside
    · exact Or.inl (Or.inr ⟨ticket, hmem⟩)
    · cases haside with
      | @reply job call _ hjob hcall =>
          rcases callOf?_cases hcall with rfl | ⟨number, line, pos, cwd, request, rfl, hask, -, rfl⟩ | ⟨-, -, -, -, rfl⟩
          · exact Or.inl (Or.inl ⟨_, mem_ready_of_attended? hjob, rfl⟩)
          · exact Or.inr (Or.inr (Or.inl ⟨number, line, pos, cwd, request, hjob, hask, rfl⟩))
          · exact Or.inr (Or.inr (Or.inr rfl))

/-- The table of commands stays the same. -/
theorem registry_react (here : Shell × σ) (stimulus : Stimulus) :
    (react service here stimulus).1.registry = here.1.registry := by
  obtain ⟨s, world⟩ := here
  cases stimulus with
  | line text =>
      obtain ⟨console, session, ready, waiting, hsubmit⟩ := s.submit_frame text
      rw [react, hsubmit]
  | interrupt =>
      obtain ⟨console, ready, waiting, hinterrupt⟩ := s.interrupt_frame
      rw [react, hinterrupt]
  | complete text pos =>
      rw [react, complete_inputMode]
      split <;> rfl
  | attend place =>
      cases hjob : s.ready[place]? with
      | none => rw [react_attend_none service hjob]
      | some job =>
          obtain ⟨console, -, hshell, -⟩ := react_attend service hjob world
          rw [hshell]
  | reply | print | handOver | setPaging => rfl

/-! ## Calls -/

/-- The call that is made upon a stimulus. -/
def called? (s : Shell) (stimulus : Stimulus) : Option Call :=
  (s.attended? stimulus).bind fun job => (s.callOf? job).map Prod.fst

/-- A service that keeps a log of the calls it gets. -/
def logging : Service (σ × List Call) := fun ticket call world =>
  ((service ticket call world.1).1, (service ticket call world.1).2, world.2 ++ [call])

/-- **The call that a stimulus makes is the next one in the log,** and no other stimulus calls the service. -/
theorem log_react (here : Shell × (σ × List Call)) (stimulus : Stimulus) :
    (react (logging service) here stimulus).2.2 = here.2.2 ++ (here.1.called? stimulus).toList := by
  obtain ⟨s, world⟩ := here
  cases stimulus with
  | attend place =>
      cases hjob : s.ready[place]? with
      | none => simp [react_attend_none (logging service) hjob, called?, attended?, hjob]
      | some job =>
          obtain ⟨console, -, -, hworld⟩ := react_attend (logging service) hjob world
          rw [hworld]
          cases hcall : s.callOf? job with
          | none => simp [called?, attended?, hjob, hcall]
          | some made => simp [called?, attended?, hjob, hcall, logging]
  | _ => simp [react, called?, attended?]

/-- The shell counts the calls that stimuli make. -/
theorem calls_react_eq (here : Shell × σ) (stimulus : Stimulus) :
    (react service here stimulus).1.calls = here.1.calls + (here.1.called? stimulus).toList.length := by
  obtain ⟨s, world⟩ := here
  cases stimulus with
  | line text =>
      obtain ⟨console, session, ready, waiting, hsubmit⟩ := s.submit_frame text
      simp [react, hsubmit, called?, attended?]
  | interrupt =>
      obtain ⟨console, ready, waiting, hinterrupt⟩ := s.interrupt_frame
      simp [react, hinterrupt, called?, attended?]
  | complete text pos =>
      rw [react, complete_inputMode]
      split <;> simp [called?, attended?]
  | attend place =>
      cases hjob : s.ready[place]? with
      | none => simp [react_attend_none service hjob, called?, attended?, hjob]
      | some job =>
          obtain ⟨console, -, hshell, -⟩ := react_attend service hjob world
          rw [hshell]
          cases hcall : s.callOf? job <;> simp [called?, attended?, hjob, hcall]
  | _ => simp [react, called?, attended?, deliver, drain, takeCompleted, perform]

/-! ## Folders -/

/-- The session after a stimulus. -/
def sessionAfter (here : Shell × σ) (stimulus : Stimulus) : Session :=
  match stimulus with
  | .line text =>
    if here.1.inputMode = .command then
      (planOf here.1.surroundings text).effects.foldl Effect.move here.1.session
    else here.1.session
  | .attend place => match here.1.ready[place]? with
    | some job => sessionOf service here.1 here.2 job
    | none => here.1.session
  | _ => here.1.session

/-- **What becomes of the session:** a line has its effects on it if it is run as a command, and an outcome by what is
done with it. -/
theorem session_react (here : Shell × σ) (stimulus : Stimulus) :
    (react service here stimulus).1.session = sessionAfter service here stimulus := by
  obtain ⟨s, world⟩ := here
  cases stimulus with
  | line text =>
      by_cases hmode : s.inputMode = .command
      · simp [react, submit_of_command hmode, sessionAfter, hmode]
      · obtain ⟨console, ready, waiting, hsubmit⟩ := submit_frame_of_ne_command hmode text
        simp [react, hsubmit, sessionAfter, hmode]
  | interrupt =>
      obtain ⟨console, ready, waiting, hinterrupt⟩ := s.interrupt_frame
      simp [react, hinterrupt, sessionAfter]
  | complete text pos =>
      rw [react, complete_inputMode]
      split <;> rfl
  | attend place =>
      cases hjob : s.ready[place]? with
      | none => simp [react_attend_none service hjob, sessionAfter, hjob]
      | some job =>
          obtain ⟨console, -, hshell, -⟩ := react_attend service hjob world
          rw [hshell]
          simp [sessionAfter, hjob]
  | reply | print | handOver | setPaging => rfl

/-! ## Completions -/

/-- **An answer to a completion that a stimulus brings.** -/
inductive Brings (here : Shell × σ) (stimulus : Stimulus) : Nat → Completion → Prop
  /-- The completion is asked for while something else than the commands owns the input. -/
  | refused {text : String} {pos : Nat} (hstimulus : stimulus = .complete text pos) (hmode : here.1.inputMode ≠ .command) :
      Brings here stimulus here.1.completions .nothing
  /-- The job of the completion is carried on. -/
  | ended {job : Job} {number : Nat} {answer : Completion} (hjob : here.1.attended? stimulus = some job)
      (hanswer : answerOf? service here.1 here.2 job = some (number, answer)) : Brings here stimulus number answer

/-- An outcome that a job concludes has come before, or it is the answer to the call that the job makes. -/
theorem outcomeOf?_cases {world : σ} {job : Job} {aim : Aim} {outcome : Outcome}
    (h : outcomeOf? service s world job = some (aim, outcome)) :
    job = .conclude aim outcome ∨ ∃ call, s.callOf? job = some (call, aim) ∧ (service s.calls call world).1 = some outcome := by
  cases hcall : s.callOf? job with
  | some made =>
      obtain ⟨call, other⟩ := made
      rw [outcomeOf?_of_callOf? service hcall] at h
      obtain ⟨answer, hanswer, heq⟩ := Option.map_eq_some_iff.mp h
      obtain ⟨rfl, rfl⟩ := Prod.mk.inj heq
      exact Or.inr ⟨call, rfl, hanswer⟩
  | none =>
      cases job with
      | conclude other answer =>
          obtain ⟨rfl, rfl⟩ := Prod.mk.inj (Option.some.inj h)
          exact Or.inl rfl
      | _ => simp [outcomeOf?, hcall] at h

/-- A completion is answered with the outcome of its request, or at once. -/
theorem answerOf?_cases {world : σ} {job : Job} {number : Nat} {answer : Completion}
    (h : answerOf? service s world job = some (number, answer)) :
    (∃ request outcome, outcomeOf? service s world job = some (.completion number request, outcome) ∧
        answer = ((s.begun job).completer.resolve request outcome).2) ∨
      ∃ line pos cwd, job = .complete number line pos cwd ∧
        (s.completer.start s.registry line pos cwd).2 = .done answer := by
  unfold answerOf? at h
  split at h
  · next other request outcome houtcome =>
      obtain ⟨rfl, rfl⟩ := Prod.mk.inj (Option.some.inj h)
      exact Or.inl ⟨request, outcome, houtcome, rfl⟩
  · next other line pos cwd houtcome =>
      split at h
      · next done hdone =>
          obtain ⟨rfl, rfl⟩ := Prod.mk.inj (Option.some.inj h)
          exact Or.inr ⟨line, pos, cwd, rfl, hdone⟩
      · cases h
  · cases h

/-- **Which completions are answered upon a stimulus.** -/
theorem mem_completed_react {here : Shell × σ} {stimulus : Stimulus} {number : Nat} {answer : Completion}
    (h : (number, answer) ∈ (react service here stimulus).1.completed) :
    (number, answer) ∈ here.1.completed ∨ Brings service here stimulus number answer := by
  obtain ⟨s, world⟩ := here
  cases stimulus with
  | line text =>
      obtain ⟨console, session, ready, waiting, hsubmit⟩ := s.submit_frame text
      rw [react, hsubmit] at h
      exact Or.inl h
  | interrupt =>
      obtain ⟨console, ready, waiting, hinterrupt⟩ := s.interrupt_frame
      rw [react, hinterrupt] at h
      exact Or.inl h
  | complete text pos =>
      rw [react, complete_inputMode] at h
      split at h
      · exact Or.inl h
      · next hmode =>
          rcases List.mem_append.mp h with h | h
          · exact Or.inl h
          · obtain ⟨rfl, rfl⟩ := Prod.mk.inj (List.mem_singleton.mp h)
            exact Or.inr (.refused rfl hmode)
  | attend place =>
      cases hjob : s.ready[place]? with
      | none =>
          rw [react_attend_none service hjob] at h
          exact Or.inl h
      | some job =>
          obtain ⟨console, -, hshell, -⟩ := react_attend service hjob world
          rw [hshell] at h
          rcases List.mem_append.mp h with h | h
          · exact Or.inl h
          · exact Or.inr (.ended hjob (by simpa using h))
  | handOver => simp [react, takeCompleted] at h
  | reply | print | setPaging => exact Or.inl h

end

end Shell

end RemoteShell
