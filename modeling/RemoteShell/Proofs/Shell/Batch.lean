import RemoteShell.Proofs.Shell.Errand
import RemoteShell.Shell.Host
import RemoteShell.Shell.Script

/-!
# Commands given in advance, and the pager

Commands that are given in advance are run with paging off, since nobody is there to press a key. Paging is turned off
once, before the first of them, and `pager` turns it on again. From then on an output that is longer than the screen is
held, the next command is taken for a key, and what is held at the end is dropped.

A run goes through stages, one for each command and one for the end. What a stage carries out is said as a list of
effects, apart from the shell that carries them out. The pager then stays out of the whole run exactly if these effects
fit the screen; they do whenever no command is `pager`.

Main statements:

* `Shell.settle_console`, `Shell.submit_console`: what a stage does to the console are its effects.
* `Shell.neverPages_iff`: when a run of commands never pages.
* `Shell.neverPages_of_no_pager`: without `pager`, it never does.
-/

namespace RemoteShell

namespace Shell

variable {σ : Type} (service : Service σ)

/-! ## What jobs and lines carry out -/

/-- What the outcome of a call carries out. -/
def outcomeEffects (s : Shell) (aim : Aim) (outcome : Outcome) : List Effect :=
  match aim with
  | .task task => task.conclude s.console.style outcome
  | .completion _ _ => []

/-- What a call carries out, if its outcome is there at once. -/
def callEffects (s : Shell) (world : σ) (call : Call) (aim : Aim) : List Effect :=
  match (service s.calls call world).1 with
  | some outcome => s.outcomeEffects aim outcome
  | none => []

/-- What a job carries out until it ends or has to wait. -/
def jobEffects (s : Shell) (world : σ) : Job → List Effect
  | .call call aim => callEffects service s world call aim
  | .complete _ _ _ _ | .compose _ _ => []
  | .send letter answers =>
    match answers with
    | .error .cancelled => []
    | .error .busy => [.error ReadError.busy.message]
    | .ok texts => match letter.call? texts with
      | some call => callEffects service s world call (.task (.confirm "Message sent."))
      | none => []
  | .conclude aim outcome => s.outcomeEffects aim outcome

/-- What some jobs carry out, one after the other. -/
def jobsEffects (s : Shell) (world : σ) : List Job → List Effect
  | [] => []
  | job :: rest =>
    let turn := attend service { s with ready := rest } world job
    jobEffects service { s with ready := rest } world job ++ jobsEffects turn.shell turn.world rest

/-- What is carried out until all jobs wait, unless the user is being asked something. -/
def settleEffects (s : Shell) (world : σ) : List Effect :=
  if s.isAsking then [] else jobsEffects service s world s.ready

/-- What a line carries out at once. An answer shows the next question, a command follows its plan. -/
def lineEffects (s : Shell) (line : String) : List Effect :=
  if s.isPaging then []
  else if s.isAsking then (s.console.reader.answer line).shown.map .echo
  else (planOf s.surroundings line).effects ++ match (planOf s.surroundings line).work with
    | some (.letter _) => (s.console.reader.start Letter.questions).shown.map .echo
    | _ => []

theorem conclude_console (s : Shell) (aim : Aim) (outcome : Outcome) :
    (s.conclude aim outcome).console = (s.outcomeEffects aim outcome).foldl Console.perform s.console := by
  cases aim with
  | task task => rw [conclude, performAll_eq]; rfl
  | completion number request => rfl

theorem place_console (s : Shell) (world : σ) (call : Call) (aim : Aim) :
    (place service s world call aim).shell.console =
      (callEffects service s world call aim).foldl Console.perform s.console := by
  unfold place callEffects
  dsimp only
  split
  · next outcome next h =>
      rw [h]
      exact conclude_console _ aim outcome
  · next next h =>
      rw [h]
      rfl

/-- What is done with a matching name never reaches the console. -/
theorem callEffects_completion (s : Shell) (world : σ) (call : Call) (number request : Nat) :
    callEffects service s world call (.completion number request) = [] := by
  unfold callEffects
  split <;> rfl

/-- **What a job does to the console are its effects.** -/
theorem attend_console (s : Shell) (world : σ) (job : Job) :
    (attend service s world job).shell.console = (jobEffects service s world job).foldl Console.perform s.console := by
  cases job with
  | call call aim => exact place_console service s world call aim
  | complete number line pos cwd =>
      simp only [attend, startCompletion]
      split
      · rfl
      · next completer request hstart =>
          rw [place_console, callEffects_completion]
          rfl
  | compose chain letter => rfl
  | send letter answers =>
      cases answers with
      | error e => cases e <;> rfl
      | ok texts =>
          cases hcall : letter.call? texts with
          | none => simp [attend, sendLetter, jobEffects, hcall]
          | some call =>
              simp only [attend, sendLetter, jobEffects, hcall]
              exact place_console service s world call _
  | conclude aim outcome => exact conclude_console s aim outcome

theorem attendAll_console (s : Shell) (world : σ) (jobs : List Job) :
    (attendAll service s world jobs).1.console = (jobsEffects service s world jobs).foldl Console.perform s.console := by
  induction jobs generalizing s world with
  | nil => rfl
  | cons job rest ih =>
      rw [attendAll, jobsEffects, List.foldl_append, ih, attend_console]

/-- **What settling does to the console are its effects.** -/
theorem settle_console (s : Shell) (world : σ) :
    (settle service s world).1.console = (settleEffects service s world).foldl Console.perform s.console := by
  unfold settle settleEffects
  split
  · rfl
  · exact attendAll_console service s world s.ready

theorem follow_console (s : Shell) (step : Console × Option (Nat × Answers)) : (s.follow step).console = step.1 := by
  unfold follow
  dsimp only
  split <;> rfl

/-- **What a line does to the console are its effects,** but for the state of the reader. -/
theorem submit_console {s : Shell} (hidle : s.isPaging = false) (line : String) :
    ∃ reader, (s.submit line).console = { (s.lineEffects line).foldl Console.perform s.console with reader } := by
  unfold submit lineEffects
  simp only [hidle, Bool.false_eq_true, if_false]
  split
  · refine ⟨(s.console.reader.answer line).reader, ?_⟩
    rw [follow_console, Console.foldl_perform_echo]
    rfl
  · rw [runCommand_eq, carryOut, performAll_eq]
    generalize planOf s.surroundings line = plan
    have hreader := Console.reader_foldl_perform s.console plan.effects
    cases hwork : plan.work with
    | none => exact ⟨s.console.reader, by simp [← hreader]⟩
    | some work =>
        cases work with
        | call call task => exact ⟨s.console.reader, by simp [undertake, enqueue, ← hreader]⟩
        | letter letter =>
            refine ⟨(s.console.reader.start Letter.questions).reader, ?_⟩
            simp only [undertake, follow_console, List.foldl_append, Console.foldl_perform_echo, ← hreader]
            rfl

/-- An interrupt that finds no lines held has no part in the output. -/
theorem interrupt_console {s : Shell} (hidle : s.isPaging = false) :
    ∃ reader, s.interrupt.console = { s.console with reader } := by
  have hshown : s.console.reader.cancel.shown = [] := by
    unfold Reader.cancel
    split <;> rfl
  have hpager : s.console.pager.isActive = false := hidle
  refine ⟨s.console.reader.cancel.reader, ?_⟩
  rw [interrupt, follow_console, Console.interrupt, hpager]
  simp [Console.follow, Console.echoAll, hshown]

/-! ## Stages -/

/-- A stage of a run: the shell before it, the command, if it is not the end, what is carried out, and the shell after
it. -/
structure Stage where
  before : Shell
  command : Option String
  effects : List Effect
  after : Shell

/-- The end of a run: what still owns the input is interrupted. -/
def endStage (s : Shell) (world : σ) : Stage :=
  { before := s, command := none, effects := settleEffects service s.interrupt world
    after := (settle service s.interrupt world).1 }

/-- The stage of a command. -/
def commandStage (s : Shell) (world : σ) (line : String) : Stage :=
  { before := s, command := some line
    effects := s.lineEffects line ++ settleEffects service (s.submit line) world
    after := (settle service (s.submit line) world).1 }

/-- The stages of a run of commands. A run that waits for an answer that never comes has no further stage. -/
def stages (s : Shell) (world : σ) : List String → List Stage
  | [] => [endStage service s world]
  | line :: rest =>
    let (after, world') := settle service (s.submit line) world
    commandStage service s world line ::
      if after.isStuck then []
      else if after.flush.1.session.exiting then [endStage service after.flush.1 world']
      else stages after.flush.1 world' rest

theorem stages_ne_nil (s : Shell) (world : σ) (commands : List String) : stages service s world commands ≠ [] := by
  cases commands <;> simp [stages]

/-- What a stage comes to, as far as the console is concerned. -/
structure Stage.Writes (stage : Stage) : Prop where
  idle : stage.after.isPaging = false ↔
    FitsScreen stage.before.console.pager.rows stage.before.console.paging stage.effects
  wrote : FitsScreen stage.before.console.pager.rows stage.before.console.paging stage.effects →
    ∃ reader, stage.after.console = { stage.before.console.wrote stage.effects with reader }

/-- **A stage that begins with an idle pager writes its effects, if they fit.** -/
theorem Stage.writes_of_console {stage : Stage} (hidle : stage.before.isPaging = false)
    (h : ∃ reader, stage.after.console =
      { stage.effects.foldl Console.perform stage.before.console with reader }) : stage.Writes where
  idle := by
    obtain ⟨reader, hconsole⟩ := h
    rw [isPaging, hconsole]
    exact Console.isActive_foldl_perform_iff hidle stage.effects
  wrote := by
    intro hfits
    obtain ⟨reader, hconsole⟩ := h
    rw [Console.foldl_perform_eq_wrote hidle hfits] at hconsole
    exact ⟨reader, hconsole⟩

theorem writes_commandStage {s : Shell} (hidle : s.isPaging = false) (world : σ) (line : String) :
    (commandStage service s world line).Writes := by
  obtain ⟨reader, hsubmit⟩ := submit_console hidle line
  refine Stage.writes_of_console hidle ⟨reader, ?_⟩
  simp only [commandStage, settle_console, hsubmit, Console.foldl_perform_reader, List.foldl_append]

theorem writes_endStage {s : Shell} (hidle : s.isPaging = false) (world : σ) : (endStage service s world).Writes := by
  obtain ⟨reader, hinterrupt⟩ := interrupt_console hidle
  refine Stage.writes_of_console hidle ⟨reader, ?_⟩
  simp only [endStage, settle_console, hinterrupt, Console.foldl_perform_reader]

/-- After a stage whose effects fit, their lines are printed, and the shell goes on with nothing to be printed. -/
theorem Stage.Writes.flush {stage : Stage} (h : stage.Writes) {s : Shell} (hbefore : stage.before = s)
    (hidle : s.isPaging = false) (hfits : FitsScreen s.console.pager.rows s.console.paging stage.effects) :
    stage.after.flush.1.isPaging = false ∧ stage.after.flush.1.console.queue = [] ∧
      stage.after.flush.1.console.style = s.console.style ∧
      stage.after.flush.1.console.pager.rows = s.console.pager.rows ∧
      stage.after.flush.1.console.paging = stage.effects.foldl Effect.switch s.console.paging ∧
      stage.after.flush.2 = printed s.console.style (s.console.queue ++ stage.effects.flatMap Effect.output) := by
  subst hbefore
  obtain ⟨reader, hafter⟩ := h.wrote hfits
  have hconsole : stage.after.flush.1.console = { stage.after.console with queue := [] } := rfl
  have htext : stage.after.flush.2 = printed stage.after.console.style stage.after.console.queue := rfl
  rw [isPaging, hconsole, htext, hafter]
  exact ⟨hidle, rfl, rfl, rfl, rfl, rfl⟩

/-! ## Runs -/

/-- **The pager stays idle through the stages of a run exactly if their effects fit the screen.** -/
theorem stages_idle_iff {s : Shell} (hidle : s.isPaging = false) (world : σ) (commands : List String) :
    (∀ stage ∈ stages service s world commands, stage.before.isPaging = false ∧ stage.after.isPaging = false) ↔
      FitsScreen s.console.pager.rows s.console.paging
        ((stages service s world commands).flatMap Stage.effects) := by
  have hend : ∀ {t : Shell} (_ : t.isPaging = false) (world : σ),
      (∀ stage ∈ [endStage service t world], stage.before.isPaging = false ∧ stage.after.isPaging = false) ↔
        FitsScreen t.console.pager.rows t.console.paging ([endStage service t world].flatMap Stage.effects) := by
    intro t ht world
    have hwrites := (writes_endStage service ht world).idle
    simpa [endStage, ht] using hwrites
  induction commands generalizing s world with
  | nil => exact hend hidle world
  | cons line rest ih =>
      have hwrites := writes_commandStage service hidle world line
      rw [stages, List.forall_mem_cons, List.flatMap_cons, fitsScreen_append]
      by_cases hfits : FitsScreen s.console.pager.rows s.console.paging (commandStage service s world line).effects
      · have hbefore : (commandStage service s world line).before.isPaging = false ∧
            (commandStage service s world line).after.isPaging = false := ⟨hidle, hwrites.idle.mpr hfits⟩
        obtain ⟨hnext, -, -, hrows, hpaging, -⟩ := hwrites.flush (s := s) rfl hidle hfits
        rw [and_iff_right hbefore, and_iff_right hfits, ← hrows, ← hpaging]
        split
        · simp [FitsScreen]
        · split
          · exact hend hnext _
          · exact ih hnext _
      -- Lines that are held after the first stage decide both sides, whatever the other stages do.
      · refine iff_of_false ?_ fun h => hfits h.1
        rintro ⟨⟨-, hafter⟩, -⟩
        exact hfits (hwrites.idle.mp hafter)

theorem printed_append (style : Style) (lines others : List OutputLine) :
    printed style (lines ++ others) = printed style lines ++ printed style others := by
  simp [printed]

/-- The stages of a run whose output has been printed: all of them, but for one that never ends. -/
def stagesPrinted (run : BatchRun σ) (all : List Stage) : List Stage :=
  if run.finished then all else all.dropLast

/-- The output of the effects of some stages. -/
def outputOf (all : List Stage) : List OutputLine :=
  all.flatMap fun stage => stage.effects.flatMap Effect.output

theorem outputOf_cons (stage : Stage) (all : List Stage) :
    outputOf (stage :: all) = stage.effects.flatMap Effect.output ++ outputOf all :=
  List.flatMap_cons

/-- A stage that is not the last one has been printed. -/
theorem stagesPrinted_cons (run : BatchRun σ) (stage : Stage) {all : List Stage} (hne : all ≠ []) :
    stagesPrinted run (stage :: all) = stage :: stagesPrinted run all := by
  unfold stagesPrinted
  split
  · rfl
  · exact List.dropLast_cons_of_ne_nil hne

/-- What the end of a run prints. -/
theorem runEnd_stdout {s : Shell} (hidle : s.isPaging = false) (hqueue : s.console.queue = []) (world : σ)
    (hfits : FitsScreen s.console.pager.rows s.console.paging (endStage service s world).effects) (stdout : String) :
    (runEnd service s world stdout).stdout = stdout ++ printed s.console.style
      (outputOf (stagesPrinted (runEnd service s world stdout) [endStage service s world])) := by
  obtain ⟨-, -, -, -, -, htext⟩ := (writes_endStage service hidle world).flush (s := s) rfl hidle hfits
  have hflush : (settle service s.interrupt world).1.flush.2 =
      printed s.console.style ((endStage service s world).effects.flatMap Effect.output) := by
    rwa [hqueue, List.nil_append] at htext
  simp only [runEnd, stagesPrinted]
  split
  · simp [outputOf, printed]
  · simp [outputOf, hflush]

/-- **What a run prints are the lines of its effects,** if these fit the screen. -/
theorem runCommands_stdout {s : Shell} (hidle : s.isPaging = false) (hqueue : s.console.queue = []) (world : σ)
    {commands : List String}
    (hfits : FitsScreen s.console.pager.rows s.console.paging
      ((stages service s world commands).flatMap Stage.effects)) (stdout : String) :
    (runCommands service s world stdout commands).stdout = stdout ++ printed s.console.style
      (outputOf (stagesPrinted (runCommands service s world stdout commands) (stages service s world commands))) := by
  induction commands generalizing s world stdout with
  | nil => exact runEnd_stdout service hidle hqueue world (by simpa [stages] using hfits) stdout
  | cons line rest ih =>
      rw [stages, List.flatMap_cons, fitsScreen_append] at hfits
      obtain ⟨hfirst, hrest⟩ := hfits
      obtain ⟨hnext, hempty, hstyle, hrows, hpaging, htext⟩ :=
        (writes_commandStage service hidle world line).flush (s := s) rfl hidle hfirst
      rw [hqueue, List.nil_append] at htext
      rw [← hrows, ← hpaging] at hrest
      by_cases hstuck : (settle service (s.submit line) world).1.isStuck = true
      · simp [runCommands, stages, hstuck, stagesPrinted, outputOf, printed]
      · simp only [hstuck, if_false, Bool.false_eq_true] at hrest
        simp only [runCommands, stages, hstuck, if_false, Bool.false_eq_true]
        -- The stage is printed, and then what is behind it.
        by_cases hexit : (settle service (s.submit line) world).1.flush.1.session.exiting = true
        · simp only [hexit, if_true, List.flatMap_singleton] at hrest ⊢
          rw [stagesPrinted_cons _ _ (by simp), outputOf_cons, printed_append, ← htext, ← String.append_assoc, ← hstyle]
          exact runEnd_stdout service hnext hempty _ hrest _
        · simp only [hexit, if_false, Bool.false_eq_true] at hrest ⊢
          rw [stagesPrinted_cons _ _ (stages_ne_nil service _ _ rest), outputOf_cons, printed_append, ← htext,
            ← String.append_assoc, ← hstyle]
          exact ih hnext hempty _ hrest _

/-- **A run of commands that never pages.** No lines are held before or after any stage; a command is run as one, and is
never a key for the pager; and what is printed are the lines of all effects, those handed to the pager among them. -/
structure NeverPages (s : Shell) (world : σ) (commands : List String) : Prop where
  idle : ∀ stage ∈ stages service (s.perform (.setPaging false)) world commands,
    stage.before.isPaging = false ∧ stage.after.isPaging = false
  dispatched : ∀ stage ∈ stages service (s.perform (.setPaging false)) world commands, ∀ line ∈ stage.command,
    stage.before.isAsking = false → stage.before.submit line = stage.before.runCommand line
  printed : (runBatch service s world commands).stdout = printed s.console.style
    (outputOf (stagesPrinted (runBatch service s world commands)
      (stages service (s.perform (.setPaging false)) world commands)))

/-- If all output that is handed to the pager while paging is on fits the screen, a run never pages. -/
theorem neverPages_of_fits {s : Shell} (hidle : s.isPaging = false) (hqueue : s.console.queue = []) {world : σ}
    {commands : List String}
    (hfits : FitsScreen s.console.pager.rows false
      ((stages service (s.perform (.setPaging false)) world commands).flatMap Stage.effects)) :
    NeverPages service s world commands := by
  have hall := (stages_idle_iff service (s := s.perform (.setPaging false)) hidle world commands).mpr hfits
  refine ⟨hall, ?_, ?_⟩
  · intro stage hstage line _ hasking
    simp [submit, (hall stage hstage).1, hasking]
  · have hrun := runCommands_stdout service (s := s.perform (.setPaging false)) hidle hqueue world hfits ""
    rw [String.empty_append] at hrun
    exact hrun

/-- **When a run of commands never pages:** exactly if the output that is handed to the pager while paging is on is never
longer than the screen. Paging is off at the beginning, but a command may have turned it on. -/
theorem neverPages_iff {s : Shell} (hidle : s.isPaging = false) (hqueue : s.console.queue = []) (world : σ)
    (commands : List String) :
    NeverPages service s world commands ↔
      FitsScreen s.console.pager.rows false
        ((stages service (s.perform (.setPaging false)) world commands).flatMap Stage.effects) := by
  constructor
  · intro h
    exact (stages_idle_iff service (s := s.perform (.setPaging false)) hidle world commands).mp h.idle
  · intro hfits
    exact neverPages_of_fits service hidle hqueue hfits

/-- Paging does no harm as long as the output is short. -/
theorem neverPages_pwd :
    let s := Shell.new Commands.registry "/" "" (Pager.new 10 true) { zone := 0 }
    s.isPaging = false ∧ s.console.queue = [] ∧ NeverPages Script.answer s { entries := [] } ["pager on", "pwd"] := by
  intro s
  have hfits : FitsScreen s.console.pager.rows false
      ((stages Script.answer (s.perform (.setPaging false)) { entries := [] } ["pager on", "pwd"]).flatMap
        Stage.effects) := by
    decide +kernel
  exact ⟨rfl, rfl, (neverPages_iff Script.answer rfl rfl { entries := [] } ["pager on", "pwd"]).mpr hfits⟩

/-- Once `pager` has turned paging on, a long output is held, and the next command is a key for the pager. -/
theorem not_neverPages_help :
    ¬ NeverPages Script.answer (Shell.new Commands.registry "/" "" (Pager.new 10 true) { zone := 0 }) { entries := [] }
      ["pager on", "help", "pwd"] := by
  intro h
  have hfits := (stages_idle_iff Script.answer
    (s := (Shell.new Commands.registry "/" "" (Pager.new 10 true) { zone := 0 }).perform (.setPaging false)) rfl
    { entries := [] } ["pager on", "help", "pwd"]).mp h.idle
  exact absurd hfits (by decide +kernel)

/-! ## Runs without `pager` -/

/-- A line that is not of `pager`. -/
def IsNoPagerLine (registry : Registry) (line : String) : Prop :=
  ∀ c ∈ (commandWord? line).bind registry.lookup, c.verb ≠ .pager

/-- Effects that leave paging as it is. -/
def LeavePaging (effects : List Effect) : Prop :=
  ∀ e ∈ effects, ∀ enabled, e ≠ .setPaging enabled

theorem LeavePaging.append {effects others : List Effect} (h : LeavePaging effects) (h' : LeavePaging others) :
    LeavePaging (effects ++ others) := by
  intro e he
  exact (List.mem_append.mp he).elim (h e) (h' e)

theorem leavePaging_echo (lines : List String) : LeavePaging (lines.map .echo) := by
  simp [LeavePaging]

/-- What comes of a call leaves paging as it is. -/
theorem leavePaging_outcomeEffects (s : Shell) (aim : Aim) (outcome : Outcome) :
    LeavePaging (s.outcomeEffects aim outcome) := by
  cases aim with
  | completion number request => simp [outcomeEffects, LeavePaging]
  | task task =>
      by_cases henter : ∃ folder remembered, task = .enter folder remembered
      · obtain ⟨folder, remembered, rfl⟩ := henter
        obtain ⟨report, hconclude⟩ := Task.conclude_enter s.console.style folder remembered outcome
        rw [outcomeEffects, hconclude]
        cases arrival? folder outcome <;> cases remembered <;> simp [LeavePaging]
      · have hne : ∀ folder remembered, task ≠ .enter folder remembered :=
          fun folder remembered heq => henter ⟨folder, remembered, heq⟩
        intro e he
        exact Effect.ne_setPaging_of_isWriting (Task.isWriting_conclude hne _ outcome e he)

theorem leavePaging_callEffects (s : Shell) (world : σ) (call : Call) (aim : Aim) :
    LeavePaging (callEffects service s world call aim) := by
  unfold callEffects
  split
  · exact leavePaging_outcomeEffects s aim _
  · simp [LeavePaging]

theorem leavePaging_jobEffects (s : Shell) (world : σ) (job : Job) : LeavePaging (jobEffects service s world job) := by
  unfold jobEffects
  split
  · exact leavePaging_callEffects service s world _ _
  · simp [LeavePaging]
  · simp [LeavePaging]
  · split
    · simp [LeavePaging]
    · simp [LeavePaging]
    · split
      · exact leavePaging_callEffects service s world _ _
      · simp [LeavePaging]
  · exact leavePaging_outcomeEffects s _ _

theorem leavePaging_jobsEffects (s : Shell) (world : σ) (jobs : List Job) :
    LeavePaging (jobsEffects service s world jobs) := by
  induction jobs generalizing s world with
  | nil => simp [jobsEffects, LeavePaging]
  | cons job rest ih => exact (leavePaging_jobEffects service _ world job).append (ih _ _)

theorem leavePaging_settleEffects (s : Shell) (world : σ) : LeavePaging (settleEffects service s world) := by
  unfold settleEffects
  split
  · simp [LeavePaging]
  · exact leavePaging_jobsEffects service s world s.ready

/-- A line that is not of `pager` leaves paging as it is. -/
theorem leavePaging_lineEffects {s : Shell} {line : String} (h : IsNoPagerLine s.registry line) :
    LeavePaging (s.lineEffects line) := by
  unfold lineEffects
  split
  · simp [LeavePaging]
  · split
    · exact leavePaging_echo _
    · refine LeavePaging.append ?_ ?_
      · unfold planOf
        cases hread : parseLine s.surroundings.registry line s.surroundings.session.cwd with
        | error e => simp [LeavePaging, Plan.now]
        | ok found => cases found with
          | none => simp [LeavePaging]
          | some i => exact Plan.effects_ofVerb (h i.command (lookup_of_parseLine hread)) s.surroundings i.args
      · split
        · exact leavePaging_echo _
        · simp [LeavePaging]

theorem conclude_registry (s : Shell) (aim : Aim) (outcome : Outcome) :
    (s.conclude aim outcome).registry = s.registry := by
  cases aim with
  | task task => rw [conclude, performAll_eq]
  | completion number request => rfl

theorem place_registry (s : Shell) (world : σ) (call : Call) (aim : Aim) :
    (place service s world call aim).shell.registry = s.registry := by
  unfold place
  dsimp only
  split
  · exact conclude_registry _ aim _
  · rfl

theorem attend_registry (s : Shell) (world : σ) (job : Job) :
    (attend service s world job).shell.registry = s.registry := by
  cases job with
  | call call aim => exact place_registry service s world call aim
  | complete number line pos cwd =>
      simp only [attend, startCompletion]
      split
      · rfl
      · exact place_registry service _ _ _ _
  | compose chain letter => rfl
  | send letter answers =>
      simp only [attend, sendLetter]
      split
      · rfl
      · rfl
      · split
        · exact place_registry service s world _ _
        · rfl
  | conclude aim outcome => exact conclude_registry s aim outcome

theorem settle_registry (s : Shell) (world : σ) : (settle service s world).1.registry = s.registry := by
  have hall : ∀ (jobs : List Job) (t : Shell) (world : σ), (attendAll service t world jobs).1.registry = t.registry := by
    intro jobs
    induction jobs with
    | nil => exact fun t world => rfl
    | cons job rest ih => exact fun t world => (ih _ _).trans (attend_registry service _ world job)
  unfold settle
  split
  · rfl
  · exact hall s.ready s world

theorem follow_registry (s : Shell) (step : Console × Option (Nat × Answers)) :
    (s.follow step).registry = s.registry := by
  unfold follow
  dsimp only
  split <;> rfl

/-- The table of commands stays the same. -/
theorem submit_registry (s : Shell) (line : String) : (s.submit line).registry = s.registry := by
  unfold submit
  split
  · rfl
  · split
    · exact follow_registry s _
    · rw [runCommand_eq, carryOut, performAll_eq]
      split
      · next work hwork =>
          cases work with
          | call call task => rfl
          | letter letter => exact follow_registry _ _
      · rfl

/-- Without `pager`, a run leaves paging as it is. -/
theorem leavePaging_stages {s : Shell} {commands : List String}
    (h : ∀ line ∈ commands, IsNoPagerLine s.registry line) (world : σ) :
    LeavePaging ((stages service s world commands).flatMap Stage.effects) := by
  have hend : ∀ (t : Shell) (world : σ), LeavePaging ([endStage service t world].flatMap Stage.effects) := by
    intro t world
    rw [List.flatMap_singleton]
    exact leavePaging_settleEffects service _ world
  induction commands generalizing s world with
  | nil => exact hend s world
  | cons line rest ih =>
      rw [stages, List.flatMap_cons]
      refine LeavePaging.append ((leavePaging_lineEffects (h line (by simp))).append
        (leavePaging_settleEffects service _ world)) ?_
      have hregistry : (settle service (s.submit line) world).1.flush.1.registry = s.registry :=
        (settle_registry service _ world).trans (submit_registry s line)
      split
      · simp [LeavePaging]
      · split
        · exact hend _ _
        · refine ih ?_ _
          rw [hregistry]
          exact fun other hother => h other (List.mem_cons_of_mem _ hother)

/-- **Without `pager`, a run of commands never pages.** -/
theorem neverPages_of_no_pager {s : Shell} (hidle : s.isPaging = false) (hqueue : s.console.queue = []) (world : σ)
    {commands : List String} (h : ∀ line ∈ commands, IsNoPagerLine s.registry line) :
    NeverPages service s world commands := by
  have hleave := leavePaging_stages service (s := s.perform (.setPaging false)) h world
  exact neverPages_of_fits service hidle hqueue (fitsScreen_of_no_switch s.console.pager.rows hleave).1

end Shell

end RemoteShell
