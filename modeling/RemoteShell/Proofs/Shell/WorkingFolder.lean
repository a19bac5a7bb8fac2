import Mathlib.Data.List.Induction
import RemoteShell.Proofs.Commands.Origin
import RemoteShell.Proofs.Commands.PathParameters
import RemoteShell.Proofs.Completion.Candidates
import RemoteShell.Proofs.Shell.Succession

/-!
# The working folder

The working folder and the folders remembered are the ground on which paths are resolved. They change when `pushd` and
`popd` are given, and when the look-up that `cd` or `pushd` has left is answered, which may be much later. A folder that
is entered is the one asked for or the one that the reply names, and only the service is responsible for the latter. If
its replies to look-ups name no path or one in normal form, then in every run all folders stay in normal form, and so does
every path that is sent, also those that completions ask for.

Main statements:

* `Task.areNormal_conclude`: an outcome leads to folders in normal form.
* `Shell.IsSound.after`: folders, jobs and calls in every state that a shell can come to.
* `Shell.wasSent_of_hasAim`: who is on the way to a folder was sent by `cd` or `pushd`.
* `Shell.folders_normal`: all of it.
-/

namespace RemoteShell

/-- A reply whose path, if it has one, is in normal form. -/
def Json.HasNormalPath (reply : Json) : Prop :=
  ∀ value, reply.get? "path" = some value → value = .null ∨ value = .str "" ∨ ∃ path, value = .str path ∧ Path.IsNormal path

/-! ## Effects on folders -/

namespace Effect

/-- Whether an effect changes the working folder or the folders remembered. -/
def moves : Effect → Bool
  | .enter _ | .push | .back => true
  | .echo _ | .error _ | .page _ | .setPaging _ | .exit => false

/-- An effect that enters no folder, or one in normal form. -/
def IsNormal (e : Effect) : Prop :=
  ∀ folder, e = .enter folder → Path.IsNormal folder

end Effect

namespace Session

/-- Sessions with the same working folder and the same folders remembered. -/
def SameFolders (s t : Session) : Prop :=
  s.cwd = t.cwd ∧ s.remembered = t.remembered

theorem home_foldl_move (effects : List Effect) (s : Session) : (effects.foldl Effect.move s).home = s.home := by
  induction effects generalizing s with
  | nil => rfl
  | cons e rest ih =>
      have hfirst : (e.move s).home = s.home := by
        cases e with
        | back =>
            simp only [Effect.move, back]
            split <;> rfl
        | _ => rfl
      exact (ih (e.move s)).trans hfirst

theorem sameFolders_foldl_move {effects : List Effect} (h : ∀ e ∈ effects, e.moves = false) (s : Session) :
    (effects.foldl Effect.move s).SameFolders s := by
  induction effects generalizing s with
  | nil => exact ⟨rfl, rfl⟩
  | cons e rest ih =>
      have hfirst : (e.move s).SameFolders s := by
        have hstays := h e (List.mem_cons_self ..)
        cases e with
        | enter | push | back => simp [Effect.moves] at hstays
        | _ => exact ⟨rfl, rfl⟩
      obtain ⟨hcwd, hremembered⟩ := ih (fun other hmem => h other (List.mem_cons_of_mem _ hmem)) (e.move s)
      exact ⟨hcwd.trans hfirst.1, hremembered.trans hfirst.2⟩

/-- One effect that is in normal form leaves the folders so. -/
theorem HasNormalFolders.move {s : Session} (h : s.HasNormalFolders) {e : Effect} (he : e.IsNormal) :
    (e.move s).HasNormalFolders := by
  cases e with
  | enter folder => exact ⟨he folder rfl, h.home, h.remembered⟩
  | push =>
      refine ⟨h.cwd, h.home, ?_⟩
      intro folder hmem
      rcases List.mem_cons.mp hmem with rfl | hmem
      · exact h.cwd
      · exact h.remembered folder hmem
  | back =>
      obtain ⟨cwd, remembered, home, exiting⟩ := s
      cases remembered with
      | nil => exact h
      | cons folder rest =>
          exact ⟨h.remembered folder (List.mem_cons_self ..), h.home,
            fun other hmem => h.remembered other (List.mem_cons_of_mem _ hmem)⟩
  | _ => exact ⟨h.cwd, h.home, h.remembered⟩

theorem HasNormalFolders.foldl_move {s : Session} (h : s.HasNormalFolders) {effects : List Effect}
    (heffects : ∀ e ∈ effects, e.IsNormal) : (effects.foldl Effect.move s).HasNormalFolders := by
  induction effects generalizing s with
  | nil => exact h
  | cons e rest ih =>
      exact ih (h.move (heffects e (List.mem_cons_self ..))) fun other hmem => heffects other (List.mem_cons_of_mem _ hmem)

end Session

/-- Whether a command can have an effect at once. -/
def Effect.isOf (verb : Verb) : Effect → Bool
  | .echo _ | .error _ | .page _ => true
  | .push => verb == .pushd
  | .back => verb == .popd
  | .setPaging _ => verb == .pager
  | .exit => verb == .exit
  | .enter _ => false

/-- **The effects that a command has at once.** -/
theorem Plan.isOf_of_mem_effects (around : Surroundings) (args : Arguments) (verb : Verb) :
    ∀ e ∈ (ofVerb around args verb).effects, e.isOf verb = true := by
  cases verb with
  | help =>
      simp only [ofVerb, now, help]
      split
      · split <;> simp [Effect.isOf]
      · simp [Effect.isOf]
  | popd =>
      simp only [ofVerb, now, goBack]
      split <;> simp [Effect.isOf]
  | lookup =>
      simp only [ofVerb, lookup]
      split <;> simp [ask, now, Effect.isOf]
  | pshare =>
      simp only [ofVerb, addPathPolicy]
      split <;> simp [ask, now, Effect.isOf]
  | gattr =>
      simp only [ofVerb, setAttributes]
      split <;> simp [ask, now, Effect.isOf]
  | _ =>
      simp [ofVerb, now, ask, who, changeFolder, link, applyPolicy, copyUsers, addMailer, enter, write, switchPaging,
        Effect.isOf]

/-- **Only `pushd` and `popd` change folders at once,** and nothing that is done at once enters a folder. -/
theorem Effect.of_isOf {verb : Verb} {e : Effect} (h : e.isOf verb = true) :
    e.IsNormal ∧ (verb ≠ .pushd → verb ≠ .popd → e.moves = false) := by
  cases e with
  | enter folder => simp [isOf] at h
  | push => exact ⟨by simp [IsNormal], fun hpushd => absurd (by simpa [isOf] using h) hpushd⟩
  | back => exact ⟨by simp [IsNormal], fun _ hpopd => absurd (by simpa [isOf] using h) hpopd⟩
  | _ => exact ⟨by simp [IsNormal], fun _ _ => rfl⟩

/-! ## Outcomes -/

/-- A reply is passed on as it is. -/
theorem Reply.eq_of_classify {value : Json} :
    (∀ other, Reply.classify value = .success other → other = value) ∧
      ∀ other, Reply.classify value = .benign other → other = value := by
  unfold classify
  split
  · simp
  · split
    · split
      · simp
      · split <;> simp_all
    · simp_all
  · simp

/-- A folder that an outcome leads to is the one that was asked for, or the one that the reply names. -/
theorem isNormal_of_arrival? {folder path : String} {outcome : Outcome} (h : arrival? folder outcome = some path)
    (hfolder : Path.IsNormal folder) (hreply : ∀ reply, outcome = .ok reply → reply.HasNormalPath) :
    Path.IsNormal path := by
  have hnamed : ∀ value, outcome = .ok value →
      Path.IsNormal (if value.field "path" == "" then folder else value.field "path") := by
    intro value hvalue
    split
    · exact hfolder
    · next hnamed =>
        unfold Json.field at hnamed ⊢
        split at hnamed
        · simp at hnamed
        · simp at hnamed
        · next text hget =>
            rcases hreply value hvalue _ hget with hnull | hempty | ⟨other, hother, hnormal⟩
            · simp at hnull
            · simp_all
            · simp_all
        · next other hnull htext hget =>
            rcases hreply value hvalue _ hget with rfl | rfl | ⟨other, rfl, -⟩
            · exact absurd rfl hnull
            · exact absurd rfl (htext _)
            · exact absurd rfl (htext _)
  cases outcome with
  | error failure => simp [arrival?] at h
  | ok value =>
      cases hclass : Reply.classify value with
      | failure message => simp [arrival?, hclass] at h
      | list items => simp [arrival?, hclass] at h
      | success other =>
          obtain rfl := Reply.eq_of_classify.1 other hclass
          simp only [arrival?, hclass] at h
          split at h
          · exact Option.some.inj h ▸ hnamed _ rfl
          · cases h
      | benign other =>
          obtain rfl := Reply.eq_of_classify.2 other hclass
          simp only [arrival?, hclass] at h
          split at h
          · exact Option.some.inj h ▸ hnamed _ rfl
          · cases h

/-- **An outcome leads to folders in normal form,** if the one that was asked for is and the reply names no other. -/
theorem Task.areNormal_conclude {task : Task} {outcome : Outcome} (style : Style)
    (h : ∀ folder remembered, task = .enter folder remembered →
      Path.IsNormal folder ∧ ∀ reply, outcome = .ok reply → reply.HasNormalPath) :
    ∀ e ∈ task.conclude style outcome, e.IsNormal := by
  by_cases henter : ∃ folder remembered, task = .enter folder remembered
  · obtain ⟨folder, remembered, rfl⟩ := henter
    obtain ⟨hfolder, hreply⟩ := h folder remembered rfl
    obtain ⟨report, hconclude⟩ := Task.conclude_enter style folder remembered outcome
    rw [hconclude]
    split
    · next path harrival =>
        simpa [Effect.IsNormal] using isNormal_of_arrival? harrival hfolder hreply
    · split <;> simp [Effect.IsNormal]
  · push Not at henter
    intro e he folder heq
    have hwriting := isWriting_conclude henter style outcome e he
    simp [heq, Effect.isWriting] at hwriting

/-! ## Lines and calls -/

/-- A line that is read as a command of the table binds its tokens. -/
theorem bind_of_parseLine {registry : Registry} {line cwd : String} {i : Invocation}
    (h : parseLine registry line cwd = .ok (some i)) :
    i.command ∈ registry.commands ∧ ∃ tokens, i.command.bind tokens cwd = .ok i.args := by
  obtain ⟨head, rest, -, -, -, hlookup, hbind⟩ := parseTokens_eq_ok_some_iff.mp h
  exact ⟨Registry.mem_of_lookup hlookup, rest, hbind⟩

/-- **What a line leaves has paths in normal form.** -/
theorem hasNormalPaths_planOf {around : Surroundings} (hregistry : around.registry = Commands.registry)
    (hsession : around.session.HasNormalFolders) (line : String) :
    ∀ work ∈ (planOf around line).work, work.HasNormalPaths := by
  unfold planOf
  split
  · exact Plan.hasNormalPaths_now _
  · simp
  · next i hread =>
      rw [hregistry] at hread
      obtain ⟨hcommand, tokens, hbind⟩ := bind_of_parseLine hread
      exact Plan.hasNormalPaths_ofVerb hsession (Command.hasNormalPaths_of_bind hcommand hbind)

/-- What a line does at once enters no folder. -/
theorem areNormal_planOf (around : Surroundings) (line : String) : ∀ e ∈ (planOf around line).effects, e.IsNormal := by
  unfold planOf
  split
  · simp [Plan.now, Effect.IsNormal]
  · simp
  · next i _ =>
      exact fun e he => (Effect.of_isOf (Plan.isOf_of_mem_effects around i.args i.command.verb e he)).1

/-- **A request for matching names sends a path in normal form.** -/
theorem MatchRequest.sendsNormalPaths {c : Completer} {registry : Registry} {line : String} {pos : Nat} {cwd : String}
    {request : MatchRequest} (h : (c.start registry line pos cwd).2 = .ask request) :
    request.call.SendsNormalPaths := by
  unfold Completer.start at h
  dsimp only at h
  split at h
  · cases h
  · next typed path container hoffer =>
      obtain rfl := CompletionStep.ask.inj h
      obtain ⟨-, -, rfl⟩ := Offer.path_of_ask hoffer
      exact Call.sendsNormalPaths (.path (Path.isNormal_resolve cwd typed.value) (.other (by decide) .nil)) .file "fcmp"

/-- A letter sends the path of its mailer. -/
theorem Letter.sendsNormalPaths {letter : Letter} (h : ∀ path ∈ letter.mailer, Path.IsNormal path) {texts : List String}
    {call : Call} (hcall : letter.call? texts = some call) : call.SendsNormalPaths := by
  unfold Letter.call? at hcall
  split at hcall
  · obtain rfl := Option.some.inj hcall
    refine Call.sendsNormalPaths (.cons (fun _ => ?_) (.other (by decide) .nil)) .file "smtp"
    cases hmailer : letter.mailer with
    | none => exact Or.inl (by simp [Json.ofText?])
    | some path => exact Or.inr ⟨path, by simp [Json.ofText?], h path hmailer⟩
  · cases hcall

/-! ## Jobs -/

/-- A task that leads to folders in normal form, given the outcome of its call. -/
def Task.LeadsToNormal (task : Task) (outcome : Outcome) : Prop :=
  ∀ folder remembered, task = .enter folder remembered →
    Path.IsNormal folder ∧ ∀ reply, outcome = .ok reply → reply.HasNormalPath

/-- A job whose paths are in normal form. -/
def Job.HasNormalPaths : Job → Prop
  | .call asked (.task left) => asked.HasNormalPaths left
  | .call asked (.completion _ _) => asked.SendsNormalPaths
  | .compose _ letter | .send letter _ => ∀ path ∈ letter.mailer, Path.IsNormal path
  | .conclude (.task task) outcome => task.LeadsToNormal outcome
  | .complete _ _ _ _ | .conclude (.completion _ _) _ => True

/-- A waiting job whose paths are in normal form. One that is on the way into a folder waits for a look-up in the log. -/
def Waiting.HasNormalPaths (log : List Call) : Waiting → Prop
  | .reply ticket (.task task) => ∃ call, log[ticket]? = some call ∧ call.HasNormalPaths task
  | .reply _ (.completion _ _) => True
  | .answers _ letter => ∀ path ∈ letter.mailer, Path.IsNormal path

/-- What is in the log stays there. -/
theorem Waiting.HasNormalPaths.append {log : List Call} {w : Waiting} (h : w.HasNormalPaths log) (more : List Call) :
    w.HasNormalPaths (log ++ more) := by
  cases w with
  | answers chain letter => exact h
  | reply ticket aim =>
      cases aim with
      | completion number request => trivial
      | task task =>
          obtain ⟨call, hcall, hpaths⟩ := h
          refine ⟨call, ?_, hpaths⟩
          rw [List.getElem?_append_left (List.getElem?_eq_some_iff.mp hcall).1, hcall]

/-- A call that a job makes sends paths in normal form, and is a look-up on the way into a folder. -/
theorem Shell.hasNormalPaths_callOf? {s : Shell} {job : Job} (h : job.HasNormalPaths) {call : Call} {aim : Aim}
    (hcall : s.callOf? job = some (call, aim)) :
    call.SendsNormalPaths ∧ ∀ task, aim = .task task → call.HasNormalPaths task := by
  rcases Shell.callOf?_cases hcall with rfl | ⟨_, _, _, _, request, rfl, hask, rfl, rfl⟩ | ⟨letter, texts, rfl, hletter, rfl⟩
  · cases aim with
    | task task =>
        refine ⟨h.sends, ?_⟩
        rintro other heq
        obtain rfl := Aim.task.inj heq
        exact h
    | completion number request => exact ⟨h, fun task heq => by cases heq⟩
  · exact ⟨MatchRequest.sendsNormalPaths hask, fun task heq => by cases heq⟩
  · have hsends := Letter.sendsNormalPaths h hletter
    refine ⟨hsends, ?_⟩
    rintro task heq
    obtain rfl := Aim.task.inj heq
    exact ⟨hsends, fun folder remembered henter => by cases henter⟩

/-! ## All that can happen -/

/-- A service whose replies at once to look-ups name paths in normal form. -/
def RepliesNormally {σ : Type} (service : Service σ) : Prop :=
  ∀ ticket call world reply, Call.IsLookup call → (service ticket call world).1 = some (.ok reply) → reply.HasNormalPath

/-- A stimulus that, if it is the reply to a look-up, names a path in normal form. The calls so far say what a reply is
to. -/
def Stimulus.RepliesNormally (log : List Call) (stimulus : Stimulus) : Prop :=
  ∀ ticket call reply, stimulus = .reply ticket (.ok reply) → log[ticket]? = some call → call.IsLookup →
    reply.HasNormalPath

namespace Shell

variable {σ : Type} (service : Service σ)

/-- **All paths of a shell and of its calls are in normal form.** -/
structure IsSound (here : Shell × (σ × List Call)) : Prop where
  registry : here.1.registry = Commands.registry
  session : here.1.session.HasNormalFolders
  calls : here.1.calls = here.2.2.length
  log : ∀ call ∈ here.2.2, call.SendsNormalPaths
  ready : ∀ job ∈ here.1.ready, job.HasNormalPaths
  waiting : ∀ w ∈ here.1.waiting, w.HasNormalPaths here.2.2

theorem isSound_new (home prompt : String) (pager : Pager) (style : Style) (world : σ) :
    IsSound (new Commands.registry home prompt pager style, (world, [])) where
  registry := rfl
  session := ⟨Path.isNormal_resolve "/" home, Path.isNormal_resolve "/" home, by simp [new, Session.new]⟩
  calls := rfl
  log := by simp
  ready := by simp [new]
  waiting := by simp [new]

/-- An outcome that a job concludes leads to folders in normal form. -/
theorem leadsToNormal_of_outcomeOf? {s : Shell} {world : σ × List Call} (hservice : RepliesNormally service) {job : Job}
    (hjob : job.HasNormalPaths) {task : Task} {outcome : Outcome}
    (h : outcomeOf? (logging service) s world job = some (.task task, outcome)) : task.LeadsToNormal outcome := by
  rcases outcomeOf?_cases (logging service) h with rfl | ⟨call, hcall, hanswer⟩
  · exact hjob
  · have hpaths := (hasNormalPaths_callOf? hjob hcall).2 task rfl
    intro folder remembered henter
    obtain ⟨hfolder, hlookup⟩ := hpaths.enters folder remembered henter
    refine ⟨hfolder, ?_⟩
    rintro reply rfl
    exact hservice _ call _ reply hlookup hanswer

theorem IsSound.session_react {here : Shell × (σ × List Call)} (h : IsSound here) (hservice : RepliesNormally service)
    (stimulus : Stimulus) : (react (logging service) here stimulus).1.session.HasNormalFolders := by
  rw [Shell.session_react]
  cases stimulus with
  | line text =>
      simp only [sessionAfter]
      split
      · exact h.session.foldl_move (areNormal_planOf here.1.surroundings text)
      · exact h.session
  | attend place =>
      simp only [sessionAfter]
      split
      · next job hjob =>
          unfold sessionOf
          split
          · next task outcome houtcome =>
              have hleads := leadsToNormal_of_outcomeOf? service hservice (h.ready job (List.mem_of_getElem? hjob)) houtcome
              exact h.session.foldl_move (Task.areNormal_conclude here.1.console.style hleads)
          · exact h.session
          · exact h.session
      · exact h.session
  | _ => exact h.session

/-- A call that is made upon a stimulus sends paths in normal form. -/
theorem IsSound.called {here : Shell × (σ × List Call)} (h : IsSound here) {stimulus : Stimulus} {call : Call}
    (hcall : here.1.called? stimulus = some call) : call.SendsNormalPaths := by
  obtain ⟨job, hjob, hmade⟩ := Option.bind_eq_some_iff.mp hcall
  obtain ⟨⟨made, aim⟩, hjobCall, rfl⟩ := Option.map_eq_some_iff.mp hmade
  exact (hasNormalPaths_callOf? (h.ready job (mem_ready_of_attended? hjob)) hjobCall).1

/-- What comes into the queue has paths in normal form. -/
theorem IsSound.adds {here : Shell × (σ × List Call)} (h : IsSound here) {stimulus : Stimulus}
    (hreply : stimulus.RepliesNormally here.2.2) {job : Job} (hadds : here.1.Adds stimulus job) : job.HasNormalPaths := by
  cases hadds with
  | @work text work _ hmode hwork hjob =>
      have hpaths := hasNormalPaths_planOf h.registry h.session text work hwork
      rw [hjob]
      cases work with
      | call call task => exact hpaths
      | letter letter => exact hpaths
  | complete => trivial
  | answered _ _ hletter | cancelled _ hletter =>
      rcases hletter with hmem | hmem
      · have hletter := h.ready _ hmem
        exact hletter
      · exact h.waiting _ hmem
  | @outcome ticket aim outcome hwaiting =>
      have hpaths := h.waiting _ hwaiting
      cases aim with
      | completion number request => trivial
      | task task =>
          obtain ⟨call, hcall, hmade⟩ := hpaths
          intro folder remembered henter
          obtain ⟨hfolder, hlookup⟩ := hmade.enters folder remembered henter
          refine ⟨hfolder, ?_⟩
          rintro reply rfl
          exact hreply ticket call reply rfl hcall hlookup

/-- What is set aside has paths in normal form, once its call is in the log. -/
theorem IsSound.setsAside {here : Shell × (σ × List Call)} (h : IsSound here) {stimulus : Stimulus} {w : Waiting}
    (haside : here.1.SetsAside stimulus w) :
    w.HasNormalPaths (here.2.2 ++ (here.1.called? stimulus).toList) := by
  cases haside with
  | answers hjob => exact h.ready _ (mem_ready_of_attended? hjob)
  | @reply job call aim hjob hcall =>
      cases aim with
      | completion number request => trivial
      | task task =>
          have hcalled : here.1.called? stimulus = some call := by simp [called?, hjob, hcall]
          refine ⟨call, ?_, (hasNormalPaths_callOf? (h.ready job (mem_ready_of_attended? hjob)) hcall).2 task rfl⟩
          rw [h.calls, hcalled]
          simp

/-- **Whatever happens, all paths stay in normal form.** -/
theorem IsSound.react {here : Shell × (σ × List Call)} (h : IsSound here) (hservice : RepliesNormally service)
    {stimulus : Stimulus} (hreply : stimulus.RepliesNormally here.2.2) :
    IsSound (react (logging service) here stimulus) where
  registry := (registry_react (logging service) here stimulus).trans h.registry
  session := h.session_react service hservice stimulus
  calls := by
    rw [calls_react_eq, log_react, List.length_append, h.calls]
  log := by
    intro call hmem
    rw [log_react] at hmem
    rcases List.mem_append.mp hmem with hmem | hmem
    · exact h.log call hmem
    · exact h.called (by simpa using hmem)
  ready := by
    intro job hmem
    rcases mem_ready_react (logging service) hmem with hmem | hadds
    · exact h.ready job hmem
    · exact h.adds hreply hadds
  waiting := by
    intro w hmem
    rw [log_react]
    rcases mem_waiting_react (logging service) hmem with hmem | haside
    · exact (h.waiting w hmem).append _
    · exact h.setsAside haside

/-! ## Who changes the folders -/

/-- A line is run as one of some commands. -/
def Runs (s : Shell) (line : String) (names : List String) : Prop :=
  s.inputMode = .command ∧ ∃ i, parseLine s.registry line s.session.cwd = .ok (some i) ∧ i.command.name ∈ names

/-- **In a run, a task was left by a line of `cd` or `pushd`.** -/
def WasSent (start : Shell × (σ × List Call)) (stimuli : List Stimulus) (task : Task) : Prop :=
  ∃ before line, before ++ [.line line] <+: stimuli ∧
    (after (logging service) start before).1.Runs line ["cd", "pushd"] ∧
    ∃ call, .call call task ∈ (planOf (after (logging service) start before).1.surroundings line).work

/-- **A stimulus belongs to `cd`, `pushd` or `popd`:** it is a line of `pushd` or `popd`, or it carries on what a line of
`cd` or `pushd` has left. -/
inductive IsFolderMove (start : Shell × (σ × List Call)) (before : List Stimulus) (stimulus : Stimulus) : Prop
  | line {text : String} (hstimulus : stimulus = .line text)
      (hruns : (after (logging service) start before).1.Runs text ["pushd", "popd"])
  | outcome {job : Job} {folder : String} {remembered : Bool}
      (hjob : (after (logging service) start before).1.attended? stimulus = some job)
      (haim : job.aim? = some (.task (.enter folder remembered)))
      (hsent : WasSent service start before (.enter folder remembered))

/-- A command of the table with one of these verbs has its name. -/
theorem name_of_verb {c : Command} (hc : c ∈ Commands.registry.commands) :
    (c.verb = .cd → c.name = "cd") ∧ (c.verb = .pushd → c.name = "pushd") ∧ (c.verb = .popd → c.name = "popd") := by
  have hall : ∀ c ∈ Commands.registry.commands,
      (c.verb = .cd → c.name = "cd") ∧ (c.verb = .pushd → c.name = "pushd") ∧ (c.verb = .popd → c.name = "popd") := by
    decide +kernel
  exact hall c hc

/-- A line that leaves the way into a folder is one of `cd` or `pushd`. -/
theorem runs_of_enter_mem_work {s : Shell} (hregistry : s.registry = Commands.registry) (hmode : s.inputMode = .command)
    {line : String} {call : Call} {folder : String} {remembered : Bool}
    (h : .call call (.enter folder remembered) ∈ (planOf s.surroundings line).work) : s.Runs line ["cd", "pushd"] := by
  unfold planOf at h
  split at h
  · simp [Plan.now] at h
  · simp at h
  · next i hread =>
      have hcommand : i.command ∈ Commands.registry.commands := by
        rw [← hregistry]
        exact (bind_of_parseLine hread).1
      obtain ⟨hcd, hpushd, -⟩ := name_of_verb hcommand
      have hverb : i.command.verb ∈ (Task.enter folder remembered).verbs := Plan.isFrom_ofVerb _ _ _ _ h
      refine ⟨hmode, i, hread, ?_⟩
      cases remembered with
      | true => simp [hpushd (by simpa [Task.verbs] using hverb)]
      | false => simp [hcd (by simpa [Task.verbs] using hverb)]

theorem registry_after (here : Shell × σ) (stimuli : List Stimulus) :
    (after service here stimuli).1.registry = here.1.registry := by
  induction stimuli generalizing here with
  | nil => rfl
  | cons stimulus rest ih => exact (ih _).trans (registry_react service here stimulus)

/-- **Whatever is on the way to a folder was sent by a line of `cd` or `pushd`.** -/
theorem wasSent_of_hasAim {start : Shell × (σ × List Call)} (hregistry : start.1.registry = Commands.registry)
    (hready : start.1.ready = []) (hwaiting : start.1.waiting = []) {stimuli : List Stimulus} {folder : String}
    {remembered : Bool} (h : (after (logging service) start stimuli).1.HasAim (.task (.enter folder remembered))) :
    WasSent service start stimuli (.enter folder remembered) := by
  induction stimuli using List.reverseRecOn with
  | nil => simp [after, HasAim, hready, hwaiting] at h
  | append_singleton stimuli stimulus ih =>
      rw [after_snoc] at h
      rcases hasAim_react (logging service) h with
        h | ⟨line, call, task, rfl, hmode, hwork, haim⟩ | ⟨_, _, _, _, _, -, -, haim⟩ | haim
      · obtain ⟨before, line, hbefore, hruns, hleft⟩ := ih h
        exact ⟨before, line, hbefore.trans (List.prefix_append _ _), hruns, hleft⟩
      · obtain rfl := Aim.task.inj haim
        have htable := (registry_after (logging service) start stimuli).trans hregistry
        exact ⟨stimuli, line, List.prefix_refl _, runs_of_enter_mem_work htable hmode hwork, call, hwork⟩
      · cases haim
      · cases haim

/-- A job that concludes the way into a folder was on that way. -/
theorem aim?_of_outcomeOf? {s : Shell} {world : σ} {job : Job} {folder : String} {remembered : Bool} {outcome : Outcome}
    (h : outcomeOf? service s world job = some (.task (.enter folder remembered), outcome)) :
    job.aim? = some (.task (.enter folder remembered)) := by
  rcases outcomeOf?_cases service h with rfl | ⟨call, hcall, -⟩
  · rfl
  · rcases callOf?_cases hcall with rfl | ⟨_, _, _, _, _, -, -, -, haim⟩ | ⟨-, -, -, -, haim⟩
    · rfl
    · cases haim
    · cases haim

/-- **Folders change by a line of `pushd` or `popd`, or by a job that is on the way to a folder.** -/
theorem sameFolders_react {here : Shell × σ} (hregistry : here.1.registry = Commands.registry) (stimulus : Stimulus) :
    (react service here stimulus).1.session.SameFolders here.1.session ∨
      (∃ line, stimulus = .line line ∧ here.1.Runs line ["pushd", "popd"]) ∨
      ∃ job folder remembered, here.1.attended? stimulus = some job ∧
        job.aim? = some (.task (.enter folder remembered)) := by
  rw [session_react]
  cases stimulus with
  | line line =>
      by_cases hmode : here.1.inputMode = .command
      · simp only [sessionAfter, hmode, if_true]
        by_cases hruns : here.1.Runs line ["pushd", "popd"]
        · exact Or.inr (Or.inl ⟨line, rfl, hruns⟩)
        · refine Or.inl (Session.sameFolders_foldl_move ?_ _)
          intro e he
          unfold planOf at he
          split at he
          · obtain rfl := List.mem_singleton.mp he
            rfl
          · simp at he
          · next i hread =>
              have hcommand : i.command ∈ Commands.registry.commands := by
                rw [← hregistry]
                exact (bind_of_parseLine hread).1
              obtain ⟨-, hpushd, hpopd⟩ := name_of_verb hcommand
              refine (Effect.of_isOf (Plan.isOf_of_mem_effects _ _ _ e he)).2 ?_ ?_
              · exact fun hverb => hruns ⟨hmode, i, hread, by simp [hpushd hverb]⟩
              · exact fun hverb => hruns ⟨hmode, i, hread, by simp [hpopd hverb]⟩
      · simp only [sessionAfter, hmode, if_false]
        exact Or.inl ⟨rfl, rfl⟩
  | attend place =>
      simp only [sessionAfter]
      split
      · next job hjob =>
          unfold sessionOf
          split
          · next task outcome houtcome =>
              by_cases henter : ∃ folder remembered, task = .enter folder remembered
              · obtain ⟨folder, remembered, rfl⟩ := henter
                exact Or.inr (Or.inr ⟨job, folder, remembered, hjob, aim?_of_outcomeOf? service houtcome⟩)
              · push Not at henter
                have hwriting := Task.isWriting_conclude henter here.1.console.style outcome
                rw [foldl_move_of_isWriting hwriting]
                exact Or.inl ⟨rfl, rfl⟩
          · exact Or.inl ⟨rfl, rfl⟩
          · exact Or.inl ⟨rfl, rfl⟩
      · exact Or.inl ⟨rfl, rfl⟩
  | _ => exact Or.inl ⟨rfl, rfl⟩

/-- The home folder stays the same. -/
theorem home_react (here : Shell × σ) (stimulus : Stimulus) :
    (react service here stimulus).1.session.home = here.1.session.home := by
  rw [session_react]
  cases stimulus with
  | line line =>
      simp only [sessionAfter]
      split
      · exact Session.home_foldl_move _ _
      · rfl
  | attend place =>
      simp only [sessionAfter]
      split
      · unfold sessionOf
        split
        · exact Session.home_foldl_move _ _
        · rfl
        · rfl
      · rfl
  | _ => rfl

/-! ## Runs -/

/-- **In every state that a shell can come to, all paths are in normal form,** if the replies to look-ups are. -/
theorem IsSound.after {here : Shell × (σ × List Call)} (h : IsSound here) (hservice : RepliesNormally service)
    {stimuli : List Stimulus}
    (hreplies : ∀ before stimulus, before ++ [stimulus] <+: stimuli →
      stimulus.RepliesNormally (after (logging service) here before).2.2) :
    IsSound (after (logging service) here stimuli) := by
  induction stimuli using List.reverseRecOn with
  | nil => exact h
  | append_singleton stimuli stimulus ih =>
      rw [after_snoc]
      refine IsSound.react service (ih ?_) hservice (hreplies stimuli stimulus (List.prefix_refl _))
      exact fun before other hbefore => hreplies before other (hbefore.trans (List.prefix_append _ _))

/-- **The folders of a session, and every path that is sent.** Let the replies to look-ups name no path or one in normal
form. Then in every run of a shell with the commands of the table, whatever lines are given, completions asked for,
interruptions and replies in any order, the working folder, the home folder and all folders remembered are in normal form.
So is every path that a call sends: the paths of arguments, the working folder and the home folder in place of one that is
left out, and the paths of requests for completion. And the folders change only by what belongs to `cd`, `pushd` or
`popd`. -/
theorem folders_normal (home prompt : String) (pager : Pager) (style : Style) (world : σ) (stimuli : List Stimulus)
    (hservice : RepliesNormally service)
    (hreplies : ∀ before stimulus, before ++ [stimulus] <+: stimuli → stimulus.RepliesNormally
      (Shell.after (logging service) (new Commands.registry home prompt pager style, (world, [])) before).2.2) :
    let run := Shell.after (logging service) (new Commands.registry home prompt pager style, (world, []))
    (run stimuli).1.session.HasNormalFolders ∧
      (∀ call ∈ (run stimuli).2.2, call.SendsNormalPaths) ∧
      ∀ before stimulus, before ++ [stimulus] <+: stimuli →
        (run (before ++ [stimulus])).1.session.home = (run before).1.session.home ∧
          ((run (before ++ [stimulus])).1.session.SameFolders (run before).1.session ∨
            IsFolderMove service (new Commands.registry home prompt pager style, (world, [])) before stimulus) := by
  intro run
  have hsound := (isSound_new home prompt pager style world).after service hservice hreplies
  refine ⟨hsound.session, hsound.log, ?_⟩
  intro before stimulus _
  have hstep : run (before ++ [stimulus]) = react (logging service) (run before) stimulus := after_snoc _ _ _ _
  have hregistry : (run before).1.registry = Commands.registry := registry_after (logging service) _ before
  rw [hstep]
  refine ⟨home_react (logging service) (run before) stimulus, ?_⟩
  rcases sameFolders_react (logging service) hregistry stimulus with
    hsame | ⟨line, hline, hruns⟩ | ⟨job, folder, remembered, hjob, haim⟩
  · exact Or.inl hsame
  · exact Or.inr (.line hline hruns)
  · have hheld : (run before).1.HasAim (.task (.enter folder remembered)) :=
      Or.inl ⟨job, mem_ready_of_attended? hjob, haim⟩
    exact Or.inr (.outcome hjob haim (wasSent_of_hasAim service rfl rfl rfl hheld))

/-- A look-up that is answered late and one that is answered at once, and a listing of the folder that they lead to. -/
theorem folders_normal_docs :
    let reply := Json.ofMembers [("container", .bool true), ("path", .str "/docs")]
    let service : Service Unit := fun ticket _ world => (if ticket = 1 then some (.ok reply) else none, world)
    let run := Shell.after (logging service)
      (new Commands.registry "/" "> " (Pager.new 24 true) { zone := 0 }, ((), []))
    let stimuli := [.line "cd docs", .attend 0, .reply 0 (.ok reply), .attend 0, .line "pushd ../x", .attend 0,
      .line "ls", .attend 0]
    ((run stimuli).1.session.cwd = "/docs" ∧ (run stimuli).1.session.remembered = ["/docs"] ∧
        (run stimuli).2.2.map (·.op) = ["lookup", "lookup", "list"]) ∧
      (run stimuli).1.session.HasNormalFolders ∧ ∀ call ∈ (run stimuli).2.2, call.SendsNormalPaths := by
  intro reply service run stimuli
  have hpath : Path.IsNormal "/docs" := by
    have hsame : Path.resolve "/" "/docs" = "/docs" := by decide +kernel
    exact hsame ▸ Path.isNormal_resolve "/" "/docs"
  have hreply : reply.HasNormalPath := by
    intro value hvalue
    have hget : reply.get? "path" = some (.str "/docs") := by decide +kernel
    obtain rfl := Option.some.inj (hget.symm.trans hvalue)
    exact Or.inr (Or.inr ⟨"/docs", rfl, hpath⟩)
  have hservice : RepliesNormally service := by
    intro ticket call world other _ hanswer
    obtain ⟨-, rfl⟩ : ticket = 1 ∧ reply = other := by simpa [service] using hanswer
    exact hreply
  have hnormal := folders_normal service "/" "> " (Pager.new 24 true) { zone := 0 } () stimuli hservice (by
    intro before stimulus hbefore ticket call other hstimulus _ _
    have hmem : stimulus ∈ stimuli := hbefore.subset (by simp)
    subst hstimulus
    obtain ⟨-, rfl⟩ : ticket = 0 ∧ other = reply := by simpa [stimuli] using hmem
    exact hreply)
  exact ⟨by decide +kernel, hnormal.1, hnormal.2.1⟩

end Shell

end RemoteShell
