import Mathlib.Data.List.Induction
import RemoteShell.Proofs.Shell.Stimulus
import RemoteShell.Proofs.Terminal.Questions

/-!
# Laws about jobs

A job comes into being when a line is run or a completion is asked for. From then on it only changes its form: a letter
waits for its answers and is sent, a call waits for its outcome, and the outcome is concluded. A law about jobs says of
each form what holds of a job in that form. If each change of form keeps the law, then every job obeys it, in every state
that a shell can come to, and no other part of the shell has to be looked at.

One thing is settled here once for all such laws: a chain of questions is opened by a line that is run as a command, so
never while another one is open, and the answers that a job gets never say that the input is busy.

Main statements:

* `Shell.Obeys.follow`: answers keep a law.
* `Shell.Obeys.submit`: a line keeps a law.
* `Shell.Obeys.react`, `Shell.Obeys.after`: whatever happens to a shell keeps a law.
-/

namespace RemoteShell

/-! ## The reader -/

namespace Reader

/-- To go on either asks the next question or hands the answers over and closes the chain. -/
theorem advance_cases (r : Reader) (c : Chain) (answers : List String) :
    ((r.advance c answers).reader.isActive = true ∧ (r.advance c answers).settled = none) ∨
      ((r.advance c answers).reader.isActive = false ∧ (r.advance c answers).settled = some (c.id, .ok answers)) := by
  unfold advance
  cases c.rest with
  | nil => exact Or.inr ⟨rfl, rfl⟩
  | cons next rest => exact Or.inl ⟨rfl, rfl⟩

/-- **An answer either leaves the chain open, or closes it and hands all answers over.** -/
theorem answer_cases {r : Reader} {c : Chain} (h : r.chain = some c) (line : String) :
    ((r.answer line).reader.isActive = true ∧ (r.answer line).settled = none) ∨
      ((r.answer line).reader.isActive = false ∧ ∃ texts, (r.answer line).settled = some (c.id, .ok texts)) := by
  rcases answer_advance_or_body h line with ⟨answer, hstep, -⟩ | ⟨hstep, -⟩
  · rw [hstep]
    rcases advance_cases r c (c.answers ++ [answer]) with hopen | ⟨hclosed, hsettled⟩
    · exact Or.inl hopen
    · exact Or.inr ⟨hclosed, _, hsettled⟩
  · -- A line of a body is kept, and the chain waits for the next one.
    rw [hstep]
    exact Or.inl ⟨rfl, rfl⟩

end Reader

/-! ## Laws -/

/-- **A law about jobs,** those that can go on and those that wait: it holds of what comes into being, and each change of
form keeps it. -/
structure JobLaw (P : Job → Prop) (Q : Waiting → Prop) : Prop where
  /-- A call that a command has left. -/
  call {around : Surroundings} {args : Arguments} {verb : Verb} {call : Call} {task : Task} :
    .call call task ∈ (Plan.ofVerb around args verb).work → P (.call call (.task task))
  /-- A letter that a command has begun. -/
  letter {around : Surroundings} {args : Arguments} {verb : Verb} {letter : Letter} :
    .letter letter ∈ (Plan.ofVerb around args verb).work → ∀ chain, P (.compose chain letter)
  /-- A completion. -/
  complete (number : Nat) (line : String) (pos : Nat) (cwd : String) : P (.complete number line pos cwd)
  /-- A letter in the queue gets its answers. -/
  answered {chain : Nat} {letter : Letter} {answers : Answers} :
    P (.compose chain letter) → answers ≠ .error .busy → P (.send letter answers)
  /-- A letter waits for its answers. -/
  composed {chain : Nat} {letter : Letter} : P (.compose chain letter) → Q (.answers chain letter)
  /-- A letter that waits gets its answers. -/
  woken {chain : Nat} {letter : Letter} {answers : Answers} :
    Q (.answers chain letter) → answers ≠ .error .busy → P (.send letter answers)
  /-- The call of a letter waits for its outcome. -/
  sent {letter : Letter} {texts : List String} {call : Call} :
    P (.send letter (.ok texts)) → letter.call? texts = some call →
      ∀ ticket, Q (.reply ticket (.task (.confirm "Message sent.")))
  /-- A call waits for its outcome. -/
  called {call : Call} {aim : Aim} : P (.call call aim) → ∀ ticket, Q (.reply ticket aim)
  /-- The call of a completion waits for its outcome. -/
  completed (ticket number request : Nat) : Q (.reply ticket (.completion number request))
  /-- An outcome comes. -/
  delivered {ticket : Nat} {aim : Aim} : Q (.reply ticket aim) → ∀ outcome, P (.conclude aim outcome)

/-- **All jobs of a shell obey a law.** -/
structure Shell.Obeys (P : Job → Prop) (Q : Waiting → Prop) (s : Shell) : Prop where
  ready : ∀ job ∈ s.ready, P job
  waiting : ∀ w ∈ s.waiting, Q w

/-- What a line leaves is what a command leaves. -/
theorem exists_ofVerb_of_planOf {around : Surroundings} {line : String} {work : Work}
    (h : work ∈ (planOf around line).work) : ∃ around args verb, work ∈ (Plan.ofVerb around args verb).work := by
  unfold planOf at h
  split at h
  · simp [Plan.now] at h
  · simp at h
  · exact ⟨_, _, _, h⟩

namespace Shell

variable {P : Job → Prop} {Q : Waiting → Prop} {s t : Shell}

theorem obeys_new (registry : Registry) (home prompt : String) (pager : Pager) (style : Style) :
    (new registry home prompt pager style).Obeys P Q := by
  constructor <;> simp [new]

/-- Only the jobs of a shell matter. -/
theorem Obeys.of_eq (h : s.Obeys P Q) (hready : t.ready = s.ready) (hwaiting : t.waiting = s.waiting) :
    t.Obeys P Q where
  ready := hready ▸ h.ready
  waiting := hwaiting ▸ h.waiting

theorem Obeys.enqueue (h : s.Obeys P Q) {job : Job} (hjob : P job) : (s.enqueue job).Obeys P Q where
  ready other hmem := by
    rcases List.mem_append.mp hmem with hmem | hmem
    · exact h.ready other hmem
    · rwa [List.mem_singleton.mp hmem]
  waiting := h.waiting

theorem Obeys.wait (h : s.Obeys P Q) {job : Waiting} (hjob : Q job) :
    ({ s with waiting := s.waiting ++ [job] } : Shell).Obeys P Q where
  ready := h.ready
  waiting other hmem := by
    rcases List.mem_append.mp hmem with hmem | hmem
    · exact h.waiting other hmem
    · rwa [List.mem_singleton.mp hmem]

/-! ## Answers -/

/-- **Answers that do not say that the input is busy keep a law.** -/
theorem Obeys.follow (law : JobLaw P Q) (h : s.Obeys P Q) {step : Console × Option (Nat × Answers)}
    (hstep : ∀ id, step.2 ≠ some (id, .error .busy)) : (s.follow step).Obeys P Q := by
  unfold Shell.follow
  dsimp only
  cases hsettled : step.2 with
  | none => exact h.of_eq rfl rfl
  | some settled =>
      obtain ⟨id, answers⟩ := settled
      have hanswers : answers ≠ .error .busy := by
        rintro rfl
        exact hstep id hsettled
      constructor
      · intro job hmem
        rcases List.mem_append.mp hmem with hmem | hmem
        · obtain ⟨old, hold, rfl⟩ := List.mem_map.mp hmem
          have hlaw := h.ready old hold
          cases old with
          | compose chain letter =>
              simp only [Job.answered]
              split
              · exact law.answered hlaw hanswers
              · exact hlaw
          | _ => exact hlaw
        · obtain ⟨letter, hletter, rfl⟩ := List.mem_map.mp hmem
          obtain ⟨w, hw, hwoken⟩ := List.mem_filterMap.mp hletter
          cases w with
          | reply ticket aim => simp [Waiting.letter?] at hwoken
          | answers chain other =>
              obtain ⟨-, rfl⟩ : chain = id ∧ other = letter := by simpa [Waiting.letter?] using hwoken
              exact law.woken (h.waiting _ hw) hanswers
      · exact fun w hmem => h.waiting w (List.mem_filter.mp hmem).1

/-- What a command leaves is begun while no chain is open. -/
theorem Obeys.undertake (law : JobLaw P Q) (h : s.Obeys P Q) (hchain : s.console.reader.chain = none) {around : Surroundings}
    {args : Arguments} {verb : Verb} {work : Work} (hwork : work ∈ (Plan.ofVerb around args verb).work) :
    (s.undertake work).Obeys P Q := by
  cases work with
  | call call task => exact h.enqueue (law.call hwork)
  | letter letter =>
      refine (h.enqueue (law.letter hwork _)).follow law ?_
      intro id
      simp [Console.read, Console.follow, Reader.start, hchain, Letter.questions]

/-- **A line keeps a law.** -/
theorem Obeys.submit (law : JobLaw P Q) (h : s.Obeys P Q) (line : String) : (s.submit line).Obeys P Q := by
  unfold Shell.submit
  split
  · exact h.of_eq rfl rfl
  · split
    · next hasking =>
        obtain ⟨chain, hchain⟩ := Option.isSome_iff_exists.mp hasking
        refine h.follow law ?_
        intro id
        rcases Reader.answer_cases hchain line with ⟨-, hsettled⟩ | ⟨-, texts, hsettled⟩
        · simp [Console.answer, Console.follow, hsettled]
        · simp [Console.answer, Console.follow, hsettled]
    · next hasking =>
        have hchain : s.console.reader.chain = none := by simpa [isAsking, Reader.isActive] using hasking
        rw [runCommand_eq, carryOut]
        -- The effects of a command come before its work, and have no part in jobs or in the reader.
        have heffects := h.of_eq (performAll_ready s (planOf s.surroundings line).effects) (performAll_waiting s _)
        split
        · next work hwork =>
            obtain ⟨around, args, verb, hleft⟩ := exists_ofVerb_of_planOf hwork
            refine heffects.undertake law ?_ hleft
            rw [performAll_eq, Console.reader_foldl_perform]
            exact hchain
        · exact heffects

theorem Obeys.interrupt (law : JobLaw P Q) (h : s.Obeys P Q) : s.interrupt.Obeys P Q := by
  have hreset : ({ s with completer := s.completer.reset } : Shell).Obeys P Q := h.of_eq rfl rfl
  refine hreset.follow law ?_
  intro id
  unfold Console.interrupt
  split
  · simp
  · cases hchain : s.console.reader.chain with
    | none => simp [Console.follow, Reader.cancel, hchain]
    | some chain => simp [Console.follow, Reader.cancel, hchain]

/-! ## Outcomes -/

/-- An outcome has no part in other jobs. -/
theorem Obeys.conclude (h : s.Obeys P Q) (aim : Aim) (outcome : Outcome) : (s.conclude aim outcome).Obeys P Q := by
  refine h.of_eq (conclude_ready s aim outcome) ?_
  cases aim with
  | task task => exact performAll_waiting s _
  | completion number request => rfl

/-- An outcome is for the job that has waited for it. -/
theorem Obeys.deliver (law : JobLaw P Q) (h : s.Obeys P Q) (ticket : Nat) (outcome : Outcome) :
    (s.deliver ticket outcome).Obeys P Q := by
  constructor
  · intro job hmem
    rcases List.mem_append.mp hmem with hmem | hmem
    · exact h.ready job hmem
    · obtain ⟨aim, haim, rfl⟩ := List.mem_map.mp hmem
      obtain ⟨w, hw, hwoken⟩ := List.mem_filterMap.mp haim
      cases w with
      | answers chain letter => simp [Waiting.aim?] at hwoken
      | reply number other =>
          obtain ⟨-, rfl⟩ : number = ticket ∧ other = aim := by simpa [Waiting.aim?] using hwoken
          exact law.delivered (h.waiting _ hw) outcome
  · exact fun w hmem => h.waiting w (List.mem_filter.mp hmem).1

/-! ## Runs -/

variable {σ : Type} (service : Service σ)

theorem Obeys.place (h : s.Obeys P Q) (world : σ) (call : Call) {aim : Aim} (haim : ∀ ticket, Q (.reply ticket aim)) :
    (place service s world call aim).shell.Obeys P Q := by
  have hcounted : ({ s with calls := s.calls + 1 } : Shell).Obeys P Q := h.of_eq rfl rfl
  unfold Shell.place
  dsimp only
  split
  · exact hcounted.conclude aim _
  · exact hcounted.wait (haim s.calls)

/-- A job that is carried on changes its form. -/
theorem Obeys.attend (law : JobLaw P Q) (h : s.Obeys P Q) (world : σ) {job : Job} (hjob : P job) :
    (attend service s world job).shell.Obeys P Q := by
  cases job with
  | call call aim => exact h.place service world call (law.called hjob)
  | complete number line pos cwd =>
      simp only [Shell.attend, startCompletion]
      split
      · exact h.of_eq rfl rfl
      · next completer request _ =>
          have hstarted : ({ s with completer } : Shell).Obeys P Q := h.of_eq rfl rfl
          exact hstarted.place service world request.call fun ticket => law.completed ticket number request.id
  | compose chain letter => exact h.wait (law.composed hjob)
  | send letter answers =>
      simp only [Shell.attend, sendLetter]
      split
      · exact h
      · exact h.of_eq rfl rfl
      · split
        · next call hcall => exact h.place service world call (law.sent hjob hcall)
        · exact h
  | conclude aim outcome => exact h.conclude aim outcome

/-- **Whatever happens to a shell keeps a law.** -/
theorem Obeys.react (law : JobLaw P Q) {here : Shell × σ} (h : here.1.Obeys P Q) (stimulus : Stimulus) :
    (react service here stimulus).1.Obeys P Q := by
  cases stimulus with
  | line text => exact h.submit law text
  | interrupt => exact h.interrupt law
  | complete text pos =>
      simp only [Shell.react, Shell.complete]
      have hcounted : ({ here.1 with completions := here.1.completions + 1 } : Shell).Obeys P Q := h.of_eq rfl rfl
      split
      · exact hcounted.of_eq rfl rfl
      · exact hcounted.enqueue (law.complete _ text pos _)
  | attend place =>
      simp only [Shell.react]
      split
      · next job hjob =>
          have hrest : ({ here.1 with ready := here.1.ready.eraseIdx place } : Shell).Obeys P Q :=
            ⟨fun other hmem => h.ready other (List.mem_of_mem_eraseIdx hmem), h.waiting⟩
          exact hrest.attend service law here.2 (h.ready job (List.mem_of_getElem? hjob))
      · exact h
  | reply ticket outcome => exact h.deliver law ticket outcome
  | print | handOver | setPaging => exact h.of_eq rfl rfl

/-- **In every state that a shell can come to, its jobs obey the law.** -/
theorem Obeys.after (law : JobLaw P Q) {here : Shell × σ} (h : here.1.Obeys P Q) (stimuli : List Stimulus) :
    (after service here stimuli).1.Obeys P Q := by
  induction stimuli using List.reverseRecOn with
  | nil => exact h
  | append_singleton stimuli stimulus ih =>
      rw [after_snoc]
      exact ih.react service law stimulus

end Shell

end RemoteShell
