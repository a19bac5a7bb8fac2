import RemoteShell.Proofs.Completion.Staleness
import RemoteShell.Proofs.Shell.Succession

/-!
# Completions and interruptions

A completion that has been asked for goes through three forms: its job is in the queue, its request is under way, or the
reply has come and is still to be taken. An interruption resets the completer. In the last two forms that cancels the
completion: the request is no longer held, later requests have other numbers, and so the answer is that there is nothing
to offer, whatever comes after and in whatever order. In the first form there is nothing yet to be reset. The job begins
after the interruption and offers what it would have offered without it.

Main statements:

* `Completer.precedes_move`: a request that a completer comes to hold has a new number.
* `Shell.hasAim_completion_react`: a request under way was so before, or its completion has just been begun.
* `Shell.GivesUp.after`: a completion that is given up stays so.
* `Shell.isCancelled_iff`: an interruption cancels all completions but those whose job is still in the queue.
* `Shell.not_isCancelled_queued`: a completion in the queue that is answered after an interruption.
-/

namespace RemoteShell

/-! ## Numbers of requests -/

namespace Completer

/-- **What a completer can become.** Numbers go on, and a request that it comes to hold has a new one. -/
structure Precedes (c d : Completer) : Prop where
  nextId_le : c.nextId ≤ d.nextId
  pending : ∀ p, d.pending = some p → c.pending = some p ∨ c.nextId ≤ p.id

theorem Precedes.refl (c : Completer) : c.Precedes c where
  nextId_le := Nat.le_refl _
  pending _ hp := Or.inl hp

theorem Precedes.trans {c d e : Completer} (hcd : c.Precedes d) (hde : d.Precedes e) : c.Precedes e where
  nextId_le := Nat.le_trans hcd.nextId_le hde.nextId_le
  pending p hp := by
    rcases hde.pending p hp with hp | hle
    · exact hcd.pending p hp
    · exact Or.inr (Nat.le_trans hcd.nextId_le hle)

/-- **A request that a completer comes to hold has a new number.** -/
theorem precedes_move (c : Completer) (m : CompletionMove) : c.Precedes (c.move m) := by
  cases hrequest : c.request? m with
  | none =>
      obtain ⟨hnext, hpending⟩ := move_of_no_request hrequest
      refine ⟨Nat.le_of_eq hnext.symm, ?_⟩
      intro p hp
      rw [hpending] at hp
      exact Or.inl (Option.filter_eq_some_iff.mp hp).1
  | some request =>
      obtain ⟨_, _, _, _, held, -, hfor, hid, hnext, hpending⟩ := move_of_request hrequest
      refine ⟨by omega, ?_⟩
      intro p hp
      obtain rfl : held = p := Option.some.inj (hpending.symm.trans hp)
      exact Or.inr (Nat.le_of_eq (hfor.id.trans hid).symm)

/-- A completion that asks the service takes the next number. -/
theorem start_ask {c : Completer} {registry : Registry} {line : String} {pos : Nat} {cwd : String}
    {request : MatchRequest} (h : (c.start registry line pos cwd).2 = .ask request) :
    request.id = c.nextId ∧ (c.start registry line pos cwd).1.nextId = c.nextId + 1 ∧
      ∃ p, (c.start registry line pos cwd).1.pending = some p ∧ p.id = request.id := by
  have hrequest : c.request? (.start registry line pos cwd) = some request := by simp [request?, h]
  obtain ⟨_, _, _, _, p, -, hfor, hid, hnext, hpending⟩ := move_of_request hrequest
  exact ⟨hid, hnext, p, hpending, hfor.id⟩

end Completer

namespace Shell

variable {σ : Type} (service : Service σ)

/-! ## What becomes of the completer -/

theorem precedes_begun (s : Shell) (job : Job) : s.completer.Precedes (s.begun job).completer := by
  cases job with
  | complete number line pos cwd => exact Completer.precedes_move s.completer (.start s.registry line pos cwd)
  | _ => exact .refl _

theorem precedes_begun_completerOf (s : Shell) (world : σ) (job : Job) :
    (s.begun job).completer.Precedes (completerOf service s world job) := by
  unfold completerOf
  split
  · next request outcome _ => exact Completer.precedes_move _ (.reply request outcome)
  · exact .refl _
  · exact .refl _

/-- **Completions go on being counted, and so do requests.** -/
theorem react_goes_on (here : Shell × σ) (stimulus : Stimulus) :
    here.1.completions ≤ (react service here stimulus).1.completions ∧
      here.1.completer.Precedes (react service here stimulus).1.completer := by
  obtain ⟨s, world⟩ := here
  cases stimulus with
  | line text =>
      obtain ⟨console, session, ready, waiting, hsubmit⟩ := s.submit_frame text
      rw [react, hsubmit]
      exact ⟨Nat.le_refl _, .refl _⟩
  | interrupt =>
      obtain ⟨console, ready, waiting, hinterrupt⟩ := s.interrupt_frame
      rw [react, hinterrupt]
      exact ⟨Nat.le_refl _, Completer.precedes_move s.completer .reset⟩
  | complete text pos =>
      rw [react, complete_inputMode]
      split
      · exact ⟨Nat.le_succ _, .refl _⟩
      · exact ⟨Nat.le_succ _, .refl _⟩
  | attend place =>
      cases hjob : s.ready[place]? with
      | none =>
          rw [react_attend_none service hjob]
          exact ⟨Nat.le_refl _, .refl _⟩
      | some job =>
          obtain ⟨console, -, hshell, -⟩ := react_attend service hjob world
          rw [hshell]
          exact ⟨Nat.le_refl _, (s.precedes_begun job).trans (precedes_begun_completerOf service s world job)⟩
  | reply | print | handOver | setPaging => exact ⟨Nat.le_refl _, .refl _⟩

/-! ## Requests under way -/

/-- A completion that asks the service has something to offer, and leaves the number of its request behind. -/
theorem nextId_of_attended {here : Shell × σ} {stimulus : Stimulus} {number : Nat} {line : String} {pos : Nat}
    {cwd : String} (hjob : here.1.attended? stimulus = some (.complete number line pos cwd)) {made : MatchRequest}
    (hask : (here.1.completer.start here.1.registry line pos cwd).2 = .ask made) :
    Offer.of here.1.registry (CursorView.of line pos) cwd ≠ .done .nothing ∧
      made.id < (react service here stimulus).1.completer.nextId := by
  obtain ⟨s, world⟩ := here
  obtain ⟨hid, hnext, -⟩ := Completer.start_ask hask
  refine ⟨?_, ?_⟩
  · intro hnothing
    simp [Completer.start, hnothing] at hask
  · cases stimulus with
    | attend place =>
        obtain ⟨console, -, hshell, -⟩ := react_attend service hjob world
        have hbegun : made.id < (s.begun (.complete number line pos cwd)).completer.nextId :=
          Nat.lt_of_lt_of_eq (Nat.lt_succ_of_le (Nat.le_of_eq hid)) hnext.symm
        rw [hshell]
        exact Nat.lt_of_lt_of_le hbegun (precedes_begun_completerOf service s world _).nextId_le
    | _ => simp [attended?] at hjob

/-- **A request under way was so before, or its completion has just been begun** and the request has a new number. -/
theorem hasAim_completion_react {here : Shell × σ} {stimulus : Stimulus} {number request : Nat}
    (h : (react service here stimulus).1.HasAim (.completion number request)) :
    here.1.HasAim (.completion number request) ∨
      ∃ line pos cwd, here.1.attended? stimulus = some (.complete number line pos cwd) ∧
        Offer.of here.1.registry (CursorView.of line pos) cwd ≠ .done .nothing ∧
        request < (react service here stimulus).1.completer.nextId := by
  rcases hasAim_react service h with
    h | ⟨_, _, _, -, -, -, haim⟩ | ⟨other, line, pos, cwd, made, hjob, hask, haim⟩ | haim
  · exact Or.inl h
  · cases haim
  · obtain ⟨rfl, rfl⟩ := Aim.completion.inj haim
    obtain ⟨hoffer, hlt⟩ := nextId_of_attended service hjob hask
    exact Or.inr ⟨line, pos, cwd, hjob, hoffer, hlt⟩
  · cases haim

/-- **An answer that is not nothing** is offered by a completion when it is begun, or is that to a request under way. -/
theorem brings_cases {here : Shell × σ} {stimulus : Stimulus} {number : Nat} {answer : Completion}
    (h : Brings service here stimulus number answer) :
    answer = .nothing ∨
      (∃ line pos cwd, here.1.attended? stimulus = some (.complete number line pos cwd) ∧
        Offer.of here.1.registry (CursorView.of line pos) cwd ≠ .done .nothing) ∨
      ∃ request outcome, here.1.HasAim (.completion number request) ∧
        answer = (here.1.completer.resolve request outcome).2 := by
  cases h with
  | refused => exact Or.inl rfl
  | @ended job _ _ hjob hanswer =>
      have hmem := mem_ready_of_attended? hjob
      rcases answerOf?_cases service hanswer with ⟨request, outcome, houtcome, rfl⟩ | ⟨line, pos, cwd, rfl, hdone⟩
      · rcases outcomeOf?_cases service houtcome with rfl | ⟨call, hcall, -⟩
        · exact Or.inr (Or.inr ⟨request, outcome, Or.inl ⟨_, hmem, rfl⟩, rfl⟩)
        · rcases callOf?_cases hcall with rfl | ⟨other, line, pos, cwd, made, rfl, hask, -, haim⟩ | ⟨-, -, -, -, haim⟩
          · exact Or.inr (Or.inr ⟨request, outcome, Or.inl ⟨_, hmem, rfl⟩, rfl⟩)
          · obtain ⟨rfl, -⟩ := Aim.completion.inj haim
            exact Or.inr (Or.inl ⟨line, pos, cwd, hjob, (nextId_of_attended service hjob hask).1⟩)
          · cases haim
      · by_cases hnothing : answer = .nothing
        · exact Or.inl hnothing
        · refine Or.inr (Or.inl ⟨line, pos, cwd, hjob, ?_⟩)
          intro hoffer
          rw [Completer.start, hoffer] at hdone
          exact hnothing (CompletionStep.done.inj hdone).symm

/-! ## Completions that are given up -/

/-- Every request under way has a number that has been taken. -/
def HasAsked (s : Shell) : Prop :=
  ∀ number request, s.HasAim (.completion number request) → request < s.completer.nextId

theorem hasAsked_new (registry : Registry) (home prompt : String) (pager : Pager) (style : Style) :
    (new registry home prompt pager style).HasAsked := by
  intro number request haim
  simp [HasAim, new] at haim

theorem HasAsked.react {here : Shell × σ} (h : here.1.HasAsked) (stimulus : Stimulus) :
    (react service here stimulus).1.HasAsked := by
  intro number request haim
  obtain ⟨-, hprecedes⟩ := react_goes_on service here stimulus
  rcases hasAim_completion_react service haim with haim | ⟨-, -, -, -, -, hlt⟩
  · exact Nat.lt_of_lt_of_le (h number request haim) hprecedes.nextId_le
  · exact hlt

theorem HasAsked.after {here : Shell × σ} (h : here.1.HasAsked) (stimuli : List Stimulus) :
    (after service here stimuli).1.HasAsked := by
  induction stimuli generalizing here with
  | nil => exact h
  | cons stimulus rest ih => exact ih (h.react service stimulus)

/-- **A completion is given up,** for which only requests before `bound` are under way: the completer holds no such
request and never will, and no job in the queue has anything else to offer for it. -/
structure GivesUp (s : Shell) (number bound : Nat) : Prop where
  known : number < s.completions
  bound_le : bound ≤ s.completer.nextId
  pending : ∀ p, s.completer.pending = some p → bound ≤ p.id
  carried : ∀ request, s.HasAim (.completion number request) → request < bound
  queued : ∀ line pos cwd, .complete number line pos cwd ∈ s.ready →
    Offer.of s.registry (CursorView.of line pos) cwd = .done .nothing
  answered : ∀ answer, (number, answer) ∈ s.completed → answer = .nothing

/-- **Whatever happens, a completion that is given up stays so.** -/
theorem GivesUp.react {here : Shell × σ} {number bound : Nat} (h : here.1.GivesUp number bound) (stimulus : Stimulus) :
    (react service here stimulus).1.GivesUp number bound := by
  obtain ⟨hcompletions, hprecedes⟩ := react_goes_on service here stimulus
  -- A completion in the queue that is carried on has nothing to offer.
  have hidle : ∀ line pos cwd, here.1.attended? stimulus = some (.complete number line pos cwd) →
      Offer.of here.1.registry (CursorView.of line pos) cwd = .done .nothing :=
    fun line pos cwd hjob => h.queued line pos cwd (mem_ready_of_attended? hjob)
  refine ⟨Nat.lt_of_lt_of_le h.known hcompletions, Nat.le_trans h.bound_le hprecedes.nextId_le, ?_, ?_, ?_, ?_⟩
  · intro p hp
    rcases hprecedes.pending p hp with hp | hle
    · exact h.pending p hp
    · exact Nat.le_trans h.bound_le hle
  · intro request haim
    rcases hasAim_completion_react service haim with haim | ⟨line, pos, cwd, hjob, hoffer, -⟩
    · exact h.carried request haim
    · exact absurd (hidle line pos cwd hjob) hoffer
  · intro line pos cwd hmem
    rw [registry_react]
    rcases mem_ready_react service hmem with hmem | hadds
    · exact h.queued line pos cwd hmem
    · cases hadds with
      | @work text work _ hmode hwork hjob => cases work <;> simp [Work.job] at hjob
      | complete hmode => exact absurd h.known (Nat.lt_irrefl _)
  · intro answer hmem
    rcases mem_completed_react service hmem with hmem | hbrings
    · exact h.answered answer hmem
    · rcases brings_cases service hbrings with rfl | ⟨line, pos, cwd, hjob, hoffer⟩ | ⟨request, outcome, haim, rfl⟩
      · rfl
      · exact absurd (hidle line pos cwd hjob) hoffer
      · have hother : ∀ p, here.1.completer.pending = some p → p.id ≠ request := by
          intro p hp
          exact Nat.ne_of_gt (Nat.lt_of_lt_of_le (h.carried request haim) (h.pending p hp))
        rw [Completer.resolve_stale hother]

theorem GivesUp.after {here : Shell × σ} {number bound : Nat} (h : here.1.GivesUp number bound)
    (stimuli : List Stimulus) : (after service here stimuli).1.GivesUp number bound := by
  induction stimuli generalizing here with
  | nil => exact h
  | cons stimulus rest ih => exact ih (h.react service stimulus)

/-! ## Interruptions -/

/-- **An interruption cancels a completion** that has been asked for and is not answered: once the answers there are have
been handed over, whatever comes after, with any service and in any order, it is only ever answered that there is
nothing to offer. -/
def IsCancelled (s : Shell) (number : Nat) : Prop :=
  number < s.completions → ∀ (σ : Type) (service : Service σ) (world : σ) (later : List Stimulus) (answer : Completion),
    (number, answer) ∈ (after service (s, world) (.interrupt :: .handOver :: later)).1.completed → answer = .nothing

/-- A completion whose request is under way, or that has nothing to offer, is given up upon an interruption. -/
theorem HasAsked.givesUp {s : Shell} (h : s.HasAsked) {number : Nat} (hknown : number < s.completions)
    (hqueued : ∀ line pos cwd, .complete number line pos cwd ∈ s.ready →
      Offer.of s.registry (CursorView.of line pos) cwd = .done .nothing) (world : σ) :
    (Shell.after service (s, world) [.interrupt, .handOver]).1.GivesUp number s.completer.nextId := by
  obtain ⟨console, ready, waiting, hinterrupt⟩ := s.interrupt_frame
  have hsame : (Shell.react service (s, world) .interrupt).1 =
      { s with completer := s.completer.reset, console, ready, waiting } := hinterrupt
  have hafter : (Shell.after service (s, world) [.interrupt, .handOver]).1 =
      { s with completer := s.completer.reset, console, ready, waiting, completed := [] } := by
    have hhanded : (Shell.after service (s, world) [.interrupt, .handOver]).1 =
        { (Shell.react service (s, world) .interrupt).1 with completed := [] } := rfl
    rw [hhanded, hsame]
  rw [hafter]
  refine ⟨hknown, Nat.le_refl _, by simp [Completer.reset], ?_, ?_, by simp⟩
  · intro request haim
    have hheld : (Shell.react service (s, world) .interrupt).1.HasAim (.completion number request) := by
      rw [hsame]
      exact haim
    rcases hasAim_completion_react service hheld with haim | ⟨line, pos, cwd, hjob, -⟩
    · exact h number request haim
    · simp [attended?] at hjob
  · intro line pos cwd hmem
    have hready : .complete number line pos cwd ∈ (Shell.react service (s, world) .interrupt).1.ready := by
      rw [hsame]
      exact hmem
    rcases mem_ready_react service hready with hold | hadds
    · exact hqueued line pos cwd hold
    · cases hadds

/-- A completion in the queue stays there upon an interruption. -/
theorem complete_mem_ready_interrupt {s : Shell} {number : Nat} {line : String} {pos : Nat} {cwd : String}
    (h : .complete number line pos cwd ∈ s.ready) : .complete number line pos cwd ∈ s.interrupt.ready := by
  rw [interrupt_inputMode]
  split
  · exact h
  · exact List.mem_append_left _ (List.mem_map.mpr ⟨_, h, rfl⟩)
  · exact h

/-- A completion that is begun, with a service that replies at once. -/
theorem answerOf?_complete (s : Shell) (number : Nat) (line : String) (pos : Nat) (cwd : String) (reply : Json) :
    ∃ answer, answerOf? (fun _ _ world => (some (.ok reply), world)) s () (.complete number line pos cwd) =
        some (number, answer) ∧
      ((Offer.of s.registry (CursorView.of line pos) cwd = .done answer) ∨
        ∃ p : PendingMatch, answer = p.answer (.ok reply)) := by
  cases hoffer : Offer.of s.registry (CursorView.of line pos) cwd with
  | done answer =>
      refine ⟨answer, ?_, Or.inl rfl⟩
      simp [answerOf?, outcomeOf?, callOf?, Completer.start, hoffer]
  | ask typed path container =>
      let p : PendingMatch := { id := s.completer.nextId, typed, start := (CursorView.of line pos).start }
      refine ⟨p.answer (.ok reply), ?_, Or.inr ⟨p, rfl⟩⟩
      simp [answerOf?, outcomeOf?, callOf?, begun, Completer.start, Completer.resolve, hoffer, p]

/-- A completion in the queue is begun after the interruption, and its answer comes at once if the service's does. -/
theorem answer_of_queued {s : Shell} {number : Nat} {line : String} {pos : Nat} {cwd : String}
    (h : .complete number line pos cwd ∈ s.ready) (reply : Json) :
    ∃ place answer, (number, answer) ∈ (after (fun _ _ world => (some (.ok reply), world)) (s, ())
        [.interrupt, .handOver, .attend place]).1.completed ∧
      ((Offer.of s.registry (CursorView.of line pos) cwd = .done answer) ∨
        ∃ p : PendingMatch, answer = p.answer (.ok reply)) := by
  obtain ⟨place, hplace⟩ := List.getElem?_of_mem (complete_mem_ready_interrupt h)
  have hjob : s.interrupt.takeCompleted.1.ready[place]? = some (.complete number line pos cwd) := hplace
  obtain ⟨answer, hanswer, hoffer⟩ := answerOf?_complete s.interrupt.takeCompleted.1 number line pos cwd reply
  obtain ⟨console, -, hshell, -⟩ := react_attend (fun _ _ world => (some (.ok reply), world)) hjob ()
  obtain ⟨_, ready, waiting, hinterrupt⟩ := s.interrupt_frame
  have hregistry : s.interrupt.takeCompleted.1.registry = s.registry := by
    simp only [takeCompleted, hinterrupt]
  rw [hregistry] at hoffer
  refine ⟨place, answer, ?_, hoffer⟩
  have hafter : after (fun _ _ world => (some (.ok reply), world)) (s, ()) [.interrupt, .handOver, .attend place] =
      react (fun _ _ world => (some (.ok reply), world)) (s.interrupt.takeCompleted.1, ()) (.attend place) := rfl
  rw [hafter, hshell, hanswer]
  simp

/-- **Which completions an interruption cancels,** in every state that a shell can come to: exactly those that are not in
the queue any more, or have nothing to offer anyway. -/
theorem isCancelled_iff {σ : Type} (service : Service σ) (registry : Registry) (home prompt : String) (pager : Pager)
    (style : Style) (world : σ) (stimuli : List Stimulus) (number : Nat) :
    let here := (after service (new registry home prompt pager style, world) stimuli).1
    here.IsCancelled number ↔
      (number < here.completions → ∀ line pos cwd, .complete number line pos cwd ∈ here.ready →
        Offer.of here.registry (CursorView.of line pos) cwd = .done .nothing) := by
  intro here
  have hasked : here.HasAsked := HasAsked.after service (hasAsked_new registry home prompt pager style) stimuli
  constructor
  · intro hcancelled hknown line pos cwd hqueued
    -- The service that shows the difference answers at once, with a name that matches.
    obtain ⟨place, answer, hmem, hoffer⟩ :=
      answer_of_queued hqueued (Json.ofMembers [("status", .int 1), ("matches", .arr [.str ""])])
    have hnothing : answer = .nothing := hcancelled hknown _ _ () [.attend place] answer hmem
    rcases hoffer with hoffer | ⟨p, rfl⟩
    · rw [hoffer, hnothing]
    · have hmatches : PendingMatch.matchesOf
          (Json.ofMembers [("status", .int 1), ("matches", .arr [.str ""])]) = [""] := by decide +kernel
      simp [PendingMatch.answer, hmatches, Completion.ofItems] at hnothing
  · intro hqueued hknown τ other start later answer hmem
    have hgives := (hasked.givesUp other hknown (hqueued hknown) start).after other later
    exact hgives.answered answer hmem

/-- **An interruption does not cancel a completion that is still in the queue.** -/
theorem not_isCancelled_queued :
    ¬ ((new Commands.registry "/" "fsterm> " (Pager.new 24 true) { zone := 0 }).complete "ls " 3).IsCancelled 0 := by
  intro hcancelled
  have hanswer := hcancelled (by decide) Unit (fun _ _ world => (none, world)) () [.attend 0] (.insert "(file path) ")
    (by decide +kernel)
  cases hanswer

end Shell

end RemoteShell
