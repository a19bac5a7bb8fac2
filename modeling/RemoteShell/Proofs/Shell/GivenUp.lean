import RemoteShell.Proofs.Shell.Succession

/-!
# Letters that have been given up

A letter whose questions were given up still has its job in the queue. No answers reach that job any more, and to carry
it on does nothing. What a stimulus does depends on the queue only as far as it carries a job of the queue on. So it makes
no difference whether the job is there: the shell with the job and the shell without it go through the same, if the places
in the queue are counted accordingly, and the service is asked the same.

Main statements:

* `Shell.attend_withReady`, `Shell.passesOn_react`: what is done does not depend on the rest of the queue.
* `Shell.Spares.react`, `Shell.Spares.after`: a shell is the same without the job of a letter that has been given up.
-/

namespace RemoteShell

/-- Whether a stimulus comes from outside, and does not carry a job on. -/
def Stimulus.isOutside : Stimulus → Bool
  | .attend _ => false
  | _ => true

namespace Shell

/-- A shell with another queue. -/
def withReady (s : Shell) (ready : List Job) : Shell :=
  { s with ready }

/-- **A queue is passed on:** `next` is what becomes of a shell with a queue. Each job is kept, with answers if it has got
some, and some jobs are added; nothing else depends on the queue. A job that is to send a letter has its answers
already. -/
def PassesOn (next : List Job → Shell) : Prop :=
  ∃ (t : Shell) (answered : Job → Job) (more : List Job),
    (∀ letter answers, answered (.send letter answers) = .send letter answers) ∧
    ∀ ready, next ready = t.withReady (ready.map answered ++ more)

/-- **A shell, and the shell without one job** that is to send a letter which has been given up; or a shell and itself, once
there is no such job. -/
inductive Spares : Shell → Shell → Prop
  | none (s : Shell) : Spares s s
  | job (s : Shell) (letter : Letter) (before behind : List Job) :
      Spares (s.withReady (before ++ .send letter (.error .cancelled) :: behind)) (s.withReady (before ++ behind))

section

variable {σ : Type} (service : Service σ) {s t : Shell} {letter : Letter}

/-! ## Another queue -/

theorem conclude_withReady (s : Shell) (aim : Aim) (outcome : Outcome) (ready : List Job) :
    (s.withReady ready).conclude aim outcome = (s.conclude aim outcome).withReady ready := by
  cases aim with
  | task task => simp only [conclude, performAll_eq, withReady]
  | completion number request => rfl

theorem place_withReady (s : Shell) (world : σ) (call : Call) (aim : Aim) (ready : List Job) :
    place service (s.withReady ready) world call aim =
      { place service s world call aim with shell := (place service s world call aim).shell.withReady ready } := by
  have hcalls : (s.withReady ready).calls = s.calls := rfl
  simp only [place, hcalls]
  split
  · next outcome next _ =>
      exact congrArg (Turn.mk · next true) (conclude_withReady { s with calls := s.calls + 1 } aim outcome ready)
  · rfl

/-- **To carry a job on does the same with another queue.** -/
theorem attend_withReady (s : Shell) (world : σ) (job : Job) (ready : List Job) :
    attend service (s.withReady ready) world job =
      { attend service s world job with shell := (attend service s world job).shell.withReady ready } := by
  cases job with
  | call call aim => exact place_withReady service s world call aim ready
  | complete number line pos cwd =>
      have hregistry : (s.withReady ready).registry = s.registry := rfl
      have hcompleter : (s.withReady ready).completer = s.completer := rfl
      simp only [attend, startCompletion, hregistry, hcompleter]
      split
      · rfl
      · next completer request _ =>
          exact place_withReady service { s with completer } world request.call (.completion number request.id) ready
  | compose chain letter => rfl
  | send letter answers =>
      simp only [attend, sendLetter]
      split
      · rfl
      · rfl
      · split
        · exact place_withReady service s world _ _ ready
        · rfl
  | conclude aim outcome => simp only [attend, conclude_withReady]

/-- A queue that is left alone is passed on. -/
theorem passesOn_of_eq {next : List Job → Shell} (t : Shell) (h : ∀ ready, next ready = t.withReady ready) :
    PassesOn next :=
  ⟨t, id, [], fun _ _ => rfl, fun ready => by simpa using h ready⟩

theorem passesOn_follow (s : Shell) (step : Console × Option (Nat × Answers)) :
    PassesOn fun ready => (s.withReady ready).follow step := by
  obtain ⟨console, settled⟩ := step
  cases settled with
  | none => exact passesOn_of_eq (s.follow (console, none)) fun _ => rfl
  | some answers =>
      exact ⟨({ s with console } : Shell).answerLetter answers.1 answers.2, Job.answered answers.1 answers.2,
        (s.waiting.filterMap (Waiting.letter? answers.1)).map (Job.send · answers.2), fun _ _ => rfl, fun _ => rfl⟩

theorem passesOn_submit (s : Shell) (text : String) : PassesOn fun ready => (s.withReady ready).submit text := by
  rcases s.inputMode_cases with hpaging | ⟨hidle, chain, hchain⟩ | ⟨hidle, hchain⟩
  · exact passesOn_of_eq (s.submit text) fun ready => by
      rw [submit_pager hpaging, submit_pager (s := s.withReady ready) hpaging]
      rfl
  · obtain ⟨t, answered, more, hsend, heq⟩ := passesOn_follow s (s.console.answer text)
    refine ⟨t, answered, more, hsend, fun ready => ?_⟩
    have hsubmit := submit_question (s := s.withReady ready) hidle hchain text
    exact hsubmit.trans (heq ready)
  · have hmode := inputMode_command hidle hchain
    refine ⟨s.submit text, id, (planOf s.surroundings text).work.toList.map (Work.job s.console.reader.asked),
      fun _ _ => rfl, fun ready => ?_⟩
    have hsubmit := submit_of_command (s := s.withReady ready) hmode text
    rw [submit_of_command hmode, List.map_id]
    exact hsubmit

theorem passesOn_complete (s : Shell) (text : String) (pos : Nat) :
    PassesOn fun ready => (s.withReady ready).complete text pos := by
  have hsame (ready : List Job) : (s.withReady ready).inputMode = s.inputMode := rfl
  by_cases hmode : s.inputMode = .command
  · refine ⟨s.complete text pos, id, [.complete s.completions text pos s.session.cwd], fun _ _ => rfl, fun ready => ?_⟩
    simp only [complete_inputMode, hsame, hmode, if_true, List.map_id]
    rfl
  · refine passesOn_of_eq (s.complete text pos) fun ready => ?_
    simp only [complete_inputMode, hsame, hmode, if_false]
    rfl

/-- **What comes from outside passes the queue on.** -/
theorem passesOn_react (s : Shell) (world : σ) {stimulus : Stimulus} (houtside : stimulus.isOutside = true) :
    PassesOn fun ready => (react service (s.withReady ready, world) stimulus).1 := by
  cases stimulus with
  | attend place => simp [Stimulus.isOutside] at houtside
  | line text => exact passesOn_submit s text
  | interrupt => exact passesOn_follow { s with completer := s.completer.reset } s.console.interrupt
  | complete text pos => exact passesOn_complete s text pos
  | reply ticket outcome =>
      exact ⟨s.deliver ticket outcome, id, (s.waiting.filterMap (Waiting.aim? ticket)).map (Job.conclude · outcome),
        fun _ _ => rfl, fun ready => by simp [react, deliver, withReady]⟩
  | print => exact passesOn_of_eq s.drain.1 fun _ => rfl
  | handOver => exact passesOn_of_eq s.takeCompleted.1 fun _ => rfl
  | setPaging enabled => exact passesOn_of_eq (s.perform (.setPaging enabled)) fun _ => rfl

theorem react_attend_withReady (s : Shell) (world : σ) (ready : List Job) (place : Nat) :
    react service (s.withReady ready, world) (.attend place) =
      match ready[place]? with
      | some job =>
        ((attend service s world job).shell.withReady (ready.eraseIdx place), (attend service s world job).world)
      | none => (s.withReady ready, world) := by
  have hready : (s.withReady ready).ready = ready := rfl
  simp only [react, hready]
  cases ready[place]? with
  | none => rfl
  | some job =>
      exact congrArg (fun turn => (turn.shell, turn.world)) (attend_withReady service s world job (ready.eraseIdx place))

/-! ## Without the job -/

/-- To carry a job on is the same without the job of a letter that has been given up: the jobs before it keep their
places, those behind it are one place further on, and the job itself has nothing to do but to leave. -/
theorem spares_attend (s : Shell) (world : σ) (letter : Letter) (before behind : List Job) (place : Nat) :
    let here := (s.withReady (before ++ .send letter (.error .cancelled) :: behind), world)
    ∃ others : List Stimulus, others.filter Stimulus.isOutside = [] ∧
      (react service here (.attend place)).1.Spares (after service (s.withReady (before ++ behind), world) others).1 ∧
      (after service (s.withReady (before ++ behind), world) others).2 = (react service here (.attend place)).2 := by
  rcases Nat.lt_trichotomy place before.length with hlt | rfl | hgt
  · refine ⟨[.attend place], rfl, ?_⟩
    simp only [after, List.foldl_cons, List.foldl_nil, react_attend_withReady, List.getElem?_append_left hlt,
      List.eraseIdx_append_of_lt_length hlt]
    cases before[place]? with
    | none => exact ⟨.job s letter _ _, rfl⟩
    | some job => exact ⟨.job (attend service s world job).shell letter _ _, rfl⟩
  · refine ⟨[], rfl, ?_⟩
    rw [react_attend_withReady, List.getElem?_append_right (Nat.le_refl _), Nat.sub_self, List.getElem?_cons_zero,
      List.eraseIdx_append_of_length_le (Nat.le_refl _), Nat.sub_self, List.eraseIdx_cons_zero]
    exact ⟨.none _, rfl⟩
  · obtain ⟨more, rfl⟩ : ∃ more, place = before.length + (more + 1) := ⟨place - before.length - 1, by omega⟩
    refine ⟨[.attend (before.length + more)], rfl, ?_⟩
    simp only [after, List.foldl_cons, List.foldl_nil, react_attend_withReady,
      List.getElem?_append_right (Nat.le_add_right _ _), Nat.add_sub_cancel_left, List.getElem?_cons_succ,
      List.eraseIdx_append_of_length_le (Nat.le_add_right _ _), List.eraseIdx_cons_succ]
    cases behind[more]? with
    | none => exact ⟨.job s letter _ _, rfl⟩
    | some job => exact ⟨.job (attend service s world job).shell letter _ _, rfl⟩

/-- **A shell goes through the same without the job of a letter that has been given up,** step by step. -/
theorem Spares.react (h : s.Spares t) (world : σ) (stimulus : Stimulus) :
    ∃ others : List Stimulus, others.filter Stimulus.isOutside = [stimulus].filter Stimulus.isOutside ∧
      (react service (s, world) stimulus).1.Spares (after service (t, world) others).1 ∧
      (after service (t, world) others).2 = (react service (s, world) stimulus).2 := by
  cases h with
  | none => exact ⟨[stimulus], rfl, .none _, rfl⟩
  | job s letter before behind =>
      cases houtside : stimulus.isOutside with
      | true =>
          obtain ⟨t, answered, more, hsend, hnext⟩ := passesOn_react service s world houtside
          refine ⟨[stimulus], rfl, ?_, ?_⟩
          · simp only [after, List.foldl_cons, List.foldl_nil, hnext, List.map_append, List.map_cons, hsend,
              List.append_assoc, List.cons_append]
            exact .job t letter _ _
          · cases stimulus with
            | attend place => simp [Stimulus.isOutside] at houtside
            | _ => rfl
      | false =>
          cases stimulus with
          | attend place => exact spares_attend service s world letter before behind place
          | _ => simp [Stimulus.isOutside] at houtside

/-- **A shell goes through the same without the job of a letter that has been given up,** in a whole run. -/
theorem Spares.after (h : s.Spares t) (world : σ) (stimuli : List Stimulus) :
    ∃ others : List Stimulus, others.filter Stimulus.isOutside = stimuli.filter Stimulus.isOutside ∧
      (after service (s, world) stimuli).1.Spares (after service (t, world) others).1 ∧
      (after service (t, world) others).2 = (after service (s, world) stimuli).2 := by
  induction stimuli generalizing s t world with
  | nil => exact ⟨[], rfl, h, rfl⟩
  | cons stimulus rest ih =>
      obtain ⟨first, hfirst, hspares, hworld⟩ := h.react service world stimulus
      obtain ⟨others, hothers, hrest⟩ := ih hspares (Shell.react service (s, world) stimulus).2
      refine ⟨first ++ others, ?_, ?_⟩
      · rw [List.filter_append, hfirst, hothers, ← List.filter_append, List.singleton_append]
      · have hsame : Shell.after service (t, world) first =
            ((Shell.after service (t, world) first).1, (Shell.react service (s, world) stimulus).2) := Prod.ext rfl hworld
        rw [after_append, after_cons, hsame]
        exact hrest

end

end Shell

end RemoteShell
