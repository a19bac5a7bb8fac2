import RemoteShell.Proofs.Shell.Output

/-!
# All that can happen to a shell

A shell is given lines and asked for completions, it is interrupted, its jobs are carried on, outcomes of calls come,
and what it has to say is taken from it. What holds in every state that a shell can come to is said about these stimuli:
any of them, in any order, and with the ready jobs in any order too. Settling is a stretch of such a run.

Main statements:

* `Shell.settle_eq_after`: settling is made of stimuli.
* `Shell.calls_after`: the shell counts the calls that the service gets.
-/

namespace RemoteShell

/-- What can happen to a shell. -/
inductive Stimulus where
  /-- A line is given. -/
  | line (text : String)
  /-- The user interrupts. -/
  | interrupt
  /-- A completion of a line with the cursor at a byte offset is asked for. -/
  | complete (text : String) (pos : Nat)
  /-- The job at a place in the queue is carried on. -/
  | attend (place : Nat)
  /-- The outcome of the call with a number comes. -/
  | reply (ticket : Nat) (outcome : Outcome)
  /-- The output is printed. -/
  | print
  /-- The completions that have been answered are handed over. -/
  | handOver
  /-- Paging is turned on or off from outside. -/
  | setPaging (enabled : Bool)

namespace Shell

variable {σ : Type} (service : Service σ)

/-- A shell and its service after a stimulus. -/
def react (here : Shell × σ) : Stimulus → Shell × σ
  | .line text => (here.1.submit text, here.2)
  | .interrupt => (here.1.interrupt, here.2)
  | .complete text pos => (here.1.complete text pos, here.2)
  | .attend place => match here.1.ready[place]? with
    | some job =>
      let turn := attend service { here.1 with ready := here.1.ready.eraseIdx place } here.2 job
      (turn.shell, turn.world)
    | none => here
  | .reply ticket outcome => (here.1.deliver ticket outcome, here.2)
  | .print => (here.1.drain.1, here.2)
  | .handOver => (here.1.takeCompleted.1, here.2)
  | .setPaging enabled => (here.1.perform (.setPaging enabled), here.2)

/-- A shell and its service after some stimuli. -/
def after (here : Shell × σ) (stimuli : List Stimulus) : Shell × σ :=
  stimuli.foldl (react service) here

theorem after_cons (here : Shell × σ) (stimulus : Stimulus) (stimuli : List Stimulus) :
    after service here (stimulus :: stimuli) = after service (react service here stimulus) stimuli :=
  List.foldl_cons

theorem after_append (here : Shell × σ) (stimuli more : List Stimulus) :
    after service here (stimuli ++ more) = after service (after service here stimuli) more :=
  List.foldl_append

theorem after_snoc (here : Shell × σ) (stimuli : List Stimulus) (stimulus : Stimulus) :
    after service here (stimuli ++ [stimulus]) = react service (after service here stimuli) stimulus :=
  after_append service here stimuli [stimulus]

/-! ## Stretches -/

/-- To carry the first job on is a stimulus. -/
theorem react_attend_zero {s : Shell} {job : Job} {rest : List Job} (hready : s.ready = job :: rest) (world : σ) :
    react service (s, world) (.attend 0) =
      ((attend service { s with ready := rest } world job).shell,
        (attend service { s with ready := rest } world job).world) := by
  simp [react, hready]

theorem attendAll_eq_after {s : Shell} {jobs : List Job} (hready : s.ready = jobs) (world : σ) :
    attendAll service s world jobs = after service (s, world) (List.replicate jobs.length (.attend 0)) := by
  induction jobs generalizing s world with
  | nil =>
      have hsame : { s with ready := [] } = s := by rw [← hready]
      rw [attendAll, hsame]
      rfl
  | cons job rest ih =>
      rw [attendAll, ih (attend_ready service { s with ready := rest } world job), List.length_cons, List.replicate_succ,
        after_cons, react_attend_zero service hready world]

/-- Settling without an open question carries the first job on as often as there are jobs. -/
theorem settle_eq_after {s : Shell} (h : s.isAsking = false) (world : σ) :
    settle service s world = after service (s, world) (List.replicate s.ready.length (.attend 0)) := by
  rw [settle, h, if_neg (by decide), attendAll_eq_after service rfl]

/-! ## Calls -/

theorem calls_conclude (s : Shell) (aim : Aim) (outcome : Outcome) : (s.conclude aim outcome).calls = s.calls := by
  cases aim with
  | task task => rw [conclude, performAll_eq]
  | completion number request => rfl

theorem calls_follow (s : Shell) (step : Console × Option (Nat × Answers)) : (s.follow step).calls = s.calls := by
  unfold follow
  dsimp only
  split <;> rfl

/-- **A line makes no call.** -/
theorem calls_submit (s : Shell) (line : String) : (s.submit line).calls = s.calls := by
  unfold submit
  split
  · rfl
  · split
    · exact calls_follow s _
    · rw [runCommand_eq, carryOut, performAll_eq]
      split
      · next work _ =>
          cases work with
          | call call task => rfl
          | letter letter => exact calls_follow _ _
      · rfl

/-- A service that counts the calls it gets. -/
def counting : Service (σ × Nat) := fun ticket call world =>
  ((service ticket call world.1).1, (service ticket call world.1).2, world.2 + 1)

/-- One more call is counted by the shell exactly if it is counted by the service. -/
theorem calls_place {s : Shell} {world : σ × Nat} (h : s.calls = world.2) (call : Call) (aim : Aim) :
    (place (counting service) s world call aim).shell.calls = (place (counting service) s world call aim).world.2 := by
  unfold place counting
  dsimp only
  split
  · next hanswer =>
      obtain ⟨-, rfl⟩ := Prod.mk.inj hanswer
      rw [calls_conclude, h]
  · next hanswer =>
      obtain ⟨-, rfl⟩ := Prod.mk.inj hanswer
      rw [h]

theorem calls_attend {s : Shell} {world : σ × Nat} (h : s.calls = world.2) (job : Job) :
    (attend (counting service) s world job).shell.calls = (attend (counting service) s world job).world.2 := by
  cases job with
  | call call aim => exact calls_place service h call aim
  | compose chain letter => exact h
  | conclude aim outcome => exact (calls_conclude s aim outcome).trans h
  | complete number line pos cwd =>
      simp only [attend, startCompletion]
      split
      · exact h
      · apply calls_place
        exact h
  | send letter answers =>
      simp only [attend, sendLetter]
      split
      · exact h
      · exact h
      · split
        · exact calls_place service h _ _
        · exact h

/-- **What happens to a shell keeps the count of its calls.** -/
theorem calls_react {s : Shell} {world : σ × Nat} (h : s.calls = world.2) (stimulus : Stimulus) :
    (react (counting service) (s, world) stimulus).1.calls = (react (counting service) (s, world) stimulus).2.2 := by
  cases stimulus with
  | line text => exact (calls_submit s text).trans h
  | interrupt => exact (calls_follow _ _).trans h
  | complete text pos =>
      simp only [react, complete]
      split <;> exact h
  | attend place =>
      simp only [react]
      split
      · apply calls_attend
        exact h
      · exact h
  | reply ticket outcome => exact h
  | print => exact h
  | handOver => exact h
  | setPaging enabled => exact h

/-- **The shell counts the calls that the service gets.** -/
theorem calls_after {s : Shell} {world : σ × Nat} (h : s.calls = world.2) (stimuli : List Stimulus) :
    (after (counting service) (s, world) stimuli).1.calls = (after (counting service) (s, world) stimuli).2.2 := by
  induction stimuli generalizing s world with
  | nil => exact h
  | cons stimulus rest ih => exact ih (calls_react service h stimulus)

end Shell

end RemoteShell
