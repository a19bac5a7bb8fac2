import RemoteShell.Shell.Basic

/-!
# Jobs and the service

A service answers a call at once, or it keeps the number of the call and the outcome is delivered later. Carrying a job
on either ends it or leaves it waiting; it makes at most one call. Settling carries every ready job on, unless the user
is being asked something.

Main statements:

* `settle_ready`: after settling without an open question, no job is ready.
* `attend_ready`: carrying a job on leaves the queue as it is.
-/

namespace RemoteShell

/-- A service with a state: given the number of a call and the call, it says the outcome if it has one already. -/
abbrev Service (σ : Type) := Nat → Call → σ → Option Outcome × σ

/-- The shell, the state of the service, and whether the job that was carried on has ended. -/
structure Turn (σ : Type) where
  shell : Shell
  world : σ
  ended : Bool

namespace Shell

variable {σ : Type} (service : Service σ)

/-- Makes a call. -/
def place (s : Shell) (world : σ) (call : Call) (aim : Aim) : Turn σ :=
  let counted := { s with calls := s.calls + 1 }
  match service s.calls call world with
  | (some outcome, world) => { shell := counted.conclude aim outcome, world, ended := true }
  | (none, world) =>
    { shell := { counted with waiting := counted.waiting ++ [.reply s.calls aim] }, world, ended := false }

/-- Sends a letter whose questions are answered. Without answers there is none to be sent. -/
def sendLetter (s : Shell) (world : σ) (letter : Letter) (answers : Answers) : Turn σ :=
  match answers with
  | .error .cancelled => { shell := s, world, ended := true }
  | .error .busy => { shell := s.perform (.error ReadError.busy.message), world, ended := true }
  | .ok texts => match letter.call? texts with
    | some call => place service s world call (.task (.confirm "Message sent."))
    | none => { shell := s, world, ended := true }

/-- Starts a completion. -/
def startCompletion (s : Shell) (world : σ) (number : Nat) (line : String) (pos : Nat) (cwd : String) : Turn σ :=
  match s.completer.start s.registry line pos cwd with
  | (completer, .done answer) =>
    { shell := { s with completer, completed := s.completed ++ [(number, answer)] }, world, ended := true }
  | (completer, .ask request) =>
    place service { s with completer } world request.call (.completion number request.id)

/-- Carries a job on until it ends or has to wait. -/
def attend (s : Shell) (world : σ) : Job → Turn σ
  | .call call aim => place service s world call aim
  | .complete number line pos cwd => startCompletion service s world number line pos cwd
  | .compose chain letter =>
    { shell := { s with waiting := s.waiting ++ [.answers chain letter] }, world, ended := false }
  | .send letter answers => sendLetter service s world letter answers
  | .conclude aim outcome => { shell := s.conclude aim outcome, world, ended := true }

/-- Carries some ready jobs on, one after the other. -/
def attendAll (s : Shell) (world : σ) : List Job → Shell × σ
  | [] => ({ s with ready := [] }, world)
  | job :: rest =>
    let turn := attend service { s with ready := rest } world job
    attendAll turn.shell turn.world rest

/-- Carries some ready jobs on until one ends; says whether one did. -/
def attendUntilEnd (s : Shell) (world : σ) : List Job → Turn σ
  | [] => { shell := { s with ready := [] }, world, ended := false }
  | job :: rest =>
    let turn := attend service { s with ready := rest } world job
    if turn.ended then turn else attendUntilEnd turn.shell turn.world rest

/-- Carries every ready job on, unless the user is being asked something. -/
def settle (s : Shell) (world : σ) : Shell × σ :=
  if s.isAsking then (s, world) else attendAll service s world s.ready

/-- Carries ready jobs on until one ends. -/
def next (s : Shell) (world : σ) : Turn σ :=
  attendUntilEnd service s world s.ready

/-- Whether settling would never come to an end: jobs wait for the service, and nothing else can be done. -/
def isStuck (s : Shell) : Bool :=
  s.hasPending && !s.isAsking

theorem perform_ready (s : Shell) (e : Effect) : (s.perform e).ready = s.ready := by
  cases e <;> rfl

theorem performAll_ready (s : Shell) (effects : List Effect) : (s.performAll effects).ready = s.ready := by
  induction effects generalizing s with
  | nil => rfl
  | cons e rest ih => exact (ih (s.perform e)).trans (perform_ready s e)

theorem conclude_ready (s : Shell) (aim : Aim) (outcome : Outcome) : (s.conclude aim outcome).ready = s.ready := by
  cases aim with
  | task task => exact performAll_ready s _
  | completion number request => rfl

theorem place_ready (s : Shell) (world : σ) (call : Call) (aim : Aim) :
    (place service s world call aim).shell.ready = s.ready := by
  unfold place
  dsimp only
  split
  · exact conclude_ready _ _ _
  · rfl

/-- Carrying a job on leaves the queue as it is. -/
theorem attend_ready (s : Shell) (world : σ) (job : Job) : (attend service s world job).shell.ready = s.ready := by
  cases job with
  | call call aim => exact place_ready service s world call aim
  | complete number line pos cwd =>
    simp only [attend, startCompletion]
    split
    · rfl
    · exact place_ready service _ _ _ _
  | compose chain letter => rfl
  | send letter answers =>
    simp only [attend, sendLetter]
    split
    · rfl
    · exact perform_ready _ _
    · split
      · exact place_ready service _ _ _ _
      · rfl
  | conclude aim outcome => exact conclude_ready _ _ _

theorem attendAll_ready (s : Shell) (world : σ) (jobs : List Job) : (attendAll service s world jobs).1.ready = [] := by
  induction jobs generalizing s world with
  | nil => rfl
  | cons job rest ih => exact ih _ _

/-- **After settling without an open question, no job is ready.** -/
theorem settle_ready {s : Shell} (h : s.isAsking = false) (world : σ) : (settle service s world).1.ready = [] := by
  simp [settle, h, attendAll_ready]

end Shell

end RemoteShell
