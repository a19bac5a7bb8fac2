import RemoteShell.Proofs.Commands.Silence
import RemoteShell.Proofs.Shell.JobLaw

/-!
# What outcomes are for

Between a line and the outcome of its call a task passes through the queue, through the questions of a letter and
through the jobs that wait for the service. Whatever happens meanwhile, no task is made up on the way and none is
changed: what is done with an outcome in the end is what some command has left to be done. So the laws about the outcomes
of commands are laws about all that a shell does with outcomes, completions apart.

Main statements:

* `jobLaw_isFromCommand`: that a job comes from a command is kept by all that happens to it.
* `Shell.reports_after`: what becomes of outcomes, in every state that a shell can come to.
-/

namespace RemoteShell

/-- A letter that a command has begun. -/
def Letter.IsBegun (letter : Letter) : Prop :=
  ∃ around args verb, .letter letter ∈ (Plan.ofVerb around args verb).work

/-- The aim of a call that a command has left, or a completion. -/
def Aim.IsFromCommand : Aim → Prop
  | .task left => ∃ verb asked, Verb.Makes verb asked left
  | .completion _ _ => True

/-- A job that comes from a command, or a completion. -/
def Job.IsFromCommand : Job → Prop
  | .call asked (.task left) => ∃ verb, Verb.Makes verb asked left
  | .compose _ letter | .send letter _ => letter.IsBegun
  | .conclude aim _ => aim.IsFromCommand
  | .call _ (.completion _ _) | .complete _ _ _ _ => True

/-- A waiting job that comes from a command, or a completion. -/
def Waiting.IsFromCommand : Waiting → Prop
  | .reply _ aim => aim.IsFromCommand
  | .answers _ letter => letter.IsBegun

/-- A call has the aim that its command has left. -/
theorem Job.IsFromCommand.aim {call : Call} {aim : Aim} (h : (Job.call call aim).IsFromCommand) : aim.IsFromCommand := by
  cases aim with
  | task task =>
      obtain ⟨verb, hmakes⟩ := h
      exact ⟨verb, call, hmakes⟩
  | completion number request => trivial

/-- A letter that is sent makes the call of the command that has begun it. -/
theorem Letter.IsBegun.makes {letter : Letter} (h : letter.IsBegun) {answers : List String} {call : Call}
    (hcall : letter.call? answers = some call) : ∃ verb, Verb.Makes verb call (.confirm "Message sent.") := by
  obtain ⟨around, args, verb, hwork⟩ := h
  exact ⟨verb, around, args, _, hwork, .letter hcall⟩

/-- **That a job comes from a command is kept by all that happens to it.** -/
theorem jobLaw_isFromCommand : JobLaw Job.IsFromCommand Waiting.IsFromCommand where
  call hwork := ⟨_, _, _, _, hwork, .call _ _⟩
  letter hwork _ := ⟨_, _, _, hwork⟩
  complete _ _ _ _ := trivial
  answered h _ := h
  composed h := h
  woken h _ := h
  sent h hcall _ := by
    obtain ⟨verb, hmakes⟩ := Letter.IsBegun.makes h hcall
    exact ⟨verb, _, hmakes⟩
  called h _ := h.aim
  completed _ _ _ := trivial
  delivered h _ := h

/-- **What becomes of outcomes, in every state that a shell can come to.** An outcome that has come belongs to a command
that has left its task. It will be reported, unless the command passes it over, and a refusal will be reported as such,
unless the command hides it. -/
theorem Shell.reports_after {σ : Type} (service : Service σ) (registry : Registry) (home prompt : String) (pager : Pager)
    (style : Style) (world : σ) (stimuli : List Stimulus) :
    let here := (after service (new registry home prompt pager style, world) stimuli).1
    ∀ task outcome, Job.conclude (.task task) outcome ∈ here.ready →
      ∃ verb call, Verb.Makes verb call task ∧
        (¬ verb.PassesOver outcome → here.Reports verb call task outcome) ∧
        ∀ reply, outcome = .ok reply → ¬ verb.HidesRefusal reply → here.ReportsNegative verb task reply := by
  intro here task outcome hmem
  have hjobs : here.Obeys Job.IsFromCommand Waiting.IsFromCommand :=
    Obeys.after service jobLaw_isFromCommand (obeys_new registry home prompt pager style) stimuli
  obtain ⟨verb, call, hmakes⟩ := hjobs.ready _ hmem
  refine ⟨verb, call, hmakes, here.reports_of_not_passesOver hmakes, ?_⟩
  intro reply _ hshown
  exact here.reportsNegative_of_not_hidesRefusal hmakes hshown

end RemoteShell
