import RemoteShell.Shell.Settle

/-!
# Which command a call is from

What a command leaves is a call with a task for its outcome, or a letter that comes to a call once its questions are
answered. Several commands share a task, but no task is shared by commands that treat an outcome differently, so the task
tells the kind of the command.

Main statements:

* `Verb.Makes.mem_verbs`: a task comes from one of few commands.
* `Verb.Makes.exists_enter`: the call on the way to a folder names the folder.
-/

namespace RemoteShell

/-- **The call that some work comes to, and the task for its outcome.** A letter comes to its call once its questions
are answered. -/
inductive Work.Makes : Work → Call → Task → Prop where
  | call (call : Call) (task : Task) : Makes (.call call task) call task
  | letter {letter : Letter} {answers : List String} {call : Call} (h : letter.call? answers = some call) :
      Makes (.letter letter) call (.confirm "Message sent.")

/-- A command makes a call, on some line in some surroundings, and has a task for the outcome. -/
def Verb.Makes (verb : Verb) (call : Call) (task : Task) : Prop :=
  ∃ around args, ∃ work ∈ (Plan.ofVerb around args verb).work, work.Makes call task

/-- The commands that leave a task. -/
def Task.verbs : Task → List Verb
  | .enter _ remembered => if remembered then [.pushd] else [.cd]
  | .listSessions => [.who]
  | .listFiles => [.ls]
  | .showDetails => [.lookup]
  | .acceptChange => [.mkdir, .rm, .link, .mv]
  | .showOwner => [.chown]
  | .showType => [.setmt]
  | .listAssignments => [.lspolicy]
  | .countFiles _ => [.share, .unshare]
  | .showPolicyId => [.pshare]
  | .listPathPolicies => [.pplist]
  | .confirm _ => [.punshare, .mkmailer, .mail]
  | .confirmUnlessFailed _ => [.mkgroup, .gattr, .gmove, .rmgroup, .rmgroupUnder]
  | .listGroups _ => [.groups, .groupsUnder]
  | .listUsers _ _ => [.users, .usersUnder]
  | .reportAdded => [.adduser]
  | .reportRemoved => [.rmuser]
  | .showUser => [.mkuser]
  | .reportCopied => [.ucopy]

/-- What can be said of some work from the command that left it. -/
def Work.IsFrom (verb : Verb) : Work → Prop
  | .call _ task => verb ∈ task.verbs
  | .letter _ => verb = .mail

namespace Plan

theorem isFrom_now (verb : Verb) (effects : List Effect) : ∀ work ∈ (now effects).work, work.IsFrom verb := by
  simp [now]

theorem isFrom_ask {verb : Verb} {task : Task} (h : verb ∈ task.verbs) (api : Api) (op : String)
    (params : List (String × Json)) : ∀ work ∈ (ask api op params task).work, work.IsFrom verb := by
  simpa [ask, Work.IsFrom] using h

/-- **What a command leaves is its own.** -/
theorem isFrom_ofVerb (around : Surroundings) (args : Arguments) (verb : Verb) :
    ∀ work ∈ (ofVerb around args verb).work, work.IsFrom verb := by
  cases verb with
  | help | exit | popd | pwd | dirs | pager => exact isFrom_now _ _
  | idle => simp [ofVerb]
  | mail => simp [ofVerb, write, Work.IsFrom]
  | lookup =>
      simp only [ofVerb, lookup]
      split
      · exact isFrom_ask (by simp [Task.verbs]) _ _ _
      · exact isFrom_ask (by simp [Task.verbs]) _ _ _
      · exact isFrom_now _ _
  | pshare =>
      simp only [ofVerb, addPathPolicy]
      split
      · exact isFrom_ask (by simp [Task.verbs]) _ _ _
      · exact isFrom_now _ _
  | gattr =>
      simp only [ofVerb, setAttributes]
      split
      · exact isFrom_now _ _
      · exact isFrom_ask (by simp [Task.verbs]) _ _ _
  | _ => exact isFrom_ask (by simp [Task.verbs]) _ _ _

end Plan

namespace Verb

variable {verb : Verb} {call : Call} {task : Task}

/-- **A task comes from one of few commands.** -/
theorem Makes.mem_verbs (h : verb.Makes call task) : verb ∈ task.verbs := by
  obtain ⟨around, args, work, hwork, hmakes⟩ := h
  have hfrom := Plan.isFrom_ofVerb around args verb work hwork
  cases hmakes with
  | call => exact hfrom
  | letter => simp [Task.verbs, show verb = .mail from hfrom]

/-- A command that always leaves one task leaves no other. -/
theorem Makes.task_eq {only : Task} (h : verb.Makes call task)
    (honly : ∀ around args, ∃ asked, (Plan.ofVerb around args verb).work = some (.call asked only)) : task = only := by
  obtain ⟨around, args, work, hwork, hmakes⟩ := h
  obtain ⟨asked, hasked⟩ := honly around args
  obtain rfl := Option.some.inj (hasked.symm.trans hwork)
  cases hmakes with
  | call => rfl

/-- `cd` and `pushd` are on the way to the folder that their call names. -/
theorem Makes.exists_enter (h : verb.Makes call task) (hfolder : verb = .cd ∨ verb = .pushd) :
    ∃ remembered, task = .enter (call.params.field "path") remembered := by
  obtain ⟨around, args, work, hwork, hmakes⟩ := h
  have hplan : ∃ remembered, (Plan.ofVerb around args verb).work = (Plan.enter around.session args remembered).work := by
    rcases hfolder with rfl | rfl
    · exact ⟨false, rfl⟩
    · exact ⟨true, rfl⟩
  obtain ⟨remembered, hplan⟩ := hplan
  rw [hplan] at hwork
  cases hmakes with
  | call =>
      obtain ⟨rfl, rfl⟩ := Work.call.inj (Option.some.inj hwork)
      exact ⟨remembered, rfl⟩
  | letter => cases hwork

end Verb

end RemoteShell
