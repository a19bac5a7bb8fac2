import RemoteShell.Proofs.Commands.Refusal
import RemoteShell.Proofs.Shell.FolderLine

/-!
# Silent outcomes

Once the outcome of a call has come, the user should hear of it. To hear nothing is right in two cases only: `cd` or
`pushd` has gone to the folder that it was asked for, or the reply is a collection of the kind that the command asks for
and has nothing in it.

Which outcomes are silent is a question about tasks, and has one answer for each of them. Two commands are silent about
more than they should be, because they look for one shape of reply and pass over the others: `mkuser` over a list, `ucopy`
over an object.

Main statements:

* `Shell.lineCount_performAll`: no line of an effect is lost on the way to the output.
* `Task.output_conclude_eq_nil_iff`: the outcomes about which a task says nothing.
* `Shell.reports_iff`: where every outcome is reported.
-/

namespace RemoteShell

/-! ## Lines to be shown -/

/-- How many lines there are to be shown: those not yet printed, and those that the pager holds. -/
def Console.lineCount (c : Console) : Nat :=
  c.queue.length + c.pager.held.length

theorem Console.lineCount_perform (c : Console) (e : Effect) : (c.perform e).lineCount = c.lineCount + e.output.length := by
  cases e with
  | page lines =>
      have hall := congrArg List.length (Pager.page_conserves c.pager lines)
      simp only [List.length_append] at hall
      simp only [perform, page, echoAll, lineCount, Effect.output, List.length_append, List.length_map]
      omega
  | echo | error =>
      simp only [perform, echo, echoAll, error, lineCount, Effect.output, List.length_append, List.length_map,
        List.length_singleton]
      omega
  | enter | push | back | setPaging | exit => rfl

/-- **No line of an effect is lost on the way to the output.** -/
theorem Shell.lineCount_performAll (s : Shell) (effects : List Effect) :
    (s.performAll effects).console.lineCount = s.console.lineCount + (effects.flatMap Effect.output).length := by
  rw [performAll_eq]
  dsimp only
  generalize s.console = c
  induction effects generalizing c with
  | nil => rfl
  | cons e rest ih =>
      rw [List.foldl_cons, ih, Console.lineCount_perform, List.flatMap_cons, List.length_append, Nat.add_assoc]

/-! ## Silent tasks -/

/-- An object whose status is not negative is a success, or there was nothing to be done. -/
theorem Reply.classify_not_negative {members : List (String × Json)} (h : (Json.obj members).isNegative = false) :
    classify (.obj members) = .success (.obj members) ∨
      classify (.obj members) = .benign (.obj members) ∧ (Json.obj members).status = some 0 := by
  cases hs : (Json.obj members).status with
  | none => exact Or.inl (by simp only [classify, hs])
  | some s =>
      have hpos : ¬ s < 0 := by simpa [Json.isNegative, hs] using h
      by_cases hzero : s = 0
      · refine Or.inr ⟨?_, by rw [hzero]⟩
        simp only [classify, hs, hzero]
        rfl
      · exact Or.inl (by simp only [classify, hs, if_neg hpos, if_neg hzero])

namespace Task

/-- **The outcomes about which a task says nothing.** -/
def IsSilent : Task → Outcome → Prop
  | _, .error _ => False
  | .enter _ _, .ok reply => isRefusal (.ok reply) = false
  | .listSessions, .ok reply => reply.status = some 1 ∧ Commands.itemsField reply "result" = []
  | .showDetails, .ok reply => reply = .obj []
  | .reportAdded, .ok reply | .reportRemoved, .ok reply => reply = .arr []
  | .showUser, .ok reply => ∃ entries, reply = .arr entries
  | .reportCopied, .ok reply => reply = .arr [] ∨ ∃ members, reply = .obj members ∧ reply.isNegative = false
  | _, .ok _ => False

/-- Lines about items are missing exactly if there are no items. -/
theorem output_map_eq_nil_iff {α : Type} {about : α → Effect} (h : ∀ item, (about item).output ≠ []) (items : List α) :
    (items.map about).flatMap Effect.output = [] ↔ items = [] := by
  cases items with
  | nil => simp
  | cons item rest => simp [h item]

theorem output_addedLine_ne_nil (entry : Json) : (addedLine entry).output ≠ [] := by
  unfold addedLine
  split
  · split <;> simp
  · simp

/-- Items are paged, or there is a line that says that there are none. -/
theorem output_pageUnlessEmpty_ne_nil {items : List Json} {lines : List Json → List String} {none : String}
    (h : items ≠ [] → lines items ≠ []) : (pageUnlessEmpty items lines none).flatMap Effect.output ≠ [] := by
  unfold pageUnlessEmpty
  split
  · simp
  · next hitems => simpa using h (by simpa using hitems)

variable (style : Style)

theorem output_enter_eq_nil_iff (folder : String) (remembered : Bool) (outcome : Outcome) :
    (conclude style (.enter folder remembered) outcome).flatMap Effect.output = [] ↔ isRefusal outcome = false := by
  obtain ⟨report, hconclude⟩ := conclude_enter style folder remembered outcome
  rw [hconclude]
  cases harrival : arrival? folder outcome with
  | some path => simp [isRefusal_of_arrival? harrival]
  | none => simp [(arrival?_eq_none_iff folder outcome).mp harrival]

/-- An object that is no failure. -/
theorem output_obj_eq_nil_iff (task : Task) {members : List (String × Json)}
    (h : (Json.obj members).isNegative = false) :
    (task.conclude style (.ok (.obj members))).flatMap Effect.output = [] ↔ task.IsSilent (.ok (.obj members)) := by
  cases task with
  | enter folder remembered => exact output_enter_eq_nil_iff style folder remembered _
  | reportRemoved =>
      simp only [conclude, removed, IsSilent]
      split <;> simp
  | listSessions =>
      rcases Reply.classify_not_negative h with hclass | ⟨hclass, hzero⟩
      · simp only [conclude, hclass, concludeReply, IsSilent]
        split
        · next hone =>
          rw [output_map_eq_nil_iff (by simp)]
          simp [hone]
        · next hnone => simp [hnone]
      · simp [conclude, hclass, concludeReply, IsSilent, hzero]
  | showDetails =>
      have hlines : conclude style .showDetails (.ok (.obj members)) =
          (Commands.detailLines style members).map .echo := by
        rcases Reply.classify_not_negative h with hclass | ⟨hclass, -⟩ <;> simp only [conclude, hclass, concludeReply]
      rw [hlines, output_map_eq_nil_iff (by simp)]
      simp [Commands.detailLines, IsSilent]
  | listGroups group =>
      refine iff_of_false ?_ id
      rcases Reply.classify_not_negative h with hclass | ⟨hclass, -⟩
      all_goals
        simp only [conclude, hclass, concludeReply]
        exact output_pageUnlessEmpty_ne_nil (by simp [Commands.groupLines])
  | listUsers group deep =>
      refine iff_of_false ?_ id
      rcases Reply.classify_not_negative h with hclass | ⟨hclass, -⟩
      all_goals
        simp only [conclude, hclass, concludeReply]
        exact output_pageUnlessEmpty_ne_nil (by simp [Commands.userLines])
  | _ =>
      rcases Reply.classify_not_negative h with hclass | ⟨hclass, -⟩
      all_goals simp [conclude, hclass, concludeReply, IsSilent, h]

/-- A list. -/
theorem output_arr_eq_nil_iff (task : Task) (entries : List Json) :
    (task.conclude style (.ok (.arr entries))).flatMap Effect.output = [] ↔ task.IsSilent (.ok (.arr entries)) := by
  cases task with
  | enter folder remembered => exact output_enter_eq_nil_iff style folder remembered _
  | listFiles =>
      refine iff_of_false (output_pageUnlessEmpty_ne_nil fun hentries hlines => hentries ?_) id
      rw [← List.length_eq_zero_iff, ← Commands.fileLines_length style, hlines]
      rfl
  | listPathPolicies =>
      exact iff_of_false (output_pageUnlessEmpty_ne_nil (by simp [Commands.pathPolicyLines])) id
  | reportAdded =>
      refine (output_map_eq_nil_iff output_addedLine_ne_nil entries).trans ?_
      simp [IsSilent]
  | reportRemoved =>
      refine (output_map_eq_nil_iff (by simp) entries).trans ?_
      simp [IsSilent]
  | reportCopied => cases entries <;> simp [conclude, Reply.classify, concludeReply, IsSilent]
  | _ =>
      simp [conclude, Reply.classify, concludeReply, IsSilent, Json.status, Json.get?]

/-- No task is silent about what is sorted as a failure. -/
theorem not_isSilent_of_failure (task : Task) {value : Json} {message : String}
    (h : Reply.classify value = .failure message) : ¬ task.IsSilent (.ok value) := by
  cases task with
  | enter folder remembered => simp [IsSilent, isRefusal, arrival?, h]
  | listSessions =>
      rintro ⟨hone, -⟩
      cases value with
      | obj members => simp [Reply.classify, hone] at h
      | _ => simp [Json.status, Json.get?] at hone
  | showDetails =>
      rintro rfl
      cases h
  | reportAdded | reportRemoved =>
      rintro rfl
      cases h
  | showUser =>
      rintro ⟨entries, rfl⟩
      cases h
  | reportCopied =>
      rintro (rfl | ⟨members, rfl, hpos⟩)
      · cases h
      · rcases Reply.classify_not_negative hpos with hclass | ⟨hclass, -⟩
        all_goals
          rw [hclass] at h
          cases h
  | _ => exact id

/-- **A task says nothing about exactly these outcomes.** -/
theorem output_conclude_eq_nil_iff (task : Task) (outcome : Outcome) :
    (task.conclude style outcome).flatMap Effect.output = [] ↔ task.IsSilent outcome := by
  have hfailure : ∀ value message, Reply.classify value = .failure message →
      ((task.conclude style (.ok value)).flatMap Effect.output = [] ↔ task.IsSilent (.ok value)) := by
    intro value message hclass
    obtain ⟨text, htext⟩ := conclude_of_failure hclass style task
    simp [htext, task.not_isSilent_of_failure hclass]
  cases outcome with
  | error failure =>
      refine iff_of_false ?_ (by cases task <;> exact id)
      cases task <;> simp [conclude, concludeFailure, refuse]
  | ok value =>
      cases value with
      | arr entries => exact output_arr_eq_nil_iff style task entries
      | obj members =>
          cases hneg : (Json.obj members).isNegative with
          | false => exact output_obj_eq_nil_iff style task hneg
          | true =>
              obtain ⟨s, hs, hlt⟩ := Json.isNegative_iff.mp hneg
              exact hfailure _ _ (Reply.classify_negative hs hlt)
      | _ => exact hfailure _ _ rfl

end Task

/-! ## All commands -/

/-- A reply in the shape that a command asks for, with nothing in it. -/
def Verb.FindsNothing : Verb → Json → Prop
  | .adduser, reply | .rmuser, reply | .ucopy, reply => reply = .arr []
  | .lookup, reply => reply = .obj []
  | .who, reply => reply.status = some 1 ∧ Commands.itemsField reply "result" = []
  | _, _ => False

/-- The outcomes that a command passes over, though they are not in the shape that it asks for: a list for `mkuser`, an
object that is no failure for `ucopy`. -/
def Verb.PassesOver : Verb → Outcome → Prop
  | .mkuser, .ok reply => ∃ entries, reply = .arr entries
  | .ucopy, .ok reply => ∃ members, reply = .obj members ∧ reply.isNegative = false
  | _, _ => False

/-- What a command passes over is not what it asks for. -/
theorem Verb.PassesOver.not_findsNothing {verb : Verb} {reply : Json} (h : verb.PassesOver (.ok reply)) :
    ¬ verb.FindsNothing reply := by
  intro hnothing
  cases verb with
  | mkuser => exact hnothing
  | ucopy =>
      obtain ⟨members, hobj, -⟩ := h
      obtain rfl : reply = .arr [] := hnothing
      cases hobj
  | _ => exact h

/-- What a silent task can mean, from the command that left it. -/
theorem Task.isSilent_iff (task : Task) (outcome : Outcome) : ∀ verb ∈ task.verbs,
    (task.IsSilent outcome ↔ (verb = .cd ∨ verb = .pushd) ∧ isRefusal outcome = false ∨
      (∃ reply, outcome = .ok reply ∧ verb.FindsNothing reply) ∨ verb.PassesOver outcome) := by
  cases outcome with
  | error failure =>
      have hrefused : isRefusal (.error failure) = true := rfl
      cases task <;> simp [IsSilent, Verb.PassesOver, hrefused]
  | ok reply =>
      cases task with
      | enter folder remembered =>
          cases remembered <;> simp [verbs, IsSilent, Verb.FindsNothing, Verb.PassesOver]
      | _ => simp [verbs, IsSilent, Verb.FindsNothing, Verb.PassesOver]

namespace Shell

/-- **The outcome of a call is reported.** There are more lines to be shown; or `cd` or `pushd` has entered the folder that
was looked up, and nothing else has changed; or the reply is in the shape that the command asks for, with nothing in
it. -/
def Reports (s : Shell) (verb : Verb) (call : Call) (task : Task) (outcome : Outcome) : Prop :=
  s.console.lineCount < (s.conclude (.task task) outcome).console.lineCount ∨
    ((verb = .cd ∨ verb = .pushd) ∧ ∃ path, arrival? (call.params.field "path") outcome = some path ∧
      s.conclude (.task task) outcome = { s with session := s.session.enter path }) ∨
    ∃ reply, outcome = .ok reply ∧ verb.FindsNothing reply

/-- There are more lines to be shown, unless the task is silent. -/
theorem lineCount_conclude_iff (s : Shell) (task : Task) (outcome : Outcome) :
    s.console.lineCount < (s.conclude (.task task) outcome).console.lineCount ↔ ¬ task.IsSilent outcome := by
  rw [conclude, lineCount_performAll, ← Task.output_conclude_eq_nil_iff s.console.style, ← List.length_eq_zero_iff]
  omega

/-- A folder that is found is entered, and that is all. -/
theorem exists_conclude_enter (s : Shell) {outcome : Outcome} (h : isRefusal outcome = false) (folder : String)
    (remembered : Bool) : ∃ path, arrival? folder outcome = some path ∧
      s.conclude (.task (.enter folder remembered)) outcome = { s with session := s.session.enter path } := by
  obtain ⟨path, hpath⟩ := Option.ne_none_iff_exists'.mp fun hnone =>
    absurd ((arrival?_eq_none_iff folder outcome).mp hnone) (by simp [h])
  obtain ⟨report, hconclude⟩ := Task.conclude_enter s.console.style folder remembered outcome
  refine ⟨path, hpath, ?_⟩
  simp only [conclude, hconclude, hpath]
  rfl

/-- What a command passes over is not reported. -/
theorem not_reports_of_passesOver (s : Shell) {verb : Verb} {call : Call} {task : Task} (h : verb.Makes call task)
    {outcome : Outcome} (hover : verb.PassesOver outcome) : ¬ s.Reports verb call task outcome := by
  rintro (hmore | ⟨hfolder, -⟩ | ⟨reply, rfl, hnothing⟩)
  · have hquiet := (task.isSilent_iff outcome verb h.mem_verbs).mpr (Or.inr (Or.inr hover))
    exact (s.lineCount_conclude_iff task outcome).mp hmore hquiet
  · rcases hfolder with rfl | rfl <;> exact hover
  · exact hover.not_findsNothing hnothing

/-- What a command does not pass over is reported. -/
theorem reports_of_not_passesOver (s : Shell) {verb : Verb} {call : Call} {task : Task} (h : verb.Makes call task)
    {outcome : Outcome} (hover : ¬ verb.PassesOver outcome) : s.Reports verb call task outcome := by
  by_cases hquiet : task.IsSilent outcome
  · refine Or.inr ?_
    rcases (task.isSilent_iff outcome verb h.mem_verbs).mp hquiet with ⟨hfolder, haccepted⟩ | hnothing | hpassed
    · obtain ⟨remembered, rfl⟩ := h.exists_enter hfolder
      exact Or.inl ⟨hfolder, s.exists_conclude_enter haccepted _ remembered⟩
    · exact Or.inr hnothing
    · exact absurd hpassed hover
  · exact Or.inl ((s.lineCount_conclude_iff task outcome).mpr hquiet)

/-- **Where every outcome is reported:** everywhere, but for what `mkuser` and `ucopy` pass over. -/
theorem reports_iff (s : Shell) {verb : Verb} {call : Call} {task : Task} (h : verb.Makes call task)
    (outcome : Outcome) : s.Reports verb call task outcome ↔ ¬ verb.PassesOver outcome :=
  ⟨fun hreports hover => s.not_reports_of_passesOver h hover hreports, s.reports_of_not_passesOver h⟩

/-- A `cd` that finds its folder is reported by the folder it has entered. -/
theorem reports_cd :
    let call : Call := { api := .file, op := "lookup", params := Json.ofMembers [("path", .str "/a")] }
    let reply := Json.ofMembers [("status", .int 1), ("path", .str "/a"), ("container", .bool true)]
    let s := Shell.new Commands.registry "/" "> " (Pager.new 24 true) { zone := 0 }
    Verb.cd.Makes call (.enter "/a" false) ∧ s.Reports .cd call (.enter "/a" false) (.ok reply) := by
  intro call reply s
  have hmakes : Verb.cd.Makes call (.enter "/a" false) :=
    ⟨s.surroundings, [("dir", .str "/a")], _, rfl, .call call (.enter "/a" false)⟩
  exact ⟨hmakes, (reports_iff s hmakes (.ok reply)).mpr id⟩

/-- `mkuser` says nothing about a list, and `ucopy` nothing about an object. -/
theorem not_reports_mkuser_ucopy :
    let create : Call :=
      { api := .user, op := "mkuser"
        params := Json.ofMembers
          [("username", .str "dave"), ("password", .str "pw"), ("email", .null), ("regcode", .null),
            ("group", .str "/g")] }
    let copy : Call :=
      { api := .group, op := "copyusers"
        params := Json.ofMembers
          [("dstgroup", .str "/d"), ("srcgroup", .str "/s"), ("users", Json.ofTexts ["bob"]), ("rename", .null)] }
    let s := Shell.new Commands.registry "/" "> " (Pager.new 24 true) { zone := 0 }
    (Verb.mkuser.Makes create .showUser ∧ ¬ s.Reports .mkuser create .showUser (.ok (.arr []))) ∧
      Verb.ucopy.Makes copy .reportCopied ∧
      ¬ s.Reports .ucopy copy .reportCopied (.ok (Json.ofMembers [("status", .int 1)])) := by
  intro create copy s
  have hcreate : Verb.mkuser.Makes create .showUser :=
    ⟨s.surroundings, [("group", .str "/g"), ("password", .str "pw"), ("username", .str "dave")], _, rfl,
      .call create .showUser⟩
  have hcopy : Verb.ucopy.Makes copy .reportCopied :=
    ⟨s.surroundings, [("dstgroup", .str "/d"), ("srcgroup", .str "/s"), ("users", .str "bob")], _, rfl,
      .call copy .reportCopied⟩
  exact ⟨⟨hcreate, s.not_reports_of_passesOver hcreate ⟨[], rfl⟩⟩,
    hcopy, s.not_reports_of_passesOver hcopy ⟨_, rfl, by decide⟩⟩

end Shell

end RemoteShell
