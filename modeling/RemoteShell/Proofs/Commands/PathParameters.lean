import RemoteShell.Proofs.Binding.Result
import RemoteShell.Proofs.Service.RequestBody
import RemoteShell.Proofs.Shell.FolderLine

/-!
# Paths that commands send

A path that is typed is resolved when the line is bound, against the working folder of that moment. Commands send such a
path under the name of its argument, `cd` and `pushd` under `path`, and a path that may be left out is replaced by the
working folder or the home folder. Nothing else is sent under one of these names. So if the folders of the session are in
normal form, every path that is sent is.

Main statements:

* `Command.hasNormalPaths_of_bind`: what the paths of a command of the table are bound to.
* `Plan.hasNormalPaths_ofVerb`: what a command leaves.
* `Call.sendsNormalPaths`: a call without other parameters under these names sends paths in normal form.
-/

namespace RemoteShell

/-! ## The table -/

namespace Commands

/-- The names of all arguments that are paths. -/
def pathNames : List String :=
  ((registry.commands.flatMap (·.arguments)).filter (·.isFile)).map (·.name)

/-- The names of all arguments that are paths, one by one. -/
theorem mem_pathNames_iff {name : String} :
    name ∈ pathNames ↔
      name ∈ ["dir", "path", "srcpath", "dstpath", "owner", "policy", "group", "dstgroup", "srcgroup", "mailer"] := by
  constructor
  · have hsubset : ∀ name ∈ pathNames,
        name ∈ ["dir", "path", "srcpath", "dstpath", "owner", "policy", "group", "dstgroup", "srcgroup", "mailer"] := by
      decide +kernel
    exact hsubset name
  · have hsubset : ∀ name ∈
        ["dir", "path", "srcpath", "dstpath", "owner", "policy", "group", "dstgroup", "srcgroup", "mailer"],
        name ∈ pathNames := by
      decide +kernel
    exact hsubset name

/-- An argument with such a name is a path, in every command. -/
theorem isFile_of_mem_pathNames {c : Command} (hc : c ∈ registry.commands) {a : Argument} (ha : a ∈ c.arguments)
    (hname : a.name ∈ pathNames) : a.kind = .string ∧ a.isFile = true ∧ a.isList = false := by
  have hall : ∀ c ∈ registry.commands, ∀ a ∈ c.arguments, a.name ∈ pathNames →
      a.kind = .string ∧ a.isFile = true ∧ a.isList = false := by
    decide +kernel
  exact hall c hc a ha hname

end Commands

/-- Whether a command sends a group that has to be given. -/
def Verb.sendsGroup : Verb → Bool
  | .mkgroup | .groups | .groupsUnder | .users | .usersUnder | .adduser | .rmuser | .gattr | .rmgroup
  | .rmgroupUnder => true
  | _ => false

/-- A command that sends a group cannot do without it. -/
theorem Commands.exists_group {c : Command} (hc : c ∈ registry.commands) (hgroup : c.verb.sendsGroup = true) :
    ∃ a ∈ c.arguments, a.name = "group" ∧ a.isOptional = false := by
  have hall : ∀ c ∈ registry.commands, c.verb.sendsGroup = true →
      ∃ a ∈ c.arguments, a.name = "group" ∧ a.isOptional = false := by
    decide +kernel
  exact hall c hc hgroup

/-! ## Bound paths -/

/-- **What a command relies on** when it sends paths: those that are bound are in normal form, and the group is given. -/
structure Arguments.HasNormalPaths (verb : Verb) (args : Arguments) : Prop where
  normal : ∀ name ∈ Commands.pathNames, ∀ value, Dict.find? name args = some value →
    ∃ path, value = .str path ∧ Path.IsNormal path
  group : verb.sendsGroup = true → (Dict.find? "group" args).isSome = true

/-- **The paths that a command of the table is bound to are in normal form.** -/
theorem Command.hasNormalPaths_of_bind {c : Command} (hc : c ∈ Commands.registry.commands) {tokens : List Token}
    {cwd : String} {args : Arguments} (h : c.bind tokens cwd = .ok args) : args.HasNormalPaths c.verb := by
  obtain ⟨hbinds, hmissing⟩ := Command.binds_of_bind h
  constructor
  · intro name hname value hfind
    obtain ⟨a, ha, rfl, hholds⟩ := hbinds.holds name value hfind
    obtain ⟨hkind, hfile, hlist⟩ := Commands.isFile_of_mem_pathNames hc ha hname
    cases hholds with
    | list hmany => simp [hlist] at hmany
    | single _ hadmits =>
        cases hadmits with
        | text _ hnormal => exact ⟨_, rfl, hnormal hfile⟩
        | _ => simp_all
  · intro hgroup
    obtain ⟨a, ha, hname, hneeded⟩ := Commands.exists_group hc hgroup
    have hbound := List.find?_eq_none.mp hmissing a ha
    rw [hname] at hbound
    exact Option.isSome_iff_ne_none.mpr (by simpa [hneeded, Dict.contains] using hbound)

section

variable {verb : Verb} {args : Arguments} (h : args.HasNormalPaths verb)

include h

theorem Arguments.HasNormalPaths.str {name path : String} (hname : name ∈ Commands.pathNames)
    (hpath : args.str name = some path) : Path.IsNormal path := by
  obtain ⟨value, hfind, hvalue⟩ := Option.bind_eq_some_iff.mp hpath
  obtain ⟨other, rfl, hnormal⟩ := h.normal name hname value hfind
  obtain rfl : other = path := Option.some.inj hvalue
  exact hnormal

/-- A path that is not given is replaced by another one. -/
theorem Arguments.HasNormalPaths.getD {name : String} (hname : name ∈ Commands.pathNames) {other : String}
    (hother : Path.IsNormal other) : Path.IsNormal ((args.str name).getD other) := by
  cases hpath : args.str name with
  | none => exact hother
  | some path => exact h.str hname hpath

theorem Arguments.HasNormalPaths.groupOf (hgroup : verb.sendsGroup = true) : Path.IsNormal (Plan.groupOf args) := by
  obtain ⟨value, hfind⟩ := Option.isSome_iff_exists.mp (h.group hgroup)
  have hname : "group" ∈ Commands.pathNames := Commands.mem_pathNames_iff.mpr (by decide)
  obtain ⟨path, rfl, hnormal⟩ := h.normal "group" hname value hfind
  simpa [Plan.groupOf, Arguments.str, hfind, Value.str?] using hnormal

end

/-! ## Parameters -/

/-- A parameter that is left out, or a path in normal form. -/
def Json.IsNormalPath (value : Json) : Prop :=
  value = .null ∨ ∃ path, value = .str path ∧ Path.IsNormal path

/-- **Parameters under the names of paths are paths in normal form,** or are left out. -/
def HaveNormalPaths (params : List (String × Json)) : Prop :=
  ∀ param ∈ params, param.1 ∈ Commands.pathNames → param.2.IsNormalPath

/-- **All paths that a call sends are in normal form.** -/
def Call.SendsNormalPaths (call : Call) : Prop :=
  ∀ name ∈ Commands.pathNames, ∀ value, call.body.get? name = some value → ∃ path, value = .str path ∧ Path.IsNormal path

/-- **A call sends its parameters,** so the paths it sends are in normal form if they are. -/
theorem Call.sendsNormalPaths {params : List (String × Json)} (h : HaveNormalPaths params) (api : Api) (op : String) :
    Call.SendsNormalPaths { api, op, params := Json.ofMembers params } := by
  intro name hname value hvalue
  have hmem : (name, value) ∈ Json.pruneMembers (Dict.insert "op" (.str op) (Dict.ofList params)) := by
    apply Dict.mem_of_find?
    simpa [Call.body, Json.requestBody, Json.ofMembers, Json.paramMembers, Json.prune, Json.get?] using hvalue
  obtain ⟨given, hgiven, hnull, rfl⟩ := Json.mem_pruneMembers hmem
  rcases Dict.mem_insert hgiven with heq | hgiven
  · -- No path is called like the member for the operation.
    obtain ⟨rfl, -⟩ := Prod.mk.inj heq
    rw [Commands.mem_pathNames_iff] at hname
    simp at hname
  · rcases h _ (Dict.mem_ofList hgiven) hname with rfl | ⟨path, rfl, hnormal⟩
    · simp [Json.isNull] at hnull
    · exact ⟨path, by simp [Json.prune], hnormal⟩

namespace HaveNormalPaths

theorem nil : HaveNormalPaths [] := by
  simp [HaveNormalPaths]

theorem cons {param : String × Json} {rest : List (String × Json)}
    (hparam : param.1 ∈ Commands.pathNames → param.2.IsNormalPath) (hrest : HaveNormalPaths rest) :
    HaveNormalPaths (param :: rest) := by
  intro other hmem
  rcases List.mem_cons.mp hmem with rfl | hmem
  · exact hparam
  · exact hrest other hmem

/-- A parameter that is not called like a path. -/
theorem other {key : String} {value : Json} {rest : List (String × Json)}
    (hkey : key ∉ ["dir", "path", "srcpath", "dstpath", "owner", "policy", "group", "dstgroup", "srcgroup", "mailer"])
    (hrest : HaveNormalPaths rest) : HaveNormalPaths ((key, value) :: rest) :=
  cons (fun hname => absurd (Commands.mem_pathNames_iff.mp hname) hkey) hrest

/-- A path. -/
theorem path {key path : String} {rest : List (String × Json)} (hpath : Path.IsNormal path)
    (hrest : HaveNormalPaths rest) : HaveNormalPaths ((key, .str path) :: rest) :=
  cons (fun _ => Or.inr ⟨path, rfl, hpath⟩) hrest

/-- An argument under its own name. -/
theorem argument {verb : Verb} {args : Arguments} (h : args.HasNormalPaths verb) {name : String}
    {rest : List (String × Json)} (hrest : HaveNormalPaths rest) :
    HaveNormalPaths ((name, Plan.textParam args name) :: rest) := by
  refine cons (fun hname => ?_) hrest
  cases hpath : args.str name with
  | none => exact Or.inl (by simp [Plan.textParam, hpath, Json.ofText?])
  | some path => exact Or.inr ⟨path, by simp [Plan.textParam, hpath, Json.ofText?], h.str hname hpath⟩

end HaveNormalPaths

/-! ## Commands -/

/-- The call that looks a file up. -/
def Call.IsLookup (call : Call) : Prop :=
  call.api = .file ∧ call.op = "lookup"

/-- **A call with its task.** The paths that are sent are in normal form, and the way into a folder is a look-up of a path
in normal form. -/
structure Call.HasNormalPaths (call : Call) (task : Task) : Prop where
  sends : call.SendsNormalPaths
  enters : ∀ folder remembered, task = .enter folder remembered → Path.IsNormal folder ∧ call.IsLookup

/-- **What a command leaves, with paths in normal form.** -/
def Work.HasNormalPaths : Work → Prop
  | .call asked task => asked.HasNormalPaths task
  | .letter begun => ∀ path ∈ begun.mailer, Path.IsNormal path

/-- **The folders of a session are in normal form.** -/
structure Session.HasNormalFolders (session : Session) : Prop where
  cwd : Path.IsNormal session.cwd
  home : Path.IsNormal session.home
  remembered : ∀ folder ∈ session.remembered, Path.IsNormal folder

namespace Plan

theorem hasNormalPaths_now (effects : List Effect) : ∀ work ∈ (now effects).work, work.HasNormalPaths := by
  simp [now]

/-- A call that is not on the way to a folder. -/
theorem hasNormalPaths_ask {params : List (String × Json)} (h : HaveNormalPaths params) {task : Task}
    (htask : ∀ folder remembered, task ≠ .enter folder remembered) (api : Api) (op : String) :
    ∀ work ∈ (ask api op params task).work, work.HasNormalPaths := by
  intro work hwork
  obtain rfl := Option.some.inj hwork
  exact ⟨Call.sendsNormalPaths h api op, fun folder remembered heq => absurd heq (htask folder remembered)⟩

theorem hasNormalPaths_enter {session : Session} (hsession : session.HasNormalFolders) {verb : Verb} {args : Arguments}
    (h : args.HasNormalPaths verb) (remember : Bool) :
    ∀ work ∈ (enter session args remember).work, work.HasNormalPaths := by
  intro work hwork
  obtain rfl := Option.some.inj hwork
  have hname : "dir" ∈ Commands.pathNames := Commands.mem_pathNames_iff.mpr (by decide)
  have hfolder := h.getD hname hsession.home
  refine ⟨Call.sendsNormalPaths (.path hfolder .nil) .file "lookup", ?_⟩
  intro folder remembered heq
  obtain ⟨rfl, -⟩ := Task.enter.inj heq
  exact ⟨hfolder, rfl, rfl⟩

theorem hasNormalPaths_lookup {verb : Verb} {args : Arguments} (h : args.HasNormalPaths verb) :
    ∀ work ∈ (lookup args).work, work.HasNormalPaths := by
  unfold lookup
  split
  · exact hasNormalPaths_ask (.other (by decide) .nil) (by simp) _ _
  · next path _ hpath =>
      have hname : "path" ∈ Commands.pathNames := Commands.mem_pathNames_iff.mpr (by decide)
      exact hasNormalPaths_ask (.path (h.str hname hpath) .nil) (by simp) _ _
  · exact hasNormalPaths_now _

/-- **What a command leaves has paths in normal form,** if its arguments have and the folders of the session are. -/
theorem hasNormalPaths_ofVerb {around : Surroundings} (hsession : around.session.HasNormalFolders) {args : Arguments}
    {verb : Verb} (h : args.HasNormalPaths verb) : ∀ work ∈ (ofVerb around args verb).work, work.HasNormalPaths := by
  have hpath : "path" ∈ Commands.pathNames := Commands.mem_pathNames_iff.mpr (by decide)
  have hmailer : "mailer" ∈ Commands.pathNames := Commands.mem_pathNames_iff.mpr (by decide)
  cases verb with
  | help | exit | popd | pwd | dirs | pager => exact hasNormalPaths_now _
  | idle => simp [ofVerb]
  | cd => exact hasNormalPaths_enter hsession h false
  | pushd => exact hasNormalPaths_enter hsession h true
  | who =>
      have hwho : Path.IsNormal "/lua/who.lua" := by
        have hsame : Path.resolve "/" "/lua/who.lua" = "/lua/who.lua" := by decide +kernel
        exact hsame ▸ Path.isNormal_resolve "/" "/lua/who.lua"
      exact hasNormalPaths_ask (.path hwho (.other (by decide) (.other (by decide) .nil))) (by simp) _ _
  | ls =>
      exact hasNormalPaths_ask (.path (h.getD hpath hsession.cwd) (.other (by decide) .nil)) (by simp) _ _
  | lookup => exact hasNormalPaths_lookup h
  | mkdir | rm => exact hasNormalPaths_ask (.argument h (.other (by decide) .nil)) (by simp) _ _
  | link | mv => exact hasNormalPaths_ask (.argument h (.argument h (.other (by decide) .nil))) (by simp) _ _
  | chown | setmt | share | unshare | gmove =>
      exact hasNormalPaths_ask (.argument h (.argument h .nil)) (by simp) _ _
  | lspolicy => exact hasNormalPaths_ask (.argument h .nil) (by simp) _ _
  | pshare =>
      simp only [ofVerb, addPathPolicy]
      split
      · exact hasNormalPaths_ask (.argument h (.other (by decide) (.argument h (.argument h .nil)))) (by simp) _ _
      · exact hasNormalPaths_now _
  | punshare => exact hasNormalPaths_ask (.other (by decide) .nil) (by simp) _ _
  | pplist => exact hasNormalPaths_ask .nil (by simp) _ _
  | mkgroup | groups | groupsUnder | users | usersUnder | adduser | rmuser | rmgroup | rmgroupUnder =>
      exact hasNormalPaths_ask (.path (h.groupOf rfl) (.other (by decide) .nil)) (by simp) _ _
  | gattr =>
      simp only [ofVerb, setAttributes]
      split
      · exact hasNormalPaths_now _
      · exact hasNormalPaths_ask (.path (h.groupOf rfl) (.other (by decide) .nil)) (by simp) _ _
  | mkuser =>
      exact hasNormalPaths_ask
        (.argument h (.argument h (.argument h (.argument h (.argument h .nil))))) (by simp) _ _
  | ucopy =>
      exact hasNormalPaths_ask
        (.argument h (.argument h (.other (by decide) (.other (by decide) .nil)))) (by simp) _ _
  | mkmailer => exact hasNormalPaths_ask (.argument h (.other (by decide) .nil)) (by simp) _ _
  | mail =>
      intro work hwork
      obtain rfl := Option.some.inj hwork
      exact fun path hmem => h.str hmailer hmem

end Plan

end RemoteShell
