import RemoteShell.Proofs.Shell.WorkingFolder

/-!
# Attributes of groups

A line of `gattr` gives a group and any of its attributes, by name or in order. Three tables take part in what becomes of
an attribute: the arguments of the command, the attributes that are sent, and the members of the request that are left
out because they are nothing. The first two agree, name by name and kind by kind, and what is in a list is never left
out. So the request has one entry for each attribute on the line, in the order of the command and none besides, and an
attribute that is cleared is sent as nothing.

Main statements:

* `Commands.forall₂_isAttribute`: the two tables agree.
* `Plan.forall₂_attributes`: the entries of the attributes on a line.
* `Shell.submit_gattr`: what the line does.
-/

namespace RemoteShell

/-! ## The tables -/

/-- The kind of argument that gives an attribute. -/
def Plan.AttributeKind.valueKind : AttributeKind → ValueKind
  | .onOff => .boolean
  | .text => .string

/-- An argument that gives the attribute in a row of the table of attributes. -/
structure Argument.IsAttribute (a : Argument) (row : String × Plan.AttributeKind) : Prop where
  name : a.name = row.1
  kind : a.kind = row.2.valueKind
  single : a.isList = false

instance (a : Argument) (row : String × Plan.AttributeKind) : Decidable (a.IsAttribute row) :=
  decidable_of_iff (a.name = row.1 ∧ a.kind = row.2.valueKind ∧ a.isList = false)
    ⟨fun ⟨name, kind, single⟩ => ⟨name, kind, single⟩, fun ⟨name, kind, single⟩ => ⟨name, kind, single⟩⟩

namespace Commands

variable {c : Command} (hc : c ∈ registry.commands)

include hc

/-- **The arguments of `gattr` apart from the group are the attributes that are sent,** in the same order. -/
theorem forall₂_isAttribute (hverb : c.verb = .gattr) :
    List.Forall₂ Argument.IsAttribute (c.arguments.filter (·.name != "group")) Plan.groupAttributes := by
  have hall : ∀ c ∈ registry.commands, c.verb = .gattr →
      List.Forall₂ Argument.IsAttribute (c.arguments.filter (·.name != "group")) Plan.groupAttributes := by
    decide +kernel
  exact hall c hc hverb

theorem verb_of_name_gattr (hname : c.name = "gattr") : c.verb = .gattr := by
  have hall : ∀ c ∈ registry.commands, c.name = "gattr" → c.verb = .gattr := by
    decide +kernel
  exact hall c hc hname

/-- No two arguments of a command have one name. -/
theorem nodup_arguments : (c.arguments.map (·.name)).Nodup := by
  have hall : ∀ c ∈ registry.commands, (c.arguments.map (·.name)).Nodup := by
    decide +kernel
  exact hall c hc

end Commands

/-! ## Entries -/

/-- **What is sent for a bound value.** An empty text and `none` are sent as nothing. -/
inductive Value.IsSentAs : Value → Json → Prop
  | flag (flag : Bool) : IsSentAs (.bool flag) (.bool flag)
  | cleared {text : String} (h : text = "" ∨ text = "none") : IsSentAs (.str text) .null
  | text {text : String} (hempty : text ≠ "") (hnone : text ≠ "none") : IsSentAs (.str text) (.str text)

/-- The entry that is sent for an attribute which has a value. -/
def Argument.IsSentAs (args : Arguments) (a : Argument) (entry : Json) : Prop :=
  ∃ value sent, Dict.find? a.name args = some value ∧ value.IsSentAs sent ∧
    entry = .obj [("name", .str a.name), ("value", sent)]

/-- **The attributes on a line:** the arguments that have a value, apart from the group, in the order of the command. -/
def Invocation.attributes (i : Invocation) : List Argument :=
  (i.command.arguments.filter (·.name != "group")).filter fun a => Dict.contains a.name i.args

/-- **The request that sets the attributes on a line.** -/
structure Call.SetsAttributes (call : Call) (i : Invocation) : Prop where
  api : call.api = .group
  body : ∃ group entries, Dict.find? "group" i.args = some (.str group) ∧
    List.Forall₂ (Argument.IsSentAs i.args) i.attributes entries ∧
    call.body = .obj [("attrs", .arr entries), ("group", .str group), ("op", .str "gattr")]

namespace Plan

/-- An attribute that has no value is not sent. -/
theorem attributeValue?_of_find?_none {args : Arguments} {name : String} (h : Dict.find? name args = none)
    (kind : AttributeKind) : attributeValue? args name kind = none := by
  cases kind <;> simp [attributeValue?, Arguments.bool, Arguments.str, h]

/-- The value of an attribute is sent. -/
theorem exists_attributeValue? {args : Arguments} {a : Argument} {row : String × AttributeKind} (hrow : a.IsAttribute row)
    {value : Value} (hfind : Dict.find? a.name args = some value) (hholds : a.Holds value) :
    ∃ sent, attributeValue? args row.1 row.2 = some sent ∧ value.IsSentAs sent := by
  obtain ⟨name, kind⟩ := row
  obtain ⟨rfl, hkind, hsingle⟩ := hrow
  cases hholds with
  | list hlist => simp [hsingle] at hlist
  | single _ hadmits =>
      cases kind with
      | onOff =>
          cases hadmits with
          | @flag flag => exact ⟨.bool flag, by simp [attributeValue?, Arguments.bool, hfind], .flag flag⟩
          | _ => simp_all [AttributeKind.valueKind]
      | text =>
          cases hadmits with
          | @text text =>
              have hvalue : attributeValue? args a.name .text =
                  some (if text == "" || text == "none" then .null else .str text) := by
                simp [attributeValue?, Arguments.str, hfind, Value.str?]
              by_cases hcleared : text = "" ∨ text = "none"
              · exact ⟨.null, by simpa [hcleared] using hvalue, .cleared hcleared⟩
              · obtain ⟨hempty, hnone⟩ := not_or.mp hcleared
                exact ⟨.str text, by simpa [hempty, hnone] using hvalue, .text hempty hnone⟩
          | _ => simp_all [AttributeKind.valueKind]

/-- **The entries of the attributes on a line,** for arguments and a table that agree. -/
theorem forall₂_attributes {args : Arguments} {arguments : List Argument} {table : List (String × AttributeKind)}
    (h : List.Forall₂ Argument.IsAttribute arguments table)
    (hholds : ∀ a ∈ arguments, ∀ value, Dict.find? a.name args = some value → a.Holds value) :
    List.Forall₂ (Argument.IsSentAs args) (arguments.filter fun a => Dict.contains a.name args)
      (table.filterMap fun (name, kind) =>
        (attributeValue? args name kind).map fun value => Json.ofMembers [("name", .str name), ("value", value)]) := by
  induction h with
  | nil => exact .nil
  | @cons a row arguments table hrow _ ih =>
      obtain ⟨hfirst, hrest⟩ := List.forall_mem_cons.mp hholds
      cases hfind : Dict.find? a.name args with
      | none =>
          have hnone : attributeValue? args row.1 row.2 = none :=
            attributeValue?_of_find?_none (hrow.name ▸ hfind) row.2
          simpa [Dict.contains, hfind, hnone] using ih hrest
      | some value =>
          obtain ⟨sent, hsent, hvalue⟩ := exists_attributeValue? hrow hfind (hfirst value hfind)
          have hentry : a.IsSentAs args (Json.ofMembers [("name", .str row.1), ("value", sent)]) := by
            refine ⟨value, sent, hfind, hvalue, ?_⟩
            rw [hrow.name]
            rfl
          simpa [Dict.contains, hfind, hsent] using List.Forall₂.cons hentry (ih hrest)

end Plan

/-! ## Lines -/

namespace Invocation

variable {i : Invocation} {tokens : List Token} {cwd : String} (hcommand : i.command ∈ Commands.registry.commands)
  (hverb : i.command.verb = .gattr) (hbind : i.command.bind tokens cwd = .ok i.args)

include hcommand hverb hbind

/-- **The entries of the attributes on a line.** -/
theorem forall₂_attributes : List.Forall₂ (Argument.IsSentAs i.args) i.attributes (Plan.attributes i.args) := by
  have hbinds := (Command.binds_of_bind hbind).1
  have hnodup := Commands.nodup_arguments hcommand
  refine Plan.forall₂_attributes (Commands.forall₂_isAttribute hcommand hverb) ?_
  intro a ha value hfind
  exact hbinds.holds_of_find? hnodup (List.mem_of_mem_filter ha) hfind

/-- The group on the line. -/
theorem find?_group : Dict.find? "group" i.args = some (.str (Plan.groupOf i.args)) := by
  have hpaths := Command.hasNormalPaths_of_bind hcommand hbind
  rw [hverb] at hpaths
  obtain ⟨value, hfind⟩ := Option.isSome_iff_exists.mp (hpaths.group rfl)
  obtain ⟨path, rfl, -⟩ := hpaths.normal "group" (Commands.mem_pathNames_iff.mpr (by decide)) value hfind
  simp [Plan.groupOf, Arguments.str, hfind, Value.str?]

/-- **The call for some attributes sets them.** Nothing is left out of the list of entries. -/
theorem setsAttributes : Call.SetsAttributes
    { api := .group, op := "gattr",
      params := Json.ofMembers [("group", .str (Plan.groupOf i.args)), ("attrs", .arr (Plan.attributes i.args))] } i := by
  refine ⟨rfl, _, _, find?_group hcommand hverb hbind, forall₂_attributes hcommand hverb hbind, ?_⟩
  generalize Plan.groupOf i.args = group, Plan.attributes i.args = entries
  calc
    _ = Json.prune (.obj [("attrs", .arr entries), ("group", .str group), ("op", .str "gattr")]) := rfl
    _ = .obj [("attrs", .arr entries), ("group", .str group), ("op", .str "gattr")] := by
      simp [Json.prune, Json.pruneMembers, Json.isNull]

end Invocation

namespace Shell

variable {s : Shell} {line : String} {i : Invocation}

/-- **A line of `gattr` sends exactly what it sets.** If it gives no attribute, nothing is left to be done. Otherwise it
leaves one call, with one entry for each attribute that it gives. -/
theorem submit_gattr (hregistry : s.registry = Commands.registry) (hmode : s.inputMode = .command)
    (hread : parseLine s.registry line s.session.cwd = .ok (some i)) (hname : i.command.name = "gattr") :
    (s.submit line).waiting = s.waiting ∧ ((s.submit line).ready = s.ready ↔ i.attributes = []) ∧
      (i.attributes ≠ [] → ∃ call task,
        (s.submit line).ready = s.ready ++ [.call call (.task task)] ∧ call.SetsAttributes i) := by
  rw [hregistry] at hread
  obtain ⟨hcommand, tokens, hbind⟩ := bind_of_parseLine hread
  have hverb := Commands.verb_of_name_gattr hcommand hname
  have hplan : planOf s.surroundings line = Plan.setAttributes i.args := by
    simp only [planOf, surroundings, hregistry, hread, hverb, Plan.ofVerb]
  have hready : (s.submit line).ready =
      s.ready ++ (Plan.setAttributes i.args).work.toList.map (Work.job s.console.reader.asked) := by
    rw [submit_of_command hmode, hplan]
  have hwaiting : (s.submit line).waiting = s.waiting := by
    rw [submit_of_command hmode]
  have hentries := Invocation.forall₂_attributes hcommand hverb hbind
  refine ⟨hwaiting, ?_⟩
  rw [hready, Plan.setAttributes]
  by_cases hempty : Plan.attributes i.args = []
  · rw [hempty] at hentries
    simp [hempty, List.forall₂_nil_right_iff.mp hentries, Plan.now]
  · have hsome : i.attributes ≠ [] := by
      intro hnone
      rw [hnone] at hentries
      exact hempty (List.forall₂_nil_left_iff.mp hentries)
    rw [if_neg (by simpa using hempty)]
    refine ⟨by simp [hsome, Plan.ask], fun _ => ⟨_, _, rfl, ?_⟩⟩
    exact Invocation.setsAttributes hcommand hverb hbind

/-- Four attributes that are given in another order than they are sent in. Two of them are cleared, by `none` and by an
empty text. -/
theorem submit_gattr_cleared :
    let s := Shell.new Commands.registry "/home/alice" "> " (Pager.new 24 true) { zone := 0 }
    let line := "gattr /g regKey=K9 home=\"\" guest=none login=yes"
    let i : Invocation :=
      { command := Commands.groups[10]
        args := [("group", .str "/g"), ("guest", .str "none"), ("home", .str ""), ("login", .bool true),
          ("regKey", .str "K9")] }
    (s.registry = Commands.registry ∧ s.inputMode = .command ∧
        parseLine s.registry line s.session.cwd = .ok (some i) ∧ i.command.name = "gattr") ∧
      i.attributes.map (·.name) = ["login", "guest", "home", "regKey"] ∧
      ∃ call task, (s.submit line).ready = [.call call (.task task)] ∧ call.SetsAttributes i := by
  intro s line i
  have hread : parseLine s.registry line s.session.cwd = .ok (some i) := by decide +kernel
  have hattributes : i.attributes.map (·.name) = ["login", "guest", "home", "regKey"] := by decide +kernel
  have hsome : i.attributes ≠ [] := by
    intro hnone
    simp [hnone] at hattributes
  exact ⟨⟨rfl, rfl, hread, rfl⟩, hattributes, (submit_gattr rfl rfl hread rfl).2.2 hsome⟩

end Shell

end RemoteShell
