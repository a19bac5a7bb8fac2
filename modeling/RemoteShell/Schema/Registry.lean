import RemoteShell.Schema.Basic

/-!
# The table of commands

A registry is built once from declared commands and never changes. A command with further names gets one entry for each
of them, and all entries are in strictly increasing order by name. Two things are asked of every declaration: its
arguments have different names, and no argument that is only given in order stands behind one that may be left out
while being needed itself.

Main statements:

* `Command.checkArguments_eq_ok_iff`: which arguments pass.
* `Registry.name_of_lookup`: the entry found under a name has that name.
* `Registry.mem_namesWithPrefix_iff`: which names are offered for a beginning.
-/

namespace RemoteShell

/-- Why a table of commands is refused. -/
inductive DefinitionError where
  | duplicateCommand (name : String)
  | duplicateArgument (command argument : String)
  | requiredAfterOptional (command argument : String)
deriving DecidableEq, Repr

/-- What is reported about a refused table. -/
def DefinitionError.message : DefinitionError → String
  | .duplicateCommand name => "command '" ++ name ++ "' is registered twice"
  | .duplicateArgument command argument =>
    "command '" ++ command ++ "' declares argument '" ++ argument ++ "' twice"
  | .requiredAfterOptional command argument =>
    "command '" ++ command ++ "': required argument '" ++ argument ++ "' follows an optional argument"

/-- Whether an argument may be declared behind another. One that is needed and given in order may not stand behind one
that may be left out. -/
def Argument.MayFollow (b a : Argument) : Prop :=
  a.isOptional = true → b.isOptional = true ∨ b.isKeywordOnly = true

namespace Command

/-- Checks the arguments from left to right, given the names of those passed and whether one of them may be left
out. -/
def checkArguments (command : String) (seen : List String) (optionalSeen : Bool) :
    List Argument → Except DefinitionError Unit
  | [] => .ok ()
  | a :: rest =>
    if seen.contains a.name then .error (.duplicateArgument command a.name)
    else if !a.isOptional && optionalSeen && !a.isKeywordOnly then .error (.requiredAfterOptional command a.name)
    else checkArguments command (a.name :: seen) (optionalSeen || a.isOptional) rest

/-- Checks a declaration. -/
def check (c : Command) : Except DefinitionError Unit :=
  checkArguments c.name [] false c.arguments

/-- **Which arguments pass:** their names are different ones that were not seen before, and each may follow those before
it. -/
theorem checkArguments_eq_ok_iff {command : String} {seen : List String} {optionalSeen : Bool}
    {arguments : List Argument} :
    checkArguments command seen optionalSeen arguments = .ok () ↔
      ((arguments.map (·.name)).Nodup ∧ ∀ a ∈ arguments, a.name ∉ seen) ∧
        (arguments.Pairwise fun a b => b.MayFollow a) ∧
          (optionalSeen = true → ∀ a ∈ arguments, a.isOptional = true ∨ a.isKeywordOnly = true) := by
  induction arguments generalizing seen optionalSeen with
  | nil => simp [checkArguments]
  | cons a rest ih =>
    unfold checkArguments
    have hnames : (∀ b ∈ rest, b.name ∉ a.name :: seen) ↔
        a.name ∉ rest.map (·.name) ∧ ∀ b ∈ rest, b.name ∉ seen := by
      simp only [List.mem_cons, List.mem_map]
      grind
    have hfollow : (∀ b ∈ rest, b.MayFollow a) ↔
        (a.isOptional = true → ∀ b ∈ rest, b.isOptional = true ∨ b.isKeywordOnly = true) :=
      ⟨fun h hoptional b hb => h b hb hoptional, fun h b hb hoptional => h hoptional b hb⟩
    by_cases hseen : a.name ∈ seen
    · simp [hseen]
    · by_cases hlate : (!a.isOptional && optionalSeen && !a.isKeywordOnly) = true
      · simp only [List.contains_iff_mem, hseen, if_false, hlate, if_true, List.forall_mem_cons, reduceCtorEq,
          false_iff]
        grind
      · rw [if_neg (by simpa using hseen), if_neg hlate, ih, hnames, List.map_cons, List.nodup_cons, List.pairwise_cons,
          hfollow, List.forall_mem_cons, List.forall_mem_cons]
        grind

/-- **The arguments of a declaration that passes have different names.** -/
theorem nodup_of_check {c : Command} (h : c.check = .ok ()) : (c.arguments.map (·.name)).Nodup :=
  (checkArguments_eq_ok_iff.mp h).1.1

/-- The entries of a declared command: one under each further name, then the command itself. -/
def entries (c : Command) : List Command :=
  c.aliases.map (fun name => { c with name, aliases := [c.name] }) ++ [c]

end Command

/-- The table of commands, by increasing name. -/
structure Registry where
  commands : List Command
deriving DecidableEq, Repr

namespace Registry

/-- Puts an entry behind those whose name is not greater. -/
def insertByName (c : Command) : List Command → List Command
  | [] => [c]
  | d :: rest => if c.name < d.name then c :: d :: rest else d :: insertByName c rest

/-- Entries by name; entries of one name keep their order. -/
def sortByName (entries : List Command) : List Command :=
  entries.foldl (fun sorted c => insertByName c sorted) []

/-- The first name that two neighbours share. -/
def repeatedName? : List Command → Option String
  | c :: d :: rest => if c.name = d.name then some c.name else repeatedName? (d :: rest)
  | _ => none

/-- Builds the table. Declarations are checked in order, and only then are names compared. -/
def build (declared : List Command) : Except DefinitionError Registry := do
  let entries := declared.flatMap Command.entries
  entries.forM Command.check
  let sorted := sortByName entries
  match repeatedName? sorted with
  | some name => .error (.duplicateCommand name)
  | none => .ok { commands := sorted }

/-- Looks for a name in entries that are in the order of their names: as long as there are several, in the half where it
has to be. -/
def searchByName (name : String) (entries : List Command) : Option Command :=
  if h : 2 ≤ entries.length then
    let half := entries.length / 2
    if name < entries[half].name then searchByName name (entries.take (entries.length - half))
    else searchByName name (entries.drop half)
  else entries.head?.filter (·.name == name)
termination_by entries.length

/-- The entry under a name. -/
def lookup (r : Registry) (name : String) : Option Command :=
  searchByName name r.commands

/-- All names, in order. -/
def names (r : Registry) : List String :=
  r.commands.map (·.name)

/-- The names with a beginning, in order. -/
def namesWithPrefix (r : Registry) (start : String) : List String :=
  r.names.filter fun name => start.toList.isPrefixOf name.toList

/-- What is found under a name is one of the entries, and has that name. -/
theorem of_searchByName {name : String} {entries : List Command} {c : Command}
    (h : searchByName name entries = some c) : c ∈ entries ∧ c.name = name := by
  fun_induction searchByName name entries with
  | case1 entries hlen half hless ih =>
    obtain ⟨hmem, hname⟩ := ih h
    exact ⟨List.mem_of_mem_take hmem, hname⟩
  | case2 entries hlen half hless ih =>
    obtain ⟨hmem, hname⟩ := ih h
    exact ⟨List.mem_of_mem_drop hmem, hname⟩
  | case3 entries hlen =>
    obtain ⟨hhead, hname⟩ := Option.filter_eq_some_iff.mp h
    exact ⟨List.mem_of_mem_head? hhead, by simpa using hname⟩

/-- The entry found under a name has that name. -/
theorem name_of_lookup {r : Registry} {name : String} {c : Command} (h : r.lookup name = some c) : c.name = name :=
  (of_searchByName h).2

/-- The entry found under a name is an entry of the table. -/
theorem mem_of_lookup {r : Registry} {name : String} {c : Command} (h : r.lookup name = some c) : c ∈ r.commands :=
  (of_searchByName h).1

/-- Which names are offered for a beginning. -/
theorem mem_namesWithPrefix_iff {r : Registry} {start name : String} :
    name ∈ r.namesWithPrefix start ↔ name ∈ r.names ∧ start.toList <+: name.toList := by
  simp [namesWithPrefix, List.mem_filter, List.isPrefixOf_iff_prefix]

end Registry

end RemoteShell
