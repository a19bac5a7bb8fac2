/-!
# Commands and their arguments

A command is declared by its name, its help and an ordered list of arguments; the order is the order in which values
are taken when they are not given by name. What the command does is one of the verbs below.

Main statements:

* `Command.position?_lt`: the position of an argument lies within the list.
* `Command.name_of_find?`: an argument found under a name has that name.
* `Command.find?_of_mem`: where all names are different, every argument is found under its own.
-/

namespace RemoteShell

/-- How the text of a token becomes a value. -/
inductive ValueKind where
  /-- The text as it is; a path of the service if the argument is marked so. -/
  | string
  /-- A word for yes or for no. -/
  | boolean
  /-- A signed number of sixty-four bits. -/
  | integer
  /-- The name of the argument itself, or an unambiguous beginning of it. -/
  | literal
  /-- A key and a value around a colon. -/
  | pair
deriving DecidableEq, Repr

/-- One argument of a command. -/
structure Argument where
  name : String
  kind : ValueKind
  /-- What completion calls the argument; without it, its name. -/
  hint : Option String := none
  /-- The argument may be left out. -/
  isOptional : Bool := false
  /-- The value is a path of the service. -/
  isFile : Bool := false
  /-- Only folders are offered for the path. -/
  isContainer : Bool := false
  /-- The argument takes any number of values, in brackets. -/
  isList : Bool := false
  /-- The argument is only ever given by name. -/
  isKeywordOnly : Bool := false
deriving DecidableEq, Repr

namespace Argument

/-- What completion calls the argument. -/
def hintText (a : Argument) : String :=
  a.hint.getD a.name

/-- The same argument, called `hint` by completion. -/
def hinted (a : Argument) (hint : String) : Argument :=
  { a with hint := some hint }

/-- The same argument, free to be left out. -/
def optional (a : Argument) : Argument :=
  { a with isOptional := true }

/-- The same argument, taking a list of values. -/
def list (a : Argument) : Argument :=
  { a with isList := true }

/-- The same argument, given by name only. -/
def keywordOnly (a : Argument) : Argument :=
  { a with isKeywordOnly := true }

/-- The same argument, for folders only. -/
def container (a : Argument) : Argument :=
  { a with isContainer := true }

/-- An argument that is a path of the service. -/
def path (name hint : String) : Argument :=
  { name, kind := .string, hint := some hint, isFile := true }

/-- An argument that is a text. -/
def text (name : String) : Argument :=
  { name, kind := .string }

/-- An argument that is yes or no. -/
def yesNo (name : String) : Argument :=
  { name, kind := .boolean }

/-- An argument that is a number. -/
def number (name : String) : Argument :=
  { name, kind := .integer }

/-- An argument that is given by writing its own name. -/
def literal (name : String) : Argument :=
  { name, kind := .literal }

/-- An argument that is a key and a value. -/
def keyValue (name : String) : Argument :=
  { name, kind := .pair }

end Argument

/-- Of items with different keys, one is known by its key. -/
theorem eq_of_nodup_map {α β : Type} {key : α → β} {items : List α} (h : (items.map key).Nodup) {a b : α}
    (ha : a ∈ items) (hb : b ∈ items) (hkey : key a = key b) : a = b := by
  induction items with
  | nil => simp at ha
  | cons first rest ih =>
    obtain ⟨hfirst, hrest⟩ := List.nodup_cons.mp h
    have hother : ∀ c ∈ rest, key c ≠ key first := by
      intro c hc heq
      exact hfirst (List.mem_map.mpr ⟨c, hc, heq⟩)
    rcases List.mem_cons.mp ha with hfirstA | hrestA
    · rcases List.mem_cons.mp hb with hfirstB | hrestB
      · rw [hfirstA, hfirstB]
      · exact absurd (hfirstA ▸ hkey.symm) (hother b hrestB)
    · rcases List.mem_cons.mp hb with hfirstB | hrestB
      · exact absurd (hfirstB ▸ hkey) (hother a hrestA)
      · exact ih hrest hrestA hrestB

/-- What a command does. -/
inductive Verb where
  | help | exit | cd | pushd | popd | pwd | dirs | pager | who
  | ls | lookup | mkdir | rm | link | mv | chown | setmt
  | lspolicy | share | unshare | pshare | punshare | pplist
  | mkgroup | groups | groupsUnder | users | usersUnder | adduser | rmuser | mkuser | ucopy
  | gmove | gattr | rmgroup | rmgroupUnder
  | mkmailer | mail
  /-- Nothing at all: the command is only there to be declared. -/
  | idle
deriving DecidableEq, Repr

/-- A declared command. -/
structure Command where
  name : String
  /-- Other names for the command; for an entry under such a name, the name it was declared by. -/
  aliases : List String := []
  help : String
  /-- A further line of help. -/
  longHelp : Option String := none
  arguments : List Argument := []
  verb : Verb := .idle
deriving DecidableEq, Repr

namespace Command

/-- Where an argument stands among the arguments. -/
def position? (c : Command) (name : String) : Option Nat :=
  c.arguments.findIdx? (·.name == name)

/-- An argument by its name, with its position. -/
def find? (c : Command) (name : String) : Option (Nat × Argument) := do
  let i ← c.position? name
  let a ← c.arguments[i]?
  return (i, a)

/-- One word of the help line: the name of an argument, in brackets if it may be left out. -/
def usageWord (a : Argument) : String :=
  if a.isOptional then " [" ++ a.name ++ "]" else " " ++ a.name

/-- The line of help: the name, the arguments and what the command is for. -/
def helpLine (c : Command) : String :=
  c.name ++ String.join (c.arguments.map usageWord) ++ " - " ++ c.help

/-- The position of an argument lies within the list. -/
theorem position?_lt {c : Command} {name : String} {i : Nat} (h : c.position? name = some i) :
    i < c.arguments.length := by
  obtain ⟨hlt, -⟩ := List.findIdx?_eq_some_iff_getElem.mp h
  exact hlt

/-- An argument found under a name has that name. -/
theorem name_of_find? {c : Command} {name : String} {i : Nat} {a : Argument} (h : c.find? name = some (i, a)) :
    a.name = name := by
  simp only [find?, Option.bind_eq_bind, Option.bind_eq_some_iff, Option.pure_def, Option.some.injEq,
    Prod.mk.injEq] at h
  obtain ⟨j, hj, b, hb, rfl, rfl⟩ := h
  obtain ⟨hlt, hname, -⟩ := List.findIdx?_eq_some_iff_getElem.mp hj
  obtain ⟨-, rfl⟩ := List.getElem?_eq_some_iff.mp hb
  simpa using hname

/-- An argument found under a name is one of the arguments. -/
theorem mem_of_find? {c : Command} {name : String} {i : Nat} {a : Argument} (h : c.find? name = some (i, a)) :
    a ∈ c.arguments := by
  simp only [find?, Option.bind_eq_bind, Option.bind_eq_some_iff, Option.pure_def, Option.some.injEq,
    Prod.mk.injEq] at h
  obtain ⟨j, -, b, hb, rfl, rfl⟩ := h
  exact List.mem_of_getElem? hb

/-- **Where all names are different, every argument is found under its own.** -/
theorem find?_of_mem {c : Command} (h : (c.arguments.map (·.name)).Nodup) {a : Argument} (ha : a ∈ c.arguments) :
    ∃ i, c.find? a.name = some (i, a) := by
  have hsome : (c.position? a.name).isSome = true := by
    rw [position?, List.findIdx?_isSome, List.any_eq_true]
    exact ⟨a, ha, by simp⟩
  obtain ⟨i, hi⟩ := Option.isSome_iff_exists.mp hsome
  have hlt : i < c.arguments.length := position?_lt hi
  have hfind : c.find? a.name = some (i, c.arguments[i]) := by
    simp [find?, hi, List.getElem?_eq_getElem hlt]
  have hsame : c.arguments[i] = a := eq_of_nodup_map h (List.getElem_mem hlt) ha (name_of_find? hfind)
  exact ⟨i, hsame ▸ hfind⟩

end Command

end RemoteShell
