import RemoteShell.Settings.Basic
import RemoteShell.Text.Numeral

/-!
# The command line

Options have a long name, and some a letter. Letters can be joined behind one dash; an option with a value takes what is
left of its word, with or without `=`, or else the next word if that is no option. Only commands may be given more than
once, and more output may be asked for again and again. There are no words besides options.

A value that is missing is noticed only when the next option comes or the line ends, so that an unknown option behind
it is reported first.

Main statements:

* `parse_commands`: a command line of attached commands asks for exactly these, in order.
* `parse_closed`: a command line with a word behind `--` is never accepted.
-/

namespace RemoteShell

/-- An option without a value. -/
inductive Switch where
  | verbose
  | quiet
  | noPager
  | help
  | version
deriving DecidableEq, Repr

/-- An option with a value. -/
inductive Parameter where
  | server
  | config
  | rows
  | prompt
  | home
  | command
deriving DecidableEq, Repr

/-- An option of either kind. -/
inductive CommandOption where
  | switch (s : Switch)
  | parameter (p : Parameter)
deriving DecidableEq, Repr

namespace CommandOption

/-- The option with a long name. -/
def ofName? (name : String) : Option CommandOption :=
  match name with
  | "verbose" => some (.switch .verbose)
  | "quiet" => some (.switch .quiet)
  | "no-pager" => some (.switch .noPager)
  | "help" => some (.switch .help)
  | "version" => some (.switch .version)
  | "server" => some (.parameter .server)
  | "config" => some (.parameter .config)
  | "rows" => some (.parameter .rows)
  | "prompt" => some (.parameter .prompt)
  | "home" => some (.parameter .home)
  | "command" => some (.parameter .command)
  | _ => none

/-- The option with a letter. -/
def ofLetter? (letter : Char) : Option CommandOption :=
  match letter with
  | 'v' => some (.switch .verbose)
  | 'q' => some (.switch .quiet)
  | 'h' => some (.switch .help)
  | 'V' => some (.switch .version)
  | 's' => some (.parameter .server)
  | 'c' => some (.parameter .command)
  | _ => none

end CommandOption

/-- Why a command line is not run. -/
inductive UsageError where
  /-- There is no such option, or no place for a word. -/
  | unknownArgument
  /-- An option has no value, or an empty one where that means nothing. -/
  | missingValue
  /-- A value is no number of rows. -/
  | badValue
  /-- An option is given twice. -/
  | repeated
  /-- A value is given to an option that takes none. -/
  | valueNotTaken
  /-- Help is asked for. -/
  | help
  /-- The version is asked for. -/
  | version
deriving DecidableEq, Repr

/-- What a command line asks for. -/
structure CommandLine where
  /-- How often more output is asked for. -/
  verbose : Nat := 0
  quiet : Bool := false
  flags : Flags := {}
  /-- The commands to be run. -/
  commands : List String := []
deriving DecidableEq, Repr

namespace CommandLine

/-- Turns a switch on. -/
def turn (c : CommandLine) : Switch → Except UsageError CommandLine
  | .verbose => .ok { c with verbose := c.verbose + 1 }
  | .quiet => if c.quiet then .error .repeated else .ok { c with quiet := true }
  | .noPager =>
    if c.flags.noPager then .error .repeated else .ok { c with flags := { c.flags with noPager := true } }
  | .help => .error .help
  | .version => .error .version

/-- A value that may be given once. -/
def once {α : Type} (given : Option α) (value : Except UsageError α) (rest : α → CommandLine) :
    Except UsageError CommandLine :=
  if given.isSome then .error .repeated else value.map rest

/-- A number of rows. -/
def parseRows (value : String) : Except UsageError Nat :=
  match Text.readUnsigned? Text.maxUInt64 value.toList with
  | some n => .ok n
  | none => .error .badValue

/-- Gives an option a value. -/
def set (c : CommandLine) (parameter : Parameter) (value : String) : Except UsageError CommandLine :=
  let f := c.flags
  match parameter with
  | .server => once f.server (.ok value) fun v => { c with flags := { f with server := some v } }
  | .config =>
    once f.config (if value == "" then .error .missingValue else .ok value) fun v =>
      { c with flags := { f with config := some v } }
  | .rows => once f.rows (parseRows value) fun v => { c with flags := { f with rows := some v } }
  | .prompt => once f.prompt (.ok value) fun v => { c with flags := { f with prompt := some v } }
  | .home => once f.home (.ok value) fun v => { c with flags := { f with home := some v } }
  | .command => .ok { c with commands := c.commands ++ [value] }

/-- A command line that is being read. -/
structure Progress where
  line : CommandLine := {}
  /-- The option read last, if it takes its value from the next word, and that word once it has come. -/
  pending : Option (Parameter × Option String) := none
  /-- Whether `--` has been passed. -/
  closed : Bool := false
deriving DecidableEq, Repr

namespace Progress

/-- Gives the option read last its value. -/
def resolve (p : Progress) : Except UsageError Progress :=
  match p.pending with
  | none => .ok p
  | some (_, none) => .error .missingValue
  | some (parameter, some value) => do
    return { p with line := ← p.line.set parameter value, pending := none }

/-- Turns a switch on. -/
def turn (p : Progress) (s : Switch) : Except UsageError Progress := do
  let p ← p.resolve
  return { p with line := ← p.line.turn s }

/-- Takes an option with the value that is attached to it, or waits for one. -/
def take (p : Progress) (parameter : Parameter) (attached : Option String) : Except UsageError Progress := do
  let p ← p.resolve
  match attached with
  | some value => return { p with line := ← p.line.set parameter value }
  | none => return { p with pending := some (parameter, none) }

/-- Takes a long option. -/
def readLong (p : Progress) (body : List Char) : Except UsageError Progress :=
  let name := String.ofList (body.takeWhile (· != '='))
  let attached := match body.dropWhile (· != '=') with
    | _ :: value => some (String.ofList value)
    | [] => none
  match CommandOption.ofName? name, attached with
  | none, _ => .error .unknownArgument
  | some (.switch s), none => p.turn s
  | some (.switch _), some _ => .error .valueNotTaken
  | some (.parameter parameter), attached => p.take parameter attached

/-- The value attached to a letter. -/
def attachedValue : List Char → Option String
  | [] => none
  | '=' :: value => some (String.ofList value)
  | value => some (String.ofList value)

/-- Takes options by their letters. -/
def readLetters (p : Progress) : List Char → Except UsageError Progress
  | [] => .ok p
  | letter :: rest =>
    match CommandOption.ofLetter? letter with
    | none => .error .unknownArgument
    | some (.switch s) => do readLetters (← p.turn s) rest
    | some (.parameter parameter) => p.take parameter (attachedValue rest)

/-- Takes a word that is no option: the value that the option before it waits for. -/
def readValue (p : Progress) (word : String) : Except UsageError Progress :=
  match p.pending with
  | some (parameter, none) => .ok { p with pending := some (parameter, some word) }
  | _ => .error .unknownArgument

/-- Takes a word. -/
def readWord (p : Progress) (word : String) : Except UsageError Progress :=
  if p.closed then .error .unknownArgument
  else match word.toList with
    | ['-', '-'] => .ok { p with closed := true }
    | '-' :: '-' :: body => p.readLong body
    | '-' :: letter :: rest => p.readLetters (letter :: rest)
    | _ => p.readValue word

/-- An option with an attached command adds that command. -/
theorem readWord_command {p : Progress} (hpending : p.pending = none) (hclosed : p.closed = false) (line : String) :
    p.readWord ("--command=" ++ line) =
      .ok { p with line := { p.line with commands := p.line.commands ++ [line] } } := by
  have hword : ("--command=" ++ line).toList = '-' :: '-' :: ("command".toList ++ '=' :: line.toList) := by
    rw [String.toList_append]
    rfl
  have hresolve : p.resolve = .ok p := by
    unfold resolve
    rw [hpending]
  have htake : p.take .command (some line) =
      .ok { p with line := { p.line with commands := p.line.commands ++ [line] } } := by
    unfold take
    rw [hresolve]
    rfl
  unfold readWord
  rw [hclosed, hword]
  simpa [readLong, CommandOption.ofName?, hclosed] using htake

theorem foldlM_readWord_commands (lines : List String) (p : Progress) (hpending : p.pending = none)
    (hclosed : p.closed = false) :
    (lines.map fun line => "--command=" ++ line).foldlM readWord p =
      .ok { p with line := { p.line with commands := p.line.commands ++ lines } } := by
  induction lines generalizing p with
  | nil =>
    rw [List.append_nil]
    rfl
  | cons line rest ih =>
    have hrest := ih { p with line := { p.line with commands := p.line.commands ++ [line] } } hpending hclosed
    rw [List.append_assoc, List.singleton_append] at hrest
    rw [List.map_cons, List.foldlM_cons, readWord_command hpending hclosed]
    exact hrest

/-- Once `--` has been passed, every word is refused. -/
theorem readWord_of_closed {p : Progress} (h : p.closed = true) (word : String) :
    p.readWord word = .error .unknownArgument := by
  unfold readWord
  rw [h]
  rfl

theorem foldlM_readWord_closed (p : Progress) (word : String) (behind : List String) :
    ("--" :: word :: behind).foldlM readWord p = .error .unknownArgument := by
  cases hclosed : p.closed with
  | true =>
    rw [List.foldlM_cons, readWord_of_closed hclosed]
    rfl
  | false =>
    have hdashes : p.readWord "--" = .ok { p with closed := true } := by
      unfold readWord
      rw [hclosed]
      rfl
    have hword : readWord { p with closed := true } word = .error .unknownArgument := readWord_of_closed rfl word
    rw [List.foldlM_cons, hdashes]
    exact congrArg (Except.bind · (behind.foldlM readWord)) hword

end Progress

/-- Reads the words of a command line. -/
def parse (words : List String) : Except UsageError CommandLine := do
  let p ← words.foldlM Progress.readWord {}
  return (← p.resolve).line

/-- The settings on the command line; the path of a settings file may come from the environment instead. -/
def flagsWith (c : CommandLine) (config : Option String) : Flags :=
  { c.flags with config := c.flags.config.or config }

/-- A command line of attached commands asks for exactly these, in order. -/
theorem parse_commands (lines : List String) :
    parse (lines.map fun line => "--command=" ++ line) = .ok { commands := lines } := by
  unfold parse
  rw [Progress.foldlM_readWord_commands lines {} rfl rfl]
  rfl

/-- A command line with a word behind `--` is never accepted. -/
theorem parse_closed (before : List String) (word : String) (behind : List String) :
    ∃ e, parse (before ++ "--" :: word :: behind) = .error e := by
  unfold parse
  rw [List.foldlM_append]
  cases before.foldlM Progress.readWord ({} : Progress) with
  | error e => exact ⟨e, rfl⟩
  | ok p => exact ⟨.unknownArgument, congrArg (Except.bind · _) (p.foldlM_readWord_closed word behind)⟩

end CommandLine

end RemoteShell
