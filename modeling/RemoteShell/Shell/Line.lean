import RemoteShell.Binding.Bind
import RemoteShell.Schema.Registry
import RemoteShell.Token.Hints
import RemoteShell.Token.Scan

/-!
# From a line to a command

A line is cut into tokens, hints are dropped, the first token names the command, and the rest is bound to its arguments.
A line without a name is no command, and no error either.

Main statements:

* `parseTokens_eq_ok_some_iff`: which tokens are a command, and which one.
* `parseTokens_name`: the command found has the name that the first token spells.
-/

namespace RemoteShell

/-- A line that can be run: a command and the values of its arguments. -/
structure Invocation where
  command : Command
  args : Arguments
deriving DecidableEq, Repr

/-- Looks a command up by the text of a token and binds the tokens behind it. -/
def parseTokens (registry : Registry) (cwd : String) : List Token → Except ParseError (Option Invocation)
  | [] => .ok none
  | head :: rest =>
    if head.isUnterminated then .error (.unterminatedQuote head.text)
    else if head.text == "" then .ok none
    else match registry.lookup head.text with
      | none => .error (.unknownCommand head.text)
      | some command => match command.bind rest cwd with
        | .error e => .error e
        | .ok args => .ok (some { command, args })

/-- Reads a line that was given in the folder `cwd`. -/
def parseLine (registry : Registry) (line cwd : String) : Except ParseError (Option Invocation) :=
  parseTokens registry cwd (dropHints (tokenize line))

/-- **Which tokens are a command, and which one.** -/
theorem parseTokens_eq_ok_some_iff {registry : Registry} {cwd : String} {tokens : List Token} {i : Invocation} :
    parseTokens registry cwd tokens = .ok (some i) ↔
      ∃ head rest, tokens = head :: rest ∧ head.isUnterminated = false ∧ head.text ≠ "" ∧
        registry.lookup head.text = some i.command ∧ i.command.bind rest cwd = .ok i.args := by
  constructor
  · intro h
    cases tokens with
    | nil => simp [parseTokens] at h
    | cons head rest =>
      simp only [parseTokens] at h
      split at h
      · simp at h
      · next hclosed =>
        split at h
        · simp at h
        · next hsome =>
          cases hlookup : registry.lookup head.text with
          | none => simp [hlookup] at h
          | some command =>
            cases hbind : command.bind rest cwd with
            | error e => simp [hlookup, hbind] at h
            | ok args =>
              simp only [hlookup, hbind, Except.ok.injEq, Option.some.injEq] at h
              subst h
              exact ⟨head, rest, rfl, by simpa using hclosed, by simpa using hsome, hlookup, hbind⟩
  · rintro ⟨head, rest, rfl, hclosed, hsome, hlookup, hbind⟩
    simp [parseTokens, hclosed, hsome, hlookup, hbind]

/-- **The command found has the name that the first token spells.** -/
theorem parseTokens_name {registry : Registry} {cwd : String} {head : Token} {rest : List Token} {i : Invocation}
    (h : parseTokens registry cwd (head :: rest) = .ok (some i)) : i.command.name = head.text := by
  obtain ⟨_, _, heq, -, -, hlookup, -⟩ := parseTokens_eq_ok_some_iff.mp h
  obtain ⟨rfl, -⟩ := List.cons.inj heq
  exact Registry.name_of_lookup hlookup

end RemoteShell
