import RemoteShell.Binding.Group
import RemoteShell.Schema.Basic

/-!
# The argument a line has come to

Completion has to know which argument the next token would be bound to. The walk follows the rules of binding without
converting anything: a named token moves it behind the argument it names, a bracketed list counts as one value, and
arguments that are only given by name are never next. Within an open bracket the argument is the list itself.
-/

namespace RemoteShell

/-- A position, moved over the arguments that are only given by name. -/
def skipKeywordOnly (arguments : List Argument) (slot : Nat) : Nat :=
  slot + ((arguments.drop slot).takeWhile (·.isKeywordOnly)).length

/-- The position after some tokens, from the position `slot` on. -/
def positionFrom (c : Command) (slot : Nat) : List Token → Nat
  | [] => slot
  | token :: rest =>
    let target? := match (Group.ofHead token).1 with
      | some name => c.position? name
      | none => some slot
    match target? with
    | none => positionFrom c slot rest
    | some target =>
      if (Group.ofHead token).2.isPunct '[' then
        match _h : rest.dropWhile (!·.isPunct ']') with
        | [] => target
        | _ :: behind => positionFrom c (skipKeywordOnly c.arguments (target + 1)) behind
      else positionFrom c (skipKeywordOnly c.arguments (target + 1)) rest
termination_by tokens => tokens.length
decreasing_by
  · simp
  · have : (rest.dropWhile (!·.isPunct ']')).length ≤ rest.length := (List.dropWhile_sublist _).length_le
    simp only [_h, List.length_cons] at this ⊢
    omega
  · simp

/-- The position of the argument that the next token would be bound to. -/
def Command.argumentPosition (c : Command) (tokens : List Token) : Nat :=
  positionFrom c (skipKeywordOnly c.arguments 0) tokens

end RemoteShell
