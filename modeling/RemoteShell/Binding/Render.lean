import RemoteShell.Binding.Value
import RemoteShell.Schema.Basic
import RemoteShell.Text.Numeral
import RemoteShell.Token.Render

/-!
# Writing bound arguments back as tokens

Bound arguments are written by name in the order of the declaration, lists in brackets. Values are written so that they
read back: a text as a word where that is possible and in quotes elsewhere, a literal as its own name.
-/

namespace RemoteShell

mutual

/-- The token of one value of an argument. -/
def renderValue (a : Argument) : Value → Token
  | .str text => wordOrQuoted text
  | .bool flag => .word (if a.kind = .literal then a.name else if flag then "true" else "false")
  | .int number => .word (String.ofList (Text.writeInt number))
  | .pair key value => wordOrQuoted (key ++ ":" ++ value)
  | .list items => wordOrQuoted (" ".intercalate (renderInner a items))

/-- The written forms of the values of a list within a list. -/
def renderInner (a : Argument) : List Value → List String
  | [] => []
  | item :: rest => (renderValue a item).render :: renderInner a rest

end

/-- The tokens of an argument with its value. -/
def renderArgument (a : Argument) : Value → List Token
  | .list items => .named a.name (.punct '[') :: items.map (renderValue a) ++ [.punct ']']
  | value => [.named a.name (renderValue a value)]

/-- The tokens of bound arguments, in the order of the declaration. -/
def Command.renderArguments (c : Command) (args : Arguments) : List Token :=
  c.arguments.flatMap fun a => match Dict.find? a.name args with
    | some value => renderArgument a value
    | none => []

end RemoteShell
