import RemoteShell.Binding.Convert
import RemoteShell.Binding.Group

/-!
# Binding a line to the arguments of a command

The groups of a line are bound from left to right. A named group goes to the argument it names; any other goes to the
next argument that may be given in order and has no value yet. After either, the walk goes on behind the argument just
passed. An empty placeholder or `-` passes an argument that may be left out. Binding stops at the first error, and a
partial result is never returned.
-/

namespace RemoteShell

/-- The items of a bracketed list, converted in order; placeholders are passed over. -/
def convertItems (arguments : List Argument) (cwd : String) (a : Argument) : List Token → Except ParseError (List Value)
  | [] => .ok []
  | item :: rest =>
    if item.isPlaceholder then convertItems arguments cwd a rest
    else do
      let value ← convert arguments cwd a item
      let values ← convertItems arguments cwd a rest
      return value :: values

/-- The value of a group for an argument. A single value for a list argument is a list of one item. -/
def convertGroup (arguments : List Argument) (cwd : String) (a : Argument) :
    GroupValue → Except ParseError Value
  | .single token => do
    let value ← convert arguments cwd a token
    return if a.isList then .list [value] else value
  | .list items =>
    if a.isList then do
      let values ← convertItems arguments cwd a items
      return .list values
    else .error (unexpected a (.punct '['))

/-- Whether a group is an empty placeholder. -/
def GroupValue.isPlaceholder : GroupValue → Bool
  | .single token => token.isPlaceholder
  | .list _ => false

/-- Whether an argument may be bound next: it is taken in order and has no value yet. -/
def isOpen (bound : Arguments) (a : Argument) : Bool :=
  !a.isKeywordOnly && !Dict.contains a.name bound

/-- The first argument from a position on that may be bound next, with its position. -/
def nextOpen? (arguments : List Argument) (bound : Arguments) (slot : Nat) : Option (Nat × Argument) := do
  let offset ← (arguments.drop slot).findIdx? (isOpen bound)
  let a ← arguments[slot + offset]?
  return (slot + offset, a)

/-- The first argument that is needed and has no value. -/
def missing? (arguments : List Argument) (bound : Arguments) : Option Argument :=
  arguments.find? fun a => !a.isOptional && !Dict.contains a.name bound

/-- Binds groups, given the values so far and the position from which arguments are taken in order. -/
def bindGroups (c : Command) (cwd : String) (bound : Arguments) (slot : Nat) : List Group → Except ParseError Arguments
  | [] => match missing? c.arguments bound with
    | some a => .error (.missingRequiredArgument a.name)
    | none => .ok bound
  | { name := some name, value } :: rest =>
    match c.find? name with
    | none => .error (.unknownArgument name)
    | some (i, a) =>
      if Dict.contains name bound then .error (.duplicateArgument name)
      else if value.isPlaceholder then bindGroups c cwd bound (i + 1) rest
      else match convertGroup c.arguments cwd a value with
        | .error e => .error e
        | .ok v => bindGroups c cwd (Dict.insert a.name v bound) (i + 1) rest
  | { name := none, value } :: rest =>
    match nextOpen? c.arguments bound slot with
    | none => .error (.tooManyArguments c.name c.arguments.length)
    | some (i, a) =>
      if value.isPlaceholder then
        if a.isOptional then bindGroups c cwd bound (i + 1) rest else .error (.missingRequiredArgument a.name)
      else match convertGroup c.arguments cwd a value with
        | .error e => .error e
        | .ok v => bindGroups c cwd (Dict.insert a.name v bound) (i + 1) rest

/-- Binds the tokens behind the name of a command. Paths are meant from the folder `cwd`. -/
def Command.bind (c : Command) (tokens : List Token) (cwd : String) : Except ParseError Arguments :=
  match tokens.find? (·.isUnterminated) with
  | some bad => .error (.unterminatedQuote bad.text)
  | none => bindGroups c cwd [] 0 (Group.ofTokens tokens)

/-- At the end of the line, every argument that is needed must have a value. -/
theorem bindGroups_nil (c : Command) (cwd : String) (bound : Arguments) (slot : Nat) :
    bindGroups c cwd bound slot [] = match missing? c.arguments bound with
      | some a => .error (.missingRequiredArgument a.name)
      | none => .ok bound := rfl

end RemoteShell
