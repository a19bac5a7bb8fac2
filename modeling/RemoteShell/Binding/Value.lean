import RemoteShell.Dict

/-!
# Bound values

What an argument of a command is bound to once the text of its tokens has been converted, and the dictionary of all
arguments of a line. An argument that was left out has no entry.

Main statements:

* `Value.same_iff`: the comparison of values is equality.
-/

namespace RemoteShell

/-- The value of an argument. -/
inductive Value where
  | str (text : String)
  | bool (flag : Bool)
  | int (number : Int)
  | pair (key value : String)
  | list (items : List Value)
deriving Repr

namespace Value

mutual

/-- Whether two values are the same. -/
def same : Value → Value → Bool
  | .str a, .str b => a == b
  | .bool a, .bool b => a == b
  | .int a, .int b => a == b
  | .pair k v, .pair k' v' => k == k' && v == v'
  | .list xs, .list ys => sameAll xs ys
  | _, _ => false

/-- Whether two lists of values are the same. -/
def sameAll : List Value → List Value → Bool
  | [], [] => true
  | x :: xs, y :: ys => same x y && sameAll xs ys
  | _, _ => false

end

mutual

theorem same_iff : ∀ {a b : Value}, same a b = true ↔ a = b
  | .str _, b => by cases b <;> simp [same]
  | .bool _, b => by cases b <;> simp [same]
  | .int _, b => by cases b <;> simp [same]
  | .pair _ _, b => by cases b <;> simp [same]
  | .list _, b => by cases b <;> simp [same, sameAll_iff]

theorem sameAll_iff : ∀ {xs ys : List Value}, sameAll xs ys = true ↔ xs = ys
  | [], ys => by cases ys <;> simp [sameAll]
  | x :: xs, ys => by
    cases ys with
    | nil => simp [sameAll]
    | cons y ys => simp [sameAll, same_iff (a := x) (b := y), @sameAll_iff xs ys]

end

instance : DecidableEq Value := fun a b => decidable_of_iff (same a b = true) same_iff

/-- The text of a value that is a text. -/
def str? : Value → Option String
  | .str text => some text
  | _ => none

/-- The key and value of a value that is a pair. -/
def pair? : Value → Option (String × String)
  | .pair key value => some (key, value)
  | _ => none

end Value

/-- The values of the arguments of a line, by name. -/
abbrev Arguments := Dict Value

namespace Arguments

/-- The text an argument is bound to. -/
def str (args : Arguments) (name : String) : Option String :=
  (Dict.find? name args).bind Value.str?

/-- The truth value an argument is bound to. -/
def bool (args : Arguments) (name : String) : Option Bool :=
  match Dict.find? name args with
  | some (.bool flag) => some flag
  | _ => none

/-- Whether an argument is bound to yes. -/
def flag (args : Arguments) (name : String) : Bool :=
  (bool args name).getD false

/-- The number an argument is bound to. -/
def int (args : Arguments) (name : String) : Option Int :=
  match Dict.find? name args with
  | some (.int number) => some number
  | _ => none

/-- The texts an argument is bound to; a single text counts as a list of one. -/
def strings (args : Arguments) (name : String) : List String :=
  match Dict.find? name args with
  | some (.list items) => items.filterMap Value.str?
  | some (.str text) => [text]
  | _ => []

/-- The pairs an argument is bound to; a single pair counts as a list of one. -/
def pairs (args : Arguments) (name : String) : List (String × String) :=
  match Dict.find? name args with
  | some (.list items) => items.filterMap Value.pair?
  | some single => [single].filterMap Value.pair?
  | none => []

end Arguments

end RemoteShell
