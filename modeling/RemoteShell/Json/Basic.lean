import RemoteShell.Decimal.Shortest
import RemoteShell.Dict

/-!
# JSON values

The values that requests and replies are made of. The members of an object are in the order of their keys, each key
once. A number is a whole number that was written without a point or an exponent, or else a magnitude of the binary
format with its sign; the two are different even where they are equally large, because a status counts only if it is a
whole number.

Main statements:

* `Json.same_iff`: the comparison of values is equality.
-/

namespace RemoteShell

/-- A JSON value. -/
inductive Json where
  | null
  | bool (flag : Bool)
  /-- A whole number. -/
  | int (number : Int)
  /-- A number that was written with a point or an exponent, or that is too large for a whole number. -/
  | real (negative : Bool) (magnitude : Decimal.Binary)
  | str (text : String)
  | arr (items : List Json)
  | obj (members : List (String × Json))
deriving Repr, Inhabited

namespace Json

mutual

/-- Whether two values are the same. -/
def same : Json → Json → Bool
  | .null, .null => true
  | .bool a, .bool b => a == b
  | .int a, .int b => a == b
  | .real s a, .real t b => s == t && a == b
  | .str a, .str b => a == b
  | .arr xs, .arr ys => sameItems xs ys
  | .obj xs, .obj ys => sameMembers xs ys
  | _, _ => false

/-- Whether two lists of values are the same. -/
def sameItems : List Json → List Json → Bool
  | [], [] => true
  | x :: xs, y :: ys => same x y && sameItems xs ys
  | _, _ => false

/-- Whether two lists of members are the same. -/
def sameMembers : List (String × Json) → List (String × Json) → Bool
  | [], [] => true
  | (k, x) :: xs, (l, y) :: ys => k == l && same x y && sameMembers xs ys
  | _, _ => false

end

mutual

theorem same_iff : ∀ {a b : Json}, same a b = true ↔ a = b
  | .null, b => by cases b <;> simp [same]
  | .bool _, b => by cases b <;> simp [same]
  | .int _, b => by cases b <;> simp [same]
  | .real _ _, b => by cases b <;> simp [same]
  | .str _, b => by cases b <;> simp [same]
  | .arr _, b => by cases b <;> simp [same, sameItems_iff]
  | .obj _, b => by cases b <;> simp [same, sameMembers_iff]

theorem sameItems_iff : ∀ {xs ys : List Json}, sameItems xs ys = true ↔ xs = ys
  | [], ys => by cases ys <;> simp [sameItems]
  | x :: xs, ys => by
    cases ys with
    | nil => simp [sameItems]
    | cons y ys => simp [sameItems, same_iff (a := x) (b := y), @sameItems_iff xs ys]

theorem sameMembers_iff : ∀ {xs ys : List (String × Json)}, sameMembers xs ys = true ↔ xs = ys
  | [], ys => by cases ys <;> simp [sameMembers]
  | (k, x) :: xs, ys => by
    cases ys with
    | nil => simp [sameMembers]
    | cons y ys =>
      obtain ⟨l, y⟩ := y
      simp [sameMembers, same_iff (a := x) (b := y), @sameMembers_iff xs ys, and_assoc]

end

instance : DecidableEq Json := fun a b => decidable_of_iff (same a b = true) same_iff

/-- An object of some members; of two members with one key the later one stands. -/
def ofMembers (members : List (String × Json)) : Json :=
  .obj (Dict.ofList members)

/-- A text, or nothing. -/
def ofText? : Option String → Json
  | some text => .str text
  | none => .null

/-- A truth value, or nothing. -/
def ofBool? : Option Bool → Json
  | some flag => .bool flag
  | none => .null

/-- A whole number, or nothing. -/
def ofInt? : Option Int → Json
  | some number => .int number
  | none => .null

/-- A list of texts. -/
def ofTexts (texts : List String) : Json :=
  .arr (texts.map .str)

/-- The member of an object under a key. -/
def get? (value : Json) (key : String) : Option Json :=
  match value with
  | .obj members => Dict.find? key members
  | _ => none

/-- The text of a value that is a text. -/
def text? : Json → Option String
  | .str text => some text
  | _ => none

/-- The truth value of a value that is one. -/
def bool? : Json → Option Bool
  | .bool flag => some flag
  | _ => none

/-- The number of a value that is a whole number of sixty-four bits with sign. -/
def int64? : Json → Option Int
  | .int number => if Text.isInt64 number then some number else none
  | _ => none

/-- The items of a value that is a list. -/
def items? : Json → Option (List Json)
  | .arr items => some items
  | _ => none

/-- Whether a value is nothing. -/
def isNull : Json → Bool
  | .null => true
  | _ => false

end Json

end RemoteShell
