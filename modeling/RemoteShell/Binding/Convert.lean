import RemoteShell.Binding.Error
import RemoteShell.Binding.Value
import RemoteShell.Path
import RemoteShell.Schema.Basic
import RemoteShell.Text.Numeral
import RemoteShell.Token.Render

/-!
# From the text of a token to a value

Each kind of argument reads its text by a rule of its own. Punctuation and named values are never converted.

Main statements:

* `readPair?_key_ne_empty`: a pair never has an empty key.
-/

namespace RemoteShell

/-- An ASCII letter in lower case, any other character as it is. -/
def asciiLower (s : String) : String :=
  String.ofList (s.toList.map Char.toLower)

/-- A word for yes or for no, in any ASCII case. -/
def readBool? (text : String) : Option Bool :=
  let word := asciiLower text
  if ["true", "yes", "y", "on", "enable", "1"].contains word then some true
  else if ["false", "no", "n", "off", "disable", "0"].contains word then some false
  else none

/-- A key and a value around the only colon of a text, each without the blanks around it. The key is not empty. -/
def readPair? (text : String) : Option (String × String) :=
  match Text.fields ':' text.toList with
  | [key, value] =>
    if Text.trim key = [] then none else some (String.ofList (Text.trim key), String.ofList (Text.trim value))
  | _ => none

/-- Whether one string begins with another. -/
def startsWith (name text : String) : Bool :=
  text.toList.isPrefixOf name.toList

/-- Whether a text stands for a literal argument: it is the argument's name, or a non-empty beginning of it with which
the name of no other literal argument begins. -/
def literalMatches (arguments : List Argument) (a : Argument) (text : String) : Bool :=
  text == a.name ||
    (text != "" && startsWith a.name text &&
      !arguments.any fun b => b.name != a.name && b.kind == .literal && startsWith b.name text)

/-- The error of a token that has no business where it stands. -/
def unexpected (a : Argument) (token : Token) : ParseError :=
  .unexpectedToken a.name token.render

/-- The value of a text for an argument. Paths are meant from the folder `cwd`. -/
def convertText (arguments : List Argument) (cwd : String) (a : Argument) (text : String) :
    Except ParseError Value :=
  match a.kind with
  | .string => .ok (.str (if a.isFile then Path.resolve cwd text else text))
  | .boolean => match readBool? text with
    | some flag => .ok (.bool flag)
    | none => .error (.invalidBoolean a.name text)
  | .integer => match Text.readInt64? text.toList with
    | some number => .ok (.int number)
    | none => .error (.invalidInteger a.name text)
  | .literal => if literalMatches arguments a text then .ok (.bool true) else .error (.invalidLiteral a.name text)
  | .pair => match readPair? text with
    | some (key, value) => .ok (.pair key value)
    | none => .error (.invalidPair a.name text)

/-- The value of a token for an argument. -/
def convert (arguments : List Argument) (cwd : String) (a : Argument) (token : Token) : Except ParseError Value :=
  match token with
  | .word text => convertText arguments cwd a text
  | .quoted q => convertText arguments cwd a q.text
  | .named _ _ => .error (unexpected a token)
  | .punct _ => .error (unexpected a token)

/-- Every literal argument accepts its own name. -/
theorem literalMatches_self (arguments : List Argument) (a : Argument) : literalMatches arguments a a.name = true := by
  simp [literalMatches]

/-- A pair never has an empty key. -/
theorem readPair?_key_ne_empty {text key value : String} (h : readPair? text = some (key, value)) : key ≠ "" := by
  unfold readPair? at h
  split at h
  · split at h
    · simp at h
    · next hne =>
      simp only [Option.some.injEq, Prod.mk.injEq] at h
      rintro rfl
      exact hne (by simpa using congrArg String.toList h.1)
  · simp at h

end RemoteShell
