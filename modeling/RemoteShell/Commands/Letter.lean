import RemoteShell.Json.Basic
import RemoteShell.Service.Request
import RemoteShell.Terminal.Reader
import RemoteShell.Text.Fields

/-!
# Letters

To send a letter the shell asks for the addresses, the subject and the text, and then calls the service once.

Main statements:

* `isSome_call?_iff`: a letter is sent exactly if every question was answered.
* `trim_ne_nil_of_mem_addresses`: no address is blank.
-/

namespace RemoteShell

/-- What the line of the command says about a letter. -/
structure Letter where
  /-- The path of the mailer that sends it. -/
  mailer : Option String
  /-- The address of the sender. -/
  sender : Option String
  /-- The text is written in HTML. -/
  html : Bool
deriving DecidableEq, Repr

namespace Letter

/-- The line that ends the text of a letter. -/
def endOfText : String := "."

/-- What the user is asked. -/
def questions : List Question :=
  [.line "To: ", .line "CC: ", .line "Bcc: ", .line "Subject: ", .body "Message:" "> " endOfText]

/-- The addresses on a line, between commas and without the blanks around them. -/
def addressChars (line : List Char) : List (List Char) :=
  ((Text.fields ',' line).map Text.trim).filter fun address => !address.isEmpty

/-- The addresses on a line. -/
def addresses (line : String) : List String :=
  (addressChars line.toList).map String.ofList

/-- The message with the answers to the questions. -/
def message (l : Letter) (receivers copies hidden subject content : String) : Json :=
  Json.ofMembers
    [("from", Json.ofText? l.sender), ("html", .bool l.html), ("to", Json.ofTexts (addresses receivers)),
      ("cc", Json.ofTexts (addresses copies)), ("bcc", Json.ofTexts (addresses hidden)), ("subject", .str subject),
      ("content", .str content)]

/-- The call that sends a letter, once all questions are answered. -/
def call? (l : Letter) : List String → Option Call
  | [receivers, copies, hidden, subject, content] =>
    some { api := .file, op := "smtp"
           params := Json.ofMembers
             [("mailer", Json.ofText? l.mailer), ("message", l.message receivers copies hidden subject content)] }
  | _ => none

/-- **A letter is sent exactly if every question was answered.** -/
theorem isSome_call?_iff (l : Letter) (answers : List String) :
    (l.call? answers).isSome = true ↔ answers.length = questions.length := by
  have hcount : questions.length = 5 := rfl
  rw [hcount]
  unfold call?
  split
  · simp
  · next hne =>
    simp only [Option.isSome_none, Bool.false_eq_true, false_iff]
    intro hlen
    match answers, hlen with
    | [a, b, c, d, e], _ => exact hne a b c d e rfl

/-- No address is blank. -/
theorem trim_ne_nil_of_mem_addresses {line address : List Char} (h : address ∈ addressChars line) : address ≠ [] := by
  simp only [addressChars, List.mem_filter] at h
  simpa using h.2

end Letter

end RemoteShell
