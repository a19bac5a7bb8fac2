import RemoteShell.Layout.Style
import RemoteShell.Terminal.Pager
import RemoteShell.Terminal.Reader

/-!
# The console

The console collects output until it is printed and owns the two modes that take the typed line over: the pager and the
chain of questions. If both are on, the pager comes first.
-/

namespace RemoteShell

/-- A line of output. -/
inductive OutputLine where
  | echo (text : String)
  | error (text : String)
deriving DecidableEq, Repr

/-- A line as it is printed. -/
def OutputLine.styled (style : Style) : OutputLine → String
  | .echo text => text
  | .error text => paint .error text style

/-- The output not yet printed, the two input modes, the prompt for commands and the style. -/
structure Console where
  queue : List OutputLine := []
  pager : Pager
  reader : Reader := {}
  prompt : String
  style : Style
deriving DecidableEq

namespace Console

/-- Adds lines of plain output. -/
def echoAll (c : Console) (lines : List String) : Console :=
  { c with queue := c.queue ++ lines.map .echo }

/-- Adds a line of plain output. -/
def echo (c : Console) (line : String) : Console :=
  c.echoAll [line]

/-- Adds an error line. -/
def error (c : Console) (line : String) : Console :=
  { c with queue := c.queue ++ [.error line] }

/-- Adds output that goes through the pager. -/
def page (c : Console) (lines : List String) : Console :=
  let (pager, shown) := c.pager.page lines
  { c with pager }.echoAll shown

/-- Takes the output that has not been printed. -/
def drain (c : Console) : Console × List OutputLine :=
  ({ c with queue := [] }, c.queue)

/-- The prompt for the next line, which names the mode that takes it. -/
def promptText (c : Console) : String :=
  if c.pager.isActive then Pager.morePrompt else c.reader.prompt.getD c.prompt

/-- Gives the pager a key. -/
def pagerKey (c : Console) (line : String) : Console :=
  let (pager, shown) := c.pager.key line
  { c with pager }.echoAll shown

/-- Whether paging is on. -/
def paging (c : Console) : Bool :=
  c.pager.enabled

/-- Turns paging on or off. -/
def setPaging (c : Console) (enabled : Bool) : Console :=
  { c with pager := c.pager.setEnabled enabled }

/-- Carries a step of the reader out. -/
def follow (c : Console) (step : ReaderStep) : Console × Option (Nat × Answers) :=
  ({ c with reader := step.reader }.echoAll step.shown, step.settled)

/-- Asks a chain of questions. -/
def read (c : Console) (questions : List Question) : Console × Option (Nat × Answers) :=
  c.follow (c.reader.start questions)

/-- Takes a line as an answer. -/
def answer (c : Console) (line : String) : Console × Option (Nat × Answers) :=
  c.follow (c.reader.answer line)

/-- Drops what the pager holds, or else gives the open chain of questions up. -/
def interrupt (c : Console) : Console × Option (Nat × Answers) :=
  if c.pager.isActive then ({ c with pager := c.pager.cancel }, none) else c.follow c.reader.cancel

/-- Whether there is anything to interrupt. -/
def isInterruptible (c : Console) : Bool :=
  c.pager.isActive || c.reader.isActive

/-- While lines are held, the prompt asks for a key. -/
theorem promptText_pager {c : Console} (h : c.pager.isActive = true) : c.promptText = "-- more --" := by
  simp [promptText, h, Pager.morePrompt]

end Console

end RemoteShell
