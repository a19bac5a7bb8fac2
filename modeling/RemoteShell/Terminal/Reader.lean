import RemoteShell.Text.Blank

/-!
# Questions to the user

A command may ask the user a chain of questions, one after the other; until the last is answered, the lines that the
user types are answers. A question is answered by one line, or by a body of lines that ends at a marker. All answers
are handed over together when the chain is complete. There is at most one chain at a time, and chains are numbered in
the order in which they are asked for.
-/

namespace RemoteShell

/-- One question. -/
inductive Question where
  /-- Answered by one line. -/
  | line (prompt : String)
  /-- Answered by the lines up to the first that is the marker, blanks around it aside. The banner is shown when the
  question is asked. -/
  | body (banner prompt marker : String)
deriving DecidableEq, Repr

namespace Question

/-- The prompt of a question. -/
def prompt : Question → String
  | .line prompt => prompt
  | .body _ prompt _ => prompt

/-- The lines shown when a question is asked. -/
def opening : Question → List String
  | .line _ => []
  | .body banner _ _ => if banner == "" then [] else [banner]

end Question

/-- Why there are no answers. -/
inductive ReadError where
  | cancelled
  | busy
deriving DecidableEq, Repr

/-- What is reported when there are no answers. -/
def ReadError.message : ReadError → String
  | .cancelled => "input cancelled"
  | .busy => "another prompt is already waiting for input"

/-- The answers to a chain of questions, or why there are none. -/
abbrev Answers := Except ReadError (List String)

/-- A chain of questions that is being answered. -/
structure Chain where
  /-- The number of the chain. -/
  id : Nat
  /-- The question that waits for an answer. -/
  current : Question
  /-- The questions still to be asked. -/
  rest : List Question
  /-- The answers so far. -/
  answers : List String := []
  /-- The lines so far of the body that is being answered. -/
  body : List String := []
deriving DecidableEq, Repr

/-- The open chain, if there is one, and how many chains have been asked for. -/
structure Reader where
  chain : Option Chain := none
  asked : Nat := 0
deriving DecidableEq, Repr

/-- A step of the reader: its new state, the lines to be shown, and the chain that came to its end with its answers. -/
structure ReaderStep where
  reader : Reader
  shown : List String := []
  settled : Option (Nat × Answers) := none

namespace Reader

/-- Whether a chain is open. -/
def isActive (r : Reader) : Bool :=
  r.chain.isSome

/-- The prompt of the question that waits for an answer. -/
def prompt (r : Reader) : Option String :=
  r.chain.map (·.current.prompt)

/-- Asks a chain of questions. -/
def start (r : Reader) (questions : List Question) : ReaderStep :=
  let counted := { r with asked := r.asked + 1 }
  match r.chain, questions with
  | some _, _ => { reader := counted, settled := some (r.asked, .error .busy) }
  | none, [] => { reader := counted, settled := some (r.asked, .ok []) }
  | none, current :: rest =>
    { reader := { counted with chain := some { id := r.asked, current, rest } }, shown := current.opening }

/-- Goes on to the next question, or hands the answers over after the last. -/
def advance (r : Reader) (c : Chain) (answers : List String) : ReaderStep :=
  match c.rest with
  | next :: rest =>
    { reader := { r with chain := some { id := c.id, current := next, rest, answers } }, shown := next.opening }
  | [] => { reader := { r with chain := none }, settled := some (c.id, .ok answers) }

/-- Takes a line as an answer. -/
def answer (r : Reader) (line : String) : ReaderStep :=
  match r.chain with
  | none => { reader := r }
  | some c => match c.current with
    | .line _ => advance r c (c.answers ++ [line])
    | .body _ _ marker =>
      if Text.trimmed line == marker then advance r c (c.answers ++ ["\n".intercalate c.body])
      else { reader := { r with chain := some { c with body := c.body ++ [line] } } }

/-- Gives the open chain up. -/
def cancel (r : Reader) : ReaderStep :=
  match r.chain with
  | none => { reader := r }
  | some c => { reader := { r with chain := none }, settled := some (c.id, .error .cancelled) }

end Reader

end RemoteShell
