import RemoteShell.Binding.Position
import RemoteShell.Completion.Cursor
import RemoteShell.Path
import RemoteShell.Schema.Registry
import RemoteShell.Service.Failure
import RemoteShell.Service.Reply
import RemoteShell.Service.Request
import RemoteShell.Token.Render

/-!
# Completion

Completion answers what could stand at the cursor. While the command itself is typed, it offers the names of commands.
Where nothing has been typed for an argument yet, it inserts the hint of that argument in parentheses. For a path that
has been typed in part it asks the service for the names that match, and offers them once they have come. Only the
latest request is waited for; an answer to any other is dropped.

Main statements:

* `start_nextId_le`: request numbers never go back.
-/

namespace RemoteShell

/-- What completion answers. -/
inductive Completion where
  | nothing
  /-- One of the items is to replace the line from the byte offset on, up to the cursor. -/
  | candidates (start : Nat) (items : List String)
  /-- The text is to be inserted at the cursor. -/
  | insert (text : String)
deriving DecidableEq, Repr

/-- Items to choose from; without any, there is nothing to offer. -/
def Completion.ofItems (start : Nat) (items : List String) : Completion :=
  if items.isEmpty then .nothing else .candidates start items

/-- What the service is asked: the names that begin like a path. -/
structure MatchRequest where
  /-- The number of the request. -/
  id : Nat
  /-- The path typed so far, in its absolute form. -/
  path : String
  /-- Only folders are asked for. -/
  container : Bool
deriving DecidableEq, Repr

/-- The parameters of a request for matching names. -/
def MatchRequest.params (r : MatchRequest) : Json :=
  Json.ofMembers [("path", .str r.path), ("container", .bool r.container)]

/-- The call of the service for a request for matching names. -/
def MatchRequest.call (r : MatchRequest) : Call :=
  { api := .file, op := "fcmp", params := r.params }

/-- What completion can say about a line by itself. -/
inductive Offer where
  | done (c : Completion)
  /-- The service has to be asked for the path being typed. -/
  | ask (typed : Typed) (path : String) (container : Bool)
deriving DecidableEq, Repr

namespace Offer

/-- Whether the argument before `target` was skipped though it is needed: then the line cannot bind any more. -/
def isStuck (c : Command) (target : Nat) (typed : Typed) (arguments : List Token) : Bool :=
  typed.name.isNone && (match arguments.getLast? with
    | some last => last.isPlaceholder
    | none => false) && target != 0 && (match c.arguments[target - 1]? with
    | some skipped => !skipped.isOptional
    | none => false)

/-- What is offered for the argument `a` at the position `target`. -/
def forArgument (c : Command) (a : Argument) (target : Nat) (typed : Typed) (arguments : List Token)
    (cwd : String) : Offer :=
  if typed.isEmpty then
    if isStuck c target typed arguments then .done .nothing else .done (.insert ("(" ++ a.hintText ++ ") "))
  else if a.isFile then .ask typed (Path.resolve cwd typed.value) a.isContainer
  else .done .nothing

/-- What is offered behind the name of a command and the tokens `arguments`. -/
def forCommand (c : Command) (typed : Typed) (arguments : List Token) (cwd : String) : Offer :=
  let target? := match typed.name with
    | some name => c.position? name
    | none => some (c.argumentPosition arguments)
  match target? with
  | none => .done .nothing
  | some target => match c.arguments[target]? with
    | none => .done .nothing
    | some a => forArgument c a target typed arguments cwd

/-- What is offered for a line before the cursor. -/
def of (registry : Registry) (view : CursorView) (cwd : String) : Offer :=
  match view.typed with
  | none => .done .nothing
  | some typed => match view.tokens with
    | [] => .done (Completion.ofItems view.start (registry.namesWithPrefix typed.value))
    | head :: arguments => match registry.lookup head.text with
      | none => .done .nothing
      | some c => forCommand c typed arguments cwd

end Offer

/-- A path completion that waits for the service. -/
structure PendingMatch where
  /-- The number of the request. -/
  id : Nat
  typed : Typed
  /-- Where the token being typed starts. -/
  start : Nat
deriving DecidableEq, Repr

namespace PendingMatch

/-- A path as it goes into the line: in the quotes it was typed in, or in quotes if it would not be read as one word.
The quotes of a folder stay open, so that typing can go on. -/
def candidateText (text : String) (mark : Option Char) : String :=
  let token := match mark with
    | some m => Token.closedQuote text m
    | none => wordOrQuoted text
  match token with
  | .quoted _ =>
    if text.toList.getLast? = some '/' then String.ofList token.render.toList.dropLast else token.render
  | _ => token.render

/-- The candidate for one name that matches, behind the folder part that was typed. -/
def candidate (p : PendingMatch) (name : String) : String :=
  (match p.typed.name with
    | some argument => argument ++ "="
    | none => "") ++ candidateText ((Path.splitTyped p.typed.value).1 ++ name) p.typed.mark

/-- The names in a reply with a positive status. -/
def matchesOf (value : Json) : List String :=
  match value.status with
  | some s => if 0 < s then (((value.get? "matches").bind Json.items?).getD []).filterMap Json.text? else []
  | none => []

/-- What is offered once the service has answered. -/
def answer (p : PendingMatch) : Outcome → Completion
  | .ok value => Completion.ofItems p.start ((matchesOf value).map p.candidate)
  | .error _ => .nothing

end PendingMatch

/-- The request that is waited for, and the number of the next one. -/
structure Completer where
  pending : Option PendingMatch := none
  nextId : Nat := 1
deriving DecidableEq, Repr

/-- What a completion comes to at once. -/
inductive CompletionStep where
  | done (c : Completion)
  | ask (r : MatchRequest)
deriving DecidableEq, Repr

namespace Completer

/-- Gives the request up that is waited for. -/
def reset (c : Completer) : Completer :=
  { c with pending := none }

/-- Starts a completion, in place of any before it. -/
def start (c : Completer) (registry : Registry) (line : String) (pos : Nat) (cwd : String) :
    Completer × CompletionStep :=
  let view := CursorView.of line pos
  match Offer.of registry view cwd with
  | .done answer => (c.reset, .done answer)
  | .ask typed path container =>
    ({ pending := some { id := c.nextId, typed, start := view.start }, nextId := c.nextId + 1 },
      .ask { id := c.nextId, path, container })

/-- Takes the answer to a request. -/
def resolve (c : Completer) (id : Nat) (outcome : Outcome) : Completer × Completion :=
  match c.pending with
  | none => (c, .nothing)
  | some p => if p.id = id then (c.reset, p.answer outcome) else (c, .nothing)

/-- **An answer to another request than the latest changes nothing and offers nothing.** -/
theorem resolve_stale {c : Completer} {id : Nat} (h : ∀ p, c.pending = some p → p.id ≠ id) (outcome : Outcome) :
    c.resolve id outcome = (c, .nothing) := by
  unfold resolve
  split
  · rfl
  · next p hp => rw [if_neg (h p hp)]

/-- Request numbers never go back. -/
theorem start_nextId_le (c : Completer) (registry : Registry) (line : String) (pos : Nat) (cwd : String) :
    c.nextId ≤ (c.start registry line pos cwd).1.nextId := by
  unfold start
  dsimp only
  split
  · exact Nat.le_refl _
  · exact Nat.le_succ _

end Completer

end RemoteShell
