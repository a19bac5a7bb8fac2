import RemoteShell.Token.Basic

/-!
# Dropping hints

Completion offers the next argument by putting a hint in parentheses into the line. `dropHints` takes the hints out
again before the line is bound. A hint that the user typed past is replaced by what follows it. A hint followed by
another one, or by the end of the line, was never answered; it leaves a placeholder, so that positions are still
counted right. A hint directly behind an empty `name=` belongs to that name: its answer becomes the named value, and
without an answer the value stays empty.

The filter is a fold over the tokens. Its state holds the tokens kept so far, newest first, and the phase it is in.
-/

namespace RemoteShell

/-- What a hint asks for: the next argument in order, or the value of the named token before it. -/
inductive HintSlot where
  | positional
  | named
deriving DecidableEq, Repr

/-- Where the filter stands. -/
inductive HintPhase where
  /-- Outside all hints. `open` tells that the last token kept is a name without a value. -/
  | outside (nameOpen : Bool)
  /-- Within a hint, below `depth` further opening parentheses. -/
  | inside (slot : HintSlot) (depth : Nat)
  /-- Directly behind a hint. -/
  | behind (slot : HintSlot)
deriving DecidableEq, Repr

/-- The tokens kept so far, newest first, and the phase. -/
structure HintFilter where
  kept : List Token := []
  phase : HintPhase := .outside false
deriving DecidableEq, Repr

namespace HintFilter

/-- Keeps a token that stands outside all hints. -/
def keep (kept : List Token) (token : Token) : HintFilter :=
  { kept := token :: kept
    phase := .outside (match token with
      | .named _ value => value.isPlaceholder
      | _ => false) }

/-- What an unanswered hint leaves behind: a placeholder for an argument in order, nothing for a name, whose value is
empty already. -/
def unanswered (slot : HintSlot) (kept : List Token) : List Token :=
  match slot with
  | .positional => Token.placeholder :: kept
  | .named => kept

/-- Gives the named token kept last the value that answers its hint. Only words and quoted texts are answers. -/
def answerName? (kept : List Token) (token : Token) : Option (List Token) :=
  match token, kept with
  | .named _ _, _ => none
  | .punct _, _ => none
  | _, .named name _ :: before => some (.named name token :: before)
  | _, _ => none

/-- Takes one more token in. -/
def feed (state : HintFilter) (token : Token) : HintFilter :=
  match state.phase with
  | .inside slot depth =>
    if token.isPunct '(' then { state with phase := .inside slot (depth + 1) }
    else if token.isPunct ')' then
      match depth with
      | 0 => { state with phase := .behind slot }
      | outer + 1 => { state with phase := .inside slot outer }
    else state
  | .outside nameOpen =>
    if token.isPunct '(' then { state with phase := .inside (if nameOpen then .named else .positional) 0 }
    else keep state.kept token
  | .behind slot =>
    if token.isPunct '(' then { kept := unanswered slot state.kept, phase := .inside .positional 0 }
    else match slot, answerName? state.kept token with
      | .named, some kept => { kept, phase := .outside false }
      | _, _ => keep state.kept token

/-- The tokens kept once the line has ended. -/
def finish (state : HintFilter) : List Token :=
  match state.phase with
  | .outside _ => state.kept.reverse
  | .inside slot _ => (unanswered slot state.kept).reverse
  | .behind slot => (unanswered slot state.kept).reverse

/-- What comes first is filtered without regard to what follows. -/
theorem feed_append (state : HintFilter) (xs ys : List Token) :
    (xs ++ ys).foldl feed state = ys.foldl feed (xs.foldl feed state) :=
  List.foldl_append

end HintFilter

/-- The tokens of a line without the hints that completion put into it. -/
def dropHints (tokens : List Token) : List Token :=
  (tokens.foldl HintFilter.feed {}).finish

end RemoteShell
