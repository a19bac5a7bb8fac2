import RemoteShell.Proofs.Token.Hints

/-!
# The pieces of a line

A line falls into pieces: the tokens outside all hints, and the hints, each from its opening parenthesis to the one that
closes it, or to the end of the line if there is none. What a piece leaves in the line once the hints are dropped depends
on its neighbours alone. A token leaves itself and a hint nothing, with two exceptions. A word or a quoted text right
behind the hint of a name goes to that name, as its value. And a hint that is for no name leaves a placeholder if it has
no answer, because another hint or the end of the line follows.

The filter goes through the line from left to right and cannot look ahead, so it keeps open what a name or a hint comes
to until the piece behind it is there. `HintFilter.Stands` says which pieces are still open in each phase.

Main statements:

* `exists_isCut`: every line falls into pieces.
* `HintFilter.Foresees.token`, `HintFilter.Foresees.hint`: the filter, one piece at a time.
* `dropHints_flatMap`: the filter, over a whole line.
* `dropHints_accounts`: what becomes of every token and of every hint.
-/

namespace RemoteShell

/-- A piece of a line. -/
inductive Piece where
  /-- A token outside all hints. -/
  | token (token : Token)
  /-- A hint, by the tokens behind its opening parenthesis, and whether a closing one follows them. -/
  | hint (inner : List Token) (closed : Bool)
deriving DecidableEq, Repr

namespace Piece

/-- The tokens of a piece. -/
def tokens : Piece → List Token
  | .token t => [t]
  | .hint inner true => .punct '(' :: (inner ++ [.punct ')'])
  | .hint inner false => .punct '(' :: inner

def isHint : Piece → Bool
  | .token _ => false
  | .hint _ _ => true

/-- Whether a piece is a name without a value. -/
def isOpenName : Piece → Bool
  | .token (.named _ value) => value.isPlaceholder
  | _ => false

/-- The answer that a piece can be to a hint: a word or a quoted text. -/
def answer? : Piece → Option Token
  | .token (.word text) => some (.word text)
  | .token (.quoted q) => some (.quoted q)
  | _ => none

/-- Whether a hint right behind these pieces, the nearest first, is for a name. -/
def asksName : List Piece → Bool
  | [] => false
  | last :: _ => last.isOpenName

/-- Whether what stands right behind these pieces, the nearest first, stands behind the hint of a name. -/
def answersName : List Piece → Bool
  | .hint _ _ :: before => asksName before
  | _ => false

/-- The answer that a name gets from the pieces behind it. -/
def answerFrom? : List Piece → Option Token
  | .hint _ _ :: piece :: _ => piece.answer?
  | _ => none

/-- What a piece leaves in the line, given the pieces before it, the nearest first, and those behind it. -/
def left (before : List Piece) (piece : Piece) (behind : List Piece) : List Token :=
  match piece with
  | .token (.named name value) =>
    if value.isPlaceholder then [.named name ((answerFrom? behind).getD value)] else [.named name value]
  | .token t => if answersName before && (Piece.token t).answer?.isSome then [] else [t]
  | .hint _ _ => if asksName before then [] else if behind.head?.all isHint then [Token.placeholder] else []

/-- What pieces leave in the line, given those before them, the nearest first. -/
def leftAll (before : List Piece) : List Piece → List Token
  | [] => []
  | piece :: behind => piece.left before behind ++ leftAll (piece :: before) behind

end Piece

/-! ## Cutting a line -/

/-- Tokens in which some parentheses are never closed, and no others are amiss. -/
inductive Unclosed : List Token → Prop
  | within {tokens : List Token} (balanced : Balanced tokens) : Unclosed tokens
  | nested {before inner : List Token} (balanced : Balanced before) (inside : Unclosed inner) :
      Unclosed (before ++ .punct '(' :: inner)

/-- Pieces that a line falls into: no token outside the hints opens one, each hint goes to the parenthesis that closes it,
and only the last one may lack it. -/
inductive IsCut : List Piece → Prop
  | nil : IsCut []
  | token {token : Token} {rest : List Piece} (hopen : token.isPunct '(' = false) (tail : IsCut rest) :
      IsCut (.token token :: rest)
  | hint {inner : List Token} {rest : List Piece} (inside : Balanced inner) (tail : IsCut rest) :
      IsCut (.hint inner true :: rest)
  | unclosed {inner : List Token} (inside : Unclosed inner) : IsCut [.hint inner false]

theorem Balanced.append {before rest : List Token} (h : Balanced before) (hrest : Balanced rest) :
    Balanced (before ++ rest) := by
  induction h with
  | nil => exact hrest
  | plain hopen hclose tail ih => exact Balanced.plain hopen hclose ih
  | nested inside tail ihInner ihRest =>
      rw [List.cons_append, List.append_assoc, List.cons_append]
      exact Balanced.nested inside ihRest

theorem Unclosed.prepend {before rest : List Token} (h : Balanced before) (hrest : Unclosed rest) :
    Unclosed (before ++ rest) := by
  cases hrest with
  | within balanced => exact Unclosed.within (h.append balanced)
  | nested balanced inside =>
      rw [← List.append_assoc]
      exact Unclosed.nested (h.append balanced) inside

/-- **Behind an opening parenthesis,** the line comes to the one that closes it, or goes on to its end without. -/
theorem closes_or_unclosed (tokens : List Token) :
    (∃ inner behind, Balanced inner ∧ tokens = inner ++ .punct ')' :: behind) ∨ Unclosed tokens := by
  induction hlength : tokens.length using Nat.strongRecOn generalizing tokens with
  | ind length ih =>
      match tokens with
      | [] => exact Or.inr (Unclosed.within Balanced.nil)
      | token :: rest =>
          subst hlength
          by_cases hclose : token.isPunct ')' = true
          · obtain rfl := Token.eq_of_isPunct hclose
            exact Or.inl ⟨[], rest, Balanced.nil, rfl⟩
          · by_cases hopen : token.isPunct '(' = true
            · obtain rfl := Token.eq_of_isPunct hopen
              rcases ih rest.length (by simp) rest rfl with ⟨inner, behind, hinner, rfl⟩ | hrest
              · -- What is closed here stands before what the rest comes to.
                have hnested : Balanced (.punct '(' :: (inner ++ .punct ')' :: [])) :=
                  Balanced.nested hinner Balanced.nil
                have hshort : behind.length < (Token.punct '(' :: (inner ++ .punct ')' :: behind)).length := by
                  simp
                  omega
                rcases ih behind.length hshort behind rfl with ⟨more, last, hmore, rfl⟩ | hbehind
                · exact Or.inl ⟨_, last, hnested.append hmore, by simp⟩
                · have hwhole := Unclosed.prepend hnested hbehind
                  simp only [List.cons_append, List.append_assoc, List.nil_append] at hwhole
                  exact Or.inr hwhole
              · exact Or.inr (Unclosed.nested Balanced.nil hrest)
            · have hplain : Balanced [token] :=
                Balanced.plain (by simpa using hopen) (by simpa using hclose) Balanced.nil
              rcases ih rest.length (by simp) rest rfl with ⟨inner, behind, hinner, rfl⟩ | hrest
              · exact Or.inl ⟨token :: inner, behind, hplain.append hinner, rfl⟩
              · exact Or.inr (Unclosed.prepend hplain hrest)

/-- **Every line falls into pieces.** -/
theorem exists_isCut (tokens : List Token) : ∃ pieces, IsCut pieces ∧ pieces.flatMap Piece.tokens = tokens := by
  induction hlength : tokens.length using Nat.strongRecOn generalizing tokens with
  | ind length ih =>
      match tokens with
      | [] => exact ⟨[], IsCut.nil, rfl⟩
      | token :: rest =>
          subst hlength
          by_cases hopen : token.isPunct '(' = true
          · obtain rfl := Token.eq_of_isPunct hopen
            rcases closes_or_unclosed rest with ⟨inner, behind, hinner, rfl⟩ | hrest
            · obtain ⟨pieces, hcut, rfl⟩ := ih behind.length (by simp; omega) behind rfl
              exact ⟨.hint inner true :: pieces, IsCut.hint hinner hcut, by simp [Piece.tokens]⟩
            · exact ⟨[.hint rest false], IsCut.unclosed hrest, by simp [Piece.tokens]⟩
          · obtain ⟨pieces, hcut, rfl⟩ := ih rest.length (by simp) rest rfl
            exact ⟨.token token :: pieces, IsCut.token (by simpa using hopen) hcut, by simp [Piece.tokens]⟩

/-! ## What pieces leave -/

namespace Piece

/-- Nothing opens a hint in what pieces leave, if no token outside the hints does. -/
theorem not_open_of_mem_leftAll {pieces : List Piece} (h : IsCut pieces) (before : List Piece) :
    ∀ token ∈ leftAll before pieces, token.isPunct '(' = false := by
  induction h generalizing before with
  | nil => simp [leftAll]
  | @token first rest hopen tail ih =>
      refine List.forall_mem_append.mpr ⟨?_, ih _⟩
      cases first with
      | named name value =>
          simp only [left]
          split <;> simp [Token.isPunct]
      | word | quoted | punct =>
          simp only [left]
          split
          · simp
          · simpa using hopen
  | @hint inner rest inside tail ih =>
      refine List.forall_mem_append.mpr ⟨?_, ih _⟩
      simp only [left]
      split
      · simp
      · split <;> simp [Token.placeholder, Token.isPunct]
  | unclosed inside =>
      refine List.forall_mem_append.mpr ⟨?_, by simp [leftAll]⟩
      simp only [left]
      split
      · simp
      · split <;> simp [Token.placeholder, Token.isPunct]

end Piece

/-! ## The filter, piece by piece -/

namespace HintFilter

open Piece

/-- **Where the filter stands** behind a piece. `settled` is what the line has come to for sure, with the pieces `before`,
the nearest first. What the pieces `waiting` leave depends on what comes next. -/
inductive Stands : HintFilter → List Token → List Piece → List Piece → Prop
  | clear {kept : List Token} {before : List Piece} (hasks : asksName before = false)
      (hanswers : answersName before = false) :
      Stands { kept, phase := .outside false } kept.reverse before []
  | name {kept : List Token} {before : List Piece} {name : String} {value : Token} (hvalue : value.isPlaceholder = true) :
      Stands { kept := .named name value :: kept, phase := .outside true } kept.reverse before
        [.token (.named name value)]
  | hint {kept : List Token} {before : List Piece} {inner : List Token} (hasks : asksName before = false) :
      Stands { kept, phase := .behind .positional } kept.reverse before [.hint inner true]
  | nameHint {kept : List Token} {before : List Piece} {name : String} {value : Token} {inner : List Token}
      (hvalue : value.isPlaceholder = true) :
      Stands { kept := .named name value :: kept, phase := .behind .named } kept.reverse before
        [.token (.named name value), .hint inner true]

/-- Whatever pieces follow, the line comes to `outcome`. -/
def Foresees (state : HintFilter) (outcome : List Piece → List Token) : Prop :=
  ∃ settled before waiting, Stands state settled before waiting ∧
    ∀ behind, outcome behind = settled ++ leftAll before (waiting ++ behind)

/-- A token that is kept. -/
theorem foresees_keep (kept : List Token) {before : List Piece} {token : Token}
    (h : answersName before = false ∨ (Piece.token token).answer? = none) :
    Foresees (keep kept token) fun behind => kept.reverse ++ leftAll before (.token token :: behind) := by
  by_cases hname : (Piece.token token).isOpenName = true
  · cases token with
    | named name value =>
        have hvalue : value.isPlaceholder = true := hname
        have hkeep : keep kept (.named name value) = { kept := .named name value :: kept, phase := .outside true } := by
          simp [keep, hvalue]
        refine ⟨kept.reverse, before, [.token (.named name value)], ?_, fun behind => rfl⟩
        rw [hkeep]
        exact Stands.name hvalue
    | word | quoted | punct => simp [isOpenName] at hname
  · have hopen : (Piece.token token).isOpenName = false := by simpa using hname
    have hkeep : keep kept token = { kept := token :: kept, phase := .outside false } := by
      cases token with
      | named name value => simp [keep, show value.isPlaceholder = false from hopen]
      | word | quoted | punct => rfl
    have hleft : ∀ behind, (Piece.token token).left before behind = [token] := by
      intro behind
      cases token with
      | named name value => simp [left, show value.isPlaceholder = false from hopen]
      | punct mark => simp [left, answer?]
      | word | quoted =>
          have hanswers : answersName before = false := h.resolve_right (by simp [answer?])
          simp [left, hanswers]
    refine ⟨(token :: kept).reverse, .token token :: before, [], ?_, fun behind => ?_⟩
    · rw [hkeep]
      exact Stands.clear hopen rfl
    · simp [leftAll, hleft]

variable {state : HintFilter} {outcome : List Piece → List Token}

/-- **One more token outside the hints.** -/
theorem Foresees.token (h : state.Foresees outcome) {token : Token} (hopen : token.isPunct '(' = false) :
    (feed state token).Foresees fun behind => outcome (.token token :: behind) := by
  obtain ⟨settled, before, waiting, hstands, houtcome⟩ := h
  simp only [houtcome]
  cases hstands with
  | @clear kept _ hasks hanswers =>
      have hfeed : feed { kept, phase := .outside false } token = keep kept token := by simp [feed, hopen]
      rw [hfeed]
      exact foresees_keep kept (Or.inl hanswers)
  | @name kept _ name value hvalue =>
      have hfeed : feed { kept := .named name value :: kept, phase := .outside true } token =
          keep (.named name value :: kept) token := by simp [feed, hopen]
      have hkept := @foresees_keep (.named name value :: kept) (.token (.named name value) :: before) token
        (Or.inl rfl)
      rw [hfeed]
      simpa [leftAll, left, hvalue, answerFrom?] using hkept
  | @hint kept _ inner hasks =>
      have hfeed : feed { kept, phase := .behind .positional } token = keep kept token := by simp [feed, hopen]
      have hkept := @foresees_keep kept (.hint inner true :: before) token (Or.inl hasks)
      rw [hfeed]
      simpa [leftAll, left, hasks, isHint] using hkept
  | @nameHint kept _ name value inner hvalue =>
      cases hanswer : (Piece.token token).answer? with
      | none =>
          have hfeed : feed { kept := .named name value :: kept, phase := .behind .named } token =
              keep (.named name value :: kept) token := by
            cases token with
            | named => simp [feed, Token.isPunct, answerName?]
            | punct => simp [feed, hopen, answerName?]
            | word | quoted => simp [answer?] at hanswer
          have hkept := @foresees_keep (.named name value :: kept)
            (.hint inner true :: .token (.named name value) :: before) token (Or.inr hanswer)
          rw [hfeed]
          simpa [leftAll, left, hvalue, answerFrom?, hanswer, asksName, isOpenName] using hkept
      | some answer =>
          -- The word is the value of the name, and settles all three pieces.
          obtain rfl : token = answer := by
            cases token <;> simp_all [answer?]
          have hfeed : feed { kept := .named name value :: kept, phase := .behind .named } token =
              { kept := .named name token :: kept, phase := .outside false } := by
            cases token with
            | word | quoted => simp [feed, Token.isPunct, answerName?]
            | named | punct => simp [answer?] at hanswer
          have hmoved : ∀ behind,
              (Piece.token token).left (.hint inner true :: .token (.named name value) :: before) behind = [] := by
            intro behind
            cases token <;> simp_all [left, answersName, asksName, isOpenName, answer?]
          refine ⟨(.named name token :: kept).reverse,
            .token token :: .hint inner true :: .token (.named name value) :: before, [], ?_, fun behind => ?_⟩
          · rw [hfeed]
            refine Stands.clear ?_ rfl
            cases token <;> simp_all [asksName, isOpenName, answer?]
          · simp only [List.cons_append, List.nil_append, leftAll, hmoved]
            simp [left, hvalue, answerFrom?, hanswer, asksName, isOpenName]

/-- **One more whole hint.** -/
theorem Foresees.hint (h : state.Foresees outcome) (inner : List Token) :
    state.skipHint.Foresees fun behind => outcome (.hint inner true :: behind) := by
  obtain ⟨settled, before, waiting, hstands, houtcome⟩ := h
  simp only [houtcome]
  cases hstands with
  | clear hasks hanswers => exact ⟨_, _, _, Stands.hint hasks, fun behind => rfl⟩
  | name hvalue => exact ⟨_, _, _, Stands.nameHint hvalue, fun behind => rfl⟩
  | @hint kept _ first hasks =>
      refine ⟨_, .hint first true :: before, [.hint inner true], Stands.hint rfl, fun behind => ?_⟩
      simp [unanswered, leftAll, left, hasks, isHint]
  | @nameHint kept _ name value first hvalue =>
      refine ⟨_, .hint first true :: .token (.named name value) :: before, [.hint inner true], Stands.hint rfl,
        fun behind => ?_⟩
      simp [unanswered, leftAll, left, hvalue, answerFrom?, answer?, asksName, isOpenName]

/-- The end of the line. -/
theorem Foresees.finish (h : state.Foresees outcome) : state.finish = outcome [] := by
  obtain ⟨settled, before, waiting, hstands, houtcome⟩ := h
  rw [houtcome]
  cases hstands with
  | clear hasks hanswers => simp [HintFilter.finish, leftAll]
  | name hvalue => simp [HintFilter.finish, leftAll, left, hvalue, answerFrom?]
  | hint hasks => simp [HintFilter.finish, unanswered, leftAll, left, hasks]
  | nameHint hvalue => simp [HintFilter.finish, unanswered, leftAll, left, hvalue, answerFrom?, asksName, isOpenName]

/-- Within a hint, tokens that do not close it are dropped, but the parentheses that they leave open are counted. -/
theorem foldl_feed_unclosed {inner : List Token} (h : Unclosed inner) (kept : List Token) (slot : HintSlot)
    (depth : Nat) :
    ∃ depth', inner.foldl feed { kept, phase := .inside slot depth } = { kept, phase := .inside slot depth' } := by
  induction h generalizing depth with
  | within balanced => exact ⟨depth, foldl_feed_balanced balanced rfl⟩
  | @nested before inner balanced inside ih =>
      obtain ⟨depth', hinner⟩ := ih (depth + 1)
      refine ⟨depth', ?_⟩
      have hopen : feed { kept, phase := .inside slot depth } (.punct '(') = { kept, phase := .inside slot (depth + 1) } :=
        rfl
      rw [feed_append, foldl_feed_balanced balanced rfl, List.foldl_cons, hopen, hinner]

/-- A hint that is not closed has no answer, like one at the end of the line. -/
theorem finish_foldl_unclosed {inner : List Token} (hinner : Unclosed inner) {state : HintFilter}
    (hout : ∀ slot depth, state.phase ≠ .inside slot depth) :
    ((.punct '(' :: inner).foldl feed state).finish = state.skipHint.finish := by
  obtain ⟨kept, phase⟩ := state
  rw [List.foldl_cons]
  cases phase with
  | inside slot depth => exact absurd rfl (hout slot depth)
  | outside nameOpen =>
      have hopen : feed { kept, phase := .outside nameOpen } (.punct '(') =
          { kept, phase := .inside (if nameOpen then .named else .positional) 0 } := rfl
      obtain ⟨depth, hfold⟩ := foldl_feed_unclosed hinner kept (if nameOpen then .named else .positional) 0
      rw [hopen, hfold]
      rfl
  | behind slot =>
      have hopen : feed { kept, phase := .behind slot } (.punct '(') =
          { kept := unanswered slot kept, phase := .inside .positional 0 } := rfl
      obtain ⟨depth, hfold⟩ := foldl_feed_unclosed hinner (unanswered slot kept) .positional 0
      rw [hopen, hfold]
      rfl

/-- The end of the line, behind a hint that is not closed. -/
theorem Foresees.finish_unclosed (h : state.Foresees outcome) {inner : List Token} (hinner : Unclosed inner) :
    ((.punct '(' :: inner).foldl feed state).finish = outcome [.hint inner false] := by
  have hout : ∀ slot depth, state.phase ≠ .inside slot depth := by
    intro slot depth
    obtain ⟨_, _, _, hstands, -⟩ := h
    cases hstands <;> simp
  rw [finish_foldl_unclosed hinner hout, (h.hint inner).finish]
  obtain ⟨settled, before, waiting, hstands, houtcome⟩ := h
  rw [houtcome, houtcome]
  -- Whether a hint is closed makes no difference to what its neighbours leave.
  cases hstands <;> rfl

/-- **The filter, from one piece to the next.** -/
theorem Foresees.flatMap {pieces : List Piece} (hcut : IsCut pieces) {state : HintFilter}
    {outcome : List Piece → List Token} (h : state.Foresees outcome) :
    ((pieces.flatMap Piece.tokens).foldl feed state).finish = outcome pieces := by
  induction hcut generalizing state outcome with
  | nil => exact h.finish
  | token hopen tail ih => exact ih (h.token hopen)
  | @hint inner rest inside tail ih =>
      rw [List.flatMap_cons, feed_append]
      have hhint : (Piece.hint inner true).tokens.foldl feed state = state.skipHint := foldl_feed_hint inside state
      rw [hhint]
      exact ih (h.hint inner)
  | @unclosed inner inside =>
      rw [List.flatMap_cons, List.flatMap_nil, List.append_nil]
      exact h.finish_unclosed inside

end HintFilter

/-- **What becomes of a line whose hints are dropped,** piece by piece. -/
theorem dropHints_flatMap {pieces : List Piece} (hcut : IsCut pieces) :
    dropHints (pieces.flatMap Piece.tokens) = Piece.leftAll [] pieces :=
  HintFilter.Foresees.flatMap hcut ⟨[], [], [], HintFilter.Stands.clear rfl rfl, fun _ => rfl⟩

/-- Where no name waits, what follows is filtered on its own. -/
theorem HintFilter.finish_foldl_outside (kept tokens : List Token) :
    (tokens.foldl feed { kept, phase := .outside false }).finish = kept.reverse ++ dropHints tokens := by
  obtain ⟨pieces, hcut, rfl⟩ := exists_isCut tokens
  rw [dropHints_flatMap hcut]
  exact Foresees.flatMap hcut ⟨kept.reverse, [], [], Stands.clear rfl rfl, fun _ => rfl⟩

/-- The answer to a name moves, and of two hints in a row without a name, each that has no answer leaves its mark. -/
example : dropHints ([.token (.named "to" Token.placeholder), .hint [.word "target"] true, .token (.word "x"),
    .hint [.word "a", .punct '(', .word "b", .punct ')'] true, .hint [.word "c"] false].flatMap Piece.tokens) =
    [.named "to" (.word "x"), Token.placeholder, Token.placeholder] := by
  decide

/-! ## Names stay in their places -/

namespace HintFilter

/-- Whether a name is kept in a place of the line. -/
def HasName (kept : List Token) (place : Nat) : Prop :=
  ∃ name value, kept.reverse[place]? = some (.named name value)

theorem HasName.cons {kept : List Token} {place : Nat} (h : HasName kept place) (token : Token) :
    HasName (token :: kept) place := by
  obtain ⟨name, value, hplace⟩ := h
  have hlt : place < kept.reverse.length := (List.getElem?_eq_some_iff.mp hplace).1
  refine ⟨name, value, ?_⟩
  rw [List.reverse_cons, List.getElem?_append_left hlt, hplace]

theorem HasName.unanswered {kept : List Token} {place : Nat} (h : HasName kept place) (slot : HintSlot) :
    HasName (unanswered slot kept) place := by
  cases slot with
  | positional => exact h.cons _
  | named => exact h

/-- The name kept last is in the last place, whatever its value is. -/
theorem hasName_last (kept : List Token) (name : String) (value : Token) :
    HasName (.named name value :: kept) kept.length :=
  ⟨name, value, by simp⟩

theorem HasName.answerName? {kept kept' : List Token} {place : Nat} (h : HasName kept place) {token : Token}
    (hanswer : answerName? kept token = some kept') : HasName kept' place := by
  unfold HintFilter.answerName? at hanswer
  split at hanswer
  · cases hanswer
  · cases hanswer
  · next name value before _ _ =>
      obtain rfl := Option.some.inj hanswer
      by_cases hlast : place = before.length
      · rw [hlast]
        exact hasName_last before name token
      · obtain ⟨other, held, hplace⟩ := h
        have hlt : place < before.length := by
          have hle := (List.getElem?_eq_some_iff.mp hplace).1
          simp only [List.length_reverse, List.length_cons] at hle
          omega
        rw [List.reverse_cons, List.getElem?_append_left (by simpa using hlt)] at hplace
        exact HasName.cons ⟨other, held, hplace⟩ _
  · cases hanswer

/-- **One more token leaves every name in its place,** though perhaps with another value. -/
theorem HasName.feed {state : HintFilter} {place : Nat} (h : HasName state.kept place) (token : Token) :
    HasName (state.feed token).kept place := by
  unfold HintFilter.feed
  split
  · split
    · exact h
    · split
      · split
        · exact h
        · exact h
      · exact h
  · split
    · exact h
    · exact h.cons token
  · split
    · exact h.unanswered _
    · split
      · next hanswer _ => exact h.answerName? hanswer
      · exact h.cons token

/-- **A name that has been kept is in the same place of the line that is left.** -/
theorem HasName.finish {state : HintFilter} {place : Nat} (h : HasName state.kept place) (tokens : List Token) :
    ∃ name value, (tokens.foldl HintFilter.feed state).finish[place]? = some (.named name value) := by
  induction tokens generalizing state with
  | nil =>
      rw [List.foldl_nil]
      unfold HintFilter.finish
      split
      · exact h
      · exact h.unanswered _
      · exact h.unanswered _
  | cons token rest ih => exact ih (h.feed token)

end HintFilter

/-- **What becomes of every token and of every hint.** A line falls into pieces, and however it does, what is left of it
is what its pieces leave. Nothing in it opens a hint, so that dropping hints once is enough, and a line without hints
stays as it is. Where a hint is read that is for a name, or may follow that is, the token kept last is a name, and what is
left of the line has a name in that place. -/
theorem dropHints_accounts (tokens : List Token) :
    (∃ pieces, IsCut pieces ∧ pieces.flatMap Piece.tokens = tokens) ∧
      (∀ pieces, IsCut pieces → pieces.flatMap Piece.tokens = tokens → dropHints tokens = Piece.leftAll [] pieces) ∧
      (∀ token ∈ dropHints tokens, token.isPunct '(' = false) ∧
      dropHints (dropHints tokens) = dropHints tokens ∧
      ((∀ token ∈ tokens, token.isPunct '(' = false) → dropHints tokens = tokens) ∧
      ∀ before behind, before ++ behind = tokens → (before.foldl HintFilter.feed {}).phase.isForName = true →
        ∃ name value,
          (dropHints tokens)[(before.foldl HintFilter.feed {}).kept.length - 1]? = some (.named name value) := by
  obtain ⟨pieces, hcut, rfl⟩ := exists_isCut tokens
  have hclosed : ∀ token ∈ dropHints (pieces.flatMap Piece.tokens), token.isPunct '(' = false := by
    rw [dropHints_flatMap hcut]
    exact Piece.not_open_of_mem_leftAll hcut []
  refine ⟨⟨pieces, hcut, rfl⟩, ?_, hclosed, dropHints_of_no_open hclosed, dropHints_of_no_open, ?_⟩
  · intro others hothers hsame
    rw [← hsame]
    exact dropHints_flatMap hothers
  · intro before behind hsplit hname
    obtain ⟨name, value, kept, hkept, -⟩ := HintFilter.nameWaits_foldl before hname
    have hplace : HintFilter.HasName (before.foldl HintFilter.feed {}).kept
        ((before.foldl HintFilter.feed {}).kept.length - 1) := by
      rw [hkept]
      exact HintFilter.hasName_last kept name value
    rw [← hsplit, dropHints, HintFilter.feed_append]
    exact hplace.finish behind

end RemoteShell
