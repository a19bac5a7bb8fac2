import RemoteShell.Token.Hints

/-!
# Lines and their hints

The filter that drops hints, as a walk: what a stretch of tokens without parentheses makes of its state, what a whole
hint does, and what becomes of the word that answers it.

An answer is taken for what it was asked for only in some phases. Within an open parenthesis it is lost. Behind a name
that has no value, or the skip marker for one, it becomes the value of that name. And a hint for an argument in order
that stands before a name leaves a placeholder in the line as completion sees it, but none in the line once the name is
there.

Main statements:

* `dropHints_of_no_open`: a line without an opening parenthesis has nothing to drop.
* `HintFilter.foldl_feed_hint`: what a whole hint does in each phase.
* `HintFilter.finish_answer_iff`, `HintFilter.finish_namedAnswer_iff`: when an answer is taken for what was asked.
-/

namespace RemoteShell

theorem Token.eq_of_isPunct {token : Token} {mark : Char} (h : token.isPunct mark = true) : token = .punct mark := by
  cases token with
  | punct other => rw [beq_iff_eq.mp h]
  | word => simp [isPunct] at h
  | quoted => simp [isPunct] at h
  | named => simp [isPunct] at h

/-- Tokens whose parentheses close each other. -/
inductive Balanced : List Token → Prop
  | nil : Balanced []
  | plain {token : Token} {rest : List Token} (hopen : token.isPunct '(' = false) (hclose : token.isPunct ')' = false)
      (tail : Balanced rest) : Balanced (token :: rest)
  | nested {inner rest : List Token} (inside : Balanced inner) (tail : Balanced rest) :
      Balanced (.punct '(' :: (inner ++ .punct ')' :: rest))

theorem balanced_of_no_parentheses {tokens : List Token}
    (h : ∀ token ∈ tokens, token.isPunct '(' = false ∧ token.isPunct ')' = false) : Balanced tokens := by
  induction tokens with
  | nil => exact Balanced.nil
  | cons token rest ih =>
      obtain ⟨hopen, hclose⟩ := h token (by simp)
      exact Balanced.plain hopen hclose (ih fun t ht => h t (List.mem_cons_of_mem _ ht))

/-- Whether a hint is for a name, or would be if it came now. -/
def HintPhase.isForName : HintPhase → Bool
  | .outside nameOpen => nameOpen
  | .inside slot _ => slot == .named
  | .behind slot => slot == .named

namespace HintFilter

/-- Outside all hints, tokens that open none are kept, and the filter stays outside. -/
theorem foldl_feed_of_no_open {tokens : List Token} (h : ∀ token ∈ tokens, token.isPunct '(' = false)
    {state : HintFilter} {nameOpen : Bool} (hphase : state.phase = .outside nameOpen) :
    ∃ nameOpen', tokens.foldl feed state = { kept := tokens.reverse ++ state.kept, phase := .outside nameOpen' } := by
  induction tokens generalizing state nameOpen with
  | nil => exact ⟨nameOpen, by rw [List.foldl_nil, ← hphase]; rfl⟩
  | cons token rest ih =>
      have htoken : token.isPunct '(' = false := h token (by simp)
      have hfeed : feed state token = keep state.kept token := by simp [feed, hphase, htoken]
      obtain ⟨nameOpen', hrest⟩ := @ih (fun t ht => h t (List.mem_cons_of_mem _ ht)) (keep state.kept token) _ rfl
      refine ⟨nameOpen', ?_⟩
      rw [List.foldl_cons, hfeed, hrest]
      simp [keep]

/-- Within a hint, tokens whose parentheses close each other are dropped. -/
theorem foldl_feed_balanced {tokens : List Token} (h : Balanced tokens) {state : HintFilter} {slot : HintSlot}
    {depth : Nat} (hphase : state.phase = .inside slot depth) : tokens.foldl feed state = state := by
  induction h generalizing state depth with
  | nil => rfl
  | @plain token rest hopen hclose tail ih =>
      have hfeed : feed state token = state := by simp [feed, hphase, hopen, hclose]
      rw [List.foldl_cons, hfeed]
      exact ih hphase
  | @nested inner rest inside tail ihInner ihRest =>
      have hopen : feed state (.punct '(') = { state with phase := .inside slot (depth + 1) } := by
        simp [feed, hphase, Token.isPunct]
      have hsame : { state with phase := .inside slot depth } = state := by rw [← hphase]
      have hclose : feed { state with phase := .inside slot (depth + 1) } (.punct ')') = state := hsame
      rw [List.foldl_cons, hopen, feed_append, ihInner rfl, List.foldl_cons, hclose]
      exact ihRest hphase

/-- What a whole hint makes of a state. -/
def skipHint (state : HintFilter) : HintFilter :=
  match state.phase with
  | .inside _ _ => state
  | .outside nameOpen => { state with phase := .behind (if nameOpen then .named else .positional) }
  | .behind slot => { kept := unanswered slot state.kept, phase := .behind .positional }

/-- **What a whole hint does in each phase.** -/
theorem foldl_feed_hint {tokens : List Token} (h : Balanced tokens) (state : HintFilter) :
    (.punct '(' :: (tokens ++ [.punct ')'])).foldl feed state = state.skipHint := by
  obtain ⟨kept, phase⟩ := state
  rw [List.foldl_cons, feed_append, List.foldl_cons, List.foldl_nil]
  cases phase with
  | inside slot depth =>
      have hopen : feed { kept, phase := .inside slot depth } (.punct '(') =
          { kept, phase := .inside slot (depth + 1) } := rfl
      rw [hopen, foldl_feed_balanced h rfl]
      rfl
  | outside nameOpen =>
      have hopen : feed { kept, phase := .outside nameOpen } (.punct '(') =
          { kept, phase := .inside (if nameOpen then .named else .positional) 0 } := rfl
      rw [hopen, foldl_feed_balanced h rfl]
      rfl
  | behind slot =>
      have hopen : feed { kept, phase := .behind slot } (.punct '(') =
          { kept := unanswered slot kept, phase := .inside .positional 0 } := rfl
      rw [hopen, foldl_feed_balanced h rfl]
      rfl

/-! ## The name that waits for an answer -/

/-- Where a hint is for a name, or may be for the name right before it, that name is the token kept last, and has no
value yet. -/
def NameWaits (state : HintFilter) : Prop :=
  state.phase.isForName = true →
    ∃ name value before, state.kept = .named name value :: before ∧ value.isPlaceholder = true

theorem nameWaits_keep (kept : List Token) (token : Token) : (keep kept token).NameWaits := by
  intro hname
  cases token with
  | named name value => exact ⟨name, value, kept, rfl, hname⟩
  | word => simp [keep, HintPhase.isForName] at hname
  | quoted => simp [keep, HintPhase.isForName] at hname
  | punct => simp [keep, HintPhase.isForName] at hname

/-- **One more token leaves the name that waits where it is,** or nothing waits any more. -/
theorem NameWaits.feed {state : HintFilter} (h : state.NameWaits) (token : Token) : (state.feed token).NameWaits := by
  obtain ⟨kept, phase⟩ := state
  cases phase with
  | inside slot depth =>
      simp only [HintFilter.feed]
      split
      · exact h
      · split
        · split
          · exact h
          · exact h
        · exact h
  | outside nameOpen =>
      simp only [HintFilter.feed]
      split
      · intro hname
        cases nameOpen with
        | false => simp [HintPhase.isForName] at hname
        | true => exact h rfl
      · exact nameWaits_keep _ _
  | behind slot =>
      simp only [HintFilter.feed]
      split
      · intro hname
        simp [HintPhase.isForName] at hname
      · split
        · intro hname
          simp [HintPhase.isForName] at hname
        · exact nameWaits_keep _ _

/-- **The name that waits is the last token kept,** behind every line. -/
theorem nameWaits_foldl (tokens : List Token) : (tokens.foldl HintFilter.feed {}).NameWaits := by
  have hfold : ∀ state : HintFilter, state.NameWaits → (tokens.foldl HintFilter.feed state).NameWaits := by
    induction tokens with
    | nil => exact fun state h => h
    | cons token rest ih => exact fun state h => ih _ (h.feed token)
  exact hfold {} fun hname => by simp [HintPhase.isForName] at hname

/-- Where a name waits for its value, it is the token kept last. -/
def NameLast (state : HintFilter) : Prop :=
  state.phase = .outside true → ∃ name value before, state.kept = .named name value :: before

theorem nameLast_foldl (tokens : List Token) : (tokens.foldl feed {}).NameLast := by
  intro hphase
  obtain ⟨name, value, before, hkept, -⟩ := nameWaits_foldl tokens (by rw [hphase]; rfl)
  exact ⟨name, value, before, hkept⟩

end HintFilter

namespace HintPhase

/-- Where a word that answers a hint is the next argument in order. -/
def TakesNext : HintPhase → Prop
  | .outside nameOpen => nameOpen = false
  | .inside _ _ => False
  | .behind _ => True

/-- Where a word that answers the hint of a name leaves the tokens before the name as they were. -/
def TakesNamed : HintPhase → Prop
  | .outside _ => True
  | .inside _ _ => False
  | .behind slot => slot = .named

instance : DecidablePred TakesNext
  | .outside nameOpen => inferInstanceAs (Decidable (nameOpen = false))
  | .inside _ _ => inferInstanceAs (Decidable False)
  | .behind _ => inferInstanceAs (Decidable True)

instance : DecidablePred TakesNamed
  | .outside _ => inferInstanceAs (Decidable True)
  | .inside _ _ => inferInstanceAs (Decidable False)
  | .behind slot => inferInstanceAs (Decidable (slot = .named))

end HintPhase

namespace HintFilter

theorem ne_append_singleton (tokens : List Token) (token : Token) : tokens ≠ tokens ++ [token] := by
  intro heq
  have hlength := congrArg List.length heq
  simp at hlength

/-- **When the answer to a hint is the next argument in order.** -/
theorem finish_answer_iff {state : HintFilter} (hlast : state.NameLast) (word : String) :
    (feed state.skipHint (.word word)).finish = state.finish ++ [.word word] ↔ state.phase.TakesNext := by
  obtain ⟨kept, phase⟩ := state
  cases phase with
  | inside slot depth =>
      refine iff_of_false ?_ id
      exact ne_append_singleton _ _
  | behind slot =>
      refine iff_of_true ?_ trivial
      simp [skipHint, feed, keep, finish, Token.isPunct]
  | outside nameOpen =>
      cases nameOpen with
      | false =>
          refine iff_of_true ?_ rfl
          simp [skipHint, feed, keep, finish, Token.isPunct]
      | true =>
          -- The answer becomes the value of the name, so the line has one token less than it should.
          obtain ⟨name, value, before, hkept⟩ := hlast rfl
          obtain rfl : kept = .named name value :: before := hkept
          refine iff_of_false ?_ (by simp [HintPhase.TakesNext])
          intro heq
          have hlength := congrArg List.length heq
          simp [skipHint, feed, finish, Token.isPunct, answerName?] at hlength

/-- An answer to a hint right behind a name without a value. -/
theorem feed_namedAnswer (kept : List Token) (name word : String) :
    feed (skipHint (keep kept (.named name Token.placeholder))) (.word word) =
      { kept := .named name (.word word) :: kept, phase := .outside false } := rfl

/-- A name that stands outside all hints is kept. -/
theorem feed_named {state : HintFilter} (hout : ∀ slot depth, state.phase ≠ .inside slot depth) (name : String)
    (value : Token) : feed state (.named name value) = keep state.kept (.named name value) := by
  obtain ⟨kept, phase⟩ := state
  cases phase with
  | inside slot depth => exact absurd rfl (hout slot depth)
  | outside nameOpen => rfl
  | behind slot => cases slot <;> rfl

/-- **When the answer to the hint of a name leaves the tokens before the name as they were.** -/
theorem finish_namedAnswer_iff (state : HintFilter) (name word : String) :
    (feed (feed state (.named name Token.placeholder)).skipHint (.word word)).finish =
      state.finish ++ [.named name (.word word)] ↔ state.phase.TakesNamed := by
  by_cases hinside : ∃ slot depth, state.phase = .inside slot depth
  · obtain ⟨slot, depth, hphase⟩ := hinside
    obtain ⟨kept, phase⟩ := state
    obtain rfl : phase = .inside slot depth := hphase
    refine iff_of_false ?_ id
    exact ne_append_singleton _ _
  · have hout : ∀ slot depth, state.phase ≠ .inside slot depth := fun slot depth h => hinside ⟨slot, depth, h⟩
    have hkept : (feed (feed state (.named name Token.placeholder)).skipHint (.word word)).finish =
        state.kept.reverse ++ [.named name (.word word)] := by
      rw [feed_named hout, feed_namedAnswer]
      simp [finish]
    rw [hkept, List.append_left_inj]
    obtain ⟨kept, phase⟩ := state
    cases phase with
    | inside slot depth => exact absurd rfl (hout slot depth)
    | outside nameOpen => simp [finish, HintPhase.TakesNamed]
    | behind slot =>
        cases slot with
        | named => simp [finish, unanswered, HintPhase.TakesNamed]
        | positional =>
            -- Before the name was there, the hint left a placeholder.
            refine iff_of_false ?_ (by simp [HintPhase.TakesNamed])
            intro heq
            have hlength := congrArg List.length heq
            simp [finish, unanswered] at hlength

/-- **Blanks that were the value of a name are lost to an answer behind them,** which takes their place. -/
theorem finish_answer_behind_blanks (state : HintFilter) (name word : String) (value : Token) :
    (feed (feed state (.named name Token.placeholder)).skipHint (.word word)).finish ≠
      (feed state (.named name value)).finish ++ [.word word] := by
  by_cases hinside : ∃ slot depth, state.phase = .inside slot depth
  · obtain ⟨slot, depth, hphase⟩ := hinside
    obtain ⟨kept, phase⟩ := state
    obtain rfl : phase = .inside slot depth := hphase
    exact ne_append_singleton _ _
  · have hout : ∀ slot depth, state.phase ≠ .inside slot depth := fun slot depth h => hinside ⟨slot, depth, h⟩
    rw [feed_named hout, feed_namedAnswer, feed_named hout]
    intro heq
    have hlength := congrArg List.length heq
    simp [finish, keep] at hlength

end HintFilter

/-- Tokens with a hint and its answer behind them. -/
theorem dropHints_answered (before : List Token) {words : List Token}
    (h : ∀ token ∈ words, token.isPunct '(' = false ∧ token.isPunct ')' = false) (answer : Token) :
    dropHints (before ++ (.punct '(' :: (words ++ [.punct ')']) ++ [answer])) =
      (HintFilter.feed (before.foldl HintFilter.feed {}).skipHint answer).finish := by
  rw [dropHints, HintFilter.feed_append, HintFilter.feed_append,
    HintFilter.foldl_feed_hint (balanced_of_no_parentheses h)]
  rfl

/-- **A line without an opening parenthesis has nothing to drop.** -/
theorem dropHints_of_no_open {tokens : List Token} (h : ∀ token ∈ tokens, token.isPunct '(' = false) :
    dropHints tokens = tokens := by
  obtain ⟨nameOpen, hfold⟩ := @HintFilter.foldl_feed_of_no_open tokens h {} false rfl
  rw [dropHints, hfold]
  simp [HintFilter.finish]

end RemoteShell
