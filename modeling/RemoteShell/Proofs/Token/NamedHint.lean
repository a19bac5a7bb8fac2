import RemoteShell.Proofs.Token.Pieces
import RemoteShell.Token.Scan

/-!
# The hint of a name and its answer

Right behind `name=`, completion puts a hint into the line, and the user types the value behind the hint. That ought to be
the same as to type the value right behind the equals sign, where a word, a quoted text and a list in brackets may stand.
It is the same for a word and for a quoted text, which the filter hands to the name. It is not for a list: its bracket is
a mark, and marks are no answers to the filter. The name stays without a value, and the list stands where the next
argument would.

Main statements:

* `NamedValue.foldl_feed_answer`: what an answer behind the hint of a name comes to.
* `dropHints_namedHint_iff`: which answers are values of the name.
* `dropHints_namedHint_ne`: a list that is asked for, and is none.
-/

namespace RemoteShell

/-- What may stand right behind `name=`. -/
inductive NamedValue where
  | word (text : String)
  | quoted (quotation : Quotation)
  | list (items : List Token)

namespace NamedValue

/-- The tokens of a value on its own. -/
def tokens : NamedValue → List Token
  | .word text => [.word text]
  | .quoted q => [.quoted q]
  | .list items => .punct '[' :: (items ++ [.punct ']'])

/-- The tokens of a value right behind `name=`. -/
def behindName (name : String) : NamedValue → List Token
  | .word text => [.named name (.word text)]
  | .quoted q => [.named name (.quoted q)]
  | .list items => .named name (.punct '[') :: (items ++ [.punct ']'])

/-- The tokens of a value behind a hint that stands right behind `name=`. -/
def behindHint (name : String) (hint : List Token) (value : NamedValue) : List Token :=
  .named name Token.placeholder :: .punct '(' :: (hint ++ .punct ')' :: value.tokens)

def isList : NamedValue → Bool
  | .list _ => true
  | .word _ | .quoted _ => false

/-- A value that is really there: a word that is no placeholder, any quoted text, or a list of words and quoted texts. -/
def IsProper : NamedValue → Prop
  | .word text => (Token.word text).isPlaceholder = false
  | .quoted _ => True
  | .list items => ∀ item ∈ items, (∃ text, item = .word text) ∨ ∃ q, item = .quoted q

/-- The items of a list open no hint, and the list ends outside all hints. -/
theorem foldl_feed_items {items : List Token} (h : (NamedValue.list items).IsProper) (kept : List Token) :
    (items ++ [Token.punct ']']).foldl HintFilter.feed { kept, phase := .outside false } =
      { kept := .punct ']' :: (items.reverse ++ kept), phase := .outside false } := by
  have hopen : ∀ item ∈ items, item.isPunct '(' = false := by
    intro item hitem
    rcases h item hitem with ⟨text, rfl⟩ | ⟨q, rfl⟩ <;> rfl
  obtain ⟨nameOpen, hitems⟩ := @HintFilter.foldl_feed_of_no_open items hopen { kept, phase := .outside false } false rfl
  rw [HintFilter.feed_append, hitems]
  rfl

/-- A list on its own is kept as it is, wherever it stands outside the hints. -/
theorem foldl_feed_list {items : List Token} (h : (NamedValue.list items).IsProper) (kept : List Token)
    {phase : HintPhase} (hout : ∀ slot depth, phase ≠ .inside slot depth) :
    (NamedValue.list items).tokens.foldl HintFilter.feed { kept, phase } =
      { kept := (NamedValue.list items).tokens.reverse ++ kept, phase := .outside false } := by
  have hbracket : HintFilter.feed { kept, phase } (.punct '[') = { kept := .punct '[' :: kept, phase := .outside false } := by
    cases phase with
    | inside slot depth => exact absurd rfl (hout slot depth)
    | outside nameOpen => rfl
    | behind slot => cases slot <;> rfl
  rw [tokens, List.foldl_cons, hbracket, foldl_feed_items h]
  simp

/-- **What an answer behind the hint of a name comes to.** A word or a quoted text becomes the value of the name. A list
leaves the name as it is. -/
theorem foldl_feed_answer {value : NamedValue} (h : value.IsProper) (name : String) (kept : List Token) :
    value.tokens.foldl HintFilter.feed { kept := .named name Token.placeholder :: kept, phase := .behind .named } =
      { kept := (if value.isList then value.tokens.reverse ++ [.named name Token.placeholder]
          else (value.behindName name).reverse) ++ kept
        phase := .outside false } := by
  cases value with
  | word text => rfl
  | quoted q => rfl
  | list items =>
      rw [foldl_feed_list h _ (by simp)]
      simp [isList]

/-- A value right behind `name=`. -/
theorem foldl_feed_behindName {value : NamedValue} (h : value.IsProper) (name : String) (kept : List Token)
    (nameOpen : Bool) :
    (value.behindName name).foldl HintFilter.feed { kept, phase := .outside nameOpen } =
      { kept := (value.behindName name).reverse ++ kept, phase := .outside false } := by
  cases value with
  | word text =>
      have hplaceholder : (Token.word text).isPlaceholder = false := h
      simp [behindName, HintFilter.feed, HintFilter.keep, Token.isPunct, hplaceholder]
  | quoted q => rfl
  | list items =>
      have hbracket : HintFilter.feed { kept, phase := .outside nameOpen } (.named name (.punct '[')) =
          { kept := .named name (.punct '[') :: kept, phase := .outside false } := rfl
      rw [behindName, List.foldl_cons, hbracket, foldl_feed_items h]
      simp

/-- A value behind a hint that stands right behind `name=`. -/
theorem foldl_feed_behindHint {value : NamedValue} (h : value.IsProper) (name : String) {hint : List Token}
    (hhint : Balanced hint) (kept : List Token) (nameOpen : Bool) :
    (value.behindHint name hint).foldl HintFilter.feed { kept, phase := .outside nameOpen } =
      { kept := (if value.isList then value.tokens.reverse ++ [.named name Token.placeholder]
          else (value.behindName name).reverse) ++ kept
        phase := .outside false } := by
  have hsplit : value.behindHint name hint =
      .named name Token.placeholder :: ((.punct '(' :: (hint ++ [.punct ')'])) ++ value.tokens) := by
    simp [behindHint]
  have hname : HintFilter.feed { kept, phase := .outside nameOpen } (.named name Token.placeholder) =
      { kept := .named name Token.placeholder :: kept, phase := .outside true } := rfl
  rw [hsplit, List.foldl_cons, hname, HintFilter.feed_append, HintFilter.foldl_feed_hint hhint]
  exact foldl_feed_answer h name kept

/-- A list behind a name that has no value. -/
theorem foldl_feed_apart {items : List Token} (h : (NamedValue.list items).IsProper) (name : String) (kept : List Token)
    (nameOpen : Bool) :
    (.named name Token.placeholder :: (NamedValue.list items).tokens).foldl HintFilter.feed
        { kept, phase := .outside nameOpen } =
      { kept := (.named name Token.placeholder :: (NamedValue.list items).tokens).reverse ++ kept
        phase := .outside false } := by
  have hname : HintFilter.feed { kept, phase := .outside nameOpen } (.named name Token.placeholder) =
      { kept := .named name Token.placeholder :: kept, phase := .outside true } := rfl
  rw [List.foldl_cons, hname, foldl_feed_list h _ (by simp)]
  simp

end NamedValue

/-- A stretch of a line that begins outside all hints and ends there with no name that waits. -/
theorem dropHints_stretch {before stretch left : List Token} {nameOpen : Bool}
    (hbefore : (before.foldl HintFilter.feed {}).phase = .outside nameOpen)
    (hstretch : ∀ kept, stretch.foldl HintFilter.feed { kept, phase := .outside nameOpen } =
      { kept := left.reverse ++ kept, phase := .outside false }) (behind : List Token) :
    dropHints (before ++ stretch ++ behind) =
      (before.foldl HintFilter.feed {}).kept.reverse ++ left ++ dropHints behind := by
  have hstate : before.foldl HintFilter.feed {} =
      { kept := (before.foldl HintFilter.feed {}).kept, phase := .outside nameOpen } := by rw [← hbefore]
  rw [dropHints, HintFilter.feed_append, HintFilter.feed_append, hstate, hstretch, HintFilter.finish_foldl_outside]
  simp

/-- **Which answers to the hint of a name are values of the name.** Behind tokens that leave no hint open or unanswered, an
answer means what it means right behind the equals sign exactly if it is no list. A list means what it means without the
hint, behind a name that has no value. -/
theorem dropHints_namedHint_iff {before hint : List Token} {nameOpen : Bool}
    (hbefore : (before.foldl HintFilter.feed {}).phase = .outside nameOpen) (hhint : Balanced hint) {value : NamedValue}
    (hvalue : value.IsProper) (name : String) (behind : List Token) :
    (dropHints (before ++ value.behindHint name hint ++ behind) = dropHints (before ++ value.behindName name ++ behind) ↔
        value.isList = false) ∧
      (value.isList = true → dropHints (before ++ value.behindHint name hint ++ behind) =
        dropHints (before ++ (.named name Token.placeholder :: value.tokens) ++ behind)) := by
  have hname := dropHints_stretch hbefore
    (fun kept => NamedValue.foldl_feed_behindName hvalue name kept nameOpen) behind
  cases value with
  | word text | quoted q =>
      have hanswer := dropHints_stretch hbefore
        (fun kept => NamedValue.foldl_feed_behindHint hvalue name hhint kept nameOpen) behind
      exact ⟨iff_of_true (hanswer.trans hname.symm) rfl, fun hlist => absurd hlist (by simp [NamedValue.isList])⟩
  | list items =>
      have hstretch : ∀ kept, ((NamedValue.list items).behindHint name hint).foldl HintFilter.feed
          { kept, phase := .outside nameOpen } =
            { kept := (.named name Token.placeholder :: (NamedValue.list items).tokens).reverse ++ kept
              phase := .outside false } := by
        intro kept
        simpa [NamedValue.isList] using NamedValue.foldl_feed_behindHint hvalue name hhint kept nameOpen
      have hanswer := dropHints_stretch hbefore hstretch behind
      have happart := dropHints_stretch hbefore
        (fun kept => NamedValue.foldl_feed_apart hvalue name kept nameOpen) behind
      refine ⟨iff_of_false ?_ (by simp [NamedValue.isList]), fun _ => hanswer.trans happart.symm⟩
      -- The name and the bracket are two tokens behind the hint, and one right behind the equals sign.
      rw [hanswer, hname]
      intro heq
      have hlength := congrArg List.length heq
      simp [NamedValue.tokens, NamedValue.behindName] at hlength

/-- A quoted text behind a hint with parentheses of its own. -/
theorem dropHints_namedHint_quoted :
    ([Token.word "mv"].foldl HintFilter.feed {}).phase = .outside false ∧
      Balanced [.word "current", .punct '(', .word "path", .punct ')'] ∧
      (NamedValue.quoted { text := "a b", mark := '"' }).IsProper ∧
      dropHints (tokenize "mv srcpath=(current (path)) \"a b\" /c") = dropHints (tokenize "mv srcpath=\"a b\" /c") := by
  have hphase : ([Token.word "mv"].foldl HintFilter.feed {}).phase = .outside false := rfl
  have hhint : Balanced [.word "current", .punct '(', .word "path", .punct ')'] :=
    Balanced.plain rfl rfl (Balanced.nested (Balanced.plain rfl rfl Balanced.nil) Balanced.nil)
  have hvalue : (NamedValue.quoted { text := "a b", mark := '"' }).IsProper := trivial
  have hsame := (dropHints_namedHint_iff hphase hhint hvalue "srcpath" [.word "/c"]).1.mpr rfl
  have hanswered : tokenize "mv srcpath=(current (path)) \"a b\" /c" =
      [.word "mv"] ++ (NamedValue.quoted { text := "a b", mark := '"' }).behindHint "srcpath"
        [.word "current", .punct '(', .word "path", .punct ')'] ++ [.word "/c"] := by
    decide +kernel
  have hnamed : tokenize "mv srcpath=\"a b\" /c" =
      [.word "mv"] ++ (NamedValue.quoted { text := "a b", mark := '"' }).behindName "srcpath" ++ [.word "/c"] := by
    decide +kernel
  rw [← hanswered, ← hnamed] at hsame
  exact ⟨hphase, hhint, hvalue, hsame⟩

/-- A list is lost to the name whose hint it answers, although the hint asks for a list. -/
theorem dropHints_namedHint_ne :
    ∃ (before hint items : List Token) (name : String),
      (before.foldl HintFilter.feed {}).phase = .outside false ∧ Balanced hint ∧ (NamedValue.list items).IsProper ∧
      before ++ (NamedValue.list items).behindHint name hint = tokenize "adduser /g users=(user list) [alice bob]" ∧
      before ++ (NamedValue.list items).behindName name = tokenize "adduser /g users=[alice bob]" ∧
      dropHints (tokenize "adduser /g users=(user list) [alice bob]") ≠
        dropHints (tokenize "adduser /g users=[alice bob]") := by
  refine ⟨[.word "adduser", .word "/g"], [.word "user", .word "list"], [.word "alice", .word "bob"], "users", rfl,
    Balanced.plain rfl rfl (Balanced.plain rfl rfl Balanced.nil), ?_, by decide +kernel, by decide +kernel,
    by decide +kernel⟩
  intro item hitem
  have hword : item = .word "alice" ∨ item = .word "bob" := by simpa using hitem
  rcases hword with rfl | rfl
  · exact Or.inl ⟨"alice", rfl⟩
  · exact Or.inl ⟨"bob", rfl⟩

end RemoteShell
