import Mathlib.Data.List.Forall2
import RemoteShell.Proofs.Completion.Answer
import RemoteShell.Proofs.Token.RoundTrip

/-!
# Accepting a candidate

The service answers a request for matching names, and completion makes a candidate of every name: the folder part that
was typed with the name behind it, in quotes where needed, and after `name=` where the value is given by name. The
candidate then replaces the token that was being typed. What does the line mean with it?

Only the last token of the line becomes another one. The characters of a candidate stand in for those of the token that
was typed, since they begin like it, and the scanner reads them as one token whose text is the path that was meant.

Main statements:

* `candidateText_form`: a candidate reads as one value, open exactly if it is a folder in quotes.
* `Offer.of_ask`: the service is asked only if something is typed.
* `Completer.candidates_completesTo`: the line with a candidate in it.
-/

namespace RemoteShell

/-- The name a token gives its value. -/
def Token.name? : Token → Option String
  | .named name _ => some name
  | _ => none

/-- Whether the value of a token is written in quotes. -/
def Token.isQuoted : Token → Bool
  | .quoted _ => true
  | .named _ value => value.isQuoted
  | _ => false

/-- The line up to a byte offset. -/
def lineUpTo (line : String) (pos : Nat) : String :=
  String.ofList (Text.takeBytes pos line.toList)

/-- The names in a reply that are texts. -/
def Json.matchingNames (reply : Json) : List String :=
  (((reply.get? "matches").bind Json.items?).getD []).filterMap Json.text?

/-- **The line with a candidate in it.** The candidate stands where the token `last` was being typed. The tokens before
it are the same, and behind them there is one token: named as the one typed was, with the typed folder part and the
name for its text, and an open quote exactly if it is in quotes and the text ends in a slash. -/
def CompletesTo (line : String) (pos : Nat) (last : Spanned) (name item : String) : Prop :=
  ∃ token : Token,
    scan (lineUpTo line last.start ++ item) =
      (scan (lineUpTo line pos)).dropLast ++
        [{ token, start := last.start, stop := last.start + Text.size item.toList }] ∧
    token.name? = last.token.name? ∧
    token.text = (Path.splitTyped last.token.text).1 ++ name ∧
    (token.isUnterminated = true ↔ token.isQuoted = true ∧ token.text.toList.getLast? = some '/')

/-! ## The characters of a candidate -/

/-- Characters that read as one value with the text `text`, an open quote exactly if it is in quotes and ends in a
slash. They read so with a name in front of them as well as without. -/
def ReadsAs (cs : List Char) (text : String) : Prop :=
  ∃ value, ValueForm cs value [] ∧ LexemeForm cs value [] ∧ value.name? = none ∧ value.text = text ∧
    (value.isUnterminated = true ↔ value.isQuoted = true ∧ text.toList.getLast? = some '/')

/-- A text in quotes, which stay open behind a slash. -/
theorem readsAs_quoted {text : String} (hreturn : '\r' ∉ text.toList) {mark : Char}
    (hmark : isQuoteMark mark = true) :
    ∃ cs, ReadsAs (mark :: cs) text ∧
      (if text.toList.getLast? = some '/' then String.ofList (Token.closedQuote text mark).render.toList.dropLast
        else (Token.closedQuote text mark).render) = String.ofList (mark :: cs) := by
  split
  · next hslash =>
      have hread := readQuoted_escaped hmark hreturn
      have hvalue := @ValueForm.quoted mark (text.toList.flatMap (escapeChar mark)) hmark
      have hlexeme := @LexemeForm.quoted mark (text.toList.flatMap (escapeChar mark)) hmark
      rw [hread] at hvalue hlexeme
      refine ⟨_, ⟨_, hvalue, hlexeme, rfl, ?_, ?_⟩, ?_⟩
      · simp [QuotedRun.token, Token.text]
      · simp [QuotedRun.token, Token.isUnterminated, Token.isQuoted, hslash]
      · have hdrop : (quoteChars mark text.toList).dropLast = mark :: text.toList.flatMap (escapeChar mark) := by
          rw [quoteChars, quoteBody, ← List.cons_append, List.dropLast_concat]
        rw [Token.closedQuote, Token.render, quote, String.toList_ofList, hdrop]
  · next hslash =>
      have hread := readQuoted_quoteBody hmark hreturn []
      rw [List.append_nil] at hread
      have hvalue := @ValueForm.quoted mark (quoteBody mark text.toList) hmark
      have hlexeme := @LexemeForm.quoted mark (quoteBody mark text.toList) hmark
      rw [hread] at hvalue hlexeme
      refine ⟨_, ⟨_, hvalue, hlexeme, rfl, ?_, ?_⟩, rfl⟩
      · simp [QuotedRun.token, Token.text]
      · simp [QuotedRun.token, Token.isUnterminated, Token.isQuoted, hslash]

/-- A text that is written as a word. -/
theorem readsAs_word {text : String} (hword : IsWordRun text.toList) : ReadsAs text.toList text := by
  have hvalue := ValueForm.word hword EndsWord.nil
  have hlexeme := LexemeForm.word hword EndsWord.nil (by simp)
  rw [List.append_nil, String.ofList_toList] at hvalue hlexeme
  exact ⟨_, hvalue, hlexeme, rfl, rfl, by simp [Token.isUnterminated, Token.isQuoted]⟩

/-- **A candidate reads as one value.** It begins with the quote mark that was typed, or else with some quote mark or as
a word. -/
theorem candidateText_form {text : String} (hreturn : '\r' ∉ text.toList) {mark : Option Char}
    (hmark : ∀ m ∈ mark, isQuoteMark m = true) :
    ∃ c cs, (PendingMatch.candidateText text mark).toList = c :: cs ∧ ReadsAs (c :: cs) text ∧
      (∀ m ∈ mark, m = c) ∧ (isWordChar c = true ∨ isQuoteMark c = true) := by
  cases mark with
  | some m =>
      have hquote : isQuoteMark m = true := hmark m rfl
      obtain ⟨cs, hreads, hcandidate⟩ := readsAs_quoted hreturn hquote
      refine ⟨m, cs, ?_, hreads, by simp, Or.inr hquote⟩
      rw [← String.toList_ofList (l := m :: cs), ← hcandidate]
      rfl
  | none =>
      rcases wordOrQuoted_cases text with ⟨hwritten, hword, -⟩ | hwritten
      · have hcandidate : PendingMatch.candidateText text none = text := by
          simp only [PendingMatch.candidateText, hwritten, Token.render]
        obtain ⟨c, cs, hcs⟩ := List.exists_cons_of_ne_nil hword.1
        have hreads := readsAs_word hword
        have hfirst : isWordChar c = true := hword.2 c (by simp [hcs])
        rw [hcs] at hreads
        exact ⟨c, cs, by rw [hcandidate, hcs], hreads, by simp, Or.inl hfirst⟩
      · obtain ⟨cs, hreads, hcandidate⟩ := readsAs_quoted hreturn (show isQuoteMark '"' = true from rfl)
        refine ⟨'"', cs, ?_, hreads, by simp, Or.inr rfl⟩
        rw [← String.toList_ofList (l := '"' :: cs), ← hcandidate]
        simp only [PendingMatch.candidateText, hwritten]
        rfl

/-! ## What was typed -/

/-- What a value being typed says about the token it was read from. -/
structure Typed.ReadFrom (typed : Typed) (token : Token) : Prop where
  name : typed.name = token.name?
  value : typed.value = token.text
  /-- A carriage return ends what is typed. -/
  noReturn : '\r' ∉ typed.value.toList
  mark : ∀ m ∈ typed.mark, isQuoteMark m = true

/-- Characters that begin with the quote mark a value was typed in, or else make one word. -/
def Typed.Begins (typed : Typed) (cs : List Char) : Prop :=
  match typed.mark with
  | some mark => isQuoteMark mark = true ∧ cs.head? = some mark
  | none => IsWordRun cs

theorem Typed.Begins.opens {typed : Typed} {cs : List Char} (h : typed.Begins cs) :
    ∀ m ∈ typed.mark, isQuoteMark m = true := by
  intro m hm
  rw [Typed.Begins, Option.mem_def.mp hm] at h
  exact h.1

/-- What begins like a value that is typed can stand in for it. -/
theorem Typed.Begins.exchangeable {typed : Typed} {cs : List Char} (h : typed.Begins cs) {d : Char} {ds : List Char}
    (hmark : ∀ m ∈ typed.mark, m = d) (hd : isWordChar d = true ∨ isQuoteMark d = true) :
    Exchangeable cs (d :: ds) := by
  unfold Typed.Begins at h
  split at h
  · next mark htyped =>
      obtain rfl : mark = d := hmark mark htyped
      obtain ⟨hquote, hhead⟩ := h
      obtain ⟨body, rfl⟩ := List.head?_eq_some_iff.mp hhead
      have hsome : ∀ tail, ¬ IsBlankRun (mark :: tail) := by
        intro tail hblank
        have hmarkBlank : Text.isBlank mark = true := hblank mark (by simp)
        rw [isBlank_of_isQuoteMark hquote] at hmarkBlank
        exact absurd hmarkBlank (by decide)
      exact Exchangeable.alike (hsome body) (hsome ds)
  · obtain ⟨c, body, rfl⟩ := List.exists_cons_of_ne_nil h.1
    exact Exchangeable.word h.head hd

/-- A value that takes the line to its end. -/
theorem ValueForm.readFrom {after : List Char} {value : Token} (h : ValueForm after value [])
    {name : Option String} {typed : Typed} (htyped : Typed.ofValue? name after value = some typed)
    (hsome : typed.isEmpty = false) :
    typed.name = name ∧ value.name? = none ∧ typed.value = value.text ∧ '\r' ∉ typed.value.toList ∧
      typed.Begins after := by
  generalize hrest : ([] : List Char) = rest at h
  cases h with
  | @quoted mark cs hquote =>
      rw [Typed.ofValue?_quoted] at htyped
      obtain rfl := Option.some.inj htyped
      refine ⟨rfl, rfl, rfl, ?_, hquote, rfl⟩
      rw [String.toList_ofList]
      exact readQuoted_no_return mark cs
  | bracket => simp [Typed.ofValue?] at htyped
  | @word word rest hword hends =>
      subst hrest
      rw [List.append_nil] at htyped ⊢
      obtain rfl := Option.some.inj htyped
      exact ⟨rfl, rfl, rfl, by simpa using hword.noReturn, hword⟩
  | remainder hblank =>
      subst hrest
      obtain rfl := Option.some.inj htyped
      simp [Typed.isEmpty] at hsome
  | missing => simp at hrest

/-- **A token that takes the line to its end,** with or without a name. -/
theorem LexemeForm.readFrom {body : List Char} {token : Token} (h : LexemeForm body token []) {typed : Typed}
    (htyped : Typed.ofToken? token body = some typed) (hsome : typed.isEmpty = false) :
    typed.ReadFrom token ∧ ((typed.name = none ∧ typed.Begins body) ∨
      ∃ name after, typed.name = some (String.ofList name) ∧ IsWordRun name ∧ body = name ++ '=' :: after) := by
  -- Without a name, the token is a value of the same form.
  have hvalue : ∀ {value : Token}, ValueForm body value [] → Typed.ofValue? none body value = some typed →
      typed.ReadFrom value ∧ ((typed.name = none ∧ typed.Begins body) ∨
        ∃ name after, typed.name = some (String.ofList name) ∧ IsWordRun name ∧ body = name ++ '=' :: after) := by
    intro value hform hread
    obtain ⟨hname, hnone, htext, hreturn, hbegins⟩ := hform.readFrom hread hsome
    exact ⟨⟨hname.trans hnone.symm, htext, hreturn, hbegins.opens⟩, Or.inl ⟨hname, hbegins⟩⟩
  generalize hrest : ([] : List Char) = rest at h
  cases h with
  | @quoted mark cs hquote =>
      have hform := @ValueForm.quoted mark cs hquote
      rw [← hrest] at hform
      exact hvalue hform htyped
  | punct => simp [Typed.ofToken?, Typed.ofValue?] at htyped
  | word hword hends =>
      have hform := ValueForm.word hword hends
      subst hrest
      exact hvalue hform htyped
  | @named name after rest value hname hform =>
      subst hrest
      rw [Typed.ofToken?, drop_name] at htyped
      obtain ⟨hnamed, -, htext, hreturn, hbegins⟩ := hform.readFrom htyped hsome
      exact ⟨⟨hnamed, htext, hreturn, hbegins.opens⟩, Or.inr ⟨name, after, hnamed, hname, rfl⟩⟩

/-- The folder part of a path is a part of it. -/
theorem noReturn_splitTyped {path name : String} (hpath : '\r' ∉ path.toList) (hname : '\r' ∉ name.toList) :
    '\r' ∉ ((Path.splitTyped path).1 ++ name).toList := by
  have hsplit := Path.splitChars_append path.toList
  rw [Path.splitTyped, String.toList_append, String.toList_ofList, List.mem_append, not_or]
  refine ⟨?_, hname⟩
  intro hreturn
  rw [← hsplit] at hpath
  exact hpath (List.mem_append_left _ hreturn)

/-- **A candidate in place of the token being typed.** It makes one token and can stand in for the one typed. -/
theorem PendingMatch.candidate_form {body : List Char} {token : Token} (h : LexemeForm body token [])
    {p : PendingMatch} (htyped : Typed.ofToken? token body = some p.typed) (hsome : p.typed.isEmpty = false)
    {name : String} (hreturn : '\r' ∉ name.toList) :
    ∃ other, LexemeForm (p.candidate name).toList other [] ∧ Exchangeable body (p.candidate name).toList ∧
      other.name? = token.name? ∧ other.text = (Path.splitTyped token.text).1 ++ name ∧
      (other.isUnterminated = true ↔ other.isQuoted = true ∧ other.text.toList.getLast? = some '/') := by
  obtain ⟨hread, hcases⟩ := h.readFrom htyped hsome
  obtain ⟨c, cs, hchars, ⟨value, hvalue, hlexeme, hnone, htext, hopen⟩, hmark, hc⟩ :=
    candidateText_form (noReturn_splitTyped hread.noReturn hreturn) hread.mark
  rw [← hread.name, ← hread.value]
  rcases hcases with ⟨hname, hbegins⟩ | ⟨argument, after, hname, hword, rfl⟩
  · have hcandidate : (p.candidate name).toList = c :: cs := by
      simp only [PendingMatch.candidate, hname, String.toList_append, hchars]
      rfl
    rw [hcandidate, hname]
    exact ⟨value, hlexeme, hbegins.exchangeable hmark hc, hnone, htext, by rw [hopen, htext]⟩
  · have hcandidate : (p.candidate name).toList = argument ++ '=' :: c :: cs := by
      simp only [PendingMatch.candidate, hname, String.toList_append, hchars, String.toList_ofList]
      simp
    have hform : LexemeForm (argument ++ '=' :: c :: cs) (.named (String.ofList argument) value) [] :=
      LexemeForm.named hword hvalue
    have hexchange : Exchangeable (argument ++ '=' :: after) (argument ++ '=' :: c :: cs) := by
      have hsame := hform.not_isBlankRun
      have htypedForm := h.not_isBlankRun
      obtain ⟨d, ds, rfl⟩ := List.exists_cons_of_ne_nil hword.1
      exact Exchangeable.alike htypedForm hsame
    rw [hcandidate, hname]
    exact ⟨_, hform, hexchange, rfl, htext, by rw [Token.text, htext]; exact hopen⟩

/-! ## The request and its answer -/

theorem Offer.forCommand_ask {c : Command} {typed wanted : Typed} {arguments : List Token} {cwd path : String}
    {container : Bool} (h : Offer.forCommand c typed arguments cwd = .ask wanted path container) :
    wanted = typed ∧ typed.isEmpty = false ∧ path = Path.resolve cwd typed.value := by
  unfold Offer.forCommand at h
  dsimp only at h
  split at h
  · simp at h
  · split at h
    · simp at h
    · unfold Offer.forArgument at h
      split at h
      · split at h
        · simp at h
        · simp at h
      · next hsome =>
          split at h
          · obtain ⟨htyped, hpath, -⟩ := Offer.ask.inj h
            exact ⟨htyped.symm, by simpa using hsome, hpath.symm⟩
          · simp at h

/-- The service is asked for the value that is typed, as a path from the working folder. -/
theorem Offer.path_of_ask {registry : Registry} {view : CursorView} {cwd path : String} {typed : Typed}
    {container : Bool} (h : Offer.of registry view cwd = .ask typed path container) :
    view.typed = some typed ∧ typed.isEmpty = false ∧ path = Path.resolve cwd typed.value := by
  unfold Offer.of at h
  split at h
  · simp at h
  · next found hfound =>
      split at h
      · simp at h
      · split at h
        · simp at h
        · obtain ⟨rfl, hsome, hpath⟩ := Offer.forCommand_ask h
          exact ⟨hfound, hsome, hpath⟩

/-- **The service is asked only if something is typed.** -/
theorem Offer.of_ask {registry : Registry} {view : CursorView} {cwd path : String} {typed : Typed} {container : Bool}
    (h : Offer.of registry view cwd = .ask typed path container) :
    view.typed = some typed ∧ typed.isEmpty = false := by
  obtain ⟨htyped, hsome, -⟩ := Offer.path_of_ask h
  exact ⟨htyped, hsome⟩

/-- If something is typed, it is the last token before the cursor. -/
theorem CursorView.ofChars_typed {before : List Char} {typed : Typed} (htyped : (ofChars before).typed = some typed)
    (hsome : typed.isEmpty = false) :
    ∃ last, typedToken? before (scanFrom 0 before) = some last ∧ (ofChars before).start = last.start ∧
      Typed.ofToken? last.token (Text.dropBytes last.start before) = some typed := by
  unfold ofChars at htyped ⊢
  cases hcursor : typedToken? before (scanFrom 0 before) with
  | none =>
      simp only [hcursor] at htyped
      obtain rfl := Option.some.inj htyped
      simp [Typed.isEmpty] at hsome
  | some last =>
      simp only [hcursor] at htyped ⊢
      exact ⟨last, rfl, rfl, htyped⟩

/-- A request is for the token before the cursor, and waits for the answer to it. -/
theorem Completer.pending_of_start {completer next : Completer} {registry : Registry} {line cwd : String} {pos : Nat}
    {request : MatchRequest} (h : completer.start registry line pos cwd = (next, .ask request)) :
    ∃ p, next.pending = some p ∧ p.id = request.id ∧ p.start = (CursorView.of line pos).start ∧
      (CursorView.of line pos).typed = some p.typed ∧ p.typed.isEmpty = false := by
  unfold Completer.start at h
  dsimp only at h
  split at h
  · simp at h
  · next typed path container hoffer =>
      obtain ⟨rfl, hrequest⟩ := Prod.mk.inj h
      obtain rfl := CompletionStep.ask.inj hrequest
      obtain ⟨htyped, hsome⟩ := Offer.of_ask hoffer
      exact ⟨_, rfl, rfl, rfl, htyped, hsome⟩

/-- Candidates are those of the names in a reply, one for each. -/
theorem PendingMatch.answer_candidates {p : PendingMatch} {outcome : Outcome} {start : Nat} {items : List String}
    (h : p.answer outcome = .candidates start items) :
    ∃ reply, outcome = .ok reply ∧ p.start = start ∧ items = reply.matchingNames.map p.candidate := by
  cases outcome with
  | error e => simp [PendingMatch.answer] at h
  | ok reply =>
      simp only [PendingMatch.answer, Completion.ofItems] at h
      split at h
      · simp at h
      · next hitems =>
          obtain ⟨hstart, rfl⟩ := Completion.candidates.inj h
          refine ⟨reply, rfl, hstart, ?_⟩
          unfold PendingMatch.matchesOf at hitems ⊢
          split
          · split
            · rfl
            · next hstatus hnot => simp [hstatus, hnot] at hitems
          · next hstatus => simp [hstatus] at hitems

/-- **The line with a candidate in it.** Let completion ask the service about a line, and offer candidates once the
answer has come. There is one for every name in the answer, in order, and the line scans with it to the tokens it had
before the one being typed, and one token that means the name. -/
theorem Completer.candidates_completesTo {completer next after : Completer} {registry : Registry} {line cwd : String}
    {pos start : Nat} {request : MatchRequest} {outcome : Outcome} {items : List String}
    (hstart : completer.start registry line pos cwd = (next, .ask request))
    (hresolve : next.resolve request.id outcome = (after, .candidates start items)) :
    ∃ reply last, outcome = .ok reply ∧ (scan (lineUpTo line pos)).getLast? = some last ∧
      last.stop = Text.size (lineUpTo line pos).toList ∧ last.start = start ∧
      List.Forall₂ (fun name item => '\r' ∉ name.toList → CompletesTo line pos last name item)
        reply.matchingNames items := by
  obtain ⟨p, hpending, hid, hview, htyped, hsome⟩ := Completer.pending_of_start hstart
  simp only [Completer.resolve, hpending, hid, if_true] at hresolve
  obtain ⟨reply, rfl, hfrom, rfl⟩ := PendingMatch.answer_candidates (Prod.mk.inj hresolve).2
  obtain ⟨last, hcursor, hlastStart, hread⟩ := CursorView.ofChars_typed htyped hsome
  have hscan : scan (lineUpTo line pos) = scanFrom 0 (Text.takeBytes pos line.toList) := by
    rw [scan, lineUpTo, String.toList_ofList]
  obtain ⟨front, body, hbefore, hform, hfront, hstop, hother⟩ := CursorView.typedToken?_form hcursor
  rw [hfront, hbefore, Text.dropBytes_size_append] at hread
  refine ⟨reply, last, rfl, ?_, ?_, ?_, ?_⟩
  · rw [hscan]
    exact List.getLast?_eq_some_iff.mpr (CursorView.typedToken?_eq_some hcursor).1
  · rw [hstop, lineUpTo, String.toList_ofList]
  · rw [← hfrom, hview, ← hlastStart]
    rfl
  · rw [List.forall₂_map_right_iff, List.forall₂_same]
    intro name _ hreturn
    obtain ⟨other, hcandidate, hexchange, hname, htext, hopen⟩ := PendingMatch.candidate_form hform hread hsome hreturn
    refine ⟨other, ?_, hname, htext, hopen⟩
    have hcut : Text.takeBytes last.start line.toList = front := by
      rw [← Text.takeBytes_append_dropBytes pos line.toList, hbefore, hfront, List.append_assoc,
        Text.takeBytes_size_append]
    have hline : (lineUpTo line last.start ++ p.candidate name).toList = front ++ (p.candidate name).toList := by
      rw [lineUpTo, hcut, String.toList_append, String.toList_ofList]
    rw [hscan, ← hother _ other hexchange hcandidate, scan, hline]

/-- A folder and a file behind an open quote, in the folder `a b`: the folder leaves the quote open. -/
theorem candidates_completesTo_quoted :
    ∃ next after request outcome,
      ({} : Completer).start Commands.registry "ls path=\"a b/d" 14 "/" = (next, .ask request) ∧
      next.resolve request.id outcome = (after, .candidates 3 ["path=\"a b/docs/", "path=\"a b/data\""]) ∧
      ∃ reply last, outcome = .ok reply ∧ (scan (lineUpTo "ls path=\"a b/d" 14)).getLast? = some last ∧
        last.stop = Text.size (lineUpTo "ls path=\"a b/d" 14).toList ∧ last.start = 3 ∧
        List.Forall₂ (fun name item => '\r' ∉ name.toList → CompletesTo "ls path=\"a b/d" 14 last name item)
          reply.matchingNames ["path=\"a b/docs/", "path=\"a b/data\""] := by
  have hstart : ({} : Completer).start Commands.registry "ls path=\"a b/d" 14 "/" =
      ({ pending := some { id := 1, typed := { name := some "path", value := "a b/d", mark := some '"' }, start := 3 }
         nextId := 2 }, .ask { id := 1, path := "/a b/d", container := false }) := by
    decide +kernel
  have hresolve : ({ pending := some { id := 1, typed := { name := some "path", value := "a b/d", mark := some '"' }
                                       start := 3 }
                     nextId := 2 } : Completer).resolve 1
        (.ok (Json.ofMembers [("status", .int 1), ("matches", .arr [.str "docs/", .str "data"])])) =
      ({ pending := none, nextId := 2 }, .candidates 3 ["path=\"a b/docs/", "path=\"a b/data\""]) := by
    decide +kernel
  exact ⟨_, _, _, _, hstart, hresolve, Completer.candidates_completesTo hstart hresolve⟩

end RemoteShell
