import RemoteShell.Commands.Table
import RemoteShell.Completion.Completer
import RemoteShell.Proofs.Token.Append
import RemoteShell.Proofs.Token.Hints

/-!
# Answering a hint

Completion reads the line before the cursor and offers a hint for the argument that comes next, or for the name right
before the cursor. The user types a word behind the hint and submits the whole line. Is the word then what the hint
asked for, and does the rest of the line mean what completion saw? That depends on the tokens the hint stands behind,
and `TakesAnswer` says exactly how.

It does not hold behind an open parenthesis, where hint and answer are lost; behind a name whose value is the skip
marker or made of blanks, which takes the answer for itself although the hint was for another argument; and at a name
behind an unanswered hint, which counted as a skipped argument only as long as the name was not there.

Main statements:

* `CursorView.ofChars_isEmpty`: nothing is typed only on no token, or right behind `name=`.
* `Offer.of_insert`: a hint is offered only where nothing is typed.
* `tokensOf_hint`: a hint and its answer, scanned.
* `dropHints_answer_iff`: when an answered hint changes nothing else.
-/

namespace RemoteShell

/-- A table of commands whose hints are made of words and blanks. -/
def Registry.HasPlainHints (registry : Registry) : Prop :=
  ∀ c ∈ registry.commands, ∀ a ∈ c.arguments, ∀ ch ∈ a.hintText.toList,
    isWordChar ch = true ∨ Text.isBlank ch = true

instance (registry : Registry) : Decidable registry.HasPlainHints :=
  decidable_of_iff (∀ c ∈ registry.commands, ∀ a ∈ c.arguments,
      a.hintText.toList.all (fun ch => isWordChar ch || Text.isBlank ch) = true)
    (by simp [Registry.HasPlainHints])

/-- What a word means as the answer to a hint at the cursor: the value of the name right before it, or an argument. -/
def CursorView.answer (view : CursorView) (word : String) : Token :=
  match view.typed.bind (·.name) with
  | some name => .named name (.word word)
  | none => .word word

/-- The phase the filter is in behind some tokens. -/
def phaseBehind (tokens : List Token) : HintPhase :=
  (tokens.foldl HintFilter.feed {}).phase

/-- **Where a hint can be answered.** On no token, the tokens before the cursor have to leave the next argument to the
answer, and no name may stand among them whose value is the blanks at the end of the line. Right behind `name=`, the
tokens before the name count. -/
def TakesAnswer (line : String) : Prop :=
  match CursorView.typedToken? line.toList (scan line) with
  | none => (phaseBehind (tokenize line)).TakesNext ∧ ∀ s ∈ scan line, s.remainder? = none
  | some _ => (phaseBehind (tokenize line).dropLast).TakesNamed

instance (line : String) : Decidable (TakesAnswer line) :=
  match h : CursorView.typedToken? line.toList (scan line) with
  | none =>
    decidable_of_iff ((phaseBehind (tokenize line)).TakesNext ∧ ∀ s ∈ scan line, s.remainder? = none)
      (by rw [TakesAnswer, h])
  | some _ => decidable_of_iff (phaseBehind (tokenize line).dropLast).TakesNamed (by rw [TakesAnswer, h])

/-! ## What completion offers -/

/-- What stands behind a name and `=`. -/
theorem drop_name (name after : List Char) :
    (name ++ '=' :: after).drop ((String.ofList name).length + 1) = after := by
  simp

theorem Typed.isEmpty_iff {typed : Typed} : typed.isEmpty = true ↔ typed.value = "" ∧ typed.mark = none := by
  simp [Typed.isEmpty]

theorem Typed.ofValue?_quoted (name : Option String) (mark : Char) (cs : List Char) (run : QuotedRun) :
    Typed.ofValue? name (mark :: cs) (run.token mark) =
      some { name, value := String.ofList run.text, mark := some mark } := by
  simp [Typed.ofValue?, QuotedRun.token]

/-- A value that takes the line to its end is nothing typed yet only if there is nothing of it. -/
theorem ValueForm.ofValue?_isEmpty {after : List Char} {value : Token} (h : ValueForm after value [])
    {name : Option String} {typed : Typed} (htyped : Typed.ofValue? name after value = some typed)
    (hempty : typed.isEmpty = true) :
    after = [] ∧ value = Token.closedQuote "" '"' ∧ typed.name = name := by
  obtain ⟨hvalue, hmark⟩ := Typed.isEmpty_iff.mp hempty
  generalize hrest : ([] : List Char) = rest at h
  cases h with
  | @quoted mark cs hquote =>
      rw [Typed.ofValue?_quoted] at htyped
      obtain rfl := Option.some.inj htyped
      simp at hmark
  | bracket => simp [Typed.ofValue?] at htyped
  | word hword hends =>
      obtain rfl := Option.some.inj htyped
      simp [hword.1] at hvalue
  | remainder hblank =>
      subst hrest
      obtain rfl := Option.some.inj htyped
      exact ⟨rfl, rfl, rfl⟩
  | missing => simp at hrest

/-- A token that takes the line to its end is nothing typed yet only if it is a name without a value. -/
theorem LexemeForm.ofToken?_isEmpty {body : List Char} {token : Token} (h : LexemeForm body token [])
    {typed : Typed} (htyped : Typed.ofToken? token body = some typed) (hempty : typed.isEmpty = true) :
    ∃ name, body = name ++ ['='] ∧ token = .named (String.ofList name) (Token.closedQuote "" '"') ∧
      typed.name = some (String.ofList name) := by
  obtain ⟨hvalue, hmark⟩ := Typed.isEmpty_iff.mp hempty
  generalize hrest : ([] : List Char) = rest at h
  cases h with
  | @quoted mark cs hquote =>
      have hquoted := Typed.ofValue?_quoted none mark cs (readQuoted mark cs)
      obtain rfl := Option.some.inj (hquoted.symm.trans htyped)
      simp at hmark
  | punct => simp [Typed.ofToken?, Typed.ofValue?] at htyped
  | word hword hends hname =>
      obtain rfl := Option.some.inj htyped
      simp [hword.1] at hvalue
  | @named name after rest value hname hform =>
      subst hrest
      rw [Typed.ofToken?, drop_name] at htyped
      obtain ⟨rfl, rfl, htypedName⟩ := hform.ofValue?_isEmpty htyped hempty
      exact ⟨name, rfl, rfl, htypedName⟩

namespace CursorView

/-- An open quote that reaches the cursor is being typed. -/
theorem isTyped_of_isUnterminated {s : Spanned} {stop : Nat} (hopen : s.token.isUnterminated = true)
    (hstop : s.stop = stop) : isTyped stop s = true := by
  obtain ⟨token, first, last⟩ := s
  obtain rfl : last = stop := hstop
  cases token with
  | punct mark => simp [Token.isUnterminated] at hopen
  | word => simp [isTyped]
  | quoted => simp [isTyped]
  | named => simp [isTyped]

/-- The token being typed is the last one, and ends at the cursor. -/
theorem typedToken?_eq_some {before : List Char} {spans : List Spanned} {last : Spanned}
    (h : typedToken? before spans = some last) :
    (∃ init, spans = init ++ [last]) ∧ last.stop = Text.size before := by
  rw [typedToken?, Option.filter_eq_some_iff] at h
  refine ⟨List.getLast?_eq_some_iff.mp h.1, ?_⟩
  have hends := h.2
  rw [isTyped, Bool.and_eq_true, beq_iff_eq] at hends
  exact hends.1

/-- **The token being typed** takes the line to the cursor. Characters that stand in for it and make one token, too,
give the line that for its last token and the same tokens before it. -/
theorem typedToken?_form {before : List Char} {last : Spanned}
    (h : typedToken? before (scanFrom 0 before) = some last) :
    ∃ front body, before = front ++ body ∧ LexemeForm body last.token [] ∧ last.start = Text.size front ∧
      last.stop = Text.size before ∧
      ∀ other token, Exchangeable body other → LexemeForm other token [] →
        scanFrom 0 (front ++ other) = (scanFrom 0 before).dropLast ++
          [{ token, start := last.start, stop := last.start + Text.size other }] := by
  obtain ⟨⟨init, hscan⟩, hends⟩ := typedToken?_eq_some h
  have hgetLast : (scanFrom 0 before).getLast? = some last := List.getLast?_eq_some_iff.mpr ⟨init, hscan⟩
  obtain ⟨front, body, rest, rfl, hform, -, hstart, hstop, hother⟩ := exists_last_form hgetLast
  have hrest : rest = [] := by
    have hle : Text.size rest ≤ Text.size body := Text.size_le_of_suffix hform.suffix
    have htotal := hends
    rw [Text.size_append] at htotal
    refine Text.size_eq_zero_iff.mp ?_
    omega
  subst hrest
  exact ⟨front, body, rfl, hform, by rw [hstart, Nat.zero_add], hends, hother⟩

/-- A token being typed of which nothing is typed yet is a name without a value. -/
theorem typedToken_isEmpty {before : List Char} {last : Spanned}
    (hlast : typedToken? before (scanFrom 0 before) = some last) {typed : Typed}
    (htyped : Typed.ofToken? last.token (Text.dropBytes last.start before) = some typed)
    (hempty : typed.isEmpty = true) :
    ∃ name, last.token = .named name (Token.closedQuote "" '"') ∧ last.remainder? = some "" ∧
      typed.name = some name := by
  obtain ⟨front, body, rfl, hform, hstart, hstop, -⟩ := typedToken?_form hlast
  rw [hstart, Text.dropBytes_size_append] at htyped
  obtain ⟨name, rfl, htoken, hname⟩ := hform.ofToken?_isEmpty htyped hempty
  refine ⟨String.ofList name, htoken, ?_, hname⟩
  obtain ⟨token, first, stop⟩ := last
  obtain rfl : token = _ := htoken
  have hspan : stop = first + (Text.size (name ++ '=' :: []) - Text.size []) := by
    dsimp only at hstart hstop
    rw [hstop, Text.size_append, ← hstart]
    rfl
  subst hspan
  exact remainder?_of_rest first

/-- **Nothing is typed only on no token, or right behind `name=`.** -/
theorem ofChars_isEmpty {before : List Char} {typed : Typed} (htyped : (ofChars before).typed = some typed)
    (hempty : typed.isEmpty = true) :
    EndsOutsideQuotes 0 before ∧
      ((typedToken? before (scanFrom 0 before) = none ∧ typed.name = none ∧
          (ofChars before).tokens = dropHints (tokensOf before)) ∨
        ∃ init last name, typedToken? before (scanFrom 0 before) = some last ∧
          scanFrom 0 before = init ++ [last] ∧ last.token = .named name (Token.closedQuote "" '"') ∧
          last.remainder? = some "" ∧ typed.name = some name ∧
          (ofChars before).tokens = dropHints (init.map (·.token))) := by
  unfold ofChars at htyped ⊢
  cases hcursor : typedToken? before (scanFrom 0 before) with
  | none =>
      simp only [hcursor] at htyped ⊢
      obtain rfl := Option.some.inj htyped
      refine ⟨?_, Or.inl ⟨trivial, rfl, rfl⟩⟩
      intro s hs hopen hstop
      rw [typedToken?, Option.mem_def.mp hs, Option.filter_some,
        isTyped_of_isUnterminated hopen (hstop.trans (Nat.zero_add _))] at hcursor
      simp at hcursor
  | some last =>
      simp only [hcursor] at htyped ⊢
      obtain ⟨init, hscan⟩ := (typedToken?_eq_some hcursor).1
      obtain ⟨name, htoken, hraw, hname⟩ := typedToken_isEmpty hcursor htyped hempty
      refine ⟨?_, Or.inr ⟨init, last, name, rfl, hscan, htoken, hraw, hname, ?_⟩⟩
      · intro s hs hopen
        rw [hscan, List.getLast?_concat] at hs
        obtain rfl := Option.some.inj hs
        rw [htoken] at hopen
        simp [Token.isUnterminated, Token.closedQuote] at hopen
      · rw [hscan, List.dropLast_concat]

end CursorView

theorem Completion.ofItems_ne_insert (start : Nat) (items : List String) (hint : String) :
    Completion.ofItems start items ≠ .insert hint := by
  unfold Completion.ofItems
  split <;> simp

/-- A command offers a hint only where nothing is typed, and then that of one of its arguments. -/
theorem Offer.forCommand_insert {c : Command} {typed : Typed} {arguments : List Token} {cwd hint : String}
    (h : Offer.forCommand c typed arguments cwd = .done (.insert hint)) :
    typed.isEmpty = true ∧ ∃ a ∈ c.arguments, hint = "(" ++ a.hintText ++ ") " := by
  unfold Offer.forCommand at h
  dsimp only at h
  split at h
  · simp at h
  · next target htarget =>
      split at h
      · simp at h
      · next a ha =>
          unfold Offer.forArgument at h
          split at h
          · next hempty =>
              split at h
              · simp at h
              · have hhint := Completion.insert.inj (Offer.done.inj h)
                exact ⟨hempty, a, List.mem_of_getElem? ha, hhint.symm⟩
          · split at h
            · simp at h
            · simp at h

/-- **A hint is offered only where nothing is typed.** It names an argument of a command of the table. -/
theorem Offer.of_insert {registry : Registry} {view : CursorView} {cwd hint : String}
    (h : Offer.of registry view cwd = .done (.insert hint)) :
    ∃ typed, view.typed = some typed ∧ typed.isEmpty = true ∧
      ∃ c ∈ registry.commands, ∃ a ∈ c.arguments, hint = "(" ++ a.hintText ++ ") " := by
  unfold Offer.of at h
  split at h
  · simp at h
  · next typed htyped =>
      split at h
      · exact absurd (Offer.done.inj h) (Completion.ofItems_ne_insert _ _ _)
      · next head arguments htokens =>
          split at h
          · simp at h
          · next c hc =>
              obtain ⟨hempty, a, ha, hhint⟩ := Offer.forCommand_insert h
              exact ⟨typed, htyped, hempty, c, Registry.mem_of_lookup hc, a, ha, hhint⟩

theorem Completer.offer_of_start {completer next : Completer} {registry : Registry} {line cwd : String} {pos : Nat}
    {answer : Completion} (h : completer.start registry line pos cwd = (next, .done answer)) :
    Offer.of registry (CursorView.of line pos) cwd = .done answer := by
  unfold Completer.start at h
  dsimp only at h
  split at h
  · next other hother =>
      obtain rfl := CompletionStep.done.inj (Prod.mk.inj h).2
      exact hother
  · simp at h

/-! ## A hint in the line -/

/-- Words and blanks scan to words. -/
theorem scanFrom_plain {start : Nat} {cs : List Char} (h : ∀ c ∈ cs, isWordChar c = true ∨ Text.isBlank c = true) :
    ∀ s ∈ scanFrom start cs, ∃ text, s.token = .word text := by
  induction cs using scan_induction generalizing start with
  | blank cs hblank =>
      rw [scanFrom_blank hblank]
      simp
  | token gap body token rest hgap hform ih =>
      have hbody : ∀ c ∈ body, isWordChar c = true ∨ Text.isBlank c = true :=
        fun c hc => h c (List.mem_append_right _ hc)
      have hrest : ∀ c ∈ rest, isWordChar c = true ∨ Text.isBlank c = true :=
        fun c hc => hbody c (hform.suffix.subset hc)
      have hfirst : ∃ text, token = .word text := by
        cases hform with
        | @quoted mark cs hmark =>
            have hplain := hbody mark (by simp)
            simp [isWordChar_of_isQuoteMark hmark, isBlank_of_isQuoteMark hmark] at hplain
        | @punct mark hmark =>
            have hplain := hbody mark (by simp)
            simp [isWordChar_of_isReserved hmark, isBlank_of_isReserved hmark] at hplain
        | @word word => exact ⟨_, rfl⟩
        | named => exact absurd (hbody '=' (by simp)) (by decide)
      rw [scanFrom_form hgap hform]
      exact List.forall_mem_cons.mpr ⟨hfirst, ih hrest⟩

/-- **A hint and its answer, scanned.** -/
theorem tokensOf_hint {text word : List Char} (htext : ∀ c ∈ text, isWordChar c = true ∨ Text.isBlank c = true)
    (hword : IsWordRun word) :
    ∃ words, (∀ token ∈ words, token.isPunct '(' = false ∧ token.isPunct ')' = false) ∧
      tokensOf ('(' :: (text ++ ')' :: ' ' :: word)) =
        .punct '(' :: (words ++ [.punct ')']) ++ [.word (String.ofList word)] := by
  have hplain := @scanFrom_plain 0 text htext
  have hended : EndsOutsideQuotes 0 text := by
    intro s hs hopen
    obtain ⟨written, htoken⟩ := hplain s (List.mem_of_getLast? hs)
    simp [htoken, Token.isUnterminated] at hopen
  have hanswer : tokensOf (')' :: ' ' :: word) = [.punct ')', .word (String.ofList word)] := by
    have hform := LexemeForm.word hword EndsWord.nil (by simp)
    rw [List.append_nil] at hform
    rw [tokensOf_lexeme (LexemeForm.punct rfl _), tokensOf_space, tokensOf_lexeme hform, tokensOf_blank IsBlankRun.nil]
  refine ⟨(scanFrom 0 text).map Spanned.reopened, ?_, ?_⟩
  · refine List.forall_mem_map.mpr ?_
    intro s hs
    obtain ⟨written, htoken⟩ := hplain s hs
    rw [Spanned.reopened_eq_token (by simp [Spanned.remainder?, htoken]), htoken]
    exact ⟨rfl, rfl⟩
  · rw [tokensOf_lexeme (LexemeForm.punct rfl _), tokensOf_append_parenthesis hended (Or.inr rfl), hanswer]
    simp

/-- The tokens of a line with a hint and its answer put behind it. -/
theorem tokenize_answered {line text word : String} (hended : EndsOutsideQuotes 0 line.toList)
    (htext : ∀ c ∈ text.toList, isWordChar c = true ∨ Text.isBlank c = true) (hword : IsWord word) :
    dropHints (tokenize (line ++ ("(" ++ text ++ ") ") ++ word)) =
      (HintFilter.feed (((scan line).map Spanned.reopened).foldl HintFilter.feed {}).skipHint (.word word)).finish := by
  obtain ⟨words, hwords, hhint⟩ := tokensOf_hint htext hword
  have hline : (line ++ ("(" ++ text ++ ") ") ++ word).toList =
      line.toList ++ '(' :: (text.toList ++ ')' :: ' ' :: word.toList) := by
    simp
  rw [tokenize_eq, hline, tokensOf_append_parenthesis hended (Or.inl rfl), hhint, String.ofList_toList]
  exact dropHints_answered _ hwords (.word word)

/-! ## The answered line -/

/-- On no token, the answer is the next argument exactly if the tokens leave it to the answer and none of them has
blanks as its value. -/
theorem finish_nextAnswer_iff (line word : String) :
    (HintFilter.feed (((scan line).map Spanned.reopened).foldl HintFilter.feed {}).skipHint (.word word)).finish =
        dropHints (tokenize line) ++ [.word word] ↔
      (phaseBehind (tokenize line)).TakesNext ∧ ∀ s ∈ scan line, s.remainder? = none := by
  rcases scanFrom_remainder 0 line.toList with hall | ⟨init, last, name, raw, hscan, -, htoken, hraw⟩
  · have hnone : ∀ s ∈ scan line, s.remainder? = none := hall
    have hsame : (scan line).map Spanned.reopened = tokenize line := map_reopened hnone
    rw [hsame, and_iff_left hnone]
    exact HintFilter.finish_answer_iff (HintFilter.nameLast_foldl _) word
  · refine iff_of_false ?_ ?_
    · have htokens : tokenize line = init.map (·.token) ++ [last.token] := by
        rw [tokenize, scan, hscan, List.map_append, List.map_singleton]
      rw [scan, map_reopened_concat hscan htoken hraw, htokens, htoken, dropHints, HintFilter.feed_append,
        HintFilter.feed_append]
      exact HintFilter.finish_answer_behind_blanks _ name word _
    · rintro ⟨-, hall⟩
      have hlast := hall last (by simp [scan, hscan])
      rw [hraw] at hlast
      exact absurd hlast (by simp)

/-- Right behind `name=`, the answer is the value of the name exactly if the tokens before the name stay as they were. -/
theorem finish_namedAnswer_iff {line name raw : String} {init : List Spanned} {last : Spanned} {value : Token}
    (hscan : scan line = init ++ [last]) (htoken : last.token = .named name value)
    (hraw : last.remainder? = some raw) (word : String) :
    (HintFilter.feed (((scan line).map Spanned.reopened).foldl HintFilter.feed {}).skipHint (.word word)).finish =
        dropHints (init.map (·.token)) ++ [.named name (.word word)] ↔
      (phaseBehind (tokenize line).dropLast).TakesNamed := by
  have hpassed : (tokenize line).dropLast = init.map (·.token) := by
    rw [tokenize, hscan, List.map_append, List.map_singleton, List.dropLast_concat]
  rw [hpassed, scan, map_reopened_concat hscan htoken hraw, HintFilter.feed_append]
  exact HintFilter.finish_namedAnswer_iff _ name word

/-- **When an answered hint changes nothing else.** Let completion offer a hint at the end of a line. The line with the
hint and a word behind it means what completion saw before the cursor, followed by the word as the answer to the hint,
exactly if the line takes an answer. -/
theorem dropHints_answer_iff {registry : Registry} (hhints : registry.HasPlainHints) {completer next : Completer}
    {line cwd hint : String}
    (hstart : completer.start registry line (Text.size line.toList) cwd = (next, .done (.insert hint)))
    {word : String} (hword : IsWord word) :
    dropHints (tokenize (line ++ hint ++ word)) =
        (CursorView.of line (Text.size line.toList)).tokens ++
          [(CursorView.of line (Text.size line.toList)).answer word] ↔
      TakesAnswer line := by
  have hview : CursorView.of line (Text.size line.toList) = CursorView.ofChars line.toList := by
    rw [CursorView.of, Text.takeBytes_size]
  have hoffer := Completer.offer_of_start hstart
  rw [hview] at hoffer
  obtain ⟨typed, htyped, hempty, c, hc, a, ha, rfl⟩ := Offer.of_insert hoffer
  obtain ⟨hended, hcases⟩ := CursorView.ofChars_isEmpty htyped hempty
  rw [hview, tokenize_answered hended (hhints c hc a ha) hword, CursorView.answer, htyped, Option.bind_some]
  -- The cursor is on no token, or right behind the last one, which is a name without a value.
  rcases hcases with ⟨hcursor, hname, htokens⟩ | ⟨init, last, name, hcursor, hscan, htoken, hraw, hname, htokens⟩
  · have htakes : TakesAnswer line ↔
        (phaseBehind (tokenize line)).TakesNext ∧ ∀ s ∈ scan line, s.remainder? = none := by
      rw [TakesAnswer, show CursorView.typedToken? line.toList (scan line) = none from hcursor]
    rw [htakes, hname, htokens]
    exact finish_nextAnswer_iff line word
  · have htakes : TakesAnswer line ↔ (phaseBehind (tokenize line).dropLast).TakesNamed := by
      rw [TakesAnswer, show CursorView.typedToken? line.toList (scan line) = some last from hcursor]
    rw [htakes, hname, htokens]
    exact finish_namedAnswer_iff hscan htoken hraw word

/-- The hints of the shell's own commands are made of words and blanks. -/
theorem hasPlainHints_registry : Commands.registry.HasPlainHints := by
  decide +kernel

/-- The hint behind `path=` is answered by the value of `path`. -/
theorem dropHints_answer_path :
    Commands.registry.HasPlainHints ∧
      (({} : Completer).start Commands.registry "ls path=" (Text.size "ls path=".toList) "/").2 =
        .done (.insert "(file path) ") ∧
      IsWord "/tmp" ∧ TakesAnswer "ls path=" ∧
      dropHints (tokenize ("ls path=" ++ "(file path) " ++ "/tmp")) = [.word "ls", .named "path" (.word "/tmp")] := by
  have hstart : ({} : Completer).start Commands.registry "ls path=" (Text.size "ls path=".toList) "/" =
      ({}, .done (.insert "(file path) ")) := by decide +kernel
  have hword : IsWord "/tmp" := by decide +kernel
  have htakes : TakesAnswer "ls path=" := by decide +kernel
  have hview : (CursorView.of "ls path=" (Text.size "ls path=".toList)).tokens ++
      [(CursorView.of "ls path=" (Text.size "ls path=".toList)).answer "/tmp"] =
        [.word "ls", .named "path" (.word "/tmp")] := by decide +kernel
  have hanswer := (dropHints_answer_iff hasPlainHints_registry hstart hword).mpr htakes
  exact ⟨hasPlainHints_registry, congrArg Prod.snd hstart, hword, htakes, hanswer.trans hview⟩

/-- Behind a name that was skipped, the hint is that of the next argument, but the answer becomes the value of the
name. -/
theorem dropHints_answer_skipped :
    Commands.registry.HasPlainHints ∧
      (({} : Completer).start Commands.registry "ls path=- " (Text.size "ls path=- ".toList) "/").2 =
        .done (.insert "(folder) ") ∧
      IsWord "folder" ∧
      (CursorView.of "ls path=- " (Text.size "ls path=- ".toList)).tokens ++
        [(CursorView.of "ls path=- " (Text.size "ls path=- ".toList)).answer "folder"] =
          [.word "ls", .named "path" (.word "-"), .word "folder"] ∧
      dropHints (tokenize ("ls path=- " ++ "(folder) " ++ "folder")) =
        [.word "ls", .named "path" (.word "folder")] := by
  have hstart : (({} : Completer).start Commands.registry "ls path=- " (Text.size "ls path=- ".toList) "/").2 =
      .done (.insert "(folder) ") := by decide +kernel
  exact ⟨hasPlainHints_registry, hstart, by decide +kernel, by decide +kernel, by decide +kernel⟩

end RemoteShell
