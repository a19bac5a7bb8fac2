import RemoteShell.Proofs.Token.Exchange
import RemoteShell.Proofs.Token.RoundTrip

/-!
# Going on behind a line

What becomes of the tokens of a line once more characters stand behind it? All of them stay as they are, as long as no
quote is open and what follows begins with a blank or a parenthesis, but for a name at the very end: what was its value,
made of nothing or of blanks, is only a gap once something else follows, and the value is missing.

Main statements:

* `scanFrom_append`: the tokens of a line with more behind it.
* `scanFrom_remainder`: only the last token of a line can have blanks as its value.
* `tokensOf_append_parenthesis`: the same for a line that goes on with a hint.
-/

namespace RemoteShell

/-- What can stand behind a token and not go on with it: it neither continues a word, nor makes a name of one, nor is a
value. -/
def Separates (tail : List Char) : Prop :=
  ∀ c ∈ tail.head?, isWordChar c = false ∧ isQuoteMark c = false ∧ c ≠ '[' ∧ c ≠ '='

namespace Separates

variable {tail rest : List Char}

theorem of_blank {c : Char} (h : Text.isBlank c = true) (cs : List Char) : Separates (c :: cs) := by
  intro d hd
  obtain rfl : c = d := by simpa using hd
  refine ⟨isWordChar_of_isBlank h, isQuoteMark_of_isBlank h, ?_, ?_⟩ <;>
    rintro rfl <;> exact absurd h (by decide)

/-- Blanks can always stand in front. -/
theorem append_left (h : Separates tail) {blanks : List Char} (hblanks : IsBlankRun blanks) :
    Separates (blanks ++ tail) := by
  cases blanks with
  | nil => exact h
  | cons c cs => exact of_blank (hblanks c (by simp)) _

theorem endsWord_append (h : Separates tail) (hrest : EndsWord rest) : EndsWord (rest ++ tail) := by
  cases rest with
  | nil => exact fun c hc => (h c hc).1
  | cons c cs => exact EndsWord.cons (hrest c (by simp)) _

theorem head?_append_ne (h : Separates tail) (hrest : rest.head? ≠ some '=') : (rest ++ tail).head? ≠ some '=' := by
  cases rest with
  | nil => exact fun heq => (h '=' heq).2.2.2 rfl
  | cons c cs => exact hrest

/-- Behind a name it is no value. -/
theorem missing_form (h : Separates tail) (hsome : ¬ IsBlankRun tail) : ValueForm tail Token.placeholder tail := by
  cases tail with
  | nil => exact absurd IsBlankRun.nil hsome
  | cons c cs =>
      obtain ⟨hword, hmark, hbracket, -⟩ := h c rfl
      exact ValueForm.missing hmark hbracket hword hsome

end Separates

theorem not_isBlankRun_append_right {cs : List Char} (h : ¬ IsBlankRun cs) (tail : List Char) :
    ¬ IsBlankRun (cs ++ tail) :=
  fun hblank => h fun c hc => hblank c (List.mem_append_left tail hc)

/-- One of the marks that a hint stands in. -/
def IsParenthesis (mark : Char) : Prop :=
  mark = '(' ∨ mark = ')'

namespace IsParenthesis

variable {mark : Char}

theorem isReserved (h : IsParenthesis mark) : isReserved mark = true := by
  rcases h with rfl | rfl <;> rfl

theorem separates (h : IsParenthesis mark) (cs : List Char) : Separates (mark :: cs) := by
  intro c hc
  obtain rfl : mark = c := by simpa using hc
  rcases h with rfl | rfl <;> decide

theorem not_isBlankRun (h : IsParenthesis mark) (cs : List Char) : ¬ IsBlankRun (mark :: cs) := by
  intro hblank
  have hmark : Text.isBlank mark = true := hblank mark (by simp)
  rw [isBlank_of_isReserved h.isReserved] at hmark
  exact absurd hmark (by decide)

end IsParenthesis

/-! ## One token -/

/-- A token behind which the line goes on: blanks that became its value are a gap then, and the value is missing. -/
def Spanned.reopened (s : Spanned) : Token :=
  match s.remainder?, s.token with
  | some _, .named name _ => .named name Token.placeholder
  | _, token => token

theorem Spanned.reopened_eq_token {s : Spanned} (h : s.remainder? = none) : s.reopened = s.token := by
  simp [Spanned.reopened, h]

theorem Spanned.reopened_named {s : Spanned} {name raw : String} {value : Token} (htoken : s.token = .named name value)
    (hraw : s.remainder? = some raw) : s.reopened = .named name Token.placeholder := by
  simp [Spanned.reopened, hraw, htoken]

/-- A value in quotes was not left to the blanks behind `name=`: its span goes on behind the `=`. -/
theorem remainder?_of_quoted {name cs rest : List Char} {mark : Char} {q : Quotation} (hrest : rest <:+ cs)
    (start : Nat) :
    Spanned.remainder?
      { token := .named (String.ofList name) (.quoted q), start
        stop := start + (Text.size (name ++ '=' :: mark :: cs) - Text.size rest) } = none := by
  have hle : Text.size rest ≤ Text.size cs := Text.size_le_of_suffix hrest
  have hmark : 0 < mark.utf8Size := mark.utf8Size_pos
  have hsize : Text.size ('=' :: mark :: cs) = 1 + (mark.utf8Size + Text.size cs) := rfl
  simp only [Spanned.remainder?, String.toList_ofList, Text.size_append, hsize]
  rw [if_neg (by omega)]

/-- Either a token has a value of its own, or it is a name with blanks up to the end of the line behind it. -/
theorem LexemeForm.remainder?_cases {body rest : List Char} {token : Token} (h : LexemeForm body token rest)
    (start : Nat) {s : Spanned} (hs : s = { token, start, stop := start + (Text.size body - Text.size rest) }) :
    s.remainder? = none ∨ ∃ name, IsWordRun name ∧ IsBlankRun rest ∧ body = name ++ '=' :: rest ∧
      token = .named (String.ofList name) (Token.closedQuote (String.ofList rest) '"') ∧
      s.remainder? = some (String.ofList rest) := by
  subst hs
  cases h with
  | quoted => exact Or.inl rfl
  | punct => exact Or.inl rfl
  | word => exact Or.inl rfl
  | named hname hvalue =>
      cases hvalue with
      | @quoted mark cs hmark => exact Or.inl (remainder?_of_quoted (readQuoted_rest_suffix mark cs) start)
      | bracket => exact Or.inl rfl
      | word => exact Or.inl rfl
      | remainder hblank => exact Or.inr ⟨_, hname, hblank, rfl, rfl, remainder?_of_rest start⟩
      | missing => exact Or.inl rfl

/-- A quoted text that has ended reads the same with more behind it. -/
theorem readQuoted_token_append {quote : Char} {cs : List Char}
    (hended : ((readQuoted quote cs).token quote).isUnterminated = true → (readQuoted quote cs).rest ≠ [])
    (tail : List Char) :
    (readQuoted quote (cs ++ tail)).token quote = (readQuoted quote cs).token quote ∧
      (readQuoted quote (cs ++ tail)).rest = (readQuoted quote cs).rest ++ tail := by
  have hcases : (readQuoted quote cs).closed = true ∨ (readQuoted quote cs).rest ≠ [] := by
    by_cases hclosed : (readQuoted quote cs).closed = true
    · exact Or.inl hclosed
    · refine Or.inr (hended ?_)
      simpa [QuotedRun.token, Token.isUnterminated] using hclosed
  rw [readQuoted_append hcases]
  exact ⟨rfl, rfl⟩

/-- **One token with more behind it.** Either it has a value of its own, or something other than blanks follows. -/
theorem LexemeForm.append {body rest : List Char} {token : Token} (h : LexemeForm body token rest)
    (hended : token.isUnterminated = true → rest ≠ []) {tail : List Char} (htail : Separates tail) (start : Nat)
    {s : Spanned} (hs : s = { token, start, stop := start + (Text.size body - Text.size rest) })
    (hsome : s.remainder? = none ∨ ¬ IsBlankRun tail) : LexemeForm (body ++ tail) s.reopened (rest ++ tail) := by
  subst hs
  cases h with
  | @quoted quote cs hquote =>
      obtain ⟨htoken, hrest⟩ := readQuoted_token_append hended tail
      have hform := @LexemeForm.quoted quote (cs ++ tail) hquote
      rw [htoken, hrest] at hform
      exact hform
  | punct hreserved => exact LexemeForm.punct hreserved _
  | word hword hrest hname =>
      rw [List.append_assoc]
      exact LexemeForm.word hword (htail.endsWord_append hrest) (htail.head?_append_ne hname)
  | @named name after rest value hname hvalue =>
      rw [List.append_assoc, List.cons_append]
      cases hvalue with
      | @quoted quote cs hquote =>
          obtain ⟨htoken, hrest⟩ := readQuoted_token_append hended tail
          have hform := LexemeForm.named hname (@ValueForm.quoted quote (cs ++ tail) hquote)
          rw [htoken, hrest] at hform
          rw [Spanned.reopened_eq_token]
          · exact hform
          · exact remainder?_of_quoted (readQuoted_rest_suffix quote cs) start
      | bracket => exact LexemeForm.named hname (ValueForm.bracket _)
      | word hword hrest =>
          rw [List.append_assoc]
          exact LexemeForm.named hname (ValueForm.word hword (htail.endsWord_append hrest))
      | remainder hblank =>
          rw [Token.closedQuote, remainder?_of_rest start] at hsome
          have hother : ¬ IsBlankRun tail := hsome.resolve_left (by simp)
          rw [Token.closedQuote, Spanned.reopened_named rfl (remainder?_of_rest start)]
          exact LexemeForm.named hname
            ((htail.append_left hblank).missing_form (not_isBlankRun_append _ hother))
      | missing hquote hbracket hword hother =>
          exact LexemeForm.named hname
            (ValueForm.missing hquote hbracket hword (not_isBlankRun_append_right hother tail))

/-! ## The whole line -/

/-- **Only the last token of a line can have blanks as its value.** -/
theorem scanFrom_remainder (start : Nat) (cs : List Char) :
    (∀ s ∈ scanFrom start cs, s.remainder? = none) ∨
      ∃ init last name raw, scanFrom start cs = init ++ [last] ∧ (∀ s ∈ init, s.remainder? = none) ∧
        last.token = .named name (Token.closedQuote raw '"') ∧ last.remainder? = some raw := by
  induction cs using scan_induction generalizing start with
  | blank cs hblank =>
      rw [scanFrom_blank hblank]
      exact Or.inl (by simp)
  | token gap body token rest hgap hform ih =>
      rw [scanFrom_form hgap hform]
      rcases hform.remainder?_cases (start + Text.size gap) rfl with hnone | ⟨name, -, hblank, -, rfl, hraw⟩
      · rcases ih (start + Text.size gap + (Text.size body - Text.size rest)) with
          hall | ⟨init, last, name, raw, hscan, hall, htoken, hraw⟩
        · exact Or.inl (List.forall_mem_cons.mpr ⟨hnone, hall⟩)
        · refine Or.inr ⟨_ :: init, last, name, raw, ?_, List.forall_mem_cons.mpr ⟨hnone, hall⟩, htoken, hraw⟩
          rw [hscan]
          rfl
      · rw [scanFrom_blank hblank]
        exact Or.inr ⟨[], _, _, _, rfl, by simp, rfl, hraw⟩

/-- Tokens with values of their own stay as they are, and where they are. -/
theorem map_reopened_eq_self {spans : List Spanned} (h : ∀ s ∈ spans, s.remainder? = none) :
    spans.map (fun s => { s with token := s.reopened }) = spans :=
  calc spans.map (fun s => { s with token := s.reopened })
      = spans.map id := List.map_congr_left fun s hs => by simp only [Spanned.reopened_eq_token (h s hs), id]
    _ = spans := List.map_id spans

theorem map_reopened {spans : List Spanned} (h : ∀ s ∈ spans, s.remainder? = none) :
    spans.map Spanned.reopened = spans.map (·.token) :=
  List.map_congr_left fun s hs => Spanned.reopened_eq_token (h s hs)

/-- What stands before a token with blanks as its value has values of its own. -/
theorem remainder?_of_concat {start : Nat} {cs : List Char} {init : List Spanned} {last : Spanned} {raw : String}
    (hscan : scanFrom start cs = init ++ [last]) (hraw : last.remainder? = some raw) :
    ∀ s ∈ init, s.remainder? = none := by
  rcases scanFrom_remainder start cs with hall | ⟨other, blank, name, rest, hother, hnone, -, -⟩
  · have hlast := hall last (by simp [hscan])
    rw [hraw] at hlast
    exact absurd hlast (by simp)
  · obtain ⟨rfl, -⟩ := List.append_inj' (hscan.symm.trans hother) rfl
    exact hnone

/-- Only the token with blanks as its value becomes another one. -/
theorem map_reopened_concat {start : Nat} {cs : List Char} {init : List Spanned} {last : Spanned}
    {name raw : String} {value : Token} (hscan : scanFrom start cs = init ++ [last])
    (htoken : last.token = .named name value) (hraw : last.remainder? = some raw) :
    (scanFrom start cs).map Spanned.reopened = init.map (·.token) ++ [.named name Token.placeholder] := by
  rw [hscan, List.map_append, map_reopened (remainder?_of_concat hscan hraw), List.map_singleton,
    Spanned.reopened_named htoken hraw]

/-- A line at whose end no quoted text is open. -/
def EndsOutsideQuotes (start : Nat) (cs : List Char) : Prop :=
  ∀ s ∈ (scanFrom start cs).getLast?, s.token.isUnterminated = true → s.stop ≠ start + Text.size cs

/-- No quoted text is open at the end of a line if the first one is not, or more follows it, and none is behind it. -/
theorem endsOutsideQuotes_form {gap body rest : List Char} {token : Token} (hgap : IsBlankRun gap)
    (hform : LexemeForm body token rest) (start : Nat) :
    EndsOutsideQuotes start (gap ++ body) ↔ (token.isUnterminated = true → rest ≠ []) ∧
      EndsOutsideQuotes (start + Text.size gap + (Text.size body - Text.size rest)) rest := by
  have hle : Text.size rest ≤ Text.size body := Text.size_le_of_suffix hform.suffix
  simp only [EndsOutsideQuotes, scanFrom_form hgap hform, List.getLast?_cons, Text.size_append]
  cases hlast : (scanFrom (start + Text.size gap + (Text.size body - Text.size rest)) rest).getLast? with
  | none =>
      -- The token is the last one, and it reaches the end of the line if nothing follows.
      have hempty : rest = [] ↔ Text.size rest = 0 := Text.size_eq_zero_iff.symm
      simp only [Option.getD_none, Option.mem_def, Option.some.injEq, forall_eq', ne_eq, hempty]
      constructor
      · intro hends
        exact ⟨fun hopen hzero => hends hopen (by omega), by simp⟩
      · rintro ⟨hends, -⟩ hopen hstop
        exact hends hopen (by omega)
  | some last =>
      have hsome : rest ≠ [] := by
        rintro rfl
        rw [scanFrom_blank IsBlankRun.nil] at hlast
        simp at hlast
      have hend : start + Text.size gap + (Text.size body - Text.size rest) + Text.size rest =
          start + (Text.size gap + Text.size body) := by omega
      simp only [Option.getD_some, Option.mem_def, Option.some.injEq, forall_eq', hend]
      exact ⟨fun hends => ⟨fun _ => hsome, hends⟩, fun hends => hends.2⟩

/-- The first token of a line with more behind it. -/
theorem scanFrom_form_append {gap body rest : List Char} {token : Token} (hgap : IsBlankRun gap)
    (h : LexemeForm body token rest) (hended : token.isUnterminated = true → rest ≠ []) {tail : List Char}
    (htail : Separates tail) {start : Nat} {s : Spanned}
    (hs : s = { token, start := start + Text.size gap
                stop := start + Text.size gap + (Text.size body - Text.size rest) })
    (hsome : s.remainder? = none ∨ ¬ IsBlankRun tail) :
    scanFrom start (gap ++ body ++ tail) = { s with token := s.reopened } :: scanFrom s.stop (rest ++ tail) := by
  have hlonger := h.append hended htail (start + Text.size gap) hs hsome
  have hsize : Text.size (body ++ tail) - Text.size (rest ++ tail) = Text.size body - Text.size rest := by
    rw [Text.size_append, Text.size_append]
    omega
  rw [List.append_assoc, scanFrom_form hgap hlonger, hsize, hs]

/-- **The tokens of a line with more behind it.** They stay where they are and what they are, but for a name at the
end with blanks as its value. -/
theorem scanFrom_append {start : Nat} {cs : List Char} (hended : EndsOutsideQuotes start cs) {tail : List Char}
    (htail : Separates tail) (hsome : (∀ s ∈ scanFrom start cs, s.remainder? = none) ∨ ¬ IsBlankRun tail) :
    scanFrom start (cs ++ tail) = (scanFrom start cs).map (fun s => { s with token := s.reopened }) ++
      scanFrom (start + Text.size cs) tail := by
  induction cs using scan_induction generalizing start with
  | blank cs hblank =>
      rw [scanFrom_blank hblank]
      exact scanFrom_gap hblank start tail
  | token gap body token rest hgap hform ih =>
      have hle : Text.size rest ≤ Text.size body := Text.size_le_of_suffix hform.suffix
      obtain ⟨hfirst, hrest⟩ := (endsOutsideQuotes_form hgap hform start).mp hended
      rw [scanFrom_form hgap hform] at hsome ⊢
      have hmore := ih hrest (hsome.imp_left fun hall s hs => hall s (List.mem_cons_of_mem _ hs))
      have hline := scanFrom_form_append hgap hform hfirst htail rfl
        (hsome.imp_left fun hall => hall _ List.mem_cons_self)
      have hend : start + Text.size gap + (Text.size body - Text.size rest) + Text.size rest =
          start + Text.size (gap ++ body) := by
        rw [Text.size_append]
        omega
      rw [hline, hmore, hend]
      rfl

/-- The tokens of a line with a parenthesis behind it. -/
theorem tokensOf_append_parenthesis {start : Nat} {cs : List Char} (hended : EndsOutsideQuotes start cs) {mark : Char}
    (hmark : IsParenthesis mark) (tail : List Char) :
    tokensOf (cs ++ mark :: tail) = (scanFrom start cs).map Spanned.reopened ++ tokensOf (mark :: tail) := by
  rw [← map_token_scanFrom start, scanFrom_append hended (hmark.separates tail) (Or.inr (hmark.not_isBlankRun tail)),
    List.map_append, List.map_map, map_token_scanFrom]
  rfl

end RemoteShell
