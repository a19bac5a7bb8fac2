import RemoteShell.Proofs.Token.Append

/-!
# Two lines put together

The scanner looks ahead, but never across blanks, unless something at the end of a line waits for what follows: a quote
that is still open takes the blanks in, and a name without a value takes them for one. A line at whose end neither
stands is complete. Behind a complete line blanks divide: its tokens stay, and those of whatever follows are only moved.

Main statements:

* `endsComplete_iff`: a line is complete exactly if a blank behind it changes nothing.
* `scan_append_blanks_iff`: blanks divide two lines, whatever the other, exactly if the first is complete.
* `scan_append_blanks`: what the last token says about that.
-/

namespace RemoteShell

/-- A line at whose end nothing was left open: no quote is, and blanks are no token's value. -/
structure EndsComplete (start : Nat) (cs : List Char) : Prop where
  outsideQuotes : EndsOutsideQuotes start cs
  valued : ∀ s ∈ scanFrom start cs, s.remainder? = none

/-- **Blanks divide a line that is complete before them.** -/
theorem EndsComplete.scanFrom_append_blanks {start : Nat} {cs : List Char} (h : EndsComplete start cs)
    {blanks : List Char} (hsome : blanks ≠ []) (hblanks : IsBlankRun blanks) (other : List Char) :
    scanFrom start (cs ++ (blanks ++ other)) =
      scanFrom start cs ++ scanFrom (start + Text.size (cs ++ blanks)) other := by
  have htail : Separates (blanks ++ other) := by
    obtain ⟨c, rest, rfl⟩ := List.exists_cons_of_ne_nil hsome
    exact Separates.of_blank (hblanks c (by simp)) _
  rw [scanFrom_append h.outsideQuotes htail (Or.inl h.valued), map_reopened_eq_self h.valued, scanFrom_gap hblanks,
    Text.size_append, Nat.add_assoc]

/-- A quote that is still open takes in a blank behind it. -/
theorem readQuoted_append_space {mark : Char} (hmark : isQuoteMark mark = true) {cs : List Char}
    (hopen : (readQuoted mark cs).closed = false) (hrest : (readQuoted mark cs).rest = []) :
    (readQuoted mark (cs ++ [' '])).rest = [] := by
  have hspace : ' ' ≠ mark := by
    rintro rfl
    exact absurd hmark (by decide)
  fun_induction readQuoted mark cs with
  | case1 => simp [readQuoted, isLineBreak, hspace, QuotedRun.prepend]
  | case2 => simp [readQuoted, isLineBreak, escapeOf, QuotedRun.prepend]
  | case3 => simp at hrest
  | case4 letter after hbreak e he ih => simpa [readQuoted, hbreak, he, QuotedRun.prepend] using ih hopen hrest
  | case5 letter after hbreak he ih => simpa [readQuoted, hbreak, he, QuotedRun.prepend] using ih hopen hrest
  | case6 => simp at hrest
  | case7 => simp at hopen
  | case8 c rest hslash hbreak hne ih =>
      simpa [readQuoted_cons hslash, hbreak, hne, QuotedRun.prepend] using ih hopen hrest

/-- A token with an open quote takes in a blank behind it. -/
theorem LexemeForm.append_space {body rest : List Char} {token : Token} (h : LexemeForm body token rest)
    (hrest : rest = []) (hopen : token.isUnterminated = true) : ∃ other, LexemeForm (body ++ [' ']) other [] := by
  cases h with
  | @quoted mark cs hmark =>
      have hunclosed : (readQuoted mark cs).closed = false := by simpa [QuotedRun.token, Token.isUnterminated] using hopen
      have hform := @LexemeForm.quoted mark (cs ++ [' ']) hmark
      rw [readQuoted_append_space hmark hunclosed hrest] at hform
      exact ⟨_, hform⟩
  | punct => simp [Token.isUnterminated] at hopen
  | word => simp [Token.isUnterminated] at hopen
  | named hname hvalue =>
      cases hvalue with
      | @quoted mark cs hmark =>
          have hunclosed : (readQuoted mark cs).closed = false := by
            simpa [QuotedRun.token, Token.isUnterminated] using hopen
          have hform := LexemeForm.named hname (@ValueForm.quoted mark (cs ++ [' ']) hmark)
          rw [readQuoted_append_space hmark hunclosed hrest] at hform
          rw [List.append_assoc]
          exact ⟨_, hform⟩
      | bracket => simp [Token.isUnterminated] at hopen
      | word => simp [Token.isUnterminated] at hopen
      | remainder => simp [Token.isUnterminated, Token.closedQuote] at hopen
      | missing => simp at hrest

/-- A line is complete if its first token is and what stands behind it is. -/
theorem endsComplete_form {gap body rest : List Char} {token : Token} (hgap : IsBlankRun gap)
    (h : LexemeForm body token rest) {start : Nat} {s : Spanned}
    (hs : s = { token, start := start + Text.size gap
                stop := start + Text.size gap + (Text.size body - Text.size rest) }) :
    EndsComplete start (gap ++ body) ↔
      (token.isUnterminated = true → rest ≠ []) ∧ s.remainder? = none ∧ EndsComplete s.stop rest := by
  subst hs
  constructor
  · rintro ⟨hquotes, hvalued⟩
    rw [scanFrom_form hgap h] at hvalued
    obtain ⟨hnone, hbehind⟩ := List.forall_mem_cons.mp hvalued
    obtain ⟨hended, hquotes⟩ := (endsOutsideQuotes_form hgap h start).mp hquotes
    exact ⟨hended, hnone, hquotes, hbehind⟩
  · rintro ⟨hended, hnone, hquotes, hbehind⟩
    refine ⟨(endsOutsideQuotes_form hgap h start).mpr ⟨hended, hquotes⟩, ?_⟩
    rw [scanFrom_form hgap h]
    exact List.forall_mem_cons.mpr ⟨hnone, hbehind⟩

/-- **A blank behind a line, at its first token.** It changes nothing if it changes neither this token nor anything
behind it; and it does change an open quote, and a name that blanks are the value of. -/
theorem scanFrom_append_space_iff {gap body rest : List Char} {token : Token} (hgap : IsBlankRun gap)
    (h : LexemeForm body token rest) {start : Nat} {s : Spanned}
    (hs : s = { token, start := start + Text.size gap
                stop := start + Text.size gap + (Text.size body - Text.size rest) }) :
    scanFrom start (gap ++ body ++ [' ']) = scanFrom start (gap ++ body) ↔
      (token.isUnterminated = true → rest ≠ []) ∧ s.remainder? = none ∧
        scanFrom s.stop (rest ++ [' ']) = scanFrom s.stop rest := by
  have hle : Text.size rest ≤ Text.size body := Text.size_le_of_suffix h.suffix
  have hstay : (token.isUnterminated = true → rest ≠ []) → s.remainder? = none →
      scanFrom start (gap ++ body ++ [' ']) = s :: scanFrom s.stop (rest ++ [' ']) := by
    intro hended hnone
    have hspace : Separates [' '] := Separates.of_blank (IsBlankRun.space ' ' (by simp)) []
    rw [scanFrom_form_append hgap h hended hspace hs (Or.inl hnone), Spanned.reopened_eq_token hnone]
  have hline : scanFrom start (gap ++ body) = s :: scanFrom s.stop rest := by rw [scanFrom_form hgap h, hs]
  rw [hline]
  constructor
  · intro hsame
    have hended : token.isUnterminated = true → rest ≠ [] := by
      rintro hopen rfl
      obtain ⟨other, hother⟩ := h.append_space rfl hopen
      rw [List.append_assoc, scanFrom_form hgap hother, hs] at hsame
      have hstop := congrArg Spanned.stop (List.cons.inj hsame).1
      have hone : 0 < ' '.utf8Size := ' '.utf8Size_pos
      simp only [Text.size_append, Text.size] at hstop
      omega
    have hnone : s.remainder? = none := by
      refine (h.remainder?_cases (start + Text.size gap) hs).resolve_right ?_
      rintro ⟨name, hname, hblank, rfl, rfl, -⟩
      have hlonger := LexemeForm.named hname (ValueForm.remainder (hblank.append IsBlankRun.space))
      rw [List.append_assoc, List.append_assoc, List.cons_append, scanFrom_form hgap hlonger, hs] at hsame
      have htoken := congrArg Spanned.token (List.cons.inj hsame).1
      simp [Token.closedQuote] at htoken
    rw [hstay hended hnone] at hsame
    exact ⟨hended, hnone, (List.cons.inj hsame).2⟩
  · rintro ⟨hended, hnone, hbehind⟩
    rw [hstay hended hnone, hbehind]

/-- **A blank behind a line** leaves its tokens alone exactly if the line is complete. -/
theorem endsComplete_iff {start : Nat} {cs : List Char} :
    EndsComplete start cs ↔ scanFrom start (cs ++ [' ']) = scanFrom start cs := by
  induction cs using scan_induction generalizing start with
  | blank cs hblank =>
      have hcomplete : EndsComplete start cs := by
        constructor <;> simp [EndsOutsideQuotes, scanFrom_blank hblank]
      rw [scanFrom_blank hblank, scanFrom_blank (hblank.append IsBlankRun.space)]
      exact iff_of_true hcomplete rfl
  | token gap body token rest hgap hform ih =>
      rw [endsComplete_form hgap hform rfl, scanFrom_append_space_iff hgap hform rfl, ih]

/-- **When blanks divide two lines.** Whatever blanks stand behind a line, and whatever follows them, the tokens of the
line stay and those of what follows are only moved, exactly if the line is complete. -/
theorem scan_append_blanks_iff {line : String} :
    (∀ blanks other : String, blanks ≠ "" → Text.isAllBlank blanks = true →
      scan (line ++ blanks ++ other) =
        scan line ++ (scan other).map (Spanned.shift (Text.size (line ++ blanks).toList))) ↔
      EndsComplete 0 line.toList := by
  constructor
  · intro hdivides
    have hspace := hdivides " " "" (by decide) (by decide)
    rw [endsComplete_iff]
    simpa [scan, scanFrom_blank IsBlankRun.nil] using hspace
  · intro hcomplete blanks other hsome hblank
    have hne : blanks.toList ≠ [] := by simpa using hsome
    have happend := hcomplete.scanFrom_append_blanks hne (List.all_eq_true.mp hblank) other.toList
    rw [scanFrom_shift] at happend
    simpa [scan, List.append_assoc] using happend

/-- **Two lines with blanks between them.** If the last token of the one is no open quote, alone or as a value, and no
name with blanks as its value, the tokens are those of the one and, moved behind it, those of the other. -/
theorem scan_append_blanks {line blanks other : String} (hsome : blanks ≠ "") (hblank : Text.isAllBlank blanks = true)
    (hlast : ∀ last ∈ (scan line).getLast?, last.token.isUnterminated = false ∧ last.remainder? = none) :
    scan (line ++ blanks ++ other) =
      scan line ++ (scan other).map (Spanned.shift (Text.size (line ++ blanks).toList)) := by
  refine scan_append_blanks_iff.mpr ⟨?_, ?_⟩ blanks other hsome hblank
  · intro s hs hopen
    rw [(hlast s hs).1] at hopen
    exact absurd hopen (by decide)
  · rcases scanFrom_remainder 0 line.toList with hall | ⟨init, last, name, raw, hscan, -, -, hraw⟩
    · exact hall
    · rw [(hlast last (by simp [scan, hscan])).2] at hraw
      exact absurd hraw (by simp)

/-- A tab and a blank between a line that ends in a value and one that begins with a name without any. -/
theorem scan_append_blanks_value :
    "\t " ≠ "" ∧ Text.isAllBlank "\t " = true ∧
      (∀ last ∈ (scan "é dst='x y'").getLast?, last.token.isUnterminated = false ∧ last.remainder? = none) ∧
      scan ("é dst='x y'" ++ "\t " ++ "n= (h") = scan "é dst='x y'" ++ (scan "n= (h").map (Spanned.shift 14) := by
  have hscan : scan "é dst='x y'" =
      [⟨.word "é", 0, 2⟩, ⟨.named "dst" (Token.closedQuote "x y" '\''), 3, 12⟩] := by
    decide +kernel
  have hlast : ∀ last ∈ (scan "é dst='x y'").getLast?,
      last.token.isUnterminated = false ∧ last.remainder? = none := by
    intro last hlast
    rw [hscan] at hlast
    obtain rfl := Option.some.inj hlast
    decide
  exact ⟨by decide, by decide, hlast, scan_append_blanks (by decide) (by decide) hlast⟩

end RemoteShell
