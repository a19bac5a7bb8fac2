import RemoteShell.Token.Quoting

/-!
# Writing a text in quotes and reading it back

A text in quotes reads back as itself, whatever follows the closing mark, as long as it holds no carriage return: that
character has no escape. Reading, in turn, never gives a carriage return, so every text that was read can be written.

Main statements:

* `readQuoted_quoteBody`: a written text reads back.
* `readQuoted_no_return`: no text that was read holds a carriage return.
* `readQuoted_escaped`: without its closing mark it reads back as a text that is still open.
* `readQuoted_exchange`: something else may stand behind a text that was read.
* `readQuoted_append`: what follows a text that has ended does not change it.
-/

namespace RemoteShell

/-- A letter that stands for a character does not end the line. -/
theorem isLineBreak_of_escapeOf {letter e : Char} (h : escapeOf letter = some e) : isLineBreak letter = false := by
  refine Bool.eq_false_iff.mpr ?_
  intro hbreak
  simp only [isLineBreak, Bool.or_eq_true, beq_iff_eq] at hbreak
  rcases hbreak with rfl | rfl <;> simp [escapeOf] at h

/-- No letter stands for a carriage return. -/
theorem escapeOf_ne_return {letter e : Char} (h : escapeOf letter = some e) : e ≠ '\r' := by
  rintro rfl
  unfold escapeOf at h
  split at h <;> exact absurd h (by decide)

/-- A character that is written as it is neither escapes nor ends anything. -/
theorem plain_of_escapeLetter {mark c : Char} (hreturn : c ≠ '\r') (h : escapeLetter mark c = none) :
    c ≠ '\\' ∧ isLineBreak c = false ∧ c ≠ mark := by
  have hslash : c ≠ '\\' := by
    rintro rfl
    simp [escapeLetter] at h
  have hfeed : c ≠ '\n' := by
    rintro rfl
    simp [escapeLetter] at h
  refine ⟨hslash, by simp [isLineBreak, hfeed, hreturn], ?_⟩
  rintro rfl
  unfold escapeLetter at h
  split at h <;> simp_all

/-- Outside escapes, reading looks at one character. -/
theorem readQuoted_cons {mark c : Char} (hslash : c ≠ '\\') (rest : List Char) :
    readQuoted mark (c :: rest) =
      if isLineBreak c then { text := [], closed := false, rest := c :: rest }
      else if c = mark then { text := [], closed := true, rest }
      else (readQuoted mark rest).prepend [c] := by
  rw [readQuoted.eq_def]
  simp [hslash]

/-- One written character reads back. -/
theorem readQuoted_escapeChar {mark c : Char} (hmark : isQuoteMark mark = true) (hreturn : c ≠ '\r')
    (rest : List Char) : readQuoted mark (escapeChar mark c ++ rest) = (readQuoted mark rest).prepend [c] := by
  unfold escapeChar
  split
  · next letter hletter =>
      have he : escapeOf letter = some c := escapeOf_escapeLetter hmark hletter
      simp [readQuoted, isLineBreak_of_escapeOf he, he]
  · next hletter =>
      obtain ⟨hslash, hbreak, hne⟩ := plain_of_escapeLetter hreturn hletter
      rw [List.singleton_append, readQuoted_cons hslash]
      simp [hbreak, hne]

/-- **A written text reads back,** and leaves what follows its closing mark. -/
theorem readQuoted_quoteBody {mark : Char} (hmark : isQuoteMark mark = true) {cs : List Char} (hreturn : '\r' ∉ cs)
    (rest : List Char) :
    readQuoted mark (quoteBody mark cs ++ rest) = { text := cs, closed := true, rest } := by
  induction cs with
  | nil =>
      have hslash : mark ≠ '\\' := by
        rintro rfl
        exact absurd hmark (by decide)
      have hbreak : isLineBreak mark = false := by
        simp only [isQuoteMark, Bool.or_eq_true, beq_iff_eq] at hmark
        rcases hmark with rfl | rfl <;> rfl
      simp [quoteBody, readQuoted_cons hslash, hbreak]
  | cons c cs ih =>
      rw [List.mem_cons, not_or] at hreturn
      have hbody : quoteBody mark (c :: cs) ++ rest = escapeChar mark c ++ (quoteBody mark cs ++ rest) := by
        simp [quoteBody]
      rw [hbody, readQuoted_escapeChar hmark (Ne.symm hreturn.1), ih hreturn.2]
      rfl

/-- **No text that was read holds a carriage return.** -/
theorem readQuoted_no_return (mark : Char) (cs : List Char) : '\r' ∉ (readQuoted mark cs).text := by
  fun_induction readQuoted mark cs with
  | case1 => simp
  | case2 => simp
  | case3 => simp
  | case4 letter after hbreak e he ih =>
      have hne : '\r' ≠ e := (escapeOf_ne_return he).symm
      simpa [QuotedRun.prepend, hne] using ih
  | case5 letter after hbreak he ih =>
      have hne : '\r' ≠ letter := by
        rintro rfl
        exact hbreak rfl
      simpa [QuotedRun.prepend, hne] using ih
  | case6 => simp
  | case7 => simp
  | case8 c rest hslash hbreak hne ih =>
      have hreturn : '\r' ≠ c := by
        rintro rfl
        exact hbreak rfl
      simpa [QuotedRun.prepend, hreturn] using ih

/-- Nothing follows, or the end of a line. -/
def EndsLine (rest : List Char) : Prop :=
  ∀ c ∈ rest.head?, isLineBreak c = true

theorem EndsLine.nil : EndsLine [] := by
  simp [EndsLine]

/-- Reading stops at the end of a line. -/
theorem readQuoted_endsLine (mark : Char) {rest : List Char} (h : EndsLine rest) :
    readQuoted mark rest = { text := [], closed := false, rest } := by
  cases rest with
  | nil => rfl
  | cons c cs =>
      have hbreak : isLineBreak c = true := h c rfl
      have hslash : c ≠ '\\' := by
        rintro rfl
        exact absurd hbreak (by decide)
      rw [readQuoted_cons hslash, if_pos hbreak]

/-- A backslash at the end of a line stands for itself. -/
theorem readQuoted_slash_endsLine (mark : Char) {rest : List Char} (h : EndsLine rest) :
    readQuoted mark ('\\' :: rest) = { text := ['\\'], closed := false, rest } := by
  cases rest with
  | nil => rfl
  | cons c cs =>
      have hbreak : isLineBreak c = true := h c rfl
      simp [readQuoted, hbreak]

/-- If no closing mark ended a text, the end of a line did. -/
theorem readQuoted_ends (mark : Char) (cs : List Char) :
    (readQuoted mark cs).closed = true ∨ EndsLine (readQuoted mark cs).rest := by
  fun_induction readQuoted mark cs with
  | case1 => exact Or.inr EndsLine.nil
  | case2 => exact Or.inr EndsLine.nil
  | case3 letter after hbreak => simp [EndsLine, hbreak]
  | case4 letter after hbreak e he ih => exact ih
  | case5 letter after hbreak he ih => exact ih
  | case6 c rest hslash hbreak => simp [EndsLine, hbreak]
  | case7 => simp
  | case8 c rest hslash hbreak hne ih => exact ih

/-- **A text in quotes is read from the characters before what it leaves,** so that something else may stand behind it.
If no closing mark ended it but the end of a line, a line has to end there again. -/
theorem readQuoted_exchange (mark : Char) (cs : List Char) :
    ∃ front, cs = front ++ (readQuoted mark cs).rest ∧ ∀ other,
      ((readQuoted mark cs).closed = true ∨ EndsLine other) →
        readQuoted mark (front ++ other) = { readQuoted mark cs with rest := other } := by
  fun_induction readQuoted mark cs with
  | case1 => exact ⟨[], rfl, fun other hended => readQuoted_endsLine mark (hended.resolve_left (by simp))⟩
  | case2 => exact ⟨['\\'], rfl, fun other hended => readQuoted_slash_endsLine mark (hended.resolve_left (by simp))⟩
  | case3 letter after hbreak =>
      exact ⟨['\\'], rfl, fun other hended => readQuoted_slash_endsLine mark (hended.resolve_left (by simp))⟩
  | case4 letter after hbreak e he ih =>
      obtain ⟨front, hfront, hother⟩ := ih
      refine ⟨'\\' :: letter :: front, congrArg ('\\' :: letter :: ·) hfront, ?_⟩
      intro other hended
      simp [readQuoted, hbreak, he, hother other hended, QuotedRun.prepend]
  | case5 letter after hbreak he ih =>
      obtain ⟨front, hfront, hother⟩ := ih
      refine ⟨'\\' :: letter :: front, congrArg ('\\' :: letter :: ·) hfront, ?_⟩
      intro other hended
      simp [readQuoted, hbreak, he, hother other hended, QuotedRun.prepend]
  | case6 c rest hslash hbreak =>
      exact ⟨[], rfl, fun other hended => readQuoted_endsLine mark (hended.resolve_left (by simp))⟩
  | case7 rest hslash hbreak =>
      refine ⟨[mark], rfl, ?_⟩
      intro other _
      simp [readQuoted_cons hslash, hbreak]
  | case8 c rest hslash hbreak hne ih =>
      obtain ⟨front, hfront, hother⟩ := ih
      refine ⟨c :: front, congrArg (c :: ·) hfront, ?_⟩
      intro other hended
      simp [readQuoted_cons hslash, hbreak, hne, hother other hended, QuotedRun.prepend]

/-- A text in quotes is read alike from the characters before what it leaves alone: the end of these ends it as well. -/
theorem readQuoted_alone (mark : Char) (cs : List Char) :
    ∃ front, cs = front ++ (readQuoted mark cs).rest ∧
      readQuoted mark front = { readQuoted mark cs with rest := [] } := by
  obtain ⟨front, hfront, hother⟩ := readQuoted_exchange mark cs
  have hread := hother [] (Or.inr EndsLine.nil)
  rw [List.append_nil] at hread
  exact ⟨front, hfront, hread⟩

/-- **What follows a text that has ended does not change it,** whether its closing mark or the end of a line ended
it. -/
theorem readQuoted_append {mark : Char} {cs : List Char}
    (hended : (readQuoted mark cs).closed = true ∨ (readQuoted mark cs).rest ≠ []) (tail : List Char) :
    readQuoted mark (cs ++ tail) = { readQuoted mark cs with rest := (readQuoted mark cs).rest ++ tail } := by
  obtain ⟨front, hfront, hother⟩ := readQuoted_exchange mark cs
  have hends : (readQuoted mark cs).closed = true ∨ EndsLine ((readQuoted mark cs).rest ++ tail) := by
    rcases hended with hclosed | hne
    · exact Or.inl hclosed
    · obtain ⟨c, rest, hrest⟩ := List.exists_cons_of_ne_nil hne
      refine (readQuoted_ends mark cs).imp_right ?_
      intro hbreak d hd
      rw [hrest] at hbreak hd
      exact hbreak d hd
  have happend : cs ++ tail = front ++ ((readQuoted mark cs).rest ++ tail) := by
    rw [← List.append_assoc, ← hfront]
  rw [happend, hother _ hends]

/-- Reading leaves an ending of what it was given. -/
theorem readQuoted_rest_suffix (mark : Char) (cs : List Char) : (readQuoted mark cs).rest <:+ cs := by
  obtain ⟨front, hfront, -⟩ := readQuoted_exchange mark cs
  exact ⟨front, hfront.symm⟩

/-- A text written without its closing mark reads back as one that is still open. -/
theorem readQuoted_escaped {mark : Char} (hmark : isQuoteMark mark = true) {cs : List Char} (hreturn : '\r' ∉ cs) :
    readQuoted mark (cs.flatMap (escapeChar mark)) = { text := cs, closed := false, rest := [] } := by
  induction cs with
  | nil => simp [readQuoted]
  | cons c cs ih =>
      rw [List.mem_cons, not_or] at hreturn
      rw [List.flatMap_cons, readQuoted_escapeChar hmark (Ne.symm hreturn.1), ih hreturn.2]
      rfl

end RemoteShell
