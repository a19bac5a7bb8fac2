import RemoteShell.Proofs.Token.Append

/-!
# The spans of a line

Every token of a line comes with the bytes it was scanned from. These spans lie one behind the other, on whole
characters, with nothing but blanks between them, so nothing that was typed is lost. And a token does not depend on its
surroundings: the characters of its span make the same token alone. The exception is a name without a value, which does
not hold the value in its span: alone, it has an empty one.

Main statements:

* `LexemeForm.exists_source`: the characters of a token make it alone.
* `laidOut_scanFrom`: how the tokens lie on a line.
* `covers_scan`: the spans of a line cover it faithfully.
-/

namespace RemoteShell

/-- The token that the characters of a span make alone. A value that was missing or made of blanks is not among them. -/
def Spanned.alone (s : Spanned) : Token :=
  match s.token with
  | .named name value =>
    if value = Token.placeholder ∨ s.remainder?.isSome then .named name (Token.closedQuote "" '"')
    else .named name value
  | token => token

/-- The characters of a line that a token was scanned from. -/
def Spanned.source (s : Spanned) (line : String) : String :=
  String.ofList (Text.dropBytes s.start (Text.takeBytes s.stop line.toList))

/-- A byte offset at which a character of a line begins or the line ends. -/
def IsBoundary (line : String) (n : Nat) : Prop :=
  ∃ front back, line.toList = front ++ back ∧ Text.size front = n

/-- **The spans cover a line faithfully.** -/
structure Covers (line : String) (spans : List Spanned) : Prop where
  nonempty : ∀ s ∈ spans, s.start < s.stop
  inBounds : ∀ s ∈ spans, s.stop ≤ Text.size line.toList
  onCharacters : ∀ s ∈ spans, IsBoundary line s.start ∧ IsBoundary line s.stop
  /-- They increase, and no two have a byte in common. -/
  disjoint : spans.Pairwise fun s t => s.stop ≤ t.start
  /-- A character outside all of them is blank. -/
  blank : ∀ front c back, line.toList = front ++ c :: back →
    (∀ s ∈ spans, Text.size front < s.start ∨ s.stop ≤ Text.size front) → Text.isBlank c = true
  alone : ∀ s ∈ spans, scan (s.source line) = [{ token := s.alone, start := 0, stop := s.stop - s.start }]

/-! ## One token -/

theorem Spanned.alone_value {name : String} {value : Token} {start stop : Nat} (hvalue : value ≠ Token.placeholder)
    (hnone : Spanned.remainder? { token := .named name value, start, stop } = none) :
    Spanned.alone { token := .named name value, start, stop } = .named name value := by
  simp [Spanned.alone, hvalue, hnone]

theorem Spanned.alone_of_no_value {name : String} {value : Token} {start stop : Nat}
    (hvalue : value = Token.placeholder ∨
      (Spanned.remainder? { token := .named name value, start, stop }).isSome = true) :
    Spanned.alone { token := .named name value, start, stop } = .named name (Token.closedQuote "" '"') :=
  if_pos hvalue

/-- A token takes at least one byte. -/
theorem LexemeForm.size_pos {body rest : List Char} {token : Token} (h : LexemeForm body token rest) :
    0 < Text.size body := by
  obtain ⟨c, cs, rfl, -⟩ := h.exists_cons
  have hpos : 0 < c.utf8Size := c.utf8Size_pos
  simp only [Text.size]
  omega

/-- **The characters of a token make it alone.** -/
theorem LexemeForm.exists_source {body rest : List Char} {token : Token} (h : LexemeForm body token rest)
    (start : Nat) {s : Spanned} (hs : s = { token, start, stop := start + (Text.size body - Text.size rest) }) :
    ∃ source, body = source ++ rest ∧ LexemeForm source s.alone [] := by
  subst hs
  cases h with
  | @quoted mark cs hmark =>
      obtain ⟨front, hfront, hread⟩ := readQuoted_alone mark cs
      have hform := @LexemeForm.quoted mark front hmark
      rw [hread] at hform
      exact ⟨mark :: front, congrArg (mark :: ·) hfront, hform⟩
  | @punct mark hmark => exact ⟨[mark], rfl, LexemeForm.punct hmark []⟩
  | @word word rest hword =>
      have hform := LexemeForm.word hword EndsWord.nil (by simp)
      rw [List.append_nil] at hform
      exact ⟨word, rfl, hform⟩
  | @named name after rest value hname hvalue =>
      cases hvalue with
      | @quoted mark cs hmark =>
          obtain ⟨front, hfront, hread⟩ := readQuoted_alone mark cs
          have hform := LexemeForm.named hname (@ValueForm.quoted mark front hmark)
          rw [hread] at hform
          refine ⟨name ++ '=' :: mark :: front, ?_, ?_⟩
          · rw [List.append_assoc, List.cons_append, List.cons_append, ← hfront]
          · rw [QuotedRun.token, Spanned.alone_value (by simp [Token.placeholder])
              (remainder?_of_quoted (readQuoted_rest_suffix mark cs) start)]
            exact hform
      | bracket =>
          refine ⟨name ++ ['=', '['], by simp, ?_⟩
          rw [Spanned.alone_value (by decide) rfl]
          exact LexemeForm.named hname (ValueForm.bracket [])
      | @word word rest hword =>
          have hform := LexemeForm.named hname (ValueForm.word hword EndsWord.nil)
          rw [List.append_nil] at hform
          refine ⟨name ++ '=' :: word, by simp, ?_⟩
          rw [Spanned.alone_value (by simpa [Token.placeholder] using hword.1) rfl]
          exact hform
      | remainder =>
          refine ⟨name ++ ['='], by simp, ?_⟩
          rw [Token.closedQuote, Spanned.alone_of_no_value (Or.inr (by rw [remainder?_of_rest start]; rfl))]
          exact LexemeForm.named hname (ValueForm.remainder IsBlankRun.nil)
      | missing =>
          refine ⟨name ++ ['='], by simp, ?_⟩
          rw [Spanned.alone_of_no_value (Or.inl rfl)]
          exact LexemeForm.named hname (ValueForm.remainder IsBlankRun.nil)

/-! ## The whole line -/

/-- How tokens lie on a line that begins at the offset `start`: blanks, the characters of the first token, and what
stands behind it. -/
inductive LaidOut : Nat → List Char → List Spanned → Prop
  | blank {start : Nat} {cs : List Char} (hblank : IsBlankRun cs) : LaidOut start cs []
  | token {start : Nat} {gap source rest : List Char} {s : Spanned} {spans : List Spanned} (hgap : IsBlankRun gap)
      (hsource : LexemeForm source s.alone []) (hstart : s.start = start + Text.size gap)
      (hstop : s.stop = s.start + Text.size source) (hrest : LaidOut s.stop rest spans) :
      LaidOut start (gap ++ (source ++ rest)) (s :: spans)

theorem laidOut_scanFrom (start : Nat) (cs : List Char) : LaidOut start cs (scanFrom start cs) := by
  induction cs using scan_induction generalizing start with
  | blank cs hblank =>
      rw [scanFrom_blank hblank]
      exact LaidOut.blank hblank
  | token gap body token rest hgap hform ih =>
      obtain ⟨source, rfl, hsource⟩ := hform.exists_source (start + Text.size gap) rfl
      have hsize : Text.size (source ++ rest) - Text.size rest = Text.size source := by
        rw [Text.size_append, Nat.add_sub_cancel]
      rw [scanFrom_form hgap hform]
      exact LaidOut.token hgap hsource rfl (by rw [hsize]) (ih _)

namespace LaidOut

variable {start : Nat} {cs : List Char} {spans : List Spanned}

theorem le_start (h : LaidOut start cs spans) : ∀ s ∈ spans, start ≤ s.start := by
  induction h with
  | blank => simp
  | token hgap hsource hstart hstop hrest ih =>
      refine List.forall_mem_cons.mpr ⟨by omega, fun s hs => ?_⟩
      have hle := ih s hs
      omega

theorem pairwise (h : LaidOut start cs spans) : spans.Pairwise fun s t => s.stop ≤ t.start := by
  induction h with
  | blank => exact List.Pairwise.nil
  | token hgap hsource hstart hstop hrest ih => exact List.Pairwise.cons hrest.le_start ih

/-- Where the characters of a token stand. -/
theorem exists_source (h : LaidOut start cs spans) : ∀ s ∈ spans, ∃ front source back,
    cs = front ++ (source ++ back) ∧ LexemeForm source s.alone [] ∧ s.start = start + Text.size front ∧
      s.stop = s.start + Text.size source := by
  induction h with
  | blank => simp
  | @token start gap source rest s spans hgap hsource hstart hstop hrest ih =>
      refine List.forall_mem_cons.mpr ⟨⟨gap, source, rest, rfl, hsource, hstart, hstop⟩, fun t ht => ?_⟩
      obtain ⟨front, own, back, rfl, hown, hfirst, hlast⟩ := ih t ht
      refine ⟨gap ++ (source ++ front), own, back, by simp, hown, ?_, hlast⟩
      simp only [Text.size_append]
      omega

/-- What stands outside the spans is blank. -/
theorem blank_of_outside (h : LaidOut start cs spans) {front back : List Char} {c : Char} (hcs : cs = front ++ c :: back)
    (houtside : ∀ s ∈ spans, start + Text.size front < s.start ∨ s.stop ≤ start + Text.size front) :
    Text.isBlank c = true := by
  induction h generalizing front with
  | blank hblank => exact hblank c (by simp [hcs])
  | @token start gap source rest s spans hgap hsource hstart hstop hrest ih =>
      have hfirst := houtside s List.mem_cons_self
      rcases Text.append_eq_append_cons hcs with ⟨hmem, -⟩ | ⟨behind, rfl, hbehind⟩
      · exact hgap c hmem
      rw [Text.size_append] at hfirst
      rcases Text.append_eq_append_cons hbehind with ⟨-, hinside⟩ | ⟨further, rfl, hfurther⟩
      · -- No character of the first token stands outside it.
        omega
      · refine ih hfurther fun t ht => ?_
        have hother := houtside t (List.mem_cons_of_mem _ ht)
        simp only [Text.size_append] at hother
        omega

end LaidOut

/-- **The spans of a line cover it faithfully.** They are not empty, lie in it on whole characters, one behind the
other, with only blanks outside them, and the characters of each make its token alone. -/
theorem covers_scan (line : String) : Covers line (scan line) := by
  have hlaid : LaidOut 0 line.toList (scan line) := laidOut_scanFrom 0 line.toList
  have hsources := hlaid.exists_source
  refine ⟨?_, ?_, ?_, hlaid.pairwise, ?_, ?_⟩
  · intro s hs
    obtain ⟨front, source, back, -, hsource, -, hstop⟩ := hsources s hs
    have hpos := hsource.size_pos
    omega
  · intro s hs
    obtain ⟨front, source, back, hline, -, hstart, hstop⟩ := hsources s hs
    simp only [hline, Text.size_append]
    omega
  · intro s hs
    obtain ⟨front, source, back, hline, -, hstart, hstop⟩ := hsources s hs
    refine ⟨⟨front, source ++ back, hline, by omega⟩, front ++ source, back, by simp [hline], ?_⟩
    rw [Text.size_append]
    omega
  · intro front c back hline houtside
    exact hlaid.blank_of_outside hline (by simpa using houtside)
  · intro s hs
    obtain ⟨front, source, back, hline, hsource, hstart, hstop⟩ := hsources s hs
    have hfront : Text.size front = s.start := by omega
    have hboth : Text.size (front ++ source) = s.stop := by
      rw [Text.size_append]
      omega
    have hslice : s.source line = String.ofList source := by
      rw [Spanned.source, hline, ← List.append_assoc, ← hboth, Text.takeBytes_size_append, ← hfront,
        Text.dropBytes_size_append]
    have hscan := scanFrom_form IsBlankRun.nil hsource 0
    rw [scanFrom_blank IsBlankRun.nil, List.nil_append] at hscan
    rw [hslice, scan, String.toList_ofList, hscan]
    simp only [Text.size, hstop]
    simp

/-- The blanks that are the value of a name are not in its span. -/
example : (scan "n=  ").map (fun s => (s.token, s.source "n=  ", s.alone)) =
    [(.named "n" (Token.closedQuote "  " '"'), "n=", .named "n" (Token.closedQuote "" '"'))] := by
  decide +kernel

end RemoteShell
