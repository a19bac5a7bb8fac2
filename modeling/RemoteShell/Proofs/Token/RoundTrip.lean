import RemoteShell.Proofs.Token.Form
import RemoteShell.Proofs.Token.Quoted
import RemoteShell.Token.Render

/-!
# Written tokens scan back

Which lists of tokens can be written and scanned back? Not every one: a word may hold a blank, a quoted text may be open
or hold a carriage return. The lists that can are the canonical ones, and scanning gives no others, but for lines that
leave a quote open or end in `name=` with a carriage return among the blanks behind it.

An empty value behind `name=` is the one place where a token depends on what follows: at the end of a line the same
characters are a value made of nothing. So a canonical list does not end with one.

Main statements:

* `tokensOf_render`: a canonical list scans back from its line.
* `canonicalLine_iff`: which lines scan to a canonical list.
* `tokenize_renderLine_exact`: both together.
-/

namespace RemoteShell

/-- The blanks that became the value of a token, because nothing else followed its `name=`. They lie outside the span,
which ends behind the `=`. -/
def Spanned.remainder? (s : Spanned) : Option String :=
  match s.token with
  | .named name (.quoted q) => if s.stop = s.start + Text.size name.toList + 1 then some q.text else none
  | _ => none

/-- A string that scans as one word. -/
def IsWord (text : String) : Prop :=
  IsWordRun text.toList

instance (text : String) : Decidable (IsWord text) :=
  inferInstanceAs (Decidable (IsWordRun text.toList))

/-- A quoted text that can be written: it is closed and holds no carriage return. -/
structure Quotation.Canonical (q : Quotation) : Prop where
  isQuoteMark_mark : isQuoteMark q.mark = true
  closed : q.closed = true
  no_return : '\r' ∉ q.text.toList

/-- The values behind `name=` that can be written, whatever follows. -/
inductive CanonicalValue : Token → Prop
  | word {text : String} (h : IsWord text) : CanonicalValue (.word text)
  | quoted {q : Quotation} (h : q.Canonical) : CanonicalValue (.quoted q)
  | bracket : CanonicalValue (.punct '[')

/-- The tokens that can be written, whatever follows. -/
inductive CanonicalToken : Token → Prop
  | word {text : String} (h : IsWord text) : CanonicalToken (.word text)
  | quoted {q : Quotation} (h : q.Canonical) : CanonicalToken (.quoted q)
  | punct {mark : Char} (h : isReserved mark = true) : CanonicalToken (.punct mark)
  | named {name : String} {value : Token} (hname : IsWord name) (hvalue : CanonicalValue value) :
      CanonicalToken (.named name value)

/-- The lists of tokens that can be written. A name without a value is among them only before another token. -/
inductive CanonicalLine : List Token → Prop
  | nil : CanonicalLine []
  | cons {token : Token} {rest : List Token} (htoken : CanonicalToken token) (hrest : CanonicalLine rest) :
      CanonicalLine (token :: rest)
  | missing {name : String} {rest : List Token} (hname : IsWord name) (hne : rest ≠ []) (hrest : CanonicalLine rest) :
      CanonicalLine (.named name Token.placeholder :: rest)

/-- Nothing follows, or a blank. -/
def StartsBlank (rest : List Char) : Prop :=
  ∀ c ∈ rest.head?, Text.isBlank c = true

theorem StartsBlank.endsWord {rest : List Char} (h : StartsBlank rest) : EndsWord rest :=
  fun c hc => isWordChar_of_isBlank (h c hc)

theorem StartsBlank.head?_ne {rest : List Char} (h : StartsBlank rest) : rest.head? ≠ some '=' := by
  intro heq
  exact absurd (h '=' heq) (by decide)

theorem StartsBlank.nil : StartsBlank [] := by
  simp [StartsBlank]

theorem StartsBlank.space (rest : List Char) : StartsBlank (' ' :: rest) := by
  simp only [StartsBlank, List.head?_cons, Option.mem_def, Option.some.injEq]
  rintro c rfl
  decide

/-! ## From a token to its characters and back -/

/-- A closed quoted text reads back from its quotes. -/
theorem Quotation.Canonical.readQuoted_token {q : Quotation} (h : q.Canonical) (rest : List Char) :
    (readQuoted q.mark (quoteBody q.mark q.text.toList ++ rest)).token q.mark = .quoted q ∧
      (readQuoted q.mark (quoteBody q.mark q.text.toList ++ rest)).rest = rest := by
  rw [readQuoted_quoteBody h.isQuoteMark_mark h.no_return]
  refine ⟨?_, rfl⟩
  obtain ⟨text, mark, closed⟩ := q
  have hclosed : closed = true := h.closed
  simp [QuotedRun.token, hclosed]

theorem toList_quote (text : String) (mark : Char) : (quote text mark).toList = mark :: quoteBody mark text.toList := by
  simp [quote, quoteChars]

/-- What is written for a text is a word, or the text in double quotes. -/
theorem wordOrQuoted_cases (text : String) :
    (wordOrQuoted text = .word text ∧ IsWord text ∧ text ≠ Token.skipMarker) ∨
      wordOrQuoted text = Token.closedQuote text '"' := by
  unfold wordOrQuoted
  split
  · next hword =>
      simp only [Bool.and_eq_true, bne_iff_ne, List.all_eq_true] at hword
      exact Or.inl ⟨rfl, ⟨by simpa using hword.1.1, hword.2⟩, hword.1.2⟩
  · exact Or.inr rfl

/-- A value scans back from behind its name. -/
theorem CanonicalValue.form {value : Token} (h : CanonicalValue value) {rest : List Char} (hrest : StartsBlank rest) :
    ValueForm (value.render.toList ++ rest) value rest := by
  cases h with
  | word hword =>
      have hform := ValueForm.word hword hrest.endsWord
      rwa [String.ofList_toList] at hform
  | @quoted q hq =>
      have hform := @ValueForm.quoted q.mark (quoteBody q.mark q.text.toList ++ rest) hq.isQuoteMark_mark
      rw [(hq.readQuoted_token rest).1, (hq.readQuoted_token rest).2] at hform
      rwa [Token.render, toList_quote]
  | bracket => exact ValueForm.bracket rest

/-- A token scans back from its characters. -/
theorem CanonicalToken.form {token : Token} (h : CanonicalToken token) {rest : List Char} (hrest : StartsBlank rest) :
    LexemeForm (token.render.toList ++ rest) token rest := by
  cases h with
  | word hword =>
      have hform := LexemeForm.word hword hrest.endsWord hrest.head?_ne
      rwa [String.ofList_toList] at hform
  | @quoted q hq =>
      have hform := @LexemeForm.quoted q.mark (quoteBody q.mark q.text.toList ++ rest) hq.isQuoteMark_mark
      rw [(hq.readQuoted_token rest).1, (hq.readQuoted_token rest).2] at hform
      rwa [Token.render, toList_quote]
  | punct hmark => simpa [Token.render] using LexemeForm.punct hmark rest
  | @named name value hname hvalue =>
      have hform := LexemeForm.named hname (hvalue.form hrest)
      rw [String.ofList_toList] at hform
      simpa [Token.render, List.append_assoc] using hform

/-- A name without a value scans back before anything that is not blank. -/
theorem missing_form {name : String} (hname : IsWord name) {rest : List Char} (hrest : ¬ IsBlankRun rest) :
    LexemeForm ((Token.named name Token.placeholder).render.toList ++ ' ' :: rest)
      (.named name Token.placeholder) (' ' :: rest) := by
  have hsome : ¬ IsBlankRun (' ' :: rest) := fun h => hrest fun c hc => h c (List.mem_cons_of_mem _ hc)
  have hform := LexemeForm.named hname (ValueForm.missing (by decide) (by decide) (by decide) hsome)
  rw [String.ofList_toList] at hform
  simpa [Token.render, Token.placeholder, List.append_assoc] using hform

/-- **A canonical list scans back from its line.** -/
theorem tokensOf_render {tokens : List Token} (h : CanonicalLine tokens) :
    tokensOf (renderLine tokens).toList = tokens := by
  induction h with
  | nil => exact tokensOf_blank IsBlankRun.nil
  | @cons token rest htoken hrest ih =>
      cases rest with
      | nil =>
          have hform := htoken.form StartsBlank.nil
          rw [List.append_nil] at hform
          have hscan := tokensOf_lexeme hform
          rwa [tokensOf_blank IsBlankRun.nil] at hscan
      | cons next rest =>
          have hform := htoken.form (StartsBlank.space (renderLine (next :: rest)).toList)
          have hscan := tokensOf_lexeme hform
          rw [tokensOf_space, ih] at hscan
          simpa [renderLine_cons_cons, List.append_assoc] using hscan
  | @missing name rest hname hne hrest ih =>
      obtain ⟨next, rest, rfl⟩ := List.exists_cons_of_ne_nil hne
      have hsome : ¬ IsBlankRun (renderLine (next :: rest)).toList := by
        intro hblank
        rw [tokensOf_blank hblank] at ih
        exact absurd ih (by simp)
      have hscan := tokensOf_lexeme (missing_form hname hsome)
      rw [tokensOf_space, ih] at hscan
      simpa [renderLine_cons_cons, List.append_assoc] using hscan

/-! ## Which lines scan to a canonical list -/

/-- What keeps a token of a line from being written again: a quote left open, or a carriage return among the blanks that
became its value. -/
def Spanned.Writable (s : Spanned) : Prop :=
  s.token.isUnterminated = false ∧ ∀ raw, s.remainder? = some raw → '\r' ∉ raw.toList

/-- A closed text that was read can be written. -/
theorem canonical_of_readQuoted {mark : Char} {cs : List Char} (hmark : isQuoteMark mark = true)
    (hclosed : ((readQuoted mark cs).token mark).isUnterminated = false) :
    ∃ q : Quotation, (readQuoted mark cs).token mark = .quoted q ∧ q.Canonical := by
  refine ⟨_, rfl, hmark, ?_, ?_⟩
  · simpa [QuotedRun.token, Token.isUnterminated] using hclosed
  · simpa using readQuoted_no_return mark cs

/-- A value that was scanned can be written, unless it is missing. -/
theorem ValueForm.canonical {cs rest : List Char} {value : Token} (h : ValueForm cs value rest)
    (hclosed : value.isUnterminated = false) (hreturn : rest = cs → '\r' ∉ value.text.toList) :
    CanonicalValue value ∨ (value = Token.placeholder ∧ ¬ IsBlankRun rest) := by
  cases h with
  | quoted hmark =>
      obtain ⟨q, hq, hcanonical⟩ := canonical_of_readQuoted hmark hclosed
      rw [hq]
      exact Or.inl (CanonicalValue.quoted hcanonical)
  | bracket => exact Or.inl CanonicalValue.bracket
  | word hword =>
      refine Or.inl (CanonicalValue.word ?_)
      simpa [IsWord] using hword
  | remainder hblank => exact Or.inl (CanonicalValue.quoted ⟨rfl, rfl, hreturn rfl⟩)
  | missing hmark hne hword hsome => exact Or.inr ⟨rfl, hsome⟩

/-- The blanks that became a value are known by the span, which ends right behind the `=`. -/
theorem remainder?_of_rest {name after : List Char} {q : Quotation} (start : Nat) :
    Spanned.remainder?
      { token := .named (String.ofList name) (.quoted q), start
        stop := start + (Text.size (name ++ '=' :: after) - Text.size after) } = some q.text := by
  have hsize : Text.size ('=' :: after) = 1 + Text.size after := rfl
  simp only [Spanned.remainder?, String.toList_ofList, Text.size_append, hsize]
  rw [if_pos (by omega)]

/-- A token that was scanned can be written, unless its value is missing before something that is not blank. -/
theorem LexemeForm.canonical {body rest : List Char} {token : Token} (h : LexemeForm body token rest) {start : Nat}
    (hwritable : Spanned.Writable { token, start, stop := start + (Text.size body - Text.size rest) }) :
    CanonicalToken token ∨
      ∃ name, IsWord name ∧ token = .named name Token.placeholder ∧ ¬ IsBlankRun rest := by
  obtain ⟨hclosed, hreturn⟩ := hwritable
  cases h with
  | quoted hmark =>
      obtain ⟨q, hq, hcanonical⟩ := canonical_of_readQuoted hmark hclosed
      rw [hq]
      exact Or.inl (CanonicalToken.quoted hcanonical)
  | punct hmark => exact Or.inl (CanonicalToken.punct hmark)
  | word hword =>
      refine Or.inl (CanonicalToken.word ?_)
      simpa [IsWord] using hword
  | @named name after rest value hname hvalue =>
      have hword : IsWord (String.ofList name) := by simpa [IsWord] using hname
      have hvalueReturn : rest = after → '\r' ∉ value.text.toList := by
        intro hkept
        cases hvalue with
        | remainder hblank => exact hreturn _ (remainder?_of_rest start)
        | @quoted mark cs hmark => simpa [QuotedRun.token, Token.text] using readQuoted_no_return mark cs
        | bracket rest => simp at hkept
        | word hword =>
            have hlen := congrArg List.length hkept
            simp [hword.1] at hlen
        | missing => simp [Token.placeholder, Token.text]
      rcases hvalue.canonical hclosed hvalueReturn with hcanonical | ⟨rfl, hsome⟩
      · exact Or.inl (CanonicalToken.named hword hcanonical)
      · exact Or.inr ⟨_, hword, rfl, hsome⟩

theorem CanonicalToken.not_isUnterminated {token : Token} (h : CanonicalToken token) :
    token.isUnterminated = false := by
  cases h with
  | word => rfl
  | quoted hq => simp [Token.isUnterminated, hq.closed]
  | punct => rfl
  | named hname hvalue =>
      cases hvalue with
      | word => rfl
      | quoted hq => simp [Token.isUnterminated, hq.closed]
      | bracket => rfl

/-- Whatever its span, a canonical token can be written. -/
theorem CanonicalToken.writable {s : Spanned} (h : CanonicalToken s.token) : s.Writable := by
  refine ⟨h.not_isUnterminated, ?_⟩
  intro raw hraw
  unfold Spanned.remainder? at hraw
  split at hraw
  · next name q htoken =>
      rw [htoken] at h
      cases h with
      | named hname hvalue =>
          cases hvalue with
          | quoted hq =>
              split at hraw
              · obtain rfl := Option.some.inj hraw
                exact hq.no_return
              · simp at hraw
  · simp at hraw

theorem CanonicalLine.writable {tokens : List Token} (h : CanonicalLine tokens) {s : Spanned} (hs : s.token ∈ tokens) :
    s.Writable := by
  induction h with
  | nil => simp at hs
  | cons htoken hrest ih =>
      rcases List.mem_cons.mp hs with heq | hs
      · exact CanonicalToken.writable (heq ▸ htoken)
      · exact ih hs
  | missing hname hne hrest ih =>
      rcases List.mem_cons.mp hs with heq | hs
      · refine ⟨by rw [heq]; rfl, ?_⟩
        intro raw hraw
        simp [Spanned.remainder?, heq, Token.placeholder] at hraw
      · exact ih hs

/-- Characters whose tokens can all be written scan to a canonical list. -/
theorem canonicalLine_scanFrom {start : Nat} {cs : List Char} (h : ∀ s ∈ scanFrom start cs, s.Writable) :
    CanonicalLine (tokensOf cs) := by
  induction cs using scan_induction generalizing start with
  | blank cs hblank =>
      rw [tokensOf_blank hblank]
      exact CanonicalLine.nil
  | token gap body token rest hgap hform ih =>
      rw [scanFrom_form hgap hform] at h
      have hrest : CanonicalLine (tokensOf rest) := ih fun s hs => h s (List.mem_cons_of_mem _ hs)
      rw [tokensOf_form hgap hform]
      rcases hform.canonical (h _ List.mem_cons_self) with hcanonical | ⟨name, hname, rfl, hsome⟩
      · exact CanonicalLine.cons hcanonical hrest
      · exact CanonicalLine.missing hname (fun hnil => hsome (tokensOf_eq_nil_iff.mp hnil)) hrest

/-- **Which lines scan to a canonical list:** those that leave no quote open and hold no carriage return among blanks
that became a value. -/
theorem canonicalLine_iff (line : String) : CanonicalLine (tokenize line) ↔ ∀ s ∈ scan line, s.Writable := by
  constructor
  · intro h s hs
    exact h.writable (List.mem_map_of_mem hs)
  · exact canonicalLine_scanFrom

/-- **Writing and scanning are inverse, exactly on the canonical lists.** A canonical list scans back from its line; the
lines that scan to one are those whose tokens can all be written, and scanning what is written for such a line gives its
tokens again. -/
theorem tokenize_renderLine_exact :
    (∀ tokens, CanonicalLine tokens → tokenize (renderLine tokens) = tokens) ∧
      ∀ line,
        (CanonicalLine (tokenize line) ↔ ∀ s ∈ scan line, s.token.isUnterminated = false ∧
          ∀ raw, s.remainder? = some raw → '\r' ∉ raw.toList) ∧
        ((∀ s ∈ scan line, s.token.isUnterminated = false ∧ ∀ raw, s.remainder? = some raw → '\r' ∉ raw.toList) →
          tokenize (renderLine (tokenize line)) = tokenize line) := by
  refine ⟨fun tokens h => tokensOf_render h, fun line => ⟨canonicalLine_iff line, fun h => ?_⟩⟩
  exact tokensOf_render ((canonicalLine_iff line).mpr h)

/-- Quotes within quotes, a name without a value before a bracket, and a line that ends in blanks behind `path=`. -/
theorem tokenize_renderLine_letter :
    CanonicalLine [.word "mail", .named "from" (Token.closedQuote "a \"b\"\n" '"'), .named "to" Token.placeholder,
      .punct ']'] ∧
    tokenize "mail from=\"a \\\"b\\\"\\n\" to= ]" = [.word "mail", .named "from" (Token.closedQuote "a \"b\"\n" '"'),
      .named "to" Token.placeholder, .punct ']'] ∧
    CanonicalLine (tokenize "ls path=  ") ∧ tokenize "ls path=\"  \"" = tokenize "ls path=  " := by
  have hletter : CanonicalLine [.word "mail", .named "from" (Token.closedQuote "a \"b\"\n" '"'),
      .named "to" Token.placeholder, .punct ']'] := by
    refine CanonicalLine.cons (CanonicalToken.word (by decide)) ?_
    refine CanonicalLine.cons (CanonicalToken.named (by decide) (CanonicalValue.quoted ⟨rfl, rfl, by decide⟩)) ?_
    refine CanonicalLine.missing (by decide) (by simp) ?_
    exact CanonicalLine.cons (CanonicalToken.punct rfl) CanonicalLine.nil
  have hwritable : ∀ s ∈ scan "ls path=  ", s.token.isUnterminated = false ∧
      ∀ raw, s.remainder? = some raw → '\r' ∉ raw.toList := by
    have hscan : scan "ls path=  " =
        [⟨.word "ls", 0, 2⟩, ⟨.named "path" (Token.closedQuote "  " '"'), 3, 8⟩] := by decide +kernel
    rw [hscan]
    intro s hs
    simp only [List.mem_cons, List.not_mem_nil, or_false] at hs
    rcases hs with rfl | rfl
    · simp [Token.isUnterminated, Spanned.remainder?]
    · simp [Token.isUnterminated, Spanned.remainder?, Token.closedQuote]
  have hblanks := tokenize_renderLine_exact.2 "ls path=  "
  exact ⟨hletter, tokenize_renderLine_exact.1 _ hletter, hblanks.1.mpr hwritable, by
    rw [← hblanks.2 hwritable]
    decide +kernel⟩

end RemoteShell
