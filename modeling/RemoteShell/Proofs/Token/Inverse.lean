import RemoteShell.Proofs.Token.RoundTrip

/-!
# Quoting is undone by scanning

A text in quotes is one token with that text again, and so is a text written as a word where it can be one. The only
texts for which this fails are those with a carriage return. The line syntax has no escape for it, so it stands between
the quotes as it is, and a line break ends a quoted text: what is read is the text before the first carriage return, left
open, and the rest of the line is read as something else.

Main statements:

* `readQuoted_quoteBody_return`: what is read of a text with a carriage return.
* `tokenize_quote`, `tokenize_quote_return`: the first token of a text in quotes.
* `tokenize_quote_iff`: which texts survive, in quotes and as the word or quoted text that is written for them.
-/

namespace RemoteShell

/-- **A text with a carriage return is read up to it,** and the quotes are left open. -/
theorem readQuoted_quoteBody_return {mark : Char} (hmark : isQuoteMark mark = true) {before : List Char}
    (hbefore : '\r' ∉ before) (after : List Char) :
    readQuoted mark (quoteBody mark (before ++ '\r' :: after)) =
      { text := before, closed := false, rest := '\r' :: quoteBody mark after } := by
  have hreturn : escapeChar mark '\r' = ['\r'] := by simp [escapeChar, escapeLetter]
  induction before with
  | nil =>
      have hbody : quoteBody mark ([] ++ '\r' :: after) = '\r' :: quoteBody mark after := by simp [quoteBody, hreturn]
      rw [hbody, readQuoted_cons (by decide), if_pos (by decide)]
  | cons c before ih =>
      rw [List.mem_cons, not_or] at hbefore
      have hbody : quoteBody mark (c :: before ++ '\r' :: after) =
          escapeChar mark c ++ quoteBody mark (before ++ '\r' :: after) := by
        simp [quoteBody]
      rw [hbody, readQuoted_escapeChar hmark (Ne.symm hbefore.1), ih hbefore.2]
      rfl

/-- A canonical token is all there is to scan of what is written for it. -/
theorem CanonicalToken.tokenize_render {token : Token} (h : CanonicalToken token) :
    tokenize token.render = [token] :=
  tokensOf_render (CanonicalLine.cons h CanonicalLine.nil)

/-- **A text in quotes is one token,** closed and with the text as it was. -/
theorem tokenize_quote {text : String} {mark : Char} (hmark : isQuoteMark mark = true) (hreturn : '\r' ∉ text.toList) :
    tokenize (quote text mark) = [Token.closedQuote text mark] := by
  have hcanonical : CanonicalToken (Token.closedQuote text mark) := CanonicalToken.quoted ⟨hmark, rfl, hreturn⟩
  have hrender : (Token.closedQuote text mark).render = quote text mark := rfl
  rw [← hrender, hcanonical.tokenize_render]

/-- **The first token of a text in quotes that holds a carriage return** is what comes before it, left open. -/
theorem tokenize_quote_return {text : String} {mark : Char} (hmark : isQuoteMark mark = true)
    (hreturn : '\r' ∈ text.toList) :
    ∃ rest, tokenize (quote text mark) =
      .quoted { text := String.ofList (text.toList.takeWhile (· != '\r')), mark, closed := false } :: rest := by
  obtain ⟨before, after, hsplit, hbefore⟩ := List.eq_append_cons_of_mem hreturn
  have htake : text.toList.takeWhile (· != '\r') = before := by
    rw [hsplit, List.takeWhile_append_of_pos (by grind)]
    simp
  have hform := @LexemeForm.quoted mark (quoteBody mark text.toList) hmark
  rw [tokenize_eq, toList_quote, tokensOf_lexeme hform, htake, hsplit, readQuoted_quoteBody_return hmark hbefore]
  exact ⟨_, rfl⟩

/-- **Which texts survive quoting and scanning:** those without a carriage return, in either quotes and as what is written
for them. What is written never holds the place of a value that was not given. -/
theorem tokenize_quote_iff {mark : Char} (hmark : isQuoteMark mark = true) (text : String) :
    (tokenize (quote text mark) = [Token.closedQuote text mark] ↔ '\r' ∉ text.toList) ∧
      (tokenize (wordOrQuoted text).render = [wordOrQuoted text] ↔ '\r' ∉ text.toList) ∧
      (wordOrQuoted text).isPlaceholder = false := by
  have hquote : ∀ mark, isQuoteMark mark = true →
      (tokenize (quote text mark) = [Token.closedQuote text mark] ↔ '\r' ∉ text.toList) := by
    intro mark hmark
    refine ⟨fun h hreturn => ?_, tokenize_quote hmark⟩
    obtain ⟨rest, hrest⟩ := tokenize_quote_return hmark hreturn
    rw [h] at hrest
    simp [Token.closedQuote] at hrest
  rcases wordOrQuoted_cases text with ⟨hword, hrun, hmarker⟩ | hquoted
  · have hreturn : '\r' ∉ text.toList := hrun.noReturn
    refine ⟨hquote mark hmark, ?_, ?_⟩
    · rw [hword]
      exact iff_of_true (CanonicalToken.word hrun).tokenize_render hreturn
    · have hsome : text ≠ "" := fun hnil => hrun.1 (by simp [hnil])
      simp [hword, Token.isPlaceholder, hsome, hmarker]
  · rw [hquoted]
    exact ⟨hquote mark hmark, hquote '"' rfl, rfl⟩

/-- Quotes, backslashes, a tab, a line feed and a form feed survive in single quotes. -/
theorem tokenize_quote_controls :
    isQuoteMark '\'' = true ∧
      tokenize (quote "it's \"\\n\"\t\n\x0c" '\'') = [Token.closedQuote "it's \"\\n\"\t\n\x0c" '\''] ∧
      tokenize (wordOrQuoted "it's \"\\n\"\t\n\x0c").render = [wordOrQuoted "it's \"\\n\"\t\n\x0c"] := by
  obtain ⟨hquote, hword, -⟩ := @tokenize_quote_iff '\'' rfl "it's \"\\n\"\t\n\x0c"
  exact ⟨rfl, hquote.mpr (by decide), hword.mpr (by decide)⟩

/-- A carriage return cuts a quoted text in two. -/
theorem tokenize_quote_cut :
    tokenize (quote "a\rb" '"') =
        [.quoted { text := "a", mark := '"', closed := false }, .word "b",
          .quoted { text := "", mark := '"', closed := false }] ∧
      tokenize (quote "a\rb" '"') ≠ [Token.closedQuote "a\rb" '"'] ∧
      tokenize (wordOrQuoted "a\rb").render ≠ [wordOrQuoted "a\rb"] := by
  decide +kernel

end RemoteShell
