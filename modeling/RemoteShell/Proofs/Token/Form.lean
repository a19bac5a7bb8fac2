import RemoteShell.Token.Scan

/-!
# The forms of a token

The scanner is a function from characters to tokens. This file says beside it, as a relation, which characters make
which token and what they leave, and proves the two equal. Every statement about scanning goes through the relation:
its cases are the rules of the line syntax, and the scanner is not unfolded again.

Main statements:

* `ValueForm.namedValue_eq`, `namedValue_form`: the relation for values behind `name=` is the function that reads them.
* `LexemeForm.lexeme_eq`, `lexeme_form`: the same for tokens.
* `scanFrom_form`: one token is scanned off the front of a line, whatever blanks stand before it.
* `scanFrom_shift`, `scanFrom_gap`: where a line begins, and blanks in front of it, only move its tokens.
* `scan_induction`: what holds of blank lines, and of a line whenever it holds behind its first token, holds of all lines.
-/

namespace RemoteShell

/-- Characters that make up one word. -/
def IsWordRun (cs : List Char) : Prop :=
  cs ≠ [] ∧ ∀ c ∈ cs, isWordChar c = true

instance (cs : List Char) : Decidable (IsWordRun cs) :=
  decidable_of_iff (cs ≠ [] ∧ cs.all isWordChar = true) (by simp [IsWordRun])

/-- What follows does not go on with a word. -/
def EndsWord (rest : List Char) : Prop :=
  ∀ c ∈ rest.head?, isWordChar c = false

/-- Characters that are all blank. -/
def IsBlankRun (cs : List Char) : Prop :=
  ∀ c ∈ cs, Text.isBlank c = true

/-- The value that characters behind `name=` stand for, and what they leave. -/
inductive ValueForm : List Char → Token → List Char → Prop
  /-- A text in quotes. -/
  | quoted {mark : Char} {cs : List Char} (hmark : isQuoteMark mark = true) :
      ValueForm (mark :: cs) ((readQuoted mark cs).token mark) (readQuoted mark cs).rest
  /-- The bracket that opens a list. -/
  | bracket (rest : List Char) : ValueForm ('[' :: rest) (.punct '[') rest
  /-- A word. -/
  | word {word rest : List Char} (hword : IsWordRun word) (hrest : EndsWord rest) :
      ValueForm (word ++ rest) (.word (String.ofList word)) rest
  /-- Only blanks up to the end of the line, which are the value as they stand. -/
  | remainder {cs : List Char} (hblank : IsBlankRun cs) :
      ValueForm cs (Token.closedQuote (String.ofList cs) '"') cs
  /-- Something else, which is no value: the place stays empty. -/
  | missing {c : Char} {cs : List Char} (hmark : isQuoteMark c = false) (hne : c ≠ '[')
      (hword : isWordChar c = false) (hsome : ¬ IsBlankRun (c :: cs)) :
      ValueForm (c :: cs) Token.placeholder (c :: cs)

/-- The token that characters begin with, and what it leaves. -/
inductive LexemeForm : List Char → Token → List Char → Prop
  /-- A text in quotes. -/
  | quoted {mark : Char} {cs : List Char} (hmark : isQuoteMark mark = true) :
      LexemeForm (mark :: cs) ((readQuoted mark cs).token mark) (readQuoted mark cs).rest
  /-- A reserved mark. -/
  | punct {mark : Char} (hmark : isReserved mark = true) (rest : List Char) :
      LexemeForm (mark :: rest) (.punct mark) rest
  /-- A word that names no value. -/
  | word {word rest : List Char} (hword : IsWordRun word) (hrest : EndsWord rest) (hname : rest.head? ≠ some '=') :
      LexemeForm (word ++ rest) (.word (String.ofList word)) rest
  /-- A word that names the value behind it. -/
  | named {name after rest : List Char} {value : Token} (hname : IsWordRun name) (hvalue : ValueForm after value rest) :
      LexemeForm (name ++ '=' :: after) (.named (String.ofList name) value) rest

/-! ## Words -/

/-- A word begins with a character that opens no other token. -/
theorem isWordChar_excludes {c : Char} (h : isWordChar c = true) :
    Text.isBlank c = false ∧ isQuoteMark c = false ∧ isReserved c = false :=
  isWordChar_iff.mp h

theorem isBlank_of_isReserved {c : Char} (h : isReserved c = true) : Text.isBlank c = false := by
  simp only [isReserved, Bool.or_eq_true, beq_iff_eq] at h
  rcases h with (((((rfl | rfl) | rfl) | rfl) | rfl) | rfl) | rfl <;> rfl

theorem isBlank_of_isQuoteMark {c : Char} (h : isQuoteMark c = true) : Text.isBlank c = false := by
  simp only [isQuoteMark, Bool.or_eq_true, beq_iff_eq] at h
  rcases h with rfl | rfl <;> rfl

theorem isQuoteMark_of_isBlank {c : Char} (h : Text.isBlank c = true) : isQuoteMark c = false := by
  refine Bool.eq_false_iff.mpr ?_
  intro hmark
  rw [isBlank_of_isQuoteMark hmark] at h
  exact absurd h (by decide)

theorem isReserved_of_isQuoteMark {c : Char} (h : isQuoteMark c = true) : isReserved c = false := by
  simp only [isQuoteMark, Bool.or_eq_true, beq_iff_eq] at h
  rcases h with rfl | rfl <;> rfl

theorem isWordChar_of_isQuoteMark {c : Char} (h : isQuoteMark c = true) : isWordChar c = false := by
  simp [isWordChar, h]

theorem isWordChar_of_isReserved {c : Char} (h : isReserved c = true) : isWordChar c = false := by
  simp [isWordChar, h]

theorem isWordChar_of_isBlank {c : Char} (h : Text.isBlank c = true) : isWordChar c = false := by
  simp [isWordChar, h]

theorem IsWordRun.noReturn {word : List Char} (h : IsWordRun word) : '\r' ∉ word := by
  intro hreturn
  exact absurd (h.2 _ hreturn) (by decide)

theorem IsWordRun.head {c : Char} {cs : List Char} (h : IsWordRun (c :: cs)) : isWordChar c = true :=
  h.2 c (by simp)

theorem EndsWord.nil : EndsWord [] := by
  simp [EndsWord]

theorem EndsWord.cons {c : Char} (h : isWordChar c = false) (cs : List Char) : EndsWord (c :: cs) := by
  simp [EndsWord, h]

theorem IsBlankRun.nil : IsBlankRun [] := by
  simp [IsBlankRun]

theorem IsBlankRun.space : IsBlankRun [' '] := by
  simp only [IsBlankRun, List.mem_singleton, forall_eq]
  decide

theorem IsBlankRun.append {xs ys : List Char} (hxs : IsBlankRun xs) (hys : IsBlankRun ys) : IsBlankRun (xs ++ ys) :=
  fun c hc => (List.mem_append.mp hc).elim (hxs c) (hys c)

/-- A word is taken whole, and nothing behind it. -/
theorem takeWhile_wordRun {word rest : List Char} (hword : ∀ c ∈ word, isWordChar c = true) (hrest : EndsWord rest) :
    (word ++ rest).takeWhile isWordChar = word := by
  rw [List.takeWhile_append_of_pos hword]
  cases rest with
  | nil => simp
  | cons c cs =>
      have hc : isWordChar c = false := hrest c (by simp)
      simp [hc]

theorem dropWhile_wordRun {word rest : List Char} (hword : ∀ c ∈ word, isWordChar c = true) (hrest : EndsWord rest) :
    (word ++ rest).dropWhile isWordChar = rest := by
  rw [List.dropWhile_append_of_pos hword]
  cases rest with
  | nil => simp
  | cons c cs =>
      have hc : isWordChar c = false := hrest c (by simp)
      simp [hc]

/-- Any characters are a run of word characters and something that ends it. -/
theorem exists_wordRun (cs : List Char) :
    ∃ word rest, cs = word ++ rest ∧ (∀ c ∈ word, isWordChar c = true) ∧ EndsWord rest := by
  refine ⟨cs.takeWhile isWordChar, cs.dropWhile isWordChar, (List.takeWhile_append_dropWhile).symm, ?_, ?_⟩
  · exact List.all_eq_true.mp List.all_takeWhile
  · intro c hc
    have hnot := List.head?_dropWhile_not isWordChar cs
    rw [Option.mem_def.mp hc] at hnot
    simpa using hnot

/-! ## Values -/

/-- **A form of a value is what is read.** -/
theorem ValueForm.namedValue_eq {cs rest : List Char} {value : Token} (h : ValueForm cs value rest) :
    namedValue cs = (value, rest) := by
  cases h with
  | quoted hmark => simp [namedValue, hmark]
  | bracket => rfl
  | @word word rest hword hrest =>
      obtain ⟨c, cs, rfl⟩ := List.exists_cons_of_ne_nil hword.1
      have hc := isWordChar_excludes hword.head
      have hbracket : c ≠ '[' := by
        rintro rfl
        exact absurd hc.2.2 (by decide)
      have htake := takeWhile_wordRun hword.2 hrest
      have hdrop := dropWhile_wordRun hword.2 hrest
      rw [List.cons_append] at htake hdrop ⊢
      simp only [namedValue, hc.2.1, hbracket, hword.head, htake, hdrop, if_true, if_false, Bool.false_eq_true]
  | remainder hblank =>
      cases cs with
      | nil => rfl
      | cons c cs =>
          have hc : Text.isBlank c = true := hblank c (by simp)
          have hmark : isQuoteMark c = false := isQuoteMark_of_isBlank hc
          have hbracket : c ≠ '[' := by
            rintro rfl
            exact absurd hc (by decide)
          have hall : (c :: cs).all Text.isBlank = true := List.all_eq_true.mpr hblank
          simp only [namedValue, hmark, hbracket, isWordChar_of_isBlank hc, hall, if_true, if_false, Bool.false_eq_true]
  | @missing c cs hmark hne hword hsome =>
      have hall : ¬ (c :: cs).all Text.isBlank = true := fun hall => hsome (List.all_eq_true.mp hall)
      simp only [namedValue, hmark, hne, hword, hall, if_false, Bool.false_eq_true]

/-- What is read behind `name=` has a form. -/
theorem namedValue_form (cs : List Char) : ValueForm cs (namedValue cs).1 (namedValue cs).2 := by
  cases cs with
  | nil => exact ValueForm.remainder (by simp [IsBlankRun])
  | cons c cs =>
      by_cases hmark : isQuoteMark c = true
      · have hform : ValueForm (c :: cs) _ _ := ValueForm.quoted hmark
        rwa [hform.namedValue_eq]
      · by_cases hbracket : c = '['
        · subst hbracket
          exact ValueForm.bracket cs
        · by_cases hword : isWordChar c = true
          · obtain ⟨word, rest, rfl, hall, hrest⟩ := exists_wordRun cs
            have hrun : IsWordRun (c :: word) := by
              refine ⟨by simp, ?_⟩
              intro d hd
              rcases List.mem_cons.mp hd with rfl | hd
              · exact hword
              · exact hall d hd
            have hform : ValueForm (c :: word ++ rest) _ _ := ValueForm.word hrun hrest
            rw [List.cons_append] at hform
            rwa [hform.namedValue_eq]
          · by_cases hblank : IsBlankRun (c :: cs)
            · have hform : ValueForm (c :: cs) _ _ := ValueForm.remainder hblank
              rwa [hform.namedValue_eq]
            · have hform : ValueForm (c :: cs) _ _ :=
                ValueForm.missing (by simpa using hmark) hbracket (by simpa using hword) hblank
              rwa [hform.namedValue_eq]

/-! ## Tokens -/

/-- A run of word characters is a word, unless it names a value. -/
theorem lexeme_word {c : Char} {word rest : List Char} (hword : IsWordRun (c :: word)) (hrest : EndsWord rest)
    (hname : rest.head? ≠ some '=') : lexeme c (word ++ rest) = (.word (String.ofList (c :: word)), rest) := by
  have hc := isWordChar_excludes hword.head
  have hall : ∀ d ∈ word, isWordChar d = true := fun d hd => hword.2 d (List.mem_cons_of_mem _ hd)
  simp only [lexeme, hc.2.1, hc.2.2, takeWhile_wordRun hall hrest, if_false, Bool.false_eq_true]
  rw [dropWhile_wordRun hall hrest]
  split
  · next after => exact absurd rfl hname
  · rfl

/-- A run of word characters before `=` names the value behind it. -/
theorem lexeme_named {c : Char} {name : List Char} (hname : IsWordRun (c :: name)) (after : List Char) :
    lexeme c (name ++ '=' :: after) =
      (.named (String.ofList (c :: name)) (namedValue after).1, (namedValue after).2) := by
  have hc := isWordChar_excludes hname.head
  have hall : ∀ d ∈ name, isWordChar d = true := fun d hd => hname.2 d (List.mem_cons_of_mem _ hd)
  have hstop : EndsWord ('=' :: after) := EndsWord.cons (by decide) after
  simp only [lexeme, hc.2.1, hc.2.2, takeWhile_wordRun hall hstop, if_false, Bool.false_eq_true]
  rw [dropWhile_wordRun hall hstop]
  rfl

/-- **A form of a token is what is scanned.** -/
theorem LexemeForm.lexeme_eq {c : Char} {cs rest : List Char} {token : Token}
    (h : LexemeForm (c :: cs) token rest) : lexeme c cs = (token, rest) := by
  generalize hall : c :: cs = all at h
  cases h with
  | quoted hmark =>
      obtain ⟨rfl, rfl⟩ := List.cons.inj hall
      simp [lexeme, hmark]
  | punct hmark =>
      obtain ⟨rfl, rfl⟩ := List.cons.inj hall
      have hquote : isQuoteMark c = false := by
        refine Bool.eq_false_iff.mpr ?_
        intro hquote
        rw [isReserved_of_isQuoteMark hquote] at hmark
        exact absurd hmark (by decide)
      simp [lexeme, hmark, hquote]
  | @word word rest hword hrest hname =>
      obtain ⟨d, word, rfl⟩ := List.exists_cons_of_ne_nil hword.1
      rw [List.cons_append] at hall
      obtain ⟨rfl, rfl⟩ := List.cons.inj hall
      exact lexeme_word hword hrest hname
  | @named name after rest value hname hvalue =>
      obtain ⟨d, name, rfl⟩ := List.exists_cons_of_ne_nil hname.1
      rw [List.cons_append] at hall
      obtain ⟨rfl, rfl⟩ := List.cons.inj hall
      rw [lexeme_named hname, hvalue.namedValue_eq]

/-- What is scanned from a character that is not blank has a form. -/
theorem lexeme_form {c : Char} (hc : Text.isBlank c = false) (cs : List Char) :
    LexemeForm (c :: cs) (lexeme c cs).1 (lexeme c cs).2 := by
  by_cases hmark : isQuoteMark c = true
  · have hform : LexemeForm (c :: cs) _ _ := LexemeForm.quoted hmark
    rwa [hform.lexeme_eq]
  · by_cases hreserved : isReserved c = true
    · have hform : LexemeForm (c :: cs) _ _ := LexemeForm.punct hreserved cs
      rwa [hform.lexeme_eq]
    · have hword : isWordChar c = true :=
        isWordChar_iff.mpr ⟨hc, by simpa using hmark, by simpa using hreserved⟩
      obtain ⟨word, rest, rfl, hall, hrest⟩ := exists_wordRun cs
      have hrun : IsWordRun (c :: word) := ⟨by simp, by simpa [hword] using hall⟩
      by_cases hname : rest.head? = some '='
      · obtain ⟨after, rfl⟩ := List.head?_eq_some_iff.mp hname
        have hform : LexemeForm (c :: word ++ '=' :: after) _ _ := LexemeForm.named hrun (namedValue_form after)
        rw [List.cons_append] at hform
        rwa [hform.lexeme_eq]
      · have hform : LexemeForm (c :: word ++ rest) _ _ := LexemeForm.word hrun hrest hname
        rw [List.cons_append] at hform
        rwa [hform.lexeme_eq]

/-- A token begins with a character that is not blank. -/
theorem LexemeForm.exists_cons {cs rest : List Char} {token : Token} (h : LexemeForm cs token rest) :
    ∃ c body, cs = c :: body ∧ Text.isBlank c = false := by
  cases h with
  | quoted hmark => exact ⟨_, _, rfl, isBlank_of_isQuoteMark hmark⟩
  | punct hmark => exact ⟨_, _, rfl, isBlank_of_isReserved hmark⟩
  | @word word rest hword =>
      obtain ⟨c, word, rfl⟩ := List.exists_cons_of_ne_nil hword.1
      exact ⟨c, word ++ rest, rfl, (isWordChar_excludes hword.head).1⟩
  | @named name after rest value hname =>
      obtain ⟨c, name, rfl⟩ := List.exists_cons_of_ne_nil hname.1
      exact ⟨c, name ++ '=' :: after, rfl, (isWordChar_excludes hname.head).1⟩

/-! ## Lines -/

theorem trimStart_blankRun {gap rest : List Char} (hgap : IsBlankRun gap) :
    Text.trimStart (gap ++ rest) = Text.trimStart rest :=
  List.dropWhile_append_of_pos hgap

theorem trimStart_of_not_blank {c : Char} (hc : Text.isBlank c = false) (cs : List Char) :
    Text.trimStart (c :: cs) = c :: cs := by
  simp [Text.trimStart, hc]

/-- **One token is scanned off the front of a line,** whatever blanks stand before it. -/
theorem scanFrom_form {gap cs rest : List Char} {token : Token} (hgap : IsBlankRun gap)
    (h : LexemeForm cs token rest) (start : Nat) :
    scanFrom start (gap ++ cs) =
      { token, start := start + Text.size gap, stop := start + Text.size gap + (Text.size cs - Text.size rest) } ::
        scanFrom (start + Text.size gap + (Text.size cs - Text.size rest)) rest := by
  obtain ⟨c, body, rfl, hc⟩ := h.exists_cons
  have htrim : Text.trimStart (gap ++ c :: body) = c :: body := by
    rw [trimStart_blankRun hgap, trimStart_of_not_blank hc]
  rw [scanFrom]
  split
  · next heq =>
      rw [htrim] at heq
      simp at heq
  · next d after heq =>
      rw [htrim] at heq
      obtain ⟨rfl, rfl⟩ := List.cons.inj heq
      simp only [h.lexeme_eq, Text.size_append, Nat.add_sub_cancel]

/-- Any characters are blanks, and perhaps a token with what it leaves. -/
theorem exists_form (cs : List Char) :
    IsBlankRun cs ∨ ∃ gap body token rest,
      cs = gap ++ body ∧ IsBlankRun gap ∧ LexemeForm body token rest ∧ rest.length < cs.length := by
  have hsplit : cs.takeWhile Text.isBlank ++ cs.dropWhile Text.isBlank = cs := List.takeWhile_append_dropWhile
  have hgap : IsBlankRun (cs.takeWhile Text.isBlank) := List.all_eq_true.mp List.all_takeWhile
  cases hbody : cs.dropWhile Text.isBlank with
  | nil =>
      left
      rw [hbody, List.append_nil] at hsplit
      rwa [hsplit] at hgap
  | cons c body =>
      right
      have hc : Text.isBlank c = false := by
        have hnot := List.head?_dropWhile_not Text.isBlank cs
        rw [hbody] at hnot
        simpa using hnot
      rw [hbody] at hsplit
      refine ⟨_, c :: body, _, _, hsplit.symm, hgap, lexeme_form hc body, ?_⟩
      have hle := lexeme_length_le c body
      have hlen := congrArg List.length hsplit
      simp only [List.length_append, List.length_cons] at hlen
      omega

/-- **Induction along a line.** What holds of blank lines, and of a line whenever it holds behind its first token, holds
of all lines. -/
@[elab_as_elim]
theorem scan_induction {motive : List Char → Prop} (blank : ∀ cs, IsBlankRun cs → motive cs)
    (token : ∀ gap body token rest, IsBlankRun gap → LexemeForm body token rest → motive rest → motive (gap ++ body))
    (cs : List Char) : motive cs := by
  induction hn : cs.length using Nat.strongRecOn generalizing cs with
  | _ n ih =>
      rcases exists_form cs with hblank | ⟨gap, body, tok, rest, rfl, hgap, hform, hlt⟩
      · exact blank cs hblank
      · exact token gap body tok rest hgap hform (ih rest.length (hn ▸ hlt) rest rfl)

/-- The tokens of some characters. -/
def tokensOf (cs : List Char) : List Token :=
  (scanFrom 0 cs).map (·.token)

theorem tokenize_eq (line : String) : tokenize line = tokensOf line.toList := rfl

/-- The same token further along a line. -/
def Spanned.shift (n : Nat) (s : Spanned) : Spanned :=
  { s with start := s.start + n, stop := s.stop + n }

/-- **A line that begins further along** has the same tokens further along. -/
theorem scanFrom_shift (start n : Nat) (cs : List Char) :
    scanFrom (start + n) cs = (scanFrom start cs).map (Spanned.shift n) := by
  induction cs using scan_induction generalizing start with
  | blank cs hblank => rw [scanFrom_blank hblank, scanFrom_blank hblank, List.map_nil]
  | token gap body tok rest hgap hform ih =>
      have hfirst : start + n + Text.size gap = start + Text.size gap + n := by omega
      have hlast : start + Text.size gap + n + (Text.size body - Text.size rest) =
          start + Text.size gap + (Text.size body - Text.size rest) + n := by omega
      rw [scanFrom_form hgap hform, scanFrom_form hgap hform, hfirst, hlast, ih]
      rfl

/-- Which tokens are scanned does not depend on where the line is taken to begin. -/
theorem map_token_scanFrom (start : Nat) (cs : List Char) : (scanFrom start cs).map (·.token) = tokensOf cs := by
  have hshift := scanFrom_shift 0 start cs
  rw [Nat.zero_add] at hshift
  rw [hshift, List.map_map]
  rfl

/-- Blanks in front of a line only move its tokens. -/
theorem scanFrom_gap {gap : List Char} (hgap : IsBlankRun gap) (start : Nat) (rest : List Char) :
    scanFrom start (gap ++ rest) = scanFrom (start + Text.size gap) rest := by
  rcases exists_form rest with hblank | ⟨more, body, token, behind, rfl, hmore, hform, -⟩
  · rw [scanFrom_blank hblank, scanFrom_blank (hgap.append hblank)]
  · have hsize : start + Text.size (gap ++ more) = start + Text.size gap + Text.size more := by
      rw [Text.size_append, Nat.add_assoc]
    rw [← List.append_assoc, scanFrom_form (hgap.append hmore) hform, scanFrom_form hmore hform, hsize]

theorem tokensOf_blank {cs : List Char} (hblank : IsBlankRun cs) : tokensOf cs = [] := by
  rw [tokensOf, scanFrom_blank hblank, List.map_nil]

/-- The tokens of a line are its first token and those behind it. -/
theorem tokensOf_form {gap cs rest : List Char} {token : Token} (hgap : IsBlankRun gap)
    (h : LexemeForm cs token rest) : tokensOf (gap ++ cs) = token :: tokensOf rest := by
  rw [tokensOf, scanFrom_form hgap h, List.map_cons, map_token_scanFrom]

theorem tokensOf_lexeme {cs rest : List Char} {token : Token} (h : LexemeForm cs token rest) :
    tokensOf cs = token :: tokensOf rest :=
  tokensOf_form IsBlankRun.nil h

/-- Blanks in front of a line are no token. -/
theorem tokensOf_gap {gap : List Char} (hgap : IsBlankRun gap) (rest : List Char) :
    tokensOf (gap ++ rest) = tokensOf rest := by
  rw [tokensOf, scanFrom_gap hgap, map_token_scanFrom]

theorem tokensOf_space (rest : List Char) : tokensOf (' ' :: rest) = tokensOf rest :=
  tokensOf_gap IsBlankRun.space rest

/-- Only a blank line has no tokens. -/
theorem tokensOf_eq_nil_iff {cs : List Char} : tokensOf cs = [] ↔ IsBlankRun cs := by
  constructor
  · intro hnil
    rcases exists_form cs with hblank | ⟨gap, body, token, rest, rfl, hgap, hform, -⟩
    · exact hblank
    · rw [tokensOf_form hgap hform] at hnil
      exact absurd hnil (by simp)
  · exact tokensOf_blank

end RemoteShell
