import RemoteShell.Text.Bytes
import RemoteShell.Token.Quoting

/-!
# Scanning a line

A line is cut into tokens from left to right; blanks between tokens are skipped, and nothing can fail: a quoted text
without its closing mark is a token that says so. A word directly before `=` is the name of a value. What follows the
`=` is that value if it is a quoted text, a word or an opening bracket. If only blanks follow, they are the value as
they stand, which is what a half-typed `name=` looks like; before any other mark the value is the empty placeholder.

Every token comes with the byte offsets it was scanned from. Blanks that became a value lie outside the span of
their token.

Main statements:

* `lexeme_length_le`: a token is cut off the front of the line.
* `scanFrom_blank`: a blank line has no tokens.
-/

namespace RemoteShell

/-- A token and where in the line it stands, from the byte offset `start` up to `stop`. -/
structure Spanned where
  token : Token
  start : Nat
  stop : Nat
deriving DecidableEq, Repr

/-- The value behind `name=` and the characters behind it. -/
def namedValue (cs : List Char) : Token × List Char :=
  match cs with
  | [] => (Token.closedQuote "" '"', [])
  | c :: rest =>
    if isQuoteMark c then
      let run := readQuoted c rest
      (run.token c, run.rest)
    else if c = '[' then (.punct '[', rest)
    else if isWordChar c then (.word (String.ofList (cs.takeWhile isWordChar)), cs.dropWhile isWordChar)
    else if cs.all Text.isBlank then (Token.closedQuote (String.ofList cs) '"', cs)
    else (Token.placeholder, cs)

/-- The token that starts with the character `c`, and the characters behind it. -/
def lexeme (c : Char) (rest : List Char) : Token × List Char :=
  if isQuoteMark c then
    let run := readQuoted c rest
    (run.token c, run.rest)
  else if isReserved c then (.punct c, rest)
  else
    let word := String.ofList (c :: rest.takeWhile isWordChar)
    match rest.dropWhile isWordChar with
    | '=' :: after =>
      let (value, behind) := namedValue after
      (.named word value, behind)
    | behind => (.word word, behind)

theorem namedValue_length_le (cs : List Char) : (namedValue cs).2.length ≤ cs.length := by
  unfold namedValue
  split
  · simp
  · next c rest =>
    split
    · have := readQuoted_length_le c rest
      simp only [List.length_cons]
      omega
    · split
      · simp
      · split
        · exact (List.dropWhile_sublist _).length_le
        · split <;> simp

/-- A token is cut off the front of the line. -/
theorem lexeme_length_le (c : Char) (rest : List Char) : (lexeme c rest).2.length ≤ rest.length := by
  have hdrop : (rest.dropWhile isWordChar).length ≤ rest.length := (List.dropWhile_sublist _).length_le
  unfold lexeme
  split
  · exact readQuoted_length_le c rest
  · split
    · simp
    · dsimp only
      split
      · next after heq =>
        have := namedValue_length_le after
        simp only [heq, List.length_cons] at hdrop
        dsimp only
        omega
      · exact hdrop

/-- The tokens of a text that begins at the byte offset `start`. -/
def scanFrom (start : Nat) (cs : List Char) : List Spanned :=
  match _h : Text.trimStart cs with
  | [] => []
  | c :: rest =>
    let behind := (lexeme c rest).2
    let first := start + (Text.size cs - Text.size (c :: rest))
    let last := first + (Text.size (c :: rest) - Text.size behind)
    { token := (lexeme c rest).1, start := first, stop := last } :: scanFrom last behind
termination_by cs.length
decreasing_by
  have hle := lexeme_length_le c rest
  have htrim := Text.trimStart_length_le cs
  simp only [_h, List.length_cons] at htrim
  omega

/-- The tokens of a line and where they stand. -/
def scan (line : String) : List Spanned :=
  scanFrom 0 line.toList

/-- The tokens of a line. -/
def tokenize (line : String) : List Token :=
  (scan line).map (·.token)

/-- A blank line has no tokens. -/
theorem scanFrom_blank {start : Nat} {cs : List Char} (h : ∀ c ∈ cs, Text.isBlank c = true) :
    scanFrom start cs = [] := by
  rw [scanFrom]
  split
  · rfl
  · next heq =>
    rw [Text.trimStart_eq_nil_iff.mpr h] at heq
    simp at heq

end RemoteShell
