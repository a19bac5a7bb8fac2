/-!
# Blank characters

The characters that separate words on a line are exactly those with the Unicode property White_Space, which is a
different set from the ASCII blanks: a no-break space and an ideographic space separate words, a zero-width space
does not.

Main statements:

* `isBlank_of_isWhitespace`: every ASCII blank is a blank.
* `trimStart_length_le`: trimming never lengthens a text.
* `trimStart_eq_nil_iff`: nothing is left of a text exactly when all of it is blank.
* `trim_trim`: a trimmed text has nothing left to trim.
-/

namespace RemoteShell.Text

/-- The twenty-five characters with the property White_Space. -/
def isBlank (c : Char) : Bool :=
  let n := c.toNat
  (9 ≤ n && n ≤ 13) || n == 0x20 || n == 0x85 || n == 0xA0 || n == 0x1680 || (0x2000 ≤ n && n ≤ 0x200A) ||
    n == 0x2028 || n == 0x2029 || n == 0x202F || n == 0x205F || n == 0x3000

/-- A text without its leading blanks. -/
def trimStart (cs : List Char) : List Char :=
  cs.dropWhile isBlank

/-- A text without its trailing blanks. -/
def trimEnd (cs : List Char) : List Char :=
  (cs.reverse.dropWhile isBlank).reverse

/-- A text without its leading and trailing blanks. -/
def trim (cs : List Char) : List Char :=
  trimEnd (trimStart cs)

/-- A string without its leading and trailing blanks. -/
def trimmed (s : String) : String :=
  String.ofList (trim s.toList)

/-- Whether a string holds nothing but blanks. -/
def isAllBlank (s : String) : Bool :=
  s.toList.all isBlank

/-- **The ASCII blanks are blanks.** -/
theorem isBlank_of_isWhitespace {c : Char} (h : c.isWhitespace = true) : isBlank c = true := by
  simp only [Char.isWhitespace, Bool.or_eq_true, decide_eq_true_eq] at h
  rcases h with ((rfl | rfl) | rfl) | rfl <;> decide

/-- Trimming the front never lengthens a text. -/
theorem trimStart_length_le (cs : List Char) : (trimStart cs).length ≤ cs.length :=
  (List.dropWhile_sublist isBlank).length_le

/-- Nothing is left of a text exactly when all of it is blank. -/
theorem trimStart_eq_nil_iff {cs : List Char} : trimStart cs = [] ↔ ∀ c ∈ cs, isBlank c = true := by
  induction cs with
  | nil => simp [trimStart]
  | cons c rest ih =>
    by_cases h : isBlank c = true
    · simp only [trimStart, List.dropWhile_cons, h, if_true, List.mem_cons, forall_eq_or_imp, true_and]
      exact ih
    · simp [trimStart, h]

/-- A text that does not begin with a blank has nothing to trim in front. -/
theorem trimStart_eq_self {cs : List Char} (h : ∀ c ∈ cs.head?, isBlank c = false) : trimStart cs = cs := by
  cases cs with
  | nil => rfl
  | cons c rest =>
    have hc : isBlank c = false := h c (by simp)
    simp [trimStart, hc]

/-- What is left behind the leading blanks does not begin with one. -/
theorem isBlank_head_trimStart {cs : List Char} : ∀ c ∈ (trimStart cs).head?, isBlank c = false := by
  intro c hc
  have hnot := List.head?_dropWhile_not isBlank cs
  rw [← trimStart, Option.mem_def.mp hc] at hnot
  simpa using hnot

/-- Trimming the end leaves a beginning of the text. -/
theorem trimEnd_isPrefix (cs : List Char) : trimEnd cs <+: cs := by
  have hsuffix : cs.reverse.dropWhile isBlank <:+ cs.reverse := List.dropWhile_suffix isBlank
  have hprefix := List.reverse_prefix.mpr hsuffix
  rwa [List.reverse_reverse] at hprefix

/-- Only blanks are trimmed from the end. -/
theorem exists_trimEnd_append (cs : List Char) :
    ∃ blanks, (∀ c ∈ blanks, isBlank c = true) ∧ trimEnd cs ++ blanks = cs := by
  refine ⟨(cs.reverse.takeWhile isBlank).reverse, ?_, ?_⟩
  · intro c hc
    exact List.all_eq_true.mp List.all_takeWhile c (List.mem_reverse.mp hc)
  · rw [trimEnd, ← List.reverse_append, List.takeWhile_append_dropWhile, List.reverse_reverse]

/-- Trimming the end again changes nothing. -/
theorem trimEnd_trimEnd (cs : List Char) : trimEnd (trimEnd cs) = trimEnd cs := by
  have hstart : trimStart (trimStart cs.reverse) = trimStart cs.reverse := trimStart_eq_self isBlank_head_trimStart
  simp only [trimStart] at hstart
  simp only [trimEnd, List.reverse_reverse, hstart]

/-- **A trimmed text has nothing left to trim.** -/
theorem trim_trim (cs : List Char) : trim (trim cs) = trim cs := by
  have hhead : ∀ c ∈ (trim cs).head?, isBlank c = false := by
    intro c hc
    obtain ⟨rest, hrest⟩ := List.head?_eq_some_iff.mp hc
    obtain ⟨more, hmore⟩ := trimEnd_isPrefix (trimStart cs)
    rw [← trim, hrest] at hmore
    exact isBlank_head_trimStart c (by rw [← hmore]; rfl)
  have hstart : trimStart (trim cs) = trim cs := trimStart_eq_self hhead
  rw [trim, hstart]
  exact trimEnd_trimEnd (trimStart cs)

/-- Trimming brings in no new character. -/
theorem mem_of_mem_trim {c : Char} {cs : List Char} (h : c ∈ trim cs) : c ∈ cs := by
  have hstart : c ∈ trimStart cs := (trimEnd_isPrefix _).subset h
  exact (List.dropWhile_sublist isBlank).subset hstart

end RemoteShell.Text
