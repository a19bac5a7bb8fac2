import Mathlib.Algebra.GroupWithZero.Nat
import Mathlib.Order.Bounds.Basic
import RemoteShell.Layout.Style

/-!
# Widths

Escape sequences take no room on the screen, and a sequence may begin in one text and end in the text behind it. The
width of two texts put together is therefore not the sum of their widths: a sequence that is still open swallows what
follows, up to the first letter. It is never more than the sum, because what is open at the end of a text is one stretch
behind an escape character, and a stretch shows at most as much more as is added to it.

A column is as wide as the widest of its cells.

Main statements:

* `stripEscapes_append_open`: only the last stretch of a text changes when visible text is put behind it.
* `displayWidth_append_le`: texts put together are at most as wide as both of them.
* `displayWidth_trimEnd_le`: a text without the blanks at its end is no wider.
* `stripEscapes_paint`: colour is not visible.
* `isGreatest_foldl_max`: the widest of several widths.
* `drop_intercalate`: where a text starts among joined texts.
-/

namespace RemoteShell

/-! ## The last stretch -/

/-- Of a text in two parts, the part behind an escape character is stretches only. -/
theorem stripEscapes_append_escape (before after : List Char) :
    stripEscapes (before ++ '\x1b' :: after) =
      stripEscapes before ++ (Text.fields '\x1b' after).flatMap stripStretch := by
  obtain ⟨head, more, hbefore⟩ := List.exists_cons_of_ne_nil (Text.fields_ne_nil '\x1b' before)
  simp only [stripEscapes, Text.fields_append, hbefore, List.cons_append, List.flatMap_append, List.append_assoc]

/-- A text with an escape character has a last one. -/
theorem exists_last_escape {cs : List Char} (h : '\x1b' ∈ cs) :
    ∃ before stretch, '\x1b' ∉ stretch ∧ cs = before ++ '\x1b' :: stretch := by
  obtain ⟨after, before, heq, hfresh⟩ := List.eq_append_cons_of_mem (List.mem_reverse.mpr h)
  refine ⟨before.reverse, after.reverse, by simpa using hfresh, ?_⟩
  rw [← List.reverse_reverse cs, heq]
  simp

/-- **Only the last stretch of a text changes** when text without an escape character is put behind it. -/
theorem stripEscapes_append_open (cs : List Char) {more : List Char} (h : '\x1b' ∉ more) :
    (stripEscapes (cs ++ more) = stripEscapes cs ++ more) ∨
      ∃ before stretch, stripEscapes cs = before ++ stripStretch stretch ∧
        stripEscapes (cs ++ more) = before ++ stripStretch (stretch ++ more) := by
  by_cases hmem : '\x1b' ∈ cs
  · obtain ⟨before, stretch, hstretch, rfl⟩ := exists_last_escape hmem
    have hboth : '\x1b' ∉ stretch ++ more := by simp [hstretch, h]
    refine Or.inr ⟨stripEscapes before, stretch, ?_, ?_⟩
    · simp [stripEscapes_append_escape, Text.fields_of_not_mem hstretch]
    · simp [stripEscapes_append_escape, Text.fields_of_not_mem hboth]
  · have hboth : '\x1b' ∉ cs ++ more := by simp [hmem, h]
    exact Or.inl (by rw [stripEscapes_of_not_mem hboth, stripEscapes_of_not_mem hmem])

/-- Without a bracket all of a stretch is visible, and so is the escape character before it. -/
theorem stripStretch_of_ne {c : Char} (h : c ≠ '[') (rest : List Char) :
    stripStretch (c :: rest) = '\x1b' :: c :: rest := by
  simp [stripStretch, h]

/-- A stretch shows at most as much more as is added to it. -/
theorem length_stripStretch_append_le (stretch more : List Char) :
    (stripStretch (stretch ++ more)).length ≤ (stripStretch stretch).length + more.length := by
  cases stretch with
  | nil =>
      cases more with
      | nil => simp [stripStretch]
      | cons c rest =>
          by_cases hc : c = '['
          · subst hc
            have hdrop := (List.dropWhile_sublist (!isAsciiLetter ·) (l := rest)).length_le
            simp only [List.nil_append, stripStretch, List.length_drop, List.length_cons]
            omega
          · rw [List.nil_append, stripStretch_of_ne hc]
            simp only [stripStretch, List.length_cons, List.length_nil]
            omega
  | cons c rest =>
      by_cases hc : c = '['
      · subst hc
        simp only [List.cons_append, stripStretch, List.dropWhile_append]
        split
        · next hall =>
            -- The sequence is still open, and goes on in what is added.
            have hdrop := (List.dropWhile_sublist (!isAsciiLetter ·) (l := more)).length_le
            simp only [List.length_drop]
            omega
        · simp only [List.length_drop, List.length_append]
          omega
      · rw [List.cons_append, stripStretch_of_ne hc, stripStretch_of_ne hc]
        simp only [List.length_cons, List.length_append]
        omega

/-- A stretch shows no less when something is added that does not make it a sequence. -/
theorem length_stripStretch_le_append (stretch : List Char) {more : List Char} (h : more.head? ≠ some '[') :
    (stripStretch stretch).length ≤ (stripStretch (stretch ++ more)).length := by
  cases stretch with
  | nil =>
      cases more with
      | nil => simp
      | cons c rest =>
          have hc : c ≠ '[' := by simpa using h
          rw [List.nil_append, stripStretch_of_ne hc]
          simp [stripStretch]
  | cons c rest =>
      by_cases hc : c = '['
      · subst hc
        simp only [List.cons_append, stripStretch, List.dropWhile_append]
        split
        · next hall => simp [List.isEmpty_iff.mp hall]
        · simp only [List.length_drop, List.length_append]
          omega
      · rw [List.cons_append, stripStretch_of_ne hc, stripStretch_of_ne hc]
        simp only [List.length_cons, List.length_append]
        omega

/-! ## Widths -/

/-- What is visible of two texts put together is at most what is visible of both. -/
theorem length_stripEscapes_append_le (xs ys : List Char) :
    (stripEscapes (xs ++ ys)).length ≤ (stripEscapes xs).length + (stripEscapes ys).length := by
  have hplain : ∀ more : List Char, '\x1b' ∉ more →
      (stripEscapes (xs ++ more)).length ≤ (stripEscapes xs).length + more.length := by
    intro more hmore
    rcases stripEscapes_append_open xs hmore with heq | ⟨before, stretch, hxs, hboth⟩
    · simp [heq]
    · have hstretch := length_stripStretch_append_le stretch more
      simp only [hxs, hboth, List.length_append]
      omega
  by_cases hmem : '\x1b' ∈ ys
  · -- Behind the first escape character of the second text nothing depends on the first text.
    obtain ⟨front, after, rfl, hfront⟩ := List.eq_append_cons_of_mem hmem
    have hfirst := hplain front hfront
    rw [← List.append_assoc, stripEscapes_append_escape, stripEscapes_append_escape, stripEscapes_of_not_mem hfront]
    simp only [List.length_append] at hfirst ⊢
    omega
  · rw [stripEscapes_of_not_mem hmem]
    exact hplain ys hmem

/-- What is visible of a text is no less when visible text is put behind it, unless that makes a sequence of it. -/
theorem length_stripEscapes_le_append (cs : List Char) {more : List Char} (hescape : '\x1b' ∉ more)
    (hbracket : more.head? ≠ some '[') : (stripEscapes cs).length ≤ (stripEscapes (cs ++ more)).length := by
  rcases stripEscapes_append_open cs hescape with heq | ⟨before, stretch, hcs, hboth⟩
  · simp [heq]
  · have hstretch := length_stripStretch_le_append stretch hbracket
    simp only [hcs, hboth, List.length_append]
    omega

/-- No more is visible of a text than there is. -/
theorem length_stripEscapes_le (cs : List Char) : (stripEscapes cs).length ≤ cs.length := by
  induction cs with
  | nil => simp [stripEscapes, Text.fields]
  | cons c rest ih =>
      have hsum := length_stripEscapes_append_le [c] rest
      have hone : (stripEscapes [c]).length ≤ 1 := by
        by_cases hc : c = '\x1b'
        · subst hc
          decide
        · rw [stripEscapes_of_not_mem (by simpa using Ne.symm hc)]
          simp
      simp only [List.singleton_append, List.length_cons] at hsum ⊢
      omega

/-- **Texts put together are at most as wide as both of them.** -/
theorem displayWidth_append_le (s t : String) : displayWidth (s ++ t) ≤ displayWidth s + displayWidth t := by
  simpa [displayWidth] using length_stripEscapes_append_le s.toList t.toList

/-- No text is wider than it is long. -/
theorem displayWidth_le_length (s : String) : displayWidth s ≤ s.toList.length :=
  length_stripEscapes_le s.toList

/-- A text without the escape character is as wide as it is long. -/
theorem displayWidth_of_not_mem {s : String} (h : '\x1b' ∉ s.toList) : displayWidth s = s.toList.length := by
  rw [displayWidth, stripEscapes_of_not_mem h]

/-- Blanks are as wide as they are many. -/
theorem displayWidth_spaces (n : Nat) : displayWidth (String.ofList (List.replicate n ' ')) = n := by
  rw [displayWidth_of_not_mem (by simp [List.mem_replicate])]
  simp

/-- **A text without the blanks at its end is no wider.** -/
theorem displayWidth_trimEnd_le (s : String) : displayWidth (String.ofList (Text.trimEnd s.toList)) ≤ displayWidth s := by
  obtain ⟨blanks, hblanks, hs⟩ := Text.exists_trimEnd_append s.toList
  have hescape : '\x1b' ∉ blanks := fun hmem => absurd (hblanks _ hmem) (by decide)
  have hbracket : blanks.head? ≠ some '[' := by
    intro hhead
    exact absurd (hblanks _ (List.mem_of_mem_head? hhead)) (by decide)
  have hle := length_stripEscapes_le_append (Text.trimEnd s.toList) hescape hbracket
  rw [hs] at hle
  simpa [displayWidth] using hle

/-! ## Colour -/

/-- A sequence in front of a text is not visible. It ends at its first letter. -/
theorem stripEscapes_sequence {code : List Char} (hcode : ∀ c ∈ code, isAsciiLetter c = false) (hescape : '\x1b' ∉ code)
    {letter : Char} (hletter : isAsciiLetter letter = true) (hne : letter ≠ '\x1b') (cs : List Char) :
    stripEscapes ('\x1b' :: '[' :: code ++ letter :: cs) = stripEscapes cs := by
  obtain ⟨head, more, hcs⟩ := List.exists_cons_of_ne_nil (Text.fields_ne_nil '\x1b' cs)
  have hcut : Text.fields '\x1b' ('[' :: code ++ letter :: cs) = ('[' :: code ++ letter :: head) :: more := by
    have hseq : '\x1b' ∉ '[' :: code ++ [letter] := by simp [hescape, hne.symm]
    simpa using Text.fields_append_of_not_mem hseq hcs
  have hstretch : stripStretch ('[' :: (code ++ letter :: head)) = head := by
    rw [stripStretch, List.dropWhile_append_of_pos (by simpa using hcode)]
    simp [hletter]
  have hwhole := stripEscapes_append_escape [] ('[' :: code ++ letter :: cs)
  rw [hcut] at hwhole
  simpa [stripEscapes, Text.fields, hcs, hstretch] using hwhole

/-- The end of a colour is not visible behind a text. -/
theorem stripEscapes_append_reset (cs : List Char) : stripEscapes (cs ++ '\x1b' :: ['[', '0', 'm']) = stripEscapes cs := by
  have hreset : (Text.fields '\x1b' ['[', '0', 'm']).flatMap stripStretch = [] := by decide
  rw [stripEscapes_append_escape, hreset, List.append_nil]

/-- **Colour is not visible.** -/
theorem stripEscapes_paint (role : Role) (text : String) (style : Style) :
    stripEscapes (paint role text style).toList = stripEscapes text.toList := by
  have hcode : ∀ c ∈ role.attribute.toList, isAsciiLetter c = false := by cases role <;> simp [Role.attribute, isAsciiLetter]
  have hescape : '\x1b' ∉ role.attribute.toList := by cases role <;> decide
  unfold paint
  split
  · have hpainted : ("\x1b[" ++ role.attribute ++ "m" ++ text ++ "\x1b[0m").toList =
        ('\x1b' :: '[' :: role.attribute.toList ++ 'm' :: text.toList) ++ '\x1b' :: ['[', '0', 'm'] := by
      simp only [String.toList_append, List.append_assoc]
      rfl
    rw [hpainted, stripEscapes_append_reset]
    exact stripEscapes_sequence hcode hescape (by decide) (by decide) text.toList
  · rfl

theorem displayWidth_paint (role : Role) (text : String) (style : Style) :
    displayWidth (paint role text style) = displayWidth text := by
  rw [displayWidth, stripEscapes_paint, displayWidth]

/-! ## The widest -/

/-- **The widest of several widths** and of one that is there to begin with. -/
theorem isGreatest_foldl_max (widths : List Nat) (least : Nat) :
    IsGreatest (insert least {w | w ∈ widths}) (widths.foldl max least) := by
  induction widths generalizing least with
  | nil => simp
  | cons w rest ih =>
      obtain ⟨hmem, hupper⟩ := ih (max least w)
      rw [List.foldl_cons]
      constructor
      · rcases hmem with heq | hmem
        · rcases Nat.le_total least w with hle | hle
          · exact Or.inr (List.mem_cons.mpr (Or.inl (heq.trans (Nat.max_eq_right hle))))
          · exact Or.inl (heq.trans (Nat.max_eq_left hle))
        · exact Or.inr (List.mem_cons_of_mem w hmem)
      · have hmax : max least w ≤ rest.foldl max (max least w) := hupper (Or.inl rfl)
        rintro v (rfl | hv)
        · exact (le_max_left v w).trans hmax
        · rcases List.mem_cons.mp hv with rfl | hv
          · exact (le_max_right least v).trans hmax
          · exact hupper (Or.inr hv)

/-! ## Joined texts -/

/-- **Behind so many texts with a separator each,** joined texts go on with the other ones. -/
theorem drop_intercalate (sep : List Char) {texts : List (List Char)} {j : Nat} (hj : j < texts.length) :
    (sep.intercalate texts).drop ((texts.take j).map (·.length + sep.length)).sum = sep.intercalate (texts.drop j) := by
  induction texts generalizing j with
  | nil => simp at hj
  | cons text rest ih =>
      cases j with
      | zero => simp
      | succ j =>
          cases rest with
          | nil => simp at hj
          | cons next rest =>
              have hsum : (((text :: next :: rest).take (j + 1)).map (·.length + sep.length)).sum =
                  (text ++ sep).length + (((next :: rest).take j).map (·.length + sep.length)).sum := by
                simp
              rw [List.intercalate_cons_cons, hsum, ← List.drop_drop, List.drop_left, ih (by simpa using hj),
                List.drop_succ_cons]

end RemoteShell
