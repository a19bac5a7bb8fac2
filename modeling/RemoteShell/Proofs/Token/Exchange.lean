import RemoteShell.Proofs.Token.Form
import RemoteShell.Proofs.Token.Quoted

/-!
# Writing something else for the last token

The scanner reads a line from left to right, but a token ends where the next one begins, so what stands behind a token
has a say in it. This file says when characters behind a token can be exchanged for others, and that the last token of
a line can then be written anew without any token before it becoming another one.

Main statements:

* `LexemeForm.exchange`: one token with something else behind it.
* `exists_last_form`: the last token of a line, and another in its place.
-/

namespace RemoteShell

/-- Characters that can stand in for others behind a token: they begin alike and neither are mere blanks, or they begin
a word or a text in quotes where a word began. -/
inductive Exchangeable : List Char → List Char → Prop
  | alike {c : Char} {cs ds : List Char} (hcs : ¬ IsBlankRun (c :: cs)) (hds : ¬ IsBlankRun (c :: ds)) :
      Exchangeable (c :: cs) (c :: ds)
  | word {c d : Char} {cs ds : List Char} (hc : isWordChar c = true)
      (hd : isWordChar d = true ∨ isQuoteMark d = true) : Exchangeable (c :: cs) (d :: ds)

theorem not_isBlankRun_append (front : List Char) {cs : List Char} (h : ¬ IsBlankRun cs) : ¬ IsBlankRun (front ++ cs) := by
  intro hblank
  exact h fun c hc => hblank c (List.mem_append_right front hc)

theorem LexemeForm.not_isBlankRun {cs rest : List Char} {token : Token} (h : LexemeForm cs token rest) :
    ¬ IsBlankRun cs := by
  obtain ⟨c, body, rfl, hc⟩ := h.exists_cons
  intro hblank
  have hhead : Text.isBlank c = true := hblank c (by simp)
  rw [hc] at hhead
  exact absurd hhead (by decide)

/-- Where a token begins like another, or both are written where a word began, one can stand in for the other. Behind
the same characters it still can. -/
theorem Exchangeable.append_left {cs ds : List Char} (h : Exchangeable cs ds) (hcs : ¬ IsBlankRun cs)
    (hds : ¬ IsBlankRun ds) (front : List Char) : Exchangeable (front ++ cs) (front ++ ds) := by
  cases front with
  | nil => exact h
  | cons c front =>
      exact Exchangeable.alike (not_isBlankRun_append (c :: front) hcs)
        (not_isBlankRun_append (c :: front) hds)

namespace Exchangeable

variable {cs ds : List Char}

theorem endsWord (h : Exchangeable cs ds) (hcs : EndsWord cs) : EndsWord ds := by
  cases h with
  | alike => exact EndsWord.cons (hcs _ rfl) _
  | word hc =>
      rw [hcs _ rfl] at hc
      exact absurd hc (by decide)

theorem head?_ne_equals (h : Exchangeable cs ds) (hends : EndsWord cs) (hcs : cs.head? ≠ some '=') :
    ds.head? ≠ some '=' := by
  cases h with
  | alike => exact hcs
  | word hc =>
      rw [hends _ rfl] at hc
      exact absurd hc (by decide)

/-- A text in quotes that ended before the one ends before the other. -/
theorem readQuoted_ended {mark : Char} (h : Exchangeable (readQuoted mark cs).rest ds) :
    (readQuoted mark cs).closed = true ∨ EndsLine ds := by
  have hends := readQuoted_ends mark cs
  generalize (readQuoted mark cs).rest = rest at h hends
  refine hends.imp_right ?_
  intro hbreak
  cases h with
  | alike => exact hbreak
  | @word c d more others hc =>
      have hline : isLineBreak c = true := hbreak c rfl
      have hblank : Text.isBlank c = true := by
        simp only [isLineBreak, Bool.or_eq_true, beq_iff_eq] at hline
        rcases hline with rfl | rfl <;> decide
      rw [isWordChar_of_isBlank hblank] at hc
      exact absurd hc (by decide)

/-- Where no value could be read, none can be read from the other. -/
theorem missing {c : Char} (h : Exchangeable (c :: cs) ds) (hmark : isQuoteMark c = false) (hne : c ≠ '[')
    (hword : isWordChar c = false) : ValueForm ds Token.placeholder ds := by
  cases h with
  | alike hcs hds => exact ValueForm.missing hmark hne hword hds
  | word hc =>
      rw [hword] at hc
      exact absurd hc (by decide)

theorem not_isBlankRun (h : Exchangeable cs ds) : ¬ IsBlankRun cs := by
  cases h with
  | alike hcs => exact hcs
  | word hc =>
      intro hblank
      rw [isWordChar_of_isBlank (hblank _ (List.mem_cons_self ..))] at hc
      exact absurd hc (by decide)

end Exchangeable

/-! ## One token -/

/-- One value with something else behind it. -/
theorem ValueForm.exchange {cs rest : List Char} {value : Token} (h : ValueForm cs value rest) :
    ∃ front, cs = front ++ rest ∧ ∀ other, Exchangeable rest other → ValueForm (front ++ other) value other := by
  cases h with
  | @quoted mark cs hmark =>
      obtain ⟨front, hfront, hread⟩ := readQuoted_exchange mark cs
      refine ⟨mark :: front, congrArg (mark :: ·) hfront, ?_⟩
      intro other hother
      have hform := @ValueForm.quoted mark (front ++ other) hmark
      rwa [hread other hother.readQuoted_ended] at hform
  | bracket rest => exact ⟨['['], rfl, fun other _ => ValueForm.bracket other⟩
  | @word word rest hword hrest =>
      exact ⟨word, rfl, fun other hother => ValueForm.word hword (hother.endsWord hrest)⟩
  | remainder hblank => exact ⟨[], rfl, fun other hother => absurd hblank hother.not_isBlankRun⟩
  | missing hmark hne hword => exact ⟨[], rfl, fun other hother => hother.missing hmark hne hword⟩

/-- **One token with something else behind it.** -/
theorem LexemeForm.exchange {cs rest : List Char} {token : Token} (h : LexemeForm cs token rest) :
    ∃ front, cs = front ++ rest ∧ ∀ other, Exchangeable rest other → LexemeForm (front ++ other) token other := by
  cases h with
  | @quoted mark cs hmark =>
      obtain ⟨front, hfront, hread⟩ := readQuoted_exchange mark cs
      refine ⟨mark :: front, congrArg (mark :: ·) hfront, ?_⟩
      intro other hother
      have hform := @LexemeForm.quoted mark (front ++ other) hmark
      rwa [hread other hother.readQuoted_ended] at hform
  | @punct mark hmark rest => exact ⟨[mark], rfl, fun other _ => LexemeForm.punct hmark other⟩
  | @word word rest hword hrest hname =>
      refine ⟨word, rfl, ?_⟩
      intro other hother
      exact LexemeForm.word hword (hother.endsWord hrest) (hother.head?_ne_equals hrest hname)
  | @named name after rest value hname hvalue =>
      obtain ⟨front, rfl, hform⟩ := hvalue.exchange
      refine ⟨name ++ '=' :: front, by simp, ?_⟩
      intro other hother
      rw [List.append_assoc, List.cons_append]
      exact LexemeForm.named hname (hform other hother)

/-- A token leaves an ending of the characters it was scanned from. -/
theorem LexemeForm.suffix {cs rest : List Char} {token : Token} (h : LexemeForm cs token rest) : rest <:+ cs := by
  obtain ⟨front, hfront, -⟩ := h.exchange
  exact ⟨front, hfront.symm⟩

/-! ## The whole line -/

/-- **The last token of a line, and another in its place.** The last token was scanned from characters behind which
only blanks stand. Where others stand in for these and make one token, too, the line has that for its last token and
the same tokens before it. -/
theorem exists_last_form {start : Nat} {cs : List Char} {last : Spanned}
    (h : (scanFrom start cs).getLast? = some last) :
    ∃ before body rest, cs = before ++ body ∧ LexemeForm body last.token rest ∧ IsBlankRun rest ∧
      last.start = start + Text.size before ∧ last.stop = last.start + (Text.size body - Text.size rest) ∧
      ∀ other token, Exchangeable body other → LexemeForm other token [] →
        scanFrom start (before ++ other) = (scanFrom start cs).dropLast ++
          [{ token, start := last.start, stop := last.start + Text.size other }] := by
  induction cs using scan_induction generalizing start with
  | blank cs hblank =>
      rw [scanFrom_blank hblank] at h
      simp at h
  | token gap body token rest hgap hform ih =>
      rw [scanFrom_form hgap hform] at h ⊢
      rw [List.getLast?_cons] at h
      cases hlast : (scanFrom (start + Text.size gap + (Text.size body - Text.size rest)) rest).getLast? with
      | none =>
          rw [hlast, Option.getD_none] at h
          obtain rfl := Option.some.inj h
          have hnil := List.getLast?_eq_none_iff.mp hlast
          have hblank : IsBlankRun rest := by
            rw [← tokensOf_eq_nil_iff, ← map_token_scanFrom, hnil]
            rfl
          refine ⟨gap, body, rest, rfl, hform, hblank, rfl, rfl, ?_⟩
          intro other written _ hother
          rw [scanFrom_form hgap hother, scanFrom_blank IsBlankRun.nil, hnil]
          rfl
      | some found =>
          rw [hlast, Option.getD_some] at h
          obtain rfl := Option.some.inj h
          have hne : scanFrom (start + Text.size gap + (Text.size body - Text.size rest)) rest ≠ [] := by
            intro hnil
            rw [hnil] at hlast
            simp at hlast
          obtain ⟨before, more, behind, rfl, hmore, hblank, hstart, hstop, hscan⟩ := ih hlast
          obtain ⟨front, rfl, hfirst⟩ := hform.exchange
          refine ⟨gap ++ front ++ before, more, behind, by simp, hmore, hblank, ?_, hstop, ?_⟩
          · simp only [Text.size_append] at hstart ⊢
            omega
          · intro other written hexchange hother
            have hbehind := hexchange.append_left hmore.not_isBlankRun hother.not_isBlankRun before
            -- The token before ends where it ended.
            have hsize : Text.size (front ++ (before ++ other)) - Text.size (before ++ other) =
                Text.size (front ++ (before ++ more)) - Text.size (before ++ more) := by
              rw [Text.size_append, Nat.add_sub_cancel, Text.size_append, Nat.add_sub_cancel]
            rw [List.append_assoc, List.append_assoc, scanFrom_form hgap (hfirst _ hbehind), hsize,
              hscan other written hexchange hother, List.dropLast_cons_of_ne_nil hne, List.cons_append]

end RemoteShell
