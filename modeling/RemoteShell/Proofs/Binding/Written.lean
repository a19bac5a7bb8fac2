import RemoteShell.Proofs.Binding.Position

/-!
# Groups as they are written

A group is written with the name it stands behind, and a list between its brackets. Written one behind the other, the
groups of a line are the line again: no name, no mark and no value is lost when tokens are grouped. Only the bracket that
closes a list can be missing at the end of the line.

The other way round, a line that is made up of groups is grouped into these, if each of them is a word, a quoted text or
a list that holds no closing bracket.

Main statements:

* `Group.makeUp_ofTokens`: the groups of a line make it up.
* `Group.ofTokens_eq_iff`: and no other written groups do.
-/

namespace RemoteShell

/-- A word or a quoted text that stands for itself. -/
def Token.isGiven : Token → Bool
  | .word text => !(Token.word text).isPlaceholder
  | .quoted _ => true
  | .named _ _ => false
  | .punct _ => false

/-- A token behind a name, or alone. -/
def Token.under (token : Token) : Option String → Token
  | some name => .named name token
  | none => token

namespace Token

variable {token : Token}

theorem isPlaceholder_of_isGiven (h : token.isGiven = true) : token.isPlaceholder = false := by
  cases token with
  | word text => simpa [isGiven] using h
  | quoted q => rfl
  | named name value => rfl
  | punct mark => rfl

/-- A placeholder is a word. -/
theorem eq_word_of_isPlaceholder (h : token.isPlaceholder = true) : token = .word token.text := by
  cases token with
  | word text => rfl
  | quoted q => simp [isPlaceholder] at h
  | named name value => simp [isPlaceholder] at h
  | punct mark => simp [isPlaceholder] at h

/-- Words and quoted texts, placeholders among them, have no name and are no marks. -/
theorem ofHead_of_isPlaceholder_or_isGiven (h : token.isPlaceholder = true ∨ token.isGiven = true) :
    Group.ofHead token = (none, token) ∧ ∀ mark, token.isPunct mark = false := by
  cases token with
  | word text => exact ⟨rfl, fun _ => rfl⟩
  | quoted q => exact ⟨rfl, fun _ => rfl⟩
  | named name value => simp [isPlaceholder, isGiven] at h
  | punct mark => simp [isPlaceholder, isGiven] at h

end Token

namespace Group

/-- What stands behind a name is found there again. -/
theorem ofHead_under {token : Token} (h : ofHead token = (none, token)) (name? : Option String) :
    ofHead (token.under name?) = (name?, token) := by
  cases name? with
  | none => exact h
  | some name => rfl

/-- A token is what it carries, behind the name that it gives. -/
theorem under_ofHead (token : Token) : (ofHead token).2.under (ofHead token).1 = token := by
  cases token <;> rfl

/-- The tokens of a group, a list with both of its brackets. -/
def tokens (group : Group) : List Token :=
  match group.value with
  | .single token => [token.under group.name]
  | .list items => (Token.punct '[').under group.name :: (items ++ [.punct ']'])

/-- Groups make up a line: one behind the other they are the line, or the line and the bracket that closes the list
which is open at its end. -/
def MakeUp (groups : List Group) (line : List Token) : Prop :=
  groups.flatMap tokens = line ∨ groups.flatMap tokens = line ++ [.punct ']']

/-- **The groups of a line make it up.** -/
theorem makeUp_ofTokens (line : List Token) : MakeUp (ofTokens line) line := by
  fun_induction ofTokens line with
  | case1 => exact Or.inl rfl
  | case2 token rest hbracket ih =>
      have htoken : (Token.punct '[').under (ofHead token).1 = token := by
        rw [← Token.eq_of_isPunct hbracket, under_ofHead]
      rcases exists_closing_or_none rest with ⟨items, behind, hitems, rfl⟩ | hopen
      · rw [splitList_append hitems] at ih ⊢
        refine ih.imp ?_ ?_ <;> intro hbehind <;> simp [tokens, htoken, hbehind]
      · have hsplit : splitList rest = (rest, []) := by
          have hall : ∀ item ∈ rest, (!item.isPunct ']') = true := by simpa using hopen
          rw [splitList, List.takeWhile_eq_self_iff.mpr hall, List.dropWhile_eq_nil_iff.mpr hall, List.tail_nil]
        rw [hsplit]
        exact Or.inr (by simp [tokens, htoken, ofTokens])
  | case3 token rest hbracket ih =>
      refine ih.imp ?_ ?_ <;> intro hbehind <;> simp [tokens, under_ofHead, hbehind]

/-! ## Groups that are read again -/

/-- A group of a word or a quoted text, or of a list that is not closed before its end. -/
def IsWritten (group : Group) : Prop :=
  match group.value with
  | .single token => token.isPlaceholder = true ∨ token.isGiven = true
  | .list items => ∀ item ∈ items, item.isPunct ']' = false

/-- A written group is read again, whatever is behind it. -/
theorem IsWritten.ofTokens_append {group : Group} (h : group.IsWritten) (rest : List Token) :
    ofTokens (group.tokens ++ rest) = group :: ofTokens rest := by
  obtain ⟨name?, value⟩ := group
  cases value with
  | single token =>
      obtain ⟨halone, hpunct⟩ := Token.ofHead_of_isPlaceholder_or_isGiven h
      have hhead := ofHead_under halone name?
      rw [tokens, List.singleton_append, ofTokens_cons_of_not_bracket (by rw [hhead]; exact hpunct '['), hhead]
  | list items =>
      have hhead := ofHead_under (show ofHead (.punct '[') = (none, .punct '[') from rfl) name?
      have hbracket : (ofHead ((Token.punct '[').under name?)).2.isPunct '[' = true := by rw [hhead]; rfl
      rw [tokens, List.cons_append, List.append_assoc, List.singleton_append, ofTokens, if_pos hbracket, hhead,
        splitList_append h]

/-- Written groups are read again, whatever is behind them. -/
theorem ofTokens_flatMap_append {groups : List Group} (h : ∀ group ∈ groups, group.IsWritten) (rest : List Token) :
    ofTokens (groups.flatMap tokens ++ rest) = groups ++ ofTokens rest := by
  induction groups with
  | nil => rfl
  | cons group others ih =>
      obtain ⟨hgroup, hothers⟩ := List.forall_mem_cons.mp h
      rw [List.flatMap_cons, List.append_assoc, hgroup.ofTokens_append, ih hothers, List.cons_append]

/-- A group that ends in a closing bracket is a list, and is read again without the bracket at the end of a line. -/
theorem IsWritten.ofTokens_of_tokens_eq {group : Group} (h : group.IsWritten) {front : List Token}
    (hclosing : group.tokens = front ++ [.punct ']']) : ofTokens front = [group] := by
  obtain ⟨name?, value⟩ := group
  cases value with
  | single token =>
      obtain ⟨-, hpunct⟩ := Token.ofHead_of_isPlaceholder_or_isGiven h
      obtain ⟨-, hlast⟩ := List.append_inj' (show [] ++ [token.under name?] = front ++ [.punct ']'] from hclosing) rfl
      cases name? with
      | some name => cases hlast
      | none =>
          obtain rfl : token = .punct ']' := List.singleton_inj.mp hlast
          exact absurd (hpunct ']') (by decide)
  | list items =>
      have hfront : (Token.punct '[').under name? :: items = front :=
        List.append_cancel_right (show (Token.punct '[').under name? :: items ++ [.punct ']'] = _ from hclosing)
      have hhead := ofHead_under (show ofHead (.punct '[') = (none, .punct '[') from rfl) name?
      rw [← hfront, ofTokens_open (by rw [hhead]; rfl) h, hhead]

/-- **The groups of a line are the only written ones that make it up.** -/
theorem ofTokens_eq_iff {groups : List Group} (h : ∀ group ∈ groups, group.IsWritten) {line : List Token} :
    ofTokens line = groups ↔ MakeUp groups line := by
  constructor
  · rintro rfl
    exact makeUp_ofTokens line
  · rintro (hline | hline)
    · have hread := ofTokens_flatMap_append h []
      rwa [List.append_nil, hline, ofTokens, List.append_nil] at hread
    · -- The missing bracket belongs to the last group.
      rcases List.eq_nil_or_concat groups with rfl | ⟨before, last, rfl⟩
      · simp at hline
      · rw [List.concat_eq_append] at h hline ⊢
        obtain ⟨hbefore, hlast⟩ := List.forall_mem_append.mp h
        have hwritten : last.IsWritten := hlast last (by simp)
        have hne : last.tokens ≠ [] := by
          unfold tokens
          split <;> simp
        obtain ⟨front, token, hfront⟩ := (List.eq_nil_or_concat last.tokens).resolve_left hne
        rw [List.concat_eq_append] at hfront
        rw [List.flatMap_append, List.flatMap_singleton, hfront, ← List.append_assoc] at hline
        obtain ⟨rfl, htoken⟩ := List.append_inj' hline rfl
        rw [htoken] at hfront
        rw [ofTokens_flatMap_append hbefore, hwritten.ofTokens_of_tokens_eq hfront]

end Group

end RemoteShell
