import RemoteShell.Proofs.Binding.Written

/-!
# Values as they are written

A value is written as a word, as a quoted text or as a list in brackets, and it stands alone or behind a name. In both
forms it is one group of the line, and the group has the same value; the name is all that is different. A quoted text
without its closing mark is reported with its text, wherever in the value it stands.

A group with a name does not ask from where arguments are taken in order, and neither does the end of the line.

Main statements:

* `Operand.ofTokens_tokens`: a written value is one group.
* `Operand.unterminated?_tokens`: a name does not change what is reported of a text without its closing mark.
* `bindGroups_of_head_named`: in front of a name, every position is as good as another.
-/

namespace RemoteShell

/-- A value as it is written: a word or a quoted text that stands for itself, or a list with its closing bracket. -/
inductive Operand where
  | text (token : Token) (hgiven : token.isGiven = true)
  | list (items : List Token) (hitems : ∀ item ∈ items, item.isPunct ']' = false)

namespace Operand

/-- What the value is as a group of the line. -/
def value : Operand → GroupValue
  | .text token _ => .single token
  | .list items _ => .list items

/-- The tokens of the value, behind a name or alone. -/
def tokens (name? : Option String) : Operand → List Token
  | .text token _ => [token.under name?]
  | .list items _ => (Token.punct '[').under name? :: (items ++ [.punct ']'])

theorem not_isPlaceholder_value (o : Operand) : o.value.isPlaceholder = false := by
  cases o with
  | text token hgiven => exact Token.isPlaceholder_of_isGiven hgiven
  | list items hitems => rfl

end Operand

/-- **A written value is one group,** with the name it stands behind. -/
theorem Operand.ofTokens_tokens (o : Operand) (name? : Option String) (rest : List Token) :
    Group.ofTokens (o.tokens name? ++ rest) = { name := name?, value := o.value } :: Group.ofTokens rest := by
  cases o with
  | text token hgiven =>
      have hwritten : ({ name := name?, value := .single token } : Group).IsWritten := Or.inr hgiven
      exact hwritten.ofTokens_append rest
  | list items hitems =>
      have hwritten : ({ name := name?, value := .list items } : Group).IsWritten := hitems
      exact hwritten.ofTokens_append rest

/-! ## Texts without their closing mark -/

/-- The first text among some tokens that has no closing mark. -/
def unterminated? (tokens : List Token) : Option String :=
  (tokens.find? (·.isUnterminated)).map Token.text

theorem unterminated?_append (first second : List Token) :
    unterminated? (first ++ second) = (unterminated? first).or (unterminated? second) := by
  rw [unterminated?, List.find?_append, Option.map_or]
  rfl

theorem unterminated?_eq_none_iff {tokens : List Token} :
    unterminated? tokens = none ↔ ∀ token ∈ tokens, token.isUnterminated = false := by
  simp [unterminated?]

/-- A line is bound group by group, unless some text has no closing mark. -/
theorem Command.bind_eq_unterminated (c : Command) (tokens : List Token) (cwd : String) :
    c.bind tokens cwd = match unterminated? tokens with
      | some text => .error (.unterminatedQuote text)
      | none => bindGroups c cwd [] 0 (Group.ofTokens tokens) := by
  unfold bind unterminated?
  cases tokens.find? (·.isUnterminated) <;> rfl

theorem unterminated?_under (token : Token) (name? : Option String) (rest : List Token) :
    unterminated? (token.under name? :: rest) = unterminated? (token :: rest) := by
  cases name? with
  | none => rfl
  | some name =>
      unfold Token.under unterminated?
      rw [List.find?_cons, List.find?_cons, Token.isUnterminated]
      cases token.isUnterminated <;> rfl

/-- **A name does not change what is reported of a text without its closing mark.** -/
theorem Operand.unterminated?_tokens (o : Operand) (name? : Option String) :
    unterminated? (o.tokens name?) = unterminated? (o.tokens none) := by
  cases o with
  | text token hgiven => exact unterminated?_under token name? []
  | list items hitems => exact unterminated?_under (.punct '[') name? (items ++ [.punct ']'])

/-! ## Positions and names -/

/-- **In front of a name, every position is as good as another,** and so it is at the end of the line. -/
theorem bindGroups_of_head_named {c : Command} {cwd : String} {bound : Arguments} {groups : List Group}
    (h : ∀ group ∈ groups.head?, group.name.isSome = true) (slot slot' : Nat) :
    bindGroups c cwd bound slot groups = bindGroups c cwd bound slot' groups := by
  cases groups with
  | nil => rfl
  | cons group rest =>
      obtain ⟨name?, value⟩ := group
      cases name? with
      | some name => rfl
      | none => simp at h

end RemoteShell
