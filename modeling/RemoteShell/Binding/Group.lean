import RemoteShell.Token.Basic

/-!
# Tokens grouped by argument

Before tokens are bound they are grouped: a bracket and everything up to the closing one stand for one argument, and so
does any other token on its own. The end of the line closes an open bracket. What a group is meant for is still open,
except that a named token says it.

Main statements:

* `Group.length_ofTokens_le`: there are never more groups than tokens.
-/

namespace RemoteShell

/-- What stands for one argument. -/
inductive GroupValue where
  /-- One token. -/
  | single (token : Token)
  /-- The tokens of a bracketed list, without the brackets. -/
  | list (items : List Token)
deriving DecidableEq, Repr

/-- What stands for one argument, and the argument's name if it is given. -/
structure Group where
  name : Option String
  value : GroupValue
deriving DecidableEq, Repr

namespace Group

/-- The name a token gives, and the token that carries the value. -/
def ofHead : Token → Option String × Token
  | .named name value => (some name, value)
  | token => (none, token)

/-- The tokens up to a closing bracket, and those behind it. The end of the line closes the bracket too. -/
def splitList (tokens : List Token) : List Token × List Token :=
  (tokens.takeWhile (!·.isPunct ']'), (tokens.dropWhile (!·.isPunct ']')).tail)

theorem splitList_length_le (tokens : List Token) : (splitList tokens).2.length ≤ tokens.length := by
  have : (tokens.dropWhile (!·.isPunct ']')).length ≤ tokens.length := (List.dropWhile_sublist _).length_le
  simp only [splitList, List.length_tail]
  omega

/-- The groups of some tokens. -/
def ofTokens : List Token → List Group
  | [] => []
  | token :: rest =>
    if (ofHead token).2.isPunct '[' then
      { name := (ofHead token).1, value := .list (splitList rest).1 } :: ofTokens (splitList rest).2
    else { name := (ofHead token).1, value := .single (ofHead token).2 } :: ofTokens rest
termination_by tokens => tokens.length
decreasing_by
  · have := splitList_length_le rest
    simp only [List.length_cons]
    omega
  · simp

/-- A token that opens no bracket is a group of its own. -/
theorem ofTokens_cons_of_not_bracket {token : Token} (h : (ofHead token).2.isPunct '[' = false) (rest : List Token) :
    ofTokens (token :: rest) = { name := (ofHead token).1, value := .single (ofHead token).2 } :: ofTokens rest := by
  rw [ofTokens]
  simp [h]

/-- There are never more groups than tokens. -/
theorem length_ofTokens_le (tokens : List Token) : (ofTokens tokens).length ≤ tokens.length := by
  fun_induction ofTokens tokens with
  | case1 => simp
  | case2 token rest _ ih =>
    have := splitList_length_le rest
    simp only [List.length_cons]
    omega
  | case3 token rest _ ih =>
    simp only [List.length_cons]
    omega

end Group

end RemoteShell
