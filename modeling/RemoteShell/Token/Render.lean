import RemoteShell.Token.Quoting

/-!
# Writing tokens back into a line

The written form of a token is what a user would type for it: words and marks as they are, quoted texts in the quotes
they were opened with, named values behind `name=`. Tokens of a line are separated by single spaces.
-/

namespace RemoteShell

/-- A token as it is typed. -/
def Token.render : Token → String
  | .word text => text
  | .quoted q => quote q.text q.mark
  | .named name value => name ++ "=" ++ value.render
  | .punct mark => mark.toString

/-- Tokens as a line, separated by single spaces. -/
def renderLine : List Token → String
  | [] => ""
  | [token] => token.render
  | token :: next :: rest => token.render ++ " " ++ renderLine (next :: rest)

/-- How a written line begins. -/
theorem renderLine_cons_cons (token next : Token) (rest : List Token) :
    renderLine (token :: next :: rest) = token.render ++ " " ++ renderLine (next :: rest) := rfl

end RemoteShell
