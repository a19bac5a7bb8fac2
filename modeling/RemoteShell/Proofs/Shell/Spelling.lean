import RemoteShell.Commands.Table
import RemoteShell.Proofs.Token.Pieces
import RemoteShell.Proofs.Token.RoundTrip
import RemoteShell.Shell.Line

/-!
# The command that a line spells

A word spells itself, and a quoted text with its closing mark spells what it holds. A name with its value spells nothing,
and neither does a mark. Yet a command is looked up by the text of the first token, whatever the token is. So a line that
begins with `name=value` is a line of the command `value`, and the name is not looked at; and a mark is a line of a
command that is called like it.

Main statements:

* `dropHints_cons`: where a line begins with a token that is no hint and waits for none, that token is kept.
* `parseLine_behind_name`: a name in front of a line changes nothing about it.
* `runsAsSpelled_iff`: which lines run no command but the one that they spell.
-/

namespace RemoteShell

/-- What a token spells as the name of a command. -/
def Token.spelled? : Token → Option String
  | .word text => some text
  | .quoted q => if q.closed then some q.text else none
  | .named _ _ => none
  | .punct _ => none

/-- A line that runs at most the command that its first token spells: if it is read as a command, that one is registered
under what the token spells. -/
def RunsAsSpelled (registry : Registry) (line cwd : String) : Prop :=
  ∀ i, parseLine registry line cwd = .ok (some i) →
    ∃ head rest, dropHints (tokenize line) = head :: rest ∧ head.spelled? = some i.command.name ∧
      i.command ∈ registry.commands

/-- A text is the name of a command, and some tokens bind to its arguments. -/
def Runs (registry : Registry) (cwd text : String) (tokens : List Token) : Prop :=
  text ≠ "" ∧ ∃ command args, registry.lookup text = some command ∧ command.bind tokens cwd = .ok args

/-- Tokens that are a command without spelling it: the value of a name, or a mark, is taken for the command. -/
def RunsUnspelled (registry : Registry) (cwd : String) : List Token → Prop
  | .named _ value :: rest => value.isUnterminated = false ∧ Runs registry cwd value.text rest
  | .punct mark :: rest => Runs registry cwd mark.toString rest
  | _ => False

/-- A line that begins, without a blank, with a word or a quoted text that is no placeholder. -/
def OpensWithValue (line : String) : Prop :=
  ∃ s ∈ (scan line).head?, s.start = 0 ∧ s.token.spelled?.isSome = true ∧ s.token.isPlaceholder = false

/-! ## A name in front of a line -/

/-- **A first token that is no hint and waits for none is kept,** and what follows is filtered on its own. -/
theorem dropHints_cons {token : Token} (hopen : token.isPunct '(' = false)
    (hname : ∀ name value, token = .named name value → value.isPlaceholder = false) (rest : List Token) :
    dropHints (token :: rest) = token :: dropHints rest := by
  have hkeep : HintFilter.feed {} token = { kept := [token], phase := .outside false } := by
    cases token with
    | named name value => simp [HintFilter.feed, HintFilter.keep, hopen, hname name value rfl]
    | word text => rfl
    | quoted q => rfl
    | punct mark => simp [HintFilter.feed, HintFilter.keep, hopen]
  rw [dropHints, List.foldl_cons, hkeep, HintFilter.finish_foldl_outside]
  rfl

/-- The first token of a line that opens with a value is a value behind a name, too. -/
theorem OpensWithValue.exists_form {line : String} (h : OpensWithValue line) :
    ∃ token rest, LexemeForm line.toList token rest ∧ ValueForm line.toList token rest ∧
      token.spelled?.isSome = true ∧ token.isPlaceholder = false := by
  obtain ⟨s, hs, hstart, hspelled, hplace⟩ := h
  rcases RemoteShell.exists_form line.toList with hblank | ⟨gap, body, token, rest, hsplit, hgap, hform, -⟩
  · simp [scan, scanFrom_blank hblank] at hs
  · have hscan := scanFrom_form hgap hform 0
    rw [scan, hsplit, hscan, List.head?_cons, Option.mem_some_iff] at hs
    subst hs
    -- Nothing but a blank could stand before a token, and the token begins at the very start.
    obtain rfl : gap = [] := Text.size_eq_zero_iff.mp (by simpa using hstart)
    rw [List.nil_append] at hsplit
    rw [hsplit]
    refine ⟨token, rest, hform, ?_, hspelled, hplace⟩
    cases hform with
    | quoted hmark => exact ValueForm.quoted hmark
    | word hword hrest => exact ValueForm.word hword hrest
    | punct => simp [Token.spelled?] at hspelled
    | named => simp [Token.spelled?] at hspelled

/-- The tokens of a line that opens with a value, and those of the same line with a name in front. -/
theorem OpensWithValue.dropHints_behind_name {name line : String} (h : OpensWithValue line) (hname : IsWord name) :
    ∃ token rest, dropHints (tokenize line) = token :: rest ∧
      dropHints (tokenize (name ++ "=" ++ line)) = .named name token :: rest := by
  obtain ⟨token, rest, hform, hvalue, hspelled, hplace⟩ := h.exists_form
  have hnamed := LexemeForm.named hname hvalue
  rw [String.ofList_toList] at hnamed
  have hline : (name ++ "=" ++ line).toList = name.toList ++ '=' :: line.toList := by simp
  refine ⟨token, dropHints (tokensOf rest), ?_, ?_⟩
  · rw [tokenize_eq, tokensOf_lexeme hform]
    refine dropHints_cons ?_ ?_ _
    · cases token with
      | punct mark => simp [Token.spelled?] at hspelled
      | _ => rfl
    · rintro name value rfl
      simp [Token.spelled?] at hspelled
  · rw [tokenize_eq, hline, tokensOf_lexeme hnamed]
    refine dropHints_cons rfl ?_ _
    rintro _ _ heq
    obtain ⟨rfl, rfl⟩ := Token.named.inj heq
    exact hplace

/-- **A name in front of a line is not looked at:** the line is the same command as without it. -/
theorem parseLine_behind_name {name line : String} (hname : IsWord name) (hopens : OpensWithValue line)
    (registry : Registry) (cwd : String) :
    parseLine registry (name ++ "=" ++ line) cwd = parseLine registry line cwd := by
  obtain ⟨token, rest, hplain, hnamed⟩ := hopens.dropHints_behind_name hname
  rw [parseLine, parseLine, hplain, hnamed]
  rfl

/-- So a line that is a command still is one behind a name, and no longer spells it. -/
theorem not_runsAsSpelled_behind_name {registry : Registry} {name line cwd : String} {i : Invocation}
    (hname : IsWord name) (hopens : OpensWithValue line) (hread : parseLine registry line cwd = .ok (some i)) :
    ¬ RunsAsSpelled registry (name ++ "=" ++ line) cwd := by
  intro h
  obtain ⟨token, rest, -, hnamed⟩ := hopens.dropHints_behind_name hname
  rw [← parseLine_behind_name hname hopens] at hread
  obtain ⟨head, behind, htokens, hspelled, -⟩ := h i hread
  obtain ⟨rfl, -⟩ := List.cons.inj (hnamed.symm.trans htokens)
  simp [Token.spelled?] at hspelled

/-! ## Which lines run what they spell -/

/-- Tokens that are a command spell it, or are one of those that do not. -/
theorem spelled?_or_runsUnspelled {registry : Registry} {cwd : String} {head : Token} {rest : List Token}
    {i : Invocation} (h : parseTokens registry cwd (head :: rest) = .ok (some i)) :
    head.spelled? = some i.command.name ∨ RunsUnspelled registry cwd (head :: rest) := by
  obtain ⟨_, _, heq, hclosed, hsome, hlookup, hbind⟩ := parseTokens_eq_ok_some_iff.mp h
  obtain ⟨rfl, rfl⟩ := List.cons.inj heq
  have hname := Registry.name_of_lookup hlookup
  cases head with
  | word text => exact Or.inl (congrArg some hname.symm)
  | quoted q =>
      have hq : q.closed = true := by simpa [Token.isUnterminated] using hclosed
      exact Or.inl (by rw [Token.spelled?, if_pos hq, hname, Token.text])
  | named name value => exact Or.inr ⟨hclosed, hsome, _, _, hlookup, hbind⟩
  | punct mark => exact Or.inr ⟨hsome, _, _, hlookup, hbind⟩

/-- Tokens that are a command without spelling it are one, and spell none. -/
theorem RunsUnspelled.exists_invocation {registry : Registry} {cwd : String} {tokens : List Token}
    (h : RunsUnspelled registry cwd tokens) :
    ∃ head rest i, tokens = head :: rest ∧ head.spelled? = none ∧ parseTokens registry cwd tokens = .ok (some i) := by
  match tokens, h with
  | .named name value :: rest, ⟨hclosed, hsome, command, args, hlookup, hbind⟩ =>
      exact ⟨_, rest, { command, args }, rfl, rfl,
        parseTokens_eq_ok_some_iff.mpr ⟨_, rest, rfl, hclosed, hsome, hlookup, hbind⟩⟩
  | .punct mark :: rest, ⟨hsome, command, args, hlookup, hbind⟩ =>
      exact ⟨_, rest, { command, args }, rfl, rfl,
        parseTokens_eq_ok_some_iff.mpr ⟨_, rest, rfl, rfl, hsome, hlookup, hbind⟩⟩

/-- **Which lines run no command but the one that they spell:** all lines but those whose first token is a name with a
value, or a mark, that has a text under which a command is registered, with tokens behind it that bind to the arguments
of that command. -/
theorem runsAsSpelled_iff (registry : Registry) (line cwd : String) :
    RunsAsSpelled registry line cwd ↔ ¬ RunsUnspelled registry cwd (dropHints (tokenize line)) := by
  constructor
  · intro h hunspelled
    obtain ⟨head, rest, i, htokens, hspelled, hread⟩ := hunspelled.exists_invocation
    obtain ⟨head', rest', htokens', hspelled', -⟩ := h i hread
    obtain ⟨rfl, -⟩ := List.cons.inj (htokens.symm.trans htokens')
    rw [hspelled] at hspelled'
    simp at hspelled'
  · intro h i hread
    obtain ⟨head, rest, htokens, -, -, hlookup, -⟩ := parseTokens_eq_ok_some_iff.mp hread
    rw [htokens] at h
    have hspells : parseTokens registry cwd (head :: rest) = .ok (some i) := htokens ▸ hread
    exact ⟨head, rest, htokens, (spelled?_or_runsUnspelled hspells).resolve_right h, Registry.mem_of_lookup hlookup⟩

/-- A line that begins with the name of one command, and runs another one. -/
theorem not_runsAsSpelled_exit :
    (∃ i, parseLine Commands.registry "pwd=exit" "/" = .ok (some i) ∧ i.command.name = "exit") ∧
      (dropHints (tokenize "pwd=exit")).map Token.spelled? = [none] ∧
      ¬ RunsAsSpelled Commands.registry "pwd=exit" "/" := by
  let c : Command := Commands.session.get ⟨1, by decide⟩
  have htokens : dropHints (tokenize "exit") = [.word "exit"] := by decide +kernel
  have hlookup : Commands.registry.lookup "exit" = some c := by decide +kernel
  have hbind : c.bind [] "/" = .ok [] := by
    rw [Command.bind, List.find?_nil, Group.ofTokens]
    rfl
  have hread : parseLine Commands.registry "exit" "/" = .ok (some { command := c, args := [] }) :=
    parseTokens_eq_ok_some_iff.mpr ⟨.word "exit", [], htokens, rfl, by decide, hlookup, hbind⟩
  have hname : IsWord "pwd" := by decide
  have hopens : OpensWithValue "exit" := ⟨⟨.word "exit", 0, 4⟩, by decide +kernel, by decide⟩
  have hnamed := parseLine_behind_name hname hopens Commands.registry "/"
  have hunspelled := not_runsAsSpelled_behind_name hname hopens hread
  have hline : "pwd" ++ "=" ++ "exit" = "pwd=exit" := by decide
  rw [hline] at hnamed hunspelled
  exact ⟨⟨_, hnamed.trans hread, rfl⟩, by decide +kernel, hunspelled⟩

end RemoteShell
