import RemoteShell.Binding.Render
import RemoteShell.Proofs.Binding.Result
import RemoteShell.Proofs.Token.Hints
import RemoteShell.Proofs.Token.RoundTrip
import RemoteShell.Schema.Registry

/-!
# Bound arguments, written and bound again

A line that was bound can be written down from what it was bound to, and binding what was written gives the same
arguments again, in any working directory. The line may look quite different: arguments that were given in order are
given by name, beginnings of literals are written out and paths are absolute.

Written values are words or closed quoted texts, and no placeholders; so the written tokens are canonical, no hint is
among them, and each of them is a group that converts to the value it was written for.

Main statements:

* `Argument.Admits.convert_renderValue`: a written value is read back.
* `bindGroups_renderArguments`: the groups of written arguments are bound to them.
* `bind_renderArguments`: the round trip.
-/

namespace RemoteShell

mutual

/-- The texts that occur in a value. -/
def Value.texts : Value → List String
  | .str text => [text]
  | .bool _ => []
  | .int _ => []
  | .pair key value => [key, value]
  | .list items => textsAll items

/-- The texts that occur in some values. -/
def Value.textsAll : List Value → List String
  | [] => []
  | item :: rest => Value.texts item ++ textsAll rest

end

theorem Value.mem_textsAll {items : List Value} {item : Value} (hitem : item ∈ items) {text : String}
    (htext : text ∈ item.texts) : text ∈ Value.textsAll items := by
  induction items with
  | nil => simp at hitem
  | cons first rest ih =>
      rw [Value.textsAll, List.mem_append]
      rcases List.mem_cons.mp hitem with rfl | hrest
      · exact Or.inl htext
      · exact Or.inr (ih hrest)

/-- A value that can be written without carriage returns. -/
def Value.IsWritable (value : Value) : Prop :=
  ∀ text ∈ value.texts, '\r' ∉ text.toList

/-- The tokens that values are written as: words other than the skip marker, and closed quoted texts. -/
inductive IsValueToken : Token → Prop
  | word {text : String} (hword : IsWord text) (hne : text ≠ Token.skipMarker) : IsValueToken (.word text)
  | quoted {q : Quotation} (hq : q.Canonical) : IsValueToken (.quoted q)

namespace IsValueToken

variable {token : Token}

theorem canonicalValue (h : IsValueToken token) : CanonicalValue token := by
  cases h with
  | word hword => exact CanonicalValue.word hword
  | quoted hq => exact CanonicalValue.quoted hq

theorem canonicalToken (h : IsValueToken token) : CanonicalToken token := by
  cases h with
  | word hword => exact CanonicalToken.word hword
  | quoted hq => exact CanonicalToken.quoted hq

theorem not_isPlaceholder (h : IsValueToken token) : token.isPlaceholder = false := by
  cases h with
  | @word text hword hne =>
      have hempty : text ≠ "" := by
        rintro rfl
        exact hword.1 rfl
      simp [Token.isPlaceholder, hempty, hne]
  | quoted => rfl

theorem not_isPunct (h : IsValueToken token) (mark : Char) : token.isPunct mark = false := by
  cases h <;> rfl

/-- Such a token is converted by its text. -/
theorem convert_eq (h : IsValueToken token) (arguments : List Argument) (cwd : String) (a : Argument) :
    convert arguments cwd a token = convertText arguments cwd a token.text := by
  cases h <;> rfl

end IsValueToken

/-! ## One value -/

/-- A text is written as a token that has it. -/
theorem isValueToken_wordOrQuoted {text : String} (h : '\r' ∉ text.toList) :
    IsValueToken (wordOrQuoted text) ∧ (wordOrQuoted text).text = text := by
  rcases wordOrQuoted_cases text with ⟨hword, hrun, hmarker⟩ | hquoted
  · rw [hword]
    exact ⟨IsValueToken.word hrun hmarker, rfl⟩
  · rw [hquoted]
    exact ⟨IsValueToken.quoted ⟨rfl, rfl, h⟩, rfl⟩

/-- The characters of a written number are word characters. -/
theorem isWordChar_of_mem_writeInt {n : Int} {c : Char} (h : c ∈ Text.writeInt n) : isWordChar c = true := by
  have hdigit : ∀ d : Char, d.isDigit = true → isWordChar d = true := by
    intro d hd
    have hrange : 48 ≤ d.toNat ∧ d.toNat ≤ 57 := Char.isDigit_iff_toNat.mp hd
    have hall : ∀ n ∈ List.range 58, 48 ≤ n → isWordChar (Char.ofNat n) = true := by decide
    have hchar := hall d.toNat (List.mem_range.mpr (by omega)) hrange.1
    rwa [Char.ofNat_toNat] at hchar
  unfold Text.writeInt at h
  split at h
  · rcases List.mem_cons.mp h with rfl | h
    · decide
    · exact hdigit c (Text.isDigit_of_mem_writeNat h)
  · exact hdigit c (Text.isDigit_of_mem_writeNat h)

/-- A written number is a word with a digit in it. -/
theorem isValueToken_writeInt (n : Int) : IsValueToken (.word (String.ofList (Text.writeInt n))) := by
  have hnat : Text.writeNat n.natAbs ≠ [] := Text.writeNat_ne_nil n.natAbs
  refine IsValueToken.word ⟨?_, ?_⟩ ?_
  · rw [String.toList_ofList, Text.writeInt]
    split
    · simp
    · exact hnat
  · intro c hc
    rw [String.toList_ofList] at hc
    exact isWordChar_of_mem_writeInt hc
  · intro hmarker
    have hread := congrArg (fun text => Text.readSigned? text.toList) hmarker
    have hskip : Text.readSigned? Token.skipMarker.toList = none := by decide
    simp only [String.toList_ofList, Text.readSigned?_writeInt, hskip] at hread
    exact absurd hread (by simp)

/-- Yes and no are words that are read back. -/
theorem isValueToken_flag (flag : Bool) :
    IsValueToken (.word (if flag then "true" else "false")) ∧
      readBool? (if flag then "true" else "false") = some flag := by
  cases flag with
  | true => exact ⟨IsValueToken.word (by decide) (by decide), by decide⟩
  | false => exact ⟨IsValueToken.word (by decide) (by decide), by decide⟩

/-- A pair is read back from around its colon. -/
theorem readPair?_join {key value : List Char} (hne : key ≠ []) (hkey : ':' ∉ key) (hvalue : ':' ∉ value)
    (htrimKey : Text.trim key = key) (htrimValue : Text.trim value = value) :
    readPair? (String.ofList key ++ ":" ++ String.ofList value) = some (String.ofList key, String.ofList value) := by
  have hlist : (String.ofList key ++ ":" ++ String.ofList value).toList = key ++ ':' :: value := by
    simp [String.toList_append]
  have hfields : Text.fields ':' (key ++ ':' :: value) = [key, value] := by
    rw [Text.fields_append_sep hkey, Text.fields_of_not_mem hvalue]
  simp only [readPair?, hlist, hfields, htrimKey, htrimValue, hne, if_false]

namespace Argument.Admits

variable {a : Argument} {value : Value}

/-- A value is written as a token that is read back as the value. -/
theorem renderValue_reads (h : a.Admits value) (hname : IsWord a.name) (hmarker : a.name ≠ Token.skipMarker)
    (hreturn : value.IsWritable) (arguments : List Argument) (cwd : String) :
    IsValueToken (renderValue a value) ∧ convertText arguments cwd a (renderValue a value).text = .ok value := by
  cases h with
  | @text text hkind hpath =>
      obtain ⟨htoken, htext⟩ := isValueToken_wordOrQuoted (hreturn text (by simp [Value.texts]))
      refine ⟨htoken, ?_⟩
      rw [renderValue, htext]
      by_cases hfile : a.isFile = true
      · simp [convertText, hkind, hfile, Path.resolve_of_isNormal (hpath hfile)]
      · simp [convertText, hkind, hfile]
  | @flag flag hkind =>
      have hliteral : ¬ a.kind = .literal := by simp [hkind]
      rw [renderValue, if_neg hliteral]
      refine ⟨(isValueToken_flag flag).1, ?_⟩
      simp [convertText, hkind, Token.text, (isValueToken_flag flag).2]
  | @number number hkind hrange =>
      refine ⟨isValueToken_writeInt number, ?_⟩
      have hbounds : -9223372036854775808 ≤ number ∧ number ≤ 9223372036854775807 := by
        simpa [Text.isInt64] using hrange
      have hread : Text.readInt64? (Text.writeInt number) = some number :=
        Text.readInt?_writeInt hbounds.1 hbounds.2
      simp [renderValue, convertText, hkind, Token.text, hread]
  | itself hkind =>
      rw [renderValue, if_pos hkind]
      exact ⟨IsValueToken.word hname hmarker, by simp [convertText, hkind, Token.text, literalMatches_self]⟩
  | @pair key value hkind hne hkey hvalue htrimKey htrimValue =>
      have hjoined : '\r' ∉ (String.ofList key ++ ":" ++ String.ofList value).toList := by
        have hleft := hreturn (String.ofList key) (by simp [Value.texts])
        have hright := hreturn (String.ofList value) (by simp [Value.texts])
        rw [String.toList_ofList] at hleft hright
        simp [String.toList_append, hleft, hright]
      obtain ⟨htoken, htext⟩ := isValueToken_wordOrQuoted hjoined
      refine ⟨htoken, ?_⟩
      rw [renderValue, htext]
      simp [convertText, hkind, readPair?_join hne hkey hvalue htrimKey htrimValue]

/-- **A written value is read back.** -/
theorem convert_renderValue (h : a.Admits value) (hname : IsWord a.name) (hmarker : a.name ≠ Token.skipMarker)
    (hreturn : value.IsWritable) (arguments : List Argument) (cwd : String) :
    convert arguments cwd a (renderValue a value) = .ok value := by
  obtain ⟨htoken, hread⟩ := h.renderValue_reads hname hmarker hreturn arguments cwd
  rw [htoken.convert_eq, hread]

end Argument.Admits

/-! ## One argument -/

/-- A value of an argument that is no list is written behind its name. -/
theorem Argument.Admits.renderArgument_eq {a : Argument} {value : Value} (h : a.Admits value) :
    renderArgument a value = [.named a.name (renderValue a value)] := by
  cases h <;> rfl

/-- A value in brackets ends at the closing one. -/
theorem splitList_append {items : List Token} (h : ∀ item ∈ items, item.isPunct ']' = false) (rest : List Token) :
    Group.splitList (items ++ .punct ']' :: rest) = (items, rest) := by
  have hopen : ∀ item ∈ items, (!item.isPunct ']') = true := by
    intro item hitem
    rw [h item hitem]
    rfl
  have hclosed : (!(Token.punct ']').isPunct ']') = false := rfl
  unfold Group.splitList
  rw [List.takeWhile_append_of_pos hopen, List.dropWhile_append_of_pos hopen, List.takeWhile_cons, List.dropWhile_cons,
    hclosed]
  simp

section Written

variable {a : Argument} (hname : IsWord a.name) (hmarker : a.name ≠ Token.skipMarker)

include hname hmarker

/-- Items are converted back one after the other. -/
theorem convertItems_renderValue {items : List Value} (hitems : ∀ item ∈ items, a.Admits item)
    (hreturn : ∀ item ∈ items, item.IsWritable) (arguments : List Argument) (cwd : String) :
    convertItems arguments cwd a (items.map (renderValue a)) = .ok items := by
  induction items with
  | nil => rfl
  | cons item rest ih =>
      obtain ⟨htoken, -⟩ := (hitems item (by simp)).renderValue_reads hname hmarker (hreturn item (by simp)) arguments cwd
      have hitem : convert arguments cwd a (renderValue a item) = .ok item :=
        (hitems item (by simp)).convert_renderValue hname hmarker (hreturn item (by simp)) arguments cwd
      have hrest : convertItems arguments cwd a (rest.map (renderValue a)) = .ok rest :=
        ih (fun other h => hitems other (List.mem_cons_of_mem _ h)) fun other h => hreturn other (List.mem_cons_of_mem _ h)
      simp [convertItems, htoken.not_isPlaceholder, hitem, hrest, bind, Except.bind, pure, Except.pure]

/-- The tokens of an argument can be written, and open no hint. -/
theorem canonicalToken_renderArgument {value : Value} (h : a.Holds value) (hreturn : value.IsWritable) :
    ∀ token ∈ renderArgument a value, CanonicalToken token ∧ token.isPunct '(' = false := by
  intro token htoken
  cases h with
  | single hlist hvalue =>
      have hwritten := (hvalue.renderValue_reads hname hmarker hreturn [] "").1
      rw [hvalue.renderArgument_eq, List.mem_singleton] at htoken
      subst htoken
      exact ⟨CanonicalToken.named hname hwritten.canonicalValue, rfl⟩
  | @list items hlist hitems =>
      simp only [renderArgument, List.cons_append, List.mem_cons, List.mem_append, List.mem_map, List.not_mem_nil,
        or_false] at htoken
      rcases htoken with rfl | ⟨item, hitem, rfl⟩ | rfl
      · exact ⟨CanonicalToken.named hname CanonicalValue.bracket, rfl⟩
      · have hitemReturn : item.IsWritable := fun text htext => hreturn text (Value.mem_textsAll hitem htext)
        have hwritten := ((hitems item hitem).renderValue_reads hname hmarker hitemReturn [] "").1
        exact ⟨hwritten.canonicalToken, hwritten.not_isPunct '('⟩
      · exact ⟨CanonicalToken.punct rfl, rfl⟩

/-- **The tokens of an argument are one group,** which has its name and is converted into its value. -/
theorem ofTokens_renderArgument {value : Value} (h : a.Holds value) (hreturn : value.IsWritable)
    (arguments : List Argument) (cwd : String) :
    ∃ group : GroupValue, group.isPlaceholder = false ∧ convertGroup arguments cwd a group = .ok value ∧
      ∀ rest, Group.ofTokens (renderArgument a value ++ rest) =
        { name := some a.name, value := group } :: Group.ofTokens rest := by
  cases h with
  | single hlist hvalue =>
      have hwritten := (hvalue.renderValue_reads hname hmarker hreturn arguments cwd).1
      have hconvert := hvalue.convert_renderValue hname hmarker hreturn arguments cwd
      refine ⟨.single (renderValue a value), hwritten.not_isPlaceholder, ?_, ?_⟩
      · simp [convertGroup, hconvert, hlist, bind, Except.bind, pure, Except.pure]
      · intro rest
        have hhead : (Group.ofHead (.named a.name (renderValue a value))).2.isPunct '[' = false :=
          hwritten.not_isPunct '['
        rw [hvalue.renderArgument_eq]
        exact Group.ofTokens_cons_of_not_bracket hhead rest
  | @list items hlist hitems =>
      have hitemReturn : ∀ item ∈ items, item.IsWritable :=
        fun item hitem text htext => hreturn text (Value.mem_textsAll hitem htext)
      have hconvert := convertItems_renderValue hname hmarker hitems hitemReturn arguments cwd
      refine ⟨.list (items.map (renderValue a)), rfl, ?_, ?_⟩
      · simp [convertGroup, hlist, hconvert, bind, Except.bind, pure, Except.pure]
      · intro rest
        have hclosing : ∀ token ∈ items.map (renderValue a), token.isPunct ']' = false := by
          intro token htoken
          obtain ⟨item, hitem, rfl⟩ := List.mem_map.mp htoken
          exact ((hitems item hitem).renderValue_reads hname hmarker (hitemReturn item hitem) [] "").1.not_isPunct ']'
        have hsplit := splitList_append hclosing rest
        have hbracket : (Group.ofHead (.named a.name (.punct '['))).2.isPunct '[' = true := rfl
        simp only [renderArgument, List.cons_append, List.append_assoc, List.nil_append]
        rw [Group.ofTokens, if_pos hbracket, hsplit]
        rfl

end Written

/-! ## All arguments -/

/-- The tokens of the values that some arguments have. -/
def renderEach (args : Arguments) (arguments : List Argument) : List Token :=
  arguments.flatMap fun a => match Dict.find? a.name args with
    | some value => renderArgument a value
    | none => []

theorem renderArguments_eq (c : Command) (args : Arguments) : c.renderArguments args = renderEach args c.arguments := rfl

theorem renderEach_cons_some {args : Arguments} {a : Argument} {value : Value}
    (h : Dict.find? a.name args = some value) (rest : List Argument) :
    renderEach args (a :: rest) = renderArgument a value ++ renderEach args rest := by
  simp [renderEach, h]

theorem renderEach_cons_none {args : Arguments} {a : Argument} (h : Dict.find? a.name args = none)
    (rest : List Argument) : renderEach args (a :: rest) = renderEach args rest := by
  simp [renderEach, h]

theorem CanonicalLine.of_forall {tokens : List Token} (h : ∀ token ∈ tokens, CanonicalToken token) :
    CanonicalLine tokens := by
  induction tokens with
  | nil => exact CanonicalLine.nil
  | cons token rest ih =>
      exact CanonicalLine.cons (h token (by simp)) (ih fun t ht => h t (List.mem_cons_of_mem _ ht))

section Bound

variable {c : Command} {args : Arguments} (hbinds : c.Binds args) (hnodup : (c.arguments.map (·.name)).Nodup)
  (hnames : ∀ a ∈ c.arguments, IsWord a.name ∧ a.name ≠ Token.skipMarker)
  (hreturn : ∀ entry ∈ args, entry.2.IsWritable)

include hbinds hnodup hnames hreturn

theorem canonicalToken_renderArguments :
    ∀ token ∈ c.renderArguments args, CanonicalToken token ∧ token.isPunct '(' = false := by
  intro token htoken
  obtain ⟨a, ha, htoken⟩ := List.mem_flatMap.mp htoken
  cases hfind : Dict.find? a.name args with
  | none => simp [hfind] at htoken
  | some value =>
      simp only [hfind] at htoken
      exact canonicalToken_renderArgument (hnames a ha).1 (hnames a ha).2 (hbinds.holds_of_find? hnodup ha hfind)
        (hreturn _ (Dict.mem_of_find? hfind)) token htoken

/-- **The groups of written arguments are bound to them.** On the way, what is bound are the values of the arguments
passed so far. -/
theorem bindGroups_renderEach (hnone : missing? c.arguments args = none) (cwd : String) {arguments : List Argument}
    (hsub : ∀ a ∈ arguments, a ∈ c.arguments) (hrest : (arguments.map (·.name)).Nodup) {bound : Arguments} {slot : Nat}
    (hsorted : Dict.Sorted bound)
    (hbound : ∀ name, Dict.find? name bound =
      if name ∈ arguments.map (·.name) then none else Dict.find? name args) :
    bindGroups c cwd bound slot (Group.ofTokens (renderEach args arguments)) = .ok args := by
  induction arguments generalizing bound slot with
  | nil =>
      have heq : bound = args := by
        refine Dict.eq_of_find? hsorted hbinds.sorted ?_
        intro name
        simpa using hbound name
      have hnil : Group.ofTokens (renderEach args []) = [] := by
        rw [renderEach, List.flatMap_nil, Group.ofTokens]
      rw [hnil, bindGroups_nil, heq, hnone]
  | cons a rest ih =>
      obtain ⟨hfresh, hrest⟩ := List.nodup_cons.mp hrest
      have ha : a ∈ c.arguments := hsub a (by simp)
      have hsub' : ∀ b ∈ rest, b ∈ c.arguments := fun b hb => hsub b (List.mem_cons_of_mem _ hb)
      cases hfind : Dict.find? a.name args with
      | none =>
          rw [renderEach_cons_none hfind]
          refine ih hsub' hrest hsorted ?_
          intro name
          rw [hbound name]
          by_cases heq : name = a.name
          · subst heq
            simp [hfresh, hfind]
          · simp [heq]
      | some value =>
          have hvalue : a.Holds value := hbinds.holds_of_find? hnodup ha hfind
          obtain ⟨group, hplaceholder, hconvert, hgroups⟩ :=
            ofTokens_renderArgument (hnames a ha).1 (hnames a ha).2 hvalue (hreturn _ (Dict.mem_of_find? hfind)) c.arguments
              cwd
          obtain ⟨i, hposition⟩ := Command.find?_of_mem hnodup ha
          have hnew : Dict.contains a.name bound = false := by
            simp [Dict.contains, hbound a.name]
          rw [renderEach_cons_some hfind, hgroups, bindGroups]
          simp only [hposition, hnew, hplaceholder, hconvert, Bool.false_eq_true, if_false]
          refine ih hsub' hrest (Dict.sorted_insert hsorted) ?_
          intro name
          by_cases heq : name = a.name
          · subst heq
            rw [Dict.find?_insert_self, if_neg hfresh, hfind]
          · rw [Dict.find?_insert_of_ne heq, hbound name]
            simp [heq]

/-- Written arguments are bound to themselves. -/
theorem bindGroups_renderArguments (hnone : missing? c.arguments args = none) (cwd : String) :
    bindGroups c cwd [] 0 (Group.ofTokens (c.renderArguments args)) = .ok args := by
  rw [renderArguments_eq]
  refine bindGroups_renderEach hbinds hnodup hnames hreturn hnone cwd (fun a ha => ha) hnodup List.Pairwise.nil ?_
  intro name
  by_cases hmem : name ∈ c.arguments.map (·.name)
  · rw [if_pos hmem]
    rfl
  · rw [if_neg hmem]
    cases hfind : Dict.find? name args with
    | none => rfl
    | some value =>
        obtain ⟨a, ha, hname, -⟩ := hbinds.holds name value hfind
        exact absurd (List.mem_map.mpr ⟨a, ha, hname⟩) hmem

end Bound

/-- **Bound arguments survive being written and bound again,** from any working directory: a declaration that passes its
check and whose argument names are words, a line that was bound, and no carriage return in what it was bound to. -/
theorem bind_renderArguments {c : Command} (hcheck : c.check = .ok ())
    (hnames : ∀ a ∈ c.arguments, IsWord a.name ∧ a.name ≠ Token.skipMarker) {tokens : List Token} {cwd : String}
    {args : Arguments} (hbind : c.bind tokens cwd = .ok args)
    (hreturn : ∀ entry ∈ args, ∀ text ∈ entry.2.texts, '\r' ∉ text.toList) (cwd' : String) :
    c.bind (dropHints (tokenize (renderLine (c.renderArguments args)))) cwd' = .ok args := by
  obtain ⟨hbinds, hnone⟩ := Command.binds_of_bind hbind
  have hnodup : (c.arguments.map (·.name)).Nodup := Command.nodup_of_check hcheck
  have hwritten := canonicalToken_renderArguments hbinds hnodup hnames hreturn
  have hscan : tokenize (renderLine (c.renderArguments args)) = c.renderArguments args :=
    tokensOf_render (CanonicalLine.of_forall fun token htoken => (hwritten token htoken).1)
  have hdrop : dropHints (c.renderArguments args) = c.renderArguments args :=
    dropHints_of_no_open fun token htoken => (hwritten token htoken).2
  have hclosed : (c.renderArguments args).find? (·.isUnterminated) = none := by
    rw [List.find?_eq_none]
    intro token htoken
    simp [(hwritten token htoken).1.not_isUnterminated]
  rw [hscan, hdrop, Command.bind, hclosed]
  exact bindGroups_renderArguments hbinds hnodup hnames hreturn hnone cwd'

theorem eq_ok_of_toOption {ε α : Type} {result : Except ε α} {value : α} (h : result.toOption = some value) :
    result = .ok value := by
  cases result with
  | error e => simp [Except.toOption] at h
  | ok other =>
      obtain rfl := Option.some.inj h
      rfl

/-- A path that goes up, a list in brackets, a pair with blanks around its parts and the beginning of a literal. -/
theorem bind_renderArguments_copy :
    ∃ (c : Command) (args : Arguments),
      c.arguments = [.path "group" "group path", (Argument.text "users").list, (Argument.keyValue "rename").list.optional,
        (Argument.literal "force").optional] ∧
      c.bind (tokenize "../b/./c [ ann \"bob smith\" ] [ \"ann : x\" ] f") "/home/a" = .ok args ∧
      args = [("force", .bool true), ("group", .str "/home/b/c"), ("rename", .list [.pair "ann" "x"]),
        ("users", .list [.str "ann", .str "bob smith"])] ∧
      c.bind (dropHints (tokenize (renderLine (c.renderArguments args)))) "/" = .ok args := by
  refine ⟨{ name := "copy", help := "", arguments := _ }, _, rfl, ?_, rfl, ?_⟩
  · exact eq_ok_of_toOption (by decide +kernel)
  · refine @bind_renderArguments _ rfl ?_ (tokenize "../b/./c [ ann \"bob smith\" ] [ \"ann : x\" ] f") "/home/a" _ ?_ ?_ "/"
    · decide
    · exact eq_ok_of_toOption (by decide +kernel)
    · simp [Value.texts, Value.textsAll]

end RemoteShell
