import RemoteShell.Commands.Table
import RemoteShell.Proofs.Binding.Position
import RemoteShell.Token.Scan

/-!
# Where the next word goes

One more word is typed behind a line that binds so far. It is converted for one argument and for no other: it becomes
the value of that argument, or goes to the end of its list, or is refused with an error that names it. Completion says
which argument that is before the word is there. It says so rightly exactly if none of the arguments passed since the
last name had a value by then.

Main statements:

* `Command.Receives.name_eq`: a word is received by one argument at most.
* `Command.receives_of_take`, `Command.receives_of_open`: who receives a word, outside and within a list.
* `Command.argumentPosition_agrees_iff`: when completion is right about it.
-/

namespace RemoteShell

/-- The argument that an error names. -/
def ParseError.argument? : ParseError → Option String
  | .unknownCommand _ => none
  | .unterminatedQuote _ => none
  | .tooManyArguments _ _ => none
  | .missingRequiredArgument argument => some argument
  | .unknownArgument argument => some argument
  | .duplicateArgument argument => some argument
  | .invalidBoolean argument _ => some argument
  | .invalidInteger argument _ => some argument
  | .invalidLiteral argument _ => some argument
  | .invalidPair argument _ => some argument
  | .unexpectedToken argument _ => some argument

/-- A text that is no value of an argument is refused in its name. -/
theorem argument?_of_convertText {arguments : List Argument} {cwd text : String} {a : Argument} {e : ParseError}
    (h : convertText arguments cwd a text = .error e) : e.argument? = some a.name := by
  unfold convertText at h
  split at h
  · cases h
  · split at h
    · cases h
    · cases h
      rfl
  · split at h
    · cases h
    · cases h
      rfl
  · split at h
    · cases h
    · cases h
      rfl
  · split at h
    · cases h
    · cases h
      rfl

/-- One more word in a list is converted after the others. -/
theorem convertItems_append_word {arguments : List Argument} {cwd text : String} {a : Argument}
    (htext : (Token.word text).isPlaceholder = false) {items : List Token} {values : List Value}
    (h : convertItems arguments cwd a items = .ok values) :
    convertItems arguments cwd a (items ++ [.word text]) =
      (convertText arguments cwd a text).map fun value => values ++ [value] := by
  induction items generalizing values with
  | nil =>
      cases h
      cases hvalue : convertText arguments cwd a text with
      | error e => simp [convertItems, htext, convert, hvalue, bind, Except.bind, Except.map]
      | ok value => simp [convertItems, htext, convert, hvalue, bind, Except.bind, pure, Except.pure, Except.map]
  | cons token rest ih =>
      rcases convertItems_cons h with ⟨hplaceholder, hrest⟩ | ⟨hplaceholder, first, others, hfirst, hothers, rfl⟩
      · rw [List.cons_append, convertItems, if_pos hplaceholder, ih hrest]
      · rw [List.cons_append, convertItems, if_neg (by simp [hplaceholder]), ih hothers, hfirst]
        cases convertText arguments cwd a text <;> rfl

/-- Of two values for one key the later one stands. -/
theorem Dict.insert_insert {α : Type} (key : String) (first second : α) (d : Dict α) :
    Dict.insert key second (Dict.insert key first d) = Dict.insert key second d := by
  induction d with
  | nil => simp [Dict.insert]
  | cons entry rest ih =>
      obtain ⟨k, v⟩ := entry
      by_cases hk : k = key
      · simp [Dict.insert, hk]
      · by_cases hlt : key < k
        · simp [Dict.insert, hk, hlt]
        · simp [Dict.insert, hk, hlt, ih]

namespace Command

/-- What becomes of a word that is meant for the argument `a`, behind a line that has come to `p`: nothing but this
argument is changed. -/
inductive Receives (c : Command) (cwd : String) (p : PartialBinding) (text : String) (a : Argument) :
    Except ParseError PartialBinding → Prop
  /-- It is no value of the argument, and the error says so. -/
  | refused {e : ParseError} (hvalue : convertText c.arguments cwd a text = .error e)
      (hname : e.argument? = some a.name) : Receives c cwd p text a (.error e)
  /-- It becomes the value of the argument, which had none. -/
  | stored {value : Value} {q : PartialBinding} (hvalue : convertText c.arguments cwd a text = .ok value)
      (hfresh : Dict.contains a.name p.bound = false)
      (hbound : q.bound = Dict.insert a.name (if a.isList then .list [value] else value) p.bound) :
      Receives c cwd p text a (.ok q)
  /-- It goes to the end of the argument's list. -/
  | appended {value : Value} {items : List Value} {q : PartialBinding}
      (hvalue : convertText c.arguments cwd a text = .ok value)
      (hitems : Dict.find? a.name p.bound = some (.list items))
      (hbound : q.bound = Dict.insert a.name (.list (items ++ [value])) p.bound) : Receives c cwd p text a (.ok q)

variable {c : Command} {cwd text : String} {p q r : PartialBinding} {a b : Argument} {tokens : List Token}
  {result : Except ParseError PartialBinding}

/-- What was received can be seen at the argument. -/
theorem Receives.find?_ne (h : c.Receives cwd p text a (.ok q)) :
    Dict.find? a.name q.bound ≠ Dict.find? a.name p.bound := by
  cases h with
  | stored hvalue hfresh hbound =>
      intro hsame
      rw [hbound, Dict.find?_insert_self] at hsame
      simp [Dict.contains, ← hsame] at hfresh
  | appended hvalue hitems hbound =>
      rw [hbound, Dict.find?_insert_self, hitems]
      simp

/-- Nothing else is changed. -/
theorem Receives.find?_of_ne (h : c.Receives cwd p text a (.ok q)) {name : String} (hne : name ≠ a.name) :
    Dict.find? name q.bound = Dict.find? name p.bound := by
  cases h with
  | stored hvalue hfresh hbound => rw [hbound, Dict.find?_insert_of_ne hne]
  | appended hvalue hitems hbound => rw [hbound, Dict.find?_insert_of_ne hne]

/-- **A word is received by one argument at most.** -/
theorem Receives.name_eq (ha : c.Receives cwd p text a result) (hb : c.Receives cwd p text b result) :
    a.name = b.name := by
  cases result with
  | error e =>
      cases ha with
      | refused _ hnameA =>
          cases hb with
          | refused _ hnameB => exact Option.some.inj (hnameA.symm.trans hnameB)
  | ok q =>
      by_contra hne
      exact ha.find?_ne (hb.find?_of_ne hne)

/-- **Outside a list,** a word is received by the next argument in order. -/
theorem receives_of_take (htext : (Token.word text).isPlaceholder = false) {i : Nat}
    (hnext : nextOpen? c.arguments p.bound p.slot = some (i, a)) :
    c.Receives cwd p text a (p.take c cwd { name := none, value := .single (.word text) }) := by
  have htarget := PartialBinding.target_none_eq_ok_iff.mpr hnext
  obtain ⟨-, hfresh⟩ := PartialBinding.of_target htarget
  have hconvert : convert c.arguments cwd a (.word text) = convertText c.arguments cwd a text := rfl
  simp only [PartialBinding.take, htarget, PartialBinding.give, GroupValue.isPlaceholder, htext, convertGroup, hconvert]
  cases hvalue : convertText c.arguments cwd a text with
  | error e => exact Receives.refused hvalue (argument?_of_convertText hvalue)
  | ok value => exact Receives.stored hvalue hfresh rfl

/-- **Within a list,** a word is received by the argument of the list. -/
theorem receives_of_open (htext : (Token.word text).isPlaceholder = false) {name? : Option String}
    {items : List Token} {i : Nat} (htarget : p.target c name? = .ok (i, a))
    (htake : p.take c cwd { name := name?, value := .list items } = .ok q) :
    c.Receives cwd q text a (p.take c cwd { name := name?, value := .list (items ++ [.word text]) }) := by
  obtain ⟨j, b, hsame, -, hbound⟩ := PartialBinding.take_ok htake
  obtain ⟨rfl, rfl⟩ : j = i ∧ b = a := by simpa using hsame.symm.trans htarget
  rcases hbound with ⟨hplaceholder, -⟩ | ⟨value, hvalue, hbound⟩
  · cases hplaceholder
  · obtain ⟨hlist, values, hvalues, rfl⟩ := convertGroup_list hvalue
    have hitems : Dict.find? b.name q.bound = some (.list values) := by rw [hbound, Dict.find?_insert_self]
    simp only [PartialBinding.take, htarget, PartialBinding.give, GroupValue.isPlaceholder, convertGroup, hlist,
      convertItems_append_word htext hvalues]
    cases hword : convertText c.arguments cwd b text with
    | error e => exact Receives.refused hword (argument?_of_convertText hword)
    | ok value =>
        refine Receives.appended hword hitems ?_
        rw [hbound, Dict.insert_insert]

/-- Whether completion is right about a word behind a line that has come to `p`: the word is received by the argument at
the position that completion says, or there is no such argument and the line does not bind, as it has too many. -/
def PositionAgrees (c : Command) (tokens : List Token) (cwd : String) (p : PartialBinding) (text : String) : Prop :=
  match c.arguments[c.argumentPosition tokens]? with
  | some a => c.Receives cwd p text a (c.advance (tokens ++ [.word text]) cwd)
  | none => c.bind (tokens ++ [.word text]) cwd = .error (.tooManyArguments c.name c.arguments.length)

/-- Where a word is received by the next argument in order, the argument at the position of completion receives it
exactly if nothing was passed that had a value. -/
theorem Pace.receives_iff {k : Nat} (hnodup : (c.arguments.map (·.name)).Nodup) (hpace : c.Pace q r k)
    (hreceives : ∀ i a, nextOpen? c.arguments r.bound r.slot = some (i, a) →
      c.Receives cwd p text a (c.advance tokens cwd))
    (hnone : nextOpen? c.arguments r.bound r.slot = none →
      c.advance tokens cwd = .error (.tooManyArguments c.name c.arguments.length)) :
    (match c.arguments[k]? with
      | some a => c.Receives cwd p text a (c.advance tokens cwd)
      | none => c.bind tokens cwd = .error (.tooManyArguments c.name c.arguments.length)) ↔
      c.FreeBefore q (k + 1) := by
  constructor
  · intro hagrees
    by_contra hbound
    obtain ⟨hlt, hlater⟩ := hpace.lt_of_nextOpen? hbound
    have hget : c.arguments[k]? = some c.arguments[k] := List.getElem?_eq_getElem hlt
    rw [hget] at hagrees
    cases hnext : nextOpen? c.arguments r.bound r.slot with
    | none =>
        rw [hnone hnext] at hagrees
        cases hagrees with
        | refused _ hname => cases hname
    | some found =>
        obtain ⟨i, b⟩ := found
        have hb : c.arguments[i]? = some b := (nextOpen?_eq_some_iff.mp hnext).2.1
        have hki : k < i := hlater i b hnext
        exact name_ne_of_getElem? hnodup hget hb (by omega) (hagrees.name_eq (hreceives i b hnext))
  · intro hfree
    have hnext := hpace.nextOpen?_eq hfree
    cases hget : c.arguments[k]? with
    | some a =>
        rw [hget] at hnext
        exact hreceives k a hnext
    | none =>
        rw [hget] at hnext
        show c.bind tokens cwd = _
        rw [bind_eq_advance, hnone hnext]
        rfl

/-- Behind closed lists, the word is a group of its own. -/
theorem advance_word_of_closed (h : Group.Closed tokens) (hline : c.advance tokens cwd = .ok p) :
    c.advance (tokens ++ [.word text]) cwd = p.take c cwd { name := none, value := .single (.word text) } := by
  have hword : Group.ofTokens [.word text] = [{ name := none, value := .single (.word text) }] := by
    simp [Group.ofTokens, Group.ofHead, Token.isPunct]
  rw [advance_append_word hline, h.ofTokens_append, hword,
    PartialBinding.foldlM_append_of_ok (advance_eq_ok hline).2]
  simp

/-- Within an open list, the word is one more item. -/
theorem advance_word_of_open {before items : List Token} {head : Token} (h : Group.Closed before)
    (hhead : (Group.ofHead head).2.isPunct '[' = true) (hitems : ∀ item ∈ items, item.isPunct ']' = false)
    (hbefore : (Group.ofTokens before).foldlM (PartialBinding.take c cwd) {} = .ok r)
    (hline : c.advance (before ++ head :: items) cwd = .ok p) :
    c.advance (before ++ head :: items ++ [.word text]) cwd =
      r.take c cwd { name := (Group.ofHead head).1, value := .list (items ++ [.word text]) } := by
  have hlonger : ∀ item ∈ items ++ [Token.word text], item.isPunct ']' = false := by
    intro item hitem
    rcases List.mem_append.mp hitem with hitem | hitem
    · exact hitems item hitem
    · rw [List.mem_singleton.mp hitem]
      rfl
  rw [advance_append_word hline, List.append_assoc, List.cons_append, h.ofTokens_append,
    Group.ofTokens_open hhead hlonger, PartialBinding.foldlM_append_of_ok hbefore]
  simp

/-- **When completion is right about the next word.** Let a declaration pass its check, and a line come to its end without
an error, whatever may be missing yet. A word typed behind it that is no placeholder is received by the argument at the
position that completion says, or refused as one too many where that position is behind the last argument, exactly if no
argument given in order had a value when the last name was reached and was then passed, up to that position. -/
theorem argumentPosition_agrees_iff (hcheck : c.check = .ok ()) (hline : c.advance tokens cwd = .ok p)
    (htext : (Token.word text).isPlaceholder = false) :
    ∃ q, ((Group.ofTokens tokens).rdropWhile (·.name.isNone)).foldlM (PartialBinding.take c cwd) {} = .ok q ∧
      (c.PositionAgrees tokens cwd p text ↔ c.FreeBefore q (c.argumentPosition tokens + 1)) := by
  have hnodup : (c.arguments.map (·.name)).Nodup := nodup_of_check hcheck
  obtain ⟨-, hwalk⟩ := advance_eq_ok hline
  rcases Group.closed_or_open tokens with hclosed | ⟨before, head, items, hclosed, hhead, hitems, rfl⟩
  · -- The word goes to the next argument in order.
    obtain ⟨q, hq, hpace⟩ := exists_pace hnodup hwalk
    refine ⟨q, hq, ?_⟩
    rw [PositionAgrees, argumentPosition_closed hclosed (knows_of_foldlM hwalk)]
    refine hpace.receives_iff hnodup ?_ ?_
    · intro i a hnext
      rw [advance_word_of_closed hclosed hline]
      exact receives_of_take htext hnext
    · intro hnone
      rw [advance_word_of_closed hclosed hline]
      simp [PartialBinding.take, PartialBinding.target, hnone]
  · -- The word goes to the argument of the open list, which its name says or which was the next in order.
    rw [hclosed.ofTokens_append, Group.ofTokens_open hhead hitems] at hwalk ⊢
    obtain ⟨r, hr, htake⟩ := PartialBinding.exists_of_foldlM_concat hwalk
    obtain ⟨i, a, htarget, hslot, -⟩ := PartialBinding.take_ok htake
    have hreceives : c.Receives cwd p text a (c.advance (before ++ head :: items ++ [.word text]) cwd) := by
      rw [advance_word_of_open hclosed hhead hitems hr hline]
      exact receives_of_open htext htarget htake
    rw [PositionAgrees, argumentPosition_open hclosed hhead hitems (knows_of_foldlM hwalk)]
    cases hname : (Group.ofHead head).1 with
    | some name =>
        rw [hname] at htarget hwalk
        rw [List.rdropWhile_concat_neg _ _ _ (by simp), positionOf, PartialBinding.position?_of_target htarget,
          Option.getD_some, (PartialBinding.of_target htarget).1]
        refine ⟨p, hwalk, fun _ => ?_, fun _ => hreceives⟩
        intro j b hj hlt
        omega
    | none =>
        rw [hname] at htarget
        have hnext := PartialBinding.target_none_eq_ok_iff.mp htarget
        obtain ⟨q, hq, hpace⟩ := exists_pace hnodup hr
        rw [List.rdropWhile_concat_pos _ _ _ (by simp), positionOf]
        refine ⟨q, hq, hpace.receives_iff hnodup ?_ ?_⟩
        · intro j b hother
          obtain ⟨rfl, rfl⟩ : j = i ∧ b = a := by simpa using hother.symm.trans hnext
          exact hreceives
        · intro hnone
          rw [hnext] at hnone
          cases hnone

/-- One name leads on and another one back. The next argument in order has no value yet. -/
theorem argumentPosition_agrees_gattr :
    ∃ (c : Command) (p : PartialBinding), Commands.registry.lookup "gattr" = some c ∧ c.check = .ok () ∧
      c.advance (tokenize "signup=yes group=/g") "/" = .ok p ∧ (Token.word "no").isPlaceholder = false ∧
      c.argumentPosition (tokenize "signup=yes group=/g") = 1 ∧
      c.PositionAgrees (tokenize "signup=yes group=/g") "/" p "no" := by
  let c : Command := Commands.groups.get ⟨10, by decide⟩
  have hlookup : Commands.registry.lookup "gattr" = some c := by decide +kernel
  let p : PartialBinding := { bound := [("group", .str "/g"), ("signup", .bool true)], slot := 1 }
  have hcheck : c.check = .ok () := by decide +kernel
  have hline : c.advance (tokenize "signup=yes group=/g") "/" = .ok p := by decide +kernel
  have htext : (Token.word "no").isPlaceholder = false := by decide
  have hposition : c.argumentPosition (tokenize "signup=yes group=/g") = 1 := by decide +kernel
  obtain ⟨q, hq, hagrees⟩ := argumentPosition_agrees_iff hcheck hline htext
  have hlast : ((Group.ofTokens (tokenize "signup=yes group=/g")).rdropWhile (·.name.isNone)).foldlM
      (PartialBinding.take c "/") {} = .ok p := by decide +kernel
  obtain rfl : q = p := Except.ok.inj (hq.symm.trans hlast)
  rw [hposition] at hagrees
  exact ⟨c, p, hlookup, hcheck, hline, htext, hposition, hagrees.mpr (by decide +kernel)⟩

/-- The argument behind the last name has a value already. Completion stops at it, but a word that is typed for it is one
too many. -/
theorem argumentPosition_behind_ls :
    ∃ (c : Command) (p : PartialBinding) (a : Argument), Commands.registry.lookup "ls" = some c ∧ c.check = .ok () ∧
      c.advance (tokenize "folder=folder path=/home") "/" = .ok p ∧ (Token.word "folder").isPlaceholder = false ∧
      c.arguments[c.argumentPosition (tokenize "folder=folder path=/home")]? = some a ∧ a.name = "folder" ∧
      c.bind (tokenize "folder=folder path=/home" ++ [.word "folder"]) "/" = .error (.tooManyArguments "ls" 2) ∧
      ¬ c.PositionAgrees (tokenize "folder=folder path=/home") "/" p "folder" := by
  let c : Command := Commands.files.get ⟨0, by decide⟩
  have hlookup : Commands.registry.lookup "ls" = some c := by decide +kernel
  let p : PartialBinding := { bound := [("folder", .bool true), ("path", .str "/home")], slot := 1 }
  have hposition : c.arguments[c.argumentPosition (tokenize "folder=folder path=/home")]? =
      some ((Argument.literal "folder").optional) := by decide +kernel
  have hresult : c.advance (tokenize "folder=folder path=/home" ++ [.word "folder"]) "/" =
      .error (.tooManyArguments "ls" 2) := by decide +kernel
  have hbind : c.bind (tokenize "folder=folder path=/home" ++ [.word "folder"]) "/" =
      .error (.tooManyArguments "ls" 2) := by
    rw [bind_eq_advance, hresult]
    rfl
  refine ⟨c, p, _, hlookup, by decide +kernel, by decide +kernel, by decide, hposition, rfl, hbind, ?_⟩
  rw [PositionAgrees, hposition, hresult]
  intro hreceives
  cases hreceives with
  | refused _ hname => cases hname

end Command

end RemoteShell
