import RemoteShell.Binding.Bind
import RemoteShell.Proofs.Path.NormalForm

/-!
# What a line is bound to

Binding reads texts, and each kind of argument has its own values: a path is in normal form, a number has its range, a
pair has neither blanks around its parts nor a second colon. These are the values an argument admits. Everything in the
result of binding is such a value, for one of the arguments of the command, and nothing that is needed is missing.

Main statements:

* `Argument.admits_of_convertText`: what a text is read into is admitted.
* `bindGroups_cons`: what one group does.
* `bindGroups_preserves`: what every newly bound value keeps up holds of the result.
* `Command.binds_of_bind`: the result of binding.
-/

namespace RemoteShell

/-- The single values of an argument. -/
inductive Argument.Admits (a : Argument) : Value → Prop
  | text {text : String} (hkind : a.kind = .string) (hpath : a.isFile = true → Path.IsNormal text) :
      Admits a (.str text)
  | flag {flag : Bool} (hkind : a.kind = .boolean) : Admits a (.bool flag)
  | number {number : Int} (hkind : a.kind = .integer) (hrange : Text.isInt64 number = true) : Admits a (.int number)
  | itself (hkind : a.kind = .literal) : Admits a (.bool true)
  | pair {key value : List Char} (hkind : a.kind = .pair) (hne : key ≠ []) (hkey : ':' ∉ key) (hvalue : ':' ∉ value)
      (htrimKey : Text.trim key = key) (htrimValue : Text.trim value = value) :
      Admits a (.pair (String.ofList key) (String.ofList value))

/-- The values that an argument may be bound to: a single one, or a list of them. -/
inductive Argument.Holds (a : Argument) : Value → Prop
  | single {value : Value} (hlist : a.isList = false) (hvalue : a.Admits value) : Holds a value
  | list {items : List Value} (hlist : a.isList = true) (hitems : ∀ item ∈ items, a.Admits item) :
      Holds a (.list items)

/-- Values for arguments of a command, each a value that its argument may be bound to. -/
structure Command.Binds (c : Command) (args : Arguments) : Prop where
  sorted : Dict.Sorted args
  holds : ∀ name value, Dict.find? name args = some value → ∃ a ∈ c.arguments, a.name = name ∧ a.Holds value

/-! ## Reading values -/

/-- A pair is cut at its only colon. -/
theorem readPair?_eq_some {text key value : String} (h : readPair? text = some (key, value)) :
    ∃ left right, Text.fields ':' text.toList = [left, right] ∧ Text.trim left ≠ [] ∧
      key = String.ofList (Text.trim left) ∧ value = String.ofList (Text.trim right) := by
  unfold readPair? at h
  split at h
  · next left right hfields =>
      split at h
      · simp at h
      · next hne =>
          simp only [Option.some.injEq, Prod.mk.injEq] at h
          exact ⟨left, right, hfields, hne, h.1.symm, h.2.symm⟩
  · simp at h

/-- A number that is read has its range. -/
theorem isInt64_of_readInt64? {cs : List Char} {number : Int} (h : Text.readInt64? cs = some number) :
    Text.isInt64 number = true := by
  simp only [Text.readInt64?, Text.readInt?, Option.filter_eq_some_iff] at h
  exact h.2

/-- **What a text is read into is admitted.** -/
theorem Argument.admits_of_convertText {arguments : List Argument} {cwd text : String} {a : Argument} {value : Value}
    (h : convertText arguments cwd a text = .ok value) : a.Admits value := by
  unfold convertText at h
  split at h
  · next hkind =>
      cases h
      refine Admits.text hkind ?_
      intro hfile
      rw [if_pos hfile]
      exact Path.isNormal_resolve cwd text
  · next hkind =>
      split at h
      · cases h
        exact Admits.flag hkind
      · cases h
  · next hkind =>
      split at h
      · next number hread =>
          cases h
          exact Admits.number hkind (isInt64_of_readInt64? hread)
      · cases h
  · next hkind =>
      split at h
      · cases h
        exact Admits.itself hkind
      · cases h
  · next hkind =>
      split at h
      · next key value hread =>
          cases h
          obtain ⟨left, right, hfields, hne, rfl, rfl⟩ := readPair?_eq_some hread
          have hcolon : ∀ field ∈ [left, right], ':' ∉ field := by
            rw [← hfields]
            exact fun field hfield => Text.not_mem_of_mem_fields hfield
          have hleft : ':' ∉ Text.trim left := fun hmem => hcolon left (by simp) (Text.mem_of_mem_trim hmem)
          have hright : ':' ∉ Text.trim right := fun hmem => hcolon right (by simp) (Text.mem_of_mem_trim hmem)
          exact Admits.pair hkind hne hleft hright (Text.trim_trim left) (Text.trim_trim right)
      · cases h

theorem Argument.admits_of_convert {arguments : List Argument} {cwd : String} {a : Argument} {token : Token}
    {value : Value} (h : convert arguments cwd a token = .ok value) : a.Admits value := by
  cases token with
  | word text => exact admits_of_convertText h
  | quoted q => exact admits_of_convertText h
  | named name value => cases h
  | punct mark => cases h

/-- Items are converted one after the other; a placeholder is passed over. -/
theorem convertItems_cons {arguments : List Argument} {cwd : String} {a : Argument} {token : Token}
    {rest : List Token} {items : List Value} (h : convertItems arguments cwd a (token :: rest) = .ok items) :
    token.isPlaceholder = true ∧ convertItems arguments cwd a rest = .ok items ∨
      token.isPlaceholder = false ∧ ∃ value values, convert arguments cwd a token = .ok value ∧
        convertItems arguments cwd a rest = .ok values ∧ items = value :: values := by
  unfold convertItems at h
  split at h
  · next hplaceholder => exact Or.inl ⟨hplaceholder, h⟩
  · next hplaceholder =>
      refine Or.inr ⟨by simpa using hplaceholder, ?_⟩
      cases hvalue : convert arguments cwd a token with
      | error e => simp [hvalue, bind, Except.bind] at h
      | ok value =>
          cases hvalues : convertItems arguments cwd a rest with
          | error e => simp [hvalue, hvalues, bind, Except.bind] at h
          | ok values =>
              simp only [hvalue, hvalues, bind, Except.bind, pure, Except.pure, Except.ok.injEq] at h
              exact ⟨value, values, rfl, rfl, h.symm⟩

/-- A single token is converted into one value, which a list argument takes as a list of one item. -/
theorem convertGroup_single {arguments : List Argument} {cwd : String} {a : Argument} {token : Token} {value : Value}
    (h : convertGroup arguments cwd a (.single token) = .ok value) :
    ∃ item, convert arguments cwd a token = .ok item ∧ value = if a.isList then .list [item] else item := by
  cases hitem : convert arguments cwd a token with
  | error e => simp [convertGroup, hitem, bind, Except.bind] at h
  | ok item =>
      simp only [convertGroup, hitem, bind, Except.bind, pure, Except.pure, Except.ok.injEq] at h
      exact ⟨item, rfl, h.symm⟩

/-- Only a list argument takes a list in brackets. -/
theorem convertGroup_list {arguments : List Argument} {cwd : String} {a : Argument} {tokens : List Token}
    {value : Value} (h : convertGroup arguments cwd a (.list tokens) = .ok value) :
    a.isList = true ∧ ∃ items, convertItems arguments cwd a tokens = .ok items ∧ value = .list items := by
  by_cases hlist : a.isList = true
  · cases hitems : convertItems arguments cwd a tokens with
    | error e => simp [convertGroup, hlist, hitems, bind, Except.bind] at h
    | ok items =>
        simp only [convertGroup, hlist, if_true, hitems, bind, Except.bind, pure, Except.pure, Except.ok.injEq] at h
        exact ⟨hlist, items, rfl, h.symm⟩
  · simp [convertGroup, hlist] at h

theorem Argument.admits_of_convertItems {arguments : List Argument} {cwd : String} {a : Argument}
    {tokens : List Token} {items : List Value} (h : convertItems arguments cwd a tokens = .ok items) :
    ∀ item ∈ items, a.Admits item := by
  induction tokens generalizing items with
  | nil =>
      cases h
      simp
  | cons token rest ih =>
      rcases convertItems_cons h with ⟨-, hrest⟩ | ⟨-, value, values, hvalue, hvalues, rfl⟩
      · exact ih hrest
      · intro item hitem
        rcases List.mem_cons.mp hitem with rfl | hitem
        · exact admits_of_convert hvalue
        · exact ih hvalues item hitem

/-- What a group is converted into may be bound to the argument. -/
theorem Argument.holds_of_convertGroup {arguments : List Argument} {cwd : String} {a : Argument} {group : GroupValue}
    {value : Value} (h : convertGroup arguments cwd a group = .ok value) : a.Holds value := by
  cases group with
  | single token =>
      obtain ⟨item, hitem, rfl⟩ := convertGroup_single h
      have hadmits : a.Admits item := admits_of_convert hitem
      by_cases hlist : a.isList = true
      · rw [if_pos hlist]
        refine Holds.list hlist ?_
        intro other hother
        rwa [List.mem_singleton.mp hother]
      · rw [if_neg hlist]
        exact Holds.single (by simpa using hlist) hadmits
  | list tokens =>
      obtain ⟨hlist, items, hitems, rfl⟩ := convertGroup_list h
      exact Holds.list hlist (admits_of_convertItems hitems)

/-! ## Binding a line -/

/-- The next argument that may be bound is one of the arguments, and has no value yet. -/
theorem mem_of_nextOpen? {arguments : List Argument} {bound : Arguments} {slot i : Nat} {a : Argument}
    (h : nextOpen? arguments bound slot = some (i, a)) : a ∈ arguments ∧ Dict.contains a.name bound = false := by
  simp only [nextOpen?, Option.bind_eq_bind, Option.bind_eq_some_iff, Option.pure_def, Option.some.injEq,
    Prod.mk.injEq] at h
  obtain ⟨offset, hoffset, b, hb, -, rfl⟩ := h
  obtain ⟨hlt, hopen, -⟩ := List.findIdx?_eq_some_iff_getElem.mp hoffset
  have hget : (arguments.drop slot)[offset] = b := by
    rw [List.getElem_drop]
    exact (List.getElem?_eq_some_iff.mp hb).2
  rw [hget] at hopen
  simp only [isOpen, Bool.and_eq_true, Bool.not_eq_true'] at hopen
  exact ⟨List.mem_of_getElem? hb, hopen.2⟩

/-- **What one group does.** It goes to an argument that has no value yet. A placeholder leaves it so; any other group is
converted into its value. -/
theorem bindGroups_cons {c : Command} {cwd : String} {bound args : Arguments} {slot : Nat} {group : Group}
    {rest : List Group} (h : bindGroups c cwd bound slot (group :: rest) = .ok args) :
    ∃ i, ∃ a ∈ c.arguments, Dict.contains a.name bound = false ∧ (∀ name, group.name = some name → a.name = name) ∧
      (group.value.isPlaceholder = true ∧ bindGroups c cwd bound (i + 1) rest = .ok args ∨
        group.value.isPlaceholder = false ∧ ∃ value, convertGroup c.arguments cwd a group.value = .ok value ∧
          bindGroups c cwd (Dict.insert a.name value bound) (i + 1) rest = .ok args) := by
  obtain ⟨name?, value⟩ := group
  cases name? with
  | some name =>
      unfold bindGroups at h
      split at h
      · cases h
      · next i a hfind =>
          have hname : a.name = name := Command.name_of_find? hfind
          split at h
          · cases h
          · next hfresh =>
              refine ⟨i, a, Command.mem_of_find? hfind, by simpa [hname] using hfresh, by simpa using hname, ?_⟩
              split at h
              · next hplaceholder => exact Or.inl ⟨hplaceholder, h⟩
              · next hplaceholder =>
                  split at h
                  · cases h
                  · next v hvalue => exact Or.inr ⟨by simpa using hplaceholder, v, hvalue, h⟩
  | none =>
      unfold bindGroups at h
      split at h
      · cases h
      · next i a hopen =>
          obtain ⟨ha, hfresh⟩ := mem_of_nextOpen? hopen
          refine ⟨i, a, ha, hfresh, by simp, ?_⟩
          split at h
          · next hplaceholder =>
              split at h
              · exact Or.inl ⟨hplaceholder, h⟩
              · cases h
          · next hplaceholder =>
              split at h
              · cases h
              · next v hvalue => exact Or.inr ⟨by simpa using hplaceholder, v, hvalue, h⟩

/-- **What every newly bound value keeps up holds of the result,** in which nothing that is needed is missing. -/
theorem bindGroups_preserves {P : Arguments → Prop} {c : Command} {cwd : String}
    (hinsert : ∀ bound a group value, a ∈ c.arguments → convertGroup c.arguments cwd a group = .ok value → P bound →
      P (Dict.insert a.name value bound))
    {bound args : Arguments} {slot : Nat} {groups : List Group} (hbound : P bound)
    (h : bindGroups c cwd bound slot groups = .ok args) : P args ∧ missing? c.arguments args = none := by
  induction groups generalizing bound slot with
  | nil =>
      rw [bindGroups_nil] at h
      split at h
      · cases h
      · next hmissing =>
          cases h
          exact ⟨hbound, hmissing⟩
  | cons group rest ih =>
      obtain ⟨i, a, ha, -, -, ⟨-, hrest⟩ | ⟨-, value, hvalue, hrest⟩⟩ := bindGroups_cons h
      · exact ih hbound hrest
      · exact ih (hinsert bound a group.value value ha hvalue hbound) hrest

theorem Command.binds_nil (c : Command) : c.Binds [] where
  sorted := List.Pairwise.nil
  holds := by simp [Dict.find?]

/-- One more bound value. -/
theorem Command.Binds.insert {c : Command} {bound : Arguments} (h : c.Binds bound) {a : Argument} {value : Value}
    (ha : a ∈ c.arguments) (hvalue : a.Holds value) : c.Binds (Dict.insert a.name value bound) where
  sorted := Dict.sorted_insert h.sorted
  holds := by
    intro name other hfind
    by_cases hname : name = a.name
    · subst hname
      rw [Dict.find?_insert_self] at hfind
      obtain rfl := Option.some.inj hfind
      exact ⟨a, ha, rfl, hvalue⟩
    · rw [Dict.find?_insert_of_ne hname] at hfind
      exact h.holds name other hfind

/-- A value found for an argument may be bound to it. -/
theorem Command.Binds.holds_of_find? {c : Command} {args : Arguments} (h : c.Binds args)
    (hnodup : (c.arguments.map (·.name)).Nodup) {a : Argument} (ha : a ∈ c.arguments) {value : Value}
    (hfind : Dict.find? a.name args = some value) : a.Holds value := by
  obtain ⟨b, hb, hname, hvalue⟩ := h.holds a.name value hfind
  rwa [eq_of_nodup_map hnodup hb ha hname] at hvalue

/-- **The result of binding:** values that the arguments of the command may be bound to, and nothing missing. -/
theorem Command.binds_of_bind {c : Command} {tokens : List Token} {cwd : String} {args : Arguments}
    (h : c.bind tokens cwd = .ok args) : c.Binds args ∧ missing? c.arguments args = none := by
  unfold Command.bind at h
  split at h
  · cases h
  · refine bindGroups_preserves ?_ c.binds_nil h
    intro bound a group value ha hvalue hbound
    exact hbound.insert ha (Argument.holds_of_convertGroup hvalue)

end RemoteShell
