import Mathlib.Data.List.Forall2
import Mathlib.Data.List.Induction
import Mathlib.Data.List.Nodup
import RemoteShell.Proofs.Binding.Written

/-!
# Nothing that was typed is dropped

A line that binds is cut into shares, each for one argument, and nothing is left over. A share is a placeholder, which
passes its argument, or one value, or a list in brackets. Behind a name it goes to the argument of that name; else to the
next one in order. What its values are converted into, one by one, is what the argument is bound to. This is exact: if a
line can be dealt out in shares so that nothing needed is missing, then it binds, and to nothing else.

Main statements:

* `GroupValue.becomes_iff`: what becomes of one group.
* `Share.take_eq_ok_iff`: one step of the walk deals one share.
* `Share.foldlM_take_eq_ok_iff`: the walk deals the line.
* `Command.bind_conserves`: what a line that binds comes to.
-/

namespace RemoteShell

/-! ## One group -/

/-- What becomes of a group that goes to an argument: nothing for a placeholder, else what the argument is bound to. A
value is converted by the rule of the argument. In a list in brackets all values are, in their order; only placeholders
are passed over, and nothing else may stand there. -/
inductive GroupValue.Becomes (arguments : List Argument) (cwd : String) (a : Argument) :
    GroupValue → Option Value → Prop
  | skip {token : Token} (hskip : token.isPlaceholder = true) : Becomes arguments cwd a (.single token) none
  | one {token : Token} {item : Value} (hgiven : token.isGiven = true)
      (hitem : convert arguments cwd a token = .ok item) :
      Becomes arguments cwd a (.single token) (some (if a.isList then .list [item] else item))
  | list {tokens : List Token} {items : List Value} (hlist : a.isList = true)
      (hitems : List.Forall₂ (fun token item => convert arguments cwd a token = .ok item)
        (tokens.filter (!·.isPlaceholder)) items) :
      Becomes arguments cwd a (.list tokens) (some (.list items))

section OneGroup

variable {arguments : List Argument} {cwd : String} {a : Argument}

/-- What can be converted is a word or a quoted text. -/
theorem Token.isGiven_of_convert {token : Token} {value : Value} (hplaceholder : token.isPlaceholder = false)
    (h : convert arguments cwd a token = .ok value) : token.isGiven = true := by
  cases token with
  | word text => simp [isGiven, hplaceholder]
  | quoted q => rfl
  | named name value => simp [convert] at h
  | punct mark => simp [convert] at h

theorem Token.not_isPunct_of_convert {token : Token} {value : Value} (h : convert arguments cwd a token = .ok value)
    (mark : Char) : token.isPunct mark = false := by
  cases token with
  | punct other => simp [convert] at h
  | _ => rfl

/-- The values in brackets are converted one by one. -/
theorem convertItems_eq_ok_iff {tokens : List Token} {items : List Value} :
    convertItems arguments cwd a tokens = .ok items ↔
      List.Forall₂ (fun token item => convert arguments cwd a token = .ok item) (tokens.filter (!·.isPlaceholder))
        items := by
  induction tokens generalizing items with
  | nil => simp [convertItems, eq_comm]
  | cons token rest ih =>
      by_cases hplaceholder : token.isPlaceholder = true
      · rw [convertItems, if_pos hplaceholder, ih, List.filter_cons_of_neg (by simp [hplaceholder])]
      · rw [List.filter_cons_of_pos (by simp [hplaceholder]), List.forall₂_cons_left_iff]
        constructor
        · intro h
          obtain ⟨value, values, hvalue, hvalues, rfl⟩ :=
            ((convertItems_cons h).resolve_left fun hskip => hplaceholder hskip.1).2
          exact ⟨value, values, hvalue, ih.mp hvalues, rfl⟩
        · rintro ⟨value, values, hvalue, hvalues, rfl⟩
          rw [convertItems, if_neg hplaceholder, hvalue, ih.mpr hvalues]
          rfl

/-- **What becomes of one group.** -/
theorem GroupValue.becomes_iff {group : GroupValue} {value? : Option Value} :
    group.Becomes arguments cwd a value? ↔
      group.isPlaceholder = true ∧ value? = none ∨
        group.isPlaceholder = false ∧ ∃ value, value? = some value ∧ convertGroup arguments cwd a group = .ok value := by
  constructor
  · rintro (hskip | ⟨hgiven, hitem⟩ | ⟨hlist, hitems⟩)
    · exact Or.inl ⟨hskip, rfl⟩
    · refine Or.inr ⟨Token.isPlaceholder_of_isGiven hgiven, _, rfl, ?_⟩
      rw [convertGroup, hitem]
      rfl
    · refine Or.inr ⟨rfl, _, rfl, ?_⟩
      rw [convertGroup, if_pos hlist, convertItems_eq_ok_iff.mpr hitems]
      rfl
  · rintro (⟨hskip, rfl⟩ | ⟨hplaceholder, value, rfl, hvalue⟩)
    · cases group with
      | single token => exact Becomes.skip hskip
      | list tokens => cases hskip
    · cases group with
      | single token =>
          obtain ⟨item, hitem, rfl⟩ := convertGroup_single hvalue
          exact Becomes.one (Token.isGiven_of_convert hplaceholder hitem) hitem
      | list tokens =>
          obtain ⟨hlist, items, hitems, rfl⟩ := convertGroup_list hvalue
          exact Becomes.list hlist (convertItems_eq_ok_iff.mp hitems)

/-- A group that something becomes of is one that can be written. -/
theorem GroupValue.Becomes.isWritten {group : Group} {value? : Option Value}
    (h : group.value.Becomes arguments cwd a value?) : group.IsWritten := by
  obtain ⟨name?, value⟩ := group
  cases h with
  | skip hskip => exact Or.inl hskip
  | one hgiven hitem => exact Or.inr hgiven
  | @list tokens items hlist hitems =>
      intro token htoken
      by_cases hplaceholder : token.isPlaceholder = true
      · exact (Token.ofHead_of_isPlaceholder_or_isGiven (Or.inl hplaceholder)).2 ']'
      · have hmem : token ∈ tokens.filter (!·.isPlaceholder) :=
          List.mem_filter.mpr ⟨htoken, by simpa using hplaceholder⟩
        have hpunct := (List.forall₂_and_left (p := fun token => token.isPunct ']' = false) _ _).mp
          (hitems.imp fun token item hitem => ⟨Token.not_isPunct_of_convert hitem ']', hitem⟩)
        exact hpunct.1 token hmem

end OneGroup

/-! ## Shares of a line -/

/-- The keys of a dictionary made from pairs are those of the pairs. -/
theorem Dict.contains_ofList_iff {α : Type} {entries : List (String × α)} {name : String} :
    Dict.contains name (Dict.ofList entries) = true ↔ name ∈ entries.map (·.1) := by
  induction entries using List.reverseRecOn with
  | nil => simp [Dict.ofList, Dict.contains, Dict.find?]
  | append_singleton others entry ih =>
      obtain ⟨key, value⟩ := entry
      rw [Dict.ofList_concat]
      by_cases hname : name = key
      · subst hname
        simp [Dict.contains]
      · rw [Dict.contains_insert_of_ne hname, ih]
        simp [hname]

/-- A group of a line, with the argument that it goes to. -/
structure Share where
  group : Group
  argument : Argument
  /-- Where the argument stands among the arguments. -/
  position : Nat
  /-- What the argument is bound to, if anything. -/
  value? : Option Value

namespace Share

/-- What a share adds to the bound arguments. -/
def entry? (s : Share) : Option (String × Value) :=
  s.value?.map fun value => (s.argument.name, value)

/-- What some shares add to the bound arguments. -/
def entries (shares : List Share) : List (String × Value) :=
  shares.filterMap entry?

/-- The names of the arguments that some shares bind, in their order. -/
def boundNames (shares : List Share) : List String :=
  (entries shares).map (·.1)

/-- The position behind the argument that was dealt a share last. -/
def behind (shares : List Share) : Nat :=
  (shares.getLast?.map (·.position + 1)).getD 0

/-- A share that may be dealt behind the shares `before`. -/
structure IsNext (c : Command) (cwd : String) (before : List Share) (s : Share) : Prop where
  /-- It goes to an argument of the command. -/
  stands : c.arguments[s.position]? = some s.argument
  /-- The argument has no value yet. -/
  fresh : s.argument.name ∉ boundNames before
  /-- A name is the name of that argument. -/
  named : ∀ name ∈ s.group.name, name = s.argument.name
  /-- Without a name it goes to the next argument in order: the first one behind the last share that may be given in
  order and has no value yet. -/
  inTurn : s.group.name = none → behind before ≤ s.position ∧ s.argument.isKeywordOnly = false ∧
    ∀ i a, behind before ≤ i → i < s.position → c.arguments[i]? = some a →
      a.isKeywordOnly = true ∨ a.name ∈ boundNames before
  /-- The argument is bound to what becomes of the group. -/
  becomes : s.group.value.Becomes c.arguments cwd s.argument s.value?
  /-- A placeholder without a name passes only an argument that may be left out. -/
  passes : s.group.name = none → s.value? = none → s.argument.isOptional = true

/-- Shares that are dealt one after the other. -/
def AreDealt (c : Command) (cwd : String) (shares : List Share) : Prop :=
  ∀ before s after, shares = before ++ s :: after → s.IsNext c cwd before

/-- What the walk over a line has come to when these shares are dealt. -/
def dealt (shares : List Share) : PartialBinding :=
  { bound := Dict.ofList (entries shares), slot := behind shares }

variable {c : Command} {cwd : String} {shares before : List Share} {s : Share}

/-- One more share is dealt. -/
theorem areDealt_concat_iff : AreDealt c cwd (shares ++ [s]) ↔ AreDealt c cwd shares ∧ s.IsNext c cwd shares := by
  constructor
  · intro h
    refine ⟨fun before t after hsplit => h before t (after ++ [s]) (by simp [hsplit]), h shares s [] rfl⟩
  · rintro ⟨hshares, hnext⟩ before t after hsplit
    rcases List.eq_nil_or_concat after with rfl | ⟨others, last, rfl⟩
    · obtain ⟨rfl, hlast⟩ := List.append_inj' hsplit rfl
      obtain rfl := List.singleton_inj.mp hlast
      exact hnext
    · rw [List.concat_eq_append, ← List.cons_append, ← List.append_assoc] at hsplit
      obtain ⟨rfl, -⟩ := List.append_inj' hsplit rfl
      exact hshares before t others rfl

/-- The bound arguments are those that are bound by a share. -/
theorem contains_dealt_iff {name : String} :
    Dict.contains name (dealt shares).bound = true ↔ name ∈ boundNames shares :=
  Dict.contains_ofList_iff

/-- The walk behind one more share. -/
theorem dealt_concat (shares : List Share) (s : Share) :
    dealt (shares ++ [s]) =
      { bound := match s.value? with
          | some value => Dict.insert s.argument.name value (dealt shares).bound
          | none => (dealt shares).bound
        slot := s.position + 1 } := by
  cases hvalue : s.value? <;> simp [dealt, entries, entry?, behind, hvalue, Dict.ofList_concat]

/-! ## The walk deals the line -/

theorem isOpen_dealt_iff {a : Argument} :
    isOpen (dealt before).bound a = false ↔ a.isKeywordOnly = true ∨ a.name ∈ boundNames before := by
  rw [← contains_dealt_iff]
  cases ha : a.isKeywordOnly <;> simp [isOpen, ha]

/-- The argument that a group goes to, and its position. -/
theorem target_dealt_iff (hnodup : (c.arguments.map (·.name)).Nodup) {name? : Option String} {i : Nat} {a : Argument} :
    (dealt before).target c name? = .ok (i, a) ↔
      c.arguments[i]? = some a ∧ a.name ∉ boundNames before ∧ (∀ name ∈ name?, name = a.name) ∧
        (name? = none → behind before ≤ i ∧ a.isKeywordOnly = false ∧
          ∀ j b, behind before ≤ j → j < i → c.arguments[j]? = some b →
            b.isKeywordOnly = true ∨ b.name ∈ boundNames before) := by
  cases name? with
  | none =>
      have hopen : isOpen (dealt before).bound a = true ↔ a.isKeywordOnly = false ∧ a.name ∉ boundNames before := by
        rw [← Bool.not_eq_false, isOpen_dealt_iff, not_or, Bool.not_eq_true]
      simp only [PartialBinding.target_none_eq_ok_iff, nextOpen?_eq_some_iff, hopen, isOpen_dealt_iff]
      constructor
      · rintro ⟨hle, ha, ⟨horder, hfresh⟩, hpassed⟩
        exact ⟨ha, hfresh, by simp, fun _ => ⟨hle, horder, hpassed⟩⟩
      · rintro ⟨ha, hfresh, -, hturn⟩
        obtain ⟨hle, horder, hpassed⟩ := hturn trivial
        exact ⟨hle, ha, ⟨horder, hfresh⟩, hpassed⟩
  | some name =>
      constructor
      · intro h
        obtain ⟨ha, hfresh⟩ := PartialBinding.of_target h
        have hfind : c.find? name = some (i, a) := by simp [Command.find?, PartialBinding.position?_of_target h, ha]
        refine ⟨ha, ?_, by simpa using (Command.name_of_find? hfind).symm, by simp⟩
        rw [← contains_dealt_iff, hfresh]
        decide
      · rintro ⟨ha, hfresh, hnamed, -⟩
        obtain rfl : name = a.name := hnamed name rfl
        obtain ⟨j, hfind⟩ := Command.find?_of_mem hnodup (List.mem_of_getElem? ha)
        have hunbound : Dict.contains a.name (dealt before).bound = false := by
          rwa [← contains_dealt_iff, Bool.not_eq_true] at hfresh
        have htarget : (dealt before).target c (some a.name) = .ok (j, a) := by
          simp [PartialBinding.target, hfind, hunbound]
        have hsame : j = i := by
          by_contra hne
          exact name_ne_of_getElem? hnodup (PartialBinding.of_target htarget).1 ha hne rfl
        rw [htarget, hsame]

/-- What is given to an argument is what becomes of the group. -/
theorem give_dealt_iff {group : Group} {i : Nat} {a : Argument} {q : PartialBinding} :
    (dealt before).give c cwd group i a = .ok q ↔
      ∃ value?, group.value.Becomes c.arguments cwd a value? ∧
        (group.name = none → value? = none → a.isOptional = true) ∧
        q = dealt (before ++ [{ group, argument := a, position := i, value? }]) := by
  simp only [GroupValue.becomes_iff, dealt_concat]
  by_cases hplaceholder : group.value.isPlaceholder = true
  · have hpasses : (group.name.isSome || a.isOptional) = true ↔ (group.name = none → a.isOptional = true) := by
      cases group.name <;> simp
    rw [PartialBinding.give, if_pos hplaceholder]
    constructor
    · intro h
      split at h
      · next hpass =>
          cases h
          exact ⟨none, Or.inl ⟨hplaceholder, rfl⟩, fun hname _ => hpasses.mp hpass hname, rfl⟩
      · cases h
    · rintro ⟨value?, ⟨-, rfl⟩ | ⟨hvalue, -⟩, hpass, rfl⟩
      · rw [if_pos (hpasses.mpr fun hname => hpass hname rfl)]
      · rw [hplaceholder] at hvalue
        cases hvalue
  · rw [PartialBinding.give, if_neg hplaceholder]
    constructor
    · intro h
      split at h
      · cases h
      · next value hvalue =>
          cases h
          have hgiven : group.value.isPlaceholder = false := by simpa using hplaceholder
          exact ⟨some value, Or.inr ⟨hgiven, value, rfl, hvalue⟩, by simp, rfl⟩
    · rintro ⟨value?, ⟨hskip, -⟩ | ⟨-, value, rfl, hvalue⟩, -, rfl⟩
      · exact absurd hskip hplaceholder
      · rw [hvalue]

/-- **One step of the walk deals one share.** -/
theorem take_eq_ok_iff (hnodup : (c.arguments.map (·.name)).Nodup) {group : Group} {q : PartialBinding} :
    (dealt before).take c cwd group = .ok q ↔
      ∃ s : Share, s.group = group ∧ s.IsNext c cwd before ∧ q = dealt (before ++ [s]) := by
  constructor
  · intro h
    unfold PartialBinding.take at h
    split at h
    · cases h
    · next i a htarget =>
        obtain ⟨hstands, hfresh, hnamed, hturn⟩ := (target_dealt_iff hnodup).mp htarget
        obtain ⟨value?, hbecomes, hpasses, rfl⟩ := give_dealt_iff.mp h
        exact ⟨{ group, argument := a, position := i, value? }, rfl,
          ⟨hstands, hfresh, hnamed, hturn, hbecomes, hpasses⟩, rfl⟩
  · rintro ⟨s, rfl, hnext, rfl⟩
    have htarget := (target_dealt_iff hnodup).mpr ⟨hnext.stands, hnext.fresh, hnext.named, hnext.inTurn⟩
    rw [PartialBinding.take, htarget]
    exact give_dealt_iff.mpr ⟨s.value?, hnext.becomes, hnext.passes, rfl⟩

/-- **The walk deals the line,** share by share. -/
theorem foldlM_take_eq_ok_iff (hnodup : (c.arguments.map (·.name)).Nodup) {groups : List Group} {q : PartialBinding} :
    groups.foldlM (PartialBinding.take c cwd) {} = .ok q ↔
      ∃ shares : List Share, shares.map (·.group) = groups ∧ AreDealt c cwd shares ∧ q = dealt shares := by
  induction groups using List.reverseRecOn generalizing q with
  | nil =>
      constructor
      · intro h
        cases h
        exact ⟨[], rfl, by simp [AreDealt], rfl⟩
      · rintro ⟨shares, hshares, -, rfl⟩
        obtain rfl := List.map_eq_nil_iff.mp hshares
        rfl
  | append_singleton groups group ih =>
      constructor
      · intro h
        obtain ⟨p, hgroups, hgroup⟩ := PartialBinding.exists_of_foldlM_concat h
        obtain ⟨shares, rfl, hdealt, rfl⟩ := ih.mp hgroups
        obtain ⟨s, rfl, hnext, rfl⟩ := (take_eq_ok_iff hnodup).mp hgroup
        exact ⟨shares ++ [s], by simp, areDealt_concat_iff.mpr ⟨hdealt, hnext⟩, rfl⟩
      · rintro ⟨all, hall, hdealt, rfl⟩
        obtain ⟨shares, last, rfl, rfl, hlast⟩ := List.map_eq_append_iff.mp hall
        obtain ⟨s, rfl, rfl⟩ := List.map_eq_singleton_iff.mp hlast
        obtain ⟨hshares, hnext⟩ := areDealt_concat_iff.mp hdealt
        rw [PartialBinding.foldlM_append_of_ok (ih.mpr ⟨shares, rfl, hshares, rfl⟩), List.foldlM_cons,
          (take_eq_ok_iff hnodup).mpr ⟨s, rfl, hnext, rfl⟩]
        rfl

/-- No argument is bound twice. -/
theorem AreDealt.nodup_boundNames (h : AreDealt c cwd shares) : (boundNames shares).Nodup := by
  induction shares using List.reverseRecOn with
  | nil => exact List.nodup_nil
  | append_singleton others s ih =>
      obtain ⟨hothers, hnext⟩ := areDealt_concat_iff.mp h
      cases hvalue : s.value? with
      | none => simpa [boundNames, entries, entry?, hvalue] using ih hothers
      | some value =>
          have hnames : boundNames (others ++ [s]) = boundNames others ++ [s.argument.name] := by
            simp [boundNames, entries, entry?, hvalue]
          rw [hnames, ← List.concat_eq_append, List.nodup_concat]
          exact ⟨hnext.fresh, ih hothers⟩

end Share

/-- The question at the end of a line has the answer that nothing is missing. -/
theorem PartialBinding.finish_eq_ok_iff {c : Command} {p : PartialBinding} {args : Arguments} :
    p.finish c = .ok args ↔
      (∀ a ∈ c.arguments, a.isOptional = false → Dict.contains a.name p.bound = true) ∧ args = p.bound := by
  have hmissing : missing? c.arguments p.bound = none ↔
      ∀ a ∈ c.arguments, a.isOptional = false → Dict.contains a.name p.bound = true := by
    simp [missing?]
  rw [← hmissing]
  unfold finish
  split
  · next a ha => simp [ha]
  · next hnone => simp [hnone, eq_comm]

/-- **What a line that binds comes to.** Let a declaration pass its check. A line binds to some arguments exactly if all
this holds:

* What is bound belongs to arguments of the command.
* Every argument that is needed is bound.
* Each is bound to a value of its kind.
* Every quoted text has its closing mark.
* The line can be cut into shares, with nothing left over, that are dealt to arguments in turn, or by their names. Each
  share is a placeholder, or becomes what its argument is bound to: a value, or the values of a list one by one. No
  argument is bound twice, and nothing else is bound. -/
theorem Command.bind_conserves {c : Command} (hcheck : c.check = .ok ()) (tokens : List Token) (cwd : String)
    (args : Arguments) :
    c.bind tokens cwd = .ok args ↔
      (∀ name, Dict.contains name args = true → ∃ a ∈ c.arguments, a.name = name) ∧
        (∀ a ∈ c.arguments, a.isOptional = false → Dict.contains a.name args = true) ∧
        (∀ a ∈ c.arguments, ∀ value, Dict.find? a.name args = some value → a.Holds value) ∧
        (∀ token ∈ tokens, token.isUnterminated = false) ∧
        ∃ shares : List Share,
          Group.MakeUp (shares.map (·.group)) tokens ∧
          Share.AreDealt c cwd shares ∧
          (Share.boundNames shares).Nodup ∧
          args = Dict.ofList (Share.entries shares) := by
  have hnodup : (c.arguments.map (·.name)).Nodup := Command.nodup_of_check hcheck
  have hclosed : tokens.find? (·.isUnterminated) = none ↔ ∀ token ∈ tokens, token.isUnterminated = false := by simp
  constructor
  · intro hbind
    obtain ⟨hbinds, -⟩ := Command.binds_of_bind hbind
    rw [Command.bind_eq_advance] at hbind
    cases hadvance : c.advance tokens cwd with
    | error e =>
        rw [hadvance] at hbind
        cases hbind
    | ok p =>
        rw [hadvance] at hbind
        obtain ⟨hneeded, rfl⟩ := PartialBinding.finish_eq_ok_iff.mp hbind
        obtain ⟨hterminated, hwalk⟩ := Command.advance_eq_ok hadvance
        obtain ⟨shares, hgroups, hdealt, rfl⟩ := (Share.foldlM_take_eq_ok_iff hnodup).mp hwalk
        refine ⟨?_, hneeded, fun a ha value hfind => hbinds.holds_of_find? hnodup ha hfind, hclosed.mp hterminated,
          shares, hgroups ▸ Group.makeUp_ofTokens tokens, hdealt, hdealt.nodup_boundNames, rfl⟩
        intro name hname
        obtain ⟨value, hfind⟩ := Option.isSome_iff_exists.mp hname
        obtain ⟨a, ha, hsame, -⟩ := hbinds.holds name value hfind
        exact ⟨a, ha, hsame⟩
  · rintro ⟨-, hneeded, -, hterminated, shares, hline, hdealt, -, rfl⟩
    have hwritten : ∀ group ∈ shares.map (·.group), group.IsWritten := by
      intro group hgroup
      obtain ⟨s, hs, rfl⟩ := List.mem_map.mp hgroup
      obtain ⟨before, after, hsplit⟩ := List.append_of_mem hs
      exact (hdealt before s after hsplit).becomes.isWritten
    have hwalk := (Share.foldlM_take_eq_ok_iff hnodup).mpr
      ⟨shares, ((Group.ofTokens_eq_iff hwritten).mpr hline).symm, hdealt, rfl⟩
    rw [Command.bind_eq_advance, Command.advance, hclosed.mpr hterminated]
    dsimp only
    rw [hwalk]
    exact PartialBinding.finish_eq_ok_iff.mpr ⟨hneeded, rfl⟩

/-- A list in brackets with a placeholder in it is given by name first. From there the line goes back to the first
argument, and on to those that have no value yet. -/
theorem Command.bind_conserves_copy :
    ∃ (c : Command) (tokens : List Token) (args : Arguments),
      c.arguments = [.path "dstgroup" "group path", .path "srcgroup" "group path", (Argument.text "users").list,
        (Argument.keyValue "rename").list.optional] ∧
      tokens = tokenize "users=[ann - \"bob smith\"] dstgroup=../b /g \"ann : x\"" ∧
      c.check = .ok () ∧ c.bind tokens "/home/a" = .ok args ∧
      args = [("dstgroup", .str "/home/b"), ("rename", .list [.pair "ann" "x"]), ("srcgroup", .str "/g"),
        ("users", .list [.str "ann", .str "bob smith"])] ∧
      ∃ shares : List Share,
        Group.MakeUp (shares.map (·.group)) tokens ∧
        Share.AreDealt c "/home/a" shares ∧
        (Share.boundNames shares).Nodup ∧
        args = Dict.ofList (Share.entries shares) := by
  have hcheck : Command.check { name := "copy", help := "", arguments := [.path "dstgroup" "group path",
      .path "srcgroup" "group path", (Argument.text "users").list, (Argument.keyValue "rename").list.optional] } =
      .ok () := rfl
  have hbind := eq_ok_of_toOption (show (Command.bind { name := "copy", help := "", arguments := [
      .path "dstgroup" "group path", .path "srcgroup" "group path", (Argument.text "users").list,
      (Argument.keyValue "rename").list.optional] }
      (tokenize "users=[ann - \"bob smith\"] dstgroup=../b /g \"ann : x\"") "/home/a").toOption =
    some [("dstgroup", .str "/home/b"), ("rename", .list [.pair "ann" "x"]), ("srcgroup", .str "/g"),
      ("users", .list [.str "ann", .str "bob smith"])] by decide +kernel)
  obtain ⟨-, -, -, -, hshares⟩ := (Command.bind_conserves hcheck _ _ _).mp hbind
  exact ⟨_, _, _, rfl, rfl, hcheck, hbind, rfl, hshares⟩

end RemoteShell
