import RemoteShell.Proofs.Binding.Operand
import RemoteShell.Proofs.Binding.Position
import RemoteShell.Token.Scan

/-!
# In order or by name

A line may give its values in order or by name. In order, a value goes to the next argument that is not only given by
name, and a placeholder passes one that may be left out. By name, the value is written behind the name of that argument,
and where an argument is passed nothing is written at all. Both lines are bound to the same arguments, or refused with
the same error: they convert the same values for the same arguments one after the other, and nothing else on them can go
wrong.

Main statements:

* `nextOpen?_of_inOrder`: which argument is next, if none from here on has a value.
* `Command.bindGroups_inOrder`: in order or by name, from any position on.
* `Command.bind_inOrder_eq_named`: the same for the tokens of a line.
-/

namespace RemoteShell

/-- The arguments that are given in order. -/
def inOrder (arguments : List Argument) : List Argument :=
  arguments.filter (!·.isKeywordOnly)

/-- What a line has for one argument where values are given in order: a placeholder that passes it, or a value. -/
inductive PositionalOperand where
  | skip (token : Token) (hskip : token.isPlaceholder = true)
  | value (operand : Operand)

namespace PositionalOperand

/-- Whether the argument is passed. -/
def isSkip : PositionalOperand → Bool
  | .skip _ _ => true
  | .value _ => false

/-- The tokens where values are given in order. -/
def tokens : PositionalOperand → List Token
  | .skip token _ => [token]
  | .value operand => operand.tokens none

/-- The tokens where values are given by name. -/
def tokensNamed (a : Argument) : PositionalOperand → List Token
  | .skip _ _ => []
  | .value operand => operand.tokens (some a.name)

/-- The group where values are given in order. -/
def group : PositionalOperand → Group
  | .skip token _ => { name := none, value := .single token }
  | .value operand => { name := none, value := operand.value }

/-- The group where values are given by name, if there is one. -/
def groupNamed? (a : Argument) : PositionalOperand → Option Group
  | .skip _ _ => none
  | .value operand => some { name := some a.name, value := operand.value }

end PositionalOperand

/-- The groups of values for some arguments, given by name. -/
def namedGroups (arguments : List Argument) (operands : List PositionalOperand) : List Group :=
  (arguments.zip operands).filterMap fun pair => pair.2.groupNamed? pair.1

/-- The tokens of values for some arguments, given by name. -/
def namedTokens (arguments : List Argument) (operands : List PositionalOperand) : List Token :=
  (arguments.zip operands).flatMap fun pair => pair.2.tokensNamed pair.1

/-- Values given by name have one. -/
theorem name_of_mem_namedGroups {arguments : List Argument} {operands : List PositionalOperand} {group : Group}
    (h : group ∈ namedGroups arguments operands) : group.name.isSome = true := by
  obtain ⟨⟨a, operand⟩, -, hgroup⟩ := List.mem_filterMap.mp h
  cases operand with
  | skip token hskip => cases hgroup
  | value operand =>
      cases hgroup
      rfl

/-! ## Binding groups -/

/-- The next argument is the next one that is given in order, if none from here on has a value. -/
theorem nextOpen?_of_inOrder {arguments rest : List Argument} {bound : Arguments} {slot : Nat} {a : Argument}
    (h : inOrder (arguments.drop slot) = a :: rest)
    (hfresh : ∀ b ∈ inOrder (arguments.drop slot), Dict.contains b.name bound = false) :
    ∃ i, nextOpen? arguments bound slot = some (i, a) ∧ inOrder (arguments.drop (i + 1)) = rest := by
  have ha : Dict.contains a.name bound = false := hfresh a (by simp [h])
  obtain ⟨passed, behind, hdrop, hpassed, hkeyword, hrest⟩ := List.filter_eq_cons_iff.mp h
  have hget : ∀ j, arguments[slot + j]? = (passed ++ a :: behind)[j]? := by
    intro j
    rw [← List.getElem?_drop, hdrop]
  refine ⟨slot + passed.length, nextOpen?_eq_some_iff.mpr ⟨Nat.le_add_right _ _, ?_, ?_, ?_⟩, ?_⟩
  · simp [hget]
  · simpa [isOpen, ha] using hkeyword
  · intro j b hj hlt hb
    obtain ⟨k, rfl⟩ := Nat.exists_eq_add_of_le hj
    rw [hget, List.getElem?_append_left (by omega)] at hb
    simp [isOpen, hpassed b (List.mem_of_getElem? hb)]
  · have hbehind : arguments.drop (slot + passed.length + 1) = behind := by
      rw [Nat.add_assoc, ← List.drop_drop, hdrop, ← List.drop_drop, List.drop_left, List.drop_one, List.tail_cons]
    rw [hbehind]
    exact hrest

namespace Command

variable {c : Command} {cwd : String} {a : Argument} {i : Nat}

/-- A value is bound to the argument that its group goes to, however the group came to it. -/
theorem bindGroups_of_target {p : PartialBinding} (group : Group) (htarget : p.target c group.name = .ok (i, a))
    (hplaceholder : group.value.isPlaceholder = false) (rest : List Group) :
    bindGroups c cwd p.bound p.slot (group :: rest) =
      convertGroup c.arguments cwd a group.value >>= fun value =>
        bindGroups c cwd (Dict.insert a.name value p.bound) (i + 1) rest := by
  rw [PartialBinding.bindGroups_take, PartialBinding.take, htarget]
  simp only [PartialBinding.give, hplaceholder]
  cases convertGroup c.arguments cwd a group.value <;> rfl

/-- A placeholder passes an argument that may be left out. -/
theorem bindGroups_skip {bound : Arguments} {slot : Nat} {token : Token} (hskip : token.isPlaceholder = true)
    (hnext : nextOpen? c.arguments bound slot = some (i, a)) (hoptional : a.isOptional = true) (rest : List Group) :
    bindGroups c cwd bound slot ({ name := none, value := .single token } :: rest) =
      bindGroups c cwd bound (i + 1) rest := by
  simp [bindGroups, hnext, GroupValue.isPlaceholder, hskip, hoptional]

/-- A value behind a name is bound to the argument of that name. What follows is bound from behind it. -/
theorem exists_bindGroups_named (cwd : String) (hnodup : (c.arguments.map (·.name)).Nodup) (ha : a ∈ c.arguments)
    {bound : Arguments} (hfresh : Dict.contains a.name bound = false) {value : GroupValue}
    (hplaceholder : value.isPlaceholder = false) :
    ∃ j, ∀ (slot : Nat) (rest : List Group),
      bindGroups c cwd bound slot ({ name := some a.name, value } :: rest) =
        convertGroup c.arguments cwd a value >>= fun v =>
          bindGroups c cwd (Dict.insert a.name v bound) (j + 1) rest := by
  obtain ⟨j, hfind⟩ := find?_of_mem hnodup ha
  refine ⟨j, fun slot rest => ?_⟩
  have htarget : ({ bound, slot } : PartialBinding).target c (some a.name) = .ok (j, a) := by
    simp [PartialBinding.target, hfind, hfresh]
  exact bindGroups_of_target { name := some a.name, value } htarget hplaceholder rest

/-- **In order or by name,** from any position on: the groups are bound to the same values, or refused with the same
error. -/
theorem bindGroups_inOrder (hnodup : (c.arguments.map (·.name)).Nodup) {operands : List PositionalOperand}
    {bound : Arguments} {slot : Nat} (hlength : operands.length ≤ (inOrder (c.arguments.drop slot)).length)
    (hskip : ∀ pair ∈ (inOrder (c.arguments.drop slot)).zip operands, pair.2.isSkip = true → pair.1.isOptional = true)
    (hfresh : ∀ a ∈ inOrder (c.arguments.drop slot), Dict.contains a.name bound = false) :
    bindGroups c cwd bound slot (operands.map (·.group)) =
      bindGroups c cwd bound slot (namedGroups (inOrder (c.arguments.drop slot)) operands) := by
  induction operands generalizing bound slot with
  | nil => simp [namedGroups]
  | cons operand rest ih =>
      cases harguments : inOrder (c.arguments.drop slot) with
      | nil => simp [harguments] at hlength
      | cons a others =>
          have hdistinct : ((inOrder (c.arguments.drop slot)).map (·.name)).Nodup :=
            hnodup.sublist ((List.filter_sublist.trans (List.drop_sublist slot c.arguments)).map _)
          obtain ⟨i, hnext, rfl⟩ := nextOpen?_of_inOrder harguments hfresh
          rw [harguments] at hlength hskip hfresh hdistinct
          obtain ⟨hskipFirst, hskipRest⟩ := List.forall_mem_cons.mp hskip
          obtain ⟨hfreshFirst, hfreshRest⟩ := List.forall_mem_cons.mp hfresh
          have hlengthRest : rest.length ≤ (inOrder (c.arguments.drop (i + 1))).length := by simpa using hlength
          -- What follows by name is bound from any position.
          have hanywhere : ∀ bound first second,
              bindGroups c cwd bound first (namedGroups (inOrder (c.arguments.drop (i + 1))) rest) =
                bindGroups c cwd bound second (namedGroups (inOrder (c.arguments.drop (i + 1))) rest) :=
            fun bound => bindGroups_of_head_named fun group hgroup =>
              name_of_mem_namedGroups (List.mem_of_mem_head? hgroup)
          cases operand with
          | skip token htoken =>
              calc bindGroups c cwd bound slot ({ name := none, value := .single token } :: rest.map (·.group))
                  = bindGroups c cwd bound (i + 1) (rest.map (·.group)) :=
                    bindGroups_skip htoken hnext (hskipFirst rfl) _
                _ = bindGroups c cwd bound (i + 1) (namedGroups (inOrder (c.arguments.drop (i + 1))) rest) :=
                    ih hlengthRest hskipRest hfreshRest
                _ = bindGroups c cwd bound slot (namedGroups (inOrder (c.arguments.drop (i + 1))) rest) :=
                    hanywhere bound _ _
          | value operand =>
              have htarget : ({ bound, slot } : PartialBinding).target c none = .ok (i, a) :=
                PartialBinding.target_none_eq_ok_iff.mpr hnext
              obtain ⟨j, hnamed⟩ := exists_bindGroups_named cwd hnodup
                (List.mem_of_getElem? (nextOpen?_eq_some_iff.mp hnext).2.1) hfreshFirst operand.not_isPlaceholder_value
              have hrest : ∀ v, bindGroups c cwd (Dict.insert a.name v bound) (i + 1) (rest.map (·.group)) =
                  bindGroups c cwd (Dict.insert a.name v bound) (j + 1)
                    (namedGroups (inOrder (c.arguments.drop (i + 1))) rest) := by
                intro v
                refine (ih hlengthRest hskipRest ?_).trans (hanywhere _ _ _)
                intro b hb
                have hne : b.name ≠ a.name :=
                  fun hname => (List.nodup_cons.mp hdistinct).1 (List.mem_map.mpr ⟨b, hb, hname⟩)
                rw [Dict.contains_insert_of_ne hne]
                exact hfreshRest b hb
              calc bindGroups c cwd bound slot ({ name := none, value := operand.value } :: rest.map (·.group))
                  = convertGroup c.arguments cwd a operand.value >>= fun v =>
                      bindGroups c cwd (Dict.insert a.name v bound) (i + 1) (rest.map (·.group)) :=
                    bindGroups_of_target { name := none, value := operand.value } htarget
                      operand.not_isPlaceholder_value _
                _ = bindGroups c cwd bound slot ({ name := some a.name, value := operand.value } ::
                      namedGroups (inOrder (c.arguments.drop (i + 1))) rest) := by
                    simp only [hrest, hnamed]

/-! ## Binding lines -/

/-- The groups of a line that gives its values in order. -/
theorem ofTokens_inOrder (operands : List PositionalOperand) :
    Group.ofTokens (operands.flatMap (·.tokens)) = operands.map (·.group) := by
  induction operands with
  | nil => simp [Group.ofTokens]
  | cons operand rest ih =>
      rw [List.flatMap_cons, List.map_cons, ← ih]
      cases operand with
      | skip token hskip =>
          have hbracket : (Group.ofHead token).2.isPunct '[' = false ∧ Group.ofHead token = (none, token) := by
            rw [Token.eq_word_of_isPlaceholder hskip]
            exact ⟨rfl, rfl⟩
          exact (Group.ofTokens_cons_of_not_bracket hbracket.1 _).trans (by rw [hbracket.2]; rfl)
      | value operand => exact operand.ofTokens_tokens none _

/-- The groups of a line that gives its values by name. -/
theorem ofTokens_namedTokens (arguments : List Argument) (operands : List PositionalOperand) :
    Group.ofTokens (namedTokens arguments operands) = namedGroups arguments operands := by
  unfold namedTokens namedGroups
  induction arguments.zip operands with
  | nil => simp [Group.ofTokens]
  | cons pair rest ih =>
      obtain ⟨a, operand⟩ := pair
      cases operand with
      | skip token hskip => exact ih
      | value operand => exact (operand.ofTokens_tokens (some a.name) _).trans (congrArg _ ih)

/-- Whether values are given in order or by name, the same text is the first without a closing mark. -/
theorem unterminated?_namedTokens {arguments : List Argument} {operands : List PositionalOperand}
    (hlength : operands.length ≤ arguments.length) :
    unterminated? (namedTokens arguments operands) = unterminated? (operands.flatMap (·.tokens)) := by
  induction operands generalizing arguments with
  | nil => simp [namedTokens]
  | cons operand rest ih =>
      cases arguments with
      | nil => simp at hlength
      | cons a others =>
          have hrest := ih (show rest.length ≤ others.length by simpa using hlength)
          rw [List.flatMap_cons, unterminated?_append, ← hrest]
          cases operand with
          | skip token hskip =>
              have hclosed : unterminated? [token] = none := by
                rw [Token.eq_word_of_isPlaceholder hskip]
                rfl
              show _ = (unterminated? [token]).or _
              rw [hclosed]
              rfl
          | value operand =>
              show _ = (unterminated? (operand.tokens none)).or _
              rw [← operand.unterminated?_tokens (some a.name), ← unterminated?_append]
              rfl

/-- **In order or by name, a line is bound to the same arguments, or refused with the same error.** Let a declaration
pass its check, and a line give values in order: words and quoted texts that stand for themselves, closed lists, and
placeholders where an argument may be left out, no more of them than there are arguments given in order. The line that
gives the same values behind the names of these arguments, and leaves the placeholders away, comes to the same
result. -/
theorem bind_inOrder_eq_named (hcheck : c.check = .ok ()) {operands : List PositionalOperand}
    (hlength : operands.length ≤ (inOrder c.arguments).length)
    (hskip : ∀ pair ∈ (inOrder c.arguments).zip operands, pair.2.isSkip = true → pair.1.isOptional = true)
    (cwd : String) :
    c.bind (operands.flatMap (·.tokens)) cwd = c.bind (namedTokens (inOrder c.arguments) operands) cwd := by
  have hgroups : bindGroups c cwd [] 0 (operands.map (·.group)) =
      bindGroups c cwd [] 0 (namedGroups (inOrder c.arguments) operands) :=
    bindGroups_inOrder (nodup_of_check hcheck) hlength hskip fun _ _ => rfl
  rw [bind_eq_unterminated, bind_eq_unterminated, unterminated?_namedTokens hlength, ofTokens_inOrder,
    ofTokens_namedTokens, hgroups]

/-- An argument that is only given by name stands between those given in order, and one of these is passed. The second
line has a value that its argument does not take. -/
theorem bind_inOrder_eq_named_copy :
    ∃ (c : Command) (operands faulty : List PositionalOperand) (args : Arguments),
      c.arguments = [.path "group" "group path", ((Argument.text "note").keywordOnly).optional,
        (Argument.literal "force").optional, (Argument.keyValue "rename").list.optional] ∧ c.check = .ok () ∧
      operands.flatMap (·.tokens) = tokenize "../b - [ann:x \"bob : y\"]" ∧
      namedTokens (inOrder c.arguments) operands = tokenize "group=../b rename=[ann:x \"bob : y\"]" ∧
      args = [("group", .str "/home/b"), ("rename", .list [.pair "ann" "x", .pair "bob" "y"])] ∧
      c.bind (operands.flatMap (·.tokens)) "/home/a" = .ok args ∧
      c.bind (namedTokens (inOrder c.arguments) operands) "/home/a" = .ok args ∧
      faulty.flatMap (·.tokens) = tokenize "../b quickly" ∧
      namedTokens (inOrder c.arguments) faulty = tokenize "group=../b force=quickly" ∧
      c.bind (faulty.flatMap (·.tokens)) "/home/a" = .error (.invalidLiteral "force" "quickly") ∧
      c.bind (namedTokens (inOrder c.arguments) faulty) "/home/a" = .error (.invalidLiteral "force" "quickly") := by
  let c : Command := { name := "copy", help := "", arguments := [.path "group" "group path",
    ((Argument.text "note").keywordOnly).optional, (Argument.literal "force").optional,
    (Argument.keyValue "rename").list.optional] }
  let group : PositionalOperand := .value (.text (.word "../b") (by decide))
  let operands : List PositionalOperand := [group, .skip (.word "-") (by decide),
    .value (.list [.word "ann:x", Token.closedQuote "bob : y" '"'] (by decide))]
  let faulty : List PositionalOperand := [group, .value (.text (.word "quickly") (by decide))]
  have hcheck : c.check = .ok () := rfl
  have hbind : c.bind (operands.flatMap (·.tokens)) "/home/a" =
      .ok [("group", .str "/home/b"), ("rename", .list [.pair "ann" "x", .pair "bob" "y"])] := by decide +kernel
  have hfault : c.bind (faulty.flatMap (·.tokens)) "/home/a" = .error (.invalidLiteral "force" "quickly") := by
    decide +kernel
  have hsame : c.bind (operands.flatMap (·.tokens)) "/home/a" =
      c.bind (namedTokens (inOrder c.arguments) operands) "/home/a" :=
    bind_inOrder_eq_named hcheck (by decide) (by decide) "/home/a"
  have hsameFault : c.bind (faulty.flatMap (·.tokens)) "/home/a" =
      c.bind (namedTokens (inOrder c.arguments) faulty) "/home/a" :=
    bind_inOrder_eq_named hcheck (by decide) (by decide) "/home/a"
  exact ⟨c, operands, faulty, _, rfl, hcheck, by decide +kernel, by decide +kernel, rfl, hbind, hsame.symm.trans hbind,
    by decide +kernel, by decide +kernel, hfault, hsameFault.symm.trans hfault⟩

end Command

end RemoteShell
