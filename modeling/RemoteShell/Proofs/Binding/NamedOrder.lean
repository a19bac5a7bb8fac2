import Mathlib.Data.List.Perm.Basic
import RemoteShell.Proofs.Binding.Operand
import RemoteShell.Token.Scan

/-!
# The order of names

On a line where every value has a name, the order of the values is free. Whether a name is known, given twice, or given
a value that its argument does not take is the same wherever it stands; and what is bound in the end is a dictionary, to
which two entries with different names are added in either order. The position in the list of arguments moves with every
name, but nothing on such a line asks for it. Only which of several faults is reported may change.

Main statements:

* `Command.give?_comm`: two values with their names are bound in either order.
* `Command.toOption_bindGroups_named`: a line of names is bound value by value.
* `Command.bind_named_perm`: the order of names does not matter.
-/

namespace RemoteShell

/-- A value as it is written behind a name. -/
structure NamedOperand where
  name : String
  operand : Operand

namespace NamedOperand

/-- The tokens of the value behind its name. -/
def tokens (g : NamedOperand) : List Token :=
  g.operand.tokens (some g.name)

/-- The value and its name as a group of the line. -/
def group (g : NamedOperand) : Group :=
  { name := some g.name, value := g.operand.value }

/-- The groups of a line where every value has a name. -/
theorem ofTokens_flatMap (groups : List NamedOperand) :
    Group.ofTokens (groups.flatMap tokens) = groups.map group := by
  induction groups with
  | nil => rw [List.flatMap_nil, Group.ofTokens, List.map_nil]
  | cons g rest ih => rw [List.flatMap_cons, tokens, Operand.ofTokens_tokens, ih, List.map_cons, group]

end NamedOperand

namespace Command

variable {c : Command} {cwd : String}

/-- What a value is converted into for the argument of its name. What is bound by then plays no part in it. -/
def read? (c : Command) (cwd : String) (g : NamedOperand) : Option Value := do
  let (_, a) ← c.find? g.name
  (convertGroup c.arguments cwd a g.operand.value).toOption

/-- Binds a value to its name, if the argument takes it and has no value yet. -/
def give? (c : Command) (cwd : String) (bound : Arguments) (g : NamedOperand) : Option Arguments :=
  if Dict.contains g.name bound then none else (c.read? cwd g).map fun value => Dict.insert g.name value bound

/-- Of two values for one name the second is refused. -/
theorem give?_twice {g h : NamedOperand} (hsame : g.name = h.name) (bound : Arguments) :
    (c.give? cwd bound g >>= fun after => c.give? cwd after h) = none := by
  cases hfirst : c.give? cwd bound g with
  | none => rfl
  | some after =>
      have hbound : Dict.contains h.name after = true := by
        simp only [give?] at hfirst
        split at hfirst
        · cases hfirst
        · obtain ⟨value, -, rfl⟩ := Option.map_eq_some_iff.mp hfirst
          simp [Dict.contains, hsame]
      simp [give?, hbound]

/-- Two values with different names are bound if both can be read and neither argument has a value yet. -/
theorem give?_give? {g h : NamedOperand} (hne : g.name ≠ h.name) (bound : Arguments) :
    (c.give? cwd bound g >>= fun after => c.give? cwd after h) =
      if Dict.contains g.name bound || Dict.contains h.name bound then none
      else (c.read? cwd g).bind fun value => (c.read? cwd h).map fun other =>
        Dict.insert h.name other (Dict.insert g.name value bound) := by
  by_cases hbound : Dict.contains g.name bound = true
  · simp [give?, hbound]
  · cases hread : c.read? cwd g with
    | none => simp [give?, hread]
    | some value => simp [give?, hbound, hread, Dict.contains_insert_of_ne hne.symm]

/-- **Two values with their names are bound in either order,** or in neither. -/
theorem give?_comm (bound : Arguments) (g h : NamedOperand) :
    (c.give? cwd bound g >>= fun after => c.give? cwd after h) =
      (c.give? cwd bound h >>= fun after => c.give? cwd after g) := by
  by_cases hsame : g.name = h.name
  · rw [give?_twice hsame, give?_twice hsame.symm]
  · rw [give?_give? hsame, give?_give? (Ne.symm hsame), Bool.or_comm]
    cases c.read? cwd g with
    | none => simp
    | some value =>
        cases c.read? cwd h with
        | none => simp
        | some other => simp [Dict.insert_comm hsame]

/-- Any number of values with their names are bound in any order, or in none. -/
theorem foldlM_give?_perm {groups groups' : List NamedOperand} (hperm : groups.Perm groups') (bound : Arguments) :
    groups.foldlM (c.give? cwd) bound = groups'.foldlM (c.give? cwd) bound := by
  induction hperm generalizing bound with
  | nil => rfl
  | cons g _ ih =>
      rw [List.foldlM_cons, List.foldlM_cons]
      exact bind_congr fun after => ih after
  | swap g h rest =>
      simp only [List.foldlM_cons, ← bind_assoc]
      rw [give?_comm]
  | trans _ _ ihFirst ihSecond => exact (ihFirst bound).trans (ihSecond bound)

/-- **A line of names is bound value by value,** and the position it has come to plays no part in it. -/
theorem toOption_bindGroups_named (bound : Arguments) (slot : Nat) (groups : List NamedOperand) :
    (bindGroups c cwd bound slot (groups.map NamedOperand.group)).toOption =
      groups.foldlM (c.give? cwd) bound >>= fun args => (bindGroups c cwd args 0 []).toOption := by
  induction groups generalizing bound slot with
  | nil => rfl
  | cons g rest ih =>
      rw [List.map_cons, List.foldlM_cons, NamedOperand.group, bindGroups, give?, read?]
      cases hfind : c.find? g.name with
      | none => simp [Except.toOption]
      | some found =>
          obtain ⟨i, a⟩ := found
          have hname : a.name = g.name := name_of_find? hfind
          by_cases hbound : Dict.contains g.name bound = true
          · simp [hbound, Except.toOption]
          · cases hvalue : convertGroup c.arguments cwd a g.operand.value with
            | error e => simp [hbound, hvalue, g.operand.not_isPlaceholder_value, Except.toOption]
            | ok value =>
                have hread : (Except.ok value : Except ParseError Value).toOption = some value := rfl
                simpa [hbound, hvalue, hread, g.operand.not_isPlaceholder_value, hname] using ih _ _

/-- What a line of names is bound to, if it is bound at all. -/
theorem bind_named_eq_ok_iff {groups : List NamedOperand} {args : Arguments} :
    c.bind (groups.flatMap NamedOperand.tokens) cwd = .ok args ↔
      (∀ token ∈ groups.flatMap NamedOperand.tokens, token.isUnterminated = false) ∧
        (groups.foldlM (c.give? cwd) [] >>= fun args => (bindGroups c cwd args 0 []).toOption) = some args := by
  rw [bind_eq_unterminated, ← toOption_bindGroups_named [] 0, ← NamedOperand.ofTokens_flatMap,
    ← unterminated?_eq_none_iff]
  cases unterminated? (groups.flatMap NamedOperand.tokens) with
  | some text => simp
  | none =>
    cases bindGroups c cwd [] 0 (Group.ofTokens (groups.flatMap NamedOperand.tokens)) with
    | error e => simp [Except.toOption]
    | ok other => simp [Except.toOption]

/-- **The order of names does not matter.** If the values of a line all have names, words and quoted texts that stand
for themselves and lists with their closing brackets, then the line is bound to some arguments exactly if it is bound to
the same arguments with its values in any other order. -/
theorem bind_named_perm (c : Command) (cwd : String) {groups groups' : List NamedOperand} (hperm : groups.Perm groups')
    (args : Arguments) :
    c.bind (groups.flatMap NamedOperand.tokens) cwd = .ok args ↔
      c.bind (groups'.flatMap NamedOperand.tokens) cwd = .ok args := by
  have htokens : ∀ token, token ∈ groups.flatMap NamedOperand.tokens ↔ token ∈ groups'.flatMap NamedOperand.tokens :=
    fun token => (hperm.flatMap_right NamedOperand.tokens).mem_iff
  rw [bind_named_eq_ok_iff, bind_named_eq_ok_iff, foldlM_give?_perm hperm]
  simp only [htokens]

/-- A list, a path that goes up and the beginning of a literal, the last one moved to the front. -/
theorem bind_named_perm_rotated :
    ∃ (c : Command) (groups groups' : List NamedOperand) (args : Arguments),
      c.arguments = [.path "group" "group path", (Argument.text "users").list, (Argument.literal "force").optional] ∧
      groups.flatMap NamedOperand.tokens = tokenize "users=[ann \"bob smith\"] group=../b force=f" ∧
      groups'.flatMap NamedOperand.tokens = tokenize "force=f users=[ann \"bob smith\"] group=../b" ∧
      groups.Perm groups' ∧ c.bind (groups.flatMap NamedOperand.tokens) "/home/a" = .ok args ∧
      c.bind (groups'.flatMap NamedOperand.tokens) "/home/a" = .ok args ∧
      args = [("force", .bool true), ("group", .str "/home/b"), ("users", .list [.str "ann", .str "bob smith"])] := by
  let users : NamedOperand :=
    { name := "users", operand := .list [.word "ann", Token.closedQuote "bob smith" '"'] (by decide) }
  let group : NamedOperand := { name := "group", operand := .text (.word "../b") (by decide) }
  let force : NamedOperand := { name := "force", operand := .text (.word "f") (by decide) }
  let c : Command := { name := "copy", help := "", arguments := [.path "group" "group path",
    (Argument.text "users").list, (Argument.literal "force").optional] }
  have hperm : [users, group, force].Perm [force, users, group] :=
    List.perm_append_singleton force [users, group]
  have hbind : c.bind ([users, group, force].flatMap NamedOperand.tokens) "/home/a" =
      .ok [("force", .bool true), ("group", .str "/home/b"), ("users", .list [.str "ann", .str "bob smith"])] := by
    decide +kernel
  exact ⟨c, [users, group, force], [force, users, group], _, rfl, by decide +kernel, by decide +kernel, hperm, hbind,
    (bind_named_perm c "/home/a" hperm _).mp hbind, rfl⟩

end Command

end RemoteShell
