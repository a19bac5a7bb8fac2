import RemoteShell.Proofs.Binding.Result

/-!
# Binding as a walk

What is known of a line after some of its groups is little: the values bound so far, and the position from which
arguments are taken in order. A group finds its argument from these two alone, and either moves the walk behind that
argument or ends it with an error. Binding a line is this walk over its groups, and one question at the end: whether
something that is needed is missing. A line that is still being typed is the same walk without the question.

Main statements:

* `PartialBinding.take_ok`: all that one group can do to a walk.
* `PartialBinding.bindGroups_eq`: binding is the walk, and the question at the end.
* `Command.bind_eq_advance`: the same for the tokens of a line.
-/

namespace RemoteShell

/-- What a walk over the groups of a line has come to. -/
structure PartialBinding where
  /-- The values bound so far. -/
  bound : Arguments := []
  /-- The position from which arguments are taken in order. -/
  slot : Nat := 0
deriving DecidableEq, Repr

namespace PartialBinding

/-- The argument that a group goes to, with its position: the one it names, or the next one in order. -/
def target (c : Command) (p : PartialBinding) : Option String → Except ParseError (Nat × Argument)
  | some name => match c.find? name with
    | none => .error (.unknownArgument name)
    | some found => if Dict.contains name p.bound then .error (.duplicateArgument name) else .ok found
  | none => match nextOpen? c.arguments p.bound p.slot with
    | none => .error (.tooManyArguments c.name c.arguments.length)
    | some found => .ok found

/-- Gives a group to an argument. A placeholder only passes it. -/
def give (c : Command) (cwd : String) (p : PartialBinding) (group : Group) (i : Nat) (a : Argument) :
    Except ParseError PartialBinding :=
  if group.value.isPlaceholder then
    if group.name.isSome || a.isOptional then .ok { p with slot := i + 1 } else .error (.missingRequiredArgument a.name)
  else match convertGroup c.arguments cwd a group.value with
    | .error e => .error e
    | .ok value => .ok { bound := Dict.insert a.name value p.bound, slot := i + 1 }

/-- One step of the walk. -/
def take (c : Command) (cwd : String) (p : PartialBinding) (group : Group) : Except ParseError PartialBinding :=
  match p.target c group.name with
  | .error e => .error e
  | .ok (i, a) => p.give c cwd group i a

/-- The question at the end of a line: whether something that is needed is missing. -/
def finish (c : Command) (p : PartialBinding) : Except ParseError Arguments :=
  match missing? c.arguments p.bound with
  | some a => .error (.missingRequiredArgument a.name)
  | none => .ok p.bound

variable {c : Command} {cwd : String} {p q : PartialBinding} {group : Group}

/-- The next argument in order stands at the position it comes with. -/
theorem getElem?_of_nextOpen? {arguments : List Argument} {bound : Arguments} {slot i : Nat} {a : Argument}
    (h : nextOpen? arguments bound slot = some (i, a)) : arguments[i]? = some a := by
  simp only [nextOpen?, Option.bind_eq_bind, Option.bind_eq_some_iff, Option.pure_def, Option.some.injEq,
    Prod.mk.injEq] at h
  obtain ⟨offset, -, b, hb, rfl, rfl⟩ := h
  exact hb

/-- The argument of a group has no value yet, and stands at the position it comes with. -/
theorem of_target {name? : Option String} {i : Nat} {a : Argument} (h : p.target c name? = .ok (i, a)) :
    c.arguments[i]? = some a ∧ Dict.contains a.name p.bound = false := by
  cases name? with
  | some name =>
      simp only [target] at h
      split at h
      · cases h
      · next found hfind =>
          split at h
          · cases h
          · next hfresh =>
              cases h
              have hname : a.name = name := Command.name_of_find? hfind
              simp only [Command.find?, Option.bind_eq_bind, Option.bind_eq_some_iff, Option.pure_def,
                Option.some.injEq, Prod.mk.injEq] at hfind
              obtain ⟨j, -, b, hb, rfl, rfl⟩ := hfind
              exact ⟨hb, by simpa [hname] using hfresh⟩
  | none =>
      simp only [target] at h
      split at h
      · cases h
      · next found hopen =>
          cases h
          exact ⟨getElem?_of_nextOpen? hopen, (mem_of_nextOpen? hopen).2⟩

/-- A name leads to the position of its argument. -/
theorem position?_of_target {name : String} {i : Nat} {a : Argument} (h : p.target c (some name) = .ok (i, a)) :
    c.position? name = some i := by
  simp only [target] at h
  split at h
  · cases h
  · next found hfind =>
      split at h
      · cases h
      · cases h
        simp only [Command.find?, Option.bind_eq_bind, Option.bind_eq_some_iff, Option.pure_def, Option.some.injEq,
          Prod.mk.injEq] at hfind
        obtain ⟨j, hj, b, -, rfl, -⟩ := hfind
        exact hj

/-- Without a name the next argument in order is meant. -/
theorem target_none_eq_ok_iff {found : Nat × Argument} :
    p.target c none = .ok found ↔ nextOpen? c.arguments p.bound p.slot = some found := by
  simp only [target]
  split
  · next hnone => simp [hnone]
  · next other hother => simp [hother]

/-- **All that one group can do to a walk.** It goes to an argument that has no value yet, and the walk goes on behind
it. At most that argument is bound. -/
theorem take_ok (h : p.take c cwd group = .ok q) :
    ∃ i a, p.target c group.name = .ok (i, a) ∧ q.slot = i + 1 ∧
      (group.value.isPlaceholder = true ∧ q.bound = p.bound ∨
        ∃ value, convertGroup c.arguments cwd a group.value = .ok value ∧
          q.bound = Dict.insert a.name value p.bound) := by
  unfold take at h
  split at h
  · cases h
  · next i a htarget =>
      refine ⟨i, a, htarget, ?_⟩
      unfold give at h
      split at h
      · next hplaceholder =>
          split at h
          · cases h
            exact ⟨rfl, Or.inl ⟨hplaceholder, rfl⟩⟩
          · cases h
      · split at h
        · cases h
        · next value hvalue =>
            cases h
            exact ⟨rfl, Or.inr ⟨value, hvalue, rfl⟩⟩

/-- Binding the groups of a line is one step of the walk, and binding the others from there. -/
theorem bindGroups_take (c : Command) (cwd : String) (p : PartialBinding) (group : Group) (rest : List Group) :
    bindGroups c cwd p.bound p.slot (group :: rest) =
      p.take c cwd group >>= fun q => bindGroups c cwd q.bound q.slot rest := by
  obtain ⟨name?, value⟩ := group
  cases name? with
  | some name =>
      simp only [bindGroups, take, target]
      cases hfind : c.find? name with
      | none => rfl
      | some found =>
          obtain ⟨i, a⟩ := found
          by_cases hbound : Dict.contains name p.bound = true
          · simp [hbound, bind, Except.bind]
          · by_cases hplaceholder : value.isPlaceholder = true
            · simp [hbound, hplaceholder, give, bind, Except.bind]
            · cases hvalue : convertGroup c.arguments cwd a value with
              | error e => simp [hbound, hplaceholder, hvalue, give, bind, Except.bind]
              | ok v => simp [hbound, hplaceholder, hvalue, give, bind, Except.bind]
  | none =>
      simp only [bindGroups, take, target]
      cases hopen : nextOpen? c.arguments p.bound p.slot with
      | none => rfl
      | some found =>
          obtain ⟨i, a⟩ := found
          by_cases hplaceholder : value.isPlaceholder = true
          · by_cases hoptional : a.isOptional = true
            · simp [hplaceholder, hoptional, give, bind, Except.bind]
            · simp [hplaceholder, hoptional, give, bind, Except.bind]
          · cases hvalue : convertGroup c.arguments cwd a value with
            | error e => simp [hplaceholder, hvalue, give, bind, Except.bind]
            | ok v => simp [hplaceholder, hvalue, give, bind, Except.bind]

/-- **Binding is the walk, and the question at the end.** -/
theorem bindGroups_eq (c : Command) (cwd : String) (p : PartialBinding) (groups : List Group) :
    bindGroups c cwd p.bound p.slot groups = groups.foldlM (take c cwd) p >>= finish c := by
  induction groups generalizing p with
  | nil => rfl
  | cons group rest ih =>
      rw [bindGroups_take, List.foldlM_cons]
      cases htake : p.take c cwd group with
      | error e => rfl
      | ok q => exact ih q

/-- A walk goes on from where the groups before have brought it. -/
theorem foldlM_append_of_ok {before : List Group} (h : before.foldlM (take c cwd) p = .ok q) (behind : List Group) :
    (before ++ behind).foldlM (take c cwd) p = behind.foldlM (take c cwd) q := by
  rw [List.foldlM_append, h]
  rfl

/-- A walk that comes to its end has come to every place before. -/
theorem exists_of_foldlM_concat {before : List Group} {r : PartialBinding}
    (h : (before ++ [group]).foldlM (take c cwd) p = .ok r) :
    ∃ q, before.foldlM (take c cwd) p = .ok q ∧ q.take c cwd group = .ok r := by
  cases hbefore : before.foldlM (take c cwd) p with
  | error e => simp [List.foldlM_append, hbefore, bind, Except.bind] at h
  | ok q =>
      rw [foldlM_append_of_ok hbefore] at h
      exact ⟨q, rfl, by simpa using h⟩

end PartialBinding

namespace Command

/-- Groups whose names the command knows. -/
def Knows (c : Command) (groups : List Group) : Prop :=
  ∀ group ∈ groups, ∀ name, group.name = some name → ∃ i, c.position? name = some i

/-- A walk that comes to its end has met no other names. -/
theorem knows_of_foldlM {c : Command} {cwd : String} {p q : PartialBinding} {groups : List Group}
    (h : groups.foldlM (PartialBinding.take c cwd) p = .ok q) : c.Knows groups := by
  induction groups generalizing p with
  | nil => simp [Knows]
  | cons group rest ih =>
      rw [List.foldlM_cons] at h
      cases htake : p.take c cwd group with
      | error e =>
          rw [htake] at h
          cases h
      | ok middle =>
          rw [htake] at h
          obtain ⟨i, a, htarget, -⟩ := PartialBinding.take_ok htake
          refine List.forall_mem_cons.mpr ⟨?_, ih h⟩
          intro name hname
          rw [hname] at htarget
          exact ⟨i, PartialBinding.position?_of_target htarget⟩

/-- What a line comes to as far as it is typed: the walk over its groups, without the question whether anything is
missing. -/
def advance (c : Command) (tokens : List Token) (cwd : String) : Except ParseError PartialBinding :=
  match tokens.find? (·.isUnterminated) with
  | some bad => .error (.unterminatedQuote bad.text)
  | none => (Group.ofTokens tokens).foldlM (PartialBinding.take c cwd) {}

/-- **A line is bound by a walk over its groups,** and the question at the end. -/
theorem bind_eq_advance (c : Command) (tokens : List Token) (cwd : String) :
    c.bind tokens cwd = c.advance tokens cwd >>= PartialBinding.finish c := by
  unfold Command.bind advance
  cases tokens.find? (·.isUnterminated) with
  | some bad => rfl
  | none => exact PartialBinding.bindGroups_eq c cwd {} (Group.ofTokens tokens)

/-- A line that is walked to its end has no quoted text without a closing mark. -/
theorem advance_eq_ok {c : Command} {tokens : List Token} {cwd : String} {p : PartialBinding}
    (h : c.advance tokens cwd = .ok p) :
    tokens.find? (·.isUnterminated) = none ∧ (Group.ofTokens tokens).foldlM (PartialBinding.take c cwd) {} = .ok p := by
  unfold advance at h
  split at h
  · cases h
  · next hnone => exact ⟨hnone, h⟩

/-- One more word on the line. -/
theorem advance_append_word {c : Command} {tokens : List Token} {cwd : String} {p : PartialBinding}
    (h : c.advance tokens cwd = .ok p) (text : String) :
    c.advance (tokens ++ [.word text]) cwd =
      (Group.ofTokens (tokens ++ [.word text])).foldlM (PartialBinding.take c cwd) {} := by
  have hnone : (tokens ++ [Token.word text]).find? (·.isUnterminated) = none := by
    rw [List.find?_append, (advance_eq_ok h).1]
    rfl
  unfold advance
  rw [hnone]

end Command

end RemoteShell
