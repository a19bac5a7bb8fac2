import Mathlib.Data.List.DropRight
import Mathlib.Data.List.Induction
import RemoteShell.Binding.Position
import RemoteShell.Proofs.Binding.RoundTrip
import RemoteShell.Proofs.Binding.Walk

/-!
# Completion and binding on the way through a line

While a line is typed, completion keeps the position of the argument that comes next; binding finds it by a walk of its
own. Do the two agree? A name brings them together: both go on behind the argument it names. From there binding passes
over arguments that have a value already, and completion does not. So they stay together until the first argument on the
way that was bound before, and from that one on completion is behind for the rest of the way.

Main statements:

* `Group.closed_or_open`: at the end of a line at most one list is open.
* `Command.exists_pace`: how completion and binding stand to each other after any line.
* `Command.Pace.nextOpen?_eq`, `Command.Pace.lt_of_nextOpen?`: which argument binding takes next in either case.
-/

namespace RemoteShell

/-! ## Lines whose last list is open -/

namespace Group

/-- Tokens in which every list is closed. -/
inductive Closed : List Token → Prop
  | nil : Closed []
  | single {head : Token} {rest : List Token} (hhead : (ofHead head).2.isPunct '[' = false) (hrest : Closed rest) :
      Closed (head :: rest)
  | list {head : Token} {items rest : List Token} (hhead : (ofHead head).2.isPunct '[' = true)
      (hitems : ∀ item ∈ items, item.isPunct ']' = false) (hrest : Closed rest) :
      Closed (head :: (items ++ .punct ']' :: rest))

/-- Up to the first closing bracket, or all there is. -/
theorem exists_closing_or_none (tokens : List Token) :
    (∃ items rest, (∀ item ∈ items, item.isPunct ']' = false) ∧ tokens = items ++ .punct ']' :: rest) ∨
      ∀ item ∈ tokens, item.isPunct ']' = false := by
  induction tokens with
  | nil => exact Or.inr (by simp)
  | cons token rest ih =>
      by_cases hclose : token.isPunct ']' = true
      · obtain rfl := Token.eq_of_isPunct hclose
        exact Or.inl ⟨[], rest, by simp, rfl⟩
      · have htoken : token.isPunct ']' = false := by simpa using hclose
        rcases ih with ⟨items, behind, hitems, rfl⟩ | hnone
        · exact Or.inl ⟨token :: items, behind, List.forall_mem_cons.mpr ⟨htoken, hitems⟩, rfl⟩
        · exact Or.inr (List.forall_mem_cons.mpr ⟨htoken, hnone⟩)

/-- **At the end of a line at most one list is open.** -/
theorem closed_or_open (tokens : List Token) :
    Closed tokens ∨ ∃ before head items, Closed before ∧ (ofHead head).2.isPunct '[' = true ∧
      (∀ item ∈ items, item.isPunct ']' = false) ∧ tokens = before ++ head :: items := by
  induction hlength : tokens.length using Nat.strong_induction_on generalizing tokens with
  | _ length ih =>
      subst hlength
      cases tokens with
      | nil => exact Or.inl Closed.nil
      | cons head rest =>
          by_cases hhead : (ofHead head).2.isPunct '[' = true
          · rcases exists_closing_or_none rest with ⟨items, behind, hitems, rfl⟩ | hnone
            · rcases ih behind.length (by simp; omega) behind rfl with
                hclosed | ⟨before, last, more, hbefore, hlast, hmore, rfl⟩
              · exact Or.inl (Closed.list hhead hitems hclosed)
              · refine Or.inr ⟨_, last, more, Closed.list hhead hitems hbefore, hlast, hmore, ?_⟩
                simp
            · exact Or.inr ⟨[], head, rest, Closed.nil, hhead, hnone, rfl⟩
          · have hsingle : (ofHead head).2.isPunct '[' = false := by simpa using hhead
            rcases ih rest.length (by simp) rest rfl with hclosed | ⟨before, last, more, hbefore, hlast, hmore, rfl⟩
            · exact Or.inl (Closed.single hsingle hclosed)
            · exact Or.inr ⟨_, last, more, Closed.single hsingle hbefore, hlast, hmore, rfl⟩

/-- What follows closed lists is grouped by itself. -/
theorem Closed.ofTokens_append {tokens : List Token} (h : Closed tokens) (more : List Token) :
    ofTokens (tokens ++ more) = ofTokens tokens ++ ofTokens more := by
  induction h with
  | nil => simp [ofTokens]
  | single hhead hrest ih =>
      rw [List.cons_append, ofTokens_cons_of_not_bracket hhead, ofTokens_cons_of_not_bracket hhead, ih, List.cons_append]
  | @list head items rest hhead hitems hrest ih =>
      have hmove : head :: (items ++ .punct ']' :: rest) ++ more = head :: (items ++ .punct ']' :: (rest ++ more)) := by
        simp
      rw [hmove, ofTokens, if_pos hhead, splitList_append hitems, ih, ofTokens, if_pos hhead, splitList_append hitems,
        List.cons_append]

/-- A list that is still open is the last group. -/
theorem ofTokens_open {head : Token} {items : List Token} (hhead : (ofHead head).2.isPunct '[' = true)
    (hitems : ∀ item ∈ items, item.isPunct ']' = false) :
    ofTokens (head :: items) = [{ name := (ofHead head).1, value := .list items }] := by
  have hall : ∀ item ∈ items, (!item.isPunct ']') = true := by simpa using hitems
  have hsplit : splitList items = (items, []) := by
    rw [splitList, List.takeWhile_eq_self_iff.mpr hall, List.dropWhile_eq_nil_iff.mpr hall, List.tail_nil]
  rw [ofTokens, if_pos hhead, hsplit, ofTokens]

end Group

/-! ## Positions -/

section Positions

variable {arguments : List Argument} {slot i : Nat} {a : Argument}

/-- Where all names are different, arguments at different positions have different ones. -/
theorem name_ne_of_getElem? (hnodup : (arguments.map (·.name)).Nodup) {j : Nat} {b : Argument}
    (ha : arguments[i]? = some a) (hb : arguments[j]? = some b) (hne : i ≠ j) : a.name ≠ b.name := by
  intro hname
  have hlt : i < (arguments.map (·.name)).length := by
    rw [List.length_map]
    exact (List.getElem?_eq_some_iff.mp ha).1
  exact hne ((List.getElem?_inj hlt hnodup).mp (by simp [ha, hb, hname]))

theorem skipKeywordOnly_eq (arguments : List Argument) (slot : Nat) :
    skipKeywordOnly arguments slot = slot + (arguments.drop slot).findIdx (!·.isKeywordOnly) := by
  rw [skipKeywordOnly, List.takeWhile_eq_take_findIdx_not, List.length_take, Nat.min_eq_left List.findIdx_le_length]

theorem le_skipKeywordOnly (arguments : List Argument) (slot : Nat) : slot ≤ skipKeywordOnly arguments slot :=
  Nat.le_add_right _ _

/-- Only arguments that are given by name are moved over. -/
theorem isKeywordOnly_of_lt_skipKeywordOnly (hle : slot ≤ i) (hlt : i < skipKeywordOnly arguments slot)
    (ha : arguments[i]? = some a) : a.isKeywordOnly = true := by
  rw [skipKeywordOnly_eq] at hlt
  have hnot := List.not_of_lt_findIdx (show i - slot < (arguments.drop slot).findIdx (!·.isKeywordOnly) by omega)
  obtain ⟨hi, rfl⟩ := List.getElem?_eq_some_iff.mp ha
  simpa [List.getElem_drop, Nat.add_sub_cancel' hle] using hnot

/-- The argument that is moved to is given in order. -/
theorem not_isKeywordOnly_skipKeywordOnly (ha : arguments[skipKeywordOnly arguments slot]? = some a) :
    a.isKeywordOnly = false := by
  rw [skipKeywordOnly_eq, ← List.getElem?_drop] at ha
  obtain ⟨hlt, rfl⟩ := List.getElem?_eq_some_iff.mp ha
  simpa using List.findIdx_getElem (w := hlt)

/-- An argument that is given in order is not moved over. -/
theorem skipKeywordOnly_le (hle : slot ≤ i) (ha : arguments[i]? = some a) (hkeyword : a.isKeywordOnly = false) :
    skipKeywordOnly arguments slot ≤ i := by
  by_contra hlt
  have := isKeywordOnly_of_lt_skipKeywordOnly hle (Nat.lt_of_not_le hlt) ha
  simp [hkeyword] at this

/-- The next argument in order: the first one that has no value yet. -/
theorem nextOpen?_eq_some_iff {bound : Arguments} :
    nextOpen? arguments bound slot = some (i, a) ↔
      slot ≤ i ∧ arguments[i]? = some a ∧ isOpen bound a = true ∧
        ∀ j b, slot ≤ j → j < i → arguments[j]? = some b → isOpen bound b = false := by
  simp only [nextOpen?, Option.bind_eq_bind, Option.bind_eq_some_iff, Option.pure_def, Option.some.injEq,
    Prod.mk.injEq, List.findIdx?_eq_some_iff_getElem]
  constructor
  · rintro ⟨offset, ⟨hlt, hopen, hbefore⟩, b, hb, rfl, rfl⟩
    obtain ⟨hi, rfl⟩ := List.getElem?_eq_some_iff.mp hb
    refine ⟨Nat.le_add_right _ _, hb, by simpa using hopen, ?_⟩
    intro j b hj hji hjb
    obtain ⟨hjlt, rfl⟩ := List.getElem?_eq_some_iff.mp hjb
    simpa [Nat.add_sub_cancel' hj] using hbefore (j - slot) (by omega)
  · rintro ⟨hle, ha, hopen, hbefore⟩
    obtain ⟨hi, rfl⟩ := List.getElem?_eq_some_iff.mp ha
    refine ⟨i - slot, ⟨by simp; omega, by simpa [Nat.add_sub_cancel' hle] using hopen, ?_⟩, arguments[i], ?_, by omega, rfl⟩
    · intro j hj
      have hjlt : slot + j < arguments.length := by omega
      simpa using hbefore (slot + j) arguments[slot + j] (by omega) (by omega) (List.getElem?_eq_getElem hjlt)
    · rw [Nat.add_sub_cancel' hle, ha]

/-- No argument is next in order where all that follow have a value, or are given by name. -/
theorem nextOpen?_eq_none {bound : Arguments}
    (h : ∀ i a, slot ≤ i → arguments[i]? = some a → isOpen bound a = false) : nextOpen? arguments bound slot = none := by
  cases hnext : nextOpen? arguments bound slot with
  | none => rfl
  | some found =>
      obtain ⟨hle, ha, hopen, -⟩ := nextOpen?_eq_some_iff.mp hnext
      rw [h _ _ hle ha] at hopen
      exact absurd hopen (by decide)

end Positions

namespace Command

/-- The position of the argument that a group goes to, for completion. -/
def positionOf (c : Command) (slot : Nat) : Option String → Nat
  | some name => (c.position? name).getD slot
  | none => slot

/-- The position behind a group, for completion. -/
def positionBehind (c : Command) (slot : Nat) (group : Group) : Nat :=
  skipKeywordOnly c.arguments (c.positionOf slot group.name + 1)

variable {c : Command}

/-- One step of completion, over a token whose name, if it has one, is known. -/
theorem positionFrom_cons {head : Token}
    (hknown : ∀ name, (Group.ofHead head).1 = some name → ∃ i, c.position? name = some i) (slot : Nat)
    (rest : List Token) :
    positionFrom c slot (head :: rest) =
      if (Group.ofHead head).2.isPunct '[' then
        match rest.dropWhile (!·.isPunct ']') with
        | [] => c.positionOf slot (Group.ofHead head).1
        | _ :: behind => positionFrom c (skipKeywordOnly c.arguments (c.positionOf slot (Group.ofHead head).1 + 1)) behind
      else positionFrom c (skipKeywordOnly c.arguments (c.positionOf slot (Group.ofHead head).1 + 1)) rest := by
  have htarget : (match (Group.ofHead head).1 with
      | some name => c.position? name
      | none => some slot) = some (c.positionOf slot (Group.ofHead head).1) := by
    cases hname : (Group.ofHead head).1 with
    | none => rfl
    | some name =>
        obtain ⟨i, hi⟩ := hknown name hname
        simp [positionOf, hi]
  rw [positionFrom]
  split
  · next hnone => cases htarget.symm.trans hnone
  · next target hsome =>
      obtain rfl : target = c.positionOf slot (Group.ofHead head).1 := Option.some.inj (hsome.symm.trans htarget)
      cases rest.dropWhile (!·.isPunct ']') <;> rfl

/-- Over closed lists, completion goes from group to group. -/
theorem positionFrom_closed {tokens : List Token} (h : Group.Closed tokens) (hknown : c.Knows (Group.ofTokens tokens))
    (slot : Nat) (more : List Token) :
    positionFrom c slot (tokens ++ more) =
      positionFrom c ((Group.ofTokens tokens).foldl c.positionBehind slot) more := by
  induction h generalizing slot with
  | nil => simp [Group.ofTokens]
  | @single head rest hhead hrest ih =>
      rw [Group.ofTokens_cons_of_not_bracket hhead] at hknown ⊢
      obtain ⟨hfirst, hothers⟩ := List.forall_mem_cons.mp hknown
      rw [List.cons_append, positionFrom_cons hfirst, if_neg (by simp [hhead]), ih hothers]
      rfl
  | @list head items rest hhead hitems hrest ih =>
      have hgroups : Group.ofTokens (head :: (items ++ .punct ']' :: rest)) =
          { name := (Group.ofHead head).1, value := .list items } :: Group.ofTokens rest := by
        rw [Group.ofTokens, if_pos hhead, splitList_append hitems]
      have hmove : head :: (items ++ .punct ']' :: rest) ++ more = head :: (items ++ .punct ']' :: (rest ++ more)) := by
        simp
      have hdrop : (items ++ .punct ']' :: (rest ++ more)).dropWhile (!·.isPunct ']') = .punct ']' :: (rest ++ more) := by
        rw [List.dropWhile_append_of_pos (by simpa using hitems)]
        rfl
      rw [hgroups] at hknown ⊢
      obtain ⟨hfirst, hothers⟩ := List.forall_mem_cons.mp hknown
      rw [hmove, positionFrom_cons hfirst, if_pos hhead, hdrop]
      exact ih hothers _

/-- Within a list that is still open, completion stays with the argument of the list. -/
theorem positionFrom_open {head : Token} {items : List Token} (hhead : (Group.ofHead head).2.isPunct '[' = true)
    (hitems : ∀ item ∈ items, item.isPunct ']' = false)
    (hknown : ∀ name, (Group.ofHead head).1 = some name → ∃ i, c.position? name = some i) (slot : Nat) :
    positionFrom c slot (head :: items) = c.positionOf slot (Group.ofHead head).1 := by
  have hdrop : items.dropWhile (!·.isPunct ']') = [] := by
    rw [List.dropWhile_eq_nil_iff]
    simpa using hitems
  rw [positionFrom_cons hknown, if_pos hhead, hdrop]

/-- Behind closed lists, completion has gone over all groups. -/
theorem argumentPosition_closed {tokens : List Token} (h : Group.Closed tokens)
    (hknown : c.Knows (Group.ofTokens tokens)) :
    c.argumentPosition tokens =
      (Group.ofTokens tokens).foldl c.positionBehind (skipKeywordOnly c.arguments 0) := by
  have hfold := positionFrom_closed h hknown (skipKeywordOnly c.arguments 0) []
  rwa [List.append_nil, positionFrom] at hfold

/-- Within an open list, completion is at the argument of the list, once it has gone over the groups before. -/
theorem argumentPosition_open {before items : List Token} {head : Token} (h : Group.Closed before)
    (hhead : (Group.ofHead head).2.isPunct '[' = true) (hitems : ∀ item ∈ items, item.isPunct ']' = false)
    (hknown : c.Knows (Group.ofTokens before ++ [{ name := (Group.ofHead head).1, value := .list items }])) :
    c.argumentPosition (before ++ head :: items) =
      c.positionOf ((Group.ofTokens before).foldl c.positionBehind (skipKeywordOnly c.arguments 0))
        (Group.ofHead head).1 := by
  obtain ⟨hbefore, hlast⟩ := List.forall_mem_append.mp hknown
  rw [argumentPosition, positionFrom_closed h hbefore]
  exact positionFrom_open hhead hitems (hlast _ (List.mem_singleton_self _)) _

/-! ## Together or behind -/

/-- The arguments before a position that were passed since the walk `q` had no value then. -/
def FreeBefore (c : Command) (q : PartialBinding) (k : Nat) : Prop :=
  ∀ i a, q.slot ≤ i → i < k → c.arguments[i]? = some a → a.isKeywordOnly = false → Dict.contains a.name q.bound = false

instance (c : Command) (q : PartialBinding) (k : Nat) : Decidable (c.FreeBefore q k) :=
  decidable_of_iff (∀ i < k, q.slot ≤ i → ∀ a ∈ c.arguments[i]?, a.isKeywordOnly = false →
    Dict.contains a.name q.bound = false)
    ⟨fun h i a hle hlt ha => h i hlt hle a ha, fun h i hlt hle a ha => h i a hle hlt ha⟩

theorem FreeBefore.mono {q : PartialBinding} {k l : Nat} (h : c.FreeBefore q l) (hle : k ≤ l) : c.FreeBefore q k :=
  fun i a hq hi => h i a hq (Nat.lt_of_lt_of_le hi hle)

/-- How the position `k` of completion stands to the walk `p` of binding, if the last name was reached by the walk
`q`. -/
inductive Pace (c : Command) (q p : PartialBinding) (k : Nat) : Prop
  /-- Both go on from the same place, and what was bound since lies behind it. -/
  | together (hk : k = skipKeywordOnly c.arguments p.slot) (hslot : q.slot ≤ p.slot) (hfree : c.FreeBefore q k)
      (hsame : ∀ i a, p.slot ≤ i → c.arguments[i]? = some a →
        Dict.contains a.name p.bound = Dict.contains a.name q.bound)
  /-- Binding has passed over an argument that completion stopped at. -/
  | behind (hlt : k < p.slot) (hk : k < c.arguments.length) (hbound : ¬ c.FreeBefore q k)

/-- A name brings completion and binding together, and so does the beginning of the line. -/
theorem Pace.refl (c : Command) (p : PartialBinding) : c.Pace p p (skipKeywordOnly c.arguments p.slot) := by
  refine Pace.together rfl (Nat.le_refl _) ?_ (fun _ _ _ _ => rfl)
  intro i a hle hlt ha hkeyword
  rw [isKeywordOnly_of_lt_skipKeywordOnly hle hlt ha] at hkeyword
  exact absurd hkeyword (by decide)

variable {q p p' : PartialBinding} {k : Nat} {cwd : String}

/-- Where nothing was passed that had a value, binding takes the argument that completion says. -/
theorem Pace.nextOpen?_eq (h : c.Pace q p k) (hfree : c.FreeBefore q (k + 1)) :
    nextOpen? c.arguments p.bound p.slot = (c.arguments[k]?).map (k, ·) := by
  cases h with
  | behind hlt hk hbound => exact absurd (hfree.mono (Nat.le_succ k)) hbound
  | together hk hslot _ hsame =>
      have hle : p.slot ≤ k := hk ▸ le_skipKeywordOnly c.arguments p.slot
      have hbefore : ∀ i a, p.slot ≤ i → i < k → c.arguments[i]? = some a → isOpen p.bound a = false := by
        intro i a hi hlt ha
        simp [isOpen, isKeywordOnly_of_lt_skipKeywordOnly hi (hk ▸ hlt) ha]
      cases hget : c.arguments[k]? with
      | some a =>
          have hkeyword : a.isKeywordOnly = false := not_isKeywordOnly_skipKeywordOnly (hk ▸ hget)
          have hfresh : Dict.contains a.name p.bound = false := by
            rw [hsame k a hle hget]
            exact hfree k a (Nat.le_trans hslot hle) (Nat.lt_succ_self k) hget hkeyword
          have hopen : isOpen p.bound a = true := by simp [isOpen, hkeyword, hfresh]
          exact nextOpen?_eq_some_iff.mpr ⟨hle, hget, hopen, hbefore⟩
      | none =>
          refine nextOpen?_eq_none ?_
          intro i a hi ha
          have hlt : i < c.arguments.length := (List.getElem?_eq_some_iff.mp ha).1
          have hend : c.arguments.length ≤ k := List.getElem?_eq_none_iff.mp hget
          exact hbefore i a hi (Nat.lt_of_lt_of_le hlt hend) ha

/-- Where something was passed that had a value, binding takes an argument further on, if any. -/
theorem Pace.lt_of_nextOpen? (h : c.Pace q p k) (hbound : ¬ c.FreeBefore q (k + 1)) :
    k < c.arguments.length ∧ ∀ i a, nextOpen? c.arguments p.bound p.slot = some (i, a) → k < i := by
  cases h with
  | behind hlt hk _ =>
      refine ⟨hk, ?_⟩
      intro i a hnext
      exact Nat.lt_of_lt_of_le hlt (nextOpen?_eq_some_iff.mp hnext).1
  | together hk hslot hfree hsame =>
      have hle : p.slot ≤ k := hk ▸ le_skipKeywordOnly c.arguments p.slot
      -- What had a value is the argument at which completion stands.
      have hhere : ∃ b, c.arguments[k]? = some b ∧ Dict.contains b.name p.bound = true := by
        by_contra hnone
        refine hbound ?_
        intro i b hi hlt hb hkeyword
        rcases Nat.lt_succ_iff_lt_or_eq.mp hlt with hlt | rfl
        · exact hfree i b hi hlt hb hkeyword
        · rw [← hsame i b hle hb]
          simpa using fun hcontains => hnone ⟨b, hb, hcontains⟩
      obtain ⟨b, hb, hcontains⟩ := hhere
      refine ⟨(List.getElem?_eq_some_iff.mp hb).1, ?_⟩
      intro i a hnext
      obtain ⟨hi, ha, hopen, -⟩ := nextOpen?_eq_some_iff.mp hnext
      simp only [isOpen, Bool.and_eq_true, Bool.not_eq_true'] at hopen
      rcases Nat.lt_trichotomy i k with hlt | rfl | hlt
      · have hkeyword := isKeywordOnly_of_lt_skipKeywordOnly hi (hk ▸ hlt) ha
        simp [hkeyword] at hopen
      · obtain rfl : b = a := Option.some.inj (hb.symm.trans ha)
        simp [hcontains] at hopen
      · exact hlt

/-- **One group without a name** does not change who is behind, except that binding may pass an argument that has a
value. -/
theorem Pace.take (hnodup : (c.arguments.map (·.name)).Nodup) (h : c.Pace q p k) {group : Group}
    (hname : group.name = none) (htake : p.take c cwd group = .ok p') : c.Pace q p' (c.positionBehind k group) := by
  obtain ⟨i, a, htarget, hslot', hbound'⟩ := PartialBinding.take_ok htake
  rw [hname, PartialBinding.target_none_eq_ok_iff] at htarget
  obtain ⟨hi, ha, hopen, -⟩ := nextOpen?_eq_some_iff.mp htarget
  have hkeyword : a.isKeywordOnly = false := by
    simp only [isOpen, Bool.and_eq_true, Bool.not_eq_true'] at hopen
    exact hopen.1
  have hbehind : c.positionBehind k group = skipKeywordOnly c.arguments (k + 1) := by
    rw [positionBehind, hname, positionOf]
  have hle : k + 1 ≤ skipKeywordOnly c.arguments (k + 1) := le_skipKeywordOnly c.arguments (k + 1)
  rw [hbehind]
  by_cases hfree : c.FreeBefore q (k + 1)
  · cases h with
    | behind hlt hk hbound => exact absurd (hfree.mono (Nat.le_succ k)) hbound
    | together hk hslot hfree' hsame =>
        have hik : i = k := by
          have hnext := (Pace.together hk hslot hfree' hsame).nextOpen?_eq hfree
          rw [htarget] at hnext
          cases hget : c.arguments[k]? with
          | none => simp [hget] at hnext
          | some b => simp [hget] at hnext; exact hnext.1
        subst hik
        refine Pace.together (by rw [hslot']) (by omega) ?_ ?_
        · intro j b hj hlt hb hkeyword'
          rcases Nat.lt_or_ge j (i + 1) with hlt' | hge
          · exact hfree j b hj hlt' hb hkeyword'
          · rw [isKeywordOnly_of_lt_skipKeywordOnly hge hlt hb] at hkeyword'
            exact absurd hkeyword' (by decide)
        · intro j b hj hb
          rw [← hsame j b (by omega) hb]
          rcases hbound' with ⟨-, heq⟩ | ⟨value, -, heq⟩
          · rw [heq]
          · have hne : b.name ≠ a.name := (name_ne_of_getElem? hnodup ha hb (by omega)).symm
            rw [heq, Dict.contains_insert_of_ne hne]
  · obtain ⟨-, hlater⟩ := h.lt_of_nextOpen? hfree
    have hki : k < i := hlater i a htarget
    have hskip : skipKeywordOnly c.arguments (k + 1) ≤ i := skipKeywordOnly_le hki ha hkeyword
    have hlt : i < c.arguments.length := (List.getElem?_eq_some_iff.mp ha).1
    exact Pace.behind (by omega) (by omega) fun hlong => hfree (hlong.mono hle)

/-- **One group with a name** brings completion and binding together. -/
theorem Pace.take_named {group : Group} {name : String} (hname : group.name = some name)
    (htake : p.take c cwd group = .ok p') : c.Pace p' p' (c.positionBehind k group) := by
  obtain ⟨i, a, htarget, hslot', -⟩ := PartialBinding.take_ok htake
  rw [hname] at htarget
  have hbehind : c.positionBehind k group = skipKeywordOnly c.arguments p'.slot := by
    rw [positionBehind, hname, positionOf, PartialBinding.position?_of_target htarget, hslot', Option.getD_some]
  rw [hbehind]
  exact Pace.refl c p'

/-- **How completion and binding stand to each other after any groups.** -/
theorem exists_pace (hnodup : (c.arguments.map (·.name)).Nodup) {groups : List Group}
    (h : groups.foldlM (PartialBinding.take c cwd) {} = .ok p) :
    ∃ q, (groups.rdropWhile (·.name.isNone)).foldlM (PartialBinding.take c cwd) {} = .ok q ∧
      c.Pace q p (groups.foldl c.positionBehind (skipKeywordOnly c.arguments 0)) := by
  induction groups using List.reverseRecOn generalizing p with
  | nil =>
      cases h
      exact ⟨{}, rfl, Pace.refl c {}⟩
  | append_singleton groups group ih =>
      obtain ⟨middle, hmiddle, htake⟩ := PartialBinding.exists_of_foldlM_concat h
      rw [List.foldl_append, List.foldl_cons, List.foldl_nil]
      cases hname : group.name with
      | some name =>
          rw [List.rdropWhile_concat_neg _ _ _ (by simp [hname])]
          exact ⟨p, h, Pace.take_named hname htake⟩
      | none =>
          obtain ⟨q, hq, hpace⟩ := ih hmiddle
          rw [List.rdropWhile_concat_pos _ _ _ (by simp [hname])]
          exact ⟨q, hq, hpace.take hnodup hname htake⟩

end Command

end RemoteShell
