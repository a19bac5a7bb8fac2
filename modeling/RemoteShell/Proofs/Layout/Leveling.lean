import RemoteShell.Proofs.Layout.Squeeze

/-!
# Squeezing levels the columns

Squeezing goes on in rounds. A round takes one place from the widest column, from the last one if several are equally
wide, and there is a round as long as the row is wider than the limit and some column is above the floor. This file says
what a round is without the functions that compute it, and proves that the rounds end, in the columns that squeezing
computes.

What keeps the columns level is that a round only ever takes from the widest one. Whatever was narrowed is then at most
one place short of all the others, and stays so, since the others never grow.

Main statements:

* `round_iff`: the only round there can be.
* `rounds_iff`: the rounds end, after as many as there were places to take.
* `Level.round`, `Level.rounds`: a round leaves the columns level, and so do all of them.
* `squeeze_levels`: how far squeezing goes, and that it leaves the columns level.
-/

namespace RemoteShell.Table

/-- One round of squeezing: in a row that is too wide, the last of the widest columns gives way by one place, if it is
above the floor. -/
inductive Round (limit : Nat) : List Nat → List Nat → Prop
  | mk {before after : List Nat} {width : Nat} (hwide : limit < totalWidth (before ++ width :: after))
      (habove : floor < width) (hbefore : ∀ w ∈ before, w ≤ width) (hafter : ∀ w ∈ after, w < width) :
      Round limit (before ++ width :: after) (before ++ (width - 1) :: after)

/-- Rounds of squeezing until there is none: the columns at first, the number of rounds and the columns at last. -/
inductive Rounds (limit : Nat) : List Nat → Nat → List Nat → Prop
  | done {widths : List Nat} (h : ∀ next, ¬ Round limit widths next) : Rounds limit widths 0 widths
  | round {widths next last : List Nat} {rounds : Nat} (first : Round limit widths next)
      (tail : Rounds limit next rounds last) : Rounds limit widths (rounds + 1) last

/-- Columns are level, seen from the widths they had once: no column is more than one place wider than one that gave
way. -/
def Level (widths current : List Nat) : Prop :=
  List.Forall₂ (fun w v => v < w → ∀ u ∈ current, u ≤ v + 1) widths current

/-! ## One round -/

/-- The last of the columns that are `width` wide is narrowed. -/
theorem narrowLast_append {width : Nat} {after : List Nat} (hafter : width ∉ after) (before : List Nat) :
    narrowLast width (before ++ width :: after) = before ++ (width - 1) :: after := by
  induction before with
  | nil => simp [narrowLast, hafter]
  | cons w before ih => simp [narrowLast, ih]

/-- A width that occurs has a last column that is so wide. -/
theorem exists_last {width : Nat} {widths : List Nat} (h : width ∈ widths) :
    ∃ before after, widths = before ++ width :: after ∧ width ∉ after := by
  obtain ⟨front, back, hsplit, hfront⟩ := List.eq_append_cons_of_mem (List.mem_reverse.mpr h)
  refine ⟨back.reverse, front.reverse, ?_, by simpa using hfront⟩
  rw [← List.reverse_reverse widths, hsplit]
  simp

theorem widest_eq {width : Nat} {widths : List Nat} (hmem : width ∈ widths) (h : ∀ w ∈ widths, w ≤ width) :
    widest widths = width := by
  refine Nat.le_antisymm ?_ (le_widest hmem)
  rcases Nat.eq_zero_or_pos (widest widths) with hzero | hpos
  · exact hzero ▸ Nat.zero_le width
  · exact h _ (widest_mem hpos)

/-- **The only round there can be:** the row is too wide, its widest column is above the floor, and the last of these is
narrowed. -/
theorem round_iff {limit : Nat} {widths next : List Nat} :
    Round limit widths next ↔
      limit < totalWidth widths ∧ floor < widest widths ∧ next = narrowLast (widest widths) widths := by
  constructor
  · rintro @⟨before, after, width, hwide, habove, hbefore, hafter⟩
    have hwidest : widest (before ++ width :: after) = width := by
      refine widest_eq (by simp) ?_
      intro w hw
      rcases List.mem_append.mp hw with hw | hw
      · exact hbefore w hw
      · rcases List.mem_cons.mp hw with rfl | hw
        · exact le_refl w
        · exact (hafter w hw).le
    rw [hwidest, narrowLast_append fun hmem => absurd (hafter width hmem) (lt_irrefl width)]
    exact ⟨hwide, habove, rfl⟩
  · rintro ⟨hwide, habove, rfl⟩
    obtain ⟨before, after, hsplit, hlast⟩ := exists_last (widest_mem (Nat.zero_lt_of_lt habove))
    have hle : ∀ w ∈ widths, w ≤ widest widths := fun w hw => le_widest hw
    generalize widest widths = width at *
    subst hsplit
    rw [narrowLast_append hlast]
    refine Round.mk hwide habove (fun w hw => hle w (by simp [hw])) ?_
    intro w hw
    refine lt_of_le_of_ne (hle w (by simp [hw])) ?_
    rintro rfl
    exact hlast hw

/-- Where there is no round, the row fits or all columns are at the floor. -/
theorem no_round_iff {limit : Nat} {widths : List Nat} :
    (∀ next, ¬ Round limit widths next) ↔ totalWidth widths ≤ limit ∨ widest widths ≤ floor := by
  simp only [round_iff]
  constructor
  · intro h
    by_contra hcon
    push Not at hcon
    exact h _ ⟨hcon.1, hcon.2, rfl⟩
  · rintro h next ⟨hwide, habove, -⟩
    omega

/-- A round takes one place from the row. -/
theorem Round.totalWidth_eq {limit : Nat} {widths next : List Nat} (h : Round limit widths next) :
    totalWidth next + 1 = totalWidth widths := by
  obtain ⟨-, habove, rfl⟩ := round_iff.mp h
  exact totalWidth_narrowLast habove

/-! ## All rounds -/

/-- There are as many rounds as places are taken. -/
theorem Rounds.totalWidth_add {limit rounds : Nat} {widths last : List Nat} (h : Rounds limit widths rounds last) :
    totalWidth last + rounds = totalWidth widths := by
  induction h with
  | done => rfl
  | round first _ ih =>
      have hfirst := first.totalWidth_eq
      omega

/-- Where the rounds end is settled where they begin. -/
theorem Rounds.unique {limit rounds rounds' : Nat} {widths last last' : List Nat} (h : Rounds limit widths rounds last)
    (h' : Rounds limit widths rounds' last') : last' = last := by
  induction h generalizing rounds' with
  | done hdone =>
      cases h' with
      | done => rfl
      | round first _ => exact absurd first (hdone _)
  | round first _ ih =>
      cases h' with
      | done hdone => exact absurd first (hdone _)
      | round first' tail' =>
          obtain ⟨-, -, rfl⟩ := round_iff.mp first
          obtain ⟨-, -, rfl⟩ := round_iff.mp first'
          exact ih tail'

/-- Taking so many places off the widest columns is going through the rounds, if so many places are too many. -/
theorem exists_rounds_squeezeBy {limit excess : Nat} {widths : List Nat} (h : totalWidth widths - limit = excess) :
    ∃ rounds, Rounds limit widths rounds (squeezeBy excess widths) := by
  induction excess generalizing widths with
  | zero => exact ⟨0, Rounds.done (no_round_iff.mpr (Or.inl (Nat.le_of_sub_eq_zero h)))⟩
  | succ excess ih =>
      rw [squeezeBy]
      split
      · next habove =>
          have hround : Round limit widths (narrowLast (widest widths) widths) :=
            round_iff.mpr ⟨by omega, habove, rfl⟩
          have htotal := hround.totalWidth_eq
          obtain ⟨rounds, htail⟩ := @ih (narrowLast (widest widths) widths) (by omega)
          exact ⟨rounds + 1, Rounds.round hround htail⟩
      · next hfloor => exact ⟨0, Rounds.done (no_round_iff.mpr (Or.inr (Nat.le_of_not_lt hfloor)))⟩

/-- **The rounds end,** after as many as there are places to take, in the columns that squeezing computes and in no
others. -/
theorem rounds_iff {limit rounds : Nat} {widths last : List Nat} :
    Rounds limit widths rounds last ↔
      last = squeeze widths limit ∧ rounds = totalWidth widths - totalWidth (squeeze widths limit) := by
  obtain ⟨count, hsqueeze⟩ := exists_rounds_squeezeBy (rfl : totalWidth widths - limit = _)
  have hcount : totalWidth (squeeze widths limit) + count = totalWidth widths := hsqueeze.totalWidth_add
  constructor
  · intro h
    obtain rfl : last = squeeze widths limit := hsqueeze.unique h
    have htotal := h.totalWidth_add
    exact ⟨rfl, by omega⟩
  · rintro ⟨rfl, rfl⟩
    obtain rfl : count = totalWidth widths - totalWidth (squeeze widths limit) := by omega
    exact hsqueeze

/-- Where the rounds end, there is none. -/
theorem Rounds.no_round {limit rounds : Nat} {widths last : List Nat} (h : Rounds limit widths rounds last) :
    ∀ next, ¬ Round limit last next := by
  induction h with
  | done hdone => exact hdone
  | round _ _ ih => exact ih

/-! ## Level columns -/

/-- No column has given way yet. -/
theorem Level.refl (widths : List Nat) : Level widths widths :=
  List.forall₂_same.mpr fun w _ hless => absurd hless (lt_irrefl w)

/-- **A round leaves the columns level.** The one that is narrowed was the widest, so it is one place short of the others
at most. -/
theorem Level.round {limit : Nat} {widths current next : List Nat} (h : Level widths current)
    (hround : Round limit current next) : Level widths next := by
  obtain ⟨-, habove, rfl⟩ := round_iff.mp hround
  have hwidest : widest current ∈ current := widest_mem (Nat.zero_lt_of_lt habove)
  have hnear : List.Forall₂ (fun w v => v < w → widest current ≤ v + 1) widths current :=
    h.imp fun w v hlevel hless => hlevel hless _ hwidest
  refine (forall₂_narrowLast (fun w _ _ => by omega) hnear).imp ?_
  intro w v hlevel hless u hu
  exact (le_of_mem_narrowLast (fun _ hw => le_widest hw) u hu).trans (hlevel hless)

/-- **All rounds leave the columns level.** -/
theorem Level.rounds {limit rounds : Nat} {widths current last : List Nat} (h : Level widths current)
    (hrounds : Rounds limit current rounds last) : Level widths last := by
  induction hrounds with
  | done => exact h
  | round first _ ih => exact ih (h.round first)

/-- Columns squeezed into a row of `limit` places. -/
structure SqueezedTo (limit : Nat) (widths squeezed : List Nat) : Prop where
  /-- No column grows, and none that gives way is left below the floor. -/
  givesWay : List.Forall₂ (fun w v => v ≤ w ∧ (v < w → floor ≤ v)) widths squeezed
  /-- A row that fits stays as it is. -/
  fits : totalWidth widths ≤ limit → squeezed = widths
  /-- A row that is too wide, and can be made to fit, takes all the places there are. -/
  full : limit < totalWidth widths → floorWidth widths ≤ limit → totalWidth squeezed = limit
  /-- In a row that cannot be made to fit, no column is above the floor. -/
  atFloor : limit < floorWidth widths → squeezed = widths.map (min · floor)
  /-- No column is more than one place wider than one that gave way. -/
  level : Level widths squeezed

/-- Columns that gave way as far as they can are at the floor, or below it as they were. -/
theorem GivesWay.eq_map_min {widths squeezed : List Nat} (h : GivesWay widths squeezed)
    (hfloor : ∀ v ∈ squeezed, v ≤ floor) : squeezed = widths.map (min · floor) := by
  induction h with
  | nil => rfl
  | @cons w v widths squeezed hfirst _ ih =>
      obtain ⟨hv, hrest⟩ := List.forall_mem_cons.mp hfloor
      have hmin : v = min w floor := by omega
      rw [List.map_cons, ← hmin, ← ih hrest]

/-- **Squeezing ends, and levels the columns exactly.** It goes through its rounds to the end. The row it leaves is as
wide as the limit and the floor allow, and none of its columns is more than one place wider than one that gave way. -/
theorem squeeze_levels (widths : List Nat) (limit : Nat) :
    (∃ rounds, Rounds limit widths rounds (squeeze widths limit)) ∧
      SqueezedTo limit widths (squeeze widths limit) := by
  have hrounds : Rounds limit widths _ (squeeze widths limit) := rounds_iff.mpr ⟨rfl, rfl⟩
  have hgives : GivesWay widths (squeeze widths limit) := givesWay_squeeze widths limit
  have htotal := totalWidth_squeeze widths limit
  refine ⟨⟨_, hrounds⟩, ?_, ?_, ?_, ?_, (Level.refl widths).rounds hrounds⟩
  · exact hgives.imp fun w v hv => ⟨hv.1, by omega⟩
  · intro hfits
    rw [squeeze, Nat.sub_eq_zero_of_le hfits, squeezeBy]
  · intro hwide hfloor
    omega
  · intro hfloor
    refine hgives.eq_map_min fun v hv => ?_
    have hlow : widest (squeeze widths limit) ≤ floor :=
      (no_round_iff.mp hrounds.no_round).resolve_left (by omega)
    exact (le_widest hv).trans hlow

/-- Of three columns the two wide ones give way in turn, and the last of them first. -/
example : squeeze [2, 7, 9] 16 = [2, 5, 5] ∧ squeeze [2, 7, 9] 15 = [2, 5, 4] ∧ squeeze [2, 7, 9] 5 = [2, 3, 3] := by
  decide

end RemoteShell.Table
