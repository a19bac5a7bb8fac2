import Mathlib.Data.List.Forall2
import RemoteShell.Layout.Table
import RemoteShell.Proofs.Layout.Width

/-!
# Squeezed columns

To squeeze a table, the widest column gives way one place at a time. One such step takes one place from the total and
leaves every column with what it has at the floor; the steps end when the total is small enough, or when all columns are
at the floor.

Main statements:

* `sum_narrowLast`, `map_min_narrowLast`: what one step takes, and what it leaves.
* `forall₂_narrowLast`: what one step keeps of each column.
* `totalWidth_squeeze`: how wide a squeezed row is.
* `givesWay_squeeze`: no column grows, and none is squeezed below the floor.
-/

namespace RemoteShell.Table

/-- The width of a row whose columns are squeezed as far as they can be. -/
def floorWidth (widths : List Nat) : Nat :=
  totalWidth (widths.map (min · floor))

/-- Columns that give way: none grows, and none is squeezed below the floor. -/
def GivesWay (widths squeezed : List Nat) : Prop :=
  List.Forall₂ (fun w v => v ≤ w ∧ min w floor ≤ v) widths squeezed

theorem totalWidth_eq (widths : List Nat) : totalWidth widths = widths.sum + 2 * (widths.length - 1) := rfl

theorem GivesWay.refl (widths : List Nat) : GivesWay widths widths :=
  List.forall₂_same.mpr fun w _ => ⟨le_refl w, min_le_left w floor⟩

theorem GivesWay.trans {widths between squeezed : List Nat} (h : GivesWay widths between)
    (hagain : GivesWay between squeezed) : GivesWay widths squeezed := by
  induction h generalizing squeezed with
  | nil => exact hagain
  | cons hfirst _ ih =>
      obtain _ | ⟨hsecond, hrest⟩ := hagain
      exact List.Forall₂.cons (by omega) (ih hrest)

/-! ## The widest column -/

theorem le_widest {widths : List Nat} {w : Nat} (h : w ∈ widths) : w ≤ widest widths :=
  (isGreatest_foldl_max widths 0).2 (Or.inr h)

/-- Some column is the widest one, if any has a width. -/
theorem widest_mem {widths : List Nat} (h : 0 < widest widths) : widest widths ∈ widths := by
  rcases (isGreatest_foldl_max widths 0).1 with hzero | hmem
  · exact absurd hzero (Nat.ne_of_gt h)
  · exact hmem

/-! ## One step -/

/-- A step takes one place. -/
theorem sum_narrowLast {width : Nat} {widths : List Nat} (hmem : width ∈ widths) (hpos : 0 < width) :
    (narrowLast width widths).sum + 1 = widths.sum := by
  fun_induction narrowLast width widths with
  | case1 => simp at hmem
  | case2 w rest hrest ih =>
      have hsum := ih (by simpa using hrest)
      simp only [List.sum_cons]
      omega
  | case3 rest hrest =>
      simp only [List.sum_cons]
      omega
  | case4 w rest hrest hne =>
      have hother : width ∉ rest := by simpa using hrest
      rcases List.mem_cons.mp hmem with rfl | hmem
      · exact absurd rfl hne
      · exact absurd hmem hother

/-- A step above the floor leaves every column with what it has at the floor. -/
theorem map_min_narrowLast {width : Nat} (h : floor < width) (widths : List Nat) :
    (narrowLast width widths).map (min · floor) = widths.map (min · floor) := by
  fun_induction narrowLast width widths with
  | case1 => rfl
  | case2 w rest _ ih => rw [List.map_cons, List.map_cons, ih]
  | case3 rest _ =>
      have hmin : min (width - 1) floor = min width floor := by omega
      rw [List.map_cons, List.map_cons, hmin]
  | case4 w rest _ _ => rfl

/-- What holds of all columns, and of the narrowed width whenever it holds of the width itself, holds behind a step. -/
theorem forall₂_narrowLast {R : Nat → Nat → Prop} {width : Nat} (hnarrow : ∀ w, R w width → R w (width - 1))
    {widths current : List Nat} (h : List.Forall₂ R widths current) :
    List.Forall₂ R widths (narrowLast width current) := by
  induction h with
  | nil => exact List.Forall₂.nil
  | @cons w v widths current hfirst hrest ih =>
      rw [narrowLast]
      split
      · exact List.Forall₂.cons hfirst ih
      · split
        · next heq =>
            subst heq
            exact List.Forall₂.cons (hnarrow w hfirst) hrest
        · exact List.Forall₂.cons hfirst hrest

theorem givesWay_narrowLast {width : Nat} (h : floor < width) (widths : List Nat) :
    GivesWay widths (narrowLast width widths) :=
  forall₂_narrowLast (fun w hw => by omega) (GivesWay.refl widths)

/-- A step makes no column wider than all were. -/
theorem le_of_mem_narrowLast {width bound : Nat} {widths : List Nat} (h : ∀ w ∈ widths, w ≤ bound) :
    ∀ w ∈ narrowLast width widths, w ≤ bound := by
  fun_induction narrowLast width widths with
  | case1 => exact h
  | case2 w rest _ ih =>
      obtain ⟨hfirst, hrest⟩ := List.forall_mem_cons.mp h
      exact List.forall_mem_cons.mpr ⟨hfirst, ih hrest⟩
  | case3 rest _ =>
      obtain ⟨hfirst, hrest⟩ := List.forall_mem_cons.mp h
      exact List.forall_mem_cons.mpr ⟨by omega, hrest⟩
  | case4 => exact h

/-- A row is at least as wide as it is with all columns at the floor, and no wider if no column is above it. -/
theorem floorWidth_le (widths : List Nat) : floorWidth widths ≤ totalWidth widths := by
  have hsum : (widths.map (min · floor)).sum ≤ widths.sum := by
    induction widths with
    | nil => simp
    | cons w rest ih =>
        simp only [List.map_cons, List.sum_cons]
        omega
  simp only [floorWidth, totalWidth_eq, List.length_map]
  omega

theorem floorWidth_of_widest_le {widths : List Nat} (h : widest widths ≤ floor) :
    floorWidth widths = totalWidth widths := by
  have hsame : widths.map (min · floor) = widths := by
    refine (List.map_congr_left fun w hw => ?_).trans (List.map_id widths)
    exact min_eq_left ((le_widest hw).trans h)
  rw [floorWidth, hsame]

/-- **A step takes one place from the row.** -/
theorem totalWidth_narrowLast {widths : List Nat} (h : floor < widest widths) :
    totalWidth (narrowLast (widest widths) widths) + 1 = totalWidth widths := by
  have hpos : 0 < widest widths := Nat.zero_lt_of_lt h
  have hsum := sum_narrowLast (widest_mem hpos) hpos
  simp only [totalWidth_eq, narrowLast_length]
  omega

/-! ## All steps -/

/-- **So many steps take as many places,** or all that can be taken. -/
theorem totalWidth_squeezeBy (excess : Nat) (widths : List Nat) :
    totalWidth (squeezeBy excess widths) = max (totalWidth widths - excess) (floorWidth widths) := by
  induction excess generalizing widths with
  | zero => exact (Nat.max_eq_left (floorWidth_le widths)).symm
  | succ excess ih =>
      rw [squeezeBy]
      split
      · next hwide =>
          have htotal := totalWidth_narrowLast hwide
          have hfloor : floorWidth (narrowLast (widest widths) widths) = floorWidth widths := by
            rw [floorWidth, map_min_narrowLast hwide, floorWidth]
          rw [ih, hfloor]
          omega
      · next hnarrow =>
          rw [floorWidth_of_widest_le (Nat.le_of_not_lt hnarrow)]
          omega

theorem givesWay_squeezeBy (excess : Nat) (widths : List Nat) : GivesWay widths (squeezeBy excess widths) := by
  induction excess generalizing widths with
  | zero => exact GivesWay.refl widths
  | succ excess ih =>
      rw [squeezeBy]
      split
      · next hwide => exact (givesWay_narrowLast hwide widths).trans (ih _)
      · exact GivesWay.refl widths

/-- **How wide a squeezed row is:** as wide as the limit allows, if it was wider, and never less than with all columns at
the floor. -/
theorem totalWidth_squeeze (widths : List Nat) (limit : Nat) :
    totalWidth (squeeze widths limit) = max (min (totalWidth widths) limit) (floorWidth widths) := by
  rw [squeeze, totalWidth_squeezeBy]
  omega

/-- **No column grows, and none is squeezed below the floor.** -/
theorem givesWay_squeeze (widths : List Nat) (limit : Nat) : GivesWay widths (squeeze widths limit) :=
  givesWay_squeezeBy _ widths

end RemoteShell.Table
