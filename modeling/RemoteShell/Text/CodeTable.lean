import RemoteShell.Text.Fields

/-!
# Tables of code points

Properties of characters are data, written as words with numbers in base sixteen: a range is its first and its last
code point, or one of them if they are the same; behind an equals sign stands what belongs to the range. This module
reads such words.

Main statements:

* `CodeRun.image?_inj`: no two code points of a run have the same image.
-/

namespace RemoteShell.Text

/-- The digit that a character stands for in base sixteen; capital letters stand for the digits above nine. -/
def tableDigit (c : Char) : Nat :=
  if c.isDigit then c.toNat - 48 else c.toNat - 55

/-- The number that a word stands for in base sixteen. -/
def tableNumber (word : List Char) : Nat :=
  word.foldl (fun n c => n * 16 + tableDigit c) 0

/-- The words on some lines. -/
def tableWords (lines : List String) : List (List Char) :=
  lines.flatMap fun line => fields ' ' line.toList

/-- The range that a word stands for. -/
def tableRange (word : List Char) : Nat × Nat :=
  match fields '-' word with
  | [first, last] => (tableNumber first, tableNumber last)
  | _ => (tableNumber word, tableNumber word)

/-- The ranges on some lines. -/
def tableRanges (lines : List String) : List (Nat × Nat) :=
  (tableWords lines).map tableRange

/-- Whether a code point lies in one of some ranges. -/
def inRanges (ranges : List (Nat × Nat)) (n : Nat) : Bool :=
  ranges.any fun (first, last) => first ≤ n && n ≤ last

/-- The parts of a word in front of and behind its equals sign. -/
def tableSides (word : List Char) : List Char × List Char :=
  (word.takeWhile (· != '='), (word.dropWhile (· != '=')).drop 1)

/-- The ranges on some lines with the numbers that belong to them. -/
def tableValues (lines : List String) : List ((Nat × Nat) × Nat) :=
  (tableWords lines).map fun word =>
    let (range, value) := tableSides word
    (tableRange range, tableNumber value)

/-- The number that belongs to a code point. -/
def valueOf? (values : List ((Nat × Nat) × Nat)) (n : Nat) : Option Nat :=
  (values.find? fun ((first, last), _) => first ≤ n && n ≤ last).map (·.2)

/-- A run of code points `first`, `first + step`, … up to `last` whose images start at `target` and keep the
distance. -/
structure CodeRun where
  first : Nat
  last : Nat
  step : Nat
  target : Nat
deriving DecidableEq, Repr

/-- The image of a code point in a run. -/
def CodeRun.image? (run : CodeRun) (n : Nat) : Option Nat :=
  if run.first ≤ n && n ≤ run.last && (n - run.first) % run.step == 0 then some (n - run.first + run.target) else none

/-- The runs on some lines. A step other than one stands behind a slash. -/
def tableRuns (lines : List String) : List CodeRun :=
  (tableWords lines).map fun word =>
    let (left, target) := tableSides word
    let (range, step) := match fields '/' left with
      | [range, step] => (tableRange range, tableNumber step)
      | _ => (tableRange left, 1)
    { first := range.1, last := range.2, step, target := tableNumber target }

/-- No two code points of a run have the same image. -/
theorem CodeRun.image?_inj {run : CodeRun} {n m image : Nat} (hn : run.image? n = some image)
    (hm : run.image? m = some image) : n = m := by
  unfold image? at hn hm
  split at hn
  · next hrangeN =>
    split at hm
    · next hrangeM =>
      simp only [Bool.and_eq_true, decide_eq_true_eq] at hrangeN hrangeM
      simp only [Option.some.injEq] at hn hm
      omega
    · cases hm
  · cases hn

end RemoteShell.Text
