/-!
# International labels

A label of a host name that holds characters beyond ASCII is written with ASCII letters and digits: first its ASCII
characters, then the others in increasing order, each as the distance from where the one before it was put in. The
distances are numbers of base thirty-six whose digits come lowest first; the last digit of a number is the first one
below its threshold, and the thresholds adapt to the distances seen so far.

Main statements:

* `threshold_pos`, `threshold_le`: every threshold lies between one and twenty-six, so that the recursions end.
-/

namespace RemoteShell.Url.Punycode

/-- The digit of a number below thirty-six: letters first. -/
def digit (d : Nat) : Char :=
  if d < 26 then Char.ofNat (97 + d) else Char.ofNat (22 + d)

/-- The number of a digit. -/
def digitValue? (c : Char) : Option Nat :=
  if 'a' ≤ c && c ≤ 'z' then some (c.toNat - 97)
  else if 'A' ≤ c && c ≤ 'Z' then some (c.toNat - 65)
  else if c.isDigit then some (c.toNat - 22)
  else none

/-- The threshold of the digit at the place `k`, which counts in steps of thirty-six. -/
def threshold (k bias : Nat) : Nat :=
  if k ≤ bias then 1 else if bias + 26 ≤ k then 26 else k - bias

theorem threshold_pos (k bias : Nat) : 1 ≤ threshold k bias := by
  unfold threshold
  split
  · omega
  · split <;> omega

theorem threshold_le (k bias : Nat) : threshold k bias ≤ 26 := by
  unfold threshold
  split
  · omega
  · split <;> omega

/-- Halves a distance by thirty-five until it is small: what is left and the steps taken. -/
def settle (delta k : Nat) : Nat × Nat :=
  if 455 < delta then settle (delta / 35) (k + 36) else (delta, k)
termination_by delta

/-- The bias after a distance, when `count` characters have been put in. -/
def adapt (delta count : Nat) (isFirst : Bool) : Nat :=
  let start := if isFirst then delta / 700 else delta / 2
  let (left, k) := settle (start + start / count) 0
  k + 36 * left / (left + 38)

/-- The digits of a distance. -/
def distanceDigits (bias k q : Nat) : List Char :=
  let t := threshold k bias
  if q < t then [digit q]
  else digit (t + (q - t) % (36 - t)) :: distanceDigits bias (k + 36) ((q - t) / (36 - t))
termination_by q
decreasing_by
  have h1 := threshold_pos k bias
  have h2 := Nat.div_le_self (q - threshold k bias) (36 - threshold k bias)
  omega

/-- The state of the encoder while it passes over the label for one code point. -/
structure Encoder where
  out : List Char := []
  delta : Nat := 0
  bias : Nat := 72
  handled : Nat
deriving Repr

/-- Passes one character of the label while the code point `n` is put in. -/
def Encoder.pass (basic n : Nat) (e : Encoder) (c : Char) : Encoder :=
  if c.toNat < n then { e with delta := e.delta + 1 }
  else if c.toNat = n then
    { out := e.out ++ distanceDigits e.bias 36 e.delta, delta := 0
      bias := adapt e.delta (e.handled + 1) (e.handled = basic), handled := e.handled + 1 }
  else e

/-- Puts in the given code points, from the code point `n` on. -/
def Encoder.run (label : List Char) (basic : Nat) : List Nat → Nat → Encoder → Encoder
  | [], _, e => e
  | m :: rest, n, e =>
    let e := label.foldl (pass basic m) { e with delta := e.delta + (m - n) * (e.handled + 1) }
    run label basic rest (m + 1) { e with delta := e.delta + 1 }

/-- The ASCII form of a label, without the mark that says so. -/
def encode (label : List Char) : List Char :=
  let basic := label.filter fun c => c.toNat < 0x80
  let others := ((label.map Char.toNat).filter (0x80 ≤ ·)).mergeSort.eraseReps
  let e := Encoder.run label basic.length others 0x80 { handled := basic.length }
  basic ++ (if basic.isEmpty then [] else ['-']) ++ e.out

/-- Reads one distance: its value added to `i`, and the digits left. -/
def readDistance (bias : Nat) : List Char → Nat → Nat → Nat → Option (Nat × List Char)
  | [], _, _, _ => none
  | c :: rest, k, weight, i => do
    let d ← digitValue? c
    let t := threshold k bias
    if d < t then some (i + d * weight, rest)
    else readDistance bias rest (k + 36) (weight * (36 - t)) (i + d * weight)

/-- Puts the characters of distances into a label. The first argument bounds their number. -/
def insertAll : Nat → List Char → Nat → Nat → Nat → List Char → Option (List Char)
  | _, label, _, _, _, [] => some label
  | 0, _, _, _, _, _ => none
  | bound + 1, label, n, i, bias, digits => do
    let (next, rest) ← readDistance bias digits 36 1 i
    let count := label.length + 1
    let code := n + next / count
    let at_ := next % count
    if 0x10FFFF < code || (0xD800 ≤ code && code ≤ 0xDFFF) then none
    else
      insertAll bound (label.take at_ ++ Char.ofNat code :: label.drop at_) code (at_ + 1)
        (adapt (next - i) count (i = 0)) rest

/-- The label of an ASCII form without its mark. -/
def decode? (cs : List Char) : Option (List Char) :=
  if cs.any fun c => 0x80 ≤ c.toNat then none
  else
    let basic := ((cs.reverse.dropWhile (· != '-')).drop 1).reverse
    let digits := (cs.reverse.takeWhile (· != '-')).reverse
    insertAll digits.length basic 0x80 0 72 digits

end RemoteShell.Url.Punycode
