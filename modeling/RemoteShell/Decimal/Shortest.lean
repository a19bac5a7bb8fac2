import RemoteShell.Decimal.Binary
import RemoteShell.Text.Numeral

/-!
# Shortest decimal text of a magnitude

The decimal text of a magnitude has the fewest digits that are read back as the same magnitude and, of the texts with
so few digits, is the one nearest to it. The search tries one digit, then two, and so on; on each decimal grid only the
two neighbours of the magnitude can be read back. Where the digits are put is a matter of style.

Main statements:

* `Digits.trim_value`: leaving out final zeros does not change a number.
-/

namespace RemoteShell.Decimal

/-- The decimal number `digits · 10 ^ exponent`. -/
structure Digits where
  digits : Nat
  exponent : Int
deriving DecidableEq, Repr

namespace Digits

/-- The same number without final zeros. -/
def trim (d : Digits) : Digits :=
  if d.digits ≠ 0 ∧ d.digits % 10 = 0 then trim ⟨d.digits / 10, d.exponent + 1⟩ else d
termination_by d.digits
decreasing_by
  omega

end Digits

/-- The fractions that are read back as a magnitude, over a common denominator: the least, the magnitude itself and the
greatest, and whether the two ends belong to them. -/
structure Neighbourhood where
  low : Nat
  value : Nat
  high : Nat
  den : Nat
  closed : Bool
deriving DecidableEq, Repr

namespace Neighbourhood

/-- The fractions that are read back as a magnitude other than zero. -/
def ofBinary (b : Binary) : Neighbourhood :=
  let below := if b.mantissa = Nat.pow 2 52 ∧ Binary.leastExponent < b.exponent then 1 else 2
  let up := if b.exponent < 0 then 1 else Nat.pow 2 b.exponent.natAbs
  let down := if b.exponent < 0 then Nat.pow 2 b.exponent.natAbs else 1
  { low := (4 * b.mantissa - below) * up
    value := 4 * b.mantissa * up
    high := (4 * b.mantissa + 2) * up
    den := 4 * down
    closed := b.mantissa % 2 = 0 }

/-- The place of the first digit: the exponent of the greatest power of ten that is not above the value. -/
def leadingPlace (n : Neighbourhood) : Int :=
  if n.den ≤ n.value then ((Text.writeNat (n.value / n.den)).length : Int) - 1
  else
    let places := ((List.range 400).find? (fun j => n.den ≤ n.value * Nat.pow 10 j)).getD 400
    Int.negOfNat places

/-- A decimal number as a fraction over the denominator of a neighbourhood, with one more common factor: the number and
the factor. -/
def onGrid (n : Neighbourhood) (d : Digits) : Nat × Nat :=
  if d.exponent < 0 then (d.digits * n.den, Nat.pow 10 d.exponent.natAbs)
  else (d.digits * Nat.pow 10 d.exponent.natAbs * n.den, 1)

/-- Whether a decimal number is read back as the magnitude. -/
def holds (n : Neighbourhood) (d : Digits) : Bool :=
  let (x, factor) := n.onGrid d
  if n.closed then n.low * factor ≤ x && x ≤ n.high * factor else n.low * factor < x && x < n.high * factor

/-- How far a decimal number is from the magnitude, in the units of its grid. -/
def distance (n : Neighbourhood) (d : Digits) : Nat :=
  let (x, factor) := n.onGrid d
  (x - n.value * factor) + (n.value * factor - x)

/-- The nearest number with a given number of digits that is read back as the magnitude. -/
def withDigits? (n : Neighbourhood) (place : Int) (count : Nat) : Option Digits :=
  let exponent := place - count + 1
  let floor :=
    if exponent < 0 then n.value * Nat.pow 10 exponent.natAbs / n.den
    else n.value / (n.den * Nat.pow 10 exponent.natAbs)
  let lower : Digits := ⟨floor, exponent⟩
  let upper : Digits := ⟨floor + 1, exponent⟩
  match n.holds lower, n.holds upper with
  | true, true =>
    let l := n.distance lower
    let u := n.distance upper
    some (if l < u then lower else if u < l then upper else if floor % 2 = 0 then lower else upper)
  | true, false => some lower
  | false, true => some upper
  | false, false => none

end Neighbourhood

/-- The shortest decimal number that is read back as a magnitude, without final zeros. -/
def shortest (b : Binary) : Digits :=
  if b.mantissa = 0 then ⟨0, 0⟩
  else
    let n := Neighbourhood.ofBinary b
    let place := n.leadingPlace
    (((List.range 17).findSome? fun i => n.withDigits? place (i + 1)).getD ⟨0, 0⟩).trim

/-- How a decimal number is laid out. -/
structure Layout where
  /-- Numbers whose first digit stands at this place or below it are written with a point before their digits. -/
  leastPlace : Int
  /-- Numbers whose first digit stands above this place are written with an exponent. -/
  mostPlace : Int

/-- The digits of a decimal number with a point or an exponent, whole numbers with `.0`. -/
def Layout.write (layout : Layout) (d : Digits) : List Char :=
  let digits := Text.writeNat d.digits
  let place : Int := digits.length + d.exponent
  if d.digits = 0 then ['0', '.', '0']
  else if 0 ≤ d.exponent ∧ place ≤ layout.mostPlace then
    digits ++ List.replicate d.exponent.toNat '0' ++ ['.', '0']
  else if 0 < place ∧ place ≤ layout.mostPlace then
    digits.take place.toNat ++ '.' :: digits.drop place.toNat
  else if layout.leastPlace < place ∧ place ≤ 0 then
    '0' :: '.' :: List.replicate place.natAbs '0' ++ digits
  else
    let fraction := match digits.drop 1 with
      | [] => []
      | more => '.' :: more
    digits.take 1 ++ fraction ++ 'e' :: Text.writeInt (place - 1)

/-- Leaving out final zeros does not change a number. -/
theorem Digits.trim_value (d : Digits) (h : 0 ≤ d.exponent) :
    d.trim.digits * Nat.pow 10 d.trim.exponent.toNat = d.digits * Nat.pow 10 d.exponent.toNat := by
  fun_induction Digits.trim d with
  | case1 d hd ih =>
    have hexp : (d.exponent + 1).toNat = d.exponent.toNat + 1 := by omega
    rw [ih (by simp only; omega)]
    simp only [hexp, Nat.pow]
    obtain ⟨q, hq⟩ : 10 ∣ d.digits := Nat.dvd_of_mod_eq_zero hd.2
    rw [hq, Nat.mul_div_cancel_left _ (by omega : 0 < 10)]
    ac_rfl
  | case2 => rfl

end RemoteShell.Decimal
