/-!
# Binary floating-point numbers

Magnitudes of the binary format with fifty-three significant bits, as a whole number times a power of two. Every
operation is the exact one on fractions followed by one rounding to the nearest magnitude, of two equally near ones to
that with the even mantissa. Everything is computed on natural numbers.

Main statements:

* `roundDiv_le`, `le_roundDiv`: a rounded quotient is within half a unit of the exact one.
-/

namespace RemoteShell.Decimal

/-- The magnitude `mantissa · 2 ^ exponent`. -/
structure Binary where
  mantissa : Nat
  exponent : Int
deriving DecidableEq, Repr

/-- The quotient of two whole numbers, rounded to the nearest; a tie goes to the even neighbour. -/
def roundDiv (num den : Nat) : Nat :=
  let below := num / den
  let left := num % den
  if 2 * left < den then below
  else if den < 2 * left then below + 1
  else if below % 2 = 0 then below
  else below + 1

/-- A fraction divided by a power of two. -/
def scale (num den : Nat) (exponent : Int) : Nat × Nat :=
  if exponent < 0 then (num * Nat.pow 2 exponent.natAbs, den) else (num, den * Nat.pow 2 exponent.natAbs)

namespace Binary

/-- The least exponent of the format. -/
def leastExponent : Int := -1074

/-- The greatest exponent of the format. -/
def mostExponent : Int := 971

/-- Nothing at all. -/
def zero : Binary := ⟨0, leastExponent⟩

/-- The magnitude nearest to a fraction; none if the fraction is too large for the format. -/
def ofFraction? (num den : Nat) : Option Binary :=
  if num = 0 then some zero
  else
    let guess : Int := (Nat.log2 num : Int) - (Nat.log2 den : Int) - 52
    let (n, d) := scale num den guess
    let exact := if n < d * Nat.pow 2 52 then guess - 1 else guess
    let exponent := max exact leastExponent
    let (n, d) := scale num den exponent
    let mantissa := roundDiv n d
    let result : Binary := if mantissa = Nat.pow 2 53 then ⟨Nat.pow 2 52, exponent + 1⟩ else ⟨mantissa, exponent⟩
    if result.exponent ≤ mostExponent then some result else none

/-- The magnitude as a fraction. -/
def fraction (b : Binary) : Nat × Nat :=
  if b.exponent < 0 then (b.mantissa, Nat.pow 2 b.exponent.natAbs) else (b.mantissa * Nat.pow 2 b.exponent.natAbs, 1)

/-- The product, rounded. -/
def mul? (a b : Binary) : Option Binary :=
  ofFraction? (a.fraction.1 * b.fraction.1) (a.fraction.2 * b.fraction.2)

/-- The quotient, rounded. -/
def div? (a b : Binary) : Option Binary :=
  ofFraction? (a.fraction.1 * b.fraction.2) (a.fraction.2 * b.fraction.1)

/-- A power of ten, rounded. -/
def tenTo? (n : Nat) : Option Binary :=
  ofFraction? (Nat.pow 10 n) 1

/-- Divides by a power of ten, at most three hundred and eight places at a time. -/
def shiftRight (b : Binary) (places : Nat) : Binary :=
  if places ≤ 308 then (((tenTo? places).bind b.div?).getD zero)
  else if b.mantissa = 0 then zero
  else shiftRight (((tenTo? 308).bind b.div?).getD zero) (places - 308)
termination_by places

/-- Multiplies by a power of ten; none if the result is too large for the format. -/
def shiftLeft? (b : Binary) (places : Nat) : Option Binary :=
  if b.mantissa = 0 then some zero
  else if places ≤ 308 then (tenTo? places).bind b.mul?
  else none

end Binary

/-- A rounded quotient is at most half a unit above the exact one. -/
theorem roundDiv_le {num den : Nat} (h : 0 < den) : 2 * roundDiv num den * den ≤ 2 * num + den := by
  have hdiv : den * (num / den) + num % den = num := Nat.div_add_mod num den
  have hlt : num % den < den := Nat.mod_lt _ h
  have hcomm : num / den * den = den * (num / den) := Nat.mul_comm _ _
  simp only [roundDiv]
  split
  · rw [Nat.mul_assoc]
    omega
  · split
    · rw [Nat.mul_assoc, Nat.add_mul]
      omega
    · split
      · rw [Nat.mul_assoc]
        omega
      · rw [Nat.mul_assoc, Nat.add_mul]
        omega

/-- A rounded quotient is at most half a unit below the exact one. -/
theorem le_roundDiv {num den : Nat} (h : 0 < den) : 2 * num ≤ 2 * roundDiv num den * den + den := by
  have hdiv : den * (num / den) + num % den = num := Nat.div_add_mod num den
  have hlt : num % den < den := Nat.mod_lt _ h
  have hcomm : num / den * den = den * (num / den) := Nat.mul_comm _ _
  simp only [roundDiv]
  split
  · rw [Nat.mul_assoc]
    omega
  · split
    · rw [Nat.mul_assoc, Nat.add_mul]
      omega
    · split
      · rw [Nat.mul_assoc]
        omega
      · rw [Nat.mul_assoc, Nat.add_mul]
        omega

end RemoteShell.Decimal
