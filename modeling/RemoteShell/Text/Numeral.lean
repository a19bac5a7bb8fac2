/-!
# Decimal numerals

Whole numbers as decimal digits, with an optional sign where the reader allows one. Reading is bounded: a numeral
outside the range asked for is refused, however long it is.

Main statements:

* `readNat?_writeNat`: a written number reads back.
* `readInt?_writeInt`: so does a signed one, within its range.
-/

namespace RemoteShell.Text

/-- The digit of a number below ten. -/
def digitChar (d : Nat) : Char :=
  Char.ofNat (48 + d)

/-- The decimal digits of a number, without leading zeros. -/
def writeNat (n : Nat) : List Char :=
  if n < 10 then [digitChar n] else writeNat (n / 10) ++ [digitChar (n % 10)]

/-- A signed number: the digits, after a minus sign below zero. -/
def writeInt (n : Int) : List Char :=
  if n < 0 then '-' :: writeNat n.natAbs else writeNat n.natAbs

/-- The number that some digits stand for. -/
def digitsValue (cs : List Char) : Nat :=
  cs.foldl (fun n c => n * 10 + (c.toNat - 48)) 0

/-- The number written by one or more ASCII digits and nothing else. -/
def readNat? (cs : List Char) : Option Nat :=
  if !cs.isEmpty && cs.all Char.isDigit then some (digitsValue cs) else none

/-- A number from `0` to `most`, with an optional plus sign. -/
def readUnsigned? (most : Nat) (cs : List Char) : Option Nat :=
  let digits := match cs with
    | '+' :: rest => rest
    | _ => cs
  (readNat? digits).filter (· ≤ most)

/-- A number with an optional sign, of any size. -/
def readSigned? : List Char → Option Int
  | '+' :: rest => (readNat? rest).map Int.ofNat
  | '-' :: rest => (readNat? rest).map fun n => -Int.ofNat n
  | cs => (readNat? cs).map Int.ofNat

/-- A number from `least` to `most`, with an optional sign. -/
def readInt? (least most : Int) (cs : List Char) : Option Int :=
  (readSigned? cs).filter fun n => least ≤ n && n ≤ most

/-- The range of signed sixty-four-bit numbers. -/
def isInt64 (n : Int) : Bool :=
  -9223372036854775808 ≤ n && n ≤ 9223372036854775807

/-- The greatest unsigned sixty-four-bit number. -/
def maxUInt64 : Nat := 18446744073709551615

/-- A signed sixty-four-bit number, with an optional sign. -/
def readInt64? (cs : List Char) : Option Int :=
  readInt? (-9223372036854775808) 9223372036854775807 cs

/-- A number padded on the left with zeros to a width. -/
def padZeros (width : Nat) (cs : List Char) : List Char :=
  List.replicate (width - cs.length) '0' ++ cs

theorem digitChar_toNat {d : Nat} (h : d < 10) : (digitChar d).toNat = 48 + d := by
  have hall : ∀ e ∈ List.range 10, (digitChar e).toNat = 48 + e := by decide
  exact hall d (List.mem_range.mpr h)

theorem digitChar_isDigit {d : Nat} (h : d < 10) : (digitChar d).isDigit = true := by
  have hall : ∀ e ∈ List.range 10, (digitChar e).isDigit = true := by decide
  exact hall d (List.mem_range.mpr h)

theorem digitsValue_append_digit (cs : List Char) (c : Char) :
    digitsValue (cs ++ [c]) = digitsValue cs * 10 + (c.toNat - 48) := by
  simp [digitsValue, List.foldl_append]

theorem digitsValue_writeNat (n : Nat) : digitsValue (writeNat n) = n := by
  induction n using Nat.strongRecOn with
  | _ n ih =>
    rw [writeNat]
    split
    · next h => simp [digitsValue, digitChar_toNat h]
    · next h =>
      rw [digitsValue_append_digit, ih (n / 10) (by omega), digitChar_toNat (Nat.mod_lt _ (by omega))]
      omega

/-- A written number consists of digits. -/
theorem isDigit_of_mem_writeNat {n : Nat} {c : Char} (h : c ∈ writeNat n) : c.isDigit = true := by
  induction n using Nat.strongRecOn with
  | _ n ih =>
    rw [writeNat] at h
    split at h
    · next hn =>
      rw [List.mem_singleton.mp h]
      exact digitChar_isDigit hn
    · next hn =>
      rcases List.mem_append.mp h with h | h
      · exact ih (n / 10) (by omega) h
      · rw [List.mem_singleton.mp h]
        exact digitChar_isDigit (Nat.mod_lt _ (by omega))

theorem writeNat_ne_nil (n : Nat) : writeNat n ≠ [] := by
  rw [writeNat]
  split <;> simp

/-- **A written number reads back.** -/
theorem readNat?_writeNat (n : Nat) : readNat? (writeNat n) = some n := by
  have hall : (writeNat n).all Char.isDigit = true :=
    List.all_eq_true.mpr fun c hc => isDigit_of_mem_writeNat hc
  have hne : (writeNat n).isEmpty = false := by
    simpa using writeNat_ne_nil n
  simp [readNat?, hall, hne, digitsValue_writeNat]

theorem readSigned?_writeInt (n : Int) : readSigned? (writeInt n) = some n := by
  rw [writeInt]
  split
  · next h =>
    simp only [readSigned?, readNat?_writeNat, Option.map_some, Option.some.injEq, Int.ofNat_eq_natCast]
    omega
  · next h =>
    have hread := readNat?_writeNat n.natAbs
    have hdigit : ∀ c ∈ writeNat n.natAbs, c.isDigit = true := fun c => isDigit_of_mem_writeNat
    revert hread hdigit
    cases writeNat n.natAbs with
    | nil => simp [readNat?]
    | cons c rest =>
      intro hread hdigit
      have hc := hdigit c (by simp)
      unfold readSigned?
      split
      · next heq => simp_all
      · next heq => simp_all
      · rw [hread, Option.map_some, Option.some.injEq, Int.ofNat_eq_natCast]
        omega

/-- A signed number reads back within its range. -/
theorem readInt?_writeInt {least most n : Int} (hl : least ≤ n) (hm : n ≤ most) :
    readInt? least most (writeInt n) = some n := by
  simp only [readInt?, readSigned?_writeInt, Option.filter]
  simp [hl, hm]

end RemoteShell.Text
