import Mathlib.Data.Int.Notation
import Mathlib.Data.Nat.Notation
import Mathlib.Algebra.GroupWithZero.Nat

/-! Quotients of integers rounded to binary64 and written with two decimals. -/

namespace Decimal

/-- The nearest natural number to a quotient, the even one of two. -/
def roundHalfEven (numerator denominator : ℕ) : ℕ :=
  let quotient := numerator / denominator
  let remainder := numerator % denominator
  if 2 * remainder < denominator then quotient
  else if denominator < 2 * remainder then quotient + 1
  else quotient + quotient % 2

def scale (numerator denominator : ℕ) (exponent : ℤ) : ℕ × ℕ :=
  (numerator * 2 ^ exponent.toNat, denominator * 2 ^ (-exponent).toNat)

/-- The nearest number of 53 significant bits to a positive quotient, as a quotient. -/
def roundToF64 (numerator denominator : ℕ) : ℕ × ℕ :=
  if numerator = 0 then (0, 1)
  else
    let guess : ℤ := 52 - ((Nat.log2 numerator : ℤ) - (Nat.log2 denominator : ℤ))
    let scaled := scale numerator denominator guess
    let exponent := if scaled.1 < 2 ^ 52 * scaled.2 then guess + 1 else guess
    let scaled := scale numerator denominator exponent
    scale (roundHalfEven scaled.1 scaled.2) 1 (-exponent)

def twoDigits (n : ℕ) : List Char := [Nat.digitChar (n / 10 % 10), Nat.digitChar (n % 10)]

/-- `{:.2}` of a nonnegative quotient. -/
def formatFixed2 (numerator denominator : ℕ) : List Char :=
  let hundredths := roundHalfEven (100 * numerator) denominator
  Nat.toDigits 10 (hundredths / 100) ++ '.' :: twoDigits hundredths

/-- `count as f64 * 100.0 / total as f64` with two decimals, for a positive total. -/
def formatPercent (count total : ℤ) : List Char :=
  let counted := roundToF64 count.natAbs 1
  let hundredfold := roundToF64 (100 * counted.1) counted.2
  let totaled := roundToF64 total.natAbs 1
  let percent := roundToF64 (hundredfold.1 * totaled.2) (hundredfold.2 * totaled.1)
  (if count < 0 then ['-'] else []) ++ formatFixed2 percent.1 percent.2

example : formatPercent 1 3 = ['3', '3', '.', '3', '3'] := by decide

example : formatPercent 1 800 = ['0', '.', '1', '2'] := by decide

end Decimal
