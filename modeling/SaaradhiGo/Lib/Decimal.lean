/-
Decimal numbers with two places, as Python's `decimal` module keeps and prints them.

A number that was quantized to two places is a sign and a count of hundredths; the sign of
zero is kept.  The module's precision of 28 digits bounds how long its text can be.
-/
import SaaradhiGo.Lib.Rounding
import Mathlib.Data.Rat.Floor
import Mathlib.Data.NNRat.Defs

namespace Python

inductive Decimal where
  | finite (minus : Bool) (magnitude : ℚ≥0)
  | infinity (minus : Bool)
  | nan
deriving DecidableEq

/-- A number with two places. -/
structure Hundredths where
  minus : Bool
  count : ℕ
  /-- the coefficient has at most 28 digits -/
  fits : count < 10 ^ 28
deriving DecidableEq

namespace Decimal

/-- `d < 0`; a number that is none cannot be compared. -/
def isNegative : Decimal → Option Bool
  | finite minus magnitude => some (minus && 0 < magnitude)
  | infinity minus => some minus
  | nan => none

/-- `d.quantize(Decimal('0.01'))`: half to even, and `InvalidOperation` when the result does
not fit. -/
def quantize : Decimal → Option Hundredths
  | finite minus magnitude =>
      let count := (Rounding.halfEven ((magnitude : ℚ) * 100)).toNat
      if h : count < 10 ^ 28 then some ⟨minus, count, h⟩ else none
  | infinity _ => none
  | nan => none

end Decimal

namespace Hundredths

/-- `plain_number`: `15`, `7.5`, never `1.5E+1` or `15.00`. -/
def plain (d : Hundredths) : List Char :=
  (if d.minus then ['-'] else []) ++ Nat.toDigits 10 (d.count / 100) ++
    if d.count % 100 = 0 then []
    else if d.count % 10 = 0 then ['.', Nat.digitChar (d.count % 100 / 10)]
    else ['.', Nat.digitChar (d.count % 100 / 10), Nat.digitChar (d.count % 10)]

/-- The text is short: a sign, at most 26 digits, a point and two digits. -/
lemma length_plain_le (d : Hundredths) : d.plain.length ≤ 30 := by
  have hdigits : (Nat.toDigits 10 (d.count / 100)).length ≤ 26 := by
    rw [Nat.length_toDigits_le_iff (by omega) (by omega)]
    have h := d.fits
    omega
  have hsign : (if d.minus then ['-'] else []).length ≤ 1 := by
    split
    · exact le_refl 1
    · exact Nat.zero_le 1
  have hplaces : (if d.count % 100 = 0 then []
      else if d.count % 10 = 0 then ['.', Nat.digitChar (d.count % 100 / 10)]
      else ['.', Nat.digitChar (d.count % 100 / 10), Nat.digitChar (d.count % 10)]).length
        ≤ 3 := by
    split
    · exact Nat.zero_le 3
    split
    · exact Nat.le_succ 2
    · exact le_refl 3
  rw [plain, List.length_append, List.length_append]
  omega

def value (d : Hundredths) : ℤ := if d.minus then -d.count else d.count

end Hundredths

end Python
