/-
Tax on a fare with a promo.

Where tax is added on top it is charged on what the rider pays for the fare, so a discount lowers
the taxable amount.  Amounts are whole minor units.
-/
import SaaradhiGo.Settlement.Trip

namespace SaaradhiGo.Pricing

open SaaradhiGo.Money

/-- A percentage of an amount, rounded once. -/
def percentOf (percent : ℚ) (minor : ℤ) : ℤ := roundHalfUp (minor * percent / 100)

/-- `split_additive`: fare, tax and fee of a total that contains them. -/
def splitAdditive (total : ℤ) (percent : ℚ) (fee : ℤ) : ℤ × ℤ × ℤ :=
  let fee := min fee total
  let split := Settlement.splitAdditive (total - fee) percent
  (split.1, split.2, fee)

/-- What `adjust` returns. -/
structure Adjusted where
  tax : ℤ
  taxBefore : ℤ
  full : ℤ
  discount : ℤ
  payable : ℤ
  relief : ℤ
deriving DecidableEq, Repr

/-- `adjust`: the tax is on the discounted fare and never more than it was. -/
def adjust (pretax : ℤ) (percent : ℚ) (fee discount taxBefore : ℤ) : Adjusted :=
  let taxable := max 0 (pretax - discount)
  let tax := min (percentOf percent taxable) taxBefore
  let full := pretax + tax + fee
  let applied := min discount full
  { tax := tax
    taxBefore := taxBefore
    full := full
    discount := applied
    payable := full - applied
    relief := taxBefore - tax }

/-- Tax that is no longer charged is never negative. -/
lemma adjust_relief_nonneg (pretax : ℤ) (percent : ℚ) (fee discount taxBefore : ℤ) :
    0 ≤ (adjust pretax percent fee discount taxBefore).relief :=
  sub_nonneg.mpr (min_le_right _ _)

lemma adjust_full (pretax : ℤ) (percent : ℚ) (fee discount taxBefore : ℤ) :
    (adjust pretax percent fee discount taxBefore).full =
      pretax + taxBefore + fee - (adjust pretax percent fee discount taxBefore).relief := by
  show pretax + min _ taxBefore + fee = pretax + taxBefore + fee - (taxBefore - min _ taxBefore)
  omega

end SaaradhiGo.Pricing
