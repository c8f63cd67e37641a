/-
Tax on what an operator charges for a trip that is ended early.

Where tax is added on top, the metered fare is charged with its tax and the fee as long as they fit
the upfront price.  Above it `tax_on_charged` holds the total at that price and backs the fare out
of it; the tax takes what the rounding of the fare leaves.  The fare is one of whole minor units,
and so is every part of the charge.
-/
import SaaradhiGo.Pricing.Lines

namespace SaaradhiGo.OperatorEnd

open SaaradhiGo.Money SaaradhiGo.Pricing

/-- What `tax_on_charged` returns, in major units. -/
structure Charged where
  base : ℚ
  tax : ℚ
  fee : ℚ
  total : ℚ
deriving DecidableEq, Repr

def taxOnCharged (pretax taxPercent fee cap : ℚ) (currency : Currency) : Charged :=
  let tax := quantize (pretax * taxPercent / 100) currency
  if pretax + tax + fee ≤ cap then ⟨pretax, tax, fee, pretax + tax + fee⟩
  else
    -- a fee above the cap is cut to it
    let feeC := min fee cap
    let base := quantize ((cap - feeC) / (1 + taxPercent / 100)) currency
    let base := min base (cap - feeC)
    ⟨base, cap - feeC - base, feeC, cap⟩

/-- A charge of whole minor units. -/
def Charged.ofMinor (base tax fee total : ℤ) (currency : Currency) : Charged :=
  ⟨fromMinor base currency, fromMinor tax currency, fromMinor fee currency,
    fromMinor total currency⟩

/-! ## The charge -/

section Charge

variable {percent : ℚ} {pretax fee cap : ℤ}

/-- The charge with tax and fee, before it is held at the cap. -/
def uncapped (percent : ℚ) (pretax fee : ℤ) : ℤ := Rounding.onTop (percent / 100) pretax + fee

def backedOut (percent : ℚ) (total : ℤ) : ℤ := Rounding.halfUp ((total : ℚ) / (1 + percent / 100))

lemma taxOnCharged_minor (currency : Currency) :
    taxOnCharged (fromMinor pretax currency) percent (fromMinor fee currency)
        (fromMinor cap currency) currency =
      if uncapped percent pretax fee ≤ cap then
        .ofMinor pretax (Rounding.halfUp ((pretax : ℚ) * (percent / 100))) fee
          (uncapped percent pretax fee) currency
      else
        .ofMinor (min (backedOut percent (cap - min fee cap)) (cap - min fee cap))
          (cap - min fee cap - min (backedOut percent (cap - min fee cap)) (cap - min fee cap))
          (min fee cap) cap currency := by
  simp only [taxOnCharged, quantize_percent, fromMinor_add, fromMinor_min, fromMinor_sub,
    quantize_quotient, fromMinor_le]
  rfl

lemma taxOnCharged_of_le (currency : Currency) (h : uncapped percent pretax fee ≤ cap) :
    taxOnCharged (fromMinor pretax currency) percent (fromMinor fee currency)
        (fromMinor cap currency) currency =
      .ofMinor pretax (Rounding.halfUp ((pretax : ℚ) * (percent / 100))) fee
        (uncapped percent pretax fee) currency := by
  rw [taxOnCharged_minor, if_pos h]

lemma taxOnCharged_of_gt (currency : Currency) (hpercent : 0 ≤ percent)
    (h : cap < uncapped percent pretax fee) :
    taxOnCharged (fromMinor pretax currency) percent (fromMinor fee currency)
        (fromMinor cap currency) currency =
      .ofMinor (backedOut percent (cap - min fee cap))
        (cap - min fee cap - backedOut percent (cap - min fee cap)) (min fee cap) cap currency := by
  have hrate : 0 ≤ percent / 100 := div_nonneg hpercent (by norm_num)
  have hrest : 0 ≤ cap - min fee cap := sub_nonneg.mpr (min_le_right _ _)
  have hbase : backedOut percent (cap - min fee cap) ≤ cap - min fee cap :=
    Rounding.halfUp_div_le hrate hrest
  rw [taxOnCharged_minor, if_neg (not_le.mpr h), min_eq_left hbase]

/-- What is known of a charge: its parts are not negative and make up its total, the total is at
most the cap, and the cap when the charge had to be held at it, the base is at most the fare, and
the tax is the percentage of the base up to the tolerance. -/
structure Within (percent : ℚ) (pretax fee cap : ℤ) (tolerance : ℚ) (base tax feeC total : ℤ) :
    Prop where
  base_nonneg : 0 ≤ base
  tax_nonneg : 0 ≤ tax
  fee_nonneg : 0 ≤ feeC
  sum : base + tax + feeC = total
  total_le : total ≤ cap
  total_eq : cap < uncapped percent pretax fee → total = cap
  base_le : base ≤ pretax
  tax_near : |(tax : ℚ) - base * percent / 100| ≤ tolerance

/-- What the tax of a held charge may be off by: the half unit of the base, with its tax. -/
def tolerance (percent : ℚ) : ℚ := (1 + percent / 100) / 2

lemma within_of_le (hpercent : 0 ≤ percent) (hpretax : 0 ≤ pretax) (hfee : 0 ≤ fee)
    (h : uncapped percent pretax fee ≤ cap) :
    Within percent pretax fee cap (tolerance percent) pretax
      (Rounding.halfUp ((pretax : ℚ) * (percent / 100))) fee (uncapped percent pretax fee) where
  base_nonneg := hpretax
  tax_nonneg := Rounding.onTop_nonneg (div_nonneg hpercent (by norm_num)) hpretax
  fee_nonneg := hfee
  sum := rfl
  total_le := h
  total_eq := fun hlt => absurd h (not_le.mpr hlt)
  base_le := le_rfl
  tax_near := by
    have herror := Rounding.abs_error_le ((pretax : ℚ) * (percent / 100))
    rw [Rounding.error, ← mul_div_assoc] at herror
    rw [← mul_div_assoc]
    have hrate : 0 ≤ percent / 100 := div_nonneg hpercent (by norm_num)
    calc _ ≤ (1 : ℚ) / 2 := herror
      _ ≤ tolerance percent := by
          rw [tolerance]
          linarith

lemma within_of_gt (hpercent : 0 ≤ percent) (hpretax : 0 ≤ pretax) (hfee : 0 ≤ fee)
    (hcap : 0 ≤ cap) (h : cap < uncapped percent pretax fee) :
    Within percent pretax fee cap (tolerance percent) (backedOut percent (cap - min fee cap))
      (cap - min fee cap - backedOut percent (cap - min fee cap)) (min fee cap) cap := by
  have hrate : 0 ≤ percent / 100 := div_nonneg hpercent (by norm_num)
  have hrest : 0 ≤ cap - min fee cap := sub_nonneg.mpr (min_le_right _ _)
  refine
    { base_nonneg := Rounding.halfUp_div_nonneg hrate hrest
      tax_nonneg := sub_nonneg.mpr (Rounding.halfUp_div_le hrate hrest)
      fee_nonneg := le_min hfee hcap
      sum := by omega
      total_le := le_rfl
      total_eq := fun _ => rfl
      base_le := ?_
      tax_near := ?_ }
  · rcases le_total cap fee with hle | hle
    · -- the fee takes the whole cap, and nothing is left for the fare
      have hzero : backedOut percent (cap - min fee cap) ≤ 0 := by
        have hnone : cap - min fee cap = 0 := by omega
        rw [hnone]
        exact Rounding.halfUp_div_le hrate le_rfl
      exact hzero.trans hpretax
    · refine Rounding.halfUp_div_le_of_lt_onTop hrate ?_
      rw [uncapped] at h
      omega
  · rw [mul_div_assoc]
    exact Rounding.abs_rest_sub_le hrate

/-- The whole minor units of a charge: it never exceeds the cap, its parts make it up, and its tax
is the percentage of its base up to half a unit of the base with its tax. -/
theorem charged_within (currency : Currency) (pretax fee cap : ℕ) (percent : ℚ)
    (hpercent : 0 ≤ percent) :
    ∃ base tax feeC total : ℤ,
      taxOnCharged (fromMinor pretax currency) percent (fromMinor fee currency)
          (fromMinor cap currency) currency = .ofMinor base tax feeC total currency ∧
        Within percent pretax fee cap (tolerance percent) base tax feeC total ∧
        (percent ≤ 100 → Within percent pretax fee cap 1 base tax feeC total) := by
  have hwithin : ∃ base tax feeC total : ℤ,
      taxOnCharged (fromMinor pretax currency) percent (fromMinor fee currency)
          (fromMinor cap currency) currency = .ofMinor base tax feeC total currency ∧
        Within percent pretax fee cap (tolerance percent) base tax feeC total := by
    rcases le_or_gt (uncapped percent pretax fee) cap with h | h
    · exact ⟨_, _, _, _, taxOnCharged_of_le currency h,
        within_of_le hpercent (Int.natCast_nonneg _) (Int.natCast_nonneg _) h⟩
    · exact ⟨_, _, _, _, taxOnCharged_of_gt currency hpercent h,
        within_of_gt hpercent (Int.natCast_nonneg _) (Int.natCast_nonneg _)
          (Int.natCast_nonneg _) h⟩
  obtain ⟨base, tax, feeC, total, heq, hw⟩ := hwithin
  refine ⟨base, tax, feeC, total, heq, hw, fun hle => { hw with tax_near := ?_ }⟩
  calc _ ≤ tolerance percent := hw.tax_near
    _ ≤ 1 := by
        rw [tolerance]
        linarith

/-- At a quarter on top. -/
theorem charged_within_ninety :
    ∃ base tax feeC total : ℤ,
      taxOnCharged (fromMinor (100 : ℕ) .usd) 25 (fromMinor (30 : ℕ) .usd)
          (fromMinor (90 : ℕ) .usd) .usd = .ofMinor base tax feeC total .usd ∧
        Within 25 (100 : ℕ) (30 : ℕ) (90 : ℕ) (tolerance 25) base tax feeC total ∧
        ((25 : ℚ) ≤ 100 → Within 25 (100 : ℕ) (30 : ℕ) (90 : ℕ) 1 base tax feeC total) :=
  charged_within .usd 100 30 90 25 (by norm_num)

/-- A rate of 300 % backs two cents out into a base and a tax of one each, two cents short of the
tax on the base. -/
theorem tax_two_cents_short :
    ¬ ∀ (currency : Currency) (pretax fee cap : ℕ) (percent : ℚ), 0 ≤ percent →
      ∃ base tax feeC total : ℤ,
        taxOnCharged (fromMinor pretax currency) percent (fromMinor fee currency)
            (fromMinor cap currency) currency = .ofMinor base tax feeC total currency ∧
          Within percent pretax fee cap 1 base tax feeC total := by
  intro h
  obtain ⟨base, tax, feeC, total, heq, hw⟩ := h .usd 100 0 2 300 (by norm_num)
  have hcharged : taxOnCharged (fromMinor (100 : ℕ) .usd) 300 (fromMinor (0 : ℕ) .usd)
      (fromMinor (2 : ℕ) .usd) .usd = .ofMinor 1 1 0 2 .usd := by decide +kernel
  have hparts := hcharged.symm.trans heq
  simp only [Charged.ofMinor, Charged.mk.injEq, fromMinor_eq] at hparts
  obtain ⟨hbase, htax, -, -⟩ := hparts
  have hbase1 : (base : ℚ) = 1 := by linarith
  have htax1 : (tax : ℚ) = 1 := by linarith
  have hnear := hw.tax_near
  rw [hbase1, htax1] at hnear
  norm_num at hnear

end Charge

end SaaradhiGo.OperatorEnd
