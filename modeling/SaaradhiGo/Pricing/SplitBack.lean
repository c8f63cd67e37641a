/-
A quoted total, split back.

Where tax is added on top a quote is the metered fare, its tax and the fee.  `split_additive` finds
the three again from the total alone: it looks for the fare around the rounded quotient.  The fare
is among those it looks at, and no other fare makes up the total.
-/
import SaaradhiGo.Pricing.Reported
import SaaradhiGo.Pricing.PromoTax

namespace SaaradhiGo.Pricing

open SaaradhiGo.Money

/-! ## The search -/

/-- `split_additive`, in major units. -/
def splitQuoted (total percent fee : ℚ) (currency : Currency) : ℚ × ℚ × ℚ :=
  let fee := min fee total
  let remainder := total - fee
  let guess := quantize (remainder / (1 + percent / 100)) currency
  let one := fromMinor 1 currency
  let steps : List ℤ := [0, -1, 1, -2, 2]
  let found := (steps.map fun step : ℤ => guess + one * step).find? fun pretax =>
    0 ≤ pretax && pretax + quantize (pretax * percent / 100) currency = remainder
  match found with
  | some pretax => (pretax, remainder - pretax, fee)
  | none => (guess, remainder - guess, fee)

/-- What is searched is found when it is there and nothing else fits. -/
lemma find?_eq_of_unique {β : Type*} {l : List β} {fits : β → Bool} {x : β} (hmem : x ∈ l)
    (hfits : fits x) (hunique : ∀ y ∈ l, fits y → y = x) : l.find? fits = some x := by
  cases hfind : l.find? fits with
  | none => exact absurd hfits (List.find?_eq_none.mp hfind x hmem)
  | some y =>
      rw [hunique y (List.mem_of_find?_eq_some hfind) (List.find?_some hfind)]

section Search

variable {percent : ℚ} {n fee : ℤ}

/-- A fare with its tax, in minor units. -/
lemma onTop_percent : Rounding.onTop (percent / 100) n = n + percentOf percent n := by
  rw [Rounding.onTop, percentOf, mul_div_assoc]
  rfl

lemma guess_near (hpercent : 0 ≤ percent) :
    |roundHalfUp ((n + percentOf percent n : ℤ) / (1 + percent / 100)) - n| ≤ 1 := by
  rw [← onTop_percent]
  exact Rounding.abs_halfUp_onTop_div_sub_le (div_nonneg hpercent (by norm_num))

/-- Only the fare itself makes up the fare with its tax. -/
lemma eq_of_withTax {k : ℤ} (hpercent : 0 ≤ percent)
    (h : k + percentOf percent k = n + percentOf percent n) : k = n := by
  rw [← onTop_percent, ← onTop_percent] at h
  exact Rounding.onTop_injective (div_nonneg hpercent (by norm_num)) h

lemma percentOf_nonneg (hpercent : 0 ≤ percent) (hn : 0 ≤ n) : 0 ≤ percentOf percent n := by
  rw [percentOf, mul_div_assoc]
  exact Rounding.onTop_nonneg (div_nonneg hpercent (by norm_num)) hn

/-- The steps of the search reach the neighbours of the guess. -/
lemma mem_steps {guess : ℤ} (h : |guess - n| ≤ 1) :
    n ∈ ([0, -1, 1, -2, 2] : List ℤ).map (guess + ·) := by
  rw [abs_le] at h
  obtain h0 | h1 | h2 : n = guess ∨ n = guess - 1 ∨ n = guess + 1 := by omega
  · exact List.mem_map.mpr ⟨0, by simp, by omega⟩
  · exact List.mem_map.mpr ⟨-1, by simp, by omega⟩
  · exact List.mem_map.mpr ⟨1, by simp, by omega⟩

/-- The search finds the fare of a total without a fee. -/
theorem splitAdditive_withTax (hpercent : 0 ≤ percent) (hn : 0 ≤ n) :
    Settlement.splitAdditive (n + percentOf percent n) percent = (n, percentOf percent n) := by
  have hfind : (([0, -1, 1, -2, 2] : List ℤ).map
      (roundHalfUp ((n + percentOf percent n : ℤ) / (1 + percent / 100)) + ·)).find?
        (fun pretax : ℤ => 0 ≤ pretax &&
          pretax + roundHalfUp (pretax * percent / 100) = n + percentOf percent n) = some n := by
    refine find?_eq_of_unique (mem_steps (guess_near hpercent)) ?_ ?_
    · simp [hn, percentOf]
    · intro k _ hk
      rw [Bool.and_eq_true, decide_eq_true_eq, decide_eq_true_eq] at hk
      exact eq_of_withTax hpercent hk.2
  rw [Settlement.splitAdditive, hfind, Option.getD_some, add_sub_cancel_left]

/-- The search finds the fare, the tax and the fee of a total. -/
theorem splitAdditive_total (hpercent : 0 ≤ percent) (hn : 0 ≤ n) :
    splitAdditive (n + percentOf percent n + fee) percent fee = (n, percentOf percent n, fee) := by
  have htax := percentOf_nonneg hpercent hn
  have hfee : min fee (n + percentOf percent n + fee) = fee := min_eq_left (by omega)
  rw [splitAdditive, hfee, add_sub_cancel_right, splitAdditive_withTax hpercent hn]

end Search

/-! ## In major units -/

section Major

variable {percent : ℚ} {total fee : ℤ}

lemma fromMinor_inj {a b : ℤ} {c : Currency} : fromMinor a c = fromMinor b c ↔ a = b := by
  rw [le_antisymm_iff, fromMinor_le, fromMinor_le, ← le_antisymm_iff]

/-- The amounts that are searched, in minor units. -/
lemma steps_minor (guess : ℤ) (currency : Currency) :
    (([0, -1, 1, -2, 2] : List ℤ).map fun step : ℤ =>
        fromMinor guess currency + fromMinor 1 currency * step) =
      (([0, -1, 1, -2, 2] : List ℤ).map (guess + ·)).map (fromMinor · currency) := by
  rw [List.map_map]
  refine List.map_congr_left fun step _ => ?_
  show fromMinor guess currency + fromMinor 1 currency * step = fromMinor (guess + step) currency
  rw [fromMinor_eq, fromMinor_eq, fromMinor_eq]
  push_cast
  ring

lemma fits_minor (percent : ℚ) (k remainder : ℤ) (currency : Currency) :
    (decide (0 ≤ fromMinor k currency) && decide (fromMinor k currency +
        quantize (fromMinor k currency * percent / 100) currency = fromMinor remainder currency)) =
      (decide (0 ≤ k) && decide (k + roundHalfUp (k * percent / 100) = remainder)) := by
  have hzero : (0 : ℚ) = fromMinor 0 currency := by
    rw [fromMinor_eq, Int.cast_zero, zero_div]
  rw [quantize_percent, fromMinor_add, hzero, ← mul_div_assoc]
  simp only [fromMinor_le, fromMinor_inj]
  rfl

/-- On whole minor units `split_additive` is the search in minor units. -/
theorem splitQuoted_minor (currency : Currency) :
    splitQuoted (fromMinor total currency) percent (fromMinor fee currency) currency =
      (fromMinor (splitAdditive total percent fee).1 currency,
        fromMinor (splitAdditive total percent fee).2.1 currency,
        fromMinor (splitAdditive total percent fee).2.2 currency) := by
  have hrounded : ∀ q : ℚ, Rounding.halfUp q = roundHalfUp q := fun _ => rfl
  rw [splitQuoted, splitAdditive, Settlement.splitAdditive]
  simp only [fromMinor_min, fromMinor_sub, quantize_quotient]
  rw [steps_minor]
  simp only [List.find?_map, Function.comp_def, fits_minor, hrounded]
  generalize List.find? _ ([0, -1, 1, -2, 2] : List ℤ) = found
  cases found with
  | none => rfl
  | some step => simp only [Option.map_some, Option.getD_some, fromMinor_sub]

end Major

/-! ## Quotes -/

namespace Priced

variable {p : Priced}

/-- The metered fare, the tax and the fee are whole minor units. -/
lemma meteredFare_minor (p : Priced) : ∃ n : ℤ, p.meteredFare = fromMinor n p.currency := by
  rw [meteredFare]
  cases hcurrency : p.currency with
  | inr => exact ⟨toMinor (roundHalfUp p.subtotal) .inr, rfl⟩
  | usd => exact ⟨toMinor p.subtotal .usd, rfl⟩

lemma perTripFee_minor (p : Priced) : ∃ n : ℤ, p.perTripFee = fromMinor n p.currency := ⟨_, rfl⟩

lemma taxAmount_additive (hmode : p.taxMode = .additive) :
    p.taxAmount = quantize (p.meteredFare * p.values.gstPercent / 100) p.currency := by
  rw [taxAmount, hmode]

lemma totalFare_additive (hmode : p.taxMode = .additive) :
    p.totalFare = p.meteredFare + p.taxAmount + p.perTripFee := by
  rw [totalFare, hmode]

/-- A fare is at least the minimum fare, and not negative when that is not. -/
lemma meteredFare_nonneg (h : 0 ≤ p.values.minFare) : 0 ≤ p.meteredFare := by
  have hsubtotal : 0 ≤ p.subtotal := by
    rw [subtotal]
    split_ifs with hmin
    · exact h
    · rw [minFareApplied, decide_eq_true_eq, not_lt] at hmin
      exact h.trans hmin
  have hzero : roundFare 0 p.currency = 0 := by
    rw [roundFare_eq, zero_mul]
    have hround := Rounding.halfUp_intCast (α := ℚ) 0
    rw [Int.cast_zero] at hround
    rw [hround, Int.cast_zero, zero_div]
  have hle : roundFare 0 p.currency ≤ roundFare p.subtotal p.currency :=
    roundFare_le_iff.mpr (Covers.of_le hsubtotal)
  rwa [hzero] at hle

end Priced

lemma roundThree_of_threePlaces {x : ℚ} (h : ThreePlaces x) : roundThree x = x := by
  obtain ⟨n, hn⟩ : ∃ n : ℤ, x * 1000 = n :=
    ⟨(x * 1000).num, ((Rat.den_eq_one_iff _).mp h).symm⟩
  rw [roundThree, hn, Rounding.halfEven_intCast, ← hn]
  ring

lemma Priced.minor_of_additive {p : Priced} (hmode : p.taxMode = .additive)
    (hmin : 0 ≤ p.values.minFare) :
    ∃ n fee : ℤ, 0 ≤ n ∧ p.meteredFare = fromMinor n p.currency ∧
      p.taxAmount = fromMinor (percentOf p.values.gstPercent n) p.currency ∧
      p.perTripFee = fromMinor fee p.currency ∧
      p.totalFare = fromMinor (n + percentOf p.values.gstPercent n + fee) p.currency := by
  obtain ⟨n, hn⟩ := p.meteredFare_minor
  obtain ⟨fee, hfee⟩ := p.perTripFee_minor
  have htax : p.taxAmount = fromMinor (percentOf p.values.gstPercent n) p.currency := by
    rw [Priced.taxAmount_additive hmode, hn, quantize_percent, ← mul_div_assoc]
    rfl
  have hnonneg : 0 ≤ n := by
    have h := Priced.meteredFare_nonneg hmin
    rw [hn, fromMinor_eq] at h
    have hcast : (0 : ℚ) ≤ n := by linarith
    exact_mod_cast hcast
  refine ⟨n, fee, hnonneg, hn, htax, hfee, ?_⟩
  rw [Priced.totalFare_additive hmode, hn, htax, hfee, fromMinor_add, fromMinor_add]

/-- A quote with tax on top is split back into its fare, its tax and its fee, and no other amount
makes up its total; `quote_fare` reports the percentage it was made with. -/
theorem quote_split_back {p : Priced} (vehicleType : String)
    (hmode : (p.quote vehicleType).taxMode = .additive) (hmin : 0 ≤ p.values.minFare)
    (hpercent : 0 ≤ p.values.gstPercent) :
    splitQuoted (p.quote vehicleType).totalFare p.values.gstPercent
        (p.quote vehicleType).perTripFee (p.quote vehicleType).currency =
      (p.meteredFare, (p.quote vehicleType).taxAmount, (p.quote vehicleType).perTripFee) ∧
    (∀ x : ℚ, x + quantize (x * p.values.gstPercent / 100) (p.quote vehicleType).currency +
        (p.quote vehicleType).perTripFee = (p.quote vehicleType).totalFare → x = p.meteredFare) ∧
    ∀ (m : Market) (r : Request), resolve m r = .ok p → r.vehicleType = vehicleType →
      quoteFare m r = .ok (p.quote vehicleType) ∧
        (p.quote vehicleType).taxPercent = p.values.gstPercent := by
  change p.taxMode = .additive at hmode
  obtain ⟨n, fee, hn, hpretax, htax, hfee, htotal⟩ := Priced.minor_of_additive hmode hmin
  refine ⟨?_, ?_, ?_⟩
  · show splitQuoted p.totalFare p.values.gstPercent p.perTripFee p.currency =
      (p.meteredFare, p.taxAmount, p.perTripFee)
    rw [htotal, hfee, splitQuoted_minor, splitAdditive_total hpercent hn, hpretax, htax]
  · intro x hx
    change x + quantize (x * p.values.gstPercent / 100) p.currency + p.perTripFee =
      p.totalFare at hx
    -- what is left of the total without fee and tax is whole minor units
    obtain ⟨k, hk⟩ : ∃ k : ℤ, x = fromMinor k p.currency := by
      refine ⟨n + percentOf p.values.gstPercent n -
        toMinor (x * p.values.gstPercent / 100) p.currency, ?_⟩
      rw [← fromMinor_sub]
      change _ = _ - quantize (x * p.values.gstPercent / 100) p.currency
      rw [htotal, hfee, ← fromMinor_add] at hx
      linarith
    rw [hk, quantize_percent, ← mul_div_assoc, hfee, fromMinor_add, fromMinor_add, htotal,
      fromMinor_inj] at hx
    have hk' : k = n := eq_of_withTax hpercent (by
      change k + percentOf p.values.gstPercent k + fee = _ at hx
      omega)
    rw [hk, hk', hpretax]
  · rintro m r hp rfl
    constructor
    · rw [quoteFare, hp]
      dsimp only
      rw [if_neg]
      rintro ⟨hinclusive, -⟩
      rw [hmode] at hinclusive
      cases hinclusive
    · exact roundThree_of_threePlaces (columns_of_resolve hp).gstPercent

/-- Ten miles and twenty minutes where tax comes on top. -/
def dollarRide : Priced where
  zone := some (plainZone .unitedStates .additive)
  card := none
  distanceKm := 10
  durationMin := 20
  night := false
  dyn := 1

/-- 190 dollars, and 9.50 of tax. -/
theorem quote_split_back_dollarRide :
    splitQuoted (dollarRide.quote "cab").totalFare dollarRide.values.gstPercent
        (dollarRide.quote "cab").perTripFee (dollarRide.quote "cab").currency =
      (dollarRide.meteredFare, (dollarRide.quote "cab").taxAmount,
        (dollarRide.quote "cab").perTripFee) :=
  (quote_split_back (p := dollarRide) "cab" rfl (by decide +kernel) (by decide +kernel)).1

end SaaradhiGo.Pricing
