/-
Receipts made on the terms of the charge.

A charge with tax on top is a fare with its tax and the fee, held at an upfront price, and with a
promo the tax is on what is left of the fare.  A receipt that finds the percentage, the fee and the
discount of the charge states its tax: the tax is within half a unit of the percentage of the fare
(`Terms.taxFits_iff_not_tie`).  Only the fare that is backed out of an upfront price can be half a
unit off, and then the receipt rounds the half to the other side.  Nothing keeps the cards and the
zones as they were, so a later price changes the tax of a receipt (`later_price_changes_receipt`).
-/
import SaaradhiGo.Receipts.Stated

namespace SaaradhiGo.Receipts

open SaaradhiGo.Money SaaradhiGo.Fares SaaradhiGo.Pricing SaaradhiGo.Settlement
open SaaradhiGo.OperatorEnd Rounding

/-- What a charge with tax on top was worked out from, in minor units. -/
structure Terms where
  percent : ℚ
  percent_nonneg : 0 ≤ percent
  /-- the per-trip fee -/
  fee : ℕ
  /-- the fare of the quote, or of the distance driven -/
  pretax : ℕ
  cap : ℕ
  /-- the discount of a promo, nought without one -/
  promo : ℕ

namespace Terms

variable (t : Terms)

/-! ## The charge -/

/-- Whether the charge is held at the upfront price. -/
def Held : Prop := (t.cap : ℤ) < uncapped t.percent t.pretax t.fee

instance : Decidable t.Held := inferInstanceAs (Decidable (_ < _))

def rest : ℤ := (t.cap : ℤ) - min (t.fee : ℤ) t.cap

def fare : ℤ := if t.Held then backedOut t.percent t.rest else t.pretax

def fareTax : ℤ :=
  if t.Held then t.rest - backedOut t.percent t.rest
  else halfUp ((t.pretax : ℚ) * (t.percent / 100))

def feeCharged : ℤ := if t.Held then min (t.fee : ℤ) t.cap else t.fee

def total : ℤ := if t.Held then t.cap else uncapped t.percent t.pretax t.fee

lemma within :
    Within t.percent t.pretax t.fee t.cap (tolerance t.percent) t.fare t.fareTax t.feeCharged
      t.total := by
  by_cases h : t.Held
  · rw [fare, fareTax, feeCharged, total, if_pos h, if_pos h, if_pos h, if_pos h]
    exact within_of_gt t.percent_nonneg (Int.natCast_nonneg _) (Int.natCast_nonneg _)
      (Int.natCast_nonneg _) h
  · rw [fare, fareTax, feeCharged, total, if_neg h, if_neg h, if_neg h, if_neg h]
    exact within_of_le t.percent_nonneg (Int.natCast_nonneg _) (Int.natCast_nonneg _)
      (not_lt.mp h)

/-- The fare with the tax on the rest of it: `adjust`. -/
def adjusted : Adjusted := adjust t.fare t.percent t.feeCharged t.promo t.fareTax

/-- The full charge, with the tax on what the promo leaves of the fare. -/
def full : ℤ := if t.promo = 0 then t.total else t.adjusted.full

def tax : ℤ := if t.promo = 0 then t.fareTax else t.adjusted.tax

def discount : ℤ := if t.promo = 0 then 0 else t.adjusted.discount

def taxable : ℤ := max 0 (t.fare - t.promo)

/-- The fare that was backed out of the upfront price came out at half a unit. -/
def Tie : Prop :=
  t.promo = 0 ∧ t.Held ∧ ∃ k : ℤ, (t.rest : ℚ) / (1 + t.percent / 100) = k + 1 / 2

/-! ## The tax of the charge -/

lemma rate_nonneg : 0 ≤ t.percent / 100 := div_nonneg t.percent_nonneg (by norm_num)

lemma tolerance_pos : 0 < tolerance t.percent := by
  have h := t.rate_nonneg
  rw [tolerance]
  linarith

lemma taxFits_of_abs_lt {percent : ℚ} {n tax : ℤ}
    (h : |(n : ℚ) * (percent / 100) - tax| < tolerance percent) :
    TaxFits percent ((n + tax : ℤ) : ℚ) tax := by
  left
  have hgap : gap percent ((n + tax : ℤ) : ℚ) tax = n * (percent / 100) - tax := by
    rw [gap]
    push_cast
    ring
  rw [hgap]
  exact h.trans_le (le_abs_self _)

/-- The rounded percentage of a fare fits. -/
lemma abs_percentOf_lt (n : ℤ) :
    |(n : ℚ) * (t.percent / 100) - percentOf t.percent n| < tolerance t.percent := by
  have hrate := t.rate_nonneg
  have hrounded : percentOf t.percent n = halfUp ((n : ℚ) * (t.percent / 100)) := by
    rw [percentOf, mul_div_assoc]
    rfl
  have herror := abs_error_le ((n : ℚ) * (t.percent / 100))
  rw [error, ← hrounded, abs_sub_comm] at herror
  rcases hrate.eq_or_lt with hzero | hpos
  · -- nothing is rounded when there is no tax
    have hnone : percentOf t.percent n = 0 := by
      rw [hrounded, ← hzero, mul_zero]
      exact halfUp_intCast (α := ℚ) 0
    rw [hnone, ← hzero, mul_zero, Int.cast_zero, sub_zero, abs_zero]
    exact t.tolerance_pos
  · refine herror.trans_lt ?_
    rw [tolerance]
    linarith

/-- With a promo the tax is below half a unit off, whichever of the two amounts it is. -/
lemma abs_adjusted_lt (hpromo : t.promo ≠ 0) :
    |(t.taxable : ℚ) * (t.percent / 100) - t.adjusted.tax| < tolerance t.percent := by
  have hrate := t.rate_nonneg
  have hw := t.within
  have htax : t.adjusted.tax = min (percentOf t.percent t.taxable) t.fareTax := rfl
  rcases le_or_gt (percentOf t.percent t.taxable) t.fareTax with hle | hlt
  · rw [htax, min_eq_left hle]
    exact t.abs_percentOf_lt t.taxable
  · -- the tax of the whole fare is less: the taxed rest is below the fare
    rw [htax, min_eq_right hlt.le]
    have hcharged := (abs_le.mp hw.tax_near).1
    rw [mul_div_assoc] at hcharged
    have hone : (t.fareTax : ℚ) + 1 ≤ percentOf t.percent t.taxable := by exact_mod_cast hlt
    have hround := abs_le.mp (abs_error_le ((t.taxable : ℚ) * (t.percent / 100)))
    have hpos : 0 < t.percent / 100 := by
      by_contra hnot
      have hzero : t.percent / 100 = 0 := le_antisymm (not_lt.mp hnot) hrate
      have hnone : percentOf t.percent t.taxable = 0 := by
        rw [percentOf, mul_div_assoc, hzero, mul_zero]
        exact halfUp_intCast (α := ℚ) 0
      have htaxnonneg := hw.tax_nonneg
      omega
    have hpercentOf : (percentOf t.percent t.taxable : ℚ) =
        error ((t.taxable : ℚ) * (t.percent / 100)) + t.taxable * (t.percent / 100) := by
      rw [error, percentOf, mul_div_assoc]
      exact (sub_add_cancel _ _).symm
    have hbelow : t.taxable < t.fare := by
      rcases (le_max_left 0 (t.fare - t.promo)).eq_or_lt with h0 | h0
      · -- nothing is taxed, and no tax is less than that
        have hnone : t.taxable = 0 := h0.symm
        rw [hnone] at hlt
        have hzero : percentOf t.percent 0 = 0 := by
          rw [percentOf, Int.cast_zero, zero_mul, zero_div]
          exact halfUp_intCast (α := ℚ) 0
        have htaxnonneg := hw.tax_nonneg
        omega
      · have : t.taxable = max 0 (t.fare - t.promo) := rfl
        omega
    have hless : (t.taxable : ℚ) * (t.percent / 100) < t.fare * (t.percent / 100) :=
      mul_lt_mul_of_pos_right (by exact_mod_cast hbelow) hpos
    have htol := t.tolerance_pos
    rw [abs_lt]
    constructor <;> linarith [hround.2]

/-- The tax of the charge is the percentage of what is taxed up to half a unit, except for a fare
at half a unit. -/
theorem taxFits_iff_not_tie :
    TaxFits t.percent ((t.taxable + t.tax : ℤ) : ℚ) t.tax ↔ ¬ t.Tie := by
  by_cases hpromo : t.promo = 0
  · have htax : t.tax = t.fareTax := if_pos hpromo
    have htaxable : t.taxable = t.fare := by
      have hnonneg := t.within.base_nonneg
      rw [taxable, hpromo]
      omega
    rw [htax, htaxable]
    by_cases h : t.Held
    · -- the fare is the rounded quotient, and the gap is what rounding moved it by
      have hrate := t.rate_nonneg
      have hone : 0 < 1 + t.percent / 100 := by linarith
      have hfare : t.fare = backedOut t.percent t.rest := if_pos h
      have hfareTax : t.fareTax = t.rest - t.fare := by
        rw [hfare]
        exact if_pos h
      have hnear : Nearest t.fare ((t.rest : ℚ) / (1 + t.percent / 100)) :=
        halfUp_eq_iff_nearest.mp hfare.symm
      have hnonneg := t.within.base_nonneg
      have htaxnonneg := t.within.tax_nonneg
      obtain ⟨y, hy⟩ : ∃ y : ℚ, y = (t.rest : ℚ) / (1 + t.percent / 100) := ⟨_, rfl⟩
      have hrest : (t.rest : ℚ) = y * (1 + t.percent / 100) := by
        rw [hy, div_mul_cancel₀ _ hone.ne']
      have hgap : gap t.percent ((t.fare + t.fareTax : ℤ) : ℚ) t.fareTax =
          -((y - t.fare) * (1 + t.percent / 100)) := by
        rw [gap, hfareTax]
        push_cast
        rw [hrest]
        ring
      have htie : t.Tie ↔ ∃ k : ℤ, y = k + 1 / 2 := by
        rw [Tie, ← hy]
        exact ⟨fun hall => hall.2.2, fun hk => ⟨hpromo, h, hk⟩⟩
      rw [← hy] at hnear
      rw [htie]
      rcases hnear with hlt | ⟨hpos, hhalf⟩ | ⟨hneg, -⟩
      · refine iff_of_true (taxFits_of_abs_lt ?_) ?_
        · have hsame : (t.fare : ℚ) * (t.percent / 100) - t.fareTax =
              gap t.percent ((t.fare + t.fareTax : ℤ) : ℚ) t.fareTax := by
            rw [gap]
            push_cast
            ring
          rw [hsame, hgap, abs_neg, abs_mul, abs_of_pos hone, tolerance]
          calc |y - t.fare| * (1 + t.percent / 100) < 1 / 2 * (1 + t.percent / 100) :=
                mul_lt_mul_of_pos_right hlt hone
            _ = (1 + t.percent / 100) / 2 := by ring
        · rintro ⟨k, hk⟩
          rw [hk, abs_lt] at hlt
          have hlow : ((t.fare - 1 : ℤ) : ℚ) < k := by
            push_cast
            linarith [hlt.1]
          have hhigh : (k : ℚ) < t.fare := by linarith [hlt.2]
          have hlow' : t.fare - 1 < k := by exact_mod_cast hlow
          have hhigh' : k < t.fare := by exact_mod_cast hhigh
          omega
      · refine iff_of_false ?_ (not_not.mpr ⟨t.fare - 1, ?_⟩)
        · have hhigh : gap t.percent ((t.fare + t.fareTax : ℤ) : ℚ) t.fareTax =
              tolerance t.percent := by
            rw [hgap, hhalf, tolerance]
            ring
          have htol := t.tolerance_pos
          rw [TaxFits, hhigh]
          rintro (hlt | ⟨-, heq⟩ | ⟨hneg, -⟩)
          · exact lt_irrefl _ hlt
          · linarith
          · omega
        · push_cast
          linarith
      · omega
    · have hfare : t.fare = t.pretax := if_neg h
      have hrounded : t.fareTax = percentOf t.percent t.fare := by
        rw [hfare, percentOf, mul_div_assoc]
        exact if_neg h
      refine iff_of_true (taxFits_of_abs_lt ?_) fun htie => h htie.2.1
      rw [hrounded]
      exact t.abs_percentOf_lt t.fare
  · have htax : t.tax = t.adjusted.tax := if_neg hpromo
    rw [htax]
    exact iff_of_true (taxFits_of_abs_lt (t.abs_adjusted_lt hpromo)) fun htie => hpromo htie.1

/-- At four per cent a fare of 12.5 cents is backed out of 13. -/
example : Tie ⟨4, by norm_num, 0, 100, 13, 0⟩ :=
  ⟨rfl, by decide +kernel, 12, by norm_num [rest]⟩

/-! ## The charge of a trip -/

/-- The trip was charged on these terms, and its snapshot recorded the fare and the fee. -/
structure Of (c : Charge) : Prop where
  additive : c.trip.additiveTax = true
  stored : c.trip.storedSplit = some (t.fare, t.feeCharged)
  full : fareMinor c.trip = t.full
  discount : c.discount = t.discount

/-- A receipt finds the percentage, the fee and the discount of the charge, and its fare. -/
structure Found (c : Charge) (x : Context) : Prop where
  mode : taxMode x.booked = .additive
  percent : x.percent = t.percent
  fee : x.fee = t.fee
  discount : heldDiscount c.trip x.held = t.discount
  total : totalFare c.trip = fareMinor c.trip

variable {t}

lemma tax_nonneg : 0 ≤ t.tax := by
  have hfareTax := t.within.tax_nonneg
  rw [tax]
  split
  · exact hfareTax
  · exact le_min (percentOf_nonneg t.percent_nonneg (le_max_left _ _)) hfareTax

lemma full_eq : t.full = t.fare + t.tax + t.feeCharged := by
  rw [full, tax]
  split
  · exact t.within.sum.symm
  · rfl

lemma Of.tax {c : Charge} (h : t.Of c) : c.tax = t.tax := by
  have hw := t.within
  have hsplit : settlementSplit c.trip (fareMinor c.trip) c.discount =
      some ⟨t.fare, t.tax, t.feeCharged⟩ := by
    have hrest : t.full - t.fare - t.feeCharged = t.tax := by
      rw [full_eq]
      omega
    rw [settlementSplit, h.additive, h.stored, h.full]
    simp only [Bool.not_true, Bool.false_eq_true, if_false, Option.bind_some, hrest]
    rw [if_pos ⟨hw.base_nonneg, hw.fee_nonneg, tax_nonneg⟩]
    rfl
  rw [Charge.tax, if_pos h.additive, hsplit]
  rfl

/-- A fee that is cut to the upfront price leaves nothing for the fare and the tax. -/
lemma feeCharged_eq :
    t.feeCharged = t.fee ∨ t.feeCharged ≤ t.fee ∧ t.fare = 0 ∧ t.fareTax = 0 := by
  by_cases h : t.Held
  · rcases le_total (t.fee : ℤ) t.cap with hle | hle
    · left
      rw [feeCharged, if_pos h, min_eq_left hle]
    · right
      have hrest : t.rest = 0 := by
        rw [rest, min_eq_right hle, sub_self]
      have hbacked : backedOut t.percent 0 = 0 := by
        rw [backedOut, Int.cast_zero, zero_div]
        exact halfUp_intCast (α := ℚ) 0
      refine ⟨?_, ?_, ?_⟩
      · rw [feeCharged, if_pos h]
        exact min_le_left _ _
      · rw [fare, if_pos h, hrest, hbacked]
      · rw [fareTax, if_pos h, hrest, hbacked, sub_self]
  · left
    rw [feeCharged, if_neg h]

lemma discount_eq (hpromo : t.promo ≠ 0) : t.discount = min (t.promo : ℤ) t.full := by
  have hfull : t.full = t.adjusted.full := if_neg hpromo
  rw [hfull]
  exact if_neg hpromo

lemma charged_sub_fee : max 0 (t.full - t.discount - t.fee) = t.taxable + t.tax := by
  have hw := t.within
  have hbase := hw.base_nonneg
  have hfee := hw.fee_nonneg
  have hfull := t.full_eq
  have htaxable : t.taxable = max 0 (t.fare - t.promo) := rfl
  have htaxnonneg := t.tax_nonneg
  by_cases hpromo : t.promo = 0
  · have hdiscount : t.discount = 0 := if_pos hpromo
    have htax : t.tax = t.fareTax := if_pos hpromo
    rcases t.feeCharged_eq with heq | ⟨hle, hfare, hfareTax⟩ <;> omega
  · have hdiscount := t.discount_eq hpromo
    have htax : t.tax = min (percentOf t.percent t.taxable) t.fareTax := if_neg hpromo
    have hnone : percentOf t.percent 0 = 0 := by
      rw [percentOf, Int.cast_zero, zero_mul, zero_div]
      exact halfUp_intCast (α := ℚ) 0
    rcases le_or_gt (t.promo : ℤ) t.fare with hle | hlt
    · rcases t.feeCharged_eq with heq | ⟨hfeele, hfare, hfareTax⟩ <;> omega
    · -- the promo is more than the fare, and nothing is taxed
      have hzero : t.taxable = 0 := by omega
      rw [hzero, hnone] at htax
      rcases t.feeCharged_eq with heq | ⟨hfeele, hfare, hfareTax⟩ <;> omega

/-- A receipt that finds the terms of the charge works its tax out of what was taxed. -/
lemma Found.base {c : Charge} {x : Context} (hc : t.Of c) (h : t.Found c x) :
    x.base c = ((t.taxable + t.tax : ℤ) : ℚ) := by
  have hfull := t.full_eq
  have hw := t.within
  have htaxnonneg := t.tax_nonneg
  have hbasis : taxBasis c x = t.full - t.discount := by
    rw [taxBasis, h.mode]
    dsimp only
    rw [h.discount, h.total, hc.full, payableMinor, hc.full]
    split
    · omega
    · rename_i hdiscount
      have hheld := t.discount_eq fun hpromo => hdiscount (if_pos hpromo)
      have hbase := hw.base_nonneg
      have hfee := hw.fee_nonneg
      omega
  have hint : (taxBasis c x : ℚ) - x.fee = ((t.full - t.discount - t.fee : ℤ) : ℚ) := by
    rw [hbasis, h.fee]
    push_cast
    rfl
  have hzero : (0 : ℚ) = ((0 : ℤ) : ℚ) := Int.cast_zero.symm
  rw [Context.base, h.mode]
  dsimp only
  rw [hint, hzero, ← Int.cast_max, charged_sub_fee]

/-- A receipt on the terms of the charge states its tax, except for a fare at half a unit. -/
theorem states_iff_not_tie {c : Charge} {x : Context} (hc : t.Of c) (h : t.Found c x) :
    x.States c ↔ ¬ t.Tie := by
  have hone : 1 + x.percent / 100 ≠ 0 := by
    have hrate := t.rate_nonneg
    rw [h.percent]
    linarith
  rw [Context.States, if_neg hone, h.base hc, h.percent, hc.tax]
  exact t.taxFits_iff_not_tie

end Terms

/-! ## The receipts of a trip -/

/-- A receipt of a trip whose fare contains its tax finds the percentage of the charge, and its
fare. -/
structure FoundInclusive (c : Charge) (x : Context) : Prop where
  inclusive : c.trip.additiveTax = false
  mode : taxMode x.booked = .inclusive
  percent : x.percent = c.percent
  works : x.Works
  total : totalFare c.trip = fareMinor c.trip

lemma FoundInclusive.states {c : Charge} {x : Context} (h : FoundInclusive c x) : x.States c := by
  have hone : 1 + x.percent / 100 ≠ 0 := by
    intro hzero
    exact h.works h.mode (by linarith)
  have hbase : x.base c = fareMinor c.trip := by
    rw [Context.base, taxBasis, h.mode]
    dsimp only
    rw [h.total]
  have htax : halfUp (contained x.percent (x.base c)) = c.tax := by
    rw [Charge.tax, h.inclusive, contained, hbase, h.percent]
    rfl
  rw [Context.States, if_neg hone, ← nearest_contained_iff hone]
  exact halfUp_eq_iff_nearest.mp htax

/-- The receipts of a trip state the tax it was charged exactly when each was made in a context
that does, and one that finds what the trip was charged on does, except for a fare at half a
unit. -/
theorem receipts_state_charged_tax (c : Charge) (x : Context) (events : List Event) :
    ((∀ r ∈ (Transition.run (step c) (opening x) events).receipts,
        r.gstAmount = fromMinor c.tax r.currency) ↔
      Transition.Guarded (step c) (fun d e => Makes d e → d.context.States c) (opening x)
        events) ∧
    (∀ (t : Terms) (now : Context), t.Of c → t.Found c now → (now.States c ↔ ¬ t.Tie)) ∧
    ∀ now : Context, FoundInclusive c now → now.States c := by
  refine ⟨?_, fun t now hc h => Terms.states_iff_not_tie hc h, fun now h => h.states⟩
  have hrun : (∀ r ∈ (Transition.run (step c) (opening x) events).receipts, Stated c r) ↔
      (∀ r ∈ (opening x).receipts, Stated c r) ∧ Transition.Guarded (step c)
        (fun d e => Makes d e → d.context.States c) (opening x) events :=
    Transition.run_iff_guarded (J := fun d : Desk => ∀ r ∈ d.receipts, Stated c r)
      fun d e => stated_step c d e
  have hopening : ∀ r ∈ (opening x).receipts, Stated c r :=
    fun _ hr => absurd hr List.not_mem_nil
  exact hrun.trans (and_iff_right hopening)

/-! ## A later price -/

/-- A fare of 105 rupees, of which five are tax. -/
def sedanCharge : Charge where
  trip :=
    { id := 1
      driver := some 1
      platformFunded := false
      currency := .inr
      finalFareMinor := none
      estimatedFareMinor := some 10500
      additiveTax := false
      storedSplit := none
      additiveContext := none
      commissionPercent := some 10 }
  discount := 0
  percent := 5
  completedMonth := some "202601"

/-- The card of the city, at another percentage. -/
def cityValuesAt (percent : ℚ) : CardValues := { cityValues with gstPercent := percent }

lemma cityValuesAt_columns {percent : ℚ} (h : ThreePlaces percent) :
    Columns (cityValuesAt percent) :=
  { cityValues_columns with gstPercent := h }

/-- The trip in its city, when the card has that percentage. -/
def sedanContext {percent : ℚ} (h : ThreePlaces percent) : Context where
  market := plainMarket (cityValuesAt_columns h) (plainZone .india .inclusive) 12 .unavailable
  booked :=
    { zone := some (plainZone .india .inclusive)
      pickup := (17, 78)
      requestedVehicleType := some 1
      vehicleType := some 1
      requestedAt := 50
      currency := some .inr
      surgeMultiplier := none }
  held := none
  rider := some "rider@example.com"
  paymentMethod := "cash"
  paymentStatus := "paid"
  month := "202602"

lemma threePlaces_five : ThreePlaces 5 := by decide +kernel

lemma threePlaces_twelve : ThreePlaces 12 := by decide +kernel

/-- A fare of 100 dollars with five of tax on top. -/
def dollarTerms : Terms := ⟨5, by decide, 0, 10000, 20000, 0⟩

def dollarCharge : Charge where
  trip :=
    { sedanCharge.trip with
      currency := .usd
      additiveTax := true
      storedSplit := some (10000, 0) }
  discount := 0
  percent := 5
  completedMonth := some "202601"

/-- The trip in a city where the tax comes on top, at the same percentage. -/
def dollarContext : Context :=
  { sedanContext threePlaces_five with
    market := plainMarket (cityValuesAt_columns threePlaces_five)
      (plainZone .unitedStates .additive) 12 .unavailable
    booked :=
      { (sedanContext threePlaces_five).booked with
        zone := some (plainZone .unitedStates .additive)
        currency := some .usd } }

/-- At the price of the charge a receipt of each trip states its tax. -/
theorem receipts_state_tax_at_same_price :
    (∀ r ∈ (Transition.run (step sedanCharge) (opening (sedanContext threePlaces_five))
        [.issue false (true, "")]).receipts, r.gstAmount = fromMinor sedanCharge.tax r.currency) ∧
      dollarContext.States dollarCharge := by
  have hfound : FoundInclusive sedanCharge (sedanContext threePlaces_five) := by
    refine ⟨rfl, rfl, ?_, fun _ => ?_, ?_⟩ <;> decide +kernel
  have hof : dollarTerms.Of dollarCharge := by
    refine ⟨rfl, ?_, ?_, ?_⟩ <;> decide +kernel
  have hterms : dollarTerms.Found dollarCharge dollarContext := by
    refine ⟨rfl, ?_, ?_, ?_, ?_⟩ <;> decide +kernel
  -- the fare is not held at the upfront price
  have hfree : ¬ dollarTerms.Tie := fun htie => absurd htie.2.1 (by decide +kernel)
  have hsedan := receipts_state_charged_tax sedanCharge (sedanContext threePlaces_five)
    [.issue false (true, "")]
  have hdollar := receipts_state_charged_tax dollarCharge dollarContext []
  refine ⟨hsedan.1.mpr ⟨fun _ => hsedan.2.2 _ hfound, trivial⟩, ?_⟩
  exact (hdollar.2.1 dollarTerms dollarContext hof hterms).mpr hfree

/-- The card goes up to twelve per cent before the receipt is made, which states 11.25 rupees. -/
theorem later_price_changes_receipt :
    ¬ ∀ (c : Charge) (x : Context) (events : List Event),
      ∀ r ∈ (Transition.run (step c) (opening x) events).receipts,
        r.gstAmount = fromMinor c.tax r.currency := by
  intro h
  exact absurd (h sedanCharge (sedanContext threePlaces_five)
    [.change (sedanContext threePlaces_twelve), .issue false (true, "")]) (by decide +kernel)

end SaaradhiGo.Receipts
