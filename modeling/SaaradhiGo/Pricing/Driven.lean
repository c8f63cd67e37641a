/-
The fare of the distance driven.

When an operator ends a trip, `metered_fare` repeats the arithmetic of the quote from what the
trip recorded: the card in force when it was requested, and the surge in one number of two places.
At the distance and the minutes of the quote it gives the quoted total exactly when those two
places charge the same fare as the surge they stand for (`metered_eq_quoted_iff`).
-/
import SaaradhiGo.Pricing.Reported

namespace SaaradhiGo.Pricing

open SaaradhiGo.Money SaaradhiGo.Fares

/-- `Trip`, with what the fare of the distance driven reads of it. -/
structure BookedTrip where
  zone : Option Zone
  pickup : Point
  requestedVehicleType : Option ℕ
  /-- the class of the vehicle that was assigned -/
  vehicleType : Option ℕ
  requestedAt : ℤ
  currency : Option Currency
  surgeMultiplier : Option ℚ

/-- `rate_card_for_trip`: the card in force when the trip was requested. -/
def rateCardForTrip (m : Market) (trip : BookedTrip) : Option RateCard :=
  (trip.zone <|> m.findZoneForPoint trip.pickup).bind fun zone =>
    (trip.requestedVehicleType <|> trip.vehicleType).bind fun vt =>
      getActiveRateCard m.region m.cards zone.toServiceZone vt trip.requestedAt

/-- `currency_for_trip`: what is stamped on the trip, else its zone's. -/
def currencyForTrip (trip : BookedTrip) : Currency :=
  match trip.currency with
  | some c => c
  | none => (trip.zone.bind (·.currency)).getD (getCountry (trip.zone.bind (·.country))).currency

/-- `trip.surge_multiplier or '1.00'`. -/
def bookedSurge (recorded : Option ℚ) : ℚ :=
  match recorded with
  | none => 1
  | some s => if s = 0 then 1 else s

/-- The numbers cannot be made. -/
structure Unavailable where
  code : String
  message : String
deriving DecidableEq, Repr

/-- What `metered_fare` returns. -/
structure Metered where
  base : ℚ
  distanceFare : ℚ
  timeFare : ℚ
  surgeMultiplier : ℚ
  minFareApplied : Bool
  total : ℚ
  card : RateCard
  pretax : ℚ
  additive : Bool
  taxPercent : ℚ
  fee : ℚ
deriving DecidableEq

/-- The fare of a card with the surge of the trip. -/
def meterWith (card : RateCard) (trip : BookedTrip) (distanceKm minutes : ℚ) : Metered :=
  let currency := currencyForTrip trip
  let distanceFare := card.values.perKmFare * distanceKm
  let timeFare := card.values.perMinFare * minutes
  let preSurge := card.values.baseFare + distanceFare + timeFare
  let surge := bookedSurge trip.surgeMultiplier
  let subtotal := if surge ≠ 1 then preSurge * surge else preSurge
  let minApplied := decide (subtotal < card.values.minFare)
  let subtotal := if minApplied then card.values.minFare else subtotal
  let pretax := roundFare subtotal currency
  let additive := decide ((trip.zone.bind (·.taxMode)).getD .inclusive = .additive)
  let taxPercent := if additive then card.values.gstPercent else 0
  let fee := if additive then quantize ((trip.zone.map (·.perTripFee)).getD 0) currency else 0
  { base := quantize card.values.baseFare currency
    distanceFare := quantize distanceFare currency
    timeFare := quantize timeFare currency
    surgeMultiplier := surge
    minFareApplied := minApplied
    total :=
      if additive then pretax + quantize (pretax * taxPercent / 100) currency + fee else pretax
    card := card
    pretax := pretax
    additive := additive
    taxPercent := taxPercent
    fee := fee }

def meteredFare (m : Market) (trip : BookedTrip) (distanceKm minutes : ℚ) :
    Except Unavailable Metered :=
  match rateCardForTrip m trip with
  | none => .error ⟨"fare_card_unavailable",
      "The fare card this trip was quoted on cannot be found, so the fare for the " ++
      "distance driven cannot be worked out."⟩
  | some card => .ok (meterWith card trip distanceKm minutes)

/-! ## The quoted ride again -/

/-- The trip records what its quote says. -/
structure Booked (p : Priced) (q : Quote) (trip : BookedTrip) : Prop where
  zone : trip.zone = p.zone
  currency : trip.currency = some q.currency
  surgeMultiplier : trip.surgeMultiplier = some q.surgeMultiplier

section Again

variable {p : Priced} {q : Quote} {trip : BookedTrip} {c : RateCard} {vehicleType : String}

/-- The ride comes to what it does with the recorded surge. -/
lemma meterWith_pretax (hbooked : Booked p (p.quote vehicleType) trip) (hcard : p.card = some c) :
    (meterWith c trip p.distanceKm p.durationMin).pretax =
      roundFare (p.dueAt (bookedSurge (some (roundTwo p.charged)))) p.currency := by
  have hvalues : p.values = c.values := by
    rw [Priced.values, hcard]
    rfl
  have hsurge : trip.surgeMultiplier = some (roundTwo p.charged) := by
    rw [hbooked.surgeMultiplier, ← p.surge_eq]
    rfl
  have hcurrency : currencyForTrip trip = p.currency := by
    rw [currencyForTrip, hbooked.currency]
    rfl
  have hpre : c.values.baseFare + c.values.perKmFare * p.distanceKm +
      c.values.perMinFare * p.durationMin = p.preSurge := by
    rw [Priced.preSurge, Priced.distanceFare, Priced.timeFare, hvalues]
  generalize hs : bookedSurge (some (roundTwo p.charged)) = s
  have hone : (if s ≠ 1 then p.preSurge * s else p.preSurge) = p.preSurge * s := by
    split_ifs with h
    · rfl
    · rw [not_not.mp h, mul_one]
  rw [meterWith, hsurge, hs, hcurrency, hpre, hone, Priced.dueAt, hvalues]
  dsimp only
  congr 1
  split_ifs with h
  · exact (max_eq_left (le_of_lt (of_decide_eq_true h))).symm
  · rw [decide_eq_true_eq] at h
    exact (max_eq_right (not_lt.mp h)).symm

def Priced.withCharges (p : Priced) (pretax : ℚ) : ℚ :=
  match p.taxMode with
  | .inclusive => pretax
  | .additive => pretax + quantize (pretax * p.values.gstPercent / 100) p.currency + p.perTripFee

lemma totalFare_eq (p : Priced) : p.totalFare = p.withCharges p.meteredFare := by
  rw [Priced.totalFare, Priced.withCharges, Priced.taxAmount]
  cases p.taxMode <;> rfl

lemma meterWith_total (hbooked : Booked p (p.quote vehicleType) trip) (hcard : p.card = some c) :
    (meterWith c trip p.distanceKm p.durationMin).total =
      p.withCharges (meterWith c trip p.distanceKm p.durationMin).pretax := by
  have hvalues : p.values = c.values := by
    rw [Priced.values, hcard]
    rfl
  have hcurrency : currencyForTrip trip = p.currency := by
    rw [currencyForTrip, hbooked.currency]
    rfl
  rw [Priced.withCharges, Priced.taxMode, Priced.perTripFee, hvalues, ← hbooked.zone, ← hcurrency,
    meterWith]
  dsimp only
  cases (trip.zone.bind (·.taxMode)).getD .inclusive <;> rfl

lemma quantize_mono {x y : ℚ} (h : x ≤ y) (c : Currency) : quantize x c ≤ quantize y c := by
  have hle := Rounding.halfUp_mono (mul_le_mul_of_nonneg_right h (by norm_num : (0 : ℚ) ≤ 100))
  have hcast : (Rounding.halfUp (x * 100) : ℚ) ≤ Rounding.halfUp (y * 100) := by exact_mod_cast hle
  rw [quantize_eq, quantize_eq]
  linarith

/-- Tax that is not negative keeps two fares apart. -/
lemma withCharges_strictMono (p : Priced)
    (hrate : p.taxMode = .additive → 0 ≤ p.values.gstPercent) : StrictMono p.withCharges := by
  intro x y hxy
  rw [Priced.withCharges, Priced.withCharges]
  cases hmode : p.taxMode with
  | inclusive => exact hxy
  | additive =>
      have hle : x * p.values.gstPercent / 100 ≤ y * p.values.gstPercent / 100 := by
        have hmul := mul_le_mul_of_nonneg_right hxy.le (hrate hmode)
        linarith
      have hquantize := quantize_mono hle p.currency
      dsimp only
      linarith

end Again

/-- At the distance and the minutes of the quote the metered fare is the quoted total when no half
unit lies between what the ride comes to with the surge that was charged and with the one that was
recorded, and, where tax on top is not negative, only then. -/
theorem metered_eq_quoted_iff {m m' : Market} {r : Request} {p : Priced} {q : Quote}
    {trip : BookedTrip} {c : RateCard} (hp : resolve m r = .ok p) (hq : quoteFare m r = .ok q)
    (hbooked : Booked p q trip) (hcard : p.card = some c)
    (hresolves : rateCardForTrip m' trip = some c) :
    ∃ d, meteredFare m' trip p.distanceKm p.durationMin = .ok d ∧
      (Alike p.currency p.due (p.dueAt (bookedSurge (some (roundTwo p.charged)))) →
        d.total = q.totalFare) ∧
      ((p.taxMode = .additive → 0 ≤ p.values.gstPercent) → d.total = q.totalFare →
        Alike p.currency p.due (p.dueAt (bookedSurge (some (roundTwo p.charged))))) := by
  obtain rfl := quote_of_ok hp hq
  have hok : meteredFare m' trip p.distanceKm p.durationMin =
      .ok (meterWith c trip p.distanceKm p.durationMin) := by
    rw [meteredFare, hresolves]
  have htotal : (p.quote r.vehicleType).totalFare = p.withCharges p.meteredFare := totalFare_eq p
  refine ⟨_, hok, ?_, ?_⟩
  · intro halike
    rw [meterWith_total hbooked hcard, meterWith_pretax hbooked hcard, htotal, p.meteredFare_eq,
      roundFare_eq_iff.mpr halike]
  · intro hrate heq
    rw [meterWith_total hbooked hcard, htotal] at heq
    have hpretax := (withCharges_strictMono p hrate).injective heq
    rw [meterWith_pretax hbooked hcard, p.meteredFare_eq] at hpretax
    exact roundFare_eq_iff.mp hpretax.symm

/-- A trip booked in the plain market at what a quote says. -/
def plainTrip (p : Priced) (q : Quote) : BookedTrip where
  zone := p.zone
  pickup := (17, 78)
  requestedVehicleType := some 1
  vehicleType := none
  requestedAt := 100
  currency := some q.currency
  surgeMultiplier := some q.surgeMultiplier

lemma plainTrip_booked (p : Priced) (q : Quote) : Booked p q (plainTrip p q) := ⟨rfl, rfl, rfl⟩

lemma plainTrip_resolves {p : Priced} (q : Quote) (hour : ℤ) (reading : Reading)
    (hzone : p.zone = some (plainZone .india .inclusive)) :
    rateCardForTrip (plainMarket cityValues_columns (plainZone .india .inclusive) hour reading)
      (plainTrip p q) = some (plainCard cityValues) := by
  have hlookup : getActiveRateCard
      ⟨Table.empty.put (plainZone .india .inclusive).toServiceZone, [1]⟩ (plainCards cityValues)
      (plainZone .india .inclusive).toServiceZone 1 100 = some (plainCard cityValues) := by
    decide +kernel
  have htrip : (plainTrip p q).zone = some (plainZone .india .inclusive) := hzone
  rw [rateCardForTrip, htrip]
  exact hlookup

/-- The ride of ten kilometres at midnight was quoted at 273 rupees and is metered at 274. -/
theorem not_metered_eq_quoted :
    ¬ ∀ (m m' : Market) (r : Request) (p : Priced) (q : Quote) (trip : BookedTrip) (c : RateCard)
      (d : Metered), resolve m r = .ok p → quoteFare m r = .ok q → Booked p q trip →
        p.card = some c → rateCardForTrip m' trip = some c →
          meteredFare m' trip p.distanceKm p.durationMin = .ok d → d.total = q.totalFare := by
  intro hall
  obtain ⟨p, hp, hf⟩ := Fallible.exists_of_any (e := resolve nightCity (plainRide 10 30))
    (f := fun p => decide (p.card = some (plainCard cityValues)) &&
      decide (p.zone = some (plainZone .india .inclusive)) &&
      decide (roundFare p.due p.currency = 273) &&
      decide (roundFare (p.dueAt (bookedSurge (some (roundTwo p.charged)))) p.currency = 274))
    (by decide +kernel)
  obtain ⟨q, hq, -⟩ := Fallible.exists_of_any (e := quoteFare nightCity (plainRide 10 30))
    (f := fun _ => true) (by decide +kernel)
  rw [Bool.and_eq_true, Bool.and_eq_true, Bool.and_eq_true, decide_eq_true_eq, decide_eq_true_eq,
    decide_eq_true_eq, decide_eq_true_eq] at hf
  obtain ⟨⟨⟨hcard, hzone⟩, hquoted⟩, hmetered⟩ := hf
  have hresolves := plainTrip_resolves q 0 (.counts 10 15) hzone
  obtain ⟨d, hd, -, hback⟩ := metered_eq_quoted_iff hp hq (plainTrip_booked p q) hcard hresolves
  have hmode : p.taxMode ≠ .additive := by
    rw [Priced.taxMode, hzone]
    decide
  have halike := hback (fun h => absurd h hmode)
    (hall _ _ _ p q _ _ d hp hq (plainTrip_booked p q) hcard hresolves hd)
  rw [← roundFare_eq_iff, hquoted, hmetered] at halike
  norm_num at halike

/-- A ride there by day. -/
theorem metered_eq_quoted_busyCity :
    ∃ p q d, resolve busyCity (plainRide 10 30) = .ok p ∧
      quoteFare busyCity (plainRide 10 30) = .ok q ∧
        meteredFare busyCity (plainTrip p q) p.distanceKm p.durationMin = .ok d ∧
          d.total = q.totalFare := by
  obtain ⟨p, hp, hf⟩ := Fallible.exists_of_any (e := resolve busyCity (plainRide 10 30))
    (f := fun p => decide (p.card = some (plainCard cityValues)) &&
      decide (p.zone = some (plainZone .india .inclusive)) &&
      decide (roundFare p.due p.currency =
        roundFare (p.dueAt (bookedSurge (some (roundTwo p.charged)))) p.currency))
    (by decide +kernel)
  obtain ⟨q, hq, -⟩ := Fallible.exists_of_any (e := quoteFare busyCity (plainRide 10 30))
    (f := fun _ => true) (by decide +kernel)
  rw [Bool.and_eq_true, Bool.and_eq_true, decide_eq_true_eq, decide_eq_true_eq,
    decide_eq_true_eq] at hf
  obtain ⟨⟨hcard, hzone⟩, halike⟩ := hf
  have hresolves := plainTrip_resolves q 12 (.counts 10 30) hzone
  obtain ⟨d, hd, hforward, -⟩ :=
    metered_eq_quoted_iff hp hq (plainTrip_booked p q) hcard hresolves
  exact ⟨p, q, d, hp, hq, hd, hforward (roundFare_eq_iff.mp halike)⟩

end SaaradhiGo.Pricing
