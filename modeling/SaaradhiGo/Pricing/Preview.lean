/-
The preview of a fare card.

A draft card is shown with the fares of sample rides before it is approved.  `quote_from_values`
repeats the metered part of the quote by hand, without demand.  It gives the fare that a quote
gives under a card with those values while demand leaves the fare alone (`preview_eq_quote`).
-/
import SaaradhiGo.Pricing.Reported
import Mathlib.Data.NNRat.Defs

namespace SaaradhiGo.Pricing

open SaaradhiGo.Money SaaradhiGo.Fares

/-! ## The values of a card -/

/-- A value that is refused. -/
structure InvalidRequest where
  message : String
  code : String
  field : String
deriving DecidableEq, Repr

def moneyFields (v : CardValues) : List (String × ℚ) :=
  [("base_fare", v.baseFare), ("per_km_fare", v.perKmFare), ("per_min_fare", v.perMinFare),
    ("min_fare", v.minFare)]

/-- `check_values`: the first value that breaks a rule. -/
def checkValues (v : CardValues) : Except InvalidRequest Unit :=
  match (moneyFields v).find? fun f => f.2 < 0 with
  | some f => .error ⟨f.1 ++ " must be non-negative.", "INVALID_FARE", f.1⟩
  | none =>
      if v.surgeCapMultiplier < 1 then
        .error ⟨"surge_cap_multiplier must be >= 1.00.", "INVALID_FARE", "surge_cap_multiplier"⟩
      else if v.nightSurgeMultiplier < 0 then
        .error ⟨"night_surge_multiplier must be non-negative.", "INVALID_FARE",
          "night_surge_multiplier"⟩
      else .ok ()

/-- What values that are accepted satisfy. -/
structure Checked (v : CardValues) : Prop where
  baseFare : 0 ≤ v.baseFare
  perKmFare : 0 ≤ v.perKmFare
  perMinFare : 0 ≤ v.perMinFare
  minFare : 0 ≤ v.minFare
  surgeCapMultiplier : 1 ≤ v.surgeCapMultiplier
  nightSurgeMultiplier : 0 ≤ v.nightSurgeMultiplier

theorem checkValues_eq_ok {v : CardValues} : checkValues v = .ok () ↔ Checked v := by
  rw [checkValues]
  cases hfind : (moneyFields v).find? fun f => f.2 < 0 with
  | some f =>
      have hneg := List.find?_some hfind
      have hmem := List.mem_of_find?_eq_some hfind
      rw [decide_eq_true_eq] at hneg
      refine iff_of_false (by simp) fun h => ?_
      simp only [moneyFields, List.mem_cons, List.not_mem_nil, or_false] at hmem
      rcases hmem with rfl | rfl | rfl | rfl
      · exact absurd h.baseFare (not_le.mpr hneg)
      · exact absurd h.perKmFare (not_le.mpr hneg)
      · exact absurd h.perMinFare (not_le.mpr hneg)
      · exact absurd h.minFare (not_le.mpr hneg)
  | none =>
      have hall := List.find?_eq_none.mp hfind
      simp only [moneyFields, List.mem_cons, List.not_mem_nil, or_false, forall_eq_or_imp,
        forall_eq, decide_eq_true_eq, not_lt] at hall
      obtain ⟨hbase, hkm, hminute, hmin⟩ := hall
      dsimp only
      split_ifs with hcap hnight
      · exact iff_of_false (by simp) fun h => absurd h.surgeCapMultiplier (not_le.mpr hcap)
      · exact iff_of_false (by simp) fun h => absurd h.nightSurgeMultiplier (not_le.mpr hnight)
      · exact iff_of_true rfl
          ⟨hbase, hkm, hminute, hmin, not_lt.mp hcap, not_lt.mp hnight⟩

/-! ## The preview -/

/-- What `quote_from_values` returns. -/
structure Preview where
  total : ℚ
  currency : Currency
  nightApplied : Bool
  minFareApplied : Bool
  surge : ℚ
deriving DecidableEq

def quoteFromValues (zone : Zone) (values : CardValues) (km minutes : ℚ) (night : Bool) :
    Preview :=
  let base := values.baseFare
  let subtotal := base + values.perKmFare * km + values.perMinFare * minutes
  let surge : ℚ := 1
  let nightApplied := night && decide (1 < values.nightSurgeMultiplier)
  let subtotal := if nightApplied then subtotal * values.nightSurgeMultiplier else subtotal
  let surge := if nightApplied then surge * values.nightSurgeMultiplier else surge
  let capped := decide (values.surgeCapMultiplier < surge)
  let subtotal :=
    if capped then
      (base + values.perKmFare * km + values.perMinFare * minutes) * values.surgeCapMultiplier
    else subtotal
  let surge := if capped then values.surgeCapMultiplier else surge
  let minApplied := decide (subtotal < values.minFare)
  let subtotal := if minApplied then values.minFare else subtotal
  let country := getCountry zone.country
  let currency := zone.currency.getD country.currency
  let total := roundFare subtotal currency
  let fee := quantize zone.perTripFee currency
  let total :=
    match zone.taxMode.getD .inclusive with
    | .inclusive => total
    | .additive => total + quantize (total * values.gstPercent / 100) currency + fee
  { total := total
    currency := currency
    nightApplied := nightApplied
    minFareApplied := minApplied
    surge := surge }

/-- The ride of the preview, as a quote prices it without demand. -/
def Priced.ofPreview (zone : Zone) (card : RateCard) (km minutes : ℚ) (night : Bool) : Priced where
  zone := some zone
  card := some card
  distanceKm := km
  durationMin := minutes
  night := night
  dyn := 1

section Preview

variable {zone : Zone} {card : RateCard} {km minutes : ℚ} {night : Bool}

/-- Without demand the night multiplier alone meets the cap. -/
lemma surged_ofPreview (zone : Zone) (card : RateCard) (km minutes : ℚ) (night : Bool) :
    (Priced.ofPreview zone card km minutes night).surged =
      let p := Priced.ofPreview zone card km minutes night
      let subtotal :=
        if p.nightApplied then p.preSurge * card.values.nightSurgeMultiplier else p.preSurge
      let surge : ℚ := if p.nightApplied then 1 * card.values.nightSurgeMultiplier else 1
      (if card.values.surgeCapMultiplier < surge then
        p.preSurge * card.values.surgeCapMultiplier else subtotal,
        if card.values.surgeCapMultiplier < surge then card.values.surgeCapMultiplier
        else surge) := by
  rw [Priced.surged]
  have hdyn : ¬ (Priced.ofPreview zone card km minutes night).dyn ≠ 1 := not_not.mpr rfl
  have hvalues : (Priced.ofPreview zone card km minutes night).values = card.values := rfl
  simp only [hdyn, if_false, hvalues]
  split_ifs <;> rfl

/-- The preview repeats the fare arithmetic of the quote. -/
theorem quoteFromValues_eq (zone : Zone) (card : RateCard) (km minutes : ℚ) (night : Bool) :
    quoteFromValues zone card.values km minutes night =
      { total := (Priced.ofPreview zone card km minutes night).totalFare
        currency := (Priced.ofPreview zone card km minutes night).currency
        nightApplied := (Priced.ofPreview zone card km minutes night).nightApplied
        minFareApplied := (Priced.ofPreview zone card km minutes night).minFareApplied
        surge := (Priced.ofPreview zone card km minutes night).surge } := by
  have hnight : (Priced.ofPreview zone card km minutes night).nightApplied =
      (night && decide (1 < card.values.nightSurgeMultiplier)) := Bool.and_comm _ _
  have hsurged := surged_ofPreview zone card km minutes night
  have htotal : (Priced.ofPreview zone card km minutes night).totalFare =
      match zone.taxMode.getD .inclusive with
      | .inclusive => (Priced.ofPreview zone card km minutes night).meteredFare
      | .additive => (Priced.ofPreview zone card km minutes night).meteredFare +
          quantize ((Priced.ofPreview zone card km minutes night).meteredFare *
            card.values.gstPercent / 100) (Priced.ofPreview zone card km minutes night).currency +
          (Priced.ofPreview zone card km minutes night).perTripFee := by
    have hmode : (Priced.ofPreview zone card km minutes night).taxMode =
        zone.taxMode.getD .inclusive := rfl
    rw [Priced.totalFare, Priced.taxAmount, hmode]
    cases zone.taxMode.getD .inclusive <;> rfl
  rw [htotal, Priced.meteredFare, Priced.subtotal, Priced.minFareApplied, Priced.surge, hsurged]
  simp only [hnight, decide_eq_true_eq, quoteFromValues]
  rfl

end Preview

/-! ## The quote under that card -/

lemma TwoPlaces.ite {x y : ℚ} {c : Prop} [Decidable c] (hx : TwoPlaces x) (hy : TwoPlaces y) :
    TwoPlaces (if c then x else y) := by
  split_ifs
  · exact hx
  · exact hy

lemma TwoPlaces.min {x y : ℚ} (hx : TwoPlaces x) (hy : TwoPlaces y) : TwoPlaces (min x y) := by
  rcases min_choice x y with h | h <;> rw [h]
  · exact hx
  · exact hy

lemma ofPreview_surge (zone : Zone) {card : RateCard} (km minutes : ℚ) (night : Bool)
    (h : Columns card.values) :
    roundTwo (Priced.ofPreview zone card km minutes night).surge =
      (Priced.ofPreview zone card km minutes night).surge := by
  have hone : TwoPlaces 1 := by decide +kernel
  apply roundTwo_of_twoPlaces
  rw [Priced.surge_eq, Priced.charged]
  show TwoPlaces (Min.min ((if _ then card.values.nightSurgeMultiplier else 1) * (1 : ℚ))
    card.values.surgeCapMultiplier)
  rw [mul_one]
  exact (h.nightSurgeMultiplier.ite hone).min h.surgeCapMultiplier

/-- What is driven is not negative. -/
lemma numbers_of_resolve {m : Market} {r : Request} {p : Priced} (h : resolve m r = .ok p) :
    0 ≤ p.distanceKm ∧ 0 ≤ p.durationMin := by
  have hnumbers : 0 ≤ r.numbers.1 ∧ 0 ≤ r.numbers.2 := by
    rw [Request.numbers]
    cases r.distanceKm <;> cases r.durationMin <;> simp
  rw [resolve] at h
  split at h
  · cases h
  dsimp only at h
  split at h
  · cases h
  cases h
  exact hnumbers

/-- The lookups of a ride whose card is found and whose fare demand leaves alone. -/
lemma resolve_eq {m : Market} {pt : Point} {zone : Zone} {name : String} {vt : ℕ} {card : RateCard}
    (km minutes : ℚ≥0) (hname : name ≠ "") (hzone : m.findZoneForPoint pt = some zone)
    (hclass : m.findVehicleType name = some vt)
    (hcard : getActiveRateCard m.region m.cards zone.toServiceZone vt m.now = some card)
    (hdemand : computeSurgeMultiplier m.redis (some pt) card.values.surgeCapMultiplier = 1) :
    resolve m ⟨some km, some minutes, name, some pt⟩ =
      .ok (Priced.ofPreview zone card km minutes
        (isNightNow (m.localHour card.zone) card.values)) := by
  have hkm : max (km : ℚ) 0 = km := max_eq_left km.2
  have hminutes : max (minutes : ℚ) 0 = minutes := max_eq_left minutes.2
  rw [resolve, if_neg hname]
  simp only [Option.bind_some, hzone, hclass, hcard, Option.isNone_some, Bool.false_and,
    Bool.false_eq_true, if_false, Option.any_some, Option.map_some, Option.getD_some, hdemand,
    Request.numbers, hkm, hminutes]
  rfl

/-- The preview gives the total, the surge and the flags of the quote under a card with those
values while demand leaves the fare alone. -/
theorem preview_eq_quote {m : Market} {pt : Point} {zone : Zone} {name : String} {vt : ℕ}
    {card : RateCard} {km minutes : ℚ≥0} {q : Quote} (hzone : m.findZoneForPoint pt = some zone)
    (hclass : m.findVehicleType name = some vt)
    (hcard : getActiveRateCard m.region m.cards zone.toServiceZone vt m.now = some card)
    (hdemand : computeSurgeMultiplier m.redis (some pt) card.values.surgeCapMultiplier = 1)
    (hq : quoteFare m ⟨some km, some minutes, name, some pt⟩ = .ok q) :
    let preview := quoteFromValues zone card.values km minutes
      (isNightNow (m.localHour card.zone) card.values)
    preview.total = q.totalFare ∧ preview.surge = q.surgeMultiplier ∧
      preview.nightApplied = q.nightSurgeApplied ∧ preview.minFareApplied = q.minFareApplied := by
  have hname : name ≠ "" := by
    rintro rfl
    rw [quoteFare, resolve, if_pos rfl] at hq
    cases hq
  have hp := resolve_eq km minutes hname hzone hclass hcard hdemand
  have hcolumns : Columns card.values := columns_of_resolve hp
  rw [quote_of_ok hp hq]
  intro preview
  have hpreview := quoteFromValues_eq zone card km minutes
    (isNightNow (m.localHour card.zone) card.values)
  refine ⟨congrArg Preview.total hpreview, ?_, congrArg Preview.nightApplied hpreview,
    congrArg Preview.minFareApplied hpreview⟩
  exact (congrArg Preview.surge hpreview).trans (ofPreview_surge zone km minutes _ hcolumns).symm

/-- The city at midnight with more drivers than riders. -/
def quietCity : Market :=
  plainMarket cityValues_columns (plainZone .india .inclusive) 0 (.counts 5 4)

/-- A ride of eight kilometres there. -/
theorem preview_eq_quote_quietCity :
    ∃ q, quoteFare quietCity ⟨some (8 : ℚ≥0), some (24 : ℚ≥0), "sedan", some (17, 78)⟩ = .ok q ∧
      let preview := quoteFromValues (plainZone .india .inclusive) cityValues (8 : ℚ≥0) (24 : ℚ≥0)
        true
      preview.total = q.totalFare ∧ preview.surge = q.surgeMultiplier ∧
        preview.nightApplied = q.nightSurgeApplied ∧
          preview.minFareApplied = q.minFareApplied := by
  obtain ⟨q, hq, -⟩ := Fallible.exists_of_any
    (e := quoteFare quietCity ⟨some (8 : ℚ≥0), some (24 : ℚ≥0), "sedan", some (17, 78)⟩)
    (f := fun q => q.totalFare = 196) (by decide +kernel)
  have hzone : quietCity.findZoneForPoint (17, 78) = some (plainZone .india .inclusive) := rfl
  have hclass : quietCity.findVehicleType "sedan" = some 1 := rfl
  have hcard : getActiveRateCard quietCity.region quietCity.cards
      (plainZone .india .inclusive).toServiceZone 1 quietCity.now = some (plainCard cityValues) := by
    decide +kernel
  have hdemand : computeSurgeMultiplier quietCity.redis (some (17, 78))
      (plainCard cityValues).values.surgeCapMultiplier = 1 := by
    decide +kernel
  have hnight : isNightNow (quietCity.localHour (plainCard cityValues).zone)
      (plainCard cityValues).values = true := by
    decide +kernel
  have hpreview := preview_eq_quote hzone hclass hcard hdemand hq
  rw [hnight] at hpreview
  exact ⟨q, hq, hpreview⟩

/-! ## The cap for accepted values -/

/-- Under values that were accepted the metered fare is within the capped one. -/
theorem pretax_le_of_checked {m : Market} {r : Request} {p : Priced} {q : Quote}
    (hp : resolve m r = .ok p) (hq : quoteFare m r = .ok q) (hvalues : checkValues p.values = .ok ()) :
    q.pretax ≤ roundFare (p.dueAt p.values.surgeCapMultiplier) q.currency := by
  have hchecked := checkValues_eq_ok.mp hvalues
  have hnonneg : 0 ≤ p.preSurge := by
    obtain ⟨hkm, hminutes⟩ := numbers_of_resolve hp
    exact add_nonneg (add_nonneg hchecked.baseFare (mul_nonneg hchecked.perKmFare hkm))
      (mul_nonneg hchecked.perMinFare hminutes)
  obtain rfl := quote_of_ok hp hq
  have hcurrency : (p.quote r.vehicleType).currency = p.currency := rfl
  rw [p.pretax_quote, p.meteredFare_eq, hcurrency, roundFare_le_iff]
  exact p.covers_cap hnonneg

end SaaradhiGo.Pricing
