/-
What a booking makes of a quote.

A booking that carries the id of an issued quote either is the ride of the quote, in its lifetime,
and is booked at the quoted fare, or is refused with a fresh quote (`Honoured`).  The pricing that
runs beside the quote can fail on its own, and then neither happens: the law holds exactly for the
bookings that would also go through without a quote (`booking_honoured_iff`).
-/
import SaaradhiGo.Pricing.Booking

namespace SaaradhiGo.Pricing

open SaaradhiGo.Money SaaradhiGo.Fares

variable {rd : Reads} {d : Desk} {b : Booking} {sq : StoredQuote} {r : Request}

/-! ## The law -/

/-- The booking is the ride of the quote, by the same rider, and the quote has not expired. -/
structure Matches (rd : Reads) (d : Desk) (b : Booking) (sq : StoredQuote) : Prop where
  rider : sq.riderId = some b.rider
  class_eq : rd.lower b.vehicleType = sq.vehicleType
  pickup : rd.metres b.pickup sq.pickup ≤ moveTolerance
  drop : rd.metres b.drop sq.drop ≤ moveTolerance
  valid : d.config.market.now < sq.expiresAt

/-- The tax that a promo of the booking saves. -/
def taxRelief (d : Desk) (b : Booking) (fare : Quote) : ℤ :=
  match d.config.promoFor b.rider b.promoCode fare.totalFare
      (d.config.market.findZoneForPoint b.pickup) with
  | .applies promo => (promoRelief promo fare).2
  | _ => 0

/-- The trip carries the fare of the quote, less only the relief. -/
structure AtQuote (t : NewTrip) (fare : Quote) (relief : ℤ) : Prop where
  currency : t.currency = fare.currency
  full : t.estimatedFareMinor = toMinor fare.totalFare fare.currency - relief ∨
    toMinor fare.totalFare fare.currency < relief ∧ t.estimatedFareMinor = 0
  total : t.totalFareMinor = t.estimatedFareMinor
  surgeMultiplier : t.surgeMultiplier = fare.surgeMultiplier
  additive : fare.taxMode = .additive →
    t.pretaxFareMinor = some (toMinor fare.pretax fare.currency) ∧
      t.taxMinor = some (toMinor fare.taxAmount fare.currency) ∧
        t.perTripFeeMinor = some (toMinor fare.perTripFee fare.currency)

/-- What the booking of a quote comes to. -/
structure Honoured (rd : Reads) (d : Desk) (b : Booking) (sq : StoredQuote) : Prop where
  booked : Matches rd d b sq → ∃ t, (d.createTrip rd b).2 = .created t ∧
    (d.createTrip rd b).1.trips = t :: d.trips ∧ AtQuote t sq.fare (taxRelief d b sq.fare)
  refused : ¬ Matches rd d b sq → (d.createTrip rd b).1.trips = d.trips ∧
    (d.createTrip rd b).1.pings = d.pings ∧ ∃ message why fresh,
      (d.createTrip rd b).2 = .refused (some "QUOTE_EXPIRED") message (some (why, fresh)) ∧
        (d.createTrip rd b).1.quotes.get? fresh.id = some fresh

def IsNew (d : Desk) (b : Booking) : Prop :=
  ∀ t ∈ d.trips, b.clientRequestId ≠ none → t.rider = b.rider →
    t.clientRequestId ≠ b.clientRequestId

/-- The booking would go through without a quote: it is a new request inside the service area, the
server finds its distance and prices it; and where the quote is booked no code is refused and the
zone still charges in the currency of the quote. -/
structure GoesThrough (rd : Reads) (d : Desk) (b : Booking) (sq : StoredQuote) : Prop where
  fresh : IsNew d b
  area : d.config.serviceArea b.pickup b.drop = none
  priced : ∃ km min fare, d.config.validateDistance b.pickup b.drop = some (km, min) ∧
    quoteFare d.config.market (rideRequest b km min) = .ok fare
  promo : Matches rd d b sq → ∀ reason, d.config.promoFor b.rider b.promoCode sq.fare.totalFare
    (d.config.market.findZoneForPoint b.pickup) ≠ .refused reason
  currency : Matches rd d b sq →
    tripCurrency (d.config.market.findZoneForPoint b.pickup) = sq.fare.currency

/-! ## The check -/

lemma quoteFare_blank {km min : ℚ} {fare : Quote} (h : b.vehicleType = "") :
    quoteFare d.config.market (rideRequest b km min) ≠ .ok fare := by
  have hresolve : resolve d.config.market (rideRequest b km min) = .error .vehicleTypeRequired :=
    if_pos h
  rw [quoteFare, hresolve]
  simp

lemma check_of_matches (hget : d.quotes.get? sq.id = some sq) (h : Matches rd d b sq) :
    check rd d b sq.id = .ok sq := by
  rw [check, hget]
  dsimp only
  rw [if_neg (not_le.mpr h.valid), if_neg (fun hr => hr.2 h.rider),
    if_neg (not_or.mpr ⟨not_lt.mpr h.pickup, not_lt.mpr h.drop⟩), if_neg (fun hc => hc.2 h.class_eq)]

/-- With a class and for a rider the check finds nothing else. -/
lemma matches_of_check {owner : ℕ} {found : StoredQuote} (hget : d.quotes.get? sq.id = some sq)
    (howner : sq.riderId = some owner) (hclass : b.vehicleType ≠ "")
    (h : check rd d b sq.id = .ok found) : Matches rd d b sq := by
  rw [check, hget] at h
  dsimp only at h
  split at h
  · cases h
  · rename_i hvalid
    split at h
    · cases h
    · rename_i hrider
      split at h
      · cases h
      · rename_i hmoved
        split at h
        · cases h
        · rename_i hsame
          rw [not_or, not_lt, not_lt] at hmoved
          rw [howner, not_and_or, not_not, not_not] at hrider
          refine ⟨?_, ?_, hmoved.1, hmoved.2, not_le.mp hvalid⟩
          · rw [howner]
            exact hrider.resolve_left (by simp)
          · by_contra hne
            exact hsame ⟨hclass, hne⟩

lemma check_eq (rd : Reads) (b : Booking) (hget : d.quotes.get? sq.id = some sq) :
    check rd d b sq.id = .ok sq ∨ ∃ why, check rd d b sq.id = .error why := by
  rw [check, hget]
  dsimp only
  split_ifs
  all_goals first | exact .inl rfl | exact .inr ⟨_, rfl⟩

/-! ## The trip of a quote -/

lemma atQuote_newTrip (hcurrency : tripCurrency (d.config.market.findZoneForPoint b.pickup) =
    sq.fare.currency) : AtQuote (d.newTrip b sq.fare) sq.fare 0 := by
  refine ⟨hcurrency, .inl ?_, rfl, rfl, ?_⟩
  · rw [sub_zero, ← hcurrency]
    rfl
  · intro hadditive
    have hpretax : sq.fare.pretax = sq.fare.totalFare - sq.fare.taxAmount - sq.fare.perTripFee := by
      rw [Quote.pretax, hadditive]
    rw [Desk.newTrip, hpretax, hadditive]
    exact ⟨rfl, rfl, rfl⟩

lemma promoRelief_nonneg (promo : Promotions.PromoCode) (fare : Quote) :
    0 ≤ (promoRelief promo fare).2 := by
  rw [promoRelief]
  cases fare.taxMode with
  | inclusive => exact le_rfl
  | additive =>
      exact adjust_relief_nonneg _ _ (splitAdditive (toMinor fare.totalFare promo.currency)
        fare.taxPercent (toMinor fare.perTripFee promo.currency)).2.2 _ _

lemma atQuote_redeem (hcurrency : tripCurrency (d.config.market.findZoneForPoint b.pickup) =
    sq.fare.currency) (promo : Promotions.PromoCode) :
    AtQuote ((d.newTrip b sq.fare).redeem promo sq.fare) sq.fare
      (promoRelief promo sq.fare).2 := by
  have h := atQuote_newTrip (d := d) (b := b) hcurrency
  generalize sq.fare = fare at *
  have hfull : (d.newTrip b fare).estimatedFareMinor = toMinor fare.totalFare fare.currency := by
    rw [← hcurrency]
    rfl
  generalize d.newTrip b fare = t at *
  have hrelief := promoRelief_nonneg promo fare
  refine ⟨h.currency, ?_, rfl, h.surgeMultiplier, h.additive⟩
  show (if 0 < (promoRelief promo fare).2 then
    max 0 (t.estimatedFareMinor - (promoRelief promo fare).2) else t.estimatedFareMinor) = _ ∨ _ ∧
    (if 0 < (promoRelief promo fare).2 then
      max 0 (t.estimatedFareMinor - (promoRelief promo fare).2) else t.estimatedFareMinor) = 0
  rw [hfull]
  split_ifs with hpos
  · rcases le_or_gt (promoRelief promo fare).2 (toMinor fare.totalFare fare.currency) with hle | hlt
    · exact .inl (max_eq_right (by omega))
    · exact .inr ⟨hlt, max_eq_left (by omega)⟩
  · exact .inl (by omega)

/-! ## The steps of a booking -/

@[simp] lemma recordDemand_config : (d.recordDemand b r).config = d.config := by
  rw [Desk.recordDemand]
  split
  · rfl
  · split_ifs <;> rfl

@[simp] lemma recordDemand_trips : (d.recordDemand b r).trips = d.trips := by
  rw [Desk.recordDemand]
  split
  · rfl
  · split_ifs <;> rfl

@[simp] lemma recordDemand_quotes : (d.recordDemand b r).quotes = d.quotes := by
  rw [Desk.recordDemand]
  split
  · rfl
  · split_ifs <;> rfl

/-- What a booking with a quote id does, up to its quote. -/
structure Reached (rd : Reads) (d : Desk) (b : Booking) (id : ℕ) (km min : ℚ) : Prop where
  fresh : IsNew d b
  area : d.config.serviceArea b.pickup b.drop = none
  distance : d.config.validateDistance b.pickup b.drop = some (km, min)
  createTrip : d.createTrip rd b =
    match check rd d b id with
    | .error why => d.refuseQuote rd b (rideRequest b km min) km min why
    | .ok sq => d.priceAndWrite b (rideRequest b km min) (some sq)

/-- The outcomes that book nothing and offer nothing. -/
def Outcome.Idle : Outcome → Prop
  | .created _ => False
  | .reused _ => True
  | .refused _ _ fresh => fresh = none

lemma failed_idle : failed.Idle := rfl

/-- A booking that does not come to its quote books nothing and offers nothing. -/
lemma createTrip_cases (rd : Reads) {id : ℕ} (hb : b.quoteId = some id) :
    (∃ km min, Reached rd d b id km min) ∨ (d.createTrip rd b).2.Idle ∧
      ¬ (IsNew d b ∧ d.config.serviceArea b.pickup b.drop = none ∧
        ∃ km min, d.config.validateDistance b.pickup b.drop = some (km, min)) := by
  cases hfind : d.trips.find? fun t => decide (b.clientRequestId ≠ none) &&
      decide (t.rider = b.rider) && decide (t.clientRequestId = b.clientRequestId) with
  | some t =>
      have hmem := List.mem_of_find?_eq_some hfind
      have ht := List.find?_some hfind
      simp only [Bool.and_eq_true, decide_eq_true_eq] at ht
      refine .inr ⟨?_, fun h => h.1 t hmem ht.1.1 ht.1.2 ht.2⟩
      rw [Desk.createTrip, hfind]
      exact trivial
  | none =>
      have hnew : IsNew d b := by
        intro t ht hne hrider hsame
        have hnone := List.find?_eq_none.mp hfind t ht
        simp [hne, hrider, hsame] at hnone
      cases harea : d.config.serviceArea b.pickup b.drop with
      | some refusal =>
          refine .inr ⟨?_, fun h => by simp at h⟩
          rw [Desk.createTrip, hfind]
          dsimp only
          rw [harea]
          dsimp only
          split_ifs
          · exact rfl
          · exact failed_idle
      | none =>
          cases hdistance : d.config.validateDistance b.pickup b.drop with
          | none =>
              refine .inr ⟨?_, fun h => by simp at h⟩
              rw [Desk.createTrip, hfind]
              dsimp only
              rw [harea]
              dsimp only
              rw [hdistance]
              exact failed_idle
          | some found =>
              refine .inl ⟨found.1, found.2, hnew, harea, hdistance, ?_⟩
              rw [Desk.createTrip, hfind]
              dsimp only
              rw [harea]
              dsimp only
              rewrite [hdistance, hb]
              rfl

lemma Honoured.not_idle (h : Honoured rd d b sq) : ¬ (d.createTrip rd b).2.Idle := by
  by_cases hmatch : Matches rd d b sq
  · obtain ⟨t, ht, -⟩ := h.booked hmatch
    rw [ht]
    exact id
  · obtain ⟨-, -, message, why, fresh, hout, -⟩ := h.refused hmatch
    rw [hout]
    exact Option.some_ne_none _

lemma write_cases (fare : Quote) :
    (∃ reason, d.config.promoFor b.rider b.promoCode fare.totalFare
        (d.config.market.findZoneForPoint b.pickup) = .refused reason ∧ (d.write b fare).2.Idle) ∨
      (∀ reason, d.config.promoFor b.rider b.promoCode fare.totalFare
        (d.config.market.findZoneForPoint b.pickup) ≠ .refused reason) ∧
      ∃ t, d.write b fare = ({ d with trips := t :: d.trips }, .created t) ∧
        t.currency = tripCurrency (d.config.market.findZoneForPoint b.pickup) := by
  have hzone : (d.newTrip b fare).zone = d.config.market.findZoneForPoint b.pickup := rfl
  cases hpromo : d.config.promoFor b.rider b.promoCode fare.totalFare
      (d.config.market.findZoneForPoint b.pickup) with
  | refused reason =>
      refine .inl ⟨reason, rfl, ?_⟩
      rw [Desk.write, hzone, hpromo]
      exact rfl
  | nothing =>
      refine .inr ⟨by simp, d.newTrip b fare, ?_, rfl⟩
      rw [Desk.write, hzone, hpromo]
  | applies promo =>
      refine .inr ⟨by simp, (d.newTrip b fare).redeem promo fare, ?_, rfl⟩
      rw [Desk.write, hzone, hpromo]

lemma atQuote_of_write {t : NewTrip} {d' : Desk} (hcurrency : tripCurrency
      (d.config.market.findZoneForPoint b.pickup) = sq.fare.currency)
    (h : d.write b sq.fare = (d', .created t)) : AtQuote t sq.fare (taxRelief d b sq.fare) := by
  have hzone : (d.newTrip b sq.fare).zone = d.config.market.findZoneForPoint b.pickup := rfl
  rw [Desk.write, hzone] at h
  rw [taxRelief]
  cases hpromo : d.config.promoFor b.rider b.promoCode sq.fare.totalFare
      (d.config.market.findZoneForPoint b.pickup) with
  | refused reason =>
      rw [hpromo] at h
      cases h
  | nothing =>
      rw [hpromo] at h
      cases h
      exact atQuote_newTrip hcurrency
  | applies promo =>
      rw [hpromo] at h
      cases h
      exact atQuote_redeem hcurrency promo

/-! ## The equivalence -/

lemma issue_get (d : Desk) (fare : Quote) (riderId : Option ℕ) (pickup drop : Point) (km min : ℚ) :
    (d.issue rd fare riderId pickup drop km min).1.quotes.get?
      (d.issue rd fare riderId pickup drop km min).2.id =
        some (d.issue rd fare riderId pickup drop km min).2 :=
  Table.get?_put_self _ _

lemma GoesThrough.honoured {owner : ℕ} (hget : d.quotes.get? sq.id = some sq)
    (howner : sq.riderId = some owner) (hb : b.quoteId = some sq.id)
    (h : GoesThrough rd d b sq) : Honoured rd d b sq := by
  obtain ⟨km, min, fare, hdistance, hfare⟩ := h.priced
  rcases createTrip_cases rd hb with ⟨km', min', hreached⟩ | ⟨-, hnot⟩
  swap
  · exact absurd ⟨h.fresh, h.area, km, min, hdistance⟩ hnot
  have hsame : (km', min') = (km, min) := by
    have hd := hreached.distance
    rw [hdistance] at hd
    exact (Option.some.inj hd).symm
  cases hsame
  have hclass : b.vehicleType ≠ "" := fun hblank => quoteFare_blank hblank hfare
  by_cases hmatch : Matches rd d b sq
  · -- the quote is found and its fare is written
    have hcreate := hreached.createTrip
    rw [check_of_matches hget hmatch] at hcreate
    dsimp only at hcreate
    rw [Desk.priceAndWrite, hfare] at hcreate
    dsimp only [Option.map_some, Option.getD_some] at hcreate
    rcases write_cases (d := d.recordDemand b (rideRequest b km min)) (b := b) sq.fare with
      ⟨reason, hrefused, -⟩ | ⟨-, t, hwrite, -⟩
    · rw [recordDemand_config] at hrefused
      exact absurd hrefused (h.promo hmatch reason)
    · refine ⟨fun _ => ⟨t, ?_, ?_, ?_⟩, fun hnot => absurd hmatch hnot⟩
      · rw [hcreate, hwrite]
      · rw [hcreate, hwrite]
        dsimp only
        rw [recordDemand_trips]
      · have hsame : tripCurrency ((d.recordDemand b (rideRequest b km min)).config.market.findZoneForPoint
            b.pickup) = sq.fare.currency := by
          rw [recordDemand_config]
          exact h.currency hmatch
        have hat := atQuote_of_write hsame hwrite
        rw [taxRelief, recordDemand_config] at hat
        exact hat
  · -- the quote is refused, and the fresh one is stored
    have hcreate := hreached.createTrip
    have hwhy : ∃ why, check rd d b sq.id = .error why := by
      rcases check_eq rd b hget with hok | hwhy
      · exact absurd (matches_of_check hget howner hclass hok) hmatch
      · exact hwhy
    obtain ⟨why, hwhy⟩ := hwhy
    rw [hwhy] at hcreate
    dsimp only at hcreate
    rw [Desk.refuseQuote.eq_def, hfare] at hcreate
    dsimp only at hcreate
    refine ⟨fun hm => absurd hm hmatch, fun _ => ?_⟩
    rw [hcreate]
    exact ⟨rfl, rfl, _, _, _, rfl, issue_get d fare _ _ _ km min⟩

lemma Honoured.goesThrough (hget : d.quotes.get? sq.id = some sq)
    (hb : b.quoteId = some sq.id) (h : Honoured rd d b sq) : GoesThrough rd d b sq := by
  rcases createTrip_cases rd hb with ⟨km, min, hreached⟩ | ⟨hidle, -⟩
  swap
  · exact absurd hidle h.not_idle
  have hcreate := hreached.createTrip
  cases hfare : quoteFare d.config.market (rideRequest b km min) with
  | error e =>
      -- neither the quote nor a fresh one gets past the second pricing
      exfalso
      apply h.not_idle
      rw [hcreate]
      cases check rd d b sq.id with
      | error why =>
          dsimp only
          rw [Desk.refuseQuote.eq_def, hfare]
          exact failed_idle
      | ok found =>
          dsimp only
          rw [Desk.priceAndWrite, hfare]
          exact failed_idle
  | ok fare =>
      refine ⟨hreached.fresh, hreached.area, ⟨km, min, fare, hreached.distance, hfare⟩, ?_, ?_⟩
      all_goals
        intro hmatch
        rw [check_of_matches hget hmatch] at hcreate
        dsimp only at hcreate
        rw [Desk.priceAndWrite, hfare] at hcreate
        dsimp only [Option.map_some, Option.getD_some] at hcreate
      · rcases write_cases (d := d.recordDemand b (rideRequest b km min)) (b := b) sq.fare with
          ⟨reason, -, hidle⟩ | ⟨hnone, -⟩
        · rw [← hcreate] at hidle
          exact absurd hidle h.not_idle
        · rw [recordDemand_config] at hnone
          exact hnone
      · obtain ⟨t, hcreated, -, hat⟩ := h.booked hmatch
        rcases write_cases (d := d.recordDemand b (rideRequest b km min)) (b := b) sq.fare with
          ⟨reason, -, hidle⟩ | ⟨-, t', hwrite, hcurrency⟩
        · rw [← hcreate] at hidle
          exact absurd hidle h.not_idle
        · rw [hcreate, hwrite] at hcreated
          cases hcreated
          rw [recordDemand_config] at hcurrency
          rw [← hcurrency, hat.currency]

/-! ## The quote over a run -/

lemma createTrip_quotes (rd : Reads) (d : Desk) (b : Booking) :
    (d.createTrip rd b).1.quotes = d.quotes ∨ ∃ fare km min,
      (d.createTrip rd b).1 = (d.issue rd fare (some b.rider) b.pickup b.drop km min).1 := by
  have hwrite : ∀ (d' : Desk) fare, (d'.write b fare).1.quotes = d'.quotes := by
    intro d' fare
    rw [Desk.write]
    split <;> rfl
  have hprice : ∀ r quote, (d.priceAndWrite b r quote).1.quotes = d.quotes := by
    intro r quote
    rw [Desk.priceAndWrite]
    cases quoteFare d.config.market r with
    | error _ => exact recordDemand_quotes
    | ok fare =>
        dsimp only
        rw [hwrite]
        exact recordDemand_quotes
  rw [Desk.createTrip]
  split
  · exact .inl rfl
  split
  · exact .inl rfl
  split
  · exact .inl rfl
  split
  · exact .inl (hprice _ _)
  split
  · rw [Desk.refuseQuote.eq_def]
    split
    · exact .inl rfl
    · exact .inr ⟨_, _, _, rfl⟩
  · exact .inl (hprice _ _)

lemma issue_quotes {id : ℕ} (hget : d.quotes.get? id = some sq) (fare : Quote)
    (riderId : Option ℕ) (pickup drop : Point) (km min : ℚ) :
    (d.issue rd fare riderId pickup drop km min).1.quotes.get? id = some sq := by
  have hid : sq.id = id := Table.pk_of_get? hget
  have hlt := d.issued sq (Table.mem_of_get? hget).1
  show (d.quotes.put _).get? id = some sq
  rw [Table.get?_put_of_ne, hget]
  show id ≠ d.nextQuote
  omega

lemma step_quotes {id : ℕ} (hget : d.quotes.get? id = some sq) (e : Event) :
    (d.step rd e).quotes.get? id = some sq := by
  cases e with
  | change config => exact hget
  | estimate riderId pickup drop vehicleType =>
      rw [Desk.step, Desk.estimate]
      split
      · split
        · exact hget
        · exact issue_quotes hget _ _ _ _ _ _
      · exact hget
  | book b =>
      rw [Desk.step]
      rcases createTrip_quotes rd d b with h | ⟨fare, km, min, h⟩
      · rw [h]
        exact hget
      · rw [h]
        exact issue_quotes hget _ _ _ _ _ _

lemma run_quotes (rd : Reads) {id : ℕ} (hget : d.quotes.get? id = some sq) (events : List Event) :
    (d.run rd events).quotes.get? id = some sq := by
  induction events generalizing d with
  | nil => exact hget
  | cons e events ih => exact ih (step_quotes hget e)

lemma estimate_get {d' : Desk} {riderId : Option ℕ} {pickup drop : Point} {vehicleType : String}
    (h : d.estimate rd riderId pickup drop vehicleType = (d', some sq)) :
    d'.quotes.get? sq.id = some sq ∧ sq.riderId = riderId := by
  rw [Desk.estimate] at h
  split at h
  · split at h
    · cases h
    · cases h
      exact ⟨issue_get d _ _ _ _ _ _, rfl⟩
  · cases h

/-- However the cards, the zones, the demand and the settings change after a quote was issued to a
rider, a booking that carries its id is honoured exactly when it would go through without it. -/
theorem booking_honoured_iff (rd : Reads) {d d' : Desk} {sq : StoredQuote} {owner : ℕ}
    {pickup drop : Point} {vehicleType : String}
    (hissued : d.estimate rd (some owner) pickup drop vehicleType = (d', some sq))
    (events : List Event) (b : Booking) (hb : b.quoteId = some sq.id) :
    Honoured rd (d'.run rd events) b sq ↔ GoesThrough rd (d'.run rd events) b sq := by
  obtain ⟨hget, howner⟩ := estimate_get hissued
  have hkept := run_quotes rd hget events
  constructor
  · exact fun h => h.goesThrough hkept hb
  · exact fun h => h.honoured hkept howner hb

/-! ## A card that is retired between quote and booking -/

/-- A city that refuses nobody, where every ride is ten kilometres and thirty minutes. -/
def openCity (m : Market) : Config where
  market := m
  serviceArea := fun _ _ => none
  validateDistance := fun _ _ => some (10, 30)
  countryOf := fun _ => some .india
  promoFor := fun _ _ _ _ => .nothing

def retiredCity : Market := { busyCity with
  cards := ⟨Table.empty, 2⟩
  columns := fun _ h => absurd h List.not_mem_nil }

/-- Points that differ are far apart. -/
def flatReads : Reads := ⟨fun x y => if x = y then 0 else 1000, id⟩

/-- The desk of the city before its first quote. -/
def cityDesk : Desk where
  config := openCity busyCity
  quotes := Table.empty
  nextQuote := 1
  issued := fun _ h => absurd h List.not_mem_nil
  trips := []
  pings := []

/-- The first quote of the city is issued to rider 7. -/
lemma cityDesk_estimate : ∃ d' sq,
    cityDesk.estimate flatReads (some 7) (17, 78) (18, 78) "sedan" = (d', some sq) ∧ sq.id = 1 ∧
      d'.trips = [] ∧ sq.fare.currency = .inr := by
  cases h : cityDesk.estimate flatReads (some 7) (17, 78) (18, 78) "sedan" with
  | mk d' found =>
      have hid : (cityDesk.estimate flatReads (some 7) (17, 78) (18, 78) "sedan").2.map
          (fun sq => (sq.id, sq.fare.currency)) = some (1, .inr) := by
        decide +kernel
      have htrips : (cityDesk.estimate flatReads (some 7) (17, 78) (18, 78) "sedan").1.trips.length
          = 0 := by
        decide +kernel
      rw [h] at hid htrips
      cases found with
      | none => cases hid
      | some sq =>
          have hpair := Option.some.inj hid
          exact ⟨d', sq, rfl, congrArg Prod.fst hpair, List.length_eq_zero_iff.mp htrips,
            congrArg Prod.snd hpair⟩

def cityBooking : Booking := ⟨7, (17, 78), (18, 78), "sedan", none, "", some 1⟩

/-- The card is retired after the quote: the same ride books nothing and is offered nothing. -/
theorem not_honoured_retired :
    ¬ ∀ (rd : Reads) (d d' : Desk) (sq : StoredQuote) (owner : ℕ) (pickup drop : Point)
      (vehicleType : String) (events : List Event) (b : Booking),
        d.estimate rd (some owner) pickup drop vehicleType = (d', some sq) →
          b.quoteId = some sq.id → Honoured rd (d'.run rd events) b sq := by
  intro hall
  obtain ⟨d', sq, hissued, hid, -, -⟩ := cityDesk_estimate
  have hb : cityBooking.quoteId = some sq.id := by
    rw [hid]
    rfl
  have hgoes := (booking_honoured_iff flatReads hissued [.change (openCity retiredCity)] cityBooking hb).mp
    (hall _ _ _ _ _ _ _ _ _ _ hissued hb)
  obtain ⟨km, min, fare, hdistance, hfare⟩ := hgoes.priced
  cases hdistance
  have hnone : quoteFare retiredCity (rideRequest cityBooking 10 30) = .error .pricingUnavailable := by
    decide +kernel
  have hboth : quoteFare retiredCity (rideRequest cityBooking 10 30) = .ok fare := hfare
  rw [hnone] at hboth
  cases hboth

/-- By night the same ride would cost another fare, and is booked at the quote. -/
theorem honoured_nightCity : ∃ d' sq,
    cityDesk.estimate flatReads (some 7) (17, 78) (18, 78) "sedan" = (d', some sq) ∧
      Honoured flatReads (d'.run flatReads [.change (openCity nightCity)]) cityBooking sq := by
  obtain ⟨d', sq, hissued, hid, htrips, hcurrency⟩ := cityDesk_estimate
  have hb : cityBooking.quoteId = some sq.id := by
    rw [hid]
    rfl
  refine ⟨d', sq, hissued, (booking_honoured_iff flatReads hissued _ cityBooking hb).mpr ?_⟩
  obtain ⟨fare, hfare, -⟩ := Fallible.exists_of_any
    (e := quoteFare nightCity (rideRequest cityBooking 10 30)) (f := fun _ => true)
    (by decide +kernel)
  refine ⟨?_, rfl, ⟨10, 30, fare, rfl, hfare⟩, ?_, fun _ => ?_⟩
  · intro t ht
    have hmem : t ∈ d'.trips := ht
    rw [htrips] at hmem
    cases hmem
  · intro _ reason h
    cases h
  · rw [hcurrency]
    rfl

end SaaradhiGo.Pricing
