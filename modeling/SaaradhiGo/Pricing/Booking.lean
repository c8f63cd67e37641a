/-
Quotes a rider books at.

Every estimate is issued as a quote: an id, the fare and the ride it is for, kept until it
expires.  A booking that carries the id is booked at the quoted fare, or refused with a fresh
quote.  On the way it also runs the pricing of an ordinary booking, whose result it throws away.
What the surroundings of a booking answer may change at any moment.
-/
import SaaradhiGo.Pricing.Reported
import SaaradhiGo.Pricing.PromoTax
import SaaradhiGo.Promotions.Redemption

namespace SaaradhiGo.Pricing

open SaaradhiGo.Money SaaradhiGo.Fares

/-! ## Data -/

/-- A quote in the cache. -/
structure StoredQuote where
  id : ℕ
  fare : Quote
  riderId : Option ℕ
  pickup : Point
  drop : Point
  vehicleType : String
  validatedKm : ℚ
  validatedMin : ℚ
  expiresAt : ℤ

/-- What a code does to a booking. -/
inductive PromoDecision where
  /-- no code, and none applies by itself -/
  | nothing
  /-- the rider entered a code that cannot be applied -/
  | refused (reason : String)
  | applies (promo : Promotions.PromoCode)

/-- What the surroundings of a booking answer. -/
structure Config where
  market : Market
  /-- `validate_service_area_detail`: why the area is refused -/
  serviceArea : Point → Point → Option (String × String)
  /-- `validate_distance`: the kilometres and the minutes the server found -/
  validateDistance : Point → Point → Option (ℚ × ℚ)
  /-- the country of the zone with that code -/
  countryOf : String → Option Country
  /-- the code of the rider, or the best that applies by itself, on a fare in a zone -/
  promoFor : ℕ → String → ℚ → Option Zone → PromoDecision

/-- `Trip` and its `FarePricing`, as booking writes them. -/
structure NewTrip where
  id : ℕ
  rider : ℕ
  clientRequestId : Option String
  zone : Option Zone
  pickup : Point
  drop : Point
  requestedVehicleType : Option ℕ
  currency : Currency
  estimatedFareMinor : ℤ
  surgeMultiplier : ℚ
  baseFare : ℚ
  distanceFare : ℚ
  timeFare : ℚ
  totalFareMinor : ℤ
  pretaxFareMinor : Option ℤ
  taxMinor : Option ℤ
  perTripFeeMinor : Option ℤ
  promo : Option ℕ
  discountAmountMinor : Option ℤ

/-- What a booking reads and writes. -/
structure Desk where
  config : Config
  quotes : Table StoredQuote.id
  nextQuote : ℕ
  issued : ∀ q ∈ quotes.rows, q.id < nextQuote
  trips : List NewTrip
  /-- the riders whose bookings were counted as demand -/
  pings : List ℕ

/-- The arguments of a booking. -/
structure Booking where
  rider : ℕ
  pickup : Point
  drop : Point
  vehicleType : String
  clientRequestId : Option String
  promoCode : String
  quoteId : Option ℕ

/-- What the rider is told. -/
inductive Outcome where
  | created (trip : NewTrip)
  | reused (trip : NewTrip)
  | refused (code : Option String) (message : String) (fresh : Option (String × StoredQuote))

/-- How far apart points are, and lower case. -/
structure Reads where
  metres : Point → Point → ℚ
  /-- `str.lower()` -/
  lower : String → String

/-! ## Quotes -/

def defaultValidSeconds : ℤ := 300

/-- `valid_seconds`: the country's `quote_valid_seconds`. -/
def validSeconds : Option Country → ℤ
  | some .india => 300
  | some .unitedStates => 300
  | none => defaultValidSeconds

/-- `MOVE_TOLERANCE_M`. -/
def moveTolerance : ℚ := 50

/-- `issue`: store the fare as a quote. -/
def Desk.issue (rd : Reads) (d : Desk) (fare : Quote) (riderId : Option ℕ) (pickup drop : Point)
    (validatedKm validatedMin : ℚ) : Desk × StoredQuote :=
  let sq : StoredQuote :=
    { id := d.nextQuote
      fare := fare
      riderId := riderId
      pickup := pickup
      drop := drop
      vehicleType := rd.lower fare.vehicleType
      validatedKm := validatedKm
      validatedMin := validatedMin
      expiresAt := d.config.market.now +
        validSeconds (d.config.countryOf fare.zoneCode) * second }
  ({ d with
      quotes := d.quotes.put sq
      nextQuote := d.nextQuote + 1
      issued := by
        intro q hq
        rcases Table.mem_put.mp hq with rfl | ⟨h, -⟩
        · exact Nat.lt_succ_self _
        · exact Nat.lt_succ_of_lt (d.issued q h) }, sq)

/-- Why a quote cannot be booked. -/
inductive Refusal where
  | expired
  | moved
deriving DecidableEq, Repr

/-- `check`: the quote with that id, when the booking is the ride it is for. -/
def check (rd : Reads) (d : Desk) (b : Booking) (id : ℕ) : Except Refusal StoredQuote :=
  match d.quotes.get? id with
  | none => .error .expired
  | some sq =>
      -- the cache drops an entry at its timeout
      if sq.expiresAt ≤ d.config.market.now then .error .expired
      else if sq.riderId ≠ none ∧ sq.riderId ≠ some b.rider then .error .expired
      else if moveTolerance < rd.metres b.pickup sq.pickup ∨
          moveTolerance < rd.metres b.drop sq.drop then .error .moved
      else if b.vehicleType ≠ "" ∧ rd.lower b.vehicleType ≠ sq.vehicleType then .error .moved
      else .ok sq

/-! ## Estimates -/

/-- What is priced for a ride between two points. -/
def rideRequest (b : Booking) (km min : ℚ) : Request := ⟨some km, some min, b.vehicleType, some b.pickup⟩

/-- Pricing with `record_demand` counts the rider, when Redis can be reached. -/
def Desk.recordDemand (d : Desk) (b : Booking) (r : Request) : Desk :=
  match resolve d.config.market r with
  | .error _ => d
  | .ok _ =>
      if d.config.market.redis b.pickup = .unavailable then d else { d with pings := b.rider :: d.pings }

/-! ## Booking -/

def tripCurrency (zone : Option Zone) : Currency :=
  (zone.bind (·.currency)).getD (getCountry (zone.bind (·.country))).currency

/-- The trip of a fare, before a promo. -/
def Desk.newTrip (d : Desk) (b : Booking) (fare : Quote) : NewTrip :=
  let zone := d.config.market.findZoneForPoint b.pickup
  let additive := decide (fare.taxMode = .additive)
  { id := d.trips.length + 1
    rider := b.rider
    clientRequestId := b.clientRequestId
    zone := zone
    pickup := b.pickup
    drop := b.drop
    requestedVehicleType := d.config.market.findVehicleType b.vehicleType
    currency := tripCurrency zone
    estimatedFareMinor := toMinor fare.totalFare (tripCurrency zone)
    surgeMultiplier := fare.surgeMultiplier
    baseFare := fare.baseFare
    distanceFare := fare.distanceFare
    timeFare := fare.timeFare
    totalFareMinor := toMinor fare.totalFare (tripCurrency zone)
    pretaxFareMinor :=
      if additive then
        some (toMinor (fare.totalFare - fare.taxAmount - fare.perTripFee) fare.currency)
      else none
    taxMinor := if additive then some (toMinor fare.taxAmount fare.currency) else none
    perTripFeeMinor := if additive then some (toMinor fare.perTripFee fare.currency) else none
    promo := none
    discountAmountMinor := none }

/-- The discount of a code on a fare and the tax it saves: none where the fare contains its tax. -/
def promoRelief (promo : Promotions.PromoCode) (fare : Quote) : ℤ × ℤ :=
  let total := toMinor fare.totalFare promo.currency
  match fare.taxMode with
  | .inclusive => (Promotions.payableDiscount promo total, 0)
  | .additive =>
      let split := splitAdditive total fare.taxPercent (toMinor fare.perTripFee promo.currency)
      let adj := adjust split.1 fare.taxPercent split.2.2 (Promotions.computeDiscount promo total)
        split.2.1
      (adj.discount, adj.relief)

/-- `redeem_promo` on a new trip: the fare drops by the tax no longer charged. -/
def NewTrip.redeem (t : NewTrip) (promo : Promotions.PromoCode) (fare : Quote) : NewTrip :=
  let relief := (promoRelief promo fare).2
  let full := if 0 < relief then max 0 (t.estimatedFareMinor - relief) else t.estimatedFareMinor
  { t with
    estimatedFareMinor := full
    totalFareMinor := full
    promo := some promo.id
    discountAmountMinor := some (promoRelief promo fare).1 }

/-- The rider is told nothing more. -/
def failed : Outcome := .refused none "Failed to create trip" none

/-- The transaction that writes the trip. -/
def Desk.write (d : Desk) (b : Booking) (fare : Quote) : Desk × Outcome :=
  let trip := d.newTrip b fare
  match d.config.promoFor b.rider b.promoCode fare.totalFare trip.zone with
  | .nothing => ({ d with trips := trip :: d.trips }, .created trip)
  | .refused reason => (d, .refused (some reason)
      ("That promo code can no longer be applied. " ++
        "Please check the fare and try again.") none)
  | .applies promo =>
      ({ d with trips := trip.redeem promo fare :: d.trips }, .created (trip.redeem promo fare))

/-- Price the ride, which counts it as demand, and book it at the quote if there is one. -/
def Desk.priceAndWrite (d : Desk) (b : Booking) (r : Request) (quote : Option StoredQuote) :
    Desk × Outcome :=
  let d' := d.recordDemand b r
  match quoteFare d.config.market r with
  | .error _ => (d', failed)
  | .ok fare => d'.write b ((quote.map (·.fare)).getD fare)

/-- The refusal of a quote comes with a fresh one. -/
def Desk.refuseQuote (rd : Reads) (d : Desk) (b : Booking) (r : Request) (km min : ℚ)
    (why : Refusal) : Desk × Outcome :=
  match quoteFare d.config.market r with
  | .error _ => (d, failed)
  | .ok fresh =>
      let issued := d.issue rd fresh (some b.rider) b.pickup b.drop km min
      (issued.1, .refused (some "QUOTE_EXPIRED")
        (match why with
          | .expired => "The fare changed because time passed."
          | .moved => "The fare changed because the trip changed.")
        (some (match why with
          | .expired => "expired"
          | .moved => "moved", issued.2)))

def Desk.createTrip (rd : Reads) (d : Desk) (b : Booking) : Desk × Outcome :=
  let existing := d.trips.find? fun t =>
    decide (b.clientRequestId ≠ none) && decide (t.rider = b.rider) &&
      decide (t.clientRequestId = b.clientRequestId)
  match existing with
  | some t => (d, .reused t)
  | none =>
      match d.config.serviceArea b.pickup b.drop with
      | some (code, message) =>
          (d, if code = "CITY_PAUSED" ∨ code = "CITY_NOT_LIVE" then
            .refused (some code) message none else failed)
      | none =>
          match d.config.validateDistance b.pickup b.drop with
          | none => (d, failed)
          | some (km, min) =>
              match b.quoteId with
              | none => d.priceAndWrite b (rideRequest b km min) none
              | some id =>
                  match check rd d b id with
                  | .error why => d.refuseQuote rd b (rideRequest b km min) km min why
                  | .ok sq => d.priceAndWrite b (rideRequest b km min) (some sq)

/-! ## Runs -/

/-- What happens at a desk. -/
inductive Event where
  /-- any rate card, zone, surge or other setting, and the time -/
  | change (config : Config)
  /-- `/ride/estimate-fare/`, for a rider or a guest -/
  | estimate (riderId : Option ℕ) (pickup drop : Point) (vehicleType : String)
  | book (b : Booking)

/-- `estimate_fare`: the fare is shown as a quote. -/
def Desk.estimate (rd : Reads) (d : Desk) (riderId : Option ℕ) (pickup drop : Point)
    (vehicleType : String) : Desk × Option StoredQuote :=
  match d.config.serviceArea pickup drop, d.config.validateDistance pickup drop with
  | none, some (km, min) =>
      match quoteFare d.config.market ⟨some km, some min, vehicleType, some pickup⟩ with
      | .error _ => (d, none)
      | .ok fare =>
          let issued := d.issue rd fare riderId pickup drop km min
          (issued.1, some issued.2)
  | _, _ => (d, none)

def Desk.step (rd : Reads) (d : Desk) : Event → Desk
  | .change config => { d with config := config }
  | .estimate riderId pickup drop vehicleType => (d.estimate rd riderId pickup drop vehicleType).1
  | .book b => (d.createTrip rd b).1

def Desk.run (rd : Reads) (d : Desk) (events : List Event) : Desk := events.foldl (Desk.step rd) d

end SaaradhiGo.Pricing
