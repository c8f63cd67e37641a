/-
The fare quote.

`quote_fare` looks up the zone of the pickup and the card of the class, meters the ride (base,
distance and time, then night and demand, the cap on both and the minimum fare), rounds the
subtotal once and states the lines it is made of.  Where tax is added on top it and the flat fee
follow.  Amounts are exact decimals in major units.
-/
import SaaradhiGo.Fares.Card
import SaaradhiGo.Money.Wallet
import SaaradhiGo.Lib.Rounding

namespace SaaradhiGo.Pricing

open SaaradhiGo.Money SaaradhiGo.Fares

/-! ## Money -/

/-- `exponent`: how many minor units a major one has. -/
def minorPerMajor : Currency → ℚ
  | .inr => 100
  | .usd => 100

def toMinor (amount : ℚ) (currency : Currency) : ℤ := roundHalfUp (amount * minorPerMajor currency)

def fromMinor (minor : ℤ) (currency : Currency) : ℚ := minor / minorPerMajor currency

def quantize (amount : ℚ) (currency : Currency) : ℚ := fromMinor (toMinor amount currency) currency

/-- `round_fare`: whole units for rupees, the minor unit otherwise. -/
def roundFare (amount : ℚ) (currency : Currency) : ℚ :=
  match currency with
  | .inr => quantize (roundHalfUp amount) .inr
  | .usd => quantize amount .usd

/-- `round(x, 2)`, half to even. -/
def roundTwo (x : ℚ) : ℚ := Rounding.halfEven (x * 100) / 100

/-- `round(x, 3)`, half to even. -/
def roundThree (x : ℚ) : ℚ := Rounding.halfEven (x * 1000) / 1000

/-- A column with two decimal places holds the number. -/
def TwoPlaces (x : ℚ) : Prop := (x * 100).den = 1

/-- A column with three decimal places holds the number. -/
def ThreePlaces (x : ℚ) : Prop := (x * 1000).den = 1

instance (x : ℚ) : Decidable (TwoPlaces x) := inferInstanceAs (Decidable (_ = _))

instance (x : ℚ) : Decidable (ThreePlaces x) := inferInstanceAs (Decidable (_ = _))

/-- The columns of a card hold its values. -/
structure Columns (v : CardValues) : Prop where
  baseFare : TwoPlaces v.baseFare
  perKmFare : TwoPlaces v.perKmFare
  perMinFare : TwoPlaces v.perMinFare
  minFare : TwoPlaces v.minFare
  nightSurgeMultiplier : TwoPlaces v.nightSurgeMultiplier
  surgeCapMultiplier : TwoPlaces v.surgeCapMultiplier
  gstPercent : ThreePlaces v.gstPercent

/-! ## Markets -/

/-- Whether a fare contains its tax. -/
inductive TaxMode where
  | inclusive
  | additive
deriving DecidableEq, Repr

/-- `COUNTRIES`. -/
inductive Country where
  | india
  | unitedStates
deriving DecidableEq, Repr

namespace Country

def currency : Country → Currency
  | india => .inr
  | unitedStates => .usd

def distanceUnit : Country → String
  | india => "km"
  | unitedStates => "mi"

def taxLabel : Country → String
  | india => "GST"
  | unitedStates => "Sales tax"

end Country

/-- `get_country`: an unknown country is the legacy default. -/
def getCountry (country : Option Country) : Country := country.getD .india

/-- `ServiceZone`, with what a quote reads of it; `none` is a blank column. -/
structure Zone extends ServiceZone where
  code : String
  country : Option Country
  currency : Option Currency
  distanceUnit : Option String
  taxMode : Option TaxMode
  perTripFee : ℚ
  perTripFeeLabel : String
deriving DecidableEq

abbrev Point : Type := ℚ × ℚ

/-- What Redis knows of the drivers and the riders near a point. -/
inductive Reading where
  | unavailable
  | counts (supply demand : ℕ)
deriving DecidableEq, Repr

/-- Everything a quote is looked up in. -/
structure Market where
  region : Region
  cards : Cards
  columns : ∀ c ∈ cards.cards.rows, Columns c.values
  findZoneForPoint : Point → Option Zone
  /-- the class of that name, in any case -/
  findVehicleType : String → Option ℕ
  /-- the hour in the zone's timezone, when it can be told -/
  localHour : ℕ → Option ℤ
  redis : Point → Reading
  /-- `PRICING_ALLOW_DEFAULT_FARE` -/
  allowDefaultFare : Bool
  now : ℤ

/-! ## Surge and night -/

/-- The multiplier of a ratio of riders to drivers. -/
def surgeTier (supply demand : ℕ) : ℚ :=
  let ratio : ℚ := demand / max supply 1
  if 5 ≤ ratio then 3 / 2
  else if 3 ≤ ratio then 13 / 10
  else if 3 / 2 ≤ ratio then 23 / 20
  else if ratio < 1 / 2 ∧ 10 ≤ supply then 9 / 10
  else 1

def computeSurgeMultiplier (redis : Point → Reading) (pickup : Option Point) (cap : ℚ) : ℚ :=
  match pickup.map redis with
  | none => 1
  | some .unavailable => 1
  | some (.counts supply demand) =>
      if cap < surgeTier supply demand then cap else surgeTier supply demand

def isNightNow (hour : Option ℤ) (v : CardValues) : Bool :=
  match hour with
  | none => false
  | some hour =>
      if v.nightSurgeStartHour = v.nightSurgeEndHour then false
      else if v.nightSurgeStartHour < v.nightSurgeEndHour then
        decide (v.nightSurgeStartHour ≤ hour ∧ hour < v.nightSurgeEndHour)
      else decide (v.nightSurgeStartHour ≤ hour ∨ hour < v.nightSurgeEndHour)

/-! ## What is priced -/

/-- The arguments of `quote_fare`; a number that cannot be read is `none`. -/
structure Request where
  distanceKm : Option ℚ
  durationMin : Option ℚ
  vehicleType : String
  pickup : Option Point
deriving DecidableEq

/-- Why there is no quote. -/
inductive QuoteError where
  | vehicleTypeRequired
  | pricingUnavailable
  | divisionByZero
deriving DecidableEq, Repr

/-- `_DEFAULTS`; the night window is never read without a card. -/
def defaults : CardValues where
  baseFare := 30
  perKmFare := 12
  perMinFare := 2
  minFare := 50
  nightSurgeMultiplier := 1
  nightSurgeStartHour := 0
  nightSurgeEndHour := 0
  surgeCapMultiplier := 3 / 2
  gstPercent := 5

/-- What a fare is worked out from. -/
structure Priced where
  zone : Option Zone
  card : Option RateCard
  distanceKm : ℚ
  durationMin : ℚ
  /-- the hour is in the night window of the card -/
  night : Bool
  dyn : ℚ

def Priced.values (p : Priced) : CardValues := (p.card.map (·.values)).getD defaults

/-- The numbers of a request: both are nothing when one cannot be read. -/
def Request.numbers (r : Request) : ℚ × ℚ :=
  match r.distanceKm, r.durationMin with
  | some km, some min => (max km 0, max min 0)
  | _, _ => (0, 0)

/-- The lookups of `quote_fare`. -/
def resolve (m : Market) (r : Request) : Except QuoteError Priced :=
  if r.vehicleType = "" then .error .vehicleTypeRequired
  else
    let zone := r.pickup.bind m.findZoneForPoint
    let card := zone.bind fun z => (m.findVehicleType r.vehicleType).bind fun vt =>
      getActiveRateCard m.region m.cards z.toServiceZone vt m.now
    if card.isNone && !m.allowDefaultFare then .error .pricingUnavailable
    else .ok
      { zone := zone
        card := card
        distanceKm := r.numbers.1
        durationMin := r.numbers.2
        night := card.any fun c => isNightNow (m.localHour c.zone) c.values
        dyn := computeSurgeMultiplier m.redis r.pickup
          ((card.map (·.values)).getD defaults).surgeCapMultiplier }

namespace Priced

variable (p : Priced)

/-! ## The metered fare -/

def distanceFare : ℚ := p.values.perKmFare * p.distanceKm

def timeFare : ℚ := p.values.perMinFare * p.durationMin

/-- What the three metered lines come to. -/
def preSurge : ℚ := p.values.baseFare + p.distanceFare + p.timeFare

def nightApplied : Bool := decide (1 < p.values.nightSurgeMultiplier) && p.night

/-- The subtotal and the multiplier after night, demand and the cap. -/
def surged : ℚ × ℚ :=
  let (subtotal, surge) : ℚ × ℚ :=
    if p.nightApplied then
      (p.preSurge * p.values.nightSurgeMultiplier, 1 * p.values.nightSurgeMultiplier)
    else (p.preSurge, 1)
  let (subtotal, surge) : ℚ × ℚ :=
    if p.dyn ≠ 1 then (subtotal * p.dyn, surge * p.dyn) else (subtotal, surge)
  if p.values.surgeCapMultiplier < surge then
    (p.preSurge * p.values.surgeCapMultiplier, p.values.surgeCapMultiplier)
  else (subtotal, surge)

def surge : ℚ := p.surged.2

def minFareApplied : Bool := decide (p.surged.1 < p.values.minFare)

def subtotal : ℚ := if p.minFareApplied then p.values.minFare else p.surged.1

/-! ## The market -/

def country : Country := getCountry (p.zone.bind (·.country))

def currency : Currency := (p.zone.bind (·.currency)).getD p.country.currency

def taxMode : TaxMode := (p.zone.bind (·.taxMode)).getD .inclusive

def distanceUnit : String := (p.zone.bind (·.distanceUnit)).getD p.country.distanceUnit

def perTripFee : ℚ := quantize ((p.zone.map (·.perTripFee)).getD 0) p.currency

def feeLabel : String :=
  match p.zone with
  | none => "Regulatory fee"
  | some z => if z.perTripFeeLabel = "" then "Regulatory fee" else z.perTripFeeLabel

def meteredFare : ℚ := roundFare p.subtotal p.currency

/-- The tax on the fare: on top of it, or the part of it that is tax. -/
def taxAmount : ℚ :=
  match p.taxMode with
  | .additive => quantize (p.meteredFare * p.values.gstPercent / 100) p.currency
  | .inclusive =>
      if p.values.gstPercent ≠ 0 then
        quantize (p.meteredFare * p.values.gstPercent / (100 + p.values.gstPercent)) p.currency
      else 0

end Priced

/-! ## Lines -/

inductive AdjustmentCode where
  | surge
  | minimumFare
  | rounding
  | tax
  | perTripFee
deriving DecidableEq, Repr

/-- A named line beside base, distance and time. -/
structure Adjustment where
  code : AdjustmentCode
  label : String
  amount : ℚ
deriving DecidableEq

def total (lines : List Adjustment) : ℚ := (lines.map (·.amount)).sum

namespace Priced

variable (p : Priced)

/-- The lines of the surge and of the minimum fare. -/
def uplifts : List Adjustment :=
  (if p.surge ≠ 1 then
    [⟨.surge, "Busy-time surcharge", quantize (p.preSurge * p.surge - p.preSurge) p.currency⟩]
  else []) ++
  (if p.minFareApplied then
    [⟨.minimumFare, "Minimum fare adjustment",
      quantize (p.values.minFare - p.preSurge * p.surge) p.currency⟩]
  else [])

def explained : ℚ :=
  quantize p.values.baseFare p.currency + quantize p.distanceFare p.currency +
    quantize p.timeFare p.currency + total p.uplifts

def residual : ℚ := p.meteredFare - p.explained

def rounding : List Adjustment :=
  if p.residual ≠ 0 then [⟨.rounding, "Rounding", p.residual⟩] else []

/-- Tax and fee where they come on top. -/
def charges : List Adjustment :=
  match p.taxMode with
  | .inclusive => []
  | .additive =>
      (if p.taxAmount ≠ 0 then [⟨.tax, p.country.taxLabel, p.taxAmount⟩] else []) ++
      (if p.perTripFee ≠ 0 then [⟨.perTripFee, p.feeLabel, p.perTripFee⟩] else [])

/-- The fare with what comes on top. -/
def totalFare : ℚ :=
  match p.taxMode with
  | .inclusive => p.meteredFare
  | .additive => p.meteredFare + p.taxAmount + p.perTripFee

end Priced

/-! ## The quote -/

/-- Where the values come from. -/
inductive Source where
  | db
  | default
deriving DecidableEq, Repr

/-- What `quote_fare` returns. -/
structure Quote where
  totalFare : ℚ
  currency : Currency
  taxMode : TaxMode
  taxPercent : ℚ
  taxLabel : String
  taxAmount : ℚ
  perTripFee : ℚ
  distanceUnit : String
  baseFare : ℚ
  distanceFare : ℚ
  timeFare : ℚ
  fareAdjustments : List Adjustment
  surgeMultiplier : ℚ
  nightSurgeApplied : Bool
  minFareApplied : Bool
  vehicleType : String
  zoneCode : String
  rateCardVersion : Option ℕ
  source : Source
deriving DecidableEq

def Priced.quote (p : Priced) (vehicleType : String) : Quote where
  totalFare := p.totalFare
  currency := p.currency
  taxMode := p.taxMode
  taxPercent := roundThree p.values.gstPercent
  taxLabel := p.country.taxLabel
  taxAmount := p.taxAmount
  perTripFee := p.perTripFee
  distanceUnit := p.distanceUnit
  baseFare := quantize p.values.baseFare p.currency
  distanceFare := quantize p.distanceFare p.currency
  timeFare := quantize p.timeFare p.currency
  fareAdjustments := p.uplifts ++ p.rounding ++ p.charges
  surgeMultiplier := roundTwo p.surge
  nightSurgeApplied := p.nightApplied
  minFareApplied := p.minFareApplied
  vehicleType := vehicleType
  zoneCode := (p.zone.map (·.code)).getD ""
  rateCardVersion := p.card.map (·.version)
  source := if p.card.isSome then .db else .default

/-- `quote_fare`.  A tax contained in the fare is worked out with a quotient. -/
def quoteFare (m : Market) (r : Request) : Except QuoteError Quote :=
  match resolve m r with
  | .error e => .error e
  | .ok p =>
      if p.taxMode = .inclusive ∧ 100 + p.values.gstPercent = 0 then .error .divisionByZero
      else .ok (p.quote r.vehicleType)

end SaaradhiGo.Pricing
