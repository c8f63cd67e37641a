/-
Receipts of a completed trip.

`issue_receipt` makes the receipt of a trip the first time it is asked, and `reissue_receipt` makes
a further version.  Neither reads what the trip was charged in tax: the percentage, the fee and
whether tax comes on top are looked up among the zones and the cards as they are when the receipt
is made, and the tax is worked back out of the total.
-/
import SaaradhiGo.Pricing.Driven
import SaaradhiGo.Pricing.PromoTax
import SaaradhiGo.Lib.Transition

namespace SaaradhiGo.Receipts

open SaaradhiGo.Money SaaradhiGo.Fares SaaradhiGo.Pricing SaaradhiGo.Settlement

/-! ## Data -/

/-- `Receipt`, one row for each version.  The document itself is left out. -/
structure Receipt where
  version : ℕ
  receiptNumber : String
  totalFare : ℚ
  gstAmount : ℚ
  currency : Currency
  paymentMethod : String
  paymentStatus : String
  sentToEmail : String
  lastSentAt : Option ℤ
  sendFailureReason : String
deriving DecidableEq

/-- What a completed trip was charged, which nothing changes any more. -/
structure Charge where
  trip : Settlement.Trip
  /-- the promo discount it held then -/
  discount : ℤ
  /-- `gst_percent` of the card that priced it -/
  percent : ℚ
  /-- `completed_at`, as `%Y%m` -/
  completedMonth : Option String

/-- What a receipt is made from besides, as it is now. -/
structure Context where
  market : Market
  /-- the trip with the rows of its zone and of the class of its vehicle -/
  booked : BookedTrip
  /-- the promo discount it holds, when that can be read -/
  held : Option ℤ
  rider : Option String
  paymentMethod : String
  paymentStatus : String
  /-- now, as `%Y%m` -/
  month : String

/-- The receipts of a trip, and what the next one would be made from. -/
structure Desk where
  context : Context
  receipts : List Receipt

def opening (x : Context) : Desk := ⟨x, []⟩

/-! ## What was charged -/

/-- The tax the trip was charged: where tax comes on top what the settlement recorded, and else
what is contained in the fare at the percentage of its card. -/
def Charge.tax (c : Charge) : ℤ :=
  if c.trip.additiveTax then
    ((settlementSplit c.trip (fareMinor c.trip) c.discount).map Split.tax).getD 0
  else roundHalfUp (fareMinor c.trip * c.percent / (100 + c.percent))

/-! ## The rate -/

def defaultTaxPercent : Country → ℚ
  | .india => 5
  | .unitedStates => 0

def anyActiveCard (db : Cards) (zone : ℕ) : Option RateCard :=
  (db.cards.rows.filter fun card => decide (card.zone = zone) && card.isActive).argmax
    RateCard.version

/-- `_get_active_rate_card_for_trip`: the card that is in force now. -/
def activeRateCardForTrip (m : Market) (trip : BookedTrip) : Option RateCard :=
  (trip.zone <|> m.findZoneForPoint trip.pickup).bind fun zone =>
    let ofClass := (trip.vehicleType <|> trip.requestedVehicleType).bind fun vt =>
      getActiveRateCard m.region m.cards zone.toServiceZone vt m.now
    ofClass <|> anyActiveCard m.cards zone.id

def countryOf (trip : BookedTrip) : Country := getCountry (trip.zone.bind (·.country))

def resolveTaxRate (m : Market) (trip : BookedTrip) : ℚ :=
  match activeRateCardForTrip m trip with
  | some card => card.values.gstPercent
  | none => defaultTaxPercent (countryOf trip)

/-! ## The amount -/

/-- A blank column or a nought counts as missing. -/
def truthy (minor : Option ℤ) : Option ℤ := minor.filter (· ≠ 0)

/-- `_total_fare`, in minor units. -/
def totalFare (trip : Settlement.Trip) : ℤ :=
  if trip.platformFunded then 0
  else (truthy trip.finalFareMinor <|> truthy trip.estimatedFareMinor).getD 0

def taxMode (trip : BookedTrip) : TaxMode := (trip.zone.bind (·.taxMode)).getD .inclusive

/-- `payable_minor`: what the rider is charged when a discount is held. -/
def payableMinor (trip : Settlement.Trip) (discount : ℤ) : ℤ :=
  max 0 (fareMinor trip - min discount (fareMinor trip))

/-- `discount_minor`; a discount that cannot be read is none. -/
def heldDiscount (trip : Settlement.Trip) (held : Option ℤ) : ℤ :=
  if trip.platformFunded then 0 else held.getD 0

/-- `_tax_basis`: what the rider was charged where a promo lowered the tax, else the total. -/
def taxBasis (c : Charge) (x : Context) : ℤ :=
  match taxMode x.booked with
  | .inclusive => totalFare c.trip
  | .additive =>
      let held := heldDiscount c.trip x.held
      if held = 0 then totalFare c.trip else payableMinor c.trip held

/-- What `_receipt_tax` returns. -/
structure ReceiptTax where
  amount : ℚ
  mode : TaxMode
  label : String
  currency : Currency
deriving DecidableEq

/-- `_receipt_tax`; none when it divides by nought. -/
def receiptTax (trip : BookedTrip) (total rate : ℚ) : Option ReceiptTax :=
  let currency := currencyForTrip trip
  let label := (countryOf trip).taxLabel
  match taxMode trip with
  | .additive =>
      let perTripFee := (trip.zone.map (·.perTripFee)).getD 0
      let taxable := max 0 (total - perTripFee)
      let divisor := 1 + rate / 100
      let pretax := if divisor ≠ 0 then taxable / divisor else taxable
      some ⟨quantize (pretax * rate / 100) currency, .additive, label, currency⟩
  | .inclusive =>
      if 100 + rate = 0 then none
      else some ⟨quantize (total * rate / (100 + rate)) currency, .inclusive, label, currency⟩

/-! ## Making receipts -/

def receiptNumber (month : String) (trip version : ℕ) : String :=
  "SG-" ++ month ++ "-" ++ toString trip ++ "-v" ++ toString version

/-- A new receipt, before it is sent; none when its tax cannot be worked out. -/
def newReceipt (c : Charge) (x : Context) (email : String) (version : ℕ) : Option Receipt :=
  let rate := resolveTaxRate x.market x.booked
  (receiptTax x.booked (fromMinor (taxBasis c x) (currencyForTrip x.booked)) rate).map fun tax =>
    { version := version
      receiptNumber := receiptNumber (c.completedMonth.getD x.month) c.trip.id version
      totalFare := fromMinor (totalFare c.trip) tax.currency
      gstAmount := tax.amount
      currency := tax.currency
      paymentMethod := x.paymentMethod
      paymentStatus := x.paymentStatus
      sentToEmail := email
      lastSentAt := none
      sendFailureReason := "" }

def Receipt.sent (r : Receipt) (now : ℤ) (mail : Bool × String) : Receipt :=
  { r with
    lastSentAt := if mail.1 then some now else r.lastSentAt
    sendFailureReason := mail.2 }

def latest (receipts : List Receipt) : Option Receipt := receipts.argmax Receipt.version

/-- A new version is written and sent. -/
def Desk.make (c : Charge) (d : Desk) (email : String) (version : ℕ) (mail : Bool × String) :
    Desk :=
  match newReceipt c d.context email version with
  | none => d
  | some r => { d with receipts := r.sent d.context.market.now mail :: d.receipts }

/-- `issue_receipt`: the receipt there is, sent again when that is asked, or a first one. -/
def Desk.issueReceipt (c : Charge) (d : Desk) (forceResend : Bool) (mail : Bool × String) : Desk :=
  match d.context.rider with
  | none => d
  | some email =>
      match latest d.receipts with
      | none => d.make c email 1 mail
      | some existing =>
          if forceResend then
            { d with receipts := d.receipts.map fun r =>
                if r.version = existing.version then r.sent d.context.market.now mail else r }
          else d

/-- `reissue_receipt`: one version more. -/
def Desk.reissueReceipt (c : Charge) (d : Desk) (mail : Bool × String) : Desk :=
  match d.context.rider with
  | none => d
  | some email =>
      d.make c email (((latest d.receipts).map fun r => r.version + 1).getD 1) mail

/-! ## Runs -/

/-- What happens to a completed trip. -/
inductive Event where
  /-- anything a receipt is made from: cards, zones, the vehicle, the promo, the rider, the time -/
  | change (x : Context)
  | issue (forceResend : Bool) (mail : Bool × String)
  | reissue (mail : Bool × String)

def step (c : Charge) (d : Desk) : Event → Desk
  | .change x => { d with context := x }
  | .issue forceResend mail => d.issueReceipt c forceResend mail
  | .reissue mail => d.reissueReceipt c mail

end SaaradhiGo.Receipts
