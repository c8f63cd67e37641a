/-
A promo code on a fare.

`apply_promo` shows the rider what a code takes off; `redeem_promo` takes it off the fare of a trip,
against the budget of the campaign behind the code.  The two check the same rules one after the
other, each in its own words.  Fares are exact decimals in major units.
-/
import SaaradhiGo.AdminAccess.GeoNode
import SaaradhiGo.Lib.Python
import SaaradhiGo.Pricing.SplitBack
import SaaradhiGo.Promotions.Redemption

namespace SaaradhiGo.PromoCodes

open SaaradhiGo.Money SaaradhiGo.Promotions
open SaaradhiGo.AdminAccess (GeoNode)
open SaaradhiGo.Pricing (toMinor fromMinor quantize splitQuoted)

/-! ## Data -/

/-- A service zone, as far as a promo reads it. -/
structure PickupZone where
  id : ℕ
  geoNode : Option GeoNode
  /-- `additive_context`: the tax percentage of the zone's card and the fee, where tax comes on
  top -/
  additiveContext : Option (ℚ × ℚ)
deriving DecidableEq

/-- The rules of a code, beside its discount and its window. -/
structure Terms where
  code : String
  description : String
  minFareMinor : ℤ
  zone : Option PickupZone
  maxTotalRedemptions : Option ℕ
  maxPerUserRedemptions : ℕ
deriving DecidableEq

/-- Whom a campaign serves: its place, and new riders only or all. -/
structure Audience where
  geoNode : Option GeoNode
  newRidersOnly : Bool
deriving DecidableEq

/-- What promo codes read and never write. -/
structure Directory where
  /-- `iexact`: the same text, without case -/
  iexact : String → String → Bool
  terms : ℕ → Terms
  hasCompletedTrip : ℕ → Bool
  countryNode : Currency → Option GeoNode

/-- What they read and write. -/
structure Service where
  db : Db
  audience : ℕ → Audience
  /-- `estimated_fare_minor`, by trip -/
  estimatedFareMinor : ℕ → Option ℤ

/-- The `tax` argument. -/
inductive TaxArgument where
  /-- `None`: the zone is asked -/
  | ofZone
  /-- `False`: the quote contains its tax -/
  | inclusive
  /-- the percentage and the fee of the quote -/
  | quoted (percent fee : ℚ)
deriving DecidableEq

/-- The arguments of both functions; `time` is `at`. -/
structure Query where
  code : String
  user : ℕ
  fare : ℚ
  zone : Option PickupZone
  time : Option ℕ
  tax : TaxArgument
deriving DecidableEq

/-- Why a code is refused. -/
inductive Reason where
  | notFound
  | notYetValid
  | expired
  | wrongZone
  | minFare
  | userLimit
  | limitReached
  | budgetExhausted
  | newRidersOnly
deriving DecidableEq, Repr

/-- `PromoResult`; `reason` is `none` on success. -/
structure PromoResult where
  ok : Bool
  code : String
  discountAmount : ℚ
  finalFare : ℚ
  description : String
  reason : Option Reason
  taxAmount : Option ℚ
  taxRelief : Option ℚ
deriving DecidableEq

/-- The result of a refusal. -/
def PromoResult.refused (code : String) (reason : Reason) (description : String) : PromoResult where
  ok := false
  code := code
  discountAmount := 0
  finalFare := 0
  description := description
  reason := some reason
  taxAmount := none
  taxRelief := none

/-- What `redeem_promo` raises. -/
inductive Raised where
  /-- `get` finds more than one code -/
  | multipleObjectsReturned
  | db (e : Error)
deriving DecidableEq, Repr

/-! ## Discounts -/

def computeDiscount (promo : PromoCode) (fare : ℚ) : ℚ :=
  match promo.discount with
  | .flat minor => min (fromMinor minor promo.currency) fare
  | .percent percent maxMinor =>
      let raw := quantize (fare * (percent / 100)) promo.currency
      let raw := match maxMinor with
        | none => raw
        | some cap => min raw (fromMinor cap promo.currency)
      min raw fare

/-- What `adjust` returns, in major units. -/
structure Adjusted where
  tax : ℚ
  full : ℚ
  discount : ℚ
  payable : ℚ
  relief : ℚ
deriving DecidableEq

/-- `adjust`: the tax is on the discounted fare and never more than it was. -/
def adjust (pretax percent fee discount : ℚ) (currency : Currency) (taxBefore : Option ℚ) :
    Adjusted :=
  let before := taxBefore.getD (quantize (pretax * percent / 100) currency)
  let taxable := max 0 (pretax - discount)
  let tax := min (quantize (taxable * percent / 100) currency) before
  let full := pretax + tax + fee
  let applied := min discount full
  { tax := tax
    full := full
    discount := applied
    payable := full - applied
    relief := before - tax }

def taxAdjust (promo : PromoCode) (zone : Option PickupZone) (fare discount : ℚ)
    (tax : TaxArgument) : Option Adjusted :=
  let ctx := match tax with
    | .inclusive => none
    | .quoted percent fee => some (percent, fee)
    | .ofZone => zone.bind (·.additiveContext)
  ctx.map fun ctx =>
    let split := splitQuoted fare ctx.1 ctx.2 promo.currency
    adjust split.1 ctx.1 split.2.2 discount promo.currency (some split.2.1)

/-- The discount the budget is asked for in the preview: what is computed, with the tax on top
what is left of it. -/
def quotedDiscount (promo : PromoCode) (fare : ℚ) (adj : Option Adjusted) : ℚ :=
  match adj with
  | some adj => adj.discount
  | none => computeDiscount promo fare

/-- The discount of a redemption and what is left to pay: without tax on top the fare after the
discount is rounded, and the discount is what the rounding leaves of it. -/
def roundedDiscount (promo : PromoCode) (fare : ℚ) (adj : Option Adjusted) : ℚ × ℚ :=
  match adj with
  | some adj => (adj.discount, adj.payable)
  | none =>
      let final := max 0 (Pricing.roundFare (fare - computeDiscount promo fare) promo.currency)
      (fare - final, final)

def PromoResult.accepted (terms : Terms) (promo : PromoCode) (rounded : ℚ × ℚ)
    (adj : Option Adjusted) : PromoResult where
  ok := true
  code := terms.code
  discountAmount := quantize rounded.1 promo.currency
  finalFare := rounded.2
  description := terms.description
  reason := none
  taxAmount := adj.map (·.tax)
  taxRelief := adj.map (·.relief)

/-! ## Campaigns -/

def inPlace (geoNode : Option GeoNode) (zone : Option PickupZone) : Bool :=
  match geoNode with
  | none => true
  | some node =>
      if node.kind = .country ∨ node.kind = .global then
        match zone with
        | none => true
        | some zone =>
            match zone.geoNode with
            | none => true
            | some zoneNode => node.covers zoneNode
      else
        match zone with
        | none => false
        | some zone =>
            match zone.geoNode with
            | none => false
            | some zoneNode => node.covers zoneNode

/-- The place of a code that has no campaign: its zone's, or the country of its currency. -/
def legacyNode (dir : Directory) (promo : PromoCode) : Option GeoNode :=
  match (dir.terms promo.id).zone.bind (·.geoNode) with
  | some node => some node
  | none => dir.countryNode promo.currency

/-- `new_riders_only`, and the rider is none. -/
def notNew (dir : Directory) (audience : Audience) (user : ℕ) : Bool :=
  audience.newRidersOnly && dir.hasCompletedTrip user

def previewRefusal (dir : Directory) (s : Service) (promo : PromoCode) (user : ℕ) (discount : ℚ)
    (zone : Option PickupZone) : Option Reason :=
  match campaignFor s.db promo.id with
  | none => none
  | some campaign =>
      if campaign.state ≠ .live then some .notFound
      else if !inPlace (s.audience campaign.id).geoNode zone then some .wrongZone
      else if notNew dir (s.audience campaign.id) user then some .newRidersOnly
      else if !campaign.admits (toMinor discount promo.currency) then some .budgetExhausted
      else none

/-! ## Checks -/

namespace Service

variable (s : Service)

def codes (dir : Directory) (code : String) : List PromoCode :=
  s.db.promos.rows.filter fun promo => dir.iexact (dir.terms promo.id).code (Python.strip code)

/-- The first of some codes, latest first. -/
def latest (promos : List PromoCode) : Option PromoCode :=
  promos.foldl (fun best promo =>
    match best with
    | none => some promo
    | some b => if b.validFrom < promo.validFrom then some promo else some b) none

/-- How often the rider holds the code. -/
def userCount (promo user : ℕ) : ℕ :=
  (s.db.redemptions.rows.filter fun r =>
    r.promo = promo ∧ r.user = user ∧ r.state ≠ .released).length

end Service

def limitReached (terms : Terms) (promo : PromoCode) : Bool :=
  terms.maxTotalRedemptions.any fun most => most ≤ promo.redemptionCount

/-- `Minimum fare Rs.… required.` -/
def minFareText (terms : Terms) : String :=
  "Minimum fare Rs." ++ Python.hundredthsText terms.minFareMinor ++ " required."

/-! ## Preview -/

def applyPromo (dir : Directory) (s : Service) (now : ℕ) (q : Query) : PromoResult :=
  let time := q.time.getD now
  match Service.latest ((s.codes dir q.code).filter (·.isActive)) with
  | none => .refused q.code .notFound ""
  | some promo =>
      let terms := dir.terms promo.id
      if time < promo.validFrom then .refused q.code .notYetValid ""
      else if promo.validTo ≤ time then .refused q.code .expired ""
      else if terms.zone.any fun zone => q.zone.any fun pickup => pickup.id ≠ zone.id then
        .refused q.code .wrongZone ""
      else if terms.zone.isSome && q.zone.isNone then .refused q.code .wrongZone ""
      else if q.fare < fromMinor terms.minFareMinor promo.currency then
        .refused q.code .minFare (minFareText terms)
      else if terms.maxPerUserRedemptions ≤ s.userCount promo.id q.user then
        .refused q.code .userLimit ""
      else if limitReached terms promo then .refused q.code .limitReached ""
      else
        let discount := computeDiscount promo q.fare
        let adj := taxAdjust promo q.zone q.fare discount q.tax
        match previewRefusal dir s promo q.user (quotedDiscount promo q.fare adj) q.zone with
        | some reason => .refused q.code reason ""
        | none => .accepted terms promo (roundedDiscount promo q.fare adj) adj

/-! ## Redemption -/

/-- Whom the campaign of a code serves, with the one it gets when it has none. -/
def Service.audienceFor (dir : Directory) (s : Service) (promo : PromoCode) : Audience :=
  match campaignFor s.db promo.id with
  | some campaign => s.audience campaign.id
  | none => ⟨legacyNode dir promo, false⟩

/-- What is booked against the campaign. -/
def Service.booking (dir : Directory) (s : Service) (promo : PromoCode) (q : Query)
    (trip : Option ℕ) (discount : ℚ) : Booking where
  promo := promo.id
  user := q.user
  trip := trip
  discountMinor := toMinor discount promo.currency
  inPlace := inPlace (s.audienceFor dir promo).geoNode q.zone
  notNew := notNew dir (s.audienceFor dir promo) q.user
  campaignId := s.db.campaigns.nextKey
  redemptionId := s.db.redemptions.nextKey

/-- A code that gets a campaign keeps its place. -/
def Service.wrap (dir : Directory) (s : Service) (promo : PromoCode) (db : Db) : Service :=
  { s with
    db
    audience :=
      match campaignFor s.db promo.id with
      | some _ => s.audience
      | none => Function.update s.audience s.db.campaigns.nextKey (s.audienceFor dir promo) }

/-- The reason of a refused reservation. -/
def Reason.ofRefusal : PromoRefusal → Reason
  | .notFound => .notFound
  | .wrongZone => .wrongZone
  | .newRidersOnly => .newRidersOnly
  | .budgetExhausted => .budgetExhausted

/-- The trip's fare drops by the tax no longer charged. -/
def Service.relieve (s : Service) (trip : Option ℕ) (adj : Option Adjusted) (currency : Currency) :
    Service :=
  match trip, adj with
  | some trip, some adj =>
      if 0 < adj.relief then
        let fare := max 0 ((s.estimatedFareMinor trip).getD 0 - toMinor adj.relief currency)
        { s with estimatedFareMinor := Function.update s.estimatedFareMinor trip (some fare) }
      else s
  | _, _ => s

/-- The redemption of a booking that was reserved. -/
def redemptionOf (promo : PromoCode) (b : Booking) (campaign : ℕ) (discount : ℚ) :
    PromoRedemption where
  id := b.redemptionId
  promo := promo.id
  user := b.user
  trip := b.trip
  campaign := some campaign
  discountAmountMinor := toMinor (quantize discount promo.currency) promo.currency
  currency := promo.currency
  state := .committed

/-- The campaign's budget, the redemption and the count of a code that is admitted. -/
def Service.claim (dir : Directory) (s : Service) (now : ℕ) (promo : PromoCode) (q : Query)
    (trip : Option ℕ) (discount : ℚ) : Except Raised (Service × Option Reason) :=
  let b := s.booking dir promo q trip discount
  match reserveForRedemption now promo b s.db with
  | .error e => .error (.db e)
  | .ok (db, .error refusal) => .ok (s.wrap dir promo db, some (.ofRefusal refusal))
  | .ok (db, .ok campaign) =>
      match db.redemptions.insert? (redemptionOf promo b campaign discount) with
      | none => .error (.db .integrityError)
      | some redemptions =>
          let counted := { promo with redemptionCount := promo.redemptionCount + 1 }
          .ok (s.wrap dir promo { db with redemptions, promos := db.promos.put counted }, none)

def redeemPromo (dir : Directory) (s : Service) (now : ℕ) (q : Query) (trip : Option ℕ) :
    Except Raised (PromoResult × Service) :=
  let time := q.time.getD now
  match s.codes dir q.code with
  | [] => .ok (.refused q.code .notFound "", s)
  | _ :: _ :: _ => .error .multipleObjectsReturned
  | [promo] =>
      let terms := dir.terms promo.id
      if !promo.isActive then .ok (.refused q.code .notFound "", s)
      else if time < promo.validFrom then .ok (.refused q.code .notYetValid "", s)
      else if promo.validTo ≤ time then .ok (.refused q.code .expired "", s)
      else if terms.zone.any fun zone => q.zone.all fun pickup => pickup.id ≠ zone.id then
        .ok (.refused q.code .wrongZone "", s)
      else if q.fare < fromMinor terms.minFareMinor promo.currency then
        .ok (.refused q.code .minFare "", s)
      else if terms.maxPerUserRedemptions ≤ s.userCount promo.id q.user then
        .ok (.refused q.code .userLimit "", s)
      else if limitReached terms promo then .ok (.refused q.code .limitReached "", s)
      else
        let discount := computeDiscount promo q.fare
        let adj := taxAdjust promo q.zone q.fare discount q.tax
        let rounded := roundedDiscount promo q.fare adj
        match s.claim dir now promo q trip rounded.1 with
        | .error e => .error e
        | .ok (s, some reason) => .ok (.refused q.code reason "", s)
        | .ok (s, none) =>
            .ok (.accepted terms promo rounded adj, s.relieve trip adj promo.currency)

end SaaradhiGo.PromoCodes
