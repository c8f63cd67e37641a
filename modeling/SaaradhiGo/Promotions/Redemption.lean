/-
Redemptions of promo codes, and rewards.

A booking reserves the discount of its code against the campaign; the redemption row stands for
the reservation until the trip settles, is cancelled, or is ended by an operator.  Incentive and
referral rewards are spent at once.  Each operation is one transaction; what it raises rolls it
back.
-/
import SaaradhiGo.Promotions.Budget
import SaaradhiGo.Lib.TableSum
import SaaradhiGo.Lib.Transition

namespace SaaradhiGo.Promotions

open SaaradhiGo.Money

/-! ## Data -/

/-- What a code takes off. -/
inductive Discount where
  | percent (percent : ℚ) (maxMinor : Option ℤ)
  | flat (minor : ℤ)
deriving DecidableEq

/-- A code that riders enter. -/
structure PromoCode where
  id : ℕ
  discount : Discount
  currency : Currency
  isActive : Bool
  validFrom : ℕ
  validTo : ℕ
  redemptionCount : ℕ
deriving DecidableEq

/-- Where a reservation stands. -/
inductive RedemptionState where
  | committed
  | settled
  | released
  | legacy
deriving DecidableEq, Repr

structure PromoRedemption where
  id : ℕ
  promo : ℕ
  user : ℕ
  trip : Option ℕ
  campaign : Option ℕ
  discountAmountMinor : ℤ
  currency : Currency
  state : RedemptionState
deriving DecidableEq, Repr

def PromoRedemption.withState (r : PromoRedemption) (state : RedemptionState) : PromoRedemption :=
  { r with state }

def PromoRedemption.withDiscount (r : PromoRedemption) (minor : ℤ) : PromoRedemption :=
  { r with discountAmountMinor := minor }

/-- A trip, as far as its promo reads it. -/
structure Trip where
  id : ℕ
  user : ℕ
  driver : Option ℕ
  cancelled : Bool
  /-- an operator ended it under the rule that charges the rider nothing -/
  platformFunded : Bool
deriving DecidableEq, Repr

inductive EntryKind where
  | discountFunded
  | incentiveReward
  | referralReward
deriving DecidableEq, Repr

/-- The `idempotency_key` of a ledger entry. -/
inductive EntryKey where
  /-- `promo_discount:<redemption>` -/
  | promoDiscount (redemption : ℕ)
  /-- `incentive:<campaign>:<driver>` -/
  | incentive (campaign driver : ℕ)
  /-- `referral:<referral>:referrer` -/
  | referrer (referral : ℕ)
  /-- `referral:<referral>:referee` -/
  | referee (referral : ℕ)
deriving DecidableEq, Repr

/-- What the platform paid for a campaign. -/
structure LedgerEntry where
  kind : EntryKind
  campaign : ℕ
  user : ℕ
  trip : Option ℕ
  amountMinor : ℤ
  key : EntryKey
deriving DecidableEq, Repr

/-- The part of the database that promotions read and write. -/
structure Db where
  campaigns : Table Campaign.id
  promos : Table PromoCode.id
  redemptions : Table PromoRedemption.id
  trips : Table Trip.id
  entries : Table LedgerEntry.key
  wallets : Wallets
  ledger : Ledger

/-! ## Discounts -/

/-- `round_fare`: whole rupees, and the minor unit of another currency. -/
def roundFare (currency : Currency) (minor : ℤ) : ℤ :=
  match currency with
  | .inr => 100 * roundHalfUp (minor / 100)
  | .usd => minor

def computeDiscount (promo : PromoCode) (fare : ℤ) : ℤ :=
  match promo.discount with
  | .flat minor => min minor fare
  | .percent percent maxMinor =>
      let raw := roundHalfUp (fare * percent / 100)
      let raw := match maxMinor with
        | none => raw
        | some cap => min raw cap
      min raw fare

def payableDiscount (promo : PromoCode) (fare : ℤ) : ℤ :=
  let raw := computeDiscount promo fare
  let final := max 0 (roundFare promo.currency (fare - raw))
  fare - final

/-! ## Writes -/

namespace Db

/-- A change of a campaign's row under its lock. -/
def changeCampaign (s : Db) (id : ℕ) (f : Campaign → Except Error Campaign) : Except Error Db :=
  match s.campaigns.get? id with
  | none => .error .doesNotExist
  | some c => (f c).map fun c' => { s with campaigns := s.campaigns.put c' }

def onCampaign (s : Db) (campaign : Option ℕ) (f : Campaign → Except Error Campaign) :
    Except Error Db :=
  match campaign with
  | none => .ok s
  | some id => s.changeCampaign id f

/-- The entry's amount has to be positive and its key new. -/
def insertEntry (s : Db) (entry : LedgerEntry) : Except Error Db :=
  if 0 < entry.amountMinor then
    match s.entries.insert? entry with
    | none => .error .integrityError
    | some entries => .ok { s with entries }
  else .error .integrityError

/-- The credit of a discount that the driver did not collect. -/
def creditDriver (s : Db) (trip : Trip) (driver : ℕ) (r : PromoRedemption) : Except Error Db :=
  match s.ledger.insert?
      { userId := driver
        amountMinor := r.discountAmountMinor
        currency := r.currency
        txnType := .credit
        status := .completed
        purpose := .promoDiscountPlatformFunded
        referenceId := .trip trip.id
        idempotencyKey := .tripPromo trip.id r.id } with
  | none => .error .integrityError
  | some ledger => .ok { s with
      ledger
      wallets := s.wallets.addMinor (s.wallets.getWallet driver .driver) r.discountAmountMinor }

/-- On a cash trip the driver is paid what the rider did not hand over. -/
def payDriver (s : Db) (trip : Trip) (isCash : Bool) (r : PromoRedemption) : Except Error Db :=
  match isCash, trip.driver with
  | true, some driver => s.creditDriver trip driver r
  | _, _ => .ok s

def putRedemption (s : Db) (r : PromoRedemption) : Db :=
  { s with redemptions := s.redemptions.put r }

def committedOn (s : Db) (trip : ℕ) : List PromoRedemption :=
  s.redemptions.rows.filter fun r => r.trip = some trip ∧ r.state = .committed

end Db

/-! ## Booking -/

inductive PromoRefusal where
  | notFound
  | wrongZone
  | newRidersOnly
  | budgetExhausted
deriving DecidableEq, Repr

def campaignFor (s : Db) (promo : ℕ) : Option Campaign :=
  s.campaigns.rows.find? fun c => c.promoCode = some promo

def legacyState (now : ℕ) (promo : PromoCode) : CampaignState :=
  if promo.isActive ∧ promo.validFrom ≤ now ∧ now < promo.validTo then .live
  else if promo.validTo ≤ now then .ended
  else .paused

/-- `ensure_legacy_campaign`: a campaign without a budget for a code that has none.  `id` is the
next of the table's sequence. -/
def ensureLegacyCampaign (s : Db) (now : ℕ) (promo : PromoCode) (id : ℕ) :
    Except Error (Db × Campaign) :=
  let c : Campaign :=
    { id
      kind := .riderPromo
      state := legacyState now promo
      promoCode := some promo.id
      budgetMinor := none
      committedMinor := 0
      spentMinor := 0
      overshootMinor := 0
      startsAt := some promo.validFrom
      endsAt := some promo.validTo
      exhaustedAt := none
      config :=
        { flat := match promo.discount with
            | .flat _ => true
            | .percent _ _ => false
          discountFlatMinor := match promo.discount with
            | .flat minor => minor.toNat
            | .percent _ _ => 0
          rewardMinor := 0
          referrerRewardMinor := 0
          refereeRewardMinor := 0 } }
  match s.campaigns.insert? c with
  | none => .error .integrityError
  | some campaigns => .ok ({ s with campaigns }, c)

/-- What `redeem_promo` was called with, and the ids its rows get. -/
structure Booking where
  promo : ℕ
  user : ℕ
  trip : Option ℕ
  /-- the discount it worked out from the fare -/
  discountMinor : ℤ
  /-- the pickup is in the campaign's place -/
  inPlace : Bool
  /-- the campaign is for new riders, and the rider is none -/
  notNew : Bool
  campaignId : ℕ
  redemptionId : ℕ
deriving DecidableEq, Repr

/-- `campaign_for(promo) or ensure_legacy_campaign(promo)`. -/
def campaignOrLegacy (s : Db) (now : ℕ) (promo : PromoCode) (id : ℕ) : Except Error (Db × Campaign) :=
  match campaignFor s promo.id with
  | some c => .ok (s, c)
  | none => ensureLegacyCampaign s now promo id

/-- The checks of `reserve_for_redemption` on the campaign, and the reservation. -/
def reserveAgainst (now : ℕ) (b : Booking) (s : Db) (c : Campaign) :
    Except Error (Db × Except PromoRefusal ℕ) :=
  if c.state ≠ .live then .ok (s, .error .notFound)
  else if !b.inPlace then .ok (s, .error .wrongZone)
  else if b.notNew then .ok (s, .error .newRidersOnly)
  else
    match s.changeCampaign c.id (Campaign.reserve now b.discountMinor) with
    | .ok s => .ok (s, .ok c.id)
    | .error (.refused .budgetExhausted) => .ok (s, .error .budgetExhausted)
    | .error (.refused .notLive) => .ok (s, .error .notFound)
    | .error e => .error e

/-- `reserve_for_redemption`: the campaign, or why the code is refused. -/
def reserveForRedemption (now : ℕ) (promo : PromoCode) (b : Booking) (s : Db) :
    Except Error (Db × Except PromoRefusal ℕ) := do
  let found ← campaignOrLegacy s now promo b.campaignId
  reserveAgainst now b found.1 found.2

/-- `redeem_promo`, for a code whose own rules admit the rider. -/
def redeemPromo (now : ℕ) (b : Booking) (s : Db) : Except Error Db :=
  match s.promos.get? b.promo with
  | none => .ok s
  | some promo => do
      let reserved ← reserveForRedemption now promo b s
      match reserved with
      | (s, .error _) => .ok s
      | (s, .ok campaign) =>
          match s.redemptions.insert?
              { id := b.redemptionId
                promo := promo.id
                user := b.user
                trip := b.trip
                campaign := some campaign
                discountAmountMinor := b.discountMinor
                currency := promo.currency
                state := .committed } with
          | none => .error .integrityError
          | some redemptions => .ok { s with
              redemptions
              promos := s.promos.put { promo with redemptionCount := promo.redemptionCount + 1 } }

/-! ## Settlement, release, operator end -/

/-- The body of the loop of `settle_trip`. -/
def settleRedemption (now : ℕ) (trip : Trip) (isCash : Bool) (acc : Db × ℤ) (r : PromoRedemption) :
    Except Error (Db × ℤ) :=
  match r.campaign with
  | none => .ok acc
  | some campaign => do
      let s ← acc.1.changeCampaign campaign (Campaign.settle now r.discountAmountMinor none)
      let s := s.putRedemption (r.withState .settled)
      let s ← s.payDriver trip isCash r
      let s ← s.insertEntry
        { kind := .discountFunded
          campaign
          user := trip.user
          trip := some trip.id
          amountMinor := r.discountAmountMinor
          key := .promoDiscount r.id }
      .ok (s, acc.2 + r.discountAmountMinor)

/-- `settle_trip`, with what was moved to spent. -/
def settleTrip (now : ℕ) (trip : Trip) (isCash : Bool) (s : Db) : Except Error (Db × ℤ) :=
  if trip.platformFunded then .ok (s, 0)
  else (s.committedOn trip.id).foldlM (settleRedemption now trip isCash) (s, 0)

/-- A code's count of redemptions without one that was released. -/
def uncount (promos : Table PromoCode.id) (promo : ℕ) : Table PromoCode.id :=
  match promos.get? promo with
  | none => promos
  | some p =>
      if 0 < p.redemptionCount then promos.put { p with redemptionCount := p.redemptionCount - 1 }
      else promos

/-- The body of the loop of `release_for_trip`. -/
def releaseRedemption (now : ℕ) (acc : Db × ℤ) (r : PromoRedemption) : Except Error (Db × ℤ) := do
  let s ← acc.1.onCampaign r.campaign (Campaign.release now r.discountAmountMinor)
  let s := { s with promos := uncount s.promos r.promo }
  .ok (s.putRedemption (r.withState .released), acc.2 + r.discountAmountMinor)

/-- `release_for_trip`, with what was released. -/
def releaseForTrip (now : ℕ) (trip : Trip) (s : Db) : Except Error (Db × ℤ) :=
  (s.committedOn trip.id).foldlM (releaseRedemption now) (s, 0)

/-- The rules an operator ends a trip under. -/
inductive EndRule where
  | standard
  | platformFunded
deriving DecidableEq, Repr

/-- The discount of a redemption on the capped fare, and what is left of the plan's. -/
def reworked (promo : PromoCode) (capped : ℤ) (left : Option ℤ) : ℤ × Option ℤ :=
  let new := min (payableDiscount promo capped) capped
  match left with
  | none => (new, none)
  | some left => (min new left, some (left - min new left))

/-- The body of the loop of `apply_operator_end`. -/
def adjustRedemption (now : ℕ) (capped : ℤ) (acc : Db × Option ℤ) (r : PromoRedemption) :
    Except Error (Db × Option ℤ) :=
  match acc.1.promos.get? r.promo with
  | none => .error .doesNotExist
  | some promo => do
      let (new, left) := reworked promo capped acc.2
      let s ← acc.1.onCampaign (if new ≠ r.discountAmountMinor then r.campaign else none)
        (Campaign.adjustReservation now r.discountAmountMinor new)
      .ok (s.putRedemption (r.withDiscount new), left)

/-- `apply_operator_end`, with the rule on the trip. -/
def applyOperatorEnd (now : ℕ) (trip : Trip) (capped : ℤ) (rule : EndRule)
    (planDiscountMinor : Option ℤ) (s : Db) : Except Error Db :=
  let trip := { trip with platformFunded := rule = .platformFunded }
  let s := { s with trips := s.trips.put trip }
  match rule with
  | .platformFunded => (releaseForTrip now trip s).map Prod.fst
  | .standard =>
      ((s.committedOn trip.id).foldlM (adjustRedemption now capped) (s, planDiscountMinor)).map
        Prod.fst

/-- The trip was cancelled, or the rider is charged nothing for it. -/
def Trip.stale (trip : Trip) : Bool := trip.cancelled || trip.platformFunded

/-- The trips whose reservations the sweep releases: those of the `limit` newest reservations
that will never settle. -/
def staleTrips (limit : ℕ) (s : Db) : List Trip :=
  let newest := (s.redemptions.rows.reverse.filter fun r =>
    r.state = .committed && (r.trip.bind s.trips.get?).any Trip.stale).take limit
  s.trips.rows.filter fun trip => some trip.id ∈ newest.map PromoRedemption.trip

/-- `release_cancelled` over the trips, each in a transaction of its own; with the number of trips
that were released, or what was raised. -/
def releaseEach (now : ℕ) : List Trip → ℕ → Db → Db × Except Error ℕ
  | [], n, s => (s, .ok n)
  | trip :: trips, n, s =>
      match releaseForTrip now trip s with
      | .error e => (s, .error e)
      | .ok (s, released) => releaseEach now trips (if released ≠ 0 then n + 1 else n) s

def releaseCancelled (now limit : ℕ) (s : Db) : Db × Except Error ℕ :=
  releaseEach now (staleTrips limit s) 0 s

/-! ## Rewards -/

/-- `_pay_reward` of an incentive; a refusal leaves the driver's progress unfunded. -/
def payIncentive (now campaign driver : ℕ) (s : Db) : Except Error Db :=
  let reward : ℤ := ((s.campaigns.get? campaign).map fun c => c.config.rewardMinor).getD 0
  match s.changeCampaign campaign (Campaign.spendNow now reward) with
  | .error (.refused _) => .ok s
  | .error e => .error e
  | .ok s => s.insertEntry
      { kind := .incentiveReward
        campaign
        user := driver
        trip := none
        amountMinor := reward
        key := .incentive campaign driver }

/-- The entry of a reward, when there is one. -/
def creditReward (s : Db) (campaign user : ℕ) (minor : ℕ) (key : EntryKey) : Except Error Db :=
  if 0 < minor then s.insertEntry
    { kind := .referralReward
      campaign
      user
      trip := none
      amountMinor := minor
      key }
  else .ok s

/-- `pay` of a referral.  `creditRefused` says that a rider's wallet refuses the credit; then, and
when the budget refuses, nothing is paid. -/
def payReferral (now referral campaign referrer referee : ℕ) (creditRefused : Bool) (s : Db) :
    Except Error Db :=
  match s.campaigns.get? campaign with
  | none => .error .doesNotExist
  | some c =>
      let total := c.config.referrerRewardMinor + c.config.refereeRewardMinor
      if total = 0 then .ok s
      else
        match s.changeCampaign campaign (Campaign.spendNow now total) with
        | .error (.refused _) => .ok s
        | .error e => .error e
        | .ok s₁ =>
            if creditRefused then .ok s
            else do
              let s₂ ← creditReward s₁ campaign referrer c.config.referrerRewardMinor
                (.referrer referral)
              creditReward s₂ campaign referee c.config.refereeRewardMinor (.referee referral)

/-! ## Runs -/

/-- What can happen to campaigns. -/
inductive Move where
  | redeem (now : ℕ) (b : Booking)
  | settle (now trip : ℕ) (isCash : Bool)
  | release (now trip : ℕ)
  | operatorEnd (now trip : ℕ) (capped : ℤ) (rule : EndRule) (planDiscountMinor : Option ℤ)
  | sweep (now limit : ℕ)
  | payIncentive (now campaign driver : ℕ)
  | payReferral (now referral campaign referrer referee : ℕ) (creditRefused : Bool)
  /-- a campaign is drafted, or a row for it is written by a migration -/
  | create (c : Campaign)
  /-- a decision on a campaign, or a time it reaches -/
  | setState (campaign : ℕ) (state : CampaignState)
  | setBudget (campaign : ℕ) (budgetMinor : ℕ)
  | savePromo (promo : PromoCode)
  /-- a trip is booked or cancelled, or its driver changes -/
  | saveTrip (trip : Trip)

/-- An operation on a trip that exists. -/
def onTrip (s : Db) (trip : ℕ) (f : Trip → Except Error Db) : Except Error Db :=
  match s.trips.get? trip with
  | none => .ok s
  | some trip => f trip

/-- A transaction: what it raises leaves the database as it was. -/
def atomically (s : Db) : Except Error Db → Db × Option Error
  | .ok s' => (s', none)
  | .error e => (s, some e)

/-- A campaign is created with its counters at nought. -/
def createCampaign (c : Campaign) (s : Db) : Except Error Db := do
  let c ← ({ c with committedMinor := 0, spentMinor := 0 } : Campaign).save
  match s.campaigns.insert? c with
  | none => .error .integrityError
  | some campaigns => .ok { s with campaigns }

/-- A move, and what it raises. -/
def exec (s : Db) : Move → Db × Option Error
  | .redeem now b => atomically s (redeemPromo now b s)
  | .settle now trip isCash =>
      atomically s (onTrip s trip fun trip => (settleTrip now trip isCash s).map Prod.fst)
  | .release now trip =>
      atomically s (onTrip s trip fun trip => (releaseForTrip now trip s).map Prod.fst)
  | .operatorEnd now trip capped rule plan =>
      atomically s (onTrip s trip fun trip => applyOperatorEnd now trip capped rule plan s)
  | .sweep now limit =>
      match releaseCancelled now limit s with
      | (s', .ok _) => (s', none)
      | (s', .error e) => (s', some e)
  | .payIncentive now campaign driver => atomically s (payIncentive now campaign driver s)
  | .payReferral now referral campaign referrer referee creditRefused =>
      atomically s (payReferral now referral campaign referrer referee creditRefused s)
  | .create c => atomically s (createCampaign c s)
  | .setState campaign state =>
      atomically s (s.changeCampaign campaign fun c => .ok { c with state })
  | .setBudget campaign budget =>
      atomically s (s.changeCampaign campaign fun c => .ok { c with budgetMinor := some budget })
  | .savePromo promo => ({ s with promos := s.promos.put promo }, none)
  | .saveTrip trip => ({ s with trips := s.trips.put trip }, none)

def step (s : Db) (m : Move) : Db := (exec s m).1

end SaaradhiGo.Promotions
