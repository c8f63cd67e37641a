/-
The settlement of a trip on its driver's balance.

A completed trip is settled by `credit_driver_wallet`: against cash the driver owes the
commission (and, where tax is added to the fare, the tax and the fee the rider handed over),
otherwise the platform owes the driver the net.  `settle_paid_by_platform` settles a trip
that the platform was paid for, and moves one that had been settled as cash.  The rider's
promo is settled with the trip, in a savepoint of its own; `reverse_trip_earnings` takes
back what the trip left on the balance.  Each of these is one transaction with the driver's
wallet locked.
-/
import SaaradhiGo.Money.Wallet

namespace SaaradhiGo.Settlement

open SaaradhiGo.Money

/-! ## Data -/

/-- How a trip is paid. -/
inductive PaymentMethod where
  | cash
  | upi
  | wallet
  | online
deriving DecidableEq, Repr

/-- The states of a promo redemption. -/
inductive RedemptionState where
  | committed
  | settled
  | released
  /-- written before promos were settled -/
  | legacy
deriving DecidableEq, Repr

/-- A promo redeemed on the trip. -/
structure PromoRedemption where
  id : ℕ
  campaign : Option ℕ
  discountAmountMinor : ℤ
  currency : Currency
  state : RedemptionState
deriving DecidableEq, Repr

/-- The evidence of a settlement, one row for each version. -/
structure TripSettlement where
  version : ℕ
  currency : Currency
  grossFareMinor : ℤ
  commissionPercent : ℚ
  commissionAmountMinor : ℤ
  driverNetMinor : ℤ
  taxCollectedMinor : Option ℤ
  regulatoryFeeCollectedMinor : Option ℤ
  paymentMethod : PaymentMethod
deriving DecidableEq

/-- A completed trip, as far as its settlement reads it and no settlement changes it. -/
structure Trip where
  id : ℕ
  driver : Option ℕ
  /-- an operator ended it and the platform paid the driver -/
  platformFunded : Bool
  currency : Currency
  finalFareMinor : Option ℤ
  estimatedFareMinor : Option ℤ
  /-- tax is added to the fare in the trip's zone -/
  additiveTax : Bool
  /-- the fare before tax and the fee, as the latest fare snapshot recorded them -/
  storedSplit : Option (ℤ × ℤ)
  /-- the tax percentage and the fee of the zone's rate card -/
  additiveContext : Option (ℚ × ℤ)
  /-- the commission rule that governs the trip -/
  commissionPercent : Option ℚ
deriving DecidableEq

/-- The part of the database a trip's settlement reads and writes: the wallets and the
ledger, and the trip's own settlements, redemptions and payment method. -/
structure TripDb where
  wallets : Wallets
  ledger : Ledger
  settlements : Table TripSettlement.version
  redemptions : Table PromoRedemption.id
  paymentMethod : Option PaymentMethod

/-! ## Amounts -/

/-- `fare_minor`: the full fare. -/
def fareMinor (trip : Trip) : ℤ :=
  match trip.finalFareMinor with
  | some fare => fare
  | none => trip.estimatedFareMinor.getD 0

/-- `_held`: the redemptions whose discount the trip carries. -/
def PromoRedemption.held (r : PromoRedemption) : Bool :=
  r.state = .committed || r.state = .settled || r.state = .legacy

/-- `discount_minor`: the promo discount held on the trip. -/
def discountMinor (trip : Trip) (s : TripDb) : ℤ :=
  if trip.platformFunded then 0
  else ((s.redemptions.rows.filter PromoRedemption.held).map
    PromoRedemption.discountAmountMinor).sum

/-- `payable_minor`: what the rider is charged. -/
def payableMinor (trip : Trip) (s : TripDb) : ℤ :=
  max 0 (fareMinor trip - min (discountMinor trip s) (fareMinor trip))

/-- `split_additive` of a total without a fee: the fare before tax is searched around the
rounded quotient so that it and its rounded tax make up the total. -/
def splitAdditive (total : ℤ) (percent : ℚ) : ℤ × ℤ :=
  let guess : ℤ := roundHalfUp (total / (1 + percent / 100))
  let steps : List ℤ := [0, -1, 1, -2, 2]
  let found := (steps.map (guess + ·)).find? fun pretax : ℤ =>
    0 ≤ pretax && pretax + roundHalfUp (pretax * percent / 100) = total
  let pretax := found.getD guess
  (pretax, total - pretax)

/-- The split of a charge for settlement. -/
structure Split where
  pretax : ℤ
  tax : ℤ
  fee : ℤ
deriving DecidableEq

/-- `settlement_split`: the recorded split when it adds up, else one worked out from the
rate card; nothing where the tax is part of the fare. -/
def settlementSplit (trip : Trip) (grossMinor discount : ℤ) : Option Split :=
  if !trip.additiveTax then none
  else
    let stored := trip.storedSplit.bind fun (pretax, fee) =>
      let tax := grossMinor - pretax - fee
      if 0 ≤ pretax ∧ 0 ≤ fee ∧ 0 ≤ tax then some (⟨pretax, tax, fee⟩ : Split) else none
    stored <|> trip.additiveContext.map fun (percent, zoneFee) =>
      let fee := min zoneFee grossMinor
      let remainder := grossMinor - fee
      if remainder ≤ discount then ⟨remainder, 0, fee⟩
      else
        let (taxable, tax) := splitAdditive (remainder - discount) percent
        ⟨taxable + discount, tax, fee⟩

/-- The parts of a split make up the charge. -/
theorem settlementSplit_sum {trip : Trip} {grossMinor discount : ℤ} {split : Split}
    (h : settlementSplit trip grossMinor discount = some split) :
    split.pretax + split.tax + split.fee = grossMinor := by
  rw [settlementSplit] at h
  split at h
  · cases h
  simp only [Option.orElse_eq_orElse, Option.orElse_eq_or, Option.or_eq_some_iff] at h
  rcases h with h | ⟨-, h⟩
  · obtain ⟨⟨pretax, fee⟩, -, h⟩ := Option.bind_eq_some_iff.mp h
    dsimp only at h
    split at h
    · cases h
      ring
    · cases h
  · obtain ⟨⟨percent, zoneFee⟩, -, rfl⟩ := Option.map_eq_some_iff.mp h
    dsimp only
    split
    · ring
    · simp only [splitAdditive]
      ring

/-- The numbers of a settlement. -/
structure Amounts where
  grossMinor : ℤ
  taxMinor : Option ℤ
  feeMinor : Option ℤ
  commissionRate : ℚ
  commissionMinor : ℤ
  netMinor : ℤ
deriving DecidableEq

/-- `settlement_amounts`; `none` is `CommissionNotConfigured`. -/
def settlementAmounts (trip : Trip) (discount : ℤ) : Option Amounts :=
  let fare := fareMinor trip
  let split := settlementSplit trip fare discount
  let gross := (split.map Split.pretax).getD fare
  trip.commissionPercent.map fun rate =>
    let commission := roundHalfUp (gross * rate / 100)
    { grossMinor := gross
      taxMinor := split.map Split.tax
      feeMinor := split.map Split.fee
      commissionRate := rate
      commissionMinor := commission
      netMinor := gross - commission }

/-- The gross is the fare without what is passed through, and the net is the gross without
the commission. -/
theorem settlementAmounts_sum {trip : Trip} {discount : ℤ} {a : Amounts}
    (h : settlementAmounts trip discount = some a) :
    a.grossMinor + a.taxMinor.getD 0 + a.feeMinor.getD 0 = fareMinor trip ∧
      a.netMinor = a.grossMinor - a.commissionMinor := by
  simp only [settlementAmounts, Option.map_eq_some_iff] at h
  obtain ⟨rate, -, rfl⟩ := h
  refine ⟨?_, rfl⟩
  cases hsplit : settlementSplit trip (fareMinor trip) discount with
  | none => simp
  | some split => simpa using settlementSplit_sum hsplit

/-! ## Writing -/

/-- A ledger row of the trip on the driver's balance. -/
def tripRow (trip : Trip) (user : ℕ) (currency : Currency) (amount : ℤ) (txnType : TxnType)
    (purpose : Purpose) (key : Ref) : WalletTransaction where
  userId := user
  amountMinor := amount
  currency := Wallets.stampCurrency (some currency) (some trip.currency)
  txnType := txnType
  status := .completed
  purpose := purpose
  referenceId := .trip trip.id
  idempotencyKey := key

def driverWallet (s : TripDb) (user : ℕ) : Wallet := s.wallets.getWallet user .driver

/-- `get_wallet(…, lock=True)`: a wallet that does not exist is created. -/
def lockWallet (s : TripDb) (user : ℕ) : TripDb :=
  { s with wallets := s.wallets.put (driverWallet s user) }

/-- The current settlement: the one with the highest version. -/
def currentSettlement (s : TripDb) : Option TripSettlement :=
  s.settlements.rows.foldl (fun best t =>
    match best with
    | none => some t
    | some b => if b.version < t.version then some t else some b) none

/-- The body of the loop of `settle_trip`, for one committed redemption; `none` when a row is
refused. -/
def settleRedemption (trip : Trip) (isCash : Bool) (s : TripDb) (r : PromoRedemption) :
    Option TripDb :=
  match r.campaign with
  | none => some s
  | some _ =>
      let s := { s with redemptions := s.redemptions.put { r with state := .settled } }
      match isCash, trip.driver with
      | true, some user =>
          (s.ledger.insert? (tripRow trip user r.currency r.discountAmountMinor .credit
            .promoDiscountPlatformFunded (.tripPromo trip.id r.id))).map fun ledger =>
            { s with
              ledger
              wallets := s.wallets.addMinor (driverWallet s user) r.discountAmountMinor }
      | _, _ => some s

/-- `rider_promos.settle_trip`; `none` when it raises. -/
def settleTripPromo (trip : Trip) (isCash : Bool) (s : TripDb) : Option TripDb :=
  if trip.platformFunded then some s
  else (s.redemptions.rows.filter fun r => r.state = .committed).foldlM
    (settleRedemption trip isCash) s

/-- What a settlement came to. -/
inductive Outcome where
  | settled
  | duplicate
  | skipped
  | commissionNotConfigured
  | raised
deriving DecidableEq, Repr

/-- The row of the settlement itself: the commission a cash driver owes, or the net the
platform owes. -/
def earningRow (trip : Trip) (user : ℕ) (isCash : Bool) (a : Amounts) : WalletTransaction :=
  if isCash then
    tripRow trip user trip.currency a.commissionMinor .debit .tripCommission (.tripEarning trip.id)
  else
    tripRow trip user trip.currency a.netMinor .credit .tripEarnings (.tripEarning trip.id)

/-- The rows of what a cash driver holds for the platform; an amount of nought has none. -/
def passThroughRows (trip : Trip) (user : ℕ) (a : Amounts) : List WalletTransaction :=
  let row (amount : Option ℤ) (purpose : Purpose) (key : Ref) : List WalletTransaction :=
    if amount.getD 0 = 0 then []
    else [tripRow trip user trip.currency (amount.getD 0) .debit purpose key]
  row a.taxMinor .taxCollected (.tripTax trip.id) ++
    row a.feeMinor .regulatoryFeeCollected (.tripFee trip.id)

/-- The first version of a settlement. -/
def newSettlement (trip : Trip) (method : PaymentMethod) (a : Amounts) : TripSettlement where
  version := 1
  currency := trip.currency
  grossFareMinor := a.grossMinor
  commissionPercent := a.commissionRate
  commissionAmountMinor := a.commissionMinor
  driverNetMinor := a.netMinor
  taxCollectedMinor := a.taxMinor
  regulatoryFeeCollectedMinor := a.feeMinor
  paymentMethod := method

/-- The constraints on a settlement. -/
def insertSettlement (t : Table TripSettlement.version) (row : TripSettlement) :
    Option (Table TripSettlement.version) :=
  if 0 ≤ row.commissionAmountMinor ∧ 0 ≤ row.grossFareMinor then t.insert? row else none

/-- `credit_driver_wallet`.  `promoRaises` says that the settlement of the promo raises; its
savepoint is rolled back then and the settlement stands. -/
def creditDriverWallet (trip : Trip) (promoRaises : Bool) (s : TripDb) : Outcome × TripDb :=
  match trip.driver with
  | none => (.skipped, s)
  | some user =>
      if trip.platformFunded then (.skipped, s)
      else
        match settlementAmounts trip (discountMinor trip s) with
        | none => (.commissionNotConfigured, s)
        | some a =>
            let s₀ := lockWallet s user
            let isCash : Bool := s.paymentMethod = some .cash
            let delta :=
              if isCash then -(a.commissionMinor + (a.taxMinor.getD 0 + a.feeMinor.getD 0))
              else a.netMinor
            match s₀.ledger.insert? (earningRow trip user isCash a) with
            | none => (.duplicate, s₀)
            | some ledger =>
                match Ledger.insertAll ledger
                    (if isCash then passThroughRows trip user a else []) with
                | none => (.raised, s)
                | some ledger =>
                    match insertSettlement s.settlements
                        (newSettlement trip (s.paymentMethod.getD .online) a) with
                    | none => (.raised, s)
                    | some settlements =>
                        let s₁ := { s₀ with
                          ledger, settlements
                          wallets := s₀.wallets.addMinor (driverWallet s₀ user) delta }
                        let promo := if promoRaises then none else settleTripPromo trip isCash s₁
                        (.settled, promo.getD s₁)

/-- `credit_fare_collected_by_platform`; `none` when nothing is written. -/
def creditFareCollectedByPlatform (trip : Trip) (amount : ℤ) (currency : Currency) (s : TripDb) :
    Option TripDb :=
  match trip.driver with
  | none => none
  | some user =>
      if amount ≤ 0 then none
      else
        (s.ledger.insert? (tripRow trip user currency amount .credit .fareCollectedByPlatform
          (.tripCollected trip.id))).map fun ledger =>
          { s with ledger, wallets := s.wallets.addMinor (driverWallet s user) amount }

/-- `settle_paid_by_platform`: a trip that is not settled is settled, one settled as cash is
moved, and nothing happens to one the platform holds the money of already. -/
def settlePaidByPlatform (trip : Trip) (amount : ℤ) (currency : Option Currency)
    (promoRaises : Bool) (s : TripDb) : TripDb :=
  let s := match trip.driver with
    | some user => lockWallet s user
    | none => s
  match currentSettlement s with
  | none => (creditDriverWallet trip promoRaises s).2
  | some current =>
      if current.paymentMethod ≠ .cash then s
      else
        match creditFareCollectedByPlatform trip amount (currency.getD current.currency) s with
        | none => s
        | some s' =>
            match insertSettlement s'.settlements { current with
                version := current.version + 1
                paymentMethod := s.paymentMethod.getD .online } with
            | none => s
            | some settlements => { s' with settlements }

def tripLedgerPurposes : List Purpose :=
  [.tripEarnings, .tripCommission, .taxCollected, .regulatoryFeeCollected,
    .promoDiscountPlatformFunded, .fareCollectedByPlatform, .platformFundedTripEnd]

/-- The rows `reverse_trip_earnings` adds up. -/
def isTripLine (trip : Trip) (user : ℕ) (t : WalletTransaction) : Bool :=
  t.userId = user && t.referenceId = .trip trip.id && t.purpose ∈ tripLedgerPurposes &&
    t.status = .completed

def reverseTripEarnings (trip : Trip) (s : TripDb) : TripDb :=
  match trip.driver with
  | none => s
  | some user =>
      let s := lockWallet s user
      let net := Ledger.signedSumOf s.ledger.rows (isTripLine trip user)
      if net ≤ 0 then s
      else
        match s.ledger.insert? (tripRow trip user (driverWallet s user).currency net .debit
            .tripRefundReversal (.tripRefundReversal trip.id)) with
        | none => s
        | some ledger =>
            { s with ledger, wallets := s.wallets.addMinor (driverWallet s user) (-net) }

/-! ## Runs -/

/-- What can happen to the settlement of a trip. -/
inductive Act where
  /-- `credit_driver_wallet` -/
  | credit (promoRaises : Bool)
  /-- `settle_paid_by_platform` -/
  | paidByPlatform (amount : ℤ) (currency : Option Currency) (promoRaises : Bool)
  | settlePromo
  /-- the rider pays in another way -/
  | switch (method : PaymentMethod)
deriving DecidableEq

/-- One action; one that raises is rolled back. -/
def step (trip : Trip) (s : TripDb) : Act → TripDb
  | .credit promoRaises => (creditDriverWallet trip promoRaises s).2
  | .paidByPlatform amount currency promoRaises =>
      settlePaidByPlatform trip amount currency promoRaises s
  | .settlePromo => (settleTripPromo trip (s.paymentMethod = some .cash) s).getD s
  | .switch method => { s with paymentMethod := some method }

end SaaradhiGo.Settlement
