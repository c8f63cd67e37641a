/-
What a trip leaves on its driver's balance, for every sequence of settlements.

A trip is not settled, settled as cash the driver holds, settled as money the platform holds,
or moved from the one to the other; `Phase` gives the sum of its lines in each case.  The
sum differs from the driver's net only by the promo: what the platform credited for it, less
the discount when the rider's payment was what moved the trip.  When every promo settlement
is the one inside a settlement, and does not raise, the two cancel and the sum is the net.
-/
import SaaradhiGo.Settlement.Promo

namespace SaaradhiGo.Settlement

open SaaradhiGo.Money

variable {trip : Trip} {user : ℕ}

/-! ## One settlement -/

/-- Nothing but the existence of the driver's wallet has changed. -/
structure Unmoved (user : ℕ) (s s' : TripDb) : Prop where
  ledger : s'.ledger = s.ledger
  settlements : s'.settlements = s.settlements
  redemptions : s'.redemptions = s.redemptions
  paymentMethod : s'.paymentMethod = s.paymentMethod
  balance : driverBalance s' user = driverBalance s user

lemma Unmoved.refl (user : ℕ) (s : TripDb) : Unmoved user s s := ⟨rfl, rfl, rfl, rfl, rfl⟩

lemma Unmoved.trans {s t u : TripDb} (h : Unmoved user s t) (h' : Unmoved user t u) :
    Unmoved user s u :=
  ⟨h'.ledger.trans h.ledger, h'.settlements.trans h.settlements,
    h'.redemptions.trans h.redemptions, h'.paymentMethod.trans h.paymentMethod,
    h'.balance.trans h.balance⟩

lemma unmoved_lockWallet (user : ℕ) (s : TripDb) : Unmoved user s (lockWallet s user) :=
  ⟨rfl, rfl, rfl, rfl, driverBalance_lockWallet⟩

def owedMinor (t : TripSettlement) : ℤ :=
  t.commissionAmountMinor + (t.taxCollectedMinor.getD 0 + t.regulatoryFeeCollectedMinor.getD 0)

def settledMinor (t : TripSettlement) : ℤ :=
  if t.paymentMethod = .cash then -owedMinor t else t.driverNetMinor

/-- The amounts of a settlement add up to the trip's fare. -/
structure AddsUp (trip : Trip) (t : TripSettlement) : Prop where
  fare : t.grossFareMinor + t.taxCollectedMinor.getD 0 + t.regulatoryFeeCollectedMinor.getD 0
    = fareMinor trip
  net : t.driverNetMinor = t.grossFareMinor - t.commissionAmountMinor

def settlementKeys (trip : Trip) : List Ref :=
  [.tripEarning trip.id, .tripTax trip.id, .tripFee trip.id]

/-- A trip is settled in the state `s`, up to the settlement of its promo. -/
structure SettleStep (trip : Trip) (user : ℕ) (t : TripSettlement) (s s₁ : TripDb) : Prop where
  addsUp : AddsUp trip t
  version : t.version = 1
  method : t.paymentMethod = s.paymentMethod.getD .online
  unsettled : Ref.tripEarning trip.id ∉ keys s
  rows : ∃ ts : List WalletTransaction, s₁.ledger.rows = s.ledger.rows ++ ts ∧
    (∀ u ∈ ts, isTripLine trip user u = true ∧ isPromoLine trip user u = false ∧
      u.idempotencyKey ∈ settlementKeys trip) ∧
    Ref.tripEarning trip.id ∈ ts.map WalletTransaction.idempotencyKey ∧
    (ts.map WalletTransaction.signedMinor).sum = settledMinor t
  balance : driverBalance s₁ user = driverBalance s user + settledMinor t
  settlements : s₁.settlements.rows = s.settlements.rows ++ [t]
  redemptions : s₁.redemptions = s.redemptions
  paymentMethod : s₁.paymentMethod = s.paymentMethod

lemma passThroughRows_spec (a : Amounts) :
    (∀ u ∈ passThroughRows trip user a, isTripLine trip user u = true ∧
      isPromoLine trip user u = false ∧ u.idempotencyKey ∈ settlementKeys trip) ∧
    ((passThroughRows trip user a).map WalletTransaction.signedMinor).sum
      = -(a.taxMinor.getD 0 + a.feeMinor.getD 0) := by
  constructor
  · intro u hu
    simp only [passThroughRows, List.mem_append, List.mem_ite_nil_left, List.mem_singleton] at hu
    rcases hu with ⟨-, rfl⟩ | ⟨-, rfl⟩ <;>
      simp [isTripLine, isPromoLine, onTrip, tripRow, tripLedgerPurposes, settlementKeys]
  · simp only [passThroughRows]
    by_cases htax : a.taxMinor.getD 0 = 0 <;> by_cases hfee : a.feeMinor.getD 0 = 0 <;>
      simp [htax, hfee, tripRow, WalletTransaction.signedMinor]
    ring

lemma earningRow_spec (isCash : Bool) (a : Amounts) :
    isTripLine trip user (earningRow trip user isCash a) = true ∧
      isPromoLine trip user (earningRow trip user isCash a) = false ∧
      (earningRow trip user isCash a).idempotencyKey = .tripEarning trip.id ∧
      (earningRow trip user isCash a).signedMinor
        = if isCash then -a.commissionMinor else a.netMinor := by
  cases isCash <;>
    simp [earningRow, isTripLine, isPromoLine, onTrip, tripRow, tripLedgerPurposes,
      WalletTransaction.signedMinor]

def settlementRows (trip : Trip) (user : ℕ) (isCash : Bool) (a : Amounts) :
    List WalletTransaction :=
  earningRow trip user isCash a :: if isCash then passThroughRows trip user a else []

def movedMinor (isCash : Bool) (a : Amounts) : ℤ :=
  if isCash then -(a.commissionMinor + (a.taxMinor.getD 0 + a.feeMinor.getD 0)) else a.netMinor

lemma settlementRows_spec (isCash : Bool) (a : Amounts) :
    (∀ u ∈ settlementRows trip user isCash a, isTripLine trip user u = true ∧
      isPromoLine trip user u = false ∧ u.idempotencyKey ∈ settlementKeys trip) ∧
    Ref.tripEarning trip.id
      ∈ (settlementRows trip user isCash a).map WalletTransaction.idempotencyKey ∧
    ((settlementRows trip user isCash a).map WalletTransaction.signedMinor).sum
      = movedMinor isCash a := by
  obtain ⟨hline, hpromo, hkey, hsigned⟩ := @earningRow_spec trip user isCash a
  obtain ⟨hpass, hsum⟩ := @passThroughRows_spec trip user a
  refine ⟨?_, by simp [settlementRows, hkey], ?_⟩
  · intro u hu
    rcases List.mem_cons.mp hu with rfl | hu
    · exact ⟨hline, hpromo, by simp [hkey, settlementKeys]⟩
    · cases isCash with
      | true => exact hpass u hu
      | false => cases hu
  · rw [settlementRows, List.map_cons, List.sum_cons, hsigned]
    cases isCash with
    | true =>
        simp only [if_true, hsum, movedMinor]
        ring
    | false => simp [movedMinor]

lemma settledMinor_newSettlement (method : PaymentMethod) (a : Amounts) :
    settledMinor (newSettlement trip method a) = movedMinor (method = .cash) a := by
  by_cases h : method = .cash <;> simp [settledMinor, movedMinor, newSettlement, owedMinor, h]

lemma rows_of_insertSettlement {t t' : Table TripSettlement.version} {row : TripSettlement}
    (h : insertSettlement t row = some t') : t'.rows = t.rows ++ [row] := by
  rw [insertSettlement] at h
  split at h
  · exact (Table.rows_of_insert? h).1
  · cases h

lemma isCash_eq (s : TripDb) :
    decide (s.paymentMethod = some .cash) = decide (s.paymentMethod.getD .online = .cash) := by
  cases s.paymentMethod <;> simp

/-- `credit_driver_wallet` moves nothing, or settles the trip and then its promo. -/
theorem creditDriverWallet_spec (hdriver : trip.driver = some user) (promoRaises : Bool)
    (s : TripDb) :
    Unmoved user s (creditDriverWallet trip promoRaises s).2 ∨
      ∃ t s₁, SettleStep trip user t s s₁ ∧ (creditDriverWallet trip promoRaises s).2
        = (if promoRaises then none else settleTripPromo trip (t.paymentMethod = .cash) s₁).getD s₁
    := by
  simp only [creditDriverWallet, hdriver, isCash_eq]
  split
  · exact Or.inl (.refl user s)
  split
  · exact Or.inl (.refl user s)
  rename_i a hamounts
  obtain ⟨hfare, hnet⟩ := settlementAmounts_sum hamounts
  split
  · exact Or.inl (unmoved_lockWallet user s)
  rename_i ledger hearning
  split
  · exact Or.inl (.refl user s)
  rename_i ledger' hpass
  split
  · exact Or.inl (.refl user s)
  rename_i settlements hsettlements
  obtain ⟨hlines, hkey, hsum⟩ := @settlementRows_spec trip user
    (decide (s.paymentMethod.getD .online = .cash)) a
  have hmoved : movedMinor (decide (s.paymentMethod.getD .online = .cash)) a
      = settledMinor (newSettlement trip (s.paymentMethod.getD .online) a) :=
    (settledMinor_newSettlement _ _).symm
  have hrows : ledger'.rows = s.ledger.rows
      ++ settlementRows trip user (decide (s.paymentMethod.getD .online = .cash)) a := by
    rw [Ledger.rows_of_insertAll hpass, (Table.rows_of_insert? hearning).1, List.append_assoc]
    rfl
  refine Or.inr ⟨newSettlement trip (s.paymentMethod.getD .online) a, _, ?_, rfl⟩
  refine ⟨⟨hfare, hnet⟩, rfl, rfl, ?_, ⟨_, hrows, hlines, hkey, hsum.trans hmoved⟩, ?_,
    rows_of_insertSettlement hsettlements, rfl, rfl⟩
  · intro hmem
    refine (Table.rows_of_insert? hearning).2 ?_
    rwa [(earningRow_spec _ a).2.2.1]
  · rw [driverBalance_addMinor rfl, driverBalance_lockWallet, ← hmoved]
    rfl

/-! ## Where the money is -/

/-- The amount the platform collected for a trip that had been settled as cash. -/
def collectedMinor (trip : Trip) (s : TripDb) : Option ℤ :=
  (s.ledger.get? (.tripCollected trip.id)).map WalletTransaction.amountMinor

/-- The four states of a trip's settlement, each with the sum of the trip's lines. -/
inductive Phase (trip : Trip) (user : ℕ) (s : TripDb) : Prop where
  | unsettled (rows : s.settlements.rows = [])
      (free : Ref.tripEarning trip.id ∉ keys s ∧ Ref.tripCollected trip.id ∉ keys s)
      (sum : lineSum trip user s = promoCredited trip user s)
  /-- settled once: as cash the driver holds, or as money the platform holds -/
  | once (t : TripSettlement) (rows : s.settlements.rows = [t]) (addsUp : AddsUp trip t)
      (version : t.version = 1) (used : Ref.tripEarning trip.id ∈ keys s)
      (free : Ref.tripCollected trip.id ∉ keys s)
      (sum : lineSum trip user s = settledMinor t + promoCredited trip user s)
  /-- settled as cash, and then collected by the platform -/
  | moved (t t' : TripSettlement) (c : ℤ) (rows : s.settlements.rows = [t, t'])
      (addsUp : AddsUp trip t) (cash : t.paymentMethod = .cash)
      (version : t.version < t'.version) (used : Ref.tripEarning trip.id ∈ keys s)
      (positive : 0 < c) (collected : collectedMinor trip s = some c)
      (sum : lineSum trip user s = settledMinor t + promoCredited trip user s + c)

/-- The account of a trip: its driver's balance has moved by its lines, which are all of
the trip's purposes, it has not been reversed, and the sum of the lines is that of its
phase. -/
structure Account (trip : Trip) (user : ℕ) (balance discount : ℤ) (s : TripDb) : Prop where
  balance : driverBalance s user = balance + lineSum trip user s
  discount : discountMinor trip s = discount
  lines : ∀ t ∈ s.ledger.rows, onTrip trip user t = isTripLine trip user t
  notReversed : Ref.tripRefundReversal trip.id ∉ keys s
  phase : Phase trip user s

section Congr

variable {s s' : TripDb} (h : Unmoved user s s')
include h

lemma Unmoved.lineSum : lineSum trip user s' = lineSum trip user s := by
  rw [Settlement.lineSum, Settlement.lineSum, h.ledger]

lemma Unmoved.promoCredited : promoCredited trip user s' = promoCredited trip user s := by
  rw [Settlement.promoCredited, Settlement.promoCredited, h.ledger]

lemma Unmoved.keys : keys s' = keys s := by
  rw [Settlement.keys, Settlement.keys, h.ledger]

lemma Unmoved.collectedMinor : collectedMinor trip s' = collectedMinor trip s := by
  rw [Settlement.collectedMinor, Settlement.collectedMinor, h.ledger]

lemma Unmoved.discount : discountMinor trip s' = discountMinor trip s := by
  rw [discountMinor, discountMinor, h.redemptions]

lemma Phase.unmoved (hphase : Phase trip user s) : Phase trip user s' := by
  cases hphase with
  | unsettled rows free sum =>
      exact .unsettled (by rw [h.settlements, rows]) (by rwa [h.keys])
        (by rw [h.lineSum, h.promoCredited, sum])
  | once t rows addsUp version used free sum =>
      exact .once t (by rw [h.settlements, rows]) addsUp version (by rwa [h.keys])
        (by rwa [h.keys]) (by rw [h.lineSum, h.promoCredited, sum])
  | moved t t' c rows addsUp cash version used positive collected sum =>
      exact .moved t t' c (by rw [h.settlements, rows]) addsUp cash version (by rwa [h.keys])
        positive (by rw [h.collectedMinor, collected]) (by rw [h.lineSum, h.promoCredited, sum])

lemma Account.unmoved {balance discount : ℤ} (hacc : Account trip user balance discount s) :
    Account trip user balance discount s' where
  balance := by rw [h.balance, hacc.balance, h.lineSum]
  discount := by rw [h.discount, hacc.discount]
  lines := by rw [h.ledger]; exact hacc.lines
  notReversed := by rw [h.keys]; exact hacc.notReversed
  phase := hacc.phase.unmoved h

end Congr

/-! ### A promo settlement keeps the phase -/

section PromoKeeps

variable {s s' : TripDb} (h : PromoStep trip user s s')
include h

lemma PromoStep.sums : lineSum trip user s' - lineSum trip user s
      = promoCredited trip user s' - promoCredited trip user s ∧
    driverBalance s' user - driverBalance s user
      = lineSum trip user s' - lineSum trip user s := by
  obtain ⟨rs, hrows, hbalance⟩ := h.rows
  have honTrip : ∀ r, onTrip trip user (promoRow trip user r) = true := fun r => by
    simp [onTrip, promoRow, tripRow]
  simp only [lineSum, promoCredited, hrows, Ledger.signedSumOf_append,
    signedSumOf_promoRows honTrip, signedSumOf_promoRows isPromoLine_promoRow, hbalance]
  omega

lemma PromoStep.mem_keys {k : Ref} (hk : ∀ i, k ≠ .tripPromo trip.id i) :
    k ∈ keys s' ↔ k ∈ keys s := by
  obtain ⟨rs, hrows, -⟩ := h.rows
  rw [keys, hrows, List.map_append, List.mem_append]
  refine or_iff_left ?_
  rw [List.map_map, List.mem_map]
  rintro ⟨r, -, hr⟩
  exact hk r.id hr.symm

lemma PromoStep.collected {c : ℤ} (hc : collectedMinor trip s = some c) :
    collectedMinor trip s' = some c := by
  obtain ⟨t, hget, hamount⟩ := Option.map_eq_some_iff.mp hc
  obtain ⟨hmem, hkey⟩ := Table.mem_of_get? hget
  obtain ⟨rs, hrows, -⟩ := h.rows
  have hmem' : t ∈ s'.ledger.rows := by
    rw [hrows]
    exact List.mem_append_left _ hmem
  have hget' := Table.mem_iff_get?.mp hmem'
  rw [hkey] at hget'
  rw [collectedMinor, hget', Option.map_some, hamount]

lemma Account.promoStep {balance discount : ℤ} (hacc : Account trip user balance discount s) :
    Account trip user balance discount s' := by
  obtain ⟨hsum, hbalance⟩ := h.sums
  have hearning : Ref.tripEarning trip.id ∈ keys s' ↔ Ref.tripEarning trip.id ∈ keys s :=
    h.mem_keys fun i => by simp
  have hcollected : Ref.tripCollected trip.id ∈ keys s' ↔ Ref.tripCollected trip.id ∈ keys s :=
    h.mem_keys fun i => by simp
  refine ⟨by rw [eq_add_of_sub_eq hbalance, hacc.balance]; ring, h.discount.trans hacc.discount,
    ?_, by rw [h.mem_keys fun i => by simp]; exact hacc.notReversed, ?_⟩
  · obtain ⟨rs, hrows, -⟩ := h.rows
    intro t ht
    rw [hrows, List.mem_append] at ht
    rcases ht with ht | ht
    · exact hacc.lines t ht
    · obtain ⟨r, -, rfl⟩ := List.mem_map.mp ht
      simp [onTrip, isTripLine, promoRow, tripRow, tripLedgerPurposes]
  · cases hacc.phase with
    | unsettled rows free sum =>
        exact .unsettled (by rw [h.settlements, rows]) (by rwa [hearning, hcollected]) (by omega)
    | once t rows addsUp version used free sum =>
        exact .once t (by rw [h.settlements, rows]) addsUp version (hearning.mpr used)
          (by rwa [hcollected]) (by omega)
    | moved t t' c rows addsUp cash version used positive collected sum =>
        exact .moved t t' c (by rw [h.settlements, rows]) addsUp cash version
          (hearning.mpr used) positive (h.collected collected) (by omega)

end PromoKeeps

/-! ### A settlement changes the phase -/

lemma sum_map_signed_of_all {p : WalletTransaction → Bool} {ts : List WalletTransaction}
    (h : ∀ t ∈ ts, p t = true) :
    Ledger.signedSumOf ts p = (ts.map WalletTransaction.signedMinor).sum := by
  rw [Ledger.signedSumOf, List.filter_eq_self.mpr h]

lemma signedSumOf_eq_zero {p : WalletTransaction → Bool} {ts : List WalletTransaction}
    (h : ∀ t ∈ ts, p t = false) : Ledger.signedSumOf ts p = 0 := by
  have hnil : ts.filter p = [] := List.filter_eq_nil_iff.mpr (by simpa using h)
  rw [Ledger.signedSumOf, hnil]
  rfl

lemma onTrip_of_isTripLine {t : WalletTransaction} (h : isTripLine trip user t = true) :
    onTrip trip user t = true := by
  simp only [isTripLine, Bool.and_eq_true, decide_eq_true_eq] at h
  simp [onTrip, h.1.1.1, h.1.1.2]

lemma Account.settleStep {balance discount : ℤ} {s s₁ : TripDb} {t : TripSettlement}
    (hacc : Account trip user balance discount s) (h : SettleStep trip user t s s₁) :
    Account trip user balance discount s₁ := by
  obtain ⟨ts, hrows, hlines, hkey, hsum⟩ := h.rows
  have honTrip : ∀ u ∈ ts, onTrip trip user u = true := fun u hu =>
    onTrip_of_isTripLine (hlines u hu).1
  have hlineSum : lineSum trip user s₁ = lineSum trip user s + settledMinor t := by
    rw [lineSum, hrows, Ledger.signedSumOf_append, sum_map_signed_of_all honTrip, hsum]
    rfl
  have hpromo : promoCredited trip user s₁ = promoCredited trip user s := by
    rw [promoCredited, hrows, Ledger.signedSumOf_append,
      signedSumOf_eq_zero fun u hu => (hlines u hu).2.1, add_zero]
    rfl
  have hkeys : ∀ k, k ∉ settlementKeys trip → (k ∈ keys s₁ ↔ k ∈ keys s) := by
    intro k hk
    rw [keys, hrows, List.map_append, List.mem_append]
    refine or_iff_left ?_
    rintro hmem
    obtain ⟨u, hu, rfl⟩ := List.mem_map.mp hmem
    exact hk (hlines u hu).2.2
  refine ⟨by rw [h.balance, hacc.balance, hlineSum]; ring,
    (by rw [discountMinor, h.redemptions]; exact hacc.discount), ?_,
    (by rw [hkeys _ (by simp [settlementKeys])]; exact hacc.notReversed), ?_⟩
  · intro u hu
    rw [hrows, List.mem_append] at hu
    rcases hu with hu | hu
    · exact hacc.lines u hu
    · rw [honTrip u hu, (hlines u hu).1]
  · cases hacc.phase with
    | unsettled rows free sum =>
        refine .once t (by rw [h.settlements, rows]; rfl) h.addsUp h.version ?_ ?_ ?_
        · rw [keys, hrows, List.map_append, List.mem_append]
          exact Or.inr hkey
        · rw [hkeys _ (by simp [settlementKeys])]
          exact free.2
        · rw [hlineSum, hpromo, sum, add_comm]
    | once t' rows addsUp version used free sum => exact absurd used h.unsettled
    | moved t' t'' c rows addsUp cash version used positive collected sum =>
        exact absurd used h.unsettled

/-- `credit_driver_wallet` keeps the account. -/
lemma Account.credit {balance discount : ℤ} {s : TripDb} (hdriver : trip.driver = some user)
    (hacc : Account trip user balance discount s) (promoRaises : Bool) :
    Account trip user balance discount (creditDriverWallet trip promoRaises s).2 := by
  rcases creditDriverWallet_spec hdriver promoRaises s with hunmoved | ⟨t, s₁, hsettle, heq⟩
  · exact hacc.unmoved hunmoved
  rw [heq]
  have hsettled := hacc.settleStep hsettle
  cases promoRaises with
  | true => exact hsettled
  | false =>
      cases hpromo : settleTripPromo trip (t.paymentMethod = .cash) s₁ with
      | none => simpa [hpromo] using hsettled
      | some s₂ =>
          simpa [hpromo] using hsettled.promoStep (promoStep_settleTripPromo hdriver hpromo)

/-- What `settle_paid_by_platform` adds to a trip settled as cash. -/
structure CollectStep (trip : Trip) (user : ℕ) (c : ℤ) (s s' : TripDb) : Prop where
  positive : 0 < c
  free : Ref.tripCollected trip.id ∉ keys s
  rows : ∃ u : WalletTransaction, s'.ledger.rows = s.ledger.rows ++ [u] ∧
    isTripLine trip user u = true ∧ isPromoLine trip user u = false ∧
    u.idempotencyKey = .tripCollected trip.id ∧ u.amountMinor = c ∧ u.signedMinor = c
  balance : driverBalance s' user = driverBalance s user + c
  redemptions : s'.redemptions = s.redemptions
  paymentMethod : s'.paymentMethod = s.paymentMethod
  settlements : ∃ t t' : TripSettlement, s.settlements.rows = [t] ∧ t.paymentMethod = .cash ∧
    s'.settlements.rows = [t, t'] ∧ t.version < t'.version

lemma currentSettlement_nil {s : TripDb} (h : s.settlements.rows = []) :
    currentSettlement s = none := by
  simp [currentSettlement, h]

lemma currentSettlement_singleton {s : TripDb} {t : TripSettlement}
    (h : s.settlements.rows = [t]) : currentSettlement s = some t := by
  simp [currentSettlement, h]

lemma creditFareCollectedByPlatform_eq {s s' : TripDb} {amount : ℤ} {currency : Currency}
    (hdriver : trip.driver = some user)
    (h : creditFareCollectedByPlatform trip amount currency s = some s') :
    0 < amount ∧ ∃ ledger, s.ledger.insert? (tripRow trip user currency amount .credit
        .fareCollectedByPlatform (.tripCollected trip.id)) = some ledger ∧
      s' = { s with ledger, wallets := s.wallets.addMinor (driverWallet s user) amount } := by
  rw [creditFareCollectedByPlatform, hdriver] at h
  dsimp only at h
  split at h
  · cases h
  · rename_i hpositive
    obtain ⟨ledger, hinsert, rfl⟩ := Option.map_eq_some_iff.mp h
    exact ⟨by omega, ledger, hinsert, rfl⟩

/-- `settle_paid_by_platform` settles a trip that is not, moves one settled as cash, and
otherwise moves nothing. -/
theorem settlePaidByPlatform_spec (hdriver : trip.driver = some user) {s : TripDb}
    (hphase : Phase trip user s) (amount : ℤ) (currency : Option Currency) (promoRaises : Bool) :
    settlePaidByPlatform trip amount currency promoRaises s
        = (creditDriverWallet trip promoRaises (lockWallet s user)).2 ∨
      Unmoved user s (settlePaidByPlatform trip amount currency promoRaises s) ∨
      CollectStep trip user amount s (settlePaidByPlatform trip amount currency promoRaises s) := by
  have hlock := unmoved_lockWallet user s
  rw [settlePaidByPlatform, hdriver]
  dsimp only
  cases hcurrent : currentSettlement (lockWallet s user) with
  | none => exact Or.inl rfl
  | some current =>
      refine Or.inr ?_
      dsimp only
      split
      · exact Or.inl hlock
      rename_i hcash
      cases hcredit : creditFareCollectedByPlatform trip amount
          (currency.getD current.currency) (lockWallet s user) with
      | none => exact Or.inl hlock
      | some s' =>
          dsimp only
          obtain ⟨hpositive, ledger, hinsert, rfl⟩ :=
            creditFareCollectedByPlatform_eq hdriver hcredit
          have hfree := (Table.rows_of_insert? hinsert).2
          split
          · exact Or.inl hlock
          rename_i settlements hsettlements
          refine Or.inr ⟨hpositive, hfree, ⟨_, (Table.rows_of_insert? hinsert).1, ?_, ?_, rfl, rfl,
            rfl⟩, ?_, rfl, rfl, ?_⟩
          · simp [isTripLine, tripRow, tripLedgerPurposes]
          · simp [isPromoLine, tripRow]
          · rw [driverBalance_addMinor rfl, driverBalance_lockWallet]
          · have hrows := rows_of_insertSettlement hsettlements
            have hcurrent' : currentSettlement s = some current := hcurrent
            cases hphase with
            | unsettled rows free sum =>
                rw [currentSettlement_nil rows] at hcurrent'
                cases hcurrent'
            | once t rows addsUp version used free sum =>
                rw [currentSettlement_singleton rows, Option.some.injEq] at hcurrent'
                subst hcurrent'
                have hrows' : (lockWallet s user).settlements.rows = [t] := rows
                exact ⟨t, _, rows, not_not.mp hcash, hrows.trans (by rw [hrows']; rfl),
                  Nat.lt_succ_self _⟩
            | moved t t' c rows addsUp cash version used positive collected sum =>
                -- the amount has been collected: the key is taken
                obtain ⟨u, hget, -⟩ := Option.map_eq_some_iff.mp collected
                obtain ⟨hmem, hkey⟩ := Table.mem_of_get? hget
                exact absurd (List.mem_map.mpr ⟨u, hmem, hkey⟩) hfree

lemma Account.collectStep {balance discount c : ℤ} {s s' : TripDb}
    (hacc : Account trip user balance discount s) (h : CollectStep trip user c s s') :
    Account trip user balance discount s' := by
  obtain ⟨u, hrows, hline, hpromo, hkey, hamount, hsigned⟩ := h.rows
  have hlineSum : lineSum trip user s' = lineSum trip user s + c := by
    simp [lineSum, hrows, onTrip_of_isTripLine hline, hsigned]
  have hpromoSum : promoCredited trip user s' = promoCredited trip user s := by
    simp [promoCredited, hrows, hpromo]
  have hreversal : Ref.tripRefundReversal trip.id ∉ keys s' := by
    rw [keys, hrows, List.map_append, List.mem_append]
    rintro (hmem | hmem)
    · exact hacc.notReversed hmem
    · simp [hkey] at hmem
  refine ⟨by rw [h.balance, hacc.balance, hlineSum]; ring,
    (by rw [discountMinor, h.redemptions]; exact hacc.discount), ?_, hreversal, ?_⟩
  · intro v hv
    rw [hrows, List.mem_append, List.mem_singleton] at hv
    rcases hv with hv | rfl
    · exact hacc.lines v hv
    · rw [hline, onTrip_of_isTripLine hline]
  · obtain ⟨t, t', hbefore, hcash, hafter, hversion⟩ := h.settlements
    cases hacc.phase with
    | unsettled rows free sum => rw [rows] at hbefore; cases hbefore
    | moved t₁ t₂ c' rows addsUp cash version used positive collected sum =>
        rw [rows] at hbefore
        cases hbefore
    | once t₁ rows addsUp version used free sum =>
        rw [rows] at hbefore
        cases hbefore
        refine .moved t t' c hafter addsUp hcash hversion ?_ h.positive ?_ ?_
        · rw [keys, hrows, List.map_append, List.mem_append]
          exact Or.inl used
        · have hmem : u ∈ s'.ledger.rows := by simp [hrows]
          have hget := Table.mem_iff_get?.mp hmem
          rw [hkey] at hget
          rw [collectedMinor, hget, Option.map_some, hamount]
        · rw [hlineSum, sum, hpromoSum]

/-- Every action keeps the account of the trip. -/
theorem Account.step {balance discount : ℤ} {s : TripDb} (hdriver : trip.driver = some user)
    (hacc : Account trip user balance discount s) (a : Act) :
    Account trip user balance discount (step trip s a) := by
  cases a with
  | credit promoRaises => exact hacc.credit hdriver promoRaises
  | paidByPlatform amount currency promoRaises =>
      rcases settlePaidByPlatform_spec hdriver hacc.phase amount currency promoRaises with
        heq | hunmoved | hcollect
      · rw [Settlement.step, heq]
        exact (hacc.unmoved (unmoved_lockWallet user s)).credit hdriver promoRaises
      · exact hacc.unmoved hunmoved
      · exact hacc.collectStep hcollect
  | settlePromo =>
      rw [Settlement.step]
      cases hpromo : settleTripPromo trip (s.paymentMethod = some .cash) s with
      | none => exact hacc
      | some s' => exact hacc.promoStep (promoStep_settleTripPromo hdriver hpromo)
  | switch method => exact ⟨hacc.balance, hacc.discount, hacc.lines, hacc.notReversed, by
      cases hacc.phase with
      | unsettled rows free sum => exact .unsettled rows free sum
      | once t rows addsUp version used free sum => exact .once t rows addsUp version used free sum
      | moved t t' c rows addsUp cash version used positive collected sum =>
          exact .moved t t' c rows addsUp cash version used positive collected sum⟩

end SaaradhiGo.Settlement
