/-
The settlement of a trip, over whole runs.

Whatever the order and the repetition of settlements, every key is written once, the
driver's balance moves by the trip's lines, and their sum is known from where the money is.
It is the driver's net when the platform holds the money and the promo was settled with the
trip; a reversal takes a positive sum back once.
-/
import SaaradhiGo.Settlement.Account
import SaaradhiGo.Lib.Transition

namespace SaaradhiGo.Settlement

open SaaradhiGo.Money

variable {trip : Trip} {user : ℕ}

/-! ## A promo settled with its trip -/

/-- Every redemption the trip carries is committed and belongs to a campaign. -/
def PromosCommitted (s : TripDb) : Prop :=
  ∀ r ∈ s.redemptions.rows, r.held = true → r.state = .committed ∧ r.campaign.isSome

instance (s : TripDb) : Decidable (PromosCommitted s) :=
  inferInstanceAs (Decidable (∀ r ∈ s.redemptions.rows, _ → _))

/-- The promo is settled where the code settles it, inside the settlement of the trip, and
its settlement does not raise; a repetition comes after that. -/
def PromoWithSettlement (s : TripDb) : Act → Prop
  | .credit promoRaises => promoRaises = false
  | .paidByPlatform _ _ promoRaises => promoRaises = false
  | .settlePromo => s.settlements.rows ≠ []
  | .switch _ => True

instance (s : TripDb) : ∀ a, Decidable (PromoWithSettlement s a)
  | .credit promoRaises => inferInstanceAs (Decidable (promoRaises = false))
  | .paidByPlatform _ _ promoRaises => inferInstanceAs (Decidable (promoRaises = false))
  | .settlePromo => inferInstanceAs (Decidable (s.settlements.rows ≠ []))
  | .switch _ => isTrue trivial

/-- Before the settlement nothing of the promo has been settled; after it everything has,
and against cash the discount has been credited. -/
structure PromoKept (trip : Trip) (user : ℕ) (s : TripDb) : Prop where
  before : s.settlements.rows = [] → PromosCommitted s ∧
    (∀ i, Ref.tripPromo trip.id i ∉ keys s) ∧ promoCredited trip user s = 0
  after : ∀ t ts, s.settlements.rows = t :: ts → (∀ r ∈ s.redemptions.rows, r.state ≠ .committed) ∧
    promoCredited trip user s = if t.paymentMethod = .cash then discountMinor trip s else 0

lemma PromoKept.unmoved {s s' : TripDb} (h : Unmoved user s s') (hkept : PromoKept trip user s) :
    PromoKept trip user s' where
  before hrows := by
    rw [PromosCommitted, h.redemptions, h.keys, h.promoCredited]
    exact hkept.before (h.settlements ▸ hrows)
  after t ts hrows := by
    rw [h.redemptions, h.promoCredited, h.discount]
    exact hkept.after t ts (h.settlements ▸ hrows)

/-- When everything held is committed, what a promo settlement credits is the discount. -/
lemma sum_committed (hfunded : trip.platformFunded = false) {s : TripDb} (h : PromosCommitted s) :
    ((s.redemptions.rows.filter fun r => r.state = .committed).map
      PromoRedemption.discountAmountMinor).sum = discountMinor trip s := by
  rw [discountMinor, hfunded, if_neg (by simp)]
  congr 2
  apply List.filter_congr
  intro r hr
  by_cases hheld : r.held = true
  · simp [(h r hr hheld).1, hheld]
  · have hne : r.state ≠ .committed := fun hs => hheld (by simp [PromoRedemption.held, hs])
    simp [hne, hheld]

lemma PromoKept.settle (hdriver : trip.driver = some user) (hfunded : trip.platformFunded = false)
    {s s₁ : TripDb} {t : TripSettlement} (hkept : PromoKept trip user s)
    (hrows : s.settlements.rows = []) (h : SettleStep trip user t s s₁) :
    PromoKept trip user ((settleTripPromo trip (t.paymentMethod = .cash) s₁).getD s₁) := by
  obtain ⟨hcommitted, hfree, hcredited⟩ := hkept.before hrows
  obtain ⟨ts, hledger, hlines, -, -⟩ := h.rows
  have hcommitted₁ : PromosCommitted s₁ := by
    rw [PromosCommitted, h.redemptions]
    exact hcommitted
  have hfree₁ : ∀ i, Ref.tripPromo trip.id i ∉ keys s₁ := by
    intro i hmem
    rw [keys, hledger, List.map_append, List.mem_append] at hmem
    rcases hmem with hold | hnew
    · exact hfree i hold
    · obtain ⟨u, hu, hkey⟩ := List.mem_map.mp hnew
      have hset := (hlines u hu).2.2
      rw [hkey] at hset
      simp [settlementKeys] at hset
  have hcredited₁ : promoCredited trip user s₁ = 0 := by
    rw [promoCredited, hledger, Ledger.signedSumOf_append,
      signedSumOf_eq_zero fun u hu => (hlines u hu).2.1, add_zero]
    exact hcredited
  obtain ⟨s', hsettle, hnone, hsum⟩ := settleTripPromo_complete hdriver hfunded
    (decide (t.paymentMethod = .cash))
    (fun r hr hs => (hcommitted₁ r hr (by simp [PromoRedemption.held, hs])).2) hfree₁
  have hstep := promoStep_settleTripPromo hdriver hsettle
  have hrows' : s'.settlements.rows = [t] := by
    rw [hstep.settlements, h.settlements, hrows, List.nil_append]
  rw [hsettle, Option.getD_some]
  refine ⟨fun hnil => by (rw [hrows'] at hnil; cases hnil), fun t' ts' hcons => ?_⟩
  rw [hrows'] at hcons
  cases hcons
  refine ⟨hnone, ?_⟩
  rw [hsum, hcredited₁, sum_committed hfunded hcommitted₁, hstep.discount]
  by_cases hcash : t.paymentMethod = .cash <;> simp [hcash]

lemma PromoKept.credit (hdriver : trip.driver = some user) (hfunded : trip.platformFunded = false)
    {balance discount : ℤ} {s : TripDb} (hacc : Account trip user balance discount s)
    (hkept : PromoKept trip user s) : PromoKept trip user (creditDriverWallet trip false s).2 := by
  rcases creditDriverWallet_spec hdriver false s with hunmoved | ⟨t, s₁, hsettle, heq⟩
  · exact hkept.unmoved hunmoved
  · rw [heq]
    have hrows : s.settlements.rows = [] := by
      cases hacc.phase with
      | unsettled rows free sum => exact rows
      | once t' rows addsUp version used free sum => exact absurd used hsettle.unsettled
      | moved t' t'' c rows addsUp cash version used positive collected sum =>
          exact absurd used hsettle.unsettled
    exact hkept.settle hdriver hfunded hrows hsettle

/-- A promo settled with its trip stays so. -/
theorem PromoKept.step (hdriver : trip.driver = some user) (hfunded : trip.platformFunded = false)
    {balance discount : ℤ} {s : TripDb} {a : Act} (ha : PromoWithSettlement s a)
    (hacc : Account trip user balance discount s) (hkept : PromoKept trip user s) :
    PromoKept trip user (step trip s a) := by
  cases a with
  | credit promoRaises =>
      cases ha
      exact hkept.credit hdriver hfunded hacc
  | paidByPlatform amount currency promoRaises =>
      cases ha
      rcases settlePaidByPlatform_spec hdriver hacc.phase amount currency false with
        heq | hunmoved | hcollect
      · have hlock := unmoved_lockWallet user s
        rw [Settlement.step, heq]
        exact (hkept.unmoved hlock).credit hdriver hfunded (hacc.unmoved hlock)
      · exact hkept.unmoved hunmoved
      · rw [Settlement.step]
        obtain ⟨t, t', hbefore, -, hafter, -⟩ := hcollect.settlements
        obtain ⟨u, hrows, -, hpromo, -⟩ := hcollect.rows
        obtain ⟨hnone, hcredited⟩ := hkept.after t [] hbefore
        refine ⟨fun hnil => by (rw [hafter] at hnil; cases hnil), fun t₁ ts hcons => ?_⟩
        rw [hafter] at hcons
        cases hcons
        refine ⟨by rw [hcollect.redemptions]; exact hnone, ?_⟩
        have hdiscount : discountMinor trip (settlePaidByPlatform trip amount currency false s)
            = discountMinor trip s := by
          rw [discountMinor, discountMinor, hcollect.redemptions]
        rw [hdiscount, promoCredited, hrows, Ledger.signedSumOf_append]
        simpa [hpromo, promoCredited] using hcredited
  | settlePromo =>
      -- nothing is committed any more, so nothing happens
      obtain ⟨t, ts, hrows⟩ := List.exists_cons_of_ne_nil ha
      have hnil : s.redemptions.rows.filter (fun r => r.state = .committed) = [] :=
        List.filter_eq_nil_iff.mpr fun r hr => by simpa using (hkept.after t ts hrows).1 r hr
      have hsame : settleTripPromo trip (s.paymentMethod = some .cash) s = some s := by
        rw [settleTripPromo, hfunded, hnil]
        rfl
      rw [Settlement.step, hsame]
      exact hkept
  | switch method => exact ⟨hkept.before, hkept.after⟩

/-! ## Reversal -/

lemma lineSum_eq {balance discount : ℤ} {s : TripDb}
    (hacc : Account trip user balance discount s) :
    Ledger.signedSumOf s.ledger.rows (isTripLine trip user) = lineSum trip user s := by
  rw [Ledger.signedSumOf, lineSum, Ledger.signedSumOf]
  congr 2
  exact List.filter_congr fun t ht => (hacc.lines t ht).symm

lemma unmoved_reverse_of_reversed (hdriver : trip.driver = some user) {s : TripDb}
    (h : Ref.tripRefundReversal trip.id ∈ keys s) : Unmoved user s (reverseTripEarnings trip s) := by
  rw [reverseTripEarnings, hdriver]
  dsimp only
  split
  · exact unmoved_lockWallet user s
  split
  · exact unmoved_lockWallet user s
  · rename_i ledger hinsert
    exact absurd h (Table.rows_of_insert? hinsert).2

/-- A reversal brings a positive sum to nought, and moves nothing otherwise. -/
lemma reverseTripEarnings_spec (hdriver : trip.driver = some user) {balance discount : ℤ}
    {s : TripDb} (hacc : Account trip user balance discount s) :
    if 0 < lineSum trip user s then
      lineSum trip user (reverseTripEarnings trip s) = 0 ∧
        driverBalance (reverseTripEarnings trip s) user = balance ∧
        Ref.tripRefundReversal trip.id ∈ keys (reverseTripEarnings trip s)
    else Unmoved user s (reverseTripEarnings trip s) := by
  have hsum := lineSum_eq hacc
  have hnet : Ledger.signedSumOf (lockWallet s user).ledger.rows (isTripLine trip user)
      = lineSum trip user s := hsum
  rw [reverseTripEarnings, hdriver]
  dsimp only
  rw [hnet]
  by_cases hpos : 0 < lineSum trip user s
  · rw [if_pos hpos, if_neg (by omega)]
    obtain ⟨ledger, hinsert, hrows⟩ : ∃ ledger,
        (lockWallet s user).ledger.insert? (tripRow trip user
          (driverWallet (lockWallet s user) user).currency (lineSum trip user s) .debit
          .tripRefundReversal (.tripRefundReversal trip.id)) = some ledger ∧
        ledger.rows = s.ledger.rows ++ [tripRow trip user
          (driverWallet (lockWallet s user) user).currency (lineSum trip user s) .debit
          .tripRefundReversal (.tripRefundReversal trip.id)] :=
      Table.insert?_of_notMem hacc.notReversed
    rw [hinsert]
    dsimp only
    refine ⟨?_, ?_, ?_⟩
    · rw [lineSum, hrows, Ledger.signedSumOf_append]
      simp only [Ledger.signedSumOf_cons, Ledger.signedSumOf_nil, onTrip, tripRow,
        WalletTransaction.signedMinor, decide_true, Bool.and_self, if_true]
      rw [show Ledger.signedSumOf s.ledger.rows (onTrip trip user) = lineSum trip user s from rfl]
      ring
    · rw [driverBalance_addMinor rfl, driverBalance_lockWallet, hacc.balance]
      ring
    · rw [keys, hrows, List.map_append, List.mem_append]
      exact Or.inr (by simp [tripRow])
  · rw [if_neg hpos, if_pos (by omega)]
    exact unmoved_lockWallet user s

/-- However often it is repeated, a reversal takes a positive sum back once and leaves any
other one alone. -/
lemma reverse_iterate (hdriver : trip.driver = some user) {balance discount : ℤ} {s : TripDb}
    (hacc : Account trip user balance discount s) (n : ℕ) :
    let s' := (reverseTripEarnings trip)^[n + 1] s
    if 0 < lineSum trip user s then
      lineSum trip user s' = 0 ∧ driverBalance s' user = balance ∧
        Ref.tripRefundReversal trip.id ∈ keys s'
    else Unmoved user s s' := by
  have hspec := reverseTripEarnings_spec hdriver hacc
  induction n with
  | zero => exact hspec
  | succ n ih =>
      rw [Function.iterate_succ_apply']
      dsimp only at ih ⊢
      split
      · rename_i hpos
        rw [if_pos hpos] at ih
        obtain ⟨hsum, hbalance, hreversed⟩ := ih
        have hunmoved := unmoved_reverse_of_reversed hdriver hreversed
        rw [hunmoved.lineSum, hunmoved.balance, hunmoved.keys]
        exact ⟨hsum, hbalance, hreversed⟩
      · rename_i hpos
        rw [if_neg hpos] at ih
        have hnext := reverseTripEarnings_spec hdriver (hacc.unmoved ih)
        rw [ih.lineSum, if_neg hpos] at hnext
        exact ih.trans hnext

/-! ## Runs -/

/-- The trip a reference is about. -/
def tripOf : Ref → Option ℕ
  | .trip id | .tripEarning id | .tripTax id | .tripFee id | .tripPromo id _ | .tripCollected id
  | .tripRefundReversal id => some id
  | _ => none

/-- Nothing has been written for the trip. -/
def Fresh (trip : Trip) (s : TripDb) : Prop :=
  s.settlements.rows = [] ∧ ∀ t ∈ s.ledger.rows,
    tripOf t.referenceId ≠ some trip.id ∧ tripOf t.idempotencyKey ≠ some trip.id

instance (trip : Trip) (s : TripDb) : Decidable (Fresh trip s) :=
  inferInstanceAs (Decidable (_ ∧ _))

lemma Fresh.notMem_keys {s : TripDb} (h : Fresh trip s) {k : Ref} (hk : tripOf k = some trip.id) :
    k ∉ keys s := by
  intro hmem
  obtain ⟨t, ht, rfl⟩ := List.mem_map.mp hmem
  exact (h.2 t ht).2 hk

lemma Fresh.onTrip {s : TripDb} (h : Fresh trip s) :
    ∀ t ∈ s.ledger.rows, Settlement.onTrip trip user t = false := by
  intro t ht
  by_contra hon
  simp only [Settlement.onTrip, Bool.not_eq_false, Bool.and_eq_true, decide_eq_true_eq] at hon
  exact (h.2 t ht).1 (by rw [hon.2]; rfl)

/-- A trip for which nothing has been written is not settled. -/
lemma Fresh.account {s : TripDb} (h : Fresh trip s) :
    Account trip user (driverBalance s user) (discountMinor trip s) s := by
  have honTrip : ∀ t ∈ s.ledger.rows, Settlement.onTrip trip user t = false := h.onTrip
  have hsum : lineSum trip user s = 0 := signedSumOf_eq_zero honTrip
  have hpromo : promoCredited trip user s = 0 :=
    signedSumOf_eq_zero fun t ht => by simp [isPromoLine, honTrip t ht]
  refine ⟨by rw [hsum, add_zero], rfl, fun t ht => ?_, h.notMem_keys rfl,
    .unsettled h.1 ⟨h.notMem_keys rfl, h.notMem_keys rfl⟩ (by rw [hsum, hpromo])⟩
  rw [honTrip t ht]
  by_contra hline
  have hisLine : isTripLine trip user t = true := by simpa using Ne.symm hline
  have hon := onTrip_of_isTripLine hisLine
  rw [honTrip t ht] at hon
  cases hon

/-- What holds of the settlement of a trip in every state a run reaches. -/
structure SettlementHolds (trip : Trip) (user : ℕ) (s₀ s : TripDb) : Prop where
  /-- no key is written twice -/
  once : ∀ k, (keys s).count k ≤ 1
  balance : driverBalance s user - driverBalance s₀ user = lineSum trip user s
  heldByDriver : ∀ t, s.settlements.rows = [t] → t.paymentMethod = .cash →
    lineSum trip user s = -owedMinor t + promoCredited trip user s
  /-- the platform has held the money from the start -/
  heldByPlatform : ∀ t, s.settlements.rows = [t] → t.paymentMethod ≠ .cash →
    lineSum trip user s
      = t.grossFareMinor - t.commissionAmountMinor + promoCredited trip user s
  /-- the platform collected what the rider was to pay, after a cash settlement -/
  moved : ∀ t t', s.settlements.rows = [t, t'] → t.paymentMethod = .cash ∧
    (collectedMinor trip s = some (payableMinor trip s) → lineSum trip user s
      = t.grossFareMinor - t.commissionAmountMinor + promoCredited trip user s
        - discountMinor trip s)
  /-- repeated reversals take a positive sum back once -/
  reversed : ∀ n, let s' := (reverseTripEarnings trip)^[n + 1] s
    if 0 < lineSum trip user s then
      lineSum trip user s' = 0 ∧ driverBalance s' user = driverBalance s₀ user
    else lineSum trip user s' = lineSum trip user s ∧ driverBalance s' user = driverBalance s user

/-- The sum is the driver's net when the platform holds the rider's money, from the start or
collected after a cash settlement. -/
def NetWhenPlatformHolds (trip : Trip) (user : ℕ) (s : TripDb) : Prop :=
  (∀ t, s.settlements.rows = [t] → t.paymentMethod ≠ .cash →
    lineSum trip user s = t.grossFareMinor - t.commissionAmountMinor) ∧
  ∀ t t', s.settlements.rows = [t, t'] → collectedMinor trip s = some (payableMinor trip s) →
    lineSum trip user s = t.grossFareMinor - t.commissionAmountMinor

/-- What the rider is to pay, when it is positive, is the fare without the discount. -/
lemma payableMinor_of_pos {s : TripDb} (h : 0 < payableMinor trip s) :
    payableMinor trip s = fareMinor trip - discountMinor trip s := by
  rw [payableMinor] at h ⊢
  omega

lemma settlementHolds_of_account (hdriver : trip.driver = some user) {s₀ s : TripDb}
    {discount : ℤ} (hacc : Account trip user (driverBalance s₀ user) discount s) :
    SettlementHolds trip user s₀ s := by
  refine ⟨fun k => List.nodup_iff_count_le_one.mp s.ledger.nodup k,
    by rw [hacc.balance, add_sub_cancel_left], ?_, ?_, ?_, ?_⟩
  · intro t hrows hcash
    cases hacc.phase with
    | unsettled rows free sum => rw [rows] at hrows; cases hrows
    | once t' rows addsUp version used free sum =>
        rw [rows] at hrows
        cases hrows
        rw [sum, settledMinor, if_pos hcash]
    | moved t' t'' c rows addsUp cash version used positive collected sum =>
        rw [rows] at hrows
        cases hrows
  · intro t hrows hcash
    cases hacc.phase with
    | unsettled rows free sum => rw [rows] at hrows; cases hrows
    | once t' rows addsUp version used free sum =>
        rw [rows] at hrows
        cases hrows
        rw [sum, settledMinor, if_neg hcash, addsUp.net]
    | moved t' t'' c rows addsUp cash version used positive collected sum =>
        rw [rows] at hrows
        cases hrows
  · intro t t' hrows
    cases hacc.phase with
    | unsettled rows free sum => rw [rows] at hrows; cases hrows
    | once t₁ rows addsUp version used free sum => rw [rows] at hrows; cases hrows
    | moved t₁ t₂ c rows addsUp cash version used positive collected sum =>
        rw [rows] at hrows
        cases hrows
        refine ⟨cash, fun hpayable => ?_⟩
        rw [collected, Option.some.injEq] at hpayable
        have hpaid := payableMinor_of_pos (hpayable ▸ positive)
        have hfare := addsUp.fare
        rw [sum, settledMinor, if_pos cash, owedMinor, hpayable, hpaid]
        omega
  · intro n
    have hrev := reverse_iterate hdriver hacc n
    dsimp only at hrev ⊢
    split
    · rename_i hpos
      rw [if_pos hpos] at hrev
      exact ⟨hrev.1, hrev.2.1⟩
    · rename_i hpos
      rw [if_neg hpos] at hrev
      exact ⟨hrev.lineSum, hrev.balance⟩

lemma netWhenPlatformHolds_of_promoKept {s₀ s : TripDb} (h : SettlementHolds trip user s₀ s)
    (hkept : PromoKept trip user s) : NetWhenPlatformHolds trip user s := by
  constructor
  · intro t hrows hcash
    rw [h.heldByPlatform t hrows hcash, (hkept.after t [] hrows).2, if_neg hcash, add_zero]
  · intro t t' hrows hcollected
    obtain ⟨hcash, hsum⟩ := h.moved t t' hrows
    rw [hsum hcollected, (hkept.after t [t'] hrows).2, if_pos hcash, add_sub_cancel_right]

/-- For every sequence of settlements, payments and promo settlements of a trip its account
holds; and when the promo is settled with the trip, the driver has the net as soon as the
platform holds the money. -/
theorem settlement_of_run (hdriver : trip.driver = some user)
    (hfunded : trip.platformFunded = false) {s₀ : TripDb} (hfresh : Fresh trip s₀)
    (as : List Act) :
    SettlementHolds trip user s₀ (Transition.run (step trip) s₀ as) ∧
      (PromosCommitted s₀ → Transition.Guarded (step trip) PromoWithSettlement s₀ as →
        NetWhenPlatformHolds trip user (Transition.run (step trip) s₀ as)) := by
  have hacc := Transition.invariant
    (I := Account trip user (driverBalance s₀ user) (discountMinor trip s₀))
    (fun s a h => h.step hdriver a) as hfresh.account
  have hholds := settlementHolds_of_account hdriver hacc
  refine ⟨hholds, fun hcommitted hguarded => ?_⟩
  have hstart : PromoKept trip user s₀ := by
    refine ⟨fun _ => ⟨hcommitted, fun i => hfresh.notMem_keys rfl, ?_⟩, fun t ts hrows => ?_⟩
    · exact signedSumOf_eq_zero fun t ht => by simp [isPromoLine, hfresh.onTrip t ht]
    · rw [hfresh.1] at hrows
      cases hrows
  have hkept := Transition.invariant_of_guarded
    (I := fun s => Account trip user (driverBalance s₀ user) (discountMinor trip s₀) s ∧
      PromoKept trip user s)
    (fun s a ha h => ⟨h.1.step hdriver a, h.2.step hdriver hfunded ha h.1⟩)
    ⟨hfresh.account, hstart⟩ hguarded
  exact netWhenPlatformHolds_of_promoKept hholds hkept.2

/-- A fare of a hundred rupees at a commission of a fifth. -/
def hundredRupees : Trip where
  id := 1
  driver := some 7
  platformFunded := false
  currency := .inr
  finalFareMinor := some 10000
  estimatedFareMinor := none
  additiveTax := false
  storedSplit := none
  additiveContext := none
  commissionPercent := some 20

/-- The trip has ended, paid in cash, and carries a promo of ten rupees. -/
def tenOff : TripDb where
  wallets := Table.empty.put ⟨7, .driver, 0, .inr⟩
  ledger := .empty
  settlements := .empty
  redemptions := Table.empty.put ⟨1, some 1, 1000, .inr, .committed⟩
  paymentMethod := some .cash

def cashThenOnline : List Act :=
  [.credit false, .switch .online, .paidByPlatform 9000 none false, .credit false, .settlePromo]

theorem cashThenOnline_net :
    (hundredRupees.driver = some 7 ∧ hundredRupees.platformFunded = false ∧
      Fresh hundredRupees tenOff ∧ PromosCommitted tenOff ∧
      Transition.Guarded (step hundredRupees) PromoWithSettlement tenOff cashThenOnline) ∧
    SettlementHolds hundredRupees 7 tenOff
      (Transition.run (step hundredRupees) tenOff cashThenOnline) ∧
    NetWhenPlatformHolds hundredRupees 7
      (Transition.run (step hundredRupees) tenOff cashThenOnline) := by
  have hfresh : Fresh hundredRupees tenOff := by decide
  have hcommitted : PromosCommitted tenOff := by decide
  have hguarded : Transition.Guarded (step hundredRupees) PromoWithSettlement tenOff
      cashThenOnline := by decide +kernel
  have hdriver : hundredRupees.driver = some 7 := rfl
  have hrun := settlement_of_run hdriver rfl hfresh cashThenOnline
  exact ⟨⟨rfl, rfl, hfresh, hcommitted, hguarded⟩, hrun.1, hrun.2 hcommitted hguarded⟩

/-- The settlement of the example, paid by a method. -/
def hundredSettled (version : ℕ) (method : PaymentMethod) : TripSettlement where
  version := version
  currency := .inr
  grossFareMinor := 10000
  commissionPercent := 20
  commissionAmountMinor := 2000
  driverNetMinor := 8000
  taxCollectedMinor := none
  regulatoryFeeCollectedMinor := none
  paymentMethod := method

/-- The trip carries a promo from before promos were settled. -/
def tenOffLegacy : TripDb :=
  { tenOff with redemptions := Table.empty.put ⟨1, none, 1000, .inr, .legacy⟩ }

/-- When the promo fails to settle with a cash settlement, is settled before the trip, or is
from before promos were settled, the driver does not have the net once the platform holds the
money. -/
theorem promo_apart_not_net :
    ¬ NetWhenPlatformHolds hundredRupees 7 (Transition.run (step hundredRupees) tenOff
        [.credit true, .switch .online, .paidByPlatform 9000 none false]) ∧
    ¬ NetWhenPlatformHolds hundredRupees 7 (Transition.run (step hundredRupees) tenOff
        [.settlePromo, .switch .online, .credit false]) ∧
    ¬ NetWhenPlatformHolds hundredRupees 7 (Transition.run (step hundredRupees) tenOffLegacy
        [.credit false, .switch .online, .paidByPlatform 9000 none false]) := by
  refine ⟨?_, ?_, ?_⟩
  · intro h
    have hnet := h.2 (hundredSettled 1 .cash) (hundredSettled 2 .online)
      (by decide +kernel) (by decide +kernel)
    have hshort : lineSum hundredRupees 7 (Transition.run (step hundredRupees) tenOff
        [.credit true, .switch .online, .paidByPlatform 9000 none false]) = 7000 := by
      decide +kernel
    rw [hshort] at hnet
    exact absurd hnet (by decide)
  · intro h
    have hnet := h.1 (hundredSettled 1 .online) (by decide +kernel) (by decide)
    have hover : lineSum hundredRupees 7 (Transition.run (step hundredRupees) tenOff
        [.settlePromo, .switch .online, .credit false]) = 9000 := by
      decide +kernel
    rw [hover] at hnet
    exact absurd hnet (by decide)
  · intro h
    have hnet := h.2 (hundredSettled 1 .cash) (hundredSettled 2 .online)
      (by decide +kernel) (by decide +kernel)
    have hshort : lineSum hundredRupees 7 (Transition.run (step hundredRupees) tenOffLegacy
        [.credit false, .switch .online, .paidByPlatform 9000 none false]) = 7000 := by
      decide +kernel
    rw [hshort] at hnet
    exact absurd hnet (by decide)

end SaaradhiGo.Settlement
