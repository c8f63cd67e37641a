/-
What opens, approves, rejects and retries a withdrawal.

`driver_withdrawal_request` and the weekly run's `_create_one` debit the wallet and open
a withdrawal; the approval executor releases it to the dispatcher; `reject_one` returns
the funds; `retry_failed` debits the wallet again and sends it back to the dispatcher.
Each is one transaction with the rows it writes locked, and a refusal leaves the database
as it was.  What these functions read outside the payout tables (a hold, the driver's
other payout handles, the rewards under review) is part of their input.
-/
import SaaradhiGo.Payouts.Dispatch
import SaaradhiGo.Payouts.Webhook

namespace SaaradhiGo.Payouts

open SaaradhiGo.Money Interleave

/-! ## Fees and deductions -/

/-- `PayoutCountryConfig`, as far as a withdrawal reads it. -/
structure PayoutConfig where
  currency : Currency
  minimumWithdrawalMinor : ℤ
  feePercent : ℚ
  recoveryMaxPercent : ℕ
deriving DecidableEq

def withdrawalFee (config : PayoutConfig) (amountMinor : ℤ) : ℤ :=
  if config.feePercent ≤ 0 ∨ amountMinor = 0 then 0
  else roundHalfUp (amountMinor * config.feePercent / 100)

lemma withdrawalFee_nonneg (config : PayoutConfig) {amountMinor : ℤ} (h : 0 ≤ amountMinor) :
    0 ≤ withdrawalFee config amountMinor := by
  rw [withdrawalFee]
  split
  · exact le_rfl
  · next hfee =>
    have hpercent : 0 < config.feePercent := lt_of_not_ge fun hle => hfee (Or.inl hle)
    have hamount : (0 : ℚ) ≤ amountMinor := by exact_mod_cast h
    have hq : 0 ≤ amountMinor * config.feePercent / 100 := by positivity
    rw [roundHalfUp, if_pos hq]
    exact Int.floor_nonneg.mpr (by positivity)

/-- An open recovery debt of the driver. -/
structure Debt where
  id : ℕ
  approvalRequest : ℕ
  currency : Currency
  remainingMinor : ℤ
deriving DecidableEq, Repr

/-- The loop of `plan_deduction`: each debt takes what it may of what is left. -/
def takeFrom : List Debt → ℤ → List (Debt × ℤ)
  | [], _ => []
  | debt :: debts, left =>
      let take := min debt.remainingMinor left
      if 0 < take then (debt, take) :: takeFrom debts (left - take) else takeFrom debts left

/-- `plan_deduction`: at most `percent` of the payout, and never so much that the payout
falls below the floor. -/
def planDeduction (debts : List Debt) (payoutMinor floorMinor : ℤ) (percent : ℕ) :
    List (Debt × ℤ) :=
  let debts := debts.filter fun d => 0 < d.remainingMinor
  if debts = [] ∨ payoutMinor ≤ 0 then []
  else takeFrom debts (min (payoutMinor * percent / 100) (max 0 (payoutMinor - max 0 floorMinor)))

def planTotal (plan : List (Debt × ℤ)) : ℤ := (plan.map Prod.snd).sum

lemma planTotal_takeFrom_le (debts : List Debt) {left : ℤ} (hleft : 0 ≤ left) :
    planTotal (takeFrom debts left) ≤ left := by
  induction debts generalizing left with
  | nil => simpa [takeFrom, planTotal] using hleft
  | cons debt debts ih =>
      by_cases htake : 0 < min debt.remainingMinor left
      · have hleft' : 0 ≤ left - min debt.remainingMinor left := by omega
        have hrest := ih hleft'
        rw [takeFrom, if_pos htake]
        simp only [planTotal, List.map_cons, List.sum_cons] at hrest ⊢
        omega
      · rw [takeFrom, if_neg htake]
        exact ih hleft

/-- A deduction leaves a payout that was positive nonnegative. -/
lemma planTotal_planDeduction_le (debts : List Debt) {payoutMinor : ℤ} (floorMinor : ℤ)
    (percent : ℕ) (hpos : 0 < payoutMinor) :
    planTotal (planDeduction debts payoutMinor floorMinor percent) ≤ payoutMinor := by
  rw [planDeduction]
  split
  · simpa [planTotal] using hpos.le
  · have hshare : 0 ≤ payoutMinor * percent / 100 := by positivity
    have hcap : 0 ≤ min (payoutMinor * percent / 100)
        (max 0 (payoutMinor - max 0 floorMinor)) := by omega
    have htotal := planTotal_takeFrom_le
      (debts.filter fun d => 0 < d.remainingMinor) hcap
    omega

/-! ## Opening a withdrawal -/

/-- The row of a new withdrawal. -/
def newWithdrawal (id driver : ℕ) (amountMinor : ℤ) (currency : Currency) (origin : Origin)
    (notes : Option String) (feeMinor : ℤ) : Withdrawal where
  id := id
  driver := driver
  amountMinor := amountMinor
  currency := currency
  payoutMethod := .upi
  status := .pending
  processedAt := none
  adminNotes := notes
  payoutReferenceId := none
  payoutStatus := none
  payoutMode := none
  failureCount := 0
  lastFailureAt := none
  failureReason := none
  feeMinor := feeMinor
  origin := origin

/-- The ledger row that takes the amount of a withdrawal out of the wallet. -/
def debitRow (w : Withdrawal) (userId : ℕ) (currency : Currency) (key : Ref) :
    WalletTransaction where
  userId := userId
  amountMinor := w.amountMinor
  currency := currency
  txnType := .debit
  status := .pending
  purpose := .withdrawal
  referenceId := .withdrawal w.id
  idempotencyKey := key

/-- The ledger row of one deduction (`apply_deduction`). -/
def deductionRow (w : Withdrawal) (userId : ℕ) (derived : Option Currency) (debt : Debt)
    (amount : ℤ) : WalletTransaction where
  userId := userId
  amountMinor := amount
  currency := Wallets.stampCurrency (some debt.currency) derived
  txnType := .debit
  status := .completed
  purpose := .rewardRecovery
  referenceId := .recovery debt.approvalRequest
  idempotencyKey := .recoveryDeduction debt.id w.id

/-- Open the withdrawal `w`, debit it under a fresh key, take the gross amount from the
wallet and write the deductions: all of it, or nothing when a row is refused. -/
def openWithdrawal (db : Db) (wallet : Wallet) (w : Withdrawal) (rowCurrency : Currency)
    (grossMinor : ℤ) (plan : List (Debt × ℤ)) (nonce : String) : Option Db :=
  let userId := db.userOf w
  let derived := db.wallets.derivedCurrency userId
  let rows := debitRow w userId rowCurrency (.withdrawalDebit w.id nonce) ::
    plan.map fun d => deductionRow w userId derived d.1 d.2
  (db.ledger.insertAll rows).map fun ledger =>
    { db with
      withdrawals := db.withdrawals.put w
      nextId := db.nextId + 1
      wallets := db.wallets.addMinor wallet (-grossMinor)
      ledger }

/-- The input of a driver's request. -/
structure RequestInput where
  driver : ℕ
  now : ℕ
  config : Option PayoutConfig
  payoutHold : Bool
  hasHandle : Bool
  /-- the amount, when the body is valid: a positive number of minor units -/
  amountMinor : Option ℤ
  heldMinor : ℤ
  debts : List Debt
  nonce : String

/-- `is_withdrawal_blocked`: within seven days of the last payout. -/
def isWithdrawalBlocked (d : Driver) (now : ℕ) : Bool :=
  match d.lastWithdrawalAt with
  | none => false
  | some t => now < t + 7 * 24 * 60 * 60

def hasUpiId (d : Driver) : Bool :=
  match d.upiId with
  | some t => t.toList.any fun c => !isBlank c
  | none => false

/-- `driver_withdrawal_request`: the code of the refusal, or the database with the
withdrawal opened. -/
def requestWithdrawal (db : Db) (i : RequestInput) : Except String Db :=
  let d := db.drivers i.driver
  match i.config with
  | none => .error "WITHDRAWALS_NOT_AVAILABLE"
  | some config =>
      if i.payoutHold || db.hasOpenConflict i.driver then .error "PAYOUT_ON_HOLD"
      else if !(hasUpiId d || i.hasHandle) then .error "PAYOUT_DETAILS_MISSING"
      else if isWithdrawalBlocked d i.now then .error "WITHDRAWAL_BLOCKED"
      else
        match i.amountMinor with
        | none => .error "VALIDATION_ERROR"
        | some gross =>
            if gross < 1 then .error "VALIDATION_ERROR"
            else
              let wallet := db.wallets.getWallet d.userId .driver
              let available := max 0 (wallet.balanceMinor - i.heldMinor)
              if gross < config.minimumWithdrawalMinor ∨ available < gross then
                .error "INSUFFICIENT_BALANCE"
              else
                let plan := planDeduction i.debts gross config.minimumWithdrawalMinor
                  config.recoveryMaxPercent
                let amount := gross - planTotal plan
                let fee := withdrawalFee config amount
                if amount ≤ fee then .error "AMOUNT_BELOW_FEE"
                else
                  -- the wallet row exists now, so its currency is the one derived
                  let db := { db with wallets := db.wallets.put wallet }
                  let currency := db.derivedStamp d.userId
                  let w := newWithdrawal db.nextId i.driver amount currency .driver none fee
                  match openWithdrawal db wallet w currency gross plan i.nonce with
                  | none => .error "INTERNAL_ERROR"
                  | some db => .ok db

/-- `OPEN_STATUSES`: while a driver has a withdrawal in one of these the weekly run skips
the driver. -/
def openStatuses : List WithdrawalStatus :=
  [.pending, .approved, .processed, .unresolved, .conflict]

/-- The input of the weekly run for one driver. -/
structure ScheduleInput where
  driver : ℕ
  config : PayoutConfig
  inCountry : Bool
  payoutHold : Bool
  heldMinor : ℤ
  debts : List Debt
  nonce : String

def scheduledReason : String := "scheduled weekly payout"

/-- `_create_one` of the weekly run: the withdrawal it opens, or nothing when the driver
no longer qualifies. -/
def createScheduled (db : Db) (i : ScheduleInput) : Option Db :=
  let d := db.drivers i.driver
  let floor := max 1 i.config.minimumWithdrawalMinor
  match db.wallets.get? (d.userId, .driver) with
  | none => none
  | some wallet =>
      if wallet.currency ≠ i.config.currency ∨ wallet.balanceMinor < floor then none
      else if !i.inCountry then none
      else if db.withdrawals.rows.any fun w => w.driver = i.driver && w.status ∈ openStatuses then
        none
      else if i.payoutHold then none
      else
        let gross := wallet.balanceMinor - i.heldMinor
        if gross < floor then none
        else
          let plan := planDeduction i.debts gross floor i.config.recoveryMaxPercent
          let amount := gross - planTotal plan
          let fee := withdrawalFee i.config amount
          if amount ≤ fee then none
          else
            let stamp := Wallets.stampCurrency (some i.config.currency)
              (db.wallets.derivedCurrency d.userId)
            let w := newWithdrawal db.nextId i.driver amount stamp .scheduled
              (some scheduledReason) fee
            openWithdrawal db wallet w stamp gross plan i.nonce

/-! ## Deciding on a withdrawal -/

/-- `_approve_one` of the approval executor: the withdrawal it released. -/
def approveOne (db : Db) (id : ℕ) (hasHandle : Bool) (now : ℕ) : Option (Withdrawal × Db) :=
  match db.withdrawals.get? id with
  | none => none
  | some w =>
      if w.status ≠ .pending then none
      else if !(hasUpiId (db.drivers w.driver) || hasHandle) then none
      else if db.hasOpenConflict w.driver then none
      else
        let w := { w with status := .approved, processedAt := some now }
        let db := db.save w [.status, .processedAt]
        some (w, { db with approvedAudit := id :: db.approvedAudit })

/-- `reject_one`: the code of the refusal, or the database with the funds returned. -/
def rejectOne (db : Db) (id : ℕ) (reason : String) (now : ℕ) : Except String Db :=
  match db.withdrawals.get? id with
  | none => .error "NOT_FOUND"
  | some w =>
      if w.status ≠ .pending then .error "INVALID_STATUS"
      else
        match db.driverWallet? w with
        | none => .error "WALLET_NOT_FOUND"
        | some wallet =>
            let ref := Ref.refundRejectedWithdrawal w.id
            let rejected := { w with
              status := .rejected, adminNotes := some reason, processedAt := some now }
            let fields : List Field := [.status, .adminNotes, .processedAt]
            if hasRefund db.ledger.rows ref .refundRejectedWithdrawal then
              .ok (db.save rejected fields)
            else
              match db.ledger.insert? (refundRow w (db.userOf w) (db.derivedStamp (db.userOf w))
                  .refundRejectedWithdrawal ref) with
              | none => .error "INTERNAL_ERROR"
              | some ledger =>
                  .ok ({ db with
                    wallets := db.wallets.addMinor wallet w.amountMinor, ledger }.save
                      rejected fields)

/-- The transaction of `retry_failed`: the code of the refusal, or the withdrawal to send
and the database with the wallet debited again. -/
def retryDebit (db : Db) (id : ℕ) : Except String (Withdrawal × Db) :=
  match db.withdrawals.get? id with
  | none => .error "NOT_FOUND"
  | some w =>
      if w.status ≠ .failed then .error "NOT_FAILED"
      else if !db.wasApproved w then .error "NOT_APPROVED"
      else if truthy w.payoutReferenceId then .error "PAYOUT_HAS_REFERENCE"
      else
        match db.driverWallet? w with
        | none => .error "WALLET_BALANCE_TOO_LOW"
        | some wallet =>
            if wallet.balanceMinor < w.amountMinor then .error "WALLET_BALANCE_TOO_LOW"
            else
              let attempt := retryAttempts db.ledger.rows w.id + 1
              match db.ledger.insert? (debitRow w (db.userOf w) (db.derivedStamp (db.userOf w))
                  (.withdrawalRetry w.id attempt)) with
              | none => .error "INTERNAL_ERROR"
              | some ledger =>
                  let w := { w with
                    status := .approved
                    failureCount := 0
                    lastFailureAt := none
                    failureReason := none }
                  .ok (w, { db with
                    wallets := db.wallets.addMinor wallet (-w.amountMinor), ledger }.save w
                      [.status, .failureCount, .lastFailureAt, .failureReason])

/-! ## The payout system -/

/-- Run the dispatcher alone on an instance; the choices decide every outcome, and where
they end the process has died. -/
def dispatch (s : World) (env : DispatchEnv) (w : Withdrawal) (es : List Choice) : World :=
  (Prog.runAlone exec (triggerPayoutCreation env w) es s).2

/-- What can happen to the withdrawals. -/
inductive Act where
  /-- a driver asks for a withdrawal -/
  | request (i : RequestInput)
  /-- the weekly run opens one -/
  | schedule (i : ScheduleInput)
  /-- the approval executor releases one and dispatches it -/
  | approve (id : ℕ) (hasHandle : Bool) (env : DispatchEnv) (es : List Choice)
  | reject (id : ℕ) (reason : String) (now : ℕ)
  /-- one is dispatched from its row: a batch, or a payout released from `awaiting_rail` -/
  | dispatch (id : ℕ) (env : DispatchEnv) (es : List Choice)
  | retryFailed (id : ℕ) (env : DispatchEnv) (es : List Choice)
  | webhook (p : Payload) (now : ℕ)
  /-- the balance of a wallet is moved by something else -/
  | otherMoney (w : Wallet) (delta : ℤ)

/-- One action on the payout system. -/
def step (s : World) : Act → World
  | .request i =>
      match requestWithdrawal s.db i with
      | .ok db => { s with db }
      | .error _ => s
  | .schedule i =>
      match createScheduled s.db i with
      | some db => { s with db }
      | none => s
  | .approve id hasHandle env es =>
      match approveOne s.db id hasHandle env.now with
      | some (w, db) => dispatch { s with db } env w es
      | none => s
  | .reject id reason now =>
      match rejectOne s.db id reason now with
      | .ok db => { s with db }
      | .error _ => s
  | .dispatch id env es =>
      match s.db.withdrawals.get? id with
      | some w => dispatch s env w es
      | none => s
  | .retryFailed id env es =>
      match retryDebit s.db id with
      | .ok (w, db) => dispatch { s with db } env w es
      | .error _ => s
  | .webhook p now => { s with db := (handlePayoutWebhook s.db p now).2 }
  | .otherMoney w delta =>
      match s.db.wallets.get? w.key with
      | some w => { s with db := { s.db with wallets := s.db.wallets.addMinor w delta } }
      | none => s

/-! ### A driver to run the code on -/

/-- A driver with a wallet, and no withdrawal yet. -/
def oneDriver : Db where
  withdrawals := .empty
  nextId := 1
  wallets := Table.empty.put ⟨7, .driver, 50000, .inr⟩
  ledger := .empty
  approvedAudit := []
  drivers := fun _ => ⟨7, some "driver@upi", none⟩

/-- The driver asks for a hundred rupees. -/
def askHundred : RequestInput where
  driver := 3
  now := 1000
  config := some ⟨.inr, 10000, 0, 0⟩
  payoutHold := false
  hasHandle := false
  amountMinor := some 10000
  heldMinor := 0
  debts := []
  nonce := "n1"

/-- The provider reports the transfer of the first withdrawal as failed. -/
def transferFailed : Payload where
  event := "TRANSFER_FAILED"
  transferId := none
  payoutId := none
  cfTransferId := none
  referenceId := some "withdrawal_1_driver_3"
  status := some "FAILED"
  failureReason := "Rejected by the bank"

/-- The payout goes out over UPI. -/
def upiEnv : DispatchEnv where
  now := 2000
  upiId := some "driver@upi"
  upiValidation := fun _ => (true, "")
  payoutCountry := "IN"
  gatewayConfigured := true

def providerAccepts : Choice := ⟨none, .accepted ⟨some "payout_1", some "created"⟩⟩

end SaaradhiGo.Payouts
