/-
Withdrawal requests and the database the payout code works on.

The payout code holds a withdrawal in memory and saves only some of its columns, so the
row in the database and the instance in memory can differ; `Withdrawal.update` is what a
save with `update_fields` does to the row.
-/
import SaaradhiGo.Money.Wallet

namespace SaaradhiGo.Payouts

open SaaradhiGo.Money

/-- `WithdrawalRequest.STATUS_CHOICES`. -/
inductive WithdrawalStatus where
  | pending
  | approved
  | rejected
  | processed
  | completed
  | failed
  /-- the request was issued and its outcome was never learned -/
  | unresolved
  /-- paid, then reversed by the bank -/
  | reversed
  /-- reported paid after it had failed and been refunded -/
  | conflict
deriving DecidableEq, Repr

/-- How a withdrawal is paid out; the column is text, so a value outside the choices can
be stored. -/
inductive PayoutMethod where
  | bank
  | upi
  | other (text : String)
deriving DecidableEq, Repr

/-- Who asked for a withdrawal. -/
inductive Origin where
  | driver
  | scheduled
deriving DecidableEq, Repr

/-- A withdrawal request. -/
structure Withdrawal where
  id : ℕ
  driver : ℕ
  amountMinor : ℤ
  currency : Currency
  payoutMethod : PayoutMethod
  status : WithdrawalStatus
  processedAt : Option ℕ
  adminNotes : Option String
  payoutReferenceId : Option String
  payoutStatus : Option String
  payoutMode : Option String
  failureCount : ℕ
  lastFailureAt : Option ℕ
  failureReason : Option String
  feeMinor : ℤ
  origin : Origin
deriving DecidableEq, Repr

/-- The columns a save names in `update_fields`. -/
inductive Field where
  | status
  | processedAt
  | adminNotes
  | payoutReferenceId
  | payoutStatus
  | payoutMode
  | failureCount
  | lastFailureAt
  | failureReason
deriving DecidableEq, Repr

namespace Withdrawal

/-- Copy one column of the instance `w` into the row. -/
def copyField (w row : Withdrawal) : Field → Withdrawal
  | .status => { row with status := w.status }
  | .processedAt => { row with processedAt := w.processedAt }
  | .adminNotes => { row with adminNotes := w.adminNotes }
  | .payoutReferenceId => { row with payoutReferenceId := w.payoutReferenceId }
  | .payoutStatus => { row with payoutStatus := w.payoutStatus }
  | .payoutMode => { row with payoutMode := w.payoutMode }
  | .failureCount => { row with failureCount := w.failureCount }
  | .lastFailureAt => { row with lastFailureAt := w.lastFailureAt }
  | .failureReason => { row with failureReason := w.failureReason }

/-- The row after the instance `w` has been saved with `update_fields`. -/
def update (row w : Withdrawal) (fields : List Field) : Withdrawal :=
  fields.foldl (copyField w) row

/-- What no save of the payout code touches. -/
structure SameRequest (w w' : Withdrawal) : Prop where
  id : w'.id = w.id
  driver : w'.driver = w.driver
  amountMinor : w'.amountMinor = w.amountMinor
  currency : w'.currency = w.currency

namespace SameRequest

lemma refl (w : Withdrawal) : SameRequest w w := ⟨rfl, rfl, rfl, rfl⟩

lemma trans {w w' w'' : Withdrawal} (h : SameRequest w w') (h' : SameRequest w' w'') :
    SameRequest w w'' :=
  ⟨h'.id.trans h.id, h'.driver.trans h.driver, h'.amountMinor.trans h.amountMinor,
    h'.currency.trans h.currency⟩

lemma symm {w w' : Withdrawal} (h : SameRequest w w') : SameRequest w' w :=
  ⟨h.id.symm, h.driver.symm, h.amountMinor.symm, h.currency.symm⟩

end SameRequest

lemma sameRequest_copyField (w row : Withdrawal) (f : Field) :
    SameRequest row (copyField w row f) := by
  cases f <;> exact ⟨rfl, rfl, rfl, rfl⟩

/-- A save changes neither the request's id, nor its driver, nor its amount. -/
lemma sameRequest_update (row w : Withdrawal) (fields : List Field) :
    SameRequest row (row.update w fields) := by
  induction fields generalizing row with
  | nil => exact SameRequest.refl row
  | cons f fields ih => exact (sameRequest_copyField w row f).trans (ih _)

lemma status_copyField (w row : Withdrawal) (f : Field) :
    (copyField w row f).status = if f = .status then w.status else row.status := by
  cases f <;> rfl

/-- The status after a save: the instance's if the save names it, else the row's. -/
lemma status_update (row w : Withdrawal) (fields : List Field) :
    (row.update w fields).status = if .status ∈ fields then w.status else row.status := by
  induction fields generalizing row with
  | nil => rfl
  | cons f fields ih =>
      rw [update, List.foldl_cons, ← update, ih, status_copyField]
      by_cases hf : f = .status <;> simp [hf, eq_comm]

end Withdrawal

/-- What the payout code reads of a driver. -/
structure Driver where
  userId : ℕ
  upiId : Option String
  lastWithdrawalAt : Option ℕ
deriving DecidableEq, Repr

/-- The part of the database the payout code reads and writes. -/
structure Db where
  /-- `WithdrawalRequest`, in the order of creation. -/
  withdrawals : Table Withdrawal.id
  /-- The next primary key of a withdrawal request. -/
  nextId : ℕ
  wallets : Wallets
  ledger : Ledger
  /-- The withdrawals with an audit row `withdrawal_approved`. -/
  approvedAudit : List ℕ
  drivers : ℕ → Driver

/-- Python's truth of an optional text: `None` and the empty text are false. -/
def truthy (t : Option String) : Bool :=
  match t with
  | some s => s != ""
  | none => false

/-- `a or b` on optional texts. -/
def orText (a b : Option String) : Option String :=
  if truthy a then a else b

/-- `text[:n]`. -/
def sliceTo (n : ℕ) (text : String) : String :=
  String.ofList (text.toList.take n)

namespace Db

def userOf (db : Db) (w : Withdrawal) : ℕ := (db.drivers w.driver).userId

def driverWallet? (db : Db) (w : Withdrawal) : Option Wallet :=
  db.wallets.get? (db.userOf w, .driver)

def derivedStamp (db : Db) (userId : ℕ) : Currency :=
  Wallets.stampCurrency none (db.wallets.derivedCurrency userId)

def hasOpenConflict (db : Db) (driver : ℕ) : Bool :=
  db.withdrawals.rows.any fun w => w.driver = driver && w.status = .conflict

def wasApproved (db : Db) (w : Withdrawal) : Bool := db.approvedAudit.contains w.id

/-- The instance `w` is saved with `update_fields`. -/
def save (db : Db) (w : Withdrawal) (fields : List Field) : Db :=
  match db.withdrawals.get? w.id with
  | none => db
  | some row => { db with withdrawals := db.withdrawals.put (row.update w fields) }

/-- The wallet of a withdrawal is that of its driver, so saves do not change it. -/
lemma driverWallet?_congr {db : Db} {w w' : Withdrawal} (h : w.SameRequest w') :
    db.driverWallet? w' = db.driverWallet? w := by
  rw [driverWallet?, driverWallet?, userOf, userOf, h.driver]

section Save

variable (db : Db) (w : Withdrawal) (fields : List Field)

@[simp] lemma ledger_save : (db.save w fields).ledger = db.ledger := by
  rw [save]
  split <;> rfl

@[simp] lemma wallets_save : (db.save w fields).wallets = db.wallets := by
  rw [save]
  split <;> rfl

@[simp] lemma nextId_save : (db.save w fields).nextId = db.nextId := by
  rw [save]
  split <;> rfl

@[simp] lemma drivers_save : (db.save w fields).drivers = db.drivers := by
  rw [save]
  split <;> rfl

@[simp] lemma driverWallet?_save (x : Withdrawal) :
    (db.save w fields).driverWallet? x = db.driverWallet? x := by
  simp [driverWallet?, userOf]

lemma save_withMoney (wallets : Wallets) (ledger : Ledger) :
    { db with wallets, ledger }.save w fields = { db.save w fields with wallets, ledger } := by
  cases hrow : db.withdrawals.get? w.id <;> simp [save, hrow]

lemma get?_save (i : ℕ) : (db.save w fields).withdrawals.get? i
    = if i = w.id then (db.withdrawals.get? i).map (·.update w fields)
      else db.withdrawals.get? i := by
  rw [save]
  by_cases hi : i = w.id
  · subst hi
    cases hrow : db.withdrawals.get? w.id with
    | none => simp [hrow]
    | some row =>
        have hid : (row.update w fields).id = w.id :=
          (Withdrawal.sameRequest_update row w fields).id.trans (Table.pk_of_get? hrow)
        simpa [hid] using Table.get?_put_self db.withdrawals (row.update w fields)
  · rw [if_neg hi]
    cases hrow : db.withdrawals.get? w.id with
    | none => rfl
    | some row =>
        have hid : (row.update w fields).id = w.id :=
          (Withdrawal.sameRequest_update row w fields).id.trans (Table.pk_of_get? hrow)
        exact Table.get?_put_of_ne _ (by rwa [hid])

lemma get?_save_self {db : Db} {w row : Withdrawal} {fields : List Field}
    (h : db.withdrawals.get? w.id = some row) :
    (db.save w fields).withdrawals.get? w.id = some (row.update w fields) := by
  rw [get?_save, if_pos rfl, h]
  rfl

lemma get?_save_of_ne {i : ℕ} (h : i ≠ w.id) :
    (db.save w fields).withdrawals.get? i = db.withdrawals.get? i := by
  rw [get?_save, if_neg h]

lemma status_of_get?_save {db : Db} {w row row' : Withdrawal} {fields : List Field}
    (h' : (db.save w fields).withdrawals.get? w.id = some row')
    (h : db.withdrawals.get? w.id = some row) :
    row'.status = if .status ∈ fields then w.status else row.status := by
  rw [get?_save_self h, Option.some.injEq] at h'
  rw [← h', Withdrawal.status_update]

lemma mem_save {db : Db} {w : Withdrawal} {fields : List Field} {x : Withdrawal}
    (hx : x ∈ (db.save w fields).withdrawals.rows) :
    (∃ row, db.withdrawals.get? w.id = some row ∧ x = row.update w fields) ∨
      (x ∈ db.withdrawals.rows ∧ x.id ≠ w.id) := by
  rw [Table.mem_iff_get?, get?_save] at hx
  by_cases hi : x.id = w.id
  · rw [if_pos hi, hi, Option.map_eq_some_iff] at hx
    obtain ⟨row, hrow, rfl⟩ := hx
    exact Or.inl ⟨row, hrow, rfl⟩
  · rw [if_neg hi, ← Table.mem_iff_get?] at hx
    exact Or.inr ⟨hx, hi⟩

end Save

end Db

/-- The key of a retry of withdrawal `id`, which begins with `withdrawal_retry_<id>_`. -/
def isRetryKey (id : ℕ) : Ref → Bool
  | .withdrawalRetry i _ => i = id
  | _ => false

/-- `retry_attempts`: how many human retries this withdrawal already had. -/
def retryAttempts (l : List WalletTransaction) (id : ℕ) : ℕ :=
  l.countP fun t => isRetryKey id t.idempotencyKey

/-- `failed_refund_reference`: the reference, and idempotency key, of the refund for a
failed payout attempt. -/
def failedRefundReference (l : List WalletTransaction) (id : ℕ) : Ref :=
  let attempts := retryAttempts l id
  if attempts = 0 then .refundWithdrawal id else .refundWithdrawalAttempt id attempts

/-- The ledger row of a refund: a completed credit of the withdrawal's amount. -/
def refundRow (w : Withdrawal) (userId : ℕ) (currency : Currency) (purpose : Purpose)
    (ref : Ref) : WalletTransaction where
  userId := userId
  amountMinor := w.amountMinor
  currency := currency
  txnType := .credit
  status := .completed
  purpose := purpose
  referenceId := ref
  idempotencyKey := ref

/-- The query the refund paths ask before they write: is there a completed credit with
this reference and purpose. -/
def hasRefund (l : List WalletTransaction) (ref : Ref) (purpose : Purpose) : Bool :=
  l.any fun t => t.referenceId = ref && t.purpose = purpose && t.txnType = .credit &&
    t.status = .completed

/-- What a step of the database can answer: it was done, it was found done already, or
the database raised and its transaction was rolled back. -/
inductive DbAnswer where
  | done
  | already
  | raised (message : String)
deriving DecidableEq, Repr

/-- The refund of a failed payout, one transaction with the wallet locked:
`refund_failed_withdrawal` of the dispatcher and `refund_failed_payout` of the webhook. -/
def refundFailed (db : Db) (w : Withdrawal) (ref : Ref) : DbAnswer × Db :=
  match db.driverWallet? w with
  | none => (.raised "Wallet matching query does not exist.", db)
  | some wallet =>
      if hasRefund db.ledger.rows ref .refundFailedWithdrawal then (.already, db)
      else
        match db.ledger.insert? (refundRow w (db.userOf w) (db.derivedStamp (db.userOf w))
            .refundFailedWithdrawal ref) with
        | none => (.raised "duplicate key value violates unique constraint", db)
        | some ledger =>
            (.done, { db with wallets := db.wallets.addMinor wallet w.amountMinor, ledger })

lemma withdrawals_refundFailed (db : Db) (w : Withdrawal) (ref : Ref) :
    (refundFailed db w ref).2.withdrawals = db.withdrawals := by
  rw [refundFailed]
  split
  · rfl
  split
  · rfl
  split <;> rfl

end SaaradhiGo.Payouts
