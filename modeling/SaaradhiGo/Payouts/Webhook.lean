/-
The payout webhook handler, `_handle_cashfree_payout_webhook`.

A delivery names an event and up to four identifiers.  The withdrawal is looked up
without a lock; then one transaction with the row locked re-reads it and applies the
event.  Deliveries of both providers reach this handler in the same shape.
-/
import SaaradhiGo.Payouts.Withdrawal

namespace SaaradhiGo.Payouts

open SaaradhiGo.Money

/-- The events the handler distinguishes. -/
inductive PayoutEvent where
  | success
  | failed
  | pending
  | reversed
  | other
deriving DecidableEq, Repr

/-- The event of a payload's `event` text. -/
def PayoutEvent.ofText (event : String) : PayoutEvent :=
  if event = "TRANSFER_SUCCESS" ∨ event = "PAYOUT_SUCCESS" then .success
  else if event = "TRANSFER_FAILED" ∨ event = "PAYOUT_FAILED" then .failed
  else if event = "PAYOUT_PENDING" then .pending
  else if event = "TRANSFER_REVERSED" ∨ event = "PAYOUT_REVERSED" then .reversed
  else .other

/-- The payload of a delivery. -/
structure Payload where
  event : String
  transferId : Option String
  payoutId : Option String
  cfTransferId : Option String
  referenceId : Option String
  status : Option String
  failureReason : String
deriving DecidableEq, Repr

/-- The answers of the handler, all of them with status 200. -/
inductive WebhookAnswer where
  | noIdentifier
  | withdrawalNotFound
  | alreadyProcessed
  | conflict
  | ok
deriving DecidableEq, Repr

def isBlank (c : Char) : Bool := c.isWhitespace || c = '\x0b' || c = '\x0c'

/-- `int(text)` on a text of ASCII characters: blanks around it and a sign are allowed. -/
def pyInt (text : List Char) : Option ℤ :=
  let body := ((text.dropWhile isBlank).reverse.dropWhile isBlank).reverse
  let digits (ds : List Char) : Option ℤ :=
    if ds ≠ [] ∧ ds.all Char.isDigit then
      some (ds.foldl (fun n c => 10 * n + (c.toNat - '0'.toNat : ℕ)) 0)
    else none
  match body with
  | '-' :: ds => (digits ds).map fun n => -n
  | '+' :: ds => digits ds
  | ds => digits ds

/-- The id in `withdrawal_<id>_driver_<driver_id>`: the second part of the text split at
the underscores, when the text starts with `withdrawal_`. -/
def withdrawalIdOf (reference : String) : Option ℤ :=
  if "withdrawal_".toList.isPrefixOf reference.toList then
    match reference.toList.splitOn '_' with
    | _ :: part :: _ => pyInt part
    | _ => none
  else none

def byPayoutReference (db : Db) (reference : String) : Option Withdrawal :=
  db.withdrawals.rows.reverse.find? fun w => w.payoutReferenceId = some reference

/-- The withdrawal a delivery is about. -/
def findWithdrawal (db : Db) (p : Payload) : Option Withdrawal :=
  let payoutId := orText p.transferId p.payoutId
  let referenceId := orText p.cfTransferId p.referenceId
  let byPayout := if truthy payoutId then byPayoutReference db (payoutId.getD "") else none
  let byReference := if truthy referenceId then byPayoutReference db (referenceId.getD "") else none
  let byOurs :=
    if truthy referenceId then
      (withdrawalIdOf (referenceId.getD "")).bind fun i =>
        if 0 ≤ i then db.withdrawals.get? i.toNat else none
    else none
  (byPayout.or byReference).or byOurs

lemma byPayoutReference_mem {db : Db} {reference : String} {w : Withdrawal}
    (h : byPayoutReference db reference = some w) : w ∈ db.withdrawals.rows :=
  List.mem_reverse.mp (List.mem_of_find?_eq_some h)

/-- The withdrawal found is the row as it stands. -/
lemma get?_of_findWithdrawal {db : Db} {p : Payload} {w : Withdrawal}
    (h : findWithdrawal db p = some w) : db.withdrawals.get? w.id = some w := by
  apply Table.mem_iff_get?.mp
  simp only [findWithdrawal, Option.or_eq_some_iff, Option.ite_none_right_eq_some] at h
  rcases h with (⟨-, h⟩ | ⟨-, -, h⟩) | ⟨-, -, h⟩
  · exact byPayoutReference_mem h
  · exact byPayoutReference_mem h
  · obtain ⟨i, -, hi⟩ := Option.bind_eq_some_iff.mp h
    split at hi
    · exact (Table.mem_of_get? hi).1
    · cases hi

def refundedStatuses : List WithdrawalStatus := [.failed, .rejected]

/-- `payout_conflict.freeze`: no money moves. -/
def freeze (db : Db) (w : Withdrawal) (status : Option String) : Db :=
  db.save { w with
    status := .conflict
    payoutStatus := some (if truthy status then status.getD "" else "success")
    failureReason :=
      some "The provider reported this payout paid after it had failed and been refunded" }
    [.status, .payoutStatus, .failureReason]

/-- `payout_conflict.reverse_conflict`: the refund stands. -/
def reverseConflict (db : Db) (w : Withdrawal) (status : Option String) : Db :=
  db.save { w with
    status := .failed
    payoutStatus := some (if truthy status then status.getD "" else "reversed")
    failureReason :=
      some "Reported paid after the refund, then reversed: the refund stands" }
    [.status, .payoutStatus, .failureReason]

/-- `payout_reversal.reverse_paid_payout`: a credit under its own key, once; the status
is left as it was when the credit has been written before. -/
def reversePaidPayout (db : Db) (w : Withdrawal) (status : Option String) : Db :=
  let userId := db.userOf w
  let wallet := db.wallets.getWallet userId .driver
  let row := refundRow w userId
    (Wallets.stampCurrency (some w.currency) (db.wallets.derivedCurrency userId))
    .refundReversedWithdrawal (.refundReversedWithdrawal w.id)
  match db.ledger.insert? row with
  | none => db
  | some ledger =>
      { db with wallets := db.wallets.addMinor wallet w.amountMinor, ledger }.save
        { w with
          status := .reversed
          payoutStatus := some (if truthy status then status.getD "" else "reversed")
          failureReason := some "The payout was paid, then reversed by the bank" }
        [.status, .payoutStatus, .failureReason]

def providerFailureFields : List Field :=
  [.status, .payoutStatus, .failureReason, .failureCount]

/-- A payout the provider failed or reversed before it was paid: it is marked failed and
the wallet is refunded, both or neither. -/
def failAtProvider (db : Db) (w : Withdrawal) (payoutStatus reason : String) : DbAnswer × Db :=
  let w' := { w with
    status := .failed
    payoutStatus := some payoutStatus
    failureReason := some reason
    failureCount := w.failureCount + 1 }
  let ref := failedRefundReference db.ledger.rows w.id
  match refundFailed (db.save w' providerFailureFields) w' ref with
  | (.raised m, _) => (.raised m, db)
  | answer => answer

/-- The event is applied to the locked row `w`.  A transaction that raises is rolled back
and answered with an error. -/
def applyEvent (db : Db) (w : Withdrawal) (p : Payload) (now : ℕ) :
    Except String WebhookAnswer × Db :=
  let orDefault (default : String) : String :=
    if truthy p.status then p.status.getD "" else default
  match PayoutEvent.ofText p.event with
  | .success =>
      if w.status = .completed ∨ w.status = .reversed ∨ w.status = .conflict then
        (.ok .alreadyProcessed, db)
      else if w.status ∈ refundedStatuses then (.ok .conflict, freeze db w p.status)
      else
        let db := db.save { w with
          status := .completed
          payoutStatus := some (orDefault "success")
          failureReason := none } [.status, .payoutStatus, .failureReason]
        (.ok .ok, { db with
          drivers := Function.update db.drivers w.driver
            { db.drivers w.driver with lastWithdrawalAt := some now } })
  | .failed =>
      if w.status = .completed ∨ w.status = .failed ∨ w.status = .conflict ∨
          w.status = .reversed then
        (.ok .alreadyProcessed, db)
      else
        match failAtProvider db w (orDefault "failed")
            (if p.failureReason = "" then "Payout failed via Cashfree webhook"
              else sliceTo 255 p.failureReason) with
        | (.raised m, db) => (.error m, db)
        | (_, db) => (.ok .ok, db)
  | .pending =>
      if w.status = .completed ∨ w.status = .failed then (.ok .ok, db)
      else (.ok .ok, db.save { w with payoutStatus := some (orDefault "pending") } [.payoutStatus])
  | .reversed =>
      if w.status = .completed then (.ok .ok, reversePaidPayout db w p.status)
      else if w.status = .conflict then (.ok .ok, reverseConflict db w p.status)
      else if w.status = .failed ∨ w.status = .reversed then (.ok .alreadyProcessed, db)
      else
        match failAtProvider db w (orDefault "reversed") "Cashfree payout was reversed" with
        | (.raised m, db) => (.error m, db)
        | (_, db) => (.ok .ok, db)
  | .other => (.ok .ok, db)

/-! ### What an event leaves alone -/

section Frame

variable {db : Db} {w : Withdrawal} {i : ℕ}

lemma get?_failAtProvider_of_ne {payoutStatus reason : String} (hi : i ≠ w.id) :
    (failAtProvider db w payoutStatus reason).2.withdrawals.get? i = db.withdrawals.get? i := by
  rw [failAtProvider]
  generalize hw' : ({ w with
    status := .failed
    payoutStatus := some payoutStatus
    failureReason := some reason
    failureCount := w.failureCount + 1 } : Withdrawal) = w'
  have hid : i ≠ w'.id := by
    subst hw'
    exact hi
  have hrefund := withdrawals_refundFailed (db.save w' providerFailureFields) w'
    (failedRefundReference db.ledger.rows w.id)
  revert hrefund
  rcases refundFailed (db.save w' providerFailureFields) w'
    (failedRefundReference db.ledger.rows w.id) with ⟨answer, db'⟩
  intro hrefund
  have hget : db'.withdrawals.get? i = db.withdrawals.get? i := by
    rw [hrefund, Db.get?_save_of_ne _ _ _ hid]
  cases answer with
  | raised m => rfl
  | done => exact hget
  | already => exact hget

/-- An event touches no row but the one it is applied to. -/
lemma get?_applyEvent_of_ne {p : Payload} {now : ℕ} (hi : i ≠ w.id) :
    (applyEvent db w p now).2.withdrawals.get? i = db.withdrawals.get? i := by
  have hfail : ∀ payoutStatus reason,
      (match failAtProvider db w payoutStatus reason with
        | (.raised m, db) => ((.error m, db) : Except String WebhookAnswer × Db)
        | (_, db) => (.ok .ok, db)).2.withdrawals.get? i = db.withdrawals.get? i := by
    intro payoutStatus reason
    have hget : (failAtProvider db w payoutStatus reason).2.withdrawals.get? i
        = db.withdrawals.get? i := get?_failAtProvider_of_ne hi
    revert hget
    rcases failAtProvider db w payoutStatus reason with ⟨answer, db'⟩
    cases answer <;> exact id
  rw [applyEvent]
  cases PayoutEvent.ofText p.event with
  | success =>
      dsimp only
      split
      · rfl
      split
      · exact Db.get?_save_of_ne _ _ _ hi
      · exact Db.get?_save_of_ne _ _ _ hi
  | failed =>
      dsimp only
      split
      · rfl
      · exact hfail _ _
  | pending =>
      dsimp only
      split
      · rfl
      · exact Db.get?_save_of_ne _ _ _ hi
  | reversed =>
      dsimp only
      split
      · simp only [reversePaidPayout]
        split
        · rfl
        · exact Db.get?_save_of_ne _ _ _ hi
      split
      · exact Db.get?_save_of_ne _ _ _ hi
      split
      · rfl
      · exact hfail _ _
  | other => rfl

end Frame

/-- `_handle_cashfree_payout_webhook`. -/
def handlePayoutWebhook (db : Db) (p : Payload) (now : ℕ) : Except String WebhookAnswer × Db :=
  if !truthy (orText p.transferId p.payoutId) && !truthy (orText p.cfTransferId p.referenceId) then
    (.ok .noIdentifier, db)
  else
    match findWithdrawal db p with
    | none => (.ok .withdrawalNotFound, db)
    | some w => applyEvent db w p now

end SaaradhiGo.Payouts
