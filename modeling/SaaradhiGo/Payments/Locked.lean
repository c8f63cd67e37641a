/-
What the entry points do to the payments in their transactions.

Every transaction here locks a payment row, reads it again and decides on the row it read;
`none` is a transaction that raises and is rolled back.  The three decisions on an order
that was paid (verify, the webhook, and the poll that the reconciliation shares) differ in
what they test and in what they save.
-/
import SaaradhiGo.Payments.Payment

namespace SaaradhiGo.Payments

/-! ## An order that was paid -/

/-- What was decided about an order that was paid. -/
inductive Decision where
  | settled
  /-- it is recorded, and its refund is scheduled -/
  | late
  | inHand
  | alreadyCompleted
deriving DecidableEq, Repr

def recordLate (db : Db) (payment : Payment) (provider : Provider) (taken : Option PaymentId)
    (order : OrderId) : Option (Decision × Db) :=
  (record db payment provider taken order).map fun (new, db) =>
    (if new then .late else .inHand, db)

/-- The payment that `payment` replaces is marked failed. -/
def failReplaced (db : Db) (payment : ℕ) : Option Db :=
  match db.payments.rows.find? fun q => q.replacedBy = some payment with
  | none => some db
  | some original => db.save { original with status := .failed }

/-- The decision of `verify_payment`; `verifiedId` is the gateway payment of the instance it
verified. -/
def verifyLocked (db : Db) (payment : ℕ) (provider : Provider) (order : OrderId)
    (verifiedId : Option PaymentId) : Option (Decision × Db) :=
  match db.payments.get? payment with
  | none => none
  | some p =>
      if isLateCapture p order verifiedId then recordLate db p provider verifiedId order
      else if p.status = .completed then some (.alreadyCompleted, db)
      else
        let p := { p with gatewayPaymentId := verifiedId }
        if superseded db p then recordLate db p provider verifiedId order
        else
          ((db.save { settledBy p order with status := .completed }).bind fun db =>
            failReplaced db p.id).map fun db => (.settled, db)

/-- `str` of a gateway payment id. -/
def strId (paymentId : Option PaymentId) : PaymentId := paymentId.getD "None"

/-- The decision of `_handle_cashfree_webhook`. -/
def webhookLocked (db : Db) (payment : ℕ) (provider : Provider) (order : OrderId)
    (paymentId : Option PaymentId) : Option (Decision × Db) :=
  match db.payments.get? payment with
  | none => none
  | some p =>
      if isLateCapture p order paymentId || (p.status ≠ .completed && superseded db p) then
        recordLate db p provider paymentId order
      else if p.status = .completed then some (.alreadyCompleted, db)
      else
        (db.save { settledBy p order with
          status := .completed
          gatewayPaymentId := some (strId paymentId) }).map fun db => (.settled, db)

/-- The decision of `_settle_payment_if_paid_at_gateway`, and of `reconcile_stuck_payments`;
`paymentId` is what the order status names. -/
def pollLocked (db : Db) (payment : ℕ) (provider : Provider) (order : OrderId)
    (paymentId : Option PaymentId) : Option (Decision × Db) :=
  match db.payments.get? payment with
  | none => none
  | some p =>
      if p.status = .completed then some (.alreadyCompleted, db)
      else if superseded db p then recordLate db p provider paymentId order
      else
        (db.save { settledBy p order with status := .completed }).map fun db => (.settled, db)

/-- Who learned that an order was paid. -/
inductive Source where
  | verify
  | webhook
  | poll
  | recon
deriving DecidableEq, Repr

/-- The decision, by who took it. -/
def settleLocked : Source → Db → ℕ → Provider → OrderId → Option PaymentId → Option (Decision × Db)
  | .verify => verifyLocked
  | .webhook => webhookLocked
  | .poll | .recon => pollLocked

/-! ## A new order -/

/-- The gateway order of a new payment; `none` when the gateway refused it. -/
structure Issued where
  provider : Provider
  order : Option OrderId
deriving DecidableEq, Repr

/-- What is found of the trip and its gateway inside `switch_payment_method`. -/
inductive SwitchTerms where
  /-- the rider owes nothing, or no gateway takes the trip's currency -/
  | refused
  | cash (amountMinor : ℤ)
  | online (amountMinor : ℤ) (issued : Issued)
deriving DecidableEq, Repr

def switchedPayment : SwitchTerms → Option Payment
  | .refused => none
  | .cash amountMinor => some
      { id := 0, amountMinor, method := .cash, status := .pending, paymentGateway := .cashfree
        gatewayOrderId := none, gatewayPaymentId := none, cashfreeOrderId := none
        replacedBy := none }
  | .online amountMinor issued => some
      { id := 0, amountMinor, method := .online, status := .pending
        paymentGateway := issued.provider, gatewayOrderId := issued.order
        gatewayPaymentId := none, cashfreeOrderId := issued.order, replacedBy := none }

/-- The transaction of `switch_payment_method`.  The payment is marked failed before the terms
are looked at, and an answer that refuses them keeps that.  The new payment is given with the
answer. -/
def switchLocked (db : Db) (payment : ℕ) (terms : SwitchTerms) : Option (Option ℕ × Db) :=
  match db.payments.get? payment with
  | none => none
  | some existing =>
      if existing.status = .completed then some (none, db)
      else
        (db.save { existing with status := .failed }).bind fun db =>
          match switchedPayment terms with
          | none => some (none, db)
          | some new =>
              (db.create new).bind fun (newId, db) =>
                (db.save { existing with
                  status := .failed
                  replacedBy := some newId }).map fun db => (some newId, db)

/-- The transaction of `retry_payment`: the payment is issued another order, unless it is
completed. -/
def retryLocked (db : Db) (payment : ℕ) (issued : Issued) : Option (Bool × Db) :=
  match db.payments.get? payment with
  | none => none
  | some p =>
      if p.status = .completed then some (false, db)
      else (db.save { p with
        gatewayOrderId := issued.order
        cashfreeOrderId := issued.order
        paymentGateway := issued.provider
        status := .processing }).map fun db => (true, db)

/-! ## The refund of a late payment -/

/-- What `late_paid.refund` finds after the commit: the gateway payment to refund with the
amount, or nothing when the refund has been made (`none`) or has to be made by hand
(`some none`). -/
def refundTaken (db : Db) (payment : ℕ) (order : OrderId) : Option (Option (PaymentId × ℤ)) :=
  match db.payments.get? payment with
  | none => none
  | some p =>
      let full (taken : Option PaymentId) := taken.map fun id => (id, p.amountMinor)
      match db.orders.get? order with
      | none =>
          if p.status = .refunded then none
          else some (full (if p.status = .completed then none else p.gatewayPaymentId))
      | some row =>
          if row.lateRefund = .refunded then none
          else some (full (row.latePaymentId <|>
            if p.status = .completed then none else p.gatewayPaymentId))

/-- The transaction at the end of `late_paid.refund`. -/
def refundLocked (db : Db) (payment : ℕ) (order : OrderId) (refunded : Bool) : Option Db :=
  match db.payments.get? payment with
  | none => none
  | some p =>
      let outcome : LateRefund := if refunded then .refunded else .manual
      let db := match db.orders.get? order with
        | none => db
        | some row => { db with orders := db.orders.put { row with lateRefund := outcome } }
      if p.status ≠ .completed ∧ refunded then db.save { p with status := .refunded } else some db

end SaaradhiGo.Payments
