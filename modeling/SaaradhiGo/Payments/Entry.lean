/-
The entry points that read and write the payments of a trip.

An entry point is a program over the world: its operations are the statements that read the
payments, the calls to the gateway, the transactions of `Locked`, and the saves that take no
lock.  The world has the payments, what the gateway captured, and books no code reads: the
payment each order was issued to, the orders that settled the trip, the late captures that
were recorded, and the captures the platform has answered for.
-/
import SaaradhiGo.Lib.Interleave
import SaaradhiGo.Payments.Locked

namespace SaaradhiGo.Payments

open Interleave

/-! ## The world -/

/-- The payments of a trip, the gateway, and the books. -/
structure World where
  db : Db
  issued : OrderId → Option ℕ
  amount : OrderId → ℤ
  captured : OrderId → Option PaymentId
  /-- the orders that settled the trip -/
  settled : List OrderId
  /-- the late captures that were recorded, with the gateway payment they were recorded under -/
  late : List (OrderId × Option PaymentId)
  /-- the captured orders the platform has answered for -/
  told : List OrderId

def World.tell (s : World) (order : OrderId) : World :=
  if (s.captured order).isSome then { s with told := order :: s.told } else s

def World.fresh (s : World) (order : Option OrderId) : Bool :=
  order.all fun o => (s.issued o).isNone

/-- The order belongs to the payment, and is for the amount. -/
def World.issue (s : World) (order : Option OrderId) (payment : ℕ) (amountMinor : ℤ) : World :=
  { s with
    issued := match order with
      | none => s.issued
      | some o => Function.update s.issued o (some payment)
    amount := match order with
      | none => s.amount
      | some o => Function.update s.amount o amountMinor }

/-! ## Operations -/

/-- The queries that pick a payment of the trip. -/
inductive Find where
  | completed
  | latest
  | latestOpen
  | latestFailed
  | stuck (payment : ℕ)
deriving DecidableEq, Repr

/-- The payment a query finds. -/
def Find.run (db : Db) : Find → Option Payment
  | .completed => db.payments.rows.find? fun p => p.status = .completed
  | .latest => db.payments.rows.getLast?
  | .latestOpen => (db.payments.rows.filter fun p => p.status ≠ .refunded).getLast?
  | .latestFailed => (db.payments.rows.filter fun p => p.status = .failed).getLast?
  | .stuck payment => (db.payments.get? payment).filter fun p =>
      (p.status = .pending || p.status = .processing) && p.cashfreeOrderId.isSome

/-- The operations of the entry points. -/
inductive PayOp where
  /-- `payment_for_order`, and the answers that end the matter there -/
  | lookUp (order : OrderId) (paymentId : Option PaymentId)
  | find (f : Find)
  | orderIds (p : Payment)
  /-- `gateway.get_order_status`, of the poll and the reconciliation -/
  | orderStatus (order : OrderId)
  /-- the webhook confirms the order and its amount with the gateway -/
  | confirm (p : Payment) (order : OrderId)
  /-- `gateway.verify_payment_signature` of Cashfree -/
  | verifySignature (order : OrderId)
  /-- `gateway.ensure_captured` of Razorpay -/
  | ensureCaptured (order : OrderId) (paymentId : PaymentId)
  /-- what the rider is to pay, when the trip can be paid -/
  | tripTerms
  /-- `gateway.create_order` -/
  | newOrder
  /-- the payment is marked failed and saved, without a lock -/
  | saveFailed (p : Payment)
  | saveIssued (p : Payment) (amountMinor : ℤ) (provider : Provider) (order : OrderId)
  | createIssued (amountMinor : ℤ) (provider : Provider) (order : OrderId)
  | remember (payment : ℕ) (order : OrderId) (provider : Provider)
  | settle (source : Source) (payment : ℕ) (provider : Provider) (order : OrderId)
      (taken : Option PaymentId)
  | switchMethod (payment : ℕ) (online : Bool)
  | retryIssue (payment : ℕ) (amountMinor : ℤ)
  | refundTaken (payment : ℕ) (order : OrderId)
  | createRefund (payment : ℕ) (order : OrderId) (taken : PaymentId) (amountMinor : ℤ)
  | refundDone (payment : ℕ) (order : OrderId) (refunded : Bool)
deriving DecidableEq

/-- What `payment_for_order` leads to. -/
inductive LookUp where
  | notFound
  | alreadyCompleted
  | found (p : Payment)
deriving DecidableEq, Repr

/-- The answers of the operations; a write answers whether it was made. -/
@[reducible] def PayAns : PayOp → Type
  | .lookUp _ _ => LookUp
  | .find _ => Option Payment
  | .orderIds _ => List OrderId
  | .orderStatus _ => Option (Option PaymentId)
  | .confirm _ _ => Bool
  | .verifySignature _ => Option Bool
  | .ensureCaptured _ _ => Bool
  | .tripTerms => Option ℤ
  | .newOrder => Option (Provider × OrderId)
  | .saveFailed _ => Bool
  | .saveIssued _ _ _ _ => Bool
  | .createIssued _ _ _ => Option ℕ
  | .remember _ _ _ => Bool
  | .settle _ _ _ _ _ => Option Decision
  | .switchMethod _ _ => Bool
  | .retryIssue _ _ => Bool
  | .refundTaken _ _ => Option (Option (PaymentId × ℤ))
  | .createRefund _ _ _ _ => Bool
  | .refundDone _ _ _ => Bool

/-- What the surroundings decide about one operation. -/
structure Choice where
  dbRaises : Bool
  /-- the gateway is reached, and grants what it is asked -/
  gatewayUp : Bool
  /-- the order status names the gateway payment -/
  namesPayment : Bool
  /-- what the rider is to pay, or the amount the gateway has for the order; nothing when the
  trip cannot be paid -/
  amountMinor : Option ℤ
  /-- the gateway of the trip's country, and the order it issues -/
  provider : Provider
  order : Option OrderId
deriving DecidableEq, Repr

/-- `create_order` on a payment it found. -/
def issuedPayment (p : Payment) (amountMinor : ℤ) (provider : Provider) (order : OrderId) :
    Payment :=
  { p with
    amountMinor
    method := .online
    status := .processing
    paymentGateway := provider
    gatewayOrderId := some order
    cashfreeOrderId := some order }

/-- `create_order` when it found none it can use. -/
def newPayment (amountMinor : ℤ) (provider : Provider) (order : OrderId) : Payment where
  id := 0
  amountMinor := amountMinor
  method := .online
  status := .processing
  paymentGateway := provider
  gatewayOrderId := some order
  gatewayPaymentId := none
  cashfreeOrderId := some order
  replacedBy := none

/-- The terms a switch finds. -/
def switchTerms (e : Choice) (online : Bool) : SwitchTerms :=
  match e.amountMinor with
  | none => .refused
  | some amountMinor => if online then .online amountMinor ⟨e.provider, e.order⟩
      else .cash amountMinor

def SwitchTerms.order : SwitchTerms → Option OrderId
  | .online _ issued => issued.order
  | _ => none

def SwitchTerms.amountMinor : SwitchTerms → ℤ
  | .refused => 0
  | .cash amountMinor => amountMinor
  | .online amountMinor _ => amountMinor

/-- The rider who verifies and the gateway that delivers a webhook are answered; the poll and
the reconciliation ask on their own account. -/
def World.answer (s : World) (source : Source) (order : OrderId) : World :=
  match source with
  | .verify | .webhook => s.tell order
  | .poll | .recon => s

/-- The books after a decision about an order. -/
def World.decided (s : World) (source : Source) (order : OrderId) (taken : Option PaymentId)
    (d : Decision) : World :=
  World.answer (match d with
    | .settled => { s with settled := order :: s.settled }
    | .late => { s with late := (order, taken) :: s.late }
    | .inHand | .alreadyCompleted => s) source order

/-- One operation of an entry point. -/
def exec : Exec PayOp PayAns World Choice
  | .lookUp order paymentId, _, s =>
      match paymentForOrder s.db order with
      | none => (.notFound, s.tell order)
      | some p =>
          if p.status = .completed && !isLateCapture p order paymentId then
            (.alreadyCompleted, s.tell order)
          else (.found p, s)
  | .find f, _, s => (f.run s.db, s)
  | .orderIds p, _, s => (Payments.orderIds s.db p, s)
  | .orderStatus order, e, s =>
      (if e.gatewayUp then
        (s.captured order).map fun c => if e.namesPayment then some c else none
      else none, s)
  | .confirm p order, e, s =>
      if e.gatewayUp && (s.captured order).isSome && e.amountMinor = some p.amountMinor then
        (true, s)
      else (false, s.tell order)
  | .verifySignature order, e, s =>
      (e.amountMinor.map fun _ => e.gatewayUp && (s.captured order).isSome, s)
  | .ensureCaptured order paymentId, e, s =>
      if !e.gatewayUp then (false, s)
      else match s.captured order with
        | some c => (c = paymentId, s)
        | none =>
            -- a payment that is only authorized is captured here
            if (s.issued order).isSome then
              (true, { s with captured := Function.update s.captured order (some paymentId) })
            else (false, s)
  | .tripTerms, e, s => (e.amountMinor, s)
  | .newOrder, e, s => (if e.gatewayUp then e.order.map fun o => (e.provider, o) else none, s)
  | .saveFailed p, e, s =>
      if e.dbRaises then (false, s)
      else match s.db.save { p with status := .failed } with
        | none => (false, s)
        | some db => (true, { s with db })
  | .saveIssued p amountMinor provider order, e, s =>
      if e.dbRaises || !s.fresh (some order) then (false, s)
      else match s.db.save (issuedPayment p amountMinor provider order) with
        | none => (false, s)
        | some db => (true, { s with db }.issue (some order) p.id amountMinor)
  | .createIssued amountMinor provider order, e, s =>
      if e.dbRaises || !s.fresh (some order) then (none, s)
      else match s.db.create (newPayment amountMinor provider order) with
        | none => (none, s)
        | some (id, db) => (some id, { s with db }.issue (some order) id amountMinor)
  | .remember payment order provider, e, s =>
      if e.dbRaises then (false, s)
      else (true, { s with db := (Payments.remember s.db payment order provider).2 })
  | .settle source payment provider order taken, e, s =>
      if e.dbRaises then (none, s)
      else match settleLocked source s.db payment provider order taken with
        | none => (none, s)
        | some (d, db) => (some d, { s with db }.decided source order taken d)
  | .switchMethod payment online, e, s =>
      let terms := switchTerms e online
      if e.dbRaises || !s.fresh terms.order then (false, s)
      else match switchLocked s.db payment terms with
        | none => (false, s)
        | some (none, db) => (true, { s with db })
        | some (some id, db) => (true, { s with db }.issue terms.order id terms.amountMinor)
  | .retryIssue payment amountMinor, e, s =>
      if e.dbRaises || !s.fresh e.order then (false, s)
      else match retryLocked s.db payment ⟨e.provider, e.order⟩ with
        | none => (false, s)
        | some (false, db) => (true, { s with db })
        | some (true, db) => (true, { s with db }.issue e.order payment amountMinor)
  | .refundTaken payment order, _, s => (Payments.refundTaken s.db payment order, s)
  | .createRefund _ _ _ _, e, s => (e.gatewayUp, s)
  | .refundDone payment order refunded, e, s =>
      if e.dbRaises then (false, s)
      else match refundLocked s.db payment order refunded with
        | none => (false, s)
        | some db => (true, { s with db })

/-! ## Entry points -/

abbrev Entry : Type := Prog PayOp PayAns Unit

/-- `late_paid.refund`, after the commit. -/
def lateRefund (payment : ℕ) (order : OrderId) (k : Entry) : Entry :=
  .op (.refundTaken payment order) fun
    | none => k
    | some none => .op (.refundDone payment order false) fun _ => k
    | some (some (taken, amountMinor)) =>
        .op (.createRefund payment order taken amountMinor) fun refunded =>
          .op (.refundDone payment order refunded) fun _ => k

/-- Take the decision about an order that was paid, and go on with whether the trip stands
paid by it; a decision that raises ends the entry point. -/
def settleThen (source : Source) (payment : ℕ) (provider : Provider) (order : OrderId)
    (taken : Option PaymentId) (k : Bool → Entry) : Entry :=
  .op (.settle source payment provider order taken) fun
    | none => .ret ()
    | some .late => lateRefund payment order (k false)
    | some .inHand => k false
    | some .settled | some .alreadyCompleted => k true

def verifyPayment (order : OrderId) (paymentId : Option PaymentId) (signed : Bool) : Entry :=
  .op (.lookUp order paymentId) fun
    | .notFound | .alreadyCompleted => .ret ()
    | .found p =>
        match p.paymentGateway, paymentId with
        | .razorpay, none => .ret ()
        | .razorpay, some id =>
            if signed then
              .op (.ensureCaptured order id) fun
                | true => settleThen .verify p.id .razorpay order (some id) fun _ => .ret ()
                | false => .ret ()
            else .ret ()
        | .cashfree, _ =>
            .op (.verifySignature order) fun
              | none => .ret ()
              | some true =>
                  settleThen .verify p.id .cashfree order p.gatewayPaymentId fun _ => .ret ()
              | some false => .op (.saveFailed p) fun _ => .ret ()

/-- `_handle_cashfree_webhook`, for a successful payment of a trip. -/
def handleWebhook (provider : Provider) (order : OrderId) (paymentId : Option PaymentId) : Entry :=
  .op (.lookUp order paymentId) fun
    | .notFound | .alreadyCompleted => .ret ()
    | .found p =>
        .op (.confirm p order) fun
          | true => settleThen .webhook p.id provider order paymentId fun _ => .ret ()
          | false => .ret ()

/-- Ask the gateway about the orders in turn; the first that is paid is decided. -/
def askOrders (source : Source) (p : Payment) (k : Bool → Entry) : List OrderId → Entry
  | [] => k false
  | order :: orders =>
      .op (.orderStatus order) fun
        | some paymentId => settleThen source p.id p.paymentGateway order paymentId k
        | none => askOrders source p k orders

/-- `_settle_payment_if_paid_at_gateway`: whether the trip stands paid. -/
def settleIfPaidAtGateway (k : Bool → Entry) : Entry :=
  .op (.find .latestOpen) fun
    | none => k false
    | some p =>
        if p.status = .completed then k true
        else .op (.orderIds p) fun orders => askOrders .poll p k orders

/-- `reconcile_stuck_payments`, for one payment. -/
def reconcileStuck (payment : ℕ) : Entry :=
  .op (.find (.stuck payment)) fun
    | none => .ret ()
    | some p => .op (.orderIds p) fun orders => askOrders .recon p (fun _ => .ret ()) orders

def createOrder : Entry :=
  .op (.find .completed) fun
    | some _ => .ret ()
    | none =>
        .op .tripTerms fun
          | none => .ret ()
          | some amountMinor =>
              .op .newOrder fun
                | none => .ret ()
                | some (provider, order) =>
                    let create : Entry := .op (.createIssued amountMinor provider order) fun
                      | none => .ret ()
                      | some id => .op (.remember id order provider) fun _ => .ret ()
                    .op (.find .latest) fun
                      | none => create
                      | some p =>
                          if p.status = .completed ∨ p.status = .refunded then create
                          else .op (.saveIssued p amountMinor provider order) fun
                            | true => .op (.remember p.id order provider) fun _ => .ret ()
                            | false => .ret ()

def switchPaymentMethod (online : Bool) : Entry :=
  .op (.find .latest) fun
    | none => .ret ()
    | some p => settleIfPaidAtGateway fun
        | true => .ret ()
        | false => .op (.switchMethod p.id online) fun _ => .ret ()

def retryPayment : Entry :=
  .op (.find .latestFailed) fun
    | none => .ret ()
    | some p => settleIfPaidAtGateway fun
        | true => .ret ()
        | false => .op .tripTerms fun
            | none => .ret ()
            | some amountMinor => .op (.retryIssue p.id amountMinor) fun _ => .ret ()

/-! ## The system -/

/-- What an entry point is asked. -/
inductive Request where
  | verify (order : OrderId) (paymentId : Option PaymentId) (signed : Bool)
  | webhook (provider : Provider) (order : OrderId) (paymentId : Option PaymentId)
  | poll
  | reconcile (payment : ℕ)
  | createOrder
  | switchMethod (online : Bool)
  | retry
deriving DecidableEq, Repr

/-- The program of a request. -/
def entry : Request → World → Entry
  | .verify order paymentId signed, _ => verifyPayment order paymentId signed
  | .webhook provider order paymentId, _ => handleWebhook provider order paymentId
  | .poll, _ => settleIfPaidAtGateway fun _ => .ret ()
  | .reconcile payment, _ => reconcileStuck payment
  | .createOrder, _ => Payments.createOrder
  | .switchMethod online, _ => switchPaymentMethod online
  | .retry, _ => retryPayment

/-- The rider pays an order at the gateway. -/
structure Capture where
  order : OrderId
  paymentId : PaymentId
deriving DecidableEq, Repr

def capture (c : Capture) (s : World) : World :=
  if (s.issued c.order).isSome && (s.captured c.order).isNone then
    { s with captured := Function.update s.captured c.order (some c.paymentId) }
  else s

section System

variable {τ : Type} [DecidableEq τ]

abbrev PayPool (τ : Type) : Type := Pool PayOp PayAns Unit World τ Request

abbrev PayMove (τ : Type) : Type := Move τ Choice Request Capture

/-- One move of the entry points, or of the rider at the gateway. -/
def payStep (p : PayPool τ) (m : PayMove τ) : PayPool τ :=
  Pool.step exec entry capture p m

end System

end SaaradhiGo.Payments
