/-
The payments of one trip and the gateway orders they were issued.

A payment row names one order, the latest it was issued while unpaid and then the one that
paid; every order that was remembered has a row of its own, which also records a late
capture: money taken for a trip that was paid already.  The database refuses a second
completed payment of a trip, so the constraint is a field of the database.
-/
import SaaradhiGo.Lib.Table
import Mathlib.Data.Int.Notation
import Mathlib.Data.List.ReduceOption

namespace SaaradhiGo.Payments

/-! ## Data -/

/-- `Payment.STATUS_CHOICES`. -/
inductive PaymentStatus where
  | pending
  | processing
  | completed
  | failed
  | refunded
deriving DecidableEq, Repr

/-- `Payment.METHOD_CHOICES`. -/
inductive Method where
  | cash
  | online
  | wallet
  | deferred
deriving DecidableEq, Repr

/-- The payment gateways. -/
inductive Provider where
  | cashfree
  | razorpay
deriving DecidableEq, Repr

abbrev OrderId : Type := String

abbrev PaymentId : Type := String

/-- A payment of the trip.  An id that is missing or empty is `none`. -/
structure Payment where
  id : ℕ
  amountMinor : ℤ
  method : Method
  status : PaymentStatus
  paymentGateway : Provider
  gatewayOrderId : Option OrderId
  gatewayPaymentId : Option PaymentId
  cashfreeOrderId : Option OrderId
  replacedBy : Option ℕ
deriving DecidableEq, Repr

/-- What became of a late capture on an order. -/
inductive LateRefund where
  | none
  | pending
  | refunded
  | manual
deriving DecidableEq, Repr

/-- An order a payment was issued. -/
structure PaymentOrder where
  orderId : OrderId
  payment : ℕ
  provider : Provider
  latePaymentId : Option PaymentId
  lateRefund : LateRefund
deriving DecidableEq, Repr

/-- The key of `one_completed_payment_per_trip`. -/
def Payment.completedKey (p : Payment) : Option Unit :=
  if p.status = .completed then some () else none

/-- The payments of a trip and their orders. -/
structure Db where
  payments : Table Payment.id
  oneCompleted : Table.UniqueOn Payment.completedKey payments.rows
  orders : Table PaymentOrder.orderId
  nextId : ℕ

namespace Db

/-- Write all fields of a payment; `none` is an `IntegrityError`. -/
def save (db : Db) (p : Payment) : Option Db :=
  if h : Table.UniqueOn Payment.completedKey (db.payments.put p).rows then
    some { db with payments := db.payments.put p, oneCompleted := h }
  else none

def create (db : Db) (p : Payment) : Option (ℕ × Db) :=
  if (db.payments.get? db.nextId).isSome then none
  else (db.save { p with id := db.nextId }).map fun db' =>
    (db.nextId, { db' with nextId := db.nextId + 1 })

def Completed (db : Db) (id : ℕ) : Prop :=
  ∃ p, db.payments.get? id = some p ∧ p.status = .completed

def HasCompleted (db : Db) : Prop := ∃ p ∈ db.payments.rows, p.status = .completed

instance (db : Db) : Decidable db.HasCompleted :=
  inferInstanceAs (Decidable (∃ p ∈ db.payments.rows, p.status = .completed))

def KeepsCompleted (db db' : Db) : Prop :=
  ∀ i p, db.payments.get? i = some p → p.status = .completed → db'.payments.get? i = some p

/-! ### Saves -/

section Save

variable {db db' : Db} {p q : Payment} {i : ℕ}

lemma of_save (h : db.save p = some db') :
    db'.payments = db.payments.put p ∧ db'.orders = db.orders := by
  rw [save] at h
  split at h
  · cases h
    exact ⟨rfl, rfl⟩
  · cases h

lemma get?_save (h : db.save p = some db') (i : ℕ) :
    db'.payments.get? i = if i = p.id then some p else db.payments.get? i := by
  rw [(of_save h).1, Table.get?_put]

lemma get?_save_self (h : db.save p = some db') (hi : p.id = i) :
    db'.payments.get? i = some p := by
  rw [get?_save h, if_pos hi.symm]

lemma get?_save_of_ne (h : db.save p = some db') (hi : i ≠ p.id) :
    db'.payments.get? i = db.payments.get? i := by
  rw [get?_save h, if_neg hi]

lemma save_of_ne_completed (h : p.status ≠ .completed) : ∃ db', db.save p = some db' := by
  have hkey : p.completedKey = none := if_neg h
  rw [save, dif_pos (db.oneCompleted.put hkey)]
  exact ⟨_, rfl⟩

lemma of_create {id : ℕ} (h : db.create p = some (id, db')) :
    db.payments.get? id = none ∧
      ∃ saved, db.save { p with id } = some saved ∧ db'.payments = saved.payments ∧
        db'.orders = saved.orders := by
  rw [create] at h
  split at h
  · cases h
  · rename_i hfree
    obtain ⟨saved, hsaved, heq⟩ := Option.map_eq_some_iff.mp h
    cases heq
    exact ⟨by simpa using hfree, saved, hsaved, rfl, rfl⟩

lemma eq_of_completed (hp : p ∈ db.payments.rows) (hq : q ∈ db.payments.rows)
    (hp' : p.status = .completed) (hq' : q.status = .completed) : p = q :=
  db.oneCompleted.eq_of_key hp hq (if_pos hp') (if_pos hq')

lemma length_completed_le_one (db : Db) :
    (db.payments.rows.filter fun q => q.status = .completed).length ≤ 1 := by
  have hnodup := (List.Nodup.of_map _ db.payments.nodup).filter fun q => q.status = .completed
  rcases hrows : db.payments.rows.filter fun q => q.status = .completed with _ | ⟨x, _ | ⟨y, l⟩⟩
  · simp [hrows]
  · simp [hrows]
  · have hx : x ∈ db.payments.rows.filter fun q => q.status = .completed := by simp [hrows]
    have hy : y ∈ db.payments.rows.filter fun q => q.status = .completed := by simp [hrows]
    rw [List.mem_filter, decide_eq_true_eq] at hx hy
    have heq := eq_of_completed hx.1 hy.1 hx.2 hy.2
    rw [hrows, heq] at hnodup
    exact absurd hnodup (by simp)

lemma hasCompleted_iff : db.HasCompleted ↔ ∃ i, db.Completed i := by
  constructor
  · rintro ⟨p, hp, hstatus⟩
    exact ⟨p.id, p, Table.mem_iff_get?.mp hp, hstatus⟩
  · rintro ⟨i, p, hp, hstatus⟩
    exact ⟨p, (Table.mem_of_get? hp).1, hstatus⟩

namespace KeepsCompleted

lemma refl (db : Db) : db.KeepsCompleted db := fun _ _ h _ => h

lemma trans {db'' : Db} (h : db.KeepsCompleted db') (h' : db'.KeepsCompleted db'') :
    db.KeepsCompleted db'' :=
  fun i p hp hstatus => h' i p (h i p hp hstatus) hstatus

lemma of_payments (h : db'.payments = db.payments) : db.KeepsCompleted db' :=
  fun _ _ hp _ => h ▸ hp

lemma save (h : db.save p = some db') (hnot : ¬ db.Completed p.id) : db.KeepsCompleted db' := by
  intro i q hq hstatus
  rw [get?_save h, if_neg]
  · exact hq
  · rintro rfl
    exact hnot ⟨q, hq, hstatus⟩

lemma create {id : ℕ} (h : db.create p = some (id, db')) : db.KeepsCompleted db' := by
  obtain ⟨hfree, saved, hsaved, hrows, -⟩ := of_create h
  refine (save hsaved ?_).trans (of_payments hrows)
  rintro ⟨q, hq, -⟩
  rw [hfree] at hq
  cases hq

lemma hasCompleted (h : db.KeepsCompleted db') (hdb : db.HasCompleted) : db'.HasCompleted := by
  obtain ⟨i, p, hp, hstatus⟩ := hasCompleted_iff.mp hdb
  exact hasCompleted_iff.mpr ⟨i, p, h i p hp hstatus, hstatus⟩

end KeepsCompleted

lemma not_completed_of_get? (h : db.payments.get? i = some p) (hp : p.status ≠ .completed) :
    ¬ db.Completed i := by
  rintro ⟨q, hq, hstatus⟩
  rw [h, Option.some.injEq] at hq
  exact hp (hq ▸ hstatus)

end Save

end Db

/-! ## Orders -/

/-- The orders the row itself names. -/
def Payment.own (p : Payment) : List OrderId :=
  [p.gatewayOrderId, p.cashfreeOrderId].reduceOption

lemma Payment.mem_own {p : Payment} {order : OrderId} :
    order ∈ p.own ↔ p.gatewayOrderId = some order ∨ p.cashfreeOrderId = some order := by
  rw [own, List.reduceOption_mem_iff, List.mem_pair, eq_comm, @eq_comm _ (some order)]

/-- `orders.remember`: the row of the order, made when there is none. -/
def remember (db : Db) (payment : ℕ) (order : OrderId) (provider : Provider) :
    PaymentOrder × Db :=
  match db.orders.get? order with
  | some row => (row, db)
  | none =>
      let row : PaymentOrder := ⟨order, payment, provider, none, .none⟩
      (row, { db with orders := db.orders.put row })

/-- `orders.payment_for_order`: the payment an order was remembered for, else the newest that
names it. -/
def paymentForOrder (db : Db) (order : OrderId) : Option Payment :=
  match db.orders.get? order with
  | some row => db.payments.get? row.payment
  | none => (db.payments.rows.filter fun p => order ∈ p.own).getLast?

/-- `orders.order_ids`: every order of the payment, newest first, its own columns before
them. -/
def orderIds (db : Db) (p : Payment) : List OrderId :=
  let ids := ((db.orders.rows.filter fun row => row.payment = p.id).map
    PaymentOrder.orderId).reverse
  p.own.foldl (fun ids own => if own ∈ ids then ids else own :: ids) ids

/-- `orders.is_late_capture`: the payment is completed by another order, or by another gateway
payment on the same order. -/
def isLateCapture (p : Payment) (order : OrderId) (paymentId : Option PaymentId) : Bool :=
  p.status = .completed &&
    (!p.own.isEmpty && order ∉ p.own ||
      paymentId.isSome && p.gatewayPaymentId.isSome && paymentId ≠ p.gatewayPaymentId)

/-- `orders.settled_by`: the order that paid becomes the one the payment names. -/
def settledBy (p : Payment) (order : OrderId) : Payment :=
  { p with
    gatewayOrderId := some order
    cashfreeOrderId := p.cashfreeOrderId.map fun _ => order }

/-! ## Late payments -/

/-- `late_paid.superseded`: the payment no longer stands for its trip. -/
def superseded (db : Db) (p : Payment) : Bool :=
  p.status = .failed || p.status = .refunded || p.replacedBy.isSome ||
    db.payments.rows.any fun q => q.status = .completed && q.id ≠ p.id

def PaymentOrder.inHand (row : PaymentOrder) (taken : Option PaymentId) : Bool :=
  row.lateRefund ≠ .none && (taken.isNone || taken = row.latePaymentId)

/-- `late_paid.record`, with the payment locked: whether a refund was scheduled, which is not
the case when this capture is already in hand. -/
def record (db : Db) (payment : Payment) (provider : Provider) (taken : Option PaymentId)
    (order : OrderId) : Option (Bool × Db) :=
  let (row, db) := remember db payment.id order provider
  if row.inHand taken then some (false, db)
  else
    let row := { row with latePaymentId := taken <|> row.latePaymentId, lateRefund := .pending }
    let db := { db with orders := db.orders.put row }
    if payment.status = .completed then some (true, db)
    else
      -- only the id of the gateway payment is saved, and only where there is none
      match db.payments.get? payment.id with
      | none => none
      | some saved =>
          let gatewayPaymentId :=
            if taken.isSome && payment.gatewayPaymentId.isNone then taken
            else saved.gatewayPaymentId
          (db.save { saved with gatewayPaymentId }).map fun db => (true, db)

end SaaradhiGo.Payments
