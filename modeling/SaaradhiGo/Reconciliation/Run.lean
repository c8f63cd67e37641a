/-
Daily reconciliation of local records.

`run_one` compares the tables of one local day for a country and a gateway: payments with the
webhooks that were stored, completed trips with their settlements, payouts with theirs.  What it
finds becomes an item under a key of its own, unless there is one already, and the run of the day
records how many items are new.
-/
import SaaradhiGo.Pricing.Quote
import SaaradhiGo.Lib.Json
import SaaradhiGo.Lib.Table
import SaaradhiGo.Lib.Transition
import Mathlib.Data.List.Sort
import Mathlib.Logic.Function.Basic

namespace SaaradhiGo.Reconciliation

open SaaradhiGo.Money SaaradhiGo.Pricing

/-! ## Data -/

/-- The state of a payment. -/
inductive PaymentStatus where
  | pending
  | processing
  | completed
  | failed
  | refunded
deriving DecidableEq, Repr

def PaymentStatus.text : PaymentStatus → String
  | .pending => "pending"
  | .processing => "processing"
  | .completed => "completed"
  | .failed => "failed"
  | .refunded => "refunded"

/-- `Payment`, with the country and the city of its trip's zone. -/
structure Payment where
  id : ℕ
  trip : ℕ
  zoneCountry : Option Country
  zoneNode : Option ℕ
  gateway : String
  online : Bool
  status : PaymentStatus
  currency : Currency
  amountMinor : ℤ
  gatewayOrderId : String
  cashfreeOrderId : String
  createdAt : ℤ

/-- `PaymentOrder`: an order that was issued to a payment. -/
structure PaymentOrder where
  orderId : String
  payment : ℕ

structure WebhookEvent where
  id : ℕ
  gateway : String
  eventType : String
  rawPayload : Json
  receivedAt : ℤ

/-- `Trip`, as far as its settlement is checked. -/
structure Trip where
  id : ℕ
  completed : Bool
  completedAt : Option ℤ
  hasDriver : Bool
  currency : Currency
  zoneCountry : Option Country
  zoneNode : Option ℕ
  platformFunded : Bool
  finalFareMinor : Option ℤ

structure TripSettlement where
  id : ℕ
  trip : ℕ
  version : ℕ
  currency : Currency
  settledAt : ℤ
  grossFareMinor : ℤ
  taxCollectedMinor : Option ℤ
  regulatoryFeeCollectedMinor : Option ℤ

/-- The state of a withdrawal. -/
inductive WithdrawalStatus where
  | pending
  | approved
  | rejected
  | processed
  | completed
  | failed
  | unresolved
  | reversed
  | conflict
deriving DecidableEq, Repr

def WithdrawalStatus.text : WithdrawalStatus → String
  | .pending => "pending"
  | .approved => "approved"
  | .rejected => "rejected"
  | .processed => "processed"
  | .completed => "completed"
  | .failed => "failed"
  | .unresolved => "unresolved"
  | .reversed => "reversed"
  | .conflict => "conflict"

/-- `WithdrawalRequest`, with the city its driver is at home in. -/
structure WithdrawalRequest where
  id : ℕ
  payoutReferenceId : String
  status : WithdrawalStatus
  currency : Currency
  requestedAt : ℤ
  processedAt : Option ℤ
  homeCity : Option ℕ
  homeCountry : Option Country

/-- The money tables.  Where a query asks for no order, rows come in the order of the table. -/
structure Data where
  payments : Table Payment.id
  paymentOrders : List PaymentOrder
  webhooks : List WebhookEvent
  /-- `WalletTransaction.gateway_order_id` -/
  topups : List String
  trips : Table Trip.id
  settlements : List TripSettlement
  withdrawals : Table WithdrawalRequest.id
  /-- `PayoutCountryConfig.stuck_payout_hours`, where it is set -/
  stuckPayoutHours : Country → Option ℕ

/-- How texts are read and written. -/
structure Reads where
  /-- `str()` of a value -/
  text : Json → String
  /-- `str.upper()` -/
  upper : String → String
  /-- `to_minor(Decimal(str(amount)), currency)`, when there is such a number -/
  minorOf : Json → String → Option ℤ
  /-- the number in `withdrawal_<number>` -/
  withdrawalId : String → Option ℕ
  /-- a moment as `%Y-%m-%d %H:%M` -/
  moment : ℤ → String
  /-- the start and the end of a local date -/
  dayBounds : Country → ℤ → ℤ × ℤ

/-! ## Constants -/

def code : Currency → String
  | .inr => "INR"
  | .usd => "USD"

/-- An hour, in microseconds. -/
def hour : ℤ := 3600 * 1000000

def grace : ℤ := hour

def webhookLookahead : ℤ := 72 * hour

def webhookLookbehind : ℤ := 24 * hour

def stuckLookback : ℤ := 30 * 24 * hour

def maxItemsPerCheck : ℕ := 2000

def paymentSuccessEvents : List String :=
  ["PAYMENT_SUCCESS_WEBHOOK", "PAYMENT_SUCCESS", "payment.captured", "order.paid"]

def payoutSuccessEvents : List String := ["TRANSFER_SUCCESS", "PAYOUT_SUCCESS", "payout.processed"]

def inboxGateways (gateway : String) : List String :=
  if gateway = "razorpay" then ["razorpay", "razorpayx"] else [gateway]

/-! ## Findings -/

/-- `ReconciliationItem.KINDS`. -/
inductive Kind where
  | paymentNoWebhook
  | webhookNoPayment
  | amountMismatch
  | tripNoSettlement
  | settlementGrossMismatch
  | payoutWebhookNotPaid
  | payoutStuck
deriving DecidableEq, Repr

def Kind.text : Kind → String
  | .paymentNoWebhook => "payment_no_webhook"
  | .webhookNoPayment => "webhook_no_payment"
  | .amountMismatch => "amount_mismatch"
  | .tripNoSettlement => "trip_no_settlement"
  | .settlementGrossMismatch => "settlement_gross_mismatch"
  | .payoutWebhookNotPaid => "payout_webhook_not_paid"
  | .payoutStuck => "payout_stuck"

/-- What `raise_item` is called with. -/
structure Finding where
  kind : Kind
  key : String
  payment : Option ℕ
  withdrawal : Option ℕ
  trip : Option ℕ
  reference : String
  expected : String
  seen : String
  anchor : Option ℕ

def truncated (n : ℕ) (s : String) : String := String.ofList (s.toList.take n)

/-- `dedupe_key`. -/
def Finding.dedupe (f : Finding) : String := truncated 120 (f.kind.text ++ ":" ++ f.key)

/-- What a run is for; the currency is the country's. -/
structure RunKey where
  date : ℤ
  country : Country
  gateway : String
deriving DecidableEq

/-- `ReconciliationItem`. -/
structure Item where
  dedupeKey : String
  run : RunKey
  kind : Kind
  payment : Option ℕ
  withdrawal : Option ℕ
  trip : Option ℕ
  reference : String
  expected : String
  seen : String
  anchor : Option ℕ
  resolvedAt : Option ℤ

/-! ## Stored webhooks -/

section Webhooks

variable (rd : Reads)

/-- `_dig`; what is not there is null. -/
def dig : Json → List String → Json
  | payload, [] => payload
  | payload, key :: path => dig ((payload.get? key).getD .null) path

/-- `bool()` of a value. -/
def truthy : Json → Bool
  | .null => false
  | .bool b => b
  | .int n => n ≠ 0
  | .float f => f.intValue ≠ some 0
  | .str s => s ≠ ""
  | .arr vs => !vs.isEmpty
  | .obj fs => !fs.isEmpty

/-- `a or b`. -/
def orElse (a b : Json) : Json := if truthy a then a else b

/-- What `parse_payment_webhook` returns. -/
structure Parsed where
  orderId : Option String
  amountMinor : Option ℤ
  currency : Option String

/-- A whole number, as `isinstance(_, int)` has it. -/
def intOf : Json → Option ℤ
  | .int n => some n
  | .bool b => some (if b then 1 else 0)
  | _ => none

def textOf (v : Json) : Option String := if truthy v then some (rd.text v) else none

def parsePaymentWebhook (payload : Json) : Parsed :=
  let rz := dig payload ["payload", "payment", "entity"]
  if truthy (dig rz ["order_id"]) then
    -- amounts are minor units already
    { orderId := some (rd.text (dig rz ["order_id"]))
      amountMinor := intOf (dig rz ["amount"])
      currency := some (rd.upper (rd.text (orElse (dig rz ["currency"]) (.str "INR")))) }
  else
    let orderId := orElse (dig payload ["data", "order", "order_id"]) (dig payload ["orderId"])
    let amount := orElse (dig payload ["data", "payment", "payment_amount"])
      (orElse (dig payload ["data", "order", "order_amount"]) (dig payload ["orderAmount"]))
    let currency := orElse (dig payload ["data", "payment", "payment_currency"])
      (orElse (dig payload ["data", "order", "order_currency"]) (dig payload ["currency"]))
    let code := (textOf rd currency).map rd.upper
    { orderId := textOf rd orderId
      amountMinor := match amount with
        | .null => none
        | amount => code.bind (rd.minorOf amount)
      currency := code }

def parsePayoutWebhook (payload : Json) : List String :=
  match dig payload ["payload", "payout", "entity"] with
  | .obj fs => [dig (.obj fs) ["reference_id"], dig (.obj fs) ["id"]].filterMap (textOf rd)
  | _ => [dig payload ["transfer_id"], dig payload ["payoutId"], dig payload ["cf_transfer_id"],
      dig payload ["referenceId"]].filterMap (textOf rd)

end Webhooks

/-! ## The checks -/

section Checks

variable (rd : Reads) (data : Data) (key : RunKey) (now : ℤ)

/-- The success webhooks in a window of time. -/
def webhooksBetween (since until_ : ℤ) : List WebhookEvent :=
  data.webhooks.filter fun e => e.gateway = key.gateway && decide (since ≤ e.receivedAt) &&
    decide (e.receivedAt < until_) && paymentSuccessEvents.contains e.eventType

def windowWebhooks : List WebhookEvent :=
  webhooksBetween data key ((rd.dayBounds key.country key.date).1 - webhookLookbehind)
    (min ((rd.dayBounds key.country key.date).2 + webhookLookahead) now)

/-- `_success_webhooks`: the first ones in the order of their arrival. -/
def successWebhooks : List WebhookEvent :=
  ((windowWebhooks rd data key now).insertionSort fun e e' => e.receivedAt ≤ e'.receivedAt).take
    (maxItemsPerCheck * 5)

def newestPayments : List Payment :=
  data.payments.rows.insertionSort fun p q => q.createdAt ≤ p.createdAt

def dayPayments : List Payment :=
  let bounds := rd.dayBounds key.country key.date
  ((newestPayments data).filter fun p => decide (bounds.1 ≤ p.createdAt) &&
    decide (p.createdAt < min bounds.2 (now - grace)) && p.gateway = key.gateway && p.online &&
      p.status = .completed && p.currency = key.country.currency &&
        p.zoneCountry = some key.country).take maxItemsPerCheck

def Payment.ownOrders (p : Payment) : List String :=
  [p.gatewayOrderId, p.cashfreeOrderId].filter fun o => o ≠ ""

/-- `order_ids`: every order that was issued to a payment. -/
def orderIds (p : Payment) : List String :=
  p.ownOrders ++ (data.paymentOrders.filter fun row => row.payment = p.id).map PaymentOrder.orderId

/-- `by_order`: the first webhook of an order. -/
def byOrder (events : List WebhookEvent) (order : String) : Option Parsed :=
  (events.map fun e => parsePaymentWebhook rd e.rawPayload).find? fun parsed =>
    parsed.orderId = some order

/-- The finding for a payment, if there is one. -/
def checkPayment (events : List WebhookEvent) (p : Payment) : Option Finding :=
  match p.ownOrders.findSome? (byOrder rd events) with
  | none => some
      { kind := .paymentNoWebhook
        key := "p" ++ toString p.id
        payment := some p.id
        withdrawal := none
        trip := some p.trip
        reference := p.ownOrders.headD ""
        expected := "confirming webhook"
        seen := "none"
        anchor := p.zoneNode }
  | some hit =>
      match hit.currency, hit.amountMinor with
      | some currency, some amount =>
          if currency ≠ "" ∧ (currency ≠ code p.currency ∨ amount ≠ p.amountMinor) then some
            { kind := .amountMismatch
              key := "p" ++ toString p.id
              payment := some p.id
              withdrawal := none
              trip := some p.trip
              reference := hit.orderId.getD ""
              expected := toString p.amountMinor ++ " " ++ code p.currency
              seen := toString amount ++ " " ++ currency
              anchor := p.zoneNode }
          else none
      | _, _ => none

/-- What a chunk of orders adds to `known`: the payments that name one of them, with all the orders
they name, and then the payments they were issued to. -/
def learnChunk (known : String → Option Payment) (chunk : List String) : String → Option Payment :=
  let named := ((newestPayments data).filter fun p => p.ownOrders.any chunk.contains).foldl
    (fun known p => p.ownOrders.foldl (fun known o => Function.update known o (some p)) known) known
  (data.paymentOrders.filter fun row => chunk.contains row.orderId).foldl (fun known row =>
    if (known row.orderId).isSome then known
    else Function.update known row.orderId (data.payments.get? row.payment)) named

/-- `known`: the payments of the orders, which are looked up five hundred at a time. -/
def knownPayments (orders : List String) : String → Option Payment :=
  (orders.toChunks 500).foldl (learnChunk data) fun _ => none

def inWindow (events : List WebhookEvent) : List WebhookEvent :=
  let bounds := rd.dayBounds key.country key.date
  events.filter fun e => decide (bounds.1 ≤ e.receivedAt) && decide (e.receivedAt < bounds.2)

/-- `order_ids` of the webhooks of the day. -/
def webhookOrders (events : List WebhookEvent) : List String :=
  (((inWindow rd key events).filterMap fun e =>
    (parsePaymentWebhook rd e.rawPayload).orderId).dedup).insertionSort (· ≤ ·)

/-- The finding for a webhook of the day, if there is one. -/
def checkWebhook (known : String → Option Payment) (e : WebhookEvent) : Option Finding :=
  let parsed := parsePaymentWebhook rd e.rawPayload
  match parsed.orderId with
  | none => none
  | some order =>
      if data.topups.contains order then none
      else
        match known order with
        | none =>
            if parsed.currency = some (code key.country.currency) then some
              { kind := .webhookNoPayment
                key := "w" ++ toString e.id
                payment := none
                withdrawal := none
                trip := none
                reference := order
                expected := "a completed payment"
                seen := "no payment for this order"
                anchor := none }
            else none
        | some p =>
            if p.status ≠ .completed ∧ p.zoneCountry = some key.country then some
              { kind := .webhookNoPayment
                key := "w" ++ toString e.id
                payment := some p.id
                withdrawal := none
                trip := some p.trip
                reference := order
                expected := "completed"
                seen := "payment is " ++ p.status.text
                anchor := p.zoneNode }
            else none

def checkPaymentsAndWebhooks : List Finding :=
  let events := successWebhooks rd data key now
  (dayPayments rd data key now).filterMap (checkPayment rd events) ++
    (inWindow rd key events).filterMap
      (checkWebhook rd data key (knownPayments data (webhookOrders rd key events)))

/-- `_check_settlements`: the completed trips of the day that have no settlement. -/
def unsettledTrips : List Trip :=
  let bounds := rd.dayBounds key.country key.date
  (data.trips.rows.filter fun t =>
    (t.completedAt.any fun at_ => decide (bounds.1 ≤ at_) &&
      decide (at_ < min bounds.2 (now - grace))) && t.completed && t.hasDriver &&
        t.currency = key.country.currency && t.zoneCountry = some key.country &&
          !(data.settlements.any fun s => s.trip = t.id) && !t.platformFunded).take
            maxItemsPerCheck

def TripSettlement.charge (s : TripSettlement) : ℤ :=
  s.grossFareMinor + s.taxCollectedMinor.getD 0 + s.regulatoryFeeCollectedMinor.getD 0

def superseded (s : TripSettlement) : Bool :=
  data.settlements.any fun s' => s'.trip = s.trip && decide (s.version < s'.version)

/-- `_check_settlements`: the current settlements of the day that are not the final fare, each with
its trip and the fare. -/
def offSettlements : List (TripSettlement × Trip × ℤ) :=
  let bounds := rd.dayBounds key.country key.date
  ((data.settlements.filter fun s =>
    decide (bounds.1 ≤ s.settledAt) && decide (s.settledAt < bounds.2) &&
      s.currency = key.country.currency && !superseded data s).filterMap fun s =>
        (data.trips.get? s.trip).bind fun t => t.finalFareMinor.bind fun final =>
          if t.zoneCountry = some key.country ∧ s.charge ≠ final then some (s, t, final)
          else none).take maxItemsPerCheck

def checkSettlements : List Finding :=
  ((unsettledTrips rd data key now).map fun t =>
    { kind := .tripNoSettlement
      key := "t" ++ toString t.id
      payment := none
      withdrawal := none
      trip := some t.id
      reference := ""
      expected := "a settlement"
      seen := "none"
      anchor := t.zoneNode }) ++
    (offSettlements rd data key).map fun x =>
      { kind := .settlementGrossMismatch
        key := "s" ++ toString x.1.id
        payment := none
        withdrawal := none
        trip := some x.2.1.id
        reference := ""
        expected := toString x.2.2 ++ " " ++ code key.country.currency
        seen := toString x.1.grossFareMinor ++ " " ++ code key.country.currency
        anchor := x.2.1.zoneNode }

/-- `_withdrawal_country_q`: by the driver's home, and without one by the currency. -/
def WithdrawalRequest.inCountry (w : WithdrawalRequest) (country : Country) : Bool :=
  w.homeCountry = some country || (w.homeCity.isNone && w.currency = country.currency)

def newestWithdrawals : List WithdrawalRequest :=
  data.withdrawals.rows.insertionSort fun w w' => w'.requestedAt ≤ w.requestedAt

/-- The withdrawal a payout webhook is about. -/
def withdrawalOf (ids : List String) : Option WithdrawalRequest :=
  ((newestWithdrawals data).find? fun w => ids.contains w.payoutReferenceId) <|>
    ((ids.findSome? rd.withdrawalId).bind data.withdrawals.get?)

/-- `_check_payouts`: the withdrawals with a success webhook of the day that are not paid, each
with what it was found by. -/
def unpaidWithdrawals : List (WithdrawalRequest × String) :=
  let bounds := rd.dayBounds key.country key.date
  (((data.webhooks.insertionSort fun e e' => e'.receivedAt ≤ e.receivedAt).filter fun e =>
    (inboxGateways key.gateway).contains e.gateway && decide (bounds.1 ≤ e.receivedAt) &&
      decide (e.receivedAt < min bounds.2 now) && payoutSuccessEvents.contains e.eventType).take
        maxItemsPerCheck).filterMap fun e =>
          let ids := parsePayoutWebhook rd e.rawPayload
          if ids = [] then none
          else (withdrawalOf rd data ids).bind fun w =>
            if w.status ≠ .completed ∧ w.status ≠ .reversed ∧
                w.currency = key.country.currency ∧ w.inCountry key.country then
              some (w, ids.headD "")
            else none

/-- `_check_payouts`: the withdrawals that are processed for too long, with the hours that are
allowed. -/
def stuckWithdrawals : List (WithdrawalRequest × ℕ) :=
  match data.stuckPayoutHours key.country with
  | none => []
  | some 0 => []
  | some hours =>
      (((newestWithdrawals data).filter fun w =>
        w.inCountry key.country && w.status = .processed && w.currency = key.country.currency &&
          w.processedAt.any fun at_ => decide (at_ < now - hours * hour) &&
            decide (now - stuckLookback ≤ at_)).take maxItemsPerCheck).map fun w => (w, hours)

def checkPayouts : List Finding :=
  ((unpaidWithdrawals rd data key now).map fun x =>
    { kind := .payoutWebhookNotPaid
      key := "w" ++ toString x.1.id
      payment := none
      withdrawal := some x.1.id
      trip := none
      reference := x.2
      expected := "completed"
      seen := "withdrawal is " ++ x.1.status.text
      anchor := x.1.homeCity }) ++
    (stuckWithdrawals data key now).map fun x =>
      { kind := .payoutStuck
        key := "w" ++ toString x.1.id
        payment := none
        withdrawal := some x.1.id
        trip := none
        reference := x.1.payoutReferenceId
        expected := "paid within " ++ toString x.2 ++ " h"
        seen := "processing since " ++ rd.moment (x.1.processedAt.getD 0) ++ " UTC"
        anchor := x.1.homeCity }

/-- Everything a run raises, in order. -/
def findings : List Finding :=
  checkPaymentsAndWebhooks rd data key now ++ checkSettlements rd data key now ++
    checkPayouts rd data key now

end Checks

/-! ## A run -/

/-- `ReconciliationRun.STATUS_CHOICES`. -/
inductive RunStatus where
  | ok
  | issues
  | error
deriving DecidableEq, Repr

/-- `ReconciliationRun`. -/
structure Run where
  key : RunKey
  status : RunStatus
  /-- new items of each kind -/
  counts : List (Kind × ℕ)
  error : String
  finishedAt : Option ℤ

/-- A run as `get_or_create` makes it. -/
def Run.created (key : RunKey) : Run where
  key := key
  status := .ok
  counts := []
  error := ""
  finishedAt := none

/-- The money tables, the runs and the items. -/
structure Books where
  data : Data
  runs : Table Run.key
  items : List Item

/-- A new item. -/
def Finding.item (f : Finding) (key : RunKey) : Item where
  dedupeKey := f.dedupe
  run := key
  kind := f.kind
  payment := f.payment
  withdrawal := f.withdrawal
  trip := f.trip
  reference := truncated 256 f.reference
  expected := truncated 255 f.expected
  seen := truncated 255 f.seen
  anchor := f.anchor
  resolvedAt := none

/-- One more of a kind: `Counter`. -/
def countUp (kind : Kind) : List (Kind × ℕ) → List (Kind × ℕ)
  | [] => [(kind, 1)]
  | (k, n) :: counts => if k = kind then (k, n + 1) :: counts else (k, n) :: countUp kind counts

/-- `raise_item`: nothing, when the subject has an item of the kind already. -/
def raiseItem (key : RunKey) (s : List Item × List (Kind × ℕ)) (f : Finding) :
    List Item × List (Kind × ℕ) :=
  if s.1.any fun i => i.dedupeKey = f.dedupe then s
  else (s.1 ++ [f.item key], countUp f.kind s.2)

/-- How a call ends: it gets to the end, a check fails after so many findings, or the process
stops there. -/
inductive Outcome where
  | finishes
  | fails (after : ℕ) (why : String)
  | stops (after : ℕ)
deriving DecidableEq, Repr

/-- A call of `run_one`: what it is for, when it is made and whether it is forced, and how it
ends. -/
structure Call where
  key : RunKey
  now : ℤ
  force : Bool
  outcome : Outcome
  finishedAt : ℤ

/-- A finished run is left alone unless it failed or the call is forced. -/
def Books.skips (b : Books) (c : Call) : Bool :=
  (b.runs.get? c.key).any fun run =>
    !c.force && run.finishedAt.isSome && decide (run.status ≠ .error)

/-- The findings a call gets to. -/
def Outcome.reached (o : Outcome) (found : List Finding) : List Finding :=
  match o with
  | .finishes => found
  | .fails after _ => found.take after
  | .stops after => found.take after

/-- What a run says at the end of a call. -/
def Run.closed (run : Run) (c : Call) (counts : List (Kind × ℕ)) : Run :=
  match c.outcome with
  | .finishes =>
      { run with
        status := if (counts.map Prod.snd).sum = 0 then .ok else .issues
        error := ""
        counts := counts
        finishedAt := some c.finishedAt }
  | .fails _ why =>
      { run with
        status := .error
        error := truncated 500 why
        counts := counts
        finishedAt := some c.finishedAt }
  | .stops _ => run

def Books.runOne (rd : Reads) (b : Books) (c : Call) : Books :=
  if b.skips c then b
  else
    let run := (b.runs.get? c.key).getD (Run.created c.key)
    let raised := (c.outcome.reached (findings rd b.data c.key c.now)).foldl (raiseItem c.key)
      (b.items, [])
    { b with runs := b.runs.put (run.closed c raised.2), items := raised.1 }

/-- What happens to the books. -/
inductive Event where
  /-- any change of the money tables -/
  | change (data : Data)
  /-- `resolve_item` -/
  | resolve (dedupeKey : String) (at_ : ℤ)
  | call (c : Call)

/-- `resolve_item`: an item that is resolved already is left as it is. -/
def Item.resolve (dedupeKey : String) (at_ : ℤ) (i : Item) : Item :=
  if i.dedupeKey = dedupeKey ∧ i.resolvedAt = none then { i with resolvedAt := some at_ } else i

def step (rd : Reads) (b : Books) : Event → Books
  | .change data => { b with data := data }
  | .resolve dedupeKey at_ => { b with items := b.items.map (Item.resolve dedupeKey at_) }
  | .call c => b.runOne rd c

end SaaradhiGo.Reconciliation
