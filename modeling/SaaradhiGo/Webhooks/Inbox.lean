/-
The webhook endpoints and their inbox.

A delivery is answered by one of four endpoints.  Each writes a row into the inbox before it
calls its handler, and the row is the only thing that tells a duplicate from a first
delivery.  The Cashfree endpoints leave the row when the handler raises; the Razorpay
endpoints delete it.  The world is the inbox with two books no code reads: the handlers that
ran to completion, and the events a delivery was answered for as processed.
-/
import SaaradhiGo.Lib.Interleave
import SaaradhiGo.Lib.Table
import Mathlib.Data.Int.Notation

namespace SaaradhiGo.Webhooks

open Interleave

/-! ## Deliveries -/

inductive Endpoint where
  | paymentWebhook
  | payoutWebhook
  | razorpayWebhook
  | razorpayxWebhook
deriving DecidableEq, Repr

/-- The `gateway` of the rows an endpoint writes. -/
def Endpoint.gateway : Endpoint → String
  | .paymentWebhook | .payoutWebhook => "cashfree"
  | .razorpayWebhook => "razorpay"
  | .razorpayxWebhook => "razorpayx"

abbrev Event : Type := Endpoint × String

/-- What the endpoints read of a body. -/
structure Payload where
  /-- the event the body reports -/
  event : String
  /-- its type can be cut to the width of the column -/
  typed : Bool
  /-- a usable `created_at` -/
  createdAt : Option ℤ
deriving DecidableEq, Repr

/-- What `json.loads` makes of a body. -/
inductive Parsed where
  | notJson
  | notObject
  | object (payload : Payload)
deriving DecidableEq, Repr

structure Delivery where
  post : Bool
  body : String
  /-- empty when the header is missing -/
  signature : String
  timestamp : String
  /-- `X-Razorpay-Event-Id`; empty when the header is missing -/
  eventIdHeader : String
  receivedAt : ℤ
deriving DecidableEq, Repr

/-- What the endpoints find in their surroundings. -/
structure Env where
  /-- the verifier of an endpoint, on a body with its signature and timestamp -/
  verifies : Endpoint → String → String → String → Bool
  configured : Endpoint → Bool
  loads : String → Parsed
  sha256 : String → String
  /-- `RAZORPAY_WEBHOOK_MAX_AGE_SECONDS` -/
  maxAge : ℤ

/-! ## The inbox -/

/-- `gateway` and `dedupe_key`. -/
abbrev Key : Type := String × String

structure WebhookEvent where
  gateway : String
  dedupeKey : String
  payload : Payload
  processed : Bool
deriving DecidableEq, Repr

/-- `webhook_event_unique_per_gateway`. -/
def WebhookEvent.key (row : WebhookEvent) : Key := (row.gateway, row.dedupeKey)

def cut (n : ℕ) (s : String) : String := String.ofList (s.toList.take n)

def dedupeKey (env : Env) (endpoint : Endpoint) (d : Delivery) : String :=
  match endpoint with
  | .paymentWebhook | .payoutWebhook => cut 512 d.signature
  | .razorpayWebhook | .razorpayxWebhook => "body:" ++ env.sha256 d.body

def key (env : Env) (endpoint : Endpoint) (d : Delivery) : Key :=
  (endpoint.gateway, dedupeKey env endpoint d)

/-- What a delivery is answered. -/
inductive Answer where
  | methodNotAllowed
  | missingSignature
  | invalidSignature
  | notConfigured
  | invalidPayload
  | internalError
  /-- a replay from beyond the window -/
  | ignored
  | alreadyProcessed
  /-- the answer of the handler, which is 200 whenever it returns -/
  | handled
deriving DecidableEq, Repr

def Answer.status : Answer → ℕ
  | .methodNotAllowed => 405
  | .missingSignature | .invalidSignature | .invalidPayload => 400
  | .notConfigured => 503
  | .internalError => 500
  | .ignored | .alreadyProcessed | .handled => 200

def Answer.accepts (a : Answer) : Bool := a = .alreadyProcessed || a = .handled

/-- The inbox, and the books. -/
structure World where
  inbox : Table WebhookEvent.key
  /-- the handlers that ran to completion, under the key of their row -/
  handled : List (Key × Event)
  /-- the events a delivery was told are processed -/
  told : List Event

/-! ## Operations -/

inductive InboxOp where
  /-- a row keyed by the event id header, as rows were keyed before -/
  | knownHeader (gateway header : String)
  | create (row : WebhookEvent)
  | handle (key : Key) (event : Event)
  | markProcessed (key : Key) (event : Event)
  | delete (key : Key)
  | answer (event : Option Event) (a : Answer)
deriving DecidableEq

inductive Created where
  | inserted
  /-- an `IntegrityError` -/
  | duplicate
  | raised
deriving DecidableEq, Repr

/-- How a handler ends. -/
inductive Handled where
  | returned
  /-- a `JSONDecodeError` or `KeyError` -/
  | badPayload
  | raised
deriving DecidableEq, Repr

/-- The answers of the operations; `none` is a query that raises. -/
@[reducible] def InboxAns : InboxOp → Type
  | .knownHeader _ _ => Option Bool
  | .create _ => Created
  | .handle _ _ => Handled
  | .markProcessed _ _ => Unit
  | .delete _ => Unit
  | .answer _ _ => Unit

/-- What the surroundings decide about one operation. -/
structure Choice where
  dbRaises : Bool
  handler : Handled
deriving DecidableEq, Repr

/-- One operation of a delivery.  Whether a mark or a deletion went through makes no
difference to the answer. -/
def exec : Exec InboxOp InboxAns World Choice
  | .knownHeader gateway header, e, s =>
      (if e.dbRaises then none else some (s.inbox.get? (gateway, header)).isSome, s)
  | .create row, e, s =>
      if e.dbRaises then (.raised, s)
      else match s.inbox.insert? row with
        | none => (.duplicate, s)
        | some inbox => (.inserted, { s with inbox })
  | .handle key event, e, s =>
      (e.handler,
        if e.handler = .returned then { s with handled := (key, event) :: s.handled } else s)
  | .markProcessed key _, e, s =>
      ((), if e.dbRaises then s
        else match s.inbox.get? key with
          | none => s
          | some row => { s with inbox := s.inbox.put { row with processed := true } })
  | .delete key, e, s => ((), if e.dbRaises then s else { s with inbox := s.inbox.erase key })
  | .answer event a, _, s =>
      ((), if a.accepts then { s with told := event.toList ++ s.told } else s)

/-! ## The endpoints -/

abbrev Entry : Type := Prog InboxOp InboxAns Unit

section Programs

variable (env : Env) (endpoint : Endpoint) (d : Delivery) (p : Payload)

def respond (event : Option Event) (a : Answer) : Entry :=
  .op (.answer event a) fun _ => .ret ()

/-- After the handler has returned. -/
def finish : Entry :=
  .op (.markProcessed (key env endpoint d) (endpoint, p.event)) fun _ =>
    respond (some (endpoint, p.event)) .handled

def release : Entry :=
  .op (.delete (key env endpoint d)) fun _ => respond (some (endpoint, p.event)) .internalError

/-- The handler of an endpoint, and what the endpoint does with how it ends. -/
def process : Entry :=
  .op (.handle (key env endpoint d) (endpoint, p.event)) fun
    | .returned => finish env endpoint d p
    | .badPayload =>
        match endpoint with
        | .paymentWebhook | .payoutWebhook => respond (some (endpoint, p.event)) .invalidPayload
        | .razorpayWebhook | .razorpayxWebhook => release env endpoint d p
    | .raised =>
        match endpoint with
        | .paymentWebhook | .payoutWebhook => respond (some (endpoint, p.event)) .internalError
        | .razorpayWebhook | .razorpayxWebhook => release env endpoint d p

/-- Write the row, unless there is one. -/
def receive : Entry :=
  .op (.create ⟨endpoint.gateway, dedupeKey env endpoint d, p, false⟩) fun
    | .inserted => process env endpoint d p
    | .duplicate => respond (some (endpoint, p.event)) .alreadyProcessed
    | .raised => respond (some (endpoint, p.event)) .internalError

/-- The row of this event from before the key was moved to the body. -/
def lookUpHeader : Entry :=
  .op (.knownHeader endpoint.gateway (cut 512 d.eventIdHeader)) fun
    | none => respond (some (endpoint, p.event)) .internalError
    | some true => respond (some (endpoint, p.event)) .alreadyProcessed
    | some false => receive env endpoint d p

/-- `payment_webhook` and `payout_webhook`. -/
def cashfreeWebhook : Entry :=
  if !d.post then respond none .methodNotAllowed
  else if d.signature = "" then respond none .missingSignature
  else if !env.verifies endpoint d.body d.signature d.timestamp then respond none .invalidSignature
  else if !env.configured endpoint then respond none .notConfigured
  else match env.loads d.body with
    | .notJson => respond none .invalidPayload
    | .notObject => respond none .internalError
    | .object p =>
        if !p.typed then respond none .internalError else receive env endpoint d p

def inboxDelivery : Entry :=
  if !d.post then respond none .methodNotAllowed
  else if d.signature = "" || !env.verifies endpoint d.body d.signature "" then
    respond none .invalidSignature
  else match env.loads d.body with
    | .notJson | .notObject => respond none .invalidPayload
    | .object p =>
        match p.createdAt with
        | none => respond none .invalidPayload
        | some createdAt =>
            if d.receivedAt - createdAt > env.maxAge then respond none .ignored
            else if !env.configured endpoint then respond none .notConfigured
            else if d.eventIdHeader = "" then receive env endpoint d p
            else lookUpHeader env endpoint d p

end Programs

def paymentWebhook (env : Env) : Delivery → Entry := cashfreeWebhook env .paymentWebhook

def payoutWebhook (env : Env) : Delivery → Entry := cashfreeWebhook env .payoutWebhook

def razorpayWebhook (env : Env) : Delivery → Entry := inboxDelivery env .razorpayWebhook

def razorpayxWebhook (env : Env) : Delivery → Entry := inboxDelivery env .razorpayxWebhook

/-! ## The system -/

abbrev Request : Type := Endpoint × Delivery

def entry (env : Env) : Request → World → Entry
  | (.paymentWebhook, d), _ => paymentWebhook env d
  | (.payoutWebhook, d), _ => payoutWebhook env d
  | (.razorpayWebhook, d), _ => razorpayWebhook env d
  | (.razorpayxWebhook, d), _ => razorpayxWebhook env d

section System

variable {τ : Type} [DecidableEq τ]

abbrev InboxPool (τ : Type) : Type := Pool InboxOp InboxAns Unit World τ Request

/-- The moves of deliveries; nothing else writes the inbox. -/
abbrev InboxMove (τ : Type) : Type := Move τ Choice Request Empty

/-- One move.  A delivery that is started where another one was running takes the place of a
process that died. -/
def inboxStep (env : Env) (p : InboxPool τ) (m : InboxMove τ) : InboxPool τ :=
  Pool.step exec (entry env) (fun x _ => x.elim) p m

end System

end SaaradhiGo.Webhooks
