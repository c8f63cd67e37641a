/-
The payout dispatcher: `trigger_payout_creation` and `initiate_upi_payout`.

The dispatcher holds an instance of the withdrawal across a call to the payment provider
and a series of saves, each of which is a statement of its own, and it takes no lock.  It
is therefore modelled as a program over the database (`Interleave.Prog`), with one
operation for each save, for the provider call, for the count of earlier retries and for
the refund.  A `raised` answer of an operation is an exception at that point; where it
goes from there is an argument of the piece of code that performs the operation.
-/
import SaaradhiGo.Lib.Interleave
import SaaradhiGo.Payouts.Withdrawal

namespace SaaradhiGo.Payouts

open SaaradhiGo.Money Interleave

/-- The result of a payout the provider accepted. -/
structure PayoutResult where
  payoutId : Option String
  status : Option String
deriving DecidableEq, Repr

/-- What comes back from `gateway.create_upi_payout`. -/
inductive ProviderAnswer where
  | accepted (result : PayoutResult)
  /-- `None`: a definite refusal, no money moved -/
  | refused
  /-- `PayoutDispatchUnknown`: the request was issued and the answer was lost; `paid`
  says whether the provider took it -/
  | unknown (paid : Bool)
  /-- any other exception; `paid` says whether the provider took the request before it -/
  | raised (message : String) (paid : Bool)
deriving DecidableEq, Repr

/-- The operations of the dispatcher. -/
inductive DispatchOp where
  /-- `withdrawal.save(update_fields=fields)` -/
  | save (w : Withdrawal) (fields : List Field)
  | createUpiPayout (w : Withdrawal)
  /-- the `DriverUPIContact` is saved; its exceptions are swallowed -/
  | saveContact
  /-- the count that `failed_refund_reference` makes -/
  | failedRefundReference (w : Withdrawal)
  /-- `refund_failed_withdrawal` -/
  | refund (w : Withdrawal) (ref : Ref)

/-- The answers of the operations. -/
@[reducible] def DispatchAns : DispatchOp → Type
  | .save _ _ => DbAnswer
  | .createUpiPayout _ => ProviderAnswer
  | .saveContact => Unit
  | .failedRefundReference _ => Ref
  | .refund _ _ => DbAnswer

/-- What the surroundings decide about one operation: whether the database raises, and
what the provider answers. -/
structure Choice where
  dbRaises : Option String
  provider : ProviderAnswer
deriving DecidableEq, Repr

/-- The database, and the withdrawals whose payout the provider has taken. -/
structure World where
  db : Db
  accepted : List ℕ

def ProviderAnswer.took : ProviderAnswer → Bool
  | .accepted _ => true
  | .refused => false
  | .unknown paid => paid
  | .raised _ paid => paid

/-- One operation of the dispatcher on the world. -/
def exec : Exec DispatchOp DispatchAns World Choice
  | .save w fields, e, s =>
      match e.dbRaises with
      | some m => (.raised m, s)
      | none => (.done, { s with db := s.db.save w fields })
  | .createUpiPayout w, e, s =>
      (e.provider, { s with accepted := if e.provider.took then w.id :: s.accepted else s.accepted })
  | .saveContact, _, s => ((), s)
  | .failedRefundReference w, _, s => (failedRefundReference s.db.ledger.rows w.id, s)
  | .refund w ref, e, s =>
      match e.dbRaises with
      | some m => (.raised m, s)
      | none => ((refundFailed s.db w ref).1, { s with db := (refundFailed s.db w ref).2 })

/-- The dispatcher's program; it returns whether the payout was initiated. -/
abbrev Dispatch : Type := Prog DispatchOp DispatchAns Bool

/-- What a dispatch finds outside the withdrawal: the clock, the driver's UPI id and the
verdict of `validate_upi_id_advanced` on it, the country's payout provider. -/
structure DispatchEnv where
  now : ℕ
  upiId : Option String
  upiValidation : String → Bool × String
  payoutCountry : String
  gatewayConfigured : Bool

/-- Save the instance and go on, or go to `raised` when the save raises. -/
def saveThen (w : Withdrawal) (fields : List Field) (raised : String → Dispatch)
    (k : Dispatch) : Dispatch :=
  .op (.save w fields) fun
    | .raised m => raised m
    | _ => k

/-- `refund_failed_withdrawal`: the reference is worked out, then the refund is written in
a transaction of its own. -/
def refundThen (w : Withdrawal) (raised : Dispatch) (k : Dispatch) : Dispatch :=
  .op (.failedRefundReference w) fun ref =>
    .op (.refund w ref) fun
      | .raised _ => raised
      | _ => k

def failureFields : List Field := [.status, .failureReason, .processedAt]

/-- The instance of a failed dispatch: `reason` is kept only when it has none yet. -/
def markFailed (w : Withdrawal) (now : ℕ) (reason : String) : Withdrawal :=
  { w with
    status := .failed
    failureReason := if truthy w.failureReason then w.failureReason else some reason
    processedAt := some now }

/-- The outer `except Exception` of `trigger_payout_creation`: fail and refund, and log
when that raises too. -/
def unexpectedError (now : ℕ) (w : Withdrawal) : Dispatch :=
  let w := markFailed w now "Unexpected error while initiating payout"
  saveThen w failureFields (fun _ => .ret false) <|
    refundThen w (.ret false) (.ret false)

/-- Save a failed instance and refund the wallet. -/
def failAndRefund (now : ℕ) (w : Withdrawal) : Dispatch :=
  saveThen w failureFields (fun _ => unexpectedError now w) <|
    refundThen w (unexpectedError now w) (.ret false)

/-- A failed attempt as `initiate_upi_payout` records it on the instance. -/
def noteFailure (w : Withdrawal) (now : ℕ) (reason : String) : Withdrawal :=
  { w with
    failureReason := some reason
    failureCount := w.failureCount + 1
    lastFailureAt := some now }

def attemptFields : List Field := [.failureReason, .failureCount, .lastFailureAt]

/-- The instance of a payout the provider accepted. -/
def markAccepted (w : Withdrawal) (now : ℕ) (payoutId : String) (status : Option String) :
    Withdrawal :=
  { w with
    payoutReferenceId := some payoutId
    payoutStatus := some (status.getD "created")
    payoutMode := some "UPI"
    status := .processed
    processedAt := some now
    failureCount := 0
    lastFailureAt := none
    failureReason := none }

/-- The columns the accepted payout is saved with. -/
def acceptedFields : List Field :=
  [.payoutReferenceId, .payoutStatus, .payoutMode, .status, .processedAt, .failureCount,
    .lastFailureAt, .failureReason]

def maxRetries : ℕ := 1

/-- The inner `except Exception` of `initiate_upi_payout`: record the failure and answer
`False`; a save that raises here leaves the function. -/
def broadHandler (now : ℕ) (w : Withdrawal) (returns : Bool → Withdrawal → Dispatch)
    (raises : Withdrawal → Dispatch) (message : String) : Dispatch :=
  let w := noteFailure w now (sliceTo 255 message)
  saveThen w attemptFields (fun _ => raises w) (returns false w)

/-- `initiate_upi_payout`.  It returns an answer with the instance as it left it, or
raises `PayoutDispatchUnknown`, or raises anything else.

With `max_retries = 1` the retry delay after it is never reached: a failure count above
zero has already been refused. -/
def initiateUpiPayout (env : DispatchEnv) (w : Withdrawal)
    (returns : Bool → Withdrawal → Dispatch) (unknown : Withdrawal → Dispatch)
    (raises : Withdrawal → Dispatch) : Dispatch :=
  let refuse (reason : String) : Dispatch :=
    let w := noteFailure w env.now reason
    saveThen w attemptFields (fun _ => raises w) (returns false w)
  if w.currency ≠ .inr then
    refuse "UPI payouts settle in INR; this withdrawal is in USD"
  else if !truthy env.upiId then
    refuse "UPI ID not set"
  else if !(env.upiValidation (env.upiId.getD "")).1 then
    refuse ("Invalid UPI ID: " ++ (env.upiValidation (env.upiId.getD "")).2)
  else if truthy w.payoutReferenceId then
    returns true w
  else if maxRetries ≤ w.failureCount then
    let w := { w with failureReason := some "Max retries exceeded" }
    saveThen w [.failureReason] (fun _ => raises w) (returns false w)
  else
    -- the `try` block: from here an exception other than `PayoutDispatchUnknown` is caught
    let caught (w : Withdrawal) (message : String) : Dispatch :=
      broadHandler env.now w returns raises message
    let refuseCaught (reason : String) : Dispatch :=
      let w := noteFailure w env.now reason
      saveThen w attemptFields (caught w) (returns false w)
    if !env.gatewayConfigured then
      refuseCaught ("No payout provider is configured for " ++
        (if env.payoutCountry = "" then "this market" else env.payoutCountry))
    else
      .op (.createUpiPayout w) fun
        | .refused => refuseCaught "Cashfree payout creation failed"
        | .accepted result =>
            if !truthy result.payoutId then
              refuseCaught "Cashfree payout response did not contain payout_id"
            else
              let w := markAccepted w env.now (result.payoutId.getD "") result.status
              saveThen w acceptedFields (caught w) <|
                .op .saveContact fun _ => returns true w
        | .unknown _ => unknown w
        | .raised message _ => caught w message

/-- `RAILS`: the currencies with a payout rail. -/
def hasRail (c : Currency) : Bool := c = .inr

/-- The reason stored with an unknown outcome. -/
def unknownReason : String :=
  "Provider outcome unknown - payout request was issued but no " ++
  "response was received. Wallet NOT refunded. A human must " ++
  "check Cashfree for this transferId before this row moves to " ++
  "processed or failed."

/-- `trigger_payout_creation` on the instance `w`. -/
def triggerPayoutCreation (env : DispatchEnv) (w : Withdrawal) : Dispatch :=
  if ¬ (w.status = .approved ∨ w.status = .processed) then .ret false
  else if !hasRail w.currency then
    -- `payout_rails.hold`: it waits for a rail, and nothing is sent or refunded
    let w := { w with payoutStatus := some "awaiting_rail" }
    saveThen w [.payoutStatus] (fun _ => unexpectedError env.now w) (.ret false)
  else
    match w.payoutMethod with
    | .bank =>
        failAndRefund env.now { w with
          status := .failed
          failureReason :=
            some "Bank payout is not currently configured with the payment gateway."
          processedAt := some env.now }
    | .other method =>
        failAndRefund env.now { w with
          status := .failed
          failureReason := some ("Unsupported payout method: " ++ method)
          processedAt := some env.now }
    | .upi =>
        initiateUpiPayout env w
          (fun success w =>
            if success then
              let w := { w with status := .processed, processedAt := some env.now }
              saveThen w [.status, .processedAt] (fun _ => unexpectedError env.now w) (.ret true)
            else
              failAndRefund env.now (markFailed w env.now "Payout initiation failed"))
          (fun w =>
            let w := { w with
              status := .unresolved
              failureReason := some unknownReason
              processedAt := some env.now }
            saveThen w failureFields (fun _ => unexpectedError env.now w) (.ret false))
          (unexpectedError env.now)

end SaaradhiGo.Payouts
