/-
The outbox of notifications: one row for each recipient and channel, the dispatcher that
sends a row, the sweep for rows a lost worker left behind, and the webhooks of the providers.

Every statement of these is a transaction of its own, and between two statements of one call
any other call may run; a worker may die between any two.  Each call is therefore a program
over the outbox (`Interleave.Prog`).  What the preferences, the provider, the rate limit and
the clock answer is an external choice.

The outbox keeps one record that the code does not: which row each call of an adapter was
started for.
-/
import SaaradhiGo.Lib.Interleave
import SaaradhiGo.Lib.Table
import Mathlib.Algebra.Ring.Nat
import Mathlib.Data.List.Sort

namespace SaaradhiGo.Notifications

open Interleave

/-! ## Rows -/

/-- `CHANNELS`. -/
inductive Channel where
  | sms
  | whatsapp
  | email
  | push
  | inApp
deriving DecidableEq, Repr

def Channel.text : Channel → String
  | sms => "sms"
  | whatsapp => "whatsapp"
  | email => "email"
  | push => "push"
  | inApp => "in_app"

/-- `MESSAGE_STATUSES`. -/
inductive Status where
  | queued
  | sending
  | sent
  | delivered
  | failed
  | suppressed
deriving DecidableEq, Repr

/-- `TERMINAL`: the dispatcher never touches a row again. -/
def terminal : List Status := [.sent, .delivered, .failed, .suppressed]

lemma not_terminal_iff {status : Status} :
    status ∉ terminal ↔ status = .queued ∨ status = .sending := by
  cases status <;> decide

/-- `NotificationMessage`. -/
structure Message where
  id : ℕ
  channel : Channel
  provider : String
  providerMessageId : String
  status : Status
  suppressionReason : String
  attempts : ℕ
  lastError : String
  idempotencyKey : String
  notBefore : Option ℕ
  createdAt : ℕ
  updatedAt : ℕ
deriving DecidableEq, Repr

/-- Who reports a status. -/
inductive Source where
  | dispatcher
  | webhook (provider : String)
deriving DecidableEq, Repr

/-- `NotificationStatusEvent`. -/
structure StatusEvent where
  message : ℕ
  status : Status
  provider : String
  providerMessageId : String
  source : Source
  detail : String
deriving DecidableEq, Repr

/-- The rows, their events, and the rows the adapters were called for. -/
structure Outbox where
  messages : Table Message.id
  nextId : ℕ
  events : List StatusEvent
  calls : List ℕ

/-- `NOTIFY_MAX_ATTEMPTS` and `NOTIFY_BACKOFF_BASE_SECONDS`. -/
structure Config where
  attempts : ℕ
  backoffBase : ℕ

def Config.maxAttempts (c : Config) : ℕ := max 1 c.attempts

/-- `backoff_seconds`: doubled with each attempt, at most an hour. -/
def Config.backoffSeconds (c : Config) (attempts : ℕ) : ℕ :=
  min 3600 (c.backoffBase * 2 ^ (attempts - 1))

/-- `STUCK_SENDING_MINUTES`, in seconds. -/
def stuckSending : ℕ := 600

def settleSeconds : ℕ := 20

def sweepBatch : ℕ := 1000

/-- `text[:n]`. -/
def sliceTo (n : ℕ) (text : String) : String := String.ofList (text.toList.take n)

/-- `f'{idempotency_key}:{channel}'[:200]`. -/
def messageKey (idempotencyKey : String) (channel : Channel) : String :=
  sliceTo 200 (idempotencyKey ++ ":" ++ channel.text)

/-! ## What is decided outside -/

/-- `decide` at send time, and whether the recipient still exists. -/
inductive Verdict where
  | noRecipient
  | suppressed (reason provider : String)
  | held (until' : ℕ)
  | go (provider : String)
deriving DecidableEq, Repr

/-- What becomes of a new row: its template misses a variable, or `decide` at notify time. -/
inductive Draft where
  | failed (error provider : String)
  | suppressed (reason provider : String)
  | queued (provider : String) (notBefore : Option ℕ)
deriving DecidableEq, Repr

/-- What an adapter answers. -/
inductive SendAnswer where
  /-- `SendResult`, with status `delivered` from the in-app provider and `sent` from the others -/
  | accepted (providerMessageId : String) (delivered : Bool)
  | transient (error : String)
  | permanent (error : String)
  | raised (name : String)
deriving DecidableEq, Repr

/-- The surroundings of one statement. -/
structure Choice where
  now : ℕ
  verdict : Verdict
  draft : Draft
  /-- `_rate_ok` -/
  allowed : Bool
  /-- an exception before the adapter is called -/
  refused : Option String
  answer : SendAnswer
  /-- `_scrub` finds something to drop -/
  scrubs : Bool
deriving Repr

/-! ## Statements -/

/-- `_ADVANCE`: the statuses from which a webhook moves a row. -/
def advanceFrom : Status → List Status
  | .delivered => [.queued, .sending, .sent, .failed]
  | .failed => [.sent, .sending]
  | .sent => [.queued, .sending]
  | _ => []

namespace Outbox

/-- Update the row `id`, if there is one. -/
def modify (s : Outbox) (id : ℕ) (f : Message → Message) : Outbox :=
  match s.messages.get? id with
  | none => s
  | some m => { s with messages := s.messages.put { f m with id := m.id } }

def findKey (s : Outbox) (key : String) : Option Message :=
  s.messages.rows.find? fun m => m.idempotencyKey = key

/-- `record_event`: whether the event is new. -/
def record (s : Outbox) (e : StatusEvent) : Bool × Outbox :=
  if e.providerMessageId ≠ "" ∧ s.events.any (fun x => x.provider = e.provider &&
      x.providerMessageId = e.providerMessageId && x.status = e.status) then (false, s)
  else (true, { s with events := s.events ++ [e] })

/-- The new row of a draft. -/
def draftRow (s : Outbox) (key : String) (channel : Channel) (now : ℕ) (d : Draft) : Message where
  id := s.nextId
  channel := channel
  provider := match d with
    | .failed _ provider => provider
    | .suppressed _ provider => provider
    | .queued provider _ => provider
  providerMessageId := ""
  status := match d with
    | .failed _ _ => .failed
    | .suppressed _ _ => .suppressed
    | .queued _ _ => .queued
  suppressionReason := match d with
    | .suppressed reason _ => reason
    | _ => ""
  attempts := 0
  lastError := match d with
    | .failed error _ => sliceTo 500 error
    | _ => ""
  idempotencyKey := key
  notBefore := match d with
    | .queued _ notBefore => notBefore
    | _ => none
  createdAt := now
  updatedAt := now

/-- `_create`: the row and its first event in one transaction, which the unique key refuses. -/
def create (s : Outbox) (key : String) (channel : Channel) (now : ℕ) (d : Draft) :
    Option ℕ × Outbox :=
  if (s.findKey key).isSome then (none, s)
  else
    let row := s.draftRow key channel now d
    let detail := match d with
      | .failed error _ => error
      | .suppressed reason _ => reason
      | .queued _ _ => ""
    (some row.id, (record { s with messages := s.messages.put row, nextId := s.nextId + 1 }
      ⟨row.id, row.status, "", "", .dispatcher, detail⟩).2)

def Claimable (m : Message) (now : ℕ) : Prop := m.status = .queued ∧ ∀ t ∈ m.notBefore, t ≤ now

instance (m : Message) (now : ℕ) : Decidable (Claimable m now) :=
  inferInstanceAs (Decidable (_ ∧ _))

/-- The claim of `deliver`: a conditional update. -/
def claim (s : Outbox) (id now : ℕ) : Bool × Outbox :=
  match s.messages.get? id with
  | none => (false, s)
  | some m =>
      if Claimable m now then
        (true, s.modify id fun m =>
          { m with status := .sending, attempts := m.attempts + 1, updatedAt := now })
      else (false, s)

/-- The update of `_finish`. -/
def finish (s : Outbox) (id : ℕ) (status : Status) (error : String) (now : ℕ) : Outbox :=
  s.modify id fun m => { m with status, lastError := sliceTo 500 error, updatedAt := now }

/-- A claimed row goes back without an attempt. -/
def hold (s : Outbox) (id notBefore : ℕ) : Outbox :=
  s.modify id fun m =>
    { m with status := .queued, attempts := m.attempts - 1, notBefore := some notBefore }

/-- The update of `_retry_or_fail` for another attempt. -/
def requeue (s : Outbox) (id now delay : ℕ) (error : String) : Outbox :=
  s.modify id fun m =>
    { m with
      status := .queued
      lastError := sliceTo 500 error
      notBefore := some (now + delay)
      updatedAt := now }

/-- The update of `apply_status`. -/
def advance (s : Outbox) (id : ℕ) (status : Status) (detail : String) (now : ℕ) : Outbox :=
  match s.messages.get? id with
  | none => s
  | some m =>
      if m.status ∈ advanceFrom status then
        s.modify id fun m =>
          { m with
            status
            updatedAt := now
            lastError := if status = .failed then sliceTo 500 detail else "" }
      else s

/-- A row left `sending` for longer than `STUCK_SENDING_MINUTES`. -/
def Stuck (m : Message) (now : ℕ) : Prop := m.status = .sending ∧ m.updatedAt + stuckSending < now

instance (m : Message) (now : ℕ) : Decidable (Stuck m now) :=
  inferInstanceAs (Decidable (_ ∧ _))

/-- Rewrite every row. -/
def rewrite (s : Outbox) (f : Message → Message) (hf : ∀ m, (f m).id = m.id) : Outbox :=
  { s with messages := ⟨s.messages.rows.map f, by
      have hids : (s.messages.rows.map f).map Message.id = s.messages.rows.map Message.id := by
        rw [List.map_map]
        exact List.map_congr_left fun m _ => hf m
      rw [hids]
      exact s.messages.nodup⟩ }

/-- What the first update of `requeue_stuck` does to a row. -/
def failedByLimit (c : Config) (now : ℕ) (m : Message) : Message :=
  if Stuck m now ∧ c.maxAttempts ≤ m.attempts then
    { m with
      status := .failed
      lastError := "worker lost mid-send; dead-lettered at the attempt limit"
      updatedAt := now }
  else m

/-- What the second update of `requeue_stuck` does to a row. -/
def requeuedBySweep (c : Config) (now : ℕ) (m : Message) : Message :=
  if Stuck m now ∧ m.attempts < c.maxAttempts then
    { m with status := .queued, notBefore := none, updatedAt := now }
  else m

@[simp] lemma id_failedByLimit (c : Config) (now : ℕ) (m : Message) :
    (failedByLimit c now m).id = m.id := by
  rw [failedByLimit]
  split
  · rfl
  · rfl

@[simp] lemma id_requeuedBySweep (c : Config) (now : ℕ) (m : Message) :
    (requeuedBySweep c now m).id = m.id := by
  rw [requeuedBySweep]
  split
  · rfl
  · rfl

/-- The first update of `requeue_stuck`. -/
def failStuck (c : Config) (s : Outbox) (now : ℕ) : Outbox :=
  s.rewrite (failedByLimit c now) (id_failedByLimit c now)

/-- The second update of `requeue_stuck`. -/
def requeueStuck (c : Config) (s : Outbox) (now : ℕ) : Outbox :=
  s.rewrite (requeuedBySweep c now) (id_requeuedBySweep c now)

/-- The rows the sweep hands to the workers: the first of them in the order of their keys. -/
def due (s : Outbox) (now : ℕ) : List ℕ :=
  let due := s.messages.rows.filter fun m => Claimable m now ∧ m.createdAt + settleSeconds < now
  ((due.map Message.id).insertionSort (· ≤ ·)).take sweepBatch

end Outbox

/-! ## Operations -/

/-- The statements of the calls. -/
inductive Op where
  -- `enqueue`
  | findKey (key : String)
  | draft
  | create (key : String) (channel : Channel) (d : Draft)
  -- `deliver`, after the claim
  | claim (id now : ℕ)
  | read (id : ℕ)
  | decide (id : ℕ)
  | suppressAs (id : ℕ) (reason provider : String)
  | hold (id notBefore : ℕ)
  | setProvider (id : ℕ) (provider : String)
  | rateOk (id : ℕ)
  | recordSending (id : ℕ) (e : StatusEvent)
  | build (id : ℕ)
  | call (id : ℕ)
  | answer (id : ℕ)
  | setMessageId (id : ℕ) (providerMessageId : String)
  | finish (id : ℕ) (status : Status) (error : String)
  | requeue (id now delay : ℕ) (error : String)
  -- what follows the last change of the status
  | reload (id : ℕ)
  | record (e : StatusEvent)
  | scrub (id : ℕ)
  | setReason (id : ℕ) (reason : String)
  -- webhooks
  | lookUp (provider providerMessageId : String)
  | advance (id : ℕ) (status : Status) (detail : String)
  -- the sweep
  | failStuck (now : ℕ)
  | requeueStuck (now : ℕ)
  | due (now : ℕ)

/-- What an operation answers. -/
@[reducible] def Ans : Op → Type
  | .findKey _ => Option Message
  | .draft => Draft
  | .create _ _ _ => Option ℕ
  | .claim _ _ => Bool
  | .read _ => Option Message
  | .decide _ => Verdict
  | .rateOk _ => Bool
  | .recordSending _ _ => Bool
  | .build _ => Option String
  | .answer _ => SendAnswer
  | .reload _ => Option Message
  | .record _ => Bool
  | .lookUp _ _ => Option Message
  | .due _ => List ℕ
  | _ => Unit

/-- One statement on the outbox. -/
def exec (c : Config) : Exec Op Ans Outbox Choice
  | .findKey key, _, s => (s.findKey key, s)
  | .draft, e, s => (e.draft, s)
  | .create key channel d, e, s => s.create key channel e.now d
  | .claim id now, _, s => s.claim id now
  | .read id, _, s => (s.messages.get? id, s)
  | .decide _, e, s => (e.verdict, s)
  | .suppressAs id reason provider, _, s =>
      ((), s.modify id fun m => { m with suppressionReason := sliceTo 200 reason, provider })
  | .hold id notBefore, _, s => ((), s.hold id notBefore)
  | .setProvider id provider, _, s => ((), s.modify id fun m => { m with provider })
  | .rateOk _, e, s => (e.allowed, s)
  | .recordSending _ event, _, s => s.record event
  | .build _, e, s => (e.refused, s)
  | .call id, _, s => ((), { s with calls := id :: s.calls })
  | .answer _, e, s => (e.answer, s)
  | .setMessageId id providerMessageId, _, s =>
      ((), s.modify id fun m => { m with providerMessageId := sliceTo 200 providerMessageId })
  | .finish id status error, e, s => ((), s.finish id status error e.now)
  | .requeue id now delay error, _, s => ((), s.requeue id now delay error)
  | .reload id, _, s => (s.messages.get? id, s)
  | .record event, _, s => s.record event
  | .scrub id, e, s =>
      ((), if e.scrubs then s.modify id fun m => { m with updatedAt := e.now } else s)
  | .setReason id reason, _, s =>
      ((), s.modify id fun m => { m with suppressionReason := reason })
  | .lookUp provider providerMessageId, _, s =>
      (s.messages.rows.find? fun m =>
        m.provider = provider && m.providerMessageId = providerMessageId, s)
  | .advance id status detail, e, s => ((), s.advance id status detail e.now)
  | .failStuck now, _, s => ((), s.failStuck c now)
  | .requeueStuck now, _, s => ((), s.requeueStuck c now)
  | .due now, _, s => (s.due now, s)

/-! ## Calls -/

/-- What a call returns. -/
inductive Reply where
  | notified (ids : List ℕ)
  /-- `skipped`, `suppressed`, `held`, `sent` and so on -/
  | outcome (word : String)
  | dispatched (ids : List ℕ)
  /-- whether the provider's status was new -/
  | applied (new : Bool)
  | raised
deriving DecidableEq, Repr

abbrev Program : Type := Prog Op Ans Reply

/-- `enqueue` for each channel with a template. -/
def notifyEach (idempotencyKey : String) : List Channel → List ℕ → Program
  | [], ids => .ret (.notified ids)
  | channel :: channels, ids =>
      let key := messageKey idempotencyKey channel
      .op (.findKey key) fun
        | some m => notifyEach idempotencyKey channels (ids ++ [m.id])
        | none => .op .draft fun d =>
            .op (.create key channel d) fun
              | some id => notifyEach idempotencyKey channels (ids ++ [id])
              | none =>
                  -- lost a race to another writer with the same key: theirs is the answer
                  .op (.findKey key) fun
                    | some m => notifyEach idempotencyKey channels (ids ++ [m.id])
                    | none => .ret .raised

/-- What `_finish` does after its update. -/
def afterFinish (id : ℕ) (status : Status) (detail : String) (k : Program) : Program :=
  .op (.reload id) fun
    | none => .ret .raised
    | some m =>
        .op (.record ⟨id, status, m.provider, m.providerMessageId, .dispatcher, detail⟩) fun _ =>
          .op (.scrub id) fun _ => k

/-- `_finish`. -/
def finishAs (id : ℕ) (status : Status) (detail error : String) (k : Program) : Program :=
  .op (.finish id status error) fun _ => afterFinish id status detail k

def retryOrFail (c : Config) (id now : ℕ) (error : String) : Program :=
  .op (.read id) fun
    | none => .ret .raised
    | some m =>
        if c.maxAttempts ≤ m.attempts then
          let text := "dead-lettered after " ++ m.attempts.repr ++ " attempts: " ++ error
          finishAs id .failed text text (.ret (.outcome "dead_letter"))
        else
          let delay := c.backoffSeconds m.attempts
          .op (.requeue id now delay error) fun _ =>
            .op (.record ⟨id, .queued, m.provider, m.providerMessageId, .dispatcher,
                "retry in " ++ delay.repr ++ "s: " ++ error⟩) fun _ =>
              .ret (.outcome "retry")

/-- `deliver`, once the adapter is built. -/
def send (c : Config) (id now : ℕ) : Program :=
  .op (.call id) fun _ =>
    .op (.answer id) fun
      | .accepted providerMessageId delivered =>
          let status : Status := if delivered then .delivered else .sent
          .op (.setMessageId id providerMessageId) fun _ =>
            finishAs id status "accepted by provider" ""
              (.ret (.outcome (if delivered then "delivered" else "sent")))
      | .transient error => retryOrFail c id now error
      | .permanent error => finishAs id .failed error error (.ret (.outcome "failed"))
      | .raised name => retryOrFail c id now name

/-- `deliver`, once the provider is decided. -/
def sendIfAllowed (c : Config) (id : ℕ) (m : Message) (provider : String) (now : ℕ) : Program :=
  .op (.rateOk id) fun
    | false => .op (.hold id (now + 60)) fun _ => .ret (.outcome "rate_limited")
    | true =>
        .op (.recordSending id ⟨id, .sending, provider, m.providerMessageId, .dispatcher,
            "attempt " ++ m.attempts.repr⟩) fun _ =>
          .op (.build id) fun
            | some name => retryOrFail c id now name
            | none => send c id now

/-- `deliver`, on the row it has claimed. -/
def deliverClaimed (c : Config) (id : ℕ) (m : Message) (now : ℕ) : Program :=
  .op (.decide id) fun
    | .noRecipient =>
        finishAs id .suppressed "recipient no longer exists" ""
          (.op (.setReason id "recipient no longer exists") fun _ =>
            .ret (.outcome "suppressed"))
    | .suppressed reason provider =>
        .op (.suppressAs id reason provider) fun _ =>
          finishAs id .suppressed reason "" (.ret (.outcome "suppressed"))
    | .held notBefore => .op (.hold id notBefore) fun _ => .ret (.outcome "held")
    | .go provider =>
        if provider = m.provider then sendIfAllowed c id m provider now
        else .op (.setProvider id provider) fun _ => sendIfAllowed c id m provider now

/-- `deliver`, once the claim is answered. -/
def afterClaim (c : Config) (id now : ℕ) (claimed : Bool) : Program :=
  if claimed then
    .op (.read id) fun
      | none => .ret .raised
      | some m => deliverClaimed c id m now
  else .ret (.outcome "skipped")

def deliver (c : Config) (id now : ℕ) : Program := .op (.claim id now) (afterClaim c id now)

/-- `apply_status` of the row a webhook names. -/
def applyStatus (provider providerMessageId : String) (status : Status) (detail : String) :
    Program :=
  .op (.lookUp provider providerMessageId) fun
    | none => .ret (.applied false)
    | some m =>
        .op (.record ⟨m.id, status, provider, providerMessageId, .webhook provider, detail⟩) fun
          | false => .ret (.applied false)
          | true => .op (.advance m.id status detail) fun _ => .ret (.applied true)

/-- `dispatch_queued`: `requeue_stuck`, then the rows that are due. -/
def dispatchQueued (now : ℕ) : Program :=
  .op (.failStuck now) fun _ =>
    .op (.requeueStuck now) fun _ =>
      .op (.due now) fun ids => .ret (.dispatched ids)

/-- The calls. -/
inductive Call where
  | notify (idempotencyKey : String) (channels : List Channel)
  | deliver (id now : ℕ)
  | webhook (provider providerMessageId : String) (status : Status) (detail : String)
  | dispatchQueued (now : ℕ)
deriving DecidableEq, Repr

def program (c : Config) : Call → Program
  | .notify idempotencyKey channels => notifyEach idempotencyKey channels []
  | .deliver id now => deliver c id now
  | .webhook provider providerMessageId status detail =>
      applyStatus provider providerMessageId status detail
  | .dispatchQueued now => dispatchQueued now

end SaaradhiGo.Notifications
