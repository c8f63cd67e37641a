/-
The senders of payouts, and what keeps a driver's money back.

Money leaves through `trigger_payout_creation`, which three callers run on withdrawals they have
claimed: the approval executor, the retry of a failed payout and the release of payouts that waited
for a rail.  The weekly run opens withdrawals and sends nothing.  Each caller is a program of
database operations, so that a webhook, a hold or another caller may come between any two of them.
-/
import SaaradhiGo.Payouts.Weekly

namespace SaaradhiGo.Payouts.Held

open SaaradhiGo.Money SaaradhiGo.WeeklyPayout Interleave

/-! ## The desk -/

/-- The payout system, the payout holds and the clock. -/
structure Desk where
  world : World
  holds : List PayoutHold
  now : ℕ

/-- `active_payout_hold`. -/
def Desk.onHold (s : Desk) (driver : ℕ) : Bool :=
  s.holds.any fun hold => hold.driver = driver && hold.active && s.now < hold.expiresAt

def Desk.withDb (s : Desk) (db : Db) : Desk := { s with world := { s.world with db := db } }

/-- Nothing keeps the driver's money back: no payout is in conflict and no hold is active. -/
def Clear (s : Desk) (driver : ℕ) : Prop :=
  s.world.db.hasOpenConflict driver = false ∧ s.onHold driver = false

def Desk.awaitingRail (s : Desk) : List Withdrawal :=
  s.world.db.withdrawals.rows.filter fun w =>
    w.status = .approved && w.payoutStatus = some "awaiting_rail"

/-! ## Operations -/

/-- The operations of the senders. -/
inductive DeskOp where
  /-- the transaction of `_approve_one` -/
  | approveOne (id : ℕ) (hasHandle : Bool) (now : ℕ)
  /-- the transaction of `retry_failed` -/
  | retryDebit (id : ℕ)
  /-- the query of `release_awaiting_rail` -/
  | awaitingRail
  /-- the transaction of `_create_one` -/
  | createScheduled (i : ScheduleInput)
  /-- an operation of `trigger_payout_creation` -/
  | dispatch (o : DispatchOp)

/-- The answers of the operations. -/
@[reducible] def DeskAns : DeskOp → Type
  | .approveOne _ _ _ => Option Withdrawal
  | .retryDebit _ => Except String Withdrawal
  | .awaitingRail => List Withdrawal
  | .createScheduled _ => Unit
  | .dispatch o => DispatchAns o

/-- One operation on the desk. -/
def deskExec : Exec DeskOp DeskAns Desk Choice
  | .approveOne id hasHandle now, _, s =>
      match approveOne s.world.db id hasHandle now with
      | some (w, db) => (some w, s.withDb db)
      | none => (none, s)
  | .retryDebit id, _, s =>
      match retryDebit s.world.db id with
      | .ok (w, db) => (.ok w, s.withDb db)
      | .error code => (.error code, s)
  | .awaitingRail, _, s => (s.awaitingRail, s)
  | .createScheduled i, _, s =>
      match createScheduled s.world.db { i with payoutHold := s.onHold i.driver } with
      | some db => ((), s.withDb db)
      | none => ((), s)
  | .dispatch o, e, s => ((exec o e s.world).1, { s with world := (exec o e s.world).2 })

/-! ## Senders -/

abbrev Sender : Type := Prog DeskOp DeskAns Unit

/-- `trigger_payout_creation` within a sender; what it answers is not used. -/
def lift : Dispatch → Sender → Sender
  | .ret _, rest => rest
  | .op o k, rest => .op (.dispatch o) fun a => lift (k a) rest

/-- Payouts are sent one after the other. -/
def sendAll (env : Withdrawal → DispatchEnv) : List Withdrawal → Sender
  | [] => .ret ()
  | w :: ws => lift (triggerPayoutCreation (env w) w) (sendAll env ws)

/-- `execute_payout`: the withdrawals are approved one by one, and then those that were are
sent. -/
def executePayout (hasHandle : ℕ → Bool) (env : Withdrawal → DispatchEnv) (now : ℕ) :
    List ℕ → List Withdrawal → Sender
  | [], approved => sendAll env approved
  | id :: ids, approved => .op (.approveOne id (hasHandle id) now) fun
      | none => executePayout hasHandle env now ids approved
      | some w => executePayout hasHandle env now ids (approved ++ [w])

def retryFailed (env : Withdrawal → DispatchEnv) (id : ℕ) : Sender :=
  .op (.retryDebit id) fun
    | .ok w => sendAll env [w]
    | .error _ => .ret ()

def releaseAwaitingRail (env : Withdrawal → DispatchEnv) : Sender :=
  .op .awaitingRail fun held => sendAll env (held.filter fun w => hasRail w.currency)

/-- `run_country`: withdrawals are opened; the request for them goes to a checker. -/
def runCountry : List ScheduleInput → Sender
  | [] => .ret ()
  | i :: inputs => .op (.createScheduled i) fun _ => runCountry inputs

/-- The ways in. -/
inductive Entry where
  | executePayout (ids : List ℕ) (hasHandle : ℕ → Bool) (env : Withdrawal → DispatchEnv) (now : ℕ)
  | retryFailed (id : ℕ) (env : Withdrawal → DispatchEnv)
  | releaseAwaitingRail (env : Withdrawal → DispatchEnv)
  | runCountry (inputs : List ScheduleInput)

/-- The program of an entry. -/
def sender : Entry → Desk → Sender
  | .executePayout ids hasHandle env now, _ => Held.executePayout hasHandle env now ids []
  | .retryFailed id env, _ => Held.retryFailed env id
  | .releaseAwaitingRail env, _ => Held.releaseAwaitingRail env
  | .runCountry inputs, _ => Held.runCountry inputs

/-! ## The surroundings -/

/-- What else happens to the desk. -/
inductive Outside where
  /-- a webhook of the payout provider; a success after the refund raises a conflict -/
  | webhook (p : Payload) (now : ℕ)
  | request (i : RequestInput)
  | reject (id : ℕ) (reason : String) (now : ℕ)
  | resolvePaid (id : ℕ) (reason : String)
  | otherMoney (w : Wallet) (delta : ℤ)
  /-- `execute_payout_hold` -/
  | placeHold (hold : PayoutHold)
  /-- `release_payout_hold` -/
  | releaseHold (driver : ℕ)
  | tick (seconds : ℕ)

/-- The effect of the surroundings. -/
def outside : Outside → Desk → Desk
  | .webhook p now, s => s.withDb (handlePayoutWebhook s.world.db p now).2
  | .request i, s =>
      match requestWithdrawal s.world.db { i with payoutHold := s.onHold i.driver } with
      | .ok db => s.withDb db
      | .error _ => s
  | .reject id reason now, s =>
      match rejectOne s.world.db id reason now with
      | .ok db => s.withDb db
      | .error _ => s
  | .resolvePaid id reason, s =>
      match s.world.db.withdrawals.get? id with
      | some w =>
          if w.status = .conflict then
            s.withDb (s.world.db.save { w with
              status := .completed
              failureReason := some reason
              processedAt := some (w.processedAt.getD s.now) }
              [.status, .failureReason, .processedAt])
          else s
      | none => s
  | .otherMoney w delta, s =>
      match s.world.db.wallets.get? w.key with
      | some w => s.withDb { s.world.db with wallets := s.world.db.wallets.addMinor w delta }
      | none => s
  | .placeHold hold, s => { s with holds := hold :: s.holds }
  | .releaseHold driver, s =>
      { s with holds := s.holds.map fun hold =>
          if hold.driver = driver then { hold with active := false } else hold }
  | .tick seconds, s => { s with now := s.now + seconds }

/-- The driver that an operation sends a payout to. -/
def payee : DeskOp → Option ℕ
  | .dispatch (.createUpiPayout w) => some w.driver
  | _ => none

section Pool

variable {τ : Type} [DecidableEq τ]

abbrev SenderPool (τ : Type) : Type := Pool DeskOp DeskAns Unit Desk τ Entry

abbrev SenderMove (τ : Type) : Type := Move τ Choice Entry Outside

def deskStep (p : SenderPool τ) (m : SenderMove τ) : SenderPool τ :=
  Pool.step deskExec sender outside p m

/-- A payout goes to the provider only while nothing keeps the driver's money back. -/
def SendsClear (p : SenderPool τ) : SenderMove τ → Prop
  | .advance t _ => ∀ o d, p.nextOp t = some o → payee o = some d → Clear p.store d
  | _ => True

/-! ## The condition -/

/-- The drivers a sender has claimed a withdrawal of and may still send to. -/
def Pending : Sender → ℕ → Prop
  | .ret _, _ => False
  | .op (.approveOne _ _ _) k, d => Pending (k none) d
  | .op (.retryDebit _) k, d => Pending (k (.error "")) d
  | .op .awaitingRail k, d => Pending (k []) d
  | .op (.createScheduled _) k, d => Pending (k ()) d
  | .op (.dispatch o) k, d => payee (.dispatch o) = some d ∨ ∃ a, Pending (k a) d

/-- A claim is made only while nothing keeps the driver's money back; that there is no conflict
is something `_approve_one` checks for itself. -/
def Admits : DeskOp → Choice → Desk → Prop
  | .approveOne id _ _, _, s =>
      ∀ w, s.world.db.withdrawals.get? id = some w → s.onHold w.driver = false
  | .retryDebit id, _, s =>
      ∀ w, s.world.db.withdrawals.get? id = some w → Clear s w.driver
  | .awaitingRail, _, s =>
      ∀ w ∈ s.awaitingRail, hasRail w.currency = true → Clear s w.driver
  | _, _, _ => True

/-- The surroundings begin to keep a driver's money back. -/
def Stops : Outside → Desk → ℕ → Prop
  | .webhook p _, s, d => PayoutEvent.ofText p.event = .success ∧
      ∃ w, findWithdrawal s.world.db p = some w ∧ w.status ∈ refundedStatuses ∧ w.driver = d
  | .placeHold hold, _, d => hold.driver = d
  | _, _, _ => False

/-- The moves that keep the rule: claims are made as `Admits` has it, and no conflict is raised
and no hold placed for a driver while a sender may still send to the driver. -/
def Gated (p : SenderPool τ) : SenderMove τ → Prop
  | .advance t e => ∀ o ∈ p.nextOp t, Admits o e p.store
  | .start _ _ => True
  | .outside x => ∀ t a q d, p.Running t a q → Pending q d → ¬ Stops x p.store d

end Pool

end SaaradhiGo.Payouts.Held
