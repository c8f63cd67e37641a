/-
Recoveries of rewards.

An admin asks Finance for a recovery of at most what the flag still allows; a checker approves,
and the one worker that approved executes.  The worker reads the flag, what is linked to it, what
was recovered already and what is asked for, one after the other, and only then locks the wallet,
forfeits the held rewards that fit and leaves the rest as a debt.
-/
import SaaradhiGo.Fraud.Flag
import SaaradhiGo.Lib.Fallible
import SaaradhiGo.Lib.TableSum
import SaaradhiGo.Lib.Transition

namespace SaaradhiGo.Fraud

open SaaradhiGo.Money SaaradhiGo.Promotions

/-! ## What a flag still allows -/

def Desk.recoveryApplies (s : Desk) (dir : Directory) (flag : RiskFlag) : Bool :=
  flag.status = .confirmed && flag.kind ∈ rewardKinds &&
    flag.decisionReason.any (· ∈ recoveryReasons) && !(s.linkedEntries dir flag).isEmpty

/-- `_pending_recovery_minor`. -/
def Desk.pendingMinor (s : Desk) (flag : ℕ) : ℤ :=
  s.requests.sum fun r => if r.status = .requested ∧ r.flag = flag then r.amountMinor else 0

def Desk.usedMinor (s : Desk) (flag : ℕ) : ℤ :=
  s.debts.sum fun debt => if debt.flag = flag then debt.requestedMinor else 0

def Desk.recoverableMinor (s : Desk) (dir : Directory) (flag : RiskFlag) : ℤ :=
  if s.recoveryApplies dir flag then
    max 0 (s.linkedMinor dir flag - s.usedMinor flag.id - s.pendingMinor flag.id)
  else 0

/-! ## Asking -/

/-- What an admin asks for, once it was checked. -/
structure Draft where
  flag : ℕ
  user : ℕ
  amountMinor : ℤ
  currency : Currency
  positive : 0 < amountMinor

/-- The checks of `request_recovery`; `granted` is the capability of the admin, `note` the text
without blanks around it and `placed` whether the person has a country. -/
def checkRequest (dir : Directory) (s : Desk) (flag : RiskFlag) (amountMinor : ℤ)
    (granted placed : Bool) (note : String) : Except String Draft :=
  if !s.recoveryApplies dir flag then .error "RECOVERY_NOT_APPLICABLE"
  else if !granted then .error "PERMISSION_DENIED"
  else if hpos : 0 < amountMinor then
    if s.recoverableMinor dir flag < amountMinor then .error "AMOUNT_EXCEEDS_REWARD"
    else if note.length < 5 then .error "INVALID_NOTE"
    else if !placed then .error "COUNTRY_UNKNOWN"
    else
      match s.linkedEntries dir flag with
      | [] => .error "RECOVERY_NOT_APPLICABLE"
      | e :: _ => .ok ⟨flag.id, flag.subject, amountMinor, e.currency, hpos⟩
  else .error "INVALID_AMOUNT"

/-- Raise the request; a key that is held already gives the request it has. -/
def raiseRequest (draft : Draft) (key : String) (s : Desk) : Desk :=
  if s.requests.rows.any fun r => r.idempotencyKey = (draft.flag, key) && r.status.keyHeld then s
  else
    { s with
      requests := s.requests.put
        ⟨s.requests.nextKey, draft.flag, draft.user, draft.amountMinor, draft.currency,
          (draft.flag, key), .requested, draft.positive⟩ }

def RecoveryRequest.withStatus (r : RecoveryRequest) (status : ApprovalStatus) : RecoveryRequest :=
  { r with status }

/-- Decide on a request that is still open. -/
def Desk.decideRequest (s : Desk) (id : ℕ) (status : ApprovalStatus) : Option (RecoveryRequest × Desk) :=
  match s.requests.get? id with
  | some r =>
      if r.status = .requested then
        some (r.withStatus status, { s with requests := s.requests.put (r.withStatus status) })
      else none
  | none => none

/-- `_finish`: only a request that is approved is finished. -/
def Desk.finish (s : Desk) (id : ℕ) (status : ApprovalStatus) : Desk :=
  match s.requests.get? id with
  | some r =>
      if r.status = .approved then { s with requests := s.requests.put (r.withStatus status) } else s
  | none => s

/-! ## Executing -/

/-- What `execute_recovery` refuses or raises. -/
inductive Refused where
  | badRecovery
  | notApplicable
  | exceedsReward
  | currencyChanged
  | integrityError
deriving DecidableEq, Repr

def RecoveryRequest.ownPending (r : RecoveryRequest) : ℤ :=
  if r.status = .requested then r.amountMinor else 0

/-- Where the loop over the held rewards stands. -/
structure Forfeiting where
  wallet : Wallet
  holds : Table RewardHold.key
  takings : Table Taking.idempotencyKey
  remaining : ℤ
  forfeited : ℤ

def RewardHold.forfeit (hold : RewardHold) (request : ℕ) : RewardHold :=
  { hold with status := .forfeited, forfeitedVia := some request }

/-- The body of the loop over the held rewards: one that fits is forfeited. -/
def forfeitOne (request user : ℕ) (acc : Forfeiting) (hold : RewardHold) :
    Except Refused Forfeiting :=
  if acc.remaining < hold.amountMinor ∨ acc.wallet.balanceMinor < hold.amountMinor then .ok acc
  else
    match acc.takings.insert?
        ⟨user, hold.amountMinor, acc.wallet.currency, .hold request hold.id⟩ with
    | none => .error .integrityError
    | some takings =>
        .ok {
          wallet := { acc.wallet with balanceMinor := acc.wallet.balanceMinor - hold.amountMinor }
          holds := acc.holds.put (hold.forfeit request)
          takings := takings
          remaining := acc.remaining - hold.amountMinor
          forfeited := acc.forfeited + hold.amountMinor }

def Desk.heldOf (s : Desk) (flag user : ℕ) : List RewardHold :=
  s.holds.rows.filter fun hold => hold.flag = flag && hold.user = user && hold.status = .held

/-- What a rider's wallet gives for what remains. -/
def collectNow (dir : Directory) (clock : ℕ) (r : RecoveryRequest) (s : Desk) (wallet : Wallet)
    (debt : RecoveryDebt) : Except Refused (Desk × RecoveryDebt) :=
  if dir.isDriver debt.user ∨ debt.amountMinor ≤ 0 then .ok (s, debt)
  else
    let free := max 0 (wallet.balanceMinor - s.heldMinor dir debt.user wallet.currency)
    let taken := min debt.amountMinor free
    let closed := { debt with
      recoveredMinor := taken, uncollectedMinor := debt.amountMinor - taken, closedAt := some clock }
    if 0 < taken then
      match s.takings.insert? ⟨debt.user, taken, wallet.currency, .wallet r.id⟩ with
      | none => .error .integrityError
      | some takings =>
          .ok ({ s with wallets := s.wallets.addMinor wallet (-taken), takings }, closed)
    else .ok (s, closed)

/-- The transaction of `execute_recovery` from the lock of the wallet on. -/
def recover (dir : Directory) (clock : ℕ) (r : RecoveryRequest) (flag : RiskFlag) (s : Desk) :
    Except Refused Desk :=
  let wallet := s.wallet dir flag.subject
  if wallet.currency ≠ r.currency then .error .currencyChanged
  else do
    let acc ← (s.heldOf flag.id flag.subject).foldlM (forfeitOne r.id flag.subject)
      ⟨wallet, s.holds, s.takings, r.amountMinor, 0⟩
    let s := { s with
      wallets := s.wallets.put acc.wallet, holds := acc.holds, takings := acc.takings }
    let debt : RecoveryDebt :=
      { id := s.debts.rows.length + 1, user := flag.subject, ofDriver := dir.isDriver flag.subject
        approvalRequest := r.id, amountMinor := acc.remaining, recoveredMinor := 0
        uncollectedMinor := 0, currency := acc.wallet.currency, closedAt := none, flag := flag.id
        requestedMinor := r.amountMinor, forfeitedMinor := acc.forfeited }
    let collected ← collectNow dir clock r s acc.wallet debt
    let debt := if collected.2.amountMinor = 0 && collected.2.closedAt.isNone then
      { collected.2 with closedAt := some clock } else collected.2
    match collected.1.debts.insert? debt with
    | none => .error .integrityError
    | some debts => .ok { collected.1 with debts }

/-! ## Workers -/

/-- A worker between two of its reads. -/
inductive Worker where
  /-- an admin's request was checked -/
  | asking (draft : Draft)
  /-- a request was approved by this worker -/
  | executing (r : RecoveryRequest)
  | reading (r : RecoveryRequest) (flag : RiskFlag)
  /-- the linked rewards were read -/
  | linked (r : RecoveryRequest) (flag : RiskFlag) (linkedMinor : ℤ)
  /-- the executed recoveries were read -/
  | used (r : RecoveryRequest) (flag : RiskFlag) (linkedMinor usedMinor : ℤ)
  /-- the open requests were read, and the cap is kept -/
  | cleared (r : RecoveryRequest) (flag : RiskFlag) (linkedMinor usedMinor : ℤ)

/-- The desk and its workers. -/
structure World where
  desk : Desk
  workers : ℕ → Option Worker

/-- What can happen. -/
inductive Act where
  /-- a rule finds something -/
  | raise (now days : ℕ) (kind : FlagKind) (hit : Hit)
  /-- a referral reward is blocked -/
  | raiseReferral (now days : ℕ) (referral : Referral) (strong : Bool)
  | assign (flag assignee : ℕ)
  | unassign (flag : ℕ)
  | decide (now days flag : ℕ) (confirm : Bool) (reason : DecisionReason)
  | reopen (now days flag : ℕ)
  /-- the sweep finds a hold that is due -/
  | releaseDue (now hold : ℕ)
  /-- an admin's request is checked -/
  | ask (worker flag : ℕ) (amountMinor : ℤ) (granted placed : Bool) (note : String)
  | insert (worker : ℕ) (key : String)
  /-- a checker approves; the worker goes on to execute -/
  | approve (worker request : ℕ)
  /-- a checker rejects, the maker cancels, or the request expires -/
  | close (request : ℕ) (status : ApprovalStatus)
  /-- the next read of an execution, or its transaction -/
  | exec (worker clock : ℕ)
  | die (worker : ℕ)
  /-- a payout collects from a debt -/
  | collect (request clock : ℕ) (amount : ℤ)
  | reward (e : LedgerEntry)
  | refer (referral : Referral)
  | count (trip : IncentiveTrip)
  | withdraw (w : WithdrawalRequest)
  /-- the wallets are moved by something else -/
  | otherMoney (wallets : Wallets)

/-- `release_due`, for one hold. -/
def releaseDue (now hold : ℕ) (s : Desk) : Desk :=
  match s.holds.get? hold with
  | some found => if found.releaseAt ≤ now then s.changeHeld released hold else s
  | none => s

/-- A payout collects from the debt of a request. -/
def collect (request clock : ℕ) (amount : ℤ) (s : Desk) : Desk :=
  match s.debts.get? request with
  | some debt =>
      let after := { debt with toRecoveryDebt := debt.toRecoveryDebt.recover clock amount }
      { s with debts := s.debts.put after }
  | none => s

def World.goto (w : World) (worker : ℕ) (place : Option Worker) : World :=
  { w with workers := Function.update w.workers worker place }

def World.done (w : World) (worker request : ℕ) (status : ApprovalStatus) : World :=
  { desk := w.desk.finish request status, workers := Function.update w.workers worker none }

/-- One move of a worker that executes. -/
def World.execute (dir : Directory) (w : World) (worker clock : ℕ) : Worker → World
  | .asking _ => w
  | .executing r =>
      match w.desk.flags.get? r.flag with
      | none => w.done worker r.id .failed
      | some flag =>
          if r.amountMinor ≤ 0 then w.done worker r.id .failed
          else if (w.desk.debts.get? r.id).isSome then w.done worker r.id .executed
          else w.goto worker (some (.reading r flag))
  | .reading r flag =>
      if w.desk.recoveryApplies dir flag then
        w.goto worker (some (.linked r flag (w.desk.linkedMinor dir flag)))
      else w.done worker r.id .failed
  | .linked r flag linkedMinor =>
      w.goto worker (some (.used r flag linkedMinor (w.desk.usedMinor flag.id)))
  | .used r flag linkedMinor usedMinor =>
      let cap := max 0 (linkedMinor - usedMinor - w.desk.pendingMinor flag.id) + r.ownPending
      if cap < r.amountMinor then w.done worker r.id .failed
      else w.goto worker (some (.cleared r flag linkedMinor usedMinor))
  | .cleared r flag _ _ =>
      match recover dir clock r flag w.desk with
      | .ok desk => { w with desk }.done worker r.id .executed
      | .error _ => w.done worker r.id .failed

/-- One step of the system. -/
def step (dir : Directory) (w : World) : Act → World
  | .raise now days kind hit => { w with desk := raiseHit dir now days kind hit w.desk }
  | .raiseReferral now days referral strong =>
      { w with desk := raiseFraudFlag dir now days referral strong w.desk }
  | .assign flag assignee => { w with desk := Fraud.assign flag assignee w.desk }
  | .unassign flag => { w with desk := Fraud.unassign flag w.desk }
  | .decide now days flag confirm reason =>
      { w with desk := decideFlag now days flag confirm reason w.desk }
  | .reopen now days flag => { w with desk := Fraud.reopen dir now days flag w.desk }
  | .releaseDue now hold => { w with desk := Fraud.releaseDue now hold w.desk }
  | .ask worker flag amountMinor granted placed note =>
      match w.desk.flags.get? flag with
      | none => w
      | some flag =>
          match checkRequest dir w.desk flag amountMinor granted placed note with
          | .error _ => w
          | .ok draft => w.goto worker (some (.asking draft))
  | .insert worker key =>
      match w.workers worker with
      | some (.asking draft) => { w with desk := raiseRequest draft key w.desk }.goto worker none
      | _ => w
  | .approve worker request =>
      match w.desk.decideRequest request .approved with
      | some (r, desk) => { w with desk }.goto worker (some (.executing r))
      | none => w
  | .close request status =>
      if status ∈ [.rejected, .cancelled, .expired] then
        match w.desk.decideRequest request status with
        | some (_, desk) => { w with desk }
        | none => w
      else w
  | .exec worker clock =>
      match w.workers worker with
      | some place => w.execute dir worker clock place
      | none => w
  | .die worker => w.goto worker none
  | .collect request clock amount => { w with desk := Fraud.collect request clock amount w.desk }
  | .reward e =>
      match w.desk.entries.insert? e with
      | some entries => { w with desk := { w.desk with entries } }
      | none => w
  | .refer referral =>
      { w with desk := { w.desk with referrals := w.desk.referrals ++ [referral] } }
  | .count trip =>
      { w with desk := { w.desk with incentiveTrips := w.desk.incentiveTrips ++ [trip] } }
  | .withdraw request =>
      { w with desk := { w.desk with withdrawals := w.desk.withdrawals ++ [request] } }
  | .otherMoney wallets => { w with desk := { w.desk with wallets } }

end SaaradhiGo.Fraud
