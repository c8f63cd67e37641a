/-
Risk flags, and the rewards that are linked to them.

A flag names a person, a kind and the ids that support it.  A reward of that person is linked to
the flag through the referrals between the person and a named counterpart, or through the
campaigns that counted a named trip.  The rewards that are still unpaid are held while the flag is
looked at.
-/
import SaaradhiGo.Payouts.Weekly
import SaaradhiGo.Promotions.Redemption
import Mathlib.Data.List.Sort

namespace SaaradhiGo.Fraud

open SaaradhiGo.Money SaaradhiGo.Promotions

/-! ## Data -/

inductive FlagKind where
  | referralAbuse
  | multiAccounting
  | collusion
  | incentiveFarming
  | gpsAnomaly
  | cancellationAbuse
  | paymentAbuse
deriving DecidableEq, Repr

def rewardKinds : List FlagKind := [.referralAbuse, .multiAccounting, .collusion, .incentiveFarming]

inductive FlagStatus where
  | opened
  | inReview
  | dismissed
  | confirmed
deriving DecidableEq, Repr

/-- `ACTIVE_STATUSES`. -/
def FlagStatus.active : FlagStatus → Bool
  | .opened | .inReview => true
  | .dismissed | .confirmed => false

inductive DecisionReason where
  | multiAccounting
  | collusion
  | gpsSpoofing
  | promoAbuse
  | paymentAbuse
  | falsePositive
  | legitimateSharedDevice
  | insufficientEvidence
  | duplicate
  | other
deriving DecidableEq, Repr

def confirmReasons : List DecisionReason :=
  [.multiAccounting, .collusion, .gpsSpoofing, .promoAbuse, .paymentAbuse, .other]

def dismissReasons : List DecisionReason :=
  [.falsePositive, .legitimateSharedDevice, .insufficientEvidence, .duplicate, .other]

def recoveryReasons : List DecisionReason := [.promoAbuse, .collusion, .multiAccounting]

inductive Severity where
  | low
  | medium
  | high
deriving DecidableEq, Repr

def Severity.rank : Severity → ℕ
  | .high => 0
  | .medium => 1
  | .low => 2

/-- The ids that support a flag. -/
structure Refs where
  counterpartUserIds : List ℕ
  campaignIds : List ℕ
  tripIds : List ℕ
deriving DecidableEq, Repr

structure Evidence where
  referralId : Option ℕ
  refs : Refs
deriving DecidableEq, Repr

structure RiskFlag where
  id : ℕ
  subject : ℕ
  kind : FlagKind
  evidence : Evidence
  status : FlagStatus
  /-- `source_ref`: the referral whose reward was blocked -/
  sourceRef : Option ℕ
  dedupeKey : Option (FlagKind × ℕ)
  severity : Severity
  score : ℕ
  assignedTo : Option ℕ
  decisionReason : Option DecisionReason
deriving DecidableEq, Repr

/-- A referral, as far as a flag reads it. -/
structure Referral where
  id : ℕ
  campaign : ℕ
  referrer : ℕ
  referee : ℕ
deriving DecidableEq, Repr

/-- A trip that an incentive counted for a driver. -/
structure IncentiveTrip where
  campaign : ℕ
  driver : ℕ
  trip : ℕ
deriving DecidableEq, Repr

/-- A row of the promotion ledger. -/
structure LedgerEntry where
  id : ℕ
  kind : EntryKind
  campaign : ℕ
  user : ℕ
  amountMinor : ℤ
  currency : Currency
  idempotencyKey : EntryKey
  createdAt : ℕ
  /-- `promoledger_amount_positive` -/
  positive : 0 < amountMinor
deriving DecidableEq

/-- A withdrawal of a driver; one that is rejected or failed came back. -/
structure WithdrawalRequest where
  driver : ℕ
  requestedAt : ℕ
  cameBack : Bool
deriving DecidableEq, Repr

/-- A reward under review for a flag. -/
structure RewardHold extends WeeklyPayout.RewardHold where
  flag : ℕ
  ledgerEntry : ℕ
  rewardMinor : ℤ
  releaseAt : ℕ
  /-- the request whose recovery took it -/
  forfeitedVia : Option ℕ
deriving DecidableEq, Repr

def RewardHold.key (hold : RewardHold) : ℕ := hold.id

/-- What a recovery took and what it left to collect. -/
structure RecoveryDebt extends WeeklyPayout.RecoveryDebt where
  flag : ℕ
  requestedMinor : ℤ
  forfeitedMinor : ℤ
deriving DecidableEq, Repr

def RecoveryDebt.key (debt : RecoveryDebt) : ℕ := debt.approvalRequest

/-- The statuses of an approval request. -/
inductive ApprovalStatus where
  | requested
  | approved
  | executed
  | failed
  | rejected
  | cancelled
  | expired
deriving DecidableEq, Repr

/-- `KEY_HELD_STATUSES`. -/
def ApprovalStatus.keyHeld : ApprovalStatus → Bool
  | .requested | .approved | .executed => true
  | .failed | .rejected | .cancelled | .expired => false

/-- A recovery that Finance is asked for. -/
structure RecoveryRequest where
  id : ℕ
  flag : ℕ
  user : ℕ
  amountMinor : ℤ
  currency : Currency
  /-- `fraud_recovery:<flag>:<key>` -/
  idempotencyKey : ℕ × String
  status : ApprovalStatus
  /-- no request is raised for nothing -/
  positive : 0 < amountMinor
deriving DecidableEq

/-- The key of the ledger row of a recovery. -/
inductive TakingKey where
  /-- `recovery_<request>_hold_<hold>` -/
  | hold (request hold : ℕ)
  /-- `recovery_<request>_wallet` -/
  | wallet (request : ℕ)
deriving DecidableEq, Repr

/-- A ledger row of a recovery: a completed debit for `reward_recovery`. -/
structure Taking where
  user : ℕ
  amountMinor : ℤ
  currency : Currency
  idempotencyKey : TakingKey
deriving DecidableEq, Repr

/-- Who the people are. -/
structure Directory where
  /-- the role of a user is `driver` -/
  isDriver : ℕ → Bool
  driverOf : ℕ → Option ℕ

/-- What the fraud desk reads and writes. -/
structure Desk where
  flags : Table RiskFlag.id
  entries : Table LedgerEntry.id
  referrals : List Referral
  incentiveTrips : List IncentiveTrip
  withdrawals : List WithdrawalRequest
  holds : Table RewardHold.key
  requests : Table RecoveryRequest.id
  debts : Table RecoveryDebt.key
  wallets : Wallets
  takings : Table Taking.idempotencyKey

/-! ## Linked rewards -/

/-- The keys of `_referral_keys`. -/
def Desk.referralKeys (s : Desk) (subject : ℕ) (evidence : Evidence) : List EntryKey :=
  (s.referrals.filter fun r => evidence.referralId = some r.id ||
      (r.referrer = subject && r.referee ∈ evidence.refs.counterpartUserIds) ||
      (r.referee = subject && r.referrer ∈ evidence.refs.counterpartUserIds)).flatMap fun r =>
    (if r.referrer = subject then [.referrer r.id] else []) ++
      if r.referee = subject then [.referee r.id] else []

/-- The campaigns whose incentives are linked. -/
def Desk.linkedCampaigns (s : Desk) (dir : Directory) (flag : RiskFlag) : List ℕ :=
  match flag.kind with
  | .incentiveFarming => flag.evidence.refs.campaignIds
  | .collusion =>
      (s.incentiveTrips.filter fun t => dir.driverOf flag.subject = some t.driver &&
        t.trip ∈ flag.evidence.refs.tripIds).map IncentiveTrip.campaign
  | _ => []

def Desk.linked (s : Desk) (dir : Directory) (flag : RiskFlag) (e : LedgerEntry) : Bool :=
  flag.kind ∈ rewardKinds && e.user = flag.subject &&
    ((flag.kind ∈ [FlagKind.referralAbuse, .collusion] && e.kind = .referralReward &&
        e.idempotencyKey ∈ s.referralKeys flag.subject flag.evidence) ||
      (flag.kind = .multiAccounting && e.kind = .referralReward) ||
      (e.kind = .incentiveReward && e.campaign ∈ s.linkedCampaigns dir flag))

/-- `linked_entries`: oldest first. -/
def Desk.linkedEntries (s : Desk) (dir : Directory) (flag : RiskFlag) : List LedgerEntry :=
  (s.entries.rows.filter (s.linked dir flag)).insertionSort fun e e' =>
    e.createdAt < e'.createdAt ∨ (e.createdAt = e'.createdAt ∧ e.id ≤ e'.id)

def Desk.linkedMinor (s : Desk) (dir : Directory) (flag : RiskFlag) : ℤ :=
  ((s.linkedEntries dir flag).map LedgerEntry.amountMinor).sum

/-! ## Holds -/

def Directory.scope (dir : Directory) (user : ℕ) : Scope :=
  if dir.isDriver user then .driver else .rider

def Desk.wallet (s : Desk) (dir : Directory) (user : ℕ) : Wallet :=
  s.wallets.getWallet user (dir.scope user)

def Desk.heldMinor (s : Desk) (dir : Directory) (user : ℕ) (currency : Currency) : ℤ :=
  ((s.holds.rows.filter fun hold => hold.user = user && hold.status = .held &&
    hold.ofDriver = dir.isDriver user && hold.currency = currency).map fun hold =>
      hold.amountMinor).sum

/-- `_paid`: a driver's payout took the reward. -/
def Desk.paid (s : Desk) (e : LedgerEntry) (driver : Option ℕ) : Bool :=
  s.withdrawals.any fun w => driver = some w.driver && e.createdAt ≤ w.requestedAt && !w.cameBack

/-- The seconds of a day. -/
def day : ℕ := 24 * 60 * 60

/-- The body of the loop of `hold_for_flag`. -/
def holdOne (dir : Directory) (now days : ℕ) (flag : RiskFlag) (s : Desk) (e : LedgerEntry) :
    Desk :=
  let wallet := s.wallet dir flag.subject
  let room := wallet.balanceMinor - s.heldMinor dir flag.subject wallet.currency
  let amount := min e.amountMinor room
  if s.holds.rows.any fun hold => hold.ledgerEntry = e.id then s
  else if s.paid e (dir.driverOf flag.subject) ∨ e.currency ≠ wallet.currency then s
  else if amount ≤ 0 then s
  else
    { s with
      holds := s.holds.put
        { id := s.holds.nextKey, user := flag.subject, ofDriver := dir.isDriver flag.subject
          amountMinor := amount, currency := e.currency, status := .held, flag := flag.id
          ledgerEntry := e.id, rewardMinor := e.amountMinor, releaseAt := now + days * day
          forfeitedVia := none } }

def holdForFlag (dir : Directory) (now days : ℕ) (flag : RiskFlag) (s : Desk) : Desk :=
  if !flag.status.active then s
  else
    let entries := s.linkedEntries dir flag
    if entries = [] then s
    else
      entries.foldl (holdOne dir now days flag)
        { s with wallets := s.wallets.put (s.wallet dir flag.subject) }

def Desk.changeHeld (s : Desk) (change : RewardHold → RewardHold) (id : ℕ) : Desk :=
  match s.holds.get? id with
  | some hold => if hold.status = .held then { s with holds := s.holds.put (change hold) } else s
  | none => s

/-- `release_hold`. -/
def released (hold : RewardHold) : RewardHold := { hold with status := .released }

def Desk.heldFor (s : Desk) (flag : ℕ) : List ℕ :=
  (s.holds.rows.filter fun hold => hold.flag = flag && hold.status = .held).map fun hold => hold.id

def releaseForFlag (flag : ℕ) (s : Desk) : Desk :=
  (s.heldFor flag).foldl (fun s => s.changeHeld released) s

def onDecision (now days : ℕ) (flag : RiskFlag) (s : Desk) : Desk :=
  if flag.status = .confirmed ∧ (flag.decisionReason.any (· ∈ recoveryReasons)) = true then
    (s.heldFor flag.id).foldl
      (fun s => s.changeHeld fun hold => { hold with releaseAt := now + days * day }) s
  else releaseForFlag flag.id s

/-! ## Raising and deciding -/

/-- A finding of a rule. -/
structure Hit where
  subject : ℕ
  severity : Severity
  score : ℕ
  refs : Refs
deriving DecidableEq, Repr

def maxRefs : ℕ := 100

/-- One key of `_merge_refs`: the largest ids, in order. -/
def mergeIds (old new : List ℕ) : List ℕ :=
  let values := (old ++ new).dedup.insertionSort (· ≤ ·)
  values.drop (values.length - maxRefs)

def mergeRefs (old new : Refs) : Refs where
  counterpartUserIds := mergeIds old.counterpartUserIds new.counterpartUserIds
  campaignIds := mergeIds old.campaignIds new.campaignIds
  tripIds := mergeIds old.tripIds new.tripIds

/-- All the ids of the first are among those of the second. -/
def Refs.le (refs refs' : Refs) : Bool :=
  refs.counterpartUserIds.all (· ∈ refs'.counterpartUserIds) &&
    refs.campaignIds.all (· ∈ refs'.campaignIds) && refs.tripIds.all (· ∈ refs'.tripIds)

/-- `_append`, when there is something to append. -/
def RiskFlag.append (flag : RiskFlag) (hit : Hit) : RiskFlag :=
  { flag with
    evidence := { flag.evidence with refs := mergeRefs flag.evidence.refs hit.refs }
    score := max flag.score hit.score
    severity := if hit.severity.rank < flag.severity.rank then hit.severity else flag.severity }

/-- Is there something to append? -/
def RiskFlag.changedBy (flag : RiskFlag) (hit : Hit) : Bool :=
  !hit.refs.le flag.evidence.refs || flag.score < hit.score ||
    hit.severity.rank < flag.severity.rank

def Desk.activeFlag (s : Desk) (key : FlagKind × ℕ) : Option RiskFlag :=
  s.flags.rows.find? fun flag => flag.dedupeKey = some key && flag.status.active

def Desk.alreadyDecided (s : Desk) (kind : FlagKind) (hit : Hit) : Bool :=
  match (s.flags.rows.filter fun flag => flag.subject = hit.subject && flag.kind = kind &&
      !flag.status.active).getLast? with
  | none => false
  | some decided => hit.refs.le decided.evidence.refs

/-- The flag of `_create`. -/
def newFlag (id : ℕ) (kind : FlagKind) (hit : Hit) : RiskFlag where
  id := id
  subject := hit.subject
  kind := kind
  evidence := ⟨none, mergeRefs ⟨[], [], []⟩ hit.refs⟩
  status := .opened
  sourceRef := none
  dedupeKey := some (kind, hit.subject)
  severity := hit.severity
  score := hit.score
  assignedTo := none
  decisionReason := none

def saveAndHold (dir : Directory) (now days : ℕ) (flag : RiskFlag) (s : Desk) : Desk :=
  holdForFlag dir now days flag { s with flags := s.flags.put flag }

def raiseHit (dir : Directory) (now days : ℕ) (kind : FlagKind) (hit : Hit) (s : Desk) : Desk :=
  match s.activeFlag (kind, hit.subject) with
  | some flag =>
      if flag.changedBy hit then saveAndHold dir now days (flag.append hit) s else s
  | none =>
      if s.alreadyDecided kind hit then s
      else saveAndHold dir now days (newFlag s.flags.nextKey kind hit) s

/-- The flag of a blocked referral. -/
def referralFlag (id : ℕ) (referral : Referral) (strong : Bool) : RiskFlag where
  id := id
  subject := referral.referrer
  kind := .referralAbuse
  evidence := ⟨some referral.id, [referral.referee], [referral.campaign], []⟩
  status := .opened
  sourceRef := some referral.id
  dedupeKey := none
  severity := if strong then .high else .medium
  score := if strong then 80 else 60
  assignedTo := none
  decisionReason := none

/-- `raise_fraud_flag`: one flag for each referral. -/
def raiseFraudFlag (dir : Directory) (now days : ℕ) (referral : Referral) (strong : Bool)
    (s : Desk) : Desk :=
  if s.flags.rows.any fun flag => flag.kind = .referralAbuse && flag.sourceRef = some referral.id
  then s
  else saveAndHold dir now days (referralFlag s.flags.nextKey referral strong) s

def assign (id assignee : ℕ) (s : Desk) : Desk :=
  match s.flags.get? id with
  | some flag =>
      if flag.status.active then
        { s with flags := s.flags.put { flag with assignedTo := some assignee, status := .inReview } }
      else s
  | none => s

def unassign (id : ℕ) (s : Desk) : Desk :=
  match s.flags.get? id with
  | some flag =>
      if flag.status.active && flag.assignedTo.isSome then
        { s with flags := s.flags.put { flag with assignedTo := none, status := .opened } }
      else s
  | none => s

/-- `decide`: confirm or dismiss a flag. -/
def decideFlag (now days id : ℕ) (confirm : Bool) (reason : DecisionReason) (s : Desk) : Desk :=
  if reason ∉ (if confirm then confirmReasons else dismissReasons) then s
  else
    match s.flags.get? id with
    | some flag =>
        if flag.status.active then
          let flag := { flag with
            status := if confirm then .confirmed else .dismissed
            decisionReason := some reason }
          onDecision now days flag { s with flags := s.flags.put flag }
        else s
    | none => s

def reopen (dir : Directory) (now days id : ℕ) (s : Desk) : Desk :=
  match s.flags.get? id with
  | some flag =>
      if flag.status.active then s
      else if s.flags.rows.any fun other => flag.dedupeKey.isSome &&
          other.dedupeKey = flag.dedupeKey && other.status.active && other.id ≠ flag.id then s
      else
        let flag := { flag with status := .opened, decisionReason := none, assignedTo := none }
        saveAndHold dir now days flag s
  | none => s

end SaaradhiGo.Fraud
