/-
The weekly payout run.

Once a week a run pays out what stands on the wallets of a country's drivers: the balance without
the rewards under review, less what the open recovery debts may take of it.  A worker reads the
candidates and then does the run in one transaction, the first row of which is unique for the
country and the week.
-/
import SaaradhiGo.Payouts.Actions
import SaaradhiGo.Lib.Fallible
import SaaradhiGo.Lib.Transition

namespace SaaradhiGo.WeeklyPayout

open SaaradhiGo.Money SaaradhiGo.Payouts

/-! ## Data -/

/-- `PayoutCountryConfig`, as far as a run reads it; Monday is 0. -/
structure CountryConfig extends PayoutConfig where
  country : String
  payoutWeekday : Option ℤ
deriving DecidableEq

/-- What a person still owes back. -/
structure RecoveryDebt where
  id : ℕ
  user : ℕ
  /-- `role` is `driver` -/
  ofDriver : Bool
  approvalRequest : ℕ
  amountMinor : ℤ
  recoveredMinor : ℤ
  uncollectedMinor : ℤ
  currency : Currency
  closedAt : Option ℕ
deriving DecidableEq, Repr

def RecoveryDebt.remainingMinor (debt : RecoveryDebt) : ℤ :=
  if debt.closedAt.isSome then 0
  else max 0 (debt.amountMinor - debt.recoveredMinor - debt.uncollectedMinor)

/-- The states of a reward under review. -/
inductive HoldStatus where
  | held
  | released
  | forfeited
deriving DecidableEq, Repr

/-- A reward under review. -/
structure RewardHold where
  id : ℕ
  user : ℕ
  /-- `role` is `driver` -/
  ofDriver : Bool
  amountMinor : ℤ
  currency : Currency
  status : HoldStatus
deriving DecidableEq, Repr

/-- One deduction of a payout against a debt. -/
structure RecoveryDeduction where
  debt : ℕ
  withdrawal : ℕ
  amountMinor : ℤ
  currency : Currency
  payoutGrossMinor : ℤ
  percentCap : ℕ
deriving DecidableEq, Repr

/-- A payout hold on a driver; it lapses when it expires. -/
structure PayoutHold where
  driver : ℕ
  active : Bool
  expiresAt : ℕ
deriving DecidableEq, Repr

/-- Why a candidate is skipped. -/
inductive SkipReason where
  | held
  | noPayoutHandle
deriving DecidableEq, Repr

/-- What became of a run. -/
inductive RunOutcome where
  | nothingToPay
  | opened
  | blockedNoPolicy
  | approvalRefused (code : String)
deriving DecidableEq, Repr

/-- One run; `weekStart` is the Monday of the week in the country's own zone. -/
structure PayoutRun where
  country : String
  weekStart : ℤ
  currency : Currency
  truncated : Bool
  skipped : List (ℕ × SkipReason)
  withdrawalCount : ℕ
  amountMinor : ℤ
  outcome : RunOutcome
  approvalRequest : Option ℕ
deriving DecidableEq, Repr

/-- `payout_run_one_per_country_week`. -/
def PayoutRun.key (run : PayoutRun) : String × ℤ := (run.country, run.weekStart)

/-- What a run reads and writes. -/
structure Office where
  payouts : Payouts.Db
  /-- `RecoveryDebt`, in the order of their ids -/
  debts : Table RecoveryDebt.id
  holds : Table RewardHold.id
  deductions : List RecoveryDeduction
  payoutHolds : List PayoutHold
  runs : Table PayoutRun.key
  /-- `driver_payout_country` -/
  payoutCountry : ℕ → Option String
  hasPayoutHandle : ℕ → Bool
  /-- `_role` of a user is `driver` -/
  isDriver : ℕ → Bool

/-- What a run raises. -/
inductive Raised where
  | integrityError
  | doesNotExist
  | approvalFailed
deriving DecidableEq, Repr

/-! ## One driver -/

def Office.heldMinor (o : Office) (user : ℕ) (currency : Currency) : ℤ :=
  ((o.holds.rows.filter fun hold => hold.user = user && hold.status = .held &&
    hold.ofDriver = o.isDriver user && hold.currency = currency).map RewardHold.amountMinor).sum

def Office.openDebts (o : Office) (user : ℕ) : List RecoveryDebt :=
  o.debts.rows.filter fun debt => debt.user = user && debt.ofDriver && debt.closedAt.isNone

def RecoveryDebt.planned (debt : RecoveryDebt) : Debt :=
  ⟨debt.id, debt.approvalRequest, debt.currency, debt.remainingMinor⟩

/-- `active_payout_hold`. -/
def Office.onHold (o : Office) (driver now : ℕ) : Bool :=
  o.payoutHolds.any fun hold => hold.driver = driver && hold.active && now < hold.expiresAt

/-- The debt after a deduction; a debt that is paid off is closed. -/
def RecoveryDebt.recover (debt : RecoveryDebt) (clock : ℕ) (amount : ℤ) : RecoveryDebt :=
  let debt := { debt with recoveredMinor := debt.recoveredMinor + amount }
  if debt.remainingMinor ≤ 0 then { debt with closedAt := some clock } else debt

/-- `recoverydebt_recovered_within_amount`. -/
def RecoveryDebt.withinAmount (debt : RecoveryDebt) : Bool :=
  0 ≤ debt.recoveredMinor && debt.recoveredMinor ≤ debt.amountMinor

/-- The body of the loop of `apply_deduction`, beside its ledger row. -/
def applyOne (clock : ℕ) (w : Withdrawal) (grossMinor : ℤ) (percent : ℕ) (o : Office)
    (d : Debt × ℤ) : Except Raised Office :=
  match o.debts.get? d.1.id with
  | none => .error .doesNotExist
  | some debt =>
      if (debt.recover clock d.2).withinAmount then
        .ok { o with
          debts := o.debts.put (debt.recover clock d.2)
          deductions := o.deductions ++ [⟨debt.id, w.id, d.2, debt.currency, grossMinor, percent⟩] }
      else .error .integrityError

/-- `_create_one`: the withdrawal of a driver, or none when the driver no longer qualifies. -/
def createOne (config : CountryConfig) (clock driver : ℕ) (nonce : String) (o : Office) :
    Except Raised (Office × Option Withdrawal) :=
  let user := (o.payouts.drivers driver).userId
  let floor := max 1 config.minimumWithdrawalMinor
  match o.payouts.wallets.get? (user, .driver) with
  | none => .ok (o, none)
  | some wallet =>
      if wallet.currency ≠ config.currency ∨ wallet.balanceMinor < floor then .ok (o, none)
      else if o.payoutCountry driver ≠ some config.country then .ok (o, none)
      else if o.payouts.withdrawals.rows.any fun w =>
          w.driver = driver && w.status ∈ openStatuses then .ok (o, none)
      else if o.onHold driver clock then .ok (o, none)
      else
        let gross := wallet.balanceMinor - o.heldMinor user config.currency
        if gross < floor then .ok (o, none)
        else
          let plan := planDeduction ((o.openDebts user).map RecoveryDebt.planned) gross floor
            config.recoveryMaxPercent
          let amount := gross - planTotal plan
          let fee := withdrawalFee config.toPayoutConfig amount
          if amount ≤ fee then .ok (o, none)
          else
            let stamp := Wallets.stampCurrency (some config.currency)
              (o.payouts.wallets.derivedCurrency user)
            let w := newWithdrawal o.payouts.nextId driver amount stamp .scheduled
              (some scheduledReason) fee
            match openWithdrawal o.payouts wallet w stamp gross plan nonce with
            | none => .error .integrityError
            | some payouts =>
                (plan.foldlM (applyOne clock w gross config.recoveryMaxPercent)
                  { o with payouts }).map fun o => (o, some w)

/-! ## One run -/

/-- The dates of the countries' own zones: the number of the day, day 0 being a Monday. -/
structure Calendar where
  localDay : String → ℕ → ℤ

/-- `weekday()`. -/
def Calendar.weekday (cal : Calendar) (country : String) (now : ℕ) : ℤ :=
  cal.localDay country now % 7

/-- `week_start_of`. -/
def Calendar.weekStart (cal : Calendar) (country : String) (now : ℕ) : ℤ :=
  cal.localDay country now - cal.weekday country now

def maxDriversPerRun : ℕ := 2000

/-- A worker that has read the candidates. -/
structure Started where
  config : CountryConfig
  now : ℕ
  weekStart : ℤ
  /-- at most one above the limit -/
  candidates : List ℕ

/-- What `run_country` reads before its transaction; `candidates` is what the query finds. -/
def startRun (cal : Calendar) (config : CountryConfig) (now : ℕ) (candidates : List ℕ)
    (o : Office) : Option Started :=
  if config.payoutWeekday ≠ some (cal.weekday config.country now) then none
  else if (o.runs.get? (config.country, cal.weekStart config.country now)).isSome then none
  else some ⟨config, now, cal.weekStart config.country now, candidates.take (maxDriversPerRun + 1)⟩

/-- Why a candidate is skipped, if it is. -/
def Office.skipReason (o : Office) (st : Started) (driver : ℕ) : Option SkipReason :=
  if o.onHold driver st.now then some .held
  -- only rupees have a rail
  else if st.config.currency = .inr && !o.hasPayoutHandle driver then some .noPayoutHandle
  else none

/-- The candidates of a run, one after the other. -/
def payEach (config : CountryConfig) (clock : ℕ) (nonces : ℕ → String) :
    List ℕ → Office → Except Raised (Office × List Withdrawal)
  | [], o => .ok (o, [])
  | driver :: drivers, o => do
      let one ← createOne config clock driver (nonces driver) o
      let rest ← payEach config clock nonces drivers one.1
      .ok (rest.1, one.2.toList ++ rest.2)

/-- What the approval service answers a run. -/
inductive Approval where
  | opened (request : ℕ)
  | thresholdNotConfigured
  | refused (code : String)
  | raises
deriving DecidableEq, Repr

/-- The outcome of a run that created withdrawals. -/
def Approval.outcome : Approval → Except Raised (RunOutcome × Option ℕ)
  | .opened request => .ok (.opened, some request)
  | .thresholdNotConfigured => .ok (.blockedNoPolicy, none)
  | .refused code => .ok (.approvalRefused code, none)
  | .raises => .error .approvalFailed

def Approval.decision (approval : Approval) (created : List Withdrawal) :
    Except Raised (RunOutcome × Option ℕ) :=
  if created.isEmpty then .ok (.nothingToPay, none) else approval.outcome

/-- The row of a run. -/
def newRun (st : Started) : PayoutRun where
  country := st.config.country
  weekStart := st.weekStart
  currency := st.config.currency
  truncated := maxDriversPerRun < st.candidates.length
  skipped := []
  withdrawalCount := 0
  amountMinor := 0
  outcome := .nothingToPay
  approvalRequest := none

/-- The transaction of `run_country`. -/
def transact (st : Started) (clock : ℕ) (nonces : ℕ → String) (approval : Approval) (o : Office) :
    Except Raised Office :=
  match o.runs.insert? (newRun st) with
  | none => .error .integrityError
  | some runs => do
      let candidates := st.candidates.take maxDriversPerRun
      let payable := candidates.filter fun driver => (o.skipReason st driver).isNone
      let paid ← payEach st.config clock nonces payable { o with runs }
      let answer ← approval.decision paid.2
      let run := { newRun st with
        skipped := candidates.filterMap fun driver => (o.skipReason st driver).map (driver, ·)
        withdrawalCount := paid.2.length
        amountMinor := (paid.2.map Withdrawal.amountMinor).sum
        outcome := answer.1
        approvalRequest := answer.2 }
      .ok { paid.1 with runs := paid.1.runs.put run }

/-! ## Workers -/

/-- The office and the workers between their reading and their transaction. -/
structure Floor where
  office : Office
  workers : ℕ → Option Started

/-- What can happen. -/
inductive Act where
  /-- a worker is started by the beat, or again -/
  | start (worker : ℕ) (config : CountryConfig) (now : ℕ) (candidates : List ℕ)
  /-- a worker does its transaction; `clock` is the time it reads there -/
  | transact (worker clock : ℕ) (nonces : ℕ → String) (approval : Approval)
  | die (worker : ℕ)
  /-- everything else the platform does; it writes no run -/
  | other (change : Office → Office)

/-- The run that an action does, if it does one. -/
def Floor.ran (f : Floor) : Act → Option (String × ℤ)
  | .transact worker clock nonces approval =>
      (f.workers worker).bind fun st =>
        match WeeklyPayout.transact st clock nonces approval f.office with
        | .ok _ => some (newRun st).key
        | .error _ => none
  | _ => none

/-- One action; what a transaction raises rolls it back. -/
def step (cal : Calendar) (f : Floor) : Act → Floor
  | .start worker config now candidates =>
      let started := startRun cal config now candidates f.office
      { f with workers := Function.update f.workers worker started }
  | .transact worker clock nonces approval =>
      match f.workers worker with
      | none => f
      | some st =>
          { office :=
              match WeeklyPayout.transact st clock nonces approval f.office with
              | .ok o => o
              | .error _ => f.office
            workers := Function.update f.workers worker none }
  | .die worker => { f with workers := Function.update f.workers worker none }
  | .other change => { f with office := { change f.office with runs := f.office.runs } }

/-- The runs done along a list of actions. -/
def runsDone (cal : Calendar) : Floor → List Act → List (String × ℤ)
  | _, [] => []
  | f, a :: acts => (f.ran a).toList ++ runsDone cal (step cal f a) acts

end SaaradhiGo.WeeklyPayout
