/-
The transactions of a rider's wallet, a statement at a time.

Credits, fares and top-ups move the balance, each with a row of the ledger whose idempotency key is
unique.  A reward under review stays in the balance and cannot be spent: the wallet is locked to
hold it, while a release takes the lock of the hold alone, so what is held can shrink under the eyes
of whoever has the wallet.  A recovery takes the held rewards of its flag, and then what the wallet
gives.  A transaction that raises writes nothing.
-/
import SaaradhiGo.Fraud.Recovery
import SaaradhiGo.Lib.TwoPhase
import SaaradhiGo.Pricing.Quote

namespace SaaradhiGo.RiderWallet

open TwoPhase SaaradhiGo.Money SaaradhiGo.Fraud

/-! ## Rows -/

/-- A row of the ledger that belongs to a rider's wallet. -/
structure WalletTransaction where
  id : ℕ
  user : ℕ
  amountMinor : ℤ
  currency : Currency
  txnType : TxnType
  status : TxnStatus
  purpose : String
  referenceId : String
  gatewayOrderId : String
  idempotencyKey : Option String
deriving DecidableEq

namespace WalletTransaction

/-- What the row adds to the balance of a user once it is completed. -/
def bookedFor (user : ℕ) (e : WalletTransaction) : ℤ :=
  if e.user = user ∧ e.status = .completed then
    match e.txnType with
    | .credit => e.amountMinor
    | .debit => -e.amountMinor
  else 0

def takenFor (request : ℕ) (e : WalletTransaction) : ℤ :=
  if e.txnType = .debit ∧ e.referenceId = (Ref.recovery request).text then e.amountMinor else 0

end WalletTransaction

/-- The tables. -/
structure Db where
  wallets : Wallets
  entries : Table WalletTransaction.id
  holds : Table RewardHold.key
  debts : Table RecoveryDebt.key

namespace Db

def wallet? (db : Db) (user : ℕ) : Option Wallet := db.wallets.get? (user, .rider)

def balanceMinor (db : Db) (user : ℕ) : ℤ := (db.wallets.getWallet user .rider).balanceMinor

def bookedMinor (db : Db) (user : ℕ) : ℤ := db.entries.sum (·.bookedFor user)

def takenMinor (db : Db) (request : ℕ) : ℤ := db.entries.sum (·.takenFor request)

/-- The part of a hold that a rider cannot spend. -/
def heldPart (user : ℕ) (currency : Currency) (h : RewardHold) : ℤ :=
  if h.user = user ∧ h.status = .held ∧ h.ofDriver = false ∧ h.currency = currency then
    h.amountMinor
  else 0

/-- `held_minor`, of a rider. -/
def heldMinor (db : Db) (user : ℕ) (currency : Currency) : ℤ :=
  db.holds.sum (heldPart user currency)

/-! ## Writes -/

/-- `wallet.save()`. -/
def saveWallet (db : Db) (w : Wallet) : Db := { db with wallets := db.wallets.put w }

/-- The balance of a rider is moved; the wallet is created when there is none. -/
def addMinor (db : Db) (user : ℕ) (delta : ℤ) : Db :=
  { db with wallets := db.wallets.addMinor (db.wallets.getWallet user .rider) delta }

/-- `WalletTransaction.objects.create(...)`: a completed row, refused when its key is taken. -/
def create (db : Db) (user : ℕ) (amountMinor : ℤ) (currency : Currency) (txnType : TxnType)
    (purpose referenceId key : String) : Option Db :=
  if db.entries.rows.any fun e => e.idempotencyKey = some key then none
  else
    some { db with
      entries := db.entries.put
        { id := db.entries.nextKey, user, amountMinor, currency, txnType, status := .completed
          purpose, referenceId, gatewayOrderId := "", idempotencyKey := some key } }

/-- A row that takes, and the wallet. -/
def debit (db : Db) (user : ℕ) (amountMinor : ℤ) (currency : Currency)
    (purpose referenceId key : String) : Option Db :=
  (db.create user amountMinor currency .debit purpose referenceId key).map
    (·.addMinor user (-amountMinor))

/-- A row that gives, and the wallet. -/
def credit (db : Db) (user : ℕ) (amountMinor : ℤ) (currency : Currency)
    (purpose referenceId key : String) : Option Db :=
  (db.create user amountMinor currency .credit purpose referenceId key).map
    (·.addMinor user amountMinor)

end Db

/-! ## Statements -/

/-- The rows that are locked. -/
inductive Key where
  | wallet (user : ℕ)
  | entry (id : ℕ)
  | hold (id : ℕ)
deriving DecidableEq

abbrev Tx : Type := Txn Key Db

/-- The writes are committed, unless one of them is refused. -/
def commitAll (w : Db → Option Db) : Tx := .commit fun db => (w db).getD db

/-- `Wallet.objects.select_for_update().get(...)`. -/
def lockWallet (user : ℕ) (k : Wallet → Tx) : Tx :=
  .lock (.wallet user) fun db =>
    match db.wallet? user with
    | none => .abort
    | some w => k w

/-- `get_wallet(..., lock=True)`: a wallet that is not there is created. -/
def getWalletLocked (user : ℕ) (k : Wallet → Tx) : Tx :=
  .lock (.wallet user) fun db => k (db.wallets.getWallet user .rider)

/-! ## Fares -/

def fareKey (trip : ℕ) : String := s!"trip_{trip}_payment"

def walletPayment (user : ℕ) (amount : ℚ) (purpose referenceId key : String) : Tx :=
  if amount ≤ 0 then .abort
  else .read fun db =>
    if db.entries.rows.any fun e => e.idempotencyKey = some key then .abort
    else lockWallet user fun w =>
      let amountMinor := Pricing.toMinor amount w.currency
      .read fun db =>
        if w.balanceMinor - db.heldMinor user w.currency < amountMinor then .abort
        else commitAll fun db => db.debit user amountMinor w.currency purpose referenceId key

/-- `create_payment_on_complete`, of a trip that is paid from the wallet. -/
def createPaymentOnComplete (user trip : ℕ) (amount : ℚ) : Tx :=
  walletPayment user amount "Trip payment" (Ref.trip trip).text (fareKey trip)

/-- What a rider's payment finds of the trip, whose row it has locked. -/
structure FareInput where
  user : ℕ
  trip : ℕ
  completed : Bool
  /-- a payment is completed, or the trip is marked as paid -/
  paid : Bool
  notCharged : Bool
  /-- `payable_minor`, in the currency of the trip -/
  payableMinor : ℤ
  currency : Currency
  /-- the amount of the client, when it sent one -/
  clientMinor : Option ℤ
deriving DecidableEq

def payTrip (i : FareInput) : Tx :=
  if !i.completed then .abort
  else .read fun db =>
    if db.entries.rows.any fun e =>
        e.idempotencyKey = some (fareKey i.trip) && e.user = i.user then .abort
    else if i.paid then .abort
    else if i.notCharged then .abort
    else if i.payableMinor ≤ 0 then .abort
    else if ∃ m ∈ i.clientMinor, m ≠ i.payableMinor then .abort
    else lockWallet i.user fun w =>
      if w.currency ≠ i.currency then .abort
      else .read fun db =>
        if w.balanceMinor - db.heldMinor i.user i.currency < i.payableMinor then .abort
        else commitAll fun db =>
          db.debit i.user i.payableMinor i.currency "Trip payment" (Ref.trip i.trip).text
            (fareKey i.trip)

/-! ## Credits -/

/-- What a credit brings; the row is stamped with a currency of two digits. -/
structure CreditInput where
  user : ℕ
  amountMinor : ℤ
  /-- `RIDER_CREDIT_BALANCE_CAP` -/
  capMinor : ℤ
  stamp : Currency
  purpose : String
  referenceId : String
  idempotencyKey : String
deriving DecidableEq

/-- `_issue_credit`.  The wallet it created stays when the credit is not written, unless the key is
that of another rider. -/
def issueCredit (i : CreditInput) : Tx :=
  if i.amountMinor ≤ 0 then .abort
  else getWalletLocked i.user fun w =>
    if i.capMinor < w.balanceMinor + i.amountMinor then .commit fun db => db.saveWallet w
    else .commit fun db =>
      match db.credit i.user i.amountMinor i.stamp i.purpose i.referenceId i.idempotencyKey with
      | some db' => db'
      | none =>
          if db.entries.rows.any fun e =>
            e.idempotencyKey = some i.idempotencyKey && e.user = i.user then db.saveWallet w
          else db

/-- `get_wallet_balance` creates a wallet that is not there. -/
def getWalletBalance (user : ℕ) : Tx :=
  .lock (.wallet user) fun db =>
    match db.wallet? user with
    | some _ => .abort
    | none => .commit fun db => db.saveWallet (db.wallets.getWallet user .rider)

/-! ## Top-ups -/

/-- The webhook of a top-up.  Its save names a column that the ledger does not have, and raises. -/
def webhookTopup (entry : ℕ) (gatewayAmount : ℚ) : Tx :=
  .lock (.entry entry) fun db =>
    match db.entries.get? entry with
    | none => .abort
    | some e =>
        if e.status = .completed then .abort
        else if e.amountMinor ≠ Pricing.toMinor gatewayAmount e.currency then .abort
        else .abort

/-- The row of a top-up that has arrived, and the wallet. -/
def Db.completeTopup (db : Db) (e : WalletTransaction) : Db :=
  ({ db with entries := db.entries.put { e with status := .completed } }).addMinor e.user
    e.amountMinor

/-- The reconciliation of one pending top-up, with the amount the gateway was paid. -/
def reconTopup (entry : ℕ) (gatewayAmount : ℚ) : Tx :=
  .read fun db =>
    match db.entries.get? entry with
    | none => .abort
    | some e =>
        if e.status ≠ .pending ∨ e.txnType ≠ .credit ∨ e.gatewayOrderId = "" then .abort
        else .lock (.entry entry) fun db =>
          match db.entries.get? entry with
          | none => .abort
          | some e =>
              if e.status = .completed then .abort
              else if e.amountMinor ≠ Pricing.toMinor gatewayAmount e.currency then .abort
              else getWalletLocked e.user fun _ => .commit fun db => db.completeTopup e

/-! ## Rewards under review -/

/-- A reward that is linked to a flag. -/
structure Linked where
  ledgerEntry : ℕ
  amountMinor : ℤ
  currency : Currency
deriving DecidableEq

/-- What a flag brings that holds the linked rewards of a rider. -/
structure HoldInput where
  flag : ℕ
  user : ℕ
  active : Bool
  entries : List Linked
  releaseAt : ℕ
deriving DecidableEq

/-- `RewardHold.objects.create(...)`; one hold of a reward at a time. -/
def Db.createHold (i : HoldInput) (db : Db) (hold : Linked × ℤ) : Option Db :=
  if db.holds.rows.any fun h => h.ledgerEntry = hold.1.ledgerEntry && h.status = .held then none
  else
    some { db with
      holds := db.holds.put
        { id := db.holds.nextKey, user := i.user, ofDriver := false, amountMinor := hold.2
          currency := hold.1.currency, status := .held, flag := i.flag
          ledgerEntry := hold.1.ledgerEntry, rewardMinor := hold.1.amountMinor
          releaseAt := i.releaseAt, forfeitedVia := none } }

/-- The loop of `hold_for_flag`, on the locked wallet; it sees the holds it has made. -/
def holdEach (i : HoldInput) (w : Wallet) : List Linked → List (Linked × ℤ) → Tx
  | [], made =>
      commitAll fun db => made.foldlM (Db.createHold i) (db.saveWallet w)
  | e :: es, made => .read fun db =>
      if (db.holds.rows.any fun h => h.ledgerEntry = e.ledgerEntry) ||
          made.any fun m => m.1.ledgerEntry = e.ledgerEntry then holdEach i w es made
      else if e.currency ≠ w.currency then holdEach i w es made
      else
        let room :=
          w.balanceMinor - (db.heldMinor i.user w.currency + (made.map Prod.snd).sum)
        let amount := min e.amountMinor room
        if amount ≤ 0 then holdEach i w es made else holdEach i w es (made ++ [(e, amount)])

/-- `hold_for_flag`, of a rider. -/
def holdForFlag (i : HoldInput) : Tx :=
  if !i.active then .abort
  else if i.entries = [] then .abort
  else getWalletLocked i.user fun w => holdEach i w i.entries []

/-- Locks some holds one after the other; a hold that has changed meanwhile is left out. -/
def lockHolds (p : RewardHold → Bool) (k : List RewardHold → Tx) :
    List ℕ → List RewardHold → Tx
  | [], locked => k locked
  | id :: ids, locked => .lock (.hold id) fun db =>
      match db.holds.get? id with
      | none => lockHolds p k ids locked
      | some h =>
          if p h then lockHolds p k ids (locked ++ [h]) else lockHolds p k ids locked

/-- `RewardHold.objects.select_for_update().filter(...)`. -/
def selectHolds (p : RewardHold → Bool) (k : List RewardHold → Tx) : Tx :=
  .read fun db => lockHolds p k ((db.holds.rows.filter p).map RewardHold.key) []

/-- `hold.save(update_fields=[...])` of some locked holds. -/
def Db.saveHolds (db : Db) (hs : List RewardHold) : Db :=
  { db with holds := hs.foldl Table.put db.holds }

def releaseForFlag (flag : ℕ) : Tx :=
  selectHolds (fun h => h.flag = flag && h.status = .held) fun hs =>
    .commit fun db => db.saveHolds (hs.map released)

/-- `on_decision`, of a flag that is confirmed for a reason that recovers rewards. -/
def keepForFinance (flag releaseAt : ℕ) : Tx :=
  selectHolds (fun h => h.flag = flag && h.status = .held) fun hs =>
    .commit fun db => db.saveHolds (hs.map fun h => { h with releaseAt })

/-- `release_due`, of one hold that the sweep found. -/
def releaseDue (hold now : ℕ) : Tx :=
  .read fun db =>
    match db.holds.get? hold with
    | none => .abort
    | some h =>
        if h.status ≠ .held ∨ now < h.releaseAt then .abort
        else lockHolds (fun h => h.status = .held)
          (fun hs => .commit fun db => db.saveHolds (hs.map released)) [hold] []

/-! ## Recoveries -/

/-- What an approved recovery brings; `refused` when the flag or the cap does not allow it. -/
structure RecoveryInput where
  request : ℕ
  flag : ℕ
  user : ℕ
  amountMinor : ℤ
  currency : Currency
  refused : Bool
  now : ℕ
deriving DecidableEq

/-- The holds that fit into what remains and into the balance. -/
def forfeits (balance remaining : ℤ) : List RewardHold → List RewardHold
  | [] => []
  | h :: hs =>
      if remaining < h.amountMinor ∨ balance < h.amountMinor then forfeits balance remaining hs
      else h :: forfeits (balance - h.amountMinor) (remaining - h.amountMinor) hs

def totalMinor (hs : List RewardHold) : ℤ := (hs.map fun h => h.amountMinor).sum

namespace RecoveryInput

def take (i : RecoveryInput) (db : Db) (amountMinor : ℤ) (key : String) : Option Db :=
  db.debit i.user amountMinor i.currency "reward_recovery" (Ref.recovery i.request).text key

/-- The body of the loop over the held rewards. -/
def forfeit (i : RecoveryInput) (db : Db) (h : RewardHold) : Option Db :=
  (i.take db h.amountMinor s!"recovery_{i.request}_hold_{h.id}").map
    (·.saveHolds [h.forfeit i.request])

def takeRest (i : RecoveryInput) (db : Db) (taken : ℤ) : Option Db :=
  if 0 < taken then i.take db taken s!"recovery_{i.request}_wallet" else some db

/-- The debt of a rider: what the wallet did not give is never collected. -/
def debt (i : RecoveryInput) (id : ℕ) (forfeited taken : ℤ) : RecoveryDebt where
  id := id
  user := i.user
  ofDriver := false
  approvalRequest := i.request
  amountMinor := i.amountMinor - forfeited
  recoveredMinor := taken
  uncollectedMinor := i.amountMinor - forfeited - taken
  currency := i.currency
  closedAt := some i.now
  flag := i.flag
  requestedMinor := i.amountMinor
  forfeitedMinor := forfeited

/-- The writes of a recovery, with the holds it forfeits and what the wallet gives. -/
def recover (i : RecoveryInput) (w : Wallet) (hs : List RewardHold) (taken : ℤ) (db : Db) :
    Option Db := do
  let db ← hs.foldlM i.forfeit (db.saveWallet w)
  let db ← i.takeRest db taken
  let debts ← db.debts.insert? (i.debt db.debts.rows.length (totalMinor hs) taken)
  return { db with debts }

end RecoveryInput

/-- `execute_recovery`, of a rider. -/
def executeRecovery (i : RecoveryInput) : Tx :=
  if i.amountMinor ≤ 0 then .abort
  else .read fun db =>
    if (db.debts.get? i.request).isSome then .abort
    else if i.refused then .abort
    else getWalletLocked i.user fun w =>
      if w.currency ≠ i.currency then .abort
      else
        selectHolds (fun h => h.flag = i.flag && h.user = i.user && h.status = .held) fun locked =>
          let hs := forfeits w.balanceMinor i.amountMinor locked
          let remaining := i.amountMinor - totalMinor hs
          .read fun db =>
            -- the holds it has forfeited no longer count
            let held := (db.saveHolds (hs.map (·.forfeit i.request))).heldMinor i.user w.currency
            let free := max 0 (w.balanceMinor - totalMinor hs - held)
            commitAll (i.recover w hs (min remaining free))

/-! ## Requests -/

/-- What a session is asked for. -/
inductive Request where
  | createPaymentOnComplete (user trip : ℕ) (amount : ℚ)
  | payTrip (i : FareInput)
  | issueCredit (i : CreditInput)
  | getWalletBalance (user : ℕ)
  | webhookTopup (entry : ℕ) (gatewayAmount : ℚ)
  | reconTopup (entry : ℕ) (gatewayAmount : ℚ)
  | holdForFlag (i : HoldInput)
  | releaseForFlag (flag : ℕ)
  | keepForFinance (flag releaseAt : ℕ)
  | releaseDue (hold now : ℕ)
  | executeRecovery (i : RecoveryInput)

/-- The transaction of a request. -/
def transaction : Request → Tx
  | .createPaymentOnComplete user trip amount => createPaymentOnComplete user trip amount
  | .payTrip i => payTrip i
  | .issueCredit i => issueCredit i
  | .getWalletBalance user => getWalletBalance user
  | .webhookTopup entry gatewayAmount => webhookTopup entry gatewayAmount
  | .reconTopup entry gatewayAmount => reconTopup entry gatewayAmount
  | .holdForFlag i => holdForFlag i
  | .releaseForFlag flag => releaseForFlag flag
  | .keepForFinance flag releaseAt => keepForFinance flag releaseAt
  | .releaseDue hold now => releaseDue hold now
  | .executeRecovery i => executeRecovery i

def walletsAfter {τ : Type} [DecidableEq τ] (db : Db) (ms : List (Move τ Request)) :
    System Key Db τ Request :=
  Transition.run (System.step transaction) (System.opening db) ms

end SaaradhiGo.RiderWallet
