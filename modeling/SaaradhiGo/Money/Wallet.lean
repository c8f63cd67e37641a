/-
Wallets and the ledger of wallet transactions.

A user has at most one wallet in each role.  Every movement of a wallet's balance comes
with a row of the ledger, and the ledger refuses a second row with the same idempotency
key.  Amounts are integers in the minor units of a currency; both supported currencies
have two digits, so an amount keeps its minor units when it is read as a decimal in one
row and written to another.
-/
import SaaradhiGo.Lib.Table
import SaaradhiGo.Money.Ref
import Mathlib.Algebra.BigOperators.Group.List.Basic
import Mathlib.Algebra.Order.Floor.Ring
import Mathlib.Data.Rat.Floor

namespace SaaradhiGo.Money

/-- The supported currencies. -/
inductive Currency where
  | inr
  | usd
deriving DecidableEq, Repr

/-- `quantize(Decimal('1'), rounding=ROUND_HALF_UP)`. -/
def roundHalfUp (q : ℚ) : ℤ :=
  if 0 ≤ q then ⌊q + 1 / 2⌋ else -⌊-q + 1 / 2⌋

/-- The direction of a ledger row. -/
inductive TxnType where
  | credit
  | debit
deriving DecidableEq, Repr

/-- The status of a ledger row. -/
inductive TxnStatus where
  | pending
  | completed
  | failed
deriving DecidableEq, Repr

/-- The role a wallet is held in. -/
inductive Scope where
  | rider
  | driver
deriving DecidableEq, Repr

/-- What a ledger row is for. -/
inductive Purpose where
  | withdrawal
  | refundFailedWithdrawal
  | refundRejectedWithdrawal
  | refundReversedWithdrawal
  | tripEarnings
  | tripCommission
  | taxCollected
  | regulatoryFeeCollected
  | promoDiscountPlatformFunded
  | fareCollectedByPlatform
  | platformFundedTripEnd
  | tripRefundReversal
  | rewardRecovery
deriving DecidableEq, Repr

/-- The balance of one user in one role. -/
structure Wallet where
  userId : ℕ
  scope : Scope
  balanceMinor : ℤ
  currency : Currency
deriving DecidableEq, Repr

def Wallet.key (w : Wallet) : ℕ × Scope := (w.userId, w.scope)

abbrev Wallets : Type := Table Wallet.key

/-- One row of the ledger. -/
structure WalletTransaction where
  userId : ℕ
  amountMinor : ℤ
  currency : Currency
  txnType : TxnType
  status : TxnStatus
  purpose : Purpose
  referenceId : Ref
  idempotencyKey : Ref
deriving DecidableEq, Repr

namespace WalletTransaction

/-- What the row adds to the balance. -/
def signedMinor (t : WalletTransaction) : ℤ :=
  match t.txnType with
  | .credit => t.amountMinor
  | .debit => -t.amountMinor

end WalletTransaction

/-- The ledger: rows in the order they were written, no two with one idempotency key. -/
abbrev Ledger : Type := Table WalletTransaction.idempotencyKey

namespace Wallets

def addMinor (ws : Wallets) (w : Wallet) (delta : ℤ) : Wallets :=
  ws.put { w with balanceMinor := w.balanceMinor + delta }

/-- `get_wallet`: the wallet of a user in a role, created empty when there is none. -/
def getWallet (ws : Wallets) (userId : ℕ) (scope : Scope) : Wallet :=
  (ws.get? (userId, scope)).getD
    { userId, scope, balanceMinor := 0, currency := .inr }

/-- The currency the stamp of a row without a trip derives: that of the user's first
wallet, in whatever role. -/
def derivedCurrency (ws : Wallets) (userId : ℕ) : Option Currency :=
  (ws.rows.find? fun w => w.userId = userId).map Wallet.currency

/-- The currency a row is stored with: one that is set and is not the default is kept,
otherwise the derived one, otherwise the default. -/
def stampCurrency (before derived : Option Currency) : Currency :=
  match before with
  | some .usd => .usd
  | some .inr | none => derived.getD .inr

@[simp] lemma get?_addMinor_self (ws : Wallets) (w : Wallet) (delta : ℤ) :
    (ws.addMinor w delta).get? w.key
      = some { w with balanceMinor := w.balanceMinor + delta } :=
  Table.get?_put_self ws _

lemma getWallet_of_get? {ws : Wallets} {userId : ℕ} {scope : Scope} {w : Wallet}
    (h : ws.get? (userId, scope) = some w) : ws.getWallet userId scope = w := by
  simp [getWallet, h]

@[simp] lemma key_getWallet (ws : Wallets) (userId : ℕ) (scope : Scope) :
    (ws.getWallet userId scope).key = (userId, scope) := by
  cases h : ws.get? (userId, scope) with
  | none => simp [getWallet, h, Wallet.key]
  | some w =>
      rw [getWallet_of_get? h]
      exact Table.pk_of_get? h

lemma getWallet_put {ws : Wallets} {userId : ℕ} {scope : Scope} {w : Wallet}
    (h : w.key = (userId, scope)) : getWallet (ws.put w) userId scope = w :=
  getWallet_of_get? (h ▸ Table.get?_put_self ws w)

/-- A wallet that exists still exists after a balance has changed. -/
lemma isSome_get?_addMinor {ws : Wallets} {w : Wallet} {delta : ℤ} {k : ℕ × Scope}
    (h : (ws.get? k).isSome) : ((ws.addMinor w delta).get? k).isSome := by
  rw [addMinor, Table.get?_put]
  split
  · rfl
  · exact h

end Wallets

namespace Ledger

/-- The sum of the amounts of the rows that satisfy `p`. -/
def sumOf (l : List WalletTransaction) (p : WalletTransaction → Bool) : ℤ :=
  ((l.filter p).map WalletTransaction.amountMinor).sum

variable {p : WalletTransaction → Bool}

@[simp] lemma sumOf_nil : sumOf [] p = 0 := rfl

@[simp] lemma sumOf_append (l l' : List WalletTransaction) :
    sumOf (l ++ l') p = sumOf l p + sumOf l' p := by
  simp [sumOf]

@[simp] lemma sumOf_singleton (t : WalletTransaction) :
    sumOf [t] p = if p t then t.amountMinor else 0 := by
  by_cases h : p t <;> simp [sumOf, h]

/-- What the rows that satisfy `p` add to the balance. -/
def signedSumOf (l : List WalletTransaction) (p : WalletTransaction → Bool) : ℤ :=
  ((l.filter p).map WalletTransaction.signedMinor).sum

@[simp] lemma signedSumOf_nil : signedSumOf [] p = 0 := rfl

@[simp] lemma signedSumOf_append (l l' : List WalletTransaction) :
    signedSumOf (l ++ l') p = signedSumOf l p + signedSumOf l' p := by
  simp [signedSumOf]

@[simp] lemma signedSumOf_cons (t : WalletTransaction) (l : List WalletTransaction) :
    signedSumOf (t :: l) p = (if p t then t.signedMinor else 0) + signedSumOf l p := by
  by_cases h : p t <;> simp [signedSumOf, h]

/-- Write rows one after the other; a row that is refused refuses them all. -/
def insertAll (l : Ledger) : List WalletTransaction → Option Ledger
  | [] => some l
  | t :: ts => (l.insert? t).bind fun l => insertAll l ts

lemma rows_of_insertAll {l l' : Ledger} {ts : List WalletTransaction}
    (h : l.insertAll ts = some l') : l'.rows = l.rows ++ ts := by
  induction ts generalizing l with
  | nil =>
      cases h
      simp
  | cons t ts ih =>
      obtain ⟨l₁, hfirst, hrest⟩ := Option.bind_eq_some_iff.mp h
      rw [ih hrest, (Table.rows_of_insert? hfirst).1, List.append_assoc, List.singleton_append]

/-- A row that does not satisfy `p` leaves the sum as it is. -/
lemma sumOf_eq_zero {l : List WalletTransaction} (h : ∀ t ∈ l, p t = false) : sumOf l p = 0 := by
  have hl : l.filter p = [] := List.filter_eq_nil_iff.mpr (by simpa using h)
  simp [sumOf, hl]

end Ledger

end SaaradhiGo.Money
