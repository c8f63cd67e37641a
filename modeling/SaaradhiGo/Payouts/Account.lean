/-
The account of one withdrawal: what the ledger took for it and what it gave back.

The rows of a withdrawal are found by their references.  An account is in order when what
was given back, with the amount itself as long as it is out, makes up what was taken; when
one refund has been written since the last debit if the amount is back and none if it is
out; and when the reference of the next refund for a failed payout is still free while the
amount is out.  `Books` says this of every withdrawal of the database, for a given account
`back` of which amounts are back.
-/
import SaaradhiGo.Payouts.Actions

namespace SaaradhiGo.Payouts

open SaaradhiGo.Money

/-! ## The rows of a withdrawal -/

/-- The withdrawal a reference is about. -/
def withdrawalOf : Ref → Option ℕ
  | .withdrawal id | .withdrawalDebit id _ | .withdrawalRetry id _ | .refundWithdrawal id
  | .refundWithdrawalAttempt id _ | .refundRejectedWithdrawal id
  | .refundReversedWithdrawal id => some id
  | _ => none

def refs (t : WalletTransaction) : List Ref := [t.referenceId, t.idempotencyKey]

/-- One of the row's references is about the withdrawal. -/
def Mentions (id : ℕ) (t : WalletTransaction) : Prop :=
  ∃ r ∈ refs t, withdrawalOf r = some id

instance (id : ℕ) (t : WalletTransaction) : Decidable (Mentions id t) :=
  inferInstanceAs (Decidable (∃ r ∈ refs t, withdrawalOf r = some id))

/-- The row takes the amount of the withdrawal out of the wallet. -/
def isDebitOf (id : ℕ) (t : WalletTransaction) : Bool :=
  t.txnType = .debit && t.purpose = .withdrawal && t.referenceId = .withdrawal id

def isRefundPurpose : Purpose → Bool
  | .refundFailedWithdrawal | .refundRejectedWithdrawal | .refundReversedWithdrawal => true
  | _ => false

/-- The row puts the amount of the withdrawal back into the wallet. -/
def isRefundOf (id : ℕ) (t : WalletTransaction) : Bool :=
  t.txnType = .credit && isRefundPurpose t.purpose && withdrawalOf t.referenceId = some id

def debitedMinor (l : List WalletTransaction) (id : ℕ) : ℤ := Ledger.sumOf l (isDebitOf id)

/-- The sum of the refund credits written for a withdrawal. -/
def refundedMinor (l : List WalletTransaction) (id : ℕ) : ℤ := Ledger.sumOf l (isRefundOf id)

def countRefund (id n : ℕ) (t : WalletTransaction) : ℕ :=
  if isDebitOf id t then 0 else if isRefundOf id t then n + 1 else n

/-- The number of refunds written for a withdrawal since its latest debit. -/
def refundsSinceDebit (l : List WalletTransaction) (id : ℕ) : ℕ :=
  l.foldl (countRefund id) 0

/-- The statuses in which the amount is back in the driver's wallet. -/
def returned : WithdrawalStatus → Bool
  | .failed | .rejected | .reversed | .conflict => true
  | _ => false

section Frame

variable {l ts : List WalletTransaction} {id : ℕ} {t : WalletTransaction}

lemma isDebitOf_of_not_mentions (h : ¬ Mentions id t) : isDebitOf id t = false := by
  by_contra hd
  simp only [isDebitOf, Bool.not_eq_false, Bool.and_eq_true, decide_eq_true_eq] at hd
  exact h ⟨t.referenceId, by simp [refs], by rw [hd.2]; rfl⟩

lemma isRefundOf_of_not_mentions (h : ¬ Mentions id t) : isRefundOf id t = false := by
  by_contra hr
  simp only [isRefundOf, Bool.not_eq_false, Bool.and_eq_true, decide_eq_true_eq] at hr
  exact h ⟨t.referenceId, by simp [refs], hr.2⟩

lemma isRetryKey_of_not_mentions (h : ¬ Mentions id t) :
    isRetryKey id t.idempotencyKey = false := by
  by_contra hk
  refine h ⟨t.idempotencyKey, by simp [refs], ?_⟩
  cases hr : t.idempotencyKey <;> simp_all [isRetryKey, withdrawalOf]

lemma debitedMinor_append : debitedMinor (l ++ ts) id = debitedMinor l id + debitedMinor ts id :=
  Ledger.sumOf_append l ts

lemma refundedMinor_append :
    refundedMinor (l ++ ts) id = refundedMinor l id + refundedMinor ts id :=
  Ledger.sumOf_append l ts

lemma retryAttempts_append :
    retryAttempts (l ++ ts) id = retryAttempts l id + retryAttempts ts id :=
  List.countP_append

lemma refundsSinceDebit_append_singleton :
    refundsSinceDebit (l ++ [t]) id = countRefund id (refundsSinceDebit l id) t := by
  simp [refundsSinceDebit]

lemma debitedMinor_eq_zero (h : ∀ t ∈ ts, ¬ Mentions id t) : debitedMinor ts id = 0 :=
  Ledger.sumOf_eq_zero fun t ht => isDebitOf_of_not_mentions (h t ht)

lemma refundedMinor_eq_zero (h : ∀ t ∈ ts, ¬ Mentions id t) : refundedMinor ts id = 0 :=
  Ledger.sumOf_eq_zero fun t ht => isRefundOf_of_not_mentions (h t ht)

lemma retryAttempts_eq_zero (h : ∀ t ∈ ts, ¬ Mentions id t) : retryAttempts ts id = 0 := by
  rw [retryAttempts, List.countP_eq_zero]
  intro t ht
  simp [isRetryKey_of_not_mentions (h t ht)]

/-- Rows about other things leave the count of refunds as it is. -/
lemma foldl_countRefund_of_not_mentions (n : ℕ) (h : ∀ t ∈ ts, ¬ Mentions id t) :
    ts.foldl (countRefund id) n = n := by
  induction ts with
  | nil => rfl
  | cons t ts ih =>
      have ht := h t (by simp)
      rw [List.foldl_cons, countRefund, isDebitOf_of_not_mentions ht,
        isRefundOf_of_not_mentions ht]
      exact ih fun t' ht' => h t' (by simp [ht'])

lemma refundsSinceDebit_append (h : ∀ t ∈ ts, ¬ Mentions id t) :
    refundsSinceDebit (l ++ ts) id = refundsSinceDebit l id := by
  rw [refundsSinceDebit, List.foldl_append]
  exact foldl_countRefund_of_not_mentions _ h

lemma not_mem_refs_of_not_mentions (h : ¬ Mentions id t) {r : Ref}
    (hr : withdrawalOf r = some id) : r ∉ refs t :=
  fun hmem => h ⟨r, hmem, hr⟩

lemma withdrawalOf_failedRefundReference :
    withdrawalOf (failedRefundReference l id) = some id := by
  rw [failedRefundReference]
  split <;> rfl

end Frame

/-! ## An account in order -/

/-- The account of withdrawal `id` over `amount`; `back` says whether the amount is back in
the wallet. -/
structure Account (l : List WalletTransaction) (id : ℕ) (amount : ℤ) (back : Bool) : Prop where
  pos : 0 < amount
  sums : refundedMinor l id + (if back then 0 else amount) = debitedMinor l id
  since : refundsSinceDebit l id = if back then 1 else 0
  attempts : ∀ t ∈ l, ∀ n, Ref.refundWithdrawalAttempt id n ∈ refs t → n ≤ retryAttempts l id
  unused : back = false → ∀ t ∈ l, failedRefundReference l id ∉ refs t

namespace Account

variable {l ts : List WalletTransaction} {id : ℕ} {amount : ℤ} {back : Bool}

lemma refunded_le (h : Account l id amount back) : refundedMinor l id ≤ debitedMinor l id := by
  have hsums := h.sums
  have hpos := h.pos
  split at hsums <;> omega

/-- Rows about other things leave an account as it is. -/
lemma append (h : Account l id amount back) (hts : ∀ t ∈ ts, ¬ Mentions id t) :
    Account (l ++ ts) id amount back := by
  have hretry : retryAttempts (l ++ ts) id = retryAttempts l id := by
    rw [retryAttempts_append, retryAttempts_eq_zero hts, Nat.add_zero]
  have href : failedRefundReference (l ++ ts) id = failedRefundReference l id := by
    rw [failedRefundReference, failedRefundReference, hretry]
  refine ⟨h.pos, ?_, ?_, ?_, ?_⟩
  · rw [refundedMinor_append, debitedMinor_append, refundedMinor_eq_zero hts,
      debitedMinor_eq_zero hts, add_zero, add_zero]
    exact h.sums
  · rw [refundsSinceDebit_append hts]
    exact h.since
  · intro t ht n hn
    rw [hretry]
    rcases List.mem_append.mp ht with hl | hr
    · exact h.attempts t hl n hn
    · exact absurd hn (not_mem_refs_of_not_mentions (hts t hr) rfl)
  · intro hback t ht
    rw [href]
    rcases List.mem_append.mp ht with hl | hr
    · exact h.unused hback t hl
    · exact not_mem_refs_of_not_mentions (hts t hr) withdrawalOf_failedRefundReference

lemma opened {w : Withdrawal} {userId : ℕ} {currency : Currency} {nonce : String}
    (hpos : 0 < w.amountMinor) (hl : ∀ t ∈ l, ¬ Mentions w.id t) :
    Account (l ++ [debitRow w userId currency (.withdrawalDebit w.id nonce)]) w.id
      w.amountMinor false := by
  have hretry : retryAttempts (l ++ [debitRow w userId currency (.withdrawalDebit w.id nonce)])
      w.id = 0 := by
    rw [retryAttempts_append, retryAttempts_eq_zero hl]
    rfl
  refine ⟨hpos, ?_, ?_, ?_, ?_⟩
  · rw [refundedMinor_append, debitedMinor_append, refundedMinor_eq_zero hl,
      debitedMinor_eq_zero hl]
    simp [refundedMinor, debitedMinor, isRefundOf, isDebitOf, debitRow]
  · rw [refundsSinceDebit_append_singleton]
    simp [countRefund, isDebitOf, debitRow]
  · intro t ht n hn
    rcases List.mem_append.mp ht with hmem | hnew
    · exact absurd hn (not_mem_refs_of_not_mentions (hl t hmem) rfl)
    · rw [List.mem_singleton.mp hnew] at hn
      simp [refs, debitRow] at hn
  · intro _ t ht hmem
    rw [failedRefundReference, hretry, if_pos rfl] at hmem
    rcases List.mem_append.mp ht with hold | hnew
    · exact not_mem_refs_of_not_mentions (hl t hold) rfl hmem
    · rw [List.mem_singleton.mp hnew] at hmem
      simp [refs, debitRow] at hmem

/-- The references a refund of withdrawal `id` can carry: its own, and for a failed payout
that of the current attempt. -/
def RefundRef (l : List WalletTransaction) (id : ℕ) (ref : Ref) : Prop :=
  ref = failedRefundReference l id ∨ ref = .refundRejectedWithdrawal id ∨
    ref = .refundReversedWithdrawal id

lemma RefundRef.withdrawalOf {ref : Ref} (h : RefundRef l id ref) :
    Payouts.withdrawalOf ref = some id := by
  rcases h with rfl | rfl | rfl
  · exact withdrawalOf_failedRefundReference
  · rfl
  · rfl

lemma RefundRef.le_retryAttempts {ref : Ref} (h : RefundRef l id ref) {n : ℕ}
    (hn : ref = .refundWithdrawalAttempt id n) : n ≤ retryAttempts l id := by
  subst hn
  rcases h with h | h | h
  · rw [failedRefundReference] at h
    split at h
    · cases h
    · cases h
      exact le_rfl
  · cases h
  · cases h

lemma refunded {w : Withdrawal} {userId : ℕ} {currency : Currency} {purpose : Purpose}
    {ref : Ref} (h : Account l w.id w.amountMinor false) (hp : isRefundPurpose purpose)
    (hr : RefundRef l w.id ref) :
    Account (l ++ [refundRow w userId currency purpose ref]) w.id w.amountMinor true := by
  have hdebit : isDebitOf w.id (refundRow w userId currency purpose ref) = false := by
    simp [isDebitOf, refundRow]
  have hrefund : isRefundOf w.id (refundRow w userId currency purpose ref) = true := by
    simp [isRefundOf, refundRow, hp, hr.withdrawalOf]
  have hsums := h.sums
  refine ⟨h.pos, ?_, ?_, ?_, by simp⟩
  · rw [refundedMinor_append, debitedMinor_append]
    simp only [refundedMinor, debitedMinor, Ledger.sumOf_singleton, hdebit, hrefund] at hsums ⊢
    simpa [refundRow] using hsums
  · rw [refundsSinceDebit_append_singleton, countRefund, hdebit, hrefund, h.since]
    rfl
  · intro t ht n hn
    rw [retryAttempts_append]
    rcases List.mem_append.mp ht with hl | hnew
    · exact (h.attempts t hl n hn).trans (Nat.le_add_right _ _)
    · rw [List.mem_singleton.mp hnew] at hn
      have hn' : ref = .refundWithdrawalAttempt w.id n := by
        simpa [refs, refundRow, eq_comm] using hn
      exact (hr.le_retryAttempts hn').trans (Nat.le_add_right _ _)

lemma debitedAgain {w : Withdrawal} {userId : ℕ} {currency : Currency}
    (h : Account l w.id w.amountMinor true) :
    Account (l ++ [debitRow w userId currency (.withdrawalRetry w.id (retryAttempts l w.id + 1))])
      w.id w.amountMinor false := by
  have hretry : retryAttempts (l ++ [debitRow w userId currency
      (.withdrawalRetry w.id (retryAttempts l w.id + 1))]) w.id = retryAttempts l w.id + 1 := by
    rw [retryAttempts_append]
    simp [retryAttempts, isRetryKey, debitRow]
  have hsums := h.sums
  refine ⟨h.pos, ?_, ?_, ?_, ?_⟩
  · rw [refundedMinor_append, debitedMinor_append]
    simp only [if_true, add_zero] at hsums
    simp [refundedMinor, debitedMinor, isRefundOf, isDebitOf, debitRow] at hsums ⊢
    omega
  · rw [refundsSinceDebit_append_singleton]
    simp [countRefund, isDebitOf, debitRow]
  · intro t ht n hn
    rw [hretry]
    rcases List.mem_append.mp ht with hl | hnew
    · exact (h.attempts t hl n hn).trans (Nat.le_succ _)
    · rw [List.mem_singleton.mp hnew] at hn
      simp [refs, debitRow] at hn
  · -- the refund of attempt `n + 1` has not been written: there were `n` attempts
    intro _ t ht hmem
    rw [failedRefundReference, hretry, if_neg (Nat.succ_ne_zero _)] at hmem
    rcases List.mem_append.mp ht with hl | hnew
    · exact absurd (h.attempts t hl _ hmem) (by omega)
    · rw [List.mem_singleton.mp hnew] at hmem
      simp [refs, debitRow] at hmem

end Account

end SaaradhiGo.Payouts
