/-
The accounts of all withdrawals, and what the payout code does to them.

`Books db back` says that the account of every withdrawal is in order when the amounts of
the withdrawals selected by `back` are back in their wallets.  The books are in order
(`InOrder`) when these are the withdrawals in a returned status.  Each function that moves
money has one lemma here: it opens an account, closes it with a refund, or takes the amount
out again.
-/
import SaaradhiGo.Payouts.Account

namespace SaaradhiGo.Payouts

open SaaradhiGo.Money

/-- Every account is in order, with the amounts selected by `back` in their wallets. -/
structure Books (db : Db) (back : Withdrawal → Bool) : Prop where
  lt_nextId : ∀ w ∈ db.withdrawals.rows, w.id < db.nextId
  fresh : ∀ t ∈ db.ledger.rows, ∀ id, Mentions id t → id < db.nextId
  wallet : ∀ w ∈ db.withdrawals.rows, (db.driverWallet? w).isSome
  account : ∀ w ∈ db.withdrawals.rows, Account db.ledger.rows w.id w.amountMinor (back w)
  unrejected : ∀ w ∈ db.withdrawals.rows, w.status = .pending →
    ∀ t ∈ db.ledger.rows, Ref.refundRejectedWithdrawal w.id ∉ refs t

/-- The amounts of the withdrawals in a returned status are back, and no others. -/
def InOrder (db : Db) : Prop := Books db fun w => returned w.status

namespace Books

variable {db : Db} {back back' : Withdrawal → Bool}

/-- The books depend on `back` only through the withdrawals there are. -/
lemma congr (h : Books db back) (hb : ∀ w ∈ db.withdrawals.rows, back' w = back w) :
    Books db back' where
  lt_nextId := h.lt_nextId
  fresh := h.fresh
  wallet := h.wallet
  account w hw := by rw [hb w hw]; exact h.account w hw
  unrejected := h.unrejected

/-- Wallets may be opened and their balances may move. -/
lemma withWallets {wallets : Wallets} (h : Books db back)
    (hws : ∀ k, (db.wallets.get? k).isSome → (wallets.get? k).isSome) :
    Books { db with wallets } back where
  lt_nextId := h.lt_nextId
  fresh := h.fresh
  wallet w hw := hws _ (h.wallet w hw)
  account := h.account
  unrejected := h.unrejected

/-- What else is kept of a driver may change. -/
lemma withDrivers {drivers : ℕ → Driver} (h : Books db back)
    (hdrivers : ∀ d, (drivers d).userId = (db.drivers d).userId) :
    Books { db with drivers } back where
  lt_nextId := h.lt_nextId
  fresh := h.fresh
  wallet w hw := by
    have hwallet := h.wallet w hw
    rwa [Db.driverWallet?, Db.userOf, ← hdrivers] at hwallet
  account := h.account
  unrejected := h.unrejected

lemma save {w row : Withdrawal} {fields : List Field} (h : Books db back)
    (hget : db.withdrawals.get? w.id = some row) (hback : back' (row.update w fields) = back row)
    (hpending : (row.update w fields).status = .pending → row.status = .pending)
    (hother : ∀ x : Withdrawal, x.id ≠ w.id → back' x = back x) :
    Books (db.save w fields) back' := by
  -- every row after the save comes from a row with the same request before it
  have hmem : ∀ x ∈ (db.save w fields).withdrawals.rows, ∃ row ∈ db.withdrawals.rows,
      row.SameRequest x ∧ back' x = back row ∧ (x.status = .pending → row.status = .pending) := by
    intro x hx
    rcases Db.mem_save hx with ⟨row', hget', rfl⟩ | ⟨hx, hne⟩
    · rw [hget, Option.some.injEq] at hget'
      subst hget'
      exact ⟨row, (Table.mem_of_get? hget).1, Withdrawal.sameRequest_update row w fields, hback,
        hpending⟩
    · exact ⟨x, hx, .refl x, hother x hne, id⟩
  constructor
  · intro x hx
    obtain ⟨row, hrow, hsame, -⟩ := hmem x hx
    rw [hsame.id, Db.nextId_save]
    exact h.lt_nextId row hrow
  · intro t ht id hm
    rw [Db.ledger_save] at ht
    rw [Db.nextId_save]
    exact h.fresh t ht id hm
  · intro x hx
    obtain ⟨row, hrow, hsame, -⟩ := hmem x hx
    rw [Db.driverWallet?_save, Db.driverWallet?_congr hsame]
    exact h.wallet row hrow
  · intro x hx
    obtain ⟨row, hrow, hsame, hb, -⟩ := hmem x hx
    rw [Db.ledger_save, hsame.id, hsame.amountMinor, hb]
    exact h.account row hrow
  · intro x hx hpending t ht
    obtain ⟨row, hrow, hsame, -, hp⟩ := hmem x hx
    rw [Db.ledger_save] at ht
    rw [hsame.id]
    exact h.unrejected row hrow (hp hpending) t ht

/-- One row about the withdrawal `w` is written, and no wallet disappears. -/
lemma append {w : Withdrawal} {t : WalletTransaction} {wallets : Wallets} {ledger : Ledger}
    (h : Books db back) (hw : w ∈ db.withdrawals.rows)
    (hl : ledger.rows = db.ledger.rows ++ [t])
    (hws : ∀ k, (db.wallets.get? k).isSome → (wallets.get? k).isSome)
    (hm : ∀ id, Mentions id t → id = w.id)
    (hacc : Account (db.ledger.rows ++ [t]) w.id w.amountMinor (back' w))
    (hother : ∀ x : Withdrawal, x.id ≠ w.id → back' x = back x)
    (hp : w.status = .pending → Ref.refundRejectedWithdrawal w.id ∉ refs t) :
    Books { db with wallets, ledger } back' := by
  -- no two withdrawals have the same id
  have huniq : ∀ x ∈ db.withdrawals.rows, x.id = w.id → x = w := by
    intro x hx hid
    have hgx := Table.mem_iff_get?.mp hx
    rw [hid, Table.mem_iff_get?.mp hw] at hgx
    exact (Option.some.inj hgx).symm
  constructor
  · exact h.lt_nextId
  · intro u hu id hmu
    rw [hl] at hu
    rcases List.mem_append.mp hu with hold | hnew
    · exact h.fresh u hold id hmu
    · rw [List.mem_singleton.mp hnew] at hmu
      rw [hm id hmu]
      exact h.lt_nextId w hw
  · exact fun x hx => hws _ (h.wallet x hx)
  · intro x hx
    by_cases hid : x.id = w.id
    · rw [huniq x hx hid, hl]
      exact hacc
    · rw [hother x hid, hl]
      refine (h.account x hx).append fun u hu hmu => ?_
      rw [List.mem_singleton.mp hu] at hmu
      exact hid (hm x.id hmu)
  · intro x hx hpending u hu hmem
    rw [hl] at hu
    rcases List.mem_append.mp hu with hold | hnew
    · exact h.unrejected x hx hpending u hold hmem
    · rw [List.mem_singleton.mp hnew] at hmem
      have hid : x.id = w.id := hm x.id ⟨_, hmem, rfl⟩
      rw [huniq x hx hid] at hpending hmem
      exact hp hpending hmem

/-- A refund of the withdrawal `w`, whose amount is out, brings it back. -/
lemma refund {w row : Withdrawal} {userId : ℕ} {currency : Currency} {purpose : Purpose}
    {ref : Ref} {ledger : Ledger} {wallet : Wallet} {delta : ℤ} (h : Books db back)
    (hget : db.withdrawals.get? w.id = some row) (hsame : row.SameRequest w)
    (hpending : row.status ≠ .pending) (hback : back row = false) (hback' : back' row = true)
    (hother : ∀ x : Withdrawal, x.id ≠ w.id → back' x = back x)
    (hpurpose : isRefundPurpose purpose) (href : Account.RefundRef db.ledger.rows w.id ref)
    (hinsert : db.ledger.insert? (refundRow w userId currency purpose ref) = some ledger) :
    Books { db with wallets := db.wallets.addMinor wallet delta, ledger } back' := by
  have hrow : row ∈ db.withdrawals.rows := (Table.mem_of_get? hget).1
  have hacc := h.account row hrow
  rw [hback, ← hsame.id, ← hsame.amountMinor] at hacc
  refine h.append hrow (Table.rows_of_insert? hinsert).1
    (fun k hk => Wallets.isSome_get?_addMinor hk) ?_ ?_ ?_ ?_
  · rintro id ⟨r, hr, hid⟩
    have hr' : r = ref := by simpa [refs, refundRow] using hr
    rw [hr', href.withdrawalOf, Option.some.injEq] at hid
    exact hid.symm.trans hsame.id
  · rw [hback', ← hsame.id, ← hsame.amountMinor]
    exact hacc.refunded hpurpose href
  · intro x hx
    exact hother x (by rwa [hsame.id])
  · exact fun hp => absurd hp hpending

lemma refundFailed {w row : Withdrawal} (h : Books db back)
    (hget : db.withdrawals.get? w.id = some row) (hsame : row.SameRequest w)
    (hpending : row.status ≠ .pending) (hback : back row = false) (hback' : back' row = true)
    (hother : ∀ x : Withdrawal, x.id ≠ w.id → back' x = back x) :
    ∃ db', refundFailed db w (failedRefundReference db.ledger.rows w.id) = (.done, db') ∧
      db'.withdrawals = db.withdrawals ∧ Books db' back' := by
  have hrow : row ∈ db.withdrawals.rows := (Table.mem_of_get? hget).1
  have hacc := h.account row hrow
  rw [hback, ← hsame.id] at hacc
  have hunused := hacc.unused rfl
  obtain ⟨wallet, hwallet⟩ := Option.isSome_iff_exists.mp (h.wallet row hrow)
  rw [← Db.driverWallet?_congr hsame] at hwallet
  have hno : hasRefund db.ledger.rows (failedRefundReference db.ledger.rows w.id)
      .refundFailedWithdrawal = false := by
    rw [hasRefund, List.any_eq_false]
    intro t ht hmatch
    simp only [Bool.and_eq_true, decide_eq_true_eq] at hmatch
    exact hunused t ht (by simp [refs, hmatch.1.1.1])
  obtain ⟨ledger, hledger, -⟩ := Table.insert?_of_notMem
    (t := db.ledger) (r := refundRow w (db.userOf w) (db.derivedStamp (db.userOf w))
      .refundFailedWithdrawal (failedRefundReference db.ledger.rows w.id)) (by
        intro hmem
        obtain ⟨t, ht, hkey⟩ := List.mem_map.mp hmem
        have hkey' : t.idempotencyKey = failedRefundReference db.ledger.rows w.id := hkey
        exact hunused t ht (by simp [refs, hkey']))
  refine ⟨{ db with wallets := db.wallets.addMinor wallet w.amountMinor, ledger }, ?_, rfl,
    h.refund hget hsame hpending hback hback' hother rfl (Or.inl rfl) hledger⟩
  rw [Payouts.refundFailed, hwallet]
  simp [hno, hledger]

lemma debitAgain {w : Withdrawal} {userId : ℕ} {currency : Currency} {ledger : Ledger}
    {wallet : Wallet} {delta : ℤ} (h : Books db back) (hw : w ∈ db.withdrawals.rows)
    (hpending : w.status ≠ .pending) (hback : back w = true) (hback' : back' w = false)
    (hother : ∀ x : Withdrawal, x.id ≠ w.id → back' x = back x)
    (hinsert : db.ledger.insert? (debitRow w userId currency
      (.withdrawalRetry w.id (retryAttempts db.ledger.rows w.id + 1))) = some ledger) :
    Books { db with wallets := db.wallets.addMinor wallet delta, ledger } back' := by
  have hacc := h.account w hw
  rw [hback] at hacc
  refine h.append hw (Table.rows_of_insert? hinsert).1
    (fun k hk => Wallets.isSome_get?_addMinor hk) ?_ ?_ hother ?_
  · rintro id ⟨r, hr, hid⟩
    simp only [refs, debitRow, List.mem_cons, List.not_mem_nil, or_false] at hr
    rcases hr with rfl | rfl
    · exact (Option.some.inj hid).symm
    · exact (Option.some.inj hid).symm
  · rw [hback']
    exact hacc.debitedAgain
  · exact fun hp => absurd hp hpending

lemma opened {db' : Db} {wallet : Wallet} {w : Withdrawal} {rowCurrency : Currency}
    {grossMinor : ℤ} {plan : List (Debt × ℤ)} {nonce : String} (h : Books db back)
    (hid : w.id = db.nextId) (hpos : 0 < w.amountMinor) (hback : back w = false)
    (hwallet : (db.driverWallet? w).isSome)
    (hopen : openWithdrawal db wallet w rowCurrency grossMinor plan nonce = some db') :
    Books db' back := by
  rw [openWithdrawal, Option.map_eq_some_iff] at hopen
  obtain ⟨ledger, hinsert, rfl⟩ := hopen
  have hl := Ledger.rows_of_insertAll hinsert
  have hfresh : ∀ t ∈ db.ledger.rows, ¬ Mentions w.id t := fun t ht hm =>
    absurd (h.fresh t ht w.id hm) (by omega)
  have hplan : ∀ t ∈ plan.map fun d => deductionRow w (db.userOf w)
      (db.wallets.derivedCurrency (db.userOf w)) d.1 d.2, ∀ id, ¬ Mentions id t := by
    rintro t ht id ⟨r, hr, hid⟩
    obtain ⟨d, -, rfl⟩ := List.mem_map.mp ht
    simp only [refs, deductionRow, List.mem_cons, List.not_mem_nil, or_false] at hr
    rcases hr with rfl | rfl <;> cases hid
  have hdebit : ∀ id, Mentions id (debitRow w (db.userOf w) rowCurrency
      (.withdrawalDebit w.id nonce)) → id = w.id := by
    rintro id ⟨r, hr, hrid⟩
    simp only [refs, debitRow, List.mem_cons, List.not_mem_nil, or_false] at hr
    rcases hr with rfl | rfl <;> exact (Option.some.inj hrid).symm
  rw [List.append_cons] at hl
  have hmem : ∀ x ∈ (db.withdrawals.put w).rows, x = w ∨ (x ∈ db.withdrawals.rows ∧ x.id ≠ w.id) :=
    fun x hx => Table.mem_put.mp hx
  constructor
  · intro x hx
    rcases hmem x hx with rfl | ⟨hx, -⟩
    · exact hid ▸ Nat.lt_succ_self _
    · exact (h.lt_nextId x hx).trans (Nat.lt_succ_self _)
  · intro t ht id hm
    rw [hl, List.mem_append, List.mem_append, List.mem_singleton] at ht
    rcases ht with (hold | rfl) | hded
    · exact (h.fresh t hold id hm).trans (Nat.lt_succ_self _)
    · rw [hdebit id hm, hid]
      exact Nat.lt_succ_self _
    · exact absurd hm (hplan t hded id)
  · intro x hx
    rcases hmem x hx with rfl | ⟨hx, -⟩
    · exact Wallets.isSome_get?_addMinor hwallet
    · exact Wallets.isSome_get?_addMinor (h.wallet x hx)
  · intro x hx
    rw [hl]
    refine Account.append ?_ fun t ht => hplan t ht _
    rcases hmem x hx with rfl | ⟨hx, hne⟩
    · rw [hback]
      exact Account.opened hpos hfresh
    · refine (h.account x hx).append fun t ht hm => ?_
      rw [List.mem_singleton.mp ht] at hm
      exact hne (hdebit _ hm)
  · intro x hx hpending t ht hr
    have hm : Mentions x.id t := ⟨_, hr, rfl⟩
    rw [hl, List.mem_append, List.mem_append, List.mem_singleton] at ht
    rcases ht with (hold | rfl) | hded
    · rcases hmem x hx with rfl | ⟨hx, -⟩
      · exact hfresh t hold hm
      · exact h.unrejected x hx hpending t hold hr
    · simp [refs, debitRow] at hr
    · exact hplan t hded _ hm

end Books

section Returned

variable {db : Db} {w row : Withdrawal} {fields : List Field}

/-- A row whose amount is out is saved in a returned status: its refund is what is missing
from the books. -/
lemma books_save_returned (h : InOrder db) (hget : db.withdrawals.get? w.id = some row)
    (hout : returned row.status = false) (hstatus : .status ∈ fields)
    (hreturned : returned w.status = true) :
    Books (db.save w fields) fun x => decide (x.id ≠ w.id) && returned x.status := by
  have hnew : (row.update w fields).status = w.status := by
    rw [Withdrawal.status_update, if_pos hstatus]
  have hid : (row.update w fields).id = w.id :=
    (Withdrawal.sameRequest_update row w fields).id.trans (Table.pk_of_get? hget)
  refine Books.save h hget ?_ ?_ fun x hx => by simp [hx]
  · simp [hid, hout]
  · intro hp
    rw [hnew] at hp
    rw [hp] at hreturned
    cases hreturned

/-- The refund that is missing from the books goes through and puts them in order. -/
lemma inOrder_refundFailed (h : Books db fun x => decide (x.id ≠ w.id) && returned x.status)
    (hget : db.withdrawals.get? w.id = some row) (hsame : row.SameRequest w)
    (hreturned : returned row.status = true) :
    ∃ db', refundFailed db w (failedRefundReference db.ledger.rows w.id) = (.done, db') ∧
      InOrder db' := by
  have hpending : row.status ≠ .pending := by
    intro hp
    rw [hp] at hreturned
    cases hreturned
  have hother : ∀ x : Withdrawal, x.id ≠ w.id →
      returned x.status = (decide (x.id ≠ w.id) && returned x.status) := by
    intro x hx
    simp [hx]
  obtain ⟨db', hrefund, -, hbooks⟩ :=
    h.refundFailed hget hsame hpending (by simp [hsame.id]) hreturned hother
  exact ⟨db', hrefund, hbooks⟩

lemma inOrder_refund_save {userId : ℕ} {currency : Currency} {purpose : Purpose} {ref : Ref}
    {ledger : Ledger} {wallet : Wallet} {delta : ℤ} (h : InOrder db)
    (hget : db.withdrawals.get? w.id = some row) (hsame : row.SameRequest w)
    (hout : returned row.status = false) (hstatus : .status ∈ fields)
    (hreturned : returned w.status = true) (hpurpose : isRefundPurpose purpose)
    (href : Account.RefundRef db.ledger.rows w.id ref)
    (hinsert : db.ledger.insert? (refundRow w userId currency purpose ref) = some ledger) :
    InOrder ({ db with wallets := db.wallets.addMinor wallet delta, ledger }.save w fields) := by
  have hnew : (row.update w fields).status = w.status := by
    rw [Withdrawal.status_update, if_pos hstatus]
  have hupdate := Withdrawal.sameRequest_update row w fields
  rw [Db.save_withMoney, ← Db.wallets_save db w fields]
  have hinsert' : (db.save w fields).ledger.insert? (refundRow w userId currency purpose ref)
      = some ledger := by rwa [Db.ledger_save]
  refine (books_save_returned h hget hout hstatus hreturned).refund (Db.get?_save_self hget)
    (hupdate.symm.trans hsame) ?_ ?_ ?_ ?_ hpurpose ?_ hinsert'
  · rw [hnew]
    intro hp
    rw [hp] at hreturned
    cases hreturned
  · simp [hupdate.id, hsame.id]
  · rw [hnew, hreturned]
  · intro x hx
    simp [hx]
  · rwa [Db.ledger_save]

end Returned

end SaaradhiGo.Payouts
