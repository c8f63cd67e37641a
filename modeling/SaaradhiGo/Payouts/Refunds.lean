/-
Every withdrawal is refunded at most once for each debit, over whole runs.

Each action on the payout system keeps the books in order, with two exceptions.  A webhook
that reports a rejected withdrawal failed or reversed refunds it under
`refund_withdrawal_<id>`, although the rejection has refunded it under
`refund_rejected_withdrawal_<id>`; and a dispatch can end with its refund owed.
-/
import SaaradhiGo.Payouts.DispatchRefund

namespace SaaradhiGo.Payouts

open SaaradhiGo.Money Interleave

/-! ## Opening and deciding -/

lemma openWithdrawal_of_requestWithdrawal {db db' : Db} {i : RequestInput}
    (h : requestWithdrawal db i = .ok db') :
    ∃ wallet : Wallet, wallet.key = ((db.drivers i.driver).userId, .driver) ∧
      ∃ w currency gross plan, w.id = db.nextId ∧ w.driver = i.driver ∧ w.status = .pending ∧
        0 < w.amountMinor ∧
        openWithdrawal { db with wallets := db.wallets.put wallet } wallet w currency gross plan
          i.nonce = some db' := by
  simp only [requestWithdrawal] at h
  split at h
  · cases h
  split at h
  · cases h
  split at h
  · cases h
  split at h
  · cases h
  split at h
  · cases h
  split at h
  · cases h
  split at h
  · cases h
  split at h
  · cases h
  rename_i config _ _ _ _ _ gross _ _ _ hfee
  split at h
  · cases h
  rename_i db₁ hopen
  cases h
  refine ⟨_, Wallets.key_getWallet _ _ _, _, _, _, _, ?_, ?_, ?_, ?_, hopen⟩
  · rfl
  · rfl
  · rfl
  · have hgross : 0 < gross := by omega
    have hplan := planTotal_planDeduction_le i.debts config.minimumWithdrawalMinor
      config.recoveryMaxPercent hgross
    have hnonneg := withdrawalFee_nonneg config (sub_nonneg.mpr hplan)
    exact lt_of_le_of_lt hnonneg (lt_of_not_ge hfee)

lemma inOrder_requestWithdrawal {db db' : Db} {i : RequestInput} (h : InOrder db)
    (hreq : requestWithdrawal db i = .ok db') : InOrder db' := by
  obtain ⟨wallet, hkey, w, currency, gross, plan, hid, hdriver, hstatus, hpos, hopen⟩ :=
    openWithdrawal_of_requestWithdrawal hreq
  have hput : ∀ k, (db.wallets.get? k).isSome → ((db.wallets.put wallet).get? k).isSome := by
    intro k hk
    rw [Table.get?_put]
    split
    · rfl
    · exact hk
  refine (Books.withWallets h hput).opened hid hpos (by rw [hstatus]; rfl) ?_ hopen
  rw [Db.driverWallet?, Db.userOf, hdriver, ← hkey]
  simp [Table.get?_put_self]

/-- The weekly run opens a withdrawal of a positive amount for a driver with a wallet. -/
lemma openWithdrawal_of_createScheduled {db db' : Db} {i : ScheduleInput}
    (h : createScheduled db i = some db') :
    (db.wallets.get? ((db.drivers i.driver).userId, .driver)).isSome ∧
      ∃ wallet w currency gross plan, w.id = db.nextId ∧ w.driver = i.driver ∧
        w.status = .pending ∧ 0 < w.amountMinor ∧
        openWithdrawal db wallet w currency gross plan i.nonce = some db' := by
  simp only [createScheduled] at h
  split at h
  · cases h
  rename_i wallet hwallet
  refine ⟨by rw [hwallet]; rfl, ?_⟩
  split at h
  · cases h
  split at h
  · cases h
  split at h
  · cases h
  split at h
  · cases h
  split at h
  · cases h
  rename_i hgross
  split at h
  · cases h
  rename_i hfee
  refine ⟨_, _, _, _, _, ?_, ?_, ?_, ?_, h⟩
  · rfl
  · rfl
  · rfl
  · have hpositive : 0 < wallet.balanceMinor - i.heldMinor := by omega
    have hplan := planTotal_planDeduction_le i.debts (max 1 i.config.minimumWithdrawalMinor)
      i.config.recoveryMaxPercent hpositive
    have hnonneg := withdrawalFee_nonneg i.config (sub_nonneg.mpr hplan)
    exact lt_of_le_of_lt hnonneg (lt_of_not_ge hfee)

lemma inOrder_createScheduled {db db' : Db} {i : ScheduleInput} (h : InOrder db)
    (hcreate : createScheduled db i = some db') : InOrder db' := by
  obtain ⟨hwallet, wallet, w, currency, gross, plan, hid, hdriver, hstatus, hpos, hopen⟩ :=
    openWithdrawal_of_createScheduled hcreate
  refine Books.opened h hid hpos (by rw [hstatus]; rfl) ?_ hopen
  rw [Db.driverWallet?, Db.userOf, hdriver]
  exact hwallet

/-- The approval moves no money, and hands the dispatcher the row as it is. -/
lemma inOrder_approveOne {db db' : Db} {id now : ℕ} {hasHandle : Bool} {w : Withdrawal}
    (h : InOrder db) (happrove : approveOne db id hasHandle now = some (w, db')) :
    InOrder db' ∧ db'.withdrawals.get? w.id = some w := by
  rw [approveOne] at happrove
  split at happrove
  · cases happrove
  rename_i row hget
  split at happrove
  · cases happrove
  rename_i hpending
  split at happrove
  · cases happrove
  split at happrove
  · cases happrove
  cases happrove
  have hid : row.id = id := Table.pk_of_get? hget
  subst hid
  have hsave : InOrder (db.save { row with status := .approved, processedAt := some now }
      [.status, .processedAt]) := by
    refine Books.save h hget ?_ (fun hp => by cases hp) fun _ _ => rfl
    rw [not_not.mp hpending]
    rfl
  exact ⟨⟨hsave.lt_nextId, hsave.fresh, hsave.wallet, hsave.account, hsave.unrejected⟩,
    Db.get?_save_self hget⟩

/-- A rejection returns the amount. -/
lemma inOrder_rejectOne {db db' : Db} {id now : ℕ} {reason : String} (h : InOrder db)
    (hreject : rejectOne db id reason now = .ok db') : InOrder db' := by
  rw [rejectOne] at hreject
  split at hreject
  · cases hreject
  rename_i w hget
  split at hreject
  · cases hreject
  rename_i hpending
  have hpending' : w.status = .pending := not_not.mp hpending
  split at hreject
  · cases hreject
  have hid : w.id = id := Table.pk_of_get? hget
  subst hid
  have hrow : w ∈ db.withdrawals.rows := (Table.mem_of_get? hget).1
  have hunused := h.unrejected w hrow hpending'
  have hno : hasRefund db.ledger.rows (.refundRejectedWithdrawal w.id)
      .refundRejectedWithdrawal = false := by
    rw [hasRefund, List.any_eq_false]
    intro t ht hmatch
    simp only [Bool.and_eq_true, decide_eq_true_eq] at hmatch
    exact hunused t ht (by simp [refs, hmatch.1.1.1])
  simp only [hno, Bool.false_eq_true, if_false] at hreject
  split at hreject
  · cases hreject
  rename_i ledger hinsert
  cases hreject
  exact inOrder_refund_save h hget ⟨rfl, rfl, rfl, rfl⟩ (by rw [hpending']; rfl)
    (by decide) rfl rfl (Or.inr (Or.inl rfl)) hinsert

/-- A retry takes the amount out again and hands the dispatcher the row as it is. -/
lemma inOrder_retryDebit {db db' : Db} {id : ℕ} {w : Withdrawal} (h : InOrder db)
    (hretry : retryDebit db id = .ok (w, db')) :
    InOrder db' ∧ db'.withdrawals.get? w.id = some w := by
  rw [retryDebit] at hretry
  split at hretry
  · cases hretry
  rename_i row hget
  split at hretry
  · cases hretry
  rename_i hfailed
  have hfailed' : row.status = .failed := not_not.mp hfailed
  split at hretry
  · cases hretry
  split at hretry
  · cases hretry
  split at hretry
  · cases hretry
  rename_i wallet _
  split at hretry
  · cases hretry
  simp only at hretry
  split at hretry
  · cases hretry
  rename_i ledger hinsert
  cases hretry
  have hid : row.id = id := Table.pk_of_get? hget
  subst hid
  have hrow : row ∈ db.withdrawals.rows := (Table.mem_of_get? hget).1
  have hdebit : Books { db with
      wallets := db.wallets.addMinor wallet (-row.amountMinor), ledger }
      fun x => decide (x.id ≠ row.id) && returned x.status :=
    Books.debitAgain h hrow (by rw [hfailed']; decide) (by rw [hfailed']; rfl) (by simp)
      (fun x hx => by simp [hx]) hinsert
  exact ⟨Books.save hdebit hget (by simp; rfl) (fun hp => by cases hp)
    fun x hx => by simp [show x.id ≠ row.id from hx], Db.get?_save_self hget⟩

/-! ## Webhooks -/

/-- A save that keeps on which side the amount is keeps the books. -/
lemma inOrder_save {db : Db} {w row : Withdrawal} {fields : List Field} (h : InOrder db)
    (hget : db.withdrawals.get? w.id = some row)
    (hside : returned (row.update w fields).status = returned row.status)
    (hpending : (row.update w fields).status = .pending → row.status = .pending) :
    InOrder (db.save w fields) :=
  Books.save h hget hside hpending fun _ _ => rfl

lemma inOrder_failAtProvider {db : Db} {w : Withdrawal} {payoutStatus reason : String}
    (h : InOrder db) (hget : db.withdrawals.get? w.id = some w)
    (hout : returned w.status = false) :
    InOrder (failAtProvider db w payoutStatus reason).2 := by
  rw [failAtProvider]
  generalize hw' : ({ w with
    status := .failed
    payoutStatus := some payoutStatus
    failureReason := some reason
    failureCount := w.failureCount + 1 } : Withdrawal) = w'
  have hsame : w.SameRequest w' := by
    subst hw'
    exact ⟨rfl, rfl, rfl, rfl⟩
  have hfailed : w'.status = .failed := by rw [← hw']
  have hget' : db.withdrawals.get? w'.id = some w := by rwa [hsame.id]
  have hupdate := Withdrawal.sameRequest_update w w' providerFailureFields
  have hstatus : (w.update w' providerFailureFields).status = .failed := by
    rw [Withdrawal.status_update, if_pos (by decide), hfailed]
  have hsaved : Books (db.save w' providerFailureFields)
      fun x => decide (x.id ≠ w'.id) && returned x.status :=
    books_save_returned h hget' hout (by decide) (by rw [hfailed]; rfl)
  obtain ⟨db', hrefund, hbooks⟩ := inOrder_refundFailed hsaved (Db.get?_save_self hget')
    (hupdate.symm.trans hsame) (by rw [hstatus]; rfl)
  rw [Db.ledger_save, hsame.id] at hrefund
  rw [hrefund]
  exact hbooks

lemma inOrder_reversePaidPayout {db : Db} {w : Withdrawal} {status : Option String}
    (h : InOrder db) (hget : db.withdrawals.get? w.id = some w) (hout : returned w.status = false) :
    InOrder (reversePaidPayout db w status) := by
  simp only [reversePaidPayout]
  split
  · exact h
  · rename_i ledger hinsert
    exact inOrder_refund_save h hget ⟨rfl, rfl, rfl, rfl⟩ hout (by decide) rfl rfl
      (Or.inr (Or.inr rfl)) hinsert

def RefundsRejected (event : PayoutEvent) (w : Withdrawal) : Prop :=
  w.status = .rejected ∧ (event = .failed ∨ event = .reversed)

instance (event : PayoutEvent) (w : Withdrawal) : Decidable (RefundsRejected event w) :=
  inferInstanceAs (Decidable (_ ∧ _))

lemma inOrder_applyEvent {db : Db} {w : Withdrawal} {p : Payload} {now : ℕ} (h : InOrder db)
    (hget : db.withdrawals.get? w.id = some w)
    (hrejected : ¬ RefundsRejected (PayoutEvent.ofText p.event) w) :
    InOrder (applyEvent db w p now).2 := by
  -- a webhook that fails a payout finds the amount out
  have hfail : ∀ {payoutStatus reason answer db'}, returned w.status = false →
      failAtProvider db w payoutStatus reason = (answer, db') → InOrder db' := by
    intro payoutStatus reason answer db' hout heq
    have hdb : InOrder (failAtProvider db w payoutStatus reason).2 :=
      inOrder_failAtProvider h hget hout
    rwa [heq] at hdb
  rw [applyEvent]
  cases hevent : PayoutEvent.ofText p.event with
  | success =>
      dsimp only
      split
      · exact h
      rename_i hfinal
      split
      · rename_i hrefunded
        refine inOrder_save h hget ?_ (fun hp => by cases hp)
        rcases List.mem_cons.mp hrefunded with hs | hs
        · rw [hs]
          rfl
        · rw [List.mem_singleton.mp hs]
          rfl
      rename_i hrefunded
      have hout : returned w.status = false := by
        cases hs : w.status <;> simp_all [refundedStatuses, returned]
      refine Books.withDrivers (inOrder_save h hget ?_ (fun hp => by cases hp)) ?_
      · rw [hout]
        rfl
      · intro d
        by_cases hd : d = w.driver
        · subst hd
          simp
        · simp [hd]
  | failed =>
      dsimp only
      split
      · exact h
      rename_i hignored
      have hout : returned w.status = false := by
        cases hs : w.status <;> simp_all [RefundsRejected, returned]
      split <;> rename_i heq <;> exact hfail hout heq
  | pending =>
      dsimp only
      split
      · exact h
      · exact inOrder_save h hget rfl id
  | reversed =>
      dsimp only
      split
      · rename_i hcompleted
        exact inOrder_reversePaidPayout h hget (by rw [hcompleted]; rfl)
      rename_i hcompleted
      split
      · rename_i hconflict
        exact inOrder_save h hget (by rw [hconflict]; rfl) (fun hp => by cases hp)
      rename_i hconflict
      split
      · exact h
      rename_i hignored
      have hout : returned w.status = false := by
        cases hs : w.status <;> simp_all [RefundsRejected, returned]
      split <;> rename_i heq <;> exact hfail hout heq
  | other => exact h

/-! ## Runs -/

/-- The actions that keep the books: a webhook does not refund a rejected withdrawal, and a
dispatch does not end with its refund owed. -/
def Settles (s : World) : Act → Prop
  | .approve id hasHandle env es =>
      ∀ x ∈ approveOne s.db id hasHandle env.now,
        owes (triggerPayoutCreation env x.1) es { s with db := x.2 } = false
  | .dispatch id env es =>
      ∀ w ∈ s.db.withdrawals.get? id, owes (triggerPayoutCreation env w) es s = false
  | .retryFailed id env es =>
      ∀ x ∈ (retryDebit s.db id).toOption,
        owes (triggerPayoutCreation env x.1) es { s with db := x.2 } = false
  | .webhook p _ =>
      ∀ w ∈ findWithdrawal s.db p, ¬ RefundsRejected (PayoutEvent.ofText p.event) w
  | _ => True

instance (s : World) : ∀ a, Decidable (Settles s a)
  | .approve id hasHandle env es =>
      inferInstanceAs (Decidable (∀ x ∈ approveOne s.db id hasHandle env.now,
        owes (triggerPayoutCreation env x.1) es { s with db := x.2 } = false))
  | .dispatch id env es =>
      inferInstanceAs (Decidable (∀ w ∈ s.db.withdrawals.get? id,
        owes (triggerPayoutCreation env w) es s = false))
  | .retryFailed id env es =>
      inferInstanceAs (Decidable (∀ x ∈ (retryDebit s.db id).toOption,
        owes (triggerPayoutCreation env x.1) es { s with db := x.2 } = false))
  | .webhook p _ =>
      inferInstanceAs (Decidable (∀ w ∈ findWithdrawal s.db p,
        ¬ RefundsRejected (PayoutEvent.ofText p.event) w))
  | .request _ | .schedule _ | .reject _ _ _ | .otherMoney _ _ => isTrue trivial

/-- Each action that settles keeps the books in order. -/
theorem inOrder_step {s : World} {a : Act} (hset : Settles s a) (h : InOrder s.db) :
    InOrder (step s a).db := by
  cases a with
  | request i =>
      simp only [step]
      split
      · exact inOrder_requestWithdrawal h ‹_›
      · exact h
  | schedule i =>
      simp only [step]
      split
      · exact inOrder_createScheduled h ‹_›
      · exact h
  | approve id hasHandle env es =>
      simp only [step]
      split
      · rename_i w db happrove
        obtain ⟨horder, hget⟩ := inOrder_approveOne h happrove
        exact inOrder_dispatch (s := { s with db }) horder hget (hset (w, db) happrove)
      · exact h
  | reject id reason now =>
      simp only [step]
      split
      · exact inOrder_rejectOne h ‹_›
      · exact h
  | dispatch id env es =>
      simp only [step]
      split
      · rename_i w hget
        have hid : w.id = id := Table.pk_of_get? hget
        exact inOrder_dispatch h (by rwa [hid]) (hset w hget)
      · exact h
  | retryFailed id env es =>
      simp only [step]
      split
      · rename_i w db hretry
        obtain ⟨horder, hget⟩ := inOrder_retryDebit h hretry
        exact inOrder_dispatch (s := { s with db }) horder hget
          (hset (w, db) (by rw [hretry]; rfl))
      · exact h
  | webhook p now =>
      simp only [step, handlePayoutWebhook]
      split
      · exact h
      split
      · exact h
      · rename_i w hfind
        exact inOrder_applyEvent h (get?_of_findWithdrawal hfind) (hset w hfind)
  | otherMoney w delta =>
      simp only [step]
      split
      · exact Books.withWallets h fun k hk => Wallets.isSome_get?_addMinor hk
      · exact h

lemma inOrder_of_no_withdrawals {db : Db} (hw : db.withdrawals.rows = [])
    (hl : ∀ t ∈ db.ledger.rows, ∀ id, ¬ Mentions id t) : InOrder db where
  lt_nextId w h := by rw [hw] at h; cases h
  fresh t ht id hm := absurd hm (hl t ht id)
  wallet w h := by rw [hw] at h; cases h
  account w h := by rw [hw] at h; cases h
  unrejected w h := by rw [hw] at h; cases h

/-- No more has been refunded for the withdrawal than was debited, and when it rests in a
failed, rejected or reversed state one refund has been written since the latest debit. -/
def RefundedOnce (l : List WalletTransaction) (w : Withdrawal) : Prop :=
  refundedMinor l w.id ≤ debitedMinor l w.id ∧
    (w.status = .failed ∨ w.status = .rejected ∨ w.status = .reversed →
      refundsSinceDebit l w.id = 1)

instance (l : List WalletTransaction) (w : Withdrawal) : Decidable (RefundedOnce l w) :=
  inferInstanceAs (Decidable (_ ∧ (_ → _)))

lemma refundedOnce_of_inOrder {db : Db} (h : InOrder db) :
    ∀ w ∈ db.withdrawals.rows, RefundedOnce db.ledger.rows w := by
  intro w hw
  have hacc := h.account w hw
  refine ⟨hacc.refunded_le, fun hrests => ?_⟩
  rw [hacc.since, if_pos]
  rcases hrests with hs | hs | hs <;> rw [hs] <;> rfl

/-- Along every run whose actions settle, every withdrawal is refunded at most as often as
it is debited, and exactly once while it is failed, rejected or reversed. -/
theorem refundedOnce_of_settling_run {db : Db} {accepted : List ℕ} {as : List Act}
    (hw : db.withdrawals.rows = []) (hl : ∀ t ∈ db.ledger.rows, ∀ id, ¬ Mentions id t)
    (hset : Transition.Guarded step Settles ⟨db, accepted⟩ as) :
    ∀ w ∈ (Transition.run step ⟨db, accepted⟩ as).db.withdrawals.rows,
      RefundedOnce (Transition.run step ⟨db, accepted⟩ as).db.ledger.rows w :=
  refundedOnce_of_inOrder <|
    Transition.invariant_of_guarded (I := fun s => InOrder s.db) (fun _ _ => inOrder_step)
      (inOrder_of_no_withdrawals hw hl) hset

/-! ### Runs of one withdrawal -/

/-- A rejected withdrawal that is then reported failed is refunded twice. -/
theorem rejected_then_failed_not_refundedOnce :
    ∃ w ∈ (Transition.run step ⟨oneDriver, []⟩
        [.request askHundred, .reject 1 "unclear" 2000,
          .webhook transferFailed 3000]).db.withdrawals.rows,
      ¬ RefundedOnce (Transition.run step ⟨oneDriver, []⟩
        [.request askHundred, .reject 1 "unclear" 2000,
          .webhook transferFailed 3000]).db.ledger.rows w := by
  decide

/-- A payout that is accepted, failed by the provider, retried and failed again is
refunded once for each debit. -/
theorem retried_refundedOnce :
    ∃ w ∈ (Transition.run step ⟨oneDriver, []⟩
        [.request askHundred, .approve 1 false upiEnv [providerAccepts, providerAccepts],
          .webhook transferFailed 3000, .webhook transferFailed 3001,
          .retryFailed 1 upiEnv [providerAccepts]]).db.withdrawals.rows,
      RefundedOnce (Transition.run step ⟨oneDriver, []⟩
        [.request askHundred, .approve 1 false upiEnv [providerAccepts, providerAccepts],
          .webhook transferFailed 3000, .webhook transferFailed 3001,
          .retryFailed 1 upiEnv [providerAccepts]]).db.ledger.rows w := by
  obtain ⟨w, hw⟩ := List.exists_mem_of_ne_nil
    (Transition.run step ⟨oneDriver, []⟩
        [.request askHundred, .approve 1 false upiEnv [providerAccepts, providerAccepts],
          .webhook transferFailed 3000, .webhook transferFailed 3001,
          .retryFailed 1 upiEnv [providerAccepts]]).db.withdrawals.rows (by decide)
  exact ⟨w, hw, refundedOnce_of_settling_run rfl (fun _ ht => absurd ht List.not_mem_nil)
    (by decide) w hw⟩

end SaaradhiGo.Payouts
