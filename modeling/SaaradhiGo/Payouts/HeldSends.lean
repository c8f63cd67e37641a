/-
No payout to a driver whose money is kept back.

What a sender may still send is what it has claimed.  When every claim finds the driver clear, and
no conflict and no hold comes between the claim and the sending, every payout in every interleaving
goes to a driver who is clear.  The approval executor looks for a conflict when it claims; the retry
and the release of waiting payouts look for nothing, and nobody looks for a hold.
-/
import SaaradhiGo.Payouts.Held
import SaaradhiGo.Payouts.Refunds

namespace SaaradhiGo.Payouts.Held

open SaaradhiGo.Money SaaradhiGo.WeeklyPayout Interleave

/-! ## Conflicts -/

section Conflict

variable {db db' : Db} {w : Withdrawal} {d : ℕ}

lemma hasOpenConflict_eq_false : db.hasOpenConflict d = false ↔
    ∀ x ∈ db.withdrawals.rows, x.driver = d → x.status ≠ .conflict := by
  simp [Db.hasOpenConflict]

lemma hasOpenConflict_congr (h : db'.withdrawals = db.withdrawals)
    (hc : db.hasOpenConflict d = false) : db'.hasOpenConflict d = false := by
  rw [Db.hasOpenConflict, h]
  exact hc

/-- A save that writes no conflict raises none. -/
lemma hasOpenConflict_save {fields : List Field} (hw : .status ∈ fields → w.status ≠ .conflict)
    (hc : db.hasOpenConflict d = false) : (db.save w fields).hasOpenConflict d = false := by
  rw [hasOpenConflict_eq_false] at hc ⊢
  intro x hx hd
  obtain ⟨row, hrow, rfl⟩ | ⟨hx, -⟩ := Db.mem_save hx
  · rw [(Withdrawal.sameRequest_update row w fields).driver] at hd
    rw [Withdrawal.status_update]
    by_cases hf : Field.status ∈ fields
    · simpa [hf] using hw hf
    · simpa [hf] using hc row (Table.mem_of_get? hrow).1 hd
  · exact hc x hx hd

lemma hasOpenConflict_open {wallet : Wallet} {currency : Currency} {gross : ℤ}
    {plan : List (Debt × ℤ)} {nonce : String} (hw : w.status ≠ .conflict)
    (hopen : openWithdrawal db wallet w currency gross plan nonce = some db')
    (hc : db.hasOpenConflict d = false) : db'.hasOpenConflict d = false := by
  rw [openWithdrawal, Option.map_eq_some_iff] at hopen
  obtain ⟨ledger, -, rfl⟩ := hopen
  rw [hasOpenConflict_eq_false] at hc ⊢
  intro x hx hd
  obtain rfl | ⟨hx, -⟩ := Table.mem_put.mp hx
  · exact hw
  · exact hc x hx hd

end Conflict

/-! ## What keeps a driver clear -/

section Clear

variable {s : Desk} {d : ℕ}

lemma clear_withDb {db : Db} (h : Clear s d)
    (hdb : s.world.db.hasOpenConflict d = false → db.hasOpenConflict d = false) :
    Clear (s.withDb db) d :=
  ⟨hdb h.1, h.2⟩

/-- No save of the operation writes a conflict. -/
def Quiet : DeskOp → Prop
  | .dispatch (.save w _) => w.status ≠ .conflict
  | _ => True

lemma hasOpenConflict_approveOne {db db' : Db} {id now : ℕ} {hasHandle : Bool} {w : Withdrawal}
    (h : approveOne db id hasHandle now = some (w, db')) :
    (∃ row, db.withdrawals.get? id = some row ∧ row.driver = w.driver) ∧
      db.hasOpenConflict w.driver = false ∧
      (db.hasOpenConflict d = false → db'.hasOpenConflict d = false) := by
  unfold approveOne at h
  split at h
  · cases h
  · next row hrow =>
      split at h
      · cases h
      · split at h
        · cases h
        · split at h
          · cases h
          · next hconflict =>
              obtain ⟨rfl, rfl⟩ := Prod.mk.inj (Option.some.inj h)
              refine ⟨⟨row, hrow, rfl⟩, by simpa using hconflict, fun hc => ?_⟩
              refine hasOpenConflict_congr rfl (hasOpenConflict_save ?_ hc)
              exact fun _ hs => by cases hs

lemma hasOpenConflict_retryDebit {db db' : Db} {id : ℕ} {w : Withdrawal}
    (h : retryDebit db id = .ok (w, db')) :
    (∃ row, db.withdrawals.get? id = some row ∧ row.driver = w.driver) ∧
      (db.hasOpenConflict d = false → db'.hasOpenConflict d = false) := by
  unfold retryDebit at h
  split at h
  · cases h
  · next row hrow =>
      split at h
      · cases h
      · split at h
        · cases h
        · split at h
          · cases h
          · split at h
            · cases h
            · next wallet _ =>
                split at h
                · cases h
                · dsimp only at h
                  split at h
                  · cases h
                  · next ledger _ =>
                      obtain ⟨rfl, rfl⟩ := Prod.mk.inj (Except.ok.inj h)
                      refine ⟨⟨row, hrow, rfl⟩, fun hc => ?_⟩
                      refine hasOpenConflict_save (fun _ hs => by cases hs) ?_
                      exact hasOpenConflict_congr rfl hc

lemma hasOpenConflict_rejectOne {db db' : Db} {id now : ℕ} {reason : String}
    (h : rejectOne db id reason now = .ok db') (hc : db.hasOpenConflict d = false) :
    db'.hasOpenConflict d = false := by
  simp only [rejectOne] at h
  split at h
  · cases h
  split at h
  · cases h
  split at h
  · cases h
  split at h
  · cases h
    exact hasOpenConflict_save (fun _ hs => by cases hs) hc
  split at h
  · cases h
  · cases h
    exact hasOpenConflict_save (fun _ hs => by cases hs) (hasOpenConflict_congr rfl hc)

lemma hasOpenConflict_failAtProvider {db : Db} (w : Withdrawal) (payoutStatus reason : String)
    (hc : db.hasOpenConflict d = false) :
    (failAtProvider db w payoutStatus reason).2.hasOpenConflict d = false := by
  rw [failAtProvider]
  generalize hw' : ({ w with
    status := .failed
    payoutStatus := some payoutStatus
    failureReason := some reason
    failureCount := w.failureCount + 1 } : Withdrawal) = w'
  have hstatus : w'.status ≠ .conflict := by
    rw [← hw']
    exact fun hs => by cases hs
  have hrefund := withdrawals_refundFailed (db.save w' providerFailureFields) w'
    (failedRefundReference db.ledger.rows w.id)
  revert hrefund
  rcases refundFailed (db.save w' providerFailureFields) w'
    (failedRefundReference db.ledger.rows w.id) with ⟨answer, db'⟩
  intro hrefund
  have hdb' := hasOpenConflict_congr hrefund (hasOpenConflict_save (fun _ => hstatus) hc)
  cases answer with
  | raised m => exact hc
  | done => exact hdb'
  | already => exact hdb'

/-- A webhook raises a conflict for the driver whose refunded payout it reports as paid. -/
lemma hasOpenConflict_webhook {p : Payload} {now : ℕ} (hx : ¬ Stops (.webhook p now) s d)
    (hc : s.world.db.hasOpenConflict d = false) :
    (handlePayoutWebhook s.world.db p now).2.hasOpenConflict d = false := by
  rw [handlePayoutWebhook]
  split
  · exact hc
  split
  · exact hc
  next w hfind =>
  have hget := get?_of_findWithdrawal hfind
  have hfail : ∀ {payoutStatus reason : String} {answer : DbAnswer} {db' : Db},
      failAtProvider s.world.db w payoutStatus reason = (answer, db') →
      db'.hasOpenConflict d = false := by
    intro payoutStatus reason answer db' h
    have hdb := hasOpenConflict_failAtProvider w payoutStatus reason hc
    rwa [h] at hdb
  rw [applyEvent]
  cases hevent : PayoutEvent.ofText p.event with
  | success =>
      dsimp only
      split
      · exact hc
      split
      · next hrefunded =>
          rw [hasOpenConflict_eq_false] at hc ⊢
          intro x hx' hd
          obtain ⟨row, hrow, rfl⟩ | ⟨hx', -⟩ := Db.mem_save hx'
          · rw [hget, Option.some.injEq] at hrow
            subst hrow
            rw [(Withdrawal.sameRequest_update _ _ _).driver] at hd
            exact absurd ⟨hevent, w, hfind, hrefunded, hd⟩ hx
          · exact hc x hx' hd
      · exact hasOpenConflict_congr rfl (hasOpenConflict_save (fun _ hs => by cases hs) hc)
  | failed =>
      dsimp only
      split
      · exact hc
      · split
        · next h => exact hfail h
        · next h => exact hfail h
  | pending =>
      dsimp only
      split
      · exact hc
      · exact hasOpenConflict_save (fun hf => absurd hf (by decide)) hc
  | reversed =>
      dsimp only
      split
      · simp only [reversePaidPayout]
        split
        · exact hc
        · exact hasOpenConflict_save (fun _ hs => by cases hs) (hasOpenConflict_congr rfl hc)
      split
      · exact hasOpenConflict_save (fun _ hs => by cases hs) hc
      split
      · exact hc
      · split
        · next h => exact hfail h
        · next h => exact hfail h
  | other => exact hc

/-- No operation of a sender keeps a driver's money back. -/
lemma clear_deskExec {o : DeskOp} (e : Choice) (hq : Quiet o) (h : Clear s d) :
    Clear (deskExec o e s).2 d := by
  cases o with
  | approveOne id hasHandle now =>
      rcases happ : approveOne s.world.db id hasHandle now with _ | ⟨w, db⟩
      · simpa [deskExec, happ] using h
      · have hclear := clear_withDb h (hasOpenConflict_approveOne happ).2.2
        simpa [deskExec, happ] using hclear
  | retryDebit id =>
      rcases hretry : retryDebit s.world.db id with code | ⟨w, db⟩
      · simpa [deskExec, hretry] using h
      · have hclear := clear_withDb h (hasOpenConflict_retryDebit hretry).2
        simpa [deskExec, hretry] using hclear
  | awaitingRail => exact h
  | createScheduled i =>
      rcases hsched : createScheduled s.world.db { i with payoutHold := s.onHold i.driver }
        with _ | db
      · simpa [deskExec, hsched] using h
      · obtain ⟨-, wallet, w, currency, gross, plan, -, -, hstatus, -, hopen⟩ :=
          openWithdrawal_of_createScheduled hsched
        have hpending : w.status ≠ .conflict := by
          rw [hstatus]
          decide
        have hclear := clear_withDb h (hasOpenConflict_open hpending hopen)
        simpa [deskExec, hsched] using hclear
  | dispatch o =>
      refine ⟨?_, h.2⟩
      cases o with
      | save w fields =>
          rcases hraise : e.dbRaises with _ | m
          · simpa [deskExec, exec, hraise] using hasOpenConflict_save (fun _ => hq) h.1
          · simpa [deskExec, exec, hraise] using h.1
      | createUpiPayout w => exact h.1
      | saveContact => exact h.1
      | failedRefundReference w => exact h.1
      | refund w ref =>
          rcases hraise : e.dbRaises with _ | m
          · simpa [deskExec, exec, hraise] using
              hasOpenConflict_congr (withdrawals_refundFailed s.world.db w ref) h.1
          · simpa [deskExec, exec, hraise] using h.1

/-- Nor do the surroundings, unless they stop the driver. -/
lemma clear_outside {x : Outside} (hx : ¬ Stops x s d) (h : Clear s d) :
    Clear (outside x s) d := by
  cases x with
  | webhook p now => exact clear_withDb h (hasOpenConflict_webhook hx)
  | request i =>
      rcases hreq : requestWithdrawal s.world.db { i with payoutHold := s.onHold i.driver }
        with code | db
      · simpa [outside, hreq] using h
      · obtain ⟨wallet, -, w, currency, gross, plan, -, -, hstatus, -, hopen⟩ :=
          openWithdrawal_of_requestWithdrawal hreq
        have hpending : w.status ≠ .conflict := by
          rw [hstatus]
          decide
        have hclear := clear_withDb h fun hc => hasOpenConflict_open hpending hopen
          (hasOpenConflict_congr rfl hc)
        simpa [outside, hreq] using hclear
  | reject id reason now =>
      rcases hrej : rejectOne s.world.db id reason now with code | db
      · simpa [outside, hrej] using h
      · have hclear := clear_withDb h (hasOpenConflict_rejectOne hrej)
        simpa [outside, hrej] using hclear
  | resolvePaid id reason =>
      rcases hget : s.world.db.withdrawals.get? id with _ | w
      · simpa [outside, hget] using h
      · by_cases hw : w.status = .conflict
        · simp only [outside, hget, hw, if_true]
          exact clear_withDb h (hasOpenConflict_save fun _ hs => by cases hs)
        · simpa [outside, hget, hw] using h
  | otherMoney w delta =>
      rcases hget : s.world.db.wallets.get? w.key with _ | w'
      · simpa [outside, hget] using h
      · simp only [outside, hget]
        exact clear_withDb h fun hc => hasOpenConflict_congr rfl hc
  | placeHold hold =>
      refine ⟨h.1, ?_⟩
      have hne : hold.driver ≠ d := hx
      have hold' := h.2
      simp only [Desk.onHold, outside, List.any_cons, hne, decide_false, Bool.false_and,
        Bool.false_or]
      exact hold'
  | releaseHold driver =>
      refine ⟨h.1, ?_⟩
      have hnone := List.any_eq_false.mp h.2
      refine List.any_eq_false.mpr fun hold hmem => ?_
      obtain ⟨hold₀, hmem₀, rfl⟩ := List.mem_map.mp hmem
      by_cases hd : hold₀.driver = driver
      · simp [hd]
      · simp only [hd, if_false]
        exact hnone hold₀ hmem₀
  | tick seconds =>
      refine ⟨h.1, ?_⟩
      have hnone := List.any_eq_false.mp h.2
      refine List.any_eq_false.mpr fun hold hmem => ?_
      intro hactive
      refine hnone hold hmem ?_
      simp only [outside, Bool.and_eq_true, decide_eq_true_eq] at hactive ⊢
      have hlt : s.now + seconds < hold.expiresAt := of_decide_eq_true hactive.2
      exact ⟨hactive.1, by omega⟩

end Clear

/-! ## What a sender claims -/

/-- The drivers of the withdrawals that an answer hands to the sender. -/
def claimed : (o : DeskOp) → DeskAns o → List ℕ
  | .approveOne _ _ _, some w => [w.driver]
  | .approveOne _ _ _, none => []
  | .retryDebit _, .ok w => [w.driver]
  | .retryDebit _, .error _ => []
  | .awaitingRail, ws => (ws.filter fun w => hasRail w.currency).map Withdrawal.driver
  | .createScheduled _, _ => []
  | .dispatch _, _ => []

lemma clear_of_claimed {o : DeskOp} {e : Choice} {s : Desk} (hadm : Admits o e s) {d : ℕ}
    (hd : d ∈ claimed o (deskExec o e s).1) : Clear s d := by
  cases o with
  | approveOne id hasHandle now =>
      rcases happ : approveOne s.world.db id hasHandle now with _ | ⟨w, db⟩
      · simp [deskExec, happ, claimed] at hd
      · have hd' : d = w.driver := by simpa [deskExec, happ, claimed] using hd
        obtain ⟨⟨row, hrow, hdriver⟩, hconflict, -⟩ := hasOpenConflict_approveOne (d := d) happ
        subst hd'
        exact ⟨hconflict, hdriver ▸ hadm row hrow⟩
  | retryDebit id =>
      rcases hretry : retryDebit s.world.db id with code | ⟨w, db⟩
      · simp [deskExec, hretry, claimed] at hd
      · have hd' : d = w.driver := by simpa [deskExec, hretry, claimed] using hd
        obtain ⟨⟨row, hrow, hdriver⟩, -⟩ := hasOpenConflict_retryDebit (d := d) hretry
        subst hd'
        exact hdriver ▸ hadm row hrow
  | awaitingRail =>
      obtain ⟨w, hw, rfl⟩ := List.mem_map.mp hd
      obtain ⟨hmem, hrail⟩ := List.mem_filter.mp hw
      exact hadm w hmem hrail
  | createScheduled i => simp [claimed] at hd
  | dispatch o => simp [claimed] at hd

/-- No operation writes a conflict, and what the sender may send after an operation it could send
before, or has claimed by the answer. -/
def Careful : Sender → Prop
  | .ret _ => True
  | .op o k => Quiet o ∧
      (∀ a d, Pending (k a) d → Pending (.op o k) d ∨ d ∈ claimed o a) ∧ ∀ a, Careful (k a)

lemma pending_of_payee {o : DeskOp} {k : DeskAns o → Sender} {d : ℕ} (h : payee o = some d) :
    Pending (.op o k) d := by
  cases o with
  | dispatch o => exact .inl h
  | approveOne id hasHandle now => cases h
  | retryDebit id => cases h
  | awaitingRail => cases h
  | createScheduled i => cases h

/-! ## The dispatcher sends to one driver -/

/-- Every payout of the dispatcher goes to the driver, and none of its saves writes a conflict. -/
def SendsTo (d : ℕ) : Dispatch → Prop
  | .ret _ => True
  | .op o k => Quiet (.dispatch o) ∧ (∀ d', payee (.dispatch o) = some d' → d' = d) ∧
      ∀ a, SendsTo d (k a)

section SendsTo

variable {d now : ℕ} {w : Withdrawal}

lemma sendsTo_saveThen {fields : List Field} {raised : String → Dispatch} {k : Dispatch}
    (hw : w.status ≠ .conflict) (hraised : ∀ m, SendsTo d (raised m)) (hk : SendsTo d k) :
    SendsTo d (saveThen w fields raised k) := by
  refine ⟨hw, ⟨fun d' h => (by cases h), fun a => ?_⟩⟩
  cases a with
  | raised m => exact hraised m
  | done => exact hk
  | already => exact hk

lemma sendsTo_refundThen {raised k : Dispatch} (hraised : SendsTo d raised) (hk : SendsTo d k) :
    SendsTo d (refundThen w raised k) := by
  refine ⟨trivial, ⟨fun d' h => (by cases h), fun ref => ?_⟩⟩
  refine ⟨trivial, ⟨fun d' h => (by cases h), fun a => ?_⟩⟩
  cases a with
  | raised m => exact hraised
  | done => exact hk
  | already => exact hk

lemma sendsTo_ret (b : Bool) : SendsTo d (.ret b) := trivial

lemma sendsTo_unexpectedError : SendsTo d (unexpectedError now w) :=
  sendsTo_saveThen (fun h => by cases h) (fun _ => sendsTo_ret _)
    (sendsTo_refundThen (sendsTo_ret _) (sendsTo_ret _))

lemma sendsTo_failAndRefund (hw : w.status ≠ .conflict) : SendsTo d (failAndRefund now w) :=
  sendsTo_saveThen hw (fun _ => sendsTo_unexpectedError)
    (sendsTo_refundThen sendsTo_unexpectedError (sendsTo_ret _))

def Ours (d : ℕ) (w : Withdrawal) : Prop := w.driver = d ∧ w.status ≠ .conflict

lemma sendsTo_initiateUpiPayout {env : DispatchEnv} {returns : Bool → Withdrawal → Dispatch}
    {unknown raises : Withdrawal → Dispatch} (hw : Ours d w)
    (hreturns : ∀ b w, Ours d w → SendsTo d (returns b w))
    (hunknown : ∀ w, Ours d w → SendsTo d (unknown w))
    (hraises : ∀ w, Ours d w → SendsTo d (raises w)) :
    SendsTo d (initiateUpiPayout env w returns unknown raises) := by
  have hnote : ∀ w reason, Ours d w → Ours d (noteFailure w env.now reason) := fun w _ h => h
  have hbroad : ∀ w message, Ours d w →
      SendsTo d (broadHandler env.now w returns raises message) := by
    intro w message h
    exact sendsTo_saveThen (hnote w _ h).2 (fun _ => hraises _ (hnote w _ h))
      (hreturns false _ (hnote w _ h))
  have hrefuse : ∀ w reason, Ours d w → SendsTo d (saveThen (noteFailure w env.now reason)
      attemptFields (fun _ => raises (noteFailure w env.now reason))
        (returns false (noteFailure w env.now reason))) := by
    intro w reason h
    exact sendsTo_saveThen (hnote w _ h).2 (fun _ => hraises _ (hnote w _ h))
      (hreturns false _ (hnote w _ h))
  have hcaught : ∀ w reason, Ours d w → SendsTo d (saveThen (noteFailure w env.now reason)
      attemptFields
        (fun m => broadHandler env.now (noteFailure w env.now reason) returns raises m)
        (returns false (noteFailure w env.now reason))) := by
    intro w reason h
    exact sendsTo_saveThen (hnote w _ h).2 (fun _ => hbroad _ _ (hnote w _ h))
      (hreturns false _ (hnote w _ h))
  rw [initiateUpiPayout]
  split
  · exact hrefuse w _ hw
  split
  · exact hrefuse w _ hw
  split
  · exact hrefuse w _ hw
  split
  · exact hreturns true w hw
  split
  · exact sendsTo_saveThen hw.2 (fun _ => hraises _ hw) (hreturns false _ hw)
  split
  · exact hcaught w _ hw
  · refine ⟨trivial, ⟨fun d' h => ?_, fun answer => ?_⟩⟩
    · rw [← Option.some.inj h]
      exact hw.1
    · cases answer with
      | refused => exact hcaught w _ hw
      | accepted result =>
          dsimp only
          split
          · exact hcaught w _ hw
          · have haccepted : Ours d (markAccepted w env.now (result.payoutId.getD "")
                result.status) := ⟨hw.1, fun h => by cases h⟩
            refine sendsTo_saveThen haccepted.2 (fun _ => hbroad _ _ haccepted) ?_
            exact ⟨trivial, ⟨fun d' h => (by cases h), fun _ => hreturns true _ haccepted⟩⟩
      | unknown paid => exact hunknown w hw
      | raised message paid => exact hbroad w message hw

/-- `trigger_payout_creation` sends to the driver of the withdrawal. -/
theorem sendsTo_triggerPayoutCreation (env : DispatchEnv) (w : Withdrawal) :
    SendsTo w.driver (triggerPayoutCreation env w) := by
  rw [triggerPayoutCreation]
  split
  · exact sendsTo_ret _
  next hstatus =>
  have hw : w.status ≠ .conflict := by
    intro h
    rw [h] at hstatus
    exact hstatus (by decide)
  split
  · exact sendsTo_saveThen hw (fun _ => sendsTo_unexpectedError) (sendsTo_ret _)
  split
  · exact sendsTo_failAndRefund fun h => by cases h
  · exact sendsTo_failAndRefund fun h => by cases h
  · refine sendsTo_initiateUpiPayout ⟨rfl, hw⟩ ?_ ?_ ?_
    · intro b w' h
      cases b with
      | true =>
          exact sendsTo_saveThen (fun h => by cases h) (fun _ => sendsTo_unexpectedError)
            (sendsTo_ret _)
      | false => exact sendsTo_failAndRefund fun h => by cases h
    · intro w' h
      exact sendsTo_saveThen (fun h => by cases h) (fun _ => sendsTo_unexpectedError)
        (sendsTo_ret _)
    · intro w' h
      exact sendsTo_unexpectedError

end SendsTo

/-! ## Senders are careful -/

section Careful

variable {d driver : ℕ} {q : Dispatch} {rest rest' : Sender} {env : Withdrawal → DispatchEnv}

lemma pending_lift (hq : SendsTo driver q) (h : Pending (lift q rest) d) :
    d = driver ∨ Pending rest d := by
  induction q with
  | ret b => exact .inr h
  | op o k ih =>
      obtain ⟨-, hpayee, hk⟩ := hq
      obtain h | ⟨a, ha⟩ := h
      · exact .inl (hpayee d h)
      · exact ih a (hk a) ha

lemma pending_lift_mono (hr : Pending rest d → Pending rest' d) (h : Pending (lift q rest) d) :
    Pending (lift q rest') d := by
  induction q with
  | ret b => exact hr h
  | op o k ih =>
      obtain h | ⟨a, ha⟩ := h
      · exact .inl h
      · exact .inr ⟨a, ih a ha⟩

lemma careful_lift (hq : SendsTo driver q) (hr : Careful rest) : Careful (lift q rest) := by
  induction q with
  | ret b => exact hr
  | op o k ih => exact ⟨hq.1, fun a d h => .inl (.inr ⟨a, h⟩), fun a => ih a (hq.2.2 a)⟩

lemma pending_sendAll {ws : List Withdrawal} (h : Pending (sendAll env ws) d) :
    ∃ w ∈ ws, d = w.driver := by
  induction ws with
  | nil => exact absurd h id
  | cons w ws ih =>
      obtain h | h := pending_lift (sendsTo_triggerPayoutCreation (env w) w) h
      · exact ⟨w, List.mem_cons_self, h⟩
      · obtain ⟨w', hw', hd⟩ := ih h
        exact ⟨w', List.mem_cons_of_mem _ hw', hd⟩

/-- One more withdrawal is sent to one more driver. -/
lemma pending_sendAll_append {ws : List Withdrawal} {w : Withdrawal}
    (h : Pending (sendAll env (ws ++ [w])) d) : Pending (sendAll env ws) d ∨ d = w.driver := by
  by_cases hd : d = w.driver
  · exact .inr hd
  · left
    induction ws with
    | nil =>
        obtain h | h := pending_lift (sendsTo_triggerPayoutCreation (env w) w) h
        · exact absurd h hd
        · exact h
    | cons v ws ih => exact pending_lift_mono ih h

lemma careful_sendAll (ws : List Withdrawal) : Careful (sendAll env ws) := by
  induction ws with
  | nil => exact trivial
  | cons w ws ih => exact careful_lift (sendsTo_triggerPayoutCreation (env w) w) ih

variable {hasHandle : ℕ → Bool} {now : ℕ}

lemma pending_executePayout {ids : List ℕ} {approved : List Withdrawal} :
    Pending (executePayout hasHandle env now ids approved) d ↔
      Pending (sendAll env approved) d := by
  induction ids with
  | nil => exact Iff.rfl
  | cons id ids ih => exact ih

lemma careful_executePayout (ids : List ℕ) (approved : List Withdrawal) :
    Careful (executePayout hasHandle env now ids approved) := by
  induction ids generalizing approved with
  | nil => exact careful_sendAll approved
  | cons id ids ih =>
      refine ⟨trivial, fun a d h => ?_, fun a => ?_⟩
      · cases a with
        | none => exact .inl h
        | some w =>
            obtain h | h := pending_sendAll_append (pending_executePayout.mp h)
            · exact .inl (pending_executePayout.mpr h)
            · exact .inr (List.mem_singleton.mpr h)
      · cases a with
        | none => exact ih approved
        | some w => exact ih (approved ++ [w])

lemma careful_retryFailed (id : ℕ) : Careful (retryFailed env id) := by
  refine ⟨trivial, fun a d h => ?_, fun a => ?_⟩
  · cases a with
    | error code => exact False.elim h
    | ok w =>
        obtain ⟨w', hw', hd⟩ := pending_sendAll h
        rw [List.mem_singleton.mp hw'] at hd
        exact .inr (List.mem_singleton.mpr hd)
  · cases a with
    | error code => exact trivial
    | ok w => exact careful_sendAll [w]

lemma careful_releaseAwaitingRail : Careful (releaseAwaitingRail env) := by
  refine ⟨trivial, fun held d h => .inr ?_, fun held => careful_sendAll _⟩
  obtain ⟨w, hw, hd⟩ := pending_sendAll h
  exact List.mem_map.mpr ⟨w, hw, hd.symm⟩

lemma careful_runCountry (inputs : List ScheduleInput) :
    Careful (runCountry inputs) ∧ ¬ Pending (runCountry inputs) d := by
  induction inputs with
  | nil => exact ⟨trivial, id⟩
  | cons i inputs ih => exact ⟨⟨trivial, fun _ _ h => .inl h, fun _ => ih.1⟩, ih.2⟩

/-- Every entry is careful. -/
theorem careful_sender (a : Entry) (s : Desk) : Careful (sender a s) := by
  cases a with
  | executePayout ids hasHandle env now => exact careful_executePayout ids []
  | retryFailed id env => exact careful_retryFailed id
  | releaseAwaitingRail env => exact careful_releaseAwaitingRail
  | runCountry inputs => exact (careful_runCountry (d := 0) inputs).1

lemma not_pending_sender (a : Entry) (s : Desk) : ¬ Pending (sender a s) d := by
  cases a with
  | executePayout ids hasHandle env now => exact fun h => pending_executePayout.mp h
  | retryFailed id env => exact fun h => h
  | releaseAwaitingRail env => exact fun h => h
  | runCountry inputs => exact (careful_runCountry inputs).2

end Careful

/-! ## Every interleaving -/

def Rely (q : Sender) (s s' : Desk) : Prop := ∀ d, Pending q d → Clear s d → Clear s' d

/-- What an operation of a sender does. -/
structure Guarantee (o : DeskOp) (s s' : Desk) : Prop where
  sends : ∀ d, payee o = some d → Clear s d
  keeps : ∀ d, Clear s d → Clear s' d

/-- A careful sender whose pending drivers are clear sends to clear drivers alone. -/
theorem wp_of_careful {q : Sender} (hq : Careful q) {s : Desk}
    (hs : ∀ d, Pending q d → Clear s d) :
    Prog.wp deskExec Admits Rely Guarantee q (fun _ _ => True) s := by
  induction q generalizing s with
  | ret r => exact fun _ _ => trivial
  | op o k ih =>
      obtain ⟨hquiet, hclaims, hk⟩ := hq
      intro s₁ hrely e hadm
      have hpending : ∀ d, Pending (.op o k) d → Clear s₁ d := fun d hd => hrely d hd (hs d hd)
      have hkeeps : ∀ d, Clear s₁ d → Clear (deskExec o e s₁).2 d :=
        fun d h => clear_deskExec e hquiet h
      refine ⟨⟨fun d hd => ?_, hkeeps⟩, ih _ (hk _) fun d hd => hkeeps d ?_⟩
      · exact hpending d (pending_of_payee hd)
      · obtain h | h := hclaims _ d hd
        · exact hpending d h
        · exact clear_of_claimed hadm h

section Pool

variable {τ : Type} [DecidableEq τ] {p : SenderPool τ} {m : SenderMove τ}

/-- Every running sender is under its weakest precondition. -/
def AllCareful (p : SenderPool τ) : Prop :=
  Pool.Valid deskExec (fun _ => Admits) (fun _ => Rely) (fun _ => Guarantee)
    (fun _ _ _ => True) p

lemma Rely.refl (q : Sender) (s : Desk) : Rely q s s := fun _ _ h => h

lemma Rely.trans (q : Sender) (s t u : Desk) (h : Rely q s t) (h' : Rely q t u) : Rely q s u :=
  fun d hd hs => h' d hd (h d hd hs)

omit [DecidableEq τ] in
lemma admitted_of_gated {t : τ} {e : Choice} (h : Gated p (.advance t e)) :
    Pool.Admitted (fun _ => Admits) p t e := by
  intro a o k ht
  exact h o (by simp [Pool.nextOp, ht])

/-- A gated move leaves clear the drivers that the other senders have pending. -/
lemma respects_of_gated (hg : Gated p m) (hv : AllCareful p) :
    Pool.Respects deskExec sender outside (fun _ => Rely) p m := by
  intro t a q hrun hne d hd hclear
  cases m with
  | advance t' e =>
      by_cases hop : ∃ a o k, p.threads t' = some (a, .op o k)
      · obtain ⟨a', o, k, ht'⟩ := hop
        have hguarantee : Guarantee o p.store (deskStep p (.advance t' e)).store :=
          Pool.guarantee_of_valid (fun _ => Rely.refl) hv (admitted_of_gated hg) ht'
        exact hguarantee.keeps d hclear
      · rw [Pool.store_step_advance_of_not_running fun a' o k ht' => hop ⟨a', o, k, ht'⟩]
        exact hclear
  | start t' a' => exact hclear
  | outside x => exact clear_outside (hg t a q d hrun hd) hclear

lemma allCareful_deskStep (hg : Gated p m) (hv : AllCareful p) : AllCareful (deskStep p m) := by
  refine Pool.valid_step (fun _ => Rely.refl) (fun _ => Rely.trans) hv ?_
    (respects_of_gated hg hv) ?_
  · rintro t e rfl
    exact admitted_of_gated hg
  · rintro t a rfl
    exact wp_of_careful (careful_sender a p.store) fun d h =>
      absurd h (not_pending_sender a p.store)

lemma sendsClear_of_gated (hg : Gated p m) (hv : AllCareful p) : SendsClear p m := by
  cases m with
  | advance t e =>
      intro o d hnext hd
      obtain ⟨a, k, ht⟩ := Pool.nextOp_eq_some hnext
      have hguarantee : Guarantee o p.store (deskStep p (.advance t e)).store :=
        Pool.guarantee_of_valid (fun _ => Rely.refl) hv (admitted_of_gated hg) ht
      exact hguarantee.sends d hd
  | start t a => exact trivial
  | outside x => exact trivial

/-- In every interleaving of any number of senders in which every claim is of a driver who is
clear, and no driver is stopped between the claim and the sending, every payout goes to a driver
who has no payout in conflict and is on no hold. -/
theorem sends_clear_of_gated_run {s : Desk} {ms : List (SenderMove τ)}
    (h : Transition.Guarded deskStep Gated ⟨fun _ => none, s⟩ ms) :
    Transition.Guarded deskStep SendsClear ⟨fun _ => none, s⟩ ms := by
  refine Transition.guarded_of_invariant (I := AllCareful)
    (fun p m hg hv => allCareful_deskStep hg hv) (fun p m hg hv => sendsClear_of_gated hg hv) ?_ h
  intro t a q hrun
  exact absurd hrun.1 (by simp)

end Pool

/-! ## A retry, and a hold -/

/-- The first withdrawal failed, and the second is reported paid after its refund. -/
def conflictDesk : Desk where
  world :=
    ⟨{ oneDriver with
        withdrawals := (Table.empty.put
          { newWithdrawal 1 3 10000 .inr .driver none 0 with status := .failed }).put
            { newWithdrawal 2 3 20000 .inr .driver none 0 with status := .conflict }
        nextId := 3
        approvedAudit := [2, 1] }, []⟩
  holds := []
  now := 1000

/-- A pending withdrawal of a driver with some holds. -/
def pendingDesk (holds : List PayoutHold) : Desk where
  world :=
    ⟨{ oneDriver with
        withdrawals := Table.empty.put (newWithdrawal 1 3 10000 .inr .driver none 0)
        nextId := 2 }, []⟩
  holds := holds
  now := 1000

/-- Finance retries the first withdrawal. -/
def retried : List (SenderMove Unit) :=
  [.start () (.retryFailed 1 fun _ => upiEnv), .advance () providerAccepts,
    .advance () providerAccepts]

/-- A checker approves the first withdrawal. -/
def approved : List (SenderMove Unit) :=
  [.start () (.executePayout [1] (fun _ => false) (fun _ => upiEnv) 1000),
    .advance () providerAccepts, .advance () providerAccepts]

/-- Without a hold the approved payout is sent to a clear driver. -/
theorem approved_sends_clear :
    Transition.Guarded deskStep SendsClear ⟨fun _ => none, pendingDesk []⟩ approved := by
  refine sends_clear_of_gated_run ⟨trivial, ?_, ?_, trivial⟩
  · intro o ho
    cases ho
    exact fun w _ => rfl
  · intro o ho
    cases ho
    exact trivial

/-- A retry sends a payout to a driver with a payout in conflict, and an approval to a driver on
hold. -/
theorem retry_and_approval_pay :
    ¬ Transition.Guarded deskStep SendsClear ⟨fun _ => none, conflictDesk⟩ retried ∧
      ¬ Transition.Guarded deskStep SendsClear ⟨fun _ => none, pendingDesk [⟨3, true, 5000⟩]⟩
        approved := by
  constructor
  · rintro ⟨-, -, hsend, -⟩
    have hnext : ((Transition.run deskStep ⟨fun _ => none, conflictDesk⟩
        (retried.take 2)).nextOp ()).bind payee = some 3 := by decide
    obtain ⟨o, ho, hd⟩ := Option.bind_eq_some_iff.mp hnext
    exact absurd (hsend o 3 ho hd).1 (by decide)
  · rintro ⟨-, -, hsend, -⟩
    have hnext : ((Transition.run deskStep ⟨fun _ => none, pendingDesk [⟨3, true, 5000⟩]⟩
        (approved.take 2)).nextOp ()).bind payee = some 3 := by decide
    obtain ⟨o, ho, hd⟩ := Option.bind_eq_some_iff.mp hnext
    exact absurd (hsend o 3 ho hd).2 (by decide)

end SaaradhiGo.Payouts.Held
