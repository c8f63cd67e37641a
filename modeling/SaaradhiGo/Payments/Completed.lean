/-
Completed payments under every interleaving of the entry points.

The transactions re-read the payment under its lock and leave a completed one as it is.  The
two saves that take no lock, of a failed verification and of a new order, write an instance
that was loaded earlier: each sets back a payment that is completed when it lands, and
nothing else does.
-/
import SaaradhiGo.Payments.Entry

namespace SaaradhiGo.Payments

open Interleave

/-! ## What a record writes -/

section Record

variable {db db' : Db} {p q : Payment} {i : ℕ} {provider : Provider} {order : OrderId}
  {taken : Option PaymentId}

/-- The row of an order, or the one `remember` makes. -/
def orderRow (db : Db) (i : ℕ) (order : OrderId) (provider : Provider) : PaymentOrder :=
  (db.orders.get? order).getD ⟨order, i, provider, none, .none⟩

lemma orderId_orderRow (db : Db) (i : ℕ) (order : OrderId) (provider : Provider) :
    (orderRow db i order provider).orderId = order := by
  rw [orderRow]
  rcases h : db.orders.get? order with _ | row
  · rfl
  · exact Table.pk_of_get? h

lemma remember_spec (db : Db) (i : ℕ) (order : OrderId) (provider : Provider) :
    (remember db i order provider).1 = orderRow db i order provider ∧
      (remember db i order provider).2.payments = db.payments ∧
      ∀ o, (remember db i order provider).2.orders.get? o =
        if o = order then some (orderRow db i order provider) else db.orders.get? o := by
  cases h : db.orders.get? order with
  | none =>
      simp only [remember, orderRow, h, Option.getD_none, true_and]
      exact fun o => Table.get?_put _ _ _
  | some row =>
      simp only [remember, orderRow, h, Option.getD_some, true_and]
      intro o
      split
      · rename_i ho
        rw [ho, h]
      · rfl

/-- The payments keep their status and the orders they name. -/
def SameStanding (db db' : Db) : Prop :=
  ∀ i, (db'.payments.get? i).map (fun p => (p.status, p.own)) =
    (db.payments.get? i).map fun p => (p.status, p.own)

/-- What `record` does, `saved` being the row of the payment. -/
structure RecordStep (db : Db) (i : ℕ) (provider : Provider) (taken : Option PaymentId)
    (order : OrderId) (new : Bool) (db' : Db) : Prop where
  keeps : db.KeepsCompleted db'
  standing : SameStanding db db'
  isNew : new = !(orderRow db i order provider).inHand taken
  orders : ∀ o, db'.orders.get? o = if o = order then
      some (if new then { orderRow db i order provider with
        latePaymentId := taken <|> (orderRow db i order provider).latePaymentId
        lateRefund := .pending }
      else orderRow db i order provider)
    else db.orders.get? o

lemma record_spec {new : Bool} (hget : db.payments.get? p.id = some q)
    (hstatus : q.status = p.status) (h : record db p provider taken order = some (new, db')) :
    RecordStep db p.id provider taken order new db' := by
  obtain ⟨hrow, hrows, horders⟩ := remember_spec db p.id order provider
  rw [record] at h
  rcases hremember : remember db p.id order provider with ⟨row, db₁⟩
  rw [hremember] at h hrow hrows horders
  dsimp only at h hrow hrows horders
  subst hrow
  have hid := orderId_orderRow db p.id order provider
  split at h
  · -- the capture is in hand already
    rename_i hin
    cases h
    refine ⟨.of_payments hrows, fun i => by rw [hrows], by rw [hin]; rfl, horders⟩
  rename_i hnot
  have hnew : ∀ o, (db₁.orders.put { orderRow db p.id order provider with
      latePaymentId := taken <|> (orderRow db p.id order provider).latePaymentId
      lateRefund := .pending }).get? o = if o = order then
        some { orderRow db p.id order provider with
          latePaymentId := taken <|> (orderRow db p.id order provider).latePaymentId
          lateRefund := .pending }
      else db.orders.get? o := by
    intro o
    rw [Table.get?_put]
    dsimp only
    rw [hid]
    split
    · rfl
    · rename_i ho
      rw [horders, if_neg ho]
  split at h
  · cases h
    exact ⟨.of_payments hrows, fun i => by rw [hrows], by simpa using hnot, hnew⟩
  rename_i hopen
  split at h
  · cases h
  · rename_i saved hsaved
    obtain ⟨db₂, hsave, heq⟩ := Option.map_eq_some_iff.mp h
    cases heq
    rw [hrows, hget, Option.some.injEq] at hsaved
    subst hsaved
    -- the payment is open, so the save that marks it takes no completed payment back
    have hqid : q.id = p.id := Table.pk_of_get? hget
    have hkeeps := Db.KeepsCompleted.save hsave (by
      dsimp only
      rw [hqid]
      exact Db.not_completed_of_get? (hrows ▸ hget) (hstatus ▸ hopen))
    refine ⟨(Db.KeepsCompleted.of_payments hrows).trans hkeeps, fun i => ?_, by simpa using hnot, ?_⟩
    · rw [Db.get?_save hsave]
      dsimp only
      split
      · rename_i hi
        rw [hi, hqid, hget]
        rfl
      · rw [hrows]
    · rw [(Db.of_save hsave).2]
      exact hnew

end Record

/-! ## What a decision does -/

section Decide

variable {db db' : Db} {p q : Payment} {i : ℕ} {provider : Provider} {order : OrderId}
  {taken : Option PaymentId} {d : Decision}

lemma own_settledBy : order ∈ (settledBy p order).own ∧ ∀ o ∈ (settledBy p order).own, o = order := by
  simp only [Payment.mem_own, settledBy]
  refine ⟨.inl trivial, ?_⟩
  rintro o (ho | ho)
  · exact (Option.some.inj ho).symm
  · obtain ⟨-, -, heq⟩ := Option.map_eq_some_iff.mp ho
    exact heq.symm

/-- The payment is completed by the order. -/
structure SettleStep (db : Db) (i : ℕ) (order : OrderId) (db' : Db) : Prop where
  keeps : db.KeepsCompleted db'
  row : ∃ p, db'.payments.get? i = some p ∧ p.status = .completed ∧ order ∈ p.own ∧
    ∀ o ∈ p.own, o = order
  /-- the others keep their orders, and none is completed -/
  others : ∀ j q, j ≠ i → db'.payments.get? j = some q →
    ∃ q₀, db.payments.get? j = some q₀ ∧ q.own = q₀.own ∧
      (q.status = .completed → q₀.status = .completed)
  orders : db'.orders = db.orders

/-- The decision records the capture as late. -/
def recordsLate (source : Source) (db : Db) (p : Payment) (order : OrderId)
    (taken : Option PaymentId) : Bool :=
  (p.status ≠ .completed && superseded db p) ||
    match source with
    | .verify | .webhook => isLateCapture p order taken
    | .poll | .recon => false

/-- The three ways a decision goes. -/
inductive Settling (db : Db) (source : Source) (i : ℕ) (provider : Provider) (order : OrderId)
    (taken : Option PaymentId) : Decision → Db → Prop where
  | alreadyCompleted {p : Payment} (get : db.payments.get? i = some p)
      (completed : p.status = .completed)
      (notLate : source = .verify ∨ source = .webhook → isLateCapture p order taken = false) :
      Settling db source i provider order taken .alreadyCompleted db
  | recorded {p : Payment} {new : Bool} {db' : Db} (get : db.payments.get? i = some p)
      (why : recordsLate source db p order taken = true)
      (step : RecordStep db i provider taken order new db') :
      Settling db source i provider order taken (if new then .late else .inHand) db'
  | settled {p : Payment} {db' : Db} (get : db.payments.get? i = some p)
      (opened : p.status ≠ .completed) (stands : superseded db p = false)
      (step : SettleStep db i order db') :
      Settling db source i provider order taken .settled db'

lemma settling_of_recordLate {source : Source} (hget : db.payments.get? i = some q)
    (hid : p.id = q.id) (hstatus : p.status = q.status)
    (hwhy : recordsLate source db q order taken = true)
    (h : recordLate db p provider taken order = some (d, db')) :
    Settling db source i provider order taken d db' := by
  obtain ⟨⟨new, db₁⟩, hrecord, heq⟩ := Option.map_eq_some_iff.mp h
  cases heq
  have hqi : q.id = i := Table.pk_of_get? hget
  have hpi : p.id = i := hid.trans hqi
  refine .recorded hget hwhy ?_
  rw [← hpi]
  exact record_spec (by rw [hpi]; exact hget) hstatus.symm hrecord

lemma settleStep_save (h : db.save p = some db') (hget : db.payments.get? i = some q)
    (hid : p.id = q.id) (hopen : q.status ≠ .completed)
    (hown : order ∈ p.own ∧ ∀ o ∈ p.own, o = order) (hstatus : p.status = .completed) :
    SettleStep db i order db' := by
  have hpi : p.id = i := hid.trans (Table.pk_of_get? hget)
  refine ⟨.save h ?_, ⟨p, ?_, hstatus, hown⟩, fun j q' hj hq' => ?_, (Db.of_save h).2⟩
  · rw [hpi]
    exact Db.not_completed_of_get? hget hopen
  · exact Db.get?_save_self h hpi
  · rw [Db.get?_save_of_ne h (by rw [hpi]; exact hj)] at hq'
    exact ⟨q', hq', rfl, id⟩

/-- The payment that the completed one replaces is another one, and not completed. -/
lemma SettleStep.failReplaced {db'' : Db} (h : SettleStep db i order db')
    (hreplaced : ∀ p, db'.payments.get? i = some p → p.replacedBy ≠ some i)
    (hfail : failReplaced db' i = some db'') : SettleStep db i order db'' := by
  rw [Payments.failReplaced] at hfail
  split at hfail
  · cases hfail
    exact h
  rename_i original horiginal
  obtain ⟨p, hp, hstatus, hown⟩ := h.row
  have hmem := List.mem_of_find?_eq_some horiginal
  have hget := Table.mem_iff_get?.mp hmem
  have hby : original.replacedBy = some i := by simpa using List.find?_some horiginal
  have hne : original.id ≠ i := by
    intro heq
    rw [heq] at hget
    exact hreplaced original hget hby
  have hopen : original.status ≠ .completed := by
    intro hcompleted
    have hsame := Db.eq_of_completed (Table.mem_of_get? hp).1 hmem hstatus hcompleted
    exact hreplaced p hp (hsame ▸ hby)
  have hkeeps := Db.KeepsCompleted.save hfail (Db.not_completed_of_get? hget hopen)
  refine ⟨h.keeps.trans hkeeps, ⟨p, hkeeps i p hp hstatus, hstatus, hown⟩, fun j q hj hq => ?_,
    (Db.of_save hfail).2.trans h.orders⟩
  rw [Db.get?_save hfail] at hq
  split at hq
  · rename_i hjo
    cases hq
    obtain ⟨q₀, hq₀, hown₀, -⟩ := h.others j original hj (by rw [hjo]; exact hget)
    exact ⟨q₀, hq₀, hown₀, fun hs => by cases hs⟩
  · exact h.others j q hj hq

lemma verifyLocked_spec (h : verifyLocked db i provider order taken = some (d, db')) :
    Settling db .verify i provider order taken d db' := by
  rw [verifyLocked] at h
  split at h
  · cases h
  rename_i p hget
  have hpi : p.id = i := Table.pk_of_get? hget
  split at h
  · rename_i hlate
    exact settling_of_recordLate hget rfl rfl (by simp [recordsLate, hlate]) h
  rename_i hlate
  split at h
  · rename_i hcompleted
    cases h
    exact .alreadyCompleted hget hcompleted fun _ => by simpa using hlate
  rename_i hopen
  -- the instance carries the gateway payment it verified
  obtain ⟨p', hp', hid, hstatus, hby⟩ : ∃ p', p' = { p with gatewayPaymentId := taken } ∧
      p'.id = p.id ∧ p'.status = p.status ∧ p'.replacedBy = p.replacedBy := ⟨_, rfl, rfl, rfl, rfl⟩
  have hsame : superseded db p' = superseded db p := by rw [hp']; rfl
  rw [← hp'] at h
  dsimp only at h
  rw [hsame] at h
  split at h
  · rename_i hsuperseded
    exact settling_of_recordLate hget hid hstatus (by simp [recordsLate, hopen, hsuperseded]) h
  rename_i hstands
  have hstands' : superseded db p = false := by simpa using hstands
  obtain ⟨db₂, hbind, heq⟩ := Option.map_eq_some_iff.mp h
  cases heq
  obtain ⟨db₁, hsave, hfail⟩ := Option.bind_eq_some_iff.mp hbind
  have hstep : SettleStep db i order db₁ :=
    settleStep_save hsave hget hid hopen own_settledBy rfl
  rw [hid, hpi] at hfail
  refine .settled hget hopen hstands' (hstep.failReplaced (fun q hq => ?_) hfail)
  -- a payment that stands has not been replaced
  rw [Db.get?_save_self hsave (hid.trans hpi), Option.some.injEq] at hq
  subst hq
  have hnone : p.replacedBy = none := by
    rw [superseded] at hstands'
    cases hr : p.replacedBy with
    | none => rfl
    | some j => simp [hr] at hstands'
  show p'.replacedBy ≠ some i
  rw [hby, hnone]
  exact fun h => by cases h

lemma webhookLocked_spec (h : webhookLocked db i provider order taken = some (d, db')) :
    Settling db .webhook i provider order taken d db' := by
  rw [webhookLocked] at h
  split at h
  · cases h
  rename_i p hget
  split at h
  · rename_i hwhy
    exact settling_of_recordLate hget rfl rfl (by rw [recordsLate, Bool.or_comm]; exact hwhy) h
  rename_i hwhy
  rw [Bool.or_eq_true, not_or, Bool.and_eq_true, decide_eq_true_eq] at hwhy
  split at h
  · rename_i hcompleted
    cases h
    exact .alreadyCompleted hget hcompleted fun _ => by simpa using hwhy.1
  rename_i hopen
  have hstands : superseded db p = false := by
    by_contra hs
    exact hwhy.2 ⟨hopen, by simpa using hs⟩
  obtain ⟨db₁, hsave, heq⟩ := Option.map_eq_some_iff.mp h
  cases heq
  exact .settled hget hopen hstands (settleStep_save hsave hget rfl hopen own_settledBy rfl)

lemma pollLocked_spec {source : Source} (hsource : source = .poll ∨ source = .recon)
    (h : pollLocked db i provider order taken = some (d, db')) :
    Settling db source i provider order taken d db' := by
  rw [pollLocked] at h
  split at h
  · cases h
  rename_i p hget
  split at h
  · rename_i hcompleted
    cases h
    refine .alreadyCompleted hget hcompleted fun hs => ?_
    rcases hsource with rfl | rfl <;> rcases hs with hs | hs <;> cases hs
  rename_i hopen
  split at h
  · rename_i hsuperseded
    exact settling_of_recordLate hget rfl rfl (by simp [recordsLate, hopen, hsuperseded]) h
  rename_i hstands
  obtain ⟨db₁, hsave, heq⟩ := Option.map_eq_some_iff.mp h
  cases heq
  exact .settled hget hopen (by simpa using hstands)
    (settleStep_save hsave hget rfl hopen own_settledBy rfl)

/-- What each decision does. -/
theorem settleLocked_spec {source : Source}
    (h : settleLocked source db i provider order taken = some (d, db')) :
    Settling db source i provider order taken d db' := by
  cases source with
  | verify => exact verifyLocked_spec h
  | webhook => exact webhookLocked_spec h
  | poll => exact pollLocked_spec (.inl rfl) h
  | recon => exact pollLocked_spec (.inr rfl) h

lemma Settling.keeps {source : Source} (h : Settling db source i provider order taken d db') :
    db.KeepsCompleted db' := by
  cases h with
  | alreadyCompleted get completed notLate => exact .refl db
  | recorded get why step => exact step.keeps
  | settled get opened stands step => exact step.keeps

end Decide

/-! ## The other transactions -/

section Locked

variable {db db' : Db} {i : ℕ} {order : OrderId}

lemma keepsCompleted_switch {terms : SwitchTerms} {new : Option ℕ}
    (h : switchLocked db i terms = some (new, db')) : db.KeepsCompleted db' := by
  rw [switchLocked] at h
  split at h
  · cases h
  rename_i p hget
  have hpi : p.id = i := Table.pk_of_get? hget
  split at h
  · cases h
    exact .refl db
  rename_i hopen
  obtain ⟨db₁, hsave₁, hrest⟩ := Option.bind_eq_some_iff.mp h
  have hkeeps₁ : db.KeepsCompleted db₁ :=
    .save hsave₁ (hpi ▸ Db.not_completed_of_get? hget hopen)
  split at hrest
  · cases hrest
    exact hkeeps₁
  obtain ⟨⟨newId, db₂⟩, hcreate, hrest⟩ := Option.bind_eq_some_iff.mp hrest
  obtain ⟨db₃, hsave₃, heq⟩ := Option.map_eq_some_iff.mp hrest
  cases heq
  obtain ⟨hfree, saved, hsaved, hrows, -⟩ := Db.of_create hcreate
  refine (hkeeps₁.trans (.create hcreate)).trans (.save hsave₃ ?_)
  -- the old payment has failed, and the new one is another
  have hget₁ : db₁.payments.get? i = some { p with status := .failed } :=
    Db.get?_save_self hsave₁ hpi
  have hne : i ≠ newId := by
    rintro rfl
    rw [hfree] at hget₁
    cases hget₁
  have hget₂ : db₂.payments.get? i = some { p with status := .failed } := by
    rw [hrows, Db.get?_save hsaved, if_neg hne, hget₁]
  rw [show ({ p with status := .failed, replacedBy := some newId } : Payment).id = i from hpi]
  exact Db.not_completed_of_get? hget₂ (by simp)

lemma keepsCompleted_retry {issued : Issued} {done : Bool}
    (h : retryLocked db i issued = some (done, db')) : db.KeepsCompleted db' := by
  rw [retryLocked] at h
  split at h
  · cases h
  rename_i p hget
  split at h
  · cases h
    exact .refl db
  · rename_i hopen
    obtain ⟨db₁, hsave, heq⟩ := Option.map_eq_some_iff.mp h
    cases heq
    exact .save hsave (Table.pk_of_get? hget ▸ Db.not_completed_of_get? hget hopen)

lemma refundLocked_spec {refunded : Bool} (h : refundLocked db i order refunded = some db') :
    ∃ p db₁, db.payments.get? i = some p ∧ db₁.payments = db.payments ∧
      (∀ o, db₁.orders.get? o = if o = order then
          (db.orders.get? order).map fun row =>
            { row with lateRefund := if refunded then .refunded else .manual }
        else db.orders.get? o) ∧
      (p.status ≠ .completed ∧ db₁.save { p with status := .refunded } = some db' ∨ db' = db₁) := by
  rw [refundLocked] at h
  split at h
  · cases h
  rename_i p hget
  cases hrow : db.orders.get? order with
  | none =>
      simp only [hrow] at h
      refine ⟨p, db, hget, rfl, fun o => ?_, ?_⟩
      · split
        · rename_i ho
          rw [ho, hrow]
          rfl
        · rfl
      · split at h
        · rename_i hopen
          exact .inl ⟨hopen.1, h⟩
        · cases h
          exact .inr rfl
  | some row =>
      simp only [hrow] at h
      have hid : row.orderId = order := Table.pk_of_get? hrow
      refine ⟨p, { db with orders := db.orders.put { row with
        lateRefund := if refunded then .refunded else .manual } }, hget, rfl, fun o => ?_, ?_⟩
      · simp only [Table.get?_put, hid, Option.map_some]
      · split at h
        · rename_i hopen
          exact .inl ⟨hopen.1, h⟩
        · cases h
          exact .inr rfl

lemma keepsCompleted_refund {refunded : Bool} (h : refundLocked db i order refunded = some db') :
    db.KeepsCompleted db' := by
  obtain ⟨p, db₁, hget, hrows, -, hsave | rfl⟩ := refundLocked_spec h
  · have hnot := Db.not_completed_of_get? (hrows ▸ hget) hsave.1
    exact (Db.KeepsCompleted.of_payments hrows).trans
      (.save hsave.2 (Table.pk_of_get? hget ▸ hnot))
  · exact .of_payments hrows

end Locked

/-! ## Every interleaving -/

def NotSetBack (s s' : World) : Prop :=
  ∀ i p, s.db.payments.get? i = some p → p.status = .completed →
    ∃ p', s'.db.payments.get? i = some p' ∧
      p'.status ≠ .pending ∧ p'.status ≠ .processing ∧ p'.status ≠ .failed

lemma notSetBack_of_keepsCompleted {s s' : World} (h : s.db.KeepsCompleted s'.db) :
    NotSetBack s s' := by
  intro i p hp hstatus
  exact ⟨p, h i p hp hstatus, by simp [hstatus], by simp [hstatus], by simp [hstatus]⟩

/-- A save without a lock goes through over a payment that is completed. -/
def StaleSave : PayOp → Choice → World → Prop
  | .saveFailed p, e, s => e.dbRaises = false ∧ s.db.Completed p.id
  | .saveIssued p _ _ order, e, s =>
      e.dbRaises = false ∧ s.fresh (some order) = true ∧ s.db.Completed p.id
  | _, _, _ => False

section Operations

variable {s : World} {e : Choice}

@[simp] lemma db_tell (s : World) (order : OrderId) : (s.tell order).db = s.db := by
  rw [World.tell]
  split <;> rfl

@[simp] lemma db_issue (s : World) (order : Option OrderId) (i : ℕ) (amountMinor : ℤ) :
    (s.issue order i amountMinor).db = s.db := rfl

@[simp] lemma db_decided (s : World) (source : Source) (order : OrderId)
    (taken : Option PaymentId) (d : Decision) : (s.decided source order taken d).db = s.db := by
  cases d <;> cases source <;> simp [World.decided, World.answer]

/-- An operation that is no stale save keeps the completed payments as they are. -/
theorem keepsCompleted_exec {o : PayOp} (h : ¬ StaleSave o e s) :
    s.db.KeepsCompleted (exec o e s).2.db := by
  have hsame : ∀ {s' : World}, s'.db = s.db → s.db.KeepsCompleted s'.db :=
    fun heq => heq ▸ .refl s.db
  cases o with
  | lookUp order paymentId =>
      rw [exec]
      split
      · exact hsame (db_tell s order)
      · split
        · exact hsame (db_tell s order)
        · exact hsame rfl
  | find f => exact hsame rfl
  | orderIds p => exact hsame rfl
  | orderStatus order => exact hsame rfl
  | confirm p order =>
      rw [exec]
      split
      · exact hsame rfl
      · exact hsame (db_tell s order)
  | verifySignature order => exact hsame rfl
  | ensureCaptured order paymentId =>
      rw [exec]
      split
      · exact hsame rfl
      · split
        · exact hsame rfl
        · split <;> exact hsame rfl
  | tripTerms => exact hsame rfl
  | newOrder => exact hsame rfl
  | saveFailed p =>
      rw [exec]
      split
      · exact hsame rfl
      rename_i hraises
      split
      · exact hsame rfl
      · rename_i db hsave
        -- a save over a completed payment would be a stale one
        exact .save hsave fun hc => h ⟨by simpa using hraises, hc⟩
  | saveIssued p amountMinor provider order =>
      rw [exec]
      split
      · exact hsame rfl
      rename_i hraises
      rw [Bool.or_eq_true, not_or] at hraises
      split
      · exact hsame rfl
      · rename_i db hsave
        rw [db_issue]
        exact .save hsave fun hc => h ⟨by simpa using hraises.1, by simpa using hraises.2, hc⟩
  | createIssued amountMinor provider order =>
      rw [exec]
      split
      · exact hsame rfl
      split
      · exact hsame rfl
      · rename_i id db hcreate
        rw [db_issue]
        exact .create hcreate
  | remember payment order provider =>
      rw [exec]
      split
      · exact hsame rfl
      · exact .of_payments (remember_spec s.db payment order provider).2.1
  | settle source payment provider order taken =>
      rw [exec]
      split
      · exact hsame rfl
      split
      · exact hsame rfl
      · rename_i d db hsettle
        rw [db_decided]
        exact (settleLocked_spec hsettle).keeps
  | switchMethod payment online =>
      rw [exec]
      split
      · exact hsame rfl
      split
      · exact hsame rfl
      · rename_i db hswitch
        exact keepsCompleted_switch hswitch
      · rename_i id db hswitch
        rw [db_issue]
        exact keepsCompleted_switch hswitch
  | retryIssue payment amountMinor =>
      rw [exec]
      split
      · exact hsame rfl
      split
      · exact hsame rfl
      · rename_i db hretry
        exact keepsCompleted_retry hretry
      · rename_i db hretry
        rw [db_issue]
        exact keepsCompleted_retry hretry
  | refundTaken payment order => exact hsame rfl
  | createRefund payment order taken amountMinor => exact hsame rfl
  | refundDone payment order refunded =>
      rw [exec]
      split
      · exact hsame rfl
      split
      · exact hsame rfl
      · rename_i db hrefund
        exact keepsCompleted_refund hrefund

lemma setBack_of_staleSave {o : PayOp} (h : StaleSave o e s) : ¬ NotSetBack s (exec o e s).2 := by
  cases o with
  | saveFailed p =>
      obtain ⟨hraises, q, hq, hstatus⟩ := h
      obtain ⟨db, hsave⟩ := s.db.save_of_ne_completed (p := { p with status := .failed }) (by simp)
      have hexec : (exec (.saveFailed p) e s).2.db = db := by
        simp only [exec, hraises, hsave, if_neg Bool.false_ne_true]
      intro hkept
      obtain ⟨p', hp', -, -, hfailed⟩ := hkept p.id q hq hstatus
      rw [hexec, Db.get?_save_self hsave rfl, Option.some.injEq] at hp'
      exact hfailed (hp' ▸ rfl)
  | saveIssued p amountMinor provider order =>
      obtain ⟨hraises, hfresh, q, hq, hstatus⟩ := h
      obtain ⟨db, hsave⟩ := s.db.save_of_ne_completed (p := issuedPayment p amountMinor provider order)
        (by simp [issuedPayment])
      have hexec : (exec (.saveIssued p amountMinor provider order) e s).2.db = db := by
        simp [exec, hraises, hfresh, hsave]
      have hget : db.payments.get? p.id = some (issuedPayment p amountMinor provider order) :=
        Db.get?_save_self hsave rfl
      intro hkept
      obtain ⟨p', hp', -, hprocessing, -⟩ := hkept p.id q hq hstatus
      rw [hexec, hget, Option.some.injEq] at hp'
      exact hprocessing (hp' ▸ rfl)
  | _ => exact absurd h id

end Operations

section Runs

variable {τ : Type} [DecidableEq τ]

def CompletedKept (p : PayPool τ) (m : PayMove τ) : Prop :=
  NotSetBack p.store (payStep p m).store

/-- No entry point saves its instance without a lock over a completed payment. -/
def NoStaleSave (p : PayPool τ) (m : PayMove τ) : Prop :=
  ∀ t e, m = .advance t e → ∀ a o k, p.threads t = some (a, .op o k) → ¬ StaleSave o e p.store

lemma db_capture (c : Capture) (s : World) : (capture c s).db = s.db := by
  rw [capture]
  split <;> rfl

/-- A move keeps the completed payments as they are unless it is a stale save. -/
theorem keepsCompleted_payStep {p : PayPool τ} {m : PayMove τ} (h : NoStaleSave p m) :
    p.store.db.KeepsCompleted (payStep p m).store.db := by
  cases m with
  | advance t e =>
      by_cases hrun : ∃ a o k, p.threads t = some (a, Prog.op o k)
      · obtain ⟨a, o, k, ht⟩ := hrun
        have hstore : (payStep p (.advance t e)).store = (exec o e p.store).2 := by
          simp [payStep, Pool.step, ht, Prog.next]
        rw [hstore]
        exact keepsCompleted_exec (h t e rfl a o k ht)
      · have hstore : (payStep p (.advance t e)).store = p.store :=
          Pool.store_step_advance_of_not_running fun a o k ht => hrun ⟨a, o, k, ht⟩
        rw [hstore]
        exact .refl _
  | start t a => exact .refl _
  | outside c => exact db_capture c p.store ▸ .refl _

lemma completedKept_iff {p : PayPool τ} {m : PayMove τ} : CompletedKept p m ↔ NoStaleSave p m := by
  constructor
  · rintro hkept t e rfl a o k ht hstale
    have hstore : (payStep p (.advance t e)).store = (exec o e p.store).2 := by
      simp [payStep, Pool.step, ht, Prog.next]
    rw [CompletedKept, hstore] at hkept
    exact setBack_of_staleSave hstale hkept
  · exact fun h => notSetBack_of_keepsCompleted (keepsCompleted_payStep h)

/-- Once a payment is completed no later state of the run has it set back. -/
def NeverSetBack (p : PayPool τ) (ms : List (PayMove τ)) : Prop :=
  ∀ as bs, as ++ bs <+: ms →
    NotSetBack (Transition.run payStep p as).store (Transition.run payStep p (as ++ bs)).store

/-- In every interleaving a completed payment is never set back exactly when no stale save
lands on one, and never is more than one payment of the trip completed. -/
theorem neverSetBack_iff_noStaleSave (p : PayPool τ) (ms : List (PayMove τ)) :
    (NeverSetBack p ms ↔ Transition.Guarded payStep NoStaleSave p ms) ∧
    ((Transition.run payStep p ms).store.db.payments.rows.filter
      fun q => q.status = .completed).length ≤ 1 := by
  refine ⟨⟨fun h => ?_, fun h as bs hprefix => ?_⟩, Db.length_completed_le_one _⟩
  · refine Transition.guarded_iff_forall_prefix.mpr fun as m hprefix => completedKept_iff.mp ?_
    have hkept := h as [m] hprefix
    rwa [Transition.run_append] at hkept
  · -- a completed payment stays as it is along the rest of the run
    have hguarded := (Transition.guarded_append.mp (h.of_prefix hprefix)).2
    have hkeeps : (Transition.run payStep p as).store.db.KeepsCompleted
        (Transition.run payStep p (as ++ bs)).store.db := by
      rw [Transition.run_append]
      exact Transition.relation_of_guarded (R := fun q q' => q.store.db.KeepsCompleted q'.store.db)
        (fun q => .refl _) (fun h h' => h.trans h') (fun q m hm => keepsCompleted_payStep hm) hguarded
    exact notSetBack_of_keepsCompleted hkeeps

end Runs

/-! ### A trip with two orders -/

/-- Everything is granted. -/
def granted : Choice where
  dbRaises := false
  gatewayUp := true
  namesPayment := false
  amountMinor := some 10000
  provider := .cashfree
  order := none

/-- A payment of a hundred rupees, waiting for its method. -/
def waiting : Payment where
  id := 1
  amountMinor := 10000
  method := .deferred
  status := .pending
  paymentGateway := .cashfree
  gatewayOrderId := none
  gatewayPaymentId := none
  cashfreeOrderId := none
  replacedBy := none

/-- The trip has ended and nothing has been paid. -/
def tripEnded : PayPool ℕ where
  threads := fun _ => none
  store :=
    { db := ⟨Table.empty.put waiting, by decide, .empty, 2⟩
      issued := fun _ => none
      amount := fun _ => 0
      captured := fun _ => none
      settled := []
      late := []
      told := [] }

/-- Thread `t` performs its next operations. -/
def goOn (t n : ℕ) : List (PayMove ℕ) := List.replicate n (.advance t granted)

def checkout (order : OrderId) : List (PayMove ℕ) :=
  .start 0 .createOrder :: List.replicate 6 (.advance 0 { granted with order := some order })

/-- The rider pays an order, and the webhook about it is handled. -/
def payWithWebhook (order : OrderId) (paymentId : PaymentId) : List (PayMove ℕ) :=
  [.outside ⟨order, paymentId⟩, .start 1 (.webhook .cashfree order paymentId)] ++ goOn 1 3

/-- Checkout is opened twice and the first order is paid; then the second is verified, which
was not paid. -/
def unpaidVerified : List (PayMove ℕ) :=
  checkout "A" ++ checkout "B" ++ payWithWebhook "A" "pay_A" ++
    [.start 2 (.verify "B" none false)] ++ goOn 2 2

/-- The order is paid while checkout is opened again: the payment has been loaded, and is
saved after the webhook. -/
def paidMeanwhile : List (PayMove ℕ) :=
  checkout "A" ++ (checkout "B").take 5 ++ payWithWebhook "A" "pay_A"

/-- The payment as the webhook left it. -/
def paidByA (own : OrderId) : Payment :=
  { waiting with
    method := .online
    status := .completed
    gatewayOrderId := some own
    cashfreeOrderId := some own
    gatewayPaymentId := some "pay_A" }

/-- A completed payment is set back by a verification of an order that was not paid, and by a
checkout opened at the same time. -/
theorem completed_set_back :
    ¬ NeverSetBack tripEnded (unpaidVerified ++ goOn 2 1) ∧
      ¬ NeverSetBack tripEnded
        (paidMeanwhile ++ [.advance 0 { granted with order := some "B" }]) := by
  constructor
  · intro h
    have hpaid : (Transition.run payStep tripEnded unpaidVerified).store.db.payments.get? 1
        = some (paidByA "A") := by decide
    have hfailed : (Transition.run payStep tripEnded
        (unpaidVerified ++ goOn 2 1)).store.db.payments.get? 1
        = some { paidByA "A" with status := .failed } := by decide
    obtain ⟨p, hget, -, -, hnot⟩ := h unpaidVerified _ List.prefix_rfl 1 _ hpaid rfl
    rw [hfailed, Option.some.injEq] at hget
    exact hnot (hget ▸ rfl)
  · intro h
    have hpaid : (Transition.run payStep tripEnded paidMeanwhile).store.db.payments.get? 1
        = some (paidByA "A") := by decide
    have hprocessing : ∀ p, (Transition.run payStep tripEnded
        (paidMeanwhile ++ [.advance 0 { granted with order := some "B" }])).store.db.payments.get? 1
        = some p → p.status = .processing := by decide
    obtain ⟨p, hget, -, hnot, -⟩ := h paidMeanwhile _ List.prefix_rfl 1 _ hpaid rfl
    exact hnot (hprocessing p hget)

end SaaradhiGo.Payments
