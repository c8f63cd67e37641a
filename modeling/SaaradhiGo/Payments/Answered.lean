/-
What a webhook or a verification leaves behind when it ends.

The accounts say what is never done with a capture.  Here it is shown that something is done:
a request that reports a capture, and whose decision the database does not refuse, ends with
the order settled or recorded late, whatever the other entry points do meanwhile.
-/
import SaaradhiGo.Payments.Accounted

namespace SaaradhiGo.Payments

open Interleave

/-! ## What no operation takes back -/

/-- The payments of `db` are still there. -/
def Db.KeepsRows (db db' : Db) : Prop :=
  ∀ i, (db.payments.get? i).isSome → (db'.payments.get? i).isSome

namespace Db.KeepsRows

variable {db db' db'' : Db} {p : Payment}

lemma refl (db : Db) : db.KeepsRows db := fun _ h => h

lemma trans (h : db.KeepsRows db') (h' : db'.KeepsRows db'') : db.KeepsRows db'' :=
  fun i hi => h' i (h i hi)

lemma of_payments (h : db'.payments = db.payments) : db.KeepsRows db' := fun _ hi => h ▸ hi

lemma save (h : db.save p = some db') : db.KeepsRows db' := by
  intro i hi
  rw [Db.get?_save h]
  split
  · rfl
  · exact hi

lemma create {id : ℕ} (h : db.create p = some (id, db')) : db.KeepsRows db' := by
  obtain ⟨-, saved, hsaved, hrows, -⟩ := Db.of_create h
  exact (save hsaved).trans (of_payments hrows)

lemma record {provider : Provider} {taken : Option PaymentId} {order : OrderId} {new : Bool}
    (h : record db p provider taken order = some (new, db')) : db.KeepsRows db' := by
  obtain ⟨-, hrows, -⟩ := remember_spec db p.id order provider
  rw [Payments.record] at h
  rcases hremember : remember db p.id order provider with ⟨row, db₁⟩
  rw [hremember] at h hrows
  dsimp only at h hrows
  split at h
  · cases h
    exact of_payments hrows
  split at h
  · cases h
    exact of_payments hrows
  split at h
  · cases h
  · obtain ⟨db₂, hsave, heq⟩ := Option.map_eq_some_iff.mp h
    cases heq
    intro i hi
    exact save hsave i (show (db₁.payments.get? i).isSome from hrows ▸ hi)

lemma recordLate {provider : Provider} {taken : Option PaymentId} {order : OrderId} {d : Decision}
    (h : recordLate db p provider taken order = some (d, db')) : db.KeepsRows db' := by
  obtain ⟨⟨new, db₁⟩, hrecord, heq⟩ := Option.map_eq_some_iff.mp h
  cases heq
  exact record hrecord

lemma failReplaced {i : ℕ} (h : failReplaced db i = some db') : db.KeepsRows db' := by
  rw [Payments.failReplaced] at h
  split at h
  · cases h
    exact refl db
  · exact save h

lemma settleLocked {source : Source} {i : ℕ} {provider : Provider} {order : OrderId}
    {taken : Option PaymentId} {d : Decision}
    (h : settleLocked source db i provider order taken = some (d, db')) : db.KeepsRows db' := by
  have hsave : ∀ q : Payment, ((db.save q).map fun db => (Decision.settled, db)) = some (d, db') →
      db.KeepsRows db' := by
    intro q hq
    obtain ⟨db₁, hsave, heq⟩ := Option.map_eq_some_iff.mp hq
    cases heq
    exact save hsave
  have hpoll : pollLocked db i provider order taken = some (d, db') → db.KeepsRows db' := by
    intro h
    rw [pollLocked] at h
    split at h
    · cases h
    split at h
    · cases h
      exact refl db
    split at h
    · exact recordLate h
    · exact hsave _ h
  cases source with
  | verify =>
      rw [Payments.settleLocked, verifyLocked] at h
      split at h
      · cases h
      split at h
      · exact recordLate h
      split at h
      · cases h
        exact refl db
      dsimp only at h
      split at h
      · exact recordLate h
      · obtain ⟨db₂, hbind, heq⟩ := Option.map_eq_some_iff.mp h
        -- the payment is saved, and then the one it replaces
        obtain ⟨db₁, hsaved, hfail⟩ := Option.bind_eq_some_iff.mp hbind
        cases heq
        exact (save hsaved).trans (failReplaced hfail)
  | webhook =>
      rw [Payments.settleLocked, webhookLocked] at h
      split at h
      · cases h
      split at h
      · exact recordLate h
      split at h
      · cases h
        exact refl db
      · exact hsave _ h
  | poll => exact hpoll h
  | recon => exact hpoll h

lemma switchLocked {i : ℕ} {terms : SwitchTerms} {new : Option ℕ}
    (h : switchLocked db i terms = some (new, db')) : db.KeepsRows db' := by
  rw [Payments.switchLocked] at h
  split at h
  · cases h
  split at h
  · cases h
    exact refl db
  obtain ⟨db₁, hsave, hrest⟩ := Option.bind_eq_some_iff.mp h
  split at hrest
  · cases hrest
    exact save hsave
  · obtain ⟨⟨newId, db₂⟩, hcreate, hrest⟩ := Option.bind_eq_some_iff.mp hrest
    obtain ⟨db₃, hsave₃, heq⟩ := Option.map_eq_some_iff.mp hrest
    cases heq
    exact ((save hsave).trans (create hcreate)).trans (save hsave₃)

lemma retryLocked {i : ℕ} {issued : Issued} {done : Bool}
    (h : retryLocked db i issued = some (done, db')) : db.KeepsRows db' := by
  rw [Payments.retryLocked] at h
  split at h
  · cases h
  split at h
  · cases h
    exact refl db
  · obtain ⟨db₁, hsave, heq⟩ := Option.map_eq_some_iff.mp h
    cases heq
    exact save hsave

lemma refundLocked {i : ℕ} {order : OrderId} {refunded : Bool}
    (h : refundLocked db i order refunded = some db') : db.KeepsRows db' := by
  obtain ⟨p, db₁, -, hpayments, -, hrest⟩ := refundLocked_spec h
  rcases hrest with ⟨-, hsave⟩ | rfl
  · exact (of_payments hpayments).trans (save hsave)
  · exact of_payments hpayments

end Db.KeepsRows

/-- What no operation takes back, orderly or not: captures, payments, and answers. -/
structure Stays (s s' : World) : Prop where
  captured : ∀ o c, s.captured o = some c → s'.captured o = some c
  rows : s.db.KeepsRows s'.db
  told : ∀ o ∈ s.told, o ∈ s'.told

namespace Stays

variable {s : World}

lemma refl (s : World) : Stays s s := ⟨fun _ _ h => h, .refl _, fun _ h => h⟩

lemma trans {s t u : World} (h : Stays s t) (h' : Stays t u) : Stays s u :=
  ⟨fun o c hc => h'.captured o c (h.captured o c hc), h.rows.trans h'.rows,
    fun o ho => h'.told o (h.told o ho)⟩

/-- A change of the payments that deletes none. -/
lemma withDb {db : Db} (h : s.db.KeepsRows db) : Stays s { s with db } :=
  ⟨fun _ _ h => h, h, fun _ h => h⟩

lemma withIssue {db : Db} {order : Option OrderId} {i : ℕ} {amountMinor : ℤ}
    (h : s.db.KeepsRows db) : Stays s ({ s with db }.issue order i amountMinor) :=
  ⟨fun _ _ h => h, h, fun _ h => h⟩

lemma tell (s : World) (order : OrderId) : Stays s (s.tell order) := by
  rw [World.tell]
  split
  · exact ⟨fun _ _ h => h, .refl _, fun _ h => List.mem_cons_of_mem _ h⟩
  · exact refl s

lemma decided (s : World) (source : Source) (order : OrderId) (taken : Option PaymentId)
    (d : Decision) : Stays s (s.decided source order taken d) := by
  have hanswer : ∀ s' : World, Stays s' (s'.answer source order) := by
    intro s'
    cases source with
    | verify => exact tell s' order
    | webhook => exact tell s' order
    | poll => exact refl s'
    | recon => exact refl s'
  cases d with
  | settled => exact (⟨fun _ _ h => h, .refl _, fun _ h => h⟩ : Stays s { s with
      settled := order :: s.settled }).trans (hanswer _)
  | late => exact (⟨fun _ _ h => h, .refl _, fun _ h => h⟩ : Stays s { s with
      late := (order, taken) :: s.late }).trans (hanswer _)
  | inHand => exact hanswer s
  | alreadyCompleted => exact hanswer s

lemma capture {order : OrderId} (paymentId : PaymentId) (hnone : s.captured order = none) :
    Stays s { s with captured := Function.update s.captured order (some paymentId) } := by
  refine ⟨fun o c hc => ?_, .refl _, fun _ h => h⟩
  have hne : o ≠ order := by
    rintro rfl
    rw [hnone] at hc
    cases hc
  simpa [hne] using hc

end Stays

lemma stays_exec (o : PayOp) (e : Choice) (s : World) : Stays s (exec o e s).2 := by
  have hsame := Stays.refl s
  cases o with
  | lookUp order paymentId =>
      rw [exec]
      split
      · exact .tell s order
      · split
        · exact .tell s order
        · exact hsame
  | find f => exact hsame
  | orderIds p => exact hsame
  | orderStatus order => exact hsame
  | confirm p order =>
      rw [exec]
      split
      · exact hsame
      · exact .tell s order
  | verifySignature order => exact hsame
  | ensureCaptured order paymentId =>
      rw [exec]
      split
      · exact hsame
      split
      · exact hsame
      · rename_i hnone
        split
        · -- an order is captured once: the one that is captured here was not
          exact .capture paymentId hnone
        · exact hsame
  | tripTerms => exact hsame
  | newOrder => exact hsame
  | saveFailed p =>
      rw [exec]
      split
      · exact hsame
      split
      · exact hsame
      · rename_i db hsave
        exact .withDb (.save hsave)
  | saveIssued p amountMinor provider order =>
      rw [exec]
      split
      · exact hsame
      split
      · exact hsame
      · rename_i db hsave
        exact (Stays.withIssue (.save hsave) :
          Stays s ({ s with db }.issue (some order) p.id amountMinor))
  | createIssued amountMinor provider order =>
      rw [exec]
      split
      · exact hsame
      split
      · exact hsame
      · rename_i id db hcreate
        exact (Stays.withIssue (.create hcreate) :
          Stays s ({ s with db }.issue (some order) id amountMinor))
  | remember payment order provider =>
      rw [exec]
      split
      · exact hsame
      · exact .withDb (.of_payments (remember_spec s.db payment order provider).2.1)
  | settle source payment provider order taken =>
      rw [exec]
      split
      · exact hsame
      split
      · exact hsame
      · rename_i d db hsettle
        exact (Stays.withDb (.settleLocked hsettle)).trans (.decided _ _ _ _ _)
  | switchMethod payment online =>
      rw [exec]
      split
      · exact hsame
      split
      · exact hsame
      · rename_i db hswitch
        exact .withDb (.switchLocked hswitch)
      · rename_i id db hswitch
        exact Stays.withIssue (.switchLocked hswitch)
  | retryIssue payment amountMinor =>
      rw [exec]
      split
      · exact hsame
      split
      · exact hsame
      · rename_i db hretry
        exact .withDb (.retryLocked hretry)
      · rename_i db hretry
        exact Stays.withIssue (.retryLocked hretry)
  | refundTaken payment order => exact hsame
  | createRefund payment order taken amountMinor => exact hsame
  | refundDone payment order refunded =>
      rw [exec]
      split
      · exact hsame
      split
      · exact hsame
      · rename_i db hrefund
        exact .withDb (.refundLocked hrefund)

lemma stays_capture (c : Capture) (s : World) : Stays s (capture c s) := by
  rw [capture]
  split
  · rename_i hfree
    rw [Bool.and_eq_true] at hfree
    exact .capture c.paymentId (by simpa using hfree.2)
  · exact .refl s

/-! ## A decision is made -/

section Made

variable {db : Db} {p : Payment} {i : ℕ} {provider : Provider} {order : OrderId}
  {taken : Option PaymentId}

lemma recordLate_isSome (hget : db.payments.get? p.id = some p ∨
      ∃ q, db.payments.get? p.id = some q ∧ q.status ≠ .completed) :
    (recordLate db p provider taken order).isSome := by
  obtain ⟨-, hrows, -⟩ := remember_spec db p.id order provider
  rw [recordLate, Option.isSome_map, record]
  rcases hremember : remember db p.id order provider with ⟨row, db₁⟩
  rw [hremember] at hrows
  dsimp only at hrows ⊢
  split
  · rfl
  split
  · rfl
  rename_i hopen
  obtain ⟨q, hq, hstatus⟩ : ∃ q, db.payments.get? p.id = some q ∧ q.status ≠ .completed := by
    rcases hget with hself | hother
    · exact ⟨p, hself, hopen⟩
    · exact hother
  split
  · rename_i hnone
    rw [hrows, hq] at hnone
    cases hnone
  · rename_i saved hsaved
    rw [hrows, hq, Option.some.injEq] at hsaved
    subst hsaved
    rw [Option.isSome_map]
    exact Option.isSome_iff_exists.mpr (Db.save_of_ne_completed hstatus)

lemma save_isSome_of_stands (hstands : superseded db p = false) {q : Payment}
    (hid : q.id = p.id) : (db.save q).isSome := by
  have hother : ∀ x ∈ db.payments.rows, x.id ≠ q.id → ∀ k, q.completedKey = some k →
      x.completedKey ≠ some k := by
    intro x hx hne k _ hkey
    rw [superseded, Bool.or_eq_false_iff, List.any_eq_false] at hstands
    have hstatus : x.status ≠ .completed := by
      intro hc
      exact hstands.2 x hx (by simpa [hc] using hid ▸ hne)
    rw [Payment.completedKey, if_neg hstatus] at hkey
    cases hkey
  rw [Db.save, dif_pos (db.oneCompleted.put_of_forall hother)]
  rfl

lemma failReplaced_isSome (db : Db) (i : ℕ) : (failReplaced db i).isSome := by
  rw [failReplaced]
  split
  · rfl
  · exact Option.isSome_iff_exists.mpr (Db.save_of_ne_completed (by simp))

lemma settleLocked_isSome (source : Source) (hget : db.payments.get? i = some p) :
    (settleLocked source db i provider order taken).isSome := by
  have hid : p.id = i := Table.pk_of_get? hget
  have hself : db.payments.get? p.id = some p := hid ▸ hget
  have hpoll : (pollLocked db i provider order taken).isSome := by
    rw [pollLocked, hget]
    dsimp only
    split
    · rfl
    split
    · exact recordLate_isSome (.inl hself)
    · rename_i hstands
      rw [Option.isSome_map]
      exact save_isSome_of_stands (p := p) (by simpa using hstands) rfl
  cases source with
  | verify =>
      rw [settleLocked, verifyLocked, hget]
      dsimp only
      split
      · exact recordLate_isSome (.inl hself)
      split
      · rfl
      rename_i hopen
      split
      · exact recordLate_isSome (p := { p with gatewayPaymentId := taken })
          (.inr ⟨p, hself, hopen⟩)
      · rename_i hstands
        have hcompletes : (db.save { settledBy { p with gatewayPaymentId := taken } order with
            status := .completed }).isSome :=
          save_isSome_of_stands (p := { p with gatewayPaymentId := taken }) (by simpa using hstands) rfl
        obtain ⟨db₁, hsave⟩ := Option.isSome_iff_exists.mp hcompletes
        rw [Option.isSome_map, hsave, Option.bind_some]
        exact failReplaced_isSome db₁ p.id
  | webhook =>
      rw [settleLocked, webhookLocked, hget]
      dsimp only
      split
      · exact recordLate_isSome (.inl hself)
      rename_i hnot
      split
      · rfl
      rename_i hopen
      rw [Option.isSome_map]
      have hstands : isLateCapture p order taken = false ∧ superseded db p = false := by
        simpa [hopen] using hnot
      exact save_isSome_of_stands hstands.2 rfl
  | poll => exact hpoll
  | recon => exact hpoll

end Made

/-! ## Requests that report a capture -/

/-- The request reports the capture on the order: a webhook about it, or a verification, with
the gateway payment that was captured and its signature, or with no gateway payment. -/
def Reports (order : OrderId) (s : World) : Request → Prop
  | .webhook _ o _ => o = order
  | .verify o paymentId signed =>
      o = order ∧ (paymentId = none ∨ (paymentId = s.captured order ∧ signed = true))
  | _ => False

/-- The operation of a request is served: the database does not raise at the decision, the
gateway answers a verification, and only an order of Cashfree is verified without a gateway
payment. -/
def ServedOp (a : Request) : PayOp → Choice → World → Prop
  | .lookUp order paymentId, _, s => (∃ signed, a = .verify order none signed) →
      paymentId = none → ∀ p, paymentForOrder s.db order = some p → p.paymentGateway = .cashfree
  | .verifySignature _, e, _ => e.gatewayUp = true ∧ e.amountMinor.isSome
  | .ensureCaptured _ _, e, _ => e.gatewayUp = true
  | .settle _ _ _ _ _, e, _ => e.dbRaises = false
  | _, _, _ => True

section Ends

variable {a : Request} {order : OrderId} {s : World}

def Ends (a : Request) (order : OrderId) (q : Entry) (s : World) : Prop :=
  Prog.wp exec (fun o e s => OrderlyOp o e s ∧ Accounts s ∧ ServedOp a o e s) (fun _ => Stays)
    (fun _ _ _ => True) q (fun _ s => order ∈ s.told) s

lemma ends_op {o : PayOp} {k : PayAns o → Entry}
    (hk : ∀ s₁ e, Stays s s₁ → OrderlyOp o e s₁ → Accounts s₁ → ServedOp a o e s₁ →
      Ends a order (k (exec o e s₁).1) (exec o e s₁).2) : Ends a order (.op o k) s :=
  fun s₁ hstays e ⟨horderly, hacc, hserved⟩ => ⟨trivial, hk s₁ e hstays horderly hacc hserved⟩

/-- An answer is not taken back. -/
lemma ends_of_told {q : Entry} (h : order ∈ s.told) : Ends a order q s := by
  induction q generalizing s with
  | ret r => exact fun s₁ hstays => hstays.told order h
  | op o k ih =>
      exact ends_op fun s₁ e hstays _ _ _ =>
        ih _ ((stays_exec o e s₁).told order (hstays.told order h))

lemma mem_told_tell (h : (s.captured order).isSome) : order ∈ (s.tell order).told := by
  rw [World.tell, if_pos h]
  exact List.mem_cons_self

lemma ends_settleThen {source : Source} {i : ℕ} {provider : Provider} {taken : Option PaymentId}
    {k : Bool → Entry} (hsource : source = .verify ∨ source = .webhook)
    (hcaptured : (s.captured order).isSome) (hrow : (s.db.payments.get? i).isSome) :
    Ends a order (settleThen source i provider order taken k) s := by
  refine ends_op fun s₁ e hstays _ _ hserved => ends_of_told ?_
  obtain ⟨c, hc⟩ := Option.isSome_iff_exists.mp hcaptured
  obtain ⟨p, hp⟩ := Option.isSome_iff_exists.mp (hstays.rows i hrow)
  have hdecided : (settleLocked source s₁.db i provider order taken).isSome :=
    settleLocked_isSome source hp
  obtain ⟨⟨d, db⟩, hsettle⟩ := Option.isSome_iff_exists.mp hdecided
  have hraises : ¬ e.dbRaises = true := by simpa [ServedOp] using hserved
  have hcaptured₁ : (s₁.captured order).isSome := by
    rw [hstays.captured order c hc]
    rfl
  have hanswer : ∀ s' : World, s'.captured = s₁.captured → order ∈ (s'.answer source order).told := by
    intro s' hs'
    rcases hsource with rfl | rfl
    · exact mem_told_tell (hs' ▸ hcaptured₁)
    · exact mem_told_tell (hs' ▸ hcaptured₁)
  rw [exec, if_neg hraises, hsettle]
  cases d with
  | settled => exact hanswer _ rfl
  | late => exact hanswer _ rfl
  | inHand => exact hanswer _ rfl
  | alreadyCompleted => exact hanswer _ rfl

/-- A look-up ends the matter with an answer, or finds a payment of the trip. -/
lemma ends_lookUp {paymentId : Option PaymentId} {k : LookUp → Entry}
    (hcaptured : (s.captured order).isSome)
    (hk : ∀ s₁ p, Stays s s₁ → paymentForOrder s₁.db order = some p →
      (s₁.db.payments.get? p.id).isSome →
      ((∃ signed, a = .verify order none signed) → paymentId = none →
        p.paymentGateway = .cashfree) → Ends a order (k (.found p)) s₁) :
    Ends a order (.op (.lookUp order paymentId) k) s := by
  refine ends_op fun s₁ e hstays _ hacc hserved => ?_
  obtain ⟨c, hc⟩ := Option.isSome_iff_exists.mp hcaptured
  have hcaptured₁ : (s₁.captured order).isSome := by
    rw [hstays.captured order c hc]
    rfl
  rw [exec]
  split
  · exact ends_of_told (mem_told_tell hcaptured₁)
  · rename_i p hfound
    split
    · exact ends_of_told (mem_told_tell hcaptured₁)
    · have hget := (hacc.filed.issued_of_paymentForOrder hfound).1
      exact hk s₁ p hstays hfound (by rw [hget]; rfl) fun hverify hnone =>
        hserved hverify hnone p hfound

lemma ends_handleWebhook {provider : Provider} {paymentId : Option PaymentId}
    (hcaptured : (s.captured order).isSome) :
    Ends a order (handleWebhook provider order paymentId) s := by
  refine ends_lookUp hcaptured fun s₁ p hstays _ hrow _ => ?_
  refine ends_op fun s₂ e hstays₂ _ _ _ => ?_
  obtain ⟨c, hc⟩ := Option.isSome_iff_exists.mp hcaptured
  have hc₂ : (s₂.captured order).isSome := by
    rw [hstays₂.captured order c (hstays.captured order c hc)]
    rfl
  have hanswers : exec (.confirm p order) e s₂ = (true, s₂) ∨
      exec (.confirm p order) e s₂ = (false, s₂.tell order) := by
    rw [exec]
    split
    · exact .inl rfl
    · exact .inr rfl
  rcases hanswers with htrue | hfalse
  · rw [htrue]
    exact ends_settleThen (.inr rfl) hc₂ (hstays₂.rows p.id hrow)
  · rw [hfalse]
    exact ends_of_told (mem_told_tell hc₂)

lemma ends_verifyPayment {paymentId : Option PaymentId} {signed : Bool}
    (ha : a = .verify order paymentId signed) (hcaptured : (s.captured order).isSome)
    (hreports : paymentId = none ∨ (paymentId = s.captured order ∧ signed = true)) :
    Ends a order (verifyPayment order paymentId signed) s := by
  refine ends_lookUp hcaptured fun s₁ p hstays _ hrow hcashfree => ?_
  obtain ⟨c, hc⟩ := Option.isSome_iff_exists.mp hcaptured
  have hc₁ := hstays.captured order c hc
  cases hgateway : p.paymentGateway with
  | razorpay =>
      rcases hreports with rfl | ⟨rfl, rfl⟩
      · rw [hcashfree ⟨signed, ha⟩ rfl] at hgateway
        cases hgateway
      · -- the captured payment is confirmed
        simp only [hgateway, hc, if_true]
        refine ends_op fun s₂ e hstays₂ _ _ hserved => ?_
        have hc₂ := hstays₂.captured order c hc₁
        have hup : e.gatewayUp = true := hserved
        have htrue : exec (.ensureCaptured order c) e s₂ = (true, s₂) := by
          simp [exec, hup, hc₂]
        rw [htrue]
        exact ends_settleThen (.inl rfl) (by rw [hc₂]; rfl) (hstays₂.rows p.id hrow)
  | cashfree =>
      simp only [hgateway]
      refine ends_op fun s₂ e hstays₂ _ _ hserved => ?_
      have hc₂ := hstays₂.captured order c hc₁
      obtain ⟨hup, hamount⟩ := hserved
      obtain ⟨amount, hamount⟩ := Option.isSome_iff_exists.mp hamount
      have htrue : exec (.verifySignature order) e s₂ = (some true, s₂) := by
        simp [exec, hup, hc₂, hamount]
      rw [htrue]
      exact ends_settleThen (.inl rfl) (by rw [hc₂]; rfl) (hstays₂.rows p.id hrow)

/-- A request that reports a capture ends with the order answered for. -/
theorem ends_entry (hcaptured : (s.captured order).isSome) (h : Reports order s a) :
    Ends a order (entry a s) s := by
  cases a with
  | webhook provider o paymentId =>
      cases h
      exact ends_handleWebhook hcaptured
  | verify o paymentId signed =>
      obtain ⟨rfl, hreports⟩ := h
      exact ends_verifyPayment rfl hcaptured hreports
  | poll => exact h.elim
  | reconcile payment => exact h.elim
  | createOrder => exact h.elim
  | switchMethod online => exact h.elim
  | retry => exact h.elim

end Ends

/-! ## Every orderly interleaving -/

section Runs

variable {τ : Type} [DecidableEq τ]

/-- The move leaves thread `t` with its request, and serves the operation it performs. -/
def Serves (t : τ) (a : Request) (p : PayPool τ) : PayMove τ → Prop
  | .advance t' e => t' = t → ∀ o ∈ nextOp (p.threads t), ServedOp a o e p.store
  | .start t' _ => t' ≠ t
  | .outside _ => True

/-- Every webhook and every verification that reports a capture made by then, and that is
served to its end, leaves the order settled or recorded late, once and not both. -/
def CapturesAnswered (p : PayPool τ) (ms : List (PayMove τ)) : Prop :=
  ∀ ms₁ t a ms₂ order, ms = ms₁ ++ .start t a :: ms₂ →
    ((Transition.run payStep p ms₁).store.captured order).isSome →
    Reports order (Transition.run payStep p ms₁).store a →
    Transition.Guarded payStep (Serves t a) (Transition.run payStep p (ms₁ ++ [.start t a])) ms₂ →
    (Transition.run payStep p ms).threads t = some (a, .ret ()) →
    (Transition.run payStep p ms).store.settled.count order +
      (Transition.run payStep p ms).store.lateOrders.count order = 1

/-- The accounts are kept, and what is left of the request of thread `t` ends with the order
answered for. -/
structure Pending (t : τ) (a : Request) (order : OrderId) (p : PayPool τ) : Prop where
  accounts : Accounts p.store ∧ accounting.AllSound p
  ends : ∃ q, p.threads t = some (a, q) ∧ Ends a order q p.store

lemma accounts_payStep {p : PayPool τ} {m : PayMove τ} (horderly : Orderly p m)
    (h : Accounts p.store ∧ accounting.AllSound p) :
    Accounts (payStep p m).store ∧ accounting.AllSound (payStep p m) :=
  Discipline.invariant_payStep p m (meeting_of_orderly horderly) h

lemma stays_payStep (p : PayPool τ) (m : PayMove τ) : Stays p.store (payStep p m).store :=
  have hmeets : Pool.Meets (fun _ _ _ => True) p m := by cases m <;> simp [Pool.Meets]
  Pool.store_rel_step (I := fun _ => True) Stays.refl (fun o e s _ _ => stays_exec o e s)
    (fun c s _ => stays_capture c s) hmeets trivial

lemma Pending.step {t : τ} {a : Request} {order : OrderId} {p : PayPool τ} {m : PayMove τ}
    (h : Pending t a order p) (horderly : Orderly p m) (hserves : Serves t a p m) :
    Pending t a order (payStep p m) := by
  refine ⟨accounts_payStep horderly h.accounts, ?_⟩
  obtain ⟨q, ht, hq⟩ := h.ends
  have hother : (payStep p m).threads t = p.threads t →
      ∃ q, (payStep p m).threads t = some (a, q) ∧ Ends a order q (payStep p m).store :=
    fun hsame => ⟨q, hsame.trans ht,
      Prog.wp_stable (fun _ _ _ _ h h' => h.trans h') hq (stays_payStep p m)⟩
  cases m with
  | advance t' e =>
      -- the thread itself takes its next step, or another one leaves it as it is
      by_cases htt : t' = t
      · subst htt
        cases q with
        | ret r =>
            refine hother ?_
            simp [payStep, Pool.step, ht, Prog.next]
        | op o k =>
            have hnext : nextOp (p.threads t') = some o := by rw [ht]; rfl
            -- the step meets what the program's guarantee asks of it
            have hstep := (hq p.store (.refl _) e
              ⟨horderly o hnext, h.accounts.1, hserves rfl o hnext⟩).2
            refine ⟨k (exec o e p.store).1, ?_, ?_⟩
            · simp only [payStep, Pool.step, ht, Prog.next, Function.update_self]
            · have hstore : (payStep p (.advance t' e)).store = (exec o e p.store).2 := by
                simp [payStep, Pool.step, ht, Prog.next]
              rw [hstore]
              exact hstep
      · refine hother ?_
        rcases hp : p.threads t' with _ | ⟨a', q'⟩ <;>
          simp [payStep, Pool.step, hp, Ne.symm htt]
  | start t' a' =>
      refine hother ?_
      simp [payStep, Pool.step, Ne.symm hserves]
  | outside c => exact hother rfl

/-- A request that is served along an orderly run to its end has its order answered for. -/
lemma Pending.told {t : τ} {a : Request} {order : OrderId} {p : PayPool τ} {ms : List (PayMove τ)}
    (h : Pending t a order p) (horderly : Transition.Guarded payStep Orderly p ms)
    (hserves : Transition.Guarded payStep (Serves t a) p ms)
    (hend : (Transition.run payStep p ms).threads t = some (a, .ret ())) :
    Accounts (Transition.run payStep p ms).store ∧
      order ∈ (Transition.run payStep p ms).store.told := by
  induction ms generalizing p with
  | nil =>
      obtain ⟨q, ht, hq⟩ := h.ends
      rw [Transition.run_nil] at hend
      rw [hend, Option.some.injEq, Prod.mk.injEq] at ht
      obtain ⟨-, rfl⟩ := ht
      exact ⟨h.accounts.1, hq p.store (.refl _)⟩
  | cons m ms ih =>
      exact ih (h.step horderly.1 hserves.1) horderly.2 hserves.2 hend

/-- In every interleaving whose moves are orderly no capture is counted twice, none is refunded
before the trip was paid by another, and what is reported is settled or recorded late. -/
theorem captures_accounted_of_orderly_run {p : PayPool τ} {ms : List (PayMove τ)}
    (hp : Unpaid p) (h : Transition.Guarded payStep Orderly p ms) :
    CapturesAccounted (Transition.run payStep p ms).store ∧
      Transition.Guarded payStep RefundSafe p ms ∧ CapturesAnswered p ms := by
  have hstart : Accounts p.store ∧ accounting.AllSound p :=
    ⟨hp.accounts, Discipline.allSound_idle accounting hp.idle⟩
  have hstep : ∀ (q : PayPool τ) m, Orderly q m → Accounts q.store ∧ accounting.AllSound q →
      Accounts (payStep q m).store ∧ accounting.AllSound (payStep q m) :=
    fun q m horderly hI => accounts_payStep horderly hI
  refine ⟨?_, ?_, ?_⟩
  · exact (Transition.invariant_of_guarded hstep hstart h).1.capturesAccounted
  · exact Transition.guarded_of_invariant hstep
      (fun p m horderly hI => refundSafe_of_orderly horderly hI) hstart h
  · rintro ms₁ t a ms₂ order rfl hcaptured hreports hserves hend
    obtain ⟨hbefore, hhere, hafter⟩ := Transition.guarded_append.mp h
    have hmid := Transition.invariant_of_guarded hstep hstart hbefore
    have hpending : Pending t a order (payStep (Transition.run payStep p ms₁) (.start t a)) :=
      ⟨accounts_payStep hhere hmid, entry a (Transition.run payStep p ms₁).store,
        by simp [payStep, Pool.step], ends_entry hcaptured hreports⟩
    rw [Transition.run_append] at hserves hend ⊢
    obtain ⟨hacc, htold⟩ := hpending.told hafter hserves hend
    exact hacc.count_of_told htold

end Runs

/-! ### Late, failed and forgotten -/

/-- Thread `t` verifies an order that has not been paid. -/
def verifyUnpaid (t : ℕ) (order : OrderId) : List (PayMove ℕ) :=
  .start t (.verify order none false) :: goOn t 3

/-- The rider retries, and is issued an order after `n` operations. -/
def retryWith (n : ℕ) (order : OrderId) : List (PayMove ℕ) :=
  .start 3 .retry :: List.replicate n (.advance 3 { granted with order := some order })

/-- Both orders of a checkout that was opened twice are paid. -/
def paidTwice : List (PayMove ℕ) :=
  checkout "A" ++ checkout "B" ++ payWithWebhook "A" "pay_A" ++ payWithWebhook "B" "pay_B" ++
    goOn 1 3

/-- The rider pays an order after it was verified too early. -/
def paidAfterVerify : List (PayMove ℕ) :=
  checkout "A" ++ verifyUnpaid 2 "A" ++ payWithWebhook "A" "pay_A" ++ goOn 1 1

/-- The rider retries twice, and pays the order of the first retry. -/
def paidFirstRetry : List (PayMove ℕ) :=
  checkout "A" ++ verifyUnpaid 2 "A" ++ retryWith 6 "B" ++ verifyUnpaid 2 "B" ++
    retryWith 7 "C" ++ payWithWebhook "B" "pay_B"

/-- The second of two orders that were paid is recorded late and refunded. -/
theorem paidTwice_accounted :
    (CapturesAccounted (Transition.run payStep tripEnded paidTwice).store ∧
      Transition.Guarded payStep RefundSafe tripEnded paidTwice ∧
        CapturesAnswered tripEnded paidTwice) ∧
      (Transition.run payStep tripEnded paidTwice).store.settled = ["A"] ∧
        (Transition.run payStep tripEnded paidTwice).store.lateOrders = ["B"] := by
  refine ⟨captures_accounted_of_orderly_run ?_ ?_, ?_, ?_⟩
  · exact ⟨rfl, by decide, rfl, rfl, rfl, rfl⟩
  · decide
  · decide
  · decide

lemma serves_webhook {t : ℕ} {provider : Provider} {order : OrderId} {paymentId : Option PaymentId}
    (p : PayPool ℕ) (t' : ℕ) :
    Serves t (.webhook provider order paymentId) p (.advance t' granted) := by
  intro _ o _
  cases o with
  | lookUp order' paymentId' =>
      rintro ⟨signed, hverify⟩
      cases hverify
  | verifySignature order' => exact ⟨rfl, rfl⟩
  | ensureCaptured order' paymentId' => exact rfl
  | settle source i provider' order' taken => exact rfl
  | _ => trivial

/-- An order that was verified too early is refunded while nothing has paid the trip, and one
that was forgotten is neither settled nor recorded. -/
theorem captures_not_accounted :
    ¬ Transition.Guarded payStep RefundSafe tripEnded (paidAfterVerify ++ goOn 1 1) ∧
      ¬ CapturesAnswered tripEnded paidFirstRetry := by
  constructor
  · intro h
    have hsafe := (Transition.guarded_append.mp h).2.1
    have hnext : nextOp ((Transition.run payStep tripEnded paidAfterVerify).threads 1) =
        some (.createRefund 1 "A" "pay_A" 10000) := by decide
    have hunpaid : ¬ (Transition.run payStep tripEnded paidAfterVerify).store.db.HasCompleted := by
      decide
    exact hunpaid (hsafe 1 granted rfl 1 "A" "pay_A" 10000 hnext).1
  · intro h
    have hone := h (checkout "A" ++ verifyUnpaid 2 "A" ++ retryWith 6 "B" ++ verifyUnpaid 2 "B" ++
        retryWith 7 "C" ++ [.outside ⟨"B", "pay_B"⟩]) 1 (.webhook .cashfree "B" "pay_B")
      (goOn 1 3) "B" (by simp [paidFirstRetry, payWithWebhook]) (by decide) rfl
      ⟨serves_webhook _ _, serves_webhook _ _, serves_webhook _ _, trivial⟩ ?_
    · revert hone
      decide
    · rfl

end SaaradhiGo.Payments
