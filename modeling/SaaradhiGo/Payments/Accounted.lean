/-
Every capture is accounted for, in every orderly interleaving.

The entry points keep the accounts of the captures by what each of them knows at each of its
operations: that the order it decides was issued to the payment it locks, that the payment it
saves names its own orders, that the refund it makes is of an order recorded late.  What it
knows nothing takes back, so the knowledge survives the interference of the others.
-/
import SaaradhiGo.Payments.Captures
import SaaradhiGo.Payments.Walk

namespace SaaradhiGo.Payments

open Interleave

/-! ## The condition -/

/-- What an orderly decision finds of the payment and of the order. -/
structure InOrder (s : World) (p : Payment) (order : OrderId) (taken : Option PaymentId) :
    Prop where
  /-- A payment that failed, was refunded or was replaced is decided about once the trip has a
  completed payment. -/
  stands : p.status = .failed ∨ p.status = .refunded ∨ p.replacedBy.isSome →
    s.db.HasCompleted
  /-- The order a completed payment names is reported with its gateway payment. -/
  same : p.status = .completed → order ∈ p.own →
    taken = none ∨ p.gatewayPaymentId = none ∨ taken = p.gatewayPaymentId
  again : ∀ row, s.db.orders.get? order = some row → row.lateRefund ≠ .none →
    taken = none ∨ taken = row.latePaymentId
  id : s.db.HasCompleted → (p.status = .completed → order ∉ p.own) →
    taken = none ∨ taken = s.captured order

/-- The operation is orderly: no stale save lands, a captured order is found by its row or by
the payment that names it, the gateway has the payment's amount for it, and the statuses and
gateway payments at a decision are in order.  The poll and the reconciliation leave a completed
payment alone. -/
def OrderlyOp (o : PayOp) (e : Choice) (s : World) : Prop :=
  ¬ StaleSave o e s ∧
    match o with
    | .lookUp order _ => (s.captured order).isSome → (paymentForOrder s.db order).isSome
    | .confirm p order => (s.captured order).isSome →
        e.gatewayUp = true ∧ e.amountMinor = some p.amountMinor
    | .settle source i _ order taken => ∀ p, s.db.payments.get? i = some p →
        (p.status = .completed → source = .verify ∨ source = .webhook) → InOrder s p order taken
    | .refundTaken i order => ∀ p, s.db.payments.get? i = some p → p.amountMinor = s.amount order
    | _ => True

instance (db : Db) (i : ℕ) : Decidable (db.Completed i) :=
  decidable_of_iff ((db.payments.get? i).any fun p => p.status = .completed) <| by
    simp [Db.Completed, Option.any_eq_true]

instance (o : PayOp) (e : Choice) (s : World) : Decidable (StaleSave o e s) :=
  match o with
  | .saveFailed p => inferInstanceAs (Decidable (e.dbRaises = false ∧ s.db.Completed p.id))
  | .saveIssued p _ _ order => inferInstanceAs
      (Decidable (e.dbRaises = false ∧ s.fresh (some order) = true ∧ s.db.Completed p.id))
  | .lookUp .. | .find .. | .orderIds .. | .orderStatus .. | .confirm .. | .verifySignature ..
  | .ensureCaptured .. | .tripTerms | .newOrder | .createIssued .. | .remember .. | .settle ..
  | .switchMethod .. | .retryIssue .. | .refundTaken .. | .createRefund .. | .refundDone .. =>
      inferInstanceAs (Decidable False)

instance (s : World) (p : Payment) (order : OrderId) (taken : Option PaymentId) :
    Decidable (InOrder s p order taken) :=
  decidable_of_iff
    ((p.status = .failed ∨ p.status = .refunded ∨ p.replacedBy.isSome → s.db.HasCompleted) ∧
      (p.status = .completed → order ∈ p.own →
        taken = none ∨ p.gatewayPaymentId = none ∨ taken = p.gatewayPaymentId) ∧
      (∀ row ∈ s.db.orders.get? order, row.lateRefund ≠ .none →
        taken = none ∨ taken = row.latePaymentId) ∧
      (s.db.HasCompleted → (p.status = .completed → order ∉ p.own) →
        taken = none ∨ taken = s.captured order))
    ⟨fun ⟨stands, same, again, id⟩ => ⟨stands, same, again, id⟩,
      fun ⟨stands, same, again, id⟩ => ⟨stands, same, again, id⟩⟩

instance (o : PayOp) (e : Choice) (s : World) : Decidable (OrderlyOp o e s) :=
  @instDecidableAnd _ _ inferInstance <|
    match o with
    | .lookUp order _ => inferInstanceAs
        (Decidable ((s.captured order).isSome → (paymentForOrder s.db order).isSome))
    | .confirm p order => inferInstanceAs (Decidable ((s.captured order).isSome →
        e.gatewayUp = true ∧ e.amountMinor = some p.amountMinor))
    | .settle source i _ order taken => inferInstanceAs
        (Decidable (∀ p ∈ s.db.payments.get? i,
          (p.status = .completed → source = .verify ∨ source = .webhook) →
            InOrder s p order taken))
    | .refundTaken i order => inferInstanceAs
        (Decidable (∀ p ∈ s.db.payments.get? i, p.amountMinor = s.amount order))
    | .find .. | .orderIds .. | .orderStatus .. | .verifySignature .. | .ensureCaptured ..
    | .tripTerms | .newOrder | .saveFailed .. | .saveIssued .. | .createIssued .. | .remember ..
    | .switchMethod .. | .retryIssue .. | .createRefund .. | .refundDone .. =>
        inferInstanceAs (Decidable True)

lemma rightlyLate_of_inOrder {s : World} {source : Source} {p : Payment} {order : OrderId}
    {taken : Option PaymentId} {i : ℕ} (hget : s.db.payments.get? i = some p)
    (h : (p.status = .completed → source = .verify ∨ source = .webhook) → InOrder s p order taken)
    (hlate : recordsLate source s.db p order taken = true) : RightlyLate s p order taken := by
  have hmem : p ∈ s.db.payments.rows := (Table.mem_of_get? hget).1
  have hsource : p.status = .completed → source = .verify ∨ source = .webhook := by
    intro hcompleted
    unfold recordsLate at hlate
    cases source <;> simp [hcompleted] at hlate ⊢
  have horder := h hsource
  by_cases hcompleted : p.status = .completed
  · -- a completed payment is late for another order only
    have hpaid : s.db.HasCompleted := ⟨p, hmem, hcompleted⟩
    have hcapture : isLateCapture p order taken = true := by
      unfold recordsLate at hlate
      rcases hsource hcompleted with rfl | rfl <;> simpa [hcompleted] using hlate
    have hother : order ∉ p.own := by
      intro hown
      rw [isLateCapture] at hcapture
      rcases horder.same hcompleted hown with hnone | hnone | heq
      · simp [hown, hnone] at hcapture
      · simp [hown, hnone] at hcapture
      · simp [hown, heq] at hcapture
    exact
      { paid := hpaid
        other := fun _ => hother
        again := fun row hrow hne => by
          rcases horder.again row hrow hne with htaken | htaken <;>
            simp [PaymentOrder.inHand, hne, htaken]
        id := fun _ => horder.id hpaid fun _ => hother }
  · have hpaid : s.db.HasCompleted := by
      have hsuper : superseded s.db p = true := by
        unfold recordsLate at hlate
        rw [Bool.or_eq_true] at hlate
        rcases hlate with hopen | hlate
        · rw [Bool.and_eq_true] at hopen
          exact hopen.2
        · cases source <;> simp [isLateCapture, hcompleted] at hlate
      rw [superseded] at hsuper
      simp only [Bool.or_eq_true, decide_eq_true_eq, List.any_eq_true, Bool.and_eq_true] at hsuper
      rcases hsuper with ((hfailed | hrefunded) | hreplaced) | ⟨q, hq, hstatus, -⟩
      · exact horder.stands (.inl hfailed)
      · exact horder.stands (.inr (.inl hrefunded))
      · exact horder.stands (.inr (.inr hreplaced))
      · exact ⟨q, hq, hstatus⟩
    exact
      { paid := hpaid
        other := fun hc => absurd hc hcompleted
        again := fun row hrow hne => by
          rcases horder.again row hrow hne with htaken | htaken <;>
            simp [PaymentOrder.inHand, hne, htaken]
        id := fun _ => horder.id hpaid fun hc => absurd hc hcompleted }

/-- What an entry point knows when it comes to an operation. -/
def Knows : PayOp → World → Prop
  | .saveFailed p, s => ∀ o ∈ p.own, s.issued o = some p.id
  | .remember i order _, s => s.issued order = some i
  | .settle _ i _ order _, s => s.issued order = some i
  | .createRefund _ order _ amountMinor, s =>
      s.db.HasCompleted ∧ order ∈ s.lateOrders ∧ (s.issued order).isSome ∧
        amountMinor = s.amount order
  | .refundDone _ order _, s => order ∈ s.lateOrders
  | _, _ => True

lemma Knows.grows {o : PayOp} {s s' : World} (h : Knows o s) (hgrows : Grows s s') : Knows o s' := by
  cases o with
  | saveFailed p => exact fun o ho => hgrows.issued o _ (h o ho)
  | remember i order provider => exact hgrows.issued order i h
  | settle source i provider order taken => exact hgrows.issued order i h
  | createRefund i order taken amountMinor =>
      obtain ⟨hhas, hlate, hissued, hamount⟩ := h
      obtain ⟨j, hj⟩ := Option.isSome_iff_exists.mp hissued
      exact ⟨hgrows.hasCompleted hhas, hgrows.late order hlate, by rw [hgrows.issued order j hj]; rfl,
        hamount.trans (hgrows.amount order hissued).symm⟩
  | refundDone i order refunded => exact hgrows.late order h
  | _ => trivial

/-! ## The operations -/

section Operations

variable {s : World} {e : Choice}

lemma Accounts.filed (h : Accounts s) : Filed s := ⟨h.own, h.rows⟩

lemma own_switchedPayment {terms : SwitchTerms} {p : Payment} (h : switchedPayment terms = some p) :
    (∀ o ∈ p.own, terms.order = some o) ∧ p.status ≠ .completed := by
  cases terms with
  | refused => cases h
  | cash amountMinor =>
      cases h
      simp [Payment.mem_own]
  | online amountMinor issued =>
      cases h
      simp [Payment.mem_own, SwitchTerms.order]

lemma Accounts.switch (h : Accounts s) {i : ℕ} {terms : SwitchTerms} {new : Option ℕ} {db : Db}
    (hfresh : s.fresh terms.order = true)
    (hswitch : switchLocked s.db i terms = some (new, db)) :
    Accounts (new.elim { s with db } fun id =>
        { s with db }.issue terms.order id terms.amountMinor) ∧
      Grows s (new.elim { s with db } fun id =>
        { s with db }.issue terms.order id terms.amountMinor) := by
  rw [switchLocked] at hswitch
  split at hswitch
  · cases hswitch
  rename_i p hget
  have hid : p.id = i := Table.pk_of_get? hget
  split at hswitch
  · cases hswitch
    exact ⟨h, .refl s⟩
  rename_i hopen
  obtain ⟨db₁, hsave₁, hrest⟩ := Option.bind_eq_some_iff.mp hswitch
  have hnot : ¬ s.db.Completed p.id := hid ▸ Db.not_completed_of_get? hget hopen
  split at hrest
  · cases hrest
    exact h.save hsave₁ (fun o ho => hid ▸ h.own i p hget o ho) (by simp) hnot
  rename_i q hq
  obtain ⟨hown, hstatus⟩ := own_switchedPayment hq
  obtain ⟨⟨newId, db₂⟩, hcreate, hrest⟩ := Option.bind_eq_some_iff.mp hrest
  obtain ⟨db₃, hsave₃, heq⟩ := Option.map_eq_some_iff.mp hrest
  cases heq
  -- the order is issued, the old payment fails, the new one is made, and they are linked
  obtain ⟨hissue, hgrows₀⟩ := h.issue newId terms.amountMinor hfresh
  have hpown : ∀ o ∈ p.own, (s.issue terms.order newId terms.amountMinor).issued o = some p.id :=
    fun o ho => hid ▸ hissue.own i p hget o ho
  obtain ⟨hacc₁, hgrows₁⟩ := hissue.save hsave₁ hpown (by simp) hnot
  obtain ⟨hacc₂, hgrows₂⟩ := hacc₁.create hcreate (fun o ho => by
    rw [hown o ho]
    exact issued_issue s o newId terms.amountMinor) hstatus
  have hget₁ := Db.get?_save_self hsave₁ (i := i) hid
  obtain ⟨hfree, saved, hsaved, hrows, -⟩ := Db.of_create hcreate
  have hne : i ≠ newId := by
    rintro rfl
    rw [hfree] at hget₁
    cases hget₁
  have hnot₂ : ¬ db₂.Completed p.id := by
    refine hid ▸ Db.not_completed_of_get? (p := { p with status := .failed }) ?_ (by simp)
    rw [hrows, Db.get?_save_of_ne hsaved hne]
    exact hget₁
  obtain ⟨hacc₃, hgrows₃⟩ := hacc₂.save hsave₃ hpown (by simp) hnot₂
  exact ⟨hacc₃, ((hgrows₀.trans hgrows₁).trans hgrows₂).trans hgrows₃⟩

lemma Accounts.retry (h : Accounts s) {i : ℕ} {issued : Issued} (amountMinor : ℤ) {done : Bool} {db : Db}
    (hfresh : s.fresh issued.order = true) (hretry : retryLocked s.db i issued = some (done, db)) :
    Accounts (if done then { s with db }.issue issued.order i amountMinor else { s with db }) ∧
      Grows s (if done then { s with db }.issue issued.order i amountMinor else { s with db }) := by
  rw [retryLocked] at hretry
  split at hretry
  · cases hretry
  rename_i p hget
  have hid : p.id = i := Table.pk_of_get? hget
  split at hretry
  · cases hretry
    exact ⟨h, .refl s⟩
  rename_i hopen
  obtain ⟨db₁, hsave, heq⟩ := Option.map_eq_some_iff.mp hretry
  cases heq
  have hnot : ¬ s.db.Completed p.id := hid ▸ Db.not_completed_of_get? hget hopen
  obtain ⟨hissue, hgrows₀⟩ := h.issue i amountMinor hfresh
  obtain ⟨hacc, hgrows⟩ := hissue.save hsave (fun o ho => by
      have horder : issued.order = some o := by simpa [Payment.mem_own] using ho
      rw [horder]
      exact hid ▸ issued_issue s o i amountMinor) (by simp) hnot
  exact ⟨hacc, hgrows₀.trans hgrows⟩

lemma Accounts.saveIssued (h : Accounts s) {p : Payment} {order : OrderId} (amountMinor : ℤ) {db : Db}
    (hfresh : s.fresh (some order) = true) (hsave : s.db.save p = some db)
    (hown : ∀ o ∈ p.own, o = order) (hstatus : p.status ≠ .completed)
    (hopen : ¬ s.db.Completed p.id) :
    Accounts ({ s with db }.issue (some order) p.id amountMinor) ∧
      Grows s ({ s with db }.issue (some order) p.id amountMinor) := by
  obtain ⟨hissue, hgrows₀⟩ := h.issue p.id amountMinor hfresh
  obtain ⟨hacc, hgrows⟩ := hissue.save hsave (fun o ho => by
    rw [hown o ho]
    exact issued_issue s order p.id amountMinor) hstatus hopen
  exact ⟨hacc, hgrows₀.trans hgrows⟩

lemma Accounts.createIssued (h : Accounts s) {p : Payment} {order : OrderId} {i : ℕ}
    (amountMinor : ℤ) {db : Db}
    (hfresh : s.fresh (some order) = true) (hcreate : s.db.create p = some (i, db))
    (hown : ∀ o ∈ p.own, o = order) (hstatus : p.status ≠ .completed) :
    Accounts ({ s with db }.issue (some order) i amountMinor) ∧
      Grows s ({ s with db }.issue (some order) i amountMinor) := by
  obtain ⟨hissue, hgrows₀⟩ := h.issue i amountMinor hfresh
  obtain ⟨hacc, hgrows⟩ := hissue.create hcreate (fun o ho => by
    rw [hown o ho]
    exact issued_issue s order i amountMinor) hstatus
  exact ⟨hacc, hgrows₀.trans hgrows⟩

/-- The rider pays, or an authorized payment is captured. -/
lemma Accounts.capture (h : Accounts s) {order : OrderId} (paymentId : PaymentId)
    (hnone : s.captured order = none) :
    Accounts { s with captured := Function.update s.captured order (some paymentId) } ∧
      Grows s { s with captured := Function.update s.captured order (some paymentId) } := by
  refine ⟨{ h with ids := fun o taken ht => ?_ }, ⟨fun _ _ h => h, fun _ _ => rfl, fun _ h => h, id⟩⟩
  rcases h.ids o taken ht with hid | hid
  · exact .inl hid
  · by_cases ho : o = order
    · exact .inl (by rw [hid, ho, hnone])
    · exact .inr (by simpa [ho] using hid)

/-- Every orderly operation keeps the accounts, provided the entry point knows what it has to
know. -/
theorem accounts_exec {o : PayOp} (h : Accounts s) (horderly : OrderlyOp o e s) (hknows : Knows o s) :
    Accounts (exec o e s).2 ∧ Grows s (exec o e s).2 := by
  have hsame : Accounts s ∧ Grows s s := ⟨h, .refl s⟩
  obtain ⟨hstale, hmeets⟩ := horderly
  cases o with
  | lookUp order paymentId =>
      rw [exec]
      split
      · rename_i hnone
        -- not found is no answer for a captured order: an orderly look-up finds it
        refine h.tell fun hcaptured => ?_
        have hfound := hmeets hcaptured
        rw [hnone] at hfound
        cases hfound
      · rename_i p hfound
        split
        · rename_i hcompleted
          rw [Bool.and_eq_true, decide_eq_true_eq] at hcompleted
          -- a completed payment answers for the order that settled it
          exact h.tell fun _ => .inl (h.mem_settled (h.filed.issued_of_paymentForOrder hfound).1
            hcompleted.1 (by simpa using hcompleted.2))
        · exact hsame
  | find f => exact hsame
  | orderIds p => exact hsame
  | orderStatus order => exact hsame
  | confirm p order =>
      rw [exec]
      split
      · exact hsame
      · rename_i hnot
        refine h.tell fun hcaptured => ?_
        obtain ⟨hup, hamount⟩ := hmeets hcaptured
        -- the gateway confirms a captured order with the payment's amount
        exact absurd (by simp [hup, hamount, hcaptured]) hnot
  | verifySignature order => exact hsame
  | ensureCaptured order paymentId =>
      rw [exec]
      split
      · exact hsame
      · split
        · exact hsame
        · rename_i hnone
          split
          · exact h.capture paymentId hnone
          · exact hsame
  | tripTerms => exact hsame
  | newOrder => exact hsame
  | saveFailed p =>
      rw [exec]
      split
      · exact hsame
      rename_i hraises
      split
      · exact hsame
      · rename_i db hsave
        -- the payment that is marked failed is not completed, or the save would be stale
        exact h.save hsave hknows (by simp) fun hc => hstale ⟨by simpa using hraises, hc⟩
  | saveIssued p amountMinor provider order =>
      rw [exec]
      split
      · exact hsame
      rename_i hraises
      rw [Bool.or_eq_true, not_or] at hraises
      split
      · exact hsame
      · rename_i db hsave
        have hfresh : s.fresh (some order) = true := by simpa using hraises.2
        have hsaved := h.saveIssued amountMinor hfresh hsave own_issuedPayment
          (by simp [issuedPayment]) fun hc => hstale ⟨by simpa using hraises.1, hfresh, hc⟩
        exact hsaved
  | createIssued amountMinor provider order =>
      rw [exec]
      split
      · exact hsame
      rename_i hraises
      rw [Bool.or_eq_true, not_or] at hraises
      split
      · exact hsame
      · rename_i id db hcreate
        exact h.createIssued amountMinor (by simpa using hraises.2) hcreate own_newPayment
          (by simp [newPayment])
  | remember payment order provider =>
      rw [exec]
      split
      · exact hsame
      · exact h.remember hknows
  | settle source payment provider order taken =>
      rw [exec]
      split
      · exact hsame
      split
      · exact hsame
      · rename_i d db hsettle
        -- what an orderly decision records late is late by right
        have hright := fun p hget => rightlyLate_of_inOrder hget (hmeets p hget)
        obtain ⟨hacc, hgrows, -⟩ := h.decide hknows hright (settleLocked_spec hsettle)
        exact ⟨hacc, hgrows⟩
  | switchMethod payment online =>
      rw [exec]
      split
      · exact hsame
      rename_i hraises
      rw [Bool.or_eq_true, not_or] at hraises
      have hfresh : s.fresh (switchTerms e online).order = true := by simpa using hraises.2
      split
      · exact hsame
      · rename_i db hswitch
        exact h.switch hfresh hswitch
      · rename_i id db hswitch
        exact h.switch hfresh hswitch
  | retryIssue payment amountMinor =>
      rw [exec]
      split
      · exact hsame
      rename_i hraises
      rw [Bool.or_eq_true, not_or] at hraises
      have hfresh : s.fresh (Issued.mk e.provider e.order).order = true := by simpa using hraises.2
      split
      · exact hsame
      · rename_i db hretry
        exact h.retry amountMinor hfresh hretry
      · rename_i db hretry
        exact h.retry amountMinor hfresh hretry
  | refundTaken payment order => exact hsame
  | createRefund payment order taken amountMinor => exact hsame
  | refundDone payment order refunded =>
      rw [exec]
      split
      · exact hsame
      split
      · exact hsame
      · rename_i db hrefund
        exact h.refund hknows hrefund

/-- A decision that schedules a refund has recorded the order late. -/
lemma mem_lateOrders_of_settle {source : Source} {i : ℕ} {provider : Provider} {order : OrderId}
    {taken : Option PaymentId} (h : Accounts s)
    (horderly : OrderlyOp (.settle source i provider order taken) e s)
    (hissued : s.issued order = some i)
    (hlate : (exec (.settle source i provider order taken) e s).1 = some .late) :
    order ∈ (exec (.settle source i provider order taken) e s).2.lateOrders := by
  rw [exec] at hlate ⊢
  split at hlate
  · cases hlate
  rename_i hraises
  rw [if_neg hraises]
  split at hlate
  · cases hlate
  rename_i d db hsettle
  cases hlate
  have hright := fun p hget => rightlyLate_of_inOrder hget (horderly.2 p hget)
  exact (h.decide hissued hright (settleLocked_spec hsettle)).2.2 rfl

end Operations

/-! ## The entry points -/

lemma amount_of_refundTaken {s : World} {i : ℕ} {order : OrderId} {e : Choice} {taken : PaymentId} {amountMinor : ℤ}
    (horderly : OrderlyOp (.refundTaken i order) e s)
    (h : (exec (.refundTaken i order) e s).1 = some (some (taken, amountMinor))) :
    amountMinor = s.amount order := by
  rw [exec, refundTaken] at h
  split at h
  · cases h
  rename_i p hget
  rw [← horderly.2 p hget]
  have hfull : ∀ t : Option PaymentId,
      some (t.map fun id => (id, p.amountMinor)) = some (some (taken, amountMinor)) →
        amountMinor = p.amountMinor := by
    intro t ht
    obtain ⟨id, -, hid⟩ := Option.map_eq_some_iff.mp (Option.some.inj ht)
    rw [Prod.mk.injEq] at hid
    exact hid.2.symm
  split at h
  · split at h
    · cases h
    · exact hfull _ h
  · split at h
    · cases h
    · exact hfull _ h

/-- The accounts as a discipline of the entry points. -/
def accounting : Discipline where
  Inv := Accounts
  Meets := OrderlyOp
  Grow := Grows
  Knows := Knows
  Late i order s := s.db.HasCompleted ∧ order ∈ s.lateOrders ∧ s.issued order = some i
  refl := Grows.refl
  trans := Grows.trans
  issued hgrows := hgrows.issued
  filed := Accounts.filed
  knowsGrow := Knows.grows
  lateGrow hlate hgrows :=
    ⟨hgrows.hasCompleted hlate.1, hgrows.late _ hlate.2.1, hgrows.issued _ _ hlate.2.2⟩
  exec := accounts_exec
  free {o} s hfree := by
    cases o with
    | saveFailed _ | remember _ _ _ | settle _ _ _ _ _ | createRefund _ _ _ _
    | refundDone _ _ _ => cases hfree
    | _ => trivial
  saveFailed hown := hown
  remember hissued := hissued
  settle hissued := hissued
  late {source i provider order taken e s} hacc horderly hissued hd := by
    have hlate := mem_lateOrders_of_settle hacc horderly hissued hd
    obtain ⟨hafter, hgrows⟩ := accounts_exec hacc horderly hissued
    have hne : (Payments.exec (.settle source i provider order taken) e s).2.late ≠ [] := by
      intro hnil
      rw [World.lateOrders, hnil] at hlate
      cases hlate
    exact ⟨hafter.paidFirst hne, hlate, hgrows.issued _ _ hissued⟩
  refund hlate horderly htaken :=
    ⟨hlate.1, hlate.2.1, by rw [hlate.2.2]; rfl, amount_of_refundTaken horderly htaken⟩
  refundDone hlate := hlate.2.1
  capture {s} c hacc := by
    rw [Payments.capture]
    split
    · rename_i hfree
      rw [Bool.and_eq_true] at hfree
      exact hacc.capture c.paymentId (by simpa using hfree.2)
    · exact ⟨hacc, .refl _⟩

/-! ## Every orderly interleaving -/

section Runs

variable {τ : Type} [DecidableEq τ]

/-- The operation a move performs is orderly. -/
def Orderly (p : PayPool τ) : PayMove τ → Prop
  | .advance t e => ∀ o ∈ nextOp (p.threads t), OrderlyOp o e p.store
  | _ => True

instance (p : PayPool τ) (m : PayMove τ) : Decidable (Orderly p m) :=
  match m with
  | .advance t e =>
      inferInstanceAs (Decidable (∀ o ∈ nextOp (p.threads t), OrderlyOp o e p.store))
  | .start _ _ | .outside _ => inferInstanceAs (Decidable True)

/-- No capture settles the trip or is recorded late twice, or both; one order settles the trip,
and a late capture is recorded under its own gateway payment or none. -/
structure CapturesAccounted (s : World) : Prop where
  once : ∀ o, s.settled.count o + s.lateOrders.count o ≤ 1
  oneSettles : s.settled.length ≤ 1
  ids : ∀ o taken, (o, taken) ∈ s.late → taken = none ∨ taken = s.captured o

/-- A move refunds an order only when it was recorded late, another order has paid the trip,
and in full. -/
def RefundSafe (p : PayPool τ) (m : PayMove τ) : Prop :=
  ∀ t e, m = .advance t e → ∀ i order taken amountMinor,
    nextOp (p.threads t) = some (.createRefund i order taken amountMinor) →
      p.store.db.HasCompleted ∧ order ∈ p.store.lateOrders ∧ order ∉ p.store.settled ∧
        amountMinor = p.store.amount order

/-- The trip has ended, and nothing has been issued or paid. -/
structure Unpaid (p : PayPool τ) : Prop where
  idle : p.threads = fun _ => none
  payments : ∀ q ∈ p.store.db.payments.rows, q.status ≠ .completed ∧ q.own = []
  orders : p.store.db.orders.rows = []
  settled : p.store.settled = []
  late : p.store.late = []
  told : p.store.told = []

lemma Accounts.capturesAccounted {s : World} (h : Accounts s) : CapturesAccounted s := by
  have hsettled : s.settled = [] ∨ ∃ o, s.settled = [o] := by
    by_cases hc : s.db.HasCompleted
    · obtain ⟨i, p, hp, hstatus⟩ := Db.hasCompleted_iff.mp hc
      obtain ⟨o, ho, -⟩ := h.completed i p hp hstatus
      exact .inr ⟨o, ho⟩
    · exact .inl (h.unpaid hc)
  have hnodup : s.settled.Nodup := by
    rcases hsettled with hs | ⟨o, hs⟩ <;> simp [hs]
  have honce : ∀ o, s.settled.count o + s.lateOrders.count o ≤ 1 := by
    intro o
    have hle := List.nodup_iff_count_le_one.mp hnodup o
    have hle' := List.nodup_iff_count_le_one.mp h.once o
    by_cases ho : o ∈ s.settled
    · rw [List.count_eq_zero.mpr (h.apart o ho)]
      omega
    · rw [List.count_eq_zero.mpr ho]
      omega
  refine ⟨honce, ?_, h.ids⟩
  rcases hsettled with hs | ⟨o, hs⟩ <;> simp [hs]

lemma Accounts.count_of_told {s : World} (h : Accounts s) {o : OrderId} (ho : o ∈ s.told) :
    s.settled.count o + s.lateOrders.count o = 1 := by
  have hle := h.capturesAccounted.once o
  rcases h.told o ho with hmem | hmem
  · have hpos := List.count_pos_iff.mpr hmem
    omega
  · have hpos := List.count_pos_iff.mpr hmem
    omega

omit [DecidableEq τ] in
/-- There is nothing to account for while nothing has been issued. -/
lemma Unpaid.accounts {p : PayPool τ} (h : Unpaid p) : Accounts p.store := by
  have hget : ∀ {i q}, p.store.db.payments.get? i = some q → q.status ≠ .completed ∧ q.own = [] :=
    fun hq => h.payments _ (Table.mem_of_get? hq).1
  have hrow : ∀ o, p.store.db.orders.get? o = none := by
    intro o
    cases hget : p.store.db.orders.get? o with
    | none => rfl
    | some row =>
        have hmem := (Table.mem_of_get? hget).1
        rw [h.orders] at hmem
        cases hmem
  have hlate : p.store.lateOrders = [] := by rw [World.lateOrders, h.late]; rfl
  exact
    { own := fun i q hq o ho => by rw [(hget hq).2] at ho; cases ho
      rows := fun o row ho => by rw [hrow] at ho; cases ho
      completed := fun i q hq hstatus => absurd hstatus (hget hq).1
      unpaid := fun _ => h.settled
      recorded := fun o => by simp [hlate, hrow]
      once := by simp [hlate]
      ids := fun o taken ht => by rw [h.late] at ht; cases ht
      paidFirst := fun hne => absurd h.late hne
      apart := fun o ho => by rw [h.settled] at ho; cases ho
      told := fun o ho => by rw [h.told] at ho; cases ho }

omit [DecidableEq τ] in
lemma meeting_of_orderly {p : PayPool τ} {m : PayMove τ} (h : Orderly p m) :
    accounting.Meeting p m := by
  cases m with
  | advance t e => exact h
  | start t a => trivial
  | outside c => trivial

/-- Sound entry points refund what was recorded late, in full and after the trip was paid. -/
lemma refundSafe_of_orderly {p : PayPool τ} {m : PayMove τ} (horderly : Orderly p m)
    (h : Accounts p.store ∧ accounting.AllSound p) : RefundSafe p m := by
  rintro t e rfl i order taken amountMinor hnext
  obtain ⟨hhas, hlate, -, hamount⟩ :=
    (Discipline.guarantee_of_nextOp (meeting_of_orderly horderly) h.1 h.2 hnext).knows
  exact ⟨hhas, hlate, fun hsettled => h.1.apart order hsettled hlate, hamount⟩

end Runs

end SaaradhiGo.Payments
