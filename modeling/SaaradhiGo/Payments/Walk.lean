/-
What the entry points know at each of their operations, whatever they keep.

An entry point saves an instance it loaded, remembers an order, and decides on an order of a
payment it found: at each of these the order was issued to that payment.  A discipline says
what is kept, under what condition, and what is known at each operation; the entry points
are walked through once, for every discipline.
-/
import SaaradhiGo.Payments.Completed

namespace SaaradhiGo.Payments

open Interleave

/-! ## Orders are filed under the payment they were issued to -/

/-- Payments and the table of orders name orders where they were issued. -/
structure Filed (s : World) : Prop where
  own : ∀ i p, s.db.payments.get? i = some p → ∀ o ∈ p.own, s.issued o = some i
  rows : ∀ o row, s.db.orders.get? o = some row → s.issued o = some row.payment

section Filed

variable {s : World} {e : Choice}

lemma own_issuedPayment {p : Payment} {amountMinor : ℤ} {provider : Provider} {order : OrderId} :
    ∀ o ∈ (issuedPayment p amountMinor provider order).own, o = order := by
  simp [issuedPayment, Payment.mem_own]

lemma own_newPayment {amountMinor : ℤ} {provider : Provider} {order : OrderId} :
    ∀ o ∈ (newPayment amountMinor provider order).own, o = order := by
  simp [newPayment, Payment.mem_own]

lemma issued_issue (s : World) (order : OrderId) (i : ℕ) (amountMinor : ℤ) :
    (s.issue (some order) i amountMinor).issued order = some i := by
  simp [World.issue]

/-- `payment_for_order` finds the payment the order was issued to. -/
lemma Filed.issued_of_paymentForOrder (h : Filed s) {order : OrderId} {p : Payment}
    (hfound : paymentForOrder s.db order = some p) :
    s.db.payments.get? p.id = some p ∧ s.issued order = some p.id := by
  rw [paymentForOrder] at hfound
  split at hfound
  · rename_i row hrow
    have hid : p.id = row.payment := Table.pk_of_get? hfound
    rw [hid]
    exact ⟨hfound, h.rows order row hrow⟩
  · have hmem := List.mem_of_getLast? hfound
    rw [List.mem_filter, decide_eq_true_eq] at hmem
    have hget := Table.mem_iff_get?.mp hmem.1
    exact ⟨hget, h.own p.id p hget order hmem.2⟩

lemma Filed.issued_of_mem_orderIds (h : Filed s) {p : Payment}
    (hown : ∀ o ∈ p.own, s.issued o = some p.id) :
    ∀ o ∈ orderIds s.db p, s.issued o = some p.id := by
  intro o ho
  rw [orderIds] at ho
  have hfold : ∀ (l : List OrderId) (ids : List OrderId),
      o ∈ l.foldl (fun ids own => if own ∈ ids then ids else own :: ids) ids → o ∈ ids ∨ o ∈ l := by
    intro l
    induction l with
    | nil => exact fun ids hmem => .inl hmem
    | cons own l ih =>
        intro ids hmem
        rcases ih _ hmem with hids | hl
        · dsimp only at hids
          split at hids
          · exact .inl hids
          · rcases List.mem_cons.mp hids with rfl | hids
            · exact .inr List.mem_cons_self
            · exact .inl hids
        · exact .inr (List.mem_cons_of_mem _ hl)
  rcases hfold _ _ ho with hids | hmem
  · obtain ⟨row, hrow, rfl⟩ := List.mem_map.mp (List.mem_reverse.mp hids)
    rw [List.mem_filter, decide_eq_true_eq] at hrow
    rw [← hrow.2]
    exact h.rows _ row (Table.mem_iff_get?.mp hrow.1)
  · exact hown o hmem

lemma Find.run_mem {f : Find} {db : Db} {p : Payment} (h : f.run db = some p) :
    db.payments.get? p.id = some p := by
  cases f with
  | completed => exact Table.mem_iff_get?.mp (List.mem_of_find?_eq_some h)
  | latest => exact Table.mem_iff_get?.mp (List.mem_of_getLast? h)
  | latestOpen =>
      exact Table.mem_iff_get?.mp (List.mem_filter.mp (List.mem_of_getLast? h)).1
  | latestFailed =>
      exact Table.mem_iff_get?.mp (List.mem_filter.mp (List.mem_of_getLast? h)).1
  | stuck i =>
      rw [Find.run, Option.filter_eq_some_iff] at h
      exact Table.mem_iff_get?.mp (Table.mem_of_get? h.1).1

lemma mem_of_find {f : Find} {p : Payment} (h : (exec (.find f) e s).1 = some p) :
    s.db.payments.get? p.id = some p :=
  Find.run_mem h

lemma Filed.issued_of_lookUp {order : OrderId} {p : Payment} {paymentId : Option PaymentId} (h : Filed s)
    (hfound : (exec (.lookUp order paymentId) e s).1 = .found p) :
    s.db.payments.get? p.id = some p ∧ s.issued order = some p.id := by
  rw [exec] at hfound
  split at hfound
  · cases hfound
  · rename_i q hq
    split at hfound
    · cases hfound
    · cases hfound
      exact h.issued_of_paymentForOrder hq

/-- What was issued is issued when `create_order` remembers it. -/
lemma issued_of_saveIssued {p : Payment} {order : OrderId} {amountMinor : ℤ} {provider : Provider}
    (h : (exec (.saveIssued p amountMinor provider order) e s).1 = true) :
    (exec (.saveIssued p amountMinor provider order) e s).2.issued order = some p.id := by
  rw [exec] at h ⊢
  split at h
  · cases h
  rename_i hraises
  rw [if_neg hraises]
  split at h
  · cases h
  · exact issued_issue _ _ _ _

lemma issued_of_createIssued {i : ℕ} {order : OrderId} {amountMinor : ℤ} {provider : Provider}
    (h : (exec (.createIssued amountMinor provider order) e s).1 = some i) :
    (exec (.createIssued amountMinor provider order) e s).2.issued order = some i := by
  rw [exec] at h ⊢
  split at h
  · cases h
  rename_i hraises
  rw [if_neg hraises]
  split at h
  · cases h
  · cases h
    exact issued_issue _ _ _ _

end Filed

/-- The next operation of an entry point. -/
def nextOp : Option (Request × Entry) → Option PayOp
  | some (_, .op o _) => some o
  | _ => none

lemma of_nextOp {x : Option (Request × Entry)} {o : PayOp} (h : nextOp x = some o) :
    ∃ a k, x = some (a, .op o k) := by
  rcases x with _ | ⟨a, r | ⟨o', k⟩⟩
  · cases h
  · cases h
  · cases h
    exact ⟨a, k, rfl⟩

/-! ## Disciplines -/

/-- An operation that needs no knowledge: a read, or a write that concerns no order that was
issued before. -/
def PayOp.Free : PayOp → Prop
  | .saveFailed _ | .remember _ _ _ | .settle _ _ _ _ _ | .createRefund _ _ _ _
  | .refundDone _ _ _ => False
  | _ => True

/-- What entry points keep while their operations meet a condition, what grows meanwhile, and
what they know when they come to an operation. -/
structure Discipline where
  Inv : World → Prop
  Meets : PayOp → Choice → World → Prop
  Grow : World → World → Prop
  Knows : PayOp → World → Prop
  /-- the order is known to be late, from the decision to the end of its refund -/
  Late : ℕ → OrderId → World → Prop
  refl : ∀ s, Grow s s
  trans : ∀ {s t u}, Grow s t → Grow t u → Grow s u
  issued : ∀ {s s'}, Grow s s' → ∀ o i, s.issued o = some i → s'.issued o = some i
  filed : ∀ {s}, Inv s → Filed s
  knowsGrow : ∀ {o s s'}, Knows o s → Grow s s' → Knows o s'
  lateGrow : ∀ {i order s s'}, Late i order s → Grow s s' → Late i order s'
  exec : ∀ {o e s}, Inv s → Meets o e s → Knows o s →
    Inv (exec o e s).2 ∧ Grow s (exec o e s).2
  free : ∀ {o} s, o.Free → Knows o s
  saveFailed : ∀ {p s}, (∀ o ∈ p.own, s.issued o = some p.id) → Knows (.saveFailed p) s
  remember : ∀ {i order provider s}, s.issued order = some i → Knows (.remember i order provider) s
  settle : ∀ {source i provider order taken s}, s.issued order = some i →
    Knows (.settle source i provider order taken) s
  late : ∀ {source i provider order taken e s}, Inv s →
    Meets (.settle source i provider order taken) e s → s.issued order = some i →
    (Payments.exec (.settle source i provider order taken) e s).1 = some .late →
    Late i order (Payments.exec (.settle source i provider order taken) e s).2
  refund : ∀ {i order e s taken amountMinor}, Late i order s →
    Meets (.refundTaken i order) e s →
    (Payments.exec (.refundTaken i order) e s).1 = some (some (taken, amountMinor)) →
    Knows (.createRefund i order taken amountMinor) s
  refundDone : ∀ {i order s refunded}, Late i order s → Knows (.refundDone i order refunded) s
  capture : ∀ {s} (c : Capture), Inv s → Inv (Payments.capture c s) ∧ Grow s (Payments.capture c s)

namespace Discipline

variable (D : Discipline)

/-- What an operation of an entry point does. -/
structure Guarantee (o : PayOp) (s s' : World) : Prop where
  inv : D.Inv s'
  grow : D.Grow s s'
  knows : D.Knows o s

/-- What is left of an entry point keeps to the discipline. -/
def Sound (q : Entry) (s : World) : Prop :=
  Prog.wp Payments.exec (fun o e s => D.Meets o e s ∧ D.Inv s) (fun _ => D.Grow) D.Guarantee q
    (fun _ _ => True) s

variable {D} {s : World} {i : ℕ} {order : OrderId} {p : Payment}

lemma sound_ret (s : World) : D.Sound (.ret ()) s := fun _ _ => trivial

/-- An entry point comes to an operation knowing what it has to, and goes on soundly. -/
lemma sound_op {o : PayOp} {k : PayAns o → Entry} (hknows : D.Knows o s)
    (hk : ∀ s₁ e, D.Grow s s₁ → D.Inv s₁ → D.Meets o e s₁ → D.Inv (Payments.exec o e s₁).2 →
      D.Grow s₁ (Payments.exec o e s₁).2 →
      D.Sound (k (Payments.exec o e s₁).1) (Payments.exec o e s₁).2) :
    D.Sound (.op o k) s := by
  intro s₁ hgrows e ⟨hmeets, hinv⟩
  have hknows₁ := D.knowsGrow hknows hgrows
  obtain ⟨hafter, hstep⟩ := D.exec hinv hmeets hknows₁
  exact ⟨⟨hafter, hstep, hknows₁⟩, hk s₁ e hgrows hinv hmeets hafter hstep⟩

lemma sound_free {o : PayOp} {k : PayAns o → Entry} (hfree : o.Free)
    (hk : ∀ s₁ e, D.Grow s s₁ → D.Inv s₁ → D.Meets o e s₁ → D.Inv (Payments.exec o e s₁).2 →
      D.Grow s₁ (Payments.exec o e s₁).2 →
      D.Sound (k (Payments.exec o e s₁).1) (Payments.exec o e s₁).2) :
    D.Sound (.op o k) s :=
  sound_op (D.free s hfree) hk

lemma sound_lateRefund {k : Entry} (hlate : D.Late i order s)
    (hk : ∀ s', D.Grow s s' → D.Sound k s') : D.Sound (lateRefund i order k) s := by
  refine sound_free trivial fun s₁ e hgrows _ hmeets _ hstep => ?_
  have hlate₁ := D.lateGrow hlate hgrows
  have hgrows₁ := D.trans hgrows hstep
  split
  · exact hk _ hgrows₁
  · refine sound_op (D.refundDone (D.lateGrow hlate₁ hstep)) fun s₂ e₂ hgrows₂ _ _ _ hstep₂ => ?_
    exact hk _ (D.trans hgrows₁ (D.trans hgrows₂ hstep₂))
  · rename_i taken amountMinor htaken
    have hknows := D.knowsGrow (D.refund hlate₁ hmeets htaken) hstep
    refine sound_op hknows fun s₂ e₂ hgrows₂ _ _ _ hstep₂ => ?_
    have hgrows₃ := D.trans hgrows₁ (D.trans hgrows₂ hstep₂)
    refine sound_op (D.refundDone (D.lateGrow hlate hgrows₃)) fun s₃ e₃ hgrows₄ _ _ _ hstep₄ => ?_
    exact hk _ (D.trans hgrows₃ (D.trans hgrows₄ hstep₄))

lemma sound_settleThen {source : Source} {provider : Provider} {taken : Option PaymentId}
    {k : Bool → Entry} (hissued : s.issued order = some i)
    (hk : ∀ b s', D.Grow s s' → D.Sound (k b) s') :
    D.Sound (settleThen source i provider order taken k) s := by
  refine sound_op (D.settle hissued) fun s₁ e hgrows hinv hmeets _ hstep => ?_
  have hgrows₁ := D.trans hgrows hstep
  split
  · exact sound_ret _
  · rename_i hd
    have hlate := D.late hinv hmeets (D.issued hgrows _ _ hissued) hd
    exact sound_lateRefund hlate fun s' hs' => hk false s' (D.trans hgrows₁ hs')
  · exact hk false _ hgrows₁
  · exact hk true _ hgrows₁
  · exact hk true _ hgrows₁

lemma sound_verifyPayment {paymentId : Option PaymentId} {signed : Bool} :
    D.Sound (verifyPayment order paymentId signed) s := by
  refine sound_free trivial fun s₁ e _ hinv _ _ hstep => ?_
  split
  · exact sound_ret _
  · exact sound_ret _
  rename_i p hfound
  obtain ⟨hget, hissued⟩ := (D.filed hinv).issued_of_lookUp hfound
  have hown : ∀ o ∈ p.own, s₁.issued o = some p.id := (D.filed hinv).own p.id p hget
  split
  · exact sound_ret _
  · split
    · refine sound_free trivial fun s₂ e₂ hgrows₂ _ _ _ hstep₂ => ?_
      have hissued₂ := D.issued (D.trans hstep (D.trans hgrows₂ hstep₂)) order _ hissued
      split
      · exact sound_settleThen hissued₂ fun _ _ _ => sound_ret _
      · exact sound_ret _
    · exact sound_ret _
  · refine sound_free trivial fun s₂ e₂ hgrows₂ _ _ _ hstep₂ => ?_
    have hgrows := D.trans hstep (D.trans hgrows₂ hstep₂)
    split
    · exact sound_ret _
    · exact sound_settleThen (D.issued hgrows order _ hissued) fun _ _ _ => sound_ret _
    · -- the instance it saves is the one it looked up
      exact sound_op (D.saveFailed fun o ho => D.issued hgrows o _ (hown o ho))
        fun _ _ _ _ _ _ _ => sound_ret _

lemma sound_handleWebhook {provider : Provider} {paymentId : Option PaymentId} :
    D.Sound (handleWebhook provider order paymentId) s := by
  refine sound_free trivial fun s₁ e _ hinv _ _ hstep => ?_
  split
  · exact sound_ret _
  · exact sound_ret _
  rename_i p hfound
  obtain ⟨-, hissued⟩ := (D.filed hinv).issued_of_lookUp hfound
  refine sound_free trivial fun s₂ e₂ hgrows₂ _ _ _ hstep₂ => ?_
  have hissued₂ := D.issued (D.trans hstep (D.trans hgrows₂ hstep₂)) order _ hissued
  split
  · exact sound_settleThen hissued₂ fun _ _ _ => sound_ret _
  · exact sound_ret _

lemma sound_askOrders {source : Source} {k : Bool → Entry} {orders : List OrderId}
    (hissued : ∀ o ∈ orders, s.issued o = some p.id)
    (hk : ∀ b s', D.Grow s s' → D.Sound (k b) s') : D.Sound (askOrders source p k orders) s := by
  induction orders generalizing s with
  | nil => exact hk false s (D.refl s)
  | cons order orders ih =>
      refine sound_free trivial fun s₁ e hgrows _ _ _ hstep => ?_
      have hgrows₁ := D.trans hgrows hstep
      split
      · exact sound_settleThen (D.issued hgrows₁ order _ (hissued order List.mem_cons_self))
          fun b s' hs' => hk b s' (D.trans hgrows₁ hs')
      · exact ih (fun o ho => D.issued hgrows₁ o _ (hissued o (List.mem_cons_of_mem _ ho)))
          fun b s' hs' => hk b s' (D.trans hgrows₁ hs')

lemma sound_askOrderIds {source : Source} {k : Bool → Entry}
    (hown : ∀ o ∈ p.own, s.issued o = some p.id) (hk : ∀ b s', D.Grow s s' → D.Sound (k b) s') :
    D.Sound (.op (.orderIds p) fun orders => askOrders source p k orders) s := by
  refine sound_free trivial fun s₁ e hgrows hinv _ _ hstep => ?_
  have hissued := (D.filed hinv).issued_of_mem_orderIds
    fun o ho => D.issued hgrows o _ (hown o ho)
  exact sound_askOrders (fun o ho => D.issued hstep o _ (hissued o ho))
    fun b s' hs' => hk b s' (D.trans hgrows (D.trans hstep hs'))

lemma sound_settleIfPaidAtGateway {k : Bool → Entry} (hk : ∀ b s', D.Sound (k b) s') :
    D.Sound (settleIfPaidAtGateway k) s := by
  refine sound_free trivial fun s₁ e _ hinv _ _ hstep => ?_
  split
  · exact hk false _
  rename_i p hfound
  have hown := (D.filed hinv).own p.id p (mem_of_find hfound)
  split
  · exact hk true _
  · exact sound_askOrderIds (fun o ho => D.issued hstep o _ (hown o ho)) fun b s' _ => hk b s'

lemma sound_reconcileStuck : D.Sound (reconcileStuck i) s := by
  refine sound_free trivial fun s₁ e _ hinv _ _ hstep => ?_
  split
  · exact sound_ret _
  rename_i p hfound
  have hown := (D.filed hinv).own p.id p (mem_of_find hfound)
  exact sound_askOrderIds (fun o ho => D.issued hstep o _ (hown o ho)) fun _ _ _ => sound_ret _

lemma sound_createThen {k : Option ℕ → Entry} {amountMinor : ℤ} {provider : Provider}
    (hnone : k none = .ret ())
    (hsome : ∀ id, k (some id) = .op (.remember id order provider) fun _ => .ret ()) :
    D.Sound (.op (.createIssued amountMinor provider order) k) s := by
  refine sound_free trivial fun s₁ e _ _ _ _ _ => ?_
  cases hid : (Payments.exec (.createIssued amountMinor provider order) e s₁).1 with
  | none => exact hnone ▸ sound_ret _
  | some id =>
      rw [hsome]
      exact sound_op (D.remember (issued_of_createIssued hid)) fun _ _ _ _ _ _ _ => sound_ret _

lemma sound_createOrder : D.Sound createOrder s := by
  refine sound_free trivial fun s₁ e₁ _ _ _ _ _ => ?_
  split
  · exact sound_ret _
  refine sound_free trivial fun s₂ e₂ _ _ _ _ _ => ?_
  split
  · exact sound_ret _
  rename_i amountMinor _
  refine sound_free trivial fun s₃ e₃ _ _ _ _ _ => ?_
  split
  · exact sound_ret _
  rename_i provider order _
  refine sound_free trivial fun s₄ e₄ _ _ _ _ _ => ?_
  split
  · exact sound_createThen rfl fun _ => rfl
  · split
    · exact sound_createThen rfl fun _ => rfl
    · refine sound_free trivial fun s₅ e₅ _ _ _ _ _ => ?_
      split
      · rename_i hsaved
        exact sound_op (D.remember (issued_of_saveIssued hsaved))
          fun _ _ _ _ _ _ _ => sound_ret _
      · exact sound_ret _

lemma sound_switchPaymentMethod {online : Bool} : D.Sound (switchPaymentMethod online) s := by
  refine sound_free trivial fun s₁ e _ _ _ _ _ => ?_
  split
  · exact sound_ret _
  · refine sound_settleIfPaidAtGateway fun b s' => ?_
    cases b with
    | true => exact sound_ret _
    | false => exact sound_free trivial fun _ _ _ _ _ _ _ => sound_ret _

lemma sound_retryPayment : D.Sound retryPayment s := by
  refine sound_free trivial fun s₁ e _ _ _ _ _ => ?_
  split
  · exact sound_ret _
  · refine sound_settleIfPaidAtGateway fun b s' => ?_
    cases b with
    | true => exact sound_ret _
    | false =>
        refine sound_free trivial fun s₂ e₂ _ _ _ _ _ => ?_
        split
        · exact sound_ret _
        · exact sound_free trivial fun _ _ _ _ _ _ _ => sound_ret _

/-- Every entry point keeps to the discipline from the store it finds. -/
theorem sound_request (a : Request) (s : World) : D.Sound (entry a s) s := by
  cases a with
  | verify order paymentId signed => exact sound_verifyPayment
  | webhook provider order paymentId => exact sound_handleWebhook
  | poll => exact sound_settleIfPaidAtGateway fun _ _ => sound_ret _
  | reconcile payment => exact sound_reconcileStuck
  | createOrder => exact sound_createOrder
  | switchMethod online => exact sound_switchPaymentMethod
  | retry => exact sound_retryPayment

/-! ### Every interleaving -/

section Runs

variable {τ : Type} [DecidableEq τ] {q : PayPool τ} {m : PayMove τ}

/-- The operation a move performs meets the condition. -/
def Meeting (D : Discipline) (q : PayPool τ) : PayMove τ → Prop
  | .advance t e => ∀ o ∈ nextOp (q.threads t), D.Meets o e q.store
  | _ => True

/-- All that runs keeps to the discipline. -/
abbrev AllSound (D : Discipline) (q : PayPool τ) : Prop :=
  Pool.Valid Payments.exec (fun _ o e s => D.Meets o e s ∧ D.Inv s) (fun _ _ => D.Grow)
    (fun _ => D.Guarantee) (fun _ _ _ => True) q

omit [DecidableEq τ] in
lemma allSound_idle (D : Discipline) (h : q.threads = fun _ => none) : D.AllSound q := by
  intro t a r hrun
  rw [Pool.Running, h] at hrun
  cases hrun.1

omit [DecidableEq τ] in
lemma admitted_of_meeting {t : τ} {e : Choice} (h : D.Meeting q (.advance t e))
    (hinv : D.Inv q.store) :
    Pool.Admitted (fun _ o e s => D.Meets o e s ∧ D.Inv s) q t e :=
  fun a o k ht => ⟨h o (by rw [ht]; rfl), hinv⟩

lemma guarantee_of_nextOp {t : τ} {e : Choice} {o : PayOp} (hmeets : D.Meeting q (.advance t e))
    (hinv : D.Inv q.store) (hsound : D.AllSound q) (hnext : nextOp (q.threads t) = some o) :
    D.Guarantee o q.store (payStep q (.advance t e)).store := by
  obtain ⟨a, k, ht⟩ := of_nextOp hnext
  exact Pool.guarantee_of_valid (fun _ _ => D.refl) hsound (admitted_of_meeting hmeets hinv) ht

/-- A move that meets the condition keeps the invariant. -/
lemma inv_payStep (hmeets : D.Meeting q m) (hinv : D.Inv q.store) (hsound : D.AllSound q) :
    D.Inv (payStep q m).store ∧ D.Grow q.store (payStep q m).store := by
  cases m with
  | advance t e =>
      cases hnext : nextOp (q.threads t) with
      | none =>
          have hstore : (payStep q (.advance t e)).store = q.store :=
            Pool.store_step_advance_of_not_running fun a o k ht => by
              rw [ht] at hnext
              cases hnext
          rw [hstore]
          exact ⟨hinv, D.refl _⟩
      | some o =>
          have hguarantee := guarantee_of_nextOp hmeets hinv hsound hnext
          exact ⟨hguarantee.inv, hguarantee.grow⟩
  | start t a => exact ⟨hinv, D.refl _⟩
  | outside c => exact D.capture c hinv

/-- Moves that meet the condition keep the invariant and the entry points sound. -/
theorem invariant_payStep (q : PayPool τ) (m : PayMove τ) (hmeets : D.Meeting q m)
    (h : D.Inv q.store ∧ D.AllSound q) : D.Inv (payStep q m).store ∧ D.AllSound (payStep q m) :=
  Pool.invariant_valid_step (I := fun q => D.Inv q.store) (fun _ _ => D.refl)
    (fun _ _ _ _ _ => D.trans)
    (fun _ _ hmeets hinv hsound => (inv_payStep hmeets hinv hsound).1)
    (fun _ _ _ hmeets hinv => admitted_of_meeting hmeets hinv)
    (fun _ _ hmeets hinv hsound _ _ _ _ _ => (inv_payStep hmeets hinv hsound).2)
    (fun q _ a _ _ => sound_request a q.store) q m hmeets h

end Runs

end Discipline

end SaaradhiGo.Payments
