/-
What becomes of each capture on an order the platform issued.

A capture settles the trip, or it is recorded as late and refunded.  The books say which, and
`Accounts` ties them to the payments: an order belongs to the payment it was issued to, the
completed payment names the order that settled the trip and no other, and an order is
recorded late exactly when its row says so.  Every operation keeps the accounts provided
that nothing is recorded late without a completed payment or under a gateway payment of
another order, that a captured order is found, and that no stale save lands.
-/
import SaaradhiGo.Payments.Completed

namespace SaaradhiGo.Payments

open Interleave

/-! ## The accounts -/

def World.lateOrders (s : World) : List OrderId := s.late.map Prod.fst

/-- The books of the captures agree with the payments and their orders. -/
structure Accounts (s : World) : Prop where
  /-- a payment names only orders it was issued -/
  own : ∀ i p, s.db.payments.get? i = some p → ∀ o ∈ p.own, s.issued o = some i
  rows : ∀ o row, s.db.orders.get? o = some row → s.issued o = some row.payment
  /-- the completed payment names the order that settled the trip -/
  completed : ∀ i p, s.db.payments.get? i = some p → p.status = .completed →
    ∃ o, s.settled = [o] ∧ o ∈ p.own ∧ ∀ o' ∈ p.own, o' = o
  unpaid : ¬ s.db.HasCompleted → s.settled = []
  /-- an order is recorded late exactly when its row says so -/
  recorded : ∀ o, o ∈ s.lateOrders ↔ ∃ row, s.db.orders.get? o = some row ∧ row.lateRefund ≠ .none
  once : s.lateOrders.Nodup
  ids : ∀ o taken, (o, taken) ∈ s.late → taken = none ∨ taken = s.captured o
  /-- nothing is recorded late before the trip is paid -/
  paidFirst : s.late ≠ [] → s.db.HasCompleted
  apart : ∀ o ∈ s.settled, o ∉ s.lateOrders
  /-- what the platform answered for has been settled or recorded -/
  told : ∀ o ∈ s.told, o ∈ s.settled ∨ o ∈ s.lateOrders

/-- What no operation takes back. -/
structure Grows (s s' : World) : Prop where
  issued : ∀ o i, s.issued o = some i → s'.issued o = some i
  amount : ∀ o, (s.issued o).isSome → s'.amount o = s.amount o
  late : ∀ o ∈ s.lateOrders, o ∈ s'.lateOrders
  hasCompleted : s.db.HasCompleted → s'.db.HasCompleted

namespace Grows

lemma refl (s : World) : Grows s s := ⟨fun _ _ h => h, fun _ _ => rfl, fun _ h => h, id⟩

lemma trans {s t u : World} (h : Grows s t) (h' : Grows t u) : Grows s u :=
  { issued := fun o i hi => h'.issued o i (h.issued o i hi)
    amount := fun o ho => by
      obtain ⟨i, hi⟩ := Option.isSome_iff_exists.mp ho
      rw [h'.amount o (by rw [h.issued o i hi]; rfl), h.amount o ho]
    late := fun o ho => h'.late o (h.late o ho)
    hasCompleted := fun hc => h'.hasCompleted (h.hasCompleted hc) }

end Grows

/-! ## Steps of the accounts -/

section Steps

variable {s : World} {db : Db} {p : Payment} {i : ℕ} {order : OrderId} {provider : Provider}
  {taken : Option PaymentId}

/-- An answer about an order that has been settled or recorded. -/
lemma Accounts.tell (h : Accounts s)
    (hknown : (s.captured order).isSome = true → order ∈ s.settled ∨ order ∈ s.lateOrders) :
    Accounts (s.tell order) ∧ Grows s (s.tell order) := by
  rw [World.tell]
  split
  · rename_i hcaptured
    refine ⟨{ h with told := fun o ho => ?_ }, ⟨fun _ _ h => h, fun _ _ => rfl, fun _ h => h, id⟩⟩
    rcases List.mem_cons.mp ho with rfl | ho
    · exact hknown hcaptured
    · exact h.told o ho
  · exact ⟨h, .refl s⟩

lemma Accounts.issue (h : Accounts s) {order : Option OrderId} (i : ℕ) (amountMinor : ℤ)
    (hfresh : s.fresh order = true) :
    Accounts (s.issue order i amountMinor) ∧ Grows s (s.issue order i amountMinor) := by
  cases order with
  | none => exact ⟨h, .refl s⟩
  | some order =>
      have hnone : s.issued order = none := by simpa [World.fresh] using hfresh
      have hne : ∀ o, (s.issued o).isSome → o ≠ order := by
        rintro o ho rfl
        rw [hnone] at ho
        cases ho
      have hold : ∀ o j, s.issued o = some j →
          (s.issue (some order) i amountMinor).issued o = some j := by
        intro o j hj
        simpa [World.issue, hne o (by rw [hj]; rfl)] using hj
      exact ⟨{ h with
        own := fun j q hq o ho => hold o j (h.own j q hq o ho)
        rows := fun o row hrow => hold o _ (h.rows o row hrow) },
        ⟨hold, fun o ho => by simp [World.issue, hne o ho], fun _ h => h, id⟩⟩

lemma Accounts.withDb (h : Accounts s) (hkeeps : s.db.KeepsCompleted db)
    (horders : ∀ o, db.orders.get? o = s.db.orders.get? o)
    (hown : ∀ j q, db.payments.get? j = some q → ∀ o ∈ q.own, s.issued o = some j)
    (hcompleted : ∀ j q, db.payments.get? j = some q → q.status = .completed →
      ∃ q₀, s.db.payments.get? j = some q₀ ∧ q₀.status = .completed ∧ q.own = q₀.own) :
    Accounts { s with db } ∧ Grows s { s with db } := by
  refine ⟨{ h with
    own := hown
    rows := fun o row hrow => h.rows o row (by rw [← horders]; exact hrow)
    completed := fun j q hq hstatus => ?_
    unpaid := fun hnot => h.unpaid fun hc => hnot (hkeeps.hasCompleted hc)
    recorded := fun o => by rw [show db.orders.get? o = _ from horders o]; exact h.recorded o
    paidFirst := fun hne => hkeeps.hasCompleted (h.paidFirst hne) },
    ⟨fun _ _ h => h, fun _ _ => rfl, fun _ h => h, hkeeps.hasCompleted⟩⟩
  obtain ⟨q₀, hq₀, hstatus₀, hsame⟩ := hcompleted j q hq hstatus
  rw [hsame]
  exact h.completed j q₀ hq₀ hstatus₀

/-- A payment that is not completed is saved, with orders that were issued to it. -/
lemma Accounts.save (h : Accounts s) (hsave : s.db.save p = some db)
    (hown : ∀ o ∈ p.own, s.issued o = some p.id) (hstatus : p.status ≠ .completed)
    (hopen : ¬ s.db.Completed p.id) : Accounts { s with db } ∧ Grows s { s with db } := by
  refine h.withDb (.save hsave hopen) (fun o => by rw [(Db.of_save hsave).2]) ?_ ?_
  · intro j q hq
    rw [Db.get?_save hsave] at hq
    split at hq
    · rename_i hj
      cases hq
      rw [hj]
      exact hown
    · exact h.own j q hq
  · intro j q hq hcompleted
    rw [Db.get?_save hsave] at hq
    split at hq
    · cases hq
      exact absurd hcompleted hstatus
    · exact ⟨q, hq, hcompleted, rfl⟩

lemma Accounts.create (h : Accounts s) (hcreate : s.db.create p = some (i, db))
    (hown : ∀ o ∈ p.own, s.issued o = some i) (hstatus : p.status ≠ .completed) :
    Accounts { s with db } ∧ Grows s { s with db } := by
  obtain ⟨hfree, saved, hsaved, hrows, horders⟩ := Db.of_create hcreate
  refine h.withDb (.create hcreate) (fun o => by rw [horders, (Db.of_save hsaved).2]) ?_ ?_
  · intro j q hq
    rw [hrows, Db.get?_save hsaved] at hq
    split at hq
    · rename_i hj
      cases hq
      rw [hj]
      exact hown
    · exact h.own j q hq
  · intro j q hq hcompleted
    rw [hrows, Db.get?_save hsaved] at hq
    split at hq
    · cases hq
      exact absurd hcompleted hstatus
    · exact ⟨q, hq, hcompleted, rfl⟩

/-- The rows of the orders change, but for whom they are and which are recorded late. -/
lemma Accounts.withOrders (h : Accounts s) (hpayments : db.payments = s.db.payments)
    (hrows : ∀ o row, db.orders.get? o = some row → s.issued o = some row.payment)
    (hlate : ∀ o, (∃ row, db.orders.get? o = some row ∧ row.lateRefund ≠ .none) ↔
      ∃ row, s.db.orders.get? o = some row ∧ row.lateRefund ≠ .none) :
    Accounts { s with db } ∧ Grows s { s with db } := by
  have hhas : db.HasCompleted ↔ s.db.HasCompleted := by rw [Db.HasCompleted, hpayments]; rfl
  refine ⟨{ h with
    own := fun j q hq => h.own j q (by rw [← hpayments]; exact hq)
    rows := hrows
    completed := fun j q hq => h.completed j q (by rw [← hpayments]; exact hq)
    unpaid := fun hnot => h.unpaid fun hc => hnot (hhas.mpr hc)
    recorded := fun o => (h.recorded o).trans (hlate o).symm
    paidFirst := fun hne => hhas.mpr (h.paidFirst hne) },
    ⟨fun _ _ h => h, fun _ _ => rfl, fun _ h => h, hhas.mpr⟩⟩

lemma Accounts.remember (h : Accounts s) (hissued : s.issued order = some i) :
    Accounts { s with db := (remember s.db i order provider).2 } ∧
      Grows s { s with db := (remember s.db i order provider).2 } := by
  obtain ⟨-, hpayments, horders⟩ := remember_spec s.db i order provider
  refine h.withOrders hpayments (fun o row hrow => ?_) fun o => ?_
  · rw [horders] at hrow
    split at hrow
    · rename_i ho
      cases hrow
      rw [ho, orderRow]
      cases hget : s.db.orders.get? order with
      | none => exact hissued
      | some row => exact h.rows order row hget
    · exact h.rows o row hrow
  · rw [horders]
    split
    · rename_i ho
      subst ho
      rw [orderRow]
      cases hget : s.db.orders.get? o with
      | none => simp
      | some row => simp
    · exact Iff.rfl

lemma Accounts.refund {refunded : Bool} (h : Accounts s) (hlate : order ∈ s.lateOrders)
    (hrefund : refundLocked s.db i order refunded = some db) :
    Accounts { s with db } ∧ Grows s { s with db } := by
  obtain ⟨p, db₁, hget, hpayments, horders, hrest⟩ := refundLocked_spec hrefund
  obtain ⟨row, hrow, hrecorded⟩ := (h.recorded order).mp hlate
  have hne : (if refunded then LateRefund.refunded else .manual) ≠ .none := by
    cases refunded <;> simp
  obtain ⟨hacc, hgrows⟩ := h.withOrders hpayments (fun o row' hrow' => by
      rw [horders] at hrow'
      split at hrow'
      · rename_i ho
        rw [hrow] at hrow'
        cases hrow'
        rw [ho]
        exact h.rows order row hrow
      · exact h.rows o row' hrow') fun o => by
      rw [horders]
      split
      · rename_i ho
        subst ho
        simp only [hrow, Option.map_some, Option.some.injEq, exists_eq_left', ne_eq]
        exact iff_of_true hne hrecorded
      · exact Iff.rfl
  rcases hrest with ⟨hopen, hsave⟩ | rfl
  · have hget₁ : db₁.payments.get? i = some p := hpayments ▸ hget
    have hid : p.id = i := Table.pk_of_get? hget
    have hsaved := hacc.save hsave (fun o ho => hid ▸ h.own i p hget o ho) (by simp)
      (hid ▸ Db.not_completed_of_get? hget₁ hopen)
    exact ⟨hsaved.1, hgrows.trans hsaved.2⟩
  · exact ⟨hacc, hgrows⟩

end Steps

/-! ## The decisions -/

/-- A capture is rightly recorded late: the trip has been paid, and by another order; when
the order has a late capture already this is it, and otherwise it is recorded under its own
gateway payment or under none. -/
structure RightlyLate (s : World) (p : Payment) (order : OrderId) (taken : Option PaymentId) :
    Prop where
  paid : s.db.HasCompleted
  other : p.status = .completed → order ∉ p.own
  again : ∀ row, s.db.orders.get? order = some row → row.lateRefund ≠ .none →
    row.inHand taken = true
  id : (∀ row, s.db.orders.get? order = some row → row.lateRefund = .none) →
    taken = none ∨ taken = s.captured order

section Decide

variable {s : World} {db : Db} {p : Payment} {i : ℕ} {order : OrderId} {provider : Provider}
  {taken : Option PaymentId} {source : Source} {d : Decision}

lemma SameStanding.back {db db' : Db} (h : SameStanding db db') {q : Payment}
    (hq : db'.payments.get? i = some q) :
    ∃ q₀, db.payments.get? i = some q₀ ∧ q₀.status = q.status ∧ q₀.own = q.own := by
  have hi := h i
  rw [hq, Option.map_some, eq_comm, Option.map_eq_some_iff] at hi
  obtain ⟨q₀, hq₀, heq⟩ := hi
  rw [Prod.mk.injEq] at heq
  exact ⟨q₀, hq₀, heq⟩

lemma RightlyLate.notMem_settled (h : RightlyLate s p order taken) (hacc : Accounts s)
    (hget : s.db.payments.get? i = some p) (hissued : s.issued order = some i) :
    order ∉ s.settled := by
  obtain ⟨j, q, hq, hstatus⟩ := Db.hasCompleted_iff.mp h.paid
  obtain ⟨o, hsettled, ho, -⟩ := hacc.completed j q hq hstatus
  rw [hsettled, List.mem_singleton]
  rintro rfl
  -- the completed payment names the order, so it is the one the order was issued to
  have hj := hacc.own j q hq order ho
  rw [hissued, Option.some.injEq] at hj
  subst hj
  rw [hget, Option.some.injEq] at hq
  subst hq
  exact h.other hstatus ho

/-- The books after a record. -/
def World.recorded (s : World) (db : Db) (order : OrderId) (taken : Option PaymentId)
    (new : Bool) : World :=
  if new then { s with db, late := (order, taken) :: s.late } else { s with db }

lemma Accounts.orderRow_payment (h : Accounts s) (hissued : s.issued order = some i) :
    (orderRow s.db i order provider).payment = i := by
  rw [orderRow]
  cases hget : s.db.orders.get? order with
  | none => rfl
  | some row =>
      have hrow := h.rows order row hget
      rw [hissued, Option.some.injEq] at hrow
      exact hrow.symm

lemma Accounts.record {new : Bool} (h : Accounts s) (hget : s.db.payments.get? i = some p)
    (hissued : s.issued order = some i) (hlate : RightlyLate s p order taken)
    (hstep : RecordStep s.db i provider taken order new db) :
    Accounts (s.recorded db order taken new) ∧ Grows s (s.recorded db order taken new) ∧
      order ∈ (s.recorded db order taken new).lateOrders := by
  have hown : ∀ j q, db.payments.get? j = some q → ∀ o ∈ q.own, s.issued o = some j := by
    intro j q hq o ho
    obtain ⟨q₀, hq₀, -, hsame⟩ := hstep.standing.back hq
    exact h.own j q₀ hq₀ o (hsame ▸ ho)
  have hcompleted : ∀ j q, db.payments.get? j = some q → q.status = .completed →
      ∃ q₀, s.db.payments.get? j = some q₀ ∧ q₀.status = .completed ∧ q.own = q₀.own := by
    intro j q hq hstatus
    obtain ⟨q₀, hq₀, hstatus₀, hsame⟩ := hstep.standing.back hq
    exact ⟨q₀, hq₀, hstatus₀.trans hstatus, hsame.symm⟩
  cases new with
  | false =>
      -- this capture is in hand: nothing is written
      have hin : (orderRow s.db i order provider).inHand taken = true := by
        simpa using hstep.isNew
      have hrefund : (orderRow s.db i order provider).lateRefund ≠ .none := by
        rw [PaymentOrder.inHand, Bool.and_eq_true, decide_eq_true_eq] at hin
        exact hin.1
      obtain ⟨row, hrow⟩ : ∃ row, s.db.orders.get? order = some row := by
        cases hrow : s.db.orders.get? order with
        | none => exact absurd (by rw [orderRow, hrow]; rfl) hrefund
        | some row => exact ⟨row, rfl⟩
      have hrowEq : orderRow s.db i order provider = row := by rw [orderRow, hrow]; rfl
      have horders : ∀ o, db.orders.get? o = s.db.orders.get? o := by
        intro o
        rw [hstep.orders]
        split
        · rename_i ho
          rw [ho, hrow, hrowEq]
          rfl
        · rfl
      obtain ⟨hacc, hgrows⟩ := h.withDb hstep.keeps horders hown hcompleted
      exact ⟨hacc, hgrows, (h.recorded order).mpr ⟨row, hrow, hrowEq ▸ hrefund⟩⟩
  | true =>
      have hnot : (orderRow s.db i order provider).inHand taken = false := by
        simpa using hstep.isNew
      have hfree : ∀ row, s.db.orders.get? order = some row → row.lateRefund = .none := by
        intro row hrow
        by_contra hne
        have hin := hlate.again row hrow hne
        rw [orderRow, hrow, Option.getD_some, hin] at hnot
        cases hnot
      have hnew : order ∉ s.lateOrders := by
        intro hmem
        obtain ⟨row, hrow, hne⟩ := (h.recorded order).mp hmem
        exact hne (hfree row hrow)
      refine ⟨?_, ⟨fun _ _ h => h, fun _ _ => rfl, fun o ho => List.mem_cons_of_mem _ ho,
        hstep.keeps.hasCompleted⟩, List.mem_cons_self⟩
      refine
        { own := hown
          rows := fun o row hrow => ?_
          completed := fun j q hq hstatus => ?_
          unpaid := fun hnone => h.unpaid fun hc => hnone (hstep.keeps.hasCompleted hc)
          recorded := fun o => ?_
          once := List.nodup_cons.mpr ⟨hnew, h.once⟩
          ids := fun o t ht => ?_
          paidFirst := fun _ => hstep.keeps.hasCompleted hlate.paid
          apart := fun o ho hmem => ?_
          told := fun o ho => ?_ }
      · rw [show (s.recorded db order taken true).db = db from rfl, hstep.orders] at hrow
        split at hrow
        · rename_i ho
          cases hrow
          rw [ho]
          exact hissued.trans (congrArg some (h.orderRow_payment hissued).symm)
        · exact h.rows o row hrow
      · obtain ⟨q₀, hq₀, hstatus₀, hsame⟩ := hcompleted j q hq hstatus
        rw [hsame]
        exact h.completed j q₀ hq₀ hstatus₀
      · rw [show (s.recorded db order taken true).db = db from rfl, hstep.orders]
        rw [show (s.recorded db order taken true).lateOrders = order :: s.lateOrders from rfl,
          List.mem_cons]
        split
        · rename_i ho
          simp [ho]
        · rename_i ho
          rw [← h.recorded o]
          simp [ho]
      · rcases List.mem_cons.mp ht with heq | ht
        · cases heq
          exact hlate.id hfree
        · exact h.ids o t ht
      · rcases List.mem_cons.mp hmem with rfl | hmem
        · exact hlate.notMem_settled h hget hissued ho
        · exact h.apart o ho hmem
      · exact (h.told o ho).imp id (List.mem_cons_of_mem _)

lemma not_hasCompleted_of_stands (hget : s.db.payments.get? i = some p)
    (hopen : p.status ≠ .completed) (hstands : superseded s.db p = false) :
    ¬ s.db.HasCompleted := by
  rintro ⟨q, hq, hstatus⟩
  rw [superseded, Bool.or_eq_false_iff, List.any_eq_false] at hstands
  have hid : q.id = p.id := by simpa [hstatus] using hstands.2 q hq
  have hsame := Table.mem_iff_get?.mp hq
  rw [hid, Table.pk_of_get? hget, hget, Option.some.injEq] at hsame
  exact hopen (hsame ▸ hstatus)

lemma Accounts.settle (h : Accounts s) (hget : s.db.payments.get? i = some p)
    (hissued : s.issued order = some i) (hopen : p.status ≠ .completed)
    (hstands : superseded s.db p = false) (hstep : SettleStep s.db i order db) :
    Accounts { s with db, settled := order :: s.settled } ∧
      Grows s { s with db, settled := order :: s.settled } := by
  have hnot := not_hasCompleted_of_stands hget hopen hstands
  have hsettled : s.settled = [] := h.unpaid hnot
  have hlate : s.late = [] := by
    by_contra hne
    exact hnot (h.paidFirst hne)
  obtain ⟨p', hp', hstatus', hmem, honly⟩ := hstep.row
  have hhas : db.HasCompleted := Db.hasCompleted_iff.mpr ⟨i, p', hp', hstatus'⟩
  refine ⟨{ h with
    own := fun j q hq o ho => ?_
    rows := fun o row hrow => h.rows o row (by rw [← hstep.orders]; exact hrow)
    completed := fun j q hq hstatus => ?_
    unpaid := fun hnone => absurd hhas hnone
    recorded := fun o => by rw [show db.orders.get? o = _ by rw [hstep.orders]]; exact h.recorded o
    paidFirst := fun _ => hhas
    apart := fun o _ hmem => by rw [World.lateOrders, show s.late = [] from hlate] at hmem; cases hmem
    told := fun o ho => (h.told o ho).imp (List.mem_cons_of_mem _) id },
    ⟨fun _ _ h => h, fun _ _ => rfl, fun _ h => h, hstep.keeps.hasCompleted⟩⟩
  · by_cases hj : j = i
    · subst hj
      rw [show db.payments.get? j = _ from hp', Option.some.injEq] at hq
      subst hq
      rw [honly o ho]
      exact hissued
    · obtain ⟨q₀, hq₀, hsame, -⟩ := hstep.others j q hj hq
      exact h.own j q₀ hq₀ o (hsame ▸ ho)
  · by_cases hj : j = i
    · subst hj
      rw [show db.payments.get? j = _ from hp', Option.some.injEq] at hq
      subst hq
      exact ⟨order, by rw [hsettled], hmem, honly⟩
    · obtain ⟨q₀, hq₀, -, hwas⟩ := hstep.others j q hj hq
      exact absurd (Db.hasCompleted_iff.mpr ⟨j, q₀, hq₀, hwas hstatus⟩) hnot

/-- The answer to the rider or the gateway comes last. -/
lemma Accounts.answer {s' : World} (h : Accounts s') (source : Source) (order : OrderId)
    (hknown : source = .verify ∨ source = .webhook → (s'.captured order).isSome = true →
      order ∈ s'.settled ∨ order ∈ s'.lateOrders) :
    Accounts (s'.answer source order) ∧ Grows s' (s'.answer source order) := by
  cases source with
  | verify => exact h.tell (hknown (.inl rfl))
  | webhook => exact h.tell (hknown (.inr rfl))
  | poll => exact ⟨h, .refl s'⟩
  | recon => exact ⟨h, .refl s'⟩

lemma Accounts.mem_settled (h : Accounts s) (hget : s.db.payments.get? i = some p)
    (hcompleted : p.status = .completed) (hnot : isLateCapture p order taken = false) :
    order ∈ s.settled := by
  obtain ⟨o, hsettled, ho, honly⟩ := h.completed i p hget hcompleted
  have hmem : order ∈ p.own := by
    by_contra hne
    rw [isLateCapture, hcompleted] at hnot
    have hown : p.own.isEmpty = false := by
      rw [List.isEmpty_eq_false_iff]
      exact List.ne_nil_of_mem ho
    simp [hne, hown] at hnot
  rw [hsettled, honly order hmem]
  exact List.mem_singleton_self o

/-- Every decision keeps the accounts, provided that what it records late is rightly late. -/
theorem Accounts.decide (h : Accounts s) (hissued : s.issued order = some i)
    (hright : ∀ p, s.db.payments.get? i = some p → recordsLate source s.db p order taken = true →
      RightlyLate s p order taken)
    (hsettling : Settling s.db source i provider order taken d db) :
    Accounts ({ s with db }.decided source order taken d) ∧
      Grows s ({ s with db }.decided source order taken d) ∧
      (d = .late → order ∈ ({ s with db }.decided source order taken d).lateOrders) := by
  cases hsettling with
  | alreadyCompleted get completed notLate =>
      obtain ⟨hacc, hgrows⟩ := h.answer source order fun hsource _ =>
        .inl (h.mem_settled get completed (notLate hsource))
      exact ⟨hacc, hgrows, fun hd => by cases hd⟩
  | settled get opened stands step =>
      obtain ⟨hsettle, hgrows⟩ := h.settle get hissued opened stands step
      obtain ⟨hacc, hanswer⟩ := hsettle.answer source order fun _ _ =>
        .inl List.mem_cons_self
      exact ⟨hacc, hgrows.trans hanswer, fun hd => by cases hd⟩
  | @recorded p new _ get why step =>
      obtain ⟨hrecord, hgrows, hmem⟩ := h.record get hissued (hright p get why) step
      obtain ⟨hacc, hanswer⟩ := hrecord.answer source order fun _ _ => .inr hmem
      have heq : ({ s with db }.decided source order taken (if new then .late else .inHand)) =
          (s.recorded db order taken new).answer source order := by
        cases new <;> rfl
      rw [heq]
      exact ⟨hacc, hgrows.trans hanswer, fun _ => hanswer.late order hmem⟩

end Decide

end SaaradhiGo.Payments
