/-
Which orders are still found, whatever the entry points do.

An order is found by its row in the table of orders, or else by the payment that names it.
`create_order` remembers the order it issues; a switch and a retry do not, so their order is
found only while the payment names it.  An order is lost exactly when a payment is written
over that was the last to name it.
-/
import SaaradhiGo.Payments.Walk

namespace SaaradhiGo.Payments

open Interleave

/-! ## Finding an order -/

/-- Every order that was issued is resolved to the payment it was issued to. -/
def Resolves (s : World) : Prop :=
  ∀ order i, s.issued order = some i → ∃ p, paymentForOrder s.db order = some p ∧ p.id = i

/-- The orders are filed, and were issued to payments there are. -/
structure Kept (s : World) : Prop extends Filed s where
  exists_payment : ∀ order i, s.issued order = some i → (s.db.payments.get? i).isSome

/-- The order has a row, or its payment names it. -/
def Named (s : World) (order : OrderId) (i : ℕ) : Prop :=
  (s.db.orders.get? order).isSome ∨ ∃ p, s.db.payments.get? i = some p ∧ order ∈ p.own

lemma Kept.resolves_iff {s : World} (h : Kept s) {order : OrderId} {i : ℕ}
    (hissued : s.issued order = some i) :
    (∃ p, paymentForOrder s.db order = some p ∧ p.id = i) ↔ Named s order i := by
  rw [Named, paymentForOrder]
  cases hrow : s.db.orders.get? order with
  | some row =>
      have hpayment : row.payment = i := by
        have hfiled := h.rows order row hrow
        rw [hissued, Option.some.injEq] at hfiled
        exact hfiled.symm
      obtain ⟨p, hp⟩ := Option.isSome_iff_exists.mp (h.exists_payment order i hissued)
      refine iff_of_true ⟨p, ?_, Table.pk_of_get? hp⟩ (.inl rfl)
      show s.db.payments.get? row.payment = some p
      rw [hpayment]
      exact hp
  | none =>
      constructor
      · rintro ⟨p, hp, rfl⟩
        have hmem := List.mem_of_getLast? hp
        rw [List.mem_filter, decide_eq_true_eq] at hmem
        exact .inr ⟨p, Table.mem_iff_get?.mp hmem.1, hmem.2⟩
      · rintro (hnone | ⟨p, hp, hown⟩)
        · cases hnone
        have hmem : p ∈ s.db.payments.rows.filter fun p => order ∈ p.own := by
          rw [List.mem_filter, decide_eq_true_eq]
          exact ⟨(Table.mem_of_get? hp).1, hown⟩
        obtain ⟨q, hq⟩ : ∃ q, (s.db.payments.rows.filter fun p => order ∈ p.own).getLast? = some q :=
          Option.isSome_iff_exists.mp (List.getLast?_isSome.mpr (List.ne_nil_of_mem hmem))
        refine ⟨q, hq, ?_⟩
        have hqmem := List.mem_of_getLast? hq
        rw [List.mem_filter, decide_eq_true_eq] at hqmem
        -- only the payment it was issued to names it
        have hqi := h.own q.id q (Table.mem_iff_get?.mp hqmem.1) order hqmem.2
        rw [hissued, Option.some.injEq] at hqi
        exact hqi.symm

/-! ## What an operation does to the orders -/

/-- The payment an operation writes the orders of, and the orders it has then. -/
def rewrites : PayOp → Choice → World → Option (ℕ × List OrderId)
  | .saveFailed p, e, _ => if e.dbRaises then none else some (p.id, p.own)
  | .saveIssued p _ _ order, e, s =>
      if e.dbRaises || !s.fresh (some order) then none else some (p.id, [order])
  | .settle _ i _ order _, e, s =>
      if e.dbRaises then none
      else match s.db.payments.get? i with
        | none => none
        | some p =>
            if p.status = .completed || superseded s.db p then none else some (i, [order])
  | .retryIssue i _, e, s =>
      if e.dbRaises || !s.fresh e.order then none
      else match s.db.payments.get? i with
        | none => none
        | some p => if p.status = .completed then none else some (i, e.order.toList)
  | _, _, _ => none

/-- The operation keeps every order found: an order its payment no longer names has a row. -/
def Remembers (o : PayOp) (e : Choice) (s : World) : Prop :=
  ∀ i own, rewrites o e s = some (i, own) → ∀ p, s.db.payments.get? i = some p →
    ∀ order ∈ p.own, order ∈ own ∨ (s.db.orders.get? order).isSome

instance (o : PayOp) (e : Choice) (s : World) : Decidable (Remembers o e s) :=
  decidable_of_iff (∀ x ∈ rewrites o e s, ∀ p ∈ s.db.payments.get? x.1, ∀ order ∈ p.own,
      order ∈ x.2 ∨ (s.db.orders.get? order).isSome)
    ⟨fun h i own hwrite p hp => h (i, own) hwrite p hp,
      fun h x hx p hp => h x.1 x.2 hx p hp⟩

/-- An operation on the orders: it writes over the orders of one payment at most, issues
orders that are named, and forgets no row. -/
structure Filing (rewritten : Option (ℕ × List OrderId)) (s s' : World) : Prop where
  issued : ∀ order i, s.issued order = some i → s'.issued order = some i
  news : ∀ order i, s'.issued order = some i → s.issued order = some i ∨
    ∃ p, s'.db.payments.get? i = some p ∧ order ∈ p.own
  own : ∀ i p, s'.db.payments.get? i = some p →
    (∃ q, s.db.payments.get? i = some q ∧ p.own = q.own) ∨ ∀ order ∈ p.own, s'.issued order = some i
  others : ∀ i q, s.db.payments.get? i = some q → ∃ p, s'.db.payments.get? i = some p ∧
    ((∀ own, rewritten ≠ some (i, own)) → p.own = q.own)
  written : ∀ i own p, rewritten = some (i, own) → s'.db.payments.get? i = some p →
    ∀ order, order ∈ p.own ↔ order ∈ own
  rows : ∀ order row, s'.db.orders.get? order = some row → s'.issued order = some row.payment
  rowsKept : ∀ order, (s.db.orders.get? order).isSome → (s'.db.orders.get? order).isSome
  noRow : (∃ i own, rewritten = some (i, own)) →
    ∀ order, s'.db.orders.get? order = s.db.orders.get? order

section Filing

variable {s s' : World} {rewritten : Option (ℕ × List OrderId)}

lemma Filing.kept (h : Filing rewritten s s') (hkept : Kept s) : Kept s' where
  own i p hp order ho := by
    rcases h.own i p hp with ⟨q, hq, hsame⟩ | hissued
    · exact h.issued order i (hkept.own i q hq order (hsame ▸ ho))
    · exact hissued order ho
  rows := h.rows
  exists_payment order i hissued := by
    rcases h.news order i hissued with hbefore | ⟨p, hp, -⟩
    · obtain ⟨q, hq⟩ := Option.isSome_iff_exists.mp (hkept.exists_payment order i hbefore)
      obtain ⟨p, hp, -⟩ := h.others i q hq
      rw [hp]
      rfl
    · rw [hp]
      rfl

/-- An operation keeps the orders named exactly when it forgets none. -/
lemma Filing.named_iff (h : Filing rewritten s s') (hkept : Kept s)
    (hnamed : ∀ order i, s.issued order = some i → Named s order i) :
    (∀ order i, s'.issued order = some i → Named s' order i) ↔
      ∀ i own, rewritten = some (i, own) → ∀ p, s.db.payments.get? i = some p →
        ∀ order ∈ p.own, order ∈ own ∨ (s.db.orders.get? order).isSome := by
  constructor
  · intro hafter i own hwrite q hq order ho
    obtain ⟨p, hp, -⟩ := h.others i q hq
    rcases hafter order i (h.issued order i (hkept.own i q hq order ho)) with hrow | ⟨p', hp', hown⟩
    · rw [h.noRow ⟨i, own, hwrite⟩] at hrow
      exact .inr hrow
    · exact .inl ((h.written i own p' hwrite hp' order).mp hown)
  · intro hremembers order i hissued
    rcases h.news order i hissued with hbefore | hnew
    · rcases hnamed order i hbefore with hrow | ⟨q, hq, hown⟩
      · exact .inl (h.rowsKept order hrow)
      · obtain ⟨p, hp, hsame⟩ := h.others i q hq
        by_cases hwrite : ∃ own, rewritten = some (i, own)
        · obtain ⟨own, hwrite⟩ := hwrite
          rcases hremembers i own hwrite q hq order hown with hmem | hrow
          · exact .inr ⟨p, hp, (h.written i own p hwrite hp order).mpr hmem⟩
          · exact .inl (h.rowsKept order hrow)
        · exact .inr ⟨p, hp, by rw [hsame fun own heq => hwrite ⟨own, heq⟩]; exact hown⟩
    · exact .inr hnew

lemma filing_same {db : Db} {s' : World} (hdb : s'.db = db)
    (hissued : s'.issued = s.issued)
    (hpayments : ∀ i, (db.payments.get? i).map Payment.own = (s.db.payments.get? i).map Payment.own)
    (hrows : ∀ order row, db.orders.get? order = some row → s.issued order = some row.payment)
    (hrowsKept : ∀ order, (s.db.orders.get? order).isSome → (db.orders.get? order).isSome) :
    Filing none s s' where
  issued order i h := by rw [hissued]; exact h
  news order i h := .inl (by rw [← hissued]; exact h)
  own i p hp := by
    have hmap := hpayments i
    rw [← hdb, hp, Option.map_some, eq_comm, Option.map_eq_some_iff] at hmap
    obtain ⟨q, hq, hsame⟩ := hmap
    exact .inl ⟨q, hq, hsame.symm⟩
  others i q hq := by
    have hmap := hpayments i
    rw [hq, Option.map_some, Option.map_eq_some_iff] at hmap
    obtain ⟨p, hp, hsame⟩ := hmap
    exact ⟨p, hdb ▸ hp, fun _ => hsame⟩
  written _ _ _ h := by cases h
  rows order row h := by rw [hissued]; exact hrows order row (by rw [← hdb]; exact h)
  rowsKept order h := by rw [hdb]; exact hrowsKept order h
  noRow h := by
    obtain ⟨i, own, h⟩ := h
    cases h

/-- Nothing that concerns the orders is written. -/
lemma filing_refl (hkept : Kept s) (hdb : s'.db = s.db) (hissued : s'.issued = s.issued) :
    Filing none s s' :=
  filing_same hdb hissued (fun _ => rfl) hkept.rows fun _ h => h

lemma filing_write {db : Db} {order : Option OrderId} {i : ℕ} {amountMinor : ℤ} (hkept : Kept s)
    (hfresh : s.fresh order = true)
    (hown : ∀ j q, db.payments.get? j = some q →
      (∃ q₀, s.db.payments.get? j = some q₀ ∧ q.own = q₀.own) ∨
        ∀ o ∈ q.own, s.issued o = some j ∨ j = i ∧ order = some o)
    (hothers : ∀ j q, s.db.payments.get? j = some q → ∃ p, db.payments.get? j = some p ∧
      ((∀ own, rewritten ≠ some (j, own)) → p.own = q.own))
    (hwritten : ∀ j own p, rewritten = some (j, own) → db.payments.get? j = some p →
      ∀ o, o ∈ p.own ↔ o ∈ own)
    (hnamed : ∀ o, order = some o → ∃ q, db.payments.get? i = some q ∧ o ∈ q.own)
    (horders : ∀ o, db.orders.get? o = s.db.orders.get? o) :
    Filing rewritten s ({ s with db }.issue order i amountMinor) := by
  have hold : ∀ o j, s.issued o = some j →
      ({ s with db }.issue order i amountMinor).issued o = some j := by
    intro o j hj
    cases order with
    | none => exact hj
    | some order =>
        have hne : o ≠ order := by
          rintro rfl
          simp [World.fresh, hj] at hfresh
        simpa [World.issue, hne] using hj
  have hself : ∀ o, order = some o →
      ({ s with db }.issue order i amountMinor).issued o = some i := by
    rintro o rfl
    exact issued_issue _ o i amountMinor
  exact
    { issued := hold
      news := fun o j hj => by
        cases order with
        | none => exact .inl hj
        | some order =>
            by_cases ho : o = order
            · subst ho
              rw [hself o rfl, Option.some.injEq] at hj
              subst hj
              exact .inr (hnamed o rfl)
            · exact .inl (by simpa [World.issue, ho] using hj)
      own := fun j q hq => by
        rcases hown j q hq with hsame | hnew
        · exact .inl hsame
        · refine .inr fun o ho => ?_
          rcases hnew o ho with hbefore | ⟨rfl, horder⟩
          · exact hold o j hbefore
          · exact hself o horder
      others := hothers
      written := hwritten
      rows := fun o row hrow => hold o _ (hkept.rows o row ((horders o).symm.trans hrow))
      rowsKept := fun o ho => (congrArg Option.isSome (horders o)).trans ho
      noRow := fun _ o => horders o }

end Filing

/-! ## The operations -/

/-- What an entry point knows of the orders when it comes to an operation. -/
def KnowsIssued : PayOp → World → Prop
  | .saveFailed p, s => ∀ o ∈ p.own, s.issued o = some p.id
  | .remember i order _, s => s.issued order = some i
  | .settle _ i _ order _, s => s.issued order = some i
  | _, _ => True

section Operations

variable {s : World} {e : Choice}

lemma map_own_of_sameStanding {db db' : Db} (h : SameStanding db db') (i : ℕ) :
    (db'.payments.get? i).map Payment.own = (db.payments.get? i).map Payment.own := by
  have hi := congrArg (Option.map Prod.snd) (h i)
  simpa [Option.map_map, Function.comp_def] using hi

@[simp] lemma issued_tell (s : World) (order : OrderId) : (s.tell order).issued = s.issued := by
  rw [World.tell]
  split <;> rfl

@[simp] lemma issued_decided (s : World) (source : Source) (order : OrderId)
    (taken : Option PaymentId) (d : Decision) :
    (s.decided source order taken d).issued = s.issued := by
  cases d <;> cases source <;> simp [World.decided, World.answer]

/-- A payment that stands and is not completed is settled, and no payment is deleted. -/
lemma settleLocked_of_stands {db : Db} {i : ℕ} {p : Payment} (source : Source)
    (provider : Provider) (order : OrderId) (taken : Option PaymentId)
    (hget : db.payments.get? i = some p) (hopen : p.status ≠ .completed)
    (hstands : superseded db p = false) :
    ∃ db', settleLocked source db i provider order taken = some (.settled, db') ∧
      ∀ j, (db.payments.get? j).isSome → (db'.payments.get? j).isSome := by
  have hid : p.id = i := Table.pk_of_get? hget
  have hsome : ∀ {db₁ db₂ : Db} {q : Payment}, db₁.save q = some db₂ →
      ∀ j, (db₁.payments.get? j).isSome → (db₂.payments.get? j).isSome := by
    intro db₁ db₂ q hsave j hj
    rw [Db.get?_save hsave]
    split
    · rfl
    · exact hj
  -- nothing else is completed, so the save is not refused
  have hsave : ∀ q : Payment, q.id = i → ∃ db₁, db.save q = some db₁ := by
    intro q hq
    refine ⟨_, dif_pos (db.oneCompleted.put_of_forall fun x hx hne k _ => ?_)⟩
    rw [superseded, Bool.or_eq_false_iff, List.any_eq_false] at hstands
    have hx := hstands.2 x hx
    have hstatus : x.status ≠ .completed := by
      intro hs
      simp [hs, hid] at hx
      exact hne (hx.trans hq.symm)
    rw [Payment.completedKey, if_neg hstatus]
    exact fun h => by cases h
  have hpoll : ∃ db', pollLocked db i provider order taken = some (.settled, db') ∧
      ∀ j, (db.payments.get? j).isSome → (db'.payments.get? j).isSome := by
    obtain ⟨db₁, h₁⟩ := hsave { settledBy p order with status := .completed } hid
    refine ⟨db₁, ?_, hsome h₁⟩
    simp [pollLocked, hget, hopen, hstands, h₁]
  cases source with
  | verify =>
      obtain ⟨db₁, h₁⟩ := hsave
        { settledBy { p with gatewayPaymentId := taken } order with status := .completed } hid
      have hfail : ∃ db₂, failReplaced db₁ p.id = some db₂ ∧
          ∀ j, (db₁.payments.get? j).isSome → (db₂.payments.get? j).isSome := by
        rw [failReplaced]
        split
        · exact ⟨db₁, rfl, fun _ h => h⟩
        · rename_i original _
          obtain ⟨db₂, h₂⟩ : ∃ db₂, db₁.save { original with status := .failed } = some db₂ :=
            Db.save_of_ne_completed (by simp)
          exact ⟨db₂, h₂, hsome h₂⟩
      obtain ⟨db₂, h₂, hrows⟩ := hfail
      refine ⟨db₂, ?_, fun j hj => hrows j (hsome h₁ j hj)⟩
      have hlate : isLateCapture p order taken = false := by simp [isLateCapture, hopen]
      have hsame : superseded db { p with gatewayPaymentId := taken } = false := hstands
      simp [settleLocked, verifyLocked, hget, hlate, hopen, hsame, h₁, h₂]
  | webhook =>
      obtain ⟨db₁, h₁⟩ := hsave
        { settledBy p order with status := .completed, gatewayPaymentId := some (strId taken) } hid
      refine ⟨db₁, ?_, hsome h₁⟩
      have hlate : isLateCapture p order taken = false := by simp [isLateCapture, hopen]
      simp [settleLocked, webhookLocked, hget, hlate, hopen, hstands, h₁]
  | poll => exact hpoll
  | recon => exact hpoll

lemma filing_save {db : Db} {p : Payment} {order : Option OrderId} {own : List OrderId}
    {i : ℕ} {amountMinor : ℤ} (hkept : Kept s) (hfresh : s.fresh order = true)
    (hsave : s.db.save p = some db) (hid : p.id = i)
    (hp : ∀ o ∈ p.own, s.issued o = some i ∨ order = some o)
    (hnew : ∀ o, order = some o → o ∈ p.own) (hown : ∀ o, o ∈ p.own ↔ o ∈ own) :
    Filing (some (i, own)) s ({ s with db }.issue order i amountMinor) := by
  subst hid
  refine filing_write hkept hfresh ?_ ?_ ?_ ?_ fun o => by rw [(Db.of_save hsave).2]
  · intro j q hq
    rw [Db.get?_save hsave] at hq
    split at hq
    · rename_i hj
      cases hq
      subst hj
      exact .inr fun o ho => (hp o ho).imp id fun h => ⟨rfl, h⟩
    · exact .inl ⟨q, hq, rfl⟩
  · intro j q hq
    rw [Db.get?_save hsave]
    split
    · rename_i hj
      exact ⟨p, rfl, fun hne => absurd (by rw [hj]) (hne own)⟩
    · exact ⟨q, hq, fun _ => rfl⟩
  · intro j own' q hwrite hq o
    cases hwrite
    rw [Db.get?_save_self hsave rfl, Option.some.injEq] at hq
    subst hq
    exact hown o
  · exact fun o ho => ⟨p, Db.get?_save_self hsave rfl, hnew o ho⟩

lemma filing_create {db : Db} {p : Payment} {order : Option OrderId} {i : ℕ} {amountMinor : ℤ}
    (hkept : Kept s) (hfresh : s.fresh order = true) (hcreate : s.db.create p = some (i, db))
    (hp : ∀ o, o ∈ p.own ↔ order = some o) :
    Filing none s ({ s with db }.issue order i amountMinor) := by
  obtain ⟨hfree, saved, hsave, hrows, horders⟩ := Db.of_create hcreate
  refine filing_write hkept hfresh ?_ ?_ (fun _ _ _ h => by cases h) ?_
    fun o => by rw [horders, (Db.of_save hsave).2]
  · intro j q hq
    rw [hrows, Db.get?_save hsave] at hq
    split at hq
    · rename_i hj
      cases hq
      exact .inr fun o ho => .inr ⟨hj, (hp o).mp ho⟩
    · exact .inl ⟨q, hq, rfl⟩
  · intro j q hq
    have hne : j ≠ i := by
      rintro rfl
      rw [hfree] at hq
      cases hq
    rw [hrows, Db.get?_save_of_ne hsave hne]
    exact ⟨q, hq, fun _ => rfl⟩
  · intro o ho
    rw [hrows]
    exact ⟨_, Db.get?_save_self hsave rfl, (hp o).mpr ho⟩

lemma filing_switch {i : ℕ} {terms : SwitchTerms} {new : Option ℕ} {db : Db} (hkept : Kept s)
    (hfresh : s.fresh terms.order = true)
    (hswitch : switchLocked s.db i terms = some (new, db)) :
    Filing none s (new.elim { s with db } fun id =>
      { s with db }.issue terms.order id terms.amountMinor) := by
  rw [switchLocked] at hswitch
  split at hswitch
  · cases hswitch
  rename_i p hget
  have hid : p.id = i := Table.pk_of_get? hget
  split at hswitch
  · cases hswitch
    exact filing_refl hkept rfl rfl
  obtain ⟨db₁, hsave₁, hrest⟩ := Option.bind_eq_some_iff.mp hswitch
  have hmap₁ : ∀ j, (db₁.payments.get? j).map Payment.own =
      (s.db.payments.get? j).map Payment.own := by
    intro j
    rw [Db.get?_save hsave₁]
    split
    · rename_i hj
      rw [hj, show ({ p with status := .failed } : Payment).id = i from hid, hget]
      rfl
    · rfl
  split at hrest
  · cases hrest
    refine filing_same rfl rfl hmap₁ (fun o row h => hkept.rows o row ?_) fun o h => ?_
    · rw [← (Db.of_save hsave₁).2]
      exact h
    · show (db.orders.get? o).isSome
      rw [(Db.of_save hsave₁).2]
      exact h
  rename_i q hq
  obtain ⟨⟨newId, db₂⟩, hcreate, hrest⟩ := Option.bind_eq_some_iff.mp hrest
  obtain ⟨db₃, hsave₃, heq⟩ := Option.map_eq_some_iff.mp hrest
  cases heq
  obtain ⟨hfree, saved, hsaved, hrows, horders⟩ := Db.of_create hcreate
  have hget₁ := Db.get?_save_self hsave₁ (i := i) hid
  have hne : newId ≠ i := by
    rintro rfl
    rw [hfree] at hget₁
    cases hget₁
  have hqown : ∀ o, o ∈ q.own ↔ terms.order = some o := by
    cases terms with
    | refused => cases hq
    | cash amountMinor =>
        cases hq
        simp [Payment.mem_own, SwitchTerms.order]
    | online amountMinor issued =>
        cases hq
        simp [Payment.mem_own, SwitchTerms.order]
  -- the rows are those of before, the old one marked, and the new one
  have hrow : ∀ j, db.payments.get? j =
      if j = i then some { p with status := .failed, replacedBy := some newId }
      else if j = newId then some { q with id := newId } else db₁.payments.get? j := by
    intro j
    rw [Db.get?_save hsave₃, show ({ p with status := .failed, replacedBy := some newId } :
      Payment).id = i from hid, hrows, Db.get?_save hsaved]
  refine filing_write hkept hfresh ?_ ?_ (fun _ _ _ h => by cases h) ?_ fun o => by
    rw [(Db.of_save hsave₃).2, horders, (Db.of_save hsaved).2, (Db.of_save hsave₁).2]
  · intro j r hr
    rw [hrow] at hr
    split at hr
    · rename_i hj
      cases hr
      exact .inl ⟨p, hj ▸ hget, rfl⟩
    · split at hr
      · rename_i hj
        cases hr
        exact .inr fun o ho => .inr ⟨hj, (hqown o).mp ho⟩
      · have hmap := hmap₁ j
        rw [hr, Option.map_some, eq_comm, Option.map_eq_some_iff] at hmap
        obtain ⟨r₀, hr₀, hsame⟩ := hmap
        exact .inl ⟨r₀, hr₀, hsame.symm⟩
  · intro j r hr
    rw [hrow]
    split
    · rename_i hj
      rw [hj, hget, Option.some.injEq] at hr
      subst hr
      exact ⟨_, rfl, fun _ => rfl⟩
    · have hmap := hmap₁ j
      rw [hr, Option.map_some, Option.map_eq_some_iff] at hmap
      obtain ⟨r₁, hr₁, hsame⟩ := hmap
      rw [if_neg, hr₁]
      · exact ⟨r₁, rfl, fun _ => hsame⟩
      · rintro rfl
        rw [hfree] at hr₁
        cases hr₁
  · intro o ho
    rw [hrow, if_neg hne, if_pos rfl]
    exact ⟨_, rfl, (hqown o).mpr ho⟩

lemma filing_settle {source : Source} {i : ℕ} {provider : Provider} {order : OrderId}
    {taken : Option PaymentId} {d : Decision} {db : Db} (hkept : Kept s)
    (hissued : s.issued order = some i) (hraises : e.dbRaises = false)
    (hsettle : settleLocked source s.db i provider order taken = some (d, db)) :
    Filing (rewrites (.settle source i provider order taken) e s) s
      ({ s with db }.decided source order taken d) := by
  have hsame : ∀ d, ({ s with db }.decided source order taken d).issued = s.issued :=
    fun d => issued_decided _ source order taken d
  have hdb : ∀ d, ({ s with db }.decided source order taken d).db = db :=
    fun d => by cases d <;> cases source <;> simp [World.decided, World.answer]
  cases settleLocked_spec hsettle with
  | @alreadyCompleted p get completed notLate =>
      have hnone : rewrites (.settle source i provider order taken) e s = none := by
        simp [rewrites, hraises, get, completed]
      rw [hnone]
      exact filing_refl hkept (hdb _) (hsame _)
  | @recorded p new _ get why step =>
      -- a late capture rewrites no orders of the payment
      have hnot : p.status = .completed ∨ superseded s.db p = true := by
        by_contra hnot
        rw [not_or] at hnot
        cases source <;> simp [recordsLate, isLateCapture, hnot] at why
      have hnone : rewrites (.settle source i provider order taken) e s = none := by
        rcases hnot with hnot | hnot
        · simp [rewrites, get, hnot]
        · simp [rewrites, get, hnot]
      rw [hnone]
      refine filing_same (hdb _) (hsame _) (map_own_of_sameStanding step.standing) ?_ ?_
      · intro o row hrow
        rw [step.orders] at hrow
        split at hrow
        · rename_i ho
          have hpayment : row.payment = (orderRow s.db i order provider).payment := by
            split at hrow <;> cases hrow <;> rfl
          rw [hpayment, ho, orderRow]
          -- the row of the order is made for the payment it was issued to, or is there
          cases hget : s.db.orders.get? order with
          | none => exact hissued
          | some row => exact hkept.rows order row hget
        · exact hkept.rows o row hrow
      · intro o ho
        rw [step.orders]
        split
        · rfl
        · exact ho
  | @settled p _ get opened stands step =>
      obtain ⟨db', hsettle', hrows⟩ := settleLocked_of_stands source provider order taken
        get opened stands
      rw [hsettle, Option.some.injEq, Prod.mk.injEq] at hsettle'
      obtain ⟨-, rfl⟩ := hsettle'
      obtain ⟨p', hp', -, hmem, honly⟩ := step.row
      have hback : ∀ j q, j ≠ i → db.payments.get? j = some q →
          ∃ q₀, s.db.payments.get? j = some q₀ ∧ q.own = q₀.own := by
        intro j q hj hq
        obtain ⟨q₀, hq₀, hown, -⟩ := step.others j q hj hq
        exact ⟨q₀, hq₀, hown⟩
      have hsome : rewrites (.settle source i provider order taken) e s = some (i, [order]) := by
        simp [rewrites, hraises, get, opened, stands]
      rw [hsome]
      -- the payment that is settled names the order that paid it, and nothing else
      refine
        { issued := fun o j h => by rw [hsame]; exact h
          news := fun o j h => .inl (by rw [← hsame]; exact h)
          own := fun j q hq => ?_
          others := fun j q hq => ?_
          written := fun j own q hwrite hq o => ?_
          rows := fun o row hrow => ?_
          rowsKept := fun o ho => ?_
          noRow := fun _ o => ?_ }
      · rw [hdb] at hq
        by_cases hj : j = i
        · subst hj
          rw [hp', Option.some.injEq] at hq
          subst hq
          exact .inr fun o ho => by rw [honly o ho, hsame]; exact hissued
        · exact .inl (hback j q hj hq)
      · rw [hdb]
        obtain ⟨r, hr⟩ := Option.isSome_iff_exists.mp (hrows j (by rw [hq]; rfl))
        refine ⟨r, hr, fun hne => ?_⟩
        have hj : j ≠ i := by
          rintro rfl
          exact hne [order] rfl
        obtain ⟨r₀, hr₀, hown⟩ := hback j r hj hr
        rw [hq, Option.some.injEq] at hr₀
        rw [hown, hr₀]
      · cases hwrite
        rw [hdb, hp', Option.some.injEq] at hq
        subst hq
        rw [List.mem_singleton]
        exact ⟨honly o, fun ho => ho ▸ hmem⟩
      · rw [hsame]
        exact hkept.rows o row (by rw [← step.orders, ← hdb]; exact hrow)
      · rw [hdb, step.orders]
        exact ho
      · rw [hdb, step.orders]

lemma filing_retry {i : ℕ} {amountMinor : ℤ} {done : Bool} {db : Db} (hkept : Kept s)
    (hraises : e.dbRaises = false) (hfresh : s.fresh e.order = true)
    (hretry : retryLocked s.db i ⟨e.provider, e.order⟩ = some (done, db)) :
    Filing (rewrites (.retryIssue i amountMinor) e s) s
      (if done then { s with db }.issue e.order i amountMinor else { s with db }) := by
  rw [retryLocked] at hretry
  split at hretry
  · cases hretry
  rename_i p hget
  have hid : p.id = i := Table.pk_of_get? hget
  split at hretry
  · rename_i hcompleted
    cases hretry
    have hnone : rewrites (.retryIssue i amountMinor) e s = none := by
      simp [rewrites, hget, hcompleted]
    rw [hnone]
    exact filing_refl hkept rfl rfl
  rename_i hopen
  obtain ⟨db₁, hsave, heq⟩ := Option.map_eq_some_iff.mp hretry
  cases heq
  have hsome : rewrites (.retryIssue i amountMinor) e s = some (i, e.order.toList) := by
    simp [rewrites, hraises, hfresh, hget, hopen]
  rw [hsome]
  have hown : ∀ o, o ∈ { p with
      gatewayOrderId := e.order
      cashfreeOrderId := e.order
      paymentGateway := e.provider
      status := .processing : Payment }.own ↔ e.order = some o := by
    simp [Payment.mem_own]
  exact filing_save hkept hfresh hsave hid (fun o ho => .inr ((hown o).mp ho))
    (fun o ho => (hown o).mpr ho) fun o => (hown o).trans (by simp)

/-- A decision that raises rewrites nothing. -/
lemma rewrites_settle_of_none {source : Source} {i : ℕ} {provider : Provider} {order : OrderId}
    {taken : Option PaymentId} (h : settleLocked source s.db i provider order taken = none) :
    rewrites (.settle source i provider order taken) e s = none := by
  cases hget : s.db.payments.get? i with
  | none => simp [rewrites, hget]
  | some p =>
      by_cases hnot : p.status = .completed ∨ superseded s.db p = true
      · rcases hnot with hnot | hnot
        · simp [rewrites, hget, hnot]
        · simp [rewrites, hget, hnot]
      · rw [not_or, Bool.not_eq_true] at hnot
        obtain ⟨db, hsome, -⟩ := settleLocked_of_stands source provider order taken
          hget hnot.1 hnot.2
        rw [h] at hsome
        cases hsome

lemma rewrites_retry_of_none {i : ℕ} {amountMinor : ℤ}
    (h : retryLocked s.db i ⟨e.provider, e.order⟩ = none) :
    rewrites (.retryIssue i amountMinor) e s = none := by
  cases hget : s.db.payments.get? i with
  | none => simp [rewrites, hget]
  | some p =>
      by_cases hcompleted : p.status = .completed
      · simp [rewrites, hget, hcompleted]
      · obtain ⟨db, hsave⟩ : ∃ db, s.db.save { p with
            gatewayOrderId := e.order
            cashfreeOrderId := e.order
            paymentGateway := e.provider
            status := .processing } = some db := Db.save_of_ne_completed (by simp)
        simp [retryLocked, hget, hcompleted, hsave] at h

lemma filing_refund {i : ℕ} {order : OrderId} {refunded : Bool} {db : Db} (hkept : Kept s)
    (hrefund : refundLocked s.db i order refunded = some db) : Filing none s { s with db } := by
  obtain ⟨p, db₁, hget, hpayments, horders, hrest⟩ := refundLocked_spec hrefund
  have hmap : (∀ j, (db.payments.get? j).map Payment.own =
      (s.db.payments.get? j).map Payment.own) ∧ db.orders = db₁.orders := by
    rcases hrest with ⟨-, hsave⟩ | rfl
    · refine ⟨fun j => ?_, (Db.of_save hsave).2⟩
      rw [Db.get?_save hsave]
      split
      · rename_i hj
        have hid : p.id = i := Table.pk_of_get? hget
        rw [hj, show ({ p with status := .refunded } : Payment).id = i from hid, hget]
        rfl
      · rw [hpayments]
    · exact ⟨fun j => by rw [hpayments], rfl⟩
  refine filing_same rfl rfl hmap.1 (fun o row hrow => ?_) fun o ho => ?_
  · rw [hmap.2, horders] at hrow
    split at hrow
    · rename_i ho
      obtain ⟨row₀, hrow₀, rfl⟩ := Option.map_eq_some_iff.mp hrow
      rw [ho]
      exact hkept.rows order row₀ hrow₀
    · exact hkept.rows o row hrow
  · show (db.orders.get? o).isSome
    rw [hmap.2, horders]
    split
    · rename_i h
      rw [Option.isSome_map, ← h]
      exact ho
    · exact ho

/-- Every operation files its orders, provided the entry point knows what it has to know. -/
theorem filing_exec {o : PayOp} (h : Kept s) (hknows : KnowsIssued o s) :
    Filing (rewrites o e s) s (exec o e s).2 := by
  cases o with
  | lookUp order paymentId =>
      refine filing_refl h ?_ ?_
      · rw [exec]
        split
        · exact db_tell s order
        · split
          · exact db_tell s order
          · rfl
      · rw [exec]
        split
        · exact issued_tell s order
        · split
          · exact issued_tell s order
          · rfl
  | confirm p order =>
      refine filing_refl h ?_ ?_
      · rw [exec]
        split
        · rfl
        · exact db_tell s order
      · rw [exec]
        split
        · rfl
        · exact issued_tell s order
  | ensureCaptured order paymentId =>
      refine filing_refl h ?_ ?_
      · rw [exec]
        split
        · rfl
        · split
          · rfl
          · split <;> rfl
      · rw [exec]
        split
        · rfl
        · split
          · rfl
          · split <;> rfl
  | find _ | orderIds _ | orderStatus _ | verifySignature _ | tripTerms | newOrder
  | refundTaken _ _ | createRefund _ _ _ _ => exact filing_refl h rfl rfl
  | saveFailed p =>
      -- the save of a failed payment keeps the orders it names
      cases hraises : e.dbRaises with
      | true =>
          simp only [exec, rewrites, hraises, if_true]
          exact filing_refl h rfl rfl
      | false =>
          obtain ⟨db, hsave⟩ : ∃ db, s.db.save { p with status := .failed } = some db :=
            Db.save_of_ne_completed (by simp)
          simp only [exec, rewrites, hraises, Bool.false_eq_true, if_false, hsave]
          have hfiling : Filing (some (p.id, p.own)) s ({ s with db }.issue none p.id 0) :=
            filing_save h rfl hsave rfl (fun o ho => .inl (hknows o ho)) (fun o ho => by cases ho)
              fun o => Iff.rfl
          exact hfiling
  | saveIssued p amountMinor provider order =>
      cases hraises : e.dbRaises || !s.fresh (some order) with
      | true =>
          simp only [exec, rewrites, hraises, if_true]
          exact filing_refl h rfl rfl
      | false =>
          rw [Bool.or_eq_false_iff] at hraises
          obtain ⟨db, hsave⟩ : ∃ db, s.db.save (issuedPayment p amountMinor provider order) =
              some db :=
            Db.save_of_ne_completed (by simp [issuedPayment])
          simp only [exec, rewrites, hraises, Bool.or_false, Bool.false_eq_true, if_false, hsave]
          -- the order that was just issued is the only one it names
          have hown : ∀ o, o ∈ (issuedPayment p amountMinor provider order).own ↔
              some order = some o := by
            simp [issuedPayment, Payment.mem_own]
          exact filing_save h (by simpa using hraises.2) hsave rfl
            (fun o ho => .inr ((hown o).mp ho)) (fun o ho => (hown o).mpr ho)
            fun o => (hown o).trans (by simp [eq_comm])
  | createIssued amountMinor provider order =>
      rw [show rewrites (.createIssued amountMinor provider order) e s = none from rfl, exec]
      split
      · exact filing_refl h rfl rfl
      rename_i hraises
      rw [Bool.or_eq_true, not_or] at hraises
      split
      · exact filing_refl h rfl rfl
      · rename_i id db hcreate
        exact filing_create h (by simpa using hraises.2) hcreate
          (by simp [newPayment, Payment.mem_own])
  | remember i order provider =>
      rw [show rewrites (.remember i order provider) e s = none from rfl, exec]
      split
      · exact filing_refl h rfl rfl
      · obtain ⟨-, hpayments, horders⟩ := remember_spec s.db i order provider
        refine filing_same rfl rfl (fun j => by rw [hpayments]) (fun o row hrow => ?_) fun o ho => ?_
        · rw [horders] at hrow
          split at hrow
          · -- a row that is made here is of the payment the caller knows
            rename_i ho
            cases hrow
            rw [ho, orderRow]
            cases hget : s.db.orders.get? order with
            | none => exact hknows
            | some row => exact h.rows order row hget
          · exact h.rows o row hrow
        · show ((remember s.db i order provider).2.orders.get? o).isSome
          rw [horders]
          split
          · rfl
          · exact ho
  | settle source i provider order taken =>
      cases hraises : e.dbRaises with
      | true =>
          simp only [exec, rewrites, hraises, if_true]
          exact filing_refl h rfl rfl
      | false =>
          cases hsettle : settleLocked source s.db i provider order taken with
          | none =>
              rw [rewrites_settle_of_none hsettle]
              simp only [exec, hraises, Bool.false_eq_true, if_false, hsettle]
              exact filing_refl h rfl rfl
          | some d =>
              have hfiling := filing_settle h hknows hraises hsettle
              simpa only [exec, hraises, Bool.false_eq_true, if_false, hsettle] using hfiling
  | switchMethod i online =>
      rw [show rewrites (.switchMethod i online) e s = none from rfl, exec]
      split
      · exact filing_refl h rfl rfl
      rename_i hraises
      rw [Bool.or_eq_true, not_or] at hraises
      have hfresh : s.fresh (switchTerms e online).order = true := by simpa using hraises.2
      split
      · exact filing_refl h rfl rfl
      · rename_i db hswitch
        exact filing_switch h hfresh hswitch
      · rename_i id db hswitch
        exact filing_switch h hfresh hswitch
  | retryIssue i amountMinor =>
      cases hraises : e.dbRaises || !s.fresh e.order with
      | true =>
          simp only [exec, rewrites, hraises, if_true]
          exact filing_refl h rfl rfl
      | false =>
          have hfree := hraises
          rw [Bool.or_eq_false_iff] at hraises
          have hfresh : s.fresh e.order = true := by simpa using hraises.2
          cases hretry : retryLocked s.db i ⟨e.provider, e.order⟩ with
          | none =>
              rw [rewrites_retry_of_none hretry]
              simp only [exec, hfree, Bool.false_eq_true, if_false, hretry]
              exact filing_refl h rfl rfl
          | some done =>
              obtain ⟨done, db⟩ := done
              have hfiling : Filing (rewrites (.retryIssue i amountMinor) e s) s _ :=
                filing_retry h hraises.1 hfresh hretry
              cases done with
              | false => simpa only [exec, hfree, Bool.false_eq_true, if_false, hretry] using hfiling
              | true => simpa only [exec, hfree, Bool.false_eq_true, if_false, if_true, hretry] using hfiling
  | refundDone i order refunded =>
      rw [show rewrites (.refundDone i order refunded) e s = none from rfl, exec]
      split
      · exact filing_refl h rfl rfl
      split
      · exact filing_refl h rfl rfl
      · rename_i db hrefund
        exact filing_refund h hrefund

end Operations

/-! ## Every interleaving -/

/-- Filing the orders as a discipline of the entry points: nothing is asked of a move. -/
def filing : Discipline where
  Inv := Kept
  Meets _ _ _ := True
  Grow s s' := ∀ order i, s.issued order = some i → s'.issued order = some i
  Knows := KnowsIssued
  Late _ _ _ := True
  refl _ _ _ h := h
  trans h h' order i ho := h' order i (h order i ho)
  issued h := h
  filed h := h.toFiled
  knowsGrow {o s s'} h hgrow := by
    cases o with
    | saveFailed p => exact fun order ho => hgrow order _ (h order ho)
    | remember i order provider => exact hgrow order i h
    | settle source i provider order taken => exact hgrow order i h
    | _ => trivial
  lateGrow h _ := h
  exec {o e s} h _ hknows := ⟨(filing_exec h hknows).kept h, (filing_exec h hknows).issued⟩
  free {o} s hfree := by
    cases o with
    | saveFailed _ | remember _ _ _ | settle _ _ _ _ _ | createRefund _ _ _ _
    | refundDone _ _ _ => cases hfree
    | _ => trivial
  saveFailed h := h
  remember h := h
  settle h := h
  late _ _ _ _ := trivial
  refund _ _ _ := trivial
  refundDone _ := trivial
  capture {s} c h := by
    have hsame : (Payments.capture c s).issued = s.issued := by
      rw [Payments.capture]
      split <;> rfl
    exact ⟨(filing_refl h (db_capture c s) hsame).kept h, fun order i ho => by rw [hsame]; exact ho⟩

section Runs

variable {τ : Type} [DecidableEq τ]

/-- The write a move performs keeps every order found. -/
def Remembering (p : PayPool τ) : PayMove τ → Prop
  | .advance t e => ∀ o ∈ nextOp (p.threads t), Remembers o e p.store
  | _ => True

instance (p : PayPool τ) (m : PayMove τ) : Decidable (Remembering p m) :=
  match m with
  | .advance t e =>
      inferInstanceAs (Decidable (∀ o ∈ nextOp (p.threads t), Remembers o e p.store))
  | .start _ _ | .outside _ => inferInstanceAs (Decidable True)

/-- Nothing has been issued yet. -/
structure Unissued (p : PayPool τ) : Prop where
  idle : p.threads = fun _ => none
  payments : ∀ q ∈ p.store.db.payments.rows, q.own = []
  orders : p.store.db.orders.rows = []
  issued : p.store.issued = fun _ => none

omit [DecidableEq τ] in
lemma Unissued.kept {p : PayPool τ} (h : Unissued p) : Kept p.store where
  own i q hq order ho := by
    rw [h.payments q (Table.mem_of_get? hq).1] at ho
    cases ho
  rows order row hrow := by
    have hmem := (Table.mem_of_get? hrow).1
    rw [h.orders] at hmem
    cases hmem
  exists_payment order i hissued := by
    rw [h.issued] at hissued
    cases hissued

omit [DecidableEq τ] in
lemma meeting_filing (p : PayPool τ) (m : PayMove τ) : filing.Meeting p m := by
  cases m with
  | advance t e => exact fun _ _ => trivial
  | start t a => trivial
  | outside c => trivial

lemma resolves_payStep_iff {p : PayPool τ} {m : PayMove τ} (hkept : Kept p.store)
    (hsound : filing.AllSound p) (hresolves : Resolves p.store) :
    Resolves (payStep p m).store ↔ Remembering p m := by
  have hmeets := meeting_filing p m
  have hafter : Kept (payStep p m).store :=
    (Discipline.inv_payStep hmeets hkept hsound).1
  have hnamed : ∀ {s : World}, Kept s →
      (Resolves s ↔ ∀ order i, s.issued order = some i → Named s order i) := fun hs =>
    forall_congr' fun order => forall_congr' fun i => forall_congr' fun hi => hs.resolves_iff hi
  rw [hnamed hafter]
  have hbefore := (hnamed hkept).mp hresolves
  cases m with
  | start t a => exact iff_of_true hbefore trivial
  | outside c =>
      have hsame : (capture c p.store).issued = p.store.issued := by
        rw [capture]
        split <;> rfl
      refine iff_of_true (fun order i hi => ?_) trivial
      rw [show (payStep p (.outside c)).store = capture c p.store from rfl, Named, db_capture]
      exact hbefore order i (by rw [← hsame]; exact hi)
  | advance t e =>
      cases hnext : nextOp (p.threads t) with
      | none =>
          have hstore : (payStep p (.advance t e)).store = p.store :=
            Pool.store_step_advance_of_not_running fun a o k ht => by
              rw [ht] at hnext
              cases hnext
          rw [hstore]
          refine iff_of_true hbefore fun o ho => ?_
          rw [hnext] at ho
          cases ho
      | some o =>
          obtain ⟨a, k, ht⟩ := of_nextOp hnext
          have hknows := (Discipline.guarantee_of_nextOp hmeets hkept hsound hnext).knows
          have hstore : (payStep p (.advance t e)).store = (exec o e p.store).2 := by
            simp [payStep, Pool.step, ht, Prog.next]
          rw [hstore, (filing_exec hkept hknows).named_iff hkept hbefore]
          constructor
          · intro h o' ho'
            rw [hnext] at ho'
            cases ho'
            exact h
          · exact fun h => h o (by rw [hnext]; rfl)

/-- In every interleaving every order that was issued is resolved to its payment, all along,
exactly when no write forgets the last name of an order. -/
theorem resolves_iff_remembering {p : PayPool τ} (hp : Unissued p) (ms : List (PayMove τ)) :
    (∀ pre, pre <+: ms → Resolves (Transition.run payStep p pre).store) ↔
      Transition.Guarded payStep Remembering p ms := by
  refine Transition.forall_prefix_iff_guarded
    (I := fun q : PayPool τ => Kept q.store ∧ filing.AllSound q)
    (fun q m hq => Discipline.invariant_payStep q m (meeting_filing q m) hq)
    (fun q m hq hJ => resolves_payStep_iff hq.1 hq.2 hJ)
    ⟨hp.kept, Discipline.allSound_idle filing hp.idle⟩ ?_
  intro order i hissued
  rw [hp.issued] at hissued
  cases hissued

end Runs

/-! ### Checkouts and a switch -/

def switchOnline (order : OrderId) : List (PayMove ℕ) :=
  .start 2 (.switchMethod true) ::
    List.replicate 4 (.advance 2 { granted with order := some order })

/-- Both orders of a checkout that was opened twice are found. -/
theorem reopened_checkout_resolves :
    Resolves (Transition.run payStep tripEnded (checkout "A" ++ checkout "B")).store := by
  refine (resolves_iff_remembering ?_ _).mpr ?_ _ List.prefix_rfl
  · exact ⟨rfl, by decide, rfl, rfl⟩
  · decide

/-- The order of a switch is lost when checkout is opened after it. -/
theorem switched_order_not_resolved :
    ¬ ∀ pre, pre <+: switchOnline "B" ++ checkout "C" →
      Resolves (Transition.run payStep tripEnded pre).store := by
  intro h
  obtain ⟨p, hp, -⟩ := h _ List.prefix_rfl "B" 2 (by decide)
  have hnone : paymentForOrder (Transition.run payStep tripEnded
      (switchOnline "B" ++ checkout "C")).store.db "B" = none := by decide
  rw [hnone] at hp
  cases hp

end SaaradhiGo.Payments
