/-
A day is reconciled again.

A finding becomes an item when its subject has none of the kind, so an item is kept as it is by
every call, and what one call found no later call raises.  The run of the day tells what the last
call that was made has raised, which is nothing when it repeats an earlier one.
-/
import SaaradhiGo.Reconciliation.Run
import SaaradhiGo.Lib.Firsts
import Mathlib.Tactic.Common

namespace SaaradhiGo.Reconciliation

open Transition Firsts SaaradhiGo.Money SaaradhiGo.Pricing

variable (rd : Reads)

/-! ## What is new -/

def countOf (counts : List (Kind × ℕ)) (kind : Kind) : ℕ :=
  (counts.lookup kind).getD 0

def tally (new : List Finding) : List (Kind × ℕ) :=
  new.foldl (fun counts f => countUp f.kind counts) []

def Books.newFindings (b : Books) (c : Call) : List Finding :=
  firsts Finding.dedupe (b.items.map Item.dedupeKey)
    (c.outcome.reached (findings rd b.data c.key c.now))

lemma countOf_countUp (counts : List (Kind × ℕ)) (kind k : Kind) :
    countOf (countUp kind counts) k = countOf counts k + if k = kind then 1 else 0 := by
  induction counts with
  | nil =>
      by_cases h : k = kind
      · simp [countUp, countOf, h]
      · simp [countUp, countOf, List.lookup_cons, h, beq_eq_false_iff_ne.mpr h]
  | cons row counts ih =>
      obtain ⟨k', n⟩ := row
      by_cases hk : k' = kind
      · subst hk
        by_cases h : k = k'
        · simp [countUp, countOf, h]
        · simp [countUp, countOf, List.lookup_cons, h, beq_eq_false_iff_ne.mpr h]
      · by_cases h : k = k'
        · subst h
          simp [countUp, countOf, hk]
        · have hb : (k == k') = false := beq_eq_false_iff_ne.mpr h
          simpa [countUp, countOf, List.lookup_cons, hk, hb] using ih

lemma sum_countUp (kind : Kind) (counts : List (Kind × ℕ)) :
    ((countUp kind counts).map Prod.snd).sum = (counts.map Prod.snd).sum + 1 := by
  induction counts with
  | nil => simp [countUp]
  | cons row counts ih =>
      obtain ⟨k, n⟩ := row
      by_cases h : k = kind
      · simp only [countUp, h, if_true, List.map_cons, List.sum_cons]
        omega
      · simp only [countUp, h, if_false, List.map_cons, List.sum_cons, ih]
        omega

lemma countOf_foldl (new : List Finding) (counts : List (Kind × ℕ)) (k : Kind) :
    countOf (new.foldl (fun counts f => countUp f.kind counts) counts) k =
      countOf counts k + new.countP fun f => f.kind = k := by
  induction new generalizing counts with
  | nil => simp
  | cons f new ih =>
      rw [List.foldl_cons, ih, countOf_countUp, List.countP_cons]
      by_cases h : k = f.kind
      · simp only [h, if_true, decide_true]
        omega
      · have h' : f.kind ≠ k := fun e => h e.symm
        simp only [h, h', if_false, decide_false, Bool.false_eq_true]
        omega

lemma sum_foldl (new : List Finding) (counts : List (Kind × ℕ)) :
    ((new.foldl (fun counts f => countUp f.kind counts) counts).map Prod.snd).sum =
      (counts.map Prod.snd).sum + new.length := by
  induction new generalizing counts with
  | nil => simp
  | cons f new ih =>
      rw [List.foldl_cons, ih, sum_countUp, List.length_cons]
      omega

lemma countOf_tally (new : List Finding) (k : Kind) :
    countOf (tally new) k = new.countP fun f => f.kind = k := by
  have h := countOf_foldl new [] k
  have hnil : countOf [] k = 0 := rfl
  rw [hnil, Nat.zero_add] at h
  exact h

lemma sum_tally (new : List Finding) : ((tally new).map Prod.snd).sum = new.length := by
  have h := sum_foldl new []
  rw [List.map_nil, List.sum_nil, Nat.zero_add] at h
  exact h

/-- `raise_item`, over all the findings of a call. -/
lemma foldl_raiseItem (key : RunKey) (fs : List Finding) (items : List Item)
    (counts : List (Kind × ℕ)) :
    fs.foldl (raiseItem key) (items, counts) =
      (items ++ (firsts Finding.dedupe (items.map Item.dedupeKey) fs).map fun f => f.item key,
        (firsts Finding.dedupe (items.map Item.dedupeKey) fs).foldl
          (fun counts f => countUp f.kind counts) counts) := by
  induction fs generalizing items counts with
  | nil => simp [firsts]
  | cons f fs ih =>
      rw [List.foldl_cons]
      by_cases h : f.dedupe ∈ items.map Item.dedupeKey
      · have hany : (items.any fun i => i.dedupeKey = f.dedupe) = true := by
          obtain ⟨i, hi, hkey⟩ := List.mem_map.mp h
          exact List.any_eq_true.mpr ⟨i, hi, by simp [hkey]⟩
        simp only [raiseItem, hany, if_true, firsts, h]
        exact ih items counts
      · have hany : (items.any fun i => i.dedupeKey = f.dedupe) = false := by
          rw [List.any_eq_false]
          intro i hi hkey
          exact h (List.mem_map.mpr ⟨i, hi, by simpa using hkey⟩)
        simp only [raiseItem, hany, Bool.false_eq_true, if_false, firsts, h]
        rw [ih]
        simp [Finding.item, List.append_assoc]

/-! ## One call -/

variable {rd}

variable (rd) in
lemma runOne_cases (b : Books) (c : Call) :
    (b.skips c = true ∧ b.runOne rd c = b) ∨
    (b.skips c = false ∧ b.runOne rd c =
      { b with
        runs := b.runs.put (((b.runs.get? c.key).getD (Run.created c.key)).closed c
          (tally (b.newFindings rd c)))
        items := b.items ++ (b.newFindings rd c).map fun f => f.item c.key }) := by
  by_cases h : b.skips c = true
  · exact .inl ⟨h, by simp [Books.runOne, h]⟩
  · refine .inr ⟨by simpa using h, ?_⟩
    simp only [Books.runOne, h, if_false, Bool.false_eq_true, foldl_raiseItem, Books.newFindings,
      tally]

lemma key_getD (b : Books) (key : RunKey) :
    ((b.runs.get? key).getD (Run.created key)).key = key := by
  by_cases h : ∃ run, b.runs.get? key = some run
  · obtain ⟨run, hrun⟩ := h
    rw [hrun]
    exact Table.pk_of_get? hrun
  · have hnone : b.runs.get? key = none := by
      rw [Option.eq_none_iff_forall_ne_some]
      intro run hrun
      exact h ⟨run, hrun⟩
    rw [hnone]
    rfl

@[simp] lemma Run.key_closed (run : Run) (c : Call) (counts : List (Kind × ℕ)) :
    (run.closed c counts).key = run.key := by
  unfold Run.closed
  split <;> rfl

variable (rd) in
lemma items_runOne (b : Books) (c : Call) :
    ∃ new, (b.runOne rd c).items = b.items ++ new ∧
      ∀ i ∈ new, ∃ f ∈ b.newFindings rd c, i = f.item c.key := by
  obtain ⟨-, h⟩ | ⟨-, h⟩ := runOne_cases rd b c
  · exact ⟨[], by simp [h], by simp⟩
  · refine ⟨(b.newFindings rd c).map fun f => f.item c.key, by rw [h], ?_⟩
    intro i hi
    obtain ⟨f, hf, rfl⟩ := List.mem_map.mp hi
    exact ⟨f, hf, rfl⟩

/-! ## What is known stays known -/

def Books.Knows (b : Books) (key : String) : Prop := key ∈ b.items.map Item.dedupeKey

lemma dedupeKey_resolve (dedupeKey : String) (at_ : ℤ) (i : Item) :
    (i.resolve dedupeKey at_).dedupeKey = i.dedupeKey := by
  unfold Item.resolve
  split <;> rfl

lemma knows_step {b : Books} {key : String} (e : Event) (h : b.Knows key) :
    (step rd b e).Knows key := by
  match e with
  | .change data => exact h
  | .resolve dedupeKey at_ =>
      have hkeys : (b.items.map (Item.resolve dedupeKey at_)).map Item.dedupeKey =
          b.items.map Item.dedupeKey := by
        rw [List.map_map]
        exact List.map_congr_left fun i _ => dedupeKey_resolve dedupeKey at_ i
      show key ∈ (b.items.map (Item.resolve dedupeKey at_)).map Item.dedupeKey
      rw [hkeys]
      exact h
  | .call c =>
      obtain ⟨new, hnew, -⟩ := items_runOne rd b c
      show key ∈ (b.runOne rd c).items.map Item.dedupeKey
      rw [hnew, List.map_append]
      exact List.mem_append_left _ h

lemma knows_run {b : Books} {key : String} (es : List Event) (h : b.Knows key) :
    (run (step rd) b es).Knows key :=
  Transition.invariant (I := fun b : Books => b.Knows key) (fun _ e h => knows_step e h) es h

/-- What a call that came to its end has found is known afterwards. -/
lemma knows_found {b : Books} {c : Call} (hmade : b.skips c = false)
    (hend : c.outcome = .finishes) {f : Finding} (hf : f ∈ findings rd b.data c.key c.now) :
    (b.runOne rd c).Knows f.dedupe := by
  obtain ⟨h, -⟩ | ⟨-, h⟩ := runOne_cases rd b c
  · simp [hmade] at h
  · have hreach : f ∈ c.outcome.reached (findings rd b.data c.key c.now) := by
      rw [hend]
      exact hf
    have hkey : f.dedupe ∈ b.items.map Item.dedupeKey ++
        (b.newFindings rd c).map Finding.dedupe := key_mem_append_firsts hreach
    rw [Books.Knows, h]
    simpa [Finding.item, Function.comp_def] using hkey

/-! ## No confirming webhook -/

lemma byOrder_eq_none {events : List WebhookEvent} {order : String}
    (h : byOrder rd events order = none) :
    ∀ e ∈ events, (parsePaymentWebhook rd e.rawPayload).orderId ≠ some order := by
  intro e he
  have hall := List.find?_eq_none.mp h (parsePaymentWebhook rd e.rawPayload)
    (List.mem_map.mpr ⟨e, he, rfl⟩)
  simpa using hall

/-- Only a payment none of whose own orders was confirmed is found to have no webhook. -/
lemma checkPayment_paymentNoWebhook {events : List WebhookEvent} {p : Payment} {f : Finding}
    (h : checkPayment rd events p = some f) (hkind : f.kind = .paymentNoWebhook) :
    f.payment = some p.id ∧ ∀ e ∈ events, ∀ o ∈ p.ownOrders,
      (parsePaymentWebhook rd e.rawPayload).orderId ≠ some o := by
  unfold checkPayment at h
  split at h
  · next hnone =>
      obtain rfl := Option.some.inj h
      refine ⟨rfl, ?_⟩
      intro e he o ho
      exact byOrder_eq_none (List.findSome?_eq_none_iff.mp hnone o ho) e he
  · split at h
    · split at h
      · obtain rfl := Option.some.inj h
        cases hkind
      · cases h
    · cases h

lemma kind_checkWebhook {data : Data} {key : RunKey} {known : String → Option Payment}
    {e : WebhookEvent} {f : Finding} (h : checkWebhook rd data key known e = some f) :
    f.kind = .webhookNoPayment := by
  simp only [checkWebhook] at h
  repeat' split at h
  all_goals first | cases h; rfl | cases h

lemma of_paymentNoWebhook {data : Data} {key : RunKey} {now : ℤ} {f : Finding}
    (h : f ∈ findings rd data key now) (hkind : f.kind = .paymentNoWebhook) :
    ∃ p ∈ dayPayments rd data key now, f.payment = some p.id ∧
      ∀ e ∈ successWebhooks rd data key now, ∀ o ∈ p.ownOrders,
        (parsePaymentWebhook rd e.rawPayload).orderId ≠ some o := by
  simp only [findings, checkPaymentsAndWebhooks, checkSettlements, checkPayouts,
    List.mem_append, List.mem_filterMap, List.mem_map] at h
  obtain ((⟨p, hp, h⟩ | ⟨e, -, h⟩) | ⟨t, -, rfl⟩ | ⟨x, -, rfl⟩) | ⟨x, -, rfl⟩ | ⟨x, -, rfl⟩ := h
  · exact ⟨p, hp, checkPayment_paymentNoWebhook h hkind⟩
  · rw [kind_checkWebhook h] at hkind
    cases hkind
  all_goals cases hkind

lemma reached_subset (o : Outcome) (found : List Finding) : o.reached found ⊆ found := by
  match o with
  | .finishes => exact List.Subset.refl _
  | .fails after _ => exact List.take_subset after found
  | .stops after => exact List.take_subset after found

/-! ## A call after any history -/

variable (rd) in
/-- What holds of a call: nothing is changed but the run of its day and what is new, a finished
run is left alone, no subject comes twice, and the run tells what is new. -/
structure Repeatable (b : Books) (events : List Event) (c : Call) (s s' : Books)
    (new : List Item) : Prop where
  /-- every item stays as it is, resolved ones included -/
  kept : s'.items = s.items ++ new
  data : s'.data = s.data
  others : ∀ key ≠ c.key, s'.runs.get? key = s.runs.get? key
  /-- a finished run that did not fail is left alone unless the call is forced -/
  alone : ∀ r, s.runs.get? c.key = some r → r.finishedAt.isSome → r.status ≠ .error →
    c.force = false → s' = s
  /-- what a call that was made and came to its end has found, no later one raises -/
  once : ∀ before earlier after, events = before ++ .call earlier :: after →
    (run (step rd) b before).skips earlier = false → earlier.outcome = .finishes →
      ∀ f ∈ findings rd (run (step rd) b before).data earlier.key earlier.now,
        ∀ i ∈ new, i.dedupeKey ≠ f.dedupe
  /-- the same day again on unchanged data -/
  again : ∀ before earlier after, events = before ++ .call earlier :: after →
    (run (step rd) b before).skips earlier = false → earlier.outcome = .finishes →
      earlier.key = c.key → earlier.now = c.now → (run (step rd) b before).data = s.data →
        new = []
  /-- a call that is made writes what it has raised to the run -/
  tells : s.skips c = false → (∀ after, c.outcome ≠ .stops after) →
    ∃ r, s'.runs.get? c.key = some r ∧ (∀ k, countOf r.counts k = new.countP fun i => i.kind = k) ∧
      (r.status = .error ↔ c.outcome ≠ .finishes) ∧
      (r.status = .ok ↔ c.outcome = .finishes ∧ new = [])
  /-- a payment is raised when no webhook that was read names an order of its row -/
  unconfirmed : ∀ i ∈ new, i.kind = .paymentNoWebhook →
    ∃ p ∈ dayPayments rd s.data c.key c.now, i.payment = some p.id ∧
      ∀ e ∈ successWebhooks rd s.data c.key c.now, ∀ o ∈ p.ownOrders,
        (parsePaymentWebhook rd e.rawPayload).orderId ≠ some o

lemma dedupeKey_notMem_of_new {b : Books} {c : Call} {f : Finding} (hf : f ∈ b.newFindings rd c) :
    ¬ b.Knows f.dedupe :=
  key_notMem_of_mem_firsts hf

lemma found_of_new {b : Books} {c : Call} {f : Finding} (hf : f ∈ b.newFindings rd c) :
    f ∈ findings rd b.data c.key c.now :=
  reached_subset _ _ (mem_of_mem_firsts hf)

lemma knows_of_earlier {b : Books} {before : List Event} {earlier : Call} (after : List Event)
    (hmade : (run (step rd) b before).skips earlier = false) (hend : earlier.outcome = .finishes)
    {f : Finding}
    (hf : f ∈ findings rd (run (step rd) b before).data earlier.key earlier.now) :
    (run (step rd) b (before ++ .call earlier :: after)).Knows f.dedupe := by
  rw [run_append, run_cons]
  exact knows_run after (knows_found hmade hend hf)

variable (rd) in
lemma run_runOne {b : Books} {c : Call} (hmade : b.skips c = false)
    (hend : ∀ after, c.outcome ≠ .stops after) :
    ∃ r, (b.runOne rd c).runs.get? c.key = some r ∧ r.counts = tally (b.newFindings rd c) ∧
      (r.status = .error ↔ c.outcome ≠ .finishes) ∧
      (r.status = .ok ↔ c.outcome = .finishes ∧ b.newFindings rd c = []) := by
  obtain ⟨h, -⟩ | ⟨-, h⟩ := runOne_cases rd b c
  · simp [hmade] at h
  · rw [h]
    refine ⟨((b.runs.get? c.key).getD (Run.created c.key)).closed c (tally (b.newFindings rd c)),
      ?_, ?_⟩
    · have hput := Table.get?_put_self b.runs (((b.runs.get? c.key).getD
        (Run.created c.key)).closed c (tally (b.newFindings rd c)))
      rwa [Run.key_closed, key_getD] at hput
    · unfold Run.closed
      match hout : c.outcome with
      | .finishes =>
          by_cases hnew : b.newFindings rd c = []
          · simp [hnew, tally]
          · have hsum : ((tally (b.newFindings rd c)).map Prod.snd).sum ≠ 0 := by
              rw [sum_tally]
              simpa using hnew
            simp [hnew, hsum]
      | .fails after why => simp
      | .stops after => exact absurd hout (hend after)

/-- The same subject is raised once, over every history of calls, of changes of the tables and of
items that are resolved: a call keeps what there is, and raises what no call before it found. -/
theorem each_subject_raised_once (rd : Reads) (b : Books) (events : List Event) (c : Call) :
    ∃ new, Repeatable rd b events c (run (step rd) b events)
      ((run (step rd) b events).runOne rd c) new := by
  have hcases := runOne_cases rd (run (step rd) b events) c
  obtain ⟨new, hkept, hnew⟩ := items_runOne rd (run (step rd) b events) c
  have honce : ∀ before earlier after, events = before ++ .call earlier :: after →
      (run (step rd) b before).skips earlier = false → earlier.outcome = .finishes →
        ∀ f ∈ findings rd (run (step rd) b before).data earlier.key earlier.now,
          ∀ i ∈ new, i.dedupeKey ≠ f.dedupe := by
    intro before earlier after hevents hmade hend f hf i hi hkey
    obtain ⟨g, hg, rfl⟩ := hnew i hi
    apply dedupeKey_notMem_of_new hg
    have hknown := knows_of_earlier after hmade hend hf
    rw [← hevents, ← hkey] at hknown
    exact hknown
  refine ⟨new, hkept, ?_, ?_, ?_, honce, ?_, ?_, ?_⟩
  · obtain ⟨-, h⟩ | ⟨-, h⟩ := hcases <;> rw [h]
  · intro key hne
    obtain ⟨-, h⟩ | ⟨-, h⟩ := hcases
    · rw [h]
    · rw [h]
      apply Table.get?_put_of_ne
      rw [Run.key_closed, key_getD]
      exact hne
  · intro r hr hfin hok hforce
    have hskip : (run (step rd) b events).skips c = true := by
      simp [Books.skips, hr, hfin, hok, hforce]
    simp [Books.runOne, hskip]
  · -- what would be new is found by the earlier call too
    intro before earlier after hevents hmade hend hkey hnow hdata
    rw [List.eq_nil_iff_forall_not_mem]
    intro i hi
    obtain ⟨f, hf, hif⟩ := hnew i hi
    have hfound := found_of_new hf
    rw [← hdata, ← hkey, ← hnow] at hfound
    exact honce before earlier after hevents hmade hend f hfound i hi (by rw [hif]; rfl)
  · intro hmade hend
    obtain ⟨r, hr, hcounts, herror, hstatus⟩ := run_runOne rd hmade hend
    have heq : new = ((run (step rd) b events).newFindings rd c).map fun f => f.item c.key := by
      obtain ⟨h, -⟩ | ⟨-, h⟩ := hcases
      · simp [hmade] at h
      · rw [h] at hkept
        exact (List.append_cancel_left hkept).symm
    refine ⟨r, hr, ?_, herror, ?_⟩
    · intro k
      rw [hcounts, countOf_tally, heq, List.countP_map]
      rfl
    · rw [hstatus, heq, List.map_eq_nil_iff]
  · intro i hi hkind
    obtain ⟨f, hf, rfl⟩ := hnew i hi
    exact of_paymentNoWebhook (found_of_new hf) hkind

/-! ## A forced call, and an earlier order -/

/-- Times are read as they are, and a text is its own `str()`. -/
def plainReads : Reads where
  text := fun v => match v with
    | .str s => s
    | _ => ""
  upper := id
  minorOf := fun _ _ => none
  withdrawalId := fun _ => none
  moment := fun _ => ""
  dayBounds := fun _ date => (date * (24 * hour), (date + 1) * (24 * hour))

/-- A payment that names its second order. -/
def secondOrderPayment : Payment where
  id := 1
  trip := 1
  zoneCountry := some .india
  zoneNode := none
  gateway := "cashfree"
  online := true
  status := .completed
  currency := .inr
  amountMinor := 5000
  gatewayOrderId := "order_2"
  cashfreeOrderId := ""
  createdAt := hour

/-- The webhook that is stored is of the first order. -/
def firstOrderBooks : Books where
  data :=
    { payments := ⟨[secondOrderPayment], by decide⟩
      paymentOrders := [⟨"order_1", 1⟩, ⟨"order_2", 1⟩]
      webhooks := [⟨1, "cashfree", "PAYMENT_SUCCESS", .obj [("orderId", .str "order_1")], 2 * hour⟩]
      topups := []
      trips := Table.empty
      settlements := []
      withdrawals := Table.empty
      stuckPayoutHours := fun _ => none }
  runs := Table.empty
  items := []

/-- A call for that day, two days later. -/
def dayCall (force : Bool) : Call where
  key := ⟨0, .india, "cashfree"⟩
  now := 48 * hour
  force := force
  outcome := .finishes
  finishedAt := 48 * hour

/-- A forced call for the same day turns the findings of the run into none; and the payment is
raised although the webhook of an order that was issued to it is in the window. -/
theorem forced_call_forgets_findings :
    let once := run (step plainReads) firstOrderBooks [.call (dayCall false)]
    let twice := run (step plainReads) firstOrderBooks
      [.call (dayCall false), .call (dayCall true)]
    (once.runs.get? (dayCall false).key).map (fun r => (r.status, r.counts)) =
        some (.issues, [(.paymentNoWebhook, 1)]) ∧
      (twice.runs.get? (dayCall false).key).map (fun r => (r.status, r.counts)) = some (.ok, []) ∧
      once.items.map (fun i => (i.kind, i.payment)) = [(.paymentNoWebhook, some 1)] ∧
      (windowWebhooks plainReads firstOrderBooks.data (dayCall false).key (48 * hour)).map
        (fun e => (parsePaymentWebhook plainReads e.rawPayload).orderId) = [some "order_1"] ∧
      orderIds firstOrderBooks.data secondOrderPayment = ["order_2", "order_1", "order_2"] := by
  decide +kernel

end SaaradhiGo.Reconciliation
