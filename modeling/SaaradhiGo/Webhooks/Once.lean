/-
A webhook event is handled once, and told processed only when it was.

A delivery holds the key of its row from the insertion until its handler ends, and at
Razorpay until the row is deleted.  In every interleaving a key is held by one delivery at
most and handled once at most.  The row outlives a delivery that lets go of its key without
having handled the event, and the deliveries that come after are told that it was: that
happens when a Cashfree handler raises, when a deletion raises, when a process dies, and to
a duplicate that arrives while the key is still held.
-/
import SaaradhiGo.Webhooks.Inbox
import Mathlib.Data.Fintype.Basic

namespace SaaradhiGo.Webhooks

open Interleave

/-! ## Stages of a delivery -/

/-- What is left of a delivery, in the order in which it gets there. -/
inductive Stage (env : Env) (endpoint : Endpoint) (d : Delivery) : Entry → Prop where
  | checking (p : Payload) (loads : env.loads d.body = .object p) :
      Stage env endpoint d (lookUpHeader env endpoint d p)
  | creating (p : Payload) (loads : env.loads d.body = .object p) :
      Stage env endpoint d (receive env endpoint d p)
  | handling (p : Payload) (loads : env.loads d.body = .object p) :
      Stage env endpoint d (process env endpoint d p)
  | releasing (p : Payload) (loads : env.loads d.body = .object p) :
      Stage env endpoint d (release env endpoint d p)
  | marking (p : Payload) (loads : env.loads d.body = .object p) :
      Stage env endpoint d (finish env endpoint d p)
  | accepting (p : Payload) (loads : env.loads d.body = .object p) (a : Answer)
      (accepts : a.accepts = true) : Stage env endpoint d (respond (some (endpoint, p.event)) a)
  | refusing (event : Option Event) (a : Answer) (accepts : a.accepts = false) :
      Stage env endpoint d (respond event a)
  | returned : Stage env endpoint d (.ret ())

/-- How a delivery starts. -/
inductive Opening (env : Env) (endpoint : Endpoint) (d : Delivery) : Entry → Prop where
  | checking (p : Payload) (loads : env.loads d.body = .object p) :
      Opening env endpoint d (lookUpHeader env endpoint d p)
  | creating (p : Payload) (loads : env.loads d.body = .object p) :
      Opening env endpoint d (receive env endpoint d p)
  | refusing (event : Option Event) (a : Answer) (accepts : a.accepts = false) :
      Opening env endpoint d (respond event a)

section Stages

variable {env : Env} {endpoint : Endpoint} {d : Delivery} {p : Payload}

lemma opening_cashfreeWebhook : Opening env endpoint d (cashfreeWebhook env endpoint d) := by
  rw [cashfreeWebhook]
  split
  · exact .refusing _ _ rfl
  split
  · exact .refusing _ _ rfl
  split
  · exact .refusing _ _ rfl
  split
  · exact .refusing _ _ rfl
  split
  · exact .refusing _ _ rfl
  · exact .refusing _ _ rfl
  · rename_i p hp
    split
    · exact .refusing _ _ rfl
    · exact .creating p hp

lemma opening_inboxDelivery : Opening env endpoint d (inboxDelivery env endpoint d) := by
  rw [inboxDelivery]
  split
  · exact .refusing _ _ rfl
  split
  · exact .refusing _ _ rfl
  split
  · exact .refusing _ _ rfl
  · exact .refusing _ _ rfl
  rename_i p hp
  split
  · exact .refusing _ _ rfl
  split
  · exact .refusing _ _ rfl
  split
  · exact .refusing _ _ rfl
  split
  · exact .creating p hp
  · exact .checking p hp

lemma opening_entry (s : World) : Opening env endpoint d (entry env (endpoint, d) s) := by
  cases endpoint with
  | paymentWebhook => exact opening_cashfreeWebhook
  | payoutWebhook => exact opening_cashfreeWebhook
  | razorpayWebhook => exact opening_inboxDelivery
  | razorpayxWebhook => exact opening_inboxDelivery

/-- An endpoint whose row stays when its handler raises. -/
def Endpoint.keepsRow : Endpoint → Bool
  | .paymentWebhook | .payoutWebhook => true
  | .razorpayWebhook | .razorpayxWebhook => false

lemma stage_raised {h : Handled} (hraised : h ≠ .returned) {k : Handled → Entry}
    (hk : process env endpoint d p = .op (.handle (key env endpoint d) (endpoint, p.event)) k) :
    (endpoint.keepsRow = true ∧ ∃ a, a.accepts = false ∧
      k h = respond (some (endpoint, p.event)) a) ∨
    (endpoint.keepsRow = false ∧ k h = release env endpoint d p) := by
  cases hk
  cases h with
  | returned => exact absurd rfl hraised
  | badPayload =>
      cases endpoint with
      | paymentWebhook => exact .inl ⟨rfl, _, rfl, rfl⟩
      | payoutWebhook => exact .inl ⟨rfl, _, rfl, rfl⟩
      | razorpayWebhook => exact .inr ⟨rfl, rfl⟩
      | razorpayxWebhook => exact .inr ⟨rfl, rfl⟩
  | raised =>
      cases endpoint with
      | paymentWebhook => exact .inl ⟨rfl, _, rfl, rfl⟩
      | payoutWebhook => exact .inl ⟨rfl, _, rfl, rfl⟩
      | razorpayWebhook => exact .inr ⟨rfl, rfl⟩
      | razorpayxWebhook => exact .inr ⟨rfl, rfl⟩

end Stages

/-! ## What a step of a delivery does -/

/-- The next operation of a delivery. -/
def nextOp : Option (Request × Entry) → Option InboxOp
  | some (_, .op o _) => some o
  | _ => none

/-- The key an operation is about to use or to give up. -/
def InboxOp.held : InboxOp → Option Key
  | .handle key _ => some key
  | .delete key => some key
  | _ => none

def holds (x : Option (Request × Entry)) : Option Key := (nextOp x).bind InboxOp.held

/-- The event an operation is about to call processed. -/
def InboxOp.claims : InboxOp → Option Event
  | .markProcessed _ event => some event
  | .answer (some event) a => if a.accepts then some event else none
  | _ => none

/-- The event a delivery is about to call processed. -/
def promises (x : Option (Request × Entry)) : Option Event := (nextOp x).bind InboxOp.claims

def reported (env : Env) (endpoint : Endpoint) (d : Delivery) : Option Event :=
  match env.loads d.body with
  | .object p => some (endpoint, p.event)
  | _ => none

lemma reported_of_loads {env : Env} {d : Delivery} {p : Payload}
    (h : env.loads d.body = .object p) (endpoint : Endpoint) :
    reported env endpoint d = some (endpoint, p.event) := by
  rw [reported, h]

def World.keys (s : World) : List Key := s.inbox.rows.map WebhookEvent.key

def World.handledKeys (s : World) : List Key := s.handled.map Prod.fst

/-- The operation gives up a key whose row stays, with the event not handled. -/
def Lost : InboxOp → Choice → Prop
  | .handle _ (endpoint, _), e => endpoint.keepsRow = true ∧ e.handler ≠ .returned
  | .delete _, e => e.dbRaises = true
  | _, _ => False

instance (o : InboxOp) (e : Choice) : Decidable (Lost o e) :=
  match o with
  | .handle _ (endpoint, _) =>
      inferInstanceAs (Decidable (endpoint.keepsRow = true ∧ e.handler ≠ .returned))
  | .delete _ => inferInstanceAs (Decidable (e.dbRaises = true))
  | .knownHeader .. | .create .. | .markProcessed .. | .answer .. =>
      inferInstanceAs (Decidable False)

/-- What one move does to the keys, with what the delivery that moves holds before and after;
a key is given up with its row left only when something is lost. -/
inductive Effect (lost : Prop) (held held' : Option Key) (s s' : World) : Prop where
  | quiet (keep : held' = held) (keys : s'.keys = s.keys) (handled : s'.handled = s.handled)
  | dropped (lost : lost) (none : held' = none) (keys : s'.keys = s.keys)
      (handled : s'.handled = s.handled)
  | claimed (key : Key) (had : held = none) (has : held' = some key) (free : key ∉ s.keys)
      (keys : s'.keys = s.keys ++ [key]) (handled : s'.handled = s.handled)
  | completed (key : Key) (event : Event) (had : held = some key) (none : held' = none)
      (keys : s'.keys = s.keys) (handled : s'.handled = (key, event) :: s.handled)
  | released (key : Key) (had : held = some key) (none : held' = none)
      (keys : ∀ k, k ∈ s'.keys ↔ k ∈ s.keys ∧ k ≠ key) (handled : s'.handled = s.handled)

lemma Effect.imp {lost lost' : Prop} {held held' : Option Key} {s s' : World}
    (h : Effect lost held held' s s') (himp : lost → lost') : Effect lost' held held' s s' := by
  cases h with
  | quiet keep keys handled => exact .quiet keep keys handled
  | dropped lost none keys handled => exact .dropped (himp lost) none keys handled
  | claimed key had has free keys handled => exact .claimed key had has free keys handled
  | completed key event had none keys handled => exact .completed key event had none keys handled
  | released key had none keys handled => exact .released key had none keys handled

/-- What one operation of a delivery does, `q'` being what is left of it. -/
structure Advance (env : Env) (endpoint : Endpoint) (d : Delivery) (o : InboxOp) (e : Choice)
    (q' : Entry) (s s' : World) : Prop where
  stage : Stage env endpoint d q'
  effect : Effect (Lost o e) o.held (holds (some ((endpoint, d), q'))) s s'
  /-- a handler completes under the key of the delivery -/
  handled : ∀ x ∈ s'.handled, x ∈ s.handled ∨
    x.1 = key env endpoint d ∧ reported env endpoint d = some x.2
  /-- where the promise to call an event processed comes from -/
  promise : ∀ event, promises (some ((endpoint, d), q')) = some event →
    o.claims = some event ∨ event ∈ s'.handled.map Prod.snd ∨
      (∃ row, o = .create row ∧ row.key ∈ s.keys ∧ row.key = key env endpoint d ∧
        reported env endpoint d = some event) ∨
      ∃ gateway header, o = .knownHeader gateway header ∧ (gateway, header) ∈ s.keys
  told : ∀ event ∈ s'.told, event ∈ s.told ∨ o.claims = some event

section Advance

variable {env : Env} {endpoint : Endpoint} {d : Delivery} {p : Payload} {e : Choice} {s : World}

lemma promises_refusing {event : Option Event} {a : Answer} (h : a.accepts = false) :
    promises (some ((endpoint, d), respond event a)) = none := by
  cases event with
  | none => rfl
  | some event => simp [promises, nextOp, respond, InboxOp.claims, h]

/-- Nothing is written, and the event is not called processed. -/
lemma advance_refuse {o : InboxOp} {event : Option Event} {a : Answer} (h : a.accepts = false)
    (heffect : Effect (Lost o e) o.held none s s) :
    Advance env endpoint d o e (respond event a) s s where
  stage := .refusing event a h
  effect := heffect
  handled := fun _ hx => .inl hx
  promise := fun event hevent => by
    rw [promises_refusing h] at hevent
    cases hevent
  told := fun _ h => .inl h

lemma mem_keys_iff {k : Key} : k ∈ s.keys ↔ (s.inbox.get? k).isSome := by
  rw [World.keys, Option.isSome_iff_ne_none, ne_eq, Table.get?_eq_none_iff, not_not]

lemma advance_checking (hp : env.loads d.body = .object p) {k : Option Bool → Entry}
    (hk : lookUpHeader env endpoint d p =
      .op (.knownHeader endpoint.gateway (cut 512 d.eventIdHeader)) k) :
    Advance env endpoint d (.knownHeader endpoint.gateway (cut 512 d.eventIdHeader)) e
      (k (exec (.knownHeader endpoint.gateway (cut 512 d.eventIdHeader)) e s).1) s s := by
  cases hk
  by_cases hraises : e.dbRaises = true
  · simp only [exec, hraises, if_true]
    exact advance_refuse rfl (.quiet rfl rfl rfl)
  rw [Bool.not_eq_true] at hraises
  cases hknown : (s.inbox.get? (endpoint.gateway, cut 512 d.eventIdHeader)).isSome with
  | false =>
      simp only [exec, hraises, hknown, Bool.false_eq_true, if_false]
      exact
        { stage := .creating p hp
          effect := .quiet rfl rfl rfl
          handled := fun _ hx => .inl hx
          promise := fun _ hevent => by cases hevent
          told := fun _ h => .inl h }
  | true =>
      simp only [exec, hraises, hknown, Bool.false_eq_true, if_false]
      exact
        { stage := .accepting p hp .alreadyProcessed rfl
          effect := .quiet rfl rfl rfl
          handled := fun _ hx => .inl hx
          promise := fun _ _ => .inr (.inr (.inr ⟨_, _, rfl, mem_keys_iff.mpr hknown⟩))
          told := fun _ h => .inl h }

/-- The row is written, unless its key is taken. -/
lemma advance_creating (hp : env.loads d.body = .object p) {k : Created → Entry}
    (hk : receive env endpoint d p =
      .op (.create ⟨endpoint.gateway, dedupeKey env endpoint d, p, false⟩) k) :
    Advance env endpoint d (.create ⟨endpoint.gateway, dedupeKey env endpoint d, p, false⟩) e
      (k (exec (.create ⟨endpoint.gateway, dedupeKey env endpoint d, p, false⟩) e s).1) s
      (exec (.create ⟨endpoint.gateway, dedupeKey env endpoint d, p, false⟩) e s).2 := by
  cases hk
  by_cases hraises : e.dbRaises = true
  · simp only [exec, hraises, if_true]
    exact advance_refuse rfl (.quiet rfl rfl rfl)
  rw [Bool.not_eq_true] at hraises
  cases hinsert : s.inbox.insert? ⟨endpoint.gateway, dedupeKey env endpoint d, p, false⟩ with
  | none =>
      simp only [exec, hraises, hinsert, Bool.false_eq_true, if_false]
      exact
        { stage := .accepting p hp .alreadyProcessed rfl
          effect := .quiet rfl rfl rfl
          handled := fun _ hx => .inl hx
          promise := fun event hevent => by
            cases hevent
            exact .inr (.inr (.inl ⟨_, rfl, Table.insert?_eq_none_iff.mp hinsert, rfl,
              reported_of_loads hp endpoint⟩))
          told := fun _ h => .inl h }
  | some inbox =>
      simp only [exec, hraises, hinsert, Bool.false_eq_true, if_false]
      obtain ⟨hrows, hfree⟩ := Table.rows_of_insert? hinsert
      exact
        { stage := .handling p hp
          effect := .claimed (key env endpoint d) rfl rfl hfree
            (by rw [World.keys, hrows, List.map_append]; rfl) rfl
          handled := fun _ hx => .inl hx
          promise := fun _ hevent => by cases hevent
          told := fun _ h => .inl h }

lemma advance_handling (hp : env.loads d.body = .object p) {k : Handled → Entry}
    (hk : process env endpoint d p = .op (.handle (key env endpoint d) (endpoint, p.event)) k) :
    Advance env endpoint d (.handle (key env endpoint d) (endpoint, p.event)) e
      (k (exec (.handle (key env endpoint d) (endpoint, p.event)) e s).1) s
      (exec (.handle (key env endpoint d) (endpoint, p.event)) e s).2 := by
  by_cases hreturned : e.handler = .returned
  · cases hk
    simp only [exec, hreturned, if_true]
    exact
      { stage := .marking p hp
        effect := .completed (key env endpoint d) (endpoint, p.event) rfl rfl rfl rfl
        handled := fun x hx => by
          rcases List.mem_cons.mp hx with rfl | hx
          · exact .inr ⟨rfl, reported_of_loads hp endpoint⟩
          · exact .inl hx
        promise := fun event hevent => by
          cases hevent
          exact .inr (.inl (List.mem_map.mpr ⟨_, List.mem_cons_self, rfl⟩))
        told := fun _ h => .inl h }
  · simp only [exec, if_neg hreturned]
    rcases stage_raised hreturned hk with ⟨hkeeps, a, ha, hq⟩ | ⟨hkeeps, hq⟩
    · rw [hq]
      exact advance_refuse ha (.dropped ⟨hkeeps, hreturned⟩ rfl rfl rfl)
    · rw [hq]
      exact
        { stage := .releasing p hp
          effect := .quiet rfl rfl rfl
          handled := fun _ hx => .inl hx
          promise := fun _ hevent => by cases hevent
          told := fun _ h => .inl h }

lemma advance_releasing :
    Advance env endpoint d (.delete (key env endpoint d)) e
      (respond (some (endpoint, p.event)) .internalError) s
      (exec (.delete (key env endpoint d)) e s).2 := by
  by_cases hraises : e.dbRaises = true
  · simp only [exec, hraises, if_true]
    exact advance_refuse rfl (.dropped hraises rfl rfl rfl)
  · simp only [exec, if_neg hraises]
    exact
      { stage := .refusing _ _ rfl
        effect := .released (key env endpoint d) rfl rfl (fun k => by
          simp only [World.keys, List.mem_map, Table.mem_erase]
          constructor
          · rintro ⟨row, ⟨hrow, hne⟩, rfl⟩
            exact ⟨⟨row, hrow, rfl⟩, hne⟩
          · rintro ⟨⟨row, hrow, rfl⟩, hne⟩
            exact ⟨row, ⟨hrow, hne⟩, rfl⟩) rfl
        handled := fun _ hx => .inl hx
        promise := fun _ hevent => by cases hevent
        told := fun _ h => .inl h }

lemma advance_marking (hp : env.loads d.body = .object p) :
    Advance env endpoint d (.markProcessed (key env endpoint d) (endpoint, p.event)) e
      (respond (some (endpoint, p.event)) .handled) s
      (exec (.markProcessed (key env endpoint d) (endpoint, p.event)) e s).2 := by
  have hmark : ∀ s' : World, s'.keys = s.keys → s'.handled = s.handled → s'.told = s.told →
      Advance env endpoint d (.markProcessed (key env endpoint d) (endpoint, p.event)) e
        (respond (some (endpoint, p.event)) .handled) s s' := fun s' hkeys hhandled htold =>
    { stage := .accepting p hp .handled rfl
      effect := .quiet rfl hkeys hhandled
      handled := fun _ hx => .inl (hhandled ▸ hx)
      promise := fun _ hevent => .inl hevent
      told := fun _ h => .inl (htold ▸ h) }
  rw [exec]
  split
  · exact hmark s rfl rfl rfl
  split
  · exact hmark s rfl rfl rfl
  · rename_i row hrow
    refine hmark _ ?_ rfl rfl
    exact Table.map_pk_put_of_mem
      (List.mem_map.mpr ⟨row, (Table.mem_of_get? hrow).1, rfl⟩)

lemma advance_answering {event : Option Event} {a : Answer} :
    Advance env endpoint d (.answer event a) e (.ret ()) s (exec (.answer event a) e s).2 := by
  cases ha : a.accepts with
  | false =>
      simp only [exec, ha, Bool.false_eq_true, if_false]
      exact
        { stage := .returned
          effect := .quiet rfl rfl rfl
          handled := fun _ hx => .inl hx
          promise := fun _ hevent => by cases hevent
          told := fun _ h => .inl h }
  | true =>
      simp only [exec, ha, if_true]
      exact
        { stage := .returned
          effect := .quiet rfl rfl rfl
          handled := fun _ hx => .inl hx
          promise := fun _ hevent => by cases hevent
          told := fun x hx => by
            rcases List.mem_append.mp hx with hx | hx
            · rw [Option.mem_toList] at hx
              subst hx
              exact .inr (if_pos ha)
            · exact .inl hx }

/-- What the operations of a delivery do, stage by stage. -/
theorem advance_of_stage {o : InboxOp} {k : InboxAns o → Entry}
    (h : Stage env endpoint d (.op o k)) :
    Advance env endpoint d o e (k (exec o e s).1) s (exec o e s).2 := by
  generalize hq : (Prog.op o k : Entry) = q at h
  cases h with
  | checking p hp => cases hq; exact advance_checking hp rfl
  | creating p hp => cases hq; exact advance_creating hp rfl
  | handling p hp => cases hq; exact advance_handling hp rfl
  | releasing p hp => cases hq; exact advance_releasing
  | marking p hp => cases hq; exact advance_marking hp
  | accepting p hp a ha => cases hq; exact advance_answering
  | refusing event a ha => cases hq; exact advance_answering
  | returned => cases hq

end Advance

/-! ## Every interleaving -/

section Runs

variable {τ : Type} [DecidableEq τ] {env : Env} {p : InboxPool τ} {m : InboxMove τ}

/-- A move lets a key go that its delivery has neither handled nor deleted. -/
def Loses (p : InboxPool τ) : InboxMove τ → Prop
  | .advance t e => ¬ ∀ o ∈ nextOp (p.threads t), ¬ Lost o e
  | .start t _ => (holds (p.threads t)).isSome
  | .outside _ => False

instance (p : InboxPool τ) (m : InboxMove τ) : Decidable (Loses p m) :=
  match m with
  | .advance t e =>
      inferInstanceAs (Decidable (¬ ∀ o ∈ nextOp (p.threads t), ¬ Lost o e))
  | .start t _ => inferInstanceAs (Decidable ((holds (p.threads t)).isSome = true))
  | .outside _ => inferInstanceAs (Decidable False)

lemma Opening.start {endpoint : Endpoint} {d : Delivery} {q : Entry}
    (h : Opening env endpoint d q) :
    Stage env endpoint d q ∧ holds (some ((endpoint, d), q)) = none ∧
      promises (some ((endpoint, d), q)) = none := by
  cases h with
  | checking p hp => exact ⟨.checking p hp, rfl, rfl⟩
  | creating p hp => exact ⟨.creating p hp, rfl, rfl⟩
  | refusing event a ha => exact ⟨.refusing event a ha, rfl, promises_refusing ha⟩

lemma nextOp_eq_some {x : Option (Request × Entry)} {o : InboxOp} (h : nextOp x = some o) :
    ∃ endpoint d k, x = some ((endpoint, d), .op o k) := by
  rcases x with _ | ⟨⟨endpoint, d⟩, r | ⟨o', k⟩⟩
  · cases h
  · cases h
  · cases h
    exact ⟨endpoint, d, k, rfl⟩

/-- A thread that is missing or has returned does nothing. -/
lemma inboxStep_of_nextOp_eq_none (env : Env) {t : τ} (e : Choice)
    (h : nextOp (p.threads t) = none) :
    (inboxStep env p (.advance t e)).threads = p.threads ∧
      (inboxStep env p (.advance t e)).store = p.store := by
  rcases ht : p.threads t with _ | ⟨a, r | ⟨o, k⟩⟩
  · simp [inboxStep, Pool.step, ht]
  · refine ⟨funext fun t' => ?_, by simp [inboxStep, Pool.step, ht, Prog.next]⟩
    by_cases htt : t' = t
    · simp [inboxStep, Pool.step, ht, Prog.next, htt]
    · simp [inboxStep, Pool.step, ht, Prog.next, htt]
  · rw [ht] at h
    cases h

lemma inboxStep_advance (env : Env) {t : τ} (e : Choice) {a : Request} {o : InboxOp} {k : InboxAns o → Entry}
    (ht : p.threads t = some (a, .op o k)) :
    (inboxStep env p (.advance t e)).threads =
        Function.update p.threads t (some (a, k (exec o e p.store).1)) ∧
      (inboxStep env p (.advance t e)).store = (exec o e p.store).2 := by
  simp [inboxStep, Pool.step, ht, Prog.next]

/-- The thread a move is about, what it does to the inbox, and what the move makes of it. -/
structure MoveOf (env : Env) (t : τ) (m : InboxMove τ) (p p' : InboxPool τ) : Prop where
  others : ∀ t' ≠ t, p'.threads t' = p.threads t'
  stage : ∀ endpoint d q, p'.threads t = some ((endpoint, d), q) → Stage env endpoint d q
  effect : Effect (Loses p m) (holds (p.threads t)) (holds (p'.threads t)) p.store p'.store
  handled : ∀ x ∈ p'.store.handled, x ∈ p.store.handled ∨ ∃ endpoint d q,
    p.threads t = some ((endpoint, d), q) ∧ x.1 = key env endpoint d ∧
      reported env endpoint d = some x.2
  promise : ∀ event, promises (p'.threads t) = some event →
    promises (p.threads t) = some event ∨ event ∈ p'.store.handled.map Prod.snd ∨
      (∃ e row endpoint d q, m = .advance t e ∧ nextOp (p.threads t) = some (.create row) ∧
        row.key ∈ p.store.keys ∧ p.threads t = some ((endpoint, d), q) ∧
        row.key = key env endpoint d ∧ reported env endpoint d = some event) ∨
      ∃ e gateway header, m = .advance t e ∧
        nextOp (p.threads t) = some (.knownHeader gateway header) ∧
        (gateway, header) ∈ p.store.keys
  told : ∀ event ∈ p'.store.told, event ∈ p.store.told ∨ promises (p.threads t) = some event

lemma moveOf_advance {t : τ} {e : Choice} (h : ∀ endpoint d q,
    p.threads t = some ((endpoint, d), q) → Stage env endpoint d q) :
    MoveOf env t (.advance t e) p (inboxStep env p (.advance t e)) := by
  cases hnext : nextOp (p.threads t) with
  | none =>
      obtain ⟨hthreads, hstore⟩ := inboxStep_of_nextOp_eq_none env e hnext
      exact
        { others := fun t' _ => by rw [hthreads]
          stage := fun endpoint d q hq => h endpoint d q (by rw [← hthreads]; exact hq)
          effect := by rw [hthreads, hstore]; exact .quiet rfl rfl rfl
          handled := fun x hx => .inl (by rw [← hstore]; exact hx)
          promise := fun event hevent => .inl (by rw [← hthreads]; exact hevent)
          told := fun event hevent => .inl (by rw [← hstore]; exact hevent) }
  | some o =>
      obtain ⟨endpoint, d, k, ht⟩ := nextOp_eq_some hnext
      have hadvance := advance_of_stage (e := e) (s := p.store) (h endpoint d _ ht)
      obtain ⟨hthreads, hstore⟩ := inboxStep_advance env e ht
      have hself : (inboxStep env p (.advance t e)).threads t =
          some ((endpoint, d), k (exec o e p.store).1) := by
        rw [hthreads, Function.update_self]
      have hholds : holds (p.threads t) = o.held := by rw [holds, hnext]; rfl
      have hpromises : promises (p.threads t) = o.claims := by rw [promises, hnext]; rfl
      refine
        { others := fun t' ht' => by rw [hthreads, Function.update_of_ne ht']
          stage := fun endpoint' d' q hq => ?_
          effect := ?_
          handled := fun x hx => ?_
          promise := fun event hevent => ?_
          told := fun event hevent => ?_ }
      · rw [hself, Option.some.injEq, Prod.mk.injEq] at hq
        obtain ⟨hrequest, rfl⟩ := hq
        cases hrequest
        exact hadvance.stage
      · rw [hself, hstore, hholds]
        exact hadvance.effect.imp fun hlost hnot => hnot o hnext hlost
      · rw [hstore] at hx
        rcases hadvance.handled x hx with hx | ⟨hkey, hevent⟩
        · exact .inl hx
        · exact .inr ⟨endpoint, d, _, ht, hkey, hevent⟩
      · rw [hself] at hevent
        rw [hpromises, hstore]
        rcases hadvance.promise event hevent with hclaim | hdone | hdup | hheader
        · exact .inl hclaim
        · exact .inr (.inl hdone)
        · obtain ⟨row, rfl, hrow, hkey, hreported⟩ := hdup
          exact .inr (.inr (.inl ⟨e, row, endpoint, d, _, rfl, hnext, hrow, ht, hkey, hreported⟩))
        · obtain ⟨gateway, header, rfl, hrow⟩ := hheader
          exact .inr (.inr (.inr ⟨e, gateway, header, rfl, hnext, hrow⟩))
      · rw [hstore] at hevent
        rw [hpromises]
        exact hadvance.told event hevent

lemma moveOf_start (env : Env) (t : τ) (endpoint : Endpoint) (d : Delivery) :
    MoveOf env t (.start t (endpoint, d)) p (inboxStep env p (.start t (endpoint, d))) := by
  obtain ⟨hstage, hholds, hpromises⟩ := (opening_entry p.store : Opening env endpoint d _).start
  have hself : (inboxStep env p (.start t (endpoint, d))).threads t =
      some ((endpoint, d), entry env (endpoint, d) p.store) := by
    simp [inboxStep, Pool.step]
  refine
    { others := fun t' ht' => by simp [inboxStep, Pool.step, ht']
      stage := fun endpoint' d' q hq => ?_
      effect := ?_
      handled := fun x hx => .inl hx
      promise := fun event hevent => ?_
      told := fun event hevent => .inl hevent }
  · rw [hself, Option.some.injEq, Prod.mk.injEq] at hq
    obtain ⟨hrequest, rfl⟩ := hq
    cases hrequest
    exact hstage
  · rw [hself, hholds]
    cases hheld : holds (p.threads t) with
    | none => exact .quiet rfl rfl rfl
    | some key => exact .dropped (by rw [Loses, hheld]; rfl) rfl rfl rfl
  · rw [hself, hpromises] at hevent
    cases hevent

lemma exists_moveOf (h : ∀ t endpoint d q, p.threads t = some ((endpoint, d), q) →
    Stage env endpoint d q) (m : InboxMove τ) : ∃ t, MoveOf env t m p (inboxStep env p m) := by
  cases m with
  | advance t e => exact ⟨t, moveOf_advance (h t)⟩
  | start t a => exact ⟨t, moveOf_start env t a.1 a.2⟩
  | outside x => exact x.elim

/-! ### Each key is handled once -/

/-- Which keys there are, who holds them and which were handled. -/
structure Owned (env : Env) (p : InboxPool τ) : Prop where
  stage : ∀ t endpoint d q, p.threads t = some ((endpoint, d), q) → Stage env endpoint d q
  held : ∀ t key, holds (p.threads t) = some key → key ∈ p.store.keys ∧ key ∉ p.store.handledKeys
  /-- a key is held by one delivery -/
  alone : ∀ t t' key, holds (p.threads t) = some key → holds (p.threads t') = some key → t = t'
  rows : ∀ key ∈ p.store.handledKeys, key ∈ p.store.keys
  once : p.store.handledKeys.Nodup

lemma owned_inboxStep (m : InboxMove τ) (h : Owned env p) : Owned env (inboxStep env p m) := by
  obtain ⟨t, hmove⟩ := exists_moveOf h.stage m
  have hstage : ∀ t' endpoint d q, (inboxStep env p m).threads t' = some ((endpoint, d), q) →
      Stage env endpoint d q := by
    intro t' endpoint d q hq
    by_cases htt : t' = t
    · exact hmove.stage endpoint d q (htt ▸ hq)
    · exact h.stage t' endpoint d q (hmove.others t' htt ▸ hq)
  -- what a delivery holds after the move it held before, unless it has claimed its key
  have hsub : holds ((inboxStep env p m).threads t) = holds (p.threads t) ∨
      holds ((inboxStep env p m).threads t) = none →
      ∀ t' key, holds ((inboxStep env p m).threads t') = some key →
        holds (p.threads t') = some key := by
    rintro hheld t' key hkey
    by_cases htt : t' = t
    · subst htt
      rcases hheld with heq | hnone
      · rw [← heq]
        exact hkey
      · rw [hnone] at hkey
        cases hkey
    · rw [← hmove.others t' htt]
      exact hkey
  cases hmove.effect with
  | quiet keep keys handled =>
      have hsub := hsub (.inl keep)
      exact
        { stage := hstage
          held := fun t' key hkey => by
            rw [keys, World.handledKeys, handled]
            exact h.held t' key (hsub t' key hkey)
          alone := fun t₁ t₂ key h₁ h₂ => h.alone t₁ t₂ key (hsub t₁ key h₁) (hsub t₂ key h₂)
          rows := by rw [keys, World.handledKeys, handled]; exact h.rows
          once := by rw [World.handledKeys, handled]; exact h.once }
  | dropped _ none keys handled =>
      have hsub := hsub (.inr none)
      exact
        { stage := hstage
          held := fun t' key hkey => by
            rw [keys, World.handledKeys, handled]
            exact h.held t' key (hsub t' key hkey)
          alone := fun t₁ t₂ key h₁ h₂ => h.alone t₁ t₂ key (hsub t₁ key h₁) (hsub t₂ key h₂)
          rows := by rw [keys, World.handledKeys, handled]; exact h.rows
          once := by rw [World.handledKeys, handled]; exact h.once }
  | claimed key had has free keys handled =>
      -- the key is new, so no other delivery holds it and it has not been handled
      have hother : ∀ t' key', holds ((inboxStep env p m).threads t') = some key' →
          t' = t ∧ key' = key ∨ holds (p.threads t') = some key' := by
        intro t' key' hkey'
        by_cases htt : t' = t
        · rw [htt, has, Option.some.injEq] at hkey'
          exact .inl ⟨htt, hkey'.symm⟩
        · exact .inr (by rw [← hmove.others t' htt]; exact hkey')
      have hfresh : ∀ t', holds (p.threads t') ≠ some key := fun t' ht' => free (h.held t' key ht').1
      refine
        { stage := hstage
          held := fun t' key' hkey' => ?_
          alone := fun t₁ t₂ key' h₁ h₂ => ?_
          rows := fun key' hkey' => ?_
          once := by rw [World.handledKeys, handled]; exact h.once }
      · rw [keys, World.handledKeys, handled]
        rcases hother t' key' hkey' with ⟨-, rfl⟩ | hold
        · exact ⟨List.mem_append_right _ (List.mem_singleton_self _), fun hdone =>
            free (h.rows key' hdone)⟩
        · exact ⟨List.mem_append_left _ (h.held t' key' hold).1, (h.held t' key' hold).2⟩
      · rcases hother t₁ key' h₁ with ⟨rfl, rfl⟩ | hold₁
        · rcases hother t₂ key' h₂ with ⟨rfl, -⟩ | hold₂
          · rfl
          · exact absurd hold₂ (hfresh t₂)
        · rcases hother t₂ key' h₂ with ⟨rfl, rfl⟩ | hold₂
          · exact absurd hold₁ (hfresh t₁)
          · exact h.alone t₁ t₂ key' hold₁ hold₂
      · rw [World.handledKeys, handled] at hkey'
        rw [keys]
        exact List.mem_append_left _ (h.rows key' hkey')
  | completed key event had none keys handled =>
      have hsub := hsub (.inr none)
      have hne : ∀ t' key', holds ((inboxStep env p m).threads t') = some key' → key' ≠ key := by
        rintro t' key' hkey' rfl
        have htt := h.alone t' t key' (hsub t' key' hkey') had
        rw [htt, none] at hkey'
        cases hkey'
      have hkeys : (inboxStep env p m).store.handledKeys = key :: p.store.handledKeys := by
        rw [World.handledKeys, handled]
        rfl
      refine
        { stage := hstage
          held := fun t' key' hkey' => ?_
          alone := fun t₁ t₂ key' h₁ h₂ => h.alone t₁ t₂ key' (hsub t₁ key' h₁) (hsub t₂ key' h₂)
          rows := fun key' hkey' => ?_
          once := ?_ }
      · obtain ⟨hrow, hfree⟩ := h.held t' key' (hsub t' key' hkey')
        rw [keys, hkeys, List.mem_cons, not_or]
        exact ⟨hrow, hne t' key' hkey', hfree⟩
      · rw [hkeys] at hkey'
        rw [keys]
        rcases List.mem_cons.mp hkey' with rfl | hkey'
        · exact (h.held t key' had).1
        · exact h.rows key' hkey'
      · rw [hkeys]
        exact List.nodup_cons.mpr ⟨(h.held t key had).2, h.once⟩
  | released key had none keys handled =>
      have hsub := hsub (.inr none)
      refine
        { stage := hstage
          held := fun t' key' hkey' => ?_
          alone := fun t₁ t₂ key' h₁ h₂ => h.alone t₁ t₂ key' (hsub t₁ key' h₁) (hsub t₂ key' h₂)
          rows := fun key' hkey' => ?_
          once := by rw [World.handledKeys, handled]; exact h.once }
      · obtain ⟨hrow, hfree⟩ := h.held t' key' (hsub t' key' hkey')
        rw [World.handledKeys, handled, keys]
        refine ⟨⟨hrow, ?_⟩, hfree⟩
        rintro rfl
        have htt := h.alone t' t key' (hsub t' key' hkey') had
        rw [htt, none] at hkey'
        cases hkey'
      · rw [World.handledKeys, handled] at hkey'
        rw [keys]
        refine ⟨h.rows key' hkey', ?_⟩
        rintro rfl
        exact (h.held t key' had).2 hkey'

/-! ### Events and keys -/

def Names (env : Env) (rel : Event → Key → Prop) : InboxMove τ → Prop
  | .start _ (endpoint, d) =>
      ∀ event ∈ reported env endpoint d, rel event (key env endpoint d)
  | _ => True

instance (env : Env) (rel : Event → Key → Prop) [∀ event key, Decidable (rel event key)]
    (m : InboxMove τ) : Decidable (Names env rel m) :=
  match m with
  | .start _ (endpoint, d) =>
      inferInstanceAs (Decidable (∀ event ∈ reported env endpoint d, rel event (key env endpoint d)))
  | .advance _ _ | .outside _ => inferInstanceAs (Decidable True)

/-- All deliveries do, and the handlers have run on events under their keys. -/
structure Named (env : Env) (rel : Event → Key → Prop) (p : InboxPool τ) : Prop where
  threads : ∀ t endpoint d q, p.threads t = some ((endpoint, d), q) →
    ∀ event ∈ reported env endpoint d, rel event (key env endpoint d)
  handled : ∀ x ∈ p.store.handled, rel x.2 x.1

lemma named_inboxStep {rel : Event → Key → Prop} (m : InboxMove τ) (hnames : Names env rel m)
    (howned : Owned env p) (h : Named env rel p) : Named env rel (inboxStep env p m) := by
  obtain ⟨t, hmove⟩ := exists_moveOf howned.stage m
  refine ⟨fun t' endpoint d q hq => ?_, fun x hx => ?_⟩
  · cases m with
    | advance t₀ e =>
        cases hnext : nextOp (p.threads t₀) with
        | none =>
            rw [(inboxStep_of_nextOp_eq_none env e hnext).1] at hq
            exact h.threads t' endpoint d q hq
        | some o =>
            obtain ⟨endpoint₀, d₀, k, ht⟩ := nextOp_eq_some hnext
            rw [(inboxStep_advance env e ht).1] at hq
            by_cases htt : t' = t₀
            · subst htt
              rw [Function.update_self, Option.some.injEq, Prod.mk.injEq] at hq
              obtain ⟨hrequest, -⟩ := hq
              cases hrequest
              exact h.threads t' endpoint d _ ht
            · rw [Function.update_of_ne htt] at hq
              exact h.threads t' endpoint d q hq
    | start t₀ a =>
        by_cases htt : t' = t₀
        · subst htt
          have hself : (inboxStep env p (.start t' a)).threads t' =
              some (a, entry env a p.store) := by simp [inboxStep, Pool.step]
          rw [hself, Option.some.injEq, Prod.mk.injEq] at hq
          obtain ⟨rfl, -⟩ := hq
          exact hnames
        · have hother : (inboxStep env p (.start t₀ a)).threads t' = p.threads t' := by
            simp [inboxStep, Pool.step, htt]
          rw [hother] at hq
          exact h.threads t' endpoint d q hq
    | outside x => exact x.elim
  · rcases hmove.handled x hx with hx | ⟨endpoint, d, q, ht, hkey, hevent⟩
    · exact h.handled x hx
    · rw [hkey]
      exact h.threads t endpoint d q ht x.2 hevent

/-! ### What is told has been handled -/

/-- The inbox is consulted when no other delivery is about to decide its key. -/
def Clear (p : InboxPool τ) : InboxOp → Prop
  | .create row => ∀ t, holds (p.threads t) ≠ some row.key
  | .knownHeader gateway header => (gateway, header) ∉ p.store.keys
  | _ => True

instance [Fintype τ] (p : InboxPool τ) (o : InboxOp) : Decidable (Clear p o) :=
  match o with
  | .create row => inferInstanceAs (Decidable (∀ t, holds (p.threads t) ≠ some row.key))
  | .knownHeader gateway header => inferInstanceAs (Decidable ((gateway, header) ∉ p.store.keys))
  | .handle .. | .markProcessed .. | .delete .. | .answer .. => inferInstanceAs (Decidable True)

/-- A move is orderly: no key is let go with its row left and its event not handled, no
duplicate comes while its key is held, and no header names a row. -/
def Orderly (p : InboxPool τ) (m : InboxMove τ) : Prop :=
  ¬ Loses p m ∧
    match m with
    | .advance t _ => ∀ o ∈ nextOp (p.threads t), Clear p o
    | _ => True

instance [Fintype τ] (p : InboxPool τ) (m : InboxMove τ) : Decidable (Orderly p m) :=
  @instDecidableAnd _ _ inferInstance <|
    match m with
    | .advance t _ => inferInstanceAs (Decidable (∀ o ∈ nextOp (p.threads t), Clear p o))
    | .start _ _ | .outside _ => inferInstanceAs (Decidable True)

/-- The rows have been handled or will be, and only what was handled is called processed. -/
structure Kept (p : InboxPool τ) : Prop where
  claimed : ∀ key ∈ p.store.keys, key ∈ p.store.handledKeys ∨ ∃ t, holds (p.threads t) = some key
  promised : ∀ t event, promises (p.threads t) = some event → event ∈ p.store.handled.map Prod.snd
  told : ∀ event ∈ p.store.told, event ∈ p.store.handled.map Prod.snd

lemma Effect.handled_mono {lost : Prop} {held held' : Option Key} {s s' : World}
    (h : Effect lost held held' s s') : ∀ x ∈ s.handled, x ∈ s'.handled := by
  cases h with
  | quiet _ _ handled => exact fun x hx => handled ▸ hx
  | dropped _ _ _ handled => exact fun x hx => handled ▸ hx
  | claimed _ _ _ _ _ handled => exact fun x hx => handled ▸ hx
  | completed _ _ _ _ _ handled => exact fun x hx => handled ▸ List.mem_cons_of_mem _ hx
  | released _ _ _ _ handled => exact fun x hx => handled ▸ hx

omit [DecidableEq τ] in
/-- A key that stays claimed: its holder is another delivery, or this one has handled it. -/
lemma claimed_of_moveOf {t : τ} {p' : InboxPool τ} (h : Kept p) (hmove : MoveOf env t m p p')
    (hkeep : ¬ Loses p m) :
    ∀ key ∈ p'.store.keys, key ∈ p'.store.handledKeys ∨ ∃ t', holds (p'.threads t') = some key := by
  have hold : ∀ key ∈ p.store.keys, holds (p.threads t) ≠ some key →
      key ∈ p'.store.handledKeys ∨ ∃ t', holds (p'.threads t') = some key := by
    intro key hkey hne
    rcases h.claimed key hkey with hdone | ⟨t', ht'⟩
    · obtain ⟨x, hx, rfl⟩ := List.mem_map.mp hdone
      exact .inl (List.mem_map.mpr ⟨x, hmove.effect.handled_mono x hx, rfl⟩)
    · refine .inr ⟨t', ?_⟩
      rw [hmove.others t' (by rintro rfl; exact hne ht')]
      exact ht'
  intro key' hkey'
  cases hmove.effect with
  | quiet keep keys _ =>
      rw [keys] at hkey'
      by_cases hheld : holds (p.threads t) = some key'
      · exact .inr ⟨t, keep.trans hheld⟩
      · exact hold key' hkey' hheld
  | dropped lost _ _ _ => exact absurd lost hkeep
  | claimed key had has _ keys _ =>
      rw [keys] at hkey'
      rcases List.mem_append.mp hkey' with hkey' | hkey'
      · exact hold key' hkey' (by rw [had]; exact fun heq => by cases heq)
      · rw [List.mem_singleton.mp hkey']
        exact .inr ⟨t, has⟩
  | completed key event had _ keys handled =>
      rw [keys] at hkey'
      by_cases heq : key' = key
      · refine .inl ?_
        rw [World.handledKeys, handled, heq]
        exact List.mem_cons_self
      · exact hold key' hkey' (by rw [had]; exact fun h => heq (Option.some.inj h).symm)
  | released key had _ keys _ =>
      obtain ⟨hkey', hne⟩ := (keys key').mp hkey'
      exact hold key' hkey' (by rw [had]; exact fun h => hne (Option.some.inj h).symm)

lemma kept_inboxStep {eventOf : Key → Event} (m : InboxMove τ) (horderly : Orderly p m)
    (howned : Owned env p) (hnamed : Named env (fun event key => eventOf key = event) p)
    (h : Kept p) : Kept (inboxStep env p m) := by
  obtain ⟨t, hmove⟩ := exists_moveOf howned.stage m
  have hgrows : ∀ event ∈ p.store.handled.map Prod.snd,
      event ∈ (inboxStep env p m).store.handled.map Prod.snd := by
    intro event hevent
    obtain ⟨x, hx, rfl⟩ := List.mem_map.mp hevent
    exact List.mem_map.mpr ⟨x, hmove.effect.handled_mono x hx, rfl⟩
  refine ⟨claimed_of_moveOf h hmove horderly.1, fun t' event hevent => ?_, fun event hevent => ?_⟩
  · by_cases htt : t' = t
    · subst htt
      rcases hmove.promise event hevent with hbefore | hdone | hdup | hheader
      · exact hgrows event (h.promised t' event hbefore)
      · exact hdone
      · -- the row it meets has been handled, since no delivery holds its key
        obtain ⟨e, row, endpoint, d, q, rfl, hnext, hrow, ht, hkey, hreported⟩ := hdup
        have hclear : Clear p (.create row) := horderly.2 _ hnext
        rcases h.claimed row.key hrow with hdone | ⟨t₀, ht₀⟩
        · obtain ⟨x, hx, hxkey⟩ := List.mem_map.mp hdone
          have hx₂ : eventOf x.1 = x.2 := hnamed.handled x hx
          have hevent₂ := hnamed.threads t' endpoint d q ht event hreported
          rw [← hkey, ← hxkey, hx₂] at hevent₂
          exact hgrows event (List.mem_map.mpr ⟨x, hx, hevent₂⟩)
        · exact absurd ht₀ (hclear t₀)
      · obtain ⟨e, gateway, header, rfl, hnext, hrow⟩ := hheader
        have hclear : Clear p (.knownHeader gateway header) := horderly.2 _ hnext
        exact absurd hrow hclear
    · rw [hmove.others t' htt] at hevent
      exact hgrows event (h.promised t' event hevent)
  · rcases hmove.told event hevent with htold | hpromise
    · exact hgrows event (h.told event htold)
    · exact hgrows event (h.promised t event hpromise)

/-! ### Runs -/

def noDeliveries (τ : Type) : InboxPool τ := ⟨fun _ => none, ⟨.empty, [], []⟩⟩

omit [DecidableEq τ] in
lemma owned_noDeliveries : Owned env (noDeliveries τ) where
  stage := fun _ _ _ _ h => by cases h
  held := fun _ _ h => by cases h
  alone := fun _ _ _ h => by cases h
  rows := fun _ h => by cases h
  once := List.nodup_nil

omit [DecidableEq τ] in
lemma named_noDeliveries (rel : Event → Key → Prop) : Named env rel (noDeliveries τ) :=
  ⟨fun _ _ _ _ h => (by cases h), fun _ h => (by cases h)⟩

omit [DecidableEq τ] in
lemma kept_noDeliveries : Kept (noDeliveries τ) :=
  ⟨fun _ h => (by cases h), fun _ _ h => (by cases h), fun _ h => (by cases h)⟩

/-- In every run the handler runs to completion at most once under one key; so it does for one
event when all deliveries of an event have one key; and in a run whose moves are orderly, when
no two events have one key, only events whose handler has run to completion are called
processed. -/
theorem processed_of_run (env : Env) (keyOf : Event → Key) (eventOf : Key → Event)
    (ms : List (InboxMove τ)) :
    (Transition.run (inboxStep env) (noDeliveries τ) ms).store.handledKeys.Nodup ∧
    (Transition.Guarded (inboxStep env)
        (fun _ m => Names env (fun event key => key = keyOf event) m) (noDeliveries τ) ms →
      ((Transition.run (inboxStep env) (noDeliveries τ) ms).store.handled.map Prod.snd).Nodup) ∧
    (Transition.Guarded (inboxStep env)
        (fun p m => Orderly p m ∧ Names env (fun event key => eventOf key = event) m)
        (noDeliveries τ) ms →
      ∀ event ∈ (Transition.run (inboxStep env) (noDeliveries τ) ms).store.told,
        event ∈ (Transition.run (inboxStep env) (noDeliveries τ) ms).store.handled.map Prod.snd) := by
  have howned : Owned env (Transition.run (inboxStep env) (noDeliveries τ) ms) :=
    Transition.invariant (fun _ m h => owned_inboxStep m h) ms owned_noDeliveries
  refine ⟨howned.once, fun h => ?_, fun h => ?_⟩
  · have hnamed := (Transition.invariant_of_guarded
      (I := fun p => Owned env p ∧ Named env (fun event key => key = keyOf event) p)
      (fun _ m hnames hI => ⟨owned_inboxStep m hI.1, named_inboxStep m hnames hI.1 hI.2⟩)
      ⟨owned_noDeliveries, named_noDeliveries _⟩ h).2
    -- two completions on one event would be under one key
    have hmap : ∀ l : List (Key × Event), (∀ x ∈ l, x.1 = keyOf x.2) →
        (l.map Prod.snd).map keyOf = l.map Prod.fst := by
      intro l hl
      rw [List.map_map]
      exact List.map_congr_left fun x hx => (hl x hx).symm
    refine List.Nodup.of_map keyOf ?_
    rw [hmap _ hnamed.handled]
    exact howned.once
  · exact (Transition.invariant_of_guarded
      (I := fun p => (Owned env p ∧ Named env (fun event key => eventOf key = event) p) ∧ Kept p)
      (fun _ m hm hI => ⟨⟨owned_inboxStep m hI.1.1, named_inboxStep m hm.2 hI.1.1 hI.1.2⟩,
        kept_inboxStep m hm.1 hI.1.1 hI.1.2 hI.2⟩)
      ⟨⟨owned_noDeliveries, named_noDeliveries _⟩, kept_noDeliveries⟩ h).2.told

end Runs

/-! ### A capture at Razorpay and a payment at Cashfree -/

def captured : String := "\x7b\"created_at\":1700000000,\"event\":\"payment.captured\"\x7d"

def paid : String := "\x7b\"type\":\"PAYMENT_SUCCESS_WEBHOOK\"\x7d"

/-- Both signatures are right, and the handlers are configured. -/
def surroundings : Env where
  verifies := fun _ _ _ _ => true
  configured := fun _ => true
  loads := fun body =>
    if body = captured then .object ⟨"payment.captured", true, some 1700000000⟩
    else if body = paid then .object ⟨"PAYMENT_SUCCESS_WEBHOOK", true, none⟩
    else .notJson
  sha256 := fun body =>
    if body = captured then "fa6011636b5a2ad77c46c169057ecd3013849a50c7c3c4c352aab257a919be81"
    else ""
  maxAge := 86700

def deliverCaptured (t : Bool) : InboxMove Bool :=
  .start t (.razorpayWebhook, ⟨true, captured, "c1f0", "", "", 1700000001⟩)

def deliverPaid (t : Bool) (signature : String) : InboxMove Bool :=
  .start t (.paymentWebhook, ⟨true, paid, signature, "1700000001", "", 1700000001⟩)

/-- Thread `t` performs its next `n` operations, and handlers end so. -/
def goOn (t : Bool) (n : ℕ) (handler : Handled) : List (InboxMove Bool) :=
  List.replicate n (.advance t ⟨false, handler⟩)

def capturedKey : Key :=
  ("razorpay", "body:fa6011636b5a2ad77c46c169057ecd3013849a50c7c3c4c352aab257a919be81")

def capturedEvent : Event := (.razorpayWebhook, "payment.captured")

def paidEvent : Event := (.paymentWebhook, "PAYMENT_SUCCESS_WEBHOOK")

/-- The handler of the capture raises, and Razorpay delivers it twice more; the payment is
delivered twice meanwhile. -/
def redelivered : List (InboxMove Bool) :=
  deliverCaptured true :: goOn true 2 .raised ++ deliverPaid false "q8X=" :: goOn false 4 .returned ++
    goOn true 2 .raised ++ deliverCaptured true :: goOn true 4 .returned ++
    deliverPaid false "q8X=" :: goOn false 2 .returned ++ deliverCaptured true :: goOn true 2 .returned

/-- Each event was handled once, and was when it was called processed. -/
theorem redelivered_processed :
    ((Transition.run (inboxStep surroundings) (noDeliveries Bool) redelivered).store.handled.map
        Prod.snd).Nodup ∧
      ∀ event ∈ (Transition.run (inboxStep surroundings) (noDeliveries Bool) redelivered).store.told,
        event ∈ (Transition.run (inboxStep surroundings) (noDeliveries Bool)
          redelivered).store.handled.map Prod.snd := by
  have hrun := processed_of_run surroundings
    (fun event => if event = capturedEvent then capturedKey else ("cashfree", "q8X="))
    (fun key => if key = capturedKey then capturedEvent else paidEvent) redelivered
  exact ⟨hrun.2.1 (by decide +kernel), hrun.2.2 (by decide +kernel)⟩

/-- The handler of the payment raises, and Cashfree delivers it again. -/
def lostAtCashfree : List (InboxMove Bool) :=
  deliverPaid true "q8X=" :: goOn true 3 .raised ++ deliverPaid false "q8X=" :: goOn false 2 .returned

/-- Cashfree delivers the payment again, signed with a new timestamp. -/
def signedAgain : List (InboxMove Bool) :=
  deliverPaid true "q8X=" :: goOn true 4 .returned ++ deliverPaid false "r9Y=" :: goOn false 4 .returned

/-- A duplicate of the capture arrives while its handler runs, and the handler raises. -/
def duplicateInFlight : List (InboxMove Bool) :=
  deliverCaptured true :: goOn true 1 .returned ++ deliverCaptured false :: goOn false 2 .returned ++
    goOn true 3 .raised

/-- An event that Cashfree was told is processed has not been handled, one that it signed again
was handled twice, and one that Razorpay was told is processed has not been handled. -/
theorem not_processed_once :
    (paidEvent ∈ (Transition.run (inboxStep surroundings) (noDeliveries Bool)
          lostAtCashfree).store.told ∧
        (Transition.run (inboxStep surroundings) (noDeliveries Bool)
          lostAtCashfree).store.handled = []) ∧
      ¬ ((Transition.run (inboxStep surroundings) (noDeliveries Bool)
          signedAgain).store.handled.map Prod.snd).Nodup ∧
      capturedEvent ∈ (Transition.run (inboxStep surroundings) (noDeliveries Bool)
          duplicateInFlight).store.told ∧
        (Transition.run (inboxStep surroundings) (noDeliveries Bool)
          duplicateInFlight).store.handled = [] := by
  decide +kernel

end SaaradhiGo.Webhooks
