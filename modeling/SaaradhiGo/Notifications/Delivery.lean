/-
Every interleaving of the calls on the outbox.

A webhook and the sweep write a row without asking whether a worker holds it, and a worker
writes its result without asking whether the row is still its own.  So a result can overwrite
what a webhook reported (`reportOverwritten`).  In the runs in which no webhook moves a row a
live worker has claimed, and no sweep takes one back, the law of the outbox holds: one row for
each key and channel, at most `NOTIFY_MAX_ATTEMPTS` calls of the adapter for a row, no call and
no change by the dispatcher once the row is terminal, and a sweep that takes up or fails every
other row (`outbox_law`).
-/
import Mathlib.Data.Fintype.Basic
import SaaradhiGo.Notifications.Swept

namespace SaaradhiGo.Notifications

open Interleave

variable {c : Config} {τ : Type} [DecidableEq τ]

/-! ## Workers over one outbox -/

abbrev Workers (τ : Type) : Type := Pool Op Ans Reply Outbox τ Call

abbrev WorkerMove (τ : Type) : Type := Move τ Choice Call Unit

def workerStep (c : Config) (p : Workers τ) (m : WorkerMove τ) : Workers τ :=
  Pool.step (exec c) (fun a _ => program c a) (fun _ s => s) p m

/-- The statement a thread performs next. -/
def nextOp (p : Workers τ) (t : τ) : Option Op :=
  match p.threads t with
  | some (_, .op o _) => some o
  | _ => none

/-- The row a thread has claimed and not yet written the result of. -/
def owns (p : Workers τ) (t : τ) : Option ℕ := (nextOp p t).bind Op.claimed

/-- The statement takes the row from whoever has claimed it: a webhook that moves it, or the
sweep for a lost worker. -/
def Op.Seizes (c : Config) (s : Outbox) (id : ℕ) : Op → Prop
  | .advance id' status _ => id' = id ∧ ∀ m ∈ s.messages.get? id, m.status ∈ advanceFrom status
  | .failStuck now => ∀ m ∈ s.messages.get? id, Outbox.Stuck m now ∧ c.maxAttempts ≤ m.attempts
  | .requeueStuck now => ∀ m ∈ s.messages.get? id, Outbox.Stuck m now ∧ m.attempts < c.maxAttempts
  | _ => False

instance (s : Outbox) (id : ℕ) : (o : Op) → Decidable (o.Seizes c s id)
  | .advance id' status _ => inferInstanceAs
      (Decidable (id' = id ∧ ∀ m ∈ s.messages.get? id, m.status ∈ advanceFrom status))
  | .failStuck now => inferInstanceAs (Decidable (∀ m ∈ s.messages.get? id,
      Outbox.Stuck m now ∧ c.maxAttempts ≤ m.attempts))
  | .requeueStuck now => inferInstanceAs (Decidable (∀ m ∈ s.messages.get? id,
      Outbox.Stuck m now ∧ m.attempts < c.maxAttempts))
  | .findKey _ | .draft | .create _ _ _ | .claim _ _ | .read _ | .decide _ | .suppressAs _ _ _
  | .hold _ _ | .setProvider _ _ | .rateOk _ | .recordSending _ _ | .build _ | .call _
  | .answer _ | .setMessageId _ _ | .finish _ _ _ | .requeue _ _ _ _ | .reload _ | .record _
  | .scrub _ | .setReason _ _ | .lookUp _ _ | .due _ => isFalse fun h => h

/-- The move takes no row from a worker that has claimed it. -/
def Calm (c : Config) (p : Workers τ) : WorkerMove τ → Prop
  | .advance t _ => ∀ o ∈ nextOp p t, ∀ t', ∀ id ∈ owns p t', ¬ o.Seizes c p.store id
  | _ => True

instance [Fintype τ] (p : Workers τ) : (m : WorkerMove τ) → Decidable (Calm c p m)
  | .advance t _ => inferInstanceAs
      (Decidable (∀ o ∈ nextOp p t, ∀ t', ∀ id ∈ owns p t', ¬ o.Seizes c p.store id))
  | .start _ _ | .outside _ => isTrue trivial

/-! ## A claim is followed up by its worker -/

/-- The claim the next operation of a program relies on. -/
def claimOf : Program → Option ℕ
  | .ret _ => none
  | .op o _ => o.claimed

/-- The claim a program may rely on after an operation and its answer. -/
def granted : (o : Op) → Ans o → Option ℕ
  | .claim id _, claimed => if claimed then some id else none
  | o, _ => o.claimed

/-- A program relies on a claim only right after it was granted or relied on before. -/
def Chained : Program → Prop
  | .ret _ => True
  | .op o k => ∀ x, (claimOf (k x) = none ∨ claimOf (k x) = granted o x) ∧ Chained (k x)

lemma chained_ret {r : Reply} : Chained (.ret r) := trivial

lemma chained_free {o : Op} {k : Ans o → Program}
    (h : ∀ x, claimOf (k x) = none ∧ Chained (k x)) : Chained (.op o k) :=
  fun x => ⟨.inl (h x).1, (h x).2⟩

lemma chained_under (id : ℕ) {o : Op} {k : Ans o → Program} (ho : ∀ x, granted o x = some id)
    (h : ∀ x, (claimOf (k x) = none ∨ claimOf (k x) = some id) ∧ Chained (k x)) :
    Chained (.op o k) := by
  intro x
  rw [ho x]
  exact h x

section Programs

variable {id now : ℕ}

lemma chained_finishAs {status : Status} {detail error : String} {k : Program}
    (hclaim : claimOf k = none) (hk : Chained k) :
    Chained (finishAs id status detail error k) := by
  refine chained_free fun _ => ⟨rfl, chained_free fun m => ?_⟩
  cases m with
  | none => exact ⟨rfl, chained_ret⟩
  | some m => exact ⟨rfl, chained_free fun _ => ⟨rfl, chained_free fun _ => ⟨hclaim, hk⟩⟩⟩

lemma chained_retryOrFail {error : String} : Chained (retryOrFail c id now error) := by
  refine chained_under id (fun _ => rfl) fun m => ?_
  cases m with
  | none => exact ⟨.inl rfl, chained_ret⟩
  | some m =>
      dsimp only
      split
      · exact ⟨.inr rfl, chained_finishAs rfl chained_ret⟩
      · exact ⟨.inr rfl, chained_free fun _ => ⟨rfl, chained_free fun _ => ⟨rfl, chained_ret⟩⟩⟩

lemma chained_send : Chained (send c id now) := by
  refine chained_under id (fun _ => rfl) fun _ => ⟨.inr rfl, ?_⟩
  refine chained_under id (fun _ => rfl) fun answer => ?_
  cases answer with
  | accepted pmid delivered =>
      refine ⟨.inr rfl, chained_under id (fun _ => rfl) fun _ => ⟨.inr rfl, ?_⟩⟩
      exact chained_finishAs rfl chained_ret
  | transient error => exact ⟨.inr rfl, chained_retryOrFail⟩
  | permanent error => exact ⟨.inr rfl, chained_finishAs rfl chained_ret⟩
  | raised name => exact ⟨.inr rfl, chained_retryOrFail⟩

lemma chained_hold {notBefore : ℕ} {r : Reply} :
    Chained (.op (.hold id notBefore) fun _ => .ret r) :=
  chained_free fun _ => ⟨rfl, chained_ret⟩

lemma chained_sendIfAllowed {m : Message} {provider : String} :
    Chained (sendIfAllowed c id m provider now) := by
  refine chained_under id (fun _ => rfl) fun allowed => ?_
  cases allowed with
  | false => exact ⟨.inr rfl, chained_hold⟩
  | true =>
      refine ⟨.inr rfl, chained_under id (fun _ => rfl) fun _ => ⟨.inr rfl, ?_⟩⟩
      refine chained_under id (fun _ => rfl) fun refused => ?_
      cases refused with
      | some name => exact ⟨.inr rfl, chained_retryOrFail⟩
      | none => exact ⟨.inr rfl, chained_send⟩

lemma chained_deliverClaimed {m : Message} : Chained (deliverClaimed c id m now) := by
  refine chained_under id (fun _ => rfl) fun verdict => ?_
  cases verdict with
  | noRecipient =>
      exact ⟨.inr rfl, chained_finishAs rfl (chained_free fun _ => ⟨rfl, chained_ret⟩)⟩
  | suppressed reason provider =>
      refine ⟨.inr rfl, chained_under id (fun _ => rfl) fun _ => ⟨.inr rfl, ?_⟩⟩
      exact chained_finishAs rfl chained_ret
  | held notBefore => exact ⟨.inr rfl, chained_hold⟩
  | go provider =>
      dsimp only
      split
      · exact ⟨.inr rfl, chained_sendIfAllowed⟩
      · refine ⟨.inr rfl, chained_under id (fun _ => rfl) fun _ => ⟨.inr rfl, ?_⟩⟩
        exact chained_sendIfAllowed

end Programs

lemma chained_deliver {id now : ℕ} : Chained (deliver c id now) := by
  intro claimed
  rw [afterClaim]
  split
  · rename_i hclaimed
    refine ⟨.inr (by rw [granted, if_pos hclaimed]; rfl), chained_under id (fun _ => rfl)
      fun m => ?_⟩
    cases m with
    | none => exact ⟨.inl rfl, chained_ret⟩
    | some m => exact ⟨.inr rfl, chained_deliverClaimed⟩
  · exact ⟨.inl rfl, chained_ret⟩

lemma chained_notifyEach {idempotencyKey : String} (channels : List Channel) (ids : List ℕ) :
    claimOf (notifyEach idempotencyKey channels ids) = none ∧
      Chained (notifyEach idempotencyKey channels ids) := by
  induction channels generalizing ids with
  | nil => exact ⟨rfl, chained_ret⟩
  | cons channel channels ih =>
      refine ⟨rfl, chained_free fun found => ?_⟩
      cases found with
      | some m => exact ih _
      | none =>
          refine ⟨rfl, chained_free fun d => ⟨rfl, chained_free fun created => ?_⟩⟩
          cases created with
          | some i => exact ih _
          | none =>
              refine ⟨rfl, chained_free fun other => ?_⟩
              cases other with
              | some m => exact ih _
              | none => exact ⟨rfl, chained_ret⟩

lemma chained_program (a : Call) : claimOf (program c a) = none ∧ Chained (program c a) := by
  cases a with
  | notify idempotencyKey channels => exact chained_notifyEach channels []
  | deliver id now => exact ⟨rfl, chained_deliver⟩
  | webhook provider pmid status detail =>
      refine ⟨rfl, chained_free fun found => ?_⟩
      cases found with
      | none => exact ⟨rfl, chained_ret⟩
      | some m =>
          refine ⟨rfl, chained_free fun new => ?_⟩
          cases new with
          | false => exact ⟨rfl, chained_ret⟩
          | true => exact ⟨rfl, chained_free fun _ => ⟨rfl, chained_ret⟩⟩
  | dispatchQueued now =>
      exact ⟨rfl, chained_free fun _ => ⟨rfl, chained_free fun _ => ⟨rfl, chained_free fun _ =>
        ⟨rfl, chained_ret⟩⟩⟩⟩

/-! ## One worker for each claim -/

/-- A statement of another party leaves a claimed row steady, unless it takes it. -/
lemma steady_of_other {s : Outbox} {o : Op} {e : Choice} {id : ℕ} {m : Message} (hs : Kept c s)
    (hget : s.messages.get? id = some m) (hsending : m.status = .sending)
    (hother : o.claimed ≠ some id) (hcalm : ¬ o.Seizes c s id) :
    Steady id s (exec c o e s).2 := by
  have hid : m.id = id := Table.pk_of_get? hget
  refine ⟨fun x hx => ?_, ?_⟩
  · rw [hget, Option.some.injEq] at hx
    subst hx
    obtain ⟨m', hm', hturned⟩ := exec_turned (c := c) (o := o) (e := e) hget (hs.fresh id m hget)
    refine ⟨m', hm', ?_⟩
    have hseized : (∀ m' ∈ s.messages.get? id, m' = m) := by
      intro m' hm'
      rw [hget] at hm'
      exact (Option.mem_some_iff.mp hm').symm
    cases hturned.turn with
    | same o hstatus hattempts => exact ⟨hstatus, hattempts⟩
    | claimed now hq hs ha =>
        rw [hsending] at hq
        cases hq
    | held n hs ha => exact absurd (congrArg some hid) hother
    | finished st err hs ha => exact absurd (congrArg some hid) hother
    | requeued now d err hs ha => exact absurd (congrArg some hid) hother
    | advanced st d hm hs ha =>
        exact absurd ⟨hid, fun x hx => by rw [hseized x hx]; exact hm⟩ hcalm
    | lost now hst hsp hs ha =>
        exact absurd (fun x hx => by rw [hseized x hx]; exact ⟨hst, hsp⟩) hcalm
    | returned now hst hl hs ha =>
        exact absurd (fun x hx => by rw [hseized x hx]; exact ⟨hst, hl⟩) hcalm
  · rcases (exec_counters c o e s).2 with h | ⟨i, rfl, h⟩
    · rw [h]
    · have hne : i ≠ id := fun hi => hother (congrArg some hi)
      rw [h, List.count_cons_of_ne hne]

/-- Every running call is sound. -/
abbrev AllSound (c : Config) (p : Workers τ) : Prop :=
  Pool.Valid (exec c) (fun _ _ _ s => Kept c s) (fun _ => Relies) (fun _ o s _ => Holds c o s)
    (fun _ _ _ => True) p

/-- The outbox is in order, every call is chained, and no row is claimed by two workers. -/
structure InOrder (c : Config) (p : Workers τ) : Prop where
  kept : Kept c p.store
  chained : ∀ t a q, p.threads t = some (a, q) → Chained q
  exclusive : ∀ t t' id, owns p t = some id → owns p t' = some id → t = t'

variable {p : Workers τ} {m : WorkerMove τ}

omit [DecidableEq τ] in
lemma owns_of_thread {t : τ} {a : Call} {q : Program} (h : p.threads t = some (a, q)) :
    owns p t = claimOf q := by
  rw [owns, nextOp, h]
  cases q with
  | ret r => rfl
  | op o k => rfl

omit [DecidableEq τ] in
/-- The operation of a thread holds the claim it relies on. -/
lemma holds_of_sound (hsound : AllSound c p) (hkept : Kept c p.store) {t : τ} {a : Call} {o : Op}
    {k : Ans o → Program} (e : Choice) (ht : p.threads t = some (a, .op o k)) :
    Holds c o p.store :=
  (hsound t a _ ⟨ht, id⟩ p.store (.refl _ _) e hkept).1

omit [DecidableEq τ] in
/-- A row a worker has claimed is `sending`. -/
lemma sending_of_owns (hsound : AllSound c p) (hkept : Kept c p.store) (e : Choice) {t : τ} {id : ℕ}
    (h : owns p t = some id) : ∃ m, p.store.messages.get? id = some m ∧ m.status = .sending := by
  rcases ht : p.threads t with _ | ⟨a, q⟩
  · rw [owns, nextOp, ht] at h
    cases h
  · rw [owns_of_thread ht] at h
    cases q with
    | ret r => cases h
    | op o k =>
        obtain ⟨m, hm, hsending, -⟩ := holds_of_sound hsound hkept e ht id h
        exact ⟨m, hm, hsending⟩

lemma step_advance {t : τ} {e : Choice} {a : Call} {o : Op} {k : Ans o → Program}
    (ht : p.threads t = some (a, .op o k)) :
    workerStep c p (.advance t e) =
      ⟨Function.update p.threads t (some (a, k (exec c o e p.store).1)),
        (exec c o e p.store).2⟩ := by
  rw [workerStep, Pool.step, ht]
  rfl

/-- A thread that is missing or has returned does nothing. -/
lemma store_step_idle {t : τ} {e : Choice} (h : ∀ a o k, p.threads t ≠ some (a, .op o k)) :
    (workerStep c p (.advance t e)).store = p.store :=
  Pool.store_step_advance_of_not_running h

lemma owns_step_idle {t : τ} {e : Choice} (h : ∀ a o k, p.threads t ≠ some (a, .op o k)) (t' : τ) :
    (workerStep c p (.advance t e)).threads t' = p.threads t' := by
  rcases ht : p.threads t with _ | ⟨a, q⟩
  · rw [workerStep, Pool.step, ht]
  · cases q with
    | op o k => exact absurd ht (h a o k)
    | ret r =>
        rw [workerStep, Pool.step, ht]
        show Function.update p.threads t (some (a, .ret r)) t' = p.threads t'
        by_cases heq : t' = t
        · rw [heq, Function.update_self, ht]
        · rw [Function.update_of_ne heq]

lemma claim_of_not_queued {s : Outbox} {id : ℕ} {m : Message} (now : ℕ)
    (hget : s.messages.get? id = some m) (h : m.status ≠ .queued) :
    (s.claim id now).1 = false := by
  rw [Outbox.claim, hget]
  dsimp only
  rw [if_neg fun hc => h hc.1]

/-- Every move keeps the workers in order. -/
lemma inOrder_workerStep (hcalm : Calm c p m) (h : InOrder c p) (hsound : AllSound c p) :
    InOrder c (workerStep c p m) := by
  cases m with
  | outside x => exact h
  | start t a =>
      have hnone : ∀ t', owns (workerStep c p (.start t a)) t' = if t' = t then none
          else owns p t' := by
        intro t'
        by_cases heq : t' = t
        · subst heq
          rw [if_pos rfl, owns_of_thread (a := a) (q := program c a)
            (by exact Function.update_self _ _ _), (chained_program a).1]
        · rw [if_neg heq, owns, nextOp, owns, nextOp]
          show Option.bind (match Function.update p.threads t _ t' with
            | some (_, .op o _) => some o
            | _ => none) _ = _
          rw [Function.update_of_ne heq]
      refine ⟨h.kept, fun t' a' q ht' => ?_, fun t₁ t₂ id h₁ h₂ => ?_⟩
      · by_cases heq : t' = t
        · subst heq
          have hself : (workerStep c p (.start t' a)).threads t' = some (a, program c a) :=
            Function.update_self _ _ _
          rw [hself, Option.some.injEq, Prod.mk.injEq] at ht'
          rw [← ht'.2]
          exact (chained_program a).2
        · have hother : (workerStep c p (.start t a)).threads t' = p.threads t' :=
            Function.update_of_ne heq _ _
          rw [hother] at ht'
          exact h.chained t' a' q ht'
      · rw [hnone] at h₁ h₂
        split at h₁
        · cases h₁
        split at h₂
        · cases h₂
        exact h.exclusive t₁ t₂ id h₁ h₂
  | advance t e =>
      by_cases hrun : ∃ a o k, p.threads t = some (a, .op o k)
      · obtain ⟨a, o, k, ht⟩ := hrun
        have hchained := h.chained t a _ ht (exec c o e p.store).1
        have hself : (workerStep c p (.advance t e)).threads t =
            some (a, k (exec c o e p.store).1) := by
          rw [step_advance ht]
          exact Function.update_self _ _ _
        have hother : ∀ t', t' ≠ t →
            (workerStep c p (.advance t e)).threads t' = p.threads t' := by
          intro t' heq
          rw [step_advance ht]
          exact Function.update_of_ne heq _ _
        have howns : ∀ t', t' ≠ t → owns (workerStep c p (.advance t e)) t' = owns p t' := by
          intro t' heq
          rw [owns, nextOp, hother t' heq, owns, nextOp]
        -- a claim that is new to the thread was free
        have hnew : ∀ t' id, t' ≠ t → owns p t' = some id →
            owns (workerStep c p (.advance t e)) t ≠ some id := by
          intro t' id hne hid ht'
          rw [owns_of_thread hself] at ht'
          rcases hchained.1 with hfree | hgranted
          · rw [hfree] at ht'
            cases ht'
          rw [hgranted] at ht'
          have hclaimed : o.claimed = some id := by
            cases o with
            | claim id' now =>
                exfalso
                obtain ⟨row, hrow, hsending⟩ := sending_of_owns hsound h.kept e hid
                rw [granted] at ht'
                split at ht'
                · rename_i hyes
                  rw [Option.some.injEq] at ht'
                  subst ht'
                  have hno := claim_of_not_queued now hrow
                    (by rw [hsending]; decide)
                  exact absurd (hyes.symm.trans hno) (by decide)
                · cases ht'
            | _ => exact ht'
          exact hne (h.exclusive t' t id hid ((owns_of_thread ht).trans hclaimed))
        refine ⟨?_, fun t' a' q ht' => ?_, fun t₁ t₂ id h₁ h₂ => ?_⟩
        · rw [step_advance ht]
          exact kept_exec h.kept (holds_of_sound hsound h.kept e ht)
        · by_cases heq : t' = t
          · subst heq
            rw [hself, Option.some.injEq, Prod.mk.injEq] at ht'
            rw [← ht'.2]
            exact hchained.2
          · rw [hother t' heq] at ht'
            exact h.chained t' a' q ht'
        · by_cases h₁t : t₁ = t
          · by_cases h₂t : t₂ = t
            · rw [h₁t, h₂t]
            · subst h₁t
              rw [howns t₂ h₂t] at h₂
              exact absurd h₁ (hnew t₂ id h₂t h₂)
          · by_cases h₂t : t₂ = t
            · subst h₂t
              rw [howns t₁ h₁t] at h₁
              exact absurd h₂ (hnew t₁ id h₁t h₁)
            · rw [howns t₁ h₁t] at h₁
              rw [howns t₂ h₂t] at h₂
              exact h.exclusive t₁ t₂ id h₁ h₂
      · have hidle : ∀ a o k, p.threads t ≠ some (a, .op o k) :=
          fun a o k ht => hrun ⟨a, o, k, ht⟩
        have hthreads := owns_step_idle (c := c) (e := e) hidle
        have howns : ∀ t', owns (workerStep c p (.advance t e)) t' = owns p t' := by
          intro t'
          rw [owns, nextOp, hthreads t', owns, nextOp]
        refine ⟨by rw [store_step_idle hidle]; exact h.kept, fun t' a q ht' => ?_,
          fun t₁ t₂ id h₁ h₂ => ?_⟩
        · rw [hthreads t'] at ht'
          exact h.chained t' a q ht'
        · rw [howns] at h₁ h₂
          exact h.exclusive t₁ t₂ id h₁ h₂

lemma respects_workerStep (hcalm : Calm c p m) (h : InOrder c p) (hsound : AllSound c p) :
    Pool.Respects (exec c) (fun a _ => program c a) (fun _ s => s) (fun _ => Relies) p m := by
  intro t' a' q' hrun hne o' k' hq' id hid
  cases m with
  | outside x => exact .refl _ _
  | start t a => exact .refl _ _
  | advance t e =>
      show Steady id p.store (workerStep c p (.advance t e)).store
      by_cases hop : ∃ a o k, p.threads t = some (a, .op o k)
      · obtain ⟨a, o, k, ht⟩ := hop
        rw [step_advance ht]
        have hthread : p.threads t' = some (a', .op o' k') := hq' ▸ hrun.1
        have howns : owns p t' = some id := (owns_of_thread hthread).trans hid
        obtain ⟨row, hrow, hsending⟩ := sending_of_owns hsound h.kept e howns
        refine steady_of_other h.kept hrow hsending (fun hclaimed => ?_) ?_
        · have heq := h.exclusive t' t id howns ((owns_of_thread ht).trans hclaimed)
          exact hne e (by rw [heq])
        · exact hcalm o (by rw [nextOp, ht]; rfl) t' id howns
      · rw [store_step_idle fun a o k ht => hop ⟨a, o, k, ht⟩]
        exact .refl _ _

lemma invariant_workerStep (p : Workers τ) (m : WorkerMove τ) (hcalm : Calm c p m)
    (h : InOrder c p ∧ AllSound c p) :
    InOrder c (workerStep c p m) ∧ AllSound c (workerStep c p m) :=
  Pool.invariant_valid_step (R := fun (_ : Call) => Relies)
    (G := fun (_ : Call) o s _ => Holds c o s) (Q := fun _ _ _ => True)
    (fun _ q s => Relies.refl q s) (fun _ _ _ _ _ => Relies.trans)
    (fun _ _ hcalm h hsound => inOrder_workerStep hcalm h hsound)
    (fun _ _ _ _ h => fun _ _ _ _ => h.kept)
    (fun _ _ hcalm h hsound => respects_workerStep hcalm h hsound)
    (fun _ _ a _ _ => sound_program a _) p m hcalm h

/-! ## The law of the outbox -/

/-- No calls over an outbox without rows. -/
def noWorkers : Workers τ := ⟨fun _ => none, ⟨⟨[], List.nodup_nil⟩, 0, [], []⟩⟩

/-- What a move may do: a terminal row is left to the webhooks, which take none out of
`delivered` or `suppressed`, and the adapter is called for a row that is `sending`. -/
structure Lawful (c : Config) (p : Workers τ) (m : WorkerMove τ) : Prop where
  frozen : ∀ id row, p.store.messages.get? id = some row → row.status ∈ terminal →
    ∃ row', (workerStep c p m).store.messages.get? id = some row' ∧ row'.status ∈ terminal ∧
      (row'.status = row.status ∨ row.status ≠ .delivered ∧ row.status ≠ .suppressed ∧
        ∃ t e status detail, m = .advance t e ∧ nextOp p t = some (.advance id status detail))
  calls : ∀ id, (workerStep c p m).store.calls.count id ≠ p.store.calls.count id →
    ∃ row, p.store.messages.get? id = some row ∧ row.status = .sending

/-- The statuses a webhook moves a terminal row from and to. -/
lemma advanceFrom_terminal {status old : Status} (h : old ∈ advanceFrom status) :
    status ∈ terminal ∧ old ≠ .delivered ∧ old ≠ .suppressed := by
  cases status <;> cases old <;> first | exact absurd h (by decide) | decide

lemma Lawful.of_store_eq (h : (workerStep c p m).store = p.store) : Lawful c p m := by
  refine ⟨fun id row hrow hterminal => ⟨row, by rw [h]; exact hrow, hterminal, .inl rfl⟩, ?_⟩
  intro id hne
  rw [h] at hne
  exact absurd rfl hne

lemma Turn.of_terminal {o : Op} {row row' : Message} (h : Turn c row row' o)
    (hrow : row.status ∈ terminal) (hclaimed : o.claimed ≠ some row.id) :
    row'.status = row.status ∨ ∃ status detail, o = .advance row.id status detail ∧
      row.status ∈ advanceFrom status ∧ row'.status = status := by
  have hne : ∀ {status : Status}, status ∉ terminal → row.status ≠ status :=
    fun hstatus heq => hstatus (heq ▸ hrow)
  cases h with
  | same o hstatus hattempts => exact .inl hstatus
  | claimed now hq hs ha => exact absurd hq (hne (by decide))
  | held n hs ha => exact absurd rfl hclaimed
  | finished st err hs ha => exact absurd rfl hclaimed
  | requeued now d err hs ha => exact absurd rfl hclaimed
  | advanced st d hm hs ha => exact .inr ⟨st, d, rfl, hm, hs⟩
  | lost now hst hsp hs ha => exact absurd hst.1 (hne (by decide))
  | returned now hst hl hs ha => exact absurd hst.1 (hne (by decide))

lemma lawful_of_inOrder (h : InOrder c p) (hsound : AllSound c p) : Lawful c p m := by
  cases m with
  | outside x => exact .of_store_eq rfl
  | start t a => exact .of_store_eq rfl
  | advance t e =>
      by_cases hrun : ∃ a o k, p.threads t = some (a, .op o k)
      · obtain ⟨a, o, k, ht⟩ := hrun
        have hholds := holds_of_sound hsound h.kept e ht
        constructor
        · intro id row hrow hterminal
          rw [step_advance ht]
          have hid : row.id = id := Table.pk_of_get? hrow
          have hclaimed : o.claimed ≠ some row.id := by
            intro hclaimed
            obtain ⟨row₁, hrow₁, hsending, -⟩ := hholds row.id hclaimed
            rw [hid, hrow, Option.some.injEq] at hrow₁
            subst hrow₁
            rw [hsending] at hterminal
            exact absurd hterminal (by decide)
          obtain ⟨row', hrow', hturned⟩ :=
            exec_turned (c := c) (o := o) (e := e) hrow (h.kept.fresh id row hrow)
          refine ⟨row', hrow', ?_⟩
          rcases hturned.turn.of_terminal hterminal hclaimed with hsame | ⟨st, d, rfl, hfrom, hst⟩
          · exact ⟨hsame ▸ hterminal, .inl hsame⟩
          · obtain ⟨hst', hdelivered, hsuppressed⟩ := advanceFrom_terminal hfrom
            refine ⟨hst ▸ hst', .inr ⟨hdelivered, hsuppressed, t, e, st, d, rfl, ?_⟩⟩
            rw [nextOp, ht, ← hid]
        · intro id hne
          rw [step_advance ht] at hne
          rcases (exec_counters c o e p.store).2 with hcalls | ⟨i, rfl, hcalls⟩
          · exact absurd (congrArg (List.count id) hcalls) hne
          · by_cases heq : i = id
            · obtain ⟨row, hrow, hsending, -⟩ := hholds i rfl
              exact ⟨row, heq ▸ hrow, hsending⟩
            · refine absurd ?_ hne
              show (exec c (.call i) e p.store).2.calls.count id = _
              rw [hcalls, List.count_cons_of_ne heq]
      · exact .of_store_eq (store_step_idle fun a o k ht => hrun ⟨a, o, k, ht⟩)

lemma kept_nil : Kept c ⟨⟨[], List.nodup_nil⟩, 0, [], []⟩ := by
  have hnone : ∀ {P : Prop} {id : ℕ} {m : Message},
      Table.get? (⟨[], List.nodup_nil⟩ : Table Message.id) id = some m → P := by
    intro P id m h
    cases h
  exact ⟨fun _ _ h => hnone h, fun _ _ _ _ h => hnone h, fun _ _ h => hnone h,
    fun _ _ h => hnone h, fun _ _ h => hnone h, fun _ h => by cases h⟩

omit [DecidableEq τ] in
lemma inOrder_noWorkers :
    InOrder c (noWorkers : Workers τ) ∧ AllSound c (noWorkers : Workers τ) := by
  refine ⟨⟨kept_nil, fun t a q h => ?_, fun t t' id h => ?_⟩, fun t a q h => ?_⟩
  · cases h
  · cases h
  · cases h.1

/-- Along lawful moves a terminal row is terminal for good, and the adapter is not called for
it again. -/
lemma terminal_of_lawful {as : List (WorkerMove τ)} {id : ℕ} {row : Message}
    (h : Transition.Guarded (workerStep c) (Lawful c) p as)
    (hrow : p.store.messages.get? id = some row) (hterminal : row.status ∈ terminal) :
    (Transition.run (workerStep c) p as).store.calls.count id = p.store.calls.count id := by
  induction as generalizing p row with
  | nil => rfl
  | cons m as ih =>
      obtain ⟨hlawful, hrest⟩ := h
      obtain ⟨row', hrow', hterminal', -⟩ := hlawful.frozen id row hrow hterminal
      rw [Transition.run_cons, ih hrest hrow' hterminal']
      by_contra hne
      obtain ⟨row₁, hrow₁, hsending⟩ := hlawful.calls id hne
      rw [hrow, Option.some.injEq] at hrow₁
      subst hrow₁
      rw [hsending] at hterminal
      exact absurd hterminal (by decide)

/-- In every run in which no webhook moves a row that a live worker has claimed, and no sweep
takes one back: rows have keys of their own; for a row the adapter is called at most
`NOTIFY_MAX_ATTEMPTS` times, and never once the row is terminal; no call but a webhook changes
a terminal row; and every other row is queued or sending, and is taken up by a later sweep. -/
theorem outbox_law {as : List (WorkerMove τ)}
    (h : Transition.Guarded (workerStep c) (Calm c) (noWorkers : Workers τ) as) :
    let s := (Transition.run (workerStep c) noWorkers as).store
    (∀ id row id' row', s.messages.get? id = some row → s.messages.get? id' = some row' →
      row.idempotencyKey = row'.idempotencyKey → id = id') ∧
    (∀ id row, s.messages.get? id = some row → s.calls.count id ≤ c.maxAttempts) ∧
    Transition.Guarded (workerStep c) (Lawful c) noWorkers as ∧
    (∀ bs, bs <+: as → ∀ id row,
      (Transition.run (workerStep c) (noWorkers : Workers τ) bs).store.messages.get? id = some row →
      row.status ∈ terminal → s.calls.count id =
        (Transition.run (workerStep c) (noWorkers : Workers τ) bs).store.calls.count id) ∧
    ∀ id row, s.messages.get? id = some row → row.status ∉ terminal →
      (row.status = .queued ∨ row.status = .sending) ∧
        ∀ times : ℕ → ℕ, (∀ n, Outbox.Ripe row (times n)) →
          ∃ n, Outbox.TakenUp c (times n) id (Outbox.sweeps c times n s) := by
  intro s
  have hkept : Kept c s :=
    (Transition.invariant_of_guarded invariant_workerStep inOrder_noWorkers h).1.kept
  have hlawful : Transition.Guarded (workerStep c) (Lawful c) (noWorkers : Workers τ) as :=
    Transition.guarded_of_invariant invariant_workerStep
      (fun _ _ _ hI => lawful_of_inOrder hI.1 hI.2) inOrder_noWorkers h
  refine ⟨hkept.keys, fun id row hrow => ?_, hlawful, ?_, fun id row hrow hopen => ?_⟩
  · exact (hkept.calls id row hrow).trans (hkept.attempts id row hrow)
  · rintro bs ⟨cs, rfl⟩ id row hrow hterminal
    show (Transition.run (workerStep c) noWorkers (bs ++ cs)).store.calls.count id = _
    rw [Transition.run_append]
    exact terminal_of_lawful (Transition.guarded_append.mp hlawful).2 hrow hterminal
  · exact ⟨not_terminal_iff.mp hopen, fun times hripe =>
      Outbox.takenUp_of_sweeps hkept hrow hopen hripe⟩

/-! ## A text message -/

/-- Three attempts, the second after half a minute. -/
def threeAttempts : Config := ⟨3, 30⟩

/-- The surroundings of a text message that Twilio accepts. -/
def twilioAccepts (now : ℕ) : Choice where
  now := now
  verdict := .go "twilio"
  draft := .queued "twilio" none
  allowed := true
  refused := none
  answer := .accepted "SM1" false
  scrubs := false

/-- A call of a thread and `n` of its statements. -/
def callMoves (t : Bool) (a : Call) (n now : ℕ) : List (WorkerMove Bool) :=
  .start t a :: List.replicate n (.advance t (twilioAccepts now))

/-- One text message, which a worker claims and hands to Twilio. -/
def handedOver : List (WorkerMove Bool) :=
  callMoves false (.notify "trip-1-driver-assigned" [.sms]) 3 0 ++ callMoves true (.deliver 0 1) 9 1

def reported : List (WorkerMove Bool) :=
  callMoves false (.webhook "twilio" "SM1" .delivered "") 3 2

def finished : WorkerMove Bool := .advance true (twilioAccepts 3)

/-- A message is delivered before its worker writes the result of the call: the worker moves
it from `delivered` to `sent`. -/
theorem reportOverwritten :
    ((Transition.run (workerStep threeAttempts) noWorkers
      (handedOver ++ reported)).store.messages.get? 0).map Message.status = some .delivered ∧
    ((Transition.run (workerStep threeAttempts) noWorkers
      (handedOver ++ reported ++ [finished])).store.messages.get? 0).map Message.status =
        some .sent ∧
    ¬ Transition.Guarded (workerStep threeAttempts) (Lawful threeAttempts) noWorkers
      (handedOver ++ reported ++ [finished]) := by
  have hbefore : ((Transition.run (workerStep threeAttempts) noWorkers
      (handedOver ++ reported)).store.messages.get? 0).map Message.status = some .delivered := by
    decide +kernel
  have hafter : ((Transition.run (workerStep threeAttempts) noWorkers
      (handedOver ++ reported ++ [finished])).store.messages.get? 0).map Message.status =
        some .sent := by
    decide +kernel
  refine ⟨hbefore, hafter, fun h => ?_⟩
  obtain ⟨hlawful, -⟩ := (Transition.guarded_append.mp h).2
  rw [Transition.run_append] at hafter
  obtain ⟨row, hrow, hdelivered⟩ := Option.map_eq_some_iff.mp hbefore
  obtain ⟨row', hrow', -, hsame | ⟨hopen, -⟩⟩ :=
    hlawful.frozen 0 row hrow (by rw [hdelivered]; decide)
  · have hsent : (some row').map Message.status = some .sent := hrow' ▸ hafter
    rw [Option.map_some, Option.some.injEq, hsame, hdelivered] at hsent
    cases hsent
  · exact hopen hdelivered

/-- The law holds when Twilio reports after the worker's own result. -/
theorem outbox_law_reportedAfter :
    Transition.Guarded (workerStep threeAttempts) (Calm threeAttempts) noWorkers
      (handedOver ++ [finished] ++ reported) ∧
    Transition.Guarded (workerStep threeAttempts) (Lawful threeAttempts) noWorkers
      (handedOver ++ [finished] ++ reported) := by
  have hcalm : Transition.Guarded (workerStep threeAttempts) (Calm threeAttempts) noWorkers
      (handedOver ++ [finished] ++ reported) := by
    decide +kernel
  exact ⟨hcalm, (outbox_law hcalm).2.2.1⟩

end SaaradhiGo.Notifications
