/-
The dispatcher interleaved with the provider's webhooks.

A dispatcher runs on an instance it loaded when the withdrawal was claimed, and saves it
without a lock.  A thread of the pool is such a dispatcher; the surroundings claim
withdrawals and deliver webhooks between any two of its operations.

Two things go wrong.  A webhook that lands while the dispatcher has still to save
`processed` or `unresolved` is overwritten by that save; and once the provider has taken a
payout, a failure of the dispatcher (a save that raises, an answer without a payout id)
sends it into its failure path, which refunds the wallet.  Apart from these the dispatcher
is safe, for every interleaving of any number of dispatchers.
-/
import SaaradhiGo.Payouts.Actions

namespace SaaradhiGo.Payouts

open SaaradhiGo.Money Interleave

/-! ## The system -/

/-- A dispatch of a withdrawal. -/
structure DispatchRequest where
  env : DispatchEnv
  id : ℕ

/-- The dispatcher of a claimed withdrawal runs on the instance loaded here. -/
def dispatchOf (a : DispatchRequest) (s : World) : Dispatch :=
  match s.db.withdrawals.get? a.id with
  | some w => triggerPayoutCreation a.env w
  | none => .ret false

/-- What happens between two operations of a dispatcher. -/
inductive Outside where
  /-- the approval executor moves a withdrawal from pending to approved -/
  | claim (id : ℕ) (hasHandle : Bool) (now : ℕ)
  /-- the provider delivers a webhook -/
  | webhook (p : Payload) (now : ℕ)

/-- The effect of the surroundings, each in one transaction with the row locked. -/
def outside : Outside → World → World
  | .claim id hasHandle now, s =>
      match approveOne s.db id hasHandle now with
      | some (_, db) => { s with db }
      | none => s
  | .webhook p now, s => { s with db := (handlePayoutWebhook s.db p now).2 }

section Race

variable {τ : Type} [DecidableEq τ]

abbrev DispatchPool (τ : Type) : Type :=
  Pool DispatchOp DispatchAns Bool World τ DispatchRequest

abbrev DispatchMove (τ : Type) : Type := Move τ Choice DispatchRequest Outside

def raceStep (p : DispatchPool τ) (m : DispatchMove τ) : DispatchPool τ :=
  Pool.step exec dispatchOf outside p m

/-- The statuses the provider's webhooks, or a rejection, leave for good. -/
def isFinal : WithdrawalStatus → Bool
  | .completed | .failed | .rejected | .reversed => true
  | _ => false

/-- No withdrawal leaves the final statuses. -/
def KeepsFinal (s s' : World) : Prop :=
  ∀ id w, s.db.withdrawals.get? id = some w → isFinal w.status →
    ∃ w', s'.db.withdrawals.get? id = some w' ∧ isFinal w'.status

/-- The withdrawal a dispatcher is about to refund. -/
def refundNext : Dispatch → Option ℕ
  | .op (.refund w _) _ => some w.id
  | _ => none

/-- A step of a dispatcher leaves final statuses final, and a refund of a withdrawal the
provider took writes nothing. -/
def DispatcherSafe (p : DispatchPool τ) (m : DispatchMove τ) : Prop :=
  ∀ t e, m = .advance t e →
    KeepsFinal p.store (raceStep p m).store ∧
      ∀ id ∈ (p.threads t).bind fun x => refundNext x.2, id ∈ p.store.accepted →
        (raceStep p m).store.db.ledger = p.store.db.ledger

/-! ## The condition -/

def savesOnTheWay : DispatchOp → Prop
  | .save w fields => .status ∈ fields ∧ isFinal w.status = false
  | _ => False

/-- What is left of a dispatcher can still save a status that is not final. -/
def MaySave : Dispatch → Prop
  | .ret _ => False
  | .op o k => savesOnTheWay o ∨ ∃ a, MaySave (k a)

/-- The operation is taken under a choice that does not fail a payout the provider took: a
save of such a withdrawal does not raise, and the provider's answer carries a payout id. -/
def Dependable : DispatchOp → Choice → World → Prop
  | .save w _, e, s => w.id ∈ s.accepted → e.dbRaises = none
  | .createUpiPayout _, e, _ =>
      match e.provider with
      | .accepted result => truthy result.payoutId = true
      | .raised _ paid => paid = false
      | .refused | .unknown _ => True
  | _, _, _ => True

def IsOutcome (event : PayoutEvent) : Prop :=
  event = .success ∨ event = .failed ∨ event = .reversed

/-- The moves that keep the dispatchers safe: what the provider took does not fail in the
dispatcher, a withdrawal is dispatched by one dispatcher at a time and not again after the
provider took it, and no outcome is delivered for a withdrawal while its dispatcher can
still save a status that is not final. -/
def Orderly (p : DispatchPool τ) : DispatchMove τ → Prop
  | .advance t e => Pool.Admitted (fun _ => Dependable) p t e
  | .start t a =>
      (∀ t' a' q, t' ≠ t → p.Running t' a' q → a'.id ≠ a.id) ∧
        ∀ w, p.store.db.withdrawals.get? a.id = some w →
          w.status = .approved ∨ w.status = .processed → a.id ∉ p.store.accepted
  | .outside (.webhook payload _) =>
      ∀ t a q, p.Running t a q → MaySave q → ∀ w, findWithdrawal p.store.db payload = some w →
        w.id = a.id → ¬ IsOutcome (PayoutEvent.ofText payload.event)
  | .outside (.claim _ _ _) => True

/-! ## What a dispatcher relies on and guarantees -/

def Unsettled (s : World) (id : ℕ) : Prop :=
  ∀ w, s.db.withdrawals.get? id = some w → isFinal w.status = false

/-- What others may do to the world while `q` is left of the dispatcher of withdrawal
`id`. -/
structure Rely (id : ℕ) (q : Dispatch) (s s' : World) : Prop where
  accepted : id ∈ s'.accepted ↔ id ∈ s.accepted
  unsettled : MaySave q → Unsettled s id → Unsettled s' id

/-- What an operation of the dispatcher of withdrawal `id` does. -/
structure Guarantee (id : ℕ) (o : DispatchOp) (s s' : World) : Prop where
  keeps : KeepsFinal s s'
  refund : ∀ w ref, o = .refund w ref → w.id ∉ s.accepted
  rows : ∀ i, i ≠ id → s'.db.withdrawals.get? i = s.db.withdrawals.get? i
  accepted : ∀ i, i ≠ id → (i ∈ s'.accepted ↔ i ∈ s.accepted)

lemma Rely.refl (id : ℕ) (q : Dispatch) (s : World) : Rely id q s s := ⟨Iff.rfl, fun _ hs => hs⟩

lemma Rely.trans {id : ℕ} {q : Dispatch} {s t u : World} (h : Rely id q s t)
    (h' : Rely id q t u) : Rely id q s u :=
  ⟨h'.accepted.trans h.accepted, fun hq hs => h'.unsettled hq (h.unsettled hq hs)⟩

lemma KeepsFinal.of_withdrawals {s s' : World} (h : s'.db.withdrawals = s.db.withdrawals) :
    KeepsFinal s s' :=
  fun _ w hget hfinal => ⟨w, by rwa [h], hfinal⟩

/-- What is left of the dispatcher of withdrawal `id` meets its guarantee. -/
def Sound (id : ℕ) (p : Dispatch) (s : World) : Prop :=
  Prog.wp exec Dependable (Rely id) (Guarantee id) p (fun _ _ => True) s

lemma sound_ret {id : ℕ} {b : Bool} {s : World} : Sound id (.ret b) s := fun _ _ => trivial

section Rules

variable {id : ℕ} {s : World} {w : Withdrawal} {fields : List Field} {k : Dispatch}
  {raised : String → Dispatch}

lemma maySave_saveThen (hfields : .status ∈ fields) (hstatus : isFinal w.status = false) :
    MaySave (saveThen w fields raised k) :=
  Or.inl ⟨hfields, hstatus⟩

/-- A save touches one row; it keeps final statuses when it saves a final status, or when
the row is in none. -/
lemma guarantee_save {s : World} (hid : w.id = id)
    (hstatus : .status ∈ fields → isFinal w.status = true ∨ Unsettled s id) :
    Guarantee id (.save w fields) s { s with db := s.db.save w fields } := by
  refine ⟨?_, fun w' ref h => by (cases h), ?_, fun _ _ => Iff.rfl⟩
  · intro i row hget hfinal
    by_cases hi : i = w.id
    · subst hi
      refine ⟨row.update w fields, Db.get?_save_self hget, ?_⟩
      rw [Withdrawal.status_update]
      split
      · rename_i hmem
        rcases hstatus hmem with h | h
        · exact h
        · rw [h row (by rwa [← hid])] at hfinal
          cases hfinal
      · exact hfinal
    · exact ⟨row, by rwa [Db.get?_save_of_ne _ _ _ hi], hfinal⟩
  · intro i hi
    rw [← hid] at hi
    exact Db.get?_save_of_ne _ _ _ hi

/-- An operation that leaves the withdrawals and the provider alone, and is no refund of a
withdrawal the provider took. -/
lemma guarantee_of_same {o : DispatchOp} {s s' : World}
    (hw : s'.db.withdrawals = s.db.withdrawals) (ha : s'.accepted = s.accepted)
    (hrefund : ∀ w ref, o = .refund w ref → w.id ∉ s.accepted) : Guarantee id o s s' :=
  ⟨.of_withdrawals hw, hrefund, fun _ _ => by rw [hw], fun _ _ => by rw [ha]⟩

/-! ### The failure path of a payout the provider did not take -/

lemma sound_saveThen_failing (hid : w.id = id) (hs : id ∉ s.accepted)
    (hstatus : .status ∈ fields → isFinal w.status = true)
    (hraised : ∀ m s', id ∉ s'.accepted → Sound id (raised m) s')
    (hk : ∀ s', id ∉ s'.accepted → Sound id k s') : Sound id (saveThen w fields raised k) s := by
  intro s₁ hrely e _
  have hs₁ : id ∉ s₁.accepted := fun h => hs (hrely.accepted.mp h)
  cases he : e.dbRaises with
  | none =>
      simp only [exec, he]
      exact ⟨guarantee_save hid fun hmem => Or.inl (hstatus hmem), hk _ hs₁⟩
  | some m =>
      simp only [exec, he]
      exact ⟨guarantee_of_same rfl rfl fun w' ref h => by (cases h), hraised m s₁ hs₁⟩

/-- The refund of a payout the provider did not take. -/
lemma sound_refundThen {raised : Dispatch} (hid : w.id = id) (hs : id ∉ s.accepted)
    (hraised : ∀ s', id ∉ s'.accepted → Sound id raised s')
    (hk : ∀ s', id ∉ s'.accepted → Sound id k s') : Sound id (refundThen w raised k) s := by
  intro s₁ hrely₁ _ _
  have hs₁ : id ∉ s₁.accepted := fun h => hs (hrely₁.accepted.mp h)
  refine ⟨guarantee_of_same rfl rfl fun w' ref h => by (cases h), ?_⟩
  intro s₂ hrely₂ e _
  have hs₂ : id ∉ s₂.accepted := fun h => hs₁ (hrely₂.accepted.mp h)
  have hrefund : ∀ w' ref', DispatchOp.refund w (failedRefundReference s₁.db.ledger.rows w.id)
      = .refund w' ref' → w'.id ∉ s₂.accepted := by
    rintro w' ref' h
    cases h
    rwa [hid]
  cases he : e.dbRaises with
  | some m =>
      simp only [exec, he]
      exact ⟨guarantee_of_same rfl rfl hrefund, hraised s₂ hs₂⟩
  | none =>
      simp only [exec, he]
      refine ⟨guarantee_of_same (withdrawals_refundFailed _ _ _) rfl hrefund, ?_⟩
      cases (refundFailed s₂.db w (failedRefundReference s₁.db.ledger.rows w.id)).1 with
      | raised m => exact hraised _ hs₂
      | done => exact hk _ hs₂
      | already => exact hk _ hs₂

lemma sound_unexpectedError {now : ℕ} (hid : w.id = id) (hs : id ∉ s.accepted) :
    Sound id (unexpectedError now w) s :=
  sound_saveThen_failing hid hs (fun _ => rfl) (fun _ _ _ => sound_ret) fun _ hs' =>
    sound_refundThen hid hs' (fun _ _ => sound_ret) fun _ _ => sound_ret

lemma sound_failAndRefund {now : ℕ} (hid : w.id = id) (hfailed : w.status = .failed)
    (hs : id ∉ s.accepted) : Sound id (failAndRefund now w) s :=
  sound_saveThen_failing hid hs (fun _ => by rw [hfailed]; rfl)
    (fun _ _ hs' => sound_unexpectedError hid hs') fun _ hs' =>
      sound_refundThen hid hs' (fun _ h => sound_unexpectedError hid h) fun _ _ => sound_ret

/-! ### A payout on its way -/

/-- A save that leaves the payout on its way, while the row is in no final status.  It can
raise only when the provider has not taken the payout. -/
lemma sound_saveThen_onTheWay (hid : w.id = id) (hs : Unsettled s id)
    (hfields : .status ∈ fields) (hstatus : isFinal w.status = false)
    (hraised : ∀ m s', id ∉ s'.accepted → Sound id (raised m) s')
    (hk : ∀ s', Unsettled s' id → Sound id k s') : Sound id (saveThen w fields raised k) s := by
  intro s₁ hrely e hok
  have hs₁ : Unsettled s₁ id := hrely.unsettled (maySave_saveThen hfields hstatus) hs
  cases he : e.dbRaises with
  | none =>
      simp only [exec, he]
      refine ⟨guarantee_save hid fun _ => Or.inr hs₁, hk _ ?_⟩
      intro row hget
      have hget' : (s₁.db.save w fields).withdrawals.get? id = some row := hget
      rw [Db.get?_save, if_pos hid.symm, Option.map_eq_some_iff] at hget'
      obtain ⟨row', -, rfl⟩ := hget'
      rw [Withdrawal.status_update, if_pos hfields, hstatus]
  | some m =>
      have hnot : id ∉ s₁.accepted := by
        intro h
        have hnone : e.dbRaises = none := hok (by rwa [hid])
        rw [he] at hnone
        cases hnone
      simp only [exec, he]
      exact ⟨guarantee_of_same rfl rfl fun w' ref h => by (cases h), hraised m s₁ hnot⟩

/-- `initiate_upi_payout` on a payout the provider has not taken. -/
lemma sound_initiateUpiPayout {env : DispatchEnv} {returns : Bool → Withdrawal → Dispatch}
    {unknown raises : Withdrawal → Dispatch} (hid : w.id = id) (hs : Unsettled s id)
    (hnot : id ∉ s.accepted)
    (hfalse : ∀ w' s', w'.id = id → id ∉ s'.accepted → Sound id (returns false w') s')
    (htrue : ∀ w' s', w'.id = id → Unsettled s' id → Sound id (returns true w') s')
    (hmayTrue : ∀ w', MaySave (returns true w'))
    (hunknown : ∀ w' s', w'.id = id → Unsettled s' id → Sound id (unknown w') s')
    (hmayUnknown : ∀ w', MaySave (unknown w'))
    (hraises : ∀ w' s', w'.id = id → id ∉ s'.accepted → Sound id (raises w') s') :
    Sound id (initiateUpiPayout env w returns unknown raises) s := by
  -- a failed attempt saves no status and goes on along the failure path
  have hnote : ∀ (w' : Withdrawal) (s' : World) (reason : String) (raised : String → Dispatch),
      w'.id = id → id ∉ s'.accepted → (∀ m s'', id ∉ s''.accepted → Sound id (raised m) s'') →
      Sound id (saveThen (noteFailure w' env.now reason) attemptFields raised
        (returns false (noteFailure w' env.now reason))) s' :=
    fun w' s' reason raised hw hnot' hraised =>
      sound_saveThen_failing hw hnot' (fun hmem => absurd hmem (by decide)) hraised
        fun s'' hs'' => hfalse _ s'' hw hs''
  have hcaught : ∀ (w' : Withdrawal) (s' : World) (m : String), w'.id = id → id ∉ s'.accepted →
      Sound id (broadHandler env.now w' returns raises m) s' :=
    fun w' s' m hw hnot' => hnote w' s' _ _ hw hnot' fun _ s'' hs'' => hraises _ s'' hw hs''
  have hrefuse : ∀ reason, Sound id (saveThen (noteFailure w env.now reason) attemptFields
      (fun _ => raises (noteFailure w env.now reason))
      (returns false (noteFailure w env.now reason))) s :=
    fun reason => hnote w s reason _ hid hnot fun _ s'' hs'' => hraises _ s'' hid hs''
  have hrefuseCaught : ∀ (s' : World) (reason : String), id ∉ s'.accepted →
      Sound id (saveThen (noteFailure w env.now reason) attemptFields
        (broadHandler env.now (noteFailure w env.now reason) returns raises)
        (returns false (noteFailure w env.now reason))) s' :=
    fun s' reason hnot' => hnote w s' reason _ hid hnot' fun m s'' hs'' => hcaught _ s'' m hid hs''
  rw [initiateUpiPayout]
  split
  · exact hrefuse _
  split
  · exact hrefuse _
  split
  · exact hrefuse _
  split
  · exact htrue w s hid hs
  split
  · exact sound_saveThen_failing hid hnot (fun hmem => absurd hmem (by decide))
      (fun _ s' hs' => hraises _ s' hid hs') fun s' hs' => hfalse _ s' hid hs'
  split
  · exact hrefuseCaught s _ hnot
  intro s₁ hrely e hok
  -- the call may be followed by a save of `unresolved`
  have hs₁ : Unsettled s₁ id :=
    hrely.unsettled (Or.inr ⟨ProviderAnswer.unknown true, hmayUnknown w⟩) hs
  have hnot₁ : id ∉ s₁.accepted := fun h => hnot (hrely.accepted.mp h)
  have hother : ∀ i, i ≠ id → (i ∈ (exec (.createUpiPayout w) e s₁).2.accepted ↔
      i ∈ s₁.accepted) := by
    intro i hi
    simp only [exec]
    split
    · simp [hid, hi]
    · exact Iff.rfl
  refine ⟨⟨.of_withdrawals rfl, fun w' ref h => by (cases h), fun _ _ => rfl, hother⟩, ?_⟩
  have hs₂ : Unsettled (exec (.createUpiPayout w) e s₁).2 id := hs₁
  have hnot₂ : e.provider.took = false → id ∉ (exec (.createUpiPayout w) e s₁).2.accepted := by
    intro htook
    simpa [exec, htook] using hnot₁
  revert hs₂ hnot₂
  generalize (exec (.createUpiPayout w) e s₁).2 = s₂
  intro hs₂ hnot₂
  have hanswer : (exec (.createUpiPayout w) e s₁).1 = e.provider := rfl
  rw [hanswer]
  cases hp : e.provider with
  | refused => exact hrefuseCaught s₂ _ (hnot₂ (by rw [hp]; rfl))
  | accepted result =>
      have hpayout : truthy result.payoutId = true := by
        simpa only [Dependable, hp] using hok
      simp only [hpayout]
      refine sound_saveThen_onTheWay hid hs₂ (by decide) rfl
        (fun m s' hs' => hcaught _ s' m hid hs') fun s₃ hs₃ => ?_
      intro s₄ hrely₄ _ _
      have hs₄ : Unsettled s₄ id := hrely₄.unsettled (Or.inr ⟨(), hmayTrue _⟩) hs₃
      exact ⟨guarantee_of_same rfl rfl fun w' ref h => by (cases h), htrue _ s₄ hid hs₄⟩
  | unknown paid => exact hunknown w s₂ hid hs₂
  | raised m paid =>
      have hpaid : paid = false := by simpa only [Dependable, hp] using hok
      exact hcaught w s₂ m hid (hnot₂ (by rw [hp, hpaid]; rfl))

/-- The dispatcher on a row that it does not refuse and the provider has not taken. -/
theorem sound_triggerPayoutCreation {env : DispatchEnv} (hid : w.id = id)
    (hget : s.db.withdrawals.get? id = some w)
    (hnot : w.status = .approved ∨ w.status = .processed → id ∉ s.accepted) :
    Sound id (triggerPayoutCreation env w) s := by
  rw [triggerPayoutCreation]
  split
  · exact sound_ret
  rename_i hstatus
  have hstatus' : w.status = .approved ∨ w.status = .processed := not_not.mp hstatus
  have hs : Unsettled s id := by
    intro row hrow
    rw [hget, Option.some.injEq] at hrow
    subst hrow
    rcases hstatus' with h | h <;> rw [h] <;> rfl
  specialize hnot hstatus'
  split
  · exact sound_saveThen_failing hid hnot (fun hmem => absurd hmem (by decide))
      (fun _ _ hs' => sound_unexpectedError hid hs') fun _ _ => sound_ret
  split
  · exact sound_failAndRefund hid rfl hnot
  · exact sound_failAndRefund hid rfl hnot
  refine sound_initiateUpiPayout hid hs hnot ?_ ?_ ?_ ?_ ?_ ?_
  · exact fun w' s' hw hs' => sound_failAndRefund hw rfl hs'
  · exact fun w' s' hw hs' => sound_saveThen_onTheWay hw hs' (by decide) rfl
      (fun _ _ h => sound_unexpectedError hw h) fun _ _ => sound_ret
  · exact fun w' => maySave_saveThen (by decide) rfl
  · exact fun w' s' hw hs' => sound_saveThen_onTheWay hw hs' (by decide) rfl
      (fun _ _ h => sound_unexpectedError hw h) fun _ _ => sound_ret
  · exact fun w' => maySave_saveThen (by decide) rfl
  · exact fun w' s' hw hs' => sound_unexpectedError hw hs'

end Rules

/-! ## Every interleaving -/

/-- Running dispatchers work on different withdrawals. -/
def Distinct (p : DispatchPool τ) : Prop :=
  ∀ t t' a a' q q', p.Running t a q → p.Running t' a' q' → a.id = a'.id → t = t'

def AllSound (p : DispatchPool τ) : Prop :=
  Pool.Valid exec (fun _ => Dependable) (fun a : DispatchRequest => Rely a.id)
    (fun a => Guarantee a.id) (fun _ _ _ => True) p

/-- A webhook that reports no outcome leaves the status of the withdrawal as it is. -/
lemma status_applyEvent_of_not_isOutcome {db : Db} {w w' : Withdrawal} {payload : Payload}
    {now : ℕ} (hget : db.withdrawals.get? w.id = some w)
    (hevent : ¬ IsOutcome (PayoutEvent.ofText payload.event))
    (hget' : (applyEvent db w payload now).2.withdrawals.get? w.id = some w') :
    w'.status = w.status := by
  have hsame : ∀ db' : Db, db'.withdrawals.get? w.id = some w' → db' = db → w'.status = w.status := by
    rintro db' h rfl
    rw [hget, Option.some.injEq] at h
    rw [h]
  rw [applyEvent] at hget'
  revert hevent hget'
  cases PayoutEvent.ofText payload.event with
  | success => exact fun hevent _ => absurd (Or.inl rfl) hevent
  | failed => exact fun hevent _ => absurd (Or.inr (Or.inl rfl)) hevent
  | reversed => exact fun hevent _ => absurd (Or.inr (Or.inr rfl)) hevent
  | other => exact fun _ hget' => hsame _ hget' rfl
  | pending =>
      intro _ hget'
      dsimp only at hget'
      split at hget'
      · exact hsame _ hget' rfl
      · have hsaved : (db.save _ [.payoutStatus]).withdrawals.get? w.id = some w' := hget'
        simpa using Db.status_of_get?_save hsaved hget

omit [DecidableEq τ] in
lemma rely_outside {p : DispatchPool τ} {x : Outside} (horderly : Orderly p (.outside x)) {t : τ}
    {a : DispatchRequest} {q : Dispatch} (hrun : p.Running t a q) :
    Rely a.id q p.store (outside x p.store) := by
  cases x with
  | claim id hasHandle now =>
      simp only [outside]
      split
      · rename_i w db happrove
        refine ⟨Iff.rfl, fun _ hs row hrow => ?_⟩
        rw [approveOne] at happrove
        split at happrove
        · cases happrove
        rename_i row' hget
        split at happrove
        · cases happrove
        split at happrove
        · cases happrove
        split at happrove
        · cases happrove
        cases happrove
        have hid : row'.id = id := Table.pk_of_get? hget
        subst hid
        have hsaved : (p.store.db.save { row' with status := .approved, processedAt := some now }
            [.status, .processedAt]).withdrawals.get? a.id = some row := hrow
        by_cases hid : a.id = row'.id
        · rw [hid] at hsaved
          have hstatus := Db.status_of_get?_save hsaved hget
          rw [hstatus]
          rfl
        · rw [Db.get?_save_of_ne _ _ _ (by exact hid)] at hsaved
          exact hs row hsaved
      · exact Rely.refl _ _ _
  | webhook payload now =>
      refine ⟨Iff.rfl, fun hmay hs row hrow => ?_⟩
      simp only [outside, handlePayoutWebhook] at hrow
      split at hrow
      · exact hs row hrow
      split at hrow
      · exact hs row hrow
      rename_i w hfind
      by_cases hid : w.id = a.id
      · have hevent := horderly t a q hrun hmay w hfind hid
        have hget := get?_of_findWithdrawal hfind
        rw [← hid] at hrow
        rw [status_applyEvent_of_not_isOutcome hget hevent hrow]
        exact hs w (by rwa [← hid])
      · exact hs row (by rwa [get?_applyEvent_of_ne fun h => hid h.symm] at hrow)

lemma rely_of_guarantee {i j : ℕ} {o : DispatchOp} {q : Dispatch} {s s' : World} (hij : i ≠ j)
    (h : Guarantee j o s s') : Rely i q s s' :=
  ⟨h.accepted i hij, fun _ hs w hget => hs w (by rwa [h.rows i hij] at hget)⟩

lemma threads_advance_of_ne {p : DispatchPool τ} {t t' : τ} {e : Choice} (h : t' ≠ t) :
    (raceStep p (.advance t e)).threads t' = p.threads t' := by
  rcases hp : p.threads t with _ | ⟨a, q⟩ <;> simp [raceStep, Pool.step, hp, h]

lemma running_before {p : DispatchPool τ} {m : DispatchMove τ} {t : τ} {a : DispatchRequest}
    {q : Dispatch} (h : (raceStep p m).Running t a q) :
    (∃ q', p.Running t a q') ∨ m = .start t a := by
  obtain ⟨ht, hq⟩ := h
  cases m with
  | advance t₀ e =>
      refine Or.inl ?_
      by_cases htt : t = t₀
      · subst htt
        rcases hp : p.threads t with _ | ⟨a₀, q₀⟩
        · simp [raceStep, Pool.step, hp] at ht
        · simp only [raceStep, Pool.step, hp, Function.update_self, Option.some.injEq,
            Prod.mk.injEq] at ht
          obtain ⟨rfl, rfl⟩ := ht
          refine ⟨q₀, hp, fun hret => hq ?_⟩
          cases q₀ with
          | ret r => exact hret
          | op o k => exact absurd hret (by simp)
      · rw [threads_advance_of_ne htt] at ht
        exact ⟨q, ht, hq⟩
  | start t₀ a₀ =>
      by_cases htt : t = t₀
      · subst htt
        simp only [raceStep, Pool.step, Function.update_self, Option.some.injEq,
          Prod.mk.injEq] at ht
        exact Or.inr (by rw [ht.1])
      · refine Or.inl ⟨q, ?_, hq⟩
        simpa [raceStep, Pool.step, htt] using ht
  | outside x => exact Or.inl ⟨q, ht, hq⟩

lemma distinct_raceStep {p : DispatchPool τ} {m : DispatchMove τ} (horderly : Orderly p m)
    (h : Distinct p) : Distinct (raceStep p m) := by
  -- a dispatcher that has just been started shares its withdrawal with no other one
  have hstart : ∀ t t' a a' q q', m = .start t a → (raceStep p m).Running t' a' q' →
      a.id = a'.id → (raceStep p m).Running t a q → t = t' := by
    rintro t t' a a' q q' rfl ht' hid ht
    by_contra hne
    rcases running_before ht' with ⟨q₀, hrun⟩ | heq
    · exact horderly.1 t' a' q₀ (fun h => hne h.symm) hrun hid.symm
    · cases heq
      exact hne rfl
  intro t t' a a' q q' ht ht' hid
  rcases running_before ht with ⟨q₀, hrun⟩ | hm
  · rcases running_before ht' with ⟨q₁, hrun'⟩ | hm'
    · exact h t t' a a' q₀ q₁ hrun hrun' hid
    · exact (hstart t' t a' a q' q hm' ht hid.symm ht').symm
  · exact hstart t t' a a' q q' hm ht' hid ht

lemma respects_of_orderly {p : DispatchPool τ} {m : DispatchMove τ} (horderly : Orderly p m)
    (hdistinct : Distinct p) (hsound : AllSound p) :
    Pool.Respects exec dispatchOf outside (fun a => Rely a.id) p m := by
  intro t a q hrun hne
  cases m with
  | advance t₀ e =>
      have htt : t ≠ t₀ := by
        rintro rfl
        exact hne e rfl
      by_cases hop : ∃ a₀ o k, p.threads t₀ = some (a₀, .op o k)
      · obtain ⟨a₀, o, k, hp⟩ := hop
        have hguarantee : Guarantee a₀.id o p.store (raceStep p (.advance t₀ e)).store :=
          Pool.guarantee_of_valid (fun a : DispatchRequest => Rely.refl a.id) hsound horderly hp
        refine rely_of_guarantee (fun hid => htt ?_) hguarantee
        exact hdistinct t t₀ a a₀ q _ hrun ⟨hp, by simp⟩ hid
      · have hstore : (Pool.step exec dispatchOf outside p (.advance t₀ e)).store = p.store :=
          Pool.store_step_advance_of_not_running fun a₀ o k hp => hop ⟨a₀, o, k, hp⟩
        rw [hstore]
        exact Rely.refl _ _ _
  | start t₀ a₀ => exact Rely.refl _ _ _
  | outside x => exact rely_outside horderly hrun

omit [DecidableEq τ] in
lemma sound_of_start {p : DispatchPool τ} {t : τ} {a : DispatchRequest}
    (horderly : Orderly p (.start t a)) : Sound a.id (dispatchOf a p.store) p.store := by
  rw [dispatchOf]
  cases hget : p.store.db.withdrawals.get? a.id with
  | none => exact sound_ret
  | some w => exact sound_triggerPayoutCreation (Table.pk_of_get? hget) hget (horderly.2 w hget)

lemma invariant_raceStep (p : DispatchPool τ) (m : DispatchMove τ) (horderly : Orderly p m)
    (h : Distinct p ∧ AllSound p) : Distinct (raceStep p m) ∧ AllSound (raceStep p m) :=
  Pool.invariant_valid_step (fun _ => Rely.refl _) (fun _ _ _ _ _ => Rely.trans)
    (fun _ _ horderly hdistinct _ => distinct_raceStep horderly hdistinct)
    (fun _ _ _ horderly _ => horderly)
    (fun _ _ horderly hdistinct hsound => respects_of_orderly horderly hdistinct hsound)
    (fun _ _ _ horderly _ => sound_of_start horderly) p m horderly h

lemma dispatcherSafe_of_orderly {p : DispatchPool τ} {m : DispatchMove τ}
    (horderly : Orderly p m) (h : AllSound p) : DispatcherSafe p m := by
  rintro t e rfl
  by_cases hop : ∃ a o k, p.threads t = some (a, .op o k)
  · obtain ⟨a, o, k, hp⟩ := hop
    have hguarantee : Guarantee a.id o p.store (raceStep p (.advance t e)).store :=
      Pool.guarantee_of_valid (fun a : DispatchRequest => Rely.refl a.id) h horderly hp
    refine ⟨hguarantee.keeps, ?_⟩
    intro id hid haccepted
    rw [hp] at hid
    cases o with
    | refund w ref =>
        rw [← Option.some.inj hid] at haccepted
        exact absurd haccepted (hguarantee.refund w ref rfl)
    | _ => cases hid
  · have hstore : (raceStep p (.advance t e)).store = p.store :=
      Pool.store_step_advance_of_not_running fun a o k hp => hop ⟨a, o, k, hp⟩
    rw [hstore]
    exact ⟨.of_withdrawals rfl, fun _ _ _ => rfl⟩

/-- In every interleaving whose moves are orderly, no step of a dispatcher moves a
withdrawal out of a final status or refunds one the provider took. -/
theorem dispatcherSafe_of_orderly_run {s : World} {ms : List (DispatchMove τ)}
    (h : Transition.Guarded raceStep Orderly ⟨fun _ => none, s⟩ ms) :
    Transition.Guarded raceStep DispatcherSafe ⟨fun _ => none, s⟩ ms := by
  refine Transition.guarded_of_invariant (I := fun p => Distinct p ∧ AllSound p)
    invariant_raceStep (fun p m horderly hI => dispatcherSafe_of_orderly horderly hI.2) ?_ h
  refine ⟨fun t t' a a' q q' hrun => ?_, fun t a q hrun => ?_⟩
  · exact absurd hrun.1 (by simp)
  · exact absurd hrun.1 (by simp)

end Race

/-! ### Two races -/

def onePending : DispatchPool Unit :=
  ⟨fun _ => none, step ⟨oneDriver, []⟩ (.request askHundred)⟩

/-- The provider reports the payout it accepted as paid. -/
def payoutSuccess : Payload where
  event := "TRANSFER_SUCCESS"
  transferId := some "payout_1"
  payoutId := none
  cfTransferId := none
  referenceId := none
  status := some "SUCCESS"
  failureReason := ""

/-- A dispatcher has the payout accepted and saved, and is about to save `processed` once
more when the webhook completes the withdrawal. -/
def paidBeforeLastSave : List (DispatchMove Unit) :=
  [.outside (.claim 1 false 2000), .start () ⟨upiEnv, 1⟩, .advance () providerAccepts,
    .advance () providerAccepts, .advance () providerAccepts, .outside (.webhook payoutSuccess 3000)]

/-- The dispatcher has saved everything when the webhook completes the withdrawal. -/
def paidAfterLastSave : List (DispatchMove Unit) :=
  [.outside (.claim 1 false 2000), .start () ⟨upiEnv, 1⟩, .advance () providerAccepts,
    .advance () providerAccepts, .advance () providerAccepts, .advance () providerAccepts,
    .outside (.webhook payoutSuccess 3000)]

def databaseRaises : Choice := ⟨some "connection lost", .refused⟩

/-- The save of an accepted payout raises, and the failure path reaches its refund. -/
def acceptedThenFailed : List (DispatchMove Unit) :=
  [.outside (.claim 1 false 2000), .start () ⟨upiEnv, 1⟩, .advance () providerAccepts,
    .advance () databaseRaises, .advance () providerAccepts, .advance () providerAccepts,
    .advance () providerAccepts]

/-- The dispatcher is safe when the webhook comes after its last save. -/
theorem paidAfterLastSave_safe :
    Transition.Guarded raceStep DispatcherSafe onePending paidAfterLastSave := by
  refine dispatcherSafe_of_orderly_run ⟨trivial, ?_, ?_, ?_, ?_, ?_, ?_, trivial⟩
  · exact ⟨fun t' a' q hne => absurd rfl hne, fun w _ _ => by decide⟩
  · intro a o k h
    cases h
    rfl
  · intro a o k h
    cases h
    exact fun _ => rfl
  · intro a o k h
    cases h
    trivial
  · intro a o k h
    cases h
    exact fun _ => rfl
  · -- no dispatcher is running any more
    rintro t a q ⟨h, hq⟩
    cases h
    exact absurd trivial hq

/-- A completed withdrawal goes back to `processed`, and a payout the provider accepted is
refunded. -/
theorem dispatcher_not_safe :
    ¬ Transition.Guarded raceStep DispatcherSafe onePending
        (paidBeforeLastSave ++ [.advance () providerAccepts]) ∧
      ¬ Transition.Guarded raceStep DispatcherSafe onePending
        (acceptedThenFailed ++ [.advance () providerAccepts]) := by
  constructor
  · intro h
    have hsafe := (Transition.guarded_append.mp h).2.1
    have hbefore : ((Transition.run raceStep onePending paidBeforeLastSave).store.db.withdrawals.get?
        1).map Withdrawal.status = some .completed := by decide
    have hafter : ((raceStep (Transition.run raceStep onePending paidBeforeLastSave)
        (.advance () providerAccepts)).store.db.withdrawals.get? 1).map Withdrawal.status
        = some .processed := by decide
    obtain ⟨w, hget, hstatus⟩ := Option.map_eq_some_iff.mp hbefore
    obtain ⟨w', hget', hfinal⟩ := (hsafe () providerAccepts rfl).1 1 w hget (by rw [hstatus]; rfl)
    rw [hget', Option.map_some, Option.some.injEq] at hafter
    rw [hafter] at hfinal
    cases hfinal
  · intro h
    have hsafe := (Transition.guarded_append.mp h).2.1
    have hnext : ((Transition.run raceStep onePending acceptedThenFailed).threads ()).bind
        (fun x => refundNext x.2) = some 1 := by decide
    have haccepted : 1 ∈ (Transition.run raceStep onePending acceptedThenFailed).store.accepted := by
      decide
    have hledger := (hsafe () providerAccepts rfl).2 1 hnext haccepted
    have hlength : (raceStep (Transition.run raceStep onePending acceptedThenFailed)
        (.advance () providerAccepts)).store.db.ledger.rows.length
        ≠ (Transition.run raceStep onePending acceptedThenFailed).store.db.ledger.rows.length := by
      decide
    exact hlength (by rw [hledger])

end SaaradhiGo.Payouts
