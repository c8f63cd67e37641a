/-
What one dispatch does to the account of its withdrawal.

While a payout is on its way its amount is out of the wallet (`Live`).  A dispatch that
fails marks the row failed first and refunds it in a second transaction, so between the
two a refund is owed (`Owed`).  Whether one is owed when the dispatch is over depends on the
surroundings alone: it is read off the operations and the choices they were taken under
(`owes`).  A dispatch that owes nothing leaves the books in order.
-/
import SaaradhiGo.Payouts.Books

namespace SaaradhiGo.Payouts

open SaaradhiGo.Money Interleave

/-- Whether a refund is owed after an operation: a failed row has been saved, and no refund
has gone through since. -/
def owing : DispatchOp → Choice → Bool → Bool
  | .save w fields, e, owed =>
      if e.dbRaises = none ∧ w.status = .failed ∧ .status ∈ fields then true else owed
  | .refund _ _, e, _ => e.dbRaises.isSome
  | _, _, owed => owed

/-- A dispatch along the choices `es` ends with a refund owed: the refund raised, or the
process died before it. -/
def owes (p : Dispatch) (es : List Choice) (s : World) : Bool :=
  (Prog.runAlone (Prog.withGhost exec owing) p es (s, false)).2.2

/-! ## The states of a dispatch -/

def InFlight (status : WithdrawalStatus) : Prop :=
  status = .approved ∨ status = .processed ∨ status = .unresolved

lemma InFlight.not_returned {status : WithdrawalStatus} (h : InFlight status) :
    returned status = false := by
  rcases h with rfl | rfl | rfl <;> rfl

lemma InFlight.ne_pending {status : WithdrawalStatus} (h : InFlight status) :
    status ≠ .pending := by
  rcases h with rfl | rfl | rfl <;> decide

/-- The books are in order and the payout of the instance `w` is on its way. -/
structure Live (s : World × Bool) (w : Withdrawal) : Prop where
  inOrder : InOrder s.1.db
  notOwed : s.2 = false
  row : ∃ row, s.1.db.withdrawals.get? w.id = some row ∧ row.SameRequest w ∧ InFlight row.status

/-- The row of the instance `w` has failed, and its refund is the only thing missing from
the books. -/
structure Owed (s : World × Bool) (w : Withdrawal) : Prop where
  books : Books s.1.db fun x => decide (x.id ≠ w.id) && returned x.status
  owed : s.2 = true
  row : ∃ row, s.1.db.withdrawals.get? w.id = some row ∧ row.SameRequest w ∧ row.status = .failed

/-- The books are in order unless a refund is owed. -/
def Kept (s : World × Bool) : Prop := s.2 = false → InOrder s.1.db

lemma Live.kept {s : World × Bool} {w : Withdrawal} (h : Live s w) : Kept s :=
  fun _ => h.inOrder

lemma Owed.kept {s : World × Bool} {w : Withdrawal} (h : Owed s w) : Kept s := by
  intro hs
  rw [h.owed] at hs
  cases hs

lemma Live.congr {s : World × Bool} {w w' : Withdrawal} (h : Live s w)
    (hsame : w.SameRequest w') : Live s w' := by
  obtain ⟨row, hget, hrow, hstatus⟩ := h.row
  exact ⟨h.inOrder, h.notOwed, row, by rwa [hsame.id], hrow.trans hsame, hstatus⟩

lemma Owed.congr {s : World × Bool} {w w' : Withdrawal} (h : Owed s w)
    (hsame : w.SameRequest w') : Owed s w' := by
  obtain ⟨row, hget, hrow, hstatus⟩ := h.row
  refine ⟨?_, h.owed, row, by rwa [hsame.id], hrow.trans hsame, hstatus⟩
  rw [hsame.id]
  exact h.books

/-- The world after the instance has been saved, with the ghost value `owed`. -/
def saved (s : World × Bool) (w : Withdrawal) (fields : List Field) (owed : Bool) :
    World × Bool :=
  ({ s.1 with db := s.1.db.save w fields }, owed)

/-- A save that moves the row only between the statuses of a payout on its way. -/
lemma Live.saved {s : World × Bool} {w : Withdrawal} {fields : List Field} (h : Live s w)
    (hstatus : .status ∈ fields → InFlight w.status) : Live (saved s w fields false) w := by
  obtain ⟨row, hget, hsame, hrow⟩ := h.row
  have hnew : InFlight (row.update w fields).status := by
    rw [Withdrawal.status_update]
    split
    · exact hstatus ‹_›
    · exact hrow
  refine ⟨?_, rfl, row.update w fields, Db.get?_save_self hget, ?_, hnew⟩
  · exact Books.save h.inOrder hget (by rw [hnew.not_returned, hrow.not_returned])
      (fun hp => absurd hp hnew.ne_pending) fun _ _ => rfl
  · exact (Withdrawal.sameRequest_update row w fields).symm.trans hsame

lemma owed_saved {s : World × Bool} {w : Withdrawal} {fields : List Field}
    (h : Live s w ∨ Owed s w) (hfields : .status ∈ fields) (hfailed : w.status = .failed) :
    Owed (saved s w fields true) w := by
  have hnew : ∀ row : Withdrawal, (row.update w fields).status = .failed := fun row => by
    rw [Withdrawal.status_update, if_pos hfields, hfailed]
  obtain hl | ho := h
  · obtain ⟨row, hget, hsame, hflight⟩ := hl.row
    exact ⟨books_save_returned hl.inOrder hget hflight.not_returned hfields (by rw [hfailed]; rfl),
      rfl, row.update w fields, Db.get?_save_self hget,
      (Withdrawal.sameRequest_update row w fields).symm.trans hsame, hnew row⟩
  · obtain ⟨row, hget, hsame, -⟩ := ho.row
    refine ⟨?_, rfl, row.update w fields, Db.get?_save_self hget,
      (Withdrawal.sameRequest_update row w fields).symm.trans hsame, hnew row⟩
    refine Books.save ho.books hget ?_ (fun hp => ?_) fun _ _ => rfl
    · simp [(Withdrawal.sameRequest_update row w fields).id, hsame.id]
    · rw [hnew] at hp
      cases hp

lemma Owed.refund {s : World × Bool} {w : Withdrawal} (h : Owed s w) :
    ∃ db', refundFailed s.1.db w (failedRefundReference s.1.db.ledger.rows w.id) = (.done, db') ∧
      InOrder db' := by
  obtain ⟨row, hget, hsame, hfailed⟩ := h.row
  exact inOrder_refundFailed h.books hget hsame (by rw [hfailed]; rfl)

/-! ## The rules for the dispatcher's program -/

/-- Wherever the program stops, the books are in order unless a refund is owed. -/
def Safe (p : Dispatch) (s : World × Bool) : Prop :=
  Prog.wp (Prog.withGhost exec owing) (fun _ _ _ => True) (fun _ => Eq) (fun _ s _ => Kept s) p
    (fun _ s => Kept s) s

lemma safe_ret {b : Bool} {s : World × Bool} (h : Kept s) : Safe (.ret b) s := by
  rintro _ rfl
  exact h

lemma safe_op {o : DispatchOp} {k : DispatchAns o → Dispatch} {s : World × Bool} (h : Kept s)
    (hk : ∀ e, Safe (k (exec o e s.1).1) ((exec o e s.1).2, owing o e s.2)) :
    Safe (.op o k) s := by
  rintro _ rfl e -
  exact ⟨h, hk e⟩

/-- A safe program keeps the books wherever it stops. -/
lemma Safe.kept {p : Dispatch} {s : World × Bool} (h : Safe p s) (es : List Choice) :
    Kept (Prog.runAlone (Prog.withGhost exec owing) p es s).2 := by
  have hadmit : Prog.Admits (Prog.withGhost exec owing) (fun _ _ _ => True) p es s := by
    clear h
    induction p generalizing s es with
    | ret r => trivial
    | op o k ih =>
        cases es with
        | nil => trivial
        | cons e es => exact ⟨trivial, ih _ es⟩
  have hleft := Prog.wp_runAlone (fun _ _ => rfl) h hadmit
  cases hp : (Prog.runAlone (Prog.withGhost exec owing) p es s).1 with
  | ret r =>
      rw [hp] at hleft
      exact hleft _ rfl
  | op o k =>
      rw [hp] at hleft
      exact (hleft _ rfl ⟨none, .refused⟩ trivial).1

section Rules

variable {s : World × Bool} {w w' : Withdrawal} {fields : List Field} {k : Dispatch}

lemma safe_saveThen_live {raised : String → Dispatch} (h : Live s w)
    (hstatus : .status ∈ fields → InFlight w.status) (hraised : ∀ m, Safe (raised m) s)
    (hk : ∀ s', Live s' w → Safe k s') : Safe (saveThen w fields raised k) s := by
  refine safe_op h.kept fun e => ?_
  have howing : owing (.save w fields) e s.2 = false := by
    rw [owing, if_neg, h.notOwed]
    rintro ⟨-, hfailed, hfields⟩
    rcases hstatus hfields with hs | hs | hs <;> rw [hs] at hfailed <;> cases hfailed
  rw [howing]
  cases he : e.dbRaises with
  | none =>
      simp only [exec, he]
      exact hk _ (h.saved hstatus)
  | some m =>
      simp only [exec, he]
      have hs : (s.1, false) = s := by rw [← h.notOwed]
      rw [hs]
      exact hraised m

lemma safe_saveThen_failed {raised : String → Dispatch} (h : Live s w ∨ Owed s w)
    (hfields : .status ∈ fields) (hfailed : w.status = .failed) (hraised : ∀ m, Safe (raised m) s)
    (hk : ∀ s', Owed s' w → Safe k s') : Safe (saveThen w fields raised k) s := by
  refine safe_op (h.elim Live.kept Owed.kept) fun e => ?_
  cases he : e.dbRaises with
  | none =>
      have howing : owing (.save w fields) e s.2 = true := if_pos ⟨he, hfailed, hfields⟩
      rw [howing]
      simp only [exec, he]
      exact hk _ (owed_saved h hfields hfailed)
  | some m =>
      have howing : owing (.save w fields) e s.2 = s.2 := if_neg (by simp [he])
      rw [howing]
      simp only [exec, he]
      exact hraised m

lemma safe_refundThen {raised : Dispatch} (h : Owed s w) (hraised : Safe raised s)
    (hk : ∀ s' : World × Bool, Kept s' → Safe k s') : Safe (refundThen w raised k) s := by
  refine safe_op h.kept fun _ => safe_op h.kept fun e => ?_
  simp only [exec, owing]
  cases he : e.dbRaises with
  | none =>
      obtain ⟨db', hrefund, horder⟩ := h.refund
      simp only [hrefund]
      exact hk _ fun _ => horder
  | some m =>
      have hs : (s.1, true) = s := by rw [← h.owed]
      simpa [hs] using hraised

lemma safe_unexpectedError {now : ℕ} (h : Live s w ∨ Owed s w) :
    Safe (unexpectedError now w) s := by
  have hsame : w.SameRequest (markFailed w now "Unexpected error while initiating payout") :=
    ⟨rfl, rfl, rfl, rfl⟩
  refine safe_saveThen_failed (h.imp (·.congr hsame) (·.congr hsame)) (by decide) rfl
    (fun _ => safe_ret (h.elim Live.kept Owed.kept)) fun s' ho => ?_
  exact safe_refundThen ho (safe_ret ho.kept) fun _ hkept => safe_ret hkept

lemma safe_failAndRefund {now : ℕ} (h : Live s w) (hfailed : w.status = .failed) :
    Safe (failAndRefund now w) s := by
  refine safe_saveThen_failed (Or.inl h) (by decide) hfailed
    (fun _ => safe_unexpectedError (Or.inl h)) fun s' ho => ?_
  exact safe_refundThen ho (safe_unexpectedError (Or.inr ho)) fun _ hkept => safe_ret hkept

/-- `initiate_upi_payout` leaves the payout on its way, however it ends. -/
lemma safe_initiateUpiPayout {env : DispatchEnv} {returns : Bool → Withdrawal → Dispatch}
    {unknown raises : Withdrawal → Dispatch} (h : Live s w)
    (hreturns : ∀ b w' s', w.SameRequest w' → Live s' w' → Safe (returns b w') s')
    (hunknown : ∀ w' s', w.SameRequest w' → Live s' w' → Safe (unknown w') s')
    (hraises : ∀ w' s', w.SameRequest w' → Live s' w' → Safe (raises w') s') :
    Safe (initiateUpiPayout env w returns unknown raises) s := by
  -- a failed attempt is saved, and answered with `False`
  have hnote : ∀ (w' : Withdrawal) (s' : World × Bool) (reason : String)
      (raised : Withdrawal → String → Dispatch), w.SameRequest w' → Live s' w' →
      (∀ w'' m, w.SameRequest w'' → Live s' w'' → Safe (raised w'' m) s') →
      Safe (saveThen (noteFailure w' env.now reason) attemptFields
        (raised (noteFailure w' env.now reason))
        (returns false (noteFailure w' env.now reason))) s' := by
    intro w' s' reason raised hw hlive hraised
    have hsame : w'.SameRequest (noteFailure w' env.now reason) := ⟨rfl, rfl, rfl, rfl⟩
    exact safe_saveThen_live (hlive.congr hsame) (fun hf => absurd hf (by decide))
      (fun m => hraised _ m (hw.trans hsame) (hlive.congr hsame))
      (fun s'' h'' => hreturns _ _ _ (hw.trans hsame) h'')
  have hcaught : ∀ (w' : Withdrawal) (s' : World × Bool) (m : String), w.SameRequest w' →
      Live s' w' → Safe (broadHandler env.now w' returns raises m) s' :=
    fun w' s' m hw hlive => hnote w' s' _ (fun w'' _ => raises w'') hw hlive
      fun w'' _ hw'' hlive'' => hraises w'' s' hw'' hlive''
  have hrefuse : ∀ reason, Safe (saveThen (noteFailure w env.now reason) attemptFields
      (fun _ => raises (noteFailure w env.now reason))
      (returns false (noteFailure w env.now reason))) s :=
    fun reason => hnote w s reason (fun w'' _ => raises w'') (.refl w) h
      fun w'' _ hw'' hlive'' => hraises w'' s hw'' hlive''
  have hrefuseCaught : ∀ (s' : World × Bool) (reason : String), Live s' w →
      Safe (saveThen (noteFailure w env.now reason) attemptFields
        (broadHandler env.now (noteFailure w env.now reason) returns raises)
        (returns false (noteFailure w env.now reason))) s' :=
    fun s' reason hlive => hnote w s' reason
      (fun w'' m => broadHandler env.now w'' returns raises m) (.refl w) hlive
      fun w'' m hw'' hlive'' => hcaught w'' s' m hw'' hlive''
  rw [initiateUpiPayout]
  split
  · exact hrefuse _
  split
  · exact hrefuse _
  split
  · exact hrefuse _
  split
  · exact hreturns true w s (.refl w) h
  split
  · have hsame : w.SameRequest { w with failureReason := some "Max retries exceeded" } :=
      ⟨rfl, rfl, rfl, rfl⟩
    exact safe_saveThen_live (h.congr hsame) (fun hf => absurd hf (by decide))
      (fun _ => hraises _ _ hsame (h.congr hsame)) (fun s' h' => hreturns _ _ _ hsame h')
  split
  · exact hrefuseCaught s _ h
  refine safe_op h.kept fun e => ?_
  -- the provider call changes nothing in the database
  have hlive : Live ((exec (.createUpiPayout w) e s.1).2, owing (.createUpiPayout w) e s.2) w :=
    ⟨h.inOrder, h.notOwed, h.row⟩
  revert hlive
  generalize ((exec (.createUpiPayout w) e s.1).2, owing (.createUpiPayout w) e s.2) = s₁
  intro hlive
  have hanswer : (exec (.createUpiPayout w) e s.1).1 = e.provider := rfl
  rw [hanswer]
  cases e.provider with
  | refused => exact hrefuseCaught s₁ _ hlive
  | accepted result =>
      dsimp only
      split
      · exact hrefuseCaught s₁ _ hlive
      have hsame : w.SameRequest (markAccepted w env.now (result.payoutId.getD "") result.status) :=
        ⟨rfl, rfl, rfl, rfl⟩
      refine safe_saveThen_live (hlive.congr hsame) (fun _ => Or.inr (Or.inl rfl))
        (fun m => hcaught _ _ m hsame (hlive.congr hsame)) fun s' h' => ?_
      exact safe_op h'.kept fun _ => hreturns _ _ _ hsame ⟨h'.inOrder, h'.notOwed, h'.row⟩
  | unknown paid => exact hunknown w s₁ (.refl w) hlive
  | raised m paid => exact hcaught w s₁ m (.refl w) hlive

/-- The dispatcher on an instance that is the row itself. -/
theorem safe_triggerPayoutCreation {env : DispatchEnv} (horder : InOrder s.1.db)
    (howed : s.2 = false) (hget : s.1.db.withdrawals.get? w.id = some w) :
    Safe (triggerPayoutCreation env w) s := by
  rw [triggerPayoutCreation]
  split
  · exact safe_ret fun _ => horder
  rename_i hstatus
  have hlive : Live s w := by
    refine ⟨horder, howed, w, hget, .refl w, ?_⟩
    rcases not_not.mp hstatus with hs | hs
    · exact Or.inl hs
    · exact Or.inr (Or.inl hs)
  split
  · have hsame : w.SameRequest { w with payoutStatus := some "awaiting_rail" } :=
      ⟨rfl, rfl, rfl, rfl⟩
    exact safe_saveThen_live (hlive.congr hsame) (fun hf => absurd hf (by decide))
      (fun _ => safe_unexpectedError (Or.inl (hlive.congr hsame)))
      (fun _ h' => safe_ret h'.kept)
  split
  · exact safe_failAndRefund (hlive.congr ⟨rfl, rfl, rfl, rfl⟩) rfl
  · exact safe_failAndRefund (hlive.congr ⟨rfl, rfl, rfl, rfl⟩) rfl
  refine safe_initiateUpiPayout hlive ?_ ?_ ?_
  · rintro b w' s' - hlive'
    cases b with
    | true =>
        have hsame : w'.SameRequest
            { w' with status := .processed, processedAt := some env.now } := ⟨rfl, rfl, rfl, rfl⟩
        exact safe_saveThen_live (hlive'.congr hsame) (fun _ => Or.inr (Or.inl rfl))
          (fun _ => safe_unexpectedError (Or.inl (hlive'.congr hsame)))
          (fun _ h' => safe_ret h'.kept)
    | false => exact safe_failAndRefund (hlive'.congr ⟨rfl, rfl, rfl, rfl⟩) rfl
  · rintro w' s' - hlive'
    have hsame : w'.SameRequest { w' with
        status := .unresolved
        failureReason := some unknownReason
        processedAt := some env.now } := ⟨rfl, rfl, rfl, rfl⟩
    exact safe_saveThen_live (hlive'.congr hsame) (fun _ => Or.inr (Or.inr rfl))
      (fun _ => safe_unexpectedError (Or.inl (hlive'.congr hsame)))
      (fun _ h' => safe_ret h'.kept)
  · rintro w' s' - hlive'
    exact safe_unexpectedError (Or.inl hlive')

end Rules

/-- A dispatch that owes no refund leaves the books in order. -/
theorem inOrder_dispatch {s : World} {env : DispatchEnv} {w : Withdrawal} {es : List Choice}
    (horder : InOrder s.db) (hget : s.db.withdrawals.get? w.id = some w)
    (howes : owes (triggerPayoutCreation env w) es s = false) :
    InOrder (dispatch s env w es).db := by
  have hsafe : Safe (triggerPayoutCreation env w) (s, false) :=
    safe_triggerPayoutCreation horder rfl hget
  have hkept := hsafe.kept es howes
  rwa [Prog.runAlone_withGhost] at hkept

end SaaradhiGo.Payouts
