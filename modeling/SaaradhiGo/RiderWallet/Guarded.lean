/-
The transactions of the wallets guard the invariant.

Under the lock of a wallet nobody else moves its balance or holds more of it, though others may
release what is held; so a sum that was free when it was read is free when it is spent.  Each
transaction keeps `Sane` in this way, whatever the others do between its statements.
-/
import SaaradhiGo.RiderWallet.Writes

namespace SaaradhiGo.RiderWallet

open TwoPhase TwoPhase.Txn SaaradhiGo.Money SaaradhiGo.Fraud

/-- What a recovery asked for is what it forfeited, what the wallet gave and what nobody collects,
and its rows have taken the first two; a request that was not executed has taken nothing. -/
structure Recovered (db : Db) : Prop where
  executed : ∀ request d, db.debts.get? request = some d →
    db.takenMinor request = d.forfeitedMinor + d.recoveredMinor ∧
      d.requestedMinor = d.forfeitedMinor + d.recoveredMinor + d.uncollectedMinor ∧
      0 ≤ d.forfeitedMinor ∧ 0 ≤ d.recoveredMinor ∧ 0 ≤ d.uncollectedMinor
  unexecuted : ∀ request, db.debts.get? request = none → db.takenMinor request = 0

/-- The invariant. -/
structure Sane (db : Db) : Prop where
  covered : Covered db
  recovered : Recovered db

/-- What the others may do while the rows `held` are locked. -/
structure Keep (held : Set Key) (s s' : Db) : Prop where
  wallets : ∀ user, .wallet user ∈ held → s'.wallet? user = s.wallet? user
  heldMinor : ∀ user, .wallet user ∈ held → ∀ c, s'.heldMinor user c ≤ s.heldMinor user c
  holds : ∀ id h, .hold id ∈ held → s.holds.get? id = some h → s'.holds.get? id = some h
  entries : ∀ id e, .entry id ∈ held → s.entries.get? id = some e → s'.entries.get? id = some e
  forward : Forward s s'

lemma agreement_keep : Agreement Keep where
  refl := fun _ s => ⟨fun _ _ => rfl, fun _ _ _ => le_rfl, fun _ _ _ h => h, fun _ _ _ h => h,
    Forward.refl s⟩
  trans := by
    intro held s t u h h'
    exact ⟨fun v hv => (h'.wallets v hv).trans (h.wallets v hv),
      fun v hv c => (h'.heldMinor v hv c).trans (h.heldMinor v hv c),
      fun i r hi hr => h'.holds i r hi (h.holds i r hi hr),
      fun i e hi he => h'.entries i e hi (h.entries i e hi he), h.forward.trans h'.forward⟩
  anti := by
    intro held held' s t hsub h
    exact ⟨fun v hv => h.wallets v (hsub hv), fun v hv => h.heldMinor v (hsub hv),
      fun i r hi => h.holds i r (hsub hi), fun i e hi => h.entries i e (hsub hi), h.forward⟩

section Statements

variable {held held' other : Set Key} {s s₀ s' t : Db} {user : ℕ} {w : Wallet}

/-- What a session does with its locks keeps to the agreement. -/
lemma keep_of_moved (hm : Moved held s s') (hf : Forward s s') (hd : Disjoint held other) :
    Keep other s s' := by
  have hnot : ∀ k, k ∈ other → k ∉ held := fun k hk hk' => Set.disjoint_left.mp hd hk' hk
  exact ⟨fun v hv => hm.wallets v (hnot _ hv), fun v hv => hm.heldMinor v (hnot _ hv),
    fun i r hi => hm.holds i r (hnot _ hi), fun i e hi => hm.entries i e (hnot _ hi), hf⟩

/-- The recoveries are as they were when no row of theirs and no debt was written. -/
lemma Recovered.congr (h : Recovered s) (hdebts : s'.debts = s.debts)
    (htaken : ∀ request, s'.takenMinor request = s.takenMinor request) : Recovered s' := by
  constructor
  · intro request d hd
    rw [htaken]
    exact h.executed request d (hdebts ▸ hd)
  · intro request hnone
    rw [htaken]
    exact h.unexecuted request (hdebts ▸ hnone)

lemma guarded_abort : Guarded Keep Sane Forward held s₀ (.abort : Tx) := trivial

lemma guarded_commit {f : Db → Db}
    (hf : ∀ s, Keep held s₀ s → Sane s → Sane (f s) ∧ Forward s (f s) ∧ Moved held s (f s)) :
    Guarded Keep Sane Forward held s₀ (.commit f : Tx) := by
  intro s hs hI
  obtain ⟨hsane, hforward, hmoved⟩ := hf s hs hI
  exact ⟨hsane, hforward, fun other hd => keep_of_moved hmoved hforward hd⟩

/-- Writes of which one may be refused. -/
lemma guarded_commitAll {f : Db → Option Db}
    (hf : ∀ s s', Keep held s₀ s → Sane s → f s = some s' →
      Sane s' ∧ Forward s s' ∧ Moved held s s') :
    Guarded Keep Sane Forward held s₀ (commitAll f) := by
  refine guarded_commit fun s hs hI => ?_
  rcases hfs : f s with _ | s'
  · exact ⟨hI, Forward.refl s, Moved.refl held s⟩
  · exact hf s s' hs hI hfs

lemma guarded_read {next : Db → Tx}
    (hnext : ∀ s, Keep held s₀ s → Sane s → Guarded Keep Sane Forward held s (next s)) :
    Guarded Keep Sane Forward held s₀ (.read next) := hnext

lemma guarded_lockWallet {k : Wallet → Tx}
    (hk : ∀ s w, Sane s → s.wallet? user = some w →
      Guarded Keep Sane Forward (insert (.wallet user) held) s (k w)) :
    Guarded Keep Sane Forward held s₀ (lockWallet user k) := by
  intro s _ hI
  rcases hw : s.wallet? user with _ | w
  · simp only [hw]
    exact guarded_abort
  · simp only [hw]
    exact hk s w hI hw

lemma guarded_getWalletLocked {k : Wallet → Tx}
    (hk : ∀ s, Keep held s₀ s → Sane s →
      Guarded Keep Sane Forward (insert (.wallet user) held) s
        (k (s.wallets.getWallet user .rider))) :
    Guarded Keep Sane Forward held s₀ (getWalletLocked user k) := hk

lemma getWallet_of_keep (h : Keep held s t) (hheld : .wallet user ∈ held) :
    t.wallets.getWallet user .rider = s.wallets.getWallet user .rider := by
  have hget := h.wallets user hheld
  rw [Db.wallet?, Db.wallet?] at hget
  rw [Wallets.getWallet, Wallets.getWallet, hget]

/-! ## Spending -/

section Spending

variable {amount : ℤ} {currency : Currency} {purpose reference key : String}

lemma trip_ne_recovery (trip request : ℕ) :
    (Ref.trip trip).text ≠ (Ref.recovery request).text := fun h => by
  cases Ref.text_injective h

lemma takenMinor_debit (h : s.debit user amount currency purpose reference key = some s')
    (request : ℕ) : s'.takenMinor request =
      s.takenMinor request + if reference = (Ref.recovery request).text then amount else 0 := by
  obtain ⟨t, ht, rfl⟩ := Option.map_eq_some_iff.mp h
  rw [takenMinor_create ht]
  simp

/-- What was free under the lock of the wallet is spent. -/
lemma guarded_spend {trip : ℕ} (hw : s₀.wallet? user = some w)
    (hfree : s₀.heldMinor user w.currency + amount ≤ w.balanceMinor)
    (hheld : .wallet user ∈ held) :
    Guarded Keep Sane Forward held s₀ (commitAll fun db =>
      db.debit user amount currency purpose (Ref.trip trip).text key) := by
  refine guarded_commitAll fun s s' hs hI hdebit => ?_
  have hws : s.wallet? user = some w := (hs.wallets user hheld).trans hw
  have hroom : s.heldMinor user w.currency + amount ≤ w.balanceMinor := by
    have hle := hs.heldMinor user hheld w.currency
    omega
  obtain ⟨hc, hf, hm⟩ := debit_spec hI.covered hws hroom hheld hdebit
  have htaken : ∀ request, s'.takenMinor request = s.takenMinor request := by
    intro request
    rw [takenMinor_debit hdebit, if_neg (trip_ne_recovery trip request), add_zero]
  exact ⟨⟨hc, hI.recovered.congr (debit_facts hws hdebit).2.2 htaken⟩, hf, hm⟩

lemma guarded_createPaymentOnComplete (trip : ℕ) (amount : ℚ) :
    Guarded Keep Sane Forward ∅ s (createPaymentOnComplete user trip amount) := by
  rw [createPaymentOnComplete, walletPayment]
  split
  · exact guarded_abort
  refine guarded_read fun s₁ _ _ => ?_
  split
  · exact guarded_abort
  refine guarded_lockWallet fun s₂ w _ hw => guarded_read fun s₃ hs₃ _ => ?_
  split
  · exact guarded_abort
  next hfree =>
  have hheld : Key.wallet user ∈ insert (Key.wallet user) ∅ := Set.mem_insert _ _
  have hw₃ : s₃.wallet? user = some w := (hs₃.wallets user hheld).trans hw
  exact guarded_spend hw₃ (by omega) hheld

lemma guarded_payTrip (i : FareInput) : Guarded Keep Sane Forward ∅ s (payTrip i) := by
  rw [payTrip]
  split
  · exact guarded_abort
  refine guarded_read fun s₁ _ _ => ?_
  split
  · exact guarded_abort
  split
  · exact guarded_abort
  split
  · exact guarded_abort
  split
  · exact guarded_abort
  split
  · exact guarded_abort
  refine guarded_lockWallet fun s₂ w _ hw => ?_
  split
  · exact guarded_abort
  next hcurrency =>
  refine guarded_read fun s₃ hs₃ _ => ?_
  split
  · exact guarded_abort
  next hfree =>
  have hheld : Key.wallet i.user ∈ insert (Key.wallet i.user) ∅ := Set.mem_insert _ _
  have hw₃ : s₃.wallet? i.user = some w := (hs₃.wallets i.user hheld).trans hw
  have hcur : w.currency = i.currency := by simpa using hcurrency
  refine guarded_spend hw₃ ?_ hheld
  rw [hcur]
  omega

end Spending

/-! ## Credits and top-ups -/

lemma sane_saveWallet (hI : Sane s) (hw : w = s.wallets.getWallet user .rider)
    (hheld : .wallet user ∈ held) :
    Sane (s.saveWallet w) ∧ Forward s (s.saveWallet w) ∧ Moved held s (s.saveWallet w) := by
  subst hw
  obtain ⟨hc, hf, hm⟩ := saveWallet_getWallet hI.covered hheld
  exact ⟨⟨hc, hI.recovered.congr rfl fun _ => rfl⟩, hf, hm⟩

lemma guarded_issueCredit (i : CreditInput) :
    Guarded Keep Sane Forward ∅ s (issueCredit i) := by
  rw [issueCredit]
  split
  · exact guarded_abort
  next hpos =>
  refine guarded_getWalletLocked fun s₁ _ _ => ?_
  have hheld : Key.wallet i.user ∈ insert (Key.wallet i.user) ∅ := Set.mem_insert _ _
  split
  · exact guarded_commit fun t ht hI => sane_saveWallet hI (getWallet_of_keep ht hheld).symm hheld
  refine guarded_commit fun t ht hI => ?_
  rcases hcredit : t.credit i.user i.amountMinor i.stamp i.purpose i.referenceId
      i.idempotencyKey with _ | t'
  · dsimp only
    split
    · exact sane_saveWallet hI (getWallet_of_keep ht hheld).symm hheld
    · exact ⟨hI, Forward.refl t, Moved.refl _ t⟩
  · dsimp only
    obtain ⟨hc, hf, hm⟩ := credit_spec hI.covered (by omega) hheld hcredit
    obtain ⟨u, hu, rfl⟩ := Option.map_eq_some_iff.mp hcredit
    have hdebts : (u.addMinor i.user i.amountMinor).debts = t.debts := by
      obtain ⟨-, rfl⟩ := create_eq_some hu
      rfl
    have htaken : ∀ request, (u.addMinor i.user i.amountMinor).takenMinor request =
        t.takenMinor request := by
      intro request
      rw [takenMinor_create hu]
      simp
    exact ⟨⟨hc, hI.recovered.congr hdebts htaken⟩, hf, hm⟩

lemma guarded_getWalletBalance : Guarded Keep Sane Forward ∅ s (getWalletBalance user) := by
  intro s₁ _ _
  rcases hw : s₁.wallet? user with _ | w
  · simp only [hw]
    exact guarded_commit fun t _ hI => sane_saveWallet hI rfl (Set.mem_insert _ _)
  · simp only [hw]
    exact guarded_abort

lemma guarded_webhookTopup (entry : ℕ) (gatewayAmount : ℚ) :
    Guarded Keep Sane Forward ∅ s (webhookTopup entry gatewayAmount) := by
  intro s₁ _ _
  rcases he : s₁.entries.get? entry with _ | e
  · simp only [he]
    exact guarded_abort
  · simp only [he, ite_self]
    exact guarded_abort

lemma completeTopup_spec {e : WalletTransaction} (hI : Sane s) (he : s.entries.get? e.id = some e)
    (hstatus : e.status = .pending) (htype : e.txnType = .credit)
    (hentry : .entry e.id ∈ held) (hheld : .wallet e.user ∈ held) :
    Sane (s.completeTopup e) ∧ Forward s (s.completeTopup e) ∧
      Moved held s (s.completeTopup e) := by
  have hmem := (Table.mem_of_get? he).1
  have hamount := hI.covered.pending e hmem (by simp [hstatus])
  generalize he' : ({ e with status := .completed } : WalletTransaction) = e'
  have hget : s.entries.get? e'.id = some e := by rw [← he']; exact he
  have hother : ∀ i, i ≠ e.id → (s.entries.put e').get? i = s.entries.get? i := by
    intro i hi
    exact Table.get?_put_of_ne s.entries (by rw [← he']; exact hi)
  -- the entry counts for its wallet from now on
  have hpart : ∀ v, e'.bookedFor v - e.bookedFor v = if v = e.user then e.amountMinor else 0 := by
    intro v
    by_cases hv : v = e.user
    · simp [WalletTransaction.bookedFor, ← he', hv, htype, hstatus]
    · have hv' : ¬ e.user = v := fun h => hv h.symm
      simp [WalletTransaction.bookedFor, ← he', hv, hv']
  have hwritten : s.completeTopup e = (withEntry s e').addMinor e.user e.amountMinor := by
    rw [← he']
    rfl
  rw [hwritten]
  refine ⟨⟨?_, hI.recovered.congr rfl fun request => ?_⟩, ⟨fun v => ?_, fun i r hr => ?_,
    (Forward.refl s).holds, (Forward.refl s).debts⟩, ?_⟩
  · have hpending : ∀ r ∈ (s.entries.put e').rows, r.status ≠ .completed → 0 ≤ r.amountMinor := by
      intro r hr hne
      obtain rfl | ⟨hr, -⟩ := Table.mem_put.mp hr
      · exact absurd (by rw [← he']) hne
      · exact hI.covered.pending r hr hne
    have hkeys : Table.UniqueOn WalletTransaction.idempotencyKey (s.entries.put e').rows := by
      refine hI.covered.keys.put_of_forall fun r hr hne k hk hrk => hne ?_
      have hk' : e.idempotencyKey = some k := by rw [← hk, ← he']
      rw [hI.covered.keys.eq_of_key hr hmem hrk hk', ← he']
    have hc' : Covered (withEntry s e') :=
      ⟨hI.covered.positive, hI.covered.backed, hI.covered.covered, hpending, hkeys⟩
    -- a larger balance covers the same holds
    have hcov := heldMinor_le_balance hI.covered e.user
    rw [addMinor_eq_saveWallet]
    refine covered_saveWallet hc' (Wallets.key_getWallet _ _ _) rfl ?_
    have hroom : s.heldMinor e.user (s.wallets.getWallet e.user .rider).currency ≤
        s.balanceMinor e.user + e.amountMinor := by omega
    exact hroom
  · have hput : (s.entries.put e').sum (·.takenFor request) =
        s.entries.sum (·.takenFor request) - e.takenFor request + e'.takenFor request :=
      Table.sum_put hget _
    have hsame : e'.takenFor request = e.takenFor request := by rw [← he']; rfl
    rw [hsame] at hput
    have hbefore : s.takenMinor request = s.entries.sum (·.takenFor request) := rfl
    have hafter : ((withEntry s e').addMinor e.user e.amountMinor).takenMinor request =
        (s.entries.put e').sum (·.takenFor request) := rfl
    omega
  · have hput : ((withEntry s e').addMinor e.user e.amountMinor).bookedMinor v =
        s.bookedMinor v - e.bookedFor v + e'.bookedFor v := Table.sum_put hget _
    have hbalance : (withEntry s e').balanceMinor v = s.balanceMinor v := rfl
    have hv := hpart v
    rw [hput, balanceMinor_addMinor, hbalance]
    omega
  · by_cases hi : i = e.id
    · subst hi
      rw [he, Option.some.injEq] at hr
      subst hr
      refine ⟨.completed, ?_, .inr ⟨hstatus, rfl⟩⟩
      rw [he']
      have hid : e'.id = e.id := by rw [← he']
      rw [← hid]
      exact Table.get?_put_self s.entries e'
    · exact ⟨r.status, (hother i hi).trans hr, .inl rfl⟩
  · refine ⟨fun v hv => ?_, fun _ _ _ => le_rfl, fun _ _ _ hh => hh, fun i r hi hr => ?_⟩
    · have hne : v ≠ e.user := fun hvu => hv (hvu ▸ hheld)
      rw [wallet?_addMinor, if_neg hne]
      rfl
    · exact (hother i fun hie => hi (hie ▸ hentry)).trans hr

lemma guarded_reconTopup (entry : ℕ) (gatewayAmount : ℚ) :
    Guarded Keep Sane Forward ∅ s (reconTopup entry gatewayAmount) := by
  refine guarded_read fun s₁ _ _ => ?_
  rcases he₁ : s₁.entries.get? entry with _ | e₁
  · exact guarded_abort
  simp only
  split
  · exact guarded_abort
  next hpending =>
  intro s₂ hs₂ _
  rcases he₂ : s₂.entries.get? entry with _ | e
  · simp only [he₂]
    exact guarded_abort
  simp only [he₂]
  split
  · exact guarded_abort
  next hstatus =>
  split
  · exact guarded_abort
  refine guarded_getWalletLocked (k := fun _ => .commit fun db => db.completeTopup e)
    fun s₃ hs₃ _ => guarded_commit fun t ht hI => ?_
  have hid : e.id = entry := Table.pk_of_get? he₂
  have hentry : Key.entry e.id ∈ insert (Key.wallet e.user)
      (insert (Key.entry entry) (∅ : Set Key)) := by
    rw [hid]
    exact Set.mem_insert_of_mem _ (Set.mem_insert _ _)
  obtain ⟨status, hlater, hturn⟩ := hs₂.forward.entries entry e₁ he₁
  rw [he₂, Option.some.injEq] at hlater
  have htype : e.txnType = .credit := by
    rw [hlater]
    by_contra hne
    exact hpending (.inr (.inl hne))
  -- The row was pending at the first read, and is not completed at the second.
  have hstill : e.status = .pending := by
    have hbefore : e₁.status = .pending := by
      by_contra hne
      exact hpending (.inl hne)
    rw [hlater] at hstatus ⊢
    obtain hsame | ⟨-, hdone⟩ := hturn
    · exact hsame.trans hbefore
    · exact absurd hdone hstatus
  have he₃ : s₃.entries.get? e.id = some e :=
    hs₃.entries _ _ (hid ▸ Set.mem_insert _ _) (hid ▸ he₂)
  exact completeTopup_spec hI (ht.entries _ _ hentry he₃) hstill htype hentry
    (Set.mem_insert _ _)

end Statements

end SaaradhiGo.RiderWallet
