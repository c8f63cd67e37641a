/-
Rewards under review.

The holds of a flag are locked one after the other and changed together; a reward is held under the
lock of the wallet, up to what is free in it; and a recovery forfeits the held rewards of its flag
before it takes what the wallet has free.
-/
import SaaradhiGo.RiderWallet.Guarded

namespace SaaradhiGo.RiderWallet

open TwoPhase TwoPhase.Txn SaaradhiGo.Money SaaradhiGo.Fraud

section Reviewed

variable {held held' : Set Key} {s s₀ s' t : Db} {user : ℕ} {w : Wallet}

/-! ## Locking holds -/

/-- What is known of the holds a session has locked. -/
structure Locked (p : RewardHold → Bool) (held : Set Key) (s : Db) (hs : List RewardHold) :
    Prop where
  nodup : (hs.map RewardHold.key).Nodup
  picked : ∀ h ∈ hs, p h = true
  there : ∀ h ∈ hs, s.holds.get? h.id = some h
  key : ∀ h ∈ hs, .hold h.id ∈ held

lemma Locked.later {p : RewardHold → Bool} {hs : List RewardHold} (h : Locked p held s hs)
    (ht : Keep held s t) : Locked p held t hs :=
  ⟨h.nodup, h.picked, fun r hr => ht.holds r.id r (h.key r hr) (h.there r hr), h.key⟩

lemma Locked.sublist {p : RewardHold → Bool} {hs hs' : List RewardHold} (h : Locked p held s hs)
    (hsub : hs'.Sublist hs) : Locked p held s hs' :=
  ⟨h.nodup.sublist (hsub.map _), fun r hr => h.picked r (hsub.subset hr),
    fun r hr => h.there r (hsub.subset hr), fun r hr => h.key r (hsub.subset hr)⟩

/-- The holds are locked one after the other, by induction on those that are left. -/
lemma guarded_lockHolds {p : RewardHold → Bool} {k : List RewardHold → Tx} (ids : List ℕ)
    {locked : List RewardHold} (hsub : held ⊆ held') (hs₀ : Keep held s₀ s)
    (hlocked : Locked p held' s locked) (hfresh : (locked.map RewardHold.key ++ ids).Nodup)
    (hI : Sane s)
    (hk : ∀ held' s hs, held ⊆ held' → Keep held s₀ s → Sane s → Locked p held' s hs →
      Guarded Keep Sane Forward held' s (k hs)) :
    Guarded Keep Sane Forward held' s (lockHolds p k ids locked) := by
  induction ids generalizing held' s locked with
  | nil => exact hk held' s locked hsub hs₀ hI hlocked
  | cons id ids ih =>
      intro t ht hIt
      have hs₀t : Keep held s₀ t :=
        agreement_keep.trans _ _ _ _ hs₀ (agreement_keep.anti _ _ _ _ hsub ht)
      have hsub' : held ⊆ insert (.hold id) held' := hsub.trans (Set.subset_insert _ _)
      have hlater := hlocked.later ht
      have hlocked' : Locked p (insert (.hold id) held') t locked :=
        ⟨hlater.nodup, hlater.picked, hlater.there,
          fun r hr => Set.mem_insert_of_mem _ (hlater.key r hr)⟩
      have hskip : (locked.map RewardHold.key ++ ids).Nodup :=
        hfresh.sublist ((List.sublist_cons_self id ids).append_left _)
      rcases hget : t.holds.get? id with _ | h
      · simp only [hget]
        exact ih hsub' hs₀t hlocked' hskip hIt
      simp only [hget]
      split
      · next hp =>
        have hid : h.key = id := Table.pk_of_get? hget
        have hall : ((locked ++ [h]).map RewardHold.key ++ ids).Nodup := by
          rw [List.map_append, List.append_assoc, List.map_cons, List.map_nil, hid]
          exact hfresh
        have hmem : ∀ r ∈ locked ++ [h], r ∈ locked ∨ r = h := fun r hr => by
          simpa using hr
        refine ih hsub' hs₀t ⟨(List.nodup_append.mp hall).1, ?_, ?_, ?_⟩ hall hIt
        · intro r hr
          obtain hr | rfl := hmem r hr
          · exact hlocked'.picked r hr
          · exact hp
        · intro r hr
          obtain hr | rfl := hmem r hr
          · exact hlocked'.there r hr
          · have hid' : r.id = id := hid
            rw [hid', hget]
        · intro r hr
          obtain hr | rfl := hmem r hr
          · exact hlocked'.key r hr
          · have hid' : r.id = id := hid
            rw [hid']
            exact Set.mem_insert _ _
      · exact ih hsub' hs₀t hlocked' hskip hIt

lemma locked_nil (p : RewardHold → Bool) : Locked p held s [] :=
  ⟨List.nodup_nil, fun _ h => (by cases h), fun _ h => (by cases h), fun _ h => (by cases h)⟩

/-- A query for update. -/
lemma guarded_selectHolds {p : RewardHold → Bool} {k : List RewardHold → Tx}
    (hk : ∀ held' s hs, held ⊆ held' → Keep held s₀ s → Sane s → Locked p held' s hs →
      Guarded Keep Sane Forward held' s (k hs)) :
    Guarded Keep Sane Forward held s₀ (selectHolds p k) := by
  refine guarded_read fun s hs hI => ?_
  refine guarded_lockHolds _ subset_rfl hs (locked_nil p) ?_ hI hk
  exact s.holds.nodup.sublist (List.filter_sublist.map _)

/-! ## Releasing -/

lemma changed_released {h : RewardHold} (hheld : h.status = .held) : Changed h (released h) :=
  ⟨hheld, rfl, rfl, rfl, rfl, rfl, rfl⟩

lemma changed_prolonged {h : RewardHold} (hheld : h.status = .held) (releaseAt : ℕ) :
    Changed h { h with releaseAt } :=
  ⟨hheld, rfl, rfl, rfl, rfl, rfl, rfl⟩

lemma changed_forfeit {h : RewardHold} (hheld : h.status = .held) (request : ℕ) :
    Changed h (h.forfeit request) :=
  ⟨hheld, rfl, rfl, rfl, rfl, rfl, rfl⟩

lemma guarded_change {p : RewardHold → Bool} {f : RewardHold → RewardHold} {hs : List RewardHold}
    (hp : ∀ h, p h = true → h.status = .held) (hf : ∀ h, h.status = .held → Changed h (f h))
    (hlocked : Locked p held s₀ hs) :
    Guarded Keep Sane Forward held s₀ (.commit fun db => db.saveHolds (hs.map f) : Tx) := by
  refine guarded_commit fun s hs₀ hI => ?_
  have hnow := hlocked.later hs₀
  have hstatus : ∀ h ∈ hs, h.status = .held := fun h hh => hp h (hlocked.picked h hh)
  have hids : (hs.map f).map RewardHold.key = hs.map RewardHold.key := by
    rw [List.map_map]
    exact List.map_congr_left fun h hh => (hf h (hstatus h hh)).id
  have hnodup : ((hs.map f).map RewardHold.key).Nodup := by
    rw [hids]
    exact hnow.nodup
  have hget : ∀ h' ∈ hs.map f, ∃ h, s.holds.get? h'.id = some h ∧ Changed h h' := by
    intro h' hh'
    obtain ⟨h, hh, rfl⟩ := List.mem_map.mp hh'
    have hch := hf h (hstatus h hh)
    exact ⟨h, hch.id ▸ hnow.there h hh, hch⟩
  have hkeys : ∀ h' ∈ hs.map f, .hold h'.id ∈ held := by
    intro h' hh'
    obtain ⟨h, hh, rfl⟩ := List.mem_map.mp hh'
    exact (hf h (hstatus h hh)).id ▸ hnow.key h hh
  obtain ⟨hc, hfw, hm⟩ := saveHolds_spec hI.covered hnodup hget hkeys
  exact ⟨⟨hc, hI.recovered.congr rfl fun _ => rfl⟩, hfw, hm⟩

lemma guarded_releaseForFlag (flag : ℕ) :
    Guarded Keep Sane Forward ∅ s (releaseForFlag flag) := by
  refine guarded_selectHolds fun held' t hs _ _ _ hlocked => ?_
  exact guarded_change (fun h hp => by simpa using (Bool.and_eq_true_iff.mp hp).2)
    (fun h => changed_released) hlocked

lemma guarded_keepForFinance (flag releaseAt : ℕ) :
    Guarded Keep Sane Forward ∅ s (keepForFinance flag releaseAt) := by
  refine guarded_selectHolds fun held' t hs _ _ _ hlocked => ?_
  exact guarded_change (fun h hp => by simpa using (Bool.and_eq_true_iff.mp hp).2)
    (fun h hheld => changed_prolonged hheld releaseAt) hlocked

lemma guarded_releaseDue (hold now : ℕ) :
    Guarded Keep Sane Forward ∅ s (releaseDue hold now) := by
  refine guarded_read fun s₁ hs₁ hI => ?_
  rcases s₁.holds.get? hold with _ | h
  · exact guarded_abort
  simp only
  split
  · exact guarded_abort
  refine guarded_lockHolds [hold] subset_rfl hs₁ (locked_nil _) (by simp) hI ?_
  intro held' t hs _ _ _ hlocked
  exact guarded_change (fun h hp => by simpa using hp) (fun h => changed_released) hlocked

/-! ## Holding -/

lemma createHold_spec {i : HoldInput} {m : Linked × ℤ} (hc : Covered s)
    (hw : s.wallet? i.user = some w) (hpos : 0 < m.2) (hcur : m.1.currency = w.currency)
    (hroom : s.heldMinor i.user w.currency + m.2 ≤ w.balanceMinor)
    (hheld : .wallet i.user ∈ held) (h : Db.createHold i s m = some s') :
    Covered s' ∧ Forward s s' ∧ Moved held s s' ∧
      s'.heldMinor i.user w.currency = s.heldMinor i.user w.currency + m.2 ∧
      s'.wallets = s.wallets ∧ s'.entries = s.entries ∧ s'.debts = s.debts := by
  rw [Db.createHold] at h
  split at h
  · cases h
  obtain rfl := Option.some.inj h
  generalize hr : ({ id := s.holds.nextKey, user := i.user, ofDriver := false, amountMinor := m.2
                     currency := m.1.currency, status := .held, flag := i.flag
                     ledgerEntry := m.1.ledgerEntry, rewardMinor := m.1.amountMinor
                     releaseAt := i.releaseAt, forfeitedVia := none } : RewardHold) = r
  have hnew : s.holds.get? r.key = none := by
    rw [← hr]
    exact get?_nextKey s.holds
  -- the new hold adds to the one wallet and currency it is for
  have hsum : ∀ v c, (s.holds.put r).sum (Db.heldPart v c) =
      s.heldMinor v c + Db.heldPart v c r := fun v c => sum_put_new hnew _
  have hself : Db.heldPart i.user w.currency r = m.2 := by
    simp [Db.heldPart, ← hr, hcur]
  have hothers : ∀ v c, v ≠ i.user ∨ c ≠ w.currency → Db.heldPart v c r = 0 := by
    intro v c hvc
    have hne : ¬ (i.user = v ∧ w.currency = c) := fun hall =>
      hvc.elim (fun hv => hv hall.1.symm) (fun hc => hc hall.2.symm)
    simp [Db.heldPart, ← hr, hcur, hne]
  refine ⟨⟨?_, ?_, ?_, hc.pending, hc.keys⟩, ⟨fun v => ?_, (Forward.refl s).entries,
    fun id x hx => ?_, (Forward.refl s).debts⟩, ⟨fun _ _ => rfl, fun v hv c => ?_,
    fun id x _ hx => get?_put_of_some hnew hx, fun _ _ _ he => he⟩, ?_, rfl, rfl, rfl⟩
  · intro x hx
    obtain rfl | ⟨hx, -⟩ := Table.mem_put.mp hx
    · rw [← hr]
      exact hpos
    · exact hc.positive x hx
  · intro x hx
    obtain rfl | ⟨hx, -⟩ := Table.mem_put.mp hx
    · rw [← hr]
      exact ⟨rfl, fun _ => ⟨w, hw, hcur.symm⟩⟩
    · exact hc.backed x hx
  · intro v w' hw'
    have hle : (s.holds.put r).sum (Db.heldPart v w'.currency) ≤ w'.balanceMinor := by
      by_cases hv : v = i.user
      · subst hv
        have hww : some w' = some w := hw'.symm.trans hw
        obtain rfl := Option.some.inj hww
        rw [hsum, hself]
        exact hroom
      · rw [hsum, hothers v _ (.inl hv), add_zero]
        exact hc.covered v w' hw'
    exact hle
  · have hbalance : Db.balanceMinor { s with holds := s.holds.put r } v = s.balanceMinor v := rfl
    have hbooked : Db.bookedMinor { s with holds := s.holds.put r } v = s.bookedMinor v := rfl
    rw [hbalance, hbooked, Int.sub_self, Int.sub_self]
  · exact ⟨x, get?_put_of_some hnew hx, rfl, rfl, rfl, fun _ => rfl⟩
  · have hne : v ≠ i.user := fun hvi => hv (hvi ▸ hheld)
    have hle : (s.holds.put r).sum (Db.heldPart v c) ≤ s.heldMinor v c := by
      rw [hsum, hothers v c (.inl hne), add_zero]
    exact hle
  · have heq : (s.holds.put r).sum (Db.heldPart i.user w.currency) =
        s.heldMinor i.user w.currency + m.2 := by rw [hsum, hself]
    exact heq

lemma createHolds_spec {i : HoldInput} {made : List (Linked × ℤ)} (hI : Sane s)
    (hw : s.wallet? i.user = some w)
    (hmade : ∀ m ∈ made, 0 < m.2 ∧ m.1.currency = w.currency)
    (hroom : s.heldMinor i.user w.currency + (made.map Prod.snd).sum ≤ w.balanceMinor)
    (hheld : .wallet i.user ∈ held) (h : made.foldlM (Db.createHold i) s = some s') :
    Sane s' ∧ Forward s s' ∧ Moved held s s' := by
  induction made generalizing s with
  | nil =>
      obtain rfl := Option.some.inj h
      exact ⟨hI, Forward.refl s, Moved.refl held s⟩
  | cons m made ih =>
      rw [List.foldlM_cons] at h
      obtain ⟨s₁, hm, hrest⟩ := Option.bind_eq_some_iff.mp h
      rw [List.map_cons, List.sum_cons] at hroom
      obtain ⟨hpos, hcur⟩ := hmade m List.mem_cons_self
      have hnonneg : 0 ≤ (made.map Prod.snd).sum := by
        refine List.sum_nonneg fun x hx => ?_
        obtain ⟨m', hm', rfl⟩ := List.mem_map.mp hx
        exact (hmade m' (List.mem_cons_of_mem _ hm')).1.le
      obtain ⟨hc, hf, hmoved, hsum, hwallets, hentries, hdebts⟩ :=
        createHold_spec hI.covered hw hpos hcur (by omega) hheld hm
      have hI₁ : Sane s₁ := by
        refine ⟨hc, hI.recovered.congr hdebts fun request => ?_⟩
        rw [Db.takenMinor, Db.takenMinor, hentries]
      have hw₁ : s₁.wallet? i.user = some w := by
        rw [Db.wallet?, hwallets]
        exact hw
      obtain ⟨hI', hf', hm'⟩ := ih hI₁ hw₁
        (fun m' hm' => hmade m' (List.mem_cons_of_mem _ hm')) (by omega) hrest
      exact ⟨hI', hf.trans hf', hmoved.trans hm'⟩

/-- The loop holds no more than is free, by induction on the rewards that are left. -/
lemma guarded_holdEach {i : HoldInput} (es : List Linked) {made : List (Linked × ℤ)}
    (hheld : .wallet i.user ∈ held) (hw : w = s₀.wallets.getWallet i.user .rider)
    (hmade : ∀ m ∈ made, 0 < m.2 ∧ m.1.currency = w.currency)
    (hroom : s₀.heldMinor i.user w.currency + (made.map Prod.snd).sum ≤ w.balanceMinor) :
    Guarded Keep Sane Forward held s₀ (holdEach i w es made) := by
  induction es generalizing s₀ made with
  | nil =>
      refine guarded_commitAll fun s s' hs hI h => ?_
      have hws : w = s.wallets.getWallet i.user .rider :=
        hw.trans (getWallet_of_keep hs hheld).symm
      obtain ⟨hI₁, hf₁, hm₁⟩ := sane_saveWallet hI hws hheld
      have hle := hs.heldMinor i.user hheld w.currency
      have hkey : w.key = (i.user, .rider) := hws ▸ Wallets.key_getWallet _ _ _
      have hget : (s.saveWallet w).wallet? i.user = some w := by
        rw [wallet?_put hkey, if_pos rfl]
      have hsame : (s.saveWallet w).heldMinor i.user w.currency = s.heldMinor i.user w.currency :=
        rfl
      obtain ⟨hI₂, hf₂, hm₂⟩ := createHolds_spec hI₁ hget hmade (by omega) hheld h
      exact ⟨hI₂, hf₁.trans hf₂, hm₁.trans hm₂⟩
  | cons e es ih =>
      refine guarded_read fun s hs hI => ?_
      have hws : w = s.wallets.getWallet i.user .rider :=
        hw.trans (getWallet_of_keep hs hheld).symm
      have hle := hs.heldMinor i.user hheld w.currency
      have hskip : Guarded Keep Sane Forward held s (holdEach i w es made) :=
        ih hws hmade (by omega)
      split
      · exact hskip
      split
      · exact hskip
      next hcur =>
      simp only
      split
      · exact hskip
      next hamount =>
      refine ih hws ?_ ?_
      · intro m hm
        rw [List.mem_append, List.mem_singleton] at hm
        obtain hm | rfl := hm
        · exact hmade m hm
        · exact ⟨by simpa using hamount, by simpa using hcur⟩
      · rw [List.map_append, List.sum_append]
        simp only [List.map_cons, List.map_nil, List.sum_cons, List.sum_nil, add_zero]
        have hmin := min_le_right e.amountMinor
          (w.balanceMinor - (s.heldMinor i.user w.currency + (made.map Prod.snd).sum))
        omega

lemma guarded_holdForFlag (i : HoldInput) :
    Guarded Keep Sane Forward ∅ s (holdForFlag i) := by
  rw [holdForFlag]
  split
  · exact guarded_abort
  split
  · exact guarded_abort
  refine guarded_getWalletLocked fun s₁ _ hI => ?_
  refine guarded_holdEach i.entries (Set.mem_insert _ _) rfl (fun m hm => by cases hm) ?_
  have hcov := heldMinor_le_balance hI.covered i.user
  rw [List.map_nil, List.sum_nil, add_zero]
  exact hcov

/-! ## Recovering -/

/-- What a recovery forfeits are some of the locked holds, and no more than it asks for. -/
lemma forfeits_spec {hs : List RewardHold} (balance : ℤ) {remaining : ℤ} (hrem : 0 ≤ remaining)
    (hpos : ∀ h ∈ hs, 0 < h.amountMinor) :
    (forfeits balance remaining hs).Sublist hs ∧
      0 ≤ totalMinor (forfeits balance remaining hs) ∧
      totalMinor (forfeits balance remaining hs) ≤ remaining := by
  induction hs generalizing balance remaining with
  | nil => exact ⟨List.Sublist.slnil, le_rfl, hrem⟩
  | cons h hs ih =>
      have hpos' : ∀ r ∈ hs, 0 < r.amountMinor := fun r hr => hpos r (List.mem_cons_of_mem _ hr)
      have hh := hpos h List.mem_cons_self
      rw [forfeits]
      split
      · obtain ⟨hsub, h0, hle⟩ := ih balance hrem hpos'
        exact ⟨hsub.trans (List.sublist_cons_self _ _), h0, hle⟩
      · next hfit =>
        have hfit' : h.amountMinor ≤ remaining := by
          by_contra hlt
          exact hfit (.inl (by omega))
        have hrem' : 0 ≤ remaining - h.amountMinor := by omega
        obtain ⟨hsub, h0, hle⟩ := ih (balance - h.amountMinor) hrem' hpos'
        have htotal : totalMinor (h :: forfeits (balance - h.amountMinor)
            (remaining - h.amountMinor) hs) = h.amountMinor +
            totalMinor (forfeits (balance - h.amountMinor) (remaining - h.amountMinor) hs) := by
          simp [totalMinor]
        rw [htotal]
        exact ⟨hsub.cons_cons h, by omega, by omega⟩

/-- What is known after some writes of a recovery, which have taken `amount` from the wallet. -/
structure Taken (i : RecoveryInput) (held : Set Key) (w : Wallet) (s s' : Db) (amount : ℤ) :
    Prop where
  covered : Covered s'
  forward : Forward s s'
  moved : Moved held s s'
  wallet : s'.wallet? i.user = some { w with balanceMinor := w.balanceMinor - amount }
  debts : s'.debts = s.debts
  taken : ∀ request, s'.takenMinor request =
    s.takenMinor request + if request = i.request then amount else 0

lemma taken_eq (request request' : ℕ) (amount : ℤ) :
    (if (Ref.recovery request).text = (Ref.recovery request').text then amount else 0) =
      if request' = request then amount else 0 := by
  by_cases h : request' = request
  · rw [if_pos h, if_pos (by rw [h])]
  · rw [if_neg h, if_neg]
    intro he
    cases Ref.text_injective he
    exact h rfl

lemma take_spec {i : RecoveryInput} {amount : ℤ} {key : String} (hc : Covered s)
    (hw : s.wallet? i.user = some w)
    (hroom : s.heldMinor i.user w.currency + amount ≤ w.balanceMinor)
    (hheld : .wallet i.user ∈ held) (h : i.take s amount key = some s') :
    Taken i held w s s' amount ∧ s'.holds = s.holds := by
  obtain ⟨hc', hf, hm⟩ := debit_spec hc hw hroom hheld h
  obtain ⟨hwallet, hholds, hdebts⟩ := debit_facts hw h
  refine ⟨⟨hc', hf, hm, hwallet, hdebts, fun request => ?_⟩, hholds⟩
  rw [takenMinor_debit h, taken_eq]

/-- The row and the hold are written in any order. -/
lemma forfeit_eq_take {i : RecoveryInput} {h : RewardHold} {key : String} :
    ((i.take s h.amountMinor key).map (·.saveHolds [h.forfeit i.request])) =
      i.take (s.saveHolds [h.forfeit i.request]) h.amountMinor key := by
  rw [RecoveryInput.take, RecoveryInput.take, Db.debit, Db.debit, Option.map_map, Db.create,
    Db.create]
  have hentries : (s.saveHolds [h.forfeit i.request]).entries = s.entries := rfl
  rw [hentries]
  split
  · rfl
  · rfl

lemma forfeitEach_spec {i : RecoveryInput} {hs : List RewardHold} (hc : Covered s)
    (hw : s.wallet? i.user = some w) (hheld : .wallet i.user ∈ held)
    (hlocked : Locked (fun h => h.flag = i.flag && h.user = i.user && h.status = .held) held s hs)
    (h : hs.foldlM i.forfeit s = some s') :
    Taken i held w s s' (totalMinor hs) ∧
      s'.heldMinor i.user w.currency = s.heldMinor i.user w.currency - totalMinor hs := by
  induction hs generalizing s w with
  | nil =>
      obtain rfl := Option.some.inj h
      refine ⟨⟨hc, Forward.refl s, Moved.refl held s, ?_, rfl, fun request => ?_⟩, ?_⟩
      · rw [hw]
        simp [totalMinor]
      · simp [totalMinor]
      · simp [totalMinor]
  | cons r hs ih =>
      rw [List.foldlM_cons] at h
      obtain ⟨s₁, hr, hrest⟩ := Option.bind_eq_some_iff.mp h
      rw [RecoveryInput.forfeit, forfeit_eq_take] at hr
      have hthere := hlocked.there r List.mem_cons_self
      have hkey := hlocked.key r List.mem_cons_self
      have hpicked := hlocked.picked r List.mem_cons_self
      simp only [Bool.and_eq_true, decide_eq_true_eq] at hpicked
      obtain ⟨⟨-, huser⟩, hstatus⟩ := hpicked
      have hmem := (Table.mem_of_get? hthere).1
      obtain ⟨hrole, hback⟩ := hc.backed r hmem
      have hcur : r.currency = w.currency := by
        obtain ⟨w', hw', hcur'⟩ := hback hstatus
        rw [huser, hw, Option.some.injEq] at hw'
        rw [hw', hcur']
      have hpart : Db.heldPart i.user w.currency r = r.amountMinor := by
        simp [Db.heldPart, huser, hstatus, hrole, hcur]
      -- the hold is let go first, so that the row finds the money free
      generalize hs₂ : s.saveHolds [r.forfeit i.request] = s₂ at hr
      have hch : Changed r (r.forfeit i.request) := changed_forfeit hstatus i.request
      have hthere' : s.holds.get? (r.forfeit i.request).id = some r := hthere
      have hspec := saveHold_spec hc hthere' hch hkey
      rw [hs₂] at hspec
      obtain ⟨hc₂, hf₂, hm₂⟩ := hspec
      have hheld₂ : s₂.heldMinor i.user w.currency =
          s.heldMinor i.user w.currency - r.amountMinor := by
        have hforfeited : (s.saveHolds ([r].map (·.forfeit i.request))).heldMinor i.user
            w.currency = s.heldMinor i.user w.currency - totalMinor [r] :=
          heldMinor_forfeited (by simp)
            (fun x hx => by rw [List.mem_singleton.mp hx]; exact hthere)
            (fun x hx => by rw [List.mem_singleton.mp hx]; exact hpart)
        rw [List.map_cons, List.map_nil, hs₂] at hforfeited
        rw [hforfeited]
        simp [totalMinor]
      have hw₂ : s₂.wallet? i.user = some w := by
        rw [← hs₂]
        exact hw
      have hcov := hc.covered i.user w hw
      obtain ⟨htaken, hholds⟩ := take_spec hc₂ hw₂ (by omega) hheld hr
      have hlocked₁ : Locked (fun h => h.flag = i.flag && h.user = i.user && h.status = .held)
          held s₁ hs := by
        have hnodup := hlocked.nodup
        rw [List.map_cons, List.nodup_cons] at hnodup
        refine ⟨hnodup.2, fun x hx => hlocked.picked x (List.mem_cons_of_mem _ hx),
          fun x hx => ?_, fun x hx => hlocked.key x (List.mem_cons_of_mem _ hx)⟩
        have hne : x.id ≠ r.id := fun he => hnodup.1 (List.mem_map.mpr ⟨x, hx, he⟩)
        rw [hholds, ← hs₂]
        exact (Table.get?_put_of_ne (r := r.forfeit i.request) s.holds hne).trans
          (hlocked.there x (List.mem_cons_of_mem _ hx))
      obtain ⟨hrest', hheld'⟩ := ih htaken.covered htaken.wallet hlocked₁ hrest
      have htotal : totalMinor (r :: hs) = r.amountMinor + totalMinor hs := by simp [totalMinor]
      have hheld₁ : s₁.heldMinor i.user w.currency = s₂.heldMinor i.user w.currency := by
        rw [Db.heldMinor, hholds]
        rfl
      refine ⟨⟨hrest'.covered, (hf₂.trans htaken.forward).trans hrest'.forward,
        (hm₂.trans htaken.moved).trans hrest'.moved, ?_, ?_, fun request => ?_⟩, ?_⟩
      · rw [hrest'.wallet, htotal]
        simp only [Option.some.injEq, Wallet.mk.injEq, true_and, and_true]
        omega
      · rw [hrest'.debts, htaken.debts, ← hs₂]
        rfl
      · have hsame : s₂.takenMinor request = s.takenMinor request := by
          rw [← hs₂]
          rfl
        rw [hrest'.taken, htaken.taken, hsame, htotal]
        split
        · omega
        · omega
      · rw [hheld', hheld₁, hheld₂, htotal]
        omega

lemma takeRest_spec {i : RecoveryInput} {taken : ℤ} (hc : Covered s)
    (hw : s.wallet? i.user = some w) (hheld : .wallet i.user ∈ held) (hnonneg : 0 ≤ taken)
    (hroom : 0 < taken → s.heldMinor i.user w.currency + taken ≤ w.balanceMinor)
    (h : i.takeRest s taken = some s') : Taken i held w s s' taken := by
  rw [RecoveryInput.takeRest] at h
  split at h
  · next hpos => exact (take_spec hc hw (hroom hpos) hheld h).1
  · next hpos =>
    obtain rfl := Option.some.inj h
    have hzero : taken = 0 := by omega
    refine ⟨hc, Forward.refl s, Moved.refl held s, ?_, rfl, fun request => ?_⟩
    · rw [hw, hzero, Int.sub_zero]
    · rw [hzero, ite_self, add_zero]

lemma recover_spec {i : RecoveryInput} {hs : List RewardHold} {taken : ℤ} (hI : Sane s)
    (hw : w = s.wallets.getWallet i.user .rider) (hheld : .wallet i.user ∈ held)
    (hlocked : Locked (fun h => h.flag = i.flag && h.user = i.user && h.status = .held) held s hs)
    (hforfeited : 0 ≤ totalMinor hs) (hnonneg : 0 ≤ taken)
    (hask : totalMinor hs + taken ≤ i.amountMinor)
    (hroom : 0 < taken → s.heldMinor i.user w.currency + taken ≤ w.balanceMinor)
    (h : i.recover w hs taken s = some s') :
    Sane s' ∧ Forward s s' ∧ Moved held s s' := by
  obtain ⟨s₂, hloop, h⟩ := Option.bind_eq_some_iff.mp h
  obtain ⟨s₃, hfree, h⟩ := Option.bind_eq_some_iff.mp h
  obtain ⟨debts, hdebt, h⟩ := Option.bind_eq_some_iff.mp h
  obtain rfl := Option.some.inj h
  -- the transaction in its order: the wallet, the forfeited holds, the rest, the debt
  obtain ⟨hI₁, hf₁, hm₁⟩ := sane_saveWallet hI hw hheld
  have hkey : w.key = (i.user, .rider) := hw ▸ Wallets.key_getWallet _ _ _
  have hw₁ : (s.saveWallet w).wallet? i.user = some w := by
    rw [wallet?_put hkey, if_pos rfl]
  have hlocked₁ : Locked (fun h => h.flag = i.flag && h.user = i.user && h.status = .held) held
      (s.saveWallet w) hs := ⟨hlocked.nodup, hlocked.picked, hlocked.there, hlocked.key⟩
  obtain ⟨hloop', hheld₂⟩ := forfeitEach_spec hI₁.covered hw₁ hheld hlocked₁ hloop
  have hsame : (s.saveWallet w).heldMinor i.user w.currency = s.heldMinor i.user w.currency := rfl
  have hfree' := takeRest_spec (w := { w with balanceMinor := w.balanceMinor - totalMinor hs })
    hloop'.covered hloop'.wallet hheld hnonneg (fun hpos => by
      have hle := hroom hpos
      simp only
      omega) hfree
  have hdebts : s₃.debts = s.debts := hfree'.debts.trans hloop'.debts
  obtain ⟨hnone, hput⟩ := Table.insert?_eq_some.mp hdebt
  rw [hdebts] at hnone hput
  -- all that is taken is taken under this request
  have htaken : ∀ request, s₃.takenMinor request = s.takenMinor request +
      if request = i.request then totalMinor hs + taken else 0 := by
    intro request
    have hbefore : (s.saveWallet w).takenMinor request = s.takenMinor request := rfl
    rw [hfree'.taken, hloop'.taken, hbefore]
    split
    · omega
    · omega
  have hforward : Forward s s₃ := (hf₁.trans hloop'.forward).trans hfree'.forward
  have hmoved : Moved held s s₃ := (hm₁.trans hloop'.moved).trans hfree'.moved
  generalize hd : i.debt s.debts.rows.length (totalMinor hs) taken = d at hnone hput
  have hdkey : d.key = i.request := by rw [← hd]; rfl
  have hkept : ∀ request d', s.debts.get? request = some d' → debts.get? request = some d' := by
    intro request d' hd'
    rw [hput]
    exact get?_put_of_some hnone hd'
  refine ⟨⟨⟨hfree'.covered.positive, hfree'.covered.backed, hfree'.covered.covered,
    hfree'.covered.pending, hfree'.covered.keys⟩, ⟨?_, ?_⟩⟩,
    ⟨hforward.books, hforward.entries, hforward.holds, hkept⟩,
    ⟨hmoved.wallets, hmoved.heldMinor, hmoved.holds, hmoved.entries⟩⟩
  · intro request d' hd'
    have hbefore : ({ s₃ with debts } : Db).takenMinor request = s₃.takenMinor request := rfl
    rw [hbefore, htaken]
    have hd'' : (s.debts.put d).get? request = some d' := hput ▸ hd'
    rw [Table.get?_put, hdkey] at hd''
    -- only the debt of this request is new, and nothing was taken under it before
    by_cases hr : request = i.request
    · rw [if_pos hr, Option.some.injEq] at hd''
      rw [hdkey] at hnone
      rw [if_pos hr, ← hd'', ← hd, hr, hI.recovered.unexecuted _ hnone]
      simp only [RecoveryInput.debt]
      exact ⟨by omega, by omega, by omega, by omega, by omega⟩
    · rw [if_neg hr] at hd''
      rw [if_neg hr, add_zero]
      exact hI.recovered.executed request d' hd''
  · intro request hnone'
    have hbefore : ({ s₃ with debts } : Db).takenMinor request = s₃.takenMinor request := rfl
    rw [hbefore, htaken]
    have hnone'' : (s.debts.put d).get? request = none := hput ▸ hnone'
    rw [Table.get?_put, hdkey] at hnone''
    by_cases hr : request = i.request
    · rw [if_pos hr] at hnone''
      cases hnone''
    · rw [if_neg hr] at hnone''
      rw [if_neg hr, add_zero]
      exact hI.recovered.unexecuted request hnone''

lemma guarded_executeRecovery (i : RecoveryInput) :
    Guarded Keep Sane Forward ∅ s (executeRecovery i) := by
  rw [executeRecovery]
  split
  · exact guarded_abort
  next hpos =>
  refine guarded_read fun s₁ _ _ => ?_
  split
  · exact guarded_abort
  split
  · exact guarded_abort
  refine guarded_getWalletLocked fun s₂ _ _ => ?_
  split
  · exact guarded_abort
  refine guarded_selectHolds fun held s₃ locked hsub hs₃ hI₃ hlocked => ?_
  have hheld : Key.wallet i.user ∈ held := hsub (Set.mem_insert _ _)
  have hpos₃ : ∀ h ∈ locked, 0 < h.amountMinor := fun h hh =>
    hI₃.covered.positive h (Table.mem_of_get? (hlocked.there h hh)).1
  generalize hw : s₂.wallets.getWallet i.user .rider = w
  have hamount : 0 ≤ i.amountMinor := by omega
  obtain ⟨hsublist, htotal, hask⟩ := forfeits_spec w.balanceMinor hamount hpos₃
  generalize forfeits w.balanceMinor i.amountMinor locked = hs at hsublist htotal hask
  refine guarded_read fun s₄ hs₄ hI₄ => guarded_commitAll fun s s' hs₅ hI h => ?_
  have hw₃ : w = s₃.wallets.getWallet i.user .rider :=
    hw.symm.trans (getWallet_of_keep hs₃ (Set.mem_insert _ _)).symm
  have hw₄ : w = s₄.wallets.getWallet i.user .rider :=
    hw₃.trans (getWallet_of_keep hs₄ hheld).symm
  have hw₅ : w = s.wallets.getWallet i.user .rider :=
    hw₄.trans (getWallet_of_keep hs₅ hheld).symm
  have hlocked₄ := (hlocked.later hs₄).sublist hsublist
  have hlocked₅ := hlocked₄.later hs₅
  -- what it read as held is what is held now, less what others have released
  have hread : (s₄.saveHolds (hs.map (·.forfeit i.request))).heldMinor i.user w.currency =
      s₄.heldMinor i.user w.currency - totalMinor hs := by
    refine heldMinor_forfeited hlocked₄.nodup hlocked₄.there fun h hh => ?_
    have hpicked := hlocked₄.picked h hh
    simp only [Bool.and_eq_true, decide_eq_true_eq] at hpicked
    obtain ⟨⟨-, huser⟩, hstatus⟩ := hpicked
    obtain ⟨hrole, hback⟩ := hI₄.covered.backed h (Table.mem_of_get? (hlocked₄.there h hh)).1
    obtain ⟨w', hw', hcur⟩ := hback hstatus
    rw [huser] at hw'
    rw [getWallet_of_wallet? hw'] at hw₄
    simp [Db.heldPart, huser, hstatus, hrole, hw₄, hcur]
  rw [hread] at h
  have hle := hs₅.heldMinor i.user hheld w.currency
  refine recover_spec hI hw₅ hheld hlocked₅ htotal ?_ ?_ ?_ h
  · exact le_min (by omega) (le_max_left _ _)
  · have hmin := min_le_left (i.amountMinor - totalMinor hs) (max 0 (w.balanceMinor -
      totalMinor hs - (s₄.heldMinor i.user w.currency - totalMinor hs)))
    omega
  · intro htaken
    have hmin := min_le_right (i.amountMinor - totalMinor hs) (max 0 (w.balanceMinor -
      totalMinor hs - (s₄.heldMinor i.user w.currency - totalMinor hs)))
    omega

/-! ## All transactions -/

/-- Every transaction of the wallets guards the invariant. -/
theorem guarded_transaction (r : Request) (s : Db) :
    Guarded Keep Sane Forward ∅ s (transaction r) := by
  cases r with
  | createPaymentOnComplete user trip amount => exact guarded_createPaymentOnComplete trip amount
  | payTrip i => exact guarded_payTrip i
  | issueCredit i => exact guarded_issueCredit i
  | getWalletBalance user => exact guarded_getWalletBalance
  | webhookTopup entry gatewayAmount => exact guarded_webhookTopup entry gatewayAmount
  | reconTopup entry gatewayAmount => exact guarded_reconTopup entry gatewayAmount
  | holdForFlag i => exact guarded_holdForFlag i
  | releaseForFlag flag => exact guarded_releaseForFlag flag
  | keepForFinance flag releaseAt => exact guarded_keepForFinance flag releaseAt
  | releaseDue hold now => exact guarded_releaseDue hold now
  | executeRecovery i => exact guarded_executeRecovery i

end Reviewed

end SaaradhiGo.RiderWallet
