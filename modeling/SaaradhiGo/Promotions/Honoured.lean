/-
Campaigns over any run.

The counters hold after every sequence of operations, and what is admitted stays in the budget.
A release raises where the campaign has no budget, since it subtracts from `None`; a settlement
raises where the discount is nought, since the ledger takes positive amounts only.
-/
import SaaradhiGo.Promotions.Counters

namespace SaaradhiGo.Promotions

open SaaradhiGo.Money Fallible

/-! ## Loops over the redemptions of a trip -/

/-- The loop over a trip's redemptions, begun at `s₀`, has these left. -/
structure Pending (s₀ : Db) (trip : ℕ) (s : Db) (rs : List PromoRedemption) : Prop where
  kept : Kept s
  nodup : (rs.map PromoRedemption.id).Nodup
  current : ∀ r ∈ rs, s.redemptions.get? r.id = some r ∧ r.state = .committed ∧ r.trip = some trip
  budgets : budgetOf s = budgetOf s₀
  others : ∀ t, t ≠ trip → s.committedOn t = s₀.committedOn t

section Loops

variable {s₀ s s' : Db} {trip now : ℕ} {r r' : PromoRedemption} {rs : List PromoRedemption}

/-- Writing a redemption of one trip leaves those of the others. -/
lemma committedOn_put {t : ℕ} (hget : s.redemptions.get? r'.id = some r) (hr : r.trip ≠ some t)
    (hr' : r'.trip ≠ some t) (hs' : s'.redemptions = s.redemptions.put r') :
    s'.committedOn t = s.committedOn t := by
  obtain ⟨hmem, hid⟩ := Table.mem_of_get? hget
  have hkey : r'.id ∈ s.redemptions.rows.map PromoRedemption.id := hid ▸ List.mem_map_of_mem hmem
  rw [Db.committedOn, Db.committedOn, hs', Table.put, dif_pos hkey]
  refine Table.filter_replace (by simp [hr']) fun x hx hsame => ?_
  have hxr : x = r := by
    have hgx := Table.mem_iff_get?.mp hx
    rw [hsame, hget] at hgx
    exact (Option.some.inj hgx).symm
  simp [hxr, hr]

lemma Pending.tail (h : Pending s₀ trip s (r :: rs)) : Pending s₀ trip s rs :=
  ⟨h.kept, (List.nodup_cons.mp h.nodup).2, fun x hx => h.current x (List.mem_cons_of_mem _ hx),
    h.budgets, h.others⟩

/-- The first redemption that was left is written. -/
lemma Pending.wrote (h : Pending s₀ trip s (r :: rs)) (hw : Wrote s s' r') (hid : r'.id = r.id)
    (htrip : r'.trip = r.trip) : Pending s₀ trip s' rs := by
  obtain ⟨hget, -, hon⟩ := h.current r List.mem_cons_self
  obtain ⟨hfresh, hnodup⟩ := List.nodup_cons.mp h.nodup
  refine ⟨hw.kept, hnodup, fun x hx => ?_, hw.budgets.trans h.budgets, fun t ht => ?_⟩
  · obtain ⟨hgetx, hx'⟩ := h.current x (List.mem_cons_of_mem _ hx)
    have hne : x.id ≠ r'.id := by
      intro heq
      exact hfresh (hid ▸ heq ▸ List.mem_map_of_mem hx)
    rw [hw.redemptions, Table.get?_put_of_ne _ hne]
    exact ⟨hgetx, hx'⟩
  · have hne : r.trip ≠ some t := by
      rw [hon]
      exact fun heq => ht (Option.some.inj heq).symm
    rw [committedOn_put (hid ▸ hget) hne (htrip ▸ hne) hw.redemptions]
    exact h.others t ht

lemma pending_committedOn (h : Kept s) (trip : ℕ) : Pending s trip s (s.committedOn trip) := by
  refine ⟨h, s.redemptions.nodup.sublist (List.filter_sublist.map _), fun r hr => ?_, rfl,
    fun _ _ => rfl⟩
  rw [Db.committedOn, List.mem_filter, decide_eq_true_eq] at hr
  exact ⟨Table.mem_iff_get?.mp hr.1, hr.2.2, hr.2.1⟩

lemma backed_of_budgets (h : budgetOf s = budgetOf s₀) : Backed s r ↔ Backed s₀ r := by
  rw [Backed, Backed, h]

/-- `release_for_trip` gives back what the trip has reserved. -/
theorem releaseForTrip_spec {t : Trip} {acc : Db × ℤ} (h : Kept s)
    (hok : releaseForTrip now t s = .ok acc) : Pending s t.id acc.1 [] := by
  refine foldlM_spec (f := releaseRedemption now) (I := fun acc rs => Pending s t.id acc.1 rs)
    (fun acc r rs acc' hpending hstep => ?_) (pending_committedOn h t.id) hok
  obtain ⟨hget, hcommitted, -⟩ := hpending.current r List.mem_cons_self
  exact hpending.wrote (wrote_releaseRedemption hpending.kept hget hcommitted hstep) rfl rfl

/-- It goes through exactly when each of the campaigns has a budget. -/
theorem releaseForTrip_ok_iff (now : ℕ) (t : Trip) (h : Kept s) :
    (∃ acc, releaseForTrip now t s = .ok acc) ↔ ∀ r ∈ s.committedOn t.id, Backed s r := by
  refine foldlM_ok_iff (f := releaseRedemption now) (I := fun acc rs => Pending s t.id acc.1 rs)
    (fun acc r rs acc' hpending hstep => ?_) (fun acc r rs hpending => ?_)
    (pending_committedOn h t.id)
  · obtain ⟨hget, hcommitted, -⟩ := hpending.current r List.mem_cons_self
    exact hpending.wrote (wrote_releaseRedemption hpending.kept hget hcommitted hstep) rfl rfl
  · obtain ⟨hget, hcommitted, -⟩ := hpending.current r List.mem_cons_self
    rw [releaseRedemption_ok_iff hpending.kept hget hcommitted]
    exact backed_of_budgets hpending.budgets

lemma Pending.settle {t : Trip} {isCash : Bool} {acc acc' : Db × ℤ}
    (h : Pending s₀ t.id acc.1 (r :: rs)) (hstep : settleRedemption now t isCash acc r = .ok acc') :
    Pending s₀ t.id acc'.1 rs := by
  obtain ⟨hget, hcommitted, -⟩ := h.current r List.mem_cons_self
  rcases wrote_settleRedemption h.kept hget hcommitted hstep with ⟨-, rfl⟩ | hw
  · exact h.tail
  · exact h.wrote hw rfl rfl

/-- `settle_trip` keeps the counters. -/
theorem kept_settleTrip {t : Trip} {isCash : Bool} {acc : Db × ℤ} (h : Kept s)
    (hok : settleTrip now t isCash s = .ok acc) : Kept acc.1 := by
  rw [settleTrip] at hok
  split at hok
  · cases hok
    exact h
  · exact (foldlM_spec (f := settleRedemption now t isCash)
      (I := fun acc rs => Pending s t.id acc.1 rs) (fun _ _ _ _ => Pending.settle)
      (pending_committedOn h t.id) hok).kept

/-- It goes through exactly when no discount of a campaign is nought. -/
theorem settleTrip_ok_iff {t : Trip} {isCash : Bool} (h : Kept s) :
    (∃ acc, settleTrip now t isCash s = .ok acc) ↔
      (t.platformFunded = false →
        ∀ r ∈ s.committedOn t.id, r.campaign.isSome → 0 < r.discountAmountMinor) := by
  rw [settleTrip]
  split
  · rename_i hfunded
    simp [hfunded]
  · rename_i hfunded
    have hloop : (∃ acc, (s.committedOn t.id).foldlM (settleRedemption now t isCash) (s, 0)
        = .ok acc) ↔ ∀ r ∈ s.committedOn t.id, r.campaign.isSome → 0 < r.discountAmountMinor := by
      refine foldlM_ok_iff (I := fun acc rs => Pending s t.id acc.1 rs)
        (fun _ _ _ _ => Pending.settle) (fun acc r rs hpending => ?_) (pending_committedOn h t.id)
      obtain ⟨hget, hcommitted, -⟩ := hpending.current r List.mem_cons_self
      exact settleRedemption_ok_iff hpending.kept hget hcommitted
    rw [hloop]
    simp [hfunded]

/-- What an operator end knows while it works through the redemptions. -/
def Reworking (s₀ : Db) (trip : ℕ) (capped : ℤ) (acc : Db × Option ℤ) (rs : List PromoRedemption) :
    Prop :=
  Pending s₀ trip acc.1 rs ∧ (∀ left ∈ acc.2, 0 ≤ left) ∧
    ∀ r ∈ rs, ∀ promo ∈ acc.1.promos.get? r.promo, 0 ≤ payableDiscount promo capped

lemma reworked_nonneg {promo : PromoCode} {capped : ℤ} {left : Option ℤ} (hcapped : 0 ≤ capped)
    (hdiscount : 0 ≤ payableDiscount promo capped) (hleft : ∀ x ∈ left, 0 ≤ x) :
    0 ≤ (reworked promo capped left).1 ∧ ∀ x ∈ (reworked promo capped left).2, 0 ≤ x := by
  unfold reworked
  cases left with
  | none => exact ⟨le_min hdiscount hcapped, by simp⟩
  | some left =>
      refine ⟨le_min (le_min hdiscount hcapped) (hleft left rfl), fun x hx => ?_⟩
      cases hx
      exact sub_nonneg.mpr (min_le_right _ _)

/-- `apply_operator_end` under the standard rule keeps the counters. -/
theorem kept_rework {capped : ℤ} {plan : Option ℤ} {acc : Db × Option ℤ} (h : Kept s)
    (hcapped : 0 ≤ capped) (hplan : ∀ x ∈ plan, 0 ≤ x)
    (hdiscount : ∀ r ∈ s.committedOn trip, ∀ promo ∈ s.promos.get? r.promo,
      0 ≤ payableDiscount promo capped)
    (hok : (s.committedOn trip).foldlM (adjustRedemption now capped) (s, plan) = .ok acc) :
    Kept acc.1 := by
  refine (foldlM_spec (I := Reworking s trip capped) (fun acc r rs acc' hwork hstep => ?_)
    ⟨pending_committedOn h trip, hplan, hdiscount⟩ hok).1.kept
  obtain ⟨hpending, hleft, hrest⟩ := hwork
  obtain ⟨hget, hcommitted, -⟩ := hpending.current r List.mem_cons_self
  have hnew : ∀ promo ∈ acc.1.promos.get? r.promo, 0 ≤ (reworked promo capped acc.2).1 :=
    fun promo hpromo =>
      (reworked_nonneg hcapped (hrest r List.mem_cons_self promo hpromo) hleft).1
  obtain ⟨promo, hpromo, hacc, hpromos, hw⟩ :=
    wrote_adjustRedemption hpending.kept hget hcommitted hnew hstep
  refine ⟨hpending.wrote hw rfl rfl, ?_, fun x hx => ?_⟩
  · rw [hacc]
    exact (reworked_nonneg hcapped (hrest r List.mem_cons_self promo hpromo) hleft).2
  · rw [hpromos]
    exact hrest x (List.mem_cons_of_mem _ hx)

/-! ## The sweep -/

/-- What the sweep knows while it works through the trips. -/
structure Sweeping (s₀ s : Db) (trips : List Trip) : Prop where
  kept : Kept s
  nodup : (trips.map Trip.id).Nodup
  budgets : budgetOf s = budgetOf s₀
  untouched : ∀ t ∈ trips, s.committedOn t.id = s₀.committedOn t.id

/-- The sweep keeps the counters, and goes through exactly when each release does. -/
theorem releaseEach_spec (now : ℕ) {trips : List Trip} {n : ℕ} (h : Sweeping s₀ s trips) :
    Kept (releaseEach now trips n s).1 ∧
      ((∃ k, (releaseEach now trips n s).2 = .ok k) ↔
        ∀ t ∈ trips, ∀ r ∈ s₀.committedOn t.id, Backed s₀ r) := by
  induction trips generalizing s n with
  | nil => exact ⟨h.kept, by simp [releaseEach]⟩
  | cons t trips ih =>
      obtain ⟨hfresh, hnodup⟩ := List.nodup_cons.mp h.nodup
      have hbacked : ∀ r, Backed s r ↔ Backed s₀ r := fun r => backed_of_budgets h.budgets
      have hiff := releaseForTrip_ok_iff now t h.kept
      rw [h.untouched t List.mem_cons_self] at hiff
      rw [releaseEach]
      cases hrelease : releaseForTrip now t s with
      | error e =>
          refine ⟨h.kept, ?_⟩
          have hnot : ¬ ∀ r ∈ s₀.committedOn t.id, Backed s r := by
            rw [← hiff, hrelease]
            rintro ⟨acc, hacc⟩
            cases hacc
          constructor
          · rintro ⟨k, hk⟩
            cases hk
          · intro hall
            exact absurd (fun r hr => (hbacked r).mpr (hall t List.mem_cons_self r hr)) hnot
      | ok acc =>
          have hspec := releaseForTrip_spec h.kept hrelease
          have hnext : Sweeping s₀ acc.1 trips := by
            refine ⟨hspec.kept, hnodup, hspec.budgets.trans h.budgets, fun t' ht' => ?_⟩
            have hne : t'.id ≠ t.id := fun heq => hfresh (heq ▸ List.mem_map_of_mem ht')
            rw [hspec.others t'.id hne]
            exact h.untouched t' (List.mem_cons_of_mem _ ht')
          obtain ⟨hkept, hrest⟩ := ih (n := if acc.2 ≠ 0 then n + 1 else n) hnext
          refine ⟨hkept, ?_⟩
          have hfirst := hiff.mp ⟨acc, hrelease⟩
          rw [List.forall_mem_cons]
          constructor
          · intro hk
            exact ⟨fun r hr => (hbacked r).mp (hfirst r hr), hrest.mp hk⟩
          · exact fun hall => hrest.mpr hall.2

lemma sweeping_staleTrips (h : Kept s) (limit : ℕ) : Sweeping s s (staleTrips limit s) :=
  ⟨h, s.trips.nodup.sublist (List.filter_sublist.map _), rfl, fun _ _ => rfl⟩

end Loops

/-! ## New campaigns, bookings, rewards -/

def usedBefore (s : Db) (campaign : ℕ) : ℤ :=
  ((s.campaigns.get? campaign).map Campaign.usedMinor).getD 0

/-- Each campaign whose use has grown is in its budget. -/
def GrowsWithin (s s' : Db) : Prop :=
  ∀ c ∈ s'.campaigns.rows, usedBefore s c.id < c.usedMinor →
    ∀ budget ∈ c.budgetMinor, c.usedMinor ≤ budget

section Writes

variable {s s' s₁ : Db} {campaign now : ℕ} {c c' : Campaign}

lemma usedBefore_of_mem (h : c ∈ s.campaigns.rows) : usedBefore s c.id = c.usedMinor := by
  rw [usedBefore, Table.mem_iff_get?.mp h, Option.map_some, Option.getD_some]

lemma growsWithin_refl (s : Db) : GrowsWithin s s := by
  intro c hc hlt
  rw [usedBefore_of_mem hc] at hlt
  exact absurd hlt (lt_irrefl _)

lemma growsWithin_put {campaigns : Table Campaign.id} (h : s'.campaigns = campaigns.put c')
    (hbudget : ∀ budget ∈ c'.budgetMinor, c'.usedMinor ≤ budget)
    (hrest : ∀ x ∈ campaigns.rows, x.id ≠ c'.id → usedBefore s x.id = x.usedMinor) :
    GrowsWithin s s' := by
  intro x hx hlt
  rw [h] at hx
  rcases Table.mem_put.mp hx with rfl | ⟨hx, hne⟩
  · exact hbudget
  · rw [hrest x hx hne] at hlt
    exact absurd hlt (lt_irrefl _)

lemma Kept.insertCampaign (h : Kept s) {campaigns : Table Campaign.id}
    (hinsert : s.campaigns.insert? c = some campaigns) (hcommitted : c.committedMinor = 0)
    (hspent : c.spentMinor = 0) (hsaved : Saved c) : Kept { s with campaigns } := by
  obtain ⟨hrows, hfresh⟩ := Table.rows_of_insert? hinsert
  have hids : ∀ id, id ∈ s.campaigns.rows.map Campaign.id →
      id ∈ campaigns.rows.map Campaign.id := by
    intro id hid
    rw [hrows, List.map_append]
    exact List.mem_append_left _ hid
  refine ⟨fun x hx => ?_, fun x hx => ?_, h.nonneg, fun r hr id hid => hids id (h.campaign r hr id hid),
    fun e he => hids _ (h.rewarded e he), h.entered, h.credited⟩
  · rw [hrows, List.mem_append, List.mem_singleton] at hx
    rcases hx with hx | rfl
    · exact h.counters x hx
    -- nothing refers to the new campaign
    have hpart : ∀ state, ∀ r ∈ s.redemptions.rows, r.part state x.id = 0 := by
      intro state r hr
      rw [PromoRedemption.part, if_neg]
      exact fun hon => hfresh (h.campaign r hr x.id hon.1)
    have hreward : ∀ e ∈ s.entries.rows, e.reward x.id = 0 := by
      intro e he
      rw [LedgerEntry.reward, if_neg]
      exact fun hon => hfresh (hon.1 ▸ h.rewarded e he)
    refine ⟨?_, ?_⟩
    · rw [hcommitted, committedMinorOf]
      exact (Table.sum_eq_zero (hpart _)).symm
    · rw [hspent, spentMinorOf, Table.sum_eq_zero (t := s.redemptions) (hpart _),
        Table.sum_eq_zero (t := s.entries) hreward, add_zero]
  · rw [hrows, List.mem_append, List.mem_singleton] at hx
    rcases hx with hx | rfl
    · exact h.saved x hx
    · exact hsaved

lemma Kept.putSame (h : Kept s) (hget : s.campaigns.get? campaign = some c) (hid : c'.id = c.id)
    (hcommitted : c'.committedMinor = c.committedMinor) (hspent : c'.spentMinor = c.spentMinor)
    (hsaved : Saved c') : Kept { s with campaigns := s.campaigns.put c' } := by
  have hrecounted : Recounted s.campaigns (s.campaigns.put c') (fun _ => 0) fun _ => 0 :=
    recounted_put h.saved hget hsaved hid ⟨by rw [hcommitted, add_zero], by rw [hspent, add_zero]⟩
      (fun _ _ => rfl) fun _ _ => rfl
  refine ⟨h.counters.recounted hrecounted (fun _ _ => (add_zero _).symm)
    fun _ _ => (add_zero _).symm, hrecounted.saved, h.nonneg, ?_, ?_, h.entered, h.credited⟩
  · rw [hrecounted.ids]
    exact h.campaign
  · rw [hrecounted.ids]
    exact h.rewarded

lemma Kept.redeemed (h : Kept s) {r : PromoRedemption} {redemptions : Table PromoRedemption.id}
    {promos : Table PromoCode.id} (hget : s.campaigns.get? campaign = some c)
    (hreserve : c.reserve now r.discountAmountMinor = .ok c')
    (hinsert : s.redemptions.insert? r = some redemptions) (hcampaign : r.campaign = some campaign)
    (hcommitted : r.state = .committed) (hnonneg : 0 ≤ r.discountAmountMinor) :
    Kept { s with campaigns := s.campaigns.put c', redemptions, promos } := by
  obtain ⟨-, hcounted, hsaved⟩ := Campaign.reserve_spec hreserve
  obtain ⟨hrows, hfresh⟩ := Table.rows_of_insert? hinsert
  have hc := Table.mem_of_get? hget
  have hpart : ∀ id, id ≠ campaign → r.part .committed id = 0 := by
    intro id hne
    rw [PromoRedemption.part, if_neg]
    exact fun hon => hne (Option.some.inj (hcampaign.symm.trans hon.1)).symm
  have hrecounted : Recounted s.campaigns (s.campaigns.put c') (fun id => r.part .committed id)
      (fun id => r.part .settled id) := by
    refine recounted_put h.saved hget hsaved hcounted.id ⟨?_, ?_⟩ hpart fun id _ =>
      part_of_ne _ (by simp [hcommitted]) id
    · rw [part_of_state _ hcampaign hcommitted]
      exact hcounted.committedMinor
    · rw [part_of_ne _ (by simp [hcommitted]), add_zero]
      exact hcounted.spentMinor
  have hkeep : ∀ id, (∃ x ∈ s.redemptions.rows, x.id = id ∧ x.state = .settled) →
      ∃ x ∈ redemptions.rows, x.id = id ∧ x.state = .settled := by
    rintro id ⟨x, hx, hxid⟩
    exact ⟨x, hrows ▸ List.mem_append_left _ hx, hxid⟩
  refine ⟨h.counters.recounted hrecounted (fun x _ => ?_) fun x _ => ?_, hrecounted.saved,
    fun x hx => ?_, fun x hx id hid => ?_, fun e he => hrecounted.ids ▸ h.rewarded e he,
    fun e he id hkey => hkeep id (h.entered e he id hkey),
    fun t ht trip id hkey => hkeep id (h.credited t ht trip id hkey)⟩
  · rw [committedMinorOf, Table.sum_insert? hinsert, committedMinorOf]
  · rw [spentMinorOf, Table.sum_insert? hinsert, spentMinorOf]
    ring
  · rw [hrows, List.mem_append, List.mem_singleton] at hx
    rcases hx with hx | rfl
    · exact h.nonneg x hx
    · exact hnonneg
  · rw [hrecounted.ids]
    rw [hrows, List.mem_append, List.mem_singleton] at hx
    rcases hx with hx | rfl
    · exact h.campaign x hx id hid
    · rw [hcampaign] at hid
      cases hid
      exact hc.2 ▸ List.mem_map_of_mem hc.1

/-- Rewards of a campaign were entered, and nothing else. -/
structure Rewarded (s s' : Db) (campaign : ℕ) (minor : ℤ) : Prop where
  campaigns : s'.campaigns = s.campaigns
  redemptions : s'.redemptions = s.redemptions
  ledger : s'.ledger = s.ledger
  sum : ∀ id, s'.entries.sum (LedgerEntry.reward id)
    = s.entries.sum (LedgerEntry.reward id) + if id = campaign then minor else 0
  rows : ∀ e ∈ s'.entries.rows, e ∈ s.entries.rows ∨
    e.campaign = campaign ∧ ∀ id, e.key ≠ .promoDiscount id

lemma Rewarded.refl (s : Db) (campaign : ℕ) : Rewarded s s campaign 0 :=
  ⟨rfl, rfl, rfl, by simp, fun _ he => .inl he⟩

lemma Rewarded.trans {minor minor' : ℤ} (h : Rewarded s s₁ campaign minor)
    (h' : Rewarded s₁ s' campaign minor') : Rewarded s s' campaign (minor + minor') := by
  refine ⟨h'.campaigns.trans h.campaigns, h'.redemptions.trans h.redemptions,
    h'.ledger.trans h.ledger, fun id => ?_, fun e he => ?_⟩
  · rw [h'.sum, h.sum]
    split <;> ring
  · rcases h'.rows e he with he | hnew
    · exact h.rows e he
    · exact .inr hnew

lemma rewarded_insertEntry {e : LedgerEntry} (hkind : e.kind ≠ .discountFunded)
    (hkey : ∀ id, e.key ≠ .promoDiscount id) (hok : s.insertEntry e = .ok s') :
    Rewarded s s' e.campaign e.amountMinor := by
  obtain ⟨-, entries, hinsert, rfl⟩ := insertEntry_eq_ok.mp hok
  refine ⟨rfl, rfl, rfl, fun id => ?_, fun x hx => ?_⟩
  · rw [Table.sum_insert? hinsert, LedgerEntry.reward]
    by_cases hid : e.campaign = id
    · rw [if_pos ⟨hid, hkind⟩, if_pos hid.symm]
    · rw [if_neg fun h => hid h.1, if_neg fun h => hid h.symm]
  · rw [(Table.rows_of_insert? hinsert).1, List.mem_append, List.mem_singleton] at hx
    rcases hx with hx | rfl
    · exact .inl hx
    · exact .inr ⟨rfl, hkey⟩

/-- A reward was spent and entered, or nothing happened. -/
def Spent (s s' : Db) : Prop :=
  s' = s ∨ ∃ now campaign minor c c', s.campaigns.get? campaign = some c ∧
    c.spendNow now minor = .ok c' ∧
    Rewarded { s with campaigns := s.campaigns.put c' } s' campaign minor

lemma Spent.kept (h : Kept s) (hspent : Spent s s') : Kept s' := by
  rcases hspent with rfl | ⟨now, campaign, minor, c, c', hget, hspend, hrewarded⟩
  · exact h
  obtain ⟨-, hcounted, hsaved⟩ := Campaign.spendNow_spec hspend
  have hc := Table.mem_of_get? hget
  have hrecounted : Recounted s.campaigns s'.campaigns (fun _ => 0)
      fun id => if id = campaign then minor else 0 := by
    rw [hrewarded.campaigns]
    refine recounted_put h.saved hget hsaved hcounted.id ⟨?_, ?_⟩ (fun _ _ => rfl)
      fun id hne => if_neg hne
    · rw [hcounted.committedMinor, add_zero]
    · rw [if_pos rfl, hcounted.spentMinor]
  refine ⟨h.counters.recounted hrecounted (fun x _ => ?_) fun x _ => ?_, hrecounted.saved,
    hrewarded.redemptions ▸ h.nonneg, fun r hr id hid => ?_, fun e he => ?_, fun e he id hkey => ?_,
    fun t ht trip id hkey => ?_⟩
  · rw [committedMinorOf, hrewarded.redemptions, committedMinorOf, add_zero]
  · rw [spentMinorOf, hrewarded.redemptions, hrewarded.sum, spentMinorOf, add_assoc]
  · rw [hrecounted.ids]
    rw [hrewarded.redemptions] at hr
    exact h.campaign r hr id hid
  · rw [hrecounted.ids]
    rcases hrewarded.rows e he with he | ⟨hcampaign, -⟩
    · exact h.rewarded e he
    · rw [hcampaign]
      exact hc.2 ▸ List.mem_map_of_mem hc.1
  · rw [hrewarded.redemptions]
    rcases hrewarded.rows e he with he | ⟨-, hnot⟩
    · exact h.entered e he id hkey
    · exact absurd hkey (hnot id)
  · rw [hrewarded.redemptions]
    rw [hrewarded.ledger] at ht
    exact h.credited t ht trip id hkey

lemma Spent.growsWithin (hspent : Spent s s') : GrowsWithin s s' := by
  rcases hspent with rfl | ⟨now, campaign, minor, c, c', hget, hspend, hrewarded⟩
  · exact growsWithin_refl _
  obtain ⟨hadmits, hcounted, -⟩ := Campaign.spendNow_spec hspend
  refine growsWithin_put hrewarded.campaigns (Campaign.used_le_of_admits hadmits hcounted ?_)
    fun x hx _ => usedBefore_of_mem hx
  rw [Campaign.usedMinor]
  ring

lemma spent_payIncentive {driver : ℕ} (hok : payIncentive now campaign driver s = .ok s') :
    Spent s s' := by
  rw [payIncentive] at hok
  split at hok
  · cases hok
    exact .inl rfl
  · cases hok
  · rename_i s₁ hchange
    obtain ⟨c, c', hget, hspend, rfl⟩ := changeCampaign_eq_ok.mp hchange
    refine .inr ⟨now, campaign, _, c, c', hget, hspend, ?_⟩
    exact rewarded_insertEntry (by simp) (by simp) hok

lemma rewarded_creditReward {user minor : ℕ} {key : EntryKey} (hkey : ∀ id, key ≠ .promoDiscount id)
    (hok : creditReward s campaign user minor key = .ok s') :
    Rewarded s s' campaign minor := by
  rw [creditReward] at hok
  split at hok
  · exact rewarded_insertEntry (by simp) hkey hok
  · rename_i hzero
    cases hok
    rw [Nat.eq_zero_of_not_pos hzero]
    exact .refl s campaign

lemma spent_payReferral {referral referrer referee : ℕ} {creditRefused : Bool}
    (hok : payReferral now referral campaign referrer referee creditRefused s = .ok s') :
    Spent s s' := by
  rw [payReferral] at hok
  split at hok
  · cases hok
  rename_i c hget
  dsimp only at hok
  split at hok
  · cases hok
    exact .inl rfl
  split at hok
  · cases hok
    exact .inl rfl
  · cases hok
  rename_i s₁ hchange
  split at hok
  · cases hok
    exact .inl rfl
  obtain ⟨s₂, hfirst, hsecond⟩ := bind_eq_ok.mp hok
  obtain ⟨c₁, c', hget₁, hspend, rfl⟩ := changeCampaign_eq_ok.mp hchange
  refine .inr ⟨now, campaign, _, c₁, c', hget₁, hspend, ?_⟩
  have hboth := (rewarded_creditReward (by simp) hfirst).trans
    (rewarded_creditReward (by simp) hsecond)
  rw [Nat.cast_add]
  exact hboth

/-- A booking wraps a code that has no campaign. -/
def Wrapped (s s₁ : Db) : Prop :=
  s₁ = s ∨ ∃ c campaigns, s.campaigns.insert? c = some campaigns ∧ c.committedMinor = 0 ∧
    c.spentMinor = 0 ∧ c.budgetMinor = none ∧ { s with campaigns } = s₁

lemma Wrapped.kept (h : Kept s) (hwrapped : Wrapped s s₁) : Kept s₁ := by
  rcases hwrapped with rfl | ⟨c, campaigns, hinsert, hcommitted, hspent, hbudget, rfl⟩
  · exact h
  · refine h.insertCampaign hinsert hcommitted hspent ⟨hcommitted.ge, hspent.ge, ?_⟩
    simp [hbudget]

lemma Wrapped.usedBefore (hwrapped : Wrapped s s₁) :
    ∀ x ∈ s₁.campaigns.rows, usedBefore s x.id = x.usedMinor := by
  intro x hx
  rcases hwrapped with rfl | ⟨c, campaigns, hinsert, hcommitted, hspent, -, rfl⟩
  · exact usedBefore_of_mem hx
  · obtain ⟨hrows, hfresh⟩ := Table.rows_of_insert? hinsert
    rw [hrows, List.mem_append, List.mem_singleton] at hx
    rcases hx with hx | rfl
    · exact usedBefore_of_mem hx
    · rw [Promotions.usedBefore, Table.get?_eq_none_iff.mpr hfresh, Campaign.usedMinor, hcommitted,
        hspent]
      rfl

lemma Wrapped.growsWithin (hwrapped : Wrapped s s₁) : GrowsWithin s s₁ := by
  intro x hx hlt
  rw [hwrapped.usedBefore x hx] at hlt
  exact absurd hlt (lt_irrefl _)

/-- A booking reserved its discount against a campaign and wrote its redemption. -/
def Redeemed (s s' : Db) (discountMinor : ℤ) : Prop :=
  ∃ now campaign c c' r redemptions promos, s.campaigns.get? campaign = some c ∧
    c.reserve now r.discountAmountMinor = .ok c' ∧ s.redemptions.insert? r = some redemptions ∧
    r.campaign = some campaign ∧ r.state = .committed ∧ r.discountAmountMinor = discountMinor ∧
    { s with campaigns := s.campaigns.put c', redemptions, promos } = s'

lemma wrapped_ensureLegacyCampaign {promo : PromoCode} {id : ℕ}
    (hok : ensureLegacyCampaign s now promo id = .ok (s₁, c)) : Wrapped s s₁ := by
  rw [ensureLegacyCampaign] at hok
  split at hok
  · cases hok
  · rename_i campaigns hinsert
    cases hok
    exact .inr ⟨_, campaigns, hinsert, rfl, rfl, rfl, rfl⟩

lemma wrapped_campaignOrLegacy {promo : PromoCode} {id : ℕ} {found : Db × Campaign}
    (hok : campaignOrLegacy s now promo id = .ok found) : Wrapped s found.1 := by
  rw [campaignOrLegacy] at hok
  split at hok
  · cases hok
    exact .inl rfl
  · exact wrapped_ensureLegacyCampaign hok

/-- A reservation was made, or the code was refused and nothing happened. -/
lemma reserveAgainst_spec {b : Booking} {answer : Except PromoRefusal ℕ}
    (hok : reserveAgainst now b s c = .ok (s', answer)) :
    s' = s ∧ (∃ e, answer = .error e) ∨
      ∃ campaign c c', answer = .ok campaign ∧ s.campaigns.get? campaign = some c ∧
        c.reserve now b.discountMinor = .ok c' ∧
        { s with campaigns := s.campaigns.put c' } = s' := by
  rw [reserveAgainst] at hok
  split at hok
  · cases hok
    exact .inl ⟨rfl, _, rfl⟩
  split at hok
  · cases hok
    exact .inl ⟨rfl, _, rfl⟩
  split at hok
  · cases hok
    exact .inl ⟨rfl, _, rfl⟩
  split at hok
  · rename_i s₁ hchange
    cases hok
    obtain ⟨c₁, c', hget, hreserve, hs'⟩ := changeCampaign_eq_ok.mp hchange
    exact .inr ⟨_, c₁, c', rfl, hget, hreserve, hs'⟩
  · cases hok
    exact .inl ⟨rfl, _, rfl⟩
  · cases hok
    exact .inl ⟨rfl, _, rfl⟩
  · cases hok

/-- What `redeem_promo` does: a code without a campaign is wrapped, and the redemption is written
with its reservation or the code is refused. -/
lemma redeemPromo_spec {b : Booking} (hok : redeemPromo now b s = .ok s') :
    ∃ s₁, Wrapped s s₁ ∧ (s' = s₁ ∨ Redeemed s₁ s' b.discountMinor) := by
  rw [redeemPromo] at hok
  split at hok
  · cases hok
    exact ⟨s, .inl rfl, .inl rfl⟩
  rename_i promo hpromo
  obtain ⟨reserved, hreserved, hrest⟩ := bind_eq_ok.mp hok
  obtain ⟨found, hfound, hagainst⟩ := bind_eq_ok.mp hreserved
  have hwrapped := wrapped_campaignOrLegacy hfound
  refine ⟨found.1, hwrapped, ?_⟩
  split at hrest
  · rename_i s₂ e
    cases hrest
    rcases reserveAgainst_spec hagainst with ⟨hs₂, -⟩ | ⟨campaign, c, c', hanswer, -⟩
    · exact .inl hs₂
    · cases hanswer
  · rename_i s₂ campaign
    rcases reserveAgainst_spec hagainst with ⟨-, e, hanswer⟩ | ⟨id, c, c', hanswer, hget, hreserve, rfl⟩
    · cases hanswer
    cases hanswer
    split at hrest
    · cases hrest
    · rename_i redemptions hinsert
      cases hrest
      refine .inr ⟨now, campaign, c, c', _, redemptions, _, hget, ?_, hinsert, rfl, rfl, rfl, rfl⟩
      exact hreserve

lemma Redeemed.kept {discountMinor : ℤ} (h : Kept s) (hnonneg : 0 ≤ discountMinor)
    (hredeemed : Redeemed s s' discountMinor) : Kept s' := by
  obtain ⟨now, campaign, c, c', r, redemptions, promos, hget, hreserve, hinsert, hcampaign,
    hcommitted, hdiscount, rfl⟩ := hredeemed
  exact h.redeemed hget hreserve hinsert hcampaign hcommitted (hdiscount ▸ hnonneg)

lemma Redeemed.growsWithin {discountMinor : ℤ} (hwrapped : Wrapped s s₁)
    (hredeemed : Redeemed s₁ s' discountMinor) : GrowsWithin s s' := by
  obtain ⟨now, campaign, c, c', r, redemptions, promos, hget, hreserve, hinsert, hcampaign,
    hcommitted, hdiscount, rfl⟩ := hredeemed
  obtain ⟨hadmits, hcounted, -⟩ := Campaign.reserve_spec hreserve
  refine growsWithin_put rfl (Campaign.used_le_of_admits hadmits hcounted ?_)
    fun x hx _ => hwrapped.usedBefore x hx
  rw [Campaign.usedMinor]
  ring

end Writes

/-! ## Discounts are not negative -/

/-- What a code takes off is not negative. -/
def PromoCode.Sensible (promo : PromoCode) : Prop :=
  match promo.discount with
  | .flat minor => 0 ≤ minor
  | .percent percent maxMinor => 0 ≤ percent ∧ ∀ cap ∈ maxMinor, 0 ≤ cap

lemma roundHalfUp_of_nonneg {q : ℚ} (h : 0 ≤ q) : roundHalfUp q = ⌊q + 1 / 2⌋ := by
  rw [roundHalfUp, if_pos h]

lemma roundHalfUp_nonneg {q : ℚ} (h : 0 ≤ q) : 0 ≤ roundHalfUp q := by
  rw [roundHalfUp_of_nonneg h]
  exact Int.floor_nonneg.mpr (by linarith)

lemma roundHalfUp_mono {q q' : ℚ} (h : 0 ≤ q) (hle : q ≤ q') : roundHalfUp q ≤ roundHalfUp q' := by
  rw [roundHalfUp_of_nonneg h, roundHalfUp_of_nonneg (h.trans hle)]
  exact Int.floor_mono (by linarith)

lemma roundFare_mono (currency : Currency) {minor minor' : ℤ} (h : 0 ≤ minor)
    (hle : minor ≤ minor') :
    roundFare currency minor ≤ roundFare currency minor' := by
  cases currency with
  | usd => exact hle
  | inr =>
      have hq : (minor : ℚ) / 100 ≤ (minor' : ℚ) / 100 := by
        have hcast : (minor : ℚ) ≤ minor' := by exact_mod_cast hle
        linarith
      have hnonneg : (0 : ℚ) ≤ (minor : ℚ) / 100 := by
        have hcast : (0 : ℚ) ≤ minor := by exact_mod_cast h
        linarith
      have hround := roundHalfUp_mono hnonneg hq
      show 100 * roundHalfUp _ ≤ 100 * roundHalfUp _
      omega

lemma computeDiscount_nonneg {promo : PromoCode} {fare : ℤ} (h : promo.Sensible) (hfare : 0 ≤ fare) :
    0 ≤ computeDiscount promo fare ∧ computeDiscount promo fare ≤ fare := by
  rw [PromoCode.Sensible] at h
  rw [computeDiscount]
  split
  · rename_i minor hdiscount
    rw [hdiscount] at h
    exact ⟨le_min h hfare, min_le_right _ _⟩
  · rename_i percent maxMinor hdiscount
    rw [hdiscount] at h
    obtain ⟨hpercent, hmax⟩ := h
    have hraw : 0 ≤ roundHalfUp (fare * percent / 100) := by
      refine roundHalfUp_nonneg (div_nonneg (mul_nonneg ?_ hpercent) (by norm_num))
      exact_mod_cast hfare
    refine ⟨le_min ?_ hfare, min_le_right _ _⟩
    cases maxMinor with
    | none => exact hraw
    | some cap => exact le_min hraw (hmax cap rfl)

/-- The discount on a fare that is a whole amount of its currency is not negative. -/
theorem payableDiscount_nonneg {promo : PromoCode} {fare : ℤ} (h : promo.Sensible)
    (hfare : 0 ≤ fare) (hwhole : roundFare promo.currency fare = fare) :
    0 ≤ payableDiscount promo fare := by
  obtain ⟨hnonneg, hle⟩ := computeDiscount_nonneg h hfare
  have hround := roundFare_mono promo.currency
    (sub_nonneg.mpr hle) (sub_le_self fare hnonneg)
  rw [hwhole] at hround
  rw [payableDiscount]
  exact sub_nonneg.mpr (max_le hfare hround)

/-- On a fare of 40.60 rupees a discount of 10 paise makes the rider pay more. -/
example : payableDiscount
    { id := 1, discount := .flat 10, currency := .inr, isActive := true, validFrom := 0,
      validTo := 10, redemptionCount := 0 } 4060 = -40 := by
  decide +kernel

/-! ## Every run -/

/-- The discounts a move is about are not negative. -/
def NonNegative (s : Db) : Move → Prop
  | .redeem _ b => 0 ≤ b.discountMinor
  | .operatorEnd _ trip capped .standard plan => 0 ≤ capped ∧ (∀ x ∈ plan, 0 ≤ x) ∧
      ∀ r ∈ s.committedOn trip, ∀ promo ∈ s.promos.get? r.promo, 0 ≤ payableDiscount promo capped
  | _ => True

def Move.honours : Move → Bool
  | .settle _ _ _ | .release _ _ | .operatorEnd _ _ _ .platformFunded _ | .sweep _ _ => true
  | _ => false

/-- The move reserves or spends. -/
def Move.admits : Move → Bool
  | .redeem _ _ | .payIncentive _ _ _ | .payReferral _ _ _ _ _ _ => true
  | _ => false

/-- A settlement or a release does not fail. -/
def Honoured (s : Db) (m : Move) : Prop := m.honours → (exec s m).2 = none

def WithinBudget (s : Db) (m : Move) : Prop := m.admits → GrowsWithin s (step s m)

/-- A release meets only campaigns with a budget, and a settlement only discounts that are not
nought. -/
def Fundable (s : Db) : Move → Prop
  | .settle _ trip _ => ∀ t ∈ s.trips.get? trip, t.platformFunded = false →
      ∀ r ∈ s.committedOn trip, r.campaign.isSome → 0 < r.discountAmountMinor
  | .release _ trip | .operatorEnd _ trip _ .platformFunded _ => ∀ t ∈ s.trips.get? trip,
      ∀ r ∈ s.committedOn t.id, Backed s r
  | .sweep _ limit => ∀ t ∈ staleTrips limit s, ∀ r ∈ s.committedOn t.id, Backed s r
  | _ => True

instance (s : Db) (m : Move) : Decidable (Honoured s m) :=
  inferInstanceAs (Decidable (m.honours = true → (exec s m).2 = none))

instance : ∀ (s : Db) (m : Move), Decidable (Fundable s m)
  | s, .settle _ trip _ => inferInstanceAs (Decidable (∀ t ∈ s.trips.get? trip,
      t.platformFunded = false → ∀ r ∈ s.committedOn trip, r.campaign.isSome → 0 < r.discountAmountMinor))
  | s, .release _ trip | s, .operatorEnd _ trip _ .platformFunded _ =>
      inferInstanceAs (Decidable (∀ t ∈ s.trips.get? trip, ∀ r ∈ s.committedOn t.id, Backed s r))
  | s, .sweep _ limit =>
      inferInstanceAs (Decidable (∀ t ∈ staleTrips limit s, ∀ r ∈ s.committedOn t.id, Backed s r))
  | _, .operatorEnd _ _ _ .standard _ | _, .redeem _ _ | _, .payIncentive _ _ _
  | _, .payReferral _ _ _ _ _ _ | _, .create _ | _, .setState _ _ | _, .setBudget _ _
  | _, .savePromo _ | _, .saveTrip _ => isTrue trivial

instance : ∀ (s : Db) (m : Move), Decidable (NonNegative s m)
  | _, .redeem _ b => inferInstanceAs (Decidable (0 ≤ b.discountMinor))
  | s, .operatorEnd _ trip capped .standard plan =>
      inferInstanceAs (Decidable (0 ≤ capped ∧ (∀ x ∈ plan, 0 ≤ x) ∧
        ∀ r ∈ s.committedOn trip, ∀ promo ∈ s.promos.get? r.promo, 0 ≤ payableDiscount promo capped))
  | _, .operatorEnd _ _ _ .platformFunded _ | _, .settle _ _ _ | _, .release _ _ | _, .sweep _ _
  | _, .payIncentive _ _ _ | _, .payReferral _ _ _ _ _ _ | _, .create _ | _, .setState _ _
  | _, .setBudget _ _ | _, .savePromo _ | _, .saveTrip _ => isTrue trivial

section Runs

variable {s : Db} {m : Move}

/-- A transaction keeps what its success keeps. -/
lemma kept_atomically {x : Except Error Db} (h : Kept s) (hok : ∀ s', x = .ok s' → Kept s') :
    Kept (atomically s x).1 := by
  cases x with
  | error e => exact h
  | ok s' => exact hok s' rfl

lemma growsWithin_atomically {x : Except Error Db} (hok : ∀ s', x = .ok s' → GrowsWithin s s') :
    GrowsWithin s (atomically s x).1 := by
  cases x with
  | error e => exact growsWithin_refl s
  | ok s' => exact hok s' rfl

lemma raised_atomically {x : Except Error Db} :
    (atomically s x).2 = none ↔ ∃ s', x = .ok s' := by
  cases x with
  | error e => simp [atomically]
  | ok s' => simp [atomically]

lemma kept_onTrip {trip : ℕ} {f : Trip → Except Error Db} (h : Kept s)
    (hok : ∀ t s', s.trips.get? trip = some t → f t = .ok s' → Kept s') :
    Kept (atomically s (onTrip s trip f)).1 := by
  refine kept_atomically h fun s' hs' => ?_
  rw [onTrip] at hs'
  split at hs'
  · cases hs'
    exact h
  · rename_i t ht
    exact hok t s' ht hs'

lemma onTrip_ok_iff {trip : ℕ} {f : Trip → Except Error Db} {P : Trip → Prop}
    (hf : ∀ t, s.trips.get? trip = some t → ((∃ s', f t = .ok s') ↔ P t)) :
    (atomically s (onTrip s trip f)).2 = none ↔ ∀ t ∈ s.trips.get? trip, P t := by
  rw [raised_atomically, onTrip]
  cases htrip : s.trips.get? trip with
  | none => simp
  | some t =>
      rw [hf t htrip]
      simp

/-- The first part of a result is there when the result is. -/
lemma exists_map_fst {α : Type} {x : Except Error (Db × α)} :
    (∃ s', x.map Prod.fst = .ok s') ↔ ∃ acc, x = .ok acc := by
  constructor
  · rintro ⟨s', hs'⟩
    obtain ⟨acc, hacc, -⟩ := map_eq_ok.mp hs'
    exact ⟨acc, hacc⟩
  · rintro ⟨acc, hacc⟩
    exact ⟨acc.1, map_eq_ok.mpr ⟨acc, hacc, rfl⟩⟩

lemma Kept.withTrips (h : Kept s) (trips : Table Trip.id) : Kept { s with trips } :=
  ⟨h.counters, h.saved, h.nonneg, h.campaign, h.rewarded, h.entered, h.credited⟩

lemma Kept.withPromos (h : Kept s) (promos : Table PromoCode.id) : Kept { s with promos } :=
  ⟨h.counters, h.saved, h.nonneg, h.campaign, h.rewarded, h.entered, h.credited⟩

/-- A campaign is written with the counters it has, under its lock. -/
lemma Kept.changeSame (h : Kept s) {campaign : ℕ} {f : Campaign → Campaign}
    (hf : ∀ c, Saved c → Saved (f c) ∧ (f c).id = c.id ∧
      (f c).committedMinor = c.committedMinor ∧ (f c).spentMinor = c.spentMinor) :
    Kept (atomically s (s.changeCampaign campaign fun c => .ok (f c))).1 := by
  refine kept_atomically h fun s' hs' => ?_
  obtain ⟨c, c', hget, hc', rfl⟩ := changeCampaign_eq_ok.mp hs'
  cases hc'
  obtain ⟨hsaved, hid, hcommitted, hspent⟩ := hf c (h.saved c (Table.mem_of_get? hget).1)
  exact h.putSame hget hid hcommitted hspent hsaved

/-- Every move keeps the counters. -/
theorem kept_step (h : Kept s) (hm : NonNegative s m) : Kept (step s m) := by
  cases m with
  | redeem now b =>
      refine kept_atomically h fun s' hs' => ?_
      -- the code may be wrapped in a campaign before it is refused
      obtain ⟨s₁, hwrapped, rfl | hredeemed⟩ := redeemPromo_spec hs'
      · exact hwrapped.kept h
      · exact hredeemed.kept (hwrapped.kept h) hm
  | settle now trip isCash =>
      refine kept_onTrip h fun t s' _ hs' => ?_
      obtain ⟨acc, hacc, rfl⟩ := map_eq_ok.mp hs'
      exact kept_settleTrip h hacc
  | release now trip =>
      refine kept_onTrip h fun t s' _ hs' => ?_
      obtain ⟨acc, hacc, rfl⟩ := map_eq_ok.mp hs'
      exact (releaseForTrip_spec h hacc).kept
  | operatorEnd now trip capped rule plan =>
      refine kept_onTrip h fun t s' ht hs' => ?_
      cases rule with
      | platformFunded =>
          obtain ⟨acc, hacc, rfl⟩ := map_eq_ok.mp hs'
          exact (releaseForTrip_spec (h.withTrips _) hacc).kept
      | standard =>
          obtain ⟨acc, hacc, rfl⟩ := map_eq_ok.mp hs'
          obtain ⟨hcapped, hplan, hdiscount⟩ := hm
          have hid : t.id = trip := Table.pk_of_get? ht
          exact kept_rework (h.withTrips _) hcapped hplan (hid ▸ hdiscount) hacc
  | sweep now limit =>
      have hspec := (releaseEach_spec now (n := 0) (sweeping_staleTrips h limit)).1
      rw [step, exec, releaseCancelled]
      split
      · rename_i s' n hs'
        rwa [hs'] at hspec
      · rename_i s' e hs'
        rwa [hs'] at hspec
  | payIncentive now campaign driver =>
      exact kept_atomically h fun s' hs' => (spent_payIncentive hs').kept h
  | payReferral now referral campaign referrer referee creditRefused =>
      exact kept_atomically h fun s' hs' => (spent_payReferral hs').kept h
  | create c =>
      refine kept_atomically h fun s' hs' => ?_
      obtain ⟨c', hsave, hrest⟩ := bind_eq_ok.mp hs'
      obtain ⟨rfl, hsaved⟩ := Campaign.save_spec hsave
      split at hrest
      · cases hrest
      · rename_i campaigns hinsert
        cases hrest
        exact h.insertCampaign hinsert rfl rfl hsaved
  | setState campaign state =>
      exact h.changeSame (f := fun c => { c with state })
        fun c hc => ⟨⟨hc.committed, hc.spent, hc.budget⟩, rfl, rfl, rfl⟩
  | setBudget campaign budget =>
      refine h.changeSame (f := fun c => { c with budgetMinor := some budget })
        fun c hc => ⟨⟨hc.committed, hc.spent, fun b hb => ?_⟩, rfl, rfl, rfl⟩
      cases hb
      exact Int.natCast_nonneg budget
  | savePromo promo => exact h.withPromos _
  | saveTrip trip => exact h.withTrips _

/-- What is admitted stays in the budget. -/
theorem withinBudget_step (s : Db) (m : Move) : WithinBudget s m := by
  intro hadmits
  cases m with
  | redeem now b =>
      refine growsWithin_atomically fun s' hs' => ?_
      obtain ⟨s₁, hwrapped, rfl | hredeemed⟩ := redeemPromo_spec hs'
      · exact hwrapped.growsWithin
      · exact hredeemed.growsWithin hwrapped
  | payIncentive now campaign driver =>
      exact growsWithin_atomically fun s' hs' => (spent_payIncentive hs').growsWithin
  | payReferral now referral campaign referrer referee creditRefused =>
      exact growsWithin_atomically fun s' hs' => (spent_payReferral hs').growsWithin
  | settle now trip isCash => cases hadmits
  | release now trip => cases hadmits
  | operatorEnd now trip capped rule plan => cases hadmits
  | sweep now limit => cases hadmits
  | create c => cases hadmits
  | setState campaign state => cases hadmits
  | setBudget campaign budget => cases hadmits
  | savePromo promo => cases hadmits
  | saveTrip trip => cases hadmits

lemma honoured_iff (h : m.honours = true) : Honoured s m ↔ (exec s m).2 = none :=
  ⟨fun hm => hm h, fun hm _ => hm⟩

/-- A settlement or a release goes through exactly when it can be funded. -/
theorem honoured_iff_fundable (h : Kept s) : Honoured s m ↔ Fundable s m := by
  cases m with
  | settle now trip isCash =>
      rw [honoured_iff rfl, exec, Fundable]
      refine onTrip_ok_iff fun t ht => ?_
      rw [exists_map_fst, settleTrip_ok_iff h, Table.pk_of_get? ht]
  | release now trip =>
      rw [honoured_iff rfl, exec, Fundable]
      refine onTrip_ok_iff fun t ht => ?_
      rw [exists_map_fst, releaseForTrip_ok_iff now t h]
  | operatorEnd now trip capped rule plan =>
      cases rule with
      | platformFunded =>
          rw [honoured_iff rfl, exec, Fundable]
          refine onTrip_ok_iff fun t ht => ?_
          rw [applyOperatorEnd, exists_map_fst, releaseForTrip_ok_iff now _ (h.withTrips _)]
          exact Iff.rfl
      | standard => simp [Honoured, Move.honours, Fundable]
  | sweep now limit =>
      have hspec := (releaseEach_spec now (n := 0) (sweeping_staleTrips h limit)).2
      rw [honoured_iff rfl, Fundable, ← hspec, exec, releaseCancelled]
      split
      · rename_i s' n hs'
        simp [hs']
      · rename_i s' e hs'
        simp [hs']
  | redeem now b => simp [Honoured, Move.honours, Fundable]
  | payIncentive now campaign driver => simp [Honoured, Move.honours, Fundable]
  | payReferral now referral campaign referrer referee creditRefused =>
      simp [Honoured, Move.honours, Fundable]
  | create c => simp [Honoured, Move.honours, Fundable]
  | setState campaign state => simp [Honoured, Move.honours, Fundable]
  | setBudget campaign budget => simp [Honoured, Move.honours, Fundable]
  | savePromo promo => simp [Honoured, Move.honours, Fundable]
  | saveTrip trip => simp [Honoured, Move.honours, Fundable]

/-- Nothing has been redeemed or paid yet. -/
structure Opening (s : Db) : Prop where
  counters : ∀ c ∈ s.campaigns.rows, c.committedMinor = 0 ∧ c.spentMinor = 0
  budgets : ∀ c ∈ s.campaigns.rows, ∀ budget ∈ c.budgetMinor, 0 ≤ budget
  redemptions : s.redemptions.rows = []
  entries : s.entries.rows = []
  credits : ∀ t ∈ s.ledger.rows, ∀ trip id, t.idempotencyKey ≠ .tripPromo trip id

lemma Opening.kept (h : Opening s) : Kept s := by
  have hnone : ∀ r, r ∉ s.redemptions.rows := by simp [h.redemptions]
  have hempty : ∀ e, e ∉ s.entries.rows := by simp [h.entries]
  refine ⟨fun c hc => ?_, fun c hc => ?_, fun r hr => absurd hr (hnone r),
    fun r hr => absurd hr (hnone r), fun e he => absurd he (hempty e),
    fun e he => absurd he (hempty e), fun t ht trip id hkey => absurd hkey (h.credits t ht trip id)⟩
  · obtain ⟨hcommitted, hspent⟩ := h.counters c hc
    rw [hcommitted, hspent, committedMinorOf, spentMinorOf, Table.sum, Table.sum, Table.sum,
      h.redemptions, h.entries]
    exact ⟨rfl, rfl⟩
  · obtain ⟨hcommitted, hspent⟩ := h.counters c hc
    exact ⟨hcommitted.ge, hspent.ge, h.budgets c hc⟩

/-- The counters hold at the end of the run, what was admitted was in the budget, and no
settlement or release failed. -/
def BudgetKept (s : Db) (ms : List Move) : Prop :=
  CountersHold (Transition.run step s ms) ∧ Transition.Guarded step WithinBudget s ms ∧
    Transition.Guarded step Honoured s ms

/-- The counters hold after every run, and what is admitted is in the budget; no settlement and
no release fails exactly when each can be funded. -/
theorem budgetKept_iff_fundable {ms : List Move} (h : Opening s)
    (hrun : Transition.Guarded step NonNegative s ms) :
    BudgetKept s ms ↔ Transition.Guarded step Fundable s ms := by
  have hkept : Kept (Transition.run step s ms) :=
    Transition.invariant_of_guarded (fun s m hm hs => kept_step hs hm) h.kept hrun
  have hwithin : Transition.Guarded step WithinBudget s ms :=
    Transition.guarded_of_invariant (fun s m hm hs => kept_step hs hm)
      (fun s m _ _ => withinBudget_step s m) h.kept hrun
  rw [← Transition.guarded_iff_of_invariant (fun s m hm hs => kept_step hs hm)
    (fun s m _ hs => honoured_iff_fundable hs) h.kept hrun]
  constructor
  · exact fun hall => hall.2.2
  · exact fun hhonoured => ⟨hkept.counters, hwithin, hhonoured⟩

end Runs

/-! ### A code with a campaign and one without -/

/-- A campaign of 1000 rupees for the first of two codes. -/
def twoCodes : Db where
  campaigns :=
    ⟨[{ id := 1
        kind := .riderPromo
        state := .live
        promoCode := some 1
        budgetMinor := some 100000
        committedMinor := 0
        spentMinor := 0
        overshootMinor := 0
        startsAt := some 0
        endsAt := some 100
        exhaustedAt := none
        config :=
          { flat := true
            discountFlatMinor := 5000
            rewardMinor := 0
            referrerRewardMinor := 0
            refereeRewardMinor := 0 } }], by decide⟩
  promos :=
    ⟨[{ id := 1, discount := .flat 5000, currency := .inr, isActive := true, validFrom := 0
        validTo := 100, redemptionCount := 0 },
      { id := 2, discount := .flat 3000, currency := .inr, isActive := true, validFrom := 0
        validTo := 100, redemptionCount := 0 }], by decide⟩
  redemptions := .empty
  trips := .empty
  entries := .empty
  wallets := .empty
  ledger := .empty

/-- A trip of rider 7 with the driver whose user is 8. -/
def tripOf (id : ℕ) (cancelled : Bool) : Trip := ⟨id, 7, some 8, cancelled, false⟩

/-- The rider books a trip with a code. -/
def bookWith (promo trip : ℕ) (discountMinor : ℤ) : List Move :=
  [.saveTrip (tripOf trip false),
    .redeem 10
      { promo
        user := 7
        trip := some trip
        discountMinor
        inPlace := true
        notNew := false
        campaignId := 2
        redemptionId := trip }]

def completedAndCancelled : List Move :=
  bookWith 1 1 5000 ++ [.settle 20 1 true] ++ bookWith 1 2 5000 ++
    [.saveTrip (tripOf 2 true), .release 30 2, .sweep 40 500]

/-- A trip that is cancelled gives its discount back to a campaign with a budget. -/
theorem completed_and_cancelled_kept : BudgetKept twoCodes completedAndCancelled := by
  have hopening : Opening twoCodes := by
    refine ⟨?_, ?_, rfl, rfl, ?_⟩ <;> simp [twoCodes, Table.empty]
  exact (budgetKept_iff_fundable hopening (by decide +kernel)).mpr (by decide +kernel)

/-- A code of one percent. -/
def onePercent : PromoCode where
  id := 1
  discount := .percent 1 none
  currency := .inr
  isActive := true
  validFrom := 0
  validTo := 100
  redemptionCount := 0

/-- The code of one percent, without a campaign. -/
def percentCode : Db :=
  { twoCodes with
    campaigns := .empty
    promos := ⟨[onePercent], by decide⟩ }

/-- The discount of a code without a campaign is not released, and the discount of one percent on
40 rupees, which is nought in whole rupees, is not settled. -/
theorem unbudgeted_release_fails :
    ¬ BudgetKept twoCodes (bookWith 2 1 3000 ++ [.saveTrip (tripOf 1 true), .release 20 1]) ∧
      ¬ BudgetKept percentCode
        (bookWith 1 1 (payableDiscount onePercent 4000) ++ [.settle 20 1 false]) := by
  constructor
  · rintro ⟨-, -, hhonoured⟩
    exact absurd hhonoured (by decide +kernel)
  · rintro ⟨-, -, hhonoured⟩
    exact absurd hhonoured (by decide +kernel)

end SaaradhiGo.Promotions
