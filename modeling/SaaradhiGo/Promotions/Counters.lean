/-
The counters of a campaign.

What is committed is the sum of the committed redemptions, and what is spent the sum of the
settled ones and of the rewards that were paid.  Every operation keeps that, since each changes a
counter by what it changes in the rows; a counter is never cut off at nought, as no part of a sum
is more than the sum.
-/
import SaaradhiGo.Promotions.Redemption
import SaaradhiGo.Lib.Fallible

namespace SaaradhiGo.Promotions

open SaaradhiGo.Money Fallible

/-! ## The sums -/

def PromoRedemption.part (state : RedemptionState) (campaign : ℕ) (r : PromoRedemption) : ℤ :=
  if r.campaign = some campaign ∧ r.state = state then r.discountAmountMinor else 0

def LedgerEntry.reward (campaign : ℕ) (e : LedgerEntry) : ℤ :=
  if e.campaign = campaign ∧ e.kind ≠ .discountFunded then e.amountMinor else 0

def committedMinorOf (s : Db) (campaign : ℕ) : ℤ :=
  s.redemptions.sum (PromoRedemption.part .committed campaign)

def spentMinorOf (s : Db) (campaign : ℕ) : ℤ :=
  s.redemptions.sum (PromoRedemption.part .settled campaign) +
    s.entries.sum (LedgerEntry.reward campaign)

/-- Each counter is the sum it stands for. -/
def CountersHold (s : Db) : Prop :=
  ∀ c ∈ s.campaigns.rows, c.committedMinor = committedMinorOf s c.id ∧
    c.spentMinor = spentMinorOf s c.id

/-! ## The invariant -/

/-- What every operation keeps. -/
structure Kept (s : Db) : Prop where
  counters : CountersHold s
  saved : ∀ c ∈ s.campaigns.rows, Saved c
  nonneg : ∀ r ∈ s.redemptions.rows, 0 ≤ r.discountAmountMinor
  campaign : ∀ r ∈ s.redemptions.rows, ∀ id ∈ r.campaign, id ∈ s.campaigns.rows.map Campaign.id
  rewarded : ∀ e ∈ s.entries.rows, e.campaign ∈ s.campaigns.rows.map Campaign.id
  /-- a discount is entered with the settlement of its redemption -/
  entered : ∀ e ∈ s.entries.rows, ∀ id, e.key = .promoDiscount id →
    ∃ r ∈ s.redemptions.rows, r.id = id ∧ r.state = .settled
  credited : ∀ t ∈ s.ledger.rows, ∀ trip id, t.idempotencyKey = .tripPromo trip id →
    ∃ r ∈ s.redemptions.rows, r.id = id ∧ r.state = .settled

/-- The campaigns, with counters that were changed by these amounts. -/
structure Recounted (before after : Table Campaign.id) (committed spent : ℕ → ℤ) : Prop where
  ids : after.rows.map Campaign.id = before.rows.map Campaign.id
  saved : ∀ c ∈ after.rows, Saved c
  counted : ∀ c' ∈ after.rows, ∃ c ∈ before.rows, c'.id = c.id ∧
    c'.committedMinor = c.committedMinor + committed c.id ∧
    c'.spentMinor = c.spentMinor + spent c.id

section Sums

variable {s s' : Db} {r r' : PromoRedemption} {campaign : ℕ}

lemma part_nonneg (h : 0 ≤ r.discountAmountMinor) (state : RedemptionState) :
    0 ≤ r.part state campaign := by
  rw [PromoRedemption.part]
  split
  · exact h
  · exact le_refl 0

lemma le_committedMinorOf (h : Kept s) (hr : r ∈ s.redemptions.rows)
    (hcampaign : r.campaign = some campaign) (hcommitted : r.state = .committed) :
    r.discountAmountMinor ≤ committedMinorOf s campaign := by
  have hle := Table.le_sum (f := PromoRedemption.part .committed campaign)
    (fun r hr => part_nonneg (h.nonneg r hr) _) hr
  rw [PromoRedemption.part, if_pos ⟨hcampaign, hcommitted⟩] at hle
  exact hle

lemma recounted_refl (h : ∀ c ∈ s.campaigns.rows, Saved c) {committed spent : ℕ → ℤ}
    (hcommitted : ∀ c ∈ s.campaigns.rows, committed c.id = 0)
    (hspent : ∀ c ∈ s.campaigns.rows, spent c.id = 0) :
    Recounted s.campaigns s.campaigns committed spent := by
  refine ⟨rfl, h, fun c hc => ⟨c, hc, rfl, ?_⟩⟩
  rw [hcommitted c hc, hspent c hc, add_zero, add_zero]
  exact ⟨rfl, rfl⟩

lemma recounted_put {campaigns : Table Campaign.id} {c c' : Campaign} {committed spent : ℕ → ℤ}
    (hsaved : ∀ c ∈ campaigns.rows, Saved c) (hget : campaigns.get? campaign = some c)
    (hsaved' : Saved c') (hid : c'.id = c.id)
    (hcounted : c'.committedMinor = c.committedMinor + committed campaign ∧
      c'.spentMinor = c.spentMinor + spent campaign)
    (hcommitted : ∀ id, id ≠ campaign → committed id = 0)
    (hspent : ∀ id, id ≠ campaign → spent id = 0) :
    Recounted campaigns (campaigns.put c') committed spent := by
  obtain ⟨hc, rfl⟩ := Table.mem_of_get? hget
  have hmem : c'.id ∈ campaigns.rows.map Campaign.id := hid ▸ List.mem_map_of_mem hc
  refine ⟨Table.map_pk_put_of_mem hmem, fun x hx => ?_, fun x hx => ?_⟩
  · rcases Table.mem_put.mp hx with rfl | ⟨hx, -⟩
    · exact hsaved'
    · exact hsaved x hx
  · rcases Table.mem_put.mp hx with rfl | ⟨hx, hne⟩
    · exact ⟨c, hc, hid, hcounted⟩
    · rw [hid] at hne
      refine ⟨x, hx, rfl, ?_⟩
      rw [hcommitted _ hne, hspent _ hne, add_zero, add_zero]
      exact ⟨rfl, rfl⟩

/-- The counters hold again when the sums have changed by the same amounts. -/
lemma CountersHold.recounted {committed spent : ℕ → ℤ} (h : CountersHold s)
    (hcampaigns : Recounted s.campaigns s'.campaigns committed spent)
    (hcommitted : ∀ c ∈ s.campaigns.rows,
      committedMinorOf s' c.id = committedMinorOf s c.id + committed c.id)
    (hspent : ∀ c ∈ s.campaigns.rows, spentMinorOf s' c.id = spentMinorOf s c.id + spent c.id) :
    CountersHold s' := by
  intro c' hc'
  obtain ⟨c, hc, hid, hcommitted', hspent'⟩ := hcampaigns.counted c' hc'
  obtain ⟨hcommitted_c, hspent_c⟩ := h c hc
  rw [hid, hcommitted', hspent', hcommitted c hc, hspent c hc, ← hcommitted_c, ← hspent_c]
  exact ⟨rfl, rfl⟩

end Sums

/-! ## Writing a redemption -/

def budgetOf (s : Db) (campaign : ℕ) : Option (Option ℤ) :=
  (s.campaigns.get? campaign).map Campaign.budgetMinor

def Backed (s : Db) (r : PromoRedemption) : Prop :=
  ∀ campaign ∈ r.campaign, budgetOf s campaign ≠ some none

instance (s : Db) (r : PromoRedemption) : Decidable (Backed s r) :=
  inferInstanceAs (Decidable (∀ campaign ∈ r.campaign, budgetOf s campaign ≠ some none))

/-- A redemption was written, and nothing else that the invariant reads but a counter and an
entry. -/
structure Wrote (s s' : Db) (r' : PromoRedemption) : Prop where
  kept : Kept s'
  redemptions : s'.redemptions = s.redemptions.put r'
  budgets : budgetOf s' = budgetOf s

section Write

variable {s s' : Db} {r r' : PromoRedemption} {campaign now : ℕ} {f : Campaign → Except Error Campaign}

lemma changeCampaign_eq_ok : s.changeCampaign campaign f = .ok s' ↔
    ∃ c c', s.campaigns.get? campaign = some c ∧ f c = .ok c' ∧
      { s with campaigns := s.campaigns.put c' } = s' := by
  rw [Db.changeCampaign]
  split
  · rename_i hnone
    simp [hnone]
  · rename_i c hget
    rw [map_eq_ok, hget]
    constructor
    · rintro ⟨c', hf, hs'⟩
      exact ⟨c, c', rfl, hf, hs'⟩
    · rintro ⟨c₁, c', hc, hf, hs'⟩
      cases hc
      exact ⟨c', hf, hs'⟩

lemma budgetOf_put {c c' : Campaign} {committed spent : ℤ}
    (hget : s.campaigns.get? campaign = some c) (hcounted : Counted c c' committed spent) :
    budgetOf { s with campaigns := s.campaigns.put c' } = budgetOf s := by
  obtain ⟨-, rfl⟩ := Table.mem_of_get? hget
  funext id
  rw [budgetOf, budgetOf, Table.get?_put, hcounted.id]
  by_cases h : id = c.id
  · rw [if_pos h, h, hget, Option.map_some, Option.map_some, hcounted.budgetMinor]
  · rw [if_neg h]

/-- A committed redemption has no entry and no credit yet, so both stay right when it is
written. -/
lemma settled_put (hget : s.redemptions.get? r.id = some r) (hcommitted : r.state = .committed)
    (hid : r'.id = r.id) {id : ℕ} (h : ∃ x ∈ s.redemptions.rows, x.id = id ∧ x.state = .settled) :
    ∃ x ∈ (s.redemptions.put r').rows, x.id = id ∧ x.state = .settled := by
  obtain ⟨x, hx, hxid, hsettled⟩ := h
  refine ⟨x, Table.mem_put.mpr (.inr ⟨hx, fun hsame => ?_⟩), hxid, hsettled⟩
  have hxr : x = r := by
    have hgx := Table.mem_iff_get?.mp hx
    rw [hsame, hid, hget] at hgx
    exact (Option.some.inj hgx).symm
  rw [hxr, hcommitted] at hsettled
  cases hsettled

lemma Kept.rewrite (h : Kept s) (hget : s.redemptions.get? r.id = some r)
    (hcommitted : r.state = .committed) (hid : r'.id = r.id) (hcampaign : r'.campaign = r.campaign)
    (hnonneg : 0 ≤ r'.discountAmountMinor) {campaigns : Table Campaign.id}
    (hrecounted : Recounted s.campaigns campaigns
      (fun id => r'.part .committed id - r.part .committed id)
      (fun id => r'.part .settled id - r.part .settled id)) :
    Kept { s with campaigns, redemptions := s.redemptions.put r' } := by
  have hgetid : s.redemptions.get? r'.id = some r := by rw [hid, hget]
  have hr := (Table.mem_of_get? hget).1
  refine
    { counters := h.counters.recounted hrecounted (fun c _ => ?_) fun c _ => ?_
      saved := hrecounted.saved
      nonneg := fun x hx => ?_
      campaign := fun x hx id hxid => ?_
      rewarded := fun e he => ?_
      entered := fun e he id hkey => settled_put hget hcommitted hid (h.entered e he id hkey)
      credited := fun t ht trip id hkey =>
        settled_put hget hcommitted hid (h.credited t ht trip id hkey) }
  · rw [committedMinorOf, Table.sum_put hgetid, committedMinorOf]
    ring
  · rw [spentMinorOf, Table.sum_put hgetid, spentMinorOf]
    ring
  · rcases Table.mem_put.mp hx with rfl | ⟨hx, -⟩
    · exact hnonneg
    · exact h.nonneg x hx
  · rw [hrecounted.ids]
    rcases Table.mem_put.mp hx with rfl | ⟨hx, -⟩
    · exact h.campaign r hr id (hcampaign ▸ hxid)
    · exact h.campaign x hx id hxid
  · rw [hrecounted.ids]
    exact h.rewarded e he

/-- The campaign of a redemption exists, and has at least the discount committed. -/
lemma Kept.campaignOf (h : Kept s) (hget : s.redemptions.get? r.id = some r)
    (hcommitted : r.state = .committed) (hcampaign : r.campaign = some campaign) :
    ∃ c, s.campaigns.get? campaign = some c ∧ Saved c ∧
      r.discountAmountMinor ≤ c.committedMinor := by
  have hr := (Table.mem_of_get? hget).1
  obtain ⟨c, hc, rfl⟩ := List.mem_map.mp (h.campaign r hr campaign hcampaign)
  refine ⟨c, Table.mem_iff_get?.mp hc, h.saved c hc, ?_⟩
  rw [(h.counters c hc).1]
  exact le_committedMinorOf h hr hcampaign hcommitted

/-- The redemption of a campaign is written with the change of the counters that belongs to it. -/
lemma Kept.wrote (r' : PromoRedemption) (h : Kept s) (hget : s.redemptions.get? r.id = some r)
    (hcommitted : r.state = .committed) (hcampaign : r.campaign = some campaign)
    (hid : r'.id = r.id) (hsame : r'.campaign = r.campaign) (hnonneg : 0 ≤ r'.discountAmountMinor)
    {c c' : Campaign} (hc : s.campaigns.get? campaign = some c) (hsaved : Saved c')
    (hcounted : Counted c c'
      (c.committedMinor + (r'.part .committed campaign - r.part .committed campaign))
      (c.spentMinor + (r'.part .settled campaign - r.part .settled campaign))) :
    Wrote s { s with campaigns := s.campaigns.put c', redemptions := s.redemptions.put r' } r' := by
  have hpart : ∀ id, id ≠ campaign → ∀ state,
      r'.part state id - r.part state id = 0 := by
    intro id hne state
    have hother : r.campaign ≠ some id := by
      rw [hcampaign]
      exact fun heq => hne (Option.some.inj heq).symm
    rw [PromoRedemption.part, PromoRedemption.part, if_neg fun hx => hother (hsame ▸ hx.1),
      if_neg fun hx => hother hx.1, sub_zero]
  refine ⟨?_, rfl, budgetOf_put (s := s) hc hcounted⟩
  exact h.rewrite hget hcommitted hid hsame hnonneg
    (recounted_put h.saved hc hsaved hcounted.id ⟨hcounted.committedMinor, hcounted.spentMinor⟩
      (fun id hne => hpart id hne _) fun id hne => hpart id hne _)

/-- A redemption without a campaign counts nowhere. -/
lemma Kept.wrote_none (r' : PromoRedemption) (h : Kept s) (hget : s.redemptions.get? r.id = some r)
    (hcommitted : r.state = .committed) (hcampaign : r.campaign = none) (hid : r'.id = r.id)
    (hsame : r'.campaign = r.campaign) (hnonneg : 0 ≤ r'.discountAmountMinor) :
    Wrote s (s.putRedemption r') r' := by
  have hpart : ∀ id state, r'.part state id - r.part state id = 0 := by
    intro id state
    simp [PromoRedemption.part, hsame, hcampaign]
  refine ⟨?_, rfl, rfl⟩
  exact h.rewrite hget hcommitted hid hsame hnonneg
    (recounted_refl h.saved (fun c _ => hpart c.id _) fun c _ => hpart c.id _)

lemma part_of_state (state : RedemptionState) (hcampaign : r.campaign = some campaign)
    (hstate : r.state = state) : r.part state campaign = r.discountAmountMinor := by
  rw [PromoRedemption.part, if_pos ⟨hcampaign, hstate⟩]

lemma part_of_ne (state : RedemptionState) (hstate : r.state ≠ state) (campaign : ℕ) :
    r.part state campaign = 0 := by
  rw [PromoRedemption.part, if_neg fun h => hstate h.2]

lemma Wrote.of_promos {s₁ : Db} (h : Wrote s s₁ r') (promos : Table PromoCode.id) :
    Wrote s { s₁ with promos } r' :=
  ⟨⟨h.kept.counters, h.kept.saved, h.kept.nonneg, h.kept.campaign, h.kept.rewarded,
    h.kept.entered, h.kept.credited⟩, h.redemptions, h.budgets⟩

/-! ## Release -/

lemma wrote_releaseRedemption {acc acc' : Db × ℤ} (h : Kept acc.1)
    (hget : acc.1.redemptions.get? r.id = some r) (hcommitted : r.state = .committed)
    (hok : releaseRedemption now acc r = .ok acc') :
    Wrote acc.1 acc'.1 (r.withState .released) := by
  have hr := (Table.mem_of_get? hget).1
  rw [releaseRedemption, bind_eq_ok] at hok
  obtain ⟨s₁, hchange, hrest⟩ := hok
  cases hrest
  cases hcampaign : r.campaign with
  | none =>
      rw [hcampaign] at hchange
      cases hchange
      exact (h.wrote_none (r.withState .released) hget hcommitted hcampaign rfl rfl
        (h.nonneg r hr)).of_promos _
  | some campaign =>
      rw [hcampaign] at hchange
      obtain ⟨c, c', hc, hrelease, rfl⟩ := changeCampaign_eq_ok.mp hchange
      obtain ⟨c₁, hc₁, hsaved, hle⟩ := h.campaignOf hget hcommitted hcampaign
      rw [hc] at hc₁
      cases hc₁
      have hbudget : c.budgetMinor.isSome := by
        by_contra hnone
        rw [Option.not_isSome_iff_eq_none] at hnone
        rw [Campaign.release_of_no_budget hnone] at hrelease
        cases hrelease
      obtain ⟨c₁, hok, hcounted, hsaved'⟩ := Campaign.release_ok now
        r.discountAmountMinor hsaved hbudget
      rw [hok] at hrelease
      cases hrelease
      refine (h.wrote (r.withState .released) hget hcommitted hcampaign rfl rfl
        (h.nonneg r hr) hc hsaved' ?_).of_promos _
      rw [part_of_ne (r := r.withState .released) .committed (by simp [PromoRedemption.withState]),
        part_of_state .committed hcampaign hcommitted,
        part_of_ne (r := r.withState .released) .settled (by simp [PromoRedemption.withState]),
        part_of_ne .settled (by simp [hcommitted]), sub_zero, add_zero, zero_sub]
      rwa [max_eq_right (sub_nonneg.mpr hle)] at hcounted

lemma releaseRedemption_ok_iff {acc : Db × ℤ} (h : Kept acc.1)
    (hget : acc.1.redemptions.get? r.id = some r) (hcommitted : r.state = .committed) :
    (∃ acc', releaseRedemption now acc r = .ok acc') ↔ Backed acc.1 r := by
  constructor
  · rintro ⟨acc', hok⟩ campaign hcampaign hnone
    rw [releaseRedemption, bind_eq_ok] at hok
    obtain ⟨s₁, hchange, -⟩ := hok
    rw [Option.mem_def.mp hcampaign] at hchange
    obtain ⟨c, c', hc, hrelease, -⟩ := changeCampaign_eq_ok.mp hchange
    rw [budgetOf, hc, Option.map_some, Option.some.injEq] at hnone
    rw [Campaign.release_of_no_budget hnone] at hrelease
    cases hrelease
  · intro hbacked
    cases hcampaign : r.campaign with
    | none => exact ⟨_, by rw [releaseRedemption, hcampaign]; rfl⟩
    | some campaign =>
        obtain ⟨c, hc, hsaved, -⟩ := h.campaignOf hget hcommitted hcampaign
        have hbudget : c.budgetMinor.isSome := by
          by_contra hnone
          rw [Option.not_isSome_iff_eq_none] at hnone
          refine hbacked campaign hcampaign ?_
          rw [budgetOf, hc, Option.map_some, hnone]
        obtain ⟨c', hok, -, -⟩ := Campaign.release_ok now
          r.discountAmountMinor hsaved hbudget
        have hchange := changeCampaign_eq_ok.mpr ⟨c, c', hc, hok, rfl⟩
        exact ⟨_, by rw [releaseRedemption, hcampaign, Db.onCampaign, hchange]; rfl⟩

/-! ## Settlement -/

lemma insertEntry_eq_ok {e : LedgerEntry} : s.insertEntry e = .ok s' ↔
    0 < e.amountMinor ∧ ∃ entries, s.entries.insert? e = some entries ∧
      { s with entries } = s' := by
  rw [Db.insertEntry]
  by_cases hpos : 0 < e.amountMinor
  · rw [if_pos hpos]
    cases hinsert : s.entries.insert? e with
    | none => simp
    | some entries => simp [hpos]
  · rw [if_neg hpos]
    simp [hpos]

lemma Kept.insertDiscount (h : Kept s) {e : LedgerEntry} (hkind : e.kind = .discountFunded)
    (hkey : e.key = .promoDiscount r.id) (hcampaign : e.campaign ∈ s.campaigns.rows.map Campaign.id)
    (hsettled : ∃ x ∈ s.redemptions.rows, x.id = r.id ∧ x.state = .settled)
    (hok : s.insertEntry e = .ok s') :
    Kept s' ∧ s'.campaigns = s.campaigns ∧ s'.redemptions = s.redemptions := by
  obtain ⟨-, entries, hinsert, rfl⟩ := insertEntry_eq_ok.mp hok
  have hrows := (Table.rows_of_insert? hinsert).1
  refine ⟨⟨fun c hc => ?_, h.saved, h.nonneg, h.campaign, fun x hx => ?_, fun x hx id hxid => ?_,
    h.credited⟩, rfl, rfl⟩
  · have hnothing : e.reward c.id = 0 := by simp [LedgerEntry.reward, hkind]
    obtain ⟨hcommitted, hspent⟩ := h.counters c hc
    refine ⟨hcommitted, ?_⟩
    rw [hspent, spentMinorOf, spentMinorOf, Table.sum_insert? hinsert, hnothing, add_zero]
  · rw [hrows, List.mem_append, List.mem_singleton] at hx
    rcases hx with hx | rfl
    · exact h.rewarded x hx
    · exact hcampaign
  · rw [hrows, List.mem_append, List.mem_singleton] at hx
    rcases hx with hx | rfl
    · exact h.entered x hx id hxid
    · rw [hkey] at hxid
      cases hxid
      exact hsettled

lemma Kept.payDriver (h : Kept s) {trip : Trip} {isCash : Bool}
    (hsettled : ∃ x ∈ s.redemptions.rows, x.id = r.id ∧ x.state = .settled)
    (hok : s.payDriver trip isCash r = .ok s') :
    Kept s' ∧ s'.campaigns = s.campaigns ∧ s'.redemptions = s.redemptions ∧
      s'.entries = s.entries := by
  unfold Db.payDriver at hok
  split at hok
  · rw [Db.creditDriver] at hok
    split at hok
    · cases hok
    rename_i ledger hinsert
    cases hok
    have hrows := (Table.rows_of_insert? hinsert).1
    refine ⟨⟨h.counters, h.saved, h.nonneg, h.campaign, h.rewarded, h.entered,
      fun t ht trip' id hkey => ?_⟩, rfl, rfl, rfl⟩
    rw [hrows, List.mem_append, List.mem_singleton] at ht
    rcases ht with ht | rfl
    · exact h.credited t ht trip' id hkey
    · cases hkey
      exact hsettled
  · cases hok
    exact ⟨h, rfl, rfl, rfl⟩

lemma payDriver_ok (trip : Trip) (isCash : Bool)
    (hnew : ∀ t ∈ s.ledger.rows, t.idempotencyKey ≠ .tripPromo trip.id r.id) :
    ∃ s', s.payDriver trip isCash r = .ok s' ∧ s'.entries = s.entries := by
  unfold Db.payDriver
  split
  · rename_i driver hdriver
    rw [Db.creditDriver]
    split
    · rename_i hnone
      obtain ⟨t, ht, hkey⟩ := List.mem_map.mp (Table.insert?_eq_none_iff.mp hnone)
      exact absurd hkey (hnew t ht)
    · exact ⟨_, rfl, rfl⟩
  · exact ⟨s, rfl, rfl⟩

/-- The counters and the row of a settlement, before the money is entered. -/
lemma Kept.settled (h : Kept s) (hget : s.redemptions.get? r.id = some r)
    (hcommitted : r.state = .committed) (hcampaign : r.campaign = some campaign)
    {s₁ : Db} (hchange : s.changeCampaign campaign
      (Campaign.settle now r.discountAmountMinor none) = .ok s₁) :
    Wrote s (s₁.putRedemption (r.withState .settled)) (r.withState .settled) ∧
      s₁.entries = s.entries ∧ s₁.ledger = s.ledger := by
  have hr := (Table.mem_of_get? hget).1
  obtain ⟨c, c', hc, hsettle, rfl⟩ := changeCampaign_eq_ok.mp hchange
  obtain ⟨c₁, hc₁, hsaved, hle⟩ := h.campaignOf hget hcommitted hcampaign
  rw [hc] at hc₁
  cases hc₁
  obtain ⟨c₁, hok, hcounted, hsaved'⟩ := Campaign.settle_ok now hsaved (h.nonneg r hr)
  rw [hok] at hsettle
  cases hsettle
  refine ⟨h.wrote (r.withState .settled) hget hcommitted hcampaign rfl rfl
    (h.nonneg r hr) hc hsaved' ?_, rfl, rfl⟩
  rw [part_of_ne (r := r.withState .settled) .committed (by simp [PromoRedemption.withState]),
    part_of_state .committed hcampaign hcommitted,
    part_of_state (r := r.withState .settled) .settled hcampaign rfl,
    part_of_ne .settled (by simp [hcommitted]), sub_zero, zero_sub]
  rwa [max_eq_right (sub_nonneg.mpr hle)] at hcounted

lemma mem_putRedemption (s : Db) (r : PromoRedemption) : r ∈ (s.putRedemption r).redemptions.rows :=
  Table.mem_put.mpr (.inl rfl)

lemma wrote_settleRedemption {acc acc' : Db × ℤ} {trip : Trip} {isCash : Bool} (h : Kept acc.1)
    (hget : acc.1.redemptions.get? r.id = some r) (hcommitted : r.state = .committed)
    (hok : settleRedemption now trip isCash acc r = .ok acc') :
    (r.campaign = none ∧ acc' = acc) ∨ Wrote acc.1 acc'.1 (r.withState .settled) := by
  rw [settleRedemption] at hok
  split at hok
  · rename_i hcampaign
    cases hok
    exact .inl ⟨hcampaign, rfl⟩
  · rename_i campaign hcampaign
    obtain ⟨s₁, hchange, hrest⟩ := bind_eq_ok.mp hok
    obtain ⟨s₂, hpay, hrest⟩ := bind_eq_ok.mp hrest
    obtain ⟨s₃, hinsert, hlast⟩ := bind_eq_ok.mp hrest
    cases hlast
    obtain ⟨hwrote, -, -⟩ := h.settled hget hcommitted hcampaign hchange
    have hsettled : ∃ x ∈ (s₁.putRedemption (r.withState .settled)).redemptions.rows,
        x.id = r.id ∧ x.state = .settled :=
      ⟨_, mem_putRedemption s₁ (r.withState .settled), rfl, rfl⟩
    obtain ⟨hpaid, hcampaigns, hredemptions, -⟩ := hwrote.kept.payDriver hsettled hpay
    have hknown : campaign ∈ s₂.campaigns.rows.map Campaign.id :=
      hpaid.campaign (r.withState .settled) (hredemptions ▸ mem_putRedemption s₁ _) campaign
        hcampaign
    obtain ⟨hkept, hcampaigns', hredemptions'⟩ := hpaid.insertDiscount (r := r) rfl rfl hknown
      (hredemptions ▸ hsettled) hinsert
    refine .inr ⟨hkept, hredemptions'.trans (hredemptions.trans hwrote.redemptions), ?_⟩
    have hbudgets : budgetOf s₃ = budgetOf (s₁.putRedemption (r.withState .settled)) := by
      funext id
      rw [budgetOf, budgetOf, hcampaigns', hcampaigns]
    exact hbudgets.trans hwrote.budgets

/-- A settlement goes through exactly when there is a discount. -/
lemma settleRedemption_ok_iff {acc : Db × ℤ} {trip : Trip} {isCash : Bool} (h : Kept acc.1)
    (hget : acc.1.redemptions.get? r.id = some r) (hcommitted : r.state = .committed) :
    (∃ acc', settleRedemption now trip isCash acc r = .ok acc') ↔
      (r.campaign.isSome → 0 < r.discountAmountMinor) := by
  have hr := (Table.mem_of_get? hget).1
  -- no row that is settled has the id of a committed one
  have hopen : ¬ ∃ x ∈ acc.1.redemptions.rows, x.id = r.id ∧ x.state = .settled := by
    rintro ⟨x, hx, hid, hsettled⟩
    have hgx := Table.mem_iff_get?.mp hx
    rw [hid, hget] at hgx
    rw [← Option.some.inj hgx, hcommitted] at hsettled
    cases hsettled
  constructor
  · rintro ⟨acc', hok⟩ hsome
    obtain ⟨campaign, hcampaign⟩ := Option.isSome_iff_exists.mp hsome
    rw [settleRedemption, hcampaign] at hok
    obtain ⟨s₁, -, hrest⟩ := bind_eq_ok.mp hok
    obtain ⟨s₂, -, hrest⟩ := bind_eq_ok.mp hrest
    obtain ⟨s₃, hinsert, -⟩ := bind_eq_ok.mp hrest
    exact (insertEntry_eq_ok.mp hinsert).1
  · intro hpos
    cases hcampaign : r.campaign with
    | none => exact ⟨acc, by rw [settleRedemption, hcampaign]⟩
    | some campaign =>
        obtain ⟨c, hc, hsaved, -⟩ := h.campaignOf hget hcommitted hcampaign
        obtain ⟨c', hsettle, -, -⟩ := Campaign.settle_ok now hsaved (h.nonneg r hr)
        have hchange := changeCampaign_eq_ok.mpr ⟨c, c', hc, hsettle, rfl⟩
        obtain ⟨-, hentries, hledger⟩ := h.settled hget hcommitted hcampaign hchange
        obtain ⟨s₂, hpay, hentries₂⟩ := payDriver_ok
          (s := Db.putRedemption { acc.1 with campaigns := acc.1.campaigns.put c' }
            (r.withState .settled)) (r := r) trip isCash
          fun t ht hkey => hopen (h.credited t ht trip.id r.id hkey)
        obtain ⟨entries, hinsert, -⟩ := Table.insert?_of_notMem (t := s₂.entries)
          (r := { kind := .discountFunded, campaign, user := trip.user, trip := some trip.id
                  amountMinor := r.discountAmountMinor, key := .promoDiscount r.id }) <| by
            rw [hentries₂]
            intro hmem
            obtain ⟨e, he, hkey⟩ := List.mem_map.mp hmem
            exact hopen (h.entered e he r.id hkey)
        have hentry := insertEntry_eq_ok.mpr ⟨hpos (by simp [hcampaign]), entries, hinsert, rfl⟩
        refine ⟨({ s₂ with entries }, acc.2 + r.discountAmountMinor), ?_⟩
        rw [settleRedemption, hcampaign]
        exact bind_eq_ok.mpr ⟨_, hchange, bind_eq_ok.mpr ⟨s₂, hpay, bind_eq_ok.mpr
          ⟨_, hentry, rfl⟩⟩⟩

/-! ## Operator end -/

lemma wrote_adjustRedemption {acc acc' : Db × Option ℤ} {capped : ℤ} (h : Kept acc.1)
    (hget : acc.1.redemptions.get? r.id = some r) (hcommitted : r.state = .committed)
    (hnonneg : ∀ promo ∈ acc.1.promos.get? r.promo, 0 ≤ (reworked promo capped acc.2).1)
    (hok : adjustRedemption now capped acc r = .ok acc') :
    ∃ promo, acc.1.promos.get? r.promo = some promo ∧ acc'.2 = (reworked promo capped acc.2).2 ∧
      acc'.1.promos = acc.1.promos ∧
      Wrote acc.1 acc'.1 (r.withDiscount (reworked promo capped acc.2).1) := by
  rw [adjustRedemption] at hok
  split at hok
  · cases hok
  rename_i promo hpromo
  have hnew := hnonneg promo hpromo
  generalize hreworked : reworked promo capped acc.2 = work at hok hnew
  obtain ⟨new, left⟩ := work
  dsimp only at hok hnew
  obtain ⟨s₁, hchange, hlast⟩ := bind_eq_ok.mp hok
  cases hlast
  refine ⟨promo, hpromo, by rw [hreworked], ?_, ?_⟩
  · unfold Db.onCampaign at hchange
    split at hchange
    · cases hchange
      rfl
    · obtain ⟨c, c', -, -, rfl⟩ := changeCampaign_eq_ok.mp hchange
      rfl
  rw [hreworked]
  dsimp only
  -- the discount stays, or the campaign takes the difference
  by_cases hsame : new = r.discountAmountMinor
  · rw [if_neg (by simpa using hsame)] at hchange
    cases hchange
    have hr : r.withDiscount new = r := by
      rw [hsame]
      rfl
    rw [hr]
    refine ⟨h.rewrite hget hcommitted rfl rfl (hsame ▸ hnew) ?_, rfl, rfl⟩
    exact recounted_refl h.saved (fun _ _ => sub_self _) fun _ _ => sub_self _
  rw [if_pos hsame] at hchange
  cases hcampaign : r.campaign with
  | none =>
      rw [hcampaign] at hchange
      cases hchange
      exact h.wrote_none (r.withDiscount new) hget hcommitted hcampaign rfl rfl hnew
  | some campaign =>
      rw [hcampaign] at hchange
      obtain ⟨c, c', hc, hadjust, rfl⟩ := changeCampaign_eq_ok.mp hchange
      obtain ⟨c₁, hc₁, hsaved, hle⟩ := h.campaignOf hget hcommitted hcampaign
      rw [hc] at hc₁
      cases hc₁
      obtain ⟨c₁, hok, hcounted, hsaved'⟩ := Campaign.adjustReservation_ok now hsaved
        r.discountAmountMinor new
      rw [hok] at hadjust
      cases hadjust
      refine h.wrote (r.withDiscount new) hget hcommitted hcampaign rfl rfl hnew hc hsaved' ?_
      have hroom : 0 ≤ c.committedMinor - r.discountAmountMinor + new :=
        add_nonneg (sub_nonneg.mpr hle) hnew
      rw [part_of_state (r := r.withDiscount new) .committed hcampaign hcommitted,
        part_of_state .committed hcampaign hcommitted,
        part_of_ne (r := r.withDiscount new) .settled
          (by simp [PromoRedemption.withDiscount, hcommitted]),
        part_of_ne .settled (by simp [hcommitted]), sub_zero, add_zero]
      rw [max_eq_right hroom] at hcounted
      have hsum : c.committedMinor - r.discountAmountMinor + new
          = c.committedMinor + ((r.withDiscount new).discountAmountMinor -
            r.discountAmountMinor) := by
        show _ = c.committedMinor + (new - r.discountAmountMinor)
        ring
      exact hsum ▸ hcounted

end Write

end SaaradhiGo.Promotions
