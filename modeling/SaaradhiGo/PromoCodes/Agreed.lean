/-
What a rider is shown can be booked.

The preview and the redemption of a code check the same rules, but the preview asks the budget for
the discount before the fare is rounded, and lets a code without a campaign pass that the
redemption first wraps in one.  The two agree exactly when neither makes a difference
(`agree_iff`).
-/
import SaaradhiGo.PromoCodes.Apply

namespace SaaradhiGo.PromoCodes

open SaaradhiGo.Money SaaradhiGo.Promotions
open SaaradhiGo.Pricing (toMinor fromMinor)

/-! ## Agreement -/

/-- The redemption was accepted. -/
def Booked (booked : Except Raised (PromoResult × Service)) : Prop :=
  ∃ r, booked = .ok r ∧ r.1.ok = true

/-- A code is shown as accepted exactly when it can be booked, at the same discount, fare and
tax. -/
def Agree (shown : PromoResult) (booked : Except Raised (PromoResult × Service)) : Prop :=
  (shown.ok = true ↔ Booked booked) ∧
    ∀ r, booked = .ok r → shown.ok = true → r.1.ok = true →
      r.1.discountAmount = shown.discountAmount ∧ r.1.finalFare = shown.finalFare ∧
        r.1.taxAmount = shown.taxAmount ∧ r.1.taxRelief = shown.taxRelief

section Agree

variable {shown accepted : PromoResult} {booked : Except Raised (PromoResult × Service)}

/-- Where both can only report the same, they agree when both accept or none does. -/
lemma agree_iff_of_same (hshown : shown.ok = true → shown = accepted)
    (hbooked : ∀ r, booked = .ok r → r.1.ok = true → r.1 = accepted) :
    Agree shown booked ↔ (shown.ok = true ↔ Booked booked) := by
  constructor
  · exact And.left
  · intro h
    refine ⟨h, fun r hr hok hok' => ?_⟩
    rw [hbooked r hr hok', hshown hok]
    exact ⟨rfl, rfl, rfl, rfl⟩

lemma agree_of_refused (hshown : shown.ok = false) (hbooked : ∀ r, booked = .ok r → r.1.ok = false) :
    Agree shown booked := by
  refine ⟨⟨fun h => ?_, ?_⟩, fun r _ h => ?_⟩
  · rw [hshown] at h
    cases h
  · rintro ⟨r, hr, hok⟩
    rw [hbooked r hr] at hok
    cases hok
  · rw [hshown] at h
    cases h

end Agree

/-! ## The rules -/

/-- The code's own rules admit the rider: its window, its zone, its minimum fare and its limits. -/
structure Passes (dir : Directory) (s : Service) (now : ℕ) (q : Query) (promo : PromoCode) :
    Prop where
  validFrom : promo.validFrom ≤ q.time.getD now
  validTo : q.time.getD now < promo.validTo
  zone : ∀ zone ∈ (dir.terms promo.id).zone, ∃ pickup ∈ q.zone, pickup.id = zone.id
  minFare : fromMinor (dir.terms promo.id).minFareMinor promo.currency ≤ q.fare
  userLimit : s.userCount promo.id q.user < (dir.terms promo.id).maxPerUserRedemptions
  limit : limitReached (dir.terms promo.id) promo = false

def adjusted (q : Query) (promo : PromoCode) : Option Adjusted :=
  taxAdjust promo q.zone q.fare (computeDiscount promo q.fare) q.tax

def quotedMinor (q : Query) (promo : PromoCode) : ℤ :=
  toMinor (quotedDiscount promo q.fare (adjusted q promo)) promo.currency

def bookedMinor (q : Query) (promo : PromoCode) : ℤ :=
  toMinor (roundedDiscount promo q.fare (adjusted q promo)).1 promo.currency

/-- A campaign that is live serves the rider at the pickup. -/
structure Serves (dir : Directory) (s : Service) (q : Query) (c : Campaign) : Prop where
  live : c.state = .live
  inPlace : inPlace (s.audience c.id).geoNode q.zone = true
  rider : notNew dir (s.audience c.id) q.user = false

def reserved (c : Campaign) (amountMinor : ℤ) : Campaign :=
  { c with committedMinor := c.committedMinor + amountMinor }

/-- The preview and the redemption of a code agree on its campaign: one that serves the rider
admits the one amount exactly when it admits the other, and a code without a campaign can be
wrapped in one that serves the rider now. -/
def Backed (dir : Directory) (s : Service) (now : ℕ) (q : Query) (promo : PromoCode) : Prop :=
  match campaignFor s.db promo.id with
  | none =>
      legacyState now promo = .live ∧ inPlace (legacyNode dir promo) q.zone = true ∧
        0 ≤ bookedMinor q promo
  | some c =>
      Serves dir s q c →
        (c.admits (quotedMinor q promo) = true ↔
          c.admits (bookedMinor q promo) = true ∧ Saved (reserved c (bookedMinor q promo)))

/-- When preview and redemption agree: there is one code of that text and its campaign is asked
for what it can give, or its own rules or the campaign refuse it in both. -/
def Agreeable (dir : Directory) (s : Service) (now : ℕ) (q : Query) : Prop :=
  match s.codes dir q.code with
  | [] => True
  | [promo] => promo.isActive = true → Passes dir s now q promo → Backed dir s now q promo
  | promos =>
      -- `get` raises, so the preview must refuse the latest one that is active
      ∀ promo ∈ Service.latest (promos.filter (·.isActive)), Passes dir s now q promo →
        ∃ c ∈ campaignFor s.db promo.id,
          ¬ (Serves dir s q c ∧ c.admits (quotedMinor q promo) = true)

/-! ## The preview -/

section Preview

variable {dir : Directory} {s : Service} {now : ℕ} {q : Query} {promo : PromoCode}

lemma serves_iff {c : Campaign} : Serves dir s q c ↔ c.state = .live ∧
    inPlace (s.audience c.id).geoNode q.zone = true ∧
    notNew dir (s.audience c.id) q.user = false :=
  ⟨fun h => ⟨h.live, h.inPlace, h.rider⟩, fun h => ⟨h.1, h.2.1, h.2.2⟩⟩

lemma previewRefusal_eq_none_iff {discount : ℚ} :
    previewRefusal dir s promo q.user discount q.zone = none ↔
      ∀ c ∈ campaignFor s.db promo.id,
        Serves dir s q c ∧ c.admits (toMinor discount promo.currency) = true := by
  rw [previewRefusal]
  cases campaignFor s.db promo.id with
  | none => simp
  | some c =>
      simp only [Option.mem_def, Option.some.injEq, forall_eq', serves_iff]
      by_cases hlive : c.state = .live
      · by_cases hplace : inPlace (s.audience c.id).geoNode q.zone = true
        · by_cases hnew : notNew dir (s.audience c.id) q.user = true
          · simp [hlive, hplace, hnew]
          · by_cases hadmits : c.admits (toMinor discount promo.currency) = true
            · simp [hlive, hplace, hnew, hadmits]
            · simp [hlive, hplace, hnew, hadmits]
        · simp [hlive, hplace]
      · simp [hlive]

lemma zone_of_preview {zone pickup : Option PickupZone} :
    (∀ z ∈ zone, ∃ p ∈ pickup, p.id = z.id) ↔
      ¬ (zone.any fun z => pickup.any fun p => p.id ≠ z.id) = true ∧
        ¬ (zone.isSome && pickup.isNone) = true := by
  cases zone <;> cases pickup <;> simp

lemma zone_of_redemption {zone pickup : Option PickupZone} :
    (∀ z ∈ zone, ∃ p ∈ pickup, p.id = z.id) ↔
      ¬ (zone.any fun z => pickup.all fun p => p.id ≠ z.id) = true := by
  cases zone <;> cases pickup <;> simp

/-- What the preview answers for a code whose rules admit the rider. -/
lemma applyPromo_of_passes
    (hlatest : Service.latest ((s.codes dir q.code).filter (·.isActive)) = some promo)
    (h : Passes dir s now q promo) :
    applyPromo dir s now q =
      match previewRefusal dir s promo q.user (quotedDiscount promo q.fare (adjusted q promo))
        q.zone with
      | some reason => .refused q.code reason ""
      | none => .accepted (dir.terms promo.id) promo
          (roundedDiscount promo q.fare (adjusted q promo)) (adjusted q promo) := by
  have hzone := zone_of_preview.mp h.zone
  rw [applyPromo, hlatest]
  dsimp only
  rw [if_neg (not_lt.mpr h.validFrom), if_neg (not_le.mpr h.validTo), if_neg hzone.1,
    if_neg hzone.2, if_neg (not_lt.mpr h.minFare), if_neg (not_le.mpr h.userLimit),
    if_neg (by simp [h.limit])]
  rfl

/-- A code whose rules do not admit the rider is refused in the preview. -/
lemma applyPromo_of_not_passes
    (hlatest : Service.latest ((s.codes dir q.code).filter (·.isActive)) = some promo)
    (h : ¬ Passes dir s now q promo) : (applyPromo dir s now q).ok = false := by
  rw [applyPromo, hlatest]
  dsimp only
  split_ifs with hfrom hto hzone hpickup hfare huser hlimit
  · rfl
  · rfl
  · rfl
  · rfl
  · rfl
  · rfl
  · rfl
  · exact absurd ⟨not_lt.mp hfrom, not_le.mp hto, zone_of_preview.mpr ⟨hzone, hpickup⟩,
      not_lt.mp hfare, not_le.mp huser, by simpa using hlimit⟩ h

lemma applyPromo_of_none
    (hlatest : Service.latest ((s.codes dir q.code).filter (·.isActive)) = none) :
    (applyPromo dir s now q).ok = false := by
  rw [applyPromo, hlatest]
  rfl

end Preview

/-! ## The redemption -/

section Redemption

variable {dir : Directory} {s : Service} {now : ℕ} {q : Query} {promo : PromoCode}
  {trip : Option ℕ}

/-- What the redemption of a code does whose rules admit the rider. -/
lemma redeemPromo_of_passes (hcodes : s.codes dir q.code = [promo]) (hactive : promo.isActive = true)
    (h : Passes dir s now q promo) :
    redeemPromo dir s now q trip =
      match s.claim dir now promo q trip
        (roundedDiscount promo q.fare (adjusted q promo)).1 with
      | .error e => .error e
      | .ok (s, some reason) => .ok (.refused q.code reason "", s)
      | .ok (s, none) => .ok (.accepted (dir.terms promo.id) promo
          (roundedDiscount promo q.fare (adjusted q promo)) (adjusted q promo),
          s.relieve trip (adjusted q promo) promo.currency) := by
  rw [redeemPromo, hcodes]
  dsimp only
  rw [if_neg (by simp [hactive]), if_neg (not_lt.mpr h.validFrom), if_neg (not_le.mpr h.validTo),
    if_neg (zone_of_redemption.mp h.zone), if_neg (not_lt.mpr h.minFare),
    if_neg (not_le.mpr h.userLimit), if_neg (by simp [h.limit])]
  rfl

/-- A code whose rules do not admit the rider cannot be redeemed. -/
lemma redeemPromo_of_not_passes (trip : Option ℕ) (hcodes : s.codes dir q.code = [promo])
    (h : ¬ (promo.isActive = true ∧ Passes dir s now q promo)) :
    ∃ reason, redeemPromo dir s now q trip = .ok (.refused q.code reason "", s) := by
  rw [redeemPromo, hcodes]
  dsimp only
  split_ifs with hactive hfrom hto hzone hfare huser hlimit
  · exact ⟨_, rfl⟩
  · exact ⟨_, rfl⟩
  · exact ⟨_, rfl⟩
  · exact ⟨_, rfl⟩
  · exact ⟨_, rfl⟩
  · exact ⟨_, rfl⟩
  · exact ⟨_, rfl⟩
  · exact absurd ⟨by simpa using hactive, not_lt.mp hfrom, not_le.mp hto,
      zone_of_redemption.mpr hzone, not_lt.mp hfare, not_le.mp huser, by simpa using hlimit⟩ h

end Redemption

/-! ## The reservation -/

section Reservation

variable {now : ℕ} {b : Booking} {db db' : Db} {c : Campaign} {id : ℕ}

/-- A reservation is made exactly when the budget admits it and the row can be written. -/
lemma reserve_ok_iff {amountMinor : ℤ} : (∃ c', c.reserve now amountMinor = .ok c') ↔
    c.admits amountMinor = true ∧ Saved (reserved c amountMinor) := by
  constructor
  · rintro ⟨c', h⟩
    refine ⟨(Campaign.reserve_spec h).1, ?_⟩
    rw [Campaign.reserve] at h
    split at h
    · cases h
    · split at h
      · cases h
      · exact Campaign.saved_of_afterChange h
  · rintro ⟨hadmits, hsaved⟩
    have hlive : c.state = .live := by
      by_contra hne
      rw [Campaign.admits, if_pos hne] at hadmits
      cases hadmits
    obtain ⟨c', hok, -⟩ := Campaign.afterChange_ok now hsaved
    refine ⟨c', ?_⟩
    rw [Campaign.reserve, if_neg (not_not.mpr hlive), hadmits]
    exact hok

/-- What a booking asks of a campaign in the table. -/
structure Reserves (b : Booking) (c : Campaign) : Prop where
  live : c.state = .live
  inPlace : b.inPlace = true
  rider : b.notNew = false
  admits : c.admits b.discountMinor = true
  saved : Saved (reserved c b.discountMinor)

lemma reserveAgainst_ok (hget : db.campaigns.get? c.id = some c) (h : Reserves b c) :
    ∃ db', reserveAgainst now b db c = .ok (db', .ok c.id) ∧ db'.redemptions = db.redemptions := by
  obtain ⟨c', hc'⟩ := reserve_ok_iff.mpr ⟨h.admits, h.saved⟩
  refine ⟨{ db with campaigns := db.campaigns.put c' }, ?_, rfl⟩
  have hchange : db.changeCampaign c.id (Campaign.reserve now b.discountMinor) =
      .ok { db with campaigns := db.campaigns.put c' } := by
    rw [Db.changeCampaign, hget]
    dsimp only
    rw [hc']
    rfl
  rw [reserveAgainst, if_neg (not_not.mpr h.live), if_neg (by simp [h.inPlace]),
    if_neg (by simp [h.rider]), hchange]

lemma reserves_of_ok (hget : db.campaigns.get? c.id = some c)
    (h : reserveAgainst now b db c = .ok (db', .ok id)) : Reserves b c := by
  rw [reserveAgainst] at h
  split at h
  · cases h
  rename_i hlive
  split at h
  · cases h
  rename_i hplace
  split at h
  · cases h
  rename_i hrider
  rw [Db.changeCampaign, hget] at h
  dsimp only at h
  cases hreserve : c.reserve now b.discountMinor with
  | error e =>
      rw [hreserve] at h
      cases e with
      | refused code => cases code <;> cases h
      | typeError => cases h
      | integrityError => cases h
      | doesNotExist => cases h
  | ok c' =>
      have hok := reserve_ok_iff.mp ⟨c', hreserve⟩
      exact ⟨not_not.mp hlive, by simpa using hplace, by simpa using hrider, hok.1, hok.2⟩

end Reservation

section Claim

variable {dir : Directory} {s : Service} {now : ℕ} {q : Query} {promo : PromoCode}
  {trip : Option ℕ} {discount : ℚ}

/-- A code is claimed once its campaign is reserved against: the key of the redemption is new. -/
lemma claim_ok_iff : (∃ s', s.claim dir now promo q trip discount = .ok (s', none)) ↔
    ∃ db' id, reserveForRedemption now promo (s.booking dir promo q trip discount) s.db =
      .ok (db', .ok id) ∧ db'.redemptions.get? s.db.redemptions.nextKey = none := by
  rw [Service.claim]
  dsimp only
  cases hreserve : reserveForRedemption now promo (s.booking dir promo q trip discount) s.db with
  | error e => simp
  | ok r =>
      obtain ⟨db', reserved⟩ := r
      cases reserved with
      | error refusal => simp
      | ok id =>
          dsimp only
          cases hinsert : db'.redemptions.insert?
              (redemptionOf promo (s.booking dir promo q trip discount) id discount) with
          | none =>
              constructor
              · rintro ⟨s', hs'⟩
                cases hs'
              · rintro ⟨db'', id', heq, hfree⟩
                cases heq
                rw [Table.insert?_eq_some.mpr ⟨hfree, rfl⟩] at hinsert
                cases hinsert
          | some redemptions =>
              constructor
              · rintro -
                exact ⟨db', id, rfl, (Table.insert?_eq_some.mp hinsert).1⟩
              · rintro -
                exact ⟨_, rfl⟩

lemma get?_of_campaignFor {db : Db} {code : ℕ} {c : Campaign} (h : campaignFor db code = some c) :
    db.campaigns.get? c.id = some c := Table.mem_iff_get?.mp (List.mem_of_find?_eq_some h)

/-- A code that has a campaign is claimed exactly when that can be reserved against. -/
lemma claim_of_campaign {c : Campaign} (hc : campaignFor s.db promo.id = some c) :
    (∃ s', s.claim dir now promo q trip discount = .ok (s', none)) ↔
      Serves dir s q c ∧ c.admits (toMinor discount promo.currency) = true ∧
        Saved (reserved c (toMinor discount promo.currency)) := by
  have hget := get?_of_campaignFor hc
  have haudience : s.audienceFor dir promo = s.audience c.id := by
    rw [Service.audienceFor, hc]
  have hreserve : reserveForRedemption now promo (s.booking dir promo q trip discount) s.db =
      reserveAgainst now (s.booking dir promo q trip discount) s.db c := by
    rw [reserveForRedemption, campaignOrLegacy, hc]
    rfl
  rw [claim_ok_iff, hreserve]
  constructor
  · rintro ⟨db', id, hok, -⟩
    have h := reserves_of_ok hget hok
    have hplace := h.inPlace
    have hrider := h.rider
    simp only [Service.booking, haudience] at hplace hrider
    exact ⟨⟨h.live, hplace, hrider⟩, h.admits, h.saved⟩
  · rintro ⟨hserves, hadmits, hsaved⟩
    have h : Reserves (s.booking dir promo q trip discount) c :=
      { live := hserves.live
        inPlace := by simpa only [Service.booking, haudience] using hserves.inPlace
        rider := by simpa only [Service.booking, haudience] using hserves.rider
        admits := hadmits
        saved := hsaved }
    obtain ⟨db', hok, hredemptions⟩ := reserveAgainst_ok hget h
    refine ⟨db', c.id, hok, ?_⟩
    rw [hredemptions, Table.get?_eq_none_iff]
    exact Table.nextKey_notMem _

/-- The campaign of a code that had none. -/
structure WrapsNow (now : ℕ) (promo : PromoCode) (c : Campaign) : Prop where
  state : c.state = legacyState now promo
  budgetMinor : c.budgetMinor = none
  committedMinor : c.committedMinor = 0
  spentMinor : c.spentMinor = 0

lemma ensureLegacyCampaign_ok (db : Db) (now : ℕ) (promo : PromoCode) :
    ∃ db' c, ensureLegacyCampaign db now promo db.campaigns.nextKey = .ok (db', c) ∧
      WrapsNow now promo c ∧ db'.campaigns.get? c.id = some c ∧
      db'.redemptions = db.redemptions := by
  have hinsert : ∀ c : Campaign, c.id = db.campaigns.nextKey →
      db.campaigns.insert? c = some (db.campaigns.put c) := fun c hid =>
    Table.insert?_eq_some.mpr
      ⟨Table.get?_eq_none_iff.mpr (hid ▸ Table.nextKey_notMem db.campaigns), rfl⟩
  rw [ensureLegacyCampaign, hinsert _ rfl]
  exact ⟨_, _, rfl, ⟨rfl, rfl, rfl, rfl⟩, Table.get?_put_self _ _, rfl⟩

/-- A code that has none is claimed exactly when it is in its window now, its place has the pickup
and something is taken off. -/
lemma claim_of_none (hc : campaignFor s.db promo.id = none) :
    (∃ s', s.claim dir now promo q trip discount = .ok (s', none)) ↔
      legacyState now promo = .live ∧ inPlace (legacyNode dir promo) q.zone = true ∧
        0 ≤ toMinor discount promo.currency := by
  have haudience : s.audienceFor dir promo = ⟨legacyNode dir promo, false⟩ := by
    rw [Service.audienceFor, hc]
  obtain ⟨db₁, c, hwrap, hcampaign, hget, hredemptions⟩ :=
    ensureLegacyCampaign_ok s.db now promo
  have hreserve : reserveForRedemption now promo (s.booking dir promo q trip discount) s.db =
      reserveAgainst now (s.booking dir promo q trip discount) db₁ c := by
    rw [reserveForRedemption, campaignOrLegacy, hc,
      show (s.booking dir promo q trip discount).campaignId = s.db.campaigns.nextKey from rfl, hwrap]
    rfl
  rw [claim_ok_iff, hreserve]
  constructor
  · rintro ⟨db', id, hok, -⟩
    have h := reserves_of_ok hget hok
    have hplace := h.inPlace
    simp only [Service.booking, haudience] at hplace
    refine ⟨hcampaign.state.symm.trans h.live, hplace, ?_⟩
    have hcommitted := h.saved.committed
    change 0 ≤ c.committedMinor + toMinor discount promo.currency at hcommitted
    rwa [hcampaign.committedMinor, zero_add] at hcommitted
  · rintro ⟨hlive, hplace, hamount⟩
    have h : Reserves (s.booking dir promo q trip discount) c :=
      { live := hcampaign.state.trans hlive
        inPlace := by simpa only [Service.booking, haudience] using hplace
        rider := by simp only [Service.booking, haudience, notNew, Bool.false_and]
        admits := by
          rw [Campaign.admits, if_neg (not_not.mpr (hcampaign.state.trans hlive)),
            hcampaign.budgetMinor, Option.all_none]
        saved := by
          refine ⟨?_, ?_, ?_⟩
          · show 0 ≤ c.committedMinor + toMinor discount promo.currency
            rw [hcampaign.committedMinor, zero_add]
            exact hamount
          · show 0 ≤ c.spentMinor
            rw [hcampaign.spentMinor]
          · show ∀ budget ∈ c.budgetMinor, 0 ≤ budget
            rw [hcampaign.budgetMinor]
            simp }
    obtain ⟨db', hok, hkept⟩ := reserveAgainst_ok hget h
    refine ⟨db', c.id, hok, ?_⟩
    rw [hkept, hredemptions, Table.get?_eq_none_iff]
    exact Table.nextKey_notMem _

/-- A code whose rules admit the rider can be booked exactly when it is claimed. -/
lemma booked_iff (hcodes : s.codes dir q.code = [promo]) (hactive : promo.isActive = true)
    (h : Passes dir s now q promo) :
    Booked (redeemPromo dir s now q trip) ↔ ∃ s', s.claim dir now promo q trip
      (roundedDiscount promo q.fare (adjusted q promo)).1 = .ok (s', none) := by
  rw [Booked, redeemPromo_of_passes hcodes hactive h]
  cases s.claim dir now promo q trip (roundedDiscount promo q.fare (adjusted q promo)).1 with
  | error e => simp
  | ok r =>
      obtain ⟨s', reason⟩ := r
      cases reason with
      | some reason => simp [PromoResult.refused]
      | none => simp [PromoResult.accepted]

end Claim

/-! ## Preview and redemption -/

section Agreed

variable {dir : Directory} {s : Service} {now : ℕ} {q : Query} {promo : PromoCode}

/-- The preview accepts a code whose rules admit the rider unless its campaign stands in the
way. -/
lemma shown_iff (hlatest : Service.latest ((s.codes dir q.code).filter (·.isActive)) = some promo)
    (h : Passes dir s now q promo) :
    (applyPromo dir s now q).ok = true ↔ ∀ c ∈ campaignFor s.db promo.id,
      Serves dir s q c ∧ c.admits (quotedMinor q promo) = true := by
  rw [applyPromo_of_passes hlatest h, quotedMinor, ← previewRefusal_eq_none_iff]
  cases previewRefusal dir s promo q.user (quotedDiscount promo q.fare (adjusted q promo))
    q.zone with
  | none => simp [PromoResult.accepted]
  | some reason => simp [PromoResult.refused]

lemma applyPromo_eq_of_ok
    (hlatest : Service.latest ((s.codes dir q.code).filter (·.isActive)) = some promo)
    (h : Passes dir s now q promo) (hok : (applyPromo dir s now q).ok = true) :
    applyPromo dir s now q = .accepted (dir.terms promo.id) promo
      (roundedDiscount promo q.fare (adjusted q promo)) (adjusted q promo) := by
  rw [applyPromo_of_passes hlatest h] at hok ⊢
  cases hrefusal : previewRefusal dir s promo q.user
      (quotedDiscount promo q.fare (adjusted q promo)) q.zone with
  | none => rfl
  | some reason =>
      rw [hrefusal] at hok
      cases hok

lemma redeemPromo_eq_of_ok {trip : Option ℕ} {r : PromoResult × Service}
    (hcodes : s.codes dir q.code = [promo]) (hactive : promo.isActive = true)
    (h : Passes dir s now q promo) (hr : redeemPromo dir s now q trip = .ok r)
    (hok : r.1.ok = true) :
    r.1 = .accepted (dir.terms promo.id) promo
      (roundedDiscount promo q.fare (adjusted q promo)) (adjusted q promo) := by
  rw [redeemPromo_of_passes hcodes hactive h] at hr
  cases hclaim : s.claim dir now promo q trip
      (roundedDiscount promo q.fare (adjusted q promo)).1 with
  | error e =>
      rw [hclaim] at hr
      cases hr
  | ok claimed =>
      obtain ⟨s', reason⟩ := claimed
      rw [hclaim] at hr
      cases reason with
      | some reason =>
          cases hr
          cases hok
      | none =>
          cases hr
          rfl

/-- A code of one text: preview and redemption agree exactly when the campaign is asked for what
it can give. -/
lemma agree_iff_of_passes (trip : Option ℕ) (hcodes : s.codes dir q.code = [promo])
    (hactive : promo.isActive = true) (h : Passes dir s now q promo) :
    Agree (applyPromo dir s now q) (redeemPromo dir s now q trip) ↔ Backed dir s now q promo := by
  have hlatest : Service.latest ((s.codes dir q.code).filter (·.isActive)) = some promo := by
    rw [hcodes, List.filter_cons_of_pos hactive]
    rfl
  rw [agree_iff_of_same (applyPromo_eq_of_ok hlatest h)
      (fun r hr hok => redeemPromo_eq_of_ok hcodes hactive h hr hok),
    shown_iff hlatest h, booked_iff hcodes hactive h, Backed]
  cases hc : campaignFor s.db promo.id with
  | none =>
      rw [claim_of_none hc]
      exact ⟨fun hiff => hiff.mp (fun _ hmem => by cases hmem), fun hall => ⟨fun _ => hall,
        fun _ _ hmem => by cases hmem⟩⟩
  | some c =>
      rw [claim_of_campaign hc]
      simp only [Option.mem_def, Option.some.injEq, forall_eq']
      constructor
      · intro hiff hserves
        constructor
        · intro hadmits
          exact (hiff.mp ⟨hserves, hadmits⟩).2
        · intro hbooked
          exact (hiff.mpr ⟨hserves, hbooked⟩).2
      · intro himp
        constructor
        · rintro ⟨hserves, hadmits⟩
          exact ⟨hserves, (himp hserves).mp hadmits⟩
        · rintro ⟨hserves, hbooked⟩
          exact ⟨hserves, (himp hserves).mpr hbooked⟩

/-- What a rider is shown can be booked, and what can be booked is shown, exactly when the budget
answers both amounts alike and a code without a campaign can be wrapped in one. -/
theorem agree_iff (dir : Directory) (s : Service) (now : ℕ) (q : Query) (trip : Option ℕ) :
    Agree (applyPromo dir s now q) (redeemPromo dir s now q trip) ↔ Agreeable dir s now q := by
  rw [Agreeable]
  split
  · -- no code of that text
    rename_i hcodes
    rw [iff_true]
    refine agree_of_refused (applyPromo_of_none (by rw [hcodes]; rfl)) fun r hr => ?_
    rw [redeemPromo, hcodes] at hr
    cases hr
    rfl
  · rename_i promo hcodes
    by_cases h : promo.isActive = true ∧ Passes dir s now q promo
    · rw [agree_iff_of_passes trip hcodes h.1 h.2]
      exact ⟨fun hbacked _ _ => hbacked, fun himp => himp h.1 h.2⟩
    · have hagree : Agree (applyPromo dir s now q) (redeemPromo dir s now q trip) := by
        obtain ⟨reason, hredeem⟩ := redeemPromo_of_not_passes trip hcodes h
        refine agree_of_refused ?_ fun r hr => ?_
        · by_cases hactive : promo.isActive = true
          · have hlatest : Service.latest ((s.codes dir q.code).filter (·.isActive)) =
                some promo := by
              rw [hcodes, List.filter_cons_of_pos hactive]
              rfl
            exact applyPromo_of_not_passes hlatest fun hp => h ⟨hactive, hp⟩
          · refine applyPromo_of_none ?_
            rw [hcodes, List.filter_cons_of_neg hactive]
            rfl
        · rw [hredeem] at hr
          cases hr
          rfl
      exact ⟨fun _ hactive hp => absurd ⟨hactive, hp⟩ h, fun _ => hagree⟩
  · rename_i promos hnone hone
    -- the redemption raises, so nothing may be shown
    have hraises : redeemPromo dir s now q trip = .error .multipleObjectsReturned := by
      rw [redeemPromo]
      match hcodes : s.codes dir q.code with
      | [] => exact absurd hcodes hnone
      | [promo] => exact absurd hcodes (hone promo)
      | _ :: _ :: _ => rfl
    have hbooked : ¬ Booked (redeemPromo dir s now q trip) := by
      rintro ⟨r, hr, -⟩
      rw [hraises] at hr
      cases hr
    have hagree : Agree (applyPromo dir s now q) (redeemPromo dir s now q trip) ↔
        (applyPromo dir s now q).ok = false := by
      constructor
      · intro h
        by_contra hok
        exact hbooked (h.1.mp (by simpa using hok))
      · intro hok
        refine agree_of_refused hok fun r hr => ?_
        rw [hraises] at hr
        cases hr
    rw [hagree]
    cases hlatest : Service.latest ((s.codes dir q.code).filter (·.isActive)) with
    | none =>
        rw [applyPromo_of_none hlatest]
        simp
    | some promo =>
        simp only [Option.mem_def, Option.some.injEq, forall_eq']
        by_cases h : Passes dir s now q promo
        · have hshown := shown_iff hlatest h
          rw [← Bool.not_eq_true, hshown]
          simp [h]
        · rw [applyPromo_of_not_passes hlatest h]
          simp [h]

end Agreed

/-! ## A rupee fare -/

/-- 12.6 % off. -/
def rupeeCode : PromoCode where
  id := 1
  discount := .percent (63 / 5) none
  currency := .inr
  isActive := true
  validFrom := 0
  validTo := 100
  redemptionCount := 0

/-- Its campaign, with 12.80 left. -/
def rupeeCampaign : Campaign where
  id := 1
  kind := .riderPromo
  state := .live
  promoCode := some 1
  budgetMinor := some 1280
  committedMinor := 0
  spentMinor := 0
  overshootMinor := 0
  startsAt := some 0
  endsAt := some 100
  exhaustedAt := none
  config := ⟨false, 0, 0, 0, 0⟩

/-- One code for everybody, everywhere. -/
def openDirectory : Directory where
  iexact := fun a b => a = b
  terms := fun _ => ⟨"SAVE", "", 0, none, none, 1⟩
  hasCompletedTrip := fun _ => false
  countryNode := fun _ => none

/-- The code and its campaign. -/
def rupeeService : Service where
  db :=
    { campaigns := Table.empty.put rupeeCampaign
      promos := Table.empty.put rupeeCode
      redemptions := .empty
      trips := .empty
      entries := .empty
      wallets := .empty
      ledger := .empty }
  audience := fun _ => ⟨none, false⟩
  estimatedFareMinor := fun _ => some 10000

/-- A fare of 100 rupees. -/
def rupeeQuery : Query := ⟨"SAVE", 7, 100, none, none, .inclusive⟩

/-- 12.60 off 100 rupees are shown, and the 13 rupees that rounding makes of them cannot be
booked. -/
theorem shown_and_not_booked :
    ¬ ∀ (dir : Directory) (s : Service) (now : ℕ) (q : Query) (trip : Option ℕ),
      Agree (applyPromo dir s now q) (redeemPromo dir s now q trip) := by
  intro h
  have hshown : (applyPromo openDirectory rupeeService 5 rupeeQuery).ok = true := by
    decide +kernel
  obtain ⟨r, hr, hok⟩ := (h openDirectory rupeeService 5 rupeeQuery (some 1)).1.mp hshown
  have hrefused : (match redeemPromo openDirectory rupeeService 5 rupeeQuery (some 1) with
      | .ok r => r.1.ok
      | .error _ => false) = false := by decide +kernel
  rw [hr] at hrefused
  change r.1.ok = false at hrefused
  rw [hok] at hrefused
  cases hrefused

end SaaradhiGo.PromoCodes
