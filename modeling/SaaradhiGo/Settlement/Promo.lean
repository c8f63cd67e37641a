/-
What the settlement of a promo does to the driver's balance.

However `settle_trip` is called it only writes credits of the promo, each with the change of
the balance that belongs to it, and it changes neither the discount the trip carries nor its
settlements (`PromoStep`).  When every redemption is committed and its key is free it
settles them all, and against cash it credits the whole discount.
-/
import SaaradhiGo.Settlement.Trip

namespace SaaradhiGo.Settlement

open SaaradhiGo.Money

/-! ## The lines of a trip -/

def onTrip (trip : Trip) (user : ℕ) (t : WalletTransaction) : Bool :=
  t.userId = user && t.referenceId = .trip trip.id

def lineSum (trip : Trip) (user : ℕ) (s : TripDb) : ℤ :=
  Ledger.signedSumOf s.ledger.rows (onTrip trip user)

def isPromoLine (trip : Trip) (user : ℕ) (t : WalletTransaction) : Bool :=
  onTrip trip user t && t.purpose = .promoDiscountPlatformFunded

/-- The promo credits written on the driver's balance. -/
def promoCredited (trip : Trip) (user : ℕ) (s : TripDb) : ℤ :=
  Ledger.signedSumOf s.ledger.rows (isPromoLine trip user)

def driverBalance (s : TripDb) (user : ℕ) : ℤ := (driverWallet s user).balanceMinor

def keys (s : TripDb) : List Ref := s.ledger.rows.map WalletTransaction.idempotencyKey

def promoRow (trip : Trip) (user : ℕ) (r : PromoRedemption) : WalletTransaction :=
  tripRow trip user r.currency r.discountAmountMinor .credit .promoDiscountPlatformFunded
    (.tripPromo trip.id r.id)

section Balance

variable {s : TripDb} {user : ℕ} {delta : ℤ}

@[simp] lemma driverWallet_lockWallet : driverWallet (lockWallet s user) user = driverWallet s user :=
  Wallets.getWallet_put (Wallets.key_getWallet s.wallets user .driver)

@[simp] lemma driverBalance_lockWallet :
    driverBalance (lockWallet s user) user = driverBalance s user := by
  rw [driverBalance, driverWallet_lockWallet, driverBalance]

lemma getWallet_addMinor (ws : Wallets) :
    (Wallets.addMinor ws (ws.getWallet user .driver) delta).getWallet user .driver
      = { ws.getWallet user .driver with
          balanceMinor := (ws.getWallet user .driver).balanceMinor + delta } :=
  Wallets.getWallet_put (Wallets.key_getWallet ws user .driver)

lemma driverBalance_addMinor {s' : TripDb}
    (h : s'.wallets = s.wallets.addMinor (driverWallet s user) delta) :
    driverBalance s' user = driverBalance s user + delta := by
  rw [driverBalance, driverWallet, h, driverWallet, getWallet_addMinor]
  rfl

end Balance

/-! ## One promo settlement -/

/-- What a promo settlement does, seen from the driver's balance. -/
structure PromoStep (trip : Trip) (user : ℕ) (s s' : TripDb) : Prop where
  rows : ∃ rs : List PromoRedemption, s'.ledger.rows = s.ledger.rows ++ rs.map (promoRow trip user) ∧
    driverBalance s' user
      = driverBalance s user + (rs.map PromoRedemption.discountAmountMinor).sum
  settlements : s'.settlements = s.settlements
  paymentMethod : s'.paymentMethod = s.paymentMethod
  discount : discountMinor trip s' = discountMinor trip s

namespace PromoStep

variable {trip : Trip} {user : ℕ} {s t u : TripDb}

lemma refl (trip : Trip) (user : ℕ) (s : TripDb) : PromoStep trip user s s :=
  ⟨⟨[], by simp, by simp⟩, rfl, rfl, rfl⟩

lemma trans (h : PromoStep trip user s t) (h' : PromoStep trip user t u) :
    PromoStep trip user s u := by
  obtain ⟨rs, hrows, hbalance⟩ := h.rows
  obtain ⟨rs', hrows', hbalance'⟩ := h'.rows
  refine ⟨⟨rs ++ rs', by simp [hrows, hrows'], ?_⟩, h'.settlements.trans h.settlements,
    h'.paymentMethod.trans h.paymentMethod, h'.discount.trans h.discount⟩
  rw [hbalance', hbalance, List.map_append, List.sum_append, add_assoc]

end PromoStep

section Discount

variable {s : TripDb} {r : PromoRedemption}

lemma sum_filter_map {α : Type*} (p : α → Bool) (f : α → ℤ) (l : List α) :
    ((l.filter p).map f).sum = (l.map fun x => if p x then f x else 0).sum := by
  induction l with
  | nil => rfl
  | cons x l ih => by_cases h : p x <;> simp [h, ih]

/-- Writing a redemption that is held before and after for the same discount keeps the
discount of the trip. -/
lemma discountMinor_put {trip : Trip} {r' : PromoRedemption} (hget : s.redemptions.get? r'.id = some r)
    (hheld : r'.held = r.held) (hamount : r'.discountAmountMinor = r.discountAmountMinor) :
    discountMinor trip { s with redemptions := s.redemptions.put r' } = discountMinor trip s := by
  have hmem : r'.id ∈ s.redemptions.rows.map PromoRedemption.id :=
    List.mem_map.mpr ⟨r, (Table.mem_of_get? hget).1, Table.pk_of_get? hget⟩
  have hrows : (s.redemptions.put r').rows
      = s.redemptions.rows.map fun x => if x.id = r'.id then r' else x := by
    rw [Table.put, dif_pos hmem]
    rfl
  rw [discountMinor, discountMinor]
  split
  · rfl
  rw [hrows, sum_filter_map, sum_filter_map, List.map_map]
  congr 1
  apply List.map_congr_left
  intro x hx
  by_cases hid : x.id = r'.id
  · have hxr : x = r := by
      have hgx := Table.mem_iff_get?.mp hx
      rw [hid, hget] at hgx
      exact (Option.some.inj hgx).symm
    subst hxr
    simp [hid, hheld, hamount]
  · simp [hid]

end Discount

section Settle

variable {trip : Trip} {user : ℕ}

def PromoRedemption.settle (r : PromoRedemption) : PromoRedemption := { r with state := .settled }

/-- Settling a redemption with a campaign: its row is settled and, against cash, its credit
is written. -/
lemma settleRedemption_of_campaign (hdriver : trip.driver = some user) (isCash : Bool)
    (s : TripDb) {r : PromoRedemption} (hcampaign : r.campaign.isSome) :
    settleRedemption trip isCash s r =
      if isCash then
        (s.ledger.insert? (promoRow trip user r)).map fun ledger =>
          { s with
            redemptions := s.redemptions.put r.settle
            ledger
            wallets := s.wallets.addMinor (driverWallet s user) r.discountAmountMinor }
      else some { s with redemptions := s.redemptions.put r.settle } := by
  rw [settleRedemption]
  split
  · rename_i hnone
    rw [hnone] at hcampaign
    cases hcampaign
  · rw [hdriver]
    cases isCash <;> rfl

/-- What is left after one redemption: nothing has changed, or its row is settled and,
against cash, its credit is written. -/
lemma settleRedemption_eq (hdriver : trip.driver = some user) {isCash : Bool} {s s' : TripDb}
    {r : PromoRedemption} (h : settleRedemption trip isCash s r = some s') :
    s' = s ∨ s' = { s with redemptions := s.redemptions.put r.settle } ∨
      ∃ ledger, s.ledger.insert? (promoRow trip user r) = some ledger ∧
        s' = { s with
          redemptions := s.redemptions.put r.settle
          ledger
          wallets := s.wallets.addMinor (driverWallet s user) r.discountAmountMinor } := by
  by_cases hcampaign : r.campaign.isSome
  · rw [settleRedemption_of_campaign hdriver isCash s hcampaign] at h
    cases isCash with
    | false => exact Or.inr (Or.inl (Option.some.inj h).symm)
    | true =>
        obtain ⟨ledger, hinsert, rfl⟩ := Option.map_eq_some_iff.mp h
        exact Or.inr (Or.inr ⟨ledger, hinsert, rfl⟩)
  · rw [settleRedemption, Option.not_isSome_iff_eq_none.mp hcampaign] at h
    exact Or.inl (Option.some.inj h).symm

lemma promoStep_settleRedemption (hdriver : trip.driver = some user) {isCash : Bool}
    {s s' : TripDb} {r : PromoRedemption} (hget : s.redemptions.get? r.id = some r)
    (hcommitted : r.state = .committed) (h : settleRedemption trip isCash s r = some s') :
    PromoStep trip user s s' := by
  have hdiscount : discountMinor trip { s with redemptions := s.redemptions.put r.settle }
      = discountMinor trip s :=
    discountMinor_put hget
      (by simp [PromoRedemption.held, PromoRedemption.settle, hcommitted]) rfl
  rcases settleRedemption_eq hdriver h with rfl | rfl | ⟨ledger, hinsert, rfl⟩
  · exact .refl trip user _
  · exact ⟨⟨[], by simp, by simp [driverBalance, driverWallet]⟩, rfl, rfl, hdiscount⟩
  · refine ⟨⟨[r], ?_, ?_⟩, rfl, rfl, hdiscount⟩
    · simpa using (Table.rows_of_insert? hinsert).1
    · simpa using driverBalance_addMinor rfl

lemma get?_settleRedemption_of_ne (hdriver : trip.driver = some user) {isCash : Bool}
    {s s' : TripDb} {r : PromoRedemption} {i : ℕ} (hi : i ≠ r.id)
    (h : settleRedemption trip isCash s r = some s') :
    s'.redemptions.get? i = s.redemptions.get? i := by
  rcases settleRedemption_eq hdriver h with rfl | rfl | ⟨ledger, -, rfl⟩
  · rfl
  · exact Table.get?_put_of_ne _ hi
  · exact Table.get?_put_of_ne _ hi

lemma promoStep_foldlM (hdriver : trip.driver = some user) {isCash : Bool}
    {rs : List PromoRedemption} {s s' : TripDb} (hnodup : (rs.map PromoRedemption.id).Nodup)
    (hrs : ∀ r ∈ rs, s.redemptions.get? r.id = some r ∧ r.state = .committed)
    (h : rs.foldlM (settleRedemption trip isCash) s = some s') : PromoStep trip user s s' := by
  induction rs generalizing s with
  | nil =>
      cases h
      exact .refl trip user _
  | cons r rs ih =>
      rw [List.foldlM_cons] at h
      obtain ⟨s₁, hfirst, hrest⟩ := Option.bind_eq_some_iff.mp h
      rw [List.map_cons, List.nodup_cons] at hnodup
      obtain ⟨hget, hcommitted⟩ := hrs r (by simp)
      refine (promoStep_settleRedemption hdriver hget hcommitted hfirst).trans
        (ih hnodup.2 ?_ hrest)
      intro r' hr'
      have hne : r'.id ≠ r.id := fun hid => hnodup.1 (hid ▸ List.mem_map_of_mem hr')
      rw [get?_settleRedemption_of_ne hdriver hne hfirst]
      exact hrs r' (by simp [hr'])

lemma committed_rows (s : TripDb) : ((s.redemptions.rows.filter fun r => r.state = .committed).map PromoRedemption.id).Nodup ∧
      ∀ r ∈ s.redemptions.rows.filter fun r => r.state = .committed,
        s.redemptions.get? r.id = some r ∧ r.state = .committed := by
  refine ⟨s.redemptions.nodup.sublist (List.filter_sublist.map _), fun r hr => ?_⟩
  obtain ⟨hmem, hstate⟩ := List.mem_filter.mp hr
  exact ⟨Table.mem_iff_get?.mp hmem, by simpa using hstate⟩

/-- However it is called, a promo settlement that does not raise is a promo step. -/
theorem promoStep_settleTripPromo (hdriver : trip.driver = some user) {isCash : Bool}
    {s s' : TripDb} (h : settleTripPromo trip isCash s = some s') : PromoStep trip user s s' := by
  rw [settleTripPromo] at h
  split at h
  · cases h
    exact .refl trip user _
  · exact promoStep_foldlM hdriver (committed_rows s).1 (committed_rows s).2 h

/-! ## A complete promo settlement -/

lemma promoRow_signed (r : PromoRedemption) :
    (promoRow trip user r).signedMinor = r.discountAmountMinor := rfl

lemma isPromoLine_promoRow (r : PromoRedemption) :
    isPromoLine trip user (promoRow trip user r) = true := by
  simp [isPromoLine, onTrip, promoRow, tripRow]

lemma signedSumOf_promoRows {p : WalletTransaction → Bool}
    (hp : ∀ r, p (promoRow trip user r) = true) (rs : List PromoRedemption) :
    Ledger.signedSumOf (rs.map (promoRow trip user)) p
      = (rs.map PromoRedemption.discountAmountMinor).sum := by
  induction rs with
  | nil => rfl
  | cons r rs ih => simp [hp, promoRow_signed, ih]

lemma settleRedemption_complete (hdriver : trip.driver = some user) (isCash : Bool) {s : TripDb}
    {r : PromoRedemption} (hcampaign : r.campaign.isSome)
    (hfree : Ref.tripPromo trip.id r.id ∉ keys s) :
    ∃ s', settleRedemption trip isCash s r = some s' ∧
      s'.redemptions = s.redemptions.put r.settle ∧
      (∀ k ∈ keys s', k ∈ keys s ∨ k = .tripPromo trip.id r.id) ∧
      promoCredited trip user s'
        = promoCredited trip user s + if isCash then r.discountAmountMinor else 0 := by
  rw [settleRedemption_of_campaign hdriver isCash s hcampaign]
  cases isCash with
  | false => exact ⟨_, rfl, rfl, fun k hk => Or.inl hk, by simp [promoCredited]⟩
  | true =>
      obtain ⟨ledger, hinsert, hrows⟩ : ∃ ledger,
          s.ledger.insert? (promoRow trip user r) = some ledger ∧
            ledger.rows = s.ledger.rows ++ [promoRow trip user r] :=
        Table.insert?_of_notMem hfree
      refine ⟨_, by rw [if_pos rfl, hinsert]; rfl, rfl, ?_, ?_⟩
      · intro k hk
        rw [keys, hrows, List.map_append, List.mem_append] at hk
        exact hk.imp id fun hk => by simpa [promoRow, tripRow] using hk
      · simp [promoCredited, hrows, isPromoLine_promoRow, promoRow_signed]

/-- The loop over committed redemptions with campaigns and free keys settles them all. -/
lemma foldlM_complete (hdriver : trip.driver = some user) (isCash : Bool)
    {rs : List PromoRedemption} {s : TripDb} (hnodup : (rs.map PromoRedemption.id).Nodup)
    (hrs : ∀ r ∈ rs, r.campaign.isSome ∧ Ref.tripPromo trip.id r.id ∉ keys s) :
    ∃ s', rs.foldlM (settleRedemption trip isCash) s = some s' ∧
      (∀ x ∈ s'.redemptions.rows, x.state = .committed →
        x ∈ s.redemptions.rows ∧ x.id ∉ rs.map PromoRedemption.id) ∧
      promoCredited trip user s' = promoCredited trip user s +
        if isCash then (rs.map PromoRedemption.discountAmountMinor).sum else 0 := by
  induction rs generalizing s with
  | nil => exact ⟨s, rfl, fun x hx _ => ⟨hx, by simp⟩, by simp⟩
  | cons r rs ih =>
      rw [List.map_cons, List.nodup_cons] at hnodup
      obtain ⟨hcampaign, hfree⟩ := hrs r (by simp)
      obtain ⟨s₁, hfirst, hput, hkeys, hcredit⟩ :=
        settleRedemption_complete hdriver isCash hcampaign hfree
      have hrest : ∀ r' ∈ rs, r'.campaign.isSome ∧ Ref.tripPromo trip.id r'.id ∉ keys s₁ := by
        intro r' hr'
        obtain ⟨hcampaign', hfree'⟩ := hrs r' (by simp [hr'])
        refine ⟨hcampaign', fun hmem => ?_⟩
        rcases hkeys _ hmem with hold | hnew
        · exact hfree' hold
        · injection hnew with _ hid
          exact hnodup.1 (hid ▸ List.mem_map_of_mem hr')
      obtain ⟨s', hfold, hleft, hsum⟩ := ih hnodup.2 hrest
      refine ⟨s', ?_, ?_, ?_⟩
      · rw [List.foldlM_cons, hfirst]
        exact hfold
      · intro x hx hcommitted
        obtain ⟨hmem, hne⟩ := hleft x hx hcommitted
        rw [hput] at hmem
        rcases Table.mem_put.mp hmem with rfl | ⟨hold, hid⟩
        · cases hcommitted
        · refine ⟨hold, ?_⟩
          rw [List.map_cons, List.mem_cons]
          rintro (hid' | hin)
          · exact hid hid'
          · exact hne hin
      · rw [hsum, hcredit]
        cases isCash <;> simp [add_assoc]

/-- A promo settlement whose redemptions have campaigns and free keys does not raise; it
settles them all and, against cash, credits them all. -/
theorem settleTripPromo_complete (hdriver : trip.driver = some user)
    (hfunded : trip.platformFunded = false) (isCash : Bool) {s : TripDb}
    (hcampaign : ∀ r ∈ s.redemptions.rows, r.state = .committed → r.campaign.isSome)
    (hfree : ∀ i, Ref.tripPromo trip.id i ∉ keys s) :
    ∃ s', settleTripPromo trip isCash s = some s' ∧
      (∀ r ∈ s'.redemptions.rows, r.state ≠ .committed) ∧
      promoCredited trip user s' = promoCredited trip user s +
        if isCash then ((s.redemptions.rows.filter fun r => r.state = .committed).map
          PromoRedemption.discountAmountMinor).sum else 0 := by
  have hrs : ∀ r ∈ s.redemptions.rows.filter fun r => r.state = .committed,
      r.campaign.isSome ∧ Ref.tripPromo trip.id r.id ∉ keys s := by
    intro r hr
    obtain ⟨hmem, hstate⟩ := List.mem_filter.mp hr
    exact ⟨hcampaign r hmem (by simpa using hstate), hfree r.id⟩
  obtain ⟨s', hfold, hleft, hsum⟩ := foldlM_complete hdriver isCash (committed_rows s).1 hrs
  refine ⟨s', ?_, ?_, hsum⟩
  · rw [settleTripPromo, hfunded]
    exact hfold
  · intro r hr hcommitted
    obtain ⟨hmem, hne⟩ := hleft r hr hcommitted
    exact hne (List.mem_map_of_mem (List.mem_filter.mpr ⟨hmem, by simpa using hcommitted⟩))

end Settle

end SaaradhiGo.Settlement
