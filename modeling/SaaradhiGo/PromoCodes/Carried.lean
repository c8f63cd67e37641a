/-
A discount, carried from the booking to the settlement.

Where tax comes on top a booking goes forward: from the fare and the discount to a tax on what is
left, and a trip's fare that is lower by the tax no longer charged.  The settlement goes back, from
the trip's fare to the fare before tax, by what the booking stored or by the rate card and the
discount the trip holds.  Both ways lead to the split of the booking.
-/
import SaaradhiGo.PromoCodes.Agreed
import SaaradhiGo.Promotions.Honoured

namespace SaaradhiGo.PromoCodes

open SaaradhiGo.Money SaaradhiGo.Promotions
open SaaradhiGo.Pricing (toMinor fromMinor quantize splitQuoted percentOf Priced fromMinor_add
  fromMinor_sub fromMinor_min fromMinor_eq fromMinor_le fromMinor_inj quantize_percent quantize_eq
  percentOf_nonneg splitQuoted_minor splitAdditive_total splitAdditive_withTax)

/-! ## In minor units -/

section Minor

variable {a b : ℤ} {c c' : Currency} {promo : PromoCode} {percent : ℚ}

lemma fromMinor_currency (a : ℤ) (c c' : Currency) : fromMinor a c = fromMinor a c' := by
  rw [fromMinor_eq, fromMinor_eq]

@[simp] lemma toMinor_fromMinor : toMinor (fromMinor a c) c' = a := by
  have hmul : fromMinor a c * Pricing.minorPerMajor c' = (a : ℚ) := by
    rw [fromMinor_eq]
    cases c' <;> rw [Pricing.minorPerMajor] <;> ring
  rw [toMinor, hmul]
  exact Rounding.halfUp_intCast a

lemma quantize_fromMinor : quantize (fromMinor a c) c' = fromMinor a c' := by
  rw [quantize, toMinor_fromMinor]

lemma fromMinor_max : max (fromMinor a c) (fromMinor b c) = fromMinor (max a b) c := by
  rcases le_total a b with h | h
  · rw [max_eq_right h, max_eq_right (fromMinor_le.mpr h)]
  · rw [max_eq_left h, max_eq_left (fromMinor_le.mpr h)]

lemma fromMinor_zero : fromMinor 0 c = 0 := by
  rw [fromMinor_eq, Int.cast_zero, zero_div]

lemma computeDiscount_minor (total : ℤ) :
    computeDiscount promo (fromMinor total promo.currency) =
      fromMinor (Promotions.computeDiscount promo total) promo.currency := by
  rw [computeDiscount, Promotions.computeDiscount]
  cases promo.discount with
  | flat minor => exact fromMinor_min
  | percent percent maxMinor =>
      have hraw : quantize (fromMinor total promo.currency * (percent / 100)) promo.currency =
          fromMinor (roundHalfUp (total * percent / 100)) promo.currency := by
        rw [← mul_div_assoc, quantize_percent, ← mul_div_assoc]
        rfl
      dsimp only
      rw [hraw]
      cases maxMinor with
      | none => exact fromMinor_min
      | some cap =>
          dsimp only
          rw [fromMinor_min, fromMinor_min]

/-- The tax on whole minor units. -/
lemma quantize_percentOf (n : ℤ) :
    quantize (fromMinor n c * percent / 100) c = fromMinor (percentOf percent n) c := by
  rw [quantize_percent, ← mul_div_assoc]
  rfl

/-- What `adjust` makes of whole minor units. -/
lemma adjust_minor (n fee discount taxBefore : ℤ) :
    adjust (fromMinor n c) percent (fromMinor fee c) (fromMinor discount c) c
        (some (fromMinor taxBefore c)) =
      { tax := fromMinor (Pricing.adjust n percent fee discount taxBefore).tax c
        full := fromMinor (Pricing.adjust n percent fee discount taxBefore).full c
        discount := fromMinor (Pricing.adjust n percent fee discount taxBefore).discount c
        payable := fromMinor (Pricing.adjust n percent fee discount taxBefore).payable c
        relief := fromMinor (Pricing.adjust n percent fee discount taxBefore).relief c } := by
  rw [adjust, Pricing.adjust]
  simp only [Option.getD_some, ← fromMinor_zero (c := c), fromMinor_sub, fromMinor_max,
    quantize_percentOf, fromMinor_min, fromMinor_add]

end Minor

/-! ## The split of a discounted fare -/

section Split

variable {percent : ℚ} {n fee discount : ℤ}

/-- The tax on less is no more. -/
lemma percentOf_mono (hpercent : 0 ≤ percent) {a b : ℤ} (h : a ≤ b) :
    percentOf percent a ≤ percentOf percent b := by
  rw [percentOf, percentOf]
  refine Rounding.halfUp_mono ?_
  have hcast : (a : ℚ) ≤ b := by exact_mod_cast h
  have hmul := mul_le_mul_of_nonneg_right hcast hpercent
  linarith

lemma percentOf_zero : percentOf percent 0 = 0 := by
  have h := Rounding.halfUp_intCast (α := ℚ) 0
  rw [Int.cast_zero] at h
  rw [percentOf, Int.cast_zero, zero_mul, zero_div]
  exact h

/-- A discount within the fare: the tax is on what is left, and all of it is given. -/
lemma adjust_of_le (hpercent : 0 ≤ percent) (hfee : 0 ≤ fee) (hdiscount : 0 ≤ discount)
    (hle : discount ≤ n) :
    Pricing.adjust n percent fee discount (percentOf percent n) =
      { tax := percentOf percent (n - discount)
        taxBefore := percentOf percent n
        full := n + percentOf percent (n - discount) + fee
        discount := discount
        payable := n + percentOf percent (n - discount) + fee - discount
        relief := percentOf percent n - percentOf percent (n - discount) } := by
  have htaxable : max 0 (n - discount) = n - discount := max_eq_right (by omega)
  have htax : percentOf percent (n - discount) ≤ percentOf percent n :=
    percentOf_mono hpercent (by omega)
  have hnonneg := percentOf_nonneg hpercent (n := n - discount) (by omega)
  have hgiven : min discount (n + percentOf percent (n - discount) + fee) = discount :=
    min_eq_left (by omega)
  rw [Pricing.adjust, htaxable, min_eq_left htax, hgiven]

/-- A discount above the fare: there is no tax, and what is given covers the fare at least. -/
lemma adjust_of_gt (hpercent : 0 ≤ percent) (hn : 0 ≤ n) (hlt : n < discount) :
    Pricing.adjust n percent fee discount (percentOf percent n) =
      { tax := 0
        taxBefore := percentOf percent n
        full := n + fee
        discount := min discount (n + fee)
        payable := n + fee - min discount (n + fee)
        relief := percentOf percent n } := by
  have htaxable : max 0 (n - discount) = 0 := max_eq_left (by omega)
  have htax : min (percentOf percent 0) (percentOf percent n) = 0 := by
    rw [percentOf_zero]
    exact min_eq_left (percentOf_nonneg hpercent hn)
  rw [Pricing.adjust, htaxable, htax, add_zero, sub_zero]

def splitOf (percent : ℚ) (n fee discount : ℤ) : Settlement.Split :=
  ⟨n, (Pricing.adjust n percent fee discount (percentOf percent n)).tax, fee⟩

/-- The tax after the discount is not negative, and it makes up the trip's fare. -/
lemma adjust_nonneg (hpercent : 0 ≤ percent) (hn : 0 ≤ n) (hfee : 0 ≤ fee)
    (hdiscount : 0 ≤ discount) :
    0 ≤ (Pricing.adjust n percent fee discount (percentOf percent n)).tax ∧
      (Pricing.adjust n percent fee discount (percentOf percent n)).full =
        n + (Pricing.adjust n percent fee discount (percentOf percent n)).tax + fee := by
  refine ⟨?_, rfl⟩
  rcases le_or_gt discount n with h | h
  · rw [adjust_of_le hpercent hfee hdiscount h]
    exact percentOf_nonneg hpercent (by omega)
  · rw [adjust_of_gt hpercent hn h]

variable {t : Settlement.Trip} {adj : Pricing.Adjusted}

lemma settlementSplit_stored (hadditive : t.additiveTax = true)
    (hstored : t.storedSplit = some (n, fee)) {tax gross held : ℤ} (hn : 0 ≤ n) (hfee : 0 ≤ fee)
    (htax : 0 ≤ tax) (hgross : gross = n + tax + fee) :
    Settlement.settlementSplit t gross held = some ⟨n, tax, fee⟩ := by
  have hrest : gross - n - fee = tax := by omega
  rw [Settlement.settlementSplit, hadditive, hstored]
  show ((if 0 ≤ n ∧ 0 ≤ fee ∧ 0 ≤ gross - n - fee then
    some (⟨n, gross - n - fee, fee⟩ : Settlement.Split) else none) <|> _) = _
  rw [hrest, if_pos ⟨hn, hfee, htax⟩]
  rfl

/-- The split that is worked out from the rate card and the discount the trip holds. -/
lemma settlementSplit_worked_out (hadditive : t.additiveTax = true)
    (hstored : t.storedSplit = none) (hcard : t.additiveContext = some (percent, fee))
    (hpercent : 0 ≤ percent) (hn : 0 ≤ n) (hfee : 0 ≤ fee) (hdiscount : 0 ≤ discount)
    (hadj : Pricing.adjust n percent fee discount (percentOf percent n) = adj) :
    Settlement.settlementSplit t adj.full adj.discount = some (splitOf percent n fee discount) := by
  have hworked : Settlement.settlementSplit t adj.full adj.discount =
      some (if adj.full - min fee adj.full ≤ adj.discount then
          ⟨adj.full - min fee adj.full, 0, min fee adj.full⟩
        else
          ⟨(Settlement.splitAdditive (adj.full - min fee adj.full - adj.discount) percent).1 +
              adj.discount,
            (Settlement.splitAdditive (adj.full - min fee adj.full - adj.discount) percent).2,
            min fee adj.full⟩) := by
    rw [Settlement.settlementSplit, hadditive, hstored, hcard]
    rfl
  obtain ⟨htax, hfull⟩ := adjust_nonneg hpercent hn hfee hdiscount
  rw [splitOf, hworked]
  rw [hadj] at htax hfull ⊢
  have hmin : min fee adj.full = fee := min_eq_left (by omega)
  have hrest : adj.full - fee = n + adj.tax := by omega
  rw [hmin, hrest]
  rcases le_or_gt discount n with h | h
  · -- the tax is on what the discount leaves, and is found again from there
    rw [adjust_of_le hpercent hfee hdiscount h] at hadj
    subst hadj
    dsimp only at htax ⊢
    by_cases hnone : n + percentOf percent (n - discount) ≤ discount
    · have hzero : percentOf percent (n - discount) = 0 := by omega
      rw [if_pos hnone, hzero, add_zero]
    · have hleft : n + percentOf percent (n - discount) - discount =
          (n - discount) + percentOf percent (n - discount) := by ring
      rw [if_neg hnone, hleft, splitAdditive_withTax hpercent (by omega), sub_add_cancel]
  · -- the discount takes all of the fare
    rw [adjust_of_gt hpercent hn h] at hadj
    subst hadj
    dsimp only
    rw [add_zero, if_pos (le_min h.le (by omega))]

end Split

/-! ## What a redemption writes -/

section Written

variable {dir : Directory} {s s' : Service} {now : ℕ} {q : Query} {promo : PromoCode}
  {trip : Option ℕ} {discount : ℚ} {reason : Option Reason} {b : Booking} {db : Db} {id : ℕ}

lemma redemptions_of_reserve {now : ℕ} {s : Db}
    (h : reserveForRedemption now promo b s = .ok (db, .ok id)) :
    db.redemptions = s.redemptions := by
  obtain ⟨found, hfound, hagainst⟩ := Fallible.bind_eq_ok.mp h
  have hwrapped : found.1.redemptions = s.redemptions := by
    rcases wrapped_campaignOrLegacy hfound with hsame | ⟨c, campaigns, -, -, -, -, hwrap⟩
    · rw [hsame]
    · rw [← hwrap]
  rcases reserveAgainst_spec hagainst with ⟨-, e, hanswer⟩ | ⟨campaign, c, c', -, -, -, rfl⟩
  · cases hanswer
  · exact hwrapped

/-- A code that is claimed leaves one more redemption, and the fares as they are. -/
lemma claim_spec (h : s.claim dir now promo q trip discount = .ok (s', none)) :
    (∃ campaign, s'.db.redemptions.rows = s.db.redemptions.rows ++
      [redemptionOf promo (s.booking dir promo q trip discount) campaign discount]) ∧
      s'.estimatedFareMinor = s.estimatedFareMinor := by
  rw [Service.claim] at h
  dsimp only at h
  cases hreserve : reserveForRedemption now promo (s.booking dir promo q trip discount) s.db with
  | error e =>
      rw [hreserve] at h
      cases h
  | ok answer =>
      obtain ⟨db, refusal | id⟩ := answer
      · rw [hreserve] at h
        cases h
      · rw [hreserve] at h
        dsimp only at h
        split at h
        · cases h
        · rename_i redemptions hinsert
          cases h
          refine ⟨⟨id, ?_⟩, rfl⟩
          rw [← redemptions_of_reserve hreserve]
          exact (Table.rows_of_insert? hinsert).1

/-- On what promotions keep, a claim is the redemption of a booking. -/
theorem redeemPromo_of_claim (hpromo : s.db.promos.get? promo.id = some promo)
    (h : s.claim dir now promo q trip discount = .ok (s', reason)) :
    Promotions.redeemPromo now (s.booking dir promo q trip discount) s.db = .ok s'.db := by
  have hget : s.db.promos.get? (s.booking dir promo q trip discount).promo = some promo := hpromo
  have hamount : toMinor (quantize discount promo.currency) promo.currency =
      toMinor discount promo.currency := toMinor_fromMinor
  rw [Promotions.redeemPromo, hget]
  rw [Service.claim] at h
  dsimp only at h ⊢
  cases hreserve : reserveForRedemption now promo (s.booking dir promo q trip discount) s.db with
  | error e =>
      rw [hreserve] at h
      cases h
  | ok answer =>
      obtain ⟨db, refusal | id⟩ := answer
      · rw [hreserve] at h
        cases h
        rfl
      · rw [hreserve] at h
        dsimp only at h
        have hrow : redemptionOf promo (s.booking dir promo q trip discount) id discount =
            { id := (s.booking dir promo q trip discount).redemptionId
              promo := promo.id
              user := (s.booking dir promo q trip discount).user
              trip := (s.booking dir promo q trip discount).trip
              campaign := some id
              discountAmountMinor := (s.booking dir promo q trip discount).discountMinor
              currency := promo.currency
              state := .committed } := by
          show PromoRedemption.mk _ _ _ _ _ (toMinor (quantize discount promo.currency) _) _ _ =
            PromoRedemption.mk _ _ _ _ _ (toMinor discount promo.currency) _ _
          rw [hamount]
        rw [hrow] at h
        split at h
        · cases h
        · rename_i redemptions hinsert
          cases h
          simp only [bind, Except.bind, hinsert]
          rfl

lemma redeemPromo_spec {r : PromoResult} (h : redeemPromo dir s now q trip = .ok (r, s'))
    (hok : r.ok = true) :
    ∃ (promo : PromoCode) (s₁ : Service) (campaign : ℕ), promo ∈ s.db.promos.rows ∧
      r = .accepted (dir.terms promo.id) promo (roundedDiscount promo q.fare (adjusted q promo))
        (adjusted q promo) ∧
      s₁.db.redemptions.rows = s.db.redemptions.rows ++
        [redemptionOf promo (s.booking dir promo q trip
          (roundedDiscount promo q.fare (adjusted q promo)).1) campaign
          (roundedDiscount promo q.fare (adjusted q promo)).1] ∧
      s₁.estimatedFareMinor = s.estimatedFareMinor ∧
      s' = s₁.relieve trip (adjusted q promo) promo.currency := by
  have hcases : (∃ promo, s.codes dir q.code = [promo]) ∨
      ∀ promo, s.codes dir q.code ≠ [promo] := by
    by_cases hone : ∃ promo, s.codes dir q.code = [promo]
    · exact .inl hone
    · exact .inr (not_exists.mp hone)
  rcases hcases with ⟨promo, hcodes⟩ | hnone
  · by_cases hpasses : promo.isActive = true ∧ Passes dir s now q promo
    · rw [redeemPromo_of_passes hcodes hpasses.1 hpasses.2] at h
      cases hclaim : s.claim dir now promo q trip
          (roundedDiscount promo q.fare (adjusted q promo)).1 with
      | error e =>
          rw [hclaim] at h
          cases h
      | ok claimed =>
          obtain ⟨s₁, reason⟩ := claimed
          rw [hclaim] at h
          cases reason with
          | some reason =>
              cases h
              cases hok
          | none =>
              obtain ⟨⟨campaign, hrows⟩, hfares⟩ := claim_spec hclaim
              have hmem : promo ∈ s.db.promos.rows := by
                have hin : promo ∈ s.codes dir q.code := by
                  rw [hcodes]
                  exact List.mem_singleton_self _
                exact (List.mem_filter.mp hin).1
              cases h
              exact ⟨promo, s₁, campaign, hmem, rfl, hrows, hfares, rfl⟩
    · obtain ⟨reason, hrefused⟩ := redeemPromo_of_not_passes trip hcodes hpasses
      rw [hrefused] at h
      cases h
      cases hok
  · rw [redeemPromo] at h
    dsimp only at h
    split at h
    · cases h
      cases hok
    · cases h
    · rename_i promo hcodes
      exact absurd hcodes (hnone promo)

end Written

/-! ## From the booking to the settlement -/

/-- The state of a redemption, as the settlement reads it. -/
def stateOf : Promotions.RedemptionState → Settlement.RedemptionState
  | .committed => .committed
  | .settled => .settled
  | .released => .released
  | .legacy => .legacy

/-- A redemption, as the settlement reads it. -/
def settledRedemption (r : PromoRedemption) : Settlement.PromoRedemption where
  id := r.id
  campaign := r.campaign
  discountAmountMinor := r.discountAmountMinor
  currency := r.currency
  state := stateOf r.state

/-- The redemptions of a trip, as the settlement reads them. -/
def Service.settledOn (s : Service) (trip : ℕ) : Table Settlement.PromoRedemption.id where
  rows := (s.db.redemptions.rows.filter fun r => r.trip = some trip).map settledRedemption
  nodup := by
    rw [List.map_map]
    exact s.db.redemptions.nodup.sublist (List.filter_sublist.map PromoRedemption.id)

/-- A trip with tax on top and its part of the database, when it is settled with the fare and the
promo that its booking left. -/
structure SettledAs (s : Service) (trip : ℕ) (t : Settlement.Trip) (db : Settlement.TripDb) :
    Prop where
  id : t.id = trip
  platformFunded : t.platformFunded = false
  additiveTax : t.additiveTax = true
  finalFareMinor : t.finalFareMinor = none ∨ t.finalFareMinor = s.estimatedFareMinor trip
  estimatedFareMinor : t.estimatedFareMinor = s.estimatedFareMinor trip
  redemptions : db.redemptions = s.settledOn trip

section Carried

variable {promo : PromoCode} {q : Query} {percent : ℚ} {n fee : ℤ}

/-- What the booking makes of a quote and a promo, in minor units. -/
def bookedAdjust (percent : ℚ) (n fee : ℤ) (promo : PromoCode) : Pricing.Adjusted :=
  Pricing.adjust n percent fee
    (Promotions.computeDiscount promo (n + percentOf percent n + fee)) (percentOf percent n)

lemma adjusted_quote (hpercent : 0 ≤ percent) (hn : 0 ≤ n) {c : Currency}
    (hfare : q.fare = fromMinor (n + percentOf percent n + fee) c)
    (htax : q.tax = .quoted percent (fromMinor fee c)) :
    adjusted q promo = some
      { tax := fromMinor (bookedAdjust percent n fee promo).tax promo.currency
        full := fromMinor (bookedAdjust percent n fee promo).full promo.currency
        discount := fromMinor (bookedAdjust percent n fee promo).discount promo.currency
        payable := fromMinor (bookedAdjust percent n fee promo).payable promo.currency
        relief := fromMinor (bookedAdjust percent n fee promo).relief promo.currency } := by
  rw [adjusted, taxAdjust.eq_def, htax, hfare,
    fromMinor_currency (n + percentOf percent n + fee) c promo.currency,
    fromMinor_currency fee c promo.currency, computeDiscount_minor]
  dsimp only
  rw [Option.map_some, splitQuoted_minor, splitAdditive_total hpercent hn, adjust_minor]
  rfl

lemma relieve_fare {s : Service} {trip : ℕ} {adj : Adjusted} {c : Currency} {total : ℤ}
    {a : Pricing.Adjusted} (hrelief : adj.relief = fromMinor a.relief c)
    (hestimated : s.estimatedFareMinor trip = some total) (hfull : a.full = total - a.relief)
    (hnonneg : 0 ≤ a.full) (hless : 0 ≤ a.relief) :
    (s.relieve (some trip) (some adj) c).estimatedFareMinor trip = some a.full := by
  rw [Service.relieve]
  dsimp only
  split_ifs with hpos
  · show Function.update s.estimatedFareMinor trip _ trip = some a.full
    rw [Function.update_self, hestimated, hrelief, toMinor_fromMinor, Option.getD_some, ← hfull,
      max_eq_right hnonneg]
  · have hzero : a.relief = 0 := by
      rw [hrelief, ← fromMinor_zero (c := c), not_lt, fromMinor_le] at hpos
      exact le_antisymm hpos hless
    rw [hestimated, hfull, hzero, sub_zero]

lemma relieve_db (s : Service) (trip : Option ℕ) (adj : Option Adjusted) (c : Currency) :
    (s.relieve trip adj c).db = s.db := by
  cases trip with
  | none => rfl
  | some trip =>
      cases adj with
      | none => rfl
      | some adj =>
          rw [Service.relieve]
          dsimp only
          split_ifs <;> rfl

lemma discountMinor_settled {s : Service} {trip : ℕ} {t : Settlement.Trip}
    {db : Settlement.TripDb} (ht : SettledAs s trip t db) {old : List PromoRedemption}
    {r : PromoRedemption} (hrows : s.db.redemptions.rows = old ++ [r])
    (hold : ∀ r ∈ old, r.trip ≠ some trip) (htrip : r.trip = some trip)
    (hstate : r.state = .committed) :
    Settlement.discountMinor t db = r.discountAmountMinor := by
  have hnone : old.filter (fun r => decide (r.trip = some trip)) = [] := by
    rw [List.filter_eq_nil_iff]
    intro r hr
    simpa using hold r hr
  have hone : [r].filter (fun r => decide (r.trip = some trip)) = [r] :=
    List.filter_cons_of_pos (by simpa using htrip)
  have hheld : (settledRedemption r).held = true := by
    rw [Settlement.PromoRedemption.held, settledRedemption, hstate]
    rfl
  have hon : (s.settledOn trip).rows = [settledRedemption r] := by
    show (s.db.redemptions.rows.filter fun r => decide (r.trip = some trip)).map
      settledRedemption = _
    rw [hrows, List.filter_append, hnone, hone]
    rfl
  rw [Settlement.discountMinor, ht.platformFunded, ht.redemptions, hon]
  show (([settledRedemption r].filter Settlement.PromoRedemption.held).map
    Settlement.PromoRedemption.discountAmountMinor).sum = _
  rw [List.filter_cons_of_pos hheld]
  exact add_zero _

end Carried

/-- The fare of a trip booked with a promo is, less the discount it holds, what the rider was
shown, and it is settled in the parts of the booking: by the split that was stored, and by the one
that is worked out. -/
theorem settled_as_booked {dir : Directory} {s s' : Service} {now trip : ℕ} {q : Query}
    {r : PromoResult} {p : Priced} {t : Settlement.Trip} {db : Settlement.TripDb}
    (hmode : p.taxMode = .additive) (hmin : 0 ≤ p.values.minFare)
    (hpercent : 0 ≤ p.values.gstPercent) (hfee : 0 ≤ p.perTripFee)
    (hsensible : ∀ promo ∈ s.db.promos.rows, promo.Sensible)
    (hfare : q.fare = p.totalFare) (htax : q.tax = .quoted p.values.gstPercent p.perTripFee)
    (hestimated : s.estimatedFareMinor trip = some (toMinor p.totalFare p.currency))
    (hnew : ∀ r ∈ s.db.redemptions.rows, r.trip ≠ some trip)
    (hredeem : redeemPromo dir s now q (some trip) = .ok (r, s')) (hok : r.ok = true)
    (ht : SettledAs s' trip t db)
    (hsplit : t.storedSplit = some (toMinor p.meteredFare p.currency,
        toMinor p.perTripFee p.currency) ∨
      t.storedSplit = none ∧ t.additiveContext = some (p.values.gstPercent,
        toMinor p.perTripFee p.currency)) :
    (Settlement.fareMinor t - Settlement.discountMinor t db = toMinor r.finalFare p.currency ∧
      Settlement.payableMinor t db = toMinor r.finalFare p.currency ∧ 0 ≤ r.finalFare) ∧
    ∃ split, Settlement.settlementSplit t (Settlement.fareMinor t)
        (Settlement.discountMinor t db) = some split ∧
      0 ≤ split.pretax ∧ 0 ≤ split.tax ∧ 0 ≤ split.fee ∧
      split.pretax + split.tax + split.fee = Settlement.fareMinor t ∧
      fromMinor split.pretax p.currency = p.meteredFare ∧
      r.taxAmount = some (fromMinor split.tax p.currency) ∧
      fromMinor split.fee p.currency = p.perTripFee := by
  obtain ⟨promo, s₁, campaign, hpromo, hr, hrows, hfares, rfl⟩ := redeemPromo_spec hredeem hok
  obtain ⟨n, fee, hn, hpretax, -, hfeeq, htotal⟩ := Priced.minor_of_additive hmode hmin
  have hfee' : 0 ≤ fee := by
    rw [hfeeq, ← fromMinor_zero (c := p.currency), fromMinor_le] at hfee
    exact hfee
  have hadjusted : adjusted q promo = some _ :=
    adjusted_quote hpercent hn (hfare.trans htotal) (htax.trans (by rw [hfeeq]))
  have htaxBefore := percentOf_nonneg hpercent hn
  have hbefore : 0 ≤ n + percentOf p.values.gstPercent n + fee := by omega
  have hdiscount := (computeDiscount_nonneg (hsensible promo hpromo) hbefore).1
  obtain ⟨a, ha⟩ : ∃ a, bookedAdjust p.values.gstPercent n fee promo = a := ⟨_, rfl⟩
  have hadj : Pricing.adjust n p.values.gstPercent fee (Promotions.computeDiscount promo
    (n + percentOf p.values.gstPercent n + fee)) (percentOf p.values.gstPercent n) = a := ha
  obtain ⟨htaxNonneg, hfull⟩ := adjust_nonneg hpercent hn hfee' hdiscount
  have hrelief := Pricing.adjust_relief_nonneg n p.values.gstPercent fee
    (Promotions.computeDiscount promo (n + percentOf p.values.gstPercent n + fee))
    (percentOf p.values.gstPercent n)
  have hless := Pricing.adjust_full n p.values.gstPercent fee
    (Promotions.computeDiscount promo (n + percentOf p.values.gstPercent n + fee))
    (percentOf p.values.gstPercent n)
  rw [hadj] at htaxNonneg hfull hrelief hless
  rw [ha] at hadjusted
  -- the trip's fare and the discount it holds
  have hfare' : (s₁.relieve (some trip) (adjusted q promo) promo.currency).estimatedFareMinor trip =
      some a.full := by
    rw [hadjusted]
    refine relieve_fare rfl ?_ hless (by omega) hrelief
    rw [hfares, hestimated, htotal, toMinor_fromMinor]
  have hfareMinor : Settlement.fareMinor t = a.full := by
    have hestimated' := ht.estimatedFareMinor
    rw [hfare'] at hestimated'
    rw [Settlement.fareMinor]
    rcases ht.finalFareMinor with hfinal | hfinal
    · rw [hfinal, hestimated', Option.getD_some]
    · rw [hfinal, hfare']
  have hheld : Settlement.discountMinor t db = a.discount := by
    rw [discountMinor_settled ht (by rw [relieve_db, hrows]) hnew rfl rfl]
    show toMinor (quantize (roundedDiscount promo q.fare (adjusted q promo)).1 _) _ = _
    rw [hadjusted, roundedDiscount, quantize_fromMinor, toMinor_fromMinor]
  have hpayable : a.full - a.discount = a.payable := by
    rw [← ha]
    rfl
  have hle : a.discount ≤ a.full := by
    rw [← ha]
    exact min_le_right _ _
  have hfinal : r.finalFare = fromMinor a.payable promo.currency := by
    rw [hr, hadjusted]
    rfl
  refine ⟨⟨?_, ?_, ?_⟩, ⟨n, a.tax, fee⟩, ?_, hn, htaxNonneg, hfee', ?_, ?_, ?_, ?_⟩
  · rw [hfareMinor, hheld, hpayable, hfinal, toMinor_fromMinor]
  · rw [Settlement.payableMinor, hfareMinor, hheld, min_eq_left hle, hpayable, hfinal,
      toMinor_fromMinor]
    exact max_eq_right (by omega)
  · rw [hfinal, ← fromMinor_zero (c := promo.currency), fromMinor_le]
    omega
  · rw [hfareMinor, hheld]
    rw [hpretax, hfeeq, toMinor_fromMinor, toMinor_fromMinor] at hsplit
    rcases hsplit with hstored | ⟨hstored, hcard⟩
    · exact settlementSplit_stored ht.additiveTax hstored hn hfee' htaxNonneg hfull
    · rw [settlementSplit_worked_out ht.additiveTax hstored hcard hpercent hn hfee' hdiscount hadj,
        splitOf, hadj]
  · rw [hfareMinor, hfull]
  · exact hpretax.symm
  · rw [hr, hadjusted]
    exact congrArg some (fromMinor_currency a.tax _ _)
  · exact hfeeq.symm

/-! ## A promo in dollars -/

/-- 30 dollars off. -/
def dollarCode : PromoCode where
  id := 1
  discount := .flat 3000
  currency := .usd
  isActive := true
  validFrom := 0
  validTo := 100
  redemptionCount := 0

/-- The code, its campaign of 100 dollars and a new trip. -/
def dollarService : Service where
  db :=
    { rupeeService.db with
      campaigns := Table.empty.put { rupeeCampaign with budgetMinor := some 10000 }
      promos := Table.empty.put dollarCode }
  audience := fun _ => ⟨none, false⟩
  estimatedFareMinor := fun _ => some 19950

/-- The ride of 190 dollars and 9.50 of tax. -/
def dollarQuery : Query :=
  ⟨"SAVE", 7, Pricing.dollarRide.totalFare, none, none, .quoted 5 Pricing.dollarRide.perTripFee⟩

/-- The trip, when it is settled from the rate card. -/
def settledTrip (s : Service) : Settlement.Trip where
  id := 1
  driver := some 8
  platformFunded := false
  currency := .usd
  finalFareMinor := none
  estimatedFareMinor := s.estimatedFareMinor 1
  additiveTax := true
  storedSplit := none
  additiveContext := some (5, 0)
  commissionPercent := none

/-- Its part of the database. -/
def settledDb (s : Service) : Settlement.TripDb where
  wallets := .empty
  ledger := .empty
  settlements := .empty
  redemptions := s.settledOn 1
  paymentMethod := none

/-- 168 dollars are shown and charged, and 8 of them are tax. -/
theorem settled_as_booked_dollars : ∃ r s',
    redeemPromo openDirectory dollarService 5 dollarQuery (some 1) = .ok (r, s') ∧
      Settlement.payableMinor (settledTrip s') (settledDb s') = toMinor r.finalFare .usd ∧
      r.taxAmount = some 8 := by
  obtain ⟨⟨r, s'⟩, hredeem, hr⟩ := Fallible.exists_of_any
    (e := redeemPromo openDirectory dollarService 5 dollarQuery (some 1))
    (f := fun x => x.1.ok && decide (x.1.taxAmount = some 8)) (by decide +kernel)
  rw [Bool.and_eq_true, decide_eq_true_eq] at hr
  have hsettled : SettledAs s' 1 (settledTrip s') (settledDb s') :=
    ⟨rfl, rfl, rfl, .inl rfl, rfl, rfl⟩
  have hcontext : some ((5 : ℚ), (0 : ℤ)) = some (Pricing.dollarRide.values.gstPercent,
      toMinor Pricing.dollarRide.perTripFee Pricing.dollarRide.currency) := by decide +kernel
  have hbooked := settled_as_booked (p := Pricing.dollarRide) (by decide +kernel)
    (by decide +kernel) (by decide +kernel) (by decide +kernel) (by
      intro promo hpromo
      obtain rfl := List.mem_singleton.mp hpromo
      exact show (0 : ℤ) ≤ 3000 by decide) rfl rfl (by decide +kernel)
    (fun r hr => by cases hr) hredeem hr.1 hsettled (.inr ⟨rfl, hcontext⟩)
  exact ⟨r, s', hredeem, hbooked.1.2.1, hr.2⟩

end SaaradhiGo.PromoCodes
