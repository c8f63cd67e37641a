/-
The surge a quote reports, and the legal cap.

The multiplier that is charged is never above the cap of the card, so the metered fare is within
the capped one.  What the quote reports is that multiplier rounded to two places: night and demand
together can have four, and the fare of the rounded multiplier is another one as soon as a half
unit lies between the two subtotals (`capped_and_reproduced_iff`).
-/
import SaaradhiGo.Pricing.Lines

namespace SaaradhiGo.Pricing

open SaaradhiGo.Money SaaradhiGo.Fares

/-! ## Rounding a fare -/

/-- How many units a fare is rounded to there are in a major unit. -/
def fareUnits : Currency → ℚ
  | .inr => 1
  | .usd => 100

/-- Both amounts reach the same units: no half unit lies between them. -/
def Alike (c : Currency) (x y : ℚ) : Prop :=
  ∀ k, Rounding.Reaches k (x * fareUnits c) ↔ Rounding.Reaches k (y * fareUnits c)

/-- The second amount reaches every unit the first one does. -/
def Covers (c : Currency) (x y : ℚ) : Prop :=
  ∀ k, Rounding.Reaches k (x * fareUnits c) → Rounding.Reaches k (y * fareUnits c)

section Round

variable {c : Currency} {x y : ℚ}

lemma fareUnits_pos (c : Currency) : 0 < fareUnits c := by
  cases c <;> norm_num [fareUnits]

lemma roundFare_eq (x : ℚ) (c : Currency) :
    roundFare x c = (Rounding.halfUp (x * fareUnits c) : ℚ) / fareUnits c := by
  cases c with
  | inr => rw [roundFare_inr, fareUnits, mul_one, div_one]
  | usd => rw [roundFare_usd, quantize_eq, fareUnits]

/-- Two fares are the same exactly when no half unit lies between the amounts. -/
theorem roundFare_eq_iff : roundFare x c = roundFare y c ↔ Alike c x y := by
  rw [roundFare_eq, roundFare_eq, Alike, ← Rounding.halfUp_eq_iff,
    div_left_inj' (fareUnits_pos c).ne']
  exact Int.cast_inj

theorem roundFare_le_iff : roundFare x c ≤ roundFare y c ↔ Covers c x y := by
  rw [roundFare_eq, roundFare_eq, Covers, ← Rounding.halfUp_le_iff,
    div_le_div_iff_of_pos_right (fareUnits_pos c)]
  exact Int.cast_le

lemma Covers.of_le (h : x ≤ y) : Covers c x y := fun _ =>
  Rounding.Reaches.mono (mul_le_mul_of_nonneg_right h (fareUnits_pos c).le)

lemma Alike.refl (x : ℚ) : Alike c x x := fun _ => Iff.rfl

lemma roundTwo_of_twoPlaces (h : TwoPlaces x) : roundTwo x = x := by
  obtain ⟨n, hn⟩ := h.exists_int
  rw [roundTwo, hn, Rounding.halfEven_intCast, ← hn]
  ring

end Round

namespace Priced

variable (p : Priced)

/-! ## The cap -/

lemma charged_le_cap : p.charged ≤ p.values.surgeCapMultiplier := min_le_right _ _

def dueAt (multiplier : ℚ) : ℚ := max p.values.minFare (p.preSurge * multiplier)

/-- What is metered is not negative: the capped ride costs no less. -/
lemma covers_cap (h : 0 ≤ p.preSurge) :
    Covers p.currency p.due (p.dueAt p.values.surgeCapMultiplier) :=
  .of_le (max_le_max le_rfl (mul_le_mul_of_nonneg_left p.charged_le_cap h))

end Priced

def Quote.pretax (q : Quote) : ℚ :=
  match q.taxMode with
  | .inclusive => q.totalFare
  | .additive => q.totalFare - q.taxAmount - q.perTripFee

lemma Priced.pretax_quote (p : Priced) (vehicleType : String) :
    (p.quote vehicleType).pretax = p.meteredFare := by
  show (match p.taxMode with
    | .inclusive => p.totalFare
    | .additive => p.totalFare - p.taxAmount - p.perTripFee) = p.meteredFare
  rw [totalFare]
  cases p.taxMode with
  | inclusive => rfl
  | additive => ring

/-! ## Cap and reported surge -/

/-- The metered fare is within the capped one and the reported surge gives it again, exactly when
the capped ride reaches every unit the ride does and no half unit lies between what the ride comes
to with the multiplier that is charged and with its two places. -/
theorem capped_and_reproduced_iff {m : Market} {r : Request} {p : Priced} {q : Quote}
    (hp : resolve m r = .ok p) (hq : quoteFare m r = .ok q) :
    (q.pretax ≤ roundFare (p.dueAt p.values.surgeCapMultiplier) q.currency ∧
        q.pretax = roundFare (p.dueAt q.surgeMultiplier) q.currency) ↔
      Covers p.currency p.due (p.dueAt p.values.surgeCapMultiplier) ∧
        Alike p.currency p.due (p.dueAt (roundTwo p.charged)) := by
  obtain rfl := quote_of_ok hp hq
  have hsurge : (p.quote r.vehicleType).surgeMultiplier = roundTwo p.charged := by
    rw [← p.surge_eq]
    rfl
  have hcurrency : (p.quote r.vehicleType).currency = p.currency := rfl
  rw [p.pretax_quote, p.meteredFare_eq, hsurge, hcurrency, roundFare_le_iff, roundFare_eq_iff]

/-- The city at midnight with three riders for two drivers: 1.25 and 1.15 together. -/
def nightCity : Market :=
  plainMarket cityValues_columns (plainZone .india .inclusive) 0 (.counts 10 15)

/-- A ride of 190 rupees costs 273 with the surge of 1.4375, and the reported 1.44 gives 274. -/
theorem not_capped_and_reproduced :
    ¬ ∀ (m : Market) (r : Request) (p : Priced) (q : Quote), resolve m r = .ok p →
      quoteFare m r = .ok q →
        q.pretax ≤ roundFare (p.dueAt p.values.surgeCapMultiplier) q.currency ∧
          q.pretax = roundFare (p.dueAt q.surgeMultiplier) q.currency := by
  intro hall
  obtain ⟨p, hp, hf⟩ := Fallible.exists_of_any (e := resolve nightCity (plainRide 10 30))
    (f := fun p => decide (roundFare p.due p.currency = 273) &&
      decide (roundFare (p.dueAt (roundTwo p.charged)) p.currency = 274)) (by decide +kernel)
  obtain ⟨q, hq, -⟩ := Fallible.exists_of_any (e := quoteFare nightCity (plainRide 10 30))
    (f := fun _ => true) (by decide +kernel)
  rw [Bool.and_eq_true, decide_eq_true_eq, decide_eq_true_eq] at hf
  have halike := ((capped_and_reproduced_iff hp hq).mp (hall _ _ p q hp hq)).2
  rw [← roundFare_eq_iff, hf.1, hf.2] at halike
  norm_num at halike

/-- The same ride by day with three riders for each driver. -/
theorem capped_and_reproduced_busyCity :
    ∃ p q, resolve busyCity (plainRide 10 30) = .ok p ∧
      quoteFare busyCity (plainRide 10 30) = .ok q ∧
        q.pretax ≤ roundFare (p.dueAt p.values.surgeCapMultiplier) q.currency ∧
          q.pretax = roundFare (p.dueAt q.surgeMultiplier) q.currency := by
  obtain ⟨p, hp, hf⟩ := Fallible.exists_of_any (e := resolve busyCity (plainRide 10 30))
    (f := fun p =>
      decide (roundFare p.due p.currency ≤
        roundFare (p.dueAt p.values.surgeCapMultiplier) p.currency) &&
      decide (roundFare p.due p.currency = roundFare (p.dueAt (roundTwo p.charged)) p.currency))
    (by decide +kernel)
  obtain ⟨q, hq, -⟩ := Fallible.exists_of_any (e := quoteFare busyCity (plainRide 10 30))
    (f := fun _ => true) (by decide +kernel)
  rw [Bool.and_eq_true, decide_eq_true_eq, decide_eq_true_eq] at hf
  have hcondition := hf.imp roundFare_le_iff.mp roundFare_eq_iff.mp
  exact ⟨p, q, hp, hq, (capped_and_reproduced_iff hp hq).mpr hcondition⟩

end SaaradhiGo.Pricing
