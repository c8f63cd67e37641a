/-
The lines of a quote add up to its total.

Each line is rounded on its own and the fare is rounded once from the unrounded subtotal, so the
lines leave a residual that is stated as the line "Rounding".  The lines then make up the total
exactly.  The residual is what rounding the subtotal moves it by less what rounding the lines
moves them by (`residual_eq`); up to four lines are not whole minor units, so it can come out
larger than the rounding of one amount (`lines_add_up`).
-/
import SaaradhiGo.Pricing.Quote
import SaaradhiGo.Lib.Fallible
import SaaradhiGo.Fares.History

namespace SaaradhiGo.Pricing

open SaaradhiGo.Money SaaradhiGo.Fares

/-! ## Rounding an amount -/

section Amount

variable (x : ℚ) (c : Currency)

lemma quantize_eq : quantize x c = (Rounding.halfUp (x * 100) : ℚ) / 100 := by
  cases c <;> rfl

def lineError : ℚ := quantize x c - x

lemma lineError_eq : lineError x c = Rounding.error (x * 100) / 100 := by
  rw [lineError, quantize_eq, Rounding.error]
  ring

lemma abs_lineError_le : |lineError x c| ≤ 1 / 200 := by
  have h := abs_le.mp (Rounding.abs_error_le (x * 100))
  rw [lineError_eq, abs_le]
  constructor <;> linarith [h.1, h.2]

variable {x}

lemma TwoPlaces.exists_int (h : TwoPlaces x) : ∃ n : ℤ, x * 100 = n :=
  ⟨(x * 100).num, ((Rat.den_eq_one_iff _).mp h).symm⟩

/-- An amount of whole minor units stays. -/
lemma lineError_of_twoPlaces (h : TwoPlaces x) : lineError x c = 0 := by
  obtain ⟨n, hn⟩ := h.exists_int
  rw [lineError_eq, hn, Rounding.error_intCast, zero_div]

variable (x)

lemma roundFare_usd : roundFare x .usd = quantize x .usd := rfl

/-- Whole rupees are whole paise. -/
lemma roundFare_inr : roundFare x .inr = Rounding.halfUp x := by
  rw [roundFare, quantize_eq]
  have hwhole : (roundHalfUp x : ℚ) * 100 = ((roundHalfUp x * 100 : ℤ) : ℚ) := by push_cast; rfl
  rw [hwhole, Rounding.halfUp_intCast]
  push_cast
  rw [mul_div_assoc, div_self (by norm_num), mul_one]
  rfl

end Amount

/-! ## Whole minor units -/

section Minor

variable {a b : ℤ} {c : Currency}

lemma fromMinor_eq : fromMinor a c = (a : ℚ) / 100 := by
  cases c <;> rfl

lemma fromMinor_add : fromMinor a c + fromMinor b c = fromMinor (a + b) c := by
  rw [fromMinor_eq, fromMinor_eq, fromMinor_eq]
  push_cast
  ring

lemma fromMinor_sub : fromMinor a c - fromMinor b c = fromMinor (a - b) c := by
  rw [fromMinor_eq, fromMinor_eq, fromMinor_eq]
  push_cast
  ring

lemma fromMinor_le : fromMinor a c ≤ fromMinor b c ↔ a ≤ b := by
  rw [fromMinor_eq, fromMinor_eq, div_le_div_iff_of_pos_right (by norm_num)]
  exact Int.cast_le

lemma fromMinor_min : min (fromMinor a c) (fromMinor b c) = fromMinor (min a b) c := by
  rcases le_total a b with h | h
  · rw [min_eq_left h, min_eq_left (fromMinor_le.mpr h)]
  · rw [min_eq_right h, min_eq_right (fromMinor_le.mpr h)]

lemma quantize_percent (percent : ℚ) :
    quantize (fromMinor a c * percent / 100) c =
      fromMinor (Rounding.halfUp ((a : ℚ) * (percent / 100))) c := by
  rw [quantize_eq, fromMinor_eq, fromMinor_eq]
  congr 3
  ring

lemma quantize_quotient (r : ℚ) :
    quantize (fromMinor a c / r) c = fromMinor (Rounding.halfUp ((a : ℚ) / r)) c := by
  rw [quantize_eq, fromMinor_eq, fromMinor_eq]
  congr 3
  ring

end Minor

/-! ## The values of the card -/

/-- The defaults are amounts of two places. -/
lemma columns_defaults : Columns defaults := by
  constructor <;> decide +kernel

lemma columns_of_resolve {m : Market} {r : Request} {p : Priced} (h : resolve m r = .ok p) :
    Columns p.values := by
  rw [resolve] at h
  split at h
  · cases h
  dsimp only at h
  split at h
  · cases h
  cases h
  rw [Priced.values]
  dsimp only
  cases hcard : ((r.pickup.bind m.findZoneForPoint).bind fun z =>
      (m.findVehicleType r.vehicleType).bind fun vt =>
        getActiveRateCard m.region m.cards z.toServiceZone vt m.now) with
  | none => exact columns_defaults
  | some c =>
      obtain ⟨z, -, hz⟩ := Option.bind_eq_some_iff.mp hcard
      obtain ⟨vt, -, hlookup⟩ := Option.bind_eq_some_iff.mp hz
      exact m.columns c (mem_active.mp (active_of_lookup hlookup)).1

namespace Priced

variable (p : Priced)

/-! ## What the lines are made of -/

/-- Night and demand together, within the cap. -/
def charged : ℚ :=
  min ((if p.nightApplied then p.values.nightSurgeMultiplier else 1) * p.dyn)
    p.values.surgeCapMultiplier

/-- What the ride comes to before anything is rounded. -/
def due : ℚ := max p.values.minFare (p.preSurge * p.charged)

def BelowMinimum : Prop := p.preSurge * p.charged < p.values.minFare

instance : Decidable p.BelowMinimum := inferInstanceAs (Decidable (_ < _))

/-- Night and demand multiply what is metered, and the cap replaces them. -/
lemma surged_eq : p.surged = (p.preSurge * p.charged, p.charged) := by
  have hcap : ∀ x y : ℚ, min x y = if y < x then y else x := by
    intro x y
    split_ifs with h
    · exact min_eq_right h.le
    · exact min_eq_left (not_lt.mp h)
  have hdyn : ¬ p.dyn ≠ 1 → p.dyn = 1 := not_not.mp
  rw [surged, charged, hcap]
  split_ifs <;> simp_all [mul_assoc]

lemma surge_eq : p.surge = p.charged := by
  rw [surge, surged_eq]

lemma minFareApplied_eq : p.minFareApplied = decide p.BelowMinimum := by
  rw [minFareApplied, surged_eq]
  rfl

lemma subtotal_eq : p.subtotal = p.due := by
  rw [subtotal, minFareApplied_eq, surged_eq, due]
  by_cases h : p.BelowMinimum
  · rw [if_pos (decide_eq_true h), max_eq_left (le_of_lt h)]
  · rw [if_neg (by rw [decide_eq_true_eq]; exact h), max_eq_right (not_lt.mp h)]

lemma due_of_below (h : p.BelowMinimum) : p.due = p.values.minFare := max_eq_left (le_of_lt h)

lemma due_of_not_below (h : ¬ p.BelowMinimum) : p.due = p.preSurge * p.charged :=
  max_eq_right (not_lt.mp h)

def upliftLines : List ℚ :=
  (if p.charged ≠ 1 then [p.preSurge * p.charged - p.preSurge] else []) ++
  (if p.BelowMinimum then [p.values.minFare - p.preSurge * p.charged] else [])

lemma map_uplifts :
    p.uplifts.map (·.amount) = p.upliftLines.map fun line => quantize line p.currency := by
  rw [uplifts, upliftLines, surge_eq, minFareApplied_eq]
  split_ifs <;> simp_all

/-- Before they are rounded the lines make up what the ride comes to. -/
lemma preSurge_add_upliftLines : p.preSurge + p.upliftLines.sum = p.due := by
  rw [upliftLines]
  by_cases hmin : p.BelowMinimum
  · rw [p.due_of_below hmin, if_pos hmin]
    split_ifs with h
    · simp
    · rw [not_not.mp h]
      simp
  · rw [p.due_of_not_below hmin, if_neg hmin]
    split_ifs with h
    · simp
    · rw [not_not.mp h]
      simp

/-- What rounding adds to all the lines. -/
def drift : ℚ :=
  lineError p.values.baseFare p.currency + lineError p.distanceFare p.currency +
    lineError p.timeFare p.currency +
    (p.upliftLines.map fun line => lineError line p.currency).sum

lemma sum_map_quantize (c : Currency) (lines : List ℚ) :
    (lines.map fun line => quantize line c).sum =
      lines.sum + (lines.map fun line => lineError line c).sum := by
  induction lines with
  | nil => simp
  | cons line lines ih =>
      simp only [List.map_cons, List.sum_cons, ih, lineError]
      ring

lemma explained_eq : p.explained = p.due + p.drift := by
  rw [explained, total, map_uplifts, sum_map_quantize, drift, ← p.preSurge_add_upliftLines,
    preSurge]
  simp only [lineError]
  ring

lemma meteredFare_eq : p.meteredFare = roundFare p.due p.currency := by
  rw [meteredFare, subtotal_eq]

/-- The residual: what rounding adds to the whole less what it adds to the lines. -/
lemma residual_eq : p.residual = p.meteredFare - p.due - p.drift := by
  rw [residual, explained_eq]
  ring

/-! ## The sum of the lines -/

lemma total_append (l l' : List Adjustment) : total (l ++ l') = total l + total l' := by
  rw [total, List.map_append, List.sum_append]
  rfl

lemma total_rounding : total p.rounding = p.residual := by
  rw [rounding]
  split_ifs with h
  · exact add_zero _
  · exact (not_not.mp h).symm

lemma total_charges : p.meteredFare + total p.charges = p.totalFare := by
  rw [charges, totalFare]
  cases p.taxMode with
  | inclusive => exact add_zero _
  | additive =>
      dsimp only
      rw [total_append]
      split_ifs with htax hfee hfee <;> simp_all [total]
      ring

/-- The lines make up the total. -/
theorem total_lines (vehicleType : String) :
    (p.quote vehicleType).totalFare =
      (p.quote vehicleType).baseFare + (p.quote vehicleType).distanceFare +
        (p.quote vehicleType).timeFare + total (p.quote vehicleType).fareAdjustments := by
  show p.totalFare = quantize p.values.baseFare p.currency + quantize p.distanceFare p.currency +
    quantize p.timeFare p.currency + total (p.uplifts ++ p.rounding ++ p.charges)
  rw [total_append, total_append, total_rounding, ← total_charges, residual, explained]
  ring

/-! ## How large the residual is -/

/-- A half rupee lies between what the ride comes to and what its rounded lines come to. -/
def HalfRupeeBetween : Prop :=
  ∃ k : ℤ, (Rounding.Reaches (k + 1) p.due ∧ p.due + p.drift < k + 1 / 2) ∨
    (¬ Rounding.Reaches (k + 1) p.due ∧ (k : ℚ) + 1 / 2 < p.due + p.drift)

/-- Every line but the base lies half way between two minor units and all are rounded the same
way; the ride costs the minimum fare, or is rounded the other way. -/
def AllHalfWay : Prop :=
  p.charged ≠ 1 ∧ ∃ e : ℚ, |e| = 1 / 200 ∧
    (∀ line ∈ p.distanceFare :: p.timeFare :: p.upliftLines, lineError line p.currency = e) ∧
    (p.BelowMinimum ∨ lineError p.due p.currency = -e)

/-- The roundings of the lines add up to more than the rounding of one amount. -/
def RoundingsAddUp : Prop :=
  match p.currency with
  | .inr => p.HalfRupeeBetween
  | .usd => p.AllHalfWay

/-- Whole rupees: the residual is at most half a rupee while the lines stay on that side of every half rupee. -/
lemma abs_residual_inr (hc : p.currency = .inr) :
    |p.residual| ≤ 1 / 2 ↔ ¬ p.HalfRupeeBetween := by
  have hres : p.residual = Rounding.halfUp p.due - (p.due + p.drift) := by
    rw [residual_eq, meteredFare_eq, hc, roundFare_inr]
    ring
  constructor
  · rintro habs ⟨k, ⟨hreach, hlt⟩ | ⟨hreach, hlt⟩⟩
    · have hk : k + 1 ≤ Rounding.halfUp p.due := Rounding.le_halfUp.mpr hreach
      have hk' : (k : ℚ) + 1 ≤ Rounding.halfUp p.due := by exact_mod_cast hk
      have hle := (abs_le.mp habs).2
      rw [hres] at hle
      linarith
    · have hk : Rounding.halfUp p.due ≤ k := by
        by_contra hcon
        exact hreach (Rounding.le_halfUp.mp (by omega))
      have hk' : (Rounding.halfUp p.due : ℚ) ≤ k := by exact_mod_cast hk
      have hge := (abs_le.mp habs).1
      rw [hres] at hge
      linarith
  · intro hnone
    by_contra habs
    rw [abs_le, not_and_or, not_le, not_le, hres] at habs
    apply hnone
    rcases habs with hlow | hhigh
    · -- the lines come to more than half a rupee above the fare
      refine ⟨Rounding.halfUp p.due, .inr ⟨?_, by linarith⟩⟩
      rw [← Rounding.le_halfUp]
      omega
    · refine ⟨Rounding.halfUp p.due - 1, .inl ⟨?_, ?_⟩⟩
      · rw [sub_add_cancel, ← Rounding.le_halfUp]
      · push_cast
        linarith

/-- Whole minor units that four amounts of at most half a unit add up to are two only when all
four are the same half. -/
lemma abs_le_unit_iff {r a b c d : ℚ} {n : ℤ} (hn : r * 100 = n) (hr : r = a + b + c + d)
    (ha : |a| ≤ 1 / 200) (hb : |b| ≤ 1 / 200) (hc : |c| ≤ 1 / 200) (hd : |d| ≤ 1 / 200) :
    |r| ≤ 1 / 100 ↔ ¬ ∃ e : ℚ, |e| = 1 / 200 ∧ a = e ∧ b = e ∧ c = e ∧ d = e := by
  rw [abs_le] at ha hb hc hd
  constructor
  · rintro habs ⟨e, he, rfl, rfl, rfl, rfl⟩
    rw [abs_le] at habs
    rcases (abs_eq (by norm_num)).mp he with h | h <;> rw [h] at hr <;> linarith [habs.1, habs.2]
  · intro hnone
    by_contra habs
    apply hnone
    have htwo : 2 ≤ n ∨ n ≤ -2 := by
      by_contra hcon
      have hlow : (-1 : ℚ) ≤ n := by exact_mod_cast (by omega : -1 ≤ n)
      have hhigh : (n : ℚ) ≤ 1 := by exact_mod_cast (by omega : n ≤ 1)
      exact habs (abs_le.mpr ⟨by linarith, by linarith⟩)
    rcases htwo with h | h
    · have h' : (2 : ℚ) ≤ n := by exact_mod_cast h
      exact ⟨1 / 200, by norm_num, by linarith, by linarith, by linarith, by linarith⟩
    · have h' : (n : ℚ) ≤ -2 := by exact_mod_cast h
      exact ⟨-(1 / 200), by norm_num, by linarith, by linarith, by linarith, by linarith⟩

lemma exists_quantize (x : ℚ) (c : Currency) : ∃ n : ℤ, quantize x c * 100 = n :=
  ⟨Rounding.halfUp (x * 100), by rw [quantize_eq]; ring⟩

lemma exists_sum_quantize (c : Currency) (lines : List ℚ) :
    ∃ n : ℤ, (lines.map fun line => quantize line c).sum * 100 = n := by
  induction lines with
  | nil => exact ⟨0, by simp⟩
  | cons line lines ih =>
      obtain ⟨n, hn⟩ := ih
      obtain ⟨k, hk⟩ := exists_quantize line c
      refine ⟨k + n, ?_⟩
      rw [List.map_cons, List.sum_cons, add_mul, hk, hn]
      push_cast
      rfl

/-- The residual is an amount of whole minor units. -/
lemma exists_residual (hc : p.currency = .usd) : ∃ n : ℤ, p.residual * 100 = n := by
  obtain ⟨f, hf⟩ := exists_quantize p.due p.currency
  obtain ⟨b, hb⟩ := exists_quantize p.values.baseFare p.currency
  obtain ⟨d, hd⟩ := exists_quantize p.distanceFare p.currency
  obtain ⟨t, ht⟩ := exists_quantize p.timeFare p.currency
  obtain ⟨u, hu⟩ := exists_sum_quantize p.currency p.upliftLines
  refine ⟨f - (b + d + t + u), ?_⟩
  have hmetered : p.meteredFare = quantize p.due p.currency := by
    rw [meteredFare_eq, hc, roundFare_usd]
  rw [residual, explained, total, map_uplifts, hmetered]
  push_cast
  rw [← hf, ← hb, ← hd, ← ht, ← hu]
  ring

/-- Minor units: the residual is at most one of them but when four roundings of half a unit add
up. -/
lemma abs_residual_usd (hcolumns : Columns p.values) (hc : p.currency = .usd) :
    |p.residual| ≤ 1 / 100 ↔ ¬ p.AllHalfWay := by
  have hbase : lineError p.values.baseFare p.currency = 0 :=
    lineError_of_twoPlaces _ hcolumns.baseFare
  have hmetered : p.meteredFare - p.due = lineError p.due p.currency := by
    rw [meteredFare_eq, hc, roundFare_usd, lineError]
  have hres : p.residual = lineError p.due p.currency - p.drift := by
    rw [residual_eq, hmetered]
  obtain ⟨n, hn⟩ := p.exists_residual hc
  have hneg : ∀ x : ℚ, |-lineError x p.currency| ≤ 1 / 200 := by
    intro x
    rw [abs_neg]
    exact abs_lineError_le x p.currency
  by_cases hsurge : p.charged = 1
  · -- three roundings at most
    refine iff_of_true ?_ (fun h => h.1 hsurge)
    have hthree : ∃ d : ℚ, |d| ≤ 1 / 200 ∧ p.residual =
        -lineError p.distanceFare p.currency + -lineError p.timeFare p.currency + d + 0 := by
      rw [hres, drift, upliftLines, if_neg (not_not.mpr hsurge), hbase]
      by_cases hmin : p.BelowMinimum
      · refine ⟨-lineError (p.values.minFare - p.preSurge * p.charged) p.currency, hneg _, ?_⟩
        have hsub : lineError p.due p.currency = 0 := by
          rw [p.due_of_below hmin]
          exact lineError_of_twoPlaces _ hcolumns.minFare
        rw [if_pos hmin, hsub]
        simp
        ring
      · refine ⟨lineError p.due p.currency, abs_lineError_le _ _, ?_⟩
        rw [if_neg hmin]
        simp
        ring
    obtain ⟨d, hd, hsum⟩ := hthree
    refine (abs_le_unit_iff hn hsum (hneg _) (hneg _) hd (by norm_num)).mpr ?_
    rintro ⟨e, he, -, -, -, h0⟩
    rw [← h0, abs_zero] at he
    norm_num at he
  · by_cases hmin : p.BelowMinimum
    · -- the minimum fare is an amount of whole minor units
      have hsub : lineError p.due p.currency = 0 := by
        rw [p.due_of_below hmin]
        exact lineError_of_twoPlaces _ hcolumns.minFare
      have hsum : p.residual = -lineError p.distanceFare p.currency +
          -lineError p.timeFare p.currency +
            -lineError (p.preSurge * p.charged - p.preSurge) p.currency +
              -lineError (p.values.minFare - p.preSurge * p.charged) p.currency := by
        rw [hres, drift, upliftLines, if_pos hsurge, if_pos hmin, hbase, hsub]
        simp
        ring
      rw [abs_le_unit_iff hn hsum (hneg _) (hneg _) (hneg _) (hneg _), not_iff_not, AllHalfWay,
        upliftLines, if_pos hsurge, if_pos hmin]
      simp only [List.singleton_append, List.mem_cons, List.not_mem_nil, or_false, forall_eq_or_imp,
        forall_eq]
      constructor
      · rintro ⟨e, he, hd, ht, hs, hm⟩
        exact ⟨hsurge, -e, by rw [abs_neg, he], ⟨by linarith, by linarith, by linarith,
          by linarith⟩, .inl hmin⟩
      · rintro ⟨-, e, he, ⟨hd, ht, hs, hm⟩, -⟩
        exact ⟨-e, by rw [abs_neg, he], by linarith, by linarith, by linarith, by linarith⟩
    · have hsum : p.residual = -lineError p.distanceFare p.currency +
          -lineError p.timeFare p.currency +
            -lineError (p.preSurge * p.charged - p.preSurge) p.currency +
              lineError p.due p.currency := by
        rw [hres, drift, upliftLines, if_pos hsurge, if_neg hmin, hbase]
        simp
        ring
      rw [abs_le_unit_iff hn hsum (hneg _) (hneg _) (hneg _) (abs_lineError_le _ _), not_iff_not,
        AllHalfWay, upliftLines, if_pos hsurge, if_neg hmin]
      simp only [List.append_nil, List.mem_cons, List.not_mem_nil, or_false, forall_eq_or_imp,
        forall_eq]
      constructor
      · rintro ⟨e, he, hd, ht, hs, hm⟩
        exact ⟨hsurge, -e, by rw [abs_neg, he], ⟨by linarith, by linarith, by linarith⟩,
          .inr (by linarith)⟩
      · rintro ⟨-, e, he, ⟨hd, ht, hs⟩, hmin' | hm⟩
        · exact absurd hmin' hmin
        · exact ⟨-e, by rw [abs_neg, he], by linarith, by linarith, by linarith, by linarith⟩

lemma mem_adjustments {a : Adjustment} (vehicleType : String) (hcode : a.code = .rounding) :
    a ∈ (p.quote vehicleType).fareAdjustments ↔
      p.residual ≠ 0 ∧ a = ⟨.rounding, "Rounding", p.residual⟩ := by
  show a ∈ p.uplifts ++ p.rounding ++ p.charges ↔ _
  have huplifts : a ∉ p.uplifts := by
    intro ha
    rw [uplifts] at ha
    split_ifs at ha <;> simp at ha
    · rcases ha with rfl | rfl <;> cases hcode
    · rw [ha] at hcode
      cases hcode
    · rw [ha] at hcode
      cases hcode
  have hcharges : a ∉ p.charges := by
    intro ha
    rw [charges] at ha
    cases hmode : p.taxMode with
    | inclusive =>
        rw [hmode] at ha
        cases ha
    | additive =>
        rw [hmode] at ha
        dsimp only at ha
        split_ifs at ha <;> simp at ha
        · rcases ha with rfl | rfl <;> cases hcode
        · rw [ha] at hcode
          cases hcode
        · rw [ha] at hcode
          cases hcode
  rw [List.mem_append, List.mem_append, or_iff_left hcharges, or_iff_right huplifts, rounding]
  split_ifs with h <;> simp [h]

end Priced

/-! ## The lines of a quote -/

/-- What the rounding line may come to: half a rupee, or one minor unit. -/
def roundingBound : Currency → ℚ
  | .inr => 1 / 2
  | .usd => 1 / 100

lemma roundingBound_nonneg (c : Currency) : 0 ≤ roundingBound c := by
  cases c <;> norm_num [roundingBound]

lemma quote_of_ok {m : Market} {r : Request} {p : Priced} {q : Quote} (hp : resolve m r = .ok p)
    (hq : quoteFare m r = .ok q) : q = p.quote r.vehicleType := by
  rw [quoteFare, hp] at hq
  dsimp only at hq
  split at hq
  · cases hq
  · exact (Except.ok.inj hq).symm

/-- The lines of a quote make up its total, and the line of the rounding is within its bound
except where the roundings of the lines add up. -/
theorem lines_add_up {m : Market} {r : Request} {p : Priced} {q : Quote}
    (hp : resolve m r = .ok p) (hq : quoteFare m r = .ok q) :
    q.totalFare = q.baseFare + q.distanceFare + q.timeFare + total q.fareAdjustments ∧
      ((∀ a ∈ q.fareAdjustments, a.code = .rounding → |a.amount| ≤ roundingBound q.currency) ↔
        ¬ p.RoundingsAddUp) := by
  obtain rfl := quote_of_ok hp hq
  refine ⟨p.total_lines r.vehicleType, ?_⟩
  have hline : (∀ a ∈ (p.quote r.vehicleType).fareAdjustments, a.code = .rounding →
      |a.amount| ≤ roundingBound p.currency) ↔ |p.residual| ≤ roundingBound p.currency := by
    constructor
    · intro hall
      by_cases hzero : p.residual = 0
      · rw [hzero, abs_zero]
        exact roundingBound_nonneg _
      · have hmem := (p.mem_adjustments (a := ⟨.rounding, "Rounding", p.residual⟩)
          r.vehicleType rfl).mpr ⟨hzero, rfl⟩
        have hle := hall _ hmem rfl
        exact hle
    · intro hle a ha hcode
      obtain ⟨-, rfl⟩ := (p.mem_adjustments _ hcode).mp ha
      exact hle
  have hcurrency : (p.quote r.vehicleType).currency = p.currency := rfl
  rw [hcurrency, hline, Priced.RoundingsAddUp]
  cases hc : p.currency with
  | inr => exact p.abs_residual_inr hc
  | usd => exact p.abs_residual_usd (columns_of_resolve hp) hc

/-! ## A market with one card -/

def plainCard (v : CardValues) : RateCard := ⟨1, 1, 1, v, 0, none, 1, true, ""⟩

/-- A zone of a country, as its defaults make it. -/
def plainZone (country : Country) (taxMode : TaxMode) : Zone where
  id := 1
  parent := none
  code := "CITY"
  country := some country
  currency := some country.currency
  distanceUnit := some country.distanceUnit
  taxMode := some taxMode
  perTripFee := 0
  perTripFeeLabel := ""

def plainCards (v : CardValues) : Cards := ⟨Table.empty.put (plainCard v), 2⟩

lemma plainCards_columns {v : CardValues} (h : Columns v) :
    ∀ c ∈ (plainCards v).cards.rows, Columns c.values := by
  intro c hc
  obtain rfl := List.mem_singleton.mp hc
  exact h

/-- The market of one zone and one card, at an hour of the day and with the same drivers and riders
everywhere. -/
def plainMarket {v : CardValues} (h : Columns v) (zone : Zone) (hour : ℤ) (reading : Reading) :
    Market where
  region := ⟨Table.empty.put zone.toServiceZone, [1]⟩
  cards := plainCards v
  columns := plainCards_columns h
  findZoneForPoint := fun _ => some zone
  findVehicleType := fun name => if name = "sedan" then some 1 else none
  localHour := fun _ => some hour
  redis := fun _ => reading
  allowDefaultFare := false
  now := 100

def plainRide (km min : ℚ) : Request := ⟨some km, some min, "sedan", some (17, 78)⟩

/-- The values of a city card in rupees. -/
def cityValues : CardValues where
  baseFare := 25
  perKmFare := 51 / 4
  perMinFare := 5 / 4
  minFare := 50
  nightSurgeMultiplier := 5 / 4
  nightSurgeStartHour := 23
  nightSurgeEndHour := 5
  surgeCapMultiplier := 3 / 2
  gstPercent := 5

lemma cityValues_columns : Columns cityValues := by
  constructor <;> decide +kernel

/-- A city by day with three riders for each driver. -/
def busyCity : Market :=
  plainMarket cityValues_columns (plainZone .india .inclusive) 12 (.counts 10 30)

/-- Three roundings bring the lines to 135.51 rupees while the fare is 135. -/
theorem not_lines_add_up :
    ¬ ∀ (m : Market) (r : Request) (q : Quote), quoteFare m r = .ok q →
      q.totalFare = q.baseFare + q.distanceFare + q.timeFare + total q.fareAdjustments ∧
        ∀ a ∈ q.fareAdjustments, a.code = .rounding → |a.amount| ≤ roundingBound q.currency := by
  intro hall
  obtain ⟨q, hq, hf⟩ := Fallible.exists_of_any (e := quoteFare busyCity (plainRide (171 / 50) (57 / 2)))
    (f := fun q => q.fareAdjustments.any fun a =>
      a.code = .rounding && decide (roundingBound q.currency < |a.amount|)) (by decide +kernel)
  obtain ⟨a, ha, hbound⟩ := List.any_eq_true.mp hf
  rw [Bool.and_eq_true, decide_eq_true_eq, decide_eq_true_eq] at hbound
  exact absurd ((hall _ _ q hq).2 a ha hbound.1) (not_le.mpr hbound.2)

/-- Four kilometres in the same city. -/
theorem lines_add_up_busyCity :
    ∃ p q, resolve busyCity (plainRide 4 20) = .ok p ∧ quoteFare busyCity (plainRide 4 20) = .ok q ∧
      q.totalFare = q.baseFare + q.distanceFare + q.timeFare + total q.fareAdjustments ∧
        ∀ a ∈ q.fareAdjustments, a.code = .rounding → |a.amount| ≤ roundingBound q.currency := by
  obtain ⟨p, hp, hf⟩ := Fallible.exists_of_any (e := resolve busyCity (plainRide 4 20))
    (f := fun p => decide (p.currency = .inr) && decide (|p.residual| ≤ roundingBound .inr))
    (by decide +kernel)
  obtain ⟨q, hq, -⟩ := Fallible.exists_of_any (e := quoteFare busyCity (plainRide 4 20))
    (f := fun q => q.totalFare = 131) (by decide +kernel)
  rw [Bool.and_eq_true, decide_eq_true_eq, decide_eq_true_eq] at hf
  have hnot : ¬ p.RoundingsAddUp := by
    rw [Priced.RoundingsAddUp, hf.1]
    exact (p.abs_residual_inr hf.1).mp hf.2
  obtain ⟨hlines, hbound⟩ := lines_add_up hp hq
  exact ⟨p, q, hp, hq, hlines, hbound.mpr hnot⟩

end SaaradhiGo.Pricing
