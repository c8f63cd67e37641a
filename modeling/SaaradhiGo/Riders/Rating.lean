/-
A rider's rating: the running mean of the scores that drivers leave, kept to two places.

Each score moves the stored mean, not the mean of the scores, and the result is rounded again.
What the roundings add, each counted for all the scores it is made over, is how far the stored
rating is from the mean: with few scores it stays within a hundredth, and from eleven scores on
there are runs in which it does not.
-/
import SaaradhiGo.Lib.Decimal
import SaaradhiGo.Lib.Precision
import SaaradhiGo.Lib.Transition
import Mathlib.Algebra.BigOperators.Group.List.Basic
import Mathlib.Algebra.Order.Ring.Int
import Mathlib.Data.Rat.Cast.Order
import Mathlib.Tactic.IntervalCases

namespace SaaradhiGo.Riders

open Transition

/-! ## The source -/

/-- `RIDER_REVIEW_RATING_THRESHOLD`, in hundredths. -/
def riderReviewRatingThreshold : ℤ := 300

/-- `RIDER_SOFT_BLOCK_THRESHOLD`, in hundredths. -/
def riderSoftBlockThreshold : ℤ := 250

def maxRatingCount : ℕ := 2147483647

/-- The rating of a rider and its flags. -/
structure Rider where
  /-- in hundredths -/
  rating : ℤ := 500
  ratingCount : ℕ := 0
  flaggedForReview : Bool := false
  reviewFlaggedAt : Option ℕ := none
  reviewClearedAt : Option ℕ := none
deriving DecidableEq

/-- What `apply_rider_rating` answers. -/
inductive Answer where
  | invalidScore
  | outOfRange
  | ok (rating : ℤ) (ratingCount : ℕ) (flaggedForReview softBlocked : Bool)
deriving DecidableEq

/-- What it raises: the comparison with a number that is none, and the save. -/
inductive Raised where
  | invalidOperation
  | dataError
deriving DecidableEq

/-- A result of the default context, which has 28 digits. -/
def inContext (q : ℚ) : ℚ := Rounding.significant 28 q

/-- `_q2`, in hundredths. -/
def q2 (v : ℚ) : ℤ := Rounding.halfUp (v * 100)

/-- `rider.rating or '5.00'`. -/
def Rider.current (r : Rider) : ℚ := if r.rating = 0 then 5 else r.rating / 100

/-- The running mean: `new = (current * n + s) / (n + 1)`, rounded. -/
def Rider.newRating (r : Rider) (s : ℚ) : ℤ :=
  q2 (inContext (inContext (inContext (r.current * r.ratingCount) + s) / (r.ratingCount + 1 : ℕ)))

/-- The rider with the new rating and its flag. -/
def Rider.rated (r : Rider) (new : ℤ) (now : ℕ) : Rider :=
  let nowShouldFlag := decide (new < riderReviewRatingThreshold)
  if nowShouldFlag && !r.flaggedForReview then
    { r with rating := new, ratingCount := r.ratingCount + 1, flaggedForReview := true,
             reviewFlaggedAt := some now }
  else if !nowShouldFlag && r.flaggedForReview then
    -- the rating climbed back above the threshold
    { r with rating := new, ratingCount := r.ratingCount + 1, flaggedForReview := false,
             reviewClearedAt := some now }
  else { r with rating := new, ratingCount := r.ratingCount + 1 }

/-- `apply_rider_rating`; the score is what `Decimal(str(score))` makes of it. -/
def applyRiderRating (r : Rider) (score : Option Python.Decimal) (now : ℕ) :
    Except Raised (Rider × Answer) :=
  match score with
  | none => .ok (r, .invalidScore)
  | some .nan => .error .invalidOperation
  | some (.infinity _) => .ok (r, .outOfRange)
  | some (.finite minus magnitude) =>
      let s : ℚ := if minus then -magnitude else magnitude
      if s < 1 ∨ 5 < s then .ok (r, .outOfRange)
      else
        let new := r.newRating s
        let next := r.rated new now
        if maxRatingCount < next.ratingCount then .error .dataError
        else .ok (next, .ok new next.ratingCount next.flaggedForReview
          (decide (new < riderSoftBlockThreshold)))

/-! ## Runs -/

/-- `Decimal(str(score))` of the whole number that `rate_trip` passes on. -/
def decimalOf (score : ℤ) : Python.Decimal := .finite (decide (score < 0)) score.natAbs

/-- A score that a driver leaves. -/
structure Given where
  score : ℤ
  now : ℕ

/-- A rider and the scores that were counted. -/
structure Rated where
  rider : Rider := {}
  scores : List ℤ := []

/-- A score is given; what is raised leaves the rider as it was. -/
def give (w : Rated) (g : Given) : Rated :=
  match applyRiderRating w.rider (some (decimalOf g.score)) g.now with
  | .ok (r, .ok ..) => ⟨r, w.scores ++ [g.score]⟩
  | .ok (r, _) => { w with rider := r }
  | .error _ => w

def mean (scores : List ℤ) : Option ℚ :=
  if scores = [] then none else some (scores.sum / scores.length)

/-- The stored rating is within a hundredth of the mean of the scores. -/
def Near (w : Rated) : Prop := ∀ m ∈ mean w.scores, |(w.rider.rating : ℚ) / 100 - m| ≤ 1 / 100

def Counts (r : Rider) (s : ℤ) : Prop := 1 ≤ s ∧ s ≤ 5 ∧ r.ratingCount < maxRatingCount

instance (r : Rider) (s : ℤ) : Decidable (Counts r s) :=
  inferInstanceAs (Decidable (_ ∧ _ ∧ _))

/-- The mean that a score moves the stored rating to before it is rounded, in hundredths. -/
def Rider.moved (r : Rider) (s : ℤ) : ℚ :=
  ((r.rating * r.ratingCount + 100 * s : ℤ) : ℚ) / (r.ratingCount + 1 : ℕ)

/-- What the roundings of a run add, each counted for all the scores it is made over. -/
def roundings : Rated → List Given → ℚ
  | _, [] => 0
  | w, g :: gs =>
      (if Counts w.rider g.score then
          (w.rider.ratingCount + 1 : ℕ) * Rounding.error (w.rider.moved g.score)
        else 0) + roundings (give w g) gs

/-! ## What one score does -/

section Give

variable {r : Rider} {w : Rated} {g : Given} {s : ℤ}

@[simp] lemma rated_rating (new : ℤ) (now : ℕ) : (r.rated new now).rating = new := by
  rw [Rider.rated]
  split_ifs <;> rfl

@[simp] lemma rated_ratingCount (new : ℤ) (now : ℕ) :
    (r.rated new now).ratingCount = r.ratingCount + 1 := by
  rw [Rider.rated]
  split_ifs <;> rfl

/-- A rating that runs of scores lead to. -/
structure Sound (w : Rated) : Prop where
  low : 100 ≤ w.rider.rating
  high : w.rider.rating ≤ 500
  count : w.rider.ratingCount = w.scores.length
  fits : w.rider.ratingCount ≤ maxRatingCount

lemma sound_new : Sound {} := ⟨by decide, by decide, rfl, Nat.zero_le _⟩

/-- The 28 digits of the context are enough: the new rating is the moved mean, rounded once. -/
lemma newRating_eq (hlow : 100 ≤ r.rating) (hhigh : r.rating ≤ 500)
    (hfits : r.ratingCount < maxRatingCount) (hs₁ : 1 ≤ s) (hs₅ : s ≤ 5) :
    r.newRating s = Rounding.halfUp (r.moved s) := by
  rw [maxRatingCount] at hfits
  have hprod : 0 ≤ r.rating * r.ratingCount ∧ r.rating * r.ratingCount ≤ 500 * 2147483647 := by
    constructor
    · exact mul_nonneg (by omega) (by omega)
    · exact mul_le_mul hhigh (by omega) (by omega) (by norm_num)
  have hcurrent : r.current = r.rating / 100 := by
    rw [Rider.current, if_neg (by omega)]
  -- the product and the sum have two places and few digits
  have hmul : inContext (r.current * r.ratingCount) = r.current * r.ratingCount := by
    refine Rounding.significant_of_digits (m := r.rating * r.ratingCount) (j := -2) ?_ ?_
    · rw [hcurrent]
      push_cast
      norm_num
      ring
    · rw [abs_of_nonneg hprod.1]
      omega
  have hsum : inContext (r.current * r.ratingCount + s) = r.current * r.ratingCount + s := by
    refine Rounding.significant_of_digits (m := r.rating * r.ratingCount + 100 * s) (j := -2) ?_ ?_
    · rw [hcurrent]
      push_cast
      norm_num
      ring
    · rw [abs_of_nonneg (by omega)]
      omega
  have hdiv : (r.current * r.ratingCount + s) / (r.ratingCount + 1 : ℕ) =
      ((r.rating * r.ratingCount + 100 * s : ℤ) : ℚ) / (r.ratingCount + 1 : ℕ) / 100 := by
    rw [hcurrent]
    push_cast
    field_simp
  rw [Rider.newRating, hmul, hsum, hdiv, q2, inContext, Rider.moved]
  apply Rounding.halfUp_significant (Nat.succ_pos _)
  rw [abs_of_nonneg (by omega)]
  omega

/-- The number that is passed on is the score. -/
lemma decimalOf_value (s : ℤ) :
    (if decide (s < 0) then -((s.natAbs : ℚ≥0) : ℚ) else ((s.natAbs : ℚ≥0) : ℚ)) = s := by
  rw [NNRat.cast_natCast]
  by_cases hs : s < 0
  · rw [if_pos (decide_eq_true hs), Nat.cast_natAbs, abs_of_neg hs]
    push_cast
    ring
  · rw [if_neg (by simpa using hs), Nat.cast_natAbs, abs_of_nonneg (not_lt.mp hs)]

lemma applyRiderRating_decimalOf (now : ℕ) :
    applyRiderRating r (some (decimalOf s)) now =
      if (s : ℚ) < 1 ∨ 5 < (s : ℚ) then .ok (r, .outOfRange)
      else if maxRatingCount < (r.rated (r.newRating s) now).ratingCount then .error .dataError
      else .ok (r.rated (r.newRating s) now, .ok (r.newRating s)
        (r.rated (r.newRating s) now).ratingCount (r.rated (r.newRating s) now).flaggedForReview
        (decide (r.newRating s < riderSoftBlockThreshold))) := by
  rw [← decimalOf_value s]
  rfl

lemma give_of_counts (h : Sound w) (hg : Counts w.rider g.score) :
    give w g = ⟨w.rider.rated (Rounding.halfUp (w.rider.moved g.score)) g.now,
      w.scores ++ [g.score]⟩ := by
  obtain ⟨hs₁, hs₅, hfits⟩ := hg
  have hrange : ¬ ((g.score : ℚ) < 1 ∨ 5 < (g.score : ℚ)) := by
    rintro (hlt | hlt)
    · exact absurd (by exact_mod_cast hlt : g.score < 1) (by omega)
    · exact absurd (by exact_mod_cast hlt : 5 < g.score) (by omega)
  rw [give, applyRiderRating_decimalOf, if_neg hrange, rated_ratingCount, if_neg (by omega)]
  dsimp only
  rw [newRating_eq h.low h.high hfits hs₁ hs₅]

lemma give_of_not_counts (hg : ¬ Counts w.rider g.score) : give w g = w := by
  rw [give, applyRiderRating_decimalOf]
  by_cases hrange : (g.score : ℚ) < 1 ∨ 5 < (g.score : ℚ)
  · rw [if_pos hrange]
  · have hs : 1 ≤ g.score ∧ g.score ≤ 5 := by
      rw [not_or, not_lt, not_lt] at hrange
      exact_mod_cast hrange
    have hfull : maxRatingCount < w.rider.ratingCount + 1 := by
      by_contra hfits
      exact hg ⟨hs.1, hs.2, by omega⟩
    rw [if_neg hrange, rated_ratingCount, if_pos hfull]

/-- Between the lowest and the highest score the moved mean stays there. -/
lemma moved_mem (hlow : 100 ≤ r.rating) (hhigh : r.rating ≤ 500) (hs₁ : 1 ≤ s) (hs₅ : s ≤ 5) :
    100 ≤ Rounding.halfUp (r.moved s) ∧ Rounding.halfUp (r.moved s) ≤ 500 := by
  have hpos : (0 : ℚ) < (r.ratingCount + 1 : ℕ) := by exact_mod_cast Nat.succ_pos _
  have hbelow : 100 * ((r.ratingCount + 1 : ℕ) : ℤ) ≤ r.rating * r.ratingCount + 100 * s := by
    have h := mul_le_mul_of_nonneg_right hlow (Int.natCast_nonneg r.ratingCount)
    push_cast
    linarith
  have habove : r.rating * r.ratingCount + 100 * s ≤ 500 * ((r.ratingCount + 1 : ℕ) : ℤ) := by
    have h := mul_le_mul_of_nonneg_right hhigh (Int.natCast_nonneg r.ratingCount)
    push_cast
    linarith
  constructor
  · rw [← Rounding.halfUp_intCast (α := ℚ) 100]
    apply Rounding.halfUp_mono
    rw [Rider.moved, le_div_iff₀ hpos]
    exact_mod_cast hbelow
  · rw [← Rounding.halfUp_intCast (α := ℚ) 500]
    apply Rounding.halfUp_mono
    rw [Rider.moved, div_le_iff₀ hpos]
    exact_mod_cast habove

lemma sound_give (g : Given) (h : Sound w) : Sound (give w g) := by
  by_cases hg : Counts w.rider g.score
  · obtain ⟨hlow, hhigh⟩ := moved_mem h.low h.high hg.1 hg.2.1
    rw [give_of_counts h hg]
    refine ⟨by rw [rated_rating]; exact hlow, by rw [rated_rating]; exact hhigh, ?_, ?_⟩
    · rw [rated_ratingCount, h.count, List.length_append, List.length_singleton]
    · rw [rated_ratingCount]
      exact hg.2.2
  · rw [give_of_not_counts hg]
    exact h

end Give

/-! ## How far the rating is from the mean -/

section Excess

variable {w : Rated} {gs : List Given}

/-- The stored rating counted for all scores, less the scores, in hundredths. -/
def excess (w : Rated) : ℤ := w.rider.rating * w.scores.length - 100 * w.scores.sum

/-- The rating is near when its excess is no more than a hundredth for each score. -/
lemma near_iff : Near w ↔ w.scores = [] ∨ |excess w| ≤ w.scores.length := by
  rw [Near, mean]
  by_cases hempty : w.scores = []
  · rw [if_pos hempty]
    exact iff_of_true (fun m hm => absurd hm (Option.not_mem_none m)) (.inl hempty)
  · have hpos : (0 : ℚ) < w.scores.length := by
      exact_mod_cast List.length_pos_of_ne_nil hempty
    have hform : (w.rider.rating : ℚ) / 100 - w.scores.sum / w.scores.length =
        (excess w : ℚ) / (100 * w.scores.length) := by
      rw [excess]
      push_cast
      field_simp
    simp only [if_neg hempty, Option.mem_some_iff, forall_eq']
    rw [hform, abs_div, abs_of_pos (by linarith : (0 : ℚ) < 100 * w.scores.length),
      div_le_div_iff₀ (by linarith) (by norm_num)]
    constructor
    · intro h
      refine .inr ?_
      have hle : |(excess w : ℚ)| ≤ w.scores.length := by linarith
      exact_mod_cast hle
    · rintro (h | h)
      · exact absurd h hempty
      · have hle : |(excess w : ℚ)| ≤ w.scores.length := by exact_mod_cast h
        linarith

/-- A score adds its rounding to the excess, for all the scores it is made over. -/
lemma excess_give (h : Sound w) (g : Given) :
    (excess (give w g) : ℚ) = excess w + if Counts w.rider g.score then
      (w.rider.ratingCount + 1 : ℕ) * Rounding.error (w.rider.moved g.score) else 0 := by
  by_cases hg : Counts w.rider g.score
  · have hpos : ((w.rider.ratingCount + 1 : ℕ) : ℚ) ≠ 0 := by
      exact_mod_cast Nat.succ_ne_zero w.rider.ratingCount
    have hmoved : ((w.rider.ratingCount + 1 : ℕ) : ℚ) * w.rider.moved g.score =
        w.rider.rating * w.rider.ratingCount + 100 * g.score := by
      rw [Rider.moved, mul_div_cancel₀ _ hpos]
      push_cast
      ring
    rw [give_of_counts h hg, if_pos hg, excess, excess, rated_rating, Rounding.error, mul_sub,
      hmoved, ← h.count, List.length_append, List.length_singleton, List.sum_append,
      List.sum_singleton, ← h.count]
    push_cast
    ring
  · rw [give_of_not_counts hg, if_neg hg, add_zero]

lemma excess_run (h : Sound w) : (excess (run give w gs) : ℚ) = excess w + roundings w gs := by
  induction gs generalizing w with
  | nil => rw [run_nil, roundings, add_zero]
  | cons g gs ih => rw [run_cons, ih (sound_give g h), excess_give h g, roundings, add_assoc]

/-- The rating is near exactly when the roundings are no more than a hundredth for each score. -/
lemma near_run_iff :
    Near (run give {} gs) ↔ |roundings {} gs| ≤ (run give {} gs).scores.length := by
  have hsum : (excess (run give {} gs) : ℚ) = excess {} + roundings {} gs := excess_run sound_new
  have hzero : excess {} = 0 := rfl
  rw [hzero, Int.cast_zero, zero_add] at hsum
  rw [near_iff, ← hsum]
  constructor
  · rintro (hempty | hle)
    · rw [excess, hempty, List.length_nil, List.sum_nil]
      norm_num
    · exact_mod_cast hle
  · intro hle
    exact .inr (by exact_mod_cast hle)

end Excess

/-! ## Few scores -/

section Few

variable {w : Rated}

/-- What the excess of so many scores is at most. -/
def mostExcess : ℕ → ℤ
  | 3 => 1
  | 6 => 2
  | 7 => 5
  | 8 => 8
  | 9 => 12
  | 10 => 10
  | _ => 0

def Few (w : Rated) : Prop := w.scores.length ≤ 10 → |excess w| ≤ mostExcess w.scores.length

lemma abs_excess_give_sub_le (h : Sound w) (g : Given) (hg : Counts w.rider g.score) :
    2 * |excess (give w g) - excess w| ≤ w.scores.length + 1 := by
  have hstep := excess_give h g
  have herror := Rounding.abs_error_le (w.rider.moved g.score)
  rw [if_pos hg, h.count] at hstep
  have hdiff : |(excess (give w g) : ℚ) - excess w| =
      (w.scores.length + 1 : ℕ) * |Rounding.error (w.rider.moved g.score)| := by
    rw [hstep, add_sub_cancel_left, abs_mul, Nat.abs_cast]
  have hle : 2 * |(excess (give w g) : ℚ) - excess w| ≤ (w.scores.length + 1 : ℕ) := by
    have hn : (0 : ℚ) ≤ (w.scores.length + 1 : ℕ) := Nat.cast_nonneg _
    rw [hdiff]
    nlinarith
  exact_mod_cast hle

lemma few_give (h : Sound w) (hfew : Few w) (g : Given) : Few (give w g) := by
  by_cases hg : Counts w.rider g.score
  swap
  · rw [give_of_not_counts hg]
    exact hfew
  have hmove := abs_excess_give_sub_le h g hg
  have hwhole : ∃ r s : ℤ, excess (give w g) = r * (w.scores.length + 1 : ℕ) - 100 * s := by
    refine ⟨(give w g).rider.rating, (give w g).scores.sum, ?_⟩
    rw [excess, give_of_counts h hg, List.length_append, List.length_singleton]
  have hlength : (give w g).scores.length = w.scores.length + 1 := by
    rw [give_of_counts h hg, List.length_append, List.length_singleton]
  obtain ⟨r, s, hexcess⟩ := hwhole
  intro hle
  rw [hlength] at hle
  have hbefore := abs_le.mp (hfew (by omega))
  have hup := le_abs_self (excess (give w g) - excess w)
  have hdown := neg_abs_le (excess (give w g) - excess w)
  rw [hlength, abs_le]
  -- the excess is a multiple of what divides the count and a hundred alike
  generalize w.scores.length = n at *
  generalize excess w = e at *
  generalize excess (give w g) = e' at *
  have hn : n ≤ 9 := by omega
  interval_cases n <;> simp only [mostExcess] at hbefore ⊢ <;> omega

end Few

/-! ## Runs that lose the mean -/

section Stuck

variable {w : Rated}

def givenScores (scores : List ℤ) : List Given := scores.map fun s => ⟨s, 0⟩

def counted (w : Rated) (g : Given) : Rated :=
  ⟨w.rider.rated (Rounding.halfUp (w.rider.moved g.score)) g.now, w.scores ++ [g.score]⟩

/-- Scores in range all count, as long as the column holds their number. -/
lemma run_eq_counted (h : Sound w) {scores : List ℤ} (hs : ∀ s ∈ scores, 1 ≤ s ∧ s ≤ 5)
    (hfits : w.scores.length + scores.length ≤ maxRatingCount) :
    run give w (givenScores scores) = run counted w (givenScores scores) := by
  induction scores generalizing w with
  | nil => rfl
  | cons s scores ih =>
    rw [List.length_cons] at hfits
    have hg : Counts w.rider s := by
      obtain ⟨hs₁, hs₅⟩ := hs s List.mem_cons_self
      exact ⟨hs₁, hs₅, by rw [h.count]; omega⟩
    have hgive : give w ⟨s, 0⟩ = counted w ⟨s, 0⟩ := give_of_counts h hg
    rw [givenScores, List.map_cons, run_cons, run_cons, ← hgive]
    apply ih (sound_give _ h) fun t ht => hs t (List.mem_cons_of_mem s ht)
    rw [hgive, counted, List.length_append, List.length_singleton]
    omega

/-- A rating just above a whole score is not moved by it any more. -/
lemma halfUp_moved_of_above {r : Rider} {s : ℤ} (hr : r.rating = 100 * s + 2)
    (hcount : 4 ≤ r.ratingCount) : Rounding.halfUp (r.moved s) = r.rating := by
  have hpos : (0 : ℚ) < (r.ratingCount + 1 : ℕ) := by exact_mod_cast Nat.succ_pos _
  have hmoved : r.moved s = r.rating - 2 / (r.ratingCount + 1 : ℕ) := by
    rw [Rider.moved, div_eq_iff hpos.ne', sub_mul, div_mul_cancel₀ _ hpos.ne', hr]
    push_cast
    ring
  have hsmall : (2 : ℚ) / (r.ratingCount + 1 : ℕ) < 1 / 2 := by
    rw [div_lt_div_iff₀ hpos (by norm_num)]
    have hfour : (4 : ℚ) ≤ r.ratingCount := by exact_mod_cast hcount
    push_cast
    linarith
  have hnonneg : (0 : ℚ) ≤ 2 / (r.ratingCount + 1 : ℕ) := div_nonneg (by norm_num) hpos.le
  have herror := abs_le.mp (Rounding.abs_error_le (r.moved s))
  rw [Rounding.error, hmoved] at herror
  have hclose : |((Rounding.halfUp (r.moved s) - r.rating : ℤ) : ℚ)| < 1 := by
    rw [hmoved, Int.cast_sub, abs_lt]
    constructor <;> linarith
  have hzero : |Rounding.halfUp (r.moved s) - r.rating| < 1 := by exact_mod_cast hclose
  rw [Int.abs_lt_one_iff] at hzero
  omega

/-- Thirteen scores whose mean is 3, with the rating at 3.02. -/
def losing : List ℤ := [1, 1, 1, 1, 1, 1, 4, 5, 4, 5, 5, 5, 5]

/-- Nine scores whose mean is 4.666…, with the rating at 4.68. -/
def losingNine : List ℤ := [3, 5, 5, 5, 5, 5, 5, 5, 4]

/-- So many scores, at the end of which the rating is not near the mean. -/
def losingScores (k : ℕ) : List ℤ :=
  if k = 9 then losingNine else losing.take k ++ List.replicate (k - 13) 3

/-- Threes leave the rating at 3.02, and the excess grows by two hundredths with each. -/
lemma run_threes (m : ℕ) (hrating : w.rider.rating = 302)
    (hcount : w.rider.ratingCount = w.scores.length) (hmany : 4 ≤ w.scores.length) :
    (run counted w (givenScores (List.replicate m 3))).scores.length = w.scores.length + m ∧
      excess (run counted w (givenScores (List.replicate m 3))) = excess w + 2 * m := by
  induction m generalizing w with
  | zero => exact ⟨rfl, (add_zero _).symm⟩
  | succ m ih =>
    have hstep : Rounding.halfUp (w.rider.moved 3) = 302 := by
      rw [halfUp_moved_of_above hrating (by omega), hrating]
    have hnext : counted w ⟨3, 0⟩ = ⟨w.rider.rated 302 0, w.scores ++ [3]⟩ := by
      rw [counted]
      dsimp only
      rw [hstep]
    have hlength : (counted w ⟨3, 0⟩).scores.length = w.scores.length + 1 := by
      rw [hnext, List.length_append, List.length_singleton]
    obtain ⟨hlengths, hexcess⟩ := @ih (counted w ⟨3, 0⟩) (by rw [hnext, rated_rating])
      (by rw [hlength, hnext, rated_ratingCount, hcount]) (by omega)
    rw [List.replicate_succ, givenScores, List.map_cons, run_cons]
    constructor
    · rw [← givenScores, hlengths, hlength]
      omega
    · rw [← givenScores, hexcess, hnext, excess, excess, rated_rating, hrating,
        List.length_append, List.length_singleton, List.sum_append, List.sum_singleton]
      push_cast
      ring

lemma exists_not_near {k : ℕ} (hfits : k ≤ maxRatingCount) (hk : ¬ (k ≤ 8 ∨ k = 10)) :
    (run give {} (givenScores (losingScores k))).scores.length = k ∧
      ¬ Near (run give {} (givenScores (losingScores k))) := by
  have hrange : ∀ s ∈ losingScores k, 1 ≤ s ∧ s ≤ 5 := by
    intro s hs
    rw [losingScores] at hs
    split at hs
    · revert s
      decide
    · rcases List.mem_append.mp hs with hs | hs
      · have hall : ∀ s ∈ losing, 1 ≤ s ∧ s ≤ 5 := by decide
        exact hall s (List.mem_of_mem_take hs)
      · rw [(List.mem_replicate.mp hs).2]
        decide
  have hlength : (losingScores k).length = k := by
    rw [losingScores]
    split
    · rename_i hnine
      rw [hnine]
      rfl
    · rw [List.length_append, List.length_take, List.length_replicate,
        show losing.length = 13 from rfl]
      omega
  have hcounted := run_eq_counted sound_new hrange (by
    rw [hlength]
    exact (Nat.zero_add k).le.trans hfits)
  suffices h : (run counted {} (givenScores (losingScores k))).scores.length = k ∧
      (k : ℤ) < |excess (run counted {} (givenScores (losingScores k)))| by
    obtain ⟨hlengths, hexcess⟩ := h
    rw [hcounted, near_iff]
    refine ⟨hlengths, ?_⟩
    rintro (hempty | hle)
    · rw [hempty, List.length_nil] at hlengths
      omega
    · rw [hlengths] at hle
      omega
  by_cases hshort : k < 13
  · -- nine, eleven and twelve scores, run through
    have hcases : k = 9 ∨ k = 11 ∨ k = 12 := by omega
    rcases hcases with rfl | rfl | rfl
    · decide +kernel
    · decide +kernel
    · decide +kernel
  · obtain ⟨m, rfl⟩ : ∃ m, k = 13 + m := ⟨k - 13, by omega⟩
    have hscores : losingScores (13 + m) = losing ++ List.replicate m 3 := by
      rw [losingScores, if_neg (by omega), List.take_of_length_le (by
        rw [show losing.length = 13 from rfl]
        omega), Nat.add_sub_cancel_left]
    have hthirteen : (run counted {} (givenScores losing)).rider.rating = 302 ∧
        (run counted {} (givenScores losing)).rider.ratingCount = 13 ∧
        (run counted {} (givenScores losing)).scores.length = 13 ∧
        excess (run counted {} (givenScores losing)) = 26 := by
      decide +kernel
    obtain ⟨hrating, hcount, hlosing, hexcess⟩ := hthirteen
    obtain ⟨hlengths, hgrown⟩ := run_threes m hrating (hcount.trans hlosing.symm) (by omega)
    rw [hscores, givenScores, List.map_append, run_append, ← givenScores, ← givenScores, hlengths,
      hgrown, hlosing, hexcess]
    refine ⟨rfl, ?_⟩
    rw [abs_of_nonneg (by omega)]
    omega

end Stuck

/-! ## The mean that is kept -/

/-- The stored rating is within a hundredth of the mean exactly when what the roundings add is no
more than a hundredth for each score, and for every run of so many scores exactly up to eight of
them, and for ten. -/
theorem rating_near_mean_iff (gs : List Given) :
    (Near (run give {} gs) ↔ |roundings {} gs| ≤ (run give {} gs).scores.length) ∧
    ∀ k ≤ maxRatingCount,
      (∀ gs, (run give {} gs).scores.length = k → Near (run give {} gs)) ↔ k ≤ 8 ∨ k = 10 := by
  refine ⟨near_run_iff, fun k hfits => ?_⟩
  constructor
  · intro hall
    by_contra hk
    obtain ⟨hlength, hnear⟩ := exists_not_near hfits hk
    exact hnear (hall _ hlength)
  · intro hk gs hlength
    have hsoundFew : Sound (run give {} gs) ∧ Few (run give {} gs) :=
      Transition.invariant (I := fun w => Sound w ∧ Few w)
        (fun _ g h => ⟨sound_give g h.1, few_give h.1 h.2 g⟩) gs ⟨sound_new, fun _ => by decide⟩
    have hle := hsoundFew.2 (by omega)
    rw [near_iff]
    refine .inr (hle.trans ?_)
    rw [hlength]
    have hbound : ∀ k ≤ 10, k ≤ 8 ∨ k = 10 → mostExcess k ≤ k := by decide
    exact hbound k (by omega) hk

/-- Nine scores that sum to 42 leave the rating at 4.68. -/
theorem nine_scores_lose_the_mean :
    (run give {} (givenScores losingNine)).rider.rating = 468 ∧
      ¬ Near (run give {} (givenScores losingNine)) := by
  refine ⟨?_, (exists_not_near (k := 9) (by decide) (by decide)).2⟩
  rw [run_eq_counted sound_new (by decide) (by decide)]
  decide +kernel

end SaaradhiGo.Riders
