/-
Rounding to significant digits.

`Rounding.significant p` keeps `p` decimal digits of a number, as an arithmetic of fixed
precision does with each result.  A quotient of whole numbers that are small beside the precision
is rounded to hundredths as if it had been kept exact: it lies on a half, and then it has few
digits, or so far from one that the digits that are lost do not carry it over.
-/
import SaaradhiGo.Lib.Rounding
import Mathlib.Data.Int.Log
import Mathlib.Data.Rat.Floor

namespace Rounding

variable {p d : ℕ} {n : ℤ} {q : ℚ}

def lastPlace (p : ℕ) (q : ℚ) : ℤ := Int.log 10 |q| + 1 - p

/-- The number with `p` digits, a half to the even neighbour. -/
def significant (p : ℕ) (q : ℚ) : ℚ :=
  halfEven (q / 10 ^ lastPlace p q) * 10 ^ lastPlace p q

lemma lastPlace_pow_pos (p : ℕ) (q : ℚ) : 0 < (10 : ℚ) ^ lastPlace p q :=
  zpow_pos (by norm_num) _

/-- A number that has no more digits stays. -/
theorem significant_of_digits {m : ℤ} {j : ℤ} (hq : q = m * 10 ^ j) (hm : |m| < 10 ^ p) :
    significant p q = q := by
  have hpow : ∀ k : ℤ, (10 : ℚ) ^ k ≠ 0 := fun k => zpow_ne_zero k (by norm_num)
  by_cases hzero : q = 0
  · rw [significant, hzero, zero_div]
    have hround : halfEven ((0 : ℤ) : ℚ) = 0 := halfEven_intCast 0
    rw [Int.cast_zero] at hround
    rw [hround, Int.cast_zero, zero_mul]
  · -- the last place is no higher than the one the number ends at
    have hlog : Int.log 10 |q| < p + j := by
      have hlt : |q| < ((10 : ℕ) : ℚ) ^ ((p : ℤ) + j) := by
        rw [hq, abs_mul, abs_of_pos (zpow_pos (by norm_num : (0 : ℚ) < 10) j),
          Nat.cast_ofNat, zpow_add₀ (by norm_num), zpow_natCast]
        refine mul_lt_mul_of_pos_right ?_ (zpow_pos (by norm_num) j)
        exact_mod_cast hm
      exact (Int.lt_zpow_iff_log_lt (by norm_num) (abs_pos.mpr hzero)).mp hlt
    obtain ⟨k, hk⟩ : ∃ k : ℕ, j = lastPlace p q + k := by
      refine ⟨(j - lastPlace p q).toNat, ?_⟩
      rw [lastPlace] at *
      omega
    have hwhole : q / 10 ^ lastPlace p q = ((m * 10 ^ k : ℤ) : ℚ) := by
      rw [div_eq_iff (hpow _)]
      calc q = m * 10 ^ (lastPlace p q + k) := by rw [← hk]; exact hq
        _ = ((m * 10 ^ k : ℤ) : ℚ) * 10 ^ lastPlace p q := by
            rw [zpow_add₀ (by norm_num), zpow_natCast]
            push_cast
            ring
    rw [significant, hwhole, halfEven_intCast, ← hwhole, div_mul_cancel₀ _ (hpow _)]

/-- The digits that are lost are worth half of the last place, which is small beside the
number. -/
theorem abs_significant_sub_le (hq : q ≠ 0) :
    |significant p q - q| ≤ |q| * 10 ^ (1 - p : ℤ) / 2 := by
  have hpos := lastPlace_pow_pos p q
  have hplace : (10 : ℚ) ^ lastPlace p q ≤ |q| * 10 ^ (1 - p : ℤ) := by
    have hlog : ((10 : ℕ) : ℚ) ^ Int.log 10 |q| ≤ |q| :=
      Int.zpow_log_le_self (by norm_num) (abs_pos.mpr hq)
    rw [Nat.cast_ofNat] at hlog
    have hsplit : lastPlace p q = Int.log 10 |q| + (1 - p : ℤ) := by
      rw [lastPlace]
      ring
    rw [hsplit, zpow_add₀ (by norm_num)]
    exact mul_le_mul_of_nonneg_right hlog (zpow_nonneg (by norm_num) _)
  have herror : significant p q - q =
      (halfEven (q / 10 ^ lastPlace p q) - q / 10 ^ lastPlace p q) * 10 ^ lastPlace p q := by
    rw [significant, sub_mul, div_mul_cancel₀ _ hpos.ne']
  rw [herror, abs_mul, abs_of_pos hpos]
  calc |(halfEven (q / 10 ^ lastPlace p q) : ℚ) - q / 10 ^ lastPlace p q| * 10 ^ lastPlace p q
      ≤ 1 / 2 * 10 ^ lastPlace p q :=
        mul_le_mul_of_nonneg_right (abs_halfEven_sub_le _) hpos.le
    _ ≤ |q| * 10 ^ (1 - p : ℤ) / 2 := by linarith

lemma away_of_not_half (hd : 0 < d) {k : ℤ} (hhalf : (n : ℚ) / d ≠ k - 1 / 2) :
    1 / (2 * d) ≤ |(n : ℚ) / d - (k - 1 / 2)| := by
  have hdpos : (0 : ℚ) < d := by exact_mod_cast hd
  have hne : 2 * n - (2 * k - 1) * d ≠ 0 := by
    intro heq
    apply hhalf
    rw [div_eq_iff hdpos.ne']
    have hcast : (2 : ℚ) * n - (2 * k - 1) * d = 0 := by exact_mod_cast heq
    linarith
  have hone : (1 : ℚ) ≤ |2 * (n : ℚ) - (2 * k - 1) * d| := by
    exact_mod_cast Int.one_le_abs hne
  have hform : (n : ℚ) / d - (k - 1 / 2) = (2 * n - (2 * k - 1) * d) / (2 * d) := by
    field_simp
  rw [hform, abs_div, abs_of_pos (by linarith : (0 : ℚ) < 2 * d)]
  exact div_le_div_of_nonneg_right hone (by linarith)

/-- A quotient in hundredths is rounded as if all its digits had been kept. -/
theorem halfUp_significant (hd : 0 < d) (hn : |n| * 10 < 10 ^ p) :
    halfUp (significant p (n / d / 100) * 100) = halfUp ((n : ℚ) / d) := by
  have hdpos : (0 : ℚ) < d := by exact_mod_cast hd
  by_cases htie : ∃ k : ℤ, (n : ℚ) / d = k - 1 / 2
  · -- a half has three places
    obtain ⟨k, hk⟩ := htie
    have hcross : 2 * n = (2 * k - 1) * d := by
      rw [div_eq_iff hdpos.ne'] at hk
      have hcast : (2 : ℚ) * n = (2 * k - 1) * d := by linarith
      exact_mod_cast hcast
    have hle : |2 * k - 1| ≤ 2 * |n| := by
      calc |2 * k - 1| ≤ |2 * k - 1| * d := by
            exact le_mul_of_one_le_right (abs_nonneg _) (by exact_mod_cast hd)
        _ = |2 * n| := by rw [hcross, abs_mul, Nat.abs_cast]
        _ = 2 * |n| := by rw [abs_mul]; rfl
    have hdigits : |5 * (2 * k - 1)| < 10 ^ p := by
      calc |5 * (2 * k - 1)| = 5 * |2 * k - 1| := by rw [abs_mul]; rfl
        _ < 10 ^ p := by omega
    have hform : (n : ℚ) / d / 100 = ((5 * (2 * k - 1) : ℤ) : ℚ) * 10 ^ (-3 : ℤ) := by
      rw [hk]
      push_cast
      norm_num
      ring
    rw [significant_of_digits hform hdigits]
    congr 1
    ring
  · by_cases hzero : n = 0
    · rw [hzero, Int.cast_zero, zero_div, zero_div]
      have hsig : significant p (0 : ℚ) = 0 :=
        significant_of_digits (m := 0) (j := 0) (by simp) (by simp)
      rw [hsig, zero_mul]
    · -- the digits that are lost do not reach the next half
      have hq : (n : ℚ) / d / 100 ≠ 0 := by
        have hnq : (n : ℚ) ≠ 0 := by exact_mod_cast hzero
        exact div_ne_zero (div_ne_zero hnq hdpos.ne') (by norm_num)
      have hlost : |significant p ((n : ℚ) / d / 100) * 100 - n / d| < 1 / (2 * d) := by
        have hle := abs_significant_sub_le (p := p) hq
        have hpow : (10 : ℚ) ^ (1 - p : ℤ) * 10 ^ p = 10 := by
          rw [zpow_sub₀ (by norm_num), zpow_natCast, zpow_one]
          field_simp
        have hsmall : |(n : ℚ)| * 10 ^ (1 - p : ℤ) < 1 := by
          have hnp : |(n : ℚ)| * 10 < 10 ^ p := by exact_mod_cast hn
          have hp : (0 : ℚ) < 10 ^ p := by positivity
          have hinv : 0 < (10 : ℚ) ^ (1 - p : ℤ) := zpow_pos (by norm_num) _
          nlinarith
        have habs : |(n : ℚ) / d / 100| = |(n : ℚ)| / d / 100 := by
          rw [abs_div, abs_div, Nat.abs_cast]
          rfl
        have hscale : |significant p ((n : ℚ) / d / 100) * 100 - n / d| =
            100 * |significant p ((n : ℚ) / d / 100) - n / d / 100| := by
          rw [← abs_of_pos (by norm_num : (0 : ℚ) < 100), ← abs_mul,
            abs_of_pos (by norm_num : (0 : ℚ) < 100)]
          congr 1
          ring
        rw [habs] at hle
        rw [hscale]
        calc 100 * |significant p ((n : ℚ) / d / 100) - n / d / 100|
            ≤ |(n : ℚ)| * 10 ^ (1 - p : ℤ) / (2 * d) := by
              calc _ ≤ 100 * (|(n : ℚ)| / d / 100 * 10 ^ (1 - p : ℤ) / 2) := by linarith
                _ = _ := by field_simp
          _ < 1 / (2 * d) := div_lt_div_of_pos_right hsmall (by linarith)
      apply halfUp_eq_iff.mpr
      intro k
      have haway := away_of_not_half (k := k) hd fun heq => htie ⟨k, heq⟩
      have hlt := hlost.trans_le haway
      rw [abs_lt] at hlt
      rw [Reaches, Reaches]
      rcases le_total ((n : ℚ) / d) (k - 1 / 2) with hbelow | habove
      · rw [abs_of_nonpos (by linarith)] at hlt
        have hlow : (n : ℚ) / d < k - 1 / 2 :=
          lt_of_le_of_ne hbelow fun heq => htie ⟨k, heq⟩
        split <;> constructor <;> intro h <;> linarith
      · rw [abs_of_nonneg (by linarith)] at hlt
        have hhigh : (k : ℚ) - 1 / 2 < n / d :=
          lt_of_le_of_ne habove fun heq => htie ⟨k, heq.symm⟩
        split <;> constructor <;> intro h <;> linarith

end Rounding
