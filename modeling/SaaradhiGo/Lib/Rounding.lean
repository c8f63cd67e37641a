/-
Rounding to whole numbers.

`Rounding.halfUp` rounds a half away from zero and `Rounding.halfEven` to the even neighbour.
Where an amount is rounded to is known from the whole numbers it reaches (`Rounding.Reaches`):
two amounts are rounded alike exactly when no half lies between them.  An amount with a rounded
rate on top (`Rounding.onTop`) is found again from the total.
-/
import Mathlib.Algebra.Order.Floor.Ring
import Mathlib.Algebra.Order.Ring.Abs
import Mathlib.Algebra.Ring.Parity
import Mathlib.Tactic.FieldSimp
import Mathlib.Tactic.Linarith
import Mathlib.Tactic.NormNum
import Mathlib.Tactic.Ring

namespace Rounding

variable {α : Type*} [Field α] [LinearOrder α] [FloorRing α]

/-- To the nearest whole number, a half away from zero. -/
def halfUp (q : α) : ℤ := if 0 ≤ q then ⌊q + 1 / 2⌋ else -⌊-q + 1 / 2⌋

/-- To the nearest whole number, a half to the even one. -/
def halfEven (q : α) : ℤ :=
  if q - ⌊q⌋ < 1 / 2 then ⌊q⌋
  else if 1 / 2 < q - ⌊q⌋ then ⌊q⌋ + 1
  else if ⌊q⌋ % 2 = 0 then ⌊q⌋ else ⌊q⌋ + 1

/-- The amount is rounded to `k` or to more: a half counts as reached above zero only. -/
def Reaches (k : ℤ) (q : α) : Prop := if 0 < k then (k : α) - 1 / 2 ≤ q else (k : α) - 1 / 2 < q

variable [IsStrictOrderedRing α] {q q' : α} {k : ℤ}

/-! ## Half up -/

/-- The numbers an amount reaches are those up to where it is rounded. -/
theorem le_halfUp : k ≤ halfUp q ↔ Reaches k q := by
  rw [halfUp, Reaches]
  by_cases hq : 0 ≤ q
  · rw [if_pos hq, Int.le_floor]
    by_cases hk : 0 < k
    · rw [if_pos hk]
      constructor <;> intro h <;> linarith
    · -- a non-negative amount reaches zero, and with it all that is below
      rw [if_neg hk]
      have hk0 : (k : α) ≤ 0 := by exact_mod_cast not_lt.mp hk
      constructor <;> intro _ <;> linarith
  · rw [if_neg hq]
    have hneg : q < 0 := not_le.mp hq
    have hflip : k ≤ -⌊-q + 1 / 2⌋ ↔ ⌊-q + 1 / 2⌋ < -k + 1 := by omega
    have hcast : ((-k + 1 : ℤ) : α) = -(k : α) + 1 := by push_cast; rfl
    rw [hflip, Int.floor_lt, hcast]
    by_cases hk : 0 < k
    · -- a negative amount reaches no positive number
      rw [if_pos hk]
      have hk1 : (1 : α) ≤ k := by exact_mod_cast hk
      constructor <;> intro h <;> linarith
    · rw [if_neg hk]
      constructor <;> intro h <;> linarith

/-- A larger amount is not rounded to less, exactly when it reaches what the smaller one does. -/
theorem halfUp_le_iff : halfUp q ≤ halfUp q' ↔ ∀ k, Reaches k q → Reaches k q' := by
  constructor
  · intro h k hk
    exact le_halfUp.mp ((le_halfUp.mpr hk).trans h)
  · intro h
    exact le_halfUp.mpr (h _ (le_halfUp.mp le_rfl))

/-- Two amounts are rounded alike when they reach the same numbers. -/
theorem halfUp_eq_iff : halfUp q = halfUp q' ↔ ∀ k, Reaches k q ↔ Reaches k q' := by
  rw [le_antisymm_iff, halfUp_le_iff, halfUp_le_iff]
  constructor
  · rintro ⟨h, h'⟩ k
    exact ⟨h k, h' k⟩
  · intro h
    exact ⟨fun k => (h k).mp, fun k => (h k).mpr⟩

/-- A number is where the amount is rounded to when it is nearer than a half, or a half away on
the side of zero. -/
def Nearest (k : ℤ) (q : α) : Prop :=
  |q - k| < 1 / 2 ∨ 0 < k ∧ q - k = -(1 / 2) ∨ k < 0 ∧ q - k = 1 / 2

/-- An amount is rounded to its nearest number. -/
theorem halfUp_eq_iff_nearest : halfUp q = k ↔ Nearest k q := by
  have hiff : halfUp q = k ↔ Reaches k q ∧ ¬ Reaches (k + 1) q := by
    rw [← le_halfUp, ← le_halfUp]
    omega
  rw [hiff, Nearest, Reaches, Reaches, abs_lt]
  rcases lt_trichotomy k 0 with hk | hk | hk
  · rw [if_neg (by omega), if_neg (by omega)]
    push_cast
    constructor
    · rintro ⟨hlow, hhigh⟩
      rcases (not_lt.mp hhigh).lt_or_eq with hlt | heq
      · exact .inl ⟨by linarith, by linarith⟩
      · exact .inr (.inr ⟨hk, by linarith⟩)
    · rintro (⟨hlow, hhigh⟩ | ⟨hpos, -⟩ | ⟨-, heq⟩)
      · exact ⟨by linarith, by linarith⟩
      · omega
      · exact ⟨by linarith, by linarith⟩
  · subst hk
    rw [if_neg (by omega), if_pos (by omega), Int.cast_add, Int.cast_zero, Int.cast_one]
    constructor
    · rintro ⟨hlow, hhigh⟩
      exact .inl ⟨by linarith, by linarith⟩
    · rintro (⟨hlow, hhigh⟩ | ⟨hpos, -⟩ | ⟨hneg, -⟩)
      · exact ⟨by linarith, by linarith⟩
      · exact absurd hpos (lt_irrefl 0)
      · exact absurd hneg (lt_irrefl 0)
  · rw [if_pos hk, if_pos (by omega)]
    push_cast
    constructor
    · rintro ⟨hlow, hhigh⟩
      rcases hlow.lt_or_eq with hlt | heq
      · exact .inl ⟨by linarith, by linarith⟩
      · exact .inr (.inl ⟨hk, by linarith⟩)
    · rintro (⟨hlow, hhigh⟩ | ⟨-, heq⟩ | ⟨hneg, -⟩)
      · exact ⟨by linarith, by linarith⟩
      · exact ⟨by linarith, by linarith⟩
      · omega

omit [FloorRing α] [IsStrictOrderedRing α] in
lemma Reaches.mono (h : q ≤ q') (hk : Reaches k q) : Reaches k q' := by
  rw [Reaches] at hk ⊢
  split at hk
  · rename_i hpos
    rw [if_pos hpos]
    exact hk.trans h
  · rename_i hpos
    rw [if_neg hpos]
    exact hk.trans_le h

theorem halfUp_mono (h : q ≤ q') : halfUp q ≤ halfUp q' :=
  halfUp_le_iff.mpr fun _ => Reaches.mono h

/-- A whole number stays. -/
@[simp] theorem halfUp_intCast (n : ℤ) : halfUp (n : α) = n := by
  apply le_antisymm
  · by_contra h
    have hreach : Reaches (n + 1) (n : α) := le_halfUp.mp (by omega)
    rw [Reaches] at hreach
    split at hreach <;> push_cast at hreach <;> linarith
  · apply le_halfUp.mpr
    rw [Reaches]
    split <;> linarith

def error (q : α) : α := halfUp q - q

lemma error_intCast (n : ℤ) : error (n : α) = 0 := by
  rw [error, halfUp_intCast, sub_self]

/-- An amount moves by a half at most. -/
theorem abs_error_le (q : α) : |error q| ≤ 1 / 2 := by
  have hlow : Reaches (halfUp q) q := le_halfUp.mp le_rfl
  have hhigh : ¬ Reaches (halfUp q + 1) q := by
    rw [← le_halfUp]
    omega
  rw [Reaches] at hlow hhigh
  rw [error, abs_le]
  constructor
  · split at hhigh <;> push_cast at hhigh <;> linarith
  · split at hlow <;> linarith

/-! ## A rate on top -/

section OnTop

variable {r : α} {n c : ℤ}

/-- An amount with a rate of it on top, the rate rounded. -/
def onTop (r : α) (n : ℤ) : ℤ := n + halfUp (n * r)

/-- A larger amount is more with the rate on top as well. -/
theorem onTop_lt (hr : 0 ≤ r) {n m : ℤ} (hlt : n < m) : onTop r n < onTop r m := by
  have hle : (n : α) * r ≤ m * r := mul_le_mul_of_nonneg_right (by exact_mod_cast hlt.le) hr
  have hrounded := halfUp_mono hle
  show n + halfUp (n * r) < m + halfUp (m * r)
  omega

lemma onTop_injective (hr : 0 ≤ r) : Function.Injective (onTop r) := by
  intro n m h
  rcases lt_trichotomy n m with hlt | heq | hgt
  · exact absurd h (onTop_lt hr hlt).ne
  · exact heq
  · exact absurd h (onTop_lt hr hgt).ne'

lemma onTop_nonneg (hr : 0 ≤ r) (hn : 0 ≤ n) : 0 ≤ halfUp (n * r) := by
  have hle : ((0 : ℤ) : α) ≤ n * r := by
    rw [Int.cast_zero]
    exact mul_nonneg (by exact_mod_cast hn) hr
  have h := halfUp_mono hle
  rwa [halfUp_intCast] at h

/-- Divided out again the rate leaves the amount, a half away at most. -/
lemma abs_onTop_div_sub_le (hr : 0 ≤ r) : |(onTop r n : α) / (1 + r) - n| ≤ 1 / 2 := by
  have hpos : 0 < 1 + r := by linarith
  have herror : (onTop r n : α) / (1 + r) - n = error (n * r) / (1 + r) := by
    rw [onTop, error]
    push_cast
    field_simp
    ring
  rw [herror, abs_div, abs_of_pos hpos]
  calc |error ((n : α) * r)| / (1 + r) ≤ |error ((n : α) * r)| :=
        div_le_self (abs_nonneg _) (by linarith)
    _ ≤ 1 / 2 := abs_error_le _

/-- Divided out and rounded it leaves the amount or a neighbour of it. -/
theorem abs_halfUp_onTop_div_sub_le (hr : 0 ≤ r) :
    |halfUp ((onTop r n : α) / (1 + r)) - n| ≤ 1 := by
  have hrounded := abs_le.mp (abs_error_le ((onTop r n : α) / (1 + r)))
  have hnear := abs_le.mp (abs_onTop_div_sub_le (n := n) hr)
  rw [error] at hrounded
  have hle : |(halfUp ((onTop r n : α) / (1 + r)) : α) - n| ≤ 1 := by
    rw [abs_le]
    constructor <;> linarith [hrounded.1, hrounded.2, hnear.1, hnear.2]
  exact_mod_cast hle

/-- What is less than an amount with the rate on top is without the rate no more than the
amount. -/
theorem halfUp_div_le_of_lt_onTop (hr : 0 ≤ r) (h : c < onTop r n) :
    halfUp ((c : α) / (1 + r)) ≤ n := by
  have hpos : 0 < 1 + r := by linarith
  have hlt : (c : α) + 1 ≤ n + halfUp ((n : α) * r) := by
    rw [onTop] at h
    exact_mod_cast h
  have herror := (abs_le.mp (abs_error_le ((n : α) * r))).2
  rw [error] at herror
  have hle : (c : α) / (1 + r) ≤ n := by
    rw [div_le_iff₀ hpos]
    linarith
  calc halfUp ((c : α) / (1 + r)) ≤ halfUp (n : α) := halfUp_mono hle
    _ = n := halfUp_intCast n

lemma halfUp_div_le (hr : 0 ≤ r) (hc : 0 ≤ c) : halfUp ((c : α) / (1 + r)) ≤ c := by
  have hle : (c : α) / (1 + r) ≤ c := div_le_self (by exact_mod_cast hc) (by linarith)
  calc halfUp ((c : α) / (1 + r)) ≤ halfUp (c : α) := halfUp_mono hle
    _ = c := halfUp_intCast c

lemma halfUp_div_nonneg (hr : 0 ≤ r) (hc : 0 ≤ c) : 0 ≤ halfUp ((c : α) / (1 + r)) := by
  have hle : ((0 : ℤ) : α) ≤ (c : α) / (1 + r) := by
    rw [Int.cast_zero]
    exact div_nonneg (by exact_mod_cast hc) (by linarith)
  have h := halfUp_mono hle
  rwa [halfUp_intCast] at h

/-- What is left of a total is the rate of the rest, as far as the rounding of the rest moves
it. -/
theorem abs_rest_sub_le (hr : 0 ≤ r) :
    |((c - halfUp ((c : α) / (1 + r)) : ℤ) : α) - halfUp ((c : α) / (1 + r)) * r| ≤
      (1 + r) / 2 := by
  have hpos : 0 < 1 + r := by linarith
  have herror : ((c - halfUp ((c : α) / (1 + r)) : ℤ) : α) - halfUp ((c : α) / (1 + r)) * r =
      -((1 + r) * error ((c : α) / (1 + r))) := by
    rw [error]
    push_cast
    field_simp
    ring
  rw [herror, abs_neg, abs_mul, abs_of_pos hpos]
  calc (1 + r) * |error ((c : α) / (1 + r))| ≤ (1 + r) * (1 / 2) :=
        mul_le_mul_of_nonneg_left (abs_error_le _) hpos.le
    _ = (1 + r) / 2 := by ring

end OnTop

/-! ## Half even -/

/-- A whole number stays. -/
@[simp] theorem halfEven_intCast (n : ℤ) : halfEven (n : α) = n := by
  rw [halfEven, Int.floor_intCast, sub_self, if_pos (by norm_num)]

/-- An amount moves by a half at most. -/
theorem abs_halfEven_sub_le (q : α) : |(halfEven q : α) - q| ≤ 1 / 2 := by
  have hlow := Int.floor_le q
  have hhigh := Int.lt_floor_add_one q
  rw [halfEven, abs_le]
  split_ifs <;> push_cast <;> constructor <;> linarith

end Rounding
