/-
Spans of time one after the other, and how much of a window they cover.

Moments are integers.  A list of spans each of which ends by the start of every later one covers
as many moments of a window as its spans do, each counted alone; counting each span in whole units
loses less than a unit for each.
-/
import Mathlib.Data.Finset.Image
import Mathlib.Algebra.Order.BigOperators.Group.List
import Mathlib.Data.Finset.Card
import Mathlib.Tactic.Ring

/-- The moments from `start` on and before `stop`. -/
structure Span where
  start : ℤ
  stop : ℤ
deriving DecidableEq, Repr

namespace Span

def Contains (p : Span) (m : ℤ) : Prop := p.start ≤ m ∧ m < p.stop

instance (p : Span) (m : ℤ) : Decidable (p.Contains m) :=
  inferInstanceAs (Decidable (_ ∧ _))

/-- How many moments of the window from `lo` to `hi` the span covers. -/
def overlap (lo hi : ℤ) (p : Span) : ℕ := (min p.stop hi - max p.start lo).toNat

/-- The moments from `lo` on and before `hi`. -/
def moments (lo hi : ℤ) : Finset ℤ :=
  (Finset.range (hi - lo).toNat).map
    ⟨fun k : ℕ => lo + k, fun _ _ h => Int.ofNat_inj.mp (Int.add_left_cancel h)⟩

lemma mem_moments {lo hi m : ℤ} : m ∈ moments lo hi ↔ lo ≤ m ∧ m < hi := by
  rw [moments, Finset.mem_map]
  constructor
  · rintro ⟨k, hk, rfl⟩
    rw [Finset.mem_range] at hk
    show lo ≤ lo + (k : ℤ) ∧ lo + (k : ℤ) < hi
    omega
  · rintro ⟨hlo, hhi⟩
    refine ⟨(m - lo).toNat, Finset.mem_range.mpr (by omega), ?_⟩
    show lo + ((m - lo).toNat : ℤ) = m
    omega

lemma card_moments (lo hi : ℤ) : (moments lo hi).card = (hi - lo).toNat := by
  rw [moments, Finset.card_map, Finset.card_range]

def covered (lo hi : ℤ) (l : List Span) : Finset ℤ :=
  (moments lo hi).filter fun m => ∃ p ∈ l, p.Contains m

/-- The spans come one after the other. -/
def InOrder (l : List Span) : Prop := l.Pairwise fun p q => p.stop ≤ q.start

variable {lo hi : ℤ} {p q : Span} {l : List Span}

lemma covered_nil : covered lo hi [] = ∅ := by
  refine Finset.filter_false_of_mem fun m _ => ?_
  rintro ⟨p, hp, -⟩
  cases hp

lemma filter_contains :
    (moments lo hi).filter p.Contains = moments (max p.start lo) (min p.stop hi) := by
  ext m
  rw [Finset.mem_filter, mem_moments, mem_moments, Contains]
  omega

lemma covered_cons :
    covered lo hi (p :: l) = (moments lo hi).filter p.Contains ∪ covered lo hi l := by
  rw [covered, covered, ← Finset.filter_or]
  refine Finset.filter_congr fun m _ => ?_
  rw [List.exists_mem_cons_iff]

/-- Spans in order cover what they cover alone. -/
theorem card_covered (h : InOrder l) :
    (covered lo hi l).card = (l.map (overlap lo hi)).sum := by
  induction l with
  | nil => rw [covered_nil, Finset.card_empty, List.map_nil, List.sum_nil]
  | cons p l ih =>
      obtain ⟨hp, hl⟩ := List.pairwise_cons.mp h
      have hdisjoint : Disjoint ((moments lo hi).filter p.Contains) (covered lo hi l) := by
        rw [Finset.disjoint_left]
        intro m hm hm'
        obtain ⟨-, hpm⟩ := Finset.mem_filter.mp hm
        obtain ⟨-, q, hq, hqm⟩ := Finset.mem_filter.mp hm'
        have hle := hp q hq
        have hlt := hpm.2
        have hge := hqm.1
        omega
      rw [covered_cons, Finset.card_union_of_disjoint hdisjoint, ih hl, filter_contains,
        card_moments, List.map_cons, List.sum_cons]
      rfl

/-- Counting each length in whole units loses less than a unit for each. -/
lemma sum_div_bounds {u : ℕ} (hu : 0 < u) (l : List ℕ) :
    (l.map (· / u)).sum * u ≤ l.sum ∧ l.sum ≤ (l.map (· / u)).sum * u + l.length * u := by
  induction l with
  | nil => simp
  | cons a l ih =>
      have hdiv := Nat.div_add_mod a u
      have hmod := Nat.mod_lt a hu
      have hcomm : u * (a / u) = a / u * u := Nat.mul_comm u (a / u)
      rw [List.map_cons, List.sum_cons, List.sum_cons, List.length_cons, Nat.add_mul,
        Nat.succ_mul]
      omega

end Span
