/-
A line cut at ticks.

`Ticks` are whole numbers in order, one for each index, with no bound on either side.  They cut
the line into half-open intervals, and every number is in exactly one of them; two ticks may be
the same, and then the interval between them is empty.
-/
import Mathlib.Data.Int.LeastGreatest
import Mathlib.Order.Monotone.Basic

/-- Points in order that have no bound on either side. -/
structure Ticks where
  tick : ℤ → ℤ
  le_succ : ∀ d, tick d ≤ tick (d + 1)
  below : ∀ m, ∃ d, tick d ≤ m
  above : ∀ m, ∃ d, m < tick d

namespace Ticks

variable (t : Ticks)

def Holds (d m : ℤ) : Prop := t.tick d ≤ m ∧ m < t.tick (d + 1)

instance (d m : ℤ) : Decidable (t.Holds d m) := inferInstanceAs (Decidable (_ ∧ _))

lemma tick_le {d d' : ℤ} (h : d ≤ d') : t.tick d ≤ t.tick d' :=
  monotone_int_of_le_succ t.le_succ h

/-- A moment is in some interval: the one of the last tick before it. -/
lemma exists_holds (m : ℤ) : ∃ d, t.Holds d m := by
  obtain ⟨b, hb⟩ := t.above m
  have hbound : ∀ d, t.tick d ≤ m → d ≤ b := by
    intro d hd
    by_contra hlt
    have hle := t.tick_le (not_le.mp hlt).le
    omega
  obtain ⟨d, hd, hlast⟩ := Int.exists_greatest_of_bdd ⟨b, hbound⟩ (t.below m)
  refine ⟨d, hd, ?_⟩
  by_contra hle
  have hnext := hlast (d + 1) (not_lt.mp hle)
  omega

/-- Two intervals have no moment in common. -/
lemma Holds.unique {d d' m : ℤ} (h : t.Holds d m) (h' : t.Holds d' m) : d = d' := by
  obtain ⟨hlow, hhigh⟩ := h
  obtain ⟨hlow', hhigh'⟩ := h'
  rcases lt_trichotomy d d' with hlt | heq | hgt
  · have hle := t.tick_le (show d + 1 ≤ d' by omega)
    omega
  · exact heq
  · have hle := t.tick_le (show d' + 1 ≤ d by omega)
    omega

/-- Every moment is in exactly one interval. -/
theorem existsUnique_holds (m : ℤ) : ∃! d, t.Holds d m := by
  obtain ⟨d, hd⟩ := t.exists_holds m
  exact ⟨d, hd, fun d' hd' => Holds.unique t hd' hd⟩

end Ticks
