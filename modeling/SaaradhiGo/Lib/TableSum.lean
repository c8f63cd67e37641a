/-
Sums over the rows of a table.

A counter that is kept beside a table stands for the sum of a part of each row; the lemmas say
what writing and adding a row does to the sum.
-/
import SaaradhiGo.Lib.Table
import Mathlib.Algebra.Order.BigOperators.Group.List
import Mathlib.Algebra.Order.Group.Int
import Mathlib.Tactic.Abel

namespace Table

variable {ρ ι : Type*} [DecidableEq ι] {pk : ρ → ι}

/-- The sum of `f` over the rows. -/
def sum (t : Table pk) (f : ρ → ℤ) : ℤ := (t.rows.map f).sum

omit [DecidableEq ι] in
@[simp] lemma sum_empty (f : ρ → ℤ) : (empty : Table pk).sum f = 0 := rfl

lemma sum_replace {l : List ρ} (hl : (l.map pk).Nodup) {r r' : ρ} (hr : r ∈ l) (hpk : pk r' = pk r)
    (f : ρ → ℤ) : ((replace pk l r').map f).sum = (l.map f).sum - f r + f r' := by
  induction l with
  | nil => cases hr
  | cons x l ih =>
      rw [List.map_cons, List.nodup_cons] at hl
      rw [replace, List.map_cons, List.map_cons, List.map_cons, List.sum_cons, List.sum_cons]
      by_cases hx : pk x = pk r'
      · have hxr : x = r := by
          rcases List.mem_cons.mp hr with rfl | hmem
          · rfl
          · exact absurd (hx.trans hpk ▸ List.mem_map_of_mem hmem) hl.1
        -- the other rows have other keys
        have hrest : (l.map fun y => if pk y = pk r' then r' else y) = l := by
          conv_rhs => rw [← List.map_id l]
          apply List.map_congr_left
          intro y hy
          rw [if_neg, id]
          intro hy'
          exact hl.1 (hx.trans hy'.symm ▸ List.mem_map_of_mem hy)
        rw [if_pos hx, hrest, hxr]
        abel
      · have hmem : r ∈ l := by
          rcases List.mem_cons.mp hr with rfl | hmem
          · exact absurd hpk.symm hx
          · exact hmem
        rw [if_neg hx]
        have hsum := ih hl.2 hmem
        rw [replace] at hsum
        rw [hsum]
        abel

/-- Writing over a row changes the sum by the difference. -/
lemma sum_put {t : Table pk} {r r' : ρ} (h : t.get? (pk r') = some r) (f : ρ → ℤ) :
    (t.put r').sum f = t.sum f - f r + f r' := by
  obtain ⟨hmem, hpk⟩ := mem_of_get? h
  have hkey : pk r' ∈ t.rows.map pk := hpk ▸ List.mem_map_of_mem hmem
  rw [sum, put, dif_pos hkey]
  exact sum_replace t.nodup hmem hpk.symm f

lemma sum_insert? {t t' : Table pk} {r : ρ} (h : t.insert? r = some t') (f : ρ → ℤ) :
    t'.sum f = t.sum f + f r := by
  rw [sum, (rows_of_insert? h).1, List.map_append, List.sum_append, sum]
  simp

omit [DecidableEq ι] in
lemma sum_eq_zero {t : Table pk} {f : ρ → ℤ} (h : ∀ r ∈ t.rows, f r = 0) : t.sum f = 0 := by
  rw [sum]
  refine List.sum_eq_zero fun x hx => ?_
  obtain ⟨r, hr, rfl⟩ := List.mem_map.mp hx
  exact h r hr

omit [DecidableEq ι] in
lemma sum_nonneg {t : Table pk} {f : ρ → ℤ} (h : ∀ r ∈ t.rows, 0 ≤ f r) : 0 ≤ t.sum f := by
  refine List.sum_nonneg fun x hx => ?_
  obtain ⟨r, hr, rfl⟩ := List.mem_map.mp hx
  exact h r hr

omit [DecidableEq ι] in
/-- A part of a sum of parts that are not negative is at most the sum. -/
lemma le_sum {t : Table pk} {f : ρ → ℤ} (h : ∀ r ∈ t.rows, 0 ≤ f r) {r : ρ} (hr : r ∈ t.rows) :
    f r ≤ t.sum f := by
  refine List.single_le_sum (fun x hx => ?_) _ (List.mem_map_of_mem hr)
  obtain ⟨y, hy, rfl⟩ := List.mem_map.mp hx
  exact h y hy

end Table
