/-
Grants against resources that may be shared.

Every claimant has linked resources, each with a weight, and a resource may be linked to several
claimants.  What a set of claimants was granted is covered when it is at most the weight of the
resources linked to any of them, each resource counted once.  A grant that keeps within the
claimant's own resources keeps everybody covered as long as no other claimant with a grant shares
one of them (`Within.grant`).
-/
import Mathlib.Algebra.BigOperators.Group.Finset.Basic
import Mathlib.Algebra.BigOperators.Group.List.Basic
import Mathlib.Algebra.Order.BigOperators.Group.Finset
import Mathlib.Algebra.Order.BigOperators.Group.List
import Mathlib.Algebra.Order.Group.Int
import Mathlib.Algebra.Ring.Int.Defs
import Mathlib.Data.Finset.Basic

namespace Covered

variable {ι ρ : Type*}

def cover (link : ι → ρ → Bool) (w : ρ → ℤ) (resources : List ρ) (S : Finset ι) : ℤ :=
  (resources.map fun r => if ∃ i ∈ S, link i r = true then w r else 0).sum

/-- Every set of claimants is covered. -/
def Within (link : ι → ρ → Bool) (w : ρ → ℤ) (resources : List ρ) (granted : ι → ℤ) : Prop :=
  ∀ S : Finset ι, ∑ i ∈ S, granted i ≤ cover link w resources S

section

variable {link link' : ι → ρ → Bool} {w : ρ → ℤ} {resources : List ρ}

lemma cover_nonneg (hw : ∀ r ∈ resources, 0 ≤ w r) (S : Finset ι) :
    0 ≤ cover link w resources S := by
  refine List.sum_nonneg fun x hx => ?_
  obtain ⟨r, hr, rfl⟩ := List.mem_map.mp hx
  split
  · exact hw r hr
  · exact le_rfl

lemma cover_mono {more : List ρ} (hw : ∀ r ∈ resources ++ more, 0 ≤ w r)
    (hlink : ∀ i, ∀ r ∈ resources, link i r = true → link' i r = true) (S : Finset ι) :
    cover link w resources S ≤ cover link' w (resources ++ more) S := by
  have hmore : 0 ≤ cover link' w more S :=
    cover_nonneg (fun r hr => hw r (List.mem_append_right _ hr)) S
  have hsame : cover link w resources S ≤ cover link' w resources S := by
    refine List.sum_le_sum fun r hr => ?_
    have hpos := hw r (List.mem_append_left _ hr)
    by_cases h : ∃ i ∈ S, link i r = true
    · obtain ⟨i, hi, hir⟩ := h
      rw [if_pos ⟨i, hi, hir⟩, if_pos ⟨i, hi, hlink i r hr hir⟩]
    · rw [if_neg h]
      split
      · exact hpos
      · exact le_rfl
  have hsplit : cover link' w (resources ++ more) S =
      cover link' w resources S + cover link' w more S := by
    rw [cover, List.map_append, List.sum_append]
    rfl
  omega

lemma cover_subset (hw : ∀ r ∈ resources, 0 ≤ w r) {S T : Finset ι} (h : S ⊆ T) :
    cover link w resources S ≤ cover link w resources T := by
  refine List.sum_le_sum fun r hr => ?_
  have hpos := hw r hr
  by_cases hS : ∃ i ∈ S, link i r = true
  · obtain ⟨i, hi, hir⟩ := hS
    rw [if_pos ⟨i, hi, hir⟩, if_pos ⟨i, h hi, hir⟩]
  · rw [if_neg hS]
    split
    · exact hpos
    · exact le_rfl

variable [DecidableEq ι] {granted : ι → ℤ} {i : ι}

/-- A claimant that shares nothing with the others adds its own resources. -/
lemma cover_insert {S : Finset ι}
    (hapart : ∀ j ∈ S, ∀ r ∈ resources, link i r = true → link j r = false) :
    cover link w resources (insert i S) =
      cover link w resources {i} + cover link w resources S := by
  induction resources with
  | nil => rfl
  | cons r resources ih =>
      have hrest := ih fun j hj r' hr' => hapart j hj r' (List.mem_cons_of_mem _ hr')
      rw [cover] at hrest
      simp only [cover, List.map_cons, List.sum_cons] at hrest ⊢
      have hhead : (if ∃ j ∈ insert i S, link j r = true then w r else 0) =
          (if ∃ j ∈ ({i} : Finset ι), link j r = true then w r else 0) +
            if ∃ j ∈ S, link j r = true then w r else 0 := by
        by_cases hi : link i r = true
        · have hnone : ¬ ∃ j ∈ S, link j r = true := by
            rintro ⟨j, hj, hjr⟩
            rw [hapart j hj r List.mem_cons_self hi] at hjr
            cases hjr
          rw [if_pos ⟨i, Finset.mem_insert_self _ _, hi⟩, if_pos ⟨i, Finset.mem_singleton_self _, hi⟩,
            if_neg hnone, add_zero]
        · simp [hi]
      omega

/-- A grant within the claimant's own resources keeps everybody covered when nobody else with a
grant shares one of them. -/
theorem Within.grant (h : Within link w resources granted) (i : ι) (amount : ℤ) (hw : ∀ r ∈ resources, 0 ≤ w r)
    (hown : granted i + amount ≤ cover link w resources {i})
    (hapart : ∀ j, j ≠ i → 0 < granted j → ∀ r ∈ resources, link i r = true → link j r = false) :
    Within link w resources (Function.update granted i (granted i + amount)) := by
  intro S
  by_cases hi : i ∈ S
  · -- the others that were granted something, and they alone
    obtain ⟨T, hT⟩ : ∃ T, T = (S.erase i).filter fun j => 0 < granted j := ⟨_, rfl⟩
    have hne : ∀ j ∈ S.erase i, j ≠ i := fun j hj => Finset.ne_of_mem_erase hj
    have hothers : ∑ j ∈ S.erase i, Function.update granted i (granted i + amount) j ≤
        ∑ j ∈ T, granted j := by
      have hsame : ∑ j ∈ S.erase i, Function.update granted i (granted i + amount) j =
          ∑ j ∈ S.erase i, granted j :=
        Finset.sum_congr rfl fun j hj => Function.update_of_ne (hne j hj) _ _
      rw [hsame, hT, Finset.sum_filter]
      refine Finset.sum_le_sum fun j _ => ?_
      split
      · exact le_rfl
      · omega
    have hsum := Finset.add_sum_erase S (Function.update granted i (granted i + amount)) hi
    rw [Function.update_self] at hsum
    have hcover : cover link w resources (insert i T) =
        cover link w resources {i} + cover link w resources T := by
      refine cover_insert fun j hj => ?_
      rw [hT, Finset.mem_filter] at hj
      exact hapart j (hne j hj.1) hj.2
    have hsubset : insert i T ⊆ S := by
      rw [hT]
      exact Finset.insert_subset hi ((Finset.filter_subset _ _).trans (Finset.erase_subset _ _))
    have hmono : cover link w resources (insert i T) ≤ cover link w resources S :=
      cover_subset hw hsubset
    have hT' := h T
    omega
  · have hne : ∀ j ∈ S, j ≠ i := fun j hj heq => hi (heq ▸ hj)
    have hsame : ∑ j ∈ S, Function.update granted i (granted i + amount) j = ∑ j ∈ S, granted j :=
      Finset.sum_congr rfl fun j hj => Function.update_of_ne (hne j hj) _ _
    rw [hsame]
    exact h S

end

end Covered
