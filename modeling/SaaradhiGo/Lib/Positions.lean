/-
Lists that are changed at one position.

What holds of a list up to its order is read off from the element at the position and the rest.
-/
import Mathlib.Algebra.BigOperators.Group.List.Basic
import Mathlib.Data.List.Perm.Basic

namespace Positions

variable {α β : Type*} {l : List α} {i : ℕ} {a b : α}

lemma perm_cons_eraseIdx (h : l[i]? = some a) : l.Perm (a :: l.eraseIdx i) := by
  obtain ⟨hlt, rfl⟩ := List.getElem?_eq_some_iff.mp h
  exact (List.getElem_cons_eraseIdx_perm hlt).symm

lemma set_perm_cons_eraseIdx (h : l[i]? = some a) : (l.set i b).Perm (b :: l.eraseIdx i) :=
  List.set_perm_cons_eraseIdx (List.getElem?_eq_some_iff.mp h).1 b

lemma mem_set_cases (h : b ∈ l.set i a) : b = a ∨ b ∈ l :=
  (List.mem_or_eq_of_mem_set h).symm

lemma mem_iff_of_getElem? (h : l[i]? = some a) : b ∈ l ↔ b = a ∨ b ∈ l.eraseIdx i := by
  rw [(perm_cons_eraseIdx h).mem_iff, List.mem_cons]

lemma mem_set_iff {c : α} (h : l[i]? = some a) : c ∈ l.set i b ↔ c = b ∨ c ∈ l.eraseIdx i := by
  rw [(set_perm_cons_eraseIdx h).mem_iff, List.mem_cons]

/-- What the lists of the elements have in common with those of the others is nothing. -/
lemma notMem_of_nodup_flatMap {f : α → List β} {x : β} (hnodup : (l.flatMap f).Nodup)
    (h : l[i]? = some a) (hx : x ∈ f a) (hb : b ∈ l.eraseIdx i) : x ∉ f b := by
  have hsplit : (f a ++ (l.eraseIdx i).flatMap f).Nodup := by
    have hperm := (perm_cons_eraseIdx h).flatMap_right f
    rw [List.flatMap_cons] at hperm
    exact hperm.nodup_iff.mp hnodup
  exact fun hmem => (List.nodup_append.mp hsplit).2.2 x hx x (List.mem_flatMap.mpr ⟨b, hb, hmem⟩) rfl

lemma nodup_flatMap_of_getElem? {f : α → List β} (hnodup : (l.flatMap f).Nodup)
    (h : l[i]? = some a) : (f a).Nodup ∧ ((l.eraseIdx i).flatMap f).Nodup := by
  have hperm := (perm_cons_eraseIdx h).flatMap_right f
  rw [List.flatMap_cons] at hperm
  have hsplit := List.nodup_append.mp (hperm.nodup_iff.mp hnodup)
  exact ⟨hsplit.1, hsplit.2.1⟩

end Positions
