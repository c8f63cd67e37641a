/-
The first values of their keys.

Values come one after another, each with a key, and a value is kept when its key is not known yet.
What is kept has every key of what came, each of them once, and none that was known before.
-/
import Mathlib.Data.List.Basic

namespace Firsts

variable {α κ : Type*} [DecidableEq κ] (key : α → κ)

def firsts (known : List κ) : List α → List α
  | [] => []
  | a :: as =>
      if key a ∈ known then firsts known as else a :: firsts (known ++ [key a]) as

variable {key} {known : List κ} {as : List α}

lemma firsts_sublist : (firsts key known as).Sublist as := by
  induction as generalizing known with
  | nil => exact .slnil
  | cons a as ih =>
      by_cases h : key a ∈ known
      · simpa [firsts, h] using ih.trans (List.sublist_cons_self a as)
      · simpa [firsts, h] using ih.cons_cons a

/-- What is kept came. -/
lemma mem_of_mem_firsts {a : α} (h : a ∈ firsts key known as) : a ∈ as :=
  firsts_sublist.subset h

lemma key_notMem_of_mem_firsts {a : α} (h : a ∈ firsts key known as) : key a ∉ known := by
  induction as generalizing known with
  | nil => simp [firsts] at h
  | cons b bs ih =>
      by_cases hb : key b ∈ known
      · simp only [firsts, hb, if_true] at h
        exact ih h
      · simp only [firsts, hb, if_false, List.mem_cons] at h
        obtain rfl | h := h
        · exact hb
        · intro ha
          exact ih h (List.mem_append_left _ ha)

lemma key_mem_append_firsts {a : α} (h : a ∈ as) :
    key a ∈ known ++ (firsts key known as).map key := by
  induction as generalizing known with
  | nil => simp at h
  | cons b bs ih =>
      obtain rfl | h := List.mem_cons.mp h
      · by_cases hb : key a ∈ known
        · exact List.mem_append_left _ hb
        · simp [firsts, hb]
      · by_cases hb : key b ∈ known
        · simpa [firsts, hb] using ih h
        · have hrest : key a ∈ (known ++ [key b]) ++
              (firsts key (known ++ [key b]) bs).map key := ih h
          simpa [firsts, hb, List.append_assoc] using hrest

end Firsts
