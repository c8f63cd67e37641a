/-
Sums by key.

`Grouping.groups` collects the items of a list under the distinct values of a key, as a query that
groups does, and `Grouping.accumulate` works keyed values into rows that start blank, as a
dictionary with a default does.  What a row shows that every value adds to is then the sum over
the items of its key, even when several groups end in one row (`sum_groups`, `obs_accumulate`).
-/
import SaaradhiGo.Lib.Table
import Mathlib.Algebra.BigOperators.Group.List.Basic
import Mathlib.Data.List.Dedup

namespace Grouping

/-! ## Groups -/

section Groups

variable {α κ M : Type*} [DecidableEq κ] [AddCommMonoid M]

def groups (key : α → κ) (l : List α) : List (κ × List α) :=
  (l.map key).dedup.map fun k => (k, l.filter fun a => key a = k)

/-- Among distinct keys a value stands at its own key only. -/
lemma sum_ite_key {keys : List κ} (hkeys : keys.Nodup) (p : κ → Bool) {k : κ} (hk : k ∈ keys)
    (x : M) : ((keys.filter p).map fun k' => if k = k' then x else 0).sum =
      if p k then x else 0 := by
  induction keys with
  | nil => cases hk
  | cons k₀ keys ih =>
      obtain ⟨hnot, hrest⟩ := List.nodup_cons.mp hkeys
      have hother : k = k₀ → ((keys.filter p).map fun k' => if k = k' then x else 0).sum = 0 := by
        rintro rfl
        refine List.sum_eq_zero fun y hy => ?_
        obtain ⟨k', hk', rfl⟩ := List.mem_map.mp hy
        refine if_neg ?_
        rintro rfl
        exact hnot (List.mem_filter.mp hk').1
      rw [List.filter_cons]
      by_cases hkk : k = k₀
      · subst hkk
        cases hp : p k with
        | true =>
            rw [if_pos rfl, List.map_cons, List.sum_cons, hother rfl, if_pos rfl, add_zero,
              if_pos rfl]
        | false =>
            rw [if_neg Bool.false_ne_true, hother rfl, if_neg Bool.false_ne_true]
      · have hmem : k ∈ keys := (List.mem_cons.mp hk).resolve_left hkk
        cases hp : p k₀ with
        | true =>
            rw [if_pos rfl, List.map_cons, List.sum_cons, if_neg hkk, zero_add]
            exact ih hrest hmem
        | false =>
            rw [if_neg Bool.false_ne_true]
            exact ih hrest hmem

lemma sum_keys {keys : List κ} (hkeys : keys.Nodup) (key : α → κ) (p : κ → Bool) (c : α → M)
    {l : List α} (hl : ∀ a ∈ l, key a ∈ keys) :
    ((keys.filter p).map fun k => ((l.filter fun a => key a = k).map c).sum).sum =
      ((l.filter fun a => p (key a)).map c).sum := by
  induction l with
  | nil =>
      refine List.sum_eq_zero fun y hy => ?_
      obtain ⟨k, -, rfl⟩ := List.mem_map.mp hy
      rfl
  | cons a l ih =>
      have hcons : ∀ k, (((a :: l).filter fun a => key a = k).map c).sum =
          (if key a = k then c a else 0) + ((l.filter fun a => key a = k).map c).sum := by
        intro k
        rw [List.filter_cons]
        by_cases hk : key a = k
        · rw [if_pos (decide_eq_true hk), List.map_cons, List.sum_cons, if_pos hk]
        · rw [if_neg (by simpa using hk), if_neg hk, zero_add]
      have hrest := ih fun b hb => hl b (List.mem_cons_of_mem _ hb)
      have hkey := sum_ite_key hkeys p (hl a List.mem_cons_self) (c a)
      simp only [hcons]
      rw [List.sum_map_add, hrest, hkey, List.filter_cons]
      cases hp : p (key a) with
      | true => rw [if_pos rfl, if_pos rfl, List.map_cons, List.sum_cons]
      | false => rw [if_neg Bool.false_ne_true, if_neg Bool.false_ne_true, zero_add]

/-- The sums of the groups make up the sum of the items. -/
theorem sum_groups (key : α → κ) (p : κ → Bool) (c : α → M) (l : List α) :
    (((groups key l).filter fun g => p g.1).map fun g => (g.2.map c).sum).sum =
      ((l.filter fun a => p (key a)).map c).sum := by
  have hmem : ∀ a ∈ l, key a ∈ (l.map key).dedup := fun a ha =>
    List.mem_dedup.mpr (List.mem_map_of_mem ha)
  rw [← sum_keys (List.nodup_dedup _) key p c hmem, groups, List.filter_map, List.map_map]
  rfl

end Groups

lemma eq_sum_singletons {α M : Type*} [AddCommMonoid M] {f : List α → M} (hnil : f [] = 0)
    (hcons : ∀ a l, f (a :: l) = f [a] + f l) (l : List α) :
    f l = (l.map fun a => f [a]).sum := by
  induction l with
  | nil => exact hnil
  | cons a l ih => rw [hcons, ih, List.map_cons, List.sum_cons]

/-! ## Rows -/

section Rows

variable {κ β ρ M : Type*} [DecidableEq κ]

abbrev Rows (κ ρ : Type*) : Type _ := Table (Prod.fst : κ × ρ → κ)

def Rows.at (blank : ρ) (t : Rows κ ρ) (k : κ) : ρ := ((t.get? k).map Prod.snd).getD blank

def bump (blank : ρ) (op : ρ → β → ρ) (t : Rows κ ρ) (x : κ × β) : Rows κ ρ :=
  t.put (x.1, op (Rows.at blank t x.1) x.2)

def accumulate (blank : ρ) (op : ρ → β → ρ) (t : Rows κ ρ) (l : List (κ × β)) : Rows κ ρ :=
  l.foldl (bump blank op) t

variable {blank : ρ} {op : ρ → β → ρ} {t : Rows κ ρ}

lemma at_bump (x : κ × β) (k : κ) :
    Rows.at blank (bump blank op t x) k =
      if k = x.1 then op (Rows.at blank t k) x.2 else Rows.at blank t k := by
  rw [Rows.at, bump, Table.get?_put]
  by_cases hk : k = x.1
  · rw [if_pos hk, if_pos hk, hk]
    rfl
  · rw [if_neg hk, if_neg hk]
    rfl

/-- What every value adds to is the sum of the values of the key. -/
theorem obs_accumulate [AddCommMonoid M] (obs : ρ → M) (w : β → M)
    (hobs : ∀ r b, obs (op r b) = obs r + w b) (l : List (κ × β)) (t : Rows κ ρ) (k : κ) :
    obs (Rows.at blank (accumulate blank op t l) k) =
      obs (Rows.at blank t k) + ((l.filter fun x => x.1 = k).map fun x => w x.2).sum := by
  induction l generalizing t with
  | nil => exact (add_zero _).symm
  | cons x l ih =>
      show obs (Rows.at blank (accumulate blank op (bump blank op t x) l) k) = _
      rw [ih, at_bump, List.filter_cons]
      by_cases hk : x.1 = k
      · rw [if_pos hk.symm, if_pos (decide_eq_true hk), hobs, List.map_cons, List.sum_cons,
          add_assoc]
      · rw [if_neg fun h => hk h.symm, if_neg (by simpa using hk)]

lemma filter_key (t : Rows κ ρ) (k : κ) :
    (t.rows.filter fun x => x.1 = k) = (t.get? k).toList := by
  have hnodup := t.nodup
  rw [Table.get?]
  generalize t.rows = rows at *
  induction rows with
  | nil => rfl
  | cons x rows ih =>
      rw [List.map_cons, List.nodup_cons] at hnodup
      rw [List.filter_cons, List.find?_cons]
      by_cases hk : x.1 = k
      · have hnone : (rows.filter fun y => y.1 = k) = [] := by
          rw [List.filter_eq_nil_iff]
          intro y hy
          rw [decide_eq_true_eq]
          intro hyk
          exact hnodup.1 (hk.trans hyk.symm ▸ List.mem_map_of_mem hy)
        rw [if_pos (decide_eq_true hk), hnone, decide_eq_true hk]
        rfl
      · rw [if_neg (by simpa using hk), decide_eq_false hk]
        exact ih hnodup.2

/-- What is kept of the rows shows the same of a key when what is left out shows nothing. -/
lemma sum_kept [AddCommMonoid M] (obs : ρ → M) (kept : ρ → Bool) (hblank : obs blank = 0)
    (hkept : ∀ r, kept r = false → obs r = 0) (t : Rows κ ρ) (k : κ) :
    (((t.rows.filter fun x => kept x.2).filter fun x => x.1 = k).map fun x => obs x.2).sum =
      obs (Rows.at blank t k) := by
  rw [List.filter_comm, filter_key, Rows.at]
  cases hget : t.get? k with
  | none => exact hblank.symm
  | some x =>
      show (((([x] : List (κ × ρ)).filter fun y => kept y.2).map fun y => obs y.2).sum) = obs x.2
      rw [List.filter_cons, List.filter_nil]
      cases hx : kept x.2 with
      | true => rw [if_pos rfl, List.map_cons, List.map_nil, List.sum_cons, List.sum_nil, add_zero]
      | false =>
          rw [if_neg Bool.false_ne_true, List.map_nil, List.sum_nil, hkept x.2 hx]

end Rows

end Grouping
