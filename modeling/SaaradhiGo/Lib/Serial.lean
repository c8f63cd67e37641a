/-
Tables whose keys are given out in order.

A serial table is a table beside the next key; that every row has an earlier key is a field, so
that a new row never meets an old one.  Rows are written by `insert` and by `updateWhere`, the
conditional update of a query.
-/
import SaaradhiGo.Lib.Table

/-- Rows of type `ρ` with the primary key `pk`, given out from 0 on. -/
structure Serial {ρ : Type*} (pk : ρ → ℕ) where
  table : Table pk
  next : ℕ
  fresh : ∀ r ∈ table.rows, pk r < next

namespace Serial

variable {ρ : Type*} {pk : ρ → ℕ} {t : Serial pk} {r : ρ} {i : ℕ}

def empty : Serial pk := ⟨.empty, 0, fun _ h => by cases h⟩

abbrev rows (t : Serial pk) : List ρ := t.table.rows

/-- The row with the key `i`. -/
def get? (t : Serial pk) (i : ℕ) : Option ρ := t.table.get? i

/-- Add the row made for the next key. -/
def insert (t : Serial pk) (f : ℕ → ρ) (hf : ∀ n, pk (f n) = n) : Serial pk where
  table := ⟨t.rows ++ [f t.next], by
    rw [List.map_append, List.nodup_append]
    refine ⟨t.table.nodup, by simp, ?_⟩
    rintro a ha b hb rfl
    obtain ⟨r, hr, rfl⟩ := List.mem_map.mp ha
    have hkey : pk r = t.next := by simpa [hf] using hb
    exact absurd (t.fresh r hr) (by omega)⟩
  next := t.next + 1
  fresh := by
    intro r hr
    rcases List.mem_append.mp hr with h | h
    · have := t.fresh r h
      omega
    · rw [List.mem_singleton.mp h, hf]
      omega

/-- Update the rows that meet `p`. -/
def updateWhere (t : Serial pk) (p : ρ → Prop) [DecidablePred p] (f : ρ → ρ)
    (hf : ∀ r, pk (f r) = pk r) : Serial pk where
  table := ⟨t.rows.map fun r => if p r then f r else r, by
    have hkeys : (t.rows.map fun r => if p r then f r else r).map pk = t.rows.map pk := by
      rw [List.map_map]
      refine List.map_congr_left fun r _ => ?_
      rw [Function.comp_apply]
      split
      · exact hf r
      · rfl
    rw [hkeys]
    exact t.table.nodup⟩
  next := t.next
  fresh := by
    intro r hr
    obtain ⟨r₀, hr₀, rfl⟩ := List.mem_map.mp hr
    have hlt := t.fresh r₀ hr₀
    split
    · rw [hf]
      exact hlt
    · exact hlt

@[simp] lemma get?_empty : (empty : Serial pk).get? i = none := rfl

lemma pk_of_get? (h : t.get? i = some r) : pk r = i := Table.pk_of_get? h

lemma mem_of_get? (h : t.get? i = some r) : r ∈ t.rows := (Table.mem_of_get? h).1

lemma get?_of_mem (h : r ∈ t.rows) : t.get? (pk r) = some r := Table.mem_iff_get?.mp h

lemma lt_next (h : t.get? i = some r) : i < t.next := by
  rw [← pk_of_get? h]
  exact t.fresh r (mem_of_get? h)

lemma get?_insert {f : ℕ → ρ} (hf : ∀ n, pk (f n) = n) :
    (t.insert f hf).get? i = if i = t.next then some (f t.next) else t.get? i := by
  rw [get?, Table.get?, insert, List.find?_append]
  by_cases h : i = t.next
  · have hnone : (t.rows.find? fun r => decide (pk r = i)) = none := by
      rw [List.find?_eq_none]
      intro r hr hkey
      have := t.fresh r hr
      rw [decide_eq_true_eq] at hkey
      omega
    rw [if_pos h, hnone, Option.none_or, List.find?_singleton, hf, h]
    simp
  · have hnew : ([f t.next].find? fun r => decide (pk r = i)) = none := by
      rw [List.find?_singleton, hf]
      simp [Ne.symm h]
    rw [if_neg h, hnew, Option.or_none]
    rfl

/-- A row is kept when one is added. -/
lemma get?_insert_of_some {f : ℕ → ρ} (hf : ∀ n, pk (f n) = n) (h : t.get? i = some r) :
    (t.insert f hf).get? i = some r := by
  rw [get?_insert, if_neg (Nat.ne_of_lt (lt_next h)), h]

lemma get?_updateWhere {p : ρ → Prop} [DecidablePred p] {f : ρ → ρ}
    (hf : ∀ r, pk (f r) = pk r) :
    (t.updateWhere p f hf).get? i = (t.get? i).map fun r => if p r then f r else r := by
  rw [get?, Table.get?, updateWhere, List.find?_map, get?, Table.get?]
  congr 2
  funext r
  rw [Function.comp_apply]
  split
  · rw [hf]
  · rfl

lemma of_get?_updateWhere {p : ρ → Prop} [DecidablePred p] {f : ρ → ρ}
    (hf : ∀ r, pk (f r) = pk r) (h : (t.updateWhere p f hf).get? i = some r) :
    ∃ r₀, t.get? i = some r₀ ∧ r = if p r₀ then f r₀ else r₀ := by
  rw [get?_updateWhere, Option.map_eq_some_iff] at h
  obtain ⟨r₀, hr₀, rfl⟩ := h
  exact ⟨r₀, hr₀, rfl⟩

@[simp] lemma next_updateWhere {p : ρ → Prop} [DecidablePred p] {f : ρ → ρ}
    (hf : ∀ r, pk (f r) = pk r) : (t.updateWhere p f hf).next = t.next := rfl

lemma get?_of_find? {p : ρ → Bool} (h : t.rows.find? p = some r) :
    t.get? (pk r) = some r ∧ p r = true :=
  ⟨get?_of_mem (List.mem_of_find?_eq_some h), List.find?_some h⟩

end Serial
