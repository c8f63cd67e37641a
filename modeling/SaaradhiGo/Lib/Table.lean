/-
Tables of rows with a primary key, and unique constraints on them.

A table is a list of rows no two of which have the same primary key; the proof of that
is a field, so that a table with a repeated key cannot be built.  Rows are looked up by
their key and written by `put`, which replaces the row with the same key or appends a
new one.  A unique constraint, which may be partial (`key r = none` for a row the
constraint does not cover), is the predicate `UniqueOn`.
-/
import Mathlib.Data.List.Nodup
import Mathlib.Data.List.Basic

/-- Rows of type `ρ` with the primary key `pk`. -/
structure Table {ρ ι : Type*} (pk : ρ → ι) where
  /-- The rows, oldest first. -/
  rows : List ρ
  /-- No two rows have the same primary key. -/
  nodup : (rows.map pk).Nodup

namespace Table

variable {ρ ι κ : Type*} [DecidableEq ι] {pk : ρ → ι}

instance [DecidableEq ρ] : DecidableEq (Table pk) := fun t u =>
  decidable_of_iff (t.rows = u.rows) ⟨fun h => by cases t; cases u; cases h; rfl, congrArg rows⟩

def empty : Table pk := ⟨[], by simp⟩

/-- The row with primary key `i`. -/
def get? (t : Table pk) (i : ι) : Option ρ :=
  t.rows.find? fun r => pk r = i

/-- Replace the row with the same primary key as `r` by `r`. -/
def replace (pk : ρ → ι) (l : List ρ) (r : ρ) : List ρ :=
  l.map fun x => if pk x = pk r then r else x

lemma map_pk_replace (l : List ρ) (r : ρ) :
    (replace pk l r).map pk = l.map pk := by
  rw [replace, List.map_map]
  apply List.map_congr_left
  intro x _
  by_cases h : pk x = pk r
  · simp [h]
  · simp [h]

/-- Write the row `r`: it replaces the row with its primary key, or is appended. -/
def put (t : Table pk) (r : ρ) : Table pk :=
  if h : pk r ∈ t.rows.map pk then
    ⟨replace pk t.rows r, by rw [map_pk_replace]; exact t.nodup⟩
  else
    ⟨t.rows ++ [r], by
      rw [List.map_append, List.nodup_append]
      refine ⟨t.nodup, by simp, ?_⟩
      rintro a ha b hb rfl
      exact h (by simpa [List.mem_singleton.mp hb] using ha)⟩

/-- Writing over a row leaves the keys as they are. -/
lemma map_pk_put_of_mem {t : Table pk} {r : ρ} (h : pk r ∈ t.rows.map pk) :
    (t.put r).rows.map pk = t.rows.map pk := by
  rw [put, dif_pos h, map_pk_replace]

@[simp] lemma get?_empty (i : ι) : (empty : Table pk).get? i = none := rfl

lemma mem_of_get? {t : Table pk} {i : ι} {r : ρ} (h : t.get? i = some r) :
    r ∈ t.rows ∧ pk r = i :=
  ⟨List.mem_of_find?_eq_some h, by simpa using List.find?_some h⟩

lemma pk_of_get? {t : Table pk} {i : ι} {r : ρ} (h : t.get? i = some r) : pk r = i :=
  (mem_of_get? h).2

lemma find?_eq_some_of_nodup {l : List ρ} (hl : (l.map pk).Nodup) {r : ρ} (hr : r ∈ l) :
    (l.find? fun x => pk x = pk r) = some r := by
  induction l with
  | nil => simp at hr
  | cons x l ih =>
      rw [List.map_cons, List.nodup_cons] at hl
      rcases List.mem_cons.mp hr with rfl | hmem
      · simp
      · have hne : pk x ≠ pk r := fun h => hl.1 (h ▸ List.mem_map_of_mem hmem)
        rw [List.find?_cons_of_neg (by simpa using hne)]
        exact ih hl.2 hmem

lemma mem_iff_get? {t : Table pk} {r : ρ} : r ∈ t.rows ↔ t.get? (pk r) = some r :=
  ⟨find?_eq_some_of_nodup t.nodup, fun h => (mem_of_get? h).1⟩

lemma eq_of_mem {t : Table pk} {r r' : ρ} (hr : r ∈ t.rows) (hr' : r' ∈ t.rows)
    (hpk : pk r = pk r') : r = r' := by
  have hget := mem_iff_get?.mp hr
  rw [hpk, mem_iff_get?.mp hr'] at hget
  exact (Option.some.inj hget).symm

/-- The rows are what is found under the keys, in the order of the keys. -/
lemma rows_eq_filterMap (t : Table pk) : t.rows = (t.rows.map pk).filterMap t.get? := by
  have hfind : ∀ r ∈ t.rows, (t.get? ∘ pk) r = some r := fun r hr => mem_iff_get?.mp hr
  rw [List.filterMap_map, List.filterMap_congr hfind, List.filterMap_some]

/-- The rows when what is found under each key has changed by `f`. -/
lemma rows_eq_map {t t' : Table pk} {f : ρ → ρ} (hkeys : t'.rows.map pk = t.rows.map pk)
    (hget : ∀ i, t'.get? i = (t.get? i).map f) : t'.rows = t.rows.map f := by
  have hfind : ∀ r ∈ t.rows, (t'.get? ∘ pk) r = (some ∘ f) r := by
    intro r hr
    rw [Function.comp_apply, hget, mem_iff_get?.mp hr]
    rfl
  rw [rows_eq_filterMap t', hkeys, List.filterMap_map, List.filterMap_congr hfind,
    List.filterMap_eq_map]

lemma get?_eq_none_iff {t : Table pk} {i : ι} : t.get? i = none ↔ i ∉ t.rows.map pk := by
  simp only [get?, List.find?_eq_none, List.mem_map, decide_eq_true_eq]
  constructor
  · rintro h ⟨r, hr, rfl⟩
    exact h r hr rfl
  · intro h r hr he
    exact h ⟨r, hr, he⟩

lemma get?_put_self (t : Table pk) (r : ρ) : (t.put r).get? (pk r) = some r := by
  apply mem_iff_get?.mp
  by_cases h : pk r ∈ t.rows.map pk
  · rw [put, dif_pos h]
    obtain ⟨x, hx, he⟩ := List.mem_map.mp h
    exact List.mem_map.mpr ⟨x, hx, if_pos he⟩
  · rw [put, dif_neg h]
    simp

lemma find?_replace_of_ne (l : List ρ) {r : ρ} {i : ι} (hi : i ≠ pk r) :
    ((replace pk l r).find? fun x => pk x = i) = l.find? fun x => pk x = i := by
  induction l with
  | nil => rfl
  | cons x l ih =>
      rw [replace, List.map_cons, List.find?_cons, List.find?_cons]
      by_cases hx : pk x = pk r
      · have h1 : ¬ pk r = i := fun h => hi h.symm
        simp only [hx, if_true, h1, decide_false]
        exact ih
      · simp only [hx, if_false]
        rw [show (List.map (fun x => if pk x = pk r then r else x) l) = replace pk l r from rfl,
          ih]

/-- Replacing a row that a filter leaves out by one that it leaves out. -/
lemma filter_replace {p : ρ → Bool} {l : List ρ} {r : ρ} (hr : p r = false)
    (hl : ∀ x ∈ l, pk x = pk r → p x = false) : (replace pk l r).filter p = l.filter p := by
  induction l with
  | nil => rfl
  | cons x l ih =>
      have hrest := ih fun y hy => hl y (List.mem_cons_of_mem _ hy)
      rw [replace] at hrest
      rw [replace, List.map_cons]
      by_cases hx : pk x = pk r
      · rw [if_pos hx, List.filter_cons_of_neg (by simp [hr]),
          List.filter_cons_of_neg (by simp [hl x List.mem_cons_self hx]), hrest]
      · rw [if_neg hx, List.filter_cons, List.filter_cons, hrest]

lemma get?_put_of_ne (t : Table pk) {r : ρ} {i : ι} (hi : i ≠ pk r) :
    (t.put r).get? i = t.get? i := by
  by_cases h : pk r ∈ t.rows.map pk
  · rw [put, dif_pos h]
    exact find?_replace_of_ne t.rows hi
  · rw [put, dif_neg h, get?, get?, List.find?_append]
    have h1 : ¬ pk r = i := fun he => hi he.symm
    simp [h1]

/-- Reading a table after one row has been written. -/
theorem get?_put (t : Table pk) (r : ρ) (i : ι) :
    (t.put r).get? i = if i = pk r then some r else t.get? i := by
  by_cases h : i = pk r
  · rw [if_pos h, h, get?_put_self]
  · rw [if_neg h, get?_put_of_ne t h]

/-- The rows after a write: the old rows with another key, and the row written. -/
lemma mem_put {t : Table pk} {r x : ρ} :
    x ∈ (t.put r).rows ↔ x = r ∨ (x ∈ t.rows ∧ pk x ≠ pk r) := by
  rw [mem_iff_get?, get?_put]
  by_cases h : pk x = pk r
  · simp only [h, if_true, Option.some.injEq, ne_eq, not_true_eq_false, and_false, or_false]
    exact eq_comm
  · simp only [h, if_false, ne_eq, not_false_eq_true, and_true]
    rw [← mem_iff_get?]
    exact ⟨Or.inr, fun hx => hx.resolve_left (fun he => h (he ▸ rfl))⟩

/-- Add the row `r` at the end, or refuse it (`none`) when its key is taken. -/
def insert? (t : Table pk) (r : ρ) : Option (Table pk) :=
  if h : pk r ∈ t.rows.map pk then none
  else some ⟨t.rows ++ [r], by
    rw [List.map_append, List.nodup_append]
    refine ⟨t.nodup, by simp, ?_⟩
    rintro a ha b hb rfl
    exact h (by simpa [List.mem_singleton.mp hb] using ha)⟩

lemma insert?_eq_none_iff {t : Table pk} {r : ρ} :
    t.insert? r = none ↔ pk r ∈ t.rows.map pk := by
  rw [insert?]
  split <;> simp_all

lemma rows_of_insert? {t t' : Table pk} {r : ρ} (h : t.insert? r = some t') :
    t'.rows = t.rows ++ [r] ∧ pk r ∉ t.rows.map pk := by
  rw [insert?] at h
  split at h
  · cases h
  · next hr =>
    cases h
    exact ⟨rfl, hr⟩

lemma insert?_of_notMem {t : Table pk} {r : ρ} (h : pk r ∉ t.rows.map pk) :
    ∃ t', t.insert? r = some t' ∧ t'.rows = t.rows ++ [r] := by
  rw [insert?, dif_neg h]
  exact ⟨_, rfl, rfl⟩

/-- A row whose key is free is written. -/
lemma insert?_eq_some {t t' : Table pk} {r : ρ} :
    t.insert? r = some t' ↔ t.get? (pk r) = none ∧ t' = t.put r := by
  rw [insert?, get?_eq_none_iff]
  by_cases h : pk r ∈ t.rows.map pk
  · rw [dif_pos h]
    exact ⟨nofun, fun hfree => absurd h hfree.1⟩
  · rw [dif_neg h, put, dif_neg h]
    exact ⟨fun hsome => ⟨h, (Option.some.inj hsome).symm⟩, fun hput => congrArg some hput.2.symm⟩

def nextKey {pk : ρ → ℕ} (t : Table pk) : ℕ := (t.rows.map pk).foldr max 0 + 1

lemma lt_nextKey {pk : ρ → ℕ} {t : Table pk} {i : ℕ} (h : i ∈ t.rows.map pk) : i < t.nextKey := by
  have hle : ∀ l : List ℕ, i ∈ l → i ≤ l.foldr max 0 := by
    intro l
    induction l with
    | nil => simp
    | cons k l ih =>
        intro hmem
        rw [List.foldr_cons]
        rcases List.mem_cons.mp hmem with rfl | hmem
        · exact Nat.le_max_left _ _
        · exact Nat.le_trans (ih hmem) (Nat.le_max_right _ _)
  exact Nat.lt_succ_of_le (hle _ h)

lemma nextKey_notMem {pk : ρ → ℕ} (t : Table pk) : t.nextKey ∉ t.rows.map pk := fun h =>
  Nat.lt_irrefl _ (lt_nextKey h)

/-- Delete the row with primary key `i`. -/
def erase (t : Table pk) (i : ι) : Table pk :=
  ⟨t.rows.filter fun r => pk r ≠ i, t.nodup.sublist (List.filter_sublist.map pk)⟩

lemma mem_erase {t : Table pk} {i : ι} {r : ρ} : r ∈ (t.erase i).rows ↔ r ∈ t.rows ∧ pk r ≠ i := by
  rw [erase, List.mem_filter, decide_eq_true_eq]

/-- The rows satisfy the unique constraint on `key`, which covers a row when its key is
not `none`. -/
def UniqueOn (key : ρ → Option κ) (l : List ρ) : Prop :=
  (l.filterMap key).Nodup

instance [DecidableEq κ] (key : ρ → Option κ) (l : List ρ) : Decidable (UniqueOn key l) :=
  inferInstanceAs (Decidable (l.filterMap key).Nodup)

lemma UniqueOn.nil (key : ρ → Option κ) : UniqueOn key [] := by
  simp [UniqueOn]

/-- Writing a row that the constraint does not cover keeps the constraint. -/
lemma UniqueOn.put {key : ρ → Option κ} {t : Table pk} {r : ρ} (h : UniqueOn key t.rows)
    (hr : key r = none) : UniqueOn key (t.put r).rows := by
  rw [Table.put]
  split
  · have hsub : ∀ l : List ρ, ((replace pk l r).filterMap key).Sublist (l.filterMap key) := by
      intro l
      induction l with
      | nil => exact List.Sublist.slnil
      | cons x l ih =>
          rw [replace, List.map_cons]
          by_cases hx : pk x = pk r
          · rw [if_pos hx, List.filterMap_cons_none hr]
            refine ih.trans ?_
            rw [← List.singleton_append, List.filterMap_append]
            exact List.sublist_append_right _ _
          · rw [if_neg hx]
            cases hk : key x with
            | none => rw [List.filterMap_cons_none hk, List.filterMap_cons_none hk]; exact ih
            | some c =>
                rw [List.filterMap_cons_some hk, List.filterMap_cons_some hk]
                exact ih.cons_cons c
    exact h.sublist (hsub t.rows)
  · rw [UniqueOn, List.filterMap_append, List.filterMap_cons_none hr, List.filterMap_nil,
      List.append_nil]
    exact h

/-- Under a unique constraint two covered rows of a duplicate-free list with one key are
the same row. -/
lemma UniqueOn.eq_of_key {key : ρ → Option κ} {l : List ρ} (h : UniqueOn key l)
    {r r' : ρ} (hr : r ∈ l) (hr' : r' ∈ l) {k : κ} (hk : key r = some k)
    (hk' : key r' = some k) : r = r' := by
  induction l with
  | nil => simp at hr
  | cons x l ih =>
      have htail : UniqueOn key l := by
        rw [UniqueOn, List.filterMap_cons] at h
        cases hx : key x with
        | none => rwa [hx] at h
        | some c => rw [hx] at h; exact (List.nodup_cons.mp h).2
      have hhead : ∀ y ∈ l, key x = some k → key y ≠ some k := by
        intro y hy hx hyk
        rw [UniqueOn, List.filterMap_cons, hx] at h
        exact (List.nodup_cons.mp h).1 (List.mem_filterMap.mpr ⟨y, hy, hyk⟩)
      rcases List.mem_cons.mp hr with rfl | hmem <;> rcases List.mem_cons.mp hr' with rfl | hmem'
      · rfl
      · exact absurd hk' (hhead r' hmem' hk)
      · exact absurd hk (hhead r hmem hk')
      · exact ih htail hmem hmem'

/-- A constraint holds when no two rows have one key. -/
lemma UniqueOn.of_eq {key : ρ → Option κ} {l : List ρ} (hl : l.Nodup)
    (h : ∀ r ∈ l, ∀ r' ∈ l, ∀ k, key r = some k → key r' = some k → r = r') : UniqueOn key l := by
  rw [UniqueOn, List.Nodup, List.pairwise_filterMap]
  refine hl.imp_of_mem fun hr hr' hne k hk k' hk' hkk => hne ?_
  exact h _ hr _ hr' k hk (hkk ▸ hk')

lemma UniqueOn.put_of_forall {key : ρ → Option κ} {t : Table pk} {r : ρ} (h : UniqueOn key t.rows)
    (hr : ∀ x ∈ t.rows, pk x ≠ pk r → ∀ k, key r = some k → key x ≠ some k) :
    UniqueOn key (t.put r).rows := by
  refine .of_eq (List.Nodup.of_map _ (t.put r).nodup) fun x hx y hy k hxk hyk => ?_
  rcases mem_put.mp hx with hxr | ⟨hxt, hxr⟩ <;> rcases mem_put.mp hy with hyr | ⟨hyt, hyr⟩
  · rw [hxr, hyr]
  · exact absurd hyk (hr y hyt hyr k (hxr ▸ hxk))
  · exact absurd hxk (hr x hxt hxr k (hyr ▸ hyk))
  · exact h.eq_of_key hxt hyt hxk hyk

lemma mem_foldl_put {f : ρ → ρ} (hf : ∀ r, pk (f r) = pk r) {l : List ρ} (hl : (l.map pk).Nodup)
    {t : Table pk} {x : ρ} :
    x ∈ (l.foldl (fun t r => t.put (f r)) t).rows ↔
      (∃ r ∈ l, x = f r) ∨ (x ∈ t.rows ∧ ∀ r ∈ l, pk x ≠ pk r) := by
  induction l generalizing t with
  | nil => simp
  | cons a l ih =>
      rw [List.map_cons, List.nodup_cons] at hl
      have hother : ∀ r ∈ l, pk a ≠ pk r := fun r hr heq => hl.1 (heq ▸ List.mem_map_of_mem hr)
      rw [List.foldl_cons, ih hl.2, mem_put, hf]
      constructor
      · rintro (⟨r, hr, rfl⟩ | ⟨rfl | ⟨hx, hne⟩, hall⟩)
        · exact .inl ⟨r, List.mem_cons_of_mem _ hr, rfl⟩
        · exact .inl ⟨a, List.mem_cons_self, rfl⟩
        · exact .inr ⟨hx, List.forall_mem_cons.mpr ⟨hne, hall⟩⟩
      · rintro (⟨r, hr, rfl⟩ | ⟨hx, hall⟩)
        · rcases List.mem_cons.mp hr with rfl | hr
          · refine .inr ⟨.inl rfl, fun s hs => ?_⟩
            rw [hf]
            exact hother s hs
          · exact .inl ⟨r, hr, rfl⟩
        · obtain ⟨hne, hrest⟩ := List.forall_mem_cons.mp hall
          exact .inr ⟨.inr ⟨hx, hne⟩, hrest⟩

end Table
