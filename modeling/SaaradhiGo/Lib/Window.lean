/-
Versions of one thing, each in force over a window of time.

A window is closed on the left and open on the right, and may have no end yet.  Rows that
carry a key and a window are in succession when the windows of one key are apart from each
other.  The operation on them is to end the open row of a key at a moment and start another
row there; it keeps the succession and changes nothing before that moment.
-/
import Mathlib.Data.List.MinMax
import Mathlib.Order.Basic
import Mathlib.Tactic.Common
import Mathlib.Data.Int.Order.Basic

/-- A window of time, from `start` on and before `stop`. -/
structure Window where
  start : ℤ
  /-- `none` when the window has no end yet. -/
  stop : Option ℤ
deriving DecidableEq, Repr

namespace Window

def Contains (w : Window) (t : ℤ) : Prop := w.start ≤ t ∧ ∀ e ∈ w.stop, t < e

instance (w : Window) (t : ℤ) : Decidable (w.Contains t) :=
  match w with
  | ⟨start, none⟩ => decidable_of_iff (start ≤ t) (by simp [Contains])
  | ⟨start, some e⟩ => decidable_of_iff (start ≤ t ∧ t < e) (by simp [Contains])

def Precedes (w v : Window) : Prop := ∃ e ∈ w.stop, e ≤ v.start

/-- One of the windows ends before the other starts. -/
def Apart (w v : Window) : Prop := w.Precedes v ∨ v.Precedes w

def closeAt (w : Window) (e : ℤ) : Window := { w with stop := some e }

variable {w v : Window} {t e : ℤ}

lemma contains_of_open (h : w.stop = none) : w.Contains t ↔ w.start ≤ t := by
  simp [Contains, h]

lemma contains_of_stop (h : w.stop = some e) : w.Contains t ↔ w.start ≤ t ∧ t < e := by
  simp [Contains, h]

@[simp] lemma contains_closeAt : (w.closeAt e).Contains t ↔ w.start ≤ t ∧ t < e :=
  contains_of_stop rfl

lemma contains_closeAt_of_lt (h : w.stop = none) (ht : t < e) :
    (w.closeAt e).Contains t ↔ w.Contains t := by
  rw [contains_closeAt, contains_of_open h]
  exact and_iff_left ht

lemma Apart.symm (h : w.Apart v) : v.Apart w := Or.symm h

lemma Precedes.not_contains (h : w.Precedes v) (hw : w.Contains t) : ¬ v.Contains t := by
  obtain ⟨e, he, hle⟩ := h
  intro hv
  have hlt := hw.2 e he
  have hge := hv.1
  omega

/-- Windows that are apart share no moment. -/
theorem Apart.not_both (h : w.Apart v) : ¬ (w.Contains t ∧ v.Contains t) := by
  rintro ⟨hw, hv⟩
  rcases h with h | h
  · exact h.not_contains hw hv
  · exact h.not_contains hv hw

/-- A window without an end can only come after one it is apart from. -/
lemma Apart.precedes_of_open (h : w.Apart v) (hv : v.stop = none) : w.Precedes v := by
  rcases h with h | ⟨e, he, -⟩
  · exact h
  · rw [hv] at he
    cases he

end Window

/-! ## Rows in succession -/

section Succession

variable {ρ κ : Type*} {key : ρ → κ} {window : ρ → Window} {rows : List ρ}

/-- The windows of one key are apart, and none is empty. -/
structure Successive (key : ρ → κ) (window : ρ → Window) (rows : List ρ) : Prop where
  apart : ∀ r ∈ rows, ∀ r' ∈ rows, key r = key r' → r ≠ r' → (window r).Apart (window r')
  proper : ∀ r ∈ rows, ∀ e ∈ (window r).stop, (window r).start < e

lemma Successive.eq_of_contains (h : Successive key window rows) {r r' : ρ} (hr : r ∈ rows)
    (hr' : r' ∈ rows) (hkey : key r = key r') {t : ℤ} (ht : (window r).Contains t)
    (ht' : (window r').Contains t) : r = r' := by
  by_contra hne
  exact (h.apart r hr r' hr' hkey hne).not_both ⟨ht, ht'⟩

lemma Successive.eq_of_open (h : Successive key window rows) {r r' : ρ} (hr : r ∈ rows)
    (hr' : r' ∈ rows) (hkey : key r = key r') (hopen : (window r).stop = none)
    (hopen' : (window r').stop = none) : r = r' := by
  by_contra hne
  obtain ⟨e, he, -⟩ := (h.apart r hr r' hr' hkey hne).precedes_of_open hopen'
  rw [hopen] at he
  cases he

lemma Successive.stop_le (h : Successive key window rows) {r r' : ρ} (hr : r ∈ rows)
    (hr' : r' ∈ rows) (hkey : key r = key r') (hopen : (window r').stop = none) {e : ℤ}
    (he : (window r).stop = some e) : e ≤ (window r').start := by
  have hne : r ≠ r' := by
    rintro rfl
    rw [hopen] at he
    cases he
  obtain ⟨e', he', hle⟩ := (h.apart r hr r' hr' hkey hne).precedes_of_open hopen
  rw [he] at he'
  cases he'
  exact hle

/-- Ending the open rows of a key at `e` and starting another row there. -/
theorem Successive.supersede (h : Successive key window rows) {k : ρ → ρ} {x : ρ} {e : ℤ}
    {rows' : List ρ} (hx : window x = ⟨e, none⟩)
    (hkey : ∀ r, key (k r) = key r) (hclose : ∀ r, window (k r) = (window r).closeAt e)
    (hopen : ∀ r ∈ rows, key r = key x → (window r).stop = none → (window r).start < e)
    (hclosed : ∀ r ∈ rows, key r = key x → ∀ e' ∈ (window r).stop, e' ≤ e)
    (hrows : ∀ r' ∈ rows', r' = x ∨
      ∃ r ∈ rows, (r' = r ∧ (key r = key x → (window r).stop ≠ none)) ∨
        (r' = k r ∧ key r = key x ∧ (window r).stop = none)) :
    Successive key window rows' := by
  -- a row that is left ends by the moment if it has the key
  have hends : ∀ r' ∈ rows', r' ≠ x → key r' = key x → (window r').Precedes (window x) := by
    intro r' hr' hne hkx
    rw [hx]
    rcases hrows r' hr' with rfl | ⟨r, hr, ⟨rfl, hstop⟩ | ⟨rfl, hkr, -⟩⟩
    · exact absurd rfl hne
    · obtain ⟨e', he'⟩ := Option.ne_none_iff_exists'.mp (hstop hkx)
      exact ⟨e', he', hclosed r' hr hkx e' he'⟩
    · rw [hclose]
      exact ⟨e, rfl, le_refl e⟩
  refine ⟨fun r' hr' s' hs' heq hne => ?_, fun r' hr' e' he' => ?_⟩
  · rcases hrows r' hr' with rfl | ⟨r, hr, hcase⟩
    · exact .inr (hends s' hs' (Ne.symm hne) heq.symm)
    · rcases hrows s' hs' with rfl | ⟨s, hs, hcase'⟩
      · exact .inl (hends r' hr' hne heq)
      · rcases hcase with ⟨rfl, hstop⟩ | ⟨rfl, hkr, hor⟩ <;>
          rcases hcase' with ⟨rfl, hstop'⟩ | ⟨rfl, hks, hos⟩
        · exact h.apart _ hr _ hs heq hne
        · rw [hkey] at heq
          have hrs : r' ≠ s := by
            rintro rfl
            exact hstop hks hos
          rw [hclose]
          obtain ⟨e', he', hle⟩ := (h.apart _ hr _ hs heq hrs).precedes_of_open hos
          exact .inl ⟨e', he', hle⟩
        · rw [hkey] at heq
          have hrs : s' ≠ r := by
            rintro rfl
            exact hstop' hkr hor
          rw [hclose]
          obtain ⟨e', he', hle⟩ := (h.apart _ hs _ hr heq.symm hrs).precedes_of_open hor
          exact .inr ⟨e', he', hle⟩
        · rw [hkey, hkey] at heq
          have hrs : r ≠ s := by
            rintro rfl
            exact hne rfl
          exact absurd (h.eq_of_open hr hs heq hor hos) hrs
  · rcases hrows r' hr' with rfl | ⟨r, hr, ⟨rfl, -⟩ | ⟨rfl, hkr, hor⟩⟩
    · rw [hx] at he'
      cases he'
    · exact h.proper _ hr e' he'
    · rw [hclose] at he' ⊢
      cases he'
      exact hopen r hr hkr hor

/-- When every row that ends is followed at once by one of its key, the key stays in force. -/
lemma Successive.exists_contains (h : Successive key window rows)
    (hnext : ∀ r ∈ rows, ∀ e ∈ (window r).stop, ∃ s ∈ rows, key s = key r ∧ (window s).start = e)
    {r : ρ} (hr : r ∈ rows) {t : ℤ} (hle : (window r).start ≤ t) :
    ∃ s ∈ rows, key s = key r ∧ (window s).Contains t := by
  classical
  -- the last row of the key that has started
  have hstarted : r ∈ rows.filter fun s => key s = key r ∧ (window s).start ≤ t :=
    List.mem_filter.mpr ⟨hr, by simpa using hle⟩
  cases hlast : (rows.filter fun s => key s = key r ∧ (window s).start ≤ t).argmax
      (fun s => (window s).start) with
  | none =>
      rw [List.argmax_eq_none] at hlast
      rw [hlast] at hstarted
      cases hstarted
  | some s =>
      have hs := List.mem_filter.mp (List.argmax_mem hlast)
      simp only [decide_eq_true_eq] at hs
      refine ⟨s, hs.1, hs.2.1, hs.2.2, fun e he => ?_⟩
      by_contra hge
      obtain ⟨s', hs', hkey, hstart⟩ := hnext s hs.1 e he
      have hmem : s' ∈ rows.filter fun s => key s = key r ∧ (window s).start ≤ t := by
        refine List.mem_filter.mpr ⟨hs', ?_⟩
        simp only [decide_eq_true_eq]
        exact ⟨hkey.trans hs.2.1, by omega⟩
      have hmax := List.le_of_mem_argmax (f := fun s => (window s).start) hmem hlast
      have hproper := h.proper s hs.1 e he
      omega

end Succession

/-! ## The greatest row -/

/-- When the greatest element of a list is the only one of its value, it does not depend on
the order of the list. -/
lemma List.argmax_eq_of_mem_iff {α β : Type*} [LinearOrder β] {f : α → β} {l l' : List α}
    (hmem : ∀ x, x ∈ l ↔ x ∈ l') (hinj : ∀ x ∈ l, ∀ y ∈ l, f x = f y → x = y) :
    l.argmax f = l'.argmax f := by
  cases h : l.argmax f with
  | none =>
      rw [List.argmax_eq_none] at h
      have hnil : l' = [] := List.eq_nil_iff_forall_not_mem.mpr fun x hx => by
        simpa [h] using (hmem x).mpr hx
      rw [hnil, List.argmax_nil]
  | some m =>
      cases h' : l'.argmax f with
      | none =>
          rw [List.argmax_eq_none] at h'
          have hm := (hmem m).mp (List.argmax_mem h)
          rw [h'] at hm
          cases hm
      | some m' =>
          have hml := List.argmax_mem h
          have hml' := (hmem m').mpr (List.argmax_mem h')
          have hle := List.le_of_mem_argmax hml' h
          have hle' := List.le_of_mem_argmax ((hmem m).mp hml) h'
          rw [hinj m hml m' hml' (le_antisymm hle' hle)]

/-- The greatest element of a mapped list, under a map that keeps the value. -/
lemma List.argmax_map {α β γ : Type*} [LinearOrder β] {f : α → β} {g : γ → β} {k : γ → α}
    (hk : ∀ x, f (k x) = g x) (l : List γ) : (l.map k).argmax f = (l.argmax g).map k := by
  induction l with
  | nil => rfl
  | cons x l ih =>
      rw [List.map_cons, List.argmax_cons, List.argmax_cons, ih]
      cases h : l.argmax g with
      | none => rfl
      | some m =>
          dsimp only [Option.map_some]
          rw [hk, hk]
          split <;> rfl
