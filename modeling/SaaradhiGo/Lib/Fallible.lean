/-
Loops that may raise.

A loop in the monad of exceptions stops at the first element whose body raises.  The rule below
says exactly when it goes through: an invariant is carried along the elements that are left, and
under it a condition on an element decides whether its body raises.
-/
import Mathlib.Data.List.Basic

namespace Fallible

universe u

variable {ε : Type*} {σ α : Type u}

lemma bind_eq_ok {β : Type u} {x : Except ε α} {f : α → Except ε β} {b : β} :
    (x >>= f) = .ok b ↔ ∃ a, x = .ok a ∧ f a = .ok b := by
  cases x with
  | error e => simp [bind, Except.bind]
  | ok a => simp [bind, Except.bind]

lemma map_eq_ok {β : Type*} {x : Except ε α} {f : α → β} {b : β} :
    x.map f = .ok b ↔ ∃ a, x = .ok a ∧ f a = b := by
  cases x with
  | error e => simp [Except.map]
  | ok a => simp [Except.map]

/-- A result of which something holds by evaluation. -/
lemma exists_of_any {α : Type*} {e : Except ε α} {f : α → Bool}
    (h : e.toOption.any f = true) : ∃ x, e = .ok x ∧ f x = true := by
  cases e with
  | error _ => cases h
  | ok x => exact ⟨x, rfl, h⟩

/-- What a loop leaves: the invariant, with no element left. -/
theorem foldlM_spec {f : σ → α → Except ε σ} {I : σ → List α → Prop}
    (hstep : ∀ s a as s', I s (a :: as) → f s a = .ok s' → I s' as) {as : List α} {s s' : σ}
    (hs : I s as) (h : as.foldlM f s = .ok s') : I s' [] := by
  induction as generalizing s with
  | nil =>
      cases h
      exact hs
  | cons a as ih =>
      rw [List.foldlM_cons, bind_eq_ok] at h
      obtain ⟨s₁, hfirst, hrest⟩ := h
      exact ih (hstep s a as s₁ hs hfirst) hrest

/-- A loop goes through exactly when every element meets the condition of its body. -/
theorem foldlM_ok_iff {f : σ → α → Except ε σ} {I : σ → List α → Prop} {P : α → Prop}
    (hstep : ∀ s a as s', I s (a :: as) → f s a = .ok s' → I s' as)
    (hok : ∀ s a as, I s (a :: as) → ((∃ s', f s a = .ok s') ↔ P a)) {as : List α} {s : σ}
    (hs : I s as) : (∃ s', as.foldlM f s = .ok s') ↔ ∀ a ∈ as, P a := by
  induction as generalizing s with
  | nil =>
      constructor
      · simp
      · exact fun _ => ⟨s, rfl⟩
  | cons a as ih =>
      rw [List.forall_mem_cons, ← hok s a as hs]
      constructor
      · rintro ⟨s', h⟩
        rw [List.foldlM_cons, bind_eq_ok] at h
        obtain ⟨s₁, hfirst, hrest⟩ := h
        exact ⟨⟨s₁, hfirst⟩, (ih (hstep s a as s₁ hs hfirst)).mp ⟨s', hrest⟩⟩
      · rintro ⟨⟨s₁, hfirst⟩, hrest⟩
        obtain ⟨s', hs'⟩ := (ih (hstep s a as s₁ hs hfirst)).mpr hrest
        exact ⟨s', by rw [List.foldlM_cons, bind_eq_ok]; exact ⟨s₁, hfirst, hs'⟩⟩

end Fallible
