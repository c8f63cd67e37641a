/-
Programs over a shared store, run alone or interleaved with other programs.

A program is a tree: it returns, or performs one operation and goes on with the answer.
One operation is one atomic step of the store; what the operation finds outside the
store (a provider's answer, a write that fails) is an external choice `e`.  Between two
operations of one program anything else may happen to the store.

`wp` is the weakest precondition of a program under interference: while `p` is what is
left of the program the store may change within the rely relation `R p`, the operation `o`
must meet the guarantee `G o`, and the postcondition is asked for when the program returns.
With `R p` equality it is the ordinary weakest precondition of a run without interference.

A pool is a store with a program for each thread, beside the request the program serves.
A pool moves when a thread performs its next operation, when a request is given to a
thread (which also models the death of the program it had), and when the surroundings
change the store.  `Pool.valid_step` and `Pool.invariant_valid_step` lift what has been
proved of each program alone to every interleaving.
-/
import SaaradhiGo.Lib.Transition
import Mathlib.Logic.Function.Basic

namespace Interleave

/-- A program: it returns a value, or performs an operation and goes on with its
answer. -/
inductive Prog (Op : Type) (Ans : Op → Type) (ρ : Type) : Type where
  | ret (r : ρ) : Prog Op Ans ρ
  | op (o : Op) (k : Ans o → Prog Op Ans ρ) : Prog Op Ans ρ

/-- What an operation does: from an external choice and a store, its answer and the
store after it. -/
abbrev Exec (Op : Type) (Ans : Op → Type) (σ ε : Type) : Type :=
  (o : Op) → ε → σ → Ans o × σ

variable {Op : Type} {Ans : Op → Type} {ρ σ ε : Type}

namespace Prog

/-- The program has returned. -/
def Returned : Prog Op Ans ρ → Prop
  | ret _ => True
  | op _ _ => False

instance : DecidablePred (@Returned Op Ans ρ)
  | ret _ => isTrue trivial
  | op _ _ => isFalse id

@[simp] lemma returned_ret (r : ρ) : (ret r : Prog Op Ans ρ).Returned := trivial

@[simp] lemma not_returned_op (o : Op) (k : Ans o → Prog Op Ans ρ) : ¬ (op o k).Returned := id

/-- The next operation of a program; a program that has returned stays as it is. -/
def next (exec : Exec Op Ans σ ε) (e : ε) : Prog Op Ans ρ × σ → Prog Op Ans ρ × σ
  | (ret r, s) => (ret r, s)
  | (op o k, s) => (k (exec o e s).1, (exec o e s).2)

/-- Run a program alone along a list of external choices.  When the list ends first, the
program stops where it is, as a process that dies there. -/
def runAlone (exec : Exec Op Ans σ ε) : Prog Op Ans ρ → List ε → σ → Prog Op Ans ρ × σ
  | ret r, _, s => (ret r, s)
  | op o k, [], s => (op o k, s)
  | op o k, e :: es, s => runAlone exec (k (exec o e s).1) es (exec o e s).2

/-- Every operation of the run is taken under a choice that `ok` admits. -/
def Admits (exec : Exec Op Ans σ ε) (ok : (o : Op) → ε → σ → Prop) :
    Prog Op Ans ρ → List ε → σ → Prop
  | ret _, _, _ => True
  | op _ _, [], _ => True
  | op o k, e :: es, s => ok o e s ∧ Admits exec ok (k (exec o e s).1) es (exec o e s).2

section Wp

variable (exec : Exec Op Ans σ ε) (ok : (o : Op) → ε → σ → Prop)
  (R : Prog Op Ans ρ → σ → σ → Prop) (G : Op → σ → σ → Prop)

/-- The weakest precondition of a program under interference within `R`.  Each operation
taken under a choice that `ok` admits meets `G`; `Q` holds when the program returns. -/
def wp : Prog Op Ans ρ → (ρ → σ → Prop) → σ → Prop
  | ret r, Q, s => ∀ s₁, R (ret r) s s₁ → Q r s₁
  | op o k, Q, s => ∀ s₁, R (op o k) s s₁ → ∀ e, ok o e s₁ →
      G o s₁ (exec o e s₁).2 ∧ wp (k (exec o e s₁).1) Q (exec o e s₁).2

@[simp] lemma wp_ret (r : ρ) (Q : ρ → σ → Prop) (s : σ) :
    wp exec ok R G (ret r) Q s ↔ ∀ s₁, R (ret r) s s₁ → Q r s₁ := Iff.rfl

variable {exec ok R G}

/-- A weakest precondition is stable under the interference it allows for. -/
lemma wp_stable (htrans : ∀ p s t u, R p s t → R p t u → R p s u) {p : Prog Op Ans ρ}
    {Q : ρ → σ → Prop} {s s' : σ} (h : wp exec ok R G p Q s) (hR : R p s s') :
    wp exec ok R G p Q s' := by
  cases p with
  | ret r => exact fun s₁ h₁ => h s₁ (htrans _ _ _ _ hR h₁)
  | op o k => exact fun s₁ h₁ => h s₁ (htrans _ _ _ _ hR h₁)

/-- Wherever a run of the program alone stops, what is left of the program is in its
weakest precondition. -/
theorem wp_runAlone (hrefl : ∀ p s, R p s s) {p : Prog Op Ans ρ} {Q : ρ → σ → Prop} {s : σ}
    {es : List ε} (h : wp exec ok R G p Q s) (hes : Admits exec ok p es s) :
    wp exec ok R G (runAlone exec p es s).1 Q (runAlone exec p es s).2 := by
  induction p generalizing s es with
  | ret r => exact h
  | op o k ih =>
      cases es with
      | nil => exact h
      | cons e es =>
          obtain ⟨he, hes⟩ := hes
          exact ih _ (h s (hrefl _ s) e he).2 hes

end Wp

section Ghost

variable {γ : Type}

/-- Operations with a ghost value beside the store: `f` updates it from the operation and
the choice it is taken under. -/
def withGhost (exec : Exec Op Ans σ ε) (f : Op → ε → γ → γ) : Exec Op Ans (σ × γ) ε :=
  fun o e s => ((exec o e s.1).1, (exec o e s.1).2, f o e s.2)

/-- A ghost value does not change what a program does. -/
theorem runAlone_withGhost (exec : Exec Op Ans σ ε) (f : Op → ε → γ → γ) (p : Prog Op Ans ρ)
    (es : List ε) (s : σ × γ) :
    (runAlone (withGhost exec f) p es s).2.1 = (runAlone exec p es s.1).2 := by
  induction p generalizing s es with
  | ret r => rfl
  | op o k ih =>
      cases es with
      | nil => rfl
      | cons e es => exact ih _ es _

end Ghost

end Prog

open Prog

/-- A store with a program for each thread, beside the request the program serves. -/
structure Pool (Op : Type) (Ans : Op → Type) (ρ σ τ α : Type) where
  /-- What each thread serves and what it has left to do. -/
  threads : τ → Option (α × Prog Op Ans ρ)
  store : σ

/-- The moves of a pool: thread `t` performs its next operation, thread `t` is given the
request `a`, or the surroundings act on the store. -/
inductive Move (τ ε α χ : Type) where
  | advance (t : τ) (e : ε)
  | start (t : τ) (a : α)
  | outside (x : χ)

namespace Pool

variable {τ α χ : Type} [DecidableEq τ]

/-- Thread `t` serves the request `a` and has not returned. -/
def Running (p : Pool Op Ans ρ σ τ α) (t : τ) (a : α) (q : Prog Op Ans ρ) : Prop :=
  p.threads t = some (a, q) ∧ ¬ q.Returned

variable (exec : Exec Op Ans σ ε) (prog : α → σ → Prog Op Ans ρ) (ext : χ → σ → σ)

/-- One move of a pool.  The program of a request is made from the store it finds. -/
def step (p : Pool Op Ans ρ σ τ α) : Move τ ε α χ → Pool Op Ans ρ σ τ α
  | .advance t e =>
      match p.threads t with
      | some (a, q) =>
          ⟨Function.update p.threads t (some (a, (next exec e (q, p.store)).1)),
            (next exec e (q, p.store)).2⟩
      | none => p
  | .start t a => ⟨Function.update p.threads t (some (a, prog a p.store)), p.store⟩
  | .outside x => ⟨p.threads, ext x p.store⟩

variable {exec prog ext} {ok : α → (o : Op) → ε → σ → Prop} {R : α → Prog Op Ans ρ → σ → σ → Prop}
  {G : α → Op → σ → σ → Prop} {Q : α → ρ → σ → Prop}

/-- Every thread that has not returned is in its weakest precondition. -/
def Valid (exec : Exec Op Ans σ ε) (ok : α → (o : Op) → ε → σ → Prop)
    (R : α → Prog Op Ans ρ → σ → σ → Prop) (G : α → Op → σ → σ → Prop) (Q : α → ρ → σ → Prop) (p : Pool Op Ans ρ σ τ α) : Prop :=
  ∀ t a q, p.Running t a q → wp exec (ok a) (R a) (G a) q (Q a) p.store

/-- The operation a thread performs is one that `ok` admits. -/
def Admitted (ok : α → (o : Op) → ε → σ → Prop) (p : Pool Op Ans ρ σ τ α) (t : τ) (e : ε) :
    Prop :=
  ∀ a o k, p.threads t = some (a, op o k) → ok a o e p.store

/-- What a move does to the store is within the rely relation of every running thread
other than the one that moves. -/
def Respects (exec : Exec Op Ans σ ε) (prog : α → σ → Prog Op Ans ρ) (ext : χ → σ → σ)
    (R : α → Prog Op Ans ρ → σ → σ → Prop) (p : Pool Op Ans ρ σ τ α) (m : Move τ ε α χ) :
    Prop :=
  ∀ t a q, p.Running t a q → (∀ e, m ≠ .advance t e) →
    R a q p.store (step exec prog ext p m).store

/-- In a valid pool the operation a thread performs meets the guarantee. -/
theorem guarantee_of_valid (hrefl : ∀ a p s, R a p s s) {p : Pool Op Ans ρ σ τ α} {t : τ} {e : ε}
    (h : Valid exec ok R G Q p) (hok : Admitted ok p t e) {a : α} {o : Op}
    {k : Ans o → Prog Op Ans ρ} (ht : p.threads t = some (a, op o k)) :
    G a o p.store (step exec prog ext p (.advance t e : Move τ ε α χ)).store := by
  have hw := h t a _ ⟨ht, by simp⟩ p.store (hrefl a _ _) e (hok a o k ht)
  simpa [step, ht, next] using hw.1

/-- A thread that is missing or has returned leaves the store as it is. -/
lemma store_step_advance_of_not_running {p : Pool Op Ans ρ σ τ α} {t : τ} {e : ε}
    (h : ∀ a o k, p.threads t ≠ some (a, op o k)) :
    (step exec prog ext p (.advance t e : Move τ ε α χ)).store = p.store := by
  rcases hp : p.threads t with _ | ⟨a, q⟩
  · simp [step, hp]
  · cases q with
    | ret r => simp [step, hp, next]
    | op o k => exact absurd hp (h a o k)

/-- Validity of all threads is kept by every move that respects them, provided each
program is valid where it is started. -/
theorem valid_step (hrefl : ∀ a p s, R a p s s)
    (htrans : ∀ a p s t u, R a p s t → R a p t u → R a p s u)
    {p : Pool Op Ans ρ σ τ α} {m : Move τ ε α χ} (h : Valid exec ok R G Q p)
    (hok : ∀ t e, m = .advance t e → Admitted ok p t e)
    (hm : Respects exec prog ext R p m)
    (hstart : ∀ t a, m = .start t a →
      wp exec (ok a) (R a) (G a) (prog a p.store) (Q a) p.store) :
    Valid exec ok R G Q (step exec prog ext p m) := by
  have hother : ∀ t a q, p.Running t a q → (∀ e, m ≠ .advance t e) →
      wp exec (ok a) (R a) (G a) q (Q a) (step exec prog ext p m).store :=
    fun t a q ht hne => wp_stable (htrans a) (h t a q ht) (hm t a q ht hne)
  rintro t a q ⟨ht, hq⟩
  cases m with
  | advance t₀ e =>
      by_cases htt : t = t₀
      · subst htt
        rcases hp : p.threads t with _ | ⟨a₀, q₀⟩
        · simp [step, hp] at ht
        · cases q₀ with
          | ret r =>
              simp only [step, hp, next, Function.update_self, Option.some.injEq,
                Prod.mk.injEq] at ht
              exact absurd (by simp [← ht.2]) hq
          | op o k =>
              have hw := h t a₀ _ ⟨hp, by simp⟩ p.store (hrefl a₀ _ _) e (hok t e rfl a₀ o k hp)
              simp only [step, hp, next, Function.update_self, Option.some.injEq,
                Prod.mk.injEq] at ht ⊢
              obtain ⟨rfl, rfl⟩ := ht
              exact hw.2
      · have hth : (step exec prog ext p (.advance t₀ e)).threads t = p.threads t := by
          rcases hp : p.threads t₀ with _ | ⟨a₀, q₀⟩ <;> simp [step, hp, htt]
        exact hother t a q ⟨hth ▸ ht, hq⟩ (fun e' he => htt (by cases he; rfl))
  | start t₀ a₀ =>
      by_cases htt : t = t₀
      · subst htt
        simp only [step, Function.update_self, Option.some.injEq, Prod.mk.injEq] at ht ⊢
        obtain ⟨rfl, rfl⟩ := ht
        exact hstart t a₀ rfl
      · have hth : (step exec prog ext p (.start t₀ a₀)).threads t = p.threads t := by
          simp [step, htt]
        exact hother t a q ⟨hth ▸ ht, hq⟩ (fun e' he => by cases he)
  | outside x => exact hother t a q ⟨ht, hq⟩ (fun e' he => by cases he)

/-- An invariant of the pool, together with the validity of all threads, is kept by every
guarded move, provided the guard admits the operation, respects the running threads and
starts only valid programs. -/
theorem invariant_valid_step (hrefl : ∀ a p s, R a p s s)
    (htrans : ∀ a p s t u, R a p s t → R a p t u → R a p s u)
    {I : Pool Op Ans ρ σ τ α → Prop} {guard : Pool Op Ans ρ σ τ α → Move τ ε α χ → Prop}
    (hI : ∀ p m, guard p m → I p → Valid exec ok R G Q p → I (step exec prog ext p m))
    (hok : ∀ p t e, guard p (.advance t e) → I p → Admitted ok p t e)
    (hm : ∀ p m, guard p m → I p → Valid exec ok R G Q p → Respects exec prog ext R p m)
    (hstart : ∀ p t a, guard p (.start t a) → I p →
      wp exec (ok a) (R a) (G a) (prog a p.store) (Q a) p.store)
    (p : Pool Op Ans ρ σ τ α) (m : Move τ ε α χ) (hg : guard p m)
    (h : I p ∧ Valid exec ok R G Q p) :
    I (step exec prog ext p m) ∧ Valid exec ok R G Q (step exec prog ext p m) := by
  obtain ⟨hIp, hv⟩ := h
  refine ⟨hI p m hg hIp hv, valid_step hrefl htrans hv ?_ (hm p m hg hIp hv) ?_⟩
  · rintro t e rfl
    exact hok p t e hg hIp
  · rintro t a rfl
    exact hstart p t a hg hIp

/-! ### Assertions about the store alone -/

/-- The operation a thread performs next. -/
def nextOp (p : Pool Op Ans ρ σ τ α) (t : τ) : Option Op :=
  match p.threads t with
  | some (_, .op o _) => some o
  | _ => none

/-- The move performs an operation that meets `ok`, or none. -/
def Meets (ok : Op → ε → σ → Prop) (p : Pool Op Ans ρ σ τ α) : Move τ ε α χ → Prop
  | .advance t e => ∀ o ∈ p.nextOp t, ok o e p.store
  | _ => True

instance [∀ o e (s : σ), Decidable (ok' o e s)] (p : Pool Op Ans ρ σ τ α) :
    (m : Move τ ε α χ) → Decidable (Meets ok' p m)
  | .advance t e => inferInstanceAs (Decidable (∀ o ∈ p.nextOp t, ok' o e p.store))
  | .start _ _ => isTrue trivial
  | .outside _ => isTrue trivial

omit [DecidableEq τ] in
lemma nextOp_eq_some {p : Pool Op Ans ρ σ τ α} {t : τ} {o : Op} (h : p.nextOp t = some o) :
    ∃ a k, p.threads t = some (a, .op o k) := by
  rw [nextOp] at h
  split at h
  · rename_i a o' k ht
    rw [Option.some.injEq] at h
    subst h
    exact ⟨a, k, ht⟩
  · cases h

/-- What a move does to the store: one operation, an act of the surroundings, or nothing. -/
theorem store_step_cases (p : Pool Op Ans ρ σ τ α) (m : Move τ ε α χ) :
    (∃ t e o, m = .advance t e ∧ p.nextOp t = some o ∧
        (step exec prog ext p m).store = (exec o e p.store).2) ∨
      (∃ x, m = .outside x ∧ (step exec prog ext p m).store = ext x p.store) ∨
      (step exec prog ext p m).store = p.store := by
  cases m with
  | start t a => exact .inr (.inr rfl)
  | outside x => exact .inr (.inl ⟨x, rfl, rfl⟩)
  | advance t e =>
      cases hnext : p.nextOp t with
      | none =>
          refine .inr (.inr (store_step_advance_of_not_running fun a o k ht => ?_))
          rw [nextOp, ht] at hnext
          cases hnext
      | some o =>
          obtain ⟨a, k, ht⟩ := nextOp_eq_some hnext
          exact .inl ⟨t, e, o, rfl, hnext, by simp [step, ht, next]⟩

/-- What every operation and every act of the surroundings makes of the store, a move makes of
it. -/
theorem store_rel_step {ok : Op → ε → σ → Prop} {I : σ → Prop} {J : σ → σ → Prop}
    (hrefl : ∀ s, J s s) (hop : ∀ o e s, ok o e s → I s → J s (exec o e s).2)
    (hext : ∀ x s, I s → J s (ext x s)) {p : Pool Op Ans ρ σ τ α} {m : Move τ ε α χ}
    (hm : Meets ok p m) (hI : I p.store) : J p.store (step exec prog ext p m).store := by
  rcases (store_step_cases p m : _ ∨ (∃ x, _ ∧ (step exec prog ext p m).store = ext x p.store) ∨ _)
    with ⟨t, e, o, rfl, ho, hstore⟩ | ⟨x, rfl, hstore⟩ | hstore
  · rw [hstore]
    exact hop o e p.store (hm o ho) hI
  · rw [hstore]
    exact hext x p.store hI
  · rw [hstore]
    exact hrefl p.store

end Pool

end Interleave
