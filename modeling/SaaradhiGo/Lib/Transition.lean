/-
Runs of a deterministic step function, and the invariant rules for them.

A system is a function `step : σ → α → σ` from a state and an action to a state; an
action that is refused leaves the state as it is.  A run is the state reached by a
finite list of actions, and a guarded run is one each of whose steps meets a condition
on the state before the step.  The rules below turn a fact about one step into a fact
about a run.
-/
import Mathlib.Data.List.Basic

namespace Transition

variable {σ α : Type*}

/-- The state reached from `s` by the actions `as`, in order. -/
def run (step : σ → α → σ) (s : σ) (as : List α) : σ :=
  as.foldl step s

/-- Every step of the run from `s` along the list meets the condition `ok`, read in the
state before the step. -/
def Guarded (step : σ → α → σ) (ok : σ → α → Prop) : σ → List α → Prop
  | _, [] => True
  | s, a :: as => ok s a ∧ Guarded step ok (step s a) as

instance Guarded.decidable (step : σ → α → σ) (ok : σ → α → Prop)
    [∀ s a, Decidable (ok s a)] : ∀ s as, Decidable (Guarded step ok s as)
  | _, [] => isTrue trivial
  | s, a :: as =>
      @instDecidableAnd _ _ inferInstance (Guarded.decidable step ok (step s a) as)

variable {step : σ → α → σ} {ok : σ → α → Prop}

@[simp] lemma run_nil (s : σ) : run step s [] = s := rfl

@[simp] lemma run_cons (s : σ) (a : α) (as : List α) :
    run step s (a :: as) = run step (step s a) as := rfl

lemma run_append (s : σ) (as bs : List α) :
    run step s (as ++ bs) = run step (run step s as) bs := by
  simp [run]

@[simp] lemma guarded_nil (s : σ) : Guarded step ok s [] := trivial

@[simp] lemma guarded_cons {s : σ} {a : α} {as : List α} :
    Guarded step ok s (a :: as) ↔ ok s a ∧ Guarded step ok (step s a) as := Iff.rfl

lemma guarded_append {s : σ} {as bs : List α} :
    Guarded step ok s (as ++ bs) ↔ Guarded step ok s as ∧ Guarded step ok (run step s as) bs := by
  induction as generalizing s with
  | nil => simp
  | cons a as ih => simp [ih, and_assoc]

lemma Guarded.of_prefix {s : σ} {as bs : List α} (h : Guarded step ok s bs) (hp : as <+: bs) :
    Guarded step ok s as := by
  obtain ⟨cs, rfl⟩ := hp
  exact (guarded_append.mp h).1

/-- A run is guarded when each of its actions meets the condition in the state reached by
the actions before it. -/
theorem guarded_iff_forall_prefix {s : σ} {as : List α} :
    Guarded step ok s as ↔ ∀ bs a, bs ++ [a] <+: as → ok (run step s bs) a := by
  constructor
  · intro h bs a hp
    exact ((guarded_append.mp (h.of_prefix hp)).2).1
  · induction as generalizing s with
    | nil => exact fun _ => trivial
    | cons a as ih =>
        intro h
        refine ⟨h [] a (List.cons_prefix_cons.mpr ⟨rfl, List.nil_prefix⟩), ih fun bs b hp => ?_⟩
        exact h (a :: bs) b (List.cons_prefix_cons.mpr ⟨rfl, hp⟩)

/-- An assertion that every guarded step preserves holds at the end of a guarded run. -/
theorem invariant_of_guarded {I : σ → Prop} (hstep : ∀ s a, ok s a → I s → I (step s a))
    {s : σ} {as : List α} (hs : I s) (h : Guarded step ok s as) : I (run step s as) := by
  induction as generalizing s with
  | nil => exact hs
  | cons a as ih =>
      obtain ⟨ha, hrest⟩ := h
      exact ih (hstep s a ha hs) hrest

/-- A guard that implies another one along an invariant implies it along every run. -/
theorem guarded_of_invariant {I : σ → Prop} {ok' : σ → α → Prop}
    (hstep : ∀ s a, ok s a → I s → I (step s a)) (hok : ∀ s a, ok s a → I s → ok' s a)
    {s : σ} {as : List α} (hs : I s) (h : Guarded step ok s as) : Guarded step ok' s as := by
  induction as generalizing s with
  | nil => trivial
  | cons a as ih =>
      obtain ⟨ha, hrest⟩ := h
      exact ⟨hok s a ha hs, ih (hstep s a ha hs) hrest⟩

/-- Two guards that agree along an invariant agree along every run. -/
theorem guarded_iff_of_invariant {I : σ → Prop} {J K : σ → α → Prop}
    (hstep : ∀ s a, ok s a → I s → I (step s a)) (hJK : ∀ s a, ok s a → I s → (J s a ↔ K s a))
    {s : σ} {as : List α} (hs : I s) (h : Guarded step ok s as) :
    Guarded step J s as ↔ Guarded step K s as := by
  induction as generalizing s with
  | nil => exact Iff.rfl
  | cons a as ih =>
      obtain ⟨ha, hrest⟩ := h
      rw [guarded_cons, guarded_cons, hJK s a ha hs, ih (hstep s a ha hs) hrest]

/-- Two guards that agree under an assertion, which the second one preserves, agree along every
run. -/
theorem guarded_iff_of_preserved {I : σ → Prop} {J K : σ → α → Prop}
    (hstep : ∀ s a, I s → K s a → I (step s a)) (hJK : ∀ s a, I s → (J s a ↔ K s a))
    {s : σ} {as : List α} (hs : I s) : Guarded step J s as ↔ Guarded step K s as := by
  induction as generalizing s with
  | nil => exact Iff.rfl
  | cons a as ih =>
      rw [guarded_cons, guarded_cons, hJK s a hs]
      exact and_congr_right fun hK => ih (hstep s a hs hK)

/-- An assertion that every step preserves holds at the end of every run. -/
theorem invariant {I : σ → Prop} (hstep : ∀ s a, I s → I (step s a))
    {s : σ} (as : List α) (hs : I s) : I (run step s as) := by
  induction as generalizing s with
  | nil => exact hs
  | cons a as ih => exact ih (hstep s a hs)

/-- Two states related along every guarded step are related at the end of a guarded run. -/
theorem relation_of_guarded {R : σ → σ → Prop} (hrefl : ∀ s, R s s)
    (htrans : ∀ {s t u}, R s t → R t u → R s u) (hstep : ∀ s a, ok s a → R s (step s a))
    {s : σ} {as : List α} (h : Guarded step ok s as) : R s (run step s as) := by
  induction as generalizing s with
  | nil => exact hrefl s
  | cons a as ih => exact htrans (hstep s a h.1) (ih h.2)

/-- An assertion that holds after a step exactly when it held before and the step meets the guard
holds at the end of a run exactly when it held at the start and the run is guarded. -/
theorem run_iff_guarded {J : σ → Prop} (hJ : ∀ s a, J (step s a) ↔ J s ∧ ok s a) {s : σ}
    {as : List α} : J (run step s as) ↔ J s ∧ Guarded step ok s as := by
  induction as generalizing s with
  | nil => exact (and_iff_left trivial).symm
  | cons a as ih => rw [run_cons, ih, hJ, guarded_cons, and_assoc]

/-- An assertion that a step keeps exactly when it meets the guard holds all along a run
exactly when the run is guarded. -/
theorem forall_prefix_iff_guarded {I J : σ → Prop} (hI : ∀ s a, I s → I (step s a))
    (hJ : ∀ s a, I s → J s → (J (step s a) ↔ ok s a)) {s : σ} {as : List α} (hs : I s) (h : J s) :
    (∀ bs, bs <+: as → J (run step s bs)) ↔ Guarded step ok s as := by
  constructor
  · induction as generalizing s with
    | nil => exact fun _ => trivial
    | cons a as ih =>
        intro hall
        have hnext : J (step s a) := hall [a] (List.cons_prefix_cons.mpr ⟨rfl, List.nil_prefix⟩)
        refine ⟨(hJ s a hs h).mp hnext, ih (hI s a hs) hnext fun bs hbs => ?_⟩
        exact hall (a :: bs) (List.cons_prefix_cons.mpr ⟨rfl, hbs⟩)
  · intro hguarded bs hbs
    refine (invariant_of_guarded (I := fun s => I s ∧ J s) ?_ ⟨hs, h⟩
      (hguarded.of_prefix hbs)).2
    exact fun s a hok hIJ => ⟨hI s a hIJ.1, (hJ s a hIJ.1 hIJ.2).mpr hok⟩

end Transition
