/-
Relations without cycles, and edges that are added to them.

A relation stays without cycles when it gains edges out of one point only, to points from which
the old relation does not lead back.
-/
import Mathlib.Logic.Relation
import Mathlib.Tactic.Common

open Relation

def Acyclic {α : Type*} (r : α → α → Prop) : Prop := ∀ a, ¬ TransGen r a a

namespace Acyclic

variable {α : Type*} {r r' : α → α → Prop} {x : α}

/-- Fewer edges have no cycle either. -/
lemma mono (h : Acyclic r) (hsub : ∀ a b, r' a b → r a b) : Acyclic r' :=
  fun a ha => h a (TransGen.mono hsub _ _ ha)

/-- From a point that does not lead to `x`, the old edges are all there is. -/
lemma reflTransGen_of_new {p y : α} (hnew : ∀ a b, r' a b → a ≠ x → r a b)
    (hp : ¬ ReflTransGen r p x) (h : ReflTransGen r' p y) : ReflTransGen r p y := by
  induction h with
  | refl => exact .refl
  | tail _ hstep ih =>
      refine ih.tail (hnew _ _ hstep ?_)
      rintro rfl
      exact hp ih

/-- A path that is new goes through `x`. -/
lemma transGen_or_through {a b : α} (hnew : ∀ a b, r' a b → a ≠ x → r a b)
    (h : TransGen r' a b) :
    TransGen r a b ∨ ∃ p, ReflTransGen r' a x ∧ r' x p ∧ ReflTransGen r' p b := by
  induction h with
  | single hstep =>
      rename_i c
      by_cases hax : a = x
      · subst hax
        exact .inr ⟨c, .refl, hstep, .refl⟩
      · exact .inl (.single (hnew _ _ hstep hax))
  | tail hpath hstep ih =>
      rename_i c d
      rcases ih with hold | ⟨p, hax, hxp, hpc⟩
      · by_cases hcx : c = x
        · subst hcx
          exact .inr ⟨d, hpath.to_reflTransGen, hstep, .refl⟩
        · exact .inl (hold.tail (hnew _ _ hstep hcx))
      · exact .inr ⟨p, hax, hxp, hpc.tail hstep⟩

/-- The relation stays without cycles when what is new leads out of `x` to points from which the
old one does not lead to `x`. -/
theorem of_new (h : Acyclic r) (hnew : ∀ a b, r' a b → a ≠ x → r a b)
    (hx : ∀ p, r' x p → ¬ ReflTransGen r p x) : Acyclic r' := by
  intro a ha
  rcases transGen_or_through hnew ha with hold | ⟨p, hax, hxp, hpa⟩
  · exact h a hold
  · -- from `p` back to `x` there are only old edges
    exact hx p hxp (reflTransGen_of_new hnew (hx p hxp) (hpa.trans hax))

end Acyclic
