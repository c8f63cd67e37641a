/-
A source of truth, a copy of it kept elsewhere, and the writers between them.

Every key has a value in the source and an entry in the copy.  A commit changes the source and
leaves a write of the new value outstanding; a look reads the source and leaves a check of what it
read outstanding, which compares the copy with it and turns into a write when they differ.  An
outstanding writer takes its next step at any time, in any order.

A key is settled when its entry is its value, or a writer that will make it so is outstanding.  A
run keeps a key settled exactly when each write that takes effect is timely: it carries the value
of the source, or another writer that does is outstanding.
-/
import SaaradhiGo.Lib.Transition
import Mathlib.Logic.Function.Basic

namespace Mirror

variable {κ ν : Type*}

/-- A step that is outstanding. -/
inductive Writer (κ ν : Type*) where
  | write (k : κ) (v : ν)
  /-- Compare the copy with the value, and write it when they differ. -/
  | check (k : κ) (v : ν)
deriving DecidableEq

def Writer.key : Writer κ ν → κ
  | write k _ => k
  | check k _ => k

def Writer.value : Writer κ ν → ν
  | write _ v => v
  | check _ v => v

/-- The source, the copy and what is outstanding. -/
structure State (κ ν : Type*) where
  truth : κ → ν
  copy : κ → ν
  pending : List (Writer κ ν)

/-- What happens next. -/
inductive Move (κ ν : Type*) where
  | commit (k : κ) (v : ν)
  | look (k : κ)
  /-- The outstanding writer at the position takes its next step. -/
  | advance (n : ℕ)

variable [DecidableEq κ] [DecidableEq ν]

/-- The next step of the outstanding writer at a position. -/
def State.advance (s : State κ ν) (n : ℕ) : State κ ν :=
  match s.pending[n]? with
  | none => s
  | some (.write k v) =>
      { s with copy := Function.update s.copy k v, pending := s.pending.eraseIdx n }
  | some (.check k v) =>
      if s.copy k = v then { s with pending := s.pending.eraseIdx n }
      else { s with pending := s.pending.set n (.write k v) }

def step (s : State κ ν) : Move κ ν → State κ ν
  | .commit k v =>
      { s with truth := Function.update s.truth k v, pending := s.pending ++ [.write k v] }
  | .look k => { s with pending := s.pending ++ [.check k (s.truth k)] }
  | .advance n => s.advance n

def Repairs (s : State κ ν) (k : κ) (ws : List (Writer κ ν)) : Prop :=
  ∃ w ∈ ws, w.key = k ∧ w.value = s.truth k

/-- The entry is the value, or a writer that will make it so is outstanding. -/
def Settled (k : κ) (s : State κ ν) : Prop :=
  s.copy k = s.truth k ∨ Repairs s k s.pending

/-- A write of the key that takes effect carries the value of the source, or another writer that
does is outstanding. -/
def Timely (k : κ) (s : State κ ν) : Move κ ν → Prop
  | .commit _ _ => True
  | .look _ => True
  | .advance n =>
      ∀ v, s.pending[n]? = some (.write k v) →
        v = s.truth k ∨ Repairs s k (s.pending.eraseIdx n)

def Idle (k : κ) (s : State κ ν) : Prop := ∀ w ∈ s.pending, w.key ≠ k

variable {s : State κ ν} {k : κ} {m : Move κ ν}

omit [DecidableEq κ] [DecidableEq ν] in
lemma Repairs.mono {ws ws' : List (Writer κ ν)} (h : Repairs s k ws)
    (hsub : ∀ w ∈ ws, w.key = k → w.value = s.truth k → w ∈ ws') : Repairs s k ws' := by
  obtain ⟨w, hw, hkey, hvalue⟩ := h
  exact ⟨w, hsub w hw hkey hvalue, hkey, hvalue⟩

omit [DecidableEq κ] [DecidableEq ν] in
lemma split_at {l : List (Writer κ ν)} {n : ℕ} {w : Writer κ ν} (h : l[n]? = some w) :
    ∃ a b, l = a ++ w :: b ∧ l.eraseIdx n = a ++ b ∧ ∀ w', l.set n w' = a ++ w' :: b := by
  obtain ⟨hn, hw⟩ := List.getElem?_eq_some_iff.mp h
  refine ⟨l.take n, l.drop (n + 1), ?_, List.eraseIdx_eq_take_drop_succ l n, fun w' => ?_⟩
  · rw [← hw, List.getElem_cons_drop, List.take_append_drop]
  · rw [List.set_eq_take_append_cons_drop, if_pos hn]

omit [DecidableEq κ] [DecidableEq ν] in
lemma Repairs.of_append {a b : List (Writer κ ν)} {w : Writer κ ν}
    (h : Repairs s k (a ++ w :: b)) (hw : ¬ (w.key = k ∧ w.value = s.truth k)) :
    Repairs s k (a ++ b) := by
  refine h.mono fun w' hw' hkey hvalue => ?_
  rcases List.mem_append.mp hw' with hmem | hmem
  · exact List.mem_append_left b hmem
  · rcases List.mem_cons.mp hmem with rfl | hmem
    · exact absurd ⟨hkey, hvalue⟩ hw
    · exact List.mem_append_right a hmem

omit [DecidableEq κ] [DecidableEq ν] in
lemma Repairs.replace {a b : List (Writer κ ν)} {w w' : Writer κ ν}
    (h : Repairs s k (a ++ w :: b)) (hkey : w'.key = w.key) (hvalue : w'.value = w.value) :
    Repairs s k (a ++ w' :: b) := by
  obtain ⟨x, hx, hxkey, hxvalue⟩ := h
  rcases List.mem_append.mp hx with hmem | hmem
  · exact ⟨x, List.mem_append_left _ hmem, hxkey, hxvalue⟩
  · rcases List.mem_cons.mp hmem with rfl | hmem
    · exact ⟨w', List.mem_append_right a (List.mem_cons_self ..), hkey.trans hxkey,
        hvalue.trans hxvalue⟩
    · exact ⟨x, List.mem_append_right a (List.mem_cons_of_mem w' hmem), hxkey, hxvalue⟩

lemma settled_advance_iff (h : Settled k s) (n : ℕ) :
    Settled k (s.advance n) ↔ Timely k s (.advance n) := by
  cases hget : s.pending[n]? with
  | none =>
      rw [State.advance, hget]
      refine ⟨fun _ v hv => ?_, fun _ => h⟩
      rw [hget] at hv
      cases hv
  | some w =>
      obtain ⟨a, b, hsplit, herase, hset⟩ := split_at hget
      cases w with
      | write k' v =>
          rw [State.advance, hget, Timely, herase]
          show Function.update s.copy k' v k = s.truth k ∨ Repairs s k (a ++ b) ↔ _
          by_cases hkk : k = k'
          · subst hkk
            rw [Function.update_self]
            constructor
            · intro hor v' hv'
              rw [hget] at hv'
              cases hv'
              exact hor
            · exact fun hall => hall v hget
          · rw [Function.update_of_ne hkk]
            constructor
            · intro _ v' hv'
              rw [hget] at hv'
              cases hv'
              exact absurd rfl hkk
            · intro _
              refine h.imp_right fun hrep => ?_
              rw [hsplit] at hrep
              exact hrep.of_append fun hw => hkk hw.1.symm
      | check k' v =>
          have htimely : Timely k s (.advance n) := by
            intro v' hv'
            rw [hget] at hv'
            cases hv'
          refine iff_of_true ?_ htimely
          rw [State.advance, hget]
          dsimp only
          split
          · rename_i hsame
            show s.copy k = s.truth k ∨ Repairs s k (s.pending.eraseIdx n)
            rw [herase]
            rcases h with heq | hrep
            · exact .inl heq
            · by_cases hw : k' = k ∧ v = s.truth k
              · obtain ⟨rfl, hv⟩ := hw
                exact .inl (hsame.trans hv)
              · rw [hsplit] at hrep
                exact .inr (hrep.of_append hw)
          · show s.copy k = s.truth k ∨ Repairs s k (s.pending.set n (.write k' v))
            rw [hset]
            refine h.imp_right fun hrep => ?_
            rw [hsplit] at hrep
            exact hrep.replace rfl rfl

/-- A step keeps a settled key settled exactly when it is timely. -/
theorem settled_step_iff (h : Settled k s) : Settled k (step s m) ↔ Timely k s m := by
  cases m with
  | commit k' v =>
      refine iff_of_true ?_ trivial
      show s.copy k = Function.update s.truth k' v k ∨
        ∃ w ∈ s.pending ++ [.write k' v], w.key = k ∧ w.value = Function.update s.truth k' v k
      by_cases hkk : k = k'
      · subst hkk
        refine .inr ⟨.write k v, List.mem_append_right _ (List.mem_singleton_self _), rfl, ?_⟩
        rw [Function.update_self]
        rfl
      · rw [Function.update_of_ne hkk]
        refine h.imp_right ?_
        rintro ⟨w, hw, hkey, hvalue⟩
        exact ⟨w, List.mem_append_left _ hw, hkey, hvalue⟩
  | look k' =>
      refine iff_of_true ?_ trivial
      refine h.imp_right ?_
      rintro ⟨w, hw, hkey, hvalue⟩
      exact ⟨w, List.mem_append_left _ hw, hkey, hvalue⟩
  | advance n => exact settled_advance_iff h n

end Mirror
