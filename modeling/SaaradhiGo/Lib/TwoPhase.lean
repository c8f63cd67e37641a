/-
Transactions under row locks, a statement at a time.

A transaction is a tree of statements.  `lock` waits for the lock of a row and reads; `read` reads
without a lock.  Both read what is committed at that moment.  `commit` makes the writes visible in
one piece and gives the locks back; a transaction that aborts, or whose session dies, gives them
back and writes nothing.

What a lock protects is an agreement of the transactions: `keep held s s'` says what the others may
do to the database while the rows `held` are locked.  A transaction is `Sound` for the agreement
when its writes leave alone what others have locked, and when a read that is made again at its
commit would lead to the same writes.  An interleaving of sound transactions does to the database
what those that commit do one after the other, in the order of their commits.

A transaction that reads what others may change is not sound, but it may be `Guarded`: its writes
keep an invariant on whatever the others have made of the database by then.  The invariant then
holds in every interleaving.
-/
import SaaradhiGo.Lib.Transition
import Mathlib.Logic.Function.Basic
import Mathlib.Data.Set.Insert
import Mathlib.Data.Set.Lattice
import Mathlib.Order.CompletePartialOrder

namespace TwoPhase

/-- A transaction, as the statements that are left of it. -/
inductive Txn (κ σ : Type*) where
  | abort : Txn κ σ
  | commit (w : σ → σ) : Txn κ σ
  | lock (k : κ) (next : σ → Txn κ σ) : Txn κ σ
  | read (next : σ → Txn κ σ) : Txn κ σ

variable {κ σ τ α : Type*}

namespace Txn

/-- What the transaction does when nothing comes between its statements. -/
def atomic : Txn κ σ → σ → σ
  | abort, s => s
  | commit w, s => w s
  | lock _ next, s => (next s).atomic s
  | read next, s => (next s).atomic s

/-- The answer to a statement leads to nothing, or leads to what a later answer would lead to. -/
def Stable (keep : σ → σ → Prop) (next : σ → Txn κ σ) (s : σ) : Prop :=
  next s = abort ∨ ∀ s', keep s s' → (next s').atomic s' = (next s).atomic s'

/-- With the rows `held` locked and the database last seen in `s₀`, the transaction reads nothing
that the others may change before its commit, and changes nothing that they have locked. -/
def Sound (keep : Set κ → σ → σ → Prop) : Set κ → σ → Txn κ σ → Prop
  | _, _, abort => True
  | held, s₀, commit w =>
      ∀ s, keep held s₀ s → ∀ other, Disjoint held other → keep other s (w s)
  | held, s₀, lock k next =>
      ∀ s, keep held s₀ s → Stable (keep (insert k held)) next s ∧
        Sound keep (insert k held) s (next s)
  | held, s₀, read next =>
      ∀ s, keep held s₀ s → Stable (keep held) next s ∧ Sound keep held s (next s)

/-- With the rows `held` locked and the database last seen in `s₀`, the writes of the transaction
keep `I`, move the database as `R` allows and change nothing that the others have locked, whatever
the others do to the database before them. -/
def Guarded (keep : Set κ → σ → σ → Prop) (I : σ → Prop) (R : σ → σ → Prop) :
    Set κ → σ → Txn κ σ → Prop
  | _, _, abort => True
  | held, s₀, commit w =>
      ∀ s, keep held s₀ s → I s →
        I (w s) ∧ R s (w s) ∧ ∀ other, Disjoint held other → keep other s (w s)
  | held, s₀, lock k next =>
      ∀ s, keep held s₀ s → I s → Guarded keep I R (insert k held) s (next s)
  | held, s₀, read next =>
      ∀ s, keep held s₀ s → I s → Guarded keep I R held s (next s)

@[simp] lemma atomic_abort (s : σ) : (abort : Txn κ σ).atomic s = s := rfl

@[simp] lemma atomic_commit (w : σ → σ) (s : σ) : (commit w : Txn κ σ).atomic s = w s := rfl

@[simp] lemma atomic_lock (k : κ) (next : σ → Txn κ σ) (s : σ) :
    (lock k next).atomic s = (next s).atomic s := rfl

@[simp] lemma atomic_read (next : σ → Txn κ σ) (s : σ) :
    (read next : Txn κ σ).atomic s = (next s).atomic s := rfl

end Txn

open Txn

/-- A database with its locks, its sessions and the requests that were committed. -/
structure System (κ σ τ α : Type*) where
  db : σ
  /-- The session that has the lock of a row. -/
  holder : κ → Option τ
  /-- The request a session serves, and what is left of its transaction. -/
  session : τ → Option (α × Txn κ σ)
  /-- The requests whose transactions were committed, in that order. -/
  log : List α

/-- What happens next: a request comes to a session, a session goes on, or a session dies. -/
inductive Move (τ α : Type*) where
  | start (t : τ) (a : α)
  | next (t : τ)
  | kill (t : τ)

namespace System

variable [DecidableEq κ] [DecidableEq τ]

/-- The session ends and gives its locks back. -/
def release (p : System κ σ τ α) (t : τ) : System κ σ τ α :=
  { p with
    holder := fun k => if p.holder k = some t then none else p.holder k
    session := Function.update p.session t none }

def Free (p : System κ σ τ α) (t : τ) (k : κ) : Prop := ∀ t' ∈ p.holder k, t' = t

instance (p : System κ σ τ α) (t : τ) (k : κ) : Decidable (p.Free t k) :=
  inferInstanceAs (Decidable (∀ t' ∈ p.holder k, t' = t))

/-- One move.  A session that has to wait for a lock stays where it is. -/
def step (prog : α → Txn κ σ) (p : System κ σ τ α) : Move τ α → System κ σ τ α
  | .start t a =>
      match p.session t with
      | none => { p with session := Function.update p.session t (some (a, prog a)) }
      | some _ => p
  | .kill t => p.release t
  | .next t =>
      match p.session t with
      | none => p
      | some (_, .abort) => p.release t
      | some (a, .commit w) => { p.release t with db := w p.db, log := p.log ++ [a] }
      | some (a, .lock k next) =>
          if p.Free t k then
            { p with
              holder := Function.update p.holder k (some t)
              session := Function.update p.session t (some (a, next p.db)) }
          else p
      | some (a, .read next) =>
          { p with session := Function.update p.session t (some (a, next p.db)) }

def held (p : System κ σ τ α) (t : τ) : Set κ := {k | p.holder k = some t}

def opening (s : σ) : System κ σ τ α := ⟨s, fun _ => none, fun _ => none, []⟩

end System

/-! ## Agreements -/

/-- What the others may do adds up, and is less with more rows locked. -/
structure Agreement (keep : Set κ → σ → σ → Prop) : Prop where
  refl : ∀ held s, keep held s s
  trans : ∀ held s t u, keep held s t → keep held t u → keep held s u
  anti : ∀ held held' s t, held ⊆ held' → keep held' s t → keep held s t

section Sessions

variable {keep : Set κ → σ → σ → Prop} {prog : α → Txn κ σ} {held held' : Set κ} {s s' : σ}
  {a : α} {q : Txn κ σ} {next : σ → Txn κ σ}

/-- What is known of a running session: what is left of it is sound, and does what the whole
transaction would do, now and later. -/
structure Known (keep : Set κ → σ → σ → Prop) (prog : α → Txn κ σ) (held : Set κ) (s : σ)
    (a : α) (q : Txn κ σ) : Prop where
  sound : Sound keep held s q
  same : q = .abort ∨ ∀ u, keep held s u → (prog a).atomic u = q.atomic u

lemma Txn.Sound.later (hk : Agreement keep) (h : Sound keep held s q) (hs : keep held s s') :
    Sound keep held s' q := by
  cases q with
  | abort => trivial
  | commit w => exact fun u hu => h u (hk.trans _ _ _ _ hs hu)
  | lock k next => exact fun u hu => h u (hk.trans _ _ _ _ hs hu)
  | read next => exact fun u hu => h u (hk.trans _ _ _ _ hs hu)

lemma Txn.Guarded.later {I : σ → Prop} {R : σ → σ → Prop} (hk : Agreement keep)
    (h : Guarded keep I R held s q) (hs : keep held s s') : Guarded keep I R held s' q := by
  cases q with
  | abort => trivial
  | commit w => exact fun u hu => h u (hk.trans _ _ _ _ hs hu)
  | lock k next => exact fun u hu => h u (hk.trans _ _ _ _ hs hu)
  | read next => exact fun u hu => h u (hk.trans _ _ _ _ hs hu)

lemma Known.later (hk : Agreement keep) (h : Known keep prog held s a q) (hs : keep held s s') :
    Known keep prog held s' a q :=
  ⟨h.sound.later hk hs, h.same.imp_right fun hsame u hu => hsame u (hk.trans _ _ _ _ hs hu)⟩

lemma Known.answered (hk : Agreement keep) (hsub : held ⊆ held')
    (hstable : Stable (keep held') next s) (hsound : Sound keep held' s (next s))
    (hsame : ∀ u, keep held s u → (prog a).atomic u = (next u).atomic u) :
    Known keep prog held' s a (next s) := by
  refine ⟨hsound, ?_⟩
  obtain habort | hstable := hstable
  · exact .inl habort
  · right
    intro u hu
    rw [hsame u (hk.anti _ _ _ _ hsub hu), hstable u hu]

end Sessions

namespace System

variable [DecidableEq τ] {keep : Set κ → σ → σ → Prop} {prog : α → Txn κ σ}
  {p : System κ σ τ α} {m : Move τ α} {t t' : τ} {a : α} {q : Txn κ σ}

omit [DecidableEq τ] in
lemma disjoint_held (h : t ≠ t') : Disjoint (p.held t) (p.held t') := by
  rw [Set.disjoint_left]
  intro k hk hk'
  exact h (Option.some.inj (hk.symm.trans hk'))

lemma held_release_of_ne (h : t' ≠ t) : (p.release t).held t' = p.held t' := by
  ext k
  by_cases hk : p.holder k = some t
  · have hne : some t ≠ some t' := fun he => h (Option.some.inj he).symm
    simp [held, release, hk, hne]
  · simp [held, release, hk]

lemma session_release_of_ne (h : t' ≠ t) : (p.release t).session t' = p.session t' :=
  Function.update_of_ne h _ _

/-- Every lock belongs to a session, and `K` is known of every session: of the rows it has locked,
the database, its request and what is left of its transaction. -/
structure Valid (K : Set κ → σ → α → Txn κ σ → Prop) (p : System κ σ τ α) : Prop where
  owned : ∀ k t, p.holder k = some t → p.session t ≠ none
  known : ∀ t a q, p.session t = some (a, q) → K (p.held t) p.db a q

section Valid

variable {K : Set κ → σ → α → Txn κ σ → Prop}

omit [DecidableEq τ] in
/-- Before the first request. -/
lemma valid_opening (s : σ) : (opening s : System κ σ τ α).Valid K := by
  constructor
  · intro k t h
    cases h
  · intro t a q h
    cases h

omit [DecidableEq τ] in
lemma held_eq_empty (h : p.Valid K) (ht : p.session t = none) : p.held t = ∅ :=
  Set.eq_empty_of_forall_notMem fun k hk => h.owned k t hk ht

lemma valid_release (hlater : ∀ held s s' a q, K held s a q → keep held s s' → K held s' a q)
    (h : p.Valid K) {s : σ} (hs : ∀ t', t' ≠ t → keep (p.held t') p.db s) {log : List α} :
    Valid K { p.release t with db := s, log := log } := by
  constructor
  · intro k t' hholder hnone
    have hkt : p.holder k ≠ some t := fun he => by simp [release, he] at hholder
    have hholder' : p.holder k = some t' := by simpa [release, hkt] using hholder
    have hne : t' ≠ t := fun he => hkt (he ▸ hholder')
    exact h.owned k t' hholder' ((session_release_of_ne hne).symm.trans hnone)
  · intro t' a q hsession
    have hne : t' ≠ t := by
      rintro rfl
      simp [release] at hsession
    have hknown := h.known t' a q ((session_release_of_ne hne).symm.trans hsession)
    have hheld : ({ p.release t with db := s, log := log } : System κ σ τ α).held t' = p.held t' :=
      held_release_of_ne hne
    rw [hheld]
    exact hlater _ _ _ _ _ hknown (hs t' hne)

lemma valid_moved (h : p.Valid K) {p' : System κ σ τ α} (hdb : p'.db = p.db)
    (hsession : p'.session = Function.update p.session t (some (a, q)))
    (hheld : ∀ t', t' ≠ t → p'.held t' = p.held t') (hknown : K (p'.held t) p.db a q) :
    p'.Valid K := by
  constructor
  · intro k t' hholder
    rw [hsession]
    by_cases htt : t' = t
    · rw [htt, Function.update_self]
      exact Option.some_ne_none _
    · rw [Function.update_of_ne htt]
      have hmem : k ∈ p.held t' := hheld t' htt ▸ hholder
      exact h.owned k t' hmem
  · intro t' a' q' ht'
    rw [hsession] at ht'
    rw [hdb]
    by_cases htt : t' = t
    · rw [htt, Function.update_self] at ht'
      obtain ⟨rfl, rfl⟩ := Prod.mk.inj (Option.some.inj ht')
      rw [htt]
      exact hknown
    · rw [Function.update_of_ne htt] at ht'
      rw [hheld t' htt]
      exact h.known t' a' q' ht'

end Valid

variable [DecidableEq κ]

omit [DecidableEq τ] in
lemma held_lock_self {k : κ} {ses : τ → Option (α × Txn κ σ)} :
    ({ p with holder := Function.update p.holder k (some t), session := ses } :
      System κ σ τ α).held t = insert k (p.held t) := by
  ext k'
  by_cases hkk : k' = k
  · simp [held, hkk]
  · simp [held, hkk]

omit [DecidableEq τ] in
lemma held_lock_of_ne {k : κ} {ses : τ → Option (α × Txn κ σ)} (hfree : p.Free t k)
    (hne : t' ≠ t) :
    ({ p with holder := Function.update p.holder k (some t), session := ses } :
      System κ σ τ α).held t' = p.held t' := by
  ext k'
  by_cases hkk : k' = k
  · have hother : p.holder k ≠ some t' := fun he => hne (hfree t' he)
    simp [held, hkk, hother, Ne.symm hne]
  · simp [held, hkk]

/-- Step lemma: what is known of the sessions stays known, if it outlasts what the others do and
each answer to a statement keeps it. -/
theorem valid_move {K : Set κ → σ → α → Txn κ σ → Prop} (hrefl : ∀ held s, keep held s s)
    (hlater : ∀ held s s' a q, K held s a q → keep held s s' → K held s' a q)
    (hstart : ∀ a, K ∅ p.db a (prog a))
    (hcommit : ∀ held a w, K held p.db a (.commit w) →
      ∀ other, Disjoint held other → keep other p.db (w p.db))
    (hlock : ∀ held a k next, K held p.db a (.lock k next) →
      K (insert k held) p.db a (next p.db))
    (hread : ∀ held a next, K held p.db a (.read next) → K held p.db a (next p.db))
    (h : p.Valid K) (m : Move τ α) : (step prog p m).Valid K := by
  have hend : ∀ t, (p.release t).Valid K := fun t =>
    valid_release hlater h (fun t' _ => hrefl _ _)
  cases m with
  | start t a =>
      rcases ht : p.session t with _ | ⟨a', q⟩
      · simp only [step, ht]
        refine valid_moved h rfl rfl (fun t' _ => rfl) ?_
        have hheld : p.held t = ∅ := held_eq_empty h ht
        have hfirst := hstart a
        rw [← hheld] at hfirst
        exact hfirst
      · simpa only [step, ht] using h
  | kill t => exact hend t
  | next t =>
      rcases ht : p.session t with _ | ⟨a, q⟩
      · simpa only [step, ht] using h
      · have hknown := h.known t a q ht
        cases q with
        | abort =>
            simp only [step, ht]
            exact hend t
        | commit w =>
            simp only [step, ht]
            refine valid_release hlater h fun t' hne => ?_
            exact hcommit _ _ _ hknown (p.held t') (disjoint_held hne.symm)
        | lock k next =>
            by_cases hfree : p.Free t k
            · simp only [step, ht, hfree, if_true]
              refine valid_moved h rfl rfl (fun t' hne => held_lock_of_ne hfree hne) ?_
              rw [held_lock_self]
              exact hlock _ _ _ _ hknown
            · simpa only [step, ht, hfree, if_false] using h
        | read next =>
            simp only [step, ht]
            exact valid_moved h rfl rfl (fun t' _ => rfl) (hread _ _ _ hknown)

/-- A move changes nothing in the database, or commits the writes of one session. -/
lemma db_step (prog : α → Txn κ σ) (p : System κ σ τ α) (m : Move τ α) :
    ((step prog p m).db = p.db ∧ (step prog p m).log = p.log) ∨
      ∃ t a w, m = .next t ∧ p.session t = some (a, .commit w) ∧
        (step prog p m).db = w p.db ∧ (step prog p m).log = p.log ++ [a] := by
  cases m with
  | start t a =>
      left
      rcases ht : p.session t with _ | ⟨a', q⟩
      · simp only [step, ht, and_self]
      · simp only [step, ht, and_self]
  | kill t => exact .inl ⟨rfl, rfl⟩
  | next t =>
      rcases ht : p.session t with _ | ⟨a, q⟩
      · simp only [step, ht, and_self, true_or]
      · cases q with
        | abort =>
            left
            simp only [step, ht]
            exact ⟨rfl, rfl⟩
        | commit w =>
            right
            exact ⟨t, a, w, rfl, ht, by simp only [step, ht], by simp only [step, ht]⟩
        | lock k next =>
            left
            by_cases hfree : p.Free t k
            · simp only [step, ht, hfree, if_true, and_self]
            · simp only [step, ht, hfree, if_false, and_self]
        | read next =>
            left
            simp only [step, ht, and_self]

/-! ## Sound transactions -/

/-- Step lemma: the sessions stay known. -/
theorem valid_step (hk : Agreement keep) (hsound : ∀ a s, Sound keep ∅ s (prog a))
    (h : p.Valid (Known keep prog)) (m : Move τ α) : (step prog p m).Valid (Known keep prog) := by
  refine valid_move hk.refl (fun _ _ _ _ _ hknown => hknown.later hk) ?_ ?_ ?_ ?_ h m
  · intro a
    exact ⟨hsound a p.db, .inr fun u _ => rfl⟩
  · intro held a w hknown
    exact hknown.sound p.db (hk.refl _ _)
  · intro held a k next hknown
    obtain ⟨hstable, hsound'⟩ := hknown.sound p.db (hk.refl _ _)
    have hsame := hknown.same.resolve_left (fun he => by cases he)
    exact Known.answered hk (Set.subset_insert _ _) hstable hsound' hsame
  · intro held a next hknown
    obtain ⟨hstable, hsound'⟩ := hknown.sound p.db (hk.refl _ _)
    have hsame := hknown.same.resolve_left (fun he => by cases he)
    exact Known.answered hk subset_rfl hstable hsound' hsame

omit [DecidableEq τ] [DecidableEq κ] in
/-- The writes of a session are those of its whole transaction. -/
lemma commit_eq (hk : Agreement keep) (h : p.Valid (Known keep prog)) {w : σ → σ}
    (ht : p.session t = some (a, .commit w)) : w p.db = (prog a).atomic p.db := by
  have hsame := (h.known t a _ ht).same.resolve_left (fun he => by cases he)
  exact (hsame p.db (hk.refl _ _)).symm

/-- A move changes nothing in the database, or commits one transaction as if nothing had come
between its statements. -/
theorem step_cases (hk : Agreement keep) (h : p.Valid (Known keep prog)) (m : Move τ α) :
    ((step prog p m).db = p.db ∧ (step prog p m).log = p.log) ∨
      ∃ t a w, m = .next t ∧ p.session t = some (a, .commit w) ∧
        (step prog p m).db = (prog a).atomic p.db ∧ (step prog p m).log = p.log ++ [a] := by
  obtain hidle | ⟨t, a, w, hm, ht, hdb, hlog⟩ := db_step prog p m
  · exact .inl hidle
  · exact .inr ⟨t, a, w, hm, ht, hdb.trans (commit_eq hk h ht), hlog⟩

def replay (prog : α → Txn κ σ) (s : σ) (as : List α) : σ :=
  Transition.run (fun s a => (prog a).atomic s) s as

/-- In every interleaving of sound transactions every session is known. -/
theorem valid_run (hk : Agreement keep) (hsound : ∀ a s, Sound keep ∅ s (prog a)) (s : σ)
    (ms : List (Move τ α)) :
    (Transition.run (step prog) (opening s) ms).Valid (Known keep prog) :=
  Transition.invariant (I := Valid (Known keep prog)) (fun _ m hp => valid_step hk hsound hp m) ms
    (valid_opening s)

/-- In every interleaving of sound transactions the database is what those that committed make of
it, one after the other, in the order of their commits. -/
theorem db_run (hk : Agreement keep) (hsound : ∀ a s, Sound keep ∅ s (prog a)) (s : σ)
    (ms : List (Move τ α)) :
    (Transition.run (step prog) (opening s) ms).db =
      replay prog s (Transition.run (step prog) (opening s) ms).log := by
  have hinv : ∀ (p : System κ σ τ α) m,
      (p.Valid (Known keep prog) ∧ p.db = replay prog s p.log) →
        (step prog p m).Valid (Known keep prog) ∧
          (step prog p m).db = replay prog s (step prog p m).log := by
    rintro p m ⟨hv, hdb⟩
    refine ⟨valid_step hk hsound hv m, ?_⟩
    obtain ⟨hdb', hlog⟩ | ⟨t, a, w, -, -, hdb', hlog⟩ := step_cases hk hv m
    · rw [hdb', hlog, hdb]
    · rw [hdb', hlog, replay, Transition.run_append, Transition.run_cons, Transition.run_nil, hdb]
      rfl
  exact (Transition.invariant hinv ms ⟨valid_opening s, rfl⟩).2

/-- Two moments of an interleaving are related as the transactions alone relate the database
before them to the database after them. -/
theorem relation_run (hk : Agreement keep) (hsound : ∀ a s, Sound keep ∅ s (prog a))
    {R : σ → σ → Prop} (hrefl : ∀ s, R s s) (htrans : ∀ s t u, R s t → R t u → R s u)
    (hR : ∀ a s, R s ((prog a).atomic s)) (s : σ) (ms ms' : List (Move τ α)) :
    R (Transition.run (step prog) (opening s) ms).db
      (Transition.run (step prog) (opening s) (ms ++ ms')).db := by
  rw [Transition.run_append]
  have hvalid := valid_run (τ := τ) hk hsound s ms
  generalize Transition.run (step prog) (opening s) ms = p at hvalid
  have hstep : ∀ (p' : System κ σ τ α) m, p'.Valid (Known keep prog) ∧ R p.db p'.db →
      (step prog p' m).Valid (Known keep prog) ∧ R p.db (step prog p' m).db := by
    rintro p' m ⟨hv, hp'⟩
    refine ⟨valid_step hk hsound hv m, ?_⟩
    obtain ⟨hdb, -⟩ | ⟨t, a, w, -, -, hdb, -⟩ := step_cases hk hv m
    · rw [hdb]
      exact hp'
    · rw [hdb]
      exact htrans _ _ _ hp' (hR a p'.db)
  exact (Transition.invariant hstep ms' ⟨hvalid, hrefl _⟩).2

/-- What every transaction keeps when it runs alone holds in every interleaving. -/
theorem invariant_run (hk : Agreement keep) (hsound : ∀ a s, Sound keep ∅ s (prog a))
    {I : σ → Prop} (hI : ∀ a s, I s → I ((prog a).atomic s)) {s : σ} (hs : I s)
    (ms : List (Move τ α)) : I (Transition.run (step prog) (opening s) ms).db := by
  rw [db_run hk hsound]
  exact Transition.invariant (fun s a => hI a s) _ hs

/-! ## Guarded transactions

A transaction need not act as if nothing came between its statements to keep an invariant: it is
enough that its writes do, on whatever the others may have made of the database by then. -/

section Guarded

variable {I : σ → Prop} {R : σ → σ → Prop} {s : σ}

/-- The sessions are guarded, and the invariant holds. -/
structure Kept (keep : Set κ → σ → σ → Prop) (I : σ → Prop) (R : σ → σ → Prop)
    (p : System κ σ τ α) : Prop where
  valid : p.Valid fun held s _ q => Guarded keep I R held s q
  inv : I p.db

/-- Step lemma: the invariant is kept, and the database moves as `R` allows. -/
theorem kept_step (hk : Agreement keep) (hguarded : ∀ a s, Guarded keep I R ∅ s (prog a))
    (hrefl : ∀ s, R s s) (h : p.Kept keep I R) (m : Move τ α) :
    (step prog p m).Kept keep I R ∧ R p.db (step prog p m).db := by
  have hvalid : (step prog p m).Valid fun held s _ q => Guarded keep I R held s q := by
    refine valid_move hk.refl (fun _ _ _ _ _ hq hs => hq.later hk hs) (fun a => hguarded a _)
      ?_ ?_ ?_ h.valid m
    · intro held a w hq other hdisj
      exact (hq p.db (hk.refl _ _) h.inv).2.2 other hdisj
    · exact fun held a k next hq => hq p.db (hk.refl _ _) h.inv
    · exact fun held a next hq => hq p.db (hk.refl _ _) h.inv
  obtain ⟨hdb, -⟩ | ⟨t, a, w, -, ht, hdb, -⟩ := db_step prog p m
  · rw [hdb]
    exact ⟨⟨hvalid, hdb ▸ h.inv⟩, hrefl _⟩
  · obtain ⟨hinv, hR, -⟩ := h.valid.known t a _ ht p.db (hk.refl _ _) h.inv
    rw [hdb]
    exact ⟨⟨hvalid, hdb ▸ hinv⟩, hR⟩

/-- Run lemma: in every interleaving of guarded transactions the invariant holds. -/
theorem kept_run (hk : Agreement keep) (hguarded : ∀ a s, Guarded keep I R ∅ s (prog a))
    (hrefl : ∀ s, R s s) (hs : I s) (ms : List (Move τ α)) :
    (Transition.run (step prog) (opening s) ms).Kept keep I R :=
  Transition.invariant (I := Kept keep I R)
    (fun _ m hp => (kept_step hk hguarded hrefl hp m).1) ms ⟨valid_opening s, hs⟩

/-- Two moments of an interleaving of guarded transactions are related as its writes relate the
database before them to the database after them. -/
theorem guarded_run (hk : Agreement keep) (hguarded : ∀ a s, Guarded keep I R ∅ s (prog a))
    (hrefl : ∀ s, R s s) (htrans : ∀ s t u, R s t → R t u → R s u) (hs : I s)
    (ms ms' : List (Move τ α)) :
    R (Transition.run (step prog) (opening s) ms).db
      (Transition.run (step prog) (opening s) (ms ++ ms')).db := by
  rw [Transition.run_append]
  have hkept := kept_run (τ := τ) hk hguarded hrefl hs ms
  generalize Transition.run (step prog) (opening s) ms = p at hkept
  have hstep : ∀ (p' : System κ σ τ α) m, p'.Kept keep I R ∧ R p.db p'.db →
      (step prog p' m).Kept keep I R ∧ R p.db (step prog p' m).db := by
    rintro p' m ⟨hp', hR⟩
    obtain ⟨hkept', hR'⟩ := kept_step hk hguarded hrefl hp' m
    exact ⟨hkept', htrans _ _ _ hR hR'⟩
  exact (Transition.invariant hstep ms' ⟨hkept, hrefl _⟩).2

end Guarded

end System

end TwoPhase
