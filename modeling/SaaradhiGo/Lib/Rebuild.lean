/-
Rows that are read first and replaced later.

A run answers its queries one after the other, each from the data as they are at that moment, and
makes rows of the answers.  It then deletes the rows it sees and puts its own in their place, in
one transaction: what others have put there since the delete stays, and when a key would be there
twice the transaction fails.  Runs overlap, and the data change at any moment.  In a run of steps
in which no run replaces what a later one has written or what it has not deleted, the rows that
remain are made from data no older than the start of the run that started last (`fresh_of_guarded`).
-/
import SaaradhiGo.Lib.Transition
import Mathlib.Data.List.Nodup

namespace Rebuild

variable {δ π ρ κ : Type*}

/-- What a run reads, and the rows it makes of it. -/
structure Recipe (δ π ρ κ : Type*) where
  queries : List (δ → π)
  rows : List π → List ρ
  key : ρ → κ

def Recipe.made (R : Recipe δ π ρ κ) (data : δ) : List ρ := R.rows (R.queries.map fun q => q data)

structure Runner (π : Type*) where
  parts : List π
  /-- the rows its delete has seen -/
  deleted : Option (List ℕ)
  ended : Bool

/-- The data, the rows and the runs. -/
structure State (δ π ρ : Type*) where
  data : δ
  /-- the data since the last run started, the latest first -/
  since : List δ
  stored : List (ℕ × ρ)
  /-- the next row's id -/
  next : ℕ
  runners : List (Runner π)

def opening (data : δ) (stored : List (ℕ × ρ)) (next : ℕ) : State δ π ρ :=
  ⟨data, [data], stored, next, []⟩

/-- What can happen; runs are named by the order in which they started. -/
inductive Event (δ : Type*) where
  | change (data : δ)
  | start
  /-- the next query of a run -/
  | read (i : ℕ)
  /-- a run that has read everything opens its transaction and deletes -/
  | delete (i : ℕ)
  /-- it inserts its rows and commits, or fails -/
  | commit (i : ℕ)

section Steps

variable [DecidableEq κ] (R : Recipe δ π ρ κ)

/-- A run answers its next query. -/
def read (s : State δ π ρ) (i : ℕ) (r : Runner π) : State δ π ρ :=
  match R.queries[r.parts.length]? with
  | none => s
  | some q => { s with runners := s.runners.set i { r with parts := r.parts ++ [q s.data] } }

/-- A run that has read everything deletes the rows it sees. -/
def delete (s : State δ π ρ) (i : ℕ) (r : Runner π) : State δ π ρ :=
  if r.parts.length = R.queries.length ∧ r.deleted = none then
    { s with runners := s.runners.set i { r with deleted := some (s.stored.map Prod.fst) } }
  else s

/-- The rows a transaction leaves of those that are there. -/
def kept (s : State δ π ρ) (ids : List ℕ) : List (ℕ × ρ) := s.stored.filter fun x => x.1 ∉ ids

def numbered (next : ℕ) (rows : List ρ) : List (ℕ × ρ) :=
  (List.range' next rows.length).zip rows

/-- A run inserts its rows; a key that is there already makes it fail. -/
def commit (s : State δ π ρ) (i : ℕ) (r : Runner π) : State δ π ρ :=
  match r.deleted with
  | none => s
  | some ids =>
      if r.ended then s
      else
        let rows := R.rows r.parts
        let runners := s.runners.set i { r with ended := true }
        if rows.any fun row => (kept s ids).any fun x => R.key x.2 = R.key row then
          { s with runners }
        else
          { s with
            stored := kept s ids ++ numbered s.next rows
            next := s.next + rows.length
            runners }

def step (s : State δ π ρ) : Event δ → State δ π ρ
  | .change data => { s with data, since := data :: s.since }
  | .start => { s with since := [s.data], runners := s.runners ++ [⟨[], none, false⟩] }
  | .read i => (s.runners[i]?).elim s fun r => read R s i r
  | .delete i => (s.runners[i]?).elim s fun r => delete R s i r
  | .commit i => (s.runners[i]?).elim s fun r => commit R s i r

end Steps

/-! ## The last run -/

/-- A transaction is in order when its delete has seen every row there is and no run that started
later is over. -/
def InOrder (s : State δ π ρ) : Event δ → Prop
  | .commit i => ∀ r ids, s.runners[i]? = some r → r.deleted = some ids → r.ended = false →
      (∀ x ∈ s.stored, x.1 ∈ ids) ∧ ∀ j, i < j → ∀ r', s.runners[j]? = some r' → r'.ended = false
  | _ => True

instance (s : State δ π ρ) (e : Event δ) : Decidable (InOrder s e) :=
  match e with
  | .commit i =>
      decidable_of_iff (∀ r ∈ s.runners[i]?, ∀ ids ∈ r.deleted, r.ended = false →
          (∀ x ∈ s.stored, x.1 ∈ ids) ∧ ∀ j < s.runners.length, i < j →
            ∀ r' ∈ s.runners[j]?, r'.ended = false)
        ⟨fun h r ids hr hids hended => (h r hr ids hids hended).imp_right fun hall j hj r' hr' =>
          hall j (List.getElem?_eq_some_iff.mp hr').1 hj r' hr',
        fun h r hr ids hids hended => (h r ids hr hids hended).imp_right fun hall j _ hj r' hr' =>
          hall j hj r' hr'⟩
  | .change _ | .start | .read _ | .delete _ => .isTrue trivial

/-- Every run is over. -/
def AllEnded (s : State δ π ρ) : Prop := s.runners ≠ [] ∧ ∀ r ∈ s.runners, r.ended = true

instance (s : State δ π ρ) : Decidable (AllEnded s) := inferInstanceAs (Decidable (_ ∧ _))

/-- The answers are those to the queries, each from some of the data. -/
def Answers (queries : List (δ → π)) (since : List δ) (parts : List π) : Prop :=
  ∃ ds : List δ, ds.length = queries.length ∧ (∀ d ∈ ds, d ∈ since) ∧
    parts = List.zipWith (fun q d => q d) queries ds

/-- The rows are made from data no older than the start of the run that started last. -/
def Fresh (R : Recipe δ π ρ κ) (s : State δ π ρ) : Prop :=
  ∃ parts, Answers R.queries s.since parts ∧ s.stored.map Prod.snd = R.rows parts

/-- What is known of the run that started last: it has answered its first queries from data since
its start, and when it is over the rows are its own. -/
structure Latest (R : Recipe δ π ρ κ) (s : State δ π ρ) (r : Runner π) : Prop where
  answers : Answers (R.queries.take r.parts.length) s.since r.parts
  complete : r.deleted ≠ none → r.parts.length = R.queries.length
  deleted : r.ended = true → r.deleted ≠ none
  stored : r.ended = true → s.stored.map Prod.snd = R.rows r.parts

/-- The invariant: it is known of the run that started last, and the data of now are among those
since its start. -/
structure LatestKnown (R : Recipe δ π ρ κ) (s : State δ π ρ) : Prop where
  now : s.data ∈ s.since
  latest : ∀ r, s.runners.getLast? = some r → Latest R s r

section Answers

variable {queries : List (δ → π)} {since : List δ} {parts : List π}

lemma Answers.mono {since' : List δ} (h : Answers queries since parts)
    (hsub : ∀ d ∈ since, d ∈ since') : Answers queries since' parts := by
  obtain ⟨ds, hlength, hmem, hparts⟩ := h
  exact ⟨ds, hlength, fun d hd => hsub d (hmem d hd), hparts⟩

lemma Answers.concat {q : δ → π} {d : δ} (h : Answers queries since parts) (hd : d ∈ since) :
    Answers (queries ++ [q]) since (parts ++ [q d]) := by
  obtain ⟨ds, hlength, hmem, hparts⟩ := h
  refine ⟨ds ++ [d], by simp [hlength], ?_, ?_⟩
  · intro d' hd'
    rcases List.mem_append.mp hd' with hd' | hd'
    · exact hmem d' hd'
    · rw [List.mem_singleton.mp hd']
      exact hd
  · rw [hparts, List.zipWith_append hlength.symm]
    rfl

/-- Answers from data that did not change are those of one state of the data. -/
lemma Answers.eq_map {d : δ} (h : Answers queries [d] parts) :
    parts = queries.map fun q => q d := by
  obtain ⟨ds, hlength, hmem, rfl⟩ := h
  have hall : ds = List.replicate queries.length d := by
    rw [List.eq_replicate_iff]
    exact ⟨hlength, fun d' hd' => List.mem_singleton.mp (hmem d' hd')⟩
  rw [hall]
  clear hlength hmem hall ds
  induction queries with
  | nil => rfl
  | cons q queries ih => exact congrArg (q d :: ·) ih

end Answers

/-! ## One step -/

section Step

variable {R : Recipe δ π ρ κ} {s : State δ π ρ} {i : ℕ} {r r' : Runner π}

lemma getLast?_set {l : List (Runner π)} (hi : l[i]? = some r) :
    (l.set i r').getLast? = if i + 1 = l.length then some r' else l.getLast? := by
  obtain ⟨hlt, -⟩ := List.getElem?_eq_some_iff.mp hi
  rw [List.getLast?_eq_getElem?, List.getLast?_eq_getElem?, List.length_set, List.getElem?_set]
  by_cases hlast : i + 1 = l.length
  · rw [if_pos hlast, if_pos (by omega), if_pos (by omega)]
  · rw [if_neg hlast, if_neg (by omega)]

lemma getLast?_of_last {l : List (Runner π)} (hi : l[i]? = some r) (hlast : i + 1 = l.length) :
    l.getLast? = some r := by
  rw [List.getLast?_eq_getElem?, ← hlast, Nat.add_sub_cancel, hi]

/-- When one run goes on, what is known of the last run is known of it again: it is that run, or it
is another one and the rows stay. -/
lemma latestKnown_set {s' : State δ π ρ} (hi : s.runners[i]? = some r)
    (hdata : s'.data = s.data) (hsince : s'.since = s.since)
    (hrunners : s'.runners = s.runners.set i r')
    (hself : i + 1 = s.runners.length → Latest R s r → Latest R s' r')
    (hother : ∀ j x, i < j → s.runners[j]? = some x → x.ended = true → s'.stored = s.stored)
    (h : LatestKnown R s) : LatestKnown R s' := by
  refine ⟨by rw [hdata, hsince]; exact h.now, fun x hx => ?_⟩
  rw [hrunners, getLast?_set hi] at hx
  split at hx
  · rename_i hlast
    cases hx
    exact hself hlast (h.latest r (getLast?_of_last hi hlast))
  · rename_i hlast
    obtain ⟨hlt, -⟩ := List.getElem?_eq_some_iff.mp hi
    have hknown := h.latest x hx
    rw [List.getLast?_eq_getElem?] at hx
    refine
      { answers := ?_
        complete := hknown.complete
        deleted := hknown.deleted
        stored := fun hended => ?_ }
    · rw [hsince]
      exact hknown.answers
    · rw [hother _ x (by omega) hx hended]
      exact hknown.stored hended

lemma latestKnown_read (hi : s.runners[i]? = some r) (h : LatestKnown R s) :
    LatestKnown R (read R s i r) := by
  rw [read]
  cases hq : R.queries[r.parts.length]? with
  | none => exact h
  | some q =>
      obtain ⟨hlt, hget⟩ := List.getElem?_eq_some_iff.mp hq
      refine latestKnown_set hi rfl rfl rfl (fun _ hr => ?_) (fun _ _ _ _ _ => rfl) h
      -- a run that still reads has deleted nothing
      have hnone : ¬ r.deleted ≠ none := by
        intro hdeleted
        have hlength := hr.complete hdeleted
        omega
      refine
        { answers := ?_
          complete := fun hdeleted => absurd hdeleted hnone
          deleted := fun hended => absurd (hr.deleted hended) hnone
          stored := fun hended => absurd (hr.deleted hended) hnone }
      rw [List.length_append, List.length_singleton, List.take_add_one, hq]
      exact hr.answers.concat h.now

lemma latestKnown_delete (hi : s.runners[i]? = some r) (h : LatestKnown R s) :
    LatestKnown R (delete R s i r) := by
  rw [delete]
  split
  · rename_i hready
    refine latestKnown_set hi rfl rfl rfl (fun _ hr => ?_) (fun _ _ _ _ _ => rfl) h
    exact
      { answers := hr.answers
        complete := fun _ => hready.1
        deleted := fun _ => Option.some_ne_none _
        stored := fun hended => absurd hready.2 (hr.deleted hended) }
  · exact h

variable [DecidableEq κ]

lemma commit_of_deleted_all {ids : List ℕ} (hdeleted : r.deleted = some ids)
    (hended : r.ended = false) (hall : ∀ x ∈ s.stored, x.1 ∈ ids) :
    commit R s i r =
      { s with
        stored := numbered s.next (R.rows r.parts)
        next := s.next + (R.rows r.parts).length
        runners := s.runners.set i { r with ended := true } } := by
  have hkept : kept s ids = [] := by
    rw [kept, List.filter_eq_nil_iff]
    intro x hx
    rw [decide_eq_true_eq]
    exact not_not.mpr (hall x hx)
  have hany : ((R.rows r.parts).any fun row => (kept s ids).any fun x => R.key x.2 = R.key row) =
      false := by
    rw [List.any_eq_false]
    intro row _
    rw [hkept, List.any_nil]
    exact Bool.false_ne_true
  rw [commit, hdeleted]
  dsimp only
  rw [hended, if_neg Bool.false_ne_true, hany, if_neg Bool.false_ne_true, hkept, List.nil_append]

omit [DecidableEq κ] in
lemma map_snd_numbered (next : ℕ) (rows : List ρ) : (numbered next rows).map Prod.snd = rows :=
  List.map_snd_zip (Nat.le_of_eq List.length_range'.symm)

lemma latestKnown_commit (hi : s.runners[i]? = some r) (hok : InOrder s (.commit i : Event δ))
    (h : LatestKnown R s) : LatestKnown R (commit R s i r) := by
  cases hdeleted : r.deleted with
  | none =>
      rw [commit, hdeleted]
      exact h
  | some ids =>
      cases hended : r.ended with
      | true =>
          rw [commit, hdeleted]
          dsimp only
          rw [hended, if_pos rfl]
          exact h
      | false =>
          obtain ⟨hall, hlater⟩ := hok r ids hi hdeleted hended
          rw [commit_of_deleted_all hdeleted hended hall]
          refine latestKnown_set hi rfl rfl rfl (fun _ hr => ?_) (fun j x hj hx hx' => ?_) h
          · exact
              { answers := hr.answers
                complete := hr.complete
                deleted := fun _ => by
                  show r.deleted ≠ none
                  rw [hdeleted]
                  exact Option.some_ne_none ids
                stored := fun _ => map_snd_numbered _ _ }
          · -- no run that started later is over
            rw [hlater j hj x hx] at hx'
            cases hx'

/-- A step in order keeps what is known of the last run. -/
theorem latestKnown_step (s : State δ π ρ) (e : Event δ) (hok : InOrder s e)
    (h : LatestKnown R s) : LatestKnown R (step R s e) := by
  cases e with
  | change data =>
      refine ⟨List.mem_cons_self, fun r hr => ?_⟩
      have hknown := h.latest r hr
      exact { hknown with answers := hknown.answers.mono fun d hd => List.mem_cons_of_mem _ hd }
  | start =>
      refine ⟨List.mem_singleton.mpr rfl, fun r hr => ?_⟩
      have hnew : r = ⟨[], none, false⟩ := by
        change (s.runners ++ [_]).getLast? = some r at hr
        rw [List.getLast?_concat] at hr
        exact (Option.some_inj.mp hr).symm
      subst hnew
      exact
        { answers := ⟨[], rfl, fun d hd => absurd hd List.not_mem_nil, rfl⟩
          complete := fun hdeleted => absurd rfl hdeleted
          deleted := fun hended => absurd hended Bool.false_ne_true
          stored := fun hended => absurd hended Bool.false_ne_true }
  | read i =>
      rw [step]
      cases hi : s.runners[i]? with
      | none => exact h
      | some r => exact latestKnown_read hi h
  | delete i =>
      rw [step]
      cases hi : s.runners[i]? with
      | none => exact h
      | some r => exact latestKnown_delete hi h
  | commit i =>
      rw [step]
      cases hi : s.runners[i]? with
      | none => exact h
      | some r => exact latestKnown_commit hi hok h

end Step

/-! ## Whole runs -/

variable [DecidableEq κ]

omit [DecidableEq κ] in
lemma latestKnown_opening (R : Recipe δ π ρ κ) (data : δ) (stored : List (ℕ × ρ)) (next : ℕ) :
    LatestKnown R (opening data stored next) := by
  refine ⟨List.mem_singleton.mpr rfl, fun r hr => ?_⟩
  change ([] : List (Runner π)).getLast? = some r at hr
  cases hr

/-- When every step is in order and every run is over, the rows are made from data no older than
the start of the run that started last. -/
theorem fresh_of_guarded (R : Recipe δ π ρ κ) (data : δ) (stored : List (ℕ × ρ)) (next : ℕ)
    {events : List (Event δ)}
    (h : Transition.Guarded (step R) InOrder (opening data stored next) events)
    (hended : AllEnded (Transition.run (step R) (opening data stored next) events)) :
    Fresh R (Transition.run (step R) (opening data stored next) events) := by
  have hknown := Transition.invariant_of_guarded (I := LatestKnown R)
    (fun s e => latestKnown_step s e) (latestKnown_opening R data stored next) h
  generalize Transition.run (step R) (opening data stored next) events = s at *
  obtain ⟨r, hr⟩ : ∃ r, s.runners.getLast? = some r := by
    cases hlast : s.runners.getLast? with
    | none => exact absurd (List.getLast?_eq_none_iff.mp hlast) hended.1
    | some r => exact ⟨r, rfl⟩
  have hover := hended.2 r (List.mem_of_getLast? hr)
  have hlatest := hknown.latest r hr
  have hanswers := hlatest.answers
  rw [hlatest.complete (hlatest.deleted hover), List.take_length] at hanswers
  exact ⟨r.parts, hanswers, hlatest.stored hover⟩

/-- Neither do the data change nor does a run start. -/
def Event.Quiet : Event δ → Prop
  | .change _ => False
  | .start => False
  | _ => True

lemma since_step_of_quiet (R : Recipe δ π ρ κ) (s : State δ π ρ) {e : Event δ} (h : e.Quiet) :
    (step R s e).since = s.since := by
  cases e with
  | change data => exact h.elim
  | start => exact h.elim
  | read i =>
      rw [step]
      cases s.runners[i]? with
      | none => rfl
      | some r =>
          rw [Option.elim_some, read]
          split
          · rfl
          · rfl
  | delete i =>
      rw [step]
      cases s.runners[i]? with
      | none => rfl
      | some r =>
          rw [Option.elim_some, delete]
          split
          · rfl
          · rfl
  | commit i =>
      rw [step]
      cases s.runners[i]? with
      | none => rfl
      | some r =>
          rw [Option.elim_some, commit]
          split
          · rfl
          split
          · rfl
          dsimp only
          split
          · rfl
          · rfl

lemma since_run_of_quiet (R : Recipe δ π ρ κ) (s : State δ π ρ) {events : List (Event δ)}
    (h : ∀ e ∈ events, e.Quiet) : (Transition.run (step R) s events).since = s.since := by
  induction events generalizing s with
  | nil => rfl
  | cons e events ih =>
      rw [Transition.run_cons, ih _ fun e' he' => h e' (List.mem_cons_of_mem _ he'),
        since_step_of_quiet R s (h e List.mem_cons_self)]

omit [DecidableEq κ] in
/-- Rows of data that have not changed since the last start are those of the data. -/
lemma Fresh.eq_made {R : Recipe δ π ρ κ} {s : State δ π ρ} {data : δ} (h : Fresh R s)
    (hsince : s.since = [data]) : s.stored.map Prod.snd = R.made data := by
  obtain ⟨parts, hanswers, hstored⟩ := h
  rw [hsince] at hanswers
  rw [hstored, Recipe.made, hanswers.eq_map]

end Rebuild
