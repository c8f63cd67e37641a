/-
A stream with one group of consumers.

Entries are added at the end.  The group gives out, to whichever consumer asks, the first entries
that it has not given out, and keeps each as pending until it is acknowledged.  What was given out
is not given out again by itself (`notMem_give_of_given`): that takes a consumer which claims the
pending entries of another.
-/
import Mathlib.Data.List.Basic
import Mathlib.Data.List.Nodup

/-- The stream as the group sees it. -/
structure ConsumerGroup (ι : Type*) where
  log : List ι
  unread : List ι
  given : List ι
  pending : List ι

namespace ConsumerGroup

variable {ι : Type*}

def empty : ConsumerGroup ι := ⟨[], [], [], []⟩

def add (g : ConsumerGroup ι) (e : ι) : ConsumerGroup ι := { g with log := g.log ++ [e], unread := g.unread ++ [e] }

def trim (g : ConsumerGroup ι) (n : ℕ) : ConsumerGroup ι := { g with unread := g.unread.drop n }

def next (g : ConsumerGroup ι) (n : ℕ) : List ι := g.unread.take n

/-- The next entries are given out. -/
def give (g : ConsumerGroup ι) (n : ℕ) : ConsumerGroup ι :=
  { g with
    unread := g.unread.drop n, given := g.given ++ g.next n, pending := g.pending ++ g.next n }

def ack [DecidableEq ι] (g : ConsumerGroup ι) (l : List ι) : ConsumerGroup ι :=
  { g with pending := g.pending.filter (· ∉ l) }

/-- What was given out is not waiting, and no entry comes twice. -/
structure Valid (g : ConsumerGroup ι) : Prop where
  nodup : (g.unread ++ g.given).Nodup
  unread_log : ∀ e ∈ g.unread, e ∈ g.log
  given_log : ∀ e ∈ g.given, e ∈ g.log
  pending_given : ∀ e ∈ g.pending, e ∈ g.given

section

variable {g : ConsumerGroup ι} {e : ι} {n : ℕ}

lemma valid_empty : Valid (empty : ConsumerGroup ι) := by
  constructor
  · exact List.nodup_nil
  · exact fun e he => by cases he
  · exact fun e he => by cases he
  · exact fun e he => by cases he

lemma Valid.notMem_unread (h : Valid g) (he : e ∈ g.given) : e ∉ g.unread := fun hu =>
  (List.nodup_append.mp h.nodup).2.2 e hu e he rfl

/-- What was given out is not given out again. -/
theorem Valid.notMem_give_of_given (h : Valid g) (he : e ∈ g.given) (n : ℕ) : e ∉ g.next n :=
  fun hnext => h.notMem_unread he (List.mem_of_mem_take hnext)

lemma Valid.add (h : Valid g) (he : e ∉ g.log) : Valid (g.add e) := by
  refine ⟨?_, fun x hx => ?_, fun x hx => ?_, h.pending_given⟩
  · have hperm : (g.unread ++ [e] ++ g.given).Perm (e :: (g.unread ++ g.given)) := by
      rw [List.append_assoc]
      exact List.perm_middle
    refine hperm.nodup_iff.mpr (List.nodup_cons.mpr ⟨fun hmem => he ?_, h.nodup⟩)
    rcases List.mem_append.mp hmem with hu | hg
    · exact h.unread_log e hu
    · exact h.given_log e hg
  · rcases List.mem_append.mp hx with hold | hnew
    · exact List.mem_append_left _ (h.unread_log x hold)
    · exact List.mem_append_right _ hnew
  · exact List.mem_append_left _ (h.given_log x hx)

lemma Valid.trim (h : Valid g) (n : ℕ) : Valid (g.trim n) := by
  refine ⟨?_, fun x hx => h.unread_log x (List.mem_of_mem_drop hx), h.given_log, h.pending_given⟩
  exact h.nodup.sublist ((List.drop_sublist n g.unread).append_right _)

lemma Valid.give (h : Valid g) (n : ℕ) : Valid (g.give n) := by
  refine ⟨?_, fun x hx => h.unread_log x (List.mem_of_mem_drop hx), fun x hx => ?_, fun x hx => ?_⟩
  · have hperm : (g.unread.drop n ++ (g.given ++ g.unread.take n)).Perm (g.unread ++ g.given) := by
      rw [← List.append_assoc]
      refine List.perm_append_comm.trans ?_
      rw [← List.append_assoc, List.take_append_drop]
    exact hperm.nodup_iff.mpr h.nodup
  · rcases List.mem_append.mp hx with hold | hnew
    · exact h.given_log x hold
    · exact h.unread_log x (List.mem_of_mem_take hnew)
  · rcases List.mem_append.mp hx with hold | hnew
    · exact List.mem_append_left _ (h.pending_given x hold)
    · exact List.mem_append_right _ hnew

lemma Valid.ack [DecidableEq ι] (h : Valid g) (l : List ι) : Valid (g.ack l) :=
  ⟨h.nodup, h.unread_log, h.given_log, fun x hx => h.pending_given x (List.mem_of_mem_filter hx)⟩

lemma mem_pending_ack [DecidableEq ι] {l : List ι} :
    e ∈ (g.ack l).pending ↔ e ∈ g.pending ∧ e ∉ l := by
  rw [ConsumerGroup.ack, List.mem_filter, decide_eq_true_eq]

end

end ConsumerGroup
