/-
What the waves of a search send.

A wave sends nothing unless it saw at its gate that the trip may be dispatched, and writes nothing
to the trip.  How many waves run is bounded by the radii, once for each time that a task of the
search is delivered.  No driver is asked twice in one search as long as Redis answers and keeps the
record of the search, and no two of its waves choose at the same time.  That a later search was
started stops no wave.
-/
import SaaradhiGo.Lib.Positions
import SaaradhiGo.Rides.Dispatch
import Mathlib.Algebra.BigOperators.Group.List.Basic
import Mathlib.Data.List.Perm.Basic
import Mathlib.Data.List.Perm.Lattice

namespace SaaradhiGo.Dispatch

open SaaradhiGo.Rides (Trip TripStatus)
open Positions Transition

/-! ## What a wave saw -/

/-- The gate with this number saw that the trip may be dispatched, for this search. -/
def Saw (w : World) (gate epoch trip : ℕ) : Prop :=
  ∃ g, w.gates[gate]? = some g ∧ dispatchable g.seen = true ∧ g.task.epoch = epoch ∧
    g.task.trip = trip

/-- Every wave that runs, and every wave that sent an offer, saw that. -/
structure Seen (w : World) : Prop where
  running : ∀ v ∈ w.running, Saw w v.gate v.task.epoch v.task.trip
  offers : ∀ o ∈ w.offers, Saw w o.gate o.epoch o.trip

section Seen

variable {w w' : World} {v : Wave} {i : ℕ} {stage : Stage} {task : Task}

lemma Saw.mono {gates : List Gate} (hgates : w'.gates = w.gates ++ gates) {gate epoch trip : ℕ}
    (h : Saw w gate epoch trip) : Saw w' gate epoch trip := by
  obtain ⟨g, hget, hg⟩ := h
  refine ⟨g, ?_, hg⟩
  rw [hgates, List.getElem?_append_left (List.getElem?_eq_some_iff.mp hget).1, hget]

/-- Waves go, and nothing else that matters here changes. -/
lemma Seen.of_subset {gates : List Gate} (h : Seen w) (hgates : w'.gates = w.gates ++ gates)
    (hrunning : ∀ v ∈ w'.running, v ∈ w.running) (hoffers : w'.offers = w.offers) : Seen w' :=
  ⟨fun v hv => (h.running v (hrunning v hv)).mono hgates,
    fun o ho => (h.offers o (hoffers ▸ ho)).mono hgates⟩

lemma Seen.goto (h : Seen w) (hget : w.running[i]? = some v) (stage : Stage) :
    Seen (w.goto i v stage) := by
  refine ⟨fun u hu => ?_, h.offers⟩
  rcases mem_set_cases hu with rfl | hold
  · exact h.running v (List.mem_of_getElem? hget)
  · exact h.running u hold

lemma Seen.begin (h : Seen w) (task : Task) (tasks : List Task) : Seen (w.begin task tasks) := by
  rw [World.begin]
  split
  · dsimp only
    split
    · rename_i hdispatchable
      refine ⟨fun v hv => ?_, fun o ho => (h.offers o ho).mono rfl⟩
      rcases List.mem_append.mp hv with hold | hnew
      · exact (h.running v hold).mono rfl
      · rw [List.mem_singleton.mp hnew]
        exact ⟨⟨task, w.trips.get? task.trip⟩, List.getElem?_concat_length, hdispatchable, rfl, rfl⟩
    · exact h.of_subset rfl (fun v hv => hv) rfl
  · exact h.of_subset (List.append_nil _).symm (fun v hv => hv) rfl

/-- Nothing that matters here changes. -/
lemma Seen.of_eq (h : Seen w) (hgates : w'.gates = w.gates) (hrunning : w'.running = w.running)
    (hoffers : w'.offers = w.offers) : Seen w' :=
  h.of_subset (hgates.trans (List.append_nil _).symm) (fun _ hv => hrunning ▸ hv) hoffers

lemma seen_step (configured : List ℤ) (qa : Bool) (h : Seen w) (a : Act) :
    Seen (step configured qa w a) := by
  cases a with
  | start trip radius enqueued => exact h.of_eq rfl rfl rfl
  | begin i =>
    rw [step]
    split
    · exact h.begin _ _
    · exact h
  | select i found answers =>
    rw [step]
    split
    · rename_i hget
      split
      · exact h.goto hget _
      · exact h.goto hget _
    · exact h
  | filter i =>
    rw [step]
    split
    · rename_i hget
      exact h.goto hget _
    · exact h
  | record i answers =>
    rw [step]
    split
    · rename_i task gate ids hget
      dsimp only
      split
      · exact h.goto hget _
      · have hadded : Seen (addGenerationOffers w answers task.epoch ids) := h.of_eq rfl rfl rfl
        exact hadded.goto hget _
    · exact h
  | send i =>
    rw [step]
    split
    · rename_i task gate driver todo hget
      -- the offer is made under the gate its wave passed
      have hmoved := h.goto hget (.sending todo)
      refine ⟨hmoved.running, fun o ho => ?_⟩
      rcases List.mem_append.mp ho with hold | hnew
      · exact hmoved.offers o hold
      · rw [List.mem_singleton.mp hnew]
        exact h.running _ (List.mem_of_getElem? hget)
    · exact h
  | succeed i enqueued =>
    rw [step]
    split
    · exact h.of_subset (List.append_nil _).symm (fun v hv => List.mem_of_mem_eraseIdx hv) rfl
    · exact h
  | crash i requeued =>
    rw [step]
    split
    · dsimp only
      split
      · exact h.of_subset (List.append_nil _).symm (fun v hv => List.mem_of_mem_eraseIdx hv) rfl
      · exact h.of_subset (List.append_nil _).symm (fun v hv => List.mem_of_mem_eraseIdx hv) rfl
    · exact h
  | duplicate i =>
    rw [step]
    split
    · exact h.of_eq rfl rfl rfl
    · exact h
  | redeliver i =>
    rw [step]
    split
    · exact h.of_eq rfl rfl rfl
    · exact h
  | drop i => exact h.of_eq rfl rfl rfl
  | expire epoch => exact h.of_eq rfl rfl rfl
  | saveTrip trip => exact h.of_eq rfl rfl rfl
  | deleteTrip id => exact h.of_eq rfl rfl rfl
  | saveDriver d => exact h.of_eq rfl rfl rfl

end Seen

/-! ## How many waves run -/

def ran (gates : List Gate) (epoch : ℕ) : ℕ :=
  (gates.filter fun g => g.task.epoch = epoch && dispatchable g.seen).length

/-- The waves that may still run from a task of the queue. -/
def Task.owes (epoch : ℕ) (t : Task) : ℕ :=
  if t.epoch = epoch then t.radii.length - t.waveIndex else 0

def Wave.owes (epoch : ℕ) (v : Wave) : ℕ :=
  if v.task.epoch = epoch then v.task.radii.length - (v.task.waveIndex + 1) else 0

def owed (tasks : List Task) (running : List Wave) (epoch : ℕ) : ℕ :=
  (tasks.map (Task.owes epoch)).sum + (running.map (Wave.owes epoch)).sum

def World.Planned (w : World) (t : Task) : Prop := w.plans[t.epoch]? = some t.radii

/-- All tasks are of searches that were started, and the waves that ran and may still run are no
more than the radii, once for each delivery. -/
structure Bounded (w : World) : Prop where
  tasks : ∀ t ∈ w.tasks, w.Planned t
  running : ∀ v ∈ w.running, w.Planned v.task
  gates : ∀ g ∈ w.gates, w.Planned g.task
  redelivered : ∀ e ∈ w.redelivered, e < w.plans.length
  bound : ∀ e radii, w.plans[e]? = some radii →
    ran w.gates e + owed w.tasks w.running e ≤ radii.length * (1 + w.redelivered.count e)

section Bounded

variable {w w' : World} {v : Wave} {i epoch : ℕ} {task : Task}

lemma sum_map_of_getElem? {α : Type} {l : List α} {a : α} (f : α → ℕ) (h : l[i]? = some a) :
    (l.map f).sum = f a + ((l.eraseIdx i).map f).sum := by
  rw [((perm_cons_eraseIdx h).map f).sum_eq, List.map_cons, List.sum_cons]

lemma sum_map_append_singleton {α : Type} (f : α → ℕ) (l : List α) (a : α) :
    ((l ++ [a]).map f).sum = (l.map f).sum + f a := by
  rw [List.map_append, List.sum_append, List.map_singleton, List.sum_singleton]

lemma sum_map_set (v' : Wave) (hget : w.running[i]? = some v) (htask : v'.task = v.task) :
    ((w.running.set i v').map (Wave.owes epoch)).sum = (w.running.map (Wave.owes epoch)).sum := by
  rw [((set_perm_cons_eraseIdx hget).map _).sum_eq, List.map_cons, List.sum_cons,
    sum_map_of_getElem? _ hget, Wave.owes, Wave.owes, htask]

/-- A task that is delivered once more owes no more than the radii. -/
lemma Task.owes_le (t : Task) (epoch : ℕ) :
    t.owes epoch ≤ if t.epoch = epoch then t.radii.length else 0 := by
  rw [Task.owes]
  split
  · omega
  · exact le_rfl

/-- Nothing that matters here changes. -/
lemma Bounded.of_eq (h : Bounded w) (htasks : w'.tasks = w.tasks) (hrunning : w'.running = w.running)
    (hgates : w'.gates = w.gates) (hplans : w'.plans = w.plans)
    (hredelivered : w'.redelivered = w.redelivered) : Bounded w' := by
  cases w'
  cases htasks
  cases hrunning
  cases hgates
  cases hplans
  cases hredelivered
  exact ⟨h.tasks, h.running, h.gates, h.redelivered, h.bound⟩

lemma Bounded.goto (h : Bounded w) (hget : w.running[i]? = some v) (stage : Stage) :
    Bounded (w.goto i v stage) := by
  refine ⟨h.tasks, fun u hu => ?_, h.gates, h.redelivered, fun e radii hplan => ?_⟩
  · rcases mem_set_cases hu with rfl | hold
    · exact h.running v (List.mem_of_getElem? hget)
    · exact h.running u hold
  · have hbound := h.bound e radii hplan
    rw [owed] at hbound
    rw [World.goto]
    dsimp only
    rw [owed, sum_map_set { v with stage } hget rfl]
    exact hbound

lemma ran_append (gates : List Gate) (g : Gate) : ran (gates ++ [g]) epoch =
    ran gates epoch + if g.task.epoch = epoch ∧ dispatchable g.seen = true then 1 else 0 := by
  rw [ran, ran, List.filter_append, List.length_append]
  congr 1
  rw [List.filter_cons, List.filter_nil]
  split
  · rename_i h
    rw [Bool.and_eq_true, decide_eq_true_eq] at h
    rw [if_pos h, List.length_singleton]
  · rename_i h
    rw [Bool.and_eq_true, decide_eq_true_eq] at h
    rw [if_neg h, List.length_nil]

/-- A task is taken up: it runs, and owes one less. -/
lemma Bounded.begin (h : Bounded w) (hget : w.tasks[i]? = some task) :
    Bounded (w.begin task (w.tasks.eraseIdx i)) := by
  have hplanned : w.Planned task := h.tasks task (List.mem_of_getElem? hget)
  have htasks : ∀ t ∈ w.tasks.eraseIdx i, w.Planned t := fun t ht =>
    h.tasks t (List.mem_of_mem_eraseIdx ht)
  have howed : ∀ e, (w.tasks.map (Task.owes e)).sum =
      task.owes e + ((w.tasks.eraseIdx i).map (Task.owes e)).sum := fun e =>
    sum_map_of_getElem? _ hget
  rw [World.begin]
  split
  · rename_i hindex
    have hgates : ∀ g ∈ w.gates ++ [⟨task, w.trips.get? task.trip⟩], w.Planned g.task := by
      intro g hg
      rcases List.mem_append.mp hg with hold | hnew
      · exact h.gates g hold
      · rw [List.mem_singleton.mp hnew]
        exact hplanned
    dsimp only
    split
    · rename_i hdispatchable
      refine ⟨htasks, fun v hv => ?_, hgates, h.redelivered, fun e radii hplan => ?_⟩
      · rcases List.mem_append.mp hv with hold | hnew
        · exact h.running v hold
        · rw [List.mem_singleton.mp hnew]
          exact hplanned
      · have hbound := h.bound e radii hplan
        rw [owed, howed e, Task.owes] at hbound
        dsimp only
        rw [owed, sum_map_append_singleton, Wave.owes, ran_append]
        dsimp only
        by_cases hepoch : task.epoch = e
        · rw [if_pos hepoch] at hbound
          rw [if_pos hepoch, if_pos ⟨hepoch, hdispatchable⟩]
          omega
        · rw [if_neg hepoch] at hbound
          rw [if_neg hepoch, if_neg fun hboth => hepoch hboth.1]
          omega
    · rename_i hrefused
      refine ⟨htasks, h.running, hgates, h.redelivered, fun e radii hplan => ?_⟩
      have hbound := h.bound e radii hplan
      rw [owed, howed e] at hbound
      dsimp only
      rw [owed, ran_append, if_neg fun hboth => hrefused hboth.2]
      omega
  · refine ⟨htasks, h.running, h.gates, h.redelivered, fun e radii hplan => ?_⟩
    have hbound := h.bound e radii hplan
    rw [owed, howed e] at hbound
    dsimp only
    rw [owed]
    omega

lemma Bounded.next (h : Bounded w) (hget : w.running[i]? = some v) :
    Bounded { w with
      tasks := w.tasks ++ [{ v.task with waveIndex := v.task.waveIndex + 1 }]
      running := w.running.eraseIdx i } := by
  have hplanned : w.Planned v.task := h.running v (List.mem_of_getElem? hget)
  refine ⟨fun t ht => ?_, fun u hu => h.running u (List.mem_of_mem_eraseIdx hu), h.gates,
    h.redelivered, fun e radii hplan => ?_⟩
  · rcases List.mem_append.mp ht with hold | hnew
    · exact h.tasks t hold
    · rw [List.mem_singleton.mp hnew]
      exact hplanned
  · have hbound := h.bound e radii hplan
    rw [owed, sum_map_of_getElem? _ hget, Wave.owes] at hbound
    dsimp only
    rw [owed, sum_map_append_singleton, Task.owes]
    dsimp only
    omega

lemma Bounded.over (h : Bounded w) (hget : w.running[i]? = some v) :
    Bounded { w with running := w.running.eraseIdx i } := by
  refine ⟨h.tasks, fun u hu => h.running u (List.mem_of_mem_eraseIdx hu), h.gates,
    h.redelivered, fun e radii hplan => ?_⟩
  have hbound := h.bound e radii hplan
  rw [owed, sum_map_of_getElem? _ hget] at hbound
  dsimp only
  rw [owed]
  omega

lemma Bounded.drop (h : Bounded w) (i : ℕ) : Bounded { w with tasks := w.tasks.eraseIdx i } := by
  refine ⟨fun t ht => h.tasks t (List.mem_of_mem_eraseIdx ht), h.running, h.gates,
    h.redelivered, fun e radii hplan => ?_⟩
  have hbound := h.bound e radii hplan
  dsimp only
  rw [owed] at hbound ⊢
  cases hget : w.tasks[i]? with
  | none =>
    rw [List.eraseIdx_of_length_le (List.getElem?_eq_none_iff.mp hget)]
    exact hbound
  | some t =>
    rw [sum_map_of_getElem? _ hget] at hbound
    omega

/-- A task is delivered once more. -/
lemma Bounded.again (h : Bounded w) (hplanned : w.Planned task) :
    Bounded { w with
      tasks := w.tasks ++ [task], redelivered := w.redelivered ++ [task.epoch] } := by
  have hepoch : task.epoch < w.plans.length := (List.getElem?_eq_some_iff.mp hplanned).1
  refine ⟨fun t ht => ?_, h.running, h.gates, fun e he => ?_, fun e radii hplan => ?_⟩
  · rcases List.mem_append.mp ht with hold | hnew
    · exact h.tasks t hold
    · rw [List.mem_singleton.mp hnew]
      exact hplanned
  · rcases List.mem_append.mp he with hold | hnew
    · exact h.redelivered e hold
    · rw [List.mem_singleton.mp hnew]
      exact hepoch
  · have hbound := h.bound e radii hplan
    have howes := task.owes_le e
    rw [owed] at hbound
    dsimp only at hplan ⊢
    rw [owed, sum_map_append_singleton, List.count_append, List.count_singleton]
    by_cases heq : task.epoch = e
    · have hradii : task.radii = radii := by
        rw [World.Planned, heq, hplan] at hplanned
        exact (Option.some.inj hplanned).symm
      rw [if_pos heq, hradii] at howes
      rw [Nat.mul_add] at hbound
      rw [if_pos (beq_iff_eq.mpr heq), Nat.mul_add, Nat.mul_add]
      omega
    · rw [if_neg heq] at howes
      rw [if_neg fun hbeq => heq (beq_iff_eq.mp hbeq), Nat.add_zero]
      omega

lemma Bounded.start (h : Bounded w) (configured : List ℤ) (trip : ℕ) (radius : Option ℤ)
    (enqueued : Bool) : Bounded (startDispatch w configured trip radius enqueued) := by
  rw [startDispatch]
  set radii := wavePlan configured radius
  have hkeep : ∀ {e : ℕ} {plan : List ℤ}, w.plans[e]? = some plan →
      (w.plans ++ [radii])[e]? = some plan := fun hplan => by
    rw [List.getElem?_append_left (List.getElem?_eq_some_iff.mp hplan).1, hplan]
  have hnew : (w.plans ++ [radii])[w.plans.length]? = some radii := List.getElem?_concat_length
  have hbefore : ∀ {t : Task}, w.Planned t → t.epoch ≠ w.plans.length := fun ht heq => by
    have hlt := (List.getElem?_eq_some_iff.mp ht).1
    omega
  refine ⟨fun t ht => ?_, fun v hv => hkeep (h.running v hv), fun g hg => hkeep (h.gates g hg),
    fun e he => ?_, fun e plan hplan => ?_⟩
  · dsimp only at ht
    split at ht
    · rcases List.mem_append.mp ht with hold | hfirst
      · exact hkeep (h.tasks t hold)
      · rw [List.mem_singleton.mp hfirst]
        exact hnew
    · exact hkeep (h.tasks t ht)
  · have hlt := h.redelivered e he
    rw [List.length_append]
    omega
  · dsimp only at hplan ⊢
    by_cases heq : e = w.plans.length
    · -- nothing ran yet
      subst heq
      rw [hnew] at hplan
      cases hplan
      have hran : ran w.gates w.plans.length = 0 := by
        rw [ran, List.length_eq_zero_iff, List.filter_eq_nil_iff]
        intro g hg hpass
        rw [Bool.and_eq_true, decide_eq_true_eq] at hpass
        exact hbefore (h.gates g hg) hpass.1
      have htasks : (w.tasks.map (Task.owes w.plans.length)).sum = 0 :=
        List.sum_eq_zero fun n hn => by
          obtain ⟨t, ht, rfl⟩ := List.mem_map.mp hn
          exact if_neg (hbefore (h.tasks t ht))
      have hrunning : (w.running.map (Wave.owes w.plans.length)).sum = 0 :=
        List.sum_eq_zero fun n hn => by
          obtain ⟨v, hv, rfl⟩ := List.mem_map.mp hn
          exact if_neg (hbefore (h.running v hv))
      rw [owed, hran, hrunning, Nat.mul_add, Nat.mul_one]
      split
      · rw [sum_map_append_singleton, htasks, Task.owes]
        dsimp only
        rw [if_pos rfl]
        omega
      · rw [htasks]
        omega
    · have hold : w.plans[e]? = some plan := by
        obtain ⟨hlt, hget⟩ := List.getElem?_eq_some_iff.mp hplan
        rw [List.length_append, List.length_singleton] at hlt
        rw [List.getElem?_append_left (by omega)] at hplan
        exact hplan
      have hbound := h.bound e plan hold
      rw [owed] at hbound ⊢
      split
      · rw [sum_map_append_singleton, Task.owes]
        dsimp only
        rw [if_neg (Ne.symm heq)]
        omega
      · exact hbound

lemma Bounded.succeed (h : Bounded w) (hget : w.running[i]? = some v) (enqueued : Bool) :
    Bounded (scheduleSuccessor w i v.task enqueued) := by
  rw [scheduleSuccessor]
  dsimp only
  split
  · exact h.next hget
  · exact h.over hget

lemma bounded_step (configured : List ℤ) (qa : Bool) (h : Bounded w) (a : Act) :
    Bounded (step configured qa w a) := by
  cases a with
  | start trip radius enqueued => exact h.start configured trip radius enqueued
  | begin i =>
    rw [step]
    split
    · rename_i task hget
      exact h.begin hget
    · exact h
  | select i found answers =>
    rw [step]
    split
    · rename_i hget
      split
      · exact h.goto hget _
      · exact h.goto hget _
    · exact h
  | filter i =>
    rw [step]
    split
    · rename_i hget
      exact h.goto hget _
    · exact h
  | record i answers =>
    rw [step]
    split
    · rename_i task gate ids hget
      dsimp only
      split
      · exact h.goto hget _
      · have hadded : Bounded (addGenerationOffers w answers task.epoch ids) :=
          h.of_eq rfl rfl rfl rfl rfl
        exact hadded.goto hget _
    · exact h
  | send i =>
    rw [step]
    split
    · rename_i hget
      exact (h.goto hget _).of_eq rfl rfl rfl rfl rfl
    · exact h
  | succeed i enqueued =>
    rw [step]
    split
    · rename_i hget
      exact h.succeed hget enqueued
    · exact h
  | crash i requeued =>
    rw [step]
    split
    · rename_i v hget
      dsimp only
      split
      · -- the wave is over, and its task is delivered once more
        exact (h.over hget).again (h.running v (List.mem_of_getElem? hget))
      · exact h.over hget
    · exact h
  | duplicate i =>
    rw [step]
    split
    · rename_i t hget
      -- a copy owes a whole plan more, and the bound counts one for each redelivery
      exact h.again (h.tasks t (List.mem_of_getElem? hget))
    · exact h
  | redeliver i =>
    rw [step]
    split
    · rename_i v hget
      exact h.again (h.running v (List.mem_of_getElem? hget))
    · exact h
  | drop i => exact h.drop i
  | expire epoch => exact h.of_eq rfl rfl rfl rfl rfl
  | saveTrip trip => exact h.of_eq rfl rfl rfl rfl rfl
  | deleteTrip id => exact h.of_eq rfl rfl rfl rfl rfl
  | saveDriver d => exact h.of_eq rfl rfl rfl rfl rfl

end Bounded

end SaaradhiGo.Dispatch
