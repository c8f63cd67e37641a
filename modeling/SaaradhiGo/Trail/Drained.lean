/-
What becomes of the entries that were read.

As long as no worker dies or fails between reading a batch and acknowledging it, every entry that
was read is handled or in the hands of a drain, and what is pending is in the hands of a drain.  An
entry that a worker leaves pending is not read again by any later drain (`orphan_forever`): the
group gives out new entries only, and nothing claims the pending ones.
-/
import SaaradhiGo.Lib.Positions
import SaaradhiGo.Trail.Stream

namespace SaaradhiGo.Trail

open Positions Transition

/-! ## In hand -/

def Held (drains : List Drain) (id : EntryId) : Prop := ∃ d ∈ drains, id ∈ d.batch

instance (drains : List Drain) (id : EntryId) : Decidable (Held drains id) :=
  inferInstanceAs (Decidable (∃ d ∈ drains, id ∈ d.batch))

def World.Handled (w : World) (id : EntryId) : Prop := id ∈ w.handled.map Prod.fst

instance (w : World) (id : EntryId) : Decidable (w.Handled id) :=
  inferInstanceAs (Decidable (id ∈ w.handled.map Prod.fst))

/-- Every entry that was read is handled or in hand, and the pending ones are in hand. -/
def Accounted (w : World) : Prop :=
  ∀ id ∈ w.group.given, (w.Handled id ∨ Held w.drains id) ∧
    (id ∈ w.group.pending → Held w.drains id)

instance (w : World) : Decidable (Accounted w) :=
  inferInstanceAs (Decidable (∀ id ∈ w.group.given, (w.Handled id ∨ Held w.drains id) ∧
    (id ∈ w.group.pending → Held w.drains id)))

/-- Nothing dies or fails between the read of a batch and its acknowledgement. -/
def careful (policy : Policy) (stream : EntryId → Fields) (settings : DrainSettings) (w : World) :
    DrainAct → Bool
  | .read i .lost =>
      match w.drains[i]? with
      | some ⟨consumed, .reading⟩ =>
          (w.group.next (Drain.count settings ⟨consumed, .reading⟩)).isEmpty
      | _ => true
  | .persist i _ commits =>
      match w.drains[i]? with
      | some ⟨_, .read batch⟩ => commits && (parseAll policy stream batch).isSome
      | _ => true
  | .ack i answers =>
      match w.drains[i]? with
      | some ⟨_, .persisted _⟩ => answers
      | _ => true
  | .die i => (w.drains[i]?).all fun d => d.stage = .reading
  | _ => true

section Held

variable {drains : List Drain} {i : ℕ} {d d' : Drain} {id : EntryId}

lemma held_iff (hget : drains[i]? = some d) :
    Held drains id ↔ id ∈ d.batch ∨ Held (drains.eraseIdx i) id := by
  constructor
  · rintro ⟨e, he, hid⟩
    rcases (mem_iff_of_getElem? hget).mp he with rfl | hrest
    · exact .inl hid
    · exact .inr ⟨e, hrest, hid⟩
  · rintro (hid | ⟨e, he, hid⟩)
    · exact ⟨d, List.mem_of_getElem? hget, hid⟩
    · exact ⟨e, List.mem_of_mem_eraseIdx he, hid⟩

lemma held_set (hget : drains[i]? = some d) :
    Held (drains.set i d') id ↔ id ∈ d'.batch ∨ Held (drains.eraseIdx i) id := by
  constructor
  · rintro ⟨e, he, hid⟩
    rcases (mem_set_iff hget).mp he with rfl | hrest
    · exact .inl hid
    · exact .inr ⟨e, hrest, hid⟩
  · rintro (hid | ⟨e, he, hid⟩)
    · exact ⟨d', (mem_set_iff hget).mpr (.inl rfl), hid⟩
    · exact ⟨e, (mem_set_iff hget).mpr (.inr he), hid⟩

/-- A drain with nothing in hand makes no difference. -/
lemma held_eraseIdx_of_nil (hget : drains[i]? = some d) (hnil : d.batch = []) :
    Held (drains.eraseIdx i) id ↔ Held drains id := by
  rw [held_iff hget, hnil]
  simp

lemma held_append_reading : Held (drains ++ [⟨0, .reading⟩]) id ↔ Held drains id := by
  constructor
  · rintro ⟨e, he, hid⟩
    rcases List.mem_append.mp he with hold | hnew
    · exact ⟨e, hold, hid⟩
    · rw [List.mem_singleton.mp hnew] at hid
      cases hid
  · rintro ⟨e, he, hid⟩
    exact ⟨e, List.mem_append_left _ he, hid⟩

end Held

/-! ## What the writer says -/

section Writer

variable {policy : Policy} {stream : EntryId → Fields} {trips : Table Trip.id} {now : ℕ}
  {loop : Loop} {e : Event} {events : List Event} {ids : List EntryId} {store : Store}

lemma verdicts_next : (loop.next policy trips now e).verdicts =
    loop.verdicts ++ [(e.id, judge policy trips now loop e)] := by
  rw [Loop.next]
  split
  · rename_i p hcreated
    rw [hcreated]
  · rfl

lemma subset_toCreate_next : loop.toCreate ⊆ (loop.next policy trips now e).toCreate := by
  rw [Loop.next]
  split
  · exact List.subset_append_left _ _
  · exact List.Subset.refl _

def Loop.Creates (loop : Loop) : Prop :=
  ∀ x ∈ loop.verdicts, ∀ p, x.2 = Verdict.created p → p ∈ loop.toCreate

lemma Loop.Creates.next (h : loop.Creates) : (loop.next policy trips now e).Creates := by
  intro x hx p hp
  rw [verdicts_next] at hx
  rcases List.mem_append.mp hx with hold | hnew
  · exact subset_toCreate_next (h x hold p hp)
  · rw [List.mem_singleton.mp hnew] at hp
    rw [toCreate_next hp]
    exact List.mem_append_right _ List.mem_cons_self

lemma creates_judgeAll (h : loop.Creates) : (judgeAll policy trips now loop events).Creates := by
  induction events generalizing loop with
  | nil => exact h
  | cons e events ih => exact ih h.next

lemma map_fst_verdicts_judgeAll :
    (judgeAll policy trips now loop events).verdicts.map Prod.fst =
      loop.verdicts.map Prod.fst ++ events.map Event.id := by
  induction events generalizing loop with
  | nil => exact (List.append_nil _).symm
  | cons e events ih =>
    rw [judgeAll, List.foldl_cons, ← judgeAll, ih, verdicts_next, List.map_append, List.map_cons,
      List.map_cons, List.map_nil, List.append_assoc, List.singleton_append]

lemma keys_insertIgnore (points : Table Point.key) (p : Point) :
    points.rows.map Point.key ⊆ (insertIgnore points p).rows.map Point.key ∧
      p.key ∈ (insertIgnore points p).rows.map Point.key := by
  by_cases hmem : p.key ∈ points.rows.map Point.key
  · rw [insertIgnore_of_mem hmem]
    exact ⟨List.Subset.refl _, hmem⟩
  · rw [rows_insertIgnore_of_notMem hmem, List.map_append]
    exact ⟨List.subset_append_left _ _, List.mem_append_right _ (List.mem_singleton_self _)⟩

lemma keys_bulkCreate (points : Table Point.key) (toCreate : List Point) :
    points.rows.map Point.key ⊆ (bulkCreate points toCreate).rows.map Point.key ∧
      ∀ p ∈ toCreate, p.key ∈ (bulkCreate points toCreate).rows.map Point.key := by
  induction toCreate generalizing points with
  | nil => exact ⟨List.Subset.refl _, fun p hp => by cases hp⟩
  | cons q toCreate ih =>
    obtain ⟨hkeep, hhave⟩ := keys_insertIgnore points q.stored
    obtain ⟨hkeep', hhave'⟩ := ih (insertIgnore points q.stored)
    refine ⟨List.Subset.trans hkeep hkeep', fun p hp => ?_⟩
    rcases List.mem_cons.mp hp with rfl | htail
    · exact hkeep' hhave
    · exact hhave' p htail

/-- The writer handles every entry of a batch, and stores what it says it creates. -/
lemma persistLocationEvents_spec {points : Table Point.key} {verdicts : List (EntryId × Verdict)}
    (h : persistLocationEvents policy now stream store ids = some (points, verdicts)) :
    (∀ id ∈ ids, id ∈ verdicts.map Prod.fst) ∧
      store.points.rows.map Point.key ⊆ points.rows.map Point.key ∧
      ∀ x ∈ verdicts, ∀ p, x.2 = Verdict.created p → p.key ∈ points.rows.map Point.key := by
  rw [persistLocationEvents] at h
  cases hparse : parseAll policy stream ids with
  | none =>
    rw [hparse] at h
    cases h
  | some parsed =>
    rw [hparse] at h
    cases h
    have hparsed := parseAll_eq_some hparse
    obtain ⟨hkeep, hhave⟩ := keys_bulkCreate store.points
      (judgeAll policy store.trips now (.start store.points.rows)
        (parsed.filterMap Prod.snd)).toCreate
    refine ⟨fun id hid => ?_, hkeep, fun x hx p hp => ?_⟩
    · rw [List.map_append, List.mem_append]
      have hmem : (id, eventOf policy stream id) ∈ parsed := by
        rw [hparsed]
        exact List.mem_map_of_mem hid
      cases hevent : eventOf policy stream id with
      | none =>
        rw [hevent] at hmem
        refine .inl (List.mem_map.mpr ⟨(id, .invalid), ?_, rfl⟩)
        exact List.mem_map.mpr ⟨(id, none), List.mem_filter.mpr ⟨hmem, rfl⟩, rfl⟩
      | some e =>
        rw [hevent] at hmem
        refine .inr ?_
        rw [map_fst_verdicts_judgeAll, List.mem_append]
        refine .inr (List.mem_map.mpr ⟨e, ?_, eventOf_id hevent⟩)
        exact List.mem_filterMap.mpr ⟨(id, some e), hmem, rfl⟩
    · rcases List.mem_append.mp hx with hinvalid | hjudged
      · obtain ⟨y, -, rfl⟩ := List.mem_map.mp hinvalid
        cases hp
      · have hstart : (Loop.start store.points.rows).Creates := fun x hx => by cases hx
        exact hhave p (creates_judgeAll hstart x hjudged p hp)

end Writer

/-! ## The invariant -/

/-- What holds in every run: the batches are apart, pending, not empty, and handled once they are
committed; and what the writer says it stored is stored. -/
structure Sound (w : World) : Prop where
  group : w.group.Valid
  apart : (w.drains.flatMap Drain.batch).Nodup
  pending : ∀ id, Held w.drains id → id ∈ w.group.pending
  nonempty : ∀ d ∈ w.drains, d.stage = .reading ∨ d.batch ≠ []
  committed : ∀ d ∈ w.drains, ∀ batch, d.stage = .persisted batch → ∀ id ∈ batch, w.Handled id
  stored : ∀ x ∈ w.handled, ∀ p, x.2 = Verdict.created p →
    p.key ∈ w.store.points.rows.map Point.key

section Steps

variable {policy : Policy} {stream : EntryId → Fields} {settings : DrainSettings} {w w' : World}
  {i now : ℕ} {d : Drain} {id : EntryId}

/-- A drain that has an entry in hand has it alone. -/
lemma Sound.not_held_eraseIdx (h : Sound w) (hget : w.drains[i]? = some d) (hid : id ∈ d.batch) :
    ¬ Held (w.drains.eraseIdx i) id := by
  rintro ⟨e, he, hmem⟩
  exact notMem_of_nodup_flatMap h.apart hget hid he hmem

/-- The drains change in one place, to one that has no more in hand; the rest is kept. -/
lemma Sound.set (h : Sound w) (hget : w.drains[i]? = some d) (d' : Drain) {drains : List Drain}
    (hdrains : drains = w.drains.eraseIdx i ∨ drains = w.drains.set i d' ∧ d'.batch = d.batch ∧
      (d'.stage = .reading ∨ d'.batch ≠ []) ∧
      ∀ batch, d'.stage = .persisted batch → ∀ id ∈ batch, w.Handled id) :
    Sound { w with drains } := by
  rcases hdrains with rfl | ⟨rfl, hbatch, hnonempty, hcommitted⟩
  · refine ⟨h.group, (nodup_flatMap_of_getElem? h.apart hget).2, fun x hx => ?_, fun e he => ?_,
      fun e he => ?_, h.stored⟩
    · exact h.pending x ((held_iff hget).mpr (.inr hx))
    · exact h.nonempty e (List.mem_of_mem_eraseIdx he)
    · exact h.committed e (List.mem_of_mem_eraseIdx he)
  · refine ⟨h.group, ?_, fun x hx => ?_, fun e he => ?_, fun e he => ?_, h.stored⟩
    · have hperm := (perm_cons_eraseIdx hget).flatMap_right Drain.batch
      have hperm' := (set_perm_cons_eraseIdx (b := d') hget).flatMap_right Drain.batch
      rw [List.flatMap_cons] at hperm hperm'
      rw [hbatch] at hperm'
      exact hperm'.nodup_iff.mpr (hperm.nodup_iff.mp h.apart)
    · have hsame : Held w.drains x := by
        rw [held_iff hget, ← hbatch]
        exact (held_set hget).mp hx
      exact h.pending x hsame
    · rcases (mem_set_iff hget).mp he with rfl | hrest
      · exact hnonempty
      · exact h.nonempty e (List.mem_of_mem_eraseIdx hrest)
    · rcases (mem_set_iff hget).mp he with rfl | hrest
      · exact hcommitted
      · exact h.committed e (List.mem_of_mem_eraseIdx hrest)

lemma Sound.stop (h : Sound w) (i : ℕ) : Sound (w.stop i) := by
  rw [World.stop]
  cases hget : w.drains[i]? with
  | none =>
    rw [List.eraseIdx_of_length_le (List.getElem?_eq_none_iff.mp hget)]
    exact h
  | some d => exact h.set hget d (.inl rfl)

lemma Sound.takes {consumed count : ℕ} (h : Sound w)
    (hget : w.drains[i]? = some ⟨consumed, .reading⟩) (hne : w.group.next count ≠ []) :
    Sound { w with
      group := w.group.give count
      drains := w.drains.set i
        ⟨consumed + (w.group.next count).length, .read (w.group.next count)⟩ } := by
  set taken : Drain := ⟨consumed + (w.group.next count).length, .read (w.group.next count)⟩
  have hrest : ∀ x, Held w.drains x ↔ Held (w.drains.eraseIdx i) x := fun x =>
    (held_eraseIdx_of_nil hget rfl).symm
  refine ⟨h.group.give count, ?_, fun x hx => ?_, fun e he => ?_, fun e he => ?_, h.stored⟩
  · have hperm := (set_perm_cons_eraseIdx (b := taken) hget).flatMap_right Drain.batch
    rw [List.flatMap_cons] at hperm
    refine hperm.nodup_iff.mpr (List.nodup_append.mpr
      ⟨?_, (nodup_flatMap_of_getElem? h.apart hget).2, ?_⟩)
    · exact (List.nodup_append.mp h.group.nodup).1.sublist (List.take_sublist _ _)
    · -- what is in hand was given out, and is not given out again
      rintro x hx y hy rfl
      obtain ⟨e, he, hmem⟩ := List.mem_flatMap.mp hy
      have hheld : Held w.drains x := ⟨e, List.mem_of_mem_eraseIdx he, hmem⟩
      have hgiven := h.group.pending_given x (h.pending x hheld)
      exact h.group.notMem_give_of_given hgiven count hx
  · rcases (held_set hget).mp hx with htaken | hold
    · exact List.mem_append_right _ htaken
    · exact List.mem_append_left _ (h.pending x ((hrest x).mpr hold))
  · rcases (mem_set_iff hget).mp he with rfl | hold
    · exact .inr hne
    · exact h.nonempty e (List.mem_of_mem_eraseIdx hold)
  · rcases (mem_set_iff hget).mp he with rfl | hold
    · exact fun batch hbatch => by cases hbatch
    · exact h.committed e (List.mem_of_mem_eraseIdx hold)

/-- Entries are given out and lost. -/
lemma Sound.gives (h : Sound w) (count : ℕ) : Sound { w with group := w.group.give count } :=
  ⟨h.group.give count, h.apart, fun x hx => List.mem_append_left _ (h.pending x hx), h.nonempty,
    h.committed, h.stored⟩

lemma Sound.commits {consumed : ℕ} {batch : List EntryId} {points : Table Point.key}
    {verdicts : List (EntryId × Verdict)} (h : Sound w)
    (hget : w.drains[i]? = some ⟨consumed, .read batch⟩)
    (hpersist : persistLocationEvents policy now stream w.store batch = some (points, verdicts)) :
    Sound { w with
      store := { w.store with points }
      drains := w.drains.set i ⟨consumed, .persisted batch⟩
      handled := w.handled ++ verdicts } := by
  obtain ⟨hall, hkeep, hcreated⟩ := persistLocationEvents_spec hpersist
  have hmono : ∀ x, w.Handled x →
      x ∈ (w.handled ++ verdicts).map Prod.fst := fun x hx => by
    rw [List.map_append]
    exact List.mem_append_left _ hx
  have hnonempty : batch ≠ [] := by
    rcases h.nonempty _ (List.mem_of_getElem? hget) with hreading | hne
    · cases hreading
    · exact hne
  have hstored : Sound { w with
      store := { w.store with points }, handled := w.handled ++ verdicts } := by
    refine ⟨h.group, h.apart, h.pending, h.nonempty,
      fun e he b hb x hx => hmono x (h.committed e he b hb x hx), fun x hx p hp => ?_⟩
    rcases List.mem_append.mp hx with hold | hnew
    · exact hkeep (h.stored x hold p hp)
    · exact hcreated x hnew p hp
  refine hstored.set hget ⟨consumed, .persisted batch⟩
    (.inr ⟨rfl, rfl, .inr hnonempty, fun b hb x hx => ?_⟩)
  cases hb
  rw [World.Handled, List.map_append]
  exact List.mem_append_right _ (hall x hx)

/-- A batch is acknowledged, or the acknowledgement is lost. -/
lemma Sound.acks {consumed : ℕ} {batch : List EntryId} (h : Sound w)
    (hget : w.drains[i]? = some ⟨consumed, .persisted batch⟩) (answers : Bool) :
    Sound { w with
      group := if answers then w.group.ack batch else w.group
      drains := w.drains.set i ⟨consumed, .reading⟩ } := by
  have hrest : ∀ x, Held (w.drains.set i ⟨consumed, .reading⟩) x →
      Held (w.drains.eraseIdx i) x := fun x hx => by
    rcases (held_set hget).mp hx with hnil | hold
    · cases hnil
    · exact hold
  refine ⟨?_, ?_, fun x hx => ?_, fun e he => ?_, fun e he => ?_, h.stored⟩
  · dsimp only
    split
    · exact h.group.ack batch
    · exact h.group
  · have hperm := (set_perm_cons_eraseIdx (b := ⟨consumed, .reading⟩) hget).flatMap_right
      Drain.batch
    rw [List.flatMap_cons] at hperm
    exact hperm.nodup_iff.mpr (nodup_flatMap_of_getElem? h.apart hget).2
  · have hheld := hrest x hx
    have hpending := h.pending x ((held_iff hget).mpr (.inr hheld))
    dsimp only
    split
    · refine ConsumerGroup.mem_pending_ack.mpr ⟨hpending, fun hmem => ?_⟩
      exact h.not_held_eraseIdx hget hmem hheld
    · exact hpending
  · rcases (mem_set_iff hget).mp he with rfl | hold
    · exact .inl rfl
    · exact h.nonempty e (List.mem_of_mem_eraseIdx hold)
  · rcases (mem_set_iff hget).mp he with rfl | hold
    · exact fun b hb => by cases hb
    · exact h.committed e (List.mem_of_mem_eraseIdx hold)

lemma sound_step (h : Sound w) (a : DrainAct) : Sound (drainStep policy stream settings w a) := by
  cases a with
  | add id =>
    rw [drainStep]
    split
    · rename_i hall
      -- XADD gives ids past the last one, so the entry is a new one
      have hnew : id ∉ w.group.log := by
        intro hmem
        have hbefore := List.all_eq_true.mp hall id hmem
        rw [EntryId.before, Bool.or_eq_true, Bool.and_eq_true, decide_eq_true_eq,
          decide_eq_true_eq, decide_eq_true_eq] at hbefore
        omega
      exact ⟨h.group.add hnew, h.apart, h.pending, h.nonempty, h.committed, h.stored⟩
    · exact h
  | trim n => exact ⟨h.group.trim n, h.apart, h.pending, h.nonempty, h.committed, h.stored⟩
  | start =>
    rw [drainStep]
    split
    · refine ⟨h.group, ?_, fun x hx => h.pending x (held_append_reading.mp hx), fun e he => ?_,
        fun e he => ?_, h.stored⟩
      · rw [List.flatMap_append, List.flatMap_singleton]
        dsimp only [Drain.batch]
        rw [List.append_nil]
        exact h.apart
      · rcases List.mem_append.mp he with hold | hnew
        · exact h.nonempty e hold
        · rw [List.mem_singleton.mp hnew]
          exact .inl rfl
      · rcases List.mem_append.mp he with hold | hnew
        · exact h.committed e hold
        · rw [List.mem_singleton.mp hnew]
          exact fun b hb => by cases hb
    · exact h
  | read i answer =>
    rw [drainStep]
    split
    · rename_i consumed hget
      cases answer with
      | refused => exact h.stop i
      | lost => exact (h.gives _).stop i
      | entries =>
        rw [World.readBatch]
        dsimp only
        split
        · exact h.stop i
        · rename_i hne
          exact h.takes hget hne
    · exact h
  | persist i now commits =>
    rw [drainStep]
    split
    · rename_i consumed batch hget
      rw [World.persistBatch]
      split
      · rename_i points verdicts hpersist
        split
        · exact h.commits hget hpersist
        · exact h.stop i
      · exact h.stop i
    · exact h
  | ack i answers =>
    rw [drainStep]
    split
    · rename_i consumed batch hget
      exact h.acks hget answers
    · exact h
  | die i => exact h.stop i
  | saveTrip t => exact ⟨h.group, h.apart, h.pending, h.nonempty, h.committed, h.stored⟩

/-! ## Accounts -/

/-- A drain that has a batch in hand stops: the batch is pending, and in nobody's hands. -/
lemma Sound.not_accounted_stop (h : Sound w) (hget : w.drains[i]? = some d)
    (hstage : d.stage ≠ .reading) : ¬ Accounted (w.stop i) := by
  intro haccounted
  have hnonempty := (h.nonempty d (List.mem_of_getElem? hget)).resolve_left hstage
  obtain ⟨id, hid⟩ := List.exists_mem_of_ne_nil _ hnonempty
  have hpending := h.pending id ((held_iff hget).mpr (.inl hid))
  have hheld := (haccounted id (h.group.pending_given id hpending)).2 hpending
  exact h.not_held_eraseIdx hget hid hheld

lemma accounted_stop_iff (hget : w.drains[i]? = some d) (hnil : d.batch = []) :
    Accounted (w.stop i) ↔ Accounted w := by
  have hheld : ∀ id, Held (w.drains.eraseIdx i) id ↔ Held w.drains id := fun _ =>
    held_eraseIdx_of_nil hget hnil
  constructor
  · intro h id hid
    obtain ⟨hor, hpending⟩ := h id hid
    exact ⟨hor.imp_right (hheld id).mp, fun hp => (hheld id).mp (hpending hp)⟩
  · intro h id hid
    obtain ⟨hor, hpending⟩ := h id hid
    exact ⟨hor.imp_right (hheld id).mpr, fun hp => (hheld id).mpr (hpending hp)⟩

lemma Sound.accounted_read_iff (h : Sound w) (haccounted : Accounted w) {consumed : ℕ}
    (hget : w.drains[i]? = some ⟨consumed, .reading⟩) (answer : Answer) :
    Accounted (w.readBatch settings i ⟨consumed, .reading⟩ answer) ↔
      careful policy stream settings w (.read i answer) = true := by
  cases answer with
  | refused =>
    have hcareful : careful policy stream settings w (.read i .refused) = true := rfl
    rw [hcareful, World.readBatch]
    exact iff_of_true ((accounted_stop_iff hget rfl).mpr haccounted) rfl
  | lost =>
    rw [careful, hget, World.readBatch]
    dsimp only
    set count := Drain.count settings ⟨consumed, .reading⟩
    rw [List.isEmpty_iff]
    constructor
    · intro hlost
      -- what was given out is in nobody's hands
      by_contra hne
      obtain ⟨id, hid⟩ := List.exists_mem_of_ne_nil _ hne
      have hheld := (hlost id (List.mem_append_right _ hid)).2 (List.mem_append_right _ hid)
      have hold := (held_eraseIdx_of_nil hget rfl).mp hheld
      have hgiven := h.group.pending_given id (h.pending id hold)
      exact h.group.notMem_give_of_given hgiven count hid
    · intro hnil id hid
      have hgiven : id ∈ w.group.given := by
        rcases List.mem_append.mp hid with hold | hnew
        · exact hold
        · rw [hnil] at hnew
          cases hnew
      obtain ⟨hor, hpending⟩ := haccounted id hgiven
      refine ⟨hor.imp_right (held_eraseIdx_of_nil hget rfl).mpr, fun hp => ?_⟩
      refine (held_eraseIdx_of_nil hget rfl).mpr (hpending ?_)
      rcases List.mem_append.mp hp with hold | hnew
      · exact hold
      · rw [hnil] at hnew
        cases hnew
  | entries =>
    have hcareful : careful policy stream settings w (.read i .entries) = true := rfl
    rw [hcareful, World.readBatch]
    refine iff_of_true ?_ rfl
    dsimp only
    split
    · exact (accounted_stop_iff hget rfl).mpr haccounted
    · set batch := w.group.next (Drain.count settings ⟨consumed, .reading⟩)
      have hkeep : ∀ {x}, Held w.drains x →
          Held (w.drains.set i ⟨consumed + batch.length, .read batch⟩) x := fun hold =>
        (held_set hget).mpr (.inr ((held_eraseIdx_of_nil hget rfl).mpr hold))
      have htaken : ∀ {x}, x ∈ batch →
          Held (w.drains.set i ⟨consumed + batch.length, .read batch⟩) x := fun hx =>
        (held_set hget).mpr (.inl hx)
      intro id hid
      rcases List.mem_append.mp hid with hold | hnew
      · obtain ⟨hor, hpending⟩ := haccounted id hold
        refine ⟨hor.imp_right hkeep, fun hp => ?_⟩
        rcases List.mem_append.mp hp with hp | hnew
        · exact hkeep (hpending hp)
        · exact htaken hnew
      · exact ⟨.inr (htaken hnew), fun _ => htaken hnew⟩

lemma persistLocationEvents_isSome (policy : Policy) (stream : EntryId → Fields) (now : ℕ)
    (store : Store) (batch : List EntryId) :
    (persistLocationEvents policy now stream store batch).isSome =
      (parseAll policy stream batch).isSome := by
  rw [persistLocationEvents, Option.isSome_map]

lemma Sound.accounted_persist_iff (h : Sound w) (haccounted : Accounted w) {consumed : ℕ}
    {batch : List EntryId} (hget : w.drains[i]? = some ⟨consumed, .read batch⟩) (commits : Bool) :
    Accounted (w.persistBatch policy stream i now consumed batch commits) ↔
      (commits && (parseAll policy stream batch).isSome) = true := by
  have hstops : ¬ Accounted (w.stop i) :=
    h.not_accounted_stop hget (show Stage.read batch ≠ .reading by simp)
  have hsome := persistLocationEvents_isSome policy stream now w.store batch
  rw [World.persistBatch]
  cases hpersist : persistLocationEvents policy now stream w.store batch with
  | none =>
    rw [hpersist] at hsome
    rw [← hsome]
    refine iff_of_false hstops ?_
    simp
  | some result =>
    obtain ⟨points, verdicts⟩ := result
    rw [hpersist] at hsome
    rw [← hsome, Option.isSome_some, Bool.and_true]
    dsimp only
    split
    · rename_i hcommits
      refine iff_of_true ?_ hcommits
      have hheld : ∀ {x}, Held w.drains x →
          Held (w.drains.set i ⟨consumed, .persisted batch⟩) x := fun hold =>
        (held_set hget).mpr ((held_iff hget).mp hold)
      intro id hid
      obtain ⟨hor, hpending⟩ := haccounted id hid
      refine ⟨?_, fun hp => hheld (hpending hp)⟩
      rcases hor with hhandled | hold
      · refine .inl ?_
        rw [World.Handled, List.map_append]
        exact List.mem_append_left _ hhandled
      · exact .inr (hheld hold)
    · rename_i hfails
      exact iff_of_false hstops hfails

lemma Sound.accounted_ack_iff (h : Sound w) (haccounted : Accounted w) {consumed : ℕ}
    {batch : List EntryId} (hget : w.drains[i]? = some ⟨consumed, .persisted batch⟩)
    (answers : Bool) :
    Accounted { w with
        group := if answers then w.group.ack batch else w.group
        drains := w.drains.set i ⟨consumed, .reading⟩ } ↔ answers = true := by
  have hheld : ∀ {x}, Held (w.drains.set i ⟨consumed, .reading⟩) x ↔
      Held (w.drains.eraseIdx i) x := by
    intro x
    rw [held_set hget]
    exact or_iff_right fun hnil => by cases hnil
  cases answers with
  | false =>
    refine iff_of_false (fun hlost => ?_) Bool.false_ne_true
    have hnonempty : batch ≠ [] := (h.nonempty _ (List.mem_of_getElem? hget)).resolve_left
      (show Stage.persisted batch ≠ .reading by simp)
    obtain ⟨id, hid⟩ := List.exists_mem_of_ne_nil _ hnonempty
    have hpending := h.pending id ((held_iff hget).mpr (.inl hid))
    have hstill := (hlost id (h.group.pending_given id hpending)).2 hpending
    exact h.not_held_eraseIdx hget hid (hheld.mp hstill)
  | true =>
    refine iff_of_true (fun id hid => ?_) rfl
    obtain ⟨hor, hpending⟩ := haccounted id hid
    refine ⟨?_, fun hp => ?_⟩
    · rcases hor with hhandled | hold
      · exact .inl hhandled
      · rcases (held_iff hget).mp hold with hbatch | hrest
        · exact .inl (h.committed _ (List.mem_of_getElem? hget) batch rfl id hbatch)
        · exact .inr (hheld.mpr hrest)
    · obtain ⟨hp, hnew⟩ := ConsumerGroup.mem_pending_ack.mp hp
      exact hheld.mpr (((held_iff hget).mp (hpending hp)).resolve_left hnew)

lemma Sound.accounted_step_iff (h : Sound w) (haccounted : Accounted w) (a : DrainAct) :
    Accounted (drainStep policy stream settings w a) ↔
      careful policy stream settings w a = true := by
  -- a read, a persist, an ack and a death can lose an entry; the others cannot
  cases a with
  | add id =>
    refine iff_of_true ?_ rfl
    rw [drainStep]
    split
    · exact haccounted
    · exact haccounted
  | trim n => exact iff_of_true haccounted rfl
  | start =>
    refine iff_of_true ?_ rfl
    rw [drainStep]
    split
    · intro id hid
      obtain ⟨hor, hpending⟩ := haccounted id hid
      exact ⟨hor.imp_right held_append_reading.mpr,
        fun hp => held_append_reading.mpr (hpending hp)⟩
    · exact haccounted
  | read i answer =>
    rw [drainStep]
    split
    · rename_i consumed hget
      exact h.accounted_read_iff haccounted hget answer
    · rename_i hother
      refine iff_of_true haccounted ?_
      cases answer with
      | entries => rfl
      | refused => rfl
      | lost =>
        rw [careful]
        split
        · rename_i consumed hget
          exact absurd hget (hother consumed)
        · rfl
  | persist i now commits =>
    rw [drainStep]
    split
    · rename_i consumed batch hget
      rw [careful, hget]
      exact h.accounted_persist_iff haccounted hget commits
    · rename_i hother
      refine iff_of_true haccounted ?_
      rw [careful]
      split
      · rename_i consumed batch hget
        exact absurd hget (hother consumed batch)
      · rfl
  | ack i answers =>
    rw [drainStep]
    split
    · rename_i consumed batch hget
      rw [careful, hget]
      exact h.accounted_ack_iff haccounted hget answers
    · rename_i hother
      refine iff_of_true haccounted ?_
      rw [careful]
      split
      · rename_i consumed batch hget
        exact absurd hget (hother consumed batch)
      · rfl
  | die i =>
    rw [drainStep, careful]
    cases hget : w.drains[i]? with
    | none =>
      rw [World.stop, List.eraseIdx_of_length_le (List.getElem?_eq_none_iff.mp hget)]
      exact iff_of_true haccounted rfl
    | some d =>
      rw [Option.all_some, decide_eq_true_eq]
      -- a worker that has not read yet holds nothing when it dies
      by_cases hreading : d.stage = .reading
      · have hnil : d.batch = [] := by rw [Drain.batch, hreading]
        exact iff_of_true ((accounted_stop_iff hget hnil).mpr haccounted) hreading
      · exact iff_of_false (h.not_accounted_stop hget hreading) hreading
  | saveTrip t => exact iff_of_true haccounted rfl

/-! ## Orphans -/

/-- The entry is pending, in nobody's hands. -/
def Orphan (w : World) (id : EntryId) : Prop := id ∈ w.group.pending ∧ ¬ Held w.drains id

instance (w : World) (id : EntryId) : Decidable (Orphan w id) :=
  inferInstanceAs (Decidable (id ∈ w.group.pending ∧ ¬ Held w.drains id))

lemma not_held_stop (hid : ¬ Held w.drains id) : ¬ Held (w.stop i).drains id :=
  fun ⟨d, hd, hmem⟩ => hid ⟨d, List.mem_of_mem_eraseIdx hd, hmem⟩

lemma not_held_set (hget : w.drains[i]? = some d) {d' : Drain} (hid : ¬ Held w.drains id)
    (hbatch : id ∉ d'.batch) : ¬ Held (w.drains.set i d') id := by
  rw [held_set hget]
  rintro (hmem | hrest)
  · exact hbatch hmem
  · exact hid ((held_iff hget).mpr (.inr hrest))

lemma Sound.orphan_step (h : Sound w) (horphan : Orphan w id) (a : DrainAct) :
    Orphan (drainStep policy stream settings w a) id := by
  obtain ⟨hpending, hfree⟩ := horphan
  have hgiven := h.group.pending_given id hpending
  cases a with
  | add x =>
    rw [drainStep]
    split
    · exact ⟨hpending, hfree⟩
    · exact ⟨hpending, hfree⟩
  | trim n => exact ⟨hpending, hfree⟩
  | start =>
    rw [drainStep]
    split
    · exact ⟨hpending, fun hheld => hfree (held_append_reading.mp hheld)⟩
    · exact ⟨hpending, hfree⟩
  | read i answer =>
    rw [drainStep]
    split
    · rename_i consumed hget
      cases answer with
      | refused => exact ⟨hpending, not_held_stop hfree⟩
      -- `>` reads only entries never given before
      | lost => exact ⟨List.mem_append_left _ hpending, not_held_stop hfree⟩
      | entries =>
        rw [World.readBatch]
        dsimp only
        split
        · exact ⟨hpending, not_held_stop hfree⟩
        · exact ⟨List.mem_append_left _ hpending,
            not_held_set hget hfree (h.group.notMem_give_of_given hgiven _)⟩
    · exact ⟨hpending, hfree⟩
  | persist i now commits =>
    rw [drainStep]
    split
    · rename_i consumed batch hget
      rw [World.persistBatch]
      split
      · split
        · refine ⟨hpending, not_held_set hget hfree fun hmem => hfree ?_⟩
          exact (held_iff hget).mpr (.inl hmem)
        · exact ⟨hpending, not_held_stop hfree⟩
      · exact ⟨hpending, not_held_stop hfree⟩
    · exact ⟨hpending, hfree⟩
  | ack i answers =>
    rw [drainStep]
    split
    · rename_i consumed batch hget
      refine ⟨?_, not_held_set hget hfree fun hmem => by cases hmem⟩
      dsimp only
      split
      · refine ConsumerGroup.mem_pending_ack.mpr ⟨hpending, fun hmem => hfree ?_⟩
        exact (held_iff hget).mpr (.inl hmem)
      · exact hpending
    · exact ⟨hpending, hfree⟩
  | die i => exact ⟨hpending, not_held_stop hfree⟩
  | saveTrip t => exact ⟨hpending, hfree⟩

/-- An orphan stays one in every run. -/
theorem orphan_forever (h : Sound w) (horphan : Orphan w id) (more : List DrainAct) :
    Orphan (run (drainStep policy stream settings) w more) id :=
  (invariant (I := fun w => Sound w ∧ Orphan w id)
    (fun _ a hw => ⟨sound_step hw.1 a, hw.1.orphan_step hw.2 a⟩) more ⟨h, horphan⟩).2

end Steps

/-! ## Runs -/

section Runs

variable (policy : Policy) (stream : EntryId → Fields) (settings : DrainSettings)
  (trips : Table Trip.id)

lemma sound_initial : Sound (.initial trips) := by
  constructor
  · exact ConsumerGroup.valid_empty
  · exact List.nodup_nil
  · rintro id ⟨d, hd, -⟩
    cases hd
  · exact fun d hd => by cases hd
  · exact fun d hd => by cases hd
  · exact fun x hx => by cases hx

/-- Every entry that was read is handled or in hand, and the pending ones are in hand, all along a
run exactly when no worker dies or fails between reading a batch and acknowledging it.  What the
writer says it stored is stored.  And an entry that is left pending in nobody's hands stays so,
whatever drains come later. -/
theorem drained_iff_careful (acts : List DrainAct) :
    ((∀ bs, bs <+: acts → Accounted (run (drainStep policy stream settings) (.initial trips) bs)) ↔
      Guarded (drainStep policy stream settings)
        (fun w a => careful policy stream settings w a = true) (.initial trips) acts) ∧
    (∀ x ∈ (run (drainStep policy stream settings) (.initial trips) acts).handled, ∀ p,
      x.2 = Verdict.created p →
        p.key ∈ (run (drainStep policy stream settings) (.initial trips) acts).store.points.rows.map
          Point.key) ∧
    ∀ id, Orphan (run (drainStep policy stream settings) (.initial trips) acts) id →
      ∀ more, Orphan (run (drainStep policy stream settings) (.initial trips) (acts ++ more)) id := by
  have hsound : Sound (run (drainStep policy stream settings) (.initial trips) acts) :=
    invariant (I := Sound) (fun _ a h => sound_step h a) acts (sound_initial trips)
  refine ⟨?_, hsound.stored, fun id horphan more => ?_⟩
  · exact forall_prefix_iff_guarded (I := Sound) (J := Accounted)
      (fun _ a h => sound_step h a) (fun _ a h haccounted => h.accounted_step_iff haccounted a)
      (sound_initial trips) (fun id hid => by cases hid)
  · rw [run_append]
    exact orphan_forever hsound horphan more

end Runs

/-! ## A worker that dies -/

def tens : DrainSettings := ⟨true, 10, 100⟩

/-- Two positions are read, stored and acknowledged. -/
def allTheWay : List DrainAct :=
  [.add (entryAt 0), .add (entryAt 1), .start, .read 0 .entries, .persist 0 0 true, .ack 0 true]

/-- One of the two is stored, both are handled, and nothing is pending. -/
theorem drained_all_the_way :
    let w := run (drainStep documented northward tens) (.initial onTheWay) allTheWay
    w.group.pending = [] ∧ w.handled.map Prod.fst = [entryAt 0, entryAt 1] ∧
      w.store.points.rows.map Point.sourceEventId = [entryAt 0] ∧
      ∀ bs, bs <+: allTheWay →
        Accounted (run (drainStep documented northward tens) (.initial onTheWay) bs) :=
  ⟨by decide +kernel, by decide +kernel, by decide +kernel,
    (drained_iff_careful documented northward tens onTheWay allTheWay).1.mpr (by decide +kernel)⟩

/-- Two drivers' positions are read by a drain, whose worker dies before it stores them; the next
drain finds nothing to read. -/
def diesOnTheWay : List DrainAct :=
  [.add (entryAt 0), .add (entryAt 1), .start, .read 0 .entries, .die 0, .start, .read 0 .entries]

/-- The two entries are pending, handled by nobody, in nobody's hands and out of reach of the next
drain. -/
theorem left_pending :
    let w := run (drainStep documented northward tens) (.initial onTheWay) diesOnTheWay
    ¬ Accounted w ∧ w.group.pending = [entryAt 0, entryAt 1] ∧ w.group.unread = [] ∧
      w.handled = [] ∧ w.drains = [] := by
  decide +kernel

end SaaradhiGo.Trail
