/-
A trail whose entries come more than once.

A point is stored once for an entry, but an entry that was refused leaves nothing behind: when it
comes again it is judged by the last point that the trip has then, and may be kept after all
(`refused_then_kept`).  The points are those of the first deliveries as long as no refused entry is
kept when it comes again, and each entry that comes for the first time is judged by the latest point
of its trip, and is later when it is kept (`steady`).
-/
import SaaradhiGo.Lib.Transition
import SaaradhiGo.Trail.Points
import Mathlib.Data.List.Chain

namespace SaaradhiGo.Trail

open Python (Decimal)
open Transition

/-! ## Deliveries -/

/-- The writer's world, and the entries that were delivered to it. -/
structure Delivery where
  store : Store
  delivered : List EntryId

/-- What can happen. -/
inductive Act where
  | deliver (now : ℕ) (ids : List EntryId)
  | saveTrip (t : Trip)
deriving DecidableEq

section Deliveries

variable (policy : Policy) (stream : EntryId → Fields)

/-- One step; a batch that raises leaves nothing. -/
def step (s : Delivery) : Act → Delivery
  | .deliver now ids =>
      match persistLocationEvents policy now stream s.store ids with
      | some (points, _) =>
          { store := { s.store with points }, delivered := s.delivered ++ ids }
      | none => s
  | .saveTrip t => { s with store := { s.store with trips := s.store.trips.put t } }

def fresh (delivered : List EntryId) : List EntryId → List EntryId
  | [] => []
  | id :: ids =>
      if id ∈ delivered then fresh delivered ids else id :: fresh (id :: delivered) ids

/-- The same run without redeliveries. -/
def firsts (delivered : List EntryId) : List Act → List Act
  | [] => []
  | .deliver now ids :: acts =>
      let after := if (parseAll policy stream ids).isSome then delivered ++ ids else delivered
      .deliver now (fresh delivered ids) :: firsts after acts
  | .saveTrip t :: acts => .saveTrip t :: firsts delivered acts

def eventOf (id : EntryId) : Option Event := (parseEntry policy id (stream id)).join

def placeOf (id : EntryId) : Option Place := (eventOf policy stream id).map Event.place

/-- The points in the middle of a batch: what was stored before it, and what is to be created, with
the positions as they were sent. -/
def Loop.points (stored : Table Point.key) (loop : Loop) : Table Point.key :=
  loop.toCreate.foldl insertIgnore stored

/-- The loop knows the latest point of the event's trip, and how many points there are. -/
def current (trips : Table Trip.id) (now : ℕ) (stored : Table Point.key) (loop : Loop)
    (e : Event) : Bool :=
  (tripForEvent (candidateTrips policy trips now e.driver) e.id.recordedAt).all fun t =>
    loop.lastPoints t.id = lastPoint (loop.points stored).rows t.id &&
      loop.storedCounts t.id = (pointsOf (loop.points stored).rows t.id).length

/-- The entry is later than the points of the trip, by less than two thousand million
milliseconds. -/
def later (points : List Point) (trip : ℕ) (id : EntryId) : Bool :=
  (pointsOf points trip).all fun q =>
    q.recordedAt < id.recordedAt && id.ms < q.sourceEventId.ms + 2000000000

/-- An entry that comes again is refused again, or has its point; one that comes for the first time
is judged by the latest point of its trip, and is later when it is kept. -/
def steadyEntry (trips : Table Trip.id) (now : ℕ) (stored : Table Point.key) (loop : Loop)
    (delivered : List EntryId) (id : EntryId) : Bool :=
  match eventOf policy stream id with
  | none => true
  | some e =>
      match judge policy trips now loop e with
      | .created p =>
          if id ∈ delivered then decide (p.key ∈ (loop.points stored).rows.map Point.key)
          else current policy trips now stored loop e && later (loop.points stored).rows p.trip id
      | _ => decide (id ∈ delivered) || current policy trips now stored loop e

/-- All entries of a batch are so, each at its turn. -/
def steadyBatch (trips : Table Trip.id) (now : ℕ) (stored : Table Point.key) :
    Loop → List EntryId → List EntryId → Bool
  | _, _, [] => true
  | loop, delivered, id :: ids =>
      steadyEntry policy stream trips now stored loop delivered id &&
        match eventOf policy stream id with
        | none => steadyBatch trips now stored loop (id :: delivered) ids
        | some e =>
            steadyBatch trips now stored (loop.next policy trips now e) (id :: delivered) ids

/-- The condition on a step. -/
def steady (s : Delivery) : Act → Bool
  | .deliver now ids =>
      (parseAll policy stream ids).isNone ||
        steadyBatch policy stream s.store.trips now s.store.points (.start s.store.points.rows)
          s.delivered ids
  | .saveTrip _ => true

end Deliveries

/-! ## Points -/

section Points

variable {policy : Policy} {trips : Table Trip.id} {now : ℕ} {stored : Table Point.key}
  {loop : Loop} {e : Event} {p : Point} {points : List Point} {trip : ℕ}

lemma mem_pointsOf : p ∈ pointsOf points trip ↔ p ∈ points ∧ p.trip = trip := by
  rw [pointsOf, List.mem_filter, decide_eq_true_eq]

lemma pointsOf_append (points : List Point) (p : Point) (trip : ℕ) :
    pointsOf (points ++ [p]) trip = pointsOf points trip ++ if p.trip = trip then [p] else [] := by
  rw [pointsOf, pointsOf, List.filter_append, List.filter_cons, List.filter_nil]
  congr 1
  by_cases heq : p.trip = trip
  · rw [if_pos heq, if_pos (decide_eq_true heq)]
  · rw [if_neg heq, if_neg fun htrue => heq (of_decide_eq_true htrue)]

lemma mem_of_foldl_last {best : Option Point}
    (h : points.foldl
      (fun best p => if best.all fun b => b.recordedAt < p.recordedAt then some p else best)
      best = some p) : best = some p ∨ p ∈ points := by
  induction points generalizing best with
  | nil => exact .inl h
  | cons q points ih =>
    rw [List.foldl_cons] at h
    rcases ih h with hbest | hmem
    · split at hbest
      · cases hbest
        exact .inr List.mem_cons_self
      · exact .inl hbest
    · exact .inr (List.mem_cons_of_mem q hmem)

lemma mem_of_lastPoint (h : lastPoint points trip = some p) : p ∈ pointsOf points trip :=
  (mem_of_foldl_last h).resolve_left fun hnone => by cases hnone

lemma lastPoint_append_self (h : ∀ q ∈ pointsOf points p.trip, q.recordedAt < p.recordedAt) :
    lastPoint (points ++ [p]) p.trip = some p := by
  rw [lastPoint, pointsOf_append, if_pos rfl, List.foldl_append, List.foldl_cons, List.foldl_nil,
    if_pos]
  rw [Option.all_eq_true]
  intro q hq
  exact decide_eq_true (h q (mem_of_lastPoint hq))

lemma lastPoint_append_of_ne (h : p.trip ≠ trip) :
    lastPoint (points ++ [p]) trip = lastPoint points trip := by
  rw [lastPoint, pointsOf_append, if_neg h, List.append_nil, lastPoint]

lemma rows_insertIgnore_of_notMem {points : Table Point.key} (h : p.key ∉ points.rows.map Point.key) :
    (insertIgnore points p).rows = points.rows ++ [p] := by
  rw [insertIgnore]
  cases hinsert : points.insert? p with
  | none => exact absurd (Table.insert?_eq_none_iff.mp hinsert) h
  | some after => exact (Table.rows_of_insert? hinsert).1

lemma insertIgnore_of_mem {points : Table Point.key} (h : p.key ∈ points.rows.map Point.key) :
    insertIgnore points p = points := by
  rw [insertIgnore, Table.insert?_eq_none_iff.mpr h, Option.getD_none]

lemma eq_of_rows {t u : Table Point.key} (h : t.rows = u.rows) : t = u := by
  cases t
  cases u
  cases h
  rfl

lemma sevenPlaces_sevenPlaces (q : ℚ) : sevenPlaces (sevenPlaces q) = sevenPlaces q := by
  have hscaled : sevenPlaces q * 10 ^ 7 = (Rounding.halfUp (q * 10 ^ 7) : ℤ) :=
    div_mul_cancel₀ _ (by norm_num)
  rw [sevenPlaces, hscaled, Rounding.halfUp_intCast, sevenPlaces]

lemma Place.stored_stored (place : Place) : place.stored.stored = place.stored := by
  rw [Place.stored, Place.stored, sevenPlaces_sevenPlaces, sevenPlaces_sevenPlaces]

lemma key_comp_stored : Point.key ∘ Point.stored = Point.key := rfl

/-- The rows that are written are the points with the positions that the columns keep. -/
lemma rows_bulkCreate {points sent : Table Point.key} (h : points.rows = sent.rows.map Point.stored)
    (toCreate : List Point) :
    (bulkCreate points toCreate).rows = (toCreate.foldl insertIgnore sent).rows.map Point.stored := by
  induction toCreate generalizing points sent with
  | nil => exact h
  | cons p toCreate ih =>
    have hkeys : points.rows.map Point.key = sent.rows.map Point.key := by
      rw [h, List.map_map, key_comp_stored]
    have hinsert : (insertIgnore points p.stored).rows =
        (insertIgnore sent p).rows.map Point.stored := by
      by_cases hmem : p.key ∈ sent.rows.map Point.key
      · have hmem' : p.stored.key ∈ points.rows.map Point.key := hkeys ▸ hmem
        rw [insertIgnore_of_mem hmem, insertIgnore_of_mem hmem', h]
      · have hmem' : p.stored.key ∉ points.rows.map Point.key := hkeys ▸ hmem
        rw [rows_insertIgnore_of_notMem hmem, rows_insertIgnore_of_notMem hmem', h,
          List.map_append, List.map_singleton]
    exact ih hinsert

lemma pointsOf_map_stored (points : List Point) (trip : ℕ) :
    pointsOf (points.map Point.stored) trip = (pointsOf points trip).map Point.stored := by
  rw [pointsOf, pointsOf, List.filter_map]
  rfl

lemma lastPoint_map_stored (points : List Point) (trip : ℕ) :
    lastPoint (points.map Point.stored) trip = (lastPoint points trip).map Point.stored := by
  rw [lastPoint, lastPoint, pointsOf_map_stored]
  have hfold : ∀ (l : List Point) (best : Option Point),
      (l.map Point.stored).foldl
        (fun best p => if best.all fun b => b.recordedAt < p.recordedAt then some p else best)
        (best.map Point.stored) =
      (l.foldl (fun best p => if best.all fun b => b.recordedAt < p.recordedAt then some p else best)
        best).map Point.stored := by
    intro l
    induction l with
    | nil => exact fun _ => rfl
    | cons p l ih =>
      intro best
      rw [List.map_cons, List.foldl_cons, List.foldl_cons, ← ih]
      congr 1
      have hall : ((best.map Point.stored).all fun b => b.recordedAt < p.stored.recordedAt) =
          best.all fun b => b.recordedAt < p.recordedAt := by
        cases best with
        | none => rfl
        | some b => rfl
      rw [hall]
      split
      · rfl
      · rfl
  exact hfold _ none

end Points

/-! ## The loop over a batch -/

section Loop

variable {policy : Policy} {stream : EntryId → Fields} {trips : Table Trip.id} {now : ℕ}
  {stored : Table Point.key} {loop loop' : Loop} {e : Event} {p : Point}

lemma toCreate_next (h : judge policy trips now loop e = .created p) :
    (loop.next policy trips now e).toCreate = loop.toCreate ++ [p] := by
  rw [Loop.next, h]

lemma points_next (h : judge policy trips now loop e = .created p) :
    (loop.next policy trips now e).points stored = insertIgnore (loop.points stored) p := by
  rw [Loop.points, toCreate_next h, List.foldl_append, List.foldl_cons, List.foldl_nil, Loop.points]

lemma next_of_not_created (h : ∀ p, judge policy trips now loop e ≠ .created p) :
    (loop.next policy trips now e).toCreate = loop.toCreate ∧
      (loop.next policy trips now e).lastPoints = loop.lastPoints ∧
      (loop.next policy trips now e).storedCounts = loop.storedCounts := by
  rw [Loop.next]
  split
  · rename_i p hcreated
    exact absurd hcreated (h p)
  · exact ⟨rfl, rfl, rfl⟩

lemma judge_eq_created (h : judge policy trips now loop e = .created p) :
    ∃ t, tripForEvent (candidateTrips policy trips now e.driver) e.id.recordedAt = some t ∧
      p.trip = t.id ∧ p.place = e.place ∧ p.recordedAt = e.id.recordedAt ∧
      p.sequence = e.id.sequence ∧ p.sourceEventId = e.id ∧
      (shouldKeep policy ⟨e.place, e.id.recordedAt, none, false⟩ (loop.lastPoints t.id)).keeps =
        true := by
  rw [judge] at h
  split at h
  · cases h
  · rename_i t htrip
    dsimp only at h
    split at h
    · cases h
    · rename_i hkeeps
      split at h
      · cases h
      · cases h
        rw [Bool.not_eq_true', Bool.not_eq_false] at hkeeps
        exact ⟨t, htrip, rfl, rfl, rfl, rfl, rfl, hkeeps⟩

/-- The verdict depends on the last point and the number of points of the event's trip. -/
lemma judge_congr
    (h : ∀ t, tripForEvent (candidateTrips policy trips now e.driver) e.id.recordedAt = some t →
      loop.lastPoints t.id = loop'.lastPoints t.id ∧
        loop.storedCounts t.id = loop'.storedCounts t.id) :
    judge policy trips now loop e = judge policy trips now loop' e := by
  rw [judge, judge]
  cases htrip : tripForEvent (candidateTrips policy trips now e.driver) e.id.recordedAt with
  | none => rfl
  | some t =>
    obtain ⟨hlast, hcount⟩ := h t htrip
    dsimp only
    rw [hlast, hcount]

/-- Two points of a trip, one after the other, are apart: the position that was sent for the second
one is the distance from that of the first one, as it was sent or as it is stored. -/
def Apart (policy : Policy) (stream : EntryId → Fields) (p q : Point) : Prop :=
  p.recordedAt + policy.minInterval ≤ q.recordedAt ∧
    ∃ x y, placeOf policy stream p.sourceEventId = some x ∧
      placeOf policy stream q.sourceEventId = some y ∧
      (policy.minDistanceMetres ≤ policy.haversineMetres x y ∨
        policy.minDistanceMetres ≤ policy.haversineMetres x.stored y)

lemma apart_of_keeps {place : Place} {recordedAt : ℕ} {last : Point}
    (hkeeps : (shouldKeep policy ⟨place, recordedAt, none, false⟩ (some last)).keeps = true)
    (hlater : last.recordedAt < recordedAt) :
    last.recordedAt + policy.minInterval ≤ recordedAt ∧
      policy.minDistanceMetres ≤ policy.haversineMetres last.place place := by
  rw [shouldKeep] at hkeeps
  split at hkeeps
  · cases hkeeps
  · dsimp only at hkeeps
    rw [if_neg Bool.false_ne_true] at hkeeps
    split at hkeeps
    · cases hkeeps
    · rename_i hsoon
      split at hkeeps
      · cases hkeeps
      · rename_i hclose
        rw [not_and, not_lt] at hsoon
        have hinterval := hsoon (Nat.le_of_lt hlater)
        exact ⟨by omega, not_lt.mp hclose⟩

/-! ## Trails in order -/

/-- The points of every trip are in the order of time, within two thousand million milliseconds
of each other, and each is apart from the one before; every point has the position that was sent,
or what is stored of it. -/
structure Ordered (policy : Policy) (stream : EntryId → Fields) (points : List Point) : Prop where
  stamped : ∀ p ∈ points, p.recordedAt = p.sourceEventId.recordedAt ∧
    p.sequence = p.sourceEventId.sequence
  placed : ∀ p ∈ points, ∃ x, placeOf policy stream p.sourceEventId = some x ∧
    (p.place = x ∨ p.place = x.stored)
  increasing : ∀ trip, (pointsOf points trip).Pairwise fun p q =>
    p.recordedAt < q.recordedAt ∧ q.sourceEventId.ms < p.sourceEventId.ms + 2000000000
  apart : ∀ trip, (pointsOf points trip).IsChain (Apart policy stream)
  last : ∀ trip, lastPoint points trip = (pointsOf points trip).getLast?

lemma ordered_nil (policy : Policy) (stream : EntryId → Fields) : Ordered policy stream [] := by
  constructor
  · exact fun p hp => by cases hp
  · exact fun p hp => by cases hp
  · exact fun _ => List.Pairwise.nil
  · exact fun _ => List.IsChain.nil
  · exact fun _ => rfl

/-- Entries within two thousand million milliseconds of each other have their own numbers. -/
lemma Ordered.nodup_sequence {points : List Point} (h : Ordered policy stream points) (trip : ℕ) :
    ((pointsOf points trip).map Point.sequence).Nodup := by
  rw [List.Nodup, List.pairwise_map]
  refine List.Pairwise.imp_of_mem ?_ (h.increasing trip)
  rintro p q hp hq ⟨hlt, hnear⟩ heq
  obtain ⟨hpt, hps⟩ := h.stamped p (mem_pointsOf.mp hp).1
  obtain ⟨hqt, hqs⟩ := h.stamped q (mem_pointsOf.mp hq).1
  rw [hpt, hqt, EntryId.recordedAt, EntryId.recordedAt] at hlt
  rw [hps, hqs, EntryId.sequence, EntryId.sequence] at heq
  omega

lemma Ordered.append {points : List Point} (h : Ordered policy stream points)
    (hevent : eventOf policy stream e.id = some e)
    (hjudge : judge policy trips now loop e = .created p)
    (hlast : loop.lastPoints p.trip = lastPoint points p.trip)
    (hlater : later points p.trip e.id = true) : Ordered policy stream (points ++ [p]) := by
  obtain ⟨t, -, htrip, hplace, hat, hsequence, hid, hkeeps⟩ := judge_eq_created hjudge
  have hsent : placeOf policy stream p.sourceEventId = some e.place := by
    rw [hid, placeOf, hevent]
    rfl
  rw [later, List.all_eq_true] at hlater
  have hbefore : ∀ q ∈ pointsOf points p.trip, q.recordedAt < p.recordedAt ∧
      p.sourceEventId.ms < q.sourceEventId.ms + 2000000000 := by
    intro q hq
    have hq' := hlater q hq
    rw [Bool.and_eq_true, decide_eq_true_eq, decide_eq_true_eq] at hq'
    rw [hat, hid]
    exact hq'
  refine ⟨fun q hq => ?_, fun q hq => ?_, fun trip => ?_, fun trip => ?_, fun trip => ?_⟩
  · rcases List.mem_append.mp hq with hold | hnew
    · exact h.stamped q hold
    · rw [List.mem_singleton.mp hnew, hat, hsequence, hid]
      exact ⟨rfl, rfl⟩
  · rcases List.mem_append.mp hq with hold | hnew
    · exact h.placed q hold
    · rw [List.mem_singleton.mp hnew]
      exact ⟨e.place, hsent, .inl hplace⟩
  · rw [pointsOf_append]
    split
    · rename_i heq
      rw [List.pairwise_append]
      refine ⟨h.increasing trip, List.pairwise_singleton _ _, fun q hq r hr => ?_⟩
      rw [List.mem_singleton.mp hr]
      exact hbefore q (heq ▸ hq)
    · rw [List.append_nil]
      exact h.increasing trip
  · rw [pointsOf_append]
    split
    · rename_i heq
      rw [List.isChain_append]
      refine ⟨h.apart trip, List.isChain_singleton _, fun q hq r hr => ?_⟩
      rw [List.head?_cons, Option.mem_def, Option.some.injEq] at hr
      subst hr
      subst heq
      -- the last point is what the candidate was judged by
      rw [Option.mem_def, ← h.last p.trip] at hq
      rw [← htrip, hlast, hq] at hkeeps
      have hmem := mem_of_lastPoint hq
      have hlt := (hbefore q hmem).1
      rw [hat] at hlt
      obtain ⟨hinterval, hdistance⟩ := apart_of_keeps hkeeps hlt
      obtain ⟨x, hx, hqplace⟩ := h.placed q (mem_pointsOf.mp hmem).1
      refine ⟨by rw [hat]; exact hinterval, x, e.place, hx, hsent, ?_⟩
      rcases hqplace with hexact | hrounded
      · exact .inl (hexact ▸ hdistance)
      · exact .inr (hrounded ▸ hdistance)
    · rw [List.append_nil]
      exact h.apart trip
  · by_cases heq : p.trip = trip
    · subst heq
      rw [lastPoint_append_self fun q hq => (hbefore q hq).1, pointsOf_append, if_pos rfl,
        List.getLast?_append, List.getLast?_singleton]
      rfl
    · rw [lastPoint_append_of_ne heq, pointsOf_append, if_neg heq, List.append_nil]
      exact h.last trip

/-- The rows keep the order. -/
lemma Ordered.map_stored {points : List Point} (h : Ordered policy stream points) :
    Ordered policy stream (points.map Point.stored) := by
  refine ⟨fun p hp => ?_, fun p hp => ?_, fun trip => ?_, fun trip => ?_, fun trip => ?_⟩
  · obtain ⟨q, hq, rfl⟩ := List.mem_map.mp hp
    exact h.stamped q hq
  · obtain ⟨q, hq, rfl⟩ := List.mem_map.mp hp
    obtain ⟨x, hx, hplace⟩ := h.placed q hq
    refine ⟨x, hx, .inr ?_⟩
    show q.place.stored = x.stored
    rcases hplace with hexact | hrounded
    · rw [hexact]
    · rw [hrounded, Place.stored_stored]
  · rw [pointsOf_map_stored, List.pairwise_map]
    exact h.increasing trip
  · rw [pointsOf_map_stored, List.isChain_map]
    exact h.apart trip
  · rw [pointsOf_map_stored, lastPoint_map_stored, h.last, List.getLast?_map]

end Loop

/-! ## A batch with and without redeliveries -/

section Batch

variable {policy : Policy} {stream : EntryId → Fields} {trips : Table Trip.id} {now : ℕ}
  {stored : Table Point.key} {full once : Loop} {delivered : List EntryId} {id : EntryId}
  {ids : List EntryId} {e : Event} {p : Point}

def entry (policy : Policy) (stream : EntryId → Fields) (trips : Table Trip.id) (now : ℕ)
    (loop : Loop) (id : EntryId) : Loop :=
  match eventOf policy stream id with
  | none => loop
  | some e => loop.next policy trips now e

/-- Two loops with the same points, of which the second knows the latest points. -/
structure Alike (policy : Policy) (stream : EntryId → Fields) (stored : Table Point.key)
    (full once : Loop) : Prop where
  points : full.points stored = once.points stored
  last : ∀ trip, once.lastPoints trip = lastPoint (once.points stored).rows trip
  count : ∀ trip, once.storedCounts trip = (pointsOf (once.points stored).rows trip).length
  ordered : Ordered policy stream (once.points stored).rows

lemma eventOf_id (h : eventOf policy stream id = some e) : e.id = id := by
  rw [eventOf, parseEntry] at h
  split at h
  · cases h
  · cases hparse : parseCoordinate policy (stream id).lat (stream id).lng with
    | none =>
      rw [hparse] at h
      cases h
    | some result =>
      rw [hparse] at h
      cases result with
      | error reason => cases h
      | ok place =>
        cases h
        rfl

lemma Alike.again (h : Alike policy stream stored full once) (hmem : id ∈ delivered)
    (hsteady : steadyEntry policy stream trips now stored full delivered id = true) :
    Alike policy stream stored (entry policy stream trips now full id) once := by
  have hpoints : (entry policy stream trips now full id).points stored = full.points stored := by
    rw [entry]
    cases hevent : eventOf policy stream id with
    | none => rfl
    | some e =>
      dsimp only
      rw [steadyEntry, hevent] at hsteady
      dsimp only at hsteady
      by_cases hcreated : ∃ p, judge policy trips now full e = .created p
      · obtain ⟨p, hjudge⟩ := hcreated
        rw [hjudge] at hsteady
        dsimp only at hsteady
        rw [if_pos hmem, decide_eq_true_eq] at hsteady
        rw [points_next hjudge, insertIgnore_of_mem hsteady]
      · rw [not_exists] at hcreated
        rw [Loop.points, (next_of_not_created hcreated).1, Loop.points]
  exact ⟨hpoints.trans h.points, h.last, h.count, h.ordered⟩

lemma Alike.judge_eq (h : Alike policy stream stored full once)
    (hcurrent : current policy trips now stored full e = true) :
    judge policy trips now full e = judge policy trips now once e := by
  refine judge_congr fun t htrip => ?_
  rw [current, htrip, Option.all_some, Bool.and_eq_true, decide_eq_true_eq, decide_eq_true_eq]
    at hcurrent
  rw [hcurrent.1, hcurrent.2, h.points, h.last, h.count]
  exact ⟨rfl, rfl⟩

lemma Alike.created (h : Alike policy stream stored full once)
    (hevent : eventOf policy stream e.id = some e)
    (hfull : judge policy trips now full e = .created p)
    (honce : judge policy trips now once e = .created p)
    (hlater : later (full.points stored).rows p.trip e.id = true) :
    Alike policy stream stored (full.next policy trips now e) (once.next policy trips now e) := by
  obtain ⟨t, -, htrip, -, hat, -, hid, -⟩ := judge_eq_created honce
  rw [h.points] at hlater
  have hbefore : ∀ q ∈ pointsOf (once.points stored).rows p.trip, q.recordedAt < p.recordedAt := by
    intro q hq
    rw [later, List.all_eq_true] at hlater
    have hq' := hlater q hq
    rw [Bool.and_eq_true, decide_eq_true_eq] at hq'
    rw [hat]
    exact hq'.1
  have hfree : p.key ∉ (once.points stored).rows.map Point.key := by
    intro hmem
    obtain ⟨q, hq, hkey⟩ := List.mem_map.mp hmem
    rw [Point.key, Point.key, Prod.mk.injEq] at hkey
    have hlt := hbefore q (mem_pointsOf.mpr ⟨hq, hkey.1⟩)
    rw [(h.ordered.stamped q hq).1, hkey.2, hid, hat] at hlt
    exact Nat.lt_irrefl _ hlt
  have hrows : ((once.next policy trips now e).points stored).rows =
      (once.points stored).rows ++ [p] := by
    rw [points_next honce, rows_insertIgnore_of_notMem hfree]
  have hnext : (once.next policy trips now e).lastPoints =
        Function.update once.lastPoints p.trip (some p) ∧
      (once.next policy trips now e).storedCounts =
        Function.update once.storedCounts p.trip (once.storedCounts p.trip + 1) := by
    rw [Loop.next, honce]
    exact ⟨rfl, rfl⟩
  constructor
  · rw [points_next hfull, points_next honce, h.points]
  · intro trip
    rw [hrows, hnext.1]
    by_cases heq : p.trip = trip
    · subst heq
      rw [Function.update_self, lastPoint_append_self hbefore]
    · rw [Function.update_of_ne (Ne.symm heq), lastPoint_append_of_ne heq, h.last]
  · intro trip
    rw [hrows, hnext.2, pointsOf_append, List.length_append]
    by_cases heq : p.trip = trip
    · subst heq
      rw [Function.update_self, if_pos rfl, h.count, List.length_singleton]
    · rw [Function.update_of_ne (Ne.symm heq), if_neg heq, h.count, List.length_nil, add_zero]
  · rw [hrows]
    exact h.ordered.append hevent honce (h.last p.trip) hlater

lemma Alike.first (h : Alike policy stream stored full once) (hnew : id ∉ delivered)
    (hsteady : steadyEntry policy stream trips now stored full delivered id = true) :
    Alike policy stream stored (entry policy stream trips now full id)
      (entry policy stream trips now once id) := by
  rw [entry, entry]
  cases hevent : eventOf policy stream id with
  | none => exact h
  | some e =>
    dsimp only
    rw [steadyEntry, hevent] at hsteady
    dsimp only at hsteady
    by_cases hcreated : ∃ p, judge policy trips now full e = .created p
    · obtain ⟨p, hjudge⟩ := hcreated
      rw [hjudge] at hsteady
      dsimp only at hsteady
      rw [if_neg hnew, Bool.and_eq_true] at hsteady
      obtain ⟨hcurrent, hlater⟩ := hsteady
      rw [← eventOf_id hevent] at hlater hevent
      exact h.created hevent hjudge ((h.judge_eq hcurrent).symm.trans hjudge) hlater
    · rw [not_exists] at hcreated
      have hcurrent : current policy trips now stored full e = true := by
        split at hsteady
        · rename_i p hjudge
          exact absurd hjudge (hcreated p)
        · rw [Bool.or_eq_true, decide_eq_true_eq] at hsteady
          exact hsteady.resolve_left hnew
      have hcreated' : ∀ p, judge policy trips now once e ≠ .created p := fun p hjudge =>
        hcreated p ((h.judge_eq hcurrent).trans hjudge)
      obtain ⟨hcreate, -, -⟩ := next_of_not_created hcreated
      obtain ⟨hcreate', hlast, hcount⟩ := next_of_not_created hcreated'
      have hsame : (once.next policy trips now e).points stored = once.points stored := by
        rw [Loop.points, hcreate', Loop.points]
      refine ⟨?_, fun trip => ?_, fun trip => ?_, ?_⟩
      · rw [hsame, ← h.points, Loop.points, hcreate, Loop.points]
      · rw [hsame, hlast]
        exact h.last trip
      · rw [hsame, hcount]
        exact h.count trip
      · rw [hsame]
        exact h.ordered

/-- Only membership counts. -/
lemma fresh_congr {delivered' : List EntryId} (h : ∀ id, id ∈ delivered ↔ id ∈ delivered')
    (ids : List EntryId) : fresh delivered ids = fresh delivered' ids := by
  induction ids generalizing delivered delivered' with
  | nil => rfl
  | cons id ids ih =>
    rw [fresh, fresh]
    by_cases hmem : id ∈ delivered
    · rw [if_pos hmem, if_pos ((h id).mp hmem)]
      exact ih h
    · rw [if_neg hmem, if_neg fun hmem' => hmem ((h id).mpr hmem')]
      congr 1
      refine ih fun x => ?_
      rw [List.mem_cons, List.mem_cons, h x]

lemma fresh_cons_of_mem (hmem : id ∈ delivered) (ids : List EntryId) :
    fresh (id :: delivered) ids = fresh delivered ids := by
  refine fresh_congr (fun x => ?_) ids
  rw [List.mem_cons]
  constructor
  · rintro (rfl | hx)
    · exact hmem
    · exact hx
  · exact .inr

/-- A batch leaves the points that its first deliveries alone leave. -/
lemma Alike.batch (h : Alike policy stream stored full once)
    (hsteady : steadyBatch policy stream trips now stored full delivered ids = true) :
    Alike policy stream stored (ids.foldl (entry policy stream trips now) full)
      ((fresh delivered ids).foldl (entry policy stream trips now) once) := by
  induction ids generalizing full once delivered with
  | nil => exact h
  | cons id ids ih =>
    rw [steadyBatch, Bool.and_eq_true] at hsteady
    obtain ⟨hentry, hrest⟩ := hsteady
    have hrest' : steadyBatch policy stream trips now stored
        (entry policy stream trips now full id) (id :: delivered) ids = true := by
      rw [entry]
      cases hevent : eventOf policy stream id with
      | none =>
        rw [hevent] at hrest
        exact hrest
      | some e =>
        rw [hevent] at hrest
        exact hrest
    rw [List.foldl_cons, fresh]
    split
    · rename_i hmem
      have hdelivered := fresh_cons_of_mem hmem ids
      rw [← hdelivered]
      exact ih (h.again hmem hentry) hrest'
    · rename_i hnew
      rw [List.foldl_cons]
      exact ih (h.first hnew hentry) hrest'

lemma judgeAll_filterMap (loop : Loop) (ids : List EntryId) :
    judgeAll policy trips now loop (ids.filterMap (eventOf policy stream)) =
      ids.foldl (entry policy stream trips now) loop := by
  induction ids generalizing loop with
  | nil => rfl
  | cons id ids ih =>
    rw [List.filterMap_cons, List.foldl_cons, entry]
    cases hevent : eventOf policy stream id with
    | none => exact ih loop
    | some e => exact ih (loop.next policy trips now e)

lemma parseAll_eq_some {parsed : List (EntryId × Option Event)}
    (h : parseAll policy stream ids = some parsed) :
    parsed = ids.map fun id => (id, eventOf policy stream id) := by
  induction ids generalizing parsed with
  | nil =>
    cases h
    rfl
  | cons id ids ih =>
    rw [parseAll, List.mapM_cons] at h
    cases hparse : parseEntry policy id (stream id) with
    | none =>
      rw [hparse] at h
      cases h
    | some event =>
      rw [hparse] at h
      cases hrest : parseAll policy stream ids with
      | none =>
        rw [parseAll] at hrest
        rw [Option.map_some, hrest] at h
        cases h
      | some rest =>
        have htail := ih hrest
        rw [parseAll] at hrest
        rw [Option.map_some, hrest] at h
        cases h
        rw [List.map_cons, ← htail, eventOf, hparse, Option.join_some]

lemma filterMap_parseAll {parsed : List (EntryId × Option Event)}
    (h : parseAll policy stream ids = some parsed) :
    parsed.filterMap Prod.snd = ids.filterMap (eventOf policy stream) := by
  rw [parseAll_eq_some h, List.filterMap_map]
  rfl

lemma parseAll_isSome_iff : (parseAll policy stream ids).isSome = true ↔
    ∀ id ∈ ids, (parseEntry policy id (stream id)).isSome = true := by
  induction ids with
  | nil => simp [parseAll]
  | cons id ids ih =>
    rw [List.forall_mem_cons, ← ih, parseAll, parseAll, List.mapM_cons]
    cases parseEntry policy id (stream id) with
    | none => simp
    | some event =>
      cases ids.mapM fun id => (parseEntry policy id (stream id)).map fun parsed => (id, parsed)
        with
      | none => simp
      | some rest => simp

lemma mem_of_mem_fresh (h : id ∈ fresh delivered ids) : id ∈ ids ∧ id ∉ delivered := by
  induction ids generalizing delivered with
  | nil => cases h
  | cons x ids ih =>
    rw [fresh] at h
    split at h
    · exact ⟨List.mem_cons_of_mem x (ih h).1, (ih h).2⟩
    · rename_i hnew
      rcases List.mem_cons.mp h with rfl | htail
      · exact ⟨List.mem_cons_self, hnew⟩
      · obtain ⟨hmem, hfree⟩ := ih htail
        exact ⟨List.mem_cons_of_mem x hmem, fun hold => hfree (List.mem_cons_of_mem x hold)⟩

lemma mem_fresh (hmem : id ∈ ids) (hnew : id ∉ delivered) : id ∈ fresh delivered ids := by
  induction ids generalizing delivered with
  | nil => cases hmem
  | cons x ids ih =>
    rw [fresh]
    rcases List.mem_cons.mp hmem with rfl | htail
    · rw [if_neg hnew]
      exact List.mem_cons_self
    · split
      · exact ih htail hnew
      · by_cases heq : id = x
        · rw [heq]
          exact List.mem_cons_self
        · refine List.mem_cons_of_mem x (ih htail fun hold => ?_)
          rcases List.mem_cons.mp hold with hx | hd
          · exact heq hx
          · exact hnew hd

end Batch

/-! ## Runs -/

section Runs

variable {policy : Policy} {stream : EntryId → Fields} {s s' : Delivery} {now : ℕ}
  {ids : List EntryId}

/-- What `persist_location_events` does to the points. -/
lemma persistLocationEvents_eq (policy : Policy) (stream : EntryId → Fields) (store : Store)
    (now : ℕ) (ids : List EntryId) :
    (persistLocationEvents policy now stream store ids).map Prod.fst =
      if (parseAll policy stream ids).isSome then
        some (bulkCreate store.points
          (ids.foldl (entry policy stream store.trips now) (.start store.points.rows)).toCreate)
      else none := by
  rw [persistLocationEvents]
  cases hparse : parseAll policy stream ids with
  | none => rfl
  | some parsed =>
    rw [Option.map_some, Option.map_some, Option.isSome_some, if_pos rfl,
      filterMap_parseAll hparse, judgeAll_filterMap]

lemma step_deliver (s : Delivery) (now : ℕ) (ids : List EntryId) :
    step policy stream s (.deliver now ids) =
      if (parseAll policy stream ids).isSome then
        { store := { s.store with
            points := bulkCreate s.store.points
              (ids.foldl (entry policy stream s.store.trips now)
                (.start s.store.points.rows)).toCreate }
          delivered := s.delivered ++ ids }
      else s := by
  have heq := persistLocationEvents_eq policy stream s.store now ids
  rw [step]
  cases hpersist : persistLocationEvents policy now stream s.store ids with
  | none =>
    rw [hpersist, Option.map_none] at heq
    split at heq
    · cases heq
    · rename_i hraises
      rw [if_neg hraises]
  | some result =>
    rw [hpersist, Option.map_some] at heq
    split at heq
    · rename_i hparsed
      rw [Option.some.injEq] at heq
      rw [if_pos hparsed, ← heq]
    · cases heq

/-- The two runs, with and without redeliveries, at the same place. -/
structure Together (policy : Policy) (stream : EntryId → Fields) (s s' : Delivery) : Prop where
  store : s.store = s'.store
  ordered : Ordered policy stream s.store.points.rows
  rounded : ∀ p ∈ s.store.points.rows, p.stored = p
  parsed : ∀ id ∈ s.delivered, (parseEntry policy id (stream id)).isSome = true

lemma Together.deliver (h : Together policy stream s s')
    (hsteady : steady policy stream s (.deliver now ids) = true) :
    Together policy stream (step policy stream s (.deliver now ids))
      (step policy stream s' (.deliver now (fresh s.delivered ids))) := by
  rw [step_deliver, step_deliver]
  by_cases hparsed : (parseAll policy stream ids).isSome = true
  · have hall := parseAll_isSome_iff.mp hparsed
    have hfresh : (parseAll policy stream (fresh s.delivered ids)).isSome = true :=
      parseAll_isSome_iff.mpr fun id hid => hall id (mem_of_mem_fresh hid).1
    rw [if_pos hparsed, if_pos hfresh, ← h.store]
    have hbatch : steadyBatch policy stream s.store.trips now s.store.points
        (.start s.store.points.rows) s.delivered ids = true := by
      rw [steady, Bool.or_eq_true] at hsteady
      refine hsteady.resolve_left fun hnone => ?_
      rw [Option.isNone_iff_eq_none] at hnone
      rw [hnone] at hparsed
      cases hparsed
    have hstart : Alike policy stream s.store.points (.start s.store.points.rows)
        (.start s.store.points.rows) := ⟨rfl, fun _ => rfl, fun _ => rfl, h.ordered⟩
    have halike := hstart.batch hbatch
    have hsame : s.store.points.rows = s.store.points.rows.map Point.stored :=
      ((List.map_congr_left h.rounded).trans (List.map_id _)).symm
    have hrows := fun loop : Loop => rows_bulkCreate hsame loop.toCreate
    refine ⟨?_, ?_, ?_, fun id hid => ?_⟩
    · dsimp only
      refine congrArg (fun points => ({ s.store with points } : Store)) (eq_of_rows ?_)
      rw [hrows, hrows]
      exact congrArg (fun t : Table Point.key => t.rows.map Point.stored) halike.points
    · show Ordered policy stream (bulkCreate s.store.points _).rows
      have hordered := halike.ordered.map_stored
      rw [← halike.points] at hordered
      rw [hrows]
      exact hordered
    · intro p hp
      have hmem : p ∈ (bulkCreate s.store.points _).rows := hp
      rw [hrows] at hmem
      obtain ⟨q, -, rfl⟩ := List.mem_map.mp hmem
      rw [Point.stored, Point.stored, Place.stored_stored]
    · rcases List.mem_append.mp hid with hold | hnew
      · exact h.parsed id hold
      · exact hall id hnew
  · -- the entry that raises was in no batch that went through
    have hfresh : ¬ (parseAll policy stream (fresh s.delivered ids)).isSome = true := by
      rw [parseAll_isSome_iff] at hparsed ⊢
      intro hall
      refine hparsed fun id hid => ?_
      by_cases hold : id ∈ s.delivered
      · exact h.parsed id hold
      · exact hall id (mem_fresh hid hold)
    rw [if_neg hparsed, if_neg hfresh]
    exact h

lemma Together.run {acts : List Act} (h : Together policy stream s s')
    (hsteady : Guarded (step policy stream) (fun s a => steady policy stream s a = true) s acts) :
    Together policy stream (Transition.run (step policy stream) s acts)
      (Transition.run (step policy stream) s' (firsts policy stream s.delivered acts)) := by
  induction acts generalizing s s' with
  | nil => exact h
  | cons a acts ih =>
    obtain ⟨hnow, hrest⟩ := guarded_cons.mp hsteady
    cases a with
    | deliver now ids =>
      rw [firsts, run_cons, run_cons]
      have hafter : (if (parseAll policy stream ids).isSome then s.delivered ++ ids
          else s.delivered) = (step policy stream s (.deliver now ids)).delivered := by
        rw [step_deliver]
        split
        · rfl
        · rfl
      rw [hafter]
      exact ih (h.deliver hnow) hrest
    | saveTrip t =>
      rw [firsts, run_cons, run_cons]
      refine ih ⟨?_, h.ordered, h.rounded, h.parsed⟩ hrest
      rw [step, step, h.store]

/-- In every run whose batches are steady, the points are those of the first deliveries alone, each
with the position of its entry as the columns keep it; the points of a trip are in the order of
time, have their own sequence numbers, and each is at least the interval from the one before and the
distance from its position. -/
theorem trail_of_firsts (policy : Policy) (stream : EntryId → Fields) (trips : Table Trip.id)
    (acts : List Act)
    (hsteady : Guarded (step policy stream) (fun s a => steady policy stream s a = true)
      ⟨⟨.empty, trips⟩, []⟩ acts) :
    let points := (run (step policy stream) ⟨⟨.empty, trips⟩, []⟩ acts).store.points
    points = (run (step policy stream) ⟨⟨.empty, trips⟩, []⟩
      (firsts policy stream [] acts)).store.points ∧
    (∀ p ∈ points.rows, (placeOf policy stream p.sourceEventId).map Place.stored = some p.place) ∧
    ∀ trip, ((pointsOf points.rows trip).map Point.sequence).Nodup ∧
      ((pointsOf points.rows trip).map Point.recordedAt).Pairwise (· < ·) ∧
      (pointsOf points.rows trip).IsChain (Apart policy stream) := by
  have hstart : Together policy stream ⟨⟨.empty, trips⟩, []⟩ ⟨⟨.empty, trips⟩, []⟩ :=
    ⟨rfl, ordered_nil policy stream, fun p hp => absurd hp List.not_mem_nil,
      fun id hid => absurd hid List.not_mem_nil⟩
  have hend := hstart.run hsteady
  intro points
  refine ⟨congrArg Store.points hend.store, fun p hp => ?_, fun trip =>
    ⟨hend.ordered.nodup_sequence trip, ?_, hend.ordered.apart trip⟩⟩
  · obtain ⟨x, hx, hplace⟩ := hend.ordered.placed p hp
    have hstored := congrArg Point.place (hend.rounded p hp)
    rw [hx, Option.map_some, ← hstored]
    show some x.stored = some p.place.stored
    rcases hplace with hexact | hrounded
    · rw [hexact]
    · rw [hrounded, Place.stored_stored]
  · rw [List.pairwise_map]
    exact (hend.ordered.increasing trip).imp fun h => h.1

end Runs

/-! ## A refused entry that comes again -/

/-- The documented settings, and positions on one meridian. -/
def documented : Policy where
  maxAccuracyMetres := 50
  minInterval := 5000000
  minDistanceMetres := 25
  maxPointsPerTrip := 5000
  lateArrival := 3600000000
  haversineMetres := fun p q => |p.latitude - q.latitude| * 111195
  int := fun text => if text = "9" then some 9 else none
  decimal := fun text =>
    [("17.0000", Decimal.finite false 17), ("17.0001", .finite false (170001 / 10000)),
      ("17.0004", .finite false (170004 / 10000)),
      ("17.00080004", .finite false (1700080004 / 100000000)),
      ("78", .finite false 78)].lookup text

/-- The entry that came so many times ten seconds after the first. -/
def entryAt (n : ℕ) : EntryId := ⟨1758623456789 + 10000 * n, 0⟩

/-- A driver goes north: 11 metres, then 33, then 44 and a little. -/
def northward (id : EntryId) : Fields where
  driverId := some "9"
  lat := [(entryAt 0, "17.0000"), (entryAt 1, "17.0001"), (entryAt 2, "17.0004"),
    (entryAt 3, "17.00080004")].lookup id
  lng := some "78"

def onTheWay : Table Trip.id := Table.empty.put ⟨1, some 9, some .inProgress, 0, none, none, none⟩

def wholeBatchAgain : List Act :=
  [.deliver 0 [entryAt 0, entryAt 1, entryAt 2], .deliver 0 [entryAt 0, entryAt 1, entryAt 2],
    .deliver 0 [entryAt 3]]

/-- The second entry, which was refused, comes again by itself. -/
def refusedAgain : List Act :=
  [.deliver 0 [entryAt 0, entryAt 1, entryAt 2], .deliver 0 [entryAt 1]]

def sources (s : Delivery) : List EntryId :=
  (pointsOf s.store.points.rows 1).map Point.sourceEventId

/-- The whole batch leaves the points as they are. -/
theorem trail_of_firsts_batch :
    let points :=
      (run (step documented northward) ⟨⟨.empty, onTheWay⟩, []⟩ wholeBatchAgain).store.points
    points.rows.map Point.sourceEventId = [entryAt 0, entryAt 2, entryAt 3] ∧
    points.rows.map (·.place.latitude) = [17, 170004 / 10000, 170008 / 10000] ∧
    points = (run (step documented northward) ⟨⟨.empty, onTheWay⟩, []⟩
      (firsts documented northward [] wholeBatchAgain)).store.points ∧
    (∀ p ∈ points.rows,
      (placeOf documented northward p.sourceEventId).map Place.stored = some p.place) ∧
    ∀ trip, ((pointsOf points.rows trip).map Point.sequence).Nodup ∧
      ((pointsOf points.rows trip).map Point.recordedAt).Pairwise (· < ·) ∧
      (pointsOf points.rows trip).IsChain (Apart documented northward) :=
  ⟨by decide +kernel, by decide +kernel,
    trail_of_firsts documented northward onTheWay wholeBatchAgain (by decide +kernel)⟩

/-- The refused entry is kept when it comes again, and its point is 11 metres from the first. -/
theorem refused_then_kept :
    let s := run (step documented northward) ⟨⟨.empty, onTheWay⟩, []⟩ refusedAgain
    let s' := run (step documented northward) ⟨⟨.empty, onTheWay⟩, []⟩
      (firsts documented northward [] refusedAgain)
    sources s = [entryAt 0, entryAt 2, entryAt 1] ∧ sources s' = [entryAt 0, entryAt 2] ∧
      ∃ p ∈ s.store.points.rows, ∃ q ∈ s.store.points.rows,
        p.sourceEventId = entryAt 0 ∧ q.sourceEventId = entryAt 1 ∧
          documented.haversineMetres p.place q.place < documented.minDistanceMetres := by
  decide +kernel

end SaaradhiGo.Trail
