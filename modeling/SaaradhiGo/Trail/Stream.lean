/-
The drain of the stream of positions.

A drain reads a batch of entries that the group has not given out, has the writer store the points,
and acknowledges the batch; then it reads the next one, up to its budget.  Several drains may run
side by side, and a worker may die between any two of these.  The stream reads new entries only
(`>`): no code claims what another worker left pending.
-/
import SaaradhiGo.Lib.ConsumerGroup
import SaaradhiGo.Trail.Replayed

namespace SaaradhiGo.Trail

/-- The id `<ms>-<seq>` is smaller. -/
def EntryId.before (i j : EntryId) : Bool := i.ms < j.ms || (i.ms = j.ms && i.seq < j.seq)

/-- How far a drain has come. -/
inductive Stage where
  | reading
  | read (batch : List EntryId)
  /-- the points of the batch are committed -/
  | persisted (batch : List EntryId)
deriving DecidableEq, Repr

/-- A drain that runs, and how many entries it has consumed. -/
structure Drain where
  consumed : ℕ
  stage : Stage
deriving DecidableEq, Repr

/-- The entries that a drain has in hand. -/
def Drain.batch (d : Drain) : List EntryId :=
  match d.stage with
  | .reading => []
  | .read batch => batch
  | .persisted batch => batch

structure World where
  store : Store
  group : ConsumerGroup EntryId
  drains : List Drain
  /-- the entries that the writer has handled, and what became of them -/
  handled : List (EntryId × Verdict)

def World.initial (trips : Table Trip.id) : World := ⟨⟨.empty, trips⟩, .empty, [], []⟩

/-- How Redis answers a read. -/
inductive Answer where
  | entries
  /-- the entries are given out, and the answer is lost -/
  | lost
  | refused
deriving DecidableEq, Repr

/-- `GPS_TRAIL_ENABLED`, `GPS_TRAIL_BATCH_SIZE` and `GPS_TRAIL_MAX_EVENTS_PER_RUN`. -/
structure DrainSettings where
  enabled : Bool
  batchSize : ℕ
  maxEventsPerRun : ℕ
deriving DecidableEq, Repr

/-- What can happen. -/
inductive DrainAct where
  /-- a driver sends a position -/
  | add (id : EntryId)
  /-- the stream is cut to its length -/
  | trim (n : ℕ)
  | start
  /-- a drain reads the next entries -/
  | read (i : ℕ) (answer : Answer)
  /-- the writer handles the batch; the database may refuse -/
  | persist (i now : ℕ) (commits : Bool)
  /-- the batch is acknowledged; Redis may not answer -/
  | ack (i : ℕ) (answers : Bool)
  | die (i : ℕ)
  | saveTrip (t : Trip)
deriving DecidableEq, Repr

section Steps

variable (policy : Policy) (stream : EntryId → Fields) (settings : DrainSettings)

def World.goto (w : World) (i : ℕ) (d : Drain) : World := { w with drains := w.drains.set i d }

def World.stop (w : World) (i : ℕ) : World := { w with drains := w.drains.eraseIdx i }

/-- How many entries the drain asks for. -/
def Drain.count (d : Drain) : ℕ :=
  if d.consumed < settings.maxEventsPerRun then
    min settings.batchSize (settings.maxEventsPerRun - d.consumed)
  else 0

/-- `read_location_events`. -/
def World.readBatch (w : World) (i : ℕ) (d : Drain) (answer : Answer) : World :=
  let count := d.count settings
  match answer with
  | .refused => w.stop i
  | .lost => { w with group := w.group.give count, drains := w.drains.eraseIdx i }
  | .entries =>
      let batch := w.group.next count
      if batch = [] then w.stop i
      else
        { w with
          group := w.group.give count
          drains := w.drains.set i ⟨d.consumed + batch.length, .read batch⟩ }

/-- `persist_location_events`, and its transaction. -/
def World.persistBatch (w : World) (i now consumed : ℕ) (batch : List EntryId) (commits : Bool) :
    World :=
  match persistLocationEvents policy now stream w.store batch with
  | some (points, verdicts) =>
      if commits then
        { w with
          store := { w.store with points }
          drains := w.drains.set i ⟨consumed, .persisted batch⟩
          handled := w.handled ++ verdicts }
      else w.stop i
  | none => w.stop i

def drainStep (w : World) : DrainAct → World
  | .add id =>
      if w.group.log.all (·.before id) then { w with group := w.group.add id } else w
  | .trim n => { w with group := w.group.trim n }
  | .start => if settings.enabled then { w with drains := w.drains ++ [⟨0, .reading⟩] } else w
  | .read i answer =>
      match w.drains[i]? with
      | some ⟨consumed, .reading⟩ => w.readBatch settings i ⟨consumed, .reading⟩ answer
      | _ => w
  | .persist i now commits =>
      match w.drains[i]? with
      | some ⟨consumed, .read batch⟩ => w.persistBatch policy stream i now consumed batch commits
      | _ => w
  | .ack i answers =>
      match w.drains[i]? with
      | some ⟨consumed, .persisted batch⟩ =>
          let acked := if answers then w.group.ack batch else w.group
          { w with group := acked, drains := w.drains.set i ⟨consumed, .reading⟩ }
      | _ => w
  | .die i => w.stop i
  | .saveTrip t => { w with store := { w.store with trips := w.store.trips.put t } }

end Steps

end SaaradhiGo.Trail
