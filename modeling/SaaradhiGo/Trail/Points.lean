/-
The trail of a trip.

The positions that drivers send come through a stream.  The writer takes them in batches, finds
the trip whose window has the moment of each, and keeps the ones that are far enough, in time and
in place, from the last point it kept.  A point is stored once for each entry of the stream, with
seven decimals of its position: a batch is judged by what is stored before it, and from then on by
the positions as they were sent.
-/
import SaaradhiGo.Lib.Decimal
import SaaradhiGo.Lib.Rounding
import SaaradhiGo.Lib.Table
import SaaradhiGo.Rides.ActiveTrip
import Mathlib.Algebra.Order.Ring.Rat

namespace SaaradhiGo.Trail

open Python (Decimal)
open SaaradhiGo.Rides (TripStatus driverActiveTripStatuses)

/-! ## Data -/

/-- The id of an entry of the stream, `<ms>-<seq>`: the time at which the server had it. -/
structure EntryId where
  ms : ℕ
  seq : ℕ
deriving DecidableEq, Repr

/-- `_stream_id_to_datetime`, in microseconds. -/
def EntryId.recordedAt (id : EntryId) : ℕ := 1000 * id.ms

/-- `_sequence_from_entry_id`. -/
def EntryId.sequence (id : EntryId) : ℕ := id.ms % 2000000000

/-- The fields of an entry, where they are there. -/
structure Fields where
  driverId : Option String
  lat : Option String
  lng : Option String
deriving DecidableEq, Repr

structure Place where
  latitude : ℚ
  longitude : ℚ
deriving DecidableEq, Repr

/-- A number with seven decimals, as a column keeps it. -/
def sevenPlaces (q : ℚ) : ℚ := Rounding.halfUp (q * 10 ^ 7) / 10 ^ 7

def Place.stored (p : Place) : Place := ⟨sevenPlaces p.latitude, sevenPlaces p.longitude⟩

/-- `TripLocationPoint`, of one entry. -/
structure Point where
  trip : ℕ
  driver : ℤ
  place : Place
  recordedAt : ℕ
  sequence : ℕ
  sourceEventId : EntryId
deriving DecidableEq, Repr

def Point.stored (p : Point) : Point := { p with place := p.place.stored }

def Point.key (p : Point) : ℕ × EntryId := (p.trip, p.sourceEventId)

/-- `Trip`, with what its window depends on.  Times are in microseconds. -/
structure Trip where
  id : ℕ
  driver : Option ℤ
  status : Option TripStatus
  requestedAt : ℕ
  acceptedAt : Option ℕ
  completedAt : Option ℕ
  cancelledAt : Option ℕ
deriving DecidableEq, Repr

/-- The settings `GPS_TRAIL_*`, and what Python and the platform compute. -/
structure Policy where
  maxAccuracyMetres : ℚ
  /-- in microseconds -/
  minInterval : ℕ
  minDistanceMetres : ℚ
  maxPointsPerTrip : ℕ
  /-- in microseconds -/
  lateArrival : ℕ
  haversineMetres : Place → Place → ℚ
  /-- `int` of a text -/
  int : String → Option ℤ
  /-- `Decimal` of a text -/
  decimal : String → Option Decimal

/-! ## What an entry says -/

inductive RejectReason where
  | unparseableCoordinate
  | latitudeOutOfRange
  | longitudeOutOfRange
  | nullIsland
deriving DecidableEq, Repr

/-- The value is between `-bound` and `bound`; `NaN` cannot be compared. -/
def within (bound : ℚ) : Decimal → Option Bool
  | .finite _ magnitude => some ((magnitude : ℚ) ≤ bound)
  | .infinity _ => some false
  | .nan => none

def value : Decimal → ℚ
  | .finite true magnitude => -(magnitude : ℚ)
  | .finite false magnitude => magnitude
  | .infinity _ => 0
  | .nan => 0

section Persist

variable (policy : Policy)

/-- `parse_coordinate`: a place, or the reason why it is rejected; none when a comparison raises. -/
def parseCoordinate (lat lon : Option String) : Option (Except RejectReason Place) :=
  match lat.bind policy.decimal, lon.bind policy.decimal with
  | some latD, some lonD => do
      if !(← within 90 latD) then return .error .latitudeOutOfRange
      if !(← within 180 lonD) then return .error .longitudeOutOfRange
      if value latD = 0 ∧ value lonD = 0 then return .error .nullIsland
      return .ok ⟨value latD, value lonD⟩
  | _, _ => some (.error .unparseableCoordinate)

/-- An entry that was parsed. -/
structure Event where
  id : EntryId
  driver : ℤ
  place : Place
deriving DecidableEq, Repr

/-- The first loop of `persist_location_events`, on one entry: none when it raises, and otherwise
an event unless the entry is invalid. -/
def parseEntry (id : EntryId) (fields : Fields) : Option (Option Event) :=
  match fields.driverId.bind policy.int with
  | none => some none
  | some driver => (parseCoordinate policy fields.lat fields.lng).map fun
      | .error _ => none
      | .ok place => some ⟨id, driver, place⟩

/-! ## Which points are kept -/

structure Candidate where
  place : Place
  recordedAt : ℕ
  accuracyM : Option ℚ
  isFinal : Bool
deriving DecidableEq, Repr

inductive Decision where
  | accuracyTooPoor
  | firstPoint
  | finalPoint
  | tooSoon
  | tooClose
  | kept
deriving DecidableEq, Repr

/-- The first half of what `should_keep` returns. -/
def Decision.keeps : Decision → Bool
  | .firstPoint => true
  | .finalPoint => true
  | .kept => true
  | _ => false

def accuracyIsAcceptable (accuracyM : Option ℚ) : Bool :=
  accuracyM.all fun a => a ≤ policy.maxAccuracyMetres

/-- `should_keep`.  A candidate that is older than the last point is judged by its distance
only. -/
def shouldKeep (candidate : Candidate) (lastKept : Option Point) : Decision :=
  if !accuracyIsAcceptable policy candidate.accuracyM then .accuracyTooPoor
  else
    match lastKept with
    | none => .firstPoint
    | some last =>
        if candidate.isFinal then .finalPoint
        else if last.recordedAt ≤ candidate.recordedAt ∧
            candidate.recordedAt - last.recordedAt < policy.minInterval then .tooSoon
        else if policy.haversineMetres last.place candidate.place < policy.minDistanceMetres then
          .tooClose
        else .kept

/-! ## Whose points they are -/

/-- `collection_window`. -/
def Trip.window (t : Trip) : ℕ × Option ℕ :=
  (t.acceptedAt.getD t.requestedAt, t.completedAt.orElse fun _ => t.cancelledAt)

/-- The trip is going on, or ended within the grace period. -/
def Trip.collects (now : ℕ) (t : Trip) : Bool :=
  (t.status.any (· ∈ driverActiveTripStatuses)) ||
    t.completedAt.any (fun at' => now ≤ at' + policy.lateArrival) ||
    t.cancelledAt.any (fun at' => now ≤ at' + policy.lateArrival)

/-- `_resolve_candidate_trips`, for one driver: the newest first. -/
def candidateTrips (trips : Table Trip.id) (now : ℕ) (driver : ℤ) : List Trip :=
  (trips.rows.filter fun t => t.driver = some driver && t.collects policy now).mergeSort
    fun t u => u.requestedAt ≤ t.requestedAt

def tripForEvent (trips : List Trip) (recordedAt : ℕ) : Option Trip :=
  trips.find? fun t => t.window.1 ≤ recordedAt && t.window.2.all fun stop => recordedAt ≤ stop

/-! ## The writer -/

structure Store where
  points : Table Point.key
  trips : Table Trip.id

def pointsOf (points : List Point) (trip : ℕ) : List Point := points.filter fun p => p.trip = trip

/-- `_last_point_for_trips`: the point of the trip that was recorded last. -/
def lastPoint (points : List Point) (trip : ℕ) : Option Point :=
  (pointsOf points trip).foldl
    (fun best p => if best.all fun b => b.recordedAt < p.recordedAt then some p else best) none

/-- What becomes of an entry. -/
inductive Verdict where
  | invalid
  | noActiveTrip
  | sampledOut (decision : Decision)
  | overTripCap
  | created (p : Point)
deriving DecidableEq, Repr

/-- The variables of the loop over a batch. -/
structure Loop where
  lastPoints : ℕ → Option Point
  storedCounts : ℕ → ℕ
  toCreate : List Point
  verdicts : List (EntryId × Verdict)

def Loop.start (points : List Point) : Loop where
  lastPoints := lastPoint points
  storedCounts := fun trip => (pointsOf points trip).length
  toCreate := []
  verdicts := []

variable (trips : Table Trip.id) (now : ℕ)

/-- What the loop decides of an event. -/
def judge (loop : Loop) (e : Event) : Verdict :=
  match tripForEvent (candidateTrips policy trips now e.driver) e.id.recordedAt with
  | none => .noActiveTrip
  | some trip =>
      let decision := shouldKeep policy ⟨e.place, e.id.recordedAt, none, false⟩
        (loop.lastPoints trip.id)
      if !decision.keeps then .sampledOut decision
      else if policy.maxPointsPerTrip ≤ loop.storedCounts trip.id then .overTripCap
      else .created
        { trip := trip.id, driver := e.driver, place := e.place, recordedAt := e.id.recordedAt
          sequence := e.id.sequence, sourceEventId := e.id }

/-- The body of the loop: a point that is to be created is the last one from now on. -/
def Loop.next (loop : Loop) (e : Event) : Loop :=
  let verdict := judge policy trips now loop e
  let verdicts := loop.verdicts ++ [(e.id, verdict)]
  match verdict with
  | .created p =>
      { lastPoints := Function.update loop.lastPoints p.trip (some p)
        storedCounts := Function.update loop.storedCounts p.trip (loop.storedCounts p.trip + 1)
        toCreate := loop.toCreate ++ [p]
        verdicts }
  | _ => { loop with verdicts }

/-- The second loop of `persist_location_events`. -/
def judgeAll (loop : Loop) (events : List Event) : Loop :=
  events.foldl (Loop.next policy trips now) loop

def insertIgnore (points : Table Point.key) (p : Point) : Table Point.key :=
  (points.insert? p).getD points

/-- `bulk_create` with `ignore_conflicts`. -/
def bulkCreate (points : Table Point.key) (toCreate : List Point) : Table Point.key :=
  toCreate.foldl (fun points p => insertIgnore points p.stored) points

/-- The entries of a batch, parsed, or none when one of them raises. -/
def parseAll (stream : EntryId → Fields) (ids : List EntryId) :
    Option (List (EntryId × Option Event)) :=
  ids.mapM fun id => (parseEntry policy id (stream id)).map fun parsed => (id, parsed)

/-- `persist_location_events`: the points after a batch, and what became of its entries; none when
it raises. -/
def persistLocationEvents (stream : EntryId → Fields) (store : Store) (ids : List EntryId) :
    Option (Table Point.key × List (EntryId × Verdict)) :=
  (parseAll policy stream ids).map fun parsed =>
    let invalid := (parsed.filter fun x => x.2.isNone).map fun x => (x.1, Verdict.invalid)
    let loop := judgeAll policy store.trips now (.start store.points.rows)
      (parsed.filterMap Prod.snd)
    (bulkCreate store.points loop.toCreate, invalid ++ loop.verdicts)

end Persist

end SaaradhiGo.Trail
