/-
Trips, their drivers, and the active-trip entries kept beside the database.

A trip is accepted, moves along and is completed or cancelled in one transaction each, under the
lock of its row.  The entry of the driver is written after the transaction: set when a trip is
accepted, deleted when one is over.  A sweep reads the trips of a driver, then the entry, and
writes the entry when the two disagree.  Every transaction, every read of a sweep and every write
of an entry is a step of its own, and a write may be delayed as long as it likes.
-/
import SaaradhiGo.Lib.Table
import SaaradhiGo.Lib.Mirror
import Mathlib.Data.List.Basic

namespace SaaradhiGo.Rides

/-- `TripStatus.status_code`. -/
inductive TripStatus where
  | requested | accepted | reached | inProgress | completed | cancelled
deriving DecidableEq, Repr

/-- `Trip`, with what the active trip of a driver depends on. -/
structure Trip where
  id : ℕ
  driver : Option ℕ
  status : Option TripStatus
  cancelledBy : String
deriving DecidableEq, Repr

def driverActiveTripStatuses : List TripStatus := [.accepted, .reached, .inProgress]

def Trip.Occupies (t : Trip) (driver : ℕ) : Prop :=
  t.driver = some driver ∧ ∃ c ∈ t.status, c ∈ driverActiveTripStatuses

instance (t : Trip) (driver : ℕ) : Decidable (t.Occupies driver) :=
  match t with
  | ⟨_, _, none, _⟩ => isFalse (by rintro ⟨-, c, hc, -⟩; cases hc)
  | ⟨_, d, some c, _⟩ =>
      decidable_of_iff (d = some driver ∧ c ∈ driverActiveTripStatuses) (by
        simp [Trip.Occupies])

def driverActiveTripIds (trips : Table Trip.id) (driver : ℕ) (excludeTripId : Option ℕ) :
    List ℕ :=
  (trips.rows.filter fun t => t.Occupies driver ∧ excludeTripId ≠ some t.id).map (·.id)

/-- A write of an entry, or the second half of a sweep. -/
inductive Effect where
  /-- `set_driver_active_trip`. -/
  | set (driver trip : ℕ)
  /-- `clear_driver_active_trip`. -/
  | clear (driver : ℕ)
  /-- `reconcile_driver_active_trip`, after it read the trips. -/
  | reconcile (driver : ℕ) (dbTripId : Option ℕ)
deriving DecidableEq, Repr

/-- The trips, the entries, and the steps that are still to run. -/
structure Fleet where
  trips : Table Trip.id
  nextTrip : ℕ
  /-- `driver:active_trip:<id>`. -/
  activeTrip : ℕ → Option ℕ
  pending : List Effect

/-! ## Transactions -/

/-- A trip is asked for. -/
def bookTrip (s : Fleet) : Fleet :=
  { s with
    trips := s.trips.put ⟨s.nextTrip, none, some .requested, ""⟩
    nextTrip := s.nextTrip + 1 }

/-- `_accept_trip`.  `mayAccept` is the answer of the driver's other gates: approved, not blocked,
with a vehicle, and not tired. -/
def acceptTrip (drivers : List ℕ) (tripId driver : ℕ) (mayAccept : Bool) (s : Fleet) :
    Except String Fleet :=
  match s.trips.get? tripId with
  | none => .error "Trip not found"
  | some t =>
      if t.driver.isSome then .error "Trip already accepted by another driver"
      else if t.status ∉ [none, some .requested] then .error "This ride is no longer available"
      else if driver ∉ drivers then .error "Driver profile not found"
      else if !mayAccept then .error "may_not_accept"
      else if driverActiveTripIds s.trips driver (some t.id) ≠ [] then
        .error "driver_already_on_trip"
      else
        .ok { s with
          trips := s.trips.put { t with driver := some driver, status := some .accepted }
          pending := s.pending ++ [.set driver t.id] }

/-- A trip is over: its driver's entry is to be deleted after the commit. -/
def Fleet.finish (s : Fleet) (t : Trip) (status : TripStatus) (cancelledBy : String) : Fleet :=
  { s with
    trips := s.trips.put { t with status := some status, cancelledBy := cancelledBy }
    pending := s.pending ++ (t.driver.map Effect.clear).toList }

/-- The commands of `_update_trip_status`. -/
inductive Command where
  | reached | inProgress | completed | cancelled
deriving DecidableEq, Repr

/-- The status a command asks for. -/
def Command.status : Command → TripStatus
  | reached => .reached
  | inProgress => .inProgress
  | completed => .completed
  | cancelled => .cancelled

/-- `allowed_transitions`. -/
def Command.allowedFrom : Command → List TripStatus
  | reached => [.accepted]
  | inProgress => [.accepted, .reached]
  | completed => [.inProgress]
  | cancelled => [.requested, .accepted, .reached, .inProgress]

def updateTripStatus (tripId : ℕ) (c : Command) (otpMatches : Bool) (cancelledBy : String)
    (s : Fleet) : Except String Fleet :=
  match s.trips.get? tripId with
  | none => .error "Trip not found"
  | some t =>
      if t.status ∉ c.allowedFrom.map some then
        .error (if t.status = some c.status then "already_in_target_state"
          else "invalid_transition")
      else
        match c with
        | .reached => .ok { s with trips := s.trips.put { t with status := some .reached } }
        | .inProgress =>
            if !otpMatches then .error "invalid_otp"
            else .ok { s with trips := s.trips.put { t with status := some .inProgress } }
        | .completed => .ok (s.finish t .completed t.cancelledBy)
        | .cancelled =>
            .ok (s.finish t .cancelled (if cancelledBy = "" then "system" else cancelledBy))

/-- The cancellation of the driver's own screen. -/
def cancelTripDriver (tripId driver : ℕ) (s : Fleet) : Except String Fleet :=
  match s.trips.get? tripId with
  | none => .error "NOT_FOUND"
  | some t =>
      if t.driver ≠ some driver then .error "FORBIDDEN"
      else if t.status ∉ [some .accepted, some .reached] then .error "INVALID_STATE"
      else .ok (s.finish t .cancelled "driver")

/-- The cancellation of the rider's own screen. -/
def cancelTripRider (tripId : ℕ) (s : Fleet) : Except String Fleet :=
  match s.trips.get? tripId with
  | none => .error "NOT_FOUND"
  | some t =>
      if t.status ∈ [some .completed, some .cancelled] then .error "INVALID_STATE"
      else if t.status ∉ [some .requested, some .accepted, some .reached, some .inProgress] then
        .error "INVALID_STATE"
      else .ok (s.finish t .cancelled "rider")

def operatorCancel (tripId : ℕ) (s : Fleet) : Except String Fleet :=
  match s.trips.get? tripId with
  | none => .error "not_found"
  | some t =>
      if t.status = some .cancelled ∧ t.cancelledBy = "admin" then .error "already_cancelled"
      else if t.status ∉ [some .requested, some .accepted, some .reached] then
        .error "not_cancellable"
      else .ok (s.finish t .cancelled "admin")

/-- An operator ends a started trip.  `mayEnd` is the answer of the other conditions: the trip is
stale and a plan for its money exists. -/
def operatorEnd (tripId : ℕ) (mayEnd : Bool) (s : Fleet) : Except String Fleet :=
  match s.trips.get? tripId with
  | none => .error "NOT_FOUND"
  | some t =>
      if t.driver = none then .error "no_driver_assigned"
      else if t.status ≠ some .inProgress then .error "not_releasable"
      else if !mayEnd then .error "trip_active"
      else .ok (s.finish t .completed t.cancelledBy)

/-! ## Sweeps and writes -/

/-- `db_trip_id` of a sweep. -/
def Fleet.dbTripId (s : Fleet) (driver : ℕ) : Option ℕ :=
  (driverActiveTripIds s.trips driver none).head?

/-- `reconcile_driver_active_trip`, up to its read of the trips. -/
def sweep (drivers : List ℕ) (driver : ℕ) (s : Fleet) : Fleet :=
  if driver ∈ drivers then
    { s with pending := s.pending ++ [.reconcile driver (s.dbTripId driver)] }
  else s

/-- `reconcile_driver_active_trip`, from its read of the entry: what it still has to write. -/
def repair (driver : ℕ) (dbTripId redisTripId : Option ℕ) : Option Effect :=
  match dbTripId, redisTripId with
  | none, some _ => some (.clear driver)
  | some t, none => some (.set driver t)
  | some t, some r => if t = r then none else some (.set driver t)
  | none, none => none

/-- The effect at a position takes its next step. -/
def Fleet.runEffect (s : Fleet) (n : ℕ) : Fleet :=
  match s.pending[n]? with
  | none => s
  | some (.set driver trip) =>
      { s with
        activeTrip := Function.update s.activeTrip driver (some trip)
        pending := s.pending.eraseIdx n }
  | some (.clear driver) =>
      { s with
        activeTrip := Function.update s.activeTrip driver none
        pending := s.pending.eraseIdx n }
  | some (.reconcile driver dbTripId) =>
      match repair driver dbTripId (s.activeTrip driver) with
      | none => { s with pending := s.pending.eraseIdx n }
      | some e => { s with pending := s.pending.set n e }

/-- What happens next. -/
inductive Act where
  | book
  | accept (tripId driver : ℕ) (mayAccept : Bool)
  | update (tripId : ℕ) (c : Command) (otpMatches : Bool) (cancelledBy : String)
  | driverCancel (tripId driver : ℕ)
  | riderCancel (tripId : ℕ)
  | operatorCancel (tripId : ℕ)
  | operatorEnd (tripId : ℕ) (mayEnd : Bool)
  | sweep (driver : ℕ)
  | effect (n : ℕ)

/-- A transaction that is refused is rolled back. -/
def Fleet.commit (s : Fleet) : Except String Fleet → Fleet
  | .ok s' => s'
  | .error _ => s

def step (drivers : List ℕ) (s : Fleet) : Act → Fleet
  | .book => bookTrip s
  | .accept tripId driver mayAccept => s.commit (acceptTrip drivers tripId driver mayAccept s)
  | .update tripId c otpMatches cancelledBy =>
      s.commit (updateTripStatus tripId c otpMatches cancelledBy s)
  | .driverCancel tripId driver => s.commit (cancelTripDriver tripId driver s)
  | .riderCancel tripId => s.commit (cancelTripRider tripId s)
  | .operatorCancel tripId => s.commit (Rides.operatorCancel tripId s)
  | .operatorEnd tripId mayEnd => s.commit (Rides.operatorEnd tripId mayEnd s)
  | .sweep driver => Rides.sweep drivers driver s
  | .effect n => s.runEffect n

def Fleet.opening : Fleet := ⟨Table.empty, 1, fun _ => none, []⟩

end SaaradhiGo.Rides
