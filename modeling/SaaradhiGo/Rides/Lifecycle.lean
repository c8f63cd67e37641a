/-
The transactions that write the status of a trip, a statement at a time.

A trip is booked, accepted by a driver, moved along by the commands of its socket, and ended by a
completion, a cancellation screen, an operator or the timeout of an unaccepted trip.  Each way in
locks the row of the trip and reads it under the lock.  The accept locks the row of the driver as
well and then reads, without a lock of their own, the other trips of the driver; a completion
counts the trip on the row of its driver.  A transaction that refuses, raises or loses its
connection writes nothing.

Some writers of a driver hold an instance that they read earlier and without a lock: the profile
and the KYC screens save all of it, and the penalty of a driver who cancels too often saves the
lockout and the rating.  What such an instance holds comes with the request, however old it is.
-/
import SaaradhiGo.Rides.ActiveTrip
import SaaradhiGo.Drivers.Presence
import SaaradhiGo.Lib.Serial
import SaaradhiGo.Lib.TwoPhase

namespace SaaradhiGo.Rides.Lifecycle

open TwoPhase

/-- A status is looked up in a list of them by equality. -/
local instance : LawfulBEq (Option TripStatus) := inferInstance

/-! ## Rows -/

/-- `Trip`, with the columns that its transactions read and write. -/
structure Trip where
  id : ℕ
  rider : ℕ
  driver : Option ℕ
  vehicle : Option ℕ
  status : Option TripStatus
  otp : Option String
  acceptedAt : Option ℤ
  reachedAt : Option ℤ
  startedAt : Option ℤ
  completedAt : Option ℤ
  cancelledAt : Option ℤ
  cancelledBy : String
  cancellationReason : String
  cancellationFeeMinor : Option ℤ
  /-- `end_rule`: how an operator ended the trip. -/
  endRule : String
  clientRequestId : Option String
deriving DecidableEq

/-- `Driver`, with the columns that the gates of an accept read and that the rides write. -/
structure Driver where
  id : ℕ
  user : ℕ
  mayOperate : Bool
  blocked : Bool
  activeVehicle : Option ℕ
  fatigueLockoutUntil : Option ℤ
  totalTrips : ℤ
  /-- in hundredths -/
  ratings : ℤ
deriving DecidableEq

/-- The two tables. -/
structure Db where
  trips : Serial Trip.id
  drivers : Serial Driver.id

def Trip.Occupies (t : Trip) (driver : ℕ) : Prop :=
  t.driver = some driver ∧ ∃ c ∈ driverActiveTripStatuses, t.status = some c

instance (t : Trip) (driver : ℕ) : Decidable (t.Occupies driver) :=
  inferInstanceAs (Decidable (_ ∧ ∃ c ∈ driverActiveTripStatuses, t.status = some c))

/-- `driver_active_trip_ids`. -/
def Db.activeTripIds (db : Db) (driver excludeTripId : ℕ) : List ℕ :=
  (db.trips.rows.filter fun t => t.Occupies driver ∧ t.id ≠ excludeTripId).map Trip.id

/-- `trip.save()`: every column of the row is written. -/
def Db.save (db : Db) (t : Trip) : Db :=
  { db with
    trips := db.trips.updateWhere (·.id = t.id) (fun r => { t with id := r.id }) (fun _ => rfl) }

/-- `trip.save(update_fields=[...])`: some columns of the row are written. -/
def Db.update (db : Db) (id : ℕ) (f : Trip → Trip) (hf : ∀ t, (f t).id = t.id) : Db :=
  { db with trips := db.trips.updateWhere (·.id = id) f hf }

/-- An update of the row of a driver that leaves its user. -/
def Db.updateDriver (db : Db) (id : ℕ) (f : Driver → Driver) (hf : ∀ d, (f d).id = d.id) : Db :=
  { db with drivers := db.drivers.updateWhere (·.id = id) f hf }

/-- `total_trips=F('total_trips') + 1`. -/
def Db.countTrip (db : Db) (driver : ℕ) : Db :=
  db.updateDriver driver (fun d => { d with totalTrips := d.totalTrips + 1 }) fun _ => rfl

/-- `driver.save()`: every column is written as the instance holds it.  The user of a driver is
never changed. -/
def Db.saveDriver (db : Db) (held : Driver) : Db :=
  db.updateDriver held.id (fun d => { held with id := d.id, user := d.user }) fun _ => rfl

/-! ## Statements -/

/-- The rows that are locked. -/
inductive Key where
  | trip (id : ℕ)
  | driver (id : ℕ)
deriving DecidableEq

abbrev Tx : Type := Txn Key Db

/-- `Trip.objects.select_for_update(...).get(id=...)`. -/
def lockTrip (id : ℕ) (k : Trip → Tx) : Tx :=
  .lock (.trip id) fun db =>
    match db.trips.get? id with
    | none => .abort
    | some t => k t

/-- `Driver.objects.select_for_update(...).get(pk=...)`. -/
def lockDriver (id : ℕ) (k : Driver → Tx) : Tx :=
  .lock (.driver id) fun db =>
    match db.drivers.get? id with
    | none => .abort
    | some d => k d

/-- The writes are committed, unless something in the transaction raises. -/
def finish (raises : Bool) (w : Db → Db) : Tx := if raises then .abort else .commit w

/-- The first 255 characters. -/
def clip (text : String) : String := String.ofList (text.toList.take 255)

/-! ## Booking -/

/-- What a booking brings. -/
structure BookInput where
  rider : ℕ
  clientRequestId : Option String
  raises : Bool
deriving DecidableEq

def Db.hasRequest (db : Db) (i : BookInput) : Bool :=
  i.clientRequestId.isSome &&
    db.trips.rows.any fun t => t.rider = i.rider && t.clientRequestId = i.clientRequestId

/-- The row of a booking. -/
def BookInput.trip (i : BookInput) (id : ℕ) : Trip where
  id := id
  rider := i.rider
  driver := none
  vehicle := none
  status := some .requested
  otp := none
  acceptedAt := none
  reachedAt := none
  startedAt := none
  completedAt := none
  cancelledAt := none
  cancelledBy := ""
  cancellationReason := ""
  cancellationFeeMinor := none
  endRule := ""
  clientRequestId := i.clientRequestId

/-- The insert; the unique index refuses a second trip for the request. -/
def Db.book (db : Db) (i : BookInput) : Db :=
  if db.hasRequest i then db
  else { db with trips := db.trips.insert i.trip (fun _ => rfl) }

/-- `_create_trip`: the request is looked up, and then the trip is inserted. -/
def createTrip (i : BookInput) : Tx :=
  .read fun db => if db.hasRequest i then .abort else finish i.raises fun db => db.book i

/-! ## The accept -/

/-- What an accept brings: the seconds the driver was active in the last day, and a new OTP. -/
structure AcceptInput where
  trip : ℕ
  driver : ℕ
  activeSeconds : ℕ
  otp : String
  now : ℤ
  raises : Bool
deriving DecidableEq

/-- The row of an accepted trip. -/
def Trip.accepted (t : Trip) (d : Driver) (i : AcceptInput) : Trip :=
  { t with
    driver := some d.id
    status := some .accepted
    acceptedAt := some i.now
    vehicle := d.activeVehicle
    otp := some i.otp }

/-- `_accept_trip`.  A driver who has reached the cap is refused and locked out. -/
def acceptTrip (i : AcceptInput) : Tx :=
  lockTrip i.trip fun t =>
    if t.driver.isSome then .abort
    else if t.status ∉ [none, some .requested] then .abort
    else lockDriver i.driver fun d =>
      if !d.mayOperate then .abort
      else if d.blocked then .abort
      else if d.activeVehicle = none then .abort
      else if ∃ u ∈ d.fatigueLockoutUntil, i.now < u then .abort
      else if Drivers.fatigueCapSeconds ≤ i.activeSeconds then
        .commit fun db => db.updateDriver d.id
          (fun d => { d with
            fatigueLockoutUntil :=
              some (i.now + (Drivers.fatigueLockoutSeconds * Drivers.second : ℕ)) })
          fun _ => rfl
      else .read fun db =>
        if db.activeTripIds d.id t.id ≠ [] then .abort
        else finish i.raises fun db => db.save (t.accepted d i)

/-! ## The commands of the socket -/

/-- What a command brings; `otp` is `str(otp_input)`. -/
structure UpdateInput where
  trip : ℕ
  command : Command
  otp : String
  cancelledBy : String
  cancellationReason : String
  now : ℤ
  raises : Bool
deriving DecidableEq

/-- `str(trip.otp)`. -/
def Trip.otpText (t : Trip) : String := t.otp.getD "None"

/-- The row after a command. -/
def Trip.commanded (t : Trip) (i : UpdateInput) : Trip :=
  match i.command with
  | .reached => { t with status := some .reached, reachedAt := some i.now }
  | .inProgress => { t with status := some .inProgress, startedAt := some i.now }
  | .completed => { t with status := some .completed, completedAt := some i.now }
  | .cancelled =>
      { t with
        status := some .cancelled
        cancelledAt := some i.now
        cancelledBy := if i.cancelledBy = "" then "system" else i.cancelledBy
        cancellationReason := i.cancellationReason }

/-- The writes are committed with the trip counted for its driver. -/
def finishCounted (raises : Bool) (driver : Option ℕ) (w : Db → Db) : Tx :=
  match driver with
  | none => finish raises w
  | some d => .lock (.driver d) fun _ => finish raises fun db => (w db).countTrip d

def updateTripStatus (i : UpdateInput) : Tx :=
  lockTrip i.trip fun t =>
    if t.status ∉ i.command.allowedFrom.map some then .abort
    else if i.command = .inProgress ∧ t.otpText ≠ i.otp then .abort
    else if i.command = .completed then
      finishCounted i.raises t.driver fun db => db.save (t.commanded i)
    else finish i.raises fun db => db.save (t.commanded i)

/-! ## Cancellations -/

/-- What a cancellation brings. -/
structure CancelInput where
  trip : ℕ
  user : ℕ
  reason : String
  now : ℤ
  raises : Bool
deriving DecidableEq

/-- The four columns of a cancellation. -/
def Trip.cancelled (t : Trip) (cancelledBy reason : String) (now : ℤ) : Trip :=
  { t with
    status := some .cancelled
    cancelledAt := some now
    cancelledBy := cancelledBy
    cancellationReason := reason }

def Db.cancel (db : Db) (id : ℕ) (cancelledBy reason : String) (now : ℤ) : Db :=
  db.update id (fun t => t.cancelled cancelledBy reason now) fun _ => rfl

def cancelPenaltyThreshold : ℕ := 3

def cancelLockoutSeconds : ℕ := 60 * 60

/-- `CANCEL_RATING_PENALTY`, in hundredths. -/
def cancelRatingPenalty : ℤ := 10

/-- What the cancellation of a driver brings besides.  The lockout and the rating are those of the
instance that was read with the trip, without a lock. -/
structure DriverCancelInput extends CancelInput where
  /-- the cancellations of the driver in the window, with this one -/
  recentCount : ℕ
  /-- when the penalty reads the clock -/
  penaltyNow : ℤ
  heldLockout : Option ℤ
  heldRatings : ℤ
deriving DecidableEq

/-- `locked_until`, unless the instance holds a later one. -/
def DriverCancelInput.lockout (i : DriverCancelInput) : ℤ :=
  let lockedUntil := i.penaltyNow + (cancelLockoutSeconds * Drivers.second : ℕ)
  match i.heldLockout with
  | none => lockedUntil
  | some cur => if cur < lockedUntil then lockedUntil else cur

/-- The row of a driver that `apply_cancellation_penalty` has locked out. -/
def Driver.penalised (d : Driver) (i : DriverCancelInput) : Driver :=
  { d with
    fatigueLockoutUntil := some i.lockout
    ratings := max 0 (i.heldRatings - cancelRatingPenalty) }

/-- `cancel_trip_driver`, with `apply_cancellation_penalty`.  The user of the driver is read with
the trip, not locked. -/
def cancelTripDriver (i : DriverCancelInput) : Tx :=
  .lock (.trip i.trip) fun db =>
    match db.trips.get? i.trip with
    | none => .abort
    | some t =>
        match t.driver.bind db.drivers.get? with
        | none => .abort
        | some d =>
            if d.user ≠ i.user then .abort
            else if t.status ∉ [some .accepted, some .reached] then .abort
            else if i.recentCount < cancelPenaltyThreshold then
              finish i.raises fun db => db.cancel t.id "driver" (clip i.reason) i.now
            -- The row of the driver is locked by the update alone.
            else .lock (.driver d.id) fun _ => finish i.raises fun db =>
              (db.cancel t.id "driver" (clip i.reason) i.now).updateDriver d.id (·.penalised i)
                fun _ => rfl

def riderCancelTrip (i : CancelInput) : Tx :=
  lockTrip i.trip fun t =>
    if t.rider ≠ i.user then .abort
    else if t.status ∈ [some .completed, some .cancelled] then .abort
    else if t.status ∉ [some .requested, some .accepted, some .reached, some .inProgress] then
      .abort
    else finish i.raises fun db => db.cancel t.id "rider" (clip i.reason) i.now

def autoCancelTrip (id : ℕ) (now : ℤ) (raises : Bool) : Tx :=
  lockTrip id fun t =>
    if t.driver.isSome then .abort
    else if t.status ∈ [some .completed, some .cancelled, some .accepted, some .reached,
        some .inProgress] then .abort
    else finish raises fun db => db.cancel t.id "system" "no_driver_accepted" now

/-- What an operator brings. -/
structure OperatorInput where
  trip : ℕ
  /-- `reason_code`, with the note behind it -/
  reason : String
  waiveFee : Bool
  now : ℤ
  raises : Bool
deriving DecidableEq

def Trip.operatorCancelled (t : Trip) (i : OperatorInput) : Trip :=
  { t.cancelled "admin" (clip i.reason) i.now with
    cancellationFeeMinor :=
      if i.waiveFee ∧ t.cancellationFeeMinor.getD 0 ≠ 0 then some 0 else t.cancellationFeeMinor }

/-- `operator_cancel`, on the locked row. -/
def operatorCancelLocked (i : OperatorInput) (t : Trip) : Tx :=
  if t.status = some .cancelled ∧ t.cancelledBy = "admin" then .abort
  else if t.status ∉ [some .requested, some .accepted, some .reached] then .abort
  else finish i.raises fun db => db.update t.id (·.operatorCancelled i) fun _ => rfl

def operatorCancel (i : OperatorInput) : Tx := lockTrip i.trip (operatorCancelLocked i)

/-! ## The stale trips -/

/-- What an operator brings who releases the driver of a stale trip: whether the trip is stale
now, and the rule of the plan for a started one. -/
structure ReleaseInput where
  cancel : OperatorInput
  stale : Bool
  endRule : Option String
deriving DecidableEq

def Trip.ended (t : Trip) (rule : String) (now : ℤ) : Trip :=
  { t with status := some .completed, completedAt := some now, endRule := rule }

/-- `admin_stale_release_driver`.  A trip that is over is left to the repair of the driver's
marker. -/
def staleReleaseDriver (i : ReleaseInput) : Tx :=
  lockTrip i.cancel.trip fun t =>
    if t.driver = none then .abort
    else if t.endRule ≠ "" then .abort
    else if t.status ∈ [some .completed, some .cancelled] then .abort
    else if !i.stale then .abort
    else if t.status = some .inProgress then
      match i.endRule with
      | none => .abort
      | some rule =>
          finishCounted i.cancel.raises t.driver fun db =>
            db.update t.id (·.ended rule i.cancel.now) fun _ => rfl
    else if t.status ∉ [some .accepted, some .reached] then .abort
    else operatorCancelLocked { i.cancel with waiveFee := true } t

/-! ## Requests -/

/-- The columns of a driver that others change under its lock: an approval, a block, another
vehicle. -/
structure DriverEdit where
  mayOperate : Bool
  blocked : Bool
  activeVehicle : Option ℕ
deriving DecidableEq

def Driver.edited (d : Driver) (e : DriverEdit) : Driver :=
  { d with mayOperate := e.mayOperate, blocked := e.blocked, activeVehicle := e.activeVehicle }

/-- What a session is asked for. -/
inductive Request where
  | createTrip (i : BookInput)
  | acceptTrip (i : AcceptInput)
  | updateTripStatus (i : UpdateInput)
  | cancelTripDriver (i : DriverCancelInput)
  | riderCancelTrip (i : CancelInput)
  | autoCancelTrip (id : ℕ) (now : ℤ) (raises : Bool)
  | operatorCancel (i : OperatorInput)
  | staleReleaseDriver (i : ReleaseInput)
  | editDriver (id : ℕ) (e : DriverEdit)
  | saveDriver (held : Driver)

/-- The transaction of a request. -/
def transaction : Request → Tx
  | .createTrip i => createTrip i
  | .acceptTrip i => acceptTrip i
  | .updateTripStatus i => updateTripStatus i
  | .cancelTripDriver i => cancelTripDriver i
  | .riderCancelTrip i => riderCancelTrip i
  | .autoCancelTrip id now raises => autoCancelTrip id now raises
  | .operatorCancel i => operatorCancel i
  | .staleReleaseDriver i => staleReleaseDriver i
  | .editDriver id e =>
      lockDriver id fun _ => .commit fun db => db.updateDriver id (·.edited e) fun _ => rfl
  | .saveDriver held => .lock (.driver held.id) fun _ => .commit fun db => db.saveDriver held

section Sessions

variable {τ : Type} [DecidableEq τ]

abbrev RideSystem (τ : Type) : Type := System Key Db τ Request

def ridesStep (p : RideSystem τ) (m : Move τ Request) : RideSystem τ := System.step transaction p m

def ridesAfter (db : Db) (ms : List (Move τ Request)) : RideSystem τ :=
  Transition.run ridesStep (System.opening db) ms

lemma ridesAfter_snoc (db : Db) (ms : List (Move τ Request)) (m : Move τ Request) :
    ridesAfter db (ms ++ [m]) = ridesStep (ridesAfter db ms) m := by
  rw [ridesAfter, Transition.run_append]
  rfl

end Sessions

end SaaradhiGo.Rides.Lifecycle
