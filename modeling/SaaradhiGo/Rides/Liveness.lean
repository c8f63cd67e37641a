/-
Silent trips: what the drivers' activity leaves on a trip, and the sweep that flags the silent ones.

A sweep reads its candidates in one query and then flags them one by one, each in a transaction of
its own that reads the row again under a lock.  Between two of these anything may happen to a trip:
the driver is active, the trip moves along or ends, an operator reviews it, another sweep flags it.
Each of these is a step of its own.
-/
import SaaradhiGo.Rides.ActiveTrip
import SaaradhiGo.Lib.Transition
import Mathlib.Data.List.Sort

namespace SaaradhiGo.Liveness

/-! ## Trips -/

/-- `Trip`, with what its liveness depends on.  A time is in microseconds. -/
structure Trip where
  id : ℕ
  status : Option Rides.TripStatus
  requestedAt : Option ℤ
  acceptedAt : Option ℤ
  reachedAt : Option ℤ
  startedAt : Option ℤ
  lastDriverActivityAt : Option ℤ
  staleFlaggedAt : Option ℤ
  staleReason : String
  staleReviewedAt : Option ℤ

/-- The settings, in seconds. -/
structure Settings where
  writeInterval : ℤ
  staleAfter : ℤ
  attentionAfter : ℤ

/-- `timedelta(seconds=n)`. -/
def seconds (n : ℤ) : ℤ := n * 1000000

def Trip.active (t : Trip) : Bool := t.status.any fun c => c ∈ Rides.driverActiveTripStatuses

/-! ## Classification -/

/-- `last_known_activity`: the newest of the times. -/
def lastKnownActivity (t : Trip) : Option ℤ :=
  ([t.lastDriverActivityAt, t.startedAt, t.reachedAt, t.acceptedAt, t.requestedAt].filterMap
    id).max?

/-- The classifications of `classify`. -/
inductive Classification where
  | healthy | stale | operatorAttention
deriving DecidableEq

/-- `classify`: the class, the silent seconds and the reason. -/
def classify (cfg : Settings) (now : ℤ) (t : Trip) : Classification × Option ℤ × String :=
  match lastKnownActivity t with
  | none => (.operatorAttention, none, "no_activity_evidence")
  | some last =>
      let silent := (now - last).tdiv 1000000
      if silent < cfg.staleAfter then (.healthy, some silent, "")
      else if silent < cfg.attentionAfter then (.stale, some silent, "driver_silent")
      else (.operatorAttention, some silent, "driver_silent_long")

def reviewedCoversSilence (t : Trip) : Bool :=
  match t.staleReviewedAt with
  | none => false
  | some reviewed =>
      match lastKnownActivity t with
      | none => true
      | some last => last ≤ reviewed

/-! ## Candidates -/

/-- The condition of the query on the times. -/
def quiet (cfg : Settings) (now : ℤ) (t : Trip) : Bool :=
  let cutoff := now - seconds cfg.staleAfter
  match t.lastDriverActivityAt, t.startedAt, t.acceptedAt with
  | some active, _, _ => active < cutoff
  | none, some started, _ => started < cutoff
  | none, none, some accepted => accepted < cutoff
  | none, none, none => false

/-- Ascending, with what is not set at the end. -/
def nullsLast : Option ℤ → Option ℤ → Bool
  | some a, some b => a ≤ b
  | _, none => true
  | none, some _ => false

/-- `order_by('last_driver_activity_at', 'accepted_at')`. -/
def before (t u : Trip) : Bool :=
  if t.lastDriverActivityAt = u.lastDriverActivityAt then nullsLast t.acceptedAt u.acceptedAt
  else nullsLast t.lastDriverActivityAt u.lastDriverActivityAt

/-- The silent active trips, the longest silence first. -/
def silentTrips (cfg : Settings) (now : ℤ) (trips : List Trip) : List Trip :=
  (trips.filter fun t => t.active && quiet cfg now t).insertionSort fun t u => before t u = true

def staleCandidates (cfg : Settings) (now : ℤ) (limit : ℕ) (trips : List Trip) : List Trip :=
  (silentTrips cfg now trips).take limit

/-! ## The sweep -/

/-- What becomes of a candidate. -/
inductive Outcome where
  | healthy | already | reviewed | gone
  | flagged (reason : String)
deriving DecidableEq

def Trip.flag (t : Trip) (now : ℤ) (reason : String) : Trip :=
  { t with
    staleFlaggedAt := some now
    staleReason := String.ofList (reason.toList.take 64) }

/-- The body of the loop of `flag_stale_trips`, for one candidate as the query read it. -/
def flagCandidate (cfg : Settings) (now : ℤ) (t : Trip) (trips : Table Trip.id) :
    Outcome × Table Trip.id :=
  let (classification, _, reason) := classify cfg now t
  if classification = .healthy then (.healthy, trips)
  else if t.staleFlaggedAt.isSome then (.already, trips)
  else if reviewedCoversSilence t then (.reviewed, trips)
  else
    -- the row is read again under a lock
    match trips.get? t.id with
    | none => (.gone, trips)
    | some locked =>
        if !locked.active then (.gone, trips)
        else if locked.staleFlaggedAt.isSome then (.already, trips)
        else if reviewedCoversSilence locked then (.reviewed, trips)
        else (.flagged reason, trips.put (locked.flag now reason))

/-- `flag_stale_trips`, when nothing comes between its steps. -/
def flagStaleTrips (cfg : Settings) (now : ℤ) (limit : ℕ) (trips : Table Trip.id) :
    Table Trip.id :=
  (staleCandidates cfg now limit trips.rows).foldl (fun ts t => (flagCandidate cfg now t ts).2)
    trips

/-- `record_driver_activity`: one conditional update. -/
def recordDriverActivity (cfg : Settings) (now : ℤ) (id : ℕ) (trips : Table Trip.id) :
    Table Trip.id :=
  match trips.get? id with
  | none => trips
  | some t =>
      if t.lastDriverActivityAt.all fun a => a < now - seconds cfg.writeInterval then
        trips.put
          { t with
            lastDriverActivityAt := some now
            staleFlaggedAt := none
            staleReason := "" }
      else trips

/-! ## The operator's list -/

def activeStatuses : List Rides.TripStatus := [.requested, .accepted, .reached, .inProgress]

def earlier (a : Option ℤ) (b : ℤ) : Bool := a.any fun a => a < b

def staleQ (cfg : Settings) (now : ℤ) (t : Trip) : Bool :=
  let staleCutoff := now - seconds cfg.staleAfter
  let attentionCutoff := now - seconds cfg.attentionAfter
  (t.status = some .requested && t.acceptedAt.isNone && earlier t.requestedAt staleCutoff &&
      t.staleReviewedAt.isNone)
    || (t.status = some .accepted && t.reachedAt.isNone && earlier t.acceptedAt attentionCutoff &&
      (t.staleReviewedAt.isNone || t.acceptedAt.any fun a => earlier t.staleReviewedAt a))
    || (t.status.any fun c => activeStatuses.contains c) && t.staleFlaggedAt.isSome

/-- More than so many seconds have gone by. -/
def passed (now : ℤ) (since : Option ℤ) (n : ℤ) : Bool :=
  since.any fun a => seconds n < now - a

def staleReason (cfg : Settings) (now : ℤ) (t : Trip) : String :=
  if t.status = some .requested ∧ t.acceptedAt = none ∧ t.staleReviewedAt = none ∧
      passed now t.requestedAt cfg.staleAfter then "no_acceptance"
  else if t.status = some .accepted ∧ t.reachedAt = none ∧
      (∃ a ∈ t.acceptedAt, ∀ r ∈ t.staleReviewedAt, r < a) ∧
      passed now t.acceptedAt cfg.attentionAfter then "no_arrival"
  else if (t.status.any fun c => activeStatuses.contains c) ∧ t.staleFlaggedAt.isSome then
    if t.staleReason = "" then "driver_silent" else t.staleReason
  else ""

/-! ## Steps -/

/-- A sweep that is under way: when it began, and the candidates it has not come to. -/
structure Sweep where
  now : ℤ
  pending : List Trip

/-- Trips, workers, and the rows that were flagged with the time of the flag. -/
structure State where
  clock : ℤ
  trips : Table Trip.id
  sweeps : ℕ → Option Sweep
  written : List (Trip × ℤ)

/-- One thing that happens. -/
inductive Event where
  | tick (d : ℕ)
  | activity (id : ℕ)
  /-- any other write of a row: the trip moves along or ends, an operator reviews it -/
  | edit (id : ℕ) (f : Trip → Trip)
  | start (worker limit : ℕ)
  | next (worker : ℕ)

def State.resume (s : State) (worker : ℕ) (sweep : Sweep) : ℕ → Option Sweep :=
  fun w => if w = worker then some sweep else s.sweeps w

def step (cfg : Settings) (s : State) : Event → State
  | .tick d => { s with clock := s.clock + d }
  | .activity id => { s with trips := recordDriverActivity cfg s.clock id s.trips }
  | .edit id f =>
      match s.trips.get? id with
      | none => s
      | some t => { s with trips := s.trips.put { f t with id := id } }
  | .start worker limit =>
      { s with
        sweeps := s.resume worker
          ⟨s.clock, staleCandidates cfg s.clock limit s.trips.rows⟩ }
  | .next worker =>
      match s.sweeps worker with
      | none => s
      | some ⟨_, []⟩ => s
      | some ⟨now, t :: rest⟩ =>
          let (outcome, trips) := flagCandidate cfg now t s.trips
          let flags :=
            match outcome with
            | .flagged _ => (s.trips.get? t.id).toList.map fun locked => (locked, s.clock)
            | _ => []
          { s with
            trips := trips
            sweeps := s.resume worker ⟨now, rest⟩
            written := s.written ++ flags }

abbrev run (cfg : Settings) : State → List Event → State := Transition.run (step cfg)

end SaaradhiGo.Liveness
