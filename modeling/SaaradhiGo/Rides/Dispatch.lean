/-
The search for a driver.

A search is a sequence of waves, each a task that asks the geo index who is near, leaves out whom
the search has asked already, and sends an offer to the others.  A wave reads the row of the trip
and goes on only if the trip may still be dispatched; at its end it queues the next one.  Waves may
be delayed, run twice or outlive a later search; every read and every write of a wave is a step of
its own.
-/
import SaaradhiGo.Lib.Transition
import SaaradhiGo.Rides.ActiveTrip
import Mathlib.Algebra.Order.Ring.Int

namespace SaaradhiGo.Dispatch

open SaaradhiGo.Rides (Trip TripStatus)

/-! ## Whether a trip may be dispatched -/

def dispatchableStatuses : List (Option TripStatus) := [none, some .requested]

/-- `load_dispatch_state(..).dispatchable`, of the row that was read. -/
def dispatchable (seen : Option Trip) : Bool :=
  seen.any fun trip => trip.driver = none && dispatchableStatuses.contains trip.status

/-! ## Radii -/

/-- `MAX_WAVE_RADIUS_M`. -/
def maxWaveRadius : ℤ := 5000

/-- `wave_plan`: one radius that was asked for, or the configured ones. -/
def wavePlan (configured : List ℤ) (radius : Option ℤ) : List ℤ :=
  match radius.filter (· ≠ 0) with
  | some r => [min r maxWaveRadius]
  | none =>
      let plan := configured.filter (0 < ·)
      if plan = [] then [maxWaveRadius] else plan

/-! ## Who is asked -/

/-- `Driver`, with what makes one eligible. -/
structure Driver where
  id : ℕ
  approved : Bool
  status : String
  qaSimulatedEligibility : Bool
deriving DecidableEq, Repr

/-- `may_operate`; `qa` says that simulated eligibility is honoured here. -/
def Driver.mayOperate (qa : Bool) (d : Driver) : Bool :=
  d.approved || (d.qaSimulatedEligibility && qa)

/-- `dispatchable_driver_ids`: those of the ids that may be offered a trip. -/
def dispatchableDriverIds (qa : Bool) (drivers : Table Driver.id) (ids : List String) :
    List String :=
  ids.filter fun i => drivers.rows.any fun d =>
    toString d.id = i && d.status ≠ "blocked" && d.mayOperate qa

/-- The driver that a member of the geo index stands for, `driver:<id>:<type>`. -/
def driverOfMember (member : String) : Option String :=
  if member.toList.take 7 = "driver:".toList then
    some (String.ofList ((member.toList.drop 7).takeWhile (· ≠ ':')))
  else none

/-- The loop of `_candidate_driver_ids`: who was found, without whom this search has asked. -/
def notYetAsked (already found : List String) : List String :=
  found.foldl
    (fun ids member =>
      match driverOfMember member with
      | none => ids
      | some id => if id ∈ already ∨ id ∈ ids then ids else ids ++ [id])
    []

/-! ## Waves -/

/-- The arguments of `dispatch_wave`. -/
structure Task where
  trip : ℕ
  waveIndex : ℕ
  epoch : ℕ
  radii : List ℤ
deriving DecidableEq, Repr

/-- What a wave saw at its gate: the row of the trip, or that there is none. -/
structure Gate where
  task : Task
  seen : Option Trip
deriving DecidableEq, Repr

/-- How far a wave has come after its gate. -/
inductive Stage where
  | gated
  /-- the geo index and the record of the search were read -/
  | selected (ids : List String)
  | candidates (ids : List String)
  /-- the record was written; these are still to be asked -/
  | sending (todo : List String)
deriving DecidableEq, Repr

/-- A wave that runs; `gate` is the number of its gate. -/
structure Wave where
  task : Task
  gate : ℕ
  stage : Stage
deriving DecidableEq, Repr

/-- An offer: the `ride_request` to one driver, over the socket and as a push. -/
structure Offer where
  epoch : ℕ
  trip : ℕ
  driver : String
  /-- the number of the gate of the wave that sent it -/
  gate : ℕ
deriving DecidableEq, Repr

structure World where
  trips : Table Trip.id
  drivers : Table Driver.id
  /-- the radii of the searches that were started; an epoch is a place in this list -/
  plans : List (List ℤ)
  /-- `trip:offered:<trip>:gen:<epoch>`; the trip goes with the epoch -/
  generation : ℕ → List String
  tasks : List Task
  running : List Wave
  /-- the gates that waves have come to -/
  gates : List Gate
  offers : List Offer
  /-- the epochs whose tasks were delivered once more, each time -/
  redelivered : List ℕ

/-- Nothing has been started. -/
def World.idle (trips : Table Trip.id) (drivers : Table Driver.id) : World where
  trips
  drivers
  plans := []
  generation := fun _ => []
  tasks := []
  running := []
  gates := []
  offers := []
  redelivered := []

/-! ## Steps -/

section Steps

variable (w : World)

/-- `start_dispatch`; the queue may refuse the task. -/
def startDispatch (configured : List ℤ) (trip : ℕ) (radius : Option ℤ) (enqueued : Bool) : World :=
  let radii := wavePlan configured radius
  let first : Task := { trip, waveIndex := 0, epoch := w.plans.length, radii }
  let tasks := if enqueued then w.tasks ++ [first] else w.tasks
  { w with plans := w.plans ++ [radii], tasks }

/-- The start of `execute_wave`: there is such a wave, and the trip may be dispatched. -/
def World.begin (task : Task) (tasks : List Task) : World :=
  if task.waveIndex < task.radii.length then
    let seen := w.trips.get? task.trip
    let gates := w.gates ++ [⟨task, seen⟩]
    if dispatchable seen then
      { w with tasks, gates, running := w.running ++ [⟨task, w.gates.length, .gated⟩] }
    else { w with tasks, gates }
  else { w with tasks }

def World.goto (i : ℕ) (wave : Wave) (stage : Stage) : World :=
  { w with running := w.running.set i { wave with stage } }

/-- `add_generation_offers`; Redis may not answer. -/
def addGenerationOffers (answers : Bool) (epoch : ℕ) (ids : List String) : World :=
  let known := if answers then w.generation epoch ++ ids else w.generation epoch
  { w with generation := Function.update w.generation epoch known }

/-- `_schedule_successor`, and the wave is over. -/
def scheduleSuccessor (i : ℕ) (task : Task) (enqueued : Bool) : World :=
  let next : Task := { task with waveIndex := task.waveIndex + 1 }
  let tasks :=
    if next.waveIndex < task.radii.length ∧ dispatchable (w.trips.get? task.trip) = true ∧
        enqueued = true then
      w.tasks ++ [next]
    else w.tasks
  { w with tasks, running := w.running.eraseIdx i }

/-- What can happen. -/
inductive Act where
  | start (trip : ℕ) (radius : Option ℤ) (enqueued : Bool)
  /-- a task of the queue is taken up -/
  | begin (i : ℕ)
  /-- a wave reads whom the geo index finds, if it answers, and whom the search has asked -/
  | select (i : ℕ) (found : Option (List String)) (answers : Bool)
  /-- a wave reads the drivers -/
  | filter (i : ℕ)
  /-- a wave records whom it is about to ask -/
  | record (i : ℕ) (answers : Bool)
  /-- a wave asks the next driver -/
  | send (i : ℕ)
  /-- a wave queues the next one and is over -/
  | succeed (i : ℕ) (enqueued : Bool)
  /-- a worker dies or fails, and its task is delivered once more or not -/
  | crash (i : ℕ) (requeued : Bool)
  /-- a task of the queue is delivered twice -/
  | duplicate (i : ℕ)
  /-- a task is delivered once more while it runs -/
  | redeliver (i : ℕ)
  | drop (i : ℕ)
  /-- the record of a search expires -/
  | expire (epoch : ℕ)
  /-- the trip is accepted, cancelled or changed otherwise -/
  | saveTrip (trip : Trip)
  | deleteTrip (id : ℕ)
  /-- drivers come and go -/
  | saveDriver (d : Driver)
deriving DecidableEq

variable (configured : List ℤ) (qa : Bool)

def step (w : World) : Act → World
  | .start trip radius enqueued => startDispatch w configured trip radius enqueued
  | .begin i =>
      match w.tasks[i]? with
      | some task => w.begin task (w.tasks.eraseIdx i)
      | none => w
  | .select i found answers =>
      match w.running[i]? with
      | some ⟨task, gate, .gated⟩ =>
          match found with
          -- the geo index is not available
          | none => w.goto i ⟨task, gate, .gated⟩ (.candidates [])
          | some found =>
              let already := if answers then w.generation task.epoch else []
              w.goto i ⟨task, gate, .gated⟩ (.selected (notYetAsked already found))
      | _ => w
  | .filter i =>
      match w.running[i]? with
      | some ⟨task, gate, .selected ids⟩ =>
          w.goto i ⟨task, gate, .selected ids⟩
            (.candidates (dispatchableDriverIds qa w.drivers ids))
      | _ => w
  | .record i answers =>
      match w.running[i]? with
      | some ⟨task, gate, .candidates ids⟩ =>
          let recorded := if ids = [] then w else addGenerationOffers w answers task.epoch ids
          recorded.goto i ⟨task, gate, .candidates ids⟩ (.sending ids)
      | _ => w
  | .send i =>
      match w.running[i]? with
      | some ⟨task, gate, .sending (driver :: todo)⟩ =>
          let sent := w.goto i ⟨task, gate, .sending (driver :: todo)⟩ (.sending todo)
          { sent with offers := w.offers ++ [⟨task.epoch, task.trip, driver, gate⟩] }
      | _ => w
  | .succeed i enqueued =>
      match w.running[i]? with
      | some ⟨task, _, .sending []⟩ => scheduleSuccessor w i task enqueued
      | _ => w
  | .crash i requeued =>
      match w.running[i]? with
      | some wave =>
          let gone := { w with running := w.running.eraseIdx i }
          if requeued then
            { gone with
              tasks := w.tasks ++ [wave.task], redelivered := w.redelivered ++ [wave.task.epoch] }
          else gone
      | none => w
  | .duplicate i =>
      match w.tasks[i]? with
      | some task =>
          { w with tasks := w.tasks ++ [task], redelivered := w.redelivered ++ [task.epoch] }
      | none => w
  | .redeliver i =>
      match w.running[i]? with
      | some wave =>
          { w with
            tasks := w.tasks ++ [wave.task], redelivered := w.redelivered ++ [wave.task.epoch] }
      | none => w
  | .drop i => { w with tasks := w.tasks.eraseIdx i }
  | .expire epoch => { w with generation := Function.update w.generation epoch [] }
  | .saveTrip trip => { w with trips := w.trips.put trip }
  | .deleteTrip id => { w with trips := w.trips.erase id }
  | .saveDriver d => { w with drivers := w.drivers.put d }

end Steps

end SaaradhiGo.Dispatch
