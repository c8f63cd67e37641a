/-
Trips that no commission rule governs: putting their settlement off, the alert that stays open
meanwhile, and the runs that try again.

A call reads the rule of its trip first and settles, or raises the alert, in a transaction of its
own afterwards; a run of `retry_all` reads the open alerts once and then goes through their trips
one by one.  Between any two of these steps the other calls may do theirs, trips may complete and
the commission rules may change.
-/
import SaaradhiGo.Commission.Rule
import SaaradhiGo.Lib.Serial
import SaaradhiGo.Lib.Transition

namespace SaaradhiGo.Unsettled

open Commission

/-! ## Trips and alerts -/

/-- `Trip`, with what its settlement depends on.  A percent is in hundredths. -/
structure Trip where
  id : ℕ
  driver : Option ℕ
  endRule : String
  commissionPercentSnapshot : Option ℤ
  country : String
  city : Option ℕ
  vehicleType : Option ℕ
  requestedAt : ℤ

/-- The trip is settled with a driver: one is assigned, and the platform has not paid them. -/
def Trip.payable (t : Trip) : Bool := t.driver.isSome && t.endRule != "platform_funded"

/-- `commission_for_trip` finds a percent: the trip's own, or that of the rule in force when it
was requested. -/
def governed (m : Market) (books : Books) (t : Trip) : Bool :=
  t.commissionPercentSnapshot.isSome ||
    (rate m books t.country t.city t.vehicleType t.requestedAt).isSome

/-- `OperatorAlert`, of the kind `settlement.no_commission_rule`. -/
structure Alert where
  id : ℕ
  /-- `source_id`: the trip. -/
  sourceId : ℕ
  /-- `acknowledged_note`, which is set with `acknowledged_at`. -/
  acknowledgedNote : Option String
deriving DecidableEq

def Alert.isOpen (a : Alert) : Bool := a.acknowledgedNote.isNone

/-- `open_alerts`, oldest first. -/
def openAlerts (alerts : Serial Alert.id) : List Alert := alerts.rows.filter Alert.isOpen

def openFor (alerts : Serial Alert.id) (trip : ℕ) : Option Alert :=
  (openAlerts alerts).reverse.find? fun a => a.sourceId = trip

def raised (trip id : ℕ) : Alert := ⟨id, trip, none⟩

def Alert.clear (why : String) (a : Alert) : Alert :=
  { a with acknowledgedNote := some ("cleared: " ++ why) }

/-! ## Calls -/

/-- What a call about a trip does next. -/
inductive Task where
  /-- `credit_driver_wallet`: its transaction.  A retry then clears the alert. -/
  | credit (trip : ℕ) (retry : Bool)
  /-- `raise_alert`: look for the open alert. -/
  | look (trip : ℕ)
  /-- `raise_alert`: none is open, create one. -/
  | create (trip : ℕ)
  /-- `resolve_unsettled_alert`: look for the open alert. -/
  | find (trip : ℕ) (why : String)
  /-- `resolve_unsettled_alert`: acknowledge the one that was open. -/
  | clear (trip alert : ℕ) (why : String)

/-- A worker: what it is about to do, and the trips of the alerts `retry_all` has still to go
through. -/
structure Worker where
  task : Option Task
  queue : List ℕ

def Worker.idle : Worker := ⟨none, []⟩

/-- The tables, and the calls under way. -/
structure State where
  trips : Table Trip.id
  books : Books
  /-- The trips with a `TripSettlement`. -/
  settled : List ℕ
  alerts : Serial Alert.id
  /-- The trips whose settlement has been put off so far. -/
  deferred : List ℕ
  workers : ℕ → Worker

def State.opening (books : Books) : State := ⟨.empty, books, [], .empty, [], fun _ => .idle⟩

def note (trip : ℕ) (trips : List ℕ) : List ℕ :=
  if trips.contains trip then trips else trip :: trips

def State.resume (s : State) (worker : ℕ) (w : Worker) : State :=
  { s with workers := fun k => if k = worker then w else s.workers k }

/-- The worker's next task, before it goes on with its queue. -/
def State.turn (s : State) (worker : ℕ) (task : Option Task) : State :=
  s.resume worker { s.workers worker with task := task }

/-- `settle_or_defer`, up to its first write. -/
def settleOrDefer (m : Market) (s : State) (worker : ℕ) (t : Trip) (retry : Bool) : State :=
  if t.payable then
    if governed m s.books t then s.turn worker (some (.credit t.id retry))
    else { s with deferred := note t.id s.deferred }.turn worker (some (.look t.id))
  else s.turn worker (if retry then some (.find t.id "the trip was settled") else none)

/-- `retry_trip`, up to its first write. -/
def retryTrip (m : Market) (s : State) (worker : ℕ) (t : Trip) : State :=
  if s.settled.contains t.id then s.turn worker (some (.find t.id "the trip is already settled"))
  else settleOrDefer m s worker t true

def retryBatch : ℕ := 200

/-- The trips of the alerts a run of `retry_all` goes through. -/
def batch (alerts : Serial Alert.id) : List ℕ :=
  ((openAlerts alerts).take retryBatch).map Alert.sourceId

/-- A worker does its task.  Raising an alert may fail, which is logged and no more. -/
def perform (s : State) (worker : ℕ) (fails : Bool) : Task → State
  | .credit trip retry =>
      { s with settled := note trip s.settled }.turn worker
        (if retry then some (.find trip "the trip was settled") else none)
  | .look trip =>
      s.turn worker
        (if fails || (openFor s.alerts trip).isSome then none else some (.create trip))
  | .create trip =>
      if fails then s.turn worker none
      else { s with alerts := s.alerts.insert (raised trip) fun _ => rfl }.turn worker none
  | .find trip why =>
      s.turn worker ((openFor s.alerts trip).map fun a => .clear trip a.id why)
  | .clear _ alert why =>
      { s with
        alerts := s.alerts.updateWhere (fun a => a.id = alert ∧ a.isOpen = true) (Alert.clear why)
          fun _ => rfl }.turn worker none

/-- What happens. -/
inductive Event where
  | complete (t : Trip)
  /-- The commission rules change. -/
  | rules (books : Books)
  /-- A path that ends or pays for a trip calls `settle_or_defer`. -/
  | settle (worker trip : ℕ)
  | retry (worker trip : ℕ)
  /-- The hourly task begins: it reads the open alerts. -/
  | retryAll (worker : ℕ)
  | next (worker : ℕ) (fails : Bool)

def State.free (s : State) (worker : ℕ) : Bool :=
  (s.workers worker).task.isNone && (s.workers worker).queue.isEmpty

def step (m : Market) (s : State) : Event → State
  | .complete t =>
      match s.trips.get? t.id with
      | some _ => s
      | none => { s with trips := s.trips.put t }
  | .rules books => { s with books := books }
  | .settle worker trip =>
      match s.free worker, s.trips.get? trip with
      | true, some t => settleOrDefer m s worker t false
      | _, _ => s
  | .retry worker trip =>
      match s.free worker, s.trips.get? trip with
      | true, some t => retryTrip m s worker t
      | _, _ => s
  | .retryAll worker => if s.free worker then s.resume worker ⟨none, batch s.alerts⟩ else s
  | .next worker fails =>
      match (s.workers worker).task, (s.workers worker).queue with
      | some task, _ => perform s worker fails task
      | none, [] => s
      | none, trip :: queue =>
          let s' := s.resume worker ⟨none, queue⟩
          match s.trips.get? trip with
          | none => s'.turn worker (some (.find trip "the trip no longer exists"))
          | some t => retryTrip m s' worker t

abbrev run (m : Market) (s : State) (events : List Event) : State :=
  Transition.run (step m) s events

end SaaradhiGo.Unsettled
