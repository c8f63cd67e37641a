/-
The daily rollups of a city.

`rebuild_day` reads the trips requested and completed on a local day of a city, the settlements,
the promo costs and the refunds of the day, groups each by vehicle class and currency, and replaces
the rows of the day.  Currencies are told apart after they are normalised, so several groups can
end in one row.  The columns of the wallet ledger and of expenses, and the other rollup tables, are
left out.
-/
import SaaradhiGo.Lib.Grouping
import SaaradhiGo.Lib.Rebuild
import SaaradhiGo.Lib.Ticks
import SaaradhiGo.Money.Wallet

namespace SaaradhiGo.Reports

open SaaradhiGo.Money Grouping

/-! ## Data -/

/-- `TripStatus.status_code`. -/
inductive TripStatus where
  | requested
  | accepted
  | reached
  | inProgress
  | completed
  | cancelled
deriving DecidableEq, Repr

/-- `CANCELLED_BY_CHOICES`, and blank. -/
inductive CancelledBy where
  | blank
  | rider
  | driver
  | system
  | admin
deriving DecidableEq, Repr

/-- `Trip`, with what a rollup reads of it.  Moments are in microseconds. -/
structure Trip where
  id : ℕ
  /-- `zone.geo_node.path`, when it has a zone with a node -/
  zonePath : Option String
  /-- the name of the class that was requested -/
  requestedVehicleType : Option String
  /-- the name of the class of the vehicle that drove it -/
  vehicleType : Option String
  currency : String
  status : TripStatus
  requestedAt : ℤ
  acceptedAt : Option ℤ
  reachedAt : Option ℤ
  completedAt : Option ℤ
  /-- whoever completes a trip sets the moment with the status -/
  completed_at : status = .completed → completedAt ≠ none
  cancelledBy : CancelledBy
  finalFareMinor : Option ℤ
  estimatedFareMinor : Option ℤ
  /-- in hundredths -/
  actualDistanceKm : Option ℤ
  actualDurationMin : Option ℤ

structure TripSettlement where
  trip : ℕ
  version : ℕ
  currency : String
  grossFareMinor : ℤ
  commissionAmountMinor : ℤ
  driverNetMinor : ℤ
  settledAt : ℤ

/-- `promotions.LedgerEntry` and `TripMoneyAction`: an amount of a trip. -/
structure TripAmount where
  trip : Option ℕ
  kind : String
  currency : String
  amountMinor : ℤ
  createdAt : ℤ

/-- The data a rollup is worked out from. -/
structure Data where
  trips : Table Trip.id
  settlements : List TripSettlement
  settled : ∀ s ∈ settlements, trips.get? s.trip ≠ none
  ledger : List TripAmount
  moneyActions : List TripAmount

/-! ## Days -/

/-- The microseconds of a day. -/
def day : ℤ := 86400 * 1000000

/-- A time zone, by its offset at each local midnight.  An offset is less than a day, and from one
midnight to the next it does not grow by more than a day. -/
structure TimeZone where
  offset : ℤ → ℤ
  lt_day : ∀ d, |offset d| < day
  step_le : ∀ d, offset (d + 1) ≤ offset d + day

namespace TimeZone

variable (tz : TimeZone)

/-- The moment a local date begins. -/
def midnight (d : ℤ) : ℤ := d * day - tz.offset d

/-- The midnights, in order. -/
def midnights : Ticks where
  tick := tz.midnight
  le_succ := by
    intro d
    have hstep := tz.step_le d
    rw [midnight, midnight, add_mul]
    omega
  below := by
    intro m
    have hoffset := abs_lt.mp (tz.lt_day (m / day - 1))
    have hdiv := Int.mul_ediv_add_emod m day
    have hmod := Int.emod_nonneg m (show day ≠ 0 by decide)
    refine ⟨m / day - 1, ?_⟩
    rw [midnight, sub_mul, mul_comm (m / day)]
    omega
  above := by
    intro m
    have hoffset := abs_lt.mp (tz.lt_day (m / day + 2))
    have hdiv := Int.mul_ediv_add_emod m day
    have hmod := Int.emod_lt_of_pos m (show 0 < day by decide)
    refine ⟨m / day + 2, ?_⟩
    rw [midnight, add_mul, mul_comm (m / day)]
    omega

def dayBounds (d : ℤ) : ℤ × ℤ := (tz.midnight d, tz.midnight (d + 1))

end TimeZone

/-- A city node, with its clock and its currency. -/
structure City where
  path : String
  tz : TimeZone
  currency : Currency

def City.holds (c : City) (path : Option String) : Bool :=
  path.any fun p => c.path.toList.isPrefixOf p.toList

def City.onDay (c : City) (d : ℤ) (moment : Option ℤ) : Bool :=
  moment.any fun m => decide ((c.tz.dayBounds d).1 ≤ m) && decide (m < (c.tz.dayBounds d).2)

/-- The rows that are placed in the city on the date. -/
def placed {α : Type*} (c : City) (d : ℤ) (path : α → Option String) (moment : α → Option ℤ)
    (l : List α) : List α :=
  l.filter fun a => c.holds (path a) && c.onDay d (moment a)

/-! ## Columns -/

/-- `COUNT_COLUMNS` and `MONEY_COLUMNS`, and the sums beside them. -/
inductive Column where
  | tripsRequested
  | tripsAccepted
  | tripsCompleted
  | cancelledByRider
  | cancelledByDriver
  | cancelledByOps
  | noDriverFound
  | settledTrips
  | gmvMinor
  | riderPaidMinor
  | commissionMinor
  | driverNetMinor
  | promoCostMinor
  | refundsMinor
  | distanceKm
  | durationMin
  | etaCount
  | etaSecondsSum
deriving DecidableEq, Repr

/-- Every column. -/
def Column.all : List Column :=
  [.tripsRequested, .tripsAccepted, .tripsCompleted, .cancelledByRider, .cancelledByDriver,
    .cancelledByOps, .noDriverFound, .settledTrips, .gmvMinor, .riderPaidMinor, .commissionMinor,
    .driverNetMinor, .promoCostMinor, .refundsMinor, .distanceKm, .durationMin, .etaCount,
    .etaSecondsSum]

structure Row where
  columns : Column → ℤ
  etaP50Seconds : Option ℤ
  etaP90Seconds : Option ℤ

def Row.blank : Row := ⟨fun _ => 0, none, none⟩

abbrev Key : Type := String × Currency

/-- `DailyCityMetrics` of one city and date. -/
structure DailyCityMetrics where
  vehicleType : String
  currency : Currency
  row : Row

/-- What the constraint on a day's rows is about. -/
def DailyCityMetrics.key (m : DailyCityMetrics) : Key := (m.vehicleType, m.currency)

/-! ## Classes and currencies -/

def Trip.vehicle (t : Trip) : String :=
  (t.requestedVehicleType <|> t.vehicleType).getD "unknown"

section Currency

variable (upper : String → String)

/-- `normalize_currency`; `upper` is `str.upper()` and `str.strip()`. -/
def normalizeCurrency (value : String) : Currency :=
  if upper value = "INR" then .inr
  else if upper value = "USD" then .usd
  else .inr

/-- `_cur`. -/
def curOf (value : String) (fallback : Currency) : Currency :=
  if value = "" then fallback else normalizeCurrency upper value

end Currency

/-! ## Queries -/

/-- The answer to a query. -/
inductive Part where
  /-- what is added to the columns of a row -/
  | sums (groups : List (Key × (Column → ℤ)))
  /-- seconds from accepting to reaching, one for each trip -/
  | etas (seconds : List (Key × ℤ))

/-- A query that groups by class and currency. -/
def grouped {α : Type*} (upper : String → String) (c : City) (vehicle currency : α → String)
    (columns : List α → Column → ℤ) (l : List α) : Part :=
  .sums ((groups (fun a => (vehicle a, currency a)) l).map fun g =>
    ((g.1.1, curOf upper g.1.2 c.currency), columns g.2))

def requestsOf (data : Data) (c : City) (d : ℤ) : List Trip :=
  placed c d Trip.zonePath (fun t => some t.requestedAt) data.trips.rows

/-- The four causes of a cancellation. -/
inductive Cause where
  | byRider
  | byDriver
  | byOps
  | noDriver
deriving DecidableEq, Repr

/-- The filters of the query on the trips requested. -/
def Trip.cancelledUnder (t : Trip) : Cause → Bool
  | .byRider => t.status = .cancelled && t.cancelledBy = .rider
  | .byDriver => t.status = .cancelled && t.cancelledBy = .driver
  | .noDriver => t.status = .cancelled && t.acceptedAt.isNone &&
      !(t.cancelledBy = .rider || t.cancelledBy = .driver || t.cancelledBy = .admin)
  | .byOps => t.status = .cancelled && (t.cancelledBy = .admin ||
      (t.acceptedAt.isSome && !(t.cancelledBy = .rider || t.cancelledBy = .driver)))

/-- What a group of trips requested adds to its row. -/
def requestColumns (g : List Trip) : Column → ℤ
  | .tripsRequested => g.length
  | .tripsAccepted => (g.filter fun t => t.acceptedAt.isSome).length
  | .cancelledByRider => (g.filter fun t => t.cancelledUnder .byRider).length
  | .cancelledByDriver => (g.filter fun t => t.cancelledUnder .byDriver).length
  | .cancelledByOps => (g.filter fun t => t.cancelledUnder .byOps).length
  | .noDriverFound => (g.filter fun t => t.cancelledUnder .noDriver).length
  | _ => 0

/-- `_requests`: the counts. -/
def requests (upper : String → String) (c : City) (d : ℤ) (data : Data) : Part :=
  grouped upper c Trip.vehicle Trip.currency requestColumns (requestsOf data c d)

/-- `_requests`: from accepting to reaching, never below zero. -/
def pickupEtas (upper : String → String) (c : City) (d : ℤ) (data : Data) : Part :=
  .etas ((requestsOf data c d).filterMap fun t =>
    match t.acceptedAt, t.reachedAt with
    | some accepted, some reached =>
        some ((t.vehicle, curOf upper t.currency c.currency),
          max 0 ((reached - accepted).tdiv 1000000))
    | _, _ => none)

def completionsOf (data : Data) (c : City) (d : ℤ) : List Trip :=
  placed c d Trip.zonePath Trip.completedAt
    (data.trips.rows.filter fun t => t.status = .completed)

def Trip.chargedFare (t : Trip) : ℤ := (t.finalFareMinor <|> t.estimatedFareMinor).getD 0

/-- What a group of trips completed adds to its row. -/
def completionColumns (g : List Trip) : Column → ℤ
  | .tripsCompleted => g.length
  | .distanceKm => (g.map fun t => t.actualDistanceKm.getD 0).sum
  | .durationMin => (g.map fun t => t.actualDurationMin.getD 0).sum
  | .riderPaidMinor => (g.map Trip.chargedFare).sum
  | _ => 0

def completions (upper : String → String) (c : City) (d : ℤ) (data : Data) : Part :=
  grouped upper c Trip.vehicle Trip.currency completionColumns (completionsOf data c d)

/-- `_current_settlements`, each with its trip. -/
def currentSettlements (data : Data) : List (TripSettlement × Trip) :=
  (data.settlements.filter fun s =>
    !data.settlements.any fun s' => s'.trip = s.trip && decide (s.version < s'.version)).filterMap
      fun s => (data.trips.get? s.trip).map fun t => (s, t)

def settlementsOf (data : Data) (c : City) (d : ℤ) : List (TripSettlement × Trip) :=
  placed c d (fun x => x.2.zonePath) (fun x => some x.1.settledAt) (currentSettlements data)

/-- What a group of settlements adds to its row. -/
def settlementColumns (g : List (TripSettlement × Trip)) : Column → ℤ
  | .settledTrips => g.length
  | .gmvMinor => (g.map fun x => x.1.grossFareMinor).sum
  | .commissionMinor => (g.map fun x => x.1.commissionAmountMinor).sum
  | .driverNetMinor => (g.map fun x => x.1.driverNetMinor).sum
  | _ => 0

def settlements (upper : String → String) (c : City) (d : ℤ) (data : Data) : Part :=
  grouped upper c (fun x => x.2.vehicle) (fun x => x.1.currency) settlementColumns
    (settlementsOf data c d)

/-- The amounts of a kind that are placed in a city on a date, each with its trip. -/
def amountsOf (data : Data) (kind : String) (l : List TripAmount) (c : City) (d : ℤ) :
    List (TripAmount × Trip) :=
  placed c d (fun x => x.2.zonePath) (fun x => some x.1.createdAt)
    ((l.filter fun e => e.kind = kind).filterMap fun e =>
      (e.trip.bind data.trips.get?).map fun t => (e, t))

def amountColumns (column : Column) (g : List (TripAmount × Trip)) : Column → ℤ := fun col =>
  if col = column then (g.map fun x => x.1.amountMinor).sum else 0

/-- A query of `_promo_and_refunds`. -/
def amounts (upper : String → String) (c : City) (column : Column) (l : List (TripAmount × Trip)) :
    Part :=
  grouped upper c (fun x => x.2.vehicle) (fun x => x.1.currency) (amountColumns column) l

/-- `_promo_and_refunds`: what promos cost. -/
def promoCosts (upper : String → String) (c : City) (d : ℤ) (data : Data) : Part :=
  amounts upper c .promoCostMinor
    (amountsOf data "promo_discount_platform_funded" data.ledger c d)

/-- `_promo_and_refunds`: what was refunded. -/
def refunds (upper : String → String) (c : City) (d : ℤ) (data : Data) : Part :=
  amounts upper c .refundsMinor (amountsOf data "refund" data.moneyActions c d)

/-! ## Rows -/

/-- `percentile`: the nearest rank. -/
def percentile (values : List ℤ) (pct : ℕ) : Option ℤ :=
  let ordered := values.mergeSort (· ≤ ·)
  ordered[max 1 ((ordered.length * pct + 99) / 100) - 1]?

def Row.add (r : Row) (columns : Column → ℤ) : Row :=
  { r with columns := fun col => r.columns col + columns col }

/-- The times of the day. -/
def Row.setEtas (r : Row) (seconds : List ℤ) : Row where
  columns := fun col =>
    match col with
    | .etaCount => seconds.length
    | .etaSecondsSum => seconds.sum
    | col => r.columns col
  etaP50Seconds := percentile seconds 50
  etaP90Seconds := percentile seconds 90

/-- The answer to a query is worked into the rows. -/
def workIn (t : Rows Key Row) : Part → Rows Key Row
  | .sums l => accumulate Row.blank Row.add t l
  | .etas l => accumulate Row.blank Row.setEtas t
      ((groups Prod.fst l).map fun g => (g.1, g.2.map Prod.snd))

def Row.shows (r : Row) : Bool := Column.all.any fun col => r.columns col ≠ 0

/-- The rows that are written. -/
def metrics (parts : List Part) : List DailyCityMetrics :=
  ((parts.foldl workIn Table.empty).rows.filter fun x => x.2.shows).map fun x =>
    ⟨x.1.1, x.1.2, x.2⟩

/-- `rebuild_day`: what it reads, in this order, and the rows it makes. -/
def recipe (upper : String → String) (c : City) (d : ℤ) :
    Rebuild.Recipe Data Part DailyCityMetrics Key where
  queries := [requests upper c d, pickupEtas upper c d, completions upper c d,
    settlements upper c d, promoCosts upper c d, refunds upper c d]
  rows := metrics
  key := DailyCityMetrics.key

end SaaradhiGo.Reports
