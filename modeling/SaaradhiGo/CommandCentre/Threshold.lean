/-
Alert thresholds of the Command Centre: the metrics, the versions of a threshold, and the
change a second operator has to check.

A threshold of a city and a metric has one active version.  A change is proposed with its
lines, which are checked and written into the payload and the idempotency key of a request;
the executor reads the payload again, checks it again, closes the active version and opens
the next one.
-/
import SaaradhiGo.Lib.Decimal
import SaaradhiGo.Lib.Python
import SaaradhiGo.Approvals.Service

namespace SaaradhiGo.CommandCentre

open Approvals Python

/-! ## Metrics -/

/-- On which side of its lines a metric raises an alert. -/
inductive Direction where
  | above
  | below
deriving DecidableEq, Repr

structure Metric where
  key : String
  direction : Direction
  defaultWindow : String
deriving DecidableEq, Repr

def windowNow : String := "now"

def rateWindows : List String := ["today", "24h", "7d"]

def metrics : List Metric :=
  [⟨"unfulfilled_rate", .above, "24h"⟩, ⟨"acceptance_rate", .below, "24h"⟩,
    ⟨"avg_eta_minutes", .above, "24h"⟩, ⟨"sos_open", .above, windowNow⟩,
    ⟨"sos_unacknowledged", .above, windowNow⟩, ⟨"withdrawal_pending", .above, windowNow⟩]

def Metric.isRate (m : Metric) : Bool := m.defaultWindow ≠ windowNow

def metricFor (key : String) : Option Metric := metrics.find? fun m => m.key = key

/-! ## Versions -/

/-- A city of the tree of places; the code of a place has at most 32 characters. -/
structure City where
  id : ℕ
  code : String
  path : String
  code_le : code.length ≤ 32
deriving DecidableEq

/-- `country_code_of`: the second part of the path. -/
def City.countryCode (c : City) : Option String :=
  (((c.path.toList.splitOn '/').filter (· ≠ []))[1]?).map String.ofList

structure AlertThreshold where
  id : ℕ
  city : ℕ
  metric : String
  warnValue : Option Hundredths
  criticalValue : Option Hundredths
  window : String
  isActive : Bool
  version : ℕ
  reason : String
  changedVia : Option ℕ
deriving DecidableEq

/-- The cities and the versions of their thresholds. -/
structure Lines where
  cities : List City
  thresholds : Table AlertThreshold.id
  nextId : ℕ

/-- `active_threshold`. -/
def Lines.active (s : Lines) (city : ℕ) (metric : String) : Option AlertThreshold :=
  s.thresholds.rows.find? fun t => t.city = city && t.metric = metric && t.isActive

/-- What Python reads: `str` of a JSON value, its `repr`, and `Decimal` of a text. -/
structure Reads where
  str : Json → String
  repr : Json → String
  decimal : String → Option Decimal

variable (py : Reads)

def decimalOrNone (value : Json) (field : String) : Except Failure (Option Hundredths) :=
  let notNumber : Except Failure (Option Hundredths) :=
    .error (invalidRequest (field ++ " must be a number.") "NOT_A_NUMBER" field)
  match value with
  | .null => .ok none
  | .str "" => .ok none
  | .bool _ => notNumber
  | value =>
      match py.decimal (py.str value) with
      | none => notNumber
      | some d =>
          match d.isNegative with
          | none => .error (.raised "InvalidOperation")
          | some true => .error (invalidRequest (field ++ " must not be negative.") "NEGATIVE" field)
          | some false =>
              match d.quantize with
              | none => .error (.raised "InvalidOperation")
              | some h => .ok (some h)

/-- What `validate_fields` returns. -/
structure Fields where
  metric : Metric
  warnValue : Option Hundredths
  criticalValue : Option Hundredths
  window : String
deriving DecidableEq

/-- The critical line is beyond the warn line. -/
def Direction.beyond (d : Direction) (warn critical : ℤ) : Bool :=
  match d with
  | above => warn < critical
  | below => critical < warn

/-- The window of a metric, as given or by default. -/
def windowOf (metric : Metric) (window : String) : Except Failure String :=
  let window := if strip window = "" then metric.defaultWindow else strip window
  if metric.isRate ∧ window ∉ rateWindows then
    .error (invalidRequest (metric.key ++ " is measured over one of " ++
      ", ".intercalate rateWindows ++ ".") "INVALID_WINDOW" "window")
  else if ¬metric.isRate ∧ window ≠ windowNow then
    .error (invalidRequest (metric.key ++ " is a current value; its window is \"now\".")
      "INVALID_WINDOW" "window")
  else .ok window

/-- The metric of a key, or the refusal of an unknown one. -/
def knownMetric (key : String) : Except Failure Metric :=
  match metricFor key with
  | none => .error (invalidRequest ("Unknown Command Centre metric " ++ pyRepr key)
      "UNKNOWN_METRIC" "metric")
  | some metric => .ok metric

def validateFields (metricKey : String) (warnValue criticalValue : Json) (window : String) :
    Except Failure Fields := do
  let metric ← knownMetric metricKey
  let window ← windowOf metric window
  let warn ← decimalOrNone py warnValue "warn_value"
  let critical ← decimalOrNone py criticalValue "critical_value"
  match warn, critical with
  | none, none => .error (invalidRequest "A threshold needs a warn line or a critical line."
      "NO_LINE" "warn_value")
  | some w, some c =>
      if metric.direction.beyond w.value c.value then .ok ⟨metric, warn, critical, window⟩
      else .error (invalidRequest "The critical line must be beyond the warn line."
        "LINES_INVERTED" "critical_value")
  | _, _ => .ok ⟨metric, warn, critical, window⟩

/-- `full_clean` of a line: eight digits before the point. -/
def Fits (line : Option Hundredths) : Prop := ∀ h ∈ line, h.count < 10 ^ 10

instance (line : Option Hundredths) : Decidable (Fits line) :=
  inferInstanceAs (Decidable (∀ h ∈ line, h.count < 10 ^ 10))

/-- The new version `f` of the threshold of a city, which follows `latest`. -/
def Fields.version (f : Fields) (id city latest : ℕ) (reason : String) (changedVia : Option ℕ) :
    AlertThreshold where
  id := id
  city := city
  metric := f.metric.key
  warnValue := f.warnValue
  criticalValue := f.criticalValue
  window := f.window
  isActive := true
  version := latest + 1
  reason := sliceTo 10000 reason
  changedVia := changedVia

/-- `write_threshold_version`: the new row, the one it supersedes, and the rows. -/
def writeThresholdVersion (s : Lines) (city : ℕ) (metric : String) (warnValue criticalValue : Json)
    (window reason : String) (changedVia : Option ℕ) :
    Except Failure (AlertThreshold × Option AlertThreshold × Lines) := do
  let f ← validateFields py metric warnValue criticalValue window
  let current := s.active city metric
  let latest := ((s.thresholds.rows.filter fun t => t.city = city && t.metric = metric).map
    (·.version)).foldr max 0
  let closed := match current with
    | none => s.thresholds
    | some c => s.thresholds.put { c with isActive := false }
  let row := f.version s.nextId city latest reason changedVia
  if Fits f.warnValue ∧ Fits f.criticalValue then
    .ok (row, current, { s with thresholds := closed.put row, nextId := s.nextId + 1 })
  else .error (.raised "ValidationError")

/-! ## Proposing a change -/

/-- A line in a payload. -/
def lineJson (line : Option Hundredths) : Json :=
  match line with
  | none => .null
  | some h => .str (String.ofList h.plain)

def lineKey (line : Option Hundredths) : String :=
  match line with
  | none => "-"
  | some h => String.ofList h.plain

def Fields.key (f : Fields) (city : City) : String :=
  "threshold_change:" ++ city.code ++ ":" ++ f.metric.key ++ ":" ++ f.window ++ ":" ++
    lineKey f.warnValue ++ ":" ++ lineKey f.criticalValue

/-- The payload of a change. -/
def Fields.payload (f : Fields) (city : City) : Json :=
  .obj [("city", .str city.code), ("metric", .str f.metric.key), ("window", .str f.window),
    ("warn_value", lineJson f.warnValue), ("critical_value", lineJson f.criticalValue)]

/-- What the caller of an action brings along: who the operators are, how long a request
waits, and the node of a country. -/
structure Office where
  actorLabel : ℕ → String
  ttl : ℕ
  countryNode : String → Option ℕ

variable (office : Office)

def thresholdChange : String := "command_centre.threshold_change"

/-- The arguments of `propose_threshold_change`. -/
structure Proposal where
  actor : ℕ
  city : City
  metric : String
  warnValue : Json
  criticalValue : Json
  window : String
  reason : String

/-- The request `propose_threshold_change` raises for checked fields. -/
def Proposal.call {ω ε : Type} (p : Proposal) (f : Fields) : RaiseCall ω ε :=
  let country := p.city.countryCode.getD "IN"
  { actionKey := thresholdChange
    actor := some p.actor
    actorLabel := office.actorLabel p.actor
    systemLabel := ""
    country
    amount := none
    currency := ""
    scopeNode := some p.city.id
    targetType := "alert_threshold"
    targetId := p.city.code ++ ":" ++ f.metric.key
    payload := f.payload p.city
    execute := none
    idempotencyKey := f.key p.city
    reason := p.reason
    ttl := office.ttl
    countryNode := office.countryNode country }

/-- `propose_threshold_change`, up to the request it raises. -/
def proposeThresholdChange {ω ε : Type} (auth : Authority) (p : Proposal) :
    Except Failure (RaiseCall ω ε) := do
  let f ← validateFields py p.metric p.warnValue p.criticalValue p.window
  if strip p.reason = "" then
    .error (invalidRequest "A reason is required to change a threshold." "REASON_REQUIRED"
      "reason")
  else if !auth.mayAct p.actor "platform.settings" (some p.city.id) then
    .error (.refused ⟨"SCOPE_NOT_HELD", 403, "city",
      "You do not hold platform.settings over " ++ p.city.code ++ "."⟩)
  else .ok (p.call office f)

/-! ## Carrying it out -/

/-- The text of an optional payload field, `(value or '').strip()` of a text. -/
def textOr (v : Option Json) : Except Failure String :=
  match v with
  | none | some .null => .ok ""
  | some (.str t) => .ok t
  | some _ => .error (.raised "AttributeError")

def answerOf : Failure → ExecutorAnswer
  | .refused e => .raised e.message
  | .raised m => .raised m

/-- What the executor returns. -/
def changedJson (row : AlertThreshold) (superseded : Option AlertThreshold) : Json :=
  .obj [("threshold_id", .int row.id), ("version", .int row.version),
    ("superseded_threshold_id", match superseded with
      | none => .null
      | some t => .int t.id)]

def Lines.named (s : Lines) : Option Json → Option City
  | some (.str code) => s.cities.find? fun c => c.code = code
  | _ => none

def executeThresholdChange (r : ApprovalRequest) (s : Lines) : ExecutorAnswer × Lines :=
  match s.named (r.payload.get? "city") with
  | none => (.refused "CITY_UNKNOWN" ("No city " ++
      py.repr ((r.payload.get? "city").getD .null) ++ " exists any more."), s)
  | some city =>
      match r.payload.get? "metric" with
      | none => (.raised "KeyError: 'metric'", s)
      | some metric =>
          match (do
            let window ← textOr (r.payload.get? "window")
            writeThresholdVersion py s city.id (py.str metric)
              ((r.payload.get? "warn_value").getD .null)
              ((r.payload.get? "critical_value").getD .null) window r.requestReason
              (some r.id)) with
          | .error f => (answerOf f, s)
          | .ok (row, superseded, s') => (.done (changedJson row superseded), s')

end SaaradhiGo.CommandCentre
