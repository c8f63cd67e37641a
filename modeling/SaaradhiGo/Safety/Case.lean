/-
SOS events, the incidents they belong to, and the alerts about them.

The functions here are the transactions of the safety desk: each runs from its first row lock or
write to its commit.  What a transaction has read before that is handed to it, as it may have
changed since (`found`, the open incident of a trip; the list of a case's events).
-/
import Mathlib.Data.List.Sort
import SaaradhiGo.CommandCentre.Alert

namespace SaaradhiGo.Safety

open CommandCentre

/-! ## Rows -/

/-- `SOSEvent.STATUS_CHOICES`. -/
inductive SosStatus where
  /-- `open` -/
  | opened
  | acknowledged
  | resolved
  | falseAlarm
deriving DecidableEq, Repr

/-- `ACTIVE_STATUSES`: somebody still needs reaching. -/
def activeStatuses : List SosStatus := [.opened, .acknowledged]

/-- `EVENT_TYPE_CHOICES`. -/
inductive EventType where
  | panic
  | vehicleBreakdown
  | medical
  | harassment
  | accident
  | other
deriving DecidableEq, Repr

/-- `SEVERITIES`. -/
inductive Severity where
  | critical
  | high
  | medium
  | low
deriving DecidableEq, Repr

/-- `SEVERITY_RANK`: lower is worse. -/
def Severity.rank : Severity → ℕ
  | critical => 0
  | high => 1
  | medium => 2
  | low => 3

/-- The severities of `SOS_MAPPING`. -/
def sosSeverity : EventType → Severity
  | .panic => .critical
  | .medical => .critical
  | .accident => .critical
  | .harassment => .high
  | .vehicleBreakdown => .medium
  | .other => .high

/-- The statuses of an incident. -/
inductive CaseStatus where
  /-- `open` -/
  | opened
  | investigating
  | actionTaken
  | closed
deriving DecidableEq, Repr

def liveStatuses : List CaseStatus := [.opened, .investigating, .actionTaken]

abbrev LiveStatus : Type := { status : CaseStatus // status ∈ liveStatuses }

structure SosEvent where
  id : ℕ
  user : ℕ
  trip : Option ℕ
  eventType : EventType
  status : SosStatus
  incident : Option ℕ
  escalatedAt : Option ℕ
  raiserReportedMistakeAt : Option ℕ
  createdAt : ℕ
deriving DecidableEq, Repr

/-- `SafetyIncident`. -/
structure Incident where
  id : ℕ
  trip : Option ℕ
  status : CaseStatus
  severity : Severity
  assignedTo : Option ℕ
  assignEscalatedAt : Option ℕ
  policeReferredAt : Option ℕ
  outcome : String
  closingSummary : String
  openedAt : ℕ
  closedAt : Option ℕ
deriving DecidableEq, Repr

/-- What the transitions lead to. -/
inductive Target where
  | acknowledged
  | resolved
  | falseAlarm
deriving DecidableEq, Repr

/-- The status a transition leads to. -/
def Target.status : Target → SosStatus
  | acknowledged => .acknowledged
  | resolved => .resolved
  | falseAlarm => .falseAlarm

/-- How the events of a case end with it. -/
inductive Ending where
  | resolved
  | falseAlarm
deriving DecidableEq, Repr

/-- The transition of the events. -/
def Ending.target : Ending → Target
  | resolved => .resolved
  | falseAlarm => .falseAlarm

/-- What `_apply_transition` answers. -/
inductive Transitioned where
  | notFound
  | unchanged
  | alreadyResolved
  | moved
deriving DecidableEq, Repr

/-- What the writes on an incident answer. -/
inductive Written where
  | notFound
  | incidentClosed
  | sosStillActive
  | unchanged
  | changed
deriving DecidableEq, Repr

/-- The rows, and the events whose contact was revealed. -/
structure Desk where
  sos : Serial SosEvent.id
  incidents : Serial Incident.id
  alerts : Alerts
  revealed : List ℕ

/-- What `raise_sos` writes. -/
structure SosDraft where
  user : ℕ
  trip : Option ℕ
  eventType : EventType
  /-- whether `resolve_anchor` places the event -/
  anchored : Bool
deriving DecidableEq, Repr

namespace Desk

/-- `UPDATE` of the events that meet `p`. -/
def updateSos (s : Desk) (p : SosEvent → Prop) [DecidablePred p] (f : SosEvent → SosEvent)
    (hf : ∀ e, (f e).id = e.id) : Desk := { s with sos := s.sos.updateWhere p f hf }

/-- `UPDATE` of the incidents that meet `p`. -/
def updateIncidents (s : Desk) (p : Incident → Prop) [DecidablePred p] (f : Incident → Incident)
    (hf : ∀ c, (f c).id = c.id) : Desk := { s with incidents := s.incidents.updateWhere p f hf }

section Updates

variable {s : Desk} {i : ℕ}

lemma of_get?_updateSos {p : SosEvent → Prop} [DecidablePred p] {f : SosEvent → SosEvent}
    {hf : ∀ e, (f e).id = e.id} {e' : SosEvent} (h : (s.updateSos p f hf).sos.get? i = some e') :
    ∃ e, s.sos.get? i = some e ∧ e' = if p e then f e else e :=
  Serial.of_get?_updateWhere hf h

lemma get?_updateSos {p : SosEvent → Prop} [DecidablePred p] {f : SosEvent → SosEvent}
    {hf : ∀ e, (f e).id = e.id} {e : SosEvent} (h : s.sos.get? i = some e) :
    (s.updateSos p f hf).sos.get? i = some (if p e then f e else e) := by
  show (s.sos.updateWhere p f hf).get? i = _
  rw [Serial.get?_updateWhere, h, Option.map_some]

lemma of_get?_updateIncidents {p : Incident → Prop} [DecidablePred p] {f : Incident → Incident}
    {hf : ∀ c, (f c).id = c.id} {c' : Incident}
    (h : (s.updateIncidents p f hf).incidents.get? i = some c') :
    ∃ c, s.incidents.get? i = some c ∧ c' = if p c then f c else c :=
  Serial.of_get?_updateWhere hf h

end Updates

/-- `raise_alert` on the desk. -/
def raise (s : Desk) (kind : AlertKind) (severity : AlertSeverity) (source : AlertSource)
    (now : ℕ) : Desk := { s with alerts := s.alerts.raiseAlert kind severity source now }

/-- `clear_alerts` on the desk. -/
def clear (s : Desk) (source : AlertSource) (kinds : List AlertKind) (now : ℕ) : Desk :=
  { s with alerts := s.alerts.clearAlerts source kinds now }

/-! ## Incidents -/

def openIncidentForTrip (s : Desk) : Option ℕ → Option Incident
  | none => none
  | some trip => s.incidents.rows.find? fun c => c.trip = some trip && c.status != .closed

/-- `_raise_severity` of the incident as it was read. -/
def raiseSeverity (s : Desk) (row : Incident) (severity : Severity) : Desk :=
  if severity.rank < row.severity.rank then
    s.updateIncidents (fun c => c.id = row.id) (fun c => { c with severity }) fun _ => rfl
  else s

/-- `open_incident`, after the open incident of the trip was looked for: the incident, whether
it is new, and the desk. -/
def openIncident (s : Desk) (found : Option Incident) (trip : Option ℕ) (severity : Severity)
    (now : ℕ) : (ℕ × Bool) × Desk :=
  match found with
  | some existing => ((existing.id, false), s.raiseSeverity existing severity)
  | none =>
      match s.openIncidentForTrip trip with
      -- the unique index refuses a second open incident of the trip: join the winner
      | some winner => ((winner.id, false), s.raiseSeverity winner severity)
      | none =>
          let row : ℕ → Incident := fun id =>
            { id, trip, status := .opened, severity, assignedTo := none
              assignEscalatedAt := none, policeReferredAt := none, outcome := ""
              closingSummary := "", openedAt := now, closedAt := none }
          ((s.incidents.next, true),
            { s with incidents := s.incidents.insert row fun _ => rfl })

def setIncident (s : Desk) (id incident : ℕ) : Desk :=
  s.updateSos (fun e => e.id = id) (fun e => { e with incident := some incident }) fun _ => rfl

def attachSos (s : Desk) (id : ℕ) (trip : Option ℕ) (eventType : EventType)
    (found : Option Incident) (now : ℕ) : Desk :=
  let opened := s.openIncident found trip (sosSeverity eventType) now
  opened.2.setIncident id opened.1.1

/-- The transaction of `safety_link` of an event. -/
def linkSos (s : Desk) (incident id : ℕ) : Written × Desk :=
  match s.incidents.get? incident with
  | none => (.notFound, s)
  | some c =>
      if c.status = .closed then (.incidentClosed, s) else (.changed, s.setIncident id incident)

/-- `SOS_DEDUPE_WINDOW_SECONDS`. -/
def dedupeWindow : ℕ := 120

/-- The newest open event that a repeat collapses into. -/
def recent (s : Desk) (d : SosDraft) (now : ℕ) : Option SosEvent :=
  s.sos.rows.reverse.find? fun e =>
    e.user = d.user && e.trip = d.trip && e.eventType = d.eventType && e.status = .opened &&
      decide (now ≤ e.createdAt + dedupeWindow)

/-- The transaction of `raise_sos`: the event, the alert of one that could not be placed, and its
incident, unless attaching it fails. -/
def raiseSos (s : Desk) (d : SosDraft) (found : Option Incident) (attaches : Bool) (now : ℕ) :
    ℕ × Desk :=
  let id := s.sos.next
  let row : ℕ → SosEvent := fun id =>
    { id, user := d.user, trip := d.trip, eventType := d.eventType, status := .opened
      incident := none, escalatedAt := none, raiserReportedMistakeAt := none, createdAt := now }
  let written := { s with sos := s.sos.insert row fun _ => rfl }
  let alerted := if d.anchored then written
    else written.raise .sosUnanchored .critical (.sosEvent id) now
  (id, if attaches then alerted.attachSos id d.trip d.eventType found now else alerted)

/-- The events without an incident that a sweep attaches. -/
def unattached (s : Desk) : List SosEvent :=
  (s.sos.rows.filter fun e => e.incident = none ∧ e.status ∈ activeStatuses).take 50

/-! ## Responders -/

def linkedSos (s : Desk) (incident : ℕ) (statuses : List SosStatus) : List ℕ :=
  (s.sos.rows.filter fun e => e.incident = some incident ∧ e.status ∈ statuses).map SosEvent.id

def clearSosAlerts (s : Desk) (id : ℕ) (incident : Option ℕ) (now : ℕ) : Desk :=
  let cleared := s.clear (.sosEvent id) [] now
  match incident with
  | none => cleared
  | some i =>
      if cleared.linkedSos i [.opened] = [] then
        cleared.clear (.safetyIncident i) [.safetySosEscalated, .sosUnanchored] now
      else cleared

/-- Move an open incident to `investigating`. -/
def investigate (s : Desk) (incident : ℕ) : Desk :=
  s.updateIncidents (fun c => c.id = incident ∧ c.status = .opened)
    (fun c => { c with status := .investigating }) fun _ => rfl

def noteOnSosTransition (s : Desk) (id : ℕ) (incident : Option ℕ) (status : SosStatus)
    (now : ℕ) : Desk :=
  let cleared := if status = .opened then s else s.clearSosAlerts id incident now
  match incident with
  | none => cleared
  | some i => if status = .acknowledged then cleared.investigate i else cleared

/-- `_apply_transition`; the views never ask it to refuse a resolved event. -/
def applyTransition (s : Desk) (id : ℕ) (target : Target) (refuseIfResolved : Bool) (now : ℕ) :
    Transitioned × Desk :=
  match s.sos.get? id with
  | none => (.notFound, s)
  | some e =>
      if e.status = target.status then (.unchanged, s)
      else if refuseIfResolved ∧ e.status = .resolved then (.alreadyResolved, s)
      else
        let moved := s.updateSos (fun e => e.id = id)
          (fun e => { e with status := target.status }) fun _ => rfl
        (.moved, moved.noteOnSosTransition id e.incident target.status now)

/-- `raiser_mistake_sos`: a report, under the row lock. -/
def reportMistake (s : Desk) (id now : ℕ) : Desk :=
  match s.sos.get? id with
  | none => s
  | some e =>
      if e.status = .resolved ∨ e.status = .falseAlarm ∨ e.raiserReportedMistakeAt ≠ none then s
      else
        let reported := s.updateSos (fun e => e.id = id)
          (fun e => { e with raiserReportedMistakeAt := some now }) fun _ => rfl
        reported.noteOnSosTransition id e.incident e.status now

/-- `reveal_sos_contact`: one query reads the event and its raiser, whose contact is the answer
while the event is active. -/
def reveal (s : Desk) (id : ℕ) : Option ℕ × Desk :=
  match s.sos.get? id with
  | none => (none, s)
  | some e =>
      if e.status ∈ activeStatuses then (some e.user, { s with revealed := id :: s.revealed })
      else (none, s)

/-! ## Cases -/

def closeBlockers (s : Desk) (incident : ℕ) : List ℕ := s.linkedSos incident activeStatuses

def closeIncident (s : Desk) (incident : ℕ) (summary outcome : String) (now : ℕ) : Desk :=
  let closed := s.updateIncidents (fun c => c.id = incident)
    (fun c =>
      { c with status := .closed, closedAt := some now, outcome, closingSummary := summary })
    fun _ => rfl
  let linked := (s.sos.rows.filter fun e => e.incident = some incident).map SosEvent.id
  linked.foldl (fun s id => s.clear (.sosEvent id) [] now)
    (closed.clear (.safetyIncident incident) [] now)

/-- The transaction of `safety_close`. -/
def close (s : Desk) (incident : ℕ) (summary outcome : String) (now : ℕ) : Written × Desk :=
  match s.incidents.get? incident with
  | none => (.notFound, s)
  | some c =>
      if c.status = .closed then
        (if c.closingSummary = summary ∧ c.outcome = outcome then .unchanged else .incidentClosed, s)
      else if s.closeBlockers incident ≠ [] then (.sosStillActive, s)
      else (.changed, s.closeIncident incident summary outcome now)

/-- `_transition_active_sos`, over the events that were listed. -/
def transitionAll (s : Desk) (ids : List ℕ) (target : Target) (now : ℕ) : Desk :=
  ids.foldl (fun s id => (s.applyTransition id target false now).2) s

/-- The transaction of `safety_acknowledge`. -/
def acknowledgeCase (s : Desk) (incident : ℕ) (ids : List ℕ) (now : ℕ) : Desk :=
  (s.transitionAll ids .acknowledged now).investigate incident

/-- The transaction of `_finish`. -/
def finishCase (s : Desk) (incident : ℕ) (ids : List ℕ) (ending : Ending)
    (summary outcome : String) (now : ℕ) : Written × Desk :=
  let moved := s.transitionAll ids ending.target now
  if moved.closeBlockers incident ≠ [] then (.sosStillActive, moved)
  else (.changed, moved.closeIncident incident summary outcome now)

/-- The transaction of `safety_assign`; no assignee is an unassignment. -/
def assign (s : Desk) (incident : ℕ) (assignee : Option ℕ) (now : ℕ) : Written × Desk :=
  match s.incidents.get? incident with
  | none => (.notFound, s)
  | some c =>
      if c.status = .closed then (.incidentClosed, s)
      else if c.assignedTo = assignee then (.unchanged, s)
      else
        let assigned := s.updateIncidents (fun c => c.id = incident)
          (fun c => { c with assignedTo := assignee }) fun _ => rfl
        (.changed,
          if assignee = none then assigned
          else assigned.clear (.safetyIncident incident) [.safetyIncidentUnassigned] now)

/-- The transaction of `safety_set_status`. -/
def setStatus (s : Desk) (incident : ℕ) (wanted : LiveStatus) : Written × Desk :=
  match s.incidents.get? incident with
  | none => (.notFound, s)
  | some c =>
      if c.status = .closed then (.incidentClosed, s)
      else if c.status = wanted.1 then (.unchanged, s)
      else
        (.changed, s.updateIncidents (fun c => c.id = incident)
          (fun c => { c with status := wanted.1 }) fun _ => rfl)

/-- The transaction of `safety_refer_police`. -/
def referPolice (s : Desk) (incident now : ℕ) : Written × Desk :=
  match s.incidents.get? incident with
  | none => (.notFound, s)
  | some c =>
      if c.status = .closed then (.incidentClosed, s)
      else if c.policeReferredAt ≠ none then (.unchanged, s)
      else
        (.changed, s.updateIncidents (fun c => c.id = incident)
          (fun c =>
            { c with
              policeReferredAt := some now
              status := if c.status = .opened ∨ c.status = .investigating then .actionTaken
                else c.status }) fun _ => rfl)

/-! ## Escalation -/

/-- The alert an escalation is raised for: the incident's, when the event was read with one. -/
def escalationSource (id : ℕ) : Option ℕ → AlertSource
  | some i => .safetyIncident i
  | none => .sosEvent id

/-- `escalate_sos` of the event as it was read with its incident: whether this run won. -/
def escalateSos (s : Desk) (id : ℕ) (incident : Option ℕ) (now : ℕ) : Bool × Desk :=
  match s.sos.get? id with
  | none => (false, s)
  | some e =>
      if e.status = .opened ∧ e.escalatedAt = none then
        let marked := s.updateSos (fun e => e.id = id)
          (fun e => { e with escalatedAt := some now }) fun _ => rfl
        let raised := marked.raise .safetySosEscalated .critical (escalationSource id incident) now
        (true, if incident = none then raised else raised.clear (.sosEvent id) [] now)
      else (false, s)

/-- `escalate_incident`: whether this run won. -/
def escalateIncident (s : Desk) (id now : ℕ) : Bool × Desk :=
  match s.incidents.get? id with
  | none => (false, s)
  | some c =>
      if c.assignEscalatedAt = none ∧ c.assignedTo = none ∧ c.severity = .critical ∧
          c.status ≠ .closed then
        let marked := s.updateIncidents (fun c => c.id = id)
          (fun c => { c with assignEscalatedAt := some now }) fun _ => rfl
        (true, marked.raise .safetyIncidentUnassigned .critical (.safetyIncident id) now)
      else (false, s)

def batch : ℕ := 200

/-- The events that are overdue by the shortest timer, in minutes. -/
def overdueSos (s : Desk) (shortest now : ℕ) : List SosEvent :=
  ((s.sos.rows.filter fun e => e.status = .opened ∧ e.escalatedAt = none ∧
    e.createdAt + 60 * shortest ≤ now).insertionSort fun a b => a.createdAt ≤ b.createdAt).take batch

/-- The incidents that are overdue by the shortest timer, in minutes. -/
def overdueIncidents (s : Desk) (shortest now : ℕ) : List Incident :=
  ((s.incidents.rows.filter fun c => c.severity = .critical ∧ c.assignedTo = none ∧
    c.assignEscalatedAt = none ∧ c.openedAt + 60 * shortest ≤ now ∧
    c.status ≠ .closed).insertionSort fun a b => a.openedAt ≤ b.openedAt).take batch

/-- The transaction of `_promote`: the incident of a signal, and its alert. -/
def promote (s : Desk) (trip : ℕ) (found : Option Incident) (now : ℕ) : ℕ × Desk :=
  let opened := s.openIncident found (some trip) .high now
  (opened.1.1, opened.2.raise .safetySignal .warning (.safetyIncident opened.1.1) now)

end Desk

end SaaradhiGo.Safety
