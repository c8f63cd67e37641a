/-
The calls on the safety desk, and what any order of their commits makes of it.

A call reads outside its transaction and then commits one; between the two any other call may
commit.  The calls are programs over the desk (`Interleave.Prog`), and the moves of their pool
are its orders of commits.
-/
import SaaradhiGo.Lib.Interleave
import SaaradhiGo.Lib.Python
import SaaradhiGo.Safety.Case

namespace SaaradhiGo.Safety

open Interleave

/-- The reads and the transactions of the calls. -/
inductive Op where
  -- reads outside a transaction
  | sos (id : ℕ)
  | incident (id : ℕ)
  | openIncidentForTrip (trip : Option ℕ)
  | recent (d : SosDraft)
  | unattached
  | linkedSos (incident : ℕ) (statuses : List SosStatus)
  | overdueSos (shortest now : ℕ)
  | overdueIncidents (shortest now : ℕ)
  -- transactions
  | raiseSos (d : SosDraft) (found : Option Incident)
  | attachSos (id : ℕ) (trip : Option ℕ) (eventType : EventType) (found : Option Incident)
  | openIncident (trip : Option ℕ) (severity : Severity) (sos : Option ℕ)
      (found : Option Incident)
  | promote (trip : ℕ) (found : Option Incident)
  | linkSos (incident id : ℕ)
  | transition (id : ℕ) (target : Target)
  | reportMistake (id : ℕ)
  | reveal (id : ℕ)
  | acknowledgeCase (incident : ℕ) (ids : List ℕ)
  | finishCase (incident : ℕ) (ids : List ℕ) (ending : Ending) (summary outcome : String)
  | close (incident : ℕ) (summary outcome : String)
  | assign (incident : ℕ) (assignee : Option ℕ)
  | setStatus (incident : ℕ) (wanted : LiveStatus)
  | referPolice (incident : ℕ)
  | escalateSos (id : ℕ) (incident : Option ℕ) (now : ℕ)
  | escalateIncident (id now : ℕ)
deriving DecidableEq, Repr

/-- What an operation answers. -/
@[reducible] def Ans : Op → Type
  | .sos _ => Option SosEvent
  | .incident _ => Option Incident
  | .openIncidentForTrip _ => Option Incident
  | .recent _ => Option SosEvent
  | .unattached => List SosEvent
  | .linkedSos _ _ => List ℕ
  | .overdueSos _ _ => List SosEvent
  | .overdueIncidents _ _ => List Incident
  | .raiseSos _ _ => ℕ
  | .openIncident _ _ _ _ => ℕ × Bool
  | .promote _ _ => ℕ
  | .linkSos _ _ => Written
  | .transition _ _ => Transitioned
  | .reveal _ => Option ℕ
  | .finishCase _ _ _ _ _ => Written
  | .close _ _ _ => Written
  | .assign _ _ => Written
  | .setStatus _ _ => Written
  | .referPolice _ => Written
  | .escalateSos _ _ _ => Bool
  | .escalateIncident _ _ => Bool
  | _ => Unit

/-- What the desk does not decide: the clock, and whether attaching an event fails. -/
structure Choice where
  now : ℕ
  attaches : Bool
deriving DecidableEq, Repr

namespace Desk

/-- `open_incident` for an incident opened by hand or from a ticket, and the event it is about. -/
def openFor (s : Desk) (trip : Option ℕ) (severity : Severity) (sos : Option ℕ)
    (found : Option Incident) (now : ℕ) : (ℕ × Bool) × Desk :=
  let opened := s.openIncident found trip severity now
  match sos with
  | none => opened
  | some id => (opened.1, opened.2.setIncident id opened.1.1)

end Desk

/-- One read or one transaction. -/
def exec : Exec Op Ans Desk Choice
  | .sos id, _, s => (s.sos.get? id, s)
  | .incident id, _, s => (s.incidents.get? id, s)
  | .openIncidentForTrip trip, _, s => (s.openIncidentForTrip trip, s)
  | .recent d, e, s => (s.recent d e.now, s)
  | .unattached, _, s => (s.unattached, s)
  | .linkedSos incident statuses, _, s => (s.linkedSos incident statuses, s)
  | .overdueSos shortest now, _, s => (s.overdueSos shortest now, s)
  | .overdueIncidents shortest now, _, s => (s.overdueIncidents shortest now, s)
  | .raiseSos d found, e, s => s.raiseSos d found e.attaches e.now
  | .attachSos id trip eventType found, e, s =>
      ((), if e.attaches then s.attachSos id trip eventType found e.now else s)
  | .openIncident trip severity sos found, e, s => s.openFor trip severity sos found e.now
  | .promote trip found, e, s => s.promote trip found e.now
  | .linkSos incident id, _, s => s.linkSos incident id
  | .transition id target, e, s => s.applyTransition id target false e.now
  | .reportMistake id, e, s => ((), s.reportMistake id e.now)
  | .reveal id, _, s => s.reveal id
  | .acknowledgeCase incident ids, e, s => ((), s.acknowledgeCase incident ids e.now)
  | .finishCase incident ids ending summary outcome, e, s =>
      s.finishCase incident ids ending summary outcome e.now
  | .close incident summary outcome, e, s => s.close incident summary outcome e.now
  | .assign incident assignee, e, s => s.assign incident assignee e.now
  | .setStatus incident wanted, _, s => s.setStatus incident wanted
  | .referPolice incident, e, s => s.referPolice incident e.now
  | .escalateSos id incident now, _, s => s.escalateSos id incident now
  | .escalateIncident id now, _, s => s.escalateIncident id now

/-! ## Calls -/

/-- The timers of a country. -/
structure SafetyConfig where
  sosAckMinutes : Option ℕ
  incidentAssignMinutes : Option ℕ
deriving DecidableEq, Repr

/-- The active configs, and that of the country an event or an incident is in. -/
structure Configs where
  active : List SafetyConfig
  ofSos : SosEvent → Option SafetyConfig
  ofIncident : Incident → Option SafetyConfig

/-- What a call returns. -/
inductive Reply where
  | recorded (id : ℕ)
  | repeatOf (id : ℕ)
  | opened (id : ℕ) (created : Bool)
  | refused (code : String)
  | transitioned (outcome : Transitioned)
  | contact (user : Option ℕ)
  | written (outcome : Written)
  | swept
  | done
deriving DecidableEq, Repr

abbrev Program : Type := Prog Op Ans Reply

def raiseSos (d : SosDraft) : Program :=
  .op (.recent d) fun
    | some existing => .ret (.repeatOf existing.id)
    | none => .op (.openIncidentForTrip d.trip) fun found =>
        .op (.raiseSos d found) fun id => .ret (.recorded id)

/-- `backfill_sos_incidents`, over the events that were listed. -/
def attachEach (k : Program) : List SosEvent → Program
  | [] => k
  | e :: rows =>
      .op (.openIncidentForTrip e.trip) fun found =>
        .op (.attachSos e.id e.trip e.eventType found) fun _ => attachEach k rows

def shortest (timers : List (Option ℕ)) : Option ℕ :=
  (timers.reduceOption.filter fun n => n ≠ 0).min?

def runOut (timer : Option ℕ) (since now : ℕ) : Bool :=
  timer.any fun n => n ≠ 0 && decide (since + 60 * n ≤ now)

/-- `escalate_sos` of each event that was listed and whose own timer has run out. -/
def escalateEachSos (c : Configs) (now : ℕ) (k : Program) : List SosEvent → Program
  | [] => k
  | e :: rows =>
      if ((c.ofSos e).any fun c => runOut c.sosAckMinutes e.createdAt now) then
        .op (.escalateSos e.id e.incident now) fun _ => escalateEachSos c now k rows
      else escalateEachSos c now k rows

/-- `escalate_incident` of each incident that was listed and whose own timer has run out. -/
def escalateEachIncident (c : Configs) (now : ℕ) (k : Program) : List Incident → Program
  | [] => k
  | i :: rows =>
      if ((c.ofIncident i).any fun c => runOut c.incidentAssignMinutes i.openedAt now) then
        .op (.escalateIncident i.id now) fun _ => escalateEachIncident c now k rows
      else escalateEachIncident c now k rows

/-- The second half of `sweep`. -/
def sweepIncidents (c : Configs) (now : ℕ) : Program :=
  match shortest (c.active.map SafetyConfig.incidentAssignMinutes) with
  | none => .ret .swept
  | some minutes => .op (.overdueIncidents minutes now) (escalateEachIncident c now (.ret .swept))

def sweep (c : Configs) (now : ℕ) : Program :=
  .op .unattached (attachEach (
    match shortest (c.active.map SafetyConfig.sosAckMinutes) with
    | none => sweepIncidents c now
    | some minutes => .op (.overdueSos minutes now) (escalateEachSos c now (sweepIncidents c now))))

/-- A write on an incident, refused when the incident is closed before the transaction. -/
def onIncident (incident : ℕ) (k : Program) : Program :=
  .op (.incident incident) fun
    | none => .ret (.refused "NOT_FOUND")
    | some c => if c.status = .closed then .ret (.refused "INCIDENT_CLOSED") else k

/-- The calls. -/
inductive Call where
  | raiseSos (d : SosDraft)
  | raiserMistake (id : ℕ)
  | adminTransition (id : ℕ) (target : Target) (note : String)
  | revealContact (id : ℕ)
  | createIncident (trip : Option ℕ) (severity : Severity) (sos : Option ℕ)
  | escalateTicket (trip : Option ℕ)
  | promoteSignal (trip : ℕ)
  | linkSos (incident id : ℕ)
  | acknowledge (incident : ℕ)
  | resolve (incident : ℕ) (summary outcome : String)
  | falseAlarm (incident : ℕ) (reason : String)
  | close (incident : ℕ) (summary outcome : String)
  | assign (incident : ℕ) (assignee : Option ℕ)
  | setStatus (incident : ℕ) (wanted : CaseStatus)
  | referPolice (incident : ℕ)
  | sweep (c : Configs) (now : ℕ)

/-- `open_incident` after the trip's open incident was looked for. -/
def openAfterRead (trip : Option ℕ) (severity : Severity) (sos : Option ℕ) : Program :=
  .op (.openIncidentForTrip trip) fun found =>
    .op (.openIncident trip severity sos found) fun opened => .ret (.opened opened.1 opened.2)

def finish (incident : ℕ) (ending : Ending) (summary outcome : String) : Program :=
  onIncident incident (.op (.linkedSos incident activeStatuses) fun ids =>
    .op (.finishCase incident ids ending summary outcome) fun outcome => .ret (.written outcome))

/-- The program of a call. -/
def program : Call → Program
  | .raiseSos d => raiseSos d
  | .raiserMistake id => .op (.reportMistake id) fun _ => .ret .done
  | .adminTransition id target note =>
      .op (.sos id) fun
        | none => .ret (.refused "NOT_FOUND")
        | some _ =>
            if target = .falseAlarm ∧ Python.strip note = "" then .ret (.refused "REASON_REQUIRED")
            else .op (.transition id target) fun outcome => .ret (.transitioned outcome)
  | .revealContact id => .op (.reveal id) fun user => .ret (.contact user)
  | .createIncident trip severity none => openAfterRead trip severity none
  | .createIncident trip severity (some id) =>
      .op (.sos id) fun
        | none => .ret (.refused "TARGET_NOT_FOUND")
        | some e => if e.incident.isSome then .ret (.refused "SOS_HAS_INCIDENT")
            else openAfterRead trip severity (some id)
  | .escalateTicket trip => openAfterRead trip .high none
  | .promoteSignal trip =>
      .op (.openIncidentForTrip (some trip)) fun found =>
        .op (.promote trip found) fun id => .ret (.opened id false)
  | .linkSos incident id =>
      onIncident incident (.op (.sos id) fun
        | none => .ret (.refused "TARGET_NOT_FOUND")
        | some e =>
            if e.incident.any (· ≠ incident) then .ret (.refused "SOS_HAS_INCIDENT")
            else .op (.linkSos incident id) fun outcome => .ret (.written outcome))
  | .acknowledge incident =>
      onIncident incident (.op (.linkedSos incident [.opened]) fun ids =>
        .op (.acknowledgeCase incident ids) fun _ => .ret .done)
  | .resolve incident summary outcome => finish incident .resolved summary outcome
  | .falseAlarm incident reason =>
      finish incident .falseAlarm ("False alarm: " ++ reason) "no_action"
  | .close incident summary outcome =>
      .op (.close incident summary outcome) fun outcome => .ret (.written outcome)
  | .assign incident assignee =>
      onIncident incident (.op (.assign incident assignee) fun outcome => .ret (.written outcome))
  | .setStatus incident wanted =>
      if h : wanted ∈ liveStatuses then
        onIncident incident
          (.op (.setStatus incident ⟨wanted, h⟩) fun outcome => .ret (.written outcome))
      else .ret (.refused "USE_CLOSE")
  | .referPolice incident =>
      onIncident incident (.op (.referPolice incident) fun outcome => .ret (.written outcome))
  | .sweep c now => sweep c now

/-! ## The pool -/

abbrev Responders (τ : Type) : Type := Pool Op Ans Reply Desk τ Call

abbrev ResponderMove (τ : Type) : Type := Move τ Choice Call Unit

def responderStep {τ : Type} [DecidableEq τ] (p : Responders τ) (m : ResponderMove τ) :
    Responders τ :=
  Pool.step exec (fun a _ => program a) (fun _ s => s) p m

/-- No calls over a desk without rows. -/
def noResponders {τ : Type} : Responders τ := ⟨fun _ => none, ⟨.empty, .empty, .empty, []⟩⟩

end SaaradhiGo.Safety
