/-
The alerts of the Command Centre.

An alert is about one event, which its source names, and while an alert for that event is open
no second one is raised: the open one is kept, and moves up when the new occurrence is worse.
The producer closes the alerts of an event when its cause ends, all of them or those of some
kinds.
-/
import Mathlib.Tactic.Common
import SaaradhiGo.Lib.Serial

namespace SaaradhiGo.CommandCentre

/-- The kinds of alert the safety desk raises. -/
inductive AlertKind where
  | sosUnanchored
  | safetySosEscalated
  | safetyIncidentUnassigned
  | safetySignal
deriving DecidableEq, Repr

/-- `SEVERITY_CHOICES`. -/
inductive AlertSeverity where
  | info
  | warning
  | critical
deriving DecidableEq, Repr

/-- `SEVERITY_ORDER`: higher is worse. -/
def AlertSeverity.order : AlertSeverity → ℕ
  | info => 0
  | warning => 1
  | critical => 2

/-- `source_type` and `source_id`. -/
inductive AlertSource where
  | sosEvent (id : ℕ)
  | safetyIncident (id : ℕ)
deriving DecidableEq, Repr

structure OperatorAlert where
  id : ℕ
  kind : AlertKind
  severity : AlertSeverity
  source : AlertSource
  createdAt : ℕ
  acknowledgedAt : Option ℕ
deriving DecidableEq, Repr

abbrev Alerts : Type := Serial OperatorAlert.id

namespace Alerts

variable {b : Alerts} {kind : AlertKind} {severity : AlertSeverity} {source source' : AlertSource}
  {kinds : List AlertKind} {now : ℕ}

def openFor (b : Alerts) (source : AlertSource) : Option OperatorAlert :=
  b.rows.reverse.find? fun a => a.source = source && a.acknowledgedAt.isNone

/-- `raise_alert`, of a kind that a city which is not live raises as well. -/
def raiseAlert (b : Alerts) (kind : AlertKind) (severity : AlertSeverity) (source : AlertSource)
    (now : ℕ) : Alerts :=
  match b.openFor source with
  | some existing =>
      if existing.severity.order < severity.order then
        b.updateWhere (fun a => a.id = existing.id) (fun a => { a with severity, kind })
          fun _ => rfl
      else b
  | none =>
      b.insert (fun id =>
        { id, kind, severity, source, createdAt := now, acknowledgedAt := none }) fun _ => rfl

/-- `clear_alerts`; no kinds are all kinds. -/
def clearAlerts (b : Alerts) (source : AlertSource) (kinds : List AlertKind) (now : ℕ) : Alerts :=
  b.updateWhere
    (fun a => a.source = source ∧ a.acknowledgedAt = none ∧ (kinds = [] ∨ a.kind ∈ kinds))
    (fun a => { a with acknowledgedAt := some now }) fun _ => rfl

/-- The alert `a` for the event is open. -/
def IsOpen (b : Alerts) (source : AlertSource) (a : OperatorAlert) : Prop :=
  b.get? a.id = some a ∧ a.source = source ∧ a.acknowledgedAt = none

def OpenOn (b : Alerts) (source : AlertSource) : Prop := ∃ a, b.IsOpen source a

lemma isOpen_of_openFor {a : OperatorAlert} (h : b.openFor source = some a) :
    b.IsOpen source a := by
  have hmem : a ∈ b.rows := List.mem_reverse.mp (List.mem_of_find?_eq_some h)
  have hopen := List.find?_some h
  simp only [Bool.and_eq_true, decide_eq_true_eq, Option.isNone_iff_eq_none] at hopen
  exact ⟨Serial.get?_of_mem hmem, hopen⟩

lemma openOn_raiseAlert_of_openOn (h : b.OpenOn source') :
    (b.raiseAlert kind severity source now).OpenOn source' := by
  obtain ⟨a, hget, hsource, hopen⟩ := h
  cases hexisting : b.openFor source with
  | none =>
      rw [raiseAlert, hexisting]
      exact ⟨a, Serial.get?_insert_of_some _ hget, hsource, hopen⟩
  | some existing =>
      rw [raiseAlert, hexisting]
      dsimp only
      split
      · by_cases hid : a.id = existing.id
        · refine ⟨{ a with severity, kind }, ?_, hsource, hopen⟩
          show Serial.get? _ a.id = _
          rw [Serial.get?_updateWhere, hget, Option.map_some, if_pos hid]
        · refine ⟨a, ?_, hsource, hopen⟩
          rw [Serial.get?_updateWhere, hget, Option.map_some, if_neg hid]
      · exact ⟨a, hget, hsource, hopen⟩

lemma openOn_raiseAlert : (b.raiseAlert kind severity source now).OpenOn source := by
  cases hopen : b.openFor source with
  | some existing =>
      exact openOn_raiseAlert_of_openOn ⟨existing, isOpen_of_openFor hopen⟩
  | none =>
      rw [raiseAlert, hopen]
      refine ⟨{ id := b.next, kind, severity, source, createdAt := now, acknowledgedAt := none },
        ?_, rfl, rfl⟩
      rw [Serial.get?_insert, if_pos rfl]

/-- An open alert of another event, or of a kind that is not cleared, stays as it is. -/
lemma isOpen_clearAlerts {a : OperatorAlert} (h : b.IsOpen source' a)
    (hother : source' ≠ source ∨ kinds ≠ [] ∧ a.kind ∉ kinds) :
    (b.clearAlerts source kinds now).IsOpen source' a := by
  obtain ⟨hget, hsource, hopen⟩ := h
  refine ⟨?_, hsource, hopen⟩
  rw [clearAlerts, Serial.get?_updateWhere, hget, Option.map_some, if_neg]
  rintro ⟨hsame, -, hkinds⟩
  rcases hother with hne | ⟨hsome, hkind⟩
  · exact hne (hsource.symm.trans hsame)
  · rcases hkinds with hnil | hmem
    · exact hsome hnil
    · exact hkind hmem

lemma openOn_clearAlerts_of_ne (h : b.OpenOn source') (hne : source' ≠ source) :
    (b.clearAlerts source kinds now).OpenOn source' := by
  obtain ⟨a, ha⟩ := h
  exact ⟨a, isOpen_clearAlerts ha (.inl hne)⟩

end Alerts

end SaaradhiGo.CommandCentre
