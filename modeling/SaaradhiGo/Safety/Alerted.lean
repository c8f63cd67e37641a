/-
An alarm nobody took keeps its alert.

The alert of an SOS that was escalated is merged with that of its incident into the alert that is
open already, whose kind stays as it was.  When that is the alert of a critical case nobody is
assigned to, an assignment closes it and the SOS is left without one
(`assignedAwayFromAlarm`).  In the runs in which no assignment closes the one alert of an
escalated open event, no such event is moved from one incident to another, and a sweep escalates
an event to the incident it is in, every escalated open event has an open alert, its own or its
incident's (`alarm_alerted`).
-/
import SaaradhiGo.Safety.Ended

namespace SaaradhiGo.Safety

open CommandCentre Interleave

/-- The event was escalated and nobody has taken it. -/
def SosEvent.Alarming (e : SosEvent) : Prop := e.status = .opened ∧ e.escalatedAt ≠ none

instance (e : SosEvent) : Decidable e.Alarming := inferInstanceAs (Decidable (_ ∧ _))

/-- An open alert exists for the event, its own or its incident's. -/
def Covered (b : Alerts) (e : SosEvent) : Prop :=
  b.OpenOn (.sosEvent e.id) ∨ ∃ i, e.incident = some i ∧ b.OpenOn (.safetyIncident i)

def Alerted (s : Desk) : Prop := ∀ e ∈ s.sos.rows, e.Alarming → Covered s.alerts e

variable {s s' : Desk} {id incident now : ℕ} {target : Target} {found : Option Incident}
  {b : Alerts} {e : SosEvent}

lemma Alerted.of_eq (h : Alerted s) (hsos : s'.sos = s.sos) (halerts : s'.alerts = s.alerts) :
    Alerted s' := by
  intro e he halarming
  rw [hsos] at he
  rw [halerts]
  exact h e he halarming

/-! ## Alerts -/

lemma Covered.raiseAlert {kind : AlertKind} {severity : AlertSeverity} {source : AlertSource}
    (h : Covered b e) : Covered (b.raiseAlert kind severity source now) e := by
  rcases h with hown | ⟨i, hi, hcase⟩
  · exact .inl (Alerts.openOn_raiseAlert_of_openOn hown)
  · exact .inr ⟨i, hi, Alerts.openOn_raiseAlert_of_openOn hcase⟩

lemma Alerted.raise {kind : AlertKind} {severity : AlertSeverity} {source : AlertSource}
    (h : Alerted s) : Alerted (s.raise kind severity source now) :=
  fun e he halarming => (h e he halarming).raiseAlert

lemma Covered.clear_sosEvent {kinds : List AlertKind} (h : Covered b e) (hne : e.id ≠ id) :
    Covered (b.clearAlerts (.sosEvent id) kinds now) e := by
  rcases h with hown | ⟨i, hi, hcase⟩
  · exact .inl (Alerts.openOn_clearAlerts_of_ne hown fun heq => hne (by injection heq))
  · exact .inr ⟨i, hi, Alerts.openOn_clearAlerts_of_ne hcase fun heq => by cases heq⟩

lemma Covered.clear_safetyIncident {kinds : List AlertKind} (h : Covered b e)
    (hne : e.incident ≠ some incident) :
    Covered (b.clearAlerts (.safetyIncident incident) kinds now) e := by
  rcases h with hown | ⟨i, hi, hcase⟩
  · exact .inl (Alerts.openOn_clearAlerts_of_ne hown fun heq => by cases heq)
  · refine .inr ⟨i, hi, Alerts.openOn_clearAlerts_of_ne hcase fun heq => hne ?_⟩
    injection heq with heq
    rw [hi, heq]

/-! ## Events -/

lemma Alerted.updateSos {p : SosEvent → Prop} [DecidablePred p] {f : SosEvent → SosEvent}
    {hf : ∀ e, (f e).id = e.id} (h : Alerted s) (hincident : ∀ e, (f e).incident = e.incident)
    (halarming : ∀ e ∈ s.sos.rows, p e → (f e).Alarming → e.Alarming) :
    Alerted (s.updateSos p f hf) := by
  intro e' he' halarming'
  obtain ⟨e, he, rfl⟩ := List.mem_map.mp he'
  show Covered s.alerts _
  split at halarming'
  · rename_i hp
    rw [if_pos hp]
    rcases h e he (halarming e he hp halarming') with hown | ⟨i, hi, hcase⟩
    · exact .inl (by rw [hf]; exact hown)
    · exact .inr ⟨i, by rw [hincident]; exact hi, hcase⟩
  · rename_i hp
    rw [if_neg hp]
    exact h e he halarming'

/-- The event is not alarming. -/
def Quiet (s : Desk) (id : ℕ) : Prop := ∀ e ∈ s.sos.rows, e.id = id → e.status ≠ .opened

lemma Alerted.clearSosAlerts (h : Alerted s) (hquiet : Quiet s id) (linked : Option ℕ) :
    Alerted (s.clearSosAlerts id linked now) := by
  have hcleared : Alerted (s.clear (.sosEvent id) [] now) := fun e he halarming =>
    (h e he halarming).clear_sosEvent fun hid => hquiet e he hid halarming.1
  rw [Desk.clearSosAlerts.eq_def]
  cases linked with
  | none => exact hcleared
  | some i =>
      dsimp only
      split
      · rename_i hnone
        -- none of the events that are open is in the incident
        intro e he halarming
        refine (hcleared e he halarming).clear_safetyIncident fun hi => ?_
        refine linkedSos_eq_nil_iff.mp hnone e.id e (Serial.get?_of_mem he) hi ?_
        rw [halarming.1]
        exact List.mem_singleton.mpr rfl
      · exact hcleared

lemma Alerted.noteOnSosTransition {status : SosStatus} (h : Alerted s)
    (hquiet : status ≠ .opened → Quiet s id) (linked : Option ℕ) :
    Alerted (s.noteOnSosTransition id linked status now) := by
  have hcleared : Alerted (if status = .opened then s else s.clearSosAlerts id linked now) := by
    split
    · exact h
    · rename_i hstatus
      exact h.clearSosAlerts (hquiet hstatus) linked
  rw [Desk.noteOnSosTransition.eq_def]
  cases linked with
  | none => exact hcleared
  | some i =>
      dsimp only
      split
      · exact hcleared.of_eq rfl rfl
      · exact hcleared

lemma alerted_applyTransition {refuse : Bool} (h : Alerted s) :
    Alerted (s.applyTransition id target refuse now).2 := by
  have htarget : target.status ≠ .opened := by cases target <;> decide
  rw [Desk.applyTransition]
  cases s.sos.get? id with
  | none => exact h
  | some e =>
      dsimp only
      split
      · exact h
      split
      · exact h
      have hmoved : Alerted (s.updateSos (fun e => e.id = id)
          (fun e => { e with status := target.status }) fun _ => rfl) := by
        refine h.updateSos (fun _ => rfl) ?_
        rintro e₀ - - ⟨hopened, -⟩
        exact absurd hopened htarget
      refine hmoved.noteOnSosTransition (fun _ => ?_) _
      · intro e' he' hid hopened
        obtain ⟨e₀, -, rfl⟩ := List.mem_map.mp he'
        split at hopened
        · exact htarget hopened
        · rename_i hne
          rw [if_neg hne] at hid
          exact hne hid

lemma alerted_transitionAll {ids : List ℕ} (h : Alerted s) :
    Alerted (s.transitionAll ids target now) := by
  induction ids generalizing s with
  | nil => exact h
  | cons i ids ih => exact ih (alerted_applyTransition h)

lemma alerted_reportMistake (h : Alerted s) : Alerted (s.reportMistake id now) := by
  rw [Desk.reportMistake]
  cases hget : s.sos.get? id with
  | none => exact h
  | some e =>
      dsimp only
      split
      · exact h
      have hreported : Alerted (s.updateSos (fun e => e.id = id)
          (fun e => { e with raiserReportedMistakeAt := some now }) fun _ => rfl) :=
        h.updateSos (fun _ => rfl) fun _ _ _ ha => ha
      refine hreported.noteOnSosTransition (fun hstatus => ?_) _
      intro e' he' hid hopened
      obtain ⟨e₀, he₀, rfl⟩ := List.mem_map.mp he'
      have hkeys : e₀.id = id ∧ e₀.status = .opened := by
        split at hid
        · rename_i hp
          rw [if_pos hp] at hopened
          exact ⟨hid, hopened⟩
        · rename_i hp
          rw [if_neg hp] at hopened
          exact ⟨hid, hopened⟩
      have hrow : s.sos.get? id = some e₀ := hkeys.1 ▸ Serial.get?_of_mem he₀
      rw [hget, Option.some.injEq] at hrow
      subst hrow
      exact hstatus hkeys.2

/-! ## Incidents -/

lemma alerts_raiseSeverity (row : Incident) (severity : Severity) :
    (s.raiseSeverity row severity).alerts = s.alerts := by
  rw [Desk.raiseSeverity]
  split
  · rfl
  · rfl

lemma alerts_openIncident {trip : Option ℕ} {severity : Severity} :
    (s.openIncident found trip severity now).2.alerts = s.alerts := by
  rw [Desk.openIncident.eq_def]
  cases found with
  | some existing => exact alerts_raiseSeverity existing severity
  | none =>
      dsimp only
      cases s.openIncidentForTrip trip with
      | some winner => exact alerts_raiseSeverity winner severity
      | none => rfl

lemma alerted_openIncident {trip : Option ℕ} {severity : Severity} (h : Alerted s) :
    Alerted (s.openIncident found trip severity now).2 :=
  h.of_eq sos_openIncident alerts_openIncident

def Movable (s : Desk) (id : ℕ) : Prop := ∀ e ∈ s.sos.rows, e.id = id → e.Alarming →
  e.incident = none ∨ ∃ a ∈ s.alerts.rows, a.source = .sosEvent id ∧ a.acknowledgedAt = none

instance : Decidable (Movable s id) :=
  inferInstanceAs (Decidable (∀ e ∈ s.sos.rows, e.id = id → e.Alarming → e.incident = none ∨
    ∃ a ∈ s.alerts.rows, a.source = .sosEvent id ∧ a.acknowledgedAt = none))

lemma openOn_of_mem {source : AlertSource} {a : OperatorAlert} (ha : a ∈ b.rows)
    (hsource : a.source = source) (hopen : a.acknowledgedAt = none) : b.OpenOn source :=
  ⟨a, Serial.get?_of_mem ha, hsource, hopen⟩

lemma alerted_setIncident (h : Alerted s) (hmovable : Movable s id) :
    Alerted (s.setIncident id incident) := by
  intro e' he' halarming
  obtain ⟨e, he, rfl⟩ := List.mem_map.mp he'
  show Covered s.alerts _
  split at halarming
  · rename_i hid
    rw [if_pos hid]
    refine .inl ?_
    rcases hmovable e he hid halarming with hnone | ⟨a, ha, hsource, hopen⟩
    · rcases h e he halarming with hown | ⟨i, hi, -⟩
      · exact hown
      · rw [hnone] at hi
        cases hi
    · exact openOn_of_mem ha (hid ▸ hsource) hopen
  · rename_i hid
    rw [if_neg hid]
    exact h e he halarming

lemma Movable.of_eq (h : Movable s id) (hsos : s'.sos = s.sos) (halerts : s'.alerts = s.alerts) :
    Movable s' id := by
  rw [Movable, hsos, halerts]
  exact h

lemma alerted_openFor {trip : Option ℕ} {severity : Severity} {sos : Option ℕ} (h : Alerted s)
    (hmovable : ∀ id ∈ sos, Movable s id) :
    Alerted (s.openFor trip severity sos found now).2 := by
  cases sos with
  | none => exact alerted_openIncident h
  | some id =>
      exact alerted_setIncident (alerted_openIncident h)
        ((hmovable id rfl).of_eq sos_openIncident alerts_openIncident)

lemma alerted_attachSos {trip : Option ℕ} {eventType : EventType} (h : Alerted s)
    (hmovable : Movable s id) : Alerted (s.attachSos id trip eventType found now) :=
  alerted_setIncident (alerted_openIncident h)
    (hmovable.of_eq sos_openIncident alerts_openIncident)

lemma alerted_raiseSos {d : SosDraft} {attaches : Bool} (h : Alerted s) :
    Alerted (s.raiseSos d found attaches now).2 := by
  rw [Desk.raiseSos]
  dsimp only
  generalize hwritten : ({ s with sos := s.sos.insert _ _ } : Desk) = written
  -- the new event is not alarming
  have hquiet : ∀ e ∈ written.sos.rows, e.Alarming → e ∈ s.sos.rows := by
    intro e he halarming
    rw [← hwritten] at he
    rcases List.mem_append.mp he with hold | hnew
    · exact hold
    · rw [List.mem_singleton.mp hnew] at halarming
      exact absurd rfl halarming.2
  have halerted : Alerted written := by
    intro e he halarming
    rw [← hwritten]
    exact h e (hquiet e he halarming) halarming
  generalize hraised : (if d.anchored = true then written
    else written.raise .sosUnanchored .critical (.sosEvent s.sos.next) now) = raised
  have hraised_alerted : Alerted raised := by
    rw [← hraised]
    split
    · exact halerted
    · exact halerted.raise
  have hraised_sos : raised.sos = written.sos := by
    rw [← hraised]
    split
    · rfl
    · rfl
  split
  · refine alerted_attachSos hraised_alerted fun e he hid halarming => ?_
    rw [hraised_sos] at he
    have hfresh := s.sos.fresh e (hquiet e he halarming)
    rw [hid] at hfresh
    exact absurd hfresh (lt_irrefl _)
  · exact hraised_alerted

lemma alerted_closeIncident {summary outcome : String} (h : Alerted s)
    (hblockers : s.closeBlockers incident = []) :
    Alerted (s.closeIncident incident summary outcome now) := by
  have hnone := linkedSos_eq_nil_iff.mp hblockers
  -- an alarming event is in another incident
  have hother : ∀ e ∈ s.sos.rows, e.Alarming → e.incident ≠ some incident := by
    intro e he halarming hi
    refine hnone e.id e (Serial.get?_of_mem he) hi ?_
    rw [halarming.1]
    decide
  have hclears : ∀ (ids : List ℕ) (t : Desk), t.sos = s.sos → Alerted t →
      (∀ i ∈ ids, ∃ e ∈ s.sos.rows, e.id = i ∧ e.incident = some incident) →
      Alerted (ids.foldl (fun s id => s.clear (.sosEvent id) [] now) t) := by
    intro ids
    induction ids with
    | nil => exact fun t _ ht _ => ht
    | cons i ids ih =>
        intro t hsos ht hlinked
        refine ih _ hsos (fun e he halarming => ?_)
          fun j hj => hlinked j (List.mem_cons_of_mem i hj)
        refine (ht e he halarming).clear_sosEvent fun hid => ?_
        obtain ⟨e₁, he₁, hid₁, hincident⟩ := hlinked i List.mem_cons_self
        have he' : e ∈ s.sos.rows := by
          rw [← hsos]
          exact he
        have heq : e = e₁ := Table.eq_of_mem he' he₁ (hid.trans hid₁.symm)
        exact hother e he' halarming (heq ▸ hincident)
  rw [Desk.closeIncident]
  refine hclears _ _ rfl (fun e he halarming => ?_) fun i hi => ?_
  · exact (h e he halarming).clear_safetyIncident (hother e he halarming)
  · obtain ⟨e, he, rfl⟩ := List.mem_map.mp hi
    obtain ⟨hmem, hincident⟩ := List.mem_filter.mp he
    exact ⟨e, hmem, rfl, of_decide_eq_true hincident⟩

lemma alerted_close {summary outcome : String} (h : Alerted s) :
    Alerted (s.close incident summary outcome now).2 := by
  rw [Desk.close]
  split
  · exact h
  split
  · exact h
  split
  · exact h
  · rename_i hblockers
    exact alerted_closeIncident h (not_not.mp hblockers)

lemma alerted_finishCase {ids : List ℕ} {ending : Ending} {summary outcome : String}
    (h : Alerted s) : Alerted (s.finishCase incident ids ending summary outcome now).2 := by
  rw [Desk.finishCase]
  split
  · exact alerted_transitionAll h
  · rename_i hblockers
    exact alerted_closeIncident (alerted_transitionAll h) (not_not.mp hblockers)

/-- The assignment closes no alert that an alarming event of the incident has in place of its
own. -/
def LeavesAlarms (s : Desk) (incident : ℕ) (assignee : Option ℕ) : Prop :=
  assignee ≠ none → (∀ c ∈ s.incidents.get? incident, c.assignedTo ≠ assignee) →
    ∀ e ∈ s.sos.rows, e.Alarming → e.incident = some incident →
      ∃ a ∈ s.alerts.rows, a.acknowledgedAt = none ∧ (a.source = .sosEvent e.id ∨
        a.source = .safetyIncident incident ∧ a.kind ≠ .safetyIncidentUnassigned)

instance {assignee : Option ℕ} : Decidable (LeavesAlarms s incident assignee) :=
  inferInstanceAs (Decidable (assignee ≠ none →
    (∀ c ∈ s.incidents.get? incident, c.assignedTo ≠ assignee) →
    ∀ e ∈ s.sos.rows, e.Alarming → e.incident = some incident →
      ∃ a ∈ s.alerts.rows, a.acknowledgedAt = none ∧ (a.source = .sosEvent e.id ∨
        a.source = .safetyIncident incident ∧ a.kind ≠ .safetyIncidentUnassigned)))

lemma alerted_assign {assignee : Option ℕ} (h : Alerted s)
    (hleaves : LeavesAlarms s incident assignee) :
    Alerted (s.assign incident assignee now).2 := by
  rw [Desk.assign]
  cases hget : s.incidents.get? incident with
  | none => exact h
  | some c =>
      dsimp only
      split
      · exact h
      split
      · exact h
      rename_i hchanges
      split
      · exact h.of_eq rfl rfl
      rename_i hsome
      intro e he halarming
      by_cases hi : e.incident = some incident
      · have hassigns : ∀ c ∈ s.incidents.get? incident, c.assignedTo ≠ assignee := by
          intro c' hc'
          rw [hget, Option.mem_some_iff] at hc'
          exact hc' ▸ hchanges
        obtain ⟨a, ha, hopen, hown | ⟨hcase, hkind⟩⟩ := hleaves hsome hassigns e he halarming hi
        · exact .inl ⟨a, Alerts.isOpen_clearAlerts ⟨Serial.get?_of_mem ha, hown, hopen⟩
            (.inl fun heq => by cases heq)⟩
        · refine .inr ⟨incident, hi, a, Alerts.isOpen_clearAlerts
            ⟨Serial.get?_of_mem ha, hcase, hopen⟩ (.inr ⟨by decide, fun hmem => hkind ?_⟩)⟩
          exact List.mem_singleton.mp hmem
      · exact (h e he halarming).clear_safetyIncident hi

lemma alerted_setStatus {wanted : LiveStatus} (h : Alerted s) :
    Alerted (s.setStatus incident wanted).2 := by
  rw [Desk.setStatus]
  split
  · exact h
  split
  · exact h
  split
  · exact h
  · exact h.of_eq rfl rfl

lemma alerted_referPolice (h : Alerted s) : Alerted (s.referPolice incident now).2 := by
  rw [Desk.referPolice]
  split
  · exact h
  split
  · exact h
  split
  · exact h
  · exact h.of_eq rfl rfl

/-! ## Escalation -/

def InPlace (s : Desk) (id : ℕ) (linked : Option ℕ) : Prop :=
  linked = none ∨ ∀ e ∈ s.sos.get? id, e.incident = linked

instance {linked : Option ℕ} : Decidable (InPlace s id linked) :=
  inferInstanceAs (Decidable (linked = none ∨ ∀ e ∈ s.sos.get? id, e.incident = linked))

lemma alerted_escalateSos {linked : Option ℕ} (h : Alerted s) (hplace : InPlace s id linked) :
    Alerted (s.escalateSos id linked now).2 := by
  rw [Desk.escalateSos]
  cases hget : s.sos.get? id with
  | none => exact h
  | some row =>
      dsimp only
      split
      swap
      · exact h
      -- the event itself is covered by the alert that is raised, the others as before
      have hcovered : ∀ e ∈ s.sos.rows, e.id ≠ id → e.Alarming →
          Covered (s.alerts.raiseAlert .safetySosEscalated .critical
            (Desk.escalationSource id linked) now) e :=
        fun e he _ halarming => (h e he halarming).raiseAlert
      have hrow : ∀ {e}, e ∈ s.sos.rows → e.id = id → e = row := by
        intro e he hid
        have heq : s.sos.get? id = some e := hid ▸ Serial.get?_of_mem he
        rw [hget, Option.some.injEq] at heq
        exact heq.symm
      cases linked with
      | none =>
          rw [if_pos rfl]
          intro e' he' halarming
          obtain ⟨e, he, rfl⟩ := List.mem_map.mp he'
          split at halarming
          · rename_i hid
            rw [if_pos hid]
            refine .inl ?_
            show Alerts.OpenOn _ (.sosEvent e.id)
            rw [hid]
            exact Alerts.openOn_raiseAlert
          · rename_i hid
            rw [if_neg hid]
            exact hcovered e he hid halarming
      | some i =>
          rw [if_neg (by simp)]
          intro e' he' halarming
          obtain ⟨e, he, rfl⟩ := List.mem_map.mp he'
          split at halarming
          · rename_i hid
            rw [if_pos hid]
            have hincident : e.incident = some i := by
              rcases hplace with hnone | hall
              · cases hnone
              · rw [hrow he hid]
                exact hall row hget
            refine .inr ⟨i, hincident, ?_⟩
            exact Alerts.openOn_clearAlerts_of_ne Alerts.openOn_raiseAlert fun heq => by cases heq
          · rename_i hid
            rw [if_neg hid]
            exact (hcovered e he hid halarming).clear_sosEvent hid

lemma alerted_escalateIncident (h : Alerted s) : Alerted (s.escalateIncident id now).2 := by
  rw [Desk.escalateIncident]
  split
  · exact h
  split
  · refine Alerted.raise ?_
    exact h.of_eq rfl rfl
  · exact h

/-! ## Links -/

lemma alerted_setIncident_of_inPlace (h : Alerted s) (hplace : InPlace s id (some incident)) :
    Alerted (s.setIncident id incident) := by
  intro e' he' halarming
  obtain ⟨e, he, rfl⟩ := List.mem_map.mp he'
  have hsame : (if e.id = id then { e with incident := some incident } else e) = e := by
    split
    · rename_i hid
      have hget : s.sos.get? id = some e := hid ▸ Serial.get?_of_mem he
      rw [← hplace.resolve_left (fun hnone => by cases hnone) e hget]
    · rfl
  dsimp only at halarming ⊢
  rw [hsame] at halarming ⊢
  exact h e he halarming

lemma alerted_linkSos (h : Alerted s) (hlink : Movable s id ∨ InPlace s id (some incident)) :
    Alerted (s.linkSos incident id).2 := by
  rw [Desk.linkSos]
  split
  · exact h
  split
  · exact h
  · obtain hmovable | hplace := hlink
    · exact alerted_setIncident h hmovable
    · exact alerted_setIncident_of_inPlace h hplace

/-! ## Runs -/

/-- The transaction leaves every alarming event its alert. -/
def Attentive : Op → Choice → Desk → Prop
  | .attachSos id _ _ _, e, s => e.attaches = true → Movable s id
  | .openIncident _ _ sos _, _, s => ∀ id ∈ sos, Movable s id
  | .linkSos incident id, _, s => Movable s id ∨ InPlace s id (some incident)
  | .assign incident assignee, _, s => LeavesAlarms s incident assignee
  | .escalateSos id linked _, _, s => InPlace s id linked
  | _, _, _ => True

instance : (o : Op) → (e : Choice) → (s : Desk) → Decidable (Attentive o e s)
  | .attachSos id _ _ _, e, s => inferInstanceAs (Decidable (e.attaches = true → Movable s id))
  | .openIncident _ _ sos _, _, s => inferInstanceAs (Decidable (∀ id ∈ sos, Movable s id))
  | .linkSos incident id, _, s =>
      inferInstanceAs (Decidable (Movable s id ∨ InPlace s id (some incident)))
  | .assign incident assignee, _, s => inferInstanceAs (Decidable (LeavesAlarms s incident assignee))
  | .escalateSos id linked _, _, s => inferInstanceAs (Decidable (InPlace s id linked))
  | .sos _, _, _ | .incident _, _, _ | .openIncidentForTrip _, _, _ | .recent _, _, _
  | .unattached, _, _ | .linkedSos _ _, _, _ | .overdueSos _ _, _, _ | .overdueIncidents _ _, _, _
  | .raiseSos _ _, _, _ | .promote _ _, _, _ | .transition _ _, _, _ | .reportMistake _, _, _
  | .reveal _, _, _ | .acknowledgeCase _ _, _, _ | .finishCase _ _ _ _ _, _, _ | .close _ _ _, _, _
  | .setStatus _ _, _, _ | .referPolice _, _, _ | .escalateIncident _ _, _, _ => isTrue trivial

/-- Every attentive transaction keeps the alerts of the alarming events. -/
theorem alerted_exec {o : Op} {e : Choice} {s : Desk} (hguard : Attentive o e s) (h : Alerted s) :
    Alerted (exec o e s).2 := by
  cases o with
  | raiseSos d found => exact alerted_raiseSos h
  | attachSos id trip eventType found =>
      show Alerted (if e.attaches then _ else s)
      split
      · rename_i hattaches
        exact alerted_attachSos h (hguard hattaches)
      · exact h
  | openIncident trip severity sos found => exact alerted_openFor h hguard
  | promote trip found => exact Alerted.raise (alerted_openIncident h)
  | linkSos incident id => exact alerted_linkSos h hguard
  | transition id target => exact alerted_applyTransition h
  | reportMistake id => exact alerted_reportMistake h
  | reveal id =>
      show Alerted (s.reveal id).2
      rw [Desk.reveal]
      split
      · exact h
      split
      · exact h.of_eq rfl rfl
      · exact h
  | acknowledgeCase incident ids => exact (alerted_transitionAll h).of_eq rfl rfl
  | finishCase incident ids ending summary outcome => exact alerted_finishCase h
  | close incident summary outcome => exact alerted_close h
  | assign incident assignee => exact alerted_assign h hguard
  | setStatus incident wanted => exact alerted_setStatus h
  | referPolice incident => exact alerted_referPolice h
  | escalateSos id linked now => exact alerted_escalateSos h hguard
  | escalateIncident id now => exact alerted_escalateIncident h
  | sos id => exact h
  | incident id => exact h
  | openIncidentForTrip trip => exact h
  | recent d => exact h
  | unattached => exact h
  | linkedSos incident statuses => exact h
  | overdueSos shortest now => exact h
  | overdueIncidents shortest now => exact h

variable {τ : Type} [DecidableEq τ]

/-- In every run in which no assignment closes the one alert of an escalated open event, no such
event is moved from one incident to another and a sweep escalates an event to the incident it is
in: an open alert exists for every escalated open event, its own or its incident's. -/
theorem alarm_alerted {as : List (ResponderMove τ)}
    (h : Transition.Guarded responderStep (Pool.Meets Attentive) (noResponders : Responders τ) as) :
    ∀ e ∈ (Transition.run responderStep noResponders as).store.sos.rows, e.Alarming →
      Covered (Transition.run responderStep noResponders as).store.alerts e := by
  refine Transition.invariant_of_guarded (I := fun p : Responders τ => Alerted p.store)
    (fun p m hm hs => ?_) (fun e he => by cases he) h
  have hop : ∀ (o : Op) (e : Choice) (s : Desk), Attentive o e s → Alerted s →
      (Alerted s → Alerted (exec o e s).2) := fun _ _ _ hguard _ hs => alerted_exec hguard hs
  have hmove : Alerted p.store → Alerted (responderStep p m).store :=
    Pool.store_rel_step (I := Alerted) (J := fun s s' => Alerted s → Alerted s')
      (fun _ hs => hs) hop (fun _ _ _ hs => hs) hm hs
  exact hmove hs

/-! ## A critical case that is assigned -/

/-- One country with two timers, in minutes. -/
def oneCountry (sosAck incidentAssign : ℕ) : Configs where
  active := [⟨some sosAck, some incidentAssign⟩]
  ofSos := fun _ => some ⟨some sosAck, some incidentAssign⟩
  ofIncident := fun _ => some ⟨some sosAck, some incidentAssign⟩

/-- A panic button nobody takes, six and eleven minutes of it, and an assignment of its case. -/
def takenUpLate (sosAck incidentAssign : ℕ) : List (ResponderMove Bool) :=
  callAt 0 false (.raiseSos panicDraft) 3 ++
    callAt 360 true (.sweep (oneCountry sosAck incidentAssign) 360) 4 ++
    callAt 660 true (.sweep (oneCountry sosAck incidentAssign) 660) 4 ++
    callAt 700 false (.assign 0 (some 42)) 2

lemma not_covered_of_closed (h : ∀ a ∈ b.rows, a.acknowledgedAt ≠ none) : ¬ Covered b e := by
  have hopen : ∀ source, ¬ b.OpenOn source := by
    rintro source ⟨a, hget, -, hopen⟩
    exact h a (Serial.mem_of_get? hget) hopen
  rintro (hown | ⟨i, -, hcase⟩)
  · exact hopen _ hown
  · exact hopen _ hcase

/-- The case is escalated before its event, whose escalation joins the alert that nobody is
assigned; the assignment closes it, and the event is still open. -/
theorem assignedAwayFromAlarm :
    ∃ e ∈ (Transition.run responderStep noResponders (takenUpLate 10 5)).store.sos.rows,
      e.Alarming ∧
        ¬ Covered (Transition.run responderStep noResponders (takenUpLate 10 5)).store.alerts e := by
  have halarming : ∃ e ∈ (Transition.run responderStep noResponders
      (takenUpLate 10 5)).store.sos.rows, e.Alarming := by
    decide +kernel
  have hclosed : ∀ a ∈ (Transition.run responderStep noResponders
      (takenUpLate 10 5)).store.alerts.rows, a.acknowledgedAt ≠ none := by
    decide +kernel
  obtain ⟨e, he, hopen⟩ := halarming
  exact ⟨e, he, hopen, not_covered_of_closed hclosed⟩

/-- When the event is escalated before its case, the assignment leaves the alert. -/
theorem alarm_alerted_assigned :
    Transition.Guarded responderStep (Pool.Meets Attentive) noResponders (takenUpLate 5 10) ∧
    ∃ e ∈ (Transition.run responderStep noResponders (takenUpLate 5 10)).store.sos.rows,
      e.Alarming ∧
        Covered (Transition.run responderStep noResponders (takenUpLate 5 10)).store.alerts e := by
  have hguarded : Transition.Guarded responderStep (Pool.Meets Attentive) noResponders
      (takenUpLate 5 10) := by
    decide +kernel
  have halarming : ∃ e ∈ (Transition.run responderStep noResponders
      (takenUpLate 5 10)).store.sos.rows, e.Alarming := by
    decide +kernel
  obtain ⟨e, he, hopen⟩ := halarming
  exact ⟨hguarded, e, he, hopen, alarm_alerted hguarded e he hopen⟩

end SaaradhiGo.Safety
