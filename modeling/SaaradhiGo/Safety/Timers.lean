/-
The timers of the safety desk.

A sweep lists the oldest events and incidents that are overdue by the shortest timer of any
country, two hundred of each, before it looks at the timer of the country each of them is in.  One
that is overdue by its own timer is escalated by a sweep that runs alone when it is on that list,
which those of countries without a timer fill as well as others (`escalated_when_listed`).  What is
escalated was due by the timer of its own country, and nothing is escalated twice, in whatever
order the calls on the desk commit.
-/
import Mathlib.Data.List.ReduceOption
import SaaradhiGo.Safety.Ended

namespace SaaradhiGo.Safety

open CommandCentre Interleave

/-! ## What no call changes -/

/-- An event goes on: who raised it and when, and whether it was escalated. -/
structure SosEvent.GoesOn (e e' : SosEvent) : Prop where
  user : e'.user = e.user
  trip : e'.trip = e.trip
  createdAt : e'.createdAt = e.createdAt
  escalated : e.escalatedAt ≠ none → e'.escalatedAt ≠ none

/-- An incident goes on: when it was opened, and whether it was escalated. -/
structure Incident.GoesOn (c c' : Incident) : Prop where
  openedAt : c'.openedAt = c.openedAt
  escalated : c.assignEscalatedAt ≠ none → c'.assignEscalatedAt ≠ none

/-- The rows of a desk go on. -/
structure Desk.GoesOn (s s' : Desk) : Prop where
  sos : ∀ i e, s.sos.get? i = some e → ∃ e', s'.sos.get? i = some e' ∧ e.GoesOn e'
  incidents : ∀ i c, s.incidents.get? i = some c →
    ∃ c', s'.incidents.get? i = some c' ∧ c.GoesOn c'

section GoesOn

variable {s s' s'' : Desk} {id incident now : ℕ} {target : Target} {found : Option Incident}

lemma SosEvent.GoesOn.refl (e : SosEvent) : e.GoesOn e := ⟨rfl, rfl, rfl, fun h => h⟩

lemma Incident.GoesOn.refl (c : Incident) : c.GoesOn c := ⟨rfl, fun h => h⟩

lemma SosEvent.GoesOn.trans {e e' e'' : SosEvent} (h : e.GoesOn e') (h' : e'.GoesOn e'') :
    e.GoesOn e'' where
  user := h'.user.trans h.user
  trip := h'.trip.trans h.trip
  createdAt := h'.createdAt.trans h.createdAt
  escalated := h'.escalated ∘ h.escalated

namespace Desk.GoesOn

lemma refl (s : Desk) : s.GoesOn s :=
  ⟨fun _ e h => ⟨e, h, .refl e⟩, fun _ c h => ⟨c, h, .refl c⟩⟩

lemma trans (h : s.GoesOn s') (h' : s'.GoesOn s'') : s.GoesOn s'' := by
  constructor
  · intro i e hi
    obtain ⟨e', hi', hon⟩ := h.sos i e hi
    obtain ⟨e'', hi'', hon'⟩ := h'.sos i e' hi'
    exact ⟨e'', hi'', hon.trans hon'⟩
  · intro i c hi
    obtain ⟨c', hi', hon⟩ := h.incidents i c hi
    obtain ⟨c'', hi'', hon'⟩ := h'.incidents i c' hi'
    exact ⟨c'', hi'', hon'.openedAt.trans hon.openedAt, hon'.escalated ∘ hon.escalated⟩

lemma of_eq (hsos : s'.sos = s.sos) (hincidents : s'.incidents = s.incidents) : s.GoesOn s' := by
  constructor
  · intro i e hi
    exact ⟨e, hsos ▸ hi, .refl e⟩
  · intro i c hi
    exact ⟨c, hincidents ▸ hi, .refl c⟩

lemma updateSos {p : SosEvent → Prop} [DecidablePred p] {f : SosEvent → SosEvent}
    (hf : ∀ e, (f e).id = e.id) (hon : ∀ e : SosEvent, e.GoesOn (f e)) :
    s.GoesOn (s.updateSos p f hf) := by
  constructor
  · intro i e hi
    refine ⟨_, Desk.get?_updateSos hi, ?_⟩
    split
    · exact hon e
    · exact .refl e
  · exact fun i c hi => ⟨c, hi, .refl c⟩

lemma updateIncidents {p : Incident → Prop} [DecidablePred p] {f : Incident → Incident}
    (hf : ∀ c, (f c).id = c.id) (hon : ∀ c : Incident, c.GoesOn (f c)) :
    s.GoesOn (s.updateIncidents p f hf) := by
  constructor
  · exact fun i e hi => ⟨e, hi, .refl e⟩
  · intro i c hi
    refine ⟨if p c then f c else c, ?_, ?_⟩
    · show (s.incidents.updateWhere p f hf).get? i = _
      rw [Serial.get?_updateWhere, hi, Option.map_some]
    · split
      · exact hon c
      · exact .refl c

end Desk.GoesOn

lemma goesOn_clear (source : AlertSource) (kinds : List AlertKind) :
    s.GoesOn (s.clear source kinds now) := .of_eq rfl rfl

lemma goesOn_raiseSeverity (row : Incident) (severity : Severity) :
    s.GoesOn (s.raiseSeverity row severity) := by
  rw [Desk.raiseSeverity]
  split
  · exact .updateIncidents _ fun c => ⟨rfl, fun h => h⟩
  · exact .refl s

lemma goesOn_openIncident {trip : Option ℕ} {severity : Severity} :
    s.GoesOn (s.openIncident found trip severity now).2 := by
  rw [Desk.openIncident.eq_def]
  cases found with
  | some existing => exact goesOn_raiseSeverity existing severity
  | none =>
    dsimp only
    cases s.openIncidentForTrip trip with
    | some winner => exact goesOn_raiseSeverity winner severity
    | none =>
      refine ⟨fun i e hi => ⟨e, hi, .refl e⟩, fun i c hi => ⟨c, ?_, .refl c⟩⟩
      exact Serial.get?_insert_of_some _ hi

lemma goesOn_setIncident : s.GoesOn (s.setIncident id incident) :=
  .updateSos _ fun _ => ⟨rfl, rfl, rfl, fun h => h⟩

lemma goesOn_attachSos {trip : Option ℕ} {eventType : EventType} :
    s.GoesOn (s.attachSos id trip eventType found now) :=
  goesOn_openIncident.trans goesOn_setIncident

lemma goesOn_linkSos : s.GoesOn (s.linkSos incident id).2 := by
  rw [Desk.linkSos]
  cases s.incidents.get? incident with
  | none => exact .refl s
  | some c =>
    dsimp only
    split
    · exact .refl s
    · exact goesOn_setIncident

lemma goesOn_openFor {trip sos : Option ℕ} {severity : Severity} :
    s.GoesOn (s.openFor trip severity sos found now).2 := by
  rw [Desk.openFor.eq_def]
  cases sos with
  | none => exact goesOn_openIncident
  | some id => exact goesOn_openIncident.trans goesOn_setIncident

lemma goesOn_raiseSos {d : SosDraft} {attaches : Bool} :
    s.GoesOn (s.raiseSos d found attaches now).2 := by
  rw [Desk.raiseSos]
  dsimp only
  set written : Desk := { s with sos := s.sos.insert _ _ }
  have hwritten : s.GoesOn written :=
    ⟨fun i e hi => ⟨e, Serial.get?_insert_of_some _ hi, .refl e⟩, fun i c hi => ⟨c, hi, .refl c⟩⟩
  have halerted : s.GoesOn (if d.anchored then written
      else written.raise .sosUnanchored .critical (.sosEvent s.sos.next) now) := by
    split
    · exact hwritten
    · exact hwritten.trans (.of_eq rfl rfl)
  split
  · exact halerted.trans goesOn_attachSos
  · exact halerted

lemma goesOn_clearSosAlerts (linked : Option ℕ) : s.GoesOn (s.clearSosAlerts id linked now) := by
  rw [Desk.clearSosAlerts.eq_def]
  cases linked with
  | none => exact .of_eq rfl rfl
  | some i =>
    dsimp only
    split
    · exact .of_eq rfl rfl
    · exact .of_eq rfl rfl

lemma goesOn_investigate : s.GoesOn (s.investigate incident) :=
  .updateIncidents _ fun _ => ⟨rfl, fun h => h⟩

lemma goesOn_noteOnSosTransition (linked : Option ℕ) (status : SosStatus) :
    s.GoesOn (s.noteOnSosTransition id linked status now) := by
  have hcleared : s.GoesOn (if status = .opened then s else s.clearSosAlerts id linked now) := by
    split
    · exact .refl s
    · exact goesOn_clearSosAlerts linked
  rw [Desk.noteOnSosTransition.eq_def]
  cases linked with
  | none => exact hcleared
  | some i =>
    dsimp only
    split
    · exact hcleared.trans goesOn_investigate
    · exact hcleared

lemma goesOn_applyTransition {refuse : Bool} :
    s.GoesOn (s.applyTransition id target refuse now).2 := by
  rw [Desk.applyTransition]
  cases s.sos.get? id with
  | none => exact .refl s
  | some e =>
    dsimp only
    split
    · exact .refl s
    split
    · exact .refl s
    · refine Desk.GoesOn.trans ?_ (goesOn_noteOnSosTransition _ _)
      exact .updateSos _ fun _ => ⟨rfl, rfl, rfl, fun h => h⟩

lemma goesOn_transitionAll {ids : List ℕ} : s.GoesOn (s.transitionAll ids target now) := by
  induction ids generalizing s with
  | nil => exact .refl s
  | cons i ids ih => exact goesOn_applyTransition.trans ih

lemma goesOn_reportMistake : s.GoesOn (s.reportMistake id now) := by
  rw [Desk.reportMistake]
  cases s.sos.get? id with
  | none => exact .refl s
  | some e =>
    dsimp only
    split
    · exact .refl s
    · refine Desk.GoesOn.trans ?_ (goesOn_noteOnSosTransition _ _)
      exact .updateSos _ fun _ => ⟨rfl, rfl, rfl, fun h => h⟩

lemma goesOn_reveal : s.GoesOn (s.reveal id).2 := by
  rw [Desk.reveal]
  cases s.sos.get? id with
  | none => exact .refl s
  | some e =>
    dsimp only
    split
    · exact .of_eq rfl rfl
    · exact .refl s

lemma goesOn_closeIncident {summary outcome : String} :
    s.GoesOn (s.closeIncident incident summary outcome now) := by
  have hclears : ∀ (ids : List ℕ) (s : Desk),
      s.GoesOn (ids.foldl (fun s id => s.clear (.sosEvent id) [] now) s) := by
    intro ids
    induction ids with
    | nil => exact fun s => .refl s
    | cons i ids ih =>
      intro s
      exact (goesOn_clear (.sosEvent i) []).trans (ih _)
  rw [Desk.closeIncident]
  refine Desk.GoesOn.trans ?_ (hclears _ _)
  refine Desk.GoesOn.trans ?_ (goesOn_clear _ _)
  exact .updateIncidents _ fun _ => ⟨rfl, fun h => h⟩

lemma goesOn_close {summary outcome : String} :
    s.GoesOn (s.close incident summary outcome now).2 := by
  rw [Desk.close]
  cases s.incidents.get? incident with
  | none => exact .refl s
  | some c =>
    dsimp only
    split
    · exact .refl s
    split
    · exact .refl s
    · exact goesOn_closeIncident

lemma goesOn_finishCase {ids : List ℕ} {ending : Ending} {summary outcome : String} :
    s.GoesOn (s.finishCase incident ids ending summary outcome now).2 := by
  rw [Desk.finishCase]
  split
  · exact goesOn_transitionAll
  · exact goesOn_transitionAll.trans goesOn_closeIncident

lemma goesOn_assign {assignee : Option ℕ} :
    s.GoesOn (s.assign incident assignee now).2 := by
  rw [Desk.assign]
  cases s.incidents.get? incident with
  | none => exact .refl s
  | some c =>
    dsimp only
    split
    · exact .refl s
    split
    · exact .refl s
    · have hassigned : s.GoesOn (s.updateIncidents (fun c => c.id = incident)
          (fun c => { c with assignedTo := assignee }) fun _ => rfl) :=
        .updateIncidents _ fun _ => ⟨rfl, fun h => h⟩
      split
      · exact hassigned
      · exact hassigned.trans (.of_eq rfl rfl)

lemma goesOn_setStatus {wanted : LiveStatus} : s.GoesOn (s.setStatus incident wanted).2 := by
  rw [Desk.setStatus]
  cases s.incidents.get? incident with
  | none => exact .refl s
  | some c =>
    dsimp only
    split
    · exact .refl s
    split
    · exact .refl s
    · exact .updateIncidents _ fun _ => ⟨rfl, fun h => h⟩

lemma goesOn_referPolice : s.GoesOn (s.referPolice incident now).2 := by
  rw [Desk.referPolice]
  cases s.incidents.get? incident with
  | none => exact .refl s
  | some c =>
    dsimp only
    split
    · exact .refl s
    split
    · exact .refl s
    · exact .updateIncidents _ fun _ => ⟨rfl, fun h => h⟩

/-- What `escalate_sos` makes of the events: one that is open and was not escalated is. -/
lemma escalateSos_cases (s : Desk) (id : ℕ) (linked : Option ℕ) (now : ℕ) :
    ((s.escalateSos id linked now).1 = false ∧ (s.escalateSos id linked now).2 = s ∧
        ∀ e, s.sos.get? id = some e → ¬ (e.status = .opened ∧ e.escalatedAt = none)) ∨
      ((s.escalateSos id linked now).1 = true ∧
        (∃ e, s.sos.get? id = some e ∧ e.status = .opened ∧ e.escalatedAt = none) ∧
        (s.escalateSos id linked now).2.incidents = s.incidents ∧
        (s.escalateSos id linked now).2.sos = s.sos.updateWhere (fun e => e.id = id)
          (fun e => { e with escalatedAt := some now }) fun _ => rfl) := by
  rw [Desk.escalateSos]
  cases hget : s.sos.get? id with
  | none => exact .inl ⟨rfl, rfl, fun e h => by cases h⟩
  | some e =>
    dsimp only
    split
    · rename_i hopen
      refine .inr ⟨rfl, ⟨e, rfl, hopen⟩, ?_, ?_⟩
      · split
        · rfl
        · rfl
      · split
        · rfl
        · rfl
    · rename_i hopen
      refine .inl ⟨rfl, rfl, fun e' h => ?_⟩
      cases h
      exact hopen

/-- What `escalate_incident` makes of the incidents. -/
lemma escalateIncident_cases (s : Desk) (id now : ℕ) :
    ((s.escalateIncident id now).1 = false ∧ (s.escalateIncident id now).2 = s ∧
        ∀ c, s.incidents.get? id = some c → ¬ (c.assignEscalatedAt = none ∧ c.assignedTo = none ∧
          c.severity = .critical ∧ c.status ≠ .closed)) ∨
      ((s.escalateIncident id now).1 = true ∧
        (∃ c, s.incidents.get? id = some c ∧ c.assignEscalatedAt = none) ∧
        (s.escalateIncident id now).2.sos = s.sos ∧
        (s.escalateIncident id now).2.incidents = s.incidents.updateWhere (fun c => c.id = id)
          (fun c => { c with assignEscalatedAt := some now }) fun _ => rfl) := by
  rw [Desk.escalateIncident]
  cases hget : s.incidents.get? id with
  | none => exact .inl ⟨rfl, rfl, fun e h => by cases h⟩
  | some c =>
    dsimp only
    split
    · rename_i hdue
      exact .inr ⟨rfl, ⟨c, rfl, hdue.1⟩, rfl, rfl⟩
    · rename_i hdue
      refine .inl ⟨rfl, rfl, fun c' h => ?_⟩
      cases h
      exact hdue

lemma goesOn_escalateSos {linked : Option ℕ} : s.GoesOn (s.escalateSos id linked now).2 := by
  rcases escalateSos_cases s id linked now with ⟨-, hsame, -⟩ | ⟨-, -, hincidents, hsos⟩
  · rw [hsame]
    exact .refl s
  · have hstamped : s.GoesOn (s.updateSos (fun e => e.id = id)
        (fun e => { e with escalatedAt := some now }) fun _ => rfl) :=
      .updateSos _ fun e => ⟨rfl, rfl, rfl, fun _ => Option.some_ne_none now⟩
    exact hstamped.trans (.of_eq hsos hincidents)

lemma goesOn_escalateIncident : s.GoesOn (s.escalateIncident id now).2 := by
  rcases escalateIncident_cases s id now with ⟨-, hsame, -⟩ | ⟨-, -, hsos, hincidents⟩
  · rw [hsame]
    exact .refl s
  · have hstamped : s.GoesOn (s.updateIncidents (fun c => c.id = id)
        (fun c => { c with assignEscalatedAt := some now }) fun _ => rfl) :=
      .updateIncidents _ fun c => ⟨rfl, fun _ => Option.some_ne_none now⟩
    exact hstamped.trans (.of_eq hsos hincidents)

/-- Every read and every transaction lets the rows go on. -/
theorem goesOn_exec (o : Op) (e : Choice) (s : Desk) : s.GoesOn (exec o e s).2 := by
  cases o with
  | raiseSos d found => exact goesOn_raiseSos
  | attachSos id trip eventType found =>
    show s.GoesOn (if e.attaches then _ else s)
    split
    · exact goesOn_attachSos
    · exact .refl s
  | openIncident trip severity sos found => exact goesOn_openFor
  | promote trip found => exact goesOn_openIncident.trans (.of_eq rfl rfl)
  | linkSos incident id => exact goesOn_linkSos
  | transition id target => exact goesOn_applyTransition
  | reportMistake id => exact goesOn_reportMistake
  | reveal id => exact goesOn_reveal
  | acknowledgeCase incident ids => exact goesOn_transitionAll.trans goesOn_investigate
  | finishCase incident ids ending summary outcome => exact goesOn_finishCase
  | close incident summary outcome => exact goesOn_close
  | assign incident assignee => exact goesOn_assign
  | setStatus incident wanted => exact goesOn_setStatus
  | referPolice incident => exact goesOn_referPolice
  | escalateSos id linked now => exact goesOn_escalateSos
  | escalateIncident id now => exact goesOn_escalateIncident
  | sos id => exact .refl s
  | incident id => exact .refl s
  | openIncidentForTrip trip => exact .refl s
  | recent d => exact .refl s
  | unattached => exact .refl s
  | linkedSos incident statuses => exact .refl s
  | overdueSos shortest now => exact .refl s
  | overdueIncidents shortest now => exact .refl s

end GoesOn

/-! ## Escalations of a run -/

inductive Subject where
  | event (id : ℕ)
  | incident (id : ℕ)
deriving DecidableEq, Repr

/-- What an operation escalated. -/
def escalated : (o : Op) → Ans o → Option Subject
  | .escalateSos id _ _, true => some (.event id)
  | .escalateIncident id _, true => some (.incident id)
  | _, _ => none

/-- An escalation: what was escalated, by which call, and the desk before it. -/
structure Escalation where
  subject : Subject
  call : Call
  desk : Desk

variable {τ : Type} [DecidableEq τ]

/-- What a move escalates. -/
def escalationOf (p : Responders τ) : ResponderMove τ → Option Escalation
  | .advance t e =>
    match p.threads t with
    | some (call, .op o _) =>
      (escalated o (exec o e p.store).1).map fun subject => ⟨subject, call, p.store⟩
    | _ => none
  | _ => none

/-- The escalations of a run. -/
def escalations (p : Responders τ) : List (ResponderMove τ) → List Escalation
  | [] => []
  | m :: moves => (escalationOf p m).toList ++ escalations (responderStep p m) moves

def Desk.Escalated (s : Desk) : Subject → Prop
  | .event id => ∃ e, s.sos.get? id = some e ∧ e.escalatedAt ≠ none
  | .incident id => ∃ c, s.incidents.get? id = some c ∧ c.assignEscalatedAt ≠ none

section Once

variable {p : Responders τ} {m : ResponderMove τ} {x : Escalation} {subject : Subject}

lemma Desk.GoesOn.escalated {s s' : Desk} (h : s.GoesOn s') (hs : s.Escalated subject) :
    s'.Escalated subject := by
  cases subject with
  | event id =>
    obtain ⟨e, he, hesc⟩ := hs
    obtain ⟨e', he', hon⟩ := h.sos id e he
    exact ⟨e', he', hon.escalated hesc⟩
  | incident id =>
    obtain ⟨c, hc, hesc⟩ := hs
    obtain ⟨c', hc', hon⟩ := h.incidents id c hc
    exact ⟨c', hc', hon.escalated hesc⟩

lemma escalated_exec {o : Op} {e : Choice} {s : Desk}
    (h : escalated o (exec o e s).1 = some subject) :
    ¬ s.Escalated subject ∧ (exec o e s).2.Escalated subject := by
  cases o with
  | escalateSos id linked now =>
    rcases escalateSos_cases s id linked now with ⟨hlost, -⟩ |
      ⟨hwon, ⟨row, hrow, -, hnone⟩, -, hsos⟩
    · have hans : (exec (.escalateSos id linked now) e s).1 = false := hlost
      rw [hans] at h
      cases h
    · have hans : (exec (.escalateSos id linked now) e s).1 = true := hwon
      rw [hans] at h
      cases h
      constructor
      · rintro ⟨row', hrow', hesc⟩
        rw [hrow] at hrow'
        cases hrow'
        exact hesc hnone
      · refine ⟨{ row with escalatedAt := some now }, ?_, Option.some_ne_none now⟩
        show (s.escalateSos id linked now).2.sos.get? id = _
        rw [hsos, Serial.get?_updateWhere, hrow, Option.map_some, if_pos (Serial.pk_of_get? hrow)]
  | escalateIncident id now =>
    rcases escalateIncident_cases s id now with ⟨hlost, -⟩ |
      ⟨hwon, ⟨row, hrow, hnone⟩, -, hincidents⟩
    · have hans : (exec (.escalateIncident id now) e s).1 = false := hlost
      rw [hans] at h
      cases h
    · have hans : (exec (.escalateIncident id now) e s).1 = true := hwon
      rw [hans] at h
      cases h
      constructor
      · rintro ⟨row', hrow', hesc⟩
        rw [hrow] at hrow'
        cases hrow'
        exact hesc hnone
      · refine ⟨{ row with assignEscalatedAt := some now }, ?_, Option.some_ne_none now⟩
        show (s.escalateIncident id now).2.incidents.get? id = _
        rw [hincidents, Serial.get?_updateWhere, hrow, Option.map_some,
          if_pos (Serial.pk_of_get? hrow)]
  | _ => cases h

lemma goesOn_step (p : Responders τ) (m : ResponderMove τ) :
    p.store.GoesOn (responderStep p m).store := by
  have hmeets : Pool.Meets (fun _ _ _ => True) p m := by
    cases m with
    | advance t e => exact fun _ _ => trivial
    | start t a => exact trivial
    | outside x => exact trivial
  exact Pool.store_rel_step (I := fun _ => True) (J := Desk.GoesOn) Desk.GoesOn.refl
    (fun o e s _ _ => goesOn_exec o e s) (fun _ s _ => .refl s) hmeets trivial

omit [DecidableEq τ] in
lemma escalationOf_eq_some (h : escalationOf p m = some x) :
    ∃ t e o k, m = .advance t e ∧ p.threads t = some (x.call, .op o k) ∧
      escalated o (exec o e p.store).1 = some x.subject ∧ x.desk = p.store := by
  cases m with
  | advance t e =>
    rw [escalationOf] at h
    split at h
    · rename_i call o k ht
      obtain ⟨subject, hsubject, rfl⟩ := Option.map_eq_some_iff.mp h
      exact ⟨t, e, o, k, rfl, ht, hsubject, rfl⟩
    · cases h
  | start t a => cases h
  | outside u => cases h

lemma escalated_of_escalationOf (h : escalationOf p m = some x) :
    ¬ p.store.Escalated x.subject ∧ (responderStep p m).store.Escalated x.subject := by
  obtain ⟨t, e, o, k, rfl, ht, hesc, -⟩ := escalationOf_eq_some h
  have hexec := escalated_exec hesc
  refine ⟨hexec.1, ?_⟩
  have hstore : (responderStep p (.advance t e)).store = (exec o e p.store).2 := by
    simp [responderStep, Pool.step, ht, Prog.next]
  rw [hstore]
  exact hexec.2

lemma not_escalated_of_mem_escalations {moves : List (ResponderMove τ)}
    (hx : x ∈ escalations p moves) : ¬ p.store.Escalated x.subject := by
  induction moves generalizing p with
  | nil => cases hx
  | cons m moves ih =>
    rcases List.mem_append.mp hx with hx | hx
    · exact (escalated_of_escalationOf (Option.mem_toList.mp hx)).1
    · exact fun hesc => ih hx ((goesOn_step p m).escalated hesc)

/-- Nothing is escalated twice. -/
theorem nodup_escalations (p : Responders τ) (moves : List (ResponderMove τ)) :
    ((escalations p moves).map Escalation.subject).Nodup := by
  induction moves generalizing p with
  | nil => exact List.nodup_nil
  | cons m moves ih =>
    rw [escalations, List.map_append, List.nodup_append]
    refine ⟨?_, ih _, ?_⟩
    · cases escalationOf p m with
      | none => exact List.nodup_nil
      | some x => exact List.nodup_singleton _
    · intro subject hfirst subject' hlater heq
      obtain ⟨x, hx, rfl⟩ := List.mem_map.mp hfirst
      obtain ⟨y, hy, rfl⟩ := List.mem_map.mp hlater
      refine not_escalated_of_mem_escalations hy ?_
      rw [← heq]
      exact (escalated_of_escalationOf (Option.mem_toList.mp hx)).2

end Once

/-! ## Timers -/

def dueSos (c : Configs) (now : ℕ) (e : SosEvent) : Bool :=
  (c.ofSos e).any fun c => runOut c.sosAckMinutes e.createdAt now

def dueIncident (c : Configs) (now : ℕ) (i : Incident) : Bool :=
  (c.ofIncident i).any fun c => runOut c.incidentAssignMinutes i.openedAt now

/-- The escalation was made by a sweep whose query found the row, and the row was due. -/
def DueFor (call : Call) (s : Desk) : Subject → Prop
  | .event id => ∃ c now, call = .sweep c now ∧ ∃ row e, s.sos.get? id = some row ∧ e.id = id ∧
      e.GoesOn row ∧ dueSos c now e = true
  | .incident id => ∃ c now, call = .sweep c now ∧ ∃ row i, s.incidents.get? id = some row ∧
      i.id = id ∧ i.GoesOn row ∧ dueIncident c now i = true

/-- What an operation may escalate. -/
def subjectOf : Op → Option Subject
  | .escalateSos id _ _ => some (.event id)
  | .escalateIncident id _ => some (.incident id)
  | _ => none

/-- A program escalates nothing. -/
def Harmless : Program → Prop
  | .ret _ => True
  | .op o k => subjectOf o = none ∧ ∀ a, Harmless (k a)

section Due

variable {s s' : Desk} {call : Call} {c : Configs} {now : ℕ} {k : Program}

/-- The programs whose escalations are due, whatever the other calls do meanwhile. -/
abbrev Punctual (call : Call) (q : Program) (s : Desk) : Prop :=
  Prog.wp exec (fun _ _ _ => True) (fun _ s s' => s.GoesOn s')
    (fun o s _ => ∀ subject ∈ subjectOf o, DueFor call s subject) q (fun _ _ => True) s

lemma punctual_of_harmless {q : Program} (h : Harmless q) : Punctual call q s := by
  induction q generalizing s with
  | ret r => exact fun _ _ => trivial
  | op o k ih =>
    intro s₁ _ e _
    refine ⟨fun subject hsubject => ?_, ih _ (h.2 _)⟩
    rw [h.1] at hsubject
    cases hsubject

lemma harmless_onIncident {incident : ℕ} (h : Harmless k) : Harmless (onIncident incident k) := by
  refine ⟨rfl, fun found => ?_⟩
  cases found with
  | none => exact trivial
  | some c =>
    dsimp only
    split
    · exact trivial
    · exact h

lemma harmless_openAfterRead {trip sos : Option ℕ} {severity : Severity} :
    Harmless (openAfterRead trip severity sos) :=
  ⟨rfl, fun _ => ⟨rfl, fun _ => trivial⟩⟩

lemma harmless_finish {incident : ℕ} {ending : Ending} {summary outcome : String} :
    Harmless (finish incident ending summary outcome) :=
  harmless_onIncident ⟨rfl, fun _ => ⟨rfl, fun _ => trivial⟩⟩

lemma harmless_program (h : ∀ c now, call ≠ .sweep c now) : Harmless (program call) := by
  cases call with
  | raiseSos d =>
    refine ⟨rfl, fun found => ?_⟩
    cases found with
    | some existing => exact trivial
    | none => exact ⟨rfl, fun _ => ⟨rfl, fun _ => trivial⟩⟩
  | raiserMistake id => exact ⟨rfl, fun _ => trivial⟩
  | adminTransition id target note =>
    refine ⟨rfl, fun found => ?_⟩
    cases found with
    | none => exact trivial
    | some e =>
      dsimp only
      split
      · exact trivial
      · exact ⟨rfl, fun _ => trivial⟩
  | revealContact id => exact ⟨rfl, fun _ => trivial⟩
  | createIncident trip severity sos =>
    cases sos with
    | none => exact harmless_openAfterRead
    | some id =>
      refine ⟨rfl, fun found => ?_⟩
      cases found with
      | none => exact trivial
      | some e =>
        dsimp only
        split
        · exact trivial
        · exact harmless_openAfterRead
  | escalateTicket trip => exact harmless_openAfterRead
  | promoteSignal trip => exact ⟨rfl, fun _ => ⟨rfl, fun _ => trivial⟩⟩
  | linkSos incident id =>
    refine harmless_onIncident ⟨rfl, fun found => ?_⟩
    cases found with
    | none => exact trivial
    | some e =>
      dsimp only
      split
      · exact trivial
      · exact ⟨rfl, fun _ => trivial⟩
  | acknowledge incident => exact harmless_onIncident ⟨rfl, fun _ => ⟨rfl, fun _ => trivial⟩⟩
  | resolve incident summary outcome => exact harmless_finish
  | falseAlarm incident reason => exact harmless_finish
  | close incident summary outcome => exact ⟨rfl, fun _ => trivial⟩
  | assign incident assignee => exact harmless_onIncident ⟨rfl, fun _ => trivial⟩
  | setStatus incident wanted =>
    rw [program]
    split
    · exact harmless_onIncident ⟨rfl, fun _ => trivial⟩
    · exact trivial
  | referPolice incident => exact harmless_onIncident ⟨rfl, fun _ => trivial⟩
  | sweep c now => exact absurd rfl (h c now)

def ReadFrom (s : Desk) (rows : List SosEvent) : Prop :=
  ∀ e ∈ rows, ∃ row, s.sos.get? e.id = some row ∧ e.GoesOn row

def CasesReadFrom (s : Desk) (rows : List Incident) : Prop :=
  ∀ i ∈ rows, ∃ row, s.incidents.get? i.id = some row ∧ i.GoesOn row

lemma ReadFrom.goesOn {rows : List SosEvent} (h : ReadFrom s rows) (hon : s.GoesOn s') :
    ReadFrom s' rows := by
  intro e he
  obtain ⟨row, hrow, hrow'⟩ := h e he
  obtain ⟨row', hget, hgoes⟩ := hon.sos e.id row hrow
  exact ⟨row', hget, hrow'.trans hgoes⟩

lemma CasesReadFrom.goesOn {rows : List Incident} (h : CasesReadFrom s rows)
    (hon : s.GoesOn s') : CasesReadFrom s' rows := by
  intro i hi
  obtain ⟨row, hrow, hrow'⟩ := h i hi
  obtain ⟨row', hget, hgoes⟩ := hon.incidents i.id row hrow
  exact ⟨row', hget, hgoes.openedAt.trans hrow'.openedAt, hgoes.escalated ∘ hrow'.escalated⟩

lemma punctual_escalateEachIncident {rows : List Incident} (hrows : CasesReadFrom s rows)
    (hk : ∀ s, Punctual (.sweep c now) k s) :
    Punctual (.sweep c now) (escalateEachIncident c now k rows) s := by
  induction rows generalizing s with
  | nil => exact hk s
  | cons i rows ih =>
    have hrest : CasesReadFrom s rows := fun j hj => hrows j (List.mem_cons_of_mem i hj)
    rw [escalateEachIncident]
    split
    · rename_i hdue
      intro s₁ hon e _
      refine ⟨fun subject hsubject => ?_, ih ((hrest.goesOn hon).goesOn (goesOn_exec _ e s₁))⟩
      cases hsubject
      obtain ⟨row, hrow, hgoes⟩ := hrows.goesOn hon i List.mem_cons_self
      exact ⟨c, now, rfl, row, i, hrow, rfl, hgoes, hdue⟩
    · exact ih hrest

lemma punctual_escalateEachSos {rows : List SosEvent} (hrows : ReadFrom s rows)
    (hk : ∀ s, Punctual (.sweep c now) k s) :
    Punctual (.sweep c now) (escalateEachSos c now k rows) s := by
  induction rows generalizing s with
  | nil => exact hk s
  | cons e rows ih =>
    have hrest : ReadFrom s rows := fun j hj => hrows j (List.mem_cons_of_mem e hj)
    rw [escalateEachSos]
    split
    · rename_i hdue
      intro s₁ hon choice _
      refine ⟨fun subject hsubject => ?_,
        ih ((hrest.goesOn hon).goesOn (goesOn_exec _ choice s₁))⟩
      cases hsubject
      obtain ⟨row, hrow, hgoes⟩ := hrows.goesOn hon e List.mem_cons_self
      exact ⟨c, now, rfl, row, e, hrow, rfl, hgoes, hdue⟩
    · exact ih hrest

lemma mem_rows_of_mem_overdueSos {minutes : ℕ} {e : SosEvent}
    (h : e ∈ s.overdueSos minutes now) : e ∈ s.sos.rows :=
  List.mem_of_mem_filter ((List.mem_insertionSort _).mp (List.mem_of_mem_take h))

lemma mem_rows_of_mem_overdueIncidents {minutes : ℕ} {i : Incident}
    (h : i ∈ s.overdueIncidents minutes now) : i ∈ s.incidents.rows :=
  List.mem_of_mem_filter ((List.mem_insertionSort _).mp (List.mem_of_mem_take h))

lemma punctual_sweepIncidents : Punctual (.sweep c now) (sweepIncidents c now) s := by
  rw [sweepIncidents]
  split
  · exact fun _ _ => trivial
  · rename_i minutes hminutes
    intro s₁ hon e _
    refine ⟨fun subject hsubject => (by cases hsubject), ?_⟩
    refine punctual_escalateEachIncident (fun i hi => ?_) fun s _ _ => trivial
    exact ⟨i, Serial.get?_of_mem (mem_rows_of_mem_overdueIncidents hi), .refl i⟩

lemma punctual_attachEach {rows : List SosEvent} (hk : ∀ s, Punctual (.sweep c now) k s) :
    Punctual (.sweep c now) (attachEach k rows) s := by
  induction rows generalizing s with
  | nil => exact hk s
  | cons e rows ih =>
    intro s₁ _ choice _
    refine ⟨fun subject hsubject => (by cases hsubject), fun s₂ _ choice' _ => ?_⟩
    exact ⟨fun subject hsubject => (by cases hsubject), ih⟩

lemma punctual_sweep : Punctual (.sweep c now) (sweep c now) s := by
  intro s₁ _ e _
  refine ⟨fun subject hsubject => (by cases hsubject), punctual_attachEach fun s₂ => ?_⟩
  split
  · exact punctual_sweepIncidents
  · rename_i minutes hminutes
    intro s₃ _ e' _
    refine ⟨fun subject hsubject => (by cases hsubject), ?_⟩
    refine punctual_escalateEachSos (fun e he => ?_) fun s => punctual_sweepIncidents
    exact ⟨e, Serial.get?_of_mem (mem_rows_of_mem_overdueSos he), .refl e⟩

lemma punctual_program : Punctual call (program call) s := by
  by_cases h : ∃ c now, call = .sweep c now
  · obtain ⟨c, now, rfl⟩ := h
    exact punctual_sweep
  · exact punctual_of_harmless (harmless_program fun c now heq => h ⟨c, now, heq⟩)

variable {τ : Type} [DecidableEq τ] {p : Responders τ} {m : ResponderMove τ}

def AllPunctual (p : Responders τ) : Prop :=
  ∀ t call q, p.threads t = some (call, q) → Punctual call q p.store

lemma allPunctual_step (h : AllPunctual p) : AllPunctual (responderStep p m) := by
  have hvalid : Pool.Valid exec (fun _ _ _ _ => True) (fun _ _ s s' => s.GoesOn s')
      (fun call o s _ => ∀ subject ∈ subjectOf o, DueFor call s subject) (fun _ _ _ => True) p :=
    fun t call q hrun => h t call q hrun.1
  have hstep : Pool.Valid exec (fun _ _ _ _ => True) (fun _ _ s s' => s.GoesOn s')
      (fun call o s _ => ∀ subject ∈ subjectOf o, DueFor call s subject) (fun _ _ _ => True)
      (responderStep p m) := by
    refine Pool.valid_step (fun _ _ s => .refl s) (fun _ _ _ _ _ h h' => h.trans h') hvalid
      (fun t e _ a o k _ => trivial) (fun t call q _ _ => goesOn_step p m) ?_
    intro t call _
    exact punctual_program
  intro t call q ht
  cases q with
  | ret r => exact fun _ _ => trivial
  | op o k => exact hstep t call _ ⟨ht, by simp⟩

omit [DecidableEq τ] in
lemma due_of_escalationOf {x : Escalation} (h : AllPunctual p) (hx : escalationOf p m = some x) :
    DueFor x.call x.desk x.subject := by
  obtain ⟨t, e, o, k, -, ht, hesc, hdesk⟩ := escalationOf_eq_some hx
  have hsubject : subjectOf o = some x.subject := by
    cases o with
    | escalateSos id linked now =>
      cases hans : (exec (.escalateSos id linked now) e p.store).1 with
      | false =>
        rw [hans] at hesc
        cases hesc
      | true =>
        rw [hans] at hesc
        exact hesc
    | escalateIncident id now =>
      cases hans : (exec (.escalateIncident id now) e p.store).1 with
      | false =>
        rw [hans] at hesc
        cases hesc
      | true =>
        rw [hans] at hesc
        exact hesc
    | _ => cases hesc
  rw [hdesk]
  exact ((h t x.call _ ht) p.store (.refl _) e trivial).1 x.subject hsubject

/-- Every escalation of a run is due. -/
theorem due_of_mem_escalations {moves : List (ResponderMove τ)} (h : AllPunctual p) :
    ∀ x ∈ escalations p moves, DueFor x.call x.desk x.subject := by
  induction moves generalizing p with
  | nil => exact fun x hx => by cases hx
  | cons m moves ih =>
    intro x hx
    rcases List.mem_append.mp hx with hx | hx
    · exact due_of_escalationOf h (Option.mem_toList.mp hx)
    · exact ih (allPunctual_step h) x hx

end Due

/-! ## A sweep alone -/

def SosEvent.detach (e : SosEvent) : SosEvent := { e with incident := none }

/-- An incident that a sweep may escalate. -/
structure Incident.Waiting (i : Incident) : Prop where
  unassigned : i.assignedTo = none
  unescalated : i.assignEscalatedAt = none
  critical : i.severity = .critical
  live : i.status ≠ .closed

section Alone

variable {s s' : Desk} {c : Configs} {now : ℕ} {k : Program} {es : List Choice}

/-- What is told of an event without its incident. -/
lemma fields_of_detach {e e' : SosEvent} (h : e'.detach = e.detach) :
    e'.id = e.id ∧ e'.user = e.user ∧ e'.trip = e.trip ∧ e'.status = e.status ∧
      e'.escalatedAt = e.escalatedAt ∧ e'.createdAt = e.createdAt := by
  simp only [SosEvent.detach, SosEvent.mk.injEq] at h
  obtain ⟨hid, huser, htrip, -, hstatus, -, hescalated, -, hcreated⟩ := h
  exact ⟨hid, huser, htrip, hstatus, hescalated, hcreated⟩

lemma map_detach_setIncident {id incident : ℕ} :
    (s.setIncident id incident).sos.rows.map SosEvent.detach = s.sos.rows.map SosEvent.detach := by
  show (s.sos.rows.map fun e => if e.id = id then { e with incident := some incident } else e).map
    SosEvent.detach = _
  rw [List.map_map]
  refine List.map_congr_left fun e _ => ?_
  rw [Function.comp_apply]
  split
  · rfl
  · rfl

/-- An incident that waits is left as it is when an event joins the incident its trip has open. -/
lemma incidents_openIncident {trip : Option ℕ} {severity : Severity} {i : ℕ} {row : Incident}
    (hrow : s.incidents.get? i = some row) (hwaiting : row.Waiting) :
    (s.openIncident (s.openIncidentForTrip trip) trip severity now).2.incidents.get? i =
      some row := by
  have hraise : ∀ existing, s.openIncidentForTrip trip = some existing →
      (s.raiseSeverity existing severity).incidents.get? i = some row := by
    intro existing hfound
    rw [Desk.raiseSeverity]
    split
    · rename_i hworse
      show (s.incidents.updateWhere (fun c => c.id = existing.id)
        (fun c => { c with severity }) fun _ => rfl).get? i = some row
      rw [Serial.get?_updateWhere, hrow, Option.map_some, if_neg]
      intro hid
      -- the incident that was found is not critical
      have hmem : existing ∈ s.incidents.rows := by
        cases trip with
        | none => cases hfound
        | some t => exact List.mem_of_find?_eq_some hfound
      have hsame : row = existing :=
        Table.eq_of_mem (Serial.mem_of_get? hrow) hmem hid
      rw [← hsame, hwaiting.critical] at hworse
      exact absurd hworse (Nat.not_lt_zero _)
    · exact hrow
  rw [Desk.openIncident.eq_def]
  cases hfound : s.openIncidentForTrip trip with
  | some existing => exact hraise existing hfound
  | none =>
    dsimp only
    exact Serial.get?_insert_of_some _ hrow

/-- The first part of a sweep gives events an incident, and changes nothing else of them. -/
lemma run_attachEach (rows : List SosEvent)
    (h : (Prog.runAlone exec (attachEach k rows) es s).1.Returned) :
    ∃ es' s', Prog.runAlone exec (attachEach k rows) es s = Prog.runAlone exec k es' s' ∧
      s'.sos.rows.map SosEvent.detach = s.sos.rows.map SosEvent.detach ∧
      ∀ i row, s.incidents.get? i = some row → row.Waiting →
        s'.incidents.get? i = some row := by
  induction rows generalizing es s with
  | nil => exact ⟨es, s, rfl, rfl, fun i row hrow _ => hrow⟩
  | cons e rows ih =>
    cases es with
    | nil => exact h.elim
    | cons choice es =>
      cases es with
      | nil => exact h.elim
      | cons choice' es =>
        set attached := (exec (.attachSos e.id e.trip e.eventType (s.openIncidentForTrip e.trip))
          choice' s).2 with hattached
        have hrun : Prog.runAlone exec (attachEach k (e :: rows)) (choice :: choice' :: es) s =
            Prog.runAlone exec (attachEach k rows) es attached := rfl
        rw [hrun] at h ⊢
        obtain ⟨es', s', heq, hsos, hwaiting⟩ := ih h
        have hattach : attached.sos.rows.map SosEvent.detach =
              s.sos.rows.map SosEvent.detach ∧
            ∀ i row, s.incidents.get? i = some row → row.Waiting →
              attached.incidents.get? i = some row := by
          have hdef : attached = if choice'.attaches then
              s.attachSos e.id e.trip e.eventType (s.openIncidentForTrip e.trip) choice'.now
            else s := rfl
          rw [hdef]
          split
          · rw [Desk.attachSos]
            constructor
            · rw [map_detach_setIncident, sos_openIncident]
            · exact fun i row hrow hwaits => incidents_openIncident hrow hwaits
          · exact ⟨rfl, fun i row hrow _ => hrow⟩
        exact ⟨es', s', heq, hsos.trans hattach.1,
          fun i row hrow hwaits => hwaiting i row (hattach.2 i row hrow hwaits) hwaits⟩

lemma map_detach_overdueSos {minutes : ℕ} :
    (s.overdueSos minutes now).map SosEvent.detach =
      (((s.sos.rows.map SosEvent.detach).filter fun e => e.status = .opened ∧
        e.escalatedAt = none ∧ e.createdAt + 60 * minutes ≤ now).insertionSort
          fun a b => a.createdAt ≤ b.createdAt).take Desk.batch := by
  rw [Desk.overdueSos, List.map_take, List.filter_map]
  congr 1
  exact List.map_insertionSort _ _ _ _ fun a _ b _ => Iff.rfl

lemma escalateEachSos_of_due {r : SosEvent} {rows : List SosEvent} (h : dueSos c now r = true) :
    escalateEachSos c now k (r :: rows) =
      .op (.escalateSos r.id r.incident now) fun _ => escalateEachSos c now k rows := if_pos h

lemma escalateEachSos_of_not_due {r : SosEvent} {rows : List SosEvent}
    (h : ¬ dueSos c now r = true) :
    escalateEachSos c now k (r :: rows) = escalateEachSos c now k rows := if_neg h

lemma escalateEachIncident_of_due {r : Incident} {rows : List Incident}
    (h : dueIncident c now r = true) :
    escalateEachIncident c now k (r :: rows) =
      .op (.escalateIncident r.id now) fun _ => escalateEachIncident c now k rows := if_pos h

lemma escalateEachIncident_of_not_due {r : Incident} {rows : List Incident}
    (h : ¬ dueIncident c now r = true) :
    escalateEachIncident c now k (r :: rows) = escalateEachIncident c now k rows := if_neg h

lemma run_escalateEachSos (rows : List SosEvent)
    (h : (Prog.runAlone exec (escalateEachSos c now k rows) es s).1.Returned) :
    ∃ es' s', Prog.runAlone exec (escalateEachSos c now k rows) es s =
        Prog.runAlone exec k es' s' ∧
      s'.incidents = s.incidents ∧
      ∀ i e, s.sos.get? i = some e → e.status = .opened →
        (s'.Escalated (.event i) ↔ e.escalatedAt ≠ none ∨
          ∃ r ∈ rows, r.id = i ∧ dueSos c now r = true) := by
  induction rows generalizing es s with
  | nil =>
    refine ⟨es, s, rfl, rfl, fun i e he _ => ?_⟩
    simp [Desk.Escalated, he]
  | cons r rows ih =>
    by_cases hdue : dueSos c now r = true
    · rw [escalateEachSos_of_due hdue] at h ⊢
      cases es with
      | nil => exact h.elim
      | cons choice es =>
        obtain ⟨es', s', heq, hincidents, hsos⟩ := ih h
        -- the guarded update finds nothing to stamp, or stamps this one row
        rcases escalateSos_cases s r.id r.incident now with ⟨-, hsame, hnot⟩ |
          ⟨-, -, hinc, hupdate⟩
        · have hsame' : (exec (.escalateSos r.id r.incident now) choice s).2 = s := hsame
          rw [hsame'] at hincidents hsos
          refine ⟨es', s', heq, hincidents, fun i e he hopen => ?_⟩
          rw [hsos i e he hopen, List.exists_mem_cons_iff]
          constructor
          · rintro (hesc | hlater)
            · exact .inl hesc
            · exact .inr (.inr hlater)
          · rintro (hesc | ⟨hid, -⟩ | hlater)
            · exact .inl hesc
            · exact .inl fun hnone => hnot e (hid ▸ he) ⟨hopen, hnone⟩
            · exact .inr hlater
        · have hupdate' : (exec (.escalateSos r.id r.incident now) choice s).2.sos = _ := hupdate
          have hinc' : (exec (.escalateSos r.id r.incident now) choice s).2.incidents = _ := hinc
          refine ⟨es', s', heq, hincidents.trans hinc', fun i e he hopen => ?_⟩
          have hrow : (exec (.escalateSos r.id r.incident now) choice s).2.sos.get? i =
              some (if e.id = r.id then { e with escalatedAt := some now } else e) := by
            rw [hupdate', Serial.get?_updateWhere, he, Option.map_some]
          have hid : e.id = i := Serial.pk_of_get? he
          rw [List.exists_mem_cons_iff]
          by_cases hr : e.id = r.id
          · rw [if_pos hr] at hrow
            -- stamped now, and no later update takes a stamp away
            have hfinal := hsos i _ hrow hopen
            simp only [hfinal, ne_eq, reduceCtorEq, not_false_eq_true, true_or, true_iff]
            exact .inr (.inl ⟨hr.symm.trans hid, hdue⟩)
          · rw [if_neg hr] at hrow
            rw [hsos i e hrow hopen]
            have hne : r.id ≠ i := fun heq => hr (hid.trans heq.symm)
            simp only [hne, false_and, false_or]
    · rw [escalateEachSos_of_not_due hdue] at h ⊢
      obtain ⟨es', s', heq, hincidents, hsos⟩ := ih h
      refine ⟨es', s', heq, hincidents, fun i e he hopen => ?_⟩
      rw [hsos i e he hopen, List.exists_mem_cons_iff]
      simp only [hdue, Bool.false_eq_true, and_false, false_or]

lemma run_escalateEachIncident (rows : List Incident)
    (h : (Prog.runAlone exec (escalateEachIncident c now k rows) es s).1.Returned) :
    ∃ es' s', Prog.runAlone exec (escalateEachIncident c now k rows) es s =
        Prog.runAlone exec k es' s' ∧
      s'.sos = s.sos ∧
      ∀ i row, s.incidents.get? i = some row → row.assignedTo = none →
        row.severity = .critical → row.status ≠ .closed →
        (s'.Escalated (.incident i) ↔ row.assignEscalatedAt ≠ none ∨
          ∃ r ∈ rows, r.id = i ∧ dueIncident c now r = true) := by
  induction rows generalizing es s with
  | nil =>
    refine ⟨es, s, rfl, rfl, fun i row hrow _ _ _ => ?_⟩
    simp [Desk.Escalated, hrow]
  | cons r rows ih =>
    by_cases hdue : dueIncident c now r = true
    · rw [escalateEachIncident_of_due hdue] at h ⊢
      cases es with
      | nil => exact h.elim
      | cons choice es =>
        obtain ⟨es', s', heq, hsos, hincidents⟩ := ih h
        -- the guarded update finds nothing to stamp, or stamps this one row
        rcases escalateIncident_cases s r.id now with ⟨-, hsame, hnot⟩ | ⟨-, -, hkept, hupdate⟩
        · have hsame' : (exec (.escalateIncident r.id now) choice s).2 = s := hsame
          rw [hsame'] at hsos hincidents
          refine ⟨es', s', heq, hsos, fun i row hrow hfree hcritical hlive => ?_⟩
          rw [hincidents i row hrow hfree hcritical hlive, List.exists_mem_cons_iff]
          constructor
          · rintro (hesc | hlater)
            · exact .inl hesc
            · exact .inr (.inr hlater)
          · rintro (hesc | ⟨hid, -⟩ | hlater)
            · exact .inl hesc
            · exact .inl fun hnone => hnot row (hid ▸ hrow) ⟨hnone, hfree, hcritical, hlive⟩
            · exact .inr hlater
        · have hupdate' : (exec (.escalateIncident r.id now) choice s).2.incidents = _ := hupdate
          have hkept' : (exec (.escalateIncident r.id now) choice s).2.sos = _ := hkept
          refine ⟨es', s', heq, hsos.trans hkept', fun i row hrow hfree hcritical hlive => ?_⟩
          have hafter : (exec (.escalateIncident r.id now) choice s).2.incidents.get? i =
              some (if row.id = r.id then { row with assignEscalatedAt := some now } else row) := by
            rw [hupdate', Serial.get?_updateWhere, hrow, Option.map_some]
          have hid : row.id = i := Serial.pk_of_get? hrow
          rw [List.exists_mem_cons_iff]
          by_cases hr : row.id = r.id
          · rw [if_pos hr] at hafter
            have hfinal := hincidents i _ hafter hfree hcritical hlive
            simp only [hfinal, ne_eq, reduceCtorEq, not_false_eq_true, true_or, true_iff]
            exact .inr (.inl ⟨hr.symm.trans hid, hdue⟩)
          · rw [if_neg hr] at hafter
            rw [hincidents i row hafter hfree hcritical hlive]
            have hne : r.id ≠ i := fun heq => hr (hid.trans heq.symm)
            simp only [hne, false_and, false_or]
    · rw [escalateEachIncident_of_not_due hdue] at h ⊢
      obtain ⟨es', s', heq, hsos, hincidents⟩ := ih h
      refine ⟨es', s', heq, hsos, fun i row hrow hfree hcritical hlive => ?_⟩
      rw [hincidents i row hrow hfree hcritical hlive, List.exists_mem_cons_iff]
      simp only [hdue, Bool.false_eq_true, and_false, false_or]

lemma sos_run_sweepIncidents
    (h : (Prog.runAlone exec (sweepIncidents c now) es s).1.Returned) :
    (Prog.runAlone exec (sweepIncidents c now) es s).2.sos = s.sos := by
  rw [sweepIncidents] at h ⊢
  cases hshortest : shortest (c.active.map SafetyConfig.incidentAssignMinutes) with
  | none => rfl
  | some minutes =>
    rw [hshortest] at h
    cases es with
    | nil => exact h.elim
    | cons choice es =>
      obtain ⟨es', s', heq, hsos, -⟩ := run_escalateEachIncident
        (k := .ret .swept) (s.overdueIncidents minutes now) h
      exact (congrArg (fun x => Desk.sos x.2) heq).trans hsos

lemma shortest_of_runOut {timers : List (Option ℕ)} {timer : Option ℕ} {since : ℕ}
    (hmem : timer ∈ timers) (h : runOut timer since now = true) :
    ∃ minutes, shortest timers = some minutes := by
  cases timer with
  | none => cases h
  | some n =>
    rw [runOut, Option.any_some, Bool.and_eq_true, decide_eq_true_eq] at h
    have hn : n ∈ timers.reduceOption.filter fun n => n ≠ 0 := by
      rw [List.mem_filter, List.reduceOption_mem_iff]
      exact ⟨hmem, decide_eq_true h.1⟩
    cases hshortest : shortest timers with
    | some minutes => exact ⟨minutes, rfl⟩
    | none =>
      rw [shortest, List.min?_eq_none_iff] at hshortest
      rw [hshortest] at hn
      cases hn

/-- The configs of a sweep: those of the countries things happen in are among the active ones, and
the country of an event is that of its place, its trip and its raiser. -/
structure Configs.Placed (c : Configs) : Prop where
  sosActive : ∀ e, ∀ cfg ∈ c.ofSos e, cfg ∈ c.active
  incidentActive : ∀ i, ∀ cfg ∈ c.ofIncident i, cfg ∈ c.active
  sosPlace : ∀ e e' : SosEvent, e'.id = e.id → e'.user = e.user → e'.trip = e.trip →
    c.ofSos e' = c.ofSos e

lemma shortest_of_dueSos (hc : c.Placed) {e : SosEvent} (h : dueSos c now e = true) :
    ∃ minutes, shortest (c.active.map SafetyConfig.sosAckMinutes) = some minutes := by
  obtain ⟨cfg, hcfg, hrun⟩ := (Option.any_eq_true _ _).mp h
  exact shortest_of_runOut (List.mem_map_of_mem (hc.sosActive e cfg hcfg)) hrun

lemma shortest_of_dueIncident (hc : c.Placed) {i : Incident} (h : dueIncident c now i = true) :
    ∃ minutes, shortest (c.active.map SafetyConfig.incidentAssignMinutes) = some minutes := by
  obtain ⟨cfg, hcfg, hrun⟩ := (Option.any_eq_true _ _).mp h
  exact shortest_of_runOut (List.mem_map_of_mem (hc.incidentActive i cfg hcfg)) hrun

/-- Whether an event is due does not depend on the incident it is in. -/
lemma dueSos_congr (hc : c.Placed) {e e' : SosEvent} (h : e'.detach = e.detach) :
    dueSos c now e' = dueSos c now e := by
  obtain ⟨hid, huser, htrip, -, -, hcreated⟩ := fields_of_detach h
  rw [dueSos, dueSos, hc.sosPlace e e' hid huser htrip, hcreated]

lemma run_sweep (h : (Prog.runAlone exec (sweep c now) es s).1.Returned) :
    ∃ es' s', Prog.runAlone exec (sweep c now) es s =
        Prog.runAlone exec (sweepIncidents c now) es' s' ∧
      (∀ i row, s.incidents.get? i = some row → row.Waiting →
        s'.incidents.get? i = some row) ∧
      ∀ minutes, shortest (c.active.map SafetyConfig.sosAckMinutes) = some minutes →
        ∀ i e, s.sos.get? i = some e → e.status = .opened →
          ∃ mid : Desk, mid.sos.rows.map SosEvent.detach = s.sos.rows.map SosEvent.detach ∧
            (s'.Escalated (.event i) ↔ e.escalatedAt ≠ none ∨
              ∃ r ∈ mid.overdueSos minutes now, r.id = i ∧ dueSos c now r = true) := by
  cases es with
  | nil => exact h.elim
  | cons choice es =>
    obtain ⟨es₁, mid, heq, hsos, hwaiting⟩ := run_attachEach s.unattached h
    have hrun : Prog.runAlone exec (sweep c now) (choice :: es) s = _ := heq
    rw [hrun] at h ⊢
    cases hshortest : shortest (c.active.map SafetyConfig.sosAckMinutes) with
    | none =>
      rw [hshortest] at h
      exact ⟨es₁, mid, rfl, hwaiting, fun minutes hminutes => by cases hminutes⟩
    | some minutes =>
      rw [hshortest] at h
      cases es₁ with
      | nil => exact h.elim
      | cons choice' es₁ =>
        obtain ⟨es₂, s₂, heq₂, hincidents, hescalated⟩ := run_escalateEachSos
          (k := sweepIncidents c now) (mid.overdueSos minutes now) h
        refine ⟨es₂, s₂, heq₂, fun i row hrow hwaits => ?_,
          fun minutes' hminutes i e he hopen => ?_⟩
        · rw [hincidents]
          exact hwaiting i row hrow hwaits
        · cases hminutes
          refine ⟨mid, hsos, ?_⟩
          have hmem : e.detach ∈ mid.sos.rows.map SosEvent.detach := by
            rw [hsos]
            exact List.mem_map_of_mem (Serial.mem_of_get? he)
          obtain ⟨e', he', hsame⟩ := List.mem_map.mp hmem
          obtain ⟨hid, -, -, hstatus, hesc, -⟩ := fields_of_detach hsame
          have hget : mid.sos.get? i = some e' := by
            rw [← Serial.pk_of_get? he, ← hid]
            exact Serial.get?_of_mem he'
          rw [hescalated i e' hget (hstatus.trans hopen), hesc]

lemma escalated_sweep_iff (hc : c.Placed) {e : SosEvent}
    (h : (Prog.runAlone exec (sweep c now) es s).1.Returned)
    (he : s.sos.get? e.id = some e) (hopen : e.status = .opened) (hnone : e.escalatedAt = none)
    (hdue : dueSos c now e = true) :
    (Prog.runAlone exec (sweep c now) es s).2.Escalated (.event e.id) ↔
      ∃ minutes ∈ shortest (c.active.map SafetyConfig.sosAckMinutes),
        e.id ∈ (s.overdueSos minutes now).map SosEvent.id := by
  obtain ⟨minutes, hminutes⟩ := shortest_of_dueSos hc hdue
  obtain ⟨es', s', heq, -, hevents⟩ := run_sweep h
  obtain ⟨mid, hrows, hescalated⟩ := hevents minutes hminutes e.id e he hopen
  rw [heq] at h ⊢
  have hlist : (mid.overdueSos minutes now).map SosEvent.detach =
      (s.overdueSos minutes now).map SosEvent.detach := by
    rw [map_detach_overdueSos, map_detach_overdueSos, hrows]
  have hafter : (Prog.runAlone exec (sweepIncidents c now) es' s').2.Escalated (.event e.id) ↔
      s'.Escalated (.event e.id) := by
    rw [Desk.Escalated, Desk.Escalated, sos_run_sweepIncidents h]
  rw [hafter, hescalated, hminutes]
  simp only [hnone, ne_eq, not_true_eq_false, false_or, Option.mem_def, Option.some.injEq,
    exists_eq_left']
  constructor
  · rintro ⟨r, hr, hid, -⟩
    have hmem : r.detach ∈ (s.overdueSos minutes now).map SosEvent.detach := by
      rw [← hlist]
      exact List.mem_map_of_mem hr
    obtain ⟨r', hr', hsame⟩ := List.mem_map.mp hmem
    exact List.mem_map.mpr ⟨r', hr', (fields_of_detach hsame).1.trans hid⟩
  · intro hmem
    obtain ⟨r', hr', hid'⟩ := List.mem_map.mp hmem
    have hmem' : r'.detach ∈ (mid.overdueSos minutes now).map SosEvent.detach := by
      rw [hlist]
      exact List.mem_map_of_mem hr'
    obtain ⟨r, hr, hsame⟩ := List.mem_map.mp hmem'
    refine ⟨r, hr, (fields_of_detach hsame).1.trans hid', ?_⟩
    have hrow : r' = e :=
      Table.eq_of_mem (mem_rows_of_mem_overdueSos hr') (Serial.mem_of_get? he) hid'
    rw [dueSos_congr hc hsame, hrow]
    exact hdue

/-- An incident that is due is escalated by the second part of a sweep alone when it is listed. -/
lemma escalated_sweepIncidents_iff (hc : c.Placed) {i : Incident}
    (h : (Prog.runAlone exec (sweepIncidents c now) es s).1.Returned)
    (hi : s.incidents.get? i.id = some i) (hwaiting : i.Waiting)
    (hdue : dueIncident c now i = true) :
    (Prog.runAlone exec (sweepIncidents c now) es s).2.Escalated (.incident i.id) ↔
      ∃ minutes ∈ shortest (c.active.map SafetyConfig.incidentAssignMinutes),
        i.id ∈ (s.overdueIncidents minutes now).map Incident.id := by
  obtain ⟨minutes, hminutes⟩ := shortest_of_dueIncident hc hdue
  rw [sweepIncidents, hminutes] at h ⊢
  cases es with
  | nil => exact h.elim
  | cons choice es =>
    obtain ⟨es', s', heq, -, hescalated⟩ := run_escalateEachIncident
      (k := .ret .swept) (s.overdueIncidents minutes now) h
    have hrun : (Prog.runAlone exec (.op (.overdueIncidents minutes now)
        (escalateEachIncident c now (.ret .swept))) (choice :: es) s).2 = s' :=
      congrArg Prod.snd heq
    dsimp only
    rw [hrun, hescalated i.id i hi hwaiting.unassigned hwaiting.critical hwaiting.live]
    simp only [hwaiting.unescalated, ne_eq, not_true_eq_false, false_or, Option.mem_def,
      Option.some.injEq, exists_eq_left', List.mem_map]
    constructor
    · rintro ⟨r, hr, hid, -⟩
      exact ⟨r, hr, hid⟩
    · rintro ⟨r, hr, hid⟩
      refine ⟨r, hr, hid, ?_⟩
      have hrow : r = i :=
        Table.eq_of_mem (mem_rows_of_mem_overdueIncidents hr) (Serial.mem_of_get? hi) hid
      rw [hrow]
      exact hdue

end Alone

/-! ## Listed and due -/

/-- An event or an incident that is overdue by the timer of its country is escalated by a sweep
that runs alone just when it is among the first two hundred that are overdue by the shortest timer
of any country.  Of all calls, in any order, what is escalated is due by its own country's timer,
and once. -/
theorem escalated_when_listed {τ : Type} [DecidableEq τ] {c : Configs} (hc : c.Placed)
    (now : ℕ) :
    (∀ s es e, (Prog.runAlone exec (sweep c now) es s).1.Returned →
        s.sos.get? e.id = some e → e.status = .opened → e.escalatedAt = none →
        dueSos c now e = true →
          ((Prog.runAlone exec (sweep c now) es s).2.Escalated (.event e.id) ↔
            ∃ minutes ∈ shortest (c.active.map SafetyConfig.sosAckMinutes),
              e.id ∈ (s.overdueSos minutes now).map SosEvent.id)) ∧
      (∀ s es i, (Prog.runAlone exec (sweepIncidents c now) es s).1.Returned →
        s.incidents.get? i.id = some i → i.Waiting → dueIncident c now i = true →
          ((Prog.runAlone exec (sweepIncidents c now) es s).2.Escalated (.incident i.id) ↔
            ∃ minutes ∈ shortest (c.active.map SafetyConfig.incidentAssignMinutes),
              i.id ∈ (s.overdueIncidents minutes now).map Incident.id)) ∧
      (∀ s es, (Prog.runAlone exec (sweep c now) es s).1.Returned →
        ∃ es' s', Prog.runAlone exec (sweep c now) es s =
            Prog.runAlone exec (sweepIncidents c now) es' s' ∧
          ∀ i row, s.incidents.get? i = some row → row.Waiting →
            s'.incidents.get? i = some row) ∧
      ∀ (desk : Desk) (moves : List (ResponderMove τ)),
        ((escalations ⟨fun _ => none, desk⟩ moves).map Escalation.subject).Nodup ∧
          ∀ x ∈ escalations ⟨fun _ => none, desk⟩ moves, DueFor x.call x.desk x.subject := by
  refine ⟨?_, ?_, ?_, ?_⟩
  · intro s es e hreturned he hopen hnone hdue
    exact escalated_sweep_iff hc hreturned he hopen hnone hdue
  · intro s es i hreturned hi hwaiting hdue
    exact escalated_sweepIncidents_iff hc hreturned hi hwaiting hdue
  · intro s es hreturned
    obtain ⟨es', s', heq, hwaiting, -⟩ := run_sweep hreturned
    exact ⟨es', s', heq, hwaiting⟩
  · intro desk moves
    refine ⟨nodup_escalations _ moves, due_of_mem_escalations fun t call q ht => ?_⟩
    cases ht

/-- An alarm nobody has taken. -/
def openAlarm (id user createdAt : ℕ) : SosEvent where
  id := id
  user := user
  trip := none
  eventType := .panic
  status := .opened
  incident := some 0
  escalatedAt := none
  raiserReportedMistakeAt := none
  createdAt := createdAt

/-- A desk with so many alarms, the last of them raised by user 0. -/
def alarms (n : ℕ) : Desk where
  sos :=
    { table := ⟨(List.range n).map fun i => openAlarm i (n - 1 - i) i, by
        rw [List.map_map]
        exact List.nodup_range.map fun i j h => h⟩
      next := n
      fresh := by
        intro r hr
        obtain ⟨i, hi, rfl⟩ := List.mem_map.mp hr
        exact List.mem_range.mp hi }
  incidents := .empty
  alerts := .empty
  revealed := []

/-- A timer of five minutes in the country of user 0, and none in that of the others. -/
def oneTimer : Configs where
  active := [⟨some 5, none⟩]
  ofSos := fun e => if e.user = 0 then some ⟨some 5, none⟩ else none
  ofIncident := fun _ => none

lemma placed_oneTimer : oneTimer.Placed where
  sosActive := by
    intro e cfg hcfg
    rw [oneTimer] at hcfg
    dsimp only at hcfg
    split at hcfg
    · cases hcfg
      exact List.mem_singleton.mpr rfl
    · cases hcfg
  incidentActive := by
    intro i cfg hcfg
    cases hcfg
  sosPlace := by
    intro e e' _ huser _
    show (if e'.user = 0 then _ else _) = if e.user = 0 then _ else _
    rw [huser]

/-- With two hundred alarms the one that is due is on the list, and a sweep escalates it. -/
theorem listed_alarm_is_escalated :
    (Prog.runAlone exec (sweep oneTimer 1000)
      [⟨1000, true⟩, ⟨1000, true⟩, ⟨1000, true⟩] (alarms 200)).2.Escalated (.event 199) := by
  have hrun := (escalated_when_listed (τ := Bool) placed_oneTimer 1000).1 (alarms 200)
    [⟨1000, true⟩, ⟨1000, true⟩, ⟨1000, true⟩] (openAlarm 199 0 199) (by decide +kernel)
    (by decide +kernel) rfl rfl (by decide)
  refine hrun.mpr ⟨5, by decide, ?_⟩
  decide +kernel

/-- With two hundred alarms before it in a country without a timer, the one that is due is not on
the list, and a sweep that runs alone to its end leaves it. -/
theorem crowded_alarm_is_not_escalated :
    (Prog.runAlone exec (sweep oneTimer 1000) [⟨1000, true⟩, ⟨1000, true⟩]
      (alarms 201)).1.Returned ∧
      (alarms 201).sos.get? 200 = some (openAlarm 200 0 200) ∧
      dueSos oneTimer 1000 (openAlarm 200 0 200) = true ∧
      ¬ (Prog.runAlone exec (sweep oneTimer 1000) [⟨1000, true⟩, ⟨1000, true⟩]
        (alarms 201)).2.Escalated (.event 200) := by
  refine ⟨by decide +kernel, by decide +kernel, by decide, ?_⟩
  have hafter : (Prog.runAlone exec (sweep oneTimer 1000) [⟨1000, true⟩, ⟨1000, true⟩]
      (alarms 201)).2.sos.get? 200 = some (openAlarm 200 0 200) := by
    decide +kernel
  rintro ⟨e, he, hescalated⟩
  rw [hafter] at he
  cases he
  exact hescalated rfl

end SaaradhiGo.Safety
