/-
What ends on the safety desk stays ended.

The write path of an SOS tests no source status, so an operator who acknowledges an event that
was resolved makes it active again, on a closed incident, with its contact to be revealed
(`acknowledgedAfterEnd`); and an event joins the incident its trip had open a moment earlier,
which may be closed by then.  In the runs in which no ended event is acknowledged and no active
event joins a closed incident, an ended event stays ended and its contact is not revealed again,
a closed incident has no active event, and a trip has at most one incident that is not closed
(`ended_for_good`).
-/
import SaaradhiGo.Safety.Responders

namespace SaaradhiGo.Safety

open CommandCentre Interleave

/-- The desk at any time. -/
structure CasesKept (s : Desk) : Prop where
  /-- a closed incident has no active event -/
  quiet : ∀ j e i c, s.sos.get? j = some e → e.incident = some i → s.incidents.get? i = some c →
    c.status = .closed → e.status ∉ activeStatuses
  /-- a trip has at most one incident that is not closed -/
  single : ∀ i c i' c', s.incidents.get? i = some c → s.incidents.get? i' = some c' →
    c.status ≠ .closed → c'.status ≠ .closed → c.trip ≠ none → c.trip = c'.trip → i = i'

def EndsForGood (s s' : Desk) : Prop := ∀ j e, s.sos.get? j = some e →
  e.status ∉ activeStatuses → ∃ e', s'.sos.get? j = some e' ∧ e'.status ∉ activeStatuses

/-- What a transaction keeps. -/
structure Keeps (s s' : Desk) : Prop where
  kept : CasesKept s → CasesKept s'
  ended : EndsForGood s s'
  revealed : s'.revealed = s.revealed

variable {s s' s'' : Desk} {id incident now : ℕ} {target : Target} {found : Option Incident}

lemma Keeps.refl (s : Desk) : Keeps s s := ⟨fun h => h, fun _ e h he => ⟨e, h, he⟩, rfl⟩

lemma Keeps.trans (h : Keeps s s') (h' : Keeps s' s'') : Keeps s s'' := by
  refine ⟨fun hs => h'.kept (h.kept hs), fun j e hj he => ?_, h'.revealed.trans h.revealed⟩
  obtain ⟨e₁, hj₁, he₁⟩ := h.ended j e hj he
  exact h'.ended j e₁ hj₁ he₁

/-! ## Single updates -/

/-- Alerts are nothing to the events and the incidents. -/
lemma Keeps.of_eq (hsos : s'.sos = s.sos) (hincidents : s'.incidents = s.incidents)
    (hrevealed : s'.revealed = s.revealed) : Keeps s s' := by
  refine ⟨fun hs => ⟨fun j e i c => ?_, fun i c i' c' => ?_⟩, fun j e hj he => ⟨e, ?_, he⟩,
    hrevealed⟩
  · rw [hsos, hincidents]
    exact hs.quiet j e i c
  · rw [hincidents]
    exact hs.single i c i' c'
  · rw [hsos]
    exact hj

lemma keeps_raise (kind : AlertKind) (severity : AlertSeverity) (source : AlertSource) :
    Keeps s (s.raise kind severity source now) := .of_eq rfl rfl rfl

lemma keeps_clear (source : AlertSource) (kinds : List AlertKind) :
    Keeps s (s.clear source kinds now) := .of_eq rfl rfl rfl

lemma keeps_updateIncidents {p : Incident → Prop} [DecidablePred p] {f : Incident → Incident}
    (hf : ∀ c, (f c).id = c.id) (htrip : ∀ c, (f c).trip = c.trip)
    (hclosed : ∀ c ∈ s.incidents.rows, p c → ((f c).status = .closed ↔ c.status = .closed)) :
    Keeps s (s.updateIncidents p f hf) := by
  have hrow : ∀ {i c'}, (s.updateIncidents p f hf).incidents.get? i = some c' →
      ∃ c, s.incidents.get? i = some c ∧ c'.trip = c.trip ∧
        (c'.status = .closed ↔ c.status = .closed) := by
    intro i c' h
    obtain ⟨c, hc, rfl⟩ := Desk.of_get?_updateIncidents h
    refine ⟨c, hc, ?_⟩
    split
    · rename_i hp
      exact ⟨htrip c, hclosed c (Serial.mem_of_get? hc) hp⟩
    · exact ⟨rfl, Iff.rfl⟩
  refine ⟨fun hs => ⟨fun j e i c' hj hi hc' hclosed' => ?_,
    fun i c' i' d' hc' hd' hopen hopen' hsome heq => ?_⟩, fun j e hj he => ⟨e, hj, he⟩, rfl⟩
  · obtain ⟨c, hc, -, hiff⟩ := hrow hc'
    exact hs.quiet j e i c hj hi hc (hiff.mp hclosed')
  · obtain ⟨c, hc, htrip, hiff⟩ := hrow hc'
    obtain ⟨d, hd, htrip', hiff'⟩ := hrow hd'
    exact hs.single i c i' d hc hd (mt hiff.mpr hopen) (mt hiff'.mpr hopen') (htrip ▸ hsome)
      (by rw [← htrip, heq, htrip'])

lemma keeps_updateSos {p : SosEvent → Prop} [DecidablePred p] {f : SosEvent → SosEvent}
    (hf : ∀ e, (f e).id = e.id) (hincident : ∀ e, (f e).incident = e.incident)
    (hended : ∀ e ∈ s.sos.rows, p e → e.status ∉ activeStatuses → (f e).status ∉ activeStatuses) :
    Keeps s (s.updateSos p f hf) := by
  refine ⟨fun hs => ⟨fun j e' i c hj hi hc hclosed => ?_, hs.single⟩, fun j e hj he => ?_, rfl⟩
  · obtain ⟨e, he, rfl⟩ := Desk.of_get?_updateSos hj
    split at hi
    · rename_i hp
      rw [if_pos hp]
      rw [hincident] at hi
      exact hended e (Serial.mem_of_get? he) hp (hs.quiet j e i c he hi hc hclosed)
    · rename_i hp
      rw [if_neg hp]
      exact hs.quiet j e i c he hi hc hclosed
  · refine ⟨_, Desk.get?_updateSos hj, ?_⟩
    · split
      · rename_i hp
        exact hended e (Serial.mem_of_get? hj) hp he
      · exact he

/-! ## Incidents -/

lemma linkedSos_eq_nil_iff {statuses : List SosStatus} : s.linkedSos incident statuses = [] ↔
    ∀ j e, s.sos.get? j = some e → e.incident = some incident → e.status ∉ statuses := by
  rw [Desk.linkedSos, List.map_eq_nil_iff, List.filter_eq_nil_iff]
  constructor
  · intro h j e hj hi hmem
    exact h e (Serial.mem_of_get? hj) (decide_eq_true ⟨hi, hmem⟩)
  · intro h e he hfound
    obtain ⟨hi, hmem⟩ := of_decide_eq_true hfound
    exact h e.id e (Serial.get?_of_mem he) hi hmem

lemma keeps_raiseSeverity (row : Incident) (severity : Severity) :
    Keeps s (s.raiseSeverity row severity) := by
  rw [Desk.raiseSeverity]
  split
  · exact keeps_updateIncidents _ (fun _ => rfl) fun _ _ _ => Iff.rfl
  · exact .refl s

lemma sos_raiseSeverity (row : Incident) (severity : Severity) :
    (s.raiseSeverity row severity).sos = s.sos := by
  rw [Desk.raiseSeverity]
  split
  · rfl
  · rfl

lemma closed_of_raiseSeverity {row c' : Incident} {severity : Severity}
    (h : (s.raiseSeverity row severity).incidents.get? id = some c') (hclosed : c'.status = .closed) :
    ∃ c, s.incidents.get? id = some c ∧ c.status = .closed := by
  rw [Desk.raiseSeverity] at h
  split at h
  · obtain ⟨c, hc, rfl⟩ := Desk.of_get?_updateIncidents h
    refine ⟨c, hc, ?_⟩
    split at hclosed
    · exact hclosed
    · exact hclosed
  · exact ⟨c', h, hclosed⟩

lemma of_openIncidentForTrip {trip : Option ℕ} {c : Incident}
    (h : s.openIncidentForTrip trip = some c) :
    s.incidents.get? c.id = some c ∧ c.status ≠ .closed ∧ c.trip = trip := by
  cases trip with
  | none => cases h
  | some trip =>
      obtain ⟨hget, hp⟩ := Serial.get?_of_find? h
      simp only [Bool.and_eq_true, decide_eq_true_eq, bne_iff_ne] at hp
      exact ⟨hget, hp.2, hp.1⟩

lemma closed_of_openIncidentForTrip_eq_none {trip : Option ℕ}
    (h : s.openIncidentForTrip trip = none) {i : ℕ} {c : Incident}
    (hc : s.incidents.get? i = some c) (htrip : c.trip = trip) (hsome : c.trip ≠ none) :
    c.status = .closed := by
  cases trip with
  | none => exact absurd htrip hsome
  | some t =>
      have hnone := List.find?_eq_none.mp h c (Serial.mem_of_get? hc)
      simpa [htrip] using hnone

section OpenIncident

variable {trip : Option ℕ} {severity : Severity}

lemma keeps_openIncident : Keeps s (s.openIncident found trip severity now).2 := by
  rw [Desk.openIncident.eq_def]
  cases found with
  | some existing => exact keeps_raiseSeverity existing severity
  | none =>
      dsimp only
      cases hwinner : s.openIncidentForTrip trip with
      | some winner => exact keeps_raiseSeverity winner severity
      | none =>
          dsimp only
          refine ⟨fun hs => ⟨fun j e i c hj hi hc hclosed => ?_,
            fun i c i' c' hc hc' hopen hopen' hsome heq => ?_⟩, fun j e hj he => ⟨e, hj, he⟩, rfl⟩
          · rw [Serial.get?_insert] at hc
            split at hc
            · cases hc
              cases hclosed
            · exact hs.quiet j e i c hj hi hc hclosed
          · -- the new incident is the only open one of its trip
            rw [Serial.get?_insert] at hc hc'
            have hother := @closed_of_openIncidentForTrip_eq_none s trip hwinner
            split at hc
            · rename_i hi
              cases hc
              split at hc'
              · rename_i hi'
                rw [hi, hi']
              · refine absurd (hother hc' heq.symm ?_) hopen'
                rw [← heq]
                exact hsome
            · split at hc'
              · cases hc'
                exact absurd (hother hc heq hsome) hopen
              · exact hs.single i c i' c' hc hc' hopen hopen' hsome heq

lemma sos_openIncident : (s.openIncident found trip severity now).2.sos = s.sos := by
  rw [Desk.openIncident.eq_def]
  cases found with
  | some existing => exact sos_raiseSeverity existing severity
  | none =>
      dsimp only
      cases s.openIncidentForTrip trip with
      | some winner => exact sos_raiseSeverity winner severity
      | none => rfl

lemma closed_openIncident {c' : Incident}
    (h : (s.openIncident found trip severity now).2.incidents.get?
      (s.openIncident found trip severity now).1.1 = some c') (hclosed : c'.status = .closed) :
    ∃ c ∈ found, ∃ row, s.incidents.get? c.id = some row ∧ row.status = .closed := by
  rw [Desk.openIncident.eq_def] at h
  cases found with
  | some existing => exact ⟨existing, rfl, closed_of_raiseSeverity h hclosed⟩
  | none =>
      dsimp only at h
      cases hwinner : s.openIncidentForTrip trip with
      | some winner =>
          rw [hwinner] at h
          obtain ⟨row, hrow, hclosed'⟩ := closed_of_raiseSeverity h hclosed
          obtain ⟨hget, hopen, -⟩ := of_openIncidentForTrip hwinner
          rw [hget, Option.some.injEq] at hrow
          subst hrow
          exact absurd hclosed' hopen
      | none =>
          rw [hwinner] at h
          dsimp only at h
          rw [Serial.get?_insert, if_pos rfl, Option.some.injEq] at h
          subst h
          cases hclosed

lemma keeps_setIncident (h : ∀ c ∈ s.incidents.get? incident, c.status = .closed →
    ∀ e ∈ s.sos.get? id, e.status ∉ activeStatuses) : Keeps s (s.setIncident id incident) := by
  refine ⟨fun hs => ⟨fun j e' i c hj hi hc hclosed => ?_, hs.single⟩, fun j e hj he => ?_, rfl⟩
  · obtain ⟨e, he, rfl⟩ := Desk.of_get?_updateSos hj
    split at hi
    · rename_i hid
      rw [if_pos hid]
      rw [Option.some.injEq] at hi
      subst hi
      have hj_id : j = id := by rw [← Serial.pk_of_get? he, hid]
      exact h c hc hclosed e (hj_id ▸ he)
    · rename_i hid
      rw [if_neg hid]
      exact hs.quiet j e i c he hi hc hclosed
  · refine ⟨_, Desk.get?_updateSos hj, ?_⟩
    · split
      · exact he
      · exact he

/-- A link puts the event into an incident that is not closed under its lock. -/
lemma keeps_linkSos : Keeps s (s.linkSos incident id).2 := by
  rw [Desk.linkSos]
  cases hget : s.incidents.get? incident with
  | none => exact .refl s
  | some c =>
      dsimp only
      split
      · exact .refl s
      · rename_i hopen
        refine keeps_setIncident fun c' hc' hclosed => ?_
        rw [hget, Option.mem_def, Option.some.injEq] at hc'
        exact absurd (hc' ▸ hclosed) hopen

/-- The event joins an incident that is open by now, or has ended. -/
def Joins (s : Desk) (id : ℕ) (found : Option Incident) : Prop :=
  ∀ c ∈ found, ∀ row ∈ s.incidents.get? c.id, row.status = .closed →
    ∀ e ∈ s.sos.get? id, e.status ∉ activeStatuses

instance : Decidable (Joins s id found) :=
  inferInstanceAs (Decidable (∀ c ∈ found, ∀ row ∈ s.incidents.get? c.id, row.status = .closed →
    ∀ e ∈ s.sos.get? id, e.status ∉ activeStatuses))

lemma keeps_setIncident_openIncident (h : Joins s id found) :
    Keeps s ((s.openIncident found trip severity now).2.setIncident id
      (s.openIncident found trip severity now).1.1) := by
  refine keeps_openIncident.trans (keeps_setIncident fun c' hc' hclosed e he => ?_)
  obtain ⟨c, hc, row, hrow, hrow_closed⟩ := closed_openIncident hc' hclosed
  rw [sos_openIncident] at he
  exact h c hc row hrow hrow_closed e he

lemma keeps_openFor {sos : Option ℕ} (h : ∀ id ∈ sos, Joins s id found) :
    Keeps s (s.openFor trip severity sos found now).2 := by
  cases sos with
  | none => exact keeps_openIncident
  | some id => exact keeps_setIncident_openIncident (h id rfl)

end OpenIncident

/-! ## Events -/

lemma keeps_insert {f : ℕ → SosEvent} (hf : ∀ n, (f n).id = n)
    (hincident : (f s.sos.next).incident = none) :
    Keeps s { s with sos := s.sos.insert f hf } := by
  refine ⟨fun hs => ⟨fun j e i c hj hi hc hclosed => ?_, hs.single⟩,
    fun j e hj he => ⟨e, Serial.get?_insert_of_some hf hj, he⟩, rfl⟩
  rw [Serial.get?_insert] at hj
  split at hj
  · rw [Option.some.injEq] at hj
    subst hj
    rw [hincident] at hi
    cases hi
  · exact hs.quiet j e i c hj hi hc hclosed

/-- `raise_sos`, when the incident that was read is still open. -/
lemma keeps_raiseSos {d : SosDraft} {attaches : Bool} (h : attaches = true →
    ∀ c ∈ found, ∀ row ∈ s.incidents.get? c.id, row.status ≠ .closed) :
    Keeps s (s.raiseSos d found attaches now).2 := by
  rw [Desk.raiseSos]
  dsimp only
  generalize hwritten : ({ s with sos := s.sos.insert _ _ } : Desk) = written
  have hkeeps : Keeps s written := by
    rw [← hwritten]
    exact keeps_insert _ rfl
  have hincidents : written.incidents = s.incidents := by rw [← hwritten]
  generalize halerted : (if d.anchored = true then written
    else written.raise .sosUnanchored .critical (.sosEvent s.sos.next) now) = alerted
  have hkeeps' : Keeps s alerted := by
    rw [← halerted]
    split
    · exact hkeeps
    · exact hkeeps.trans (keeps_raise _ _ _)
  have hincidents' : alerted.incidents = s.incidents := by
    rw [← halerted]
    split
    · exact hincidents
    · exact hincidents
  split
  · rename_i hattaches
    refine hkeeps'.trans (keeps_setIncident_openIncident fun c hc row hrow hclosed => ?_)
    rw [hincidents'] at hrow
    exact absurd hclosed (h hattaches c hc row hrow)
  · exact hkeeps'

/-! ## Responders -/

lemma keeps_clearSosAlerts (linked : Option ℕ) : Keeps s (s.clearSosAlerts id linked now) := by
  rw [Desk.clearSosAlerts.eq_def]
  cases linked with
  | none => exact keeps_clear _ _
  | some i =>
      dsimp only
      split
      · exact (keeps_clear _ _).trans (keeps_clear _ _)
      · exact keeps_clear _ _

lemma keeps_investigate : Keeps s (s.investigate incident) := by
  refine keeps_updateIncidents _ (fun _ => rfl) fun c _ hp => ?_
  constructor
  · intro h
    cases h
  · intro h
    rw [hp.2] at h
    cases h

lemma keeps_noteOnSosTransition (linked : Option ℕ) (status : SosStatus) :
    Keeps s (s.noteOnSosTransition id linked status now) := by
  have hcleared : Keeps s (if status = .opened then s else s.clearSosAlerts id linked now) := by
    split
    · exact .refl s
    · exact keeps_clearSosAlerts linked
  rw [Desk.noteOnSosTransition.eq_def]
  cases linked with
  | none => exact hcleared
  | some i =>
      dsimp only
      split
      · exact hcleared.trans keeps_investigate
      · exact hcleared

def Allowed (s : Desk) (id : ℕ) (target : Target) : Prop :=
  target = .acknowledged → ∀ e ∈ s.sos.get? id, e.status ∈ activeStatuses

instance : Decidable (Allowed s id target) :=
  inferInstanceAs (Decidable (target = .acknowledged → ∀ e ∈ s.sos.get? id,
    e.status ∈ activeStatuses))

lemma keeps_applyTransition {refuse : Bool} (h : Allowed s id target) :
    Keeps s (s.applyTransition id target refuse now).2 := by
  rw [Desk.applyTransition]
  cases hget : s.sos.get? id with
  | none => exact .refl s
  | some e =>
      dsimp only
      split
      · exact .refl s
      split
      · exact .refl s
      have hnote : ∀ moved : Desk,
          Keeps moved (moved.noteOnSosTransition id e.incident target.status now) :=
        fun moved => keeps_noteOnSosTransition _ _
      refine Keeps.trans ?_ (hnote _)
      refine keeps_updateSos _ (fun _ => rfl) fun e' he' hid hended => ?_
      cases target with
      | acknowledged =>
          have hget' : s.sos.get? id = some e' := hid ▸ Serial.get?_of_mem he'
          exact absurd (h rfl e' hget') hended
      | resolved => exact show SosStatus.resolved ∉ activeStatuses by decide
      | falseAlarm => exact show SosStatus.falseAlarm ∉ activeStatuses by decide

lemma sos_applyTransition_cases {refuse : Bool} {j : ℕ} {e' : SosEvent}
    (h : (s.applyTransition id target refuse now).2.sos.get? j = some e') :
    ∃ e, s.sos.get? j = some e ∧ (e' = e ∨ e' = { e with status := target.status }) := by
  have hclear : ∀ (s : Desk) (linked : Option ℕ), (s.clearSosAlerts id linked now).sos = s.sos := by
    intro s linked
    rw [Desk.clearSosAlerts.eq_def]
    cases linked with
    | none => rfl
    | some i =>
        dsimp only
        split
        · rfl
        · rfl
  have hnote : ∀ (s : Desk) (linked : Option ℕ) (status : SosStatus),
      (s.noteOnSosTransition id linked status now).sos = s.sos := by
    intro s linked status
    have hcleared : (if status = .opened then s else s.clearSosAlerts id linked now).sos = s.sos := by
      split
      · rfl
      · exact hclear s linked
    rw [Desk.noteOnSosTransition.eq_def]
    cases linked with
    | none => exact hcleared
    | some i =>
        dsimp only
        split
        · exact hcleared
        · exact hcleared
  rw [Desk.applyTransition] at h
  cases hget : s.sos.get? id with
  | none =>
      rw [hget] at h
      exact ⟨e', h, .inl rfl⟩
  | some e =>
      rw [hget] at h
      dsimp only at h
      split at h
      · exact ⟨e', h, .inl rfl⟩
      split at h
      · exact ⟨e', h, .inl rfl⟩
      rw [hnote] at h
      obtain ⟨e₀, he₀, rfl⟩ := Desk.of_get?_updateSos h
      refine ⟨e₀, he₀, ?_⟩
      split
      · exact .inr rfl
      · exact .inl rfl

lemma keeps_transitionAll {ids : List ℕ} (h : ∀ id ∈ ids, Allowed s id target) :
    Keeps s (s.transitionAll ids target now) := by
  induction ids generalizing s with
  | nil => exact .refl s
  | cons i ids ih =>
      refine (keeps_applyTransition (h i List.mem_cons_self)).trans (ih fun j hj htarget e' he' => ?_)
      obtain ⟨e, he, hsame | hmoved⟩ := sos_applyTransition_cases he'
      · rw [hsame]
        exact h j (List.mem_cons_of_mem i hj) htarget e he
      · rw [hmoved, htarget]
        exact show SosStatus.acknowledged ∈ activeStatuses by decide

lemma keeps_acknowledgeCase {ids : List ℕ} (h : ∀ id ∈ ids, Allowed s id .acknowledged) :
    Keeps s (s.acknowledgeCase incident ids now) :=
  (keeps_transitionAll h).trans keeps_investigate

lemma keeps_reportMistake : Keeps s (s.reportMistake id now) := by
  rw [Desk.reportMistake]
  cases s.sos.get? id with
  | none => exact .refl s
  | some e =>
      dsimp only
      split
      · exact .refl s
      · have hnote : ∀ reported : Desk,
            Keeps reported (reported.noteOnSosTransition id e.incident e.status now) :=
          fun reported => keeps_noteOnSosTransition _ _
        refine Keeps.trans ?_ (hnote _)
        exact keeps_updateSos _ (fun _ => rfl) fun e _ _ hended => hended

/-! ## Cases -/

lemma keeps_closeIncident {summary outcome : String} (h : s.closeBlockers incident = []) :
    Keeps s (s.closeIncident incident summary outcome now) := by
  have hnone := linkedSos_eq_nil_iff.mp h
  have hclears : ∀ (ids : List ℕ) (s : Desk),
      Keeps s (ids.foldl (fun s id => s.clear (.sosEvent id) [] now) s) := by
    intro ids
    induction ids with
    | nil => exact fun s => .refl s
    | cons i ids ih => exact fun s => (keeps_clear _ _).trans (ih _)
  rw [Desk.closeIncident]
  refine Keeps.trans ?_ (hclears _ _)
  refine Keeps.trans ?_ (keeps_clear _ _)
  refine ⟨fun hs => ⟨fun j e i c' hj hi hc' hclosed => ?_,
    fun i c' i' d' hc' hd' hopen hopen' hsome heq => ?_⟩, fun j e hj he => ⟨e, hj, he⟩, rfl⟩
  · obtain ⟨c, hc, rfl⟩ := Desk.of_get?_updateIncidents hc'
    split at hclosed
    · rename_i hid
      have hincident : e.incident = some incident := by
        rw [hi, ← hid, Serial.pk_of_get? hc]
      exact hnone j e hj hincident
    · exact hs.quiet j e i c hj hi hc hclosed
  · obtain ⟨c, hc, rfl⟩ := Desk.of_get?_updateIncidents hc'
    obtain ⟨d, hd, rfl⟩ := Desk.of_get?_updateIncidents hd'
    split at hopen
    · exact absurd rfl hopen
    split at hopen'
    · exact absurd rfl hopen'
    rename_i hc_id hd_id
    rw [if_neg hc_id] at hsome heq
    rw [if_neg hd_id] at heq
    exact hs.single i c i' d hc hd hopen hopen' hsome heq

lemma keeps_close {summary outcome : String} :
    Keeps s (s.close incident summary outcome now).2 := by
  rw [Desk.close]
  split
  · exact .refl s
  split
  · exact .refl s
  split
  · exact .refl s
  · rename_i hblockers
    exact keeps_closeIncident (not_not.mp hblockers)

lemma keeps_finishCase {ids : List ℕ} {ending : Ending} {summary outcome : String} :
    Keeps s (s.finishCase incident ids ending summary outcome now).2 := by
  have hmoved : Keeps s (s.transitionAll ids ending.target now) := by
    refine keeps_transitionAll fun id _ htarget => ?_
    cases ending with
    | resolved => cases htarget
    | falseAlarm => cases htarget
  rw [Desk.finishCase]
  split
  · exact hmoved
  · rename_i hblockers
    exact hmoved.trans (keeps_closeIncident (not_not.mp hblockers))

lemma keeps_updateOpen {c : Incident} {f : Incident → Incident} (hf : ∀ c, (f c).id = c.id)
    (hget : s.incidents.get? incident = some c) (hopen : c.status ≠ .closed)
    (htrip : ∀ c, (f c).trip = c.trip) (hf_open : (f c).status ≠ .closed) :
    Keeps s (s.updateIncidents (fun c => c.id = incident) f hf) := by
  refine keeps_updateIncidents hf htrip fun c' hc' hid => ?_
  have heq : s.incidents.get? incident = some c' := hid ▸ Serial.get?_of_mem hc'
  rw [hget, Option.some.injEq] at heq
  subst heq
  exact ⟨fun h => absurd h hf_open, fun h => absurd h hopen⟩

lemma keeps_assign {assignee : Option ℕ} : Keeps s (s.assign incident assignee now).2 := by
  rw [Desk.assign]
  cases hget : s.incidents.get? incident with
  | none => exact .refl s
  | some c =>
      dsimp only
      split
      · exact .refl s
      rename_i hopen
      split
      · exact .refl s
      have hassigned := keeps_updateOpen (f := fun c => { c with assignedTo := assignee })
        (fun _ => rfl) hget hopen (fun _ => rfl) hopen
      split
      · exact hassigned
      · exact hassigned.trans (keeps_clear _ _)

lemma keeps_setStatus {wanted : LiveStatus} : Keeps s (s.setStatus incident wanted).2 := by
  have hwanted : wanted.1 ≠ .closed := by
    intro h
    exact absurd (h ▸ wanted.2) (by decide)
  rw [Desk.setStatus]
  cases hget : s.incidents.get? incident with
  | none => exact .refl s
  | some c =>
      dsimp only
      split
      · exact .refl s
      rename_i hopen
      split
      · exact .refl s
      · exact keeps_updateOpen _ hget hopen (fun _ => rfl) hwanted

lemma keeps_referPolice : Keeps s (s.referPolice incident now).2 := by
  rw [Desk.referPolice]
  cases hget : s.incidents.get? incident with
  | none => exact .refl s
  | some c =>
      dsimp only
      split
      · exact .refl s
      rename_i hopen
      split
      · exact .refl s
      · refine keeps_updateOpen _ hget hopen (fun _ => rfl) ?_
        dsimp only
        split
        · exact fun h => by cases h
        · exact hopen

/-! ## Escalation -/

lemma keeps_escalateSos {linked : Option ℕ} : Keeps s (s.escalateSos id linked now).2 := by
  rw [Desk.escalateSos]
  cases s.sos.get? id with
  | none => exact .refl s
  | some e =>
      dsimp only
      split
      · have hmarked : Keeps s (s.updateSos (fun e => e.id = id)
            (fun e => { e with escalatedAt := some now }) fun _ => rfl) :=
          keeps_updateSos _ (fun _ => rfl) fun e _ _ hended => hended
        split
        · exact hmarked.trans (keeps_raise _ _ _)
        · exact (hmarked.trans (keeps_raise _ _ _)).trans (keeps_clear _ _)
      · exact .refl s

lemma keeps_escalateIncident : Keeps s (s.escalateIncident id now).2 := by
  rw [Desk.escalateIncident]
  cases s.incidents.get? id with
  | none => exact .refl s
  | some c =>
      dsimp only
      split
      · have hmarked : Keeps s (s.updateIncidents (fun c => c.id = id)
            (fun c => { c with assignEscalatedAt := some now }) fun _ => rfl) :=
          keeps_updateIncidents _ (fun _ => rfl) fun _ _ _ => Iff.rfl
        exact hmarked.trans (keeps_raise _ _ _)
      · exact .refl s

lemma keeps_promote {trip : ℕ} : Keeps s (s.promote trip found now).2 :=
  keeps_openIncident.trans (keeps_raise _ _ _)

/-! ## Runs -/

/-- The transaction acknowledges no ended event, and puts no active event into an incident that
was closed since it was read. -/
def Orderly : Op → Choice → Desk → Prop
  | .transition id target, _, s => Allowed s id target
  | .acknowledgeCase _ ids, _, s => ∀ id ∈ ids, Allowed s id .acknowledged
  | .raiseSos _ found, e, s => e.attaches = true →
      ∀ c ∈ found, ∀ row ∈ s.incidents.get? c.id, row.status ≠ .closed
  | .attachSos id _ _ found, e, s => e.attaches = true → Joins s id found
  | .openIncident _ _ sos found, _, s => ∀ id ∈ sos, Joins s id found
  | _, _, _ => True

instance : (o : Op) → (e : Choice) → (s : Desk) → Decidable (Orderly o e s)
  | .transition id target, _, s => inferInstanceAs (Decidable (Allowed s id target))
  | .acknowledgeCase _ ids, _, s =>
      inferInstanceAs (Decidable (∀ id ∈ ids, Allowed s id .acknowledged))
  | .raiseSos _ found, e, s => inferInstanceAs (Decidable (e.attaches = true →
      ∀ c ∈ found, ∀ row ∈ s.incidents.get? c.id, row.status ≠ .closed))
  | .attachSos id _ _ found, e, s =>
      inferInstanceAs (Decidable (e.attaches = true → Joins s id found))
  | .openIncident _ _ sos found, _, s =>
      inferInstanceAs (Decidable (∀ id ∈ sos, Joins s id found))
  | .sos _, _, _ | .incident _, _, _ | .openIncidentForTrip _, _, _ | .recent _, _, _
  | .unattached, _, _ | .linkedSos _ _, _, _ | .overdueSos _ _, _, _ | .overdueIncidents _ _, _, _
  | .promote _ _, _, _ | .linkSos _ _, _, _ | .reportMistake _, _, _ | .reveal _, _, _
  | .finishCase _ _ _ _ _, _, _ | .close _ _ _, _, _ | .assign _ _, _, _ | .setStatus _ _, _, _
  | .referPolice _, _, _ | .escalateSos _ _ _, _, _ | .escalateIncident _ _, _, _ => isTrue trivial

def RevealsActive (s s' : Desk) : Prop := ∀ j, s'.revealed.count j ≠ s.revealed.count j →
  ∃ e, s.sos.get? j = some e ∧ e.status ∈ activeStatuses

/-- What a transaction does to the desk. -/
structure Onward (s s' : Desk) : Prop where
  kept : CasesKept s → CasesKept s'
  ended : EndsForGood s s'
  revealed : RevealsActive s s'

lemma Keeps.onward (h : Keeps s s') : Onward s s' := by
  refine ⟨h.kept, h.ended, fun j hne => ?_⟩
  rw [h.revealed] at hne
  exact absurd rfl hne

lemma Onward.refl (s : Desk) : Onward s s := (Keeps.refl s).onward

lemma onward_reveal : Onward s (s.reveal id).2 := by
  rw [Desk.reveal]
  cases hget : s.sos.get? id with
  | none => exact .refl s
  | some e =>
      dsimp only
      split
      · rename_i hactive
        refine ⟨fun hs => ⟨hs.quiet, hs.single⟩, fun j e hj he => ⟨e, hj, he⟩, fun j hne => ?_⟩
        by_cases hj : j = id
        · exact ⟨e, hj ▸ hget, hactive⟩
        · refine absurd ?_ hne
          exact List.count_cons_of_ne (Ne.symm hj)
      · exact .refl s

/-- Every orderly transaction goes on from the desk it finds. -/
theorem onward_exec {o : Op} {e : Choice} (h : Orderly o e s) : Onward s (exec o e s).2 := by
  cases o with
  | raiseSos d found => exact (keeps_raiseSos h).onward
  | attachSos id trip eventType found =>
      refine Keeps.onward ?_
      show Keeps s (if e.attaches then _ else s)
      split
      · rename_i hattaches
        exact keeps_setIncident_openIncident (h hattaches)
      · exact .refl s
  | openIncident trip severity sos found => exact (keeps_openFor h).onward
  | promote trip found => exact keeps_promote.onward
  | linkSos incident id => exact keeps_linkSos.onward
  | transition id target => exact (keeps_applyTransition h).onward
  | reportMistake id => exact keeps_reportMistake.onward
  | reveal id => exact onward_reveal
  | acknowledgeCase incident ids => exact (keeps_acknowledgeCase h).onward
  | finishCase incident ids ending summary outcome => exact keeps_finishCase.onward
  | close incident summary outcome => exact keeps_close.onward
  | assign incident assignee => exact keeps_assign.onward
  | setStatus incident wanted => exact keeps_setStatus.onward
  | referPolice incident => exact keeps_referPolice.onward
  | escalateSos id linked now => exact keeps_escalateSos.onward
  | escalateIncident id now => exact keeps_escalateIncident.onward
  | sos id => exact .refl s
  | incident id => exact .refl s
  | openIncidentForTrip trip => exact .refl s
  | recent d => exact .refl s
  | unattached => exact .refl s
  | linkedSos incident statuses => exact .refl s
  | overdueSos shortest now => exact .refl s
  | overdueIncidents shortest now => exact .refl s

variable {τ : Type} [DecidableEq τ]

/-- What a move may do. -/
def MoveEnds (p : Responders τ) (m : ResponderMove τ) : Prop :=
  EndsForGood p.store (responderStep p m).store ∧ RevealsActive p.store (responderStep p m).store

lemma onward_responderStep {p : Responders τ} {m : ResponderMove τ} (h : Pool.Meets Orderly p m) :
    Onward p.store (responderStep p m).store := by
  have hop : ∀ (o : Op) (e : Choice) (s : Desk), Orderly o e s → True →
      Onward s (exec o e s).2 := fun _ _ _ h _ => onward_exec h
  exact Pool.store_rel_step (I := fun _ => True) Onward.refl hop (fun _ s _ => .refl s) h trivial

lemma casesKept_nil : CasesKept ⟨.empty, .empty, .empty, []⟩ := by
  refine ⟨fun j e i c hj => ?_, fun i c i' c' hc => ?_⟩
  · cases hj
  · cases hc

lemma count_revealed_of_ended {as : List (ResponderMove τ)} {p : Responders τ} {j : ℕ}
    {e : SosEvent} (h : Transition.Guarded responderStep MoveEnds p as)
    (hj : p.store.sos.get? j = some e) (he : e.status ∉ activeStatuses) :
    (Transition.run responderStep p as).store.revealed.count j = p.store.revealed.count j := by
  induction as generalizing p e with
  | nil => rfl
  | cons m as ih =>
      obtain ⟨⟨hended, hreveals⟩, hrest⟩ := h
      obtain ⟨e', hj', he'⟩ := hended j e hj he
      rw [Transition.run_cons, ih hrest hj' he']
      by_contra hne
      obtain ⟨e₁, he₁, hactive⟩ := hreveals j hne
      rw [hj, Option.some.injEq] at he₁
      subst he₁
      exact he hactive

/-- In every run in which no ended event is acknowledged and no active event is put into an
incident that was closed since it was read: a closed incident has no active event, a trip has
at most one incident that is not closed, an ended event stays ended, and its contact is not
revealed after it ended. -/
theorem ended_for_good {as : List (ResponderMove τ)}
    (h : Transition.Guarded responderStep (Pool.Meets Orderly) (noResponders : Responders τ) as) :
    let s := (Transition.run responderStep noResponders as).store
    (∀ j e i c, s.sos.get? j = some e → e.incident = some i → s.incidents.get? i = some c →
      c.status = .closed → e.status ∉ activeStatuses) ∧
    (∀ i c i' c', s.incidents.get? i = some c → s.incidents.get? i' = some c' →
      c.status ≠ .closed → c'.status ≠ .closed → c.trip ≠ none → c.trip = c'.trip → i = i') ∧
    Transition.Guarded responderStep MoveEnds noResponders as ∧
    ∀ bs, bs <+: as → ∀ j e,
      (Transition.run responderStep (noResponders : Responders τ) bs).store.sos.get? j = some e →
      e.status ∉ activeStatuses → s.revealed.count j =
        (Transition.run responderStep (noResponders : Responders τ) bs).store.revealed.count j := by
  intro s
  have hkept : CasesKept s :=
    Transition.invariant_of_guarded (I := fun p => CasesKept p.store)
      (fun _ _ hm hs => (onward_responderStep hm).kept hs) casesKept_nil h
  have hmoves : Transition.Guarded responderStep MoveEnds (noResponders : Responders τ) as :=
    Transition.guarded_of_invariant (I := fun _ => True) (fun _ _ _ _ => trivial)
      (fun _ _ hm _ => ⟨(onward_responderStep hm).ended, (onward_responderStep hm).revealed⟩)
      trivial h
  refine ⟨hkept.quiet, hkept.single, hmoves, ?_⟩
  rintro bs ⟨cs, rfl⟩ j e hj he
  show (Transition.run responderStep noResponders (bs ++ cs)).store.revealed.count j = _
  rw [Transition.run_append]
  exact count_revealed_of_ended (Transition.guarded_append.mp hmoves).2 hj he

/-! ## A panic button -/

/-- A call of a thread and `n` of its reads and transactions, at a time. -/
def callAt (now : ℕ) (t : Bool) (a : Call) (n : ℕ) : List (ResponderMove Bool) :=
  .start t a :: List.replicate n (.advance t ⟨now, true⟩)

def panicDraft : SosDraft := ⟨7, some 1, .panic, true⟩

/-- The event is raised and resolved, and its case is closed. -/
def resolvedAndClosed : List (ResponderMove Bool) :=
  callAt 0 false (.raiseSos panicDraft) 3 ++ callAt 60 true (.adminTransition 0 .resolved "") 2 ++
    callAt 90 true (.close 0 "Rider is safe" "no_action") 1

/-- An operator acknowledges the event and asks for the contact. -/
def acknowledgedAgain : List (ResponderMove Bool) :=
  callAt 120 false (.adminTransition 0 .acknowledged "") 2 ++ callAt 130 true (.revealContact 0) 1

/-- An operator who acknowledges a resolved event makes it active, on a closed incident, and may
have its contact. -/
theorem acknowledgedAfterEnd :
    (((Transition.run responderStep noResponders resolvedAndClosed).store.sos.get? 0).map
      SosEvent.status = some .resolved) ∧
    (let s := (Transition.run responderStep noResponders
      (resolvedAndClosed ++ acknowledgedAgain)).store
    (s.sos.get? 0).map SosEvent.status = some .acknowledged ∧
    (s.sos.get? 0).map SosEvent.incident = some (some 0) ∧
    (s.incidents.get? 0).map Incident.status = some .closed ∧
    s.revealed = [0]) ∧
    ¬ Transition.Guarded responderStep MoveEnds noResponders
      (resolvedAndClosed ++ acknowledgedAgain) := by
  have hbefore : ((Transition.run responderStep noResponders resolvedAndClosed).store.sos.get?
      0).map SosEvent.status = some .resolved := by
    decide +kernel
  have hrevealed : (Transition.run responderStep noResponders resolvedAndClosed).store.revealed =
      [] := by
    decide +kernel
  refine ⟨hbefore, by decide +kernel, fun h => ?_⟩
  obtain ⟨e, he, hresolved⟩ := Option.map_eq_some_iff.mp hbefore
  have hcount := count_revealed_of_ended (Transition.guarded_append.mp h).2 he
    (by rw [hresolved]; decide)
  rw [← Transition.run_append, hrevealed] at hcount
  exact absurd hcount (by decide +kernel)

/-- The event of a trip whose incident is open joins it, and everything ends in order. -/
theorem ended_for_good_resolvedAndClosed :
    Transition.Guarded responderStep (Pool.Meets Orderly) noResponders resolvedAndClosed ∧
    Transition.Guarded responderStep MoveEnds noResponders resolvedAndClosed := by
  have horderly : Transition.Guarded responderStep (Pool.Meets Orderly) noResponders
      resolvedAndClosed := by
    decide +kernel
  exact ⟨horderly, (ended_for_good horderly).2.2.1⟩

end SaaradhiGo.Safety
