/-
Raising, raising up and closing alerts, by several callers at a time.

`raise_alert` reads the open alert of its event and then creates one or raises that one up;
`acknowledge` saves the alert as it was read.  No lock is held and no index refuses a second open
alert, so between a call's read and its write any other call may write.  An event has one open
alert, with the highest severity raised for it, as long as whoever creates one finds none open by
then, and whoever raises one up finds it no higher (`one_open_alert_iff`).
-/
import SaaradhiGo.CommandCentre.Alert
import SaaradhiGo.Lib.Json
import SaaradhiGo.Lib.Transition

namespace SaaradhiGo.AlertRaising

open CommandCentre (AlertSeverity)

/-! ## Alerts -/

def thresholdKinds : List String :=
  ["threshold_unfulfilled_rate", "threshold_acceptance_rate", "threshold_avg_eta_minutes",
    "threshold_sos_open", "threshold_sos_unacknowledged", "threshold_withdrawal_pending"]

def liveCityOnly (kind : String) : Bool :=
  thresholdKinds.contains kind || kind == "safety_coverage_gap" || kind == "fraud.queue_aging"

/-- `GeoNode`: its kind, and whether its status is `ACTIVE`. -/
structure City where
  kind : String
  active : Bool

def cityIsLive (city : Option City) (kind : String) : Bool :=
  if liveCityOnly kind then
    match city with
    | none => true
    | some c => if c.kind = "city" then c.active else true
  else true

/-- What callers give as `source_id`. -/
inductive SourceId where
  | none
  | number (n : ℤ)
  | text (s : String)

/-- Whether it counts as true. -/
def SourceId.truthy : SourceId → Bool
  | none => false
  | number n => n != 0
  | text s => s != ""

/-- `str(source_id)`. -/
def SourceId.str : SourceId → String
  | none => "None"
  | number n => toString n
  | text s => s

/-- A dict of `payload`. -/
abbrev Payload : Type := List (String × Json)

/-- `{**old, **new}`. -/
def merge (old new : Payload) : Payload :=
  new.foldl
    (fun d m =>
      if d.any fun x => x.1 = m.1 then d.map fun x => if x.1 = m.1 then m else x else d ++ [m])
    old

def cut (n : ℕ) (s : String) : String := String.ofList (s.toList.take n)

/-- `OperatorAlert`. -/
structure Alert where
  id : ℕ
  kind : String
  severity : AlertSeverity
  title : String
  payload : Payload
  sourceType : String
  sourceId : String
  city : Option City
  createdAt : ℕ
  acknowledgedAt : Option ℕ
  acknowledgedBy : Option ℕ
  acknowledgedNote : String

def Alert.Open (a : Alert) : Prop := a.acknowledgedAt = none

def Alert.SameSource (a b : Alert) : Prop := a.sourceType = b.sourceType ∧ a.sourceId = b.sourceId

/-- The arguments of `raise_alert`. -/
structure Raise where
  kind : String
  title : String
  severity : AlertSeverity
  payload : Payload
  sourceType : String
  sourceId : SourceId
  city : Option City

/-- `if source_type and source_id`. -/
def Raise.named (c : Raise) : Bool := c.sourceType != "" && c.sourceId.truthy

/-- The row `raise_alert` creates. -/
def Raise.row (c : Raise) (now id : ℕ) : Alert where
  id := id
  kind := c.kind
  severity := c.severity
  title := cut 200 c.title
  payload := c.payload
  sourceType := c.sourceType
  sourceId := if c.sourceId.truthy then c.sourceId.str else ""
  city := c.city
  createdAt := now
  acknowledgedAt := none
  acknowledgedBy := none
  acknowledgedNote := ""

def openFor (alerts : Serial Alert.id) (sourceType sourceId : String) : Option Alert :=
  alerts.rows.reverse.find? fun a =>
    a.sourceType = sourceType && a.sourceId = sourceId && a.acknowledgedAt.isNone

/-- The columns `raise_alert` saves on the alert it has read. -/
def raiseUp (c : Raise) (existing a : Alert) : Alert :=
  { a with
    severity := c.severity
    kind := c.kind
    title := cut 200 c.title
    payload := merge existing.payload c.payload }

/-- The columns `acknowledge` saves. -/
def close (acknowledgedBy : Option ℕ) (note : String) (now : ℕ) (a : Alert) : Alert :=
  { a with
    acknowledgedAt := some now
    acknowledgedBy := acknowledgedBy
    acknowledgedNote := cut 10000 note }

/-! ## Callers -/

/-- What a caller has read and not written yet. -/
inductive Doing where
  | creating (c : Raise)
  | raising (c : Raise) (existing : Alert)
  | closing (rows : List Alert) (acknowledgedBy : Option ℕ) (note : String)

/-- The alerts, the severities raised for each of them since it was opened, and the callers. -/
structure State where
  alerts : Serial Alert.id
  raised : ℕ → List AlertSeverity
  callers : ℕ → Option Doing

/-- A read of a call, or its next write. -/
inductive Event where
  /-- `raise_alert` reads -/
  | raise (caller : ℕ) (c : Raise)
  /-- `clear_alerts` reads; no kinds are all kinds -/
  | clear (caller : ℕ) (sourceType : String) (sourceId : SourceId) (kinds : List String)
      (note : String)
  /-- an operator's request reads the alert it acknowledges -/
  | acknowledge (caller id : ℕ) (acknowledgedBy : Option ℕ) (note : String)
  | write (caller now : ℕ)

namespace State

def goOn (s : State) (caller : ℕ) (doing : Option Doing) : State :=
  { s with callers := fun i => if i = caller then doing else s.callers i }

def count (s : State) (id : ℕ) (severity : AlertSeverity) : State :=
  { s with raised := fun i => if i = id then s.raised i ++ [severity] else s.raised i }

end State

/-- The writes, and what is left of the call. -/
def write (s : State) (now : ℕ) : Doing → State × Option Doing
  | .creating c =>
      ({ s with
          alerts := s.alerts.insert (c.row now) fun _ => rfl
          raised := fun i => if i = s.alerts.next then [c.severity] else s.raised i }, none)
  | .raising c existing =>
      ({ s.count existing.id c.severity with
          alerts := s.alerts.updateWhere (fun a => a.id = existing.id) (raiseUp c existing)
            fun _ => rfl }, none)
  | .closing [] _ _ => (s, none)
  | .closing (a :: rows) acknowledgedBy note =>
      (if a.acknowledgedAt.isSome then s
        else
          { s with
            alerts := s.alerts.updateWhere (fun b => b.id = a.id) (close acknowledgedBy note now)
              fun _ => rfl },
        some (.closing rows acknowledgedBy note))

def step (s : State) : Event → State
  | .raise caller c =>
      if cityIsLive c.city c.kind then
        if c.named then
          match openFor s.alerts c.sourceType c.sourceId.str with
          | none => s.goOn caller (some (.creating c))
          | some existing =>
              if existing.severity.order < c.severity.order then
                s.goOn caller (some (.raising c existing))
              else (s.count existing.id c.severity).goOn caller none
        else s.goOn caller (some (.creating c))
      else s.goOn caller none
  | .clear caller sourceType sourceId kinds note =>
      s.goOn caller (some (.closing
        (s.alerts.rows.filter fun a =>
          a.sourceType = sourceType && a.sourceId = sourceId.str && a.acknowledgedAt.isNone &&
            (kinds.isEmpty || kinds.contains a.kind))
        none note))
  | .acknowledge caller id acknowledgedBy note =>
      match s.alerts.get? id with
      | none => s
      | some a => s.goOn caller (some (.closing [a] acknowledgedBy note))
  | .write caller now =>
      match s.callers caller with
      | none => s
      | some doing => (write s now doing).1.goOn caller (write s now doing).2

abbrev run : State → List Event → State := Transition.run step

/-! ## One open alert -/

/-- At most one open alert for each source, and its severity is the highest raised since it was
opened. -/
structure Good (s : State) : Prop where
  single : ∀ a ∈ s.alerts.rows, ∀ b ∈ s.alerts.rows, a.Open → b.Open → a.SameSource b → a = b
  raised : ∀ a ∈ s.alerts.rows, a.Open → a.severity ∈ s.raised a.id
  highest : ∀ a ∈ s.alerts.rows, a.Open → ∀ r ∈ s.raised a.id, r.order ≤ a.severity.order

/-- Who creates an alert finds none open for its source by then, and who raises one up finds it no
higher than that. -/
def Careful (s : State) : Event → Prop
  | .write caller now =>
      match s.callers caller with
      | some (.creating c) =>
          ∀ a ∈ s.alerts.rows, a.Open → ¬ a.SameSource (c.row now s.alerts.next)
      | some (.raising c existing) =>
          ∀ a ∈ s.alerts.get? existing.id, a.Open → a.severity.order ≤ c.severity.order
      | _ => True
  | _ => True

section Step

variable {s : State} {caller now id : ℕ} {c : Raise} {existing a : Alert} {doing : Option Doing}

lemma good_goOn_iff : Good (s.goOn caller doing) ↔ Good s :=
  ⟨fun h => ⟨h.single, h.raised, h.highest⟩, fun h => ⟨h.single, h.raised, h.highest⟩⟩

lemma mem_raised_count {severity r : AlertSeverity} {i : ℕ} :
    r ∈ (s.count id severity).raised i ↔ r ∈ s.raised i ∨ (i = id ∧ r = severity) := by
  rw [State.count]
  dsimp only
  split
  · rename_i h
    simp [h]
  · rename_i h
    simp [h]

lemma openFor_eq_some {sourceType sourceId : String}
    (h : openFor s.alerts sourceType sourceId = some a) :
    a ∈ s.alerts.rows ∧ a.sourceType = sourceType ∧ a.sourceId = sourceId ∧ a.Open := by
  have hmem : a ∈ s.alerts.rows := List.mem_reverse.mp (List.mem_of_find?_eq_some h)
  have hfound := List.find?_some h
  simp only [Bool.and_eq_true, decide_eq_true_eq, Option.isNone_iff_eq_none] at hfound
  exact ⟨hmem, hfound.1.1, hfound.1.2, hfound.2⟩

lemma openFor_eq_none {sourceType sourceId : String}
    (h : openFor s.alerts sourceType sourceId = none) (hmem : a ∈ s.alerts.rows) (hopen : a.Open) :
    ¬ (a.sourceType = sourceType ∧ a.sourceId = sourceId) := by
  rintro ⟨htype, hid⟩
  refine List.find?_eq_none.mp h a (List.mem_reverse.mpr hmem) ?_
  simp only [htype, hid, decide_true, Bool.and_self, Bool.true_and]
  exact Option.isNone_iff_eq_none.mpr hopen

/-- An occurrence that is no worse counts for the open alert. -/
lemma good_count (h : Good s) (hmem : existing ∈ s.alerts.rows)
    (hle : c.severity.order ≤ existing.severity.order) : Good (s.count existing.id c.severity) := by
  refine ⟨h.single, fun a ha hopen => ?_, fun a ha hopen r hr => ?_⟩
  · exact mem_raised_count.mpr (.inl (h.raised a ha hopen))
  · rcases mem_raised_count.mp hr with hr | ⟨hid, rfl⟩
    · exact h.highest a ha hopen r hr
    · rw [Table.eq_of_mem ha hmem hid]
      exact hle

lemma good_create_iff (h : Good s) : Good (write s now (.creating c)).1 ↔
    ∀ a ∈ s.alerts.rows, a.Open → ¬ a.SameSource (c.row now s.alerts.next) := by
  have hrows : (write s now (.creating c)).1.alerts.rows =
      s.alerts.rows ++ [c.row now s.alerts.next] := rfl
  have hold : ∀ a ∈ s.alerts.rows, a.id ≠ s.alerts.next := by
    intro a ha
    have hlt := s.alerts.fresh a ha
    omega
  have hraised : ∀ a ∈ s.alerts.rows,
      (write s now (.creating c)).1.raised a.id = s.raised a.id :=
    fun a ha => if_neg (hold a ha)
  have hnew : (write s now (.creating c)).1.raised s.alerts.next = [c.severity] := if_pos rfl
  constructor
  · intro hgood a ha hopen hsame
    have heq := hgood.single a (by rw [hrows]; exact List.mem_append_left _ ha)
      (c.row now s.alerts.next)
      (by rw [hrows]; exact List.mem_append_right _ (List.mem_singleton.mpr rfl))
      hopen rfl hsame
    exact hold a ha (congrArg Alert.id heq)
  · intro hnone
    constructor
    · intro a ha b hb hopen hopen' hsame
      rw [hrows] at ha hb
      rcases List.mem_append.mp ha with ha | ha
      · rcases List.mem_append.mp hb with hb | hb
        · exact h.single a ha b hb hopen hopen' hsame
        · rw [List.mem_singleton.mp hb] at hsame
          exact absurd hsame (hnone a ha hopen)
      · rcases List.mem_append.mp hb with hb | hb
        · rw [List.mem_singleton.mp ha] at hsame
          exact absurd ⟨hsame.1.symm, hsame.2.symm⟩ (hnone b hb hopen')
        · rw [List.mem_singleton.mp ha, List.mem_singleton.mp hb]
    · intro a ha hopen
      rw [hrows] at ha
      rcases List.mem_append.mp ha with ha | ha
      · rw [hraised a ha]
        exact h.raised a ha hopen
      · rw [List.mem_singleton.mp ha]
        show c.severity ∈ (write s now (.creating c)).1.raised s.alerts.next
        rw [hnew]
        exact List.mem_singleton.mpr rfl
    · intro a ha hopen r hr
      rw [hrows] at ha
      rcases List.mem_append.mp ha with ha | ha
      · rw [hraised a ha] at hr
        exact h.highest a ha hopen r hr
      · rw [List.mem_singleton.mp ha] at hr ⊢
        have hr' : r ∈ (write s now (.creating c)).1.raised s.alerts.next := hr
        rw [hnew] at hr'
        rw [List.mem_singleton.mp hr']
        exact le_rfl

lemma good_raise_iff (h : Good s) : Good (write s now (.raising c existing)).1 ↔
    ∀ a ∈ s.alerts.get? existing.id, a.Open → a.severity.order ≤ c.severity.order := by
  have hrows : (write s now (.raising c existing)).1.alerts.rows =
      s.alerts.rows.map fun a => if a.id = existing.id then raiseUp c existing a else a := rfl
  have hraised : (write s now (.raising c existing)).1.raised =
      (s.count existing.id c.severity).raised := rfl
  -- raising changes the severity, never what the alert is about
  have hkeep : ∀ a : Alert, (if a.id = existing.id then raiseUp c existing a else a).id = a.id ∧
      ((if a.id = existing.id then raiseUp c existing a else a).Open ↔ a.Open) ∧
      (if a.id = existing.id then raiseUp c existing a else a).sourceType = a.sourceType ∧
      (if a.id = existing.id then raiseUp c existing a else a).sourceId = a.sourceId := by
    intro a
    split
    · exact ⟨rfl, Iff.rfl, rfl, rfl⟩
    · exact ⟨rfl, Iff.rfl, rfl, rfl⟩
  constructor
  · intro hgood a hget hopen
    have hmem : a ∈ s.alerts.rows := Serial.mem_of_get? hget
    have hid : a.id = existing.id := Serial.pk_of_get? hget
    have hafter : raiseUp c existing a ∈ (write s now (.raising c existing)).1.alerts.rows := by
      rw [hrows]
      exact List.mem_map.mpr ⟨a, hmem, if_pos hid⟩
    -- the severity it had was raised for it, so the new one is at least that
    refine hgood.highest _ hafter hopen a.severity ?_
    rw [hraised]
    exact mem_raised_count.mpr (.inl (h.raised a hmem hopen))
  · intro hle
    constructor
    · intro a' ha' b' hb' hopen hopen' hsame
      rw [hrows] at ha' hb'
      obtain ⟨a, ha, rfl⟩ := List.mem_map.mp ha'
      obtain ⟨b, hb, rfl⟩ := List.mem_map.mp hb'
      obtain ⟨-, haopen, hatype, haid⟩ := hkeep a
      obtain ⟨-, hbopen, hbtype, hbid⟩ := hkeep b
      have heq : a = b := by
        refine h.single a ha b hb (haopen.mp hopen) (hbopen.mp hopen') ⟨?_, ?_⟩
        · rw [← hatype, ← hbtype]
          exact hsame.1
        · rw [← haid, ← hbid]
          exact hsame.2
      rw [heq]
    · intro a' ha' hopen
      rw [hrows] at ha'
      obtain ⟨a, ha, rfl⟩ := List.mem_map.mp ha'
      rw [hraised, (hkeep a).1]
      split
      · rename_i hid
        exact mem_raised_count.mpr (.inr ⟨hid, rfl⟩)
      · rename_i hid
        rw [if_neg hid] at hopen
        exact mem_raised_count.mpr (.inl (h.raised a ha hopen))
    · intro a' ha' hopen r hr
      rw [hrows] at ha'
      obtain ⟨a, ha, rfl⟩ := List.mem_map.mp ha'
      have hopen' : a.Open := (hkeep a).2.1.mp hopen
      rw [hraised, (hkeep a).1] at hr
      split
      · rename_i hid
        show r.order ≤ c.severity.order
        rcases mem_raised_count.mp hr with hr | ⟨-, rfl⟩
        · -- the row's severity of now, not the one read, bounds what was raised before
          have hstored := hle a (hid ▸ Serial.get?_of_mem ha) hopen'
          exact (h.highest a ha hopen' r hr).trans hstored
        · exact le_rfl
      · rename_i hid
        rcases mem_raised_count.mp hr with hr | ⟨heq, -⟩
        · exact h.highest a ha hopen' r hr
        · exact absurd heq hid

lemma good_close (h : Good s) {rows : List Alert} {acknowledgedBy : Option ℕ} {note : String} :
    Good (write s now (.closing rows acknowledgedBy note)).1 := by
  cases rows with
  | nil => exact h
  | cons a rows =>
    rw [write]
    dsimp only
    split
    · exact h
    · have hopen : ∀ b' ∈ s.alerts.rows.map (fun b =>
          if b.id = a.id then close acknowledgedBy note now b else b), b'.Open →
          b' ∈ s.alerts.rows := by
        intro b' hb' hopen
        obtain ⟨b, hb, rfl⟩ := List.mem_map.mp hb'
        split at hopen
        · cases hopen
        · rename_i hid
          rw [if_neg hid]
          exact hb
      constructor
      · intro x hx y hy hxo hyo
        exact h.single x (hopen x hx hxo) y (hopen y hy hyo) hxo hyo
      · intro x hx hxo
        exact h.raised x (hopen x hx hxo) hxo
      · intro x hx hxo
        exact h.highest x (hopen x hx hxo) hxo

/-- A step keeps the alerts in order just when it is careful. -/
lemma good_step_iff (h : Good s) (e : Event) : Good (step s e) ↔ Careful s e := by
  cases e with
  | raise caller c =>
    refine iff_of_true ?_ trivial
    rw [step]
    split
    · split
      · split
        · exact good_goOn_iff.mpr h
        · rename_i existing hfound
          split
          · exact good_goOn_iff.mpr h
          · rename_i hworse
            exact good_goOn_iff.mpr (good_count h (openFor_eq_some hfound).1 (by omega))
      · exact good_goOn_iff.mpr h
    · exact good_goOn_iff.mpr h
  | clear caller sourceType sourceId kinds note =>
    exact iff_of_true (good_goOn_iff.mpr h) trivial
  | acknowledge caller id acknowledgedBy note =>
    refine iff_of_true ?_ trivial
    rw [step]
    split
    · exact h
    · exact good_goOn_iff.mpr h
  | write caller now =>
    rw [step, Careful]
    cases hdoing : s.callers caller with
    | none => exact iff_of_true h trivial
    | some doing =>
      dsimp only
      rw [good_goOn_iff]
      cases doing with
      | creating c => exact good_create_iff h
      | raising c existing => exact good_raise_iff h
      | closing rows acknowledgedBy note => exact iff_of_true (good_close h) trivial

lemma guarded_alone (hnamed : c.named = true) :
    Transition.Guarded step Careful s [.raise caller c, .write caller now] := by
  refine ⟨trivial, ?_, trivial⟩
  have htruthy : c.sourceId.truthy = true := by
    rw [Raise.named, Bool.and_eq_true] at hnamed
    exact hnamed.2
  rw [step]
  split
  · cases hfound : openFor s.alerts c.sourceType c.sourceId.str with
    | none =>
      simp only [Careful, State.goOn, if_true]
      intro a ha hopen hsame
      refine openFor_eq_none hfound ha hopen ⟨hsame.1, hsame.2.trans ?_⟩
      exact if_pos htruthy
    | some existing =>
      dsimp only
      split
      · rename_i hworse
        simp only [Careful, State.goOn, if_true]
        intro a hget _
        have hsame : a = existing :=
          Table.eq_of_mem (Serial.mem_of_get? hget) (openFor_eq_some hfound).1
            (Serial.pk_of_get? hget)
        rw [hsame]
        omega
      · simp only [Careful, State.goOn, if_true]
  · simp only [Careful, State.goOn, if_true]

end Step

/-- Along a run there is at most one open alert for each source, with the highest severity raised
since it was opened, just when who creates an alert finds none open by then and who raises one up
finds it no higher; a call for a named source that nothing comes between does. -/
theorem one_open_alert_iff {s : State} (hs : Good s) (events : List Event) :
    ((∀ before, before <+: events → Good (run s before)) ↔
        Transition.Guarded step Careful s events) ∧
      ∀ (s : State) (caller now : ℕ) (c : Raise), c.named = true →
        Transition.Guarded step Careful s [.raise caller c, .write caller now] := by
  constructor
  · constructor
    · intro hgood
      rw [Transition.guarded_iff_forall_prefix]
      intro before e hbefore
      have hthen : Good (run s before) :=
        hgood before ((List.prefix_append before [e]).trans hbefore)
      have hafter := hgood (before ++ [e]) hbefore
      rw [run, Transition.run_append] at hafter
      exact (good_step_iff hthen e).mp hafter
    · intro hguarded before hbefore
      exact Transition.invariant_of_guarded (I := Good)
        (fun s e hcareful h => (good_step_iff h e).mpr hcareful) hs
        (hguarded.of_prefix hbefore)
  · intro s caller now c hnamed
    exact guarded_alone hnamed

def quietRoom : State := ⟨.empty, fun _ => [], fun _ => none⟩

lemma good_quietRoom : Good quietRoom where
  single := fun a ha => by cases ha
  raised := fun a ha => by cases ha
  highest := fun a ha => by cases ha

/-- A signal about a trip, of some severity. -/
def signal (severity : AlertSeverity) : Raise where
  kind := "safety_signal"
  title := "Long stop"
  severity := severity
  payload := []
  sourceType := "safety_incident"
  sourceId := .number 7
  city := none

/-- A warning that gets worse, one call after the other. -/
theorem one_alert_that_got_worse :
    Good (run quietRoom [.raise 0 (signal .warning), .write 0 1, .raise 1 (signal .critical),
      .write 1 2]) := by
  refine (one_open_alert_iff good_quietRoom _).1.mpr ?_ _ (List.prefix_refl _)
  refine ⟨trivial, ?_, trivial, ?_, trivial⟩
  · intro a ha
    cases ha
  · intro a ha _
    cases ha
    exact show AlertSeverity.warning.order ≤ AlertSeverity.critical.order by decide

/-- Two callers that both read before either writes: two open alerts for one source; and when one
is open already, the milder write comes last and takes back the other's severity. -/
theorem two_alerts_for_one_source :
    (¬ Good (run quietRoom [.raise 0 (signal .warning), .raise 1 (signal .critical), .write 0 1,
        .write 1 2])) ∧
      ¬ Good (run quietRoom [.raise 0 (signal .info), .write 0 1, .raise 0 (signal .critical),
        .raise 1 (signal .warning), .write 0 2, .write 1 3]) := by
  constructor
  · intro hgood
    have hsame := hgood.single ((signal .warning).row 1 0) (List.mem_cons_self)
      ((signal .critical).row 2 1) (List.mem_cons_of_mem _ List.mem_cons_self) rfl rfl ⟨rfl, rfl⟩
    have hid : 0 = 1 := congrArg Alert.id hsame
    cases hid
  · intro hgood
    have hworst := hgood.highest
      (raiseUp (signal .warning) ((signal .info).row 1 0)
        (raiseUp (signal .critical) ((signal .info).row 1 0) ((signal .info).row 1 0)))
      List.mem_cons_self rfl .critical
      (List.mem_cons_of_mem _ List.mem_cons_self)
    revert hworst
    decide

end SaaradhiGo.AlertRaising
