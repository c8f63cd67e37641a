/-
The runs that settle the trips that were put off.

A run of `retry_all` goes through the first of the open alerts, oldest first.  A trip that a rule
governs by now is settled by the run that reaches it, and its alert is cleared; each run comes
nearer to the trip as long as not all of the alerts it goes through are of trips without a rule
(`alert_until_settled`).  Two hundred of these in front of it keep it waiting for ever, and a call
that settles the trip without retrying leaves the alert open (`settled_trip_keeps_its_alert`).
-/
import SaaradhiGo.Payments.Deferred
import Mathlib.Data.List.Perm.Subperm

namespace SaaradhiGo.Unsettled

open Commission

section Steps

variable {m : Market} {s s' : State} {worker trip : ℕ} {t : Trip} {x : Worker} {task : Task}
  {retry fails : Bool}

/-! ## As time goes on -/

/-- Trips stay as they are, settlements are not taken back, and no alert is opened again. -/
structure Later (s s' : State) : Prop where
  trips : ∀ id t, s.trips.get? id = some t → s'.trips.get? id = some t
  settled : ∀ id ∈ s.settled, id ∈ s'.settled
  next : s.alerts.next ≤ s'.alerts.next
  older : ∀ a ∈ openAlerts s'.alerts, a.id < s.alerts.next → a ∈ openAlerts s.alerts

lemma Later.refl (s : State) : Later s s := ⟨fun _ _ h => h, fun _ h => h, le_rfl, fun _ h _ => h⟩

lemma Later.trans {s'' : State} (h : Later s s') (h' : Later s' s'') : Later s s'' := by
  constructor
  · exact fun id t ht => h'.trips id t (h.trips id t ht)
  · exact fun id hid => h'.settled id (h.settled id hid)
  · exact h.next.trans h'.next
  · exact fun a ha hlt => h.older a (h'.older a ha (hlt.trans_le h.next)) hlt

structure SameTables (s s' : State) : Prop where
  trips : s'.trips = s.trips
  books : s'.books = s.books
  settled : s'.settled = s.settled
  alerts : s'.alerts = s.alerts

lemma SameTables.later (h : SameTables s s') : Later s s' := by
  constructor
  · rw [h.trips]
    exact fun _ _ h => h
  · rw [h.settled]
    exact fun _ h => h
  · rw [h.alerts]
  · rw [h.alerts]
    exact fun _ h _ => h

lemma sameTables_settleOrDefer : SameTables s (settleOrDefer m s worker t retry) := by
  rw [settleOrDefer]
  split
  · split
    · exact ⟨rfl, rfl, rfl, rfl⟩
    · exact ⟨rfl, rfl, rfl, rfl⟩
  · exact ⟨rfl, rfl, rfl, rfl⟩

lemma sameTables_retryTrip : SameTables s (retryTrip m s worker t) := by
  rw [retryTrip]
  split
  · exact ⟨rfl, rfl, rfl, rfl⟩
  · exact sameTables_settleOrDefer

lemma later_perform : Later s (perform s worker fails task) := by
  cases task with
  | credit trip retry =>
    exact ⟨fun _ _ h => h, fun _ h => mem_note.mpr (.inr h), le_rfl, fun _ h _ => h⟩
  | look trip => exact SameTables.later ⟨rfl, rfl, rfl, rfl⟩
  | create trip =>
    rw [perform]
    split
    · exact SameTables.later ⟨rfl, rfl, rfl, rfl⟩
    · refine ⟨fun _ _ h => h, fun _ h => h, Nat.le_succ _, fun a ha hlt => ?_⟩
      have hopen : a ∈ openAlerts (s.alerts.insert (raised trip) fun _ => rfl) := ha
      rw [openAlerts_insert, List.mem_append, List.mem_singleton] at hopen
      rcases hopen with hopen | rfl
      · exact hopen
      · exact absurd hlt (lt_irrefl _)
  | find trip why => exact SameTables.later ⟨rfl, rfl, rfl, rfl⟩
  | clear trip alert why =>
    exact ⟨fun _ _ h => h, fun _ h => h, le_rfl, fun a ha _ => (mem_openAlerts_clear.mp ha).1⟩

lemma later_step (m : Market) (s : State) (e : Event) : Later s (step m s e) := by
  cases e with
  | complete t =>
    rw [step]
    split
    · exact .refl s
    · next hnew =>
      exact ⟨get?_put_of_new hnew, fun _ h => h, le_rfl, fun _ h _ => h⟩
  | rules books => exact ⟨fun _ _ h => h, fun _ h => h, le_rfl, fun _ h _ => h⟩
  | settle worker trip =>
    rw [step]
    split
    · exact sameTables_settleOrDefer.later
    · exact .refl s
  | retry worker trip =>
    rw [step]
    split
    · exact sameTables_retryTrip.later
    · exact .refl s
  | retryAll worker =>
    rw [step]
    split
    · exact SameTables.later ⟨rfl, rfl, rfl, rfl⟩
    · exact .refl s
  | next worker fails =>
    rw [step]
    split
    · exact later_perform
    · exact .refl s
    · next trip queue _ _ =>
      have hpopped : Later s (s.resume worker ⟨none, queue⟩) :=
        SameTables.later ⟨rfl, rfl, rfl, rfl⟩
      dsimp only
      split
      · exact hpopped.trans (SameTables.later ⟨rfl, rfl, rfl, rfl⟩)
      · exact hpopped.trans sameTables_retryTrip.later

lemma later_run (m : Market) (s : State) (events : List Event) : Later s (run m s events) := by
  induction events generalizing s with
  | nil => exact .refl s
  | cons e events ih => exact (later_step m s e).trans (ih _)

/-! ## A run of the task -/

/-- A rule change leaves every trip governed that was. -/
def Keeps (m : Market) (s : State) : Event → Prop
  | .rules books => ∀ t ∈ s.trips.rows, governed m s.books t = true → governed m books t = true
  | _ => True

/-- The worker has the trip before it, or is at it, or is done with it: the trip is settled and its
alert cleared. -/
def Handled (s : State) (worker trip : ℕ) : Prop :=
  trip ∈ (s.workers worker).queue ∨
    (s.workers worker).task = some (.credit trip true) ∨
    trip ∈ s.settled ∧
      ((∃ why, (s.workers worker).task = some (.find trip why)) ∨
        (∃ alert why, (s.workers worker).task = some (.clear trip alert why) ∧
          ∀ a ∈ openAlerts s.alerts, a.sourceId = trip → a.id = alert) ∨
        ∀ a ∈ openAlerts s.alerts, a.sourceId ≠ trip)

/-- The trip is to be settled, and a rule governs it. -/
structure Due (m : Market) (s : State) (t : Trip) : Prop where
  row : s.trips.get? t.id = some t
  payable : t.payable = true
  rule : governed m s.books t = true

lemma books_perform : (perform s worker fails task).books = s.books := by
  cases task with
  | credit trip retry => rfl
  | look trip => rfl
  | create trip =>
    rw [perform]
    split
    · rfl
    · rfl
  | find trip why => rfl
  | clear trip alert why => rfl

lemma books_step (m : Market) (s : State) (e : Event) :
    (step m s e).books = s.books ∨ e = .rules (step m s e).books := by
  cases e with
  | complete t =>
    rw [step]
    split
    · exact .inl rfl
    · exact .inl rfl
  | rules books => exact .inr rfl
  | settle worker trip =>
    rw [step]
    split
    · exact .inl sameTables_settleOrDefer.books
    · exact .inl rfl
  | retry worker trip =>
    rw [step]
    split
    · exact .inl sameTables_retryTrip.books
    · exact .inl rfl
  | retryAll worker =>
    rw [step]
    split
    · exact .inl rfl
    · exact .inl rfl
  | next worker fails =>
    rw [step]
    split
    · exact .inl books_perform
    · exact .inl rfl
    · dsimp only
      split
      · exact .inl rfl
      · exact .inl sameTables_retryTrip.books

lemma due_step {e : Event} (h : Due m s t) (hkeeps : Keeps m s e) : Due m (step m s e) t := by
  refine ⟨(later_step m s e).trips t.id t h.row, h.payable, ?_⟩
  rcases books_step m s e with hbooks | hrules
  · rw [hbooks]
    exact h.rule
  · rw [hrules] at hkeeps
    exact hkeeps t (Table.mem_of_get? h.row).1 h.rule

/-- What a step does to the alerts: nothing, or a call creates one, or clears one. -/
lemma alerts_step (m : Market) (s : State) (e : Event) :
    (step m s e).alerts = s.alerts ∨
      (∃ worker trip, e = .next worker false ∧ (s.workers worker).task = some (.create trip) ∧
        (step m s e).alerts = s.alerts.insert (raised trip) fun _ => rfl) ∨
      ∃ worker fails trip alert why, e = .next worker fails ∧
        (s.workers worker).task = some (.clear trip alert why) ∧
        (step m s e).alerts = s.alerts.updateWhere (fun a => a.id = alert ∧ a.isOpen = true)
          (Alert.clear why) fun _ => rfl := by
  cases e with
  | complete t =>
    rw [step]
    split
    · exact .inl rfl
    · exact .inl rfl
  | rules books => exact .inl rfl
  | settle worker trip =>
    rw [step]
    split
    · exact .inl sameTables_settleOrDefer.alerts
    · exact .inl rfl
  | retry worker trip =>
    rw [step]
    split
    · exact .inl sameTables_retryTrip.alerts
    · exact .inl rfl
  | retryAll worker =>
    rw [step]
    split
    · exact .inl rfl
    · exact .inl rfl
  | next worker fails =>
    cases htask : (s.workers worker).task with
    | none =>
      rw [step, htask]
      cases hqueue : (s.workers worker).queue with
      | nil => exact .inl rfl
      | cons trip queue =>
        dsimp only
        split
        · exact .inl rfl
        · exact .inl sameTables_retryTrip.alerts
    | some task =>
      have hstep : step m s (.next worker fails) = perform s worker fails task := by
        rw [step, htask]
      rw [hstep]
      cases task with
      | create trip =>
        cases fails with
        | true => exact .inl rfl
        | false => exact .inr (.inl ⟨worker, trip, rfl, htask, rfl⟩)
      | clear trip alert why =>
        exact .inr (.inr ⟨worker, fails, trip, alert, why, rfl, htask, rfl⟩)
      | credit trip retry => exact .inl rfl
      | look trip => exact .inl rfl
      | find trip why => exact .inl rfl

lemma open_of_step {e : Event} {a : Alert} (hcareful : Careful s e)
    (ha : a ∈ openAlerts (step m s e).alerts) (hsettled : a.sourceId ∈ s.settled) :
    a ∈ openAlerts s.alerts := by
  rcases alerts_step m s e with halerts | ⟨worker, trip, rfl, htask, halerts⟩ |
    ⟨worker, fails, trip, alert, why, rfl, htask, halerts⟩
  · rwa [halerts] at ha
  · rw [Careful, htask] at hcareful
    rw [halerts, openAlerts_insert, List.mem_append, List.mem_singleton] at ha
    rcases ha with ha | rfl
    · exact ha
    · exact absurd hsettled hcareful.2.1
  · rw [halerts] at ha
    exact (mem_openAlerts_clear.mp ha).1

lemma open_or_settled_step {e : Event} {a : Alert} (h : Sound s)
    (ha : a ∈ openAlerts s.alerts) :
    a ∈ openAlerts (step m s e).alerts ∨ a.sourceId ∈ s.settled := by
  rcases alerts_step m s e with halerts | ⟨worker, trip, rfl, htask, halerts⟩ |
    ⟨worker, fails, trip, alert, why, rfl, htask, halerts⟩
  · rw [halerts]
    exact .inl ha
  · rw [halerts, openAlerts_insert]
    exact .inl (List.mem_append_left _ ha)
  · rw [halerts]
    by_cases hid : a.id = alert
    · -- the one that is cleared is of a trip that waits for no settlement
      obtain ⟨hexcused, b, hb, hidb, hsource⟩ := h.placed worker _ htask
      have hmem : a ∈ s.alerts.rows := (mem_openAlerts.mp ha).1
      have hab : a = b := Table.eq_of_mem hmem hb (hid.trans hidb.symm)
      have htrip : a.sourceId = trip := by rw [hab, hsource]
      exact .inr (htrip ▸ hexcused.settled (htrip ▸ h.owing a hmem))
    · exact .inl (mem_openAlerts_clear.mpr ⟨ha, hid⟩)

/-- The worker whose step it is. -/
def Event.actor : Event → Option ℕ
  | .settle worker _ => some worker
  | .retry worker _ => some worker
  | .retryAll worker => some worker
  | .next worker _ => some worker
  | _ => none

lemma workers_settleOrDefer {k : ℕ} (h : k ≠ worker) :
    (settleOrDefer m s worker t retry).workers k = s.workers k := by
  rw [settleOrDefer]
  split
  · split
    · exact workers_resume_of_ne h
    · exact workers_resume_of_ne h
  · exact workers_resume_of_ne h

lemma workers_retryTrip {k : ℕ} (h : k ≠ worker) :
    (retryTrip m s worker t).workers k = s.workers k := by
  rw [retryTrip]
  split
  · exact workers_resume_of_ne h
  · exact workers_settleOrDefer h

/-- The others do not move. -/
lemma workers_step {e : Event} {k : ℕ} (h : e.actor ≠ some k) :
    (step m s e).workers k = s.workers k := by
  have hne : ∀ {worker : ℕ}, some worker ≠ some k → k ≠ worker := by
    rintro worker hne rfl
    exact hne rfl
  cases e with
  | complete t =>
    rw [step]
    split
    · rfl
    · rfl
  | rules books => rfl
  | settle worker trip =>
    rw [step]
    split
    · exact workers_settleOrDefer (hne h)
    · rfl
  | retry worker trip =>
    rw [step]
    split
    · exact workers_retryTrip (hne h)
    · rfl
  | retryAll worker =>
    rw [step]
    split
    · exact workers_resume_of_ne (hne h)
    · rfl
  | next worker fails =>
    have hk : k ≠ worker := hne h
    rw [step]
    cases (s.workers worker).task with
    | none =>
      cases (s.workers worker).queue with
      | nil => rfl
      | cons trip queue =>
        dsimp only
        split
        · exact (workers_resume_of_ne hk).trans (workers_resume_of_ne hk)
        · exact (workers_retryTrip hk).trans (workers_resume_of_ne hk)
    | some task =>
      cases task with
      | create trip =>
        cases fails with
        | true => exact workers_resume_of_ne hk
        | false => exact workers_resume_of_ne hk
      | credit trip retry => exact workers_resume_of_ne hk
      | look trip => exact workers_resume_of_ne hk
      | find trip why => exact workers_resume_of_ne hk
      | clear trip alert why => exact workers_resume_of_ne hk

def Done (s : State) (trip : ℕ) : Prop :=
  trip ∈ s.settled ∧ ∀ a ∈ openAlerts s.alerts, a.sourceId ≠ trip

lemma done_step {e : Event} (h : Done s trip) (hcareful : Careful s e) :
    Done (step m s e) trip := by
  refine ⟨(later_step m s e).settled trip h.1, fun a ha hsource => ?_⟩
  exact h.2 a (open_of_step hcareful ha (hsource ▸ h.1)) hsource

lemma Done.handled (h : Done s trip) : Handled s worker trip := .inr (.inr ⟨h.1, .inr (.inr h.2)⟩)

lemma Handled.done (h : Handled s worker trip) (hfree : s.free worker = true) : Done s trip := by
  rw [State.free, Bool.and_eq_true, Option.isNone_iff_eq_none, List.isEmpty_iff] at hfree
  obtain ⟨htask, hqueue⟩ := hfree
  rcases h with hmem | hcredit | ⟨hsettled, ⟨why, hfind⟩ | ⟨alert, why, hclear, -⟩ | hnone⟩
  · rw [hqueue] at hmem
    cases hmem
  · rw [htask] at hcredit
    cases hcredit
  · rw [htask] at hfind
    cases hfind
  · rw [htask] at hclear
    cases hclear
  · exact ⟨hsettled, hnone⟩

lemma queue_turn {new : Option Task} :
    ((s.turn worker new).workers worker).queue = (s.workers worker).queue := by
  rw [State.turn, workers_resume_self]

lemma task_turn {new : Option Task} : ((s.turn worker new).workers worker).task = new := by
  rw [State.turn, workers_resume_self]

lemma queue_perform :
    ((perform s worker fails task).workers worker).queue = (s.workers worker).queue := by
  cases task with
  | create trip =>
    cases fails with
    | true => exact queue_turn
    | false => exact queue_turn
  | credit trip retry => exact queue_turn
  | look trip => exact queue_turn
  | find trip why => exact queue_turn
  | clear trip alert why => exact queue_turn

lemma queue_retryTrip :
    ((retryTrip m s worker t).workers worker).queue = (s.workers worker).queue := by
  rw [retryTrip]
  split
  · exact queue_turn
  · rw [settleOrDefer]
    split
    · split
      · exact queue_turn
      · exact queue_turn
    · exact queue_turn

lemma Due.retryTrip (h : Due m s t) : Handled (retryTrip m s worker t) worker t.id := by
  rw [Unsettled.retryTrip]
  split
  · next hsettled =>
    exact .inr (.inr ⟨List.contains_iff_mem.mp hsettled, .inl ⟨_, task_turn⟩⟩)
  · rw [settleOrDefer, if_pos h.payable, if_pos h.rule]
    exact .inr (.inl task_turn)

lemma handled_perform (h : Sound s) (htask : (s.workers worker).task = some task)
    (hhandled : Handled s worker trip) (hcareful : Careful s (.next worker fails)) :
    Handled (step m s (.next worker fails)) worker trip := by
  have hstep : step m s (.next worker fails) = perform s worker fails task := by
    rw [step, htask]
  rcases hhandled with hmem | hcredit | ⟨hsettled, ⟨why, hfind⟩ | ⟨alert, why, hclear, honly⟩ |
    hnone⟩
  · rw [hstep]
    refine .inl ?_
    rw [queue_perform]
    exact hmem
  · cases htask.symm.trans hcredit
    rw [hstep]
    exact .inr (.inr ⟨mem_note.mpr (.inl rfl), .inl ⟨_, task_turn⟩⟩)
  · cases htask.symm.trans hfind
    rw [hstep]
    refine .inr (.inr ⟨hsettled, ?_⟩)
    cases hfound : openFor s.alerts trip with
    | none => exact .inr (.inr (openFor_eq_none.mp hfound))
    | some a =>
      obtain ⟨hopen, hsource⟩ := openFor_eq_some hfound
      refine .inr (.inl ⟨a.id, why, ?_, ?_⟩)
      · rw [Unsettled.perform.eq_def]
        dsimp only
        rw [task_turn, hfound]
        rfl
      · intro b hb hb'
        exact congrArg Alert.id (h.unique b hb a hopen (hb'.trans hsource.symm))
  · cases htask.symm.trans hclear
    rw [hstep]
    refine Done.handled ⟨hsettled, fun a ha hsource => ?_⟩
    obtain ⟨hopen, hid⟩ := mem_openAlerts_clear.mp ha
    exact hid (honly a hopen hsource)
  · exact (done_step ⟨hsettled, hnone⟩ hcareful).handled

lemma handled_pop {queue : List ℕ} (hdue : Due m s t) (hmem : t.id ∈ trip :: queue) :
    Handled (match s.trips.get? trip with
      | none => (s.resume worker ⟨none, queue⟩).turn worker
          (some (.find trip "the trip no longer exists"))
      | some u => retryTrip m (s.resume worker ⟨none, queue⟩) worker u) worker t.id := by
  have hqueue : ((s.resume worker ⟨none, queue⟩).workers worker).queue = queue := by
    rw [workers_resume_self]
  by_cases htrip : t.id = trip
  · have hdue' : Due m (s.resume worker ⟨none, queue⟩) t := ⟨hdue.row, hdue.payable, hdue.rule⟩
    rw [← htrip, hdue.row]
    exact hdue'.retryTrip
  · have hmem' : t.id ∈ queue := (List.mem_cons.mp hmem).resolve_left htrip
    refine .inl ?_
    cases s.trips.get? trip with
    | none =>
      dsimp only
      rw [queue_turn, hqueue]
      exact hmem'
    | some u =>
      dsimp only
      rw [queue_retryTrip, hqueue]
      exact hmem'

lemma handled_step {e : Event} (h : Sound s) (hdue : Due m s t) (hcareful : Careful s e)
    (hhandled : Handled s worker t.id) : Handled (step m s e) worker t.id := by
  by_cases hactor : e.actor = some worker
  · by_cases hfree : s.free worker = true
    · exact (done_step (hhandled.done hfree) hcareful).handled
    · cases e with
      | complete u => cases hactor
      | rules books => cases hactor
      | settle k trip =>
        cases hactor
        rw [step]
        split
        · next hf _ => exact absurd hf hfree
        · exact hhandled
      | retry k trip =>
        cases hactor
        rw [step]
        split
        · next hf _ => exact absurd hf hfree
        · exact hhandled
      | retryAll k =>
        cases hactor
        rw [step, if_neg hfree]
        exact hhandled
      | next k fails =>
        cases hactor
        cases htask : (s.workers worker).task with
        | some task => exact handled_perform h htask hhandled hcareful
        | none =>
          cases hqueue : (s.workers worker).queue with
          | nil =>
            rw [step, htask, hqueue]
            exact hhandled
          | cons trip queue =>
            rcases hhandled with hmem | hcredit | ⟨hsettled, ⟨why, hfind⟩ |
              ⟨alert, why, hclear, -⟩ | hnone⟩
            · rw [step, htask, hqueue]
              rw [hqueue] at hmem
              exact handled_pop hdue hmem
            · rw [htask] at hcredit
              cases hcredit
            · rw [htask] at hfind
              cases hfind
            · rw [htask] at hclear
              cases hclear
            · exact (done_step ⟨hsettled, hnone⟩ hcareful).handled
  · -- another worker's step
    have hsame := workers_step (m := m) (s := s) hactor
    rcases hhandled with hmem | hcredit | ⟨hsettled, hrest⟩
    · exact .inl (by rwa [hsame])
    · exact .inr (.inl (by rwa [hsame]))
    · have hold : ∀ a ∈ openAlerts (step m s e).alerts, a.sourceId = t.id →
          a ∈ openAlerts s.alerts := by
        intro a ha hsource
        exact open_of_step hcareful ha (hsource ▸ hsettled)
      refine .inr (.inr ⟨(later_step m s e).settled _ hsettled, ?_⟩)
      rw [hsame]
      rcases hrest with hfind | ⟨alert, why, hclear, honly⟩ | hnone
      · exact .inl hfind
      · exact .inr (.inl ⟨alert, why, hclear, fun a ha hsource =>
          honly a (hold a ha hsource) hsource⟩)
      · exact .inr (.inr fun a ha hsource => hnone a (hold a ha hsource) hsource)

/-! ## Run after run -/

/-- The condition on a step, with the rules. -/
def Steady (m : Market) (s : State) (e : Event) : Prop := Careful s e ∧ Keeps m s e

def ahead (s : State) (a : Alert) : List Alert :=
  (openAlerts s.alerts).filter fun b => b.id < a.id

def ruled (m : Market) (s : State) (a : Alert) : Bool :=
  (s.trips.get? a.sourceId).any fun t => governed m s.books t

/-- The older open alerts whose trips no rule governs. -/
def stuck (m : Market) (s : State) (a : Alert) : List Alert :=
  (ahead s a).filter fun b => !ruled m s b

/-- A run of `retry_all` by a worker, with what else happens before it and while it lasts. -/
structure Turn where
  before : List Event
  worker : ℕ
  meanwhile : List Event

def Turn.events (turn : Turn) : List Event := .retryAll turn.worker :: turn.meanwhile

def Turn.all (turn : Turn) : List Event := turn.before ++ turn.events

/-- The runs begin and come to their ends, the steps are steady, and each begins with fewer older
alerts of trips without a rule than it goes through. -/
def Turns (m : Market) (a : Alert) : State → List Turn → Prop
  | _, [] => True
  | s, turn :: turns =>
      Transition.Guarded (step m) (Steady m) s turn.all ∧
        (run m s turn.before).free turn.worker = true ∧
        (run m s turn.all).free turn.worker = true ∧
        (stuck m (run m s turn.before) a).length < retryBatch ∧
        Turns m a (run m s turn.all) turns

lemma due_run {events : List Event} (h : Due m s t)
    (hsteady : Transition.Guarded (step m) (Steady m) s events) : Due m (run m s events) t :=
  Transition.invariant_of_guarded (I := fun s => Due m s t)
    (fun _ _ hok h => due_step h hok.2) h hsteady

lemma sound_run {events : List Event} (h : Sound s)
    (hsteady : Transition.Guarded (step m) (Steady m) s events) : Sound (run m s events) :=
  Transition.invariant_of_guarded (I := Sound) (fun s e hok h => sound_step m s e hok.1 h) h hsteady

lemma open_or_settled_run {events : List Event} {a : Alert} (h : Sound s)
    (ha : a ∈ openAlerts s.alerts)
    (hsteady : Transition.Guarded (step m) (Steady m) s events) :
    a ∈ openAlerts (run m s events).alerts ∨ a.sourceId ∈ (run m s events).settled := by
  have hrun := Transition.invariant_of_guarded
    (I := fun s => Sound s ∧ (a ∈ openAlerts s.alerts ∨ a.sourceId ∈ s.settled)) ?_
    ⟨h, .inl ha⟩ hsteady
  · exact hrun.2
  · rintro s e hok ⟨hsound, hopen⟩
    refine ⟨sound_step m s e hok.1 hsound, ?_⟩
    rcases hopen with hopen | hsettled
    · rcases open_or_settled_step hsound hopen with hopen | hsettled
      · exact .inl hopen
      · exact .inr ((later_step m s e).settled _ hsettled)
    · exact .inr ((later_step m s e).settled _ hsettled)

/-- A trip on the list of a run is settled when the run has come to its end, and its alert is
cleared. -/
lemma done_of_listed {turn : Turn} (h : Sound s) (hdue : Due m s t)
    (hfree : s.free turn.worker = true) (hlisted : t.id ∈ batch s.alerts)
    (hsteady : Transition.Guarded (step m) (Steady m) s turn.events)
    (hend : (run m s turn.events).free turn.worker = true) : Done (run m s turn.events) t.id := by
  obtain ⟨hok, hrest⟩ := hsteady
  have hbegun : Handled (step m s (.retryAll turn.worker)) turn.worker t.id := by
    refine .inl ?_
    rw [step, if_pos hfree, workers_resume_self]
    exact hlisted
  have hrun := Transition.invariant_of_guarded
    (I := fun s => Sound s ∧ Due m s t ∧ Handled s turn.worker t.id) ?_
    ⟨sound_step m s _ hok.1 h, due_step hdue hok.2, hbegun⟩ hrest
  · exact hrun.2.2.done hend
  · rintro s e hok ⟨hsound, hdue, hhandled⟩
    exact ⟨sound_step m s e hok.1 hsound, due_step hdue hok.2,
      handled_step hsound hdue hok.1 hhandled⟩

lemma take_sublist_ahead {a : Alert} (h : Sound s) (ha : a ∈ openAlerts s.alerts)
    (hlate : a ∉ (openAlerts s.alerts).take retryBatch) :
    ((openAlerts s.alerts).take retryBatch).Sublist (ahead s a) ∧
      ((openAlerts s.alerts).take retryBatch).length = retryBatch := by
  have hsorted : (openAlerts s.alerts).Pairwise fun a b => a.id < b.id :=
    h.sorted.sublist List.filter_sublist
  have hdrop : a ∈ (openAlerts s.alerts).drop retryBatch := by
    rw [← List.take_append_drop retryBatch (openAlerts s.alerts), List.mem_append] at ha
    exact ha.resolve_left hlate
  rw [← List.take_append_drop retryBatch (openAlerts s.alerts), List.pairwise_append] at hsorted
  constructor
  · have hself : ((openAlerts s.alerts).take retryBatch).filter (fun b => b.id < a.id) =
        (openAlerts s.alerts).take retryBatch := by
      rw [List.filter_eq_self]
      intro b hb
      exact decide_eq_true (hsorted.2.2 b hb a hdrop)
    rw [← hself]
    exact (List.take_sublist _ _).filter _
  · have hlen : 0 < ((openAlerts s.alerts).drop retryBatch).length :=
      List.length_pos_of_mem hdrop
    rw [List.length_drop] at hlen
    rw [List.length_take]
    omega

lemma nodup_ahead {a : Alert} : (ahead s a).Nodup := by
  have hrows : s.alerts.rows.Nodup := s.alerts.table.nodup.of_map _
  exact (hrows.filter _).filter _

lemma ahead_subset {a : Alert} (hlater : Later s s') (ha : a ∈ openAlerts s.alerts) :
    ahead s' a ⊆ ahead s a := by
  intro b hb
  obtain ⟨hopen, hlt⟩ := List.mem_filter.mp hb
  refine List.mem_filter.mpr ⟨hlater.older b hopen ?_, hlt⟩
  have hnext := s.alerts.fresh a (mem_openAlerts.mp ha).1
  have hid : b.id < a.id := of_decide_eq_true hlt
  omega

lemma settled_or_fewer {turn : Turn} {a : Alert} (h : Sound s) (hdue : Due m s t)
    (ha : a ∈ openAlerts s.alerts) (hsource : a.sourceId = t.id)
    (hfree : s.free turn.worker = true)
    (hsteady : Transition.Guarded (step m) (Steady m) s turn.events)
    (hend : (run m s turn.events).free turn.worker = true)
    (hstuck : (stuck m s a).length < retryBatch) :
    t.id ∈ (run m s turn.events).settled ∨
      (ahead (run m s turn.events) a).length < (ahead s a).length := by
  by_cases hlisted : a ∈ (openAlerts s.alerts).take retryBatch
  · refine .inl (done_of_listed h hdue hfree ?_ hsteady hend).1
    rw [← hsource]
    exact List.mem_map_of_mem hlisted
  · right
    obtain ⟨hsub, hlen⟩ := take_sublist_ahead h ha hlisted
    -- one of those the run goes through is of a trip that a rule governs
    obtain ⟨b, hb, hruled⟩ : ∃ b ∈ (openAlerts s.alerts).take retryBatch,
        ruled m s b = true := by
      by_contra hnone
      have hall : ((openAlerts s.alerts).take retryBatch).filter (fun b => !ruled m s b) =
          (openAlerts s.alerts).take retryBatch := by
        rw [List.filter_eq_self]
        intro b hb
        rw [Bool.not_eq_true', Bool.eq_false_iff]
        exact fun hruled => hnone ⟨b, hb, hruled⟩
      have hle : ((openAlerts s.alerts).take retryBatch).length ≤ (stuck m s a).length := by
        rw [← hall]
        exact (hsub.filter _).length_le
      omega
    have hopen : b ∈ openAlerts s.alerts := List.mem_of_mem_take hb
    obtain ⟨u, hu, hpayable⟩ := h.owing b (mem_openAlerts.mp hopen).1
    have hsourceb : u.id = b.sourceId := Table.pk_of_get? hu
    have hdueb : Due m s u := by
      refine ⟨hsourceb.symm ▸ hu, hpayable, ?_⟩
      rw [ruled, Option.mem_def.mp hu] at hruled
      exact hruled
    have hdone : Done (run m s turn.events) u.id := by
      refine done_of_listed h hdueb hfree ?_ hsteady hend
      rw [hsourceb]
      exact List.mem_map_of_mem hb
    have hsubset := ahead_subset (later_run m s turn.events) ha
    have herase : ahead (run m s turn.events) a ⊆ (ahead s a).erase b := by
      intro c hc
      rw [nodup_ahead.mem_erase_iff]
      refine ⟨?_, hsubset hc⟩
      rintro rfl
      exact hdone.2 c (List.mem_of_mem_filter hc) hsourceb.symm
    have hle := (List.subperm_of_subset nodup_ahead herase).length_le
    rw [List.length_erase_of_mem (hsub.subset hb)] at hle
    have hpos := List.length_pos_of_mem (hsub.subset hb)
    omega

/-- The trip is settled within as many runs as there are alerts ahead of its own, and one. -/
lemma settled_of_turns {turns : List Turn} {a : Alert} (h : Sound s) (hdue : Due m s t)
    (ha : a ∈ openAlerts s.alerts) (hsource : a.sourceId = t.id) (hturns : Turns m a s turns)
    (hmany : (ahead s a).length < turns.length) :
    t.id ∈ (run m s (turns.flatMap Turn.all)).settled := by
  induction turns generalizing s with
  | nil => exact absurd hmany (Nat.not_lt_zero _)
  | cons turn turns ih =>
    obtain ⟨hsteady, hfree, hend, hstuck, hturns⟩ := hturns
    obtain ⟨hbefore, hevents⟩ := Transition.guarded_append.mp hsteady
    rw [List.flatMap_cons, run, Transition.run_append]
    have hlast := later_run m (run m s turn.all) (turns.flatMap Turn.all)
    have hsplit : run m s turn.all = run m (run m s turn.before) turn.events :=
      Transition.run_append _ _ _
    -- the trip is settled by the end of the run, or the alert is still open and nearer
    by_cases hsettled : t.id ∈ (run m s turn.all).settled
    · exact hlast.settled _ hsettled
    · have hopen : a ∈ openAlerts (run m s turn.all).alerts :=
        (open_or_settled_run h ha hsteady).resolve_right (hsource ▸ hsettled)
      have hmid : a ∈ openAlerts (run m s turn.before).alerts := by
        refine (open_or_settled_run h ha hbefore).resolve_right fun hold => hsettled ?_
        rw [hsplit]
        exact (later_run m _ turn.events).settled _ (hsource ▸ hold)
      have hfewer := settled_or_fewer (sound_run h hbefore) (due_run hdue hbefore) hmid hsource
        hfree hevents (hsplit ▸ hend) hstuck
      rw [← hsplit] at hfewer
      have hnear := hfewer.resolve_left hsettled
      have hle := (List.subperm_of_subset nodup_ahead
        (ahead_subset (later_run m s turn.before) ha)).length_le
      exact ih (sound_run h hsteady) (due_run hdue hsteady) hopen hturns
        (hnear.trans_le (hle.trans (Nat.lt_succ_iff.mp hmany)))

/-- In every careful run a trip to be settled whose settlement was put off has an open alert, or a
call is about to raise it, until it is settled, and a settled trip has none, or a call is about to
clear it.  Once a rule governs the trip, it is settled by the time as many runs of `retry_all` have
come to their ends as there are alerts ahead of its own, and one more. -/
theorem alert_until_settled (m : Market) (books : Books) (events : List Event)
    (hcareful : Transition.Guarded (step m) Careful (.opening books) events) :
    (∀ t ∈ (run m (.opening books) events).trips.rows, t.payable = true →
      (t.id ∈ (run m (.opening books) events).deferred →
        t.id ∉ (run m (.opening books) events).settled →
          (run m (.opening books) events).HasOpen t.id ∨
            (run m (.opening books) events).Raising t.id) ∧
      (t.id ∈ (run m (.opening books) events).settled →
        ∀ a ∈ openAlerts (run m (.opening books) events).alerts, a.sourceId = t.id →
          (run m (.opening books) events).Clearing a)) ∧
    ∀ t ∈ (run m (.opening books) events).trips.rows, t.payable = true →
      governed m (run m (.opening books) events).books t = true →
      ∀ a ∈ openAlerts (run m (.opening books) events).alerts, a.sourceId = t.id →
      ∀ turns : List Turn, Turns m a (run m (.opening books) events) turns →
        (ahead (run m (.opening books) events) a).length < turns.length →
        t.id ∈ (run m (run m (.opening books) events) (turns.flatMap Turn.all)).settled := by
  have h : Sound (run m (.opening books) events) :=
    Transition.invariant_of_guarded (I := Sound) (sound_step m) (sound_opening books) hcareful
  constructor
  · intro t ht hpayable
    constructor
    · exact h.waiting t.id
    · intro hsettled a ha hsource
      exact h.cleared a ha (hsource ▸ hsettled)
  · intro t ht hpayable hruled a ha hsource turns hturns hmany
    exact settled_of_turns h ⟨Table.mem_iff_get?.mp ht, hpayable, hruled⟩ ha hsource hturns hmany

/-! ## Runs that settle nothing -/

def idle (m : Market) (s : State) (id : ℕ) : Bool :=
  (s.trips.get? id).any (fun t => t.payable && !governed m s.books t) &&
    !s.settled.contains id && s.deferred.contains id && (openFor s.alerts id).isSome

lemma resume_resume {y : Worker} : (s.resume worker x).resume worker y = s.resume worker y := by
  rw [State.resume, State.resume, State.resume, State.mk.injEq]
  refine ⟨rfl, rfl, rfl, rfl, rfl, funext fun k => ?_⟩
  split
  · rfl
  · next hk => exact if_neg hk

/-- Going to a trip without a rule and doing its task leaves nothing behind. -/
lemma pop_of_idle (worker : ℕ) (queue : List ℕ) (hidle : idle m s trip = true) :
    run m (s.resume worker ⟨none, trip :: queue⟩) [.next worker false, .next worker false] =
      s.resume worker ⟨none, queue⟩ := by
  rw [idle, Bool.and_eq_true, Bool.and_eq_true, Bool.and_eq_true, Bool.not_eq_true',
    Option.any_eq_true] at hidle
  obtain ⟨⟨⟨⟨t, hrow, ht⟩, hsettled⟩, hdeferred⟩, hopen⟩ := hidle
  rw [Bool.and_eq_true, Bool.not_eq_true'] at ht
  obtain ⟨hpayable, hruled⟩ := ht
  have hid : t.id = trip := Table.pk_of_get? hrow
  have hnote : note t.id s.deferred = s.deferred := by
    rw [note, hid, if_pos hdeferred]
  have hpop : step m (s.resume worker ⟨none, trip :: queue⟩) (.next worker false) =
      s.resume worker ⟨some (.look trip), queue⟩ := by
    rw [step, workers_resume_self]
    dsimp only
    have hget : (s.resume worker ⟨none, trip :: queue⟩).trips.get? trip = some t := hrow
    rw [hget, resume_resume]
    dsimp only
    have hsettled' : (s.resume worker ⟨none, queue⟩).settled.contains t.id = false := by
      rw [hid]
      exact hsettled
    have hruled' : governed m (s.resume worker ⟨none, queue⟩).books t = false := hruled
    rw [retryTrip, hsettled', if_neg Bool.false_ne_true, settleOrDefer, if_pos hpayable, hruled',
      if_neg Bool.false_ne_true, State.turn, workers_resume_self]
    have hsame : { s.resume worker ⟨none, queue⟩ with
        deferred := note t.id (s.resume worker ⟨none, queue⟩).deferred } =
        s.resume worker ⟨none, queue⟩ := by
      show { s.resume worker ⟨none, queue⟩ with deferred := note t.id s.deferred } = _
      rw [hnote]
      rfl
    rw [hsame, resume_resume, hid]
  have hlook : step m (s.resume worker ⟨some (.look trip), queue⟩) (.next worker false) =
      s.resume worker ⟨none, queue⟩ := by
    rw [step, workers_resume_self]
    dsimp only
    rw [perform.eq_def]
    dsimp only
    have hopen' :
        (openFor (s.resume worker ⟨some (.look trip), queue⟩).alerts trip).isSome = true := hopen
    rw [hopen', Bool.or_true, if_pos rfl, State.turn, workers_resume_self, resume_resume]
  rw [run, Transition.run_cons, hpop, Transition.run_cons, hlook, Transition.run_nil]

/-- A run that goes through such trips only changes nothing. -/
lemma run_of_idle (worker : ℕ) {queue : List ℕ} (hidle : ∀ id ∈ queue, idle m s id = true) :
    run m (s.resume worker ⟨none, queue⟩)
        (queue.flatMap fun _ => [.next worker false, .next worker false]) =
      s.resume worker ⟨none, []⟩ := by
  induction queue with
  | nil => rfl
  | cons trip queue ih =>
    rw [List.flatMap_cons, run, Transition.run_append]
    have hpop := pop_of_idle worker queue (hidle trip List.mem_cons_self)
    rw [run] at hpop
    rw [hpop]
    exact ih fun id hid => hidle id (List.mem_cons_of_mem trip hid)

/-- A run of `retry_all` by a worker to its end, when nothing else happens. -/
def quietRun (s : State) (worker : ℕ) : List Event :=
  .retryAll worker :: (batch s.alerts).flatMap fun _ => [.next worker false, .next worker false]

lemma run_quietRun (hidle : ∀ id ∈ batch s.alerts, idle m s id = true)
    (hfree : s.free worker = true) : run m s (quietRun s worker) = s := by
  rw [quietRun, run, Transition.run_cons, step, if_pos hfree]
  have hrun := run_of_idle worker hidle
  rw [run] at hrun
  rw [hrun]
  rw [State.free, Bool.and_eq_true, Option.isNone_iff_eq_none, List.isEmpty_iff] at hfree
  have hworker : s.workers worker = ⟨none, []⟩ := by
    rw [← hfree.1, ← hfree.2]
  have hsame : (s.resume worker ⟨none, []⟩).workers = s.workers := by
    funext k
    by_cases hk : k = worker
    · rw [hk, workers_resume_self, hworker]
    · exact workers_resume_of_ne hk
  show { s with workers := (s.resume worker ⟨none, []⟩).workers } = s
  rw [hsame]

end Steps

/-! ## Examples -/

def countries : Market := ⟨.empty, [1], ["IN", "US"], by decide⟩

def noRules : Books := ⟨.empty, .empty, .empty, 1, 1⟩

/-- A rule for all of India, from the beginning on. -/
def indiaRules : Books where
  rules := Table.empty.put ⟨1, "IN", none, none, .percentage, 1500, .active, 1, 0, none, "launch",
    none, none, some 0, false⟩
  notices := .empty
  configs := .empty
  nextRule := 2
  nextNotice := 1

def ride (country : String) (id : ℕ) : Trip := ⟨id, some 7, "", none, country, none, some 1, 10⟩

/-- The trip completes, its settlement is put off, and the alert is raised. -/
def putOff (t : Trip) : List Event :=
  [.complete t, .settle 0 t.id, .next 0 false, .next 0 false]

def stranded : List Event := putOff (ride "IN" 0) ++ [.rules indiaRules]

/-- The run after the rule change settles the trip. -/
theorem stranded_trip_is_settled :
    0 ∈ (run countries (run countries (.opening noRules) stranded)
      ([⟨[], 0, [.next 0 false, .next 0 false, .next 0 false, .next 0 false]⟩].flatMap
        Turn.all)).settled := by
  have hcareful : Transition.Guarded (step countries) Careful (.opening noRules) stranded :=
    ⟨trivial, trivial, rfl, ⟨rfl, by decide, rfl⟩, trivial, trivial⟩
  refine (alert_until_settled countries noRules stranded hcareful).2 (ride "IN" 0) ?_ rfl ?_
    (raised 0 0) ?_ rfl _ ?_ ?_
  · exact List.mem_cons_self
  · decide +kernel
  · exact List.mem_cons_self
  · refine ⟨⟨⟨trivial, trivial⟩, ⟨trivial, trivial⟩, ⟨.inl rfl, trivial⟩, ⟨trivial, trivial⟩,
      ⟨trivial, trivial⟩, trivial⟩, ?_, ?_, ?_, trivial⟩
    · decide +kernel
    · decide +kernel
    · decide +kernel
  · decide +kernel

/-- Two hundred trips of a country without a rule and then one of India; and then a rule for
India. -/
def crowd : List Event :=
  (List.range 200).flatMap (fun i => putOff (ride "US" i)) ++ putOff (ride "IN" 200) ++
    [.rules indiaRules]

/-- What putting off the settlement of a new trip leaves behind. -/
lemma run_putOff {m : Market} {s : State} {t : Trip} (hnew : s.trips.get? t.id = none)
    (hfree : s.workers 0 = .idle) (hpayable : t.payable = true)
    (hruled : governed m s.books t = false) (hnone : openFor s.alerts t.id = none) :
    run m s (putOff t) =
      { s.resume 0 .idle with
        trips := s.trips.put t
        deferred := note t.id s.deferred
        alerts := s.alerts.insert (raised t.id) fun _ => rfl } := by
  have hcomplete : step m s (.complete t) = { s with trips := s.trips.put t } := by
    rw [step, hnew]
  have hput : (s.trips.put t).get? t.id = some t := Table.get?_put_self s.trips t
  have hsettle : step m { s with trips := s.trips.put t } (.settle 0 t.id) =
      { s.resume 0 ⟨some (.look t.id), []⟩ with
        trips := s.trips.put t, deferred := note t.id s.deferred } := by
    have hfree' : State.free { s with trips := s.trips.put t } 0 = true := by
      rw [State.free]
      dsimp only
      rw [hfree]
      rfl
    rw [step, hfree']
    dsimp only
    rw [hput]
    dsimp only
    rw [settleOrDefer, if_pos hpayable]
    dsimp only
    rw [hruled, if_neg Bool.false_ne_true, State.turn]
    dsimp only
    rw [hfree]
    rfl
  have hlook : step m { s.resume 0 ⟨some (.look t.id), []⟩ with
        trips := s.trips.put t, deferred := note t.id s.deferred } (.next 0 false) =
      { s.resume 0 ⟨some (.create t.id), []⟩ with
        trips := s.trips.put t, deferred := note t.id s.deferred } := by
    have hperform : step m { s.resume 0 ⟨some (.look t.id), []⟩ with
        trips := s.trips.put t, deferred := note t.id s.deferred } (.next 0 false) =
        State.turn { s.resume 0 ⟨some (.look t.id), []⟩ with
          trips := s.trips.put t, deferred := note t.id s.deferred } 0
          (if (openFor s.alerts t.id).isSome then none else some (.create t.id)) := rfl
    rw [hperform, hnone]
    exact congrArg (fun w => { s with
      trips := s.trips.put t, deferred := note t.id s.deferred, workers := w })
      (congrArg State.workers (resume_resume (s := s) (x := ⟨some (.look t.id), []⟩)))
  have hcreate : step m { s.resume 0 ⟨some (.create t.id), []⟩ with
        trips := s.trips.put t, deferred := note t.id s.deferred } (.next 0 false) =
      { s.resume 0 .idle with
        trips := s.trips.put t
        deferred := note t.id s.deferred
        alerts := s.alerts.insert (raised t.id) fun _ => rfl } := by
    exact congrArg (fun w => { s with
      trips := s.trips.put t, deferred := note t.id s.deferred,
      alerts := s.alerts.insert (raised t.id) fun _ => rfl, workers := w })
      (congrArg State.workers (resume_resume (s := s) (x := ⟨some (.create t.id), []⟩)))
  rw [putOff, run, Transition.run_cons, hcomplete, Transition.run_cons, hsettle,
    Transition.run_cons, hlook, Transition.run_cons, hcreate, Transition.run_nil]

lemma tables_putOff {m : Market} {s : State} {t : Trip} (hnew : s.trips.get? t.id = none)
    (hfree : s.workers 0 = .idle) (hpayable : t.payable = true)
    (hruled : governed m s.books t = false) (hnone : openFor s.alerts t.id = none) :
    (run m s (putOff t)).trips = s.trips.put t ∧ (run m s (putOff t)).books = s.books ∧
      (run m s (putOff t)).settled = s.settled ∧
      (run m s (putOff t)).alerts = s.alerts.insert (raised t.id) (fun _ => rfl) ∧
      (run m s (putOff t)).deferred = note t.id s.deferred ∧
      (run m s (putOff t)).workers 0 = .idle := by
  rw [run_putOff hnew hfree hpayable hruled hnone]
  refine ⟨rfl, rfl, rfl, rfl, rfl, ?_⟩
  show (s.resume 0 .idle).workers 0 = .idle
  exact workers_resume_self

lemma tables_rules {m : Market} {s : State} {books : Books} :
    (step m s (.rules books)).trips = s.trips ∧ (step m s (.rules books)).books = books ∧
      (step m s (.rules books)).settled = s.settled ∧
      (step m s (.rules books)).alerts = s.alerts ∧
      (step m s (.rules books)).deferred = s.deferred ∧
      (step m s (.rules books)).workers = s.workers := ⟨rfl, rfl, rfl, rfl, rfl, rfl⟩

/-- The state after so many trips without a rule. -/
structure Crowded (n : ℕ) (s : State) : Prop where
  books : s.books = noRules
  settled : s.settled = []
  free : s.workers 0 = .idle
  row : ∀ i < n, s.trips.get? i = some (ride "US" i)
  new : ∀ i, n ≤ i → s.trips.get? i = none
  deferred : ∀ i < n, i ∈ s.deferred
  alerts : openAlerts s.alerts = (List.range n).map fun i => raised i i
  next : s.alerts.next = n

lemma Crowded.openFor_eq_none {n : ℕ} {s : State} (h : Crowded n s) :
    openFor s.alerts n = none := by
  rw [Unsettled.openFor_eq_none, h.alerts]
  intro a ha hsource
  obtain ⟨i, hi, rfl⟩ := List.mem_map.mp ha
  exact absurd hsource (Nat.ne_of_lt (List.mem_range.mp hi))

lemma crowded_step {n : ℕ} {s : State} (h : Crowded n s) :
    Crowded (n + 1) (run countries s (putOff (ride "US" n))) := by
  have hruled : governed countries s.books (ride "US" n) = false := by
    rw [h.books]
    rfl
  obtain ⟨htrips, hbooks, hsettled, halerts, hdeferred, hworkers⟩ :=
    tables_putOff (h.new n le_rfl) h.free rfl hruled h.openFor_eq_none
  constructor
  · rw [hbooks, h.books]
  · rw [hsettled, h.settled]
  · exact hworkers
  · intro i hi
    rw [htrips]
    by_cases hin : i = n
    · rw [hin]
      exact Table.get?_put_self s.trips (ride "US" n)
    · refine (Table.get?_put_of_ne s.trips hin).trans (h.row i ?_)
      omega
  · intro i hi
    rw [htrips]
    refine (Table.get?_put_of_ne s.trips ?_).trans (h.new i (by omega))
    exact Nat.ne_of_gt hi
  · intro i hi
    rw [hdeferred]
    by_cases hin : i = n
    · exact mem_note.mpr (.inl hin)
    · exact mem_note.mpr (.inr (h.deferred i (by omega)))
  · rw [halerts, openAlerts_insert, h.alerts, h.next, List.range_succ, List.map_append]
    rfl
  · rw [halerts]
    show s.alerts.next + 1 = n + 1
    rw [h.next]

lemma crowded_run (n : ℕ) : Crowded n (run countries (.opening noRules)
    ((List.range n).flatMap fun i => putOff (ride "US" i))) := by
  induction n with
  | zero =>
    refine ⟨rfl, rfl, rfl, ?_, fun _ _ => rfl, ?_, rfl, rfl⟩
    · intro i hi
      cases hi
    · intro i hi
      cases hi
  | succ n ih =>
    rw [List.range_succ, List.flatMap_append, run, Transition.run_append, List.flatMap_singleton]
    exact crowded_step ih

/-- The alerts a run goes through are all of trips without a rule, and the last trip has one. -/
structure Jammed (s : State) : Prop where
  idle : ∀ id ∈ batch s.alerts, idle countries s id = true
  free : s.free 0 = true
  ruled : governed countries s.books (ride "IN" 200) = true
  unsettled : s.settled = []

lemma crowd_tables : ∃ s, Crowded 200 s ∧
    (run countries (.opening noRules) crowd).trips = s.trips.put (ride "IN" 200) ∧
    (run countries (.opening noRules) crowd).books = indiaRules ∧
    (run countries (.opening noRules) crowd).settled = s.settled ∧
    (run countries (.opening noRules) crowd).alerts =
      s.alerts.insert (raised 200) (fun _ => rfl) ∧
    (run countries (.opening noRules) crowd).deferred = note 200 s.deferred ∧
    (run countries (.opening noRules) crowd).workers 0 = .idle := by
  have h := crowded_run 200
  rw [run] at h
  rw [crowd, run, Transition.run_append, Transition.run_append, Transition.run_cons,
    Transition.run_nil]
  generalize Transition.run (step countries) (.opening noRules)
    ((List.range 200).flatMap fun i => putOff (ride "US" i)) = s at h ⊢
  have hruled : governed countries s.books (ride "IN" 200) = false := by
    rw [h.books]
    rfl
  obtain ⟨htrips, -, hsettled, halerts, hdeferred, hworkers⟩ :=
    tables_putOff (h.new 200 le_rfl) h.free rfl hruled h.openFor_eq_none
  rw [run] at htrips hsettled halerts hdeferred hworkers
  generalize Transition.run (step countries) s (putOff (ride "IN" 200)) = x at *
  obtain ⟨htrips', hbooks', hsettled', halerts', hdeferred', hworkers'⟩ :=
    @tables_rules countries x indiaRules
  exact ⟨s, h, htrips'.trans htrips, hbooks', hsettled'.trans hsettled, halerts'.trans halerts,
    hdeferred'.trans hdeferred, (congrFun hworkers' 0).trans hworkers⟩

lemma jammed_crowd : Jammed (run countries (.opening noRules) crowd) := by
  obtain ⟨s, h, htrips, hbooks, hsettled, halerts, hdeferred, hworkers⟩ := crowd_tables
  generalize run countries (.opening noRules) crowd = x at *
  have hopen : openAlerts x.alerts = (List.range (200 + 1)).map fun i => raised i i := by
    rw [halerts, openAlerts_insert, h.alerts, h.next, @List.range_succ 200, List.map_append,
      List.map_singleton]
  have hbatch : batch x.alerts = List.range 200 := by
    have hmin : min retryBatch (200 + 1) = 200 := by decide
    rw [batch, hopen, ← List.map_take, List.take_range, List.map_map, hmin]
    exact List.map_id _
  constructor
  · intro id hid
    rw [hbatch] at hid
    have hlt : id < 200 := List.mem_range.mp hid
    have hrow : x.trips.get? id = some (ride "US" id) := by
      rw [htrips]
      exact (Table.get?_put_of_ne s.trips (Nat.ne_of_lt hlt)).trans (h.row id hlt)
    have hnone : governed countries x.books (ride "US" id) = false := by
      rw [hbooks]
      rfl
    have hput : x.deferred.contains id = true := by
      rw [hdeferred]
      exact List.contains_iff_mem.mpr (mem_note.mpr (.inr (h.deferred id hlt)))
    have hhas : (openFor x.alerts id).isSome = true := by
      rw [Option.isSome_iff_ne_none]
      intro hnot
      refine openFor_eq_none.mp hnot (raised id id) ?_ rfl
      rw [hopen]
      exact List.mem_map_of_mem (List.mem_range.mpr (by omega))
    rw [idle, hrow, hsettled, h.settled, hput, hhas, Option.any_some, hnone]
    rfl
  · rw [State.free, hworkers]
    rfl
  · rw [hbooks]
    rfl
  · rw [hsettled, h.settled]

lemma run_of_jammed {s : State} (h : Jammed s) (n : ℕ) :
    run countries s (List.replicate n (quietRun s 0)).flatten = s := by
  induction n with
  | zero => rfl
  | succ n ih =>
    rw [List.replicate_succ, List.flatten_cons, run, Transition.run_append]
    have hquiet := run_quietRun h.idle h.free
    rw [run] at hquiet
    rw [hquiet]
    exact ih

lemma workers_run {m : Market} {s : State} {events : List Event} {k : ℕ}
    (h : ∀ e ∈ events, e.actor ≠ some k) : (run m s events).workers k = s.workers k := by
  induction events generalizing s with
  | nil => rfl
  | cons e events ih =>
    rw [run, Transition.run_cons]
    exact (ih fun e' he' => h e' (List.mem_cons_of_mem e he')).trans
      (workers_step (h e List.mem_cons_self))

/-- A trip that is settled by a path that does not retry keeps its alert; and a trip that a rule
governs is settled by no number of runs when two hundred older ones have no rule. -/
theorem settled_trip_keeps_its_alert :
    (0 ∈ (run countries (.opening noRules) (stranded ++ [.settle 0 0, .next 0 false])).settled ∧
        raised 0 0 ∈ openAlerts (run countries (.opening noRules)
          (stranded ++ [.settle 0 0, .next 0 false])).alerts ∧
        ¬ (run countries (.opening noRules)
          (stranded ++ [.settle 0 0, .next 0 false])).Clearing (raised 0 0)) ∧
      governed countries (run countries (.opening noRules) crowd).books (ride "IN" 200) = true ∧
      ∀ n, 200 ∉ (run countries (run countries (.opening noRules) crowd) (List.replicate n
        (quietRun (run countries (.opening noRules) crowd) 0)).flatten).settled := by
  have hjammed := jammed_crowd
  generalize run countries (.opening noRules) crowd = s at hjammed ⊢
  refine ⟨⟨by decide +kernel, by decide +kernel, ?_⟩, hjammed.ruled, fun n => ?_⟩
  · rintro ⟨worker, task, htask, -⟩
    have hidle : ((run countries (.opening noRules)
        (stranded ++ [.settle 0 0, .next 0 false])).workers worker).task = none := by
      by_cases hworker : worker = 0
      · rw [hworker]
        rfl
      · rw [workers_run]
        · rfl
        · intro e he hactor
          have hzero : (stranded ++ [Event.settle 0 0, Event.next 0 false]).all
              (fun e => e.actor.all fun k => decide (k = 0)) = true := rfl
          have hall := List.all_eq_true.mp hzero e he
          rw [hactor] at hall
          exact hworker (of_decide_eq_true hall)
    rw [hidle] at htask
    cases htask
  · rw [run_of_jammed hjammed n, hjammed.unsettled]
    exact List.not_mem_nil

end SaaradhiGo.Unsettled
