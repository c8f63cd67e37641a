/-
The alert of a trip whose settlement is put off: what holds all along a run.

A trip that waits for its settlement has an open alert, or a call is about to raise it, and a
settled trip has none, or a call is about to clear it, as long as no alert is lost, none is raised
after its trip was settled meanwhile, and a call that does not clear the alert does not settle the
trip (`sound_step`).
-/
import SaaradhiGo.Payments.Unsettled

namespace SaaradhiGo.Unsettled

open Commission

/-! ## Open alerts -/

section Alerts

variable {alerts : Serial Alert.id} {a : Alert} {trip id : ℕ} {why : String}

lemma mem_openAlerts : a ∈ openAlerts alerts ↔ a ∈ alerts.rows ∧ a.isOpen = true :=
  List.mem_filter

lemma openFor_eq_none : openFor alerts trip = none ↔
    ∀ a ∈ openAlerts alerts, a.sourceId ≠ trip := by
  simp [openFor]

lemma openFor_eq_some (h : openFor alerts trip = some a) :
    a ∈ openAlerts alerts ∧ a.sourceId = trip := by
  constructor
  · exact List.mem_reverse.mp (List.mem_of_find?_eq_some h)
  · simpa using List.find?_some h

lemma openAlerts_insert : openAlerts (alerts.insert (raised trip) fun _ => rfl) =
    openAlerts alerts ++ [raised trip alerts.next] := by
  show (alerts.rows ++ [raised trip alerts.next]).filter Alert.isOpen = _
  rw [List.filter_append]
  rfl

lemma openAlerts_clear :
    openAlerts (alerts.updateWhere (fun a => a.id = id ∧ a.isOpen = true) (Alert.clear why)
      fun _ => rfl) = (openAlerts alerts).filter fun a => a.id ≠ id := by
  show (alerts.rows.map fun r => if r.id = id ∧ r.isOpen = true then r.clear why else r).filter
    Alert.isOpen = (alerts.rows.filter Alert.isOpen).filter fun a => a.id ≠ id
  induction alerts.rows with
  | nil => rfl
  | cons r rows ih =>
    rw [List.map_cons, List.filter_cons, List.filter_cons, ih]
    by_cases hopen : r.isOpen = true
    · by_cases hid : r.id = id
      · have hclosed : (r.clear why).isOpen = false := rfl
        simp [hopen, hid, hclosed]
      · simp [hopen, hid]
    · simp [hopen]

lemma mem_openAlerts_clear :
    a ∈ openAlerts (alerts.updateWhere (fun a => a.id = id ∧ a.isOpen = true) (Alert.clear why)
      fun _ => rfl) ↔ a ∈ openAlerts alerts ∧ a.id ≠ id := by
  rw [openAlerts_clear, List.mem_filter, decide_eq_true_eq]

lemma mem_note {ids : List ℕ} : id ∈ note trip ids ↔ id = trip ∨ id ∈ ids := by
  rw [note]
  split
  · next h =>
    have hmem : trip ∈ ids := by simpa using h
    constructor
    · exact Or.inr
    · rintro (rfl | h)
      · exact hmem
      · exact h
  · exact List.mem_cons

end Alerts

/-! ## What is kept -/

/-- The call is about to raise the alert of the trip. -/
def Task.Raises (trip : ℕ) : Task → Prop
  | .look t => t = trip
  | .create t => t = trip
  | _ => False

/-- The call is about to clear the alert. -/
def Task.Clears (a : Alert) : Task → Prop
  | .credit t retry => t = a.sourceId ∧ retry = true
  | .find t _ => t = a.sourceId
  | .clear t alert _ => t = a.sourceId ∧ alert = a.id
  | _ => False

namespace State

variable (s : State) (trip : ℕ)

def Owes : Prop := ∃ t ∈ s.trips.get? trip, t.payable = true

def Excused : Prop := trip ∈ s.settled ∨ ∃ t ∈ s.trips.get? trip, t.payable = false

/-- The trip has an open alert. -/
def HasOpen : Prop := ∃ a ∈ openAlerts s.alerts, a.sourceId = trip

/-- A call is about to raise the alert of the trip. -/
def Raising : Prop := ∃ worker, ∃ task ∈ (s.workers worker).task, task.Raises trip

/-- A call is about to clear the alert. -/
def Clearing (a : Alert) : Prop := ∃ worker, ∃ task ∈ (s.workers worker).task, task.Clears a

/-- The task is about a trip it can be about. -/
def Placed : Task → Prop
  | .credit t _ => s.Owes t
  | .look t => s.Owes t
  | .create t => s.Owes t
  | .find t _ => s.Excused t
  | .clear t alert _ => s.Excused t ∧ ∃ a ∈ s.alerts.rows, a.id = alert ∧ a.sourceId = t

end State

/-- No alert is lost, raised too late or left over: the condition on a step. -/
def Careful (s : State) : Event → Prop
  | .next worker fails =>
      match (s.workers worker).task with
      | some (.credit trip retry) =>
          retry = true ∨ trip ∈ s.settled ∨ openFor s.alerts trip = none
      | some (.look _) => fails = false
      | some (.create trip) =>
          fails = false ∧ trip ∉ s.settled ∧ openFor s.alerts trip = none
      | _ => True
  | _ => True

/-- What holds in every state of a careful run. -/
structure Sound (s : State) : Prop where
  sorted : s.alerts.rows.Pairwise fun a b => a.id < b.id
  unique : ∀ a ∈ openAlerts s.alerts, ∀ b ∈ openAlerts s.alerts, a.sourceId = b.sourceId → a = b
  owing : ∀ a ∈ s.alerts.rows, s.Owes a.sourceId
  listed : ∀ worker, ∀ trip ∈ (s.workers worker).queue, s.Owes trip
  owed : ∀ trip ∈ s.deferred, s.Owes trip
  placed : ∀ worker, ∀ task ∈ (s.workers worker).task, s.Placed task
  waiting : ∀ trip ∈ s.deferred, trip ∉ s.settled → s.HasOpen trip ∨ s.Raising trip
  cleared : ∀ a ∈ openAlerts s.alerts, a.sourceId ∈ s.settled → s.Clearing a

section Steps

variable {m : Market} {s s' : State} {worker trip : ℕ} {t : Trip} {x : Worker} {task : Task}
  {retry fails : Bool}

lemma sound_opening (books : Books) : Sound (.opening books) := by
  constructor
  · exact List.Pairwise.nil
  · intro a ha
    cases ha
  · intro a ha
    cases ha
  · intro worker trip htrip
    cases htrip
  · intro trip htrip
    cases htrip
  · intro worker task htask
    cases htask
  · intro trip htrip
    cases htrip
  · intro a ha
    cases ha

lemma State.Owes.mono (h : s.Owes trip)
    (htrips : ∀ id t, s.trips.get? id = some t → s'.trips.get? id = some t) : s'.Owes trip := by
  obtain ⟨t, ht, hpayable⟩ := h
  exact ⟨t, htrips trip t ht, hpayable⟩

lemma State.Excused.settled (h : s.Excused trip) (howes : s.Owes trip) : trip ∈ s.settled := by
  rcases h with hsettled | ⟨t, ht, hpayable⟩
  · exact hsettled
  · obtain ⟨t', ht', hpayable'⟩ := howes
    have heq : some t = some t' := (Option.mem_def.mp ht).symm.trans (Option.mem_def.mp ht')
    cases heq
    exact absurd (hpayable.symm.trans hpayable') Bool.false_ne_true

/-- Trips do not change, settlements are not taken back and alerts are not deleted. -/
lemma State.Placed.mono (h : s.Placed task)
    (htrips : ∀ id t, s.trips.get? id = some t → s'.trips.get? id = some t)
    (hsettled : ∀ id ∈ s.settled, id ∈ s'.settled)
    (halerts : ∀ a ∈ s.alerts.rows, ∃ a' ∈ s'.alerts.rows,
      a'.id = a.id ∧ a'.sourceId = a.sourceId) : s'.Placed task := by
  have hexcused : ∀ id, s.Excused id → s'.Excused id := by
    rintro id (h | ⟨t, ht, hpayable⟩)
    · exact .inl (hsettled id h)
    · exact .inr ⟨t, htrips id t ht, hpayable⟩
  cases task with
  | credit t retry => exact State.Owes.mono h htrips
  | look t => exact State.Owes.mono h htrips
  | create t => exact State.Owes.mono h htrips
  | find t why => exact hexcused t h
  | clear t alert why =>
    obtain ⟨h, a, ha, hid, hsource⟩ := h
    obtain ⟨a', ha', hid', hsource'⟩ := halerts a ha
    exact ⟨hexcused t h, a', ha', hid'.trans hid, hsource'.trans hsource⟩

@[simp] lemma workers_resume_self : (s.resume worker x).workers worker = x := if_pos rfl

lemma workers_resume_of_ne {k : ℕ} (h : k ≠ worker) :
    (s.resume worker x).workers k = s.workers k := if_neg h

/-- A worker goes on, and leaves nothing undone that it was about to do. -/
lemma Sound.resume (h : Sound s) (hplaced : ∀ task ∈ x.task, s.Placed task)
    (hlisted : ∀ trip ∈ x.queue, s.Owes trip)
    (hraises : ∀ task ∈ (s.workers worker).task, ∀ trip ∈ s.deferred, trip ∉ s.settled →
      task.Raises trip → s.HasOpen trip ∨ ∃ task ∈ x.task, task.Raises trip)
    (hclears : ∀ task ∈ (s.workers worker).task, ∀ a ∈ openAlerts s.alerts,
      a.sourceId ∈ s.settled → task.Clears a → ∃ task ∈ x.task, task.Clears a) :
    Sound (s.resume worker x) := by
  have hworker : ∀ k, (s.resume worker x).workers k = if k = worker then x else s.workers k :=
    fun _ => rfl
  refine ⟨h.sorted, h.unique, h.owing, ?_, h.owed, ?_, ?_, ?_⟩
  · intro k trip htrip
    rw [hworker] at htrip
    split at htrip
    · exact hlisted trip htrip
    · exact h.listed k trip htrip
  · intro k task htask
    rw [hworker] at htask
    split at htask
    · exact hplaced task htask
    · exact h.placed k task htask
  · intro trip htrip hsettled
    rcases h.waiting trip htrip hsettled with hopen | ⟨k, task, htask, hraise⟩
    · exact .inl hopen
    · by_cases hk : k = worker
      · rw [hk] at htask
        rcases hraises task htask trip htrip hsettled hraise with hopen | ⟨task', htask', hraise'⟩
        · exact .inl hopen
        · exact .inr ⟨worker, task', by rwa [workers_resume_self], hraise'⟩
      · exact .inr ⟨k, task, by rwa [workers_resume_of_ne hk], hraise⟩
  · intro a ha hsettled
    obtain ⟨k, task, htask, hclear⟩ := h.cleared a ha hsettled
    by_cases hk : k = worker
    · rw [hk] at htask
      obtain ⟨task', htask', hclear'⟩ := hclears task htask a ha hsettled hclear
      exact ⟨worker, task', by rwa [workers_resume_self], hclear'⟩
    · exact ⟨k, task, by rwa [workers_resume_of_ne hk], hclear⟩

lemma Sound.take (h : Sound s) (hfree : (s.workers worker).task = none)
    (hplaced : ∀ task ∈ x.task, s.Placed task) (hlisted : ∀ trip ∈ x.queue, s.Owes trip) :
    Sound (s.resume worker x) := by
  refine h.resume hplaced hlisted ?_ ?_
  · intro task htask
    rw [hfree] at htask
    cases htask
  · intro task htask
    rw [hfree] at htask
    cases htask

/-- A settlement is put off, by a call that is about to raise the alert. -/
lemma Sound.defer (h : Sound s) (howes : s.Owes trip) (hraising : s.Raising trip) :
    Sound { s with deferred := note trip s.deferred } := by
  refine ⟨h.sorted, h.unique, h.owing, h.listed, ?_, h.placed, ?_, h.cleared⟩
  · intro id hid
    rcases mem_note.mp hid with rfl | hid
    · exact howes
    · exact h.owed id hid
  · intro id hid hsettled
    rcases mem_note.mp hid with rfl | hid
    · exact .inr hraising
    · exact h.waiting id hid hsettled

lemma Sound.settleOrDefer (h : Sound s) (hfree : (s.workers worker).task = none)
    (hrow : s.trips.get? t.id = some t) : Sound (settleOrDefer m s worker t retry) := by
  have hqueue : ∀ trip ∈ (s.workers worker).queue, s.Owes trip := h.listed worker
  rw [Unsettled.settleOrDefer]
  split
  · next hpayable =>
    have howes : s.Owes t.id := ⟨t, hrow, hpayable⟩
    split
    · refine h.take hfree ?_ hqueue
      intro task htask
      cases htask
      exact howes
    · have hlook : Sound (s.turn worker (some (.look t.id))) := by
        refine h.take hfree ?_ hqueue
        intro task htask
        cases htask
        exact howes
      refine hlook.defer howes ⟨worker, .look t.id, ?_, rfl⟩
      rw [State.turn, workers_resume_self]
      rfl
  · next hpayable =>
    refine h.take hfree ?_ hqueue
    intro task htask
    split at htask
    · cases htask
      exact .inr ⟨t, hrow, Bool.eq_false_iff.mpr hpayable⟩
    · cases htask

lemma Sound.retryTrip (h : Sound s) (hfree : (s.workers worker).task = none)
    (hrow : s.trips.get? t.id = some t) : Sound (retryTrip m s worker t) := by
  rw [Unsettled.retryTrip]
  split
  · next hsettled =>
    refine h.take hfree ?_ (h.listed worker)
    intro task htask
    cases htask
    exact .inl (List.contains_iff_mem.mp hsettled)
  · exact h.settleOrDefer hfree hrow

/-- A trip is settled: by a call that clears its alert next, or when it has none open. -/
lemma Sound.settle (h : Sound s)
    (hclears : trip ∈ s.settled ∨ (∀ a ∈ openAlerts s.alerts, a.sourceId ≠ trip) ∨
      ∃ worker, (s.workers worker).task = some (.credit trip true)) :
    Sound { s with settled := note trip s.settled } := by
  refine ⟨h.sorted, h.unique, h.owing, h.listed, h.owed, ?_, ?_, ?_⟩
  · intro k task htask
    exact (h.placed k task htask).mono (fun _ _ h => h) (fun _ h => mem_note.mpr (.inr h))
      fun a ha => ⟨a, ha, rfl, rfl⟩
  · intro id hid hsettled
    exact h.waiting id hid fun hold => hsettled (mem_note.mpr (.inr hold))
  · intro a ha hsettled
    rcases mem_note.mp hsettled with heq | hold
    · rcases hclears with hold | hnone | ⟨k, hk⟩
      · exact h.cleared a ha (heq ▸ hold)
      · exact absurd heq (hnone a ha)
      · exact ⟨k, _, hk, heq.symm, rfl⟩
    · exact h.cleared a ha hold

lemma Sound.create (h : Sound s) (howes : s.Owes trip) (hsettled : trip ∉ s.settled)
    (hnone : ∀ a ∈ openAlerts s.alerts, a.sourceId ≠ trip) :
    Sound { s with alerts := s.alerts.insert (raised trip) fun _ => rfl } := by
  have hrows : (s.alerts.insert (raised trip) fun _ => rfl).rows =
      s.alerts.rows ++ [raised trip s.alerts.next] := rfl
  have hopen : ∀ a, a ∈ openAlerts (s.alerts.insert (raised trip) fun _ => rfl) ↔
      a ∈ openAlerts s.alerts ∨ a = raised trip s.alerts.next := by
    intro a
    rw [openAlerts_insert, List.mem_append, List.mem_singleton]
  refine ⟨?_, ?_, ?_, h.listed, h.owed, ?_, ?_, ?_⟩
  · show ((s.alerts.insert (raised trip) fun _ => rfl).rows).Pairwise _
    rw [hrows, List.pairwise_append]
    refine ⟨h.sorted, List.pairwise_singleton _ _, ?_⟩
    intro a ha b hb
    rw [List.mem_singleton.mp hb]
    exact s.alerts.fresh a ha
  · intro a ha b hb hsource
    rcases (hopen a).mp ha with ha | rfl <;> rcases (hopen b).mp hb with hb | rfl
    · exact h.unique a ha b hb hsource
    · exact absurd hsource (hnone a ha)
    · exact absurd hsource.symm (hnone b hb)
    · rfl
  · intro a ha
    rcases List.mem_append.mp (hrows ▸ ha) with ha | ha
    · exact h.owing a ha
    · rw [List.mem_singleton.mp ha]
      exact howes
  · intro k task htask
    refine (h.placed k task htask).mono (fun _ _ h => h) (fun _ h => h) fun a ha => ?_
    exact ⟨a, hrows ▸ List.mem_append_left _ ha, rfl, rfl⟩
  · intro id hid hunsettled
    rcases h.waiting id hid hunsettled with ⟨a, ha, hsource⟩ | hraising
    · exact .inl ⟨a, (hopen a).mpr (.inl ha), hsource⟩
    · exact .inr hraising
  · intro a ha hold
    rcases (hopen a).mp ha with ha | rfl
    · exact h.cleared a ha hold
    · exact absurd hold hsettled

lemma Sound.clear {alert : ℕ} (why : String) (h : Sound s)
    (hplaced : s.Placed (.clear trip alert why)) :
    Sound { s with
      alerts := s.alerts.updateWhere (fun a => a.id = alert ∧ a.isOpen = true) (Alert.clear why)
        fun _ => rfl } := by
  obtain ⟨hexcused, a₀, ha₀, hid₀, hsource₀⟩ := hplaced
  have hrows : ∀ a ∈ s.alerts.rows, ∃ a' ∈ (s.alerts.updateWhere
      (fun a => a.id = alert ∧ a.isOpen = true) (Alert.clear why) fun _ => rfl).rows,
      a'.id = a.id ∧ a'.sourceId = a.sourceId := by
    intro a ha
    refine ⟨_, List.mem_map_of_mem ha, ?_⟩
    dsimp only
    split
    · exact ⟨rfl, rfl⟩
    · exact ⟨rfl, rfl⟩
  have hkeeps : ∀ a' ∈ (s.alerts.updateWhere (fun a => a.id = alert ∧ a.isOpen = true)
      (Alert.clear why) fun _ => rfl).rows, ∃ a ∈ s.alerts.rows,
      a'.id = a.id ∧ a'.sourceId = a.sourceId := by
    intro a' ha'
    obtain ⟨a, ha, rfl⟩ := List.mem_map.mp ha'
    refine ⟨a, ha, ?_⟩
    split
    · exact ⟨rfl, rfl⟩
    · exact ⟨rfl, rfl⟩
  refine ⟨?_, ?_, ?_, h.listed, h.owed, ?_, ?_, ?_⟩
  · show (s.alerts.rows.map fun r => if r.id = alert ∧ r.isOpen = true then r.clear why
      else r).Pairwise _
    rw [List.pairwise_map]
    refine h.sorted.imp fun hlt => ?_
    split <;> split <;> exact hlt
  · intro a ha b hb
    exact h.unique a (mem_openAlerts_clear.mp ha).1 b (mem_openAlerts_clear.mp hb).1
  · intro a' ha'
    obtain ⟨a, ha, -, hsource⟩ := hkeeps a' ha'
    rw [hsource]
    exact h.owing a ha
  · intro k task htask
    exact (h.placed k task htask).mono (fun _ _ h => h) (fun _ h => h) hrows
  · intro id hid hunsettled
    rcases h.waiting id hid hunsettled with ⟨a, ha, hsource⟩ | hraising
    · refine .inl ⟨a, mem_openAlerts_clear.mpr ⟨ha, fun halert => ?_⟩, hsource⟩
      -- the alert that is cleared would be of a trip that waits for its settlement
      have hsame : a = a₀ := Table.eq_of_mem (mem_openAlerts.mp ha).1 ha₀ (halert.trans hid₀.symm)
      have htrip : trip = id := by rw [← hsource₀, ← hsame, hsource]
      exact hunsettled (htrip ▸ hexcused.settled (htrip ▸ h.owed id hid))
    · exact .inr hraising
  · intro a ha hsettled
    exact h.cleared a (mem_openAlerts_clear.mp ha).1 hsettled

lemma task_of_free (h : s.free worker = true) : (s.workers worker).task = none := by
  rw [State.free, Bool.and_eq_true, Option.isNone_iff_eq_none] at h
  exact h.1

lemma Sound.perform (h : Sound s) (htask : (s.workers worker).task = some task)
    (hcareful : Careful s (.next worker fails)) : Sound (perform s worker fails task) := by
  have hplaced : s.Placed task := h.placed worker task htask
  have hqueue : ∀ trip ∈ (s.workers worker).queue, s.Owes trip := h.listed worker
  have hthis : ∀ old ∈ (s.workers worker).task, old = task := by
    intro old hold
    exact Option.some.inj (hold.symm.trans htask)
  rw [Careful, htask] at hcareful
  cases task with
  | credit trip retry =>
    -- the credit goes through, or fails with the alert still open
    have hsettled : Sound { s with settled := note trip s.settled } := by
      refine h.settle ?_
      rcases hcareful with rfl | hsettled | hnone
      · exact .inr (.inr ⟨worker, htask⟩)
      · exact .inl hsettled
      · exact .inr (.inl (openFor_eq_none.mp hnone))
    refine hsettled.resume ?_ hqueue ?_ ?_
    · intro new hnew
      split at hnew
      · cases hnew
        exact .inl (mem_note.mpr (.inl rfl))
      · cases hnew
    · intro old hold id _ _ hraise
      cases hthis old hold
      cases hraise
    · intro old hold a _ _ hclear
      cases hthis old hold
      obtain ⟨hsource, rfl⟩ := hclear
      exact ⟨_, rfl, hsource⟩
  | look trip =>
    rw [Unsettled.perform.eq_def]
    dsimp only at hcareful ⊢
    -- the read of the alerts does not fail
    rw [hcareful, Bool.false_or]
    refine h.resume ?_ hqueue ?_ ?_
    · intro new hnew
      split at hnew
      · cases hnew
      · cases hnew
        exact hplaced
    · intro old hold id _ _ hraise
      cases hthis old hold
      -- with no open alert the task goes on to raise one
      cases hfound : openFor s.alerts trip with
      | none => exact .inr ⟨_, rfl, hraise⟩
      | some a =>
        obtain ⟨ha, hsource⟩ := openFor_eq_some hfound
        exact .inl ⟨a, ha, hsource.trans hraise⟩
    · intro old hold a _ _ hclear
      cases hthis old hold
      cases hclear
  | create trip =>
    -- nobody settled the trip or raised its alert since the look
    obtain ⟨hfails, hsettled, hnone⟩ := hcareful
    rw [Unsettled.perform.eq_def]
    dsimp only
    rw [hfails, if_neg Bool.false_ne_true]
    refine (h.create hplaced hsettled (openFor_eq_none.mp hnone)).resume ?_ hqueue ?_ ?_
    · intro new hnew
      cases hnew
    · intro old hold id _ _ hraise
      cases hthis old hold
      refine .inl ⟨raised trip s.alerts.next, ?_, hraise⟩
      show _ ∈ openAlerts (s.alerts.insert (raised trip) fun _ => rfl)
      rw [openAlerts_insert]
      exact List.mem_append_right _ (List.mem_singleton_self _)
    · intro old hold a _ _ hclear
      cases hthis old hold
      cases hclear
  | find trip why =>
    refine h.resume ?_ hqueue ?_ ?_
    · intro new hnew
      obtain ⟨a, ha, rfl⟩ := Option.map_eq_some_iff.mp hnew
      obtain ⟨hopen, hsource⟩ := openFor_eq_some ha
      exact ⟨hplaced, a, (mem_openAlerts.mp hopen).1, rfl, hsource⟩
    · intro old hold id _ _ hraise
      cases hthis old hold
      cases hraise
    · intro old hold a ha _ hclear
      cases hthis old hold
      -- one alert is open for the trip, so the one found is the one to clear
      have hsource : trip = a.sourceId := hclear
      cases hfound : openFor s.alerts trip with
      | none => exact absurd hsource.symm (openFor_eq_none.mp hfound a ha)
      | some a' =>
        obtain ⟨hopen, hsource'⟩ := openFor_eq_some hfound
        have hsame : a' = a := h.unique a' hopen a ha (hsource'.trans hsource)
        exact ⟨_, rfl, hsource, congrArg Alert.id hsame⟩
  | clear trip alert why =>
    refine (h.clear why hplaced).resume ?_ hqueue ?_ ?_
    · intro new hnew
      cases hnew
    · intro old hold id _ _ hraise
      cases hthis old hold
      cases hraise
    · intro old hold a ha _ hclear
      cases hthis old hold
      exact absurd hclear.2.symm (mem_openAlerts_clear.mp ha).2

/-- The rows are kept when one is added. -/
lemma get?_put_of_new {trips : Table Trip.id} (hnew : trips.get? t.id = none) (id : ℕ) (u : Trip)
    (hu : trips.get? id = some u) : (trips.put t).get? id = some u := by
  rw [Table.get?_put_of_ne]
  · exact hu
  · rintro rfl
    rw [hnew] at hu
    cases hu

lemma sound_step (m : Market) (s : State) (e : Event) (hcareful : Careful s e) (h : Sound s) :
    Sound (step m s e) := by
  cases e with
  | complete t =>
    rw [step]
    split
    · exact h
    · next hnew =>
      have htrips := get?_put_of_new hnew
      refine ⟨h.sorted, h.unique, ?_, ?_, ?_, ?_, h.waiting, h.cleared⟩
      · exact fun a ha => (h.owing a ha).mono htrips
      · exact fun worker trip htrip => (h.listed worker trip htrip).mono htrips
      · exact fun trip htrip => (h.owed trip htrip).mono htrips
      · exact fun worker task htask => (h.placed worker task htask).mono htrips
          (fun _ h => h) fun a ha => ⟨a, ha, rfl, rfl⟩
  | rules books =>
    exact ⟨h.sorted, h.unique, h.owing, h.listed, h.owed, h.placed, h.waiting, h.cleared⟩
  | settle worker trip =>
    rw [step]
    split
    · next t hfree hrow =>
      refine h.settleOrDefer (task_of_free hfree) ?_
      rwa [Table.pk_of_get? hrow]
    · exact h
  | retry worker trip =>
    rw [step]
    split
    · next t hfree hrow =>
      refine h.retryTrip (task_of_free hfree) ?_
      rwa [Table.pk_of_get? hrow]
    · exact h
  | retryAll worker =>
    rw [step]
    split
    · next hfree =>
      refine h.take (task_of_free hfree) ?_ ?_
      · intro task htask
        cases htask
      · intro trip htrip
        obtain ⟨a, ha, rfl⟩ := List.mem_map.mp htrip
        exact h.owing a (mem_openAlerts.mp (List.mem_of_mem_take ha)).1
    · exact h
  | next worker fails =>
    rw [step]
    split
    · next task _ htask => exact h.perform htask hcareful
    · exact h
    · next trip queue hnone hqueue =>
      have howes : ∀ id ∈ trip :: queue, s.Owes id := by
        intro id hid
        exact h.listed worker id (hqueue ▸ hid)
      -- the retried list loses its first trip, whose settlement is then tried
      have hpopped : Sound (s.resume worker ⟨none, queue⟩) := by
        refine h.take hnone ?_ ?_
        · intro task htask
          cases htask
        · exact fun id hid => howes id (List.mem_cons_of_mem trip hid)
      have hidle : ((s.resume worker ⟨none, queue⟩).workers worker).task = none := by
        rw [workers_resume_self]
      obtain ⟨t, hrow, -⟩ := howes trip List.mem_cons_self
      dsimp only
      rw [Option.mem_def.mp hrow]
      refine hpopped.retryTrip hidle ?_
      rwa [Table.pk_of_get? hrow]

end Steps

end SaaradhiGo.Unsettled
