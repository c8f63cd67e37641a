/-
Runs of trips, sweeps and delayed writes, and the entry each driver is left with.

When no step of a driver is still to run, the entry of the driver should name the trip that
occupies the driver in the database.  It does in every run in which each write that takes effect
carries what the database holds at that moment, or another step that does is still to run; and a
run that breaks this leaves an entry that no step to run will put right.
-/
import SaaradhiGo.Rides.ActiveTrip
import Mathlib.Data.List.InsertIdx

namespace SaaradhiGo.Rides

def Effect.driver : Effect → ℕ
  | set driver _ => driver
  | clear driver => driver
  | reconcile driver _ => driver

/-- The active trip an effect goes by. -/
def Effect.tripId : Effect → Option ℕ
  | set _ trip => some trip
  | clear _ => none
  | reconcile _ dbTripId => dbTripId

/-- The next step of the effect is a write. -/
def Effect.Writes : Effect → Prop
  | set _ _ => True
  | clear _ => True
  | reconcile _ _ => False

/-- The trip occupies the driver in the database. -/
def Fleet.Names (s : Fleet) (driver i : ℕ) : Prop :=
  ∃ t ∈ s.trips.rows, t.id = i ∧ t.Occupies driver

/-- The entry of the driver names the trip that occupies the driver, and is absent when none
does. -/
def Agrees (driver : ℕ) (s : Fleet) : Prop :=
  ∀ i, s.activeTrip driver = some i ↔ s.Names driver i

/-- No step of the driver is still to run. -/
def Drained (driver : ℕ) (s : Fleet) : Prop := ∀ e ∈ s.pending, e.driver ≠ driver

def Current (driver : ℕ) (s : Fleet) (es : List Effect) : Prop :=
  ∃ e ∈ es, e.driver = driver ∧ e.tripId = s.dbTripId driver

/-- The entry is what the database holds, or a step that goes by it is still to run. -/
def Settled (driver : ℕ) (s : Fleet) : Prop :=
  s.activeTrip driver = s.dbTripId driver ∨ Current driver s s.pending

/-- A write of the driver's entry that takes effect carries what the database holds, or another
step that goes by it is still to run. -/
def Timely (driver : ℕ) (s : Fleet) : Act → Prop
  | .effect n =>
      ∀ e, s.pending[n]? = some e → e.Writes → e.driver = driver →
        e.tripId = s.dbTripId driver ∨ Current driver s (s.pending.eraseIdx n)
  | _ => True

instance (driver : ℕ) (s : Fleet) (es : List Effect) : Decidable (Current driver s es) :=
  inferInstanceAs (Decidable (∃ e ∈ es, e.driver = driver ∧ e.tripId = s.dbTripId driver))

instance : DecidablePred Effect.Writes
  | .set _ _ => .isTrue trivial
  | .clear _ => .isTrue trivial
  | .reconcile _ _ => .isFalse id

instance (driver : ℕ) (s : Fleet) (a : Act) : Decidable (Timely driver s a) :=
  match a with
  | .effect n =>
      inferInstanceAs (Decidable (∀ e ∈ s.pending[n]?, e.Writes → e.driver = driver →
        e.tripId = s.dbTripId driver ∨ Current driver s (s.pending.eraseIdx n)))
  | .book | .accept _ _ _ | .update _ _ _ _ | .driverCancel _ _ | .riderCancel _
  | .operatorCancel _ | .operatorEnd _ _ | .sweep _ => .isTrue trivial

/-- A driver has one active trip at most, and a trip that is only asked for has no driver. -/
structure Assigned (s : Fleet) : Prop where
  fresh : ∀ t ∈ s.trips.rows, t.id < s.nextTrip
  unassigned : ∀ t ∈ s.trips.rows, t.status ∈ [none, some .requested] → t.driver = none
  single : ∀ driver, ∀ t ∈ s.trips.rows, ∀ t' ∈ s.trips.rows, t.Occupies driver →
    t'.Occupies driver → t = t'

section Trips

variable {s s' : Fleet} {t t' : Trip} {driver d i : ℕ} {drivers : List ℕ}

lemma mem_driverActiveTripIds {trips : Table Trip.id} {ex : Option ℕ} :
    i ∈ driverActiveTripIds trips driver ex ↔
      ∃ t ∈ trips.rows, t.Occupies driver ∧ ex ≠ some t.id ∧ t.id = i := by
  rw [driverActiveTripIds, List.mem_map]
  constructor
  · rintro ⟨t, ht, hid⟩
    obtain ⟨hmem, hocc⟩ := List.mem_filter.mp ht
    simp only [decide_eq_true_eq] at hocc
    exact ⟨t, hmem, hocc.1, hocc.2, hid⟩
  · rintro ⟨t, hmem, hocc, hex, hid⟩
    exact ⟨t, List.mem_filter.mpr ⟨hmem, by simpa using ⟨hocc, hex⟩⟩, hid⟩

/-- What a sweep reads is the trip that occupies the driver. -/
lemma Assigned.dbTripId_eq_some_iff (h : Assigned s) :
    s.dbTripId driver = some i ↔ s.Names driver i := by
  constructor
  · intro hhead
    obtain ⟨t, hmem, hocc, -, hid⟩ := mem_driverActiveTripIds.mp (List.mem_of_mem_head? hhead)
    exact ⟨t, hmem, hid, hocc⟩
  · rintro ⟨t, hmem, rfl, hocc⟩
    have hin : t.id ∈ driverActiveTripIds s.trips driver none :=
      mem_driverActiveTripIds.mpr ⟨t, hmem, hocc, by simp, rfl⟩
    cases hhead : (driverActiveTripIds s.trips driver none).head? with
    | none =>
        rw [List.head?_eq_none_iff] at hhead
        rw [hhead] at hin
        cases hin
    | some j =>
        obtain ⟨t', hmem', hocc', -, rfl⟩ :=
          mem_driverActiveTripIds.mp (List.mem_of_mem_head? hhead)
        rw [Fleet.dbTripId, hhead, h.single driver t' hmem' t hmem hocc' hocc]

/-- Two states that name the same trip for a driver hold the same. -/
lemma Assigned.dbTripId_congr (h : Assigned s) (h' : Assigned s')
    (hnames : ∀ i, s'.Names d i ↔ s.Names d i) : s'.dbTripId d = s.dbTripId d := by
  refine Option.ext fun i => ?_
  rw [h'.dbTripId_eq_some_iff, h.dbTripId_eq_some_iff, hnames]

/-- A trip that is written names itself or nothing. -/
lemma names_put (htrips : s'.trips = s.trips.put t') :
    s'.Names d i ↔ (t'.id = i ∧ t'.Occupies d) ∨ (i ≠ t'.id ∧ s.Names d i) := by
  rw [Fleet.Names, htrips]
  constructor
  · rintro ⟨x, hx, rfl, hocc⟩
    rcases Table.mem_put.mp hx with rfl | ⟨hmem, hne⟩
    · exact .inl ⟨rfl, hocc⟩
    · exact .inr ⟨hne, x, hmem, rfl, hocc⟩
  · rintro (⟨hid, hocc⟩ | ⟨hne, x, hmem, rfl, hocc⟩)
    · exact ⟨t', Table.mem_put.mpr (.inl rfl), hid, hocc⟩
    · exact ⟨x, Table.mem_put.mpr (.inr ⟨hmem, hne⟩), rfl, hocc⟩

lemma Assigned.put (h : Assigned s) (htrips : s'.trips = s.trips.put t')
    (hnext : s.nextTrip ≤ s'.nextTrip) (hid : t'.id < s'.nextTrip)
    (hunassigned : t'.status ∈ [none, some .requested] → t'.driver = none)
    (hsingle : ∀ d, t'.Occupies d → ∀ x ∈ s.trips.rows, x.id ≠ t'.id → ¬ x.Occupies d) :
    Assigned s' := by
  have hrow : ∀ x ∈ s'.trips.rows, x = t' ∨ (x ∈ s.trips.rows ∧ x.id ≠ t'.id) := by
    intro x hx
    rw [htrips] at hx
    exact Table.mem_put.mp hx
  refine ⟨fun x hx => ?_, fun x hx hstatus => ?_, fun d x hx y hy hoccx hoccy => ?_⟩
  · rcases hrow x hx with rfl | ⟨hmem, -⟩
    · exact hid
    · exact Nat.lt_of_lt_of_le (h.fresh x hmem) hnext
  · rcases hrow x hx with rfl | ⟨hmem, -⟩
    · exact hunassigned hstatus
    · exact h.unassigned x hmem hstatus
  · rcases hrow x hx with rfl | ⟨hmemx, hnex⟩
    · rcases hrow y hy with rfl | ⟨hmemy, hney⟩
      · rfl
      · exact absurd hoccy (hsingle d hoccx y hmemy hney)
    · rcases hrow y hy with rfl | ⟨hmemy, hney⟩
      · exact absurd hoccx (hsingle d hoccy x hmemx hnex)
      · exact h.single d x hmemx y hmemy hoccx hoccy

lemma not_occupies_of_status {c : TripStatus} (hstatus : t.status = some c)
    (hc : c ∉ driverActiveTripStatuses) : ¬ t.Occupies d := by
  rintro ⟨-, c', hc', hmem⟩
  rw [hstatus] at hc'
  cases hc'
  exact hc hmem

lemma notMem_of_active {c : TripStatus} (hc : c ∈ driverActiveTripStatuses) :
    some c ∉ [none, some TripStatus.requested] := by
  revert hc
  cases c <;> decide

lemma not_occupies_of_driver (hdriver : t.driver = none) : ¬ t.Occupies d := by
  rintro ⟨hd, -⟩
  rw [hdriver] at hd
  cases hd

end Trips

/-! ## The mirror of the trips -/

def Effect.writer : Effect → Mirror.Writer ℕ (Option ℕ)
  | set driver trip => .write driver (some trip)
  | clear driver => .write driver none
  | reconcile driver dbTripId => .check driver dbTripId

def Fleet.mirror (s : Fleet) : Mirror.State ℕ (Option ℕ) :=
  ⟨s.dbTripId, s.activeTrip, s.pending.map Effect.writer⟩

def Mirrors (s s' : Fleet) (timely : ℕ → Prop) : Prop :=
  (s'.mirror = s.mirror ∧ ∀ driver, timely driver) ∨
    ∃ m, s'.mirror = Mirror.step s.mirror m ∧
      ∀ driver, timely driver ↔ Mirror.Timely driver s.mirror m

section Mirrors

variable {s s' : Fleet} {t : Trip} {driver d i : ℕ} {drivers : List ℕ}

@[simp] lemma writer_key (e : Effect) : e.writer.key = e.driver := by
  cases e <;> rfl

@[simp] lemma writer_value (e : Effect) : e.writer.value = e.tripId := by
  cases e <;> rfl

lemma repairs_iff_current {es : List Effect} :
    Mirror.Repairs s.mirror driver (es.map Effect.writer) ↔ Current driver s es := by
  constructor
  · rintro ⟨w, hw, hkey, hvalue⟩
    obtain ⟨e, he, rfl⟩ := List.mem_map.mp hw
    exact ⟨e, he, by rwa [writer_key] at hkey, by rwa [writer_value] at hvalue⟩
  · rintro ⟨e, he, hdriver, htrip⟩
    exact ⟨e.writer, List.mem_map_of_mem he, by rwa [writer_key], by rwa [writer_value]⟩

lemma settled_iff_mirror : Settled driver s ↔ Mirror.Settled driver s.mirror :=
  or_congr_right repairs_iff_current.symm

lemma mirror_congr (hdb : ∀ d, s'.dbTripId d = s.dbTripId d)
    (hactive : s'.activeTrip = s.activeTrip) (hpending : s'.pending = s.pending) :
    s'.mirror = s.mirror := by
  rw [Fleet.mirror, Fleet.mirror, funext hdb, hactive, hpending]

/-- A step that runs none of the effects, and changes the trip of one driver and leaves a write of
it. -/
lemma mirror_commit {e : Effect} (hactive : s'.activeTrip = s.activeTrip)
    (hpending : s'.pending = s.pending ++ [e]) (hwriter : e.writer = .write driver e.tripId)
    (hdb : s'.dbTripId = Function.update s.dbTripId driver e.tripId) :
    s'.mirror = Mirror.step s.mirror (.commit driver e.tripId) := by
  rw [Fleet.mirror, hactive, hpending, hdb, List.map_append, List.map_singleton, hwriter]
  rfl

lemma dbTripId_update (h : Assigned s) (h' : Assigned s') {v : Option ℕ}
    (hself : s'.dbTripId driver = v)
    (hother : ∀ d, d ≠ driver → ∀ i, s'.Names d i ↔ s.Names d i) :
    s'.dbTripId = Function.update s.dbTripId driver v := by
  funext d
  by_cases hd : d = driver
  · rw [hd, Function.update_self, hself]
  · rw [Function.update_of_ne hd, h.dbTripId_congr h' (hother d hd)]

/-- A repair that is needed is a write of what the sweep goes by. -/
lemma repair_eq {v r : Option ℕ} :
    (r = v → repair driver v r = none) ∧
      (r ≠ v → ∃ e, repair driver v r = some e ∧ e.writer = .write driver v) := by
  constructor
  · rintro rfl
    cases r with
    | none => rfl
    | some t => exact if_pos rfl
  · intro hne
    cases v with
    | none =>
        cases r with
        | none => exact absurd rfl hne
        | some t => exact ⟨.clear driver, rfl, rfl⟩
    | some trip =>
        cases r with
        | none => exact ⟨.set driver trip, rfl, rfl⟩
        | some t =>
            refine ⟨.set driver trip, if_neg ?_, rfl⟩
            rintro rfl
            exact hne rfl

lemma mirror_runEffect (n : ℕ) :
    (s.runEffect n).mirror = Mirror.step s.mirror (.advance n) := by
  show (s.runEffect n).mirror = s.mirror.advance n
  have hget : s.mirror.pending[n]? = (s.pending[n]?).map Effect.writer := List.getElem?_map
  have herase : s.mirror.pending.eraseIdx n = (s.pending.eraseIdx n).map Effect.writer :=
    List.eraseIdx_map Effect.writer s.pending n
  rw [Mirror.State.advance, hget, herase]
  cases hn : s.pending[n]? with
  | none =>
      rw [Fleet.runEffect, hn]
      rfl
  | some e =>
      rw [Fleet.runEffect, hn]
      cases e with
      | set driver trip => rfl
      | clear driver => rfl
      | reconcile driver dbTripId =>
          show _ = if s.activeTrip driver = dbTripId then _ else _
          dsimp only
          by_cases heq : s.activeTrip driver = dbTripId
          · rw [if_pos heq, repair_eq.1 heq]
            rfl
          · obtain ⟨e, he, hwriter⟩ := repair_eq.2 heq
            rw [if_neg heq, he]
            show (⟨_, _, (s.pending.set n e).map Effect.writer⟩ : Mirror.State ℕ (Option ℕ)) = _
            rw [List.map_set, hwriter]
            rfl

lemma timely_effect_iff (n : ℕ) :
    Timely driver s (.effect n) ↔ Mirror.Timely driver s.mirror (.advance n) := by
  have hget : s.mirror.pending[n]? = (s.pending[n]?).map Effect.writer := List.getElem?_map
  have herase : s.mirror.pending.eraseIdx n = (s.pending.eraseIdx n).map Effect.writer :=
    List.eraseIdx_map Effect.writer s.pending n
  rw [Mirror.Timely, hget, herase, Timely]
  constructor
  · intro hall v hv
    obtain ⟨e, he, hwriter⟩ := Option.map_eq_some_iff.mp hv
    have hdriver : e.driver = driver := by
      rw [← writer_key, hwriter]
      rfl
    have htrip : e.tripId = v := by
      rw [← writer_value, hwriter]
      rfl
    have hwrites : e.Writes := by
      cases e with
      | set driver trip => trivial
      | clear driver => trivial
      | reconcile driver dbTripId => cases hwriter
    rw [← htrip, repairs_iff_current]
    exact hall e he hwrites hdriver
  · intro hall e he hwrites hdriver
    have hwriter : e.writer = .write driver e.tripId := by
      cases e with
      | set d trip => exact congrArg (Mirror.Writer.write · (some trip)) hdriver
      | clear d => exact congrArg (Mirror.Writer.write · none) hdriver
      | reconcile d dbTripId => exact hwrites.elim
    have hor := hall e.tripId (by rw [he, Option.map_some, hwriter])
    rw [repairs_iff_current] at hor
    exact hor

/-! ## The transactions -/

def Sound (s s' : Fleet) (timely : ℕ → Prop) : Prop := Assigned s' ∧ Mirrors s s' timely

lemma Assigned.sound_refl (h : Assigned s) : Sound s s fun _ => True :=
  ⟨h, .inl ⟨rfl, fun _ => trivial⟩⟩

lemma sound_of_commit {e : Effect} (h : Assigned s) (h' : Assigned s')
    (hactive : s'.activeTrip = s.activeTrip) (hpending : s'.pending = s.pending ++ [e])
    (hwriter : e.writer = .write driver e.tripId) (hself : s'.dbTripId driver = e.tripId)
    (hother : ∀ d, d ≠ driver → ∀ i, s'.Names d i ↔ s.Names d i) :
    Sound s s' fun _ => True := by
  refine ⟨h', .inr ⟨.commit driver e.tripId, ?_, fun _ => Iff.rfl⟩⟩
  exact mirror_commit hactive hpending hwriter (dbTripId_update h h' hself hother)

/-- A transaction that changes no driver's active trip. -/
lemma sound_of_names (h : Assigned s) (h' : Assigned s')
    (hnames : ∀ d i, s'.Names d i ↔ s.Names d i) (hactive : s'.activeTrip = s.activeTrip)
    (hpending : s'.pending = s.pending) : Sound s s' fun _ => True :=
  ⟨h', .inl ⟨mirror_congr (fun d => h.dbTripId_congr h' (hnames d)) hactive hpending,
    fun _ => trivial⟩⟩

lemma Assigned.sound_book (h : Assigned s) : Sound s (bookTrip s) fun _ => True := by
  have hfree : ∀ d, ¬ (⟨s.nextTrip, none, some .requested, ""⟩ : Trip).Occupies d :=
    fun d => not_occupies_of_driver rfl
  refine sound_of_names h (h.put rfl (Nat.le_succ _) (Nat.lt_succ_self _) (fun _ => rfl)
    fun d hocc => absurd hocc (hfree d)) (fun d i => ?_) rfl rfl
  rw [names_put rfl]
  constructor
  · rintro (⟨-, hocc⟩ | ⟨-, hnames⟩)
    · exact absurd hocc (hfree d)
    · exact hnames
  · intro hnames
    refine .inr ⟨?_, hnames⟩
    obtain ⟨t, ht, rfl, -⟩ := hnames
    exact Nat.ne_of_lt (h.fresh t ht)

/-- A trip that was free is taken by a driver who was free. -/
lemma Assigned.sound_accept (h : Assigned s) {tripId : ℕ} {mayAccept : Bool}
    (hok : acceptTrip drivers tripId driver mayAccept s = .ok s') :
    Sound s s' fun _ => True := by
  rw [acceptTrip] at hok
  split at hok
  · cases hok
  · rename_i t hget
    obtain ⟨hmem, -⟩ := Table.mem_of_get? hget
    split at hok
    · cases hok
    · rename_i hdriver
      rw [Option.not_isSome_iff_eq_none] at hdriver
      split at hok
      · cases hok
      · split at hok
        · cases hok
        · split at hok
          · cases hok
          · split at hok
            · cases hok
            · rename_i hfree
              rw [not_not] at hfree
              cases hok
              have hnone : ∀ x ∈ s.trips.rows, x.id ≠ t.id → ¬ x.Occupies driver := by
                intro x hx hne hocc
                have hin : x.id ∈ driverActiveTripIds s.trips driver (some t.id) :=
                  mem_driverActiveTripIds.mpr
                    ⟨x, hx, hocc, fun heq => hne (Option.some.inj heq).symm, rfl⟩
                rw [hfree] at hin
                cases hin
              have honly : ∀ d,
                  ({ t with driver := some driver, status := some .accepted } : Trip).Occupies d →
                    d = driver := fun d hocc => (Option.some.inj hocc.1).symm
              have hocc : ({ t with driver := some driver, status := some .accepted } :
                  Trip).Occupies driver := ⟨rfl, .accepted, rfl, by decide⟩
              have h' : Assigned { s with
                  trips := s.trips.put { t with driver := some driver, status := some .accepted }
                  pending := s.pending ++ [.set driver t.id] } := by
                refine h.put rfl (Nat.le_refl _) (h.fresh t hmem) (fun hstatus => ?_)
                  fun d hd x hx hne => ?_
                · simp at hstatus
                · rw [honly d hd]
                  exact hnone x hx hne
              refine sound_of_commit (e := .set driver t.id) h h' rfl rfl rfl ?_ fun d hd i => ?_
              · refine h'.dbTripId_eq_some_iff.mpr ?_
                rw [names_put rfl]
                exact .inl ⟨rfl, hocc⟩
              · rw [names_put rfl]
                constructor
                · rintro (⟨-, hocc'⟩ | ⟨-, hnames⟩)
                  · exact absurd (honly d hocc') hd
                  · exact hnames
                · intro hnames
                  refine .inr ⟨?_, hnames⟩
                  rintro rfl
                  obtain ⟨x, hx, hid, hoccx⟩ := hnames
                  rw [Table.eq_of_mem hx hmem hid] at hoccx
                  exact not_occupies_of_driver hdriver hoccx

lemma Assigned.sound_along (h : Assigned s) (ht : t ∈ s.trips.rows) {c c' : TripStatus}
    (hstatus : t.status = some c) (hc : c ∈ driverActiveTripStatuses)
    (hc' : c' ∈ driverActiveTripStatuses) :
    Sound s { s with trips := s.trips.put { t with status := some c' } } fun _ => True := by
  have hocc : ∀ d, ({ t with status := some c' } : Trip).Occupies d ↔ t.Occupies d := by
    intro d
    constructor
    · rintro ⟨hd, -⟩
      exact ⟨hd, c, hstatus, hc⟩
    · rintro ⟨hd, -⟩
      exact ⟨hd, c', rfl, hc'⟩
  refine sound_of_names h (h.put rfl (Nat.le_refl _) (h.fresh t ht) (fun hin => ?_)
    fun d hd x hx hne hx' => ?_) (fun d i => ?_) rfl rfl
  · exact absurd hin (notMem_of_active hc')
  · have heq : x = t := h.single d x hx t ht hx' ((hocc d).mp hd)
    rw [heq] at hne
    exact hne rfl
  · rw [names_put rfl, hocc]
    constructor
    · rintro (⟨hid, hoccd⟩ | ⟨-, hnames⟩)
      · exact ⟨t, ht, hid, hoccd⟩
      · exact hnames
    · rintro ⟨x, hx, rfl, hoccx⟩
      by_cases hid : x.id = t.id
      · rw [Table.eq_of_mem hx ht hid] at hoccx ⊢
        exact .inl ⟨rfl, hoccx⟩
      · exact .inr ⟨hid, x, hx, rfl, hoccx⟩

lemma Assigned.sound_finish (h : Assigned s) (ht : t ∈ s.trips.rows) {c c' : TripStatus}
    {cancelledBy : String} (hstatus : t.status = some c)
    (hc : c = .requested ∨ c ∈ driverActiveTripStatuses) (hc' : c' = .completed ∨ c' = .cancelled) :
    Sound s (s.finish t c' cancelledBy) fun _ => True := by
  have hover : ∀ d, ¬ ({ t with status := some c', cancelledBy := cancelledBy } : Trip).Occupies d := by
    intro d
    refine not_occupies_of_status rfl ?_
    rcases hc' with rfl | rfl <;> decide
  have h' : Assigned (s.finish t c' cancelledBy) := by
    refine h.put rfl (Nat.le_refl _) (h.fresh t ht) (fun hin => ?_) fun d hd => absurd hd (hover d)
    rcases hc' with rfl | rfl <;> simp at hin
  have hnames : ∀ d i, (s.finish t c' cancelledBy).Names d i ↔ i ≠ t.id ∧ s.Names d i := by
    intro d i
    have hput : (s.finish t c' cancelledBy).trips =
        s.trips.put { t with status := some c', cancelledBy := cancelledBy } := rfl
    rw [names_put hput]
    exact or_iff_right fun hself => hover d hself.2
  cases hdriver : t.driver with
  | none =>
      refine sound_of_names h h' (fun d i => ?_) rfl ?_
      · rw [hnames]
        refine and_iff_right_of_imp ?_
        rintro ⟨x, hx, rfl, hoccx⟩ hid
        rw [Table.eq_of_mem hx ht hid] at hoccx
        exact not_occupies_of_driver hdriver hoccx
      · rw [Fleet.finish, hdriver]
        exact List.append_nil _
  | some driver =>
      have hocc : t.Occupies driver := by
        refine ⟨hdriver, c, hstatus, ?_⟩
        rcases hc with rfl | hc
        · have hnone := h.unassigned t ht (by rw [hstatus]; simp)
          rw [hdriver] at hnone
          cases hnone
        · exact hc
      refine sound_of_commit (e := .clear driver) h h' rfl ?_ rfl ?_ fun d hd i => ?_
      · rw [Fleet.finish, hdriver]
        rfl
      · show _ = none
        rw [Option.eq_none_iff_forall_ne_some]
        intro i hi
        obtain ⟨hne, x, hx, rfl, hoccx⟩ := (hnames driver i).mp (h'.dbTripId_eq_some_iff.mp hi)
        exact hne (congrArg Trip.id (h.single driver x hx t ht hoccx hocc))
      · rw [hnames]
        refine and_iff_right_of_imp ?_
        rintro ⟨x, hx, rfl, hoccx⟩ hid
        rw [Table.eq_of_mem hx ht hid, Trip.Occupies, hdriver] at hoccx
        exact hd (Option.some.inj hoccx.1).symm

lemma Assigned.sound_update (h : Assigned s) {tripId : ℕ} {c : Command} {otpMatches : Bool}
    {cancelledBy : String} (hok : updateTripStatus tripId c otpMatches cancelledBy s = .ok s') :
    Sound s s' fun _ => True := by
  rw [updateTripStatus] at hok
  split at hok
  · cases hok
  · rename_i t hget
    obtain ⟨hmem, -⟩ := Table.mem_of_get? hget
    split at hok
    · cases hok
    · rename_i hallowed
      rw [not_not] at hallowed
      obtain ⟨from', hfrom, hstatus⟩ := List.mem_map.mp hallowed
      cases c with
      | reached =>
          cases hok
          refine h.sound_along hmem hstatus.symm ?_ (by decide)
          revert hfrom
          cases from' <;> decide
      | inProgress =>
          dsimp only at hok
          split at hok
          · cases hok
          · cases hok
            refine h.sound_along hmem hstatus.symm ?_ (by decide)
            revert hfrom
            cases from' <;> decide
      | completed =>
          cases hok
          refine h.sound_finish hmem hstatus.symm ?_ (.inl rfl)
          revert hfrom
          cases from' <;> decide
      | cancelled =>
          cases hok
          refine h.sound_finish hmem hstatus.symm ?_ (.inr rfl)
          revert hfrom
          cases from' <;> decide

lemma Assigned.sound_driverCancel (h : Assigned s) {tripId : ℕ}
    (hok : cancelTripDriver tripId driver s = .ok s') : Sound s s' fun _ => True := by
  rw [cancelTripDriver] at hok
  split at hok
  · cases hok
  · rename_i t hget
    split at hok
    · cases hok
    · split at hok
      · cases hok
      · rename_i hstatus
        cases hok
        simp only [List.mem_cons, List.not_mem_nil, or_false, not_not] at hstatus
        rcases hstatus with hstatus | hstatus
        · exact h.sound_finish (Table.mem_of_get? hget).1 hstatus (.inr (by decide)) (.inr rfl)
        · exact h.sound_finish (Table.mem_of_get? hget).1 hstatus (.inr (by decide)) (.inr rfl)

lemma Assigned.sound_riderCancel (h : Assigned s) {tripId : ℕ}
    (hok : cancelTripRider tripId s = .ok s') : Sound s s' fun _ => True := by
  rw [cancelTripRider] at hok
  split at hok
  · cases hok
  · rename_i t hget
    split at hok
    · cases hok
    · split at hok
      · cases hok
      · rename_i hstatus
        cases hok
        simp only [List.mem_cons, List.not_mem_nil, or_false, not_not] at hstatus
        have hmem := (Table.mem_of_get? hget).1
        rcases hstatus with hstatus | hstatus | hstatus | hstatus
        · exact h.sound_finish hmem hstatus (.inl rfl) (.inr rfl)
        · exact h.sound_finish hmem hstatus (.inr (by decide)) (.inr rfl)
        · exact h.sound_finish hmem hstatus (.inr (by decide)) (.inr rfl)
        · exact h.sound_finish hmem hstatus (.inr (by decide)) (.inr rfl)

lemma Assigned.sound_operatorCancel (h : Assigned s) {tripId : ℕ}
    (hok : operatorCancel tripId s = .ok s') : Sound s s' fun _ => True := by
  rw [operatorCancel] at hok
  split at hok
  · cases hok
  · rename_i t hget
    split at hok
    · cases hok
    · split at hok
      · cases hok
      · rename_i hstatus
        cases hok
        simp only [List.mem_cons, List.not_mem_nil, or_false, not_not] at hstatus
        have hmem := (Table.mem_of_get? hget).1
        rcases hstatus with hstatus | hstatus | hstatus
        · exact h.sound_finish hmem hstatus (.inl rfl) (.inr rfl)
        · exact h.sound_finish hmem hstatus (.inr (by decide)) (.inr rfl)
        · exact h.sound_finish hmem hstatus (.inr (by decide)) (.inr rfl)

lemma Assigned.sound_operatorEnd (h : Assigned s) {tripId : ℕ} {mayEnd : Bool}
    (hok : operatorEnd tripId mayEnd s = .ok s') : Sound s s' fun _ => True := by
  rw [operatorEnd] at hok
  split at hok
  · cases hok
  · rename_i t hget
    split at hok
    · cases hok
    · split at hok
      · cases hok
      · rename_i hstatus
        split at hok
        · cases hok
        · cases hok
          exact h.sound_finish (Table.mem_of_get? hget).1 (not_not.mp hstatus)
            (.inr (by decide)) (.inl rfl)

/-- A transaction is accepted and sound, or refused. -/
lemma Assigned.sound_commit (h : Assigned s) {r : Except String Fleet}
    (hr : ∀ s', r = .ok s' → Sound s s' fun _ => True) :
    Sound s (s.commit r) fun _ => True := by
  cases r with
  | ok s' => exact hr s' rfl
  | error code => exact h.sound_refl

/-- An effect and the first half of a sweep change no trip. -/
lemma Assigned.of_trips (h : Assigned s) (htrips : s'.trips = s.trips)
    (hnext : s'.nextTrip = s.nextTrip) : Assigned s' := by
  obtain ⟨hfresh, hunassigned, hsingle⟩ := h
  refine ⟨?_, ?_, ?_⟩
  · rw [htrips, hnext]
    exact hfresh
  · rw [htrips]
    exact hunassigned
  · rw [htrips]
    exact hsingle

lemma runEffect_trips (n : ℕ) :
    (s.runEffect n).trips = s.trips ∧ (s.runEffect n).nextTrip = s.nextTrip := by
  rw [Fleet.runEffect]
  split
  · exact ⟨rfl, rfl⟩
  · exact ⟨rfl, rfl⟩
  · exact ⟨rfl, rfl⟩
  · split <;> exact ⟨rfl, rfl⟩

/-- Every step is one of the mirror, or none. -/
theorem Assigned.sound_step (h : Assigned s) (a : Act) :
    Sound s (step drivers s a) fun driver => Timely driver s a := by
  cases a with
  | book => exact h.sound_book
  | accept tripId driver mayAccept => exact h.sound_commit fun _ hok => h.sound_accept hok
  | update tripId c otpMatches cancelledBy => exact h.sound_commit fun _ hok => h.sound_update hok
  | driverCancel tripId driver => exact h.sound_commit fun _ hok => h.sound_driverCancel hok
  | riderCancel tripId => exact h.sound_commit fun _ hok => h.sound_riderCancel hok
  | operatorCancel tripId => exact h.sound_commit fun _ hok => h.sound_operatorCancel hok
  | operatorEnd tripId mayEnd => exact h.sound_commit fun _ hok => h.sound_operatorEnd hok
  | sweep driver =>
      show Sound s (sweep drivers driver s) fun _ => True
      rw [sweep]
      split
      · refine ⟨h.of_trips rfl rfl, .inr ⟨.look driver, ?_, fun _ => Iff.rfl⟩⟩
        rw [Fleet.mirror, List.map_append, List.map_singleton]
        rfl
      · exact h.sound_refl
  | effect n =>
      exact ⟨h.of_trips (runEffect_trips n).1 (runEffect_trips n).2,
        .inr ⟨.advance n, mirror_runEffect n, fun _ => timely_effect_iff n⟩⟩

lemma Assigned.settled_step_iff (h : Assigned s) (hsettled : Settled driver s) (a : Act) :
    Settled driver (step drivers s a) ↔ Timely driver s a := by
  rw [settled_iff_mirror] at hsettled ⊢
  have hsound : Sound s (step drivers s a) fun driver => Timely driver s a := h.sound_step a
  obtain ⟨-, ⟨hmirror, htimely⟩ | ⟨m, hmirror, htimely⟩⟩ := hsound
  · rw [hmirror]
    exact iff_of_true hsettled (htimely driver)
  · rw [hmirror]
    exact (Mirror.settled_step_iff hsettled).trans (htimely driver).symm

end Mirrors

/-! ## The runs -/

section Runs

variable {s : Fleet} {driver : ℕ}

lemma assigned_opening : Assigned Fleet.opening :=
  ⟨fun _ ht => (List.not_mem_nil ht).elim, fun _ ht => (List.not_mem_nil ht).elim,
    fun _ _ ht => (List.not_mem_nil ht).elim⟩

/-- A settled driver with nothing still to run has the entry of its active trip. -/
lemma Settled.agrees (hsettled : Settled driver s) (h : Assigned s) (hdrained : Drained driver s) :
    Agrees driver s := by
  intro i
  rcases hsettled with heq | ⟨e, he, hdriver, -⟩
  · rw [heq]
    exact h.dbTripId_eq_some_iff
  · exact absurd hdriver (hdrained e he)

/-- A run keeps the driver settled exactly when every write that takes effect carries what the
database holds or leaves another step that does; and wherever such a run leaves no step of the
driver to run, the entry names the trip that occupies the driver. -/
theorem agrees_of_timely (drivers : List ℕ) (driver : ℕ) (as : List Act) :
    ((∀ bs, bs <+: as → Settled driver (Transition.run (step drivers) Fleet.opening bs)) ↔
      Transition.Guarded (step drivers) (Timely driver) Fleet.opening as) ∧
    (Transition.Guarded (step drivers) (Timely driver) Fleet.opening as →
      ∀ bs, bs <+: as → Drained driver (Transition.run (step drivers) Fleet.opening bs) →
        Agrees driver (Transition.run (step drivers) Fleet.opening bs)) := by
  have hiff : (∀ bs, bs <+: as →
        Settled driver (Transition.run (step drivers) Fleet.opening bs)) ↔
      Transition.Guarded (step drivers) (Timely driver) Fleet.opening as :=
    Transition.forall_prefix_iff_guarded (I := Assigned) (J := Settled driver)
      (fun s a h => (h.sound_step a).1) (fun s a h hsettled => h.settled_step_iff hsettled a)
      assigned_opening (.inl rfl)
  refine ⟨hiff, fun hguarded bs hbs hdrained => ?_⟩
  exact (hiff.mpr hguarded bs hbs).agrees
    (Transition.invariant (fun s a h => (h.sound_step a).1) bs assigned_opening) hdrained

end Runs

/-! ### A late deletion -/

/-- The deletion of the entry of trip 1 is delayed until the driver has accepted trip 2. -/
def lateClear : List Act :=
  [.book, .book, .accept 1 7 true, .effect 0, .update 1 .inProgress true "",
    .update 1 .completed true "", .accept 2 7 true, .effect 1, .effect 0]

/-- The deletion of the entry of trip 1 runs before the driver accepts trip 2. -/
def promptClear : List Act :=
  [.book, .book, .accept 1 7 true, .effect 0, .update 1 .inProgress true "",
    .update 1 .completed true "", .effect 0, .accept 2 7 true, .effect 0]

/-- All steps have run, and the entry of the driver names trip 2. -/
theorem agrees_promptClear :
    Agrees 7 (Transition.run (step [7]) Fleet.opening promptClear) := by
  refine (agrees_of_timely [7] 7 promptClear).2 ?_ promptClear List.prefix_rfl ?_
  · decide +kernel
  · simp only [Drained]
    decide +kernel

/-- All steps have run, the driver is on trip 2, and has no entry. -/
theorem not_agrees_lateClear :
    Drained 7 (Transition.run (step [7]) Fleet.opening lateClear) ∧
      ¬ Agrees 7 (Transition.run (step [7]) Fleet.opening lateClear) := by
  refine ⟨by simp only [Drained]; decide +kernel, fun hagrees => ?_⟩
  have hnames := (hagrees 2).mpr ⟨⟨2, some 7, some .accepted, ""⟩, by decide +kernel, rfl,
    by decide⟩
  revert hnames
  decide +kernel

end SaaradhiGo.Rides
