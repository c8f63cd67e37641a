/-
What every interleaving of the rides keeps.

Because an interleaving is a run of whole transactions, it is enough to say once what one
transaction alone may do.  From that follow: a driver is on one ride at most; a trip only goes
forward, keeps its driver, and is never written again once it is over; its columns agree with its
status; a trip is started only by a command with its own OTP; and the count of a driver grows by
one with each completed trip.
-/
import SaaradhiGo.Rides.Interleaved
import SaaradhiGo.Lib.TableSum

namespace SaaradhiGo.Rides.Lifecycle

open TwoPhase TwoPhase.Txn

/-! ## What one transaction does -/

/-- The row of a trip moves on without being completed. -/
inductive Turn : Request → Db → Trip → Trip → Prop
  | accepted {s : Db} {t : Trip} (d : Driver) (i : AcceptInput) (hfree : t.driver = none)
      (hfrom : t.status ∈ [none, some .requested]) (hvehicle : d.activeVehicle ≠ none)
      (hother : s.activeTripIds d.id t.id = []) : Turn (.acceptTrip i) s t (t.accepted d i)
  | commanded {s : Db} {t : Trip} (i : UpdateInput) (hid : i.trip = t.id)
      (hfrom : t.status ∈ i.command.allowedFrom.map some)
      (hotp : i.command = .inProgress → t.otpText = i.otp) (hend : i.command ≠ .completed) :
      Turn (.updateTripStatus i) s t (t.commanded i)
  | cancelled {r : Request} {s : Db} {t : Trip} (cancelledBy reason : String) (now : ℤ)
      (fee : Option ℤ) (hfrom : t.status ∉ [some .completed, some .cancelled])
      (hby : cancelledBy ≠ "") :
      Turn r s t { t.cancelled cancelledBy reason now with cancellationFeeMinor := fee }

def Db.counted (db : Db) : Option ℕ → Db
  | none => db
  | some driver => db.countTrip driver

/-- What a transaction alone does to the database.  A write to a driver that leaves its count may
follow the others. -/
inductive Outcome (r : Request) (s : Db) : Db → Prop
  | same : Outcome r s s
  | booked (i : BookInput) (hnew : s.hasRequest i = false) : Outcome r s (s.book i)
  | turned (t t' : Trip) (ht : s.trips.get? t.id = some t) (hid : t'.id = t.id)
      (hturn : Turn r s t t') : Outcome r s (s.save t')
  | ended (t : Trip) (rule : String) (now : ℤ) (ht : s.trips.get? t.id = some t)
      (hfrom : t.status = some .inProgress) :
      Outcome r s ((s.save (t.ended rule now)).counted t.driver)
  | driver {s' : Db} (h : Outcome r s s') (id : ℕ) (g : Driver → Driver)
      (hg : ∀ d, (g d).id = d.id) (hcount : ∀ d, (g d).totalTrips = d.totalTrips) :
      Outcome r s (s'.updateDriver id g hg)
  | saved (held : Driver) (hr : r = .saveDriver held) : Outcome r s (s.saveDriver held)

section Alone

variable {r : Request} {s : Db} {t : Trip} {id : ℕ} {raises : Bool}

lemma outcome_finish {w : Db → Db} (h : Outcome r s (w s)) :
    Outcome r s ((finish raises w).atomic s) := by
  cases raises with
  | true => exact .same
  | false => exact h

lemma outcome_finishCounted {driver : Option ℕ} {w : Db → Db}
    (h : Outcome r s ((w s).counted driver)) :
    Outcome r s ((finishCounted raises driver w).atomic s) := by
  cases driver with
  | none => exact outcome_finish h
  | some d => exact outcome_finish h

lemma outcome_lockTrip {k : Trip → Tx}
    (h : ∀ t, s.trips.get? t.id = some t → t.id = id → Outcome r s ((k t).atomic s)) :
    Outcome r s ((lockTrip id k).atomic s) := by
  rw [lockTrip, atomic_lock]
  rcases hget : s.trips.get? id with _ | t
  · exact .same
  · have hid := id_of_get? hget
    exact h t (hid.symm ▸ hget) hid

lemma outcome_lockDriver {k : Driver → Tx}
    (h : ∀ d, s.drivers.get? d.id = some d → Outcome r s ((k d).atomic s)) :
    Outcome r s ((lockDriver id k).atomic s) := by
  rw [lockDriver, atomic_lock]
  rcases hget : s.drivers.get? id with _ | d
  · exact .same
  · have hid := Serial.pk_of_get? hget
    exact h d (hid.symm ▸ hget)

lemma outcome_update {f : Trip → Trip} {hf : ∀ t, (f t).id = t.id}
    (ht : s.trips.get? t.id = some t) (hturn : Turn r s t (f t)) :
    Outcome r s (s.update t.id f hf) := by
  rw [update_eq_save ht]
  exact .turned t _ ht (hf t) hturn

lemma outcome_ended {f : Trip → Trip} {hf : ∀ t, (f t).id = t.id} {rule : String} {now : ℤ}
    (ht : s.trips.get? t.id = some t) (hfrom : t.status = some .inProgress)
    (hrow : f t = t.ended rule now) : Outcome r s ((s.update t.id f hf).counted t.driver) := by
  rw [update_eq_save ht, hrow]
  exact .ended t rule now ht hfrom

lemma outcome_cancel {cancelledBy reason : String} {now : ℤ} (ht : s.trips.get? t.id = some t)
    (hfrom : t.status ∉ [some .completed, some .cancelled]) (hby : cancelledBy ≠ "") :
    Outcome r s (s.cancel t.id cancelledBy reason now) :=
  outcome_update ht (.cancelled cancelledBy reason now t.cancellationFeeMinor hfrom hby)

lemma outcome_acceptTrip (i : AcceptInput) :
    Outcome (.acceptTrip i) s ((acceptTrip i).atomic s) := by
  refine outcome_lockTrip fun t ht _ => ?_
  split
  · exact .same
  next hdriver =>
  split
  · exact .same
  next hfrom =>
  refine outcome_lockDriver fun d hd => ?_
  split
  · exact .same
  split
  · exact .same
  split
  · exact .same
  next hvehicle =>
  split
  · exact .same
  split
  · exact .driver .same _ _ _ fun _ => rfl
  rw [atomic_read]
  split
  · exact .same
  next hother =>
  have hnone : t.driver = none := by simpa using hdriver
  exact outcome_finish (.turned t _ ht rfl
    (.accepted d i hnone (not_not.mp hfrom) hvehicle (not_not.mp hother)))

lemma outcome_updateTripStatus (i : UpdateInput) :
    Outcome (.updateTripStatus i) s ((updateTripStatus i).atomic s) := by
  refine outcome_lockTrip fun t ht hid => ?_
  split
  · exact .same
  next hfrom =>
  split
  · exact .same
  next hotp =>
  have hotp' : i.command = .inProgress → t.otpText = i.otp := by
    intro h
    by_contra hne
    exact hotp ⟨h, hne⟩
  split
  · next hend =>
      have hstatus : t.status = some .inProgress := by
        simpa [hend, Command.allowedFrom] using hfrom
      have hrow : t.commanded i = t.ended t.endRule i.now := by
        rw [Trip.commanded, hend]
        rfl
      refine outcome_finishCounted ?_
      rw [hrow]
      exact .ended t _ _ ht hstatus
  · next hend =>
      exact outcome_finish (.turned t _ ht (id_commanded i)
        (.commanded i hid.symm (not_not.mp hfrom) hotp' hend))

lemma outcome_cancelTripDriver (i : DriverCancelInput) :
    Outcome r s ((cancelTripDriver i).atomic s) := by
  rw [cancelTripDriver, atomic_lock]
  split
  · exact .same
  next t ht =>
  split
  · exact .same
  split
  · exact .same
  split
  · exact .same
  next hfrom =>
  have ht' : s.trips.get? t.id = some t := (id_of_get? ht).symm ▸ ht
  have hin : t.status = some .accepted ∨ t.status = some .reached := by
    simpa [or_iff_not_imp_left] using hfrom
  have hopen : t.status ∉ [some .completed, some .cancelled] := by
    obtain hstatus | hstatus := hin
    · simp [hstatus]
    · simp [hstatus]
  have hcancel : Outcome r s (s.cancel t.id "driver" (clip i.reason) i.now) :=
    outcome_cancel ht' hopen (by decide)
  split
  · exact outcome_finish hcancel
  · exact outcome_finish (.driver hcancel _ _ _ fun _ => rfl)

lemma outcome_riderCancelTrip (i : CancelInput) : Outcome r s ((riderCancelTrip i).atomic s) := by
  refine outcome_lockTrip fun t ht _ => ?_
  split
  · exact .same
  split
  · exact .same
  next hfrom =>
  split
  · exact .same
  · exact outcome_finish (outcome_cancel ht hfrom (by decide))

lemma outcome_autoCancelTrip (now : ℤ) : Outcome r s ((autoCancelTrip id now raises).atomic s) := by
  refine outcome_lockTrip fun t ht _ => ?_
  split
  · exact .same
  split
  · exact .same
  next hfrom =>
  have hfrom' : t.status ∉ [some .completed, some .cancelled] := fun hmem =>
    hfrom (List.mem_append_left _ hmem)
  exact outcome_finish (outcome_cancel ht hfrom' (by decide))

lemma outcome_operatorCancelLocked (i : OperatorInput) (ht : s.trips.get? t.id = some t) :
    Outcome r s ((operatorCancelLocked i t).atomic s) := by
  unfold operatorCancelLocked
  split
  · exact .same
  split
  · exact .same
  next hfrom =>
  refine outcome_finish (outcome_update ht
    (.cancelled "admin" (clip i.reason) i.now _ ?_ (by decide)))
  have hin : t.status = some .requested ∨ t.status = some .accepted ∨ t.status = some .reached := by
    simpa [or_iff_not_imp_left] using hfrom
  obtain hstatus | hstatus | hstatus := hin <;> simp [hstatus]

lemma outcome_staleReleaseDriver (i : ReleaseInput) :
    Outcome r s ((staleReleaseDriver i).atomic s) := by
  refine outcome_lockTrip fun t ht _ => ?_
  split
  · exact .same
  split
  · exact .same
  split
  · exact .same
  split
  · exact .same
  split
  · next hfrom =>
      split
      · exact .same
      · next rule _ =>
          exact outcome_finishCounted (outcome_ended ht hfrom rfl)
  split
  · exact .same
  · exact outcome_operatorCancelLocked _ ht

/-- What a transaction alone may do. -/
theorem outcome_transaction (r : Request) (s : Db) : Outcome r s ((transaction r).atomic s) := by
  cases r with
  | createTrip i =>
      rw [transaction, createTrip, atomic_read]
      by_cases hreq : s.hasRequest i = true
      · rw [if_pos hreq]
        exact .same
      · rw [if_neg hreq]
        exact outcome_finish (.booked i (by simpa using hreq))
  | acceptTrip i => exact outcome_acceptTrip i
  | updateTripStatus i => exact outcome_updateTripStatus i
  | cancelTripDriver i => exact outcome_cancelTripDriver i
  | riderCancelTrip i => exact outcome_riderCancelTrip i
  | autoCancelTrip id now raises => exact outcome_autoCancelTrip now
  | operatorCancel i => exact outcome_lockTrip fun t ht _ => outcome_operatorCancelLocked i ht
  | staleReleaseDriver i => exact outcome_staleReleaseDriver i
  | editDriver id e => exact outcome_lockDriver fun _ _ => .driver .same _ _ _ fun _ => rfl
  | saveDriver held => exact .saved held rfl

@[simp] lemma trips_counted (db : Db) (driver : Option ℕ) :
    (db.counted driver).trips = db.trips := by
  cases driver <;> rfl

end Alone

section Kept

variable {r : Request} {s s' : Db} {t t' : Trip}

/-! ## One ride for a driver -/

/-- No driver has two rides. -/
def OneRide (db : Db) : Prop :=
  ∀ driver id id', db.Occupied driver id → db.Occupied driver id' → id = id'

lemma occupies_of_turn (h : Turn r s t t') {driver : ℕ} (hocc : t'.Occupies driver) :
    t.Occupies driver ∨ s.activeTripIds driver t.id = [] := by
  cases h with
  | accepted d i hfree hfrom hvehicle hother =>
      obtain rfl : d.id = driver := Option.some.inj hocc.1
      exact .inr hother
  | commanded i hid hfrom hotp hend => exact .inl (occupies_of_commanded hfrom hocc)
  | cancelled cancelledBy reason now fee hfrom hby =>
      exact absurd hocc (not_occupies_of_status (.inr rfl))

lemma oneRide_save (h : OneRide s) (ht : s.trips.get? t.id = some t) (hid : t'.id = t.id)
    (hocc : ∀ d, t'.Occupies d → t.Occupies d ∨ s.activeTripIds d t.id = []) :
    OneRide (s.save t') := by
  -- The written trip against a trip that was there before.
  have hnew : ∀ d id r, t'.Occupies d → id ≠ t'.id → s.trips.get? id = some r → r.Occupies d →
      False := by
    intro d id r ho hne hr ho'
    obtain hold | hfree := hocc d ho
    · exact hne ((h d id t.id ⟨r, hr, ho'⟩ ⟨t, ht, hold⟩).trans hid.symm)
    · have hmem : id ∈ s.activeTripIds d t.id := mem_activeTripIds.mpr ⟨⟨r, hr, ho'⟩, hid ▸ hne⟩
      rw [hfree] at hmem
      cases hmem
  rintro d id id' ⟨r, hr, ho⟩ ⟨r', hr', ho'⟩
  obtain ⟨hi, hrt⟩ | ⟨hne, hr₀⟩ := of_get?_save hr
  · obtain ⟨hi', -⟩ | ⟨hne', hr₀'⟩ := of_get?_save hr'
    · exact hi.trans hi'.symm
    · exact (hnew d id' r' (hrt ▸ ho) hne' hr₀' ho').elim
  · obtain ⟨-, hrt'⟩ | ⟨-, hr₀'⟩ := of_get?_save hr'
    · exact (hnew d id r (hrt' ▸ ho') hne hr₀ ho).elim
    · exact h d id id' ⟨r, hr₀, ho⟩ ⟨r', hr₀', ho'⟩

lemma oneRide_of_occupied (h : OneRide s) (hs : ∀ d id, s'.Occupied d id → s.Occupied d id) :
    OneRide s' :=
  fun d id id' ho ho' => h d id id' (hs d id ho) (hs d id' ho')

lemma oneRide_outcome (h : OneRide s) (ho : Outcome r s s') : OneRide s' := by
  induction ho with
  | same => exact h
  | booked i hnew =>
      refine oneRide_of_occupied h fun d id => ?_
      exact (keep_book i : Keep Set.univ s (s.book i)).free d (Set.mem_univ _) id
  | turned t t' ht hid hturn => exact oneRide_save h ht hid fun d => occupies_of_turn hturn
  | ended t rule now ht hfrom =>
      have hsave : OneRide (s.save (t.ended rule now)) :=
        oneRide_save h ht rfl fun d hocc => absurd hocc (not_occupies_of_status (.inl rfl))
      refine oneRide_of_occupied hsave fun d id hocc => ?_
      rwa [Db.Occupied, trips_counted] at hocc
  | driver _ id g hg hcount ih => exact oneRide_of_occupied ih fun d id hocc => hocc
  | saved held hr => exact oneRide_of_occupied h fun d id hocc => hocc

/-- In every interleaving a driver is on one ride at most. -/
theorem one_ride_for_a_driver {τ : Type} [DecidableEq τ] {db : Db} (h : OneRide db)
    (ms : List (Move τ Request)) : OneRide (ridesAfter db ms).db :=
  System.invariant_run agreement_keep sound_transaction
    (fun r s hs => oneRide_outcome hs (outcome_transaction r s)) h ms

def twoDrivers : Db where
  trips := .empty
  drivers := (Serial.empty.insert (fun n => ⟨n, 70, true, false, some 5, none, 0, 0⟩)
    (fun _ => rfl)).insert (fun n => ⟨n, 71, true, false, some 6, none, 0, 0⟩) (fun _ => rfl)

/-- The first driver accepts two trips at once, in two sessions. -/
def twoAccepts : List (Move Bool Request) :=
  [.start true (.createTrip ⟨1, none, false⟩), .next true, .next true,
    .start true (.createTrip ⟨2, none, false⟩), .next true, .next true,
    .start true (.acceptTrip ⟨0, 0, 0, "1111", 10, false⟩),
    .start false (.acceptTrip ⟨1, 0, 0, "2222", 10, false⟩),
    .next true, .next false, .next true, .next false, .next true, .next true,
    .next false, .next false, .next false]

/-- One of two accepts at once leaves the driver with one ride. -/
theorem one_ride_of_two_accepts : OneRide (ridesAfter twoDrivers twoAccepts).db :=
  one_ride_for_a_driver (fun driver id id' ⟨t, ht, _⟩ _ => by simp [twoDrivers] at ht) twoAccepts

/-! ## A trip goes forward -/

/-- How far a trip has come. -/
def Trip.stage (t : Trip) : ℕ :=
  match t.status with
  | none => 0
  | some .requested => 0
  | some .accepted => 1
  | some .reached => 2
  | some .inProgress => 3
  | some .completed => 4
  | some .cancelled => 4

def Trip.Over (t : Trip) : Prop := t.status = some .completed ∨ t.status = some .cancelled

/-- What becomes of a trip. -/
structure Later (t t' : Trip) : Prop where
  rider : t'.rider = t.rider
  /-- a trip keeps its driver, and what the accept has written -/
  driver : t.driver ≠ none → t'.driver = t.driver ∧ t'.vehicle = t.vehicle ∧ t'.otp = t.otp ∧
    t'.acceptedAt = t.acceptedAt
  /-- a trip never goes back -/
  forward : t'.status = t.status ∨ t.stage < t'.stage
  /-- a trip that is over is not written again -/
  final : t.Over → t' = t

/-- No trip is lost, and each becomes what it may become. -/
def Onward (s s' : Db) : Prop :=
  ∀ id t, s.trips.get? id = some t → ∃ t', s'.trips.get? id = some t' ∧ Later t t'

lemma Later.refl (t : Trip) : Later t t :=
  ⟨rfl, fun _ => ⟨rfl, rfl, rfl, rfl⟩, .inl rfl, fun _ => rfl⟩

lemma stage_congr (h : t'.status = t.status) : t'.stage = t.stage := by
  simp only [Trip.stage, h]

lemma Later.trans {u : Trip} (h : Later t t') (h' : Later t' u) : Later t u where
  rider := h'.rider.trans h.rider
  driver := by
    intro hd
    obtain ⟨hdriver, hvehicle, hotp, hat⟩ := h.driver hd
    obtain ⟨hdriver', hvehicle', hotp', hat'⟩ := h'.driver (hdriver ▸ hd)
    exact ⟨hdriver'.trans hdriver, hvehicle'.trans hvehicle, hotp'.trans hotp, hat'.trans hat⟩
  forward := by
    obtain hs | hs := h.forward
    · obtain hs' | hs' := h'.forward
      · exact .inl (hs'.trans hs)
      · exact .inr (stage_congr hs ▸ hs')
    · obtain hs' | hs' := h'.forward
      · exact .inr (by rw [stage_congr hs']; exact hs)
      · exact .inr (hs.trans hs')
  final := by
    intro ho
    have ht := h.final ho
    rw [h'.final (ht ▸ ho), ht]

lemma Onward.refl (s : Db) : Onward s s := fun _ t ht => ⟨t, ht, Later.refl t⟩

lemma Onward.trans {u : Db} (h : Onward s s') (h' : Onward s' u) : Onward s u := by
  intro id t ht
  obtain ⟨t', ht', hl⟩ := h id t ht
  obtain ⟨t'', ht'', hl'⟩ := h' id t' ht'
  exact ⟨t'', ht'', hl.trans hl'⟩

lemma stage_lt_four (h : t.status ∉ [some .completed, some .cancelled]) : t.stage < 4 := by
  rw [Trip.stage]
  rcases hs : t.status with _ | c
  · decide
  · cases c <;> simp_all

lemma later_of_turn (h : Turn r s t t') : Later t t' := by
  cases h with
  | accepted d i hfree hfrom hvehicle hother =>
      have hin : t.status = none ∨ t.status = some .requested := by simpa using hfrom
      refine ⟨rfl, fun hd => absurd hfree hd, .inr ?_, ?_⟩
      · obtain hs | hs := hin <;> simp [Trip.stage, Trip.accepted, hs]
      · rintro (ho | ho) <;> simp [ho] at hin
  | commanded i hid hfrom hotp hend =>
      obtain ⟨trip, command, otp, cancelledBy, reason, now, raises⟩ := i
      cases command with
      | reached =>
          have hs : t.status = some .accepted := by simpa [Command.allowedFrom] using hfrom
          refine ⟨rfl, fun _ => ⟨rfl, rfl, rfl, rfl⟩, .inr ?_, ?_⟩
          · simp [Trip.stage, Trip.commanded, hs]
          · rintro (ho | ho) <;> simp [ho] at hs
      | inProgress =>
          have hin : t.status = some .accepted ∨ t.status = some .reached := by
            simpa [Command.allowedFrom] using hfrom
          refine ⟨rfl, fun _ => ⟨rfl, rfl, rfl, rfl⟩, .inr ?_, ?_⟩
          · obtain hs | hs := hin <;> simp [Trip.stage, Trip.commanded, hs]
          · rintro (ho | ho) <;> simp [ho] at hin
      | completed => exact absurd rfl hend
      | cancelled =>
          have hnot : t.status ∉ [some .completed, some .cancelled] := by
            intro hmem
            obtain hs | hs : t.status = some .completed ∨ t.status = some .cancelled := by
              simpa using hmem
            · simp [hs, Command.allowedFrom] at hfrom
            · simp [hs, Command.allowedFrom] at hfrom
          refine ⟨rfl, fun _ => ⟨rfl, rfl, rfl, rfl⟩, .inr (stage_lt_four hnot), ?_⟩
          rintro (ho | ho) <;> simp [ho] at hnot
  | cancelled cancelledBy reason now fee hfrom hby =>
      refine ⟨rfl, fun _ => ⟨rfl, rfl, rfl, rfl⟩, .inr (stage_lt_four hfrom), ?_⟩
      rintro (ho | ho) <;> simp [ho] at hfrom

lemma onward_save (ht : s.trips.get? t.id = some t) (hid : t'.id = t.id) (hl : Later t t') :
    Onward s (s.save t') := by
  intro id r hr
  by_cases h : id = t'.id
  · have hrt : r = t := by
      rw [h, hid, ht, Option.some.injEq] at hr
      exact hr.symm
    have ht' : s.trips.get? t'.id = some t := hid.symm ▸ ht
    exact ⟨t', by rw [h]; exact get?_save_self ht', hrt ▸ hl⟩
  · exact ⟨r, by rw [get?_save_of_ne h]; exact hr, Later.refl r⟩

lemma onward_outcome (ho : Outcome r s s') : Onward s s' := by
  induction ho with
  | same => exact Onward.refl s
  | booked i hnew =>
      intro id t ht
      have hkeep : Keep Set.univ s (s.book i) := keep_book i
      exact ⟨t, hkeep.trips id t (Set.mem_univ _) ht, Later.refl t⟩
  | turned t t' ht hid hturn => exact onward_save ht hid (later_of_turn hturn)
  | ended t rule now ht hfrom =>
      have hl : Later t (t.ended rule now) := by
        refine ⟨rfl, fun _ => ⟨rfl, rfl, rfl, rfl⟩, .inr ?_, ?_⟩
        · simp [Trip.stage, Trip.ended, hfrom]
        rintro (ho | ho) <;> simp [ho] at hfrom
      have hsave : Onward s (s.save (t.ended rule now)) := onward_save ht rfl hl
      intro id r hr
      obtain ⟨r', hr', hl'⟩ := hsave id r hr
      exact ⟨r', by rw [trips_counted]; exact hr', hl'⟩
  | driver _ id g hg hcount ih => exact ih
  | saved held hr => exact Onward.refl s

/-- Between any two moments of any interleaving no trip is lost, goes back, changes its rider or
its driver, or is written after it was over. -/
theorem trips_go_forward {τ : Type} [DecidableEq τ] (db : Db) (ms ms' : List (Move τ Request)) :
    Onward (ridesAfter db ms).db (ridesAfter db (ms ++ ms')).db :=
  System.relation_run agreement_keep sound_transaction Onward.refl (fun _ _ _ => Onward.trans)
    (fun r s => onward_outcome (outcome_transaction r s)) db ms ms'

end Kept

end SaaradhiGo.Rides.Lifecycle
