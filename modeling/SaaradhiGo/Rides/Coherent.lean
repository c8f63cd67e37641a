/-
The columns of a trip, the start, and the counts of the drivers.

In every interleaving the columns of a trip agree with its status, and a trip enters its ride only
by a command that brings the OTP its accept has written.  The count of a driver and the number of
completed trips of the driver grow together as long as no full save of the driver writes an old
count back.
-/
import SaaradhiGo.Rides.Forward

namespace SaaradhiGo.Rides.Lifecycle

open TwoPhase TwoPhase.Txn

section Columns

variable {r : Request} {s s' : Db} {t t' : Trip}

/-! ## The columns -/

/-- The columns of a trip agree with its status. -/
structure Coherent (t : Trip) : Prop where
  waiting : t.status ∈ [none, some .requested] → t.driver = none
  driven : t.status ∈ [some .accepted, some .reached, some .inProgress, some .completed] →
    t.driver ≠ none ∧ t.vehicle ≠ none ∧ t.otp ≠ none ∧ t.acceptedAt ≠ none
  reached : t.status = some .reached → t.reachedAt ≠ none
  started : t.status ∈ [some .inProgress, some .completed] → t.startedAt ≠ none
  completed : t.completedAt ≠ none ↔ t.status = some .completed
  cancelled : t.cancelledAt ≠ none ↔ t.status = some .cancelled
  cancelledBy : t.cancelledBy ≠ "" ↔ t.status = some .cancelled

/-- Every row agrees with its status. -/
def AllCoherent (db : Db) : Prop := ∀ id t, db.trips.get? id = some t → Coherent t

lemma coherent_book (i : BookInput) (id : ℕ) : Coherent (i.trip id) where
  waiting := fun _ => rfl
  driven := fun h => by simp [BookInput.trip] at h
  reached := fun h => by simp [BookInput.trip] at h
  started := fun h => by simp [BookInput.trip] at h
  completed := by simp [BookInput.trip]
  cancelled := by simp [BookInput.trip]
  cancelledBy := by simp [BookInput.trip]

lemma open_columns (h : Coherent t) (ho : ¬ t.Over) :
    t.completedAt = none ∧ t.cancelledAt = none ∧ t.cancelledBy = "" := by
  refine ⟨?_, ?_, ?_⟩
  · exact not_not.mp fun hc => ho (.inl (h.completed.mp hc))
  · exact not_not.mp fun hc => ho (.inr (h.cancelled.mp hc))
  · exact not_not.mp fun hc => ho (.inr (h.cancelledBy.mp hc))

lemma coherent_accepted (h : Coherent t) (d : Driver) (i : AcceptInput)
    (hfrom : t.status ∈ [none, some .requested]) (hvehicle : d.activeVehicle ≠ none) :
    Coherent (t.accepted d i) := by
  have ho : ¬ t.Over := by
    rintro (ho | ho) <;> simp [ho] at hfrom
  obtain ⟨hcompleted, hcancelled, hby⟩ := open_columns h ho
  constructor
  · intro hs
    simp [Trip.accepted] at hs
  · intro _
    simp [Trip.accepted, hvehicle]
  · intro hs
    simp [Trip.accepted] at hs
  · intro hs
    simp [Trip.accepted] at hs
  · simp [Trip.accepted, hcompleted]
  · simp [Trip.accepted, hcancelled]
  · simp [Trip.accepted, hby]

lemma coherent_commanded (h : Coherent t) (i : UpdateInput)
    (hfrom : t.status ∈ i.command.allowedFrom.map some) (hend : i.command ≠ .completed) :
    Coherent (t.commanded i) := by
  obtain ⟨trip, command, otp, cancelledBy, reason, now, raises⟩ := i
  have ho : ¬ t.Over := by
    rintro (ho | ho) <;> cases command <;> simp [ho, Command.allowedFrom] at hfrom
  obtain ⟨hcompleted, hcancelled, hby⟩ := open_columns h ho
  cases command with
  | reached =>
      have hs : t.status = some .accepted := by simpa [Command.allowedFrom] using hfrom
      have hdriven := h.driven (by simp [hs])
      exact ⟨by simp [Trip.commanded], fun _ => hdriven, by simp [Trip.commanded],
        by simp [Trip.commanded], by simp [Trip.commanded, hcompleted],
        by simp [Trip.commanded, hcancelled], by simp [Trip.commanded, hby]⟩
  | inProgress =>
      have hs : t.status = some .accepted ∨ t.status = some .reached := by
        simpa [Command.allowedFrom] using hfrom
      have hdriven := h.driven (by obtain hs | hs := hs <;> simp [hs])
      exact ⟨by simp [Trip.commanded], fun _ => hdriven, by simp [Trip.commanded],
        by simp [Trip.commanded], by simp [Trip.commanded, hcompleted],
        by simp [Trip.commanded, hcancelled], by simp [Trip.commanded, hby]⟩
  | completed => exact absurd rfl hend
  | cancelled =>
      have hby' : (if cancelledBy = "" then "system" else cancelledBy) ≠ "" := by
        split
        · decide
        · assumption
      exact ⟨by simp [Trip.commanded], by simp [Trip.commanded], by simp [Trip.commanded],
        by simp [Trip.commanded], by simp [Trip.commanded, hcompleted],
        by simp [Trip.commanded], by simpa [Trip.commanded] using hby'⟩

lemma coherent_cancelled (h : Coherent t) (cancelledBy reason : String) (now : ℤ)
    (fee : Option ℤ) (hfrom : t.status ∉ [some .completed, some .cancelled])
    (hby : cancelledBy ≠ "") :
    Coherent { t.cancelled cancelledBy reason now with cancellationFeeMinor := fee } := by
  have ho : ¬ t.Over := by
    rintro (ho | ho) <;> simp [ho] at hfrom
  obtain ⟨hcompleted, -, -⟩ := open_columns h ho
  exact ⟨by simp [Trip.cancelled], by simp [Trip.cancelled], by simp [Trip.cancelled],
    by simp [Trip.cancelled], by simp [Trip.cancelled, hcompleted], by simp [Trip.cancelled],
    by simp [Trip.cancelled, hby]⟩

lemma coherent_ended (h : Coherent t) (rule : String) (now : ℤ)
    (hfrom : t.status = some .inProgress) : Coherent (t.ended rule now) := by
  have ho : ¬ t.Over := by
    rintro (ho | ho) <;> simp [ho] at hfrom
  obtain ⟨-, hcancelled, hby⟩ := open_columns h ho
  have hdriven := h.driven (by simp [hfrom])
  have hstarted := h.started (by simp [hfrom])
  exact ⟨by simp [Trip.ended], fun _ => hdriven, by simp [Trip.ended], fun _ => hstarted,
    by simp [Trip.ended], by simp [Trip.ended, hcancelled], by simp [Trip.ended, hby]⟩

lemma coherent_turn (h : Coherent t) (hturn : Turn r s t t') : Coherent t' := by
  cases hturn with
  | accepted d i hfree hfrom hvehicle hother => exact coherent_accepted h d i hfrom hvehicle
  | commanded i hid hfrom hotp hend => exact coherent_commanded h i hfrom hend
  | cancelled cancelledBy reason now fee hfrom hby =>
      exact coherent_cancelled h cancelledBy reason now fee hfrom hby

lemma allCoherent_save (h : AllCoherent s) (ht : Coherent t') : AllCoherent (s.save t') := by
  intro id r hr
  obtain ⟨-, rfl⟩ | ⟨-, hr⟩ := of_get?_save hr
  · exact ht
  · exact h id r hr

lemma allCoherent_outcome (h : AllCoherent s) (ho : Outcome r s s') : AllCoherent s' := by
  induction ho with
  | same => exact h
  | booked i hnew =>
      intro id t ht
      rw [get?_book hnew] at ht
      split at ht
      · rw [← Option.some.inj ht]
        exact coherent_book i _
      · exact h id t ht
  | turned t t' ht hid hturn => exact allCoherent_save h (coherent_turn (h _ _ ht) hturn)
  | ended t rule now ht hfrom =>
      intro id r hr
      rw [trips_counted] at hr
      exact allCoherent_save h (coherent_ended (h _ _ ht) rule now hfrom) id r hr
  | driver _ id g hg hcount ih => exact ih
  | saved held hr => exact h

/-- In every interleaving the columns of every trip agree with its status: who drives it, in what,
with which OTP, when it was accepted, started and ended, and who cancelled it. -/
theorem columns_agree_with_status {τ : Type} [DecidableEq τ] {db : Db} (h : AllCoherent db)
    (ms : List (Move τ Request)) : AllCoherent (ridesAfter db ms).db :=
  System.invariant_run agreement_keep sound_transaction
    (fun r s hs => allCoherent_outcome hs (outcome_transaction r s)) h ms

lemma allCoherent_twoDrivers : AllCoherent twoDrivers := by
  intro id t ht
  simp [twoDrivers] at ht

/-- Also when two accepts meet. -/
theorem columns_agree_after_two_accepts : AllCoherent (ridesAfter twoDrivers twoAccepts).db :=
  columns_agree_with_status allCoherent_twoDrivers twoAccepts

/-! ## The start -/

lemma started_outcome (ho : Outcome r s s') (h : AllCoherent s) {id : ℕ}
    (ht : s.trips.get? id = some t) (ht' : s'.trips.get? id = some t')
    (hbefore : t.status ≠ some .inProgress) (hafter : t'.status = some .inProgress) :
    ∃ i, r = .updateTripStatus i ∧ i.command = .inProgress ∧ i.trip = id ∧
      t.otp = some i.otp ∧ t.driver ≠ none := by
  induction ho with
  | same =>
      rw [ht, Option.some.injEq] at ht'
      exact absurd (ht' ▸ hafter) hbefore
  | booked i hnew =>
      have hkeep : Keep Set.univ s (s.book i) := keep_book i
      have hkept := hkeep.trips id t (Set.mem_univ _) ht
      rw [hkept, Option.some.injEq] at ht'
      exact absurd (ht' ▸ hafter) hbefore
  | turned u u' hu hid hturn =>
      obtain ⟨hidu, rfl⟩ | ⟨-, hkept⟩ := of_get?_save ht'
      · have hut : u = t := by
          rw [hidu, hid, hu, Option.some.injEq] at ht
          exact ht
        subst hut
        cases hturn with
        | accepted d i hfree hfrom hvehicle hother => simp [Trip.accepted] at hafter
        | commanded i hi hfrom hotp hend =>
            obtain ⟨trip, command, otp, cancelledBy, reason, now, raises⟩ := i
            cases command with
            | reached => simp [Trip.commanded] at hafter
            | inProgress =>
                have hin : u.status = some .accepted ∨ u.status = some .reached := by
                  simpa [Command.allowedFrom] using hfrom
                obtain ⟨hdriver, -, hsome, -⟩ :=
                  (h _ _ hu).driven (by obtain hs | hs := hin <;> simp [hs])
                obtain ⟨o, ho⟩ := Option.ne_none_iff_exists'.mp hsome
                have hotp' : o = otp := by simpa [Trip.otpText, ho] using hotp rfl
                refine ⟨_, rfl, rfl, ?_, ?_, hdriver⟩
                · exact hi.trans (hid.symm.trans hidu.symm)
                · rw [ho, hotp']
            | completed => exact absurd rfl hend
            | cancelled => simp [Trip.commanded] at hafter
        | cancelled cancelledBy reason now fee hfrom hby => simp [Trip.cancelled] at hafter
      · rw [ht, Option.some.injEq] at hkept
        exact absurd (hkept ▸ hafter) hbefore
  | ended u rule now hu hfrom =>
      rw [trips_counted] at ht'
      obtain ⟨-, rfl⟩ | ⟨-, hkept⟩ := of_get?_save ht'
      · simp [Trip.ended] at hafter
      · rw [ht, Option.some.injEq] at hkept
        exact absurd (hkept ▸ hafter) hbefore
  | driver _ _ g hg hcount ih => exact ih ht'
  | saved held hr =>
      have hsame : t = t' := Option.some.inj (ht.symm.trans ht')
      exact absurd (hsame.symm ▸ hafter) hbefore

/-- In every interleaving a trip enters its ride only by the commit of a start command for it that
brings the OTP the trip has, and the trip has a driver by then. -/
theorem started_with_its_otp {τ : Type} [DecidableEq τ] {db : Db} (h : AllCoherent db)
    (ms : List (Move τ Request)) (m : Move τ Request) {id : ℕ} {t t' : Trip}
    (ht : (ridesAfter db ms).db.trips.get? id = some t)
    (ht' : (ridesAfter db (ms ++ [m])).db.trips.get? id = some t')
    (hbefore : t.status ≠ some .inProgress) (hafter : t'.status = some .inProgress) :
    ∃ i, (ridesAfter db (ms ++ [m])).log =
        (ridesAfter db ms).log ++ [.updateTripStatus i] ∧
      i.command = .inProgress ∧ i.trip = id ∧ t.otp = some i.otp ∧ t.driver ≠ none := by
  have hcoherent := columns_agree_with_status h ms
  have hvalid : (ridesAfter db ms).Valid (Known Keep transaction) :=
    System.valid_run agreement_keep sound_transaction db ms
  rw [ridesAfter_snoc] at ht' ⊢
  generalize ridesAfter db ms = p at ht ht' hcoherent hvalid
  obtain ⟨hdb, -⟩ | ⟨_, r, _, -, -, hdb, hlog⟩ := System.step_cases agreement_keep hvalid m
  · have hsame : (ridesStep p m).db = p.db := hdb
    rw [hsame, ht, Option.some.injEq] at ht'
    exact absurd (ht' ▸ hafter) hbefore
  · have hdb' : (ridesStep p m).db = (transaction r).atomic p.db := hdb
    rw [hdb'] at ht'
    obtain ⟨i, rfl, hrest⟩ :=
      started_outcome (outcome_transaction r p.db) hcoherent ht ht' hbefore hafter
    exact ⟨i, hlog, hrest⟩

/-- The driver starts the first trip with its OTP, up to the commit. -/
def starting : List (Move Bool Request) :=
  twoAccepts ++ [.start true (.updateTripStatus ⟨0, .inProgress, "1111", "", "", 20, false⟩),
    .next true]

/-- The commit of the start. -/
theorem first_trip_starts :
    ∃ i, (ridesAfter twoDrivers (starting ++ [.next true])).log =
        (ridesAfter twoDrivers starting).log ++ [.updateTripStatus i] ∧
      i.command = .inProgress ∧ i.trip = 0 ∧ some "1111" = some i.otp ∧ some 0 ≠ none :=
  started_with_its_otp (t := (⟨0, 1, some 0, some 5, some .accepted, some "1111", some 10, none,
      none, none, none, "", "", none, "", none⟩ : Trip))
    allCoherent_twoDrivers starting (.next true) (by decide +kernel) rfl (by decide) rfl

/-! ## The counts -/

def Trip.CompletedBy (t : Trip) (driver : ℕ) : Prop :=
  t.driver = some driver ∧ t.status = some .completed

instance (t : Trip) (driver : ℕ) : Decidable (t.CompletedBy driver) :=
  inferInstanceAs (Decidable (_ ∧ _))

def Db.completedTrips (db : Db) (driver : ℕ) : ℤ :=
  db.trips.table.sum fun t => if t.CompletedBy driver then 1 else 0

/-- No driver is lost, and the count of each grows by the trips that the driver completes. -/
def Counted (s s' : Db) : Prop :=
  ∀ id d, s.drivers.get? id = some d → ∃ d', s'.drivers.get? id = some d' ∧
    d'.totalTrips - d.totalTrips = s'.completedTrips id - s.completedTrips id

lemma Counted.refl (s : Db) : Counted s s := fun _ d hd => ⟨d, hd, by simp⟩

lemma Counted.trans {u : Db} (h : Counted s s') (h' : Counted s' u) : Counted s u := by
  intro id d hd
  obtain ⟨d', hd', hcount⟩ := h id d hd
  obtain ⟨d'', hd'', hcount'⟩ := h' id d' hd'
  exact ⟨d'', hd'', by omega⟩

lemma save_eq_put (ht : s.trips.get? t'.id = some t) :
    (s.save t').trips.table = s.trips.table.put t' := by
  have hkey : t'.id ∈ s.trips.table.rows.map Trip.id := by
    rw [← id_of_get? ht]
    exact List.mem_map_of_mem (Serial.mem_of_get? ht)
  rw [Table.put, dif_pos hkey]
  simp only [Db.save, Serial.updateWhere, Table.replace, Table.mk.injEq]
  refine List.map_congr_left fun r _ => ?_
  by_cases hr : r.id = t'.id
  · rw [if_pos hr, if_pos hr, hr]
  · rw [if_neg hr, if_neg hr]

lemma completedTrips_save (ht : s.trips.get? t'.id = some t) (driver : ℕ) :
    (s.save t').completedTrips driver = s.completedTrips driver -
      (if t.CompletedBy driver then 1 else 0) + if t'.CompletedBy driver then 1 else 0 := by
  rw [Db.completedTrips, save_eq_put ht, Table.sum_put ht]
  rfl

lemma not_completedBy_of_turn (h : Turn r s t t') (driver : ℕ) :
    ¬ t.CompletedBy driver ∧ ¬ t'.CompletedBy driver := by
  cases h with
  | accepted d i hfree hfrom hvehicle hother =>
      exact ⟨fun hc => by simp [hc.2] at hfrom, fun hc => by
        simp [Trip.CompletedBy, Trip.accepted] at hc⟩
  | commanded i hid hfrom hotp hend =>
      obtain ⟨trip, command, otp, cancelledBy, reason, now, raises⟩ := i
      refine ⟨fun hc => ?_, fun hc => ?_⟩
      · cases command <;> simp [hc.2, Command.allowedFrom] at hfrom
      · cases command
        · simp [Trip.CompletedBy, Trip.commanded] at hc
        · simp [Trip.CompletedBy, Trip.commanded] at hc
        · exact hend rfl
        · simp [Trip.CompletedBy, Trip.commanded] at hc
  | cancelled cancelledBy reason now fee hfrom hby =>
      exact ⟨fun hc => by simp [hc.2] at hfrom, fun hc => by
        simp [Trip.CompletedBy, Trip.cancelled] at hc⟩

lemma counted_updateDriver {id' : ℕ} {g : Driver → Driver} {hg : ∀ d, (g d).id = d.id}
    (hcount : ∀ d, (g d).totalTrips = d.totalTrips) : Counted s (s.updateDriver id' g hg) := by
  intro id d hd
  have hsum : (s.updateDriver id' g hg).completedTrips id = s.completedTrips id := rfl
  by_cases hid : d.id = id'
  · refine ⟨g d, ?_, ?_⟩
    · rw [get?_updateDriver, hd, Option.map_some, if_pos hid]
    · rw [hcount, hsum]
      omega
  · refine ⟨d, ?_, ?_⟩
    · rw [get?_updateDriver, hd, Option.map_some, if_neg hid]
    · rw [hsum]
      omega

def Driver.Current (held : Driver) (db : Db) : Prop :=
  ∀ d, db.drivers.get? held.id = some d → held.totalTrips = d.totalTrips

/-- A full save keeps the counts exactly if the instance holds the count that the row has. -/
lemma counted_saveDriver_iff {held : Driver} :
    Counted s (s.saveDriver held) ↔ held.Current s := by
  have hget : ∀ id d, s.drivers.get? id = some d → (s.saveDriver held).drivers.get? id =
      some (if d.id = held.id then { held with id := d.id, user := d.user } else d) := by
    intro id d hd
    rw [Db.saveDriver, get?_updateDriver, hd, Option.map_some]
  constructor
  · intro h d hd
    obtain ⟨d', hd', hcount⟩ := h _ _ hd
    have hid : d.id = held.id := Serial.pk_of_get? hd
    rw [hget _ _ hd, if_pos hid, Option.some.injEq] at hd'
    have hsum : (s.saveDriver held).completedTrips held.id = s.completedTrips held.id := rfl
    rw [hsum, ← hd'] at hcount
    simp only at hcount
    omega
  · intro h id d hd
    refine ⟨_, hget id d hd, ?_⟩
    have hsum : (s.saveDriver held).completedTrips id = s.completedTrips id := rfl
    rw [hsum]
    by_cases hid : d.id = held.id
    · have hd' : s.drivers.get? held.id = some d := hid ▸ (Serial.pk_of_get? hd).symm ▸ hd
      have hcount := h d hd'
      simp only [hid, if_true]
      omega
    · simp only [hid, if_false]
      omega

lemma counted_outcome (ho : Outcome r s s')
    (hr : ∀ held, r = .saveDriver held → held.Current s) : Counted s s' := by
  induction ho with
  | same => exact Counted.refl s
  | booked i hnew =>
      intro id d hd
      refine ⟨d, by rw [Db.book, if_neg (by simp [hnew])]; exact hd, ?_⟩
      have hrow : ¬ (i.trip s.trips.next).CompletedBy id := fun hc => by
        simp [Trip.CompletedBy, BookInput.trip] at hc
      have hsum : (s.book i).completedTrips id = s.completedTrips id := by
        rw [Db.book, if_neg (by simp [hnew])]
        simp [Db.completedTrips, Table.sum, Serial.insert, Serial.rows, hrow]
      rw [hsum]
      omega
  | turned t t' ht hid hturn =>
      intro id d hd
      refine ⟨d, hd, ?_⟩
      obtain ⟨hnot, hnot'⟩ := not_completedBy_of_turn hturn id
      rw [completedTrips_save (hid.symm ▸ ht), if_neg hnot, if_neg hnot']
      omega
  | ended t rule now ht hfrom =>
      intro id d hd
      have hnot : ¬ t.CompletedBy id := fun hc => by simp [Trip.CompletedBy, hfrom] at hc
      have ht' : s.trips.get? (t.ended rule now).id = some t := ht
      have hsum := completedTrips_save ht' id
      rw [if_neg hnot] at hsum
      rcases hdriver : t.driver with _ | driver
      · have hnot' : ¬ (t.ended rule now).CompletedBy id := fun hc => by
          simp [Trip.CompletedBy, Trip.ended, hdriver] at hc
        refine ⟨d, hd, ?_⟩
        rw [if_neg hnot'] at hsum
        rw [Db.counted, hsum]
        omega
      · have hcompleted : (t.ended rule now).CompletedBy id ↔ driver = id := by
          simp [Trip.CompletedBy, Trip.ended, hdriver]
        have hkept : ((s.save (t.ended rule now)).countTrip driver).completedTrips id =
          (s.save (t.ended rule now)).completedTrips id := rfl
        rw [Db.counted, hkept, hsum]
        by_cases hid : driver = id
        · subst hid
          refine ⟨{ d with totalTrips := d.totalTrips + 1 }, ?_, ?_⟩
          · rw [Db.countTrip, get?_updateDriver]
            have hget : (s.save (t.ended rule now)).drivers.get? driver = some d := hd
            rw [hget, Option.map_some, if_pos (Serial.pk_of_get? hd)]
          · rw [if_pos (hcompleted.mpr rfl)]
            simp
        · refine ⟨d, ?_, ?_⟩
          · rw [Db.countTrip, get?_updateDriver_of_ne (Ne.symm hid)]
            exact hd
          · rw [if_neg fun hc => hid (hcompleted.mp hc)]
            omega
  | driver _ id' g hg hcount ih => exact ih.trans (counted_updateDriver hcount)
  | saved held hsave => exact counted_saveDriver_iff.mpr (hr held hsave)

end Columns

section Timely

variable {τ : Type} [DecidableEq τ]

/-- A full save of a driver that is committed now writes the count that the row has. -/
def Timely (p : RideSystem τ) (m : Move τ Request) : Prop :=
  ∀ t held w, m = .next t → p.session t = some (.saveDriver held, .commit w) → held.Current p.db

lemma counted_step_iff {p : RideSystem τ} (h : p.Valid (Known Keep transaction))
    (m : Move τ Request) : Counted p.db (ridesStep p m).db ↔ Timely p m := by
  constructor
  · rintro hcounted t held w rfl ht
    have hdb : (ridesStep p (.next t)).db = w p.db := by
      simp only [ridesStep, System.step, ht]
    have hsave : w p.db = p.db.saveDriver held := System.commit_eq agreement_keep h ht
    rw [hdb, hsave] at hcounted
    exact counted_saveDriver_iff.mp hcounted
  · intro htimely
    obtain ⟨hdb, -⟩ | ⟨t, r, w, hm, ht, hdb, -⟩ := System.step_cases agreement_keep h m
    · rw [ridesStep, hdb]
      exact Counted.refl _
    · rw [ridesStep, hdb]
      refine counted_outcome (outcome_transaction r p.db) fun held hr => ?_
      exact htimely t held w hm (hr ▸ ht)

/-- Between every two moments of an interleaving no driver is lost and `total_trips` of each driver
grows by exactly the number of trips of the driver that were completed in between, if and only if
every full save of a driver that is committed writes the count that the row has by then. -/
theorem total_trips_count_completed_iff (db : Db) (ms : List (Move τ Request)) :
    (∀ as bs, as ++ bs <+: ms → Counted (ridesAfter db as).db (ridesAfter db (as ++ bs)).db) ↔
      Transition.Guarded ridesStep Timely (System.opening db) ms := by
  have hvalid : ∀ as : List (Move τ Request),
      (ridesAfter db as).Valid (Known Keep transaction) := fun as =>
    System.valid_run agreement_keep sound_transaction db as
  rw [Transition.guarded_iff_forall_prefix]
  constructor
  · intro h as m hp
    have hcounted := h as [m] hp
    rw [ridesAfter_snoc] at hcounted
    exact (counted_step_iff (hvalid as) m).mp hcounted
  -- From one moment on, a move at a time.
  · intro h as bs hp
    induction bs using List.reverseRecOn with
    | nil => rw [List.append_nil]; exact Counted.refl _
    | append_singleton bs m ih =>
        rw [← List.append_assoc] at hp ⊢
        have hbefore := ih ((List.prefix_append _ _).trans hp)
        rw [ridesAfter_snoc]
        exact hbefore.trans ((counted_step_iff (hvalid _) m).mpr (h _ m hp))

end Timely

end SaaradhiGo.Rides.Lifecycle
