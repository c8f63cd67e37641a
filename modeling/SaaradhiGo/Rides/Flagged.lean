/-
What the sweeps flag.

A flag is written from what the query read, so it is right as long as nothing is heard of a trip
between the query and the write.  A sweep takes the first of the silent trips, flagged ones among
them, so a trip that stands behind these is not reached by any number of sweeps.
-/
import SaaradhiGo.Rides.Liveness

namespace SaaradhiGo.Liveness

/-! ## Silence -/

/-- The times that tell when a trip was alive. -/
structure SameEvidence (t u : Trip) : Prop where
  requested : t.requestedAt = u.requestedAt
  accepted : t.acceptedAt = u.acceptedAt
  reached : t.reachedAt = u.reachedAt
  started : t.startedAt = u.startedAt
  driver : t.lastDriverActivityAt = u.lastDriverActivityAt

/-- A trip that is to be flagged. -/
structure Stale (cfg : Settings) (now : ℤ) (t : Trip) : Prop where
  active : t.active = true
  quiet : quiet cfg now t = true
  silent : (classify cfg now t).1 ≠ .healthy
  unreviewed : reviewedCoversSilence t = false

section Silence

variable {cfg : Settings} {now now' : ℤ} {t u : Trip} {reason : String}

lemma SameEvidence.refl (t : Trip) : SameEvidence t t := ⟨rfl, rfl, rfl, rfl, rfl⟩

lemma SameEvidence.trans {v : Trip} (h : SameEvidence t u) (h' : SameEvidence u v) :
    SameEvidence t v where
  requested := h.requested.trans h'.requested
  accepted := h.accepted.trans h'.accepted
  reached := h.reached.trans h'.reached
  started := h.started.trans h'.started
  driver := h.driver.trans h'.driver

lemma sameEvidence_flag : SameEvidence (t.flag now reason) t := ⟨rfl, rfl, rfl, rfl, rfl⟩

@[simp] lemma id_flag : (t.flag now reason).id = t.id := rfl

@[simp] lemma active_flag : (t.flag now reason).active = t.active := rfl

lemma lastKnownActivity_congr (h : SameEvidence t u) :
    lastKnownActivity t = lastKnownActivity u := by
  rw [lastKnownActivity, lastKnownActivity, h.requested, h.accepted, h.reached, h.started, h.driver]

lemma classify_congr (h : SameEvidence t u) : classify cfg now t = classify cfg now u := by
  rw [classify, classify, lastKnownActivity_congr h]

lemma quiet_congr (h : SameEvidence t u) : quiet cfg now t = quiet cfg now u := by
  rw [quiet, quiet, h.driver, h.started, h.accepted]

lemma before_congr {t' u' : Trip} (h : SameEvidence t t') (h' : SameEvidence u u') :
    before t u = before t' u' := by
  rw [before, before, h.driver, h.accepted, h'.driver, h'.accepted]

/-- What is silent stays so. -/
lemma quiet_mono (h : quiet cfg now t = true) (hle : now ≤ now') : quiet cfg now' t = true := by
  rw [quiet] at h ⊢
  cases hdriver : t.lastDriverActivityAt with
  | some a =>
    simp only [hdriver, decide_eq_true_eq] at h ⊢
    omega
  | none =>
    cases hstarted : t.startedAt with
    | some a =>
      simp only [hdriver, hstarted, decide_eq_true_eq] at h ⊢
      omega
    | none =>
      cases haccepted : t.acceptedAt with
      | some a =>
        simp only [hdriver, hstarted, haccepted, decide_eq_true_eq] at h ⊢
        omega
      | none => simp [hdriver, hstarted, haccepted] at h

lemma not_healthy_iff : (classify cfg now t).1 ≠ .healthy ↔
    ∀ last ∈ lastKnownActivity t, cfg.staleAfter ≤ (now - last).tdiv 1000000 := by
  rw [classify]
  cases lastKnownActivity t with
  | none => simp
  | some last =>
    simp only [Option.mem_def, Option.some.injEq, forall_eq']
    split
    · rename_i h
      simp only [ne_eq, not_true_eq_false, false_iff]
      omega
    · rename_i h
      split
      · simp only [ne_eq, reduceCtorEq, not_false_eq_true, true_iff]
        omega
      · simp only [ne_eq, reduceCtorEq, not_false_eq_true, true_iff]
        omega

lemma not_healthy_mono (h : (classify cfg now t).1 ≠ .healthy) (hle : now ≤ now') :
    (classify cfg now' t).1 ≠ .healthy := by
  rw [not_healthy_iff] at h ⊢
  intro last hlast
  refine (h last hlast).trans ?_
  exact Int.tdiv_le_tdiv (by decide) (by omega)

end Silence

/-! ## One candidate -/

section Candidate

variable {cfg : Settings} {now : ℤ} {t : Trip} {trips : Table Trip.id}

/-- The candidate as it was read is to be flagged. -/
def flaggable (cfg : Settings) (now : ℤ) (t : Trip) : Bool :=
  decide ((classify cfg now t).1 ≠ .healthy) && t.staleFlaggedAt.isNone &&
    !reviewedCoversSilence t

/-- A candidate is passed over, or its row is flagged, which is active, unflagged and not
reviewed. -/
lemma flagCandidate_cases (cfg : Settings) (now : ℤ) (t : Trip) (trips : Table Trip.id) :
    ((flagCandidate cfg now t trips).2 = trips ∧
        ∀ reason, (flagCandidate cfg now t trips).1 ≠ .flagged reason) ∨
      ∃ locked, trips.get? t.id = some locked ∧ locked.active = true ∧
        locked.staleFlaggedAt.isSome = false ∧ reviewedCoversSilence locked = false ∧
        (classify cfg now t).1 ≠ .healthy ∧
        flagCandidate cfg now t trips = (.flagged (classify cfg now t).2.2,
          trips.put (locked.flag now (classify cfg now t).2.2)) := by
  rw [flagCandidate]
  generalize hclass : classify cfg now t = c
  obtain ⟨classification, silent, reason⟩ := c
  dsimp only
  split
  · exact .inl ⟨rfl, fun _ h => by cases h⟩
  rename_i hhealthy
  split
  · exact .inl ⟨rfl, fun _ h => by cases h⟩
  split
  · exact .inl ⟨rfl, fun _ h => by cases h⟩
  cases hget : trips.get? t.id with
  | none => exact .inl ⟨rfl, fun _ h => by cases h⟩
  | some locked =>
    dsimp only
    split
    · exact .inl ⟨rfl, fun _ h => by cases h⟩
    rename_i hactive
    split
    · exact .inl ⟨rfl, fun _ h => by cases h⟩
    rename_i hflagged
    split
    · exact .inl ⟨rfl, fun _ h => by cases h⟩
    rename_i hreviewed
    exact .inr ⟨locked, rfl, by simpa using hactive, by simpa using hflagged,
      by simpa using hreviewed, hhealthy, rfl⟩

/-- A candidate adds no row and takes none away. -/
lemma keys_flagCandidate (cfg : Settings) (now : ℤ) (t : Trip) (trips : Table Trip.id) :
    (flagCandidate cfg now t trips).2.rows.map Trip.id = trips.rows.map Trip.id := by
  rcases flagCandidate_cases cfg now t trips with ⟨hsame, -⟩ | ⟨locked, hget, -, -, -, -, hflag⟩
  · rw [hsame]
  · rw [hflag]
    have hmem : locked.id ∈ trips.rows.map Trip.id :=
      List.mem_map_of_mem (Table.mem_of_get? hget).1
    exact Table.map_pk_put_of_mem (r := locked.flag now (classify cfg now t).2.2) hmem

lemma flagCandidate_of_get? (hget : trips.get? t.id = some t) (hactive : t.active = true) :
    (flagCandidate cfg now t trips).2 =
      if flaggable cfg now t then trips.put (t.flag now (classify cfg now t).2.2) else trips := by
  rw [flagCandidate, flaggable, hget]
  generalize hclass : classify cfg now t = c
  obtain ⟨classification, silent, reason⟩ := c
  dsimp only
  by_cases hhealthy : classification = .healthy
  · simp [hhealthy]
  · cases hflagged : t.staleFlaggedAt with
    | some at_ => simp [hhealthy]
    | none =>
      cases hreviewed : reviewedCoversSilence t with
      | true => simp [hhealthy]
      | false => simp [hhealthy, hactive]

end Candidate

/-! ## Between the query and the write -/

section Written

variable {cfg : Settings} {s : State} {worker : ℕ} {now : ℤ} {t : Trip} {rest : List Trip}

/-- The row that a sweep comes to, when its driver is still committed to it, has the times that the
query read. -/
def Careful (s : State) : Event → Prop
  | .next worker =>
      ∀ sweep ∈ s.sweeps worker, ∀ t ∈ sweep.pending.head?, ∀ row ∈ s.trips.get? t.id,
        row.active = true → SameEvidence row t
  | _ => True

/-- Sweeps are under way with trips that were silent when they began, and the rows that were
flagged were to be flagged. -/
structure Sound (cfg : Settings) (s : State) : Prop where
  begun : ∀ w sweep, s.sweeps w = some sweep → sweep.now ≤ s.clock
  pending : ∀ w sweep, s.sweeps w = some sweep → ∀ t ∈ sweep.pending,
    quiet cfg sweep.now t = true
  written : ∀ entry ∈ s.written, Stale cfg entry.2 entry.1

lemma step_next (cfg : Settings) (hsweep : s.sweeps worker = some ⟨now, t :: rest⟩) :
    (step cfg s (.next worker)).clock = s.clock ∧
      (step cfg s (.next worker)).sweeps = s.resume worker ⟨now, rest⟩ ∧
      ((step cfg s (.next worker)).written = s.written ∨
        ∃ locked, s.trips.get? t.id = some locked ∧ locked.active = true ∧
          reviewedCoversSilence locked = false ∧ (classify cfg now t).1 ≠ .healthy ∧
          (step cfg s (.next worker)).written = s.written ++ [(locked, s.clock)]) := by
  rw [step, hsweep]
  refine ⟨rfl, rfl, ?_⟩
  rcases flagCandidate_cases cfg now t s.trips with ⟨-, hreason⟩ | ⟨locked, hget, hactive, -,
    hreviewed, hhealthy, hflag⟩
  · left
    dsimp only
    generalize (flagCandidate cfg now t s.trips).1 = outcome at hreason ⊢
    cases outcome with
    | flagged reason => exact absurd rfl (hreason reason)
    | _ => simp
  · right
    exact ⟨locked, hget, hactive, hreviewed, hhealthy, by simp [hflag, hget]⟩

lemma Sound.resume (h : Sound cfg s) (worker : ℕ) (sweep : Sweep) (hbegun : sweep.now ≤ s.clock)
    (hpending : ∀ t ∈ sweep.pending, quiet cfg sweep.now t = true) :
    (∀ w sw, s.resume worker sweep w = some sw → sw.now ≤ s.clock) ∧
      ∀ w sw, s.resume worker sweep w = some sw → ∀ t ∈ sw.pending,
        quiet cfg sw.now t = true := by
  constructor
  · intro w sw hsw
    rw [State.resume] at hsw
    split at hsw
    · cases hsw
      exact hbegun
    · exact h.begun w sw hsw
  · intro w sw hsw
    rw [State.resume] at hsw
    split at hsw
    · cases hsw
      exact hpending
    · exact h.pending w sw hsw

lemma active_and_quiet_of_mem {limit : ℕ} {trips : List Trip}
    (h : t ∈ staleCandidates cfg now limit trips) :
    t ∈ trips ∧ t.active = true ∧ quiet cfg now t = true := by
  have hmem := (List.mem_insertionSort _).mp (List.mem_of_mem_take h)
  rw [List.mem_filter, Bool.and_eq_true] at hmem
  exact hmem

/-- One step keeps the flags right. -/
lemma sound_step (s : State) (e : Event) (hcareful : Careful s e) (h : Sound cfg s) :
    Sound cfg (step cfg s e) := by
  cases e with
  | tick d =>
    refine ⟨fun w sweep hsweep => ?_, h.pending, h.written⟩
    have hbegun := h.begun w sweep hsweep
    show sweep.now ≤ s.clock + d
    omega
  | activity id => exact ⟨h.begun, h.pending, h.written⟩
  | edit id f =>
    rw [step]
    split
    · exact h
    · exact ⟨h.begun, h.pending, h.written⟩
  | start worker limit =>
    have hresume := h.resume worker
      ⟨s.clock, staleCandidates cfg s.clock limit s.trips.rows⟩ le_rfl
      fun t ht => (active_and_quiet_of_mem ht).2.2
    exact ⟨hresume.1, hresume.2, h.written⟩
  | next worker =>
    cases hsweep : s.sweeps worker with
    | none =>
      rw [step, hsweep]
      exact h
    | some sweep =>
      obtain ⟨now, pending⟩ := sweep
      cases pending with
      | nil =>
        rw [step, hsweep]
        exact h
      | cons t rest =>
        have hbegun : now ≤ s.clock := h.begun worker _ hsweep
        have hpending := h.pending worker _ hsweep
        have hresume := h.resume worker ⟨now, rest⟩ hbegun
          fun u hu => hpending u (List.mem_cons_of_mem t hu)
        obtain ⟨hclock, hsweeps, hwritten⟩ := step_next cfg hsweep
        refine ⟨by rw [hclock, hsweeps]; exact hresume.1, by rw [hsweeps]; exact hresume.2, ?_⟩
        rcases hwritten with hwritten | ⟨locked, hget, hactive, hreviewed, hhealthy, hwritten⟩
        · rw [hwritten]
          exact h.written
        · rw [hwritten]
          intro entry hentry
          rcases List.mem_append.mp hentry with hentry | hentry
          · exact h.written entry hentry
          · rw [List.mem_singleton.mp hentry]
            -- the locked row carries the times the sweep read, so it is as quiet and as stale
            have hsame : SameEvidence locked t :=
              hcareful _ hsweep t rfl locked hget hactive
            have hquiet : quiet cfg now t = true := hpending t List.mem_cons_self
            constructor
            · exact hactive
            · rw [quiet_congr hsame]
              exact quiet_mono hquiet hbegun
            · rw [classify_congr hsame]
              exact not_healthy_mono hhealthy hbegun
            · exact hreviewed

/-- Every flag of a run in which no sweep comes to a row whose times are not those it read was
written to a trip that was silent at that moment. -/
lemma stale_of_written {events : List Event} (hsweeps : ∀ w, s.sweeps w = none)
    (hwritten : s.written = []) (hcareful : Transition.Guarded (step cfg) Careful s events) :
    ∀ entry ∈ (run cfg s events).written, Stale cfg entry.2 entry.1 := by
  have hstart : Sound cfg s := by
    constructor
    · intro w sweep h
      rw [hsweeps] at h
      cases h
    · intro w sweep h
      rw [hsweeps] at h
      cases h
    · rw [hwritten]
      intro entry h
      cases h
  exact (Transition.invariant_of_guarded sound_step hstart hcareful).written

end Written

/-! ## What a sweep does -/

section Sweeps

variable {cfg : Settings} {now : ℤ} {limit : ℕ} {t u : Trip} {trips : Table Trip.id}
  {batch : List Trip}

def mark (cfg : Settings) (now : ℤ) (batch : List Trip) (row : Trip) : Trip :=
  if (batch.map Trip.id).contains row.id && flaggable cfg now row then
    row.flag now (classify cfg now row).2.2
  else row

lemma mark_nil : mark cfg now [] t = t := by simp [mark]

lemma mark_cons_self :
    mark cfg now (t :: batch) t = if flaggable cfg now t then
      t.flag now (classify cfg now t).2.2 else t := by
  simp [mark]

lemma mark_cons_of_ne (h : u.id ≠ t.id) : mark cfg now (t :: batch) u = mark cfg now batch u := by
  simp [mark, h]

lemma mark_of_notMem (h : t.id ∉ batch.map Trip.id) : mark cfg now batch t = t := by
  rw [mark, if_neg]
  simp only [Bool.and_eq_true, List.contains_iff_mem]
  exact fun hc => h hc.1

@[simp] lemma id_mark : (mark cfg now batch t).id = t.id := by
  rw [mark]
  split
  · rfl
  · rfl

@[simp] lemma active_mark : (mark cfg now batch t).active = t.active := by
  rw [mark]
  split
  · rfl
  · rfl

lemma sameEvidence_mark : SameEvidence (mark cfg now batch t) t := by
  rw [mark]
  split
  · exact sameEvidence_flag
  · exact .refl t

lemma reviewed_mark :
    reviewedCoversSilence (mark cfg now batch t) = reviewedCoversSilence t := by
  rw [mark]
  split
  · rfl
  · rfl

/-- A sweep leaves a trip as silent as it was. -/
lemma Stale.mark {now' : ℤ} (h : Stale cfg now' t) :
    Stale cfg now' (mark cfg now batch t) where
  active := by rw [active_mark]; exact h.active
  quiet := by rw [quiet_congr sameEvidence_mark]; exact h.quiet
  silent := by rw [classify_congr sameEvidence_mark]; exact h.silent
  unreviewed := by rw [reviewed_mark]; exact h.unreviewed

/-- A silent trip has its flag after a sweep when it had it before or is in the batch. -/
lemma flagged_mark_iff (h : Stale cfg now t) :
    (Liveness.mark cfg now batch t).staleFlaggedAt.isSome = true ↔
      t.staleFlaggedAt.isSome = true ∨ t.id ∈ batch.map Trip.id := by
  by_cases hmem : t.id ∈ batch.map Trip.id
  · simp only [hmem, or_true, iff_true]
    rw [Liveness.mark, flaggable]
    cases hflag : t.staleFlaggedAt with
    | some at_ =>
      simp [hflag]
    | none =>
      rw [if_pos]
      · rfl
      · simpa [h.silent, h.unreviewed] using hmem
  · rw [mark_of_notMem hmem]
    simp [hmem]

lemma get?_foldl_flagCandidate (hids : (batch.map Trip.id).Nodup)
    (hbatch : ∀ t ∈ batch, trips.get? t.id = some t ∧ t.active = true) (id : ℕ) :
    (batch.foldl (fun ts t => (flagCandidate cfg now t ts).2) trips).get? id =
      (trips.get? id).map (mark cfg now batch) := by
  induction batch generalizing trips with
  | nil =>
    show trips.get? id = _
    cases trips.get? id with
    | none => rfl
    | some row => rw [Option.map_some, mark_nil]
  | cons t rest ih =>
    rw [List.map_cons, List.nodup_cons] at hids
    obtain ⟨hget, hactive⟩ := hbatch t List.mem_cons_self
    have hput : (flagCandidate cfg now t trips).2 = _ := flagCandidate_of_get? hget hactive
    -- the row of the candidate is marked, the others are as they were
    have hself : (flagCandidate cfg now t trips).2.get? t.id =
        some (mark cfg now (t :: rest) t) := by
      rw [hput, mark_cons_self]
      split
      · exact Table.get?_put_self trips (t.flag now (classify cfg now t).2.2)
      · exact hget
    have hother : ∀ i, i ≠ t.id → (flagCandidate cfg now t trips).2.get? i = trips.get? i := by
      intro i hi
      rw [hput]
      split
      · exact Table.get?_put_of_ne trips (r := t.flag now (classify cfg now t).2.2) hi
      · rfl
    have hrest : ∀ u ∈ rest, (flagCandidate cfg now t trips).2.get? u.id = some u ∧
        u.active = true := by
      intro u hu
      have hne : u.id ≠ t.id := fun heq => hids.1 (heq ▸ List.mem_map_of_mem hu)
      rw [hother u.id hne]
      exact hbatch u (List.mem_cons_of_mem t hu)
    rw [List.foldl_cons, ih hids.2 hrest]
    by_cases hid : id = t.id
    · rw [hid, hself, hget, Option.map_some, Option.map_some]
      rw [mark_of_notMem (by rw [id_mark]; exact hids.1)]
    · rw [hother id hid]
      cases hrow : trips.get? id with
      | none => rfl
      | some row =>
        have hne : row.id ≠ t.id := by
          rw [Table.pk_of_get? hrow]
          exact hid
        rw [Option.map_some, Option.map_some, mark_cons_of_ne hne]

lemma nodup_staleCandidates (trips : Table Trip.id) :
    ((staleCandidates cfg now limit trips.rows).map Trip.id).Nodup := by
  have hperm : (silentTrips cfg now trips.rows).Perm
      (trips.rows.filter fun t => t.active && quiet cfg now t) :=
    List.perm_insertionSort _ _
  have hall : ((silentTrips cfg now trips.rows).map Trip.id).Nodup :=
    (hperm.map Trip.id).nodup_iff.mpr (trips.nodup.sublist (List.filter_sublist.map Trip.id))
  exact hall.sublist ((List.take_sublist limit _).map Trip.id)

lemma get?_flagStaleTrips (id : ℕ) : (flagStaleTrips cfg now limit trips).get? id =
    (trips.get? id).map (mark cfg now (staleCandidates cfg now limit trips.rows)) := by
  refine get?_foldl_flagCandidate (nodup_staleCandidates trips) (fun t ht => ?_) id
  have hmem := active_and_quiet_of_mem ht
  exact ⟨Table.mem_iff_get?.mp hmem.1, hmem.2.1⟩

/-! ## Sweep after sweep -/

/-- A sweep, and what happened to the trips since the one before. -/
structure Round where
  meanwhile : Table Trip.id → Table Trip.id
  now : ℤ

/-- `flag_stale_trips`, again and again. -/
def sweeps (cfg : Settings) (limit : ℕ) (trips : Table Trip.id) (rounds : List Round) :
    Table Trip.id :=
  rounds.foldl (fun ts r => flagStaleTrips cfg r.now limit (r.meanwhile ts)) trips

/-- The trip is among the first `limit` silent ones at one of the sweeps. -/
def InTurn (cfg : Settings) (limit id : ℕ) : Table Trip.id → List Round → Prop
  | _, [] => False
  | trips, r :: rounds =>
      id ∈ (staleCandidates cfg r.now limit (r.meanwhile trips).rows).map Trip.id ∨
        InTurn cfg limit id (flagStaleTrips cfg r.now limit (r.meanwhile trips)) rounds

lemma flagged_sweeps_iff (limit : ℕ) (rounds : List Round) (hget : trips.get? t.id = some t)
    (hkeeps : ∀ r ∈ rounds, ∀ ts : Table Trip.id, (r.meanwhile ts).get? t.id = ts.get? t.id)
    (hstale : ∀ r ∈ rounds, Stale cfg r.now t) :
    (∃ row ∈ (sweeps cfg limit trips rounds).get? t.id, row.staleFlaggedAt.isSome = true) ↔
      t.staleFlaggedAt.isSome = true ∨ InTurn cfg limit t.id trips rounds := by
  induction rounds generalizing t trips with
  | nil =>
    simp only [sweeps, List.foldl_nil, hget, InTurn, or_false]
    constructor
    · rintro ⟨row, hrow, h⟩
      cases hrow
      exact h
    · exact fun h => ⟨t, rfl, h⟩
  | cons r rounds ih =>
    set trips' := r.meanwhile trips
    set batch := staleCandidates cfg r.now limit trips'.rows
    have hkept : trips'.get? t.id = some t :=
      (hkeeps r List.mem_cons_self trips).trans hget
    have hmarked :
        (flagStaleTrips cfg r.now limit trips').get? (Liveness.mark cfg r.now batch t).id =
        some (Liveness.mark cfg r.now batch t) := by
      rw [id_mark, get?_flagStaleTrips, hkept, Option.map_some]
    have hnext := ih hmarked
      (fun r' hr' ts => by rw [id_mark]; exact hkeeps r' (List.mem_cons_of_mem r hr') ts)
      (fun r' hr' => (hstale r' (List.mem_cons_of_mem r hr')).mark)
    rw [id_mark] at hnext
    rw [sweeps, List.foldl_cons]
    exact hnext.trans (by
      rw [flagged_mark_iff (hstale r List.mem_cons_self), InTurn, or_assoc])

lemma rows_flagStaleTrips : (flagStaleTrips cfg now limit trips).rows =
    trips.rows.map (mark cfg now (staleCandidates cfg now limit trips.rows)) := by
  refine Table.rows_eq_map ?_ fun id => get?_flagStaleTrips id
  rw [flagStaleTrips]
  generalize staleCandidates cfg now limit trips.rows = candidates
  induction candidates generalizing trips with
  | nil => rfl
  | cons t rest ih => rw [List.foldl_cons, ih, keys_flagCandidate]

/-- The flags of a sweep change no place in the order of the silent trips. -/
lemma staleCandidates_map_mark {now' : ℤ} {rows : List Trip} :
    staleCandidates cfg now' limit (rows.map (mark cfg now batch)) =
      (staleCandidates cfg now' limit rows).map (mark cfg now batch) := by
  have hfilter : (rows.map (mark cfg now batch)).filter (fun t => t.active && quiet cfg now' t) =
      (rows.filter fun t => t.active && quiet cfg now' t).map (mark cfg now batch) := by
    rw [List.filter_map]
    congr 2
    funext row
    rw [Function.comp_apply, active_mark, quiet_congr sameEvidence_mark]
  have hsort : silentTrips cfg now' (rows.map (mark cfg now batch)) =
      (silentTrips cfg now' rows).map (mark cfg now batch) := by
    rw [silentTrips, silentTrips, hfilter]
    refine (List.map_insertionSort _ _ _ _ fun a ha b hb => ?_).symm
    rw [before_congr sameEvidence_mark sameEvidence_mark]
  rw [staleCandidates, staleCandidates, hsort, List.map_take]

/-- Where nothing else happens, a trip's turn comes when it is among the first at the time of a
sweep, whatever the sweeps before it have flagged. -/
lemma inTurn_iff {id : ℕ} {nows : List ℤ} :
    InTurn cfg limit id trips (nows.map fun n => ⟨fun ts => ts, n⟩) ↔
      ∃ n ∈ nows, id ∈ (staleCandidates cfg n limit trips.rows).map Trip.id := by
  induction nows generalizing trips with
  | nil => simp [InTurn]
  | cons n nows ih =>
    rw [List.map_cons, InTurn, ih, List.exists_mem_cons_iff]
    refine or_congr_right (exists_congr fun n' => and_congr_right fun _ => ?_)
    rw [rows_flagStaleTrips, staleCandidates_map_mark, List.map_map]
    have hids : Trip.id ∘ mark cfg n (staleCandidates cfg n limit trips.rows) = Trip.id :=
      funext fun row => id_mark
    rw [hids]

end Sweeps

/-! ## The operator's list -/

section Listed

variable {cfg : Settings} {now : ℤ} {t : Trip}

lemma passed_iff {since : Option ℤ} {n : ℤ} :
    passed now since n = true ↔ earlier since (now - seconds n) = true := by
  cases since with
  | none => simp [passed, earlier]
  | some a =>
    simp only [passed, earlier, Option.any_some, decide_eq_true_eq]
    omega

lemma accepted_since_review_iff : (∃ a ∈ t.acceptedAt, ∀ r ∈ t.staleReviewedAt, r < a) ↔
    t.acceptedAt.isSome = true ∧ (t.staleReviewedAt.isNone ||
      t.acceptedAt.any fun a => earlier t.staleReviewedAt a) = true := by
  cases t.acceptedAt with
  | none => simp
  | some a =>
    cases t.staleReviewedAt with
    | none => simp
    | some r => simp [earlier]

lemma staleReason_ne_iff : staleReason cfg now t ≠ "" ↔
    (t.status = some .requested ∧ t.acceptedAt = none ∧ t.staleReviewedAt = none ∧
        passed now t.requestedAt cfg.staleAfter = true) ∨
      (t.status = some .accepted ∧ t.reachedAt = none ∧
        (∃ a ∈ t.acceptedAt, ∀ r ∈ t.staleReviewedAt, r < a) ∧
        passed now t.acceptedAt cfg.attentionAfter = true) ∨
      (t.status.any fun c => activeStatuses.contains c) = true ∧
        t.staleFlaggedAt.isSome = true := by
  rw [staleReason]
  split
  · rename_i h
    simp [h]
  · rename_i hrequested
    split
    · rename_i h
      simp only [h, and_self, true_or, or_true, iff_true]
      decide
    · rename_i haccepted
      simp only [hrequested, haccepted, false_or]
      split
      · rename_i h
        simp only [h, and_self, iff_true]
        split
        · decide
        · assumption
      · rename_i h
        simp only [h, ne_eq, not_true_eq_false]

lemma staleQ_iff : staleQ cfg now t = true ↔ staleReason cfg now t ≠ "" := by
  have hisSome :
      passed now t.acceptedAt cfg.attentionAfter = true → t.acceptedAt.isSome = true := by
    intro h
    cases haccepted : t.acceptedAt with
    | none => simp [passed, haccepted] at h
    | some a => rfl
  rw [staleReason_ne_iff, accepted_since_review_iff, passed_iff, passed_iff, staleQ]
  rw [passed_iff] at hisSome
  simp only [Bool.or_eq_true, Bool.and_eq_true, decide_eq_true_eq, Option.isNone_iff_eq_none]
  constructor
  · rintro ((⟨⟨⟨hstatus, haccepted⟩, hsince⟩, hreviewed⟩ |
      ⟨⟨⟨hstatus, hreached⟩, hsince⟩, hreviewed⟩) |
      hflagged)
    · exact .inl ⟨hstatus, haccepted, hreviewed, hsince⟩
    · exact .inr (.inl ⟨hstatus, hreached, ⟨hisSome hsince, hreviewed⟩, hsince⟩)
    · exact .inr (.inr hflagged)
  · rintro (⟨hstatus, haccepted, hreviewed, hsince⟩ |
      ⟨hstatus, hreached, ⟨-, hreviewed⟩, hsince⟩ | hflagged)
    · exact .inl (.inl ⟨⟨⟨hstatus, haccepted⟩, hsince⟩, hreviewed⟩)
    · exact .inl (.inr ⟨⟨⟨hstatus, hreached⟩, hsince⟩, hreviewed⟩)
    · exact .inr hflagged

end Listed

/-! ## Flags and turns -/

/-- In a run in which no sweep comes to a row whose times have changed since its query, every flag
is written to a trip that is silent then.  A trip that stays silent gets its flag just when it is
among the first `limit` silent trips at one of the sweeps, those that have a flag among them, and
without other changes only the times of the sweeps decide that.  The operator's query selects the
trips that have a reason. -/
theorem flagged_in_turn_iff (cfg : Settings) :
    (∀ s events, (∀ w, s.sweeps w = none) → s.written = [] →
        Transition.Guarded (step cfg) Careful s events →
          ∀ entry ∈ (run cfg s events).written, Stale cfg entry.2 entry.1) ∧
      (∀ (limit : ℕ) (trips : Table Trip.id) (t : Trip), trips.get? t.id = some t →
        (∀ rounds : List Round,
          (∀ r ∈ rounds, ∀ ts : Table Trip.id, (r.meanwhile ts).get? t.id = ts.get? t.id) →
          (∀ r ∈ rounds, Stale cfg r.now t) →
            ((∃ row ∈ (sweeps cfg limit trips rounds).get? t.id,
                row.staleFlaggedAt.isSome = true) ↔
              t.staleFlaggedAt.isSome = true ∨ InTurn cfg limit t.id trips rounds)) ∧
          ∀ nows : List ℤ, InTurn cfg limit t.id trips (nows.map fun n => ⟨fun ts => ts, n⟩) ↔
            ∃ n ∈ nows, t.id ∈ (staleCandidates cfg n limit trips.rows).map Trip.id) ∧
      ∀ now t, staleQ cfg now t = true ↔ staleReason cfg now t ≠ "" := by
  refine ⟨?_, ?_, ?_⟩
  · intro s events hsweeps hwritten hcareful
    exact stale_of_written hsweeps hwritten hcareful
  · intro limit trips t hget
    exact ⟨fun rounds hkeeps hstale => flagged_sweeps_iff _ rounds hget hkeeps hstale,
      fun nows => inTurn_iff⟩
  · intro now t
    exact staleQ_iff

/-- A look after ten minutes of silence, and a person after thirty. -/
def usualSettings : Settings := ⟨60, 600, 1800⟩

/-- A ride under way whose driver was last heard of at this time. -/
def ride (id : ℕ) (heard : ℤ) : Trip where
  id := id
  status := some .inProgress
  requestedAt := some 0
  acceptedAt := some 0
  reachedAt := some 0
  startedAt := some 0
  lastDriverActivityAt := some heard
  staleFlaggedAt := none
  staleReason := ""
  staleReviewedAt := none

/-- A ride whose driver has been silent for eleven minutes. -/
def silence : State where
  clock := seconds 660
  trips := ⟨[ride 1 0], by simp⟩
  sweeps := fun _ => none
  written := []

/-- Rides that fell silent one after the other, one more than a sweep takes. -/
def crowd : Table Trip.id where
  rows := (List.range 201).map fun i => ride i i
  nodup := by
    rw [List.map_map]
    exact List.nodup_range.map fun i j h => h

lemma silentTrips_crowd {n : ℤ} (hn : seconds 1000 ≤ n) :
    silentTrips usualSettings n crowd.rows = crowd.rows := by
  have hfilter : crowd.rows.filter (fun t => t.active && quiet usualSettings n t) =
      crowd.rows := by
    rw [List.filter_eq_self]
    intro t ht
    obtain ⟨i, hi, rfl⟩ := List.mem_map.mp ht
    rw [List.mem_range] at hi
    have hactive : (ride i i).active = true := rfl
    have hquiet : (i : ℤ) < n - seconds 600 := by
      simp only [seconds] at hn ⊢
      omega
    rw [hactive, Bool.true_and]
    exact decide_eq_true hquiet
  rw [silentTrips, hfilter]
  refine List.Pairwise.insertionSort_eq (List.pairwise_map.mpr ?_)
  refine List.pairwise_lt_range.imp fun {i j} hij => ?_
  have hne : (ride i i).lastDriverActivityAt ≠ (ride j j).lastDriverActivityAt := by
    intro h
    have heq : (i : ℤ) = j := Option.some.inj h
    omega
  rw [before, if_neg hne]
  exact decide_eq_true (by omega : (i : ℤ) ≤ j)

/-- A ride that is silent all along is flagged by the first sweep, and then again found flagged. -/
theorem silent_ride_is_flagged :
    (∀ entry ∈ (run usualSettings silence [.start 0 200, .tick 5, .next 0]).written,
        Stale usualSettings entry.2 entry.1) ∧
      ((∃ row ∈ (sweeps usualSettings 200 silence.trips
            [⟨fun ts => ts, seconds 660⟩, ⟨fun ts => ts, seconds 720⟩]).get? 1,
          row.staleFlaggedAt.isSome = true) ↔
        (ride 1 0).staleFlaggedAt.isSome = true ∨ InTurn usualSettings 200 1 silence.trips
          [⟨fun ts => ts, seconds 660⟩, ⟨fun ts => ts, seconds 720⟩]) := by
  obtain ⟨hflags, hturns, -⟩ := flagged_in_turn_iff usualSettings
  constructor
  · refine hflags silence _ (fun _ => rfl) rfl ⟨trivial, trivial, ?_, trivial⟩
    intro sweep hsweep t ht row hrow _
    cases hsweep
    cases ht
    cases hrow
    exact .refl _
  · refine (hturns 200 silence.trips (ride 1 0) rfl).1 _ ?_ ?_
    · intro r hr ts
      simp only [List.mem_cons, List.not_mem_nil, or_false] at hr
      rcases hr with rfl | rfl
      · rfl
      · rfl
    · intro r hr
      simp only [List.mem_cons, List.not_mem_nil, or_false] at hr
      rcases hr with rfl | rfl
      · exact ⟨rfl, by decide, by decide, rfl⟩
      · exact ⟨rfl, by decide, by decide, rfl⟩

/-- A driver who answers between the query and the write has the trip flagged all the same, and of
two hundred and one silent rides the last is not flagged by any number of sweeps. -/
theorem answered_ride_is_flagged :
    (∃ entry ∈ (run usualSettings silence [.start 0 200, .activity 1, .next 0]).written,
        ¬ Stale usualSettings entry.2 entry.1) ∧
      ¬ ∃ nows : List ℤ, (∀ n ∈ nows, seconds 1000 ≤ n) ∧
        ∃ row ∈ (sweeps usualSettings 200 crowd (nows.map fun n => ⟨fun ts => ts, n⟩)).get? 200,
          row.staleFlaggedAt.isSome = true := by
  constructor
  · have hany : (run usualSettings silence [.start 0 200, .activity 1, .next 0]).written.any
        (fun entry => !quiet usualSettings entry.2 entry.1) = true := by decide +kernel
    obtain ⟨entry, hentry, hquiet⟩ := List.any_eq_true.mp hany
    refine ⟨entry, hentry, fun hstale => ?_⟩
    rw [hstale.quiet] at hquiet
    cases hquiet
  · rintro ⟨nows, hlate, hflagged⟩
    have hget : crowd.get? (ride 200 200).id = some (ride 200 200) :=
      Table.mem_iff_get?.mp (List.mem_map_of_mem (f := fun i : ℕ => ride i i)
        (List.mem_range.mpr (by omega : 200 < 201)))
    have hstale : ∀ n, seconds 1000 ≤ n → Stale usualSettings n (ride 200 200) := by
      intro n hn
      have hbegin : Stale usualSettings (seconds 1000) (ride 200 200) :=
        ⟨rfl, by decide, by decide, rfl⟩
      exact ⟨rfl, quiet_mono hbegin.quiet hn, not_healthy_mono hbegin.silent hn, rfl⟩
    have hturn := (flagged_sweeps_iff 200
      (nows.map fun n => ⟨fun ts => ts, n⟩) hget
      (fun r hr ts => by
        obtain ⟨n, -, rfl⟩ := List.mem_map.mp hr
        rfl)
      (fun r hr => by
        obtain ⟨n, hn, rfl⟩ := List.mem_map.mp hr
        exact hstale n (hlate n hn))).mp hflagged
    rcases hturn with h | h
    · cases h
    · obtain ⟨n, hn, hmem⟩ := inTurn_iff.mp h
      rw [staleCandidates, silentTrips_crowd (hlate n hn)] at hmem
      revert hmem
      decide +kernel

end SaaradhiGo.Liveness
