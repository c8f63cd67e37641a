/-
Rides one after the other.

The lock of a trip protects its row.  The lock of a driver protects the row of the driver and keeps
others from giving the driver a trip, although the trips of a driver carry no lock of the driver
themselves.  Under this agreement every transaction of the rides is sound, and so an interleaving of
any number of sessions does to the database what the committed transactions do one after the other.
-/
import SaaradhiGo.Rides.Lifecycle

namespace SaaradhiGo.Rides.Lifecycle

open TwoPhase TwoPhase.Txn

/-! ## Reading after a write -/

section Reads

variable {db : Db} {t t' : Trip} {id driver : ℕ} {f : Trip → Trip} {hf : ∀ t, (f t).id = t.id}

def Db.Occupied (db : Db) (driver id : ℕ) : Prop :=
  ∃ t, db.trips.get? id = some t ∧ t.Occupies driver

lemma id_of_get? (h : db.trips.get? id = some t) : t.id = id := Serial.pk_of_get? h

/-- A save of the columns that were changed is a save of all of them, if the row is the one that
was read. -/
lemma update_eq_save (h : db.trips.get? id = some t) : db.update id f hf = db.save (f t) := by
  have hid : (f t).id = id := (hf t).trans (id_of_get? h)
  have hrows : (db.trips.rows.map fun r => if r.id = id then f r else r) =
      db.trips.rows.map fun r => if r.id = (f t).id then { f t with id := r.id } else r := by
    refine List.map_congr_left fun r hr => ?_
    by_cases hrid : r.id = id
    · have hrt : r = t := by
        have hget := Serial.get?_of_mem hr
        rw [hrid, h, Option.some.injEq] at hget
        exact hget.symm
      rw [if_pos hrid, if_pos (hrid.trans hid.symm), hrt, ← hf t]
    · rw [if_neg hrid, if_neg fun he => hrid (he.trans hid)]
  simp only [Db.update, Db.save, Serial.updateWhere, hrows]

lemma get?_save (i : ℕ) : (db.save t).trips.get? i =
    (db.trips.get? i).map fun r => if r.id = t.id then { t with id := r.id } else r :=
  Serial.get?_updateWhere (f := fun r : Trip => { t with id := r.id }) fun _ => rfl

lemma get?_save_of_ne {i : ℕ} (hi : i ≠ t.id) : (db.save t).trips.get? i = db.trips.get? i := by
  rw [get?_save]
  rcases hget : db.trips.get? i with _ | r
  · rfl
  · have hr : r.id ≠ t.id := fun h => hi ((id_of_get? hget).symm.trans h)
    simp [hr]

lemma get?_save_self (h : db.trips.get? t'.id = some t) :
    (db.save t').trips.get? t'.id = some t' := by
  have hid := id_of_get? h
  rw [get?_save, h, Option.map_some, if_pos hid, hid]

lemma of_get?_save {i : ℕ} {r : Trip} (h : (db.save t').trips.get? i = some r) :
    i = t'.id ∧ r = t' ∨ i ≠ t'.id ∧ db.trips.get? i = some r := by
  by_cases hi : i = t'.id
  · left
    rw [get?_save] at h
    obtain ⟨r₀, hr₀, hr⟩ := Option.map_eq_some_iff.mp h
    have hid : r₀.id = t'.id := (id_of_get? hr₀).trans hi
    rw [if_pos hid, hid] at hr
    exact ⟨hi, hr.symm⟩
  · exact .inr ⟨hi, (get?_save_of_ne hi).symm.trans h⟩

lemma get?_book {i : BookInput} (hnew : db.hasRequest i = false) (id : ℕ) :
    (db.book i).trips.get? id =
      if id = db.trips.next then some (i.trip db.trips.next) else db.trips.get? id := by
  have hget : (db.trips.insert i.trip (fun _ => rfl)).get? id =
      if id = db.trips.next then some (i.trip db.trips.next) else db.trips.get? id :=
    Serial.get?_insert fun _ => rfl
  rw [← hget, Db.book, hnew]
  rfl

lemma mem_activeTripIds {excluded : ℕ} :
    id ∈ db.activeTripIds driver excluded ↔ db.Occupied driver id ∧ id ≠ excluded := by
  simp only [Db.activeTripIds, List.mem_map, List.mem_filter, decide_eq_true_eq, Db.Occupied]
  constructor
  · rintro ⟨t, ⟨ht, hocc, hne⟩, rfl⟩
    exact ⟨⟨t, Serial.get?_of_mem ht, hocc⟩, hne⟩
  · rintro ⟨⟨t, ht, hocc⟩, hne⟩
    have hid := id_of_get? ht
    exact ⟨t, ⟨Serial.mem_of_get? ht, hocc, hid ▸ hne⟩, hid⟩

variable {d : Driver} {g : Driver → Driver} {hg : ∀ d, (g d).id = d.id}

lemma get?_updateDriver (i : ℕ) :
    (db.updateDriver id g hg).drivers.get? i =
      (db.drivers.get? i).map fun r => if r.id = id then g r else r :=
  Serial.get?_updateWhere hg

lemma get?_updateDriver_of_ne {i : ℕ} (hi : i ≠ id) :
    (db.updateDriver id g hg).drivers.get? i = db.drivers.get? i := by
  rw [get?_updateDriver]
  rcases hget : db.drivers.get? i with _ | r
  · rfl
  · have hr : r.id ≠ id := fun h => hi ((Serial.pk_of_get? hget).symm.trans h)
    simp [hr]

end Reads

/-! ## The agreement -/

/-- What the others may do while the rows `held` are locked. -/
structure Keep (held : Set Key) (s s' : Db) : Prop where
  trips : ∀ id t, .trip id ∈ held → s.trips.get? id = some t → s'.trips.get? id = some t
  drivers : ∀ id d, .driver id ∈ held → s.drivers.get? id = some d → s'.drivers.get? id = some d
  free : ∀ id, .driver id ∈ held → ∀ trip, s'.Occupied id trip → s.Occupied id trip
  users : ∀ id d, s.drivers.get? id = some d →
    ∃ d', s'.drivers.get? id = some d' ∧ d'.user = d.user
  requests : ∀ i, s.hasRequest i = true → s'.hasRequest i = true

lemma Keep.refl (held : Set Key) (s : Db) : Keep held s s where
  trips := fun _ _ _ h => h
  drivers := fun _ _ _ h => h
  free := fun _ _ _ h => h
  users := fun _ d h => ⟨d, h, rfl⟩
  requests := fun _ h => h

lemma Keep.trans {held : Set Key} {s t u : Db} (h : Keep held s t) (h' : Keep held t u) :
    Keep held s u where
  trips := fun id r hid hr => h'.trips id r hid (h.trips id r hid hr)
  drivers := fun id d hid hd => h'.drivers id d hid (h.drivers id d hid hd)
  free := fun id hid trip ht => h.free id hid trip (h'.free id hid trip ht)
  users := by
    intro id d hd
    obtain ⟨d', hd', huser'⟩ := h.users id d hd
    obtain ⟨d'', hd'', huser''⟩ := h'.users id d' hd'
    exact ⟨d'', hd'', huser''.trans huser'⟩
  requests := fun i hi => h'.requests i (h.requests i hi)

lemma Keep.anti {held held' : Set Key} {s t : Db} (hsub : held ⊆ held') (h : Keep held' s t) :
    Keep held s t where
  trips := fun id r hid => h.trips id r (hsub hid)
  drivers := fun id d hid => h.drivers id d (hsub hid)
  free := fun id hid => h.free id (hsub hid)
  users := h.users
  requests := h.requests

lemma agreement_keep : Agreement Keep where
  refl := Keep.refl
  trans := fun _ _ _ _ => Keep.trans
  anti := fun _ _ _ _ => Keep.anti

section Writes

variable {held other : Set Key} {s s₀ : Db} {t t' : Trip} {id : ℕ} {raises : Bool}

lemma hasRequest_iff {i : BookInput} : s.hasRequest i = true ↔
    i.clientRequestId ≠ none ∧
      ∃ id t, s.trips.get? id = some t ∧ t.rider = i.rider ∧
        t.clientRequestId = i.clientRequestId := by
  simp only [Db.hasRequest, Bool.and_eq_true, Option.isSome_iff_ne_none, List.any_eq_true,
    decide_eq_true_eq]
  refine and_congr_right fun _ => ⟨?_, ?_⟩
  · rintro ⟨t, ht, hrider, hrequest⟩
    exact ⟨t.id, t, Serial.get?_of_mem ht, hrider, hrequest⟩
  · rintro ⟨id, t, ht, hrider, hrequest⟩
    exact ⟨t, Serial.mem_of_get? ht, hrider, hrequest⟩

/-- A save of a locked row leaves alone what the others have locked, if it gives the trip only to a
driver who is locked as well. -/
lemma keep_save (ht : s.trips.get? t'.id = some t) (hid : .trip t'.id ∈ held)
    (hrider : t'.rider = t.rider) (hrequest : t'.clientRequestId = t.clientRequestId)
    (hocc : ∀ d, t'.Occupies d → t.Occupies d ∨ .driver d ∈ held) (hd : Disjoint held other) :
    Keep other s (s.save t') where
  trips := by
    intro i r hi hr
    have hne : i ≠ t'.id := fun h => Set.disjoint_left.mp hd hid (h ▸ hi)
    rw [get?_save_of_ne hne]
    exact hr
  drivers := fun _ _ _ h => h
  free := by
    rintro d hdo trip ⟨r, hr, hocc'⟩
    obtain ⟨rfl, rfl⟩ | ⟨-, hr⟩ := of_get?_save hr
    · obtain hocc' | hheld := hocc d hocc'
      · exact ⟨t, ht, hocc'⟩
      · exact absurd hdo (Set.disjoint_left.mp hd hheld)
    · exact ⟨r, hr, hocc'⟩
  users := fun _ d h => ⟨d, h, rfl⟩
  requests := by
    intro i hi
    obtain ⟨hsome, id, r, hr, hri, hreq⟩ := hasRequest_iff.mp hi
    refine hasRequest_iff.mpr ⟨hsome, ?_⟩
    by_cases hidt : id = t'.id
    · rw [hidt, ht, Option.some.injEq] at hr
      subst hr
      exact ⟨t'.id, t', get?_save_self ht, hrider.trans hri, hrequest.trans hreq⟩
    · exact ⟨id, r, (get?_save_of_ne hidt).trans hr, hri, hreq⟩

/-- A save of some columns of a locked row, which gives the trip to nobody. -/
lemma keep_update {f : Trip → Trip} {hf : ∀ t, (f t).id = t.id} (ht : s.trips.get? t.id = some t)
    (hid : .trip t.id ∈ held) (hrider : (f t).rider = t.rider)
    (hrequest : (f t).clientRequestId = t.clientRequestId)
    (hocc : ∀ d, (f t).Occupies d → t.Occupies d) (hd : Disjoint held other) :
    Keep other s (s.update t.id f hf) := by
  rw [update_eq_save ht]
  rw [← hf t] at ht hid
  exact keep_save ht hid hrider hrequest (fun d h => .inl (hocc d h)) hd

/-- A write to the row of a locked driver. -/
lemma keep_updateDriver {g : Driver → Driver} {hg : ∀ d, (g d).id = d.id}
    (huser : ∀ d, (g d).user = d.user) (hid : .driver id ∈ held) (hd : Disjoint held other) :
    Keep other s (s.updateDriver id g hg) where
  trips := fun _ _ _ h => h
  drivers := by
    intro i d hi hget
    have hne : i ≠ id := fun h => Set.disjoint_left.mp hd hid (h ▸ hi)
    rw [get?_updateDriver_of_ne hne]
    exact hget
  free := fun _ _ _ h => h
  users := by
    intro i d hget
    rw [get?_updateDriver, hget]
    by_cases hi : d.id = id
    · exact ⟨g d, by simp [hi], huser d⟩
    · exact ⟨d, by simp [hi], rfl⟩
  requests := fun _ h => h

lemma keep_book (i : BookInput) : Keep other s (s.book i) := by
  by_cases hreq : s.hasRequest i = true
  · rw [Db.book, if_pos hreq]
    exact Keep.refl _ _
  · have hnew : s.hasRequest i = false := by simpa using hreq
    have hkept : ∀ id t, s.trips.get? id = some t → (s.book i).trips.get? id = some t := by
      intro id t ht
      rw [get?_book hnew, if_neg (Nat.ne_of_lt (Serial.lt_next ht)), ht]
    have hdrivers : (s.book i).drivers = s.drivers := by
      rw [Db.book, if_neg hreq]
    refine ⟨fun id t _ => hkept id t, fun id d _ h => hdrivers ▸ h, ?_,
      fun id d h => ⟨d, hdrivers ▸ h, rfl⟩, ?_⟩
    · rintro d - trip ⟨t, ht, hocc⟩
      rw [get?_book hnew] at ht
      split at ht
      · obtain rfl := Option.some.inj ht
        exact absurd hocc.1 (by simp [BookInput.trip])
      · exact ⟨t, ht, hocc⟩
    · intro j hj
      obtain ⟨hsome, id, t, ht, hrider, hrequest⟩ := hasRequest_iff.mp hj
      exact hasRequest_iff.mpr ⟨hsome, id, t, hkept id t ht, hrider, hrequest⟩

/-! ## Sound statements -/

lemma sound_abort : Sound Keep held s₀ (.abort : Tx) := trivial

lemma sound_lockTrip {k : Trip → Tx}
    (hk : ∀ s t, s.trips.get? id = some t → t.id = id →
      Sound Keep (insert (.trip id) held) s (k t)) :
    Sound Keep held s₀ (lockTrip id k) := by
  intro s _
  rcases hget : s.trips.get? id with _ | t
  · simp only [hget]
    exact ⟨.inl (by simp only [hget]), trivial⟩
  · simp only [hget]
    refine ⟨.inr fun s' hs' => ?_, hk s t hget (id_of_get? hget)⟩
    simp only [hget, hs'.trips id t (Set.mem_insert _ _) hget]

lemma sound_lockDriver {k : Driver → Tx}
    (hk : ∀ s d, Keep held s₀ s → s.drivers.get? id = some d → d.id = id →
      Sound Keep (insert (.driver id) held) s (k d)) :
    Sound Keep held s₀ (lockDriver id k) := by
  intro s hs
  rcases hget : s.drivers.get? id with _ | d
  · simp only [hget]
    exact ⟨.inl (by simp only [hget]), trivial⟩
  · simp only [hget]
    refine ⟨.inr fun s' hs' => ?_, hk s d hs hget (Serial.pk_of_get? hget)⟩
    simp only [hget, hs'.drivers id d (Set.mem_insert _ _) hget]

lemma sound_finish {w : Db → Db}
    (hw : ∀ s, Keep held s₀ s → ∀ other, Disjoint held other → Keep other s (w s)) :
    Sound Keep held s₀ (finish raises w) := by
  cases raises with
  | true => exact sound_abort
  | false => exact hw

/-- The row that was read under its lock is still there at the commit. -/
lemma sound_save (ht : s₀.trips.get? t'.id = some t) (hid : .trip t'.id ∈ held)
    (hrider : t'.rider = t.rider) (hrequest : t'.clientRequestId = t.clientRequestId)
    (hocc : ∀ d, t'.Occupies d → t.Occupies d ∨ .driver d ∈ held) :
    Sound Keep held s₀ (finish raises fun db => db.save t') :=
  sound_finish fun _ hs _ hd =>
    keep_save (hs.trips _ _ hid ht) hid hrider hrequest hocc hd

lemma sound_update {f : Trip → Trip} {hf : ∀ t, (f t).id = t.id}
    (ht : s₀.trips.get? t.id = some t) (hid : .trip t.id ∈ held)
    (hrider : (f t).rider = t.rider) (hrequest : (f t).clientRequestId = t.clientRequestId)
    (hocc : ∀ d, (f t).Occupies d → t.Occupies d) :
    Sound Keep held s₀ (finish raises fun db => db.update t.id f hf) := by
  refine sound_finish fun s hs other hd => ?_
  exact keep_update (hs.trips _ _ hid ht) hid hrider hrequest hocc hd

/-- The row of a driver is locked by the update of it, the last statement before the commit. -/
lemma sound_finishDriver {driver : ℕ} {w : Db → Db} {g : Driver → Driver}
    {hg : ∀ d, (g d).id = d.id} (huser : ∀ d, (g d).user = d.user)
    (hw : ∀ s, Keep held s₀ s → ∀ other, Disjoint held other → Keep other s (w s)) :
    Sound Keep held s₀
      (.lock (.driver driver) fun _ => finish raises fun db => (w db).updateDriver driver g hg) := by
  intro s hs
  refine ⟨.inr fun _ _ => ?_, sound_finish fun u hu other hd => ?_⟩
  · cases raises <;> rfl
  · have hsub : held ⊆ insert (.driver driver) held := Set.subset_insert _ _
    have hkeep := hw u (hs.trans (hu.anti hsub)) other (hd.mono_left hsub)
    exact hkeep.trans (keep_updateDriver huser (Set.mem_insert _ _) hd)

lemma sound_finishCounted {driver : Option ℕ} {w : Db → Db}
    (hw : ∀ s, Keep held s₀ s → ∀ other, Disjoint held other → Keep other s (w s)) :
    Sound Keep held s₀ (finishCounted raises driver w) := by
  cases driver with
  | none => exact sound_finish hw
  | some d => exact sound_finishDriver (fun _ => rfl) hw

end Writes

/-! ## Sound transactions -/

section Transactions

variable {s : Db} {t : Trip} {d : ℕ}

lemma not_occupies_of_status (h : t.status = some .completed ∨ t.status = some .cancelled) :
    ¬ t.Occupies d := by
  rintro ⟨-, c, hc, hstatus⟩
  rw [hstatus] at h
  obtain h | h := h
  · obtain rfl := Option.some.inj h
    exact absurd hc (by decide)
  · obtain rfl := Option.some.inj h
    exact absurd hc (by decide)

lemma sound_createTrip (i : BookInput) : Sound Keep ∅ s (createTrip i) := by
  intro s₀ _
  by_cases hreq : s₀.hasRequest i = true
  · simp only [hreq, if_true]
    exact ⟨.inl (by simp only [hreq, if_true]), trivial⟩
  · simp only [hreq, Bool.false_eq_true, if_false]
    refine ⟨?_, sound_finish fun u _ other _ => keep_book i⟩
    rcases hraises : i.raises with _ | _
    · -- A trip that another session books for the request in between is found by the insert.
      right
      intro s' _
      by_cases hreq' : s'.hasRequest i = true
      · simp [hreq, hreq', finish, Db.book]
      · simp [hreq, hreq']
    · left
      simp [hreq, finish]

lemma sound_acceptTrip (i : AcceptInput) : Sound Keep ∅ s (acceptTrip i) := by
  refine sound_lockTrip fun s₁ t ht hid => ?_
  split
  · exact sound_abort
  split
  · exact sound_abort
  refine sound_lockDriver fun s₂ d hs₂ hd hdid => ?_
  split
  · exact sound_abort
  split
  · exact sound_abort
  split
  · exact sound_abort
  split
  · exact sound_abort
  split
  · intro u _ other hdisj
    exact keep_updateDriver (fun _ => rfl) (hdid ▸ Set.mem_insert _ _) hdisj
  intro s₃ hs₃
  have ht₃ : s₃.trips.get? t.id = some t := by
    rw [hid]
    exact hs₃.trips _ _ (by simp) (hs₂.trips _ _ (by simp) ht)
  by_cases hfree : s₃.activeTripIds d.id t.id = []
  · simp only [hfree, ne_eq, not_true, if_false]
    have hmem : Key.trip t.id ∈
        insert (Key.driver i.driver) (insert (Key.trip i.trip) (∅ : Set Key)) := by
      simp [hid]
    refine ⟨.inr fun s' hs' => ?_, sound_save ht₃ hmem rfl rfl fun d' hocc => ?_⟩
    · have hfree' : s'.activeTripIds d.id t.id = [] := by
        refine List.eq_nil_iff_forall_not_mem.mpr fun id hmem => ?_
        obtain ⟨hocc, hne⟩ := mem_activeTripIds.mp hmem
        have hocc₃ := hs'.free d.id (by simp [hdid]) id hocc
        exact List.eq_nil_iff_forall_not_mem.mp hfree id (mem_activeTripIds.mpr ⟨hocc₃, hne⟩)
      simp [hfree, hfree']
    · have hdriver : d.id = d' := Option.some.inj hocc.1
      exact .inr (by simp [← hdriver, hdid])
  · simp only [hfree, ne_eq, not_false_eq_true, if_true]
    exact ⟨.inl (by simp [hfree]), sound_abort⟩

lemma occupies_of_commanded {i : UpdateInput} (hfrom : t.status ∈ i.command.allowedFrom.map some)
    (h : (t.commanded i).Occupies d) : t.Occupies d := by
  obtain ⟨trip, command, otp, cancelledBy, reason, now, raises⟩ := i
  cases command with
  | reached =>
      have hstatus : t.status = some .accepted := by simpa [Command.allowedFrom] using hfrom
      exact ⟨h.1, .accepted, by decide, hstatus⟩
  | inProgress =>
      obtain hstatus | hstatus : t.status = some .accepted ∨ t.status = some .reached := by
        simpa [Command.allowedFrom] using hfrom
      · exact ⟨h.1, .accepted, by decide, hstatus⟩
      · exact ⟨h.1, .reached, by decide, hstatus⟩
  | completed => exact absurd h (not_occupies_of_status (.inl rfl))
  | cancelled => exact absurd h (not_occupies_of_status (.inr rfl))

lemma id_commanded (i : UpdateInput) : (t.commanded i).id = t.id := by
  obtain ⟨trip, command, otp, cancelledBy, reason, now, raises⟩ := i
  cases command <;> rfl

lemma rider_commanded (i : UpdateInput) : (t.commanded i).rider = t.rider := by
  obtain ⟨trip, command, otp, cancelledBy, reason, now, raises⟩ := i
  cases command <;> rfl

lemma clientRequestId_commanded (i : UpdateInput) :
    (t.commanded i).clientRequestId = t.clientRequestId := by
  obtain ⟨trip, command, otp, cancelledBy, reason, now, raises⟩ := i
  cases command <;> rfl

lemma sound_updateTripStatus (i : UpdateInput) : Sound Keep ∅ s (updateTripStatus i) := by
  refine sound_lockTrip fun s₁ t ht hid => ?_
  split
  · exact sound_abort
  next hfrom =>
  have ht' : s₁.trips.get? (t.commanded i).id = some t := by
    rw [id_commanded, hid]
    exact ht
  have hmem : Key.trip (t.commanded i).id ∈ insert (Key.trip i.trip) (∅ : Set Key) := by
    rw [id_commanded, hid]
    exact Set.mem_insert _ _
  have hocc : ∀ d, (t.commanded i).Occupies d →
      t.Occupies d ∨ Key.driver d ∈ insert (Key.trip i.trip) (∅ : Set Key) :=
    fun d h => .inl (occupies_of_commanded (not_not.mp hfrom) h)
  split
  · exact sound_abort
  split
  · refine sound_finishCounted fun u hu other hd => ?_
    exact keep_save (hu.trips _ _ hmem ht') hmem (rider_commanded i) (clientRequestId_commanded i)
      hocc hd
  · exact sound_save ht' hmem (rider_commanded i) (clientRequestId_commanded i) hocc

section Cancel

variable {held other : Set Key} {raises : Bool} {cancelledBy reason : String} {now : ℤ}

lemma keep_cancel (ht : s.trips.get? t.id = some t) (hid : .trip t.id ∈ held)
    (hd : Disjoint held other) : Keep other s (s.cancel t.id cancelledBy reason now) :=
  keep_update ht hid rfl rfl (fun _ h => absurd h (not_occupies_of_status (.inr rfl))) hd

lemma sound_cancel (ht : s.trips.get? t.id = some t) (hid : .trip t.id ∈ held) :
    Sound Keep held s (finish raises fun db => db.cancel t.id cancelledBy reason now) :=
  sound_finish fun _ hs _ hd => keep_cancel (hs.trips _ _ hid ht) hid hd

end Cancel

lemma sound_operatorCancelLocked {held : Set Key} (i : OperatorInput)
    (ht : s.trips.get? t.id = some t) (hid : .trip t.id ∈ held) :
    Sound Keep held s (operatorCancelLocked i t) := by
  unfold operatorCancelLocked
  split
  · exact sound_abort
  split
  · exact sound_abort
  · exact sound_update ht hid rfl rfl fun _ h => absurd h (not_occupies_of_status (.inr rfl))

/-- The user of a driver is read without a lock and never changes. -/
lemma sound_cancelTripDriver (i : DriverCancelInput) : Sound Keep ∅ s (cancelTripDriver i) := by
  intro s₁ _
  rcases ht : s₁.trips.get? i.trip with _ | t
  · simp only [ht]
    exact ⟨.inl (by simp only [ht]), trivial⟩
  have hid := id_of_get? ht
  rcases hd : t.driver.bind s₁.drivers.get? with _ | d
  · simp only [ht, hd]
    exact ⟨.inl (by simp only [ht, hd]), trivial⟩
  obtain ⟨did, hdid, hget⟩ := Option.bind_eq_some_iff.mp hd
  simp only [ht, hd]
  refine ⟨.inr fun s' hs' => ?_, ?_⟩
  · have ht' := hs'.trips _ _ (Set.mem_insert _ _) ht
    obtain ⟨d', hget', huser⟩ := hs'.users _ _ hget
    have hd' : t.driver.bind s'.drivers.get? = some d' := by
      rw [hdid]
      exact hget'
    have hsame : d'.id = d.id := (Serial.pk_of_get? hget').trans (Serial.pk_of_get? hget).symm
    simp only [ht, ht', hd, hd', huser, hsame]
  · have ht' : s₁.trips.get? t.id = some t := hid.symm ▸ ht
    have hmem : Key.trip t.id ∈ insert (Key.trip i.trip) (∅ : Set Key) := hid ▸ Set.mem_insert _ _
    split
    · exact sound_abort
    split
    · exact sound_abort
    split
    · exact sound_cancel ht' hmem
    · refine sound_finishDriver (fun _ => rfl) fun u hu other hdisj => ?_
      exact keep_cancel (hu.trips _ _ hmem ht') hmem hdisj

lemma sound_riderCancelTrip (i : CancelInput) : Sound Keep ∅ s (riderCancelTrip i) := by
  refine sound_lockTrip fun s₁ t ht hid => ?_
  split
  · exact sound_abort
  split
  · exact sound_abort
  split
  · exact sound_abort
  · exact sound_cancel (hid.symm ▸ ht) (hid ▸ Set.mem_insert _ _)

lemma sound_autoCancelTrip (id : ℕ) (now : ℤ) (raises : Bool) :
    Sound Keep ∅ s (autoCancelTrip id now raises) := by
  refine sound_lockTrip fun s₁ t ht hid => ?_
  split
  · exact sound_abort
  split
  · exact sound_abort
  · exact sound_cancel (hid.symm ▸ ht) (hid ▸ Set.mem_insert _ _)

lemma sound_staleReleaseDriver (i : ReleaseInput) : Sound Keep ∅ s (staleReleaseDriver i) := by
  refine sound_lockTrip fun s₁ t ht hid => ?_
  have ht' : s₁.trips.get? t.id = some t := hid.symm ▸ ht
  have hmem : Key.trip t.id ∈ insert (Key.trip i.cancel.trip) (∅ : Set Key) := by
    rw [hid]
    exact Set.mem_insert _ _
  split
  · exact sound_abort
  split
  · exact sound_abort
  split
  · exact sound_abort
  split
  · exact sound_abort
  split
  · split
    · exact sound_abort
    · refine sound_finishCounted fun u hu other hd => ?_
      exact keep_update (hu.trips _ _ hmem ht') hmem rfl rfl
        (fun d h => absurd h (not_occupies_of_status (.inl rfl))) hd
  split
  · exact sound_abort
  · exact sound_operatorCancelLocked _ ht' hmem

/-- Every transaction keeps to the agreement. -/
theorem sound_transaction (r : Request) (s : Db) : Sound Keep ∅ s (transaction r) := by
  cases r with
  | createTrip i => exact sound_createTrip i
  | acceptTrip i => exact sound_acceptTrip i
  | updateTripStatus i => exact sound_updateTripStatus i
  | cancelTripDriver i => exact sound_cancelTripDriver i
  | riderCancelTrip i => exact sound_riderCancelTrip i
  | autoCancelTrip id now raises => exact sound_autoCancelTrip id now raises
  | operatorCancel i =>
      refine sound_lockTrip fun s₁ t ht hid => ?_
      exact sound_operatorCancelLocked i (hid.symm ▸ ht) (hid ▸ Set.mem_insert _ _)
  | staleReleaseDriver i => exact sound_staleReleaseDriver i
  | editDriver id e =>
      refine sound_lockDriver fun s₁ d _ _ hdid u _ other hd => ?_
      exact keep_updateDriver (fun _ => rfl) (Set.mem_insert _ _) hd
  | saveDriver held =>
      refine fun u _ => ⟨.inr fun _ _ => rfl, fun v _ other hd => ?_⟩
      exact keep_updateDriver (fun _ => rfl) (Set.mem_insert _ _) hd

end Transactions

/-- In every interleaving of any number of sessions, with waits for locks and with sessions that
die, the database is what the committed transactions make of it when each of them runs alone, in
the order of their commits. -/
theorem rides_one_after_the_other {τ : Type} [DecidableEq τ] (db : Db)
    (ms : List (Move τ Request)) :
    (ridesAfter db ms).db = System.replay transaction db (ridesAfter db ms).log :=
  System.db_run agreement_keep sound_transaction db ms

end SaaradhiGo.Rides.Lifecycle
