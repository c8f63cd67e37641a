/-
An accepted request, executed in the world it was accepted in.

The execution writes the zone of the request and appends one revision, and before it the
baseline of a zone that has none.  What is left to ask is whether the zone is the one that was
wanted: a restore gives the values of its revision when these are in the form that the cleaning
leaves.
-/
import SaaradhiGo.Zones.Accepted
import SaaradhiGo.Lib.PlainReader

namespace SaaradhiGo.Zones

open Python

/-! ## Revisions that are restored as they are -/

/-- The same in every field that can be edited. -/
structure ZoneValues.SameEditable (py : Reader) (v t : ZoneValues) : Prop where
  name : v.name = t.name
  country : v.country = t.country
  stateCode : v.stateCode = t.stateCode
  city : v.city = t.city
  zoneType : v.zoneType = t.zoneType
  parent : v.parent = t.parent
  priority : v.priority = t.priority
  polygon : py.same v.polygon t.polygon = true
  currency : v.currency = t.currency
  timezoneName : v.timezoneName = t.timezoneName
  distanceUnit : v.distanceUnit = t.distanceUnit
  taxMode : v.taxMode = t.taxMode
  perTripFee : v.perTripFee = t.perTripFee
  perTripFeeLabel : v.perTripFeeLabel = t.perTripFeeLabel
  metadata : py.same v.metadata t.metadata = true

/-- The form that the cleaning leaves as it is: no blanks at the ends, the country and the
currency in capitals, no blank market field, a polygon in its normal form. -/
structure Tidy (py : Reader) (t : ZoneValues) : Prop where
  name : strip t.name = t.name
  country : upper py (strip t.country) = t.country
  stateCode : strip t.stateCode = t.stateCode
  city : strip t.city = t.city
  zoneType : strip t.zoneType = t.zoneType
  parent : ∀ p ∈ t.parent, p ≠ "" ∧ strip p = p
  polygon : ∀ s, normalise py t.polygon = .ok s → py.same s.json t.polygon = true
  currency : t.currency ≠ "" ∧ upper py (strip t.currency) = t.currency
  timezoneName : t.timezoneName ≠ "" ∧ strip t.timezoneName = t.timezoneName
  distanceUnit : t.distanceUnit ≠ "" ∧ strip t.distanceUnit = t.distanceUnit
  taxMode : t.taxMode ≠ "" ∧ strip t.taxMode = t.taxMode
  perTripFee : 0 ≤ t.perTripFee ∧ t.perTripFee ≤ 10000000
  perTripFeeLabel : strip t.perTripFeeLabel = t.perTripFeeLabel
  metadata : py.same (if truthy t.metadata then t.metadata else .obj []) t.metadata = true

section Restored

variable {py : Reader} {v t d field : String} {required : Bool} {maximum : ℕ}

lemma cleanText_str (h : cleanText py (some (.str t)) field required maximum = .ok v) :
    v = strip t := (cleanText_eq_ok.mp h).2.2

/-- A field that is blank when nothing is given is resolved to itself when it is not blank. -/
lemma effective_str_iff (hd : d ≠ "") (hstrip : strip d = d) :
    effective (given py (some (.str t))) d = t ↔ t ≠ "" ∧ strip t = t := by
  rw [given_str]
  by_cases hblank : strip t = ""
  · have hdefault : effective (strip t) d = d := if_pos hblank
    rw [hdefault]
    constructor
    · rintro rfl
      exact absurd (hstrip ▸ hblank) hd
    · rintro ⟨hne, hsame⟩
      exact absurd (hsame ▸ hblank) hne
  · have hkept : effective (strip t) d = strip t := if_neg hblank
    rw [hkept]
    refine ⟨fun hsame => ⟨?_, hsame⟩, And.right⟩
    rintro rfl
    exact hblank hsame

lemma effective_upper_str_iff (hd : d ≠ "") (hstrip : strip d = d)
    (hcapitals : d.toList.all Char.isUpper) :
    effective (upper py (given py (some (.str t)))) d = t ↔
      t ≠ "" ∧ upper py (strip t) = t := by
  rw [given_str]
  by_cases hblank : upper py (strip t) = ""
  · have hdefault : effective (upper py (strip t)) d = d := if_pos hblank
    rw [hdefault]
    constructor
    · rintro rfl
      rw [hstrip, upper_of_capitals hcapitals] at hblank
      exact absurd hblank hd
    · rintro ⟨hne, hsame⟩
      exact absurd (hsame ▸ hblank) hne
  · have hkept : effective (upper py (strip t)) d = upper py (strip t) := if_neg hblank
    rw [hkept]
    refine ⟨fun hsame => ⟨?_, hsame⟩, And.right⟩
    rintro rfl
    exact hblank hsame

lemma cleanCountry_str {c : Country} (h : cleanCountry py (some (.str t)) = .ok c) :
    c.code = upper py (strip t) := by
  obtain ⟨text, htext, hrest⟩ := Fallible.bind_eq_ok.mp h
  rw [cleanText_str htext] at hrest
  split at hrest
  · rename_i d hfind
    cases hrest
    simpa using List.find?_some hfind
  · cases hrest

lemma cleanZoneType_str (h : cleanZoneType py (some (.str t)) = .ok v) : v = strip t := by
  obtain ⟨text, htext, hrest⟩ := Fallible.bind_eq_ok.mp h
  split at hrest
  · cases hrest
    exact cleanText_str htext
  · cases hrest

lemma cleanLabel_str {fee : ℤ} (h : cleanLabel py fee (some (.str t)) = .ok v) : v = strip t := by
  obtain ⟨text, htext, hrest⟩ := Fallible.bind_eq_ok.mp h
  split at hrest
  · cases hrest
  · cases hrest
    exact cleanText_str htext

lemma cleanPriority_int {n m : ℤ} (h : cleanPriority py (some (.int n)) = .ok m) : m = n := by
  rw [cleanPriority] at h
  split at h
  · cases h
  · rename_i k hk
    have hkn : k = n := (Option.some.inj hk).symm
    split at h
    · cases h
      exact hkn
    · cases h

lemma cleanParent_str_iff {p q : Option String} {code : String}
    (h : cleanParent py (some (optionJson p)) code = .ok q) :
    q = p ↔ ∀ t ∈ p, t ≠ "" ∧ strip t = t := by
  cases p with
  | none =>
      cases h
      refine ⟨fun _ t ht => ?_, fun _ => rfl⟩
      cases ht
  | some t =>
      have hiff : (∀ t' ∈ some t, t' ≠ "" ∧ strip t' = t') ↔ t ≠ "" ∧ strip t = t := by
        simp
      rw [hiff]
      rw [optionJson, cleanParent.eq_def] at h
      dsimp only at h
      split at h
      · rename_i hfalsy
        cases h
        have hblank : t = "" := by simpa [truthy] using hfalsy
        refine ⟨fun hnone => ?_, fun hne => absurd hblank hne.1⟩
        cases hnone
      · rename_i htruthy
        have hne : t ≠ "" := by simpa [truthy] using htruthy
        obtain ⟨text, htext, hrest⟩ := Fallible.bind_eq_ok.mp h
        rw [cleanText_str htext] at hrest
        split at hrest
        · rename_i hblank
          cases hrest
          refine ⟨fun hnone => ?_, fun hsame => absurd (hsame.2 ▸ hblank) hne⟩
          cases hnone
        · split at hrest
          · cases hrest
          · cases hrest
            exact ⟨fun hsame => ⟨hne, Option.some.inj hsame⟩, fun hsame => congrArg some hsame.2⟩

lemma cleanFee_str_iff {n m : ℤ} (h : cleanFee py (some (.str (hundredthsText n))) = .ok m) :
    m = n ↔ 0 ≤ n ∧ n ≤ 10000000 := by
  constructor
  · rintro rfl
    exact cleanFee_range h
  · intro hn
    rw [cleanFee_text hn] at h
    exact (Except.ok.inj h).symm

lemma cleanMetadata_json {m m' : Json} (h : cleanMetadata (some m) = .ok m') :
    m' = if truthy m then m else .obj [] := by
  rw [cleanMetadata.eq_def] at h
  dsimp only at h
  split at h
  · rename_i hfalsy
    cases h
    rw [if_neg (by simpa using hfalsy)]
  · rename_i htruthy
    rw [if_pos (by simpa using htruthy)]
    split at h
    · cases h
      rfl
    · cases h

lemma normalise_of_validate {sh : Shapely} {j g : Json} {geom : sh.Geometry}
    (h : validate py sh j = .ok (g, geom)) : ∃ s, normalise py j = .ok s ∧ s.json = g := by
  obtain ⟨s, hs, hrest⟩ := Fallible.bind_eq_ok.mp h
  refine ⟨s, hs, ?_⟩
  dsimp only at hrest
  split at hrest
  · cases hrest
  · split at hrest
    · cases hrest
    · split at hrest
      · cases hrest
      · cases hrest
        rfl

variable {env : Env} {z : ZoneValues} {r : Revision} {c : Cleaned env}

/-- The cleaned zone has the values of the revision exactly when these are in clean form. -/
theorem sameEditable_iff_tidy (h : cleanValues env (restoreRaw r) (some z) = .ok c) :
    c.values.SameEditable env.py r.snapshot ↔ Tidy env.py r.snapshot := by
  obtain ⟨head, country, market, h⟩ := cleanValues_eq_ok.mp h
  obtain ⟨-, -, -, hcur, hcapitals, htz, hu, htaxMode, hcurne, htzne, hune⟩ :=
    countries_texts country (mem_of_cleanCountry h.country_eq)
  have htaxes : ∀ d ∈ ["inclusive", "additive"], strip d = d ∧ d ≠ "" := by decide +kernel
  obtain ⟨hstripTax, htaxne⟩ := htaxes _ htaxMode
  have hresolves := (cleanMarket_eq_ok.mp h.market_eq).1
  rw [← h.marketValues] at hresolves
  have hname := cleanText_str h.name
  have hcountry := h.countryValue.trans (cleanCountry_str h.country_eq)
  have hstate := cleanText_str h.stateCode
  have hcity := cleanText_str h.city
  have htype := cleanZoneType_str h.zoneType
  have hparent := cleanParent_str_iff h.parent
  have hpriority := cleanPriority_int h.priority
  have hfee := cleanFee_str_iff h.perTripFee
  have hlabel := cleanLabel_str h.perTripFeeLabel
  have hmetadata := cleanMetadata_json h.metadata
  obtain ⟨s, hs, hpolygon⟩ := normalise_of_validate h.polygon
  have hcurrency : c.values.currency = _ := hresolves.currency
  have htimezone : c.values.timezoneName = _ := hresolves.timezoneName
  have hunit : c.values.distanceUnit = _ := hresolves.distanceUnit
  have htax : c.values.taxMode = _ := hresolves.taxMode
  constructor
  · intro hsame
    refine ⟨hname ▸ hsame.name, hcountry ▸ hsame.country, hstate ▸ hsame.stateCode,
      hcity ▸ hsame.city, htype ▸ hsame.zoneType, hparent.mp hsame.parent, ?_,
      (effective_upper_str_iff hcurne hcur hcapitals).mp (hcurrency ▸ hsame.currency),
      (effective_str_iff htzne htz).mp (htimezone ▸ hsame.timezoneName),
      (effective_str_iff hune hu).mp (hunit ▸ hsame.distanceUnit),
      (effective_str_iff htaxne hstripTax).mp (htax ▸ hsame.taxMode),
      hfee.mp hsame.perTripFee, hlabel ▸ hsame.perTripFeeLabel, hmetadata ▸ hsame.metadata⟩
    intro s' hs'
    have hss : s' = s := Except.ok.inj (hs'.symm.trans hs)
    rw [hss, hpolygon]
    exact hsame.polygon
  · intro htidy
    refine ⟨hname.trans htidy.name, hcountry.trans htidy.country, hstate.trans htidy.stateCode,
      hcity.trans htidy.city, htype.trans htidy.zoneType, hparent.mpr htidy.parent, hpriority,
      hpolygon ▸ htidy.polygon s hs,
      hcurrency.trans ((effective_upper_str_iff hcurne hcur hcapitals).mpr htidy.currency),
      htimezone.trans ((effective_str_iff htzne htz).mpr htidy.timezoneName),
      hunit.trans ((effective_str_iff hune hu).mpr htidy.distanceUnit),
      htax.trans ((effective_str_iff htaxne hstripTax).mpr htidy.taxMode),
      hfee.mpr htidy.perTripFee, hlabel.trans htidy.perTripFeeLabel, ?_⟩
    rw [hmetadata]
    exact htidy.metadata

end Restored

/-! ## Requests that are applied -/

def Payload.zone : Payload → String
  | create v => v.code
  | update zone _ _ => zone
  | restore zone _ _ _ => zone
  | deactivate zone _ => zone
  | reactivate zone _ => zone

/-- A new zone, an update or a restore. -/
def Proposal.setsValues : Proposal → Bool
  | create _ => true
  | update _ _ => true
  | restore _ _ => true
  | _ => false

/-- The values of the request; for a restore, those of the revision. -/
def target (w : World) : Payload → Option ZoneValues
  | .create v => some v
  | .update _ _ v => some v
  | .restore zone _ version _ => (revision? w zone version).map (·.snapshot)
  | _ => none

/-- The revisions before the change: the zone as it stood is on record. -/
def recorded (w : World) (zone : String) : World :=
  match w.zones.get? zone with
  | none => w
  | some z => ensureBaseline w z

/-- The zone has the values of the request and one revision more than before, which is its
snapshot. -/
structure Applied (py : Reader) (w w' : World) (p : Payload) (row : ZoneValues) : Prop where
  row_eq : w'.zones.get? p.zone = some row
  values : ∃ t, target w p = some t ∧ row.SameEditable py t
  others : ∀ code, code ≠ p.zone → w'.zones.get? code = w.zones.get? code
  revisions : ∃ kind restoredFrom, w'.revisions = w.revisions ++
    [⟨p.zone, currentVersion w p.zone + 1, kind, row, restoredFrom⟩]

/-- The request, executed in the world it was accepted in, is applied. -/
def Succeeds (env : Env) (w : World) (p : Payload) : Prop :=
  ∃ w' row, execute env (fun _ => w) w p = .ok w' ∧ Applied env.py w w' p row

/-- Every text fits its column; a new zone has the market of its country; a changed zone has a
revision and no blanks around its code, and a revision that is restored is in clean form. -/
def RoundTrips (py : Reader) (w : World) : Payload → Prop
  | .create v => AtDefaults v ∧ v.fits = true
  | .update zone _ v => revisionsOf w zone ≠ [] ∧ strip zone = zone ∧ v.fits = true
  | .restore zone _ version v => (strip zone = zone ∧ v.fits = true) ∧
      ∀ r ∈ revision? w zone version, Tidy py r.snapshot
  | _ => True

section Requests

variable {env : Env} {w w' : World} {p : Payload} {v t : ZoneValues}

lemma sameEditable_refl (py : Reader) (v : ZoneValues) : v.SameEditable py v :=
  ⟨rfl, rfl, rfl, rfl, rfl, rfl, rfl, py.same_refl _, rfl, rfl, rfl, rfl, rfl, rfl, py.same_refl _⟩

lemma ensureBaseline_zones (z : ZoneValues) : (ensureBaseline w z).zones = w.zones := by
  rw [ensureBaseline]
  split
  · rfl
  · rfl

lemma applied_record {kind : ChangeKind} {restoredFrom : Option ℕ} (hcode : p.zone = v.code)
    (htarget : target w p = some t) (hsame : v.SameEditable env.py t) :
    Applied env.py w (w.record v kind restoredFrom) p v := by
  refine ⟨?_, ⟨t, htarget, hsame⟩, fun code hne => ?_, kind, restoredFrom, ?_⟩
  · rw [hcode]
    exact Table.get?_put_self _ v
  · exact Table.get?_put_of_ne _ (hcode ▸ hne)
  · rw [hcode]
    rfl

lemma recorded_eq_self_iff : recorded w p.zone = w ↔
    (recorded w p.zone).revisions.length = w.revisions.length := by
  rw [recorded]
  split
  · simp
  · rename_i z hz
    rw [ensureBaseline]
    split
    · constructor
      · intro h
        exact congrArg (·.revisions.length) h
      · intro h
        simp at h
    · simp

/-- A request is applied when its execution goes through, writes no baseline and gives the
values that were asked for. -/
lemma succeeds_iff {P : Prop} (kind : ChangeKind) (restoredFrom : Option ℕ)
    (hexec : ∀ w', execute env (fun _ => w) w p = .ok w' ↔
      P ∧ w' = (recorded w p.zone).record v kind restoredFrom)
    (hcode : p.zone = v.code) (htarget : target w p = some t) :
    Succeeds env w p ↔ recorded w p.zone = w ∧ P ∧ v.SameEditable env.py t := by
  constructor
  · rintro ⟨w', row, hok, happlied⟩
    obtain ⟨hP, rfl⟩ := (hexec w').mp hok
    obtain ⟨_, _, hrevisions⟩ := happlied.revisions
    have hlength := congrArg List.length hrevisions
    rw [World.record, writeRevision, List.length_append, List.length_append] at hlength
    refine ⟨recorded_eq_self_iff.mpr (by simpa using hlength), hP, ?_⟩
    have hrow := happlied.row_eq
    have hput : ((recorded w p.zone).record v kind restoredFrom).zones.get? p.zone = some v := by
      rw [hcode]
      exact Table.get?_put_self _ v
    obtain ⟨t', ht', hsame⟩ := happlied.values
    rw [hput] at hrow
    rw [htarget] at ht'
    cases hrow
    cases ht'
    exact hsame
  · rintro ⟨hrecorded, hP, hsame⟩
    have hok := (hexec _).mpr ⟨hP, rfl⟩
    rw [hrecorded] at hok
    exact ⟨_, v, hok, applied_record hcode htarget hsame⟩

lemma recorded_of_get? {z : ZoneValues} (hz : w.zones.get? z.code = some z) :
    recorded w z.code = ensureBaseline w z := by
  rw [recorded, hz]

lemma ensureBaseline_eq_self_iff {z : ZoneValues} :
    ensureBaseline w z = w ↔ revisionsOf w z.code ≠ [] := by
  rw [ensureBaseline]
  split
  · rename_i hnone
    constructor
    · intro h
      have hlength := congrArg (·.revisions.length) h
      simp at hlength
    · intro h
      exact absurd hnone h
  · rename_i hsome
    exact iff_of_true rfl hsome

lemma onZone_eq_ok {code : String} {f : ZoneValues → Except Refusal Payload} :
    onZone w code f = .ok p ↔ ∃ z, w.zones.get? code = some z ∧ f z = .ok p := by
  rw [onZone]
  cases w.zones.get? code with
  | none =>
      constructor
      · intro h
        cases h
      · rintro ⟨z, hz, -⟩
        cases hz
  | some z =>
      constructor
      · intro h
        exact ⟨z, rfl, h⟩
      · rintro ⟨z', hz, h⟩
        cases hz
        exact h

lemma Changes.code {raw : Raw} {z : ZoneValues} {c : Cleaned env} (h : Changes env w raw z c) :
    c.values.code = z.code := by
  obtain ⟨_, _, _, haccepts⟩ := cleanValues_eq_ok.mp h.cleaned
  exact (head_of_change haccepts).1

/-- An accepted request is applied in the world it was accepted in exactly when it makes the
round trip. -/
theorem succeeds_iff_roundTrips {actor : Actor} {reason : String} {q : Proposal}
    (h : propose env w actor reason q = .ok p) (hq : q.setsValues = true) :
    Succeeds env w p ↔ RoundTrips env.py w p := by
  cases q with
  | create raw =>
      obtain ⟨c, node, hcreates, rfl⟩ := creates_of_propose h
      have hrecorded : recorded w c.values.code = w := by
        rw [recorded, hcreates.absent]
      have hiff := succeeds_iff (p := .create c.values) (v := c.values) (t := c.values)
        .create none
        (fun w' => by
          rw [Payload.zone, hrecorded]
          exact hcreates.execute_eq_ok) rfl rfl
      rw [hiff]
      exact (and_iff_right hrecorded).trans (and_iff_left (sameEditable_refl env.py c.values))
  | update code changes =>
      obtain ⟨z, hz, hproposed⟩ := onZone_eq_ok.mp h
      have hcode := Table.pk_of_get? hz
      subst hcode
      obtain ⟨c, hchanges, rfl⟩ := changes_of_update hz hproposed
      have hiff := succeeds_iff (p := .update z.code (currentVersion w z.code) c.values)
        .update none
        (fun w' => by
          rw [Payload.zone, recorded_of_get? hz]
          exact hchanges.execute_eq_ok) hchanges.code.symm rfl
      rw [hiff, Payload.zone, recorded_of_get? hz, ensureBaseline_eq_self_iff]
      exact and_congr_right fun _ => and_iff_left (sameEditable_refl env.py c.values)
  | restore code version =>
      obtain ⟨z, hz, hproposed⟩ := onZone_eq_ok.mp h
      have hcode := Table.pk_of_get? hz
      subst hcode
      obtain ⟨c, r, hchanges, hr, rfl⟩ := changes_of_restore hz hproposed
      have hiff := succeeds_iff
        (p := .restore z.code (currentVersion w z.code) r.version c.values)
        (t := r.snapshot) .restore (some r.version)
        (fun w' => by
          rw [Payload.zone, recorded_of_get? hz]
          exact hchanges.execute_eq_ok) hchanges.code.symm (by rw [target, hr]; rfl)
      -- the revision that is restored is one, so no baseline is written
      have hsome : revisionsOf w z.code ≠ [] :=
        List.ne_nil_of_mem (List.mem_of_find?_eq_some hr)
      have hrecorded : recorded w z.code = w :=
        (recorded_of_get? hz).trans (ensureBaseline_eq_self_iff.mpr hsome)
      rw [hiff, sameEditable_iff_tidy hchanges.cleaned, Payload.zone, and_iff_right hrecorded]
      show _ ↔ _ ∧ ∀ r' ∈ revision? w z.code r.version, Tidy env.py r'.snapshot
      rw [hr]
      exact and_congr_right fun _ => by simp
  | deactivate code => cases hq
  | reactivate code => cases hq

end Requests

/-! ## A new zone in another currency -/

/-- Every polygon is one plain square. -/
def exampleShapely : Shapely where
  Geometry := Unit
  shape := fun _ => ()
  readable := fun _ => true
  readable_normalised := fun _ _ _ _ => rfl
  polygon := fun _ => some ()
  isValid := fun _ => true
  isEmpty := fun _ => false
  selfCrossing := fun _ => false
  projectedArea := fun _ => 120
  overlaps := fun _ _ => false
  overlaps_comm := fun _ _ => rfl
  contains := fun _ _ => true

def exampleEnv : Env := ⟨plainReader, exampleShapely, fun name => name = "Asia/Kolkata"⟩

def coordinate (n : ℤ) (text : List Char) (h : text ≠ [] ∧ text.all Json.isNumeric = true) :
    Json :=
  .float ⟨text, h.1, List.all_eq_true.mp h.2, some n⟩

/-- A square of one degree. -/
def exampleSquare : Json :=
  let west := coordinate 78 "78.0".toList (by decide)
  let east := coordinate 79 "79.0".toList (by decide)
  let south := coordinate 17 "17.0".toList (by decide)
  let north := coordinate 18 "18.0".toList (by decide)
  .arr [.arr [west, south], .arr [east, south], .arr [east, north], .arr [west, north],
    .arr [west, south]]

/-- A city zone of India with a currency. -/
def exampleRaw (currency : String) : Raw where
  code := some (.str "IN-TG-HYD")
  geoNode := some (.str "IN-TG-HYD")
  isActive := none
  marketOverrideReason := some (.str "border market")
  name := some (.str "Hyderabad")
  country := some (.str "in")
  stateCode := some (.str "TG")
  city := some (.str "Hyderabad")
  zoneType := some (.str "city")
  parent := none
  priority := none
  polygon := some exampleSquare
  currency := some (.str currency)
  timezoneName := none
  distanceUnit := none
  taxMode := none
  perTripFee := none
  perTripFeeLabel := none
  metadata := none
  unknown := []

def exampleWorld : World where
  zones := Table.empty
  revisions := []
  nodes := ⟨[⟨"IN-TG-HYD", .city, some "IN", .active⟩], by decide⟩
  trips := []

def exampleActor : Actor := ⟨fun _ => true, fun _ => true⟩

/-- The request is accepted and its payload has a property. -/
def acceptedWith (q : Proposal) (f : Payload → Bool) : Bool :=
  match propose exampleEnv exampleWorld exampleActor "new city" q with
  | .ok p => f p
  | .error _ => false

lemma exists_of_acceptedWith {q : Proposal} {f : Payload → Bool} (h : acceptedWith q f = true) :
    ∃ p, propose exampleEnv exampleWorld exampleActor "new city" q = .ok p ∧ f p = true := by
  rw [acceptedWith] at h
  split at h
  · rename_i p hp
    exact ⟨p, hp, h⟩
  · cases h

instance (v : ZoneValues) : Decidable (AtDefaults v) :=
  inferInstanceAs (Decidable (∀ c ∈ countries, c.code = v.country →
    v.currency = c.currency ∧ v.timezoneName = c.defaultTimezone ∧
      v.distanceUnit = c.distanceUnit))

/-- The new zone keeps the market of its country, and its texts fit. -/
def createsPlainly : Payload → Bool
  | .create v => decide (AtDefaults v) && v.fits
  | _ => false

lemma roundTrips_of_createsPlainly {py : Reader} {w : World} {p : Payload}
    (h : createsPlainly p = true) : RoundTrips py w p := by
  cases p with
  | create v =>
      rw [createsPlainly, Bool.and_eq_true, decide_eq_true_eq] at h
      exact h
  | update zone base v => cases h
  | restore zone base version v => cases h
  | deactivate zone base => trivial
  | reactivate zone base => trivial

/-- A city zone with the market of its country is created. -/
theorem succeeds_plainZone : ∃ p, propose exampleEnv exampleWorld exampleActor "new city"
    (.create (exampleRaw "")) = .ok p ∧ Succeeds exampleEnv exampleWorld p := by
  obtain ⟨p, hp, hplain⟩ := exists_of_acceptedWith (q := .create (exampleRaw ""))
    (f := createsPlainly) (by decide +kernel)
  exact ⟨p, hp, (succeeds_iff_roundTrips hp rfl).mpr (roundTrips_of_createsPlainly hplain)⟩

def refusedWith (code : String) (p : Payload) : Bool :=
  match execute exampleEnv (fun _ => exampleWorld) exampleWorld p with
  | .error s => s = .refused code
  | .ok _ => false

/-- A city zone with a reason for another currency is accepted, and refused when it is
executed: the reason is not in the payload. -/
theorem not_succeeds_otherCurrency : ∃ p, propose exampleEnv exampleWorld exampleActor "new city"
    (.create (exampleRaw "usd")) = .ok p ∧ ¬ Succeeds exampleEnv exampleWorld p := by
  obtain ⟨p, hp, hrefused⟩ := exists_of_acceptedWith (q := .create (exampleRaw "usd"))
    (f := refusedWith "MARKET_MISMATCH") (by decide +kernel)
  refine ⟨p, hp, ?_⟩
  rintro ⟨w', row, hok, -⟩
  rw [refusedWith, hok] at hrefused
  cases hrefused

end SaaradhiGo.Zones
