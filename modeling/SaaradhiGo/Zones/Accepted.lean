/-
The second pass over an accepted request.

The zone that was cleaned is written as it is and the second cleaning gives it again, so that the
execution in the same world goes through exactly when the texts fit their columns, a new zone
has the market of its country and the code of a changed zone has no blanks around it.
-/
import SaaradhiGo.Zones.Workflow

namespace SaaradhiGo.Zones

open Python

/-! ## Values that are stored as they are -/

/-- The form the cleaning leaves: what saving does not change. -/
structure Stored (py : Reader) (v : ZoneValues) : Prop where
  parent : v.parent ≠ some ""
  country : strip v.country ≠ ""
  currency : v.currency ≠ "" ∧ strip (upper py v.currency) = v.currency
  timezoneName : v.timezoneName ≠ ""
  distanceUnit : v.distanceUnit ≠ ""
  taxMode : v.taxMode ≠ ""

section Saving

variable {env : Env} {raw : Raw} {base : Option ZoneValues} {head : Head} {country : Country}
  {market : Market} {c : Cleaned env} {v : ZoneValues} {w : World} {view : View}

lemma effective_ne {text d : String} (hd : d ≠ "") : effective text d ≠ "" := by
  rw [effective]
  split
  · exact hd
  · assumption

lemma Accepts.stored (h : Accepts env raw base head country market c) : Stored env.py c.values := by
  obtain ⟨hcode, hne, -, hcur, hcapitals, -, -, htax, hcurne, htzne, hune⟩ :=
    countries_texts country (mem_of_cleanCountry h.country_eq)
  have htaxes : ∀ d ∈ ["inclusive", "additive"], d ≠ "" := by decide +kernel
  have hresolves := (cleanMarket_eq_ok.mp h.market_eq).1
  rw [← h.marketValues] at hresolves
  have hcurrency : c.values.currency = _ := hresolves.currency
  have htimezone : c.values.timezoneName = _ := hresolves.timezoneName
  have hunit : c.values.distanceUnit = _ := hresolves.distanceUnit
  have htaxMode : c.values.taxMode = _ := hresolves.taxMode
  refine ⟨?_, ?_, ⟨?_, ?_⟩, ?_, ?_, ?_⟩
  · -- a blank parent is no parent
    intro hblank
    have hparent := h.parent
    rw [hblank, cleanParent.eq_def] at hparent
    split at hparent
    · cases hparent
    · split at hparent
      · cases hparent
      · obtain ⟨text, -, hrest⟩ := Fallible.bind_eq_ok.mp hparent
        split at hrest
        · cases hrest
        · rename_i htext
          split at hrest
          · cases hrest
          · exact htext (Option.some.inj (Except.ok.inj hrest))
  · rw [h.countryValue, hcode]
    exact hne
  · rw [hcurrency]
    exact effective_ne hcurne
  · rw [hcurrency]
    by_cases hblank : upper env.py (given env.py (raw.over base).currency) = ""
    · have hdefault : effective (upper env.py (given env.py (raw.over base).currency))
          country.currency = country.currency := if_pos hblank
      rw [hdefault, upper_of_capitals hcapitals, hcur]
    · have hkept : effective (upper env.py (given env.py (raw.over base).currency))
          country.currency = upper env.py (given env.py (raw.over base).currency) :=
        if_neg hblank
      rw [hkept, upper_upper, ← strip_given, strip_upper_strip]
  · rw [htimezone]
    exact effective_ne htzne
  · rw [hunit]
    exact effective_ne hune
  · rw [htaxMode]
    exact effective_ne (htaxes _ htax)

lemma Stored.applyCountryDefaults_eq (h : Stored env.py v) :
    applyCountryDefaults env.py v = v := by
  have hcurrency : effective v.currency (getCountry env.py v.country).currency = v.currency :=
    if_neg h.currency.1
  have htimezone : effective v.timezoneName (getCountry env.py v.country).defaultTimezone =
      v.timezoneName := if_neg h.timezoneName
  have hunit : effective v.distanceUnit (getCountry env.py v.country).distanceUnit =
      v.distanceUnit := if_neg h.distanceUnit
  have htax : effective v.taxMode (getCountry env.py v.country).taxMode = v.taxMode :=
    if_neg h.taxMode
  rw [applyCountryDefaults, hcurrency, htimezone, hunit, htax, h.currency.2]

lemma Stored.saved_eq_ok (h : Stored env.py v) {row : ZoneValues} :
    saved env.py v = .ok row ↔ v.fits = true ∧ row = v := by
  rw [saved, if_neg h.country, h.applyCountryDefaults_eq]
  cases v.fits
  · exact ⟨nofun, fun hfits => absurd hfits.1 Bool.false_ne_true⟩
  · exact ⟨fun hok => ⟨rfl, (Except.ok.inj hok).symm⟩, fun hrow => congrArg Except.ok hrow.2.symm⟩

lemma map_code_of_parentZone {p : Option ZoneValues} (hparent : parentZone w v = .ok p)
    (hne : v.parent ≠ some "") : p.map (·.code) = v.parent := by
  rw [parentZone] at hparent
  split at hparent
  · rename_i hnone
    cases hparent
    rw [hnone]
    rfl
  · rename_i code hcode
    split at hparent
    · rename_i hblank
      exact absurd (hblank ▸ hcode) hne
    · split at hparent
      · cases hparent
      · rename_i parent hget
        split at hparent
        · cases hparent
        · cases hparent
          rw [hcode, Option.map_some, Table.pk_of_get? hget]

/-- A stored form is written when its texts fit. -/
lemma Stored.apply_eq_ok (h : Stored env.py v) {p : Option ZoneValues}
    (hparent : parentZone (view .applied) v = .ok p) {row : ZoneValues} :
    apply env view v = .ok row ↔ v.fits = true ∧ row = v := by
  rw [apply, hparent]
  show saved env.py { v with parent := p.map (·.code) } = .ok row ↔ _
  rw [map_code_of_parentZone hparent h.parent]
  exact h.saved_eq_ok

lemma parentZone_of_checkWorld {geom : env.sh.Geometry} {zone : Option String}
    (h : checkWorld env view v geom zone = .ok ()) :
    ∃ p, parentZone (view .parent) v = .ok p := by
  obtain ⟨p, hp, -⟩ := Fallible.bind_eq_ok.mp h
  exact ⟨p, hp⟩

lemma refuse_eq_ok {α : Type} {x : Except Refusal α} {a : α} : refuse x = .ok a ↔ x = .ok a := by
  cases x with
  | error r => exact ⟨nofun, nofun⟩
  | ok b => exact ⟨fun h => congrArg Except.ok (Except.ok.inj h),
      fun h => congrArg Except.ok (Except.ok.inj h)⟩

lemma raise_eq_ok {α : Type} {x : Except Refusal α} {a : α} : raise x = .ok a ↔ x = .ok a := by
  cases x with
  | error r => exact ⟨nofun, nofun⟩
  | ok b => exact ⟨fun h => congrArg Except.ok (Except.ok.inj h),
      fun h => congrArg Except.ok (Except.ok.inj h)⟩

end Saving

/-! ## The second cleaning -/

section Second

variable {env : Env} {raw : Raw} {base : Option ZoneValues} {c : Cleaned env} {v z : ZoneValues}

/-- The keys of a stored zone are accepted when its code has no blanks around it. -/
lemma checkKeys_raw {py : Reader} {o : Option Json} (hcode : v.code = z.code)
    (hnode : v.geoNode = z.geoNode) :
    checkKeys py (v.raw o) (some z) = .ok () ↔ strip z.code = z.code := by
  have hkeys : checkKeys py (v.raw o) (some z) =
      if strip v.code ≠ z.code then .error ⟨"CODE_IMMUTABLE", "code"⟩ else .ok () := by
    show (if decide (strip v.code ≠ z.code) = true then _ else _) = _
    by_cases hsame : strip v.code = z.code
    · rw [if_neg (by simpa using hsame), if_neg (not_not_intro hsame)]
      have hraw : (v.raw o).geoNode = some (optionJson z.geoNode) := by
        rw [ZoneValues.raw, hnode]
      rw [hraw]
      cases z.geoNode with
      | none => rfl
      | some g => exact if_pos (by simp)
    · rw [if_pos (by simpa using hsame), if_pos hsame]
  rw [hkeys, hcode]
  by_cases hsame : strip z.code = z.code
  · rw [if_neg (not_not_intro hsame)]
    exact ⟨fun _ => hsame, fun _ => rfl⟩
  · rw [if_pos hsame]
    refine ⟨fun h => ?_, fun h => absurd h hsame⟩
    cases h

lemma head_of_change {head : Head} {country : Country} {market : Market}
    (h : Accepts env raw (some z) head country market c) :
    c.values.code = z.code ∧ c.values.geoNode = z.geoNode ∧ c.values.isActive = z.isActive := by
  have hhead := h.head_eq
  rw [← h.headValues] at hhead
  have heq : (⟨z.code, z.geoNode, z.isActive⟩ : Head) = _ := Except.ok.inj hhead
  injection heq with hcode hnode hactive
  exact ⟨hcode.symm, hnode.symm, hactive.symm⟩

/-- A changed zone is cleaned again to itself when its code has no blanks around it. -/
theorem cleanValues_approved (h : cleanValues env raw (some z) = .ok c) :
    (∃ notes, cleanValues env (c.values.raw (some (.str "approved request"))) (some z) =
      .ok ⟨c.values, c.geometry, notes⟩) ↔ strip z.code = z.code := by
  obtain ⟨head, country, market, h⟩ := cleanValues_eq_ok.mp h
  obtain ⟨hcode, hnode, -⟩ := head_of_change h
  constructor
  · rintro ⟨notes, hagain⟩
    obtain ⟨_, _, _, h'⟩ := cleanValues_eq_ok.mp hagain
    exact (checkKeys_raw hcode hnode).mp h'.keys
  · intro hstrip
    refine (h.again_iff ((checkKeys_raw hcode hnode).mpr hstrip) h.head_eq).mpr fun _ => ?_
    show strip "approved request" ≠ ""
    decide +kernel

/-- The market fields are those of the country. -/
def AtDefaults (v : ZoneValues) : Prop :=
  ∀ c ∈ countries, c.code = v.country →
    v.currency = c.currency ∧ v.timezoneName = c.defaultTimezone ∧
      v.distanceUnit = c.distanceUnit

lemma countries_unique : ∀ c ∈ countries, ∀ c' ∈ countries, c.code = c'.code → c = c' := by
  decide +kernel

lemma atDefaults_of_again (h : cleanValues env raw none = .ok c) {c' : Cleaned env}
    (hagain : cleanValues env (c.values.raw none) none = .ok c') : AtDefaults c.values := by
  obtain ⟨head, country, market, h⟩ := cleanValues_eq_ok.mp h
  have hneeds := h.reason_of_again hagain
  rw [← h.marketValues] at hneeds
  have hblank : orBlank env.py ((none : Option Json).getD .null) = "" := by
    show strip "" = ""
    decide +kernel
  intro c' hc' hcode
  rw [h.countryValue] at hcode
  rw [countries_unique c' hc' country (mem_of_cleanCountry h.country_eq) hcode]
  have hnot : ¬ NeedsReason country none _ := fun hn => hneeds hn hblank
  rw [NeedsReason, not_or, not_or] at hnot
  simpa using hnot

/-- A new zone is cleaned again to itself when its market fields are those of its country. -/
theorem cleanValues_created (h : cleanValues env raw none = .ok c) :
    (∃ notes, cleanValues env (c.values.raw none) none = .ok ⟨c.values, c.geometry, notes⟩) ↔
      AtDefaults c.values := by
  refine ⟨fun ⟨notes, hagain⟩ => atDefaults_of_again h hagain, fun hdefaults => ?_⟩
  obtain ⟨head, country, market, h⟩ := cleanValues_eq_ok.mp h
  have hhead : cleanHead env.py (c.values.raw none) none = .ok head := by
    have hheads := h.headValues
    rw [← hheads]
    exact cleanHead_again (hheads ▸ h.head_eq) rfl rfl rfl
  refine (h.again_iff rfl hhead).mpr ?_
  have hmem := mem_of_cleanCountry h.country_eq
  obtain ⟨hcur, htz, hunit⟩ := hdefaults country hmem h.countryValue.symm
  rw [← h.marketValues]
  rintro (⟨-, hne⟩ | ⟨-, hne⟩ | ⟨-, hne⟩)
  · exact absurd hcur hne
  · exact absurd htz hne
  · exact absurd hunit hne

end Second

/-! ## What a proposal has checked -/

section Proposed

variable {env : Env} {w : World} {actor : Actor} {raw : Raw} {reason : String} {p : Payload}
  {z : ZoneValues}

/-- What is known of an accepted new zone. -/
structure Creates (env : Env) (w : World) (raw : Raw) (c : Cleaned env) (node : GeoNode) :
    Prop where
  cleaned : cleanValues env raw none = .ok c
  node_eq : c.values.geoNode.bind w.nodes.get? = some node
  city : node.kind = .city
  country : node.country = some c.values.country
  absent : w.zones.get? c.values.code = none
  world : checkWorld env (fun _ => w) c.values c.geometry none = .ok ()

/-- What is known of an accepted change. -/
structure Changes (env : Env) (w : World) (raw : Raw) (z : ZoneValues) (c : Cleaned env) :
    Prop where
  cleaned : cleanValues env raw (some z) = .ok c
  present : w.zones.get? z.code = some z
  world : checkWorld env (fun _ => w) c.values c.geometry (some z.code) = .ok ()

lemma geoNode_of_created {c : Cleaned env} (h : cleanValues env raw none = .ok c) :
    ∃ g, c.values.geoNode = some g := by
  obtain ⟨head, country, market, h⟩ := cleanValues_eq_ok.mp h
  have hhead := h.head_eq
  rw [← h.headValues] at hhead
  obtain ⟨text, -, hrest⟩ := Fallible.bind_eq_ok.mp hhead
  split at hrest
  · cases hrest
  · obtain ⟨g, -, hrest⟩ := Fallible.bind_eq_ok.mp hrest
    have heq := Except.ok.inj hrest
    injection heq with _ hnode _
    exact ⟨g, hnode.symm⟩

lemma creates_of_propose (h : proposeCreate env w actor raw reason = .ok p) :
    ∃ c node, Creates env w raw c node ∧ p = .create c.values := by
  obtain ⟨c, hc, h⟩ := Fallible.bind_eq_ok.mp h
  obtain ⟨⟨⟩, -, h⟩ := Fallible.bind_eq_ok.mp h
  obtain ⟨node, hnode, h⟩ := Fallible.bind_eq_ok.mp h
  obtain ⟨g, hg⟩ := geoNode_of_created hc
  rw [cityNodeInScope, hg, Option.getD_some] at hnode
  split at hnode
  · cases hnode
  · rename_i node' hfound
    split at hnode
    · cases hnode
    · rename_i hkind
      split at hnode
      · cases hnode
      · cases hnode
        split at h
        · cases h
        · rename_i hcountry
          split at h
          · cases h
          · rename_i habsent
            obtain ⟨⟨⟩, hworld, h⟩ := Fallible.bind_eq_ok.mp h
            cases h
            refine ⟨c, node, ⟨hc, ?_, not_not.mp hkind, not_not.mp hcountry, ?_, hworld⟩, rfl⟩
            · rw [hg]
              exact (Option.filter_eq_some_iff.mp hfound).1
            · simpa using habsent

lemma changes_of_update {changes : Raw} (hz : w.zones.get? z.code = some z)
    (h : proposeUpdate env w actor z changes reason = .ok p) :
    ∃ c, Changes env w (updateRaw changes) z c ∧
      p = .update z.code (currentVersion w z.code) c.values := by
  obtain ⟨⟨⟩, -, h⟩ := Fallible.bind_eq_ok.mp h
  obtain ⟨⟨⟩, -, h⟩ := Fallible.bind_eq_ok.mp h
  obtain ⟨c, hc, h⟩ := Fallible.bind_eq_ok.mp h
  split at h
  · cases h
  · obtain ⟨⟨⟩, hworld, h⟩ := Fallible.bind_eq_ok.mp h
    cases h
    exact ⟨c, ⟨hc, hz, hworld⟩, rfl⟩

lemma changes_of_restore {version : Json} (hz : w.zones.get? z.code = some z)
    (h : proposeRestore env w actor z version reason = .ok p) :
    ∃ c r, Changes env w (restoreRaw r) z c ∧ revision? w z.code r.version = some r ∧
      p = .restore z.code (currentVersion w z.code) r.version c.values := by
  obtain ⟨⟨⟩, -, h⟩ := Fallible.bind_eq_ok.mp h
  obtain ⟨⟨⟩, -, h⟩ := Fallible.bind_eq_ok.mp h
  split at h
  · cases h
  · rename_i n _
    split at h
    · cases h
    · rename_i r hr
      obtain ⟨c, hc, h⟩ := Fallible.bind_eq_ok.mp h
      split at h
      · cases h
      · obtain ⟨⟨⟩, hworld, h⟩ := Fallible.bind_eq_ok.mp h
        cases h
        have hversion : (r.version : ℤ) = n := by simpa using List.find?_some hr
        refine ⟨c, r, ⟨hc, hz, hworld⟩, ?_, rfl⟩
        rw [hversion]
        exact hr

end Proposed

/-! ## Execution in the unchanged world -/

section Executed

variable {env : Env} {w w' : World} {raw : Raw} {z : ZoneValues} {c : Cleaned env}
  {node : GeoNode} {kind : ChangeKind} {restoredFrom : Option ℕ}

/-- An accepted change is executed when its code has no blanks around it and its texts fit. -/
lemma Changes.execute_eq_ok (h : Changes env w raw z c) :
    executeValues env (fun _ => w) w kind z.code (currentVersion w z.code) c.values restoredFrom =
        .ok w' ↔
      (strip z.code = z.code ∧ c.values.fits = true) ∧
        w' = (ensureBaseline w z).record c.values kind restoredFrom := by
  obtain ⟨_, _, _, haccepts⟩ := cleanValues_eq_ok.mp h.cleaned
  have hstored := haccepts.stored
  obtain ⟨parent, hparent⟩ := parentZone_of_checkWorld h.world
  have hlocked : locked w z.code (currentVersion w z.code) = .ok z := by
    rw [locked, h.present]
    exact if_neg (not_not_intro rfl)
  constructor
  · intro hok
    obtain ⟨z', hz', hok⟩ := Fallible.bind_eq_ok.mp hok
    rw [hlocked] at hz'
    cases hz'
    obtain ⟨c', hc', hok⟩ := Fallible.bind_eq_ok.mp hok
    rw [refuse_eq_ok] at hc'
    obtain ⟨_, _, _, h'⟩ := cleanValues_eq_ok.mp hc'
    obtain ⟨hcode, hnode, -⟩ := head_of_change haccepts
    have hstrip := (checkKeys_raw hcode hnode).mp h'.keys
    obtain ⟨notes, hagain⟩ := (cleanValues_approved h.cleaned).mpr hstrip
    rw [hagain] at hc'
    cases hc'
    obtain ⟨⟨⟩, -, hok⟩ := Fallible.bind_eq_ok.mp hok
    obtain ⟨row, hrow, hok⟩ := Fallible.bind_eq_ok.mp hok
    obtain ⟨hfits, rfl⟩ := (hstored.apply_eq_ok hparent).mp hrow
    exact ⟨⟨hstrip, hfits⟩, (Except.ok.inj hok).symm⟩
  · rintro ⟨⟨hstrip, hfits⟩, rfl⟩
    obtain ⟨notes, hagain⟩ := (cleanValues_approved h.cleaned).mpr hstrip
    refine Fallible.bind_eq_ok.mpr ⟨z, hlocked, Fallible.bind_eq_ok.mpr
      ⟨⟨c.values, c.geometry, notes⟩, refuse_eq_ok.mpr hagain, ?_⟩⟩
    · refine Fallible.bind_eq_ok.mpr ⟨(), refuse_eq_ok.mpr h.world, ?_⟩
      exact Fallible.bind_eq_ok.mpr ⟨_, (hstored.apply_eq_ok hparent).mpr ⟨hfits, rfl⟩, rfl⟩

/-- An accepted new zone is created when it keeps the market of its country and its texts fit. -/
lemma Creates.execute_eq_ok (h : Creates env w raw c node) :
    executeCreate env (fun _ => w) w c.values = .ok w' ↔
      (AtDefaults c.values ∧ c.values.fits = true) ∧ w' = w.record c.values .create none := by
  obtain ⟨_, _, _, haccepts⟩ := cleanValues_eq_ok.mp h.cleaned
  have hstored := haccepts.stored
  obtain ⟨parent, hparent⟩ := parentZone_of_checkWorld h.world
  have hcode : ({ c.values with geoNode := some node.code } : ZoneValues) = c.values := by
    obtain ⟨g, hg⟩ := geoNode_of_created h.cleaned
    have hnode := h.node_eq
    rw [hg] at hnode
    rw [Table.pk_of_get? hnode, ← hg]
  have hnode : (c.values.geoNode.bind w.nodes.get?).filter (fun n => n.kind = .city) =
      some node := by
    rw [h.node_eq, Option.filter_some, if_pos (by simpa using h.city)]
  have habsent : ¬ (w.zones.get? c.values.code).isSome = true := by
    rw [h.absent]
    exact Bool.false_ne_true
  rw [executeCreate, hnode]
  dsimp only
  rw [if_neg habsent]
  constructor
  · intro hok
    obtain ⟨c', hc', hok⟩ := Fallible.bind_eq_ok.mp hok
    rw [refuse_eq_ok] at hc'
    have hdefaults := atDefaults_of_again h.cleaned hc'
    obtain ⟨notes, hagain⟩ := (cleanValues_created h.cleaned).mpr hdefaults
    rw [hagain] at hc'
    cases hc'
    obtain ⟨⟨⟩, -, hok⟩ := Fallible.bind_eq_ok.mp hok
    obtain ⟨row, hrow, hok⟩ := Fallible.bind_eq_ok.mp hok
    rw [hcode] at hrow
    obtain ⟨hfits, rfl⟩ := (hstored.apply_eq_ok hparent).mp hrow
    refine ⟨⟨hdefaults, hfits⟩, ?_⟩
    split at hok
    · cases hok
    · rename_i zones hzones
      rw [(Table.insert?_eq_some.mp hzones).2] at hok
      exact (Except.ok.inj hok).symm
  · rintro ⟨⟨hdefaults, hfits⟩, rfl⟩
    obtain ⟨notes, hagain⟩ := (cleanValues_created h.cleaned).mpr hdefaults
    refine Fallible.bind_eq_ok.mpr ⟨_, refuse_eq_ok.mpr hagain, ?_⟩
    refine Fallible.bind_eq_ok.mpr ⟨(), refuse_eq_ok.mpr h.world, ?_⟩
    refine Fallible.bind_eq_ok.mpr ⟨c.values, ?_, ?_⟩
    · rw [hcode]
      exact (hstored.apply_eq_ok hparent).mpr ⟨hfits, rfl⟩
    · rw [Table.insert?_eq_some.mpr ⟨h.absent, rfl⟩]
      rfl

end Executed

end SaaradhiGo.Zones
