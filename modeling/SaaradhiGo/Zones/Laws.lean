/-
The laws of the zones, and what a change must meet to keep them.

A change writes one row and appends its revision.  The laws relate that row to its neighbours, its
parent, its children and its geo node, so a row that is admissible beside the others keeps
every law.
-/
import SaaradhiGo.Zones.RoundTrip
import SaaradhiGo.Lib.Acyclic

namespace SaaradhiGo.Zones

open Python Relation

def ZoneValues.isActiveCity (v : ZoneValues) : Prop := v.isActive = true ∧ v.zoneType = "city"

def Above (w : World) (a b : String) : Prop := ∃ z ∈ w.zones.rows, z.code = a ∧ z.parent = some b

/-- Two zones have no ground in common. -/
def Apart (env : Env) (a b : ZoneValues) : Prop :=
  ∀ g g', polygonForZone env.sh a.polygon = some g → polygonForZone env.sh b.polygon = some g' →
    env.sh.overlaps g g' = false

def Inside (env : Env) (outer inner : ZoneValues) : Prop :=
  ∃ g g', polygonForZone env.sh outer.polygon = some g ∧
    polygonForZone env.sh inner.polygon = some g' ∧ env.sh.contains g g' = true

/-- The revisions are numbered from one, and the last one is the zone. -/
structure Numbered (rs : List Revision) (z : ZoneValues) : Prop where
  versions : rs.map (·.version) = List.range' 1 rs.length
  last : ∀ r ∈ rs.getLast?, r.snapshot = z

/-- The laws. -/
structure Laws (env : Env) (w : World) : Prop where
  cities : ∀ a ∈ w.zones.rows, ∀ b ∈ w.zones.rows, a.code ≠ b.code → a.isActiveCity →
    b.isActiveCity → a.country = b.country → Apart env a b
  inside : ∀ c ∈ w.zones.rows, ∀ p ∈ w.zones.rows, c.parent = some p.code → c.zoneType ≠ "city" →
    Inside env p c
  acyclic : Acyclic (Above w)
  countries : ∀ z ∈ w.zones.rows, ∀ n ∈ w.nodes.rows, z.geoNode = some n.code →
    n.country = some z.country
  live : ∀ n ∈ w.nodes.rows, n.isLiveCity = true →
    ∃ z ∈ w.zones.rows, z.geoNode = some n.code ∧ z.isActive = true
  revisions : ∀ z ∈ w.zones.rows, Numbered (revisionsOf w z.code) z

/-- The laws, over rows whose references exist and whose polygons are GeoJSON. -/
structure Valid (env : Env) (w : World) : Prop extends Laws env w where
  parents : ∀ z ∈ w.zones.rows, ∀ p, z.parent = some p → (w.zones.get? p).isSome
  revisionZones : ∀ r ∈ w.revisions, (w.zones.get? r.zone).isSome
  shapes : ∀ z ∈ w.zones.rows, ∀ g, polygonForZone env.sh z.polygon = some g →
    g = env.sh.shape z.polygon

/-- The row may be written beside the others. -/
structure Admissible (env : Env) (w : World) (row : ZoneValues) : Prop where
  cities : row.isActiveCity → ∀ o ∈ w.zones.rows, o.code ≠ row.code → o.isActiveCity →
    o.country = row.country → Apart env row o
  inside : row.zoneType ≠ "city" → ∀ p ∈ w.zones.rows, row.parent = some p.code →
    Inside env p row
  children : ∀ c ∈ w.zones.rows, c.parent = some row.code → c.zoneType ≠ "city" →
    Inside env row c
  ancestors : ∀ p, row.parent = some p → ¬ ReflTransGen (Above w) p row.code
  parent : ∀ p, row.parent = some p → (w.zones.get? p).isSome
  country : ∀ n ∈ w.nodes.rows, row.geoNode = some n.code → n.country = some row.country
  geoNode : ∀ z, w.zones.get? row.code = some z → z.geoNode = row.geoNode
  live : row.isActive = true ∨ ∀ n ∈ w.nodes.rows, n.isLiveCity = true →
    row.geoNode = some n.code →
      ∃ o ∈ w.zones.rows, o.code ≠ row.code ∧ o.geoNode = some n.code ∧ o.isActive = true
  shape : ∀ g, polygonForZone env.sh row.polygon = some g → g = env.sh.shape row.polygon

section Record

variable {env : Env} {w : World} {row z : ZoneValues} {kind : ChangeKind}
  {restoredFrom : Option ℕ} {code : String}

/-! ## Revisions -/

lemma foldr_max_range' (n k : ℕ) : (List.range' (k + 1) n).foldr max 0 = if n = 0 then 0 else k + n := by
  induction n generalizing k with
  | zero => rfl
  | succ n ih =>
      rw [List.range'_succ, List.foldr_cons, ih, if_neg (Nat.succ_ne_zero n)]
      split
      · omega
      · omega

lemma Numbered.currentVersion (h : Numbered (revisionsOf w code) z) :
    currentVersion w code = (revisionsOf w code).length := by
  rw [Zones.currentVersion, h.versions, foldr_max_range']
  split
  · omega
  · omega

lemma revisionsOf_writeRevision_self (w : World) (row : ZoneValues) (kind : ChangeKind)
    (restoredFrom : Option ℕ) : revisionsOf (writeRevision w row kind restoredFrom) row.code =
      revisionsOf w row.code ++
        [⟨row.code, Zones.currentVersion w row.code + 1, kind, row, restoredFrom⟩] := by
  rw [revisionsOf, writeRevision, List.filter_append, List.filter_cons_of_pos (by simp)]
  rfl

lemma revisionsOf_writeRevision_of_ne (h : code ≠ row.code) :
    revisionsOf (writeRevision w row kind restoredFrom) code = revisionsOf w code := by
  rw [revisionsOf, writeRevision, List.filter_append,
    List.filter_cons_of_neg (by simpa using h.symm), List.filter_nil, List.append_nil]
  rfl

lemma revisionsOf_ensureBaseline_of_ne (h : code ≠ z.code) :
    revisionsOf (ensureBaseline w z) code = revisionsOf w code := by
  rw [ensureBaseline]
  split
  · rw [revisionsOf, List.filter_append, List.filter_cons_of_neg (by simpa using h.symm),
      List.filter_nil, List.append_nil]
    rfl
  · rfl

lemma numbered_ensureBaseline (h : Numbered (revisionsOf w z.code) z) :
    Numbered (revisionsOf (ensureBaseline w z) z.code) z := by
  rw [ensureBaseline]
  split
  · rename_i hempty
    have hrows : revisionsOf { w with revisions := w.revisions ++
        [⟨z.code, 1, .backfill, z, none⟩] } z.code = [⟨z.code, 1, .backfill, z, none⟩] := by
      rw [revisionsOf, List.filter_append, ← revisionsOf, hempty,
        List.filter_cons_of_pos (by simp)]
      rfl
    rw [hrows]
    refine ⟨rfl, fun r hr => ?_⟩
    cases hr
    rfl
  · exact h

lemma numbered_writeRevision (h : Numbered (revisionsOf w row.code) z) :
    Numbered (revisionsOf (writeRevision w row kind restoredFrom) row.code) row := by
  rw [revisionsOf_writeRevision_self, h.currentVersion]
  refine ⟨?_, fun r hr => ?_⟩
  · rw [List.map_append, h.versions, List.length_append, List.length_singleton,
      List.range'_concat, Nat.one_mul, Nat.add_comm 1]
    rfl
  · rw [List.getLast?_concat] at hr
    cases hr
    rfl

lemma recorded_zones (w : World) (code : String) : (recorded w code).zones = w.zones := by
  rw [recorded]
  split
  · rfl
  · exact ensureBaseline_zones _

lemma recorded_nodes (w : World) (code : String) : (recorded w code).nodes = w.nodes := by
  rw [recorded]
  split
  · rfl
  · rw [ensureBaseline]
    split
    · rfl
    · rfl

lemma mem_recorded {r : Revision} (h : r ∈ (recorded w code).revisions) :
    r ∈ w.revisions ∨ ∃ z, w.zones.get? code = some z ∧ r.zone = z.code := by
  rw [recorded] at h
  split at h
  · exact .inl h
  · rename_i z hz
    rw [ensureBaseline] at h
    split at h
    · rcases List.mem_append.mp h with hold | hnew
      · exact .inl hold
      · rw [List.mem_singleton] at hnew
        exact .inr ⟨z, hz, by rw [hnew]⟩
    · exact .inl h

def changed (w : World) (row : ZoneValues) (kind : ChangeKind) (restoredFrom : Option ℕ) : World :=
  (recorded w row.code).record row kind restoredFrom

lemma changed_zones : (changed w row kind restoredFrom).zones = w.zones.put row := by
  show (recorded w row.code).zones.put row = _
  rw [recorded_zones]

lemma changed_nodes : (changed w row kind restoredFrom).nodes = w.nodes := recorded_nodes w row.code

lemma mem_changed {x : ZoneValues} : x ∈ (changed w row kind restoredFrom).zones.rows ↔
    x = row ∨ (x ∈ w.zones.rows ∧ x.code ≠ row.code) := by
  rw [changed_zones, Table.mem_put]

lemma get?_changed_isSome (h : (w.zones.get? code).isSome) :
    ((changed w row kind restoredFrom).zones.get? code).isSome := by
  rw [changed_zones, Table.get?_put]
  split
  · rfl
  · exact h

lemma numbered_changed (h : Valid env w) {x : ZoneValues}
    (hx : x ∈ (changed w row kind restoredFrom).zones.rows) :
    Numbered (revisionsOf (changed w row kind restoredFrom) x.code) x := by
  have hrevisions : ∀ code, revisionsOf (changed w row kind restoredFrom) code =
      revisionsOf (writeRevision (recorded w row.code) row kind restoredFrom) code := fun _ => rfl
  rw [hrevisions]
  rcases mem_changed.mp hx with rfl | ⟨hold, hne⟩
  · cases hget : w.zones.get? x.code with
    | none =>
        -- a zone that was not there has no revisions
        have hempty : revisionsOf w x.code = [] := by
          rw [revisionsOf, List.filter_eq_nil_iff]
          intro r hr hzone
          have hsome := h.revisionZones r hr
          rw [of_decide_eq_true hzone, hget] at hsome
          cases hsome
        have hrecorded : recorded w x.code = w := by
          rw [recorded, hget]
        rw [hrecorded]
        refine numbered_writeRevision (z := x) ?_
        rw [hempty]
        refine ⟨rfl, fun r hr => ?_⟩
        cases hr
    | some z =>
        have hcode := Table.pk_of_get? hget
        have hrecorded : recorded w x.code = ensureBaseline w z := by
          rw [recorded, hget]
        rw [hrecorded]
        refine numbered_writeRevision (z := z) ?_
        rw [← hcode]
        exact numbered_ensureBaseline (h.revisions z (Table.mem_of_get? hget).1)
  · rw [revisionsOf_writeRevision_of_ne hne]
    have hsame : revisionsOf (recorded w row.code) x.code = revisionsOf w x.code := by
      rw [recorded]
      split
      · rfl
      · rename_i z hz
        rw [← Table.pk_of_get? hz] at hne
        exact revisionsOf_ensureBaseline_of_ne hne
    rw [hsame]
    exact h.revisions x hold

/-! ## The laws after a change -/

lemma Apart.symm {a b : ZoneValues} (h : Apart env a b) : Apart env b a := by
  intro g g' hg hg'
  rw [env.sh.overlaps_comm]
  exact h g' g hg' hg

/-- A row that is admissible beside the others keeps the laws. -/
theorem valid_changed (h : Valid env w) (ha : Admissible env w row) :
    Valid env (changed w row kind restoredFrom) := by
  refine ⟨⟨?_, ?_, ?_, ?_, ?_, fun x hx => numbered_changed h hx⟩, ?_, ?_, ?_⟩
  · intro a hamem b hbmem hne hacity hbcity hcountry
    -- two cities: the changed row may be either of them
    rcases mem_changed.mp hamem with rfl | ⟨haold, hane⟩
    · rcases mem_changed.mp hbmem with rfl | ⟨hbold, hbne⟩
      · exact absurd rfl hne
      · exact ha.cities hacity b hbold hbne hbcity hcountry.symm
    · rcases mem_changed.mp hbmem with rfl | ⟨hbold, -⟩
      · exact (ha.cities hbcity a haold hane hacity hcountry).symm
      · exact h.cities a haold b hbold hne hacity hbcity hcountry
  · intro c hcmem p hpmem hparent htype
    rcases mem_changed.mp hcmem with rfl | ⟨hcold, -⟩
    · rcases mem_changed.mp hpmem with rfl | ⟨hpold, -⟩
      · exact absurd .refl (ha.ancestors _ hparent)
      · exact ha.inside htype p hpold hparent
    · rcases mem_changed.mp hpmem with rfl | ⟨hpold, -⟩
      · exact ha.children c hcold hparent htype
      · exact h.inside c hcold p hpold hparent htype
  · -- only the edge out of the changed row is new
    refine h.acyclic.of_new (x := row.code) ?_ ?_
    · rintro a b ⟨z, hz, rfl, hparent⟩ hne
      rcases mem_changed.mp hz with rfl | ⟨hold, -⟩
      · exact absurd rfl hne
      · exact ⟨z, hold, rfl, hparent⟩
    · rintro p ⟨z, hz, hcode, hparent⟩
      rcases mem_changed.mp hz with rfl | ⟨-, hne⟩
      · exact ha.ancestors p hparent
      · exact absurd hcode hne
  · intro z hz n hn hnode
    rw [changed_nodes] at hn
    rcases mem_changed.mp hz with rfl | ⟨hold, -⟩
    · exact ha.country n hn hnode
    · exact h.countries z hold n hn hnode
  · intro n hn hlive
    rw [changed_nodes] at hn
    obtain ⟨z, hz, hnode, hactive⟩ := h.live n hn hlive
    by_cases hcode : z.code = row.code
    · -- the zone that kept the city alive is the one that changes
      have hget := Table.mem_iff_get?.mp hz
      rw [hcode] at hget
      rw [ha.geoNode z hget] at hnode
      rcases ha.live with hrow | hothers
      · exact ⟨row, mem_changed.mpr (.inl rfl), hnode, hrow⟩
      · obtain ⟨o, ho, hne, honode, hoactive⟩ := hothers n hn hlive hnode
        exact ⟨o, mem_changed.mpr (.inr ⟨ho, hne⟩), honode, hoactive⟩
    · exact ⟨z, mem_changed.mpr (.inr ⟨hz, hcode⟩), hnode, hactive⟩
  · intro z hz p hparent
    rcases mem_changed.mp hz with rfl | ⟨hold, -⟩
    · exact get?_changed_isSome (ha.parent p hparent)
    · exact get?_changed_isSome (h.parents z hold p hparent)
  · intro r hr
    rcases List.mem_append.mp hr with hold | hnew
    · -- a revision of before, a baseline, or the one written now
      rcases mem_recorded hold with hr | ⟨z, hz, hzone⟩
      · exact get?_changed_isSome (h.revisionZones r hr)
      · refine get?_changed_isSome ?_
        rw [hzone, Table.pk_of_get? hz, hz]
        rfl
    · rw [List.mem_singleton] at hnew
      rw [hnew, changed_zones, Table.get?_put_self]
      rfl
  · intro z hz g hg
    rcases mem_changed.mp hz with rfl | ⟨hold, -⟩
    · exact ha.shape g hg
    · exact h.shapes z hold g hg

end Record

/-! ## Reads that are current -/

section Reads

variable (view : View) (w : World)

def neighbours (w : World) (v : ZoneValues) (zone : Option String) : List ZoneValues :=
  w.zones.rows.filter fun o => o.isActive && o.zoneType = "city" && o.country = v.country &&
    some o.code ≠ zone

def NeighboursRead (v : ZoneValues) (zone : Option String) : Prop :=
  v.isActiveCity → ∀ o ∈ neighbours w v zone,
    ∃ o' ∈ neighbours (view .others) v zone, o'.polygon = o.polygon

/-- What `check_world` has read of the zone's parent, of the links above, of its neighbours and of
its children is as it stands in the world. -/
structure WorldRead (v : ZoneValues) (zone : Option String) : Prop where
  parent : ∀ p, v.parent = some p →
    ((view .parent).zones.get? p).map (fun q => (q.polygon, q.parent)) =
      (w.zones.get? p).map fun q => (q.polygon, q.parent)
  ancestors : ∀ p a, v.parent = some p → ReflTransGen (Above w) p a →
    ((view .ancestors).zones.get? a).map (·.parent) = (w.zones.get? a).map (·.parent)
  neighbours : NeighboursRead view w v zone
  children : ∀ c ∈ w.zones.rows, ∀ code ∈ zone, c.parent = some code →
    ∃ c' ∈ (view .children).zones.rows, c'.parent = some code ∧ c'.polygon = c.polygon ∧
      c'.zoneType = c.zoneType

/-- Every other active zone of the node that `check_can_deactivate` has read is still one. -/
def SiblingsRead (zone : ZoneValues) : Prop :=
  ∀ o ∈ (view .siblings).zones.rows, o.geoNode = zone.geoNode → o.isActive = true →
    o.code ≠ zone.code →
      ∃ o' ∈ w.zones.rows, o'.code = o.code ∧ o'.geoNode = o.geoNode ∧ o'.isActive = true

end Reads

/-! ## What the checks give -/

section Checks

variable {env : Env} {view : View} {w : World} {v z : ZoneValues} {geom : env.sh.Geometry}
  {zone : Option String} {parent : Option ZoneValues} {code p : String}

/-- What a zone that passes the checks has in the world it is written to. -/
structure Passes (env : Env) (w : World) (v : ZoneValues) (geom : env.sh.Geometry)
    (zone : Option String) : Prop where
  present : ∀ p, v.parent = some p → p ≠ "" → (w.zones.get? p).isSome
  inside : ∀ q ∈ w.zones.rows, v.parent = some q.code → q.code ≠ "" → v.zoneType ≠ "city" →
    ∃ outer, polygonForZone env.sh q.polygon = some outer ∧ env.sh.contains outer geom = true
  ancestors : ∀ p, ∀ code ∈ zone, v.parent = some p → p ≠ "" → ¬ ReflTransGen (Above w) p code
  apart : v.isActiveCity → ∀ o ∈ neighbours w v zone, ∀ g,
    polygonForZone env.sh o.polygon = some g → env.sh.overlaps geom g = false
  children : ∀ c ∈ w.zones.rows, ∀ code ∈ zone, c.parent = some code → c.zoneType ≠ "city" →
    ∀ g, polygonForZone env.sh c.polygon = some g → env.sh.contains geom g = true

lemma parentZone_some (h : parentZone w v = .ok parent) (hp : v.parent = some p) (hne : p ≠ "") :
    ∃ q, parent = some q ∧ w.zones.get? p = some q := by
  rw [parentZone, hp] at h
  dsimp only at h
  rw [if_neg hne] at h
  split at h
  · cases h
  · rename_i q hq
    split at h
    · cases h
    · cases h
      exact ⟨q, rfl, hq⟩

/-- The parent that was read is there, with the ground and the parent that were read. -/
lemma WorldRead.parent_read (hread : WorldRead view w v zone)
    (h : parentZone (view .parent) v = .ok parent) (hp : v.parent = some p) (hne : p ≠ "") :
    ∃ q q', parent = some q ∧ q.code = p ∧ w.zones.get? p = some q' ∧ q.polygon = q'.polygon ∧
      q.parent = q'.parent := by
  obtain ⟨q, rfl, hq⟩ := parentZone_some h hp hne
  have hsame := hread.parent p hp
  rw [hq, Option.map_some] at hsame
  obtain ⟨q', hq', heq⟩ := Option.map_eq_some_iff.mp hsame.symm
  injection heq with hpolygon hparent
  exact ⟨q, q', rfl, Table.pk_of_get? hq, hq', hpolygon.symm, hparent.symm⟩

/-- A climb that goes through meets no zone that was seen, when it has read the links as they
stand. -/
lemma not_seen_of_climb (h : Valid env w) {r : World} {fuel : ℕ} {seen : List String}
    {q q' : ZoneValues} (hq' : w.zones.get? q.code = some q') (hparent : q.parent = q'.parent)
    (hlinks : ∀ a, ReflTransGen (Above w) q.code a →
      (r.zones.get? a).map (·.parent) = (w.zones.get? a).map (·.parent))
    (hclimb : climb r fuel seen (some q) = true)
    (hpath : ReflTransGen (Above w) q.code code) : code ∉ seen := by
  induction fuel generalizing seen q q' with
  | zero => cases hclimb
  | succ fuel ih =>
      rw [climb] at hclimb
      split at hclimb
      · cases hclimb
      · rename_i hseen
        rcases hpath.cases_head with rfl | ⟨b, hstep, hrest⟩
        · exact hseen
        · have hlink := hlinks b (.single hstep)
          obtain ⟨x, hx, hcode, hb⟩ := hstep
          have hget := Table.mem_iff_get?.mp hx
          rw [hcode, hq'] at hget
          cases hget
          obtain ⟨y, hy⟩ := Option.isSome_iff_exists.mp (h.parents q' hx b hb)
          rw [hy, Option.map_some] at hlink
          obtain ⟨y', hy', hsame⟩ := Option.map_eq_some_iff.mp hlink
          have hnext : r.parentOf q = some y' := by
            rw [World.parentOf, hparent, hb]
            exact hy'
          have hycode := Table.pk_of_get? hy'
          subst hycode
          rw [hnext] at hclimb
          have hunseen := ih hy hsame
            (fun a ha => hlinks a (.head ⟨q', hx, hcode, hb⟩ ha)) hclimb hrest
          exact fun hmem => hunseen (List.mem_cons_of_mem _ hmem)

lemma checkOverlap_of_checkWorld (hcheck : checkWorld env view v geom zone = .ok ()) :
    checkOverlap env (view .others) v geom zone = .ok () := by
  obtain ⟨parent, -, hcheck⟩ := Fallible.bind_eq_ok.mp hcheck
  obtain ⟨⟨⟩, -, hcheck⟩ := Fallible.bind_eq_ok.mp hcheck
  obtain ⟨⟨⟩, -, hcheck⟩ := Fallible.bind_eq_ok.mp hcheck
  obtain ⟨⟨⟩, hoverlap, -⟩ := Fallible.bind_eq_ok.mp hcheck
  exact hoverlap

lemma apart_of_checkOverlap (hread : NeighboursRead view w v zone)
    (hcheck : checkOverlap env (view .others) v geom zone = .ok ()) (hcity : v.isActiveCity) :
    ∀ o ∈ neighbours w v zone, ∀ g, polygonForZone env.sh o.polygon = some g →
      env.sh.overlaps geom g = false := by
  intro o ho g hg
  obtain ⟨o', ho', hpolygon⟩ := hread hcity o ho
  rw [checkOverlap, if_pos (by simp [hcity.1, hcity.2])] at hcheck
  split at hcheck
  · cases hcheck
  · rename_i hany
    rw [Bool.not_eq_true, List.any_eq_false] at hany
    have hshares := hany o' ho'
    rw [sharesGround, hpolygon, hg] at hshares
    exact Bool.eq_false_iff.mpr hshares

lemma code_mem_of_above (h : Valid env w) (hp : (w.zones.get? p).isSome)
    (hpath : ReflTransGen (Above w) p code) : (w.zones.get? code).isSome := by
  induction hpath with
  | refl => exact hp
  | tail _ hstep ih =>
      obtain ⟨x, hx, -, hparent⟩ := hstep
      exact h.parents x hx _ hparent

/-- A check that goes through on current reads gives what the laws need. -/
lemma passes_of_checkWorld (h : Valid env w) (hread : WorldRead view w v zone)
    (hcheck : checkWorld env view v geom zone = .ok ()) : Passes env w v geom zone := by
  obtain ⟨parent, hparent, hcheck⟩ := Fallible.bind_eq_ok.mp hcheck
  obtain ⟨⟨⟩, hancestors, hcheck⟩ := Fallible.bind_eq_ok.mp hcheck
  obtain ⟨⟨⟩, hinside, hcheck⟩ := Fallible.bind_eq_ok.mp hcheck
  obtain ⟨⟨⟩, hoverlap, hchildren⟩ := Fallible.bind_eq_ok.mp hcheck
  refine ⟨?_, ?_, ?_, ?_, ?_⟩
  · intro p hp hne
    obtain ⟨-, q', -, -, hq', -⟩ := hread.parent_read hparent hp hne
    rw [hq']
    rfl
  · intro q hq hp hne htype
    obtain ⟨q₀, q', rfl, -, hq', hpolygon, -⟩ := hread.parent_read hparent hp hne
    rw [Table.mem_iff_get?.mp hq] at hq'
    cases hq'
    rw [checkInside, if_neg htype, hpolygon] at hinside
    split at hinside
    · cases hinside
    · rename_i outer houter
      split at hinside
      · rename_i hcontains
        exact ⟨outer, houter, hcontains⟩
      · cases hinside
  · rintro p code ⟨⟩ hp hne
    obtain ⟨q, q', rfl, rfl, hq', -, hlink⟩ := hread.parent_read hparent hp hne
    rw [checkAncestors] at hancestors
    split at hancestors
    · rename_i hclimb
      exact fun hpath => not_seen_of_climb h hq' hlink (fun a => hread.ancestors _ a hp) hclimb
        hpath (List.mem_singleton_self _)
    · cases hancestors
  · exact apart_of_checkOverlap hread.neighbours hoverlap
  · rintro c hc code ⟨⟩ hchild htype g hg
    obtain ⟨c', hc', hparent', hpolygon, htype'⟩ := hread.children c hc code rfl hchild
    rw [checkChildren] at hchildren
    split at hchildren
    · cases hchildren
    · rename_i hany
      rw [Bool.not_eq_true, List.any_eq_false] at hany
      have houtside := hany c' (List.mem_filter.mpr ⟨hc', by simp [hparent']⟩)
      rw [liesOutside, hpolygon, hg] at houtside
      simpa [htype', htype] using houtside

end Checks

/-! ## Rows that are admissible -/

section Rows

variable {env : Env} {w : World} {v z row : ZoneValues} {geom : env.sh.Geometry}
  {zone : Option String}

/-- The row is the changed row of a zone that is there, or a new one. -/
inductive Replaces (w : World) (v : ZoneValues) : Option String → Prop where
  | change (z : ZoneValues) (hz : w.zones.get? v.code = some z) (hnode : z.geoNode = v.geoNode)
      (hactive : z.isActive = v.isActive) : Replaces w v (some v.code)
  | create (habsent : w.zones.get? v.code = none) : Replaces w v none

/-- A zone that passes the checks of the world it is written to is admissible. -/
theorem Passes.admissible (hpass : Passes env w v geom zone) (h : Valid env w)
    (hzone : Replaces w v zone) (hparent : v.parent ≠ some "")
    (hgeom : polygonForZone env.sh v.polygon = some geom) (hshape : geom = env.sh.shape v.polygon)
    (hcountry : ∀ n ∈ w.nodes.rows, v.geoNode = some n.code → n.country = some v.country) :
    Admissible env w v := by
  have hexists : ∀ p, v.parent = some p → (w.zones.get? p).isSome := by
    intro p hp
    exact hpass.present p hp fun hblank => hparent (hblank ▸ hp)
  refine ⟨?_, ?_, ?_, ?_, hexists, hcountry, ?_, ?_, ?_⟩
  · intro hcity o ho hne hocity hsame g g' hg hg'
    rw [hgeom] at hg
    cases hg
    have hother : some o.code ≠ zone := by
      cases hzone with
      | change z hz hnode hactive => simpa using hne
      | create habsent => exact Option.some_ne_none _
    refine hpass.apart hcity o (List.mem_filter.mpr ⟨ho, ?_⟩) g' hg'
    simp [hocity.1, hocity.2, hsame, hother]
  · intro htype q hq hq'
    obtain ⟨outer, houter, hcontains⟩ := hpass.inside q hq hq'
      (fun hblank => hparent (by rw [hq', hblank])) htype
    exact ⟨outer, geom, houter, hgeom, hcontains⟩
  · intro c hc hchild htype
    cases hzone with
    | change z hz hnode hactive =>
        have hzmem := (Table.mem_of_get? hz).1
        have hzcode := Table.pk_of_get? hz
        obtain ⟨-, g', -, hg', -⟩ := h.inside c hc z hzmem (by rw [hzcode, hchild]) htype
        exact ⟨geom, g', hgeom, hg', hpass.children c hc _ rfl hchild htype g' hg'⟩
    | create habsent =>
        -- no zone is the child of a code that is not there yet
        have hsome := h.parents c hc _ hchild
        rw [habsent] at hsome
        cases hsome
  · intro p hp
    -- a new code lies above no zone of the table
    have hne : p ≠ "" := fun hblank => hparent (hblank ▸ hp)
    cases hzone with
    | change z hz hnode hactive => exact hpass.ancestors p _ rfl hp hne
    | create habsent =>
        intro hpath
        have hsome := code_mem_of_above h (hexists p hp) hpath
        rw [habsent] at hsome
        cases hsome
  · intro x hx
    cases hzone with
    | change z hz hnode hactive =>
        rw [hz] at hx
        cases hx
        exact hnode
    | create habsent =>
        rw [habsent] at hx
        cases hx
  · -- the switch is another command, so an inactive zone was no city's last
    by_cases hactive : v.isActive = true
    · exact .inl hactive
    · refine .inr fun n hn hlive _ => ?_
      obtain ⟨o, ho, honode, hoactive⟩ := h.live n hn hlive
      refine ⟨o, ho, fun hcode => ?_, honode, hoactive⟩
      have hget := Table.mem_iff_get?.mp ho
      rw [hcode] at hget
      cases hzone with
      | change z hz hnode hsame =>
          rw [hz] at hget
          cases hget
          exact hactive (hsame ▸ hoactive)
      | create habsent =>
          rw [habsent] at hget
          cases hget
  · intro g hg
    rw [hgeom] at hg
    cases hg
    exact hshape

/-- The row is the zone but for its switch and what saving fills in. -/
structure Switched (z row : ZoneValues) : Prop where
  code : row.code = z.code
  parent : row.parent = z.parent
  zoneType : row.zoneType = z.zoneType
  country : row.country = z.country
  polygon : row.polygon = z.polygon
  geoNode : row.geoNode = z.geoNode

lemma switched_of_saved {py : Reader} {b : Bool}
    (h : saved py { z with isActive := b } = .ok row) : Switched z row ∧ row.isActive = b := by
  rw [saved] at h
  split at h
  · cases h
  · split at h
    · cases h
    · cases h
      exact ⟨⟨rfl, rfl, rfl, rfl, rfl, rfl⟩, rfl⟩

/-- A zone that is switched is admissible when it has no ground in common with another city, and
its own city stays alive. -/
lemma Switched.admissible (hs : Switched z row) (h : Valid env w)
    (hz : w.zones.get? z.code = some z)
    (hcities : row.isActiveCity → ∀ o ∈ w.zones.rows, o.code ≠ row.code → o.isActiveCity →
      o.country = row.country → Apart env row o)
    (hlive : row.isActive = true ∨ ∀ n ∈ w.nodes.rows, n.isLiveCity = true →
      row.geoNode = some n.code →
        ∃ o ∈ w.zones.rows, o.code ≠ row.code ∧ o.geoNode = some n.code ∧ o.isActive = true) :
    Admissible env w row := by
  have hmem := (Table.mem_of_get? hz).1
  refine ⟨hcities, ?_, ?_, ?_, ?_, ?_, ?_, hlive, ?_⟩
  · intro htype p hp hparent
    rw [hs.zoneType] at htype
    rw [hs.parent] at hparent
    obtain ⟨g, g', hg, hg', hcontains⟩ := h.inside z hmem p hp hparent htype
    exact ⟨g, g', hg, by rwa [hs.polygon], hcontains⟩
  · intro c hc hparent htype
    rw [hs.code] at hparent
    obtain ⟨g, g', hg, hg', hcontains⟩ := h.inside c hc z hmem hparent htype
    exact ⟨g, g', by rwa [hs.polygon], hg', hcontains⟩
  · intro p hp hpath
    rw [hs.parent] at hp
    rw [hs.code] at hpath
    exact h.acyclic z.code (TransGen.head' ⟨z, hmem, rfl, hp⟩ hpath)
  · intro p hp
    exact h.parents z hmem p (hs.parent ▸ hp)
  · intro n hn hnode
    rw [hs.geoNode] at hnode
    rw [hs.country]
    exact h.countries z hmem n hn hnode
  · intro x hx
    rw [hs.code, hz] at hx
    cases hx
    exact hs.geoNode.symm
  · intro g hg
    rw [hs.polygon] at hg ⊢
    exact h.shapes z hmem g hg

end Rows

end SaaradhiGo.Zones
