/-
Approved zone changes, in any order and side by side.

Executions lock the zone they change and read the others without a lock, so each query of a check
may see the world as it was some changes ago.  The laws are kept in every run in which the rows
that the checks of an execution have read stand as they were read when it commits, and no zone is
moved away from the country of its geo node.
-/
import SaaradhiGo.Zones.Laws
import SaaradhiGo.Lib.Transition

namespace SaaradhiGo.Zones

open Python

/-- The worlds so far and the requests that were accepted. -/
structure Office where
  current : World
  past : List World
  requests : List Payload

def Office.world (o : Office) (age : ℕ) : World := (o.current :: o.past).getD age o.current

def Office.become (o : Office) (w : World) : Office :=
  { o with current := w, past := o.current :: o.past }

/-- What happens in the office. -/
inductive Act where
  | propose (actor : Actor) (reason : String) (proposal : Proposal)
  | execute (request : ℕ) (age : Reading → ℕ)
  | traffic (trips : List Trip)

section Step

variable (env : Env)

/-- One step: an execution that stops changes nothing. -/
def step (o : Office) : Act → Office
  | .propose actor reason proposal =>
      match propose env o.current actor reason proposal with
      | .ok p => { o with requests := o.requests ++ [p] }
      | .error _ => o
  | .execute request age =>
      match o.requests[request]? with
      | none => o
      | some p =>
          match execute env (fun r => o.world (age r)) o.current p with
          | .ok w => o.become w
          | .error _ => o
  | .traffic trips => o.become { o.current with trips }

/-- The zones that the checks of an execution have read stand as they were read in the world it
commits to. -/
def Current (view : View) (w : World) : Payload → Prop
  | .create v => WorldRead view w v none
  | .update zone _ v => ∀ z, w.zones.get? zone = some z →
      WorldRead view w { v with isActive := z.isActive } (some zone)
  | .restore zone _ _ v => ∀ z, w.zones.get? zone = some z →
      WorldRead view w { v with isActive := z.isActive } (some zone)
  | .deactivate zone _ => ∀ z, w.zones.get? zone = some z → SiblingsRead view w z
  | .reactivate zone _ => ∀ z, w.zones.get? zone = some z →
      NeighboursRead view w { z with isActive := true } (some zone)

/-- A zone that is changed keeps the country of its geo node. -/
def KeepsCountry (w : World) : Payload → Prop
  | .update zone _ v => ∀ z, w.zones.get? zone = some z → ∀ n ∈ w.nodes.rows,
      z.geoNode = some n.code → n.country = some v.country
  | .restore zone _ _ v => ∀ z, w.zones.get? zone = some z → ∀ n ∈ w.nodes.rows,
      z.geoNode = some n.code → n.country = some v.country
  | _ => True

/-- The condition of a step. -/
def Timely (o : Office) : Act → Prop
  | .execute request age => ∀ p, o.requests[request]? = some p →
      Current (fun r => o.world (age r)) o.current p ∧ KeepsCountry o.current p
  | _ => True

end Step

section Runs

variable {env : Env} {w w' : World} {o : Office} {view : View} {p : Payload} {v z : ZoneValues}

/-- What is known of a request from the checks of its proposal. -/
inductive Sent (env : Env) (nodes : Table GeoNode.code) : Payload → Prop where
  | create (w : World) (raw : Raw) (c : Cleaned env) (node : GeoNode) (hnodes : w.nodes = nodes)
      (hcreates : Creates env w raw c node) : Sent env nodes (.create c.values)
  | update (zone : String) (base : ℕ) (raw : Raw) (z : ZoneValues) (c : Cleaned env)
      (hcleaned : cleanValues env raw (some z) = .ok c) : Sent env nodes (.update zone base c.values)
  | restore (zone : String) (base version : ℕ) (raw : Raw) (z : ZoneValues) (c : Cleaned env)
      (hcleaned : cleanValues env raw (some z) = .ok c) :
      Sent env nodes (.restore zone base version c.values)
  | deactivate (zone : String) (base : ℕ) : Sent env nodes (.deactivate zone base)
  | reactivate (zone : String) (base : ℕ) : Sent env nodes (.reactivate zone base)

lemma sent_of_propose {actor : Actor} {reason : String} {q : Proposal}
    (h : propose env w actor reason q = .ok p) : Sent env w.nodes p := by
  cases q with
  | create raw =>
      obtain ⟨c, node, hcreates, rfl⟩ := creates_of_propose h
      exact .create w raw c node rfl hcreates
  | update code changes =>
      obtain ⟨z, hz, hproposed⟩ := onZone_eq_ok.mp h
      have hcode := Table.pk_of_get? hz
      subst hcode
      obtain ⟨c, hchanges, rfl⟩ := changes_of_update hz hproposed
      exact .update z.code _ _ z c hchanges.cleaned
  | restore code version =>
      obtain ⟨z, hz, hproposed⟩ := onZone_eq_ok.mp h
      have hcode := Table.pk_of_get? hz
      subst hcode
      obtain ⟨c, r, hchanges, -, rfl⟩ := changes_of_restore hz hproposed
      exact .restore z.code _ _ _ z c hchanges.cleaned
  | deactivate code =>
      obtain ⟨z, -, hproposed⟩ := onZone_eq_ok.mp h
      obtain ⟨⟨⟩, -, hproposed⟩ := Fallible.bind_eq_ok.mp hproposed
      obtain ⟨⟨⟩, -, hproposed⟩ := Fallible.bind_eq_ok.mp hproposed
      split at hproposed
      · cases hproposed
      · obtain ⟨⟨⟩, -, hproposed⟩ := Fallible.bind_eq_ok.mp hproposed
        cases hproposed
        exact .deactivate _ _
  | reactivate code =>
      obtain ⟨z, -, hproposed⟩ := onZone_eq_ok.mp h
      obtain ⟨⟨⟩, -, hproposed⟩ := Fallible.bind_eq_ok.mp hproposed
      obtain ⟨⟨⟩, -, hproposed⟩ := Fallible.bind_eq_ok.mp hproposed
      split at hproposed
      · cases hproposed
      · split at hproposed
        · cases hproposed
        · obtain ⟨⟨⟩, -, hproposed⟩ := Fallible.bind_eq_ok.mp hproposed
          cases hproposed
          exact .reactivate _ _

lemma locked_eq_ok {code : String} {base : ℕ} :
    locked w code base = .ok z ↔ w.zones.get? code = some z ∧ currentVersion w code = base := by
  rw [locked]
  cases w.zones.get? code with
  | none =>
      constructor
      · intro h
        cases h
      · intro h
        cases h.1
  | some x =>
      dsimp only
      by_cases hbase : currentVersion w code = base
      · rw [if_neg (not_not_intro hbase)]
        constructor
        · intro h
          exact ⟨congrArg some (Except.ok.inj h), hbase⟩
        · intro h
          exact congrArg Except.ok (Option.some.inj h.1)
      · rw [if_pos hbase]
        constructor
        · intro h
          cases h
        · intro h
          exact absurd h.2 hbase

/-- The row that `_apply` writes is what was cleaned. -/
lemma row_of_apply (hstored : Stored env.py v) {row : ZoneValues}
    (h : apply env view v = .ok row) : row = v := by
  obtain ⟨parent, hparent, -⟩ := Fallible.bind_eq_ok.mp h
  exact ((hstored.apply_eq_ok (raise_eq_ok.mp hparent)).mp h).2

lemma recorded_of_code {row : ZoneValues} (hz : w.zones.get? z.code = some z)
    (hcode : row.code = z.code) {kind : ChangeKind} {restoredFrom : Option ℕ} :
    (ensureBaseline w z).record row kind restoredFrom = changed w row kind restoredFrom := by
  rw [changed, hcode, recorded_of_get? hz]

/-- The country, the type and the parent of a payload are those that are written. -/
lemma values_again {raw : Raw} {base base' : Option ZoneValues} {c c' : Cleaned env}
    {o : Option Json} (h : cleanValues env raw base = .ok c)
    (h' : cleanValues env (c.values.raw o) base' = .ok c') :
    c'.values.country = c.values.country ∧ c'.values.zoneType = c.values.zoneType ∧
      c'.values.parent = c.values.parent := by
  obtain ⟨head, country, _, h⟩ := cleanValues_eq_ok.mp h
  obtain ⟨head', country', _, h'⟩ := cleanValues_eq_ok.mp h'
  have hcountry := h'.country_eq
  have htype := h'.zoneType
  have hparent := h'.parent
  rw [over_raw] at hcountry htype hparent
  refine ⟨?_, ?_, ?_⟩
  · rw [ZoneValues.raw, h.countryValue, cleanCountry_again h.country_eq] at hcountry
    rw [h'.countryValue, h.countryValue, Except.ok.inj hcountry]
  · exact Except.ok.inj (htype.symm.trans (cleanZoneType_again h.zoneType))
  · have hagain := cleanParent_again h.parent
    exact (cleanParent_str_iff hparent).mpr ((cleanParent_str_iff hagain).mp rfl)

lemma admissible_of_cleaned {raw : Raw} {base : Option ZoneValues} {c : Cleaned env}
    (h : Valid env w) (hc : cleanValues env raw base = .ok c) {zone : Option String}
    (hzone : Replaces w c.values zone) (hread : WorldRead view w c.values zone)
    (hworld : checkWorld env view c.values c.geometry zone = .ok ())
    (hcountry : ∀ n ∈ w.nodes.rows, c.values.geoNode = some n.code →
      n.country = some c.values.country) : Admissible env w c.values := by
  obtain ⟨_, _, _, haccepts⟩ := cleanValues_eq_ok.mp hc
  exact (passes_of_checkWorld h hread hworld).admissible h hzone haccepts.stored.parent
    (polygonForZone_of_validate haccepts.polygon) (shape_of_validate haccepts.polygon) hcountry

/-- Only the parent, the type, the country and the switch of a zone decide what is read. -/
lemma worldRead_congr {zone : Option String} (hread : WorldRead view w v zone)
    (hparent : z.parent = v.parent) (htype : z.zoneType = v.zoneType)
    (hcountry : z.country = v.country) (hactive : z.isActive = v.isActive) :
    WorldRead view w z zone := by
  have hneighbours : ∀ r : World, neighbours r z zone = neighbours r v zone := by
    intro r
    rw [neighbours, neighbours, hcountry]
  refine ⟨fun p hp => hread.parent p (hparent ▸ hp),
    fun p a hp => hread.ancestors p a (hparent ▸ hp), fun hcity => ?_, hread.children⟩
  rw [hneighbours, hneighbours]
  exact hread.neighbours ⟨hactive ▸ hcity.1, htype ▸ hcity.2⟩

lemma worldRead_self (w : World) (v : ZoneValues) (zone : Option String) :
    WorldRead (fun _ => w) w v zone :=
  ⟨fun _ _ => rfl, fun _ _ _ _ => rfl, fun _ o ho => ⟨o, ho, rfl⟩,
    fun c hc _ _ hparent => ⟨c, hc, hparent, rfl, rfl⟩⟩

lemma current_self (w : World) (p : Payload) : Current (fun _ => w) w p := by
  cases p with
  | create v => exact worldRead_self w v none
  | update zone base v => exact fun z _ => worldRead_self w _ (some zone)
  | restore zone base version v => exact fun z _ => worldRead_self w _ (some zone)
  | deactivate zone base => exact fun z _ o ho _ hactive _ => ⟨o, ho, rfl, rfl, hactive⟩
  | reactivate zone base => exact fun z _ => (worldRead_self w _ (some zone)).neighbours

lemma executeValues_changed {code : String} {base : ℕ} {raw : Raw} {z₀ : ZoneValues}
    {c₀ : Cleaned env} {kind : ChangeKind} {restoredFrom : Option ℕ} (h : Valid env w)
    (hsent : cleanValues env raw (some z₀) = .ok c₀)
    (hread : ∀ z, w.zones.get? code = some z →
      WorldRead view w { c₀.values with isActive := z.isActive } (some code))
    (hcountry : ∀ z, w.zones.get? code = some z → ∀ n ∈ w.nodes.rows, z.geoNode = some n.code →
      n.country = some c₀.values.country)
    (hexec : executeValues env view w kind code base c₀.values restoredFrom = .ok w') :
    ∃ row, Admissible env w row ∧ w' = changed w row kind restoredFrom := by
  obtain ⟨z, hlocked, hrest⟩ := Fallible.bind_eq_ok.mp hexec
  obtain ⟨hz, -⟩ := locked_eq_ok.mp hlocked
  obtain ⟨c, hc, hrest⟩ := Fallible.bind_eq_ok.mp hrest
  rw [refuse_eq_ok] at hc
  obtain ⟨⟨⟩, hworld, hrest⟩ := Fallible.bind_eq_ok.mp hrest
  rw [refuse_eq_ok] at hworld
  obtain ⟨row, hrow, hrest⟩ := Fallible.bind_eq_ok.mp hrest
  have hw' := Except.ok.inj hrest
  obtain ⟨_, _, _, haccepts⟩ := cleanValues_eq_ok.mp hc
  have hsame := row_of_apply haccepts.stored hrow
  subst hsame
  obtain ⟨hcode, hnode, hactive⟩ := head_of_change haccepts
  obtain ⟨hcountry', htype, hparent⟩ := values_again hsent hc
  have hzcode := Table.pk_of_get? hz
  subst hzcode
  have hcurrent := worldRead_congr (hread z hz) hparent htype hcountry' hactive
  refine ⟨c.values, ?_, ?_⟩
  · have hz' := hz
    rw [← hcode] at hworld hz' hcurrent
    refine admissible_of_cleaned h hc (.change z hz' hnode.symm hactive.symm) hcurrent hworld ?_
    intro n hn hnode'
    rw [hcountry']
    exact hcountry z hz n hn (hnode ▸ hnode')
  · rw [← recorded_of_code hz hcode]
    exact hw'.symm

lemma executeCreate_changed {w₀ : World} {raw : Raw} {c₀ : Cleaned env} {node : GeoNode}
    (h : Valid env w) (hnodes : w₀.nodes = w.nodes) (hsent : Creates env w₀ raw c₀ node)
    (hread : WorldRead view w c₀.values none)
    (hexec : executeCreate env view w c₀.values = .ok w') :
    ∃ row, Admissible env w row ∧ w' = changed w row .create none := by
  rw [executeCreate] at hexec
  split at hexec
  · cases hexec
  · rename_i node' hfound
    split at hexec
    · cases hexec
    · obtain ⟨c, hc, hrest⟩ := Fallible.bind_eq_ok.mp hexec
      rw [refuse_eq_ok] at hc
      obtain ⟨⟨⟩, hworld, hrest⟩ := Fallible.bind_eq_ok.mp hrest
      rw [refuse_eq_ok] at hworld
      obtain ⟨row, hrow, hrest⟩ := Fallible.bind_eq_ok.mp hrest
      obtain ⟨notes, hagain⟩ :=
        (cleanValues_created hsent.cleaned).mpr (atDefaults_of_again hsent.cleaned hc)
      rw [hagain] at hc
      cases hc
      -- the geo node is the one of the proposal
      have hnode := hsent.node_eq
      rw [hnodes] at hnode
      rw [hnode, Option.filter_some, if_pos (by simpa using hsent.city)] at hfound
      cases hfound
      obtain ⟨g, hg⟩ := geoNode_of_created hsent.cleaned
      rw [hg] at hnode
      have hcode : ({ c₀.values with geoNode := some node.code } : ZoneValues) = c₀.values := by
        rw [Table.pk_of_get? hnode, ← hg]
      obtain ⟨_, _, _, haccepts⟩ := cleanValues_eq_ok.mp hsent.cleaned
      dsimp only at hrow
      rw [hcode] at hrow
      have hsame := row_of_apply haccepts.stored hrow
      subst hsame
      split at hrest
      · cases hrest
      · rename_i zones hzones
        obtain ⟨habsent, rfl⟩ := Table.insert?_eq_some.mp hzones
        refine ⟨c₀.values, ?_, ?_⟩
        · refine admissible_of_cleaned h hsent.cleaned (.create habsent) hread hworld ?_
          intro n hn hnode'
          have hget := Table.mem_iff_get?.mp hn
          rw [hg] at hnode'
          rw [← Option.some.inj hnode'] at hget
          rw [Option.bind_some, hget] at hnode
          rw [Option.some.inj hnode]
          exact hsent.country
        · have hrecorded : recorded w c₀.values.code = w := by
            rw [recorded, habsent]
          rw [changed, hrecorded]
          exact (Except.ok.inj hrest).symm

lemma sibling_of_checkCanDeactivate (hcheck : checkCanDeactivate view z = .ok ())
    (hread : SiblingsRead view w z) (hnodes : (view .siblings).nodes = w.nodes) :
    ∀ n ∈ w.nodes.rows, n.isLiveCity = true → z.geoNode = some n.code →
      ∃ o ∈ w.zones.rows, o.code ≠ z.code ∧ o.geoNode = some n.code ∧ o.isActive = true := by
  intro n hn hlive hnode
  rw [checkCanDeactivate] at hcheck
  split at hcheck
  · cases hcheck
  · rw [hnode, Option.bind_some, hnodes, Table.mem_iff_get?.mp hn] at hcheck
    dsimp only at hcheck
    split at hcheck
    · cases hcheck
    · rename_i hany
      rw [hlive, Bool.true_and, Bool.not_eq_true, Bool.not_eq_false'] at hany
      obtain ⟨x, hx, hothers⟩ := List.any_eq_true.mp hany
      simp only [Bool.and_eq_true, decide_eq_true_eq] at hothers
      obtain ⟨⟨hxnode, hxactive⟩, hne⟩ := hothers
      obtain ⟨o, ho, hcode, honode, hoactive⟩ :=
        hread x hx (hxnode.trans hnode.symm) hxactive hne
      exact ⟨o, ho, hcode ▸ hne, honode.trans hxnode, hoactive⟩

lemma executeDeactivate_changed {code : String} {base : ℕ} (h : Valid env w)
    (hread : ∀ z, w.zones.get? code = some z → SiblingsRead view w z)
    (hnodes : (view .siblings).nodes = w.nodes)
    (hexec : executeDeactivate env view w code base = .ok w') :
    ∃ row, Admissible env w row ∧ w' = changed w row .deactivate none := by
  obtain ⟨z, hlocked, hrest⟩ := Fallible.bind_eq_ok.mp hexec
  obtain ⟨hz, -⟩ := locked_eq_ok.mp hlocked
  have hzcode := Table.pk_of_get? hz
  subst hzcode
  split at hrest
  · cases hrest
  · obtain ⟨⟨⟩, hcheck, hrest⟩ := Fallible.bind_eq_ok.mp hrest
    rw [refuse_eq_ok] at hcheck
    obtain ⟨row, hrow, hrest⟩ := Fallible.bind_eq_ok.mp hrest
    obtain ⟨hs, hinactive⟩ := switched_of_saved hrow
    refine ⟨row, hs.admissible h hz ?_ (.inr ?_), ?_⟩
    · rintro ⟨hactive, -⟩
      rw [hinactive] at hactive
      cases hactive
    · rw [hs.code, hs.geoNode]
      exact sibling_of_checkCanDeactivate hcheck (hread z hz) hnodes
    · rw [← recorded_of_code hz hs.code]
      exact (Except.ok.inj hrest).symm

lemma executeReactivate_changed {code : String} {base : ℕ} (h : Valid env w)
    (hread : ∀ z, w.zones.get? code = some z →
      NeighboursRead view w { z with isActive := true } (some code))
    (hexec : executeReactivate env view w code base = .ok w') :
    ∃ row, Admissible env w row ∧ w' = changed w row .reactivate none := by
  obtain ⟨z, hlocked, hrest⟩ := Fallible.bind_eq_ok.mp hexec
  obtain ⟨hz, -⟩ := locked_eq_ok.mp hlocked
  have hzcode := Table.pk_of_get? hz
  subst hzcode
  split at hrest
  · cases hrest
  · split at hrest
    · cases hrest
    · obtain ⟨⟨⟩, hcheck, hrest⟩ := Fallible.bind_eq_ok.mp hrest
      rw [refuse_eq_ok] at hcheck
      obtain ⟨row, hrow, hrest⟩ := Fallible.bind_eq_ok.mp hrest
      obtain ⟨hs, hactive⟩ := switched_of_saved hrow
      refine ⟨row, hs.admissible h hz ?_ (.inl hactive), ?_⟩
      · intro hcity x hx hne hxcity hcountry g g' hg hg'
        rw [hs.polygon] at hg
        rw [h.shapes z (Table.mem_of_get? hz).1 g hg]
        have hzcity : ({ z with isActive := true } : ZoneValues).isActiveCity :=
          ⟨rfl, hs.zoneType ▸ hcity.2⟩
        refine apart_of_checkOverlap (hread z hz) (checkOverlap_of_checkWorld hcheck) hzcity x
          (List.mem_filter.mpr ⟨hx, ?_⟩) g' hg'
        rw [hs.code] at hne
        rw [hs.country] at hcountry
        simp [hxcity.1, hxcity.2, hcountry, hne]
      · rw [← recorded_of_code hz hs.code]
        exact (Except.ok.inj hrest).symm

/-- An execution on current reads writes an admissible row. -/
theorem execute_changed (h : Valid env w) (hsent : Sent env w.nodes p)
    (hcurrent : Current view w p) (hcountry : KeepsCountry w p)
    (hnodes : (view .siblings).nodes = w.nodes) (hexec : execute env view w p = .ok w') :
    ∃ row kind restoredFrom, Admissible env w row ∧ w' = changed w row kind restoredFrom := by
  cases hsent with
  | create w₀ raw c node hsame hcreates =>
      obtain ⟨row, hrow, hw'⟩ := executeCreate_changed h hsame hcreates hcurrent hexec
      exact ⟨row, _, _, hrow, hw'⟩
  | update zone base raw z c hcleaned =>
      obtain ⟨row, hrow, hw'⟩ := executeValues_changed h hcleaned hcurrent hcountry hexec
      exact ⟨row, _, _, hrow, hw'⟩
  | restore zone base version raw z c hcleaned =>
      obtain ⟨row, hrow, hw'⟩ := executeValues_changed h hcleaned hcurrent hcountry hexec
      exact ⟨row, _, _, hrow, hw'⟩
  | deactivate zone base =>
      obtain ⟨row, hrow, hw'⟩ := executeDeactivate_changed h hcurrent hnodes hexec
      exact ⟨row, _, _, hrow, hw'⟩
  | reactivate zone base =>
      obtain ⟨row, hrow, hw'⟩ := executeReactivate_changed h hcurrent hexec
      exact ⟨row, _, _, hrow, hw'⟩

/-! ## Every run -/

/-- What the office keeps: a valid world, the geo nodes of every world before it, and requests
that were checked beside these. -/
structure Kept (env : Env) (o : Office) : Prop where
  valid : Valid env o.current
  nodes : ∀ w ∈ o.past, w.nodes = o.current.nodes
  sent : ∀ p ∈ o.requests, Sent env o.current.nodes p

lemma Kept.world_nodes (h : Kept env o) (age : ℕ) : (o.world age).nodes = o.current.nodes := by
  rw [Office.world, List.getD_eq_getElem?_getD]
  cases hget : (o.current :: o.past)[age]? with
  | none => rfl
  | some w =>
      rcases List.mem_cons.mp (List.mem_of_getElem? hget) with rfl | hpast
      · rfl
      · exact h.nodes w hpast

/-- The office keeps to a world with the same geo nodes. -/
lemma Kept.become (h : Kept env o) (hvalid : Valid env w) (hnodes : w.nodes = o.current.nodes) :
    Kept env (o.become w) := by
  refine ⟨hvalid, fun w' hw' => ?_, fun p hp => ?_⟩
  · rcases List.mem_cons.mp hw' with rfl | hpast
    · exact hnodes.symm
    · exact (h.nodes w' hpast).trans hnodes.symm
  · show Sent env w.nodes p
    rw [hnodes]
    exact h.sent p hp

lemma valid_traffic (h : Valid env w) (trips : List Trip) : Valid env { w with trips } :=
  ⟨⟨h.cities, h.inside, h.acyclic, h.countries, h.live, h.revisions⟩, h.parents, h.revisionZones,
    h.shapes⟩

theorem kept_step {act : Act} (htimely : Timely o act) (h : Kept env o) :
    Kept env (step env o act) := by
  cases act with
  | propose actor reason q =>
      rw [step]
      split
      · rename_i p hp
        refine ⟨h.valid, h.nodes, fun p' hp' => ?_⟩
        rcases List.mem_append.mp hp' with hold | hnew
        · exact h.sent p' hold
        · rw [List.mem_singleton] at hnew
          rw [hnew]
          exact sent_of_propose hp
      · exact h
  | execute request age =>
      rw [step]
      split
      · exact h
      · rename_i p hp
        split
        · rename_i w hw
          obtain ⟨hcurrent, hcountry⟩ := htimely p hp
          obtain ⟨row, kind, restoredFrom, hrow, rfl⟩ := execute_changed h.valid
            (h.sent p (List.mem_of_getElem? hp)) hcurrent hcountry (h.world_nodes _) hw
          exact h.become (valid_changed h.valid hrow) changed_nodes
        · exact h
  | traffic trips => exact h.become (valid_traffic h.valid trips) rfl

def opened (w : World) : Office := ⟨w, [], []⟩

/-- From a valid world every run keeps the laws in which every execution commits to what it has
read and no zone leaves the country of its geo node. -/
theorem laws_of_timely (hvalid : Valid env w) (as : List Act)
    (htimely : Transition.Guarded (step env) Timely (opened w) as) :
    Laws env (Transition.run (step env) (opened w) as).current :=
  (Transition.invariant_of_guarded (I := Kept env) (fun _ _ hok h => kept_step hok h)
    ⟨hvalid, fun _ hw => absurd hw List.not_mem_nil, fun _ hp => absurd hp List.not_mem_nil⟩
    htimely).valid.toLaws

end Runs

/-! ## Runs that break a law -/

/-- A city zone of Hyderabad with a code. -/
def townZone (code : String) : ZoneValues where
  code := code
  geoNode := some "IN-TG-HYD"
  isActive := true
  name := "Hyderabad"
  country := "IN"
  stateCode := "TG"
  city := "Hyderabad"
  zoneType := "city"
  parent := none
  priority := 10
  polygon := .obj [("type", .str "Polygon"), ("coordinates", .arr [exampleSquare])]
  currency := "INR"
  timezoneName := "Asia/Kolkata"
  distanceUnit := "km"
  taxMode := "inclusive"
  perTripFee := 0
  perTripFeeLabel := ""
  metadata := .obj []

/-- Hyderabad, live, with two zones. -/
def townWorld : World where
  zones := ⟨[townZone "HYD-EAST", townZone "HYD-WEST"], by decide⟩
  revisions := []
  nodes := exampleWorld.nodes
  trips := []

lemma townZone_of_mem {z : ZoneValues} (h : z ∈ townWorld.zones.rows) :
    ∃ code, z = townZone code := by
  rcases List.mem_cons.mp h with rfl | h
  · exact ⟨_, rfl⟩
  · exact ⟨_, List.mem_singleton.mp h⟩

lemma valid_townWorld : Valid exampleEnv townWorld := by
  refine ⟨⟨?_, ?_, ?_, ?_, ?_, ?_⟩, ?_, ?_, ?_⟩
  · intro a _ b _ _ _ _ _ g g' _ _
    rfl
  · intro c hc p _ hparent
    obtain ⟨code, rfl⟩ := townZone_of_mem hc
    cases hparent
  · intro a ha
    rcases Relation.TransGen.head'_iff.mp ha with ⟨b, ⟨z, hz, -, hparent⟩, -⟩
    obtain ⟨code, rfl⟩ := townZone_of_mem hz
    cases hparent
  · intro z hz n hn _
    obtain ⟨code, rfl⟩ := townZone_of_mem hz
    rw [List.mem_singleton.mp hn]
    rfl
  · intro n hn _
    rw [List.mem_singleton.mp hn]
    exact ⟨townZone "HYD-EAST", List.mem_cons_self .., rfl, rfl⟩
  · intro z _
    exact ⟨rfl, nofun⟩
  · intro z hz p hparent
    obtain ⟨code, rfl⟩ := townZone_of_mem hz
    cases hparent
  · intro r hr
    cases hr
  · intro z _ g _
    rfl

/-- A body that sets the country. -/
def countryRaw (country : String) : Raw where
  code := none
  geoNode := none
  isActive := none
  marketOverrideReason := none
  name := none
  country := some (.str country)
  stateCode := none
  city := none
  zoneType := none
  parent := none
  priority := none
  polygon := none
  currency := none
  timezoneName := none
  distanceUnit := none
  taxMode := none
  perTripFee := none
  perTripFeeLabel := none
  metadata := none
  unknown := []

/-- An approved update moves a zone of an Indian city to the United States. -/
theorem not_laws_countryChange : Valid exampleEnv townWorld ∧
    ¬ Laws exampleEnv (Transition.run (step exampleEnv) (opened townWorld)
      [.propose exampleActor "border" (.update "HYD-EAST" (countryRaw "US")),
        .execute 0 fun _ => 0]).current := by
  refine ⟨valid_townWorld, fun h => ?_⟩
  generalize hw : (Transition.run (step exampleEnv) (opened townWorld) _).current = w at h
  have hzone : (w.zones.get? "HYD-EAST").map (fun z => (z.country, z.geoNode)) =
      some ("US", some "IN-TG-HYD") := by
    rw [← hw]
    decide +kernel
  have hnode : (w.nodes.get? "IN-TG-HYD").map (·.country) = some (some "IN") := by
    rw [← hw]
    decide +kernel
  obtain ⟨z, hz, hzeq⟩ := Option.map_eq_some_iff.mp hzone
  obtain ⟨n, hn, hneq⟩ := Option.map_eq_some_iff.mp hnode
  have hlaw := h.countries z (Table.mem_of_get? hz).1 n (Table.mem_of_get? hn).1
  injection hzeq with hcountry hgeo
  rw [hcountry, hgeo, Table.pk_of_get? hn, hneq] at hlaw
  exact absurd (Option.some.inj (hlaw rfl)) (by decide)

/-- Two deactivations of the zones of a live city go through when each has read the other zone
before its commit. -/
theorem not_laws_sideBySide : Valid exampleEnv townWorld ∧
    ¬ Laws exampleEnv (Transition.run (step exampleEnv) (opened townWorld)
      [.propose exampleActor "close" (.deactivate "HYD-EAST"),
        .propose exampleActor "close" (.deactivate "HYD-WEST"),
        .execute 0 (fun _ => 0), .execute 1 fun _ => 1]).current := by
  refine ⟨valid_townWorld, fun h => ?_⟩
  generalize hw : (Transition.run (step exampleEnv) (opened townWorld) _).current = w at h
  have hzones : w.zones.rows.all (fun z => !z.isActive) = true := by
    rw [← hw]
    decide +kernel
  have hnode : (w.nodes.get? "IN-TG-HYD").map (·.isLiveCity) = some true := by
    rw [← hw]
    decide +kernel
  obtain ⟨n, hn, hlive⟩ := Option.map_eq_some_iff.mp hnode
  obtain ⟨z, hz, -, hactive⟩ := h.live n (Table.mem_of_get? hn).1 hlive
  have hinactive := List.all_eq_true.mp hzones z hz
  rw [hactive] at hinactive
  cases hinactive

/-- One zone is deactivated and the city keeps the other. -/
theorem laws_oneDeactivated :
    Laws exampleEnv (Transition.run (step exampleEnv) (opened townWorld)
      [.propose exampleActor "close" (.deactivate "HYD-EAST"), .execute 0 fun _ => 0]).current := by
  refine laws_of_timely valid_townWorld _ ⟨trivial, ?_, trivial⟩
  generalize ho : step exampleEnv (opened townWorld) _ = o
  have hrequests : (o.requests[0]?).all (fun p => match p with
      | .deactivate _ _ => true
      | _ => false) = true := by
    rw [← ho]
    decide +kernel
  intro p hp
  rw [hp, Option.all_some] at hrequests
  refine ⟨current_self o.current p, ?_⟩
  cases p with
  | deactivate zone base => trivial
  | _ => cases hrequests

end SaaradhiGo.Zones
