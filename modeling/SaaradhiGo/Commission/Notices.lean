/-
The notices of an activation.

A rule that raises rates is announced to the drivers whose rate rises, each with the rate of
their own cell.  Whom to tell is read after the rule is written, and the table allows one notice
of a rule.  So the activation does what it is to do exactly when it raises no cell, or starts
later than the moment of approval and raises one cell alone or every cell it governs from one
and the same rate.
-/
import SaaradhiGo.Commission.History
import Mathlib.Data.List.Dedup

namespace SaaradhiGo.Commission

open AdminAccess

/-- The notice is for the drivers of the cell: the class is its own or it names none, and the
city is its own or lies in its country.  Cells in no city are told by a notice of the country. -/
def Market.covers (m : Market) (n : DriverNotice) (c : Cell) : Bool :=
  (n.vehicleType.isNone || n.vehicleType = c.2) &&
    match n.geoNode.bind m.nodes.get? with
    | none => true
    | some node =>
        if node.kind = .city then c.1 = some node.id
        else c.1.all fun city => (m.nodes.get? city).any node.covers

def raisedBy (m : Market) (db : Books) (now : ℤ) (rule : CommissionRule) : List RaisedCell :=
  raisedCells m db rule.country rule.geoNode rule.vehicleType rule.percent now

def governedBy (m : Market) (db : Books) (now : ℤ) (rule : CommissionRule) : List Cell :=
  governed m db rule.country rule.geoNode rule.vehicleType rule.percent now

/-- What the activation of a rule is to do: it goes through; the rule is active, the approved
rules of its scope that had no end are superseded and no other rule changes; and every raised
cell is covered by exactly one notice of the rule, which states the rate of that cell. -/
def Fulfilled (m : Market) (db : Books) (now : ℤ) (ruleId requestId : ℕ)
    (rule : CommissionRule) : Prop :=
  ∃ db', activate m now ruleId requestId db = .ok db' ∧
    db'.rules.get? rule.id = some (rule.activated (effectiveDate m db now rule) now) ∧
    (∀ r ∈ db.rules.rows, r.id ≠ rule.id → db'.rules.get? r.id =
      some (if r.status.applicable then afterActivation rule (effectiveDate m db now rule) r
        else r)) ∧
    ∀ x ∈ raisedBy m db now rule, ∃ n ∈ db'.notices.rows, n.rule = rule.id ∧
      m.covers n x.1 = true ∧ n.oldPercent = x.2 ∧
      ∀ n' ∈ db'.notices.rows, n'.rule = rule.id → m.covers n' x.1 = true → n' = n

/-- The rule raises no cell; or it starts later than the moment, and raises one cell alone or
all the cells it governs from one rate. -/
def Announceable (m : Market) (db : Books) (now : ℤ) (rule : CommissionRule) : Prop :=
  raisedBy m db now rule = [] ∨
    ((0 < db.noticeDays rule.country ∨ now < rule.effectiveFrom) ∧
      ((raisedBy m db now rule).length = 1 ∨
        ((raisedBy m db now rule).length = (governedBy m db now rule).length ∧
          ∀ x ∈ raisedBy m db now rule, ∀ y ∈ raisedBy m db now rule, x.2 = y.2)))

instance (m : Market) (db : Books) (now : ℤ) (rule : CommissionRule) :
    Decidable (Announceable m db now rule) :=
  inferInstanceAs (Decidable (raisedBy m db now rule = [] ∨
    ((0 < db.noticeDays rule.country ∨ now < rule.effectiveFrom) ∧
      ((raisedBy m db now rule).length = 1 ∨
        ((raisedBy m db now rule).length = (governedBy m db now rule).length ∧
          ∀ x ∈ raisedBy m db now rule, ∀ y ∈ raisedBy m db now rule, x.2 = y.2)))))

section Governed

variable {m : Market} {db db' : Books} {now : ℤ} {rule r : CommissionRule} {c c' : Cell}

def CommissionRule.asDraft (rule : CommissionRule) (now : ℤ) : CommissionRule :=
  draftOf rule.country rule.geoNode rule.vehicleType rule.percent now

lemma asDraft_scope : (rule.asDraft now).scope = rule.scope := rfl

/-- The rules the draft is held against in a cell. -/
def Rival (m : Market) (db : Books) (now : ℤ) (rule : CommissionRule) (c : Cell)
    (r : CommissionRule) : Prop :=
  InForce m db rule.country c.1 c.2 now r ∧ r.scope ≠ rule.scope

lemma mem_overridden : r ∈ ((overridden (db.inForce rule.country now none)
      (some (rule.asDraft now))).filter fun r => m.matchesCell r c.1 c.2) ↔
    Rival m db now rule c r ∨
      (r = rule.asDraft now ∧ m.matchesCell rule c.1 c.2 = true) := by
  rw [List.mem_filter, overridden, List.mem_append, List.mem_filter, List.mem_singleton,
    Books.inForce, mem_effective, Bool.not_eq_true', Bool.eq_false_iff, ne_eq,
    CommissionRule.sameKey_iff, asDraft_scope]
  constructor
  · rintro ⟨⟨⟨hmem, hcountry, hkind, happlies⟩, hscope⟩ | rfl, hmatch⟩
    · exact .inl ⟨⟨hmem, hcountry, hkind, happlies, hmatch⟩, hscope⟩
    · refine .inr ⟨rfl, ?_⟩
      rw [← hmatch]
      exact (matchesCell_congr (asDraft_scope : (rule.asDraft now).scope = rule.scope)).symm
  · rintro (⟨⟨hmem, hcountry, hkind, happlies, hmatch⟩, hscope⟩ | ⟨rfl, hmatch⟩)
    · exact ⟨.inl ⟨⟨hmem, hcountry, hkind, happlies⟩, hscope⟩, hmatch⟩
    · refine ⟨.inr rfl, ?_⟩
      rw [← hmatch]
      exact matchesCell_congr asDraft_scope

lemma Rival.specificity_ne (h : Kept m db) (hrule : Placed m rule)
    (hmatch : m.matchesCell rule c.1 c.2 = true) (hr : Rival m db now rule c r) :
    m.specificity r ≠ m.specificity rule := fun hspec =>
  hr.2 (scope_eq_of_specificity (h.placed r hr.1.mem) hrule hr.1.country_eq hr.1.matches_cell hmatch
    hspec)

/-- A draft governs a cell exactly when it matches it and every rival is less specific. -/
lemma governs_iff (now : ℤ) (c : Cell) (h : Kept m db) (hrule : Placed m rule) (hcountry : rule.country ≠ "") :
    resolve m db rule.country c.1 c.2 now (some (rule.asDraft now)) none =
        some (rule.asDraft now) ↔
      m.matchesCell rule c.1 c.2 = true ∧
        ∀ r, Rival m db now rule c r → m.specificity r < m.specificity rule := by
  have hspec : m.specificity (rule.asDraft now) = m.specificity rule :=
    specificity_congr asDraft_scope
  rw [resolve, if_neg hcountry]
  constructor
  · intro hbest
    have hmatch : m.matchesCell rule c.1 c.2 = true := by
      rcases mem_overridden.mp (List.argmax_mem hbest) with hrival | ⟨-, hmatch⟩
      · have happlies := hrival.1.applies
        rw [CommissionRule.appliesAt_iff] at happlies
        cases happlies.1
      · exact hmatch
    refine ⟨hmatch, fun r hr => ?_⟩
    have hle := specificity_le_of_key (List.le_of_mem_argmax (mem_overridden.mpr (.inl hr)) hbest)
    rw [hspec] at hle
    exact lt_of_le_of_ne hle (hr.specificity_ne h hrule hmatch)
  · rintro ⟨hmatch, hrivals⟩
    have hdraft := mem_overridden.mpr (.inr ⟨rfl, hmatch⟩ :
      Rival m db now rule c (rule.asDraft now) ∨ _)
    cases hbest : (((overridden (db.inForce rule.country now none)
        (some (rule.asDraft now))).filter fun r => m.matchesCell r c.1 c.2).argmax m.key) with
    | none =>
        rw [List.argmax_eq_none] at hbest
        rw [hbest] at hdraft
        cases hdraft
    | some x =>
        rcases mem_overridden.mp (List.argmax_mem hbest) with hrival | ⟨rfl, -⟩
        · have hle := specificity_le_of_key (List.le_of_mem_argmax hdraft hbest)
          rw [hspec] at hle
          exact absurd (hrivals x hrival) (not_lt.mpr hle)
        · rfl

lemma mem_governedBy (h : Kept m db) (hrule : Placed m rule) (hcountry : rule.country ≠ "") :
    c ∈ governedBy m db now rule ↔
      (c.1 ∈ m.cities rule.country rule.geoNode ∧ c.2 ∈ m.classes rule.vehicleType) ∧
        m.matchesCell rule c.1 c.2 = true ∧
        ∀ r, Rival m db now rule c r → m.specificity r < m.specificity rule := by
  rw [governedBy, governed, List.mem_filter, decide_eq_true_eq]
  refine and_congr ?_ (governs_iff now c h hrule hcountry)
  rw [List.mem_flatMap]
  constructor
  · rintro ⟨city, hcity, hc⟩
    obtain ⟨v, hv, rfl⟩ := List.mem_map.mp hc
    exact ⟨hcity, hv⟩
  · rintro ⟨hcity, hv⟩
    exact ⟨c.1, hcity, List.mem_map.mpr ⟨c.2, hv, rfl⟩⟩

/-- The cells a rule governs depend on the rules of other scopes alone. -/
lemma governedBy_congr (h : Kept m db) (h' : Kept m db') (hrule : Placed m rule)
    (hcountry : rule.country ≠ "")
    (hrivals : ∀ c r, Rival m db' now rule c r ↔ Rival m db now rule c r) :
    governedBy m db' now rule = governedBy m db now rule := by
  rw [governedBy, governedBy, governed, governed]
  refine List.filter_congr fun c _ => ?_
  refine decide_eq_decide.mpr ?_
  have hiff := governs_iff now c h hrule hcountry
  have hiff' := governs_iff now c h' hrule hcountry
  rw [CommissionRule.asDraft] at hiff hiff'
  rw [hiff, hiff']
  exact and_congr_right fun _ => forall_congr' fun r => by rw [hrivals]

/-- A rule for all classes finds one and the same rate in all the cells it governs. -/
lemma rate_uniform (h : Kept m db) (hrule : Placed m rule) (hcountry : rule.country ≠ "")
    (hall : rule.vehicleType = none) (hc : c ∈ governedBy m db now rule)
    (hc' : c' ∈ governedBy m db now rule) :
    rate m db rule.country c.1 c.2 now = rate m db rule.country c'.1 c'.2 now := by
  -- what is in force in one of the cells names no class, and no city unless the rule does
  have htransfer : ∀ {c c' : Cell}, c ∈ governedBy m db now rule →
      c' ∈ governedBy m db now rule → ∀ r, InForce m db rule.country c.1 c.2 now r →
        InForce m db rule.country c'.1 c'.2 now r := by
    intro c c' hc hc' r hr
    obtain ⟨-, hmatch, hrivals⟩ := (mem_governedBy h hrule hcountry).mp hc
    obtain ⟨-, hmatch', -⟩ := (mem_governedBy h hrule hcountry).mp hc'
    have hle : m.specificity r ≤ m.specificity rule := by
      by_cases hscope : r.scope = rule.scope
      · exact (specificity_congr hscope).le
      · exact (hrivals r ⟨hr, hscope⟩).le
    have hspecs : r.vehicleType = none ∧ (m.isCity r = true → m.isCity rule = true) := by
      rw [Market.specificity, Market.specificity, hall] at hle
      cases hv : r.vehicleType with
      | none =>
          refine ⟨rfl, fun hcity => ?_⟩
          rw [hv, hcity] at hle
          by_contra hno
          simp [hno] at hle
      | some v =>
          rw [hv] at hle
          cases hrc : m.isCity rule
          · simp [hrc] at hle
          · simp [hrc] at hle
            omega
    refine ⟨hr.mem, hr.country_eq, hr.kind, hr.applies, matchesCell_iff.mpr ⟨fun hcity => ?_,
      .inl hspecs.1⟩⟩
    have hnode := (matchesCell_iff.mp hr.matches_cell).1 hcity
    have hrcity := hspecs.2 hcity
    rw [hnode, ← (matchesCell_iff.mp hmatch).1 hrcity, (matchesCell_iff.mp hmatch').1 hrcity]
  cases hrate : rate m db rule.country c.1 c.2 now with
  | none =>
      rw [rate_eq_none_iff hcountry] at hrate
      exact ((rate_eq_none_iff hcountry).mpr fun r hr =>
        hrate r (htransfer hc' hc r hr)).symm
  | some r =>
      rw [h.rate_eq_some_iff hcountry] at hrate
      exact ((h.rate_eq_some_iff hcountry).mpr ⟨htransfer hc hc' r hrate.1,
        fun r' hr' => hrate.2 r' (htransfer hc' hc r' hr')⟩).symm

end Governed

/-! ## Whom to tell -/

section Targets

variable {m : Market} {db : Books} {now : ℤ} {rule : CommissionRule} {cells : List Cell}
  {raised : List RaisedCell} {node vehicleType : Option ℕ} {x : RaisedCell} {target : Target}
  {city : ℕ} {n : DriverNotice} {c : Cell}

/-- A list has a sole value when it is not empty and all its elements are that value. -/
lemma sole_eq_some_iff {l : List ℤ} {a : ℤ} : sole l = some a ↔ l ≠ [] ∧ ∀ b ∈ l, b = a := by
  have hdedup : sole l = some a ↔ l.dedup = [a] := by
    rw [sole]
    constructor
    · intro h
      split at h
      · rename_i b hb
        rw [hb, Option.some.inj h]
      · cases h
    · intro h
      rw [h]
  rw [hdedup]
  constructor
  · intro h
    refine ⟨?_, fun b hb => ?_⟩
    · rintro rfl
      cases h
    · have hmem := List.mem_dedup.mpr hb
      rw [h] at hmem
      exact List.mem_singleton.mp hmem
  · rintro ⟨hne, hall⟩
    obtain ⟨b, hb⟩ := List.exists_mem_of_ne_nil l hne
    have ha : a ∈ l.dedup := List.mem_dedup.mpr (hall b hb ▸ hb)
    rw [List.eq_replicate_of_mem (l := l.dedup) fun b hb => hall b (List.mem_dedup.mp hb)]
    have hone : l.dedup.length = 1 := by
      refine le_antisymm ?_ (List.length_pos_of_mem ha)
      have hnodup := l.nodup_dedup
      rw [List.eq_replicate_of_mem (l := l.dedup) fun b hb => hall b (List.mem_dedup.mp hb)] at hnodup
      exact List.nodup_replicate.mp hnodup
    rw [hone]
    rfl

lemma mem_fanOut (h : target ∈ fanOut cells raised vehicleType) :
    ∃ city, target.1 = some city ∧ ∃ x ∈ raised, x.1.1 = some city := by
  rw [fanOut, List.mem_flatMap] at h
  obtain ⟨city, hcity, htarget⟩ := h
  rw [List.mem_dedup, List.mem_filterMap] at hcity
  refine ⟨city, ?_, hcity⟩
  have hrows : ∀ t ∈ (raised.filter fun x => x.1.1 = some city).map
      (fun x => ((some city, x.1.2, x.2) : Target)), t.1 = some city := by
    intro t ht
    obtain ⟨y, -, rfl⟩ := List.mem_map.mp ht
    rfl
  rw [cityTargets] at htarget
  split at htarget
  · split at htarget
    · rw [List.mem_singleton.mp htarget]
    · exact hrows _ htarget
  · exact hrows _ htarget

lemma cityTargets_ne_nil (hx : x ∈ raised) (hcity : x.1.1 = some city) :
    cityTargets cells raised vehicleType city ≠ [] := by
  have hrows : (raised.filter fun x => x.1.1 = some city) ≠ [] :=
    List.ne_nil_of_mem (List.mem_filter.mpr ⟨hx, by simpa using hcity⟩)
  rw [cityTargets]
  split
  · split
    · exact List.cons_ne_nil _ _
    · simpa using hrows
  · simpa using hrows

lemma fanOut_eq_nil_iff : fanOut cells raised vehicleType = [] ↔ ∀ x ∈ raised, x.1.1 = none := by
  rw [fanOut, List.flatMap_eq_nil_iff]
  constructor
  · intro h x hx
    cases hcity : x.1.1 with
    | none => rfl
    | some city =>
        refine absurd (h city ?_) (cityTargets_ne_nil hx hcity)
        exact List.mem_dedup.mpr (List.mem_filterMap.mpr ⟨x, hx, hcity⟩)
  · intro h city hcity
    rw [List.mem_dedup, List.mem_filterMap] at hcity
    obtain ⟨x, hx, hsome⟩ := hcity
    rw [h x hx] at hsome
    cases hsome

/-- The plain case. -/
lemma targetsOf_of_same (hne : raised ≠ []) {old : ℤ} (hsame : ∀ x ∈ raised, x.2 = old)
    (hlength : raised.length = cells.length) :
    targetsOf cells raised node vehicleType = [(node, vehicleType, old)] := by
  have hsole : sole (raised.map (·.2)) = some old := by
    refine sole_eq_some_iff.mpr ⟨by simpa using hne, fun b hb => ?_⟩
    obtain ⟨x, hx, rfl⟩ := List.mem_map.mp hb
    exact hsame x hx
  rw [targetsOf, hsole]
  exact if_pos hlength

/-- Elsewhere it is city by city, or one notice of the own scope when no city is raised. -/
lemma targetsOf_of_length_ne (hlength : raised.length ≠ cells.length) :
    targetsOf cells raised node vehicleType =
      if fanOut cells raised vehicleType = [] then
        [(node, vehicleType, ((raised.map (·.2)).max?).getD 0)]
      else fanOut cells raised vehicleType := by
  rw [targetsOf]
  split
  · rw [if_neg hlength]
  · rfl

lemma targetsOf_ne_nil : targetsOf cells raised node vehicleType ≠ [] := by
  rw [targetsOf]
  split
  · split
    · exact List.cons_ne_nil _ _
    · split
      · exact List.cons_ne_nil _ _
      · assumption
  · split
    · exact List.cons_ne_nil _ _
    · assumption

/-- One raised cell gets one notice, for its city or at the rule's own scope. -/
lemma targetsOf_singleton : ∃ target, targetsOf cells [x] node vehicleType = [target] ∧
    target.2.2 = x.2 ∧ ((target.1 = node ∧ target.2.1 = vehicleType) ∨
      ∃ city, x.1.1 = some city ∧ target.1 = some city ∧
        (target.2.1 = vehicleType ∨ target.2.1 = x.1.2)) := by
  by_cases hlength : [x].length = cells.length
  · refine ⟨_, targetsOf_of_same (List.cons_ne_nil _ _) (fun y hy => ?_) hlength, rfl,
      .inl ⟨rfl, rfl⟩⟩
    rw [List.mem_singleton.mp hy]
  · rw [targetsOf_of_length_ne hlength]
    split
    · exact ⟨_, rfl, rfl, .inl ⟨rfl, rfl⟩⟩
    · rename_i hfan
      cases hcity : x.1.1 with
      | none =>
          refine absurd (fanOut_eq_nil_iff.mpr fun y hy => ?_) hfan
          rw [List.mem_singleton.mp hy, hcity]
      | some city =>
          have hrows : ([x].filter fun y => y.1.1 = some city) = [x] := by simp [hcity]
          have hsole : sole [x.2] = some x.2 := sole_eq_some_iff.mpr (by simp)
          have hfanOut : fanOut cells [x] vehicleType = cityTargets cells [x] vehicleType city := by
            simp [fanOut, hcity]
          rw [hfanOut, cityTargets, hrows]
          rw [List.map_singleton, hsole]
          dsimp only
          split
          · exact ⟨_, rfl, rfl, .inr ⟨city, rfl, rfl, .inl rfl⟩⟩
          · exact ⟨_, rfl, rfl, .inr ⟨city, rfl, rfl, .inr rfl⟩⟩

/-! ## Coverage of the cells of a scope -/

lemma city_of_mem_cities {country : String} (h : some city ∈ m.cities country node) :
    ∃ place, m.nodes.get? city = some place ∧ place.kind = .city ∧ place.id = city := by
  have hwithin : ∀ root : GeoNode, some city ∈ ((m.nodes.rows.filter fun n =>
      n.kind = .city && root.covers n).map fun n => some n.id) →
        ∃ place, m.nodes.get? city = some place ∧ place.kind = .city ∧ place.id = city := by
    intro root hmem
    obtain ⟨place, hplace, hid⟩ := List.mem_map.mp hmem
    rw [List.mem_filter, Bool.and_eq_true, decide_eq_true_eq] at hplace
    cases hid
    exact ⟨place, Table.mem_iff_get?.mp hplace.1, hplace.2.1, rfl⟩
  rw [Market.cities] at h
  dsimp only at h
  split at h
  · rename_i place hplace
    split at h
    · rename_i hkind
      cases List.mem_singleton.mp h
      obtain ⟨i, -, hget⟩ := Option.bind_eq_some_iff.mp hplace
      exact ⟨place, by rw [Table.pk_of_get? hget]; exact hget, hkind, rfl⟩
    · rcases List.mem_append.mp h with h | h
      · exact hwithin _ h
      · cases List.mem_singleton.mp h
  · split at h
    · rcases List.mem_append.mp h with h | h
      · exact hwithin _ h
      · cases List.mem_singleton.mp h
    · cases List.mem_singleton.mp h

lemma covers_city_iff {place : GeoNode} (hget : m.nodes.get? city = some place)
    (hkind : place.kind = .city) (hid : place.id = city) (hnode : n.geoNode = some city) :
    m.covers n c = true ↔ (n.vehicleType = none ∨ n.vehicleType = c.2) ∧ c.1 = some city := by
  rw [Market.covers, hnode, Option.bind_some, hget]
  simp [hkind, hid]

/-- A notice at the rule's own scope covers every cell of the scope. -/
lemma covers_own {country : String} (hcity : c.1 ∈ m.cities country n.geoNode)
    (hclass : c.2 ∈ m.classes n.vehicleType) : m.covers n c = true := by
  have hvehicle : (n.vehicleType.isNone || n.vehicleType = c.2) = true := by
    cases hv : n.vehicleType with
    | none => rfl
    | some v =>
        rw [hv, Market.classes, List.mem_singleton] at hclass
        simp [hclass]
  rw [Market.covers, hvehicle, Bool.true_and]
  rw [Market.cities] at hcity
  dsimp only at hcity
  split
  · rfl
  · rename_i place hplace
    rw [hplace] at hcity
    dsimp only at hcity
    split
    · rename_i hkind
      rw [if_pos hkind, List.mem_singleton] at hcity
      rw [hcity]
      exact decide_eq_true rfl
    · rename_i hkind
      rw [if_neg hkind, List.mem_append, List.mem_singleton] at hcity
      rcases hcity with hcity | hcity
      · obtain ⟨place', hplace', hid⟩ := List.mem_map.mp hcity
        rw [List.mem_filter, Bool.and_eq_true, decide_eq_true_eq] at hplace'
        rw [← hid, Option.all_some, Table.mem_iff_get?.mp hplace'.1, Option.any_some]
        exact hplace'.2.2
      · rw [hcity]
        rfl

end Targets

/-! ## The tables after the rule is written -/

section Written

variable {m : Market} {db db' : Books} {now eff : ℤ} {rule r : CommissionRule} {c : Cell}
  {ruleId requestId : ℕ} {target : Target} {targets : List Target} {x : RaisedCell}

def Books.written (m : Market) (db : Books) (now : ℤ) (rule : CommissionRule) : Books :=
  db.activateRule rule (effectiveDate m db now rule) now

/-- A rule to which no refusal applies. -/
structure Ready (m : Market) (db : Books) (now : ℤ) (ruleId requestId : ℕ)
    (rule : CommissionRule) : Prop where
  get : db.rules.get? ruleId = some rule
  unrefused : refusal m db now ruleId requestId = none

lemma Ready.activated (h : Ready m db now ruleId requestId rule) :
    Activated m now rule db (db.written m now rule) := by
  obtain ⟨rule', hget, hstatus, -, -, -, hprev⟩ := refusal_eq_none_iff.mp h.unrefused
  rw [h.get] at hget
  cases hget
  obtain ⟨hmem, -⟩ := Table.mem_of_get? h.get
  have hpending : rule.status.applicable = false := by rw [hstatus]; rfl
  refine ⟨hmem, hstatus, fun r hr hscope hstop => ?_, fun x => mem_approved_activateRule hpending hmem,
    fun x hx hquiet => ?_, rfl, fun hlt n hn => ⟨hlt n hn, .inl hn⟩⟩
  · refine hprev r (mem_openSiblings.mpr ⟨hr, hscope, hstop, fun hid => ?_⟩)
    obtain ⟨hrmem, happlicable⟩ := mem_approved.mp hr
    have hget' := Table.mem_iff_get?.mp hrmem
    rw [hid, Table.mem_iff_get?.mp hmem] at hget'
    cases hget'
    rw [hpending] at happlicable
    cases happlicable
  · rcases (mem_activateRule hpending hmem).mp hx with rfl | ⟨s, -, rfl⟩ | ⟨hx, -, -⟩
    · cases hquiet
    · cases hquiet
    · exact hx

lemma rival_written_iff (hact : Activated m now rule db (db.written m now rule)) (c : Cell)
    (r : CommissionRule) :
    Rival m (db.written m now rule) now rule c r ↔ Rival m db now rule c r := by
  have happroved : r.scope ≠ rule.scope → (r ∈ (db.written m now rule).approved ↔
      r ∈ db.approved) := by
    intro hscope
    rw [hact.approved]
    constructor
    · rintro (rfl | ⟨s, hs, rfl⟩)
      · exact absurd rfl hscope
      · rw [afterActivation_scope] at hscope
        rw [afterActivation, if_neg fun hboth => hscope hboth.1]
        exact hs
    · intro hr
      exact .inr ⟨r, hr, by rw [afterActivation, if_neg fun hboth => hscope hboth.1]⟩
  constructor
  · rintro ⟨hr, hscope⟩
    exact ⟨.of_approved ((happroved hscope).mp hr.approved) hr.country_eq hr.kind hr.contains
      hr.matches_cell, hscope⟩
  · rintro ⟨hr, hscope⟩
    exact ⟨.of_approved ((happroved hscope).mpr hr.approved) hr.country_eq hr.kind hr.contains
      hr.matches_cell, hscope⟩

lemma raisedBy_written_of_lt (h : Kept m db) (hact : Activated m now rule db (db.written m now rule))
    (hcountry : rule.country ≠ "") (hlt : now < effectiveDate m db now rule) :
    governedBy m (db.written m now rule) now rule = governedBy m db now rule ∧
      raisedBy m (db.written m now rule) now rule = raisedBy m db now rule := by
  have hgoverned : governedBy m (db.written m now rule) now rule = governedBy m db now rule :=
    governedBy_congr h (h.activate hact) (h.placed rule hact.mem) hcountry
      (rival_written_iff hact)
  refine ⟨hgoverned, ?_⟩
  rw [governedBy, governedBy] at hgoverned
  rw [raisedBy, raisedBy, raisedCells, raisedCells, hgoverned]
  refine congrArg (fun f => List.filterMap f _) (funext fun c => ?_)
  rw [raisedFrom, raisedFrom, rate_activate h hact hlt]
  cases rate m db rule.country c.1 c.2 now with
  | none => rfl
  | some r =>
      have hpercent : (afterActivation rule (effectiveDate m db now rule) r).percent = r.percent := by
        rw [afterActivation]
        split <;> rfl
      rw [Option.map_some, Option.bind_some, Option.bind_some, hpercent]

/-- A rule that starts at the moment governs already where the rates are read. -/
lemma raisedBy_written_of_eq (h : Kept m db) (hact : Activated m now rule db (db.written m now rule))
    (hcountry : rule.country ≠ "") (heq : effectiveDate m db now rule = now) :
    raisedBy m (db.written m now rule) now rule = [] := by
  have hkept := h.activate hact
  rw [raisedBy, raisedCells, List.filterMap_eq_nil_iff]
  intro c hc
  have hplaced := h.placed rule hact.mem
  obtain ⟨-, hmatch, hrivals⟩ := (mem_governedBy hkept hplaced hcountry).mp hc
  have hopen : rule.effectiveTo = none :=
    h.unended rule hact.mem (by rw [hact.pending]; rfl)
  have hnew : (rule.activated (effectiveDate m db now rule) now) ∈ (db.written m now rule).approved :=
    (hact.approved _).mpr (.inl rfl)
  have hscope : (rule.activated (effectiveDate m db now rule) now).scope = rule.scope := rfl
  have hcontains : (rule.activated (effectiveDate m db now rule) now).window.Contains now := by
    refine (Window.contains_of_open hopen).mpr ?_
    rw [CommissionRule.window, CommissionRule.activated, heq]
  have hforce : InForce m (db.written m now rule) rule.country c.1 c.2 now
      (rule.activated (effectiveDate m db now rule) now) := by
    refine .of_approved hnew rfl (h.percentage rule hact.mem) hcontains ?_
    rw [matchesCell_congr hscope]
    exact hmatch
  have hrate : rate m (db.written m now rule) rule.country c.1 c.2 now =
      some (rule.activated (effectiveDate m db now rule) now) := by
    refine (hkept.rate_eq_some_iff hcountry).mpr ⟨hforce, fun r hr => ?_⟩
    rw [specificity_congr hscope]
    by_cases hr' : r.scope = rule.scope
    · exact (specificity_congr hr').le
    · exact (hrivals r ⟨hr, hr'⟩).le
  rw [raisedFrom, hrate, Option.bind_some, if_neg]
  exact lt_irrefl _

/-- A raise starts later than the moment when there is a notice, or when its date is later. -/
lemma lt_effectiveDate_iff (hraised : raisedBy m db now rule ≠ []) :
    now < effectiveDate m db now rule ↔
      0 < db.noticeDays rule.country ∨ now < rule.effectiveFrom := by
  have hincrease : isIncrease m db rule.country rule.geoNode rule.vehicleType rule.percent now =
      true := by
    rw [raisedBy] at hraised
    rw [isIncrease]
    simpa using hraised
  rw [effectiveDate, if_pos hincrease, day]
  omega

/-! ## One notice of a rule -/

/-- The tables with the notice. -/
def Books.withNotice (db : Books) (rule : CommissionRule) (eff : ℤ) (target : Target) : Books :=
  { db with
    notices := db.notices.put
      ⟨db.nextNotice, rule.id, rule.country, target.1, target.2.1, target.2.2, rule.percent, eff⟩
    nextNotice := db.nextNotice + 1 }

lemma Kept.no_notice (h : Kept m db) (hact : Activated m now rule db db') :
    ∀ n ∈ db.notices.rows, n.rule ≠ rule.id := by
  intro n hn heq
  obtain ⟨-, r, hr, hid⟩ := h.noticed n hn
  obtain ⟨hmem, happlicable⟩ := mem_approved.mp hr
  have hget := Table.mem_iff_get?.mp hmem
  rw [hid, heq, Table.mem_iff_get?.mp hact.mem] at hget
  cases hget
  rw [hact.pending] at happlicable
  cases happlicable

lemma createNotice_first (hnone : ∀ n ∈ db.notices.rows, n.rule ≠ rule.id) :
    Books.createNotice rule eff db target = .ok (db.withNotice rule eff target) := by
  rw [Books.createNotice, if_neg]
  · rfl
  · rw [List.any_eq_true]
    rintro ⟨n, hn, heq⟩
    exact hnone n hn (by simpa using heq)

lemma createNotice_second {other : Target} :
    Books.createNotice rule eff (db.withNotice rule eff other) target = .error .integrityError := by
  rw [Books.createNotice, if_pos]
  rw [List.any_eq_true]
  exact ⟨_, Table.mem_put.mpr (.inl rfl), by simp⟩

lemma createNotices_ok (hnone : ∀ n ∈ db.notices.rows, n.rule ≠ rule.id) :
    targets.foldlM (Books.createNotice rule eff) db = .ok db' ↔
      (targets = [] ∧ db' = db) ∨ ∃ target, targets = [target] ∧
        db' = db.withNotice rule eff target := by
  cases targets with
  | nil =>
      constructor
      · intro h
        cases h
        exact .inl ⟨rfl, rfl⟩
      · rintro (⟨-, rfl⟩ | ⟨_, hnil, -⟩)
        · rfl
        · cases hnil
  | cons target rest =>
      rw [List.foldlM_cons, createNotice_first hnone]
      cases rest with
      | nil =>
          constructor
          · intro h
            cases h
            exact .inr ⟨target, rfl, rfl⟩
          · rintro (⟨hnil, -⟩ | ⟨_, hsingle, rfl⟩)
            · cases hnil
            · cases hsingle
              rfl
      | cons other rest =>
          constructor
          · intro h
            change (other :: rest).foldlM (Books.createNotice rule eff)
              (db.withNotice rule eff target) = .ok db' at h
            rw [List.foldlM_cons, createNotice_second] at h
            cases h
          · rintro (⟨hnil, -⟩ | ⟨_, hsingle, -⟩)
            · cases hnil
            · cases hsingle

lemma mem_withNotice (db : Books) (eff : ℤ) (target : Target)
    (hnone : ∀ n ∈ db.notices.rows, n.rule ≠ rule.id) {n : DriverNotice} :
    (n ∈ (db.withNotice rule eff target).notices.rows ∧ n.rule = rule.id) ↔
      n = ⟨db.nextNotice, rule.id, rule.country, target.1, target.2.1, target.2.2, rule.percent,
        eff⟩ := by
  rw [Books.withNotice, Table.mem_put]
  constructor
  · rintro ⟨rfl | ⟨hn, -⟩, hrule⟩
    · rfl
    · exact absurd hrule (hnone n hn)
  · rintro rfl
    exact ⟨.inl rfl, rfl⟩

end Written

/-! ## What an activation fulfils -/

section Fulfilled

variable {m : Market} {db db' : Books} {now : ℤ} {rule r : CommissionRule} {c : Cell}
  {ruleId requestId : ℕ} {x y : RaisedCell}

/-- The rules after an activation: the one that is activated, those it supersedes, the others. -/
lemma rules_written (hact : Activated m now rule db (db.written m now rule)) :
    (db.written m now rule).rules.get? rule.id =
        some (rule.activated (effectiveDate m db now rule) now) ∧
      ∀ r ∈ db.rules.rows, r.id ≠ rule.id → (db.written m now rule).rules.get? r.id =
        some (if r.status.applicable then afterActivation rule (effectiveDate m db now rule) r
          else r) := by
  have hpending : rule.status.applicable = false := by rw [hact.pending]; rfl
  have hmem : ∀ {x : CommissionRule}, x ∈ (db.written m now rule).rules.rows ↔ _ := fun {_} =>
    mem_activateRule hpending hact.mem
  refine ⟨Table.mem_iff_get?.mp (hmem.mpr (.inl rfl)), fun r hr hid => ?_⟩
  have hne : r ≠ rule := fun heq => hid (congrArg CommissionRule.id heq)
  by_cases hstatus : r.status.applicable = true
  · rw [if_pos hstatus, afterActivation]
    split
    · rename_i hsibling
      have hopen := mem_openSiblings.mpr
        ⟨mem_approved.mpr ⟨hr, hstatus⟩, hsibling.1, hsibling.2, hid⟩
      exact Table.mem_iff_get?.mp (hmem.mpr (.inr (.inl ⟨r, hopen, rfl⟩)))
    · rename_i hsibling
      refine Table.mem_iff_get?.mp (hmem.mpr (.inr (.inr ⟨hr, hne, fun hopen => hsibling ?_⟩)))
      exact ⟨(mem_openSiblings.mp hopen).2.1, (mem_openSiblings.mp hopen).2.2.1⟩
  · rw [if_neg hstatus]
    refine Table.mem_iff_get?.mp (hmem.mpr (.inr (.inr ⟨hr, hne, fun hopen => hstatus ?_⟩)))
    exact (mem_approved.mp (mem_openSiblings.mp hopen).1).2

lemma mem_raisedBy : x ∈ raisedBy m db now rule ↔
    x.1 ∈ governedBy m db now rule ∧ ∃ current,
      rate m db rule.country x.1.1 x.1.2 now = some current ∧ current.percent < rule.percent ∧
        x.2 = current.percent := by
  rw [raisedBy, raisedCells, List.mem_filterMap]
  constructor
  · rintro ⟨c, hc, hx⟩
    rw [raisedFrom, Option.bind_eq_some_iff] at hx
    obtain ⟨current, hrate, hx⟩ := hx
    split at hx
    · rename_i hlt
      cases hx
      exact ⟨hc, current, hrate, hlt, rfl⟩
    · cases hx
  · rintro ⟨hc, current, hrate, hlt, hold⟩
    refine ⟨x.1, hc, ?_⟩
    rw [raisedFrom, hrate, Option.bind_some, if_pos hlt, ← hold]

/-- A rule for all classes raises none of its cells or all of them, from one rate. -/
lemma raisedBy_of_all_classes (h : Kept m db) (hrule : Placed m rule) (hcountry : rule.country ≠ "")
    (hall : rule.vehicleType = none) (hx : x ∈ raisedBy m db now rule) :
    (raisedBy m db now rule).length = (governedBy m db now rule).length := by
  obtain ⟨hc, current, hrate, hlt, -⟩ := mem_raisedBy.mp hx
  have hmap : raisedBy m db now rule =
      (governedBy m db now rule).map fun c => (c, current.percent) := by
    rw [raisedBy, raisedCells]
    rw [← List.filterMap_eq_map]
    refine List.filterMap_congr fun c' hc' => ?_
    rw [raisedFrom, rate_uniform h hrule hcountry hall hc' hc, hrate, Option.bind_some, if_pos hlt]
    rfl
  rw [hmap, List.length_map]

lemma nodup_cities (country : String) (node : Option ℕ) : (m.cities country node).Nodup := by
  have hwithin : ∀ root : GeoNode, List.Nodup (List.map (fun n : GeoNode => some n.id)
      (m.nodes.rows.filter fun n => n.kind = .city && root.covers n) ++ [none]) := by
    intro root
    have hids : ((m.nodes.rows.filter fun (n : GeoNode) =>
        n.kind = .city && root.covers n).map (·.id)).Nodup := m.nodes.nodup.sublist (List.filter_sublist.map _)
    have hsome : ((m.nodes.rows.filter fun (n : GeoNode) =>
        n.kind = .city && root.covers n).map fun n => some n.id).Nodup := by
      have hmap := hids.map (Option.some_injective ℕ)
      rwa [List.map_map] at hmap
    refine List.nodup_append.mpr ⟨hsome, List.nodup_singleton _, fun a ha b hb heq => ?_⟩
    obtain ⟨n, -, rfl⟩ := List.mem_map.mp ha
    rw [List.mem_singleton.mp hb] at heq
    cases heq
  rw [Market.cities]
  dsimp only
  split
  · split
    · exact List.nodup_singleton _
    · exact hwithin _
  · split
    · exact hwithin _
    · exact List.nodup_singleton _

lemma filterMap_sublist {α : Type*} {f : α → Option α} (hf : ∀ a, f a = some a ∨ f a = none)
    (l : List α) : (l.filterMap f).Sublist l := by
  induction l with
  | nil => exact List.Sublist.slnil
  | cons a l ih =>
      rcases hf a with hsome | hnone
      · rw [List.filterMap_cons_some hsome]
        exact ih.cons_cons a
      · rw [List.filterMap_cons_none hnone]
        exact ih.cons a

lemma nodup_raisedBy {v : ℕ} (hclass : rule.vehicleType = some v) :
    ((raisedBy m db now rule).map (·.1)).Nodup := by
  have hgoverned : (governedBy m db now rule).Nodup := by
    rw [governedBy, governed]
    refine List.Nodup.filter _ ?_
    have hcells : ((m.cities rule.country rule.geoNode).flatMap fun city =>
        (m.classes rule.vehicleType).map fun v => ((city, v) : Cell)) =
        (m.cities rule.country rule.geoNode).map fun city => (city, some v) := by
      rw [hclass, Market.classes, List.map_eq_flatMap]
      rfl
    rw [hcells]
    exact (nodup_cities _ _).map fun a b heq => congrArg Prod.fst heq
  have hsub : ((raisedBy m db now rule).map (·.1)).Sublist (governedBy m db now rule) := by
    rw [raisedBy, raisedCells, List.map_filterMap]
    have hid : ∀ c : Cell, (raisedFrom m db rule.country rule.percent now c).map (·.1) = some c ∨
        (raisedFrom m db rule.country rule.percent now c).map (·.1) = none := by
      intro c
      rw [raisedFrom]
      cases rate m db rule.country c.1 c.2 now with
      | none => exact .inr rfl
      | some r =>
          rw [Option.bind_some]
          split
          · exact .inl rfl
          · exact .inr rfl
    exact filterMap_sublist hid _
  exact hgoverned.sublist hsub

lemma length_eq_one {l : List RaisedCell} (hnodup : (l.map (·.1)).Nodup) (hx : x ∈ l)
    (hsame : ∀ y ∈ l, y.1 = x.1) : l.length = 1 := by
  have hreplicate : l.map (·.1) = List.replicate l.length x.1 := by
    refine List.eq_replicate_iff.mpr ⟨List.length_map _, fun c hc => ?_⟩
    obtain ⟨y, hy, rfl⟩ := List.mem_map.mp hc
    exact hsame y hy
  rw [hreplicate, List.nodup_replicate] at hnodup
  exact le_antisymm hnodup (List.length_pos_of_mem hx)

lemma activate_eq_ok_iff (h : Kept m db) (hready : Ready m db now ruleId requestId rule) :
    activate m now ruleId requestId db = .ok db' ↔
      (raisedBy m db now rule = [] ∧ db' = db.written m now rule) ∨
      (raisedBy m db now rule ≠ [] ∧
        (raisedBy m (db.written m now rule) now rule = [] ∧ db' = db.written m now rule ∨
          raisedBy m (db.written m now rule) now rule ≠ [] ∧ ∃ target,
            targetsOf (governedBy m (db.written m now rule) now rule)
              (raisedBy m (db.written m now rule) now rule) rule.geoNode rule.vehicleType =
                [target] ∧
            db' = (db.written m now rule).withNotice rule (effectiveDate m db now rule)
              target)) := by
  have hnone : ∀ n ∈ (db.written m now rule).notices.rows, n.rule ≠ rule.id :=
    h.no_notice hready.activated
  have hincrease : isIncrease m db rule.country rule.geoNode rule.vehicleType rule.percent now =
      true ↔ raisedBy m db now rule ≠ [] := by
    rw [isIncrease, raisedBy]
    simp
  rw [activate, hready.unrefused, hready.get]
  dsimp only
  split
  · rename_i hraise
    have hne := hincrease.mp hraise
    rw [show db.activateRule rule (effectiveDate m db now rule) now = db.written m now rule from rfl,
      createNotices_ok hnone, noticeTargets]
    rw [show raisedCells m (db.written m now rule) rule.country rule.geoNode rule.vehicleType
      rule.percent now = raisedBy m (db.written m now rule) now rule from rfl]
    constructor
    · intro hcases
      refine .inr ⟨hne, ?_⟩
      split at hcases
      · rename_i hnil
        rcases hcases with ⟨-, hdb⟩ | ⟨_, hsingle, -⟩
        · exact .inl ⟨hnil, hdb⟩
        · cases hsingle
      · rename_i hsome
        rcases hcases with ⟨hnil, -⟩ | hsingle
        · exact absurd hnil targetsOf_ne_nil
        · exact .inr ⟨hsome, hsingle⟩
    · rintro (⟨hnil, -⟩ | ⟨-, ⟨hnil, hdb⟩ | ⟨hsome, hsingle⟩⟩)
      · exact absurd hnil hne
      · rw [if_pos hnil]
        exact .inl ⟨rfl, hdb⟩
      · rw [if_neg hsome]
        exact .inr hsingle
  · rename_i hraise
    have hnil : raisedBy m db now rule = [] := not_not.mp fun hne => hraise (hincrease.mpr hne)
    constructor
    · intro hok
      cases hok
      exact .inl ⟨hnil, rfl⟩
    · rintro (⟨-, rfl⟩ | ⟨hne, -⟩)
      · rfl
      · exact absurd hnil hne

/-- A ready rule of the books is activated as it is to be exactly when it is announceable. -/
theorem fulfilled_iff_announceable (h : Kept m db) (hready : Ready m db now ruleId requestId rule) :
    Fulfilled m db now ruleId requestId rule ↔ Announceable m db now rule := by
  have hact := hready.activated
  have hrule := h.placed rule hact.mem
  have hcountry : rule.country ≠ "" := fun heq => m.named (heq ▸ h.served rule hact.mem)
  have hnone : ∀ n ∈ (db.written m now rule).notices.rows, n.rule ≠ rule.id := h.no_notice hact
  constructor
  · rintro ⟨db', hok, -, -, htold⟩
    by_cases hraised : raisedBy m db now rule = []
    · exact .inl hraised
    · obtain ⟨x, hx⟩ := List.exists_mem_of_ne_nil _ hraised
      have hlt : now < effectiveDate m db now rule := by
        by_contra hge
        have heq : effectiveDate m db now rule = now :=
          le_antisymm (not_lt.mp hge) effectiveDate_ge
        have hempty := raisedBy_written_of_eq h hact hcountry heq
        rcases (activate_eq_ok_iff h hready).mp hok with
          ⟨hnil, -⟩ | ⟨-, ⟨-, rfl⟩ | ⟨hne, -⟩⟩
        · exact hraised hnil
        · obtain ⟨n, hn, hid, -⟩ := htold x hx
          exact hnone n hn hid
        · exact hne hempty
      obtain ⟨hgoverned, hsame⟩ := raisedBy_written_of_lt h hact hcountry hlt
      refine .inr ⟨(lt_effectiveDate_iff hraised).mp hlt, ?_⟩
      rcases (activate_eq_ok_iff h hready).mp hok with ⟨hnil, -⟩ | ⟨-, ⟨hnil, -⟩ | ⟨-, target, htarget, rfl⟩⟩
      · exact absurd hnil hraised
      · exact absurd (hsame ▸ hnil) hraised
      · rw [hsame, hgoverned] at htarget
        -- the one notice tells all the raised cells
        have htells : ∀ y ∈ raisedBy m db now rule, y.2 = target.2.2 ∧ m.covers
            ⟨(db.written m now rule).nextNotice, rule.id, rule.country, target.1, target.2.1,
              target.2.2, rule.percent, effectiveDate m db now rule⟩ y.1 = true := by
          intro y hy
          obtain ⟨n, hn, hid, hcovers, hold, -⟩ := htold y hy
          obtain rfl := (mem_withNotice _ _ _ hnone).mp ⟨hn, hid⟩
          exact ⟨hold.symm, hcovers⟩
        by_cases hlength : (raisedBy m db now rule).length = (governedBy m db now rule).length
        · exact .inr ⟨hlength, fun y hy z hz => (htells y hy).1.trans (htells z hz).1.symm⟩
        · refine .inl ?_
          cases hclass : rule.vehicleType with
          | none => exact absurd (raisedBy_of_all_classes h hrule hcountry hclass hx) hlength
          | some v =>
              have hsecond : ∀ y ∈ raisedBy m db now rule, y.1.2 = some v := by
                intro y hy
                have hc := ((mem_governedBy h hrule hcountry).mp (mem_raisedBy.mp hy).1).1.2
                rw [hclass, Market.classes] at hc
                exact List.mem_singleton.mp hc
              have hfirst : ∀ y ∈ raisedBy m db now rule, y.1.1 = x.1.1 := by
                rw [targetsOf_of_length_ne hlength] at htarget
                split at htarget
                · rename_i hfan
                  rw [fanOut_eq_nil_iff] at hfan
                  exact fun y hy => (hfan y hy).trans (hfan x hx).symm
                · have hmemFan : target ∈ fanOut (governedBy m db now rule)
                      (raisedBy m db now rule) rule.vehicleType := by
                    rw [htarget]
                    exact List.mem_singleton_self _
                  obtain ⟨city, hcity, z, hz, hzcity⟩ := mem_fanOut hmemFan
                  have hmem := ((mem_governedBy h hrule hcountry).mp (mem_raisedBy.mp hz).1).1.1
                  rw [hzcity] at hmem
                  obtain ⟨place, hget, hkind, hid⟩ := city_of_mem_cities hmem
                  have hall : ∀ y ∈ raisedBy m db now rule, y.1.1 = some city := fun y hy =>
                    ((covers_city_iff hget hkind hid hcity).mp (htells y hy).2).2
                  exact fun y hy => (hall y hy).trans (hall x hx).symm
              refine length_eq_one (nodup_raisedBy hclass) hx fun y hy => ?_
              exact Prod.ext (hfirst y hy) ((hsecond y hy).trans (hsecond x hx).symm)
  · intro hannounceable
    by_cases hraised : raisedBy m db now rule = []
    · refine ⟨db.written m now rule, (activate_eq_ok_iff h hready).mpr (.inl ⟨hraised, rfl⟩),
        (rules_written hact).1, (rules_written hact).2, fun x hx => ?_⟩
      rw [hraised] at hx
      cases hx
    · obtain ⟨hlater, hcells⟩ := hannounceable.resolve_left hraised
      have hlt := (lt_effectiveDate_iff hraised).mpr hlater
      obtain ⟨hgoverned, hsame⟩ := raisedBy_written_of_lt h hact hcountry hlt
      -- one notice is enough, and it covers every raised cell with its rate
      have htarget : ∃ target, targetsOf (governedBy m db now rule) (raisedBy m db now rule)
          rule.geoNode rule.vehicleType = [target] ∧ ∀ x ∈ raisedBy m db now rule,
            target.2.2 = x.2 ∧ m.covers
              ⟨(db.written m now rule).nextNotice, rule.id, rule.country, target.1, target.2.1,
                target.2.2, rule.percent, effectiveDate m db now rule⟩ x.1 = true := by
        have hown : ∀ x ∈ raisedBy m db now rule, ∀ old, m.covers
            ⟨(db.written m now rule).nextNotice, rule.id, rule.country, rule.geoNode,
              rule.vehicleType, old, rule.percent, effectiveDate m db now rule⟩ x.1 = true := by
          intro x hx old
          obtain ⟨hcity, hclass⟩ := ((mem_governedBy h hrule hcountry).mp (mem_raisedBy.mp hx).1).1
          exact covers_own hcity hclass
        rcases hcells with hone | ⟨hlength, holds⟩
        · obtain ⟨x, hx⟩ := List.length_eq_one_iff.mp hone
          have hsingle : ∃ target, targetsOf (governedBy m db now rule) [x] rule.geoNode
              rule.vehicleType = [target] ∧ target.2.2 = x.2 ∧
                ((target.1 = rule.geoNode ∧ target.2.1 = rule.vehicleType) ∨
                  ∃ city, x.1.1 = some city ∧ target.1 = some city ∧
                    (target.2.1 = rule.vehicleType ∨ target.2.1 = x.1.2)) := targetsOf_singleton
          obtain ⟨target, htarget, hold, hscope⟩ := hsingle
          refine ⟨target, by rw [hx]; exact htarget, fun y hy => ?_⟩
          have hyx : y = x := List.mem_singleton.mp (hx ▸ hy)
          subst hyx
          refine ⟨hold, ?_⟩
          rcases hscope with ⟨hnode, hclass⟩ | ⟨city, hcity, hnode, hclass⟩
          · rw [hnode, hclass]
            exact hown y hy _
          · have hmem := ((mem_governedBy h hrule hcountry).mp (mem_raisedBy.mp hy).1).1
            rw [hcity] at hmem
            obtain ⟨place, hget, hkind, hid⟩ := city_of_mem_cities hmem.1
            refine (covers_city_iff hget hkind hid hnode).mpr ⟨?_, hcity⟩
            rcases hclass with hclass | hclass
            · cases hv : rule.vehicleType with
              | none => exact .inl (hclass.trans hv)
              | some v =>
                  have hc := hmem.2
                  rw [hv, Market.classes, List.mem_singleton] at hc
                  exact .inr ((hclass.trans hv).trans hc.symm)
            · exact .inr hclass
        · obtain ⟨x, hx⟩ := List.exists_mem_of_ne_nil _ hraised
          refine ⟨_, targetsOf_of_same hraised (fun y hy => holds y hy x hx) hlength,
            fun y hy => ⟨holds x hx y hy, hown y hy _⟩⟩
      obtain ⟨target, htarget, htells⟩ := htarget
      refine ⟨(db.written m now rule).withNotice rule (effectiveDate m db now rule) target,
        (activate_eq_ok_iff h hready).mpr (.inr ⟨hraised, .inr ⟨hsame ▸ hraised, target, ?_, rfl⟩⟩),
        (rules_written hact).1, (rules_written hact).2, fun x hx => ?_⟩
      · rw [hsame, hgoverned]
        exact htarget
      · obtain ⟨hmem, hid⟩ := (mem_withNotice (db.written m now rule) (effectiveDate m db now rule) target
          hnone).mpr rfl
        exact ⟨_, hmem, hid, (htells x hx).2, (htells x hx).1,
          fun n' hn' hid' _ => (mem_withNotice _ _ _ hnone).mp ⟨hn', hid'⟩⟩

end Fulfilled

/-- In every history, a pending rule to which no refusal applies is activated as it is to be,
with one notice of its own rate for every raised cell, exactly when it is announceable. -/
theorem fulfilled_of_history (m : Market) (xs : List Move) (now : ℤ) (ruleId requestId : ℕ)
    (rule : CommissionRule)
    (hready : Ready m (Transition.run (step m) Office.opening xs).books now ruleId requestId rule) :
    Fulfilled m (Transition.run (step m) Office.opening xs).books now ruleId requestId rule ↔
      Announceable m (Transition.run (step m) Office.opening xs).books now rule :=
  fulfilled_iff_announceable
    (Transition.invariant (I := fun (s : Office) => Kept m s.books) (fun _ _ h => kept_step h) xs
      kept_opening) hready

/-! ## Examples -/

/-- India with two cities, and one vehicle class. -/
def india : Market where
  nodes := ⟨[⟨1, .country, "IN", "India", none, "IN/", .active⟩,
    ⟨2, .city, "IN-TG-HYD", "Hyderabad", none, "IN/IN-TG/IN-TG-HYD/", .active⟩,
    ⟨3, .city, "IN-TG-WGL", "Warangal", none, "IN/IN-TG/IN-TG-WGL/", .active⟩], by decide⟩
  vehicleTypes := [1]
  countries := ["IN"]
  named := by decide

def pricingHead : Actor := ⟨fun _ => true, fun _ => true⟩

/-- The operations that bring a rule into force. -/
def enacted (ruleId : ℕ) (d : Draft) : List Move :=
  [⟨1, .draft pricingHead d⟩, ⟨1, .submit pricingHead ruleId "" (.ok ⟨ruleId, false⟩)⟩,
    ⟨1, .approve ruleId ruleId⟩]

/-- A country at 15 percent, two cities at 10 and 11, and a pending 16 percent for class 1. -/
def sedanRaise : List Move :=
  enacted 1 ⟨"IN", "", none, some .percentage, some 1500, none, "first rate"⟩ ++
    enacted 2 ⟨"IN", "IN-TG-HYD", none, some .percentage, some 1000, none, "launch"⟩ ++
    enacted 3 ⟨"IN", "IN-TG-WGL", none, some .percentage, some 1100, none, "launch"⟩ ++
    [⟨1, .draft pricingHead ⟨"IN", "", some 1, some .percentage, some 1600, none, "sedans"⟩⟩,
      ⟨1, .submit pricingHead 4 "" (.ok ⟨4, false⟩)⟩]

def sedanRule : CommissionRule :=
  ⟨4, "IN", some 1, some 1, .percentage, 1600, .pendingApproval, 1, 10 + 7 * day, none, "sedans",
    some 4, some 11, none, false⟩

lemma ready_sedanRule :
    Ready india (Transition.run (step india) Office.opening sedanRaise).books 12 4 4 sedanRule :=
  ⟨by decide +kernel, by decide +kernel⟩

/-- The two cities would need two notices, and the activation fails. -/
theorem not_fulfilled_sedanRule :
    Ready india (Transition.run (step india) Office.opening sedanRaise).books 12 4 4 sedanRule ∧
      ¬ Fulfilled india (Transition.run (step india) Office.opening sedanRaise).books 12 4 4
        sedanRule := by
  refine ⟨ready_sedanRule, ?_⟩
  rintro ⟨db', hok, -⟩
  have hfails : (activate india 12 4 4
      (Transition.run (step india) Office.opening sedanRaise).books).isOk = false := by
    decide +kernel
  rw [hok] at hfails
  cases hfails

/-- A country at 15 percent, and a pending 18 percent. -/
def countryRaise : List Move :=
  enacted 1 ⟨"IN", "", none, some .percentage, some 1500, none, "first rate"⟩ ++
    [⟨1, .draft pricingHead ⟨"IN", "", none, some .percentage, some 1800, none, "raise"⟩⟩,
      ⟨1, .submit pricingHead 2 "" (.ok ⟨2, false⟩)⟩]

def countryRule : CommissionRule :=
  ⟨2, "IN", some 1, none, .percentage, 1800, .pendingApproval, 2, 4 + 7 * day, none, "raise",
    some 2, some 5, none, false⟩

/-- Six cells rise from one rate, and one notice tells them. -/
theorem fulfilled_countryRule :
    Fulfilled india (Transition.run (step india) Office.opening countryRaise).books 6 2 2
        countryRule ∧
      (raisedBy india (Transition.run (step india) Office.opening countryRaise).books 6
        countryRule).length = 6 :=
  ⟨(fulfilled_of_history india countryRaise 6 2 2 countryRule
    ⟨by decide +kernel, by decide +kernel⟩).mpr (by decide +kernel), by decide +kernel⟩

end SaaradhiGo.Commission
