/-
The windows of the rules, over any history of drafts, submissions and activations.

Of the rules of one scope at most one is in force at a moment, and the rule of a scope is
followed at once by the next.  An activation ends the rule before it and starts a new one no
earlier than the moment of approval, so that what governed before that moment still does.
-/
import SaaradhiGo.Commission.Workflow

namespace SaaradhiGo.Commission

open AdminAccess

def Books.approved (db : Books) : List CommissionRule :=
  db.rules.rows.filter fun r => r.status.applicable

/-- The rule stands at the node of its country or at a city. -/
def Placed (m : Market) (r : CommissionRule) : Prop :=
  r.geoNode = (m.countryNode r.country).map (·.id) ∨ m.isCity r = true

/-- What every history of the workflow keeps. -/
structure Kept (m : Market) (db : Books) : Prop where
  fresh : ∀ r ∈ db.rules.rows, 0 < r.id ∧ r.id < db.nextRule
  positive : 0 < db.nextRule
  served : ∀ r ∈ db.rules.rows, r.country ∈ m.countries
  placed : ∀ r ∈ db.rules.rows, Placed m r
  percentage : ∀ r ∈ db.rules.rows, r.kind = .percentage
  unended : ∀ r ∈ db.rules.rows, r.status.applicable = false → r.effectiveTo = none
  successive : Successive CommissionRule.scope CommissionRule.window db.approved
  lasting : ∀ r ∈ db.approved, ∃ o ∈ db.approved, o.scope = r.scope ∧ o.effectiveTo = none
  touching : ∀ r ∈ db.approved, ∀ e ∈ r.effectiveTo,
    ∃ s ∈ db.approved, s.scope = r.scope ∧ s.effectiveFrom = e
  noticed : ∀ n ∈ db.notices.rows, n.id < db.nextNotice ∧ ∃ r ∈ db.approved, r.id = n.rule

section Rates

variable {m : Market} {db db' : Books} {country : String} {city vehicleType : Option ℕ} {t : ℤ}
  {r r' : CommissionRule}

lemma mem_approved : r ∈ db.approved ↔ r ∈ db.rules.rows ∧ r.status.applicable = true := by
  rw [Books.approved, List.mem_filter]

lemma InForce.approved (h : InForce m db country city vehicleType t r) : r ∈ db.approved :=
  mem_approved.mpr ⟨h.mem, (CommissionRule.appliesAt_iff.mp h.applies).1⟩

lemma InForce.contains (h : InForce m db country city vehicleType t r) : r.window.Contains t :=
  (CommissionRule.appliesAt_iff.mp h.applies).2

lemma InForce.of_approved (hr : r ∈ db.approved) (hcountry : r.country = country)
    (hkind : r.kind = .percentage) (ht : r.window.Contains t)
    (hmatch : m.matchesCell r city vehicleType = true) :
    InForce m db country city vehicleType t r := by
  obtain ⟨hmem, hstatus⟩ := mem_approved.mp hr
  exact ⟨hmem, hcountry, hkind, CommissionRule.appliesAt_iff.mpr ⟨hstatus, ht⟩, hmatch⟩

lemma matchesCell_iff : m.matchesCell r city vehicleType = true ↔
    (m.isCity r = true → r.geoNode = city) ∧
      (r.vehicleType = none ∨ r.vehicleType = vehicleType) := by
  rw [Market.matchesCell]
  cases m.isCity r <;> simp

lemma scope_eq_of_specificity (hr : Placed m r) (hr' : Placed m r')
    (hcountry : r.country = r'.country) (hmatch : m.matchesCell r city vehicleType = true)
    (hmatch' : m.matchesCell r' city vehicleType = true)
    (hspec : m.specificity r = m.specificity r') : r.scope = r'.scope := by
  obtain ⟨hcity, hvt⟩ := matchesCell_iff.mp hmatch
  obtain ⟨hcity', hvt'⟩ := matchesCell_iff.mp hmatch'
  rw [Market.specificity, Market.specificity] at hspec
  have hboth : (r.vehicleType.isSome ↔ r'.vehicleType.isSome) ∧ m.isCity r = m.isCity r' := by
    cases hv : r.vehicleType.isSome <;> cases hv' : r'.vehicleType.isSome <;>
      cases hc : m.isCity r <;> cases hc' : m.isCity r' <;> simp [hv, hv', hc, hc'] at hspec ⊢
  have hvehicle : r.vehicleType = r'.vehicleType := by
    cases hv : r.vehicleType with
    | none =>
        cases hv' : r'.vehicleType with
        | none => rfl
        | some v =>
            have hsome := hboth.1.mpr (by rw [hv']; rfl)
            rw [hv] at hsome
            cases hsome
    | some v =>
        have hsome := hboth.1.mp (by rw [hv]; rfl)
        have h := hvt.resolve_left (by rw [hv]; simp)
        have h' := hvt'.resolve_left (Option.isSome_iff_ne_none.mp hsome)
        rw [h', ← h, hv]
  have hnode : r.geoNode = r'.geoNode := by
    cases hc : m.isCity r with
    | true => rw [hcity hc, hcity' (hboth.2 ▸ hc)]
    | false =>
        have hc' : m.isCity r' = false := hboth.2 ▸ hc
        rw [hr.resolve_right (by simp [hc]), hr'.resolve_right (by simp [hc']), hcountry]
  rw [CommissionRule.scope, CommissionRule.scope, hcountry, hnode, hvehicle]

/-- No two rules that are in force for a cell are as specific. -/
lemma Kept.eq_of_specificity (h : Kept m db) (hr : InForce m db country city vehicleType t r)
    (hr' : InForce m db country city vehicleType t r') (hspec : m.specificity r = m.specificity r') :
    r = r' := by
  have hscope := scope_eq_of_specificity (h.placed r hr.mem) (h.placed r' hr'.mem)
    (hr.country_eq.trans hr'.country_eq.symm) hr.matches_cell hr'.matches_cell hspec
  exact h.successive.eq_of_contains hr.approved hr'.approved hscope hr.contains hr'.contains

lemma specificity_eq_of_key (hkey : m.key r = m.key r') : m.specificity r = m.specificity r' := by
  rw [Market.key, Market.key] at hkey
  exact congrArg Prod.fst (toLex.injective hkey)

lemma specificity_le_of_key (hkey : m.key r ≤ m.key r') : m.specificity r ≤ m.specificity r' := by
  have hlex : (toLex (m.specificity r, toLex (r.effectiveFrom, r.version)) : ℕ ×ₗ ℤ ×ₗ ℕ) ≤
      toLex (m.specificity r', toLex (r'.effectiveFrom, r'.version)) := hkey
  rw [Prod.Lex.toLex_le_toLex] at hlex
  rcases hlex with hlt | ⟨heq, -⟩
  · exact hlt.le
  · exact heq.le

/-- Specificity alone decides which rule governs. -/
theorem Kept.rate_eq_some_iff (h : Kept m db) (hcountry : country ≠ "") :
    rate m db country city vehicleType t = some r ↔
      InForce m db country city vehicleType t r ∧
        ∀ r', InForce m db country city vehicleType t r' →
          m.specificity r' ≤ m.specificity r := by
  constructor
  · intro hrate
    obtain ⟨hforce, hmax⟩ := inForce_of_rate hrate
    exact ⟨hforce, fun r' hr' => specificity_le_of_key (hmax r' hr')⟩
  · rintro ⟨hforce, hmax⟩
    obtain ⟨r', hr'⟩ := exists_rate hcountry hforce
    obtain ⟨hforce', hmax'⟩ := inForce_of_rate hr'
    have hspec := le_antisymm (specificity_le_of_key (hmax' r hforce)) (hmax r' hforce')
    rw [hr', h.eq_of_specificity hforce hforce' hspec]

lemma Kept.key_injective (h : Kept m db) :
    ∀ x ∈ (db.effective country t).filter (fun r => m.matchesCell r city vehicleType),
      ∀ y ∈ (db.effective country t).filter (fun r => m.matchesCell r city vehicleType),
        m.key x = m.key y → x = y := fun _ hx _ hy hkey =>
  h.eq_of_specificity (mem_filter_effective.mp hx) (mem_filter_effective.mp hy)
    (specificity_eq_of_key hkey)

/-- A list of the approved rules of the country, in any order, resolves as the rows do. -/
theorem Kept.resolve_preloaded (h : Kept m db) {rules : List CommissionRule}
    (hrules : ∀ r, r ∈ rules ↔ r ∈ db.applicable country) :
    resolve m db country city vehicleType t none (some rules) =
      rate m db country city vehicleType t := by
  by_cases hcountry : country = ""
  · rw [rate, resolve, resolve, if_pos hcountry, if_pos hcountry]
  · rw [rate_eq hcountry, resolve, if_neg hcountry]
    refine (List.argmax_eq_of_mem_iff (fun x => ?_) h.key_injective).symm
    rw [mem_filter_effective, List.mem_filter, overridden, Books.inForce, List.mem_filter, hrules,
      Books.applicable, List.mem_filter]
    constructor
    · rintro ⟨hmem, hc, hkind, happlies, hmatch⟩
      have hstatus := (CommissionRule.appliesAt_iff.mp happlies).1
      exact ⟨⟨⟨hmem, by simp [hc, hstatus]⟩, by simp [hkind, happlies]⟩, hmatch⟩
    · rintro ⟨⟨⟨hmem, hread⟩, happlies⟩, hmatch⟩
      simp only [Bool.and_eq_true, decide_eq_true_eq] at hread happlies
      exact ⟨hmem, hread.1, happlies.1, happlies.2, hmatch⟩

lemma Kept.rate_congr (h : Kept m db)
    (hsame : ∀ r, InForce m db country city vehicleType t r ↔
      InForce m db' country city vehicleType t r) :
    rate m db' country city vehicleType t = rate m db country city vehicleType t := by
  by_cases hcountry : country = ""
  · rw [rate, resolve, rate, resolve, if_pos hcountry, if_pos hcountry]
  · rw [rate_eq hcountry, rate_eq hcountry]
    refine (List.argmax_eq_of_mem_iff (fun x => ?_) h.key_injective).symm
    rw [mem_filter_effective, mem_filter_effective]
    exact hsame x

end Rates

/-! ## Writes that no rate sees -/

/-- The two states have the same approved rules and the same notices. -/
structure SameApproved (db db' : Books) : Prop where
  mem_iff : ∀ r, r ∈ db'.approved ↔ r ∈ db.approved
  notices : db'.notices = db.notices

section Quiet

variable {m : Market} {db db' : Books} {country : String} {city vehicleType : Option ℕ} {t : ℤ}
  {x : CommissionRule}

lemma SameApproved.inForce (h : SameApproved db db') (r : CommissionRule) :
    InForce m db country city vehicleType t r ↔ InForce m db' country city vehicleType t r :=
  ⟨fun hr => .of_approved ((h.mem_iff r).mpr hr.approved) hr.country_eq hr.kind hr.contains hr.matches_cell,
    fun hr => .of_approved ((h.mem_iff r).mp hr.approved) hr.country_eq hr.kind hr.contains hr.matches_cell⟩

lemma Kept.of_sameApproved (h : Kept m db) (hsame : SameApproved db db')
    (hnext : db.nextRule ≤ db'.nextRule) (hnextNotice : db'.nextNotice = db.nextNotice)
    (hrows : ∀ r ∈ db'.rules.rows, r ∈ db.rules.rows ∨
      ((0 < r.id ∧ r.id < db'.nextRule) ∧ r.country ∈ m.countries ∧ Placed m r ∧
        r.kind = .percentage ∧ r.effectiveTo = none)) : Kept m db' := by
  refine ⟨fun r hr => ?_, h.positive.trans_le hnext, fun r hr => ?_, fun r hr => ?_,
    fun r hr => ?_, fun r hr hstatus => ?_, ⟨fun r hr s hs => ?_, fun r hr => ?_⟩, fun r hr => ?_,
    fun r hr e he => ?_, fun n hn => ?_⟩
  · rcases hrows r hr with hold | ⟨hid, -⟩
    · exact ⟨(h.fresh r hold).1, (h.fresh r hold).2.trans_le hnext⟩
    · exact hid
  · rcases hrows r hr with hold | ⟨-, hc, -⟩
    · exact h.served r hold
    · exact hc
  · rcases hrows r hr with hold | ⟨-, -, hp, -⟩
    · exact h.placed r hold
    · exact hp
  · rcases hrows r hr with hold | ⟨-, -, -, hk, -⟩
    · exact h.percentage r hold
    · exact hk
  · rcases hrows r hr with hold | ⟨-, -, -, -, hu⟩
    · exact h.unended r hold hstatus
    · exact hu
  · exact h.successive.apart r ((hsame.mem_iff r).mp hr) s ((hsame.mem_iff s).mp hs)
  · exact h.successive.proper r ((hsame.mem_iff r).mp hr)
  · obtain ⟨o, ho, hscope⟩ := h.lasting r ((hsame.mem_iff r).mp hr)
    exact ⟨o, (hsame.mem_iff o).mpr ho, hscope⟩
  · obtain ⟨s, hs, hscope⟩ := h.touching r ((hsame.mem_iff r).mp hr) e he
    exact ⟨s, (hsame.mem_iff s).mpr hs, hscope⟩
  · rw [hsame.notices] at hn
    obtain ⟨hlt, r, hr, hid⟩ := h.noticed n hn
    rw [hnextNotice]
    exact ⟨hlt, r, (hsame.mem_iff r).mpr hr, hid⟩

lemma sameApproved_put (hx : x.status.applicable = false)
    (hold : ∀ r ∈ db.rules.rows, r.id = x.id → r.status.applicable = false)
    (hrules : db'.rules = db.rules.put x) (hnotices : db'.notices = db.notices) :
    SameApproved db db' := by
  refine ⟨fun r => ?_, hnotices⟩
  rw [mem_approved, mem_approved, hrules, Table.mem_put]
  constructor
  · rintro ⟨rfl | ⟨hr, -⟩, hstatus⟩
    · rw [hx] at hstatus
      cases hstatus
    · exact ⟨hr, hstatus⟩
  · rintro ⟨hr, hstatus⟩
    refine ⟨.inr ⟨hr, fun hid => ?_⟩, hstatus⟩
    rw [hold r hr hid] at hstatus
    cases hstatus

lemma Kept.rewrite {rule : CommissionRule} (h : Kept m db) (hget : db.rules.get? x.id = some rule)
    (hstatus : rule.status.applicable = false) (hx : x.status.applicable = false)
    (hscope : x.scope = rule.scope) (hkind : x.kind = rule.kind)
    (hstop : x.effectiveTo = rule.effectiveTo) :
    Kept m { db with rules := db.rules.put x } ∧
      SameApproved db { db with rules := db.rules.put x } := by
  obtain ⟨hmem, hid⟩ := Table.mem_of_get? hget
  have hsame : SameApproved db { db with rules := db.rules.put x } := by
    refine sameApproved_put hx (fun r hr hrid => ?_) rfl rfl
    have hget' := Table.mem_iff_get?.mp hr
    rw [hrid, hget] at hget'
    cases hget'
    exact hstatus
  rw [CommissionRule.scope, CommissionRule.scope, Prod.mk.injEq, Prod.mk.injEq] at hscope
  obtain ⟨hcountry, hnode, -⟩ := hscope
  have hplaced : Placed m x := by
    have hp := h.placed rule hmem
    rw [Placed, Market.isCity, Market.nodeOf] at hp ⊢
    rw [hnode, hcountry]
    exact hp
  refine ⟨h.of_sameApproved hsame (le_refl _) rfl fun r hr => ?_, hsame⟩
  rcases Table.mem_put.mp hr with rfl | ⟨hr, -⟩
  · exact .inr ⟨hid ▸ h.fresh rule hmem, hcountry ▸ h.served rule hmem, hplaced,
      hkind.trans (h.percentage rule hmem), hstop.trans (h.unended rule hmem hstatus)⟩
  · exact .inl hr

lemma except_bind_eq_ok {ε α β : Type} {a : Except ε α} {f : α → Except ε β} {b : β} :
    a.bind f = .ok b ↔ ∃ x, a = .ok x ∧ f x = .ok b := by
  cases a <;> simp [Except.bind]

lemma placed_of_resolveScope {actor : Actor} {cityCode : String} {place : Option GeoNode}
    (h : m.resolveScope actor country cityCode vehicleType = .ok place) :
    country ∈ m.countries ∧ ∀ r : CommissionRule, r.country = country →
      r.geoNode = place.map (·.id) → Placed m r := by
  rw [Market.resolveScope] at h
  split at h
  · cases h
  · rename_i hcountry
    rw [except_bind_eq_ok] at h
    obtain ⟨node, hnode, hrest⟩ := h
    have hplace : node = place := by
      split at hrest
      · cases hrest
      · split at hrest <;> cases hrest
        rfl
    subst hplace
    refine ⟨not_not.mp hcountry, fun r hrc hrn => ?_⟩
    rw [Market.scopeNode] at hnode
    split at hnode
    · split at hnode
      · rename_i n c hn hc
        split at hnode
        · cases hnode
          have hcity : n.kind = .city := by
            have hfound := List.find?_some hn
            simp only [Bool.and_eq_true, decide_eq_true_eq] at hfound
            exact hfound.1.1
          refine .inr ?_
          rw [Market.isCity, Market.nodeOf, hrn, Option.map_some, Option.bind_some,
            Table.mem_iff_get?.mp (List.mem_of_find?_eq_some hn), Option.any_some, hcity]
          rfl
        · cases hnode
      · cases hnode
    · split at hnode
      · rename_i hc
        cases hnode
        exact .inl (by rw [hrn, hrc, hc])
      · rename_i c hc
        split at hnode
        · cases hnode
          exact .inl (by rw [hrn, hrc, hc])
        · cases hnode

lemma kept_createDraft {now : ℤ} {actor : Actor} {d : Draft} (h : Kept m db)
    (hok : createDraft m now actor d db = .ok db') : Kept m db' ∧ SameApproved db db' := by
  rw [createDraft, except_bind_eq_ok] at hok
  obtain ⟨place, hplace, hok⟩ := hok
  obtain ⟨hserved, hplaced⟩ := placed_of_resolveScope hplace
  dsimp only at hok
  split at hok
  · cases hok
  · split at hok
    · rw [except_bind_eq_ok] at hok
      obtain ⟨-, -, hok⟩ := hok
      cases hok
    · split at hok
      · cases hok
      · rename_i percent hpercent
        split at hok
        · cases hok
        · rw [except_bind_eq_ok] at hok
          obtain ⟨-, -, hok⟩ := hok
          split at hok
          · cases hok
          · cases hok
            have hsame : SameApproved db (db.insertDraft d (place.map (·.id)) percent
                (d.effectiveFrom.getD (defaultDate m db d.country (place.map (·.id))
                  d.vehicleType percent now))) :=
              sameApproved_put rfl
                (fun r hr hid => absurd hid (h.fresh r hr).2.ne) rfl rfl
            refine ⟨h.of_sameApproved hsame (Nat.le_succ _) rfl fun r hr => ?_, hsame⟩
            rcases Table.mem_put.mp hr with rfl | ⟨hr, -⟩
            · exact .inr ⟨⟨h.positive, Nat.lt_succ_self _⟩, hserved, hplaced _ rfl rfl, rfl, rfl⟩
            · exact .inl hr

lemma kept_updateDraft {now : ℤ} {ruleId : ℕ} {percent effectiveFrom : Option ℤ} {reason : String}
    (h : Kept m db) (hok : updateDraft m now ruleId percent effectiveFrom reason db = .ok db') :
    Kept m db' ∧ SameApproved db db' := by
  rw [updateDraft] at hok
  split at hok
  · cases hok
  · rename_i rule hget
    split at hok
    · cases hok
    · rename_i hstatus
      have hdraft : rule.status.applicable = false := by rw [not_not.mp hstatus]; rfl
      dsimp only at hok
      rw [except_bind_eq_ok] at hok
      obtain ⟨-, -, hok⟩ := hok
      cases hok
      have hget' : db.rules.get? rule.id = some rule := by rw [Table.pk_of_get? hget, hget]
      exact h.rewrite hget' hdraft hdraft rfl rfl rfl

lemma kept_discardDraft {ruleId : ℕ} (h : Kept m db) (hok : discardDraft ruleId db = .ok db') :
    Kept m db' ∧ SameApproved db db' := by
  rw [discardDraft] at hok
  split at hok
  · cases hok
  · rename_i rule hget
    split at hok
    · cases hok
    · rename_i hstatus
      cases hok
      have hsame : SameApproved db { db with rules := db.rules.erase ruleId } := by
        refine ⟨fun r => ?_, rfl⟩
        rw [mem_approved, mem_approved, Table.mem_erase]
        constructor
        · rintro ⟨⟨hr, -⟩, happlicable⟩
          exact ⟨hr, happlicable⟩
        · rintro ⟨hr, happlicable⟩
          refine ⟨⟨hr, ?_⟩, happlicable⟩
          rintro rfl
          rw [Table.mem_iff_get?.mp hr] at hget
          cases hget
          rw [not_not.mp hstatus] at happlicable
          cases happlicable
      exact ⟨h.of_sameApproved hsame (le_refl _) rfl
        fun r hr => .inl (Table.mem_erase.mp hr).1, hsame⟩

lemma SameApproved.refl (db : Books) : SameApproved db db := ⟨fun _ => Iff.rfl, rfl⟩

lemma kept_submit {now : ℤ} {actor : Actor} {ruleId : ℕ} {reason : String}
    {answer : Except String Outcome} (h : Kept m db)
    (hok : submit m now actor ruleId reason answer db = .ok db') :
    Kept m db' ∧ SameApproved db db' := by
  rw [submit] at hok
  split at hok
  · cases hok
  · rename_i rule hget
    split at hok
    · cases hok
    · rename_i hstatus
      have hdraft : rule.status.applicable = false := by rw [not_not.mp hstatus]; rfl
      rw [except_bind_eq_ok] at hok
      obtain ⟨place, -, hok⟩ := hok
      dsimp only at hok
      rw [except_bind_eq_ok] at hok
      obtain ⟨-, -, hok⟩ := hok
      generalize (if reason = "" then rule.reason else reason) = why at hok
      split at hok
      · cases hok
      · rw [except_bind_eq_ok] at hok
        obtain ⟨outcome, -, hok⟩ := hok
        split at hok
        · cases hok
          exact ⟨h, .refl _⟩
        · cases hok
          have hget' : db.rules.get? rule.id = some rule := by rw [Table.pk_of_get? hget, hget]
          exact h.rewrite hget' hdraft rfl rfl rfl rfl

lemma kept_requestClosed {ruleId requestId : ℕ} (h : Kept m db) :
    Kept m (requestClosed ruleId requestId db) ∧
      SameApproved db (requestClosed ruleId requestId db) := by
  rw [requestClosed]
  split
  · exact ⟨h, .refl _⟩
  · rename_i rule hget
    split
    · rename_i hpending
      simp only [Bool.and_eq_true, decide_eq_true_eq] at hpending
      have hget' : db.rules.get? rule.id = some rule := by rw [Table.pk_of_get? hget, hget]
      have hstatus : rule.status.applicable = false := by rw [hpending.1]; rfl
      exact h.rewrite (x := { rule with status := .draft }) hget' hstatus rfl rfl rfl rfl
    · exact ⟨h, .refl _⟩

lemma kept_applyCountryConfig {noticeDays baseVersion : ℕ} {maxPercent : Option ℤ}
    (h : Kept m db) :
    Kept m (applyCountryConfig country noticeDays maxPercent baseVersion db) ∧
      SameApproved db (applyCountryConfig country noticeDays maxPercent baseVersion db) := by
  rw [applyCountryConfig]
  split
  · exact ⟨h.of_sameApproved ⟨fun _ => Iff.rfl, rfl⟩ (le_refl _) rfl fun r hr => .inl hr, ⟨fun _ => Iff.rfl, rfl⟩⟩
  · exact ⟨h, .refl _⟩

end Quiet

/-! ## Activation -/

section Activation

variable {m : Market} {db db' : Books} {country : String} {city vehicleType : Option ℕ} {t : ℤ}
  {now eff : ℤ} {ruleId requestId : ℕ} {rule r x : CommissionRule}

lemma mem_openSiblings : r ∈ db.openSiblings rule ↔
    r ∈ db.approved ∧ r.scope = rule.scope ∧ r.effectiveTo = none ∧ r.id ≠ rule.id := by
  rw [Books.openSiblings, List.mem_filter, mem_approved]
  simp only [Bool.and_eq_true, decide_eq_true_eq, Option.isNone_iff_eq_none]
  constructor
  · rintro ⟨hmem, ⟨⟨hscope, hstatus⟩, hstop⟩, hid⟩
    exact ⟨⟨hmem, hstatus⟩, hscope, hstop, hid⟩
  · rintro ⟨⟨hmem, hstatus⟩, hscope, hstop, hid⟩
    exact ⟨hmem, ⟨⟨hscope, hstatus⟩, hstop⟩, hid⟩

lemma effectiveDate_ge : now ≤ effectiveDate m db now rule := by
  rw [effectiveDate]
  split <;> omega

/-- An activation is refused by none of its checks. -/
lemma refusal_eq_none_iff : refusal m db now ruleId requestId = none ↔
    ∃ rule, db.rules.get? ruleId = some rule ∧ rule.status = .pendingApproval ∧
      rule.approvalRequestId = some requestId ∧ rule.kind = .percentage ∧
      db.aboveCap rule.country rule.percent = false ∧
      ∀ prev ∈ db.openSiblings rule, prev.effectiveFrom < effectiveDate m db now rule := by
  rw [refusal]
  cases hget : db.rules.get? ruleId with
  | none => simp
  | some rule =>
      dsimp only
      constructor
      · intro h
        split at h
        · cases h
        · rename_i hpending
          split at h
          · cases h
          · rename_i hkind
            split at h
            · cases h
            · rename_i hcap
              split at h
              · cases h
              · rename_i hprev
                simp only [Bool.or_eq_true, decide_eq_true_eq, not_or, not_not] at hpending
                refine ⟨rule, rfl, hpending.1, hpending.2, not_not.mp hkind,
                  Bool.eq_false_iff.mpr hcap, fun prev hmem => ?_⟩
                by_contra hle
                exact hprev (List.any_eq_true.mpr ⟨prev, hmem, by simpa using hle⟩)
      · rintro ⟨_, hrule, hstatus, hrequest, hkind, hcap, hprev⟩
        cases hrule
        have hany : ((db.openSiblings rule).any fun prev =>
            decide (effectiveDate m db now rule ≤ prev.effectiveFrom)) = false := by
          rw [List.any_eq_false]
          intro prev hmem hle
          have hlt := hprev prev hmem
          simp only [decide_eq_true_eq] at hle
          omega
        simp [hstatus, hrequest, hkind, hcap, hany]

lemma createNotice_spec {targets : List Target}
    (h : targets.foldlM (Books.createNotice rule eff) db = .ok db') :
    db'.rules = db.rules ∧ db'.nextRule = db.nextRule ∧ db'.configs = db.configs ∧
      ((∀ n ∈ db.notices.rows, n.id < db.nextNotice) →
        ∀ n ∈ db'.notices.rows, n.id < db'.nextNotice ∧ (n ∈ db.notices.rows ∨ n.rule = rule.id)) := by
  refine Fallible.foldlM_spec (s := db) (I := fun (s : Books) (_ : List Target) =>
    s.rules = db.rules ∧ s.nextRule = db.nextRule ∧ s.configs = db.configs ∧
      ((∀ n ∈ db.notices.rows, n.id < db.nextNotice) → ∀ n ∈ s.notices.rows,
        n.id < s.nextNotice ∧ (n ∈ db.notices.rows ∨ n.rule = rule.id)))
    (fun s a as s' hI hstep => ?_) ⟨rfl, rfl, rfl, fun hlt n hn => ⟨hlt n hn, .inl hn⟩⟩ h
  rw [Books.createNotice] at hstep
  split at hstep
  · cases hstep
  · cases hstep
    refine ⟨hI.1, hI.2.1, hI.2.2.1, fun hlt n hn => ?_⟩
    rcases Table.mem_put.mp hn with rfl | ⟨hn, -⟩
    · exact ⟨Nat.lt_succ_self _, .inr rfl⟩
    · obtain ⟨hlt', hor⟩ := hI.2.2.2 hlt n hn
      exact ⟨Nat.lt_succ_of_lt hlt', hor⟩

/-- What an activation that goes through does. -/
theorem activate_ok (h : activate m now ruleId requestId db = .ok db') :
    ∃ rule, db.rules.get? ruleId = some rule ∧ rule.status = .pendingApproval ∧
      (∀ prev ∈ db.openSiblings rule, prev.effectiveFrom < effectiveDate m db now rule) ∧
      db'.rules = (db.activateRule rule (effectiveDate m db now rule) now).rules ∧
      db'.nextRule = db.nextRule ∧
      ((∀ n ∈ db.notices.rows, n.id < db.nextNotice) → ∀ n ∈ db'.notices.rows,
        n.id < db'.nextNotice ∧ (n ∈ db.notices.rows ∨ n.rule = rule.id)) := by
  rw [activate] at h
  split at h
  · cases h
  · cases h
  · rename_i rule hrefusal hget
    obtain ⟨rule', hget', hstatus, -, -, -, hprev⟩ := refusal_eq_none_iff.mp hrefusal
    rw [hget] at hget'
    cases hget'
    refine ⟨rule, hget, hstatus, hprev, ?_⟩
    dsimp only at h
    split at h
    · obtain ⟨hrules, hnext, -, hnotices⟩ := createNotice_spec h
      exact ⟨hrules, hnext, hnotices⟩
    · cases h
      exact ⟨rfl, rfl, fun hlt n hn => ⟨hlt n hn, .inl hn⟩⟩

def afterActivation (rule : CommissionRule) (eff : ℤ) (r : CommissionRule) : CommissionRule :=
  if r.scope = rule.scope ∧ r.effectiveTo = none then r.superseded eff else r

lemma mem_activateRule (hstatus : rule.status.applicable = false) (hmem : rule ∈ db.rules.rows) :
    x ∈ (db.activateRule rule eff now).rules.rows ↔ x = rule.activated eff now ∨
      (∃ s ∈ db.openSiblings rule, x = s.superseded eff) ∨
      (x ∈ db.rules.rows ∧ x ≠ rule ∧ x ∉ db.openSiblings rule) := by
  have hunique : ∀ {a b : CommissionRule}, a ∈ db.rules.rows → b ∈ db.rules.rows → a.id = b.id →
      a = b := by
    intro a b ha hb hid
    have hget := Table.mem_iff_get?.mp ha
    rw [hid, Table.mem_iff_get?.mp hb] at hget
    exact (Option.some.inj hget).symm
  have hrows : ∀ {s}, s ∈ db.openSiblings rule → s ∈ db.rules.rows := fun hs =>
    (mem_approved.mp (mem_openSiblings.mp hs).1).1
  have hnodup : ((db.openSiblings rule).map (·.id)).Nodup :=
    db.rules.nodup.sublist (List.filter_sublist.map _)
  rw [Books.activateRule]
  dsimp only
  rw [Table.mem_put, Table.mem_foldl_put (f := fun s => s.superseded eff) (fun _ => rfl) hnodup]
  refine or_congr_right ⟨?_, ?_⟩
  · rintro ⟨⟨s, hs, rfl⟩ | ⟨hx, hother⟩, hid⟩
    · exact .inl ⟨s, hs, rfl⟩
    · refine .inr ⟨hx, ?_, fun hs => hother x hs rfl⟩
      rintro rfl
      exact hid rfl
  · rintro (⟨s, hs, rfl⟩ | ⟨hx, hne, hs⟩)
    · exact ⟨.inl ⟨s, hs, rfl⟩, (mem_openSiblings.mp hs).2.2.2⟩
    · refine ⟨.inr ⟨hx, fun s hs' hid => hs ?_⟩, fun hid => hne (hunique hx hmem hid)⟩
      rw [hunique hx (hrows hs') hid]
      exact hs'

lemma mem_approved_activateRule (hstatus : rule.status.applicable = false)
    (hmem : rule ∈ db.rules.rows) :
    x ∈ (db.activateRule rule eff now).approved ↔ x = rule.activated eff now ∨
      ∃ r ∈ db.approved, x = afterActivation rule eff r := by
  have hid : ∀ r ∈ db.approved, r.id ≠ rule.id := by
    intro r hr heq
    obtain ⟨hrmem, happlicable⟩ := mem_approved.mp hr
    have hget := Table.mem_iff_get?.mp hrmem
    rw [heq, Table.mem_iff_get?.mp hmem] at hget
    cases hget
    rw [hstatus] at happlicable
    cases happlicable
  rw [mem_approved, mem_activateRule hstatus hmem]
  constructor
  · rintro ⟨rfl | ⟨s, hs, rfl⟩ | ⟨hx, hne, hs⟩, happlicable⟩
    · exact .inl rfl
    · obtain ⟨hs, hscope, hstop, -⟩ := mem_openSiblings.mp hs
      exact .inr ⟨s, hs, by rw [afterActivation, if_pos ⟨hscope, hstop⟩]⟩
    · refine .inr ⟨x, mem_approved.mpr ⟨hx, happlicable⟩, ?_⟩
      rw [afterActivation, if_neg]
      rintro ⟨hscope, hstop⟩
      have hxa := mem_approved.mpr ⟨hx, happlicable⟩
      exact hs (mem_openSiblings.mpr ⟨hxa, hscope, hstop, hid x hxa⟩)
  · rintro (rfl | ⟨r, hr, rfl⟩)
    · exact ⟨.inl rfl, rfl⟩
    · rw [afterActivation]
      split
      · rename_i hsibling
        exact ⟨.inr (.inl ⟨r, mem_openSiblings.mpr ⟨hr, hsibling.1, hsibling.2, hid r hr⟩, rfl⟩),
          rfl⟩
      · rename_i hsibling
        obtain ⟨hrmem, happlicable⟩ := mem_approved.mp hr
        refine ⟨.inr (.inr ⟨hrmem, ?_, fun hs => hsibling ?_⟩), happlicable⟩
        · rintro rfl
          exact hid r hr rfl
        · obtain ⟨-, hscope, hstop, -⟩ := mem_openSiblings.mp hs
          exact ⟨hscope, hstop⟩

/-- The state after an activation. -/
structure Activated (m : Market) (now : ℤ) (rule : CommissionRule) (db db' : Books) : Prop where
  mem : rule ∈ db.rules.rows
  pending : rule.status = .pendingApproval
  later : ∀ r ∈ db.approved, r.scope = rule.scope → r.effectiveTo = none →
    r.effectiveFrom < effectiveDate m db now rule
  approved : ∀ x, x ∈ db'.approved ↔ x = rule.activated (effectiveDate m db now rule) now ∨
    ∃ r ∈ db.approved, x = afterActivation rule (effectiveDate m db now rule) r
  rows : ∀ x ∈ db'.rules.rows, x.status.applicable = false → x ∈ db.rules.rows
  nextRule : db'.nextRule = db.nextRule
  notices : (∀ n ∈ db.notices.rows, n.id < db.nextNotice) → ∀ n ∈ db'.notices.rows,
    n.id < db'.nextNotice ∧ (n ∈ db.notices.rows ∨ n.rule = rule.id)

lemma activated_of_activate (h : activate m now ruleId requestId db = .ok db') :
    ∃ rule, db.rules.get? ruleId = some rule ∧ Activated m now rule db db' := by
  obtain ⟨rule, hget, hstatus, hprev, hrules, hnext, hnotices⟩ := activate_ok h
  obtain ⟨hmem, -⟩ := Table.mem_of_get? hget
  have hpending : rule.status.applicable = false := by rw [hstatus]; rfl
  have happroved : ∀ x, x ∈ db'.approved ↔
      x ∈ (db.activateRule rule (effectiveDate m db now rule) now).approved := fun x => by
    rw [mem_approved, mem_approved, hrules]
  refine ⟨rule, hget, hmem, hstatus, fun r hr hscope hstop => ?_, fun x => ?_, fun x hx hquiet => ?_,
    hnext, hnotices⟩
  · refine hprev r (mem_openSiblings.mpr ⟨hr, hscope, hstop, fun hid => ?_⟩)
    obtain ⟨hrmem, happlicable⟩ := mem_approved.mp hr
    have hget' := Table.mem_iff_get?.mp hrmem
    rw [hid, Table.mem_iff_get?.mp hmem] at hget'
    cases hget'
    rw [hpending] at happlicable
    cases happlicable
  · rw [happroved, mem_approved_activateRule hpending hmem]
  · rw [hrules, mem_activateRule hpending hmem] at hx
    rcases hx with rfl | ⟨s, -, rfl⟩ | ⟨hx, -, -⟩
    · cases hquiet
    · cases hquiet
    · exact hx

@[simp] lemma afterActivation_scope : (afterActivation rule eff r).scope = r.scope := by
  rw [afterActivation]
  split <;> rfl

lemma afterActivation_start : (afterActivation rule eff r).effectiveFrom = r.effectiveFrom := by
  rw [afterActivation]
  split <;> rfl

lemma isCity_congr {r r' : CommissionRule} (h : r.geoNode = r'.geoNode) :
    m.isCity r = m.isCity r' := by
  rw [Market.isCity, Market.isCity, Market.nodeOf, Market.nodeOf, h]

lemma geoNode_of_scope {r r' : CommissionRule} (h : r.scope = r'.scope) :
    r.country = r'.country ∧ r.geoNode = r'.geoNode ∧ r.vehicleType = r'.vehicleType := by
  rwa [CommissionRule.scope, CommissionRule.scope, Prod.mk.injEq, Prod.mk.injEq] at h

lemma placed_congr {r r' : CommissionRule} (h : r.scope = r'.scope) (hr : Placed m r) :
    Placed m r' := by
  obtain ⟨hcountry, hnode, -⟩ := geoNode_of_scope h
  rw [Placed, isCity_congr hnode, hnode, hcountry] at hr
  exact hr

lemma specificity_congr {r r' : CommissionRule} (h : r.scope = r'.scope) :
    m.specificity r = m.specificity r' := by
  obtain ⟨-, hnode, hvt⟩ := geoNode_of_scope h
  rw [Market.specificity, Market.specificity, isCity_congr hnode, hvt]

lemma matchesCell_congr {r r' : CommissionRule} (h : r.scope = r'.scope) :
    m.matchesCell r city vehicleType = m.matchesCell r' city vehicleType := by
  obtain ⟨-, hnode, hvt⟩ := geoNode_of_scope h
  rw [Market.matchesCell, Market.matchesCell, isCity_congr hnode, hnode, hvt]

/-- An activation keeps the windows in succession. -/
theorem Kept.activate (h : Kept m db) (hact : Activated m now rule db db') : Kept m db' := by
  have hquiet : rule.status.applicable = false := by rw [hact.pending]; rfl
  have hrule : rule ∈ db.rules.rows := hact.mem
  -- every row is a row of before, or has the scope, kind and key of one
  have hrows : ∀ x ∈ db'.rules.rows, ∃ r ∈ db.rules.rows, x.id = r.id ∧ x.scope = r.scope ∧
      x.kind = r.kind ∧ (x.status.applicable = false → x = r) := by
    intro x hx
    by_cases hstatus : x.status.applicable = true
    · rcases (hact.approved x).mp (mem_approved.mpr ⟨hx, hstatus⟩) with rfl | ⟨r, hr, rfl⟩
      · exact ⟨rule, hrule, rfl, rfl, rfl, fun hfalse => by cases hfalse⟩
      · refine ⟨r, (mem_approved.mp hr).1, ?_, afterActivation_scope, ?_, fun hfalse => ?_⟩
        · rw [afterActivation]
          split <;> rfl
        · rw [afterActivation]
          split <;> rfl
        · rw [hfalse] at hstatus
          cases hstatus
    · have hfalse := Bool.eq_false_iff.mpr hstatus
      exact ⟨x, hact.rows x hx hfalse, rfl, rfl, rfl, fun _ => rfl⟩
  have hclosed : ∀ r ∈ db.approved, r.scope = rule.scope → ∀ e' ∈ r.effectiveTo,
      e' ≤ effectiveDate m db now rule := by
    intro r hr hscope e' he'
    obtain ⟨o, ho, hoscope, hostop⟩ := h.lasting r hr
    have hle := h.successive.stop_le hr ho hoscope.symm hostop he'
    have hlt := hact.later o ho (hoscope.trans hscope) hostop
    exact hle.trans hlt.le
  refine ⟨fun x hx => ?_, hact.nextRule ▸ h.positive, fun x hx => ?_, fun x hx => ?_, fun x hx => ?_,
    fun x hx hstatus => ?_, ?_, fun x hx => ?_, fun x hx e he => ?_, fun n hn => ?_⟩
  · obtain ⟨r, hr, hid, -⟩ := hrows x hx
    rw [hid, hact.nextRule]
    exact h.fresh r hr
  · obtain ⟨r, hr, -, hscope, -⟩ := hrows x hx
    rw [(geoNode_of_scope hscope).1]
    exact h.served r hr
  · obtain ⟨r, hr, -, hscope, -⟩ := hrows x hx
    exact placed_congr hscope.symm (h.placed r hr)
  · obtain ⟨r, hr, -, -, hkind, -⟩ := hrows x hx
    exact hkind.trans (h.percentage r hr)
  · exact h.unended x (hact.rows x hx hstatus) hstatus
  · refine h.successive.supersede (x := rule.activated (effectiveDate m db now rule) now)
      (k := fun r => r.superseded (effectiveDate m db now rule)) ?_ (fun _ => rfl) (fun _ => rfl)
      (fun r hr hscope hstop => hact.later r hr hscope hstop) hclosed fun x hx => ?_
    · rw [CommissionRule.window, CommissionRule.activated, h.unended rule hrule hquiet]
    · rcases (hact.approved x).mp hx with hx | ⟨r, hr, hx⟩
      · exact .inl hx
      · refine .inr ⟨r, hr, ?_⟩
        rw [hx, afterActivation]
        split
        · rename_i hsibling
          exact .inr ⟨rfl, hsibling.1, hsibling.2⟩
        · rename_i hsibling
          exact .inl ⟨rfl, fun hscope hstop => hsibling ⟨hscope, hstop⟩⟩
  · -- the new rule is the open one of its scope
    have hnew : rule.activated (effectiveDate m db now rule) now ∈ db'.approved :=
      (hact.approved _).mpr (.inl rfl)
    have hopen : (rule.activated (effectiveDate m db now rule) now).effectiveTo = none :=
      h.unended rule hrule hquiet
    rcases (hact.approved x).mp hx with rfl | ⟨r, hr, rfl⟩
    · exact ⟨_, hnew, rfl, hopen⟩
    · by_cases hscope : r.scope = rule.scope
      · exact ⟨_, hnew, by rw [afterActivation_scope, hscope]; rfl, hopen⟩
      · obtain ⟨o, ho, hoscope, hostop⟩ := h.lasting r hr
        have hother : ¬ (o.scope = rule.scope ∧ o.effectiveTo = none) := fun hso =>
          hscope (hoscope.symm.trans hso.1)
        refine ⟨o, (hact.approved o).mpr (.inr ⟨o, ho, by rw [afterActivation, if_neg hother]⟩),
          by rw [afterActivation_scope, hoscope], hostop⟩
  · rcases (hact.approved x).mp hx with rfl | ⟨r, hr, rfl⟩
    · have hopen := h.unended rule hrule hquiet
      rw [CommissionRule.activated, hopen] at he
      cases he
    · by_cases hsibling : r.scope = rule.scope ∧ r.effectiveTo = none
      · rw [afterActivation, if_pos hsibling] at he ⊢
        cases he
        exact ⟨_, (hact.approved _).mpr (.inl rfl), hsibling.1.symm, rfl⟩
      · rw [afterActivation, if_neg hsibling] at he ⊢
        obtain ⟨s, hs, hscope, hstart⟩ := h.touching r hr e he
        exact ⟨afterActivation rule (effectiveDate m db now rule) s,
          (hact.approved _).mpr (.inr ⟨s, hs, rfl⟩), by rw [afterActivation_scope, hscope],
          afterActivation_start.trans hstart⟩
  · obtain ⟨hlt, hor⟩ := hact.notices (fun n hn => (h.noticed n hn).1) n hn
    refine ⟨hlt, ?_⟩
    rcases hor with hn | hid
    · obtain ⟨-, r, hr, hrid⟩ := h.noticed n hn
      refine ⟨_, (hact.approved _).mpr (.inr ⟨r, hr, rfl⟩), ?_⟩
      rw [← hrid, afterActivation]
      split <;> rfl
    · exact ⟨_, (hact.approved _).mpr (.inl rfl), hid.symm⟩

lemma inForce_activate_iff (hact : Activated m now rule db db')
    (ht : t < effectiveDate m db now rule) :
    InForce m db' country city vehicleType t x ↔ ∃ r, InForce m db country city vehicleType t r ∧
      x = afterActivation rule (effectiveDate m db now rule) r := by
  have hwindow : ∀ r : CommissionRule,
      (afterActivation rule (effectiveDate m db now rule) r).window.Contains t ↔
        r.window.Contains t := by
    intro r
    rw [afterActivation]
    split
    · rename_i hsibling
      exact Window.contains_closeAt_of_lt (w := r.window) hsibling.2 ht
    · rfl
  have hkind : ∀ r : CommissionRule,
      (afterActivation rule (effectiveDate m db now rule) r).kind = r.kind := by
    intro r
    rw [afterActivation]
    split <;> rfl
  constructor
  · intro hx
    rcases (hact.approved x).mp hx.approved with rfl | ⟨r, hr, rfl⟩
    · have hstart : effectiveDate m db now rule ≤ t := hx.contains.1
      omega
    · refine ⟨r, .of_approved hr ?_ ((hkind r).symm.trans hx.kind) ((hwindow r).mp hx.contains) ?_,
        rfl⟩
      · rw [← hx.country_eq, (geoNode_of_scope afterActivation_scope).1]
      · rw [← hx.matches_cell, matchesCell_congr afterActivation_scope]
  · rintro ⟨r, hr, rfl⟩
    refine .of_approved ((hact.approved _).mpr (.inr ⟨r, hr.approved, rfl⟩)) ?_
      ((hkind r).trans hr.kind) ((hwindow r).mpr hr.contains) ?_
    · rw [(geoNode_of_scope afterActivation_scope).1, hr.country_eq]
    · rw [matchesCell_congr afterActivation_scope, hr.matches_cell]

/-- Before the new rule starts the same rule governs, which may have got an end. -/
theorem rate_activate (h : Kept m db) (hact : Activated m now rule db db')
    (ht : t < effectiveDate m db now rule) :
    rate m db' country city vehicleType t = (rate m db country city vehicleType t).map
      (afterActivation rule (effectiveDate m db now rule)) := by
  by_cases hcountry : country = ""
  · rw [rate, resolve, rate, resolve, if_pos hcountry, if_pos hcountry, Option.map_none]
  · have hkey : ∀ r : CommissionRule,
        m.key (afterActivation rule (effectiveDate m db now rule) r) = m.key r := by
      intro r
      have hversion : (afterActivation rule (effectiveDate m db now rule) r).version = r.version := by
        rw [afterActivation]
        split <;> rfl
      rw [Market.key, Market.key, specificity_congr afterActivation_scope, afterActivation_start,
        hversion]
    rw [rate_eq hcountry, rate_eq hcountry, ← List.argmax_map hkey]
    refine List.argmax_eq_of_mem_iff (fun x => ?_) (h.activate hact).key_injective
    rw [mem_filter_effective, inForce_activate_iff hact ht, List.mem_map]
    constructor
    · rintro ⟨r, hr, rfl⟩
      exact ⟨r, mem_filter_effective.mpr hr, rfl⟩
    · rintro ⟨r, hr, rfl⟩
      exact ⟨r, mem_filter_effective.mp hr, rfl⟩

end Activation

end SaaradhiGo.Commission
