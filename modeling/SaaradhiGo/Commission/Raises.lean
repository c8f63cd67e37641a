/-
Raises over time, and the notice each of them needs.

A rate rises at a moment when the rule that governs a cell from there on has a higher percent
than the one that governed just before.  The rule is then to be activated the notice before, and
a notice of it is to cover the cell.  An activation compares the rule with the rates of its own
moment.  So the law is kept as long as nothing scheduled makes a difference: no cell is below the
new rate just before it starts that is not below it today, and no later rule becomes a raise.
-/
import SaaradhiGo.Commission.Notices

namespace SaaradhiGo.Commission

open AdminAccess

/-- A city of a country and a vehicle class. -/
structure IsCell (m : Market) (country : String) (city vehicleType : ℕ) : Prop where
  city : some city ∈ m.cities country ((m.countryNode country).map (·.id))
  vehicleType : vehicleType ∈ m.vehicleTypes

/-- Every raise of a cell was approved the notice before, and a notice covers the cell. -/
def Announced (m : Market) (s : Office) : Prop :=
  ∀ country city vehicleType, IsCell m country city vehicleType → ∀ t a b,
    rate m s.books country (some city) (some vehicleType) (t - 1) = some a →
    rate m s.books country (some city) (some vehicleType) t = some b → a.percent < b.percent →
      (∃ x ∈ s.activations, x.rule = b.id ∧ x.moment + x.noticeDays * day ≤ t) ∧
        ∃ n ∈ s.books.notices.rows, n.rule = b.id ∧
          m.covers n (some city, some vehicleType) = true

/-- The schedule makes no difference to the rule: a rule that raises a cell today starts later
than the moment of approval; a cell of its scope that it is to govern, whose rate is below the
rule's just before it starts, is below it today; and a more specific rule with a higher rate that
starts later in its scope raises the cell already. -/
structure Foreseen (m : Market) (db : Books) (now : ℤ) (rule : CommissionRule) : Prop where
  announced : raisedBy m db now rule ≠ [] →
    0 < db.noticeDays rule.country ∨ now < rule.effectiveFrom
  steady : ∀ city vehicleType, IsCell m rule.country city vehicleType →
    m.matchesCell rule (some city) (some vehicleType) = true →
    (∀ q, rate m db rule.country (some city) (some vehicleType) (effectiveDate m db now rule) =
      some q → m.specificity q ≤ m.specificity rule) →
    ∀ a, rate m db rule.country (some city) (some vehicleType)
        (effectiveDate m db now rule - 1) = some a → a.percent < rule.percent →
      ∃ a', rate m db rule.country (some city) (some vehicleType) now = some a' ∧
        a'.percent < rule.percent
  later : ∀ city vehicleType, IsCell m rule.country city vehicleType →
    m.matchesCell rule (some city) (some vehicleType) = true →
    ∀ t q, effectiveDate m db now rule < t →
      rate m db rule.country (some city) (some vehicleType) t = some q → q.effectiveFrom = t →
      m.specificity rule < m.specificity q → rule.percent < q.percent →
        ∃ a, rate m db rule.country (some city) (some vehicleType) (t - 1) = some a ∧
          a.percent < q.percent

/-- An approval of a rule to which no refusal applies is of one that is foreseen. -/
def Clear (m : Market) (s : Office) (x : Move) : Prop :=
  ∀ ruleId requestId rule, x.act = .approve ruleId requestId →
    Ready m s.books (s.clock + x.delay) ruleId requestId rule →
      Foreseen m s.books (s.clock + x.delay) rule

section Timeline

variable {m : Market} {db db' : Books} {country : String} {city vehicleType : Option ℕ} {t t' : ℤ}
  {now : ℤ} {rule r a b : CommissionRule}

lemma Kept.inForce_later (h : Kept m db) (hr : InForce m db country city vehicleType t r)
    (hle : t ≤ t') : ∃ s, InForce m db country city vehicleType t' s ∧ s.scope = r.scope := by
  obtain ⟨s, hs, hscope, hcontains⟩ := h.successive.exists_contains
    (fun r hr e he => h.touching r hr e he) hr.approved (hr.contains.1.trans hle)
  refine ⟨s, .of_approved hs ?_ (h.percentage s (mem_approved.mp hs).1) hcontains ?_, hscope⟩
  · rw [(geoNode_of_scope hscope).1, hr.country_eq]
  · rw [matchesCell_congr hscope, hr.matches_cell]

lemma inForce_activated_iff (h : Kept m db) (hact : Activated m now rule db db')
    (ht : effectiveDate m db now rule ≤ t) :
    InForce m db' country city vehicleType t r ↔
      (r = rule.activated (effectiveDate m db now rule) now ∧ rule.country = country ∧
        m.matchesCell rule city vehicleType = true) ∨
      (InForce m db country city vehicleType t r ∧ r.scope ≠ rule.scope) := by
  have hopen : rule.effectiveTo = none := h.unended rule hact.mem (by rw [hact.pending]; rfl)
  have hscope : (rule.activated (effectiveDate m db now rule) now).scope = rule.scope := rfl
  constructor
  · intro hr
    rcases (hact.approved r).mp hr.approved with rfl | ⟨r, hmem, rfl⟩
    · exact .inl ⟨rfl, hr.country_eq, by rw [← hr.matches_cell, matchesCell_congr hscope]⟩
    · refine .inr ?_
      by_cases hsame : r.scope = rule.scope
      · -- the rules of the scope have ended
        exfalso
        obtain ⟨o, ho, hoscope, hostop⟩ := h.lasting r hmem
        have hlater := hact.later o ho (hoscope.trans hsame) hostop
        have hcontains := hr.contains
        rw [afterActivation] at hcontains
        split at hcontains
        · have hlt := (Window.contains_closeAt (w := r.window)).mp hcontains
          omega
        · rename_i hnot
          obtain ⟨e, he⟩ := Option.ne_none_iff_exists'.mp fun hnone => hnot ⟨hsame, hnone⟩
          have hle := h.successive.stop_le hmem ho hoscope.symm hostop he
          have hstart : o.window.start = o.effectiveFrom := rfl
          have hlt := hcontains.2 e he
          omega
      · have hself : afterActivation rule (effectiveDate m db now rule) r = r := by
          rw [afterActivation, if_neg fun hboth => hsame hboth.1]
        rw [hself] at hr ⊢
        exact ⟨.of_approved hmem hr.country_eq hr.kind hr.contains hr.matches_cell, hsame⟩
  · rintro (⟨rfl, hcountry, hmatch⟩ | ⟨hr, hother⟩)
    · refine .of_approved ((hact.approved _).mpr (.inl rfl)) hcountry
        (h.percentage rule hact.mem) ((Window.contains_of_open hopen).mpr ht) ?_
      rw [matchesCell_congr hscope, hmatch]
    · refine .of_approved ((hact.approved _).mpr (.inr ⟨r, hr.approved, ?_⟩)) hr.country_eq hr.kind
        hr.contains hr.matches_cell
      rw [afterActivation, if_neg fun hboth => hother hboth.1]

lemma rate_activated_of_not_match (h : Kept m db) (hact : Activated m now rule db db')
    (ht : effectiveDate m db now rule ≤ t)
    (hmatch : ¬ (rule.country = country ∧ m.matchesCell rule city vehicleType = true)) :
    rate m db' country city vehicleType t = rate m db country city vehicleType t := by
  refine h.rate_congr fun r => ?_
  rw [inForce_activated_iff h hact ht]
  constructor
  · refine fun hr => .inr ⟨hr, fun hscope => hmatch ?_⟩
    rw [← hr.matches_cell, matchesCell_congr hscope, ← (geoNode_of_scope hscope).1]
    exact ⟨hr.country_eq, rfl⟩
  · rintro (⟨-, hboth⟩ | ⟨hr, -⟩)
    · exact absurd hboth hmatch
    · exact hr

/-- In a cell the rule matches it governs, or a more specific rule does that did before. -/
lemma rate_activated_of_match (h : Kept m db) (hact : Activated m now rule db db')
    (ht : effectiveDate m db now rule ≤ t) (hcountry : rule.country = country)
    (hne : country ≠ "") (hmatch : m.matchesCell rule city vehicleType = true)
    (hrate : rate m db' country city vehicleType t = some b) :
    b = rule.activated (effectiveDate m db now rule) now ∨
      (rate m db country city vehicleType t = some b ∧
        m.specificity rule < m.specificity b) := by
  have hscope : (rule.activated (effectiveDate m db now rule) now).scope = rule.scope := rfl
  have hkept := h.activate hact
  obtain ⟨hforce, hmax⟩ := (hkept.rate_eq_some_iff hne).mp hrate
  have hnew : InForce m db' country city vehicleType t
      (rule.activated (effectiveDate m db now rule) now) :=
    (inForce_activated_iff h hact ht).mpr (.inl ⟨rfl, hcountry, hmatch⟩)
  have hle := hmax _ hnew
  rw [specificity_congr hscope] at hle
  rcases (inForce_activated_iff h hact ht).mp hforce with ⟨rfl, -⟩ | ⟨hold, hother⟩
  · exact .inl rfl
  · have hne' : m.specificity rule ≠ m.specificity b := fun hspec =>
      hother (scope_eq_of_specificity (h.placed b hold.mem) (h.placed rule hact.mem)
        (hold.country_eq.trans hcountry.symm) hold.matches_cell hmatch hspec.symm)
    have hlt := lt_of_le_of_ne hle hne'
    refine .inr ⟨(h.rate_eq_some_iff hne).mpr ⟨hold, fun r hr => ?_⟩, hlt⟩
    by_cases hsame : r.scope = rule.scope
    · exact (specificity_congr hsame).le.trans hlt.le
    · exact hmax r ((inForce_activated_iff h hact ht).mpr (.inr ⟨hr, hsame⟩))

end Timeline

/-! ## The notice of a raised cell -/

section Covered

variable {m : Market} {db db' : Books} {now : ℤ} {rule : CommissionRule} {cells : List Cell}
  {raised : List RaisedCell} {node vehicleType : Option ℕ} {x : RaisedCell} {target : Target}
  {city v : ℕ} {ruleId requestId : ℕ} {country : String}

lemma mem_cityTargets (hx : x ∈ raised) (hcity : x.1.1 = some city) :
    (∃ old, (some city, vehicleType, old) ∈ cityTargets cells raised vehicleType city) ∨
      (some city, x.1.2, x.2) ∈ cityTargets cells raised vehicleType city := by
  have hrow : ((some city, x.1.2, x.2) : Target) ∈ (raised.filter fun x => x.1.1 = some city).map
      (fun x => (some city, x.1.2, x.2)) :=
    List.mem_map.mpr ⟨x, List.mem_filter.mpr ⟨hx, by simpa using hcity⟩, rfl⟩
  rw [cityTargets]
  split
  · rename_i old hold
    split
    · exact .inl ⟨old, List.mem_singleton_self _⟩
    · exact .inr hrow
  · exact .inr hrow

/-- When there is one notice it is at the rule's scope or for the city of any raised cell. -/
lemma target_of_single (htarget : targetsOf cells raised node vehicleType = [target])
    (hx : x ∈ raised) (hcity : x.1.1 = some city) :
    (target.1 = node ∧ target.2.1 = vehicleType) ∨
      (target.1 = some city ∧ (target.2.1 = vehicleType ∨ target.2.1 = x.1.2)) := by
  have hfan : fanOut cells raised vehicleType = [target] →
      target.1 = some city ∧ (target.2.1 = vehicleType ∨ target.2.1 = x.1.2) := by
    intro hfanOut
    have hsub : ∀ t ∈ cityTargets cells raised vehicleType city, t = target := by
      intro t ht
      have hmem : t ∈ fanOut cells raised vehicleType := by
        refine List.mem_flatMap.mpr ⟨city, ?_, ht⟩
        exact List.mem_dedup.mpr (List.mem_filterMap.mpr ⟨x, hx, hcity⟩)
      rw [hfanOut] at hmem
      exact List.mem_singleton.mp hmem
    have hown : (∃ old, (some city, vehicleType, old) ∈
        cityTargets cells raised vehicleType city) ∨
          (some city, x.1.2, x.2) ∈ cityTargets cells raised vehicleType city :=
      mem_cityTargets hx hcity
    rcases hown with ⟨old, hmem⟩ | hmem
    · rw [← hsub _ hmem]
      exact ⟨rfl, .inl rfl⟩
    · rw [← hsub _ hmem]
      exact ⟨rfl, .inr rfl⟩
  rw [targetsOf] at htarget
  have hown : ∀ {old : ℤ}, [((node, vehicleType, old) : Target)] = [target] →
      target.1 = node ∧ target.2.1 = vehicleType := by
    intro old heq
    rw [← List.singleton_injective heq]
    exact ⟨rfl, rfl⟩
  split at htarget
  · split at htarget
    · exact .inl (hown htarget)
    · split at htarget
      · exact .inl (hown htarget)
      · exact .inr (hfan htarget)
  · split at htarget
    · exact .inl (hown htarget)
    · exact .inr (hfan htarget)

lemma IsCell.mem_scope (hcell : IsCell m rule.country city v) (hrule : Placed m rule)
    (hmatch : m.matchesCell rule (some city) (some v) = true) :
    some city ∈ m.cities rule.country rule.geoNode ∧ some v ∈ m.classes rule.vehicleType := by
  obtain ⟨hcity, hclass⟩ := matchesCell_iff.mp hmatch
  constructor
  · cases hanchor : m.isCity rule with
    | false =>
        rw [hrule.resolve_right (by simp [hanchor])]
        exact hcell.city
    | true =>
        have hnode := hcity hanchor
        rw [Market.isCity, Market.nodeOf, Option.any_eq_true] at hanchor
        obtain ⟨place, hplace, hkind⟩ := hanchor
        have hkind' : place.kind = .city := by simpa using hkind
        have hid : place.id = city := by
          rw [hnode, Option.bind_some] at hplace
          exact Table.pk_of_get? hplace
        rw [Market.cities, hplace]
        dsimp only
        rw [if_pos hkind', hid]
        exact List.mem_singleton_self _
  · rcases hclass with hnone | hsome
    · rw [hnone, Market.classes]
      exact List.mem_append_left _ (List.mem_map_of_mem hcell.vehicleType)
    · rw [hsome, Market.classes]
      exact List.mem_singleton_self _

lemma ready_of_ok (hok : activate m now ruleId requestId db = .ok db') :
    ∃ rule, Ready m db now ruleId requestId rule := by
  rw [activate] at hok
  split at hok
  · cases hok
  · cases hok
  · rename_i rule hrefusal hget
    exact ⟨rule, hget, hrefusal⟩

lemma notices_of_ok (h : Kept m db) (hready : Ready m db now ruleId requestId rule)
    (hok : activate m now ruleId requestId db = .ok db') :
    ∀ n ∈ db.notices.rows, n ∈ db'.notices.rows := by
  intro n hn
  have hkeep : ∀ target eff, n ∈ ((db.written m now rule).withNotice rule eff target).notices.rows := by
    intro target eff
    exact Table.mem_put.mpr (.inr ⟨hn, (h.noticed n hn).1.ne⟩)
  rcases (activate_eq_ok_iff h hready).mp hok with
    ⟨-, rfl⟩ | ⟨-, ⟨-, rfl⟩ | ⟨-, target, -, rfl⟩⟩
  · exact hn
  · exact hn
  · exact hkeep target _

/-- A real cell that is raised today is covered by the notice of the activation. -/
lemma covered_of_raised (h : Kept m db) (hready : Ready m db now ruleId requestId rule)
    (hok : activate m now ruleId requestId db = .ok db') (hx : x ∈ raisedBy m db now rule)
    (hlater : now < effectiveDate m db now rule) (hcell : x.1 = (some city, some v)) :
    ∃ n ∈ db'.notices.rows, n.rule = rule.id ∧ m.covers n (some city, some v) = true := by
  have hact := hready.activated
  have hrule := h.placed rule hact.mem
  have hcountry : rule.country ≠ "" := fun heq => m.named (heq ▸ h.served rule hact.mem)
  obtain ⟨hgoverned, hsame⟩ := raisedBy_written_of_lt h hact hcountry hlater
  have hraised : raisedBy m db now rule ≠ [] := List.ne_nil_of_mem hx
  have hmem := ((mem_governedBy h hrule hcountry).mp (mem_raisedBy.mp hx).1).1
  rw [hcell] at hmem
  rcases (activate_eq_ok_iff h hready).mp hok with
    ⟨hnil, -⟩ | ⟨-, ⟨hnil, -⟩ | ⟨-, target, htarget, rfl⟩⟩
  · exact absurd hnil hraised
  · exact absurd (hsame ▸ hnil) hraised
  · rw [hsame, hgoverned] at htarget
    obtain ⟨hwritten, hid⟩ := (mem_withNotice (db.written m now rule) (effectiveDate m db now rule)
      target (h.no_notice hact)).mpr rfl
    refine ⟨_, hwritten, hid, ?_⟩
    rcases target_of_single htarget hx (congrArg Prod.fst hcell) with
      ⟨hnode, hclass⟩ | ⟨hnode, hclass⟩
    · rw [hnode, hclass]
      exact covers_own hmem.1 hmem.2
    · obtain ⟨place, hget, hkind, hpid⟩ := city_of_mem_cities hmem.1
      refine (covers_city_iff hget hkind hpid hnode).mpr ⟨?_, rfl⟩
      rcases hclass with hclass | hclass
      · cases hv : rule.vehicleType with
        | none => exact .inl (hclass.trans hv)
        | some w =>
            have hc := hmem.2
            rw [hv, Market.classes, List.mem_singleton] at hc
            exact .inr ((hclass.trans hv).trans hc.symm)
      · exact .inr (hclass.trans (congrArg Prod.snd hcell))

end Covered

/-! ## Every raise is announced -/

section Announced

variable {m : Market} {s : Office} {x : Move} {db db' : Books} {now : ℤ} {rule a b : CommissionRule}
  {country : String} {city v ruleId requestId : ℕ} {t : ℤ}

lemma announced_start (h : Kept m db) (hready : Ready m db now ruleId requestId rule)
    (hok : activate m now ruleId requestId db = .ok db') (hact : Activated m now rule db db')
    (hforeseen : Foreseen m db now rule) (hcell : IsCell m rule.country city v)
    (hmatch : m.matchesCell rule (some city) (some v) = true)
    (hbefore : rate m db rule.country (some city) (some v) (effectiveDate m db now rule - 1) = some a)
    (hafter : rate m db' rule.country (some city) (some v) (effectiveDate m db now rule) =
      some (rule.activated (effectiveDate m db now rule) now))
    (hlt : a.percent < rule.percent) :
    now + db.noticeDays rule.country * day ≤ effectiveDate m db now rule ∧
      ∃ n ∈ db'.notices.rows, n.rule = rule.id ∧ m.covers n (some city, some v) = true := by
  have hrule := h.placed rule hact.mem
  have hcountry : rule.country ≠ "" := fun heq => m.named (heq ▸ h.served rule hact.mem)
  have hscope : (rule.activated (effectiveDate m db now rule) now).scope = rule.scope := rfl
  obtain ⟨-, hmax⟩ := ((h.activate hact).rate_eq_some_iff hcountry).mp hafter
  rw [specificity_congr hscope] at hmax
  -- every rule of another scope in force at the start is less specific
  have hothers : ∀ q, InForce m db rule.country (some city) (some v)
      (effectiveDate m db now rule) q → m.specificity q ≤ m.specificity rule := by
    intro q hq
    by_cases hsame : q.scope = rule.scope
    · exact (specificity_congr hsame).le
    · exact hmax q ((inForce_activated_iff h hact (le_refl _)).mpr (.inr ⟨hq, hsame⟩))
  obtain ⟨a', ha', hlt'⟩ := hforeseen.steady city v hcell hmatch
    (fun q hq => hothers q (inForce_of_rate hq).1) a hbefore hlt
  have hgoverned : (some city, some v) ∈ governedBy m db now rule := by
    refine (mem_governedBy h hrule hcountry).mpr ⟨hcell.mem_scope hrule hmatch, hmatch, fun r hr => ?_⟩
    have hstart : now ≤ effectiveDate m db now rule := effectiveDate_ge
    obtain ⟨r', hr', hrscope⟩ := h.inForce_later hr.1 hstart
    rw [← specificity_congr hrscope]
    refine lt_of_le_of_ne (hothers r' hr') ?_
    rw [specificity_congr hrscope]
    exact hr.specificity_ne h hrule hmatch
  have hraised : ((some city, some v), a'.percent) ∈ raisedBy m db now rule :=
    mem_raisedBy.mpr ⟨hgoverned, a', ha', hlt', rfl⟩
  have hne := List.ne_nil_of_mem hraised
  have hlater := (lt_effectiveDate_iff hne).mpr (hforeseen.announced hne)
  refine ⟨?_, covered_of_raised h hready hok hraised hlater rfl⟩
  have hincrease : isIncrease m db rule.country rule.geoNode rule.vehicleType rule.percent now =
      true := by
    rw [raisedBy] at hne
    rw [isIncrease]
    simpa using hne
  rw [effectiveDate, if_pos hincrease]
  exact le_max_right _ _

/-- A raise after an activation is one of before, or the one the rule makes where it starts. -/
lemma raise_cases (h : Kept m db) (hact : Activated m now rule db db')
    (hforeseen : Foreseen m db now rule) (hcell : IsCell m country city v) (hne : country ≠ "")
    (hbefore : rate m db' country (some city) (some v) (t - 1) = some a)
    (hafter : rate m db' country (some city) (some v) t = some b) (hlt : a.percent < b.percent) :
    (∃ a₀ b₀, rate m db country (some city) (some v) (t - 1) = some a₀ ∧
      rate m db country (some city) (some v) t = some b₀ ∧ a₀.percent < b₀.percent ∧
        b₀.id = b.id) ∨
      (country = rule.country ∧ m.matchesCell rule (some city) (some v) = true ∧
        t = effectiveDate m db now rule ∧
        b = rule.activated (effectiveDate m db now rule) now ∧ ∃ a₀,
          rate m db country (some city) (some v) (t - 1) = some a₀ ∧ a₀.percent = a.percent) := by
  have hkept := h.activate hact
  have hsame : ∀ r : CommissionRule,
      (afterActivation rule (effectiveDate m db now rule) r).percent = r.percent ∧
        (afterActivation rule (effectiveDate m db now rule) r).id = r.id := by
    intro r
    rw [afterActivation]
    split <;> exact ⟨rfl, rfl⟩
  have hpast : ∀ {u r}, u < effectiveDate m db now rule →
      rate m db' country (some city) (some v) u = some r →
        ∃ r₀, rate m db country (some city) (some v) u = some r₀ ∧ r₀.percent = r.percent ∧
          r₀.id = r.id := by
    intro u r hu hrate
    rw [rate_activate h hact hu, Option.map_eq_some_iff] at hrate
    obtain ⟨r₀, hr₀, rfl⟩ := hrate
    exact ⟨r₀, hr₀, (hsame r₀).1.symm, (hsame r₀).2.symm⟩
  by_cases hboth : rule.country = country ∧ m.matchesCell rule (some city) (some v) = true
  · obtain ⟨hcountry, hmatch⟩ := hboth
    have hscope : (rule.activated (effectiveDate m db now rule) now).scope = rule.scope := rfl
    have hnewspec := specificity_congr (m := m) hscope
    rcases lt_trichotomy t (effectiveDate m db now rule) with hearly | heq | hlate
    · -- both moments are before the start
      obtain ⟨a₀, ha₀, hap, -⟩ := hpast (by omega) hbefore
      obtain ⟨b₀, hb₀, hbp, hbid⟩ := hpast hearly hafter
      exact .inl ⟨a₀, b₀, ha₀, hb₀, by rw [hap, hbp]; exact hlt, hbid⟩
    · obtain ⟨a₀, ha₀, hap, -⟩ := hpast (by omega) hbefore
      rcases rate_activated_of_match h hact heq.ge hcountry hne hmatch hafter with hb | ⟨hb, -⟩
      · exact .inr ⟨hcountry.symm, hmatch, heq, hb, a₀, ha₀, hap⟩
      · exact .inl ⟨a₀, b, ha₀, hb, by rw [hap]; exact hlt, rfl⟩
    · have hle : effectiveDate m db now rule ≤ t - 1 := by omega
      obtain ⟨haforce, hamax⟩ := (hkept.rate_eq_some_iff hne).mp hbefore
      obtain ⟨hbforce, hbmax⟩ := (hkept.rate_eq_some_iff hne).mp hafter
      rcases rate_activated_of_match h hact hlate.le hcountry hne hmatch hafter with
        rfl | ⟨hb, hbspec⟩
      · -- a rule that governed later than the start still does
        rcases rate_activated_of_match h hact hle hcountry hne hmatch hbefore with
          rfl | ⟨-, haspec⟩
        · exact absurd hlt (lt_irrefl _)
        · obtain ⟨r', hr', hrscope⟩ := hkept.inForce_later haforce (show t - 1 ≤ t by omega)
          have hle' := hbmax r' hr'
          rw [specificity_congr hrscope, hnewspec] at hle'
          omega
      · rcases rate_activated_of_match h hact hle hcountry hne hmatch hbefore with
          rfl | ⟨ha, -⟩
        · -- the later rule takes over from the new one
          have hstart : b.effectiveFrom = t := by
            by_contra hother
            have hge : b.effectiveFrom ≤ t := hbforce.contains.1
            have hcontains : b.window.Contains (t - 1) := by
              refine ⟨?_, fun e he => ?_⟩
              · show b.effectiveFrom ≤ t - 1
                omega
              · have hstop := hbforce.contains.2 e he
                omega
            have hearlier := hamax b (.of_approved hbforce.approved hbforce.country_eq hbforce.kind
              hcontains hbforce.matches_cell)
            rw [hnewspec] at hearlier
            omega
          subst hcountry
          obtain ⟨a₀, ha₀, hap⟩ := hforeseen.later city v hcell hmatch t b hlate hb hstart hbspec hlt
          exact .inl ⟨a₀, b, ha₀, hb, hap, rfl⟩
        · exact .inl ⟨a, b, ha, hb, hlt, rfl⟩
  · -- the rule does not match the cell
    have hafter' : ∃ b₀, rate m db country (some city) (some v) t = some b₀ ∧
        b₀.percent = b.percent ∧ b₀.id = b.id := by
      by_cases ht : t < effectiveDate m db now rule
      · exact hpast ht hafter
      · rw [rate_activated_of_not_match h hact (not_lt.mp ht) hboth] at hafter
        exact ⟨b, hafter, rfl, rfl⟩
    have hbefore' : ∃ a₀, rate m db country (some city) (some v) (t - 1) = some a₀ ∧
        a₀.percent = a.percent ∧ a₀.id = a.id := by
      by_cases ht : t - 1 < effectiveDate m db now rule
      · exact hpast ht hbefore
      · rw [rate_activated_of_not_match h hact (not_lt.mp ht) hboth] at hbefore
        exact ⟨a, hbefore, rfl, rfl⟩
    obtain ⟨a₀, ha₀, hap, -⟩ := hbefore'
    obtain ⟨b₀, hb₀, hbp, hbid⟩ := hafter'
    exact .inl ⟨a₀, b₀, ha₀, hb₀, by rw [hap, hbp]; exact hlt, hbid⟩

/-- A foreseen step keeps the law. -/
lemma announced_step (h : Kept m s.books) (hall : Announced m s) (hclear : Clear m s x) :
    Announced m (step m s x) := by
  intro country city v hcell t a b hbefore hafter hlt
  rw [step] at hbefore hafter ⊢
  dsimp only at hbefore hafter ⊢
  rcases perform_cases (s.clock + x.delay) h x.act with
    ⟨-, hsame, hnone⟩ | ⟨ruleId, requestId, rule, hact', hok, hget, hact, hsome⟩
  · rw [h.rate_congr fun r => hsame.inForce r] at hbefore hafter
    rw [hnone, hsame.notices, Option.toList_none, List.append_nil]
    exact hall country city v hcell t a b hbefore hafter hlt
  · obtain ⟨rule', hready⟩ := ready_of_ok hok
    have hrule : rule' = rule := by
      have hget' := hready.get
      rw [hget] at hget'
      exact (Option.some.inj hget').symm
    subst hrule
    have hne : country ≠ "" := by
      rintro rfl
      rw [rate, resolve, if_pos rfl] at hafter
      cases hafter
    have hforeseen := hclear ruleId requestId rule' hact' hready
    rw [hsome, Option.toList_some]
    rcases raise_cases h hact hforeseen hcell hne hbefore hafter hlt with
      ⟨a₀, b₀, ha₀, hb₀, hlt₀, hid⟩ | ⟨rfl, hmatch, rfl, rfl, a₀, ha₀, hap⟩
    · obtain ⟨⟨y, hy, hyid, hyt⟩, n, hn, hnid, hcovers⟩ :=
        hall country city v hcell t a₀ b₀ ha₀ hb₀ hlt₀
      exact ⟨⟨y, List.mem_append_left _ hy, hyid.trans hid, hyt⟩, n,
        notices_of_ok h hready hok n hn, hnid.trans hid, hcovers⟩
    · have hlt' : a₀.percent < rule'.percent := by rw [hap]; exact hlt
      obtain ⟨hnotice, n, hn, hnid, hcovers⟩ :=
        announced_start h hready hok hact hforeseen hcell hmatch ha₀ hafter hlt'
      refine ⟨⟨_, List.mem_append_right _ (List.mem_singleton_self _), ?_, hnotice⟩, n, hn, hnid,
        hcovers⟩
      exact (Table.pk_of_get? hget).symm

lemma announced_opening : Announced m Office.opening := by
  intro country city v hcell t a b hbefore
  exact absurd (inForce_of_rate hbefore).1.mem List.not_mem_nil

/-- In every history each of whose approvals is foreseen, every raise of a cell was approved the
notice before it and a notice of the rule covers the cell. -/
theorem announced_of_history (m : Market) (xs : List Move)
    (h : Transition.Guarded (step m) (Clear m) Office.opening xs) :
    Announced m (Transition.run (step m) Office.opening xs) :=
  (Transition.invariant_of_guarded (I := fun (s : Office) => Kept m s.books ∧ Announced m s)
    (fun _ _ hclear hI => ⟨kept_step hI.1, announced_step hI.1 hI.2 hclear⟩)
    ⟨kept_opening, announced_opening⟩ h).2

end Announced

/-! ## Nothing scheduled -/

/-- Every approved rule has started, and no country goes without a notice. -/
def Settled (s : Office) (x : Move) : Prop :=
  (∀ r ∈ s.books.approved, r.effectiveFrom < s.clock + x.delay) ∧
    ∀ c ∈ s.books.configs.rows, 0 < c.noticeDays

instance (s : Office) (x : Move) : Decidable (Settled s x) :=
  inferInstanceAs (Decidable ((∀ r ∈ s.books.approved, r.effectiveFrom < s.clock + x.delay) ∧
    ∀ c ∈ s.books.configs.rows, 0 < c.noticeDays))

section Settled

variable {m : Market} {s : Office} {x : Move} {db : Books} {now t t' : ℤ} {rule r : CommissionRule}
  {country : String} {city vehicleType : Option ℕ}

lemma inForce_settled (h : Kept m db) (hsettled : ∀ r ∈ db.approved, r.effectiveFrom < now)
    (ht : now - 1 ≤ t) (ht' : now - 1 ≤ t') (hr : InForce m db country city vehicleType t r) :
    InForce m db country city vehicleType t' r := by
  refine .of_approved hr.approved hr.country_eq hr.kind ⟨?_, fun e he => ?_⟩ hr.matches_cell
  · have hstart := hsettled r hr.approved
    show r.effectiveFrom ≤ t'
    omega
  · -- what ends is followed by a rule that has not started
    obtain ⟨q, hq, -, hqstart⟩ := h.touching r hr.approved e he
    have hlt := hsettled q hq
    have hstop := hr.contains.2 e he
    omega

lemma foreseen_of_settled (h : Kept m db) (hsettled : ∀ r ∈ db.approved, r.effectiveFrom < now)
    (hnotice : ∀ c ∈ db.configs.rows, 0 < c.noticeDays) : Foreseen m db now rule := by
  refine ⟨fun _ => .inl ?_, fun city v hcell hmatch _ a ha hlt => ⟨a, ?_, hlt⟩,
    fun city v _ _ t q ht hq hstart => ?_⟩
  · rw [Books.noticeDays]
    cases hget : db.configs.get? rule.country with
    | none => exact Nat.succ_pos 6
    | some c => exact hnotice c (Table.mem_of_get? hget).1
  · have heff : now ≤ effectiveDate m db now rule := effectiveDate_ge
    have hsame : ∀ r, InForce m db rule.country (some city) (some v)
        (effectiveDate m db now rule - 1) r ↔ InForce m db rule.country (some city) (some v) now r :=
      fun r => ⟨inForce_settled h hsettled (by omega) (by omega),
        inForce_settled h hsettled (by omega) (by omega)⟩
    have hne : rule.country ≠ "" := by
      intro hempty
      rw [rate, resolve, if_pos hempty] at ha
      cases ha
    rw [h.rate_eq_some_iff hne] at ha ⊢
    exact ⟨(hsame a).mp ha.1, fun r' hr' => ha.2 r' ((hsame r').mpr hr')⟩
  · have hge : now ≤ effectiveDate m db now rule := effectiveDate_ge
    have hlt := hsettled q (inForce_of_rate hq).1.approved
    omega

/-- A history in which rules are approved only when nothing is scheduled is clear. -/
lemma guarded_clear_of_settled {xs : List Move}
    (h : Transition.Guarded (step m) Settled Office.opening xs) :
    Transition.Guarded (step m) (Clear m) Office.opening xs :=
  Transition.guarded_of_invariant (I := fun (s : Office) => Kept m s.books)
    (fun _ _ _ hkept => kept_step hkept)
    (fun _ _ hsettled hkept _ _ _ _ _ => foreseen_of_settled hkept hsettled.1 hsettled.2)
    kept_opening h

end Settled

/-- The raise of the country is approved, and a week later it is in force. -/
theorem announced_countryRaise :
    Announced india (Transition.run (step india) Office.opening
        (countryRaise ++ [⟨1, .approve 2 2⟩])) ∧
      (rate india (Transition.run (step india) Office.opening
        (countryRaise ++ [⟨1, .approve 2 2⟩])).books "IN" (some 2) (some 1) (6 + 7 * day - 1)).map
          (·.percent) = some 1500 ∧
      (rate india (Transition.run (step india) Office.opening
        (countryRaise ++ [⟨1, .approve 2 2⟩])).books "IN" (some 2) (some 1) (6 + 7 * day)).map
          (·.percent) = some 1800 :=
  ⟨announced_of_history india _ (guarded_clear_of_settled (by decide +kernel)),
    by decide +kernel, by decide +kernel⟩

/-- A country that asks for no notice, at 15 percent, is raised to 18 percent at once. -/
def raisedAtOnce : List Move :=
  ⟨1, .configure "IN" 0 none 0⟩ ::
    (enacted 1 ⟨"IN", "", none, some .percentage, some 1500, none, "first rate"⟩ ++
      enacted 2 ⟨"IN", "", none, some .percentage, some 1800, none, "raise"⟩)

/-- The rule is in force when the cells it raises are looked for, so there is none, and no notice
is written. -/
theorem not_announced_raisedAtOnce :
    ¬ Announced india (Transition.run (step india) Office.opening raisedAtOnce) := by
  intro h
  have hcell : IsCell india "IN" 2 1 := ⟨by decide +kernel, by decide⟩
  have hbefore : (rate india (Transition.run (step india) Office.opening raisedAtOnce).books "IN"
      (some 2) (some 1) (7 - 1)).map (·.percent) = some 1500 := by
    decide +kernel
  have hafter : (rate india (Transition.run (step india) Office.opening raisedAtOnce).books "IN"
      (some 2) (some 1) 7).map (·.percent) = some 1800 := by
    decide +kernel
  obtain ⟨a, ha, hap⟩ := Option.map_eq_some_iff.mp hbefore
  obtain ⟨b, hb, hbp⟩ := Option.map_eq_some_iff.mp hafter
  obtain ⟨-, n, hn, -⟩ := h "IN" 2 1 hcell _ a b ha hb (by omega)
  have hnone : (Transition.run (step india) Office.opening raisedAtOnce).books.notices.rows = [] := by
    decide +kernel
  rw [hnone] at hn
  cases hn

end SaaradhiGo.Commission
