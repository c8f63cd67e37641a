/-
Commission rules, and which of them governs a trip.

A rule has a scope (a country, or a city of it, and one vehicle class or all of them), a rate
and a window of time.  `resolve` picks, among the approved rules in force at a moment that
match a cell (a city and a vehicle class), the one that is greatest by specificity, start and
version.  It reads either the live rows or a list its caller has read before.
-/
import SaaradhiGo.AdminAccess.GeoNode
import SaaradhiGo.Lib.Window
import Mathlib.Data.Prod.Lex

namespace SaaradhiGo.Commission

open AdminAccess

/-- `KIND_CHOICES` of a rule. -/
inductive RuleKind where
  | percentage
  | flatFee
  | subscription
deriving DecidableEq, Repr

/-- `STATUS_CHOICES` of a rule. -/
inductive RuleStatus where
  | draft
  | pendingApproval
  | active
  | archived
deriving DecidableEq, Repr

/-- The status is one of `APPLICABLE_STATUSES`. -/
def RuleStatus.applicable : RuleStatus → Bool
  | active | archived => true
  | draft | pendingApproval => false

/-- `CommissionRule`.  Rates are in hundredths of a percent and moments in microseconds. -/
structure CommissionRule where
  id : ℕ
  country : String
  geoNode : Option ℕ
  vehicleType : Option ℕ
  kind : RuleKind
  percent : ℤ
  status : RuleStatus
  version : ℕ
  effectiveFrom : ℤ
  effectiveTo : Option ℤ
  reason : String
  approvalRequestId : Option ℕ
  submittedAt : Option ℤ
  activatedAt : Option ℤ
  /-- The activation moved `effectiveFrom` later. -/
  effectiveFromAdjusted : Bool
deriving DecidableEq, Repr

structure CommissionCountryConfig where
  country : String
  noticeDays : ℕ
  maxPercent : Option ℤ
  version : ℕ
deriving DecidableEq, Repr

/-- `DriverNotice`, the row that tells the drivers of a scope about a raise. -/
structure DriverNotice where
  id : ℕ
  rule : ℕ
  country : String
  geoNode : Option ℕ
  vehicleType : Option ℕ
  oldPercent : ℤ
  newPercent : ℤ
  effectiveFrom : ℤ
deriving DecidableEq, Repr

/-- What the rules are about: the places, the vehicle classes and the countries served. -/
structure Market where
  nodes : Table GeoNode.id
  vehicleTypes : List ℕ
  /-- `COUNTRIES`: the codes of the countries served. -/
  countries : List String
  /-- No country has the empty code. -/
  named : "" ∉ countries

/-- The tables of the module. -/
structure Books where
  rules : Table CommissionRule.id
  notices : Table DriverNotice.id
  configs : Table CommissionCountryConfig.country
  /-- The next primary keys. -/
  nextRule : ℕ
  nextNotice : ℕ

namespace CommissionRule

def scope (r : CommissionRule) : String × Option ℕ × Option ℕ :=
  (r.country, r.geoNode, r.vehicleType)

def sameKey (a b : CommissionRule) : Bool :=
  a.country = b.country && a.geoNode = b.geoNode && a.vehicleType = b.vehicleType

def window (r : CommissionRule) : Window := ⟨r.effectiveFrom, r.effectiveTo⟩

def appliesAt (r : CommissionRule) (t : ℤ) : Bool :=
  r.status.applicable && decide (r.window.Contains t)

lemma sameKey_iff {a b : CommissionRule} : a.sameKey b = true ↔ a.scope = b.scope := by
  simp [sameKey, scope, and_assoc]

lemma appliesAt_iff {r : CommissionRule} {t : ℤ} :
    r.appliesAt t = true ↔ r.status.applicable = true ∧ r.window.Contains t := by
  simp [appliesAt]

end CommissionRule

/-- What the rules are compared by: specificity, start and version. -/
def RuleKey := ℕ ×ₗ ℤ ×ₗ ℕ

instance : LinearOrder RuleKey :=
  @Prod.Lex.instLinearOrder ℕ (ℤ ×ₗ ℕ) Nat.instLinearOrder
    (@Prod.Lex.instLinearOrder ℤ ℕ Int.instLinearOrder Nat.instLinearOrder)

namespace Market

variable (m : Market)

/-- `geo_node` of a rule. -/
def nodeOf (r : CommissionRule) : Option GeoNode := r.geoNode.bind m.nodes.get?

def isCity (r : CommissionRule) : Bool := (m.nodeOf r).any fun n => n.kind = .city

def specificity (r : CommissionRule) : ℕ :=
  (if r.vehicleType.isSome then 2 else 0) + if m.isCity r then 1 else 0

def key (r : CommissionRule) : RuleKey :=
  toLex (m.specificity r, toLex (r.effectiveFrom, r.version))

def matchesCell (r : CommissionRule) (city vehicleType : Option ℕ) : Bool :=
  (!m.isCity r || r.geoNode = city) && (r.vehicleType.isNone || r.vehicleType = vehicleType)

end Market

/-- The rows `resolve` reads when it is handed none: `_effective`. -/
def Books.effective (db : Books) (country : String) (t : ℤ) : List CommissionRule :=
  db.rules.rows.filter fun r => r.country = country && r.kind = .percentage && r.appliesAt t

/-- The rules in force that `resolve` compares: the rows, or those of a list its caller has
read before. -/
def Books.inForce (db : Books) (country : String) (t : ℤ) :
    Option (List CommissionRule) → List CommissionRule
  | none => db.effective country t
  | some rules => rules.filter fun r => r.kind = .percentage && r.appliesAt t

/-- A draft that is treated as in force takes the place of the rules of its scope. -/
def overridden (rules : List CommissionRule) : Option CommissionRule → List CommissionRule
  | none => rules
  | some draft => (rules.filter fun r => !r.sameKey draft) ++ [draft]

def resolve (m : Market) (db : Books) (country : String) (city vehicleType : Option ℕ) (t : ℤ)
    (override : Option CommissionRule) (rules : Option (List CommissionRule)) :
    Option CommissionRule :=
  if country = "" then none
  else
    ((overridden (db.inForce country t rules) override).filter fun r =>
      m.matchesCell r city vehicleType).argmax m.key

/-- The list the matrix reads once for a country. -/
def Books.applicable (db : Books) (country : String) : List CommissionRule :=
  db.rules.rows.filter fun r => r.country = country && r.status.applicable

/-- What a trip keeps of the rule that governs it: `Decision`. -/
def CommissionRule.decision (r : CommissionRule) : ℤ × ℕ × ℕ := (r.percent, r.id, r.version)

/-! ## The rule that governs -/

section Resolve

variable {m : Market} {db : Books} {country : String} {city vehicleType : Option ℕ} {t : ℤ}
  {r r' : CommissionRule}

/-- The rule is in force for the cell. -/
structure InForce (m : Market) (db : Books) (country : String) (city vehicleType : Option ℕ)
    (t : ℤ) (r : CommissionRule) : Prop where
  mem : r ∈ db.rules.rows
  country_eq : r.country = country
  kind : r.kind = .percentage
  applies : r.appliesAt t = true
  matches_cell : m.matchesCell r city vehicleType = true

/-- The rates of a cell over time. -/
def rate (m : Market) (db : Books) (country : String) (city vehicleType : Option ℕ) (t : ℤ) :
    Option CommissionRule :=
  resolve m db country city vehicleType t none none

lemma mem_effective : r ∈ db.effective country t ↔
    r ∈ db.rules.rows ∧ r.country = country ∧ r.kind = .percentage ∧ r.appliesAt t = true := by
  simp [Books.effective, and_assoc]

lemma mem_filter_effective :
    r ∈ (db.effective country t).filter (fun r => m.matchesCell r city vehicleType) ↔
      InForce m db country city vehicleType t r := by
  rw [List.mem_filter, mem_effective]
  constructor
  · rintro ⟨⟨hmem, hcountry, hkind, happlies⟩, hmatch⟩
    exact ⟨hmem, hcountry, hkind, happlies, hmatch⟩
  · rintro ⟨hmem, hcountry, hkind, happlies, hmatch⟩
    exact ⟨⟨hmem, hcountry, hkind, happlies⟩, hmatch⟩

lemma rate_eq (hcountry : country ≠ "") : rate m db country city vehicleType t =
    ((db.effective country t).filter fun r => m.matchesCell r city vehicleType).argmax m.key := by
  simp [rate, resolve, hcountry, overridden, Books.inForce]

/-- `resolve` returns a rule that is in force for the cell, and none that is in force is
greater. -/
theorem inForce_of_rate (h : rate m db country city vehicleType t = some r) :
    InForce m db country city vehicleType t r ∧
      ∀ r', InForce m db country city vehicleType t r' → m.key r' ≤ m.key r := by
  by_cases hcountry : country = ""
  · simp [rate, resolve, hcountry] at h
  · rw [rate_eq hcountry] at h
    exact ⟨mem_filter_effective.mp (List.argmax_mem h),
      fun r' hr' => List.le_of_mem_argmax (mem_filter_effective.mpr hr') h⟩

/-- `resolve` returns none only when no rule is in force for the cell. -/
theorem rate_eq_none_iff (hcountry : country ≠ "") :
    rate m db country city vehicleType t = none ↔
      ∀ r, ¬ InForce m db country city vehicleType t r := by
  rw [rate_eq hcountry, List.argmax_eq_none, List.eq_nil_iff_forall_not_mem]
  exact forall_congr' fun r => not_congr mem_filter_effective

lemma exists_rate (hcountry : country ≠ "") (h : InForce m db country city vehicleType t r) :
    ∃ r', rate m db country city vehicleType t = some r' := by
  rw [← Option.isSome_iff_exists, Option.isSome_iff_ne_none, ne_eq, rate_eq_none_iff hcountry]
  exact fun hnone => hnone r h

end Resolve

end SaaradhiGo.Commission
