/-
Writing a commission rule: draft, submit, approve, activate.

A draft is checked against the rates in force at the moment it is written, submitted to the
approvals module and activated by its executor, which checks it again, ends the rule of the
same scope and writes the notices to the drivers whose rate rises.  An operation that raises
leaves the tables as they were.
-/
import SaaradhiGo.Commission.Rule
import SaaradhiGo.Lib.Fallible
import SaaradhiGo.Lib.Transition

namespace SaaradhiGo.Commission

open AdminAccess

/-- A day in microseconds. -/
def day : ℤ := 86400000000

/-- `notice_days` of a country. -/
def Books.noticeDays (db : Books) (country : String) : ℕ :=
  ((db.configs.get? country).map (·.noticeDays)).getD 7

/-- `max_percent` of a country. -/
def Books.maxPercent (db : Books) (country : String) : Option ℤ :=
  (db.configs.get? country).bind (·.maxPercent)

/-! ## Scope -/

/-- The answers of the access module about a user: the nodes that are in the user's scope, and
the nodes over which the user holds the permission to write prices. -/
structure Actor where
  reaches : GeoNode → Bool
  holds : Option GeoNode → Bool

def Market.countryNode (m : Market) (country : String) : Option GeoNode :=
  m.nodes.rows.find? fun n => n.kind = .country && n.code = country

/-- The node a draft is anchored at: the city, or the country. -/
def Market.scopeNode (m : Market) (actor : Actor) (country cityCode : String) :
    Except String (Option GeoNode) :=
  if cityCode ≠ "" then
    match m.nodes.rows.find? (fun n => n.kind = .city && n.code = cityCode && actor.reaches n),
      m.countryNode country with
    | some n, some c => if c.covers n then .ok (some n) else .error "NOT_IN_SCOPE"
    | _, _ => .error "NOT_IN_SCOPE"
  else
    match m.countryNode country with
    | none => .ok none
    | some c => if actor.reaches c then .ok (some c) else .error "NOT_IN_SCOPE"

def Market.resolveScope (m : Market) (actor : Actor) (country cityCode : String)
    (vehicleType : Option ℕ) : Except String (Option GeoNode) :=
  if country ∉ m.countries then .error "UNKNOWN_COUNTRY"
  else (m.scopeNode actor country cityCode).bind fun node =>
    if vehicleType.any fun v => v ∉ m.vehicleTypes then .error "UNKNOWN_VEHICLE_TYPE"
    else if actor.holds node then .ok node
    else .error "SCOPE_NOT_HELD"

/-! ## Raises -/

/-- A city or none, and a class or none. -/
abbrev Cell := Option ℕ × Option ℕ

abbrev RaisedCell := Cell × ℤ

/-- The rule `_cells` holds against the rates in force: an unsaved one that starts now. -/
def draftOf (country : String) (node vehicleType : Option ℕ) (percent now : ℤ) :
    CommissionRule :=
  ⟨0, country, node, vehicleType, .percentage, percent, .draft, 1000000, now, none, "", none,
    none, none, false⟩

/-- The cities of a scope, and no city when the scope is a country's. -/
def Market.cities (m : Market) (country : String) (node : Option ℕ) : List (Option ℕ) :=
  let within (root : GeoNode) : List (Option ℕ) :=
    (m.nodes.rows.filter fun n => n.kind = .city && root.covers n).map fun n => some n.id
  match node.bind m.nodes.get? with
  | some n => if n.kind = .city then [some n.id] else within n ++ [none]
  | none =>
      match m.nodes.rows.find? (fun n => n.code = country) with
      | some root => within root ++ [none]
      | none => [none]

/-- The classes of a scope. -/
def Market.classes (m : Market) : Option ℕ → List (Option ℕ)
  | some v => [some v]
  | none => m.vehicleTypes.map some ++ [none]

/-- The cells a draft would govern: the first list of `_cells`. -/
def governed (m : Market) (db : Books) (country : String) (node vehicleType : Option ℕ)
    (percent now : ℤ) : List Cell :=
  ((m.cities country node).flatMap fun city => (m.classes vehicleType).map fun v => (city, v))
    |>.filter fun c =>
      let draft := draftOf country node vehicleType percent now
      resolve m db country c.1 c.2 now (some draft) none = some draft

/-- The rate of a cell when it is below `percent`. -/
def raisedFrom (m : Market) (db : Books) (country : String) (percent now : ℤ) (c : Cell) :
    Option RaisedCell :=
  (rate m db country c.1 c.2 now).bind fun current =>
    if current.percent < percent then some (c, current.percent) else none

/-- `raised_cells`: the second list of `_cells`. -/
def raisedCells (m : Market) (db : Books) (country : String) (node vehicleType : Option ℕ)
    (percent now : ℤ) : List RaisedCell :=
  (governed m db country node vehicleType percent now).filterMap
    (raisedFrom m db country percent now)

def isIncrease (m : Market) (db : Books) (country : String) (node vehicleType : Option ℕ)
    (percent now : ℤ) : Bool :=
  !(raisedCells m db country node vehicleType percent now).isEmpty

/-- The only value of a list, when all are the same. -/
def sole (l : List ℤ) : Option ℤ :=
  match l.dedup with
  | [x] => some x
  | _ => none

/-- Whom a notice is for, and the rate it states as the old one. -/
abbrev Target := Option ℕ × Option ℕ × ℤ

/-- The notices of one city: one for it, when all the cells governed there rise from the same
rate, and else one for each class. -/
def cityTargets (governed : List Cell) (raised : List RaisedCell) (vehicleType : Option ℕ)
    (city : ℕ) : List Target :=
  let rows := raised.filter fun x => x.1.1 = some city
  let cityCells := governed.filter fun c => c.1 = some city
  match sole (rows.map (·.2)) with
  | some old =>
      if rows.length = cityCells.length then [(some city, vehicleType, old)]
      else rows.map fun x => (some city, x.1.2, x.2)
  | none => rows.map fun x => (some city, x.1.2, x.2)

def fanOut (governed : List Cell) (raised : List RaisedCell) (vehicleType : Option ℕ) :
    List Target :=
  (raised.filterMap fun x => x.1.1).dedup.flatMap (cityTargets governed raised vehicleType)

/-- The notices of a rule that raises: one at the rule's own scope in the plain case, and else
city by city, or one at the own scope when no city is raised. -/
def targetsOf (governed : List Cell) (raised : List RaisedCell)
    (node vehicleType : Option ℕ) : List Target :=
  let olds := raised.map (·.2)
  match sole olds with
  | some old =>
      if raised.length = governed.length then [(node, vehicleType, old)]
      else if fanOut governed raised vehicleType = [] then
        [(node, vehicleType, (olds.max?).getD 0)]
      else fanOut governed raised vehicleType
  | none =>
      if fanOut governed raised vehicleType = [] then
        [(node, vehicleType, (olds.max?).getD 0)]
      else fanOut governed raised vehicleType

def noticeTargets (m : Market) (db : Books) (country : String) (node vehicleType : Option ℕ)
    (percent now : ℤ) : List Target :=
  let raised := raisedCells m db country node vehicleType percent now
  if raised = [] then []
  else targetsOf (governed m db country node vehicleType percent now) raised node vehicleType

/-! ## Checks -/

/-- `_percent`: a rate is 0 to 100 percent. -/
def percentOk (percent : ℤ) : Bool := 0 ≤ percent && percent ≤ 10000

def Books.aboveCap (db : Books) (country : String) (percent : ℤ) : Bool :=
  (db.maxPercent country).any fun cap => cap < percent

def checkRule (m : Market) (db : Books) (country : String) (node vehicleType : Option ℕ)
    (kind : Option RuleKind) (percent effectiveFrom now : ℤ) (enforceNotice : Bool) :
    Except String Unit :=
  match kind with
  | none => .error "UNKNOWN_KIND"
  | some kind =>
      if kind ≠ .percentage then .error "KIND_NOT_SUPPORTED"
      else if !percentOk percent then .error "INVALID_PERCENT"
      else if db.aboveCap country percent then .error "ABOVE_CAP"
      else if enforceNotice && isIncrease m db country node vehicleType percent now &&
          decide (effectiveFrom < now + db.noticeDays country * day) then
        .error "NOTICE_TOO_SHORT"
      else .ok ()

/-! ## Drafts -/

def Books.ofScope (db : Books) (country : String) (node vehicleType : Option ℕ) :
    List CommissionRule :=
  db.rules.rows.filter fun r => r.scope = (country, node, vehicleType)

def Books.nextVersion (db : Books) (country : String) (node vehicleType : Option ℕ) : ℕ :=
  (((db.ofScope country node vehicleType).map (·.version)).max?).getD 0 + 1

/-- `_open_draft`. -/
def Books.hasOpenDraft (db : Books) (country : String) (node vehicleType : Option ℕ) : Bool :=
  (db.ofScope country node vehicleType).any fun r =>
    r.status = .draft || r.status = .pendingApproval

/-- What a maker asks for.  A text that is no number or no date is refused before. -/
structure Draft where
  country : String
  /-- Empty for a rule of the whole country. -/
  cityCode : String
  vehicleType : Option ℕ
  /-- `none` for a kind that is not one of the choices. -/
  kind : Option RuleKind
  percent : Option ℤ
  effectiveFrom : Option ℤ
  reason : String

/-- The rule is written as a draft. -/
def Books.insertDraft (db : Books) (d : Draft) (node : Option ℕ) (percent effectiveFrom : ℤ) :
    Books :=
  { db with
    rules := db.rules.put
      ⟨db.nextRule, d.country, node, d.vehicleType, .percentage, percent, .draft,
        db.nextVersion d.country node d.vehicleType, effectiveFrom, none, d.reason, none, none,
        none, false⟩
    nextRule := db.nextRule + 1 }

/-- The date of a draft that names none: now, or after the notice when it raises a rate. -/
def defaultDate (m : Market) (db : Books) (country : String) (node vehicleType : Option ℕ)
    (percent now : ℤ) : ℤ :=
  if isIncrease m db country node vehicleType percent now then
    now + db.noticeDays country * day
  else now

def createDraft (m : Market) (now : ℤ) (actor : Actor) (d : Draft) (db : Books) :
    Except String Books :=
  (m.resolveScope actor d.country d.cityCode d.vehicleType).bind fun place =>
    let node := place.map (·.id)
    if d.reason = "" then .error "REASON_REQUIRED"
    else if d.kind ≠ some .percentage then
      (checkRule m db d.country node d.vehicleType d.kind (d.percent.getD 0) now now true).bind
        fun _ => .error "UNKNOWN_KIND"
    else match d.percent with
      | none => .error "INVALID_PERCENT"
      | some percent =>
          if !percentOk percent then .error "INVALID_PERCENT"
          else
            let eff := d.effectiveFrom.getD
              (defaultDate m db d.country node d.vehicleType percent now)
            (checkRule m db d.country node d.vehicleType d.kind percent eff now true).bind
              fun _ =>
                if db.hasOpenDraft d.country node d.vehicleType then .error "DRAFT_EXISTS"
                else .ok (db.insertDraft d node percent eff)

def updateDraft (m : Market) (now : ℤ) (ruleId : ℕ) (percent effectiveFrom : Option ℤ)
    (reason : String) (db : Books) : Except String Books :=
  match db.rules.get? ruleId with
  | none => .error "NOT_FOUND"
  | some rule =>
      if rule.status ≠ .draft then .error "NOT_A_DRAFT"
      else
        let pct := percent.getD rule.percent
        let eff := effectiveFrom.getD rule.effectiveFrom
        (checkRule m db rule.country rule.geoNode rule.vehicleType (some rule.kind) pct eff now
          true).bind fun _ =>
            .ok { db with
              rules := db.rules.put
                { rule with
                  percent := pct, effectiveFrom := eff,
                  reason := if reason = "" then rule.reason else reason } }

def discardDraft (ruleId : ℕ) (db : Books) : Except String Books :=
  match db.rules.get? ruleId with
  | none => .error "NOT_FOUND"
  | some rule =>
      if rule.status ≠ .draft then .error "NOT_A_DRAFT"
      else .ok { db with rules := db.rules.erase ruleId }

/-! ## Submission -/

/-- What the approvals module answers: the request, and whether it was there before. -/
structure Outcome where
  request : ℕ
  duplicate : Bool

def Market.cityCodeOf (m : Market) (rule : CommissionRule) : String :=
  match m.nodeOf rule with
  | some n => if n.kind = .city then n.code else ""
  | none => ""

/-- `submit`, with the answer of the approvals module. -/
def submit (m : Market) (now : ℤ) (actor : Actor) (ruleId : ℕ) (reason : String)
    (answer : Except String Outcome) (db : Books) : Except String Books :=
  match db.rules.get? ruleId with
  | none => .error "NOT_FOUND"
  | some rule =>
      if rule.status ≠ .draft then .error "NOT_A_DRAFT"
      else
        (m.resolveScope actor rule.country (m.cityCodeOf rule) rule.vehicleType).bind fun place =>
          let why := if reason = "" then rule.reason else reason
          (checkRule m db rule.country (place.map (·.id)) rule.vehicleType (some rule.kind)
            rule.percent (max rule.effectiveFrom now) now false).bind fun _ =>
              if why = "" then .error "REASON_REQUIRED"
              else answer.bind fun outcome =>
                if outcome.duplicate then .ok db
                else .ok { db with
                  rules := db.rules.put
                    { rule with
                      status := .pendingApproval, approvalRequestId := some outcome.request,
                      submittedAt := some now, reason := why } }

/-- `_request_closed`: the rule is a draft again. -/
def requestClosed (ruleId requestId : ℕ) (db : Books) : Books :=
  match db.rules.get? ruleId with
  | none => db
  | some rule =>
      if rule.status = .pendingApproval && rule.approvalRequestId = some requestId then
        { db with rules := db.rules.put { rule with status := .draft } }
      else db

/-! ## Activation -/

/-- Why an activation leaves nothing: it was refused, or a constraint of a table failed. -/
inductive Failure where
  | refused (code : String)
  | integrityError
deriving DecidableEq, Repr

/-- The moment a rule takes effect: never before now, and not before the notice when it
raises a rate. -/
def effectiveDate (m : Market) (db : Books) (now : ℤ) (rule : CommissionRule) : ℤ :=
  let eff := max rule.effectiveFrom now
  if isIncrease m db rule.country rule.geoNode rule.vehicleType rule.percent now then
    max eff (now + db.noticeDays rule.country * day)
  else eff

/-- The approved rules of the same scope that have no end. -/
def Books.openSiblings (db : Books) (rule : CommissionRule) : List CommissionRule :=
  db.rules.rows.filter fun r =>
    r.scope = rule.scope && r.status.applicable && r.effectiveTo.isNone && r.id ≠ rule.id

/-- The first of the refusals that applies. -/
def refusal (m : Market) (db : Books) (now : ℤ) (ruleId requestId : ℕ) : Option String :=
  match db.rules.get? ruleId with
  | none => some "RULE_GONE"
  | some rule =>
      if rule.status ≠ .pendingApproval || rule.approvalRequestId ≠ some requestId then
        some "RULE_NOT_PENDING"
      else if rule.kind ≠ .percentage then some "KIND_NOT_SUPPORTED"
      else if db.aboveCap rule.country rule.percent then some "ABOVE_CAP"
      else if (db.openSiblings rule).any fun prev =>
          effectiveDate m db now rule ≤ prev.effectiveFrom then
        some "EFFECTIVE_BEFORE_PREDECESSOR"
      else none

def CommissionRule.superseded (r : CommissionRule) (eff : ℤ) : CommissionRule :=
  { r with effectiveTo := some eff, status := .archived }

def CommissionRule.activated (r : CommissionRule) (eff now : ℤ) : CommissionRule :=
  { r with
    status := .active, effectiveFrom := eff, effectiveFromAdjusted := r.effectiveFrom ≠ eff,
    activatedAt := some now }

/-- The rules after an activation. -/
def Books.activateRule (db : Books) (rule : CommissionRule) (eff now : ℤ) : Books :=
  { db with
    rules :=
      ((db.openSiblings rule).foldl (fun rules prev => rules.put (prev.superseded eff))
        db.rules).put (rule.activated eff now) }

/-- One notice is written.  There may be one notice of a rule. -/
def Books.createNotice (rule : CommissionRule) (eff : ℤ) (db : Books) (target : Target) :
    Except Failure Books :=
  if db.notices.rows.any fun x => x.rule = rule.id then .error .integrityError
  else .ok { db with
    notices := db.notices.put
      ⟨db.nextNotice, rule.id, rule.country, target.1, target.2.1, target.2.2, rule.percent, eff⟩
    nextNotice := db.nextNotice + 1 }

/-- `activate_rule`.  Whom to tell is read after the rules are written. -/
def activate (m : Market) (now : ℤ) (ruleId requestId : ℕ) (db : Books) :
    Except Failure Books :=
  match refusal m db now ruleId requestId, db.rules.get? ruleId with
  | some code, _ => .error (.refused code)
  | none, none => .error (.refused "RULE_GONE")
  | none, some rule =>
      let eff := effectiveDate m db now rule
      let written := db.activateRule rule eff now
      if isIncrease m db rule.country rule.geoNode rule.vehicleType rule.percent now then
        (noticeTargets m written rule.country rule.geoNode rule.vehicleType rule.percent
          now).foldlM (Books.createNotice rule eff) written
      else .ok written

/-- `apply_country_config` of a request that saw the stored version. -/
def applyCountryConfig (country : String) (noticeDays : ℕ) (maxPercent : Option ℤ)
    (baseVersion : ℕ) (db : Books) : Books :=
  if ((db.configs.get? country).map (·.version)).getD 0 = baseVersion then
    { db with configs := db.configs.put ⟨country, noticeDays, maxPercent, baseVersion + 1⟩ }
  else db

end SaaradhiGo.Commission
