/-
The values of a zone, and how a maker's input is cleaned.

The input is merged over the values the zone has, every field is put in its stored form, and the
market fields are resolved: blank means the country's default, and a value that differs from the
default needs a reason.  The result is the whole zone, as the payload of the request and the
revision carry it.
-/
import SaaradhiGo.Zones.Geometry

namespace SaaradhiGo.Zones

/-- `zone_values`: the fields of a zone, with the parent and the geo node by their codes. -/
structure ZoneValues where
  code : String
  geoNode : Option String
  isActive : Bool
  name : String
  country : String
  stateCode : String
  city : String
  zoneType : String
  parent : Option String
  priority : ℤ
  polygon : Json
  currency : String
  timezoneName : String
  distanceUnit : String
  taxMode : String
  /-- In hundredths. -/
  perTripFee : ℤ
  perTripFeeLabel : String
  metadata : Json

/-- The body of a request: the keys that are there. -/
structure Raw where
  code : Option Json
  geoNode : Option Json
  isActive : Option Json
  marketOverrideReason : Option Json
  name : Option Json
  country : Option Json
  stateCode : Option Json
  city : Option Json
  zoneType : Option Json
  parent : Option Json
  priority : Option Json
  polygon : Option Json
  currency : Option Json
  timezoneName : Option Json
  distanceUnit : Option Json
  taxMode : Option Json
  perTripFee : Option Json
  perTripFeeLabel : Option Json
  metadata : Option Json
  /-- The keys that name no field, in order. -/
  unknown : List String

/-- An optional text as it is stored. -/
def optionJson : Option String → Json
  | none => .null
  | some s => .str s

/-- The values as a body. -/
def ZoneValues.raw (v : ZoneValues) (marketOverrideReason : Option Json) : Raw where
  code := some (.str v.code)
  geoNode := some (optionJson v.geoNode)
  isActive := some (.bool v.isActive)
  marketOverrideReason := marketOverrideReason
  name := some (.str v.name)
  country := some (.str v.country)
  stateCode := some (.str v.stateCode)
  city := some (.str v.city)
  zoneType := some (.str v.zoneType)
  parent := some (optionJson v.parent)
  priority := some (.int v.priority)
  polygon := some v.polygon
  currency := some (.str v.currency)
  timezoneName := some (.str v.timezoneName)
  distanceUnit := some (.str v.distanceUnit)
  taxMode := some (.str v.taxMode)
  perTripFee := some (.str (Python.hundredthsText v.perTripFee))
  perTripFeeLabel := some (.str v.perTripFeeLabel)
  metadata := some v.metadata
  unknown := []

/-- The editable fields of the body over those of the zone. -/
def Raw.over (raw : Raw) (base : Option ZoneValues) : Raw :=
  match base with
  | none => raw
  | some b =>
      let old := b.raw none
      { raw with
        name := raw.name.or old.name
        country := raw.country.or old.country
        stateCode := raw.stateCode.or old.stateCode
        city := raw.city.or old.city
        zoneType := raw.zoneType.or old.zoneType
        parent := raw.parent.or old.parent
        priority := raw.priority.or old.priority
        polygon := raw.polygon.or old.polygon
        currency := raw.currency.or old.currency
        timezoneName := raw.timezoneName.or old.timezoneName
        distanceUnit := raw.distanceUnit.or old.distanceUnit
        taxMode := raw.taxMode.or old.taxMode
        perTripFee := raw.perTripFee.or old.perTripFee
        perTripFeeLabel := raw.perTripFeeLabel.or old.perTripFeeLabel
        metadata := raw.metadata.or old.metadata }

/-- `Country`, with the defaults of its market. -/
structure Country where
  code : String
  currency : String
  defaultTimezone : String
  distanceUnit : String
  taxMode : String
deriving DecidableEq, Repr

def countries : List Country :=
  [⟨"IN", "INR", "Asia/Kolkata", "km", "inclusive"⟩, ⟨"US", "USD", "America/New_York", "mi",
    "additive"⟩]

/-- What the cleaning reads of its surroundings. -/
structure Env where
  py : Python.Reader
  sh : Shapely
  /-- The time zone database knows the name. -/
  isTimezone : String → Bool

/-! ## Fields -/

section Fields

variable (py : Python.Reader)

/-- `str(raw if raw is not None else '').strip()`. -/
def stripped (raw : Option Json) : String :=
  Python.strip (match raw with
    | none => ""
    | some .null => ""
    | some v => Python.text py v)

/-- `_text`. -/
def cleanText (raw : Option Json) (field : String) (required : Bool) (maximum : ℕ) :
    Except Refusal String :=
  if required && stripped py raw = "" then .error ⟨"FIELD_REQUIRED", field⟩
  else if maximum < (stripped py raw).length then .error ⟨"FIELD_TOO_LONG", field⟩
  else .ok (stripped py raw)

def isCodeChar (c : Char) : Bool := c.isUpper || c.isDigit

/-- `CODE_RE`. -/
def isCode (code : String) : Bool :=
  match code.toList with
  | [] => false
  | c :: cs =>
      isCodeChar c && (1 ≤ cs.length && cs.length ≤ 63) && cs.all fun d => isCodeChar d || d = '-'

/-- The code, the geo node and the switch of a zone. -/
structure Head where
  code : String
  geoNode : Option String
  isActive : Bool

/-- The value is one of `False, 'false', 'False', 0, '0'`. -/
def isSwitchedOff : Json → Bool
  | .bool b => !b
  | .int n => n = 0
  | .float f => f.intValue = some 0
  | .str s => s ∈ ["false", "False", "0"]
  | _ => false

/-- What a new zone is given once, and a zone that is changed keeps. -/
def cleanHead (raw : Raw) : Option ZoneValues → Except Refusal Head
  | some b => .ok ⟨b.code, b.geoNode, b.isActive⟩
  | none => do
      let code ← cleanText py raw.code "code" true 64
      if !isCode (Python.upper py code) then .error ⟨"INVALID_CODE", "code"⟩
      else do
        let geoNode ← cleanText py raw.geoNode "geo_node" false 32
        return ⟨Python.upper py code, some geoNode,
          !(raw.isActive.map isSwitchedOff).getD false⟩

/-- Unknown fields, and fields that cannot be changed. -/
def checkKeys (raw : Raw) (base : Option ZoneValues) : Except Refusal Unit :=
  match raw.unknown with
  | field :: _ => .error ⟨"UNKNOWN_FIELD", field⟩
  | [] =>
      match base with
      | none => .ok ()
      | some b =>
          if (raw.code.map fun v => Python.strip (Python.text py v)).any (· ≠ b.code) then
            .error ⟨"CODE_IMMUTABLE", "code"⟩
          else
            match raw.geoNode with
            | none => .ok ()
            | some .null => .ok ()
            | some (.str g) =>
                if g = "" || some g = b.geoNode then .ok ()
                else .error ⟨"GEO_NODE_IMMUTABLE", "geo_node"⟩
            | some _ => .error ⟨"GEO_NODE_IMMUTABLE", "geo_node"⟩

def cleanCountry (raw : Option Json) : Except Refusal Country := do
  let text ← cleanText py raw "country" true 2
  match countries.find? fun c => c.code = Python.upper py text with
  | some c => .ok c
  | none => .error ⟨"UNKNOWN_COUNTRY", "country"⟩

def cleanZoneType (raw : Option Json) : Except Refusal String := do
  let zoneType ← cleanText py raw "zone_type" true 16
  if zoneType ∈ ["country", "state", "city", "subzone"] then .ok zoneType
  else .error ⟨"INVALID_ZONE_TYPE", "zone_type"⟩

def cleanPriority (raw : Option Json) : Except Refusal ℤ :=
  match Python.int py (raw.getD (.int 10)) with
  | none => .error ⟨"INVALID_NUMBER", "priority"⟩
  | some n =>
      if 0 ≤ n ∧ n ≤ 1000 then .ok n else .error ⟨"INVALID_NUMBER", "priority"⟩

def cleanParent (raw : Option Json) (code : String) : Except Refusal (Option String) :=
  match raw with
  | none => .ok none
  | some v =>
      if !Python.truthy v then .ok none
      else do
        let parent ← cleanText py (some v) "parent" false 64
        if parent = "" then .ok none
        else if parent = code then .error ⟨"PARENT_CYCLE", "parent"⟩
        else .ok (some parent)

/-- `_money`, with nothing as zero. -/
def cleanFee (raw : Option Json) : Except Refusal ℤ :=
  let v := raw.getD (.str "0")
  match py.hundredths (Python.text py (if Python.truthy v then v else .str "0")) with
  | none => .error ⟨"INVALID_NUMBER", "per_trip_fee"⟩
  | some n =>
      if 0 ≤ n ∧ n ≤ 10000000 then .ok n else .error ⟨"INVALID_NUMBER", "per_trip_fee"⟩

def cleanLabel (fee : ℤ) (raw : Option Json) : Except Refusal String := do
  let label ← cleanText py raw "per_trip_fee_label" false 64
  if 0 < fee ∧ label = "" then .error ⟨"FIELD_REQUIRED", "per_trip_fee_label"⟩ else .ok label

/-- The metadata is an object. -/
def cleanMetadata (raw : Option Json) : Except Refusal Json :=
  match raw with
  | none => .ok (.obj [])
  | some v =>
      if !Python.truthy v then .ok (.obj [])
      else
        match v with
        | .obj fs => .ok (.obj fs)
        | _ => .error ⟨"INVALID_METADATA", "metadata"⟩

def checkTaxMode (raw : Option Json) : Except Refusal Unit := do
  let taxMode ← cleanText py raw "tax_mode" false 10
  if taxMode ∈ ["", "inclusive", "additive"] then .ok ()
  else .error ⟨"INVALID_TAX_MODE", "tax_mode"⟩

end Fields

/-! ## The market -/

section Market

variable (py : Python.Reader)

/-- The market fields, and what differs from the country. -/
structure Market where
  currency : String
  timezoneName : String
  distanceUnit : String
  taxMode : String
  notes : List String

/-- `str(values.get(field) or '').strip()`. -/
def given (raw : Option Json) : String := Python.orBlank py (raw.getD .null)

def effective (text default : String) : String := if text = "" then default else text

/-- A field that changes to something else than the default needs a reason. -/
def marketNotes (field value default : String) (old : Option String) (override : String) :
    Except Refusal (List String) :=
  if old = some value || value = default then .ok []
  else if override = "" then .error ⟨"MARKET_MISMATCH", field⟩
  else .ok [field ++ "=" ++ value ++ " (country default " ++ default ++ "): " ++ override]

/-- The market fields of the merged body. -/
def cleanMarket (c : Country) (merged : Raw) (base : Option ZoneValues) :
    Except Refusal Market := do
  let override := Python.orBlank py (merged.marketOverrideReason.getD .null)
  let currency := effective (Python.upper py (given py merged.currency)) c.currency
  let timezoneName := effective (given py merged.timezoneName) c.defaultTimezone
  let distanceUnit := effective (given py merged.distanceUnit) c.distanceUnit
  let taxMode := effective (given py merged.taxMode) c.taxMode
  let notes₁ ← marketNotes "currency" currency c.currency (base.map (·.currency)) override
  let notes₂ ← marketNotes "timezone_name" timezoneName c.defaultTimezone
    (base.map (·.timezoneName)) override
  let notes₃ ← marketNotes "distance_unit" distanceUnit c.distanceUnit
    (base.map (·.distanceUnit)) override
  return ⟨currency, timezoneName, distanceUnit, taxMode, notes₁ ++ notes₂ ++ notes₃⟩

end Market

/-! ## The whole zone -/

/-- What is cleaned: the values, the geometry and the notes. -/
structure Cleaned (env : Env) where
  values : ZoneValues
  geometry : env.sh.Geometry
  marketNotes : List String

/-- The checks of the market fields, and of the geo node of a new zone. -/
def checkMarket (env : Env) (m : Market) (head : Head) : Except Refusal Unit :=
  if !env.isTimezone m.timezoneName then .error ⟨"INVALID_TIMEZONE", "timezone_name"⟩
  else if m.distanceUnit ∉ ["km", "mi"] then .error ⟨"INVALID_UNIT", "distance_unit"⟩
  else if head.geoNode = some "" then .error ⟨"FIELD_REQUIRED", "geo_node"⟩
  else .ok ()

def cleanValues (env : Env) (raw : Raw) (base : Option ZoneValues) :
    Except Refusal (Cleaned env) := do
  checkKeys env.py raw base
  let merged := raw.over base
  let head ← cleanHead env.py raw base
  let name ← cleanText env.py merged.name "name" true 128
  let country ← cleanCountry env.py merged.country
  let stateCode ← cleanText env.py merged.stateCode "state_code" false 8
  let city ← cleanText env.py merged.city "city" false 64
  let zoneType ← cleanZoneType env.py merged.zoneType
  let priority ← cleanPriority env.py merged.priority
  let parent ← cleanParent env.py merged.parent head.code
  let perTripFee ← cleanFee env.py merged.perTripFee
  let perTripFeeLabel ← cleanLabel env.py perTripFee merged.perTripFeeLabel
  let metadata ← cleanMetadata merged.metadata
  checkTaxMode env.py merged.taxMode
  let market ← cleanMarket env.py country merged base
  checkMarket env market head
  let polygon ← validate env.py env.sh (merged.polygon.getD .null)
  return {
    values := {
      code := head.code, geoNode := head.geoNode, isActive := head.isActive, name, stateCode, city,
      country := country.code, zoneType, parent, priority, polygon := polygon.1,
      currency := market.currency, timezoneName := market.timezoneName,
      distanceUnit := market.distanceUnit, taxMode := market.taxMode, perTripFee,
      perTripFeeLabel, metadata }
    geometry := polygon.2
    marketNotes := market.notes }

end SaaradhiGo.Zones
