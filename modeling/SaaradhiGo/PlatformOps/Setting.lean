/-
The key/value settings of the platform, and the change of a sensitive one.

A setting that is not sensitive is written at once.  A sensitive one changes only through a
request another operator has to check; the request's key holds the setting's key and a
fingerprint of the value, and its executor writes what the payload says.
-/
import SaaradhiGo.Lib.Sha256
import SaaradhiGo.Lib.Python
import SaaradhiGo.Approvals.Service

namespace SaaradhiGo.PlatformOps

open Approvals Python

/-! ## Settings -/

/-- `PlatformSettings`. -/
structure Setting where
  key : String
  value : String
  settingType : String
  description : String
  isSensitive : Bool
deriving DecidableEq, Repr

abbrev Settings : Type := Table Setting.key

def platformError (message code field : String) : Failure := .refused ⟨code, 400, field, message⟩

def sensitiveWords : List String := ["SECRET", "TOKEN", "PASSWORD", "KEY", "CREDENTIAL"]

/-- `word in text`. -/
def occurs (word text : String) : Bool := text.toList.tails.any fun l => word.toList.isPrefixOf l

def isSensitiveName (key : String) : Bool := sensitiveWords.any fun word => occurs word key

/-- `KEY_RE`: a capital, then 2 to 127 capitals, digits and underscores. -/
def isKey (key : String) : Bool :=
  match key.toList with
  | [] => false
  | c :: rest =>
      c.isUpper && rest.all (fun d => d.isUpper || d.isDigit || d = '_') && 2 ≤ rest.length &&
        rest.length ≤ 127

/-- What replaced a deprecated key, and where. -/
structure Replacement where
  key : String
  note : String
  href : String

def deprecated : List Replacement :=
  [⟨"PLATFORM_COMMISSION_PERCENT", "Commission is now a versioned, maker-checker rule per " ++
    "country, city and vehicle class.", "/pricing"⟩]

def deprecatedBy (key : String) : Option Replacement := deprecated.find? fun d => d.key = key

/-- `fingerprint`: 12 digits of the hash. -/
def fingerprint (value : String) : String :=
  "sha256:" ++ String.ofList ((Sha256.hexdigest (value.toList.flatMap String.utf8EncodeChar)).take 12)

/-! ## Values -/

/-- What Python reads and writes: `str` of a JSON value, `json.dumps(value, sort_keys=True)`,
`json.loads`, `int` of a text, and `str(Decimal(text))` of a finite number. -/
structure Reads where
  str : Json → String
  dumps : Json → String
  loads : String → Option Json
  int : String → Option ℤ
  decimalText : String → Option String

def types : List String := ["decimal", "integer", "string", "boolean", "json"]

def stringMax : ℕ := 2000

variable (py : Reads)

/-- The text of a raw value. -/
def rawText : Json → String
  | .bool b => if b then "true" else "false"
  | .arr vs => py.dumps (.arr vs)
  | .obj fs => py.dumps (.obj fs)
  | .null => ""
  | raw => strip (py.str raw)

/-- The raw value is a float. -/
def isFloat : Json → Bool
  | .float _ => true
  | _ => false

/-- `text.lower()`, as far as the words of a boolean come out. -/
def lower (text : String) : String := String.ofList (text.toList.map Char.toLower)

/-- The canonical text of a type that is not a string, if the text is one of its values. -/
def typedText (settingType : String) (raw : Json) (text : String) : Option String :=
  if settingType = "integer" then
    if isFloat raw || '.' ∈ text.toList then none
    else (py.int text).map fun n => String.ofList (Json.intText n)
  else if settingType = "decimal" then py.decimalText text
  else if settingType = "boolean" then
    if lower text ∈ ["true", "1", "yes"] then some "true"
    else if lower text ∈ ["false", "0", "no"] then some "false"
    else none
  else (py.loads text).map py.dumps

def canonical (settingType : String) (raw : Json) : Except Failure String :=
  let text := rawText py raw
  if settingType ∉ types then
    .error (platformError ("type must be one of " ++ ", ".intercalate types ++ ".") "INVALID_TYPE"
      "setting_type")
  else if settingType = "string" then
    if stringMax < text.length then
      .error (platformError ("A string setting is at most " ++ stringMax.repr ++ " characters.")
        "INVALID_VALUE" "value")
    else .ok text
  else
    match typedText py settingType raw text with
    | none => .error (platformError ("That is not a valid " ++ settingType ++ ".") "INVALID_VALUE"
        "value")
    | some text => .ok text

/-! ## Writing a setting -/

/-- `apply_change`: the row, whether it changed, and the settings. -/
def applyChange (s : Settings) (row : Setting) : Setting × Bool × Settings :=
  if s.get? row.key = some row then (row, false, s) else (row, true, s.put row)

/-! ## Proposing a change -/

/-- What the caller of an action brings along: who the operators are and who of them holds
`platform.settings` at the root, how long a request waits, the node of a country and the
country a platform-wide request is filed under. -/
structure Office where
  actorLabel : ℕ → String
  holdsSettings : ℕ → Bool
  ttl : ℕ
  root : Option ℕ
  countryNode : String → Option ℕ
  policyCountry : String

/-- The arguments of `propose_change`. -/
structure Proposal where
  actor : ℕ
  key : String
  value : Json
  settingType : Option String := none
  description : Option String := none
  isSensitive : Option Bool := none
  reason : String

/-- Python's `a or b` of texts. -/
def orText (text : Option String) (default : String) : String :=
  match text with
  | none | some "" => default
  | some t => t

/-- The change that was proposed, as it would be written, and whether a checker is needed. -/
structure Change where
  row : Setting
  needsChecker : Bool
deriving DecidableEq, Repr

variable (office : Office)

/-- The checks of `propose_change`. -/
def checkChange (s : Settings) (p : Proposal) : Except Failure Change := do
  let key := strip p.key
  if !isKey key then
    .error (platformError "A key is UPPER_CASE letters, digits and \"_\" (3 to 128 characters)."
      "INVALID_KEY" "key")
  else if (strip p.reason).length < 5 then
    .error (platformError "A reason of at least 5 characters is required." "REASON_REQUIRED"
      "reason")
  else
    match deprecatedBy key with
    | some d => .error (.refused ⟨"DEPRECATED_KEY", 409, "key",
        key ++ " is deprecated and read-only. " ++ d.note ++ " See " ++ d.href ++ "."⟩)
    | none =>
        if !office.holdsSettings p.actor then
          .error (.refused ⟨"SCOPE_NOT_HELD", 403, "key",
            "Changing a setting needs platform.settings."⟩)
        else
          let row := s.get? key
          let settingType := orText p.settingType ((row.map (·.settingType)).getD "string")
          match canonical py settingType p.value with
          | .error f => .error f
          | .ok text =>
              let description := p.description.getD ((row.map (·.description)).getD "")
              if 500 < description.length then
                .error (platformError "A description is at most 500 characters."
                  "INVALID_DESCRIPTION" "description")
              else if row.isNone ∧ strip description = "" then
                .error (platformError "A description is required for a new setting."
                  "INVALID_DESCRIPTION" "description")
              else
                let was := row.any (·.isSensitive)
                -- a sensitive key can never be quietly turned into a visible one
                let sensitive := p.isSensitive.getD was || isSensitiveName key || was
                .ok ⟨⟨key, text, settingType, description, sensitive⟩, sensitive || was⟩

/-- `PLATFORM_SETTING_CHANGE`. -/
def settingChange : String := "platform.setting_change"

/-- The payload of a change. -/
def Setting.payload (row : Setting) : Json :=
  .obj [("key", .str row.key), ("value", .str row.value), ("setting_type", .str row.settingType),
    ("description", .str row.description), ("is_sensitive", .bool true),
    ("value_fingerprint", .str (fingerprint row.value))]

def Setting.changeKey (row : Setting) : String :=
  "platform_setting:" ++ row.key ++ ":" ++ fingerprint row.value

/-- The request `propose_change` raises for a checked change. -/
def Proposal.call {ω ε : Type} (p : Proposal) (row : Setting) : RaiseCall ω ε where
  actionKey := settingChange
  actor := some p.actor
  actorLabel := office.actorLabel p.actor
  systemLabel := ""
  country := office.policyCountry
  amount := none
  currency := ""
  scopeNode := office.root
  targetType := "platform_setting"
  targetId := row.key
  payload := row.payload
  execute := none
  idempotencyKey := row.changeKey
  reason := strip p.reason
  ttl := office.ttl
  countryNode := office.countryNode office.policyCountry

/-- What `propose_change` comes to: the setting is written, or a request is raised. -/
inductive Proposed (ω ε : Type) where
  | applied (row : Setting) (settings : Settings)
  | raised (call : RaiseCall ω ε)

/-- `propose_change`, up to the request it raises. -/
def proposeChange {ω ε : Type} (s : Settings) (p : Proposal) : Except Failure (Proposed ω ε) :=
  match checkChange py office s p with
  | .error f => .error f
  | .ok change =>
      if change.needsChecker then .ok (.raised (p.call office change.row))
      else
        let row := { change.row with isSensitive := false }
        .ok (.applied row (applyChange s row).2.2)

/-! ## Carrying it out -/

def payloadText (v : Option Json) : String :=
  match v with
  | some (.str t) => t
  | _ => ""

def executeSettingChange (r : ApprovalRequest) (s : Settings) : ExecutorAnswer × Settings :=
  let key := payloadText (r.payload.get? "key")
  let settingType := payloadText (r.payload.get? "setting_type")
  match deprecatedBy key with
  | some _ => (.refused "DEPRECATED_KEY" (key ++ " is deprecated and read-only."), s)
  | none =>
      match canonical py settingType ((r.payload.get? "value").getD .null) with
      | .error (.refused e) => (.refused e.code e.message, s)
      | .error (.raised m) => (.raised m, s)
      | .ok value =>
          let row : Setting := ⟨key, value, settingType,
            payloadText (r.payload.get? "description"),
            truthyJson ((r.payload.get? "is_sensitive").getD .null)⟩
          let (row, changed, s) := applyChange s row
          (.done (.obj [("key", .str row.key), ("changed", .bool changed)]), s)

end SaaradhiGo.PlatformOps
