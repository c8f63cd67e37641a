/-
Approval requests: the actions that need a checker, the policy that says when, and who may
check.

A request is one maker's attempt at an action.  An action within the maker's limit leaves a
request too, approved by nobody and executed at once.  What the access model and the
settings answer about a user is read at the moment it is asked, so it is kept as a record of
functions beside the requests.
-/
import SaaradhiGo.Lib.Json
import SaaradhiGo.Lib.Table

namespace SaaradhiGo.Approvals

/-! ## Refusals -/

/-- `ApprovalError`: a refusal with a stable code. -/
structure ApprovalError where
  code : String
  status : ℕ
  field : String
  message : String
deriving DecidableEq, Repr

/-- How a call ends without an answer: it is refused, or an exception leaves it. -/
inductive Failure where
  | refused (e : ApprovalError)
  | raised (message : String)
deriving DecidableEq, Repr

def invalidRequest (message code field : String) : Failure := .refused ⟨code, 400, field, message⟩

def notPermitted (message code : String) : Failure := .refused ⟨code, 403, "general", message⟩

def wrongState (message code : String) : Failure := .refused ⟨code, 409, "status", message⟩

/-! ## Actions -/

/-- `Action`: what a checker of it must hold, and when a checker is always needed. -/
structure Action where
  key : String
  capability : String
  alwaysChecker : Bool := false
  multiTargetKey : String := ""
  forceCheckerKey : String := ""
deriving DecidableEq, Repr

def actions : List Action :=
  [{ key := "support.refund", capability := "support.refund" },
    { key := "finance.refund", capability := "support.refund" },
    { key := "finance.adjust", capability := "finance.adjust",
      forceCheckerKey := "requires_checker" },
    { key := "finance.payout", capability := "finance.payout",
      multiTargetKey := "withdrawal_ids" },
    { key := "pricing.change", capability := "pricing.write" },
    { key := "driver.deactivate", capability := "driver.deactivate" },
    { key := "bulk.action", capability := "admin.manage" },
    { key := "approvals.policy_change", capability := "platform.settings",
      alwaysChecker := true },
    { key := "command_centre.threshold_change", capability := "platform.settings",
      alwaysChecker := true },
    { key := "support.sla_change", capability := "support.sla" },
    { key := "finance.payout_config_change", capability := "finance.config" },
    { key := "finance.wallet_credit", capability := "finance.adjust" },
    { key := "zone.change", capability := "zone.write" },
    { key := "notification.template_change", capability := "notify.template" },
    { key := "notification.campaign_send", capability := "notify.campaign" },
    { key := "promotion.launch", capability := "promo.read" },
    { key := "promotion.budget_increase", capability := "promo.read" },
    { key := "fraud.rule_change", capability := "fraud.rules" },
    { key := "finance.payout_hold", capability := "finance.payout", alwaysChecker := true },
    { key := "platform.city_status", capability := "platform.settings" },
    { key := "platform.flag_change", capability := "platform.settings" },
    { key := "platform.app_version", capability := "platform.settings" },
    { key := "platform.setting_change", capability := "platform.settings" },
    { key := "privacy.erasure", capability := "privacy.manage", alwaysChecker := true }]

def actionFor (key : String) : Option Action := actions.find? fun a => a.key = key

/-! ## Policies -/

/-- What a limit is measured in. -/
inductive LimitKind where
  | money
  | count
  | always
deriving DecidableEq, Repr

/-- The active `ApprovalPolicy` of a country and an action. -/
structure ApprovalPolicy where
  id : ℕ
  limitKind : LimitKind
  currency : String
  makerLimit : Option ℤ
deriving DecidableEq, Repr

/-- One character in upper case; the two whose upper case is a letter of ASCII are written
out. -/
def upperChar (c : Char) : Char :=
  if c = 'ı' then 'I' else if c = 'ſ' then 'S' else c.toUpper

/-- `str(text).upper().strip()`, as far as a text of capitals comes out. -/
def upperStrip (text : String) : String :=
  let chars := (text.toList.map upperChar).dropWhile Char.isWhitespace
  String.ofList (chars.reverse.dropWhile Char.isWhitespace).reverse

def countries : List String := ["IN", "US"]

def supportedCurrencies : List String := ["INR", "USD"]

/-- `repr` of a text without quotes and backslashes. -/
def pyRepr (text : String) : String := "'" ++ text ++ "'"

def checkCountry (country : String) : Except Failure String :=
  if upperStrip country ∈ countries then .ok (upperStrip country)
  else .error (invalidRequest ("Unknown country " ++ pyRepr country ++ ".") "UNKNOWN_COUNTRY"
    "country")

/-- `decide`: whether a checker is needed, and the policy that says so.  `policy` is the
active policy of the country for the action. -/
def decideChecker (actionKey country : String) (amount : Option ℤ) (currency : String)
    (policy : Option ApprovalPolicy) : Except Failure (Bool × Option ApprovalPolicy) :=
  match actionFor actionKey with
  | none => .error (invalidRequest ("Unknown maker-checker action " ++ pyRepr actionKey)
      "UNKNOWN_ACTION" "action_key")
  | some action =>
      match checkCountry country with
      | .error e => .error e
      | .ok country =>
          if action.alwaysChecker then .ok (true, none)
          else
            match policy with
            | none => .error (.refused ⟨"THRESHOLD_NOT_CONFIGURED", 409, "country",
                "No maker-checker threshold is configured for " ++ actionKey ++ " in " ++ country ++
                ". The action is blocked until a threshold is set " ++
                "(a maker-checker action of its own: approvals.policy_change)."⟩)
            | some policy =>
                match policy.makerLimit, amount with
                | none, _ => .ok (true, some policy)
                | some limit, amount =>
                    if policy.limitKind = .always then .ok (true, some policy)
                    else
                      match amount with
                      | none => .error (invalidRequest (actionKey ++ " in " ++ country ++
                          " is decided by amount; none was given.") "AMOUNT_REQUIRED" "amount")
                      | some amount =>
                          if amount < 0 then
                            .error (invalidRequest "amount must not be negative."
                              "AMOUNT_NEGATIVE" "amount")
                          else if policy.limitKind = .money ∧
                              upperStrip currency ≠ policy.currency then
                            .error (invalidRequest (actionKey ++ " in " ++ country ++
                              " is limited in " ++ policy.currency ++ "; this amount is in " ++
                              (if currency = "" then "no currency" else currency) ++ ".")
                              "CURRENCY_MISMATCH" "currency")
                          else .ok (limit < amount, some policy)

/-! ## Requests -/

/-- `STATUS_CHOICES`. -/
inductive RequestStatus where
  | requested
  /-- the executor is running, or the process died before it had -/
  | approved
  | rejected
  | executed
  | failed
  | cancelled
  | expired
deriving DecidableEq, Repr

def keyHeldStatuses : List RequestStatus := [.requested, .approved, .executed]

structure ApprovalRequest where
  id : ℕ
  actionKey : String
  country : String
  scopeNode : Option ℕ
  amount : Option ℤ
  currency : String
  policy : Option ℕ
  targetType : String
  targetId : String
  payload : Json
  requestReason : String
  makerId : ℕ
  makerLabel : String
  status : RequestStatus
  requestedAt : ℕ
  expiresAt : ℕ
  checkerId : Option ℕ
  decisionReason : String
  decidedAt : Option ℕ
  /-- the maker decided it, which only the service writes -/
  selfApproved : Bool
  executedAt : Option ℕ
  result : Json
  errorCode : String
  error : String
  idempotencyKey : String

/-- `text[:n]`. -/
def sliceTo (n : ℕ) (text : String) : String := String.ofList (text.toList.take n)

/-! ## Who may check -/

/-- What the access model and the settings answer at one moment. -/
structure Authority where
  isOperator : ℕ → Bool
  /-- `granted(user, 'approval.check')` -/
  holdsCheck : ℕ → Bool
  /-- `may_act(user, permission, node)` -/
  mayAct : ℕ → String → Option ℕ → Bool
  isSuperAdmin : ℕ → Bool
  isBreakGlass : ℕ → Bool
  /-- the active users who are superusers or hold an active assignment with
  `approval.check` -/
  candidates : List ℕ
  /-- `APPROVALS_SOLO_SUPER_ADMIN` -/
  soloSuperAdmin : Bool

namespace Authority

def mayCheck (auth : Authority) (r : ApprovalRequest) (checker : ℕ) : Except Failure Unit :=
  if !auth.holdsCheck checker then
    .error (notPermitted "You do not hold approval.check." "CHECKER_LACKS_CAPABILITY")
  else if !auth.mayAct checker "approval.check" r.scopeNode then
    .error (.refused ⟨"NOT_FOUND", 404, "request_id",
      "No approval request matches id " ++ r.id.repr ++ "."⟩)
  else
    match actionFor r.actionKey with
    | none => .error (.raised ("Unknown maker-checker action " ++ pyRepr r.actionKey))
    | some action =>
        if !auth.mayAct checker action.capability r.scopeNode then
          .error (notPermitted ("Checking " ++ r.actionKey ++ " needs " ++ action.capability ++
            " in the request's scope, as well as approval.check.")
            "CHECKER_LACKS_ACTION_CAPABILITY")
        else .ok ()

def possibleCheckers (auth : Authority) (r : ApprovalRequest) : List ℕ :=
  auth.candidates.filter fun u => u ≠ r.makerId && !auth.isBreakGlass u &&
    (auth.mayCheck r u).isOk

def selfApprovalAllowed (auth : Authority) (r : ApprovalRequest) (user : ℕ) : Bool :=
  auth.soloSuperAdmin && user = r.makerId && auth.isSuperAdmin user && !auth.isBreakGlass user &&
    (auth.possibleCheckers r).isEmpty

def checkChecker (auth : Authority) (r : ApprovalRequest) (checker : ℕ) : Except Failure Unit :=
  match auth.mayCheck r checker with
  | .error e => .error e
  | .ok () =>
      if checker = r.makerId ∧ !auth.selfApprovalAllowed r checker then
        .error (notPermitted "The checker must be a different admin from the maker."
          "SELF_APPROVAL")
      else .ok ()

lemma selfApprovalAllowed_of_checkChecker {auth : Authority} {r : ApprovalRequest}
    (h : auth.checkChecker r r.makerId = .ok ()) : auth.selfApprovalAllowed r r.makerId = true := by
  rw [checkChecker] at h
  split at h
  · cases h
  split at h
  · cases h
  · rename_i hallowed
    simpa using hallowed

end Authority

def selfApprovalMinReason : ℕ := 10

/-- The length of `text.strip()`. -/
def strippedLength (text : String) : ℕ :=
  ((text.toList.dropWhile Char.isWhitespace).reverse.dropWhile Char.isWhitespace).length

def requireSelfReason (r : ApprovalRequest) (own : Bool) (reason : String) : Except Failure Unit :=
  if own ∧ r.status = .requested ∧ strippedLength reason < selfApprovalMinReason then
    .error (invalidRequest ("Deciding your own request needs a reason of at least " ++
      selfApprovalMinReason.repr ++ " characters.") "REASON_REQUIRED" "reason")
  else .ok ()

end SaaradhiGo.Approvals
