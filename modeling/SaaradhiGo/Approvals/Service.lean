/-
The approvals service: raising a request, deciding it, running its executor, and the sweep
that expires it.

A decision is one transaction on the locked row.  What comes before and after it is not: the
look for a request that holds the key, the insert, the executor and the conditional update
that finishes the row are steps of their own, and the process may die between any two.  Each
call is therefore a program over the store (`Interleave.Prog`).

The store keeps two records that the code does not: who moved a request to `approved`, and
whose call ran its executor.  Executors and the callbacks of a closed request act on a state
`ω` of the other modules, which the service does not look at.
-/
import SaaradhiGo.Lib.Interleave
import SaaradhiGo.Approvals.Request

namespace SaaradhiGo.Approvals

open Interleave

/-! ## The store -/

/-- What an executor answers. -/
inductive ExecutorAnswer where
  | done (result : Json)
  /-- `ExecutionRefused` -/
  | refused (code message : String)
  | raised (message : String)

/-- An executor: from the request, what the surroundings decide about it, and the other
modules' state, its answer and their state after it. -/
abbrev Executor (ω ε : Type) : Type := ApprovalRequest → ε → ω → ExecutorAnswer × ω

/-- How a request ends without running. -/
inductive Closing where
  | rejected
  | cancelled
  | expired
deriving DecidableEq, Repr

/-- `registry`: the executor of each action and the callbacks of a closed request, all of
them together; an error of a callback is swallowed with what it wrote. -/
structure Registry (ω ε : Type) where
  executorFor : String → Option (Executor ω ε)
  notifyClosed : ApprovalRequest → Closing → ε → ω → ω

/-- The requests, what decides about them, and the other modules' state.  `τ` names the
calls. -/
structure Store (τ ω : Type) where
  requests : Table ApprovalRequest.id
  /-- The next primary key of a request. -/
  nextId : ℕ
  /-- The active policy of a country for an action. -/
  policies : String → String → Option ApprovalPolicy
  authority : Authority
  now : ℕ
  world : ω
  /-- Which call moved a request to `approved`, and which. -/
  moved : List (τ × ℕ)
  /-- Which call ran the executor of a request, and of which. -/
  ran : List (τ × ℕ)

variable {τ ω ε : Type}

namespace Store

/-- `_existing`: the request that holds the key. -/
def existing (s : Store τ ω) (key : String) : Option ApprovalRequest :=
  s.requests.rows.find? fun r => r.idempotencyKey = key && r.status ∈ keyHeldStatuses

def save (s : Store τ ω) (r : ApprovalRequest) : Store τ ω :=
  { s with requests := s.requests.put r }

/-- Insert a request under a fresh primary key; the unique constraint on the keys that are
held refuses it otherwise. -/
def create (s : Store τ ω) (caller : τ) (r : ApprovalRequest) :
    Option ApprovalRequest × Store τ ω :=
  if r.status ∈ keyHeldStatuses ∧ (s.existing r.idempotencyKey).isSome then (none, s)
  else
    let r := { r with id := s.nextId }
    let moved := if r.status = .approved then (caller, r.id) :: s.moved else s.moved
    (some r, { s.save r with nextId := s.nextId + 1, moved })

def isPastExpiry (s : Store τ ω) (r : ApprovalRequest) : Bool := r.expiresAt ≤ s.now

def isOverdue (s : Store τ ω) (r : ApprovalRequest) : Bool :=
  r.status = .requested && s.isPastExpiry r

/-- Save a request that is closed and tell the modules. -/
def close (reg : Registry ω ε) (e : ε) (closing : Closing) (s : Store τ ω) (r : ApprovalRequest) :
    Store τ ω :=
  { s.save r with world := reg.notifyClosed r closing e s.world }

end Store

/-- What a decision comes to. -/
inductive Decision where
  /-- the row is overdue, and expires outside the transaction -/
  | overdue
  | again (r : ApprovalRequest)
  | made (r : ApprovalRequest)

/-- A decision on a request that is not open any more. -/
def notOpen (r : ApprovalRequest) (status verb : String) : Failure :=
  wrongState ("This request is " ++ status ++ "; only a requested one can be " ++ verb ++ ".")
    (if r.checkerId.isSome then "ALREADY_DECIDED" else "NOT_OPEN")

/-- The row a checker has decided. -/
def ApprovalRequest.decided (r : ApprovalRequest) (status : RequestStatus) (checker now : ℕ)
    (reason : String) : ApprovalRequest :=
  { r with
    status
    checkerId := some checker
    selfApproved := checker = r.makerId
    decidedAt := some now
    decisionReason := sliceTo 10000 reason }

/-- The row the maker has cancelled. -/
def ApprovalRequest.withdrawn (r : ApprovalRequest) (now : ℕ) (reason : String) :
    ApprovalRequest :=
  { r with
    status := .cancelled
    decidedAt := some now
    decisionReason := sliceTo 10000 reason }

def RequestStatus.text : RequestStatus → String
  | requested => "requested"
  | approved => "approved"
  | rejected => "rejected"
  | executed => "executed"
  | failed => "failed"
  | cancelled => "cancelled"
  | expired => "expired"

namespace Store

def doesNotExist : Failure := .raised "ApprovalRequest matching query does not exist."

/-- The transaction of `approve`. -/
def approve (s : Store τ ω) (caller : τ) (id checker : ℕ) (reason : String) :
    Except Failure Decision × Store τ ω :=
  match s.requests.get? id with
  | none => (.error doesNotExist, s)
  | some r =>
      let own : Bool := checker = r.makerId
      match s.authority.checkChecker r checker with
      | .error f => (.error f, s)
      | .ok () =>
          match requireSelfReason r own reason with
          | .error f => (.error f, s)
          | .ok () =>
              if s.isOverdue r then (.ok .overdue, s)
              else if r.status ≠ .requested then
                if r.checkerId = some checker ∧
                    (r.status = .approved ∨ r.status = .executed ∨ r.status = .failed) then
                  (.ok (.again r), s)
                else (.error (notOpen r r.status.text "approved"), s)
              else
                let r := r.decided .approved checker s.now reason
                (.ok (.made r), { s.save r with moved := (caller, r.id) :: s.moved })

/-- The transaction of `reject`. -/
def reject (reg : Registry ω ε) (e : ε) (s : Store τ ω) (id checker : ℕ) (reason : String) :
    Except Failure Decision × Store τ ω :=
  match s.requests.get? id with
  | none => (.error doesNotExist, s)
  | some r =>
      let own : Bool := checker = r.makerId
      match s.authority.checkChecker r checker with
      | .error f => (.error f, s)
      | .ok () =>
          match requireSelfReason r own reason with
          | .error f => (.error f, s)
          | .ok () =>
              if s.isOverdue r then (.ok .overdue, s)
              else if r.status ≠ .requested then
                if r.checkerId = some checker ∧ r.status = .rejected then (.ok (.again r), s)
                else (.error (notOpen r r.status.text "rejected"), s)
              else
                let r := r.decided .rejected checker s.now reason
                (.ok (.made r), s.close reg e .rejected r)

/-- The transaction of `cancel`. -/
def cancel (reg : Registry ω ε) (e : ε) (s : Store τ ω) (id maker : ℕ) (reason : String) :
    Except Failure Decision × Store τ ω :=
  match s.requests.get? id with
  | none => (.error doesNotExist, s)
  | some r =>
      if maker ≠ r.makerId then
        (.error (notPermitted "Only the maker may cancel a request." "NOT_MAKER"), s)
      else if s.isOverdue r then (.ok .overdue, s)
      else if r.status ≠ .requested then
        if r.status = .cancelled then (.ok (.again r), s)
        else (.error (wrongState ("This request is " ++ r.status.text ++
          "; only a requested one can be cancelled.") "NOT_OPEN"), s)
      else
        let r := r.withdrawn s.now reason
        (.ok (.made r), s.close reg e .cancelled r)

/-- `_expire_if_due` on the locked row: whether it expired. -/
def expireIfDue (reg : Registry ω ε) (e : ε) (s : Store τ ω) (id : ℕ) :
    Except Failure Bool × Store τ ω :=
  match s.requests.get? id with
  | none => (.error doesNotExist, s)
  | some r =>
      if s.isOverdue r then (.ok true, s.close reg e .expired { r with status := .expired })
      else (.ok false, s)

def due (s : Store τ ω) : List ℕ :=
  (s.requests.rows.filter fun r => r.status = .requested && s.isPastExpiry r).map (·.id)

/-- How an approved request is finished. -/
inductive Finish where
  | executed (result : Json)
  | failed (errorCode error : String)

/-- The row of an approved request that is finished. -/
def Finish.row (r : ApprovalRequest) (now : ℕ) : Finish → ApprovalRequest
  | executed result => { r with
      status := .executed
      executedAt := some now
      result := result
      errorCode := ""
      error := "" }
  | failed errorCode error => { r with
      status := .failed
      executedAt := some now
      result := .obj []
      errorCode := errorCode
      error := error }

/-- `_finish`: the conditional update of an approved row, which then is read again. -/
def finish (s : Store τ ω) (id : ℕ) (f : Finish) : Except Failure ApprovalRequest × Store τ ω :=
  match s.requests.get? id with
  | none => (.error doesNotExist, s)
  | some r =>
      if r.status = .approved then (.ok (f.row r s.now), s.save (f.row r s.now))
      else (.ok r, s)

end Store

/-! ## The operations -/

/-- The operations of the service. -/
inductive Op (τ ω ε : Type) where
  | activePolicy (country actionKey : String)
  | existing (key : String)
  | create (caller : τ) (r : ApprovalRequest)
  /-- `record_admin_action` outside a transaction of the service -/
  | audit
  | approve (caller : τ) (id checker : ℕ) (reason : String)
  | reject (id checker : ℕ) (reason : String)
  | cancel (id maker : ℕ) (reason : String)
  | expireIfDue (id : ℕ)
  | due
  | run (caller : τ) (r : ApprovalRequest) (executor : Executor ω ε)
  | finish (id : ℕ) (f : Store.Finish)

/-- What an operation returns when it does not fail. -/
@[reducible] def Val : Op τ ω ε → Type
  | .activePolicy _ _ => Option ApprovalPolicy
  | .existing _ => Option ApprovalRequest
  | .create _ _ => Option ApprovalRequest
  | .audit => Unit
  | .approve _ _ _ _ => Decision
  | .reject _ _ _ => Decision
  | .cancel _ _ _ => Decision
  | .expireIfDue _ => Bool
  | .due => List ℕ
  | .run _ _ _ => ExecutorAnswer
  | .finish _ _ => ApprovalRequest

@[reducible] def Ans (o : Op τ ω ε) : Type := Except Failure (Val o)

/-- What the surroundings decide about one operation: whether the database raises, which
rolls its transaction back, and what the executor or the callbacks do. -/
structure Choice (ε : Type) where
  raises : Option String
  hook : ε

/-- A statement or a transaction: the database raises and nothing is written, or it is
done. -/
def attempt {α : Type} (c : Choice ε) (s : Store τ ω) (done : Except Failure α × Store τ ω) :
    Except Failure α × Store τ ω :=
  match c.raises with
  | some m => (.error (.raised m), s)
  | none => done

/-- One operation on the store.  An executor that raises has answered so. -/
def exec (reg : Registry ω ε) : Exec (Op τ ω ε) Ans (Store τ ω) (Choice ε)
  | .activePolicy country actionKey, c, s => attempt c s (.ok (s.policies country actionKey), s)
  | .existing key, c, s => attempt c s (.ok (s.existing key), s)
  | .create caller r, c, s => attempt c s (.ok (s.create caller r).1, (s.create caller r).2)
  | .audit, c, s => attempt c s (.ok (), s)
  | .approve caller id checker reason, c, s => attempt c s (s.approve caller id checker reason)
  | .reject id checker reason, c, s => attempt c s (s.reject reg c.hook id checker reason)
  | .cancel id maker reason, c, s => attempt c s (s.cancel reg c.hook id maker reason)
  | .expireIfDue id, c, s => attempt c s (s.expireIfDue reg c.hook id)
  | .due, c, s => attempt c s (.ok s.due, s)
  | .run caller r executor, c, s =>
      (.ok (executor r c.hook s.world).1,
        { s with world := (executor r c.hook s.world).2, ran := (caller, r.id) :: s.ran })
  | .finish id f, c, s => attempt c s (s.finish id f)

/-! ## The calls -/

/-- What a call returns. -/
inductive Reply where
  | outcome (r : ApprovalRequest) (executed duplicate : Bool)
  | decided (r : ApprovalRequest)
  | expired (count : ℕ)
  | failed (f : Failure)

abbrev Program (τ ω ε : Type) : Type := Prog (Op τ ω ε) Ans Reply

/-- Perform an operation and go on with what it returns; a failure leaves the call. -/
def perform (o : Op τ ω ε) (k : Val o → Program τ ω ε) : Program τ ω ε :=
  .op o fun
    | .ok x => k x
    | .error f => .ret (.failed f)

/-- How an executor's answer finishes the row; a result that is no object is wrapped. -/
def finishOf : ExecutorAnswer → Store.Finish
  | .done (.obj fs) => .executed (.obj fs)
  | .done result => .executed (.obj [("result", result)])
  | .refused code message => .failed code message
  | .raised message => .failed "EXECUTOR_ERROR" (sliceTo 2000 message)

/-- `_run`: the executor, the end of the row and the audit row. -/
def runExecutor (caller : τ) (r : ApprovalRequest) (executor : Executor ω ε)
    (k : ApprovalRequest → Program τ ω ε) : Program τ ω ε :=
  perform (.run caller r executor) fun answer =>
    perform (.finish r.id (finishOf answer)) fun r =>
      perform .audit fun _ => k r

def noExecutor (actionKey : String) : String :=
  "no executor is registered for " ++ pyRepr actionKey ++
  "; a request for it could be raised but never carried out"

/-- The arguments of `require_approval_or_execute`. -/
structure RaiseCall (ω ε : Type) where
  actionKey : String
  /-- the operator, or nobody: then `systemLabel` names the job -/
  actor : Option ℕ
  actorLabel : String
  systemLabel : String
  country : String
  amount : Option ℤ
  currency : String
  scopeNode : Option ℕ
  targetType : String
  targetId : String
  payload : Json
  /-- what runs within the limit instead of the registered executor -/
  execute : Option (Executor ω ε)
  idempotencyKey : String
  reason : String
  /-- `request_ttl`, and the node of the country -/
  ttl : ℕ
  countryNode : Option ℕ

/-- Python's truth of a JSON value. -/
def truthyJson : Json → Bool
  | .null => false
  | .bool b => b
  | .int n => n ≠ 0
  | .float f => f.intValue ≠ some 0
  | .str t => t ≠ ""
  | .arr vs => !vs.isEmpty
  | .obj fs => !fs.isEmpty

/-- A payload that names many targets, or asks for a checker, needs one. -/
def forcesChecker (action : Action) (payload : Json) : Bool :=
  (action.multiTargetKey ≠ "" &&
      match payload.get? action.multiTargetKey with
      | none | some .null => false
      | some _ => true) ||
    (action.forceCheckerKey ≠ "" &&
      match payload.get? action.forceCheckerKey with
      | none => false
      | some v => truthyJson v)

namespace RaiseCall

def systemMaker (c : RaiseCall ω ε) : Bool := c.actor.isNone && c.systemLabel ≠ ""

/-- The checks before anything is looked up. -/
def precheck (c : RaiseCall ω ε) (auth : Authority) : Except Failure Unit :=
  if !c.systemMaker && !(c.actor.any auth.isOperator) then
    .error (notPermitted "Only an operator may raise a maker-checker request." "NOT_AN_OPERATOR")
  else if c.idempotencyKey = "" then
    .error (invalidRequest "idempotency_key is required." "IDEMPOTENCY_KEY_REQUIRED"
      "idempotency_key")
  else .ok ()

/-- The currency of the row. -/
def checkCurrency (c : RaiseCall ω ε) : Except Failure String :=
  if c.currency = "" then .ok ""
  else if upperStrip c.currency ∈ supportedCurrencies then .ok (upperStrip c.currency)
  else .error (invalidRequest ("Unsupported currency " ++ pyRepr (upperStrip c.currency) ++ ".")
    "UNSUPPORTED_CURRENCY" "currency")

/-- The new request. -/
def row (c : RaiseCall ω ε) (now : ℕ) (country currency : String) (needsChecker : Bool)
    (policy : Option ApprovalPolicy) : ApprovalRequest where
  id := 0
  actionKey := c.actionKey
  country := country
  scopeNode := c.scopeNode.or c.countryNode
  amount := c.amount
  currency := currency
  policy := policy.map (·.id)
  targetType := sliceTo 64 c.targetType
  targetId := sliceTo 64 c.targetId
  payload := if truthyJson c.payload then c.payload else .obj []
  requestReason := sliceTo 10000 c.reason
  makerId := if c.systemMaker then 0 else c.actor.getD 0
  makerLabel := if c.systemMaker then sliceTo 255 c.systemLabel else c.actorLabel
  status := if needsChecker then .requested else .approved
  requestedAt := now
  expiresAt := now + c.ttl
  checkerId := none
  decisionReason := if needsChecker then "" else "within maker limit"
  decidedAt := if needsChecker then none else some now
  selfApproved := false
  executedAt := none
  result := .obj []
  errorCode := ""
  error := ""
  idempotencyKey := sliceTo 200 c.idempotencyKey

/-- What is decided before the key is looked up: the row to insert and the executor that
runs it within the limit. -/
def prepare (reg : Registry ω ε) (c : RaiseCall ω ε) (now : ℕ) (policy : Option ApprovalPolicy) :
    Except Failure (ApprovalRequest × Executor ω ε) :=
  match decideChecker c.actionKey c.country c.amount c.currency policy with
  | .error f => .error f
  | .ok (needs, policy) =>
      let forced := (actionFor c.actionKey).any fun action => forcesChecker action c.payload
      match checkCountry c.country, c.checkCurrency, reg.executorFor c.actionKey with
      | .error f, _, _ => .error f
      | .ok _, .error f, _ => .error f
      | .ok _, .ok _, none => .error (.refused ⟨"NO_EXECUTOR", 500, "general",
          noExecutor c.actionKey⟩)
      | .ok country, .ok currency, some registered =>
          .ok (c.row now country currency (needs || c.systemMaker || forced) policy,
            c.execute.getD registered)

end RaiseCall

def duplicate (r : ApprovalRequest) : Program τ ω ε := .ret (.outcome r false true)

/-- The race to another request with the same key is lost: that one is the answer. -/
def lostRace (key : String) : Program τ ω ε :=
  perform (.existing key) fun
    | some r => duplicate r
    | none => .ret (.failed (.raised "duplicate key value violates unique constraint"))

/-- `require_approval_or_execute`; `auth` and `now` are what the call finds. -/
def requireApprovalOrExecute (reg : Registry ω ε) (caller : τ) (c : RaiseCall ω ε)
    (auth : Authority) (now : ℕ) : Program τ ω ε :=
  match c.precheck auth with
  | .error f => .ret (.failed f)
  | .ok () =>
      perform (.activePolicy (upperStrip c.country) c.actionKey) fun policy =>
        match c.prepare reg now policy with
        | .error f => .ret (.failed f)
        | .ok (row, executor) =>
            perform (.existing c.idempotencyKey) fun
              | some r => duplicate r
              | none =>
                  if c.amount.any (· < 0) then
                    .ret (.failed (invalidRequest "amount must not be negative." "AMOUNT_NEGATIVE"
                      "amount"))
                  else
                    perform (.create caller row) fun
                      | none => lostRace c.idempotencyKey
                      | some r =>
                          perform .audit fun _ =>
                            if r.status = .requested then .ret (.outcome r false false)
                            else
                              runExecutor caller r executor fun r => .ret (.outcome r true false)

/-- `_expired`: the row expires in a transaction of its own, then the call is refused. -/
def expiredOutside (id : ℕ) : Program τ ω ε :=
  perform (.expireIfDue id) fun _ =>
    .ret (.failed (wrongState "This request expired before a checker acted." "EXPIRED"))

def approve (reg : Registry ω ε) (caller : τ) (id checker : ℕ) (reason : String) :
    Program τ ω ε :=
  perform (.approve caller id checker reason) fun
    | .overdue => expiredOutside id
    | .again r => .ret (.decided r)
    | .made r =>
        match reg.executorFor r.actionKey with
        | none =>
            perform (.finish r.id (.failed "NO_EXECUTOR" (noExecutor r.actionKey))) fun r =>
              perform .audit fun _ => .ret (.decided r)
        | some executor => runExecutor caller r executor fun r => .ret (.decided r)

def reject (id checker : ℕ) (reason : String) : Program τ ω ε :=
  if strippedLength reason = 0 then
    .ret (.failed (invalidRequest "A reason is required to reject a request." "REASON_REQUIRED"
      "reason"))
  else
    perform (.reject id checker reason) fun
      | .overdue => expiredOutside id
      | .again r => .ret (.decided r)
      | .made r => .ret (.decided r)

def cancel (id maker : ℕ) (reason : String) : Program τ ω ε :=
  perform (.cancel id maker reason) fun
    | .overdue => expiredOutside id
    | .again r => .ret (.decided r)
    | .made r => .ret (.decided r)

/-- The loop of `expire_stale`. -/
def expireEach : List ℕ → ℕ → Program τ ω ε
  | [], count => .ret (.expired count)
  | id :: ids, count =>
      perform (.expireIfDue id) fun expired => expireEach ids (if expired then count + 1 else count)

def expireStale : Program τ ω ε := perform .due fun ids => expireEach ids 0

/-- The calls of the service. -/
inductive Call (ω ε : Type) where
  | raise (c : RaiseCall ω ε)
  | approve (id checker : ℕ) (reason : String)
  | reject (id checker : ℕ) (reason : String)
  | cancel (id maker : ℕ) (reason : String)
  | expireStale

/-- The program of a call that is named `caller`. -/
def program (reg : Registry ω ε) (a : τ × Call ω ε) (s : Store τ ω) : Program τ ω ε :=
  match a.2 with
  | .raise c => requireApprovalOrExecute reg a.1 c s.authority s.now
  | .approve id checker reason => approve reg a.1 id checker reason
  | .reject id checker reason => reject id checker reason
  | .cancel id maker reason => cancel id maker reason
  | .expireStale => expireStale

end SaaradhiGo.Approvals
