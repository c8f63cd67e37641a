/-
Requests for zone changes: what a maker proposes and what an approval executes.

A proposal is checked and stored as a payload with the whole resulting zone; the executor checks
the payload once more, against the world as its queries read it, writes the zone and appends a
revision.
-/
import SaaradhiGo.Zones.World

namespace SaaradhiGo.Zones

open Python

/-- The places a maker reaches and may write zones in. -/
structure Actor where
  reaches : String → Bool
  holdsWrite : String → Bool

/-- The payload of a request. -/
inductive Payload where
  | create (values : ZoneValues)
  | update (zone : String) (baseVersion : ℕ) (values : ZoneValues)
  | restore (zone : String) (baseVersion : ℕ) (version : ℕ) (values : ZoneValues)
  | deactivate (zone : String) (baseVersion : ℕ)
  | reactivate (zone : String) (baseVersion : ℕ)

/-- What a maker asks for. -/
inductive Proposal where
  | create (raw : Raw)
  | update (zone : String) (changes : Raw)
  | deactivate (zone : String)
  | reactivate (zone : String)
  | restore (zone : String) (version : Json)

/-! ## Proposing -/

section Propose

variable (env : Env)

def needReason (reason : String) : Except Refusal Unit :=
  if strip reason = "" then .error ⟨"REASON_REQUIRED", "reason"⟩ else .ok ()

def cityNodeInScope (w : World) (actor : Actor) (code : String) : Except Refusal GeoNode :=
  match (w.nodes.get? code).filter fun n => actor.reaches n.code with
  | none => .error ⟨"NOT_IN_SCOPE", "geo_node"⟩
  | some node =>
      if node.kind ≠ .city then .error ⟨"GEO_NODE_NOT_CITY", "geo_node"⟩
      else if !actor.holdsWrite node.code then .error ⟨"SCOPE_NOT_HELD", "geo_node"⟩
      else .ok node

def zoneWriteGate (actor : Actor) (zone : ZoneValues) : Except Refusal Unit :=
  if zone.geoNode.any actor.holdsWrite then .ok () else .error ⟨"SCOPE_NOT_HELD", "zone"⟩

/-- `==` of two zones, field by field. -/
def ZoneValues.same (v b : ZoneValues) : Bool :=
  decide (v.code = b.code ∧ v.geoNode = b.geoNode ∧ v.isActive = b.isActive ∧ v.name = b.name ∧
    v.country = b.country ∧ v.stateCode = b.stateCode ∧ v.city = b.city ∧
    v.zoneType = b.zoneType ∧ v.parent = b.parent ∧ v.priority = b.priority ∧
    v.currency = b.currency ∧ v.timezoneName = b.timezoneName ∧
    v.distanceUnit = b.distanceUnit ∧ v.taxMode = b.taxMode ∧ v.perTripFee = b.perTripFee ∧
    v.perTripFeeLabel = b.perTripFeeLabel) &&
  env.py.same v.polygon b.polygon && env.py.same v.metadata b.metadata

def proposeCreate (w : World) (actor : Actor) (raw : Raw) (reason : String) :
    Except Refusal Payload := do
  let c ← cleanValues env raw none
  needReason reason
  let node ← cityNodeInScope w actor (c.values.geoNode.getD "")
  if node.country ≠ some c.values.country then .error ⟨"COUNTRY_MISMATCH", "country"⟩
  else if (w.zones.get? c.values.code).isSome then .error ⟨"ZONE_EXISTS", "code"⟩
  else do
    checkWorld env (fun _ => w) c.values c.geometry none
    return .create c.values

def updateRaw (changes : Raw) : Raw :=
  { changes with
    marketOverrideReason := some (changes.marketOverrideReason.getD (.str "")) }

def proposeUpdate (w : World) (actor : Actor) (zone : ZoneValues) (changes : Raw)
    (reason : String) : Except Refusal Payload := do
  zoneWriteGate actor zone
  needReason reason
  let c ← cleanValues env (updateRaw changes) (some zone)
  if c.values.same env zone then .error ⟨"NO_CHANGE", "general"⟩
  else do
    checkWorld env (fun _ => w) c.values c.geometry (some zone.code)
    return .update zone.code (currentVersion w zone.code) c.values

def proposeDeactivate (w : World) (actor : Actor) (zone : ZoneValues) (reason : String) :
    Except Refusal Payload := do
  zoneWriteGate actor zone
  needReason reason
  if !zone.isActive then .error ⟨"ALREADY_INACTIVE", "zone"⟩
  else do
    checkCanDeactivate (fun _ => w) zone
    return .deactivate zone.code (currentVersion w zone.code)

def proposeReactivate (w : World) (actor : Actor) (zone : ZoneValues) (reason : String) :
    Except Refusal Payload := do
  zoneWriteGate actor zone
  needReason reason
  if zone.isActive then .error ⟨"ALREADY_ACTIVE", "zone"⟩
  else if !env.sh.readable zone.polygon then
    -- `to_geometry` raises
    .error ⟨"SERVER_ERROR", "general"⟩
  else do
    checkWorld env (fun _ => w) { zone with isActive := true } (env.sh.shape zone.polygon)
      (some zone.code)
    return .reactivate zone.code (currentVersion w zone.code)

def revision? (w : World) (zone : String) (version : ℤ) : Option Revision :=
  (revisionsOf w zone).find? fun r => r.version = version

/-- The body of a restore: the editable fields of the snapshot, and a reason. -/
def restoreRaw (r : Revision) : Raw :=
  { r.snapshot.raw (some (.str ("restored from revision " ++ toString r.version))) with
    code := none
    geoNode := none
    isActive := none }

def proposeRestore (w : World) (actor : Actor) (zone : ZoneValues) (version : Json)
    (reason : String) : Except Refusal Payload := do
  zoneWriteGate actor zone
  needReason reason
  match Python.int env.py version with
  | none => .error ⟨"INVALID_NUMBER", "version"⟩
  | some n =>
      match revision? w zone.code n with
      | none => .error ⟨"REVISION_NOT_FOUND", "version"⟩
      | some rev => do
          let c ← cleanValues env (restoreRaw rev) (some zone)
          if c.values.same env zone then .error ⟨"NO_CHANGE", "version"⟩
          else do
            checkWorld env (fun _ => w) c.values c.geometry (some zone.code)
            return .restore zone.code (currentVersion w zone.code) rev.version c.values

/-- A proposal for the zone with a code. -/
def onZone (w : World) (code : String) (f : ZoneValues → Except Refusal Payload) :
    Except Refusal Payload :=
  match w.zones.get? code with
  | none => .error ⟨"NOT_FOUND", "zone"⟩
  | some zone => f zone

/-- The payload of a proposal that is accepted. -/
def propose (w : World) (actor : Actor) (reason : String) : Proposal → Except Refusal Payload
  | .create raw => proposeCreate env w actor raw reason
  | .update code changes => onZone w code fun z => proposeUpdate env w actor z changes reason
  | .deactivate code => onZone w code fun z => proposeDeactivate w actor z reason
  | .reactivate code => onZone w code fun z => proposeReactivate env w actor z reason
  | .restore code version => onZone w code fun z => proposeRestore env w actor z version reason

end Propose

/-! ## Executing -/

section Execute

variable (env : Env)

/-- A refusal of the checks refuses the execution. -/
def refuse {α : Type} : Except Refusal α → Except Stop α
  | .ok a => .ok a
  | .error r => .error (.refused r.code)

/-- A refusal where it is not caught. -/
def raise {α : Type} : Except Refusal α → Except Stop α
  | .ok a => .ok a
  | .error _ => .error .raised

/-- `_apply`: the row, with the parent read once more. -/
def apply (view : View) (v : ZoneValues) : Except Stop ZoneValues := do
  let parent ← raise (parentZone (view .applied) v)
  saved env.py { v with parent := parent.map (·.code) }

def executeCreate (view : View) (w : World) (values : ZoneValues) : Except Stop World :=
  match (values.geoNode.bind w.nodes.get?).filter fun n => n.kind = .city with
  | none => .error (.refused "TARGET_GONE")
  | some node =>
      if ((view .existing).zones.get? values.code).isSome then .error (.refused "ZONE_EXISTS")
      else do
        let c ← refuse (cleanValues env (values.raw none) none)
        refuse (checkWorld env view c.values c.geometry none)
        let row ← apply env view { c.values with geoNode := some node.code }
        -- the code is unique
        match w.zones.insert? row with
        | none => .error .raised
        | some zones => return writeRevision { w with zones } row .create none

/-- `_locked`: the row under its lock, unless the zone has changed. -/
def locked (w : World) (zone : String) (baseVersion : ℕ) : Except Stop ZoneValues :=
  match w.zones.get? zone with
  | none => .error (.refused "TARGET_GONE")
  | some z =>
      if currentVersion w zone ≠ baseVersion then .error (.refused "ZONE_CHANGED") else .ok z

/-- The row is written and a revision is appended. -/
def World.record (w : World) (row : ZoneValues) (kind : ChangeKind) (restoredFrom : Option ℕ) :
    World :=
  writeRevision { w with zones := w.zones.put row } row kind restoredFrom

def executeValues (view : View) (w : World) (kind : ChangeKind) (zone : String)
    (baseVersion : ℕ) (values : ZoneValues) (restoredFrom : Option ℕ) : Except Stop World := do
  let z ← locked w zone baseVersion
  let c ← refuse (cleanValues env (values.raw (some (.str "approved request"))) (some z))
  refuse (checkWorld env view c.values c.geometry (some z.code))
  let row ← apply env view c.values
  return (ensureBaseline w z).record row kind restoredFrom

/-- `_execute_status`, of a deactivation. -/
def executeDeactivate (view : View) (w : World) (zone : String) (baseVersion : ℕ) :
    Except Stop World := do
  let z ← locked w zone baseVersion
  if !z.isActive then .error (.refused "ALREADY_INACTIVE")
  else do
    refuse (checkCanDeactivate view z)
    let row ← saved env.py { z with isActive := false }
    return (ensureBaseline w z).record row .deactivate none

/-- `_execute_status`, of a reactivation. -/
def executeReactivate (view : View) (w : World) (zone : String) (baseVersion : ℕ) :
    Except Stop World := do
  let z ← locked w zone baseVersion
  if z.isActive then .error (.refused "ALREADY_ACTIVE")
  else if !env.sh.readable z.polygon then .error .raised
  else do
    refuse (checkWorld env view { z with isActive := true } (env.sh.shape z.polygon)
      (some z.code))
    let row ← saved env.py { z with isActive := true }
    return (ensureBaseline w z).record row .reactivate none

def execute (view : View) (w : World) : Payload → Except Stop World
  | .create values => executeCreate env view w values
  | .update zone baseVersion values =>
      executeValues env view w .update zone baseVersion values none
  | .restore zone baseVersion version values =>
      executeValues env view w .restore zone baseVersion values (some version)
  | .deactivate zone baseVersion => executeDeactivate env view w zone baseVersion
  | .reactivate zone baseVersion => executeReactivate env view w zone baseVersion

end Execute

end SaaradhiGo.Zones
