/-
Scope, on a list and on a single row.

An operator holds roles at nodes of the tree of places.  A list is open to who holds its permission
anywhere, and is filtered by the scopes of all the roles the account holds; a single row is checked
with the permission at the node the row sits in.  Both are modelled here, with the table that says
how a list reaches the node of each model and the function that finds the node of one object.
-/
import SaaradhiGo.AdminAccess.GeoNode

namespace SaaradhiGo.AdminAccess.Scoping

/-! ## Permissions -/

def allPermissions : List String :=
  ["trip.read", "rider.read", "driver.read", "support.read", "finance.read", "report.read",
    "audit.read", "zone.read", "liveops.read", "liveops.aggregate", "pii.view", "trip.write",
    "trip.stale_resolve", "rider.write", "rider.note", "rider.flag", "rider.signout",
    "rider.block", "driver.write", "driver.kyc", "driver.deactivate", "support.reply",
    "support.refund", "support.macro", "support.sla", "support.dashboard", "finance.payout",
    "finance.adjust", "finance.config", "finance.aggregate", "finance.export", "pricing.write",
    "zone.write", "promo.read", "promo.write", "incentive.write", "fraud.read", "fraud.rules",
    "notify.send", "notify.read", "notify.template", "notify.campaign", "safety.read",
    "safety.respond", "safety.config", "fraud.review", "admin.manage", "platform.settings",
    "platform.read", "platform.city_pause", "platform.integrations.read", "approval.check",
    "privacy.manage"]

/-- `ScopedPermission`: a permission that is not in the catalogue is refused. -/
structure Permission where
  name : String
  known : name ∈ allPermissions

def legacyEquivalent : List (String × String) :=
  [("trip.read", "trip.read"), ("driver.read", "driver.read"), ("driver.kyc", "driver.kyc"),
    ("support.read", "support.read"), ("support.reply", "support.reply"),
    ("finance.read", "finance.read"), ("finance.payout", "finance.payout"),
    ("pricing.write", "pricing.write"), ("admin.manage", "ops.admin")]

def legacyOpenToAnyOperator : List String :=
  ["report.read", "pii.view", "safety.respond", "zone.read"]

def allCapabilities : List String :=
  ["trip.read", "driver.read", "driver.kyc", "support.read", "support.reply", "finance.read",
    "finance.payout", "pricing.write", "ops.admin"]

/-- `OPS_ROLE_CAPABILITIES`; what is no such role is the administrator's. -/
def opsRoleCapabilities : String → List String
  | "support" => ["trip.read", "driver.read", "support.read", "support.reply"]
  | "driver_ops" => ["trip.read", "driver.read", "driver.kyc", "support.read"]
  | "finance" => ["trip.read", "driver.read", "support.read", "finance.read", "finance.payout"]
  | _ => allCapabilities

/-! ## Accounts -/

structure AdminRole where
  permissions : List String
  isActive : Bool

structure AdminAssignment where
  role : AdminRole
  scope : GeoNode
  isActive : Bool

/-- An account and its assignments. -/
structure Account where
  isAuthenticated : Bool
  isSuperuser : Bool
  isStaff : Bool
  role : String
  opsRole : String
  assignments : List AdminAssignment

def isOperator (u : Account) : Bool :=
  u.isAuthenticated && (u.isSuperuser || (u.role = "admin" && u.isStaff))

def hasCapability (u : Account) (capability : String) : Bool :=
  allCapabilities.contains capability && isOperator u &&
    (opsRoleCapabilities (if u.isSuperuser then "admin" else u.opsRole)).contains capability

def activeAssignments (u : Account) : List AdminAssignment :=
  if u.isAuthenticated then u.assignments.filter fun a => a.isActive && a.role.isActive else []

def permissionsAt (u : Account) (node : Option GeoNode) : List String :=
  if u.isSuperuser then allPermissions
  else ((activeAssignments u).filter fun a => node.all a.scope.covers).flatMap
    fun a => a.role.permissions

def hasPermissionAt (u : Account) (p : Permission) (node : Option GeoNode) : Bool :=
  (permissionsAt u node).contains p.name

def isMigrated (u : Account) : Bool := !(activeAssignments u).isEmpty

/-- By which model an account is granted something. -/
inductive How where
  | new
  | legacy
  | denied
deriving DecidableEq, Repr

def granted (strict : Bool) (u : Account) (p : Permission) (node : Option GeoNode) : Bool × How :=
  if !isOperator u then (false, .denied)
  else if hasPermissionAt u p node then (true, .new)
  else if strict then (false, .denied)
  else if isMigrated u then (false, .denied)
  else if legacyOpenToAnyOperator.contains p.name then (true, .legacy)
  else if (legacyEquivalent.lookup p.name).any (hasCapability u) then (true, .legacy)
  else (false, .denied)

/-! ## Rows -/

structure ServiceZone where
  geoNode : Option GeoNode

structure Driver where
  homeCity : Option GeoNode

/-- `CustomUser`, with the driver profile if there is one. -/
structure User where
  driver : Option Driver

structure Trip where
  userId : User
  zone : Option ServiceZone

inductive AnchorSource where
  | blank
  | trip
  | gps
  | homeCity
  | unanchored
deriving DecidableEq, Repr

/-- A row of a model that `SCOPE_PATHS` names. -/
inductive Row where
  | trip (t : Trip)
  | driver (d : Driver)
  | withdrawalRequest (driver : Driver)
  | vehicle (driverId : Driver)
  | payment (tripId : Trip) (userId : User)
  | transactionHistory (tripId : Option Trip) (userId : User) (driverId : Driver)
  | serviceZone (z : ServiceZone)
  | geoNode (n : GeoNode)
  | rateCard (zone : ServiceZone)
  | serviceZoneRevision (zone : ServiceZone)
  | supplySample (city : GeoNode)
  | notificationMessage (city : Option GeoNode)
  | notificationTemplate (geoNode : Option GeoNode)
  | notificationCampaign (geoNode : Option GeoNode)
  | promotionCampaign (geoNode : Option GeoNode)
  | riskFlag (anchorNode : Option GeoNode)
  | commissionRule (geoNode : Option GeoNode)
  | sosEvent (anchorNode : Option GeoNode) (source : AnchorSource) (trip : Option Trip)
      (user : Option User)
  | supportTicket (tripId : Option Trip) (userId : User)

def Trip.zoneNode (t : Trip) : Option GeoNode := t.zone.bind ServiceZone.geoNode

/-- `SCOPE_PATHS`: the nodes a list reaches from a row. -/
def scopePaths : Row → List (Option GeoNode)
  | .trip t => [t.zoneNode]
  | .driver d => [d.homeCity]
  | .withdrawalRequest driver => [driver.homeCity]
  | .vehicle driverId => [driverId.homeCity]
  | .payment tripId _ => [tripId.zoneNode]
  | .transactionHistory _ _ driverId => [driverId.homeCity]
  | .serviceZone z => [z.geoNode]
  | .geoNode n => [some n]
  | .rateCard zone => [zone.geoNode]
  | .serviceZoneRevision zone => [zone.geoNode]
  | .supplySample city => [some city]
  | .notificationMessage city => [city]
  | .notificationTemplate geoNode => [geoNode]
  | .notificationCampaign geoNode => [geoNode]
  | .promotionCampaign geoNode => [geoNode]
  | .riskFlag anchorNode => [anchorNode]
  | .commissionRule geoNode => [geoNode]
  | .sosEvent anchorNode _ trip _ => [anchorNode, trip.bind Trip.zoneNode]
  | .supportTicket tripId userId =>
      [tripId.bind Trip.zoneNode, userId.driver.bind Driver.homeCity]

/-- `UNSCOPED_UNION`: rows that every scoped account sees. -/
def unscopedUnion : Row → Bool
  | .sosEvent _ source _ _ => source = .unanchored
  | .notificationTemplate geoNode => geoNode.isNone
  | _ => false

/-! ## The list -/

/-- `scope_paths`: no paths mean that nothing is restricted. -/
def scopePathsOf (u : Account) : Option (List String) :=
  if u.isSuperuser then none
  else if (activeAssignments u).any fun a => a.scope.kind = .global then none
  else some ((activeAssignments u).map fun a => a.scope.path)

/-- `scope_queryset`, for one row. -/
def scopeQueryset (u : Account) (row : Row) : Bool :=
  match scopePathsOf u with
  | none => true
  | some [] => false
  | some paths => (paths.any fun path => (scopePaths row).any fun node =>
      node.any fun n => path.toList.isPrefixOf n.path.toList) || unscopedUnion row

/-- `scoped`, for one row. -/
def scopedTo (strict : Bool) (u : Account) (row : Row) : Bool :=
  if !strict && !isMigrated u then true else scopeQueryset u row

/-- A row is served by a list that a permission opens and `scoped` filters. -/
def served (strict : Bool) (u : Account) (p : Permission) (row : Row) : Bool :=
  (granted strict u p none).1 && scopedTo strict u row

/-! ## The single row -/

/-- What `getattr` finds on an object. -/
structure Attributes where
  /-- the object has an `anchor_source` -/
  anchored : Bool := false
  anchorNode : Option GeoNode := none
  homeCity : Option GeoNode := none
  zone : Option ServiceZone := none
  driver : Option Driver := none
  /-- under `trip` or `trip_id`, where that is a row -/
  trip : Option Trip := none
  /-- under `user` or `user_id`, where that is a row -/
  user : Option User := none
  geoNode : Option GeoNode := none

/-- The attributes of a row; a foreign key goes by the name its model gives it. -/
def attributes : Row → Attributes
  | .trip t => { zone := t.zone, user := some t.userId }
  | .driver d => { homeCity := d.homeCity, user := some ⟨some d⟩ }
  | .withdrawalRequest driver => { driver := some driver }
  | .vehicle _ => { }
  | .payment tripId userId => { trip := some tripId, user := some userId }
  | .transactionHistory tripId userId _ => { trip := tripId, user := some userId }
  | .serviceZone z => { geoNode := z.geoNode }
  | .geoNode _ => { }
  | .rateCard zone => { zone := some zone }
  | .serviceZoneRevision zone => { zone := some zone }
  | .supplySample _ => { }
  | .notificationMessage _ => { }
  | .notificationTemplate geoNode => { geoNode := geoNode }
  | .notificationCampaign geoNode => { geoNode := geoNode }
  | .promotionCampaign geoNode => { geoNode := geoNode }
  | .riskFlag anchorNode => { anchorNode := anchorNode }
  | .commissionRule geoNode => { geoNode := geoNode }
  | .sosEvent anchorNode _ trip user =>
      { anchored := true, anchorNode := anchorNode, trip := trip, user := user }
  | .supportTicket tripId userId => { trip := tripId, user := some userId }

/-- `node_of`, by the attributes. -/
def Attributes.node (o : Attributes) : Option GeoNode :=
  if o.anchored then o.anchorNode
  else match o.homeCity with
  | some node => some node
  | none => match o.zone with
    | some zone => zone.geoNode
    | none => match o.driver with
      | some driver => driver.homeCity
      | none => match o.trip.bind Trip.zone with
        | some zone => zone.geoNode
        | none => match o.user with
          | some raiser => raiser.driver.bind Driver.homeCity
          | none => o.geoNode

def nodeOf : Row → Option GeoNode
  | .geoNode n => some n
  | row => (attributes row).node

def hasObjectPermission (strict : Bool) (u : Account) (p : Permission) (row : Row) : Bool :=
  (granted strict u p (nodeOf row)).1

def inScope (strict : Bool) (u : Account) (p : Permission) (row : Row) : Bool :=
  if !strict && !isMigrated u then true else (granted strict u p (nodeOf row)).1

end SaaradhiGo.AdminAccess.Scoping
