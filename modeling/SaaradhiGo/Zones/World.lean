/-
The zones beside each other: parents, neighbours, revisions and trips.

A zone is known by its code, which is unique and never changes.  The rules between zones are
checked against rows that other transactions may change meanwhile, so every query has its own
reading of the world.
-/
import SaaradhiGo.Zones.Again
import SaaradhiGo.AdminAccess.GeoNode

namespace SaaradhiGo.Zones

open Python

/-- `KIND_CHOICES`. -/
inductive ChangeKind where
  | create
  | update
  | deactivate
  | reactivate
  | restore
  | backfill
deriving DecidableEq, Repr

/-- `ServiceZoneRevision`. -/
structure Revision where
  zone : String
  version : ℕ
  kind : ChangeKind
  snapshot : ZoneValues
  restoredFromVersion : Option ℕ

/-- A geo node, with the code of the country it belongs to. -/
structure GeoNode where
  code : String
  kind : AdminAccess.Kind
  country : Option String
  status : AdminAccess.GeoStatus

/-- A trip, with the code of its zone. -/
structure Trip where
  zone : String
  status : String

/-- The rows. -/
structure World where
  zones : Table ZoneValues.code
  revisions : List Revision
  nodes : Table GeoNode.code
  trips : List Trip

/-- A query of the checks. -/
inductive Reading where
  | existing
  | parent
  | ancestors
  | others
  | children
  | trips
  | siblings
  | applied
deriving DecidableEq, Repr

abbrev View := Reading → World

/-- How an execution stops. -/
inductive Stop where
  | refused (code : String)
  | raised
deriving DecidableEq, Repr

/-! ## Revisions -/

section Revisions

variable (w : World)

def revisionsOf (zone : String) : List Revision := w.revisions.filter fun r => r.zone = zone

def currentVersion (zone : String) : ℕ := ((revisionsOf w zone).map (·.version)).foldr max 0

def writeRevision (zone : ZoneValues) (kind : ChangeKind) (restoredFrom : Option ℕ) : World :=
  { w with
    revisions := w.revisions ++
      [⟨zone.code, currentVersion w zone.code + 1, kind, zone, restoredFrom⟩] }

def ensureBaseline (zone : ZoneValues) : World :=
  if revisionsOf w zone.code = [] then
    { w with revisions := w.revisions ++ [⟨zone.code, 1, .backfill, zone, none⟩] }
  else w

end Revisions

/-! ## The rules between zones -/

section Rules

variable (env : Env)

def parentZone (w : World) (v : ZoneValues) : Except Refusal (Option ZoneValues) :=
  match v.parent with
  | none => .ok none
  | some code =>
      if code = "" then .ok none
      else
        match w.zones.get? code with
        | none => .error ⟨"PARENT_NOT_FOUND", "parent"⟩
        | some parent =>
            if parent.country ≠ v.country then .error ⟨"PARENT_COUNTRY_MISMATCH", "parent"⟩
            else .ok (some parent)

def World.parentOf (w : World) (z : ZoneValues) : Option ZoneValues := z.parent.bind w.zones.get?

/-- No zone above is one that was seen. -/
def climb (w : World) : ℕ → List String → Option ZoneValues → Bool
  | _, _, none => true
  | 0, _, some _ => false
  | fuel + 1, seen, some cursor =>
      if cursor.code ∈ seen then false else climb w fuel (cursor.code :: seen) (w.parentOf cursor)

/-- A parent is not below the zone. -/
def checkAncestors (w : World) (parent : Option ZoneValues) (zone : Option String) :
    Except Refusal Unit :=
  match parent, zone with
  | some p, some code =>
      if climb w (w.zones.rows.length + 2) [code] (some p) then .ok ()
      else .error ⟨"PARENT_CYCLE", "parent"⟩
  | _, _ => .ok ()

/-- A zone that is not a city lies inside its parent. -/
def checkInside (v : ZoneValues) (geom : env.sh.Geometry) (parent : Option ZoneValues) :
    Except Refusal Unit :=
  match parent with
  | none => .ok ()
  | some p =>
      if v.zoneType = "city" then .ok ()
      else
        match polygonForZone env.sh p.polygon with
        | none => .error ⟨"CHILD_OUTSIDE_PARENT", "polygon_geojson"⟩
        | some outer =>
            if env.sh.contains outer geom then .ok ()
            else .error ⟨"CHILD_OUTSIDE_PARENT", "polygon_geojson"⟩

def sharesGround (geom : env.sh.Geometry) (other : ZoneValues) : Bool :=
  match polygonForZone env.sh other.polygon with
  | none => false
  | some g => env.sh.overlaps geom g

/-- An active city has no ground in common with another one of its country. -/
def checkOverlap (w : World) (v : ZoneValues) (geom : env.sh.Geometry) (zone : Option String) :
    Except Refusal Unit :=
  if v.isActive && v.zoneType = "city" then
    if (w.zones.rows.filter fun o => o.isActive && o.zoneType = "city" && o.country = v.country &&
        some o.code ≠ zone).any (sharesGround env geom) then
      .error ⟨"CITY_ZONES_OVERLAP", "polygon_geojson"⟩
    else .ok ()
  else .ok ()

def liesOutside (geom : env.sh.Geometry) (child : ZoneValues) : Bool :=
  match polygonForZone env.sh child.polygon with
  | none => false
  | some g => child.zoneType ≠ "city" && !env.sh.contains geom g

/-- The children stay inside. -/
def checkChildren (w : World) (geom : env.sh.Geometry) (zone : Option String) :
    Except Refusal Unit :=
  match zone with
  | none => .ok ()
  | some code =>
      if (w.zones.rows.filter fun c => c.parent = some code).any (liesOutside env geom) then
        .error ⟨"CHILD_OUTSIDE_PARENT", "polygon_geojson"⟩
      else .ok ()

/-- `check_world`; the zone is the one that is changed. -/
def checkWorld (view : View) (v : ZoneValues) (geom : env.sh.Geometry) (zone : Option String) :
    Except Refusal Unit := do
  let parent ← parentZone (view .parent) v
  checkAncestors (view .ancestors) parent zone
  checkInside env v geom parent
  checkOverlap env (view .others) v geom zone
  checkChildren env (view .children) geom zone

def inProgressTrips (w : World) (zone : String) : List Trip :=
  w.trips.filter fun t => t.zone = zone &&
    t.status ∈ ["requested", "accepted", "reached", "in_progress"]

def GeoNode.isLiveCity (n : GeoNode) : Bool := n.kind = .city && n.status = .active

def checkCanDeactivate (view : View) (zone : ZoneValues) : Except Refusal Unit :=
  if inProgressTrips (view .trips) zone.code ≠ [] then .error ⟨"TRIPS_IN_PROGRESS", "zone"⟩
  else
    match zone.geoNode.bind (view .siblings).nodes.get? with
    | none => .ok ()
    | some node =>
        if node.isLiveCity && !(view .siblings).zones.rows.any fun o =>
            o.geoNode = some node.code && o.isActive && o.code ≠ zone.code then
          .error ⟨"CITY_WOULD_HAVE_NO_ZONE", "zone"⟩
        else .ok ()

end Rules

/-! ## Saving -/

section Save

variable (py : Reader)

/-- `get_country`; an unknown country is read as the first one. -/
def getCountry (code : String) : Country :=
  (countries.find? fun c => c.code = strip (upper py code)).getD
    ⟨"IN", "INR", "Asia/Kolkata", "km", "inclusive"⟩

def applyCountryDefaults (v : ZoneValues) : ZoneValues :=
  { v with
    currency := strip (upper py (effective v.currency (getCountry py v.country).currency))
    timezoneName := effective v.timezoneName (getCountry py v.country).defaultTimezone
    distanceUnit := effective v.distanceUnit (getCountry py v.country).distanceUnit
    taxMode := effective v.taxMode (getCountry py v.country).taxMode }

/-- The texts of a zone, with the widths of their columns. -/
def ZoneValues.columns (v : ZoneValues) : List (String × ℕ) :=
  [(v.code, 64), (v.name, 128), (v.country, 2), (v.stateCode, 8), (v.city, 64), (v.zoneType, 16),
    (v.currency, 3), (v.timezoneName, 64), (v.distanceUnit, 2), (v.taxMode, 10),
    (v.perTripFeeLabel, 64)]

def ZoneValues.fits (v : ZoneValues) : Bool := v.columns.all fun c => c.1.length ≤ c.2

/-- `save`: the row that is written, unless the country is blank or a text is too long. -/
def saved (v : ZoneValues) : Except Stop ZoneValues :=
  if strip v.country = "" then .error .raised
  else if !(applyCountryDefaults py v).fits then .error .raised
  else .ok (applyCountryDefaults py v)

end Save

end SaaradhiGo.Zones
