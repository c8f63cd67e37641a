/-
Zone polygons: what is accepted and what is stored.

A polygon comes as GeoJSON or as a bare ring, and is stored as GeoJSON with floats.  What was
stored is accepted again, and stored as it is.  Validity, area, overlap and containment are the
geometry library's.
-/
import SaaradhiGo.Lib.Python
import SaaradhiGo.Lib.Fallible
import Mathlib.Data.Rat.Defs
import Mathlib.Algebra.Order.Ring.Rat
import Mathlib.Tactic.NormNum

namespace SaaradhiGo.Zones

/-- A request that is refused, with its code and field. -/
structure Refusal where
  code : String
  field : String
deriving DecidableEq, Repr

def badPolygon (code : String) : Refusal := ⟨code, "polygon_geojson"⟩

abbrev Position := Json.Float × Json.Float

/-- A GeoJSON polygon. -/
inductive Shape where
  | polygon (rings : List (List Position))
  | multiPolygon (parts : List (List (List Position)))

/-- Every element, or the first refusal. -/
def collect {β : Type} (f : Json → Except Refusal β) : List Json → Except Refusal (List β)
  | [] => .ok []
  | v :: vs => do
      let b ← f v
      let bs ← collect f vs
      return b :: bs

section Normalise

variable (py : Python.Reader)

def position : Json → Except Refusal Position
  | .arr (x :: y :: _) =>
      match py.floatOf x, py.floatOf y with
      | some lon, some lat =>
          if !(py.isFinite lon && py.isFinite lat) then .error (badPolygon "POLYGON_INVALID")
          else if !(py.between (-180) 180 lon && py.between (-90) 90 lat) then
            .error (badPolygon "COORDINATE_OUT_OF_RANGE")
          else .ok (lon, lat)
      | _, _ => .error (badPolygon "POLYGON_INVALID")
  | _ => .error (badPolygon "POLYGON_INVALID")

/-- `==` of positions. -/
def samePosition (p q : Position) : Bool := py.sameFloat p.1 q.1 && py.sameFloat p.2 q.2

def closed (out : List Position) : Bool :=
  match out.head?, out.getLast? with
  | some p, some q => samePosition py p q
  | _, _ => false

/-- The checks of a ring whose positions are read. -/
def checkRing (out : List Position) : Except Refusal (List Position) :=
  if !closed py out then .error (badPolygon "RING_NOT_CLOSED")
  else if (out.eraseDupsBy (samePosition py)).length < 4 then
    .error (badPolygon "RING_TOO_SHORT")
  else .ok out

def ring : Json → Except Refusal (List Position)
  | .arr ps =>
      if ps.length < 4 then .error (badPolygon "RING_TOO_SHORT")
      else do
        let out ← collect (position py) ps
        checkRing py out
  | _ => .error (badPolygon "POLYGON_INVALID")

def polygonCoords : Option Json → Except Refusal (List (List Position))
  | some (.arr (r :: rs)) => collect (ring py) (r :: rs)
  | _ => .error (badPolygon "POLYGON_INVALID")

def normalise : Json → Except Refusal Shape
  | .arr vs => do
      let rings ← polygonCoords py (some (.arr [.arr vs]))
      return .polygon rings
  | .obj fs =>
      match fs.lookup "type" with
      | some (.str "Polygon") => do
          let rings ← polygonCoords py (fs.lookup "coordinates")
          return .polygon rings
      | some (.str "MultiPolygon") =>
          match fs.lookup "coordinates" with
          | some (.arr (p :: ps)) => do
              let parts ← collect (fun part => polygonCoords py (some part)) (p :: ps)
              return .multiPolygon parts
          | _ => .error (badPolygon "POLYGON_INVALID")
      | _ => .error (badPolygon "POLYGON_INVALID")
  | _ => .error (badPolygon "POLYGON_INVALID")

def positionJson (p : Position) : Json := .arr [.float p.1, .float p.2]

def ringJson (ps : List Position) : Json := .arr (ps.map positionJson)

def ringsJson (rs : List (List Position)) : Json := .arr (rs.map ringJson)

/-- The cleaned GeoJSON. -/
def Shape.json : Shape → Json
  | polygon rings => .obj [("type", .str "Polygon"), ("coordinates", ringsJson rings)]
  | multiPolygon parts =>
      .obj [("type", .str "MultiPolygon"), ("coordinates", .arr (parts.map ringsJson))]

end Normalise

/-- The geometry library, with the relations it gives between polygons. -/
structure Shapely where
  Geometry : Type
  /-- `shape`, where it does not raise. -/
  shape : Json → Geometry
  /-- `shape` does not raise. -/
  readable : Json → Bool
  readable_normalised : ∀ py v s, normalise py v = .ok s → readable s.json = true
  /-- `Polygon` of bare coordinates, unless it raises. -/
  polygon : Json → Option Geometry
  isValid : Geometry → Bool
  isEmpty : Geometry → Bool
  /-- The polygon crosses itself. -/
  selfCrossing : Geometry → Bool
  /-- The area of the projected parts, in square kilometres. -/
  projectedArea : Geometry → ℚ
  overlaps : Geometry → Geometry → Bool
  overlaps_comm : ∀ a b, overlaps a b = overlaps b a
  /-- `contains`, the outer one first. -/
  contains : Geometry → Geometry → Bool

def Shapely.areaKm2 (sh : Shapely) (geom : sh.Geometry) : ℚ :=
  if sh.isEmpty geom then 0 else sh.projectedArea geom

section Stored

variable (py : Python.Reader) (sh : Shapely)

/-- `validate`: the GeoJSON that is stored, and its geometry. -/
def validate (v : Json) : Except Refusal (Json × sh.Geometry) := do
  let s ← normalise py v
  let geom := sh.shape s.json
  if !sh.isValid geom then
    .error (badPolygon (if sh.selfCrossing geom then "SELF_INTERSECTION" else "POLYGON_INVALID"))
  else if sh.areaKm2 geom < 1 / 100 then .error (badPolygon "AREA_TOO_SMALL")
  else if 20000 < sh.areaKm2 geom then .error (badPolygon "AREA_TOO_LARGE")
  else return (s.json, geom)

def isPolygonType : Option Json → Bool
  | some (.str kind) => kind = "Polygon" || kind = "MultiPolygon"
  | _ => false

def usable (geom : sh.Geometry) : Option sh.Geometry :=
  if !sh.isValid geom || sh.isEmpty geom then none else some geom

/-- `_polygon_for_zone`, of the stored polygon. -/
def polygonForZone : Json → Option sh.Geometry
  | .obj fs =>
      match fs.lookup "coordinates" with
      | none => none
      | some coords =>
          if isPolygonType (fs.lookup "type") then
            if sh.readable (.obj fs) then usable sh (sh.shape (.obj fs)) else none
          else if Python.truthy coords then (sh.polygon coords).bind (usable sh)
          else none
  | _ => none

end Stored

/-! ## What was stored is accepted as it is -/

section Again

variable {py : Python.Reader}

lemma collect_cons {β : Type} {f : Json → Except Refusal β} {v : Json} {vs : List Json} {bs : List β} :
    collect f (v :: vs) = .ok bs ↔ ∃ b bs', f v = .ok b ∧ collect f vs = .ok bs' ∧ bs = b :: bs' := by
  rw [collect, Fallible.bind_eq_ok]
  constructor
  · rintro ⟨b, hb, hrest⟩
    rw [Fallible.bind_eq_ok] at hrest
    obtain ⟨bs', hbs', heq⟩ := hrest
    cases heq
    exact ⟨b, bs', hb, hbs', rfl⟩
  · rintro ⟨b, bs', hb, hbs', rfl⟩
    refine ⟨b, hb, ?_⟩
    rw [Fallible.bind_eq_ok]
    exact ⟨bs', hbs', rfl⟩

lemma collect_again {β : Type} {f : Json → Except Refusal β} {g : β → Json}
    (hfg : ∀ v b, f v = .ok b → f (g b) = .ok b) {vs : List Json} {bs : List β}
    (h : collect f vs = .ok bs) : collect f (bs.map g) = .ok bs ∧ bs.length = vs.length := by
  induction vs generalizing bs with
  | nil =>
      cases h
      exact ⟨rfl, rfl⟩
  | cons v vs ih =>
      obtain ⟨b, bs', hb, hbs', rfl⟩ := collect_cons.mp h
      obtain ⟨hagain, hlength⟩ := ih hbs'
      refine ⟨?_, congrArg Nat.succ hlength⟩
      exact collect_cons.mpr ⟨b, bs', hfg v b hb, hagain, rfl⟩

lemma position_again {v : Json} {p : Position} (h : position py v = .ok p) :
    position py (positionJson p) = .ok p := by
  unfold position at h
  split at h
  · rename_i x y rest
    split at h
    · rename_i lon lat hlon hlat
      split at h
      · cases h
      · rename_i hfinite
        split at h
        · cases h
        · rename_i hrange
          cases h
          rw [positionJson, position, py.floatOf_float, py.floatOf_float]
          dsimp only
          rw [if_neg hfinite, if_neg hrange]
    · cases h
  · cases h

lemma ring_again {v : Json} {ps : List Position} (h : ring py v = .ok ps) :
    ring py (ringJson ps) = .ok ps := by
  unfold ring at h
  split at h
  · rename_i vs
    split at h
    · cases h
    · rename_i hlength
      obtain ⟨out, hout, hcheck⟩ := Fallible.bind_eq_ok.mp h
      have heq : out = ps := by
        rw [checkRing] at hcheck
        split at hcheck
        · cases hcheck
        · split at hcheck
          · cases hcheck
          · exact Except.ok.inj hcheck
      rw [heq] at hout hcheck
      obtain ⟨hagain, hlen⟩ := collect_again (fun v b => position_again) hout
      rw [ringJson, ring, if_neg (by rw [List.length_map, hlen]; exact hlength)]
      exact Fallible.bind_eq_ok.mpr ⟨ps, hagain, hcheck⟩
  · cases h

lemma polygonCoords_again {v : Option Json} {rs : List (List Position)}
    (h : polygonCoords py v = .ok rs) : polygonCoords py (some (ringsJson rs)) = .ok rs := by
  unfold polygonCoords at h
  split at h
  · rename_i r rest
    obtain ⟨hagain, hlen⟩ := collect_again (fun v b => ring_again) h
    cases rs with
    | nil => cases hlen
    | cons ps rs => exact hagain
  · cases h

/-- A stored shape is read as it is. -/
theorem normalise_again {v : Json} {s : Shape} (h : normalise py v = .ok s) :
    normalise py s.json = .ok s := by
  have hpolygon : ∀ {j : Option Json} {s : Shape},
      (do let rings ← polygonCoords py j; return Shape.polygon rings) = Except.ok s →
        normalise py s.json = .ok s := by
    intro j s h
    obtain ⟨rings, hrings, heq⟩ := Fallible.bind_eq_ok.mp h
    cases heq
    exact Fallible.bind_eq_ok.mpr ⟨rings, polygonCoords_again hrings, rfl⟩
  unfold normalise at h
  split at h
  · exact hpolygon h
  · split at h
    · exact hpolygon h
    · split at h
      · obtain ⟨parts, hparts, heq⟩ := Fallible.bind_eq_ok.mp h
        cases heq
        obtain ⟨hagain, hlen⟩ := collect_again
          (f := fun part => polygonCoords py (some part)) (g := ringsJson)
          (fun v b hb => polygonCoords_again hb) hparts
        cases parts with
        | nil => cases hlen
        | cons part parts => exact Fallible.bind_eq_ok.mpr ⟨part :: parts, hagain, rfl⟩
      · cases h
    · cases h
  · cases h

/-- A stored polygon is accepted as it is. -/
theorem validate_again {sh : Shapely} {v g : Json} {geom : sh.Geometry}
    (h : validate py sh v = .ok (g, geom)) : validate py sh g = .ok (g, geom) := by
  obtain ⟨s, hs, hrest⟩ := Fallible.bind_eq_ok.mp h
  have hg : s.json = g := by
    dsimp only at hrest
    split at hrest
    · cases hrest
    · split at hrest
      · cases hrest
      · split at hrest
        · cases hrest
        · cases hrest
          rfl
  have hs' := normalise_again hs
  rw [hg] at hs'
  exact Fallible.bind_eq_ok.mpr ⟨s, hs', hrest⟩

lemma shape_of_validate {sh : Shapely} {v g : Json} {geom : sh.Geometry}
    (h : validate py sh v = .ok (g, geom)) : geom = sh.shape g := by
  obtain ⟨s, hs, hrest⟩ := Fallible.bind_eq_ok.mp h
  dsimp only at hrest
  split at hrest
  · cases hrest
  · split at hrest
    · cases hrest
    · split at hrest
      · cases hrest
      · cases hrest
        rfl

lemma Shape.json_obj (s : Shape) : ∃ kind coords, s.json = .obj [("type", .str kind), ("coordinates",
    coords)] ∧ isPolygonType (some (.str kind)) = true := by
  cases s with
  | polygon rings => exact ⟨_, _, rfl, rfl⟩
  | multiPolygon parts => exact ⟨_, _, rfl, rfl⟩

/-- An accepted polygon is read from the zone it is stored in. -/
theorem polygonForZone_of_validate {sh : Shapely} {v g : Json} {geom : sh.Geometry}
    (h : validate py sh v = .ok (g, geom)) : polygonForZone sh g = some geom := by
  obtain ⟨s, hs, hrest⟩ := Fallible.bind_eq_ok.mp h
  dsimp only at hrest
  split at hrest
  · cases hrest
  · rename_i hvalid
    split at hrest
    · cases hrest
    · rename_i harea
      split at hrest
      · cases hrest
      · cases hrest
        have hread := sh.readable_normalised py v s hs
        have hnonempty : sh.isEmpty (sh.shape s.json) = false := by
          by_contra hempty
          rw [Bool.not_eq_false] at hempty
          rw [Shapely.areaKm2, if_pos hempty] at harea
          norm_num at harea
        obtain ⟨kind, coords, hjson, hkind⟩ := s.json_obj
        have husable : usable sh (sh.shape s.json) = some (sh.shape s.json) := by
          rw [usable, hnonempty, Bool.or_false, if_neg hvalid]
        rw [hjson] at hread husable ⊢
        rw [polygonForZone]
        simp only [List.lookup_cons, beq_self_eq_true]
        show (if isPolygonType (some (.str kind)) = true then _ else _) = _
        rw [if_pos hkind, if_pos hread]
        exact husable

end Again

end SaaradhiGo.Zones
