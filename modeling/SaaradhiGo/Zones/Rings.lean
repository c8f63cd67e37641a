/-
What a zone polygon has to be, and what is accepted.

The rule is a grammar: a position is two finite numbers in range, a ring is a closed list of
positions with enough corners, a polygon is a list of rings, and a zone is a bare ring, a polygon
or several.  How many corners are enough is a parameter.  What is accepted are the zones of the
grammar with four corners, where the documented rule asks for three.
-/
import SaaradhiGo.Zones.Geometry
import SaaradhiGo.Lib.PlainReader
import Mathlib.Data.List.Forall2

namespace SaaradhiGo.Zones

/-! ## The rule -/

section Rule

variable (py : Python.Reader) (corners : ℕ)

/-- Longitude and latitude, finite and in range. -/
structure IsPosition (v : Json) (p : Position) : Prop where
  pair : ∃ x y rest, v = .arr (x :: y :: rest) ∧ py.floatOf x = some p.1 ∧ py.floatOf y = some p.2
  finite : py.isFinite p.1 = true ∧ py.isFinite p.2 = true
  longitude : py.between (-180) 180 p.1 = true
  latitude : py.between (-90) 90 p.2 = true

def cornerCount (ps : List Position) : ℕ := (ps.eraseDupsBy (samePosition py)).length

/-- A closed ring of at least four positions, with so many corners. -/
structure IsRing (v : Json) (ps : List Position) : Prop where
  positions : ∃ vs, v = .arr vs ∧ List.Forall₂ (IsPosition py) vs ps
  isClosed : closed py ps = true
  long : 4 ≤ ps.length
  enough : corners ≤ cornerCount py ps

def IsPolygon (v : Option Json) (rs : List (List Position)) : Prop :=
  ∃ r rest, v = some (.arr (r :: rest)) ∧ List.Forall₂ (IsRing py corners) (r :: rest) rs

/-- A zone, with the shape it describes. -/
inductive IsZone : Json → Shape → Prop where
  | bareRing {vs : List Json} {ps : List Position} (h : IsRing py corners (.arr vs) ps) :
      IsZone (.arr vs) (.polygon [ps])
  | polygon {fs : List (String × Json)} {rs : List (List Position)}
      (kind : fs.lookup "type" = some (.str "Polygon"))
      (h : IsPolygon py corners (fs.lookup "coordinates") rs) : IsZone (.obj fs) (.polygon rs)
  | multiPolygon {fs : List (String × Json)} {part : Json} {parts : List Json}
      {rss : List (List (List Position))}
      (kind : fs.lookup "type" = some (.str "MultiPolygon"))
      (coords : fs.lookup "coordinates" = some (.arr (part :: parts)))
      (h : List.Forall₂ (fun p => IsPolygon py corners (some p)) (part :: parts) rss) :
      IsZone (.obj fs) (.multiPolygon rss)

end Rule

def Shape.rings : Shape → List (List Position)
  | polygon rings => rings
  | multiPolygon parts => parts.flatten

/-! ## What is accepted -/

section Accepted

variable {py : Python.Reader} {v : Json} {s : Shape} {p : Position} {ps : List Position}
  {rs : List (List Position)}

lemma collect_ok_iff {β : Type} {f : Json → Except Refusal β} {vs : List Json} {bs : List β} :
    collect f vs = .ok bs ↔ List.Forall₂ (fun v b => f v = .ok b) vs bs := by
  induction vs generalizing bs with
  | nil =>
    rw [collect, List.forall₂_nil_left_iff]
    constructor
    · intro h
      exact (Except.ok.inj h).symm
    · rintro rfl
      rfl
  | cons v vs ih =>
    rw [collect_cons, List.forall₂_cons_left_iff]
    constructor
    · rintro ⟨b, bs', hb, hbs, rfl⟩
      exact ⟨b, bs', hb, ih.mp hbs, rfl⟩
    · rintro ⟨b, bs', hb, hbs, rfl⟩
      exact ⟨b, bs', hb, ih.mpr hbs, rfl⟩

lemma position_ok_iff : position py v = .ok p ↔ IsPosition py v p := by
  constructor
  · intro h
    unfold position at h
    split at h
    · rename_i x y rest
      split at h
      · rename_i lon lat hlon hlat
        split at h
        · cases h
        · rename_i hfinite
          split at h
          · cases h
          · rename_i hrange
            cases h
            simp only [Bool.not_eq_true', Bool.not_eq_false, Bool.and_eq_true] at hfinite hrange
            exact ⟨⟨x, y, rest, rfl, hlon, hlat⟩, hfinite, hrange.1, hrange.2⟩
      · cases h
    · cases h
  · rintro ⟨⟨x, y, rest, rfl, hlon, hlat⟩, ⟨hfinite, hfinite'⟩, hlongitude, hlatitude⟩
    rw [position, hlon, hlat]
    dsimp only
    rw [hfinite, hfinite', hlongitude, hlatitude]
    rfl

lemma ring_ok_iff : ring py v = .ok ps ↔ IsRing py 4 v ps := by
  have hcheck : ∀ out, checkRing py out = .ok ps ↔
      out = ps ∧ closed py ps = true ∧ 4 ≤ cornerCount py ps := by
    intro out
    rw [checkRing]
    by_cases hclosed : closed py out = true
    · rw [hclosed]
      by_cases hshort : (out.eraseDupsBy (samePosition py)).length < 4
      · rw [if_neg (by decide), if_pos hshort]
        refine iff_of_false (fun h => by cases h) ?_
        rintro ⟨rfl, -, henough⟩
        exact absurd hshort (not_lt.mpr henough)
      · rw [if_neg (by decide), if_neg hshort]
        constructor
        · intro h
          cases h
          exact ⟨rfl, hclosed, not_lt.mp hshort⟩
        · rintro ⟨rfl, -, -⟩
          rfl
    · have hopen : closed py out = false := by simpa using hclosed
      rw [hopen, if_pos (by decide)]
      refine iff_of_false (fun h => by cases h) ?_
      rintro ⟨rfl, h, -⟩
      exact hclosed h
  constructor
  · intro h
    unfold ring at h
    split at h
    · rename_i vs
      split at h
      · cases h
      · rename_i hlong
        obtain ⟨out, hout, hring⟩ := Fallible.bind_eq_ok.mp h
        obtain ⟨rfl, hclosed, henough⟩ := (hcheck out).mp hring
        have hall := collect_ok_iff.mp hout
        refine ⟨⟨vs, rfl, hall.imp fun _ _ => position_ok_iff.mp⟩, hclosed, ?_, henough⟩
        rw [← hall.length_eq]
        exact not_lt.mp hlong
    · cases h
  · rintro ⟨⟨vs, rfl, hall⟩, hclosed, hlong, henough⟩
    rw [ring, if_neg (by rw [hall.length_eq]; exact not_lt.mpr hlong)]
    refine Fallible.bind_eq_ok.mpr ⟨ps, ?_, (hcheck ps).mpr ⟨rfl, hclosed, henough⟩⟩
    exact collect_ok_iff.mpr (hall.imp fun _ _ => position_ok_iff.mpr)

lemma polygonCoords_ok_iff {v : Option Json} :
    polygonCoords py v = .ok rs ↔ IsPolygon py 4 v rs := by
  constructor
  · intro h
    unfold polygonCoords at h
    split at h
    · rename_i r rest
      exact ⟨r, rest, rfl, (collect_ok_iff.mp h).imp fun _ _ => ring_ok_iff.mp⟩
    · cases h
  · rintro ⟨r, rest, rfl, hall⟩
    exact collect_ok_iff.mpr (hall.imp fun _ _ => ring_ok_iff.mpr)

/-- What is accepted are the zones with four corners to each ring. -/
theorem normalise_ok_iff : normalise py v = .ok s ↔ IsZone py 4 v s := by
  constructor
  · intro h
    unfold normalise at h
    split at h
    · rename_i vs
      obtain ⟨rings, hrings, hs⟩ := Fallible.bind_eq_ok.mp h
      cases hs
      obtain ⟨r, rest, heq, hall⟩ := polygonCoords_ok_iff.mp hrings
      cases heq
      obtain ⟨ps, rs', hring, hnil, rfl⟩ := List.forall₂_cons_left_iff.mp hall
      rw [List.forall₂_nil_left_iff.mp hnil]
      exact .bareRing hring
    · rename_i fs
      split at h
      · rename_i hkind
        obtain ⟨rings, hrings, hs⟩ := Fallible.bind_eq_ok.mp h
        cases hs
        exact .polygon hkind (polygonCoords_ok_iff.mp hrings)
      · rename_i hkind
        split at h
        · rename_i part parts hcoords
          obtain ⟨rss, hparts, hs⟩ := Fallible.bind_eq_ok.mp h
          cases hs
          exact .multiPolygon hkind hcoords
            ((collect_ok_iff.mp hparts).imp fun _ _ => polygonCoords_ok_iff.mp)
        · cases h
      · cases h
    · cases h
  · intro h
    cases h with
    | bareRing h =>
      have hrings := polygonCoords_ok_iff.mpr ⟨_, [], rfl, .cons h .nil⟩
      rw [normalise]
      exact Fallible.bind_eq_ok.mpr ⟨_, hrings, rfl⟩
    | polygon kind h =>
      rw [normalise, kind]
      exact Fallible.bind_eq_ok.mpr ⟨_, polygonCoords_ok_iff.mpr h, rfl⟩
    | multiPolygon kind coords h =>
      simp only [normalise, kind, coords]
      exact Fallible.bind_eq_ok.mpr
        ⟨_, collect_ok_iff.mpr (h.imp fun _ _ => polygonCoords_ok_iff.mpr), rfl⟩

end Accepted

/-! ## How many corners are asked for -/

section Corners

variable {py : Python.Reader} {v : Json} {s : Shape} {k m : ℕ}

lemma isRing_iff_of_le (hkm : k ≤ m) {ps : List Position} :
    IsRing py m v ps ↔ IsRing py k v ps ∧ m ≤ cornerCount py ps := by
  constructor
  · rintro ⟨hpositions, hclosed, hlong, henough⟩
    exact ⟨⟨hpositions, hclosed, hlong, hkm.trans henough⟩, henough⟩
  · rintro ⟨⟨hpositions, hclosed, hlong, -⟩, henough⟩
    exact ⟨hpositions, hclosed, hlong, henough⟩

/-- A list of results that all satisfy more. -/
lemma forall₂_and_iff {α β : Type*} {R : α → β → Prop} {P : β → Prop} {as : List α} {bs : List β} :
    List.Forall₂ (fun a b => R a b ∧ P b) as bs ↔ List.Forall₂ R as bs ∧ ∀ b ∈ bs, P b := by
  induction as generalizing bs with
  | nil =>
    rw [List.forall₂_nil_left_iff, List.forall₂_nil_left_iff]
    constructor
    · rintro rfl
      exact ⟨rfl, fun b hb => absurd hb List.not_mem_nil⟩
    · exact fun h => h.1
  | cons a as ih =>
    cases bs with
    | nil => exact iff_of_false (fun h => by cases h) (fun h => by cases h.1)
    | cons b bs =>
      rw [List.forall₂_cons, List.forall₂_cons, List.forall_mem_cons, ih]
      exact and_and_and_comm

lemma isPolygon_iff_of_le (hkm : k ≤ m) {v : Option Json} {rs : List (List Position)} :
    IsPolygon py m v rs ↔ IsPolygon py k v rs ∧ ∀ ps ∈ rs, m ≤ cornerCount py ps := by
  have hall : ∀ vs : List Json, List.Forall₂ (IsRing py m) vs rs ↔
      List.Forall₂ (IsRing py k) vs rs ∧ ∀ ps ∈ rs, m ≤ cornerCount py ps := by
    intro vs
    rw [← forall₂_and_iff]
    constructor
    · exact fun h => h.imp fun _ _ => (isRing_iff_of_le hkm).mp
    · exact fun h => h.imp fun _ _ => (isRing_iff_of_le hkm).mpr
  constructor
  · rintro ⟨r, rest, hv, h⟩
    obtain ⟨hrings, henough⟩ := (hall _).mp h
    exact ⟨⟨r, rest, hv, hrings⟩, henough⟩
  · rintro ⟨⟨r, rest, hv, hrings⟩, henough⟩
    exact ⟨r, rest, hv, (hall _).mpr ⟨hrings, henough⟩⟩

/-- To ask for more corners is to ask for them in every ring. -/
lemma isZone_iff_of_le (hkm : k ≤ m) :
    IsZone py m v s ↔ IsZone py k v s ∧ ∀ ps ∈ s.rings, m ≤ cornerCount py ps := by
  constructor
  · intro h
    cases h with
    | bareRing h =>
      obtain ⟨hring, henough⟩ := (isRing_iff_of_le hkm).mp h
      exact ⟨.bareRing hring, fun _ hps => List.mem_singleton.mp hps ▸ henough⟩
    | polygon kind h =>
      obtain ⟨hpolygon, henough⟩ := (isPolygon_iff_of_le hkm).mp h
      exact ⟨.polygon kind hpolygon, henough⟩
    | multiPolygon kind coords h =>
      have hparts := h.imp fun _ _ => (isPolygon_iff_of_le hkm).mp
      obtain ⟨hpolygons, henough⟩ := forall₂_and_iff.mp hparts
      refine ⟨.multiPolygon kind coords hpolygons, fun ps hps => ?_⟩
      obtain ⟨rs, hrs, hmem⟩ := List.mem_flatten.mp hps
      exact henough rs hrs ps hmem
  · rintro ⟨h, henough⟩
    cases h with
    | bareRing h =>
      exact .bareRing ((isRing_iff_of_le hkm).mpr ⟨h, henough _ (List.mem_singleton.mpr rfl)⟩)
    | polygon kind h => exact .polygon kind ((isPolygon_iff_of_le hkm).mpr ⟨h, henough⟩)
    | multiPolygon kind coords h =>
      refine .multiPolygon kind coords ?_
      refine (forall₂_and_iff.mpr ⟨h, fun rs hrs ps hps => ?_⟩).imp
        fun _ _ => (isPolygon_iff_of_le hkm).mpr
      exact henough ps (List.mem_flatten.mpr ⟨rs, hrs, hps⟩)

/-- A value is accepted exactly when it is a zone by the documented rule, with the shape it
describes, and what is returned for it is returned unchanged. -/
def NormalisedAsDocumented (py : Python.Reader) (v : Json) : Prop :=
  (∀ s, normalise py v = .ok s ↔ IsZone py 3 v s) ∧
    ∀ s, normalise py v = .ok s → normalise py s.json = .ok s

/-- This is so exactly when no ring of a documented zone has only three corners. -/
theorem normalised_as_documented_iff (py : Python.Reader) (v : Json) :
    NormalisedAsDocumented py v ↔
      ∀ s, IsZone py 3 v s → ∀ ps ∈ s.rings, cornerCount py ps ≠ 3 := by
  have haccepted : ∀ s, normalise py v = .ok s ↔
      IsZone py 3 v s ∧ ∀ ps ∈ s.rings, 4 ≤ cornerCount py ps := by
    intro s
    rw [normalise_ok_iff]
    exact isZone_iff_of_le (by decide)
  have hthree : ∀ {s}, IsZone py 3 v s → ∀ ps ∈ s.rings, 3 ≤ cornerCount py ps := by
    intro s h
    exact ((isZone_iff_of_le le_rfl).mp h).2
  constructor
  · rintro ⟨hiff, -⟩ s hs ps hps heq
    have hfour := ((haccepted s).mp ((hiff s).mpr hs)).2 ps hps
    omega
  · intro hno
    refine ⟨fun s => ?_, fun s hs => normalise_again hs⟩
    rw [haccepted]
    refine ⟨fun h => h.1, fun h => ⟨h, fun ps hps => ?_⟩⟩
    have hle := hthree h ps hps
    have hne := hno s h ps hps
    omega

/-- The corners of the half of a square, and the first one again. -/
def trianglePositions : List Position :=
  let west : Json.Float := ⟨"78.0".toList, by decide, List.all_eq_true.mp (by decide), some 78⟩
  let east : Json.Float := ⟨"79.0".toList, by decide, List.all_eq_true.mp (by decide), some 79⟩
  let south : Json.Float := ⟨"17.0".toList, by decide, List.all_eq_true.mp (by decide), some 17⟩
  let north : Json.Float := ⟨"18.0".toList, by decide, List.all_eq_true.mp (by decide), some 18⟩
  [(west, south), (east, south), (east, north), (west, south)]

def exampleTriangle : Json := ringJson trianglePositions

lemma isZone_triangle :
    IsZone Python.plainReader 3 exampleTriangle (.polygon [trianglePositions]) := by
  refine .bareRing ⟨⟨_, rfl, ?_⟩, by decide +kernel, by decide, by decide +kernel⟩
  rw [List.forall₂_map_left_iff, List.forall₂_same]
  intro p hp
  refine ⟨⟨_, _, [], rfl, rfl, rfl⟩, ⟨rfl, rfl⟩, ?_, ?_⟩
  · revert p
    decide
  · revert p
    decide

/-- A triangle is refused: its closed ring has three corners. -/
theorem triangle_is_refused :
    normalise Python.plainReader exampleTriangle = .error (badPolygon "RING_TOO_SHORT") ∧
      ¬ NormalisedAsDocumented Python.plainReader exampleTriangle := by
  refine ⟨rfl, ?_⟩
  rintro ⟨hiff, -⟩
  have haccepted := (hiff _).mpr isZone_triangle
  have hcorners := ((isZone_iff_of_le (by decide : 3 ≤ 4)).mp (normalise_ok_iff.mp haccepted)).2
  exact absurd (hcorners _ List.mem_cons_self) (by decide +kernel)

end Corners

end SaaradhiGo.Zones
