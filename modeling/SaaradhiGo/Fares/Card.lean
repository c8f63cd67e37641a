/-
Fare cards and how an approved change writes them.

A card prices the trips of one zone and one vehicle class over a window of time, and has a
switch beside it.  The card of a trip is looked up at the moment it was requested, in its zone or
the nearest zone above that has one.  An approved change writes a first card or the next version
of the current one, or retires a card.
-/
import SaaradhiGo.Lib.Table
import SaaradhiGo.Lib.Window
import Mathlib.Data.Prod.Lex
import Mathlib.Data.Rat.Defs
import Mathlib.Data.List.Perm.Subperm

namespace SaaradhiGo.Fares

/-- `VALUE_FIELDS` of a card. -/
structure CardValues where
  baseFare : ℚ
  perKmFare : ℚ
  perMinFare : ℚ
  minFare : ℚ
  nightSurgeMultiplier : ℚ
  nightSurgeStartHour : ℤ
  nightSurgeEndHour : ℤ
  surgeCapMultiplier : ℚ
  gstPercent : ℚ
deriving DecidableEq

/-- `RateCard`.  Moments are in microseconds. -/
structure RateCard where
  id : ℕ
  zone : ℕ
  vehicleType : ℕ
  values : CardValues
  effectiveFrom : ℤ
  effectiveTo : Option ℤ
  version : ℕ
  isActive : Bool
  notes : String
deriving DecidableEq

/-- `ServiceZone`, with what the lookup reads of it. -/
structure ServiceZone where
  id : ℕ
  parent : Option ℕ
deriving DecidableEq, Repr

/-- The zones and the vehicle classes. -/
structure Region where
  zones : Table ServiceZone.id
  vehicleTypes : List ℕ

structure Cards where
  cards : Table RateCard.id
  /-- The next primary key. -/
  nextCard : ℕ

def RateCard.place (c : RateCard) : ℕ × ℕ := (c.zone, c.vehicleType)

def RateCard.window (c : RateCard) : Window := ⟨c.effectiveFrom, c.effectiveTo⟩

/-- What the cards are ordered by: the latest start, then the greatest version. -/
def CardKey := ℤ ×ₗ ℕ

instance : LinearOrder CardKey :=
  @Prod.Lex.instLinearOrder ℤ ℕ Int.instLinearOrder Nat.instLinearOrder

def RateCard.key (c : RateCard) : CardKey := toLex (c.effectiveFrom, c.version)

/-! ## The card of a trip -/

/-- The card of a zone and a class that is active and in force, the first in the order. -/
def Cards.inForce (db : Cards) (zone vehicleType : ℕ) (t : ℤ) : Option RateCard :=
  (db.cards.rows.filter fun c =>
    c.place = (zone, vehicleType) && c.isActive && decide (c.window.Contains t)).argmax
      RateCard.key

/-- The zones the lookup visits: up the parents, and none twice. -/
def Region.chain (g : Region) : ℕ → List ℕ → Option ServiceZone → List ServiceZone
  | 0, _, _ => []
  | _ + 1, _, none => []
  | fuel + 1, seen, some cursor =>
      if cursor.id ∈ seen then []
      else cursor :: g.chain fuel (cursor.id :: seen) (cursor.parent.bind g.zones.get?)

def Region.ancestors (g : Region) (zone : ServiceZone) : List ServiceZone :=
  g.chain (g.zones.rows.length + 1) [] (some zone)

def getActiveRateCard (g : Region) (db : Cards) (zone : ServiceZone) (vehicleType : ℕ) (t : ℤ) :
    Option RateCard :=
  (g.ancestors zone).findSome? fun cursor => db.inForce cursor.id vehicleType t

/-- More steps visit no more zones. -/
theorem Region.chain_succ (g : Region) (fuel : ℕ) :
    ∀ (seen : List ℕ) (cursor : Option ServiceZone), seen.Nodup →
      (∀ i ∈ seen, i ∈ g.zones.rows.map (·.id)) → (∀ z ∈ cursor, z ∈ g.zones.rows) →
      g.zones.rows.length < fuel + seen.length →
        g.chain (fuel + 1) seen cursor = g.chain fuel seen cursor := by
  induction fuel with
  | zero =>
      intro seen cursor hnodup hsub _ hlt
      have hle := (List.subperm_of_subset hnodup hsub).length_le
      rw [List.length_map] at hle
      omega
  | succ fuel ih =>
      intro seen cursor hnodup hsub hmem hlt
      cases cursor with
      | none => rfl
      | some z =>
          rw [Region.chain, Region.chain]
          split
          · rfl
          · rename_i hz
            refine congrArg (z :: ·) (ih _ _ (List.nodup_cons.mpr ⟨hz, hnodup⟩) ?_ ?_ ?_)
            · intro i hi
              rcases List.mem_cons.mp hi with rfl | hi
              · exact List.mem_map_of_mem (hmem z rfl)
              · exact hsub i hi
            · intro y hy
              obtain ⟨i, -, hget⟩ := Option.bind_eq_some_iff.mp hy
              exact (Table.mem_of_get? hget).1
            · rw [List.length_cons]
              omega

/-! ## Approved changes -/

/-- The payload of a request to write a card. -/
structure CreatePayload where
  zone : ℕ
  vehicleType : ℕ
  values : CardValues
  effectiveFrom : Option ℤ
  notes : String
  /-- The card the change is based on, `none` for a first card. -/
  baseCard : Option ℕ

/-- A second in microseconds. -/
def second : ℤ := 1000000

/-- The active cards of a zone and a class that have no end. -/
def Cards.opens (db : Cards) (zone vehicleType : ℕ) : List RateCard :=
  db.cards.rows.filter fun c =>
    c.place = (zone, vehicleType) && c.isActive && c.effectiveTo.isNone

/-- `current_card`. -/
def Cards.current (db : Cards) (zone vehicleType : ℕ) : Option RateCard :=
  (db.opens zone vehicleType).argmax RateCard.key

/-- The moment a card takes effect: never before now, and after the card it follows. -/
def CreatePayload.start (p : CreatePayload) (now : ℤ) (current : Option RateCard) : ℤ :=
  let eff := max (p.effectiveFrom.getD now) now
  match current with
  | some c => if eff ≤ c.effectiveFrom then max now (c.effectiveFrom + second) else eff
  | none => eff

/-- `new_version`: the next version, and the end of the card. -/
def Cards.newVersion (db : Cards) (c : RateCard) (eff : ℤ) (notes : String)
    (values : CardValues) : Cards :=
  ⟨(db.cards.put { c with
      id := db.nextCard, version := c.version + 1, effectiveFrom := eff, effectiveTo := none,
      notes := notes, values := values }).put { c with effectiveTo := some eff },
    db.nextCard + 1⟩

def Cards.firstCard (db : Cards) (p : CreatePayload) (eff : ℤ) : Cards :=
  ⟨db.cards.put ⟨db.nextCard, p.zone, p.vehicleType, p.values, eff, none, 1, true, p.notes⟩,
    db.nextCard + 1⟩

def executeCreate (g : Region) (now : ℤ) (p : CreatePayload) (db : Cards) :
    Except String Cards :=
  if (g.zones.get? p.zone).isNone || p.vehicleType ∉ g.vehicleTypes then .error "TARGET_GONE"
  else
    let current := db.current p.zone p.vehicleType
    if current.map (·.id) ≠ p.baseCard then .error "CARD_CHANGED"
    else
      let eff := p.start now current
      match current with
      | some c =>
          .ok (db.newVersion c eff (if p.notes = "" then c.notes else p.notes) p.values)
      | none => .ok (db.firstCard p eff)

def RateCard.retired (c : RateCard) (now : ℤ) : RateCard :=
  { c with isActive := false, effectiveTo := some ((c.effectiveTo.map (min now)).getD now) }

def executeRetire (now : ℤ) (cardId : ℕ) (db : Cards) : Except String Cards :=
  match db.cards.get? cardId with
  | none => .error "CARD_NOT_ACTIVE"
  | some c =>
      if !c.isActive then .error "CARD_NOT_ACTIVE"
      else .ok ⟨db.cards.put (c.retired now), db.nextCard⟩

/-- An approved change. -/
inductive Change where
  | create (p : CreatePayload)
  | retire (cardId : ℕ)

/-- `execute`: a change that is refused leaves the cards as they were. -/
def execute (g : Region) (now : ℤ) (db : Cards) : Change → Cards
  | .create p =>
      match executeCreate g now p db with
      | .ok db' => db'
      | .error _ => db
  | .retire cardId =>
      match executeRetire now cardId db with
      | .ok db' => db'
      | .error _ => db

/-- The cards and the clock. -/
structure Desk where
  cards : Cards
  clock : ℤ

/-- A change that is approved some time after the one before. -/
structure Approval where
  delay : ℕ
  change : Change

def step (g : Region) (s : Desk) (x : Approval) : Desk :=
  ⟨execute g (s.clock + x.delay) s.cards x.change, s.clock + x.delay⟩

def Desk.opening : Desk := ⟨⟨Table.empty, 1⟩, 0⟩

end SaaradhiGo.Fares
