/-
Histories of approved fare card changes.

The law of the cards is that at most one card of a zone and a class is active and in force at a
moment, and that a change leaves the card of every earlier moment what it was.  Over a history
the law holds exactly when no card is retired that has taken effect, and no first card starts
before the active cards of its zone and class have ended.
-/
import SaaradhiGo.Fares.Card
import SaaradhiGo.Lib.Transition

namespace SaaradhiGo.Fares

def RateCard.priceInputs (c : RateCard) : ℕ × ℕ × CardValues := (c.id, c.version, c.values)

/-- At most one card of a zone and a class is active and in force at a moment. -/
def AtMostOne (db : Cards) : Prop :=
  ∀ c ∈ db.cards.rows, ∀ c' ∈ db.cards.rows, c.isActive = true → c'.isActive = true →
    c.place = c'.place → ∀ t, c.window.Contains t → c'.window.Contains t → c = c'

/-- The price inputs of every earlier moment stay the same. -/
def SamePast (g : Region) (now : ℤ) (db db' : Cards) : Prop :=
  ∀ zone ∈ g.zones.rows, ∀ vehicleType t, t < now →
    (getActiveRateCard g db' zone vehicleType t).map (·.priceInputs) =
      (getActiveRateCard g db zone vehicleType t).map (·.priceInputs)

/-- A change keeps the price inputs of every earlier moment. -/
def PastKept (g : Region) (s : Desk) (x : Approval) : Prop :=
  SamePast g (s.clock + x.delay) s.cards (step g s x).cards

/-- The step keeps the law. -/
def Lawful (g : Region) (s : Desk) (x : Approval) : Prop :=
  PastKept g s x ∧ AtMostOne (step g s x).cards

/-- A first card starts when the active cards of its place have ended, and a card that is
retired has not taken effect. -/
def Forward (g : Region) (s : Desk) (x : Approval) : Prop :=
  match x.change with
  | .create p =>
      (g.zones.get? p.zone).isSome → p.vehicleType ∈ g.vehicleTypes → p.baseCard = none →
        s.cards.current p.zone p.vehicleType = none →
          ∀ c ∈ s.cards.cards.rows, c.place = (p.zone, p.vehicleType) → c.isActive = true →
            ∀ e ∈ c.effectiveTo, e ≤ p.start (s.clock + x.delay) none
  | .retire cardId =>
      ∀ c, s.cards.cards.get? cardId = some c → c.isActive = true →
        s.clock + x.delay ≤ c.effectiveFrom

def Cards.active (db : Cards) : List RateCard := db.cards.rows.filter (·.isActive)

/-- What every lawful history keeps. -/
structure Kept (g : Region) (db : Cards) : Prop where
  fresh : ∀ c ∈ db.cards.rows, c.id < db.nextCard
  placed : ∀ c ∈ db.cards.rows, ∃ z ∈ g.zones.rows, z.id = c.zone
  successive : Successive RateCard.place RateCard.window db.active

section Lookup

variable {g : Region} {db db' : Cards} {zone vehicleType : ℕ} {t now eff : ℤ} {c c' : RateCard}
  {z : ServiceZone}

lemma mem_active : c ∈ db.active ↔ c ∈ db.cards.rows ∧ c.isActive = true := by
  rw [Cards.active, List.mem_filter]

/-- The card is active and in force for the place. -/
structure Holds (db : Cards) (zone vehicleType : ℕ) (t : ℤ) (c : RateCard) : Prop where
  mem : c ∈ db.active
  place : c.place = (zone, vehicleType)
  contains : c.window.Contains t

lemma mem_inForce : c ∈ (db.cards.rows.filter fun c =>
      c.place = (zone, vehicleType) && c.isActive && decide (c.window.Contains t)) ↔
    Holds db zone vehicleType t c := by
  rw [List.mem_filter]
  simp only [Bool.and_eq_true, decide_eq_true_eq]
  constructor
  · rintro ⟨hmem, ⟨hplace, hactive⟩, hcontains⟩
    exact ⟨mem_active.mpr ⟨hmem, hactive⟩, hplace, hcontains⟩
  · rintro ⟨hmem, hplace, hcontains⟩
    exact ⟨(mem_active.mp hmem).1, ⟨hplace, (mem_active.mp hmem).2⟩, hcontains⟩

lemma holds_of_inForce (h : db.inForce zone vehicleType t = some c) :
    Holds db zone vehicleType t c :=
  mem_inForce.mp (List.argmax_mem h)

lemma Kept.inForce_eq_some_iff (h : Kept g db) :
    db.inForce zone vehicleType t = some c ↔ Holds db zone vehicleType t c := by
  refine ⟨holds_of_inForce, fun hc => ?_⟩
  cases hfound : db.inForce zone vehicleType t with
  | none =>
      rw [Cards.inForce, List.argmax_eq_none] at hfound
      have hmem := mem_inForce.mpr hc
      rw [hfound] at hmem
      cases hmem
  | some c' =>
      have hc' := holds_of_inForce hfound
      rw [h.successive.eq_of_contains hc.mem hc'.mem (hc.place.trans hc'.place.symm) hc.contains
        hc'.contains]

/-- The places give the same inputs when what holds in one state is what holds in the other, up
to what a trip does not take. -/
lemma map_inForce_congr (h : Kept g db) (h' : Kept g db') {f : RateCard → RateCard}
    (hf : ∀ c, (f c).priceInputs = c.priceInputs)
    (hholds : ∀ c', Holds db' zone vehicleType t c' ↔
      ∃ c, Holds db zone vehicleType t c ∧ c' = f c) :
    (db'.inForce zone vehicleType t).map (·.priceInputs) =
      (db.inForce zone vehicleType t).map (·.priceInputs) := by
  cases hfound : db.inForce zone vehicleType t with
  | none =>
      have hnone : db'.inForce zone vehicleType t = none := by
        cases hfound' : db'.inForce zone vehicleType t with
        | none => rfl
        | some c' =>
            obtain ⟨c, hc, -⟩ := (hholds c').mp (holds_of_inForce hfound')
            rw [h.inForce_eq_some_iff.mpr hc] at hfound
            cases hfound
      rw [hnone]
  | some c =>
      have hc' := (hholds (f c)).mpr ⟨c, holds_of_inForce hfound, rfl⟩
      rw [h'.inForce_eq_some_iff.mpr hc', Option.map_some, Option.map_some, hf]

/-- A search gives the same answer when each place does. -/
lemma map_findSome?_congr {α β γ : Type*} {f f' : α → Option β} {p : β → γ}
    (h : ∀ a, (f a).map p = (f' a).map p) (l : List α) :
    (l.findSome? f).map p = (l.findSome? f').map p := by
  induction l with
  | nil => rfl
  | cons a l ih =>
      rw [List.findSome?_cons, List.findSome?_cons]
      have ha := h a
      cases hfa : f a with
      | none =>
          rw [hfa, Option.map_none, eq_comm, Option.map_eq_none_iff] at ha
          rw [ha]
          exact ih
      | some b =>
          rw [hfa, Option.map_some, eq_comm, Option.map_eq_some_iff] at ha
          obtain ⟨b', hb', hp⟩ := ha
          rw [hb']
          exact congrArg some hp.symm

lemma active_of_lookup (h : getActiveRateCard g db z vehicleType t = some c) : c ∈ db.active := by
  rw [getActiveRateCard] at h
  obtain ⟨cursor, -, hcursor⟩ := List.exists_of_findSome?_eq_some h
  exact (holds_of_inForce hcursor).mem

/-- The zone itself comes first. -/
lemma lookup_of_inForce (h : db.inForce z.id vehicleType t = some c) :
    getActiveRateCard g db z vehicleType t = some c := by
  rw [getActiveRateCard, Region.ancestors, Region.chain, if_neg List.not_mem_nil,
    List.findSome?_cons, h]

lemma Kept.atMostOne (h : Kept g db) : AtMostOne db :=
  fun _ hc _ hc' hactive hactive' hplace _ ht ht' =>
    h.successive.eq_of_contains (mem_active.mpr ⟨hc, hactive⟩) (mem_active.mpr ⟨hc', hactive'⟩)
      hplace ht ht'

end Lookup

/-! ## A card that starts -/

def RateCard.ended (place : ℕ × ℕ) (eff : ℤ) (c : RateCard) : RateCard :=
  if c.place = place ∧ c.effectiveTo = none then { c with effectiveTo := some eff } else c

/-- The state after the card `x` started at `eff`. -/
structure Opened (g : Region) (db db' : Cards) (eff : ℤ) (x : RateCard) : Prop where
  active : ∀ c', c' ∈ db'.active ↔ c' = x ∨ ∃ c ∈ db.active, c' = c.ended x.place eff
  start : x.effectiveFrom = eff
  unended : x.effectiveTo = none
  later : ∀ c ∈ db.active, c.place = x.place → c.effectiveTo = none → c.effectiveFrom < eff
  rows : ∀ c' ∈ db'.cards.rows, c'.id < db'.nextCard ∧ ∃ z ∈ g.zones.rows, z.id = c'.zone
  fresh : ∀ c ∈ db.cards.rows, c.id ≠ x.id

section Start

variable {g : Region} {db db' : Cards} {zone vehicleType cardId : ℕ} {t now eff : ℤ}
  {c c' x : RateCard} {p : CreatePayload}

@[simp] lemma ended_place {place : ℕ × ℕ} : (c.ended place eff).place = c.place := by
  rw [RateCard.ended]
  split <;> rfl

lemma ended_priceInputs {place : ℕ × ℕ} : (c.ended place eff).priceInputs = c.priceInputs := by
  rw [RateCard.ended]
  split <;> rfl

lemma Kept.opened (h : Kept g db) (hopened : Opened g db db' eff x)
    (hclosed : ∀ c ∈ db.active, c.place = x.place → ∀ e ∈ c.effectiveTo, e ≤ eff) :
    Kept g db' := by
  refine ⟨fun c hc => (hopened.rows c hc).1, fun c hc => (hopened.rows c hc).2, ?_⟩
  refine h.successive.supersede (x := x) (k := fun c => { c with effectiveTo := some eff })
    (e := eff) ?_ (fun _ => rfl) (fun _ => rfl)
    (fun c hc hplace hstop => hopened.later c hc hplace hstop) hclosed fun c' hc' => ?_
  · rw [RateCard.window, hopened.start, hopened.unended]
  · rcases (hopened.active c').mp hc' with hnew | ⟨c, hc, hold⟩
    · exact .inl hnew
    · refine .inr ⟨c, hc, ?_⟩
      rw [hold, RateCard.ended]
      split
      · rename_i hopen
        exact .inr ⟨rfl, hopen.1, hopen.2⟩
      · rename_i hopen
        exact .inl ⟨rfl, fun hplace hstop => hopen ⟨hplace, hstop⟩⟩

lemma holds_opened (hopened : Opened g db db' eff x) (ht : t < eff) :
    Holds db' zone vehicleType t c' ↔
      ∃ c, Holds db zone vehicleType t c ∧ c' = c.ended x.place eff := by
  have hwindow : ∀ c : RateCard, (c.ended x.place eff).window.Contains t ↔ c.window.Contains t := by
    intro c
    rw [RateCard.ended]
    split
    · rename_i hopen
      exact Window.contains_closeAt_of_lt (w := c.window) hopen.2 ht
    · rfl
  constructor
  · rintro ⟨hmem, hplace, hcontains⟩
    rcases (hopened.active c').mp hmem with rfl | ⟨c, hc, rfl⟩
    · have hstart : c'.effectiveFrom ≤ t := hcontains.1
      have heq := hopened.start
      omega
    · exact ⟨c, ⟨hc, by rw [← hplace, ended_place], (hwindow c).mp hcontains⟩, rfl⟩
  · rintro ⟨c, ⟨hmem, hplace, hcontains⟩, rfl⟩
    exact ⟨(hopened.active _).mpr (.inr ⟨c, hmem, rfl⟩), by rw [ended_place, hplace],
      (hwindow c).mpr hcontains⟩

/-- The moment a card starts is not before now, and after the start of the card it follows. -/
lemma start_spec : now ≤ p.start now none ∧
    ∀ c : RateCard, now ≤ p.start now (some c) ∧ c.effectiveFrom < p.start now (some c) := by
  refine ⟨le_max_right _ _, fun c => ?_⟩
  rw [CreatePayload.start, second]
  split <;> omega

lemma mem_opens : c ∈ db.opens zone vehicleType ↔
    c ∈ db.active ∧ c.place = (zone, vehicleType) ∧ c.effectiveTo = none := by
  rw [Cards.opens, List.mem_filter, mem_active]
  simp only [Bool.and_eq_true, decide_eq_true_eq, Option.isNone_iff_eq_none]
  constructor
  · rintro ⟨hmem, ⟨hplace, hactive⟩, hstop⟩
    exact ⟨⟨hmem, hactive⟩, hplace, hstop⟩
  · rintro ⟨⟨hmem, hactive⟩, hplace, hstop⟩
    exact ⟨hmem, ⟨hplace, hactive⟩, hstop⟩

lemma Kept.opened_newVersion (h : Kept g db) (hc : c ∈ db.opens zone vehicleType)
    (hlt : c.effectiveFrom < eff) (notes : String) (values : CardValues) :
    ∃ x, x.place = c.place ∧ x.isActive = true ∧
      Opened g db (db.newVersion c eff notes values) eff x := by
  obtain ⟨hcactive, -, hcstop⟩ := mem_opens.mp hc
  obtain ⟨hcmem, hcflag⟩ := mem_active.mp hcactive
  have hcid := h.fresh c hcmem
  -- the current card is the only open one of the place
  have hself : ∀ d ∈ db.active, d ≠ c → d.ended c.place eff = d := by
    intro d hd hne
    rw [RateCard.ended, if_neg]
    rintro ⟨hplace, hstop⟩
    exact hne (h.successive.eq_of_open hd hcactive hplace hstop hcstop)
  have hended : c.ended c.place eff = { c with effectiveTo := some eff } := by
    rw [RateCard.ended, if_pos ⟨rfl, hcstop⟩]
  obtain ⟨x, hx⟩ : ∃ x : RateCard, x = { c with
    id := db.nextCard, version := c.version + 1, effectiveFrom := eff, effectiveTo := none,
    notes := notes, values := values } := ⟨_, rfl⟩
  have hplace : x.place = c.place := by rw [hx]; rfl
  have hid : x.id = db.nextCard := by rw [hx]
  have hflag : x.isActive = true := by rw [hx]; exact hcflag
  have hrows : ∀ c', c' ∈ (db.newVersion c eff notes values).cards.rows ↔
      c' = { c with effectiveTo := some eff } ∨
        (c' = x ∨ c' ∈ db.cards.rows ∧ c'.id ≠ x.id) ∧ c'.id ≠ c.id := by
    intro c'
    rw [Cards.newVersion, Table.mem_put, Table.mem_put, hx]
  refine ⟨x, hplace, hflag, fun c' => ?_, by rw [hx], by rw [hx], fun d hd hdplace hstop => ?_,
    fun c' hc' => ?_, fun d hd => hid ▸ (h.fresh d hd).ne⟩
  · rw [mem_active, hrows, hplace]
    constructor
    · rintro ⟨rfl | ⟨rfl | ⟨hmem, -⟩, hne⟩, hactive⟩
      · exact .inr ⟨c, hcactive, hended.symm⟩
      · exact .inl rfl
      · refine .inr ⟨c', mem_active.mpr ⟨hmem, hactive⟩,
          (hself c' (mem_active.mpr ⟨hmem, hactive⟩) ?_).symm⟩
        rintro rfl
        exact hne rfl
    · rintro (rfl | ⟨d, hd, rfl⟩)
      · exact ⟨.inr ⟨.inl rfl, by omega⟩, hflag⟩
      · obtain ⟨hdmem, hdflag⟩ := mem_active.mp hd
        by_cases hdc : d = c
        · rw [hdc, hended]
          exact ⟨.inl rfl, hcflag⟩
        · rw [hself d hd hdc]
          refine ⟨.inr ⟨.inr ⟨hdmem, hid ▸ (h.fresh d hdmem).ne⟩, fun hsame => hdc ?_⟩, hdflag⟩
          exact Table.eq_of_mem hdmem hcmem hsame
  · rw [h.successive.eq_of_open hd hcactive (hdplace.trans hplace) hstop hcstop]
    exact hlt
  · show c'.id < db.nextCard + 1 ∧ _
    rcases (hrows c').mp hc' with rfl | ⟨rfl | ⟨hmem, -⟩, -⟩
    · exact ⟨Nat.lt_succ_of_lt hcid, h.placed c hcmem⟩
    · refine ⟨by omega, ?_⟩
      rw [hx]
      exact h.placed c hcmem
    · exact ⟨Nat.lt_succ_of_lt (h.fresh c' hmem), h.placed c' hmem⟩

lemma Kept.opened_firstCard (h : Kept g db) (hz : (g.zones.get? p.zone).isSome)
    (hnone : db.current p.zone p.vehicleType = none) :
    ∃ x, x.place = (p.zone, p.vehicleType) ∧ x.isActive = true ∧
      Opened g db (db.firstCard p eff) eff x := by
  obtain ⟨z, hz⟩ := Option.isSome_iff_exists.mp hz
  obtain ⟨hzmem, hzid⟩ := Table.mem_of_get? hz
  have hopen : ∀ d ∈ db.active, d.place = (p.zone, p.vehicleType) → d.effectiveTo ≠ none := by
    intro d hd hplace hstop
    have hmem : d ∈ db.opens p.zone p.vehicleType := mem_opens.mpr ⟨hd, hplace, hstop⟩
    rw [Cards.current, List.argmax_eq_none] at hnone
    rw [hnone] at hmem
    cases hmem
  have hself : ∀ d ∈ db.active, d.ended (p.zone, p.vehicleType) eff = d := by
    intro d hd
    rw [RateCard.ended, if_neg]
    rintro ⟨hplace, hstop⟩
    exact hopen d hd hplace hstop
  refine ⟨⟨db.nextCard, p.zone, p.vehicleType, p.values, eff, none, 1, true, p.notes⟩, rfl, rfl,
    fun c' => ?_, rfl, rfl, fun d hd hplace hstop => absurd hstop (hopen d hd hplace),
    fun c' hc' => ?_, fun d hd => (h.fresh d hd).ne⟩
  · rw [mem_active, Cards.firstCard, Table.mem_put]
    constructor
    · rintro ⟨rfl | ⟨hmem, -⟩, hactive⟩
      · exact .inl rfl
      · exact .inr ⟨c', mem_active.mpr ⟨hmem, hactive⟩,
          (hself c' (mem_active.mpr ⟨hmem, hactive⟩)).symm⟩
    · rintro (rfl | ⟨d, hd, hd'⟩)
      · exact ⟨.inl rfl, rfl⟩
      · have hcd : c' = d := hd'.trans (hself d hd)
        obtain ⟨hdmem, hdflag⟩ := mem_active.mp hd
        rw [hcd]
        exact ⟨.inr ⟨hdmem, (h.fresh d hdmem).ne⟩, hdflag⟩
  · rw [Cards.firstCard] at hc' ⊢
    rcases Table.mem_put.mp hc' with rfl | ⟨hc', -⟩
    · exact ⟨Nat.lt_succ_self _, z, hzmem, hzid⟩
    · exact ⟨Nat.lt_succ_of_lt (h.fresh c' hc'), h.placed c' hc'⟩

lemma opened_of_create (h : Kept g db) (hok : executeCreate g now p db = .ok db') :
    ∃ x, x.place = (p.zone, p.vehicleType) ∧ x.isActive = true ∧
      ((∃ c, Opened g db db' (p.start now (some c)) x ∧
        db.current p.zone p.vehicleType = some c) ∨
      ((g.zones.get? p.zone).isSome ∧ p.vehicleType ∈ g.vehicleTypes ∧ p.baseCard = none ∧
        db.current p.zone p.vehicleType = none ∧ Opened g db db' (p.start now none) x)) := by
  rw [executeCreate] at hok
  split at hok
  · cases hok
  · rename_i htarget
    simp only [Bool.or_eq_true, Option.isNone_iff_eq_none, decide_eq_true_eq, not_or, not_not]
      at htarget
    obtain ⟨hzone, hclass⟩ := htarget
    have hzone' : (g.zones.get? p.zone).isSome := Option.isSome_iff_ne_none.mpr hzone
    dsimp only at hok
    split at hok
    · cases hok
    · rename_i hbase
      split at hok
      · rename_i c hcurrent
        rw [hcurrent] at hok
        cases hok
        have hc : c ∈ db.opens p.zone p.vehicleType := List.argmax_mem hcurrent
        have hstart : c.effectiveFrom < p.start now (some c) := (start_spec.2 c).2
        obtain ⟨x, hplace, hflag, hopened⟩ := h.opened_newVersion hc hstart _ p.values
        exact ⟨x, hplace.trans (mem_opens.mp hc).2.1, hflag, .inl ⟨c, hopened, hcurrent⟩⟩
      · rename_i hcurrent
        rw [hcurrent] at hok
        cases hok
        have hbase' : p.baseCard = none := by
          rw [hcurrent] at hbase
          exact (not_not.mp hbase).symm
        obtain ⟨x, hplace, hflag, hopened⟩ := h.opened_firstCard hzone' hcurrent
        exact ⟨x, hplace, hflag, .inr ⟨hzone', hclass, hbase', hcurrent, hopened⟩⟩

end Start

/-! ## A card that is retired -/

section Retire

variable {g : Region} {db : Cards} {zone vehicleType : ℕ} {t now : ℤ} {c c' : RateCard}

def Cards.without (db : Cards) (c : RateCard) (now : ℤ) : Cards :=
  ⟨db.cards.put (c.retired now), db.nextCard⟩

lemma mem_active_without (hc : c ∈ db.cards.rows) :
    c' ∈ (db.without c now).active ↔ c' ∈ db.active ∧ c' ≠ c := by
  rw [mem_active, mem_active, Cards.without, Table.mem_put]
  constructor
  · rintro ⟨rfl | ⟨hmem, hne⟩, hactive⟩
    · cases hactive
    · refine ⟨⟨hmem, hactive⟩, ?_⟩
      rintro rfl
      exact hne rfl
  · rintro ⟨⟨hmem, hactive⟩, hne⟩
    exact ⟨.inr ⟨hmem, fun hid => hne (Table.eq_of_mem hmem hc hid)⟩, hactive⟩

lemma holds_without (hc : c ∈ db.cards.rows) :
    Holds (db.without c now) zone vehicleType t c' ↔
      Holds db zone vehicleType t c' ∧ c' ≠ c := by
  constructor
  · rintro ⟨hmem, hplace, hcontains⟩
    obtain ⟨hactive, hne⟩ := (mem_active_without hc).mp hmem
    exact ⟨⟨hactive, hplace, hcontains⟩, hne⟩
  · rintro ⟨⟨hmem, hplace, hcontains⟩, hne⟩
    exact ⟨(mem_active_without hc).mpr ⟨hmem, hne⟩, hplace, hcontains⟩

lemma Kept.without (h : Kept g db) (hc : c ∈ db.cards.rows) : Kept g (db.without c now) := by
  have hrow : ∀ c' ∈ (db.without c now).cards.rows,
      ∃ d ∈ db.cards.rows, c'.id = d.id ∧ c'.zone = d.zone := by
    intro c' hc'
    rcases Table.mem_put.mp hc' with rfl | ⟨hmem, -⟩
    · exact ⟨c, hc, rfl, rfl⟩
    · exact ⟨c', hmem, rfl, rfl⟩
  have hsub : ∀ c' ∈ (db.without c now).active, c' ∈ db.active :=
    fun c' hc' => ((mem_active_without hc).mp hc').1
  refine ⟨fun c' hc' => ?_, fun c' hc' => ?_, fun r hr r' hr' => ?_, fun r hr => ?_⟩
  · obtain ⟨d, hd, hid, -⟩ := hrow c' hc'
    rw [hid]
    exact h.fresh d hd
  · obtain ⟨d, hd, -, hzone⟩ := hrow c' hc'
    rw [hzone]
    exact h.placed d hd
  · exact h.successive.apart r (hsub r hr) r' (hsub r' hr')
  · exact h.successive.proper r (hsub r hr)

end Retire

/-! ## One change -/

section Step

variable {g : Region} {db db' : Cards} {now : ℤ} {s : Desk} {x : Approval}

/-- The answers stay the same where each place gives the same answer. -/
lemma samePast_of_holds (h : Kept g db) (h' : Kept g db') {f : RateCard → RateCard}
    (hf : ∀ c, (f c).priceInputs = c.priceInputs)
    (hholds : ∀ zone vehicleType t, t < now → ∀ c', Holds db' zone vehicleType t c' ↔
      ∃ c, Holds db zone vehicleType t c ∧ c' = f c) : SamePast g now db db' :=
  fun _ _ vehicleType t ht => map_findSome?_congr
    (fun cursor => map_inForce_congr h h' hf (hholds cursor.id vehicleType t ht)) _

lemma Kept.samePast_of_opened {eff : ℤ} {c : RateCard} (h : Kept g db)
    (hopened : Opened g db db' eff c) (heff : now ≤ eff)
    (hclosed : ∀ d ∈ db.active, d.place = c.place → ∀ e ∈ d.effectiveTo, e ≤ eff) :
    Kept g db' ∧ SamePast g now db db' := by
  have h' := h.opened hopened hclosed
  exact ⟨h', samePast_of_holds h h' (fun _ => ended_priceInputs) fun zone vehicleType t ht c' =>
    holds_opened hopened (lt_of_lt_of_le ht heff)⟩

/-- A retirement of a card that has not taken effect. -/
lemma Kept.samePast_without {c : RateCard} (h : Kept g db) (hc : c ∈ db.cards.rows)
    (hnow : now ≤ c.effectiveFrom) : SamePast g now db (db.without c now) := by
  refine samePast_of_holds h (h.without hc) (f := id) (fun _ => rfl)
    fun zone vehicleType t ht c' => ?_
  rw [holds_without hc]
  constructor
  · rintro ⟨hholds, -⟩
    exact ⟨c', hholds, rfl⟩
  · rintro ⟨d, hholds, hd⟩
    rw [hd]
    refine ⟨hholds, fun hdc => ?_⟩
    have hstart : d.effectiveFrom ≤ t := hholds.contains.1
    rw [show d = c from hdc] at hstart
    omega

/-- What a retirement does. -/
lemma without_of_retire {cardId : ℕ} (hok : executeRetire now cardId db = .ok db') :
    ∃ c, db.cards.get? cardId = some c ∧ c.isActive = true ∧ db' = db.without c now := by
  rw [executeRetire] at hok
  split at hok
  · cases hok
  · rename_i c hget
    split at hok
    · cases hok
    · rename_i hactive
      cases hok
      exact ⟨c, hget, by simpa using hactive, rfl⟩

lemma samePast_refl : SamePast g now db db := fun _ _ _ _ _ => rfl

/-- The guard is enough. -/
lemma Kept.step (h : Kept g s.cards) (hforward : Forward g s x) :
    Kept g (step g s x).cards ∧ PastKept g s x := by
  obtain ⟨delay, change⟩ := x
  show Kept g (execute g (s.clock + delay) s.cards change) ∧
    SamePast g (s.clock + delay) s.cards (execute g (s.clock + delay) s.cards change)
  cases change with
  | create p =>
      rw [execute]
      split
      · rename_i db' hok
        obtain ⟨c, hplace, hflag, ⟨d, hopened, hcurrent⟩ | ⟨hzone, hclass, hbase, hnone, hopened⟩⟩ :=
          opened_of_create h hok
        · obtain ⟨hdactive, hdplace, hdstop⟩ := mem_opens.mp (List.argmax_mem hcurrent)
          obtain ⟨hnow, hlt⟩ := start_spec.2 d
          refine h.samePast_of_opened hopened hnow fun r hr hrplace e he => ?_
          have hle := h.successive.stop_le hr hdactive
            (hrplace.trans (hplace.trans hdplace.symm)) hdstop he
          exact le_trans hle hlt.le
        · refine h.samePast_of_opened hopened start_spec.1 fun r hr hrplace e he => ?_
          obtain ⟨hrmem, hrflag⟩ := mem_active.mp hr
          exact hforward hzone hclass hbase hnone r hrmem (hrplace.trans hplace) hrflag e he
      · exact ⟨h, samePast_refl⟩
  | retire cardId =>
      rw [execute]
      split
      · rename_i db' hok
        obtain ⟨c, hget, hactive, rfl⟩ := without_of_retire hok
        have hmem := (Table.mem_of_get? hget).1
        exact ⟨h.without hmem, h.samePast_without hmem (hforward c hget hactive)⟩
      · exact ⟨h, samePast_refl⟩

lemma Kept.ended_of_lawful {p : CreatePayload} (h : Kept g db)
    (hzone : (g.zones.get? p.zone).isSome) (hclass : p.vehicleType ∈ g.vehicleTypes)
    (hbase : p.baseCard = none) (hnone : db.current p.zone p.vehicleType = none)
    (hone : AtMostOne (execute g now db (.create p))) {c : RateCard} (hc : c ∈ db.active)
    (hplace : c.place = (p.zone, p.vehicleType)) {e : ℤ} (he : c.effectiveTo = some e) :
    e ≤ p.start now none := by
  by_contra hlt
  have hok : executeCreate g now p db = .ok (db.firstCard p (p.start now none)) := by
    rw [executeCreate, if_neg]
    · dsimp only
      rw [hnone, hbase, if_neg (by simp)]
    · rw [Bool.or_eq_true, decide_eq_true_eq, not_or, not_not]
      exact ⟨by simpa [Option.isSome_iff_ne_none] using hzone, hclass⟩
  rw [execute, hok] at hone
  obtain ⟨x, hxplace, hxflag, hopened⟩ : ∃ x, x.place = (p.zone, p.vehicleType) ∧
      x.isActive = true ∧ Opened g db (db.firstCard p (p.start now none)) (p.start now none) x :=
    h.opened_firstCard hzone hnone
  have hproper := h.successive.proper c hc e he
  have hended : c.ended x.place (p.start now none) = c := by
    rw [RateCard.ended, if_neg]
    rintro ⟨-, hstop⟩
    rw [he] at hstop
    cases hstop
  have hcmem : c ∈ (db.firstCard p (p.start now none)).active :=
    (hopened.active c).mpr (.inr ⟨c, hc, hended.symm⟩)
  have hxmem : x ∈ (db.firstCard p (p.start now none)).active :=
    (hopened.active x).mpr (.inl rfl)
  -- both are in force when the later of them starts
  have hsame := hone c (mem_active.mp hcmem).1 x (mem_active.mp hxmem).1 (mem_active.mp hcmem).2
    (mem_active.mp hxmem).2 (hplace.trans hxplace.symm) (max c.effectiveFrom (p.start now none))
    ((Window.contains_of_stop he).mpr ⟨le_max_left _ _, max_lt hproper (not_le.mp hlt)⟩)
    ((Window.contains_of_open hopened.unended).mpr
      (hopened.start.le.trans (le_max_right _ _)))
  rw [hsame, hopened.unended] at he
  cases he

lemma Kept.le_of_lawful {c : RateCard} (h : Kept g db) (hc : c ∈ db.active)
    (hpast : SamePast g now db (db.without c now)) : now ≤ c.effectiveFrom := by
  by_contra hlt
  obtain ⟨z, hz, hzid⟩ := h.placed c (mem_active.mp hc).1
  -- the card held when it took effect, and none of its id does after it was retired
  have hholds : Holds db z.id c.vehicleType c.effectiveFrom c := by
    refine ⟨hc, by rw [hzid]; rfl, le_refl _, fun e he => ?_⟩
    exact h.successive.proper c hc e he
  have hlookup : getActiveRateCard g db z c.vehicleType c.effectiveFrom = some c :=
    lookup_of_inForce (h.inForce_eq_some_iff.mpr hholds)
  have heq := hpast z hz c.vehicleType c.effectiveFrom (not_le.mp hlt)
  rw [hlookup, Option.map_some, Option.map_eq_some_iff] at heq
  obtain ⟨d, hd, hinputs⟩ := heq
  obtain ⟨hdactive, hne⟩ := (mem_active_without (mem_active.mp hc).1).mp (active_of_lookup hd)
  exact hne (Table.eq_of_mem (mem_active.mp hdactive).1 (mem_active.mp hc).1
    (congrArg Prod.fst hinputs))

lemma Kept.lawful_iff (h : Kept g s.cards) : Lawful g s x ↔ Forward g s x := by
  constructor
  · rintro ⟨hpast, hone⟩
    obtain ⟨delay, change⟩ := x
    cases change with
    | create p =>
        intro hzone hclass hbase hnone c hc hplace hactive e he
        exact h.ended_of_lawful hzone hclass hbase hnone hone (mem_active.mpr ⟨hc, hactive⟩)
          hplace he
    | retire cardId =>
        intro c hget hactive
        refine h.le_of_lawful (mem_active.mpr ⟨(Table.mem_of_get? hget).1, hactive⟩) ?_
        have hok : executeRetire (s.clock + delay) cardId s.cards =
            .ok (s.cards.without c (s.clock + delay)) := by
          rw [executeRetire, hget]
          simp [hactive, Cards.without]
        have hpast' : SamePast g (s.clock + delay) s.cards
            (execute g (s.clock + delay) s.cards (.retire cardId)) := hpast
        rw [execute, hok] at hpast'
        exact hpast'
  · intro hforward
    obtain ⟨hkept, hpast⟩ := h.step hforward
    exact ⟨hpast, hkept.atMostOne⟩

end Step

/-! ## The histories -/

lemma kept_opening (g : Region) : Kept g Desk.opening.cards :=
  ⟨fun _ hc => (List.not_mem_nil hc).elim, fun _ hc => (List.not_mem_nil hc).elim,
    fun _ hc => (List.not_mem_nil hc).elim, fun _ hc => (List.not_mem_nil hc).elim⟩

/-- A history of approved changes keeps the law of the cards exactly when every retirement is of
a card that has not taken effect, and every first card starts after the active cards of its place
have ended. -/
theorem lawful_iff_forward (g : Region) (xs : List Approval) :
    Transition.Guarded (step g) (Lawful g) Desk.opening xs ↔
      Transition.Guarded (step g) (Forward g) Desk.opening xs :=
  Transition.guarded_iff_of_preserved (I := fun s => Kept g s.cards)
    (fun _ _ h hforward => (h.step hforward).1) (fun _ _ h => h.lawful_iff) (kept_opening g)

/-! ### Two histories that break the law -/

def exampleRegion : Region where
  zones := ⟨[⟨1, none⟩], by decide⟩
  vehicleTypes := [1]

def examplePayload (effectiveFrom : Option ℤ) (baseCard : Option ℕ) : CreatePayload :=
  ⟨1, 1, ⟨50, 12, 1, 80, 1, 22, 6, 2, 5⟩, effectiveFrom, "", baseCard⟩

/-- A card in force from 10 on is retired at 20. -/
def retiredInForce : List Approval :=
  [⟨10, .create (examplePayload none none)⟩, ⟨10, .retire 1⟩]

/-- The card of a trip that was requested at 15 is gone. -/
theorem not_lawful_retiredInForce :
    ¬ Transition.Guarded (step exampleRegion) (Lawful exampleRegion) Desk.opening
      retiredInForce := by
  rintro ⟨-, ⟨hpast, -⟩, -⟩
  have heq := hpast ⟨1, none⟩ (by decide) 1 15 (by decide)
  revert heq
  decide +kernel

/-- A price change is scheduled for 100 and retired before, and a first card starts at 30. -/
def scheduledRetired : List Approval :=
  [⟨10, .create (examplePayload none none)⟩, ⟨5, .create (examplePayload (some 100) (some 1))⟩,
    ⟨5, .retire 2⟩, ⟨10, .create (examplePayload none none)⟩]

/-- The first card and the one that ends at 100 are both in force at 50. -/
theorem not_lawful_scheduledRetired :
    ¬ Transition.Guarded (step exampleRegion) (Lawful exampleRegion) Desk.opening
      scheduledRetired := by
  rintro ⟨-, -, -, ⟨-, hone⟩, -⟩
  have heq := hone ⟨1, 1, 1, ⟨50, 12, 1, 80, 1, 22, 6, 2, 5⟩, 10, some 100, 1, true, ""⟩
    (by decide +kernel) ⟨3, 1, 1, ⟨50, 12, 1, 80, 1, 22, 6, 2, 5⟩, 30, none, 1, true, ""⟩
    (by decide +kernel) rfl rfl rfl 50 (by decide) (by decide)
  exact absurd (congrArg RateCard.id heq) (by decide)

end SaaradhiGo.Fares
