/-
What the rollups add up to.

Every moment is on one local date of a city, and no two cities hold the same path, so what lies in
a city is placed once (`existsUnique_placed`).  A column of a written row is the sum over what is
placed there and has the class and the currency of the row (`column_grouped`).
-/
import SaaradhiGo.Reports.Compute
import Mathlib.Data.List.Pairwise

namespace SaaradhiGo.Reports

open SaaradhiGo.Money Grouping

/-! ## Where things are placed -/

/-- Neither city's path begins with the other's. -/
def City.Apart (c c' : City) : Prop :=
  ¬ c.path.toList <+: c'.path.toList ∧ ¬ c'.path.toList <+: c.path.toList

instance City.apart_symm : Std.Symm City.Apart := ⟨fun _ _ h => ⟨h.2, h.1⟩⟩

/-- No city's path begins with another's. -/
def DisjointPaths (cities : List City) : Prop := cities.Pairwise City.Apart

section Placed

variable {cities : List City} {c c' : City} {path : Option String}

lemma City.holds_iff : c.holds path ↔ ∃ p, path = some p ∧ c.path.toList <+: p.toList := by
  cases path with
  | none => simp [City.holds]
  | some p => simp [City.holds, List.isPrefixOf_iff_prefix]

lemma DisjointPaths.eq (h : DisjointPaths cities) (hc : c ∈ cities) (hc' : c' ∈ cities)
    (hholds : c.holds path) (hholds' : c'.holds path) : c = c' := by
  obtain ⟨p, hp, hprefix⟩ := City.holds_iff.mp hholds
  obtain ⟨p', hp', hprefix'⟩ := City.holds_iff.mp hholds'
  obtain rfl : p = p' := Option.some_inj.mp (hp.symm.trans hp')
  by_contra hne
  obtain ⟨hnot, hnot'⟩ := List.Pairwise.forall h hc hc' hne
  rcases List.prefix_or_prefix_of_prefix hprefix hprefix' with hle | hle
  · exact hnot hle
  · exact hnot' hle

lemma City.onDay_iff {d m : ℤ} : c.onDay d (some m) ↔ c.tz.midnights.Holds d m := by
  rw [City.onDay, Option.any_some, Bool.and_eq_true, decide_eq_true_eq, decide_eq_true_eq]
  rfl

/-- What lies in one of the cities is placed in exactly one city on exactly one date. -/
theorem existsUnique_placed {α : Type*} (h : DisjointPaths cities) {path : α → Option String}
    {moment : α → Option ℤ} {l : List α} {a : α} (ha : a ∈ l) (hmoment : moment a ≠ none)
    (hcity : ∃ c ∈ cities, c.holds (path a)) :
    ∃! x : City × ℤ, x.1 ∈ cities ∧ a ∈ placed x.1 x.2 path moment l := by
  obtain ⟨m, hm⟩ := Option.ne_none_iff_exists'.mp hmoment
  obtain ⟨c, hc, hholds⟩ := hcity
  have hplaced : ∀ (c : City) (d : ℤ), a ∈ placed c d path moment l ↔
      c.holds (path a) ∧ c.tz.midnights.Holds d m := by
    intro c d
    rw [placed, List.mem_filter, Bool.and_eq_true, hm, City.onDay_iff]
    exact and_iff_right ha
  obtain ⟨d, hd, hunique⟩ := c.tz.midnights.existsUnique_holds m
  refine ⟨(c, d), ⟨hc, (hplaced c d).mpr ⟨hholds, hd⟩⟩, ?_⟩
  rintro ⟨c', d'⟩ ⟨hc', ha'⟩
  obtain ⟨hholds', hd'⟩ := (hplaced c' d').mp ha'
  obtain rfl : c' = c := h.eq hc' hc hholds' hholds
  rw [hunique d' hd']

end Placed

/-! ## What a column shows -/

/-- What the rows of a day show in a column for a class and a currency. -/
def column (rows : List DailyCityMetrics) (key : Key) (col : Column) : ℤ :=
  ((rows.filter fun m => m.key = key).map fun m => m.row.columns col).sum

/-- What the answer to a query adds to a column. -/
def Part.sum (key : Key) (col : Column) : Part → ℤ
  | .sums l => ((l.filter fun x => x.1 = key).map fun x => x.2 col).sum
  | .etas _ => 0

def Column.IsEta (col : Column) : Prop := col = .etaCount ∨ col = .etaSecondsSum

section Column

variable {key : Key} {col : Column}

lemma Column.mem_all (col : Column) : col ∈ Column.all := by
  cases col <;> decide

lemma Row.columns_of_not_shows {r : Row} (h : r.shows = false) : r.columns col = 0 := by
  have hall := List.any_eq_false.mp h col col.mem_all
  simpa using hall

lemma Row.columns_setEtas (hcol : ¬ col.IsEta) (r : Row) (seconds : List ℤ) :
    (r.setEtas seconds).columns col = r.columns col := by
  rw [Column.IsEta, not_or] at hcol
  obtain ⟨hcount, hsum⟩ := hcol
  cases col <;> first | rfl | exact absurd rfl hcount | exact absurd rfl hsum

lemma columns_workIn (hcol : ¬ col.IsEta) (t : Rows Key Row) (part : Part) :
    (Rows.at Row.blank (workIn t part) key).columns col =
      (Rows.at Row.blank t key).columns col + part.sum key col := by
  cases part with
  | sums l =>
      exact obs_accumulate (fun r : Row => r.columns col) (fun columns : Column → ℤ => columns col)
        (fun _ _ => rfl) l t key
  | etas l =>
      have hset : ∀ (r : Row) (seconds : List ℤ),
          (r.setEtas seconds).columns col = r.columns col + 0 := by
        intro r seconds
        rw [add_zero]
        exact Row.columns_setEtas hcol r seconds
      refine (obs_accumulate (fun r : Row => r.columns col) (fun _ => 0) hset
        ((groups Prod.fst l).map fun g => (g.1, g.2.map Prod.snd)) t key).trans
          (congrArg (_ + ·) ?_)
      exact List.sum_eq_zero fun x hx => by
        obtain ⟨y, -, rfl⟩ := List.mem_map.mp hx
        rfl

lemma columns_foldl (hcol : ¬ col.IsEta) (parts : List Part) (t : Rows Key Row) :
    (Rows.at Row.blank (parts.foldl workIn t) key).columns col =
      (Rows.at Row.blank t key).columns col + (parts.map (Part.sum key col)).sum := by
  induction parts generalizing t with
  | nil => exact (add_zero _).symm
  | cons part parts ih =>
      rw [List.foldl_cons, ih, columns_workIn hcol, List.map_cons, List.sum_cons, add_assoc]

/-- A column of the written rows is the sum of the answers. -/
theorem column_metrics (hcol : ¬ col.IsEta) (parts : List Part) :
    column (metrics parts) key col = (parts.map (Part.sum key col)).sum := by
  have hblank : Row.blank.columns col = 0 := rfl
  have hkept := sum_kept (fun r : Row => r.columns col) Row.shows hblank
    (fun r hr => Row.columns_of_not_shows hr) (parts.foldl workIn Table.empty) key
  have hfold : (Rows.at Row.blank (parts.foldl workIn Table.empty) key).columns col =
      (Rows.at Row.blank Table.empty key).columns col + (parts.map (Part.sum key col)).sum :=
    columns_foldl hcol parts Table.empty
  rw [column, metrics, List.filter_map, List.map_map]
  refine Eq.trans hkept (hfold.trans ?_)
  exact zero_add _

end Column

/-! ## Groups -/

section Grouped

variable {α : Type*} {upper : String → String} {c : City} {vehicle currency : α → String}
  {columns : List α → Column → ℤ} {key : Key} {col : Column}

/-- The class and the currency of the row an item ends in. -/
def keyOf (upper : String → String) (c : City) (vehicle currency : α → String) (a : α) : Key :=
  (vehicle a, curOf upper (currency a) c.currency)

/-- A query that groups adds the items of the class and the currency. -/
theorem sum_grouped (hnil : columns [] col = 0)
    (hcons : ∀ a l, columns (a :: l) col = columns [a] col + columns l col) (l : List α) :
    (grouped upper c vehicle currency columns l).sum key col =
      columns (l.filter fun a => keyOf upper c vehicle currency a = key) col := by
  have hsum := eq_sum_singletons (f := fun l => columns l col) hnil hcons
  have hgroups := sum_groups (fun a => (vehicle a, currency a))
    (fun k : String × String => decide ((k.1, curOf upper k.2 c.currency) = key))
    (fun a => columns [a] col) l
  rw [grouped, Part.sum, List.filter_map, List.map_map]
  refine Eq.trans (congrArg List.sum ?_) (hgroups.trans (hsum _).symm)
  exact List.map_congr_left fun g _ => hsum g.2

end Grouped

/-! ## The columns of a day -/

section Columns

variable {col : Column}

lemma length_cons_eq {α : Type*} (a : α) (l : List α) :
    ((a :: l).length : ℤ) = [a].length + l.length := by
  rw [List.length_cons, List.length_singleton, Nat.cast_add, add_comm]

lemma requestColumns_cons (t : Trip) (g : List Trip) :
    requestColumns (t :: g) col = requestColumns [t] col + requestColumns g col := by
  have hfilter : ∀ p : Trip → Bool,
      (((t :: g).filter p).length : ℤ) = ([t].filter p).length + (g.filter p).length := by
    intro p
    rw [← List.singleton_append, List.filter_append, List.length_append, Nat.cast_add]
  cases col <;> first | exact length_cons_eq _ _ | exact hfilter _ | rfl

lemma sum_map_cons {α : Type*} (f : α → ℤ) (a : α) (l : List α) :
    ((a :: l).map f).sum = ([a].map f).sum + (l.map f).sum := by
  rw [List.map_cons, List.sum_cons, List.map_singleton, List.sum_singleton]

lemma completionColumns_cons (t : Trip) (g : List Trip) :
    completionColumns (t :: g) col = completionColumns [t] col + completionColumns g col := by
  cases col <;> first | exact length_cons_eq _ _ | exact sum_map_cons _ _ _ | rfl

lemma settlementColumns_cons (x : TripSettlement × Trip) (g : List (TripSettlement × Trip)) :
    settlementColumns (x :: g) col = settlementColumns [x] col + settlementColumns g col := by
  cases col <;> first | exact length_cons_eq _ _ | exact sum_map_cons _ _ _ | rfl

lemma amountColumns_cons (column : Column) (x : TripAmount × Trip) (g : List (TripAmount × Trip)) :
    amountColumns column (x :: g) col =
      amountColumns column [x] col + amountColumns column g col := by
  rw [amountColumns, amountColumns, amountColumns]
  split
  · exact sum_map_cons _ _ _
  · rfl

end Columns

section Made

variable (upper : String → String) (data : Data) (c : City) (d : ℤ) (key : Key)

/-- The trips of a row among those requested in a city on a date. -/
def requestedIn : List Trip :=
  (requestsOf data c d).filter fun t => keyOf upper c Trip.vehicle Trip.currency t = key

/-- The trips of a row among those completed. -/
def completedIn : List Trip :=
  (completionsOf data c d).filter fun t => keyOf upper c Trip.vehicle Trip.currency t = key

/-- The current settlements of a row. -/
def settledIn : List (TripSettlement × Trip) :=
  (settlementsOf data c d).filter fun x =>
    keyOf upper c (fun x => x.2.vehicle) (fun x => x.1.currency) x = key

def rebuilt : List DailyCityMetrics := (recipe upper c d).made data

/-- A column that no amount goes to is made of the trips and the settlements of the row. -/
theorem column_rebuilt {col : Column} (hcol : ¬ col.IsEta) (hpromo : col ≠ .promoCostMinor)
    (hrefund : col ≠ .refundsMinor) :
    column (rebuilt upper data c d) key col =
      requestColumns (requestedIn upper data c d key) col +
        completionColumns (completedIn upper data c d key) col +
        settlementColumns (settledIn upper data c d key) col := by
  have hrequest : requestColumns [] col = 0 := by cases col <;> rfl
  have hcompletion : completionColumns [] col = 0 := by cases col <;> rfl
  have hsettlement : settlementColumns [] col = 0 := by cases col <;> rfl
  have hamount : ∀ (column : Column) (l : List (TripAmount × Trip)), col ≠ column →
      (amounts upper c column l).sum key col = 0 := by
    intro column l hne
    rw [amounts, sum_grouped (if_neg hne) fun x g => amountColumns_cons column x g]
    exact if_neg hne
  have hparts : column (rebuilt upper data c d) key col =
      (requests upper c d data).sum key col + ((pickupEtas upper c d data).sum key col +
        ((completions upper c d data).sum key col + ((settlements upper c d data).sum key col +
          ((promoCosts upper c d data).sum key col +
            ((refunds upper c d data).sum key col + 0))))) := column_metrics hcol _
  rw [hparts, requests, sum_grouped hrequest fun t g => requestColumns_cons t g, completions,
    sum_grouped hcompletion fun t g => completionColumns_cons t g, settlements,
    sum_grouped hsettlement fun x g => settlementColumns_cons x g, promoCosts,
    hamount _ _ hpromo, refunds, hamount _ _ hrefund]
  show requestColumns (requestedIn upper data c d key) col + (0 +
    (completionColumns (completedIn upper data c d key) col +
      (settlementColumns (settledIn upper data c d key) col + (0 + (0 + 0))))) = _
  omega

end Made

/-! ## Conservation -/

def Cause.column : Cause → Column
  | .byRider => .cancelledByRider
  | .byDriver => .cancelledByDriver
  | .byOps => .cancelledByOps
  | .noDriver => .noDriverFound

/-- The cause of a cancellation: who cancelled, and when nobody is told whether a driver had
accepted. -/
def Trip.cause (t : Trip) : Cause :=
  match t.cancelledBy with
  | .rider => .byRider
  | .driver => .byDriver
  | .admin => .byOps
  | .blank => if t.acceptedAt.isSome then .byOps else .noDriver
  | .system => if t.acceptedAt.isSome then .byOps else .noDriver

/-- The filters of the query tell the cause. -/
lemma Trip.cancelledUnder_iff {t : Trip} (h : t.status = .cancelled) {cause : Cause} :
    t.cancelledUnder cause = true ↔ cause = t.cause := by
  cases haccepted : t.acceptedAt <;> cases hby : t.cancelledBy <;> cases cause <;>
    simp [Trip.cancelledUnder, Trip.cause, h, haccepted, hby]

lemma existsUnique_cause {t : Trip} (h : t.status = .cancelled) :
    ∃! cause, t.cancelledUnder cause = true :=
  ⟨t.cause, (Trip.cancelledUnder_iff h).mpr rfl, fun _ => (Trip.cancelledUnder_iff h).mp⟩

/-- What lies in a city is placed once, and each column of the rows of a day counts or adds up what
is placed there. -/
structure Conserved (upper : String → String) (data : Data) (cities : List City) : Prop where
  requested_once : ∀ t ∈ data.trips.rows, (∃ c ∈ cities, c.holds t.zonePath) →
    ∃! x : City × ℤ, x.1 ∈ cities ∧ t ∈ requestsOf data x.1 x.2
  requested_counted : ∀ c d key, column (rebuilt upper data c d) key .tripsRequested =
    (requestedIn upper data c d key).length
  completed_once : ∀ t ∈ data.trips.rows, t.status = .completed →
    (∃ c ∈ cities, c.holds t.zonePath) →
      ∃! x : City × ℤ, x.1 ∈ cities ∧ t ∈ completionsOf data x.1 x.2
  completed_counted : ∀ c d key, column (rebuilt upper data c d) key .tripsCompleted =
    (completedIn upper data c d key).length
  cancelled_once : ∀ t : Trip, t.status = .cancelled → ∃! cause, t.cancelledUnder cause = true
  cancelled_counted : ∀ c d key (cause : Cause),
    column (rebuilt upper data c d) key cause.column =
      ((requestedIn upper data c d key).filter fun t => t.cancelledUnder cause).length
  settled_once : ∀ s ∈ data.settlements,
    (∀ s' ∈ data.settlements, s'.trip = s.trip → s'.version ≤ s.version) →
      ∃ t, data.trips.get? s.trip = some t ∧ ((∃ c ∈ cities, c.holds t.zonePath) →
        ∃! x : City × ℤ, x.1 ∈ cities ∧ (s, t) ∈ settlementsOf data x.1 x.2)
  settled_counted : ∀ c d key,
    column (rebuilt upper data c d) key .gmvMinor =
        ((settledIn upper data c d key).map fun x => x.1.grossFareMinor).sum ∧
      column (rebuilt upper data c d) key .commissionMinor =
        ((settledIn upper data c d key).map fun x => x.1.commissionAmountMinor).sum ∧
      column (rebuilt upper data c d) key .driverNetMinor =
        ((settledIn upper data c d key).map fun x => x.1.driverNetMinor).sum

/-- A settlement with the highest version is current, and is there with its trip. -/
lemma mem_currentSettlements {data : Data} {s : TripSettlement} {t : Trip}
    (hs : s ∈ data.settlements) (ht : data.trips.get? s.trip = some t)
    (hcurrent : ∀ s' ∈ data.settlements, s'.trip = s.trip → s'.version ≤ s.version) :
    (s, t) ∈ currentSettlements data := by
  refine List.mem_filterMap.mpr ⟨s, List.mem_filter.mpr ⟨hs, ?_⟩, by rw [ht]; rfl⟩
  rw [Bool.not_eq_true', List.any_eq_false]
  intro s' hs' hnewer
  rw [Bool.and_eq_true, decide_eq_true_eq, decide_eq_true_eq] at hnewer
  have hle := hcurrent s' hs' hnewer.1
  omega

section Conserve

variable (upper : String → String) (data : Data) (c : City) (d : ℤ) (key : Key)

lemma column_requested : column (rebuilt upper data c d) key .tripsRequested =
    (requestedIn upper data c d key).length := by
  rw [column_rebuilt upper data c d key (by simp [Column.IsEta]) (by decide) (by decide)]
  exact add_zero _

lemma column_completed : column (rebuilt upper data c d) key .tripsCompleted =
    (completedIn upper data c d key).length := by
  rw [column_rebuilt upper data c d key (by simp [Column.IsEta]) (by decide) (by decide)]
  show 0 + ((completedIn upper data c d key).length : ℤ) + 0 = _
  omega

lemma column_cancelled (cause : Cause) : column (rebuilt upper data c d) key cause.column =
    ((requestedIn upper data c d key).filter fun t => t.cancelledUnder cause).length := by
  have hcol : ¬ cause.column.IsEta ∧ cause.column ≠ .promoCostMinor ∧
      cause.column ≠ .refundsMinor := by
    cases cause <;> simp [Cause.column, Column.IsEta]
  rw [column_rebuilt upper data c d key hcol.1 hcol.2.1 hcol.2.2]
  cases cause <;> exact add_zero _

/-- The money of a row is that of its current settlements. -/
lemma column_settled {col : Column} {amount : TripSettlement × Trip → ℤ}
    (hcol : ¬ col.IsEta ∧ col ≠ .promoCostMinor ∧ col ≠ .refundsMinor)
    (hrequest : ∀ g, requestColumns g col = 0) (hcompletion : ∀ g, completionColumns g col = 0)
    (hsettlement : ∀ g, settlementColumns g col = (g.map amount).sum) :
    column (rebuilt upper data c d) key col =
      ((settledIn upper data c d key).map amount).sum := by
  rw [column_rebuilt upper data c d key hcol.1 hcol.2.1 hcol.2.2, hrequest, hcompletion,
    hsettlement]
  omega

end Conserve

/-- The rollups conserve what is in the cities. -/
theorem conserved (upper : String → String) (data : Data) {cities : List City}
    (h : DisjointPaths cities) : Conserved upper data cities where
  requested_once := fun _ ht hcity => existsUnique_placed h ht (Option.some_ne_none _) hcity
  requested_counted := column_requested upper data
  completed_once := fun t ht hcompleted hcity =>
    existsUnique_placed h (List.mem_filter.mpr ⟨ht, decide_eq_true hcompleted⟩)
      (t.completed_at hcompleted) hcity
  completed_counted := column_completed upper data
  cancelled_once := fun _ => existsUnique_cause
  cancelled_counted := column_cancelled upper data
  settled_once := by
    intro s hs hcurrent
    obtain ⟨t, ht⟩ := Option.ne_none_iff_exists'.mp (data.settled s hs)
    refine ⟨t, ht, fun hcity => ?_⟩
    show ∃! x : City × ℤ, x.1 ∈ cities ∧ (s, t) ∈ placed x.1 x.2
      (fun x : TripSettlement × Trip => x.2.zonePath) (fun x => some x.1.settledAt)
      (currentSettlements data)
    exact existsUnique_placed h (mem_currentSettlements hs ht hcurrent) (Option.some_ne_none _)
      hcity
  settled_counted := fun c d key =>
    ⟨column_settled upper data c d key (by simp [Column.IsEta]) (fun _ => rfl) (fun _ => rfl)
        fun _ => rfl,
      column_settled upper data c d key (by simp [Column.IsEta]) (fun _ => rfl) (fun _ => rfl)
        fun _ => rfl,
      column_settled upper data c d key (by simp [Column.IsEta]) (fun _ => rfl) (fun _ => rfl)
        fun _ => rfl⟩

end SaaradhiGo.Reports
