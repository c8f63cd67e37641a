/-
Rebuilds that overlap.

A rebuild reads first and replaces the rows of the day later, and nothing ties the two together.
When a run that started earlier commits after a later one it puts older rows back
(`slow_rebuild_leaves_older_rows`); when every transaction has deleted all rows there are and no
later run is over by then, the rows that remain are no older than the start of the last run.
-/
import SaaradhiGo.Reports.Conserved

namespace SaaradhiGo.Reports

open SaaradhiGo.Money Grouping

/-- Rebuilt from data that have not changed since the last start, the stored rows are those of the
data. -/
lemma stored_of_unchanged {upper : String → String} {c : City} {d : ℤ} {data : Data}
    {s : Rebuild.State Data Part DailyCityMetrics} (h : Rebuild.Fresh (recipe upper c d) s)
    (hsince : s.since = [data]) : s.stored.map Prod.snd = rebuilt upper data c d :=
  h.eq_made hsince

/-- When the data do not change from the last start on, and each transaction is in order, the rows
that remain are those of the data, whatever the runs before have done. -/
theorem rows_of_unchanged {upper : String → String} {c : City} {d : ℤ} {data : Data}
    {stored : List (ℕ × DailyCityMetrics)} {next : ℕ} {before after : List (Rebuild.Event Data)}
    (hquiet : ∀ e ∈ after, e.Quiet)
    (h : Transition.Guarded (Rebuild.step (recipe upper c d)) Rebuild.InOrder
      (Rebuild.opening data stored next) (before ++ .start :: after))
    (hended : Rebuild.AllEnded (Transition.run (Rebuild.step (recipe upper c d))
      (Rebuild.opening data stored next) (before ++ .start :: after))) :
    (Transition.run (Rebuild.step (recipe upper c d)) (Rebuild.opening data stored next)
        (before ++ .start :: after)).stored.map Prod.snd =
      rebuilt upper (Transition.run (Rebuild.step (recipe upper c d))
        (Rebuild.opening data stored next) before).data c d := by
  have hfresh := Rebuild.fresh_of_guarded (recipe upper c d) data stored next h hended
  rw [Transition.run_append, Transition.run_cons] at hfresh ⊢
  refine stored_of_unchanged hfresh ?_
  rw [Rebuild.since_run_of_quiet _ _ hquiet]
  rfl

/-- The rollups conserve what is in the cities, and when each transaction is in order the rows that
remain, once every run is over, are made from data no older than the start of the last run. -/
theorem rollups_conserved_and_fresh (upper : String → String) :
    (∀ (data : Data) (cities : List City), DisjointPaths cities → Conserved upper data cities) ∧
    ∀ (c : City) (d : ℤ) (data : Data) (stored : List (ℕ × DailyCityMetrics)) (next : ℕ)
      (events : List (Rebuild.Event Data)),
      Transition.Guarded (Rebuild.step (recipe upper c d)) Rebuild.InOrder
          (Rebuild.opening data stored next) events →
        Rebuild.AllEnded (Transition.run (Rebuild.step (recipe upper c d))
          (Rebuild.opening data stored next) events) →
        Rebuild.Fresh (recipe upper c d) (Transition.run (Rebuild.step (recipe upper c d))
          (Rebuild.opening data stored next) events) :=
  ⟨fun data _ h => conserved upper data h,
    fun c d data stored next _ h hended =>
      Rebuild.fresh_of_guarded (recipe upper c d) data stored next h hended⟩

/-! ## Two runs -/

/-- A city on universal time. -/
def plainCity : City where
  path := "IN/TS/HYD/"
  tz :=
    { offset := fun _ => 0
      lt_day := fun _ => by decide
      step_le := fun _ => by decide }
  currency := .inr

/-- Nothing has happened. -/
def noData : Data where
  trips := Table.empty
  settlements := []
  settled := fun _ h => absurd h List.not_mem_nil
  ledger := []
  moneyActions := []

/-- A trip that is requested on the first day. -/
def firstTrip : Trip where
  id := 1
  zonePath := some "IN/TS/HYD/CENTRE/"
  requestedVehicleType := some "sedan"
  vehicleType := none
  currency := "INR"
  status := .requested
  requestedAt := 3600000000
  acceptedAt := none
  reachedAt := none
  completedAt := none
  completed_at := fun h => absurd h (by decide)
  cancelledBy := .blank
  finalFareMinor := none
  estimatedFareMinor := some 10000
  actualDistanceKm := none
  actualDurationMin := none

def oneTrip : Data := { noData with
  trips := Table.empty.put firstTrip
  settled := fun _ h => absurd h List.not_mem_nil }

def orderedRuns : List (Rebuild.Event Data) :=
  [.start] ++ List.replicate 6 (.read 0) ++ [.change oneTrip, .delete 0, .commit 0, .start] ++
    List.replicate 6 (.read 1) ++ [.delete 1, .commit 1]

/-- The rows are those of the second run. -/
theorem ordered_runs_are_fresh :
    Rebuild.Fresh (recipe id plainCity 0) (Transition.run (Rebuild.step (recipe id plainCity 0))
      (Rebuild.opening noData [] 1) orderedRuns) :=
  (rollups_conserved_and_fresh id).2 plainCity 0 noData [] 1 orderedRuns (by decide +kernel)
    (by decide +kernel)

/-- One run reads before the trip is requested; another starts after it and is over when the first
one deletes what it has written. -/
def slowRun : List (Rebuild.Event Data) :=
  [.start] ++ List.replicate 6 (.read 0) ++ [.change oneTrip, .start] ++
    List.replicate 6 (.read 1) ++ [.delete 1, .commit 1, .delete 0, .commit 0]

/-- Nothing of the trip is left in the rows. -/
theorem slow_rebuild_leaves_older_rows :
    ¬ ∀ (upper : String → String) (c : City) (d : ℤ) (data : Data)
      (stored : List (ℕ × DailyCityMetrics)) (next : ℕ) (events : List (Rebuild.Event Data)),
      Rebuild.AllEnded (Transition.run (Rebuild.step (recipe upper c d))
          (Rebuild.opening data stored next) events) →
        Rebuild.Fresh (recipe upper c d) (Transition.run (Rebuild.step (recipe upper c d))
          (Rebuild.opening data stored next) events) := by
  intro h
  have hended : Rebuild.AllEnded (Transition.run (Rebuild.step (recipe id plainCity 0))
      (Rebuild.opening noData [] 1) slowRun) := by
    decide +kernel
  have hsince : (Transition.run (Rebuild.step (recipe id plainCity 0))
      (Rebuild.opening noData [] 1) slowRun).since = [oneTrip] := rfl
  have hstored := stored_of_unchanged (h id plainCity 0 noData [] 1 slowRun hended) hsince
  exact absurd (congrArg List.length hstored) (by decide +kernel)

end SaaradhiGo.Reports
