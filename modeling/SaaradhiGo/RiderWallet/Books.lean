/-
The books of the riders' wallets.

Whatever the sessions do at once, a balance moves by what the ledger books, covers the rewards under
review and so is never below zero; a row of the ledger stays, with its key to itself; and a recovery
takes what it was approved for at most.
-/
import SaaradhiGo.RiderWallet.Reviewed

namespace SaaradhiGo.RiderWallet

open TwoPhase SaaradhiGo.Money SaaradhiGo.Fraud

section Runs

variable {τ : Type} [DecidableEq τ] {db : Db}

lemma sane_walletsAfter (h : Sane db) (ms : List (Move τ Request)) :
    Sane (walletsAfter db ms).db :=
  (System.kept_run agreement_keep guarded_transaction Forward.refl h ms).inv

/-- Run lemma: between two moments. -/
lemma forward_walletsAfter (h : Sane db) (ms ms' : List (Move τ Request)) :
    Forward (walletsAfter db ms).db (walletsAfter db (ms ++ ms')).db :=
  System.guarded_run agreement_keep guarded_transaction Forward.refl
    (fun _ _ _ => Forward.trans) h ms ms'

end Runs

/-! ## A race for one balance -/

/-- A rider with a balance of 500, of which 200 are a reward under review. -/
def oneRider : Db where
  wallets := ⟨[⟨1, .rider, 500, .inr⟩], by decide⟩
  entries := ⟨[⟨0, 1, 500, .inr, .credit, .completed, "refund", "", "", some "k"⟩], by decide⟩
  holds := ⟨[⟨⟨0, 1, false, 200, .inr, .held⟩, 7, 4, 200, 90, none⟩], by decide⟩
  debts := .empty

/-- A fare of 250 is paid while a recovery of 300 waits for the wallet. -/
def race : List (Move Bool Request) :=
  [.start true (.payTrip ⟨1, 3, true, false, false, 250, .inr, none⟩),
    .start false (.executeRecovery ⟨9, 7, 1, 300, .inr, false, 50⟩),
    .next true, .next false, .next true, .next false, .next true, .next true,
    .next false, .next false, .next false, .next false]

/-- The recovery has locked the hold that it forfeits, and commits. -/
def raceOver : List (Move Bool Request) := [.next false]

lemma sane_oneRider : Sane oneRider := by
  have hwallet : ∀ user w, oneRider.wallet? user = some w →
      user = 1 ∧ w = ⟨1, .rider, 500, .inr⟩ := by
    intro user w hw
    obtain ⟨hmem, hkey⟩ := Table.mem_of_get? hw
    obtain rfl : w = ⟨1, .rider, 500, .inr⟩ := List.mem_singleton.mp hmem
    exact ⟨(congrArg Prod.fst hkey).symm, rfl⟩
  refine ⟨⟨by decide, ?_, ?_, by decide, by decide⟩, ⟨fun request d hd => ?_, fun request _ => ?_⟩⟩
  · intro h hh
    obtain rfl := List.mem_singleton.mp hh
    exact ⟨rfl, fun _ => ⟨⟨1, .rider, 500, .inr⟩, by decide, rfl⟩⟩
  · intro user w hw
    obtain ⟨rfl, rfl⟩ := hwallet user w hw
    decide
  · cases hd
  · exact Table.sum_eq_zero fun e he => by
      obtain rfl := List.mem_singleton.mp he
      rfl

/-! ## Results -/

section Results

variable {τ : Type} [DecidableEq τ] {db : Db}

/-- In every interleaving what is held of a rider's rewards is in the rider's balance, which is
never below zero. -/
theorem held_rewards_are_covered (h : Sane db) (ms : List (Move τ Request)) {user : ℕ}
    {w : Wallet} (hw : (walletsAfter db ms).db.wallet? user = some w) :
    0 ≤ (walletsAfter db ms).db.heldMinor user w.currency ∧
      (walletsAfter db ms).db.heldMinor user w.currency ≤ w.balanceMinor := by
  have hsane := (sane_walletsAfter h ms).covered
  exact ⟨heldMinor_nonneg hsane _, hsane.covered user w hw⟩

/-- After the fare the reward is still covered. -/
theorem reward_covered_after_fare :
    0 ≤ (walletsAfter oneRider race).db.heldMinor 1 .inr ∧
      (walletsAfter oneRider race).db.heldMinor 1 .inr ≤ 250 :=
  held_rewards_are_covered sane_oneRider race (w := ⟨1, .rider, 250, .inr⟩) (by decide +kernel)

/-- Between two moments of any interleaving a balance moves by what the completed rows of the
ledger come to. -/
theorem balance_moves_with_the_ledger (h : Sane db) (ms ms' : List (Move τ Request)) (user : ℕ) :
    (walletsAfter db (ms ++ ms')).db.balanceMinor user - (walletsAfter db ms).db.balanceMinor user =
      (walletsAfter db (ms ++ ms')).db.bookedMinor user -
        (walletsAfter db ms).db.bookedMinor user :=
  (forward_walletsAfter h ms ms').books user

/-- The recovery takes what the fare has left, in two rows. -/
theorem recovery_moves_balance_with_ledger :
    (walletsAfter oneRider (race ++ raceOver)).db.balanceMinor 1 -
        (walletsAfter oneRider race).db.balanceMinor 1 =
      (walletsAfter oneRider (race ++ raceOver)).db.bookedMinor 1 -
        (walletsAfter oneRider race).db.bookedMinor 1 :=
  balance_moves_with_the_ledger sane_oneRider race raceOver 1

example : (walletsAfter oneRider (race ++ raceOver)).db.balanceMinor 1 = 0 ∧
    (walletsAfter oneRider (race ++ raceOver)).db.bookedMinor 1 = 0 := by decide +kernel

/-- Between two moments of any interleaving a row of the ledger stays as it is, but that a pending
one may be completed, and at every moment a key is on one row at most. -/
theorem ledger_rows_are_final (h : Sane db) (ms ms' : List (Move τ Request)) :
    (∀ id e, (walletsAfter db ms).db.entries.get? id = some e →
      ∃ status, (walletsAfter db (ms ++ ms')).db.entries.get? id = some { e with status } ∧
        (status = e.status ∨ e.status = .pending ∧ status = .completed)) ∧
      ∀ e ∈ (walletsAfter db ms).db.entries.rows, ∀ e' ∈ (walletsAfter db ms).db.entries.rows,
        ∀ key, e.idempotencyKey = some key → e'.idempotencyKey = some key → e = e' := by
  refine ⟨(forward_walletsAfter h ms ms').entries, fun e he e' he' key hkey hkey' => ?_⟩
  exact (sane_walletsAfter h ms).covered.keys.eq_of_key he he' hkey hkey'

/-- The row of the fare is there after the recovery. -/
theorem fare_row_is_final :
    (∀ id e, (walletsAfter oneRider race).db.entries.get? id = some e →
      ∃ status, (walletsAfter oneRider (race ++ raceOver)).db.entries.get? id =
          some { e with status } ∧
        (status = e.status ∨ e.status = .pending ∧ status = .completed)) ∧
      ∀ e ∈ (walletsAfter oneRider race).db.entries.rows,
        ∀ e' ∈ (walletsAfter oneRider race).db.entries.rows,
        ∀ key, e.idempotencyKey = some key → e'.idempotencyKey = some key → e = e' :=
  ledger_rows_are_final sane_oneRider race raceOver

/-- In every interleaving the rows of an executed recovery take what the held rewards and the
wallet gave, never more than was approved, and the rest is written off; a request that was not
executed has taken nothing. -/
theorem recoveries_take_what_was_approved (h : Sane db) (ms : List (Move τ Request))
    (request : ℕ) :
    (∀ d, (walletsAfter db ms).db.debts.get? request = some d →
      (walletsAfter db ms).db.takenMinor request = d.forfeitedMinor + d.recoveredMinor ∧
        (walletsAfter db ms).db.takenMinor request ≤ d.requestedMinor ∧
        d.uncollectedMinor = d.requestedMinor - (walletsAfter db ms).db.takenMinor request) ∧
      ((walletsAfter db ms).db.debts.get? request = none →
        (walletsAfter db ms).db.takenMinor request = 0) := by
  have hsane := (sane_walletsAfter h ms).recovered
  refine ⟨fun d hget => ?_, hsane.unexecuted request⟩
  obtain ⟨htaken, hasked, hforfeited, hrecovered, huncollected⟩ := hsane.executed request d hget
  exact ⟨htaken, by omega, by omega⟩

/-- The recovery of 300 takes what is left. -/
theorem recovery_takes_what_is_left :
    (∀ d, (walletsAfter oneRider (race ++ raceOver)).db.debts.get? 9 = some d →
      (walletsAfter oneRider (race ++ raceOver)).db.takenMinor 9 =
          d.forfeitedMinor + d.recoveredMinor ∧
        (walletsAfter oneRider (race ++ raceOver)).db.takenMinor 9 ≤ d.requestedMinor ∧
        d.uncollectedMinor =
          d.requestedMinor - (walletsAfter oneRider (race ++ raceOver)).db.takenMinor 9) ∧
      ((walletsAfter oneRider (race ++ raceOver)).db.debts.get? 9 = none →
        (walletsAfter oneRider (race ++ raceOver)).db.takenMinor 9 = 0) :=
  recoveries_take_what_was_approved sane_oneRider (race ++ raceOver) 9

example : (walletsAfter oneRider (race ++ raceOver)).db.takenMinor 9 = 250 := by decide +kernel

end Results

end SaaradhiGo.RiderWallet
