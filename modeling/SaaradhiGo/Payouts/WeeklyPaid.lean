/-
What a weekly payout takes and where it goes.

A payout takes the balance without the rewards under review from the wallet, all of it or nothing.
What it takes is the withdrawal and the deductions together, the ledger has a row for each, and
each debt is recovered by its own deduction (`PaidOut`).  Whatever the workers do, a week of a
country is paid out once (`runsDone_nodup`).
-/
import SaaradhiGo.Payouts.Weekly

namespace SaaradhiGo.WeeklyPayout

open SaaradhiGo.Money SaaradhiGo.Payouts

/-! ## The plan -/

section Plan

variable {debts : List Debt} {left : ℤ} {d : Debt × ℤ}

lemma mem_takeFrom (h : d ∈ takeFrom debts left) :
    d.1 ∈ debts ∧ 0 < d.2 ∧ d.2 ≤ d.1.remainingMinor := by
  induction debts generalizing left with
  | nil => cases h
  | cons debt debts ih =>
      rw [takeFrom] at h
      split at h
      · rename_i htake
        rcases List.mem_cons.mp h with rfl | hmem
        · exact ⟨List.mem_cons_self, htake, min_le_left _ _⟩
        · obtain ⟨hd, hpos, hle⟩ := ih hmem
          exact ⟨List.mem_cons_of_mem _ hd, hpos, hle⟩
      · obtain ⟨hd, hpos, hle⟩ := ih h
        exact ⟨List.mem_cons_of_mem _ hd, hpos, hle⟩

lemma map_takeFrom_sublist (debts : List Debt) (left : ℤ) :
    ((takeFrom debts left).map Prod.fst).Sublist debts := by
  induction debts generalizing left with
  | nil => exact List.Sublist.slnil
  | cons debt debts ih =>
      rw [takeFrom]
      split
      · exact (ih _).cons_cons _
      · exact (ih _).cons _

variable {gross floor : ℤ} {percent : ℕ}

lemma mem_planDeduction (h : d ∈ planDeduction debts gross floor percent) :
    d.1 ∈ debts ∧ 0 < d.2 ∧ d.2 ≤ d.1.remainingMinor := by
  rw [planDeduction] at h
  split at h
  · cases h
  · obtain ⟨hd, hpos, hle⟩ := mem_takeFrom h
    exact ⟨(List.mem_filter.mp hd).1, hpos, hle⟩

lemma map_planDeduction_sublist (debts : List Debt) (gross floor : ℤ) (percent : ℕ) :
    ((planDeduction debts gross floor percent).map Prod.fst).Sublist debts := by
  rw [planDeduction]
  split
  · exact List.nil_sublist _
  · exact (map_takeFrom_sublist _ _).trans List.filter_sublist

lemma planTotal_le (debts : List Debt) (percent : ℕ) (hfloor : 0 ≤ floor) (hgross : floor ≤ gross) :
    planTotal (planDeduction debts gross floor percent) * 100 ≤ gross * percent ∧
      planTotal (planDeduction debts gross floor percent) ≤ gross - floor := by
  have hshare : 0 ≤ gross * percent := mul_nonneg (hfloor.trans hgross) (Int.natCast_nonneg _)
  rw [planDeduction]
  split
  · rw [show planTotal [] = 0 from rfl]
    constructor <;> omega
  · have hquotient := Int.ediv_mul_le (gross * percent) (show (100 : ℤ) ≠ 0 by decide)
    have hnonneg : 0 ≤ gross * percent / 100 := Int.ediv_nonneg hshare (by decide)
    have hcap : 0 ≤ min (gross * percent / 100) (max 0 (gross - max 0 floor)) := by omega
    have htotal := planTotal_takeFrom_le (debts.filter fun d => 0 < d.remainingMinor) hcap
    constructor <;> omega

end Plan

/-! ## Deductions -/

def takenFrom (ds : List RecoveryDeduction) (id : ℕ) : ℤ :=
  ((ds.filter fun d => d.debt = id).map RecoveryDeduction.amountMinor).sum

lemma takenFrom_cons (d : RecoveryDeduction) (ds : List RecoveryDeduction) (id : ℕ) :
    takenFrom (d :: ds) id = (if d.debt = id then d.amountMinor else 0) + takenFrom ds id := by
  rw [takenFrom, List.filter_cons]
  by_cases h : d.debt = id
  · simp [h, takenFrom]
  · simp [h, takenFrom]

/-- The debt with more of it recovered. -/
structure Recovered (debt debt' : RecoveryDebt) (amount : ℤ) : Prop where
  id : debt'.id = debt.id
  user : debt'.user = debt.user
  amountMinor : debt'.amountMinor = debt.amountMinor
  uncollectedMinor : debt'.uncollectedMinor = debt.uncollectedMinor
  recoveredMinor : debt'.recoveredMinor = debt.recoveredMinor + amount

lemma recovered_recover (debt : RecoveryDebt) (clock : ℕ) (amount : ℤ) :
    Recovered debt (debt.recover clock amount) amount := by
  rw [RecoveryDebt.recover]
  dsimp only
  split <;> exact ⟨rfl, rfl, rfl, rfl, rfl⟩

/-- What the deductions of a plan leave. -/
structure Deducted (o o' : Office) (plan : List (Debt × ℤ)) (ds : List RecoveryDeduction) :
    Prop where
  payouts : o'.payouts = o.payouts
  holds : o'.holds = o.holds
  runs : o'.runs = o.runs
  deductions : o'.deductions = o.deductions ++ ds
  rows : ds.map (fun d => (d.debt, d.amountMinor)) = plan.map fun d => (d.1.id, d.2)
  debts : ∀ id, (o.debts.get? id = none ∧ o'.debts.get? id = none) ∨
    ∃ debt debt', o.debts.get? id = some debt ∧ o'.debts.get? id = some debt' ∧
      Recovered debt debt' (takenFrom ds id)

section Deduct

variable {clock : ℕ} {w : Withdrawal} {gross : ℤ} {percent : ℕ} {o o' : Office}

lemma applyOne_spec {d : Debt × ℤ} (h : applyOne clock w gross percent o d = .ok o') :
    ∃ debt, o.debts.get? d.1.id = some debt ∧
      o' = { o with
        debts := o.debts.put (debt.recover clock d.2)
        deductions := o.deductions ++ [⟨debt.id, w.id, d.2, debt.currency, gross, percent⟩] } := by
  rw [applyOne] at h
  split at h
  · cases h
  · rename_i debt hget
    split at h
    · cases h
      exact ⟨debt, hget, rfl⟩
    · cases h

theorem deducted_of_apply {plan : List (Debt × ℤ)}
    (h : plan.foldlM (applyOne clock w gross percent) o = .ok o') : ∃ ds, Deducted o o' plan ds := by
  induction plan generalizing o with
  | nil =>
      cases h
      refine ⟨[], rfl, rfl, rfl, (List.append_nil _).symm, rfl, fun id => ?_⟩
      cases hget : o'.debts.get? id with
      | none => exact .inl ⟨rfl, rfl⟩
      | some debt => exact .inr ⟨debt, debt, rfl, rfl, rfl, rfl, rfl, rfl, (add_zero _).symm⟩
  | cons d plan ih =>
      rw [List.foldlM_cons] at h
      obtain ⟨o₁, hone, hrest⟩ := Fallible.bind_eq_ok.mp h
      obtain ⟨debt, hget, rfl⟩ := applyOne_spec hone
      obtain ⟨ds, hds⟩ := ih hrest
      have hid : debt.id = d.1.id := Table.pk_of_get? hget
      refine ⟨⟨debt.id, w.id, d.2, debt.currency, gross, percent⟩ :: ds, hds.payouts, hds.holds,
        hds.runs, ?_, ?_, fun id => ?_⟩
      · rw [hds.deductions, List.append_assoc, List.singleton_append]
      · rw [List.map_cons, List.map_cons, hds.rows, hid]
      · have hrecovered := recovered_recover debt clock d.2
        have hput : (o.debts.put (debt.recover clock d.2)).get? id =
            if id = debt.id then some (debt.recover clock d.2) else o.debts.get? id := by
          rw [Table.get?_put, hrecovered.id]
        rcases hds.debts id with ⟨hnone, hnone'⟩ | ⟨before, after, hbefore, hafter, hmore⟩
        · change (o.debts.put (debt.recover clock d.2)).get? id = none at hnone
          rw [hput] at hnone
          split at hnone
          · cases hnone
          · exact .inl ⟨hnone, hnone'⟩
        · change (o.debts.put (debt.recover clock d.2)).get? id = some before at hbefore
          rw [hput] at hbefore
          rw [takenFrom_cons]
          split at hbefore
          · rename_i heq
            cases hbefore
            refine .inr ⟨debt, after, ?_, hafter, hmore.id.trans hrecovered.id,
              hmore.user.trans hrecovered.user, hmore.amountMinor.trans hrecovered.amountMinor,
              hmore.uncollectedMinor.trans hrecovered.uncollectedMinor, ?_⟩
            · rw [heq, hid, hget]
            · rw [hmore.recoveredMinor, hrecovered.recoveredMinor, if_pos heq.symm, add_assoc]
          · rename_i hne
            refine .inr ⟨before, after, hbefore, hafter, ?_⟩
            rw [if_neg (fun heq => hne heq.symm), zero_add]
            exact hmore

end Deduct

lemma takenFrom_of_notMem {ds : List RecoveryDeduction} {id : ℕ}
    (h : id ∉ ds.map RecoveryDeduction.debt) : takenFrom ds id = 0 := by
  have hnone : (ds.filter fun d => d.debt = id) = [] :=
    List.filter_eq_nil_iff.mpr fun d hd heq =>
      h (List.mem_map.mpr ⟨d, hd, of_decide_eq_true heq⟩)
  rw [takenFrom, hnone]
  rfl

/-- A debt that gives once gives what its row says. -/
lemma takenFrom_of_mem {ds : List RecoveryDeduction} (hnodup : (ds.map RecoveryDeduction.debt).Nodup)
    {d : RecoveryDeduction} (hd : d ∈ ds) : takenFrom ds d.debt = d.amountMinor := by
  induction ds with
  | nil => cases hd
  | cons e ds ih =>
      rw [List.map_cons, List.nodup_cons] at hnodup
      rw [takenFrom_cons]
      rcases List.mem_cons.mp hd with rfl | hmem
      · rw [if_pos rfl, takenFrom_of_notMem hnodup.1, add_zero]
      · have hne : e.debt ≠ d.debt := fun heq =>
          hnodup.1 (heq ▸ List.mem_map_of_mem hmem)
        rw [if_neg hne, zero_add, ih hnodup.2 hmem]

/-! ## One driver -/

/-- What the weekly payout of a driver does when it pays: `taken` leaves the wallet, in the
withdrawal `w` and the deductions `ds`. -/
structure PaidOut (config : CountryConfig) (driver : ℕ) (o o' : Office) (taken : ℤ)
    (w : Withdrawal) (ds : List RecoveryDeduction) : Prop where
  wallet : ∃ wallet, o.payouts.wallets.get? ((o.payouts.drivers driver).userId, .driver) =
      some wallet ∧ wallet.currency = config.currency ∧
    taken = wallet.balanceMinor - o.heldMinor (o.payouts.drivers driver).userId config.currency ∧
    o'.payouts.wallets = o.payouts.wallets.addMinor wallet (-taken)
  withdrawal : o'.payouts.withdrawals = o.payouts.withdrawals.put w ∧ w.driver = driver ∧
    w.status = .pending
  deductions : o'.deductions = o.deductions ++ ds
  split : w.amountMinor + (ds.map RecoveryDeduction.amountMinor).sum = taken
  minimum : config.minimumWithdrawalMinor ≤ w.amountMinor ∧ 0 < w.amountMinor
  percent : (ds.map RecoveryDeduction.amountMinor).sum * 100 ≤ taken * config.recoveryMaxPercent
  ledger : ∃ rows, o'.payouts.ledger.rows = o.payouts.ledger.rows ++ rows ∧
    (∀ t ∈ rows, t.txnType = .debit ∧ t.userId = (o.payouts.drivers driver).userId) ∧
    (rows.map WalletTransaction.amountMinor).sum = taken
  debts : ∀ id, (o.debts.get? id = none ∧ o'.debts.get? id = none) ∨
    ∃ debt debt', o.debts.get? id = some debt ∧ o'.debts.get? id = some debt' ∧
      Recovered debt debt' (takenFrom ds id) ∧
      0 ≤ takenFrom ds id ∧ takenFrom ds id ≤ debt.remainingMinor
  once : (ds.map RecoveryDeduction.debt).Nodup
  holds : o'.holds = o.holds
  runs : o'.runs = o.runs

section One

variable {config : CountryConfig} {clock driver : ℕ} {nonce : String} {o o' : Office}
  {out : Option Withdrawal}

lemma planned_open (o : Office) (user : ℕ) (gross floor : ℤ) (percent : ℕ) :
    (((planDeduction ((o.openDebts user).map RecoveryDebt.planned) gross floor percent).map
        fun d => d.1.id).Nodup) ∧
      ∀ d ∈ planDeduction ((o.openDebts user).map RecoveryDebt.planned) gross floor percent,
        0 < d.2 ∧ ∃ debt, o.debts.get? d.1.id = some debt ∧ d.2 ≤ debt.remainingMinor := by
  constructor
  · have hsub := (map_planDeduction_sublist ((o.openDebts user).map RecoveryDebt.planned) gross
      floor percent).map Debt.id
    rw [List.map_map, List.map_map] at hsub
    refine List.Nodup.sublist hsub (List.Nodup.sublist ?_ o.debts.nodup)
    exact (List.filter_sublist (l := o.debts.rows)).map RecoveryDebt.id
  · intro d hd
    obtain ⟨hmem, hpos, hle⟩ := mem_planDeduction hd
    obtain ⟨debt, hdebt, hplanned⟩ := List.mem_map.mp hmem
    have hget := Table.mem_iff_get?.mp (List.mem_filter.mp hdebt).1
    rw [← hplanned] at hle ⊢
    exact ⟨hpos, debt, hget, hle⟩

lemma paidOut_of_open {wallet : Wallet} {w : Withdrawal} {stamp : Currency} {gross : ℤ}
    {plan : List (Debt × ℤ)} {payouts : Payouts.Db} {percent : ℕ}
    (hwallet : o.payouts.wallets.get? ((o.payouts.drivers driver).userId, .driver) = some wallet)
    (hcurrency : wallet.currency = config.currency)
    (hgross : gross =
      wallet.balanceMinor - o.heldMinor (o.payouts.drivers driver).userId config.currency)
    (hplan : plan = planDeduction ((o.openDebts (o.payouts.drivers driver).userId).map
      RecoveryDebt.planned) gross (max 1 config.minimumWithdrawalMinor) config.recoveryMaxPercent)
    (hfloor : max 1 config.minimumWithdrawalMinor ≤ gross) (hdriver : w.driver = driver)
    (hstatus : w.status = .pending) (hamount : w.amountMinor = gross - planTotal plan)
    (hopen : openWithdrawal o.payouts wallet w stamp gross plan nonce = some payouts)
    (happly : plan.foldlM (applyOne clock w gross percent) { o with payouts } = .ok o') :
    ∃ ds, PaidOut config driver o o' gross w ds := by
  obtain ⟨ds, hds⟩ := deducted_of_apply happly
  have hfloor' : 0 ≤ max 1 config.minimumWithdrawalMinor := by omega
  obtain ⟨hcap, hleft⟩ := planTotal_le
    ((o.openDebts (o.payouts.drivers driver).userId).map RecoveryDebt.planned)
    config.recoveryMaxPercent hfloor' hfloor
  rw [← hplan] at hcap hleft
  -- the rows of the deductions are the plan
  have hsum : (ds.map RecoveryDeduction.amountMinor).sum = planTotal plan := by
    have hrows := congrArg (List.map Prod.snd) hds.rows
    rw [List.map_map, List.map_map] at hrows
    exact congrArg List.sum hrows
  have hids : ds.map RecoveryDeduction.debt = plan.map fun d => d.1.id := by
    have hrows := congrArg (List.map Prod.fst) hds.rows
    rw [List.map_map, List.map_map] at hrows
    exact hrows
  obtain ⟨hnodup, hopenDebts⟩ := planned_open o (o.payouts.drivers driver).userId gross
    (max 1 config.minimumWithdrawalMinor) config.recoveryMaxPercent
  rw [← hplan] at hnodup hopenDebts
  have honce : (ds.map RecoveryDeduction.debt).Nodup := hids ▸ hnodup
  rw [openWithdrawal, Option.map_eq_some_iff] at hopen
  obtain ⟨ledger, hinsert, rfl⟩ := hopen
  have hledger := Ledger.rows_of_insertAll hinsert
  have huser : o.payouts.userOf w = (o.payouts.drivers driver).userId := by
    rw [Db.userOf, hdriver]
  refine ⟨ds, ⟨wallet, hwallet, hcurrency, hgross, ?_⟩, ⟨?_, hdriver, hstatus⟩, hds.deductions, ?_,
    ?_, ?_, ⟨_, (congrArg (fun db => db.ledger.rows) hds.payouts).trans hledger, ?_, ?_⟩, ?_, honce, hds.holds, hds.runs⟩
  · rw [hds.payouts]
  · rw [hds.payouts]
  · omega
  · omega
  · omega
  · rw [huser]
    intro t ht
    rcases List.mem_cons.mp ht with rfl | hded
    · exact ⟨rfl, rfl⟩
    · obtain ⟨d, -, rfl⟩ := List.mem_map.mp hded
      exact ⟨rfl, rfl⟩
  · have hplanSum : ((plan.map fun d => deductionRow w (o.payouts.userOf w)
        (o.payouts.wallets.derivedCurrency (o.payouts.userOf w)) d.1 d.2).map
        WalletTransaction.amountMinor).sum = planTotal plan := by
      rw [List.map_map]
      rfl
    rw [List.map_cons, List.sum_cons, hplanSum,
      show (debitRow w (o.payouts.userOf w) stamp (.withdrawalDebit w.id nonce)).amountMinor =
        w.amountMinor from rfl]
    omega
  · intro id
    rcases hds.debts id with hnone | ⟨debt, debt', hdebt, hdebt', hmore⟩
    · exact .inl hnone
    · refine .inr ⟨debt, debt', hdebt, hdebt', hmore, ?_⟩
      by_cases hid : id ∈ ds.map RecoveryDeduction.debt
      · obtain ⟨d, hd, rfl⟩ := List.mem_map.mp hid
        rw [takenFrom_of_mem honce hd]
        -- the row stands for an entry of the plan, and that for an open debt
        have hentry : (d.debt, d.amountMinor) ∈ plan.map fun d => (d.1.id, d.2) :=
          hds.rows ▸ List.mem_map_of_mem hd
        obtain ⟨e, he, heq⟩ := List.mem_map.mp hentry
        obtain ⟨hpos, found, hfound, hle⟩ := hopenDebts e he
        obtain ⟨heid, heamount⟩ := Prod.mk.inj heq
        rw [heid] at hfound
        have hsame : found = debt := Option.some.inj (hfound.symm.trans hdebt)
        rw [← heamount, ← hsame]
        exact ⟨hpos.le, hle⟩
      · rw [takenFrom_of_notMem hid]
        refine ⟨le_rfl, ?_⟩
        rw [RecoveryDebt.remainingMinor]
        split
        · exact le_rfl
        · exact le_max_left _ _

/-- The payout of a driver changes nothing, or pays. -/
theorem createOne_cases (h : createOne config clock driver nonce o = .ok (o', out)) :
    (out = none ∧ o' = o) ∨ ∃ taken w ds, out = some w ∧ PaidOut config driver o o' taken w ds := by
  have hsame : ∀ {p : Office × Option Withdrawal}, Except.ok (ε := Raised) (o, none) = .ok p →
      p.2 = none ∧ p.1 = o := by
    rintro p hp
    cases hp
    exact ⟨rfl, rfl⟩
  rw [createOne] at h
  dsimp only at h
  split at h
  · exact .inl (hsame h)
  rename_i wallet hwallet
  split at h
  · exact .inl (hsame h)
  rename_i hcurrency
  split at h
  · exact .inl (hsame h)
  split at h
  · exact .inl (hsame h)
  split at h
  · exact .inl (hsame h)
  split at h
  · exact .inl (hsame h)
  rename_i hfloor
  split at h
  · exact .inl (hsame h)
  split at h
  · cases h
  rename_i payouts hopen
  obtain ⟨o₁, happly, heq⟩ := Fallible.map_eq_ok.mp h
  cases heq
  obtain ⟨ds, hds⟩ := paidOut_of_open hwallet (not_not.mp fun hne => hcurrency (.inl hne)) rfl rfl
    (not_lt.mp hfloor) rfl rfl rfl hopen happly
  exact .inr ⟨_, _, ds, rfl, hds⟩

end One

/-! ## One run a week -/

section Runs

variable {cal : Calendar}

lemma runs_payEach {config : CountryConfig} {clock : ℕ} {nonces : ℕ → String} {drivers : List ℕ}
    {o : Office} {p : Office × List Withdrawal}
    (h : payEach config clock nonces drivers o = .ok p) : p.1.runs = o.runs := by
  induction drivers generalizing o p with
  | nil =>
      cases h
      rfl
  | cons driver drivers ih =>
      obtain ⟨one, hone, hrest⟩ := Fallible.bind_eq_ok.mp h
      obtain ⟨rest, hpay, heq⟩ := Fallible.bind_eq_ok.mp hrest
      cases heq
      have hsame : one.1.runs = o.runs := by
        rcases createOne_cases hone with ⟨-, heq⟩ | ⟨_, _, _, -, hpaid⟩
        · rw [heq]
        · exact hpaid.runs
      exact (ih hpay).trans hsame

/-- A transaction that goes through writes the one run of its country and week. -/
lemma runs_transact {st : Started} {clock : ℕ} {nonces : ℕ → String} {approval : Approval}
    {o o' : Office} (h : transact st clock nonces approval o = .ok o') :
    o.runs.get? (newRun st).key = none ∧ ∃ run, o'.runs = (o.runs.put (newRun st)).put run ∧
      run.key = (newRun st).key := by
  rw [transact] at h
  split at h
  · cases h
  · rename_i runs hinsert
    obtain ⟨hfree, rfl⟩ := Table.insert?_eq_some.mp hinsert
    obtain ⟨paid, hpaid, hrest⟩ := Fallible.bind_eq_ok.mp h
    obtain ⟨answer, -, heq⟩ := Fallible.bind_eq_ok.mp hrest
    cases heq
    exact ⟨hfree, _, congrArg (fun t => Table.put t _) (runs_payEach hpaid), rfl⟩

/-- An action leaves the runs as they are, or adds the one that it does. -/
lemma runs_step (cal : Calendar) (f : Floor) (a : Act) :
    (f.ran a = none ∧ (step cal f a).office.runs = f.office.runs) ∨
      ∃ key, f.ran a = some key ∧ f.office.runs.get? key = none ∧
        ∀ k, ((step cal f a).office.runs.get? k).isSome ↔
          k = key ∨ (f.office.runs.get? k).isSome := by
  cases a with
  | start worker config now candidates => exact .inl ⟨rfl, rfl⟩
  | die worker => exact .inl ⟨rfl, rfl⟩
  | other change => exact .inl ⟨rfl, rfl⟩
  | transact worker clock nonces approval =>
      rw [Floor.ran, step]
      cases hworker : f.workers worker with
      | none => exact .inl ⟨rfl, rfl⟩
      | some st =>
          dsimp only [Option.bind_some]
          cases hdone : WeeklyPayout.transact st clock nonces approval f.office with
          | error e => exact .inl ⟨rfl, rfl⟩
          | ok o =>
              obtain ⟨hfree, run, hruns, hkey⟩ := runs_transact hdone
              refine .inr ⟨_, rfl, hfree, fun k => ?_⟩
              dsimp only
              rw [hruns, Table.get?_put, Table.get?_put, hkey]
              by_cases hk : k = (newRun st).key
              · simp [hk]
              · simp [hk]

lemma notMem_runsDone {f : Floor} {acts : List Act} {key : String × ℤ}
    (h : (f.office.runs.get? key).isSome) : key ∉ runsDone cal f acts := by
  induction acts generalizing f with
  | nil => exact List.not_mem_nil
  | cons a acts ih =>
      rw [runsDone, List.mem_append, not_or]
      rcases runs_step cal f a with ⟨hnone, hruns⟩ | ⟨k, hran, hfree, hstep⟩
      · rw [hnone]
        exact ⟨List.not_mem_nil, ih (hruns ▸ h)⟩
      · refine ⟨fun hmem => ?_, ih ((hstep key).mpr (.inr h))⟩
        rw [hran] at hmem
        rw [List.mem_singleton.mp hmem, hfree] at h
        exact absurd h (by decide)

lemma runsDone_nodup (f : Floor) (acts : List Act) : (runsDone cal f acts).Nodup := by
  induction acts generalizing f with
  | nil => exact List.nodup_nil
  | cons a acts ih =>
      rw [runsDone]
      rcases runs_step cal f a with ⟨hnone, -⟩ | ⟨k, hran, -, hstep⟩
      · rw [hnone]
        exact ih _
      · rw [hran]
        exact List.nodup_cons.mpr ⟨notMem_runsDone ((hstep k).mpr (.inl rfl)), ih _⟩

end Runs

/-- The weekly payout of a driver changes nothing or pays what `PaidOut` says, and whatever the
workers do, each week of a country is done once. -/
theorem weekly_payout_conserves :
    (∀ (config : CountryConfig) (clock driver : ℕ) (nonce : String) (o o' : Office)
        (out : Option Withdrawal), createOne config clock driver nonce o = .ok (o', out) →
      (out = none ∧ o' = o) ∨
        ∃ taken w ds, out = some w ∧ PaidOut config driver o o' taken w ds) ∧
    ∀ (cal : Calendar) (f : Floor) (acts : List Act), (runsDone cal f acts).Nodup :=
  ⟨fun _ _ _ _ _ _ _ => createOne_cases, fun _ => runsDone_nodup⟩

/-- The driver of `oneDriver` with a hundred of the five hundred rupees under review, and two
debts. -/
def payday : Office where
  payouts := oneDriver
  debts := (Table.empty.put ⟨1, 7, true, 31, 15000, 5000, 0, .inr, none⟩).put
    ⟨2, 7, true, 32, 30000, 0, 0, .inr, none⟩
  holds := Table.empty.put ⟨1, 7, true, 10000, .inr, .held⟩
  deductions := []
  payoutHolds := []
  runs := .empty
  payoutCountry := fun _ => some "IN"
  hasPayoutHandle := fun _ => true
  isDriver := fun _ => true

/-- Rupees, at least a hundred of them, and half of a payout for the debts. -/
def weeklyInr : CountryConfig where
  currency := .inr
  minimumWithdrawalMinor := 10000
  feePercent := 2
  recoveryMaxPercent := 50
  country := "IN"
  payoutWeekday := some 0

/-- The four hundred rupees that are free are paid, half of them to the debts: the first is paid
off and the second has a hundred rupees recovered. -/
theorem weekly_payout_conserves_payday : ∃ o' w ds,
    PaidOut weeklyInr 3 payday o' 40000 w ds ∧ w.amountMinor = 20000 ∧
      ds.map RecoveryDeduction.amountMinor = [10000, 10000] := by
  obtain ⟨⟨o', out⟩, hcreate, hout⟩ := Fallible.exists_of_any
    (e := createOne weeklyInr 1000 3 "n1" payday)
    (f := fun p => decide (p.2.map Withdrawal.amountMinor = some 20000 ∧
      p.1.deductions.map RecoveryDeduction.amountMinor = [10000, 10000])) (by decide +kernel)
  obtain ⟨hamount, hamounts⟩ := of_decide_eq_true hout
  rcases weekly_payout_conserves.1 _ _ _ _ _ _ _ hcreate with
    ⟨rfl, -⟩ | ⟨taken, w, ds, rfl, hpaid⟩
  · cases hamount
  · have hw : w.amountMinor = 20000 := Option.some.inj hamount
    have hds : ds.map RecoveryDeduction.amountMinor = [10000, 10000] :=
      (congrArg (List.map RecoveryDeduction.amountMinor) hpaid.deductions).symm.trans hamounts
    have htaken : taken = 40000 := by
      rw [← hpaid.split, hw, hds]
      rfl
    exact ⟨o', w, ds, htaken ▸ hpaid, hw, hds⟩

end SaaradhiGo.WeeklyPayout
