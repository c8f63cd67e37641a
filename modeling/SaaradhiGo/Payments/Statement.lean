/-
The statement of a driver's settlement balance.

A statement of a range of time has an opening balance, the movements of the range and a closing
balance, all sums over the rows of the ledger that count.  Its lines stand in the order of the rows
with the balance that has run up to each; they are read a page at a time.  However time is cut into
ranges and the lines into pages, the lines are the same and the balance runs through them.
-/
import SaaradhiGo.Lib.Running
import SaaradhiGo.Money.Wallet

namespace SaaradhiGo.DriverLedger

open SaaradhiGo.Money

/-! ## Rows -/

def driverLedgerPurposes : List String :=
  ["trip_earnings", "trip_commission", "withdrawal", "refund_failed_withdrawal",
    "refund_rejected_withdrawal", "refund_reversed_withdrawal", "adjustment",
    "platform_funded_trip_end", "promo_discount_platform_funded", "incentive_reward",
    "referral_reward", "reward_recovery", "tax_collected", "regulatory_fee_collected",
    "fare_collected_by_platform", "trip_refund_reversal"]

def entryKinds : List (String × String) :=
  [("adjustment", "adjustment"),
    ("trip_earnings", "settlement"),
    ("trip_commission", "settlement"),
    ("platform_funded_trip_end", "platform_funded_trip_end"),
    ("promo_discount_platform_funded", "promo_discount_platform_funded"),
    ("incentive_reward", "incentive_reward"),
    ("referral_reward", "referral_reward"),
    ("reward_recovery", "reward_recovery"),
    ("tax_collected", "tax_collected"),
    ("regulatory_fee_collected", "regulatory_fee_collected"),
    ("fare_collected_by_platform", "fare_collected_by_platform"),
    ("trip_refund_reversal", "trip_refund_reversal"),
    ("withdrawal", "withdrawal_requested"),
    ("refund_rejected_withdrawal", "withdrawal_rejected"),
    ("refund_failed_withdrawal", "withdrawal_returned"),
    ("refund_reversed_withdrawal", "withdrawal_reversed")]

/-- A row of the ledger. -/
structure WalletTransaction where
  id : ℕ
  user : ℕ
  amountMinor : ℤ
  currency : Currency
  txnType : TxnType
  status : TxnStatus
  purpose : String
  referenceId : String
  createdAt : ℤ
deriving DecidableEq

abbrev Ledger : Type := Table WalletTransaction.id

/-- `SIGNED`. -/
def signedMinor (e : WalletTransaction) : ℤ :=
  match e.txnType with
  | .credit => e.amountMinor
  | .debit => -e.amountMinor

def counted (e : WalletTransaction) : Bool :=
  e.status = .completed || (e.purpose = "withdrawal" && e.status = .pending)

/-- `order_by('created_at', 'id')`. -/
def Before (e e' : WalletTransaction) : Prop :=
  e.createdAt < e'.createdAt ∨ (e.createdAt = e'.createdAt ∧ e.id ≤ e'.id)

instance : DecidableRel Before := fun e e' =>
  inferInstanceAs (Decidable (e.createdAt < e'.createdAt ∨
    (e.createdAt = e'.createdAt ∧ e.id ≤ e'.id)))

instance : Std.Total Before where
  total e e' := by
    rw [Before, Before]
    omega

instance : IsTrans WalletTransaction Before where
  trans a b c hab hbc := by
    rw [Before] at *
    omega

def driverRows (ledger : Ledger) (user : ℕ) (currency : Currency) : List WalletTransaction :=
  ledger.rows.filter fun e => e.user = user && e.purpose ∈ driverLedgerPurposes &&
    e.currency = currency && counted e

def signedTotal (l : List WalletTransaction) : ℤ := (l.map signedMinor).sum

/-! ## The statement -/

/-- What a statement says. -/
structure Statement where
  currency : Currency
  openingMinor : ℤ
  creditsMinor : ℤ
  debitsMinor : ℤ
  closingMinor : ℤ
  balanceMinor : ℤ
  unexplainedMinor : ℤ
  otherCurrencyRows : ℕ
  rows : List WalletTransaction
deriving DecidableEq

def inRange (rows : List WalletTransaction) (start stop : ℤ) : List WalletTransaction :=
  rows.filter fun e => start ≤ e.createdAt && e.createdAt < stop

/-- The statement of a wallet for the range from `start` up to `stop`. -/
def statement (wallet : Wallet) (ledger : Ledger) (start stop : ℤ) : Statement :=
  let rows := driverRows ledger wallet.userId wallet.currency
  let openingMinor := signedTotal (rows.filter fun e => e.createdAt < start)
  let ranged := inRange rows start stop
  let creditsMinor := ((ranged.filter (·.txnType = .credit)).map (·.amountMinor)).sum
  let debitsMinor := ((ranged.filter (·.txnType = .debit)).map (·.amountMinor)).sum
  { currency := wallet.currency
    openingMinor, creditsMinor, debitsMinor
    closingMinor := openingMinor + creditsMinor - debitsMinor
    balanceMinor := wallet.balanceMinor
    unexplainedMinor := wallet.balanceMinor - signedTotal rows
    otherCurrencyRows := (ledger.rows.filter fun e => e.user = wallet.userId &&
      e.purpose ∈ driverLedgerPurposes && !decide (e.currency = wallet.currency)).length
    rows := ranged }

/-- `build_statement`: none for a driver without a wallet. -/
def buildStatement (wallets : Wallets) (user : ℕ) (ledger : Ledger) (start stop : ℤ) :
    Option Statement :=
  (wallets.get? (user, .driver)).map fun wallet => statement wallet ledger start stop

/-! ## Lines -/

structure Line where
  id : ℕ
  createdAt : ℤ
  kind : String
  purpose : String
  direction : TxnType
  amountMinor : ℤ
  currency : Currency
  runningBalanceMinor : ℤ
  status : TxnStatus
  reference : String
deriving DecidableEq

/-- The line of a row. -/
def line (e : WalletTransaction) (running : ℤ) : Line where
  id := e.id
  createdAt := e.createdAt
  kind := (entryKinds.lookup e.purpose).getD e.purpose
  purpose := e.purpose
  direction := e.txnType
  amountMinor := signedMinor e
  currency := e.currency
  runningBalanceMinor := running
  status := e.status
  reference := e.referenceId

/-- The loop over a page. -/
def pageLines (running : ℤ) : List WalletTransaction → List Line
  | [] => []
  | e :: es => line e (running + signedMinor e) :: pageLines (running + signedMinor e) es

/-- `entry_dicts`: one page of lines. -/
def entryDicts (rows : List WalletTransaction) (openingMinor : ℤ) (offset limit : ℕ) :
    List Line :=
  let ordered := rows.insertionSort Before
  let beforePage := if offset = 0 then 0 else signedTotal (ordered.take offset)
  pageLines (openingMinor + beforePage) ((ordered.drop offset).take limit)

namespace Statement

/-- A page as it is asked for, the first one being 0. -/
def page (st : Statement) (page size : ℕ) : List Line :=
  entryDicts st.rows st.openingMinor (page * size) size

def listing (st : Statement) : List Line := entryDicts st.rows st.openingMinor 0 st.rows.length

end Statement

/-! ## Sums -/

section Sums

variable {l l' : List WalletTransaction} {ledger : Ledger} {wallet : Wallet}
  {start mid stop running : ℤ}

@[simp] lemma signedTotal_append : signedTotal (l ++ l') = signedTotal l + signedTotal l' := by
  simp [signedTotal]

lemma signedTotal_perm (h : l.Perm l') : signedTotal l = signedTotal l' :=
  (h.map signedMinor).sum_eq

lemma credits_sub_debits (l : List WalletTransaction) :
    ((l.filter (·.txnType = .credit)).map (·.amountMinor)).sum -
      ((l.filter (·.txnType = .debit)).map (·.amountMinor)).sum = signedTotal l := by
  induction l with
  | nil => rfl
  | cons e l ih =>
      have hcons : signedTotal (e :: l) = signedMinor e + signedTotal l := by simp [signedTotal]
      rcases htype : e.txnType with _ | _
      · have hsigned : signedMinor e = e.amountMinor := by simp [signedMinor, htype]
        rw [List.filter_cons_of_pos (by simp [htype]), List.filter_cons_of_neg (by simp [htype]),
          List.map_cons, List.sum_cons, hcons, hsigned]
        omega
      · have hsigned : signedMinor e = -e.amountMinor := by simp [signedMinor, htype]
        rw [List.filter_cons_of_neg (by simp [htype]), List.filter_cons_of_pos (by simp [htype]),
          List.map_cons, List.sum_cons, hcons, hsigned]
        omega

/-- A split of rows at a moment. -/
lemma filter_append_perm (p q : WalletTransaction → Bool) (l : List WalletTransaction)
    (hq : ∀ e, q e = true → p e = true) :
    (l.filter p).Perm (l.filter q ++ l.filter fun e => p e && !q e) := by
  have hfirst : (l.filter p).filter q = l.filter q := by
    rw [List.filter_filter]
    refine List.filter_congr fun e _ => ?_
    rcases hqe : q e with _ | _
    · simp
    · simp [hq e hqe]
  have hsecond : ((l.filter p).filter fun e => !q e) = l.filter fun e => p e && !q e := by
    rw [List.filter_filter]
    exact List.filter_congr fun e _ => Bool.and_comm _ _
  rw [← hfirst, ← hsecond]
  exact (List.filter_append_perm q (l.filter p)).symm

lemma signedTotal_before (h : start ≤ stop) (rows : List WalletTransaction) :
    signedTotal (rows.filter fun e => e.createdAt < stop) =
      signedTotal (rows.filter fun e => e.createdAt < start) +
        signedTotal (inRange rows start stop) := by
  rw [← signedTotal_append]
  refine signedTotal_perm ?_
  have hsplit := filter_append_perm (fun e => e.createdAt < stop) (fun e => e.createdAt < start)
    rows fun e he => by
      simp only [decide_eq_true_eq] at he ⊢
      omega
  refine hsplit.trans (List.Perm.append_left _ (List.Perm.of_eq ?_))
  refine List.filter_congr fun e _ => ?_
  rw [Bool.eq_iff_iff]
  simp only [Bool.and_eq_true, Bool.not_eq_true', decide_eq_true_eq, decide_eq_false_iff_not]
  omega

lemma closing_eq (h : start ≤ stop) : (statement wallet ledger start stop).closingMinor =
    signedTotal ((driverRows ledger wallet.userId wallet.currency).filter
      fun e => e.createdAt < stop) := by
  rw [signedTotal_before h, ← credits_sub_debits (inRange _ start stop)]
  simp only [statement]
  omega

end Sums

/-! ## Lines that run through -/

section Lines

variable {rows : List WalletTransaction} {st : Statement} {openingMinor : ℤ}

lemma pageLines_eq (running : ℤ) (l : List WalletTransaction) :
    pageLines running l = (Running.runs signedMinor running l).map fun p => line p.1 p.2 := by
  induction l generalizing running with
  | nil => rfl
  | cons e l ih => rw [pageLines, ih, Running.runs_cons, List.map_cons]

lemma entryDicts_eq (offset limit : ℕ) : entryDicts rows openingMinor offset limit =
    ((pageLines openingMinor (rows.insertionSort Before)).drop offset).take limit := by
  have hbefore : (if offset = 0 then 0 else
      signedTotal ((rows.insertionSort Before).take offset)) =
      (((rows.insertionSort Before).take offset).map signedMinor).sum := by
    split
    · next h => rw [h]; rfl
    · rfl
  rw [entryDicts, hbefore, pageLines_eq, Running.runs_page, pageLines_eq, List.map_take,
    List.map_drop]

lemma listing_eq : st.listing = pageLines st.openingMinor (st.rows.insertionSort Before) := by
  rw [Statement.listing, entryDicts_eq, List.drop_zero, List.take_of_length_le]
  rw [pageLines_eq, List.length_map, Running.length_runs, List.length_insertionSort]

/-- The rows of a range in order are those of its first part and then those of the rest. -/
lemma ordered_split {l : List WalletTransaction} (hid : (l.map WalletTransaction.id).Nodup)
    {start mid stop : ℤ} (h : start ≤ mid) (h' : mid ≤ stop) :
    (inRange l start stop).insertionSort Before =
      (inRange l start mid).insertionSort Before ++
        (inRange l mid stop).insertionSort Before := by
  have hfirst : (inRange l start stop).filter (fun e => e.createdAt < mid) =
      inRange l start mid := by
    rw [inRange, List.filter_filter, inRange]
    refine List.filter_congr fun e _ => ?_
    rw [Bool.eq_iff_iff]
    simp only [Bool.and_eq_true, decide_eq_true_eq]
    omega
  have hrest : ((inRange l start stop).filter fun e => !decide (e.createdAt < mid)) =
      inRange l mid stop := by
    rw [inRange, List.filter_filter, inRange]
    refine List.filter_congr fun e _ => ?_
    rw [Bool.eq_iff_iff]
    simp only [Bool.and_eq_true, Bool.not_eq_true', decide_eq_true_eq, decide_eq_false_iff_not]
    omega
  rw [← hfirst, ← hrest]
  refine Running.insertionSort_split ?_ ?_
  · intro e he e' he' hle hle'
    have hmem := List.mem_of_mem_filter he
    have hmem' := List.mem_of_mem_filter he'
    rw [Before] at hle hle'
    exact List.inj_on_of_nodup_map hid hmem hmem' (by omega)
  · intro e e' he he'
    rw [decide_eq_true_eq] at he
    rw [decide_eq_false_iff_not] at he'
    rw [Before]
    omega

lemma nodup_driverRows (ledger : Ledger) (user : ℕ) (currency : Currency) :
    ((driverRows ledger user currency).map WalletTransaction.id).Nodup :=
  ledger.nodup.sublist (List.filter_sublist.map _)

end Lines

/-! ## Results -/

section Results

variable {wallet : Wallet} {ledger : Ledger} {start mid stop : ℤ}

/-- Two ranges that meet: the second opens with what the first closes with, the sums add up, and
the lines of the whole are those of the first and then those of the second, with the balance
running on.  What a statement up to now does not explain is what its closing lacks of the
balance. -/
theorem statements_join (h : start ≤ mid) (h' : mid ≤ stop) :
    (statement wallet ledger mid stop).openingMinor =
        (statement wallet ledger start mid).closingMinor ∧
      (statement wallet ledger start stop).openingMinor =
        (statement wallet ledger start mid).openingMinor ∧
      (statement wallet ledger start stop).closingMinor =
        (statement wallet ledger mid stop).closingMinor ∧
      (statement wallet ledger start stop).listing =
        (statement wallet ledger start mid).listing ++
          (statement wallet ledger mid stop).listing ∧
      ((∀ e ∈ driverRows ledger wallet.userId wallet.currency, e.createdAt < stop) →
        (statement wallet ledger start stop).closingMinor +
          (statement wallet ledger start stop).unexplainedMinor = wallet.balanceMinor) := by
  have hopen : (statement wallet ledger mid stop).openingMinor =
      (statement wallet ledger start mid).closingMinor := by
    rw [closing_eq h]
    rfl
  refine ⟨hopen, rfl, ?_, ?_, fun hnow => ?_⟩
  · rw [closing_eq (h.trans h'), closing_eq h']
  · rw [listing_eq, listing_eq, listing_eq, hopen]
    have hrows : ∀ s t, (statement wallet ledger s t).rows =
        inRange (driverRows ledger wallet.userId wallet.currency) s t := fun _ _ => rfl
    have hclosing : (statement wallet ledger start mid).closingMinor =
        (statement wallet ledger start mid).openingMinor +
          (((statement wallet ledger start mid).rows.insertionSort Before).map
            signedMinor).sum := by
      have hperm := signedTotal_perm
        (List.perm_insertionSort Before (statement wallet ledger start mid).rows)
      rw [signedTotal] at hperm
      rw [hperm, hrows, ← credits_sub_debits]
      simp only [statement]
      omega
    rw [hclosing, hrows, hrows, hrows,
      ordered_split (nodup_driverRows ledger wallet.userId wallet.currency) h h']
    simp only [pageLines_eq, ← List.map_append]
    rw [Running.runs_append]
    rfl
  · have hall : (driverRows ledger wallet.userId wallet.currency).filter
        (fun e => e.createdAt < stop) = driverRows ledger wallet.userId wallet.currency :=
      List.filter_eq_self.mpr fun e he => decide_eq_true (hnow e he)
    rw [closing_eq (h.trans h'), hall]
    simp only [statement]
    omega

/-- Two trips, a withdrawal that is not paid yet and a rejected one, of one driver. -/
def fourRows : Ledger where
  rows := [⟨0, 7, 400, .inr, .credit, .completed, "trip_earnings", "TRIP_1", 10⟩,
    ⟨1, 7, 60, .inr, .debit, .completed, "trip_commission", "TRIP_2", 20⟩,
    ⟨2, 7, 200, .inr, .debit, .pending, "withdrawal", "withdrawal_1", 20⟩,
    ⟨3, 7, 200, .inr, .credit, .failed, "refund_rejected_withdrawal", "refund_1", 30⟩]
  nodup := by decide

/-- The statement of the driver is cut in two within a second. -/
theorem statements_of_four_rows_join :
    (statement ⟨7, .driver, 140, .inr⟩ fourRows 20 40).openingMinor =
        (statement ⟨7, .driver, 140, .inr⟩ fourRows 0 20).closingMinor ∧
      (statement ⟨7, .driver, 140, .inr⟩ fourRows 0 40).openingMinor =
        (statement ⟨7, .driver, 140, .inr⟩ fourRows 0 20).openingMinor ∧
      (statement ⟨7, .driver, 140, .inr⟩ fourRows 0 40).closingMinor =
        (statement ⟨7, .driver, 140, .inr⟩ fourRows 20 40).closingMinor ∧
      (statement ⟨7, .driver, 140, .inr⟩ fourRows 0 40).listing =
        (statement ⟨7, .driver, 140, .inr⟩ fourRows 0 20).listing ++
          (statement ⟨7, .driver, 140, .inr⟩ fourRows 20 40).listing ∧
      ((∀ e ∈ driverRows fourRows 7 .inr, e.createdAt < 40) →
        (statement ⟨7, .driver, 140, .inr⟩ fourRows 0 40).closingMinor +
          (statement ⟨7, .driver, 140, .inr⟩ fourRows 0 40).unexplainedMinor = 140) :=
  statements_join (show (0 : ℤ) ≤ 20 by decide) (show (20 : ℤ) ≤ 40 by decide)

/-- The pages of a statement are its lines; each line has run up from the opening by the amounts up
to it, and so the last one has the closing balance. -/
theorem pages_run_through (wallet : Wallet) (ledger : Ledger) (start stop : ℤ) (m size : ℕ)
    (h : (statement wallet ledger start stop).rows.length ≤ m * size) :
    (List.range m).flatMap (fun p => (statement wallet ledger start stop).page p size) =
        (statement wallet ledger start stop).listing ∧
      (∀ i l, (statement wallet ledger start stop).listing[i]? = some l →
        l.runningBalanceMinor = (statement wallet ledger start stop).openingMinor +
          (((statement wallet ledger start stop).listing.take (i + 1)).map (·.amountMinor)).sum) ∧
      ∀ l ∈ (statement wallet ledger start stop).listing.getLast?,
        l.runningBalanceMinor = (statement wallet ledger start stop).closingMinor := by
  have hclosing : (statement wallet ledger start stop).closingMinor =
      (statement wallet ledger start stop).openingMinor +
        signedTotal (statement wallet ledger start stop).rows := by
    rw [← credits_sub_debits]
    simp only [statement]
    omega
  generalize statement wallet ledger start stop = st at h hclosing
  have hlength : st.listing.length = st.rows.length := by
    rw [listing_eq, pageLines_eq, List.length_map, Running.length_runs,
      List.length_insertionSort]
  have hamounts : st.listing.map (·.amountMinor) =
      (st.rows.insertionSort Before).map signedMinor := by
    have hfst : st.listing.map (·.amountMinor) = ((Running.runs signedMinor st.openingMinor
        (st.rows.insertionSort Before)).map Prod.fst).map signedMinor := by
      rw [listing_eq, pageLines_eq, List.map_map, List.map_map]
      rfl
    rw [hfst, Running.map_fst_runs]
  have hlines : ∀ i l, st.listing[i]? = some l → l.runningBalanceMinor = st.openingMinor +
      ((st.listing.take (i + 1)).map (·.amountMinor)).sum := by
    intro i l hl
    rw [listing_eq, pageLines_eq, List.getElem?_map, Running.getElem?_runs, Option.map_map,
      Option.map_eq_some_iff] at hl
    obtain ⟨e, -, rfl⟩ := hl
    have htake : (st.listing.take (i + 1)).map (·.amountMinor) =
        ((st.rows.insertionSort Before).take (i + 1)).map signedMinor := by
      rw [List.map_take, hamounts, ← List.map_take]
    rw [htake]
    rfl
  refine ⟨?_, hlines, fun l hl => ?_⟩
  · have hpage : (fun p => st.page p size) =
        fun p => (st.listing.drop (p * size)).take size := by
      funext p
      rw [Statement.page, entryDicts_eq, listing_eq]
    rw [hpage, Running.pages, List.take_of_length_le (hlength ▸ h)]
  · rw [Option.mem_def, List.getLast?_eq_getElem?] at hl
    have hpos : 0 < st.listing.length := by
      by_contra hzero
      rw [List.getElem?_eq_none (by omega)] at hl
      cases hl
    rw [hlines _ l hl, Nat.sub_add_cancel hpos, List.take_length, hamounts, hclosing]
    have hperm := signedTotal_perm (List.perm_insertionSort Before st.rows)
    rw [← hperm]
    rfl

/-- The three lines of the driver, on two pages. -/
theorem two_pages_run_through :
    (List.range 2).flatMap
          (fun p => (statement ⟨7, .driver, 140, .inr⟩ fourRows 0 40).page p 2) =
        (statement ⟨7, .driver, 140, .inr⟩ fourRows 0 40).listing ∧
      (∀ i l, (statement ⟨7, .driver, 140, .inr⟩ fourRows 0 40).listing[i]? = some l →
        l.runningBalanceMinor = (statement ⟨7, .driver, 140, .inr⟩ fourRows 0 40).openingMinor +
          (((statement ⟨7, .driver, 140, .inr⟩ fourRows 0 40).listing.take (i + 1)).map
            (·.amountMinor)).sum) ∧
      ∀ l ∈ (statement ⟨7, .driver, 140, .inr⟩ fourRows 0 40).listing.getLast?,
        l.runningBalanceMinor = (statement ⟨7, .driver, 140, .inr⟩ fourRows 0 40).closingMinor :=
  pages_run_through ⟨7, .driver, 140, .inr⟩ fourRows 0 40 2 2 (by decide)

example : ((statement ⟨7, .driver, 140, .inr⟩ fourRows 0 40).page 1 2).map
    (·.runningBalanceMinor) = [140] := by decide

end Results

end SaaradhiGo.DriverLedger
