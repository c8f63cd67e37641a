/-
The sweep takes up every row that is not terminal.

A sweep fails or requeues the rows a lost worker left, and hands the first `SWEEP_BATCH` due
rows to the workers, which claim them.  A row that is due stays due until it is handed out, and
each sweep that passes it over uses up an attempt of another row; so one of the sweeps claims or
fails the row itself (`takenUp_of_sweeps`).
-/
import Mathlib.Algebra.Order.BigOperators.Group.Finset
import SaaradhiGo.Notifications.Claimed

namespace SaaradhiGo.Notifications

namespace Outbox

variable {c : Config} {s : Outbox} {now id : ℕ}

/-- `requeue_stuck`. -/
def settle (c : Config) (now : ℕ) (s : Outbox) : Outbox := (s.failStuck c now).requeueStuck c now

def claimAll (now : ℕ) (s : Outbox) (ids : List ℕ) : Outbox :=
  ids.foldl (fun s id => (s.claim id now).2) s

def sweepRound (c : Config) (now : ℕ) (s : Outbox) : Outbox :=
  claimAll now (settle c now s) ((settle c now s).due now)

/-- The sweep fails the row, or hands it to a worker whose claim is granted. -/
def TakenUp (c : Config) (now id : ℕ) (s : Outbox) : Prop :=
  (∃ m, (s.failStuck c now).messages.get? id = some m ∧ m.status = .failed) ∨
    (id ∈ (settle c now s).due now ∧ ((settle c now s).claim id now).1 = true)

/-- A row whose time has come: its backoff is over, it is no longer new, and whoever claimed
it has been silent for `STUCK_SENDING_MINUTES`. -/
structure Ripe (m : Message) (now : ℕ) : Prop where
  notBefore : ∀ t ∈ m.notBefore, t ≤ now
  created : m.createdAt + settleSeconds < now
  updated : m.updatedAt + stuckSending < now

def sweeps (c : Config) (times : ℕ → ℕ) : ℕ → Outbox → Outbox
  | 0, s => s
  | n + 1, s => sweepRound c (times n) (sweeps c times n s)

def left (c : Config) (s : Outbox) (j : ℕ) : ℕ :=
  (s.messages.get? j).elim 0 fun m => c.maxAttempts - m.attempts

def leftAll (c : Config) (s : Outbox) : ℕ := ∑ j ∈ Finset.range s.nextId, left c s j

def Waits (now : ℕ) (m : Message) : Prop := Claimable m now ∧ m.createdAt + settleSeconds < now

instance (now : ℕ) (m : Message) : Decidable (Waits now m) :=
  inferInstanceAs (Decidable (_ ∧ _))

def waiting (now : ℕ) (s : Outbox) : List ℕ :=
  (s.messages.rows.filter fun m => Waits now m).map Message.id

/-! ## Rows that wait -/

lemma mem_waiting {j : ℕ} :
    j ∈ waiting now s ↔ ∃ m, s.messages.get? j = some m ∧ Waits now m := by
  rw [waiting, List.mem_map]
  constructor
  · rintro ⟨m, hm, rfl⟩
    obtain ⟨hrow, hwaits⟩ := List.mem_filter.mp hm
    exact ⟨m, Table.mem_iff_get?.mp hrow, of_decide_eq_true hwaits⟩
  · rintro ⟨m, hget, hwaits⟩
    obtain ⟨hrow, hid⟩ := Table.mem_of_get? hget
    exact ⟨m, List.mem_filter.mpr ⟨hrow, decide_eq_true hwaits⟩, hid⟩

/-- The sweep hands out rows that wait. -/
lemma mem_waiting_of_due {j : ℕ} (h : j ∈ s.due now) : j ∈ waiting now s := by
  have hsorted := List.mem_of_mem_take h
  rwa [(List.perm_insertionSort _ _).mem_iff] at hsorted

lemma due_ne_nil (h : waiting now s ≠ []) : s.due now ≠ [] := by
  have hlength := (List.perm_insertionSort (· ≤ ·) (waiting now s)).length_eq
  have hpos : 0 < (waiting now s).length := List.length_pos_of_ne_nil h
  intro hnil
  have htake : ((waiting now s).insertionSort (· ≤ ·)).take sweepBatch = [] := hnil
  have hzero := congrArg List.length htake
  rw [List.length_take, hlength, List.length_nil, sweepBatch] at hzero
  omega

/-! ## The tasks -/

lemma get?_claim_of_ne {j : ℕ} (h : j ≠ id) :
    (s.claim id now).2.messages.get? j = s.messages.get? j := by
  rw [claim]
  split
  · rfl
  split
  · show (s.modify id _).messages.get? j = _
    rw [get?_modify, if_neg h]
  · rfl

lemma get?_claim_of_not_queued {j : ℕ} {m : Message} (hget : s.messages.get? j = some m)
    (h : m.status ≠ .queued) : (s.claim id now).2.messages.get? j = some m := by
  by_cases heq : j = id
  · subst heq
    rw [claim, hget]
    dsimp only
    rw [if_neg fun hc => h hc.1, hget]
  · rw [get?_claim_of_ne heq, hget]

lemma claim_of_claimable {m : Message} (hget : s.messages.get? id = some m)
    (h : Claimable m now) : (s.claim id now).1 = true ∧
      ∃ m', (s.claim id now).2.messages.get? id = some m' ∧ m'.status = .sending ∧
        m'.attempts = m.attempts + 1 := by
  rw [claim, hget]
  dsimp only
  rw [if_pos h]
  have hrow : (s.modify id fun m =>
      { m with status := .sending, attempts := m.attempts + 1, updatedAt := now }).messages.get? id =
        some { m with status := .sending, attempts := m.attempts + 1, updatedAt := now } := by
    rw [get?_modify, if_pos rfl, hget]
    rfl
  exact ⟨rfl, _, hrow, rfl, rfl⟩

lemma get?_claimAll_of_not_queued {j : ℕ} {m : Message} (ids : List ℕ)
    (hget : s.messages.get? j = some m) (h : m.status ≠ .queued) :
    (claimAll now s ids).messages.get? j = some m := by
  induction ids generalizing s with
  | nil => exact hget
  | cons i ids ih => exact ih (get?_claim_of_not_queued hget h)

/-- A row no task is for is left. -/
lemma get?_claimAll_of_notMem {j : ℕ} (ids : List ℕ) (h : j ∉ ids) :
    (claimAll now s ids).messages.get? j = s.messages.get? j := by
  induction ids generalizing s with
  | nil => rfl
  | cons i ids ih =>
      rw [List.mem_cons, not_or] at h
      rw [claimAll, List.foldl_cons]
      exact (ih h.2).trans (get?_claim_of_ne h.1)

lemma get?_claimAll_of_mem {j : ℕ} {m : Message} {ids : List ℕ} (hmem : j ∈ ids)
    (hget : s.messages.get? j = some m) (h : Claimable m now) :
    ∃ m', (claimAll now s ids).messages.get? j = some m' ∧ m'.attempts = m.attempts + 1 := by
  induction ids generalizing s with
  | nil => cases hmem
  | cons i ids ih =>
      rw [claimAll, List.foldl_cons]
      by_cases heq : j = i
      · subst heq
        obtain ⟨-, m', hget', hsending, hattempts⟩ := claim_of_claimable hget h
        refine ⟨m', get?_claimAll_of_not_queued ids hget' ?_, hattempts⟩
        rw [hsending]
        decide
      · have hmem' : j ∈ ids := (List.mem_cons.mp hmem).resolve_left heq
        exact ih hmem' (by rw [get?_claim_of_ne heq, hget])

/-! ## The sweep -/

/-- A row after `requeue_stuck`. -/
lemma get?_settle (j : ℕ) : (settle c now s).messages.get? j =
    (s.messages.get? j).map fun m => requeuedBySweep c now (failedByLimit c now m) := by
  rw [settle, requeueStuck, get?_rewrite, failStuck, get?_rewrite, Option.map_map]
  rfl

/-- What `requeue_stuck` makes of a row: it is left, failed or queued again. -/
lemma settled_cases (c : Config) (now : ℕ) (m : Message) :
    (¬ Stuck m now ∧ requeuedBySweep c now (failedByLimit c now m) = m) ∨
      (Stuck m now ∧ (failedByLimit c now m).status = .failed ∧
        (requeuedBySweep c now (failedByLimit c now m)).status = .failed) ∨
      (Stuck m now ∧ requeuedBySweep c now (failedByLimit c now m) =
        { m with status := .queued, notBefore := none, updatedAt := now }) := by
  by_cases hstuck : Stuck m now
  · by_cases hspent : c.maxAttempts ≤ m.attempts
    · refine .inr (.inl ⟨hstuck, ?_, ?_⟩)
      · rw [failedByLimit, if_pos ⟨hstuck, hspent⟩]
      · have hfailed : failedByLimit c now m = { m with
            status := .failed
            lastError := "worker lost mid-send; dead-lettered at the attempt limit"
            updatedAt := now } := by
          rw [failedByLimit, if_pos ⟨hstuck, hspent⟩]
        rw [hfailed, requeuedBySweep, if_neg]
        rintro ⟨⟨hsending, -⟩, -⟩
        cases hsending
    · refine .inr (.inr ⟨hstuck, ?_⟩)
      rw [failedByLimit, if_neg fun h => hspent h.2, requeuedBySweep,
        if_pos ⟨hstuck, not_le.mp hspent⟩]
  · refine .inl ⟨hstuck, ?_⟩
    rw [failedByLimit, if_neg fun h => hstuck h.1, requeuedBySweep, if_neg fun h => hstuck h.1]

/-! ## The attempts that are left -/

/-- A choice for the statements that make none. -/
def noChoice : Choice where
  now := 0
  verdict := .noRecipient
  draft := .queued "" none
  allowed := true
  refused := none
  answer := .transient ""
  scrubs := false

lemma kept_settle (now : ℕ) (h : Kept c s) : Kept c (settle c now s) := by
  have hfailed : Kept c (exec c (.failStuck now) noChoice s).2 :=
    kept_exec h fun id hid => by cases hid
  exact kept_exec (o := .requeueStuck now) (e := noChoice) hfailed fun id hid => by cases hid

lemma kept_claimAll (ids : List ℕ) (h : Kept c s) : Kept c (claimAll now s ids) := by
  induction ids generalizing s with
  | nil => exact h
  | cons i ids ih =>
      rw [claimAll, List.foldl_cons]
      exact ih (kept_exec (o := .claim i now) (e := noChoice) h fun id hid => by cases hid)

lemma nextId_claimAll (ids : List ℕ) : (claimAll now s ids).nextId = s.nextId := by
  induction ids generalizing s with
  | nil => rfl
  | cons i ids ih =>
      have hclaim : (s.claim i now).2.nextId = s.nextId := by
        rw [claim]
        split
        · rfl
        split
        · exact nextId_modify _
        · rfl
      rw [claimAll, List.foldl_cons]
      exact ih.trans hclaim

/-- `requeue_stuck` uses up no attempt. -/
lemma left_settle (now j : ℕ) : left c (settle c now s) j = left c s j := by
  rw [left, left, get?_settle]
  cases hget : s.messages.get? j with
  | none => rfl
  | some m =>
      show c.maxAttempts - (requeuedBySweep c now (failedByLimit c now m)).attempts = _
      have hattempts : (requeuedBySweep c now (failedByLimit c now m)).attempts = m.attempts := by
        rw [requeuedBySweep]
        split
        · rw [failedByLimit]
          split
          · rfl
          · rfl
        · rw [failedByLimit]
          split
          · rfl
          · rfl
      rw [hattempts]
      rfl

/-- A task that claims its row uses up an attempt. -/
lemma left_claimAll {ids : List ℕ} (hs : Kept c s)
    (hids : ∀ j ∈ ids, ∃ m, s.messages.get? j = some m ∧ Claimable m now) (j : ℕ) :
    left c (claimAll now s ids) j ≤ left c s j ∧
      (j ∈ ids → left c (claimAll now s ids) j < left c s j) := by
  by_cases hmem : j ∈ ids
  · obtain ⟨m, hm, hclaimable⟩ := hids j hmem
    obtain ⟨m', hm', hattempts⟩ := get?_claimAll_of_mem hmem hm hclaimable
    have hlt := hs.queued j m hm hclaimable.1
    have hbefore : left c s j = c.maxAttempts - m.attempts := by
      rw [left, hm]
      rfl
    have hafter : left c (claimAll now s ids) j = c.maxAttempts - (m.attempts + 1) := by
      rw [left, hm', ← hattempts]
      rfl
    rw [hbefore, hafter]
    exact ⟨by omega, fun _ => by omega⟩
  · rw [left, get?_claimAll_of_notMem ids hmem]
    exact ⟨le_refl _, fun h => absurd h hmem⟩

/-- A sweep that hands out a row uses up an attempt. -/
lemma leftAll_sweepRound (hs : Kept c s) (hdue : (settle c now s).due now ≠ []) :
    leftAll c (sweepRound c now s) < leftAll c s := by
  have hkept := kept_settle now hs
  have hclaimable : ∀ j ∈ (settle c now s).due now,
      ∃ m, (settle c now s).messages.get? j = some m ∧ Claimable m now := by
    intro j hj
    obtain ⟨m, hm, hwaits⟩ := mem_waiting.mp (mem_waiting_of_due hj)
    exact ⟨m, hm, hwaits.1⟩
  obtain ⟨d, hd⟩ := List.exists_mem_of_ne_nil _ hdue
  obtain ⟨m, hm, -⟩ := hclaimable d hd
  have hd_range : d ∈ Finset.range s.nextId := Finset.mem_range.mpr (hkept.fresh d m hm)
  have hnext : (sweepRound c now s).nextId = s.nextId := nextId_claimAll _
  rw [leftAll, leftAll, hnext]
  refine Finset.sum_lt_sum (fun j _ => ?_) ⟨d, hd_range, ?_⟩
  · rw [← left_settle (s := s) now j]
    exact (left_claimAll hkept hclaimable j).1
  · rw [← left_settle (s := s) now d]
    exact (left_claimAll hkept hclaimable d).2 hd

/-! ## The sweeps -/

lemma kept_sweeps (times : ℕ → ℕ) (hs : Kept c s) (n : ℕ) : Kept c (sweeps c times n s) := by
  induction n with
  | zero => exact hs
  | succ n ih => exact kept_claimAll _ (kept_settle _ ih)

/-- The first sweep comes first. -/
lemma sweeps_succ (times : ℕ → ℕ) (n : ℕ) : sweeps c times (n + 1) s =
    sweeps c (fun n => times (n + 1)) n (sweepRound c (times 0) s) := by
  induction n with
  | zero => rfl
  | succ n ih => rw [sweeps, ih, sweeps]

lemma due_of_waiting (times : ℕ → ℕ) {m : Message} (hs : Kept c s)
    (hget : s.messages.get? id = some m) (hwaits : ∀ n, Waits (times n) m) :
    ∃ n, id ∈ (settle c (times n) (sweeps c times n s)).due (times n) := by
  generalize hk : leftAll c s = k
  induction k using Nat.strong_induction_on generalizing s times with
  | _ k ih =>
      -- a queued row is left by `requeue_stuck`
      have hsettled : (settle c (times 0) s).messages.get? id = some m := by
        have hnot : ¬ Stuck m (times 0) := by
          rintro ⟨hsending, -⟩
          rw [(hwaits 0).1.1] at hsending
          cases hsending
        rw [get?_settle, hget, Option.map_some]
        rcases settled_cases c (times 0) m with ⟨-, hsame⟩ | ⟨hstuck, -⟩ | ⟨hstuck, -⟩
        · rw [hsame]
        · exact absurd hstuck hnot
        · exact absurd hstuck hnot
      by_cases hdue : id ∈ (settle c (times 0) s).due (times 0)
      · exact ⟨0, hdue⟩
      · have hmem : id ∈ waiting (times 0) (settle c (times 0) s) :=
          mem_waiting.mpr ⟨m, hsettled, hwaits 0⟩
        have hless := leftAll_sweepRound hs (due_ne_nil (List.ne_nil_of_mem hmem))
        have hrow : (sweepRound c (times 0) s).messages.get? id = some m := by
          rw [sweepRound, get?_claimAll_of_notMem _ hdue, hsettled]
        obtain ⟨n, hn⟩ := ih _ (hk ▸ hless) (fun n => times (n + 1))
          (kept_sweeps times hs 1) hrow (fun n => hwaits (n + 1)) rfl
        exact ⟨n + 1, by rw [sweeps_succ]; exact hn⟩

/-- A row that is not terminal is claimed or failed by a later sweep, if it is ripe at the
times of the sweeps. -/
theorem takenUp_of_sweeps {times : ℕ → ℕ} {m : Message} (hs : Kept c s)
    (hget : s.messages.get? id = some m) (hopen : m.status ∉ terminal)
    (hripe : ∀ n, Ripe m (times n)) : ∃ n, TakenUp c (times n) id (sweeps c times n s) := by
  have hclaim : ∀ (t : Outbox) (now : ℕ), id ∈ t.due now → (t.claim id now).1 = true := by
    intro t now ht
    obtain ⟨m', hm', hwaits⟩ := mem_waiting.mp (mem_waiting_of_due ht)
    exact (claim_of_claimable hm' hwaits.1).1
  have hsettled : (settle c (times 0) s).messages.get? id =
      some (requeuedBySweep c (times 0) (failedByLimit c (times 0) m)) := by
    rw [get?_settle, hget]
    rfl
  have hfailStuck : (s.failStuck c (times 0)).messages.get? id =
      some (failedByLimit c (times 0) m) := by
    rw [failStuck, get?_rewrite, hget]
    rfl
  -- what the first sweep makes of the row decides
  have hwaits : (failedByLimit c (times 0) m).status = .failed ∨
      ∃ m', (settle c (times 0) s).messages.get? id = some m' ∧ ∀ n, Waits (times n) m' := by
    rcases settled_cases c (times 0) m with ⟨hstuck, hsame⟩ | ⟨-, hfailed, -⟩ | ⟨-, hqueued⟩
    · refine .inr ⟨m, by rw [hsettled, hsame], fun n => ⟨⟨?_, (hripe n).notBefore⟩,
        (hripe n).created⟩⟩
      rcases not_terminal_iff.mp hopen with h | h
      · exact h
      · exact absurd ⟨h, (hripe 0).updated⟩ hstuck
    · exact .inl hfailed
    · refine .inr ⟨_, hsettled, fun n => ?_⟩
      rw [hqueued]
      exact ⟨⟨rfl, fun t ht => by cases ht⟩, (hripe n).created⟩
  rcases hwaits with hfailed | ⟨m', hm', hwaits⟩
  · exact ⟨0, .inl ⟨_, hfailStuck, hfailed⟩⟩
  by_cases hdue : id ∈ (settle c (times 0) s).due (times 0)
  · exact ⟨0, .inr ⟨hdue, hclaim _ _ hdue⟩⟩
  · have hrow : (sweepRound c (times 0) s).messages.get? id = some m' := by
      rw [sweepRound, get?_claimAll_of_notMem _ hdue, hm']
    obtain ⟨n, hn⟩ := due_of_waiting (c := c) (fun n => times (n + 1))
      (kept_sweeps times hs 1) hrow fun n => hwaits (n + 1)
    refine ⟨n + 1, .inr ?_⟩
    rw [sweeps_succ]
    exact ⟨hn, hclaim _ _ hn⟩

end Outbox

end SaaradhiGo.Notifications
