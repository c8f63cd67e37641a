/-
The budget of a campaign.

Two counters stand against the budget: what is committed to booked trips, and what is spent.  A
reservation is admitted only while it fits; one that exists is settled or released in whatever
state the campaign is.  Each operation runs under the lock on the campaign's row.
-/
import SaaradhiGo.Money.Wallet
import Mathlib.Tactic.Linarith

namespace SaaradhiGo.Promotions

/-! ## Campaigns -/

inductive Kind where
  | riderPromo
  | driverIncentive
  | referral
deriving DecidableEq, Repr

inductive CampaignState where
  | draft
  | pendingApproval
  | scheduled
  | live
  | paused
  | exhausted
  | ended
  | cancelled
deriving DecidableEq, Repr

/-- The settings of a campaign that its budget reads; they were validated. -/
structure Config where
  /-- a rider promo's discount is a flat amount -/
  flat : Bool
  discountFlatMinor : ℕ
  rewardMinor : ℕ
  referrerRewardMinor : ℕ
  refereeRewardMinor : ℕ
deriving DecidableEq, Repr

/-- A campaign.  A time is a number. -/
structure Campaign where
  id : ℕ
  kind : Kind
  state : CampaignState
  /-- the code that is served, for a rider promo -/
  promoCode : Option ℕ
  /-- none on a code that was there before there were campaigns -/
  budgetMinor : Option ℤ
  committedMinor : ℤ
  spentMinor : ℤ
  overshootMinor : ℤ
  startsAt : Option ℕ
  endsAt : Option ℕ
  exhaustedAt : Option ℕ
  config : Config
deriving DecidableEq, Repr

inductive Refusal where
  | budgetExhausted
  | notLive
deriving DecidableEq, Repr

/-- What an operation raises. -/
inductive Error where
  | refused (code : Refusal)
  /-- arithmetic with `None` -/
  | typeError
  | integrityError
  | doesNotExist
deriving DecidableEq, Repr

namespace Campaign

def usedMinor (c : Campaign) : ℤ := c.committedMinor + c.spentMinor

def minViableMinor (c : Campaign) : ℤ :=
  match c.kind with
  | .riderPromo => if c.config.flat then max 1 c.config.discountFlatMinor else 1
  | .driverIncentive => max 1 c.config.rewardMinor
  | .referral => max 1 (c.config.referrerRewardMinor + c.config.refereeRewardMinor)

def admits (c : Campaign) (amountMinor : ℤ) : Bool :=
  if c.state ≠ .live then false
  else c.budgetMinor.all fun budget => c.usedMinor + amountMinor ≤ budget

/-- The constraints on the row. -/
def save (c : Campaign) : Except Error Campaign :=
  if 0 ≤ c.committedMinor ∧ 0 ≤ c.spentMinor ∧ (∀ budget ∈ c.budgetMinor, 0 ≤ budget) then .ok c
  else .error .integrityError

/-- The most the campaign has stood above its budget. -/
def recordOvershoot (budget : ℤ) (c : Campaign) : Campaign :=
  if c.usedMinor > budget ∧ c.usedMinor - budget > c.overshootMinor then
    { c with overshootMinor := c.usedMinor - budget }
  else c

/-- A live campaign that can admit nothing more stops. -/
def flipToExhausted (now : ℕ) (budget : ℤ) (c : Campaign) : Campaign :=
  if c.state = .live ∧ budget - c.usedMinor < c.minViableMinor then
    { c with state := .exhausted, exhaustedAt := some now }
  else c

def afterChange (now : ℕ) (c : Campaign) : Except Error Campaign :=
  match c.budgetMinor with
  | none => c.save
  | some budget => ((c.recordOvershoot budget).flipToExhausted now budget).save

def reserve (now : ℕ) (amountMinor : ℤ) (c : Campaign) : Except Error Campaign :=
  if c.state ≠ .live then .error (.refused .notLive)
  else if !c.admits amountMinor then .error (.refused .budgetExhausted)
  else afterChange now { c with committedMinor := c.committedMinor + amountMinor }

def settle (now : ℕ) (amountMinor : ℤ) (actualMinor : Option ℤ) (c : Campaign) :
    Except Error Campaign :=
  afterChange now { c with
    committedMinor := max 0 (c.committedMinor - amountMinor)
    spentMinor := c.spentMinor + actualMinor.getD amountMinor }

def adjustReservation (now : ℕ) (oldMinor newMinor : ℤ) (c : Campaign) : Except Error Campaign :=
  afterChange now { c with committedMinor := max 0 (c.committedMinor - oldMinor + newMinor) }

/-- A campaign that stopped and can admit something again. -/
def revive (now : ℕ) (remaining : ℤ) (c : Campaign) : Campaign :=
  if c.state = .exhausted ∧ remaining ≥ c.minViableMinor ∧ (∀ ends ∈ c.endsAt, ends > now) then
    { c with state := .live, exhaustedAt := none }
  else c

def release (now : ℕ) (amountMinor : ℤ) (c : Campaign) : Except Error Campaign :=
  let c := { c with committedMinor := max 0 (c.committedMinor - amountMinor) }
  match c.budgetMinor with
  -- `None` minus a number
  | none => .error .typeError
  | some budget => (c.revive now (budget - c.committedMinor - c.spentMinor)).save

def spendNow (now : ℕ) (amountMinor : ℤ) (c : Campaign) : Except Error Campaign :=
  if c.state ≠ .live then .error (.refused .notLive)
  else if !c.admits amountMinor then .error (.refused .budgetExhausted)
  else afterChange now { c with spentMinor := c.spentMinor + amountMinor }

end Campaign

/-! ## What an operation leaves -/

/-- The row is the same campaign with these counters. -/
structure Counted (c c' : Campaign) (committedMinor spentMinor : ℤ) : Prop where
  id : c'.id = c.id
  promoCode : c'.promoCode = c.promoCode
  budgetMinor : c'.budgetMinor = c.budgetMinor
  committedMinor : c'.committedMinor = committedMinor
  spentMinor : c'.spentMinor = spentMinor

/-- The row satisfies the constraints. -/
structure Saved (c : Campaign) : Prop where
  committed : 0 ≤ c.committedMinor
  spent : 0 ≤ c.spentMinor
  budget : ∀ budget ∈ c.budgetMinor, 0 ≤ budget

lemma Saved.of_counted {c c' : Campaign} {committed spent : ℤ} (h : Counted c c' committed spent)
    (hcommitted : 0 ≤ committed) (hspent : 0 ≤ spent)
    (hbudget : ∀ budget ∈ c.budgetMinor, 0 ≤ budget) : Saved c' :=
  ⟨h.committedMinor ▸ hcommitted, h.spentMinor ▸ hspent, h.budgetMinor ▸ hbudget⟩

namespace Campaign

variable {c c' : Campaign} {now : ℕ} {amountMinor : ℤ}

lemma save_ok (h : Saved c) : c.save = .ok c := by
  rw [save, if_pos ⟨h.committed, h.spent, h.budget⟩]

lemma save_spec (h : c.save = .ok c') : c' = c ∧ Saved c := by
  rw [save] at h
  split at h
  · rename_i hsaved
    cases h
    exact ⟨rfl, hsaved.1, hsaved.2.1, hsaved.2.2⟩
  · cases h

lemma counted_self (c : Campaign) : Counted c c c.committedMinor c.spentMinor :=
  ⟨rfl, rfl, rfl, rfl, rfl⟩

lemma counted_recordOvershoot (budget : ℤ) (c : Campaign) :
    Counted c (c.recordOvershoot budget) c.committedMinor c.spentMinor := by
  rw [recordOvershoot]
  split <;> exact ⟨rfl, rfl, rfl, rfl, rfl⟩

lemma counted_flipToExhausted (now : ℕ) (budget : ℤ) (c : Campaign) :
    Counted c (c.flipToExhausted now budget) c.committedMinor c.spentMinor := by
  rw [flipToExhausted]
  split <;> exact ⟨rfl, rfl, rfl, rfl, rfl⟩

lemma counted_revive (now : ℕ) (remaining : ℤ) (c : Campaign) :
    Counted c (c.revive now remaining) c.committedMinor c.spentMinor := by
  rw [revive]
  split <;> exact ⟨rfl, rfl, rfl, rfl, rfl⟩

lemma afterChange_ok (now : ℕ) (h : Saved c) :
    ∃ c', c.afterChange now = .ok c' ∧ Counted c c' c.committedMinor c.spentMinor := by
  rw [afterChange]
  split
  · exact ⟨c, save_ok h, counted_self c⟩
  · rename_i budget hbudget
    have hover := counted_recordOvershoot budget c
    have hflip := counted_flipToExhausted now budget (c.recordOvershoot budget)
    have hcounted : Counted c ((c.recordOvershoot budget).flipToExhausted now budget)
        c.committedMinor c.spentMinor :=
      ⟨hflip.id.trans hover.id, hflip.promoCode.trans hover.promoCode,
        hflip.budgetMinor.trans hover.budgetMinor,
        hflip.committedMinor.trans hover.committedMinor, hflip.spentMinor.trans hover.spentMinor⟩
    exact ⟨_, save_ok (.of_counted hcounted h.committed h.spent h.budget), hcounted⟩

/-- A change is written only when the row satisfies the constraints. -/
lemma saved_of_afterChange (h : c.afterChange now = .ok c') : Saved c := by
  rw [afterChange] at h
  split at h
  · exact (save_spec h).2
  · rename_i budget hbudget
    obtain ⟨rfl, hsaved⟩ := save_spec h
    have hover := counted_recordOvershoot budget c
    have hflip := counted_flipToExhausted now budget (c.recordOvershoot budget)
    refine ⟨?_, ?_, ?_⟩
    · rw [← hover.committedMinor, ← hflip.committedMinor]
      exact hsaved.committed
    · rw [← hover.spentMinor, ← hflip.spentMinor]
      exact hsaved.spent
    · rw [← hover.budgetMinor, ← hflip.budgetMinor]
      exact hsaved.budget

lemma afterChange_spec (h : c.afterChange now = .ok c') :
    Counted c c' c.committedMinor c.spentMinor ∧ Saved c' := by
  have hsaved := saved_of_afterChange h
  obtain ⟨c₁, hok, hcounted⟩ := afterChange_ok now hsaved
  rw [hok] at h
  cases h
  exact ⟨hcounted, .of_counted hcounted hsaved.committed hsaved.spent hsaved.budget⟩

lemma le_of_admits (h : c.admits amountMinor = true) :
    ∀ budget ∈ c.budgetMinor, c.usedMinor + amountMinor ≤ budget := by
  intro budget hbudget
  rw [admits] at h
  split at h
  · cases h
  · rw [Option.mem_def.mp hbudget] at h
    simpa using h

/-- A reservation that is made. -/
theorem reserve_spec (h : c.reserve now amountMinor = .ok c') :
    c.admits amountMinor = true ∧
      Counted c c' (c.committedMinor + amountMinor) c.spentMinor ∧ Saved c' := by
  rw [reserve] at h
  split at h
  · cases h
  split at h
  · cases h
  rename_i hadmits
  have hspec := afterChange_spec h
  exact ⟨by simpa using hadmits,
    ⟨hspec.1.id, hspec.1.promoCode, hspec.1.budgetMinor, hspec.1.committedMinor,
      hspec.1.spentMinor⟩, hspec.2⟩

/-- A reward that is spent. -/
theorem spendNow_spec (h : c.spendNow now amountMinor = .ok c') :
    c.admits amountMinor = true ∧
      Counted c c' c.committedMinor (c.spentMinor + amountMinor) ∧ Saved c' := by
  rw [spendNow] at h
  split at h
  · cases h
  split at h
  · cases h
  rename_i hadmits
  have hspec := afterChange_spec h
  exact ⟨by simpa using hadmits,
    ⟨hspec.1.id, hspec.1.promoCode, hspec.1.budgetMinor, hspec.1.committedMinor,
      hspec.1.spentMinor⟩, hspec.2⟩

lemma used_le_of_admits {committed spent : ℤ} (h : c.admits amountMinor = true)
    (hcounted : Counted c c' committed spent)
    (hused : committed + spent = c.usedMinor + amountMinor) :
    ∀ budget ∈ c'.budgetMinor, c'.usedMinor ≤ budget := by
  intro budget hbudget
  rw [hcounted.budgetMinor] at hbudget
  have hfits := le_of_admits h budget hbudget
  rw [usedMinor, hcounted.committedMinor, hcounted.spentMinor, hused]
  exact hfits

/-- A reservation is settled in every state of the campaign. -/
theorem settle_ok (now : ℕ) (h : Saved c) (hamount : 0 ≤ amountMinor) :
    ∃ c', c.settle now amountMinor none = .ok c' ∧
      Counted c c' (max 0 (c.committedMinor - amountMinor)) (c.spentMinor + amountMinor) ∧
      Saved c' := by
  have hsaved : Saved { c with
      committedMinor := max 0 (c.committedMinor - amountMinor)
      spentMinor := c.spentMinor + amountMinor } :=
    ⟨le_max_left _ _, add_nonneg h.spent hamount, h.budget⟩
  obtain ⟨c', hok, hcounted⟩ := afterChange_ok now hsaved
  exact ⟨c', hok, ⟨hcounted.id, hcounted.promoCode, hcounted.budgetMinor, hcounted.committedMinor,
    hcounted.spentMinor⟩, (afterChange_spec hok).2⟩

/-- A reservation is changed in every state of the campaign. -/
theorem adjustReservation_ok (now : ℕ) (h : Saved c) (oldMinor newMinor : ℤ) :
    ∃ c', c.adjustReservation now oldMinor newMinor = .ok c' ∧
      Counted c c' (max 0 (c.committedMinor - oldMinor + newMinor)) c.spentMinor ∧ Saved c' := by
  have hsaved : Saved { c with
      committedMinor := max 0 (c.committedMinor - oldMinor + newMinor) } :=
    ⟨le_max_left _ _, h.spent, h.budget⟩
  obtain ⟨c', hok, hcounted⟩ := afterChange_ok now hsaved
  exact ⟨c', hok, ⟨hcounted.id, hcounted.promoCode, hcounted.budgetMinor, hcounted.committedMinor,
    hcounted.spentMinor⟩, (afterChange_spec hok).2⟩

/-- A release against a campaign without a budget raises. -/
theorem release_of_no_budget (h : c.budgetMinor = none) :
    c.release now amountMinor = .error .typeError := by
  simp only [release, h]

/-- A release against a campaign with a budget gives the amount back. -/
theorem release_ok (now : ℕ) (amountMinor : ℤ) (h : Saved c) (hbudget : c.budgetMinor.isSome) :
    ∃ c', c.release now amountMinor = .ok c' ∧
      Counted c c' (max 0 (c.committedMinor - amountMinor)) c.spentMinor ∧ Saved c' := by
  rw [release]
  dsimp only
  split
  · rename_i hnone
    rw [hnone] at hbudget
    cases hbudget
  · rename_i budget hsome
    have hrevive := counted_revive now
      (budget - max 0 (c.committedMinor - amountMinor) - c.spentMinor)
      { c with committedMinor := max 0 (c.committedMinor - amountMinor) }
    have hsaved := Saved.of_counted hrevive (le_max_left _ _) h.spent h.budget
    exact ⟨_, save_ok hsaved, ⟨hrevive.id, hrevive.promoCode, hrevive.budgetMinor,
      hrevive.committedMinor, hrevive.spentMinor⟩, hsaved⟩

end Campaign

end SaaradhiGo.Promotions
