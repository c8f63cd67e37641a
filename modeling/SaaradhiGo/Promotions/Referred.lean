/-
When a referral is rewarded.

A referral that is rewarded stays as it is, so each is rewarded once (`rewards_nodup`).  What two
accounts share is read off everything that is stored of them.  The count of a trip looks at the
signals before it pays, but not at the device that the referrer signed up with; the sweep pays what
is qualified without looking again.  So a referral may be rewarded though its accounts share a
device, a phone or an instrument (`shared_and_rewarded`).
-/
import SaaradhiGo.Promotions.Referrals
import SaaradhiGo.Promotions.Counters

namespace SaaradhiGo.Referrals

open SaaradhiGo.Money SaaradhiGo.Promotions Transition

/-! ## What is stored of two accounts -/

/-- A payout instrument, in its normal form. -/
inductive Instrument where
  | upi (id : String)
  | bank (ifscCode accountNumber : String)
deriving DecidableEq, Repr

section Stored

variable (p : Platform)

def upiOf (id : String) : Instrument := .upi (p.lower (Python.strip id))

def bankOf (b : BankAccount) : Instrument :=
  .bank (p.upper (Python.strip b.ifscCode)) (Python.strip b.accountNumber)

/-- The payout instruments that are stored with an account. -/
def instruments (user : User) : List Instrument :=
  if user.hasDriver = false then []
  else
    (if user.upiId = "" then [] else [upiOf p user.upiId]) ++
      ((user.upiContact.filter (· ≠ "")).map (upiOf p)).toList ++
      ((user.bankAccount.filter (·.accountNumber ≠ "")).map (bankOf p)).toList

def Program.signUpDevices (s : Program) (user : ℕ) : List String :=
  ((s.referrals.rows.filter fun r => r.referee = user).map (·.deviceHash)).filter (· ≠ "")

/-- The devices that are stored with an account: its push token and its sign-up. -/
def Program.devices (s : Program) (user : ℕ) : List String :=
  [salted p (s.users user).fcmToken].filter (· ≠ "") ++ s.signUpDevices user

/-- What the accounts of a referral share, by all that is stored. -/
def Program.shared (s : Program) (r : Referral) : List Signal :=
  (if meets (s.devices p r.referrer) (s.devices p r.referee) then [.sameDevice] else []) ++
  (if meets (phoneKeys p (s.users r.referrer)) (phoneKeys p (s.users r.referee)) then
    [.samePhone] else []) ++
  if meets (instruments p (s.users r.referrer)) (instruments p (s.users r.referee)) then
    [.sameInstrument] else []

/-- What `abuse_signals` does not look at: the device that the referrer signed up with, and the
instruments of an account that is no driver's. -/
def Program.unseen (s : Program) (r : Referral) : Bool :=
  meets (s.signUpDevices r.referrer) (s.devices p r.referee) ||
    (meets (instruments p (s.users r.referrer)) (instruments p (s.users r.referee)) &&
      !((s.users r.referrer).role = some .driver && (s.users r.referee).role = some .driver))

/-- A person is referred once. -/
def OneEach (s : Program) : Prop :=
  ∀ r ∈ s.referrals.rows, ∀ q ∈ s.referrals.rows, r.referee = q.referee → r.id = q.id

variable {p} {s : Program} {r : Referral}

lemma meets_eq_true {α : Type} [DecidableEq α] {l l' : List α} :
    meets l l' = true ↔ ∃ a ∈ l, a ∈ l' := by
  simp [meets]

lemma salted_ne {value : String} (h : Python.strip value ≠ "") : salted p value ≠ "" := by
  rw [salted, if_neg h]
  exact p.digest_ne _ h

def Instrument.hash (p : Platform) : Instrument → String
  | .upi id => salted p ("upi:" ++ id)
  | .bank ifscCode accountNumber => salted p ("bank:" ++ ifscCode ++ ":" ++ accountNumber)

lemma Instrument.hash_ne (i : Instrument) : i.hash p ≠ "" := by
  cases i with
  | upi id =>
      exact salted_ne (Python.strip_ne (c := 'u') (l := "pi:".toList ++ id.toList)
        (by rw [String.toList_append]; rfl) (by decide))
  | bank ifscCode accountNumber =>
      refine salted_ne (Python.strip_ne (c := 'b')
        (l := "ank:".toList ++ ifscCode.toList ++ (":".toList ++ accountNumber.toList)) ?_
        (by decide))
      simp [String.toList_append]

lemma hash_mem {user : User} {i : Instrument} (hrole : user.role = some .driver)
    (h : i ∈ instruments p user) : i.hash p ∈ instrumentHashes p user := by
  rw [instruments] at h
  split at h
  · cases h
  · rename_i hdriver
    rw [instrumentHashes, if_neg (by simp [hrole, hdriver]), List.mem_filter]
    refine ⟨?_, by simpa using i.hash_ne⟩
    rcases List.mem_append.mp h with h | hbank
    · refine List.mem_append_left _ ?_
      rcases List.mem_append.mp h with hupi | hcontact
      · refine List.mem_append_left _ ?_
        split at hupi
        · cases hupi
        · rename_i hblank
          rw [List.mem_singleton.mp hupi, if_neg hblank]
          exact List.mem_singleton_self _
      · refine List.mem_append_right _ ?_
        obtain ⟨id, hid, rfl⟩ := Option.map_eq_some_iff.mp (Option.mem_toList.mp hcontact)
        exact Option.mem_toList.mpr (Option.map_eq_some_iff.mpr ⟨id, hid, rfl⟩)
    · refine List.mem_append_right _ ?_
      obtain ⟨b, hb, rfl⟩ := Option.map_eq_some_iff.mp (Option.mem_toList.mp hbank)
      exact Option.mem_toList.mpr (Option.map_eq_some_iff.mpr ⟨b, hb, rfl⟩)

lemma mem_devices {user : ℕ} {h : String} : h ∈ s.devices p user ↔
    (h = salted p (s.users user).fcmToken ∧ h ≠ "") ∨ h ∈ s.signUpDevices user := by
  rw [Program.devices, List.mem_append, List.mem_filter, List.mem_singleton, decide_eq_true_eq]

lemma mem_signUpDevices {user : ℕ} {h : String} : h ∈ s.signUpDevices user ↔
    ∃ q ∈ s.referrals.rows, q.referee = user ∧ q.deviceHash = h ∧ h ≠ "" := by
  rw [Program.signUpDevices, List.mem_filter, List.mem_map]
  constructor
  · rintro ⟨⟨q, hq, rfl⟩, hne⟩
    obtain ⟨hmem, hreferee⟩ := List.mem_filter.mp hq
    exact ⟨q, hmem, of_decide_eq_true hreferee, rfl, of_decide_eq_true hne⟩
  · rintro ⟨q, hmem, hreferee, rfl, hne⟩
    exact ⟨⟨q, List.mem_filter.mpr ⟨hmem, decide_eq_true hreferee⟩, rfl⟩, decide_eq_true hne⟩

/-- Without a signal, and with nothing that is not looked at, the accounts share nothing. -/
lemma shared_eq_nil (hone : OneEach s) (hr : r ∈ s.referrals.rows) (hsignals : s.signals p r = [])
    (hunseen : s.unseen p r = false) : s.shared p r = [] := by
  rw [Program.signals, abuseSignals, List.append_eq_nil_iff, List.append_eq_nil_iff] at hsignals
  obtain ⟨⟨hdevice, hphone⟩, hinstrument⟩ := hsignals
  rw [Program.unseen, Bool.or_eq_false_iff, Bool.and_eq_false_iff] at hunseen
  obtain ⟨hsignUp, hroles⟩ := hunseen
  have hnoDevice : ¬ meets (s.devices p r.referrer) (s.devices p r.referee) = true := by
    intro hmeets
    obtain ⟨h, hreferrer, hreferee⟩ := meets_eq_true.mp hmeets
    rcases mem_devices.mp hreferrer with ⟨rfl, hne⟩ | hown
    · -- the referee's devices are those that the signals compare
      have hseen : meets (deviceHashes p (s.users r.referrer) "")
          (deviceHashes p (s.users r.referee) r.deviceHash) = true := by
        refine meets_eq_true.mpr ⟨_, List.mem_filter.mpr ⟨List.mem_cons_self, ?_⟩,
          List.mem_filter.mpr ⟨?_, ?_⟩⟩
        · exact decide_eq_true hne
        · rcases mem_devices.mp hreferee with ⟨hsame, -⟩ | hin
          · rw [hsame]
            exact List.mem_cons_self
          · obtain ⟨q, hq, hqr, hhash, -⟩ := mem_signUpDevices.mp hin
            rw [Table.eq_of_mem hq hr (hone q hq r hr hqr)] at hhash
            rw [hhash]
            exact List.mem_cons_of_mem _ List.mem_cons_self
        · exact decide_eq_true hne
      rw [if_pos hseen] at hdevice
      cases hdevice
    · rw [meets_eq_true.mpr ⟨h, hown, hreferee⟩] at hsignUp
      cases hsignUp
  have hnoInstrument : ¬ meets (instruments p (s.users r.referrer))
      (instruments p (s.users r.referee)) = true := by
    intro hmeets
    rcases hroles with hnone | hdrivers
    · rw [hmeets] at hnone
      cases hnone
    · rw [Bool.not_eq_false', Bool.and_eq_true, decide_eq_true_eq, decide_eq_true_eq] at hdrivers
      obtain ⟨i, hreferrer, hreferee⟩ := meets_eq_true.mp hmeets
      have hseen := meets_eq_true.mpr
        ⟨_, hash_mem hdrivers.1 hreferrer, hash_mem hdrivers.2 hreferee⟩
      rw [if_pos hseen] at hinstrument
      cases hinstrument
  rw [Program.shared, if_neg hnoDevice, if_neg hnoInstrument, hphone]
  rfl

end Stored

/-! ## The rewards along a run -/

def newlyRewarded (s s' : Program) : List Referral :=
  s'.referrals.rows.filter fun r => r.status = .rewarded &&
    (s.referrals.get? r.id).all fun old => old.status ≠ .rewarded

/-- The rewards along a run, each with what the two accounts share at that moment. -/
def rewards (p : Platform) : Program → List Act → List (ℕ × List Signal)
  | _, [] => []
  | s, a :: acts =>
      ((newlyRewarded s (step p s a)).map fun r => (r.id, s.shared p r)) ++
        rewards p (step p s a) acts

/-! ## What a step does to the rewards -/

/-- The step rewards this referral, or none; what was rewarded stays, and every ledger row is
either old or one of the two of this referral. -/
structure Moves (s s' : Program) (rewarded : Option Referral) : Prop where
  keep : ∀ id r, s.referrals.get? id = some r → r.status = .rewarded →
    s'.referrals.get? id = some r
  new : ∀ id r, s'.referrals.get? id = some r → r.status = .rewarded →
    s.referrals.get? id = some r ∨ rewarded = some r
  entries : ∀ e ∈ s'.db.entries.rows, e ∈ s.db.entries.rows ∨
    ∃ r, rewarded = some r ∧ (e.key = .referrer r.id ∨ e.key = .referee r.id)
  rewarded : ∀ r, rewarded = some r → s'.referrals.get? r.id = some r ∧ r.status = .rewarded ∧
    ∀ old, s.referrals.get? r.id = some old → old.status ≠ .rewarded

namespace Moves

variable {s s₁ s' : Program} {r : Referral} {rewarded : Option Referral}

lemma of_eq (hreferrals : s'.referrals = s.referrals) (hentries : s'.db.entries = s.db.entries) :
    Moves s s' none :=
  ⟨fun _ _ hget _ => hreferrals ▸ hget, fun _ _ hget _ => .inl (hreferrals ▸ hget),
    fun _ he => .inl (hentries ▸ he), fun _ hr => by cases hr⟩

lemma refl (s : Program) : Moves s s none := of_eq rfl rfl

lemma trans (h : Moves s s₁ none) (h' : Moves s₁ s' rewarded) : Moves s s' rewarded := by
  constructor
  · exact fun id r hget hr => h'.keep id r (h.keep id r hget hr) hr
  · intro id r hget hr
    rcases h'.new id r hget hr with hold | hnew
    · rcases h.new id r hold hr with hold | hnone
      · exact .inl hold
      · cases hnone
    · exact .inr hnew
  · intro e he
    rcases h'.entries e he with hold | hnew
    · rcases h.entries e hold with hold | ⟨_, hnone, -⟩
      · exact .inl hold
      · cases hnone
    · exact .inr hnew
  · intro r hr
    obtain ⟨hget, hstatus, hold⟩ := h'.rewarded r hr
    refine ⟨hget, hstatus, fun old hgetOld hrewarded => ?_⟩
    exact hold old (h.keep r.id old hgetOld hrewarded) hrewarded

/-- What the sweeps have still to do is beside the point. -/
lemma sweeps (h : Moves s s' rewarded) (sweeps : ℕ → List ℕ) :
    Moves s { s' with sweeps } rewarded :=
  ⟨h.keep, h.new, h.entries, h.rewarded⟩

lemma put (r' : Referral) (hid : ∀ old, s.referrals.get? r'.id = some old → old.status ≠ .rewarded)
    (hstatus : r'.status ≠ .rewarded) (hreferrals : s'.referrals = s.referrals.put r')
    (hentries : s'.db.entries = s.db.entries) : Moves s s' none := by
  refine ⟨fun id r hget hr => ?_, fun id r hget hr => ?_, fun _ he => .inl (hentries ▸ he),
    fun _ hr => by cases hr⟩
  · rw [hreferrals, Table.get?_put_of_ne, hget]
    intro heq
    exact hid r (heq ▸ hget) hr
  · rw [hreferrals, Table.get?_put] at hget
    split at hget
    · cases hget
      exact absurd hr hstatus
    · exact .inl hget

lemma put_rewarded (r' : Referral) (hid : ∀ old, s.referrals.get? r'.id = some old → old.status ≠ .rewarded)
    (hstatus : r'.status = .rewarded) (hreferrals : s'.referrals = s.referrals.put r')
    (hentries : ∀ e ∈ s'.db.entries.rows, e ∈ s.db.entries.rows ∨
      (e.key = .referrer r'.id ∨ e.key = .referee r'.id)) : Moves s s' (some r') := by
  constructor
  · intro id r hget hr
    rw [hreferrals, Table.get?_put_of_ne, hget]
    intro heq
    exact hid r (heq ▸ hget) hr
  · intro id r hget hr
    rw [hreferrals, Table.get?_put] at hget
    split at hget
    · exact .inr hget
    · exact .inl hget
  · intro e he
    rcases hentries e he with hold | hnew
    · exact .inl hold
    · exact .inr ⟨r', rfl, hnew⟩
  · intro r hr
    cases hr
    exact ⟨by rw [hreferrals, Table.get?_put_self], hstatus, hid⟩

lemma mem_newlyRewarded (h : Moves s s' rewarded) (hr : r ∈ newlyRewarded s s') :
    rewarded = some r := by
  rw [newlyRewarded, List.mem_filter, Bool.and_eq_true, decide_eq_true_eq] at hr
  obtain ⟨hmem, hstatus, hold⟩ := hr
  rcases h.new r.id r (Table.mem_iff_get?.mp hmem) hstatus with hget | hnew
  · rw [hget, Option.all_some, decide_eq_true_eq] at hold
    exact absurd hstatus hold
  · exact hnew

lemma newlyRewarded_mem (h : Moves s s' (some r)) : r ∈ newlyRewarded s s' := by
  obtain ⟨hget, hstatus, hold⟩ := h.rewarded r rfl
  rw [newlyRewarded, List.mem_filter, Bool.and_eq_true, decide_eq_true_eq]
  refine ⟨(Table.mem_of_get? hget).1, hstatus, ?_⟩
  cases hbefore : s.referrals.get? r.id with
  | none => rfl
  | some old =>
      rw [Option.all_some, decide_eq_true_eq]
      exact hold old hbefore

end Moves

/-! ## The operations -/

section Operations

variable {p : Platform} {s s' : Program} {r : Referral} {c : Campaign} {db db' : Db} {now : ℕ}
  {creditRefused : Bool}

def Unrewarded (s : Program) (id : ℕ) : Prop :=
  ∀ old, s.referrals.get? id = some old → old.status ≠ .rewarded

/-- The referral is the same one: the same people and the same device. -/
structure Alike (r r' : Referral) : Prop where
  id : r'.id = r.id
  referrer : r'.referrer = r.referrer
  referee : r'.referee = r.referee
  deviceHash : r'.deviceHash = r.deviceHash

lemma Alike.signals (h : Alike r r') (s : Program) : s.signals p r' = s.signals p r := by
  rw [Program.signals, Program.signals, abuseSignals, abuseSignals, h.referrer, h.referee,
    h.deviceHash]

lemma Alike.shared (h : Alike r r') (s : Program) : s.shared p r' = s.shared p r := by
  rw [Program.shared, Program.shared, h.referrer, h.referee]

def Handles (s s' : Program) (r : Referral) : Prop :=
  ∃ rewarded, Moves s s' rewarded ∧ ∀ r', rewarded = some r' → Alike r r'

lemma creditReward_entries {campaign user minor : ℕ} {key : EntryKey}
    (hok : creditReward db campaign user minor key = .ok db') :
    ∀ e ∈ db'.entries.rows, e ∈ db.entries.rows ∨ e.key = key := by
  intro e he
  rw [creditReward] at hok
  split at hok
  · obtain ⟨-, entries, hinsert, rfl⟩ := insertEntry_eq_ok.mp hok
    rw [(Table.insert?_eq_some.mp hinsert).2] at he
    rcases Table.mem_put.mp he with rfl | ⟨hold, -⟩
    · exact .inr rfl
    · exact .inl hold
  · cases hok
    exact .inl he

lemma payRewards_entries (hok : payRewards now creditRefused r c db = .ok db') :
    ∀ e ∈ db'.entries.rows, e ∈ db.entries.rows ∨
      (e.key = .referrer r.id ∨ e.key = .referee r.id) := by
  intro e he
  rw [payRewards] at hok
  split at hok
  · cases hok
  · rename_i spent hchange
    split at hok
    · cases hok
    · split at hok
      · cases hok
      · rename_i first hfirst
        split at hok
        · cases hok
        · rename_i both hboth
          cases hok
          -- the budget is spent on the campaign's row only
          obtain ⟨c', c'', hget, hspend, rfl⟩ := changeCampaign_eq_ok.mp hchange
          rcases creditReward_entries hboth e he with hold | hnew
          · rcases creditReward_entries hfirst e hold with hold | hnew
            · exact .inl hold
            · exact .inr (.inl hnew)
          · exact .inr (.inr hnew)

lemma qualified_moves (hid : Unrewarded s r.id) :
    Moves s { s with referrals := s.referrals.put { r with status := .qualified } } none :=
  Moves.put { r with status := .qualified } hid
    (show ReferralStatus.qualified ≠ .rewarded by decide) rfl rfl

lemma pay_handles (hid : Unrewarded s r.id) (hok : pay now creditRefused r s = .ok s') :
    Handles s s' r := by
  rw [pay] at hok
  split at hok
  · cases hok
  · rename_i c hget
    split at hok
    · -- nothing is to be paid
      cases hok
      let paid : Referral := { r with status := .rewarded, rewardedAt := some now }
      refine ⟨some paid, Moves.put_rewarded paid hid rfl rfl fun e he => .inl he,
        fun r' hr' => ?_⟩
      cases hr'
      exact ⟨rfl, rfl, rfl, rfl⟩
    · dsimp only at hok
      split at hok
      · rename_i db hpaid
        cases hok
        let paid : Referral := { r with
          status := .rewarded, rewardedAt := some now
          referrerRewardMinor := c.config.referrerRewardMinor
          refereeRewardMinor := c.config.refereeRewardMinor }
        refine ⟨some paid, Moves.put_rewarded paid hid rfl rfl (payRewards_entries hpaid),
          fun r' hr' => ?_⟩
        cases hr'
        exact ⟨rfl, rfl, rfl, rfl⟩
      · cases hok
        exact ⟨none, qualified_moves hid, fun r' hr' => by cases hr'⟩
      · cases hok
        exact ⟨none, qualified_moves hid, fun r' hr' => by cases hr'⟩
      · cases hok

lemma block_moves (hid : Unrewarded s r.id) (signals : List Signal) :
    Moves s (block now r signals s) none := by
  rw [block, flag]
  have hstatus : ReferralStatus.blocked ≠ .rewarded := by decide
  split
  · exact Moves.put
      { r with status := .blocked, blockedSignals := signals, blockedAt := some now }
      hid hstatus rfl rfl
  · exact Moves.put
      { r with status := .blocked, blockedSignals := signals, blockedAt := some now }
      hid hstatus rfl rfl

/-- Abuse is looked for, and only then the rewards are paid. -/
lemma qualify_handles (hid : Unrewarded s r.id) (hok : qualify p now creditRefused r s = .ok s') :
    ∃ rewarded, Moves s s' rewarded ∧
      ∀ r', rewarded = some r' → Alike r r' ∧ s.signals p r' = [] := by
  rw [qualify] at hok
  split at hok
  · rename_i hsignals
    obtain ⟨rewarded, hmoves, halike⟩ :=
      pay_handles (r := { r with status := .qualified }) hid hok
    refine ⟨rewarded, hmoves, fun r' hr' => ⟨?_, ?_⟩⟩
    · obtain ⟨h₁, h₂, h₃, h₄⟩ := halike r' hr'
      exact ⟨h₁, h₂, h₃, h₄⟩
    · rw [(halike r' hr').signals]
      exact hsignals
  · cases hok
    exact ⟨none, block_moves (r := { r with status := .qualified }) hid _,
      fun r' hr' => by cases hr'⟩

/-- The trip brings the referral to the number that its campaign asks for. -/
def Program.reaches (s : Program) (r : Referral) (trip : ℕ) : Bool :=
  !(s.counted.any fun c => c.1 = r.id && c.2 = trip) &&
    (s.offers r.campaign).requiredTrips ≠ 0 &&
    (s.offers r.campaign).requiredTrips ≤
      ((s.counted ++ [(r.id, trip)]).filter fun c => c.1 = r.id).length

lemma countTrip_handles {trip : ℕ} (hid : Unrewarded s r.id)
    (hok : countTrip p now creditRefused trip r s = .ok s') :
    ∃ rewarded, Moves s s' rewarded ∧ ∀ r', rewarded = some r' →
      Alike r r' ∧ s.signals p r = [] ∧ s.reaches r trip = true := by
  rw [countTrip] at hok
  split at hok
  · cases hok
    exact ⟨none, Moves.refl s, fun r' hr' => by cases hr'⟩
  · rename_i hattached
    rw [not_not] at hattached
    split at hok
    · cases hok
      exact ⟨none, Moves.refl s, fun r' hr' => by cases hr'⟩
    · rename_i hnew
      dsimp only at hok
      -- the trip is counted on the row, which stays attached
      set counted := s.counted ++ [(r.id, trip)]
      set r₁ : Referral := { r with
        tripsCompleted := (counted.filter fun c => c.1 = r.id).length } with hr₁
      set s₁ : Program := { s with counted, referrals := s.referrals.put r₁ } with hs₁
      have hstatus : r₁.status ≠ .rewarded := by
        rw [hr₁, hattached]
        decide
      have hcounted : Moves s s₁ none := Moves.put r₁ hid hstatus rfl rfl
      split at hok
      · rename_i hreached
        have hid₁ : Unrewarded s₁ r₁.id := by
          intro old hold
          rw [hs₁, Table.get?_put_self] at hold
          cases hold
          exact hstatus
        obtain ⟨rewarded, hmoves, halike⟩ := qualify_handles hid₁ hok
        refine ⟨rewarded, hcounted.trans hmoves, fun r' hr' => ?_⟩
        obtain ⟨⟨h₁, h₂, h₃, h₄⟩, hsignals⟩ := halike r' hr'
        have hr : Alike r r' := ⟨h₁, h₂, h₃, h₄⟩
        refine ⟨hr, (hr.signals s).symm.trans hsignals, ?_⟩
        have hfirst : (s.counted.any fun c => c.1 = r.id && c.2 = trip) = false := by
          rw [List.any_eq_false]
          rintro ⟨id, t⟩ hmem heq
          rw [Bool.and_eq_true, decide_eq_true_eq, decide_eq_true_eq] at heq
          obtain ⟨rfl, rfl⟩ := heq
          exact hnew hmem
        rw [Program.reaches, hfirst]
        simp only [Bool.not_false, Bool.true_and, Bool.and_eq_true, decide_eq_true_eq]
        exact hreached
      · cases hok
        exact ⟨none, hcounted, fun r' hr' => by cases hr'⟩

def Program.attachedTo (s : Program) (user : ℕ) : Option Referral :=
  s.referrals.rows.find? fun r => r.referee = user && r.status = .attached

lemma onTripCompleted_handles {trip : Trip} {user : ℕ}
    (hok : onTripCompleted p now creditRefused trip user s = .ok s') :
    ∃ rewarded, Moves s s' rewarded ∧ ∀ r', rewarded = some r' → ∃ r, s.attachedTo user = some r ∧
      Alike r r' ∧ s.signals p r = [] ∧ s.reaches r trip.id = true := by
  have hnothing : s' = s → ∃ rewarded, Moves s s' rewarded ∧ ∀ r', rewarded = some r' →
      ∃ r, s.attachedTo user = some r ∧ Alike r r' ∧ s.signals p r = [] ∧
        s.reaches r trip.id = true := by
    rintro rfl
    exact ⟨none, Moves.refl _, fun r' hr' => by cases hr'⟩
  rw [onTripCompleted] at hok
  split at hok
  · cases hok
    exact hnothing rfl
  · split at hok
    · cases hok
      exact hnothing rfl
    · split at hok
      · cases hok
        exact hnothing rfl
      · rename_i r hfind
        split at hok
        · cases hok
          exact hnothing rfl
        · have hmem : r ∈ s.referrals.rows := List.mem_of_find?_eq_some hfind
          have hattached := List.find?_some hfind
          rw [Bool.and_eq_true, decide_eq_true_eq, decide_eq_true_eq] at hattached
          have hid : Unrewarded s r.id := by
            intro old hold
            rw [Table.mem_iff_get?.mp hmem] at hold
            cases hold
            rw [hattached.2]
            decide
          obtain ⟨rewarded, hmoves, halike⟩ := countTrip_handles hid hok
          exact ⟨rewarded, hmoves, fun r' hr' => ⟨r, hfind, halike r' hr'⟩⟩

lemma retry_handles {id : ℕ} (hok : Referrals.retry now creditRefused id s = .ok s') :
    ∃ rewarded, Moves s s' rewarded ∧ ∀ r', rewarded = some r' →
      ∃ r, s.referrals.get? id = some r ∧ r.status = .qualified ∧ Alike r r' := by
  rw [Referrals.retry] at hok
  split at hok
  · cases hok
  · rename_i r hget
    split at hok
    · rename_i hqualified
      have hid : Unrewarded s r.id := by
        intro old hold
        rw [Table.pk_of_get? hget, hget] at hold
        cases hold
        rw [hqualified]
        decide
      obtain ⟨rewarded, hmoves, halike⟩ := pay_handles hid hok
      exact ⟨rewarded, hmoves, fun r' hr' => ⟨r, hget, hqualified, halike r' hr'⟩⟩
    · cases hok
      exact ⟨none, Moves.refl s, fun r' hr' => by cases hr'⟩

lemma attach_moves {referee : ℕ} {code device : String}
    (hok : Referrals.attach p referee code device s = .ok s') : Moves s s' none := by
  rw [Referrals.attach] at hok
  split at hok
  · cases hok
  split at hok
  · cases hok
  split at hok
  · cases hok
  rename_i referrer hcode
  split at hok
  · cases hok
  split at hok
  · cases hok
  split at hok
  · cases hok
  split at hok
  · cases hok
  split at hok
  · cases hok
  · cases hok
    -- its number is a new one
    refine Moves.put _ ?_ (show ReferralStatus.attached ≠ .rewarded by decide) rfl rfl
    intro old hold
    obtain ⟨hmem, hid⟩ := Table.mem_of_get? hold
    have hkey : s.referrals.nextKey ∈ s.referrals.rows.map Referral.id :=
      List.mem_map.mpr ⟨old, hmem, hid⟩
    exact absurd hkey (Table.nextKey_notMem s.referrals)

/-! ## One referral for each person -/

def SamePeople (s s' : Program) : Prop :=
  ∀ r' ∈ s'.referrals.rows, ∃ r ∈ s.referrals.rows, r.id = r'.id ∧ r.referee = r'.referee

lemma SamePeople.refl (s : Program) : SamePeople s s := fun r hr => ⟨r, hr, rfl, rfl⟩

lemma SamePeople.trans {s₁ : Program} (h : SamePeople s s₁) (h' : SamePeople s₁ s') :
    SamePeople s s' := by
  intro r' hr'
  obtain ⟨r₁, hr₁, hid, hreferee⟩ := h' r' hr'
  obtain ⟨r, hr, hid', hreferee'⟩ := h r₁ hr₁
  exact ⟨r, hr, hid'.trans hid, hreferee'.trans hreferee⟩

lemma SamePeople.put {old : Referral} (hold : old ∈ s.referrals.rows) (hid : old.id = r.id)
    (hreferee : old.referee = r.referee) (h : s'.referrals = s.referrals.put r) :
    SamePeople s s' := by
  intro r' hr'
  rw [h] at hr'
  rcases Table.mem_put.mp hr' with rfl | ⟨hmem, -⟩
  · exact ⟨old, hold, hid, hreferee⟩
  · exact ⟨r', hmem, rfl, rfl⟩

lemma OneEach.of_samePeople (h : OneEach s) (hsame : SamePeople s s') : OneEach s' := by
  intro r hr q hq hreferee
  obtain ⟨r₀, hr₀, hid, hreferee₀⟩ := hsame r hr
  obtain ⟨q₀, hq₀, hid', hreferee₀'⟩ := hsame q hq
  rw [← hid, ← hid']
  exact h r₀ hr₀ q₀ hq₀ (by rw [hreferee₀, hreferee, hreferee₀'])

section People

variable {old : Referral} (hold : old ∈ s.referrals.rows) (hid : old.id = r.id)
  (hreferee : old.referee = r.referee)

include hold hid hreferee

lemma pay_people (hok : pay now creditRefused r s = .ok s') : SamePeople s s' := by
  rw [pay] at hok
  split at hok
  · cases hok
  · split at hok
    · cases hok
      exact SamePeople.put hold (r := { r with status := .rewarded, rewardedAt := some now })
        hid hreferee rfl
    · rename_i c hget _
      dsimp only at hok
      split at hok
      · cases hok
        exact SamePeople.put hold (r := { r with
          status := .rewarded, rewardedAt := some now
          referrerRewardMinor := c.config.referrerRewardMinor
          refereeRewardMinor := c.config.refereeRewardMinor }) hid hreferee rfl
      · cases hok
        exact SamePeople.put hold (r := { r with status := .qualified }) hid hreferee rfl
      · cases hok
        exact SamePeople.put hold (r := { r with status := .qualified }) hid hreferee rfl
      · cases hok

lemma block_people (signals : List Signal) : SamePeople s (block now r signals s) := by
  refine SamePeople.put hold (r := { r with
    status := .blocked, blockedSignals := signals, blockedAt := some now }) hid hreferee ?_
  rw [block, flag]
  split
  · rfl
  · rfl

lemma qualify_people (hok : qualify p now creditRefused r s = .ok s') : SamePeople s s' := by
  rw [qualify] at hok
  split at hok
  · exact pay_people (r := { r with status := .qualified }) hold hid hreferee hok
  · cases hok
    exact block_people (r := { r with status := .qualified }) hold hid hreferee _

lemma countTrip_people {trip : ℕ} (hok : countTrip p now creditRefused trip r s = .ok s') :
    SamePeople s s' := by
  rw [countTrip] at hok
  split at hok
  · cases hok
    exact SamePeople.refl s
  · split at hok
    · cases hok
      exact SamePeople.refl s
    · dsimp only at hok
      set r₁ : Referral := { r with tripsCompleted :=
        ((s.counted ++ [(r.id, trip)]).filter fun c => c.1 = r.id).length }
      set s₁ : Program := { s with
        counted := s.counted ++ [(r.id, trip)], referrals := s.referrals.put r₁ }
      have hcounted : SamePeople s s₁ := SamePeople.put hold (r := r₁) hid hreferee rfl
      split at hok
      · have hmem : r₁ ∈ s₁.referrals.rows := Table.mem_put.mpr (.inl rfl)
        exact hcounted.trans (qualify_people hmem rfl rfl hok)
      · cases hok
        exact hcounted

end People

lemma onTripCompleted_people {trip : Trip} {user : ℕ}
    (hok : onTripCompleted p now creditRefused trip user s = .ok s') : SamePeople s s' := by
  rw [onTripCompleted] at hok
  split at hok
  · cases hok
    exact SamePeople.refl s
  · split at hok
    · cases hok
      exact SamePeople.refl s
    · split at hok
      · cases hok
        exact SamePeople.refl s
      · rename_i r hfind
        split at hok
        · cases hok
          exact SamePeople.refl s
        · exact countTrip_people (List.mem_of_find?_eq_some hfind) rfl rfl hok

lemma retry_people {id : ℕ} (hok : Referrals.retry now creditRefused id s = .ok s') :
    SamePeople s s' := by
  rw [Referrals.retry] at hok
  split at hok
  · cases hok
  · rename_i r hget
    split at hok
    · exact pay_people (Table.mem_of_get? hget).1 rfl rfl hok
    · cases hok
      exact SamePeople.refl s

lemma attach_oneEach {referee : ℕ} {code device : String} (h : OneEach s)
    (hok : Referrals.attach p referee code device s = .ok s') : OneEach s' := by
  rw [Referrals.attach] at hok
  split at hok
  · cases hok
  split at hok
  · cases hok
  split at hok
  · cases hok
  split at hok
  · cases hok
  split at hok
  · cases hok
  split at hok
  · cases hok
  rename_i hnobody
  split at hok
  · cases hok
  split at hok
  · cases hok
  · cases hok
    have hnew : ∀ r ∈ s.referrals.rows, r.referee ≠ referee := by
      intro r hr heq
      exact hnobody (List.any_eq_true.mpr ⟨r, hr, decide_eq_true heq⟩)
    intro r hr q hq hreferee
    rcases Table.mem_put.mp hr with rfl | ⟨hr, -⟩ <;> rcases Table.mem_put.mp hq with rfl | ⟨hq, -⟩
    · rfl
    · exact absurd hreferee.symm (hnew q hq)
    · exact absurd hreferee (hnew r hr)
    · exact h r hr q hq hreferee

end Operations

/-! ## Runs -/

section Runs

variable {p : Platform} {s : Program} {a : Act} {acts : List Act}

/-- A sweep that comes to a qualified referral finds nothing shared by its accounts, and where a
trip brings a referral to its number they share nothing that the signals do not look at. -/
def clean (p : Platform) (s : Program) : Act → Bool
  | .count _ _ trip user =>
      (s.attachedTo user).all fun r =>
        trip.ended || !s.reaches r trip.id || s.signals p r ≠ [] || !s.unseen p r
  | .retry worker _ _ =>
      (s.sweeps worker).head?.all fun id => (s.referrals.get? id).all fun r =>
        r.status ≠ .qualified || s.shared p r = []
  | _ => true

lemma oneEach_step (h : OneEach s) : OneEach (step p s a) := by
  cases a with
  | attach referee code device =>
    rw [step]
    split
    · rename_i s' hok
      exact attach_oneEach h hok
    · exact h
  | count now creditRefused trip user =>
    rw [step]
    split
    · cases hok : onTripCompleted p now creditRefused trip user s with
      | error e => exact h
      | ok s' => exact h.of_samePeople (onTripCompleted_people hok)
    · exact h
  | retry worker now creditRefused =>
    rw [step]
    split
    · exact h
    · split
      · rename_i s' hok
        have hone : OneEach s' := h.of_samePeople (retry_people hok)
        exact hone
      · exact h
  | complete trip => exact h
  | sweep worker limit => exact h
  | saveUser id user => exact h
  | saveCampaign c offer => exact h

/-- Every step rewards one referral at most; under the condition its accounts share nothing. -/
lemma step_moves (p : Platform) (s : Program) (a : Act) : ∃ rewarded,
    Moves s (step p s a) rewarded ∧
      (OneEach s → clean p s a = true → ∀ r, rewarded = some r → s.shared p r = []) := by
  have hsame : ∀ {s' : Program}, s'.referrals = s.referrals → s'.db.entries = s.db.entries →
      ∃ rewarded, Moves s s' rewarded ∧
        (OneEach s → clean p s a = true → ∀ r, rewarded = some r → s.shared p r = []) :=
    fun h₁ h₂ => ⟨none, Moves.of_eq h₁ h₂, fun _ _ r hr => by cases hr⟩
  cases a with
  | attach referee code device =>
    rw [step]
    split
    · rename_i s' hok
      exact ⟨none, attach_moves hok, fun _ _ r hr => by cases hr⟩
    · exact hsame rfl rfl
  | complete trip => exact hsame rfl rfl
  | count now creditRefused trip user =>
    rw [step]
    split
    · cases hok : onTripCompleted p now creditRefused trip user s with
      | error e => exact hsame rfl rfl
      | ok s' =>
        obtain ⟨rewarded, hmoves, halike⟩ := onTripCompleted_handles hok
        refine ⟨rewarded, hmoves, fun hone hclean r' hr' => ?_⟩
        obtain ⟨r, hattached, hr, hsignals, hreaches⟩ := halike r' hr'
        rw [clean, hattached, Option.all_some, hreaches, hsignals] at hclean
        rw [hr.shared]
        refine shared_eq_nil hone (List.mem_of_find?_eq_some hattached) hsignals ?_
        -- a trip an operator ended counts for nobody
        cases hended : trip.ended with
        | false => simpa [hended] using hclean
        | true =>
          rw [onTripCompleted, if_pos hended] at hok
          cases hok
          subst hr'
          obtain ⟨hget, hstatus, hold⟩ := hmoves.rewarded r' rfl
          exact absurd hstatus (hold r' hget)
    · exact hsame rfl rfl
  | sweep worker limit => exact hsame rfl rfl
  | retry worker now creditRefused =>
    rw [step]
    split
    · exact hsame rfl rfl
    · rename_i id todo htodo
      split
      · rename_i s' hok
        -- a retry looks at no signal, so only a referral still qualified must share nothing
        obtain ⟨rewarded, hmoves, halike⟩ := retry_handles hok
        refine ⟨rewarded, hmoves.sweeps _, fun _ hclean r' hr' => ?_⟩
        obtain ⟨r, hget, hqualified, hr⟩ := halike r' hr'
        rw [hr.shared]
        rw [clean, htodo, List.head?_cons, Option.all_some, hget, Option.all_some,
          Bool.or_eq_true, decide_eq_true_eq, decide_eq_true_eq] at hclean
        exact hclean.resolve_left fun hne => hne hqualified
      · exact hsame rfl rfl
  | saveUser id user => exact hsame rfl rfl
  | saveCampaign c offer => exact hsame rfl rfl

lemma nodup_newlyRewarded (s s' : Program) : ((newlyRewarded s s').map Referral.id).Nodup :=
  s'.referrals.nodup.sublist (List.Sublist.map _ List.filter_sublist)

lemma unrewarded_of_mem_rewards : ∀ {s : Program} {acts : List Act}, ∀ e ∈ rewards p s acts,
    Unrewarded s e.1 := by
  intro s acts
  induction acts generalizing s with
  | nil => exact fun e he => by cases he
  | cons a acts ih =>
    intro e he
    obtain ⟨rewarded, hmoves, -⟩ := step_moves p s a
    rw [rewards, List.mem_append] at he
    rcases he with hhead | htail
    · obtain ⟨r, hr, rfl⟩ := List.mem_map.mp hhead
      exact (hmoves.rewarded r (hmoves.mem_newlyRewarded hr)).2.2
    · intro old hold hrewarded
      exact ih e htail old (hmoves.keep e.1 old hold hrewarded) hrewarded

/-- Every referral is rewarded once. -/
theorem rewards_nodup (p : Platform) (s : Program) (acts : List Act) :
    ((rewards p s acts).map Prod.fst).Nodup := by
  induction acts generalizing s with
  | nil => exact List.nodup_nil
  | cons a acts ih =>
    obtain ⟨rewarded, hmoves, -⟩ := step_moves p s a
    have hhead : ((newlyRewarded s (step p s a)).map fun r => (r.id, s.shared p r)).map Prod.fst =
        (newlyRewarded s (step p s a)).map Referral.id := by
      rw [List.map_map]
      rfl
    rw [rewards, List.map_append, hhead]
    refine List.Nodup.append (nodup_newlyRewarded _ _) (ih _) ?_
    -- what this step rewarded is rewarded ever after
    intro id hnow hlater
    obtain ⟨r, hr, rfl⟩ := List.mem_map.mp hnow
    obtain ⟨e, he, heq⟩ := List.mem_map.mp hlater
    obtain ⟨hget, hstatus, -⟩ := hmoves.rewarded r (hmoves.mem_newlyRewarded hr)
    exact unrewarded_of_mem_rewards e he r (heq ▸ hget) hstatus

lemma entries_of_run (p : Platform) (s : Program) (acts : List Act) :
    ∀ e ∈ (run (step p) s acts).db.entries.rows, e ∈ s.db.entries.rows ∨
      ∃ x ∈ rewards p s acts, e.key = .referrer x.1 ∨ e.key = .referee x.1 := by
  induction acts generalizing s with
  | nil => exact fun e he => .inl he
  | cons a acts ih =>
    intro e he
    obtain ⟨rewarded, hmoves, -⟩ := step_moves p s a
    rw [run_cons] at he
    rw [rewards]
    rcases ih (step p s a) e he with hold | ⟨x, hx, hkey⟩
    · rcases hmoves.entries e hold with hold | ⟨r, rfl, hkey⟩
      · exact .inl hold
      · refine .inr ⟨(r.id, s.shared p r), List.mem_append_left _ ?_, hkey⟩
        exact List.mem_map.mpr ⟨r, hmoves.newlyRewarded_mem, rfl⟩
    · exact .inr ⟨x, List.mem_append_right _ hx, hkey⟩

lemma unshared_of_clean (hone : OneEach s) (hclean :
      Guarded (step p) (fun s a => clean p s a = true) s acts) :
    ∀ e ∈ rewards p s acts, e.2 = [] := by
  induction acts generalizing s with
  | nil => exact fun e he => by cases he
  | cons a acts ih =>
    intro e he
    obtain ⟨hnow, hlater⟩ := guarded_cons.mp hclean
    obtain ⟨rewarded, hmoves, hsignals⟩ := step_moves p s a
    rw [rewards, List.mem_append] at he
    rcases he with hhead | htail
    · obtain ⟨r, hr, rfl⟩ := List.mem_map.mp hhead
      exact hsignals hone hnow r (hmoves.mem_newlyRewarded hr)
    · exact ih (oneEach_step hone) hlater e htail

/-- Along every run each referral is rewarded once, and the ledger has the rewards of those only;
and nobody is rewarded who shares a device, a phone or an instrument, as long as the sweeps come to
no such referral and no count to one that shares what is not looked at. -/
theorem rewarded_unshared (p : Platform) (s : Program) (acts : List Act) (hone : OneEach s)
    (hclean : Guarded (step p) (fun s a => clean p s a = true) s acts) :
    ((rewards p s acts).map Prod.fst).Nodup ∧
      (∀ e ∈ (run (step p) s acts).db.entries.rows, e ∈ s.db.entries.rows ∨
        ∃ x ∈ rewards p s acts, e.key = .referrer x.1 ∨ e.key = .referee x.1) ∧
      ∀ e ∈ rewards p s acts, e.2 = [] :=
  ⟨rewards_nodup p s acts, entries_of_run p s acts, unshared_of_clean hone hclean⟩

end Runs

/-! ## A sweep after the accounts came together -/

/-- Texts stand for themselves, and all people are in one place. -/
def plain : Platform where
  digest := id
  digest_ne := fun _ h => h
  lower := id
  upper := id
  isDigit := Char.isDigit
  countryOf := fun _ => "IN"
  depth := fun _ _ => some 0

/-- A campaign for riders: ₹50 each after one trip, with this budget. -/
def invite (budgetMinor : ℤ) : Campaign where
  id := 1
  kind := .referral
  state := .live
  promoCode := none
  budgetMinor := some budgetMinor
  committedMinor := 0
  spentMinor := 0
  overshootMinor := 0
  startsAt := none
  endsAt := none
  exhaustedAt := none
  config :=
    { flat := true, discountFlatMinor := 0, rewardMinor := 0
      referrerRewardMinor := 5000, refereeRewardMinor := 5000 }

def inviteOffer : Offer where
  isLegacy := false
  country := "IN"
  audience := some .rider
  requiredTrips := 1

/-- A rider, on this device. -/
def riderOn (fcmToken : String) : User where
  role := some .rider
  isActive := true
  fcmToken
  phoneNumber := ""
  emergencyContact := ""
  hasDriver := false
  upiId := ""
  upiContact := none
  bankAccount := none

/-- Two riders on two devices, and a campaign whose budget is short of one reward. -/
def launch : Program where
  db :=
    { campaigns := Table.empty.put (invite 100)
      promos := .empty
      redemptions := .empty
      trips := .empty
      entries := .empty
      wallets := .empty
      ledger := .empty }
  referrals := .empty
  counted := []
  users := fun id => if id = 1 then riderOn "a" else riderOn "b"
  offers := fun _ => inviteOffer
  codes := fun code => if code = "FRIEND" then some 1 else if code = "THIRD" then some 3 else none
  trips := []
  flagged := []
  sweeps := fun _ => []

/-- The second rider comes with the first one's code and takes a trip; the reward is over the
budget. -/
def signUp : List Act :=
  let trip : Trip := ⟨7, 2, none, false⟩
  [.attach 2 "FRIEND" "", .complete trip, .count 10 false trip 2]

/-- The budget is raised, and a sweep tries the reward again. -/
def tryAgain : List Act :=
  [.saveCampaign (invite 100000) inviteOffer, .sweep 0 100, .retry 0 20 false]

/-- On two devices all the while, the referral is rewarded once. -/
theorem rewarded_unshared_once :
    rewards plain launch (signUp ++ tryAgain) = [(1, [])] ∧
      ((rewards plain launch (signUp ++ tryAgain)).map Prod.fst).Nodup ∧
      (∀ e ∈ (run (step plain) launch (signUp ++ tryAgain)).db.entries.rows,
        e ∈ launch.db.entries.rows ∨ ∃ x ∈ rewards plain launch (signUp ++ tryAgain),
          e.key = .referrer x.1 ∨ e.key = .referee x.1) ∧
      ∀ e ∈ rewards plain launch (signUp ++ tryAgain), e.2 = [] :=
  ⟨by decide +kernel, rewarded_unshared plain launch (signUp ++ tryAgain)
    (fun _ hr => absurd hr List.not_mem_nil) (by decide +kernel)⟩

/-- The first rider signs up with a third one's code, on the device that the second one signs up
on with the first one's code; the second one takes a trip, and the budget is no matter. -/
def oneDevice : List Act :=
  let trip : Trip := ⟨7, 2, none, false⟩
  [.saveCampaign (invite 100000) inviteOffer, .attach 1 "THIRD" "d", .attach 2 "FRIEND" "d",
    .complete trip, .count 10 false trip 2]

/-- The second rider comes to use the first one's device before the sweep: the sweep rewards two
accounts on one device.  And two accounts that signed up on one device are rewarded by the count. -/
theorem shared_and_rewarded :
    rewards plain launch (signUp ++ Act.saveUser 2 (riderOn "a") :: tryAgain) =
        [(1, [.sameDevice])] ∧
      rewards plain launch oneDevice = [(2, [.sameDevice])] ∧
      ¬ ∀ e ∈ rewards plain launch (signUp ++ Act.saveUser 2 (riderOn "a") :: tryAgain),
        e.2 = [] := by
  refine ⟨?_, ?_, ?_⟩
  · decide +kernel
  · decide +kernel
  · decide +kernel

end SaaradhiGo.Referrals
