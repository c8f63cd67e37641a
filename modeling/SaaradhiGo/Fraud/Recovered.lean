/-
How much is recovered.

An execution reads what was recovered of its flag before it locks the wallet, and looks at its own
flag only.  So the recoveries of a flag keep to its linked rewards as long as no other recovery of
the flag comes between an execution's reads and its transaction and no merge drops a reference
(`serial`), and the recoveries of several flags keep to their rewards together when, besides, no
two of them share a reward (`apart`).
-/
import SaaradhiGo.Fraud.Recovery
import SaaradhiGo.Lib.Covered

namespace SaaradhiGo.Fraud

open SaaradhiGo.Money SaaradhiGo.Promotions

/-! ## What is recovered, and from what -/

def RewardHold.forfeitedFor (flag : ℕ) (hold : RewardHold) : ℤ :=
  if hold.flag = flag ∧ hold.status = .forfeited then hold.amountMinor else 0

lemma forfeitedFor_of_ne {flag : ℕ} {hold : RewardHold} (h : hold.status ≠ .forfeited) :
    hold.forfeitedFor flag = 0 :=
  if_neg fun hforfeited => h hforfeited.2

lemma forfeitedFor_forfeit {flag request : ℕ} {hold : RewardHold} :
    (hold.forfeit request).forfeitedFor flag = if hold.flag = flag then hold.amountMinor else 0 := by
  simp [RewardHold.forfeitedFor, RewardHold.forfeit]

def Desk.forfeitedMinor (s : Desk) (flag : ℕ) : ℤ :=
  s.holds.sum (RewardHold.forfeitedFor flag)

/-- What is taken or owed under the executed recoveries of a flag: the holds that were forfeited
and the debts. -/
def Desk.takenOrOwed (s : Desk) (flag : ℕ) : ℤ :=
  s.forfeitedMinor flag + s.debts.sum fun debt => if debt.flag = flag then debt.amountMinor else 0

def Desk.linkedTo (s : Desk) (dir : Directory) (id : ℕ) (e : LedgerEntry) : Bool :=
  (s.flags.get? id).any fun flag => s.linked dir flag e

def Desk.distinctMinor (s : Desk) (dir : Directory) (flags : Finset ℕ) : ℤ :=
  Covered.cover (s.linkedTo dir) LedgerEntry.amountMinor s.entries.rows flags

section Linked

variable {s : Desk} {dir : Directory} {flag : RiskFlag}

lemma linkedMinor_eq_sum : s.linkedMinor dir flag =
    (s.entries.rows.map fun e => if s.linked dir flag e then e.amountMinor else 0).sum := by
  have hperm := (List.perm_insertionSort (fun e e' : LedgerEntry =>
    e.createdAt < e'.createdAt ∨ (e.createdAt = e'.createdAt ∧ e.id ≤ e'.id))
    (s.entries.rows.filter (s.linked dir flag))).map LedgerEntry.amountMinor
  rw [Desk.linkedMinor, Desk.linkedEntries, hperm.sum_eq]
  induction s.entries.rows with
  | nil => rfl
  | cons e rows ih =>
      rw [List.filter_cons, List.map_cons, List.sum_cons]
      split
      · rw [List.map_cons, List.sum_cons, ih]
      · rw [ih, zero_add]

lemma distinctMinor_singleton (h : s.flags.get? flag.id = some flag) :
    s.distinctMinor dir {flag.id} = s.linkedMinor dir flag := by
  rw [linkedMinor_eq_sum, Desk.distinctMinor, Covered.cover]
  congr 1
  apply List.map_congr_left
  intro e _
  simp [Desk.linkedTo, h]

end Linked

/-! ## What no step undoes -/

/-- The flag with more evidence. -/
structure Older (flag flag' : RiskFlag) : Prop where
  id : flag'.id = flag.id
  kind : flag'.kind = flag.kind
  subject : flag'.subject = flag.subject
  referralId : flag'.evidence.referralId = flag.evidence.referralId
  refs : flag.evidence.refs.le flag'.evidence.refs = true

lemma Refs.le_iff {refs refs' : Refs} : refs.le refs' = true ↔
    refs.counterpartUserIds ⊆ refs'.counterpartUserIds ∧ refs.campaignIds ⊆ refs'.campaignIds ∧
      refs.tripIds ⊆ refs'.tripIds := by
  simp only [Refs.le, Bool.and_eq_true, List.all_eq_true, decide_eq_true_eq, and_assoc]
  rfl

lemma Refs.le_refl (refs : Refs) : refs.le refs = true :=
  Refs.le_iff.mpr ⟨List.Subset.refl _, List.Subset.refl _, List.Subset.refl _⟩

namespace Older

variable {flag flag' flag'' : RiskFlag}

lemma of_evidence (hid : flag'.id = flag.id) (hkind : flag'.kind = flag.kind)
    (hsubject : flag'.subject = flag.subject) (hevidence : flag'.evidence = flag.evidence) :
    Older flag flag' :=
  ⟨hid, hkind, hsubject, by rw [hevidence], by rw [hevidence]; exact Refs.le_refl _⟩

lemma refl (flag : RiskFlag) : Older flag flag := of_evidence rfl rfl rfl rfl

lemma trans (h : Older flag flag') (h' : Older flag' flag'') : Older flag flag'' := by
  obtain ⟨hcounter, hcampaign, htrip⟩ := Refs.le_iff.mp h.refs
  obtain ⟨hcounter', hcampaign', htrip'⟩ := Refs.le_iff.mp h'.refs
  exact ⟨h'.id.trans h.id, h'.kind.trans h.kind, h'.subject.trans h.subject,
    h'.referralId.trans h.referralId, Refs.le_iff.mpr ⟨List.Subset.trans hcounter hcounter',
      List.Subset.trans hcampaign hcampaign', List.Subset.trans htrip htrip'⟩⟩

end Older

/-- Rewards and links are only added. -/
structure Grown (s s' : Desk) : Prop where
  entries : ∃ more, s'.entries.rows = s.entries.rows ++ more
  referrals : s.referrals ⊆ s'.referrals
  incentiveTrips : s.incentiveTrips ⊆ s'.incentiveTrips
  flags : ∀ id flag, s.flags.get? id = some flag →
    ∃ flag', s'.flags.get? id = some flag' ∧ Older flag flag'

/-- Nothing is recovered. -/
structure Unrecovered (s s' : Desk) : Prop where
  used : ∀ flag, s'.usedMinor flag = s.usedMinor flag
  taken : ∀ flag, s'.takenOrOwed flag = s.takenOrOwed flag

namespace Grown

variable {s s' s'' : Desk} {dir : Directory}

lemma of_eq (hentries : s'.entries = s.entries) (hreferrals : s'.referrals = s.referrals)
    (htrips : s'.incentiveTrips = s.incentiveTrips) (hflags : s'.flags = s.flags) : Grown s s' :=
  ⟨⟨[], by rw [hentries, List.append_nil]⟩, hreferrals ▸ List.Subset.refl _,
    htrips ▸ List.Subset.refl _, fun _ flag h => ⟨flag, hflags ▸ h, Older.refl flag⟩⟩

lemma refl (s : Desk) : Grown s s := of_eq rfl rfl rfl rfl

lemma trans (h : Grown s s') (h' : Grown s' s'') : Grown s s'' := by
  obtain ⟨more, hmore⟩ := h.entries
  obtain ⟨more', hmore'⟩ := h'.entries
  refine ⟨⟨more ++ more', by rw [hmore', hmore, List.append_assoc]⟩,
    List.Subset.trans h.referrals h'.referrals,
    List.Subset.trans h.incentiveTrips h'.incentiveTrips, fun id flag hflag => ?_⟩
  obtain ⟨flag', hflag', holder⟩ := h.flags id flag hflag
  obtain ⟨flag'', hflag'', holder'⟩ := h'.flags id flag' hflag'
  exact ⟨flag'', hflag'', holder.trans holder'⟩

/-- Writing a flag with more evidence, or a new one. -/
lemma put_flag {flag : RiskFlag} (h : ∀ old, s.flags.get? flag.id = some old → Older old flag) :
    Grown s { s with flags := s.flags.put flag } := by
  refine ⟨⟨[], (List.append_nil _).symm⟩, List.Subset.refl _, List.Subset.refl _,
    fun id old hold => ?_⟩
  by_cases hid : id = flag.id
  · rw [hid] at hold ⊢
    exact ⟨flag, Table.get?_put_self _ _, h old hold⟩
  · exact ⟨old, (Table.get?_put_of_ne _ hid).trans hold, Older.refl old⟩

lemma referralKeys (h : Grown s s') {flag flag' : RiskFlag} (holder : Older flag flag')
    {key : EntryKey} (hkey : key ∈ s.referralKeys flag.subject flag.evidence) :
    key ∈ s'.referralKeys flag'.subject flag'.evidence := by
  obtain ⟨hcounter, -, -⟩ := Refs.le_iff.mp holder.refs
  rw [Desk.referralKeys, List.mem_flatMap] at hkey ⊢
  obtain ⟨r, hr, hin⟩ := hkey
  rw [holder.subject]
  refine ⟨r, ?_, hin⟩
  simp only [List.mem_filter, Bool.or_eq_true, Bool.and_eq_true, decide_eq_true_eq] at hr ⊢
  rw [holder.referralId]
  refine ⟨h.referrals hr.1, ?_⟩
  rcases hr.2 with (hid | ⟨hreferrer, hreferee⟩) | ⟨hreferee, hreferrer⟩
  · exact .inl (.inl hid)
  · exact .inl (.inr ⟨hreferrer, hcounter hreferee⟩)
  · exact .inr ⟨hreferee, hcounter hreferrer⟩

lemma linkedCampaigns (h : Grown s s') {flag flag' : RiskFlag} (holder : Older flag flag')
    {campaign : ℕ} (hcampaign : campaign ∈ s.linkedCampaigns dir flag) :
    campaign ∈ s'.linkedCampaigns dir flag' := by
  obtain ⟨-, hcampaigns, htrips⟩ := Refs.le_iff.mp holder.refs
  rw [Desk.linkedCampaigns] at hcampaign ⊢
  rw [holder.kind]
  cases hkind : flag.kind with
  | incentiveFarming =>
      rw [hkind] at hcampaign
      exact hcampaigns hcampaign
  | collusion =>
      rw [hkind] at hcampaign
      obtain ⟨t, ht, rfl⟩ := List.mem_map.mp hcampaign
      simp only [List.mem_filter, Bool.and_eq_true, decide_eq_true_eq] at ht
      refine List.mem_map.mpr ⟨t, ?_, rfl⟩
      simp only [List.mem_filter, Bool.and_eq_true, decide_eq_true_eq]
      rw [holder.subject]
      exact ⟨h.incentiveTrips ht.1, ht.2.1, htrips ht.2.2⟩
  | _ =>
      rw [hkind] at hcampaign
      cases hcampaign

lemma linked (h : Grown s s') {flag flag' : RiskFlag} (holder : Older flag flag') {e : LedgerEntry}
    (hlinked : s.linked dir flag e = true) : s'.linked dir flag' e = true := by
  simp only [Desk.linked, Bool.and_eq_true, Bool.or_eq_true, decide_eq_true_eq] at hlinked ⊢
  obtain ⟨⟨hkind, huser⟩, hhow⟩ := hlinked
  rw [holder.kind, holder.subject]
  refine ⟨⟨hkind, huser⟩, ?_⟩
  rcases hhow with (⟨hreferral, hkey⟩ | hmulti) | ⟨hincentive, hcampaign⟩
  · have hkey' := h.referralKeys holder hkey
    rw [holder.subject] at hkey'
    exact .inl (.inl ⟨hreferral, hkey'⟩)
  · exact .inl (.inr hmulti)
  · exact .inr ⟨hincentive, h.linkedCampaigns holder hcampaign⟩

lemma linkedTo (h : Grown s s') {id : ℕ} {e : LedgerEntry} (hlinked : s.linkedTo dir id e = true) :
    s'.linkedTo dir id e = true := by
  rw [Desk.linkedTo, Option.any_eq_true] at hlinked ⊢
  obtain ⟨flag, hflag, hlinked⟩ := hlinked
  obtain ⟨flag', hflag', holder⟩ := h.flags id flag hflag
  exact ⟨flag', hflag', h.linked holder hlinked⟩

/-- The rewards of a set of flags only become more. -/
lemma distinctMinor_le (h : Grown s s') (flags : Finset ℕ) :
    s.distinctMinor dir flags ≤ s'.distinctMinor dir flags := by
  obtain ⟨more, hmore⟩ := h.entries
  rw [Desk.distinctMinor, Desk.distinctMinor, hmore]
  exact Covered.cover_mono (fun e _ => e.positive.le) (fun _ _ _ hlinked => h.linkedTo hlinked) _

end Grown

/-! ## Steps that recover nothing -/

/-- Only holds and wallets changed, and no hold was forfeited. -/
structure Still (s s' : Desk) : Prop where
  entries : s'.entries = s.entries
  referrals : s'.referrals = s.referrals
  incentiveTrips : s'.incentiveTrips = s.incentiveTrips
  flags : s'.flags = s.flags
  debts : s'.debts = s.debts
  forfeited : ∀ flag, s'.forfeitedMinor flag = s.forfeitedMinor flag

namespace Still

variable {s s' s'' : Desk}

lemma refl (s : Desk) : Still s s := ⟨rfl, rfl, rfl, rfl, rfl, fun _ => rfl⟩

lemma trans (h : Still s s') (h' : Still s' s'') : Still s s'' :=
  ⟨h'.entries.trans h.entries, h'.referrals.trans h.referrals,
    h'.incentiveTrips.trans h.incentiveTrips, h'.flags.trans h.flags, h'.debts.trans h.debts,
    fun flag => (h'.forfeited flag).trans (h.forfeited flag)⟩

lemma grown (h : Still s s') : Grown s s' :=
  Grown.of_eq h.entries h.referrals h.incentiveTrips h.flags

lemma unrecovered (h : Still s s') : Unrecovered s s' :=
  ⟨fun flag => by rw [Desk.usedMinor, Desk.usedMinor, h.debts],
    fun flag => by rw [Desk.takenOrOwed, Desk.takenOrOwed, h.debts, h.forfeited]⟩

lemma foldl {α : Type*} {f : Desk → α → Desk} (h : ∀ s a, Still s (f s a)) (as : List α)
    (s : Desk) : Still s (as.foldl f s) := by
  induction as generalizing s with
  | nil => exact refl s
  | cons a as ih => exact (h s a).trans (ih (f s a))

/-- A new hold that is held. -/
lemma put_hold {hold : RewardHold} (hnew : s.holds.get? hold.key = none)
    (hheld : hold.status ≠ .forfeited) : Still s { s with holds := s.holds.put hold } := by
  refine ⟨rfl, rfl, rfl, rfl, rfl, fun flag => ?_⟩
  have hinsert : s.holds.insert? hold = some (s.holds.put hold) :=
    Table.insert?_eq_some.mpr ⟨hnew, rfl⟩
  have hsum := Table.sum_insert? hinsert (RewardHold.forfeitedFor flag)
  rw [forfeitedFor_of_ne hheld, add_zero] at hsum
  exact hsum

lemma changeHeld (change : RewardHold → RewardHold) (hid : ∀ hold, (change hold).key = hold.key)
    (hstatus : ∀ hold, hold.status = .held → (change hold).status ≠ .forfeited) (s : Desk)
    (id : ℕ) : Still s (s.changeHeld change id) := by
  rw [Desk.changeHeld]
  split
  · rename_i hold hget
    split
    · rename_i hheld
      refine ⟨rfl, rfl, rfl, rfl, rfl, fun flag => ?_⟩
      have hget' : s.holds.get? (change hold).key = some hold := by
        rw [hid, Table.pk_of_get? hget, hget]
      have hsum := Table.sum_put hget' (RewardHold.forfeitedFor flag)
      have hbefore : hold.status ≠ .forfeited := by
        rw [hheld]
        decide
      rw [forfeitedFor_of_ne hbefore, forfeitedFor_of_ne (hstatus hold hheld), sub_zero,
        add_zero] at hsum
      exact hsum
    · exact refl s
  · exact refl s

lemma holdOne (dir : Directory) (now days : ℕ) (flag : RiskFlag) (s : Desk) (e : LedgerEntry) :
    Still s (Fraud.holdOne dir now days flag s e) := by
  rw [Fraud.holdOne]
  split
  · exact refl s
  · split
    · exact refl s
    · split
      · exact refl s
      · exact put_hold (Table.get?_eq_none_iff.mpr (Table.nextKey_notMem _))
          (show WeeklyPayout.HoldStatus.held ≠ .forfeited by decide)

lemma holdForFlag (dir : Directory) (now days : ℕ) (flag : RiskFlag) (s : Desk) :
    Still s (Fraud.holdForFlag dir now days flag s) := by
  rw [Fraud.holdForFlag]
  dsimp only
  split
  · exact refl s
  · split
    · exact refl s
    · have hwallets : Still s { s with wallets := s.wallets.put (s.wallet dir flag.subject) } :=
        ⟨rfl, rfl, rfl, rfl, rfl, fun _ => rfl⟩
      exact hwallets.trans (foldl (holdOne dir now days flag) _ _)

lemma releaseForFlag (flag : ℕ) (s : Desk) : Still s (Fraud.releaseForFlag flag s) :=
  foldl (changeHeld released (fun _ => rfl) fun _ _ =>
    show WeeklyPayout.HoldStatus.released ≠ .forfeited by decide) _ s

lemma onDecision (now days : ℕ) (flag : RiskFlag) (s : Desk) :
    Still s (Fraud.onDecision now days flag s) := by
  rw [Fraud.onDecision]
  split
  · refine foldl (changeHeld (fun hold => { hold with releaseAt := now + days * day })
      (fun _ => rfl) fun hold hheld => ?_) _ s
    show hold.status ≠ .forfeited
    rw [hheld]
    decide
  · exact releaseForFlag _ s

end Still

/-- Rewards and links are only added, and nothing is recovered. -/
structure Onward (s s' : Desk) : Prop where
  grown : Grown s s'
  unrecovered : Unrecovered s s'

namespace Onward

variable {s s' s'' : Desk}

lemma refl (s : Desk) : Onward s s := ⟨Grown.refl s, fun _ => rfl, fun _ => rfl⟩

lemma trans (h : Onward s s') (h' : Onward s' s'') : Onward s s'' :=
  ⟨h.grown.trans h'.grown,
    fun flag => (h'.unrecovered.used flag).trans (h.unrecovered.used flag),
    fun flag => (h'.unrecovered.taken flag).trans (h.unrecovered.taken flag)⟩

lemma of_still (h : Still s s') : Onward s s' := ⟨h.grown, h.unrecovered⟩

/-- Only rewards, links, requests, wallets and the like changed. -/
lemma of_grown (h : Grown s s') (hdebts : s'.debts = s.debts) (hholds : s'.holds = s.holds) :
    Onward s s' :=
  ⟨h, fun flag => by rw [Desk.usedMinor, Desk.usedMinor, hdebts],
    fun flag => by
      rw [Desk.takenOrOwed, Desk.takenOrOwed, Desk.forfeitedMinor, Desk.forfeitedMinor, hdebts,
        hholds]⟩

lemma put_flag {flag : RiskFlag} (h : ∀ old, s.flags.get? flag.id = some old → Older old flag) :
    Onward s { s with flags := s.flags.put flag } :=
  of_grown (Grown.put_flag h) rfl rfl

lemma put_flag_of_get? {id : ℕ} {old flag : RiskFlag} (hget : s.flags.get? id = some old)
    (h : Older old flag) : Onward s { s with flags := s.flags.put flag } := by
  refine put_flag fun found hfound => ?_
  have hid : flag.id = id := h.id.trans (Table.pk_of_get? hget)
  rw [hid, hget] at hfound
  exact Option.some.inj hfound ▸ h

lemma saveAndHold {dir : Directory} {now days : ℕ} {flag : RiskFlag}
    (h : ∀ old, s.flags.get? flag.id = some old → Older old flag) :
    Onward s (Fraud.saveAndHold dir now days flag s) :=
  (put_flag h).trans (of_still (Still.holdForFlag dir now days flag _))

lemma saveAndHold_of_get? {dir : Directory} {now days id : ℕ} {old flag : RiskFlag}
    (hget : s.flags.get? id = some old) (h : Older old flag) :
    Onward s (Fraud.saveAndHold dir now days flag s) :=
  (put_flag_of_get? hget h).trans (of_still (Still.holdForFlag dir now days flag _))

lemma saveAndHold_new {dir : Directory} {now days : ℕ} {flag : RiskFlag}
    (h : flag.id = s.flags.nextKey) : Onward s (Fraud.saveAndHold dir now days flag s) := by
  refine saveAndHold fun old hold => ?_
  rw [h, Table.get?_eq_none_iff.mpr (Table.nextKey_notMem _)] at hold
  cases hold

end Onward

/-! ## An executed recovery -/

section Recover

variable {dir : Directory} {clock : ℕ} {r : RecoveryRequest} {flag : RiskFlag} {s s' : Desk}

/-- Where the loop over the held rewards stands: what was forfeited counts for the flag. -/
structure Forfeits (s : Desk) (flag : ℕ) (amount : ℤ) (acc : Forfeiting)
    (holds : List RewardHold) : Prop where
  split : acc.remaining + acc.forfeited = amount
  ids : (holds.map RewardHold.key).Nodup
  rows : ∀ hold ∈ holds, acc.holds.get? hold.key = some hold ∧ hold.flag = flag ∧ hold.status = .held
  sum : ∀ id, acc.holds.sum (RewardHold.forfeitedFor id) =
    s.forfeitedMinor id + if id = flag then acc.forfeited else 0

lemma forfeits_step {flagId request user : ℕ} {amount : ℤ} {acc acc' : Forfeiting}
    {hold : RewardHold} {holds : List RewardHold} (h : Forfeits s flagId amount acc (hold :: holds))
    (hstep : forfeitOne request user acc hold = .ok acc') : Forfeits s flagId amount acc' holds := by
  obtain ⟨hnew, hids⟩ := List.nodup_cons.mp h.ids
  obtain ⟨hget, hflag, hheld⟩ := h.rows hold List.mem_cons_self
  have hrest : ∀ other ∈ holds, other.key ≠ hold.key := fun other hother heq =>
    hnew (heq ▸ List.mem_map_of_mem hother)
  rw [forfeitOne] at hstep
  split at hstep
  · cases hstep
    exact ⟨h.split, hids, fun other hother => h.rows other (List.mem_cons_of_mem _ hother), h.sum⟩
  · split at hstep
    · cases hstep
    · cases hstep
      have hsplit := h.split
      refine ⟨by dsimp only; omega, hids, fun other hother => ?_, fun id => ?_⟩
      · obtain ⟨hother', hflag', hheld'⟩ := h.rows other (List.mem_cons_of_mem _ hother)
        have hne : other.key ≠ (hold.forfeit request).key := hrest other hother
        exact ⟨(Table.get?_put_of_ne _ hne).trans hother', hflag', hheld'⟩
      · have hget' : acc.holds.get? (hold.forfeit request).key = some hold := hget
        have hbefore : hold.status ≠ .forfeited := by
          rw [hheld]
          decide
        have hput := Table.sum_put hget' (RewardHold.forfeitedFor id)
        rw [h.sum id, forfeitedFor_of_ne hbefore, forfeitedFor_forfeit, hflag] at hput
        dsimp only
        rw [hput]
        by_cases hid : flagId = id
        · rw [if_pos hid, if_pos hid.symm, if_pos hid.symm]
          omega
        · have hid' : ¬ id = flagId := fun heq => hid heq.symm
          rw [if_neg hid, if_neg hid', if_neg hid']
          omega

/-- The recovery of a request on a flag. -/
structure RecoveredBy (s s' : Desk) (flag : ℕ) (amount : ℤ) : Prop where
  grown : Grown s s'
  used : ∀ id, s'.usedMinor id = s.usedMinor id + if id = flag then amount else 0
  taken : ∀ id, s'.takenOrOwed id = s.takenOrOwed id + if id = flag then amount else 0

/-- What a wallet gives at once changes neither the debt nor what it is for. -/
lemma collectNow_spec {wallet : Wallet} {debt debt' : RecoveryDebt}
    (h : collectNow dir clock r s wallet debt = .ok (s', debt')) :
    Still s s' ∧ s'.holds = s.holds ∧ debt'.flag = debt.flag ∧
      debt'.requestedMinor = debt.requestedMinor ∧ debt'.amountMinor = debt.amountMinor := by
  rw [collectNow] at h
  split at h
  · cases h
    exact ⟨Still.refl s, rfl, rfl, rfl, rfl⟩
  · dsimp only at h
    split at h
    · split at h
      · cases h
      · cases h
        exact ⟨⟨rfl, rfl, rfl, rfl, rfl, fun _ => rfl⟩, rfl, rfl, rfl, rfl⟩
    · cases h
      exact ⟨Still.refl s, rfl, rfl, rfl, rfl⟩

/-- A recovery takes or leaves owed what was asked for, all of it. -/
theorem recoveredBy_of_recover (h : recover dir clock r flag s = .ok s') :
    RecoveredBy s s' flag.id r.amountMinor := by
  rw [recover] at h
  dsimp only at h
  split at h
  · cases h
  · obtain ⟨acc, hloop, hrest⟩ := Fallible.bind_eq_ok.mp h
    obtain ⟨⟨s₁, debt⟩, hcollect, hinsert⟩ := Fallible.bind_eq_ok.mp hrest
    obtain ⟨hstill, hholds, hflag, hrequested, hamount⟩ := collectNow_spec hcollect
    have hforfeits : Forfeits s flag.id r.amountMinor acc [] := by
      refine Fallible.foldlM_spec (I := Forfeits s flag.id r.amountMinor)
        (fun _ _ _ _ => forfeits_step) ⟨add_zero _, ?_, fun hold hmem => ?_, fun id => ?_⟩ hloop
      · exact s.holds.nodup.sublist (List.filter_sublist.map _)
      · obtain ⟨hrow, hhold⟩ := List.mem_filter.mp hmem
        simp only [Bool.and_eq_true, decide_eq_true_eq] at hhold
        exact ⟨Table.mem_iff_get?.mp hrow, hhold.1.1, hhold.2⟩
      · simp [Desk.forfeitedMinor]
    split at hinsert
    · cases hinsert
    · rename_i debts hnew
      cases hinsert
      -- the debt that is written, closed or not
      obtain ⟨final, hfinal⟩ : ∃ final, final = (if (debt.amountMinor = 0 && debt.closedAt.isNone) =
        true then { debt with closedAt := some clock } else debt) := ⟨_, rfl⟩
      have hfields : final.flag = flag.id ∧ final.requestedMinor = r.amountMinor ∧
          final.amountMinor = acc.remaining := by
        rw [hfinal]
        split
        · exact ⟨hflag, hrequested, hamount⟩
        · exact ⟨hflag, hrequested, hamount⟩
      dsimp only at hnew
      rw [← hfinal] at hnew
      have hdebts : s₁.debts = s.debts := hstill.debts
      rw [hdebts] at hnew
      obtain ⟨hfinalFlag, hfinalRequested, hfinalAmount⟩ := hfields
      refine ⟨Grown.of_eq hstill.entries hstill.referrals hstill.incentiveTrips hstill.flags,
        fun id => ?_, fun id => ?_⟩
      · have hsum := Table.sum_insert? hnew fun debt =>
          if debt.flag = id then debt.requestedMinor else 0
        rw [hfinalFlag, hfinalRequested] at hsum
        rw [Desk.usedMinor, hsum, Desk.usedMinor]
        by_cases hid : flag.id = id
        · rw [if_pos hid, if_pos hid.symm]
        · rw [if_neg hid, if_neg fun heq => hid heq.symm]
      · have hsum := Table.sum_insert? hnew fun debt =>
          if debt.flag = id then debt.amountMinor else 0
        have hforfeited := hforfeits.sum id
        rw [hfinalFlag, hfinalAmount] at hsum
        rw [Desk.takenOrOwed, Desk.forfeitedMinor, hsum, hholds, Desk.takenOrOwed, hforfeited]
        have hsplit := hforfeits.split
        by_cases hid : flag.id = id
        · rw [if_pos hid, if_pos hid.symm, if_pos hid.symm]
          omega
        · have hid' : ¬ id = flag.id := fun heq => hid heq.symm
          rw [if_neg hid, if_neg hid', if_neg hid']
          omega

end Recover

/-! ## One step -/

/-- No merge of references drops one, and between the reads of an execution and its transaction no
other recovery of the flag is executed. -/
def serial (w : World) : Act → Bool
  | .raise _ _ kind hit => (w.desk.activeFlag (kind, hit.subject)).all fun flag =>
      flag.evidence.refs.le (flag.append hit).evidence.refs
  | .exec worker _ =>
      match w.workers worker with
      | some (.cleared _ flag _ usedMinor) => usedMinor = w.desk.usedMinor flag.id
      | _ => true
  | _ => true

/-- A recovery is executed only of a flag that shares no reward with another flag that something
was recovered of. -/
def apart (dir : Directory) (w : World) : Act → Bool
  | .exec worker _ =>
      match w.workers worker with
      | some (.cleared _ flag _ _) => w.desk.flags.rows.all fun other =>
          other.id = flag.id || w.desk.usedMinor other.id ≤ 0 || w.desk.entries.rows.all fun e =>
            !(w.desk.linkedTo dir flag.id e && w.desk.linkedTo dir other.id e)
      | _ => true
  | _ => true

section Steps

variable {dir : Directory} {w : World} {s : Desk}

lemma onward_raiseHit {now days : ℕ} {kind : FlagKind} {hit : Hit}
    (hkeep : (s.activeFlag (kind, hit.subject)).all fun flag =>
      flag.evidence.refs.le (flag.append hit).evidence.refs) :
    Onward s (raiseHit dir now days kind hit s) := by
  rw [raiseHit]
  cases hactive : s.activeFlag (kind, hit.subject) with
  | some flag =>
      rw [hactive] at hkeep
      dsimp only
      split
      · have hget : s.flags.get? flag.id = some flag :=
          Table.mem_iff_get?.mp (List.mem_of_find?_eq_some hactive)
        exact Onward.saveAndHold_of_get? hget ⟨rfl, rfl, rfl, rfl, hkeep⟩
      · exact Onward.refl s
  | none =>
      dsimp only
      split
      · exact Onward.refl s
      · exact Onward.saveAndHold_new rfl

lemma onward_raiseFraudFlag {now days : ℕ} {referral : Referral} {strong : Bool} :
    Onward s (raiseFraudFlag dir now days referral strong s) := by
  rw [raiseFraudFlag]
  split
  · exact Onward.refl s
  · exact Onward.saveAndHold_new rfl

lemma onward_assign {id assignee : ℕ} : Onward s (assign id assignee s) := by
  rw [assign]
  split
  · rename_i flag hget
    split
    · exact Onward.put_flag_of_get? hget (Older.of_evidence rfl rfl rfl rfl)
    · exact Onward.refl s
  · exact Onward.refl s

lemma onward_unassign {id : ℕ} : Onward s (unassign id s) := by
  rw [unassign]
  split
  · rename_i flag hget
    split
    · exact Onward.put_flag_of_get? hget (Older.of_evidence rfl rfl rfl rfl)
    · exact Onward.refl s
  · exact Onward.refl s

lemma onward_decideFlag {now days id : ℕ} {confirm : Bool} {reason : DecisionReason} :
    Onward s (decideFlag now days id confirm reason s) := by
  rw [decideFlag]
  by_cases hreason : reason ∉ (if confirm then confirmReasons else dismissReasons)
  · rw [if_pos hreason]
    exact Onward.refl s
  · rw [if_neg hreason]
    split
    · rename_i flag hget
      dsimp only
      split
      · refine Onward.trans ?_ (Onward.of_still (Still.onDecision now days _ _))
        exact Onward.put_flag_of_get? hget (Older.of_evidence rfl rfl rfl rfl)
      · exact Onward.refl s
    · exact Onward.refl s

lemma onward_reopen {now days id : ℕ} : Onward s (reopen dir now days id s) := by
  rw [reopen]
  split
  · rename_i flag hget
    split
    · exact Onward.refl s
    · split
      · exact Onward.refl s
      · exact Onward.saveAndHold_of_get? hget (Older.of_evidence rfl rfl rfl rfl)
  · exact Onward.refl s

lemma onward_releaseDue {now hold : ℕ} : Onward s (releaseDue now hold s) := by
  rw [releaseDue]
  split
  · split
    · exact Onward.of_still (Still.changeHeld released (fun _ => rfl)
        (fun _ _ => show WeeklyPayout.HoldStatus.released ≠ .forfeited by decide) _ _)
    · exact Onward.refl s
  · exact Onward.refl s

lemma key_recover (debt : RecoveryDebt) (clock : ℕ) (amount : ℤ) :
    (debt.toRecoveryDebt.recover clock amount).approvalRequest = debt.approvalRequest ∧
      (debt.toRecoveryDebt.recover clock amount).amountMinor = debt.amountMinor := by
  rw [WeeklyPayout.RecoveryDebt.recover]
  dsimp only
  split
  · exact ⟨rfl, rfl⟩
  · exact ⟨rfl, rfl⟩

lemma onward_collect {request clock : ℕ} {amount : ℤ} :
    Onward s (collect request clock amount s) := by
  rw [collect]
  split
  · rename_i debt hget
    obtain ⟨hkey, hamount⟩ := key_recover debt clock amount
    have hget' : s.debts.get? ({ debt with
        toRecoveryDebt := debt.toRecoveryDebt.recover clock amount }).key = some debt := by
      have hpk : debt.key = request := Table.pk_of_get? hget
      rw [RecoveryDebt.key, hkey]
      exact (congrArg s.debts.get? hpk).trans hget
    refine ⟨Grown.of_eq rfl rfl rfl rfl, fun flag => ?_, fun flag => ?_⟩
    · have hsum := Table.sum_put hget' fun debt => if debt.flag = flag then debt.requestedMinor else 0
      rw [sub_add_cancel] at hsum
      exact hsum
    · have hsum := Table.sum_put hget' fun debt => if debt.flag = flag then debt.amountMinor else 0
      rw [hamount, sub_add_cancel] at hsum
      exact congrArg (s.forfeitedMinor flag + ·) hsum
  · exact Onward.refl s

lemma onward_finish {id : ℕ} {status : ApprovalStatus} : Onward s (s.finish id status) := by
  rw [Desk.finish]
  split
  · split
    · exact Onward.of_grown (Grown.of_eq rfl rfl rfl rfl) rfl rfl
    · exact Onward.refl s
  · exact Onward.refl s

lemma decideRequest_spec {id : ℕ} {status : ApprovalStatus} {r : RecoveryRequest} {s' : Desk}
    (h : s.decideRequest id status = some (r, s')) : Onward s s' ∧ r.status = status := by
  rw [Desk.decideRequest] at h
  split at h
  · split at h
    · cases h
      exact ⟨Onward.of_grown (Grown.of_eq rfl rfl rfl rfl) rfl rfl, rfl⟩
    · cases h
  · cases h

lemma onward_raiseRequest {draft : Draft} {key : String} : Onward s (raiseRequest draft key s) := by
  rw [raiseRequest]
  split
  · exact Onward.refl s
  · exact Onward.of_grown (Grown.of_eq rfl rfl rfl rfl) rfl rfl

/-- A move of an execution: nothing is recovered, or all that was asked for. -/
lemma execute_cases (worker clock : ℕ) (place : Worker) :
    Onward w.desk (w.execute dir worker clock place).desk ∨
      ∃ r flag linkedMinor usedMinor, place = .cleared r flag linkedMinor usedMinor ∧
        RecoveredBy w.desk (w.execute dir worker clock place).desk flag.id r.amountMinor := by
  cases place with
  | asking draft => exact .inl (Onward.refl _)
  | executing r =>
      left
      rw [World.execute]
      split
      · exact onward_finish
      · split
        · exact onward_finish
        · split
          · exact onward_finish
          · exact Onward.refl _
  | reading r flag =>
      left
      rw [World.execute]
      split
      · exact Onward.refl _
      · exact onward_finish
  | linked r flag linkedMinor => exact .inl (Onward.refl _)
  | used r flag linkedMinor usedMinor =>
      left
      rw [World.execute]
      split
      · exact onward_finish
      · exact Onward.refl _
  | cleared r flag linkedMinor usedMinor =>
      rw [World.execute]
      cases hrecover : recover dir clock r flag w.desk with
      | error e => exact .inl onward_finish
      | ok desk =>
          have hrecovered := recoveredBy_of_recover hrecover
          have hfinish : Onward desk (desk.finish r.id .executed) := onward_finish
          refine .inr ⟨r, flag, linkedMinor, usedMinor, rfl, hrecovered.grown.trans hfinish.grown,
            fun id => ?_, fun id => ?_⟩
          · exact (hfinish.unrecovered.used id).trans (hrecovered.used id)
          · exact (hfinish.unrecovered.taken id).trans (hrecovered.taken id)

/-- A step recovers nothing, or it is the transaction of an execution. -/
theorem step_cases (dir : Directory) {a : Act} (hserial : serial w a = true) :
    Onward w.desk (step dir w a).desk ∨
      ∃ worker clock r flag linkedMinor usedMinor, a = .exec worker clock ∧
        w.workers worker = some (.cleared r flag linkedMinor usedMinor) ∧
        RecoveredBy w.desk (step dir w a).desk flag.id r.amountMinor := by
  -- of the steps that move money, only the execution of an approved request is a recovery
  cases a with
  | raise now days kind hit => exact .inl (onward_raiseHit hserial)
  | raiseReferral now days referral strong => exact .inl onward_raiseFraudFlag
  | assign flag assignee => exact .inl onward_assign
  | unassign flag => exact .inl onward_unassign
  | decide now days flag confirm reason => exact .inl onward_decideFlag
  | reopen now days flag => exact .inl onward_reopen
  | releaseDue now hold => exact .inl onward_releaseDue
  | ask worker flag amountMinor granted placed note =>
      left
      rw [step]
      split
      · exact Onward.refl _
      · split
        · exact Onward.refl _
        · exact Onward.refl _
  | insert worker key =>
      left
      rw [step]
      split
      · exact onward_raiseRequest
      · exact Onward.refl _
  | approve worker request =>
      left
      rw [step]
      split
      · rename_i hdecide
        exact (decideRequest_spec hdecide).1
      · exact Onward.refl _
  | close request status =>
      left
      rw [step]
      split
      · split
        · rename_i hdecide
          exact (decideRequest_spec hdecide).1
        · exact Onward.refl _
      · exact Onward.refl _
  | exec worker clock =>
      rw [step]
      cases hplace : w.workers worker with
      | none => exact .inl (Onward.refl _)
      | some place =>
          rcases execute_cases worker clock place with honward | ⟨r, flag, l, u, rfl, hrecovered⟩
          · exact .inl honward
          · exact .inr ⟨worker, clock, r, flag, l, u, rfl, hplace, hrecovered⟩
  | die worker => exact .inl (Onward.refl _)
  | collect request clock amount => exact .inl onward_collect
  | reward e =>
      left
      rw [step]
      split
      · rename_i entries hinsert
        refine Onward.of_grown ⟨⟨[e], (Table.rows_of_insert? hinsert).1⟩, List.Subset.refl _,
          List.Subset.refl _, fun _ flag hflag => ⟨flag, hflag, Older.refl flag⟩⟩ rfl rfl
      · exact Onward.refl _
  | refer referral =>
      exact .inl (Onward.of_grown ⟨⟨[], (List.append_nil _).symm⟩, List.subset_append_left _ _,
        List.Subset.refl _, fun _ flag hflag => ⟨flag, hflag, Older.refl flag⟩⟩ rfl rfl)
  | count trip =>
      exact .inl (Onward.of_grown ⟨⟨[], (List.append_nil _).symm⟩, List.Subset.refl _,
        List.subset_append_left _ _, fun _ flag hflag => ⟨flag, hflag, Older.refl flag⟩⟩ rfl rfl)
  | withdraw request => exact .inl (Onward.of_grown (Grown.of_eq rfl rfl rfl rfl) rfl rfl)
  | otherMoney wallets => exact .inl (Onward.of_grown (Grown.of_eq rfl rfl rfl rfl) rfl rfl)

end Steps

/-! ## Runs -/

def Read (s : Desk) (r : RecoveryRequest) (flag : RiskFlag) : Prop :=
  r.status = .approved ∧ ∃ now, s.flags.get? flag.id = some now ∧ Older flag now

/-- What a worker has read still bounds what is linked. -/
def Reads (dir : Directory) (s : Desk) : Worker → Prop
  | .asking _ => True
  | .executing r => r.status = .approved
  | .reading r flag => Read s r flag
  | .linked r flag linkedMinor => Read s r flag ∧ linkedMinor ≤ s.distinctMinor dir {flag.id}
  | .used r flag linkedMinor _ => Read s r flag ∧ linkedMinor ≤ s.distinctMinor dir {flag.id}
  | .cleared r flag linkedMinor usedMinor =>
      (Read s r flag ∧ linkedMinor ≤ s.distinctMinor dir {flag.id}) ∧
        r.amountMinor ≤ linkedMinor - usedMinor

/-- What holds along every run: what is taken or owed is what was asked for, and the workers'
reads. -/
structure Kept (dir : Directory) (w : World) : Prop where
  booked : ∀ flag, w.desk.takenOrOwed flag = w.desk.usedMinor flag
  reads : ∀ n place, w.workers n = some place → Reads dir w.desk place

section Runs

variable {dir : Directory} {w : World} {s s' : Desk}

lemma Grown.read (h : Grown s s') {r : RecoveryRequest} {flag : RiskFlag} (hread : Read s r flag) :
    Read s' r flag := by
  obtain ⟨hstatus, now, hnow, holder⟩ := hread
  obtain ⟨now', hnow', holder'⟩ := h.flags flag.id now hnow
  exact ⟨hstatus, now', hnow', holder.trans holder'⟩

lemma Grown.reads (h : Grown s s') {place : Worker} (hreads : Reads dir s place) :
    Reads dir s' place := by
  cases place with
  | asking draft => trivial
  | executing r => exact hreads
  | reading r flag => exact h.read hreads
  | linked r flag linkedMinor => exact ⟨h.read hreads.1, hreads.2.trans (h.distinctMinor_le _)⟩
  | used r flag linkedMinor usedMinor =>
      exact ⟨h.read hreads.1, hreads.2.trans (h.distinctMinor_le _)⟩
  | cleared r flag linkedMinor usedMinor =>
      exact ⟨⟨h.read hreads.1.1, hreads.1.2.trans (h.distinctMinor_le _)⟩, hreads.2⟩

lemma linkedMinor_le {r : RecoveryRequest} {flag : RiskFlag} (h : Read s r flag) :
    s.linkedMinor dir flag ≤ s.distinctMinor dir {flag.id} := by
  obtain ⟨-, now, hnow, holder⟩ := h
  have hid : now.id = flag.id := holder.id
  rw [← hid] at hnow ⊢
  rw [distinctMinor_singleton hnow, linkedMinor_eq_sum, linkedMinor_eq_sum]
  refine List.sum_le_sum fun e _ => ?_
  have hpos := e.positive
  by_cases hlinked : s.linked dir flag e = true
  · rw [if_pos hlinked, if_pos ((Grown.refl s).linked holder hlinked)]
  · rw [if_neg hlinked]
    split
    · exact hpos.le
    · exact le_rfl

lemma pendingMinor_nonneg (flag : ℕ) : 0 ≤ s.pendingMinor flag := by
  refine Table.sum_nonneg fun r _ => ?_
  split
  · exact r.positive.le
  · exact le_rfl

lemma workers_goto {n worker : ℕ} {place : Option Worker} {place' : Worker}
    (h : (w.goto worker place).workers n = some place') :
    w.workers n = some place' ∨ place = some place' := by
  rw [World.goto] at h
  dsimp only at h
  by_cases hn : n = worker
  · rw [hn, Function.update_self] at h
    exact .inr h
  · rw [Function.update_of_ne hn] at h
    exact .inl h

lemma workers_done {n worker request : ℕ} {status : ApprovalStatus} {place' : Worker}
    (h : (w.done worker request status).workers n = some place') :
    w.workers n = some place' := by
  rw [World.done] at h
  dsimp only at h
  by_cases hn : n = worker
  · rw [hn, Function.update_self] at h
    cases h
  · rwa [Function.update_of_ne hn] at h

/-- Where a move of an execution leads, the reads are good. -/
lemma reads_execute {n worker clock : ℕ} {place place' : Worker} (hplace : Reads dir w.desk place)
    (h : (w.execute dir worker clock place).workers n = some place') :
    w.workers n = some place' ∨ Reads dir w.desk place' := by
  cases place with
  | asking draft => exact .inl h
  | executing r =>
      rw [World.execute] at h
      split at h
      · exact .inl (workers_done h)
      · rename_i flag hget
        split at h
        · exact .inl (workers_done h)
        · split at h
          · exact .inl (workers_done h)
          · rcases workers_goto h with hold | hnew
            · exact .inl hold
            · cases hnew
              have hid : flag.id = r.flag := Table.pk_of_get? hget
              exact .inr ⟨hplace, flag, by rw [hid, hget], Older.refl flag⟩
  | reading r flag =>
      rw [World.execute] at h
      split at h
      · rcases workers_goto h with hold | hnew
        · exact .inl hold
        · cases hnew
          exact .inr ⟨hplace, linkedMinor_le hplace⟩
      · exact .inl (workers_done h)
  | linked r flag linkedMinor =>
      rcases workers_goto h with hold | hnew
      · exact .inl hold
      · cases hnew
        exact .inr hplace
  | used r flag linkedMinor usedMinor =>
      rw [World.execute] at h
      split at h
      · exact .inl (workers_done h)
      · rename_i hcap
        rcases workers_goto h with hold | hnew
        · exact .inl hold
        · cases hnew
          have hown : r.ownPending = 0 := if_neg fun hrequested => by
            rw [hplace.1.1] at hrequested
            cases hrequested
          have hpending := pendingMinor_nonneg (s := w.desk) flag.id
          have hpos := r.positive
          refine .inr ⟨hplace, ?_⟩
          omega
  | cleared r flag linkedMinor usedMinor =>
      rw [World.execute] at h
      split at h
      · have hold := workers_done h
        exact .inl hold
      · exact .inl (workers_done h)

lemma reads_new {a : Act} (hreads : ∀ n place, w.workers n = some place → Reads dir w.desk place)
    {n : ℕ} {place : Worker} (h : (step dir w a).workers n = some place) :
    w.workers n = some place ∨ Reads dir w.desk place := by
  -- only the steps of the worker itself give it a place
  cases a with
  | ask worker flag amountMinor granted placed note =>
      rw [step] at h
      split at h
      · exact .inl h
      · split at h
        · exact .inl h
        · rcases workers_goto h with hold | hnew
          · exact .inl hold
          · cases hnew
            exact .inr trivial
  | insert worker key =>
      rw [step] at h
      split at h
      · rcases workers_goto h with hold | hnew
        · exact .inl hold
        · cases hnew
      · exact .inl h
  | approve worker request =>
      rw [step] at h
      split at h
      · rename_i r desk hdecide
        rcases workers_goto h with hold | hnew
        · exact .inl hold
        · cases hnew
          exact .inr (decideRequest_spec hdecide).2
      · exact .inl h
  | close request status =>
      rw [step] at h
      split at h
      · split at h
        · exact .inl h
        · exact .inl h
      · exact .inl h
  | exec worker clock =>
      rw [step] at h
      cases hplace : w.workers worker with
      | none =>
          rw [hplace] at h
          exact .inl h
      | some place' =>
          rw [hplace] at h
          exact reads_execute (hreads worker place' hplace) h
  | die worker =>
      rcases workers_goto h with hold | hnew
      · exact .inl hold
      · cases hnew
  | reward e =>
      rw [step] at h
      split at h
      · exact .inl h
      · exact .inl h
  | _ => exact .inl h

/-- A step keeps the books and the workers' reads. -/
theorem kept_step {a : Act} (hserial : serial w a = true) (h : Kept dir w) :
    Kept dir (step dir w a) := by
  have hgrown : Grown w.desk (step dir w a).desk := by
    rcases step_cases dir hserial with honward | ⟨_, _, _, _, _, _, -, -, hrecovered⟩
    · exact honward.grown
    · exact hrecovered.grown
  constructor
  · intro flag
    rcases step_cases dir hserial with honward | ⟨_, _, _, _, _, _, -, -, hrecovered⟩
    · rw [honward.unrecovered.taken, honward.unrecovered.used, h.booked]
    · rw [hrecovered.taken, hrecovered.used, h.booked]
  · intro n place hplace
    rcases reads_new h.reads hplace with hold | hnew
    · exact hgrown.reads (h.reads n place hold)
    · exact hgrown.reads hnew

/-- At the transaction of an execution the flag still allows the amount. -/
lemma used_add_le {worker clock : ℕ} {r : RecoveryRequest} {flag : RiskFlag}
    {linkedMinor usedMinor : ℤ} (h : Kept dir w)
    (hplace : w.workers worker = some (.cleared r flag linkedMinor usedMinor))
    (hserial : serial w (.exec worker clock) = true) :
    w.desk.usedMinor flag.id + r.amountMinor ≤ w.desk.distinctMinor dir {flag.id} := by
  obtain ⟨⟨-, hlinked⟩, hamount⟩ := h.reads worker _ hplace
  rw [serial, hplace] at hserial
  have hused : usedMinor = w.desk.usedMinor flag.id := of_decide_eq_true hserial
  omega

lemma own_step {a : Act} (hserial : serial w a = true) (h : Kept dir w)
    (hown : ∀ flag, w.desk.usedMinor flag ≤ w.desk.distinctMinor dir {flag}) (flag : ℕ) :
    (step dir w a).desk.usedMinor flag ≤ (step dir w a).desk.distinctMinor dir {flag} := by
  rcases step_cases dir hserial with
    honward | ⟨worker, clock, r, found, l, u, rfl, hplace, hrecovered⟩
  · rw [honward.unrecovered.used]
    exact (hown flag).trans (honward.grown.distinctMinor_le _)
  · refine le_trans ?_ (hrecovered.grown.distinctMinor_le _)
    rw [hrecovered.used]
    by_cases hflag : flag = found.id
    · rw [if_pos hflag, hflag]
      exact used_add_le h hplace hserial
    · rw [if_neg hflag, add_zero]
      exact hown flag

lemma within_step {a : Act} (hserial : serial w a = true) (hapart : apart dir w a = true)
    (h : Kept dir w) (hwithin : ∀ flags : Finset ℕ,
      ∑ flag ∈ flags, w.desk.usedMinor flag ≤ w.desk.distinctMinor dir flags) (flags : Finset ℕ) :
    ∑ flag ∈ flags, (step dir w a).desk.usedMinor flag ≤
      (step dir w a).desk.distinctMinor dir flags := by
  rcases step_cases dir hserial with
    honward | ⟨worker, clock, r, found, l, u, rfl, hplace, hrecovered⟩
  · have hsame : ∑ flag ∈ flags, (step dir w a).desk.usedMinor flag =
        ∑ flag ∈ flags, w.desk.usedMinor flag :=
      Finset.sum_congr rfl fun flag _ => honward.unrecovered.used flag
    rw [hsame]
    exact (hwithin flags).trans (honward.grown.distinctMinor_le _)
  · have hgrant := Covered.Within.grant hwithin found.id r.amountMinor
      (fun e _ => e.positive.le) (used_add_le h hplace hserial) (fun j hj hused e he hlinked => ?_)
    · have hsame : ∑ flag ∈ flags, (step dir w (.exec worker clock)).desk.usedMinor flag =
          ∑ flag ∈ flags, Function.update w.desk.usedMinor found.id
            (w.desk.usedMinor found.id + r.amountMinor) flag := by
        refine Finset.sum_congr rfl fun flag _ => ?_
        rw [hrecovered.used]
        by_cases hflag : flag = found.id
        · rw [if_pos hflag, hflag, Function.update_self]
        · rw [if_neg hflag, add_zero, Function.update_of_ne hflag]
      rw [hsame]
      exact (hgrant flags).trans (hrecovered.grown.distinctMinor_le _)
    · -- a flag that shares the reward is one of the table
      rw [apart, hplace] at hapart
      by_contra hshared
      rw [Bool.not_eq_false] at hshared
      obtain ⟨other, hother, -⟩ : ∃ other, w.desk.flags.get? j = some other ∧
          w.desk.linked dir other e = true := by
        rwa [Desk.linkedTo, Option.any_eq_true] at hshared
      have hid : other.id = j := Table.pk_of_get? hother
      have hall := List.all_eq_true.mp hapart other (Table.mem_of_get? hother).1
      rw [hid, Bool.or_eq_true, Bool.or_eq_true, decide_eq_true_eq, decide_eq_true_eq] at hall
      rcases hall with (heq | hnone) | hall
      · exact hj heq
      · omega
      · have hnot := List.all_eq_true.mp hall e he
        rw [hlinked, hshared] at hnot
        cases hnot

/-- Nothing was recovered yet, and no worker is under way. -/
structure Fresh (w : World) : Prop where
  debts : w.desk.debts.rows = []
  holds : ∀ hold ∈ w.desk.holds.rows, hold.status ≠ .forfeited
  workers : ∀ n, w.workers n = none

namespace Fresh

lemma used (h : Fresh w) (flag : ℕ) : w.desk.usedMinor flag = 0 := by
  rw [Desk.usedMinor, Table.sum, h.debts]
  rfl

lemma kept (h : Fresh w) : Kept dir w := by
  constructor
  · intro flag
    have hforfeited : w.desk.forfeitedMinor flag = 0 :=
      Table.sum_eq_zero fun hold hhold => forfeitedFor_of_ne (h.holds hold hhold)
    rw [h.used, Desk.takenOrOwed, hforfeited, Table.sum, h.debts]
    rfl
  · intro n place hplace
    rw [h.workers] at hplace
    cases hplace

lemma distinctMinor_nonneg (flags : Finset ℕ) : 0 ≤ w.desk.distinctMinor dir flags :=
  Covered.cover_nonneg (fun e _ => e.positive.le) flags

end Fresh

end Runs

/-- From a desk without recoveries: while no merge drops a reference and the recoveries of one flag
do not overlap, each flag keeps to its linked rewards; while besides no two flags with a recovery
share a reward, any flags together keep to their distinct rewards. -/
theorem recovered_within {dir : Directory} {w : World} (h : Fresh w) (acts : List Act) :
    (Transition.Guarded (step dir) (fun w a => serial w a = true) w acts →
      ∀ flag ∈ (Transition.run (step dir) w acts).desk.flags.rows,
        (Transition.run (step dir) w acts).desk.takenOrOwed flag.id ≤
          (Transition.run (step dir) w acts).desk.linkedMinor dir flag) ∧
    (Transition.Guarded (step dir) (fun w a => serial w a = true ∧ apart dir w a = true) w acts →
      ∀ flags : Finset ℕ,
        ∑ flag ∈ flags, (Transition.run (step dir) w acts).desk.takenOrOwed flag ≤
          (Transition.run (step dir) w acts).desk.distinctMinor dir flags) := by
  constructor
  · intro hguarded flag hflag
    have hend := Transition.invariant_of_guarded (I := fun w => Kept dir w ∧
        ∀ flag, w.desk.usedMinor flag ≤ w.desk.distinctMinor dir {flag})
      (fun w a hserial hI => ⟨kept_step hserial hI.1, own_step hserial hI.1 hI.2⟩)
      ⟨h.kept, fun flag => by rw [h.used]; exact Fresh.distinctMinor_nonneg _⟩ hguarded
    rw [hend.1.booked, ← distinctMinor_singleton (Table.mem_iff_get?.mp hflag)]
    exact hend.2 flag.id
  · intro hguarded flags
    have hend := Transition.invariant_of_guarded (I := fun w => Kept dir w ∧
        ∀ flags : Finset ℕ,
          ∑ flag ∈ flags, w.desk.usedMinor flag ≤ w.desk.distinctMinor dir flags)
      (fun w a hok hI => ⟨kept_step hok.1 hI.1, within_step hok.1 hok.2 hI.1 hI.2⟩)
      ⟨h.kept, fun flags => ?_⟩ hguarded
    · rw [Finset.sum_congr rfl fun flag _ => hend.1.booked flag]
      exact hend.2 flags
    · rw [Finset.sum_congr rfl fun flag _ => h.used flag, Finset.sum_const_zero]
      exact Fresh.distinctMinor_nonneg _

/-! ### Two flags for one reward -/

/-- Nobody drives. -/
def ridersOnly : Directory where
  isDriver := fun _ => false
  driverOf := fun _ => none

/-- A flag on the rider 7 that waits for a decision. -/
def openFlag (id : ℕ) (kind : FlagKind) : RiskFlag where
  id := id
  subject := 7
  kind := kind
  evidence := ⟨some 41, ⟨[8], [], []⟩⟩
  status := .opened
  sourceRef := none
  dedupeKey := none
  severity := .high
  score := 80
  assignedTo := none
  decisionReason := none

/-- The rider 7 got fifty rupees for referring the rider 8, and two flags link the reward. -/
def oneReward : World where
  desk := {
    flags := (Table.empty.put (openFlag 1 .referralAbuse)).put (openFlag 2 .multiAccounting)
    entries := Table.empty.put ⟨1, .referralReward, 5, 7, 5000, .inr, .referrer 41, 100, by decide⟩
    referrals := [⟨41, 5, 7, 8⟩]
    incentiveTrips := []
    withdrawals := []
    holds := .empty
    requests := .empty
    debts := .empty
    wallets := Table.empty.put ⟨7, .rider, 20000, .inr⟩
    takings := .empty }
  workers := fun _ => none

/-- A worker is asked to recover fifty rupees of a flag, and the request is raised. -/
def askFifty (worker flag : ℕ) : List Act :=
  [.ask worker flag 5000 true true "shared phone", .insert worker "k"]

def approveAndRead (worker request : ℕ) : List Act :=
  .approve worker request :: List.replicate 4 (.exec worker 200)

/-- Each flag recovers the reward, one after the other. -/
def recoverTwice : List Act :=
  [.decide 150 7 1 true .promoAbuse, .decide 150 7 2 true .promoAbuse] ++
    askFifty 1 1 ++ approveAndRead 1 1 ++ [.exec 1 200] ++
    askFifty 2 2 ++ approveAndRead 2 2 ++ [.exec 2 200]

/-- The second recovery of one flag is asked for and read while the first is executed. -/
def recoverAtOnce : List Act :=
  [.decide 150 7 1 true .promoAbuse] ++ askFifty 1 1 ++ [.approve 1 1] ++
    [.ask 2 1 5000 true true "shared phone", .insert 2 "k2"] ++ approveAndRead 2 2 ++
    List.replicate 5 (.exec 1 200) ++ [.exec 2 200]

def deskAfter (acts : List Act) : Desk := (Transition.run (step ridersOnly) oneReward acts).desk

/-- The reward of fifty rupees is recovered twice: through two flags, and through one flag whose
recoveries overlap. -/
theorem recovered_twice :
    ((deskAfter recoverTwice).distinctMinor ridersOnly {1, 2} = 5000 ∧
      (deskAfter recoverTwice).takenOrOwed 1 + (deskAfter recoverTwice).takenOrOwed 2 = 10000) ∧
    ((deskAfter recoverAtOnce).distinctMinor ridersOnly {1} = 5000 ∧
      (deskAfter recoverAtOnce).takenOrOwed 1 = 10000) := by
  decide +kernel

/-- Only the first flag recovers. -/
def recoverOnce : List Act :=
  [.decide 150 7 1 true .promoAbuse, .decide 150 7 2 true .promoAbuse] ++
    askFifty 1 1 ++ approveAndRead 1 1 ++ [.exec 1 200]

/-- What the first flag recovers is the reward, and no set of flags has more. -/
theorem recovered_within_once : (deskAfter recoverOnce).takenOrOwed 1 = 5000 ∧
    (∀ flag ∈ (deskAfter recoverOnce).flags.rows, (deskAfter recoverOnce).takenOrOwed flag.id ≤
      (deskAfter recoverOnce).linkedMinor ridersOnly flag) ∧
    ∀ flags : Finset ℕ, ∑ flag ∈ flags, (deskAfter recoverOnce).takenOrOwed flag ≤
      (deskAfter recoverOnce).distinctMinor ridersOnly flags := by
  have hfresh : Fresh oneReward := ⟨rfl, fun _ h => absurd h List.not_mem_nil, fun _ => rfl⟩
  exact ⟨by decide +kernel, (recovered_within hfresh recoverOnce).1 (by decide +kernel),
    (recovered_within hfresh recoverOnce).2 (by decide +kernel)⟩

end SaaradhiGo.Fraud
