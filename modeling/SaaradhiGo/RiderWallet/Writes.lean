/-
What the writes on the wallets do.

`Covered` is the invariant of the wallets: what is held of a rider's rewards is in the rider's
balance, and no key stands on two rows.  `Forward` is what may lie between two moments: balances
move by what the ledger books, and what is completed or decided stays.  `Moved` is what a session
leaves alone without the locks it has.
-/
import SaaradhiGo.RiderWallet.Movements

namespace SaaradhiGo.RiderWallet

open TwoPhase SaaradhiGo.Money SaaradhiGo.Fraud

/-- Adding a row changes a sum by the row. -/
lemma sum_put_new {ρ ι : Type*} [DecidableEq ι] {pk : ρ → ι} {t : Table pk} {r : ρ}
    (h : t.get? (pk r) = none) (f : ρ → ℤ) : (t.put r).sum f = t.sum f + f r :=
  Table.sum_insert? (Table.insert?_eq_some.mpr ⟨h, rfl⟩) f

lemma get?_nextKey {ρ : Type*} {pk : ρ → ℕ} (t : Table pk) : t.get? t.nextKey = none :=
  Table.get?_eq_none_iff.mpr (Table.nextKey_notMem t)

/-- A row is kept when one with a new key is added. -/
lemma get?_put_of_some {ρ ι : Type*} [DecidableEq ι] {pk : ρ → ι} {t : Table pk} {r x : ρ} {i : ι}
    (hr : t.get? (pk r) = none) (h : t.get? i = some x) : (t.put r).get? i = some x := by
  have hne : i ≠ pk r := fun he => by simp [he, hr] at h
  rw [Table.get?_put_of_ne t hne, h]

/-! ## What is kept -/

/-- The rewards under review are in the balances of their riders, and a key stands on one row. -/
structure Covered (db : Db) : Prop where
  positive : ∀ h ∈ db.holds.rows, 0 < h.amountMinor
  backed : ∀ h ∈ db.holds.rows, h.ofDriver = false ∧
    (h.status = .held → ∃ w, db.wallet? h.user = some w ∧ w.currency = h.currency)
  covered : ∀ user w, db.wallet? user = some w → db.heldMinor user w.currency ≤ w.balanceMinor
  /-- nothing is pending that would take -/
  pending : ∀ e ∈ db.entries.rows, e.status ≠ .completed → 0 ≤ e.amountMinor
  keys : Table.UniqueOn WalletTransaction.idempotencyKey db.entries.rows

/-- Between two moments. -/
structure Forward (s s' : Db) : Prop where
  books : ∀ user, s'.balanceMinor user - s.balanceMinor user =
    s'.bookedMinor user - s.bookedMinor user
  entries : ∀ id e, s.entries.get? id = some e →
    ∃ status, s'.entries.get? id = some { e with status } ∧
      (status = e.status ∨ e.status = .pending ∧ status = .completed)
  holds : ∀ id h, s.holds.get? id = some h →
    ∃ h', s'.holds.get? id = some h' ∧ h'.user = h.user ∧ h'.amountMinor = h.amountMinor ∧
      h'.ledgerEntry = h.ledgerEntry ∧ (h.status ≠ .held → h' = h)
  debts : ∀ request d, s.debts.get? request = some d → s'.debts.get? request = some d

/-- What a session does that has the rows `held`. -/
structure Moved (held : Set Key) (s s' : Db) : Prop where
  wallets : ∀ user, .wallet user ∉ held → s'.wallet? user = s.wallet? user
  heldMinor : ∀ user, .wallet user ∉ held → ∀ c, s'.heldMinor user c ≤ s.heldMinor user c
  holds : ∀ id h, .hold id ∉ held → s.holds.get? id = some h → s'.holds.get? id = some h
  entries : ∀ id e, .entry id ∉ held → s.entries.get? id = some e → s'.entries.get? id = some e

section Steps

variable {s t u s' : Db} {held held' : Set Key} {user user' : ℕ} {w : Wallet}

lemma Forward.refl (s : Db) : Forward s s where
  books := fun _ => by rw [Int.sub_self, Int.sub_self]
  entries := fun _ e h => ⟨e.status, h, .inl rfl⟩
  holds := fun _ h hh => ⟨h, hh, rfl, rfl, rfl, fun _ => rfl⟩
  debts := fun _ _ h => h

lemma Forward.trans (h : Forward s t) (h' : Forward t u) : Forward s u where
  books := by
    intro user
    have h₁ := h.books user
    have h₂ := h'.books user
    omega
  entries := by
    intro id e he
    obtain ⟨st, hst, rfl | ⟨hpending, rfl⟩⟩ := h.entries id e he
    · obtain ⟨st', hst', hturn⟩ := h'.entries id _ hst
      exact ⟨st', hst', hturn⟩
    · obtain ⟨st', hst', hsame | ⟨hnot, -⟩⟩ := h'.entries id _ hst
      · exact ⟨st', hst', .inr ⟨hpending, hsame⟩⟩
      · cases hnot
  holds := by
    intro id r hr
    obtain ⟨r', hr', huser, hamount, hentry, hfinal⟩ := h.holds id r hr
    obtain ⟨r'', hr'', huser', hamount', hentry', hfinal'⟩ := h'.holds id r' hr'
    refine ⟨r'', hr'', huser'.trans huser, hamount'.trans hamount, hentry'.trans hentry, ?_⟩
    intro hdone
    have hsame := hfinal hdone
    rw [hsame] at hfinal'
    exact hfinal' hdone
  debts := fun r d hd => h'.debts r d (h.debts r d hd)

lemma Moved.refl (held : Set Key) (s : Db) : Moved held s s :=
  ⟨fun _ _ => rfl, fun _ _ _ => le_rfl, fun _ _ _ h => h, fun _ _ _ h => h⟩

lemma Moved.trans (h : Moved held s t) (h' : Moved held t u) : Moved held s u where
  wallets := fun v hv => (h'.wallets v hv).trans (h.wallets v hv)
  heldMinor := fun v hv c => (h'.heldMinor v hv c).trans (h.heldMinor v hv c)
  holds := fun i r hi hr => h'.holds i r hi (h.holds i r hi hr)
  entries := fun i e hi he => h'.entries i e hi (h.entries i e hi he)

lemma Moved.mono (hsub : held ⊆ held') (h : Moved held s t) : Moved held' s t where
  wallets := fun v hv => h.wallets v fun hmem => hv (hsub hmem)
  heldMinor := fun v hv => h.heldMinor v fun hmem => hv (hsub hmem)
  holds := fun i r hi => h.holds i r fun hmem => hi (hsub hmem)
  entries := fun i e hi => h.entries i e fun hmem => hi (hsub hmem)

/-! ## Wallets -/

lemma getWallet_of_wallet? (h : s.wallet? user = some w) : s.wallets.getWallet user .rider = w :=
  Wallets.getWallet_of_get? h

lemma balanceMinor_of_wallet? (h : s.wallet? user = some w) :
    s.balanceMinor user = w.balanceMinor := by
  rw [Db.balanceMinor, getWallet_of_wallet? h]

lemma balanceMinor_congr (h : s'.wallet? user = s.wallet? user) :
    s'.balanceMinor user = s.balanceMinor user := by
  rw [Db.wallet?, Db.wallet?] at h
  rw [Db.balanceMinor, Db.balanceMinor, Wallets.getWallet, Wallets.getWallet, h]

lemma wallet?_put {w : Wallet} (hw : w.key = (user, .rider)) (user' : ℕ) :
    (s.saveWallet w).wallet? user' = if user' = user then some w else s.wallet? user' := by
  rw [Db.wallet?, Db.saveWallet, Table.get?_put, hw]
  by_cases h : user' = user
  · rw [if_pos h, if_pos (by rw [h])]
  · rw [if_neg h, if_neg (by simpa using h)]
    rfl

lemma addMinor_eq_saveWallet (s : Db) (user : ℕ) (delta : ℤ) :
    s.addMinor user delta = s.saveWallet
      { s.wallets.getWallet user .rider with
        balanceMinor := (s.wallets.getWallet user .rider).balanceMinor + delta } := rfl

lemma wallet?_addMinor (s : Db) (user user' : ℕ) (delta : ℤ) :
    (s.addMinor user delta).wallet? user' =
      if user' = user then
        some { s.wallets.getWallet user .rider with
          balanceMinor := s.balanceMinor user + delta }
      else s.wallet? user' := by
  have hkey : ({ s.wallets.getWallet user .rider with
      balanceMinor := (s.wallets.getWallet user .rider).balanceMinor + delta } : Wallet).key =
      (user, .rider) := Wallets.key_getWallet _ _ _
  exact wallet?_put hkey user'

lemma balanceMinor_addMinor (user' : ℕ) (delta : ℤ) :
    (s.addMinor user delta).balanceMinor user' =
      s.balanceMinor user' + if user' = user then delta else 0 := by
  by_cases h : user' = user
  · subst h
    have hw := wallet?_addMinor s user' user' delta
    rw [if_pos rfl] at hw
    rw [balanceMinor_of_wallet? hw, if_pos rfl]
  · have hget := wallet?_addMinor s user user' delta
    rw [if_neg h] at hget
    rw [if_neg h, add_zero, balanceMinor_congr hget]

lemma heldMinor_eq_zero (hc : Covered s) (hw : s.wallet? user = none) (c : Currency) :
    s.heldMinor user c = 0 := by
  refine Table.sum_eq_zero fun h hh => ?_
  rw [Db.heldPart, if_neg]
  rintro ⟨huser, hheld, -, -⟩
  obtain ⟨w, hw', -⟩ := (hc.backed h hh).2 hheld
  rw [huser, hw] at hw'
  cases hw'

lemma heldPart_nonneg (hc : Covered s) {h : RewardHold} (hh : h ∈ s.holds.rows) (c : Currency) :
    0 ≤ Db.heldPart user c h := by
  rw [Db.heldPart]
  split
  · exact (hc.positive h hh).le
  · exact le_rfl

lemma heldMinor_nonneg (hc : Covered s) (c : Currency) : 0 ≤ s.heldMinor user c :=
  Table.sum_nonneg fun _ hh => heldPart_nonneg hc hh c

lemma heldMinor_le_balance (hc : Covered s) (user : ℕ) :
    s.heldMinor user (s.wallets.getWallet user .rider).currency ≤ s.balanceMinor user := by
  rcases hw : s.wallet? user with _ | w
  · rw [heldMinor_eq_zero hc hw, Db.balanceMinor, Wallets.getWallet]
    rw [Db.wallet?] at hw
    rw [hw]
    exact le_rfl
  · rw [getWallet_of_wallet? hw, balanceMinor_of_wallet? hw]
    exact hc.covered user w hw

lemma covered_saveWallet (hc : Covered s) {w : Wallet} (hkey : w.key = (user, .rider))
    (hcur : w.currency = (s.wallets.getWallet user .rider).currency)
    (hcov : s.heldMinor user w.currency ≤ w.balanceMinor) : Covered (s.saveWallet w) where
  positive := hc.positive
  backed := by
    intro h hh
    obtain ⟨hrole, hback⟩ := hc.backed h hh
    refine ⟨hrole, fun hheld => ?_⟩
    obtain ⟨w₀, hw₀, hcur₀⟩ := hback hheld
    rw [wallet?_put hkey]
    by_cases hu : h.user = user
    · rw [hu] at hw₀
      rw [getWallet_of_wallet? hw₀] at hcur
      exact ⟨w, if_pos hu, hcur.trans hcur₀⟩
    · exact ⟨w₀, (if_neg hu).trans hw₀, hcur₀⟩
  covered := by
    intro user' w' hw'
    rw [wallet?_put hkey] at hw'
    by_cases hu : user' = user
    · rw [if_pos hu, Option.some.injEq] at hw'
      rw [hu, ← hw']
      exact hcov
    · rw [if_neg hu] at hw'
      exact hc.covered user' w' hw'
  pending := hc.pending
  keys := hc.keys

lemma moved_saveWallet {w : Wallet} (hkey : w.key = (user, .rider)) (hheld : .wallet user ∈ held) :
    Moved held s (s.saveWallet w) where
  wallets := by
    intro v hv
    rw [wallet?_put hkey, if_neg]
    rintro rfl
    exact hv hheld
  heldMinor := fun _ _ _ => le_rfl
  holds := fun _ _ _ h => h
  entries := fun _ _ _ h => h

lemma saveWallet_getWallet (hc : Covered s) (hheld : .wallet user ∈ held) :
    let s' := s.saveWallet (s.wallets.getWallet user .rider)
    Covered s' ∧ Forward s s' ∧ Moved held s s' := by
  have hkey : (s.wallets.getWallet user .rider).key = (user, .rider) :=
    Wallets.key_getWallet _ _ _
  refine ⟨covered_saveWallet hc hkey rfl (heldMinor_le_balance hc user), ?_,
    moved_saveWallet hkey hheld⟩
  have hbalance : ∀ v, (s.saveWallet (s.wallets.getWallet user .rider)).balanceMinor v =
      s.balanceMinor v := by
    intro v
    by_cases hv : v = user
    · have hget := wallet?_put (s := s) hkey v
      rw [if_pos hv] at hget
      rw [balanceMinor_of_wallet? hget, hv]
      rfl
    · have hget := wallet?_put (s := s) hkey v
      rw [if_neg hv] at hget
      exact balanceMinor_congr hget
  refine ⟨fun v => ?_, (Forward.refl s).entries, (Forward.refl s).holds, (Forward.refl s).debts⟩
  rw [hbalance, Int.sub_self]
  exact (Int.sub_self _).symm

/-! ## Rows of the ledger -/

section Rows

variable {amount : ℤ} {currency : Currency} {txnType : TxnType} {purpose reference key : String}

/-- The row that is created. -/
def newEntry (s : Db) (user : ℕ) (amountMinor : ℤ) (currency : Currency) (txnType : TxnType)
    (purpose referenceId key : String) : WalletTransaction where
  id := s.entries.nextKey
  user := user
  amountMinor := amountMinor
  currency := currency
  txnType := txnType
  status := .completed
  purpose := purpose
  referenceId := referenceId
  gatewayOrderId := ""
  idempotencyKey := some key

def withEntry (s : Db) (e : WalletTransaction) : Db := { s with entries := s.entries.put e }

lemma create_eq_some (h : s.create user amount currency txnType purpose reference key = some s') :
    (∀ e ∈ s.entries.rows, e.idempotencyKey ≠ some key) ∧
      s' = withEntry s (newEntry s user amount currency txnType purpose reference key) := by
  rw [Db.create] at h
  split at h
  · cases h
  · next hfree =>
    refine ⟨fun e he hkey => hfree ?_, (Option.some.inj h).symm⟩
    exact List.any_eq_true.mpr ⟨e, he, by simpa using hkey⟩

/-- What the direction of a row adds. -/
def signed (txnType : TxnType) (amount : ℤ) : ℤ :=
  match txnType with
  | .credit => amount
  | .debit => -amount

lemma create_addMinor (txnType : TxnType) (hc : Covered s)
    (h : s.create user amount currency txnType purpose reference key = some t)
    (hroom : s.heldMinor user (s.wallets.getWallet user .rider).currency ≤
      s.balanceMinor user + signed txnType amount)
    (hheld : .wallet user ∈ held) :
    let s' := t.addMinor user (signed txnType amount)
    Covered s' ∧ Forward s s' ∧ Moved held s s' := by
  obtain ⟨hfree, rfl⟩ := create_eq_some h
  generalize he : newEntry s user amount currency txnType purpose reference key = e
  have hkey : e.idempotencyKey = some key := by rw [← he]; rfl
  have hnew : s.entries.get? e.id = none := by
    rw [← he]
    exact get?_nextKey s.entries
  have hpart : ∀ v, e.bookedFor v = if v = user then signed txnType amount else 0 := by
    intro v
    by_cases hv : v = user
    · rw [← he, hv]
      cases txnType <;> simp [WalletTransaction.bookedFor, newEntry, signed]
    · have hv' : ¬ user = v := fun h => hv h.symm
      simp [WalletTransaction.bookedFor, ← he, newEntry, hv, hv']
  refine ⟨?_, ⟨fun v => ?_, fun id r hr => ?_, (Forward.refl s).holds, (Forward.refl s).debts⟩, ?_⟩
  · have hkeys : Table.UniqueOn WalletTransaction.idempotencyKey (s.entries.put e).rows := by
      refine hc.keys.put_of_forall fun r hr _ k hk hrk => ?_
      rw [hkey, Option.some.injEq] at hk
      subst hk
      exact hfree r hr hrk
    have hpending : ∀ r ∈ (s.entries.put e).rows, r.status ≠ .completed → 0 ≤ r.amountMinor := by
      intro r hr hstatus
      obtain rfl | ⟨hr, -⟩ := Table.mem_put.mp hr
      · exact absurd (by rw [← he]; rfl) hstatus
      · exact hc.pending r hr hstatus
    have hc' : Covered (withEntry s e) :=
      ⟨hc.positive, hc.backed, hc.covered, hpending, hkeys⟩
    rw [addMinor_eq_saveWallet]
    exact covered_saveWallet hc' (Wallets.key_getWallet _ _ _) rfl hroom
  · have hbooked : ((withEntry s e).addMinor user (signed txnType amount)).bookedMinor v =
        s.bookedMinor v + e.bookedFor v := sum_put_new hnew _
    have hbalance : (withEntry s e).balanceMinor v = s.balanceMinor v := rfl
    rw [hbooked, balanceMinor_addMinor, hbalance, hpart]
    omega
  · exact ⟨r.status, get?_put_of_some hnew hr, .inl rfl⟩
  · refine ⟨fun v hv => ?_, fun _ _ _ => le_rfl, fun _ _ _ hh => hh, fun id r _ hr => ?_⟩
    · have hne : v ≠ user := fun hvu => hv (hvu ▸ hheld)
      rw [wallet?_addMinor, if_neg hne]
      rfl
    · exact get?_put_of_some hnew hr

lemma takenMinor_create (h : s.create user amount currency txnType purpose reference key = some t)
    (request : ℕ) (delta : ℤ) : (t.addMinor user delta).takenMinor request =
      s.takenMinor request + if txnType = .debit ∧ reference = (Ref.recovery request).text then
        amount else 0 := by
  obtain ⟨-, rfl⟩ := create_eq_some h
  exact sum_put_new (get?_nextKey s.entries) _

lemma debit_spec (hc : Covered s) (hw : s.wallet? user = some w)
    (hroom : s.heldMinor user w.currency + amount ≤ w.balanceMinor) (hheld : .wallet user ∈ held)
    (h : s.debit user amount currency purpose reference key = some s') :
    Covered s' ∧ Forward s s' ∧ Moved held s s' := by
  obtain ⟨t, ht, rfl⟩ := Option.map_eq_some_iff.mp h
  refine create_addMinor .debit hc ht ?_ hheld
  rw [getWallet_of_wallet? hw, balanceMinor_of_wallet? hw, signed]
  omega

lemma debit_facts (hw : s.wallet? user = some w)
    (h : s.debit user amount currency purpose reference key = some s') :
    s'.wallet? user = some { w with balanceMinor := w.balanceMinor - amount } ∧
      s'.holds = s.holds ∧ s'.debts = s.debts := by
  obtain ⟨t, ht, rfl⟩ := Option.map_eq_some_iff.mp h
  obtain ⟨-, rfl⟩ := create_eq_some ht
  refine ⟨?_, rfl, rfl⟩
  have hw' : (withEntry s (newEntry s user amount currency .debit purpose reference key)).wallet?
      user = some w := hw
  rw [wallet?_addMinor, if_pos rfl, getWallet_of_wallet? hw', balanceMinor_of_wallet? hw',
    Int.sub_eq_add_neg]

lemma credit_spec (hc : Covered s) (hamount : 0 ≤ amount) (hheld : .wallet user ∈ held)
    (h : s.credit user amount currency purpose reference key = some s') :
    Covered s' ∧ Forward s s' ∧ Moved held s s' := by
  obtain ⟨t, ht, rfl⟩ := Option.map_eq_some_iff.mp h
  refine create_addMinor .credit hc ht ?_ hheld
  have hcov := heldMinor_le_balance hc user
  rw [signed]
  omega

end Rows

/-! ## Holds -/

section Holds

variable {h h' : RewardHold} {hs : List RewardHold}

/-- A hold that is still held is released, forfeited or prolonged. -/
structure Changed (h h' : RewardHold) : Prop where
  held : h.status = .held
  id : h'.id = h.id
  user : h'.user = h.user
  ofDriver : h'.ofDriver = h.ofDriver
  amount : h'.amountMinor = h.amountMinor
  currency : h'.currency = h.currency
  entry : h'.ledgerEntry = h.ledgerEntry

lemma heldPart_changed (hch : Changed h h') (hpos : 0 < h.amountMinor) (user : ℕ)
    (c : Currency) :
    Db.heldPart user c h' ≤ Db.heldPart user c h := by
  rw [Db.heldPart, Db.heldPart, hch.user, hch.ofDriver, hch.amount, hch.currency]
  by_cases hall : h.user = user ∧ h'.status = .held ∧ h.ofDriver = false ∧ h.currency = c
  · rw [if_pos hall, if_pos ⟨hall.1, hch.held, hall.2.2⟩]
  · rw [if_neg hall]
    split
    · exact hpos.le
    · exact le_rfl

lemma saveHold_spec (hc : Covered s) (hget : s.holds.get? h'.id = some h) (hch : Changed h h')
    (hheld : .hold h'.id ∈ held) :
    let s' := s.saveHolds [h']
    Covered s' ∧ Forward s s' ∧ Moved held s s' := by
  have hmem := (Table.mem_of_get? hget).1
  have hsum : ∀ v c, (s.saveHolds [h']).heldMinor v c ≤ s.heldMinor v c := by
    intro v c
    have hput : (s.saveHolds [h']).heldMinor v c =
        s.heldMinor v c - Db.heldPart v c h + Db.heldPart v c h' := Table.sum_put hget _
    have hle := heldPart_changed hch (hc.positive h hmem) v c
    omega
  have hrows : ∀ r ∈ (s.saveHolds [h']).holds.rows, r = h' ∨ r ∈ s.holds.rows :=
    fun r hr => (Table.mem_put.mp hr).imp_right And.left
  have hother : ∀ i, i ≠ h'.id → (s.saveHolds [h']).holds.get? i = s.holds.get? i :=
    fun i hi => Table.get?_put_of_ne s.holds hi
  refine ⟨⟨?_, ?_, ?_, hc.pending, hc.keys⟩, ⟨fun v => ?_, (Forward.refl s).entries, ?_,
    (Forward.refl s).debts⟩, ⟨fun _ _ => rfl, fun v _ c => hsum v c, ?_, fun _ _ _ he => he⟩⟩
  · intro r hr
    obtain rfl | hr := hrows r hr
    · rw [hch.amount]
      exact hc.positive h hmem
    · exact hc.positive r hr
  · intro r hr
    obtain rfl | hr := hrows r hr
    · obtain ⟨hrole, hback⟩ := hc.backed h hmem
      refine ⟨hch.ofDriver.trans hrole, fun _ => ?_⟩
      rw [hch.user, hch.currency]
      exact hback hch.held
    · exact hc.backed r hr
  · intro v w hw
    exact (hsum v w.currency).trans (hc.covered v w hw)
  · rw [show (s.saveHolds [h']).balanceMinor v = s.balanceMinor v from rfl,
      show (s.saveHolds [h']).bookedMinor v = s.bookedMinor v from rfl]
    omega
  · intro i r hr
    by_cases hi : i = h'.id
    · subst hi
      rw [hget, Option.some.injEq] at hr
      subst hr
      exact ⟨h', Table.get?_put_self s.holds h', hch.user, hch.amount, hch.entry,
        fun hdone => absurd hch.held hdone⟩
    · exact ⟨r, (hother i hi).trans hr, rfl, rfl, rfl, fun _ => rfl⟩
  · intro i r hi hr
    have hne : i ≠ h'.id := fun he => hi (he ▸ hheld)
    exact (hother i hne).trans hr

lemma saveHolds_spec (hc : Covered s) (hnodup : (hs.map RewardHold.key).Nodup)
    (hget : ∀ h' ∈ hs, ∃ h, s.holds.get? h'.id = some h ∧ Changed h h')
    (hheld : ∀ h' ∈ hs, .hold h'.id ∈ held) :
    let s' := s.saveHolds hs
    Covered s' ∧ Forward s s' ∧ Moved held s s' := by
  induction hs generalizing s with
  | nil => exact ⟨hc, Forward.refl s, Moved.refl held s⟩
  | cons h' hs ih =>
      obtain ⟨h, hh, hch⟩ := hget h' List.mem_cons_self
      obtain ⟨hc₁, hf₁, hm₁⟩ := saveHold_spec hc hh hch (hheld h' List.mem_cons_self)
      rw [List.map_cons, List.nodup_cons] at hnodup
      have hrest : ∀ r' ∈ hs, ∃ r, (s.saveHolds [h']).holds.get? r'.id = some r ∧
          Changed r r' := by
        intro r' hr'
        obtain ⟨r, hr, hch'⟩ := hget r' (List.mem_cons_of_mem _ hr')
        have hne : r'.id ≠ h'.id := fun he => hnodup.1 (List.mem_map.mpr ⟨r', hr', he⟩)
        exact ⟨r, (Table.get?_put_of_ne s.holds hne).trans hr, hch'⟩
      obtain ⟨hc₂, hf₂, hm₂⟩ := ih hc₁ hnodup.2 hrest
        fun r' hr' => hheld r' (List.mem_cons_of_mem _ hr')
      exact ⟨hc₂, hf₁.trans hf₂, hm₁.trans hm₂⟩

lemma heldMinor_forfeited {request : ℕ} {c : Currency} (hnodup : (hs.map RewardHold.key).Nodup)
    (hget : ∀ h ∈ hs, s.holds.get? h.id = some h)
    (hpart : ∀ h ∈ hs, Db.heldPart user c h = h.amountMinor) :
    (s.saveHolds (hs.map (·.forfeit request))).heldMinor user c =
      s.heldMinor user c - totalMinor hs := by
  induction hs generalizing s with
  | nil => simp [Db.saveHolds, totalMinor]
  | cons h hs ih =>
      rw [List.map_cons, List.nodup_cons] at hnodup
      have hthere : s.holds.get? (h.forfeit request).id = some h := hget h List.mem_cons_self
      have hput : (s.saveHolds [h.forfeit request]).heldMinor user c =
          s.heldMinor user c - Db.heldPart user c h + Db.heldPart user c (h.forfeit request) :=
        Table.sum_put hthere _
      have hgone : Db.heldPart user c (h.forfeit request) = 0 := by
        simp [Db.heldPart, RewardHold.forfeit]
      have hrest : ∀ r ∈ hs, (s.saveHolds [h.forfeit request]).holds.get? r.id = some r := by
        intro r hr
        have hne : r.id ≠ h.id := fun he => hnodup.1 (List.mem_map.mpr ⟨r, hr, he⟩)
        exact (Table.get?_put_of_ne (r := h.forfeit request) s.holds hne).trans
          (hget r (List.mem_cons_of_mem _ hr))
      have htail := ih (s := s.saveHolds [h.forfeit request]) hnodup.2 hrest
        fun r hr => hpart r (List.mem_cons_of_mem _ hr)
      have htotal : totalMinor (h :: hs) = h.amountMinor + totalMinor hs := by simp [totalMinor]
      have hsplit : s.saveHolds ((h :: hs).map (·.forfeit request)) =
          (s.saveHolds [h.forfeit request]).saveHolds (hs.map (·.forfeit request)) := rfl
      rw [hsplit, htail, hput, hgone, hpart h List.mem_cons_self, htotal]
      omega

end Holds

end Steps

end SaaradhiGo.RiderWallet
