/-
Which withdrawal a payout webhook is about.

The dispatcher gives the provider a reference of its own, `withdrawal_<id>_driver_<driver>`,
and stores what the provider's adapter returns as the payout's id, which is that reference
again.  A delivery brings the reference back in `transfer_id` and the provider's own id in
`cf_transfer_id`; RazorpayX calls the two `reference_id` and `id`, and its deliveries are
brought into the shape of the others before they are handled.

The handler looks for a stored reference under `transfer_id` first and under
`cf_transfer_id` second, and last it reads the id out of the reference, which it does for
`cf_transfer_id` only.
-/
import SaaradhiGo.Payouts.Actions

namespace SaaradhiGo.Payouts

open SaaradhiGo.Money

/-- The `reference_id` of `initiate_upi_payout`. -/
def issuedReference (w : Withdrawal) : String :=
  "withdrawal_" ++ w.id.repr ++ "_driver_" ++ w.driver.repr

/-! ## Deliveries -/

/-- A RazorpayX payout event: its name and what is read of the payout's entity. -/
structure PayoutDelivery where
  event : String
  id : Option String
  referenceId : Option String
  status : Option String
  description : Option String
  reason : Option String
deriving DecidableEq, Repr

/-- `_PAYOUT_EVENTS`; an event that is not listed keeps its name. -/
def payoutEvent (event : String) : String :=
  if event = "payout.processed" then "PAYOUT_SUCCESS"
  else if event = "payout.failed" ∨ event = "payout.rejected" ∨ event = "payout.cancelled" then
    "PAYOUT_FAILED"
  else if event = "payout.reversed" then "PAYOUT_REVERSED"
  else if event = "payout.queued" ∨ event = "payout.pending" ∨ event = "payout.initiated" then
    "PAYOUT_PENDING"
  else event

def normalisePayoutEvent (d : PayoutDelivery) : Payload where
  event := payoutEvent d.event
  transferId := d.referenceId
  payoutId := none
  cfTransferId := d.id
  referenceId := none
  status := d.status
  failureReason := (orText d.description d.reason).getD ""

/-- A delivery of one of the providers. -/
inductive Delivery where
  | cashfree (p : Payload)
  | razorpayX (d : PayoutDelivery)
deriving DecidableEq, Repr

namespace Delivery

/-- The payload the handler is given. -/
def payload : Delivery → Payload
  | cashfree p => p
  | razorpayX d => normalisePayoutEvent d

/-- The field for our reference: `transfer_id`, or `reference_id` of RazorpayX. -/
def ourReference : Delivery → Option String
  | cashfree p => p.transferId
  | razorpayX d => d.referenceId

/-- The field for the provider's id: `cf_transfer_id`, or `id` of RazorpayX. -/
def providerId : Delivery → Option String
  | cashfree p => p.cfTransferId
  | razorpayX d => d.id

lemma transferId_payload (d : Delivery) : d.payload.transferId = d.ourReference := by
  cases d <;> rfl

lemma cfTransferId_payload (d : Delivery) : d.payload.cfTransferId = d.providerId := by
  cases d <;> rfl

end Delivery

/-- The text is one of the two identifiers the handler reads. -/
def Payload.Reads (p : Payload) (text : String) : Prop :=
  text ≠ "" ∧
    (orText p.transferId p.payoutId = some text ∨ orText p.cfTransferId p.referenceId = some text)

/-- One of the identifiers is the reference issued for the withdrawal, or the one stored
with it. -/
def Payload.Names (p : Payload) (w : Withdrawal) : Prop :=
  ∃ text, p.Reads text ∧ (text = issuedReference w ∨ w.payoutReferenceId = some text)

/-! ## Reading the id back -/

lemma not_isBlank_of_isDigit {c : Char} (h : c.isDigit = true) : isBlank c = false := by
  simp only [Char.isDigit, Bool.and_eq_true, decide_eq_true_eq] at h
  have hbound : 48 ≤ c.val.toNat ∧ c.val.toNat ≤ 57 := by
    simpa [UInt32.le_iff_toNat_le] using h
  simp only [isBlank, Char.isWhitespace, Bool.or_eq_false_iff, decide_eq_false_iff_not]
  refine ⟨⟨⟨⟨⟨?_, ?_⟩, ?_⟩, ?_⟩, ?_⟩, ?_⟩ <;>
  · rintro rfl
    revert hbound
    decide

lemma dropWhile_isBlank_of_digits {ds : List Char} (h : ∀ c ∈ ds, c.isDigit = true) :
    ds.dropWhile isBlank = ds := by
  cases ds with
  | nil => rfl
  | cons c ds => rw [List.dropWhile_cons, not_isBlank_of_isDigit (h c List.mem_cons_self)]; rfl

lemma foldl_digits (ds : List Char) (m : ℕ) :
    ds.foldl (fun (n : ℤ) c => 10 * n + (c.toNat - '0'.toNat : ℕ)) m
      = (Nat.ofDigitChars 10 ds m : ℕ) := by
  induction ds generalizing m with
  | nil => simp
  | cons c ds ih =>
      rw [List.foldl_cons, Nat.ofDigitChars_cons, ← ih]
      push_cast
      rfl

/-- `int` of a text of digits is the number they write. -/
lemma pyInt_of_digits {ds : List Char} (hne : ds ≠ []) (h : ∀ c ∈ ds, c.isDigit = true) :
    pyInt ds = some (Nat.ofDigitChars 10 ds 0 : ℤ) := by
  have hrev : (ds.reverse.dropWhile isBlank).reverse = ds := by
    rw [dropWhile_isBlank_of_digits fun c hc => h c (List.mem_reverse.mp hc), List.reverse_reverse]
  have hall : ds.all Char.isDigit = true := List.all_eq_true.mpr h
  simp only [pyInt, dropWhile_isBlank_of_digits h, hrev]
  cases ds with
  | nil => exact absurd rfl hne
  | cons c ds =>
      have hc := h c List.mem_cons_self
      split
      · rename_i heq
        cases heq
        cases hc
      · rename_i heq
        cases heq
        cases hc
      · rw [if_pos ⟨hne, hall⟩, Option.some.injEq]
        exact foldl_digits (c :: ds) 0

/-- `int` reads back the number that was written. -/
lemma pyInt_toDigits (n : ℕ) : pyInt (Nat.toDigits 10 n) = some (n : ℤ) := by
  have hdigits : ∀ c ∈ Nat.toDigits 10 n, c.isDigit = true :=
    fun c hc => Nat.isDigit_of_mem_toDigits (by decide) (by decide) hc
  rw [pyInt_of_digits Nat.toDigits_ne_nil hdigits, Nat.ofDigitChars_ten_toDigits]

/-- The id is read back out of the reference. -/
theorem withdrawalIdOf_issuedReference (w : Withdrawal) :
    withdrawalIdOf (issuedReference w) = some (w.id : ℤ) := by
  have hlist : (issuedReference w).toList = "withdrawal".toList ++ '_' ::
      (Nat.toDigits 10 w.id ++ '_' :: ("driver_".toList ++ Nat.toDigits 10 w.driver)) := by
    simp [issuedReference]
  have hprefix : "withdrawal_".toList.isPrefixOf (issuedReference w).toList = true := by
    rw [hlist, List.isPrefixOf_iff_prefix]
    exact ⟨_, rfl⟩
  have hword : '_' ∉ "withdrawal".toList := by decide
  have hid : '_' ∉ Nat.toDigits 10 w.id := fun hmem => by
    cases Nat.isDigit_of_mem_toDigits (by decide) (by decide) hmem
  rw [withdrawalIdOf, if_pos hprefix, hlist, List.splitOn_append_cons_self_of_not_mem hword,
    List.splitOn_append_cons_self_of_not_mem hid]
  exact pyInt_toDigits w.id

lemma truthy_issuedReference (w : Withdrawal) : truthy (some (issuedReference w)) = true := by
  have hne : (issuedReference w).toList ≠ "".toList := by simp [issuedReference]
  simpa [truthy] using fun h : issuedReference w = "" => hne (congrArg String.toList h)

/-! ## The lookup -/

section Lookup

variable {db : Db} {p : Payload} {w : Withdrawal} {reference : String}

lemma reference_of_byPayoutReference (h : byPayoutReference db reference = some w) :
    w.payoutReferenceId = some reference := by
  simpa using List.find?_some h

lemma exists_byPayoutReference (hw : w ∈ db.withdrawals.rows)
    (hstored : w.payoutReferenceId = some reference) :
    ∃ w', byPayoutReference db reference = some w' := by
  have hsome : (byPayoutReference db reference).isSome := by
    rw [byPayoutReference, List.find?_isSome]
    exact ⟨w, List.mem_reverse.mpr hw, by simp [hstored]⟩
  exact Option.isSome_iff_exists.mp hsome

/-- What the handler finds under an identifier has stored it. -/
lemma stored_of_found {text : Option String}
    (h : (if truthy text then byPayoutReference db (text.getD "") else none) = some w) :
    ∃ reference, text = some reference ∧ reference ≠ "" ∧ w.payoutReferenceId = some reference ∧
      w ∈ db.withdrawals.rows := by
  split at h
  · rename_i htruthy
    cases text with
    | none => cases htruthy
    | some reference =>
        refine ⟨reference, rfl, ?_, reference_of_byPayoutReference h, byPayoutReference_mem h⟩
        simpa [truthy] using htruthy
  · cases h

lemma found_of_stored (hw : w ∈ db.withdrawals.rows) {text : Option String}
    (htext : text = some reference) (hne : reference ≠ "")
    (hstored : w.payoutReferenceId = some reference) :
    (if truthy text then byPayoutReference db (text.getD "") else none) ≠ none := by
  subst htext
  obtain ⟨w', hw'⟩ := exists_byPayoutReference hw hstored
  rw [if_pos (by simpa [truthy] using hne), Option.getD_some, hw']
  exact Option.some_ne_none w'

lemma get?_withdrawalIdOf (hw : w ∈ db.withdrawals.rows) :
    ((withdrawalIdOf (issuedReference w)).bind fun i =>
      if 0 ≤ i then db.withdrawals.get? i.toNat else none) = some w := by
  rw [withdrawalIdOf_issuedReference, Option.bind_some, if_pos (Int.natCast_nonneg w.id),
    Int.toNat_natCast]
  exact Table.mem_iff_get?.mp hw

/-- The handler finds the one withdrawal a payload names, when its stored reference is one
of the identifiers or its issued reference is the second one. -/
theorem findWithdrawal_of_names (hw : w ∈ db.withdrawals.rows)
    (honly : ∀ w' ∈ db.withdrawals.rows, p.Names w' → w' = w)
    (hfound : (∃ text, p.Reads text ∧ w.payoutReferenceId = some text) ∨
      orText p.cfTransferId p.referenceId = some (issuedReference w)) :
    findWithdrawal db p = some w := by
  rw [findWithdrawal]
  -- what is found under a stored reference is `w`; the places are tried one after the other
  cases hfirst : (if truthy (orText p.transferId p.payoutId) then
      byPayoutReference db ((orText p.transferId p.payoutId).getD "") else none) with
  | some w' =>
      obtain ⟨text, hreads, hne, hstored, hw'⟩ := stored_of_found hfirst
      rw [honly w' hw' ⟨text, ⟨hne, .inl hreads⟩, .inr hstored⟩]
      rfl
  | none =>
  cases hsecond : (if truthy (orText p.cfTransferId p.referenceId) then
      byPayoutReference db ((orText p.cfTransferId p.referenceId).getD "") else none) with
  | some w' =>
      obtain ⟨text, hreads, hne, hstored, hw'⟩ := stored_of_found hsecond
      rw [honly w' hw' ⟨text, ⟨hne, .inr hreads⟩, .inr hstored⟩]
      rfl
  | none =>
      rcases hfound with ⟨text, ⟨hne, hreads | hreads⟩, hstored⟩ | hissued
      · exact absurd hfirst (found_of_stored hw hreads hne hstored)
      · exact absurd hsecond (found_of_stored hw hreads hne hstored)
      · rw [hissued, if_pos (truthy_issuedReference w), Option.getD_some, get?_withdrawalIdOf hw]
        rfl

/-- A delivery touches no row but that of the withdrawal it is resolved to. -/
lemma get?_handlePayoutWebhook {i now : ℕ} (h : ∀ w, findWithdrawal db p = some w → i ≠ w.id) :
    (handlePayoutWebhook db p now).2.withdrawals.get? i = db.withdrawals.get? i := by
  rw [handlePayoutWebhook]
  split
  · rfl
  · cases hfound : findWithdrawal db p with
    | none => rfl
    | some w => exact get?_applyEvent_of_ne (h w hfound)

end Lookup

/-! ## Deliveries that bring a reference back -/

lemma orText_issuedReference (w : Withdrawal) (other : Option String) :
    orText (some (issuedReference w)) other = some (issuedReference w) := by
  rw [orText, if_pos (truthy_issuedReference w)]

lemma issuedReference_ne_empty (w : Withdrawal) : issuedReference w ≠ "" := by
  simpa [truthy] using truthy_issuedReference w

/-- A delivery that brings back the issued reference of the one withdrawal it names is
resolved to it: under the provider's id always, and under our reference when the reference
has been stored with the withdrawal, as it is when the provider accepts a payout.  Whatever
a delivery names, it changes no withdrawal but the one it is resolved to. -/
theorem resolves_issued (db : Db) (d : Delivery) (now : ℕ) :
    (∀ w ∈ db.withdrawals.rows,
      (∀ w' ∈ db.withdrawals.rows, d.payload.Names w' → w' = w) →
      d.providerId = some (issuedReference w) ∨
        d.ourReference = some (issuedReference w) ∧
          w.payoutReferenceId = some (issuedReference w) →
      findWithdrawal db d.payload = some w) ∧
    ∀ w ∈ db.withdrawals.rows, findWithdrawal db d.payload ≠ some w →
      (handlePayoutWebhook db d.payload now).2.withdrawals.get? w.id = some w := by
  constructor
  · rintro w hw honly (hissued | ⟨hissued, hstored⟩)
    · refine findWithdrawal_of_names hw honly (.inr ?_)
      rw [d.cfTransferId_payload, hissued, orText_issuedReference]
    · refine findWithdrawal_of_names hw honly (.inl ⟨_, ⟨issuedReference_ne_empty w, .inl ?_⟩,
        hstored⟩)
      rw [d.transferId_payload, hissued, orText_issuedReference]
  · intro w hw hother
    have hget := Table.mem_iff_get?.mp hw
    rw [get?_handlePayoutWebhook, hget]
    rintro w' hfound hid
    -- two rows with one id are one row
    have hget' := get?_of_findWithdrawal hfound
    rw [← hid, hget] at hget'
    exact hother (hget' ▸ hfound)

/-- What a lookup by the issued reference would be: every delivery that brings it back is
resolved to its withdrawal, and one that names two withdrawals changes neither. -/
def ResolvedByReference (db : Db) (d : Delivery) (now : ℕ) : Prop :=
  (∀ w ∈ db.withdrawals.rows,
    (∀ w' ∈ db.withdrawals.rows, d.payload.Names w' → w' = w) →
    d.providerId = some (issuedReference w) ∨ d.ourReference = some (issuedReference w) →
    findWithdrawal db d.payload = some w) ∧
  ∀ w ∈ db.withdrawals.rows, ∀ w' ∈ db.withdrawals.rows, w ≠ w' →
    d.payload.Names w → d.payload.Names w' →
    (handlePayoutWebhook db d.payload now).2.withdrawals.get? w.id = some w ∧
      (handlePayoutWebhook db d.payload now).2.withdrawals.get? w'.id = some w'

/-! ### Two runs -/

/-- The provider accepts and returns the reference, or the answer is lost. -/
def answered (provider : ProviderAnswer) : List Choice :=
  [⟨none, provider⟩, ⟨none, .refused⟩, ⟨none, .refused⟩, ⟨none, .refused⟩]

/-- The payout of the first withdrawal went out and the answer was lost. -/
def lostAnswer : World :=
  [.request askHundred, .approve 1 false upiEnv (answered (.unknown true))].foldl step
    ⟨oneDriver, []⟩

/-- Two withdrawals were accepted by the provider. -/
def bothAccepted : World :=
  [.request askHundred, .request { askHundred with driver := 4 },
    .approve 1 false upiEnv (answered (.accepted ⟨some "withdrawal_1_driver_3", some "SUCCESS"⟩)),
    .approve 2 false upiEnv
      (answered (.accepted ⟨some "withdrawal_2_driver_4", some "SUCCESS"⟩))].foldl step
    ⟨oneDriver, []⟩

def sent (id driver : ℕ) : Withdrawal :=
  { newWithdrawal id driver 10000 .inr .driver none 0 with
    status := .processed
    processedAt := some 2000 }

lemma rows_lostAnswer : lostAnswer.db.withdrawals.rows =
    [{ sent 1 3 with status := .unresolved, failureReason := some unknownReason }] := by
  decide +kernel

lemma rows_bothAccepted : bothAccepted.db.withdrawals.rows =
    [{ sent 1 3 with
        payoutReferenceId := some "withdrawal_1_driver_3"
        payoutStatus := some "SUCCESS"
        payoutMode := some "UPI" },
      { sent 2 4 with
        payoutReferenceId := some "withdrawal_2_driver_4"
        payoutStatus := some "SUCCESS"
        payoutMode := some "UPI" }] := by
  decide +kernel

def payoutProcessed (referenceId id : String) : Delivery :=
  .razorpayX ⟨"payout.processed", some id, some referenceId, some "processed", none, none⟩

/-- A payout whose answer was lost is not found by the reference it went out with, and of
two withdrawals that are named the first is completed. -/
theorem not_resolvedByReference :
    ¬ ResolvedByReference lostAnswer.db (payoutProcessed "withdrawal_1_driver_3" "pout_1") 0 ∧
      ¬ ResolvedByReference bothAccepted.db
        (payoutProcessed "withdrawal_1_driver_3" "withdrawal_2_driver_4") 0 := by
  constructor
  · rintro ⟨hfound, -⟩
    rw [rows_lostAnswer] at hfound
    have hnone : findWithdrawal lostAnswer.db
        (payoutProcessed "withdrawal_1_driver_3" "pout_1").payload = none := by
      decide +kernel
    have hsome := hfound _ (List.mem_singleton_self _)
      (fun w' hw' _ => List.mem_singleton.mp hw') (.inr (by decide +kernel))
    rw [hnone] at hsome
    cases hsome
  · rintro ⟨-, hneither⟩
    rw [rows_bothAccepted] at hneither
    have hstatus : ((handlePayoutWebhook bothAccepted.db
        (payoutProcessed "withdrawal_1_driver_3" "withdrawal_2_driver_4").payload 0).2.withdrawals.get?
          1).map (·.status) = some .completed := by
      decide +kernel
    have hsame := (hneither _ List.mem_cons_self _ (List.mem_cons_of_mem _ List.mem_cons_self)
      (by decide) ⟨_, ⟨by decide, .inl rfl⟩, .inr rfl⟩ ⟨_, ⟨by decide, .inr rfl⟩, .inr rfl⟩).1
    have hstatus' := congrArg (Option.map (·.status)) hsame
    exact absurd (hstatus'.symm.trans hstatus) (by decide)

/-- The lost payout is found when its reference comes back as the provider's id. -/
theorem resolves_lostAnswer :
    ∃ w, findWithdrawal lostAnswer.db
      (payoutProcessed "pout_1" "withdrawal_1_driver_3").payload = some w ∧ w.id = 1 := by
  refine ⟨_, (resolves_issued lostAnswer.db (payoutProcessed "pout_1" "withdrawal_1_driver_3") 0).1
    { sent 1 3 with status := .unresolved, failureReason := some unknownReason } ?_ ?_ ?_, rfl⟩
  · rw [rows_lostAnswer]
    exact List.mem_singleton_self _
  · intro w' hw' _
    rw [rows_lostAnswer] at hw'
    exact List.mem_singleton.mp hw'
  · exact .inl (by decide +kernel)

end SaaradhiGo.Payouts
