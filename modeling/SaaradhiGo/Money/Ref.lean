/-
The texts that identify ledger rows.

A wallet transaction carries a `reference_id` and an `idempotency_key`, two texts that
the code composes from the ids of what the row belongs to.  `Ref` has
one constructor for each form of such a text and `Ref.text` writes it as the code does.
Two different references have different texts (`Ref.text_injective`), so that comparing
references is comparing the stored texts.
-/
import Std.Data.String.ToNat
import Mathlib.Data.List.Basic

namespace SaaradhiGo.Money

/-- The forms of `reference_id` and `idempotency_key` of a wallet transaction. -/
inductive Ref where
  /-- `withdrawal_<id>` -/
  | withdrawal (id : ℕ)
  /-- `withdrawal_<id>_<nonce>`, the nonce drawn for the row -/
  | withdrawalDebit (id : ℕ) (nonce : String)
  /-- `withdrawal_retry_<id>_<attempt>` -/
  | withdrawalRetry (id attempt : ℕ)
  /-- `refund_withdrawal_<id>` -/
  | refundWithdrawal (id : ℕ)
  /-- `refund_withdrawal_<id>_r<attempts>` -/
  | refundWithdrawalAttempt (id attempts : ℕ)
  /-- `refund_rejected_withdrawal_<id>` -/
  | refundRejectedWithdrawal (id : ℕ)
  /-- `refund_reversed_withdrawal_<id>` -/
  | refundReversedWithdrawal (id : ℕ)
  /-- `TRIP_<id>` -/
  | trip (id : ℕ)
  /-- `TRIP_<id>_EARNING` -/
  | tripEarning (id : ℕ)
  /-- `TRIP_<id>_TAX` -/
  | tripTax (id : ℕ)
  /-- `TRIP_<id>_FEE` -/
  | tripFee (id : ℕ)
  /-- `TRIP_<id>_PROMO_<redemption>` -/
  | tripPromo (id redemption : ℕ)
  /-- `TRIP_<id>_COLLECTED` -/
  | tripCollected (id : ℕ)
  /-- `TRIP_<id>_REFUND_REVERSAL` -/
  | tripRefundReversal (id : ℕ)
  /-- `RECOVERY_<request>` -/
  | recovery (request : ℕ)
  /-- `recovery_<debt>_w<withdrawal>` -/
  | recoveryDeduction (debt w : ℕ)
deriving DecidableEq, Repr

namespace Ref

/-- The text before the id. -/
def stem : Ref → String
  | withdrawal _ | withdrawalDebit _ _ => "withdrawal_"
  | withdrawalRetry _ _ => "withdrawal_retry_"
  | refundWithdrawal _ | refundWithdrawalAttempt _ _ => "refund_withdrawal_"
  | refundRejectedWithdrawal _ => "refund_rejected_withdrawal_"
  | refundReversedWithdrawal _ => "refund_reversed_withdrawal_"
  | trip _ | tripEarning _ | tripTax _ | tripFee _ | tripPromo _ _ | tripCollected _
  | tripRefundReversal _ => "TRIP_"
  | recovery _ => "RECOVERY_"
  | recoveryDeduction _ _ => "recovery_"

/-- The id of the withdrawal, trip, request or debt. -/
def subject : Ref → ℕ
  | withdrawal id | withdrawalDebit id _ | withdrawalRetry id _ | refundWithdrawal id
  | refundWithdrawalAttempt id _ | refundRejectedWithdrawal id | refundReversedWithdrawal id
  | trip id | tripEarning id | tripTax id | tripFee id | tripPromo id _ | tripCollected id
  | tripRefundReversal id | recovery id | recoveryDeduction id _ => id

/-- The text after the id. -/
def tail : Ref → String
  | withdrawal _ | refundWithdrawal _ | refundRejectedWithdrawal _
  | refundReversedWithdrawal _ | trip _ | recovery _ => ""
  | withdrawalDebit _ nonce => "_" ++ nonce
  | withdrawalRetry _ attempt => "_" ++ attempt.repr
  | refundWithdrawalAttempt _ attempts => "_r" ++ attempts.repr
  | tripEarning _ => "_EARNING"
  | tripTax _ => "_TAX"
  | tripFee _ => "_FEE"
  | tripPromo _ redemption => "_PROMO_" ++ redemption.repr
  | tripCollected _ => "_COLLECTED"
  | tripRefundReversal _ => "_REFUND_REVERSAL"
  | recoveryDeduction _ w => "_w" ++ w.repr

def text (r : Ref) : String :=
  r.stem ++ r.subject.repr ++ r.tail

example : (refundWithdrawalAttempt 12 3).text = "refund_withdrawal_12_r3" := by decide

/-! ### Texts determine references -/

lemma isDigit_of_mem_repr {n : ℕ} {c : Char} (hc : c ∈ n.repr.toList) : c.isDigit := by
  rw [Nat.toList_repr] at hc
  exact Nat.isDigit_of_mem_toDigits (by decide) (by decide) hc

lemma repr_toList_ne_nil (n : ℕ) : n.repr.toList ≠ [] := by
  rw [Nat.toList_repr]
  exact Nat.toDigits_ne_nil

lemma all_not_isDigit_stem (r : Ref) : (r.stem.toList.all fun c => !c.isDigit) = true := by
  cases r <;> simp only [stem] <;> decide +kernel

lemma not_isDigit_of_mem_stem (r : Ref) : ∀ c ∈ r.stem.toList, ¬ c.isDigit := by
  intro c hc
  have hall := List.all_eq_true.mp (all_not_isDigit_stem r) c hc
  simpa using hall

lemma tail_eq_nil_or (r : Ref) : r.tail.toList = [] ∨ ∃ z, r.tail.toList = '_' :: z := by
  cases r <;> simp [tail, String.toList_append]

/-- Two lists that agree, each a part inside `P` followed by a part that does not begin
inside `P`, agree part by part. -/
lemma append_split {P : Char → Bool} {a a' b b' : List Char} (ha : ∀ c ∈ a, P c)
    (ha' : ∀ c ∈ a', P c) (hb : ∀ c ∈ b.head?, ¬ P c) (hb' : ∀ c ∈ b'.head?, ¬ P c)
    (h : a ++ b = a' ++ b') : a = a' ∧ b = b' := by
  induction a generalizing a' with
  | nil =>
      cases a' with
      | nil => exact ⟨rfl, h⟩
      | cons c a' =>
          rw [List.nil_append, List.cons_append] at h
          exact absurd (ha' c (by simp)) (hb c (by simp [h]))
  | cons c a ih =>
      cases a' with
      | nil =>
          rw [List.nil_append, List.cons_append] at h
          exact absurd (ha c (by simp)) (hb' c (by simp [← h]))
      | cons c' a' =>
          simp only [List.cons_append, List.cons.injEq] at h
          obtain ⟨rfl, h⟩ := h
          obtain ⟨h₁, h₂⟩ :=
            ih (fun c hc => ha c (by simp [hc])) (fun c hc => ha' c (by simp [hc])) h
          exact ⟨by rw [h₁], h₂⟩

/-- A text splits in one way into a part without digits, a number and a part that begins
with no digit. -/
lemma parts_unique {p p' z z' : List Char} {n n' : ℕ} (hp : ∀ c ∈ p, ¬ c.isDigit)
    (hp' : ∀ c ∈ p', ¬ c.isDigit) (hz : z = [] ∨ ∃ y, z = '_' :: y)
    (hz' : z' = [] ∨ ∃ y, z' = '_' :: y)
    (h : p ++ n.repr.toList ++ z = p' ++ n'.repr.toList ++ z') : p = p' ∧ n = n' ∧ z = z' := by
  have hhead : ∀ (m : ℕ) (y : List Char), ∀ c ∈ (m.repr.toList ++ y).head?,
      ¬ (fun c : Char => !c.isDigit) c := by
    intro m y c hc
    obtain ⟨d, l, hd⟩ := List.exists_cons_of_ne_nil (repr_toList_ne_nil m)
    rw [hd] at hc
    have hcd : d = c := by simpa using hc
    subst hcd
    simpa using isDigit_of_mem_repr (n := m) (c := d) (by simp [hd])
  have hsep : ∀ y : List Char, (y = [] ∨ ∃ x, y = '_' :: x) → ∀ c ∈ y.head?, ¬ c.isDigit := by
    rintro y (rfl | ⟨x, rfl⟩) c hc
    · simp at hc
    · have hc' : '_' = c := by simpa using hc
      subst hc'
      decide
  rw [List.append_assoc, List.append_assoc] at h
  obtain ⟨h₁, h₂⟩ := append_split (P := fun c => !c.isDigit) (by simpa using hp)
    (by simpa using hp') (hhead n z) (hhead n' z') h
  obtain ⟨h₃, h₄⟩ := append_split (P := Char.isDigit) (fun c hc => isDigit_of_mem_repr hc)
    (fun c hc => isDigit_of_mem_repr hc) (hsep z hz) (hsep z' hz') h₂
  exact ⟨h₁, Nat.repr_inj.mp (String.toList_injective h₃), h₄⟩

lemma toList_text (r : Ref) :
    r.text.toList = r.stem.toList ++ r.subject.repr.toList ++ r.tail.toList := by
  simp [text, String.toList_append]

/-- References with the same text are equal. -/
theorem text_injective : Function.Injective text := by
  intro a b h
  have h' := congrArg String.toList h
  rw [toList_text, toList_text] at h'
  obtain ⟨hs, hn, ht⟩ := parts_unique (not_isDigit_of_mem_stem a) (not_isDigit_of_mem_stem b)
    (tail_eq_nil_or a) (tail_eq_nil_or b) h'
  cases a <;> cases b <;>
    simp_all [-Nat.toList_repr, stem, subject, tail, String.toList_append, String.toList_inj,
      Nat.repr_inj]

end Ref
end SaaradhiGo.Money
