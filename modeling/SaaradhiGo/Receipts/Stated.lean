/-
The tax a receipt states.

A receipt states what was charged exactly when the tax that was charged is, at the percentage and
the fee found at the time, that percentage of the rest of the amount, as far as rounding moves it
(`Context.States`).  A receipt keeps its amount, so all receipts of a trip state the tax when each
was made in such a context (`stated_step`).
-/
import SaaradhiGo.Receipts.Issue
import SaaradhiGo.Pricing.SplitBack
import SaaradhiGo.OperatorEnd.Charged

namespace SaaradhiGo.Receipts

open SaaradhiGo.Money SaaradhiGo.Fares SaaradhiGo.Pricing SaaradhiGo.Settlement
open SaaradhiGo.OperatorEnd Rounding

/-! ## A percentage and a tax -/

/-- What the percentage of the rest of a base differs from the tax by. -/
def gap (percent base : ℚ) (tax : ℤ) : ℚ := (base - tax) * (percent / 100) - tax

/-- A tax is the percentage of the rest of its base, up to half a unit with its own tax; a half
counts on the side of zero. -/
def TaxFits (percent base : ℚ) (tax : ℤ) : Prop :=
  |gap percent base tax| < |tolerance percent| ∨
    0 < tax ∧ gap percent base tax = -tolerance percent ∨
    tax < 0 ∧ gap percent base tax = tolerance percent

/-- What a percentage takes out of a base that contains it. -/
def contained (percent base : ℚ) : ℚ := base * percent / (100 + percent)

section Percent

variable {percent base : ℚ} {tax : ℤ}

lemma contained_sub (h : 1 + percent / 100 ≠ 0) :
    contained percent base - tax = gap percent base tax / (2 * tolerance percent) := by
  have hhundred : 100 + percent ≠ 0 := by
    intro hzero
    exact h (by linarith)
  rw [contained, gap, tolerance]
  field_simp
  ring

lemma nearest_contained_iff (h : 1 + percent / 100 ≠ 0) :
    Nearest tax (contained percent base) ↔ TaxFits percent base tax := by
  have htol : tolerance percent ≠ 0 := by
    rw [tolerance]
    exact div_ne_zero h (by norm_num)
  have hpos : 0 < |2 * tolerance percent| := abs_pos.mpr (mul_ne_zero (by norm_num) htol)
  have hdouble : |2 * tolerance percent| = 2 * |tolerance percent| := by
    rw [abs_mul, abs_of_pos (by norm_num : (0 : ℚ) < 2)]
  have hlt : |gap percent base tax / (2 * tolerance percent)| < 1 / 2 ↔
      |gap percent base tax| < |tolerance percent| := by
    rw [abs_div, div_lt_iff₀ hpos, hdouble]
    constructor <;> intro hle <;> linarith
  have hlow : gap percent base tax / (2 * tolerance percent) = -(1 / 2) ↔
      gap percent base tax = -tolerance percent := by
    rw [div_eq_iff (mul_ne_zero (by norm_num) htol)]
    constructor <;> intro heq <;> linarith
  have hhigh : gap percent base tax / (2 * tolerance percent) = 1 / 2 ↔
      gap percent base tax = tolerance percent := by
    rw [div_eq_iff (mul_ne_zero (by norm_num) htol)]
    constructor <;> intro heq <;> linarith
  rw [Nearest, contained_sub h, hlt, hlow, hhigh, TaxFits]

end Percent

/-! ## What a receipt is made from -/

namespace Context

variable (c : Charge) (x : Context)

/-- The percentage that is found. -/
def percent : ℚ := resolveTaxRate x.market x.booked

/-- The fee that is found, in minor units. -/
def fee : ℚ := (x.booked.zone.map (·.perTripFee)).getD 0 * 100

/-- The amount the tax is worked out of, in minor units: without the fee where tax comes on top. -/
def base : ℚ :=
  match taxMode x.booked with
  | .inclusive => taxBasis c x
  | .additive => max 0 (taxBasis c x - x.fee)

/-- What a receipt that is made now states is what was charged.  A percentage of minus a hundred
leaves no rest, and the whole base is taken. -/
def States : Prop :=
  if 1 + x.percent / 100 = 0 then Nearest c.tax (-x.base c)
  else TaxFits x.percent (x.base c) c.tax

def Works : Prop := taxMode x.booked = .inclusive → 100 + x.percent ≠ 0

end Context

def Makes (d : Desk) : Event → Prop
  | .change _ => False
  | .issue _ _ => d.context.rider ≠ none ∧ d.context.Works ∧ d.receipts = []
  | .reissue _ => d.context.rider ≠ none ∧ d.context.Works

def Stated (c : Charge) (r : Receipt) : Prop := r.gstAmount = fromMinor c.tax r.currency

/-! ## The amount of a receipt -/

section Amount

variable {c : Charge} {x : Context}

lemma quantize_minor (minor : ℚ) (currency : Currency) :
    quantize (minor / 100) currency = fromMinor (halfUp minor) currency := by
  rw [quantize_eq, fromMinor_eq, div_mul_cancel₀ _ (by norm_num)]

lemma max_sub_fee (basis : ℤ) (fee : ℚ) (currency : Currency) :
    max 0 (fromMinor basis currency - fee) = max 0 (basis - fee * 100) / 100 := by
  have hsub : fromMinor basis currency - fee = (basis - fee * 100) / 100 := by
    rw [fromMinor_eq]
    ring
  have hzero : (0 : ℚ) = 0 / 100 := by norm_num
  rw [hsub]
  nth_rewrite 1 [hzero]
  rw [max_div_div_right (by norm_num)]

/-- What is rounded to the amount of a receipt, in minor units. -/
def share (percent base : ℚ) : ℚ :=
  if 1 + percent / 100 = 0 then -base else contained percent base

lemma receiptTax_amount {tax : ReceiptTax}
    (h : receiptTax x.booked (fromMinor (taxBasis c x) (currencyForTrip x.booked)) x.percent =
      some tax) :
    tax.amount = fromMinor (halfUp (share x.percent (x.base c))) tax.currency := by
  cases hmode : taxMode x.booked with
  | inclusive =>
      have hbase : x.base c = taxBasis c x := by rw [Context.base, hmode]
      simp only [receiptTax, hmode] at h
      split at h
      · cases h
      · rename_i hwhole
        cases h
        have hone : 1 + x.percent / 100 ≠ 0 := fun hzero => hwhole (by linarith)
        have hpart : (taxBasis c x : ℚ) / 100 * x.percent / (100 + x.percent) =
            taxBasis c x * x.percent / (100 + x.percent) / 100 := by ring
        rw [share, if_neg hone, hbase, contained, ← quantize_minor]
        dsimp only
        rw [fromMinor_eq, hpart]
  | additive =>
      have hbase : x.base c = max 0 (taxBasis c x - x.fee) := by rw [Context.base, hmode]
      simp only [receiptTax, hmode, max_sub_fee] at h
      cases h
      rw [share, hbase, Context.fee, ← quantize_minor]
      dsimp only
      congr 1
      by_cases hone : 1 + x.percent / 100 = 0
      · rw [if_pos hone, if_neg (not_not.mpr hone)]
        have hpercent : x.percent = -100 := by linarith
        rw [hpercent]
        ring
      · have hhundred : 100 + x.percent ≠ 0 := fun hzero => hone (by linarith)
        rw [if_neg hone, if_pos hone, contained]
        field_simp

lemma stated_newReceipt_iff {email : String} {version : ℕ} {r : Receipt}
    (h : newReceipt c x email version = some r) : Stated c r ↔ x.States c := by
  obtain ⟨tax, htax, rfl⟩ := Option.map_eq_some_iff.mp h
  show tax.amount = fromMinor c.tax tax.currency ↔ x.States c
  rw [receiptTax_amount htax, fromMinor_inj, halfUp_eq_iff_nearest, share, Context.States]
  by_cases hone : 1 + x.percent / 100 = 0
  · rw [if_pos hone, if_pos hone]
  · rw [if_neg hone, if_neg hone, nearest_contained_iff hone]

lemma newReceipt_eq_none_iff {email : String} {version : ℕ} :
    newReceipt c x email version = none ↔ ¬ x.Works := by
  rw [newReceipt, Option.map_eq_none_iff, Context.Works]
  cases hmode : taxMode x.booked with
  | inclusive =>
      simp only [receiptTax, hmode]
      by_cases hwhole : 100 + resolveTaxRate x.market x.booked = 0
      · simp [Context.percent, hwhole]
      · simp [Context.percent, hwhole]
  | additive => simp [receiptTax, hmode]

end Amount

/-! ## Runs -/

section Run

variable {c : Charge} {d : Desk}

lemma stated_sent {r : Receipt} {now : ℤ} {mail : Bool × String} :
    Stated c (r.sent now mail) ↔ Stated c r := Iff.rfl

/-- A receipt is made beside the others, and states the tax when its context does. -/
lemma stated_make {email : String} {version : ℕ} {mail : Bool × String} :
    (∀ r ∈ (d.make c email version mail).receipts, Stated c r) ↔
      (∀ r ∈ d.receipts, Stated c r) ∧ (d.context.Works → d.context.States c) := by
  rw [Desk.make]
  cases hnew : newReceipt c d.context email version with
  | none =>
      have hworks := newReceipt_eq_none_iff.mp hnew
      exact (and_iff_left fun h => absurd h hworks).symm
  | some r =>
      have hworks : d.context.Works := by
        by_contra h
        rw [newReceipt_eq_none_iff.mpr h] at hnew
        cases hnew
      dsimp only
      rw [List.forall_mem_cons, stated_sent, stated_newReceipt_iff hnew, and_comm]
      exact and_congr_right fun _ => ⟨fun h _ => h, fun h => h hworks⟩

lemma latest_eq_none_iff {receipts : List Receipt} : latest receipts = none ↔ receipts = [] :=
  List.argmax_eq_none

/-- After an event all receipts state the tax when they did before and the one that is made
does. -/
lemma stated_step (c : Charge) (d : Desk) (e : Event) :
    (∀ r ∈ (step c d e).receipts, Stated c r) ↔
      (∀ r ∈ d.receipts, Stated c r) ∧ (Makes d e → d.context.States c) := by
  cases e with
  | change x => exact (and_iff_left fun h => h.elim).symm
  | issue forceResend mail =>
      show (∀ r ∈ (d.issueReceipt c forceResend mail).receipts, Stated c r) ↔ _
      rw [Desk.issueReceipt]
      cases hrider : d.context.rider with
      | none => exact (and_iff_left fun h => absurd hrider h.1).symm
      | some email =>
          cases hlatest : latest d.receipts with
          | none =>
              have hnone : d.receipts = [] := latest_eq_none_iff.mp hlatest
              dsimp only
              rw [stated_make]
              refine and_congr_right fun _ => ⟨fun h hm => h hm.2.1, fun h hworks => h ?_⟩
              exact ⟨by rw [hrider]; exact Option.some_ne_none email, hworks, hnone⟩
          | some existing =>
              have hsome : d.receipts ≠ [] := by
                intro hnone
                rw [latest_eq_none_iff.mpr hnone] at hlatest
                cases hlatest
              have hmade : ¬ Makes d (.issue forceResend mail) := fun h => hsome h.2.2
              rw [and_iff_left fun h => absurd h hmade]
              cases forceResend with
              | false => exact Iff.rfl
              | true =>
                  -- sending a receipt again changes no amount
                  simp only [if_true, List.forall_mem_map]
                  refine forall₂_congr fun r _ => ?_
                  split
                  · exact stated_sent
                  · exact Iff.rfl
  | reissue mail =>
      show (∀ r ∈ (d.reissueReceipt c mail).receipts, Stated c r) ↔ _
      rw [Desk.reissueReceipt]
      cases hrider : d.context.rider with
      | none => exact (and_iff_left fun h => absurd hrider h.1).symm
      | some email =>
          dsimp only
          rw [stated_make]
          refine and_congr_right fun _ => ⟨fun h hm => h hm.2, fun h hworks => h ?_⟩
          exact ⟨by rw [hrider]; exact Option.some_ne_none email, hworks⟩

end Run

end SaaradhiGo.Receipts
