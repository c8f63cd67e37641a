/-
Histories of the commission workflow.

A history is a sequence of operations, each some time after the one before: drafts and their
edits, submissions, closed requests, activations and changed settings.  Over every history the
windows of a scope do not overlap, no operation changes what governed before it, and `resolve`
returns the greatest of the rules in force, from the rows and from a list alike.
-/
import SaaradhiGo.Commission.Windows

namespace SaaradhiGo.Commission

open AdminAccess

/-- An activation that went through, with the notice its country asked for then. -/
structure Activation where
  rule : ℕ
  moment : ℤ
  noticeDays : ℕ
deriving DecidableEq, Repr

/-- The tables and the clock, with the record of the activations so far. -/
structure Office where
  books : Books
  clock : ℤ
  activations : List Activation

/-- One operation. -/
inductive Act where
  | draft (actor : Actor) (d : Draft)
  | edit (ruleId : ℕ) (percent effectiveFrom : Option ℤ) (reason : String)
  | discard (ruleId : ℕ)
  | submit (actor : Actor) (ruleId : ℕ) (reason : String) (answer : Except String Outcome)
  | closed (ruleId requestId : ℕ)
  | approve (ruleId requestId : ℕ)
  | configure (country : String) (noticeDays : ℕ) (maxPercent : Option ℤ) (baseVersion : ℕ)

/-- What an operation leaves: one that raises leaves the tables as they were. -/
def kept {ε : Type} (db : Books) : Except ε Books → Books
  | .ok db' => db'
  | .error _ => db

/-- The tables after an operation at the moment `now`. -/
def Act.perform (m : Market) (now : ℤ) (db : Books) : Act → Books
  | draft actor d => kept db (createDraft m now actor d db)
  | edit ruleId percent effectiveFrom reason =>
      kept db (updateDraft m now ruleId percent effectiveFrom reason db)
  | discard ruleId => kept db (discardDraft ruleId db)
  | submit actor ruleId reason answer =>
      kept db (Commission.submit m now actor ruleId reason answer db)
  | closed ruleId requestId => requestClosed ruleId requestId db
  | approve ruleId requestId => kept db (activate m now ruleId requestId db)
  | configure country noticeDays maxPercent baseVersion =>
      applyCountryConfig country noticeDays maxPercent baseVersion db

/-- The activation an operation makes. -/
def Act.activation (m : Market) (now : ℤ) (db : Books) : Act → Option Activation
  | approve ruleId requestId =>
      match activate m now ruleId requestId db, db.rules.get? ruleId with
      | .ok _, some rule => some ⟨ruleId, now, db.noticeDays rule.country⟩
      | _, _ => none
  | _ => none

/-- An operation, `delay` after the one before. -/
structure Move where
  delay : ℕ
  act : Act

def step (m : Market) (s : Office) (x : Move) : Office :=
  let now := s.clock + x.delay
  ⟨x.act.perform m now s.books, now, s.activations ++ (x.act.activation m now s.books).toList⟩

def Office.opening : Office := ⟨⟨Table.empty, Table.empty, Table.empty, 1, 1⟩, 0, []⟩

section Steps

variable {m : Market} {s : Office} {x : Move} {db : Books} {now : ℤ}

lemma kept_opening : Kept m Office.opening.books := by
  have hnone : Office.opening.books.approved = [] := rfl
  refine ⟨fun r hr => ?_, Nat.one_pos, fun r hr => ?_, fun r hr => ?_, fun r hr => ?_,
    fun r hr => ?_, ⟨fun r hr => ?_, fun r hr => ?_⟩, fun r hr => ?_, fun r hr => ?_,
    fun n hn => ?_⟩
  · exact absurd hr List.not_mem_nil
  · exact absurd hr List.not_mem_nil
  · exact absurd hr List.not_mem_nil
  · exact absurd hr List.not_mem_nil
  · exact absurd hr List.not_mem_nil
  · rw [hnone] at hr
    exact absurd hr List.not_mem_nil
  · rw [hnone] at hr
    exact absurd hr List.not_mem_nil
  · rw [hnone] at hr
    exact absurd hr List.not_mem_nil
  · rw [hnone] at hr
    exact absurd hr List.not_mem_nil
  · exact absurd hn List.not_mem_nil

lemma perform_cases (now : ℤ) (h : Kept m db) (act : Act) :
    (Kept m (act.perform m now db) ∧ SameApproved db (act.perform m now db) ∧
      act.activation m now db = none) ∨
      ∃ ruleId requestId rule, act = .approve ruleId requestId ∧
        activate m now ruleId requestId db = .ok (act.perform m now db) ∧
        db.rules.get? ruleId = some rule ∧
        Activated m now rule db (act.perform m now db) ∧
        act.activation m now db = some ⟨ruleId, now, db.noticeDays rule.country⟩ := by
  have hkeep : ∀ {ε : Type} (result : Except ε Books),
      (∀ db', result = .ok db' → Kept m db' ∧ SameApproved db db') →
        Kept m (kept db result) ∧ SameApproved db (kept db result) := by
    intro ε result hresult
    cases hr : result with
    | ok db' => exact hresult db' hr
    | error e => exact ⟨h, .refl _⟩
  cases act with
  | draft actor d =>
      obtain ⟨hk, hs⟩ := hkeep (createDraft m now actor d db) fun _ => kept_createDraft h
      exact .inl ⟨hk, hs, rfl⟩
  | edit ruleId percent effectiveFrom reason =>
      obtain ⟨hk, hs⟩ := hkeep (updateDraft m now ruleId percent effectiveFrom reason db)
        fun _ => kept_updateDraft h
      exact .inl ⟨hk, hs, rfl⟩
  | discard ruleId =>
      obtain ⟨hk, hs⟩ := hkeep _ fun _ => kept_discardDraft h
      exact .inl ⟨hk, hs, rfl⟩
  | submit actor ruleId reason answer =>
      obtain ⟨hk, hs⟩ := hkeep (Commission.submit m now actor ruleId reason answer db)
        fun _ => kept_submit h
      exact .inl ⟨hk, hs, rfl⟩
  | closed ruleId requestId =>
      obtain ⟨hk, hs⟩ := kept_requestClosed h
      exact .inl ⟨hk, hs, rfl⟩
  | configure country noticeDays maxPercent baseVersion =>
      obtain ⟨hk, hs⟩ := kept_applyCountryConfig h
      exact .inl ⟨hk, hs, rfl⟩
  | approve ruleId requestId =>
      rw [Act.perform, Act.activation]
      cases hok : activate m now ruleId requestId db with
      | error e => exact .inl ⟨h, .refl _, rfl⟩
      | ok db' =>
          obtain ⟨rule, hget, hact⟩ := activated_of_activate hok
          rw [hget]
          exact .inr ⟨ruleId, requestId, rule, rfl, hok, hget, hact, rfl⟩

lemma kept_step (h : Kept m s.books) : Kept m (step m s x).books := by
  rcases perform_cases (s.clock + x.delay) h x.act with ⟨hk, -⟩ | ⟨_, _, _, -, -, -, hact, -⟩
  · exact hk
  · exact h.activate hact

/-- What a trip keeps of the rule that governs a cell. -/
def decisionAt (m : Market) (db : Books) (country : String) (city vehicleType : Option ℕ)
    (t : ℤ) : Option (ℤ × ℕ × ℕ) :=
  (rate m db country city vehicleType t).map (·.decision)

/-- No operation changes what governed before it. -/
lemma decisionAt_step (h : Kept m s.books) {country : String} {city vehicleType : Option ℕ} {t : ℤ}
    (ht : t < s.clock + x.delay) :
    decisionAt m (step m s x).books country city vehicleType t =
      decisionAt m s.books country city vehicleType t := by
  rw [decisionAt, decisionAt, step]
  rcases perform_cases (s.clock + x.delay) h x.act with
    ⟨-, hsame, -⟩ | ⟨_, _, rule, -, -, -, hact, -⟩
  · rw [h.rate_congr fun r => hsame.inForce r]
  · have heff : s.clock + x.delay ≤ effectiveDate m s.books (s.clock + x.delay) rule :=
      effectiveDate_ge
    rw [rate_activate h hact (ht.trans_le heff), Option.map_map]
    refine congrArg (fun f => Option.map f _) (funext fun r => ?_)
    rw [Function.comp_apply, afterActivation]
    split <;> rfl

end Steps

/-- After every history the windows of the non-draft rules of one scope do not overlap, no
operation of it changed what governed before its own moment, and what `resolve` returns is the
greatest of the rules in force, whether it reads the rows or a list of them. -/
theorem windows_of_history (m : Market) (xs : List Move) :
    (∀ r ∈ (Transition.run (step m) Office.opening xs).books.rules.rows,
      ∀ r' ∈ (Transition.run (step m) Office.opening xs).books.rules.rows,
        r.status ≠ .draft → r'.status ≠ .draft → r.scope = r'.scope → r ≠ r' →
          ∀ t, ¬ (r.appliesAt t = true ∧ r'.appliesAt t = true)) ∧
      Transition.Guarded (step m)
        (fun s x => ∀ country city vehicleType t, t < s.clock + x.delay →
          decisionAt m (step m s x).books country city vehicleType t =
            decisionAt m s.books country city vehicleType t) Office.opening xs ∧
      ∀ country city vehicleType t,
        (∀ r, rate m (Transition.run (step m) Office.opening xs).books country city vehicleType t
            = some r →
          InForce m (Transition.run (step m) Office.opening xs).books country city vehicleType t r ∧
            ∀ r', InForce m (Transition.run (step m) Office.opening xs).books country city
              vehicleType t r' → m.key r' ≤ m.key r) ∧
        (rate m (Transition.run (step m) Office.opening xs).books country city vehicleType t = none →
          ∀ r, ¬ InForce m (Transition.run (step m) Office.opening xs).books country city
            vehicleType t r) ∧
        ∀ rules : List CommissionRule, (∀ r, r ∈ rules ↔
            r ∈ (Transition.run (step m) Office.opening xs).books.applicable country) →
          resolve m (Transition.run (step m) Office.opening xs).books country city vehicleType t none
              (some rules) =
            rate m (Transition.run (step m) Office.opening xs).books country city vehicleType t := by
  have hkept : Kept m (Transition.run (step m) Office.opening xs).books :=
    Transition.invariant (I := fun (s : Office) => Kept m s.books) (fun _ _ h => kept_step h) xs kept_opening
  refine ⟨fun r hr r' hr' _ _ hscope hne t happlies => ?_, ?_, fun country city vehicleType t =>
    ⟨fun r hrate => inForce_of_rate hrate, fun hnone r hforce => ?_, fun rules hrules =>
      hkept.resolve_preloaded hrules⟩⟩
  · obtain ⟨hstatus, ht⟩ := CommissionRule.appliesAt_iff.mp happlies.1
    obtain ⟨hstatus', ht'⟩ := CommissionRule.appliesAt_iff.mp happlies.2
    exact hne (hkept.successive.eq_of_contains (mem_approved.mpr ⟨hr, hstatus⟩)
      (mem_approved.mpr ⟨hr', hstatus'⟩) hscope ht ht')
  · exact Transition.guarded_of_invariant (I := fun (s : Office) => Kept m s.books)
      (fun _ _ (_ : True) h => kept_step h) (fun _ _ _ h _ _ _ _ ht => decisionAt_step h ht) kept_opening
      (Transition.guarded_iff_forall_prefix.mpr fun _ _ _ => trivial)
  · have hcountry : country ≠ "" := by
      rintro rfl
      exact m.named (hforce.country_eq ▸ hkept.served r hforce.mem)
    exact (rate_eq_none_iff hcountry).mp hnone r hforce

end SaaradhiGo.Commission
