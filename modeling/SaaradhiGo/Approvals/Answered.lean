/-
What a maker is answered who raises a request of an action without an amount.

Such an action always asks a checker.  The answer is the request that holds the key, if one
does, and otherwise a new one.  A key is held by an open request and by one that was carried
out; so the answer is an undecided request exactly when none under the key was decided and
not released (`undecided_raiseAlone_iff`).
-/
import Mathlib.Tactic.Common
import SaaradhiGo.Approvals.Once

namespace SaaradhiGo.Approvals

open Interleave

variable {τ ω ε : Type} {reg : Registry ω ε} {caller : τ} {c : RaiseCall ω ε} {s : Store τ ω}
  {es : List (Choice ε)}

lemma kept_of_run [DecidableEq τ] {ms : List (ServiceMove τ ω ε)} (hs : Kept s)
    (h : Transition.Guarded (serviceStep reg) Named ⟨fun _ => none, s⟩ ms) :
    Kept (Transition.run (serviceStep reg) ⟨fun _ => none, s⟩ ms).store := by
  have hstart : Consistent (⟨fun _ => none, s⟩ : ServicePool τ ω ε) ∧
      AllSound reg (⟨fun _ => none, s⟩ : ServicePool τ ω ε) := by
    refine ⟨⟨hs, fun t a q ht => ?_⟩, fun t a q hrun => ?_⟩
    · cases ht
    · cases hrun.1
  exact (Transition.invariant_of_guarded invariant_serviceStep hstart h).1.1

/-! ## A call alone -/

/-- The answer of a call that has returned. -/
def replyOf : Program τ ω ε → Option Reply
  | .ret r => some r
  | .op _ _ => none

/-- `require_approval_or_execute`, with nothing happening between its operations. -/
def raiseAlone (reg : Registry ω ε) (caller : τ) (c : RaiseCall ω ε) (es : List (Choice ε))
    (s : Store τ ω) : Option Reply × Store τ ω :=
  let out := Prog.runAlone (exec reg)
    (requireApprovalOrExecute reg caller c s.authority s.now) es s
  (replyOf out.1, out.2)

/-- The database raises nothing, and the process does not die before the call returns. -/
structure Smooth (es : List (Choice ε)) : Prop where
  raises : ∀ e ∈ es, e.raises = none
  length : 7 ≤ es.length

/-- The action ran now, or the request is still undecided. -/
def Reply.Undecided : Reply → Prop
  | .outcome r executed _ => executed = true ∨ r.status = .requested
  | _ => False

/-- The policy has an answer to the call, and it is that a checker is needed. -/
def RaiseCall.AsksChecker (c : RaiseCall ω ε) (s : Store τ ω) : Prop :=
  ∃ policy, decideChecker c.actionKey c.country c.amount c.currency
    (s.policies (upperStrip c.country) c.actionKey) = .ok (true, policy)

/-- No request under the key was decided and holds it still. -/
def Store.Undecided (s : Store τ ω) (key : String) : Prop :=
  ∀ r ∈ s.requests.rows, r.idempotencyKey = key → r.status ≠ .approved ∧ r.status ≠ .executed

/-! ## The policy -/

/-- Without an amount nobody is below a limit. -/
lemma decideChecker_none {key country currency : String} {policy p : Option ApprovalPolicy}
    {needs : Bool} (h : decideChecker key country none currency policy = .ok (needs, p)) :
    needs = true := by
  rw [decideChecker] at h
  split at h
  · cases h
  split at h
  · cases h
  split at h
  · cases h
    rfl
  split at h
  · cases h
  split at h
  · cases h
    rfl
  split at h
  · cases h
    rfl
  · cases h

lemma checkCountry_of_decideChecker {key country currency : String} {amount : Option ℤ}
    {policy : Option ApprovalPolicy} {x : Bool × Option ApprovalPolicy}
    (h : decideChecker key country amount currency policy = .ok x) :
    checkCountry country = .ok (upperStrip country) := by
  rw [checkCountry]
  split
  · rfl
  · rename_i hcountry
    rw [decideChecker, checkCountry, if_neg hcountry] at h
    split at h
    · cases h
    · cases h

/-! ## One operation after the other -/

/-- An operation that does not raise is performed, and the call goes on. -/
lemma runAlone_perform {o : Op τ ω ε} {k : Val o → Program τ ω ε} {e : Choice ε} {x : Val o}
    {s' : Store τ ω} (h : exec reg o e s = (.ok x, s')) :
    Prog.runAlone (exec reg) (perform o k) (e :: es) s = Prog.runAlone (exec reg) (k x) es s' := by
  rw [perform, Prog.runAlone, h]

/-- A smooth list starts with a choice that raises nothing; what follows is long enough. -/
lemma Smooth.uncons {n : ℕ} (hes : ∀ e ∈ es, e.raises = none) (hlen : n + 1 ≤ es.length) :
    ∃ e es', es = e :: es' ∧ e.raises = none ∧ (∀ x ∈ es', x.raises = none) ∧
      n ≤ es'.length := by
  cases es with
  | nil => simp at hlen
  | cons e es' =>
      refine ⟨e, es', rfl, hes e List.mem_cons_self,
        fun x hx => hes x (List.mem_cons_of_mem _ hx), ?_⟩
      rw [List.length_cons] at hlen
      omega

section Raise

variable (hpre : c.precheck s.authority = .ok ()) (hes : Smooth es)

include hpre hes

lemma raiseAlone_of_refused {f : Failure}
    (h : c.prepare reg s.now (s.policies (upperStrip c.country) c.actionKey) = .error f) :
    raiseAlone reg caller c es s = (some (.failed f), s) := by
  obtain ⟨e, es', rfl, he, -, -⟩ := Smooth.uncons (n := 6) hes.raises hes.length
  have hpolicy : exec reg (.activePolicy (upperStrip c.country) c.actionKey) e s
      = (.ok (s.policies (upperStrip c.country) c.actionKey), s) := by
    rw [exec, attempt, he]
  rw [raiseAlone, requireApprovalOrExecute, hpre]
  show (replyOf (Prog.runAlone _ (perform _ _) _ s).1, (Prog.runAlone _ (perform _ _) _ s).2) = _
  rw [runAlone_perform hpolicy, h]
  rfl

lemma raiseAlone_of_held {r : ApprovalRequest} {x : ApprovalRequest × Executor ω ε}
    (h : c.prepare reg s.now (s.policies (upperStrip c.country) c.actionKey) = .ok x)
    (hheld : s.existing c.idempotencyKey = some r) :
    raiseAlone reg caller c es s = (some (.outcome r false true), s) := by
  obtain ⟨e, es₁, rfl, he, hes₁, hlen₁⟩ := Smooth.uncons (n := 6) hes.raises hes.length
  obtain ⟨e₁, es₂, rfl, he₁, -, -⟩ := Smooth.uncons (n := 5) hes₁ hlen₁
  have hpolicy : exec reg (.activePolicy (upperStrip c.country) c.actionKey) e s
      = (.ok (s.policies (upperStrip c.country) c.actionKey), s) := by
    rw [exec, attempt, he]
  have hexisting : exec reg (.existing c.idempotencyKey) e₁ s = (.ok (some r), s) := by
    rw [exec, attempt, he₁, hheld]
  rw [raiseAlone, requireApprovalOrExecute, hpre]
  show (replyOf (Prog.runAlone _ (perform _ _) _ s).1, (Prog.runAlone _ (perform _ _) _ s).2) = _
  rw [runAlone_perform hpolicy, h]
  show (replyOf (Prog.runAlone _ (perform _ _) _ s).1, (Prog.runAlone _ (perform _ _) _ s).2) = _
  rw [runAlone_perform hexisting]
  rfl

/-- A key that is free gets a new request, which is open when a checker is needed. -/
lemma raiseAlone_of_free {row : ApprovalRequest} {executor : Executor ω ε}
    (h : c.prepare reg s.now (s.policies (upperStrip c.country) c.actionKey) = .ok (row, executor))
    (hfree : s.existing c.idempotencyKey = none) (hamount : c.amount = none)
    (hkey : row.idempotencyKey = c.idempotencyKey) (hstatus : row.status = .requested) :
    raiseAlone reg caller c es s = (some (.outcome { row with id := s.nextId } false false),
      (s.create caller row).2) := by
  obtain ⟨e, es₁, rfl, he, hes₁, hlen₁⟩ := Smooth.uncons (n := 6) hes.raises hes.length
  obtain ⟨e₁, es₂, rfl, he₁, hes₂, hlen₂⟩ := Smooth.uncons (n := 5) hes₁ hlen₁
  obtain ⟨e₂, es₃, rfl, he₂, hes₃, hlen₃⟩ := Smooth.uncons (n := 4) hes₂ hlen₂
  obtain ⟨e₃, es₄, rfl, he₃, -, -⟩ := Smooth.uncons (n := 3) hes₃ hlen₃
  have hpolicy : exec reg (.activePolicy (upperStrip c.country) c.actionKey) e s
      = (.ok (s.policies (upperStrip c.country) c.actionKey), s) := by
    rw [exec, attempt, he]
  have hexisting : exec reg (.existing c.idempotencyKey) e₁ s = (.ok none, s) := by
    rw [exec, attempt, he₁, hfree]
  have hcreate : exec reg (.create caller row) e₂ s
      = (.ok (some { row with id := s.nextId }), (s.create caller row).2) := by
    rw [exec, attempt, he₂, Store.create, if_neg (by rw [hkey, hfree]; exact fun h => by cases h.2)]
  have haudit : exec reg .audit e₃ (s.create caller row).2 = (.ok (), (s.create caller row).2) := by
    rw [exec, attempt, he₃]
  rw [raiseAlone, requireApprovalOrExecute, hpre]
  show (replyOf (Prog.runAlone _ (perform _ _) _ s).1, (Prog.runAlone _ (perform _ _) _ s).2) = _
  rw [runAlone_perform hpolicy, h]
  show (replyOf (Prog.runAlone _ (perform _ _) _ s).1, (Prog.runAlone _ (perform _ _) _ s).2) = _
  rw [runAlone_perform hexisting]
  show (replyOf (Prog.runAlone _ (ite _ _ _) _ s).1, (Prog.runAlone _ (ite _ _ _) _ s).2) = _
  rw [if_neg (by rw [hamount]; exact Bool.false_ne_true)]
  rw [runAlone_perform hcreate]
  show (replyOf (Prog.runAlone _ (perform _ _) _ _).1, (Prog.runAlone _ (perform _ _) _ _).2) = _
  rw [runAlone_perform haudit, if_pos hstatus]
  rfl

end Raise

/-! ## The holder of a key -/

lemma mem_of_existing {key : String} {r : ApprovalRequest} (h : s.existing key = some r) :
    r ∈ s.requests.rows ∧ r.idempotencyKey = key ∧ r.status ∈ keyHeldStatuses := by
  have hmem := List.mem_of_find?_eq_some h
  have hfound := List.find?_some h
  rw [Bool.and_eq_true, decide_eq_true_eq, decide_eq_true_eq] at hfound
  exact ⟨hmem, hfound.1, hfound.2⟩

lemma existing_eq_some (hs : Kept s) {r : ApprovalRequest} (hr : r ∈ s.requests.rows)
    (hheld : r.status ∈ keyHeldStatuses) : s.existing r.idempotencyKey = some r := by
  cases hfound : s.existing r.idempotencyKey with
  | none =>
      exact absurd (by rw [heldKey, if_pos hheld]) (existing_eq_none hfound r hr)
  | some r' =>
      obtain ⟨hr', hkey, hheld'⟩ := mem_of_existing hfound
      rw [(exactlyOnce_of_kept hs).holder r hr r' hr' hheld hheld' hkey.symm]

lemma held_cases {status : RequestStatus} (h : status ∈ keyHeldStatuses) :
    status = .requested ∨ status = .approved ∨ status = .executed := by
  simpa [keyHeldStatuses] using h

/-! ## The answer -/

/-- What `prepare` gives for an action without an amount: it fails, or the new request waits
for a checker, under the given key. -/
lemma prepare_cases (hamount : c.amount = none) (hcurrency : c.currency = "")
    (hexec : (reg.executorFor c.actionKey).isSome) (hkey : c.idempotencyKey.length ≤ 200) :
    (¬ c.AsksChecker s ∧ ∃ f, c.prepare reg s.now (s.policies (upperStrip c.country) c.actionKey)
        = .error f) ∨
      (c.AsksChecker s ∧ ∃ row executor,
        c.prepare reg s.now (s.policies (upperStrip c.country) c.actionKey) = .ok (row, executor) ∧
          row.status = .requested ∧ row.idempotencyKey = c.idempotencyKey) := by
  obtain ⟨registered, hregistered⟩ := Option.isSome_iff_exists.mp hexec
  have hcur : c.checkCurrency = .ok "" := by rw [RaiseCall.checkCurrency, if_pos hcurrency]
  have hslice : sliceTo 200 c.idempotencyKey = c.idempotencyKey := by
    rw [sliceTo, List.take_of_length_le (by rwa [String.length_toList]), String.ofList_toList]
  cases hdecide : decideChecker c.actionKey c.country c.amount c.currency
      (s.policies (upperStrip c.country) c.actionKey) with
  | error f =>
      refine .inl ⟨?_, f, ?_⟩
      · rintro ⟨policy, hok⟩
        rw [hdecide] at hok
        cases hok
      · rw [RaiseCall.prepare, hdecide]
  | ok x =>
      obtain ⟨needs, policy⟩ := x
      have hneeds : needs = true := decideChecker_none (by rw [← hamount]; exact hdecide)
      subst hneeds
      have hprepare : c.prepare reg s.now (s.policies (upperStrip c.country) c.actionKey) =
          .ok (c.row s.now (upperStrip c.country) "" true policy, c.execute.getD registered) := by
        rw [RaiseCall.prepare, hdecide, checkCountry_of_decideChecker hdecide, hcur, hregistered]
        rfl
      exact .inr ⟨⟨policy, hdecide⟩, _, _, hprepare, rfl, hslice⟩

variable (hpre : c.precheck s.authority = .ok ()) (hes : Smooth es) (hamount : c.amount = none)
  (hcurrency : c.currency = "") (hexec : (reg.executorFor c.actionKey).isSome)
  (hkey : c.idempotencyKey.length ≤ 200) (hs : Kept s)

include hpre hes hamount hcurrency hexec hkey hs

/-- The maker is answered with an undecided request exactly when the policy asks a checker and
no request under the key was approved or executed. -/
theorem undecided_raiseAlone_iff :
    (∃ reply ∈ (raiseAlone reg caller c es s).1, reply.Undecided) ↔
      c.AsksChecker s ∧ s.Undecided c.idempotencyKey := by
  rcases prepare_cases (s := s) hamount hcurrency hexec hkey with
    ⟨hasks, f, hprepare⟩ | ⟨hasks, row, executor, hprepare, hstatus, hrowkey⟩
  · rw [raiseAlone_of_refused hpre hes hprepare]
    constructor
    · rintro ⟨reply, hreply, hundecided⟩
      cases hreply
      exact hundecided.elim
    · exact fun h => absurd h.1 hasks
  cases hheld : s.existing c.idempotencyKey with
  | none =>
      rw [raiseAlone_of_free hpre hes hprepare hheld hamount hrowkey hstatus]
      refine iff_of_true ⟨_, rfl, .inr hstatus⟩ ⟨hasks, fun r hr hk => ?_⟩
      have hnot := existing_eq_none hheld r hr
      rw [heldKey, hk] at hnot
      have hfree : r.status ∉ keyHeldStatuses := fun h => hnot (if_pos h)
      constructor
      · exact fun h => hfree (by rw [h]; decide)
      · exact fun h => hfree (by rw [h]; decide)
  | some r =>
      obtain ⟨hr, hk, hstill⟩ := mem_of_existing hheld
      rw [raiseAlone_of_held hpre hes hprepare hheld]
      constructor
      · rintro ⟨reply, hreply, hundecided⟩
        cases hreply
        have hopen : r.status = .requested := by
          rcases hundecided with hrun | hopen
          · cases hrun
          · exact hopen
        refine ⟨hasks, fun x hx hxk => ?_⟩
        by_contra hdecided
        have hxheld : x.status ∈ keyHeldStatuses := by
          by_contra hnot
          refine hdecided ⟨fun h => hnot (by rw [h]; decide), fun h => hnot (by rw [h]; decide)⟩
        have hsame := existing_eq_some hs hx hxheld
        rw [hxk, hheld, Option.some.injEq] at hsame
        rw [← hsame, hopen] at hdecided
        exact hdecided ⟨by decide, by decide⟩
      · rintro ⟨-, hnone⟩
        obtain ⟨happroved, hexecuted⟩ := hnone r hr hk
        refine ⟨_, rfl, .inr ?_⟩
        rcases held_cases hstill with h | h | h
        · exact h
        · exact absurd h happroved
        · exact absurd h hexecuted

/-- While a request under the key is open no second one is opened. -/
theorem requests_raiseAlone_of_open {r : ApprovalRequest} (hr : r ∈ s.requests.rows)
    (hrkey : r.idempotencyKey = c.idempotencyKey) (hopen : r.status = .requested) :
    (raiseAlone reg caller c es s).2 = s := by
  rcases prepare_cases (s := s) hamount hcurrency hexec hkey with
    ⟨-, f, hprepare⟩ | ⟨-, row, executor, hprepare, -, -⟩
  · rw [raiseAlone_of_refused hpre hes hprepare]
  · have hheld := existing_eq_some hs hr (by rw [hopen]; decide)
    rw [hrkey] at hheld
    rw [raiseAlone_of_held hpre hes hprepare hheld]

end SaaradhiGo.Approvals
