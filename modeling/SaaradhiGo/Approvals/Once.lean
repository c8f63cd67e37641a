/-
Exactly once: in every interleaving of the calls of the service.

What one operation can do to the store is said once, by `Change`; the invariant of the store
and the facts about single steps follow from it by cases.  That a call runs an executor only
after its own transition is a fact about its program, which is proved of each program alone
and holds in every interleaving, as no call touches the records of another.
-/
import SaaradhiGo.Lib.Transition
import Mathlib.Data.List.Nodup
import Mathlib.Tactic.Common
import SaaradhiGo.Approvals.Service

namespace SaaradhiGo.Approvals

open Interleave

variable {τ ω ε : Type}

/-! ## What one operation does -/

/-- The steps of a request's status. -/
inductive Transits : RequestStatus → RequestStatus → Prop where
  | approve : Transits .requested .approved
  | reject : Transits .requested .rejected
  | cancel : Transits .requested .cancelled
  | expire : Transits .requested .expired
  | execute : Transits .approved .executed
  | fail : Transits .approved .failed

def closedStatuses : List RequestStatus := [.rejected, .cancelled, .expired]

def ranStatuses : List RequestStatus := [.approved, .executed, .failed]

/-- The decision on `r` is the one it had, or that of a checker who may check it. -/
def CheckedBy (auth : Authority) (r r' : ApprovalRequest) : Prop :=
  (r'.checkerId = r.checkerId ∧ r'.selfApproved = r.selfApproved) ∨
    ∃ checker, r'.checkerId = some checker ∧ r'.selfApproved = decide (checker = r.makerId) ∧
      auth.checkChecker r checker = .ok ()

/-- The request `r` is rewritten as `r'`. -/
structure Rewrites (auth : Authority) (r r' : ApprovalRequest) : Prop where
  id : r'.id = r.id
  makerId : r'.makerId = r.makerId
  key : r'.idempotencyKey = r.idempotencyKey
  transits : Transits r.status r'.status
  checked : CheckedBy auth r r'

/-- What an operation of the call `t` does to the requests and the two records. -/
inductive Change (t : τ) (s s' : Store τ ω) : Prop where
  | same (requests : s'.requests = s.requests) (nextId : s'.nextId = s.nextId)
      (moved : s'.moved = s.moved) (ran : s'.ran = s.ran)
  | created (r : ApprovalRequest) (id : r.id = s.nextId)
      (free : r.status ∈ keyHeldStatuses → s.existing r.idempotencyKey = none)
      (checker : r.checkerId = none) (requests : s'.requests = s.requests.put r)
      (nextId : s'.nextId = s.nextId + 1)
      (moved : s'.moved = if r.status = .approved then (t, r.id) :: s.moved else s.moved)
      (ran : s'.ran = s.ran)
  | rewritten (r r' : ApprovalRequest) (get : s.requests.get? r.id = some r)
      (rewrites : Rewrites s.authority r r') (requests : s'.requests = s.requests.put r')
      (nextId : s'.nextId = s.nextId)
      (moved : s'.moved = if r'.status = .approved then (t, r.id) :: s.moved else s.moved)
      (ran : s'.ran = s.ran)
  | executed (id : ℕ) (entitled : (t, id) ∈ s.moved) (fresh : (t, id) ∉ s.ran)
      (requests : s'.requests = s.requests) (nextId : s'.nextId = s.nextId)
      (moved : s'.moved = s.moved) (ran : s'.ran = (t, id) :: s.ran)

/-- The call `t` may perform the operation: it acts under its own name, and it runs an
executor only when it moved the request and has not run it. -/
def Entitled (t : τ) : Op τ ω ε → Store τ ω → Prop
  | .create caller r, _ => caller = t ∧ r.checkerId = none
  | .approve caller _ _ _, _ => caller = t
  | .run caller r _, s => caller = t ∧ (t, r.id) ∈ s.moved ∧ (t, r.id) ∉ s.ran
  | _, _ => True

section Change

variable {t : τ} {s : Store τ ω} {reg : Registry ω ε}

lemma Change.refl (t : τ) (s : Store τ ω) : Change t s s := .same rfl rfl rfl rfl

lemma change_attempt {α : Type} {c : Choice ε} {done : Except Failure α × Store τ ω}
    (h : Change t s done.2) : Change t s (attempt c s done).2 := by
  rw [attempt]
  split
  · exact .refl t s
  · exact h

lemma change_create {r : ApprovalRequest} (hr : r.checkerId = none) :
    Change t s (s.create t r).2 := by
  rw [Store.create]
  split
  · exact .refl t s
  · rename_i hfree
    refine .created { r with id := s.nextId } rfl (fun hheld => ?_) hr rfl rfl rfl rfl
    by_contra hsome
    exact hfree ⟨hheld, Option.isSome_iff_ne_none.mpr hsome⟩

lemma change_approve {id checker : ℕ} {reason : String} :
    Change t s (s.approve t id checker reason).2 := by
  rw [Store.approve]
  split
  · exact .refl t s
  rename_i r hget
  dsimp only
  split
  · exact .refl t s
  rename_i hcheck
  split
  · exact .refl t s
  split
  · exact .refl t s
  split
  · split <;> exact .refl t s
  rename_i hopen
  have hid := Table.pk_of_get? hget
  refine .rewritten r (r.decided .approved checker s.now reason) (hid ▸ hget) ⟨rfl, rfl, rfl, ?_, .inr ⟨checker, rfl, rfl, hcheck⟩⟩
    rfl rfl ?_ rfl
  · rw [not_not.mp hopen]
    exact .approve
  · exact (if_pos rfl).symm

lemma change_reject {e : ε} {id checker : ℕ} {reason : String} :
    Change t s (s.reject reg e id checker reason).2 := by
  rw [Store.reject]
  split
  · exact .refl t s
  rename_i r hget
  dsimp only
  split
  · exact .refl t s
  rename_i hcheck
  split
  · exact .refl t s
  split
  · exact .refl t s
  split
  · split <;> exact .refl t s
  rename_i hopen
  have hid := Table.pk_of_get? hget
  refine .rewritten r (r.decided .rejected checker s.now reason) (hid ▸ hget) ⟨rfl, rfl, rfl, ?_, .inr ⟨checker, rfl, rfl, hcheck⟩⟩
    rfl rfl ?_ rfl
  · rw [not_not.mp hopen]
    exact .reject
  · exact (if_neg (by simp [ApprovalRequest.decided])).symm

lemma change_cancel {e : ε} {id maker : ℕ} {reason : String} :
    Change t s (s.cancel reg e id maker reason).2 := by
  rw [Store.cancel]
  split
  · exact .refl t s
  rename_i r hget
  split
  · exact .refl t s
  split
  · exact .refl t s
  split
  · split <;> exact .refl t s
  rename_i hopen
  have hid := Table.pk_of_get? hget
  refine .rewritten r (r.withdrawn s.now reason) (hid ▸ hget) ⟨rfl, rfl, rfl, ?_, .inl ⟨rfl, rfl⟩⟩
    rfl rfl ?_ rfl
  · rw [not_not.mp hopen]
    exact .cancel
  · exact (if_neg (by simp [ApprovalRequest.withdrawn])).symm

lemma change_expireIfDue {e : ε} {id : ℕ} : Change t s (s.expireIfDue reg e id).2 := by
  rw [Store.expireIfDue]
  split
  · exact .refl t s
  rename_i r hget
  split
  · rename_i hdue
    have hid := Table.pk_of_get? hget
    refine .rewritten r { r with status := .expired } (hid ▸ hget) ⟨rfl, rfl, rfl, ?_, .inl ⟨rfl, rfl⟩⟩
      rfl rfl ?_ rfl
    · rw [Store.isOverdue, Bool.and_eq_true, decide_eq_true_eq] at hdue
      rw [hdue.1]
      exact .expire
    · exact (if_neg (by simp)).symm
  · exact .refl t s

lemma change_finish {id : ℕ} {f : Store.Finish} : Change t s (s.finish id f).2 := by
  rw [Store.finish]
  split
  · exact .refl t s
  rename_i r hget
  split
  · rename_i happroved
    have hid := Table.pk_of_get? hget
    cases f with
    | executed result =>
        refine .rewritten r (Store.Finish.row r s.now (.executed result)) (hid ▸ hget) ⟨rfl, rfl, rfl, ?_, .inl ⟨rfl, rfl⟩⟩
          rfl rfl ?_ rfl
        · rw [happroved]
          exact .execute
        · exact (if_neg (by simp [Store.Finish.row])).symm
    | failed errorCode error =>
        refine .rewritten r (Store.Finish.row r s.now (.failed errorCode error)) (hid ▸ hget) ⟨rfl, rfl, rfl, ?_, .inl ⟨rfl, rfl⟩⟩
          rfl rfl ?_ rfl
        · rw [happroved]
          exact .fail
        · exact (if_neg (by simp [Store.Finish.row])).symm
  · exact .refl t s

/-- What an operation of the call `t` can do. -/
theorem change_exec {o : Op τ ω ε} {c : Choice ε} (h : Entitled t o s) :
    Change t s (exec reg o c s).2 := by
  cases o with
  | activePolicy country actionKey => exact change_attempt (.refl t s)
  | existing key => exact change_attempt (.refl t s)
  | create caller r =>
      obtain ⟨rfl, hr⟩ := h
      exact change_attempt (change_create hr)
  | audit => exact change_attempt (.refl t s)
  | approve caller id checker reason =>
      cases h
      exact change_attempt change_approve
  | reject id checker reason => exact change_attempt change_reject
  | cancel id maker reason => exact change_attempt change_cancel
  | expireIfDue id => exact change_attempt change_expireIfDue
  | due => exact change_attempt (.refl t s)
  | run caller r executor =>
      obtain ⟨rfl, hmoved, hran⟩ := h
      exact .executed r.id hmoved hran rfl rfl rfl rfl
  | finish id f => exact change_attempt change_finish

end Change

/-! ## The invariant of the store -/

def heldKey (r : ApprovalRequest) : Option String :=
  if r.status ∈ keyHeldStatuses then some r.idempotencyKey else none

/-- What holds of the requests and of the two records at any time. -/
structure Kept (s : Store τ ω) : Prop where
  /-- a primary key is not given twice -/
  fresh : ∀ r ∈ s.requests.rows, r.id < s.nextId
  /-- `approvals_idempotency_key_held` -/
  keys : Table.UniqueOn heldKey s.requests.rows
  /-- `approvals_checker_is_not_maker` -/
  checker : ∀ r ∈ s.requests.rows, r.checkerId = some r.makerId → r.selfApproved = true
  moved : ∀ x ∈ s.moved, ∃ r, s.requests.get? x.2 = some r ∧ r.status ∈ ranStatuses
  movers : (s.moved.map Prod.snd).Nodup
  ran : ∀ x ∈ s.ran, x ∈ s.moved
  once : (s.ran.map Prod.snd).Nodup

lemma existing_eq_none {s : Store τ ω} {key : String} (h : s.existing key = none) :
    ∀ r ∈ s.requests.rows, heldKey r ≠ some key := by
  intro r hr hkey
  rw [heldKey, Option.ite_none_right_eq_some, Option.some.injEq] at hkey
  have hnot := List.find?_eq_none.mp h r hr
  simp [hkey.1, hkey.2] at hnot

lemma not_mem_moved_of_get? {s : Store τ ω} (h : Kept s) {r : ApprovalRequest}
    (hget : s.requests.get? r.id = some r) (hstatus : r.status ∉ ranStatuses) :
    r.id ∉ s.moved.map Prod.snd := by
  rintro hmem
  obtain ⟨x, hx, hid⟩ := List.mem_map.mp hmem
  obtain ⟨r', hget', hran⟩ := h.moved x hx
  rw [hid, hget, Option.some.injEq] at hget'
  exact hstatus (hget' ▸ hran)

lemma nextId_not_mem_moved {s : Store τ ω} (h : Kept s) : s.nextId ∉ s.moved.map Prod.snd := by
  intro hmem
  obtain ⟨x, hx, hid⟩ := List.mem_map.mp hmem
  obtain ⟨r, hget, -⟩ := h.moved x hx
  obtain ⟨hr, hpk⟩ := Table.mem_of_get? hget
  have hlt := h.fresh r hr
  omega

lemma get?_nextId {s : Store τ ω} (h : Kept s) : s.requests.get? s.nextId = none := by
  rw [Table.get?_eq_none_iff]
  intro hmem
  obtain ⟨r, hr, hid⟩ := List.mem_map.mp hmem
  have hlt := h.fresh r hr
  omega

lemma Transits.held {a b : RequestStatus} (h : Transits a b) : a ∈ keyHeldStatuses := by
  cases h <;> decide

lemma Transits.ran {a b : RequestStatus} (h : Transits a b) (ha : a ∈ ranStatuses) :
    b ∈ ranStatuses := by
  cases h <;> first | decide | (revert ha; decide)

lemma Transits.requested {a b : RequestStatus} (h : Transits a b) (hb : b = .approved) :
    a = .requested := by
  cases h <;> first | rfl | cases hb

section Kept

variable {t : τ} {s s' : Store τ ω}

lemma CheckedBy.self {auth : Authority} {r r' : ApprovalRequest} (h : CheckedBy auth r r')
    (hmaker : r'.makerId = r.makerId) (hself : r'.checkerId = some r'.makerId) :
    (r.checkerId = some r.makerId ∧ r'.selfApproved = r.selfApproved) ∨
      (r'.selfApproved = true ∧ auth.selfApprovalAllowed r r.makerId = true) := by
  rw [hmaker] at hself
  rcases h with ⟨hsame, happroved⟩ | ⟨checker, hchecker, happroved, hcheck⟩
  · exact .inl ⟨hsame ▸ hself, happroved⟩
  · rw [hchecker, Option.some.injEq] at hself
    subst hself
    exact .inr ⟨by simp [happroved], Authority.selfApprovalAllowed_of_checkChecker hcheck⟩

/-- Every change keeps the invariant. -/
theorem kept_of_change (h : Kept s) (hchange : Change t s s') : Kept s' := by
  cases hchange with
  | same hrequests hnextId hmoved hran =>
      exact ⟨by rw [hrequests, hnextId]; exact h.fresh, by rw [hrequests]; exact h.keys,
        by rw [hrequests]; exact h.checker, by rw [hrequests, hmoved]; exact h.moved,
        by rw [hmoved]; exact h.movers, by rw [hmoved, hran]; exact h.ran,
        by rw [hran]; exact h.once⟩
  | created r hid hfree hchecker hrequests hnextId hmoved hran =>
      have hother : ∀ x ∈ s.requests.rows, x.id ≠ r.id := by
        intro x hx
        have hlt := h.fresh x hx
        omega
      have hget : ∀ i r', s.requests.get? i = some r' → s'.requests.get? i = some r' := by
        intro i r' hi
        obtain ⟨hr', hpk⟩ := Table.mem_of_get? hi
        rw [hrequests, Table.get?_put_of_ne _ (hpk ▸ hother r' hr'), hi]
      refine ⟨?_, ?_, ?_, ?_, ?_, ?_, by rw [hran]; exact h.once⟩
      · intro x hx
        rw [hrequests] at hx
        rcases Table.mem_put.mp hx with rfl | ⟨hx, -⟩
        · omega
        · have hlt := h.fresh x hx
          omega
      · rw [hrequests]
        refine h.keys.put_of_forall fun x hx _ k hk => ?_
        rw [heldKey, Option.ite_none_right_eq_some, Option.some.injEq] at hk
        exact hk.2 ▸ existing_eq_none (hfree hk.1) x hx
      · intro x hx hself
        rw [hrequests] at hx
        rcases Table.mem_put.mp hx with rfl | ⟨hx, -⟩
        · rw [hchecker] at hself
          cases hself
        · exact h.checker x hx hself
      · intro x hx
        rw [hmoved] at hx
        split at hx
        · rename_i happroved
          rcases List.mem_cons.mp hx with rfl | hx
          · exact ⟨r, by rw [hrequests, Table.get?_put_self], by rw [happroved]; decide⟩
          · obtain ⟨r', hr', hstatus⟩ := h.moved x hx
            exact ⟨r', hget _ _ hr', hstatus⟩
        · obtain ⟨r', hr', hstatus⟩ := h.moved x hx
          exact ⟨r', hget _ _ hr', hstatus⟩
      · rw [hmoved]
        split
        · exact List.nodup_cons.mpr ⟨hid ▸ nextId_not_mem_moved h, h.movers⟩
        · exact h.movers
      · intro x hx
        rw [hran] at hx
        rw [hmoved]
        split
        · exact List.mem_cons_of_mem _ (h.ran x hx)
        · exact h.ran x hx
  | rewritten r r' hget hrewrites hrequests hnextId hmoved hran =>
      have hr := (Table.mem_of_get? hget).1
      refine ⟨?_, ?_, ?_, ?_, ?_, ?_, by rw [hran]; exact h.once⟩
      · intro x hx
        rw [hrequests] at hx
        rw [hnextId]
        rcases Table.mem_put.mp hx with rfl | ⟨hx, -⟩
        · rw [hrewrites.id]
          exact h.fresh r hr
        · exact h.fresh x hx
      · rw [hrequests]
        refine h.keys.put_of_forall fun x hx hne k hk hxk => hne ?_
        -- the request held its key before
        rw [heldKey, Option.ite_none_right_eq_some, Option.some.injEq, hrewrites.key] at hk
        have hheld : heldKey r = some k := by
          rw [heldKey, if_pos hrewrites.transits.held, hk.2]
        rw [h.keys.eq_of_key hx hr hxk hheld, hrewrites.id]
      · intro x hx hself
        rw [hrequests] at hx
        rcases Table.mem_put.mp hx with rfl | ⟨hx, -⟩
        · rcases hrewrites.checked.self hrewrites.makerId hself with ⟨hbefore, hsame⟩ | ⟨hself, -⟩
          · rw [hsame]
            exact h.checker r hr hbefore
          · exact hself
        · exact h.checker x hx hself
      · have hkept : ∀ x ∈ s.moved, ∃ y, s'.requests.get? x.2 = some y ∧ y.status ∈ ranStatuses := by
          intro x hx
          obtain ⟨y, hy, hstatus⟩ := h.moved x hx
          rw [hrequests, Table.get?_put, hrewrites.id]
          by_cases hid : x.2 = r.id
          · rw [if_pos hid]
            rw [hid, hget, Option.some.injEq] at hy
            exact ⟨r', rfl, hrewrites.transits.ran (hy ▸ hstatus)⟩
          · rw [if_neg hid]
            exact ⟨y, hy, hstatus⟩
        intro x hx
        rw [hmoved] at hx
        split at hx
        · rename_i happroved
          rcases List.mem_cons.mp hx with rfl | hx
          · refine ⟨r', ?_, by rw [happroved]; decide⟩
            rw [hrequests, Table.get?_put, hrewrites.id, if_pos rfl]
          · exact hkept x hx
        · exact hkept x hx
      · rw [hmoved]
        split
        · rename_i happroved
          have hopen := hrewrites.transits.requested happroved
          refine List.nodup_cons.mpr ⟨not_mem_moved_of_get? h hget ?_, h.movers⟩
          rw [hopen]
          decide
        · exact h.movers
      · intro x hx
        rw [hran] at hx
        rw [hmoved]
        split
        · exact List.mem_cons_of_mem _ (h.ran x hx)
        · exact h.ran x hx
  | executed id hentitled hfresh hrequests hnextId hmoved hran =>
      refine ⟨by rw [hrequests, hnextId]; exact h.fresh, by rw [hrequests]; exact h.keys,
        by rw [hrequests]; exact h.checker, by rw [hrequests, hmoved]; exact h.moved,
        by rw [hmoved]; exact h.movers, ?_, ?_⟩
      · intro x hx
        rw [hran] at hx
        rw [hmoved]
        rcases List.mem_cons.mp hx with rfl | hx
        · exact hentitled
        · exact h.ran x hx
      · rw [hran]
        refine List.nodup_cons.mpr ⟨fun hmem => hfresh ?_, h.once⟩
        -- the record of the runs names the call that moved the request
        obtain ⟨x, hx, hid⟩ := List.mem_map.mp hmem
        have heq := List.inj_on_of_nodup_map h.movers (h.ran x hx) hentitled hid
        exact heq ▸ hx

end Kept

/-! ## What a step may do to a request -/

/-- What a step may do: a request enters the record of the moved ones when it is approved or
inserted as approved, a closed request stays as it is, and a request gets its maker as its
checker only when self-approval is allowed. -/
structure StepSafe (s s' : Store τ ω) : Prop where
  moved : ∀ x ∈ s'.moved, x ∈ s.moved ∨
    ∃ r', s'.requests.get? x.2 = some r' ∧ r'.status = .approved ∧
      ((s.requests.get? x.2 = none ∧ r'.checkerId = none) ∨
        ∃ r, s.requests.get? x.2 = some r ∧ r.status = .requested)
  closed : ∀ i r, s.requests.get? i = some r → r.status ∈ closedStatuses →
    s'.requests.get? i = some r
  checker : ∀ i r', s'.requests.get? i = some r' → r'.checkerId = some r'.makerId →
    ∃ r, s.requests.get? i = some r ∧
      (r.checkerId = some r.makerId ∨ s.authority.selfApprovalAllowed r r.makerId = true)

/-- A step that leaves the requests and the record alone. -/
lemma StepSafe.of_same {s s' : Store τ ω} (hrequests : s'.requests = s.requests)
    (hmoved : s'.moved = s.moved) : StepSafe s s' := by
  refine ⟨fun x hx => .inl (hmoved ▸ hx), fun i r hget _ => by rw [hrequests, hget], ?_⟩
  intro i r' hget hself
  rw [hrequests] at hget
  exact ⟨r', hget, .inl hself⟩

lemma Transits.not_closed {a b : RequestStatus} (h : Transits a b) : a ∉ closedStatuses := by
  cases h <;> decide

/-- Every change is safe. -/
theorem stepSafe_of_change {t : τ} {s s' : Store τ ω} (h : Kept s) (hchange : Change t s s') :
    StepSafe s s' := by
  cases hchange with
  | same hrequests hnextId hmoved hran => exact .of_same hrequests hmoved
  | executed id hentitled hfresh hrequests hnextId hmoved hran => exact .of_same hrequests hmoved
  | created r hid hfree hchecker hrequests hnextId hmoved hran =>
      have hnone : s.requests.get? r.id = none := hid ▸ get?_nextId h
      refine ⟨?_, ?_, ?_⟩
      · intro x hx
        rw [hmoved] at hx
        split at hx
        · rename_i happroved
          rcases List.mem_cons.mp hx with rfl | hx
          · refine .inr ⟨r, ?_, happroved, .inl ⟨hnone, hchecker⟩⟩
            rw [hrequests, Table.get?_put_self]
          · exact .inl hx
        · exact .inl hx
      · intro i r' hget _
        have hne : i ≠ r.id := by
          rintro rfl
          rw [hnone] at hget
          cases hget
        rw [hrequests, Table.get?_put_of_ne _ hne, hget]
      · intro i r' hget hself
        rw [hrequests, Table.get?_put] at hget
        split at hget
        · cases hget
          rw [hchecker] at hself
          cases hself
        · exact ⟨r', hget, .inl hself⟩
  | rewritten r r' hget hrewrites hrequests hnextId hmoved hran =>
      refine ⟨?_, ?_, ?_⟩
      · intro x hx
        rw [hmoved] at hx
        split at hx
        · rename_i happroved
          rcases List.mem_cons.mp hx with rfl | hx
          · refine .inr ⟨r', ?_, happroved,
              .inr ⟨r, hget, hrewrites.transits.requested happroved⟩⟩
            rw [hrequests, Table.get?_put, hrewrites.id, if_pos rfl]
          · exact .inl hx
        · exact .inl hx
      · intro i y hy hclosed
        have hne : i ≠ r'.id := by
          rintro rfl
          rw [hrewrites.id, hget, Option.some.injEq] at hy
          exact hrewrites.transits.not_closed (hy ▸ hclosed)
        rw [hrequests, Table.get?_put_of_ne _ hne, hy]
      · intro i y hy hself
        rw [hrequests, Table.get?_put, hrewrites.id] at hy
        split at hy
        · rename_i hid
          cases hy
          refine ⟨r, hid ▸ hget, ?_⟩
          rcases hrewrites.checked.self hrewrites.makerId hself with ⟨hbefore, -⟩ | ⟨-, hallowed⟩
          · exact .inl hbefore
          · exact .inr hallowed
        · exact ⟨y, hy, .inl hself⟩

/-! ## What a call relies on -/

/-- The records of the call `t` are as they were. -/
structure Rely (t : τ) (s s' : Store τ ω) : Prop where
  moved : ∀ i, (t, i) ∈ s'.moved ↔ (t, i) ∈ s.moved
  ran : ∀ i, (t, i) ∈ s'.ran ↔ (t, i) ∈ s.ran

lemma Rely.refl (t : τ) (s : Store τ ω) : Rely t s s := ⟨fun _ => Iff.rfl, fun _ => Iff.rfl⟩

lemma Rely.trans {t : τ} {s s' s'' : Store τ ω} (h : Rely t s s') (h' : Rely t s' s'') :
    Rely t s s'' :=
  ⟨fun i => (h'.moved i).trans (h.moved i), fun i => (h'.ran i).trans (h.ran i)⟩

lemma Rely.of_same (t : τ) {s s' : Store τ ω} (hmoved : s'.moved = s.moved)
    (hran : s'.ran = s.ran) : Rely t s s' :=
  ⟨fun i => by rw [hmoved], fun i => by rw [hran]⟩

/-- A call leaves the records of the others alone. -/
lemma rely_of_change {t t' : τ} {s s' : Store τ ω} (hne : t ≠ t') (h : Change t' s s') :
    Rely t s s' := by
  have hcons : ∀ (i j : ℕ) (l : List (τ × ℕ)), (t, i) ∈ (t', j) :: l ↔ (t, i) ∈ l := by
    intro i j l
    simp [hne]
  cases h with
  | same _ _ hmoved hran => exact .of_same t hmoved hran
  | created r _ _ _ _ _ hmoved hran =>
      refine ⟨fun i => ?_, fun i => by rw [hran]⟩
      rw [hmoved]
      split
      · exact hcons i _ _
      · exact Iff.rfl
  | rewritten r r' _ _ _ _ hmoved hran =>
      refine ⟨fun i => ?_, fun i => by rw [hran]⟩
      rw [hmoved]
      split
      · exact hcons i _ _
      · exact Iff.rfl
  | executed id _ _ _ _ hmoved hran =>
      refine ⟨fun i => by rw [hmoved], fun i => ?_⟩
      rw [hran]
      exact hcons i _ _

/-! ## The programs -/

/-- What is left of the call `t` performs only operations it is entitled to. -/
def Sound (reg : Registry ω ε) (t : τ) (p : Program τ ω ε) (s : Store τ ω) : Prop :=
  Prog.wp (exec reg) (fun _ _ s => Kept s) (fun _ => Rely t) (fun o s _ => Entitled t o s) p
    (fun _ _ => True) s

section Sound

variable {reg : Registry ω ε} {t : τ} {s : Store τ ω}

lemma sound_ret {r : Reply} : Sound reg t (.ret r) s := fun _ _ => trivial

/-- An operation the call is entitled to, and what comes after it. -/
lemma sound_perform {o : Op τ ω ε} {k : Val o → Program τ ω ε}
    (hentitled : ∀ s₁, Rely t s s₁ → Entitled t o s₁)
    (hk : ∀ s₁ c x, Kept s₁ → Rely t s s₁ → (exec reg o c s₁).1 = .ok x →
      Sound reg t (k x) (exec reg o c s₁).2) :
    Sound reg t (perform o k) s := by
  intro s₁ hrely c hkept
  refine ⟨hentitled s₁ hrely, ?_⟩
  have hx := hk s₁ c
  cases hanswer : (exec reg o c s₁).1 with
  | error f => exact sound_ret
  | ok x => exact hx x hkept hrely hanswer

/-- A call that runs nothing is sound anywhere. -/
lemma sound_perform_free {o : Op τ ω ε} {k : Val o → Program τ ω ε}
    (hentitled : ∀ s, Entitled t o s) (hk : ∀ x s, Sound reg t (k x) s) :
    Sound reg t (perform o k) s :=
  sound_perform (fun s₁ _ => hentitled s₁) fun _ _ x _ _ _ => hk x _

lemma sound_expiredOutside {id : ℕ} : Sound reg t (expiredOutside id) s :=
  sound_perform_free (fun _ => trivial) fun _ _ => sound_ret

lemma sound_expireEach {ids : List ℕ} {count : ℕ} : Sound reg t (expireEach ids count) s := by
  induction ids generalizing count s with
  | nil => exact sound_ret
  | cons id ids ih => exact sound_perform_free (fun _ => trivial) fun _ _ => ih

lemma sound_expireStale : Sound reg t expireStale s :=
  sound_perform_free (fun _ => trivial) fun _ _ => sound_expireEach

lemma sound_cancel {id maker : ℕ} {reason : String} : Sound reg t (cancel id maker reason) s := by
  refine sound_perform_free (fun _ => trivial) fun d s => ?_
  cases d with
  | overdue => exact sound_expiredOutside
  | again r => exact sound_ret
  | made r => exact sound_ret

lemma sound_reject {id checker : ℕ} {reason : String} :
    Sound reg t (reject id checker reason) s := by
  rw [reject]
  split
  · exact sound_ret
  · refine sound_perform_free (fun _ => trivial) fun d s => ?_
    cases d with
    | overdue => exact sound_expiredOutside
    | again r => exact sound_ret
    | made r => exact sound_ret

lemma sound_runExecutor {r : ApprovalRequest} {executor : Executor ω ε}
    {k : ApprovalRequest → Program τ ω ε} (hmoved : (t, r.id) ∈ s.moved)
    (hran : (t, r.id) ∉ s.ran) (hk : ∀ r s, Sound reg t (k r) s) :
    Sound reg t (runExecutor t r executor k) s := by
  refine sound_perform (fun s₁ hrely => ⟨rfl, (hrely.moved r.id).mpr hmoved, ?_⟩) ?_
  · exact fun hmem => hran ((hrely.ran r.id).mp hmem)
  · intro s₁ c x _ _ _
    exact sound_perform_free (fun _ => trivial) fun r _ =>
      sound_perform_free (fun _ => trivial) fun _ _ => hk r _

lemma of_attempt_ok {α : Type} {c : Choice ε} {done : Except Failure α × Store τ ω} {x : α}
    (h : (attempt c s done).1 = .ok x) : done.1 = .ok x ∧ (attempt c s done).2 = done.2 := by
  rw [attempt] at h ⊢
  split at h
  · cases h
  · exact ⟨h, rfl⟩

/-- The request that `approve` has moved, and what it leaves. -/
lemma moved_of_approve {id checker : ℕ} {reason : String} {r : ApprovalRequest}
    (h : (s.approve t id checker reason).1 = .ok (.made r)) (hkept : Kept s) :
    (t, r.id) ∈ (s.approve t id checker reason).2.moved ∧
      (t, r.id) ∉ (s.approve t id checker reason).2.ran := by
  rw [Store.approve] at h ⊢
  split at h
  · cases h
  rename_i r₀ hget
  dsimp only at h ⊢
  split at h
  · cases h
  split at h
  · cases h
  split at h
  · cases h
  rename_i hdue
  split at h
  · split at h <;> cases h
  rename_i hopen
  cases h
  have hid := Table.pk_of_get? hget
  have hnot := not_mem_moved_of_get? hkept (hid ▸ hget) (by rw [not_not.mp hopen]; decide)
  rw [if_neg hdue, if_neg hopen]
  exact ⟨List.mem_cons_self, fun hmem => hnot (List.mem_map_of_mem (hkept.ran _ hmem))⟩

lemma sound_approve {id checker : ℕ} {reason : String} :
    Sound reg t (approve reg t id checker reason) s := by
  refine sound_perform (fun _ _ => rfl) fun s₁ c d hkept _ hanswer => ?_
  obtain ⟨hdone, hstore⟩ := of_attempt_ok hanswer
  have hstore' : (exec reg (.approve t id checker reason) c s₁).2
      = (s₁.approve t id checker reason).2 := hstore
  cases d with
  | overdue => exact sound_expiredOutside
  | again r => exact sound_ret
  | made r =>
      obtain ⟨hmoved, hran⟩ := moved_of_approve hdone hkept
      dsimp only
      rw [hstore']
      split
      · exact sound_perform_free (fun _ => trivial) fun _ _ =>
          sound_perform_free (fun _ => trivial) fun _ _ => sound_ret
      · exact sound_runExecutor hmoved hran fun _ _ => sound_ret

lemma prepare_row {c : RaiseCall ω ε} {now : ℕ} {policy : Option ApprovalPolicy}
    {row : ApprovalRequest} {executor : Executor ω ε}
    (h : c.prepare reg now policy = .ok (row, executor)) :
    row.checkerId = none ∧ (row.status = .requested ∨ row.status = .approved) := by
  rw [RaiseCall.prepare] at h
  split at h
  · cases h
  dsimp only at h
  split at h
  · cases h
  · cases h
  · cases h
  · cases h
    refine ⟨rfl, ?_⟩
    rw [RaiseCall.row]
    dsimp only
    split
    · exact .inl rfl
    · exact .inr rfl

lemma moved_of_create {r r' : ApprovalRequest} (h : (s.create t r).1 = some r')
    (hkept : Kept s) (hstatus : r.status = .requested ∨ r.status = .approved)
    (hne : r'.status ≠ .requested) :
    (t, r'.id) ∈ (s.create t r).2.moved ∧ (t, r'.id) ∉ (s.create t r).2.ran := by
  rw [Store.create] at h ⊢
  split at h
  · cases h
  rename_i hfree
  cases h
  rw [if_neg hfree]
  have happroved : r.status = .approved := hstatus.resolve_left hne
  refine ⟨?_, fun hmem => nextId_not_mem_moved hkept (List.mem_map_of_mem (hkept.ran _ hmem))⟩
  show _ ∈ if r.status = .approved then _ else _
  rw [if_pos happroved]
  exact List.mem_cons_self

lemma sound_lostRace {key : String} : Sound reg t (lostRace key) s := by
  refine sound_perform_free (fun _ => trivial) fun r s => ?_
  cases r with
  | none => exact sound_ret
  | some r => exact sound_ret

lemma sound_requireApprovalOrExecute {c : RaiseCall ω ε} {auth : Authority} {now : ℕ} :
    Sound reg t (requireApprovalOrExecute reg t c auth now) s := by
  rw [requireApprovalOrExecute]
  split
  · exact sound_ret
  refine sound_perform_free (fun _ => trivial) fun policy s => ?_
  split
  · exact sound_ret
  rename_i row executor hprepare
  obtain ⟨hchecker, hstatus⟩ := prepare_row hprepare
  refine sound_perform_free (fun _ => trivial) fun found s => ?_
  cases found with
  | some r => exact sound_ret
  | none =>
      dsimp only
      split
      · exact sound_ret
      refine sound_perform (fun _ _ => ⟨rfl, hchecker⟩) fun s₁ c d hkept _ hanswer => ?_
      obtain ⟨hdone, hstore⟩ := of_attempt_ok hanswer
      rw [Except.ok.injEq] at hdone
      cases d with
      | none => exact sound_lostRace
      | some r =>
          refine sound_perform (fun _ _ => trivial) fun s₂ c' _ _ hrely haudit => ?_
          split
          · exact sound_ret
          · rename_i hne
            obtain ⟨hmoved, hran⟩ := moved_of_create hdone hkept hstatus hne
            have haudited : (exec reg .audit c' s₂).2 = s₂ := (of_attempt_ok haudit).2
            have hcreated : (exec reg (.create t row) c s₁).2 = (s₁.create t row).2 := hstore
            rw [hcreated] at hrely
            rw [haudited]
            exact sound_runExecutor ((hrely.moved r.id).mpr hmoved)
              (fun hmem => hran ((hrely.ran r.id).mp hmem)) fun _ _ => sound_ret

/-- Every call of the service is sound where it is started. -/
theorem sound_program {a : τ × Call ω ε} : Sound reg a.1 (program reg a s) s := by
  obtain ⟨t, call⟩ := a
  cases call with
  | raise c => exact sound_requireApprovalOrExecute
  | approve id checker reason => exact sound_approve
  | reject id checker reason => exact sound_reject
  | cancel id maker reason => exact sound_cancel
  | expireStale => exact sound_expireStale

end Sound

/-! ## Every interleaving -/

/-- What happens between two operations of the calls: a policy, what the access model
answers, the clock or the other modules' state changes. -/
inductive Outside (ω : Type) where
  | policies (policies : String → String → Option ApprovalPolicy)
  | authority (authority : Authority)
  | clock (now : ℕ)
  | world (change : ω → ω)

/-- The effect of the surroundings. -/
def outside : Outside ω → Store τ ω → Store τ ω
  | .policies policies, s => { s with policies }
  | .authority authority, s => { s with authority }
  | .clock now, s => { s with now }
  | .world change, s => { s with world := change s.world }

section Pool

variable [DecidableEq τ]

abbrev ServicePool (τ ω ε : Type) : Type :=
  Pool (Op τ ω ε) Ans Reply (Store τ ω) τ (τ × Call ω ε)

abbrev ServiceMove (τ ω ε : Type) : Type := Move τ (Choice ε) (τ × Call ω ε) (Outside ω)

/-- One move of the calls and their surroundings. -/
def serviceStep (reg : Registry ω ε) (p : ServicePool τ ω ε) (m : ServiceMove τ ω ε) :
    ServicePool τ ω ε :=
  Pool.step (exec reg) (program reg) outside p m

/-- A call acts under the name of its thread. -/
def Named (_ : ServicePool τ ω ε) : ServiceMove τ ω ε → Prop
  | .start t a => a.1 = t
  | _ => True

/-- The store is consistent and every thread serves a call of its own name. -/
def Consistent (p : ServicePool τ ω ε) : Prop :=
  Kept p.store ∧ ∀ t a q, p.threads t = some (a, q) → a.1 = t

/-- Every running call is sound. -/
abbrev AllSound (reg : Registry ω ε) (p : ServicePool τ ω ε) : Prop :=
  Pool.Valid (exec reg) (fun _ _ _ s => Kept s) (fun a _ => Rely a.1)
    (fun a o s _ => Entitled a.1 o s) (fun _ _ _ => True) p

variable {reg : Registry ω ε} {p : ServicePool τ ω ε} {m : ServiceMove τ ω ε}

lemma change_serviceStep (h : Consistent p) (hsound : AllSound reg p) :
    (serviceStep reg p m).store = p.store ∨
      (∃ t e, m = .advance t e ∧ Change t p.store (serviceStep reg p m).store) ∨
      ∃ x, m = .outside x := by
  cases m with
  | advance t e =>
      by_cases hop : ∃ a o k, p.threads t = some (a, .op o k)
      · obtain ⟨a, o, k, hp⟩ := hop
        have hentitled : Entitled a.1 o p.store :=
          @Pool.guarantee_of_valid _ _ _ _ _ _ _ _ _ (exec reg) (program reg) outside _ _ _ _
            (fun a _ => Rely.refl a.1) p t e hsound (fun _ _ _ _ => h.1) _ _ _ hp
        have hname := h.2 t a _ hp
        refine .inr (.inl ⟨t, e, rfl, ?_⟩)
        have hstore : (serviceStep reg p (.advance t e)).store = (exec reg o e p.store).2 := by
          simp [serviceStep, Pool.step, hp, Prog.next]
        rw [hstore, ← hname]
        exact change_exec hentitled
      · exact .inl (Pool.store_step_advance_of_not_running fun a o k hp => hop ⟨a, o, k, hp⟩)
  | start t a => exact .inl rfl
  | outside x => exact .inr (.inr ⟨x, rfl⟩)

lemma names_serviceStep (hnamed : Named p m) (h : ∀ t a q, p.threads t = some (a, q) → a.1 = t) :
    ∀ t a q, (serviceStep reg p m).threads t = some (a, q) → a.1 = t := by
  intro t a q ht
  cases m with
  | advance t₀ e =>
      rcases hp : p.threads t₀ with _ | ⟨a₀, q₀⟩
      · simp only [serviceStep, Pool.step, hp] at ht
        exact h t a q ht
      · simp only [serviceStep, Pool.step, hp, Function.update_apply] at ht
        split at ht
        · rename_i htt
          cases ht
          exact htt ▸ h t₀ a q₀ hp
        · exact h t a q ht
  | start t₀ a₀ =>
      simp only [serviceStep, Pool.step, Function.update_apply] at ht
      split at ht
      · rename_i htt
        cases ht
        exact htt ▸ hnamed
      · exact h t a q ht
  | outside x => exact h t a q ht

lemma consistent_serviceStep (hnamed : Named p m) (h : Consistent p) (hsound : AllSound reg p) :
    Consistent (serviceStep reg p m) := by
  refine ⟨?_, names_serviceStep hnamed h.2⟩
  rcases change_serviceStep (m := m) h hsound with hsame | ⟨t, e, -, hchange⟩ | ⟨x, rfl⟩
  · rw [hsame]
    exact h.1
  · exact kept_of_change h.1 hchange
  · cases x <;> exact ⟨h.1.fresh, h.1.keys, h.1.checker, h.1.moved, h.1.movers, h.1.ran, h.1.once⟩

/-- A move stays within what the running calls rely on. -/
lemma respects_serviceStep (h : Consistent p) (hsound : AllSound reg p) :
    Pool.Respects (exec reg) (program reg) outside (fun a _ => Rely a.1) p m := by
  intro t a q hrun hne
  have hname := h.2 t a q hrun.1
  rcases change_serviceStep (m := m) h hsound with hsame | ⟨t', e, rfl, hchange⟩ | ⟨x, rfl⟩
  · rw [show (Pool.step (exec reg) (program reg) outside p m).store = p.store from hsame]
    exact Rely.refl _ _
  · refine rely_of_change ?_ hchange
    rintro rfl
    exact hne e (by rw [hname])
  · cases x <;> exact .of_same _ rfl rfl

/-- Consistency and soundness are kept together. -/
lemma invariant_serviceStep (p : ServicePool τ ω ε) (m : ServiceMove τ ω ε) (hnamed : Named p m)
    (h : Consistent p ∧ AllSound reg p) :
    Consistent (serviceStep reg p m) ∧ AllSound reg (serviceStep reg p m) :=
  Pool.invariant_valid_step (R := fun (a : τ × Call ω ε) _ => Rely a.1)
    (G := fun (a : τ × Call ω ε) o s _ => Entitled a.1 o s) (Q := fun _ _ _ => True)
    (fun a _ => Rely.refl a.1) (fun _ _ _ _ _ => Rely.trans)
    (fun _ _ hnamed h hsound => consistent_serviceStep hnamed h hsound)
    (fun _ _ _ _ h => fun _ _ _ _ => h.1)
    (fun _ _ _ h hsound => respects_serviceStep h hsound)
    (fun _ _ _ _ _ => sound_program) p m hnamed h

lemma stepSafe_serviceStep (h : Consistent p) (hsound : AllSound reg p) :
    StepSafe p.store (serviceStep reg p m).store := by
  rcases change_serviceStep (m := m) h hsound with hsame | ⟨t, e, -, hchange⟩ | ⟨x, rfl⟩
  · rw [hsame]
    exact .of_same rfl rfl
  · exact stepSafe_of_change h.1 hchange
  · cases x <;> exact .of_same rfl rfl

/-- What holds of a store at any time: no executor has run twice, each was run by the call
that moved its request and for a request that was approved, a checker who is the maker is
marked, and a key is held by one request. -/
structure ExactlyOnce (s : Store τ ω) : Prop where
  once : (s.ran.map Prod.snd).Nodup
  mover : ∀ x ∈ s.ran, x ∈ s.moved
  movers : (s.moved.map Prod.snd).Nodup
  approved : ∀ x ∈ s.ran, ∃ r, s.requests.get? x.2 = some r ∧ r.status ∈ ranStatuses
  checker : ∀ r ∈ s.requests.rows, r.checkerId = some r.makerId → r.selfApproved = true
  holder : ∀ r ∈ s.requests.rows, ∀ r' ∈ s.requests.rows, r.status ∈ keyHeldStatuses →
    r'.status ∈ keyHeldStatuses → r.idempotencyKey = r'.idempotencyKey → r = r'

omit [DecidableEq τ] in
lemma exactlyOnce_of_kept {s : Store τ ω} (h : Kept s) : ExactlyOnce s := by
  refine ⟨h.once, h.ran, h.movers, fun x hx => h.moved x (h.ran x hx), h.checker, ?_⟩
  intro r hr r' hr' hheld hheld' hkey
  refine h.keys.eq_of_key (k := r.idempotencyKey) hr hr' ?_ ?_
  · rw [heldKey, if_pos hheld]
  · rw [heldKey, if_pos hheld', hkey]

/-- In every interleaving of the calls of the service, whatever the executors and callbacks
do, every executor runs at most once, for the call whose own transition approved its request
and for no request that is closed; every step keeps closed requests as they are and lets a
maker check only what self-approval allows; and one request at most holds a key. -/
theorem exactlyOnce_of_run {s : Store τ ω} {ms : List (ServiceMove τ ω ε)} (hs : Kept s)
    (h : Transition.Guarded (serviceStep reg) Named ⟨fun _ => none, s⟩ ms) :
    ExactlyOnce (Transition.run (serviceStep reg) ⟨fun _ => none, s⟩ ms).store ∧
      Transition.Guarded (serviceStep reg)
        (fun p m => StepSafe p.store (serviceStep reg p m).store) ⟨fun _ => none, s⟩ ms := by
  have hstart : Consistent (⟨fun _ => none, s⟩ : ServicePool τ ω ε) ∧
      AllSound reg (⟨fun _ => none, s⟩ : ServicePool τ ω ε) := by
    refine ⟨⟨hs, fun t a q ht => ?_⟩, fun t a q hrun => ?_⟩
    · cases ht
    · cases hrun.1
  constructor
  · exact exactlyOnce_of_kept
      (Transition.invariant_of_guarded invariant_serviceStep hstart h).1.1
  · exact Transition.guarded_of_invariant invariant_serviceStep
      (fun p m _ hI => stepSafe_serviceStep hI.1 hI.2) hstart h

end Pool

/-! ### Two checkers -/

/-- Users 1 and 2 may raise and check everything. -/
def everyone : Authority where
  isOperator := fun _ => true
  holdsCheck := fun _ => true
  mayAct := fun _ _ _ => true
  isSuperAdmin := fun _ => false
  isBreakGlass := fun _ => false
  candidates := [1, 2, 3]
  soloSuperAdmin := false

/-- No request yet; a count of what the executors have done is all there is besides. -/
def noRequests : Store ℕ ℕ where
  requests := .empty
  nextId := 1
  policies := fun _ _ => none
  authority := everyone
  now := 0
  world := 0
  moved := []
  ran := []

def counting : Registry ℕ Unit where
  executorFor := fun _ => some fun _ _ n => (.done (.obj []), n + 1)
  notifyClosed := fun _ _ _ n => n

/-- A hold on a driver's payouts, which always needs a checker. -/
def payoutHold : RaiseCall ℕ Unit where
  actionKey := "finance.payout_hold"
  actor := some 1
  actorLabel := "maker"
  systemLabel := ""
  country := "IN"
  amount := none
  currency := ""
  scopeNode := none
  targetType := "driver"
  targetId := "7"
  payload := .obj []
  execute := none
  idempotencyKey := "hold:7"
  reason := "fraud"
  ttl := 72
  countryNode := none

def goesOn : Choice Unit := ⟨none, ()⟩

/-- User 1 raises the hold, and users 2 and 3 approve it at once. -/
def twoCheckers : List (ServiceMove ℕ ℕ Unit) :=
  [.start 0 (0, .raise payoutHold), .advance 0 goesOn, .advance 0 goesOn, .advance 0 goesOn,
    .advance 0 goesOn, .start 1 (1, .approve 1 2 "seen"), .start 2 (2, .approve 1 3 "seen"),
    .advance 2 goesOn, .advance 1 goesOn, .advance 2 goesOn, .advance 1 goesOn,
    .advance 2 goesOn, .advance 2 goesOn]

/-- Of two checkers who approve at once the first one's call runs the executor. -/
theorem twoCheckers_exactlyOnce :
    ExactlyOnce (Transition.run (serviceStep counting) ⟨fun _ => none, noRequests⟩
        twoCheckers).store ∧
      (Transition.run (serviceStep counting) ⟨fun _ => none, noRequests⟩ twoCheckers).store.ran
        = [(2, 1)] := by
  refine ⟨(exactlyOnce_of_run (s := noRequests) ?_ ?_).1, by decide +kernel⟩
  · refine ⟨fun r hr => ?_, List.nodup_nil, fun r hr => ?_, fun x hx => ?_, List.nodup_nil,
      fun x hx => ?_, List.nodup_nil⟩
    · cases hr
    · cases hr
    · cases hx
    · cases hx
  · exact ⟨rfl, trivial, trivial, trivial, trivial, rfl, rfl, trivial, trivial, trivial, trivial,
      trivial, trivial, trivial⟩

end SaaradhiGo.Approvals
