/-
What one statement does to a row, and what a worker may count on while it holds a claim.

Each statement is described once, by the turn it gives a row.  A worker that has claimed a row
relies on the row staying `sending` with its attempts; under that its program calls the
adapter at most once for a claim, writes a status only over `sending`, and gives the attempt
back only before the call (`sound_deliver`).
-/
import Mathlib.Tactic.Common
import SaaradhiGo.Notifications.Message

namespace SaaradhiGo.Notifications

open Interleave

variable {c : Config} {s s' : Outbox} {o : Op} {e : Choice} {id : ℕ}

/-! ## Turns -/

/-- The status and the attempts of a row before and after a statement. -/
inductive Turn (c : Config) (m m' : Message) : Op → Prop where
  | same (o : Op) (status : m'.status = m.status) (attempts : m'.attempts = m.attempts) :
      Turn c m m' o
  | claimed (now : ℕ) (queued : m.status = .queued) (status : m'.status = .sending)
      (attempts : m'.attempts = m.attempts + 1) : Turn c m m' (.claim m.id now)
  | held (notBefore : ℕ) (status : m'.status = .queued) (attempts : m'.attempts = m.attempts - 1) :
      Turn c m m' (.hold m.id notBefore)
  | finished (status : Status) (error : String) (status_eq : m'.status = status)
      (attempts : m'.attempts = m.attempts) : Turn c m m' (.finish m.id status error)
  | requeued (now delay : ℕ) (error : String) (status : m'.status = .queued)
      (attempts : m'.attempts = m.attempts) : Turn c m m' (.requeue m.id now delay error)
  | advanced (status : Status) (detail : String) (allowed : m.status ∈ advanceFrom status)
      (status_eq : m'.status = status) (attempts : m'.attempts = m.attempts) :
      Turn c m m' (.advance m.id status detail)
  | lost (now : ℕ) (stuck : Outbox.Stuck m now) (spent : c.maxAttempts ≤ m.attempts)
      (status : m'.status = .failed) (attempts : m'.attempts = m.attempts) :
      Turn c m m' (.failStuck now)
  | returned (now : ℕ) (stuck : Outbox.Stuck m now) (left : m.attempts < c.maxAttempts)
      (status : m'.status = .queued) (attempts : m'.attempts = m.attempts) :
      Turn c m m' (.requeueStuck now)

/-- A row and what a statement makes of it. -/
structure Turned (c : Config) (o : Op) (m m' : Message) : Prop where
  id : m'.id = m.id
  key : m'.idempotencyKey = m.idempotencyKey
  turn : Turn c m m' o

lemma Turned.refl (m : Message) : Turned c o m m := ⟨rfl, rfl, .same o rfl rfl⟩

namespace Outbox

/-- The rows of the outbox that has the rows of `s` rewritten by `f`. -/
lemma get?_rewrite {f : Message → Message} (hf : ∀ m, (f m).id = m.id) (j : ℕ) :
    (s.rewrite f hf).messages.get? j = (s.messages.get? j).map f := by
  rw [rewrite, Table.get?, Table.get?, List.find?_map]
  congr 2
  funext m
  rw [Function.comp_apply, hf]

/-- The rows after one of them is updated. -/
lemma get?_modify (f : Message → Message) (j : ℕ) :
    (s.modify id f).messages.get? j =
      if j = id then (s.messages.get? id).map fun m => { f m with id := m.id }
      else s.messages.get? j := by
  rw [modify]
  cases hget : s.messages.get? id with
  | none =>
      by_cases hj : j = id
      · rw [if_pos hj, hj, hget]
        rfl
      · rw [if_neg hj]
  | some m =>
      have hid := Table.pk_of_get? hget
      by_cases hj : j = id
      · rw [if_pos hj, hj, ← hid]
        exact Table.get?_put_self _ _
      · rw [if_neg hj]
        exact Table.get?_put_of_ne _ (by rw [show Message.id _ = m.id from rfl, hid]; exact hj)

@[simp] lemma nextId_modify (f : Message → Message) : (s.modify id f).nextId = s.nextId := by
  rw [modify]
  split
  · rfl
  · rfl

@[simp] lemma calls_modify (f : Message → Message) : (s.modify id f).calls = s.calls := by
  rw [modify]
  split
  · rfl
  · rfl

@[simp] lemma messages_record (ev : StatusEvent) : (s.record ev).2.messages = s.messages := by
  rw [record]
  split
  · rfl
  · rfl

@[simp] lemma nextId_record (ev : StatusEvent) : (s.record ev).2.nextId = s.nextId := by
  rw [record]
  split
  · rfl
  · rfl

@[simp] lemma calls_record (ev : StatusEvent) : (s.record ev).2.calls = s.calls := by
  rw [record]
  split
  · rfl
  · rfl

/-- What an update makes of each row, when it keeps the keys. -/
lemma turned_modify {f : Message → Message} (hid : ∀ m, (f m).id = m.id)
    (hkey : ∀ m, (f m).idempotencyKey = m.idempotencyKey)
    (hturn : ∀ m, s.messages.get? id = some m → Turn c m (f m) o) {j : ℕ} {m : Message}
    (hj : s.messages.get? j = some m) :
    ∃ m', (s.modify id f).messages.get? j = some m' ∧ Turned c o m m' := by
  rw [get?_modify]
  by_cases h : j = id
  · subst h
    rw [if_pos rfl, hj, Option.map_some, ← hid m]
    exact ⟨f m, rfl, hid m, hkey m, hturn m hj⟩
  · rw [if_neg h]
    exact ⟨m, hj, .refl m⟩

/-- An update that changes neither status nor attempts. -/
lemma turned_modify_same {f : Message → Message} (hid : ∀ m, (f m).id = m.id)
    (hkey : ∀ m, (f m).idempotencyKey = m.idempotencyKey) (hstatus : ∀ m, (f m).status = m.status)
    (hattempts : ∀ m, (f m).attempts = m.attempts) {j : ℕ} {m : Message}
    (hj : s.messages.get? j = some m) :
    ∃ m', (s.modify id f).messages.get? j = some m' ∧ Turned c o m m' :=
  turned_modify hid hkey (fun m _ => .same o (hstatus m) (hattempts m)) hj

/-- A conditional update of a row. -/
lemma turned_of_same (hsame : s'.messages = s.messages) {j : ℕ} {m : Message}
    (hj : s.messages.get? j = some m) :
    ∃ m', s'.messages.get? j = some m' ∧ Turned c o m m' :=
  ⟨m, by rw [hsame]; exact hj, .refl m⟩

/-- The claim takes a queued row, or nothing. -/
lemma turned_claim {now j : ℕ} {m : Message} (hj : s.messages.get? j = some m) :
    ∃ m', (s.claim id now).2.messages.get? j = some m' ∧ Turned c (.claim id now) m m' := by
  rw [claim]
  split
  · exact turned_of_same rfl hj
  rename_i row hrow
  split
  · rename_i hclaimable
    show ∃ m', (s.modify id _).messages.get? j = some m' ∧ _
    refine turned_modify ?_ ?_ (fun m hm => ?_) hj
    · exact fun _ => rfl
    · exact fun _ => rfl
    rw [hrow, Option.some.injEq] at hm
    subst hm
    rw [← Table.pk_of_get? hrow]
    exact .claimed now hclaimable.1 rfl rfl
  · exact turned_of_same rfl hj

/-- A webhook moves a row from the statuses it may, or not at all. -/
lemma turned_advance {status : Status} {detail : String} {now j : ℕ} {m : Message}
    (hj : s.messages.get? j = some m) :
    ∃ m', (s.advance id status detail now).messages.get? j = some m' ∧
      Turned c (.advance id status detail) m m' := by
  rw [advance]
  split
  · exact turned_of_same rfl hj
  rename_i row hrow
  split
  · rename_i hallowed
    refine turned_modify ?_ ?_ (fun m hm => ?_) hj
    · exact fun _ => rfl
    · exact fun _ => rfl
    rw [hrow, Option.some.injEq] at hm
    subst hm
    rw [← Table.pk_of_get? hrow]
    exact .advanced status detail hallowed rfl rfl
  · exact turned_of_same rfl hj

/-- The first update of the sweep. -/
lemma turned_failStuck {now j : ℕ} {m : Message} (hj : s.messages.get? j = some m) :
    ∃ m', (s.failStuck c now).messages.get? j = some m' ∧ Turned c (.failStuck now) m m' := by
  refine ⟨failedByLimit c now m, ?_, id_failedByLimit c now m, ?_, ?_⟩
  · rw [failStuck, get?_rewrite, hj]
    rfl
  · rw [failedByLimit]
    split
    · rfl
    · rfl
  · rw [failedByLimit]
    split
    · rename_i h
      exact .lost now h.1 h.2 rfl rfl
    · exact .same _ rfl rfl

lemma turned_requeueStuck {now j : ℕ} {m : Message} (hj : s.messages.get? j = some m) :
    ∃ m', (s.requeueStuck c now).messages.get? j = some m' ∧
      Turned c (.requeueStuck now) m m' := by
  refine ⟨requeuedBySweep c now m, ?_, id_requeuedBySweep c now m, ?_, ?_⟩
  · rw [requeueStuck, get?_rewrite, hj]
    rfl
  · rw [requeuedBySweep]
    split
    · rfl
    · rfl
  · rw [requeuedBySweep]
    split
    · rename_i h
      exact .returned now h.1 h.2 rfl rfl
    · exact .same _ rfl rfl

end Outbox

/-! ## New rows -/

namespace Outbox

lemma create_cases (s : Outbox) (key : String) (channel : Channel) (now : ℕ) (d : Draft) :
    ((s.findKey key).isSome ∧ s.create key channel now d = (none, s)) ∨
      (s.findKey key = none ∧ (s.create key channel now d).1 = some s.nextId ∧
        (s.create key channel now d).2.messages =
          s.messages.put (s.draftRow key channel now d) ∧
        (s.create key channel now d).2.nextId = s.nextId + 1 ∧
        (s.create key channel now d).2.calls = s.calls) := by
  rw [create.eq_def]
  split
  · rename_i h
    exact .inl ⟨h, rfl⟩
  · rename_i h
    refine .inr ⟨by simpa using h, rfl, ?_, ?_, ?_⟩
    · simp only [messages_record]
    · simp only [nextId_record]
    · simp only [calls_record]

end Outbox

/-! ## One statement -/

/-- Every statement but an insert turns each row. -/
theorem exec_turned {j : ℕ} {m : Message} (hj : s.messages.get? j = some m)
    (hfresh : j < s.nextId) :
    ∃ m', (exec c o e s).2.messages.get? j = some m' ∧ Turned c o m m' := by
  cases o with
  | create key channel d =>
      show ∃ m', (s.create key channel e.now d).2.messages.get? j = some m' ∧ _
      rcases s.create_cases key channel e.now d with ⟨-, hnone⟩ | ⟨-, -, hput, -, -⟩
      · rw [hnone]
        exact ⟨m, hj, .refl m⟩
      · have hne : j ≠ (s.draftRow key channel e.now d).id := by
          show j ≠ s.nextId
          omega
        exact ⟨m, by rw [hput, Table.get?_put_of_ne _ hne, hj], .refl m⟩
  | claim id now => exact Outbox.turned_claim hj
  | suppressAs id reason provider =>
      refine Outbox.turned_modify_same ?_ ?_ ?_ ?_ hj <;> exact fun _ => rfl
  | hold id notBefore =>
      refine Outbox.turned_modify ?_ ?_ (fun m hm => ?_) hj
      · exact fun _ => rfl
      · exact fun _ => rfl
      rw [← Table.pk_of_get? hm]
      exact .held notBefore rfl rfl
  | setProvider id provider =>
      refine Outbox.turned_modify_same ?_ ?_ ?_ ?_ hj <;> exact fun _ => rfl
  | setMessageId id pmid =>
      refine Outbox.turned_modify_same ?_ ?_ ?_ ?_ hj <;> exact fun _ => rfl
  | finish id status error =>
      refine Outbox.turned_modify ?_ ?_ (fun m hm => ?_) hj
      · exact fun _ => rfl
      · exact fun _ => rfl
      rw [← Table.pk_of_get? hm]
      exact .finished status error rfl rfl
  | requeue id now delay error =>
      refine Outbox.turned_modify ?_ ?_ (fun m hm => ?_) hj
      · exact fun _ => rfl
      · exact fun _ => rfl
      rw [← Table.pk_of_get? hm]
      exact .requeued now delay error rfl rfl
  | scrub id =>
      show ∃ m', (if e.scrubs then _ else s).messages.get? j = some m' ∧ _
      split
      · refine Outbox.turned_modify_same ?_ ?_ ?_ ?_ hj <;> exact fun _ => rfl
      · exact ⟨m, hj, .refl m⟩
  | setReason id reason =>
      refine Outbox.turned_modify_same ?_ ?_ ?_ ?_ hj <;> exact fun _ => rfl
  | advance id status detail => exact Outbox.turned_advance hj
  | failStuck now => exact Outbox.turned_failStuck hj
  | requeueStuck now => exact Outbox.turned_requeueStuck hj
  | recordSending id ev => exact Outbox.turned_of_same (Outbox.messages_record ev) hj
  | record ev => exact Outbox.turned_of_same (Outbox.messages_record ev) hj
  | findKey key => exact ⟨m, hj, .refl m⟩
  | draft => exact ⟨m, hj, .refl m⟩
  | read id => exact ⟨m, hj, .refl m⟩
  | decide id => exact ⟨m, hj, .refl m⟩
  | rateOk id => exact ⟨m, hj, .refl m⟩
  | build id => exact ⟨m, hj, .refl m⟩
  | call id => exact ⟨m, hj, .refl m⟩
  | answer id => exact ⟨m, hj, .refl m⟩
  | reload id => exact ⟨m, hj, .refl m⟩
  | lookUp provider pmid => exact ⟨m, hj, .refl m⟩
  | due now => exact ⟨m, hj, .refl m⟩

/-! ## Claims -/

/-- The row whose claim an operation relies on. -/
def Op.claimed : Op → Option ℕ
  | .read id => some id
  | .decide id => some id
  | .suppressAs id _ _ => some id
  | .hold id _ => some id
  | .setProvider id _ => some id
  | .rateOk id => some id
  | .recordSending id _ => some id
  | .build id => some id
  | .call id => some id
  | .answer id => some id
  | .setMessageId id _ => some id
  | .finish id _ _ => some id
  | .requeue id _ _ _ => some id
  | _ => none

/-- What an operation counts on, besides its claim. -/
def Op.Fits (c : Config) (s : Outbox) (m : Message) : Op → Prop
  | .hold id _ => s.calls.count id < m.attempts
  | .call id => s.calls.count id < m.attempts
  | .requeue _ _ _ _ => m.attempts < c.maxAttempts
  | .finish _ status _ => status ∈ terminal
  | _ => True

def Holds (c : Config) (o : Op) (s : Outbox) : Prop :=
  ∀ id ∈ o.claimed, ∃ m, s.messages.get? id = some m ∧ m.status = .sending ∧ o.Fits c s m

/-- What holds of the outbox at any time. -/
structure Kept (c : Config) (s : Outbox) : Prop where
  fresh : ∀ id m, s.messages.get? id = some m → id < s.nextId
  /-- one row for each key and channel -/
  keys : ∀ id m id' m', s.messages.get? id = some m → s.messages.get? id' = some m' →
    m.idempotencyKey = m'.idempotencyKey → id = id'
  attempts : ∀ id m, s.messages.get? id = some m → m.attempts ≤ c.maxAttempts
  queued : ∀ id m, s.messages.get? id = some m → m.status = .queued → m.attempts < c.maxAttempts
  calls : ∀ id m, s.messages.get? id = some m → s.calls.count id ≤ m.attempts
  called : ∀ id ∈ s.calls, id < s.nextId

lemma exec_get?_cases {j : ℕ} {m' : Message} (hs : Kept c s)
    (hj : (exec c o e s).2.messages.get? j = some m') :
    (∃ m, s.messages.get? j = some m ∧ Turned c o m m') ∨
      (∃ key channel d, o = .create key channel d ∧ s.findKey key = none ∧ j = s.nextId ∧
        m' = s.draftRow key channel e.now d) := by
  cases hget : s.messages.get? j with
  | some m =>
      obtain ⟨m₁, hm₁, hturned⟩ := exec_turned (c := c) (o := o) (e := e) hget (hs.fresh j m hget)
      rw [hj, Option.some.injEq] at hm₁
      exact .inl ⟨m, rfl, hm₁ ▸ hturned⟩
  | none =>
      -- a statement that leaves the id free contradicts the row found at it
      have habsurd : (exec c o e s).2.messages.get? j = none → False := by
        intro h
        rw [hj] at h
        cases h
      have hmodify : ∀ id f, (s.modify id f).messages.get? j = none := by
        intro id f
        rw [Outbox.get?_modify]
        split
        · rename_i h
          rw [← h, hget]
          rfl
        · exact hget
      refine .inr ?_
      cases o with
      | create key channel d =>
          rcases s.create_cases key channel e.now d with ⟨-, hnone⟩ | ⟨hfree, -, hput, -, -⟩
          · refine absurd ?_ habsurd
            show (s.create key channel e.now d).2.messages.get? j = none
            rw [hnone]
            exact hget
          · have hj' : (s.messages.put (s.draftRow key channel e.now d)).get? j = some m' := by
              rw [← hput]
              exact hj
            -- the key is free: the draft is the only row the table gains
            by_cases hid : j = (s.draftRow key channel e.now d).id
            · subst hid
              rw [Table.get?_put_self, Option.some.injEq] at hj'
              exact ⟨key, channel, d, rfl, hfree, rfl, hj'.symm⟩
            · rw [Table.get?_put_of_ne _ hid, hget] at hj'
              cases hj'
      | claim id now =>
          refine absurd ?_ habsurd
          show (s.claim id now).2.messages.get? j = none
          rw [Outbox.claim]
          split
          · exact hget
          split
          · exact hmodify id _
          · exact hget
      | suppressAs id reason provider => exact absurd (hmodify id _) habsurd
      | hold id notBefore => exact absurd (hmodify id _) habsurd
      | setProvider id provider => exact absurd (hmodify id _) habsurd
      | setMessageId id pmid => exact absurd (hmodify id _) habsurd
      | finish id status error => exact absurd (hmodify id _) habsurd
      | requeue id now delay error => exact absurd (hmodify id _) habsurd
      | scrub id =>
          refine absurd ?_ habsurd
          show (if e.scrubs then _ else s).messages.get? j = none
          split
          · exact hmodify id _
          · exact hget
      | setReason id reason => exact absurd (hmodify id _) habsurd
      | advance id status detail =>
          refine absurd ?_ habsurd
          show (s.advance id status detail e.now).messages.get? j = none
          rw [Outbox.advance]
          split
          · exact hget
          split
          · exact hmodify id _
          · exact hget
      | failStuck now =>
          refine absurd ?_ habsurd
          show (s.failStuck c now).messages.get? j = none
          rw [Outbox.failStuck, Outbox.get?_rewrite, hget]
          rfl
      | requeueStuck now =>
          refine absurd ?_ habsurd
          show (s.requeueStuck c now).messages.get? j = none
          rw [Outbox.requeueStuck, Outbox.get?_rewrite, hget]
          rfl
      | recordSending id ev =>
          refine absurd ?_ habsurd
          show (s.record ev).2.messages.get? j = none
          rw [Outbox.messages_record, hget]
      | record ev =>
          refine absurd ?_ habsurd
          show (s.record ev).2.messages.get? j = none
          rw [Outbox.messages_record, hget]
      | findKey key => exact absurd hget habsurd
      | draft => exact absurd hget habsurd
      | read id => exact absurd hget habsurd
      | decide id => exact absurd hget habsurd
      | rateOk id => exact absurd hget habsurd
      | build id => exact absurd hget habsurd
      | call id => exact absurd hget habsurd
      | answer id => exact absurd hget habsurd
      | reload id => exact absurd hget habsurd
      | lookUp provider pmid => exact absurd hget habsurd
      | due now => exact absurd hget habsurd

lemma exec_counters (c : Config) (o : Op) (e : Choice) (s : Outbox) :
    ((exec c o e s).2.nextId = s.nextId ∨ ∃ key channel d, o = .create key channel d ∧
        (s.create key channel e.now d).1 = some s.nextId ∧
        (exec c o e s).2.nextId = s.nextId + 1) ∧
      ((exec c o e s).2.calls = s.calls ∨ ∃ id, o = .call id ∧
        (exec c o e s).2.calls = id :: s.calls) := by
  -- all but a create and a call leave both counters alone
  have hsame : (exec c o e s).2.nextId = s.nextId → (exec c o e s).2.calls = s.calls →
      ((exec c o e s).2.nextId = s.nextId ∨ ∃ key channel d, o = .create key channel d ∧
        (s.create key channel e.now d).1 = some s.nextId ∧
        (exec c o e s).2.nextId = s.nextId + 1) ∧
      ((exec c o e s).2.calls = s.calls ∨ ∃ id, o = .call id ∧
        (exec c o e s).2.calls = id :: s.calls) := fun h h' => ⟨.inl h, .inl h'⟩
  have hmodify : ∀ id f, (exec c o e s).2 = s.modify id f →
      (exec c o e s).2.nextId = s.nextId ∧ (exec c o e s).2.calls = s.calls := by
    intro id f h
    rw [h]
    exact ⟨Outbox.nextId_modify f, Outbox.calls_modify f⟩
  cases o with
  | create key channel d =>
      rcases s.create_cases key channel e.now d with ⟨-, hnone⟩ | ⟨-, hsome, -, hnext, hcalls⟩
      · have hstore : (exec c (.create key channel d) e s).2 = s := congrArg Prod.snd hnone
        exact hsame (congrArg Outbox.nextId hstore) (congrArg Outbox.calls hstore)
      · exact ⟨.inr ⟨key, channel, d, rfl, hsome, hnext⟩, .inl hcalls⟩
  | call id => exact ⟨.inl rfl, .inr ⟨id, rfl, rfl⟩⟩
  | claim id now =>
      have hcases : (s.claim id now).2 = s ∨ ∃ f, (s.claim id now).2 = s.modify id f := by
        rw [Outbox.claim]
        split
        · exact .inl rfl
        split
        · exact .inr ⟨_, rfl⟩
        · exact .inl rfl
      rcases hcases with h | ⟨f, h⟩
      · exact hsame (congrArg Outbox.nextId h) (congrArg Outbox.calls h)
      · exact hsame (hmodify id f h).1 (hmodify id f h).2
  | scrub id =>
      have hcases : (exec c (.scrub id) e s).2 = s ∨
          ∃ f, (exec c (.scrub id) e s).2 = s.modify id f := by
        show (if e.scrubs then _ else s) = s ∨ ∃ f, (if e.scrubs then _ else s) = _
        split
        · exact .inr ⟨_, rfl⟩
        · exact .inl rfl
      rcases hcases with h | ⟨f, h⟩
      · exact hsame (congrArg Outbox.nextId h) (congrArg Outbox.calls h)
      · exact hsame (hmodify id f h).1 (hmodify id f h).2
  | advance id status detail =>
      have hcases : s.advance id status detail e.now = s ∨
          ∃ f, s.advance id status detail e.now = s.modify id f := by
        rw [Outbox.advance]
        split
        · exact .inl rfl
        split
        · exact .inr ⟨_, rfl⟩
        · exact .inl rfl
      rcases hcases with h | ⟨f, h⟩
      · exact hsame (congrArg Outbox.nextId h) (congrArg Outbox.calls h)
      · exact hsame (hmodify id f h).1 (hmodify id f h).2
  | recordSending id ev => exact hsame (Outbox.nextId_record ev) (Outbox.calls_record ev)
  | record ev => exact hsame (Outbox.nextId_record ev) (Outbox.calls_record ev)
  | suppressAs id reason provider => exact hsame (hmodify id _ rfl).1 (hmodify id _ rfl).2
  | hold id notBefore => exact hsame (hmodify id _ rfl).1 (hmodify id _ rfl).2
  | setProvider id provider => exact hsame (hmodify id _ rfl).1 (hmodify id _ rfl).2
  | setMessageId id pmid => exact hsame (hmodify id _ rfl).1 (hmodify id _ rfl).2
  | finish id status error => exact hsame (hmodify id _ rfl).1 (hmodify id _ rfl).2
  | requeue id now delay error => exact hsame (hmodify id _ rfl).1 (hmodify id _ rfl).2
  | setReason id reason => exact hsame (hmodify id _ rfl).1 (hmodify id _ rfl).2
  | failStuck now => exact hsame rfl rfl
  | requeueStuck now => exact hsame rfl rfl
  | findKey key => exact hsame rfl rfl
  | draft => exact hsame rfl rfl
  | read id => exact hsame rfl rfl
  | decide id => exact hsame rfl rfl
  | rateOk id => exact hsame rfl rfl
  | build id => exact hsame rfl rfl
  | answer id => exact hsame rfl rfl
  | reload id => exact hsame rfl rfl
  | lookUp provider pmid => exact hsame rfl rfl
  | due now => exact hsame rfl rfl

lemma maxAttempts_pos (c : Config) : 0 < c.maxAttempts := by
  rw [Config.maxAttempts]
  omega

lemma Holds.row {m : Message} (h : Holds c o s) (hclaimed : o.claimed = some m.id)
    (hget : s.messages.get? m.id = some m) : m.status = .sending ∧ o.Fits c s m := by
  obtain ⟨m', hm', hsending, hfits⟩ := h m.id hclaimed
  rw [hget, Option.some.injEq] at hm'
  subst hm'
  exact ⟨hsending, hfits⟩

lemma Turned.bounds {m m' : Message} (h : Turned c o m m') (hs : Kept c s) (hholds : Holds c o s)
    (hget : s.messages.get? m.id = some m) :
    m'.attempts ≤ c.maxAttempts ∧ (m'.status = .queued → m'.attempts < c.maxAttempts) ∧
      (exec c o e s).2.calls.count m.id ≤ m'.attempts := by
  have hle := hs.attempts m.id m hget
  have hqueued := hs.queued m.id m hget
  have hcalls := hs.calls m.id m hget
  have hcount : (∀ id, o ≠ .call id) → (exec c o e s).2.calls.count m.id = s.calls.count m.id := by
    intro hne
    rcases (exec_counters c o e s).2 with h | ⟨id, rfl, -⟩
    · rw [h]
    · exact absurd rfl (hne id)
  cases h.turn with
  | same o hstatus hattempts =>
      refine ⟨by omega, fun hq => ?_, ?_⟩
      · have h := hqueued (hstatus ▸ hq)
        omega
      · by_cases hcall : o = .call m.id
        · subst hcall
          have hfits := (hholds.row rfl hget).2
          show (m.id :: s.calls).count m.id ≤ m'.attempts
          rw [List.count_cons_self, hattempts]
          exact hfits
        · have hother : (exec c o e s).2.calls.count m.id = s.calls.count m.id := by
            rcases (exec_counters c o e s).2 with h | ⟨id, rfl, h⟩
            · rw [h]
            · have hne : id ≠ m.id := fun hid => hcall (by rw [hid])
              rw [h, List.count_cons_of_ne hne]
          omega
  | claimed now hq hstatus hattempts =>
      have h := hqueued hq
      rw [hcount (fun id hid => by cases hid)]
      -- a claim is the one statement that spends an attempt
      refine ⟨by omega, fun hq => ?_, by omega⟩
      rw [hstatus] at hq
      cases hq
  | held notBefore hstatus hattempts =>
      -- the worker that holds the row has not called yet
      have hfits : s.calls.count m.id < m.attempts := (hholds.row rfl hget).2
      rw [hcount (fun id hid => by cases hid)]
      exact ⟨by omega, fun _ => by omega, by omega⟩
  | finished status error hstatus hattempts =>
      have hfits : status ∈ terminal := (hholds.row rfl hget).2
      rw [hcount (fun id hid => by cases hid)]
      refine ⟨by omega, fun hq => ?_, by omega⟩
      rw [hstatus] at hq
      subst hq
      exact absurd hfits (by decide)
  | requeued now delay error hstatus hattempts =>
      -- a send is put back only while it has attempts left
      have hfits : m.attempts < c.maxAttempts := (hholds.row rfl hget).2
      rw [hcount (fun id hid => by cases hid)]
      exact ⟨by omega, fun _ => by omega, by omega⟩
  | advanced status detail hallowed hstatus hattempts =>
      rw [hcount (fun id hid => by cases hid)]
      refine ⟨by omega, fun hq => ?_, by omega⟩
      rw [hstatus] at hq
      subst hq
      -- no receipt moves a row back to queued
      cases hallowed
  | lost now hstuck hspent hstatus hattempts =>
      rw [hcount (fun id hid => by cases hid)]
      refine ⟨by omega, fun hq => ?_, by omega⟩
      rw [hstatus] at hq
      cases hq
  | returned now hstuck hleft hstatus hattempts =>
      rw [hcount (fun id hid => by cases hid)]
      exact ⟨by omega, fun _ => by omega, by omega⟩

/-- Every statement that holds the claim it relies on keeps the outbox in order. -/
theorem kept_exec (hs : Kept c s) (hholds : Holds c o s) : Kept c (exec c o e s).2 := by
  have hnext : s.nextId ≤ (exec c o e s).2.nextId := by
    rcases (exec_counters c o e s).1 with h | ⟨-, -, -, -, -, h⟩
    · exact h.ge
    · omega
  have hpk : ∀ j m, s.messages.get? j = some m → m.id = j := fun j m h => Table.pk_of_get? h
  have hcreated : ∀ {key channel d}, o = .create key channel d → s.findKey key = none →
      (exec c o e s).2.nextId = s.nextId + 1 ∧ (exec c o e s).2.calls = s.calls := by
    rintro key channel d rfl hfree
    rcases s.create_cases key channel e.now d with ⟨hsome, -⟩ | ⟨-, -, -, hnext, hcalls⟩
    · rw [hfree] at hsome
      cases hsome
    · exact ⟨hnext, hcalls⟩
  have hnone : s.calls.count s.nextId = 0 := by
    rw [List.count_eq_zero]
    exact fun hmem => absurd (hs.called _ hmem) (lt_irrefl _)
  have hpos := maxAttempts_pos c
  -- in turn: ids, keys, attempts, queued rows, calls, and the rows called for
  refine ⟨fun j m' hj => ?_, fun j m' k n' hj hk hkey => ?_, fun j m' hj => ?_, fun j m' hj => ?_,
    fun j m' hj => ?_, fun id hid => ?_⟩
  · rcases exec_get?_cases hs hj with ⟨m, hm, -⟩ | ⟨key, channel, d, ho, hfree, rfl, -⟩
    · have h := hs.fresh j m hm
      omega
    · have h := (hcreated ho hfree).1
      omega
  · rcases exec_get?_cases hs hj with ⟨m, hm, hturned⟩ | ⟨key, channel, d, ho, hfree, rfl, rfl⟩
    · rcases exec_get?_cases hs hk with ⟨n, hn, hturned'⟩ | ⟨key, channel, d, ho, hfree, rfl, rfl⟩
      · exact hs.keys j m k n hm hn (by rw [← hturned.key, hkey, hturned'.key])
      · refine absurd ?_ (List.find?_eq_none.mp hfree m (Table.mem_of_get? hm).1)
        rw [← hturned.key, hkey]
        exact decide_eq_true rfl
    · rcases exec_get?_cases hs hk with ⟨n, hn, hturned'⟩ | ⟨key', channel', d', ho', -, rfl, rfl⟩
      · refine absurd ?_ (List.find?_eq_none.mp hfree n (Table.mem_of_get? hn).1)
        rw [← hturned'.key, ← hkey]
        exact decide_eq_true rfl
      · rfl
  · rcases exec_get?_cases hs hj with ⟨m, hm, hturned⟩ | ⟨key, channel, d, ho, hfree, rfl, rfl⟩
    · have hid := hpk j m hm
      subst hid
      exact (hturned.bounds (e := e) hs hholds hm).1
    · exact Nat.zero_le _
  · intro hq
    rcases exec_get?_cases hs hj with ⟨m, hm, hturned⟩ | ⟨key, channel, d, ho, hfree, rfl, rfl⟩
    · have hid := hpk j m hm
      subst hid
      exact (hturned.bounds (e := e) hs hholds hm).2.1 hq
    · exact hpos
  · rcases exec_get?_cases hs hj with ⟨m, hm, hturned⟩ | ⟨key, channel, d, ho, hfree, rfl, rfl⟩
    · have hid := hpk j m hm
      subst hid
      exact (hturned.bounds (e := e) hs hholds hm).2.2
    · rw [(hcreated ho hfree).2, hnone]
      exact Nat.zero_le _
  · rcases (exec_counters c o e s).2 with h | ⟨i, rfl, h⟩
    · rw [h] at hid
      exact lt_of_lt_of_le (hs.called id hid) hnext
    · rw [h, List.mem_cons] at hid
      rcases hid with rfl | hid
      · obtain ⟨m, hm, -, -⟩ := hholds id rfl
        exact lt_of_lt_of_le (hs.fresh id m hm) hnext
      · exact lt_of_lt_of_le (hs.called id hid) hnext

/-! ## The program of a worker -/

/-- The row keeps its status, its attempts and the calls made for it. -/
structure Steady (id : ℕ) (s s' : Outbox) : Prop where
  row : ∀ m, s.messages.get? id = some m →
    ∃ m', s'.messages.get? id = some m' ∧ m'.status = m.status ∧ m'.attempts = m.attempts
  calls : s'.calls.count id = s.calls.count id

lemma Steady.refl (id : ℕ) (s : Outbox) : Steady id s s := ⟨fun m h => ⟨m, h, rfl, rfl⟩, rfl⟩

lemma Steady.trans {s'' : Outbox} (h : Steady id s s') (h' : Steady id s' s'') :
    Steady id s s'' := by
  refine ⟨fun m hm => ?_, h'.calls.trans h.calls⟩
  obtain ⟨m₁, hm₁, hstatus, hattempts⟩ := h.row m hm
  obtain ⟨m₂, hm₂, hstatus', hattempts'⟩ := h'.row m₁ hm₁
  exact ⟨m₂, hm₂, hstatus'.trans hstatus, hattempts'.trans hattempts⟩

def Relies (q : Program) (s s' : Outbox) : Prop :=
  ∀ o k, q = .op o k → ∀ id ∈ o.claimed, Steady id s s'

lemma Relies.refl (q : Program) (s : Outbox) : Relies q s s := fun _ _ _ id _ => .refl id s

lemma Relies.trans {q : Program} {s'' : Outbox} (h : Relies q s s') (h' : Relies q s' s'') :
    Relies q s s'' := fun o k hq id hid => (h o k hq id hid).trans (h' o k hq id hid)

def Sound (c : Config) (q : Program) (s : Outbox) : Prop :=
  Prog.wp (exec c) (fun _ _ s => Kept c s) Relies (fun o s _ => Holds c o s) q (fun _ _ => True) s

lemma sound_ret {r : Reply} : Sound c (.ret r) s := fun _ _ => trivial

lemma sound_free {k : Ans o → Program} (ho : o.claimed = none)
    (hk : ∀ x s', Sound c (k x) s') : Sound c (.op o k) s := by
  intro s₁ _ e _
  refine ⟨fun id hid => ?_, hk _ _⟩
  rw [ho] at hid
  cases hid

/-- A worker holds the claim of the row, for which the adapter was called `n` times in `a`
attempts. -/
def Lease (s : Outbox) (id n a : ℕ) : Prop :=
  ∃ m, s.messages.get? id = some m ∧ m.status = .sending ∧ m.attempts = a ∧ s.calls.count id = n

lemma Lease.steady {n a : ℕ} (h : Lease s id n a) (hsteady : Steady id s s') :
    Lease s' id n a := by
  obtain ⟨m, hm, hstatus, hattempts, hcalls⟩ := h
  obtain ⟨m', hm', hstatus', hattempts'⟩ := hsteady.row m hm
  exact ⟨m', hm', hstatus'.trans hstatus, hattempts'.trans hattempts, hsteady.calls.trans hcalls⟩

/-- The operations under a claim that leave status, attempts and calls. -/
def Op.leaves : Op → Bool
  | .read _ => true
  | .decide _ => true
  | .suppressAs _ _ _ => true
  | .setProvider _ _ => true
  | .rateOk _ => true
  | .recordSending _ _ => true
  | .build _ => true
  | .answer _ => true
  | .setMessageId _ _ => true
  | _ => false

lemma Turn.of_leaves {m m' : Message} (h : Turn c m m' o) (ho : o.leaves = true) :
    m'.status = m.status ∧ m'.attempts = m.attempts := by
  cases h with
  | same o hstatus hattempts => exact ⟨hstatus, hattempts⟩
  | claimed now hq hs ha => cases ho
  | held n hs ha => cases ho
  | finished st err hs ha => cases ho
  | requeued now d err hs ha => cases ho
  | advanced st d hm hs ha => cases ho
  | lost now hst hsp hs ha => cases ho
  | returned now hst hl hs ha => cases ho

lemma steady_of_leaves (hs : Kept c s) (ho : o.leaves = true) :
    Steady id s (exec c o e s).2 := by
  refine ⟨fun m hm => ?_, ?_⟩
  · obtain ⟨m', hm', hturned⟩ := exec_turned (c := c) (o := o) (e := e) hm (hs.fresh id m hm)
    obtain ⟨hstatus, hattempts⟩ := hturned.turn.of_leaves ho
    exact ⟨m', hm', hstatus, hattempts⟩
  · rcases (exec_counters c o e s).2 with h | ⟨i, rfl, -⟩
    · rw [h]
    · cases ho

lemma sound_claimed {n a : ℕ} {k : Ans o → Program} (hl : Lease s id n a)
    (ho : o.claimed = some id)
    (hk : ∀ s₁ e, Kept c s₁ → Lease s₁ id n a →
      Holds c o s₁ ∧ Sound c (k (exec c o e s₁).1) (exec c o e s₁).2) : Sound c (.op o k) s := by
  intro s₁ hsteady e hkept
  exact hk s₁ e hkept (hl.steady (hsteady o k rfl id ho))

/-- An operation under a claim that leaves the row's status, attempts and calls. -/
lemma sound_leaves {n a : ℕ} {k : Ans o → Program} (hl : Lease s id n a)
    (ho : o.claimed = some id) (hleaves : o.leaves = true)
    (hk : ∀ s₁ e x s₂, exec c o e s₁ = (x, s₂) → Lease s₁ id n a → Lease s₂ id n a →
      Sound c (k x) s₂) : Sound c (.op o k) s := by
  refine sound_claimed hl ho fun s₁ e hkept hl₁ => ⟨fun i hi => ?_, ?_⟩
  · rw [ho] at hi
    cases hi
    obtain ⟨m, hm, hstatus, -, -⟩ := hl₁
    refine ⟨m, hm, hstatus, ?_⟩
    cases o <;> trivial
  · exact hk s₁ e _ _ rfl hl₁ (hl₁.steady (steady_of_leaves hkept hleaves))

section Worker

variable {n a now : ℕ}

/-- After the update of `_finish` nothing relies on the claim. -/
lemma sound_afterFinish {status : Status} {detail : String} {k : Program}
    (hk : ∀ s', Sound c k s') : Sound c (afterFinish id status detail k) s := by
  refine sound_free rfl fun m s₁ => ?_
  cases m with
  | none => exact sound_ret
  | some m => exact sound_free rfl fun _ s₂ => sound_free rfl fun _ s₃ => hk s₃

/-- `_finish`. -/
lemma sound_finishAs {status : Status} {detail error : String} {k : Program}
    (hl : Lease s id n a) (hstatus : status ∈ terminal) (hk : ∀ s', Sound c k s') :
    Sound c (finishAs id status detail error k) s := by
  refine sound_claimed hl rfl fun s₁ e _ hl₁ => ⟨fun i hi => ?_, sound_afterFinish hk⟩
  cases hi
  obtain ⟨m, hm, hsending, -, -⟩ := hl₁
  exact ⟨m, hm, hsending, hstatus⟩

/-- `_retry_or_fail`. -/
lemma sound_retryOrFail {error : String} (hl : Lease s id n a) :
    Sound c (retryOrFail c id now error) s := by
  refine sound_leaves hl rfl rfl fun s₁ e x s₂ hx hl₁ hl₂ => ?_
  obtain ⟨m, hm, hsending, hattempts, -⟩ := hl₁
  have hread : x = some m := hm ▸ (congrArg Prod.fst hx).symm
  subst hread
  dsimp only
  split
  · exact sound_finishAs hl₂ (by decide) fun _ => sound_ret
  · rename_i hlimit
    refine sound_claimed hl₂ rfl fun s₂ e _ hl₃ => ⟨fun i hi => ?_, ?_⟩
    · cases hi
      obtain ⟨m', hm', hsending', hattempts', -⟩ := hl₃
      refine ⟨m', hm', hsending', ?_⟩
      show m'.attempts < c.maxAttempts
      omega
    · exact sound_free rfl fun _ _ => sound_ret

lemma sound_send (hl : Lease s id n a) (hlt : n < a) : Sound c (send c id now) s := by
  refine sound_claimed hl rfl fun s₁ e _ hl₁ => ?_
  obtain ⟨m, hm, hsending, hattempts, hcalls⟩ := hl₁
  refine ⟨fun i hi => ?_, ?_⟩
  · cases hi
    refine ⟨m, hm, hsending, ?_⟩
    show s₁.calls.count id < m.attempts
    omega
  have hl₂ : Lease { s₁ with calls := id :: s₁.calls } id (n + 1) a := by
    refine ⟨m, hm, hsending, hattempts, ?_⟩
    show (id :: s₁.calls).count id = n + 1
    rw [List.count_cons_self, hcalls]
  refine sound_leaves hl₂ rfl rfl fun _ _ answer s₂ _ _ hl₃ => ?_
  cases answer with
  | accepted pmid delivered =>
      refine sound_leaves hl₃ rfl rfl fun _ _ _ s₃ _ _ hl₄ => ?_
      refine sound_finishAs hl₄ ?_ fun _ => sound_ret
      cases delivered <;> decide
  | transient error => exact sound_retryOrFail hl₃
  | permanent error => exact sound_finishAs hl₃ (by decide) fun _ => sound_ret
  | raised name => exact sound_retryOrFail hl₃

lemma sound_hold {notBefore : ℕ} {r : Reply} (hl : Lease s id n a) (hlt : n < a) :
    Sound c (.op (.hold id notBefore) fun _ => .ret r) s := by
  refine sound_claimed hl rfl fun s₁ e _ hl₁ => ⟨fun i hi => ?_, sound_ret⟩
  cases hi
  obtain ⟨m, hm, hsending, hattempts, hcalls⟩ := hl₁
  refine ⟨m, hm, hsending, ?_⟩
  show s₁.calls.count id < m.attempts
  omega

lemma sound_sendIfAllowed {m : Message} {provider : String} (hl : Lease s id n a)
    (hlt : n < a) : Sound c (sendIfAllowed c id m provider now) s := by
  refine sound_leaves hl rfl rfl fun _ _ allowed s₁ _ _ hl₁ => ?_
  cases allowed with
  | false => exact sound_hold hl₁ hlt
  | true =>
      refine sound_leaves hl₁ rfl rfl fun _ _ _ s₂ _ _ hl₂ => ?_
      refine sound_leaves hl₂ rfl rfl fun _ _ refused s₃ _ _ hl₃ => ?_
      cases refused with
      | some name => exact sound_retryOrFail hl₃
      | none => exact sound_send hl₃ hlt

lemma sound_deliverClaimed {m : Message} (hl : Lease s id n a) (hlt : n < a) :
    Sound c (deliverClaimed c id m now) s := by
  refine sound_leaves hl rfl rfl fun _ _ verdict s₁ _ _ hl₁ => ?_
  cases verdict with
  | noRecipient =>
      exact sound_finishAs hl₁ (by decide) fun _ => sound_free rfl fun _ _ => sound_ret
  | suppressed reason provider =>
      refine sound_leaves hl₁ rfl rfl fun _ _ _ s₂ _ _ hl₂ => ?_
      exact sound_finishAs hl₂ (by decide) fun _ => sound_ret
  | held notBefore => exact sound_hold hl₁ hlt
  | go provider =>
      dsimp only
      split
      · exact sound_sendIfAllowed hl₁ hlt
      · exact sound_leaves hl₁ rfl rfl fun _ _ _ s₂ _ _ hl₂ => sound_sendIfAllowed hl₂ hlt

/-- A claim that succeeds is a lease with an attempt that has not called the adapter. -/
lemma lease_claim (hs : Kept c s) (h : (s.claim id now).1 = true) :
    ∃ n a, n < a ∧ Lease (s.claim id now).2 id n a := by
  rw [Outbox.claim] at h ⊢
  cases hget : s.messages.get? id with
  | none =>
      rw [hget] at h
      cases h
  | some m =>
      rw [hget] at h
      dsimp only at h ⊢
      split at h
      · rename_i hclaimable
        rw [if_pos hclaimable]
        have hcalls := hs.calls id m hget
        refine ⟨s.calls.count id, m.attempts + 1, by omega, ?_⟩
        refine ⟨_, by rw [Outbox.get?_modify, if_pos rfl, hget]; rfl, rfl, rfl, ?_⟩
        rw [Outbox.calls_modify]
      · cases h

/-- `deliver` calls the adapter and writes a status only under its claim. -/
theorem sound_deliver : Sound c (deliver c id now) s := by
  intro s₁ _ e hkept
  refine ⟨fun i hi => ?_, ?_⟩
  · cases hi
  show Sound c (afterClaim c id now (s₁.claim id now).1) (s₁.claim id now).2
  rw [afterClaim]
  split
  · rename_i hclaim
    obtain ⟨n, a, hlt, hl⟩ := lease_claim hkept hclaim
    refine sound_leaves hl rfl rfl fun s₂ _ x s₃ hx hl₂ hl₃ => ?_
    obtain ⟨m, hm, -, -, -⟩ := hl₂
    have hread : x = some m := hm ▸ (congrArg Prod.fst hx).symm
    subst hread
    exact sound_deliverClaimed hl₃ hlt
  · exact sound_ret

end Worker

lemma sound_notifyEach {idempotencyKey : String} (channels : List Channel) (ids : List ℕ)
    (s : Outbox) : Sound c (notifyEach idempotencyKey channels ids) s := by
  induction channels generalizing ids s with
  | nil => exact sound_ret
  | cons channel channels ih =>
      refine sound_free rfl fun found s₁ => ?_
      cases found with
      | some m => exact ih _ s₁
      | none =>
          refine sound_free rfl fun d s₂ => sound_free rfl fun created s₃ => ?_
          cases created with
          | some i => exact ih _ s₃
          | none =>
              refine sound_free rfl fun other s₄ => ?_
              cases other with
              | some m => exact ih _ s₄
              | none => exact sound_ret

/-- Every call is sound. -/
theorem sound_program (a : Call) (s : Outbox) : Sound c (program c a) s := by
  cases a with
  | notify idempotencyKey channels => exact sound_notifyEach channels [] s
  | deliver id now => exact sound_deliver
  | webhook provider pmid status detail =>
      refine sound_free rfl fun found s₁ => ?_
      cases found with
      | none => exact sound_ret
      | some m =>
          refine sound_free rfl fun new s₂ => ?_
          cases new with
          | false => exact sound_ret
          | true => exact sound_free rfl fun _ _ => sound_ret
  | dispatchQueued now =>
      exact sound_free rfl fun _ _ => sound_free rfl fun _ _ => sound_free rfl fun _ _ => sound_ret

end SaaradhiGo.Notifications
