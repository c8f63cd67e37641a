/-
What a ticket's history keeps of its clocks, and what the queue shows of them.

A wait is measured by every change of status, and by nothing else: a ticket that is put into the
safety category while it waits keeps its pause, and one that is taken out of it has none.  The
user's close saves the pause as it was read.  Where neither happens the pause is the time waited,
and the filters of the queue agree with the state that is shown, except within the minute that the
one cuts off and the other rounds away (`clocks_kept`).
-/
import SaaradhiGo.Support.Ticket

namespace SaaradhiGo.Support

/-! ## Waits -/

/-- Two tickets with the same clocks. -/
structure SameClock (t u : Ticket) : Prop where
  createdAt : t.createdAt = u.createdAt
  status : t.status = u.status
  issueType : t.issueType = u.issueType
  safetyFlag : t.safetyFlag = u.safetyFlag
  priority : t.priority = u.priority
  country : t.country = u.country
  waitingSince : t.waitingSince = u.waitingSince
  paused : t.resolutionPausedSeconds = u.resolutionPausedSeconds
  due : t.resolutionDueAt = u.resolutionDueAt

/-- The clocks of a history are right. -/
structure Sound (s : State) : Prop where
  waiting : s.ticket.waitingSince.isSome = s.ticket.counting
  since : s.waits.since = s.ticket.waitingSince
  spent : s.waits.spent = 0
  due : s.ticket.resolutionDueAt = some (s.ticket.createdAt +
    (minutes (policyMinutes s.applied s.ticket.country s.ticket.priority).2 +
      seconds s.ticket.resolutionPausedSeconds))
  atMost : seconds s.ticket.resolutionPausedSeconds ≤ s.waits.done.sum
  atLeast : s.waits.done.sum ≤
    seconds (s.ticket.resolutionPausedSeconds + s.waits.done.length)

/-- No category is set that makes a waiting ticket a safety ticket or makes it one no longer, and a
close by the user that meets a wait saves what it finds. -/
def Careful (s : State) : Event → Prop
  | .adminSetCategory wanted _ => s.ticket.status = .waitingUser →
      (adminSetCategory s.ticket wanted).isSafety = s.ticket.isSafety
  | .closeWrites call _ => ∀ read ∈ s.reads call,
      read.status = .waitingUser ∨ s.ticket.status = .waitingUser →
        read.status = s.ticket.status ∧ read.waitingSince = s.ticket.waitingSince ∧
          read.resolutionPausedSeconds = s.ticket.resolutionPausedSeconds ∧
          read.resolutionDueAt = s.ticket.resolutionDueAt
  | _ => True

section History

variable {s : State} {t u after : Ticket} {new : Status} {now since : ℤ}

lemma SameClock.refl (t : Ticket) : SameClock t t := ⟨rfl, rfl, rfl, rfl, rfl, rfl, rfl, rfl, rfl⟩

lemma SameClock.isSafety (h : SameClock t u) : t.isSafety = u.isSafety := by
  rw [Ticket.isSafety, Ticket.isSafety, h.issueType, h.safetyFlag]

lemma SameClock.counting (h : SameClock t u) : t.counting = u.counting := by
  rw [Ticket.counting, Ticket.counting, h.status, h.isSafety]

lemma seconds_waited (since now : ℤ) : seconds (waited since now) ≤ max 0 (now - since) ∧
    max 0 (now - since) ≤ seconds (waited since now + 1) := by
  simp only [seconds, waited]
  rcases Int.le_total 0 (now - since) with hle | hle
  · rw [Int.tdiv_eq_ediv_of_nonneg hle]
    omega
  · have hneg : 0 ≤ (since - now).tdiv 1000000 := Int.tdiv_nonneg (by omega) (by decide)
    have hflip : (now - since).tdiv 1000000 = -(since - now).tdiv 1000000 := by
      rw [← Int.neg_tdiv, Int.neg_sub]
    omega

lemma counting_of_not_waiting (h : t.status ≠ .waitingUser) : t.counting = false := by
  simp [Ticket.counting, h]

lemma observe_of_same (w : Waits) (hstatus : after.status = t.status)
    (hcounting : after.counting = t.counting) : w.observe t after now = w := by
  rw [Waits.observe, hstatus, hcounting]
  by_cases h : t.status = .waitingUser
  · simp [h]
  · simp [h]

lemma observe_congr (w : Waits) (h : SameClock after u) :
    w.observe t after now = w.observe t u now := by
  rw [Waits.observe, Waits.observe, h.status, h.counting]

lemma Sound.congr (h : Sound (s.save u now)) (hsame : SameClock after u) :
    Sound (s.save after now) := by
  have hobserve : s.waits.observe s.ticket after now = s.waits.observe s.ticket u now :=
    observe_congr s.waits hsame
  constructor
  · show after.waitingSince.isSome = after.counting
    rw [hsame.waitingSince, hsame.counting]
    exact h.waiting
  · show (s.waits.observe s.ticket after now).since = after.waitingSince
    rw [hobserve, hsame.waitingSince]
    exact h.since
  · show (s.waits.observe s.ticket after now).spent = 0
    rw [hobserve]
    exact h.spent
  · show after.resolutionDueAt = some (after.createdAt + (minutes (policyMinutes s.applied
      after.country after.priority).2 + seconds after.resolutionPausedSeconds))
    rw [hsame.due, hsame.createdAt, hsame.country, hsame.priority, hsame.paused]
    exact h.due
  · show seconds after.resolutionPausedSeconds ≤ (s.waits.observe s.ticket after now).done.sum
    rw [hobserve, hsame.paused]
    exact h.atMost
  · show (s.waits.observe s.ticket after now).done.sum ≤ seconds (after.resolutionPausedSeconds +
      (s.waits.observe s.ticket after now).done.length)
    rw [hobserve, hsame.paused]
    exact h.atLeast

lemma enterStatus_self (t : Ticket) : enterStatus t t.status now = t := by
  cases t with
  | mk createdAt status =>
    cases status with
    | _ => rfl

lemma enterStatus_of_not_folds (h : folds t new = false) :
    enterStatus t new now =
      { t with
        waitingSince :=
          if new = .waitingUser ∧ t.status ≠ .waitingUser ∧ t.isSafety = false then some now
          else t.waitingSince
        status := new } := by
  rw [enterStatus, h]
  rfl

lemma enterStatus_of_wait (hstatus : t.status = .waitingUser) (hnew : new ≠ .waitingUser)
    (hsince : t.waitingSince = some since) :
    enterStatus t new now =
      { t with
        resolutionPausedSeconds := t.resolutionPausedSeconds + waited since now
        resolutionDueAt := t.resolutionDueAt.map fun due => due + seconds (waited since now)
        waitingSince := none
        status := new } := by
  have hfolds : folds t new = true := by simp [folds, hstatus, hnew, hsince]
  rw [enterStatus, hfolds, fold, hsince]
  simp [hnew]

/-- Nothing changes. -/
lemma sound_save_self (h : Sound s) : Sound (s.save s.ticket now) := by
  have hobserve : s.waits.observe s.ticket s.ticket now = s.waits := observe_of_same s.waits rfl rfl
  rw [State.save, hobserve]
  exact h

lemma sound_leave (h : Sound s) (hleft : s.ticket.status = .waitingUser)
    (hnew : new ≠ .waitingUser) : Sound (s.save (enterStatus s.ticket new now) now) := by
  have hobserve : ∀ after : Ticket, after.status = new → s.waits.observe s.ticket after now =
      ⟨s.waits.done ++ [elapsed s.ticket.waitingSince now], 0, none⟩ := by
    intro after hafter
    rw [Waits.observe, if_pos hleft, hafter, if_neg hnew, h.spent, h.since, Int.zero_add]
  have hcounting : ∀ after : Ticket, after.status = new → after.counting = false :=
    fun after hafter => counting_of_not_waiting (hafter ▸ hnew)
  cases hwait : s.ticket.waitingSince with
  | none =>
    -- a safety ticket: nothing was measured
    rw [enterStatus_of_not_folds (by simp [folds, hwait])]
    simp only [hnew, false_and, if_false]
    rw [State.save, hobserve _ rfl]
    constructor
    · rw [hcounting _ rfl]
      simp [hwait]
    · exact hwait.symm
    · rfl
    · exact h.due
    · have hold := h.atMost
      simpa [elapsed, hwait] using hold
    · have hold := h.atLeast
      simp only [seconds, elapsed, hwait, List.sum_append, List.length_append, Option.map_none,
        Option.getD_none, List.sum_singleton, List.length_singleton] at hold ⊢
      omega
  | some since =>
    have hwaited := seconds_waited since now
    rw [enterStatus_of_wait hleft hnew hwait, State.save, hobserve _ rfl]
    constructor
    · rw [hcounting _ rfl]
      rfl
    · rfl
    · rfl
    · show s.ticket.resolutionDueAt.map _ = _
      rw [h.due, Option.map_some]
      refine congrArg some ?_
      simp only [seconds]
      omega
    · have hold := h.atMost
      simp only [seconds, elapsed, hwait, List.sum_append, Option.map_some, Option.getD_some,
        List.sum_singleton] at hold hwaited ⊢
      omega
    · have hold := h.atLeast
      simp only [seconds, elapsed, hwait, List.sum_append, List.length_append, Option.map_some,
        Option.getD_some, List.sum_singleton, List.length_singleton] at hold hwaited ⊢
      omega

/-- A change between statuses of which the first is no wait. -/
lemma sound_enter (h : Sound s) (hleft : s.ticket.status ≠ .waitingUser) :
    Sound (s.save (enterStatus s.ticket new now) now) := by
  have hnone : s.ticket.waitingSince = none := by
    have hwaiting := h.waiting
    rw [counting_of_not_waiting hleft] at hwaiting
    simpa using hwaiting
  rw [enterStatus_of_not_folds (by simp [folds, hleft])]
  set after : Ticket :=
    { s.ticket with
      waitingSince :=
        if new = .waitingUser ∧ s.ticket.status ≠ .waitingUser ∧ s.ticket.isSafety = false then
          some now
        else s.ticket.waitingSince
      status := new } with hafter
  have hcounting : after.counting = (decide (new = .waitingUser) && !s.ticket.isSafety) := rfl
  have hsince : after.waitingSince = if after.counting then some now else none := by
    rw [hcounting, hafter]
    dsimp only
    rw [hnone]
    by_cases hnew : new = .waitingUser
    · cases s.ticket.isSafety with
      | true => simp [hnew]
      | false => simp [hnew, hleft]
    · simp [hnew]
  have hobserve : s.waits.observe s.ticket after now =
      ⟨s.waits.done, 0, after.waitingSince⟩ := by
    rw [Waits.observe, if_neg hleft, hsince]
    split
    · rfl
    · rename_i hnew
      rw [counting_of_not_waiting hnew]
      have hwaits : s.waits = ⟨s.waits.done, s.waits.spent, s.waits.since⟩ := rfl
      rw [hwaits, h.spent, h.since.trans hnone]
      rfl
  rw [State.save, hobserve]
  refine ⟨?_, rfl, rfl, h.due, h.atMost, h.atLeast⟩
  show after.waitingSince.isSome = after.counting
  rw [hsince]
  cases after.counting with
  | true => rfl
  | false => rfl

/-- A change of status keeps the clocks right. -/
lemma sound_save (h : Sound s) (hafter : SameClock after (enterStatus s.ticket new now)) :
    Sound (s.save after now) := by
  refine Sound.congr ?_ hafter
  by_cases hleft : s.ticket.status = .waitingUser
  · by_cases hnew : new = .waitingUser
    · have hself : enterStatus s.ticket new now = s.ticket := by
        rw [hnew, ← hleft]
        exact enterStatus_self s.ticket
      rw [hself]
      exact sound_save_self h
    · exact sound_leave h hleft hnew
  · exact sound_enter h hleft

/-! ### The calls -/

lemma sameClock_setStatus : SameClock (setStatus t new now) (enterStatus t new now) := by
  rw [setStatus]
  split
  · exact ⟨rfl, rfl, rfl, rfl, rfl, rfl, rfl, rfl, rfl⟩
  · exact ⟨rfl, rfl, rfl, rfl, rfl, rfl, rfl, rfl, rfl⟩

/-- What `enter_status` does to the clocks depends on nothing else of the ticket. -/
lemma SameClock.enterStatus (h : SameClock t u) :
    SameClock (enterStatus t new now) (enterStatus u new now) := by
  have hfolds : folds t new = folds u new := by
    rw [folds, folds, h.status, h.waitingSince]
  have hfold : SameClock (fold t now) (fold u now) := by
    rw [fold, fold, h.waitingSince]
    cases u.waitingSince with
    | none => exact h
    | some since =>
      exact ⟨h.createdAt, h.status, h.issueType, h.safetyFlag, h.priority, h.country, rfl,
        by rw [h.paused], by rw [h.due]⟩
  rw [Support.enterStatus, Support.enterStatus, hfolds]
  have hleft : SameClock (if folds u new then fold t now else t)
      (if folds u new then fold u now else u) := by
    split
    · exact hfold
    · exact h
  refine ⟨hleft.createdAt, rfl, hleft.issueType, hleft.safetyFlag, hleft.priority, hleft.country,
    ?_, hleft.paused, hleft.due⟩
  dsimp only
  rw [h.status, h.isSafety, hleft.waitingSince]

lemma SameClock.trans {v : Ticket} (h : SameClock t u) (h' : SameClock u v) : SameClock t v where
  createdAt := h.createdAt.trans h'.createdAt
  status := h.status.trans h'.status
  issueType := h.issueType.trans h'.issueType
  safetyFlag := h.safetyFlag.trans h'.safetyFlag
  priority := h.priority.trans h'.priority
  country := h.country.trans h'.country
  waitingSince := h.waitingSince.trans h'.waitingSince
  paused := h.paused.trans h'.paused
  due := h.due.trans h'.due

lemma sameClock_clearReturned : SameClock (clearReturned t) t := by
  rw [clearReturned]
  split
  · exact ⟨rfl, rfl, rfl, rfl, rfl, rfl, rfl, rfl, rfl⟩
  · exact .refl t

/-- A reply moves the ticket to a status, or leaves it in its own. -/
lemma sameClock_adminReply (now : ℤ) (next : Option Status) :
    ∃ new, SameClock (adminReply t next now) (enterStatus t new now) := by
  have hstamped : SameClock { t with firstRespondedAt := some (t.firstRespondedAt.getD now) } t :=
    ⟨rfl, rfl, rfl, rfl, rfl, rfl, rfl, rfl, rfl⟩
  rw [adminReply.eq_def]
  cases next with
  | some new =>
    exact ⟨new, sameClock_clearReturned.trans (sameClock_setStatus.trans hstamped.enterStatus)⟩
  | none =>
    dsimp only
    split
    · exact ⟨.inProgress,
        sameClock_clearReturned.trans (sameClock_setStatus.trans hstamped.enterStatus)⟩
    · refine ⟨t.status, sameClock_clearReturned.trans ?_⟩
      rw [enterStatus_self]
      exact hstamped

lemma sameClock_closeMyTicket {read : Ticket}
    (h : read.status = .waitingUser ∨ t.status = .waitingUser →
      read.status = t.status ∧ read.waitingSince = t.waitingSince ∧
        read.resolutionPausedSeconds = t.resolutionPausedSeconds ∧
        read.resolutionDueAt = t.resolutionDueAt) :
    SameClock (closeMyTicket read t now) (enterStatus t .closed now) := by
  by_cases hwaits : read.status = .waitingUser ∨ t.status = .waitingUser
  · obtain ⟨hstatus, hsince, hpaused, hdue⟩ := h hwaits
    have hfolds : folds read .closed = folds t .closed := by
      rw [folds, folds, hstatus, hsince]
    cases hfold : folds t .closed with
    | false =>
      rw [closeMyTicket, hfolds, hfold, enterStatus_of_not_folds hfold]
      exact ⟨rfl, rfl, rfl, rfl, rfl, rfl, by simp, rfl, rfl⟩
    | true =>
      have hread : (enterStatus read .closed now).resolutionPausedSeconds =
            (enterStatus t .closed now).resolutionPausedSeconds ∧
          (enterStatus read .closed now).resolutionDueAt =
            (enterStatus t .closed now).resolutionDueAt ∧
          (enterStatus read .closed now).waitingSince =
            (enterStatus t .closed now).waitingSince := by
        rw [Support.enterStatus, Support.enterStatus, hfolds, hfold, fold, fold, hsince]
        cases t.waitingSince with
        | none => exact ⟨hpaused, hdue, by simp [hsince]⟩
        | some since => exact ⟨by simp [hpaused], by simp [hdue], by simp⟩
      have hrest : (enterStatus t .closed now).createdAt = t.createdAt ∧
          (enterStatus t .closed now).issueType = t.issueType ∧
          (enterStatus t .closed now).safetyFlag = t.safetyFlag ∧
          (enterStatus t .closed now).priority = t.priority ∧
          (enterStatus t .closed now).country = t.country := by
        rw [Support.enterStatus, hfold, fold]
        cases t.waitingSince with
        | none => exact ⟨rfl, rfl, rfl, rfl, rfl⟩
        | some since => exact ⟨rfl, rfl, rfl, rfl, rfl⟩
      obtain ⟨hcreated, hissue, hflag, hpriority, hcountry⟩ := hrest
      rw [closeMyTicket, hfolds, hfold]
      exact ⟨hcreated.symm, rfl, hissue.symm, hflag.symm, hpriority.symm, hcountry.symm, hread.2.2,
        hread.1, hread.2.1⟩
  · have hread : read.status ≠ .waitingUser := fun heq => hwaits (.inl heq)
    have hrow : t.status ≠ .waitingUser := fun heq => hwaits (.inr heq)
    have hnot : folds read .closed = false := by simp [folds, hread]
    have hnot' : folds t .closed = false := by simp [folds, hrow]
    rw [closeMyTicket, hnot, enterStatus_of_not_folds hnot']
    exact ⟨rfl, rfl, rfl, rfl, rfl, rfl, by simp, rfl, rfl⟩

lemma sound_step (s : State) (e : Event) (hcareful : Careful s e) (h : Sound s) :
    Sound (step s e) := by
  cases e with
  | policy policy => exact ⟨h.waiting, h.since, h.spent, h.due, h.atMost, h.atLeast⟩
  | adminReply next now =>
    obtain ⟨new, hsame⟩ := sameClock_adminReply (t := s.ticket) now next
    exact sound_save h hsame
  | adminSetStatus wanted now =>
    rw [step, adminSetStatus]
    split
    · exact sound_save_self h
    · exact sound_save h sameClock_setStatus
  | adminSetPriority wanted now =>
    rw [step, adminSetPriority]
    split
    · exact sound_save_self h
    · -- a priority moves the due times and leaves the clocks as they were
      have hobserve : s.waits.observe s.ticket
          (applyDueTimes s.policy { s.ticket with priority := wanted }) now = s.waits :=
        observe_of_same s.waits rfl rfl
      constructor
      · exact h.waiting
      · show (s.waits.observe s.ticket _ now).since = s.ticket.waitingSince
        rw [hobserve]
        exact h.since
      · show (s.waits.observe s.ticket _ now).spent = 0
        rw [hobserve]
        exact h.spent
      · rfl
      · show _ ≤ (s.waits.observe s.ticket _ now).done.sum
        rw [hobserve]
        exact h.atMost
      · show (s.waits.observe s.ticket _ now).done.sum ≤
          seconds (_ + (s.waits.observe s.ticket _ now).done.length)
        rw [hobserve]
        exact h.atLeast
  | adminSetCategory wanted now =>
    -- no safety category is set or taken away while the user is waited on
    have hcounting : (adminSetCategory s.ticket wanted).counting = s.ticket.counting := by
      by_cases hwaits : s.ticket.status = .waitingUser
      · rw [Ticket.counting, Ticket.counting, hcareful hwaits]
        rfl
      · rw [counting_of_not_waiting hwaits]
        exact counting_of_not_waiting hwaits
    have hobserve : s.waits.observe s.ticket (adminSetCategory s.ticket wanted) now = s.waits :=
      observe_of_same s.waits rfl hcounting
    rw [step, State.save, hobserve]
    refine ⟨?_, h.since, h.spent, h.due, h.atMost, h.atLeast⟩
    rw [hcounting]
    exact h.waiting
  | addUserMessage now =>
    rw [step, addUserMessage]
    split
    · exact sound_save h (.refl _)
    · exact sound_save_self h
  | autoclose now =>
    rw [step, autoclose]
    split
    · exact sound_save_self h
    · refine sound_save h (?_ : SameClock _ (enterStatus s.ticket .closed now))
      exact ⟨rfl, rfl, rfl, rfl, rfl, rfl, rfl, rfl, rfl⟩
  | returnRefundToAgent why now =>
    have hreturned : SameClock
        { s.ticket with
          returnedReason := String.ofList (why.toList.take 2000)
          returnedAt := some now } s.ticket := ⟨rfl, rfl, rfl, rfl, rfl, rfl, rfl, rfl, rfl⟩
    refine sound_save h (SameClock.trans ?_ hreturned.enterStatus :
      SameClock _ (enterStatus s.ticket .inProgress now))
    exact ⟨rfl, rfl, rfl, rfl, rfl, rfl, rfl, rfl, rfl⟩
  | closeReads call => exact ⟨h.waiting, h.since, h.spent, h.due, h.atMost, h.atLeast⟩
  | closeWrites call now =>
    rw [step]
    cases hread : s.reads call with
    | none => exact h
    | some read =>
      dsimp only
      split
      · exact h
      · exact sound_save h (sameClock_closeMyTicket (hcareful read hread))

lemma sound_start (policy : Policy) (issueType country : String) :
    Sound (start policy issueType country now) := by
  refine ⟨rfl, rfl, rfl, rfl, ?_, ?_⟩
  · simp [start, create, applyDueTimes, seconds]
  · simp [start, create, applyDueTimes, seconds]

end History

/-! ## The queue -/

/-- The deadlines of an open ticket that run: of the first reply until it is given, and of the
resolution unless a wait is measured. -/
def running (t : Ticket) : List ℤ :=
  (if t.firstRespondedAt.isNone then t.firstResponseDueAt.toList else []) ++
    if t.waitingSince.isNone then t.resolutionDueAt.toList else []

section Queue

variable {t : Ticket} {now : ℤ}

lemma exists_mem_running_iff {p : ℤ → Bool} :
    (∃ d ∈ running t, p d = true) ↔
      (t.firstRespondedAt.isNone && dueBy t.firstResponseDueAt p) = true ∨
        (dueBy t.resolutionDueAt p && t.waitingSince.isNone) = true := by
  have hdue : ∀ due : Option ℤ, (∃ d ∈ due.toList, p d = true) ↔ dueBy due p = true := by
    intro due
    cases due with
    | none => simp [dueBy]
    | some d => simp [dueBy]
  have happend : ∀ l l' : List ℤ, (∃ d ∈ l ++ l', p d = true) ↔
      (∃ d ∈ l, p d = true) ∨ ∃ d ∈ l', p d = true := by
    intro l l'
    simp only [List.mem_append, or_and_right, exists_or]
  rw [running, happend, Bool.and_eq_true, Bool.and_eq_true]
  refine or_congr ?_ ?_
  · split
    · rename_i h
      simp only [h, true_and]
      exact hdue _
    · rename_i h
      simp [h]
  · split
    · rename_i h
      simp only [h, and_true]
      exact hdue _
    · rename_i h
      simp [h]

lemma breachedQ_iff :
    breachedQ now t = true ↔ t.status ≠ .closed ∧ ∃ d ∈ running t, d < now := by
  have hrunning := exists_mem_running_iff (t := t) (p := fun d => decide (d < now))
  simp only [decide_eq_true_eq] at hrunning
  rw [breachedQ, Bool.and_eq_true, Bool.or_eq_true, decide_eq_true_eq, hrunning]

lemma dueSoonQ_iff :
    dueSoonQ now t = true ↔ t.status ≠ .closed ∧ (∀ d ∈ running t, now ≤ d) ∧
      ∃ d ∈ running t, d ≤ now + minutes dueSoonMinutes := by
  have hrunning :=
    exists_mem_running_iff (t := t) (p := fun d => decide (d ≤ now + minutes dueSoonMinutes))
  simp only [decide_eq_true_eq] at hrunning
  have hlate : breachedQ now t = false ↔
      (t.status ≠ .closed → ∀ d ∈ running t, now ≤ d) := by
    rw [← Bool.not_eq_true, breachedQ_iff]
    constructor
    · intro h hopen d hd
      by_contra hlt
      exact h ⟨hopen, d, hd, by omega⟩
    · rintro h ⟨hopen, d, hd, hlt⟩
      have hle := h hopen d hd
      omega
  rw [dueSoonQ, Bool.and_eq_true, Bool.and_eq_true, Bool.or_eq_true, decide_eq_true_eq, ← hrunning,
    Bool.not_eq_true', hlate]
  constructor
  · rintro ⟨⟨hopen, hon⟩, hsoon⟩
    exact ⟨hopen, hon hopen, hsoon⟩
  · rintro ⟨hopen, hon, hsoon⟩
    exact ⟨⟨hopen, fun _ => hon⟩, hsoon⟩

lemma isPaused_of_waiting (hwait : t.waitingSince.isSome = t.counting) :
    isPaused t = t.waitingSince.isSome := by
  rw [isPaused]
  cases hsome : t.waitingSince.isSome with
  | false => simp
  | true =>
    rw [hsome, Ticket.counting] at hwait
    rw [Bool.and_true]
    exact hwait.symm

lemma openClocks_spec (now : ℤ) (hopen : t.status ≠ .closed)
    (hwait : t.waitingSince.isSome = t.counting) :
    (openClocks t now).map (fun c => c.2.1) = running t ∧
      ∀ c ∈ openClocks t now, c.2.2.breached = decide (c.2.1 < now) ∧
        c.2.2.minutesRemaining = some (minutesBetween c.2.1 now) := by
  have hpaused := isPaused_of_waiting hwait
  rw [openClocks, resolutionClock, running, hpaused, if_neg hopen]
  cases hfirst : t.firstResponseDueAt with
  | none =>
    cases hresolution : t.resolutionDueAt with
    | none => cases t.waitingSince <;> simp [clock]
    | some due => cases t.waitingSince <;> simp [clock]
  | some first =>
    cases hresponded : t.firstRespondedAt with
    | none =>
      cases hresolution : t.resolutionDueAt with
      | none => cases t.waitingSince <;> simp [clock]
      | some due => cases t.waitingSince <;> simp [clock]
    | some responded =>
      cases hresolution : t.resolutionDueAt with
      | none => cases t.waitingSince <;> simp [clock]
      | some due => cases t.waitingSince <;> simp [clock]

lemma earliest_eq_none {l : List (String × ℤ × Clock)} (h : earliest l = none) : l = [] := by
  cases l with
  | nil => rfl
  | cons x xs =>
    rw [earliest] at h
    split at h
    · cases h
    · split at h
      · cases h
      · cases h

lemma earliest_eq_some {l : List (String × ℤ × Clock)} {x : String × ℤ × Clock}
    (h : earliest l = some x) : x ∈ l ∧ ∀ y ∈ l, x.2.1 ≤ y.2.1 := by
  induction l generalizing x with
  | nil => cases h
  | cons z zs ih =>
    rw [earliest] at h
    cases hrest : earliest zs with
    | none =>
      rw [hrest] at h
      cases h
      rw [earliest_eq_none hrest]
      exact ⟨List.mem_singleton.mpr rfl, fun y hy => by rw [List.mem_singleton.mp hy]⟩
    | some y =>
      rw [hrest] at h
      obtain ⟨hmem, hleast⟩ := ih hrest
      dsimp only at h
      split at h
      · rename_i hlt
        cases h
        refine ⟨List.mem_cons_of_mem z hmem, fun w hw => ?_⟩
        rcases List.mem_cons.mp hw with rfl | hw
        · omega
        · exact hleast w hw
      · rename_i hlt
        cases h
        refine ⟨List.mem_cons_self, fun w hw => ?_⟩
        rcases List.mem_cons.mp hw with rfl | hw
        · exact le_rfl
        · have hle := hleast w hw
          omega

/-- The word of an open ticket: late, or soon to be, or neither. -/
lemma state_slaState (hopen : t.status ≠ .closed)
    (hwait : t.waitingSince.isSome = t.counting) :
    ((slaState t now).state = .breached ↔ ∃ d ∈ running t, d < now) ∧
      ((slaState t now).state = .dueSoon ↔ (∀ d ∈ running t, now ≤ d) ∧
        ∃ d ∈ running t, minutesBetween d now ≤ dueSoonMinutes) := by
  obtain ⟨hdues, hclocks⟩ := openClocks_spec now hopen hwait
  have hlate : (openClocks t now).any (fun c => c.2.2.breached) = true ↔
      ∃ d ∈ running t, d < now := by
    rw [List.any_eq_true, ← hdues]
    constructor
    · rintro ⟨c, hc, hbreached⟩
      rw [(hclocks c hc).1] at hbreached
      exact ⟨c.2.1, List.mem_map_of_mem hc, of_decide_eq_true hbreached⟩
    · rintro ⟨d, hd, hlt⟩
      obtain ⟨c, hc, rfl⟩ := List.mem_map.mp hd
      refine ⟨c, hc, ?_⟩
      rw [(hclocks c hc).1]
      exact decide_eq_true hlt
  have honTime : (openClocks t now).any (fun c => c.2.2.breached) = false ↔
      ∀ d ∈ running t, now ≤ d := by
    rw [← Bool.not_eq_true, hlate]
    constructor
    · intro h d hd
      by_contra hlt
      exact h ⟨d, hd, by omega⟩
    · rintro h ⟨d, hd, hlt⟩
      have hle := h d hd
      omega
  rw [slaState]
  simp only [hopen, if_false]
  -- no clock runs, or one of them is the first to fall due
  cases hearliest : earliest (openClocks t now) with
  | none =>
    have hnil : running t = [] := by
      rw [← hdues, earliest_eq_none hearliest]
      rfl
    have hany : (openClocks t now).any (fun c => c.2.2.breached) = false := by
      rw [honTime, hnil]
      exact fun d hd => by cases hd
    rw [hnil]
    simp only [hany, Bool.false_eq_true, if_false]
    by_cases hpaused : isPaused t = true
    · simp [hpaused]
    · simp [hpaused]
  | some x =>
    obtain ⟨name, due, c⟩ := x
    obtain ⟨hmem, hleast⟩ := earliest_eq_some hearliest
    have hdue : due ∈ running t := by
      rw [← hdues]
      exact List.mem_map_of_mem (f := fun c : String × ℤ × Clock => c.2.1) hmem
    have hremaining : c.minutesRemaining = some (minutesBetween due now) := (hclocks _ hmem).2
    -- the clock due first has the fewest minutes left
    have hsoon : (∃ d ∈ running t, minutesBetween d now ≤ dueSoonMinutes) ↔
        minutesBetween due now ≤ dueSoonMinutes := by
      constructor
      · rintro ⟨d, hd, hle⟩
        rw [← hdues] at hd
        obtain ⟨y, hy, rfl⟩ := List.mem_map.mp hd
        have hfirst := hleast y hy
        simp only [minutesBetween] at hle hfirst ⊢
        omega
      · exact fun h => ⟨due, hdue, h⟩
    rw [← hlate, ← honTime, hsoon]
    simp only [hremaining, Option.any_some, decide_eq_true_eq]
    cases (openClocks t now).any (fun c => c.2.2.breached) with
    | true => simp
    | false =>
      by_cases hle : minutesBetween due now ≤ dueSoonMinutes
      · simp [hle]
      · by_cases hpaused : isPaused t = true
        · simp [hle, hpaused]
        · simp [hle, hpaused]

lemma minutesBetween_le_iff {d : ℤ} :
    minutesBetween d now ≤ dueSoonMinutes ↔ d < now + minutes (dueSoonMinutes + 1) := by
  simp only [minutesBetween, minutes, dueSoonMinutes]
  omega

lemma state_of_closed (h : t.status = .closed) : (slaState t now).state = .closed := by
  simp [slaState, h]

/-- The filter of the late tickets agrees with the state. -/
lemma breachedQ_iff_state (hwait : t.waitingSince.isSome = t.counting) :
    breachedQ now t = true ↔ (slaState t now).state = .breached := by
  rw [breachedQ_iff]
  by_cases hclosed : t.status = .closed
  · simp [hclosed, state_of_closed hclosed]
  · rw [(state_slaState hclosed hwait).1]
    simp [hclosed]

/-- The filter of the tickets that are due soon agrees with the state, unless the next deadline is
between sixty and sixty-one minutes away. -/
lemma dueSoonQ_iff_state (hwait : t.waitingSince.isSome = t.counting) :
    (dueSoonQ now t = true ↔ (slaState t now).state = .dueSoon) ↔
      (t.status ≠ .closed → (∀ d ∈ running t, now ≤ d) →
        (∃ d ∈ running t, d < now + minutes (dueSoonMinutes + 1)) →
          ∃ d ∈ running t, d ≤ now + minutes dueSoonMinutes) := by
  rw [dueSoonQ_iff]
  by_cases hclosed : t.status = .closed
  · simp [hclosed, state_of_closed hclosed]
  · rw [(state_slaState hclosed hwait).2]
    simp only [minutesBetween_le_iff]
    have hcut : (∃ d ∈ running t, d ≤ now + minutes dueSoonMinutes) →
        ∃ d ∈ running t, d < now + minutes (dueSoonMinutes + 1) := by
      rintro ⟨d, hd, hle⟩
      refine ⟨d, hd, ?_⟩
      simp only [minutes, dueSoonMinutes] at hle ⊢
      omega
    constructor
    · intro h hopen hon hsoon
      exact (h.mpr ⟨hon, hsoon⟩).2.2
    · intro h
      constructor
      · rintro ⟨-, hon, hsoon⟩
        exact ⟨hon, hcut hsoon⟩
      · rintro ⟨hon, hsoon⟩
        exact ⟨hclosed, hon, h hclosed hon hsoon⟩

end Queue

/-! ## Histories and the queue -/

/-- In a history in which no category makes a waiting ticket a safety ticket or takes it out of
safety, and the user's close finds what it read when there is a wait, the pause is the time waited,
within a second for each wait, the resolution is due as the priority says and the pause adds, a
wait is measured while the ticket waits and is no safety ticket, and at every instant the filter of
the late tickets agrees with the state; that of the tickets due soon does so just when the next
deadline is not between sixty and sixty-one minutes away. -/
theorem clocks_kept (policy : Policy) (issueType country : String) (created : ℤ)
    (events : List Event)
    (hcareful : Transition.Guarded step Careful (start policy issueType country created) events) :
    let s := run (start policy issueType country created) events
    seconds s.ticket.resolutionPausedSeconds ≤ s.waits.done.sum ∧
      s.waits.done.sum ≤ seconds (s.ticket.resolutionPausedSeconds + s.waits.done.length) ∧
      s.ticket.resolutionDueAt = some (s.ticket.createdAt +
        (minutes (policyMinutes s.applied s.ticket.country s.ticket.priority).2 +
          seconds s.ticket.resolutionPausedSeconds)) ∧
      s.ticket.waitingSince.isSome = s.ticket.counting ∧
      ∀ now, (breachedQ now s.ticket = true ↔ (slaState s.ticket now).state = .breached) ∧
        ((dueSoonQ now s.ticket = true ↔ (slaState s.ticket now).state = .dueSoon) ↔
          (s.ticket.status ≠ .closed → (∀ d ∈ running s.ticket, now ≤ d) →
            (∃ d ∈ running s.ticket, d < now + minutes (dueSoonMinutes + 1)) →
              ∃ d ∈ running s.ticket, d ≤ now + minutes dueSoonMinutes)) := by
  have hsound : Sound (run (start policy issueType country created) events) :=
    Transition.invariant_of_guarded sound_step (sound_start policy issueType country) hcareful
  refine ⟨hsound.atMost, hsound.atLeast, hsound.due, hsound.waiting, fun now => ⟨?_, ?_⟩⟩
  · exact breachedQ_iff_state hsound.waiting
  · exact dueSoonQ_iff_state hsound.waiting

def noPolicy : Policy := fun _ _ => none

/-- A ticket that waits on its user for ten minutes and a half. -/
theorem clocks_kept_of_wait :
    let s := run (start noPolicy "other" "IN" 0)
      [.adminSetStatus .waitingUser (seconds 60), .addUserMessage (seconds 690)]
    seconds s.ticket.resolutionPausedSeconds ≤ s.waits.done.sum ∧
      s.ticket.resolutionPausedSeconds = 630 ∧
        s.ticket.waitingSince.isSome = s.ticket.counting := by
  have hkept := clocks_kept noPolicy "other" "IN" 0
    [.adminSetStatus .waitingUser (seconds 60), .addUserMessage (seconds 690)]
    ⟨trivial, trivial, trivial⟩
  exact ⟨hkept.1, by decide, hkept.2.2.2.1⟩

def caughtWaiting : State :=
  run (start noPolicy "other" "IN" 0)
    [.adminSetStatus .waitingUser (seconds 60), .adminSetCategory "safety" (seconds 120)]

/-- A new ticket, whose first reply is due after four hours. -/
def newTicket : Ticket := create noPolicy "other" "IN" 0

/-- A ticket that becomes a safety ticket while it waits keeps its pause; a ticket whose next
deadline is sixty minutes and a half away is shown as due soon, and the filter leaves it out. -/
theorem pause_of_safety_ticket :
    (caughtWaiting.ticket.isSafety = true ∧
        caughtWaiting.ticket.waitingSince = some (seconds 60)) ∧
      (slaState newTicket (seconds 10770)).state = .dueSoon ∧
        dueSoonQ (seconds 10770) newTicket = false := by
  decide

end SaaradhiGo.Support
