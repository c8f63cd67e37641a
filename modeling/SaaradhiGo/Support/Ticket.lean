/-
Support tickets and their clocks.

A ticket has two deadlines, for the first reply and for its resolution.  The second moves out by
the time the ticket waits on its user, which `enter_status` measures for every change of status.
Operators' writes lock the ticket; the user's close writes what it made of an earlier read.
-/
import SaaradhiGo.Lib.Transition
import Mathlib.Algebra.Order.Ring.Int
import Mathlib.Algebra.BigOperators.Group.List.Basic

namespace SaaradhiGo.Support

/-! ## Tickets -/

/-- `STATUS_CHOICES`. -/
inductive Status where
  | opened | inProgress | waitingUser | closed
deriving DecidableEq

/-- `PRIORITY_CHOICES`. -/
inductive Priority where
  | urgent | high | normal | low
deriving DecidableEq

/-- `SupportTicket`, with what its clocks depend on.  A time is in microseconds. -/
structure Ticket where
  createdAt : ℤ
  status : Status
  issueType : String
  safetyFlag : Bool
  priority : Priority
  country : String
  firstResponseDueAt : Option ℤ
  resolutionDueAt : Option ℤ
  firstRespondedAt : Option ℤ
  resolvedAt : Option ℤ
  waitingSince : Option ℤ
  resolutionPausedSeconds : ℤ
  returnedAt : Option ℤ
  returnedReason : String
deriving DecidableEq

def Ticket.isSafety (t : Ticket) : Bool := t.safetyFlag || t.issueType == "safety"

/-- `timedelta(seconds=n)`. -/
def seconds (n : ℤ) : ℤ := n * 1000000

/-- `timedelta(minutes=n)`. -/
def minutes (n : ℤ) : ℤ := n * 60000000

/-- The rows of `SupportSlaPolicy`. -/
abbrev Policy : Type := String → Priority → Option (ℕ × ℕ)

def defaultMinutes : Priority → ℕ × ℕ
  | .urgent => (15, 240)
  | .high => (60, 1440)
  | .normal => (240, 2880)
  | .low => (1440, 4320)

def policyMinutes (policy : Policy) (country : String) (priority : Priority) : ℕ × ℕ :=
  (policy country priority).getD (defaultMinutes priority)

def applyDueTimes (policy : Policy) (t : Ticket) : Ticket :=
  { t with
    firstResponseDueAt :=
      some (t.createdAt + minutes (policyMinutes policy t.country t.priority).1)
    resolutionDueAt :=
      some (t.createdAt + (minutes (policyMinutes policy t.country t.priority).2 +
        seconds t.resolutionPausedSeconds)) }

/-- `save` of a new ticket. -/
def create (policy : Policy) (issueType country : String) (now : ℤ) : Ticket :=
  applyDueTimes policy
    { createdAt := now
      status := .opened
      issueType := issueType
      safetyFlag := issueType == "safety"
      priority := if issueType = "safety" then .urgent else .normal
      country := country
      firstResponseDueAt := none
      resolutionDueAt := none
      firstRespondedAt := none
      resolvedAt := none
      waitingSince := none
      resolutionPausedSeconds := 0
      returnedAt := none
      returnedReason := "" }

/-- The whole seconds of a wait. -/
def waited (since now : ℤ) : ℤ := max 0 ((now - since).tdiv 1000000)

def folds (t : Ticket) (new : Status) : Bool :=
  t.status = .waitingUser && new ≠ .waitingUser && t.waitingSince.isSome

/-- The end of a wait. -/
def fold (t : Ticket) (now : ℤ) : Ticket :=
  match t.waitingSince with
  | none => t
  | some since =>
      { t with
        resolutionPausedSeconds := t.resolutionPausedSeconds + waited since now
        resolutionDueAt := t.resolutionDueAt.map fun due => due + seconds (waited since now)
        waitingSince := none }

def enterStatus (t : Ticket) (new : Status) (now : ℤ) : Ticket :=
  let left := if folds t new then fold t now else t
  { left with
    waitingSince :=
      if new = .waitingUser ∧ t.status ≠ .waitingUser ∧ t.isSafety = false then some now
      else left.waitingSince
    status := new }

def setStatus (t : Ticket) (new : Status) (now : ℤ) : Ticket :=
  let entered := enterStatus t new now
  if new = .closed then
    { entered with
      resolvedAt := some (entered.resolvedAt.getD now)
      returnedAt := none
      returnedReason := if entered.returnedAt.isSome then "" else entered.returnedReason }
  else { entered with resolvedAt := none }

def clearReturned (t : Ticket) : Ticket :=
  if t.returnedAt.isSome then { t with returnedAt := none, returnedReason := "" } else t

/-! ## Calls -/

/-- The transaction of `admin_reply`. -/
def adminReply (t : Ticket) (next : Option Status) (now : ℤ) : Ticket :=
  let stamped := { t with firstRespondedAt := some (t.firstRespondedAt.getD now) }
  let moved :=
    match next with
    | some new => setStatus stamped new now
    | none => if t.status = .opened then setStatus stamped .inProgress now else stamped
  clearReturned moved

/-- The transaction of `admin_set_status`. -/
def adminSetStatus (t : Ticket) (wanted : Status) (now : ℤ) : Ticket :=
  if t.status = wanted then t else setStatus t wanted now

/-- The transaction of `admin_set_priority`. -/
def adminSetPriority (policy : Policy) (t : Ticket) (wanted : Priority) : Ticket :=
  if t.priority = wanted then t else applyDueTimes policy { t with priority := wanted }

/-- The transaction of `admin_set_category`. -/
def adminSetCategory (t : Ticket) (wanted : String) : Ticket := { t with issueType := wanted }

/-- The transaction of `add_user_message`. -/
def addUserMessage (t : Ticket) (now : ℤ) : Ticket :=
  if t.status = .waitingUser then enterStatus t .inProgress now else t

/-- What `close_my_ticket` saves on the row: its own read, closed. -/
def closeMyTicket (read row : Ticket) (now : ℤ) : Ticket :=
  let closed := enterStatus read .closed now
  let saved := { row with status := closed.status, resolvedAt := some now }
  if folds read .closed then
    { saved with
      resolutionPausedSeconds := closed.resolutionPausedSeconds
      resolutionDueAt := closed.resolutionDueAt
      waitingSince := closed.waitingSince }
  else saved

def autoclose (t : Ticket) (now : ℤ) : Ticket :=
  if t.status ≠ .waitingUser ∨ t.isSafety = true then t
  else { enterStatus t .closed now with resolvedAt := some now }

def returnRefundToAgent (t : Ticket) (why : String) (now : ℤ) : Ticket :=
  { enterStatus
      { t with returnedReason := String.ofList (why.toList.take 2000), returnedAt := some now }
      .inProgress now with resolvedAt := none }

/-! ## The state of the clocks -/

def minutesBetween (later earlier : ℤ) : ℤ := (later - earlier) / 60000000

structure Clock where
  dueAt : Option ℤ
  doneAt : Option ℤ
  breached : Bool
  minutesRemaining : Option ℤ
  met : Bool

def clock (dueAt doneAt : Option ℤ) (now : ℤ) : Clock :=
  match dueAt, doneAt with
  | none, doneAt => ⟨none, doneAt, false, none, doneAt.isSome⟩
  | some due, some done => ⟨some due, some done, done > due, none, done ≤ due⟩
  | some due, none => ⟨some due, none, due < now, some (minutesBetween due now), false⟩

def isPaused (t : Ticket) : Bool :=
  t.status = .waitingUser && t.waitingSince.isSome && !t.isSafety

/-- The words of `state`. -/
inductive Word where
  | closed | breached | paused | dueSoon | ok
deriving DecidableEq

/-- What `sla_state` shows. -/
structure Sla where
  state : Word
  next : Option String
  minutesRemaining : Option ℤ
  paused : Bool
  pausedSince : Option ℤ
  pausedSeconds : ℤ
  firstResponse : Clock
  resolution : Clock

def dueSoonMinutes : ℤ := 60

/-- The resolution clock as it is shown: frozen while the ticket is paused. -/
def resolutionClock (t : Ticket) (now : ℤ) : Clock :=
  let resolution :=
    clock t.resolutionDueAt (if t.status = .closed then t.resolvedAt else none) now
  match isPaused t, resolution.dueAt with
  | true, some due =>
      ⟨some due, none, false, t.waitingSince.map fun since => minutesBetween due since, false⟩
  | _, _ => resolution

/-- `open_clocks`: the deadlines that run, with what is shown of them. -/
def openClocks (t : Ticket) (now : ℤ) : List (String × ℤ × Clock) :=
  ([("first_response", clock t.firstResponseDueAt t.firstRespondedAt now),
      ("resolution", resolutionClock t now)].filterMap fun (name, c) =>
    match c.dueAt with
    | none => none
    | some due =>
        if c.doneAt.isNone && !(isPaused t && name == "resolution") then some (name, due, c)
        else none)

/-- `min(open_clocks, key=due_at)`. -/
def earliest : List (String × ℤ × Clock) → Option (String × ℤ × Clock)
  | [] => none
  | x :: xs =>
      match earliest xs with
      | none => some x
      | some y => if y.2.1 < x.2.1 then some y else some x

def slaState (t : Ticket) (now : ℤ) : Sla :=
  let first := clock t.firstResponseDueAt t.firstRespondedAt now
  let resolution := resolutionClock t now
  let (state, next, remaining) : Word × Option String × Option ℤ :=
    if t.status = .closed then (.closed, none, none)
    else
      let running := openClocks t now
      let state : Word := if running.any fun c => c.2.2.breached then .breached else .ok
      let (state, next, remaining) : Word × Option String × Option ℤ :=
        match earliest running with
        | none => (state, none, none)
        | some (name, _, c) =>
            (if state = .ok ∧ (c.minutesRemaining.any fun m => m ≤ dueSoonMinutes) then .dueSoon
              else state, some name, c.minutesRemaining)
      if isPaused t ∧ state = .ok then
        (.paused,
          if running.isEmpty then (some "resolution", resolution.minutesRemaining)
          else (next, remaining))
      else (state, next, remaining)
  { state := state
    next := next
    minutesRemaining := remaining
    paused := isPaused t
    pausedSince := if isPaused t then t.waitingSince else none
    pausedSeconds := t.resolutionPausedSeconds
    firstResponse := first
    resolution := resolution }

/-! ## The queue's filters -/

def dueBy (due : Option ℤ) (p : ℤ → Bool) : Bool := due.any p

def breachedQ (now : ℤ) (t : Ticket) : Bool :=
  t.status ≠ .closed &&
    ((t.firstRespondedAt.isNone && dueBy t.firstResponseDueAt fun due => due < now) ||
      ((dueBy t.resolutionDueAt fun due => due < now) && t.waitingSince.isNone))

def dueSoonQ (now : ℤ) (t : Ticket) : Bool :=
  let soon := now + minutes dueSoonMinutes
  t.status ≠ .closed && !breachedQ now t &&
    ((t.firstRespondedAt.isNone && dueBy t.firstResponseDueAt fun due => due ≤ soon) ||
      ((dueBy t.resolutionDueAt fun due => due ≤ soon) && t.waitingSince.isNone))

/-! ## Histories -/

/-- How long the ticket waited on its user while it was not a safety ticket: in each wait that is
over, and in the one that is under way. -/
structure Waits where
  done : List ℤ
  spent : ℤ
  since : Option ℤ

def Ticket.counting (t : Ticket) : Bool := t.status = .waitingUser && !t.isSafety

/-- The time since a moment, by the stamps of two calls. -/
def elapsed (since : Option ℤ) (now : ℤ) : ℤ := (since.map fun a => max 0 (now - a)).getD 0

/-- A change of the ticket, with the stamp of the call that made it. -/
def Waits.observe (w : Waits) (before after : Ticket) (now : ℤ) : Waits :=
  if before.status = .waitingUser then
    if after.status = .waitingUser then
      if before.counting = after.counting then w
      else if after.counting then { w with since := some now }
      else { w with spent := w.spent + elapsed w.since now, since := none }
    else ⟨w.done ++ [w.spent + elapsed w.since now], 0, none⟩
  else if after.status = .waitingUser then
    { w with spent := 0, since := if after.counting then some now else none }
  else w

/-- The ticket, the policy now and as it stood when the due times were last applied, the waits, and
the reads of the user's closes. -/
structure State where
  ticket : Ticket
  policy : Policy
  applied : Policy
  waits : Waits
  reads : ℕ → Option Ticket

/-- One thing that happens. -/
inductive Event where
  | policy (policy : Policy)
  | adminReply (next : Option Status) (now : ℤ)
  | adminSetStatus (wanted : Status) (now : ℤ)
  | adminSetPriority (wanted : Priority) (now : ℤ)
  | adminSetCategory (wanted : String) (now : ℤ)
  | addUserMessage (now : ℤ)
  | autoclose (now : ℤ)
  | returnRefundToAgent (why : String) (now : ℤ)
  /-- `close_my_ticket` reads the ticket -/
  | closeReads (call : ℕ)
  | closeWrites (call : ℕ) (now : ℤ)

def State.save (s : State) (after : Ticket) (now : ℤ) : State :=
  { s with ticket := after, waits := s.waits.observe s.ticket after now }

def step (s : State) : Event → State
  | .policy policy => { s with policy := policy }
  | .adminReply next now => s.save (adminReply s.ticket next now) now
  | .adminSetStatus wanted now => s.save (adminSetStatus s.ticket wanted now) now
  | .adminSetPriority wanted now =>
      let saved := s.save (adminSetPriority s.policy s.ticket wanted) now
      if s.ticket.priority = wanted then saved else { saved with applied := s.policy }
  | .adminSetCategory wanted now => s.save (adminSetCategory s.ticket wanted) now
  | .addUserMessage now => s.save (addUserMessage s.ticket now) now
  | .autoclose now => s.save (autoclose s.ticket now) now
  | .returnRefundToAgent why now => s.save (returnRefundToAgent s.ticket why now) now
  | .closeReads call => { s with reads := fun i => if i = call then some s.ticket else s.reads i }
  | .closeWrites call now =>
      match s.reads call with
      | none => s
      | some read =>
          if read.status = .closed then s else s.save (closeMyTicket read s.ticket now) now

/-- A new ticket. -/
def start (policy : Policy) (issueType country : String) (now : ℤ) : State :=
  { ticket := create policy issueType country now
    policy := policy
    applied := policy
    waits := ⟨[], 0, none⟩
    reads := fun _ => none }

abbrev run : State → List Event → State := Transition.run step

end SaaradhiGo.Support
