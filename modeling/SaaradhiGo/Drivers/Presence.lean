/-
The sockets of a driver, the sessions and the online flag.

A connect handler checks the fatigue lockout, writes the flag and opens a session unless one is
open; a disconnect handler writes the flag back and ends the open session.  Every statement of a
handler is a step of its own, and the handlers of different sockets interleave.  The sessions of
the last day are added up against the legal limit.
-/
import Mathlib.Data.List.MinMax
import Mathlib.Logic.Function.Basic
import Mathlib.Order.Basic
import Mathlib.Data.Int.Order.Basic
import SaaradhiGo.Lib.Span

namespace SaaradhiGo.Drivers

/-- A second in microseconds. -/
def second : ℕ := 1000000

def fatigueCapSeconds : ℕ := 12 * 3600

def fatigueWindowSeconds : ℕ := 24 * 3600

def fatigueLockoutSeconds : ℕ := 8 * 3600

structure DriverSession where
  id : ℕ
  startedAt : ℤ
  endedAt : Option ℤ
deriving DecidableEq, Repr

inductive DriverStatus where
  | online | off | blocked
deriving DecidableEq, Repr

/-- How far the handlers of a socket have come. -/
inductive Phase where
  | absent
  | accepted
  | online
  /-- No session was open at the moment. -/
  | creating (now : ℤ)
  /-- The connect handler is done. -/
  | connected (since : ℤ)
  | leaving (since : ℤ)
  /-- The flag is written back. -/
  | off (since : ℤ)
  /-- The session was open at the moment. -/
  | closing (session : ℕ) (now : ℤ)
deriving DecidableEq, Repr

/-- The state of one driver. -/
structure Presence where
  clock : ℤ
  status : DriverStatus
  /-- `Driver.fatigue_lockout_until`. -/
  lockoutUntil : Option ℤ
  sessions : List DriverSession
  nextSession : ℕ
  sockets : ℕ → Phase
  /-- The times of the sockets that are gone, from the moment the connect handler read the clock
  to the moment the disconnect handler did. -/
  served : List Span

/-! ## Fatigue -/

def Presence.windowStart (s : Presence) : ℤ := s.clock - (fatigueWindowSeconds * second : ℕ)

/-- The whole seconds of a session that count. -/
def DriverSession.seconds (r : DriverSession) (windowStart now : ℤ) : ℕ :=
  let segStart := max r.startedAt windowStart
  let segEnd := r.endedAt.getD now
  if segEnd ≤ segStart then 0 else (segEnd - segStart).toNat / second

/-- `compute_active_seconds_24h`. -/
def Presence.activeSeconds (s : Presence) : ℕ :=
  ((s.sessions.filter fun r =>
    decide (r.startedAt < s.clock) &&
      (r.endedAt.isNone || decide (s.windowStart < r.endedAt.getD 0))).map
    fun r => r.seconds s.windowStart s.clock).sum

/-- The lockout that is in force. -/
def Presence.lockedOut (s : Presence) : Bool :=
  match s.lockoutUntil with
  | some t => decide (s.clock < t)
  | none => false

def Presence.capReached (s : Presence) : Bool := decide (fatigueCapSeconds ≤ s.activeSeconds)

/-- `get_fatigue_status`: locked or not, and the lockout it leaves. -/
def Presence.fatigueStatus (s : Presence) : Bool × Option ℤ :=
  if s.lockedOut then (true, s.lockoutUntil)
  else if s.capReached then (true, some (s.clock + (fatigueLockoutSeconds * second : ℕ)))
  else (false, s.lockoutUntil)

/-! ## Sessions -/

def StartKey := ℤ

instance : LinearOrder StartKey := Int.instLinearOrder

def DriverSession.key (r : DriverSession) : StartKey := r.startedAt

def Presence.openSession (s : Presence) : Option DriverSession :=
  (s.sessions.filter fun r => r.endedAt.isNone).argmax DriverSession.key

/-- The end `record_session_end` writes. -/
def DriverSession.endAt (r : DriverSession) (now : ℤ) : DriverSession :=
  { r with endedAt := some (if now ≤ r.startedAt then r.startedAt else now) }

/-! ## Handlers -/

/-- What happens next. -/
inductive Act where
  | tick (d : ℕ)
  | lockOut (t : ℤ)
  | connect (i : ℕ)
  | goOnline (i : ℕ)
  | start (i : ℕ)
  | create (i : ℕ)
  | disconnect (i : ℕ)
  | goOff (i : ℕ)
  | finish (i : ℕ)
  | close (i : ℕ)

def Presence.setPhase (s : Presence) (i : ℕ) (p : Phase) : Presence :=
  { s with sockets := Function.update s.sockets i p }

/-- `_active_the_driver`, up to the flag.  A driver who is locked out stays as it is, and so does
the socket. -/
def goOnline (s : Presence) (i : ℕ) : Presence :=
  let fatigue := s.fatigueStatus
  if fatigue.1 then
    Presence.setPhase { s with lockoutUntil := fatigue.2 } i (.connected s.clock)
  else Presence.setPhase { s with status := .online } i .online

/-- `record_session_start`, up to its read. -/
def recordSessionStart (s : Presence) (i : ℕ) : Presence :=
  match s.openSession with
  | some _ => s.setPhase i (.connected s.clock)
  | none => s.setPhase i (.creating s.clock)

/-- `record_session_start`, its write. -/
def createSession (s : Presence) (i : ℕ) (now : ℤ) : Presence :=
  Presence.setPhase
    { s with
      sessions := s.sessions ++ [⟨s.nextSession, now, none⟩]
      nextSession := s.nextSession + 1 } i (.connected now)

/-- `_deactive_the_driver`, up to the flag: a driver who is blocked stays blocked. -/
def goOff (s : Presence) (i : ℕ) (since : ℤ) : Presence :=
  Presence.setPhase { s with status := if s.status = .blocked then .blocked else .off } i
    (.off since)

/-- `record_session_end`, up to its read. -/
def recordSessionEnd (s : Presence) (i : ℕ) (since : ℤ) : Presence :=
  match s.openSession with
  | some r =>
      Presence.setPhase { s with served := ⟨since, s.clock⟩ :: s.served } i
        (.closing r.id s.clock)
  | none => Presence.setPhase { s with served := ⟨since, s.clock⟩ :: s.served } i .absent

/-- `record_session_end`, its write. -/
def closeSession (s : Presence) (i session : ℕ) (now : ℤ) : Presence :=
  Presence.setPhase
    { s with
      sessions := s.sessions.map fun r => if r.id = session then r.endAt now else r } i .absent

/-- One step; a step of a socket that is not there yet does nothing. -/
def step (s : Presence) : Act → Presence
  | .tick d => { s with clock := s.clock + d }
  | .lockOut t => { s with lockoutUntil := some t }
  | .connect i => if s.sockets i = .absent then s.setPhase i .accepted else s
  | .goOnline i => if s.sockets i = .accepted then goOnline s i else s
  | .start i => if s.sockets i = .online then recordSessionStart s i else s
  | .create i =>
      match s.sockets i with
      | .creating now => createSession s i now
      | _ => s
  | .disconnect i =>
      match s.sockets i with
      | .connected since => s.setPhase i (.leaving since)
      | _ => s
  | .goOff i =>
      match s.sockets i with
      | .leaving since => goOff s i since
      | _ => s
  | .finish i =>
      match s.sockets i with
      | .off since => recordSessionEnd s i since
      | _ => s
  | .close i =>
      match s.sockets i with
      | .closing session now => closeSession s i session now
      | _ => s

def Presence.opening : Presence := ⟨0, .off, none, [], 1, fun _ => .absent, []⟩

end SaaradhiGo.Drivers
