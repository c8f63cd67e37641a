/-
The start of a trip with the rider's OTP.

A start command reads the counter of wrong OTPs from the cache, compares the OTP under the lock of
the trip's row and then writes the counter back, each in a step of its own.  The commands of one
socket come one after the other, those of several sockets do not.  The limit holds in every run in
which a command compares only while the counter is still what it has read or less and no wrong OTP
is on its way to it.
-/
import SaaradhiGo.Lib.Transition
import SaaradhiGo.Rides.ActiveTrip
import SaaradhiGo.Lib.PlainReader
import Mathlib.Data.List.Infix
import Mathlib.Logic.Function.Basic

namespace SaaradhiGo.StartOtp

open SaaradhiGo.Rides (TripStatus)
open Transition

/-! ## The source -/

def tripOtpMaxAttempts : ℕ := 5

def tripOtpAttemptTtlSeconds : ℕ := 5 * 60

/-- `Trip`, with what a start depends on. -/
structure Trip where
  driver : Option ℕ
  status : Option TripStatus
  otp : Option String

def statusCode : TripStatus → String
  | .requested => "requested"
  | .accepted => "accepted"
  | .reached => "reached"
  | .inProgress => "in_progress"
  | .completed => "completed"
  | .cancelled => "cancelled"

def Trip.Startable (t : Trip) : Prop := t.status = some .accepted ∨ t.status = some .reached

instance (t : Trip) : Decidable t.Startable := inferInstanceAs (Decidable (_ ∨ _))

/-- `str(trip.otp)`. -/
def Trip.otpText (t : Trip) : String := t.otp.getD "None"

def tripNotFound : String := "Trip not found"

def invalidTransition (current : Option TripStatus) : String :=
  "Invalid status transition: cannot change from " ++ (current.map statusCode).getD "None" ++
    " to in_progress"

def invalidOtp : String := "Invalid OTP provided"

/-- `_update_trip_status('in_progress', otp_input)`: the trip that is saved, or the error. -/
def updateTripStatus (py : Python.Reader) (trip : Option Trip) (otp : Json) : Except String Trip :=
  match trip with
  | none => .error tripNotFound
  | some t =>
      if ¬ t.Startable then .error (invalidTransition t.status)
      else if t.otpText ≠ Python.text py otp then .error invalidOtp
      else .ok { t with status := some .inProgress }

/-- `'OTP' in error`. -/
def mentionsOtp (error : String) : Bool := decide ("OTP".toList <:+: error.toList)

/-- What a socket is doing. -/
inductive Stage where
  | idle
  /-- the assigned driver sent an OTP -/
  | asked (otp : Json)
  /-- the counter was below the limit -/
  | permitted (otp : Json) (attempts : ℕ)
  /-- the trip was tried to start -/
  | answered (attempts : ℕ) (result : Except String Unit)

/-- An entry of the cache. -/
structure Entry where
  count : ℕ
  deadline : ℕ

/-- A comparison of an OTP with the trip's. -/
inductive Compared where
  | wrong (time : ℕ)
  | started (time : ℕ)

/-- A trip with its counter, the sockets and the comparisons, the latest first. -/
structure World (σ : Type) where
  now : ℕ
  trip : Option Trip
  attempts : Option Entry
  sockets : σ → Stage
  log : List Compared

/-- What happens: the steps of a socket's command, the death of a socket, time that passes, and
another writer of the trip.  The steps of the database and the cache may fail. -/
inductive Act (σ : Type) where
  | receive (i : σ) (otp : Option Json)
  | get (i : σ) (answers : Bool)
  | compare (i : σ) (failure : Option String)
  | settle (i : σ) (answers : Bool)
  | die (i : σ)
  | tick (seconds : ℕ)
  | other (trip : Option Trip)

/-- `cache.get(attempt_key, 0)`, at a time. -/
def counterAt (time : ℕ) : Option Entry → ℕ
  | some e => if time < e.deadline then e.count else 0
  | none => 0

section Steps

variable {σ : Type} [DecidableEq σ]

def World.put (w : World σ) (i : σ) (stage : Stage) : World σ :=
  { w with sockets := Function.update w.sockets i stage }

/-- The check of the OTP, in one transaction.  When the transaction fails at its end the OTP was
compared all the same. -/
def World.compare (py : Python.Reader) (w : World σ) (i : σ) (otp : Json) (attempts : ℕ)
    (failure : Option String) : World σ :=
  match updateTripStatus py w.trip otp, failure with
  | .ok t, none =>
      { w.put i (.answered attempts (.ok ())) with trip := some t, log := .started w.now :: w.log }
  | .ok _, some text => w.put i (.answered attempts (.error text))
  | .error error, failure =>
      let log := if error = invalidOtp then .wrong w.now :: w.log else w.log
      { w.put i (.answered attempts (.error (failure.getD error))) with log := log }

/-- The counter after a try. -/
def World.settled (w : World σ) (attempts : ℕ) : Except String Unit → Option Entry
  | .error error =>
      if mentionsOtp error then some ⟨attempts + 1, w.now + tripOtpAttemptTtlSeconds⟩
      else w.attempts
  | .ok _ => none

variable (py : Python.Reader) (driverOf : σ → Option ℕ)

/-- One step; `driverOf` says which driver a socket belongs to. -/
def step (w : World σ) : Act σ → World σ
  | .receive i otp =>
      match w.sockets i, otp with
      | .idle, some otp =>
          let assigned := w.trip.any fun t => t.driver.isSome && driverOf i == t.driver
          if assigned && Python.truthy otp then w.put i (.asked otp) else w
      | _, _ => w
  | .get i answers =>
      match w.sockets i with
      | .asked otp =>
          let attempts := counterAt w.now w.attempts
          if answers && decide (attempts < tripOtpMaxAttempts) then
            w.put i (.permitted otp attempts)
          else w.put i .idle
      | _ => w
  | .compare i failure =>
      match w.sockets i with
      | .permitted otp attempts => w.compare py i otp attempts failure
      | _ => w
  | .settle i answers =>
      match w.sockets i with
      | .answered attempts result =>
          { w.put i .idle with
            attempts := if answers then w.settled attempts result else w.attempts }
      | _ => w
  | .die i => w.put i .idle
  | .tick seconds => { w with now := w.now + seconds }
  | .other trip =>
      -- nothing takes a trip back once it has started or ended
      if w.trip.any (fun t => decide t.Startable) || !trip.any fun t => decide t.Startable then
        { w with trip := trip }
      else w

end Steps

/-! ## The limit -/

/-- The wrong OTPs of the window that is open at a time: each came while the window of the one
before it was open, and no start came after them. -/
def wrongAt (time : ℕ) : List Compared → ℕ
  | [] => 0
  | .started _ :: _ => 0
  | .wrong t :: log => if time < t + tripOtpAttemptTtlSeconds then wrongAt t log + 1 else 0

/-- No OTP, wrong or right, was compared when the limit of its window was reached. -/
def Limited : List Compared → Prop
  | [] => True
  | .started t :: log => wrongAt t log < tripOtpMaxAttempts ∧ Limited log
  | .wrong t :: log => wrongAt t log < tripOtpMaxAttempts ∧ Limited log

def Compared.time : Compared → ℕ
  | wrong t => t
  | started t => t

lemma wrongAt_mono {log : List Compared} {t t' : ℕ} (h : t ≤ t') : wrongAt t' log ≤ wrongAt t log := by
  cases log with
  | nil => exact le_refl 0
  | cons e log =>
    cases e with
    | started u => exact le_refl 0
    | wrong u =>
      rw [wrongAt, wrongAt]
      by_cases hopen : t' < u + tripOtpAttemptTtlSeconds
      · rw [if_pos hopen, if_pos (by omega)]
      · rw [if_neg hopen]
        exact Nat.zero_le _

/-- A window is over when its time has passed since the last comparison. -/
lemma wrongAt_of_late {log : List Compared} {now t : ℕ} (hpast : ∀ e ∈ log, e.time ≤ now)
    (h : now + tripOtpAttemptTtlSeconds ≤ t) : wrongAt t log = 0 := by
  cases log with
  | nil => rfl
  | cons e log =>
    cases e with
    | started u => rfl
    | wrong u =>
      have hu : u ≤ now := hpast (.wrong u) List.mem_cons_self
      rw [wrongAt, if_neg (by omega)]

lemma wrongAt_wrong {log : List Compared} {t : ℕ} :
    wrongAt t (.wrong t :: log) = wrongAt t log + 1 := by
  rw [wrongAt, if_pos (Nat.lt_add_of_pos_right (by decide))]

/-! ## Careful runs -/

/-- A wrong OTP is on its way to the counter. -/
def Stage.Uncounted : Stage → Prop
  | answered _ (.error error) => mentionsOtp error = true
  | _ => False

section Careful

variable {σ : Type} [DecidableEq σ]

/-- A command compares while the counter is no more than it has read, no wrong OTP is on its way
to the counter and the database answers; and what is on its way arrives. -/
def Careful (w : World σ) : Act σ → Prop
  | .compare i failure =>
      ∀ otp attempts, w.sockets i = .permitted otp attempts →
        failure = none ∧ counterAt w.now w.attempts ≤ attempts ∧
          ∀ j, j ≠ i → ¬ (w.sockets j).Uncounted
  | .settle i answers => answers = true ∨ ¬ (w.sockets i).Uncounted
  | .die i => ¬ (w.sockets i).Uncounted
  | _ => True

/-- What holds in a careful run. -/
structure Sound (w : World σ) : Prop where
  limited : Limited w.log
  past : ∀ e ∈ w.log, e.time ≤ w.now
  permitted : ∀ i otp attempts, w.sockets i = .permitted otp attempts →
    attempts < tripOtpMaxAttempts
  unique : ∀ i j, (w.sockets i).Uncounted → (w.sockets j).Uncounted → i = j
  pending : ∀ i attempts error, w.sockets i = .answered attempts (.error error) →
    mentionsOtp error = true → wrongAt w.now w.log ≤ attempts + 1
  /-- while nothing is on its way the counter is enough, also when its entry lapses later -/
  counted : (∀ i, ¬ (w.sockets i).Uncounted) → ∀ t, w.now ≤ t →
    wrongAt t w.log ≤ counterAt t w.attempts
  /-- once the trip has started no OTP is compared -/
  begun : ∀ i attempts, w.sockets i = .answered attempts (.ok ()) →
    (∀ t ∈ w.trip, ¬ t.Startable) ∧ wrongAt w.now w.log = 0

variable {py : Python.Reader} {driverOf : σ → Option ℕ} {w : World σ} {i : σ}

@[simp] lemma put_sockets_self (stage : Stage) : (w.put i stage).sockets i = stage :=
  Function.update_self ..

lemma put_sockets_of_ne {j : σ} (h : j ≠ i) (stage : Stage) :
    (w.put i stage).sockets j = w.sockets j :=
  Function.update_of_ne h ..

/-- A socket moves to a stage that carries no answer. -/
lemma Sound.put (h : Sound w) (hcounted : ¬ (w.sockets i).Uncounted) {stage : Stage}
    (hstage : ∀ attempts result, stage ≠ .answered attempts result)
    (hpermitted : ∀ otp attempts, stage = .permitted otp attempts →
      attempts < tripOtpMaxAttempts) : Sound (w.put i stage) := by
  have hnot : ¬ stage.Uncounted := by
    cases stage with
    | answered attempts result => exact absurd rfl (hstage attempts result)
    | idle => exact id
    | asked otp => exact id
    | permitted otp attempts => exact id
  have huncounted : ∀ j, ((w.put i stage).sockets j).Uncounted ↔ (w.sockets j).Uncounted := by
    intro j
    by_cases hj : j = i
    · rw [hj, put_sockets_self]
      exact iff_of_false hnot hcounted
    · rw [put_sockets_of_ne hj]
  constructor
  · exact h.limited
  · exact h.past
  · intro j otp attempts hj
    by_cases hji : j = i
    · rw [hji, put_sockets_self] at hj
      exact hpermitted otp attempts hj
    · rw [put_sockets_of_ne hji] at hj
      exact h.permitted j otp attempts hj
  · intro j j' hj hj'
    exact h.unique j j' ((huncounted j).mp hj) ((huncounted j').mp hj')
  · intro j attempts error hj hotp
    by_cases hji : j = i
    · rw [hji, put_sockets_self] at hj
      exact absurd hj (hstage attempts _)
    · rw [put_sockets_of_ne hji] at hj
      exact h.pending j attempts error hj hotp
  · intro hall
    exact h.counted fun j hj => hall j ((huncounted j).mpr hj)
  · intro j attempts hj
    by_cases hji : j = i
    · rw [hji, put_sockets_self] at hj
      exact absurd hj (hstage attempts _)
    · rw [put_sockets_of_ne hji] at hj
      exact h.begun j attempts hj

lemma mentionsOtp_invalidOtp : mentionsOtp invalidOtp = true := by decide +kernel

lemma not_mentionsOtp {trip : Option Trip} {otp : Json} {error : String}
    (h : updateTripStatus py trip otp = .error error) (hne : error ≠ invalidOtp) :
    mentionsOtp error = false := by
  cases trip with
  | none =>
    cases h
    decide +kernel
  | some t =>
    rw [updateTripStatus] at h
    split at h
    · cases h
      cases t.status with
      | none => decide +kernel
      | some status => cases status <;> decide +kernel
    · split at h
      · exact absurd (Except.error.inj h).symm hne
      · cases h

lemma startable_of_compared {trip : Option Trip} {otp : Json} {result : Except String Trip}
    (h : updateTripStatus py trip otp = result)
    (hresult : result = .error invalidOtp ∨ ∃ t, result = .ok t) :
    ∃ t ∈ trip, t.Startable := by
  cases trip with
  | none =>
    rw [updateTripStatus] at h
    subst h
    rcases hresult with hresult | ⟨t, hresult⟩
    · exact absurd (Except.error.inj hresult) (by decide)
    · cases hresult
  | some t =>
    refine ⟨t, rfl, ?_⟩
    by_contra hnot
    rw [updateTripStatus] at h
    rw [if_pos hnot] at h
    subst h
    rcases hresult with hresult | ⟨t', hresult⟩
    · have hmentions := congrArg mentionsOtp (Except.error.inj hresult)
      rw [mentionsOtp_invalidOtp] at hmentions
      revert hmentions
      cases t.status with
      | none => decide +kernel
      | some status => cases status <;> decide +kernel
    · cases hresult

lemma not_startable_of_started {trip : Option Trip} {otp : Json} {t : Trip}
    (h : updateTripStatus py trip otp = .ok t) : ¬ t.Startable := by
  cases trip with
  | none => cases h
  | some t₀ =>
    rw [updateTripStatus] at h
    split at h
    · cases h
    · split at h
      · cases h
      · cases h
        rintro (hstatus | hstatus)
        · cases hstatus
        · cases hstatus

/-- Nobody's wrong OTP is on its way, the socket's own included. -/
lemma not_uncounted_of_permitted {otp : Json} {attempts : ℕ}
    (hi : w.sockets i = .permitted otp attempts)
    (hothers : ∀ j, j ≠ i → ¬ (w.sockets j).Uncounted) (j : σ) : ¬ (w.sockets j).Uncounted := by
  by_cases hj : j = i
  · rw [hj, hi]
    exact id
  · exact hothers j hj

/-- A careful comparison comes below the limit, and is counted next. -/
lemma Sound.compare (h : Sound w) {otp : Json} {attempts : ℕ}
    (hi : w.sockets i = .permitted otp attempts)
    (hcounter : counterAt w.now w.attempts ≤ attempts)
    (hothers : ∀ j, j ≠ i → ¬ (w.sockets j).Uncounted) :
    Sound (w.compare py i otp attempts none) := by
  have hnone := not_uncounted_of_permitted hi hothers
  have hopen : wrongAt w.now w.log ≤ attempts := (h.counted hnone w.now le_rfl).trans hcounter
  have hlimit : wrongAt w.now w.log < tripOtpMaxAttempts :=
    hopen.trans_lt (h.permitted i otp attempts hi)
  have hanswered : ∀ {stage : Stage} {j : σ} {n : ℕ} {result : Except String Unit},
      Function.update w.sockets i stage j = .answered n result →
      j = i ∧ stage = .answered n result ∨ j ≠ i ∧ w.sockets j = .answered n result := by
    intro stage j n result hj
    by_cases hji : j = i
    · rw [hji, Function.update_self] at hj
      exact .inl ⟨hji, hj⟩
    · rw [Function.update_of_ne hji] at hj
      exact .inr ⟨hji, hj⟩
  have hpermitted : ∀ {n : ℕ} {result : Except String Unit} (j : σ) (otp' : Json) (n' : ℕ),
      Function.update w.sockets i (.answered n result) j = .permitted otp' n' →
      n' < tripOtpMaxAttempts := by
    intro n result j otp' n' hj
    by_cases hji : j = i
    · rw [hji, Function.update_self] at hj
      cases hj
    · rw [Function.update_of_ne hji] at hj
      exact h.permitted j otp' n' hj
  have hunique : ∀ {stage : Stage} (j : σ),
      (Function.update w.sockets i stage j).Uncounted → j = i := by
    intro stage j hj
    by_contra hji
    rw [Function.update_of_ne hji] at hj
    exact hnone j hj
  rw [World.compare.eq_def]
  cases hresult : updateTripStatus py w.trip otp with
  | ok t =>
    -- the trip is started
    have hnot := not_startable_of_started hresult
    constructor
    · exact ⟨hlimit, h.limited⟩
    · intro e he
      rcases List.mem_cons.mp he with rfl | he
      · exact le_refl w.now
      · exact h.past e he
    · exact hpermitted
    · intro j j' hj hj'
      rw [hunique j hj, hunique j' hj']
    · intro j n error hj hotp
      exact Nat.zero_le _
    · intro _ time _
      exact Nat.zero_le _
    · intro j n hj
      refine ⟨fun t' ht' => ?_, rfl⟩
      cases ht'
      exact hnot
  | error error =>
    by_cases hwrong : error = invalidOtp
    · -- a wrong OTP: it is on its way to the counter
      subst hwrong
      obtain ⟨t, ht, hstartable⟩ := startable_of_compared hresult (.inl rfl)
      dsimp only
      rw [if_pos rfl]
      constructor
      · exact ⟨hlimit, h.limited⟩
      · intro e he
        rcases List.mem_cons.mp he with rfl | he
        · exact le_refl w.now
        · exact h.past e he
      · exact hpermitted
      · intro j j' hj hj'
        rw [hunique j hj, hunique j' hj']
      · intro j n error hj hotp
        rcases hanswered hj with ⟨-, heq⟩ | ⟨hji, hold⟩
        · cases heq
          show wrongAt w.now (.wrong w.now :: w.log) ≤ attempts + 1
          rw [wrongAt_wrong]
          omega
        · exact absurd (show (w.sockets j).Uncounted by rw [hold]; exact hotp) (hnone j)
      · intro hall
        refine absurd ?_ (hall i)
        show (Function.update w.sockets i _ i).Uncounted
        rw [Function.update_self]
        exact mentionsOtp_invalidOtp
      · intro j n hj
        rcases hanswered hj with ⟨-, heq⟩ | ⟨-, hold⟩
        · cases heq
        · exact absurd hstartable ((h.begun j n hold).1 t ht)
    · -- the trip is not there or cannot be started
      have hother := not_mentionsOtp hresult hwrong
      dsimp only
      rw [if_neg hwrong]
      constructor
      · exact h.limited
      · exact h.past
      · exact hpermitted
      · intro j j' hj hj'
        rw [hunique j hj, hunique j' hj']
      · intro j n error' hj hotp
        rcases hanswered hj with ⟨-, heq⟩ | ⟨-, hold⟩
        · cases heq
          rw [Option.getD_none, hother] at hotp
          exact absurd hotp Bool.false_ne_true
        · exact h.pending j n error' hold hotp
      · intro _
        exact h.counted hnone
      · intro j n hj
        rcases hanswered hj with ⟨-, heq⟩ | ⟨-, hold⟩
        · cases heq
        · exact h.begun j n hold

/-- What is on its way arrives. -/
lemma Sound.settle (h : Sound w) {attempts : ℕ} {result : Except String Unit}
    (hi : w.sockets i = .answered attempts result) {answers : Bool}
    (hcareful : answers = true ∨ ¬ (w.sockets i).Uncounted) :
    Sound { w.put i .idle with
      attempts := if answers then w.settled attempts result else w.attempts } := by
  have hidle : ∀ {j : σ}, (Function.update w.sockets i .idle j).Uncounted →
      j ≠ i ∧ (w.sockets j).Uncounted := by
    intro j hj
    by_cases hji : j = i
    · rw [hji, Function.update_self] at hj
      exact absurd hj id
    · rw [Function.update_of_ne hji] at hj
      exact ⟨hji, hj⟩
  have hstage : ∀ {j : σ} {stage : Stage}, stage ≠ .idle →
      Function.update w.sockets i .idle j = stage → w.sockets j = stage := by
    intro j stage hne hj
    by_cases hji : j = i
    · rw [hji, Function.update_self] at hj
      exact absurd hj.symm hne
    · rwa [Function.update_of_ne hji] at hj
  constructor
  · exact h.limited
  · exact h.past
  · intro j otp n hj
    exact h.permitted j otp n (hstage (fun heq => by cases heq) hj)
  · intro j j' hj hj'
    exact h.unique j j' (hidle hj).2 (hidle hj').2
  · intro j n error hj hotp
    exact h.pending j n error (hstage (fun heq => by cases heq) hj) hotp
  · intro hall t ht
    show wrongAt t w.log ≤ counterAt t (if answers then w.settled attempts result else w.attempts)
    by_cases hown : (w.sockets i).Uncounted
    · -- the wrong OTP is counted now, and its entry outlives the window
      rw [hi] at hown
      cases result with
      | ok => exact absurd hown id
      | error error =>
        have hotp : mentionsOtp error = true := hown
        have hanswers : answers = true := hcareful.resolve_right fun hnot =>
          hnot (by rw [hi]; exact hown)
        rw [if_pos hanswers, World.settled, if_pos hotp, counterAt]
        split
        · exact (wrongAt_mono ht).trans (h.pending i attempts error hi hotp)
        · rename_i hlate
          rw [wrongAt_of_late h.past (not_lt.mp hlate)]
    · have hnone : ∀ j, ¬ (w.sockets j).Uncounted := by
        intro j hj
        by_cases hji : j = i
        · exact hown (hji ▸ hj)
        · refine hall j ?_
          show (Function.update w.sockets i .idle j).Uncounted
          rwa [Function.update_of_ne hji]
      cases result with
      | ok =>
        -- the trip has started: no wrong OTP is counted any more
        have hzero := (h.begun i attempts hi).2
        have hlater : wrongAt t w.log ≤ wrongAt w.now w.log := wrongAt_mono ht
        omega
      | error error =>
        have hotp : ¬ mentionsOtp error = true := by
          intro hotp
          exact hown (by rw [hi]; exact hotp)
        rw [World.settled, if_neg hotp, ite_self]
        exact h.counted hnone t ht
  · intro j n hj
    exact h.begun j n (hstage (fun heq => by cases heq) hj)

lemma sound_step (h : Sound w) (a : Act σ) (hcareful : Careful w a) :
    Sound (step py driverOf w a) := by
  have hidle : ∀ n result, Stage.idle ≠ .answered n result := fun _ _ heq => by cases heq
  have hno : ∀ otp n, Stage.idle = .permitted otp n → n < tripOtpMaxAttempts :=
    fun _ _ heq => by cases heq
  cases a with
  | receive i otp =>
    rw [step.eq_def]
    dsimp only
    cases hi : w.sockets i with
    | idle =>
      cases otp with
      | none => exact h
      | some otp =>
        dsimp only
        split
        · refine h.put (by rw [hi]; exact id) ?_ ?_
          · exact fun _ _ heq => by cases heq
          · exact fun _ _ heq => by cases heq
        · exact h
    | asked otp => exact h
    | permitted otp attempts => exact h
    | answered attempts result => exact h
  | get i answers =>
    rw [step.eq_def]
    dsimp only
    split
    · rename_i otp hi
      have hcounted : ¬ (w.sockets i).Uncounted := by
        rw [hi]
        exact id
      split
      · rename_i hbelow
        rw [Bool.and_eq_true, decide_eq_true_eq] at hbelow
        refine h.put hcounted (fun _ _ heq => by cases heq) fun _ _ heq => ?_
        cases heq
        exact hbelow.2
      · exact h.put hcounted hidle hno
    · exact h
  | compare i failure =>
    rw [step.eq_def]
    dsimp only
    split
    · rename_i otp attempts hi
      obtain ⟨rfl, hcounter, hothers⟩ := hcareful otp attempts hi
      exact h.compare hi hcounter hothers
    · exact h
  | settle i answers =>
    rw [step.eq_def]
    dsimp only
    split
    · rename_i attempts result hi
      exact h.settle hi hcareful
    · exact h
  | die i => exact h.put hcareful hidle hno
  | tick seconds =>
    have hlater : w.now ≤ w.now + seconds := Nat.le_add_right _ _
    constructor
    · exact h.limited
    · exact fun e he => (h.past e he).trans hlater
    · exact h.permitted
    · exact h.unique
    · exact fun j n error hj hotp => (wrongAt_mono hlater).trans (h.pending j n error hj hotp)
    · exact fun hall t ht => h.counted hall t (hlater.trans ht)
    · intro j n hj
      obtain ⟨hnot, hzero⟩ := h.begun j n hj
      exact ⟨hnot, Nat.le_zero.mp ((wrongAt_mono hlater).trans hzero.le)⟩
  | other trip =>
    rw [step.eq_def]
    dsimp only
    split
    · rename_i hallowed
      refine ⟨h.limited, h.past, h.permitted, h.unique, h.pending, h.counted, ?_⟩
      intro j n hj
      obtain ⟨hnot, hzero⟩ := h.begun j n hj
      refine ⟨fun t ht hstartable => ?_, hzero⟩
      rw [Bool.or_eq_true, Option.any_eq_true, Bool.not_eq_true', ← Bool.not_eq_true,
        Option.any_eq_true] at hallowed
      rcases hallowed with ⟨t₀, ht₀, hstartable₀⟩ | hafter
      · exact hnot t₀ ht₀ (of_decide_eq_true hstartable₀)
      · exact hafter ⟨t, ht, decide_eq_true hstartable⟩
    · exact h

end Careful

/-! ## Runs -/

section Runs

variable {σ : Type} [DecidableEq σ] {py : Python.Reader} {driverOf : σ → Option ℕ}

def World.new (trip : Option Trip) : World σ := ⟨0, trip, none, fun _ => .idle, []⟩

omit [DecidableEq σ] in
lemma sound_new (trip : Option Trip) : Sound (World.new trip : World σ) := by
  refine ⟨trivial, fun e he => absurd he List.not_mem_nil, ?_, fun i _ hi => absurd hi id, ?_,
    fun _ _ _ => le_refl 0, ?_⟩
  · exact fun i otp n hi => by cases hi
  · exact fun i n error hi => by cases hi
  · exact fun i n hi => by cases hi

lemma Limited.wrongAt_le {log : List Compared} (h : Limited log) (t : ℕ) :
    wrongAt t log ≤ tripOtpMaxAttempts := by
  cases log with
  | nil => exact Nat.zero_le _
  | cons e log =>
    cases e with
    | started u => exact Nat.zero_le _
    | wrong u =>
      rw [wrongAt]
      split
      · exact h.1
      · exact Nat.zero_le _

/-- In a careful run at most the permitted number of wrong OTPs is compared in a window, and no
OTP is compared, and no trip started by it, once that number is reached. -/
theorem limited_of_careful (trip : Option Trip) (acts : List (Act σ))
    (h : Guarded (step py driverOf) Careful (World.new trip) acts) :
    (∀ t, wrongAt t (run (step py driverOf) (World.new trip) acts).log ≤ tripOtpMaxAttempts) ∧
      Limited (run (step py driverOf) (World.new trip) acts).log := by
  have hsound : Sound (run (step py driverOf) (World.new trip) acts) :=
    Transition.invariant_of_guarded (I := Sound) (fun _ a hcareful hs => sound_step hs a hcareful)
      (sound_new trip) h
  exact ⟨hsound.limited.wrongAt_le, hsound.limited⟩

/-- The trip of driver 7, who waits for the rider. -/
def exampleTrip : Trip := ⟨some 7, some .reached, some "4821"⟩

/-- One socket: a wrong OTP, and then the right one. -/
def exampleActs : List (Act Unit) :=
  [.receive () (some (.str "0000")), .get () true, .compare () none, .settle () true,
    .receive () (some (.str "4821")), .get () true, .compare () none, .settle () true]

theorem limited_of_careful_one_socket :
    Limited (run (step Python.plainReader fun _ : Unit => some 7) (World.new (some exampleTrip))
      exampleActs).log := by
  refine (limited_of_careful (some exampleTrip) exampleActs ?_).2
  have hsocket : ∀ w : World Unit, ∀ j : Unit, j ≠ () → ¬ (w.sockets j).Uncounted :=
    fun _ _ hj => absurd rfl hj
  refine ⟨trivial, trivial, fun otp n hn => ⟨rfl, ?_, hsocket _⟩, .inl rfl, trivial, trivial,
    fun otp n hn => ⟨rfl, ?_, hsocket _⟩, .inl rfl, trivial⟩
  · cases hn
    decide +kernel
  · cases hn
    decide +kernel

/-- Six sockets of the driver that all read the counter before one of them writes it. -/
def sixAtOnce : List (Act ℕ) :=
  (List.range 6).map (.receive · (some (.str "0000"))) ++ (List.range 6).map (.get · true) ++
    (List.range 6).map (.compare · none)

/-- Six wrong OTPs are compared in one window. -/
theorem six_are_compared :
    wrongAt 0 (run (step Python.plainReader fun _ : ℕ => some 7) (World.new (some exampleTrip))
        sixAtOnce).log = 6 ∧
      ¬ Limited (run (step Python.plainReader fun _ : ℕ => some 7) (World.new (some exampleTrip))
        sixAtOnce).log := by
  have hsix : wrongAt 0 (run (step Python.plainReader fun _ : ℕ => some 7)
      (World.new (some exampleTrip)) sixAtOnce).log = 6 := by
    decide +kernel
  refine ⟨hsix, fun h => ?_⟩
  have hle := h.wrongAt_le 0
  rw [hsix] at hle
  exact absurd hle (by decide)

end Runs

end SaaradhiGo.StartOtp
