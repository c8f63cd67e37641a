/-
The active seconds and the online flag of a driver with many sockets.

When no handler is at work, the seconds that are added up should be those at which a socket was
connected in the last day, within a second for each session, and the driver should be online
exactly when a socket is connected.  They are in every run in which no driver connects while
locked out, a session is looked for only when none is being written, and the flag is written back
and a session ended only when no other socket of the driver is there.
-/
import SaaradhiGo.Drivers.Sessions
import SaaradhiGo.Lib.Transition

namespace SaaradhiGo.Drivers

/-- The connect handler has written the flag, and the socket is not closed. -/
def Phase.Up : Phase → Prop
  | online => True
  | creating _ => True
  | connected _ => True
  | _ => False

/-- No handler of the socket is at work. -/
def Phase.Idle : Phase → Prop
  | absent => True
  | connected _ => True
  | _ => False

/-- No handler is at work. -/
def Quiet (s : Presence) : Prop := ∀ i, (s.sockets i).Idle

/-- The driver is online exactly when a socket is connected. -/
def OnlineLaw (s : Presence) : Prop :=
  s.status = .online ↔ ∃ i since, s.sockets i = .connected since

open Classical in
/-- The moments of the last day at which a socket counted. -/
noncomputable def Presence.connectedMoments (s : Presence) : Finset ℤ :=
  (Span.moments s.windowStart s.clock).filter s.ledger.Counted

/-- The active seconds are the connected time, within a second for each session. -/
def CountLaw (s : Presence) : Prop :=
  s.activeSeconds * second ≤ s.connectedMoments.card ∧
    s.connectedMoments.card ≤ s.activeSeconds * second + s.sessions.length * second

/-- No driver connects while locked out, a session is looked for only when none is being written,
the flag is written back only when no other socket is there, and a session is ended only when no
other socket counts, and its end is not moved back. -/
def Careful (s : Presence) : Act → Prop
  | .goOnline i => s.sockets i = .accepted → s.fatigueStatus.1 = false
  | .start i => s.sockets i = .online → ∀ j, (s.sockets j).write = none
  | .goOff i => ∀ since, s.sockets i = .leaving since → ∀ j, ¬ (s.sockets j).Up
  | .close i => ∀ session now, s.sockets i = .closing session now →
      (∀ j, (s.sockets j).since = none) ∧
        ∀ r ∈ s.sessions, r.id = session → ∀ e ∈ r.endedAt, e ≤ now
  | _ => True

/-- What the flag keeps. -/
structure FlagKept (s : Presence) : Prop where
  notBlocked : s.status ≠ .blocked
  up : ∀ i, (s.sockets i).Up → s.status = .online
  down : s.status = .online → ∃ i, (s.sockets i).Up ∨ ∃ since, s.sockets i = .leaving since

/-- What a careful run keeps. -/
structure Kept (s : Presence) : Prop where
  ledger : s.ledger.Kept
  flag : FlagKept s

section Steps

variable {s s' : Presence} {i : ℕ} {p : Phase} {now since : ℤ}

lemma setPhase_self : (s.setPhase i p).sockets i = p := Function.update_self ..

lemma setPhase_of_ne {j : ℕ} (hj : j ≠ i) : (s.setPhase i p).sockets j = s.sockets j :=
  Function.update_of_ne hj ..

lemma ledger_setPhase :
    (s.setPhase i p).ledger = { s.ledger with
      since := Function.update s.ledger.since i p.since
      write := Function.update s.ledger.write i p.write } := by
  have hsince : (fun j => (Function.update s.sockets i p j).since) =
      Function.update (fun j => (s.sockets j).since) i p.since := by
    funext j
    rw [Function.apply_update fun _ => Phase.since]
  have hwrite : (fun j => (Function.update s.sockets i p j).write) =
      Function.update (fun j => (s.sockets j).write) i p.write := by
    funext j
    rw [Function.apply_update fun _ => Phase.write]
  rw [Presence.ledger, Presence.setPhase]
  dsimp only
  rw [hsince, hwrite]
  rfl

lemma ledger_since (j : ℕ) : s.ledger.since j = (s.sockets j).since := rfl

lemma ledger_write (j : ℕ) : s.ledger.write j = (s.sockets j).write := rfl

lemma ledger_setPhase_of_eq (hsince : p.since = (s.sockets i).since)
    (hwrite : p.write = (s.sockets i).write) : (s.setPhase i p).ledger = s.ledger := by
  rw [ledger_setPhase, hsince, hwrite, ← ledger_since, ← ledger_write, Function.update_eq_self,
    Function.update_eq_self]

/-- The flag stays right when the socket is there after the move as it was before. -/
lemma FlagKept.setPhase (h : FlagKept s) (hstatus : s'.status = s.status)
    (hsockets : s'.sockets = Function.update s.sockets i p)
    (hup : p.Up → (s.sockets i).Up)
    (hdown : ((s.sockets i).Up ∨ ∃ a, s.sockets i = .leaving a) → p.Up ∨ ∃ a, p = .leaving a) :
    FlagKept s' := by
  refine ⟨by rw [hstatus]; exact h.notBlocked, fun j hj => ?_, fun honline => ?_⟩
  · rw [hstatus]
    rw [hsockets] at hj
    by_cases hji : j = i
    · rw [hji, Function.update_self] at hj
      exact h.up i (hup hj)
    · rw [Function.update_of_ne hji] at hj
      exact h.up j hj
  · rw [hstatus] at honline
    obtain ⟨j, hj⟩ := h.down honline
    rw [hsockets]
    by_cases hji : j = i
    · refine ⟨i, ?_⟩
      rw [Function.update_self]
      exact hdown (hji ▸ hj)
    · refine ⟨j, ?_⟩
      rw [Function.update_of_ne hji]
      exact hj

lemma open_of_openSession {r : DriverSession} (h : s.openSession = some r) :
    r ∈ s.sessions ∧ r.endedAt = none := by
  obtain ⟨hmem, hopen⟩ := List.mem_filter.mp (List.argmax_mem h)
  exact ⟨hmem, Option.isNone_iff_eq_none.mp hopen⟩

lemma closed_of_openSession (h : s.openSession = none) :
    ∀ r ∈ s.sessions, r.endedAt ≠ none := by
  intro r hr hopen
  rw [Presence.openSession, List.argmax_eq_none] at h
  have hmem : r ∈ s.sessions.filter fun r => r.endedAt.isNone :=
    List.mem_filter.mpr ⟨hr, Option.isNone_iff_eq_none.mpr hopen⟩
  rw [h] at hmem
  cases hmem

lemma Kept.connect (h : Kept s) (hi : s.sockets i = .absent) : Kept (s.setPhase i .accepted) := by
  refine ⟨?_, h.flag.setPhase rfl rfl (fun hup => hup.elim) ?_⟩
  · rw [ledger_setPhase_of_eq (by rw [hi]; rfl) (by rw [hi]; rfl)]
    exact h.ledger
  · rw [hi]
    rintro (hup | ⟨a, ha⟩)
    · exact hup.elim
    · cases ha

lemma Kept.goOnline (h : Kept s) (hi : s.sockets i = .accepted)
    (hfree : s.fatigueStatus.1 = false) : Kept (goOnline s i) := by
  have heq : Drivers.goOnline s i = Presence.setPhase { s with status := .online } i .online := by
    rw [Drivers.goOnline, hfree, if_neg Bool.false_ne_true]
  rw [heq]
  refine ⟨?_, nofun, fun _ _ => rfl, fun _ => ⟨i, .inl ?_⟩⟩
  · rw [ledger_setPhase_of_eq (s := { s with status := .online }) (by rw [hi]; rfl)
      (by rw [hi]; rfl)]
    exact h.ledger
  · rw [setPhase_self]
    trivial

lemma Kept.start (h : Kept s) (hi : s.sockets i = .online)
    (hidle : ∀ j, (s.sockets j).write = none) : Kept (recordSessionStart s i) := by
  have hup : (s.sockets i).Up := by rw [hi]; trivial
  rw [recordSessionStart]
  split
  · rename_i r hr
    obtain ⟨hmem, hopen⟩ := open_of_openSession hr
    refine ⟨?_, h.flag.setPhase rfl rfl (fun _ => hup) fun _ => .inl trivial⟩
    have hjoin := h.ledger.join (i := i) hmem hopen hidle (by rw [ledger_since, hi]; rfl)
    rw [ledger_setPhase, show (Phase.connected s.clock).write = s.ledger.write i from
      (hidle i).symm, Function.update_eq_self]
    exact hjoin
  · rename_i hnone
    refine ⟨?_, h.flag.setPhase rfl rfl (fun _ => hup) fun _ => .inl trivial⟩
    have hfound := h.ledger.found_none (i := i) (closed_of_openSession hnone) hidle
    rw [ledger_setPhase, show (Phase.creating s.clock).since = s.ledger.since i by
      rw [ledger_since, hi]; rfl, Function.update_eq_self]
    exact hfound

lemma Kept.create (h : Kept s) (hi : s.sockets i = .creating now) :
    Kept (createSession s i now) := by
  have hup : (s.sockets i).Up := by rw [hi]; trivial
  refine ⟨?_, h.flag.setPhase rfl rfl (fun _ => hup) fun _ => .inl trivial⟩
  rw [createSession, ledger_setPhase]
  exact h.ledger.create (i := i) (by rw [ledger_write, hi]; rfl)

lemma Kept.disconnect (h : Kept s) (hi : s.sockets i = .connected since) :
    Kept (s.setPhase i (.leaving since)) := by
  refine ⟨?_, h.flag.setPhase rfl rfl (fun hup => hup.elim) fun _ => .inr ⟨since, rfl⟩⟩
  rw [ledger_setPhase_of_eq (by rw [hi]; rfl) (by rw [hi]; rfl)]
  exact h.ledger

lemma Kept.goOff (h : Kept s) (hi : s.sockets i = .leaving since)
    (halone : ∀ j, ¬ (s.sockets j).Up) : Kept (goOff s i since) := by
  have hstatus : (Drivers.goOff s i since).status = .off := if_neg h.flag.notBlocked
  refine ⟨?_, by rw [hstatus]; nofun, fun j hj => ?_, fun honline => ?_⟩
  · rw [Drivers.goOff, ledger_setPhase_of_eq (by rw [hi]; rfl) (by rw [hi]; rfl)]
    exact h.ledger
  · by_cases hji : j = i
    · rw [hji, Drivers.goOff, setPhase_self] at hj
      exact hj.elim
    · rw [Drivers.goOff, setPhase_of_ne hji] at hj
      exact absurd hj (halone j)
  · rw [hstatus] at honline
    cases honline

lemma Kept.finish (h : Kept s) (hi : s.sockets i = .off since) :
    Kept (recordSessionEnd s i since) := by
  have hcount : s.ledger.since i = some since := by rw [ledger_since, hi]; rfl
  have hgone : ¬ ((s.sockets i).Up ∨ ∃ a, s.sockets i = .leaving a) := by
    rw [hi]
    rintro (hup | ⟨a, ha⟩)
    · exact hup
    · cases ha
  obtain ⟨-, init, r₀, hsplit, hopen₀, -⟩ := h.ledger.counting i since hcount
  have hmem₀ : r₀ ∈ s.sessions := by
    show r₀ ∈ s.ledger.sessions
    rw [hsplit]
    simp
  rw [recordSessionEnd]
  split
  · rename_i r hr
    obtain ⟨hmem, hopen⟩ := open_of_openSession hr
    refine ⟨?_, h.flag.setPhase rfl rfl (fun hup => hup.elim) fun hthere => absurd hthere hgone⟩
    rw [ledger_setPhase]
    exact h.ledger.leave hmem hopen hcount (by rw [ledger_write, hi]; rfl)
  · rename_i hnone
    exact absurd hopen₀ (closed_of_openSession hnone r₀ hmem₀)

lemma Kept.close {session : ℕ} (h : Kept s) (hi : s.sockets i = .closing session now)
    (halone : ∀ j, (s.sockets j).since = none)
    (hlater : ∀ r ∈ s.sessions, r.id = session → ∀ e ∈ r.endedAt, e ≤ now) :
    Kept (closeSession s i session now) := by
  have hgone : ¬ ((s.sockets i).Up ∨ ∃ a, s.sockets i = .leaving a) := by
    rw [hi]
    rintro (hup | ⟨a, ha⟩)
    · exact hup
    · cases ha
  refine ⟨?_, h.flag.setPhase rfl rfl (fun hup => hup.elim) fun hthere => absurd hthere hgone⟩
  have hclose := h.ledger.close (i := i) (by rw [ledger_write, hi]; rfl) halone hlater
  rw [closeSession, ledger_setPhase, show Phase.absent.since = s.ledger.since i from
    (halone i).symm]
  show Ledger.Kept { s.ledger with
    sessions := _
    since := Function.update s.ledger.since i (s.ledger.since i)
    write := _ }
  rw [Function.update_eq_self]
  exact hclose

lemma kept_step (s : Presence) (a : Act) (hcareful : Careful s a) (h : Kept s) :
    Kept (step s a) := by
  cases a with
  | tick d => exact ⟨h.ledger.tick d, h.flag.notBlocked, h.flag.up, h.flag.down⟩
  | lockOut t => exact ⟨h.ledger, h.flag.notBlocked, h.flag.up, h.flag.down⟩
  | connect i =>
      rw [step]
      split
      · rename_i hi
        exact h.connect hi
      · exact h
  | goOnline i =>
      rw [step]
      split
      · rename_i hi
        exact h.goOnline hi (hcareful hi)
      · exact h
  | start i =>
      rw [step]
      split
      · rename_i hi
        exact h.start hi (hcareful hi)
      · exact h
  | create i =>
      rw [step]
      split
      · rename_i now hi
        exact h.create hi
      · exact h
  | disconnect i =>
      rw [step]
      split
      · rename_i since hi
        exact h.disconnect hi
      · exact h
  | goOff i =>
      rw [step]
      split
      · rename_i since hi
        exact h.goOff hi (hcareful since hi)
      · exact h
  | finish i =>
      rw [step]
      split
      · rename_i since hi
        exact h.finish hi
      · exact h
  | close i =>
      rw [step]
      split
      · rename_i session now hi
        exact h.close hi (hcareful session now hi).1 (hcareful session now hi).2
      · exact h

end Steps

/-! ## Quiet states -/

section Laws

variable {s : Presence} {r : DriverSession} {m : ℤ}

lemma Kept.onlineLaw (h : Kept s) (hquiet : Quiet s) : OnlineLaw s := by
  constructor
  · intro honline
    obtain ⟨i, hi⟩ := h.flag.down honline
    have hidle := hquiet i
    cases hphase : s.sockets i with
    | connected since => exact ⟨i, since, hphase⟩
    | absent =>
        rw [hphase] at hi
        rcases hi with hup | ⟨a, ha⟩
        · exact hup.elim
        · cases ha
    | _ =>
        rw [hphase] at hidle
        exact hidle.elim
  · rintro ⟨i, since, hi⟩
    exact h.flag.up i (by rw [hi]; trivial)

def Presence.spanOf (s : Presence) (r : DriverSession) : Span :=
  ⟨r.startedAt, r.endedAt.getD s.clock⟩

lemma Quiet.write (hquiet : Quiet s) (i : ℕ) : s.ledger.write i = none := by
  have hidle := hquiet i
  rw [ledger_write]
  cases hphase : s.sockets i with
  | absent => rfl
  | connected since => rfl
  | _ =>
      rw [hphase] at hidle
      exact hidle.elim

lemma Kept.runs_iff (h : Kept s) (hquiet : Quiet s) (hr : r ∈ s.sessions) (hm : m < s.clock) :
    s.ledger.Runs r m ↔ m < r.endedAt.getD s.clock := by
  constructor
  · rintro (⟨hopen, -⟩ | ⟨e, he, hlt⟩ | ⟨i, now, hw, -⟩)
    · rw [hopen]
      exact hm
    · rw [Option.mem_def] at he
      rw [he]
      exact hlt
    · rw [hquiet.write i] at hw
      cases hw
  · intro hlt
    cases hend : r.endedAt with
    | none =>
        rcases h.ledger.running r hr hend with hcount | ⟨i, now, hw⟩
        · exact .inl ⟨hend, hcount⟩
        · rw [hquiet.write i] at hw
          cases hw
    | some e =>
        rw [hend] at hlt
        exact .inr (.inl ⟨e, hend, hlt⟩)

/-- In a quiet state the sessions cover the moments at which a socket was connected. -/
lemma Kept.connectedMoments_eq (h : Kept s) (hquiet : Quiet s) :
    s.connectedMoments = Span.covered s.windowStart s.clock (s.sessions.map s.spanOf) := by
  classical
  refine Finset.ext fun m => ?_
  rw [Presence.connectedMoments, Span.covered, Finset.mem_filter, Finset.mem_filter]
  refine and_congr_right fun hm => ?_
  have hlt := (Span.mem_moments.mp hm).2
  rw [h.ledger.cover m hlt]
  constructor
  · rintro ⟨r, hr, hstart, hruns⟩
    exact ⟨s.spanOf r, List.mem_map_of_mem hr, hstart, (h.runs_iff hquiet hr hlt).mp hruns⟩
  · rintro ⟨p, hp, hstart, hstop⟩
    obtain ⟨r, hr, rfl⟩ := List.mem_map.mp hp
    exact ⟨r, hr, hstart, (h.runs_iff hquiet hr hlt).mpr hstop⟩

lemma Kept.inOrder (h : Kept s) : Span.InOrder (s.sessions.map s.spanOf) := by
  rw [Span.InOrder, List.pairwise_map]
  refine h.ledger.order.imp fun {r r'} hrr => ?_
  obtain ⟨e, he, hle⟩ := hrr
  rw [Option.mem_def] at he
  show r.endedAt.getD s.clock ≤ r'.startedAt
  rw [he]
  exact hle

lemma sum_map_filter {l : List DriverSession} {c : DriverSession → Bool} {f g : DriverSession → ℕ}
    (hfg : ∀ r ∈ l, (if c r then f r else 0) = g r) :
    ((l.filter c).map f).sum = (l.map g).sum := by
  induction l with
  | nil => rfl
  | cons r l ih =>
      have hr := hfg r (List.mem_cons_self ..)
      have hl := ih fun x hx => hfg x (List.mem_cons_of_mem r hx)
      rw [List.map_cons, List.sum_cons, ← hl, ← hr]
      cases hc : c r with
      | true =>
          rw [List.filter_cons_of_pos hc, List.map_cons, List.sum_cons]
          rfl
      | false =>
          rw [List.filter_cons_of_neg (by rw [hc]; exact Bool.false_ne_true)]
          exact (Nat.zero_add _).symm

/-- What a session adds is the part of it that lies in the last day, in whole seconds. -/
lemma Kept.seconds_eq (h : Kept s) (hr : r ∈ s.sessions) :
    (if (decide (r.startedAt < s.clock) &&
        (r.endedAt.isNone || decide (s.windowStart < r.endedAt.getD 0))) = true
      then r.seconds s.windowStart s.clock else 0) =
    Span.overlap s.windowStart s.clock (s.spanOf r) / second := by
  obtain ⟨hstart, hend⟩ := h.ledger.times r hr
  have hstart' : r.startedAt ≤ s.clock := hstart
  have hstop : r.endedAt.getD s.clock ≤ s.clock := by
    cases he : r.endedAt with
    | none => exact Int.le_refl _
    | some e => exact (hend e he).2
  have hoverlap : Span.overlap s.windowStart s.clock (s.spanOf r) =
      (r.endedAt.getD s.clock - max r.startedAt s.windowStart).toNat := by
    rw [Span.overlap, Presence.spanOf]
    dsimp only
    rw [min_eq_left hstop]
  have hseconds : r.seconds s.windowStart s.clock =
      Span.overlap s.windowStart s.clock (s.spanOf r) / second := by
    rw [hoverlap, DriverSession.seconds]
    split
    · rename_i hle
      rw [Int.toNat_of_nonpos (by omega), Nat.zero_div]
    · rfl
  split
  · exact hseconds
  · rename_i hskip
    -- a session that is skipped has no part in the last day
    rw [hoverlap, Int.toNat_of_nonpos, Nat.zero_div]
    simp only [Bool.and_eq_true, Bool.or_eq_true, decide_eq_true_eq, not_and_or, not_or] at hskip
    rcases hskip with hlate | ⟨hclosed, hearly⟩
    · omega
    · cases he : r.endedAt with
      | none =>
          rw [he] at hclosed
          exact absurd rfl hclosed
      | some e =>
          rw [he] at hearly
          have hle : e ≤ s.windowStart := not_lt.mp hearly
          show e - max r.startedAt s.windowStart ≤ 0
          omega

lemma Kept.countLaw (h : Kept s) (hquiet : Quiet s) : CountLaw s := by
  have hactive : s.activeSeconds =
      ((s.sessions.map fun r => Span.overlap s.windowStart s.clock (s.spanOf r)).map
        (· / second)).sum := by
    rw [Presence.activeSeconds, List.map_map]
    exact sum_map_filter fun r hr => h.seconds_eq hr
  have hcard : s.connectedMoments.card =
      (s.sessions.map fun r => Span.overlap s.windowStart s.clock (s.spanOf r)).sum := by
    rw [h.connectedMoments_eq hquiet, Span.card_covered h.inOrder, List.map_map]
    rfl
  have hbounds := Span.sum_div_bounds (u := second) (by decide)
    (s.sessions.map fun r => Span.overlap s.windowStart s.clock (s.spanOf r))
  rw [← hactive, ← hcard, List.length_map] at hbounds
  exact hbounds

/-- Nothing is kept wrong at the start. -/
lemma kept_opening : Kept Presence.opening := by
  refine ⟨⟨List.nodup_nil, nofun, List.Pairwise.nil, nofun, nofun, nofun, nofun, nofun, nofun,
    fun m _ => ?_⟩, nofun, nofun, nofun⟩
  constructor
  · rintro (⟨p, hp, -⟩ | ⟨i, a, hi, -⟩)
    · cases hp
    · cases hi
  · rintro ⟨r, hr, -⟩
    cases hr

/-- In every careful run, whenever no handler is at work the driver is online exactly when a
socket is connected, and the active seconds are the connected time of the last day within a second
for each session. -/
theorem laws_of_careful (as : List Act)
    (hcareful : Transition.Guarded step Careful Presence.opening as) (bs : List Act)
    (hbs : bs <+: as) (hquiet : Quiet (Transition.run step Presence.opening bs)) :
    OnlineLaw (Transition.run step Presence.opening bs) ∧
      CountLaw (Transition.run step Presence.opening bs) := by
  have hkept := Transition.invariant_of_guarded (I := Kept) kept_step kept_opening
    (hcareful.of_prefix hbs)
  exact ⟨hkept.onlineLaw hquiet, hkept.countLaw hquiet⟩

end Laws

/-! ### A reconnect before the old socket is reported closed -/

/-- The socket of a step. -/
def Act.socket : Act → Option ℕ
  | tick _ => none
  | lockOut _ => none
  | connect i => some i
  | goOnline i => some i
  | start i => some i
  | create i => some i
  | disconnect i => some i
  | goOff i => some i
  | finish i => some i
  | close i => some i

section Frame

variable {s : Presence} {a : Act} {i j : ℕ}

lemma ne_of_socket (h : some i ≠ some j) : j ≠ i := fun heq => h (congrArg some heq.symm)

lemma step_sockets_of_ne (h : a.socket ≠ some j) : (step s a).sockets j = s.sockets j := by
  cases a with
  | tick d => rfl
  | lockOut t => rfl
  | connect i =>
      rw [step]
      split
      · exact setPhase_of_ne (ne_of_socket h)
      · rfl
  | goOnline i =>
      rw [step]
      split
      · rw [goOnline]
        split <;> exact setPhase_of_ne (ne_of_socket h)
      · rfl
  | start i =>
      rw [step]
      split
      · rw [recordSessionStart]
        split <;> exact setPhase_of_ne (ne_of_socket h)
      · rfl
  | create i =>
      rw [step]
      split
      · exact setPhase_of_ne (ne_of_socket h)
      · rfl
  | disconnect i =>
      rw [step]
      split
      · exact setPhase_of_ne (ne_of_socket h)
      · rfl
  | goOff i =>
      rw [step]
      split
      · exact setPhase_of_ne (ne_of_socket h)
      · rfl
  | finish i =>
      rw [step]
      split
      · rw [recordSessionEnd]
        split <;> exact setPhase_of_ne (ne_of_socket h)
      · rfl
  | close i =>
      rw [step]
      split
      · exact setPhase_of_ne (ne_of_socket h)
      · rfl

lemma run_sockets_of_ne {as : List Act} (h : ∀ a ∈ as, a.socket ≠ some j) :
    (Transition.run step s as).sockets j = s.sockets j := by
  induction as generalizing s with
  | nil => rfl
  | cons a as ih =>
      rw [Transition.run_cons, ih fun b hb => h b (List.mem_cons_of_mem a hb)]
      exact step_sockets_of_ne (h a (List.mem_cons_self ..))

end Frame

def connectSteps (i : ℕ) : List Act := [.connect i, .goOnline i, .start i, .create i]

def disconnectSteps (i : ℕ) : List Act := [.disconnect i, .goOff i, .finish i, .close i]

lemma absent_of_run {as : List Act} {j : ℕ} (h : ∀ a ∈ as, a.socket ≠ some j) :
    (Transition.run step Presence.opening as).sockets j = .absent :=
  run_sockets_of_ne h

def oneSocket : List Act := connectSteps 1 ++ [.tick 3600000000] ++ disconnectSteps 1

lemma careful_oneSocket : Transition.Guarded step Careful Presence.opening oneSocket := by
  have hother : ∀ (n j : ℕ), j ≠ 1 →
      (Transition.run step Presence.opening (oneSocket.take n)).sockets j = .absent := by
    intro n j hj
    have hall : ∀ a ∈ oneSocket, a.socket ≠ some j := by
      simp [oneSocket, connectSteps, disconnectSteps, Act.socket, Ne.symm hj]
    exact absent_of_run fun a ha => hall a (List.mem_of_mem_take ha)
  refine ⟨trivial, fun _ => by decide +kernel, fun _ j => ?_, trivial, trivial, trivial,
    fun since _ j => ?_, trivial, fun session now _ => ⟨fun j => ?_, fun r hr => ?_⟩, trivial⟩
  · show ((Transition.run step Presence.opening (oneSocket.take 2)).sockets j).write = none
    by_cases hj : j = 1
    · rw [hj]
      decide +kernel
    · rw [hother 2 j hj]
      rfl
  · show ¬ ((Transition.run step Presence.opening (oneSocket.take 6)).sockets j).Up
    by_cases hj : j = 1
    · rw [hj, show (Transition.run step Presence.opening (oneSocket.take 6)).sockets 1 =
        .leaving 0 by decide +kernel]
      exact id
    · rw [hother 6 j hj]
      exact id
  · show ((Transition.run step Presence.opening (oneSocket.take 8)).sockets j).since = none
    by_cases hj : j = 1
    · rw [hj]
      decide +kernel
    · rw [hother 8 j hj]
      rfl
  · have hrows : (Transition.run step Presence.opening (oneSocket.take 8)).sessions =
        [⟨1, 0, none⟩] := by decide +kernel
    have hr' : r ∈ (Transition.run step Presence.opening (oneSocket.take 8)).sessions := hr
    rw [hrows, List.mem_singleton] at hr'
    rw [hr']
    exact fun _ => nofun

/-- After an hour on one socket the driver is off, and an hour is counted. -/
theorem laws_oneSocket :
    OnlineLaw (Transition.run step Presence.opening oneSocket) ∧
      CountLaw (Transition.run step Presence.opening oneSocket) := by
  refine laws_of_careful oneSocket careful_oneSocket oneSocket (List.prefix_refl _) fun i => ?_
  by_cases hi : i = 1
  · rw [hi, show (Transition.run step Presence.opening oneSocket).sockets 1 = .absent by
      decide +kernel]
    trivial
  · rw [absent_of_run]
    · trivial
    · simp [oneSocket, connectSteps, disconnectSteps, Act.socket, Ne.symm hi]

/-- The second socket is connected when the first is closed, and stays for an hour. -/
def reconnect : List Act :=
  connectSteps 1 ++ [.tick 1000000] ++ connectSteps 2 ++ [.tick 1000000] ++ disconnectSteps 1 ++
    [.tick 3600000000]

/-- The driver is connected and off, and the hour is not counted. -/
theorem not_laws_reconnect :
    Quiet (Transition.run step Presence.opening reconnect) ∧
      ¬ OnlineLaw (Transition.run step Presence.opening reconnect) ∧
      ¬ CountLaw (Transition.run step Presence.opening reconnect) := by
  have hsecond : (Transition.run step Presence.opening reconnect).sockets 2 =
      .connected 1000000 := by decide +kernel
  refine ⟨fun i => ?_, fun honline => ?_, fun hcount => ?_⟩
  · by_cases hi : i = 1
    · rw [hi, show (Transition.run step Presence.opening reconnect).sockets 1 = .absent by
        decide +kernel]
      trivial
    · by_cases hi' : i = 2
      · rw [hi', hsecond]
        trivial
      · rw [absent_of_run]
        · trivial
        · simp [reconnect, connectSteps, disconnectSteps, Act.socket, Ne.symm hi, Ne.symm hi']
  · have hoff : (Transition.run step Presence.opening reconnect).status = .off := by
      decide +kernel
    rw [OnlineLaw, hoff] at honline
    cases honline.mpr ⟨2, _, hsecond⟩
  · have hclock : (Transition.run step Presence.opening reconnect).clock = 3602000000 := by
      decide +kernel
    have hactive : (Transition.run step Presence.opening reconnect).activeSeconds = 2 := by
      decide +kernel
    have hrows : (Transition.run step Presence.opening reconnect).sessions.length = 1 := by
      decide +kernel
    have hsub : Span.moments 1000000 3602000000 ⊆
        (Transition.run step Presence.opening reconnect).connectedMoments := by
      classical
      intro m hm
      obtain ⟨hlo, hhi⟩ := Span.mem_moments.mp hm
      refine Finset.mem_filter.mpr ⟨Span.mem_moments.mpr ⟨?_, by omega⟩, .inr ⟨2, 1000000, ?_, hlo⟩⟩
      · rw [Presence.windowStart, hclock, fatigueWindowSeconds, second]
        omega
      · rw [ledger_since, hsecond]
        rfl
    have hle := (Finset.card_le_card hsub).trans hcount.2
    rw [Span.card_moments, hactive, hrows, second] at hle
    omega

end SaaradhiGo.Drivers
