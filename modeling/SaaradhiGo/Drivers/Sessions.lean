/-
The sessions of a driver along a run.

What the sessions depend on is a ledger: the clock, the rows, the times of the sockets that are
gone, since when each socket counts, and the writes of rows that are outstanding.  A ledger is
kept when the rows come one after the other and cover the moments at which a socket counted, up
to the writes that are outstanding.
-/
import SaaradhiGo.Drivers.Presence
import Mathlib.Data.List.Pairwise

namespace SaaradhiGo.Drivers

/-- Since when a socket counts, until the disconnect handler has read the clock. -/
def Phase.since : Phase → Option ℤ
  | connected since => some since
  | leaving since => some since
  | off since => some since
  | _ => none

/-- The write of a session that a handler has still to make: a new one, or the end of one. -/
def Phase.write : Phase → Option (Option ℕ × ℤ)
  | creating now => some (none, now)
  | closing session now => some (some session, now)
  | _ => none

/-- What the sessions depend on. -/
structure Ledger where
  clock : ℤ
  sessions : List DriverSession
  nextSession : ℕ
  served : List Span
  since : ℕ → Option ℤ
  write : ℕ → Option (Option ℕ × ℤ)

/-- The ledger of a driver. -/
def Presence.ledger (s : Presence) : Ledger :=
  ⟨s.clock, s.sessions, s.nextSession, s.served, fun i => (s.sockets i).since,
    fun i => (s.sockets i).write⟩

/-- A socket counted at the moment. -/
def Ledger.Counted (l : Ledger) (m : ℤ) : Prop :=
  (∃ p ∈ l.served, p.Contains m) ∨ ∃ i a, l.since i = some a ∧ a ≤ m

/-- The session has not ended by the moment, or a write will move its end behind it. -/
def Ledger.Runs (l : Ledger) (r : DriverSession) (m : ℤ) : Prop :=
  (r.endedAt = none ∧ ∃ i a, l.since i = some a) ∨ (∃ e ∈ r.endedAt, m < e) ∨
    ∃ i now, l.write i = some (some r.id, now) ∧ m < now

/-- The rows come one after the other and cover the moments at which a socket counted. -/
structure Ledger.Kept (l : Ledger) : Prop where
  ids : (l.sessions.map (·.id)).Nodup
  fresh : ∀ r ∈ l.sessions, r.id < l.nextSession
  order : l.sessions.Pairwise fun r r' => ∃ e ∈ r.endedAt, e ≤ r'.startedAt
  times : ∀ r ∈ l.sessions,
    r.startedAt ≤ l.clock ∧ ∀ e ∈ r.endedAt, r.startedAt ≤ e ∧ e ≤ l.clock
  past : ∀ p ∈ l.served, p.stop ≤ l.clock
  creating : ∀ i now, l.write i = some (none, now) → now ≤ l.clock ∧
    (∀ r ∈ l.sessions, ∃ e ∈ r.endedAt, e ≤ now) ∧ (∀ j, l.since j = none) ∧
      ∀ j, j ≠ i → l.write j = none
  closing : ∀ i session now, l.write i = some (some session, now) → now ≤ l.clock ∧
    ∃ init r, l.sessions = init ++ [r] ∧ r.id = session ∧ r.startedAt ≤ now
  counting : ∀ i a, l.since i = some a → a ≤ l.clock ∧
    ∃ init r, l.sessions = init ++ [r] ∧ r.endedAt = none ∧ r.startedAt ≤ a
  running : ∀ r ∈ l.sessions, r.endedAt = none →
    (∃ i a, l.since i = some a) ∨ ∃ i now, l.write i = some (some r.id, now)
  cover : ∀ m, m < l.clock → (l.Counted m ↔ ∃ r ∈ l.sessions, r.startedAt ≤ m ∧ l.Runs r m)

namespace Ledger

variable {l : Ledger} {r : DriverSession} {i : ℕ} {now a m : ℤ}

lemma Kept.last_of_open (h : l.Kept) (hr : r ∈ l.sessions) (hopen : r.endedAt = none) :
    ∃ init, l.sessions = init ++ [r] := by
  obtain ⟨init, rest, hsplit⟩ := List.append_of_mem hr
  cases rest with
  | nil => exact ⟨init, hsplit⟩
  | cons x rest =>
      have horder := h.order
      rw [hsplit, List.pairwise_append] at horder
      obtain ⟨e, he, -⟩ := (List.pairwise_cons.mp horder.2.1).1 x (List.mem_cons_self ..)
      rw [hopen] at he
      cases he

lemma Kept.ended_of_init (h : l.Kept) {init : List DriverSession} (hsplit : l.sessions = init ++ [r])
    {x : DriverSession} (hx : x ∈ init) : ∃ e ∈ x.endedAt, e ≤ r.startedAt := by
  have horder := h.order
  rw [hsplit, List.pairwise_append] at horder
  exact horder.2.2 x hx r (List.mem_singleton_self r)

lemma Kept.id_ne_of_init (h : l.Kept) {init : List DriverSession} (hsplit : l.sessions = init ++ [r])
    {x : DriverSession} (hx : x ∈ init) : x.id ≠ r.id := by
  have hids := h.ids
  rw [hsplit, List.map_append, List.nodup_append] at hids
  exact hids.2.2 x.id (List.mem_map_of_mem hx) r.id (List.mem_singleton_self _)

lemma Kept.tick (h : l.Kept) (d : ℕ) : Kept { l with clock := l.clock + d } := by
  refine ⟨h.ids, h.fresh, h.order, fun r hr => ?_, fun p hp => ?_, fun i now hw => ?_,
    fun i session now hw => ?_, fun i a hi => ?_, h.running, fun m hm => ?_⟩
  · obtain ⟨hstart, hend⟩ := h.times r hr
    refine ⟨?_, fun e he => ⟨(hend e he).1, ?_⟩⟩
    · show r.startedAt ≤ l.clock + d
      omega
    · have hle := (hend e he).2
      show e ≤ l.clock + d
      omega
  · have hle := h.past p hp
    show p.stop ≤ l.clock + d
    omega
  · obtain ⟨hle, hrest⟩ := h.creating i now hw
    refine ⟨?_, hrest⟩
    show now ≤ l.clock + d
    omega
  · obtain ⟨hle, hrest⟩ := h.closing i session now hw
    refine ⟨?_, hrest⟩
    show now ≤ l.clock + d
    omega
  · obtain ⟨hle, hrest⟩ := h.counting i a hi
    refine ⟨?_, hrest⟩
    show a ≤ l.clock + d
    omega
  · show l.Counted m ↔ ∃ r ∈ l.sessions, r.startedAt ≤ m ∧ l.Runs r m
    by_cases hlt : m < l.clock
    · exact h.cover m hlt
    · -- only what still counts or runs reaches the later moments
      constructor
      · rintro (⟨p, hp, -, hstop⟩ | ⟨i, a, hi, -⟩)
        · have hle := h.past p hp
          omega
        · obtain ⟨hle, init, r, hsplit, hopen, hstart⟩ := h.counting i a hi
          refine ⟨r, by rw [hsplit]; simp, by omega, .inl ⟨hopen, i, a, hi⟩⟩
      · rintro ⟨r, hr, -, ⟨-, i, a, hi⟩ | ⟨e, he, hend⟩ | ⟨i, now, hw, hnow⟩⟩
        · have hle := (h.counting i a hi).1
          exact .inr ⟨i, a, hi, by omega⟩
        · have hle := ((h.times r hr).2 e he).2
          omega
        · have hle := (h.closing i r.id now hw).1
          omega

lemma Kept.join (h : l.Kept) (hr : r ∈ l.sessions) (hopen : r.endedAt = none)
    (hidle : ∀ j, l.write j = none) (hi : l.since i = none) :
    Kept { l with since := Function.update l.since i (some l.clock) } := by
  obtain ⟨init, hsplit⟩ := h.last_of_open hr hopen
  have hcount : ∃ j a, l.since j = some a := by
    rcases h.running r hr hopen with hcount | ⟨j, now, hw⟩
    · exact hcount
    · rw [hidle j] at hw
      cases hw
  have hcount' : ∃ j a, Function.update l.since i (some l.clock) j = some a :=
    ⟨i, l.clock, Function.update_self ..⟩
  refine ⟨h.ids, h.fresh, h.order, h.times, h.past, fun j now hw => ?_, h.closing,
    fun j a hj => ?_, fun x hx hopen => .inl hcount', fun m hm => ?_⟩
  · have hw' : l.write j = some (none, now) := hw
    rw [hidle j] at hw'
    cases hw'
  · have hj' : Function.update l.since i (some l.clock) j = some a := hj
    by_cases hji : j = i
    · rw [hji, Function.update_self] at hj'
      cases hj'
      exact ⟨Int.le_refl _, init, r, hsplit, hopen, (h.times r hr).1⟩
    · rw [Function.update_of_ne hji] at hj'
      exact h.counting j a hj'
  · have hcounted : Counted { l with since := Function.update l.since i (some l.clock) } m ↔
        l.Counted m := by
      refine or_congr_right ⟨?_, ?_⟩
      · rintro ⟨j, a, hj, hle⟩
        have hj' : Function.update l.since i (some l.clock) j = some a := hj
        by_cases hji : j = i
        · rw [hji, Function.update_self] at hj'
          cases hj'
          have hlt : m < l.clock := hm
          omega
        · rw [Function.update_of_ne hji] at hj'
          exact ⟨j, a, hj', hle⟩
      · rintro ⟨j, a, hj, hle⟩
        have hji : j ≠ i := by
          rintro rfl
          rw [hi] at hj
          cases hj
        exact ⟨j, a, (Function.update_of_ne hji ..).trans hj, hle⟩
    rw [hcounted, h.cover m hm]
    refine exists_congr fun x => and_congr_right fun _ => and_congr_right fun _ => ?_
    refine or_congr_left (and_congr_right fun _ => iff_of_true hcount hcount')

lemma Kept.found_none (h : l.Kept) (hclosed : ∀ r ∈ l.sessions, r.endedAt ≠ none)
    (hidle : ∀ j, l.write j = none) :
    Kept { l with write := Function.update l.write i (some (none, l.clock)) } := by
  have hwrite : ∀ j session now,
      Function.update l.write i (some (none, l.clock)) j ≠ some (some session, now) := by
    intro j session now hw
    by_cases hji : j = i
    · rw [hji, Function.update_self] at hw
      cases hw
    · rw [Function.update_of_ne hji, hidle j] at hw
      cases hw
  have hnone : ∀ j, l.since j = none := by
    intro j
    cases hj : l.since j with
    | none => rfl
    | some a =>
        obtain ⟨-, init, r, hsplit, hopen, -⟩ := h.counting j a hj
        exact absurd hopen (hclosed r (by rw [hsplit]; simp))
  refine ⟨h.ids, h.fresh, h.order, h.times, h.past, fun j now hw => ?_,
    fun j session now hw => absurd hw (hwrite j session now), h.counting,
    fun r hr hopen => absurd hopen (hclosed r hr), fun m hm => ?_⟩
  · have hw' : Function.update l.write i (some (none, l.clock)) j = some (none, now) := hw
    by_cases hji : j = i
    · rw [hji, Function.update_self] at hw'
      cases hw'
      refine ⟨Int.le_refl _, fun r hr => ?_, hnone, fun k hk => ?_⟩
      · obtain ⟨e, he⟩ := Option.ne_none_iff_exists'.mp (hclosed r hr)
        exact ⟨e, he, ((h.times r hr).2 e he).2⟩
      · rw [← hidle k]
        exact Function.update_of_ne (hji ▸ hk) ..
    · rw [Function.update_of_ne hji, hidle j] at hw'
      cases hw'
  · refine (h.cover m hm).trans ?_
    refine exists_congr fun x => and_congr_right fun _ => and_congr_right fun _ => ?_
    refine or_congr_right (or_congr_right ⟨?_, ?_⟩)
    · rintro ⟨j, now, hw, -⟩
      rw [hidle j] at hw
      cases hw
    · rintro ⟨j, now, hw, -⟩
      exact absurd hw (hwrite j x.id now)

lemma Kept.create (h : l.Kept) (hi : l.write i = some (none, now)) :
    Kept { l with
      sessions := l.sessions ++ [⟨l.nextSession, now, none⟩]
      nextSession := l.nextSession + 1
      since := Function.update l.since i (some now)
      write := Function.update l.write i none } := by
  obtain ⟨hnow, hended, hnone, hidle⟩ := h.creating i now hi
  have hwrite : ∀ j, Function.update l.write i none j = none := by
    intro j
    by_cases hji : j = i
    · rw [hji, Function.update_self]
    · rw [Function.update_of_ne hji, hidle j hji]
  have hsince : ∀ j a, Function.update l.since i (some now) j = some a ↔ j = i ∧ a = now := by
    intro j a
    by_cases hji : j = i
    · rw [hji, Function.update_self, Option.some.injEq]
      exact ⟨fun heq => ⟨rfl, heq.symm⟩, fun heq => heq.2.symm⟩
    · rw [Function.update_of_ne hji, hnone j]
      exact iff_of_false nofun fun heq => hji heq.1
  refine ⟨?_, fun r hr => ?_, ?_, fun r hr => ?_, h.past, fun j b hw => ?_,
    fun j session b hw => ?_, fun j a hj => ?_, fun r hr hopen => ?_, fun m hm => ?_⟩
  · -- the new number is above all that were given out
    rw [List.map_append, List.nodup_append]
    refine ⟨h.ids, List.nodup_singleton _, fun x hx y hy heq => ?_⟩
    obtain ⟨r, hr, rfl⟩ := List.mem_map.mp hx
    rw [List.map_singleton, List.mem_singleton] at hy
    have hlt := h.fresh r hr
    have hyn : y = l.nextSession := hy
    omega
  · show r.id < l.nextSession + 1
    rcases List.mem_append.mp hr with hr | hr
    · exact Nat.lt_succ_of_lt (h.fresh r hr)
    · rw [List.mem_singleton.mp hr]
      exact Nat.lt_succ_self _
  · -- every row before it has ended by now, since none was open
    rw [List.pairwise_append]
    refine ⟨h.order, List.pairwise_singleton .., fun r hr x hx => ?_⟩
    rw [List.mem_singleton.mp hx]
    exact hended r hr
  · rcases List.mem_append.mp hr with hr | hr
    · exact h.times r hr
    · rw [List.mem_singleton.mp hr]
      exact ⟨hnow, nofun⟩
  · -- no other handler has a write left
    exact absurd ((hwrite j).symm.trans hw) nofun
  · exact absurd ((hwrite j).symm.trans hw) nofun
  · obtain ⟨-, rfl⟩ := (hsince j a).mp hj
    exact ⟨hnow, l.sessions, _, rfl, rfl, Int.le_refl _⟩
  · exact .inl ⟨i, now, (hsince i now).mpr ⟨rfl, rfl⟩⟩
  · -- a moment from now on is counted by the new socket, and runs in the new row
    constructor
    · rintro (hpast | ⟨j, a, hj, hle⟩)
      · obtain ⟨r, hr, hstart, hruns⟩ := (h.cover m hm).mp (.inl hpast)
        refine ⟨r, List.mem_append_left _ hr, hstart, ?_⟩
        rcases hruns with ⟨-, j, a, hj⟩ | hend | ⟨j, b, hw, hlt⟩
        · rw [hnone j] at hj
          cases hj
        · exact .inr (.inl hend)
        · by_cases hji : j = i
          · rw [hji, hi] at hw
            cases hw
          · rw [hidle j hji] at hw
            cases hw
      · obtain ⟨-, rfl⟩ := (hsince j a).mp hj
        exact ⟨_, List.mem_append_right _ (List.mem_singleton_self _), hle, .inl ⟨rfl, j, a, hj⟩⟩
    · rintro ⟨r, hr, hstart, hruns⟩
      rcases List.mem_append.mp hr with hr | hr
      · obtain ⟨e, he, -⟩ := hended r hr
        rcases hruns with ⟨hopen, -⟩ | hend | ⟨j, b, hw, -⟩
        · rw [hopen] at he
          cases he
        · rcases (h.cover m hm).mpr ⟨r, hr, hstart, .inr (.inl hend)⟩ with hpast | ⟨j, a, hj, -⟩
          · exact .inl hpast
          · rw [hnone j] at hj
            cases hj
        · exact absurd ((hwrite j).symm.trans hw) nofun
      · rw [List.mem_singleton.mp hr] at hstart
        exact .inr ⟨i, now, (hsince i now).mpr ⟨rfl, rfl⟩, hstart⟩

/-- A handler reads the end of a socket. -/
lemma Kept.leave (h : l.Kept) (hr : r ∈ l.sessions) (hopen : r.endedAt = none)
    (hi : l.since i = some a) (hw : l.write i = none) :
    Kept { l with
      served := ⟨a, l.clock⟩ :: l.served
      since := Function.update l.since i none
      write := Function.update l.write i (some (some r.id, l.clock)) } := by
  obtain ⟨init, hsplit⟩ := h.last_of_open hr hopen
  have hstart := (h.times r hr).1
  have hold : ∀ j b, l.write j = some b →
      Function.update l.write i (some (some r.id, l.clock)) j = some b := by
    intro j b hj
    have hji : j ≠ i := by
      rintro rfl
      rw [hw] at hj
      cases hj
    exact (Function.update_of_ne hji ..).trans hj
  have hnew : ∀ j session now,
      Function.update l.write i (some (some r.id, l.clock)) j = some (session, now) →
        (session = some r.id ∧ now = l.clock) ∨ l.write j = some (session, now) := by
    intro j session now hj
    by_cases hji : j = i
    · rw [hji, Function.update_self] at hj
      cases hj
      exact .inl ⟨rfl, rfl⟩
    · rw [Function.update_of_ne hji] at hj
      exact .inr hj
  have hsince : ∀ j b, Function.update l.since i none j = some b ↔ j ≠ i ∧ l.since j = some b := by
    intro j b
    by_cases hji : j = i
    · rw [hji, Function.update_self]
      exact iff_of_false nofun fun heq => heq.1 rfl
    · rw [Function.update_of_ne hji]
      exact (and_iff_right hji).symm
  refine ⟨h.ids, h.fresh, h.order, h.times, fun p hp => ?_, fun j now hj => ?_,
    fun j session now hj => ?_, fun j b hj => ?_, fun x hx hxopen => ?_, fun m hm => ?_⟩
  · rcases List.mem_cons.mp hp with rfl | hp
    · exact Int.le_refl _
    · exact h.past p hp
  · -- somebody is connected, so nobody is about to open a session
    rcases hnew j none now hj with ⟨heq, -⟩ | hj
    · cases heq
    · have hnone := (h.creating j now hj).2.2.1 i
      rw [hi] at hnone
      cases hnone
  · rcases hnew j (some session) now hj with ⟨heq, rfl⟩ | hj
    · cases heq
      exact ⟨Int.le_refl _, init, r, hsplit, rfl, hstart⟩
    · exact h.closing j session now hj
  · exact h.counting j b ((hsince j b).mp hj).2
  · -- the open session is the one that is left
    have hxr : x.id = r.id := by
      rw [hsplit] at hx
      rcases List.mem_append.mp hx with hx | hx
      · obtain ⟨e, he, -⟩ := h.ended_of_init hsplit hx
        rw [hxopen] at he
        cases he
      · rw [List.mem_singleton.mp hx]
    exact .inr ⟨i, l.clock, by rw [hxr]; exact Function.update_self ..⟩
  · -- the time that socket `i` counted is among the served times now
    have hcounted : Counted { l with
        served := ⟨a, l.clock⟩ :: l.served
        since := Function.update l.since i none
        write := Function.update l.write i (some (some r.id, l.clock)) } m ↔ l.Counted m := by
      constructor
      · rintro (⟨p, hp, hpm⟩ | ⟨j, b, hj, hle⟩)
        · rcases List.mem_cons.mp hp with rfl | hp
          · exact .inr ⟨i, a, hi, hpm.1⟩
          · exact .inl ⟨p, hp, hpm⟩
        · exact .inr ⟨j, b, ((hsince j b).mp hj).2, hle⟩
      · rintro (⟨p, hp, hpm⟩ | ⟨j, b, hj, hle⟩)
        · exact .inl ⟨p, List.mem_cons_of_mem _ hp, hpm⟩
        · by_cases hji : j = i
          · rw [hji, hi] at hj
            cases hj
            exact .inl ⟨_, List.mem_cons_self .., hle, hm⟩
          · exact .inr ⟨j, b, (hsince j b).mpr ⟨hji, hj⟩, hle⟩
    rw [hcounted, h.cover m hm]
    refine exists_congr fun x => and_congr_right fun hx => and_congr_right fun _ => ?_
    constructor
    · rintro (⟨hxopen, -⟩ | hend | ⟨j, now, hj, hlt⟩)
      · obtain ⟨init', hsplit'⟩ := h.last_of_open hx hxopen
        have hlast : x = r := by
          rw [hsplit] at hsplit'
          exact (List.singleton_inj.mp (List.append_inj' hsplit' rfl).2).symm
        rw [hlast]
        exact .inr (.inr ⟨i, l.clock, Function.update_self .., hm⟩)
      · exact .inr (.inl hend)
      · exact .inr (.inr ⟨j, now, hold j _ hj, hlt⟩)
    · rintro (⟨hxopen, -⟩ | hend | ⟨j, now, hj, hlt⟩)
      · exact .inl ⟨hxopen, i, a, hi⟩
      · exact .inr (.inl hend)
      · rcases hnew j _ now hj with ⟨heq, -⟩ | hj
        · refine .inl ⟨?_, i, a, hi⟩
          have hlast : x = r := by
            rw [hsplit] at hx
            rcases List.mem_append.mp hx with hx | hx
            · exact absurd (Option.some.inj heq) (h.id_ne_of_init hsplit hx)
            · exact List.mem_singleton.mp hx
          rw [hlast]
          exact hopen
        · exact .inr (.inr ⟨j, now, hj, hlt⟩)

lemma endAt_endedAt (hle : r.startedAt ≤ now) : (r.endAt now).endedAt = some now := by
  rw [DriverSession.endAt]
  split
  · exact congrArg some (by omega)
  · rfl

/-- A handler ends the session when no socket counts any more. -/
lemma Kept.close {session : ℕ} (h : l.Kept) (hi : l.write i = some (some session, now))
    (hnone : ∀ j, l.since j = none)
    (hlater : ∀ r ∈ l.sessions, r.id = session → ∀ e ∈ r.endedAt, e ≤ now) :
    Kept { l with
      sessions := l.sessions.map fun r => if r.id = session then r.endAt now else r
      write := Function.update l.write i none } := by
  obtain ⟨hnow, init, r, hsplit, rfl, hstart⟩ := h.closing i session now hi
  have hrmem : r ∈ l.sessions := by rw [hsplit]; simp
  have hmap : (l.sessions.map fun x => if x.id = r.id then x.endAt now else x) =
      init ++ [r.endAt now] := by
    rw [hsplit, List.map_append, List.map_singleton, if_pos rfl]
    refine congrArg (· ++ [r.endAt now]) ?_
    refine (List.map_congr_left fun x hx => ?_).trans (List.map_id init)
    exact if_neg (h.id_ne_of_init hsplit hx)
  have hended := endAt_endedAt hstart
  have hwrite : ∀ j b, Function.update l.write i none j = some b ↔ j ≠ i ∧ l.write j = some b := by
    intro j b
    by_cases hji : j = i
    · rw [hji, Function.update_self]
      exact iff_of_false nofun fun heq => heq.1 rfl
    · rw [Function.update_of_ne hji]
      exact (and_iff_right hji).symm
  have hinit : ∀ x ∈ init, x ∈ l.sessions := fun x hx => by rw [hsplit]; simp [hx]
  have hrow : ∀ x ∈ init ++ [r.endAt now], x ∈ init ∨ x = r.endAt now := fun x hx =>
    (List.mem_append.mp hx).imp_right List.mem_singleton.mp
  rw [hmap]
  refine ⟨?_, fun x hx => ?_, ?_, fun x hx => ?_, h.past, fun j b hj => ?_,
    fun j session b hj => ?_, fun j b hj => ?_, fun x hx hopen => ?_, fun m hm => ?_⟩
  · -- the numbers and the starts are those of before
    have hids := h.ids
    rw [hsplit, List.map_append] at hids
    rw [List.map_append]
    exact hids
  · rcases hrow x hx with hx | rfl
    · exact h.fresh x (hinit x hx)
    · exact h.fresh r hrmem
  · -- the row that ends was the last one
    have horder := h.order
    rw [hsplit, List.pairwise_append] at horder
    rw [List.pairwise_append]
    refine ⟨horder.1, List.pairwise_singleton .., fun x hx y hy => ?_⟩
    rw [List.mem_singleton.mp hy]
    exact h.ended_of_init hsplit hx
  · rcases hrow x hx with hx | rfl
    · exact h.times x (hinit x hx)
    · refine ⟨(h.times r hrmem).1, fun e he => ?_⟩
      rw [hended] at he
      cases he
      exact ⟨hstart, hnow⟩
  · obtain ⟨hji, hj⟩ := (hwrite j _).mp hj
    have hidle := (h.creating j b hj).2.2.2 i (Ne.symm hji)
    rw [hi] at hidle
    cases hidle
  · -- another handler that ends a session ends this very one
    obtain ⟨hle, init', r', hsplit', hid, hstart'⟩ :=
      h.closing j session b ((hwrite j _).mp hj).2
    rw [hsplit] at hsplit'
    have hlast : r = r' := List.singleton_inj.mp (List.append_inj' hsplit' rfl).2
    exact ⟨hle, init, r.endAt now, rfl, by rw [← hid, ← hlast]; rfl, by
      rw [hlast]
      exact hstart'⟩
  · exact absurd ((hnone j).symm.trans hj) nofun
  · rcases hrow x hx with hx | rfl
    · obtain ⟨e, he, -⟩ := h.ended_of_init hsplit hx
      rw [hopen] at he
      cases he
    · rw [hended] at hopen
      cases hopen
  · -- what the open row covered with this write left to come, the ended row covers
    refine (h.cover m hm).trans ?_
    constructor
    · rintro ⟨x, hx, hxstart, ⟨-, j, b, hj⟩ | ⟨e, he, hlt⟩ | ⟨j, b, hj, hlt⟩⟩
      · rw [hnone j] at hj
        cases hj
      · rw [hsplit] at hx
        rcases List.mem_append.mp hx with hx | hx
        · exact ⟨x, List.mem_append_left _ hx, hxstart, .inr (.inl ⟨e, he, hlt⟩)⟩
        · -- an end that was there already is not after the one written
          rw [List.mem_singleton.mp hx] at hxstart he
          have hle := hlater r hrmem rfl e he
          exact ⟨r.endAt now, List.mem_append_right _ (List.mem_singleton_self _), hxstart,
            .inr (.inl ⟨now, hended, by omega⟩)⟩
      · rw [hsplit] at hx
        rcases List.mem_append.mp hx with hx | hx
        · have hji : j ≠ i := by
            rintro rfl
            rw [hi] at hj
            have hid : r.id = x.id := Option.some.inj (congrArg Prod.fst (Option.some.inj hj))
            exact h.id_ne_of_init hsplit hx hid.symm
          exact ⟨x, List.mem_append_left _ hx, hxstart,
            .inr (.inr ⟨j, b, (hwrite j _).mpr ⟨hji, hj⟩, hlt⟩)⟩
        · rw [List.mem_singleton.mp hx] at hxstart hj
          refine ⟨r.endAt now, List.mem_append_right _ (List.mem_singleton_self _), hxstart, ?_⟩
          by_cases hji : j = i
          · rw [hji, hi] at hj
            cases hj
            exact .inr (.inl ⟨now, hended, hlt⟩)
          · exact .inr (.inr ⟨j, b, (hwrite j _).mpr ⟨hji, hj⟩, hlt⟩)
    · rintro ⟨x, hx, hxstart, ⟨-, j, b, hj⟩ | ⟨e, he, hlt⟩ | ⟨j, b, hj, hlt⟩⟩
      · exact absurd ((hnone j).symm.trans hj) nofun
      · rcases hrow x hx with hx | rfl
        · exact ⟨x, hinit x hx, hxstart, .inr (.inl ⟨e, he, hlt⟩)⟩
        · rw [hended] at he
          cases he
          exact ⟨r, hrmem, hxstart, .inr (.inr ⟨i, now, hi, hlt⟩)⟩
      · have hj' := ((hwrite j _).mp hj).2
        rcases hrow x hx with hx | rfl
        · exact ⟨x, hinit x hx, hxstart, .inr (.inr ⟨j, b, hj', hlt⟩)⟩
        · exact ⟨r, hrmem, hxstart, .inr (.inr ⟨j, b, hj', hlt⟩)⟩

end Ledger

end SaaradhiGo.Drivers
