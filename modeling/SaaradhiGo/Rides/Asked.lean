/-
Who is asked in a search.

A wave chooses whom the record of its search does not have, and records them before it asks.  So a
driver is asked once in a search as long as Redis answers, keeps the record while the search goes
on, and no two waves of the search choose at the same time (`Orderly`).
-/
import SaaradhiGo.Rides.Waves

namespace SaaradhiGo.Dispatch

open SaaradhiGo.Rides (Trip TripStatus)
open Positions Transition

/-! ## Waves and drivers -/

/-- Whom the wave is about to ask. -/
def Wave.todo (v : Wave) : List String :=
  match v.stage with
  | .sending todo => todo
  | _ => []

/-- Whom the wave has chosen, and not recorded yet. -/
def Wave.chosen (v : Wave) : List String :=
  match v.stage with
  | .selected ids => ids
  | .candidates ids => ids
  | _ => []

/-- The wave has read the record of its search, and has not written it. -/
def Wave.choosing (v : Wave) : Bool :=
  match v.stage with
  | .selected _ => true
  | .candidates _ => true
  | _ => false

def asked (offers : List Offer) (epoch : ℕ) : List String :=
  (offers.filter fun o => o.epoch = epoch).map Offer.driver

/-- The drivers that the waves of the search are about to ask. -/
def outstanding (running : List Wave) (epoch : ℕ) : List String :=
  running.flatMap fun v => if v.task.epoch = epoch then v.todo else []

def World.active (w : World) (epoch : ℕ) : Bool :=
  w.tasks.any (fun t => t.epoch = epoch) || w.running.any fun v => v.task.epoch = epoch

/-- Redis answers, the record of a search is kept while the search goes on, and a wave chooses
while no other wave of its search does. -/
def orderly (w : World) : Act → Bool
  | .select i _ answers => answers && (w.running[i]?).all fun v =>
      w.running.all fun u => !(u.choosing && u.task.epoch = v.task.epoch)
  | .record _ answers => answers
  | .expire epoch => !w.active epoch
  | _ => true

/-! ## The loop over whom the geo index finds -/

section Found

variable {already found ids : List String}

lemma mem_notYetAsked_foldl {d : String}
    (h : d ∈ found.foldl
      (fun ids member =>
        match driverOfMember member with
        | none => ids
        | some id => if id ∈ already ∨ id ∈ ids then ids else ids ++ [id])
      ids) : d ∈ ids ∨ d ∉ already := by
  induction found generalizing ids with
  | nil => exact .inl h
  | cons member found ih =>
    rw [List.foldl_cons] at h
    rcases ih h with hids | hnew
    · split at hids
      · exact .inl hids
      · rename_i id hid
        split at hids
        · exact .inl hids
        · rename_i hfree
          rw [not_or] at hfree
          rcases List.mem_append.mp hids with hold | hlast
          · exact .inl hold
          · rw [List.mem_singleton.mp hlast]
            exact .inr hfree.1
    · exact .inr hnew

lemma nodup_notYetAsked_foldl (hids : ids.Nodup) :
    (found.foldl
      (fun ids member =>
        match driverOfMember member with
        | none => ids
        | some id => if id ∈ already ∨ id ∈ ids then ids else ids ++ [id])
      ids).Nodup := by
  induction found generalizing ids with
  | nil => exact hids
  | cons member found ih =>
    rw [List.foldl_cons]
    apply ih
    split
    · exact hids
    · rename_i id hid
      split
      · exact hids
      · rename_i hfree
        rw [not_or] at hfree
        exact List.nodup_append.mpr ⟨hids, List.nodup_singleton id, fun a ha b hb heq => by
          rw [List.mem_singleton.mp hb] at heq
          exact hfree.2 (heq ▸ ha)⟩

lemma notMem_of_mem_notYetAsked {d : String} (h : d ∈ notYetAsked already found) : d ∉ already :=
  (mem_notYetAsked_foldl h).resolve_left (List.not_mem_nil)

lemma nodup_notYetAsked (already found : List String) : (notYetAsked already found).Nodup :=
  nodup_notYetAsked_foldl List.nodup_nil

end Found

/-! ## The record of a search -/

/-- What makes every driver be asked once. -/
structure Once (w : World) : Prop where
  fresh : ∀ o ∈ w.offers, o.epoch < w.plans.length
  known : ∀ e, w.active e = true → ∀ d ∈ asked w.offers e, d ∈ w.generation e
  recorded : ∀ v ∈ w.running, ∀ d ∈ v.todo, d ∈ w.generation v.task.epoch
  once : ∀ e, (asked w.offers e ++ outstanding w.running e).Nodup
  alone : ((w.running.filter Wave.choosing).map fun v => v.task.epoch).Nodup
  chosen : ∀ v ∈ w.running, v.chosen.Nodup ∧ ∀ d ∈ v.chosen, d ∉ w.generation v.task.epoch

section Once

variable {w w' : World} {v v' : Wave} {i : ℕ} {rest l : List Wave} {task : Task}

lemma active_iff {e : ℕ} : w.active e = true ↔
    (∃ t ∈ w.tasks, t.epoch = e) ∨ ∃ v ∈ w.running, v.task.epoch = e := by
  rw [World.active, Bool.or_eq_true, List.any_eq_true, List.any_eq_true]
  simp only [decide_eq_true_eq]

/-- The order of the waves is beside the point. -/
lemma Once.perm (h : Once w) (hperm : w.running.Perm l) : Once { w with running := l } := by
  refine ⟨h.fresh, fun e he => h.known e ?_, fun v hv => h.recorded v (hperm.mem_iff.mpr hv),
    fun e => ?_, ?_, fun v hv => h.chosen v (hperm.mem_iff.mpr hv)⟩
  · rw [active_iff] at he ⊢
    exact he.imp_right fun ⟨v, hv, heq⟩ => ⟨v, hperm.mem_iff.mpr hv, heq⟩
  · exact ((hperm.flatMap_right _).append_left _).nodup_iff.mp (h.once e)
  · exact ((hperm.filter _).map _).nodup_iff.mp h.alone

lemma Once.cons (h : Once w) (hget : w.running[i]? = some v) :
    Once { w with running := v :: w.running.eraseIdx i } :=
  h.perm (perm_cons_eraseIdx hget)

lemma Once.set (hget : w.running[i]? = some v)
    (h : Once { w with running := v' :: w.running.eraseIdx i }) :
    Once { w with running := w.running.set i v' } :=
  h.perm (set_perm_cons_eraseIdx hget).symm

lemma chosen_eq_nil (h : v.choosing = false) : v.chosen = [] := by
  rw [Wave.choosing] at h
  rw [Wave.chosen]
  split
  · rename_i hstage
    rw [hstage] at h
    cases h
  · rename_i hstage
    rw [hstage] at h
    cases h
  · rfl

lemma asked_append (offers : List Offer) (o : Offer) (e : ℕ) :
    asked (offers ++ [o]) e = asked offers e ++ if o.epoch = e then [o.driver] else [] := by
  rw [asked, asked, List.filter_append, List.map_append, List.filter_cons, List.filter_nil]
  congr 1
  by_cases heq : o.epoch = e
  · rw [if_pos heq, if_pos (decide_eq_true heq), List.map_singleton]
  · rw [if_neg heq, if_neg fun htrue => heq (of_decide_eq_true htrue), List.map_nil]

/-- Nothing that matters here changes. -/
lemma Once.of_eq (h : Once w) (hplans : w'.plans = w.plans) (hgeneration : w'.generation = w.generation)
    (htasks : w'.tasks = w.tasks) (hrunning : w'.running = w.running)
    (hoffers : w'.offers = w.offers) : Once w' := by
  cases w'
  cases hplans
  cases hgeneration
  cases htasks
  cases hrunning
  cases hoffers
  exact ⟨h.fresh, h.known, h.recorded, h.once, h.alone, h.chosen⟩

/-- Another queue, with tasks of searches that go on. -/
lemma Once.retask (h : Once w) (tasks : List Task)
    (hactive : ∀ t ∈ tasks, w.active t.epoch = true) : Once { w with tasks } := by
  refine ⟨h.fresh, fun e he => h.known e ?_, h.recorded, h.once, h.alone, h.chosen⟩
  rcases active_iff.mp he with ⟨t, ht, rfl⟩ | hwave
  · exact hactive t ht
  · exact active_iff.mpr (.inr hwave)

lemma Once.retask_append (h : Once w) (task : Task) (hactive : w.active task.epoch = true) :
    Once { w with tasks := w.tasks ++ [task] } := by
  refine h.retask _ fun t ht => ?_
  rcases List.mem_append.mp ht with hold | hnew
  · exact active_iff.mpr (.inl ⟨t, hold, rfl⟩)
  · rw [List.mem_singleton.mp hnew]
    exact hactive

lemma active_of_running (hv : v ∈ w.running) : w.active v.task.epoch = true :=
  active_iff.mpr (.inr ⟨v, hv, rfl⟩)

lemma active_of_tasks (ht : task ∈ w.tasks) : w.active task.epoch = true :=
  active_iff.mpr (.inl ⟨task, ht, rfl⟩)

/-- A wave is over. -/
lemma Once.over (h : Once { w with running := v :: rest }) : Once { w with running := rest } := by
  refine ⟨h.fresh, fun e he => h.known e ?_, fun u hu => h.recorded u (List.mem_cons_of_mem v hu),
    fun e => ?_, ?_, fun u hu => h.chosen u (List.mem_cons_of_mem v hu)⟩
  · rw [active_iff] at he ⊢
    exact he.imp_right fun ⟨u, hu, heq⟩ => ⟨u, List.mem_cons_of_mem v hu, heq⟩
  · exact (h.once e).sublist (List.Sublist.append_left (List.sublist_append_right _ _) _)
  · exact h.alone.sublist (((List.sublist_cons_self v rest).filter _).map _)

lemma Once.gate (h : Once w) (hactive : w.active task.epoch = true) (gate : ℕ) :
    Once { w with running := w.running ++ [⟨task, gate, .gated⟩] } := by
  refine ⟨h.fresh, fun e he => h.known e ?_, fun u hu => ?_, fun e => ?_, ?_, fun u hu => ?_⟩
  · rcases active_iff.mp he with htask | ⟨u, hu, rfl⟩
    · exact active_iff.mpr (.inl htask)
    · rcases List.mem_append.mp hu with hold | hnew
      · exact active_of_running hold
      · rw [List.mem_singleton.mp hnew]
        exact hactive
  · rcases List.mem_append.mp hu with hold | hnew
    · exact h.recorded u hold
    · rw [List.mem_singleton.mp hnew]
      exact fun d hd => by cases hd
  · have hnothing : outstanding (w.running ++ [⟨task, gate, .gated⟩]) e =
        outstanding w.running e := by
      rw [outstanding, outstanding, List.flatMap_append, List.flatMap_singleton]
      dsimp only [Wave.todo]
      rw [ite_self, List.append_nil]
    rw [hnothing]
    exact h.once e
  · have hnothing : (w.running ++ [(⟨task, gate, .gated⟩ : Wave)]).filter Wave.choosing =
        w.running.filter Wave.choosing := by
      rw [List.filter_append, List.filter_cons_of_neg Bool.false_ne_true, List.filter_nil,
        List.append_nil]
    rw [hnothing]
    exact h.alone
  · rcases List.mem_append.mp hu with hold | hnew
    · exact h.chosen u hold
    · rw [List.mem_singleton.mp hnew]
      exact ⟨List.nodup_nil, fun d hd => by cases hd⟩

/-- A wave comes to another stage, and is about to ask whom it was about to ask. -/
lemma Once.restage (h : Once { w with running := v :: rest }) (htask : v'.task = v.task)
    (htodo : v'.todo = v.todo) (hnodup : v'.chosen.Nodup)
    (hfree : ∀ d ∈ v'.chosen, d ∉ w.generation v.task.epoch)
    (halone : v.choosing = true ∨
      ∀ u ∈ rest, u.choosing = true → u.task.epoch ≠ v.task.epoch) :
    Once { w with running := v' :: rest } := by
  refine ⟨h.fresh, fun e he => h.known e ?_, fun u hu => ?_, fun e => ?_, ?_, fun u hu => ?_⟩
  · rcases active_iff.mp he with htask' | ⟨u, hu, rfl⟩
    · exact active_iff.mpr (.inl htask')
    · rcases List.mem_cons.mp hu with rfl | hold
      · rw [htask]
        exact active_of_running (List.mem_cons_self)
      · exact active_of_running (List.mem_cons_of_mem v hold)
  · rcases List.mem_cons.mp hu with rfl | hold
    · rw [htodo, htask]
      exact h.recorded v List.mem_cons_self
    · exact h.recorded u (List.mem_cons_of_mem v hold)
  · have hsame : outstanding (v' :: rest) e = outstanding (v :: rest) e := by
      rw [outstanding, outstanding, List.flatMap_cons, List.flatMap_cons, htask, htodo]
    rw [hsame]
    exact h.once e
  · dsimp only
    have hrest : ((rest.filter Wave.choosing).map fun v => v.task.epoch).Nodup :=
      h.alone.sublist (((List.sublist_cons_self v rest).filter _).map _)
    rw [List.filter_cons]
    split
    · rw [List.map_cons, List.nodup_cons]
      refine ⟨fun hmem => ?_, hrest⟩
      obtain ⟨u, hu, heq⟩ := List.mem_map.mp hmem
      obtain ⟨hu, hchoosing⟩ := List.mem_filter.mp hu
      rw [htask] at heq
      rcases halone with hv | hothers
      · -- it chose already, so no other did
        have hall := h.alone
        dsimp only at hall
        rw [List.filter_cons_of_pos hv, List.map_cons, List.nodup_cons] at hall
        exact hall.1 (List.mem_map.mpr ⟨u, List.mem_filter.mpr ⟨hu, hchoosing⟩, heq⟩)
      · exact hothers u hu hchoosing heq
    · exact hrest
  · rcases List.mem_cons.mp hu with rfl | hold
    · rw [htask]
      exact ⟨hnodup, hfree⟩
    · exact h.chosen u (List.mem_cons_of_mem v hold)

lemma Once.record {gate : ℕ} {ids : List String} {generation : ℕ → List String}
    (h : Once { w with running := ⟨task, gate, .candidates ids⟩ :: rest })
    (hsame : ∀ e, e ≠ task.epoch → generation e = w.generation e)
    (hadded : ∀ d, d ∈ generation task.epoch ↔ d ∈ w.generation task.epoch ∨ d ∈ ids) :
    Once { w with generation, running := ⟨task, gate, .sending ids⟩ :: rest } := by
  have hkeep : ∀ e d, d ∈ w.generation e → d ∈ generation e := fun e d hd => by
    by_cases heq : e = task.epoch
    · rw [heq] at hd ⊢
      exact (hadded d).mpr (.inl hd)
    · rw [hsame e heq]
      exact hd
  obtain ⟨hnodup, hfree⟩ := h.chosen _ List.mem_cons_self
  have hall := h.alone
  dsimp only at hall
  rw [List.filter_cons_of_pos rfl, List.map_cons, List.nodup_cons] at hall
  obtain ⟨halone, hrest⟩ := hall
  refine ⟨h.fresh, fun e he d hd => ?_, fun u hu d hd => ?_, fun e => ?_, ?_, fun u hu => ?_⟩
  · refine hkeep e d (h.known e ?_ d hd)
    rcases active_iff.mp he with htask | ⟨u, hu, rfl⟩
    · exact active_iff.mpr (.inl htask)
    · rcases List.mem_cons.mp hu with rfl | hold
      · exact active_of_running (v := ⟨task, gate, .candidates ids⟩) List.mem_cons_self
      · exact active_of_running (List.mem_cons_of_mem _ hold)
  · rcases List.mem_cons.mp hu with rfl | hold
    · exact (hadded d).mpr (.inr hd)
    · exact hkeep _ d (h.recorded u (List.mem_cons_of_mem _ hold) d hd)
  · have honce := h.once e
    dsimp only at honce ⊢
    rw [outstanding, List.flatMap_cons] at honce ⊢
    dsimp only [Wave.todo] at honce ⊢
    rw [ite_self, List.nil_append] at honce
    by_cases heq : task.epoch = e
    · subst heq
      rw [if_pos rfl]
      -- those it chose were neither asked nor about to be asked
      have hperm : (asked w.offers task.epoch ++ (ids ++ outstanding rest task.epoch)).Perm
          (ids ++ (asked w.offers task.epoch ++ outstanding rest task.epoch)) :=
        List.perm_append_comm_assoc _ _ _
      refine hperm.nodup_iff.mpr (List.nodup_append.mpr ⟨hnodup, honce, ?_⟩)
      rintro d hd d' hd' rfl
      refine hfree d hd ?_
      rcases List.mem_append.mp hd' with hasked | hout
      · exact h.known task.epoch
          (active_of_running (v := ⟨task, gate, .candidates ids⟩) List.mem_cons_self) d hasked
      · obtain ⟨u, hu, hmem⟩ := List.mem_flatMap.mp hout
        split at hmem
        · rename_i hepoch
          have hrecorded := h.recorded u (List.mem_cons_of_mem _ hu) d hmem
          rw [hepoch] at hrecorded
          exact hrecorded
        · cases hmem
    · rw [if_neg heq]
      exact honce
  · dsimp only
    rw [List.filter_cons_of_neg Bool.false_ne_true]
    exact hrest
  · rcases List.mem_cons.mp hu with rfl | hold
    · exact ⟨List.nodup_nil, fun d hd => by cases hd⟩
    · obtain ⟨hnodup', hfree'⟩ := h.chosen u (List.mem_cons_of_mem _ hold)
      refine ⟨hnodup', fun d hd => ?_⟩
      by_cases heq : u.task.epoch = task.epoch
      · -- no other wave of the search has chosen
        have hchoosing : u.choosing = false := by
          by_contra hne
          rw [Bool.not_eq_false] at hne
          exact halone (List.mem_map.mpr ⟨u, List.mem_filter.mpr ⟨hold, hne⟩, heq⟩)
        rw [chosen_eq_nil hchoosing] at hd
        cases hd
      · dsimp only
        rw [hsame _ heq]
        exact hfree' d hd

lemma Once.send {gate : ℕ} {driver : String} {todo : List String}
    (h : Once { w with running := ⟨task, gate, .sending (driver :: todo)⟩ :: rest })
    (hepoch : task.epoch < w.plans.length) :
    Once { w with
      running := ⟨task, gate, .sending todo⟩ :: rest
      offers := w.offers ++ [⟨task.epoch, task.trip, driver, gate⟩] } := by
  have hactive : ∀ {e}, World.active { w with
        running := ⟨task, gate, .sending todo⟩ :: rest
        offers := w.offers ++ [⟨task.epoch, task.trip, driver, gate⟩] } e = true →
      World.active { w with
        running := ⟨task, gate, .sending (driver :: todo)⟩ :: rest } e = true := fun he => by
    rcases active_iff.mp he with htask | ⟨u, hu, rfl⟩
    · exact active_iff.mpr (.inl htask)
    · rcases List.mem_cons.mp hu with rfl | hold
      · exact active_of_running (v := ⟨task, gate, .sending (driver :: todo)⟩)
          List.mem_cons_self
      · exact active_of_running (List.mem_cons_of_mem _ hold)
  have hrecorded := h.recorded _ List.mem_cons_self
  refine ⟨fun o ho => ?_, fun e he d hd => ?_, fun u hu d hd => ?_, fun e => ?_, ?_,
    fun u hu => ?_⟩
  · rcases List.mem_append.mp ho with hold | hnew
    · exact h.fresh o hold
    · rw [List.mem_singleton.mp hnew]
      exact hepoch
  · dsimp only at hd
    rw [asked_append] at hd
    rcases List.mem_append.mp hd with hold | hnew
    · exact h.known e (hactive he) d hold
    · split at hnew
      · rename_i heq
        rw [List.mem_singleton.mp hnew, ← heq]
        exact hrecorded driver List.mem_cons_self
      · cases hnew
  · rcases List.mem_cons.mp hu with rfl | hold
    · exact hrecorded d (List.mem_cons_of_mem driver hd)
    · exact h.recorded u (List.mem_cons_of_mem _ hold) d hd
  · have honce := h.once e
    dsimp only at honce ⊢
    rw [outstanding, List.flatMap_cons] at honce ⊢
    rw [asked_append]
    dsimp only [Wave.todo] at honce ⊢
    by_cases heq : task.epoch = e
    · rw [if_pos heq] at honce ⊢
      rw [if_pos heq, List.append_assoc]
      exact honce
    · rw [if_neg heq] at honce ⊢
      rw [if_neg heq, List.append_nil]
      exact honce
  · have halone := h.alone
    dsimp only at halone ⊢
    rw [List.filter_cons_of_neg Bool.false_ne_true] at halone ⊢
    exact halone
  · rcases List.mem_cons.mp hu with rfl | hold
    · exact ⟨List.nodup_nil, fun d hd => by cases hd⟩
    · exact h.chosen u (List.mem_cons_of_mem _ hold)

lemma Once.expire {epoch : ℕ} (h : Once w) (hover : (!w.active epoch) = true) :
    Once { w with generation := Function.update w.generation epoch [] } := by
  have hne : ∀ e, w.active e = true → e ≠ epoch := by
    rintro e he rfl
    rw [he] at hover
    cases hover
  refine ⟨h.fresh, fun e he d hd => ?_, fun v hv d hd => ?_, h.once, h.alone, fun v hv => ?_⟩
  · dsimp only
    rw [Function.update_of_ne (hne e he)]
    exact h.known e he d hd
  · dsimp only
    rw [Function.update_of_ne (hne _ (active_of_running hv))]
    exact h.recorded v hv d hd
  · dsimp only
    rw [Function.update_of_ne (hne _ (active_of_running hv))]
    exact h.chosen v hv

/-! ## Steps -/

lemma Once.goto {stage : Stage} (h : Once w) (hget : w.running[i]? = some v)
    (hcons : Once { w with running := v :: w.running.eraseIdx i } →
      Once { w with running := { v with stage } :: w.running.eraseIdx i }) :
    Once (w.goto i v stage) :=
  Once.set hget (hcons (h.cons hget))

lemma Once.begin (h : Once w) (hget : w.tasks[i]? = some task) :
    Once (w.begin task (w.tasks.eraseIdx i)) := by
  have hactive : ∀ t ∈ w.tasks.eraseIdx i, w.active t.epoch = true := fun t ht =>
    active_of_tasks (List.mem_of_mem_eraseIdx ht)
  have hgated := h.gate (active_of_tasks (List.mem_of_getElem? hget)) w.gates.length
  rw [World.begin]
  split
  · dsimp only
    split
    · have hboth := hgated.retask (w.tasks.eraseIdx i) fun t ht =>
        active_of_tasks (List.mem_of_mem_eraseIdx ht)
      exact hboth.of_eq rfl rfl rfl rfl rfl
    · exact (h.retask _ hactive).of_eq rfl rfl rfl rfl rfl
  · exact h.retask _ hactive

lemma Once.start (h : Once w) (configured : List ℤ) (trip : ℕ) (radius : Option ℤ)
    (enqueued : Bool) : Once (startDispatch w configured trip radius enqueued) := by
  rw [startDispatch]
  refine ⟨fun o ho => ?_, fun e he d hd => ?_, h.recorded, h.once, h.alone, h.chosen⟩
  · have hlt := h.fresh o ho
    rw [List.length_append]
    omega
  · by_cases heq : e = w.plans.length
    · -- nobody was asked in a search that was not started
      obtain ⟨o, ho, -⟩ := List.mem_map.mp hd
      obtain ⟨ho, hepoch⟩ := List.mem_filter.mp ho
      have hlt := h.fresh o ho
      rw [of_decide_eq_true hepoch, heq] at hlt
      exact absurd hlt (Nat.lt_irrefl _)
    · refine h.known e ?_ d hd
      rcases active_iff.mp he with ⟨t, ht, rfl⟩ | ⟨u, hu, rfl⟩
      · dsimp only at ht
        split at ht
        · rcases List.mem_append.mp ht with hold | hnew
          · exact active_of_tasks hold
          · rw [List.mem_singleton.mp hnew] at heq
            exact absurd rfl heq
        · exact active_of_tasks ht
      · exact active_of_running hu

lemma Once.select {gate : ℕ} {found : Option (List String)} {answers : Bool} (h : Once w)
    (hget : w.running[i]? = some ⟨task, gate, .gated⟩)
    (horderly : orderly w (.select i found answers) = true) {stage : Stage}
    (hstage : stage = .candidates [] ∨
      ∃ found, stage = .selected (notYetAsked (w.generation task.epoch) found)) :
    Once (w.goto i ⟨task, gate, .gated⟩ stage) := by
  rw [orderly, hget, Option.all_some, Bool.and_eq_true, List.all_eq_true] at horderly
  have halone : ∀ u ∈ w.running.eraseIdx i, u.choosing = true → u.task.epoch ≠ task.epoch := by
    intro u hu hchoosing heq
    have hnone := horderly.2 u (List.mem_of_mem_eraseIdx hu)
    rw [hchoosing, heq] at hnone
    simp at hnone
  refine h.goto hget fun hcons => ?_
  rcases hstage with rfl | ⟨found, rfl⟩
  · exact hcons.restage rfl rfl List.nodup_nil (fun d hd => by cases hd) (.inr halone)
  · exact hcons.restage rfl rfl (nodup_notYetAsked _ _)
      (fun d hd => notMem_of_mem_notYetAsked hd) (.inr halone)

lemma once_step {configured : List ℤ} {qa : Bool} (hbounded : Bounded w) (h : Once w) (a : Act)
    (horderly : orderly w a = true) : Once (step configured qa w a) := by
  -- the two waves of one driver can only meet in `select` and `record`; the rest moves tasks about
  cases a with
  | start trip radius enqueued => exact h.start configured trip radius enqueued
  | begin i =>
    rw [step]
    split
    · rename_i task hget
      exact h.begin hget
    · exact h
  | select i found answers =>
    have hanswers : answers = true := by
      rw [orderly, Bool.and_eq_true] at horderly
      exact horderly.1
    rw [step]
    split
    · rename_i task gate hget
      split
      · exact h.select hget horderly (.inl rfl)
      · rename_i found
        refine h.select hget horderly (.inr ⟨found, ?_⟩)
        rw [hanswers, if_pos rfl]
    · exact h
  | filter i =>
    rw [step]
    split
    · rename_i task gate ids hget
      obtain ⟨hnodup, hfree⟩ := h.chosen _ (List.mem_of_getElem? hget)
      -- a filter only takes drivers out of the wave's list
      refine h.goto hget fun hcons => hcons.restage rfl rfl ?_ ?_ (.inl rfl)
      · exact hnodup.sublist List.filter_sublist
      · exact fun d hd => hfree d (List.mem_of_mem_filter hd)
    · exact h
  | record i answers =>
    rw [orderly] at horderly
    rw [step]
    split
    · rename_i task gate ids hget
      dsimp only
      split
      · rename_i hnobody
        subst hnobody
        refine h.goto hget fun hcons => hcons.restage rfl rfl List.nodup_nil ?_ (.inl rfl)
        exact fun d hd => by cases hd
      · -- the cache answers, so the offers are written beside the drivers already asked
        rw [addGenerationOffers, horderly]
        refine Once.set hget ((h.cons hget).record (fun e he => ?_) fun d => ?_)
        · exact Function.update_of_ne he _ _
        · dsimp only
          rw [Function.update_self, if_pos rfl, List.mem_append]
    · exact h
  | send i =>
    rw [step]
    split
    · rename_i task gate driver todo hget
      have hplan := hbounded.running _ (List.mem_of_getElem? hget)
      have hepoch : task.epoch < w.plans.length := (List.getElem?_eq_some_iff.mp hplan).1
      have hsent := (h.cons hget).send hepoch
      exact hsent.perm (set_perm_cons_eraseIdx hget).symm
    · exact h
  | succeed i enqueued =>
    rw [step]
    split
    · rename_i task gate hget
      have hactive : w.active task.epoch = true :=
        active_of_running (List.mem_of_getElem? hget)
      rw [scheduleSuccessor]
      dsimp only
      split
      · -- the successor is put in the queue while the wave still runs
        have hnext := h.retask_append { task with waveIndex := task.waveIndex + 1 } hactive
        exact (hnext.cons hget).over
      · exact (h.cons hget).over
    · exact h
  | crash i requeued =>
    rw [step]
    split
    · rename_i v hget
      have hactive : w.active v.task.epoch = true :=
        active_of_running (List.mem_of_getElem? hget)
      dsimp only
      split
      · -- acks_late: the task of a worker that dies comes back
        exact ((h.retask_append _ hactive).cons hget).over.of_eq rfl rfl rfl rfl rfl
      · exact (h.cons hget).over
    · exact h
  | duplicate i =>
    rw [step]
    split
    · rename_i t hget
      have hagain := h.retask_append _ (active_of_tasks (List.mem_of_getElem? hget))
      exact hagain.of_eq rfl rfl rfl rfl rfl
    · exact h
  | redeliver i =>
    rw [step]
    split
    · rename_i v hget
      have hagain := h.retask_append _ (active_of_running (List.mem_of_getElem? hget))
      exact hagain.of_eq rfl rfl rfl rfl rfl
    · exact h
  | drop i => exact h.retask _ fun t ht => active_of_tasks (List.mem_of_mem_eraseIdx ht)
  | expire epoch => exact h.expire horderly
  | saveTrip trip => exact h.of_eq rfl rfl rfl rfl rfl
  | deleteTrip id => exact h.of_eq rfl rfl rfl rfl rfl
  | saveDriver d => exact h.of_eq rfl rfl rfl rfl rfl

end Once

/-! ## Runs -/

section Runs

variable (configured : List ℤ) (qa : Bool)

/-- Whatever is no change of the trip by somebody else leaves the trips as they are. -/
lemma trips_step (w : World) (a : Act) (hsave : ∀ trip, a ≠ .saveTrip trip)
    (hdelete : ∀ id, a ≠ .deleteTrip id) : (step configured qa w a).trips = w.trips := by
  cases a with
  | start trip radius enqueued => rfl
  | begin i =>
    rw [step]
    split
    · rw [World.begin]
      split
      · dsimp only
        split
        · rfl
        · rfl
      · rfl
    · rfl
  | select i found answers =>
    rw [step]
    split
    · split
      · rfl
      · rfl
    · rfl
  | filter i =>
    rw [step]
    split
    · rfl
    · rfl
  | record i answers =>
    rw [step]
    split
    · dsimp only
      split
      · rfl
      · rfl
    · rfl
  | send i =>
    rw [step]
    split
    · rfl
    · rfl
  | succeed i enqueued =>
    rw [step]
    split
    · rfl
    · rfl
  | crash i requeued =>
    rw [step]
    split
    · dsimp only
      split
      · rfl
      · rfl
    · rfl
  | duplicate i =>
    rw [step]
    split
    · rfl
    · rfl
  | redeliver i =>
    rw [step]
    split
    · rfl
    · rfl
  | drop i => rfl
  | expire epoch => rfl
  | saveTrip trip => exact absurd rfl (hsave trip)
  | deleteTrip id => exact absurd rfl (hdelete id)
  | saveDriver d => rfl

variable (trips : Table Trip.id) (drivers : Table Driver.id)

lemma seen_idle : Seen (.idle trips drivers) := by
  constructor
  · exact fun v hv => by cases hv
  · exact fun o ho => by cases ho

lemma bounded_idle : Bounded (.idle trips drivers) := by
  constructor
  · exact fun t ht => by cases ht
  · exact fun v hv => by cases hv
  · exact fun g hg => by cases hg
  · exact fun e he => by cases he
  · exact fun e radii hplan => by cases hplan

lemma once_idle : Once (.idle trips drivers) := by
  constructor
  · exact fun o ho => by cases ho
  · exact fun e he d hd => by cases hd
  · exact fun v hv => by cases hv
  · exact fun e => List.nodup_nil
  · exact List.nodup_nil
  · exact fun v hv => by cases hv

lemma bounded_once_of_orderly {w : World} {acts : List Act} (h : Bounded w ∧ Once w)
    (horderly : Guarded (step configured qa) (fun w a => orderly w a = true) w acts) :
    Bounded (run (step configured qa) w acts) ∧ Once (run (step configured qa) w acts) :=
  invariant_of_guarded (I := fun w => Bounded w ∧ Once w)
    (fun _ a ha hw => ⟨bounded_step configured qa hw.1 a, once_step hw.1 hw.2 a ha⟩) h horderly

/-- Along every run, an offer is sent only by a wave that saw at its gate that the trip may be
dispatched; at most as many waves of a search run as there are radii, once for each delivery; only
others write to the trips; and, if the run is orderly, no driver is asked twice in one search. -/
theorem waves_offer (acts : List Act) :
    let w := run (step configured qa) (.idle trips drivers) acts
    (∀ o ∈ w.offers, ∃ g, w.gates[o.gate]? = some g ∧ dispatchable g.seen = true ∧
      g.task.epoch = o.epoch ∧ g.task.trip = o.trip) ∧
    (∀ epoch radii, w.plans[epoch]? = some radii →
      ran w.gates epoch ≤ radii.length * (1 + w.redelivered.count epoch)) ∧
    (∀ a, (∀ trip, a ≠ Act.saveTrip trip) → (∀ id, a ≠ Act.deleteTrip id) →
      (step configured qa w a).trips = w.trips) ∧
    (Guarded (step configured qa) (fun w a => orderly w a = true) (.idle trips drivers) acts →
      ∀ epoch, (asked w.offers epoch).Nodup) := by
  intro w
  have hseen : Seen w := invariant (I := Seen) (fun _ a h => seen_step configured qa h a) acts
    (seen_idle trips drivers)
  have hbounded : Bounded w := invariant (I := Bounded)
    (fun _ a h => bounded_step configured qa h a) acts (bounded_idle trips drivers)
  refine ⟨hseen.offers, fun epoch radii hplan => ?_, trips_step configured qa w,
    fun horderly epoch => ?_⟩
  · have hbound := hbounded.bound epoch radii hplan
    omega
  · have honce := (bounded_once_of_orderly configured qa
      ⟨bounded_idle trips drivers, once_idle trips drivers⟩ horderly).2.once epoch
    exact honce.sublist (List.sublist_append_left _ _)

end Runs

/-! ## Three waves -/

def waiting : Table Trip.id := Table.empty.put ⟨7, none, some .requested, ""⟩

def onCall : Table Driver.id := Table.empty.put ⟨5, true, "active", false⟩

/-- A search with two radii goes on for a wave and a half: the driver is found twice. -/
def patient : List Act :=
  [.start 7 none true, .begin 0, .select 0 (some ["driver:5:sedan"]) true, .filter 0,
    .record 0 true, .send 0, .succeed 0 true, .begin 0,
    .select 0 (some ["driver:5:sedan"]) true, .filter 0, .record 0 true]

/-- The second wave leaves out the driver whom the first one asked. -/
theorem waves_offer_patient :
    asked (run (step [1500, 3000] false) (.idle waiting onCall) patient).offers 0 = ["5"] ∧
      ∀ epoch,
        (asked (run (step [1500, 3000] false) (.idle waiting onCall) patient).offers epoch).Nodup :=
  ⟨by decide +kernel,
    (waves_offer [1500, 3000] false waiting onCall patient).2.2.2 (by decide +kernel)⟩

def searchedAgain : List Act := [.start 7 none true, .start 7 (some 2000) true]

def firstWave : List Act :=
  [.begin 0, .select 0 (some ["driver:5:sedan"]) true, .filter 0, .record 0 true, .send 0]

/-- A task is delivered twice, and its two waves choose side by side. -/
def sideBySide : List Act :=
  [.start 7 (some 2000) true, .duplicate 0, .begin 0, .begin 0,
    .select 0 (some ["driver:5:sedan"]) true, .select 1 (some ["driver:5:sedan"]) true,
    .filter 0, .filter 1, .record 0 true, .record 1 true, .send 0, .send 1]

/-- A wave of a search that was followed by another one for the trip sends an offer; and a search
with one radius runs two waves, which ask the driver twice. -/
theorem superseded_and_asked_twice :
    let again := run (step [1500, 3000] false) (.idle waiting onCall) searchedAgain
    let twice := run (step [1500, 3000] false) (.idle waiting onCall) sideBySide
    again.tasks = [⟨7, 0, 0, [1500, 3000]⟩, ⟨7, 0, 1, [2000]⟩] ∧
      (run (step [1500, 3000] false) again firstWave).offers = [⟨0, 7, "5", 0⟩] ∧
      twice.plans = [[2000]] ∧ ran twice.gates 0 = 2 ∧ ¬ (asked twice.offers 0).Nodup := by
  decide +kernel

end SaaradhiGo.Dispatch
