/-
Appends to the audit log, concurrently.

`save` reads the hash of the last row under a lock on that row, in an atomic block of its own,
and inserts its row after the block.  The lock ends with the transaction: before the insert when
the append runs outside a transaction, and at the commit otherwise.  A second append that has
found the same last row goes on with what it found.  The log stays a chain as long as every
append finds the last row again where its own row becomes visible.
-/
import SaaradhiGo.AdminAudit.Tamper
import SaaradhiGo.Lib.Transition

namespace SaaradhiGo.AdminAudit

/-! ## Appends -/

/-- A row that `save` is called on: its id and hashes are not set, and it is no anchor. -/
structure Draft where
  row : Entry
  plain : isAnchor row = false

/-- The row with its hashes, after `_link_into_chain`. -/
def Draft.link (draft : Draft) (tail : Tail) : Entry :=
  { draft.row with
    previousHash := tail.hash
    contentHash := computeHash tail.hash draft.row }

inductive Phase where
  | idle
  /-- the last row was found, and its lock is waited for -/
  | waiting (draft : Draft) (tail : Tail)
  /-- inside the atomic block of `_link_into_chain` -/
  | locked (draft : Draft) (tail : Tail)
  | linked (draft : Draft) (tail : Tail)

structure Writer where
  inTransaction : Bool
  /-- the rows its transaction inserted, oldest first, each with the tail it read -/
  pending : List (Tail × Entry)
  phase : Phase

def Writer.idle : Writer := ⟨false, [], .idle⟩

/-- The table, the locks on its rows, and the connections. -/
structure Log (τ : Type) where
  /-- the committed rows, in the order of their ids -/
  rows : List Entry
  nextId : ℕ
  locks : ℕ → Option τ
  writers : τ → Writer

/-- What a connection does next. -/
inductive Move (τ : Type) where
  | beginTransaction (t : τ)
  /-- `save`: the query for the last row -/
  | select (t : τ) (draft : Draft)
  | lock (t : τ)
  /-- the end of the atomic block -/
  | leave (t : τ)
  | insert (t : τ)
  | commit (t : τ)
  /-- the connection fails, or its transaction is rolled back -/
  | rollback (t : τ)

section Step

variable {τ : Type} [DecidableEq τ]

namespace Log

variable (s : Log τ)

def setWriter (t : τ) (w : Writer) : Log τ :=
  { s with writers := Function.update s.writers t w }

def release (t : τ) : Log τ :=
  { s with locks := fun i => if s.locks i = some t then none else s.locks i }

def lockFree (t : τ) (tail : Tail) : Bool :=
  tail.all fun row => (s.locks row.1).all (· = t)

def takeLock (t : τ) (tail : Tail) : Log τ :=
  { s with locks := match tail with
      | none => s.locks
      | some row => Function.update s.locks row.1 (some t) }

def publish (news : List Entry) : Log τ :=
  { s with rows := byId (s.rows ++ news) }

end Log

/-- The rows a query of the connection sees: what is committed, and its own. -/
def Log.visible (s : Log τ) (t : τ) : List Entry :=
  s.rows ++ (s.writers t).pending.map Prod.snd

/-- One move. -/
def step (s : Log τ) : Move τ → Log τ
  | .beginTransaction t =>
      match (s.writers t).phase with
      | .idle => s.setWriter t { s.writers t with inTransaction := true }
      | _ => s
  | .select t draft =>
      match (s.writers t).phase with
      | .idle => s.setWriter t { s.writers t with phase := .waiting draft (tailOf (s.visible t)) }
      | _ => s
  | .lock t =>
      match (s.writers t).phase with
      | .waiting draft tail =>
          -- the row is not changed by whoever held it, so what was found is returned
          if s.lockFree t tail then
            (s.takeLock t tail).setWriter t { s.writers t with phase := .locked draft tail }
          else s
      | _ => s
  | .leave t =>
      match (s.writers t).phase with
      | .locked draft tail =>
          let s' := s.setWriter t { s.writers t with phase := .linked draft tail }
          if (s.writers t).inTransaction then s' else s'.release t
      | _ => s
  | .insert t =>
      match (s.writers t).phase with
      | .linked draft tail =>
          let row := { draft.link tail with id := s.nextId }
          let s' := { s with nextId := s.nextId + 1 }
          if (s.writers t).inTransaction then
            s'.setWriter t ⟨true, (s.writers t).pending ++ [(tail, row)], .idle⟩
          else (s'.publish [row]).setWriter t .idle
      | _ => s
  | .commit t =>
      match (s.writers t).phase with
      | .idle =>
          ((s.publish ((s.writers t).pending.map Prod.snd)).release t).setWriter t .idle
      | _ => s
  | .rollback t => (s.release t).setWriter t .idle

/-! ## The condition -/

/-- Each of the rows links to the row right before it. -/
def Follows : Tail → List (Tail × Entry) → Prop
  | _, [] => True
  | last, (tail, row) :: rest => tail = last ∧ Follows (some (row.id, row.contentHash)) rest

instance Follows.decidable : ∀ last pending, Decidable (Follows last pending)
  | _, [] => isTrue trivial
  | last, x :: rest =>
      @instDecidableAnd (x.1 = last) _ inferInstance
        (Follows.decidable (some (x.2.id, x.2.contentHash)) rest)

def Writer.inserts (w : Writer) : Option Tail :=
  match w.phase with
  | .linked _ tail => if w.inTransaction then none else some tail
  | _ => none

/-- Where rows become visible the last row is still the one that was found: at the insert
outside a transaction, and at the commit for the appends of a transaction. -/
def TailUnmoved (s : Log τ) : Move τ → Prop
  | .insert t => ∀ tail ∈ (s.writers t).inserts, tail = tailOf s.rows
  | .commit t => Follows (tailOf s.rows) (s.writers t).pending
  | _ => True

instance (s : Log τ) (m : Move τ) : Decidable (TailUnmoved s m) :=
  match m with
  | .insert t => inferInstanceAs (Decidable (∀ tail ∈ (s.writers t).inserts, tail = tailOf s.rows))
  | .commit t => inferInstanceAs (Decidable (Follows (tailOf s.rows) (s.writers t).pending))
  | .beginTransaction _ | .select _ _ | .lock _ | .leave _ | .rollback _ =>
      inferInstanceAs (Decidable True)

/-- No two rows of the chain claim the same place. -/
def NoFork (rows : List Entry) : Prop :=
  ((rows.filter fun e => e.contentHash ≠ "").map Entry.previousHash).Nodup

instance (rows : List Entry) : Decidable (NoFork rows) :=
  inferInstanceAs (Decidable (List.Nodup _))

end Step

/-! ## Rows that are appended -/

/-- A row that links to the tail, and comes after it. -/
structure Appended (tail : Tail) (row : Entry) : Prop where
  plain : isAnchor row = false
  link : row.previousHash = tail.hash
  content : row.contentHash = computeHash tail.hash row
  later : ∀ p ∈ tail, p.1 < row.id

section Rows

variable {rows : List Entry} {row : Entry} {pending : List (Tail × Entry)}

lemma tailOf_append_singleton (h : Ordered (rows ++ [row])) :
    tailOf (rows ++ [row]) = some (row.id, row.contentHash) := by
  rw [tailOf, byId_of_ordered h]
  simp

lemma ordered_append (h : Ordered rows) (happended : Appended (tailOf rows) row) :
    Ordered (rows ++ [row]) := by
  refine List.pairwise_append.mpr ⟨h, List.pairwise_singleton _ _, fun e he e' he' => ?_⟩
  rw [List.mem_singleton.mp he']
  cases rows using List.reverseRecOn with
  | nil => cases he
  | append_singleton rows last _ =>
      have hlast := happended.later _ (tailOf_append_singleton h)
      rcases List.mem_append.mp he with hbefore | hself
      · have hlt := (List.pairwise_append.mp h).2.2 e hbefore last (List.mem_singleton_self _)
        exact hlt.trans hlast
      · rw [List.mem_singleton.mp hself]
        exact hlast

/-- One more row that links to the last leaves nothing to report. -/
theorem Clean.append (h : Clean rows) (hordered : Ordered rows)
    (happended : Appended (tailOf rows) row) : Clean (rows ++ [row]) := by
  obtain ⟨w, hrun, hclean⟩ := (clean_iff_of_ordered hordered).mp h
  obtain ⟨pre, chain, hwalked⟩ := walked_of_run hrun (problems_of_finish hclean)
  have hlink := happended.link.trans (hwalked.hash_tailOf hordered)
  have hcontent := happended.content
  rw [← happended.link] at hcontent
  have hhashed : row.contentHash ≠ "" := by
    rw [hcontent]
    exact sha256_ne_empty _
  obtain ⟨w', hstep, hsame⟩ := inspectStep_of_link hhashed hlink hcontent.symm happended.plain
  refine (clean_iff_of_ordered (ordered_append hordered happended)).mpr ⟨w', ?_, hsame.trans hclean⟩
  rw [List.foldlM_append, hrun, Option.bind_eq_bind, Option.bind_some, List.foldlM_cons, hstep]
  rfl

lemma append_all (h : Clean rows) (hordered : Ordered rows)
    (hfollows : Follows (tailOf rows) pending) (hpending : ∀ x ∈ pending, Appended x.1 x.2) :
    Clean (rows ++ pending.map Prod.snd) ∧ Ordered (rows ++ pending.map Prod.snd) := by
  induction pending generalizing rows with
  | nil =>
      rw [List.map_nil, List.append_nil]
      exact ⟨h, hordered⟩
  | cons x pending ih =>
      obtain ⟨tail, row⟩ := x
      obtain ⟨rfl, hrest⟩ := hfollows
      have happended := hpending _ List.mem_cons_self
      have hordered' := ordered_append hordered happended
      have hall := ih (h.append hordered happended) hordered'
        (by rw [tailOf_append_singleton hordered']; exact hrest)
        fun x hx => hpending x (List.mem_cons_of_mem _ hx)
      rw [List.append_assoc, List.singleton_append] at hall
      exact hall

lemma previousHash_eq {g : String} {es : List Entry} (h : Linked g es) :
    es.map Entry.previousHash ++ [lastHash g es] = g :: es.map Entry.contentHash := by
  induction es generalizing g with
  | nil => rfl
  | cons e es ih =>
      rw [List.map_cons, List.map_cons, List.cons_append, lastHash, ih h.2.2.2, h.2.1]

lemma hashInput_inj {g g' : String} {e e' : Entry} (hg : g.toList.length = 64)
    (hg' : g'.toList.length = 64) (h : hashInput g e = hashInput g' e') : g = g' := by
  rw [hashInput_of_length hg, hashInput_of_length hg'] at h
  exact String.toList_injective (List.append_inj h (hg.trans hg'.symm)).1

lemma Linked.hashes {g : String} {es : List Entry} (h : Linked g es) (hg : g.toList.length = 64) :
    ∀ e ∈ es, e.contentHash = computeHash e.previousHash e ∧ e.previousHash.toList.length = 64 := by
  induction es generalizing g with
  | nil => simp
  | cons a es ih =>
      intro e he
      obtain ⟨-, hlink, hcontent, hrest⟩ := h
      rcases List.mem_cons.mp he with rfl | he
      · rw [hlink]
        exact ⟨hcontent, hg⟩
      · refine ih hrest ?_ e he
        rw [hcontent]
        exact length_sha256 _

lemma nodup_hashes {texts : List Text} {es : List Entry} (h : Linked genesis es)
    (htexts : ∀ e ∈ es, hashInput e.previousHash e ∈ texts) (hfree : CollisionFree texts)
    (hgenesis : NeverGenesis texts) : (genesis :: es.map Entry.contentHash).Nodup := by
  induction es using List.reverseRecOn with
  | nil => simp
  | append_singleton es e ih =>
      obtain ⟨hes, -, hprev, hcontent⟩ := linked_append_singleton.mp h
      have hbefore := ih hes fun a ha => htexts a (List.mem_append_left _ ha)
      have htext := htexts e (by simp)
      rw [List.map_append, List.map_singleton, ← List.cons_append, List.nodup_append]
      refine ⟨hbefore, List.nodup_singleton _, ?_⟩
      rintro hash hmem _ hself rfl
      rw [List.mem_singleton] at hself
      rw [hself, hcontent, ← hprev] at hmem
      rcases List.mem_cons.mp hmem with heq | hmem
      · exact hgenesis _ htext heq
      obtain ⟨a, ha, heq⟩ := List.mem_map.mp hmem
      obtain ⟨hcontent_a, hlength_a⟩ := hes.hashes length_genesis a ha
      rw [hcontent_a] at heq
      have hinput := hfree _ (htexts a (List.mem_append_left _ ha)) _ htext heq
      have hlength_e : e.previousHash.toList.length = 64 := by
        rw [hprev]
        exact length_lastHash hes length_genesis
      have hsame := (hashInput_inj hlength_a hlength_e hinput).trans hprev
      -- so an earlier row with this hash links to the last hash as well
      rw [← previousHash_eq hes, List.nodup_append] at hbefore
      exact hbefore.2.2 _ (List.mem_map_of_mem ha) _ (List.mem_singleton_self _) hsame

/-- A log with nothing to report has no fork. -/
theorem Clean.noFork (h : Clean rows) (hordered : Ordered rows)
    (hfree : CollisionFree (hashedTexts rows)) (hgenesis : NeverGenesis (hashedTexts rows)) :
    NoFork rows := by
  obtain ⟨pre, chain, hsound⟩ := h.sound
  have hnodup := nodup_hashes hsound.linked hsound.mem_hashedTexts.2 hfree hgenesis
  rw [← previousHash_eq hsound.linked, List.nodup_append] at hnodup
  rw [byId_of_ordered hordered] at hsound
  have hpre : pre.filter (fun e => e.contentHash ≠ "") = [] := by
    rw [List.filter_eq_nil_iff]
    exact fun e he => by simp [hsound.unhashed e he]
  have hchain : chain.filter (fun e => e.contentHash ≠ "") = chain := by
    rw [List.filter_eq_self]
    exact fun e he => by simp [hsound.linked.hashed e he]
  rw [NoFork, hsound.split, List.filter_append, hpre, hchain, List.nil_append]
  exact hnodup.1

lemma not_noFork {e e' : Entry} (h : List.Sublist [e, e'] rows) (he : e.contentHash ≠ "")
    (he' : e'.contentHash ≠ "") (hsame : e.previousHash = e'.previousHash) : ¬ NoFork rows := by
  intro hfork
  have hsub := (h.filter fun e => decide (e.contentHash ≠ "")).map Entry.previousHash
  have hnodup := List.Nodup.sublist hsub hfork
  simp [he, he', hsame] at hnodup

end Rows

/-! ## Every order of moves -/

def Phase.tail? : Phase → Option Tail
  | .idle => none
  | .waiting _ tail | .locked _ tail | .linked _ tail => some tail

section Runs

variable {τ : Type} [DecidableEq τ] {s : Log τ} {t : τ} {w : Writer}

/-- What a connection has in hand: ids that were given out, and rows that link to what they
read. -/
structure Writer.Kept (w : Writer) (nextId : ℕ) : Prop where
  found : ∀ tail ∈ w.phase.tail?, ∀ p ∈ tail, p.1 < nextId
  appended : ∀ x ∈ w.pending, Appended x.1 x.2
  given : ∀ x ∈ w.pending, x.2.id < nextId

/-- The log is a chain in the order of its ids. -/
structure Log.Kept (s : Log τ) : Prop where
  ordered : Ordered s.rows
  clean : Clean s.rows
  given : ∀ e ∈ s.rows, e.id < s.nextId
  writers : ∀ t, (s.writers t).Kept s.nextId

lemma Writer.Kept.mono {n n' : ℕ} (h : w.Kept n) (hle : n ≤ n') : w.Kept n' where
  found tail ht p hp := (h.found tail ht p hp).trans_le hle
  appended := h.appended
  given x hx := (h.given x hx).trans_le hle

lemma Writer.kept_idle (n : ℕ) : Writer.idle.Kept n where
  found _ h := by cases h
  appended _ h := by cases h
  given _ h := by cases h

lemma Log.Kept.setWriter (h : s.Kept) (hw : w.Kept s.nextId) : (s.setWriter t w).Kept where
  ordered := h.ordered
  clean := h.clean
  given := h.given
  writers u := by
    by_cases hu : u = t
    · subst hu
      simpa [Log.setWriter] using hw
    · simpa [Log.setWriter, hu] using h.writers u

lemma Log.Kept.release (h : s.Kept) (t : τ) : (s.release t).Kept :=
  ⟨h.ordered, h.clean, h.given, h.writers⟩

omit [DecidableEq τ] in
lemma Log.Kept.takeLock (h : s.Kept) (t : τ) (tail : Tail) : (s.takeLock t tail).Kept :=
  ⟨h.ordered, h.clean, h.given, h.writers⟩

omit [DecidableEq τ] in
lemma Log.Kept.publish {pending : List (Tail × Entry)} (h : s.Kept)
    (hfollows : Follows (tailOf s.rows) pending) (happended : ∀ x ∈ pending, Appended x.1 x.2)
    (hgiven : ∀ x ∈ pending, x.2.id < s.nextId) : (s.publish (pending.map Prod.snd)).Kept := by
  obtain ⟨hclean, hordered⟩ := append_all h.clean h.ordered hfollows happended
  have hrows : (s.publish (pending.map Prod.snd)).rows = s.rows ++ pending.map Prod.snd :=
    byId_of_ordered hordered
  refine ⟨by rw [hrows]; exact hordered, by rw [hrows]; exact hclean, fun e he => ?_, h.writers⟩
  rw [hrows] at he
  rcases List.mem_append.mp he with he | he
  · exact h.given e he
  · obtain ⟨x, hx, rfl⟩ := List.mem_map.mp he
    exact hgiven x hx

omit [DecidableEq τ] in
lemma Log.Kept.tailOf_visible (h : s.Kept) (t : τ) : ∀ p ∈ tailOf (s.visible t), p.1 < s.nextId := by
  intro p hp
  obtain ⟨e, he, rfl⟩ := Option.map_eq_some_iff.mp hp
  have hmem := List.mem_of_getLast? he
  rw [byId, List.mem_insertionSort, Log.visible, List.mem_append] at hmem
  rcases hmem with hmem | hmem
  · exact h.given e hmem
  · obtain ⟨x, hx, rfl⟩ := List.mem_map.mp hmem
    exact (h.writers t).given x hx

/-- The row that is inserted links to what was found. -/
lemma appended_link (draft : Draft) {tail : Tail} {n : ℕ} (h : ∀ p ∈ tail, p.1 < n) :
    Appended tail { draft.link tail with id := n } :=
  ⟨draft.plain, rfl, rfl, h⟩

/-- A move keeps the chain when the last row has not moved. -/
theorem kept_step (h : s.Kept) {m : Move τ} (hm : TailUnmoved s m) : (step s m).Kept := by
  cases m with
  | beginTransaction t =>
      rw [step]
      split
      · exact h.setWriter ⟨(h.writers t).found, (h.writers t).appended, (h.writers t).given⟩
      · exact h
  | select t draft =>
      rw [step]
      split
      · refine h.setWriter ⟨fun tail ht => ?_, (h.writers t).appended, (h.writers t).given⟩
        cases ht
        exact h.tailOf_visible t
      · exact h
  | lock t =>
      rw [step]
      split
      · rename_i draft tail hphase
        split
        · refine (h.takeLock t tail).setWriter
            ⟨fun tail' ht => ?_, (h.writers t).appended, (h.writers t).given⟩
          cases ht
          exact (h.writers t).found tail (by rw [hphase]; rfl)
        · exact h
      · exact h
  | leave t =>
      rw [step]
      split
      · rename_i draft tail hphase
        have hset : (s.setWriter t { s.writers t with phase := .linked draft tail }).Kept := by
          refine h.setWriter ⟨fun tail' ht => ?_, (h.writers t).appended, (h.writers t).given⟩
          cases ht
          exact (h.writers t).found tail (by rw [hphase]; rfl)
        dsimp only
        split
        · exact hset
        · exact hset.release t
      · exact h
  | insert t =>
      rw [step]
      split
      · rename_i draft tail hphase
        have happended := appended_link draft
          ((h.writers t).found tail (by rw [hphase]; rfl))
        -- the id is given out
        have hnext : ({ s with nextId := s.nextId + 1 } : Log τ).Kept :=
          ⟨h.ordered, h.clean, fun e he => (h.given e he).trans (Nat.lt_succ_self _),
            fun u => (h.writers u).mono (Nat.le_succ _)⟩
        dsimp only
        split
        · refine hnext.setWriter ⟨(fun _ ht => by cases ht), fun x hx => ?_, fun x hx => ?_⟩
          · rcases List.mem_append.mp hx with hx | hx
            · exact (h.writers t).appended x hx
            · rw [List.mem_singleton.mp hx]
              exact happended
          · rcases List.mem_append.mp hx with hx | hx
            · exact ((h.writers t).given x hx).trans (Nat.lt_succ_self _)
            · rw [List.mem_singleton.mp hx]
              exact Nat.lt_succ_self _
        · rename_i houtside
          have htail : tail = tailOf s.rows :=
            hm tail (by rw [Writer.inserts, hphase]; simp [houtside])
          have hpublish : (({ s with nextId := s.nextId + 1 } : Log τ).publish
              ([(tail, { draft.link tail with id := s.nextId })].map Prod.snd)).Kept := by
            refine hnext.publish ⟨htail, trivial⟩ (fun x hx => ?_) fun x hx => ?_
            · rw [List.mem_singleton.mp hx]
              exact happended
            · rw [List.mem_singleton.mp hx]
              exact Nat.lt_succ_self _
          exact hpublish.setWriter (Writer.kept_idle _)
      · exact h
  | commit t =>
      rw [step]
      split
      · exact ((h.publish hm (h.writers t).appended (h.writers t).given).release t).setWriter
          (Writer.kept_idle _)
      · exact h
  | rollback t => exact (h.release t).setWriter (Writer.kept_idle _)

/-- No append is under way on a log that is in order. -/
structure Quiet (s : Log τ) : Prop where
  ordered : Ordered s.rows
  clean : Clean s.rows
  given : ∀ e ∈ s.rows, e.id < s.nextId
  idle : s.writers = fun _ => .idle

omit [DecidableEq τ] in
lemma Quiet.kept (h : Quiet s) : s.Kept :=
  ⟨h.ordered, h.clean, h.given, fun t => by rw [h.idle]; exact Writer.kept_idle _⟩

/-- In every order of concurrent appends in which the last row has not moved wherever rows
become visible, no two rows claim the same place and the verifier reports no problem. -/
theorem no_fork_of_tailUnmoved {ms : List (Move τ)} (h : Quiet s)
    (hrun : Transition.Guarded step TailUnmoved s ms)
    (hfree : CollisionFree (hashedTexts (Transition.run step s ms).rows))
    (hgenesis : NeverGenesis (hashedTexts (Transition.run step s ms).rows)) :
    NoFork (Transition.run step s ms).rows ∧ Clean (Transition.run step s ms).rows := by
  have hkept : (Transition.run step s ms).Kept :=
    Transition.invariant_of_guarded (I := Log.Kept) (fun s m hm h => kept_step h hm) h.kept hrun
  exact ⟨hkept.clean.noFork hkept.ordered hfree hgenesis, hkept.clean⟩

end Runs

/-! ### Two writers -/

/-- A row about a driver. -/
def verified (driver : String) : Draft where
  row :=
    { id := 0
      actorId := some 1
      actorLabel := "ops"
      actorEmail := ""
      actorRole := "admin"
      action := "driver_verified"
      targetType := "driver"
      targetId := driver
      before := .obj []
      after := .obj [("verified", .bool true)]
      reason := ""
      ipAddress := none
      userAgent := ""
      createdAt := "2026-10-27T09:00:00+00:00"
      previousHash := ""
      contentHash := "" }
  plain := by simp [isAnchor, anchorAction]

/-- A log without rows. -/
def emptyLog : Log ℕ where
  rows := []
  nextId := 1
  locks := fun _ => none
  writers := fun _ => .idle

def append (t : ℕ) (draft : Draft) : List (Move ℕ) :=
  [.select t draft, .lock t, .leave t, .insert t]

/-- The rows of a log after three appends, of which the last two have found the first row. -/
def forked : List Entry :=
  let first := { (verified "6").link none with id := 1 }
  [first, { (verified "7").link (tailOf [first]) with id := 2 },
    { (verified "8").link (tailOf [first]) with id := 3 }]

/-- Two appends outside a transaction: the second reads before the first inserts. -/
def outside : List (Move ℕ) :=
  [.select 1 (verified "7"), .lock 1, .leave 1, .select 2 (verified "8"), .lock 2, .leave 2,
    .insert 1, .insert 2]

/-- Two appends, each in a transaction: the second waits for the lock and goes on with the row it
had found. -/
def inside : List (Move ℕ) :=
  [.beginTransaction 1, .beginTransaction 2, .select 1 (verified "7"), .lock 1,
    .select 2 (verified "8"), .leave 1, .insert 1, .commit 1, .lock 2, .leave 2, .insert 2, .commit 2]

/-- Two appends that take turns, the second in a transaction. -/
def inTurn : List (Move ℕ) :=
  append 1 (verified "7") ++ .beginTransaction 2 :: append 2 (verified "8") ++ [.commit 2]

/-- Appends that take turns leave a chain. -/
theorem appends_in_turn :
    NoFork (Transition.run step emptyLog inTurn).rows ∧
      Clean (Transition.run step emptyLog inTurn).rows := by
  have hdistinct :
      (genesis :: (hashedTexts (Transition.run step emptyLog inTurn).rows).map sha256).Nodup := by
    decide +kernel
  obtain ⟨hfree, hgenesis⟩ := collisionFree_of_nodup hdistinct
  refine no_fork_of_tailUnmoved ⟨List.Pairwise.nil, ⟨_, rfl, rfl⟩, by simp [emptyLog], rfl⟩ ?_
    hfree hgenesis
  refine ⟨trivial, trivial, trivial, fun tail ht => ?_, trivial, trivial, trivial, trivial,
    fun tail ht => ?_, ⟨rfl, trivial⟩, trivial⟩
  · cases ht
    rfl
  · cases ht

/-- Appends that do not take turns fork the chain, outside a transaction and inside one. -/
theorem concurrent_appends_fork :
    ¬ NoFork (Transition.run step emptyLog (append 1 (verified "6") ++ outside)).rows ∧
      ¬ NoFork (Transition.run step emptyLog (append 1 (verified "6") ++ inside)).rows := by
  have hforked : ¬ NoFork forked :=
    not_noFork ((List.Sublist.refl _).cons _) (sha256_ne_empty _) (sha256_ne_empty _) rfl
  exact ⟨hforked, hforked⟩

end SaaradhiGo.AdminAudit
