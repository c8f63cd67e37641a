/-
The verifier of the audit log.

`inspect_chain` walks the log oldest first and reports every break.  It accepts rows without a
hash only as one run at the start, and only when an anchor further on vouches for them.  A walk
that reports nothing is characterised below: what the rows are then, and that one more row
which links to the last keeps it so.
-/
import SaaradhiGo.AdminAudit.Entry
import Mathlib.Data.List.Induction

namespace SaaradhiGo.AdminAudit

/-! ## The report -/

/-- What is wrong with a row. -/
inductive Issue where
  | unhashedRow
  | brokenLink
  | contentAltered
  | secondAnchor
  | anchorMismatch
  | unanchoredPreChainRows
deriving DecidableEq, Repr

/-- A problem of the report. -/
structure Problem where
  id : Option ℕ
  createdAt : Option String
  issue : Issue
deriving DecidableEq, Repr

/-- The leading run of rows without a hash. -/
structure PreChain where
  rows : ℕ
  firstId : Option ℕ
  lastId : Option ℕ
  anchorId : Option ℕ
deriving DecidableEq, Repr

structure Report where
  checked : ℕ
  problems : List Problem
  preChain : Option PreChain
deriving DecidableEq, Repr

/-! ## The anchor -/

/-- Whether Python takes a value for true. -/
def truthy : Json → Bool
  | .null => false
  | .bool b => b
  | .int n => n ≠ 0
  | .float f => f.intValue ≠ some 0
  | .str s => s ≠ ""
  | .arr vs => !vs.isEmpty
  | .obj fs => !fs.isEmpty

/-- `entry.after or {}`, which has to be an object; anything else has no `get`. -/
def storedFields (after : Json) : Option (List (String × Json)) :=
  if truthy after then
    match after with
    | .obj fs => some fs
    | _ => none
  else some []

/-- A value equals an integer; `True` is 1 and `False` is 0. -/
def equalsInt (n : ℕ) : Option Json → Bool
  | some (.int m) => m = n
  | some (.bool b) => b.toNat = n
  | some (.float f) => f.intValue = some (n : ℤ)
  | _ => false

/-- A value equals an id or `None`. -/
def equalsId : Option ℕ → Option Json → Bool
  | some n, v => equalsInt n v
  | none, none => true
  | none, some .null => true
  | none, _ => false

def equalsStr (s : String) : Option Json → Bool
  | some (.str t) => t = s
  | _ => false

/-! ## The walk -/

/-- The variables of the loop. -/
structure Walk where
  problems : List Problem
  checked : ℕ
  expectedPrevious : String
  preCount : ℕ
  preFirstId : Option ℕ
  preLastId : Option ℕ
  preLastCreated : Option String
  /-- what `pre_digest` was fed -/
  preText : Text
  chainStarted : Bool
  anchor : Option Entry

def Walk.initial : Walk where
  problems := []
  checked := 0
  expectedPrevious := genesis
  preCount := 0
  preFirstId := none
  preLastId := none
  preLastCreated := none
  preText := []
  chainStarted := false
  anchor := none

/-- What an anchor claims is what the walk found. -/
def Walk.vouched (w : Walk) (stored : List (String × Json)) : Bool :=
  equalsInt w.preCount (stored.lookup "pre_chain_rows") &&
    equalsId w.preLastId (stored.lookup "pre_chain_max_id") &&
    equalsStr (sha256 w.preText) (stored.lookup "pre_chain_digest")

def problem (e : Entry) (issue : Issue) : Problem := ⟨some e.id, some e.createdAt, issue⟩

/-- A row without a hash. -/
def unhashedStep (w : Walk) (e : Entry) : Walk :=
  if w.chainStarted then { w with problems := w.problems ++ [problem e .unhashedRow] }
  else { w with
    preCount := w.preCount + 1
    preFirstId := w.preFirstId <|> some e.id
    preLastId := some e.id
    preLastCreated := some e.createdAt
    preText := w.preText ++ canonicalContent e ++ ['\n'] }

def linkProblems (w : Walk) (e : Entry) : List Problem :=
  (if e.previousHash ≠ w.expectedPrevious then [problem e .brokenLink] else []) ++
    if computeHash e.previousHash e ≠ e.contentHash then [problem e .contentAltered] else []

/-- The anchor, when the row is one; `none` when its snapshot is no object. -/
def anchorStep (w : Walk) (e : Entry) : Option Walk :=
  if !isAnchor e then some w
  else if w.anchor.isSome then
    some { w with problems := w.problems ++ [problem e .secondAnchor] }
  else
    (storedFields e.after).map fun stored =>
      { w with
        anchor := some e
        problems := w.problems ++
          if w.vouched stored then [] else [problem e .anchorMismatch] }

/-- One row; `none` when the verifier raises. -/
def inspectStep (w : Walk) (e : Entry) : Option Walk :=
  let w := { w with checked := w.checked + 1 }
  if e.contentHash = "" then some (unhashedStep w e)
  else
    (anchorStep { w with problems := w.problems ++ linkProblems w e } e).map fun w =>
      { w with chainStarted := true, expectedPrevious := e.contentHash }

/-- The end of the walk. -/
def Walk.finish (w : Walk) (limit : Option ℕ) : Report :=
  let limited := limit.any fun n => n ≠ 0
  let walkedPastTheRun := !(limited && w.preCount = w.checked)
  { checked := w.checked
    problems := w.problems ++
      if w.preCount ≠ 0 ∧ w.anchor = none ∧ walkedPastTheRun then
        [⟨w.preLastId, w.preLastCreated, .unanchoredPreChainRows⟩]
      else []
    preChain :=
      if w.preCount ≠ 0 then
        some ⟨w.preCount, w.preFirstId, w.preLastId, w.anchor.map Entry.id⟩
      else none }

def byId (rows : List Entry) : List Entry :=
  rows.insertionSort fun e e' => e.id ≤ e'.id

def inspectChain (queryset : List Entry) (limit : Option ℕ) : Option Report :=
  let rows := byId queryset
  let rows := match limit with
    | none | some 0 => rows
    | some n => rows.take n
  (rows.foldlM inspectStep Walk.initial).map fun w => w.finish limit

/-- `inspect_chain`, without a limit, reports no problem. -/
def Clean (queryset : List Entry) : Prop :=
  ∃ report, inspectChain queryset none = some report ∧ report.problems = []

/-! ## A row that is not reported -/

/-- The anchor's snapshot vouches for a run of rows. -/
def Vouches (e : Entry) (preText : Text) : Prop :=
  ∃ stored, storedFields e.after = some stored ∧
    equalsStr (sha256 preText) (stored.lookup "pre_chain_digest")

/-- A row without a hash, before the chain has started. -/
structure Precedes (w : Walk) (e : Entry) (w' : Walk) : Prop where
  unhashed : e.contentHash = ""
  notStarted : w.chainStarted = false
  started : w'.chainStarted = w.chainStarted
  anchor : w'.anchor = w.anchor
  expected : w'.expectedPrevious = w.expectedPrevious
  preCount : w'.preCount = w.preCount + 1
  preLastId : w'.preLastId = some e.id
  preText : w'.preText = w.preText ++ canonicalContent e ++ ['\n']

/-- A row with a hash that links to the rows before it. -/
structure Links (w : Walk) (e : Entry) (w' : Walk) : Prop where
  hashed : e.contentHash ≠ ""
  link : e.previousHash = w.expectedPrevious
  content : computeHash e.previousHash e = e.contentHash
  anchor : isAnchor e = false ∧ w'.anchor = w.anchor ∨
    isAnchor e = true ∧ w.anchor = none ∧ w'.anchor = some e ∧ Vouches e w.preText
  expected : w'.expectedPrevious = e.contentHash
  started : w'.chainStarted = true
  preCount : w'.preCount = w.preCount
  preLastId : w'.preLastId = w.preLastId
  preText : w'.preText = w.preText

section Step

variable {w w' : Walk} {e : Entry}

lemma vouches_of_vouched {stored : List (String × Json)} (h : storedFields e.after = some stored)
    (hv : w.vouched stored = true) : Vouches e w.preText := by
  rw [Walk.vouched, Bool.and_eq_true] at hv
  exact ⟨stored, h, hv.2⟩

lemma linkProblems_eq_nil_iff : linkProblems w e = [] ↔
    e.previousHash = w.expectedPrevious ∧ computeHash e.previousHash e = e.contentHash := by
  rw [linkProblems, List.append_eq_nil_iff]
  by_cases hlink : e.previousHash = w.expectedPrevious <;> simp [hlink]

/-- What a row did that left nothing to report. -/
theorem inspectStep_clean (h : inspectStep w e = some w') (hclean : w'.problems = []) :
    w.problems = [] ∧ (Precedes w e w' ∨ Links w e w') := by
  rw [inspectStep] at h
  dsimp only at h
  split at h
  · rename_i hunhashed
    cases h
    rw [unhashedStep] at hclean ⊢
    split at hclean
    · simp at hclean
    · rename_i hstarted
      rw [if_neg hstarted]
      exact ⟨hclean, .inl ⟨hunhashed, by simpa using hstarted, rfl, rfl, rfl, rfl, rfl, rfl⟩⟩
  · rename_i hhashed
    obtain ⟨w₁, hanchor, rfl⟩ := Option.map_eq_some_iff.mp h
    dsimp only at hclean
    rw [anchorStep] at hanchor
    have hproblems : ∀ ps : List Problem, w.problems ++ linkProblems { w with
        checked := w.checked + 1 } e ++ ps = [] →
          w.problems = [] ∧ e.previousHash = w.expectedPrevious ∧
            computeHash e.previousHash e = e.contentHash := by
      intro ps hps
      rw [List.append_eq_nil_iff, List.append_eq_nil_iff, linkProblems_eq_nil_iff] at hps
      exact ⟨hps.1.1, hps.1.2⟩
    split at hanchor
    · rename_i hnot
      cases hanchor
      obtain ⟨hw, hlink, hcontent⟩ := hproblems [] (by rw [List.append_nil]; exact hclean)
      exact ⟨hw, .inr ⟨hhashed, hlink, hcontent, .inl ⟨by simpa using hnot, rfl⟩, rfl, rfl, rfl,
        rfl, rfl⟩⟩
    rename_i his
    split at hanchor
    · cases hanchor
      simp at hclean
    rename_i hnone
    obtain ⟨stored, hstored, rfl⟩ := Option.map_eq_some_iff.mp hanchor
    dsimp only at hclean
    obtain ⟨hw, hlink, hcontent⟩ := hproblems _ hclean
    rw [List.append_eq_nil_iff] at hclean
    have hvouched : w.vouched stored = true := by
      by_contra hnot
      have hfalse := hclean.2
      rw [if_neg] at hfalse
      · cases hfalse
      · exact hnot
    exact ⟨hw, .inr ⟨hhashed, hlink, hcontent, .inr ⟨by simpa using his, by simpa using hnone, rfl,
      vouches_of_vouched hstored hvouched⟩, rfl, rfl, rfl, rfl, rfl⟩⟩

lemma inspectStep_of_link (hhashed : e.contentHash ≠ "") (hlink : e.previousHash = w.expectedPrevious)
    (hcontent : computeHash e.previousHash e = e.contentHash) (hplain : isAnchor e = false) :
    ∃ w', inspectStep w e = some w' ∧ (w'.finish none).problems = (w.finish none).problems := by
  have hnone : linkProblems { w with checked := w.checked + 1 } e = [] :=
    linkProblems_eq_nil_iff.mpr ⟨hlink, hcontent⟩
  refine ⟨{ w with
    checked := w.checked + 1
    chainStarted := true
    expectedPrevious := e.contentHash }, ?_, ?_⟩
  · simp [inspectStep, hhashed, hnone, anchorStep, hplain]
  · simp [Walk.finish]

/-- The first anchor is not reported when it links and vouches for what the walk found. -/
lemma inspectStep_of_anchor {stored : List (String × Json)} (hclean : w.problems = [])
    (hhashed : e.contentHash ≠ "") (hlink : e.previousHash = w.expectedPrevious)
    (hcontent : computeHash e.previousHash e = e.contentHash) (his : isAnchor e = true)
    (hnone : w.anchor = none) (hstored : storedFields e.after = some stored)
    (hvouched : w.vouched stored = true) :
    ∃ w', inspectStep w e = some w' ∧ (w'.finish none).problems = [] := by
  refine ⟨{ w with
    checked := w.checked + 1
    anchor := some e
    chainStarted := true
    expectedPrevious := e.contentHash }, ?_, ?_⟩
  · rw [hlink] at hcontent
    rw [Walk.vouched, Bool.and_eq_true, Bool.and_eq_true] at hvouched
    simp [inspectStep, hhashed, anchorStep, his, hnone, hstored, Walk.vouched, hvouched, hclean,
      hlink, hcontent, linkProblems]
  · simp [Walk.finish, hclean]

end Step

/-! ## A chain -/

/-- The rows are hashed, and link one to the next from the hash `g` on. -/
def Linked : String → List Entry → Prop
  | _, [] => True
  | g, e :: es => e.contentHash ≠ "" ∧ e.previousHash = g ∧ e.contentHash = computeHash g e ∧
      Linked e.contentHash es

/-- The hash the next row links to. -/
def lastHash : String → List Entry → String
  | g, [] => g
  | _, e :: es => lastHash e.contentHash es

section Chain

variable {g : String} {es : List Entry} {e : Entry}

lemma linked_append_singleton : Linked g (es ++ [e]) ↔
    Linked g es ∧ e.contentHash ≠ "" ∧ e.previousHash = lastHash g es ∧
      e.contentHash = computeHash (lastHash g es) e := by
  induction es generalizing g with
  | nil => simp [Linked, lastHash]
  | cons a es ih =>
      rw [List.cons_append, Linked, ih, Linked, lastHash]
      constructor
      · rintro ⟨hhashed, hlink, hcontent, hes, hrest⟩
        exact ⟨⟨hhashed, hlink, hcontent, hes⟩, hrest⟩
      · rintro ⟨⟨hhashed, hlink, hcontent, hes⟩, hrest⟩
        exact ⟨hhashed, hlink, hcontent, hes, hrest⟩

@[simp] lemma lastHash_append_singleton (g : String) (es : List Entry) (e : Entry) :
    lastHash g (es ++ [e]) = e.contentHash := by
  induction es generalizing g with
  | nil => rfl
  | cons a es ih => exact ih a.contentHash

lemma Linked.hashed (h : Linked g es) : ∀ e ∈ es, e.contentHash ≠ "" := by
  induction es generalizing g with
  | nil => simp
  | cons a es ih =>
      intro e he
      rcases List.mem_cons.mp he with rfl | he
      · exact h.1
      · exact ih h.2.2.2 e he

end Chain

/-! ## A log with nothing to report -/

/-- What the walk knows after rows none of which was reported: a run without hashes, and a
chain. -/
structure Walked (rows : List Entry) (w : Walk) (pre chain : List Entry) : Prop where
  split : rows = pre ++ chain
  unhashed : ∀ e ∈ pre, e.contentHash = ""
  linked : Linked genesis chain
  vouched : ∀ e ∈ chain, isAnchor e → Vouches e (preChainText pre)
  started : w.chainStarted = false → chain = []
  expected : w.expectedPrevious = lastHash genesis chain
  anchor : w.anchor = chain.find? isAnchor
  preCount : w.preCount = pre.length
  preLastId : w.preLastId = pre.getLast?.map Entry.id
  preText : w.preText = preChainText pre

/-- The rows of a log with nothing to report: a run without hashes, and a chain whose anchor
vouches for it. -/
structure Sound (rows pre chain : List Entry) : Prop where
  split : rows = pre ++ chain
  unhashed : ∀ e ∈ pre, e.contentHash = ""
  linked : Linked genesis chain
  vouched : ∀ e ∈ chain, isAnchor e → Vouches e (preChainText pre)
  anchored : pre ≠ [] → ∃ e ∈ chain, isAnchor e

section Runs

variable {w w' : Walk} {rows pre chain : List Entry} {e : Entry}

lemma walked_nil : Walked [] Walk.initial [] [] :=
  ⟨rfl, by simp, trivial, by simp, fun _ => rfl, rfl, rfl, rfl, rfl, rfl⟩

lemma Walked.precedes (h : Walked rows w pre chain) (hstep : Precedes w e w') :
    Walked (rows ++ [e]) w' (pre ++ [e]) [] := by
  have hchain := h.started hstep.notStarted
  have hanchor := h.anchor
  have hexpected := h.expected
  rw [hchain] at hanchor hexpected
  refine
    { split := by rw [h.split, hchain, List.append_nil, List.append_nil]
      unhashed := fun a ha => ?_
      linked := trivial
      vouched := by simp
      started := fun _ => rfl
      expected := hstep.expected.trans hexpected
      anchor := hstep.anchor.trans hanchor
      preCount := by rw [hstep.preCount, h.preCount, List.length_append, List.length_singleton]
      preLastId := by rw [hstep.preLastId]; simp
      preText := by rw [hstep.preText, h.preText]; simp [preChainText] }
  rcases List.mem_append.mp ha with ha | ha
  · exact h.unhashed a ha
  · rw [List.mem_singleton.mp ha]
    exact hstep.unhashed

lemma Walked.links (h : Walked rows w pre chain) (hstep : Links w e w') :
    Walked (rows ++ [e]) w' pre (chain ++ [e]) := by
  have hlink := hstep.link.trans h.expected
  have hcontent := hstep.content
  rw [hlink] at hcontent
  refine
    { split := by rw [h.split, List.append_assoc]
      unhashed := h.unhashed
      linked := linked_append_singleton.mpr ⟨h.linked, hstep.hashed, hlink, hcontent.symm⟩
      vouched := fun a ha his => ?_
      started := fun hnot => by rw [hstep.started] at hnot; cases hnot
      expected := by rw [hstep.expected, lastHash_append_singleton]
      anchor := ?_
      preCount := hstep.preCount.trans h.preCount
      preLastId := hstep.preLastId.trans h.preLastId
      preText := hstep.preText.trans h.preText }
  · rcases List.mem_append.mp ha with ha | ha
    · exact h.vouched a ha his
    · rw [List.mem_singleton.mp ha] at his ⊢
      rcases hstep.anchor with ⟨hnot, -⟩ | ⟨-, -, -, hv⟩
      · rw [hnot] at his
        cases his
      · exact h.preText ▸ hv
  · rw [List.find?_append, ← h.anchor]
    rcases hstep.anchor with ⟨hnot, hsame⟩ | ⟨his, hnone, hsome, -⟩
    · simp [hnot, hsame]
    · simp [his, hnone, hsome]

/-- A walk that reported no row found a run without hashes and a chain. -/
theorem walked_of_run (hrun : rows.foldlM inspectStep Walk.initial = some w)
    (hclean : w.problems = []) : ∃ pre chain, Walked rows w pre chain := by
  induction rows using List.reverseRecOn generalizing w with
  | nil =>
      cases hrun
      exact ⟨[], [], walked_nil⟩
  | append_singleton rows e ih =>
      rw [List.foldlM_append, Option.bind_eq_bind, Option.bind_eq_some_iff] at hrun
      obtain ⟨w₁, hrun₁, hrest⟩ := hrun
      rw [List.foldlM_cons, Option.bind_eq_bind, Option.bind_eq_some_iff] at hrest
      obtain ⟨w₂, hstep, hlast⟩ := hrest
      cases hlast
      obtain ⟨hclean₁, hprecedes | hlinks⟩ := inspectStep_clean hstep hclean
      · obtain ⟨pre, chain, hwalked⟩ := ih hrun₁ hclean₁
        exact ⟨_, _, hwalked.precedes hprecedes⟩
      · obtain ⟨pre, chain, hwalked⟩ := ih hrun₁ hclean₁
        exact ⟨_, _, hwalked.links hlinks⟩

/-- At the end of a walk with nothing to report the run is vouched for. -/
lemma Walked.sound (h : Walked rows w pre chain) (hclean : (w.finish none).problems = []) :
    Sound rows pre chain := by
  refine ⟨h.split, h.unhashed, h.linked, h.vouched, fun hne => ?_⟩
  have hcount : w.preCount ≠ 0 := by
    rw [h.preCount]
    exact (List.length_pos_iff.mpr hne).ne'
  have hanchor : w.anchor ≠ none := by
    intro hnone
    simp [Walk.finish, hcount, hnone] at hclean
  rw [h.anchor] at hanchor
  obtain ⟨e, he⟩ := Option.ne_none_iff_exists'.mp hanchor
  exact ⟨e, List.mem_of_find?_eq_some he, List.find?_some he⟩

lemma problems_of_finish (h : (w.finish none).problems = []) : w.problems = [] := by
  rw [Walk.finish] at h
  exact (List.append_eq_nil_iff.mp h).1

/-- A log with nothing to report is a run without hashes and a chain that vouches for it. -/
theorem Clean.sound (h : Clean rows) : ∃ pre chain, Sound (byId rows) pre chain := by
  obtain ⟨report, hreport, hclean⟩ := h
  rw [inspectChain] at hreport
  obtain ⟨w, hrun, rfl⟩ := Option.map_eq_some_iff.mp hreport
  obtain ⟨pre, chain, hwalked⟩ := walked_of_run hrun (problems_of_finish hclean)
  exact ⟨pre, chain, hwalked.sound hclean⟩

end Runs

end SaaradhiGo.AdminAudit
