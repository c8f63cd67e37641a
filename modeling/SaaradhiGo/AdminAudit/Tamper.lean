/-
What a log commits to.

The hash of a row covers the hash of the row before it, so the last hash of a chain commits to
the canonical content of every row of it; the anchor in the chain commits to the run of rows
without hashes.  Two logs with nothing to report and one last hash therefore hold the same
contents, provided no two of the texts that were hashed have one digest.
-/
import SaaradhiGo.AdminAudit.Anchor

namespace SaaradhiGo.AdminAudit

/-! ## The texts that are hashed -/

/-- The leading run of rows without a hash. -/
def preChainRows (rows : List Entry) : List Entry :=
  (byId rows).takeWhile fun e => e.contentHash = ""

def hashedTexts (rows : List Entry) : List Text :=
  preChainText (preChainRows rows) :: rows.map fun e => hashInput e.previousHash e

/-- No two of the texts have one digest. -/
def CollisionFree (texts : List Text) : Prop :=
  ∀ x ∈ texts, ∀ y ∈ texts, sha256 x = sha256 y → x = y

/-- None of the texts has the genesis value for its digest. -/
def NeverGenesis (texts : List Text) : Prop :=
  ∀ x ∈ texts, sha256 x ≠ genesis

lemma collisionFree_of_nodup {texts : List Text} (h : (genesis :: texts.map sha256).Nodup) :
    CollisionFree texts ∧ NeverGenesis texts := by
  rw [List.nodup_cons] at h
  constructor
  · intro x hx y hy hsame
    exact List.inj_on_of_nodup_map h.2 hx hy hsame
  · intro x hx hgenesis
    exact h.1 (hgenesis ▸ List.mem_map_of_mem hx)

/-! ## The chain -/

section Chain

variable {g : String} {es es' pre chain : List Entry} {e : Entry}

/-- The hash a chain ends with is a digest or the one it starts with. -/
lemma length_lastHash (h : Linked g es) (hg : g.toList.length = 64) :
    (lastHash g es).toList.length = 64 := by
  cases es using List.reverseRecOn with
  | nil => exact hg
  | append_singleton es e _ =>
      rw [lastHash_append_singleton, (linked_append_singleton.mp h).2.2.2]
      exact length_sha256 _

lemma hashInput_of_length {hash : String} (h : hash.toList.length = 64) (e : Entry) :
    hashInput hash e = hash.toList ++ canonicalContent e := by
  have hne : hash ≠ "" := by
    rintro rfl
    cases h
  rw [hashInput, if_neg hne]

/-- A chain commits to the canonical content of its rows. -/
theorem map_canonicalContent_of_lastHash {texts : List Text} (h : Linked genesis es)
    (h' : Linked genesis es') (hlast : lastHash genesis es = lastHash genesis es')
    (htexts : ∀ e ∈ es, hashInput e.previousHash e ∈ texts)
    (htexts' : ∀ e ∈ es', hashInput e.previousHash e ∈ texts)
    (hfree : CollisionFree texts) (hgenesis : NeverGenesis texts) :
    es.map canonicalContent = es'.map canonicalContent := by
  induction es using List.reverseRecOn generalizing es' with
  | nil =>
      cases es' using List.reverseRecOn with
      | nil => rfl
      | append_singleton es' e' _ =>
          obtain ⟨-, -, hprev, hcontent⟩ := linked_append_singleton.mp h'
          rw [lastHash_append_singleton, hcontent, ← hprev] at hlast
          exact absurd hlast.symm (hgenesis _ (htexts' e' (by simp)))
  | append_singleton es e ih =>
      obtain ⟨hes, -, hprev, hcontent⟩ := linked_append_singleton.mp h
      cases es' using List.reverseRecOn with
      | nil =>
          rw [lastHash_append_singleton, hcontent, ← hprev] at hlast
          exact absurd hlast (hgenesis _ (htexts e (by simp)))
      | append_singleton es' e' _ =>
          obtain ⟨hes', -, hprev', hcontent'⟩ := linked_append_singleton.mp h'
          rw [lastHash_append_singleton, lastHash_append_singleton, hcontent, hcontent', ← hprev,
            ← hprev'] at hlast
          have hinput := hfree _ (htexts e (by simp)) _ (htexts' e' (by simp)) hlast
          have hlength := length_lastHash hes length_genesis
          have hlength' := length_lastHash hes' length_genesis
          rw [hprev, hprev', hashInput_of_length hlength, hashInput_of_length hlength'] at hinput
          -- both hashes have 64 digits, so the texts split at the same place
          obtain ⟨hhash, hcanonical⟩ := List.append_inj hinput (hlength.trans hlength'.symm)
          rw [List.map_append, List.map_append, List.map_singleton, List.map_singleton, hcanonical,
            ih hes hes' (String.toList_injective hhash) (fun a ha => htexts a (by simp [ha]))
              fun a ha => htexts' a (by simp [ha])]

/-- The run and the chain of a log are what they look like. -/
lemma Sound.preChainRows {rows : List Entry} (h : Sound (byId rows) pre chain) :
    preChainRows rows = pre := by
  rw [AdminAudit.preChainRows, h.split, List.takeWhile_append_of_pos (by simpa using h.unhashed)]
  cases chain with
  | nil => simp
  | cons e chain => simp [h.linked.1]

lemma Vouches.after_eq {text : Text} (h : Vouches e text) :
    ∃ stored, e.after = .obj stored ∧
      stored.lookup "pre_chain_digest" = some (.str (sha256 text)) := by
  obtain ⟨stored, hstored, hdigest⟩ := h
  have hlookup : stored.lookup "pre_chain_digest" = some (.str (sha256 text)) := by
    cases hv : stored.lookup "pre_chain_digest" with
    | none => rw [hv] at hdigest; cases hdigest
    | some v =>
        rw [hv] at hdigest
        cases v with
        | str t => rw [of_decide_eq_true hdigest]
        | _ => cases hdigest
  refine ⟨stored, ?_, hlookup⟩
  -- an empty object, or what is taken for one, has no digest
  have hne : stored ≠ [] := by
    rintro rfl
    cases hlookup
  cases hafter : e.after with
  | obj fs =>
      rw [hafter, storedFields] at hstored
      split at hstored
      · cases hstored
        rfl
      · cases hstored
        exact absurd rfl hne
  | _ =>
      rw [hafter] at hstored
      simp only [storedFields, Option.ite_none_left_eq_some] at hstored
      exact absurd (Option.some.inj hstored.2).symm hne

lemma text_of_vouches {e' : Entry} {text text' : Text} {texts : List Text} (h : Vouches e text)
    (h' : Vouches e' text') (hsame : canonicalContent e = canonicalContent e')
    (htext : text ∈ texts) (htext' : text' ∈ texts) (hfree : CollisionFree texts) :
    text = text' := by
  obtain ⟨stored, hafter, hlookup⟩ := h.after_eq
  obtain ⟨stored', hafter', hlookup'⟩ := h'.after_eq
  have hprinted := after_of_canonicalContent hsame
  rw [hafter, hafter', normalise, normalise] at hprinted
  have hmap := Json.lookup_of_dumps_obj (String.ofList_injective hprinted) "pre_chain_digest"
  rw [hlookup, hlookup', Option.map_some, Option.map_some, Option.some.injEq, Json.dumps,
    Json.dumps] at hmap
  have hdigest := (Json.quote_append (congrArg (· ++ []) hmap)).1
  exact hfree _ htext _ htext' hdigest

lemma lastHash_of_getLast? (h : es.getLast? = some e) : lastHash g es = e.contentHash := by
  obtain ⟨init, rfl⟩ := List.getLast?_eq_some_iff.mp h
  exact lastHash_append_singleton g init e

lemma Sound.lastHash_eq {rows : List Entry} {hash : String} (h : Sound rows pre chain)
    (hlast : rows.getLast?.map Entry.contentHash = some hash) : lastHash genesis chain = hash := by
  obtain ⟨e, he, rfl⟩ := Option.map_eq_some_iff.mp hlast
  rw [h.split] at he
  cases hchain : chain.getLast? with
  | some a =>
      rw [List.getLast?_append, hchain, Option.some_or, Option.some.injEq] at he
      rw [← he]
      exact lastHash_of_getLast? hchain
  | none =>
      -- a run without hashes is vouched for by a row of the chain
      rw [List.getLast?_eq_none_iff] at hchain
      rw [hchain, List.append_nil] at he
      obtain ⟨a, ha, -⟩ := h.anchored (List.ne_nil_of_mem (List.mem_of_getLast? he))
      rw [hchain] at ha
      cases ha

lemma Sound.mem_hashedTexts {rows : List Entry} (h : Sound (byId rows) pre chain) :
    preChainText pre ∈ hashedTexts rows ∧
      ∀ e ∈ chain, hashInput e.previousHash e ∈ hashedTexts rows := by
  refine ⟨?_, fun e he => ?_⟩
  · rw [hashedTexts, h.preChainRows]
    exact List.mem_cons_self
  · have hmem : e ∈ byId rows := by
      rw [h.split]
      exact List.mem_append_right _ he
    rw [byId, List.mem_insertionSort] at hmem
    exact List.mem_cons_of_mem _ (List.mem_map_of_mem hmem)

/-- Chains with one content have anchors at the same places, so the runs before them are the
same. -/
lemma Sound.preChainText_eq {rows rows' pre' chain' : List Entry} {texts : List Text}
    (h : Sound rows pre chain) (h' : Sound rows' pre' chain')
    (hsame : chain.map canonicalContent = chain'.map canonicalContent)
    (htext : preChainText pre ∈ texts) (htext' : preChainText pre' ∈ texts)
    (hfree : CollisionFree texts) : preChainText pre = preChainText pre' := by
  have hmatch : ∀ {l l' : List Entry}, l.map canonicalContent = l'.map canonicalContent →
      ∀ a ∈ l, ∃ a' ∈ l', canonicalContent a = canonicalContent a' := by
    intro l l' hl a ha
    have hmem : canonicalContent a ∈ l'.map canonicalContent := hl ▸ List.mem_map_of_mem ha
    obtain ⟨a', ha', heq⟩ := List.mem_map.mp hmem
    exact ⟨a', ha', heq.symm⟩
  have hanchor : ∀ a ∈ chain, isAnchor a → preChainText pre = preChainText pre' := by
    intro a ha his
    obtain ⟨a', ha', heq⟩ := hmatch hsame a ha
    have his' : isAnchor a' := by rwa [← isAnchor_of_canonicalContent heq]
    exact text_of_vouches (h.vouched a ha his) (h'.vouched a' ha' his') heq htext htext' hfree
  by_cases hpre : pre = []
  · by_cases hpre' : pre' = []
    · rw [hpre, hpre']
    · obtain ⟨a', ha', his'⟩ := h'.anchored hpre'
      obtain ⟨a, ha, heq⟩ := hmatch hsame.symm a' ha'
      exact hanchor a ha (by rwa [isAnchor_of_canonicalContent heq.symm])
  · obtain ⟨a, ha, his⟩ := h.anchored hpre
    exact hanchor a ha his

end Chain

/-- Two logs with nothing to report whose last rows store one hash hold the same contents, row
by row. -/
theorem contents_of_last_hash {rows rows' : List Entry} (h : Clean rows) (h' : Clean rows')
    {hash : String} (hlast : (byId rows).getLast?.map Entry.contentHash = some hash)
    (hlast' : (byId rows').getLast?.map Entry.contentHash = some hash)
    (hfree : CollisionFree (hashedTexts rows ++ hashedTexts rows'))
    (hgenesis : NeverGenesis (hashedTexts rows ++ hashedTexts rows')) :
    (byId rows).map canonicalContent = (byId rows').map canonicalContent := by
  obtain ⟨pre, chain, hsound⟩ := h.sound
  obtain ⟨pre', chain', hsound'⟩ := h'.sound
  obtain ⟨hpre, hchain⟩ := hsound.mem_hashedTexts
  obtain ⟨hpre', hchain'⟩ := hsound'.mem_hashedTexts
  have hcontents := map_canonicalContent_of_lastHash hsound.linked hsound'.linked
    ((hsound.lastHash_eq hlast).trans (hsound'.lastHash_eq hlast').symm)
    (fun e he => List.mem_append_left _ (hchain e he))
    (fun e he => List.mem_append_right _ (hchain' e he)) hfree hgenesis
  have htext := hsound.preChainText_eq hsound' hcontents (List.mem_append_left _ hpre)
    (List.mem_append_right _ hpre') hfree
  rw [hsound.split, hsound'.split, List.map_append, List.map_append, hcontents,
    map_canonicalContent_of_preChainText htext]

/-! ### A row and its anchor -/

/-- A row from before the chain. -/
def oldRow : Entry where
  id := 1
  actorId := none
  actorLabel := "ops"
  actorEmail := ""
  actorRole := ""
  action := "login"
  targetType := "user"
  targetId := "3"
  before := .null
  after := .null
  reason := ""
  ipAddress := none
  userAgent := ""
  createdAt := "2026-01-05T09:00:00+00:00"
  previousHash := ""
  contentHash := ""

def anchorAt (id : ℕ) : Entry :=
  anchorRow [oldRow] oldRow oldRow none id "migration" "2026-10-27T09:00:00+00:00"

def anchoredTexts : List Text :=
  [preChainText [oldRow], hashInput "" oldRow, hashInput genesis (anchorAt 2)]

lemma clean_anchored {id : ℕ} (h : 1 < id) : Clean [oldRow, anchorAt id] := by
  have hordered : Ordered ([oldRow] ++ [anchorAt id]) := by
    simp [Ordered, anchorAt, anchorRow, oldRow, h]
  exact clean_of_writeAnchor hordered rfl rfl rfl

lemma hashedTexts_anchored {id : ℕ} (h : 1 < id) :
    hashedTexts [oldRow, anchorAt id] = anchoredTexts := by
  have hordered : Ordered [oldRow, anchorAt id] := by
    simp [Ordered, anchorAt, anchorRow, oldRow, h]
  have hhashed : (anchorAt id).contentHash ≠ "" := sha256_ne_empty _
  have hrows : preChainRows [oldRow, anchorAt id] = [oldRow] := by
    rw [preChainRows, byId_of_ordered hordered]
    simp [oldRow, hhashed]
  rw [hashedTexts, hrows]
  rfl

/-- Two logs with one last hash, in which the anchor has different ids. -/
theorem anchored_contents :
    (byId [oldRow, anchorAt 2]).map canonicalContent =
      (byId [oldRow, anchorAt 7]).map canonicalContent := by
  have hdistinct : (genesis :: anchoredTexts.map sha256).Nodup := by decide +kernel
  obtain ⟨hfree, hgenesis⟩ := collisionFree_of_nodup hdistinct
  have hlast : (byId [oldRow, anchorAt 2]).getLast?.map Entry.contentHash =
      some (anchorAt 2).contentHash := rfl
  refine contents_of_last_hash (clean_anchored (by decide)) (clean_anchored (by decide)) hlast
    rfl ?_ ?_
  · rw [hashedTexts_anchored (by decide), hashedTexts_anchored (by decide)]
    intro x hx y hy
    rw [List.mem_append, or_self] at hx hy
    exact hfree x hx y hy
  · rw [hashedTexts_anchored (by decide), hashedTexts_anchored (by decide)]
    intro x hx
    rw [List.mem_append, or_self] at hx
    exact hgenesis x hx

end SaaradhiGo.AdminAudit
