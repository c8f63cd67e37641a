/-
The anchor of the audit log.

Rows that were there before the chain are vouched for by one row, appended by a migration: it
records how many they are, the last id among them, and a digest of their canonical contents.
What `write_anchor` appends leaves the verifier nothing to report.
-/
import SaaradhiGo.AdminAudit.Inspect

namespace SaaradhiGo.AdminAudit

/-! ## The last row -/

/-- What is read of the last row: its id, and its hash. -/
abbrev Tail : Type := Option (ℕ × String)

def tailOf (rows : List Entry) : Tail :=
  (byId rows).getLast?.map fun e => (e.id, e.contentHash)

/-- `(tail or {}).get('content_hash') or GENESIS`. -/
def Tail.hash (tail : Tail) : String :=
  match tail with
  | none => genesis
  | some (_, hash) => if hash = "" then genesis else hash

def Ordered (rows : List Entry) : Prop := rows.Pairwise fun e e' => e.id < e'.id

lemma byId_of_ordered (h : Ordered rows) : byId rows = rows :=
  (h.imp fun hlt => hlt.le).insertionSort_eq

section Ordered

variable {rows pre chain : List Entry} {w : Walk}

lemma clean_iff_of_ordered (h : Ordered rows) : Clean rows ↔
    ∃ w, rows.foldlM inspectStep Walk.initial = some w ∧ (w.finish none).problems = [] := by
  rw [Clean, inspectChain, byId_of_ordered h]
  constructor
  · rintro ⟨report, hreport, hclean⟩
    obtain ⟨w, hrun, rfl⟩ := Option.map_eq_some_iff.mp hreport
    exact ⟨w, hrun, hclean⟩
  · rintro ⟨w, hrun, hclean⟩
    exact ⟨w.finish none, Option.map_eq_some_iff.mpr ⟨w, hrun, rfl⟩, hclean⟩

lemma Walked.hash_tailOf (h : Walked rows w pre chain) (hordered : Ordered rows) :
    (tailOf rows).hash = w.expectedPrevious := by
  rw [tailOf, byId_of_ordered hordered, h.expected, h.split]
  cases chain using List.reverseRecOn with
  | nil =>
      rw [List.append_nil]
      cases hlast : pre.getLast? with
      | none => rfl
      | some e => simp [Tail.hash, lastHash, h.unhashed e (List.mem_of_getLast? hlast)]
  | append_singleton chain e _ =>
      have hhashed := (linked_append_singleton.mp h.linked).2.1
      rw [← List.append_assoc, lastHash_append_singleton]
      simp [Tail.hash, hhashed]

end Ordered

/-! ## The anchor -/

/-- The table is not in a state an anchor can honestly describe. -/
inductive ChainStateError where
  | alreadyAnchored
  /-- a row without a hash comes after one with a hash -/
  | unhashedAfterHashed
deriving DecidableEq, Repr

/-- The anchor for a run of rows, of which `first` and `last` are the ends. -/
def anchorRow (unhashed : List Entry) (first last : Entry) (tail : Tail) (id : ℕ)
    (label createdAt : String) : Entry :=
  let row : Entry :=
    { id
      actorId := none
      actorLabel := label
      actorEmail := ""
      actorRole := ""
      action := anchorAction
      targetType := anchorTargetType
      targetId := ""
      before := .obj []
      after := .obj
        [("pre_chain_rows", .int unhashed.length),
          ("pre_chain_first_id", .int first.id),
          ("pre_chain_max_id", .int last.id),
          ("pre_chain_digest", .str (preChainDigest unhashed)),
          ("digest", .str
            "sha256 over canonical_content of each row in id order, newline-terminated")]
      reason := "Hash chain started. The " ++ toString unhashed.length ++
        " row(s) before this one predate the chain and carry no hash; they are protected by the" ++
        " digest in this row, not by being rewritten."
      ipAddress := none
      userAgent := ""
      createdAt
      previousHash := ""
      contentHash := "" }
  { row with
    previousHash := tail.hash
    contentHash := computeHash tail.hash row }

/-- `write_anchor`: the anchor, or nothing when there is no row to anchor. -/
def writeAnchor (rows : List Entry) (id : ℕ) (label createdAt : String) :
    Except ChainStateError (Option Entry) :=
  if rows.any isAnchor then .error .alreadyAnchored
  else
    let unhashed := (byId rows).filter fun e => e.contentHash = ""
    match unhashed.head?, unhashed.getLast? with
    | some first, some last =>
        let firstHashed := (byId rows).find? fun e => e.contentHash ≠ ""
        if firstHashed.any fun e => last.id > e.id then .error .unhashedAfterHashed
        else .ok (some (anchorRow unhashed first last (tailOf rows) id label createdAt))
    | _, _ => .ok none

/-- The anchor that is appended to a log none of whose rows is reported leaves nothing to
report. -/
theorem clean_of_writeAnchor {rows : List Entry} {row : Entry} {id : ℕ} {label createdAt : String}
    {w : Walk} (hordered : Ordered (rows ++ [row]))
    (hrun : rows.foldlM inspectStep Walk.initial = some w) (hclean : w.problems = [])
    (h : writeAnchor rows id label createdAt = .ok (some row)) : Clean (rows ++ [row]) := by
  have hrows : Ordered rows := (List.pairwise_append.mp hordered).1
  obtain ⟨pre, chain, hwalked⟩ := walked_of_run hrun hclean
  have hunhashed : (byId rows).filter (fun e => e.contentHash = "") = pre := by
    have hpre : pre.filter (fun e => e.contentHash = "") = pre := by
      rw [List.filter_eq_self]
      exact fun e he => by simp [hwalked.unhashed e he]
    have hchain : chain.filter (fun e => e.contentHash = "") = [] := by
      rw [List.filter_eq_nil_iff]
      exact fun e he => by simp [hwalked.linked.hashed e he]
    rw [byId_of_ordered hrows, hwalked.split, List.filter_append, hpre, hchain, List.append_nil]
  rw [writeAnchor, hunhashed] at h
  split at h
  · cases h
  rename_i hnone
  dsimp only at h
  split at h
  swap
  · cases h
  rename_i first last hfirst hlast
  split at h
  · cases h
  cases h
  have hanchor : w.anchor = none := by
    rw [hwalked.anchor, List.find?_eq_none]
    intro e he his
    refine hnone (List.any_eq_true.mpr ⟨e, ?_, his⟩)
    rw [hwalked.split]
    exact List.mem_append_right _ he
  -- it claims what the walk found
  have hvouched : w.vouched [("pre_chain_rows", .int pre.length),
      ("pre_chain_first_id", .int first.id), ("pre_chain_max_id", .int last.id),
      ("pre_chain_digest", .str (preChainDigest pre)),
      ("digest", .str
        "sha256 over canonical_content of each row in id order, newline-terminated")] = true := by
    simp [Walk.vouched, List.lookup_cons, equalsInt, equalsStr, equalsId, hwalked.preCount,
      hwalked.preLastId, hwalked.preText, hlast, preChainDigest]
  have hlink : (tailOf rows).hash = w.expectedPrevious := hwalked.hash_tailOf hrows
  obtain ⟨w', hstep, hfinish⟩ := inspectStep_of_anchor
    (e := anchorRow pre first last (tailOf rows) id label createdAt) hclean (sha256_ne_empty _)
    hlink rfl rfl hanchor rfl hvouched
  refine (clean_iff_of_ordered hordered).mpr ⟨w', ?_, hfinish⟩
  rw [List.foldlM_append, hrun, Option.bind_eq_bind, Option.bind_some, List.foldlM_cons, hstep]
  rfl

end SaaradhiGo.AdminAudit
