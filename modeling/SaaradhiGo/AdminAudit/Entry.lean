/-
The rows of the admin audit log and what their hashes cover.

A row stores the hash of the row before it and the SHA-256 of that hash followed by its own
canonical content, a JSON object with sorted keys.  Two fields were added after rows had been
hashed; they enter the canonical content only when they hold a value.
-/
import SaaradhiGo.Lib.Json
import SaaradhiGo.Lib.Sha256

namespace SaaradhiGo.AdminAudit

/-! ## Rows -/

/-- A row of the audit log.  A datetime is its ISO text. -/
structure Entry where
  id : ℕ
  actorId : Option ℤ
  actorLabel : String
  actorEmail : String
  actorRole : String
  action : String
  targetType : String
  targetId : String
  before : Json
  after : Json
  reason : String
  ipAddress : Option String
  userAgent : String
  createdAt : String
  previousHash : String
  contentHash : String

/-- What the first row in the chain links to. -/
def genesis : String :=
  "0000000000000000000000000000000000000000000000000000000000000000"

def anchorAction : String := "chain_anchor"

def anchorTargetType : String := "audit_chain"

def isAnchor (e : Entry) : Bool :=
  e.action = anchorAction && e.targetType = anchorTargetType

/-! ## The canonical content -/

abbrev Text : Type := List Char

/-- `hashlib.sha256` of a text in UTF-8, in hexadecimal. -/
def sha256 (text : Text) : String :=
  String.ofList (Sha256.hexdigest (text.flatMap String.utf8EncodeChar))

/-- `_normalise` of a JSON value: an object or a list is printed, and anything else is what
`str` gives. -/
def normalise : Json → String
  | .null => ""
  | .bool true => "True"
  | .bool false => "False"
  | .int n => String.ofList (Json.intText n)
  | .float f => String.ofList f.text
  | .str s => s
  | .arr vs => String.ofList (Json.dumps (.arr vs))
  | .obj fs => String.ofList (Json.dumps (.obj fs))

/-- `HASHED_FIELDS`, with their normalised values. -/
def hashedFields (e : Entry) : List (String × String) :=
  [("actor_id", (e.actorId.map fun n => String.ofList (Json.intText n)).getD ""),
    ("actor_label", e.actorLabel),
    ("action", e.action),
    ("target_type", e.targetType),
    ("target_id", e.targetId),
    ("before", normalise e.before),
    ("after", normalise e.after),
    ("reason", e.reason),
    ("ip_address", e.ipAddress.getD ""),
    ("user_agent", e.userAgent),
    ("created_at", e.createdAt),
    ("actor_email", e.actorEmail),
    ("actor_role", e.actorRole)]

def optionalFields : List String := ["actor_email", "actor_role"]

def parts (e : Entry) : List (String × String) :=
  (hashedFields e).filter fun f => ¬(f.1 ∈ optionalFields ∧ f.2 = "")

def members (e : Entry) : List (String × Json) :=
  (parts e).map fun f => (f.1, .str f.2)

def canonicalContent (e : Entry) : Text :=
  Json.dumps (.obj (members e))

/-- The text that `compute_hash` hashes. -/
def hashInput (previousHash : String) (e : Entry) : Text :=
  (if previousHash = "" then genesis else previousHash).toList ++ canonicalContent e

def computeHash (previousHash : String) (e : Entry) : String :=
  sha256 (hashInput previousHash e)

/-- The text that `pre_chain_digest` hashes: each canonical content with a newline after it. -/
def preChainText (rows : List Entry) : Text :=
  rows.flatMap fun e => canonicalContent e ++ ['\n']

def preChainDigest (rows : List Entry) : String :=
  sha256 (preChainText rows)

/-! ## What the canonical content determines -/

lemma length_sha256 (text : Text) : (sha256 text).toList.length = 64 := by
  rw [sha256, String.toList_ofList, Sha256.length_hexdigest]

lemma length_genesis : genesis.toList.length = 64 := by decide

lemma sha256_ne_empty (text : Text) : sha256 text ≠ "" := by
  intro h
  have hlength := length_sha256 text
  rw [h] at hlength
  cases hlength

section Canonical

variable {e e' : Entry}

/-- Two rows with one canonical content have the same value in every field that is always
hashed. -/
lemma lookup_members_of_canonicalContent (h : canonicalContent e = canonicalContent e')
    (k : String) :
    ((members e).lookup k).map Json.dumps = ((members e').lookup k).map Json.dumps :=
  Json.lookup_of_dumps_obj h k

lemma lookup_parts {k : String} (hk : k ∉ optionalFields) :
    (members e).lookup k = ((hashedFields e).lookup k).map Json.str := by
  have hfilter : ∀ l : List (String × String),
      ((l.filter fun f => ¬(f.1 ∈ optionalFields ∧ f.2 = "")).map fun f => (f.1, Json.str f.2)).lookup k
        = (l.lookup k).map Json.str := by
    intro l
    induction l with
    | nil => rfl
    | cons f l ih =>
        obtain ⟨k', v⟩ := f
        rw [List.filter_cons, List.lookup_cons]
        by_cases hkk : k = k'
        · subst hkk
          simp [hk]
        · have hne : (k == k') = false := by simpa using hkk
          rw [hne]
          split
          · rw [List.map_cons, List.lookup_cons, hne]
            exact ih
          · exact ih
  exact hfilter _

lemma lookup_of_canonicalContent (h : canonicalContent e = canonicalContent e') {k : String}
    (hk : k ∉ optionalFields) : (hashedFields e).lookup k = (hashedFields e').lookup k := by
  have hmap := lookup_members_of_canonicalContent h k
  rw [lookup_parts hk, lookup_parts hk, Option.map_map, Option.map_map] at hmap
  refine Option.map_injective (fun a b hab => ?_) hmap
  -- two strings with one text are the same
  have hquote : Json.quote a ++ [] = Json.quote b ++ [] := by
    simpa [Json.dumps] using hab
  exact (Json.quote_append hquote).1

lemma action_of_canonicalContent (h : canonicalContent e = canonicalContent e') :
    e.action = e'.action := by
  have hk := lookup_of_canonicalContent h (k := "action") (by decide)
  simpa [hashedFields, List.lookup_cons] using hk

lemma targetType_of_canonicalContent (h : canonicalContent e = canonicalContent e') :
    e.targetType = e'.targetType := by
  have hk := lookup_of_canonicalContent h (k := "target_type") (by decide)
  simpa [hashedFields, List.lookup_cons] using hk

lemma after_of_canonicalContent (h : canonicalContent e = canonicalContent e') :
    normalise e.after = normalise e'.after := by
  have hk := lookup_of_canonicalContent h (k := "after") (by decide)
  simpa [hashedFields, List.lookup_cons] using hk

lemma isAnchor_of_canonicalContent (h : canonicalContent e = canonicalContent e') :
    isAnchor e = isAnchor e' := by
  rw [isAnchor, isAnchor, action_of_canonicalContent h, targetType_of_canonicalContent h]

lemma map_canonicalContent_of_preChainText {rows rows' : List Entry}
    (h : preChainText rows = preChainText rows') :
    rows.map canonicalContent = rows'.map canonicalContent := by
  induction rows generalizing rows' with
  | nil =>
      cases rows' with
      | nil => rfl
      | cons e' rows' => simp [preChainText] at h
  | cons e rows ih =>
      cases rows' with
      | nil => simp [preChainText] at h
      | cons e' rows' =>
          simp only [preChainText, List.flatMap_cons, List.append_assoc] at h
          obtain ⟨hcontent, hrest⟩ := Json.obj_append h
          simp only [List.cons_append, List.nil_append, List.cons.injEq, true_and] at hrest
          rw [List.map_cons, List.map_cons, ih hrest]
          exact congrArg (· :: _) hcontent

end Canonical

end SaaradhiGo.AdminAudit
