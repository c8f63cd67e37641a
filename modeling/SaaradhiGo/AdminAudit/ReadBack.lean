/-
Audit rows as they are written and as they are read back.

The hash of a row is taken over its values in memory.  The database keeps JSON documents, texts
and an address, each in a form of its own, so the row that is read back hashes to the same value
only when every value came back in the form it was hashed in.
-/
import SaaradhiGo.AdminAudit.Tamper
import SaaradhiGo.Lib.Python
import Mathlib.Data.Rat.Defs
import Mathlib.Algebra.Order.Ring.Unbundled.Rat

namespace SaaradhiGo.AdminAudit

/-! ## Values in memory -/

/-- A key of a dict. -/
inductive Key where
  | text (s : String)
  | none
  | number (text : String) (value : ℚ)

def Key.inJson : Key → String
  | text s => s
  | none => "null"
  | number t _ => t

/-- A value that JSON can print. -/
inductive Value where
  | null
  | bool (b : Bool)
  | int (n : ℤ)
  | float (f : Json.Float)
  | str (s : String)
  | list (vs : List Value)
  | tuple (vs : List Value)
  | dict (fs : List (Key × Value))

/-- Different keys of one dict. -/
def Key.Differs : Key → Key → Prop
  | number t a, number t' b => t ≠ t' ∧ a ≠ b
  | k, k' => k.inJson ≠ k'.inJson

mutual

/-- The keys of every dict differ. -/
def Value.Distinct : Value → Prop
  | .list vs => Value.DistinctAll vs
  | .tuple vs => Value.DistinctAll vs
  | .dict fs => (fs.map Prod.fst).Pairwise Key.Differs ∧ Value.DistinctFields fs
  | _ => True

def Value.DistinctAll : List Value → Prop
  | [] => True
  | v :: vs => v.Distinct ∧ Value.DistinctAll vs

def Value.DistinctFields : List (Key × Value) → Prop
  | [] => True
  | (_, v) :: fs => v.Distinct ∧ Value.DistinctFields fs

end

/-- A value of the language: its dicts have each key once. -/
abbrev PyValue : Type := { v : Value // v.Distinct }

/-- `bool` of a value. -/
def Value.truthy : Value → Bool
  | .null => false
  | .bool b => b
  | .int n => n ≠ 0
  | .float f => f.intValue ≠ some 0
  | .str s => s ≠ ""
  | .list vs => !vs.isEmpty
  | .tuple vs => !vs.isEmpty
  | .dict fs => !fs.isEmpty

/-! ## Printing with sorted keys -/

/-- Keys of one kind are compared by what they are. -/
def Key.le : Key → Key → Bool
  | text s, text t => s ≤ t
  | number _ a, number _ b => a ≤ b
  | none, _ => true
  | text _, number _ _ => true
  | _, _ => false

def Key.isText : Key → Bool
  | text _ => true
  | _ => false

def Key.isNumber : Key → Bool
  | number _ _ => true
  | _ => false

/-- `sorted(dct.items())`: keys of different kinds have no order, so two of them raise. -/
def sortItems {α : Type} (ms : List (Key × α)) : Option (List (Key × α)) :=
  if ms.length ≤ 1 ∨ ms.all (fun m => m.1.isText) = true ∨ ms.all (fun m => m.1.isNumber) = true then
    some (ms.insertionSort fun a b => a.1.le b.1 = true)
  else none

mutual

/-- `json.dumps(value, sort_keys=True, separators=(',', ':'))`. -/
def Value.dumps : Value → Option (List Char)
  | .null => some ['n', 'u', 'l', 'l']
  | .bool true => some ['t', 'r', 'u', 'e']
  | .bool false => some ['f', 'a', 'l', 's', 'e']
  | .int n => some (Json.intText n)
  | .float f => some f.text
  | .str s => some (Json.quote s)
  | .list vs => do
      let ts ← Value.dumpsAll vs
      return '[' :: Json.commas ts ++ [']']
  | .tuple vs => do
      let ts ← Value.dumpsAll vs
      return '[' :: Json.commas ts ++ [']']
  | .dict fs => do
      let ms ← Value.dumpsFields fs
      let sorted ← sortItems ms
      return '\x7b' :: Json.commas (sorted.map fun m => Json.member (m.1.inJson, m.2)) ++ ['\x7d']

def Value.dumpsAll : List Value → Option (List (List Char))
  | [] => some []
  | v :: vs => do
      let t ← v.dumps
      let ts ← Value.dumpsAll vs
      return t :: ts

def Value.dumpsFields : List (Key × Value) → Option (List (Key × List Char))
  | [] => some []
  | (k, v) :: fs => do
      let t ← v.dumps
      let ms ← Value.dumpsFields fs
      return (k, t) :: ms

end

/-- What `str` gives of a list, a tuple or a dict. -/
structure Printer where
  containerText : Value → String
  tuple_paren : ∀ vs, (containerText (.tuple vs)).toList.head? = some '('

/-- `_normalise` of a value in memory. -/
def normaliseValue (py : Printer) : Value → Option String
  | .null => some ""
  | .bool true => some "True"
  | .bool false => some "False"
  | .int n => some (String.ofList (Json.intText n))
  | .float f => some (String.ofList f.text)
  | .str s => some s
  | .list vs => (Value.list vs).dumps.map String.ofList
  | .dict fs => (Value.dict fs).dumps.map String.ofList
  | .tuple vs => some (py.containerText (.tuple vs))

/-! ## The database -/

/-- How the columns give a number of a document and an address back. -/
structure Database where
  number : Json.Float → ℤ ⊕ Json.Float
  address : String → String

/-- A number, as a document has it. -/
def Database.json (db : Database) (f : Json.Float) : Json :=
  match db.number f with
  | .inl n => .int n
  | .inr g => .float g

section Stored

variable (db : Database)

mutual

/-- A value of a `JSONField`, as it is read back. -/
def Value.stored : Value → Json
  | .null => .null
  | .bool b => .bool b
  | .int n => .int n
  | .float f => db.json f
  | .str s => .str s
  | .list vs => .arr (Value.storedAll vs)
  | .tuple vs => .arr (Value.storedAll vs)
  | .dict fs => .obj (Value.storedFields fs)

def Value.storedAll : List Value → List Json
  | [] => []
  | v :: vs => Value.stored v :: Value.storedAll vs

def Value.storedFields : List (Key × Value) → List (String × Json)
  | [] => []
  | (k, v) :: fs => (k.inJson, Value.stored v) :: Value.storedFields fs

end

end Stored

/-! ## The caller's address -/

/-- `ipaddress`. -/
structure Addresses where
  Address : Type
  /-- `ip_address` -/
  read : String → Option Address
  /-- `str` of an address -/
  text : Address → String
  /-- `_is_internal` -/
  internal : Address → Bool

/-- What a request says of its caller. -/
structure Meta where
  remoteAddr : Option String
  forwardedFor : Option String
  userAgent : Option String

section ClientIp

variable (net : Addresses)

/-- What `_parse` reads as an address: without quotes, brackets and a port. -/
def bareAddress (t : List Char) : List Char :=
  let t := ((Python.stripList t).dropWhile (· = '"')).rdropWhile (· = '"')
  if t.head? = some '[' ∧ ']' ∈ t then (t.drop 1).takeWhile (· ≠ ']')
  else if t.count ':' = 1 then t.takeWhile (· ≠ ':')
  else t

/-- `_parse`. -/
def parseAddress (t : List Char) : Option net.Address := net.read (String.ofList (bareAddress t))

/-- `client_ip`, with `count` trusted proxies. -/
def clientIp (count : ℕ) (m : Meta) : Option String :=
  let remote := parseAddress net ((m.remoteAddr.getD "").toList)
  let forwarded := (m.forwardedFor.getD "").toList
  let hops :=
    if (Python.stripList forwarded).isEmpty then []
    else (forwarded.splitOn ',').map (parseAddress net)
  let chain := (hops.filterMap id).rdropWhile net.internal
  if hops ≠ [] ∧ count ≠ 0 ∧ count ≤ chain.length then
    chain[chain.length - count]?.map net.text
  else remote.map net.text

end ClientIp

/-! ## Writing a row -/

/-- A reason is a text; what a request's body gives in its place may be a list. -/
inductive Reason where
  | text (s : String)
  | list (vs : List Value) (distinct : Value.DistinctAll vs)
  | tuple (vs : List Value)

/-- A row in memory. -/
structure Row where
  actorId : Option ℤ
  actorLabel : String
  actorEmail : String
  actorRole : String
  action : String
  targetType : String
  targetId : String
  before : PyValue
  after : PyValue
  reason : Reason
  ipAddress : Option String
  userAgent : String
  createdAt : String

section Rows

variable (py : Printer) (db : Database)

/-- `_normalise` of a reason. -/
def Reason.normalise : Reason → Option String
  | text s => some s
  | list vs _ => (Value.list vs).dumps.map String.ofList
  | tuple vs => some (py.containerText (.tuple vs))

/-- What a `TextField` keeps of it. -/
def Reason.stored : Reason → String
  | text s => s
  | list vs _ => py.containerText (.list vs)
  | tuple vs => py.containerText (.tuple vs)

/-- The row with the values that are hashed: a text is normalised to itself. -/
def Row.normalised (row : Row) : Option Entry := do
  let before ← normaliseValue py row.before
  let after ← normaliseValue py row.after
  let reason ← row.reason.normalise py
  return {
    id := 0
    actorId := row.actorId
    actorLabel := row.actorLabel
    actorEmail := row.actorEmail
    actorRole := row.actorRole
    action := row.action
    targetType := row.targetType
    targetId := row.targetId
    before := .str before
    after := .str after
    reason := reason
    ipAddress := row.ipAddress
    userAgent := row.userAgent
    createdAt := row.createdAt
    previousHash := ""
    contentHash := "" }

def Row.readBack (row : Row) (id : ℕ) (previousHash contentHash : String) : Entry where
  id := id
  actorId := row.actorId
  actorLabel := row.actorLabel
  actorEmail := row.actorEmail
  actorRole := row.actorRole
  action := row.action
  targetType := row.targetType
  targetId := row.targetId
  before := row.before.1.stored db
  after := row.after.1.stored db
  reason := row.reason.stored py
  ipAddress := row.ipAddress.map db.address
  userAgent := row.userAgent
  createdAt := row.createdAt
  previousHash := previousHash
  contentHash := contentHash

/-- `save` of a new row behind the tail's hash, and the row as it is read back. -/
def Row.save (row : Row) (tail : Option String) (id : ℕ) : Option Entry := do
  let hashed ← row.normalised py
  let tailHash := tail.getD ""
  let previousHash := if tailHash = "" then genesis else tailHash
  return row.readBack py db id previousHash (computeHash previousHash hashed)

end Rows

lemma distinctAll_take {vs : List Value} (h : Value.DistinctAll vs) (n : ℕ) :
    Value.DistinctAll (vs.take n) := by
  induction vs generalizing n with
  | nil =>
    rw [List.take_nil]
    exact trivial
  | cons v vs ih =>
    cases n with
    | zero => exact trivial
    | succ n => exact ⟨h.1, ih h.2 n⟩

/-- `value or {}`. -/
def orEmpty (v : PyValue) : PyValue :=
  if v.1.truthy then v else ⟨.dict [], .nil, trivial⟩

/-- `(reason or '')[:10000]`: what cannot be sliced raises. -/
def sliceReason (v : PyValue) : Option Reason :=
  if v.1.truthy then
    match v with
    | ⟨.str s, _⟩ => some (.text (String.ofList (s.toList.take 10000)))
    | ⟨.list vs, h⟩ => some (.list (vs.take 10000) (distinctAll_take h 10000))
    | ⟨.tuple vs, _⟩ => some (.tuple (vs.take 10000))
    | _ => none
  else some (.text "")

/-- Who acted: the four columns of `actor_snapshot`, and the label. -/
structure Actor where
  id : Option ℤ
  label : String
  email : String
  role : String

/-- `record_admin_action`, as far as the row: it is none when the reason raises. -/
def recordAdminAction (net : Addresses) (count : ℕ) (request : Option Meta) (actor : Actor)
    (action targetType : String) (targetId : Option String) (before after reason : PyValue)
    (now : String) : Option Row := do
  let reason ← sliceReason reason
  return {
    actorId := actor.id
    actorLabel := actor.label
    actorEmail := actor.email
    actorRole := actor.role
    action := action
    targetType := targetType
    targetId := targetId.getD ""
    before := orEmpty before
    after := orEmpty after
    reason := reason
    ipAddress := request.bind (clientIp net count)
    userAgent := String.ofList
      (((request.bind Meta.userAgent).getD "").toList.take 512)
    createdAt := now }

/-! ## Documents that come back -/

/-- A smaller number. -/
def Key.Below : Key → Key → Prop
  | number _ a, number _ b => a < b
  | _, _ => False

/-- A smaller number has a smaller text. -/
def InOrder (ks : List Key) : Prop := ∀ k ∈ ks, ∀ k' ∈ ks, k.Below k' → k.inJson ≤ k'.inJson

section Documents

variable (db : Database)

mutual

/-- What is printed of a value is printed of it when it is read back: its floats come back as they
were, and its numeric keys have the order of their texts. -/
def Value.Comes : Value → Prop
  | .float f => Json.dumps (db.json f) = f.text
  | .list vs => Value.ComesAll vs
  | .tuple vs => Value.ComesAll vs
  | .dict fs => InOrder (fs.map Prod.fst) ∧ Value.ComesFields fs
  | _ => True

def Value.ComesAll : List Value → Prop
  | [] => True
  | v :: vs => Value.Comes v ∧ Value.ComesAll vs

def Value.ComesFields : List (Key × Value) → Prop
  | [] => True
  | (_, v) :: fs => Value.Comes v ∧ Value.ComesFields fs

end

variable {db} {α : Type} {ms sorted : List (Key × α)}

/-! ### Sorting -/

lemma Key.total (k k' : Key) : k.le k' = true ∨ k'.le k = true := by
  cases k with
  | none => exact .inl rfl
  | text s =>
    cases k' with
    | none => exact .inr rfl
    | text t => simpa [Key.le] using String.le_total s t
    | number t b => exact .inl rfl
  | number s a =>
    cases k' with
    | none => exact .inr rfl
    | text t => exact .inr rfl
    | number t b => simpa [Key.le] using le_total a b

lemma Key.le_of_le_of_le {k k' k'' : Key} (h : k.le k' = true) (h' : k'.le k'' = true) :
    k.le k'' = true := by
  cases k with
  | none => rfl
  | text s =>
    cases k' with
    | none => cases h
    | text t =>
      cases k'' with
      | none => cases h'
      | text u =>
        simp only [Key.le, decide_eq_true_eq] at h h' ⊢
        exact String.le_trans h h'
      | number u c => rfl
    | number t b =>
      cases k'' with
      | number u c => rfl
      | _ => cases h'
  | number s a =>
    cases k' with
    | number t b =>
      cases k'' with
      | number u c =>
        simp only [Key.le, decide_eq_true_eq] at h h' ⊢
        exact h.trans h'
      | _ => cases h'
    | _ => cases h

lemma Key.differs_symm {k k' : Key} (h : k.Differs k') : k'.Differs k := by
  cases k with
  | number t a =>
    cases k' with
    | number t' a' => exact ⟨h.1.symm, h.2.symm⟩
    | _ => exact Ne.symm h
  | _ =>
    cases k' with
    | _ => exact Ne.symm h

lemma Key.Differs.inJson_ne {k k' : Key} (h : k.Differs k') : k.inJson ≠ k'.inJson := by
  cases k with
  | number t a =>
    cases k' with
    | number t' a' => exact h.1
    | _ => exact h
  | _ =>
    cases k' with
    | _ => exact h

instance : Std.Total fun a b : Key × α => a.1.le b.1 = true := ⟨fun a b => a.1.total b.1⟩

instance : IsTrans (Key × α) fun a b => a.1.le b.1 = true := ⟨fun _ _ _ => Key.le_of_le_of_le⟩

lemma sortItems_eq_some (h : sortItems ms = some sorted) :
    sorted.Perm ms ∧ sorted.Pairwise (fun a b => a.1.le b.1 = true) ∧
      (ms.length ≤ 1 ∨ ms.all (fun m => m.1.isText) = true ∨
        ms.all (fun m => m.1.isNumber) = true) := by
  rw [sortItems] at h
  split at h
  · rename_i hkinds
    cases h
    exact ⟨List.perm_insertionSort _ ms, List.pairwise_insertionSort _ ms, hkinds⟩
  · cases h

/-- Two lists of members with the same keys in the same order. -/
lemma eq_of_perm_of_keys {l m : List (String × α)} (h : l.Perm m)
    (hkeys : l.map Prod.fst = m.map Prod.fst) (hnodup : (l.map Prod.fst).Nodup) : l = m := by
  induction l generalizing m with
  | nil => exact (List.nil_perm.mp h).symm
  | cons a l ih =>
    cases m with
    | nil => exact absurd hkeys (by simp)
    | cons b m =>
      rw [List.map_cons, List.map_cons, List.cons.injEq] at hkeys
      rw [List.map_cons, List.nodup_cons] at hnodup
      have hab : a = b := by
        rcases List.mem_cons.mp (h.mem_iff.mp List.mem_cons_self) with hab | hmem
        · exact hab
        · exact absurd (hkeys.2 ▸ List.mem_map_of_mem hmem) hnodup.1
      subst hab
      rw [ih ((List.perm_cons a).mp h) hkeys.2 hnodup.2]

/-! ### Texts -/

def inDocument (m : Key × List Char) : String × List Char := (m.1.inJson, m.2)

lemma map_member (ms : List (Key × List Char)) :
    (ms.map fun m => Json.member (m.1.inJson, m.2)) = (ms.map inDocument).map Json.member := by
  rw [List.map_map]
  rfl

mutual

lemma printed_value : ∀ (v : Value) (t : List Char), v.dumps = some t → Json.Printed t
  | .null, t, h => by
    cases h
    exact .null
  | .bool true, t, h => by
    cases h
    exact .true
  | .bool false, t, h => by
    cases h
    exact .false
  | .int n, t, h => by
    cases h
    exact .number _ (Json.intText_numeric n).1 (Json.intText_numeric n).2
  | .float f, t, h => by
    cases h
    exact .number _ f.nonempty f.numeric
  | .str s, t, h => by
    cases h
    exact .str s
  | .list vs, t, h => by
    rw [Value.dumps] at h
    obtain ⟨ts, hts, ht⟩ := Option.bind_eq_some_iff.mp h
    cases ht
    exact .arr ts (printed_values vs ts hts)
  | .tuple vs, t, h => by
    rw [Value.dumps] at h
    obtain ⟨ts, hts, ht⟩ := Option.bind_eq_some_iff.mp h
    cases ht
    exact .arr ts (printed_values vs ts hts)
  | .dict fs, t, h => by
    rw [Value.dumps] at h
    obtain ⟨ms, hms, h⟩ := Option.bind_eq_some_iff.mp h
    obtain ⟨sorted, hsorted, ht⟩ := Option.bind_eq_some_iff.mp h
    cases ht
    rw [map_member]
    refine .obj _ fun m hm => ?_
    obtain ⟨m', hm', rfl⟩ := List.mem_map.mp hm
    exact printed_fields fs ms hms m' ((sortItems_eq_some hsorted).1.mem_iff.mp hm')

lemma printed_values : ∀ (vs : List Value) (ts : List (List Char)), Value.dumpsAll vs = some ts →
    ∀ t ∈ ts, Json.Printed t
  | [], ts, h, t, ht => by
    cases h
    exact absurd ht List.not_mem_nil
  | v :: vs, ts, h, t, ht => by
    rw [Value.dumpsAll] at h
    obtain ⟨t', ht', h⟩ := Option.bind_eq_some_iff.mp h
    obtain ⟨ts', hts', h⟩ := Option.bind_eq_some_iff.mp h
    cases h
    rcases List.mem_cons.mp ht with rfl | ht
    · exact printed_value v t ht'
    · exact printed_values vs ts' hts' t ht

lemma printed_fields : ∀ (fs : List (Key × Value)) (ms : List (Key × List Char)),
    Value.dumpsFields fs = some ms → ∀ m ∈ ms, Json.Printed m.2
  | [], ms, h, m, hm => by
    cases h
    exact absurd hm List.not_mem_nil
  | (k, v) :: fs, ms, h, m, hm => by
    rw [Value.dumpsFields] at h
    obtain ⟨t', ht', h⟩ := Option.bind_eq_some_iff.mp h
    obtain ⟨ms', hms', h⟩ := Option.bind_eq_some_iff.mp h
    cases h
    rcases List.mem_cons.mp hm with rfl | hm
    · exact printed_value v t' ht'
    · exact printed_fields fs ms' hms' m hm

end

lemma keys_dumpsFields {fs : List (Key × Value)} {ms : List (Key × List Char)}
    (h : Value.dumpsFields fs = some ms) : ms.map Prod.fst = fs.map Prod.fst := by
  induction fs generalizing ms with
  | nil =>
    cases h
    rfl
  | cons f fs ih =>
    obtain ⟨k, v⟩ := f
    rw [Value.dumpsFields] at h
    obtain ⟨t', -, h⟩ := Option.bind_eq_some_iff.mp h
    obtain ⟨ms', hms', h⟩ := Option.bind_eq_some_iff.mp h
    cases h
    rw [List.map_cons, List.map_cons, ih hms']

lemma keys_storedFields (fs : List (Key × Value)) :
    (Json.dumpsFields (Value.storedFields db fs)).map Prod.fst =
      (fs.map Prod.fst).map Key.inJson := by
  induction fs with
  | nil => rfl
  | cons f fs ih =>
    obtain ⟨k, v⟩ := f
    rw [Value.storedFields, Json.dumpsFields, List.map_cons, ih]
    rfl

/-! ### Dicts -/

lemma nodup_inJson {ks : List Key} (h : ks.Pairwise Key.Differs) : (ks.map Key.inJson).Nodup :=
  List.pairwise_map.mpr (h.imp Key.Differs.inJson_ne)

instance totalByName : Std.Total fun a b : String × List Char => a.1 ≤ b.1 :=
  ⟨fun a b => String.le_total a.1 b.1⟩

instance transByName : IsTrans (String × List Char) fun a b => a.1 ≤ b.1 :=
  ⟨fun _ _ _ => String.le_trans⟩

/-- Sorted items whose numbers have the order of their texts are in the order of their texts. -/
lemma pairwise_inDocument {ms sorted : List (Key × List Char)} (hsorted : sortItems ms = some sorted)
    (hkeys : (ms.map Prod.fst).Pairwise Key.Differs) (horder : InOrder (ms.map Prod.fst)) :
    (sorted.map inDocument).Pairwise fun a b => a.1 ≤ b.1 := by
  obtain ⟨hperm, hle, hkinds⟩ := sortItems_eq_some hsorted
  rcases hkinds with hshort | hkinds
  · have hlength : (sorted.map inDocument).length ≤ 1 := by
      rw [List.length_map, hperm.length_eq]
      exact hshort
    cases htexts : sorted.map inDocument with
    | nil => exact .nil
    | cons a l =>
      rw [htexts, List.length_cons] at hlength
      rw [List.eq_nil_of_length_eq_zero (by omega : l.length = 0)]
      exact List.pairwise_singleton _ a
  have hdiffers : sorted.Pairwise fun a b => a.1.Differs b.1 :=
    (List.pairwise_map.mp hkeys).perm hperm.symm Key.differs_symm
  rw [List.pairwise_map]
  refine (hle.and hdiffers).imp_of_mem fun {a b} ha hb h => ?_
  have ha' := hperm.mem_iff.mp ha
  have hb' := hperm.mem_iff.mp hb
  show a.1.inJson ≤ b.1.inJson
  rcases hkinds with htext | hnumber
  · have hta := List.all_eq_true.mp htext a ha'
    have htb := List.all_eq_true.mp htext b hb'
    obtain ⟨k, x⟩ := a
    obtain ⟨k', x'⟩ := b
    cases k with
    | text s =>
      cases k' with
      | text t => exact of_decide_eq_true h.1
      | _ => cases htb
    | _ => cases hta
  · have hna := List.all_eq_true.mp hnumber a ha'
    have hnb := List.all_eq_true.mp hnumber b hb'
    refine horder a.1 (List.mem_map_of_mem ha') b.1 (List.mem_map_of_mem hb') ?_
    obtain ⟨k, x⟩ := a
    obtain ⟨k', x'⟩ := b
    cases k with
    | number s y =>
      cases k' with
      | number t z => exact lt_of_le_of_ne (of_decide_eq_true h.1) h.2.2
      | _ => cases hnb
    | _ => cases hna

/-- Members whose texts are in order have their keys in order. -/
lemma inOrder_of_pairwise {ms sorted : List (Key × List Char)}
    (hsorted : sortItems ms = some sorted)
    (htexts : (sorted.map inDocument).Pairwise fun a b => a.1 ≤ b.1) :
    InOrder (ms.map Prod.fst) := by
  obtain ⟨hperm, hle, -⟩ := sortItems_eq_some hsorted
  intro k hk k' hk' hbelow
  obtain ⟨a, ha, rfl⟩ := List.mem_map.mp hk
  obtain ⟨b, hb, rfl⟩ := List.mem_map.mp hk'
  have hboth : ∀ a ∈ sorted, ∀ b ∈ sorted,
      (a.1.le b.1 = true ∧ a.1.inJson ≤ b.1.inJson) ∨
        (b.1.le a.1 = true ∧ b.1.inJson ≤ a.1.inJson) := by
    have hpairs := hle.and (List.pairwise_map.mp htexts)
    refine fun a ha b hb => List.Pairwise.forall_of_forall_of_flip (R := fun a b =>
      (a.1.le b.1 = true ∧ a.1.inJson ≤ b.1.inJson) ∨
        (b.1.le a.1 = true ∧ b.1.inJson ≤ a.1.inJson)) ?_ ?_ ?_ ha hb
    · exact fun x _ => .inl ⟨(x.1.total x.1).elim id id, String.le_refl _⟩
    · exact hpairs.imp fun h => Or.inl h
    · exact hpairs.imp fun h => Or.inr h
  rcases hboth a (hperm.mem_iff.mpr ha) b (hperm.mem_iff.mpr hb) with h | h
  · exact h.2
  · -- the sort has the smaller number first
    obtain ⟨k, x⟩ := a
    obtain ⟨k', x'⟩ := b
    cases k with
    | number s y =>
      cases k' with
      | number t z => exact absurd (of_decide_eq_true h.1) (not_le_of_gt hbelow)
      | _ => exact absurd hbelow id
    | _ => exact absurd hbelow id

/-- The members of a dict are printed alike in memory and as they are read back exactly when the
numbers among the keys are in order and the values are printed alike. -/
lemma members_iff {ms sorted : List (Key × List Char)} {ds : List (String × List Char)}
    (hsorted : sortItems ms = some sorted) (hkeys : (ms.map Prod.fst).Pairwise Key.Differs)
    (hds : ds.map Prod.fst = (ms.map Prod.fst).map Key.inJson) :
    sorted.map inDocument = Json.sortKeys ds ↔
      InOrder (ms.map Prod.fst) ∧ ms.map inDocument = ds := by
  have hperm := (sortItems_eq_some hsorted).1
  have hnodup : ((ms.map inDocument).map Prod.fst).Nodup := by
    have h := nodup_inJson hkeys
    rw [List.map_map] at h ⊢
    exact h
  have hsame : (ms.map inDocument).map Prod.fst = ds.map Prod.fst := by
    rw [hds, List.map_map, List.map_map]
    rfl
  constructor
  · intro heq
    have hds' : (Json.sortKeys ds).Perm ds := List.perm_insertionSort _ ds
    constructor
    · refine inOrder_of_pairwise hsorted ?_
      rw [heq]
      exact List.pairwise_insertionSort _ ds
    · refine eq_of_perm_of_keys ?_ hsame hnodup
      exact ((hperm.map inDocument).symm.trans (heq ▸ hds'))
  · rintro ⟨horder, rfl⟩
    refine List.Perm.eq_of_pairwise ?_
      (pairwise_inDocument hsorted hkeys horder) (List.pairwise_insertionSort _ _)
      ((hperm.map inDocument).trans (List.perm_insertionSort _ _).symm)
    intro a b ha hb hab hba
    have ha' := (hperm.map inDocument).mem_iff.mp ha
    have hb' := (List.perm_insertionSort _ _).mem_iff.mp hb
    exact List.inj_on_of_nodup_map hnodup ha' hb' (String.le_antisymm hab hba)

/-! ### Values -/

lemma arr_text_iff {xs ys : List (List Char)} (hxs : ∀ x ∈ xs, Json.Printed x)
    (hys : ∀ y ∈ ys, Json.Printed y) :
    '[' :: Json.commas xs ++ [']'] = '[' :: Json.commas ys ++ [']'] ↔ xs = ys := by
  constructor
  · intro h
    simp only [List.cons_append, List.cons.injEq, true_and] at h
    exact (Json.commas_append (.inl rfl) (fun x hx y hy => (hxs x hx).separate (hys y hy))
      (fun x hx => (hxs x hx).not_closes) (fun y hy => (hys y hy).not_closes) h).1
  · rintro rfl
    rfl

lemma obj_text_iff {ms ms' : List (String × List Char)} (hms : ∀ m ∈ ms, Json.Printed m.2)
    (hms' : ∀ m ∈ ms', Json.Printed m.2) :
    '\x7b' :: Json.commas (ms.map Json.member) ++ ['\x7d'] =
      '\x7b' :: Json.commas (ms'.map Json.member) ++ ['\x7d'] ↔ ms = ms' := by
  constructor
  · intro h
    simp only [List.cons_append, List.cons.injEq, true_and] at h
    exact (Json.members_of_commas hms hms' h).1
  · rintro rfl
    rfl

mutual

/-- A value is printed alike in memory and as it is read back exactly when it comes back. -/
lemma value_text_iff : ∀ (v : Value) (t : List Char), v.Distinct → v.dumps = some t →
    (t = Json.dumps (v.stored db) ↔ v.Comes db)
  | .null, t, _, h => by
    cases h
    exact iff_of_true rfl trivial
  | .bool true, t, _, h => by
    cases h
    exact iff_of_true rfl trivial
  | .bool false, t, _, h => by
    cases h
    exact iff_of_true rfl trivial
  | .int n, t, _, h => by
    cases h
    exact iff_of_true rfl trivial
  | .float f, t, _, h => by
    cases h
    exact eq_comm
  | .str s, t, _, h => by
    cases h
    exact iff_of_true rfl trivial
  | .list vs, t, hv, h => by
    rw [Value.dumps] at h
    obtain ⟨ts, hts, ht⟩ := Option.bind_eq_some_iff.mp h
    cases ht
    exact (arr_text_iff (printed_values vs ts hts) (Json.printed_dumpsAll _)).trans
      (values_text_iff vs ts hv hts)
  | .tuple vs, t, hv, h => by
    rw [Value.dumps] at h
    obtain ⟨ts, hts, ht⟩ := Option.bind_eq_some_iff.mp h
    cases ht
    exact (arr_text_iff (printed_values vs ts hts) (Json.printed_dumpsAll _)).trans
      (values_text_iff vs ts hv hts)
  | .dict fs, t, hv, h => by
    rw [Value.dumps] at h
    obtain ⟨ms, hms, h⟩ := Option.bind_eq_some_iff.mp h
    obtain ⟨sorted, hsorted, ht⟩ := Option.bind_eq_some_iff.mp h
    cases ht
    have hprinted : ∀ m ∈ sorted.map inDocument, Json.Printed m.2 := by
      intro m hm
      obtain ⟨m', hm', rfl⟩ := List.mem_map.mp hm
      exact printed_fields fs ms hms m' ((sortItems_eq_some hsorted).1.mem_iff.mp hm')
    have hkeys := keys_dumpsFields hms
    rw [map_member]
    refine (obj_text_iff hprinted (Json.printed_sortKeys _)).trans ?_
    refine (members_iff hsorted (hkeys ▸ hv.1) (hkeys ▸ keys_storedFields fs)).trans ?_
    rw [hkeys]
    exact and_congr_right fun _ => fields_text_iff fs ms hv.2 hms

lemma values_text_iff : ∀ (vs : List Value) (ts : List (List Char)), Value.DistinctAll vs →
    Value.dumpsAll vs = some ts →
      (ts = Json.dumpsAll (Value.storedAll db vs) ↔ Value.ComesAll db vs)
  | [], ts, _, h => by
    cases h
    exact iff_of_true rfl trivial
  | v :: vs, ts, hv, h => by
    rw [Value.dumpsAll] at h
    obtain ⟨t, ht, h⟩ := Option.bind_eq_some_iff.mp h
    obtain ⟨ts', hts', h⟩ := Option.bind_eq_some_iff.mp h
    cases h
    have hhead := value_text_iff v t hv.1 ht
    have htail := values_text_iff vs ts' hv.2 hts'
    exact List.cons_eq_cons.trans (and_congr hhead htail)

lemma fields_text_iff : ∀ (fs : List (Key × Value)) (ms : List (Key × List Char)),
    Value.DistinctFields fs → Value.dumpsFields fs = some ms →
      (ms.map inDocument = Json.dumpsFields (Value.storedFields db fs) ↔ Value.ComesFields db fs)
  | [], ms, _, h => by
    cases h
    exact iff_of_true rfl trivial
  | (k, v) :: fs, ms, hv, h => by
    rw [Value.dumpsFields] at h
    obtain ⟨t, ht, h⟩ := Option.bind_eq_some_iff.mp h
    obtain ⟨ms', hms', h⟩ := Option.bind_eq_some_iff.mp h
    cases h
    have hhead := value_text_iff v t hv.1 ht
    have htail := fields_text_iff fs ms' hv.2 hms'
    refine List.cons_eq_cons.trans (and_congr ?_ htail)
    exact (Prod.mk_right_injective k.inJson).eq_iff.trans hhead

end

/-- What `_normalise` gives of a document that comes back. -/
def Value.Kept (db : Database) (v : Value) : Prop := (∀ vs, v ≠ .tuple vs) ∧ v.Comes db

lemma normalise_json (f : Json.Float) :
    normalise (db.json f) = String.ofList (Json.dumps (db.json f)) := by
  rw [Database.json]
  cases db.number f with
  | inl n => rfl
  | inr g => rfl

lemma ofList_inj {s t : List Char} : String.ofList s = String.ofList t ↔ s = t := by
  constructor
  · intro h
    rw [← String.toList_ofList (l := s), h, String.toList_ofList]
  · rintro rfl
    rfl

/-- A document is normalised alike when it is written and when it is read back exactly when it is
kept. -/
lemma normalise_of_stored {py : Printer} (db : Database) {v : Value} {s : String} (hv : v.Distinct)
    (h : normaliseValue py v = some s) : s = normalise (v.stored db) ↔ v.Kept db := by
  have hplain : (∀ vs, v ≠ .tuple vs) → (v.Kept db ↔ v.Comes db) := fun hne => and_iff_right hne
  cases v with
  | float f =>
    cases h
    rw [hplain (fun _ hne => by cases hne)]
    show String.ofList f.text = normalise (db.json f) ↔ Json.dumps (db.json f) = f.text
    rw [normalise_json, ofList_inj]
    exact eq_comm
  | list vs =>
    obtain ⟨t, ht, rfl⟩ := Option.map_eq_some_iff.mp h
    rw [hplain (fun _ hne => by cases hne), ← value_text_iff (.list vs) t hv ht]
    exact ofList_inj
  | dict fs =>
    obtain ⟨t, ht, rfl⟩ := Option.map_eq_some_iff.mp h
    rw [hplain (fun _ hne => by cases hne), ← value_text_iff (.dict fs) t hv ht]
    exact ofList_inj
  | tuple vs =>
    cases h
    refine iff_of_false ?_ fun hkept => hkept.1 vs rfl
    -- the text of a tuple begins with a bracket of its own
    intro heq
    have hparen := py.tuple_paren vs
    have hbracket : (normalise ((Value.tuple vs).stored db)).toList.head? = some '[' := by
      show (String.ofList (Json.dumps (.arr (Value.storedAll db vs)))).toList.head? = some '['
      rw [String.toList_ofList]
      rfl
    rw [heq, hbracket] at hparen
    cases hparen
  | bool b =>
    rw [hplain (fun _ hne => by cases hne)]
    cases b with
    | true =>
      cases h
      exact iff_of_true rfl trivial
    | false =>
      cases h
      exact iff_of_true rfl trivial
  | _ =>
    rw [hplain (fun _ hne => by cases hne)]
    cases h
    exact iff_of_true rfl trivial

end Documents

/-! ## Rows that come back -/

/-- A reason that a text column keeps as it was hashed. -/
def Reason.Kept (py : Printer) : Reason → Prop
  | list vs _ => (Value.list vs).dumps = some (py.containerText (.list vs)).toList
  | _ => True

/-- Every value of the row comes back in the form it was hashed in. -/
structure Row.ComesBack (py : Printer) (db : Database) (row : Row) : Prop where
  before : row.before.1.Kept db
  after : row.after.1.Kept db
  reason : row.reason.Kept py
  address : ∀ a ∈ row.ipAddress, db.address a = a

section ComesBack

variable {py : Printer} {db : Database} {row : Row} {hashed : Entry}

/-- Rows that differ in the values that the database gives a form of its own. -/
lemma canonicalContent_iff {e e' : Entry} (hid : e.actorId = e'.actorId)
    (hlabel : e.actorLabel = e'.actorLabel) (hemail : e.actorEmail = e'.actorEmail)
    (hrole : e.actorRole = e'.actorRole) (haction : e.action = e'.action)
    (htype : e.targetType = e'.targetType) (htarget : e.targetId = e'.targetId)
    (hagent : e.userAgent = e'.userAgent) (hcreated : e.createdAt = e'.createdAt) :
    canonicalContent e = canonicalContent e' ↔
      normalise e.before = normalise e'.before ∧ normalise e.after = normalise e'.after ∧
        e.reason = e'.reason ∧ e.ipAddress.getD "" = e'.ipAddress.getD "" := by
  constructor
  · intro h
    have hfield : ∀ k, k ∉ optionalFields →
        (hashedFields e).lookup k = (hashedFields e').lookup k :=
      fun k hk => lookup_of_canonicalContent h hk
    refine ⟨?_, ?_, ?_, ?_⟩
    · simpa [hashedFields, List.lookup_cons] using hfield "before" (by decide)
    · simpa [hashedFields, List.lookup_cons] using hfield "after" (by decide)
    · simpa [hashedFields, List.lookup_cons] using hfield "reason" (by decide)
    · simpa [hashedFields, List.lookup_cons] using hfield "ip_address" (by decide)
  · rintro ⟨hbefore, hafter, hreason, haddress⟩
    have hfields : hashedFields e = hashedFields e' := by
      rw [hashedFields, hashedFields, hid, hlabel, hemail, hrole, haction, htype, htarget, hagent,
        hcreated, hbefore, hafter, hreason, haddress]
    rw [canonicalContent, canonicalContent, members, members, parts, parts, hfields]

/-- The row that is read back has the canonical content that was hashed exactly when every value
came back. -/
lemma content_iff (h : row.normalised py = some hashed) (id : ℕ) (prev hash : String) :
    canonicalContent (row.readBack py db id prev hash) = canonicalContent hashed ↔
      row.ComesBack py db := by
  obtain ⟨before, hbefore, h⟩ := Option.bind_eq_some_iff.mp h
  obtain ⟨after, hafter, h⟩ := Option.bind_eq_some_iff.mp h
  obtain ⟨reason, hreason, h⟩ := Option.bind_eq_some_iff.mp h
  cases h
  refine Iff.trans (canonicalContent_iff ?_ ?_ ?_ ?_ ?_ ?_ ?_ ?_ ?_) ?_
  any_goals rfl
  have hbefore' := normalise_of_stored db row.before.2 hbefore
  have hafter' := normalise_of_stored db row.after.2 hafter
  have hreason' : row.reason.stored py = reason ↔ row.reason.Kept py := by
    cases hrow : row.reason with
    | text s =>
      rw [hrow] at hreason
      cases hreason
      exact iff_of_true rfl trivial
    | tuple vs =>
      rw [hrow] at hreason
      cases hreason
      exact iff_of_true rfl trivial
    | list vs hvs =>
      rw [hrow] at hreason
      obtain ⟨t, ht, rfl⟩ := Option.map_eq_some_iff.mp hreason
      show py.containerText (.list vs) = String.ofList t ↔
        (Value.list vs).dumps = some (py.containerText (.list vs)).toList
      rw [ht, Option.some.injEq]
      constructor
      · intro heq
        rw [heq, String.toList_ofList]
      · intro heq
        rw [heq, String.ofList_toList]
  have haddress' : (row.ipAddress.map db.address).getD "" = row.ipAddress.getD "" ↔
      ∀ a ∈ row.ipAddress, db.address a = a := by
    cases row.ipAddress with
    | none => exact iff_of_true rfl fun a ha => absurd ha (Option.not_mem_none a)
    | some a =>
      constructor
      · rintro heq b hb
        cases hb
        exact heq
      · exact fun hsame => hsame a rfl
  constructor
  · rintro ⟨h₁, h₂, h₃, h₄⟩
    exact ⟨hbefore'.mp h₁.symm, hafter'.mp h₂.symm, hreason'.mp h₃, haddress'.mp h₄⟩
  · rintro ⟨h₁, h₂, h₃, h₄⟩
    exact ⟨(hbefore'.mpr h₁).symm, (hafter'.mpr h₂).symm, hreason'.mpr h₃, haddress'.mpr h₄⟩

/-- The hash of a row that is read back is the one it was written with exactly when every value
came back in the form it was hashed in, or the two hashed texts collide. -/
theorem hash_of_readBack_iff {tail : Option String} {id : ℕ} {e : Entry}
    (h : row.save py db tail id = some e) :
    computeHash e.previousHash e = e.contentHash ↔
      row.ComesBack py db ∨ ∃ hashed, row.normalised py = some hashed ∧
        ¬ CollisionFree [hashInput e.previousHash e, hashInput e.previousHash hashed] := by
  obtain ⟨hashed, hhashed, h⟩ := Option.bind_eq_some_iff.mp h
  cases h
  clear h
  generalize (if tail.getD "" = "" then genesis else tail.getD "") = prev
  generalize hhash : computeHash prev hashed = hash
  set e := row.readBack py db id prev hash with he
  show computeHash prev e = hash ↔ _ ∨ ∃ hashed, _ ∧ ¬ CollisionFree [hashInput prev e, _]
  rw [← hhash, ← content_iff hhashed id prev hash, ← he]
  have hcontent : hashInput prev e = hashInput prev hashed ↔
      canonicalContent e = canonicalContent hashed := List.append_right_inj _
  constructor
  · intro hsame
    by_cases hc : canonicalContent e = canonicalContent hashed
    · exact .inl hc
    · refine .inr ⟨hashed, hhashed, fun hfree => hc (hcontent.mp ?_)⟩
      exact hfree _ List.mem_cons_self _ (List.mem_cons_of_mem _ List.mem_cons_self) hsame
  · rintro (hc | ⟨hashed', hhashed', hnot⟩)
    · rw [computeHash, computeHash, hcontent.mpr hc]
    · rw [hhashed] at hhashed'
      cases hhashed'
      by_contra hne
      refine hnot fun x hx y hy hxy => ?_
      simp only [List.mem_cons, List.not_mem_nil, or_false] at hx hy
      rcases hx with rfl | rfl
      · rcases hy with rfl | rfl
        · rfl
        · exact absurd hxy hne
      · rcases hy with rfl | rfl
        · exact absurd hxy.symm hne
        · rfl

end ComesBack

/-! ## Three rows -/

/-- `str` of a container as far as its brackets. -/
def examplePrinter : Printer where
  containerText
    | .tuple _ => "()"
    | .list _ => "[]"
    | _ => "\x7b\x7d"
  tuple_paren := by
    intro vs
    show "()".toList.head? = some '('
    decide

/-- Numbers come back as they are, and an address of four bytes in six is printed with its bytes. -/
def exampleDatabase : Database where
  number := .inr
  address := fun a => if a = "::ffff:808:808" then "::ffff:8.8.8.8" else a

/-- Two addresses. -/
def exampleAddresses : Addresses where
  Address := String
  read
    | "203.0.113.9" => some "203.0.113.9"
    | "::ffff:8.8.8.8" => some "::ffff:808:808"
    | _ => none
  text := id
  internal := fun _ => false

/-- What an operator did to a fare, from an address. -/
def exampleRow (address : String) (after : PyValue) : Option Row :=
  recordAdminAction exampleAddresses 1 (some ⟨some address, none, none⟩)
    ⟨some 1, "ops", "", "admin"⟩ "fare_set" "zone" (some "4") ⟨.null, trivial⟩ after
    ⟨.null, trivial⟩ "2026-10-27T09:00:00+00:00"

def namedFare : PyValue := ⟨.dict [(.text "fare", .int 90)], .cons (by simp) .nil, trivial, trivial⟩

/-- A dict of two numbers, which are in another order as texts. -/
def numberedFares : PyValue :=
  ⟨.dict [(.number "9" 9, .int 90), (.number "10" 10, .int 100)],
    .cons (by
      intro k hk
      rw [List.mem_singleton.mp hk]
      exact ⟨by decide, by decide +kernel⟩) (.cons (by simp) .nil), trivial, trivial, trivial⟩

/-- The row of a named fare is read back with its hash. -/
theorem named_fare_comes_back : ∃ row e, exampleRow "203.0.113.9" namedFare = some row ∧
    row.save examplePrinter exampleDatabase none 1 = some e ∧
      computeHash e.previousHash e = e.contentHash := by
  let row := (exampleRow "203.0.113.9" namedFare).get rfl
  let e := (row.save examplePrinter exampleDatabase none 1).get rfl
  have hsave : row.save examplePrinter exampleDatabase none 1 = some e := rfl
  refine ⟨row, e, rfl, hsave, (hash_of_readBack_iff hsave).mpr (.inl ⟨?_, ?_, trivial, ?_⟩)⟩
  · show (Value.dict []).Kept exampleDatabase
    refine ⟨(fun vs h => by cases h), fun k hk => ?_, trivial⟩
    exact absurd hk List.not_mem_nil
  · show (Value.dict [(.text "fare", .int 90)]).Kept exampleDatabase
    refine ⟨(fun vs h => by cases h), fun k hk k' _ hbelow => ?_, trivial, trivial⟩
    rw [List.map_cons, List.map_nil, List.mem_singleton] at hk
    subst hk
    exact absurd hbelow id
  · rintro a ⟨⟩
    rfl

/-- Numeric keys and an embedded address come back in another form. -/
theorem numbered_fares_look_altered :
    (∃ row e, exampleRow "203.0.113.9" numberedFares = some row ∧
      row.save examplePrinter exampleDatabase none 1 = some e ∧
        computeHash e.previousHash e ≠ e.contentHash) ∧
    ∃ row e, exampleRow "::ffff:8.8.8.8" namedFare = some row ∧
      row.save examplePrinter exampleDatabase none 1 = some e ∧
        computeHash e.previousHash e ≠ e.contentHash := by
  constructor
  · refine ⟨_, _, rfl, rfl, ?_⟩
    decide +kernel
  · refine ⟨_, _, rfl, rfl, ?_⟩
    decide +kernel

end SaaradhiGo.AdminAudit
