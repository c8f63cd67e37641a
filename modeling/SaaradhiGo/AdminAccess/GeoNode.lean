/-
The tree of places and the cached path that decides what a scope covers.

A node stores its parent and, beside it, the codes from the root down to it as one text.
Saving a node checks it, rebuilds its path and saves its children, so that the texts of the
whole subtree follow.  A node covers another when its path is a prefix of the other's; this
is proved to be the same as being an ancestor along the stored parents.

The kind and the path of the parent are read from the object that the instance holds as its
parent, and only an instance that holds none loads the row.  An object that was loaded before
its row was renamed gives the old path, so the law asks that what is held is what is stored.

The invariant of the recursion is that every node outside a set of pending ones sits under a
node of the right kind and has the path of its parent and its code.  Saving a node takes it
out of the set and puts its children in.
-/
import SaaradhiGo.Lib.Table
import SaaradhiGo.Lib.Fallible
import SaaradhiGo.Lib.Transition
import Mathlib.Tactic.Common
import Mathlib.Data.List.Infix

namespace SaaradhiGo.AdminAccess

/-- `KIND_CHOICES`, outermost first. -/
inductive Kind where
  | global
  | country
  | state
  | city
deriving DecidableEq, Repr

def Kind.allowedParent : Kind → Option Kind
  | global => none
  | country => some global
  | state => some country
  | city => some state

/-- How many kinds there are below. -/
def Kind.height : Kind → ℕ
  | global => 3
  | country => 2
  | state => 1
  | city => 0

lemma Kind.height_of_allowedParent {k k' : Kind} (h : k.allowedParent = some k') :
    k'.height = k.height + 1 := by
  cases k <;> cases h <;> rfl

/-- `STATUS_CHOICES`. -/
inductive GeoStatus where
  | draft
  | active
  | paused
deriving DecidableEq, Repr

structure GeoNode where
  id : ℕ
  kind : Kind
  code : String
  name : String
  parent : Option ℕ
  path : String
  status : GeoStatus
deriving DecidableEq, Repr

structure Geo where
  nodes : Table GeoNode.id
  /-- The next primary key. -/
  nextId : ℕ

namespace Geo

def parentOf (db : Geo) (n : GeoNode) : Option GeoNode := n.parent.bind db.nodes.get?

/-- `self.parent`: the object the instance holds, unless its parent was set to another node, or
the row. -/
def parentObject (db : Geo) (held : Option GeoNode) (n : GeoNode) : Option GeoNode :=
  match held with
  | some q => if n.parent = some q.id then some q else db.parentOf n
  | none => db.parentOf n

/-- `clean`: the kind of the parent is the one allowed. -/
def clean (db : Geo) (held : Option GeoNode) (n : GeoNode) : Bool :=
  n.kind.allowedParent = (db.parentObject held n).map (·.kind)

/-- `full_clean(exclude=['path'])`: the fields by themselves, the parent's existence,
`clean`, and the unique code. -/
def fullClean (db : Geo) (held : Option GeoNode) (n : GeoNode) : Bool :=
  n.code ≠ "" && n.code.length ≤ 32 && n.name ≠ "" && n.name.length ≤ 120 &&
    (n.parent.isNone || (db.parentOf n).isSome) && db.clean held n &&
    db.nodes.rows.all fun x => x.id = n.id || x.code ≠ n.code

def buildPath (db : Geo) (held : Option GeoNode) (n : GeoNode) : String :=
  ((db.parentObject held n).map (·.path)).getD "" ++ (n.code ++ "/")

def children (db : Geo) (id : ℕ) : List GeoNode := db.nodes.rows.filter fun x => x.parent = some id

def write (db : Geo) (n : GeoNode) : Geo := { db with nodes := db.nodes.put n }

/-- `save` of an instance with `height` kinds below its own: the children are read once, each
with the instance as its parent object, and saved one after the other.  Nothing may sit under a
city, so there a child is refused. -/
def saveAt : ℕ → Geo → Option GeoNode → GeoNode → Except String Geo
  | height, db, held, n =>
      if db.fullClean held n then
        let n := { n with path := db.buildPath held n }
        let db := db.write n
        match height with
        | 0 => if db.children n.id = [] then .ok db else .error "ValidationError"
        | height + 1 => (db.children n.id).foldlM (fun db c => saveAt height db (some n) c) db
      else .error "ValidationError"

def save (db : Geo) (held : Option GeoNode) (n : GeoNode) : Except String Geo :=
  saveAt n.kind.height db held n

end Geo

def GeoNode.covers (a b : GeoNode) : Bool := a.path.toList.isPrefixOf b.path.toList

/-! ## The law of the paths -/

/-- The code is no empty text and has no slash. -/
def GeoNode.NoSlash (n : GeoNode) : Prop := '/' ∉ n.code.toList

instance (n : GeoNode) : Decidable n.NoSlash := inferInstanceAs (Decidable ('/' ∉ n.code.toList))

/-- The node sits under a node of the right kind, and its path is its parent's and its
code. -/
structure Placed (db : Geo) (n : GeoNode) : Prop where
  clean : n.kind.allowedParent = (db.parentOf n).map (·.kind)
  exists_parent : n.parent.isSome → (db.parentOf n).isSome
  path : n.path = db.buildPath none n

/-- The tree is in order except for the nodes of `pending`. -/
structure Sound (db : Geo) (pending : ℕ → Prop) : Prop where
  fresh : ∀ n ∈ db.nodes.rows, n.id < db.nextId
  noSlash : ∀ n ∈ db.nodes.rows, n.NoSlash
  codes : ∀ n ∈ db.nodes.rows, ∀ m ∈ db.nodes.rows, n.code = m.code → n = m
  placed : ∀ n ∈ db.nodes.rows, ¬ pending n.id → Placed db n

/-- The parent object that the instance holds has the kind and the path of its row. -/
def Current (db : Geo) (held : Option GeoNode) (n : GeoNode) : Prop :=
  ∀ q, held = some q → n.parent = some q.id →
    ∃ p, db.nodes.get? q.id = some p ∧ p.kind = q.kind ∧ p.path = q.path

section Save

variable {db db' : Geo} {held : Option GeoNode} {n : GeoNode} {pending : ℕ → Prop}

lemma Sound.mono {pending' : ℕ → Prop} (h : Sound db pending)
    (hsub : ∀ i, pending i → pending' i) : Sound db pending' :=
  ⟨h.fresh, h.noSlash, h.codes, fun n hn hp => h.placed n hn fun hi => hp (hsub _ hi)⟩

/-- What `full_clean` says. -/
lemma fullClean_iff : db.fullClean held n = true ↔
    (n.code ≠ "" ∧ n.code.length ≤ 32 ∧ n.name ≠ "" ∧ n.name.length ≤ 120) ∧
      (n.parent.isSome → (db.parentOf n).isSome) ∧
      n.kind.allowedParent = (db.parentObject held n).map (·.kind) ∧
      ∀ x ∈ db.nodes.rows, x.id ≠ n.id → x.code ≠ n.code := by
  have hparent : (n.parent.isNone || (db.parentOf n).isSome) = true ↔
      (n.parent.isSome → (db.parentOf n).isSome) := by
    cases n.parent <;> simp
  simp only [Geo.fullClean, Geo.clean, Bool.and_eq_true, hparent, List.all_eq_true,
    Bool.or_eq_true, decide_eq_true_eq, ne_eq]
  constructor
  · rintro ⟨⟨⟨⟨⟨⟨hcode, hlen⟩, hname⟩, hnlen⟩, hp⟩, hclean⟩, hunique⟩
    exact ⟨⟨hcode, hlen, hname, hnlen⟩, hp, hclean, fun x hx hne => (hunique x hx).resolve_left hne⟩
  · rintro ⟨⟨hcode, hlen, hname, hnlen⟩, hp, hclean, hunique⟩
    refine ⟨⟨⟨⟨⟨⟨hcode, hlen⟩, hname⟩, hnlen⟩, hp⟩, hclean⟩, fun x hx => ?_⟩
    by_cases hid : x.id = n.id
    · exact .inl hid
    · exact .inr (hunique x hx hid)

lemma Current.same {α : Type} {f : GeoNode → α} (h : Current db held n)
    (hf : ∀ p q : GeoNode, p.kind = q.kind → p.path = q.path → f p = f q) :
    (db.parentObject held n).map f = (db.parentOf n).map f := by
  rw [Geo.parentObject.eq_def]
  split
  · rename_i q
    split
    · rename_i hq
      obtain ⟨p, hp, hkind, hpath⟩ := h q rfl hq
      rw [Geo.parentOf, hq, Option.bind_some, hp, Option.map_some, Option.map_some,
        hf p q hkind hpath]
    · rfl
  · rfl

lemma Current.kind (h : Current db held n) :
    (db.parentObject held n).map (·.kind) = (db.parentOf n).map (·.kind) :=
  h.same fun _ _ hkind _ => hkind

lemma Current.buildPath (h : Current db held n) : db.buildPath held n = db.buildPath none n := by
  have hpath : (db.parentObject held n).map (·.path) = (db.parentOf n).map (·.path) :=
    h.same fun _ _ _ hpath => hpath
  rw [Geo.buildPath, hpath]
  rfl

lemma parentOf_write {x : GeoNode} (hx : x.parent ≠ some n.id) :
    (db.write n).parentOf x = db.parentOf x := by
  rw [Geo.parentOf, Geo.parentOf]
  cases hp : x.parent with
  | none => rfl
  | some p =>
      have hne : p ≠ n.id := fun heq => hx (heq ▸ hp)
      rw [Option.bind_some, Option.bind_some, Geo.write]
      exact Table.get?_put_of_ne _ hne

lemma buildPath_write {x : GeoNode} (hx : x.parent ≠ some n.id) :
    (db.write n).buildPath none x = db.buildPath none x := by
  show (((db.write n).parentOf x).map (·.path)).getD "" ++ _ = _
  rw [parentOf_write hx]
  rfl

lemma placed_write {x : GeoNode} (hx : x.parent ≠ some n.id) (h : Placed db x) :
    Placed (db.write n) x := by
  have hparent : (db.write n).parentOf x = db.parentOf x := parentOf_write hx
  exact ⟨by rw [hparent]; exact h.clean, by rw [hparent]; exact h.exists_parent,
    h.path.trans (buildPath_write hx).symm⟩

lemma mem_children {x : GeoNode} {i : ℕ} :
    x ∈ db.children i ↔ x ∈ db.nodes.rows ∧ x.parent = some i := by
  rw [Geo.children, List.mem_filter, decide_eq_true_eq]

def pathed (db : Geo) (held : Option GeoNode) (n : GeoNode) : GeoNode :=
  { n with path := db.buildPath held n }

lemma sound_write (h : Sound db pending) (hcurrent : Current db held n)
    (hclean : db.fullClean held n = true) (hslash : n.NoSlash) (hid : n.id < db.nextId) :
    Sound (db.write (pathed db held n)) (fun i =>
      i ∈ ((db.write (pathed db held n)).children n.id).map (·.id) ∨ (pending i ∧ i ≠ n.id)) := by
  obtain ⟨-, hexists, hkind, hunique⟩ := fullClean_iff.mp hclean
  rw [hcurrent.kind] at hkind
  have hrows : ∀ x ∈ (db.write (pathed db held n)).nodes.rows,
      x = pathed db held n ∨ (x ∈ db.nodes.rows ∧ x.id ≠ n.id) := fun x hx => Table.mem_put.mp hx
  refine ⟨fun x hx => ?_, fun x hx => ?_, fun x hx y hy hcode => ?_, fun x hx hpending => ?_⟩
  · rcases hrows x hx with rfl | ⟨hx, -⟩
    · exact hid
    · exact h.fresh x hx
  · rcases hrows x hx with rfl | ⟨hx, -⟩
    · exact hslash
    · exact h.noSlash x hx
  · rcases hrows x hx with rfl | ⟨hx, hxn⟩ <;> rcases hrows y hy with rfl | ⟨hy, hyn⟩
    · rfl
    · exact absurd hcode.symm (hunique y hy hyn)
    · exact absurd hcode (hunique x hx hxn)
    · exact h.codes x hx y hy hcode
  · -- a node whose parent was just written is pending
    have hparent : x.parent ≠ some n.id := fun hp =>
      hpending (.inl (List.mem_map_of_mem (mem_children.mpr ⟨hx, hp⟩)))
    rcases hrows x hx with rfl | ⟨hx, hxn⟩
    · have hsame : (db.write (pathed db held n)).parentOf (pathed db held n) = db.parentOf n :=
        parentOf_write hparent
      have hbuilt : (db.write (pathed db held n)).buildPath none (pathed db held n) =
          db.buildPath none n := buildPath_write hparent
      refine ⟨by rw [hsame]; exact hkind, by rw [hsame]; exact hexists, ?_⟩
      rw [hbuilt]
      exact hcurrent.buildPath
    · exact placed_write hparent (h.placed x hx fun hp => hpending (.inr ⟨hp, hxn⟩))

lemma height_of_child {c : GeoNode} (hc : c.parent = some n.id)
    (hclean : db.fullClean (some n) c = true) : n.kind.height = c.kind.height + 1 := by
  have hkind := (fullClean_iff.mp hclean).2.2.1
  rw [Geo.parentObject, if_pos hc, Option.map_some] at hkind
  exact Kind.height_of_allowedParent hkind

lemma fullClean_of_saveAt {height : ℕ} (h : Geo.saveAt height db held n = .ok db') :
    db.fullClean held n = true := by
  rw [Geo.saveAt] at h
  split at h
  · assumption
  · cases h

lemma get?_saveAt (height : ℕ) :
    ∀ {db db' : Geo} {held : Option GeoNode} {n y : GeoNode},
      Geo.saveAt height db held n = .ok db' → n.kind.height = height → y.id ≠ n.id →
        height ≤ y.kind.height → db.nodes.get? y.id = some y → db'.nodes.get? y.id = some y := by
  induction height with
  | zero =>
      intro db db' held n y hok _ hne _ hy
      have hclean := fullClean_of_saveAt hok
      rw [Geo.saveAt, if_pos hclean] at hok
      dsimp only at hok
      split at hok
      · cases hok
        exact (Table.get?_put_of_ne (r := pathed db held n) _ hne).trans hy
      · cases hok
  | succ height ih =>
      intro db db' held n y hok hn hne hheight hy
      have hclean := fullClean_of_saveAt hok
      rw [Geo.saveAt, if_pos hclean] at hok
      have hwritten : (db.write (pathed db held n)).nodes.get? y.id = some y :=
        (Table.get?_put_of_ne (r := pathed db held n) _ hne).trans hy
      refine (Fallible.foldlM_spec (I := fun (s : Geo) (rest : List GeoNode) =>
        s.nodes.get? y.id = some y ∧
          ∀ c ∈ rest, c ∈ (db.write (pathed db held n)).children n.id) ?_
        ⟨hwritten, fun _ hc => hc⟩ hok).1
      rintro s c rest s' ⟨hs, hrest⟩ hstep
      obtain ⟨hc, hparent⟩ := mem_children.mp (hrest c List.mem_cons_self)
      have hchild : n.kind.height = c.kind.height + 1 :=
        height_of_child (n := pathed db held n) hparent (fullClean_of_saveAt hstep)
      -- the row is no child: it is of a kind above
      have hyc : y.id ≠ c.id := by
        intro heq
        have hcy : y = c := Table.eq_of_mem (Table.mem_of_get? hwritten).1 hc heq
        rw [hcy] at hheight
        omega
      exact ⟨ih hstep (by omega) hyc (by omega) hs, fun x hx => hrest x (List.mem_cons_of_mem _ hx)⟩

/-- Saving a node puts it and its subtree in order. -/
theorem sound_saveAt (height : ℕ) :
    ∀ {db db' : Geo} {held : Option GeoNode} {n : GeoNode} {pending : ℕ → Prop},
      Sound db pending → Current db held n → n.NoSlash → n.id < db.nextId →
      n.kind.height = height → Geo.saveAt height db held n = .ok db' →
      Sound db' (fun i => pending i ∧ i ≠ n.id) ∧ db'.nextId = db.nextId := by
  induction height with
  | zero =>
      intro db db' held n pending h hcurrent hslash hid _ hok
      have hclean := fullClean_of_saveAt hok
      have hsound := sound_write h hcurrent hclean hslash hid
      rw [Geo.saveAt, if_pos hclean] at hok
      dsimp only at hok
      split at hok
      · rename_i hnone
        cases hok
        have hempty : (db.write (pathed db held n)).children n.id = [] := hnone
        rw [hempty] at hsound
        exact ⟨hsound.mono fun i hi => hi.resolve_left (by simp), rfl⟩
      · cases hok
  | succ height ih =>
      intro db db' held n pending h hcurrent hslash hid hheight hok
      have hclean := fullClean_of_saveAt hok
      have hsound := sound_write h hcurrent hclean hslash hid
      rw [Geo.saveAt, if_pos hclean] at hok
      have hrow : (db.write (pathed db held n)).nodes.get? n.id = some (pathed db held n) :=
        Table.get?_put_self _ _
      -- the children that are left are pending, and the node is the parent that they hold
      have hrest := Fallible.foldlM_spec (s := db.write (pathed db held n))
        (I := fun (s : Geo) (rest : List GeoNode) =>
          (Sound s fun i => i ∈ rest.map (·.id) ∨ (pending i ∧ i ≠ n.id)) ∧
            s.nextId = db.nextId ∧ s.nodes.get? n.id = some (pathed db held n) ∧
            ∀ c ∈ rest, c ∈ (db.write (pathed db held n)).children n.id)
        (fun s c rest s' hI hstep => ?_) ⟨hsound, rfl, hrow, fun _ hc => hc⟩ hok
      · exact ⟨hrest.1.mono fun i hi => hi.resolve_left (by simp), hrest.2.1⟩
      · obtain ⟨hs, hnext, hn, hall⟩ := hI
        obtain ⟨hc, hparent⟩ := mem_children.mp (hall c List.mem_cons_self)
        have hchild : n.kind.height = c.kind.height + 1 :=
          height_of_child (n := pathed db held n) hparent (fullClean_of_saveAt hstep)
        have hcheight : c.kind.height = height := by omega
        have hne : n.id ≠ c.id := by
          intro heq
          have hcn : pathed db held n = c := Table.eq_of_mem (Table.mem_of_get? hrow).1 hc heq
          rw [← hcn] at hchild
          simp [pathed] at hchild
        have hheld : Current s (some (pathed db held n)) c := by
          rintro q ⟨⟩ -
          exact ⟨_, hn, rfl, rfl⟩
        obtain ⟨hs', hnext'⟩ := ih hs hheld (hsound.noSlash c hc)
          (hnext ▸ hsound.fresh c hc) hcheight hstep
        refine ⟨hs'.mono ?_, hnext'.trans hnext, ?_, fun x hx => hall x (List.mem_cons_of_mem _ hx)⟩
        · rintro i ⟨hi | hi, hne⟩
          · rcases List.mem_cons.mp hi with rfl | hi
            · exact absurd rfl hne
            · exact .inl hi
          · exact .inr hi
        · refine get?_saveAt height (y := pathed db held n) hstep hcheight hne ?_ hn
          show height ≤ n.kind.height
          omega

end Save

/-! ## Prefixes of paths -/

/-- The text is empty or ends with a slash. -/
def Closed (u : List Char) : Prop := u = [] ∨ ∃ v, u = v ++ ['/']

lemma Closed.slash_mem {u w : List Char} (h : Closed (u ++ w)) (hw : w ≠ []) : '/' ∈ w := by
  rcases h with h | ⟨v, h⟩
  · exact absurd (List.append_eq_nil_iff.mp h).2 hw
  · have hlast := List.getLast_append_of_ne_nil (l := u) (by simp [hw]) hw
    simp only [h, List.getLast_append_of_ne_nil _ (List.cons_ne_nil '/' []),
      List.getLast_singleton] at hlast
    rw [hlast]
    exact List.getLast_mem hw

/-- A closed text that begins a path begins the path of the parent or is all of it. -/
lemma prefix_of_closed {a u c : List Char} (ha : Closed a) (hc : '/' ∉ c)
    (h : a <+: u ++ (c ++ ['/'])) : a <+: u ∨ a = u ++ (c ++ ['/']) := by
  rcases List.prefix_or_prefix_of_prefix h (List.prefix_append u _) with hau | ⟨w, rfl⟩
  · exact .inl hau
  · rw [List.prefix_append_right_inj, List.prefix_concat_iff] at h
    rcases h with rfl | hw
    · exact .inr rfl
    · by_cases hnil : w = []
      · rw [hnil, List.append_nil]
        exact .inl (List.prefix_refl u)
      · exact absurd (hw.subset (ha.slash_mem hnil)) hc

lemma code_eq_of_path_eq {u v c d : List Char} (hu : Closed u) (hv : Closed v) (hc : '/' ∉ c)
    (hd : '/' ∉ d) (h : u ++ (c ++ ['/']) = v ++ (d ++ ['/'])) : c = d := by
  have hshort : ∀ {v c d w : List Char}, Closed (v ++ w) → '/' ∉ d →
      d ++ ['/'] = w ++ (c ++ ['/']) → c = d := by
    intro v c d w hw hd h
    rw [← List.append_assoc] at h
    obtain ⟨rfl, -⟩ := List.append_inj' h rfl
    by_cases hnil : w = []
    · rw [hnil, List.nil_append]
    · exact absurd (List.mem_append_left c (hw.slash_mem hnil)) hd
  rcases List.append_eq_append_iff.mp h with ⟨w, rfl, hw⟩ | ⟨w, rfl, hw⟩
  · exact (hshort hv hc hw).symm
  · exact hshort hu hd hw

/-! ## Coverage -/

def Tree (db : Geo) : Prop := Sound db fun _ => False

/-- The node is `a` or lies under it, along the stored parents. -/
inductive Within (db : Geo) (a : GeoNode) : GeoNode → Prop where
  | self : Within db a a
  | up {b p : GeoNode} : db.parentOf b = some p → Within db a p → Within db a b

section Tree

variable {db : Geo} {a b p : GeoNode}

lemma mem_of_parentOf (h : db.parentOf b = some p) : p ∈ db.nodes.rows := by
  rw [Geo.parentOf, Option.bind_eq_some_iff] at h
  obtain ⟨i, -, hget⟩ := h
  exact (Table.mem_of_get? hget).1

lemma Tree.path (h : Tree db) (hb : b ∈ db.nodes.rows) :
    b.path.toList = (((db.parentOf b).map (·.path)).getD "").toList ++ (b.code.toList ++ ['/']) := by
  rw [(h.placed b hb id).path, Geo.buildPath, String.toList_append, String.toList_append]
  rfl

lemma Tree.closed (h : Tree db) (hb : b ∈ db.nodes.rows) : Closed b.path.toList :=
  .inr ⟨_ ++ b.code.toList, by rw [h.path hb, List.append_assoc]⟩

lemma Tree.closed_base (h : Tree db) : Closed (((db.parentOf b).map (·.path)).getD "").toList := by
  cases hparent : db.parentOf b with
  | none => exact .inl rfl
  | some p => exact h.closed (mem_of_parentOf hparent)

lemma Tree.height (h : Tree db) (hb : b ∈ db.nodes.rows) (hparent : db.parentOf b = some p) :
    p.kind.height = b.kind.height + 1 := by
  have hkind := (h.placed b hb id).clean
  rw [hparent, Option.map_some] at hkind
  exact Kind.height_of_allowedParent hkind

lemma covers_eq_true_iff : a.covers b = true ↔ a.path.toList <+: b.path.toList := by
  rw [GeoNode.covers, List.isPrefixOf_iff_prefix]

/-- A node covers another exactly when it is the other or covers the other's parent. -/
lemma Tree.covers_iff_parent (h : Tree db) (ha : a ∈ db.nodes.rows) (hb : b ∈ db.nodes.rows) :
    a.covers b = true ↔ a = b ∨ ∃ p, db.parentOf b = some p ∧ a.covers p = true := by
  rw [covers_eq_true_iff, h.path hb]
  constructor
  · intro hprefix
    rcases prefix_of_closed (h.closed ha) (h.noSlash b hb) hprefix with hbase | hall
    · cases hparent : db.parentOf b with
      | none =>
          -- no path is empty
          rw [hparent] at hbase
          have hnil := List.prefix_nil.mp hbase
          rw [h.path ha] at hnil
          simp at hnil
      | some p =>
          rw [hparent] at hbase
          exact .inr ⟨p, rfl, covers_eq_true_iff.mpr hbase⟩
    · rw [h.path ha] at hall
      have hcode := code_eq_of_path_eq h.closed_base h.closed_base (h.noSlash a ha)
        (h.noSlash b hb) hall
      exact .inl (h.codes a ha b hb (String.toList_inj.mp hcode))
  · rintro (rfl | ⟨p, hparent, hcovers⟩)
    · rw [← h.path ha]
    · rw [hparent]
      exact (covers_eq_true_iff.mp hcovers).trans (List.prefix_append _ _)

/-- A node that lies under another has no more kinds below it. -/
lemma Tree.height_le (h : Tree db) (hb : b ∈ db.nodes.rows) (hwithin : Within db a b) :
    b.kind.height ≤ a.kind.height := by
  induction hwithin with
  | self => exact le_refl _
  | up hparent _ ih =>
      have hheight := h.height hb hparent
      have hle := ih (mem_of_parentOf hparent)
      omega

lemma Tree.covers_of_within (h : Tree db) (ha : a ∈ db.nodes.rows) (hb : b ∈ db.nodes.rows)
    (hwithin : Within db a b) : a.covers b = true := by
  induction hwithin with
  | self => exact (h.covers_iff_parent ha ha).mpr (.inl rfl)
  | up hparent _ ih =>
      exact (h.covers_iff_parent ha hb).mpr (.inr ⟨_, hparent, ih (mem_of_parentOf hparent)⟩)

/-- The induction goes up the parents, of which there are as many as kinds above. -/
lemma Tree.within_of_covers (h : Tree db) (ha : a ∈ db.nodes.rows) (depth : ℕ) :
    ∀ {b : GeoNode}, b ∈ db.nodes.rows → 3 - b.kind.height = depth → a.covers b = true →
      Within db a b := by
  induction depth with
  | zero =>
      intro b hb hdepth hcovers
      rcases (h.covers_iff_parent ha hb).mp hcovers with rfl | ⟨p, hparent, -⟩
      · exact .self
      · have hheight := h.height hb hparent
        have htop : p.kind.height ≤ 3 := by cases p.kind <;> decide
        omega
  | succ depth ih =>
      intro b hb hdepth hcovers
      rcases (h.covers_iff_parent ha hb).mp hcovers with rfl | ⟨p, hparent, hcovers⟩
      · exact .self
      · have hheight := h.height hb hparent
        exact .up hparent (ih (mem_of_parentOf hparent) (by omega) hcovers)

/-- The prefix test and the stored parents agree. -/
theorem Tree.covers_iff_within (h : Tree db) (ha : a ∈ db.nodes.rows) (hb : b ∈ db.nodes.rows) :
    a.covers b = true ↔ Within db a b :=
  ⟨h.within_of_covers ha _ hb rfl, h.covers_of_within ha hb⟩

/-- No node lies under itself. -/
theorem Tree.acyclic (h : Tree db) (hb : b ∈ db.nodes.rows) (hparent : db.parentOf b = some p) :
    ¬ Within db b p := by
  intro hwithin
  have hheight := h.height hb hparent
  have hle := h.height_le (mem_of_parentOf hparent) hwithin
  omega

end Tree

/-! ## Runs of saves -/

/-- A save of a new node, or of a stored one with any of its fields changed, by an instance that
may hold an object as its parent. -/
inductive Act where
  | create (n : GeoNode) (held : Option GeoNode)
  | edit (n : GeoNode) (held : Option GeoNode)

/-- The node that is saved. -/
def Act.node : Act → GeoNode
  | create n _ => n
  | edit n _ => n

/-- The parent object that the instance holds. -/
def Act.held : Act → Option GeoNode
  | create _ held => held
  | edit _ held => held

/-- What a save leaves: a save that raises leaves everything as it was. -/
def step (db : Geo) : Act → Geo
  | .create n held =>
      match Geo.save { db with nextId := db.nextId + 1 } held { n with id := db.nextId } with
      | .ok db' => db'
      | .error _ => db
  | .edit n held =>
      if (db.nodes.get? n.id).isSome then
        match db.save held n with
        | .ok db' => db'
        | .error _ => db
      else db

/-- The code has no slash, and a parent object that is held is as it is stored. -/
structure Timely (db : Geo) (act : Act) : Prop where
  noSlash : act.node.NoSlash
  current : Current db act.held act.node

def Geo.empty : Geo := ⟨Table.empty, 1⟩

lemma tree_empty : Tree Geo.empty :=
  ⟨fun _ h => absurd h List.not_mem_nil, fun _ h => absurd h List.not_mem_nil,
    fun _ h => absurd h List.not_mem_nil, fun _ h => absurd h List.not_mem_nil⟩

lemma tree_of_save {db db' : Geo} {held : Option GeoNode} {n : GeoNode} (h : Tree db)
    (hcurrent : Current db held n) (hslash : n.NoSlash) (hid : n.id < db.nextId)
    (hok : db.save held n = .ok db') : Tree db' :=
  (sound_saveAt _ h hcurrent hslash hid rfl hok).1.mono fun _ hi => hi.1

lemma tree_step {db : Geo} {act : Act} (htimely : Timely db act) (h : Tree db) :
    Tree (step db act) := by
  cases act with
  | create n held =>
      have hnext : Tree { db with nextId := db.nextId + 1 } :=
        ⟨fun x hx => Nat.lt_succ_of_lt (h.fresh x hx), h.noSlash, h.codes, fun x hx hp =>
          ⟨(h.placed x hx hp).clean, (h.placed x hx hp).exists_parent, (h.placed x hx hp).path⟩⟩
      rw [step]
      split
      · rename_i hok
        exact tree_of_save (n := { n with id := db.nextId }) hnext htimely.current
          htimely.noSlash (Nat.lt_succ_self _) hok
      · exact h
  | edit n held =>
      rw [step]
      split
      · rename_i hstored
        obtain ⟨x, hx⟩ := Option.isSome_iff_exists.mp hstored
        obtain ⟨hmem, hpk⟩ := Table.mem_of_get? hx
        split
        · rename_i hok
          exact tree_of_save h htimely.current htimely.noSlash (hpk ▸ h.fresh x hmem) hok
        · exact h
      · exact h

/-- Coverage is lying under along the stored parents, and no node lies under itself. -/
structure Lawful (db : Geo) : Prop where
  covers : ∀ a ∈ db.nodes.rows, ∀ b ∈ db.nodes.rows, (a.covers b = true ↔ Within db a b)
  acyclic : ∀ b ∈ db.nodes.rows, ∀ p, db.parentOf b = some p → ¬ Within db b p

/-- After any sequence of saves with codes without slashes, by instances whose parent objects are
as they are stored, coverage is lying under along the stored parents. -/
theorem covers_iff_within_of_run (as : List Act)
    (h : Transition.Guarded step Timely Geo.empty as) :
    Lawful (Transition.run step Geo.empty as) := by
  have htree : Tree (Transition.run step Geo.empty as) :=
    Transition.invariant_of_guarded (fun _ _ htimely hdb => tree_step htimely hdb) tree_empty h
  exact ⟨fun a ha b hb => htree.covers_iff_within ha hb, fun b hb p => htree.acyclic hb⟩

instance (db : Geo) (held : Option GeoNode) (n : GeoNode) : Decidable (Current db held n) :=
  match held with
  | none => isTrue fun _ h => by cases h
  | some q =>
      decidable_of_iff (n.parent = some q.id →
          (db.nodes.get? q.id).any fun p => p.kind = q.kind && p.path = q.path) <| by
        simp only [Current, Option.any_eq_true, Bool.and_eq_true, decide_eq_true_eq]
        constructor
        · rintro h _ ⟨⟩ hq
          exact h hq
        · intro h hq
          exact h q rfl hq

instance (db : Geo) (act : Act) : Decidable (Timely db act) :=
  decidable_of_iff (act.node.NoSlash ∧ Current db act.held act.node)
    ⟨fun h => ⟨h.1, h.2⟩, fun h => ⟨h.noSlash, h.current⟩⟩

/-- Two states under one country. -/
def countryActs : List Act :=
  [.create ⟨0, .global, "GLOBAL", "World", none, "", .active⟩ none,
    .create ⟨0, .country, "IN", "India", some 1, "", .active⟩ none,
    .create ⟨0, .state, "IN-T", "Telangana", some 2, "", .active⟩ none,
    .create ⟨0, .state, "IN-TN", "Tamil Nadu", some 2, "", .active⟩ none]

def telangana : GeoNode := ⟨3, .state, "IN-T", "Telangana", some 2, "GLOBAL/IN/IN-T/", .active⟩

/-- One state is renamed, and its city, which was created through the object of the state,
follows. -/
def exampleActs : List Act :=
  countryActs ++ [.create ⟨0, .city, "IN-TG-HYD", "Hyderabad", some 3, "", .draft⟩ (some telangana),
    .edit ⟨3, .state, "IN-TG", "Telangana", some 2, "GLOBAL/IN/IN-T/", .active⟩ none]

theorem covers_iff_within_exampleActs :
    Lawful (Transition.run step Geo.empty exampleActs) ∧
      (Transition.run step Geo.empty exampleActs).nodes.rows.map (·.path) =
        ["GLOBAL/", "GLOBAL/IN/", "GLOBAL/IN/IN-TG/", "GLOBAL/IN/IN-TN/",
          "GLOBAL/IN/IN-TG/IN-TG-HYD/"] :=
  ⟨covers_iff_within_of_run exampleActs (by decide +kernel), by decide +kernel⟩

/-- The city is created through the object of the state after another instance has renamed the
state. -/
def staleActs : List Act :=
  countryActs ++ [.edit ⟨3, .state, "IN-TG", "Telangana", some 2, "GLOBAL/IN/IN-T/", .active⟩ none,
    .create ⟨0, .city, "IN-TG-HYD", "Hyderabad", some 3, "", .draft⟩ (some telangana)]

/-- The state object was loaded before the rename, and the state does not cover its city. -/
theorem not_lawful_staleActs :
    (Transition.run step Geo.empty countryActs).nodes.get? 3 = some telangana ∧
      (∀ act ∈ staleActs, act.node.NoSlash) ∧
      ¬ Lawful (Transition.run step Geo.empty staleActs) := by
  refine ⟨by decide +kernel, by decide +kernel, fun h => ?_⟩
  generalize hdb : Transition.run step Geo.empty staleActs = db at h
  have hstate : (db.nodes.get? 3).map (·.path) = some "GLOBAL/IN/IN-TG/" := by
    rw [← hdb]
    decide +kernel
  have hcity : (db.nodes.get? 5).map (fun c => (c.parent, c.path)) =
      some (some 3, "GLOBAL/IN/IN-T/IN-TG-HYD/") := by
    rw [← hdb]
    decide +kernel
  obtain ⟨a, ha, hapath⟩ := Option.map_eq_some_iff.mp hstate
  obtain ⟨b, hb, hbeq⟩ := Option.map_eq_some_iff.mp hcity
  injection hbeq with hparent hbpath
  have hup : db.parentOf b = some a := by
    rw [Geo.parentOf, hparent]
    exact ha
  have hcovers := (h.covers a (Table.mem_of_get? ha).1 b (Table.mem_of_get? hb).1).mpr
    (.up hup .self)
  rw [GeoNode.covers, hapath, hbpath] at hcovers
  exact absurd hcovers (by decide +kernel)

end SaaradhiGo.AdminAccess
