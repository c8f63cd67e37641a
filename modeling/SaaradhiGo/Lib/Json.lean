/-
JSON values and the compact text that is printed of them.

The text has sorted keys, no blanks and only ASCII characters.  It determines what was
printed: a printed value ends where it ends whatever follows it, so two objects with one text
have the same printed value under every key.
-/
import Mathlib.Data.Int.Notation
import Mathlib.Data.List.Sort
import Mathlib.Data.String.Basic

/-! ## Values -/

def Json.isNumeric (c : Char) : Bool :=
  c.isDigit || c = '-' || c = '+' || c = '.' || c = 'e'

/-- A float, as it is printed. -/
structure Json.Float where
  text : List Char
  nonempty : text ≠ []
  numeric : ∀ c ∈ text, Json.isNumeric c
  intValue : Option ℤ

/-- A JSON value. -/
inductive Json where
  | null
  | bool (b : Bool)
  | int (n : ℤ)
  | float (f : Json.Float)
  | str (s : String)
  | arr (vs : List Json)
  | obj (fs : List (String × Json))

namespace Json

/-! ## Printing -/

def shortEscapes : List (Char × Char) :=
  [('"', '"'), ('\\', '\\'), ('\n', 'n'), ('\r', 'r'), ('\t', 't'), ('\x08', 'b'), ('\x0c', 'f')]

/-- Four hexadecimal digits. -/
def hex4 (n : ℕ) : List Char :=
  [Nat.digitChar (n / 4096 % 16), Nat.digitChar (n / 256 % 16), Nat.digitChar (n / 16 % 16),
    Nat.digitChar (n % 16)]

/-- A UTF-16 unit. -/
def utf16Unit (n : ℕ) : List Char :=
  '\\' :: 'u' :: hex4 n

/-- A character inside a string. -/
def escape (c : Char) : List Char :=
  match shortEscapes.lookup c with
  | some x => ['\\', x]
  | none =>
      if 0x20 ≤ c.toNat ∧ c.toNat ≤ 0x7e then [c]
      else if c.toNat < 0x10000 then utf16Unit c.toNat
      else
        utf16Unit (0xd800 + (c.toNat - 0x10000) / 0x400) ++
          utf16Unit (0xdc00 + (c.toNat - 0x10000) % 0x400)

def quote (s : String) : List Char :=
  '"' :: s.toList.flatMap escape ++ ['"']

/-- An integer. -/
def intText : ℤ → List Char
  | .ofNat n => Nat.toDigits 10 n
  | .negSucc n => '-' :: Nat.toDigits 10 (n + 1)

/-- Texts with commas between them. -/
def commas : List (List Char) → List Char
  | [] => []
  | [x] => x
  | x :: y :: l => x ++ ',' :: commas (y :: l)

def sortKeys (ms : List (String × List Char)) : List (String × List Char) :=
  ms.insertionSort fun a b => a.1 ≤ b.1

def member (m : String × List Char) : List Char :=
  quote m.1 ++ ':' :: m.2

mutual

/-- The text of a value. -/
def dumps : Json → List Char
  | null => ['n', 'u', 'l', 'l']
  | bool true => ['t', 'r', 'u', 'e']
  | bool false => ['f', 'a', 'l', 's', 'e']
  | int n => intText n
  | float f => f.text
  | str s => quote s
  | arr vs => '[' :: commas (dumpsAll vs) ++ [']']
  | obj fs => '\x7b' :: commas ((sortKeys (dumpsFields fs)).map member) ++ ['\x7d']

def dumpsAll : List Json → List (List Char)
  | [] => []
  | v :: vs => dumps v :: dumpsAll vs

def dumpsFields : List (String × Json) → List (String × List Char)
  | [] => []
  | (k, v) :: fs => (k, dumps v) :: dumpsFields fs

end

/-- The value under a key. -/
def get? : Json → String → Option Json
  | obj fs, k => fs.lookup k
  | _, _ => none

/-! ## Strings -/

lemma digitChar_inj {a b : ℕ} (ha : a < 16) (hb : b < 16) (h : Nat.digitChar a = Nat.digitChar b) :
    a = b := by
  have hall : ∀ a < 16, ∀ b < 16, Nat.digitChar a = Nat.digitChar b → a = b := by decide
  exact hall a ha b hb h

lemma hex4_append {a b : ℕ} {s t : List Char} (ha : a < 0x10000) (hb : b < 0x10000)
    (h : hex4 a ++ s = hex4 b ++ t) : a = b ∧ s = t := by
  simp only [hex4, List.cons_append, List.nil_append, List.cons.injEq] at h
  obtain ⟨h₃, h₂, h₁, h₀, hst⟩ := h
  have h₃ := digitChar_inj (by omega) (by omega) h₃
  have h₂ := digitChar_inj (by omega) (by omega) h₂
  have h₁ := digitChar_inj (by omega) (by omega) h₁
  have h₀ := digitChar_inj (by omega) (by omega) h₀
  exact ⟨by omega, hst⟩

/-- How a character is printed. -/
inductive Escaped (c : Char) : List Char → Prop where
  | short (x : Char) (h : (c, x) ∈ shortEscapes) : Escaped c ['\\', x]
  | plain (h : c ≠ '\\' ∧ c ≠ '"') : Escaped c [c]
  | unit (h : c.toNat < 0x10000) : Escaped c (utf16Unit c.toNat)
  | pair (h : 0x10000 ≤ c.toNat) : Escaped c
      (utf16Unit (0xd800 + (c.toNat - 0x10000) / 0x400) ++
        utf16Unit (0xdc00 + (c.toNat - 0x10000) % 0x400))

lemma escaped (c : Char) : Escaped c (escape c) := by
  rw [escape]
  cases hshort : shortEscapes.lookup c with
  | some x =>
      refine .short x ?_
      rw [List.lookup_eq_some_iff] at hshort
      obtain ⟨l₁, l₂, heq, -⟩ := hshort
      rw [heq]
      simp
  | none =>
      dsimp only
      split
      · refine .plain ⟨?_, ?_⟩
        · rintro rfl
          revert hshort
          decide
        · rintro rfl
          revert hshort
          decide
      · split
        · exact .unit ‹_›
        · exact .pair (by omega)

lemma toNat_lt (c : Char) : c.toNat < 0xd800 ∨ 0xdfff < c.toNat ∧ c.toNat < 0x110000 := c.valid

/-- A printed character ends where it ends. -/
lemma escape_append {c d : Char} {s t : List Char} (h : escape c ++ s = escape d ++ t) :
    c = d ∧ s = t := by
  have hshort : ∀ p ∈ shortEscapes, p.2 ≠ 'u' ∧ ∀ q ∈ shortEscapes, p.2 = q.2 → p.1 = q.1 := by
    decide
  have hc := toNat_lt c
  have hd := toNat_lt d
  have hexc := escaped c
  have hexd := escaped d
  revert h
  generalize escape c = x at *
  generalize escape d = y at *
  intro h
  cases hexc with
  | short x hx =>
      cases hexd with
      | short y hy =>
          simp only [List.cons_append, List.nil_append, List.cons.injEq, true_and] at h
          exact ⟨(hshort _ hx).2 _ hy h.1, h.2⟩
      | plain hy =>
          simp only [List.cons_append, List.nil_append, List.cons.injEq] at h
          exact absurd h.1.symm hy.1
      | unit hy =>
          simp only [utf16Unit, List.cons_append, List.nil_append, List.cons.injEq, true_and] at h
          exact absurd h.1 (hshort _ hx).1
      | pair hy =>
          simp only [utf16Unit, List.cons_append, List.nil_append, List.cons.injEq, true_and] at h
          exact absurd h.1 (hshort _ hx).1
  | plain hx =>
      cases hexd with
      | short y hy =>
          simp only [List.cons_append, List.nil_append, List.cons.injEq] at h
          exact absurd h.1 hx.1
      | plain hy =>
          simp only [List.cons_append, List.nil_append, List.cons.injEq] at h
          exact h
      | unit hy =>
          simp only [utf16Unit, List.cons_append, List.nil_append, List.cons.injEq] at h
          exact absurd h.1 hx.1
      | pair hy =>
          simp only [utf16Unit, List.cons_append, List.nil_append, List.cons.injEq] at h
          exact absurd h.1 hx.1
  | unit hx =>
      cases hexd with
      | short y hy =>
          simp only [utf16Unit, List.cons_append, List.nil_append, List.cons.injEq, true_and] at h
          exact absurd h.1.symm (hshort _ hy).1
      | plain hy =>
          simp only [utf16Unit, List.cons_append, List.nil_append, List.cons.injEq] at h
          exact absurd h.1.symm hy.1
      | unit hy =>
          simp only [utf16Unit, List.cons_append, List.cons.injEq, true_and] at h
          obtain ⟨hcd, hst⟩ := hex4_append hx hy h
          exact ⟨Char.toNat_inj.mp hcd, hst⟩
      | pair hy =>
          simp only [utf16Unit, List.cons_append, List.cons.injEq, true_and, List.append_assoc] at h
          -- a character is no surrogate
          obtain ⟨hcd, -⟩ := hex4_append hx (by omega) h
          omega
  | pair hx =>
      cases hexd with
      | short y hy =>
          simp only [utf16Unit, List.cons_append, List.nil_append, List.cons.injEq, true_and] at h
          exact absurd h.1.symm (hshort _ hy).1
      | plain hy =>
          simp only [utf16Unit, List.cons_append, List.nil_append, List.cons.injEq] at h
          exact absurd h.1.symm hy.1
      | unit hy =>
          simp only [utf16Unit, List.cons_append, List.cons.injEq, true_and, List.append_assoc] at h
          obtain ⟨hcd, -⟩ := hex4_append (by omega) hy h
          omega
      | pair hy =>
          simp only [utf16Unit, List.cons_append, List.cons.injEq, true_and, List.append_assoc] at h
          obtain ⟨hhigh, hrest⟩ := hex4_append (by omega) (by omega) h
          simp only [List.cons.injEq, true_and] at hrest
          obtain ⟨hlow, hst⟩ := hex4_append (by omega) (by omega) hrest
          exact ⟨Char.toNat_inj.mp (by omega), hst⟩

lemma escape_ne_quote (c : Char) : ∃ x l, escape c = x :: l ∧ x ≠ '"' := by
  have h := escaped c
  revert h
  generalize escape c = y
  intro h
  cases h with
  | short x hx => exact ⟨_, _, rfl, by decide⟩
  | plain hx => exact ⟨_, _, rfl, hx.2⟩
  | unit hx => exact ⟨_, _, rfl, by decide⟩
  | pair hx => exact ⟨_, _, rfl, by decide⟩

lemma quote_append {a b : String} {s t : List Char} (h : quote a ++ s = quote b ++ t) :
    a = b ∧ s = t := by
  have hchars : ∀ (l m : List Char), l.flatMap escape ++ '"' :: s = m.flatMap escape ++ '"' :: t →
      l = m ∧ s = t := by
    intro l
    induction l with
    | nil =>
        intro m h
        cases m with
        | nil => exact ⟨rfl, by simpa using h⟩
        | cons d m =>
            obtain ⟨x, l', hx, hne⟩ := escape_ne_quote d
            simp only [List.flatMap_nil, List.nil_append, List.flatMap_cons, hx, List.cons_append,
              List.cons.injEq] at h
            exact absurd h.1.symm hne
    | cons c l ih =>
        intro m h
        cases m with
        | nil =>
            obtain ⟨x, l', hx, hne⟩ := escape_ne_quote c
            simp only [List.flatMap_nil, List.nil_append, List.flatMap_cons, hx, List.cons_append,
              List.cons.injEq] at h
            exact absurd h.1 hne
        | cons d m =>
            rw [List.flatMap_cons, List.flatMap_cons, List.append_assoc, List.append_assoc] at h
            obtain ⟨hcd, hrest⟩ := escape_append h
            obtain ⟨hlm, hst⟩ := ih m hrest
            exact ⟨by rw [hcd, hlm], hst⟩
  simp only [quote, List.cons_append, List.append_assoc, List.cons.injEq, true_and,
    List.nil_append] at h
  obtain ⟨hab, hst⟩ := hchars _ _ h
  exact ⟨String.toList_injective hab, hst⟩

/-! ## Values -/

/-- What may follow a value: nothing, or a character that ends it. -/
def Closes (s : List Char) : Prop :=
  ∀ c ∈ s.head?, c = ',' ∨ c = ']' ∨ c = '\x7d'

lemma closes_nil : Closes [] := by simp [Closes]

lemma closes_cons {c : Char} {s : List Char} : Closes (c :: s) ↔ c = ',' ∨ c = ']' ∨ c = '\x7d' := by
  simp [Closes]

/-- A number ends at the first character that is not numeric. -/
lemma number_append {x y s t : List Char} (hx : ∀ c ∈ x, isNumeric c) (hy : ∀ c ∈ y, isNumeric c)
    (hs : Closes s) (ht : Closes t) (h : x ++ s = y ++ t) : x = y ∧ s = t := by
  have htake : ∀ {x s : List Char}, (∀ c ∈ x, isNumeric c) → Closes s →
      (x ++ s).takeWhile isNumeric = x := by
    intro x s hx hs
    rw [List.takeWhile_append_of_pos hx]
    cases s with
    | nil => simp
    | cons c s =>
        have hc : isNumeric c = false := by
          rcases closes_cons.mp hs with rfl | rfl | rfl <;> decide
        simp [hc]
  have hxy : x = y := by
    rw [← htake hx hs, h, htake hy ht]
  subst hxy
  exact ⟨rfl, List.append_cancel_left h⟩

lemma intText_numeric (n : ℤ) : intText n ≠ [] ∧ ∀ c ∈ intText n, isNumeric c := by
  have hdigits : ∀ n, Nat.toDigits 10 n ≠ [] ∧ ∀ c ∈ Nat.toDigits 10 n, isNumeric c := by
    intro n
    constructor
    · rw [Nat.toDigits_eq_if (by decide)]
      split <;> simp
    · intro c hc
      simp [isNumeric, Nat.isDigit_of_mem_toDigits (by decide) (by decide) hc]
  cases n with
  | ofNat n => exact hdigits n
  | negSucc n =>
      refine ⟨by simp [intText], fun c hc => ?_⟩
      rcases List.mem_cons.mp hc with rfl | hc
      · rfl
      · exact (hdigits _).2 c hc

def Separate (x y : List Char) : Prop :=
  ∀ s t, Closes s → Closes t → x ++ s = y ++ t → x = y ∧ s = t

lemma commas_append {xs ys : List (List Char)} {e : Char} {s t : List Char}
    (he : e = ']' ∨ e = '\x7d') (hsep : ∀ x ∈ xs, ∀ y ∈ ys, Separate x y)
    (hxs : ∀ x ∈ xs, ¬ Closes x) (hys : ∀ y ∈ ys, ¬ Closes y)
    (h : commas xs ++ e :: s = commas ys ++ e :: t) : xs = ys ∧ s = t := by
  have hclose : ∀ u, Closes (e :: u) := fun u => closes_cons.mpr (.inr he)
  -- a text that is not ended by its first character does not begin with the bracket
  have hnot : ∀ (x : List Char) (u u' : List Char), ¬ Closes x → e :: u ≠ x ++ u' := by
    intro x u u' hx heq
    cases x with
    | nil => exact hx closes_nil
    | cons c x =>
        rw [List.cons_append, List.cons.injEq] at heq
        exact hx (closes_cons.mpr (heq.1 ▸ .inr he))
  have hhead : ∀ (y : List Char) (ys : List (List Char)), ∃ u, commas (y :: ys) = y ++ u := by
    intro y ys
    cases ys with
    | nil => exact ⟨[], by simp [commas]⟩
    | cons y' ys => exact ⟨_, rfl⟩
  induction xs generalizing ys with
  | nil =>
      cases ys with
      | nil => exact ⟨rfl, by simpa [commas] using h⟩
      | cons y ys =>
          obtain ⟨u, hu⟩ := hhead y ys
          rw [hu, List.append_assoc] at h
          exact absurd h (hnot y _ _ (hys y List.mem_cons_self))
  | cons x xs ih =>
      cases ys with
      | nil =>
          obtain ⟨u, hu⟩ := hhead x xs
          rw [hu, List.append_assoc] at h
          exact absurd h.symm (hnot x _ _ (hxs x List.mem_cons_self))
      | cons y ys =>
          have hxy := hsep x List.mem_cons_self y List.mem_cons_self
          cases xs with
          | nil =>
              cases ys with
              | nil =>
                  obtain ⟨hx, hst⟩ := hxy _ _ (hclose s) (hclose t) (by simpa [commas] using h)
                  exact ⟨by rw [hx], (List.cons.inj hst).2⟩
              | cons y' ys =>
                  obtain ⟨-, hst⟩ := hxy (e :: s) (',' :: commas (y' :: ys) ++ e :: t) (hclose s)
                    (closes_cons.mpr (.inl rfl)) (by simpa [commas] using h)
                  rcases he with rfl | rfl <;> simp at hst
          | cons x' xs =>
              cases ys with
              | nil =>
                  obtain ⟨-, hst⟩ := hxy (',' :: commas (x' :: xs) ++ e :: s) (e :: t)
                    (closes_cons.mpr (.inl rfl)) (hclose t) (by simpa [commas] using h)
                  rcases he with rfl | rfl <;> simp at hst
              | cons y' ys =>
                  obtain ⟨hx, hst⟩ := hxy (',' :: commas (x' :: xs) ++ e :: s)
                    (',' :: commas (y' :: ys) ++ e :: t) (closes_cons.mpr (.inl rfl))
                    (closes_cons.mpr (.inl rfl)) (by simpa [commas] using h)
                  simp only [List.cons_append, List.cons.injEq, true_and] at hst
                  obtain ⟨hrest, hst⟩ := ih (fun x hx y hy => hsep x (List.mem_cons_of_mem _ hx) y
                    (List.mem_cons_of_mem _ hy)) (fun x hx => hxs x (List.mem_cons_of_mem _ hx))
                    (fun y hy => hys y (List.mem_cons_of_mem _ hy)) hst
                  exact ⟨by rw [hx, hrest], hst⟩

lemma separate_member {m m' : String × List Char} (h : Separate m.2 m'.2) :
    Separate (member m) (member m') := by
  intro s t hs ht heq
  rw [member, member, List.append_assoc, List.append_assoc] at heq
  obtain ⟨hk, hrest⟩ := quote_append heq
  simp only [List.cons_append, List.cons.injEq, true_and] at hrest
  obtain ⟨hv, hst⟩ := h s t hs ht hrest
  exact ⟨by rw [member, member, hk, hv], hst⟩

lemma not_closes_member (m : String × List Char) : ¬ Closes (member m) := by
  rw [member, quote, List.cons_append, List.cons_append, closes_cons]
  decide

lemma separate_self (x : List Char) : Separate x x :=
  fun _ _ _ _ h => ⟨rfl, List.append_cancel_left h⟩

lemma member_inj {m m' : String × List Char} (h : member m = member m') : m = m' := by
  rw [member, member] at h
  obtain ⟨hk, hrest⟩ := quote_append h
  exact Prod.ext hk (List.cons.inj hrest).2

/-! ## Printed values -/

/-- The text of a value, with the members of an object in any order. -/
inductive Printed : List Char → Prop where
  | null : Printed ['n', 'u', 'l', 'l']
  | true : Printed ['t', 'r', 'u', 'e']
  | false : Printed ['f', 'a', 'l', 's', 'e']
  | number (x : List Char) (hne : x ≠ []) (h : ∀ c ∈ x, isNumeric c = Bool.true) : Printed x
  | str (s : String) : Printed (quote s)
  | arr (xs : List (List Char)) (h : ∀ x ∈ xs, Printed x) : Printed ('[' :: commas xs ++ [']'])
  | obj (ms : List (String × List Char)) (h : ∀ m ∈ ms, Printed m.2) :
      Printed ('\x7b' :: commas (ms.map member) ++ ['\x7d'])

/-- Values that begin differently are separated. -/
lemma separate_of_head {c d : Char} {x y : List Char} (h : c ≠ d) :
    Separate (c :: x) (d :: y) := by
  intro s t _ _ heq
  rw [List.cons_append, List.cons_append, List.cons.injEq] at heq
  exact absurd heq.1 h

lemma separate_symm {x y : List Char} (h : Separate x y) : Separate y x := by
  intro s t hs ht heq
  obtain ⟨hxy, hst⟩ := h t s ht hs heq.symm
  exact ⟨hxy.symm, hst.symm⟩

lemma separate_number {x y : List Char} {d : Char} (hne : x ≠ []) (hx : ∀ c ∈ x, isNumeric c)
    (hd : isNumeric d = Bool.false) : Separate x (d :: y) := by
  cases x with
  | nil => exact absurd rfl hne
  | cons c x =>
      refine separate_of_head ?_
      rintro rfl
      rw [hx c List.mem_cons_self] at hd
      cases hd

lemma Printed.not_closes {x : List Char} (h : Printed x) : ¬ Closes x := by
  cases h with
  | number x hne h =>
      cases x with
      | nil => exact absurd rfl hne
      | cons c x =>
          have hc := h c List.mem_cons_self
          rw [closes_cons]
          rintro (rfl | rfl | rfl)
          · exact absurd hc (by decide)
          · exact absurd hc (by decide)
          · exact absurd hc (by decide)
  | str s =>
      rw [quote, List.cons_append, closes_cons]
      decide
  | arr xs h =>
      rw [List.cons_append, closes_cons]
      decide
  | obj ms h =>
      rw [List.cons_append, closes_cons]
      decide
  | null =>
      rw [closes_cons]
      decide
  | true =>
      rw [closes_cons]
      decide
  | false =>
      rw [closes_cons]
      decide

/-- Printed values end where they end. -/
theorem Printed.separate {x y : List Char} (hx : Printed x) (hy : Printed y) : Separate x y := by
  induction hx generalizing y with
  | number x hne hx =>
      cases hy with
      | number y hne' hy => exact fun s t => number_append hx hy
      | _ => exact separate_number hne hx rfl
  | null =>
      cases hy with
      | null => exact separate_self _
      | number y hne hy => exact separate_symm (separate_number hne hy rfl)
      | _ => exact separate_of_head (by decide)
  | true =>
      cases hy with
      | true => exact separate_self _
      | number y hne hy => exact separate_symm (separate_number hne hy rfl)
      | _ => exact separate_of_head (by decide)
  | false =>
      cases hy with
      | false => exact separate_self _
      | number y hne hy => exact separate_symm (separate_number hne hy rfl)
      | _ => exact separate_of_head (by decide)
  | str a =>
      cases hy with
      | str b =>
          intro s t _ _ h
          obtain ⟨hab, hst⟩ := quote_append h
          exact ⟨by rw [hab], hst⟩
      | number y hne hy => exact separate_symm (separate_number hne hy rfl)
      | _ => exact separate_of_head (by decide)
  | arr xs hxs ih =>
      cases hy with
      | arr ys hys =>
          intro s t _ _ heq
          simp only [List.cons_append, List.append_assoc, List.cons.injEq, true_and,
            List.nil_append] at heq
          obtain ⟨hall, hst⟩ := commas_append (.inl rfl) (fun x hx y hy => ih x hx (hys y hy))
            (fun x hx => (hxs x hx).not_closes) (fun y hy => (hys y hy).not_closes) heq
          exact ⟨by rw [hall], hst⟩
      | number y hne hy => exact separate_symm (separate_number hne hy rfl)
      | _ => exact separate_of_head (by decide)
  | obj ms hms ih =>
      cases hy with
      | obj ms' hms' =>
          intro s t _ _ heq
          simp only [List.cons_append, List.append_assoc, List.cons.injEq, true_and,
            List.nil_append] at heq
          obtain ⟨hall, hst⟩ := commas_append (.inr rfl) (fun x hx y hy => by
              obtain ⟨m, hm, rfl⟩ := List.mem_map.mp hx
              obtain ⟨m', hm', rfl⟩ := List.mem_map.mp hy
              exact separate_member (ih m hm (hms' m' hm')))
            (fun x hx => by
              obtain ⟨m, -, rfl⟩ := List.mem_map.mp hx
              exact not_closes_member m)
            (fun y hy => by
              obtain ⟨m, -, rfl⟩ := List.mem_map.mp hy
              exact not_closes_member m) heq
          exact ⟨by rw [hall], hst⟩
      | number y hne hy => exact separate_symm (separate_number hne hy rfl)
      | _ => exact separate_of_head (by decide)

/-- The members of printed objects, read off their texts. -/
lemma members_of_commas {ms ms' : List (String × List Char)} {s t : List Char}
    (h : ∀ m ∈ ms, Printed m.2) (h' : ∀ m ∈ ms', Printed m.2)
    (heq : commas (ms.map member) ++ '\x7d' :: s = commas (ms'.map member) ++ '\x7d' :: t) :
    ms = ms' ∧ s = t := by
  obtain ⟨hall, hst⟩ := commas_append (.inr rfl) (fun x hx y hy => by
      obtain ⟨m, hm, rfl⟩ := List.mem_map.mp hx
      obtain ⟨m', hm', rfl⟩ := List.mem_map.mp hy
      exact separate_member ((h m hm).separate (h' m' hm')))
    (fun x hx => by
      obtain ⟨m, -, rfl⟩ := List.mem_map.mp hx
      exact not_closes_member m)
    (fun y hy => by
      obtain ⟨m, -, rfl⟩ := List.mem_map.mp hy
      exact not_closes_member m) heq
  exact ⟨List.map_injective_iff.mpr (fun _ _ => member_inj) hall, hst⟩

lemma mem_sortKeys {ms : List (String × List Char)} {m : String × List Char} :
    m ∈ sortKeys ms ↔ m ∈ ms := by
  rw [sortKeys, List.mem_insertionSort]

mutual

lemma printed_dumps : ∀ v : Json, Printed (dumps v)
  | null => .null
  | bool Bool.true => .true
  | bool Bool.false => .false
  | int n => .number _ (intText_numeric n).1 (intText_numeric n).2
  | float f => .number _ f.nonempty f.numeric
  | str s => .str s
  | arr vs => .arr _ (printed_dumpsAll vs)
  | obj fs => .obj _ fun m hm => printed_dumpsFields fs m (mem_sortKeys.mp hm)

lemma printed_dumpsAll : ∀ vs : List Json, ∀ x ∈ dumpsAll vs, Printed x
  | [], x, hx => absurd hx List.not_mem_nil
  | v :: vs, x, hx => by
      rcases List.mem_cons.mp hx with rfl | hx
      · exact printed_dumps v
      · exact printed_dumpsAll vs x hx

lemma printed_dumpsFields : ∀ fs : List (String × Json), ∀ m ∈ dumpsFields fs, Printed m.2
  | [], m, hm => absurd hm List.not_mem_nil
  | (_, v) :: fs, m, hm => by
      rcases List.mem_cons.mp hm with rfl | hm
      · exact printed_dumps v
      · exact printed_dumpsFields fs m hm

end

lemma printed_sortKeys (fs : List (String × Json)) :
    ∀ m ∈ sortKeys (dumpsFields fs), Printed m.2 :=
  fun m hm => printed_dumpsFields fs m (mem_sortKeys.mp hm)

/-! ## Objects -/

/-- The value under a key is where it is in the members that are printed. -/
lemma lookup_sortKeys (ms : List (String × List Char)) (k : String) :
    (sortKeys ms).lookup k = ms.lookup k := by
  have hinsert : ∀ (m : String × List Char) (l : List (String × List Char)),
      (l.orderedInsert (fun a b => a.1 ≤ b.1) m).lookup k = (m :: l).lookup k := by
    intro m l
    induction l with
    | nil => rfl
    | cons a l ih =>
        rw [List.orderedInsert_cons]
        split
        · rfl
        · rename_i hle
          -- `m` goes behind `a`, so their keys differ
          have hne : m.1 ≠ a.1 := fun heq => hle heq.le
          obtain ⟨a₁, a₂⟩ := a
          obtain ⟨m₁, m₂⟩ := m
          rw [List.lookup_cons, ih]
          by_cases hm : k = m₁
          · subst hm
            simp [show (k == a₁) = false by simpa using hne]
          · simp [List.lookup_cons, show (k == m₁) = false by simpa using hm]
  induction ms with
  | nil => rfl
  | cons m ms ih =>
      rw [sortKeys, List.insertionSort_cons, hinsert, List.lookup_cons, List.lookup_cons]
      rw [show ms.insertionSort (fun a b => a.1 ≤ b.1) = sortKeys ms from rfl, ih]

lemma lookup_dumpsFields (fs : List (String × Json)) (k : String) :
    (dumpsFields fs).lookup k = (fs.lookup k).map dumps := by
  induction fs with
  | nil => rfl
  | cons f fs ih =>
      obtain ⟨k', v⟩ := f
      rw [dumpsFields, List.lookup_cons, List.lookup_cons, ih]
      split <;> rfl

/-- A printed object ends at its bracket, whatever follows. -/
theorem obj_append {fs gs : List (String × Json)} {s t : List Char}
    (h : dumps (obj fs) ++ s = dumps (obj gs) ++ t) :
    dumps (obj fs) = dumps (obj gs) ∧ s = t := by
  simp only [dumps, List.cons_append, List.append_assoc, List.cons.injEq, true_and,
    List.nil_append] at h
  obtain ⟨hall, hst⟩ := members_of_commas (printed_sortKeys fs) (printed_sortKeys gs) h
  exact ⟨by rw [dumps, dumps, hall], hst⟩

/-- Objects with one text have the same printed value under every key. -/
theorem lookup_of_dumps_obj {fs gs : List (String × Json)} (h : dumps (obj fs) = dumps (obj gs))
    (k : String) : (fs.lookup k).map dumps = (gs.lookup k).map dumps := by
  simp only [dumps, List.cons_append, List.cons.injEq, true_and] at h
  have hsorted := (members_of_commas (printed_sortKeys fs) (printed_sortKeys gs) h).1
  rw [← lookup_dumpsFields, ← lookup_dumpsFields, ← lookup_sortKeys, hsorted, lookup_sortKeys]

end Json
