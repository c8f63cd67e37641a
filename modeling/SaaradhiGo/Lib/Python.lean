/-
Texts and numbers of a JSON value, as Python reads them.

What depends on tables outside the language's text (upper case letters, floats, printed
containers) is a parameter: a structure of functions with the facts about them that are used.
Stripping a text and putting it in upper case can be repeated without changing it again.
-/
import SaaradhiGo.Lib.Json
import Mathlib.Data.List.DropRight

namespace Python

/-- `str.isspace` of a character. -/
def isSpace (c : Char) : Bool :=
  c.toNat ∈ [0x09, 0x0a, 0x0b, 0x0c, 0x0d, 0x1c, 0x1d, 0x1e, 0x1f, 0x20, 0x85, 0xa0, 0x1680, 0x2000,
    0x2001, 0x2002, 0x2003, 0x2004, 0x2005, 0x2006, 0x2007, 0x2008, 0x2009, 0x200a, 0x2028,
    0x2029, 0x202f, 0x205f, 0x3000]

/-- The blanks at both ends go. -/
def stripList (l : List Char) : List Char := (l.dropWhile isSpace).rdropWhile isSpace

/-- `str.strip()`. -/
def strip (s : String) : String := String.ofList (stripList s.toList)

/-- Hundredths with two decimal places. -/
def hundredthsText (n : ℤ) : String :=
  String.ofList ((if n < 0 then ['-'] else []) ++ Nat.toDigits 10 (n.natAbs / 100) ++
    '.' :: [Nat.digitChar (n.natAbs % 100 / 10), Nat.digitChar (n.natAbs % 10)])

/-- `bool` of a JSON value. -/
def truthy : Json → Bool
  | .null => false
  | .bool b => b
  | .int n => n ≠ 0
  | .float f => f.intValue ≠ some 0
  | .str s => s ≠ ""
  | .arr vs => !vs.isEmpty
  | .obj fs => !fs.isEmpty

/-- What Python reads by its tables and its float arithmetic. -/
structure Reader where
  /-- `str.upper()` of a character. -/
  upperChar : Char → List Char
  upperChar_capital : ∀ c, c.isUpper → upperChar c = [c]
  upperChar_idem : ∀ c, ∀ d ∈ upperChar c, upperChar d = [d]
  upperChar_ne_nil : ∀ c, upperChar c ≠ []
  upperChar_space : ∀ c, isSpace c = false → ∀ d ∈ upperChar c, isSpace d = false
  /-- `str` of a list or an object. -/
  containerText : Json → String
  /-- `int` of a text. -/
  intOfText : String → Option ℤ
  /-- `int` of a float. -/
  intOfFloat : Json.Float → Option ℤ
  /-- `Decimal(text).quantize(Decimal('0.01'))`, in hundredths. -/
  hundredths : String → Option ℤ
  hundredths_text : ∀ n, 0 ≤ n → n ≤ 10000000 → hundredths (hundredthsText n) = some n
  /-- `float` of a value. -/
  floatOf : Json → Option Json.Float
  floatOf_float : ∀ f, floatOf (.float f) = some f
  isFinite : Json.Float → Bool
  /-- The float lies between the bounds. -/
  between : ℤ → ℤ → Json.Float → Bool
  /-- `==` of floats. -/
  sameFloat : Json.Float → Json.Float → Bool
  /-- `==` of values. -/
  same : Json → Json → Bool
  same_refl : ∀ v, same v v = true

variable (py : Reader)

/-- `str` of a JSON value. -/
def text : Json → String
  | .null => "None"
  | .bool true => "True"
  | .bool false => "False"
  | .int n => String.ofList (Json.intText n)
  | .float f => String.ofList f.text
  | .str s => s
  | v => py.containerText v

/-- `str.upper()`. -/
def upper (s : String) : String := String.ofList (s.toList.flatMap py.upperChar)

/-- `int` of a JSON value; a list, an object or nothing has none. -/
def int : Json → Option ℤ
  | .bool b => some (if b then 1 else 0)
  | .int n => some n
  | .float f => py.intOfFloat f
  | .str s => py.intOfText s
  | _ => none

/-- `str(value or '').strip()`. -/
def orBlank (v : Json) : String := strip (if truthy v then text py v else "")

/-! ## Texts that do not change again -/

/-- No blank at either end. -/
structure Trimmed (l : List Char) : Prop where
  head : ∀ c ∈ l.head?, isSpace c = false
  last : ∀ c ∈ l.getLast?, isSpace c = false

lemma Trimmed.stripList_eq {l : List Char} (h : Trimmed l) : stripList l = l := by
  have hhead : l.dropWhile isSpace = l := by
    cases l with
    | nil => rfl
    | cons c l => rw [List.dropWhile_cons_of_neg (by rw [h.head c rfl]; exact Bool.false_ne_true)]
  rw [stripList, hhead, List.rdropWhile_eq_self_iff]
  intro hl
  rw [h.last _ (List.getLast?_eq_some_getLast hl)]
  exact Bool.false_ne_true

lemma trimmed_stripList (l : List Char) : Trimmed (stripList l) := by
  refine ⟨fun c hc => ?_, fun c hc => ?_⟩
  · obtain ⟨rest, hrest⟩ := List.rdropWhile_prefix isSpace (l := l.dropWhile isSpace)
    have hmem : c ∈ (l.dropWhile isSpace).head? := by
      have hc' : ((l.dropWhile isSpace).rdropWhile isSpace).head? = some c := hc
      rw [← hrest, List.head?_append, hc']
      rfl
    have hnot := List.head?_dropWhile_not isSpace l
    rw [Option.mem_def] at hmem
    rw [hmem] at hnot
    simpa using hnot
  · rw [Option.mem_def, List.getLast?_eq_some_iff] at hc
    obtain ⟨init, hinit⟩ := hc
    have hne : stripList l ≠ [] := by
      rw [hinit]
      simp
    have hnot := List.rdropWhile_last_not isSpace (l.dropWhile isSpace) hne
    have hlast : (stripList l).getLast hne = c := by
      simp [hinit]
    have hnot' : ¬ isSpace ((stripList l).getLast hne) = true := hnot
    rw [hlast] at hnot'
    simpa using hnot'

/-- A text that was stripped stays as it is. -/
theorem strip_strip (s : String) : strip (strip s) = strip s := by
  rw [strip, strip, String.toList_ofList, (trimmed_stripList s.toList).stripList_eq]

variable {py}

lemma Trimmed.flatMap {l : List Char} (h : Trimmed l) : Trimmed (l.flatMap py.upperChar) := by
  refine ⟨fun c hc => ?_, fun c hc => ?_⟩
  · cases l with
    | nil => cases hc
    | cons d l =>
        rw [List.flatMap_cons, List.head?_append_of_ne_nil _ (py.upperChar_ne_nil d)] at hc
        exact py.upperChar_space d (h.head d rfl) c (List.mem_of_mem_head? hc)
  · rcases List.eq_nil_or_concat l with rfl | ⟨init, d, rfl⟩
    · cases hc
    · rw [List.concat_eq_append] at h hc
      rw [List.flatMap_append, List.flatMap_singleton,
        List.getLast?_append_of_ne_nil _ (py.upperChar_ne_nil d)] at hc
      exact py.upperChar_space d (h.last d (by simp)) c (List.mem_of_getLast? hc)

/-- A text that begins with no blank is not blank. -/
lemma strip_ne {s : String} {c : Char} {l : List Char} (hs : s.toList = c :: l)
    (hc : isSpace c = false) : strip s ≠ "" := by
  intro hblank
  have hnil : stripList s.toList = [] := by
    rw [strip] at hblank
    simpa using congrArg String.toList hblank
  rw [hs, stripList, List.dropWhile_cons_of_neg (by simp [hc]), List.rdropWhile_eq_nil_iff] at hnil
  have hspace := hnil c List.mem_cons_self
  rw [hc] at hspace
  cases hspace

/-- A text in upper case that was stripped stays as it is. -/
theorem strip_upper_strip (s : String) : strip (upper py (strip s)) = upper py (strip s) := by
  rw [strip, upper, String.toList_ofList, strip, String.toList_ofList,
    (trimmed_stripList s.toList).flatMap.stripList_eq]

lemma flatMap_upperChar {l : List Char} (h : ∀ c ∈ l, py.upperChar c = [c]) :
    l.flatMap py.upperChar = l := by
  induction l with
  | nil => rfl
  | cons c l ih =>
      rw [List.flatMap_cons, h c (List.mem_cons_self ..),
        ih fun d hd => h d (List.mem_cons_of_mem c hd)]
      rfl

lemma upper_of_capitals {s : String} (h : s.toList.all Char.isUpper) : upper py s = s := by
  rw [upper, flatMap_upperChar, String.ofList_toList]
  exact fun c hc => py.upperChar_capital c (List.all_eq_true.mp h c hc)

/-- A text in upper case stays as it is. -/
theorem upper_upper (s : String) : upper py (upper py s) = upper py s := by
  rw [upper, upper, String.toList_ofList, flatMap_upperChar]
  intro d hd
  obtain ⟨c, -, hdc⟩ := List.mem_flatMap.mp hd
  exact py.upperChar_idem c d hdc

end Python
