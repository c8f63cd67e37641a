/-
A reader of plain texts.

What the reader leaves open is the Unicode tables and the parsing of numbers.  Here is one that
knows the letters from a to z and the digits, with the proof that it meets the laws of `Reader`:
a development that takes any reader can be run with it.
-/
import SaaradhiGo.Lib.Python

namespace Python

/-- The text without its point, as hundredths. -/
def plainHundredths (s : String) : Option ℤ :=
  if '.' ∈ s.toList then some (Nat.ofDigitChars 10 (s.toList.filter (· ≠ '.')) 0)
  else some (100 * Nat.ofDigitChars 10 s.toList 0)

lemma plainHundredths_text (n : ℤ) (hn : 0 ≤ n) :
    plainHundredths (hundredthsText n) = some n := by
  obtain ⟨m, rfl⟩ := Int.eq_ofNat_of_zero_le hn
  have hlist : (hundredthsText m).toList = Nat.toDigits 10 (m / 100) ++
      '.' :: [Nat.digitChar (m % 100 / 10), Nat.digitChar (m % 10)] := by
    rw [hundredthsText, String.toList_ofList, if_neg (by omega)]
    rfl
  have hdigits : (Nat.toDigits 10 (m / 100)).filter (· ≠ '.') = Nat.toDigits 10 (m / 100) := by
    rw [List.filter_eq_self]
    intro c hc
    have hdigit := Nat.isDigit_of_mem_toDigits (by omega) (by omega) hc
    rw [decide_eq_true_eq]
    rintro rfl
    cases hdigit
  have hpoint : ∀ k < 10, Nat.digitChar k ≠ '.' := by decide
  have hlast : [Nat.digitChar (m % 100 / 10), Nat.digitChar (m % 10)].filter (· ≠ '.') =
      [Nat.digitChar (m % 100 / 10), Nat.digitChar (m % 10)] := by
    rw [List.filter_eq_self]
    simp [hpoint (m % 100 / 10) (by omega), hpoint (m % 10) (by omega)]
  rw [plainHundredths, hlist, if_pos (by simp), List.filter_append, hdigits,
    List.filter_cons_of_neg (by simp), hlast, Nat.ofDigitChars_append,
    Nat.ofDigitChars_ten_toDigits, Nat.ofDigitChars_cons_digitChar_of_lt_ten (by omega),
    Nat.ofDigitChars_cons_digitChar_of_lt_ten (by omega), Nat.ofDigitChars_nil]
  have hm : 10 * (10 * (m / 100) + m % 100 / 10) + m % 10 = m := by omega
  rw [hm]

def letters : List (Char × Char) :=
  "abcdefghijklmnopqrstuvwxyz".toList.zip "ABCDEFGHIJKLMNOPQRSTUVWXYZ".toList

def plainUpper (c : Char) : List Char := [(letters.lookup c).getD c]

lemma plainUpper_cases (c : Char) :
    (∃ d, (c, d) ∈ letters ∧ plainUpper c = [d]) ∨ plainUpper c = [c] := by
  rw [plainUpper]
  cases h : letters.lookup c with
  | none => exact .inr rfl
  | some d =>
      obtain ⟨l₁, l₂, hl, -⟩ := List.lookup_eq_some_iff.mp h
      exact .inl ⟨d, by rw [hl]; simp, rfl⟩

lemma letters_laws : ∀ p ∈ letters, p.1.isUpper = false ∧ plainUpper p.2 = [p.2] ∧
    isSpace p.2 = false := by decide +kernel

/-- A reader of plain texts. -/
def plainReader : Reader where
  upperChar := plainUpper
  upperChar_capital := by
    intro c hc
    rcases plainUpper_cases c with ⟨d, hd, -⟩ | hsame
    · rw [(letters_laws _ hd).1] at hc
      cases hc
    · exact hsame
  upperChar_idem := by
    intro c d hd
    rcases plainUpper_cases c with ⟨d', hd', hupper⟩ | hsame
    · rw [hupper, List.mem_singleton] at hd
      rw [hd]
      exact (letters_laws _ hd').2.1
    · rw [hsame, List.mem_singleton] at hd
      rw [hd]
      exact hsame
  upperChar_ne_nil := fun _ => List.cons_ne_nil _ _
  upperChar_space := by
    intro c hc d hd
    rcases plainUpper_cases c with ⟨d', hd', hupper⟩ | hsame
    · rw [hupper, List.mem_singleton] at hd
      rw [hd]
      exact (letters_laws _ hd').2.2
    · rw [hsame, List.mem_singleton] at hd
      rwa [hd]
  containerText := fun _ => ""
  intOfText := fun _ => none
  intOfFloat := fun f => f.intValue
  hundredths := plainHundredths
  hundredths_text := fun n hn _ => plainHundredths_text n hn
  floatOf
    | .float f => some f
    | _ => none
  floatOf_float := fun _ => rfl
  isFinite := fun _ => true
  between := fun lo hi f => f.intValue.all fun n => lo ≤ n && n ≤ hi
  sameFloat := fun f g => f.text = g.text
  same := fun v w => v.dumps = w.dumps
  same_refl := fun _ => decide_eq_true rfl

end Python
