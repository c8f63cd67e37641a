/-
Masking what is masked.

A payload is masked again with each operator response, so the second pass has to leave the first
one's output alone.  Whether it does is decided at each value that is no container, by the kind of
its key: `Steady` says for a value of each kind when its mask is final.
-/
import SaaradhiGo.AdminAccess.Masking
import SaaradhiGo.Lib.PlainReader
import SaaradhiGo.Lib.Fallible

namespace SaaradhiGo.Masking

/-! ## Texts -/

section Phone

variable {t : List Char}

lemma length_lastFour (t : List Char) : (lastFour t).length = min 4 t.length := by
  rw [lastFour, List.length_drop]
  omega

lemma length_phoneHead (t : List Char) :
    (phoneHead t).length = if t.head? = some '+' then min 3 t.length else 0 := by
  rw [phoneHead]
  split
  · exact List.length_take ..
  · rfl

lemma length_phoneText (t : List Char) : (phoneText t).length =
    (phoneHead t).length + (t.length - (phoneHead t).length - 4) + min 4 t.length := by
  rw [phoneText, List.length_append, List.length_append, List.length_replicate, length_lastFour]

lemma lastFour_append {s u : List Char} (hu : u.length = 4) : lastFour (s ++ u) = u := by
  rw [lastFour, List.length_append, hu, Nat.add_sub_cancel, List.drop_left]

/-- A short text without a plus is shown as it is. -/
lemma phoneText_of_short (hplus : t.head? ≠ some '+') (hlen : t.length ≤ 4) : phoneText t = t := by
  rw [phoneText, phoneHead, if_neg hplus, lastFour, show t.length - 4 = 0 by omega]
  simp only [List.length_nil, Nat.sub_zero, List.nil_append, List.drop_zero]
  rw [show t.length - 4 = 0 by omega, List.replicate_zero, List.nil_append]

lemma head?_phoneText_of_plus (hplus : t.head? = some '+') :
    (phoneText t).head? = some '+' := by
  cases t with
  | nil => cases hplus
  | cons c t =>
    rw [phoneText, phoneHead, if_pos hplus, List.append_assoc, List.head?_append,
      List.head?_take, if_neg (by decide), hplus]
    rfl

lemma head?_phoneText_of_long (hplus : t.head? ≠ some '+') (hlen : 4 < t.length) :
    (phoneText t).head? = some bullet := by
  obtain ⟨k, hk⟩ : ∃ k, t.length - 4 = k + 1 := ⟨t.length - 5, by omega⟩
  rw [phoneText, phoneHead, if_neg hplus, List.length_nil, Nat.sub_zero, hk, List.nil_append,
    List.replicate_succ]
  rfl

/-- A masked number stays, unless it was three characters or less with a plus. -/
lemma phoneText_again_iff (t : List Char) :
    phoneText (phoneText t) = phoneText t ↔ ¬ (t.head? = some '+' ∧ t.length ≤ 3) := by
  by_cases hplus : t.head? = some '+'
  · have hnext := head?_phoneText_of_plus hplus
    by_cases hlen : t.length ≤ 3
    · -- the text stands there twice, and grows again
      refine iff_of_false (fun heq => ?_) (fun h => h ⟨hplus, hlen⟩)
      have hpos : 0 < t.length := by
        cases t with
        | nil => cases hplus
        | cons c t => exact Nat.succ_pos _
      have h₁ := length_phoneText t
      have h₂ := length_phoneText (phoneText t)
      rw [heq] at h₂
      rw [length_phoneHead, if_pos hplus] at h₁
      rw [length_phoneHead, if_pos hnext] at h₂
      omega
    · refine iff_of_true ?_ (fun h => hlen h.2)
      have hhead : phoneHead t = t.take 3 := by rw [phoneHead, if_pos hplus]
      have hthree : (t.take 3).length = 3 := by
        rw [List.length_take]
        omega
      have hfour : (lastFour t).length = 4 := by
        rw [length_lastFour]
        omega
      have hout : phoneText t = t.take 3 ++ (List.replicate (t.length - 3 - 4) bullet ++
          lastFour t) := by
        rw [phoneText, hhead, hthree, List.append_assoc]
      have hlength : (phoneText t).length = 3 + (t.length - 7) + 4 := by
        rw [hout, List.length_append, List.length_append, List.length_replicate, hthree, hfour]
        omega
      rw [phoneText, phoneHead, if_pos hnext, hlength]
      rw [hout, List.take_left' hthree, hthree, ← List.append_assoc, lastFour_append hfour]
      rw [show 3 + (t.length - 7) + 4 - 3 - 4 = t.length - 3 - 4 by omega]
  · refine iff_of_true ?_ (fun h => hplus h.1)
    by_cases hlen : t.length ≤ 4
    · rw [phoneText_of_short hplus hlen, phoneText_of_short hplus hlen]
    · have hfour : (lastFour t).length = 4 := by
        rw [length_lastFour]
        omega
      have hout : phoneText t = List.replicate (t.length - 4) bullet ++ lastFour t := by
        rw [phoneText, phoneHead, if_neg hplus]
        rfl
      have hnext : (phoneText t).head? ≠ some '+' := by
        rw [head?_phoneText_of_long hplus (by omega)]
        decide
      have hlength : (phoneText t).length = t.length := by
        rw [hout, List.length_append, List.length_replicate, hfour]
        omega
      rw [phoneText, phoneHead, if_neg hnext, List.length_nil, hlength, hout,
        lastFour_append hfour]
      rfl

end Phone

section Email

variable {t : List Char}

lemma emailText_of_not_mem (hat : '@' ∉ t) : emailText t = mask := by
  rw [emailText, if_neg hat]

/-- What stands before the first `@` and behind it. -/
lemma exists_at (hat : '@' ∈ t) : ∃ front domain, t = front ++ '@' :: domain ∧ '@' ∉ front := by
  obtain ⟨front, domain, ht, hnot⟩ := List.eq_append_cons_of_mem hat
  exact ⟨front, domain, ht, hnot⟩

/-- What is shown of the part before the `@`. -/
def shownLocal : List Char → List Char
  | [] => mask
  | c :: rest => c :: List.replicate (max 1 rest.length) bullet

/-- What stands behind the first `@` stays. -/
lemma emailText_append {front domain : List Char} (hnot : '@' ∉ front) :
    emailText (front ++ '@' :: domain) = shownLocal front ++ '@' :: domain := by
  have hnone : ∀ c ∈ front, decide (c ≠ '@') = true := by
    intro c hc
    rw [decide_eq_true_eq]
    rintro rfl
    exact hnot hc
  have htake : (front ++ '@' :: domain).takeWhile (fun c => decide (c ≠ '@')) = front := by
    rw [List.takeWhile_append_of_pos hnone, List.takeWhile_cons_of_neg (by decide),
      List.append_nil]
  have hdrop : (front ++ '@' :: domain).dropWhile (fun c => decide (c ≠ '@')) = '@' :: domain := by
    rw [List.dropWhile_append_of_pos hnone, List.dropWhile_cons_of_neg (by decide)]
  rw [emailText, if_pos (by simp), htake, hdrop]
  cases front with
  | nil => rfl
  | cons c rest => rfl

lemma at_not_mem_shownLocal {front : List Char} (hnot : '@' ∉ front) : '@' ∉ shownLocal front := by
  cases front with
  | nil => decide
  | cons c rest =>
    rw [shownLocal, List.mem_cons, not_or]
    refine ⟨fun heq => hnot (heq ▸ List.mem_cons_self), fun hmem => ?_⟩
    exact absurd (List.mem_replicate.mp hmem).2 (by decide)

lemma shownLocal_again (front : List Char) :
    shownLocal (shownLocal front) = shownLocal front := by
  cases front with
  | nil => rfl
  | cons c rest =>
    rw [shownLocal, shownLocal, List.length_replicate,
      Nat.max_eq_right (Nat.le_max_left 1 rest.length)]

lemma at_mem_emailText (hat : '@' ∈ t) : '@' ∈ emailText t := by
  obtain ⟨front, domain, rfl, hnot⟩ := exists_at hat
  rw [emailText_append hnot]
  simp

/-- A masked address of an account stays. -/
lemma emailText_again (t : List Char) : emailText (emailText t) = emailText t := by
  by_cases hat : '@' ∈ t
  · obtain ⟨front, domain, rfl, hnot⟩ := exists_at hat
    rw [emailText_append hnot, emailText_append (at_not_mem_shownLocal hnot), shownLocal_again]
  · rw [emailText_of_not_mem hat]
    rfl

end Email

section Last4

variable {t : List Char}

lemma last4Text_of_long (hlen : 4 < t.length) :
    last4Text t = List.replicate (t.length - 4) bullet ++ lastFour t := by
  rw [last4Text, if_neg (by omega)]

/-- Four characters at the end stay. -/
lemma last4Text_again (t : List Char) : last4Text (last4Text t) = last4Text t := by
  by_cases hlen : t.length ≤ 4
  · have hmask : last4Text t = mask := by rw [last4Text, if_pos hlen]
    rw [hmask]
    rfl
  · have hfour : (lastFour t).length = 4 := by
      rw [length_lastFour]
      omega
    have hlength : (last4Text t).length = t.length := by
      rw [last4Text_of_long (by omega), List.length_append, List.length_replicate, hfour]
      omega
    rw [last4Text_of_long (t := last4Text t) (by omega), hlength, last4Text_of_long (by omega),
      lastFour_append hfour]

end Last4

/-! ## Names and contacts -/

section Contact

variable {al : Python.Alphabet} {t : List Char}

def shown (t : List Char) : List Char := phoneHead t ++ lastFour t

def Hides (t : List Char) : Prop := (phoneHead t).length + 4 < t.length

instance (t : List Char) : Decidable (Hides t) := inferInstanceAs (Decidable (_ < _))

lemma phoneText_of_not_hides (h : ¬ Hides t) : phoneText t = shown t := by
  rw [Hides] at h
  rw [phoneText, shown, show t.length - (phoneHead t).length - 4 = 0 by omega, List.replicate_zero,
    List.append_nil]

lemma bullet_mem_phoneText (h : Hides t) : bullet ∈ phoneText t := by
  rw [Hides] at h
  rw [phoneText, List.mem_append, List.mem_append, List.mem_replicate]
  exact .inl (.inr ⟨by omega, rfl⟩)

lemma mem_phoneText_iff {c : Char} (hc : c ≠ bullet) : c ∈ phoneText t ↔ c ∈ shown t := by
  rw [phoneText, shown, List.mem_append, List.mem_append, List.mem_append, List.mem_replicate]
  constructor
  · rintro ((hhead | ⟨-, heq⟩) | htail)
    · exact .inl hhead
    · exact absurd heq hc
    · exact .inr htail
  · rintro (hhead | htail)
    · exact .inl (.inl hhead)
    · exact .inr htail

lemma mem_of_mem_shown {c : Char} (hc : c ∈ shown t) : c ∈ t := by
  rw [shown, List.mem_append] at hc
  rcases hc with hc | hc
  · rw [phoneHead] at hc
    split at hc
    · exact List.mem_of_mem_take hc
    · exact absurd hc List.not_mem_nil
  · exact List.mem_of_mem_drop hc

/-- The characters a number may have. -/
lemma mem_of_allDigits (h : allDigits al (digitsOf t) = true) {c : Char} (hc : c ∈ t) :
    al.isDigit c = true ∨ c = '-' ∨ c = ' ' ∨ c = '+' := by
  by_cases hsep : c = '-' ∨ c = ' '
  · rcases hsep with hsep | hsep
    · exact .inr (.inl hsep)
    · exact .inr (.inr (.inl hsep))
  · rw [not_or] at hsep
    have hmem : c ∈ t.filter fun c => c ≠ '-' && c ≠ ' ' := by
      rw [List.mem_filter]
      exact ⟨hc, by simp [hsep.1, hsep.2]⟩
    rw [allDigits, Bool.and_eq_true, List.all_eq_true] at h
    rw [← List.takeWhile_append_dropWhile (p := fun c => decide (c = '+'))
      (l := t.filter fun c => c ≠ '-' && c ≠ ' '), List.mem_append] at hmem
    rcases hmem with hplus | hdigit
    · have hc' := List.mem_takeWhile_imp hplus
      exact .inr (.inr (.inr (of_decide_eq_true hc')))
    · exact .inl (h.2 c hdigit)

lemma not_allDigits_of_bullet (hc : bullet ∈ t) : allDigits al (digitsOf t) = false := by
  by_contra hall
  rw [Bool.not_eq_false] at hall
  rcases mem_of_allDigits hall hc with hdigit | heq | heq | heq
  · rw [al.isDigit_punctuation bullet (by decide)] at hdigit
    exact Bool.false_ne_true hdigit
  · exact absurd heq (by decide)
  · exact absurd heq (by decide)
  · exact absurd heq (by decide)

/-- A number that stands there twice, with its plus, is none. -/
lemma not_allDigits_twice (hplus : t.head? = some '+') (h : allDigits al (digitsOf t) = true) :
    allDigits al (digitsOf (t ++ t)) = false := by
  have hplus' : al.isDigit '+' = false := al.isDigit_punctuation '+' (by decide)
  obtain ⟨r, rfl⟩ : ∃ r, t = '+' :: r := by
    cases t with
    | nil => cases hplus
    | cons c r =>
      cases hplus
      exact ⟨r, rfl⟩
  -- the digits begin behind the first plus, and the second one is among them
  have hsplit : digitsOf ('+' :: r ++ '+' :: r) =
      digitsOf ('+' :: r) ++ ('+' :: r).filter fun c => c ≠ '-' && c ≠ ' ' := by
    rw [digitsOf, List.filter_append, List.dropWhile_append, if_neg]
    · rfl
    · rw [allDigits, Bool.and_eq_true] at h
      have hne := h.1
      rw [digitsOf] at hne
      simpa using hne
  by_contra hall
  rw [Bool.not_eq_false, allDigits, Bool.and_eq_true, List.all_eq_true] at hall
  have hmem : '+' ∈ digitsOf ('+' :: r ++ '+' :: r) := by
    rw [hsplit, List.mem_append, List.mem_filter]
    exact .inr ⟨List.mem_cons_self, by decide⟩
  have hdigit := hall.2 '+' hmem
  rw [hplus'] at hdigit
  exact Bool.false_ne_true hdigit

lemma phoneText_again_of_number (h : allDigits al (digitsOf t) = true)
    (hstill : allDigits al (digitsOf (phoneText t)) = true) :
    phoneText (phoneText t) = phoneText t := by
  rw [phoneText_again_iff]
  rintro ⟨hplus, hlen⟩
  have hhides : ¬ Hides t := by
    rw [Hides]
    omega
  have htwice : phoneText t = t ++ t := by
    rw [phoneText_of_not_hides hhides, shown, phoneHead, if_pos hplus,
      List.take_of_length_le hlen, lastFour, show t.length - 4 = 0 by omega, List.drop_zero]
  have hnot := not_allDigits_twice hplus h
  rw [← htwice, hstill] at hnot
  exact Bool.false_ne_true hnot.symm

/-- A text that a contact or a name is masked to for good: a contact by mail, a name, or a number
that shows no blank or is too short to hide anything. -/
def SteadyContact (al : Python.Alphabet) (t : List Char) : Prop :=
  '@' ∈ t ∨ allDigits al (digitsOf t) = false ∨ (∀ c ∈ shown t, Python.isSpace c = false) ∨
    (¬ Hides t ∧ allDigits al (digitsOf (shown t)) = true)

lemma isSpace_bullet : Python.isSpace bullet = false := by decide

lemma trimmed_of_ends {t out : List Char} (ht : Python.Trimmed t)
    (hhead : ∀ c ∈ out.head?, c ∈ t.head? ∨ Python.isSpace c = false)
    (hlast : ∀ c ∈ out.getLast?, c ∈ t.getLast? ∨ Python.isSpace c = false) :
    Python.Trimmed out :=
  ⟨fun c hc => (hhead c hc).elim (ht.head c) id, fun c hc => (hlast c hc).elim (ht.last c) id⟩

lemma getLast?_lastFour (t : List Char) : (lastFour t).getLast? = t.getLast? := by
  rw [lastFour, List.getLast?_drop]
  split
  · rename_i hlen
    have hnil : t = [] := by
      cases t with
      | nil => rfl
      | cons c t =>
        rw [List.length_cons] at hlen
        omega
    rw [hnil]
    rfl
  · rfl

lemma getLast?_phoneText (hne : t ≠ []) : (phoneText t).getLast? = t.getLast? := by
  rw [phoneText, List.getLast?_append, getLast?_lastFour, List.getLast?_eq_some_getLast hne]
  rfl

lemma phoneText_ne_nil (hne : t ≠ []) : phoneText t ≠ [] := by
  intro hnil
  have hlast := getLast?_phoneText hne
  rw [hnil, List.getLast?_eq_some_getLast hne] at hlast
  cases hlast

lemma trimmed_phoneText (hne : t ≠ []) (ht : Python.Trimmed t) : Python.Trimmed (phoneText t) := by
  refine trimmed_of_ends ht (fun c hc => ?_) (fun c hc => ?_)
  · by_cases hplus : t.head? = some '+'
    · rw [head?_phoneText_of_plus hplus, ← hplus] at hc
      exact .inl hc
    · by_cases hlen : t.length ≤ 4
      · rw [phoneText_of_short hplus hlen] at hc
        exact .inl hc
      · rw [head?_phoneText_of_long hplus (by omega)] at hc
        cases hc
        exact .inr isSpace_bullet
  · rw [getLast?_phoneText hne] at hc
    exact .inl hc

lemma trimmed_emailText (ht : Python.Trimmed t) (hat : '@' ∈ t) :
    Python.Trimmed (emailText t) := by
  obtain ⟨front, domain, rfl, hnot⟩ := exists_at hat
  rw [emailText_append hnot]
  refine trimmed_of_ends ht (fun c hc => ?_) (fun c hc => ?_)
  · cases front with
    | nil =>
      cases hc
      exact .inr isSpace_bullet
    | cons d rest =>
      cases hc
      exact .inl rfl
  · rw [List.getLast?_append, List.getLast?_cons] at hc ⊢
    exact .inl hc

/-! ### Names -/

/-- The last word's initial, behind the first word. -/
lemma nameWords_short {p : List Char} {c : Char} (hp : p ≠ [])
    (hsolid : ∀ d ∈ p, Python.isSpace d = false) (hc : Python.isSpace c = false) :
    nameWords (p ++ [' ', c, '.']) = .ok (p ++ [' ', c, '.']) := by
  have hwords : Python.words (p ++ [' ', c, '.']) = [p, [c, '.']] := by
    rw [Python.words_append_cons hp hsolid (by decide),
      Python.words_of_no_space (List.cons_ne_nil _ _)]
    intro d hd
    rcases List.mem_cons.mp hd with rfl | hd
    · exact hc
    · rw [List.mem_singleton.mp hd]
      decide
  rw [nameWords, hwords]
  rfl

/-- A name of one word stays, a longer one is cut to first name and initial. -/
inductive Named (t : List Char) : List Char → Prop where
  | word (h : ∀ c ∈ t, Python.isSpace c = false) : Named t t
  | initial {p : List Char} {c : Char} (hp : p ≠ [])
      (hsolid : ∀ d ∈ p, Python.isSpace d = false ∧ d ∈ t)
      (hhead : p.head? = t.head?) (hc : Python.isSpace c = false ∧ c ∈ t)
      (hspace : ∃ d ∈ t, Python.isSpace d = true) : Named t (p ++ [' ', c, '.'])

lemma named_nameWords (hne : t ≠ []) (ht : Python.Trimmed t) :
    ∃ out, nameWords t = .ok out ∧ Named t out := by
  by_cases hspace : ∃ d ∈ t, Python.isSpace d = true
  · obtain ⟨d, hd, hspace⟩ := hspace
    obtain ⟨p, q, ps, hwords⟩ := Python.two_words ht hd hspace
    have hp := Python.mem_words (t := t) (w := p) (hwords ▸ List.mem_cons_self)
    have hlast : (q :: ps).getLastD [] ∈ Python.words t := by
      rw [hwords, List.getLastD_cons]
      refine List.mem_cons_of_mem p ?_
      cases ps with
      | nil => exact List.mem_singleton.mpr rfl
      | cons r rs =>
        rw [List.getLastD_cons]
        exact List.mem_cons_of_mem q (List.getLastD_mem_cons ..)
    obtain ⟨hlastne, hlastsolid, hlastmem⟩ := Python.mem_words hlast
    obtain ⟨c, rest, hcons⟩ := List.exists_cons_of_ne_nil hlastne
    refine ⟨p ++ [' ', c, '.'], ?_, .initial hp.1 (fun e he => ⟨hp.2.1 e he, hp.2.2 e he⟩) ?_ ?_
      ⟨d, hd, hspace⟩⟩
    · rw [nameWords, hwords]
      dsimp only
      rw [hcons]
      rfl
    · -- the first word begins where the text does
      cases t with
      | nil => exact absurd rfl hne
      | cons e t =>
        rw [Python.words_cons (ht.head e rfl)] at hwords
        rw [← (List.cons.inj hwords).1]
        rfl
    · have hmem : c ∈ (q :: ps).getLastD [] := by
        rw [hcons]
        exact List.mem_cons_self
      exact ⟨hlastsolid c hmem, hlastmem c hmem⟩
  · have hnone : ∀ d ∈ t, Python.isSpace d = false := by
      intro d hd
      by_contra hd'
      exact hspace ⟨d, hd, by simpa using hd'⟩
    refine ⟨t, ?_, .word hnone⟩
    rw [nameWords, Python.words_of_no_space hne hnone]

lemma trimmed_initial (ht : Python.Trimmed t) {p : List Char} (hp : p ≠ [])
    (hhead : p.head? = t.head?) (c : Char) : Python.Trimmed (p ++ [' ', c, '.']) := by
  refine trimmed_of_ends ht (fun d hd => ?_) (fun d hd => ?_)
  · rw [List.head?_append_of_ne_nil _ hp, hhead] at hd
    exact .inl hd
  · rw [List.getLast?_append_of_ne_nil _ (List.cons_ne_nil _ _)] at hd
    cases hd
    exact .inr (show Python.isSpace '.' = false by decide)

lemma contactText_of_not_mail (hat : '@' ∉ t) (hne : t ≠ []) : contactText al t =
    if allDigits al (digitsOf t) then .ok (phoneText t) else nameWords t := by
  rw [contactText, if_neg hat]
  cases t with
  | nil => exact absurd rfl hne
  | cons c t => rfl

lemma contactText_of_mail (hat : '@' ∈ t) : contactText al t = .ok (emailText t) := by
  rw [contactText, if_pos hat]

/-- A name that is cut is no number. -/
lemma not_allDigits_initial (p : List Char) (c : Char) :
    allDigits al (digitsOf (p ++ [' ', c, '.'])) = false := by
  by_contra hall
  rw [Bool.not_eq_false] at hall
  rcases mem_of_allDigits (c := '.') hall (by simp) with hdigit | heq | heq | heq
  · rw [al.isDigit_punctuation '.' (by decide)] at hdigit
    exact Bool.false_ne_true hdigit
  · exact absurd heq (by decide)
  · exact absurd heq (by decide)
  · exact absurd heq (by decide)

lemma contactText_again_iff (ht : Python.Trimmed t) :
    (∃ out, contactText al t = .ok out ∧ contactText al (Python.stripList out) = .ok out) ↔
      SteadyContact al t := by
  by_cases hat : '@' ∈ t
  · -- a contact by mail
    refine iff_of_true ⟨emailText t, contactText_of_mail hat, ?_⟩ (.inl hat)
    rw [(trimmed_emailText ht hat).stripList_eq, contactText_of_mail (at_mem_emailText hat),
      emailText_again]
  by_cases hne : t = []
  · subst hne
    exact iff_of_true ⟨[], rfl, rfl⟩ (.inr (.inl rfl))
  rw [contactText_of_not_mail hat hne]
  cases hnumber : allDigits al (digitsOf t) with
  | false =>
    -- a name
    rw [if_neg Bool.false_ne_true]
    refine iff_of_true ?_ (.inr (.inl hnumber))
    obtain ⟨out, hout, hnamed⟩ := named_nameWords hne ht
    refine ⟨out, hout, ?_⟩
    cases hnamed with
    | word hnone =>
      rw [ht.stripList_eq, contactText_of_not_mail hat hne, hnumber, if_neg Bool.false_ne_true]
      exact hout
    | @initial p c hp hsolid hhead hc hspace =>
      have htrimmed := trimmed_initial ht hp hhead c
      have hmail : '@' ∉ p ++ [' ', c, '.'] := by
        rw [List.mem_append]
        rintro (hmem | hmem)
        · exact hat (hsolid '@' hmem).2
        · rcases List.mem_cons.mp hmem with heq | hmem
          · exact absurd heq (by decide)
          · rcases List.mem_cons.mp hmem with heq | hmem
            · exact hat (heq ▸ hc.2)
            · exact absurd (List.mem_singleton.mp hmem) (by decide)
      rw [htrimmed.stripList_eq, contactText_of_not_mail hmail (by simp), not_allDigits_initial,
        if_neg Bool.false_ne_true]
      exact nameWords_short hp (fun d hd => (hsolid d hd).1) hc.1
  | true =>
    -- a number
    rw [if_pos rfl]
    have htrimmed := trimmed_phoneText hne ht
    have hmail : '@' ∉ phoneText t := by
      rw [mem_phoneText_iff (by decide)]
      exact fun hmem => hat (mem_of_mem_shown hmem)
    have houtne := phoneText_ne_nil hne
    have hagain : (∃ out, Except.ok (phoneText t) = (.ok out : Except Raised (List Char)) ∧
        contactText al (Python.stripList out) = .ok out) ↔
        contactText al (phoneText t) = .ok (phoneText t) := by
      constructor
      · rintro ⟨out, hout, h⟩
        cases hout
        rwa [htrimmed.stripList_eq] at h
      · intro h
        exact ⟨_, rfl, by rwa [htrimmed.stripList_eq]⟩
    rw [hagain, contactText_of_not_mail hmail houtne]
    by_cases hshort : ¬ Hides t ∧ allDigits al (digitsOf (shown t)) = true
    · -- nothing is hidden, and it is still a number
      refine iff_of_true ?_ (.inr (.inr (.inr hshort)))
      have hstill : allDigits al (digitsOf (phoneText t)) = true := by
        rw [phoneText_of_not_hides hshort.1]
        exact hshort.2
      rw [hstill, if_pos rfl, phoneText_again_of_number hnumber hstill]
    · have hno : allDigits al (digitsOf (phoneText t)) = false := by
        by_cases hhides : Hides t
        · exact not_allDigits_of_bullet (bullet_mem_phoneText hhides)
        · rw [phoneText_of_not_hides hhides]
          by_contra hall
          rw [Bool.not_eq_false] at hall
          exact hshort ⟨hhides, hall⟩
      rw [hno, if_neg Bool.false_ne_true]
      -- it reads as a name now, which is cut at its first blank
      obtain ⟨out, hout, hnamed⟩ := named_nameWords houtne htrimmed
      rw [hout]
      have hblank : (∀ c ∈ shown t, Python.isSpace c = false) ↔
          ∀ c ∈ phoneText t, Python.isSpace c = false := by
        constructor
        · intro h c hc
          by_cases hb : c = bullet
          · rw [hb]
            exact isSpace_bullet
          · exact h c ((mem_phoneText_iff hb).mp hc)
        · intro h c hc
          by_cases hb : c = bullet
          · rw [hb]
            exact isSpace_bullet
          · exact h c ((mem_phoneText_iff hb).mpr hc)
      cases hnamed with
      | word hnone => exact iff_of_true rfl (.inr (.inr (.inl (hblank.mpr hnone))))
      | @initial p c hp hsolid hhead hc hspace =>
        obtain ⟨d, hd, hspace⟩ := hspace
        refine iff_of_false (fun heq => ?_) ?_
        · -- the end of a number is no point
          have hlast := getLast?_phoneText hne
          rw [← Except.ok.inj heq, List.getLast?_append_of_ne_nil _ (List.cons_ne_nil _ _)] at hlast
          have hdot : '.' ∈ t := List.mem_of_getLast? hlast.symm
          rcases mem_of_allDigits hnumber hdot with hdigit | heq | heq | heq
          · rw [al.isDigit_punctuation '.' (by decide)] at hdigit
            exact Bool.false_ne_true hdigit
          · exact absurd heq (by decide)
          · exact absurd heq (by decide)
          · exact absurd heq (by decide)
        · rintro (hmem | hnot | hclear | hstill)
          · exact hat hmem
          · rw [hnumber] at hnot
            exact Bool.false_ne_true hnot.symm
          · have hsolid' := hblank.mp hclear d hd
            rw [hspace] at hsolid'
            exact Bool.false_ne_true hsolid'.symm
          · exact hshort hstill

lemma nameText_eq (t : List Char) :
    nameText al t = if t = [] then .error .indexError else contactText al t := by
  by_cases hne : t = []
  · subst hne
    rfl
  · rw [if_neg hne, nameText]
    by_cases hshaped : contactShaped al t = true
    · rw [if_pos hshaped]
    · rw [if_neg hshaped]
      rw [contactShaped, Bool.or_eq_true, decide_eq_true_eq, not_or] at hshaped
      rw [contactText_of_not_mail hshaped.1 hne, if_neg hshaped.2]

lemma contactText_ne_nil (hne : t ≠ []) (ht : Python.Trimmed t) {out : List Char}
    (h : contactText al t = .ok out) : Python.stripList out ≠ [] := by
  by_cases hat : '@' ∈ t
  · rw [contactText_of_mail hat] at h
    cases h
    rw [(trimmed_emailText ht hat).stripList_eq]
    exact List.ne_nil_of_mem (at_mem_emailText hat)
  · rw [contactText_of_not_mail hat hne] at h
    split at h
    · cases h
      rw [(trimmed_phoneText hne ht).stripList_eq]
      exact phoneText_ne_nil hne
    · obtain ⟨out', hout, hnamed⟩ := named_nameWords hne ht
      rw [h] at hout
      cases hout
      cases hnamed with
      | word hnone =>
        rw [ht.stripList_eq]
        exact hne
      | @initial p c hp hsolid hhead hc hspace =>
        rw [(trimmed_initial ht hp hhead c).stripList_eq]
        simp

lemma nameText_again_iff (ht : Python.Trimmed t) :
    (∃ out, nameText al t = .ok out ∧ nameText al (Python.stripList out) = .ok out) ↔
      t ≠ [] ∧ SteadyContact al t := by
  rw [← contactText_again_iff ht]
  by_cases hne : t = []
  · subst hne
    refine iff_of_false ?_ (fun h => h.1 rfl)
    rintro ⟨out, hout, -⟩
    cases hout
  · rw [and_iff_right hne, nameText_eq, if_neg hne]
    constructor
    · rintro ⟨out, hout, hagain⟩
      rw [nameText_eq, if_neg (contactText_ne_nil hne ht hout)] at hagain
      exact ⟨out, hout, hagain⟩
    · rintro ⟨out, hout, hagain⟩
      refine ⟨out, hout, ?_⟩
      rw [nameText_eq, if_neg (contactText_ne_nil hne ht hout)]
      exact hagain

/-! ### Identifiers -/

/-- A masked identifier stays unless it was a plus with two characters at most behind it. -/
lemma identifierText_again_iff (t : List Char) :
    identifierText al (identifierText al t) = identifierText al t ↔
      '@' ∈ t ∨ ¬ (t.head? = some '+' ∧ t.length ≤ 3) := by
  by_cases hat : '@' ∈ t
  · refine iff_of_true ?_ (.inl hat)
    have hout : identifierText al t = emailText t := by rw [identifierText, if_pos hat]
    rw [hout, identifierText, if_pos (at_mem_emailText hat), emailText_again]
  rw [or_iff_right hat]
  have hmail : '@' ∉ phoneText t := by
    rw [mem_phoneText_iff (by decide)]
    exact fun hmem => hat (mem_of_mem_shown hmem)
  by_cases hplus : t.head? = some '+'
  · have hmasked : ∀ {u : List Char}, '@' ∉ u → u.head? = some '+' →
        identifierText al u = phoneText u := by
      intro u hu hhead
      rw [identifierText, if_neg hu, if_pos (by simp [hhead])]
    rw [hmasked hat hplus, hmasked hmail (head?_phoneText_of_plus hplus), phoneText_again_iff]
  · refine iff_of_true ?_ (fun h => hplus h.1)
    by_cases hdigits : allDigits al (t.filter (· ≠ '-')) = true
    · have hout : identifierText al t = phoneText t := by
        rw [identifierText, if_neg hat, if_pos (by rw [hdigits, Bool.or_true])]
      rw [hout]
      by_cases hlen : t.length ≤ 4
      · rw [phoneText_of_short hplus hlen, hout, phoneText_of_short hplus hlen]
      · -- a text with a bullet in front is neither
        have hhead := head?_phoneText_of_long hplus (by omega)
        have hbullet : bullet ∈ (phoneText t).filter (· ≠ '-') := by
          rw [List.mem_filter]
          exact ⟨List.mem_of_mem_head? hhead, by decide⟩
        have hno : allDigits al ((phoneText t).filter (· ≠ '-')) = false := by
          by_contra hall
          rw [Bool.not_eq_false, allDigits, Bool.and_eq_true, List.all_eq_true] at hall
          have hdigit := hall.2 bullet hbullet
          rw [al.isDigit_punctuation bullet (by decide)] at hdigit
          exact Bool.false_ne_true hdigit
        rw [identifierText, if_neg hmail, hno, hhead]
        rfl
    · have hout : identifierText al t = t := by
        rw [identifierText, if_neg hat, if_neg]
        rw [Bool.or_eq_true, decide_eq_true_eq]
        exact not_or.mpr ⟨hplus, hdigits⟩
      rw [hout, hout]

/-- A masked payment address stays. -/
lemma upiText_again (t : List Char) : upiText (upiText t) = upiText t := by
  by_cases hat : '@' ∈ t
  · have hout : upiText t = emailText t := by rw [upiText, if_pos hat]
    rw [hout, upiText, if_pos (at_mem_emailText hat), emailText_again]
  · have hnot : '@' ∉ last4Text t := by
      rw [last4Text]
      split
      · decide
      · rw [List.mem_append, List.mem_replicate]
        rintro (⟨-, heq⟩ | hmem)
        · exact absurd heq (by decide)
        · exact hat (List.mem_of_mem_drop hmem)
    have hout : upiText t = last4Text t := by rw [upiText, if_neg hat]
    rw [hout, upiText, if_neg hnot, last4Text_again]

end Contact

/-! ## Addresses -/

section Address

variable {al : Python.Alphabet} {t : List Char}

/-- An address is masked for good when something of what is kept is left without its postcodes, or
nothing is kept. -/
def SteadyAddress (al : Python.Alphabet) (t : List Char) : Prop :=
  t.head? = some bullet ∨ t = pinnedLocation ∨ isCoordinates al t = true ∨
    keptComponents (components t) = [] ∨ cleaned al (keptComponents (components t)) ≠ []

/-- What is printed ends in no blank. -/
lemma trimmed_intercalate {parts : List (List Char)} (hne : parts ≠ [])
    (hparts : ∀ p ∈ parts, p ≠ [] ∧ Python.Trimmed p) :
    ∃ c ∈ ([',', ' '].intercalate parts).getLast?, Python.isSpace c = false := by
  induction parts with
  | nil => exact absurd rfl hne
  | cons p parts ih =>
    obtain ⟨hp, htrimmed⟩ := hparts p List.mem_cons_self
    cases parts with
    | nil =>
      refine ⟨p.getLast hp, ?_, htrimmed.last _ ?_⟩
      · rw [List.intercalate_singleton]
        exact List.getLast?_eq_some_getLast hp
      · exact List.getLast?_eq_some_getLast hp
    | cons q parts =>
      obtain ⟨c, hc, hsolid⟩ := ih (List.cons_ne_nil _ _)
        fun r hr => hparts r (List.mem_cons_of_mem p hr)
      refine ⟨c, ?_, hsolid⟩
      rw [List.intercalate_cons_cons, List.append_assoc, Option.mem_def, List.getLast?_append,
        List.getLast?_append, hc]
      rfl

lemma addressText_again_iff (ht : Python.Trimmed t) :
    addressText al (Python.stripList (addressText al t)) = addressText al t ↔
      SteadyAddress al t := by
  have hbullet : ∀ {u : List Char}, u.head? = some bullet → addressText al u = u := by
    intro u hu
    rw [addressText, if_pos (by simp [hu])]
  have hpinned : addressText al pinnedLocation = pinnedLocation := by
    rw [addressText, if_pos (by simp)]
  have hpin : Python.stripList pinnedLocation = pinnedLocation := by decide +kernel
  have hmask : Python.stripList mask = mask := by decide +kernel
  by_cases hdone : t.head? = some bullet ∨ t = pinnedLocation
  · have hout : addressText al t = t := by
      rw [addressText, if_pos (by simpa using hdone)]
    refine iff_of_true ?_ (hdone.elim .inl fun h => .inr (.inl h))
    rw [hout, ht.stripList_eq, hout]
  have hdone' := not_or.mp hdone
  by_cases hcoords : isCoordinates al t = true
  · have hout : addressText al t = pinnedLocation := by
      rw [addressText, if_neg (by simpa using hdone), if_pos hcoords]
    refine iff_of_true ?_ (.inr (.inr (.inl hcoords)))
    rw [hout, hpin, hpinned]
  rw [SteadyAddress, or_iff_right hdone'.1, or_iff_right hdone'.2, or_iff_right hcoords]
  cases hkept : keptComponents (components t) with
  | nil =>
    have hout : addressText al t = mask := by
      rw [addressText, if_neg (by simpa using hdone), if_neg hcoords, hkept]
    refine iff_of_true ?_ (.inl rfl)
    rw [hout, hmask, hbullet rfl]
  | cons p parts =>
    have hout : addressText al t =
        mask ++ ' ' :: [',', ' '].intercalate (cleaned al (p :: parts)) := by
      rw [addressText, if_neg (by simpa using hdone), if_neg hcoords, hkept]
    rw [or_iff_right (List.cons_ne_nil p parts), hout]
    by_cases hempty : cleaned al (p :: parts) = []
    · -- the blank behind the bullets goes with the second pass
      refine iff_of_false ?_ (fun h => h hempty)
      rw [hempty]
      have hstrip : Python.stripList (mask ++ ' ' :: [',', ' '].intercalate []) = mask := by
        decide +kernel
      rw [hstrip, hbullet rfl]
      decide
    · refine iff_of_true ?_ hempty
      have htrimmed : Python.Trimmed
          (mask ++ ' ' :: [',', ' '].intercalate (cleaned al (p :: parts))) := by
        obtain ⟨c, hc, hsolid⟩ := trimmed_intercalate hempty fun q hq => by
          rw [cleaned, List.mem_filter, List.mem_map] at hq
          obtain ⟨⟨r, -, rfl⟩, hne⟩ := hq
          exact ⟨by simpa using hne, Python.trimmed_stripList _⟩
        refine ⟨fun d hd => ?_, fun d hd => ?_⟩
        · cases hd
          exact isSpace_bullet
        · rw [List.getLast?_append, List.getLast?_cons, hc] at hd
          cases hd
          exact hsolid
      rw [htrimmed.stripList_eq, hbullet rfl]

end Address

/-! ## Values -/

/-- A function leaves what it made of a value alone. -/
def Again {α : Type} (f : α → Except Raised α) (v : α) : Prop := ∃ w, f v = .ok w ∧ f w = .ok w

lemma again_of_fixed {α : Type} {f : α → Except Raised α} {v : α} (h : f v = .ok v) : Again f v :=
  ⟨v, h, h⟩

lemma again_of_error {α : Type} {f : α → Except Raised α} {v : α} {e : Raised}
    (h : f v = .error e) : ¬ Again f v := by
  rintro ⟨w, hw, -⟩
  rw [h] at hw
  cases hw

section Values

variable {rd : Reader} {policy : Policy} {v : Json}

def textOf (rd : Reader) (v : Json) : List Char := (Python.text rd.toReader v).toList

lemma onText_of_falsy {f : List Char → Except Raised (List Char)}
    (h : Python.truthy v = false) : onText rd f v = .ok v := by
  rw [onText, h, if_neg Bool.false_ne_true]

lemma onText_of_truthy {f : List Char → Except Raised (List Char)}
    (h : Python.truthy v = true) :
    onText rd f v = (f (textOf rd v)).map fun out => .str (String.ofList out) := by
  rw [onText, h, if_pos rfl]
  rfl

lemma onText_str {f : List Char → Except Raised (List Char)} {out : List Char} (hne : out ≠ []) :
    onText rd f (.str (String.ofList out)) =
      (f out).map fun out => .str (String.ofList out) := by
  have htruthy : Python.truthy (.str (String.ofList out)) = true := by
    refine decide_eq_true fun h => hne ?_
    rw [← String.toList_ofList (l := out), h]
    rfl
  rw [onText_of_truthy htruthy]
  show (f (String.ofList out).toList).map _ = _
  rw [String.toList_ofList]

lemma again_onText_iff {f : List Char → Except Raised (List Char)} :
    Again (onText rd f) v ↔ Python.truthy v = true →
      ∃ out, f (textOf rd v) = .ok out ∧ (out ≠ [] → f out = .ok out) := by
  cases htruthy : Python.truthy v with
  | false => exact iff_of_true (again_of_fixed (onText_of_falsy htruthy)) (fun h => by cases h)
  | true =>
    rw [forall_prop_of_true rfl]
    have hfirst : onText rd f v = (f (textOf rd v)).map fun out => .str (String.ofList out) :=
      onText_of_truthy htruthy
    cases hout : f (textOf rd v) with
    | error e =>
      rw [hout] at hfirst
      exact iff_of_false (again_of_error hfirst) (fun ⟨out, h, _⟩ => by cases h)
    | ok out =>
      rw [hout] at hfirst
      have hsecond : Again (onText rd f) v ↔
          onText rd f (.str (String.ofList out)) = .ok (.str (String.ofList out)) := by
        constructor
        · rintro ⟨w, hw, hagain⟩
          rw [hfirst] at hw
          cases hw
          exact hagain
        · exact fun h => ⟨_, hfirst, h⟩
      rw [hsecond]
      by_cases hne : out = []
      · subst hne
        exact iff_of_true (onText_of_falsy rfl) ⟨[], rfl, fun h => absurd rfl h⟩
      · rw [onText_str hne]
        constructor
        · intro h
          refine ⟨out, rfl, fun _ => ?_⟩
          cases hagain : f out with
          | error e =>
            rw [hagain] at h
            cases h
          | ok out' =>
            rw [hagain] at h
            have heq := congrArg String.toList (Json.str.inj (Except.ok.inj h))
            rw [String.toList_ofList, String.toList_ofList] at heq
            rw [heq]
        · rintro ⟨out', hout', hagain⟩
          cases hout'
          rw [hagain hne]
          rfl

lemma again_onText_total_iff {f : List Char → List Char} (hnil : f [] = [] ∨ ∀ t, f t ≠ []) :
    Again (onText rd fun t => .ok (f t)) v ↔
      (Python.truthy v = true → f (f (textOf rd v)) = f (textOf rd v)) := by
  rw [again_onText_iff]
  refine imp_congr_right fun _ => ?_
  constructor
  · rintro ⟨out, hout, hagain⟩
    cases hout
    by_cases hne : f (textOf rd v) = []
    · rw [hne]
      rcases hnil with hnil | hnil
      · exact hnil
      · exact absurd hne (hnil _)
    · exact Except.ok.inj (hagain hne)
  · exact fun h => ⟨_, rfl, fun _ => by rw [h]⟩

end Values

/-! ## Kinds -/

section Kinds

variable {rd : Reader} {policy : Policy} {v : Json}

/-- A coordinate is rounded without an exception. -/
def rounds (rd : Reader) (v : Json) : Bool :=
  match rd.decimal (Python.text rd.toReader v) with
  | some .signalingNan => false
  | some (.number d) => d.quantize.isSome
  | _ => true

/-- A plus with two characters at most behind it. -/
def ShortPlus (t : List Char) : Prop := t.head? = some '+' ∧ t.length ≤ 3

/-- When the mask of a value is final, by the kind of its key. -/
def SteadyKind (rd : Reader) (policy : Policy) (v : Json) : Kind → Prop
  | .phone => Python.truthy v = true → ¬ ShortPlus (textOf rd v)
  | .identifier => Python.truthy v = true → '@' ∈ textOf rd v ∨ ¬ ShortPlus (textOf rd v)
  | .contact =>
      Python.truthy v = true → SteadyContact rd.alphabet (Python.stripList (textOf rd v))
  | .address =>
      Python.truthy v = true → SteadyAddress rd.alphabet (Python.stripList (textOf rd v))
  | .name =>
      ∀ s, v = .str s → policy.fullNames = false → s ≠ "" → Python.stripList s.toList ≠ [] ∧
        SteadyContact rd.alphabet (Python.stripList s.toList)
  | .coordinate =>
      policy.exactCoordinates = true ∨ v = .null ∨ v = .str "" ∨ rounds rd v = true
  | _ => True

lemma quantize_decimalOf (h : Python.Hundredths) : (decimalOf h).quantize = some h := by
  have hcount : ((h.count / 100 : ℚ≥0) : ℚ) * 100 = ((h.count : ℤ) : ℚ) := by
    push_cast
    ring
  have hround : (Rounding.halfEven (((h.count / 100 : ℚ≥0) : ℚ) * 100)).toNat = h.count := by
    rw [hcount, Rounding.halfEven_intCast, Int.toNat_natCast]
  obtain ⟨minus, count, fits⟩ := h
  rw [decimalOf, inHundredths, Python.Decimal.quantize]
  dsimp only at hround ⊢
  rw [hround, dif_pos fits]

lemma again_phone_iff : Again (maskPhone rd) v ↔ SteadyKind rd policy v .phone := by
  rw [maskPhone, again_onText_total_iff (.inl rfl)]
  exact imp_congr_right fun _ => phoneText_again_iff _

lemma again_email : Again (maskEmail rd) v := by
  rw [maskEmail, again_onText_total_iff (.inr fun t => ?_)]
  · exact fun _ => emailText_again _
  · by_cases hat : '@' ∈ t
    · exact List.ne_nil_of_mem (at_mem_emailText hat)
    · rw [emailText_of_not_mem hat]
      decide

lemma again_identifier_iff : Again (maskIdentifier rd) v ↔ SteadyKind rd policy v .identifier := by
  rw [maskIdentifier, again_onText_total_iff (.inl rfl)]
  exact imp_congr_right fun _ => identifierText_again_iff _

lemma last4Text_ne_nil (t : List Char) : last4Text t ≠ [] := by
  rw [last4Text]
  split
  · decide
  · rename_i hlen
    intro hnil
    have h := congrArg List.length hnil
    rw [List.length_append, length_lastFour, List.length_nil] at h
    omega

lemma again_last4 : Again (maskLast4 rd) v := by
  rw [maskLast4, again_onText_total_iff (.inr last4Text_ne_nil)]
  exact fun _ => last4Text_again _

lemma again_upi : Again (maskUpi rd) v := by
  rw [maskUpi, again_onText_total_iff (.inr fun t => ?_)]
  · exact fun _ => upiText_again _
  · rw [upiText]
    split
    · rename_i hat
      exact List.ne_nil_of_mem (at_mem_emailText hat)
    · exact last4Text_ne_nil t

lemma addressText_ne_nil (al : Python.Alphabet) (t : List Char) : addressText al t ≠ [] := by
  rw [addressText]
  split
  · rename_i hdone
    rw [Bool.or_eq_true, decide_eq_true_eq, decide_eq_true_eq] at hdone
    rintro rfl
    rcases hdone with hdone | hdone
    · cases hdone
    · exact absurd hdone (by decide)
  · split
    · decide
    · split
      · decide
      · exact List.append_ne_nil_of_left_ne_nil (by decide) _

lemma again_address_iff : Again (maskAddress rd) v ↔ SteadyKind rd policy v .address := by
  rw [maskAddress, again_onText_total_iff (.inr fun t => addressText_ne_nil _ _)]
  exact imp_congr_right fun _ => addressText_again_iff (Python.trimmed_stripList _)

lemma again_contact_iff : Again (maskContact rd) v ↔ SteadyKind rd policy v .contact := by
  rw [maskContact, again_onText_iff]
  refine imp_congr_right fun _ => ?_
  rw [← contactText_again_iff (Python.trimmed_stripList _)]
  refine exists_congr fun out => and_congr_right fun _ => ?_
  constructor
  · intro h
    by_cases hne : out = []
    · rw [hne]
      rfl
    · exact h hne
  · exact fun h _ => h

lemma again_maskName_iff {s : String} (hs : s ≠ "") :
    Again (maskName rd) (.str s) ↔ Python.stripList s.toList ≠ [] ∧
      SteadyContact rd.alphabet (Python.stripList s.toList) := by
  have htruthy : Python.truthy (.str s) = true := decide_eq_true hs
  have htrimmed := Python.trimmed_stripList s.toList
  rw [maskName, again_onText_iff, htruthy, forall_prop_of_true rfl,
    ← nameText_again_iff htrimmed]
  refine exists_congr fun out => and_congr_right fun hout => ?_
  refine forall_prop_of_true ?_
  rintro rfl
  have hout' : nameText rd.alphabet (Python.stripList s.toList) = .ok [] := hout
  rw [nameText_eq] at hout'
  split at hout'
  · cases hout'
  · rename_i hne
    exact contactText_ne_nil hne htrimmed hout' rfl

lemma again_name_of_full (hfull : policy.fullNames = true) (s : String) :
    Again (maskNameFor rd policy) (.str s) := by
  have heq : ∀ w : String, maskNameFor rd policy (.str w) =
      if contactShaped rd.alphabet (Python.stripList w.toList) then maskContact rd (.str w)
      else .ok (.str w) := by
    intro w
    rw [maskNameFor, hfull]
    rfl
  by_cases hshaped : contactShaped rd.alphabet (Python.stripList s.toList) = true
  swap
  · exact again_of_fixed (by rw [heq, if_neg hshaped])
  have ht := Python.trimmed_stripList s.toList
  have hfirst := heq s
  rw [if_pos hshaped] at hfirst
  revert hfirst hshaped ht
  have htext : maskContact rd (.str s) = if s ≠ "" then
      (contactText rd.alphabet (Python.stripList s.toList)).map fun out =>
        .str (String.ofList out) else .ok (.str s) := by
    rw [maskContact, onText]
    by_cases hs : s = ""
    · subst hs
      rfl
    · have htruthy : Python.truthy (.str s) = true := decide_eq_true hs
      rw [htruthy, if_pos rfl, if_pos hs]
      rfl
  rw [htext]
  by_cases hs : s = ""
  · rw [if_neg (not_not.mpr hs)]
    exact fun _ _ hfirst => again_of_fixed hfirst
  rw [if_pos hs]
  generalize Python.stripList s.toList = t
  intro hshaped ht hfirst
  -- what a contact is masked to is a contact that stays, or none
  obtain ⟨out, hout, hne, htrimmed, hagain⟩ : ∃ out, contactText rd.alphabet t = .ok out ∧
      out ≠ [] ∧ Python.Trimmed out ∧ (contactShaped rd.alphabet out = true →
        contactText rd.alphabet out = .ok out) := by
    by_cases hat : '@' ∈ t
    · refine ⟨_, contactText_of_mail hat, List.ne_nil_of_mem (at_mem_emailText hat),
        trimmed_emailText ht hat, fun _ => ?_⟩
      rw [contactText_of_mail (at_mem_emailText hat), emailText_again]
    · have hnumber : allDigits rd.alphabet (digitsOf t) = true := by
        rw [contactShaped, Bool.or_eq_true, decide_eq_true_eq] at hshaped
        exact hshaped.resolve_left hat
      have htne : t ≠ [] := by
        rintro rfl
        cases hnumber
      have hmail : '@' ∉ phoneText t := by
        rw [mem_phoneText_iff (by decide)]
        exact fun hmem => hat (mem_of_mem_shown hmem)
      have houtne := phoneText_ne_nil htne
      refine ⟨phoneText t, ?_, houtne, trimmed_phoneText htne ht, fun hstill => ?_⟩
      · rw [contactText_of_not_mail hat htne, hnumber, if_pos rfl]
      · rw [contactShaped, Bool.or_eq_true, decide_eq_true_eq] at hstill
        have hnumber' := hstill.resolve_left hmail
        rw [contactText_of_not_mail hmail houtne, hnumber', if_pos rfl,
          phoneText_again_of_number hnumber hnumber']
  refine ⟨.str (String.ofList out), ?_, ?_⟩
  · rw [hfirst, hout]
    rfl
  · rw [heq, String.toList_ofList, htrimmed.stripList_eq]
    split
    · rename_i hstill
      rw [maskContact, onText_str hne, htrimmed.stripList_eq, hagain hstill]
      rfl
    · rfl

lemma again_name_iff : Again (maskNameFor rd policy) v ↔ SteadyKind rd policy v .name := by
  cases v with
  | str s =>
    cases hfull : policy.fullNames with
    | false =>
      have hstrict : ∀ w, maskNameFor rd policy (.str w) = maskName rd (.str w) := by
        intro w
        rw [maskNameFor, hfull]
        rfl
      have hstr : ∀ {w}, maskName rd (.str s) = .ok w → ∃ u, w = .str u := by
        intro w hw
        rw [maskName, onText] at hw
        split at hw
        · obtain ⟨out, -, rfl⟩ := Fallible.map_eq_ok.mp hw
          exact ⟨_, rfl⟩
        · cases hw
          exact ⟨s, rfl⟩
      have hsame : Again (maskNameFor rd policy) (.str s) ↔ Again (maskName rd) (.str s) := by
        constructor
        · rintro ⟨w, hw, hagain⟩
          rw [hstrict] at hw
          obtain ⟨u, rfl⟩ := hstr hw
          rw [hstrict] at hagain
          exact ⟨_, hw, hagain⟩
        · rintro ⟨w, hw, hagain⟩
          obtain ⟨u, rfl⟩ := hstr hw
          refine ⟨.str u, ?_, ?_⟩
          · rw [hstrict]
            exact hw
          · rw [hstrict]
            exact hagain
      rw [hsame]
      by_cases hs : s = ""
      · subst hs
        exact iff_of_true (again_of_fixed (onText_of_falsy rfl))
          fun t ht _ hne => absurd (Json.str.inj ht).symm hne
      · rw [again_maskName_iff hs]
        constructor
        · intro h t ht _ _
          cases ht
          exact h
        · exact fun h => h s rfl hfull hs
    | true =>
      refine iff_of_true ?_ fun t _ hstrict => ?_
      · exact again_name_of_full hfull s
      · rw [hfull] at hstrict
        cases hstrict
  | _ => exact iff_of_true (again_of_fixed rfl) fun s hs => by cases hs

/-- What a coordinate is rounded to once it is read. -/
def roundedAs (rd : Reader) (v : Json) : Option Parsed → Except Raised Json
  | none => .ok v
  | some .signalingNan => .error .invalidOperation
  | some (.quietNan s) =>
      match v with
      | .float _ => .ok v
      | _ => .ok (.str s)
  | some (.number d) =>
      match d.quantize, v with
      | none, _ => .error .invalidOperation
      | some h, .float _ => .ok (.float (rd.floatOfText (hundredthsText h)))
      | some h, _ => .ok (.str (hundredthsText h))

lemma roundCoordinate_eq (hnull : v ≠ .null) (hempty : v ≠ .str "") :
    roundCoordinate rd v = roundedAs rd v (rd.decimal (Python.text rd.toReader v)) := by
  rw [roundCoordinate.eq_def]
  split
  · exact absurd rfl hnull
  · exact absurd rfl hempty
  · exact (roundedAs.eq_def ..).symm

lemma roundedAs_number {d : Python.Decimal} {h : Python.Hundredths} (hq : d.quantize = some h) :
    roundedAs rd v (some (.number d)) =
      match v with
      | .float _ => .ok (.float (rd.floatOfText (hundredthsText h)))
      | _ => .ok (.str (hundredthsText h)) := by
  rw [roundedAs.eq_def]
  dsimp only
  rw [hq]
  cases v <;> rfl

lemma roundCoordinate_hundredths (h : Python.Hundredths) :
    roundCoordinate rd (.str (hundredthsText h)) = .ok (.str (hundredthsText h)) := by
  by_cases hempty : hundredthsText h = ""
  · rw [hempty]
    rfl
  · have hread : rd.decimal (Python.text rd.toReader (.str (hundredthsText h))) =
        some (.number (decimalOf h)) := rd.decimal_text h
    rw [roundCoordinate_eq (fun heq => by cases heq) fun heq => hempty (Json.str.inj heq), hread,
      roundedAs_number (quantize_decimalOf h)]

lemma roundCoordinate_float {f : Json.Float} {d : Python.Decimal} {h : Python.Hundredths}
    (hf : rd.decimal (String.ofList f.text) = some (.number d)) (hd : d.quantize = some h) :
    roundCoordinate rd (.float (rd.floatOfText (hundredthsText h))) =
      .ok (.float (rd.floatOfText (hundredthsText h))) := by
  obtain ⟨h', hread⟩ := rd.repr_short f d h hf hd
  have hsame : rd.floatOfText (hundredthsText h') = rd.floatOfText (hundredthsText h) := by
    rw [rd.floatOfText_value _ _ _ (rd.decimal_text h') hread, rd.repr_float h]
  have hread' : rd.decimal (Python.text rd.toReader (.float (rd.floatOfText (hundredthsText h)))) =
      some (.number (decimalOf h')) := hread
  rw [roundCoordinate_eq (fun heq => by cases heq) (fun heq => by cases heq), hread',
    roundedAs_number (quantize_decimalOf h')]
  dsimp only
  rw [hsame]

lemma again_roundCoordinate_iff :
    Again (roundCoordinate rd) v ↔ v = .null ∨ v = .str "" ∨ rounds rd v = true := by
  by_cases hnull : v = .null
  · subst hnull
    exact iff_of_true (again_of_fixed rfl) (.inl rfl)
  by_cases hempty : v = .str ""
  · subst hempty
    exact iff_of_true (again_of_fixed rfl) (.inr (.inl rfl))
  rw [or_iff_right hnull, or_iff_right hempty]
  have hfirst : roundCoordinate rd v = roundedAs rd v (rd.decimal (Python.text rd.toReader v)) :=
    roundCoordinate_eq hnull hempty
  cases hread : rd.decimal (Python.text rd.toReader v) with
  | none =>
    rw [hread] at hfirst
    exact iff_of_true (again_of_fixed hfirst) (by rw [rounds, hread])
  | some parsed =>
    rw [hread] at hfirst
    cases parsed with
    | signalingNan =>
      refine iff_of_false (again_of_error hfirst) ?_
      rw [rounds, hread]
      exact Bool.false_ne_true
    | quietNan u =>
      refine iff_of_true ?_ (by rw [rounds, hread])
      cases v with
      | float f => exact again_of_fixed hfirst
      | _ =>
        refine ⟨.str u, hfirst, ?_⟩
        by_cases hu : u = ""
        · subst hu
          rfl
        · have hagain : rd.decimal (Python.text rd.toReader (.str u)) = some (.quietNan u) :=
            rd.decimal_nan _ _ hread
          rw [roundCoordinate_eq (fun heq => by cases heq) fun heq => hu (Json.str.inj heq), hagain]
          rfl
    | number d =>
      rw [rounds, hread]
      cases hquantize : d.quantize with
      | none =>
        have hraises : roundCoordinate rd v = .error .invalidOperation := by
          rw [hfirst, roundedAs.eq_def]
          dsimp only
          rw [hquantize]
        refine iff_of_false (again_of_error hraises) ?_
        show ¬ d.quantize.isSome = true
        rw [hquantize]
        exact Bool.false_ne_true
      | some h =>
        rw [roundedAs_number hquantize] at hfirst
        have hrounds : d.quantize.isSome = true := by
          rw [hquantize]
          rfl
        refine iff_of_true ?_ hrounds
        cases v with
        | float f => exact ⟨_, hfirst, roundCoordinate_float hread hquantize⟩
        | _ => exact ⟨_, hfirst, roundCoordinate_hundredths h⟩

lemma again_maskKind_iff (kind : Kind) :
    Again (maskKind rd policy kind) v ↔ SteadyKind rd policy v kind := by
  cases kind with
  | phone => exact again_phone_iff
  | email => exact iff_of_true again_email trivial
  | identifier => exact again_identifier_iff
  | contact => exact again_contact_iff
  | address => exact again_address_iff
  | blanked =>
    refine iff_of_true ⟨blank v, rfl, ?_⟩ trivial
    show Except.ok (blank (blank v)) = _
    rw [blank.eq_def v]
    split <;> rfl
  | last4 => exact iff_of_true again_last4 trivial
  | upi => exact iff_of_true again_upi trivial
  | name => exact again_name_iff
  | coordinate =>
    rw [SteadyKind]
    cases hexact : policy.exactCoordinates with
    | true =>
      refine iff_of_true (again_of_fixed ?_) (.inl rfl)
      rw [maskKind, hexact]
      rfl
    | false =>
      rw [or_iff_right Bool.false_ne_true, ← again_roundCoordinate_iff, maskKind, hexact]
      rfl
  | document =>
    refine iff_of_true ?_ trivial
    have hkind : ∀ u, maskKind rd policy .document u =
        .ok (if policy.documents then u else withhold u) := fun _ => rfl
    by_cases hshown : policy.documents = true
    · exact again_of_fixed (by rw [hkind, if_pos hshown])
    refine ⟨withhold v, by rw [hkind, if_neg hshown], ?_⟩
    rw [hkind, if_neg hshown]
    cases htruthy : Python.truthy v with
    | true =>
      rw [show withhold v = .null by rw [withhold, htruthy, if_pos rfl]]
      rfl
    | false =>
      have hsame : withhold v = v := by rw [withhold, htruthy, if_neg Bool.false_ne_true]
      rw [hsame, hsame]

end Kinds

/-! ## Payloads -/

section Payloads

variable (rd : Reader) (policy : Policy)

/-- A value under a key, as the walk masks it. -/
def maskValue (key : String) (v : Json) : Except Raised Json :=
  match v with
  | .obj gs => if key ∈ operatorIdentityKeys then .ok v else maskPayload rd policy (.obj gs)
  | .arr vs => maskPayload rd policy (.arr vs)
  | _ => maskLeaf rd policy key v

mutual

/-- The mask of every value of a payload is final. -/
def Steady : Json → Prop
  | .arr vs => SteadyItems vs
  | .obj fs => SteadyFields fs
  | _ => True

def SteadyItems : List Json → Prop
  | [] => True
  | v :: vs => Steady v ∧ SteadyItems vs

def SteadyFields : List (String × Json) → Prop
  | [] => True
  | (key, v) :: fs =>
      (match v with
        | .obj gs => key ∈ operatorIdentityKeys ∨ Steady (.obj gs)
        | .arr vs => Steady (.arr vs)
        | _ => ∀ kind ∈ kindOf key, SteadyKind rd policy v kind) ∧ SteadyFields fs

end

variable {rd policy} {v : Json} {vs : List Json} {fs : List (String × Json)}

/-- Neither a dict nor a list. -/
def IsLeaf : Json → Prop
  | .arr _ => False
  | .obj _ => False
  | _ => True

lemma maskValue_leaf (h : IsLeaf v) (key : String) :
    maskValue rd policy key v = maskLeaf rd policy key v := by
  cases v with
  | arr vs => exact absurd h id
  | obj fs => exact absurd h id
  | _ => rfl

lemma isLeaf_of_maskLeaf (h : IsLeaf v) {key : String} {w : Json}
    (hw : maskLeaf rd policy key v = .ok w) : IsLeaf w := by
  have htext : ∀ {f w}, onText rd f v = .ok w → IsLeaf w := by
    intro f w hw
    rw [onText] at hw
    split at hw
    · obtain ⟨out, -, rfl⟩ := Fallible.map_eq_ok.mp hw
      trivial
    · cases hw
      exact h
  rw [maskLeaf] at hw
  split at hw
  swap
  · cases hw
    exact h
  rename_i kind _
  cases kind with
  | phone =>
    rw [maskKind, maskPhone] at hw
    exact htext hw
  | email =>
    rw [maskKind, maskEmail] at hw
    exact htext hw
  | identifier =>
    rw [maskKind, maskIdentifier] at hw
    exact htext hw
  | contact =>
    rw [maskKind, maskContact] at hw
    exact htext hw
  | address =>
    rw [maskKind, maskAddress] at hw
    exact htext hw
  | last4 =>
    rw [maskKind, maskLast4] at hw
    exact htext hw
  | upi =>
    rw [maskKind, maskUpi] at hw
    exact htext hw
  | blanked =>
    cases hw
    rw [blank.eq_def]
    split <;> trivial
  | name =>
    rw [maskKind, maskNameFor.eq_def] at hw
    split at hw
    · split at hw
      · rw [maskName] at hw
        exact htext hw
      · split at hw
        · rw [maskContact] at hw
          exact htext hw
        · cases hw
          exact h
    · cases hw
      exact h
  | coordinate =>
    have hround : (if policy.exactCoordinates then .ok v else roundCoordinate rd v) =
        Except.ok w := hw
    split at hround
    · cases hround
      exact h
    · by_cases hnull : v = .null
      · subst hnull
        cases hround
        exact h
      by_cases hempty : v = .str ""
      · subst hempty
        cases hround
        exact h
      rw [roundCoordinate_eq hnull hempty, roundedAs.eq_def] at hround
      split at hround
      · cases hround
        exact h
      · cases hround
      · split at hround <;> cases hround <;> trivial
      · split at hround <;> cases hround <;> trivial
  | document =>
    have hwithhold : (if policy.documents then v else withhold v) = w := Except.ok.inj hw
    rw [← hwithhold, withhold]
    split_ifs
    · exact h
    · trivial
    · exact h

/-- Two steps in a row stay exactly when each does. -/
lemma again_cons_iff {α : Type} {f : α → Except Raised α} {g : List α → Except Raised (List α)}
    (hg : ∀ a as, g (a :: as) = do
      let b ← f a
      let bs ← g as
      return b :: bs) {a : α} {as : List α} : Again g (a :: as) ↔ Again f a ∧ Again g as := by
  constructor
  · rintro ⟨w, hw, hagain⟩
    rw [hg] at hw
    obtain ⟨b, hb, hw⟩ := Fallible.bind_eq_ok.mp hw
    obtain ⟨bs, hbs, hw⟩ := Fallible.bind_eq_ok.mp hw
    cases hw
    rw [hg] at hagain
    obtain ⟨b', hb', hagain⟩ := Fallible.bind_eq_ok.mp hagain
    obtain ⟨bs', hbs', hagain⟩ := Fallible.bind_eq_ok.mp hagain
    cases hagain
    exact ⟨⟨b, hb, hb'⟩, bs, hbs, hbs'⟩
  · rintro ⟨⟨b, hb, hb'⟩, bs, hbs, hbs'⟩
    refine ⟨b :: bs, ?_, ?_⟩
    · rw [hg, hb, Fallible.bind_eq_ok]
      exact ⟨b, rfl, Fallible.bind_eq_ok.mpr ⟨bs, hbs, rfl⟩⟩
    · rw [hg, hb', Fallible.bind_eq_ok]
      exact ⟨b, rfl, Fallible.bind_eq_ok.mpr ⟨bs, hbs', rfl⟩⟩

lemma again_arr_iff : Again (maskPayload rd policy) (.arr vs) ↔ Again (maskItems rd policy) vs := by
  constructor
  · rintro ⟨w, hw, hagain⟩
    rw [maskPayload] at hw
    obtain ⟨ws, hws, hw⟩ := Fallible.bind_eq_ok.mp hw
    cases hw
    rw [maskPayload] at hagain
    obtain ⟨ws', hws', hagain⟩ := Fallible.bind_eq_ok.mp hagain
    cases hagain
    exact ⟨ws, hws, hws'⟩
  · rintro ⟨ws, hws, hws'⟩
    refine ⟨.arr ws, ?_, ?_⟩
    · rw [maskPayload]
      exact Fallible.bind_eq_ok.mpr ⟨ws, hws, rfl⟩
    · rw [maskPayload]
      exact Fallible.bind_eq_ok.mpr ⟨ws, hws', rfl⟩

lemma again_obj_iff : Again (maskPayload rd policy) (.obj fs) ↔
    Again (maskFields rd policy) fs := by
  constructor
  · rintro ⟨w, hw, hagain⟩
    rw [maskPayload] at hw
    obtain ⟨ws, hws, hw⟩ := Fallible.bind_eq_ok.mp hw
    cases hw
    rw [maskPayload] at hagain
    obtain ⟨ws', hws', hagain⟩ := Fallible.bind_eq_ok.mp hagain
    cases hagain
    exact ⟨ws, hws, hws'⟩
  · rintro ⟨ws, hws, hws'⟩
    refine ⟨.obj ws, ?_, ?_⟩
    · rw [maskPayload]
      exact Fallible.bind_eq_ok.mpr ⟨ws, hws, rfl⟩
    · rw [maskPayload]
      exact Fallible.bind_eq_ok.mpr ⟨ws, hws', rfl⟩

def maskField (rd : Reader) (policy : Policy) (f : String × Json) :
    Except Raised (String × Json) := do
  let w ← maskValue rd policy f.1 f.2
  return (f.1, w)

lemma maskFields_cons (f : String × Json) (fs : List (String × Json)) :
    maskFields rd policy (f :: fs) = do
      let b ← maskField rd policy f
      let bs ← maskFields rd policy fs
      return b :: bs := by
  obtain ⟨key, v⟩ := f
  have hvalue : maskFields rd policy ((key, v) :: fs) = do
      let w ← maskValue rd policy key v
      let ws ← maskFields rd policy fs
      return (key, w) :: ws := by
    cases v with
    | obj gs =>
      rw [maskFields, maskValue]
      split <;> rfl
    | _ => rfl
  rw [hvalue, maskField]
  cases maskValue rd policy key v with
  | ok w => rfl
  | error e => rfl

lemma again_field_iff (key : String) (v : Json) :
    Again (maskField rd policy) (key, v) ↔ Again (maskValue rd policy key) v := by
  constructor
  · rintro ⟨b, hb, hagain⟩
    obtain ⟨w, hw, heq⟩ := Fallible.bind_eq_ok.mp hb
    cases heq
    obtain ⟨w', hw', heq⟩ := Fallible.bind_eq_ok.mp hagain
    cases heq
    exact ⟨w, hw, hw'⟩
  · rintro ⟨w, hw, hagain⟩
    exact ⟨(key, w), Fallible.bind_eq_ok.mpr ⟨w, hw, rfl⟩,
      Fallible.bind_eq_ok.mpr ⟨w, hagain, rfl⟩⟩

lemma again_leaf_iff (h : IsLeaf v) (key : String) : Again (maskValue rd policy key) v ↔
    ∀ kind ∈ kindOf key, SteadyKind rd policy v kind := by
  have hsame : Again (maskValue rd policy key) v ↔ Again (maskLeaf rd policy key) v := by
    constructor
    · rintro ⟨w, hw, hagain⟩
      rw [maskValue_leaf h] at hw
      rw [maskValue_leaf (isLeaf_of_maskLeaf h hw)] at hagain
      exact ⟨w, hw, hagain⟩
    · rintro ⟨w, hw, hagain⟩
      refine ⟨w, ?_, ?_⟩
      · rw [maskValue_leaf h]
        exact hw
      · rw [maskValue_leaf (isLeaf_of_maskLeaf h hw)]
        exact hagain
  rw [hsame]
  cases hkind : kindOf key with
  | none =>
    refine iff_of_true (again_of_fixed ?_) fun kind hk => absurd hk (Option.not_mem_none kind)
    rw [maskLeaf, hkind]
  | some kind =>
    have hleaf : maskLeaf rd policy key = maskKind rd policy kind := by
      funext u
      rw [maskLeaf, hkind]
    rw [hleaf, again_maskKind_iff]
    constructor
    · intro hsteady k hk
      cases hk
      exact hsteady
    · exact fun hsteady => hsteady kind rfl

/-- A container under a key is walked, but for a staff attribution. -/
lemma again_arr_value_iff (key : String) : Again (maskValue rd policy key) (.arr vs) ↔
    Again (maskPayload rd policy) (.arr vs) := by
  constructor
  · rintro ⟨w, hw, hagain⟩
    have harr : ∃ ws, w = .arr ws := by
      have hw' : maskPayload rd policy (.arr vs) = .ok w := hw
      rw [maskPayload] at hw'
      obtain ⟨ws, -, heq⟩ := Fallible.bind_eq_ok.mp hw'
      cases heq
      exact ⟨ws, rfl⟩
    obtain ⟨ws, rfl⟩ := harr
    exact ⟨_, hw, hagain⟩
  · rintro ⟨w, hw, hagain⟩
    have hw' := hw
    rw [maskPayload] at hw'
    obtain ⟨ws, -, heq⟩ := Fallible.bind_eq_ok.mp hw'
    cases heq
    exact ⟨_, hw, hagain⟩

lemma again_obj_value_iff (key : String) : Again (maskValue rd policy key) (.obj fs) ↔
    key ∈ operatorIdentityKeys ∨ Again (maskPayload rd policy) (.obj fs) := by
  by_cases hkey : key ∈ operatorIdentityKeys
  · refine iff_of_true (again_of_fixed ?_) (.inl hkey)
    rw [maskValue, if_pos hkey]
  · have hvalue : ∀ gs, maskValue rd policy key (.obj gs) = maskPayload rd policy (.obj gs) := by
      intro gs
      rw [maskValue, if_neg hkey]
    have hobj : ∀ {w}, maskPayload rd policy (.obj fs) = .ok w → ∃ gs, w = .obj gs := by
      intro w hw
      rw [maskPayload] at hw
      obtain ⟨gs, -, heq⟩ := Fallible.bind_eq_ok.mp hw
      cases heq
      exact ⟨gs, rfl⟩
    rw [or_iff_right hkey]
    constructor
    · rintro ⟨w, hw, hagain⟩
      rw [hvalue] at hw
      obtain ⟨gs, rfl⟩ := hobj hw
      rw [hvalue] at hagain
      exact ⟨_, hw, hagain⟩
    · rintro ⟨w, hw, hagain⟩
      obtain ⟨gs, rfl⟩ := hobj hw
      refine ⟨.obj gs, ?_, ?_⟩
      · rw [hvalue]
        exact hw
      · rw [hvalue]
        exact hagain

/-- A payload of a dict: its first field and the rest of them. -/
lemma again_fields_cons {key : String}
    (hv : Again (maskPayload rd policy) v ↔ Steady rd policy v)
    (hfs : Again (maskFields rd policy) fs ↔ SteadyFields rd policy fs) :
    Again (maskFields rd policy) ((key, v) :: fs) ↔ SteadyFields rd policy ((key, v) :: fs) := by
  rw [again_cons_iff (f := maskField rd policy) maskFields_cons, again_field_iff, hfs]
  -- a container is walked, a leaf is masked by the kind of its key
  cases v with
  | obj gs =>
    rw [again_obj_value_iff]
    exact and_congr_left fun _ => or_congr_right hv
  | arr vs =>
    rw [again_arr_value_iff]
    exact and_congr_left fun _ => hv
  | _ =>
    refine and_congr_left fun _ => again_leaf_iff ?_ key
    trivial

mutual

lemma again_payload_iff (rd : Reader) (policy : Policy) :
    ∀ v : Json, Again (maskPayload rd policy) v ↔ Steady rd policy v
  | .arr vs => again_arr_iff.trans (again_items_iff rd policy vs)
  | .obj fs => again_obj_iff.trans (again_all_fields_iff rd policy fs)
  | .null => iff_of_true (again_of_fixed rfl) trivial
  | .bool _ => iff_of_true (again_of_fixed rfl) trivial
  | .int _ => iff_of_true (again_of_fixed rfl) trivial
  | .float _ => iff_of_true (again_of_fixed rfl) trivial
  | .str _ => iff_of_true (again_of_fixed rfl) trivial

lemma again_items_iff (rd : Reader) (policy : Policy) :
    ∀ vs : List Json, Again (maskItems rd policy) vs ↔ SteadyItems rd policy vs
  | [] => iff_of_true (again_of_fixed rfl) trivial
  | v :: vs =>
      (again_cons_iff (f := maskPayload rd policy) fun _ _ => rfl).trans
        (and_congr (again_payload_iff rd policy v) (again_items_iff rd policy vs))

lemma again_all_fields_iff (rd : Reader) (policy : Policy) :
    ∀ fs : List (String × Json), Again (maskFields rd policy) fs ↔ SteadyFields rd policy fs
  | [] => iff_of_true (again_of_fixed rfl) trivial
  | (_, v) :: fs =>
      again_fields_cons (again_payload_iff rd policy v) (again_all_fields_iff rd policy fs)

end

/-- Masking a masked payload leaves it as it is exactly when the mask of every value is final. -/
theorem masked_again_iff (rd : Reader) (policy : Policy) (v : Json) :
    (∃ w, maskPayload rd policy v = .ok w ∧ maskPayload rd policy w = .ok w) ↔
      Steady rd policy v :=
  again_payload_iff rd policy v

end Payloads

/-! ## A number of one digit -/

/-- The sign and the hundredths of a text that is printed with two places. -/
def exampleParts (s : String) : Option (Bool × ℕ) :=
  let minus := decide (s.toList.head? = some '-')
  let body := if minus then s.toList.tail else s.toList
  (Python.plainHundredths (String.ofList body)).bind fun n =>
    if Python.hundredthsText n.toNat = String.ofList body then some (minus, n.toNat) else none

/-- A sign and hundredths, printed. -/
def examplePrint (p : Bool × ℕ) : List Char :=
  (if p.1 then ['-'] else []) ++ (Python.hundredthsText p.2).toList

lemma hundredthsText_digits (n : ℕ) : (Python.hundredthsText n).toList =
    Nat.toDigits 10 (n / 100) ++
      '.' :: [Nat.digitChar (n % 100 / 10), Nat.digitChar (n % 10)] := by
  rw [Python.hundredthsText, String.toList_ofList, if_neg (by omega)]
  rfl

lemma isNumeric_of_isDigit {c : Char} (hc : c.isDigit = true) : Json.isNumeric c = true := by
  rw [Json.isNumeric, hc]
  rfl

lemma isDigit_digitChar : ∀ k < 10, (Nat.digitChar k).isDigit = true := by decide

lemma isNumeric_examplePrint (p : Bool × ℕ) :
    ∀ c ∈ examplePrint p, Json.isNumeric c = true := by
  intro c hc
  rw [examplePrint, hundredthsText_digits, List.mem_append, List.mem_append, List.mem_cons,
    List.mem_cons, List.mem_singleton] at hc
  rcases hc with hsign | hwhole | rfl | rfl | rfl
  · split at hsign
    · rw [List.mem_singleton.mp hsign]
      rfl
    · cases hsign
  · exact isNumeric_of_isDigit (Nat.isDigit_of_mem_toDigits (by omega) (by omega) hwhole)
  · rfl
  · exact isNumeric_of_isDigit (isDigit_digitChar _ (by omega))
  · exact isNumeric_of_isDigit (isDigit_digitChar _ (by omega))

lemma examplePrint_ne_nil (p : Bool × ℕ) : examplePrint p ≠ [] := by
  rw [examplePrint, hundredthsText_digits]
  simp

lemma exampleParts_print (p : Bool × ℕ) : exampleParts (String.ofList (examplePrint p)) = some p := by
  obtain ⟨minus, n⟩ := p
  have hread := Python.plainHundredths_text n (by omega)
  have hhead : (Python.hundredthsText n).toList.head? ≠ some '-' := by
    rw [hundredthsText_digits]
    intro hminus
    have hmem : '-' ∈ Nat.toDigits 10 (n / 100) := by
      cases hdigits : Nat.toDigits 10 (n / 100) with
      | nil => exact absurd hdigits Nat.toDigits_ne_nil
      | cons d ds =>
        rw [hdigits] at hminus
        cases hminus
        exact List.mem_cons_self
    have hdigit := Nat.isDigit_of_mem_toDigits (by omega) (by omega) hmem
    cases hdigit
  cases minus with
  | false =>
    have hprint : examplePrint (false, n) = (Python.hundredthsText n).toList := rfl
    rw [exampleParts, hprint, String.toList_ofList, decide_eq_false hhead]
    rw [if_neg Bool.false_ne_true, String.ofList_toList, hread, Option.bind_some, Int.toNat_natCast,
      if_pos rfl]
  | true =>
    have hprint : examplePrint (true, n) = '-' :: (Python.hundredthsText n).toList := rfl
    rw [exampleParts, hprint, String.toList_ofList, List.head?_cons, decide_eq_true rfl]
    rw [if_pos rfl, List.tail_cons, String.ofList_toList, hread, Option.bind_some,
      Int.toNat_natCast, if_pos rfl]

/-- A float of the text of a number with two places. -/
def exampleFloat (s : String) : Json.Float :=
  match exampleParts s with
  | some p => ⟨examplePrint p, examplePrint_ne_nil p, isNumeric_examplePrint p, none⟩
  | none => ⟨['0'], by decide, List.all_eq_true.mp (by decide), some 0⟩

/-- A number with two places. -/
def exampleNumber (p : Bool × ℕ) : Parsed := .number (inHundredths p.1 p.2)

/-- The characters of ASCII. -/
def exampleAlphabet : Python.Alphabet where
  isDigit := Char.isDigit
  isDecimal := Char.isDigit
  isWord := fun c => c.isAlphanum || c = '_'
  isDigit_ascii := fun _ h => h
  isDecimal_ascii := fun _ h => h
  isDigit_of_isDecimal := fun _ h => h
  isWord_of_isDecimal := by
    intro c hc
    rw [Char.isAlphanum, hc]
    simp
  isDigit_punctuation := by
    intro c hc
    have hall : (['+', '-', '.', ',', '@', '(', ')', '•'].all fun c => !c.isDigit) = true := by
      decide
    exact Bool.not_eq_true' _ ▸ List.all_eq_true.mp hall c hc
  isDigit_space := by
    intro c hc
    by_contra hdigit
    rw [Bool.not_eq_false] at hdigit
    have hrange : 48 ≤ c.toNat ∧ c.toNat ≤ 57 := by
      simpa [Char.isDigit, UInt32.le_iff_toNat_le] using hdigit
    simp [Python.isSpace] at hc
    omega

/-- A reader of ASCII texts and of numbers with two places. -/
def exampleReader : Reader where
  toReader := Python.plainReader
  alphabet := exampleAlphabet
  decimal := fun s => (exampleParts s).map exampleNumber
  decimal_text := by
    intro h
    have hprint : hundredthsText h = String.ofList (examplePrint (h.minus, h.count)) := rfl
    rw [hprint, exampleParts_print]
    rfl
  decimal_nan := by
    intro t s ht
    cases hparts : exampleParts t with
    | none =>
      rw [hparts] at ht
      cases ht
    | some p =>
      rw [hparts] at ht
      cases ht
  floatOfText := exampleFloat
  floatOfText_value := by
    intro s t d hs ht
    obtain ⟨p, hp, hpd⟩ := Option.map_eq_some_iff.mp hs
    obtain ⟨q, hq, hqd⟩ := Option.map_eq_some_iff.mp ht
    have hsame : p = q := by
      have hnumbers : exampleNumber p = exampleNumber q := hpd.trans hqd.symm
      injection hnumbers with hfinite
      injection hfinite with hminus hmagnitude
      have hcount : p.2 = q.2 := by
        rwa [div_left_inj' (by norm_num), Nat.cast_inj] at hmagnitude
      exact Prod.ext hminus hcount
    rw [exampleFloat, exampleFloat, hp, hq, hsame]
  repr_float := by
    intro h
    have hprint : hundredthsText h = String.ofList (examplePrint (h.minus, h.count)) := rfl
    have htext : (exampleFloat (hundredthsText h)).text = examplePrint (h.minus, h.count) := by
      rw [exampleFloat, hprint, exampleParts_print]
    rw [htext, ← hprint]
  repr_short := by
    intro f d h _ _
    have hprint : hundredthsText h = String.ofList (examplePrint (h.minus, h.count)) := rfl
    have htext : (exampleFloat (hundredthsText h)).text = examplePrint (h.minus, h.count) := by
      rw [exampleFloat, hprint, exampleParts_print]
    refine ⟨h, ?_⟩
    rw [htext, exampleParts_print]
    rfl

/-- A phone number of a plus and a digit grows with each pass. -/
theorem short_number_grows :
    maskPayload exampleReader strict (.obj [("phone", .str "+1")]) =
        .ok (.obj [("phone", .str "+1+1")]) ∧
      maskPayload exampleReader strict (.obj [("phone", .str "+1+1")]) =
        .ok (.obj [("phone", .str "+1++1+1")]) ∧
      ¬ ∃ w, maskPayload exampleReader strict (.obj [("phone", .str "+1")]) = .ok w ∧
        maskPayload exampleReader strict w = .ok w := by
  have hfirst : maskPayload exampleReader strict (.obj [("phone", .str "+1")]) =
      .ok (.obj [("phone", .str "+1+1")]) := rfl
  have hsecond : maskPayload exampleReader strict (.obj [("phone", .str "+1+1")]) =
      .ok (.obj [("phone", .str "+1++1+1")]) := rfl
  refine ⟨hfirst, hsecond, ?_⟩
  rintro ⟨w, hw, hagain⟩
  rw [hfirst] at hw
  cases hw
  rw [hsecond] at hagain
  simp at hagain

end SaaradhiGo.Masking
