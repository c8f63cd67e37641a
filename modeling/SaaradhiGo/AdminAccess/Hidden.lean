/-
What a masked payload still shows.

Each masker guesses from its characters what a text is, and the walk reaches a text only when it
stands directly under its key.  A place of a payload is a value that is no container, with the
nearest key above it; for each place `Caught` says when nothing personal of its text remains.
-/
import SaaradhiGo.AdminAccess.MaskedAgain

namespace SaaradhiGo.Masking

/-! ## Phone numbers and addresses of mail -/

/-- What may stand between the digits of a phone number. -/
def separators : List Char := ['-', ' ', '.', '(', ')']

/-- A phone number of ten digits or more. -/
structure IsNumber (al : Python.Alphabet) (m : List Char) : Prop where
  begins : ∃ c ∈ m.head?, al.isDecimal c = true
  ends : ∃ c ∈ m.getLast?, al.isDecimal c = true
  chars : ∀ c ∈ m, al.isDecimal c = true ∨ c ∈ separators
  digits : 10 ≤ m.countP al.isDecimal

/-- `[A-Za-z0-9._%+-]`. -/
def isLocal (c : Char) : Bool := c.isAlphanum || c ∈ ['.', '_', '%', '+', '-']

/-- `[A-Za-z0-9.-]`. -/
def isDomain (c : Char) : Bool := c.isAlphanum || c ∈ ['.', '-']

/-- An address of mail: the pattern `email` of `RAW_PII_PATTERNS`. -/
def IsMail (m : List Char) : Prop :=
  ∃ front domain top, m = front ++ '@' :: (domain ++ '.' :: top) ∧ front ≠ [] ∧ domain ≠ [] ∧
    2 ≤ top.length ∧ (∀ c ∈ front, isLocal c = true) ∧ (∀ c ∈ domain, isDomain c = true) ∧
    ∀ c ∈ top, c.isAlpha = true

def Personal (al : Python.Alphabet) (m : List Char) : Prop := IsNumber al m ∨ IsMail m

def Holds (al : Python.Alphabet) (t : List Char) : Prop := ∃ m, Personal al m ∧ m <:+: t

/-- Something personal of the text is in full in what is shown of it. -/
def Remains (al : Python.Alphabet) (t out : List Char) : Prop :=
  ∃ m, Personal al m ∧ m <:+: t ∧ m <:+: out

section Personal

variable {al : Python.Alphabet} {m l r t out : List Char}

lemma not_isDecimal {c : Char} (h : al.isDigit c = false) : al.isDecimal c = false := by
  by_contra hdecimal
  rw [Bool.not_eq_false] at hdecimal
  rw [al.isDigit_of_isDecimal c hdecimal] at h
  cases h

lemma IsNumber.ten_le (h : IsNumber al m) : 10 ≤ m.length :=
  le_trans h.digits List.countP_le_length

/-- No character but digits and separators stands in a number. -/
lemma IsNumber.not_mem (h : IsNumber al m) {c : Char} (hc : c ∈ ['+', '@', bullet]) : c ∉ m := by
  intro hmem
  rcases h.chars c hmem with hdecimal | hsep
  · have hpunctuation : c ∈ ['+', '-', '.', ',', '@', '(', ')', '•'] := by
      simp only [List.mem_cons, List.not_mem_nil, or_false] at hc
      rcases hc with rfl | rfl | rfl
      · decide
      · decide
      · decide
    rw [not_isDecimal (al.isDigit_punctuation c hpunctuation)] at hdecimal
    exact Bool.false_ne_true hdecimal
  · simp only [List.mem_cons, List.not_mem_nil, or_false] at hc
    rcases hc with rfl | rfl | rfl
    · exact absurd hsep (by decide)
    · exact absurd hsep (by decide)
    · exact absurd hsep (by decide)

lemma IsMail.six_le (h : IsMail m) : 6 ≤ m.length := by
  obtain ⟨front, domain, top, rfl, hfront, hdomain, htop, -⟩ := h
  have hfront' := List.length_pos_iff.mpr hfront
  have hdomain' := List.length_pos_iff.mpr hdomain
  simp only [List.length_append, List.length_cons]
  omega

lemma IsMail.at_mem (h : IsMail m) : '@' ∈ m := by
  obtain ⟨front, domain, top, rfl, -⟩ := h
  simp

lemma IsMail.bullet_not_mem (h : IsMail m) : bullet ∉ m := by
  obtain ⟨front, domain, top, rfl, -, -, -, hfront, hdomain, htop⟩ := h
  intro hmem
  simp only [List.mem_append, List.mem_cons] at hmem
  rcases hmem with hmem | hmem | hmem | hmem | hmem
  · exact absurd (hfront _ hmem) (by decide)
  · exact absurd hmem (by decide)
  · exact absurd (hdomain _ hmem) (by decide)
  · exact absurd hmem (by decide)
  · exact absurd (htop _ hmem) (by decide)

lemma Personal.six_le (h : Personal al m) : 6 ≤ m.length := by
  rcases h with h | h
  · have := h.ten_le
    omega
  · exact h.six_le

lemma Personal.ne_nil (h : Personal al m) : m ≠ [] := by
  rintro rfl
  exact absurd h.six_le (by decide)

lemma Personal.bullet_not_mem (h : Personal al m) : bullet ∉ m := by
  rcases h with h | h
  · exact h.not_mem (by decide)
  · exact h.bullet_not_mem

/-- Nothing personal begins with an `@`. -/
lemma Personal.head_ne (h : Personal al m) : m.head? ≠ some '@' := by
  rcases h with h | ⟨front, domain, top, rfl, hne, -, -, hfront, -⟩
  · intro hhead
    exact h.not_mem (by decide) (List.mem_of_mem_head? hhead)
  · cases front with
    | nil => exact absurd rfl hne
    | cons c front =>
      intro hhead
      cases hhead
      exact absurd (hfront _ List.mem_cons_self) (by decide)

lemma not_remains_of_short (h : out.length < 6) : ¬ Remains al t out := by
  rintro ⟨m, hm, -, hout⟩
  have hlen := hout.length_le
  have hsix := hm.six_le
  omega

lemma holds_of_remains (h : Remains al t out) : Holds al out := by
  obtain ⟨m, hm, -, hout⟩ := h
  exact ⟨m, hm, hout⟩

lemma remains_of_holds {piece : List Char} (h : Holds al piece) (ht : piece <:+: t)
    (hout : piece <:+: out) : Remains al t out := by
  obtain ⟨m, hm, hpiece⟩ := h
  exact ⟨m, hm, hpiece.trans ht, hpiece.trans hout⟩

end Personal

/-! ## What the maskers leave -/

section Left

variable {al : Python.Alphabet} {m t full : List Char}

/-- A piece without a bullet lies before the bullets or behind them. -/
lemma infix_bullets {l r : List Char} {n : ℕ} (hm : bullet ∉ m) (hn : 0 < n)
    (h : m <:+: l ++ List.replicate n bullet ++ r) : m <:+: l ∨ m <:+: r := by
  induction n with
  | zero => omega
  | succ n ih =>
    rw [List.replicate_succ', ← List.append_assoc, List.append_assoc, List.singleton_append] at h
    rcases Python.infix_append_cons hm h with hleft | hright
    · by_cases hzero : n = 0
      · subst hzero
        rw [List.replicate_zero, List.append_nil] at hleft
        exact .inl hleft
      · refine ih (by omega) ?_
        exact hleft.trans List.infix_append_left
    · exact .inr hright

/-- Of a number only a text of seven characters that begins with a plus is shown in full. -/
lemma personal_phoneText (hm : Personal al m) (h : m <:+: phoneText t) :
    ¬ Hides t ∧ t.head? = some '+' ∧ IsMail m := by
  have hsix := hm.six_le
  have hhides : ¬ Hides t := by
    intro hhides
    rw [Hides] at hhides
    rw [phoneText] at h
    have hhead : (phoneHead t).length ≤ 3 := by
      rw [phoneHead]
      split
      · exact List.length_take_le 3 t
      · exact Nat.zero_le 3
    have htail : (lastFour t).length ≤ 4 := by
      rw [length_lastFour]
      omega
    rcases infix_bullets hm.bullet_not_mem (by omega) h with hleft | hright
    · have := hleft.length_le
      omega
    · have := hright.length_le
      omega
  have hlen := h.length_le
  rw [phoneText_of_not_hides hhides, shown, List.length_append, length_lastFour,
    length_phoneHead] at hlen
  rw [Hides, length_phoneHead] at hhides
  have hplus : t.head? = some '+' := by
    by_contra hplus
    rw [if_neg hplus] at hlen
    omega
  refine ⟨by rwa [Hides, length_phoneHead], hplus, ?_⟩
  rw [if_pos hplus] at hlen
  rcases hm with hm | hm
  · have := hm.ten_le
    omega
  · exact hm

/-- A phone field shows an address exactly when it is one of seven characters with a plus. -/
lemma remains_phoneText_iff : Remains al t (phoneText t) ↔
    t.head? = some '+' ∧ t.length = 7 ∧ ∃ m, IsMail m ∧ m <:+: t := by
  constructor
  · rintro ⟨m, hm, ht, hout⟩
    obtain ⟨hhides, hplus, hmail⟩ := personal_phoneText hm hout
    refine ⟨hplus, ?_, m, hmail, ht⟩
    have hsix := hmail.six_le
    have hlen := ht.length_le
    rw [Hides, length_phoneHead, if_pos hplus] at hhides
    by_contra hseven
    -- six characters: the address is the whole text, which is not in what is shown
    have hall : m = t := ht.eq_of_length (by omega)
    subst hall
    obtain ⟨front, domain, top, rfl, hfront, hdomain, htop, -, -, halpha⟩ := hmail
    have hfront' := List.length_pos_iff.mpr hfront
    have hdomain' := List.length_pos_iff.mpr hdomain
    simp only [List.length_append, List.length_cons] at hhides hseven
    obtain ⟨a, rfl⟩ := List.length_eq_one_iff.mp (show front.length = 1 by omega)
    obtain ⟨d, rfl⟩ := List.length_eq_one_iff.mp (show domain.length = 1 by omega)
    obtain ⟨x, y, rfl⟩ := List.length_eq_two.mp (show top.length = 2 by omega)
    cases hplus
    have hshown : phoneText ['+', '@', d, '.', x, y] = ['+', '@', d, d, '.', x, y] := rfl
    have hout' : ['+', '@', d, '.', x, y] <:+: ['+', '@', d, d, '.', x, y] := hshown ▸ hout
    obtain ⟨before, behind, heq⟩ := hout'
    have hdot := halpha x List.mem_cons_self
    cases before with
    | nil =>
      simp only [List.nil_append, List.cons_append, List.cons.injEq] at heq
      rw [heq.2.2.2.2.1] at hdot
      exact absurd hdot (by decide)
    | cons z before =>
      cases before with
      | nil =>
        simp only [List.nil_append, List.cons_append, List.cons.injEq] at heq
        exact absurd heq.2.1 (by decide)
      | cons z' before =>
        have hlength := congrArg List.length heq
        simp only [List.length_append, List.length_cons, List.length_nil] at hlength
        omega
  · rintro ⟨hplus, hseven, m, hmail, ht⟩
    have hsame : phoneText t = t := by
      have hhides : ¬ Hides t := by
        rw [Hides, length_phoneHead, if_pos hplus]
        omega
      rw [phoneText_of_not_hides hhides, shown, phoneHead, if_pos hplus, lastFour, hseven]
      exact List.take_append_drop 3 t
    refine ⟨m, .inr hmail, ht, ?_⟩
    rwa [hsame]

/-- A number is masked so that nothing of it remains. -/
lemma not_remains_phoneText (hat : '@' ∉ t) : ¬ Remains al full (phoneText t) := by
  rintro ⟨m, hm, -, hout⟩
  obtain ⟨hhides, -, hmail⟩ := personal_phoneText hm hout
  rw [phoneText_of_not_hides hhides] at hout
  exact hat (mem_of_mem_shown (hout.mem hmail.at_mem))

/-- What stands behind the first `@`. -/
def behindAt (t : List Char) : List Char := (t.dropWhile (· ≠ '@')).tail

lemma behindAt_append {front domain : List Char} (hnot : '@' ∉ front) :
    behindAt (front ++ '@' :: domain) = domain := by
  have hnone : ∀ c ∈ front, decide (c ≠ '@') = true := by
    intro c hc
    rw [decide_eq_true_eq]
    rintro rfl
    exact hnot hc
  rw [behindAt, List.dropWhile_append_of_pos hnone, List.dropWhile_cons_of_neg (by decide),
    List.tail_cons]

lemma not_holds_nil : ¬ Holds al [] := by
  rintro ⟨m, hm, hnil⟩
  exact hm.ne_nil (List.infix_nil.mp hnil)

/-- Of an address remains what is held behind its first `@`. -/
lemma remains_emailText_iff (hfull : t <:+: full) :
    Remains al full (emailText t) ↔ Holds al (behindAt t) := by
  by_cases hat : '@' ∈ t
  swap
  · have hbehind : behindAt t = [] := by
      rw [behindAt, List.dropWhile_eq_nil_iff.mpr]
      · rfl
      · intro c hc
        rw [decide_eq_true_eq]
        rintro rfl
        exact hat hc
    rw [emailText_of_not_mem hat, hbehind]
    exact iff_of_false (not_remains_of_short (by decide)) not_holds_nil
  obtain ⟨front, domain, rfl, hnot⟩ := exists_at hat
  rw [emailText_append hnot, behindAt_append hnot]
  constructor
  · rintro ⟨m, hm, -, hout⟩
    obtain ⟨n, hn, hshown⟩ : ∃ n, 0 < n ∧
        shownLocal front = front.take 1 ++ List.replicate n bullet := by
      cases front with
      | nil => exact ⟨4, by decide, rfl⟩
      | cons c rest => exact ⟨max 1 rest.length, by omega, rfl⟩
    rw [hshown] at hout
    rcases infix_bullets hm.bullet_not_mem hn hout with hleft | hright
    · have hone := hleft.length_le
      have hsix := hm.six_le
      have htake : (front.take 1).length ≤ 1 := List.length_take_le 1 front
      omega
    · rcases List.infix_cons_iff.mp hright with hfirst | hbehind
      · obtain ⟨rest, hrest⟩ := hfirst
        refine absurd ?_ hm.head_ne
        have hhead := congrArg List.head? hrest
        rwa [List.head?_append_of_ne_nil _ hm.ne_nil] at hhead
      · exact ⟨m, hm, hbehind⟩
  · intro hholds
    refine remains_of_holds hholds (List.IsInfix.trans ?_ hfull) ?_
    · exact (List.suffix_append (front ++ ['@']) domain).isInfix.trans (by simp)
    · exact (List.suffix_append (shownLocal front ++ ['@']) domain).isInfix.trans (by simp)

/-! ### Names -/

def lastInitial (ws : List (List Char)) : Char := (ws.getLastD []).headD ' '

/-- What a short name shows of a text: its first word, and with it a number that ends with the
initial. -/
def NameShows (al : Python.Alphabet) (t : List Char) : Prop :=
  match Python.words (Python.stripList t) with
  | [] => False
  | [p] => Holds al p
  | p :: ws => Holds al p ∨ ∃ s, s <:+ p ∧ IsNumber al (s ++ [' ', lastInitial ws]) ∧
      s ++ [' ', lastInitial ws] <:+: t

/-- A piece that does not end in the last character lies before it. -/
lemma infix_of_last_ne {c : Char} (hc : m.getLast? ≠ some c) (hm : m ≠ [])
    (h : m <:+: t ++ [c]) : m <:+: t := by
  rcases List.infix_concat_iff.mp h with hsuffix | hinfix
  · obtain ⟨front, hfront⟩ := hsuffix
    refine absurd ?_ hc
    have hlast := congrArg List.getLast? hfront
    rwa [List.getLast?_append_of_ne_nil _ hm, List.getLast?_append_cons] at hlast
  · exact hinfix

lemma IsNumber.getLast_ne (h : IsNumber al m) {c : Char} (hc : al.isDecimal c = false) :
    m.getLast? ≠ some c := by
  intro hlast
  obtain ⟨d, hd, hdecimal⟩ := h.ends
  rw [Option.mem_def, hlast] at hd
  cases hd
  rw [hc] at hdecimal
  exact Bool.false_ne_true hdecimal

/-- Of a name remains what its first word holds, and a number that goes on to the initial. -/
lemma remains_nameWords_iff {out : List Char} (hat : '@' ∉ full)
    (hout : nameWords (Python.stripList full) = .ok out) :
    Remains al full out ↔ NameShows al full := by
  have hwhole : ∀ {p ws}, Python.words (Python.stripList full) = p :: ws → p <:+: full :=
    fun hwords => (Python.words_head_infix hwords).trans (Python.stripList_infix full)
  rw [nameWords] at hout
  rw [NameShows]
  split at hout
  · cases hout
  · rename_i p hwords
    cases hout
    rw [hwords]
    exact ⟨holds_of_remains, fun h => remains_of_holds h (hwhole hwords) (List.infix_refl _)⟩
  · rename_i p q ps hwords
    cases hout
    rw [hwords]
    dsimp only
    rw [show ((q :: ps).getLastD []).headD ' ' = lastInitial (q :: ps) from rfl]
    generalize lastInitial (q :: ps) = c
    have hspace : al.isDecimal ' ' = false := not_isDecimal (al.isDigit_space ' ' (by decide))
    have hpoint : al.isDecimal '.' = false :=
      not_isDecimal (al.isDigit_punctuation '.' (by decide))
    constructor
    · rintro ⟨m, hm, hfull, hshown⟩
      have hnumber : IsNumber al m :=
        hm.resolve_right fun hmail => hat (hfull.mem hmail.at_mem)
      have hten := hnumber.ten_le
      -- the point ends no number
      have hshort : m <:+: p ++ [' ', c] := by
        refine infix_of_last_ne (hnumber.getLast_ne hpoint) hm.ne_nil ?_
        rwa [List.append_assoc]
      rw [show p ++ [' ', c] = (p ++ [' ']) ++ [c] by simp, List.infix_concat_iff] at hshort
      rcases hshort with hsuffix | hinfix
      · obtain ⟨s, hs, rfl⟩ : ∃ s, s <:+ p ∧ m = s ++ [' ', c] := by
          obtain ⟨front, hfront⟩ := hsuffix
          have hends : m = m.take (m.length - 2) ++ [' ', c] := by
            have hdrop := congrArg (List.drop (front.length + (m.length - 2))) hfront
            have hlen := congrArg List.length hfront
            simp only [List.length_append, List.length_cons, List.length_nil] at hlen
            rw [List.drop_length_add_append, List.append_assoc,
              show front.length + (m.length - 2) = p.length by omega, List.drop_left] at hdrop
            rw [← List.singleton_append, ← hdrop, List.take_append_drop]
          refine ⟨m.take (m.length - 2), ⟨front, ?_⟩, hends⟩
          rw [hends, List.append_assoc p, ← List.append_assoc front] at hfront
          exact List.append_cancel_right hfront
        exact .inr ⟨s, hs, hnumber, hfull⟩
      · refine .inl ⟨m, hm, infix_of_last_ne (hnumber.getLast_ne hspace) hm.ne_nil hinfix⟩
    · rintro (hholds | ⟨s, hs, hnumber, hinfix⟩)
      · exact remains_of_holds hholds (hwhole hwords) List.infix_append_left
      · refine ⟨_, .inl hnumber, hinfix, ?_⟩
        obtain ⟨front, rfl⟩ := hs
        exact ⟨front, ['.'], by simp⟩

/-- When nothing of a contact label or a short name remains. -/
def CaughtContact (al : Python.Alphabet) (t : List Char) : Prop :=
  if '@' ∈ t then ¬ Holds al (behindAt (Python.stripList t))
  else allDigits al (digitsOf (Python.stripList t)) = true ∨ ¬ NameShows al t

lemma not_remains_contactText_iff {out : List Char}
    (hout : contactText al (Python.stripList t) = .ok out) :
    ¬ Remains al t out ↔ CaughtContact al t := by
  have hsub := Python.stripList_infix t
  by_cases hat : '@' ∈ t
  · have hat' : '@' ∈ Python.stripList t := Python.mem_stripList hat (by decide)
    rw [contactText_of_mail hat'] at hout
    cases hout
    rw [CaughtContact, if_pos hat, remains_emailText_iff hsub]
  · have hat' : '@' ∉ Python.stripList t := fun h => hat (hsub.mem h)
    rw [CaughtContact, if_neg hat]
    by_cases hne : Python.stripList t = []
    · rw [hne] at hout
      cases hout
      refine iff_of_true (not_remains_of_short (by decide)) (.inr ?_)
      rw [NameShows, hne]
      exact id
    rw [contactText_of_not_mail hat' hne] at hout
    split at hout
    · rename_i hdigits
      cases hout
      exact iff_of_true (not_remains_phoneText hat') (.inl hdigits)
    · rename_i hdigits
      rw [or_iff_right hdigits, remains_nameWords_iff hat hout]

/-! ### Identifiers and handles -/

/-- When nothing of an identifier remains. -/
def CaughtIdentifier (al : Python.Alphabet) (t : List Char) : Prop :=
  if '@' ∈ t then ¬ Holds al (behindAt t)
  else t.head? = some '+' ∨ allDigits al (t.filter (· ≠ '-')) = true ∨ ¬ Holds al t

lemma not_remains_identifierText_iff :
    ¬ Remains al t (identifierText al t) ↔ CaughtIdentifier al t := by
  rw [identifierText, CaughtIdentifier]
  by_cases hat : '@' ∈ t
  · rw [if_pos hat, if_pos hat, remains_emailText_iff (List.infix_refl t)]
  rw [if_neg hat, if_neg hat]
  by_cases hnumber : t.head? = some '+' ∨ allDigits al (t.filter (· ≠ '-')) = true
  · rw [if_pos (by rw [Bool.or_eq_true, decide_eq_true_eq]; exact hnumber), ← or_assoc]
    exact iff_of_true (not_remains_phoneText hat) (.inl hnumber)
  · rw [if_neg (by rw [Bool.or_eq_true, decide_eq_true_eq]; exact hnumber), ← or_assoc,
      or_iff_right hnumber]
    exact not_congr ⟨holds_of_remains, fun h =>
      remains_of_holds h (List.infix_refl t) (List.infix_refl t)⟩

/-- A handle without an `@` is masked like an account number. -/
lemma remains_upiText_iff : Remains al t (upiText t) ↔ Holds al (behindAt t) := by
  rw [upiText]
  by_cases hat : '@' ∈ t
  · rw [if_pos hat, remains_emailText_iff (List.infix_refl t)]
  rw [if_neg hat, ← remains_emailText_iff (List.infix_refl t), emailText_of_not_mem hat]
  refine iff_of_false ?_ (not_remains_of_short (by decide))
  rw [last4Text]
  by_cases hlen : t.length ≤ 4
  · rw [if_pos hlen]
    exact not_remains_of_short (by decide)
  · rw [if_neg hlen]
    rintro ⟨m, hm, -, hout⟩
    rcases infix_bullets (l := []) hm.bullet_not_mem (show 0 < t.length - 4 by omega) hout with
      hleft | hright
    · exact hm.ne_nil (List.infix_nil.mp hleft)
    · have hfour := hright.length_le
      have hsix := hm.six_le
      rw [length_lastFour] at hfour
      omega

end Left

/-! ## Places -/

/-- A value that is no container, with the nearest key above it. -/
structure Place where
  key : String
  /-- it stands directly under the key, not in a list -/
  direct : Bool
  value : Json

/-- A dict of who made or checked a row. -/
def attributed (key : String) : Json → Bool
  | .obj _ => key ∈ operatorIdentityKeys
  | _ => false

mutual

/-- The places of a payload, outside of staff attributions. -/
def places (key : Option String) (direct : Bool) : Json → List Place
  | .arr vs => placesOfItems key vs
  | .obj fs => placesOfFields fs
  | v =>
      match key with
      | some key => [⟨key, direct, v⟩]
      | none => []

def placesOfItems (key : Option String) : List Json → List Place
  | [] => []
  | v :: vs => places key false v ++ placesOfItems key vs

def placesOfFields : List (String × Json) → List Place
  | [] => []
  | (key, v) :: fs =>
      (if attributed key v then [] else places (some key) true v) ++ placesOfFields fs

end

/-- What the walk does at a place. -/
structure MaskedPlace (rd : Reader) (policy : Policy) (p q : Place) : Prop where
  key : q.key = p.key
  value : if p.direct then maskLeaf rd policy p.key p.value = .ok q.value else q.value = p.value

section Walk

variable {rd : Reader} {policy : Policy} {v w : Json}

lemma places_leaf (h : IsLeaf v) (key : String) (direct : Bool) :
    places (some key) direct v = [⟨key, direct, v⟩] := by
  cases v with
  | arr vs => exact absurd h id
  | obj fs => exact absurd h id
  | _ => rfl

lemma attributed_leaf (h : IsLeaf v) (key : String) : attributed key v = false := by
  cases v with
  | obj fs => exact absurd h id
  | _ => rfl

/-- The walk leaves a value that is no container where it finds it. -/
lemma masked_still {key : Option String} (h : IsLeaf v) (hw : maskPayload rd policy v = .ok w) :
    List.Forall₂ (MaskedPlace rd policy) (places key false v) (places key false w) := by
  have hsame : maskPayload rd policy v = .ok v := by
    cases v with
    | arr vs => exact absurd h id
    | obj fs => exact absurd h id
    | _ => rfl
  rw [hsame] at hw
  cases hw
  cases key with
  | some key =>
    rw [places_leaf h]
    exact .cons ⟨rfl, rfl⟩ .nil
  | none =>
    have hnone : places none false v = [] := by
      cases v with
      | arr vs => exact absurd h id
      | obj fs => exact absurd h id
      | _ => rfl
    rw [hnone]
    exact .nil

lemma masked_field {key : String}
    (hv : ∀ w, maskPayload rd policy v = .ok w → List.Forall₂ (MaskedPlace rd policy)
      (places (some key) false v) (places (some key) false w))
    (hw : maskValue rd policy key v = .ok w) :
    List.Forall₂ (MaskedPlace rd policy)
      (if attributed key v then [] else places (some key) true v)
      (if attributed key w then [] else places (some key) true w) := by
  have hleaf : IsLeaf v → List.Forall₂ (MaskedPlace rd policy)
      (if attributed key v then [] else places (some key) true v)
      (if attributed key w then [] else places (some key) true w) := by
    intro h
    rw [maskValue_leaf h] at hw
    have hleaf := isLeaf_of_maskLeaf h hw
    rw [attributed_leaf h, attributed_leaf hleaf, if_neg Bool.false_ne_true,
      if_neg Bool.false_ne_true, places_leaf h, places_leaf hleaf]
    exact .cons ⟨rfl, hw⟩ .nil
  cases v with
  | obj gs =>
    rw [maskValue] at hw
    by_cases hkey : key ∈ operatorIdentityKeys
    · rw [if_pos hkey] at hw
      cases hw
      have hattributed : attributed key (.obj gs) = true := decide_eq_true hkey
      rw [hattributed, if_pos rfl]
      exact .nil
    · rw [if_neg hkey] at hw
      have hsub := hv w hw
      rw [maskPayload] at hw
      obtain ⟨hs, -, hobj⟩ := Fallible.bind_eq_ok.mp hw
      cases hobj
      have hfree : ∀ fs, attributed key (.obj fs) = false := fun _ => decide_eq_false hkey
      rw [hfree, hfree, if_neg Bool.false_ne_true, if_neg Bool.false_ne_true]
      exact hsub
  | arr vs =>
    have hwalk : maskPayload rd policy (.arr vs) = .ok w := hw
    have hsub := hv w hwalk
    rw [maskPayload] at hwalk
    obtain ⟨ws, -, harr⟩ := Fallible.bind_eq_ok.mp hwalk
    cases harr
    exact hsub
  | _ => exact hleaf trivial

mutual

lemma masked_payload (rd : Reader) (policy : Policy) : ∀ (v : Json) (key : Option String) (w : Json),
    maskPayload rd policy v = .ok w →
      List.Forall₂ (MaskedPlace rd policy) (places key false v) (places key false w)
  | .arr vs, key, w, hw => by
    rw [maskPayload] at hw
    obtain ⟨ws, hws, harr⟩ := Fallible.bind_eq_ok.mp hw
    cases harr
    exact masked_items rd policy vs key ws hws
  | .obj fs, key, w, hw => by
    rw [maskPayload] at hw
    obtain ⟨gs, hgs, hobj⟩ := Fallible.bind_eq_ok.mp hw
    cases hobj
    exact masked_fields rd policy fs gs hgs
  | .null, key, w, hw => masked_still trivial hw
  | .bool _, key, w, hw => masked_still trivial hw
  | .int _, key, w, hw => masked_still trivial hw
  | .float _, key, w, hw => masked_still trivial hw
  | .str _, key, w, hw => masked_still trivial hw

lemma masked_items (rd : Reader) (policy : Policy) :
    ∀ (vs : List Json) (key : Option String) (ws : List Json),
      maskItems rd policy vs = .ok ws →
        List.Forall₂ (MaskedPlace rd policy) (placesOfItems key vs) (placesOfItems key ws)
  | [], key, ws, hws => by
    cases hws
    exact .nil
  | v :: vs, key, ws, hws => by
    obtain ⟨w, hw, hws⟩ := Fallible.bind_eq_ok.mp hws
    obtain ⟨us, hus, heq⟩ := Fallible.bind_eq_ok.mp hws
    cases heq
    exact List.rel_append (masked_payload rd policy v key w hw) (masked_items rd policy vs key us hus)

lemma masked_fields (rd : Reader) (policy : Policy) :
    ∀ (fs gs : List (String × Json)), maskFields rd policy fs = .ok gs →
      List.Forall₂ (MaskedPlace rd policy) (placesOfFields fs) (placesOfFields gs)
  | [], gs, hgs => by
    cases hgs
    exact .nil
  | (key, v) :: fs, gs, hgs => by
    rw [maskFields_cons] at hgs
    obtain ⟨f, hf, hgs⟩ := Fallible.bind_eq_ok.mp hgs
    obtain ⟨us, hus, heq⟩ := Fallible.bind_eq_ok.mp hgs
    cases heq
    obtain ⟨w, hw, heq⟩ := Fallible.bind_eq_ok.mp hf
    cases heq
    exact List.rel_append (masked_field (masked_payload rd policy v (some key)) hw)
      (masked_fields rd policy fs us hus)

end

end Walk

/-! ## What is hidden -/

/-- The kinds that hide a phone number and an address of mail. -/
def hiddenKinds (policy : Policy) : List Kind :=
  [.phone, .email, .identifier, .contact, .upi] ++ if policy.fullNames then [] else [.name]

/-- Nothing personal of what stood under a key of these kinds is in full in a text of the masked
payload. -/
def Conceals (rd : Reader) (policy : Policy) (v w : Json) : Prop :=
  List.Forall₂ (fun p q => ∀ kind ∈ kindOf p.key, kind ∈ hiddenKinds policy → ∀ s,
    q.value = .str s → ¬ Remains rd.alphabet (textOf rd p.value) s.toList)
    (places none false v) (places none false w)

/-- When the masker of a kind leaves nothing personal of a text. -/
def CaughtText (al : Python.Alphabet) (t : List Char) : Kind → Prop
  | .phone => ¬ (t.head? = some '+' ∧ t.length = 7 ∧ ∃ m, IsMail m ∧ m <:+: t)
  | .email => ¬ Holds al (behindAt t)
  | .upi => ¬ Holds al (behindAt t)
  | .identifier => CaughtIdentifier al t
  | .contact => CaughtContact al t
  | .name => CaughtContact al t
  | _ => True

/-- When nothing personal of a place is left by the mask of its kind: directly under its key a text
is masked, and a name only if it is a text; in a list nothing is. -/
def Caught (rd : Reader) (p : Place) (kind : Kind) : Prop :=
  if p.direct then
    Python.truthy p.value = true → (kind = .name → ∃ s, p.value = .str s) →
      CaughtText rd.alphabet (textOf rd p.value) kind
  else ∀ s, p.value = .str s → ¬ Holds rd.alphabet s.toList

section Hidden

variable {rd : Reader} {policy : Policy} {v w : Json}

lemma hidden_onText_iff {f : List Char → Except Raised (List Char)} {caught : Prop}
    (hw : onText rd f v = .ok w)
    (hf : ∀ out, f (textOf rd v) = .ok out → (¬ Remains rd.alphabet (textOf rd v) out ↔ caught)) :
    (∀ s, w = .str s → ¬ Remains rd.alphabet (textOf rd v) s.toList) ↔
      (Python.truthy v = true → caught) := by
  cases htruthy : Python.truthy v with
  | false =>
    rw [onText_of_falsy htruthy] at hw
    cases hw
    refine iff_of_true ?_ fun h => by cases h
    -- the only text that is false is the empty one
    rintro s rfl
    have hempty : s = "" := by simpa [Python.truthy] using htruthy
    subst hempty
    exact not_remains_of_short (by decide)
  | true =>
    rw [onText_of_truthy htruthy] at hw
    obtain ⟨out, hout, rfl⟩ := Fallible.map_eq_ok.mp hw
    rw [forall_prop_of_true rfl, ← hf out hout]
    constructor
    · intro h
      have hnot := h _ rfl
      rwa [String.toList_ofList] at hnot
    · rintro h s hs
      cases hs
      rwa [String.toList_ofList]

/-- A short name: a contact in its place is masked as one, the empty text raises. -/
lemma hidden_nameText {t out : List Char} (h : nameText rd.alphabet (Python.stripList t) = .ok out) :
    ¬ Remains rd.alphabet t out ↔ CaughtContact rd.alphabet t := by
  rw [nameText_eq] at h
  split at h
  · cases h
  · exact not_remains_contactText_iff h

lemma hidden_kind_iff {kind : Kind} (hkind : kind ∈ hiddenKinds policy)
    (hw : maskKind rd policy kind v = .ok w) :
    (∀ s, w = .str s → ¬ Remains rd.alphabet (textOf rd v) s.toList) ↔
      (Python.truthy v = true → (kind = .name → ∃ s, v = .str s) →
        CaughtText rd.alphabet (textOf rd v) kind) := by
  have hfree : ∀ {caught : Prop}, kind ≠ .name →
      ((Python.truthy v = true → (kind = .name → ∃ s, v = .str s) → caught) ↔
        (Python.truthy v = true → caught)) := by
    intro caught hne
    exact imp_congr_right fun _ => forall_prop_of_true fun h => absurd h hne
  cases kind with
  | phone =>
    rw [maskKind, maskPhone] at hw
    rw [hfree (by decide)]
    refine hidden_onText_iff hw ?_
    rintro out ⟨⟩
    exact not_congr remains_phoneText_iff
  | email =>
    rw [maskKind, maskEmail] at hw
    rw [hfree (by decide)]
    refine hidden_onText_iff hw ?_
    rintro out ⟨⟩
    exact not_congr (remains_emailText_iff (List.infix_refl _))
  | identifier =>
    rw [maskKind, maskIdentifier] at hw
    rw [hfree (by decide)]
    refine hidden_onText_iff hw ?_
    rintro out ⟨⟩
    exact not_remains_identifierText_iff
  | contact =>
    rw [maskKind, maskContact] at hw
    rw [hfree (by decide)]
    exact hidden_onText_iff hw fun out hout => not_remains_contactText_iff hout
  | upi =>
    rw [maskKind, maskUpi] at hw
    rw [hfree (by decide)]
    refine hidden_onText_iff hw ?_
    rintro out ⟨⟩
    exact not_congr remains_upiText_iff
  | name =>
    have hshort : policy.fullNames = false := by
      cases hfull : policy.fullNames with
      | false => rfl
      | true => simp [hiddenKinds, hfull] at hkind
    by_cases htext : ∃ s, v = .str s
    · rw [forall_prop_of_true (fun _ => htext)]
      obtain ⟨s, rfl⟩ := htext
      rw [maskKind, maskNameFor, hshort, Bool.not_false, if_pos rfl, maskName] at hw
      exact hidden_onText_iff hw fun out hout => hidden_nameText hout
    · have hsame : w = v := by
        rw [maskKind, maskNameFor.eq_def] at hw
        split at hw
        · exact absurd ⟨_, rfl⟩ htext
        · exact (Except.ok.inj hw).symm
      subst hsame
      exact iff_of_true (fun s hs => absurd ⟨s, hs⟩ htext) fun _ h => absurd (h rfl) htext
  | _ => simp [hiddenKinds] at hkind

lemma hidden_place_iff {p q : Place} (h : MaskedPlace rd policy p q) :
    (∀ kind ∈ kindOf p.key, kind ∈ hiddenKinds policy → ∀ s, q.value = .str s →
        ¬ Remains rd.alphabet (textOf rd p.value) s.toList) ↔
      ∀ kind ∈ kindOf p.key, kind ∈ hiddenKinds policy → Caught rd p kind := by
  refine forall₂_congr fun kind hkey => imp_congr_right fun hkind => ?_
  have hvalue := h.value
  rw [Caught]
  split at hvalue
  · rename_i hdirect
    rw [if_pos hdirect]
    refine hidden_kind_iff hkind ?_
    rw [maskLeaf, Option.mem_def.mp hkey] at hvalue
    exact hvalue
  · rename_i hdirect
    rw [if_neg hdirect, hvalue]
    refine forall₂_congr fun s hs => not_congr ?_
    have htext : textOf rd p.value = s.toList := by
      rw [hs]
      rfl
    rw [htext]
    exact ⟨holds_of_remains, fun hholds =>
      remains_of_holds hholds (List.infix_refl _) (List.infix_refl _)⟩

/-- A masked payload shows no phone number and no address of mail in full exactly when each of its
places is caught. -/
theorem conceals_iff (hw : maskPayload rd policy v = .ok w) : Conceals rd policy v w ↔
    ∀ p ∈ places none false v, ∀ kind ∈ kindOf p.key, kind ∈ hiddenKinds policy →
      Caught rd p kind := by
  have hplaces := masked_payload rd policy v none w hw
  rw [Conceals]
  generalize places none false v = ps at hplaces ⊢
  generalize places none false w = qs at hplaces ⊢
  induction hplaces with
  | nil => exact iff_of_true .nil fun p hp => absurd hp List.not_mem_nil
  | cons hplace _ ih =>
    rw [List.forall₂_cons, List.forall_mem_cons]
    exact and_congr (hidden_place_iff hplace) ih

end Hidden

/-! ## A number under its key and a number in a list -/

/-- A phone number under its key keeps its country code and its last four digits. -/
theorem conceals_number :
    maskPayload exampleReader strict (.obj [("phone", .str "+919876543210")]) =
        .ok (.obj [("phone", .str "+91••••••3210")]) ∧
      Conceals exampleReader strict (.obj [("phone", .str "+919876543210")])
        (.obj [("phone", .str "+91••••••3210")]) := by
  have hmasked : maskPayload exampleReader strict (.obj [("phone", .str "+919876543210")]) =
      .ok (.obj [("phone", .str "+91••••••3210")]) := rfl
  refine ⟨hmasked, (conceals_iff hmasked).mpr ?_⟩
  intro p hp kind hkey _
  rw [show places none false (.obj [("phone", .str "+919876543210")]) =
    [⟨"phone", true, .str "+919876543210"⟩] from rfl, List.mem_singleton] at hp
  subst hp
  have hphone : kind = .phone := by
    have hkind : kindOf "phone" = some .phone := by decide
    rw [hkind] at hkey
    cases hkey
    rfl
  subst hphone
  rw [Caught, if_pos rfl]
  rintro - - ⟨-, hlen, -⟩
  revert hlen
  decide

lemma isNumber_example : IsNumber exampleAlphabet "9876543210".toList where
  begins := ⟨'9', rfl, rfl⟩
  ends := ⟨'0', rfl, rfl⟩
  chars := by
    intro c hc
    have hall : ("9876543210".toList.all Char.isDigit) = true := by decide
    exact .inl (List.all_eq_true.mp hall c hc)
  digits := by decide

/-- A phone number in a list is shown as it is. -/
theorem listed_number_is_shown :
    maskPayload exampleReader strict (.obj [("phone", .arr [.str "+919876543210"])]) =
        .ok (.obj [("phone", .arr [.str "+919876543210"])]) ∧
      ¬ Conceals exampleReader strict (.obj [("phone", .arr [.str "+919876543210"])])
        (.obj [("phone", .arr [.str "+919876543210"])]) := by
  refine ⟨rfl, fun hconceals => ?_⟩
  have hplaces : places none false (.obj [("phone", .arr [.str "+919876543210"])]) =
      [⟨"phone", false, .str "+919876543210"⟩] := rfl
  rw [Conceals, hplaces, List.forall₂_cons] at hconceals
  refine hconceals.1 .phone (by decide) (by decide) _ rfl ?_
  have hshown : "9876543210".toList <:+: "+919876543210".toList := ⟨"+91".toList, [], by decide⟩
  exact ⟨_, .inl isNumber_example, hshown, hshown⟩

end SaaradhiGo.Masking
