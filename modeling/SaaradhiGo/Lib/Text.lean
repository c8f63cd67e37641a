/-
Texts as Python takes them apart: words, and what kind of character stands where.

The tables of the language (which characters are digits, which belong to a word) are a parameter.
The words of a text are what stands between its blanks; a text without blanks at its ends is one
word exactly when it has no blank at all.
-/
import SaaradhiGo.Lib.Python
import Mathlib.Data.List.Basic

namespace Python

/-- The character tables that texts are read by. -/
structure Alphabet where
  /-- `str.isdigit` of a character -/
  isDigit : Char → Bool
  /-- `\d` -/
  isDecimal : Char → Bool
  /-- `\w` -/
  isWord : Char → Bool
  isDigit_ascii : ∀ c, c.isDigit = true → isDigit c = true
  isDecimal_ascii : ∀ c, c.isDigit = true → isDecimal c = true
  isDigit_of_isDecimal : ∀ c, isDecimal c = true → isDigit c = true
  isWord_of_isDecimal : ∀ c, isDecimal c = true → isWord c = true
  isDigit_punctuation : ∀ c ∈ ['+', '-', '.', ',', '@', '(', ')', '•'], isDigit c = false
  isDigit_space : ∀ c, isSpace c = true → isDigit c = false

/-- `str.split()`. -/
def words (t : List Char) : List (List Char) := (t.splitOnP isSpace).filter fun w => !w.isEmpty

section Words

variable {t : List Char}

lemma words_append_cons {w rest : List Char} {c : Char} (hw : w ≠ [])
    (hnone : ∀ d ∈ w, isSpace d = false) (hc : isSpace c = true) :
    words (w ++ c :: rest) = w :: words rest := by
  rw [words, List.splitOnP_append_cons_of_forall_mem hnone c hc, List.filter_cons_of_pos]
  · rfl
  · cases w with
    | nil => exact absurd rfl hw
    | cons d w => rfl

lemma words_of_no_space (ht : t ≠ []) (hnone : ∀ c ∈ t, isSpace c = false) : words t = [t] := by
  rw [words, List.splitOnP_eq_singleton hnone, List.filter_cons_of_pos, List.filter_nil]
  cases t with
  | nil => exact absurd rfl ht
  | cons c t => rfl

/-- A blank in front changes nothing. -/
lemma words_cons_space {c : Char} (hc : isSpace c = true) : words (c :: t) = words t := by
  have h : (c :: t).splitOnP isSpace = [] :: t.splitOnP isSpace :=
    List.splitOnP_append_cons_of_forall_mem (fun d hd => absurd hd List.not_mem_nil) c hc t
  rw [words, h, List.filter_cons_of_neg (by simp)]
  rfl

/-- The first word of a text that begins with none of its blanks. -/
lemma words_cons {c : Char} (hc : isSpace c = false) :
    words (c :: t) =
      (c :: t.takeWhile fun d => !isSpace d) :: words (t.dropWhile fun d => !isSpace d) := by
  have hnone : ∀ d ∈ c :: t.takeWhile fun d => !isSpace d, isSpace d = false := by
    intro d hd
    rcases List.mem_cons.mp hd with rfl | hd
    · exact hc
    · simpa using List.mem_takeWhile_imp hd
  have hsplit : c :: t = (c :: t.takeWhile fun d => !isSpace d) ++
      t.dropWhile fun d => !isSpace d := by
    rw [List.cons_append, List.takeWhile_append_dropWhile]
  cases hrest : t.dropWhile fun d => !isSpace d with
  | nil =>
    rw [hrest, List.append_nil] at hsplit
    rw [hsplit, words_of_no_space (List.cons_ne_nil _ _) hnone]
    rfl
  | cons d rest =>
    have hd : isSpace d = true := by
      have h := List.head?_dropWhile_not (fun d => !isSpace d) t
      rw [hrest] at h
      simpa using h
    rw [hrest] at hsplit
    rw [hsplit, words_append_cons (List.cons_ne_nil _ _) hnone hd, words_cons_space hd]

/-- A word is not empty and has no blank, and its characters stand in the text. -/
lemma mem_words {w : List Char} (h : w ∈ words t) :
    w ≠ [] ∧ (∀ c ∈ w, isSpace c = false) ∧ ∀ c ∈ w, c ∈ t := by
  have hpiece : ∀ {t : List Char} {w : List Char}, w ∈ t.splitOnP isSpace →
      ∀ c ∈ w, isSpace c = false ∧ c ∈ t := by
    intro t
    induction t with
    | nil =>
      intro w hw c hc
      rw [List.splitOnP_nil, List.mem_singleton] at hw
      rw [hw] at hc
      exact absurd hc List.not_mem_nil
    | cons d t ih =>
      intro w hw c hc
      rw [List.splitOnP_cons_eq_if_modifyHead] at hw
      split at hw
      · rcases List.mem_cons.mp hw with rfl | hw
        · exact absurd hc List.not_mem_nil
        · exact (ih hw c hc).imp_right (List.mem_cons_of_mem d)
      · rename_i hd
        -- the character joins the first piece
        obtain ⟨first, others, heq⟩ := List.exists_cons_of_ne_nil
          (List.splitOnP_ne_nil isSpace t)
        rw [heq, List.modifyHead_cons] at hw
        rcases List.mem_cons.mp hw with rfl | hw
        · rcases List.mem_cons.mp hc with rfl | hc
          · exact ⟨by simpa using hd, List.mem_cons_self⟩
          · exact (ih (heq ▸ List.mem_cons_self) c hc).imp_right (List.mem_cons_of_mem d)
        · exact (ih (heq ▸ List.mem_cons_of_mem _ hw) c hc).imp_right (List.mem_cons_of_mem d)
  rw [words, List.mem_filter] at h
  refine ⟨?_, fun c hc => (hpiece h.1 c hc).1, fun c hc => (hpiece h.1 c hc).2⟩
  rintro rfl
  exact absurd h.2 (by decide)

lemma words_ne_nil {c : Char} (hc : c ∈ t) (hsolid : isSpace c = false) : words t ≠ [] := by
  induction t with
  | nil => exact absurd hc List.not_mem_nil
  | cons d t ih =>
    cases hd : isSpace d with
    | false =>
      rw [words_cons hd]
      exact List.cons_ne_nil _ _
    | true =>
      rw [words_cons_space hd]
      rcases List.mem_cons.mp hc with rfl | hc
      · rw [hsolid] at hd
        exact absurd hd Bool.false_ne_true
      · exact ih hc

lemma two_words (ht : Trimmed t) {c : Char} (hc : c ∈ t) (hspace : isSpace c = true) :
    ∃ p q ps, words t = p :: q :: ps := by
  cases t with
  | nil => exact absurd hc List.not_mem_nil
  | cons d t =>
    have hd : isSpace d = false := ht.head d rfl
    have hrest : c ∈ t.dropWhile fun d => !isSpace d := by
      rcases List.mem_cons.mp hc with rfl | hc
      · rw [hspace] at hd
        exact absurd hd.symm Bool.false_ne_true
      · rw [← List.takeWhile_append_dropWhile (p := fun d => !isSpace d) (l := t),
          List.mem_append] at hc
        refine hc.resolve_left fun h => ?_
        have hsolid := List.mem_takeWhile_imp h
        rw [hspace] at hsolid
        exact absurd hsolid Bool.false_ne_true
    -- the last character stands behind that blank
    obtain ⟨last, hlast⟩ : ∃ last, last ∈ (t.dropWhile fun d => !isSpace d).getLast? :=
      ⟨_, List.getLast?_eq_some_getLast (List.ne_nil_of_mem hrest)⟩
    have hsolid : isSpace last = false := by
      refine ht.last last ?_
      obtain ⟨front, hfront⟩ := List.dropWhile_suffix (l := t) fun d => !isSpace d
      rw [← hfront, ← List.cons_append, Option.mem_def, List.getLast?_append, hlast]
      rfl
    obtain ⟨q, ps, hwords⟩ := List.exists_cons_of_ne_nil
      (words_ne_nil (List.mem_of_getLast? hlast) hsolid)
    rw [words_cons hd, hwords]
    exact ⟨_, q, ps, rfl⟩

/-- The first word stands in the text in one piece. -/
lemma words_head_infix {p : List Char} {ws : List (List Char)} (h : words t = p :: ws) :
    p <:+: t := by
  induction t with
  | nil =>
    rw [words, List.splitOnP_nil, List.filter_cons_of_neg (by decide), List.filter_nil] at h
    cases h
  | cons d t ih =>
    cases hd : isSpace d with
    | true =>
      rw [words_cons_space hd] at h
      exact List.infix_cons (ih h)
    | false =>
      rw [words_cons hd] at h
      cases h
      have hprefix : d :: t.takeWhile (fun d => !isSpace d) <+: d :: t :=
        (List.cons_prefix_cons).mpr ⟨rfl, List.takeWhile_prefix _⟩
      exact hprefix.isInfix

end Words

/-! ## Pieces of a text -/

/-- A piece that avoids a character lies before it or behind it. -/
lemma infix_append_cons {m l r : List Char} {c : Char} (hc : c ∉ m) (h : m <:+: l ++ c :: r) :
    m <:+: l ∨ m <:+: r := by
  induction l with
  | nil =>
    rw [List.nil_append, List.infix_cons_iff] at h
    rcases h with hprefix | hinfix
    · cases m with
      | nil => exact .inl (List.nil_infix)
      | cons d m =>
        obtain ⟨rest, hrest⟩ := hprefix
        cases hrest
        exact absurd List.mem_cons_self hc
    · exact .inr hinfix
  | cons a l ih =>
    rw [List.cons_append, List.infix_cons_iff] at h
    rcases h with hprefix | hinfix
    · refine .inl ?_
      have hupto : a :: l ++ [c] <+: a :: (l ++ c :: r) := ⟨r, by simp⟩
      rcases List.prefix_or_prefix_of_prefix hprefix hupto with hm | hm
      · rcases List.prefix_concat_iff.mp hm with heq | hm
        · exact absurd (heq ▸ List.mem_concat_self) hc
        · exact hm.isInfix
      · exact absurd (hm.mem (List.mem_concat_self)) hc
    · exact (ih hinfix).imp_left List.infix_cons

lemma stripList_infix (t : List Char) : stripList t <:+: t :=
  (List.rdropWhile_prefix isSpace _).isInfix.trans (List.dropWhile_suffix isSpace).isInfix

/-- What is no blank is not stripped. -/
lemma mem_stripList {t : List Char} {c : Char} (hc : c ∈ t) (hsolid : isSpace c = false) :
    c ∈ stripList t := by
  have hkept : ∀ {l : List Char}, c ∈ l → c ∈ l.dropWhile isSpace := by
    intro l hl
    rw [← List.takeWhile_append_dropWhile (p := isSpace) (l := l), List.mem_append] at hl
    refine hl.resolve_left fun h => ?_
    rw [List.mem_takeWhile_imp h] at hsolid
    cases hsolid
  rw [stripList, List.rdropWhile, List.mem_reverse]
  exact hkept (List.mem_reverse.mpr (hkept hc))

end Python
