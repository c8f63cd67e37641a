/-
Phone numbers in one spelling.

Whatever a person types is read as a number of one of the countries that are served, or refused.
The number that comes out is a plus and digits that begin with the calling code, and it is read as
itself from then on, in whatever country it is read.
-/
import SaaradhiGo.Lib.Python

namespace SaaradhiGo.AuthUser

open Python

/-! ## The registry -/

/-- What a country says of its phone numbers. -/
structure Country where
  code : String
  callingCode : String
  nationalNumberLengths : List ℕ
deriving DecidableEq

namespace Country

variable (c : Country)

def e164Length : List ℕ := c.nationalNumberLengths.map (c.callingCode.length + ·)

def HasE164 (digits : List Char) : Prop :=
  c.callingCode.toList <+: digits ∧ digits.length ∈ c.e164Length

instance (digits : List Char) : Decidable (c.HasE164 digits) :=
  inferInstanceAs (Decidable (_ ∧ _))

end Country

def india : Country := ⟨"IN", "91", [10]⟩

def unitedStates : Country := ⟨"US", "1", [10]⟩

def countries : List Country := [india, unitedStates]

/-- The country a bare number is read in. -/
inductive DefaultCountry where
  | unnamed
  | unknown
  | known (c : Country)
deriving DecidableEq

namespace DefaultCountry

/-- What `find_country` has for it. -/
def country? : DefaultCountry → Option Country
  | unnamed => none
  | unknown => none
  | known c => some c

def ordered (d : DefaultCountry) (registry : List Country) : List Country :=
  match d with
  | known c => c :: registry.filter (·.code ≠ c.code)
  | unnamed | unknown => registry

end DefaultCountry

/-! ## Reading a number -/

section Normalize

variable (isDigit : Char → Bool) (registry : List Country)

/-- A number with its plus and calling code. -/
def e164 (digits : List Char) : String := String.ofList ('+' :: digits)

def withCallingCode (c : Country) (digits : List Char) : String :=
  e164 (c.callingCode.toList ++ digits)

def normalizePhone (raw : String) (d : DefaultCountry) : Option String :=
  let s := stripList raw.toList
  let digits := s.filter isDigit
  if digits = [] then none
  else if d = .unknown then none
  else if s.head? = some '+' then
    if registry.any fun c => c.HasE164 digits then some (e164 digits) else none
  else
    match d.country?.filter fun c => digits.length ∈ c.nationalNumberLengths with
    | some c => some (withCallingCode c digits)
    | none =>
        if (d.ordered registry).any fun c => c.HasE164 digits then some (e164 digits)
        else
          match (d.ordered registry).filter fun c => digits.length ∈ c.nationalNumberLengths with
          | [] => none
          | c :: rest =>
              if d ≠ .unnamed || rest = [] then some (withCallingCode c digits) else none

end Normalize

/-! ## Numbers in their spelling -/

/-- What the code relies on of `isdigit`. -/
structure DigitLaws (isDigit : Char → Bool) (registry : List Country) : Prop where
  plus : isDigit '+' = false
  space : ∀ c, isDigit c = true → isSpace c = false
  callingCode : ∀ c ∈ registry, ∀ x ∈ c.callingCode.toList, isDigit x = true

section Spelling

variable {isDigit : Char → Bool} {registry : List Country} {raw : String} {d d' : DefaultCountry}
  {digits : List Char}

/-- The default country is one of the registry. -/
def DefaultCountry.Served (d : DefaultCountry) (registry : List Country) : Prop :=
  ∀ c, d = .known c → c ∈ registry

instance : Decidable (d.Served registry) :=
  match d with
  | .known c => decidable_of_iff (c ∈ registry)
      ⟨fun h _ he => by cases he; exact h, fun h => h c rfl⟩
  | .unnamed => .isTrue fun _ he => by cases he
  | .unknown => .isTrue fun _ he => by cases he

lemma mem_registry_of_ordered (hd : d.Served registry) {c : Country}
    (hc : c ∈ d.ordered registry) : c ∈ registry := by
  cases d with
  | unnamed => exact hc
  | unknown => exact hc
  | known c' =>
      obtain rfl | hc := List.mem_cons.mp hc
      · exact hd _ rfl
      · exact List.mem_of_mem_filter hc

lemma hasE164_append {c : Country} (h : digits.length ∈ c.nationalNumberLengths) :
    c.HasE164 (c.callingCode.toList ++ digits) := by
  refine ⟨List.prefix_append _ _, ?_⟩
  rw [List.length_append, String.length_toList, Country.e164Length]
  exact List.mem_map_of_mem h

lemma digits_of_normalizePhone (hl : DigitLaws isDigit registry) (hd : d.Served registry)
    {number : String} (h : normalizePhone isDigit registry raw d = some number) :
    ∃ ds, number = e164 ds ∧ ds ≠ [] ∧ (∀ x ∈ ds, isDigit x = true) ∧
      ∃ c ∈ registry, c.HasE164 ds := by
  rw [normalizePhone] at h
  have hall : ∀ x ∈ (stripList raw.toList).filter isDigit, isDigit x = true :=
    fun x hx => (List.mem_filter.mp hx).2
  generalize hs : stripList raw.toList = s at h hall
  generalize hdigits : s.filter isDigit = ds at h hall
  have hplain : ∀ l : List Country, (∀ c ∈ l, c ∈ registry) →
      (l.any fun c => c.HasE164 ds) = true → ∃ c ∈ registry, c.HasE164 ds := by
    intro l hsub hany
    obtain ⟨c, hc, hhas⟩ := List.any_eq_true.mp hany
    exact ⟨c, hsub c hc, of_decide_eq_true hhas⟩
  by_cases hne : ds = []
  · rw [if_pos hne] at h
    cases h
  rw [if_neg hne] at h
  -- with the calling code of a country of the registry before them, they are digits still
  have hwith : ∀ c ∈ registry, ds.length ∈ c.nationalNumberLengths →
      ∃ ds', withCallingCode c ds = e164 ds' ∧ ds' ≠ [] ∧ (∀ x ∈ ds', isDigit x = true) ∧
        ∃ c ∈ registry, c.HasE164 ds' := by
    intro c hc hlen
    refine ⟨_, rfl, ?_, fun x hx => ?_, c, hc, hasE164_append hlen⟩
    · exact fun hnil => hne (List.append_eq_nil_iff.mp hnil).2
    obtain hx | hx := List.mem_append.mp hx
    · exact hl.callingCode c hc x hx
    · exact hall x hx
  split at h
  · cases h
  split at h
  · split at h
    · next hany =>
      cases h
      exact ⟨ds, rfl, hne, hall, hplain registry (fun _ hc => hc) hany⟩
    · cases h
  · split at h
    · next c hc =>
      cases h
      obtain ⟨hc, hlen⟩ := Option.filter_eq_some_iff.mp hc
      have hknown : d = .known c := by
        cases d with
        | unnamed => cases hc
        | unknown => cases hc
        | known c' => cases hc; rfl
      exact hwith c (hd c hknown) (of_decide_eq_true hlen)
    · split at h
      · next hany =>
        cases h
        exact ⟨ds, rfl, hne, hall, hplain _ (fun _ hc => mem_registry_of_ordered hd hc) hany⟩
      · split at h
        · cases h
        · next c rest hfilter =>
          split at h
          · cases h
            have hc : c ∈ (d.ordered registry).filter fun c =>
                ds.length ∈ c.nationalNumberLengths := by
              rw [hfilter]
              exact List.mem_cons_self
            obtain ⟨hc, hlen⟩ := List.mem_filter.mp hc
            exact hwith c (mem_registry_of_ordered hd hc) (of_decide_eq_true hlen)
          · cases h

/-- A number in its spelling is read as it stands. -/
lemma normalizePhone_e164 (hl : DigitLaws isDigit registry) (hd : d ≠ .unknown)
    (hall : ∀ x ∈ digits, isDigit x = true) (hne : digits ≠ [])
    (hhas : ∃ c ∈ registry, c.HasE164 digits) :
    normalizePhone isDigit registry (e164 digits) d = some (e164 digits) := by
  have htrimmed : stripList (e164 digits).toList = '+' :: digits := by
    rw [e164, String.toList_ofList]
    refine Trimmed.stripList_eq ⟨fun c hc => ?_, fun c hc => ?_⟩
    · rw [List.head?_cons, Option.mem_def, Option.some.injEq] at hc
      rw [← hc]
      decide
    · rw [Option.mem_def, List.getLast?_cons_of_ne_nil hne] at hc
      exact hl.space c (hall c (List.mem_of_getLast? hc))
  have hfilter : ('+' :: digits).filter isDigit = digits := by
    rw [List.filter_cons_of_neg (by simp [hl.plus]), List.filter_eq_self]
    exact hall
  have hany : (registry.any fun c => c.HasE164 digits) = true := by
    obtain ⟨c, hc, hhas⟩ := hhas
    exact List.any_eq_true.mpr ⟨c, hc, decide_eq_true hhas⟩
  rw [normalizePhone]
  simp only [htrimmed, hfilter, if_neg hne, if_neg hd, List.head?_cons, if_true, hany]

/-- A number that was read once is a plus and the digits of a number of a country that is served,
with its calling code, and it is read as itself in every country. -/
theorem normalized_number_stays (hl : DigitLaws isDigit registry) (hd : d.Served registry)
    (hd' : d' ≠ .unknown) {number : String}
    (h : normalizePhone isDigit registry raw d = some number) :
    (∃ ds, number = e164 ds ∧ (∀ x ∈ ds, isDigit x = true) ∧ ∃ c ∈ registry, c.HasE164 ds) ∧
      normalizePhone isDigit registry number d' = some number := by
  obtain ⟨ds, rfl, hne, hall, hhas⟩ := digits_of_normalizePhone hl hd h
  exact ⟨⟨ds, rfl, hall, hhas⟩, normalizePhone_e164 hl hd' hall hne hhas⟩

lemma digitLaws_ascii : DigitLaws Char.isDigit countries where
  plus := by decide
  space := by
    intro c hc
    rw [Char.isDigit, Bool.and_eq_true, decide_eq_true_eq, decide_eq_true_eq] at hc
    have hlow : 48 ≤ c.toNat := UInt32.le_iff_toNat_le.mp hc.1
    have hhigh : c.toNat ≤ 57 := UInt32.le_iff_toNat_le.mp hc.2
    rw [isSpace, decide_eq_false_iff_not]
    intro hmem
    simp only [List.mem_cons, List.not_mem_nil, or_false] at hmem
    omega
  callingCode := by
    intro c hc x hx
    simp only [countries, List.mem_cons, List.not_mem_nil, or_false] at hc
    obtain rfl | rfl := hc
    · have hcode : india.callingCode.toList = ['9', '1'] := by decide
      simp only [hcode, List.mem_cons, List.not_mem_nil, or_false] at hx
      obtain rfl | rfl := hx <;> rfl
    · have hcode : unitedStates.callingCode.toList = ['1'] := by decide
      rw [hcode, List.mem_singleton] at hx
      rw [hx]
      rfl

/-- A number typed in India is read as itself in the United States. -/
theorem indian_number_stays :
    (∃ ds, "+919876543210" = e164 ds ∧ (∀ x ∈ ds, x.isDigit = true) ∧
      ∃ c ∈ countries, c.HasE164 ds) ∧
      normalizePhone Char.isDigit countries "+919876543210" (.known unitedStates) =
        some "+919876543210" :=
  normalized_number_stays (d := .known india) digitLaws_ascii (by decide) (by decide)
    (show normalizePhone Char.isDigit countries " 98765-43210 " (.known india) = _ by decide)

end Spelling

end SaaradhiGo.AuthUser
