/-
Values that were cleaned are cleaned again without a change.

A request is cleaned when it is raised and its stored payload is cleaned once more when it is
executed.  Field by field the second pass gives what the first one gave; only the market fields
of a new zone ask again for the reason of an override, which the stored values do not hold.
-/
import SaaradhiGo.Zones.Values

namespace SaaradhiGo.Zones

open Python

/-! ## Fields -/

section Fields

variable {py : Reader} {raw : Option Json} {field v : String} {required : Bool} {maximum : ℕ}

lemma cleanText_eq_ok : cleanText py raw field required maximum = .ok v ↔
    (required = true → stripped py raw ≠ "") ∧ (stripped py raw).length ≤ maximum ∧
      v = stripped py raw := by
  rw [cleanText]
  constructor
  · intro h
    split at h
    · cases h
    · rename_i hrequired
      split at h
      · cases h
      · rename_i hlength
        cases h
        refine ⟨fun hreq hblank => hrequired ?_, by omega, rfl⟩
        rw [hreq, hblank]
        rfl
  · rintro ⟨hrequired, hlength, rfl⟩
    rw [if_neg, if_neg (by omega)]
    rw [Bool.and_eq_true, decide_eq_true_eq]
    exact fun hblank => hrequired hblank.1 hblank.2

lemma stripped_str (s : String) : stripped py (some (.str s)) = strip s := rfl

lemma strip_stripped : strip (stripped py raw) = stripped py raw := strip_strip _

lemma cleanText_again (h : cleanText py raw field required maximum = .ok v) :
    cleanText py (some (.str v)) field required maximum = .ok v := by
  obtain ⟨hrequired, hlength, rfl⟩ := cleanText_eq_ok.mp h
  have hagain : stripped py (some (.str (stripped py raw))) = stripped py raw := by
    rw [stripped_str, strip_stripped]
  exact cleanText_eq_ok.mpr ⟨by rwa [hagain], by rwa [hagain], hagain.symm⟩

lemma strip_of_cleanText (h : cleanText py raw field required maximum = .ok v) : strip v = v := by
  obtain ⟨-, -, rfl⟩ := cleanText_eq_ok.mp h
  exact strip_stripped

lemma isCode_length {code : String} (h : isCode code = true) :
    code ≠ "" ∧ code.length ≤ 64 := by
  rw [isCode] at h
  split at h
  · cases h
  · rename_i c cs hcode
    simp only [Bool.and_eq_true, decide_eq_true_eq] at h
    refine ⟨?_, ?_⟩
    · rintro rfl
      cases hcode
    · rw [← String.length_toList, hcode, List.length_cons]
      omega

lemma cleanHead_again {raw : Raw} {head : Head} (h : cleanHead py raw none = .ok head)
    {v : ZoneValues} {o : Option Json} (hcode : v.code = head.code)
    (hnode : v.geoNode = head.geoNode) (hactive : v.isActive = head.isActive) :
    cleanHead py (v.raw o) none = .ok head := by
  obtain ⟨text, htext, hrest⟩ := Fallible.bind_eq_ok.mp h
  split at hrest
  · cases hrest
  · rename_i hisCode
    obtain ⟨geoNode, hgeo, heq⟩ := Fallible.bind_eq_ok.mp hrest
    cases heq
    have hisCode' : isCode (upper py text) = true := by simpa using hisCode
    obtain ⟨hne, hlength⟩ := isCode_length hisCode'
    have hstrip : strip (upper py text) = upper py text := by
      rw [← strip_of_cleanText htext, strip_upper_strip]
    have hagain : cleanText py (some (.str (upper py text))) "code" true 64 =
        .ok (upper py text) := by
      refine cleanText_eq_ok.mpr ⟨fun _ => ?_, ?_, ?_⟩
      · rw [stripped_str, hstrip]
        exact hne
      · rw [stripped_str, hstrip]
        exact hlength
      · rw [stripped_str, hstrip]
    refine Fallible.bind_eq_ok.mpr ⟨upper py text, ?_, ?_⟩
    · rw [ZoneValues.raw, hcode]
      exact hagain
    · rw [upper_upper, if_neg hisCode]
      refine Fallible.bind_eq_ok.mpr ⟨geoNode, ?_, ?_⟩
      · rw [ZoneValues.raw, hnode]
        exact cleanText_again hgeo
      · rw [ZoneValues.raw, hactive]
        simp [isSwitchedOff]
        rfl

lemma countries_texts : ∀ c ∈ countries, strip c.code = c.code ∧ c.code ≠ "" ∧
    c.code.length ≤ 2 ∧ strip c.currency = c.currency ∧ c.currency.toList.all Char.isUpper ∧
      strip c.defaultTimezone = c.defaultTimezone ∧ strip c.distanceUnit = c.distanceUnit ∧
        c.taxMode ∈ ["inclusive", "additive"] ∧ c.currency ≠ "" ∧ c.defaultTimezone ≠ "" ∧
          c.distanceUnit ≠ "" := by
  decide +kernel

lemma mem_of_cleanCountry {c : Country} (h : cleanCountry py raw = .ok c) : c ∈ countries := by
  obtain ⟨text, -, hrest⟩ := Fallible.bind_eq_ok.mp h
  split at hrest
  · rename_i d hfind
    cases hrest
    exact List.mem_of_find?_eq_some hfind
  · cases hrest

lemma cleanCountry_again {c : Country} (h : cleanCountry py raw = .ok c) :
    cleanCountry py (some (.str c.code)) = .ok c := by
  have hmem := mem_of_cleanCountry h
  obtain ⟨text, -, hrest⟩ := Fallible.bind_eq_ok.mp h
  split at hrest
  · rename_i d hfind
    cases hrest
    obtain ⟨hstrip, hne, hlength, -⟩ := countries_texts c hmem
    have hupper : c.code = upper py text := by simpa using List.find?_some hfind
    refine Fallible.bind_eq_ok.mpr ⟨c.code, cleanText_eq_ok.mpr ⟨fun _ => ?_, ?_, ?_⟩, ?_⟩
    · rwa [stripped_str, hstrip]
    · rwa [stripped_str, hstrip]
    · rw [stripped_str, hstrip]
    · have hagain : upper py c.code = upper py text := by rw [hupper, upper_upper]
      rw [hagain, hfind]
  · cases hrest

lemma cleanZoneType_again (h : cleanZoneType py raw = .ok v) :
    cleanZoneType py (some (.str v)) = .ok v := by
  obtain ⟨text, htext, hrest⟩ := Fallible.bind_eq_ok.mp h
  split at hrest
  · rename_i hmem
    cases hrest
    exact Fallible.bind_eq_ok.mpr ⟨v, cleanText_again htext, if_pos hmem⟩
  · cases hrest

lemma cleanPriority_again {n : ℤ} (h : cleanPriority py raw = .ok n) :
    cleanPriority py (some (.int n)) = .ok n := by
  rw [cleanPriority] at h
  split at h
  · cases h
  · split at h
    · rename_i m _ hrange
      cases h
      show (if 0 ≤ n ∧ n ≤ 1000 then _ else _) = _
      rw [if_pos hrange]
    · cases h

lemma cleanParent_again {code : String} {parent : Option String}
    (h : cleanParent py raw code = .ok parent) :
    cleanParent py (some (optionJson parent)) code = .ok parent := by
  rw [cleanParent.eq_def] at h
  split at h
  · cases h
    rfl
  · split at h
    · cases h
      rfl
    · obtain ⟨text, htext, hrest⟩ := Fallible.bind_eq_ok.mp h
      split at hrest
      · cases hrest
        rfl
      · rename_i hne
        split at hrest
        · cases hrest
        · rename_i hcode
          cases hrest
          have htruthy : truthy (.str text) = true := by simpa [truthy] using hne
          rw [optionJson, cleanParent, htruthy]
          refine Fallible.bind_eq_ok.mpr ⟨text, cleanText_again htext, ?_⟩
          rw [if_neg hne, if_neg hcode]

lemma hundredthsText_ne (n : ℤ) : hundredthsText n ≠ "" := by
  intro h
  have hlist := congrArg String.toList h
  rw [hundredthsText, String.toList_ofList] at hlist
  simp at hlist

lemma cleanFee_text {n : ℤ} (hrange : 0 ≤ n ∧ n ≤ 10000000) :
    cleanFee py (some (.str (hundredthsText n))) = .ok n := by
  have htruthy : truthy (.str (hundredthsText n)) = true := by
    simpa [truthy] using hundredthsText_ne n
  have hgiven : (if truthy (.str (hundredthsText n)) = true then
      Json.str (hundredthsText n) else .str "0") = .str (hundredthsText n) := if_pos htruthy
  unfold cleanFee
  dsimp only [Option.getD_some]
  rw [hgiven, text, py.hundredths_text n hrange.1 hrange.2]
  dsimp only
  rw [if_pos hrange]

lemma cleanFee_range {n : ℤ} (h : cleanFee py raw = .ok n) : 0 ≤ n ∧ n ≤ 10000000 := by
  rw [cleanFee] at h
  split at h
  · cases h
  · split at h
    · rename_i hrange
      cases h
      exact hrange
    · cases h

lemma cleanFee_again {n : ℤ} (h : cleanFee py raw = .ok n) :
    cleanFee py (some (.str (hundredthsText n))) = .ok n := cleanFee_text (cleanFee_range h)

lemma cleanLabel_again {fee : ℤ} (h : cleanLabel py fee raw = .ok v) :
    cleanLabel py fee (some (.str v)) = .ok v := by
  obtain ⟨text, htext, hrest⟩ := Fallible.bind_eq_ok.mp h
  split at hrest
  · cases hrest
  · rename_i hfee
    cases hrest
    exact Fallible.bind_eq_ok.mpr ⟨v, cleanText_again htext, if_neg hfee⟩

lemma cleanMetadata_again {m : Json} (h : cleanMetadata raw = .ok m) :
    cleanMetadata (some m) = .ok m := by
  rw [cleanMetadata.eq_def] at h
  split at h
  · cases h
    rfl
  · split at h
    · cases h
      rfl
    · rename_i htruthy
      split at h
      · cases h
        rw [cleanMetadata, if_neg htruthy]
      · cases h

end Fields

/-! ## The market -/

section Market

variable {py : Reader} {raw : Option Json} {base : Option ZoneValues} {c : Country} {merged : Raw}
  {m : Market}

lemma given_str (s : String) : given py (some (.str s)) = strip s := by
  show strip (if truthy (.str s) = true then s else "") = strip s
  split
  · rfl
  · rename_i hblank
    have hs : s = "" := by simpa [truthy] using hblank
    rw [hs]

lemma strip_given : strip (given py raw) = given py raw := strip_strip _

/-- A field that was resolved is resolved to itself. -/
lemma effective_again {d : String} (hstrip : strip d = d) (hne : d ≠ "") :
    effective (given py (some (.str (effective (given py raw) d)))) d =
      effective (given py raw) d := by
  rw [given_str]
  by_cases hblank : given py raw = ""
  · have hdefault : effective (given py raw) d = d := if_pos hblank
    rw [hdefault, hstrip]
    exact if_neg hne
  · have hkept : effective (given py raw) d = given py raw := if_neg hblank
    rw [hkept, strip_given]
    exact if_neg hblank

/-- A currency that was resolved is resolved to itself. -/
lemma effective_upper_again {d : String} (hstrip : strip d = d) (hne : d ≠ "")
    (hcapitals : d.toList.all Char.isUpper) :
    effective (upper py (given py (some (.str (effective (upper py (given py raw)) d))))) d =
      effective (upper py (given py raw)) d := by
  rw [given_str]
  by_cases hblank : upper py (given py raw) = ""
  · have hdefault : effective (upper py (given py raw)) d = d := if_pos hblank
    rw [hdefault, hstrip, upper_of_capitals hcapitals]
    exact if_neg hne
  · have hkept : effective (upper py (given py raw)) d = upper py (given py raw) := if_neg hblank
    have hagain : strip (upper py (given py raw)) = upper py (given py raw) := by
      rw [← strip_given, strip_upper_strip]
    rw [hkept, hagain, upper_upper]
    exact if_neg hblank

lemma marketNotes_eq_ok_iff {field value default override : String} {old : Option String} :
    (∃ notes, marketNotes field value default old override = .ok notes) ↔
      old = some value ∨ value = default ∨ override ≠ "" := by
  rw [marketNotes]
  constructor
  · rintro ⟨notes, h⟩
    split at h
    · rename_i hsame
      rw [Bool.or_eq_true, decide_eq_true_eq, decide_eq_true_eq] at hsame
      exact hsame.imp_right .inl
    · split at h
      · cases h
      · rename_i hgiven
        exact .inr (.inr hgiven)
  · intro h
    split
    · exact ⟨_, rfl⟩
    · rename_i hsame
      rw [Bool.or_eq_true, decide_eq_true_eq, decide_eq_true_eq, not_or] at hsame
      rw [if_neg ((h.resolve_left hsame.1).resolve_left hsame.2)]
      exact ⟨_, rfl⟩

def overrideReason (py : Reader) (raw : Raw) : String :=
  orBlank py (raw.marketOverrideReason.getD .null)

/-- The resolved fields of a market. -/
structure Resolves (py : Reader) (c : Country) (merged : Raw) (m : Market) : Prop where
  currency : m.currency = effective (upper py (given py merged.currency)) c.currency
  timezoneName : m.timezoneName = effective (given py merged.timezoneName) c.defaultTimezone
  distanceUnit : m.distanceUnit = effective (given py merged.distanceUnit) c.distanceUnit
  taxMode : m.taxMode = effective (given py merged.taxMode) c.taxMode

/-- The fields that need a reason, and have none. -/
def NeedsReason (c : Country) (base : Option ZoneValues) (m : Market) : Prop :=
  (base.map (·.currency) ≠ some m.currency ∧ m.currency ≠ c.currency) ∨
    (base.map (·.timezoneName) ≠ some m.timezoneName ∧ m.timezoneName ≠ c.defaultTimezone) ∨
      (base.map (·.distanceUnit) ≠ some m.distanceUnit ∧ m.distanceUnit ≠ c.distanceUnit)

/-- A market is accepted with the notes of its three fields. -/
lemma cleanMarket_eq_ok : cleanMarket py c merged base = .ok m ↔
    Resolves py c merged m ∧ ∃ n₁ n₂ n₃,
      marketNotes "currency" m.currency c.currency (base.map (·.currency))
        (overrideReason py merged) = .ok n₁ ∧
      marketNotes "timezone_name" m.timezoneName c.defaultTimezone (base.map (·.timezoneName))
        (overrideReason py merged) = .ok n₂ ∧
      marketNotes "distance_unit" m.distanceUnit c.distanceUnit (base.map (·.distanceUnit))
        (overrideReason py merged) = .ok n₃ ∧
      m.notes = n₁ ++ n₂ ++ n₃ := by
  unfold cleanMarket
  dsimp only
  rw [← overrideReason]
  generalize hcurrency : effective (upper py (given py merged.currency)) c.currency = currency
  generalize htimezone : effective (given py merged.timezoneName) c.defaultTimezone = timezone
  generalize hunit : effective (given py merged.distanceUnit) c.distanceUnit = unit
  generalize htax : effective (given py merged.taxMode) c.taxMode = tax
  simp only [Fallible.bind_eq_ok]
  constructor
  · rintro ⟨n₁, h₁, n₂, h₂, n₃, h₃, h⟩
    rw [← Except.ok.inj h]
    exact ⟨⟨hcurrency.symm, htimezone.symm, hunit.symm, htax.symm⟩, n₁, n₂, n₃, h₁, h₂, h₃, rfl⟩
  · obtain ⟨cur, tz, un, tx, notes⟩ := m
    rintro ⟨⟨hcur, htz, hun, htx⟩, n₁, n₂, n₃, h₁, h₂, h₃, rfl⟩
    rw [hcurrency] at hcur
    rw [htimezone] at htz
    rw [hunit] at hun
    rw [htax] at htx
    subst hcur htz hun htx
    exact ⟨n₁, h₁, n₂, h₂, n₃, h₃, rfl⟩

lemma each_or_iff {a₁ b₁ a₂ b₂ a₃ b₃ r : Prop} :
    (a₁ ∨ b₁ ∨ r) ∧ (a₂ ∨ b₂ ∨ r) ∧ (a₃ ∨ b₃ ∨ r) ↔
      ((¬ a₁ ∧ ¬ b₁) ∨ (¬ a₂ ∧ ¬ b₂) ∨ (¬ a₃ ∧ ¬ b₃) → r) := by
  tauto

/-- The market is accepted exactly when no field needs a reason, or one is given. -/
lemma cleanMarket_ok_iff {m : Market} (hm : Resolves py c merged m) :
    (∃ m', cleanMarket py c merged base = .ok m') ↔
      (NeedsReason c base m → overrideReason py merged ≠ "") := by
  have hnotes : (∃ m', cleanMarket py c merged base = .ok m') ↔
      (∃ n₁, marketNotes "currency" m.currency c.currency (base.map (·.currency))
        (overrideReason py merged) = .ok n₁) ∧
      (∃ n₂, marketNotes "timezone_name" m.timezoneName c.defaultTimezone
        (base.map (·.timezoneName)) (overrideReason py merged) = .ok n₂) ∧
      ∃ n₃, marketNotes "distance_unit" m.distanceUnit c.distanceUnit
        (base.map (·.distanceUnit)) (overrideReason py merged) = .ok n₃ := by
    constructor
    · rintro ⟨m', h⟩
      obtain ⟨hm', n₁, n₂, n₃, h₁, h₂, h₃, -⟩ := cleanMarket_eq_ok.mp h
      rw [hm'.currency, ← hm.currency] at h₁
      rw [hm'.timezoneName, ← hm.timezoneName] at h₂
      rw [hm'.distanceUnit, ← hm.distanceUnit] at h₃
      exact ⟨⟨n₁, h₁⟩, ⟨n₂, h₂⟩, n₃, h₃⟩
    · rintro ⟨⟨n₁, h₁⟩, ⟨n₂, h₂⟩, n₃, h₃⟩
      exact ⟨⟨m.currency, m.timezoneName, m.distanceUnit, m.taxMode, n₁ ++ n₂ ++ n₃⟩,
        cleanMarket_eq_ok.mpr ⟨⟨hm.currency, hm.timezoneName, hm.distanceUnit, hm.taxMode⟩,
          n₁, n₂, n₃, h₁, h₂, h₃, rfl⟩⟩
  rw [hnotes, marketNotes_eq_ok_iff, marketNotes_eq_ok_iff, marketNotes_eq_ok_iff]
  exact each_or_iff

/-- The stored market fields resolve to themselves. -/
lemma Resolves.again (hc : c ∈ countries) (hm : Resolves py c merged m) {v : ZoneValues}
    {o : Option Json} (hcurrency : v.currency = m.currency)
    (htimezone : v.timezoneName = m.timezoneName) (hunit : v.distanceUnit = m.distanceUnit)
    (htax : v.taxMode = m.taxMode) : Resolves py c (v.raw o) m := by
  obtain ⟨-, -, -, hcur, hcapitals, htz, hu, htaxMode, hcurne, htzne, hune⟩ := countries_texts c hc
  have htaxes : ∀ d ∈ ["inclusive", "additive"], strip d = d ∧ d ≠ "" := by decide +kernel
  refine ⟨?_, ?_, ?_, ?_⟩
  · show m.currency = effective (upper py (given py (some (.str v.currency)))) c.currency
    rw [hcurrency, hm.currency, effective_upper_again hcur hcurne hcapitals]
  · show m.timezoneName = effective (given py (some (.str v.timezoneName))) c.defaultTimezone
    rw [htimezone, hm.timezoneName, effective_again htz htzne]
  · show m.distanceUnit = effective (given py (some (.str v.distanceUnit))) c.distanceUnit
    rw [hunit, hm.distanceUnit, effective_again hu hune]
  · show m.taxMode = effective (given py (some (.str v.taxMode))) c.taxMode
    rw [htax, hm.taxMode, effective_again (htaxes _ htaxMode).1 (htaxes _ htaxMode).2]

lemma checkTaxMode_again (hc : c ∈ countries) (h : checkTaxMode py raw = .ok ()) :
    checkTaxMode py (some (.str (effective (given py raw) c.taxMode))) = .ok () := by
  obtain ⟨-, -, -, -, -, -, -, htaxMode, -⟩ := countries_texts c hc
  have hmodes : ∀ d ∈ ["inclusive", "additive"], strip d = d ∧ d.length ≤ 10 ∧
      d ∈ ["", "inclusive", "additive"] := by decide +kernel
  obtain ⟨text, htext, hrest⟩ := Fallible.bind_eq_ok.mp h
  have hmem : effective (given py raw) c.taxMode ∈ ["inclusive", "additive"] := by
    by_cases hblank : given py raw = ""
    · rw [effective, if_pos hblank]
      exact htaxMode
    · -- a value that is given is the text that was checked
      rw [effective, if_neg hblank]
      have hsame : given py raw = text := by
        obtain ⟨-, -, rfl⟩ := cleanText_eq_ok.mp htext
        rw [given, orBlank] at hblank ⊢
        cases raw with
        | none =>
            exact absurd rfl hblank
        | some v =>
            rw [Option.getD_some] at hblank ⊢
            by_cases htruthy : truthy v = true
            · rw [if_pos htruthy]
              cases v with
              | null => cases htruthy
              | _ => rfl
            · rw [if_neg htruthy] at hblank
              exact absurd rfl hblank
      split at hrest
      · rename_i hin
        rw [← hsame] at hin
        exact (List.mem_cons.mp hin).resolve_left hblank
      · cases hrest
  obtain ⟨hstrip, hlength, hin⟩ := hmodes _ hmem
  refine Fallible.bind_eq_ok.mpr ⟨effective (given py raw) c.taxMode, ?_, if_pos hin⟩
  refine cleanText_eq_ok.mpr ⟨nofun, ?_, ?_⟩
  · rw [stripped_str, hstrip]
    exact hlength
  · rw [stripped_str, hstrip]

end Market

/-! ## The whole zone -/

/-- Every field of the input is accepted. -/
structure Accepts (env : Env) (raw : Raw) (base : Option ZoneValues) (head : Head)
    (country : Country) (market : Market) (c : Cleaned env) : Prop where
  keys : checkKeys env.py raw base = .ok ()
  head_eq : cleanHead env.py raw base = .ok head
  name : cleanText env.py (raw.over base).name "name" true 128 = .ok c.values.name
  country_eq : cleanCountry env.py (raw.over base).country = .ok country
  stateCode : cleanText env.py (raw.over base).stateCode "state_code" false 8 =
    .ok c.values.stateCode
  city : cleanText env.py (raw.over base).city "city" false 64 = .ok c.values.city
  zoneType : cleanZoneType env.py (raw.over base).zoneType = .ok c.values.zoneType
  priority : cleanPriority env.py (raw.over base).priority = .ok c.values.priority
  parent : cleanParent env.py (raw.over base).parent head.code = .ok c.values.parent
  perTripFee : cleanFee env.py (raw.over base).perTripFee = .ok c.values.perTripFee
  perTripFeeLabel : cleanLabel env.py c.values.perTripFee (raw.over base).perTripFeeLabel =
    .ok c.values.perTripFeeLabel
  metadata : cleanMetadata (raw.over base).metadata = .ok c.values.metadata
  taxMode : checkTaxMode env.py (raw.over base).taxMode = .ok ()
  market_eq : cleanMarket env.py country (raw.over base) base = .ok market
  checked : checkMarket env market head = .ok ()
  polygon : validate env.py env.sh ((raw.over base).polygon.getD .null) =
    .ok (c.values.polygon, c.geometry)
  headValues : (⟨c.values.code, c.values.geoNode, c.values.isActive⟩ : Head) = head
  countryValue : c.values.country = country.code
  marketValues : (⟨c.values.currency, c.values.timezoneName, c.values.distanceUnit,
    c.values.taxMode, c.marketNotes⟩ : Market) = market

section Whole

variable {env : Env} {raw : Raw} {base : Option ZoneValues} {head : Head} {country : Country}
  {market : Market} {c : Cleaned env}

/-- The input is cleaned when every field is accepted. -/
theorem cleanValues_eq_ok : cleanValues env raw base = .ok c ↔
    ∃ head country market, Accepts env raw base head country market c := by
  unfold cleanValues
  constructor
  · intro h
    obtain ⟨⟨⟩, hkeys, h⟩ := Fallible.bind_eq_ok.mp h
    obtain ⟨head, hhead, h⟩ := Fallible.bind_eq_ok.mp h
    obtain ⟨name, hname, h⟩ := Fallible.bind_eq_ok.mp h
    obtain ⟨country, hcountry, h⟩ := Fallible.bind_eq_ok.mp h
    obtain ⟨stateCode, hstate, h⟩ := Fallible.bind_eq_ok.mp h
    obtain ⟨city, hcity, h⟩ := Fallible.bind_eq_ok.mp h
    obtain ⟨zoneType, htype, h⟩ := Fallible.bind_eq_ok.mp h
    obtain ⟨priority, hpriority, h⟩ := Fallible.bind_eq_ok.mp h
    obtain ⟨parent, hparent, h⟩ := Fallible.bind_eq_ok.mp h
    obtain ⟨fee, hfee, h⟩ := Fallible.bind_eq_ok.mp h
    obtain ⟨label, hlabel, h⟩ := Fallible.bind_eq_ok.mp h
    obtain ⟨metadata, hmetadata, h⟩ := Fallible.bind_eq_ok.mp h
    obtain ⟨⟨⟩, htax, h⟩ := Fallible.bind_eq_ok.mp h
    obtain ⟨market, hmarket, h⟩ := Fallible.bind_eq_ok.mp h
    obtain ⟨⟨⟩, hchecked, h⟩ := Fallible.bind_eq_ok.mp h
    obtain ⟨polygon, hpolygon, h⟩ := Fallible.bind_eq_ok.mp h
    have hc := Except.ok.inj h
    subst hc
    exact ⟨head, country, market, hkeys, hhead, hname, hcountry, hstate, hcity, htype, hpriority,
      hparent, hfee, hlabel, hmetadata, htax, hmarket, hchecked, hpolygon, rfl, rfl, rfl⟩
  · rintro ⟨head, country, market, h⟩
    refine Fallible.bind_eq_ok.mpr ⟨(), h.keys, Fallible.bind_eq_ok.mpr ⟨head, h.head_eq, ?_⟩⟩
    refine Fallible.bind_eq_ok.mpr ⟨_, h.name, Fallible.bind_eq_ok.mpr ⟨_, h.country_eq, ?_⟩⟩
    refine Fallible.bind_eq_ok.mpr ⟨_, h.stateCode, Fallible.bind_eq_ok.mpr ⟨_, h.city, ?_⟩⟩
    refine Fallible.bind_eq_ok.mpr ⟨_, h.zoneType, Fallible.bind_eq_ok.mpr ⟨_, h.priority, ?_⟩⟩
    refine Fallible.bind_eq_ok.mpr ⟨_, h.parent, Fallible.bind_eq_ok.mpr ⟨_, h.perTripFee, ?_⟩⟩
    refine Fallible.bind_eq_ok.mpr ⟨_, h.perTripFeeLabel, ?_⟩
    refine Fallible.bind_eq_ok.mpr ⟨_, h.metadata, Fallible.bind_eq_ok.mpr ⟨(), h.taxMode, ?_⟩⟩
    refine Fallible.bind_eq_ok.mpr ⟨market, h.market_eq, ?_⟩
    refine Fallible.bind_eq_ok.mpr ⟨(), h.checked, Fallible.bind_eq_ok.mpr ⟨_, h.polygon, ?_⟩⟩
    obtain ⟨values, geometry, notes⟩ := c
    have hhead := h.headValues
    have hmarket := h.marketValues
    have hcountry := h.countryValue
    dsimp only at hhead hmarket hcountry
    subst hhead hmarket
    rw [← hcountry]
    rfl

lemma over_raw (v : ZoneValues) (o : Option Json) : (v.raw o).over base = v.raw o := by
  cases base <;> rfl

lemma Accepts.resolves_raw (h : Accepts env raw base head country market c) (o : Option Json) :
    Resolves env.py country (c.values.raw o) market := by
  have hfirst := (cleanMarket_eq_ok.mp h.market_eq).1
  rw [← h.marketValues] at hfirst ⊢
  exact hfirst.again (mem_of_cleanCountry h.country_eq) rfl rfl rfl rfl

lemma Accepts.reason_of_again (h : Accepts env raw base head country market c) {o : Option Json}
    {c' : Cleaned env} (hagain : cleanValues env (c.values.raw o) base = .ok c') :
    NeedsReason country base market → orBlank env.py (o.getD .null) ≠ "" := by
  obtain ⟨head', country', market', h'⟩ := cleanValues_eq_ok.mp hagain
  have hsame := h'.country_eq
  have hm := h'.market_eq
  rw [over_raw] at hsame hm
  rw [ZoneValues.raw, h.countryValue, cleanCountry_again h.country_eq] at hsame
  rw [← Except.ok.inj hsame] at hm
  exact (cleanMarket_ok_iff (h.resolves_raw o)).mp ⟨market', hm⟩

/-- The values that were cleaned are accepted once more, unless a reason is missing. -/
theorem Accepts.again_iff (h : Accepts env raw base head country market c) {o : Option Json}
    (hkeys : checkKeys env.py (c.values.raw o) base = .ok ())
    (hhead : cleanHead env.py (c.values.raw o) base = .ok head) :
    (∃ notes, cleanValues env (c.values.raw o) base = .ok ⟨c.values, c.geometry, notes⟩) ↔
      (NeedsReason country base market → orBlank env.py (o.getD .null) ≠ "") := by
  have hcountries := mem_of_cleanCountry h.country_eq
  have hmarket := h.marketValues
  have hfirst := (cleanMarket_eq_ok.mp h.market_eq).1
  have hresolves := h.resolves_raw o
  refine ⟨fun ⟨notes, hagain⟩ => h.reason_of_again hagain, fun hreason => ?_⟩
  · obtain ⟨market', hm⟩ := (cleanMarket_ok_iff hresolves).mpr hreason
    refine ⟨market'.notes, cleanValues_eq_ok.mpr ⟨head, country, market', ?_⟩⟩
    have hsecond := (cleanMarket_eq_ok.mp hm).1
    refine ⟨hkeys, hhead, ?_, ?_, ?_, ?_, ?_, ?_, ?_, ?_, ?_, ?_, ?_, ?_, ?_, ?_, h.headValues,
      h.countryValue, ?_⟩
    · rw [over_raw]
      exact cleanText_again h.name
    · rw [over_raw, ZoneValues.raw, h.countryValue]
      exact cleanCountry_again h.country_eq
    · rw [over_raw]
      exact cleanText_again h.stateCode
    · rw [over_raw]
      exact cleanText_again h.city
    · rw [over_raw]
      exact cleanZoneType_again h.zoneType
    · rw [over_raw]
      exact cleanPriority_again h.priority
    · rw [over_raw]
      exact cleanParent_again h.parent
    · rw [over_raw]
      exact cleanFee_again h.perTripFee
    · rw [over_raw]
      exact cleanLabel_again h.perTripFeeLabel
    · rw [over_raw]
      exact cleanMetadata_again h.metadata
    · have htax : c.values.taxMode = effective (given env.py (raw.over base).taxMode)
          country.taxMode := by
        rw [← hfirst.taxMode, ← hmarket]
      rw [over_raw, ZoneValues.raw, htax]
      exact checkTaxMode_again hcountries h.taxMode
    · rw [over_raw]
      exact hm
    · -- the check reads the time zone and the unit
      have htimezone : market'.timezoneName = market.timezoneName := by
        rw [hsecond.timezoneName, hresolves.timezoneName]
      have hunit : market'.distanceUnit = market.distanceUnit := by
        rw [hsecond.distanceUnit, hresolves.distanceUnit]
      rw [checkMarket, htimezone, hunit]
      exact h.checked
    · rw [over_raw]
      exact validate_again h.polygon
    · obtain ⟨cur, tz, un, tx, notes⟩ := market'
      have hcur := hsecond.currency.trans hresolves.currency.symm
      have htz := hsecond.timezoneName.trans hresolves.timezoneName.symm
      have hun := hsecond.distanceUnit.trans hresolves.distanceUnit.symm
      have htx := hsecond.taxMode.trans hresolves.taxMode.symm
      rw [← hmarket] at hcur htz hun htx
      dsimp only at hcur htz hun htx ⊢
      rw [hcur, htz, hun, htx]

end Whole

end SaaradhiGo.Zones
