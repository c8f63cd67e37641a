/-
The masking of personal data in what an operator is sent.

A payload is walked through its dicts and lists, and the value under a key is masked by the name of
the key.  Each masker reads a text and cuts it by the characters that stand in it.  Two of them can
raise: a name without words, and a coordinate that cannot be rounded.
-/
import SaaradhiGo.Lib.Decimal
import SaaradhiGo.Lib.Text

namespace SaaradhiGo.Masking

def bullet : Char := '•'

def mask : List Char := List.replicate 4 bullet

inductive Raised where
  | indexError
  | invalidOperation
deriving DecidableEq

/-- What `Decimal` reads in a text. -/
inductive Parsed where
  | number (d : Python.Decimal)
  /-- a quiet NaN, with its text -/
  | quietNan (text : String)
  | signalingNan

/-- A number with two places, as `str` prints it. -/
def hundredthsText (h : Python.Hundredths) : String :=
  String.ofList ((if h.minus then ['-'] else []) ++ (Python.hundredthsText h.count).toList)

/-- A sign and hundredths, as a number. -/
def inHundredths (minus : Bool) (count : ℕ) : Python.Decimal := .finite minus (count / 100)

def decimalOf (h : Python.Hundredths) : Python.Decimal := inHundredths h.minus h.count

/-- The characters and the numbers of the language. -/
structure Reader extends Python.Reader where
  alphabet : Python.Alphabet
  /-- `Decimal(text)` -/
  decimal : String → Option Parsed
  decimal_text : ∀ h, decimal (hundredthsText h) = some (.number (decimalOf h))
  decimal_nan : ∀ t s, decimal t = some (.quietNan s) → decimal s = some (.quietNan s)
  /-- `float(text)`, of the text of a decimal -/
  floatOfText : String → Json.Float
  floatOfText_value : ∀ s t d, decimal s = some (.number d) → decimal t = some (.number d) →
    floatOfText s = floatOfText t
  /-- `repr` of a float reads back as the float -/
  repr_float : ∀ h, floatOfText (String.ofList (floatOfText (hundredthsText h)).text) =
    floatOfText (hundredthsText h)
  /-- `repr` is the shortest text: of a float next to a rounded float it has no more places -/
  repr_short : ∀ (f : Json.Float) d h, decimal (String.ofList f.text) = some (.number d) →
    d.quantize = some h → ∃ h', decimal (String.ofList (floatOfText (hundredthsText h)).text) =
      some (.number (decimalOf h'))

/-! ## The maskers -/

/-- A masker of texts: a value that is false stays as it is. -/
def onText (rd : Reader) (f : List Char → Except Raised (List Char)) (v : Json) :
    Except Raised Json :=
  if Python.truthy v then
    (f (Python.text rd.toReader v).toList).map fun out => .str (String.ofList out)
  else .ok v

/-- The country code of a number, `text[:3]` after a plus. -/
def phoneHead (t : List Char) : List Char := if t.head? = some '+' then t.take 3 else []

/-- `text[-4:]`. -/
def lastFour (t : List Char) : List Char := t.drop (t.length - 4)

/-- `mask_phone` of a text. -/
def phoneText (t : List Char) : List Char :=
  phoneHead t ++ List.replicate (t.length - (phoneHead t).length - 4) bullet ++ lastFour t

/-- `mask_email` of a text. -/
def emailText (t : List Char) : List Char :=
  if '@' ∈ t then
    let domain := (t.dropWhile (· ≠ '@')).tail
    match t.takeWhile (· ≠ '@') with
    | [] => mask ++ '@' :: domain
    | c :: rest => c :: List.replicate (max 1 rest.length) bullet ++ '@' :: domain
  else mask

/-- `text.replace('-', '').replace(' ', '').lstrip('+')`. -/
def digitsOf (t : List Char) : List Char :=
  (t.filter fun c => c ≠ '-' && c ≠ ' ').dropWhile (· = '+')

/-- `isdigit` of a text. -/
def allDigits (al : Python.Alphabet) (t : List Char) : Bool := !t.isEmpty && t.all al.isDigit

def contactShaped (al : Python.Alphabet) (t : List Char) : Bool :=
  decide ('@' ∈ t) || allDigits al (digitsOf t)

/-- The end of `mask_name`, for a text that is no contact: first name and initial. -/
def nameWords (t : List Char) : Except Raised (List Char) :=
  match Python.words t with
  | [] => .error .indexError
  | [p] => .ok p
  | p :: q :: ps => .ok (p ++ [' ', ((q :: ps).getLastD []).headD ' ', '.'])

/-- `mask_contact` of a text that is stripped.  What is no contact goes on to `mask_name`, which
leaves the empty text as it is. -/
def contactText (al : Python.Alphabet) (t : List Char) : Except Raised (List Char) :=
  if '@' ∈ t then .ok (emailText t)
  else if allDigits al (digitsOf t) then .ok (phoneText t)
  else if t.isEmpty then .ok t
  else nameWords t

/-- `mask_name` of a text that is stripped. -/
def nameText (al : Python.Alphabet) (t : List Char) : Except Raised (List Char) :=
  if contactShaped al t then contactText al t else nameWords t

/-- `mask_identifier` of a text. -/
def identifierText (al : Python.Alphabet) (t : List Char) : List Char :=
  if '@' ∈ t then emailText t
  else if t.head? = some '+' || allDigits al (t.filter (· ≠ '-')) then phoneText t
  else t

/-- `mask_last4` of a text. -/
def last4Text (t : List Char) : List Char :=
  if t.length ≤ 4 then mask else List.replicate (t.length - 4) bullet ++ lastFour t

/-- `mask_upi` of a text. -/
def upiText (t : List Char) : List Char := if '@' ∈ t then emailText t else last4Text t

/-! ## Addresses -/

def pinnedLocation : List Char := "Pinned location".toList

/-- What is left behind a character that may stand there. -/
def optional (c : Char) : List Char → List Char
  | d :: t => if d = c then t else d :: t
  | [] => []

/-- `-?\d{1,3}(\.\d+)?`: what is left behind it. -/
def coordinateNumber (al : Python.Alphabet) (t : List Char) : Option (List Char) :=
  let t := optional '-' t
  let whole := t.takeWhile al.isDecimal
  if whole.isEmpty || 3 < whole.length then none
  else
    match t.dropWhile al.isDecimal with
    | '.' :: rest =>
        if (rest.takeWhile al.isDecimal).isEmpty then some ('.' :: rest)
        else some (rest.dropWhile al.isDecimal)
    | rest => some rest

/-- `_COORDINATES`, of a text that is stripped. -/
def isCoordinates (al : Python.Alphabet) (t : List Char) : Bool :=
  match coordinateNumber al ((optional '(' t).dropWhile Python.isSpace) with
  | none => false
  | some rest =>
      match rest.dropWhile Python.isSpace with
      | ',' :: rest =>
          match coordinateNumber al (rest.dropWhile Python.isSpace) with
          | none => false
          | some rest => (optional ')' (rest.dropWhile Python.isSpace)).isEmpty
      | _ => false

/-- `_POSTCODE.sub('', part)`: a run of word characters goes when it is five decimals or more. -/
def withoutPostcodes (al : Python.Alphabet) (t : List Char) : List Char :=
  ((t.splitBy fun c d => al.isWord c == al.isWord d).filter fun run =>
    !(run.all al.isDecimal && decide (5 ≤ run.length))).flatten

def components (t : List Char) : List (List Char) :=
  ((t.splitOn ',').map Python.stripList).filter fun p => !p.isEmpty

/-- The components that are kept: the last three of four or more, the last two of three, the last
of two. -/
def keptComponents (parts : List (List Char)) : List (List Char) :=
  if 4 ≤ parts.length then parts.drop (parts.length - 3)
  else if parts.length = 3 then parts.drop 1
  else if parts.length = 2 then parts.drop 1
  else []

def cleaned (al : Python.Alphabet) (parts : List (List Char)) : List (List Char) :=
  (parts.map fun p => Python.stripList (withoutPostcodes al p)).filter fun p => !p.isEmpty

/-- `mask_address` of a text that is stripped. -/
def addressText (al : Python.Alphabet) (t : List Char) : List Char :=
  if t.head? = some bullet || t = pinnedLocation then t
  else if isCoordinates al t then pinnedLocation
  else
    match keptComponents (components t) with
    | [] => mask
    | kept => mask ++ ' ' :: [',', ' '].intercalate (cleaned al kept)

/-! ## Values that are no texts -/

def roundCoordinate (rd : Reader) (v : Json) : Except Raised Json :=
  match v with
  | .null => .ok v
  | .str "" => .ok v
  | _ =>
      match rd.decimal (Python.text rd.toReader v) with
      | none => .ok v
      | some .signalingNan => .error .invalidOperation
      | some (.quietNan s) =>
          match v with
          | .float _ => .ok v
          | _ => .ok (.str s)
      | some (.number d) =>
          match d.quantize, v with
          | none, _ => .error .invalidOperation
          | some h, .float _ => .ok (.float (rd.floatOfText (hundredthsText h)))
          | some h, _ => .ok (.str (hundredthsText h))

def blank (v : Json) : Json :=
  match v with
  | .null => .null
  | .str "" => .str ""
  | _ => .str (String.ofList mask)

def withhold (v : Json) : Json := if Python.truthy v then .null else v

/-! ## The tables -/

def phoneFields : List String :=
  ["phone_number", "phone", "mobile", "driver_phone", "rider_phone", "user_phone",
    "requester_phone", "payer_phone", "customer_phone", "emergency_contact"]

def emailFields : List String :=
  ["email", "driver_email", "rider_email", "user_email", "requester_email", "payer_email",
    "customer_email", "sent_to_email"]

def identifierFields : List String := ["username"]

def contactLabelFields : List String := ["user_label", "driver_label"]

def nameFields : List String :=
  ["full_name", "driver_name", "rider_name", "user", "user_name", "author_name", "rater_name",
    "requester_name", "payer_name", "customer_name"]

def addressFields : List String :=
  ["pickup_address", "destination_address", "drop_address", "address", "address_text"]

def blankedFields : List String :=
  ["dob", "date_of_birth", "house_no", "street", "zip_code", "postcode", "aadhaar",
    "aadhaar_number", "pan", "pan_number", "ssn"]

def last4Fields : List String :=
  ["account_number", "bank_account_number", "ifsc", "ifsc_code", "license_number",
    "licence_number"]

def upiFields : List String := ["upi_id", "driver_upi_id", "vpa"]

def coordinateFields : List String :=
  ["lat", "lng", "lon", "latitude", "longitude", "pickup_lat", "pickup_long", "pickup_lng",
    "destination_lat", "destination_long", "destination_lng"]

def documentFields : List String :=
  ["license_doc", "license_doc_back", "license_doc_url", "license_doc_back_url", "rc_doc",
    "rc_doc_url", "permit_doc", "permit_doc_url", "insurance_doc", "insurance_doc_url",
    "fitness_doc", "fitness_doc_url", "puc_doc", "puc_doc_url", "inspection_doc",
    "inspection_doc_url", "vehicle_pic", "vehicle_pic_url", "avatar", "avatar_url", "pdf_url"]

def operatorIdentityKeys : List String := ["maker", "checker", "created_by"]

/-- How the value under a key is masked. -/
inductive Kind where
  | phone | email | identifier | contact | address | blanked | last4 | upi
  | name | coordinate | document
deriving DecidableEq

/-- The tables as one: `ALWAYS_MASKED`, then the names, the coordinates and the documents. -/
def kindOf (key : String) : Option Kind :=
  if key ∈ phoneFields then some .phone
  else if key ∈ emailFields then some .email
  else if key ∈ identifierFields then some .identifier
  else if key ∈ contactLabelFields then some .contact
  else if key ∈ addressFields then some .address
  else if key ∈ blankedFields then some .blanked
  else if key ∈ last4Fields then some .last4
  else if key ∈ upiFields then some .upi
  else if key ∈ nameFields then some .name
  else if key ∈ coordinateFields then some .coordinate
  else if key ∈ documentFields then some .document
  else none

/-! ## The walk -/

structure Policy where
  fullNames : Bool
  exactCoordinates : Bool
  documents : Bool

def strict : Policy := ⟨false, false, false⟩

def trusted : Policy := ⟨true, true, true⟩

section Walk

variable (rd : Reader) (policy : Policy)

def maskPhone : Json → Except Raised Json := onText rd fun t => .ok (phoneText t)

def maskEmail : Json → Except Raised Json := onText rd fun t => .ok (emailText t)

def maskIdentifier : Json → Except Raised Json :=
  onText rd fun t => .ok (identifierText rd.alphabet t)

def maskContact : Json → Except Raised Json :=
  onText rd fun t => contactText rd.alphabet (Python.stripList t)

def maskName : Json → Except Raised Json :=
  onText rd fun t => nameText rd.alphabet (Python.stripList t)

def maskLast4 : Json → Except Raised Json := onText rd fun t => .ok (last4Text t)

def maskUpi : Json → Except Raised Json := onText rd fun t => .ok (upiText t)

def maskAddress : Json → Except Raised Json :=
  onText rd fun t => .ok (addressText rd.alphabet (Python.stripList t))

/-- A name: short for some, and a contact in its place for nobody. -/
def maskNameFor (v : Json) : Except Raised Json :=
  match v with
  | .str s =>
      if !policy.fullNames then maskName rd v
      else if contactShaped rd.alphabet (Python.stripList s.toList) then maskContact rd v
      else .ok v
  | _ => .ok v

/-- The value of one kind, masked. -/
def maskKind : Kind → Json → Except Raised Json
  | .phone => maskPhone rd
  | .email => maskEmail rd
  | .identifier => maskIdentifier rd
  | .contact => maskContact rd
  | .address => maskAddress rd
  | .blanked => fun v => .ok (blank v)
  | .last4 => maskLast4 rd
  | .upi => maskUpi rd
  | .name => maskNameFor rd policy
  | .coordinate => fun v => if policy.exactCoordinates then .ok v else roundCoordinate rd v
  | .document => fun v => .ok (if policy.documents then v else withhold v)

/-- The value under a key that is no dict and no list. -/
def maskLeaf (key : String) (v : Json) : Except Raised Json :=
  match kindOf key with
  | some kind => maskKind rd policy kind v
  | none => .ok v

mutual

def maskPayload : Json → Except Raised Json
  | .arr vs => do
      let out ← maskItems vs
      return .arr out
  | .obj fs => do
      let out ← maskFields fs
      return .obj out
  | v => .ok v

def maskItems : List Json → Except Raised (List Json)
  | [] => .ok []
  | v :: vs => do
      let w ← maskPayload v
      let ws ← maskItems vs
      return w :: ws

def maskFields : List (String × Json) → Except Raised (List (String × Json))
  | [] => .ok []
  | (key, v) :: fs => do
      let w ← match v with
        -- who made or checked a row stays
        | .obj gs => if key ∈ operatorIdentityKeys then .ok v else maskPayload (.obj gs)
        | .arr vs => maskPayload (.arr vs)
        | _ => maskLeaf rd policy key v
      let ws ← maskFields fs
      return (key, w) :: ws

end

end Walk

end SaaradhiGo.Masking
