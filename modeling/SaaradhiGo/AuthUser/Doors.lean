/-
The doors at which an account opens itself.

An account is opened by signing in with a code that was stored for its phone, or by registering with
an address, a password and a proof that such a code was presented.  Codes and proofs live in a
cache that forgets; a request is one query or one cache call after the other, with whatever other
requests do in between.  The world has a book no code reads: what has happened, newest first.
-/
import SaaradhiGo.AuthUser.Phone
import SaaradhiGo.Lib.Interleave
import SaaradhiGo.Lib.Table

namespace SaaradhiGo.AuthUser

open Interleave Python

/-! ## Accounts -/

inductive Role where
  | rider
  | driver
  | admin
deriving DecidableEq, Repr

def selfServiceRoles : List Role := [.rider, .driver]

def selfService? (asked : String) : Option Role :=
  if asked = "rider" then some .rider
  else if asked = "driver" then some .driver
  else none

/-- An account.  The address is in lower case, as the constraint on it compares. -/
structure User where
  id : ℕ
  phoneNumber : String
  email : Option String
  fullName : String
  role : Role
  isStaff : Bool
  isSuperuser : Bool
  isActive : Bool
  hasPassword : Bool
  emailVerifiedAt : Option ℕ
deriving DecidableEq

def User.isOperator (u : User) : Bool := u.isSuperuser || (u.role = .admin && u.isStaff)

/-- `create_user`. -/
def User.created (id : ℕ) (phoneNumber : String) (email : Option String) (fullName : String)
    (role : Role) (hasPassword : Bool) : User where
  id
  phoneNumber
  email
  fullName
  role
  isStaff := false
  isSuperuser := false
  isActive := true
  hasPassword
  emailVerifiedAt := none

/-! ## Codes and proofs -/

def otpExpiry : ℕ := 600

def maxOtpAttempts : ℕ := 5

/-- What the cache keeps for a phone. -/
structure CodeEntry where
  otp : String
  role : Role
  attempts : ℕ
deriving DecidableEq

/-- What is signed in a `phone_proof`. -/
structure Proof where
  phone : String
  role : Role
  nonce : ℕ
  issuedAt : ℕ
deriving DecidableEq

/-- A `phone_proof` as it is presented. -/
inductive Token where
  | missing
  | forged
  | signed (proof : Proof)
deriving DecidableEq

/-- Why a proof is refused. -/
inductive ProofError where
  | missing
  | invalid
  | expired
  | used
deriving DecidableEq, Repr

def ProofError.code : ProofError → String
  | missing => "AUTH_PHONE_PROOF_REQUIRED"
  | invalid => "AUTH_PHONE_PROOF_INVALID"
  | expired => "AUTH_PHONE_PROOF_EXPIRED"
  | used => "AUTH_PHONE_PROOF_USED"

/-! ## The world -/

/-- The door an account was opened at. -/
inductive Door where
  | sms
  | email (nonce : ℕ)
deriving DecidableEq, Repr

/-- What happens. -/
inductive Event where
  /-- a code is made out for a phone and stored, whether or not a text takes it there -/
  | stored (phone : String) (role : Role) (otp : String)
  /-- a code that was stored for a phone is presented, and spent -/
  | presented (phone : String) (role : Role) (otp : String)
  | proved (proof : Proof)
  | redeemed (nonce moment : ℕ)
  | opened (user : User) (door : Door)
  /-- tokens are issued for an account -/
  | signedIn (user : User)
deriving DecidableEq

/-- The cache, the accounts, the clock, and the book.  An entry of the cache is there until it
expires. -/
structure World where
  now : ℕ
  codes : String → Option (CodeEntry × ℕ)
  nonces : ℕ → Option (String × ℕ)
  nextNonce : ℕ
  proofs : List Proof
  users : Table User.id
  book : List Event

/-- Where the code runs. -/
structure Deployment where
  isDigit : Char → Bool
  registry : List Country
  phoneRegex : String → Bool
  /-- `TEST_PHONE_NUMBERS` -/
  testPhones : String → Option String
  /-- `PHONE_PROOF_TTL_SECONDS` -/
  proofTtl : ℕ
  /-- `is_valid_driver_name` -/
  validDriverName : String → Bool
  /-- `verification_is_deliverable` -/
  deliverable : Bool

namespace World

/-- `cache.get` of a code. -/
def code? (s : World) (phone : String) : Option CodeEntry :=
  ((s.codes phone).filter fun c => s.now < c.2).map Prod.fst

def setCode (s : World) (phone : String) (entry : CodeEntry) : World :=
  { s with codes := Function.update s.codes phone (some (entry, s.now + otpExpiry)) }

def userByPhone (s : World) (phone : String) : Option User :=
  s.users.rows.find? (·.phoneNumber = phone)

def emailTaken (s : World) (email : String) : Bool := s.users.rows.any (·.email = some email)

def record (s : World) (e : Event) : World := { s with book := e :: s.book }

/-- `signing.loads`: what was signed is good for its time. -/
def loads (s : World) (ttl : ℕ) : Token → Except ProofError Proof
  | .missing => .error .missing
  | .forged => .error .invalid
  | .signed p =>
      if p ∉ s.proofs then .error .invalid
      else if p.issuedAt + ttl < s.now then .error .expired
      else .ok p

end World

/-! ## Operations -/

inductive DoorOp where
  /-- the code of a request, written into the cache -/
  | storeCode (phone otp : String) (role : Role)
  | getCode (phone : String)
  | countAttempt (phone : String) (entry : CodeEntry)
  | deleteCode (phone : String) (stored : CodeEntry)
  | issue (phone : String) (role : Role)
  | loads (token : Token)
  | deleteNonce (proof : Proof)
  | getUser (phone : String)
  | emailTaken (email : String)
  /-- the account and the profile of its role, in one transaction -/
  | createUser (phone : String) (email : Option String) (fullName : String) (role : Role)
      (hasPassword : Bool) (door : Door)
  | verifyEmail (user : User)
  /-- `AccessToken.for_user` and `RefreshToken.for_user` -/
  | tokens (user : User)
deriving DecidableEq

inductive Created where
  | created (user : User)
  /-- an `IntegrityError` -/
  | taken
  | raised

/-- The answers of the operations; `none` is a call that raises. -/
@[reducible] def DoorAns : DoorOp → Type
  | .storeCode _ _ _ => Option Unit
  | .getCode _ => Option (Option CodeEntry)
  | .countAttempt _ _ => Option Unit
  | .deleteCode _ _ => Option Unit
  | .issue _ _ => Option Proof
  | .loads _ => Except ProofError Proof
  | .deleteNonce _ => Option Bool
  | .getUser _ => Option (Option User)
  | .emailTaken _ => Option Bool
  | .createUser _ _ _ _ _ _ => Created
  | .verifyEmail _ => Option Unit
  | .tokens _ => Option Unit

/-- What the surroundings decide about an operation. -/
inductive Choice where
  | works
  /-- it raises, with or without having had its effect -/
  | raises (done : Bool)
deriving DecidableEq, Repr

/-- An operation that answers when it works. -/
def Choice.answer {α : Type} (e : Choice) (a : α) (s s' : World) : Option α × World :=
  match e with
  | works => (some a, s')
  | raises done => (none, if done then s' else s)

section Exec

variable (dep : Deployment)

/-- One operation of a request. -/
def exec : Exec DoorOp DoorAns World Choice
  | .storeCode phone otp role, e, s =>
      e.answer () s ((s.setCode phone ⟨otp, role, 0⟩).record (.stored phone role otp))
  | .getCode phone, e, s => e.answer (s.code? phone) s s
  | .countAttempt phone entry, e, s => e.answer () s (s.setCode phone entry)
  | .deleteCode phone stored, e, s =>
      e.answer () s ({ s with codes := Function.update s.codes phone none }.record
        (.presented phone stored.role stored.otp))
  | .issue phone role, e, s =>
      let p : Proof := ⟨phone, role, s.nextNonce, s.now⟩
      e.answer p s ({ s with
        nonces := Function.update s.nonces p.nonce (some (phone, s.now + dep.proofTtl))
        nextNonce := s.nextNonce + 1
        proofs := p :: s.proofs }.record (.proved p))
  | .loads token, _, s => (s.loads dep.proofTtl token, s)
  | .deleteNonce p, e, s =>
      match (s.nonces p.nonce).filter fun n => s.now < n.2 with
      | none => e.answer false s s
      | some _ =>
          e.answer true s ({ s with nonces := Function.update s.nonces p.nonce none }.record
            (.redeemed p.nonce s.now))
  | .getUser phone, e, s => e.answer (s.userByPhone phone) s s
  | .emailTaken email, e, s => e.answer (s.emailTaken email) s s
  | .createUser phone email fullName role hasPassword door, e, s =>
      let user := User.created s.users.nextKey phone email fullName role hasPassword
      let s' := { s with users := s.users.put user }.record (.opened user door)
      if (s.userByPhone phone).isSome || email.any fun a => a ≠ "" && s.emailTaken a then
        (.taken, s)
      else
        match e with
        | .works => (.created user, s')
        | .raises done => (.raised, if done then s' else s)
  | .verifyEmail user, e, s =>
      e.answer () s (match s.users.get? user.id with
        | none => s
        | some u => { s with users := s.users.put { u with emailVerifiedAt := some s.now } })
  | .tokens user, e, s => e.answer () s (s.record (.signedIn user))

end Exec

/-! ## Requests -/

/-- What a request is answered. -/
inductive Answer where
  | error (code : String)
  | otpSent
  | proof (p : Proof)
  | signedIn (user : User)
  /-- `GENERIC_ACCEPTED` -/
  | accepted
  | registered
  | raised
deriving DecidableEq

abbrev Entry : Type := Prog DoorOp DoorAns Answer

def respond (a : Answer) : Entry := .ret a

def refuse (code : String) : Entry := .ret (.error code)

structure OtpRequest where
  phone : Option String
  /-- "rider" when the request has none -/
  role : String
  /-- the build is below the minimum supported version -/
  outdated : Bool
  /-- what `generate_otp` makes -/
  generated : String
  /-- the task that sends the text is queued -/
  queued : Bool

structure LoginRequest where
  phone : Option String
  otp : Option String

structure VerifyRequest where
  phone : Option String
  otp : Option String

structure RegisterRequest where
  /-- the role asked for, stripped and in lower case, "rider" when the request has none -/
  role : String
  fullName : String
  /-- what `normalize_email` makes of the address, if it is one or blank -/
  email : Option String
  phone : Option String
  country : DefaultCountry
  password : String
  confirm : String
  /-- the validators refuse the password -/
  weak : Bool
  token : Token
  /-- the login guard has locked the address -/
  locked : Bool

section Programs

variable (dep : Deployment)

def requestOtp (r : OtpRequest) : Entry :=
  match r.phone with
  | none => refuse "AUTH_MISSING_DETAILS"
  | some phone =>
      if !dep.phoneRegex phone then refuse "AUTH_INVALID_PHONE"
      else match selfService? r.role with
        | none => refuse "AUTH_INVALID_ROLE"
        | some role =>
            if r.outdated then refuse "APP_UPDATE_REQUIRED"
            else
              let testOtp := (dep.testPhones phone).filter (· ≠ "")
              let otp := testOtp.getD r.generated
              if otp = "" then refuse "AUTH_OTP_GENERATION_FAILED"
              else .op (.storeCode phone otp role) fun
                | none => refuse "AUTH_INTERNAL_ERROR"
                | some () =>
                    if testOtp.isSome || r.queued then respond .otpSent
                    else refuse "AUTH_OTP_REQUEST"

def consumeOtp (phone otp : String) (raised : Entry) (k : Role → Entry) : Entry :=
  .op (.getCode phone) fun
    | none => raised
    | some none => refuse "AUTH_OTP_EXPIRED"
    | some (some stored) =>
        if maxOtpAttempts ≤ stored.attempts then refuse "AUTH_TOO_MANY_ATTEMPTS"
        else if otp ≠ stored.otp then
          .op (.countAttempt phone { stored with attempts := stored.attempts + 1 }) fun
            | none => raised
            | some () => refuse "AUTH_INVALID_OTP"
        else
          .op (.deleteCode phone stored) fun
            | none => raised
            | some () => k stored.role

/-- A sign-in, once there is an account. -/
def signIn (user : User) : Entry :=
  if user.isOperator then refuse "AUTH_INVALID_OTP"
  else if !user.isActive then refuse "AUTH_ACCOUNT_INACTIVE"
  else .op (.tokens user) fun
    | none => refuse "AUTH_TOKEN_GENERATION_FAILED"
    | some () => respond (.signedIn user)

/-- The account is looked for again after something has raised. -/
def retrieve (phone : String) : Entry :=
  .op (.getUser phone) fun
    | none => refuse "AUTH_INTERNAL_ERROR"
    | some none => refuse "AUTH_USER_NOT_FOUND"
    | some (some user) => signIn user

def login (r : LoginRequest) : Entry :=
  match r.phone, r.otp with
  | none, _ => refuse "AUTH_PHONE_REQUIRED"
  | _, none => refuse "AUTH_OTP_REQUIRED"
  | some phone, some otp =>
      consumeOtp phone otp (refuse "AUTH_INTERNAL_ERROR") fun role =>
        .op (.getUser phone) fun
          | none => retrieve phone
          | some (some user) => signIn user
          | some none =>
              if role ∉ selfServiceRoles then refuse "AUTH_INVALID_ROLE"
              else .op (.createUser phone none "" role false .sms) fun
                | .created user => signIn user
                | .taken => refuse "AUTH_PROFILE_ERROR"
                | .raised => retrieve phone

def verifyPhone (r : VerifyRequest) : Entry :=
  match r.phone, r.otp with
  | none, _ => refuse "AUTH_PHONE_REQUIRED"
  | _, none => refuse "AUTH_OTP_REQUIRED"
  | some phone, some otp =>
      if phone = "" then refuse "AUTH_PHONE_REQUIRED"
      else if otp = "" then refuse "AUTH_OTP_REQUIRED"
      else consumeOtp phone (strip otp) (respond .raised) fun role =>
        if role ∉ selfServiceRoles then refuse "AUTH_INVALID_ROLE"
        else .op (.issue phone role) fun
          | none => respond .raised
          | some p => respond (.proof p)

def samePhone (d : DefaultCountry) (proved submitted : String) : Bool :=
  proved = submitted || normalizePhone dep.isDigit dep.registry proved d = some submitted

def redeem (d : DefaultCountry) (token : Token) (phone : String) (role : Role)
    (k : Proof → Entry) : Entry :=
  .op (.loads token) fun
    | .error e => refuse e.code
    | .ok p =>
        if p.phone = "" || !samePhone dep d p.phone phone || p.role ≠ role then
          refuse ProofError.invalid.code
        else .op (.deleteNonce p) fun
          | none => respond .raised
          | some false => refuse ProofError.used.code
          | some true => k p

/-- `register_with_email`, once the number is proved. -/
def openAccount (r : RegisterRequest) (role : Role) (email phone : String) (p : Proof) : Entry :=
  if r.locked then respond .accepted
  else .op (.emailTaken email) fun
    | none => respond .raised
    | some true => respond .accepted
    | some false => .op (.getUser phone) fun
        | none => respond .raised
        | some (some _) => respond .accepted
        | some none =>
            .op (.createUser phone (some email) r.fullName role true (.email p.nonce)) fun
              | .taken => respond .accepted
              | .raised => respond .raised
              | .created user =>
                  if dep.deliverable then respond .registered
                  else .op (.verifyEmail user) fun
                    | none => respond .raised
                    | some () => respond .registered

def registerWithEmail (r : RegisterRequest) : Entry :=
  match selfService? r.role with
  | none => refuse "AUTH_INVALID_ROLE"
  | some role =>
      if role = .driver && r.fullName ≠ "" && !dep.validDriverName r.fullName then
        refuse "AUTH_VALIDATION_ERROR"
      else match r.email with
        | none => refuse "AUTH_INVALID_EMAIL"
        | some email =>
            match r.phone.bind fun raw => normalizePhone dep.isDigit dep.registry raw r.country with
            | none => refuse "AUTH_INVALID_PHONE"
            | some phone =>
                if r.password ≠ r.confirm then refuse "AUTH_PASSWORD_MISMATCH"
                else if r.weak then refuse "AUTH_WEAK_PASSWORD"
                else redeem dep r.country r.token phone role
                  (openAccount dep r role email phone)

end Programs

/-! ## The system -/

inductive Request where
  | requestOtp (r : OtpRequest)
  | login (r : LoginRequest)
  | verifyPhone (r : VerifyRequest)
  | registerWithEmail (r : RegisterRequest)

/-- The program of a request. -/
def entry (dep : Deployment) : Request → World → Entry
  | .requestOtp r, _ => requestOtp dep r
  | .login r, _ => login r
  | .verifyPhone r, _ => verifyPhone r
  | .registerWithEmail r, _ => registerWithEmail dep r

/-- What else happens: time passes, the cache loses an entry, and accounts are made, changed and
removed elsewhere. -/
inductive Outside where
  | wait (seconds : ℕ)
  | loseCode (phone : String)
  | loseNonce (nonce : ℕ)
  | setUsers (users : Table User.id)

def outside : Outside → World → World
  | .wait n, s => { s with now := s.now + n }
  | .loseCode phone, s => { s with codes := Function.update s.codes phone none }
  | .loseNonce n, s => { s with nonces := Function.update s.nonces n none }
  | .setUsers users, s => { s with users }

section System

variable {τ : Type} [DecidableEq τ]

abbrev DoorPool (τ : Type) : Type := Pool DoorOp DoorAns Answer World τ Request

abbrev DoorMove (τ : Type) : Type := Move τ Choice Request Outside

/-- One move.  A request that is started where another one was running takes the place of a
process that died. -/
def doorStep (dep : Deployment) (p : DoorPool τ) (m : DoorMove τ) : DoorPool τ :=
  Pool.step (exec dep) (entry dep) outside p m

/-- The accounts of the start; nothing has been stored. -/
def opening (now : ℕ) (users : Table User.id) : DoorPool τ where
  threads := fun _ => none
  store :=
    { now, users
      codes := fun _ => none
      nonces := fun _ => none
      nextNonce := 0
      proofs := []
      book := [] }

end System

end SaaradhiGo.AuthUser
