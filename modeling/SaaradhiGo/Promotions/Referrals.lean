/-
Referrals.

A referee is attached to a referrer at sign-up.  When the referee has completed the trips that the
campaign asks for, the referral is blocked if the two accounts share a device, a phone or a payout
instrument, and paid otherwise.  What cannot be paid stays qualified, and the sweep tries again.
-/
import SaaradhiGo.Lib.Python
import SaaradhiGo.Lib.Transition
import SaaradhiGo.Promotions.Redemption

namespace SaaradhiGo.Referrals

open SaaradhiGo.Money SaaradhiGo.Promotions

/-! ## Data -/

/-- `ATTACHED`, `QUALIFIED`, `REWARDED`, `BLOCKED`. -/
inductive ReferralStatus where
  | attached
  | qualified
  | rewarded
  | blocked
deriving DecidableEq, Repr

/-- What two accounts can share. -/
inductive Signal where
  | sameDevice
  | samePhone
  | sameInstrument
deriving DecidableEq, Repr

/-- `_role`: a rider or a driver, else nothing. -/
inductive Role where
  | rider
  | driver
deriving DecidableEq, Repr

structure BankAccount where
  ifscCode : String
  accountNumber : String
deriving DecidableEq, Repr

/-- An account, with the payout instruments of its driver if it has one. -/
structure User where
  role : Option Role
  isActive : Bool
  fcmToken : String
  phoneNumber : String
  emergencyContact : String
  hasDriver : Bool
  upiId : String
  upiContact : Option String
  bankAccount : Option BankAccount
deriving DecidableEq, Repr

/-- What the program reads of a referral campaign beside its budget. -/
structure Offer where
  isLegacy : Bool
  country : String
  audience : Option Role
  requiredTrips : ℕ
deriving DecidableEq, Repr

structure Referral where
  id : ℕ
  campaign : ℕ
  referrer : ℕ
  referee : ℕ
  codeUsed : String
  status : ReferralStatus
  deviceHash : String
  tripsCompleted : ℕ
  blockedSignals : List Signal
  referrerRewardMinor : ℕ
  refereeRewardMinor : ℕ
  rewardedAt : Option ℕ
  blockedAt : Option ℕ
deriving DecidableEq, Repr

/-- A completed trip. -/
structure Trip where
  id : ℕ
  rider : ℕ
  driver : Option ℕ
  ended : Bool
deriving DecidableEq, Repr

/-- What the program reads and writes. -/
structure Program where
  /-- the campaigns and the ledger of rewards -/
  db : Db
  referrals : Table Referral.id
  /-- `ReferralTrip`: a referral and a trip -/
  counted : List (ℕ × ℕ)
  users : ℕ → User
  offers : ℕ → Offer
  codes : String → Option ℕ
  trips : List Trip
  flagged : List (ℕ × List Signal)
  /-- what a running sweep has still to do -/
  sweeps : ℕ → List ℕ

/-- What the platform computes with texts, and where people are. -/
structure Platform where
  /-- the digest of a value, with the salt -/
  digest : String → String
  digest_ne : ∀ value, value ≠ "" → digest value ≠ ""
  lower : String → String
  upper : String → String
  /-- the digits that `\D` leaves -/
  isDigit : Char → Bool
  countryOf : ℕ → String
  /-- how close the place of a campaign is to a person, if it covers the person -/
  depth : ℕ → ℕ → Option ℕ

/-! ## Fingerprints -/

section Fingerprints

variable (p : Platform)

def salted (value : String) : String :=
  if Python.strip value = "" then "" else p.digest (Python.strip value)

/-- `_digits`: the last ten digits. -/
def digits (raw : String) : List Char :=
  let all := raw.toList.filter p.isDigit
  all.drop (all.length - 10)

def deviceHash (user : User) (supplied : String) : String :=
  if salted p supplied = "" then salted p user.fcmToken else salted p supplied

/-- `device_hashes`; `known` is the device of the referral, for its referee. -/
def deviceHashes (user : User) (known : String) : List String :=
  [salted p user.fcmToken, known].filter (· ≠ "")

def phoneKeys (user : User) : List (List Char) :=
  [digits p user.phoneNumber, digits p user.emergencyContact].filter fun k => 7 ≤ k.length

def instrumentHashes (user : User) : List String :=
  if user.role ≠ some .driver ∨ user.hasDriver = false then []
  else
    let upi (id : String) := salted p ("upi:" ++ p.lower (Python.strip id))
    let bank (b : BankAccount) := salted p
      ("bank:" ++ p.upper (Python.strip b.ifscCode) ++ ":" ++ Python.strip b.accountNumber)
    ((if user.upiId = "" then [] else [upi user.upiId]) ++
      ((user.upiContact.filter (· ≠ "")).map upi).toList ++
      ((user.bankAccount.filter (·.accountNumber ≠ "")).map bank).toList).filter (· ≠ "")

def meets {α : Type} [DecidableEq α] (l l' : List α) : Bool := l.any (· ∈ l')

def abuseSignals (referrer referee : User) (referral : Referral) : List Signal :=
  (if meets (deviceHashes p referrer "") (deviceHashes p referee referral.deviceHash) then
    [.sameDevice]
  else if referral.deviceHash ≠ "" ∧ referral.deviceHash ∈ deviceHashes p referrer "" then
    [.sameDevice]
  else []) ++
  (if meets (phoneKeys p referrer) (phoneKeys p referee) then [.samePhone] else []) ++
  if meets (instrumentHashes p referrer) (instrumentHashes p referee) then [.sameInstrument] else []

/-- The signals that the accounts of a referral share now. -/
def Program.signals (s : Program) (r : Referral) : List Signal :=
  abuseSignals p (s.users r.referrer) (s.users r.referee) r

end Fingerprints

/-! ## Attribution -/

/-- `live_campaign_for`: the most specific live campaign, the newest of those. -/
def liveCampaignFor (p : Platform) (s : Program) (user : ℕ) : Option ℕ :=
  match (s.users user).role with
  | none => none
  | some role =>
      let fits := s.db.campaigns.rows.reverse.filter fun c =>
        c.kind = .referral && c.state = .live && !(s.offers c.id).isLegacy &&
          (s.offers c.id).country = p.countryOf user && (s.offers c.id).audience = some role
      let best := fits.foldl
        (fun (best : Option (ℕ × ℕ)) c =>
          match p.depth c.id user with
          | none => best
          | some depth => if best.all fun b => b.1 < depth then some (depth, c.id) else best)
        none
      best.map Prod.snd

def Program.hasCompletedTrips (s : Program) (user : ℕ) : Bool :=
  s.trips.any fun t =>
    if (s.users user).role = some .driver then t.driver = some user else t.rider = user

/-- `attach`: the code of the refusal, or the program with one more referral; `code` is stripped
and in capitals. -/
def attach (p : Platform) (referee : ℕ) (code device : String) (s : Program) :
    Except String Program :=
  if code = "" then .error "CODE_REQUIRED"
  else if (s.users referee).role = none then .error "NOT_ELIGIBLE"
  else
    match s.codes code with
    | none => .error "CODE_NOT_FOUND"
    | some referrer =>
        if (s.users referrer).role ≠ (s.users referee).role ∨ (s.users referrer).isActive = false
        then .error "CODE_NOT_FOUND"
        else if referrer = referee then .error "SELF_REFERRAL"
        else if s.referrals.rows.any fun r => r.referee = referee then .error "ALREADY_REFERRED"
        else if s.hasCompletedTrips referee then .error "TOO_LATE"
        else
          match liveCampaignFor p s referee with
          | none => .error "NO_ACTIVE_CAMPAIGN"
          | some campaign =>
              let referral : Referral :=
                { id := s.referrals.nextKey, campaign, referrer, referee, codeUsed := code
                  status := .attached, deviceHash := deviceHash p (s.users referee) device
                  tripsCompleted := 0, blockedSignals := [], referrerRewardMinor := 0
                  refereeRewardMinor := 0, rewardedAt := none, blockedAt := none }
              .ok { s with referrals := s.referrals.put referral }

/-! ## Counting, qualifying, rewarding -/

/-- `raise_fraud_flag`, once for a referral. -/
def flag (r : Referral) (signals : List Signal) (s : Program) : Program :=
  if s.flagged.any fun f => f.1 = r.id then s
  else { s with flagged := s.flagged ++ [(r.id, signals)] }

def block (now : ℕ) (r : Referral) (signals : List Signal) (s : Program) : Program :=
  let blocked := { r with status := .blocked, blockedSignals := signals, blockedAt := some now }
  flag r signals { s with referrals := s.referrals.put blocked }

/-- The inner transaction of `pay`: the budget is spent and both rewards are entered, or the
reason why nothing is; `creditRefused` says that a wallet refuses its credit. -/
def payRewards (now : ℕ) (creditRefused : Bool) (r : Referral) (c : Campaign) (db : Db) :
    Except (Option Error) Db :=
  match db.changeCampaign r.campaign
      (Campaign.spendNow now (c.config.referrerRewardMinor + c.config.refereeRewardMinor)) with
  | .error e => .error (some e)
  | .ok spent =>
      if creditRefused then .error none
      else
        match creditReward spent r.campaign r.referrer c.config.referrerRewardMinor
            (.referrer r.id) with
        | .error e => .error (some e)
        | .ok first =>
            match creditReward first r.campaign r.referee c.config.refereeRewardMinor
                (.referee r.id) with
            | .error e => .error (some e)
            | .ok both => .ok both

/-- `pay`: the referral is rewarded, or stays qualified when the budget or a wallet refuses. -/
def pay (now : ℕ) (creditRefused : Bool) (r : Referral) (s : Program) : Except Error Program :=
  match s.db.campaigns.get? r.campaign with
  | none => .error .doesNotExist
  | some c =>
      if c.config.referrerRewardMinor + c.config.refereeRewardMinor = 0 then
        .ok { s with
          referrals := s.referrals.put { r with status := .rewarded, rewardedAt := some now } }
      else
        let paid := { r with
          status := .rewarded, rewardedAt := some now
          referrerRewardMinor := c.config.referrerRewardMinor
          refereeRewardMinor := c.config.refereeRewardMinor }
        match payRewards now creditRefused r c s.db with
        | .ok db => .ok { s with db, referrals := s.referrals.put paid }
        | .error none | .error (some (.refused _)) =>
            .ok { s with referrals := s.referrals.put { r with status := .qualified } }
        | .error (some e) => .error e

/-- `qualify`: block on abuse, else pay. -/
def qualify (p : Platform) (now : ℕ) (creditRefused : Bool) (r : Referral) (s : Program) :
    Except Error Program :=
  let r := { r with status := .qualified }
  if s.signals p r = [] then pay now creditRefused r s
  else .ok (block now r (s.signals p r) s)

/-- `count_trip`, under the lock of the referral. -/
def countTrip (p : Platform) (now : ℕ) (creditRefused : Bool) (trip : ℕ) (r : Referral)
    (s : Program) : Except Error Program :=
  if r.status ≠ .attached then .ok s
  else if (r.id, trip) ∈ s.counted then .ok s
  else
    let counted := s.counted ++ [(r.id, trip)]
    let r : Referral :=
      { r with tripsCompleted := (counted.filter fun c => c.1 = r.id).length }
    let s : Program := { s with counted, referrals := s.referrals.put r }
    let required := (s.offers r.campaign).requiredTrips
    if required ≠ 0 ∧ required ≤ r.tripsCompleted then qualify p now creditRefused r s else .ok s

/-- `on_trip_completed`, for one of the two people of the trip. -/
def onTripCompleted (p : Platform) (now : ℕ) (creditRefused : Bool) (trip : Trip) (user : ℕ)
    (s : Program) : Except Error Program :=
  if trip.ended then .ok s
  else if user ≠ trip.rider ∧ trip.driver ≠ some user then .ok s
  else
    match s.referrals.rows.find? fun r => r.referee = user && r.status = .attached with
    | none => .ok s
    | some r =>
        -- a rider's trips count for a rider, and the trips they drove for a driver
        if (s.offers r.campaign).audience = none ∨
            (s.offers r.campaign).audience ≠ (s.users user).role then .ok s
        else countTrip p now creditRefused trip.id r s

/-! ## The sweep -/

/-- The query of `retry_qualified`. -/
def Program.retryList (s : Program) (limit : ℕ) : List ℕ :=
  ((s.referrals.rows.filter fun r => r.status = .qualified &&
    (s.db.campaigns.get? r.campaign).any fun c => c.state = .live).map Referral.id).take limit

/-- The body of the loop of `retry_qualified`, under the lock of the referral. -/
def retry (now : ℕ) (creditRefused : Bool) (id : ℕ) (s : Program) : Except Error Program :=
  match s.referrals.get? id with
  | none => .error .doesNotExist
  | some r => if r.status = .qualified then pay now creditRefused r s else .ok s

/-! ## Runs -/

/-- What can happen. -/
inductive Act where
  /-- a person signs up with a code -/
  | attach (referee : ℕ) (code device : String)
  | complete (trip : Trip)
  /-- a completed trip is counted for one of its people, once more perhaps -/
  | count (now : ℕ) (creditRefused : Bool) (trip : Trip) (user : ℕ)
  /-- a sweep reads what is qualified -/
  | sweep (worker limit : ℕ)
  | retry (worker now : ℕ) (creditRefused : Bool)
  | saveUser (id : ℕ) (user : User)
  | saveCampaign (c : Campaign) (offer : Offer)
deriving DecidableEq

/-- A transaction; what it raises rolls it back. -/
def atomically (s : Program) (result : Except Error Program) : Program :=
  match result with
  | .ok s' => s'
  | .error _ => s

def step (p : Platform) (s : Program) : Act → Program
  | .attach referee code device =>
      match Referrals.attach p referee code device s with
      | .ok s' => s'
      | .error _ => s
  | .complete trip => { s with trips := s.trips ++ [trip] }
  | .count now creditRefused trip user =>
      if trip ∈ s.trips then atomically s (onTripCompleted p now creditRefused trip user s) else s
  | .sweep worker limit =>
      let todo := s.retryList limit
      { s with sweeps := Function.update s.sweeps worker todo }
  | .retry worker now creditRefused =>
      match s.sweeps worker with
      | [] => s
      | id :: todo =>
          match Referrals.retry now creditRefused id s with
          | .ok s' => { s' with sweeps := Function.update s.sweeps worker todo }
          -- what is raised ends the sweep
          | .error _ => { s with sweeps := Function.update s.sweeps worker [] }
  | .saveUser id user =>
      let users := Function.update s.users id user
      { s with users }
  | .saveCampaign c offer =>
      let offers := Function.update s.offers c.id offer
      { s with offers, db := { s.db with campaigns := s.db.campaigns.put c } }

end SaaradhiGo.Referrals
