/-
What has to have happened before an account opens itself.

Whatever the requests, however their cache calls and queries come between one another, whichever of
these raise, and whatever the cache loses: an account is opened for a number for which a code was
stored and then presented, in the role the code was asked for; a proof opens the door once; and an
operator is not signed in by a code.
-/
import SaaradhiGo.AuthUser.Doors

namespace SaaradhiGo.AuthUser

open Interleave

variable {dep : Deployment} {s s' : World} {before book book' : List Event}

/-! ## Causes -/

def SameNumber (dep : Deployment) (proved submitted : String) : Prop :=
  ∃ d, samePhone dep d proved submitted = true

def Plain (u : User) : Prop :=
  u.role ∈ selfServiceRoles ∧ u.isStaff = false ∧ u.isSuperuser = false

/-- What has to have happened before an event. -/
def Justified (dep : Deployment) (before : List Event) : Event → Prop
  | .stored _ role _ => role ∈ selfServiceRoles
  | .presented phone role otp => .stored phone role otp ∈ before
  | .proved p => (∃ otp, .presented p.phone p.role otp ∈ before) ∧
      ∀ p', .proved p' ∈ before → p'.nonce ≠ p.nonce
  | .redeemed n t => (∃ p, .proved p ∈ before ∧ p.nonce = n ∧ t < p.issuedAt + dep.proofTtl) ∧
      ∀ t', .redeemed n t' ∉ before
  | .opened u .sms => Plain u ∧ ∃ otp, .presented u.phoneNumber u.role otp ∈ before
  | .opened u (.email n) => Plain u ∧ ∃ p t, .proved p ∈ before ∧ .redeemed n t ∈ before ∧
      p.nonce = n ∧ p.role = u.role ∧ SameNumber dep p.phone u.phoneNumber
  | .signedIn u => u.isOperator = false ∧ u.isActive = true ∧
      ∃ role otp, .presented u.phoneNumber role otp ∈ before

/-- Every event of the book has its causes before it. -/
def Causal (dep : Deployment) : List Event → Prop
  | [] => True
  | e :: before => Justified dep before e ∧ Causal dep before

lemma Causal.of_suffix (h : Causal dep book) (hs : before <:+ book) : Causal dep before := by
  obtain ⟨later, rfl⟩ := hs
  induction later with
  | nil => exact h
  | cons e later ih => exact ih h.2

lemma Causal.justified (h : Causal dep book) {e : Event} (hs : e :: before <:+ book) :
    Justified dep before e := (h.of_suffix hs).1

lemma exists_suffix {e : Event} (h : e ∈ book) : ∃ before, e :: before <:+ book := by
  obtain ⟨later, before, rfl⟩ := List.append_of_mem h
  exact ⟨before, List.suffix_append _ _⟩

lemma Causal.presented (h : Causal dep book) {phone otp : String} {role : Role}
    (hmem : .presented phone role otp ∈ book) :
    [.presented phone role otp, .stored phone role otp].Sublist book := by
  obtain ⟨before, hs⟩ := exists_suffix hmem
  have hstored : .stored phone role otp ∈ before := h.justified hs
  exact ((List.singleton_sublist.mpr hstored).cons_cons _).trans hs.sublist

lemma Causal.proved (h : Causal dep book) {p : Proof} (hmem : .proved p ∈ book) :
    ∃ otp, [.proved p, .presented p.phone p.role otp, .stored p.phone p.role otp].Sublist
      book := by
  obtain ⟨before, hs⟩ := exists_suffix hmem
  obtain ⟨⟨otp, hpresented⟩, -⟩ := h.justified hs
  have hbefore := (h.of_suffix ((List.suffix_cons _ _).trans hs)).presented hpresented
  exact ⟨otp, (hbefore.cons_cons _).trans hs.sublist⟩

lemma Causal.proof_unique (h : Causal dep book) {p p' : Proof} (hmem : .proved p ∈ book)
    (hmem' : .proved p' ∈ book) (hn : p.nonce = p'.nonce) : p = p' := by
  induction book with
  | nil => cases hmem
  | cons e book ih =>
      obtain ⟨hjust, hcausal⟩ := h
      obtain rfl | hold := List.mem_cons.mp hmem
      · obtain he | hold' := List.mem_cons.mp hmem'
        · cases he
          rfl
        · exact absurd hn.symm (hjust.2 p' hold')
      · obtain rfl | hold' := List.mem_cons.mp hmem'
        · exact absurd hn (hjust.2 p hold)
        · exact ih hcausal hold hold'

lemma Causal.redeemed (h : Causal dep book) {n t : ℕ} (hmem : .redeemed n t ∈ book) :
    ∃ p otp, p.nonce = n ∧ t < p.issuedAt + dep.proofTtl ∧
      [.redeemed n t, .proved p, .presented p.phone p.role otp,
        .stored p.phone p.role otp].Sublist book := by
  obtain ⟨before, hs⟩ := exists_suffix hmem
  obtain ⟨⟨p, hproved, hn, ht⟩, -⟩ := h.justified hs
  obtain ⟨otp, hbefore⟩ := (h.of_suffix ((List.suffix_cons _ _).trans hs)).proved hproved
  exact ⟨p, otp, hn, ht, (hbefore.cons_cons _).trans hs.sublist⟩

/-! ## What is kept -/

/-- The book is causal, and what the cache and the signatures say stands in it. -/
structure Kept (dep : Deployment) (s : World) : Prop where
  causal : Causal dep s.book
  codes : ∀ phone c, s.codes phone = some c → .stored phone c.1.role c.1.otp ∈ s.book
  proofs : ∀ p ∈ s.proofs, .proved p ∈ s.book
  fresh : ∀ p, .proved p ∈ s.book → p.nonce < s.nextNonce
  /-- a nonce in the cache has not been redeemed, and goes with its proof -/
  nonces : ∀ n c, s.nonces n = some c → (∀ t, .redeemed n t ∉ s.book) ∧
    ∃ p, .proved p ∈ s.book ∧ p.nonce = n ∧ c.2 = p.issuedAt + dep.proofTtl

/-- The event is about no proof. -/
def Event.Apart : Event → Prop
  | .proved _ => False
  | .redeemed _ _ => False
  | _ => True

/-- An event that has its causes is written down. -/
lemma Kept.record (h : Kept dep s) {e : Event} (hjust : Justified dep s.book e)
    (hap : e.Apart) : Kept dep (s.record e) where
  causal := ⟨hjust, h.causal⟩
  codes phone c hc := List.mem_cons_of_mem _ (h.codes phone c hc)
  proofs p hp := List.mem_cons_of_mem _ (h.proofs p hp)
  fresh p hp := by
    obtain rfl | hp := List.mem_cons.mp hp
    · exact hap.elim
    · exact h.fresh p hp
  nonces n c hc := by
    obtain ⟨hnot, p, hp, hrest⟩ := h.nonces n c hc
    refine ⟨fun t ht => ?_, p, List.mem_cons_of_mem _ hp, hrest⟩
    obtain rfl | ht := List.mem_cons.mp ht
    · exact hap.elim
    · exact hnot t ht

/-- A code that was stored is written into the cache, with its attempts. -/
lemma Kept.setCode (h : Kept dep s) {phone : String} {entry : CodeEntry}
    (hstored : .stored phone entry.role entry.otp ∈ s.book) : Kept dep (s.setCode phone entry) where
  causal := h.causal
  codes phone' c hc := by
    simp only [World.setCode, Function.update_apply] at hc
    split at hc
    · next he =>
      rw [Option.some.injEq] at hc
      rw [he, ← hc]
      exact hstored
    · exact h.codes phone' c hc
  proofs := h.proofs
  fresh := h.fresh
  nonces := h.nonces

lemma Kept.forgetCode (h : Kept dep s) (phone : String) :
    Kept dep { s with codes := Function.update s.codes phone none } where
  causal := h.causal
  codes phone' c hc := by
    simp only [Function.update_apply] at hc
    split at hc
    · cases hc
    · exact h.codes phone' c hc
  proofs := h.proofs
  fresh := h.fresh
  nonces := h.nonces

lemma Kept.forgetNonce (h : Kept dep s) (nonce : ℕ) :
    Kept dep { s with nonces := Function.update s.nonces nonce none } where
  causal := h.causal
  codes := h.codes
  proofs := h.proofs
  fresh := h.fresh
  nonces n c hc := by
    simp only [Function.update_apply] at hc
    split at hc
    · cases hc
    · exact h.nonces n c hc

lemma Kept.setUsers (h : Kept dep s) (users : Table User.id) : Kept dep { s with users } :=
  ⟨h.causal, h.codes, h.proofs, h.fresh, h.nonces⟩

lemma Kept.wait (h : Kept dep s) (now : ℕ) : Kept dep { s with now } :=
  ⟨h.causal, h.codes, h.proofs, h.fresh, h.nonces⟩

lemma kept_outside (x : Outside) (h : Kept dep s) : Kept dep (outside x s) := by
  cases x with
  | wait n => exact h.wait _
  | loseCode phone => exact h.forgetCode phone
  | loseNonce nonce => exact h.forgetNonce nonce
  | setUsers users => exact h.setUsers users

/-! ## Operations -/

/-- What an operation is performed upon. -/
def Pre (dep : Deployment) (book : List Event) : DoorOp → Prop
  | .storeCode _ _ role => role ∈ selfServiceRoles
  | .countAttempt phone entry => .stored phone entry.role entry.otp ∈ book
  | .deleteCode phone stored => .stored phone stored.role stored.otp ∈ book
  | .issue phone role => ∃ otp, .presented phone role otp ∈ book
  | .deleteNonce p => .proved p ∈ book
  | .createUser phone _ _ role _ .sms => role ∈ selfServiceRoles ∧
      ∃ otp, .presented phone role otp ∈ book
  | .createUser phone _ _ role _ (.email n) => role ∈ selfServiceRoles ∧
      ∃ p t, .proved p ∈ book ∧ .redeemed n t ∈ book ∧ p.nonce = n ∧ p.role = role ∧
        SameNumber dep p.phone phone
  | .tokens u => u.isOperator = false ∧ u.isActive = true ∧
      ∃ role otp, .presented u.phoneNumber role otp ∈ book
  | .getCode _ | .loads _ | .getUser _ | .emailTaken _ | .verifyEmail _ => True

lemma mem_of_selfService? {asked : String} {role : Role} (h : selfService? asked = some role) :
    role ∈ selfServiceRoles := by
  rw [selfService?] at h
  split at h
  · cases h
    decide
  split at h
  · cases h
    decide
  · cases h

/-- What an answer tells. -/
def Post (book : List Event) : (o : DoorOp) → DoorAns o → Prop
  | .getCode phone, a => ∀ entry, a = some (some entry) → .stored phone entry.role entry.otp ∈ book
  | .deleteCode phone stored, a => a = some () → .presented phone stored.role stored.otp ∈ book
  | .loads _, a => ∀ p, a = .ok p → .proved p ∈ book
  | .deleteNonce p, a => a = some true → ∃ t, .redeemed p.nonce t ∈ book
  | .getUser phone, a => ∀ user, a = some (some user) → user.phoneNumber = phone
  | .createUser phone _ _ _ _ _, a => ∀ user, a = .created user → user.phoneNumber = phone
  | .storeCode _ _ _, _ | .countAttempt _ _, _ | .issue _ _, _ | .emailTaken _, _
  | .verifyEmail _, _ | .tokens _, _ => True

lemma Pre.later {o : DoorOp} (h : Pre dep book o) (hs : book <:+ book') : Pre dep book' o := by
  have hsub := hs.subset
  cases o with
  | storeCode phone otp role => exact h
  | getCode phone => trivial
  | countAttempt phone entry => exact hsub h
  | deleteCode phone stored => exact hsub h
  | issue phone role => exact h.imp fun _ ho => hsub ho
  | loads token => trivial
  | deleteNonce p => exact hsub h
  | getUser phone => trivial
  | emailTaken email => trivial
  | createUser phone email fullName role hasPassword door =>
      cases door with
      | sms => exact ⟨h.1, h.2.imp fun _ ho => hsub ho⟩
      | email n =>
          obtain ⟨hrole, p, t, hp, ht, hrest⟩ := h
          exact ⟨hrole, p, t, hsub hp, hsub ht, hrest⟩
  | verifyEmail user => trivial
  | tokens u =>
      obtain ⟨hop, hactive, role, otp, ho⟩ := h
      exact ⟨hop, hactive, role, otp, hsub ho⟩

/-- An operation keeps what is kept, and adds to the book. -/
def Goes (dep : Deployment) (s s' : World) : Prop := Kept dep s' ∧ s.book <:+ s'.book

lemma goes_answer {α : Type} {e : Choice} {a : α} (h : Kept dep s) (h' : Goes dep s s') :
    Goes dep s (e.answer a s s').2 := by
  cases e with
  | works => exact h'
  | raises done =>
      cases done with
      | false => exact ⟨h, List.suffix_rfl⟩
      | true => exact h'

lemma answer_eq_some {α : Type} {e : Choice} {a b : α} (h : (e.answer a s s').1 = some b) :
    b = a ∧ (e.answer a s s').2 = s' := by
  cases e with
  | works => exact ⟨(Option.some.inj h).symm, rfl⟩
  | raises done => cases h

lemma goes_record (h : Kept dep s) {e : Event} (hjust : Justified dep s.book e)
    (hap : e.Apart) : Goes dep s (s.record e) := ⟨h.record hjust hap, List.suffix_cons _ _⟩

lemma goes_same (h : Kept dep s) : Goes dep s s := ⟨h, List.suffix_rfl⟩

lemma goes_issue (h : Kept dep s) {phone : String} {role : Role}
    (hpre : ∃ otp, .presented phone role otp ∈ s.book) :
    let p : Proof := ⟨phone, role, s.nextNonce, s.now⟩
    Goes dep s ({ s with
      nonces := Function.update s.nonces p.nonce (some (phone, s.now + dep.proofTtl))
      nextNonce := s.nextNonce + 1
      proofs := p :: s.proofs }.record (.proved p)) := by
  intro p
  have hfresh : ∀ p', .proved p' ∈ s.book → p'.nonce ≠ p.nonce :=
    fun p' hp' => (h.fresh p' hp').ne
  refine ⟨⟨⟨⟨hpre, hfresh⟩, h.causal⟩, ?_, ?_, ?_, ?_⟩, List.suffix_cons _ _⟩
  · exact fun phone' c hc => List.mem_cons_of_mem _ (h.codes phone' c hc)
  · intro p' hp'
    obtain rfl | hp' := List.mem_cons.mp hp'
    · exact List.mem_cons_self
    · exact List.mem_cons_of_mem _ (h.proofs p' hp')
  · intro p' hp'
    obtain he | hp' := List.mem_cons.mp hp'
    · cases he
      exact Nat.lt_succ_self _
    · exact Nat.lt_succ_of_lt (h.fresh p' hp')
  · intro n c hc
    have hnot : ∀ t, .redeemed s.nextNonce t ∉ s.book := by
      intro t ht
      obtain ⟨p', otp, hn, -, hsub⟩ := h.causal.redeemed ht
      have hmem : .proved p' ∈ s.book := hsub.subset (by simp)
      exact (h.fresh p' hmem).ne hn
    have hcons : ∀ {n t}, .redeemed n t ∈ Event.proved p :: s.book → .redeemed n t ∈ s.book := by
      intro n t ht
      obtain he | ht := List.mem_cons.mp ht
      · cases he
      · exact ht
    simp only [World.record, Function.update_apply] at hc
    split at hc
    · next he =>
      rw [Option.some.injEq] at hc
      subst he
      refine ⟨fun t ht => hnot t (hcons ht), p, List.mem_cons_self, rfl, ?_⟩
      rw [← hc]
    · obtain ⟨hnot', p', hp', hrest⟩ := h.nonces n c hc
      exact ⟨fun t ht => hnot' t (hcons ht), p', List.mem_cons_of_mem _ hp', hrest⟩

lemma goes_redeem (h : Kept dep s) {p : Proof} {c : String × ℕ}
    (hc : s.nonces p.nonce = some c) (ht : s.now < c.2) :
    Goes dep s ({ s with nonces := Function.update s.nonces p.nonce none }.record
      (.redeemed p.nonce s.now)) := by
  obtain ⟨hnot, p', hp', hn, hexp⟩ := h.nonces p.nonce c hc
  refine ⟨⟨⟨⟨⟨p', hp', hn, hexp ▸ ht⟩, hnot⟩, h.causal⟩, ?_, ?_, ?_, ?_⟩, List.suffix_cons _ _⟩
  · exact fun phone c hc => List.mem_cons_of_mem _ (h.codes phone c hc)
  · exact fun p hp => List.mem_cons_of_mem _ (h.proofs p hp)
  · intro p hp
    obtain he | hp := List.mem_cons.mp hp
    · cases he
    · exact h.fresh p hp
  · intro n c hc
    simp only [World.record, Function.update_apply] at hc
    split at hc
    · cases hc
    · next hne =>
      obtain ⟨hnot', p', hp', hrest⟩ := h.nonces n c hc
      refine ⟨fun t ht => ?_, p', List.mem_cons_of_mem _ hp', hrest⟩
      obtain he | ht := List.mem_cons.mp ht
      · cases he
        exact hne rfl
      · exact hnot' t ht

lemma proved_of_loads (h : Kept dep s) {token : Token} {p : Proof}
    (hp : s.loads dep.proofTtl token = .ok p) : .proved p ∈ s.book := by
  cases token with
  | missing => cases hp
  | forged => cases hp
  | signed p' =>
      rw [World.loads] at hp
      split at hp
      · cases hp
      split at hp
      · cases hp
      · next hmem _ =>
        cases hp
        exact h.proofs p (not_not.mp hmem)

lemma stored_of_code? (h : Kept dep s) {phone : String} {entry : CodeEntry}
    (hc : s.code? phone = some entry) : .stored phone entry.role entry.otp ∈ s.book := by
  rw [World.code?, Option.map_eq_some_iff] at hc
  obtain ⟨c, hc, rfl⟩ := hc
  exact h.codes phone c (Option.filter_eq_some_iff.mp hc).1

lemma phoneNumber_of_userByPhone {phone : String} {user : User}
    (h : s.userByPhone phone = some user) : user.phoneNumber = phone := by
  simpa using List.find?_some h

lemma justified_opened {phone fullName : String} {email : Option String} {role : Role}
    {hasPassword : Bool} {door : Door} {id : ℕ} {user : User}
    (huser : user = User.created id phone email fullName role hasPassword)
    (h : Pre dep book (.createUser phone email fullName role hasPassword door)) :
    Justified dep book (.opened user door) := by
  subst huser
  cases door with
  | sms => exact ⟨⟨h.1, rfl, rfl⟩, h.2⟩
  | email n => exact ⟨⟨h.1, rfl, rfl⟩, h.2⟩

/-- What one operation does, when it is performed upon what it needs. -/
lemma exec_spec (h : Kept dep s) {o : DoorOp} (hpre : Pre dep s.book o) (e : Choice) :
    Goes dep s (exec dep o e s).2 ∧ Post (exec dep o e s).2.book o (exec dep o e s).1 := by
  cases o with
  | storeCode phone otp role =>
      refine ⟨goes_answer h ?_, trivial⟩
      have hrecord := h.record (e := .stored phone role otp) hpre trivial
      exact ⟨hrecord.setCode List.mem_cons_self, List.suffix_cons _ _⟩
  | getCode phone =>
      refine ⟨goes_answer h (goes_same h), fun entry ha => ?_⟩
      obtain ⟨ha, hs'⟩ := answer_eq_some ha
      simp only [exec, hs']
      exact stored_of_code? h ha.symm
  | countAttempt phone entry =>
      exact ⟨goes_answer h ⟨h.setCode hpre, List.suffix_rfl⟩, trivial⟩
  | deleteCode phone stored =>
      have hgoes := goes_record (h.forgetCode phone) (e := .presented phone stored.role stored.otp)
        hpre trivial
      refine ⟨goes_answer h hgoes, fun ha => ?_⟩
      obtain ⟨-, hs'⟩ := answer_eq_some ha
      simp only [exec, hs']
      exact List.mem_cons_self
  | issue phone role => exact ⟨goes_answer h (goes_issue h hpre), trivial⟩
  | loads token => exact ⟨goes_same h, fun p hp => proved_of_loads h hp⟩
  | deleteNonce p =>
      -- the nonce is redeemed where it is live, and gone after
      rcases hc : (s.nonces p.nonce).filter fun n => s.now < n.2 with _ | c
      · have hexec : exec dep (.deleteNonce p) e s = e.answer false s s := by
          simp only [exec, hc]
        rw [hexec]
        refine ⟨goes_answer h (goes_same h), fun ha => ?_⟩
        obtain ⟨ha, -⟩ := answer_eq_some ha
        cases ha
      · obtain ⟨hc', hnow⟩ := Option.filter_eq_some_iff.mp hc
        have hexec : exec dep (.deleteNonce p) e s = e.answer true s
            ({ s with nonces := Function.update s.nonces p.nonce none }.record
              (.redeemed p.nonce s.now)) := by
          simp only [exec, hc]
        rw [hexec]
        refine ⟨goes_answer h (goes_redeem h hc' (of_decide_eq_true hnow)), fun ha => ?_⟩
        obtain ⟨-, hs'⟩ := answer_eq_some ha
        rw [hs']
        exact ⟨s.now, List.mem_cons_self⟩
  | getUser phone =>
      refine ⟨goes_answer h (goes_same h), fun user ha => ?_⟩
      obtain ⟨ha, -⟩ := answer_eq_some ha
      exact phoneNumber_of_userByPhone ha.symm
  | emailTaken email => exact ⟨goes_answer h (goes_same h), trivial⟩
  | createUser phone email fullName role hasPassword door =>
      generalize huser : User.created s.users.nextKey phone email fullName role hasPassword = user
      have hphone : user.phoneNumber = phone := by rw [← huser]; rfl
      have hgoes : Goes dep s ({ s with users := s.users.put user }.record (.opened user door)) :=
        goes_record (h.setUsers _) (justified_opened huser.symm hpre) trivial
      -- a taken number or email opens no account
      by_cases htaken : ((s.userByPhone phone).isSome ||
          email.any fun a => a ≠ "" && s.emailTaken a) = true
      · simp only [exec, htaken, if_true]
        exact ⟨goes_same h, fun user ha => by cases ha⟩
      · simp only [exec, htaken, huser]
        cases e with
        | works => exact ⟨hgoes, fun user' ha => by cases ha; exact hphone⟩
        -- the database may commit before its answer is lost
        | raises done =>
            cases done with
            | false => exact ⟨goes_same h, fun user ha => by cases ha⟩
            | true => exact ⟨hgoes, fun user ha => by cases ha⟩
  | verifyEmail user =>
      refine ⟨goes_answer h ?_, trivial⟩
      split
      · exact goes_same h
      · exact ⟨h.setUsers _, List.suffix_rfl⟩
  | tokens u => exact ⟨goes_answer h (goes_record h hpre trivial), trivial⟩

/-! ## Requests -/

def Rely (_ : Entry) (s s' : World) : Prop := s.book <:+ s'.book

/-- Whatever comes between its operations, a request performs each upon what it needs. -/
def Sound (dep : Deployment) (q : Entry) (s : World) : Prop :=
  Prog.wp (exec dep) (fun _ _ s => Kept dep s) Rely (fun _ s s' => Goes dep s s') q
    (fun _ _ => True) s

lemma sound_ret (a : Answer) : Sound dep (.ret a) s := fun _ _ => trivial

lemma sound_op {o : DoorOp} {k : DoorAns o → Entry} (hpre : Pre dep s.book o)
    (hk : ∀ a s', s.book <:+ s'.book → Post s'.book o a → Sound dep (k a) s') :
    Sound dep (.op o k) s := by
  intro s₁ hs₁ e h
  obtain ⟨hgoes, hpost⟩ := exec_spec h (hpre.later hs₁) e
  exact ⟨hgoes, hk _ _ (hs₁.trans hgoes.2) hpost⟩

lemma sound_requestOtp (r : OtpRequest) : Sound dep (requestOtp dep r) s := by
  rw [requestOtp]
  split
  · exact sound_ret _
  split
  · exact sound_ret _
  split
  · exact sound_ret _
  next role hrole =>
  split
  · exact sound_ret _
  simp only
  split
  · exact sound_ret _
  refine sound_op (mem_of_selfService? hrole) fun a s' _ _ => ?_
  cases a with
  | none => exact sound_ret _
  | some =>
      dsimp only
      split
      · exact sound_ret _
      · exact sound_ret _

lemma sound_consumeOtp {phone otp : String} {raised : Entry} {k : Role → Entry}
    (hraised : ∀ s', Sound dep raised s')
    (hk : ∀ role s', (∃ otp, .presented phone role otp ∈ s'.book) → Sound dep (k role) s') :
    Sound dep (consumeOtp phone otp raised k) s := by
  refine sound_op trivial fun a s₁ _ hpost => ?_
  rcases a with _ | _ | stored
  · exact hraised s₁
  · exact sound_ret _
  have hstored := hpost stored rfl
  dsimp only
  split
  · exact sound_ret _
  split
  · refine sound_op hstored fun a s₂ _ _ => ?_
    cases a with
    | none => exact hraised s₂
    | some => exact sound_ret _
  · refine sound_op hstored fun a s₂ _ hpost => ?_
    cases a with
    | none => exact hraised s₂
    | some => exact hk _ s₂ ⟨stored.otp, hpost rfl⟩

lemma sound_signIn {user : User} (h : ∃ role otp, .presented user.phoneNumber role otp ∈ s.book) :
    Sound dep (signIn user) s := by
  rw [signIn]
  split
  · exact sound_ret _
  next hop =>
  split
  · exact sound_ret _
  next hactive =>
  refine sound_op ⟨by simpa using hop, by simpa using hactive, h⟩ fun a s' _ _ => ?_
  cases a with
  | none => exact sound_ret _
  | some => exact sound_ret _

lemma sound_retrieve {phone : String} (h : ∃ role otp, .presented phone role otp ∈ s.book) :
    Sound dep (retrieve phone) s := by
  refine sound_op trivial fun a s' hs hpost => ?_
  rcases a with _ | _ | user
  · exact sound_ret _
  · exact sound_ret _
  · obtain ⟨role, otp, hmem⟩ := h
    refine sound_signIn ⟨role, otp, ?_⟩
    rw [hpost user rfl]
    exact hs.subset hmem

lemma sound_login (r : LoginRequest) : Sound dep (login r) s := by
  rw [login]
  split
  · exact sound_ret _
  · exact sound_ret _
  next phone otp _ =>
  refine sound_consumeOtp (fun _ => sound_ret _) fun role s₁ hrole => ?_
  refine sound_op trivial fun a s₂ hs₂ hpost => ?_
  obtain ⟨otp', hmem⟩ := hrole
  have hmem₂ := hs₂.subset hmem
  rcases a with _ | _ | user
  · exact sound_retrieve ⟨role, otp', hmem₂⟩
  · dsimp only
    split
    · exact sound_ret _
    next hself =>
    refine sound_op ⟨not_not.mp hself, otp', hmem₂⟩ fun a s₃ hs₃ hpost => ?_
    have hmem₃ := hs₃.subset hmem₂
    cases a with
    | created user =>
        refine sound_signIn ⟨role, otp', ?_⟩
        rw [hpost user rfl]
        exact hmem₃
    | taken => exact sound_ret _
    | raised => exact sound_retrieve ⟨role, otp', hmem₃⟩
  · refine sound_signIn ⟨role, otp', ?_⟩
    rw [hpost user rfl]
    exact hmem₂

lemma sound_verifyPhone (r : VerifyRequest) : Sound dep (verifyPhone r) s := by
  rw [verifyPhone]
  split
  · exact sound_ret _
  · exact sound_ret _
  next phone otp _ =>
  split
  · exact sound_ret _
  split
  · exact sound_ret _
  refine sound_consumeOtp (fun _ => sound_ret _) fun role s₁ hrole => ?_
  split
  · exact sound_ret _
  refine sound_op hrole fun a s₂ _ _ => ?_
  cases a with
  | none => exact sound_ret _
  | some p => exact sound_ret _

lemma sound_openAccount {r : RegisterRequest} {role : Role} {email phone : String} {p : Proof}
    (hrole : role ∈ selfServiceRoles)
    (h : ∃ t, .proved p ∈ s.book ∧ .redeemed p.nonce t ∈ s.book ∧ p.role = role ∧
      SameNumber dep p.phone phone) :
    Sound dep (openAccount dep r role email phone p) s := by
  obtain ⟨t, hproved, hredeemed, hp, hsame⟩ := h
  rw [openAccount]
  split
  · exact sound_ret _
  refine sound_op trivial fun a s₁ hs₁ _ => ?_
  rcases a with _ | _ | _
  · exact sound_ret _
  · refine sound_op trivial fun a s₂ hs₂ _ => ?_
    rcases a with _ | _ | user
    · exact sound_ret _
    · have hs := (hs₁.trans hs₂).subset
      refine sound_op ⟨hrole, p, t, hs hproved, hs hredeemed, rfl, hp, hsame⟩
        fun a s₃ _ _ => ?_
      cases a with
      | taken => exact sound_ret _
      | raised => exact sound_ret _
      | created user =>
          dsimp only
          split
          · exact sound_ret _
          refine sound_op trivial fun a s₄ _ _ => ?_
          cases a with
          | none => exact sound_ret _
          | some => exact sound_ret _
    · exact sound_ret _
  · exact sound_ret _

lemma sound_registerWithEmail (r : RegisterRequest) : Sound dep (registerWithEmail dep r) s := by
  rw [registerWithEmail]
  split
  · exact sound_ret _
  next role hrole =>
  split
  · exact sound_ret _
  split
  · exact sound_ret _
  next email _ =>
  split
  · exact sound_ret _
  next phone _ =>
  split
  · exact sound_ret _
  split
  · exact sound_ret _
  -- the token is one that was signed, for this number and role, and its nonce is spent
  refine sound_op trivial fun a s₁ _ hpost => ?_
  cases a with
  | error e => exact sound_ret _
  | ok p =>
      have hproved := hpost p rfl
      dsimp only
      split
      · exact sound_ret _
      next hbound =>
      simp only [Bool.or_eq_true, Bool.not_eq_true', decide_eq_true_eq, not_or,
        Bool.not_eq_false, not_not] at hbound
      refine sound_op hproved fun a s₂ hs₂ hpost => ?_
      rcases a with _ | _ | _
      · exact sound_ret _
      · exact sound_ret _
      · obtain ⟨t, hredeemed⟩ := hpost rfl
        exact sound_openAccount (mem_of_selfService? hrole)
          ⟨t, hs₂.subset hproved, hredeemed, hbound.2, r.country, hbound.1.2⟩

lemma sound_entry (a : Request) (s₀ : World) : Sound dep (entry dep a s₀) s := by
  cases a with
  | requestOtp r => exact sound_requestOtp r
  | login r => exact sound_login r
  | verifyPhone r => exact sound_verifyPhone r
  | registerWithEmail r => exact sound_registerWithEmail r

/-! ## Every interleaving -/

section System

variable {τ : Type} [DecidableEq τ] {p : DoorPool τ}

/-- What is kept, with every request sound. -/
structure Safe (dep : Deployment) (p : DoorPool τ) : Prop where
  kept : Kept dep p.store
  valid : Pool.Valid (exec dep) (fun (_ : Request) _ _ s => Kept dep s) (fun _ => Rely)
    (fun _ _ s s' => Goes dep s s') (fun _ _ _ => True) p

omit [DecidableEq τ] in
lemma safe_opening (dep : Deployment) (now : ℕ) (users : Table User.id) :
    Safe dep (opening now users : DoorPool τ) where
  kept :=
    { causal := trivial
      codes := fun _ _ h => by cases h
      proofs := fun _ h => by cases h
      fresh := fun _ h => by cases h
      nonces := fun _ _ h => by cases h }
  valid := fun _ _ _ h => by cases h.1

lemma goes_step (h : Safe dep p) (m : DoorMove τ) :
    Goes dep p.store (doorStep dep p m).store := by
  cases m with
  | start t a => exact goes_same h.kept
  | outside x =>
      refine ⟨kept_outside x h.kept, ?_⟩
      cases x <;> exact List.suffix_rfl
  | advance t e =>
      by_cases hop : ∃ a o k, p.threads t = some (a, .op o k)
      · obtain ⟨a, o, k, ht⟩ := hop
        have hrefl : ∀ (_ : Request) q s, Rely q s s := fun _ _ _ => List.suffix_rfl
        exact Pool.guarantee_of_valid hrefl h.valid (fun _ _ _ _ => h.kept) ht
      · have hsame : (doorStep dep p (.advance t e)).store = p.store :=
          Pool.store_step_advance_of_not_running fun a o k ht => hop ⟨a, o, k, ht⟩
        rw [hsame]
        exact goes_same h.kept

lemma safe_step (h : Safe dep p) (m : DoorMove τ) : Safe dep (doorStep dep p m) where
  kept := (goes_step h m).1
  valid := by
    have hrefl : ∀ (_ : Request) q s, Rely q s s := fun _ _ _ => List.suffix_rfl
    have htrans : ∀ (_ : Request) q s t u, Rely q s t → Rely q t u → Rely q s u :=
      fun _ _ _ _ _ h h' => List.IsSuffix.trans h h'
    have hothers : Pool.Respects (exec dep) (entry dep) outside (fun _ => Rely) p m :=
      fun _ _ _ _ _ => (goes_step h m).2
    exact Pool.valid_step hrefl htrans h.valid (fun _ _ _ _ _ _ _ => h.kept) hothers
      fun _ a _ => sound_entry a p.store

lemma causal_run (dep : Deployment) (now : ℕ) (users : Table User.id) (ms : List (DoorMove τ)) :
    Causal dep (Transition.run (doorStep dep) (opening now users) ms).store.book := by
  have hstep : ∀ (p : DoorPool τ) m, Safe dep p → Safe dep (doorStep dep p m) :=
    fun _ m h => safe_step h m
  exact (Transition.invariant hstep ms (safe_opening dep now users)).kept.causal

end System

/-! ## Results -/

/-- What an account stands upon: its code, or its proof, in the order of events. -/
def Grounds (dep : Deployment) (earlier : List Event) (user : User) : Door → Prop
  | .sms => ∃ otp, [.presented user.phoneNumber user.role otp,
      .stored user.phoneNumber user.role otp].Sublist earlier
  | .email n => ∃ p t otp, p.nonce = n ∧ p.role = user.role ∧
      SameNumber dep p.phone user.phoneNumber ∧ t < p.issuedAt + dep.proofTtl ∧
      [.redeemed n t, .proved p, .presented p.phone p.role otp,
        .stored p.phone p.role otp].Sublist earlier

section Results

variable {τ : Type} [DecidableEq τ] {now : ℕ} {users : Table User.id} {ms : List (DoorMove τ)}
  {later earlier : List Event} {user : User} {door : Door} {n t : ℕ}

/-- An account is opened as a rider or a driver, never with an operator's rights, for a number for
which a code for that role was stored and then presented. -/
theorem accounts_open_with_their_code
    (h : (Transition.run (doorStep dep) (opening now users) ms).store.book =
      later ++ .opened user door :: earlier) :
    user.role ∈ selfServiceRoles ∧ user.isOperator = false ∧ Grounds dep earlier user door := by
  have hcausal := causal_run dep now users ms
  rw [h] at hcausal
  have hsuffix : .opened user door :: earlier <:+ later ++ .opened user door :: earlier :=
    List.suffix_append _ _
  have hearlier := hcausal.of_suffix ((List.suffix_cons _ _).trans hsuffix)
  have hjust := hcausal.justified hsuffix
  have hplain : ∀ {u : User}, Plain u → u.role ∈ selfServiceRoles ∧ u.isOperator = false := by
    intro u hu
    exact ⟨hu.1, by simp [User.isOperator, hu.2.1, hu.2.2]⟩
  cases door with
  | sms =>
      obtain ⟨hu, otp, hmem⟩ := hjust
      exact ⟨(hplain hu).1, (hplain hu).2, otp, hearlier.presented hmem⟩
  | email n =>
      obtain ⟨hu, p, t, hproved, hredeemed, hn, hrole, hsame⟩ := hjust
      obtain ⟨p', otp, hn', ht, hsub⟩ := hearlier.redeemed hredeemed
      have hp : p' = p := hearlier.proof_unique (hsub.subset (by simp)) hproved (hn'.trans hn.symm)
      subst hp
      exact ⟨(hplain hu).1, (hplain hu).2, p', t, otp, hn, hrole, hsame, ht, hsub⟩

/-- A deployment that serves India and the United States and sends its mail. -/
def twoCountries : Deployment where
  isDigit := Char.isDigit
  registry := countries
  phoneRegex := fun _ => true
  testPhones := fun _ => none
  proofTtl := 600
  validDriverName := fun _ => true
  deliverable := true

def riderPhone : String := "+919876543210"

def riderProof : Proof := ⟨riderPhone, .rider, 0, 5⟩

def riderAsks : List (DoorMove ℕ) :=
  [.start 0 (.requestOtp ⟨some riderPhone, "rider", false, "123456", true⟩), .advance 0 .works]

/-- The rider proves the number and registers. -/
def riderRegisters : List (DoorMove ℕ) :=
  riderAsks ++ [.start 1 (.verifyPhone ⟨some riderPhone, some "123456"⟩), .advance 1 .works,
    .outside (.wait 5), .advance 1 .works, .advance 1 .works,
    .start 2 (.registerWithEmail ⟨"rider", "First Rider", some "rider@example.com", some "98765 43210",
      .known india, "pass phrase", "pass phrase", false, .signed riderProof, false⟩),
    .advance 2 .works, .advance 2 .works, .advance 2 .works, .advance 2 .works,
    .advance 2 .works]

/-- The account of the rider. -/
def newRider (door : Door) : User :=
  match door with
  | .sms => User.created 1 riderPhone none "" .rider false
  | .email _ => User.created 1 riderPhone (some "rider@example.com") "First Rider" .rider true

theorem rider_opens_with_a_code :
    (newRider (.email 0)).role ∈ selfServiceRoles ∧ (newRider (.email 0)).isOperator = false ∧
      Grounds twoCountries [.redeemed 0 5, .proved riderProof,
        .presented riderPhone .rider "123456", .stored riderPhone .rider "123456"]
        (newRider (.email 0)) (.email 0) := by
  have hbook : (Transition.run (doorStep twoCountries) (opening 0 ⟨[], List.nodup_nil⟩)
      riderRegisters).store.book = [] ++ .opened (newRider (.email 0)) (.email 0) ::
        [.redeemed 0 5, .proved riderProof, .presented riderPhone .rider "123456",
          .stored riderPhone .rider "123456"] := by
    decide +kernel
  exact accounts_open_with_their_code hbook

/-- A proof is redeemed once, in its time, after its number was proved. -/
theorem proofs_are_redeemed_once
    (h : (Transition.run (doorStep dep) (opening now users) ms).store.book =
      later ++ .redeemed n t :: earlier) :
    (∀ t', .redeemed n t' ∉ later ++ earlier) ∧
      ∃ p otp, p.nonce = n ∧ t < p.issuedAt + dep.proofTtl ∧
        [.proved p, .presented p.phone p.role otp, .stored p.phone p.role otp].Sublist earlier := by
  have hcausal := causal_run dep now users ms
  rw [h] at hcausal
  have hsuffix : .redeemed n t :: earlier <:+ later ++ .redeemed n t :: earlier :=
    List.suffix_append _ _
  have hearlier := hcausal.of_suffix ((List.suffix_cons _ _).trans hsuffix)
  obtain ⟨⟨p, hproved, hn, ht⟩, hnot⟩ := hcausal.justified hsuffix
  obtain ⟨otp, hsub⟩ := hearlier.proved hproved
  refine ⟨fun t' hmem => ?_, p, otp, hn, ht, hsub⟩
  obtain hmem | hmem := List.mem_append.mp hmem
  · -- a second redemption would have had the first before it
    obtain ⟨l, l', rfl⟩ := List.append_of_mem hmem
    rw [List.append_assoc, List.cons_append] at hcausal
    have hjust := hcausal.justified (List.suffix_append l _)
    exact hjust.2 t (List.mem_append_right _ List.mem_cons_self)
  · exact hnot t' hmem

theorem rider_proof_is_redeemed_once :
    (∀ t', .redeemed 0 t' ∉ [Event.opened (newRider (.email 0)) (.email 0)] ++
      [.proved riderProof, .presented riderPhone .rider "123456",
        .stored riderPhone .rider "123456"]) ∧
      ∃ (p : Proof) (otp : String), p.nonce = 0 ∧ 5 < p.issuedAt + twoCountries.proofTtl ∧
        [Event.proved p, .presented p.phone p.role otp, .stored p.phone p.role otp].Sublist
          [.proved riderProof, .presented riderPhone .rider "123456",
            .stored riderPhone .rider "123456"] := by
  have hbook : (Transition.run (doorStep twoCountries) (opening 0 ⟨[], List.nodup_nil⟩)
      riderRegisters).store.book = [.opened (newRider (.email 0)) (.email 0)] ++ .redeemed 0 5 ::
        [.proved riderProof, .presented riderPhone .rider "123456",
          .stored riderPhone .rider "123456"] := by
    decide +kernel
  exact proofs_are_redeemed_once hbook

/-- A code never signs an operator in, nor an account that is not active: it signs in the account
of the number for which it was stored. -/
theorem codes_sign_in_plain_accounts
    (h : (Transition.run (doorStep dep) (opening now users) ms).store.book =
      later ++ .signedIn user :: earlier) :
    user.isOperator = false ∧ user.isActive = true ∧
      ∃ role otp, role ∈ selfServiceRoles ∧ [.presented user.phoneNumber role otp,
        .stored user.phoneNumber role otp].Sublist earlier := by
  have hcausal := causal_run dep now users ms
  rw [h] at hcausal
  have hsuffix : .signedIn user :: earlier <:+ later ++ .signedIn user :: earlier :=
    List.suffix_append _ _
  have hearlier := hcausal.of_suffix ((List.suffix_cons _ _).trans hsuffix)
  obtain ⟨hop, hactive, role, otp, hmem⟩ := hcausal.justified hsuffix
  have hsub := hearlier.presented hmem
  obtain ⟨before, hstored⟩ := exists_suffix (hsub.subset (List.mem_cons_of_mem _ List.mem_cons_self))
  exact ⟨hop, hactive, role, otp, hearlier.justified hstored, hsub⟩

def riderSignsIn : List (DoorMove ℕ) :=
  riderAsks ++ [.start 1 (.login ⟨some riderPhone, some "123456"⟩), .advance 1 .works,
    .advance 1 .works, .advance 1 .works, .advance 1 .works, .advance 1 .works]

theorem code_signs_rider_in :
    (newRider .sms).isOperator = false ∧ (newRider .sms).isActive = true ∧
      ∃ (role : Role) (otp : String), role ∈ selfServiceRoles ∧
        [Event.presented (newRider .sms).phoneNumber role otp,
          .stored (newRider .sms).phoneNumber role otp].Sublist
          [.opened (newRider .sms) .sms, .presented riderPhone .rider "123456",
            .stored riderPhone .rider "123456"] := by
  have hbook : (Transition.run (doorStep twoCountries) (opening 0 ⟨[], List.nodup_nil⟩)
      riderSignsIn).store.book = [] ++ .signedIn (newRider .sms) ::
        [.opened (newRider .sms) .sms, .presented riderPhone .rider "123456",
          .stored riderPhone .rider "123456"] := by
    decide +kernel
  exact codes_sign_in_plain_accounts hbook

end Results

end SaaradhiGo.AuthUser
