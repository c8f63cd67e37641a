/-
What an operator is answered who proposes a change of an alert threshold or of a platform
setting, after any history of requests.

The proposal makes the idempotency key from the proposed values, and the approval service
keeps a key occupied while its request is open and after it was executed.  So values that were
put in place once cannot be proposed again: the operator is answered with the old request
(`answeredWithExecuted`).  The answer is as it should be exactly when no request under the key
was approved or executed (`undecided_propose_iff`).
-/
import SaaradhiGo.Lib.Fallible
import SaaradhiGo.Approvals.Answered
import SaaradhiGo.CommandCentre.Threshold
import SaaradhiGo.PlatformOps.Setting

namespace SaaradhiGo.PlatformOps

open Approvals CommandCentre

/-! ## Proposals -/

/-- What the executors of the two changes work on. -/
structure World where
  lines : Lines
  settings : Settings

/-- What Python reads for the two modules, and what a caller brings along. -/
structure Env where
  numbers : CommandCentre.Reads
  texts : PlatformOps.Reads
  office : PlatformOps.Office

def Env.linesOffice (env : Env) : CommandCentre.Office :=
  ⟨env.office.actorLabel, env.office.ttl, env.office.countryNode⟩

variable {τ ε : Type}

/-- The registry: the executors of the two changes, and those of the other actions. -/
def registry (env : Env) (rest : Registry World ε) : Registry World ε where
  executorFor key :=
    if key = thresholdChange then
      some fun r _ w =>
        let out := executeThresholdChange env.numbers r w.lines
        (out.1, { w with lines := out.2 })
    else if key = settingChange then
      some fun r _ w =>
        let out := executeSettingChange env.texts r w.settings
        (out.1, { w with settings := out.2 })
    else rest.executorFor key
  notifyClosed := rest.notifyClosed

/-- A proposal of one of the two kinds. -/
inductive Edit where
  | threshold (p : CommandCentre.Proposal)
  | setting (p : PlatformOps.Proposal)

/-- Who proposes. -/
def Edit.actor : Edit → ℕ
  | threshold p => p.actor
  | setting p => p.actor

/-- The checks of a proposal, up to the request it raises. -/
def Edit.prepare (env : Env) (auth : Authority) (w : World) :
    Edit → Except Failure (Proposed World ε)
  | threshold p =>
      (proposeThresholdChange env.numbers env.linesOffice auth p).map .raised
  | setting p => proposeChange env.texts env.office w.settings p

/-- The values of a proposal are not the current ones. -/
def Edit.differs (env : Env) (w : World) : Edit → Bool
  | threshold p =>
      match validateFields env.numbers p.metric p.warnValue p.criticalValue p.window with
      | .error _ => false
      | .ok f => (w.lines.active p.city.id f.metric.key).all fun t =>
          (t.warnValue, t.criticalValue, t.window) ≠ (f.warnValue, f.criticalValue, f.window)
  | setting p =>
      match checkChange env.texts env.office w.settings p with
      | .error _ => false
      | .ok change => w.settings.get? change.row.key ≠ some change.row

/-- What an operator is answered. -/
inductive Answer where
  | refused (f : Failure)
  | applied
  | replied (reply : Option Reply)

/-- The change ran at once, or its request is still undecided. -/
def Answer.Undecided : Answer → Prop
  | refused _ => False
  | applied => True
  | replied reply => ∃ r ∈ reply, r.Undecided

/-- `propose_threshold_change` and `propose_change`. -/
def propose (env : Env) (rest : Registry World ε) (caller : τ) (p : Edit)
    (es : List (Choice ε)) (s : Store τ World) : Answer × Store τ World :=
  match p.prepare env s.authority s.world with
  | .error f => (.refused f, s)
  | .ok (.applied _ settings) => (.applied, { s with world := { s.world with settings } })
  | .ok (.raised call) =>
      let out := raiseAlone (registry env rest) caller call es s
      (.replied out.1, out.2)

/-- A proposal that passed its checks raises no request, or one that a checker is asked about
and whose key no decided request holds. -/
def Proposed.Clear (s : Store τ World) : Proposed World ε → Prop
  | .applied _ _ => True
  | .raised call => call.AsksChecker s ∧ s.Undecided call.idempotencyKey

/-! ## Keys are short -/

lemma fields_of_validate {py : CommandCentre.Reads} {metric window : String} {warn critical : Json}
    {f : Fields} (h : validateFields py metric warn critical window = .ok f) :
    f.metric ∈ metrics ∧ f.window ∈ windowNow :: rateWindows := by
  rw [validateFields] at h
  obtain ⟨m, hm, h⟩ := Fallible.bind_eq_ok.mp h
  obtain ⟨w, hw, h⟩ := Fallible.bind_eq_ok.mp h
  obtain ⟨lower, -, h⟩ := Fallible.bind_eq_ok.mp h
  obtain ⟨upper, -, h⟩ := Fallible.bind_eq_ok.mp h
  have hmetric : m ∈ metrics := by
    cases hfor : metricFor metric with
    | none =>
        rw [knownMetric, hfor] at hm
        cases hm
    | some m' =>
        rw [knownMetric, hfor] at hm
        cases hm
        exact List.mem_of_find?_eq_some hfor
  have hwindow : w ∈ windowNow :: rateWindows := by
    rw [windowOf] at hw
    generalize (if Python.strip window = "" then m.defaultWindow else Python.strip window) = x at hw
    split at hw
    · cases hw
    rename_i hrate
    split at hw
    · cases hw
    rename_i hnow
    cases hw
    by_cases hr : m.isRate = true
    · exact List.mem_cons_of_mem _ (by_contra fun hnot => hrate ⟨hr, hnot⟩)
    · rw [List.mem_cons]
      exact .inl (by_contra fun hnot => hnow ⟨hr, hnot⟩)
  split at h
  · cases h
  · split at h
    · cases h
      exact ⟨hmetric, hwindow⟩
    · cases h
  · cases h
    exact ⟨hmetric, hwindow⟩

lemma key_eq (f : Fields) (city : City) :
    f.key city = "threshold_change:" ++ city.code ++ ":" ++ f.metric.key ++ ":" ++ f.window ++
      ":" ++ lineKey f.warnValue ++ ":" ++ lineKey f.criticalValue := rfl

lemma changeKey_eq (row : Setting) :
    row.changeKey = "platform_setting:" ++ row.key ++ ":" ++ fingerprint row.value := rfl

lemma length_key_le {f : Fields} {city : City} (hmetric : f.metric ∈ metrics)
    (hwindow : f.window ∈ windowNow :: rateWindows) : (f.key city).length ≤ 200 := by
  have hkey : f.metric.key.length ≤ 18 := by
    have hall : ∀ m ∈ metrics, m.key.length ≤ 18 := by decide
    exact hall _ hmetric
  have hlength : f.window.length ≤ 5 := by
    have hall : ∀ w ∈ windowNow :: rateWindows, w.length ≤ 5 := by decide
    exact hall _ hwindow
  have hline : ∀ line, (lineKey line).length ≤ 30 := by
    intro line
    cases line with
    | none => decide
    | some h =>
        rw [lineKey, String.length_ofList]
        exact h.length_plain_le
  have hwarn := hline f.warnValue
  have hcritical := hline f.criticalValue
  have hcode := city.code_le
  have hhead : "threshold_change:".length = 17 := by decide
  have hcolon : ":".length = 1 := by decide
  simp only [key_eq, String.length_append, hhead, hcolon]
  omega

lemma length_fingerprint (value : String) : (fingerprint value).length = 19 := by
  have hhead : "sha256:".length = 7 := by decide
  rw [fingerprint, String.length_append, hhead, String.length_ofList, List.length_take,
    Sha256.length_hexdigest]
  rfl

lemma length_changeKey_le {row : Setting} (hkey : isKey row.key = true) :
    row.changeKey.length ≤ 200 := by
  have hlength : row.key.length ≤ 128 := by
    rw [← String.length_toList]
    rw [isKey] at hkey
    split at hkey
    · cases hkey
    · rename_i c rest heq
      rw [Bool.and_eq_true, decide_eq_true_eq] at hkey
      rw [heq, List.length_cons]
      omega
  have hhead : "platform_setting:".length = 17 := by decide
  have hcolon : ":".length = 1 := by decide
  simp only [changeKey_eq, String.length_append, length_fingerprint, hhead, hcolon]
  omega

/-! ## The request a proposal raises -/

/-- What is the same in every request a proposal raises. -/
structure Raised (actor : ℕ) (call : RaiseCall World ε) : Prop where
  actor : call.actor = some actor
  amount : call.amount = none
  currency : call.currency = ""
  action : call.actionKey = thresholdChange ∨ call.actionKey = settingChange
  short : call.idempotencyKey.length ≤ 200
  nonempty : call.idempotencyKey ≠ ""

lemma append_ne_empty {head tail : String} (h : head ≠ "") : head ++ tail ≠ "" := by
  intro hempty
  have hlist := congrArg String.toList hempty
  rw [String.toList_append, String.toList_empty, List.append_eq_nil_iff] at hlist
  exact h (String.toList_eq_nil_iff.mp hlist.1)

variable {env : Env} {rest : Registry World ε} {auth : Authority} {w : World}

lemma raised_threshold {p : CommandCentre.Proposal} {call : RaiseCall World ε}
    (h : proposeThresholdChange env.numbers env.linesOffice auth p = .ok call) :
    Raised p.actor call := by
  rw [proposeThresholdChange] at h
  obtain ⟨f, hf, h⟩ := Fallible.bind_eq_ok.mp h
  obtain ⟨hmetric, hwindow⟩ := fields_of_validate hf
  split at h
  · cases h
  split at h
  · cases h
  cases h
  refine ⟨rfl, rfl, rfl, .inl rfl, length_key_le hmetric hwindow, ?_⟩
  show f.key p.city ≠ ""
  simp only [key_eq, String.append_assoc]
  exact append_ne_empty (by decide)

lemma isKey_of_checkChange {s : Settings} {p : PlatformOps.Proposal} {change : Change}
    (h : checkChange env.texts env.office s p = .ok change) : isKey change.row.key = true := by
  rw [checkChange] at h
  split at h
  · cases h
  rename_i hkey
  split at h
  · cases h
  split at h
  · cases h
  split at h
  · cases h
  dsimp only at h
  split at h
  · cases h
  split at h
  · cases h
  split at h
  · cases h
  cases h
  simpa using hkey

lemma raised_setting {s : Settings} {p : PlatformOps.Proposal} {call : RaiseCall World ε}
    (h : proposeChange env.texts env.office s p = .ok (.raised call)) : Raised p.actor call := by
  rw [proposeChange] at h
  split at h
  · cases h
  rename_i change hchange
  split at h
  · cases h
    refine ⟨rfl, rfl, rfl, .inr rfl, length_changeKey_le (isKey_of_checkChange hchange), ?_⟩
    show change.row.changeKey ≠ ""
    simp only [changeKey_eq, String.append_assoc]
    exact append_ne_empty (by decide)
  · cases h

/-- What a proposal raises is a request without an amount, under a short key. -/
lemma raised_of_prepare {p : Edit} {call : RaiseCall World ε}
    (h : p.prepare env auth w = .ok (.raised call)) : Raised p.actor call := by
  cases p with
  | threshold p =>
      obtain ⟨call', hcall, hraised⟩ := Fallible.map_eq_ok.mp h
      cases hraised
      exact raised_threshold hcall
  | setting p => exact raised_setting h

/-- The service takes the request of an operator. -/
lemma Raised.precheck {actor : ℕ} {call : RaiseCall World ε} (h : Raised actor call)
    (hoperator : auth.isOperator actor = true) : call.precheck auth = .ok () := by
  rw [RaiseCall.precheck, h.actor, if_neg (by simp [hoperator]), if_neg h.nonempty]

lemma Raised.executor {actor : ℕ} {call : RaiseCall World ε} (h : Raised actor call) :
    ((registry env rest).executorFor call.actionKey).isSome := by
  rcases h.action with haction | haction
  · rw [haction]
    rfl
  · rw [haction]
    rfl

/-! ## What the operator is answered -/

section Answer

variable {s : Store τ World} {caller : τ} {es : List (Choice ε)} {p : Edit} {x : Proposed World ε}
  (hs : Kept s) (hoperator : s.authority.isOperator p.actor = true) (hes : Smooth es)
  (hmade : p.prepare env s.authority s.world = .ok x)

include hs hoperator hes hmade

lemma undecided_propose_iff_clear :
    (propose env rest caller p es s).1.Undecided ↔ x.Clear s := by
  rw [propose, hmade]
  cases x with
  | applied row settings => exact iff_of_true trivial trivial
  | raised call =>
      have hraised := raised_of_prepare hmade
      exact undecided_raiseAlone_iff (hraised.precheck hoperator) hes hraised.amount
        hraised.currency hraised.executor hraised.short hs

lemma propose_of_open {call : RaiseCall World ε} (hx : x = .raised call) {r : ApprovalRequest}
    (hr : r ∈ s.requests.rows) (hkey : r.idempotencyKey = call.idempotencyKey)
    (hopen : r.status = .requested) : (propose env rest caller p es s).2 = s := by
  subst hx
  have hraised := raised_of_prepare hmade
  rw [propose, hmade]
  exact requests_raiseAlone_of_open (hraised.precheck hoperator) hes hraised.amount
    hraised.currency hraised.executor hraised.short hs hr hkey hopen

end Answer

section Run

variable [DecidableEq τ] {s : Store τ World} {ms : List (ServiceMove τ World ε)} {p : Edit}
  {x : Proposed World ε}

/-- After any interleaving of the calls of the service, whatever the surroundings change: an
authorised operator who proposes a change that passes its checks sees it applied at once or
is answered with an undecided request exactly when it needs no checker, or the policy asks for
one and no request under its key was approved or executed; and while a request under its key
is open the proposal changes nothing. -/
theorem undecided_propose_iff (caller : τ) (es : List (Choice ε)) (hs : Kept s)
    (hrun : Transition.Guarded (serviceStep (registry env rest)) Named ⟨fun _ => none, s⟩ ms)
    (hoperator : (Transition.run (serviceStep (registry env rest)) ⟨fun _ => none, s⟩
      ms).store.authority.isOperator p.actor = true)
    (hmade : p.prepare env
      (Transition.run (serviceStep (registry env rest)) ⟨fun _ => none, s⟩ ms).store.authority
      (Transition.run (serviceStep (registry env rest)) ⟨fun _ => none, s⟩ ms).store.world = .ok x)
    (hes : Smooth es) :
    let desk := (Transition.run (serviceStep (registry env rest)) ⟨fun _ => none, s⟩ ms).store
    ((propose env rest caller p es desk).1.Undecided ↔ x.Clear desk) ∧
      ∀ call, x = .raised call → ∀ r ∈ desk.requests.rows,
        r.idempotencyKey = call.idempotencyKey → r.status = .requested →
          (propose env rest caller p es desk).2 = desk := by
  have hkept := kept_of_run hs hrun
  constructor
  · exact undecided_propose_iff_clear hkept hoperator hes hmade
  · intro call hx r hr hkey hopen
    exact propose_of_open hkept hoperator hes hmade hx hr hkey hopen

end Run

/-! ### Values that were used before -/

def digitsDecimal (text : String) : Option Python.Decimal :=
  if text ≠ "" ∧ text.toList.all Char.isDigit then
    some (.finite false (Nat.ofDigitChars 10 text.toList 0 : ℕ))
  else none

/-- Whole numbers and texts are read; there are two offices, and everybody may propose. -/
def plainEnv : Env where
  numbers := ⟨fun v => match v with
      | .str t => t
      | .int n => String.ofList (Json.intText n)
      | _ => "", fun _ => "", digitsDecimal⟩
  texts := ⟨fun v => match v with
      | .str t => t
      | _ => "", fun v => String.ofList v.dumps, fun _ => none, fun _ => none, fun _ => none⟩
  office := ⟨fun _ => "operator", fun _ => true, 72, some 1, fun _ => some 2, "IN"⟩

def hyderabad : City := ⟨4, "IN-TG-HYD", "GLOBAL/IN/IN-TG/IN-TG-HYD/", by decide⟩

/-- The seeded threshold: more than 15 % of the requests unfulfilled. -/
def seeded : AlertThreshold where
  id := 1
  city := 4
  metric := "unfulfilled_rate"
  warnValue := some ⟨false, 1500, by decide⟩
  criticalValue := none
  window := "24h"
  isActive := true
  version := 1
  reason := ""
  changedVia := none

/-- The seeded threshold, no setting and no request. -/
def seededDesk : Store ℕ World where
  requests := .empty
  nextId := 1
  policies := fun _ _ => none
  authority := everyone
  now := 0
  world := ⟨⟨[hyderabad], Table.empty.put seeded, 2⟩, .empty⟩
  moved := []
  ran := []

def noOthers : Registry World Unit := ⟨fun _ => none, fun _ _ _ w => w⟩

def warnAt (percent : ℤ) : CommandCentre.Proposal :=
  ⟨1, hyderabad, "unfulfilled_rate", .int percent, .null, "24h", "busy nights"⟩

def raiseCall (p : CommandCentre.Proposal) : Call World Unit :=
  match proposeThresholdChange plainEnv.numbers plainEnv.linesOffice everyone p with
  | .error _ => .expireStale
  | .ok call => .raise call

/-- Call `t` is made and goes through. -/
def made (t : ℕ) (a : Call World Unit) : List (ServiceMove ℕ World Unit) :=
  .start t (t, a) :: List.replicate 4 (.advance t goesOn)

/-- The line goes to 20 and back to 15, each time with a second operator's approval. -/
def thereAndBack : List (ServiceMove ℕ World Unit) :=
  made 1 (raiseCall (warnAt 20)) ++ made 2 (.approve 1 9 "agreed") ++
    made 3 (raiseCall (warnAt 15)) ++ made 4 (.approve 2 9 "agreed")

def deskAfter : Store ℕ World :=
  (Transition.run (serviceStep (registry plainEnv noOthers)) ⟨fun _ => none, seededDesk⟩
    thereAndBack).store

/-- The answer is an earlier request that was executed. -/
def Answer.wasExecuted : Answer → Bool
  | replied (some (.outcome r executed again)) => r.status = .executed && !executed && again
  | _ => false

lemma Answer.not_undecided_of_wasExecuted {a : Answer} (h : a.wasExecuted = true) :
    ¬ a.Undecided := by
  rintro hundecided
  cases a with
  | refused f => cases h
  | applied => cases h
  | replied reply =>
      obtain ⟨r, hr, hgood⟩ := hundecided
      cases hr
      cases r with
      | outcome r executed again =>
          rw [Answer.wasExecuted, Bool.and_eq_true, Bool.and_eq_true, decide_eq_true_eq] at h
          rcases hgood with hrun | hopen
          · rw [hrun] at h
            cases h.1.2
          · rw [hopen] at h
            cases h.1.1
      | decided r => exact hgood
      | expired count => exact hgood
      | failed f => exact hgood

lemma kept_seededDesk : Kept seededDesk := by
  refine ⟨fun r hr => ?_, List.nodup_nil, fun r hr => ?_, fun x hx => ?_, List.nodup_nil,
    fun x hx => ?_, List.nodup_nil⟩
  · cases hr
  · cases hr
  · cases hx
  · cases hx

lemma smooth_goesOn : Smooth (List.replicate 7 goesOn) :=
  ⟨fun e he => by rw [List.eq_of_mem_replicate he]; rfl, by simp⟩

lemma guarded_thereAndBack :
    Transition.Guarded (serviceStep (registry plainEnv noOthers)) Named
      ⟨fun _ => none, seededDesk⟩ thereAndBack :=
  ⟨rfl, trivial, trivial, trivial, trivial, rfl, trivial, trivial, trivial, trivial,
    rfl, trivial, trivial, trivial, trivial, rfl, trivial, trivial, trivial, trivial, trivial⟩

/-- The line stands at 15; 20 is proposed a second time, and the operator is answered with the
request that was executed the first time. -/
theorem answeredWithExecuted :
    Kept seededDesk ∧
      Transition.Guarded (serviceStep (registry plainEnv noOthers)) Named
        ⟨fun _ => none, seededDesk⟩ thereAndBack ∧
      (Edit.threshold (warnAt 20)).differs plainEnv deskAfter.world = true ∧
      ¬ (propose plainEnv noOthers 5 (.threshold (warnAt 20)) (List.replicate 7 goesOn)
        deskAfter).1.Undecided := by
  refine ⟨kept_seededDesk, guarded_thereAndBack, by decide +kernel, ?_⟩
  exact Answer.not_undecided_of_wasExecuted (by decide +kernel)

/-- A line of 10 was never in place: its proposal is answered with a new open request. -/
theorem undecided_warnAt_ten :
    ∃ x : Proposed World Unit,
      (Edit.threshold (warnAt 10)).prepare plainEnv deskAfter.authority deskAfter.world = .ok x ∧
      ((propose plainEnv noOthers 5 (.threshold (warnAt 10)) (List.replicate 7 goesOn)
        deskAfter).1.Undecided ↔ x.Clear deskAfter) ∧
      ∀ call, x = .raised call → ∀ r ∈ deskAfter.requests.rows,
        r.idempotencyKey = call.idempotencyKey → r.status = .requested →
          (propose plainEnv noOthers 5 (.threshold (warnAt 10)) (List.replicate 7 goesOn)
            deskAfter).2 = deskAfter := by
  obtain ⟨x, hx, -⟩ := Fallible.exists_of_any
    (e := (Edit.threshold (warnAt 10)).prepare (ε := Unit) plainEnv deskAfter.authority
      deskAfter.world) (f := fun _ => true) (by decide +kernel)
  exact ⟨x, hx, undecided_propose_iff 5 (List.replicate 7 goesOn)
    kept_seededDesk guarded_thereAndBack (by decide +kernel) hx smooth_goesOn⟩

end SaaradhiGo.PlatformOps
