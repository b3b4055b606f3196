import MinotaurSubnet.Consensus.Manager
import MinotaurSubnet.Validator.ScoringEngine
import Mathlib.Data.List.Infix

/-! # The follower's proposal endpoint

`ProposalHandler.handle_proposal` with the replay guard of `verify_and_score_proposal`
as a machine. A call runs without suspension up to the start of its evaluation, and
the evaluation ends in one stretch again: it files its verdict and answers. Between
the two any number of other calls may run.
-/

namespace MinotaurSubnet.Validator

open Library Python Consensus Shared

/-- What the signature check reads. -/
structure Door where
  /-- `CONSENSUS_REQUIRE_SIGNED_PROPOSALS`. -/
  requireSigned : Bool := true
  clock : ℚ
  /-- `float(v)`. -/
  float : Value → Except PyError PyFloat
  /-- `recover_message` over the canonical text of the unsigned payload. -/
  recover : Value → Value → Except PyError String
  lockedLeader : String
  knownValidators : List String
  /-- `format(age, ".1f")`. -/
  ageText : PyFloat → String
  errorText : PyError → String

/-- `clock - t` in floats. -/
def ageOf (clock : ℚ) : PyFloat → PyFloat
  | .nan => .nan
  | .negInf => .posInf
  | .fin t => .fin (clock - t)
  | .posInf => .negInf

def unsigned : Value → Value
  | .dict fields => .dict (fields.filter fun field => field.1 ≠ "proposer_signature")
  | other => other

def checkProposer (lower : String → String) (door : Door) (address : String) : Option String :=
  if door.lockedLeader ≠ "" then
    if lower address ≠ lower door.lockedLeader then
      some (s!"Proposer {address} is not the locked leader " ++ s!"({door.lockedLeader})")
    else none
  else if door.knownValidators.any (fun v => lower v == lower address) then none
  else some s!"Proposer {address} is not a registered validator"

/-- `verify_proposer_signature`: a reason is a refusal. -/
def verifyProposerSignature (lower : String → String) (door : Door) (body : Value) :
    Except PyError (Option String) := do
  let signature ← body.get "proposer_signature"
  if !signature.truthy then
    return if door.requireSigned then
      some "Missing proposer_signature (required in production mode)" else none
  let timestamp ← body.get "timestamp"
  if timestamp.isNone then return some "missing_timestamp"
  match door.float timestamp with
  | .error .typeError | .error .valueError => return some "bad_timestamp"
  | .error e => throw e
  | .ok t =>
    let age := ageOf door.clock t
    if PyFloat.lt (.fin 60) age || age.lt (.fin (-10)) then
      return some s!"stale_or_future_timestamp:{door.ageText age}s"
    match door.recover (unsigned body) signature with
    | .error e => return some s!"Signature recovery failed: {door.errorText e}"
    | .ok address => return checkProposer lower door address

/-- A proposal id as a dictionary key: equal numbers are one key. A `nan`, which equals
    no key, is not modelled. -/
inductive CacheId where
  | str (s : String)
  | num (q : ℚ)
  | infinity (negative : Bool)
  deriving DecidableEq

def cacheId : Value → Except PyError CacheId
  | .str s => .ok (.str s)
  | .bool b => .ok (.num (if b then 1 else 0))
  | .int i => .ok (.num i)
  | .float (.fin q) => .ok (.num q)
  | .float .posInf => .ok (.infinity false)
  | .float .negInf => .ok (.infinity true)
  | _ => .error .typeError

inductive Verdict where
  | approved (a : Approval)
  | rejected (r : Rejection)

def verdictOf : Except Stop Approval → Except PyError Verdict
  | .ok a => .ok (.approved a)
  | .error (.rejected r) => .ok (.rejected r)
  | .error (.raised e) => .error e

theorem verdictOf_approved {result v} (filed : verdictOf result = .ok (.approved v)) :
    result = .ok v := by
  cases result with
  | ok a =>
    simp only [verdictOf, Except.ok.injEq, Verdict.approved.injEq] at filed
    rw [filed]
  | error stop => cases stop <;> simp [verdictOf] at filed

def seenProposalsTtl : ℚ := 600

def seenProposalsMax : Nat := 10000

abbrev SeenProposals := Dict (CacheId × CacheId) (ℚ × Option Verdict)

/-- `_evict_expired_locked`. -/
def evictExpired (now : ℚ) (seen : SeenProposals) : SeenProposals :=
  if seen.size ≤ seenProposalsMax then seen
  else
    let live := seen.filter fun _ entry => !(entry.1 < now - seenProposalsTtl)
    live.dropOldest (live.size - seenProposalsMax)

structure Evaluation where
  body : Value
  key : CacheId × CacheId

structure GuardState where
  seen : SeenProposals
  running : Dict Nat Evaluation
  calls : Nat

/-- What a signature reads besides the verdict. -/
structure Signing where
  thresholdRead : Int
  clock : ℚ

structure Handler where
  consensus : Option OrderNode
  scoreThreshold : PyFloat

inductive GuardEvent where
  | receive (request : Option Value) (door : Door) (now : ℚ) (signing : Signing)
  | finish (ref : Nat) (outside : Outside) (later : ℚ) (signing : Signing)
  | cancel (ref : Nat)

inductive GuardOutput where
  | approval (a : SignedApproval)
  | reply (status : Nat) (reason : String) (reasonCode : Option RejectionCode)
  | raised (e : PyError)
  | evaluating (ref : Nat)
  | idle

namespace Handler

variable (host : Host) (handler : Handler)

/-- `sign_approval` of a verdict; ids that are no strings raise. -/
def sign (node : OrderNode) (a : Approval) (signing : Signing) : Except PyError SignedApproval :=
  match a.orderId, a.planHash with
  | .str orderId, .str planHash =>
    match node.signApproval host orderId planHash a.localScore
        (orderTarget (some a.chainId) a.contractAddress) signing.thresholdRead signing.clock with
    | some signed => .ok signed
    | none => .error (.other "sign_approval")
  | _, _ => .error .attributeError

def respond (node : OrderNode) (signing : Signing) : Verdict → GuardOutput
  | .rejected r => .reply r.status r.reason (some r.reasonCode)
  | .approved a =>
    match sign host node a signing with
    | .ok signed => .approval signed
    | .error e => .raised e

def proposalKey (body : Value) : Except PyError (Option (CacheId × CacheId)) := do
  let orderId ← body.get "order_id" (.str "")
  let planHash ← body.get "plan_hash" (.str "")
  if !orderId.truthy || !planHash.truthy then return none
  return some (← cacheId orderId, ← cacheId planHash)

def liveEntry (s : GuardState) (key : CacheId × CacheId) (now : ℚ) : Option (Option Verdict) :=
  match s.seen.get? key with
  | some (seenAt, cached) => if now - seenAt < seenProposalsTtl then some cached else none
  | none => none

def beginEvaluation (s : GuardState) (body : Value) (key : CacheId × CacheId) (now : ℚ) :
    GuardState where
  seen := evictExpired now (s.seen.set key (now, none))
  running := s.running.set s.calls { body, key }
  calls := s.calls + 1

/-- `verify_and_score_proposal` up to its evaluation. The log lines of a duplicate
    slice both ids, which only strings survive. -/
def guardProposal (node : OrderNode) (s : GuardState) (body : Value) (now : ℚ) (signing : Signing) :
    GuardState × GuardOutput :=
  match proposalKey body with
  | .error e => (s, .raised e)
  | .ok none => (s, .reply 400 "order_id and plan_hash required" (some .malformedPayload))
  | .ok (some key) =>
    match liveEntry s key now, key with
    | none, _ => (beginEvaluation s body key now, .evaluating s.calls)
    | some (some verdict), (.str _, .str _) => (s, respond host node signing verdict)
    | some none, (.str _, .str _) => (s, .reply 429 "duplicate_proposal" (some .malformedPayload))
    | some _, _ => (s, .raised .typeError)

def signatureCode (reason : String) : RejectionCode :=
  if "Missing proposer_signature".toList <:+: reason.toList then .missingSignature else .sigInvalid

/-- `handle_proposal` up to the evaluation. -/
def receive (s : GuardState) (request : Option Value) (door : Door) (now : ℚ) (signing : Signing) :
    GuardState × GuardOutput :=
  match handler.consensus, request with
  | none, _ => (s, .reply 503 "Consensus not configured" none)
  | some _, none => (s, .reply 400 "Invalid JSON" none)
  | some node, some body =>
    match verifyProposerSignature host.lower door body with
    | .error e => (s, .raised e)
    | .ok (some reason) => (s, .reply 403 reason (some (signatureCode reason)))
    | .ok none => guardProposal host node s body now signing

/-- The end of an evaluation: file the verdict and answer, or drop the marker. -/
def finish (node : OrderNode) (s : GuardState) (ref : Nat) (call : Evaluation) (outside : Outside)
    (later : ℚ) (signing : Signing) : GuardState × GuardOutput :=
  match verdictOf (verifyAndScoreProposalInner host outside call.body handler.scoreThreshold) with
  | .error e =>
    ({ s with seen := s.seen.erase call.key, running := s.running.erase ref },
      if e = .sandboxOverloaded then .reply 503 "sandbox_overloaded" none else .raised e)
  | .ok verdict =>
    ({ s with seen := s.seen.set call.key (later, some verdict), running := s.running.erase ref },
      respond host node signing verdict)

def step (s : GuardState) : GuardEvent → GuardState × GuardOutput
  | .receive request door now signing => handler.receive host s request door now signing
  | .finish ref outside later signing =>
    match handler.consensus, s.running.get? ref with
    | some node, some call => handler.finish host node s ref call outside later signing
    | _, _ => (s, .idle)
  | .cancel ref =>
    match s.running.get? ref with
    | some call => ({ s with seen := s.seen.erase call.key, running := s.running.erase ref }, .idle)
    | none => (s, .idle)

def served (s : GuardState) : GuardEvent → Option (Value × Approval)
  | .receive (some body) _ now _ =>
    match proposalKey body with
    | .ok (some key) =>
      match liveEntry s key now with
      | some (some (.approved a)) => some (body, a)
      | _ => none
    | _ => none
  | .receive none _ _ _ | .cancel _ => none
  | .finish ref outside _ _ =>
    match s.running.get? ref with
    | some call =>
      match verifyAndScoreProposalInner host outside call.body handler.scoreThreshold with
      | .ok a => some (call.body, a)
      | .error _ => none
    | none => none

def signingOf : GuardEvent → Option Signing
  | .receive _ _ _ signing | .finish _ _ _ signing => some signing
  | .cancel _ => none

variable {host handler}

variable {signing : Signing} {a : SignedApproval} {s : GuardState}

theorem respond_approval {node verdict} (out : respond host node signing verdict = .approval a) :
    ∃ v, verdict = .approved v ∧ sign host node v signing = .ok a := by
  cases verdict with
  | rejected r => simp [respond] at out
  | approved v =>
    refine ⟨v, rfl, ?_⟩
    simp only [respond] at out
    cases signed : sign host node v signing with
    | error e => simp [signed] at out
    | ok b =>
      simp only [signed, GuardOutput.approval.injEq] at out
      rw [out]

theorem sign_eq_ok {node v} (signed : sign host node v signing = .ok a) :
    v.orderId = .str a.orderId ∧ v.planHash = .str a.planHash ∧ a.score = v.localScore
      ∧ ∃ context, node.signingContext host (orderTarget (some v.chainId) v.contractAddress)
          signing.thresholdRead = some context
        ∧ signPlanApproval host node.privateKey a.orderId a.planHash context.2 context.1 =
          some a.signature := by
  unfold sign at signed
  split at signed
  · next orderId planHash isOrder isHash =>
    split at signed
    · next b made =>
      cases signed
      obtain ⟨context, chosen, made⟩ := Option.bind_eq_some_iff.mp made
      obtain ⟨signature, spelled, made⟩ := Option.bind_eq_some_iff.mp made
      cases made
      exact ⟨isOrder, isHash, rfl, context, chosen, spelled⟩
    · simp at signed
  · simp at signed

variable (host handler) in
inductive Move (s : GuardState) : GuardEvent → GuardState × GuardOutput → Prop
  | stays {e : GuardEvent} {out : GuardOutput} (unsigned : ∀ a, out ≠ .approval a) : Move s e (s, out)
  /-- A cached verdict is answered again. -/
  | replays {node : OrderNode} {body : Value} {door : Door} {now : ℚ} {signing : Signing}
      {key : CacheId × CacheId} {verdict : Verdict} (configured : handler.consensus = some node)
      (keyed : proposalKey body = .ok (some key)) (live : liveEntry s key now = some (some verdict)) :
      Move s (.receive (some body) door now signing) (s, respond host node signing verdict)
  | begins {body : Value} {door : Door} {now : ℚ} {signing : Signing} {key : CacheId × CacheId}
      (keyed : proposalKey body = .ok (some key)) :
      Move s (.receive (some body) door now signing)
        (beginEvaluation s body key now, .evaluating s.calls)
  /-- The verdict of an evaluation is filed and answered. -/
  | files {node : OrderNode} {ref : Nat} {call : Evaluation} {outside : Outside} {later : ℚ}
      {signing : Signing} {verdict : Verdict} (configured : handler.consensus = some node)
      (running : s.running.get? ref = some call)
      (filed : verdictOf (verifyAndScoreProposalInner host outside call.body handler.scoreThreshold) =
        .ok verdict) :
      Move s (.finish ref outside later signing)
        ({ s with seen := s.seen.set call.key (later, some verdict), running := s.running.erase ref },
          respond host node signing verdict)
  /-- An evaluation ends without a verdict. -/
  | drops {e : GuardEvent} {ref : Nat} {key : CacheId × CacheId} {out : GuardOutput}
      (unsigned : ∀ a, out ≠ .approval a) :
      Move s e ({ s with seen := s.seen.erase key, running := s.running.erase ref }, out)

theorem receive_move (s : GuardState) (request : Option Value) (door : Door) (now : ℚ)
    (signing : Signing) :
    Move host handler s (.receive request door now signing)
      (handler.receive host s request door now signing) := by
  unfold receive
  split
  · exact .stays (by simp)
  · exact .stays (by simp)
  · next node body configured =>
    split
    · exact .stays (by simp)
    · exact .stays (by simp)
    · unfold guardProposal
      split
      · exact .stays (by simp)
      · exact .stays (by simp)
      · next key keyed =>
        split
        · exact .begins keyed
        · next verdict orderId planHash live => exact .replays configured keyed live
        · exact .stays (by simp)
        · exact .stays (by simp)

theorem step_move (s : GuardState) (e : GuardEvent) : Move host handler s e (handler.step host s e) := by
  cases e with
  | receive request door now signing => exact receive_move s request door now signing
  | finish ref outside later signing =>
    simp only [step]
    split
    · next node call configured running =>
      unfold finish
      split
      · exact .drops (by intro a; split <;> simp)
      · next verdict filed => exact .files configured running filed
    · exact .stays (by simp)
  | cancel ref =>
    simp only [step]
    split
    · exact .drops (by simp)
    · exact .stays (by simp)

theorem step_approval {e} (out : (handler.step host s e).2 = .approval a) :
    ∃ node body v signing, handler.consensus = some node ∧ handler.served host s e = some (body, v)
      ∧ signingOf e = some signing ∧ sign host node v signing = .ok a := by
  have move : Move host handler s e (handler.step host s e) := step_move s e
  generalize handler.step host s e = after at move out
  cases move with
  | stays unsigned => exact absurd out (unsigned a)
  | drops unsigned => exact absurd out (unsigned a)
  | begins keyed => simp at out
  | @replays node body _ _ signing _ _ configured keyed live =>
    obtain ⟨v, rfl, signed⟩ := respond_approval out
    exact ⟨node, body, v, signing, configured, by simp [served, keyed, live], rfl, signed⟩
  | @files node _ call _ _ signing _ configured running filed =>
    obtain ⟨v, rfl, signed⟩ := respond_approval out
    exact ⟨node, call.body, v, signing, configured,
      by simp [served, running, verdictOf_approved filed], rfl, signed⟩

theorem step_running {e ref call} (after : (handler.step host s e).1.running.get? ref = some call) :
    s.running.get? ref = some call
      ∨ ∃ door now signing, e = .receive (some call.body) door now signing
          ∧ proposalKey call.body = .ok (some call.key) := by
  have move : Move host handler s e (handler.step host s e) := step_move s e
  generalize handler.step host s e = next at move after
  cases move with
  | stays => exact .inl after
  | replays => exact .inl after
  | files => exact .inl (Dict.get?_erase_some after)
  | drops => exact .inl (Dict.get?_erase_some after)
  | begins keyed =>
    simp only [beginEvaluation, Dict.get?_set] at after
    split at after
    · cases after
      exact .inr ⟨_, _, _, rfl, keyed⟩
    · exact .inl after

theorem served_finish {ref outside later body v}
    (serves : handler.served host s (.finish ref outside later signing) = some (body, v)) :
    ∃ call, s.running.get? ref = some call ∧ call.body = body
      ∧ verifyAndScoreProposalInner host outside call.body handler.scoreThreshold = .ok v := by
  simp only [served] at serves
  split at serves
  · next call running =>
    split at serves
    · next approved evaluated =>
      obtain ⟨rfl, rfl⟩ := Prod.mk.inj (Option.some.inj serves)
      exact ⟨call, running, rfl, evaluated⟩
    · simp at serves
  · simp at serves

theorem served_receive {request door now body v}
    (serves : handler.served host s (.receive request door now signing) = some (body, v)) :
    ∃ key seenAt, s.seen.get? key = some (seenAt, some (.approved v)) := by
  unfold served at serves
  split at serves
  · next body' _ now' _ same =>
    injection same with _ _ sameNow _
    split at serves
    · next key keyed =>
      split at serves
      · next approved live =>
        obtain ⟨rfl, rfl⟩ := Prod.mk.inj (Option.some.inj serves)
        unfold liveEntry at live
        split at live
        · next seenAt cached found =>
          split at live
          · cases live
            exact ⟨key, seenAt, found⟩
          · simp at live
        · simp at live
      · simp at serves
    · simp at serves
  all_goals simp_all

theorem finish_approval {ref outside later}
    (out : (handler.step host s (.finish ref outside later signing)).2 = .approval a) :
    ∃ call v, s.running.get? ref = some call
      ∧ verifyAndScoreProposalInner host outside call.body handler.scoreThreshold = .ok v
      ∧ a.score = v.localScore := by
  obtain ⟨node, body, v, _, -, serves, -, signed⟩ := step_approval out
  obtain ⟨call, running, -, evaluated⟩ := served_finish serves
  exact ⟨call, v, running, evaluated, (sign_eq_ok signed).2.2.1⟩

end Handler

def GuardOutput.approval? : GuardOutput → Option SignedApproval
  | .approval a => some a
  | _ => none

theorem GuardOutput.approval?_eq_some {out : GuardOutput} {a} :
    out.approval? = some a ↔ out = .approval a := by
  cases out <;> simp [GuardOutput.approval?]

def smallFollower : Handler where
  consensus := some {
    validatorId := "0x0b"
    privateKey := "0b"
    meanScore := fun _ => .fin 0 }
  scoreThreshold := .fin (1 / 2)

/-- It accepts what `0x0a`, the locked leader, signs at time zero. -/
def leaderDoor : Door where
  clock := 0
  float := fun v => match v.number? with
    | some t => .ok t
    | none => .error .typeError
  recover := fun _ _ => .ok "0x0a"
  lockedLeader := "0x0a"
  knownValidators := []
  ageText := fun _ => "0.0"
  errorText := fun _ => ""

def idleGuard : GuardState where
  seen := .empty
  running := .empty
  calls := 0

def receivedBy (body : Value) : GuardState :=
  (smallFollower.step spellingHost idleGuard (.receive (some body) leaderDoor 0 ⟨5000, 0⟩)).1

theorem receivedBy_running {body ref call}
    (running : (receivedBy body).running.get? ref = some call) : call.body = body := by
  rcases Handler.step_running running with before | ⟨_, _, _, received, -⟩
  · simp [idleGuard] at before
  · injection received with same
    exact (Option.some.inj same).symm

/-- A signed body for app `app` on chain 1 with the given plan hash, plan and parameters. -/
def proposalBody (planHash : String) (plan : Value) (params : List (String × Value)) : Value :=
  .dict [("order_id", .str "o"), ("plan_hash", .str planHash), ("plan", plan),
    ("score", .float (.fin 1)), ("app_id", .str "app"), ("params", .dict params),
    ("chain_id", .int 1), ("proposer", .str "0x0a"), ("timestamp", .int 0),
    ("proposer_signature", .str "0a")]

def emptyPlan : Value :=
  .dict [("intent_id", .str "app"), ("interactions", .list []), ("deadline", .int 0),
    ("nonce", .int 0), ("metadata", .dict [])]

/-- The app is deployed on chain 1 and `loaded`; its contract scores every plan at 9000 and
    the scoring engine gives 1. -/
def wellOutside (loaded : List String) : Outside where
  registryDeployment := fun _ _ => .ok (some "0xc0")
  isRegisteredApp := fun _ _ => .ok true
  loadedIntents := .ok loaded
  scoringDeployment := fun _ _ => .ok (some "0xc0")
  simulate := some fun _ => .ok { success := true, gasUsed := 21000, onChainScore := some 9000 }
  jsScore := fun _ _ _ _ => .ok (.fin 1)
  signingDeployment := fun _ _ => .ok (some "0xc0")
  verifyEscrow := fun _ _ _ _ => .ok (.ok ())
  gasPrice := fun _ => .ok 1
  feeClamp := fun _ => ⟨0, 1000000⟩
  onChainThreshold := fun _ => .ok (some 5000)
  str := fun _ => "app"
  fixed := fun _ => "1.0000"
  discounted := fun amount => .ok amount

end MinotaurSubnet.Validator
