import MinotaurSubnet.Relayer.Safeguards
import MinotaurSubnet.Shared.Plan
import Mathlib.Data.Finset.Card

/-! # Submitting a signed bundle

`RelayerService.handle_submit_plan` of `relayer/main.py`. The body is untrusted JSON:
the order to execute, the plan, the approvals and the submitter's wrapper are separate
parts of it, and what ties them together is this chain of checks.
-/

namespace MinotaurSubnet.Relayer

open Library Python Consensus Shared

/-- A request ends in an error response or in an exception the server turns into one. -/
inductive SubmitStop where
  | response (status : Nat) (error : String)
  | raised (e : PyError)
  deriving DecidableEq

def raisingStop {α : Type} : Except PyError α → Except SubmitStop α
  | .ok a => .ok a
  | .error e => .error (.raised e)

theorem raisingStop_eq_ok {α : Type} {x : Except PyError α} {a : α} :
    raisingStop x = .ok a ↔ x = .ok a := by
  cases x <;> simp [raisingStop]

/-- `v[key]`. -/
def item (v : Value) (key : String) : Except PyError Value :=
  match v with
  | .dict fields => match fields.lookup key with
      | some value => .ok value
      | none => .error .keyError
  | _ => .error .typeError

/-- A `SignedApproval` as the body has it; nothing types its fields. -/
structure WireApproval where
  validatorId : Value
  orderId : Value
  planHash : Value
  score : PyFloat
  signature : Value
  timestamp : PyFloat

structure SubmitService where
  host : Host
  jsonDumps : Value → String
  /-- `str(v)`. -/
  str : Value → String
  /-- `float(v)`. -/
  float : Value → Except PyError PyFloat
  errorText : PyError → String
  /-- `format(wei / 10**18, ".4f")`. -/
  eth : Int → String
  registryOf : Int → Option String
  /-- `_read_authorized_validators`. -/
  authorizedValidators : Int → Except PyError (List String)
  quorumBps : Int
  scoreThresholdFor : String → Int → Int
  /-- `recover_wrapper_signer` of a plan hash, nonce, timestamp and chain. -/
  recoverWrapperSigner : String → Int → Int → Int → Value → Except PyError String
  limits : SafeguardLimits := {}
  maxWrapperAge : Int := 30
  maxWrapperSkew : Int := 5

/-- What reaches `EvmRelayer.submit_plan`, with the readings it was accepted on. -/
structure Submission where
  orderId : Value
  chainId : Int
  plan : ExecutionPlan
  planHash : String
  contract : String
  thresholdBps : Int
  domain : List UInt8
  approvals : List WireApproval
  authorized : List String

section

variable (svc : SubmitService)

def rehydrateInteraction (i : Value) : Except PyError Interaction := do
  let target ← item i "target"
  let value ← i.get "value" (.str "0")
  let callData ← item i "call_data"
  let chainId ← (← i.get "chain_id" (.int 0)).toInt
  return { target, value := .str (svc.str value), callData, chainId := .int chainId }

def rehydratePlan (planData : Value) : Except PyError ExecutionPlan := do
  let rows ← (← planData.get "interactions" (.list [])).iterate
  let interactions ← rows.mapM (rehydrateInteraction svc)
  let intentId ← planData.get "intent_id" (.str "")
  let deadline ← (← planData.get "deadline" (.int 0)).toInt
  let nonce ← (← planData.get "nonce" (.int 0)).toInt
  let metadata ← planData.get "metadata" (.dict [])
  return {
    intentId, interactions, deadline := .int deadline, nonce := .int nonce
    metadata := metadata.or (.dict []) }

def rehydrateApproval (a : Value) : Except PyError WireApproval := do
  let validatorId ← item a "validator_id"
  let orderId ← a.get "order_id" (.str "")
  let planHash ← item a "plan_hash"
  let score ← svc.float (← a.get "score" (.float (.fin 0)))
  let signature ← item a "signature"
  let timestamp ← svc.float (← a.get "timestamp" (.float (.fin 0)))
  return { validatorId, orderId, planHash, score, signature, timestamp }

/-- `_rehydrate_consensus_result`, of which only the approvals are used further. -/
def rehydrateConsensusResult (consensusData : Value) : Except PyError (List WireApproval) :=
  if consensusData.truthy then do
    let rows ← (← consensusData.get "approvals" (.list [])).iterate
    let approvals ← rows.mapM (rehydrateApproval svc)
    let _ ← (← consensusData.get "quorum" (.int 1)).toInt
    let _ ← (← consensusData.get "collected" (.int 0)).toInt
    let _ ← svc.float (← consensusData.get "combined_score" (.float (.fin 0)))
    return approvals
  else .ok []

end

structure Bundle where
  orderData : Value
  override : Value
  wrapper : Value
  wrapperSignature : Value
  chainId : Int
  registry : String
  plan : ExecutionPlan
  deadline : Int
  approvals : List WireApproval

structure WrapperPayload where
  planHash : Value
  submissionNonce : Int
  timestamp : Int
  chainId : Int

section

variable (svc : SubmitService) (now : Int)

/-- Rehydration failures of any kind are a bad request. -/
def rehydrated {α : Type} (x : Except PyError α) : Except SubmitStop α :=
  match x with
  | .ok a => .ok a
  | .error e => .error (.response 400 s!"malformed plan/consensus_result: {svc.errorText e}")

def supportedChain (chainId : Int) : Except SubmitStop String :=
  match svc.registryOf chainId with
  | some registry => .ok registry
  | none => .error (.response 400 s!"unsupported chain_id {chainId}")

def readBundle (data : Value) : Except SubmitStop Bundle := do
  let orderData := (← raisingStop (data.get "order")).or (.dict [])
  let planData := (← raisingStop (data.get "plan")).or (.dict [])
  let consensusData := (← raisingStop (data.get "consensus_result")).or (.dict [])
  let _ ← raisingStop (svc.float (← raisingStop (data.get "score" (.float (.fin 0)))))
  let override ← raisingStop (data.get "contract_address")
  let chainId ← raisingStop ((← raisingStop (orderData.get "chain_id" (.int 0))).toIntOr 0)
  ensure (chainId ≠ 0) (.response 400 "order.chain_id required")
  let registry ← supportedChain svc chainId
  let plan ← rehydrated svc (rehydratePlan svc planData)
  let approvals ← rehydrated svc (rehydrateConsensusResult svc consensusData)
  ensure (!approvals.isEmpty) (.response 400 "no approvals in consensus_result")
  let deadline ← raisingStop plan.deadline.toInt
  let wrapper ← raisingStop (data.get "wrapper")
  let wrapperSignature ← raisingStop (data.get "wrapper_signature")
  return { orderData, override, wrapper, wrapperSignature, chainId, registry, plan, deadline, approvals }

def planHashMismatch (planHash : String) (ap : WireApproval) : SubmitStop :=
  match ap.validatorId, ap.planHash with
  | .str validatorId, .str claimed =>
    .response 400 (s!"plan_hash mismatch: approval from {slice validatorId 0 10} "
      ++ s!"claims {slice claimed 0 18}... but plan hashes to {slice planHash 0 18}...")
  | _, _ => .raised .typeError

/-- `hash_plan`, compared with what every approval claims to have signed. -/
def expectedPlanHash (bundle : Bundle) : Except SubmitStop String :=
  match hashPlan svc.host svc.jsonDumps bundle.plan with
  | none => .error (.raised (.other "hash_plan"))
  | some planHash =>
    match bundle.approvals.find? fun ap => !ap.planHash.isStr planHash with
    | some ap => .error (planHashMismatch planHash ap)
    | none => .ok planHash

def readWrapper (wrapper : Value) : Except SubmitStop WrapperPayload :=
  let fields : Except PyError WrapperPayload := do
    let planHash ← item wrapper "plan_hash"
    let submissionNonce ← (← item wrapper "submission_nonce").toInt
    let timestamp ← (← item wrapper "timestamp").toInt
    let chainId ← (← item wrapper "chain_id").toInt
    return { planHash, submissionNonce, timestamp, chainId }
  match fields with
  | .ok payload => .ok payload
  | .error .overflowError => .error (.raised .overflowError)
  | .error e => .error (.response 400 s!"malformed wrapper: {svc.errorText e}")

def isWrapperFresh (payload : WrapperPayload) : Option String :=
  let age := now - payload.timestamp
  if svc.maxWrapperAge < age then some s!"wrapper too old: {age}s > {svc.maxWrapperAge}s window"
  else if svc.maxWrapperSkew < -age then
    some s!"wrapper timestamp too far in the future: {-age}s > {svc.maxWrapperSkew}s skew"
  else none

def refuseIf (status : Nat) (error : Option String) : Except SubmitStop Unit :=
  match error with
  | some text => .error (.response status text)
  | none => .ok ()

def recoveredSigner (bundle : Bundle) (planHash : String) (payload : WrapperPayload) :
    Except SubmitStop String :=
  match svc.recoverWrapperSigner planHash payload.submissionNonce payload.timestamp payload.chainId
      bundle.wrapperSignature with
  | .ok signer => .ok signer
  | .error e => .error (.response 400 s!"wrapper sig invalid: {svc.errorText e}")

def readAuthorized (bundle : Bundle) : Except SubmitStop (List String) :=
  match svc.authorizedValidators bundle.chainId with
  | .ok authorized => .ok authorized
  | .error e => .error (.response 502 s!"ValidatorRegistry read failed: {svc.errorText e}")

def isAuthorized (authorized : List String) (address : String) : Bool :=
  authorized.any fun a => svc.host.lower a == svc.host.lower address

/-- Safeguards 3 and 4: a fresh wrapper over this plan and chain, by a registered validator. -/
def checkWrapper (bundle : Bundle) (planHash : String) :
    Except SubmitStop (WrapperPayload × String × List String) := do
  ensure (bundle.wrapper.truthy && bundle.wrapperSignature.truthy) (.response 400
    ("missing wrapper or wrapper_signature in payload — the api must sign a freshness wrapper "
      ++ "around the bundle before submitting (see consensus.leader_wrapper.sign_wrapper)"))
  let payload ← readWrapper svc bundle.wrapper
  ensure (payload.planHash.isStr planHash) (.response 400 "wrapper plan_hash doesn't match plan")
  ensure (payload.chainId = bundle.chainId)
    (.response 400 "wrapper chain_id doesn't match order")
  refuseIf 400 (isWrapperFresh svc now payload)
  let signer ← recoveredSigner svc bundle planHash payload
  ensure (bundle.registry ≠ "")
    (.response 500 s!"no ValidatorRegistry configured on chain {bundle.chainId}")
  let authorized ← readAuthorized svc bundle
  ensure (isAuthorized svc authorized signer) (.response 403
    (s!"wrapper signer {signer} not in ValidatorRegistry on chain {bundle.chainId} "
      ++ "— only registered validators can submit"))
  return (payload, signer, authorized)

def zeroAddress : String := "0x" ++ String.ofList (List.replicate 40 '0')

/-- The contract the signatures bind to: the override, else the order's own. -/
def contractForDomain (bundle : Bundle) : Except PyError String := do
  let given ← (bundle.override.or (.str "")).asStr
  let stripped := String.ofList (strip given.toList)
  if stripped ≠ "" then return stripped
  ((← bundle.orderData.get "contract_address" (.str "")).or (.str "")).asStr

def domainOf (chainId : Int) (contract : String) : Except SubmitStop (List UInt8) :=
  match buildDomainSeparator svc.host chainId (if contract = "" then zeroAddress else contract) with
  | some domain => .ok domain
  | none => .error (.raised (.other "abi_encode"))

/-- One approval: a registered validator, and its signature over the order and plan the
    approval itself names. Returns the signer's address in lower case. -/
def verifyApproval (chainId : Int) (authorized : List String) (thresholdBps : Int)
    (domain : List UInt8) (ap : WireApproval) : Except SubmitStop String := do
  let validatorId ← raisingStop ap.validatorId.asStr
  ensure (isAuthorized svc authorized validatorId) (.response 400
    s!"signer {validatorId} not in ValidatorRegistry on chain {chainId}")
  let orderId ← raisingStop ap.orderId.asStr
  let planHash ← raisingStop ap.planHash.asStr
  let signature ← raisingStop ap.signature.asStr
  match verifyPlanApproval svc.host validatorId signature orderId planHash thresholdBps domain with
  | none => .error (.raised (.other "verify_plan_approval"))
  | some false => .error (.response 400 s!"invalid EIP-712 signature from {validatorId}")
  | some true => return svc.host.lower validatorId

/-- `max(1, ceil(n * quorum_bps / 10000))`. -/
def quorumRequired (authorized : List String) : Int :=
  max 1 (((authorized.length : Int) * svc.quorumBps + 9999) / 10000)

/-- All approvals verified and enough distinct signers among them. -/
def verifyQuorum (bundle : Bundle) (planHash : String) (authorized : List String) :
    Except SubmitStop Submission := do
  let contract ← raisingStop (contractForDomain bundle)
  let thresholdBps := svc.scoreThresholdFor contract bundle.chainId
  let domain ← domainOf svc bundle.chainId contract
  let signers ← bundle.approvals.mapM
    (verifyApproval svc bundle.chainId authorized thresholdBps domain)
  ensure (quorumRequired svc authorized ≤ signers.toFinset.card) (.response 400
    (s!"insufficient quorum: {signers.toFinset.card} verified signers, need "
      ++ s!"{quorumRequired svc authorized} of {authorized.length} (quorum_bps={svc.quorumBps})"))
  let orderId ← raisingStop (bundle.orderData.get "order_id" (.str ""))
  return {
    orderId, chainId := bundle.chainId, plan := bundle.plan, planHash, contract, thresholdBps, domain
    approvals := bundle.approvals, authorized }

/-- `int(order_data.get("execution_count") or 0)`, zero when it does not convert. -/
def executionCount (orderData : Value) : Except PyError Int := do
  match (← orderData.get "execution_count").toIntOr 0 with
  | .error .overflowError => .error .overflowError
  | .error _ => return 0
  | .ok n => return n

def dedupKey (bundle : Bundle) (submission : Submission) : Except PyError String := do
  let count ← executionCount bundle.orderData
  return s!"{svc.str submission.orderId}:{count}:{submission.planHash}"

/-- `order_id[:12]` of the log line. -/
def sliceable : Value → Bool
  | .str _ | .list _ => true
  | _ => false

def lightOrder (bundle : Bundle) (submission : Submission) : Except PyError Submission := do
  if sliceable submission.orderId then
    let _ ← (← bundle.orderData.get "max_executions" (.int 1)).toInt
    let _ ← svc.float (← bundle.orderData.get "cooldown" (.float (.fin 0)))
    return submission
  else .error .typeError

/-- `handle_submit_plan` up to the counting of the signers. -/
def upToQuorum (s : Safeguards) (data : Value) : Safeguards × Except SubmitStop (Bundle × Submission) :=
  match readBundle svc data with
  | .error stop => (s, .error stop)
  | .ok bundle =>
  match Safeguards.checkDeadline now bundle.deadline with
  | some text => (s, .error (.response 400 text))
  | none =>
  let (s, full) := s.checkDailyGasRoom svc.limits now svc.eth
  match full with
  | some text => (s, .error (.response 429 text))
  | none =>
  match expectedPlanHash svc bundle with
  | .error stop => (s, .error stop)
  | .ok planHash =>
  match checkWrapper svc now bundle planHash with
  | .error stop => (s, .error stop)
  | .ok (payload, signer, authorized) =>
  let (s, replayed) := s.checkSignerNonce svc.host.lower signer payload.submissionNonce
  match replayed with
  | some text => (s, .error (.response 409 text))
  | none =>
  let (s, flooded) := s.checkCallerRate svc.limits svc.host.lower now signer
  match flooded with
  | some text => (s, .error (.response 429 text))
  | none =>
  match verifyQuorum svc bundle planHash authorized with
  | .error stop => (s, .error stop)
  | .ok submission => (s, .ok (bundle, submission))

/-- `handle_submit_plan` up to the call of `submit_plan`. -/
def handleSubmitPlan (s : Safeguards) (data : Value) : Safeguards × Except SubmitStop Submission :=
  match upToQuorum svc now s data with
  | (s, .error stop) => (s, .error stop)
  | (s, .ok (bundle, submission)) =>
  match dedupKey svc bundle submission with
  | .error e => (s, .error (.raised e))
  | .ok key =>
  let (s, seen) := s.checkPlanHashUnseen svc.limits now key bundle.deadline
  match seen with
  | some text => (s, .error (.response 409 text))
  | none => (s, raisingStop (lightOrder svc bundle submission))

end

end MinotaurSubnet.Relayer
