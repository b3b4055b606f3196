import MinotaurSubnet.Shared.Plan

/-! # The follower's evaluation of a proposal

`_verify_and_score_proposal_inner` of `validator/scoring_engine.py`. The evaluation
calls the store, the simulator, the scoring engine, the chain and the fee policy; what
each call site gets back, a value or an exception, is an `Outside`. An evaluation
ends with an approval, a rejection or an uncaught exception.
-/

namespace MinotaurSubnet.Validator

open Library Python Consensus Shared

/-- The codes of `consensus/dissent.py` an evaluation can give. -/
inductive RejectionCode where
  | malformedPayload
  | missingSignature
  | sigInvalid
  | appNotRegistered
  | simulatorUnavailable
  | simulationFailed
  | planHashMismatch
  | feeNotCertified
  | onChainScoreBelowThreshold
  | scoreBelowThreshold
  deriving DecidableEq

structure Rejection where
  reason : String
  reasonCode : RejectionCode
  status : Nat := 200
  deriving DecidableEq

inductive Stop where
  | rejected (r : Rejection)
  | raised (e : PyError)
  deriving DecidableEq

/-- The verdict of an approving evaluation. -/
structure Approval where
  localScore : PyFloat
  plan : Option ExecutionPlan
  simulation : Option SimulationResult
  contractAddress : Option String
  orderId : Value
  planHash : Value
  chainId : Int
  appId : Value

def raises {α : Type} : Except PyError α → Except Stop α
  | .ok a => .ok a
  | .error e => .error (.raised e)

theorem raises_eq_ok {α : Type} {x : Except PyError α} {a : α} :
    raises x = .ok a ↔ x = .ok a := by
  cases x <;> simp [raises]

/-- Continue when `c` holds, else reject. -/
def orReject (c : Bool) (r : Rejection) : Except Stop Unit := ensure c (.rejected r)

/-- The fields of a proposal body, converted as the evaluation starts. -/
structure Proposal where
  orderId : Value
  planHash : Value
  score : Value
  appId : Value
  intentFunction : Value
  chainId : Int
  params : Value
  submittedBy : Value
  deadline : Int
  perpetual : Bool
  maxExecutions : Int
  cooldown : Int
  planData : Value
  simulation : Value

def parseProposal (body : Value) : Except PyError Proposal := do
  let orderId ← body.get "order_id" (.str "")
  let planHash ← body.get "plan_hash" (.str "")
  let score ← body.get "score" (.float (.fin 0))
  let appId ← body.get "app_id" (.str "")
  let intentFunction ← body.get "intent_function" (.str "execute")
  let chainId ← (← body.get "chain_id" (.int 1)).toIntOr 1
  let params := (← body.get "params" (.dict [])).or (.dict [])
  let submittedBy := (← body.get "submitted_by" (.str "")).or (.str "")
  let deadline ← (← body.get "deadline" (.int 0)).toIntOr 0
  let perpetual := (← body.get "perpetual" (.bool false)).truthy
  let maxExecutions ← (← body.get "max_executions" (.int 1)).toIntOr 1
  let cooldown ← (← body.get "cooldown" (.int 0)).toIntOr 0
  let planData ← body.get "plan" (.dict [])
  let simulation ← body.get "simulation"
  return { orderId, planHash, score, appId, intentFunction, chainId, params, submittedBy,
           deadline, perpetual, maxExecutions, cooldown, planData, simulation }

/-- What the call sites of one evaluation get back, in the order they are reached. -/
structure Outside where
  /-- `FOLLOWER_PROPOSAL_RESIMULATE`. -/
  resimulate : Bool := true
  /-- `onchain_score_fail_closed()`. -/
  failClosed : Bool := true
  /-- `get_deployment` before the registry check. -/
  registryDeployment : Value → Int → Except PyError (Option String)
  isRegisteredApp : String → Int → Except PyError Bool
  loadedIntents : Except PyError (List String)
  /-- `get_deployment` in the re-scoring block. -/
  scoringDeployment : Value → Int → Except PyError (Option String)
  simulate : Option (SimulationRequest → Except PyError LocalSimulation)
  jsScore : Value → ExecutionPlan → SimulationResult → IntentState → Except PyError PyFloat
  /-- `get_deployment` for the signing domain. -/
  signingDeployment : Value → Int → Except PyError (Option String)
  verifyEscrow : String → Int → Value → Int → Except PyError (Except String Unit)
  gasPrice : Int → Except PyError Int
  feeClamp : Int → FeeClamp
  /-- The `on_chain_threshold` of the app, if it is known. -/
  onChainThreshold : Value → Except PyError (Option Int)
  /-- `str(v)`. -/
  str : Value → String
  /-- `format(score, ".4f")`. -/
  fixed : PyFloat → String
  /-- `str(int(int(amount) * 0.98))`. -/
  discounted : String → Except PyError String

section

variable (host : Host) (outside : Outside)

def parseInteraction (ix : Value) : Except PyError Interaction := do
  return {
    target := ← ix.get "target" (.str "")
    value := ← ix.get "value" (.str "0")
    callData := ← ix.get "call_data" (.str "")
    chainId := ← ix.get "chain_id" (.int 1) }

def parsePlan (p : Proposal) : Except PyError ExecutionPlan := do
  let items ← (← p.planData.get "interactions" (.list [])).iterate
  let interactions ← items.mapM parseInteraction
  return {
    intentId := ← p.planData.get "intent_id" p.appId
    interactions
    deadline := ← p.planData.get "deadline" (.int 0)
    nonce := ← p.planData.get "nonce" (.int 0)
    metadata := ← p.planData.get "metadata" (.dict []) }

/-- `_KNOWN_SIGS` of the follower. -/
def followerSigs : String → Option String
  | "swap" | "execute" => some "swap(address,address,uint256,uint256,address)"
  | "buy" => some "buy(address,address,uint256,uint256,address)"
  | _ => none

def followerOrder (p : Proposal) (contract : String) : Except PyError IntentOrder := do
  let explicit ← p.params.get "intent_selector"
  let intentSelector ← resolveSelector host outside.str followerSigs explicit p.intentFunction
  let intentParams ← p.params.get "intent_params_hex" (.str "")
  let nonce ← (← p.params.get "user_nonce" (.int 0)).toIntOr 0
  return {
    orderId := p.orderId
    app := contract
    intentSelector
    intentParams
    submittedBy := p.submittedBy
    chainId := p.chainId
    deadline := p.deadline
    nonce := .int nonce
    perpetual := p.perpetual
    maxExecutions := p.maxExecutions
    cooldown := p.cooldown }

/-- The flags under which bridge calls are mocked, `or`-ed from left to right. -/
def mocksBridge (p : Proposal) : Except PyError Bool := do
  let metadata ← p.planData.get "metadata" (.dict [])
  if (← metadata.get "cross_chain").truthy then return true
  if (← metadata.get "multi_leg_plan").truthy then return true
  return (← p.params.get "_is_bridge_leg").truthy

def simulatedPlan (p : Proposal) (plan : ExecutionPlan) : Except PyError ExecutionPlan := do
  if ← mocksBridge p then
    let token ← p.params.get "input_token" (.str "")
    let amount ← (← p.params.get "input_amount" (.str "0")).toIntOr 0
    return { plan with interactions := ← mockBridgeInteractions host plan.interactions token amount }
  else return plan

/-- The request `_simulate_plan` makes. Its last check is the `len(...)` of a log line. -/
def followerRequest (p : Proposal) (plan : ExecutionPlan) (deployment : Option String) :
    Except PyError SimulationRequest := do
  let contractAddress := deployment.bind contractOf
  let tokenBalances ← seedBalances (← p.params.get "input_token") (← p.params.get "input_amount")
  let intentOrder ← contractAddress.mapM (followerOrder host outside p)
  let simulated ← simulatedPlan host p plan
  ensure ((intentOrder.map (·.intentParams.sized)).getD true) .typeError
  return { plan := simulated, contractAddress, intentOrder, tokenBalances }

/-- `_simulate_plan`: any exception, like a missing simulator, is no result. -/
def simulatePlan (p : Proposal) (plan : ExecutionPlan) (deployment : Option String) :
    Option SimulationResult :=
  match outside.simulate with
  | none => none
  | some simulate =>
    (do return (← simulate (← followerRequest host outside p plan deployment)).result).toOption

structure Rescored where
  plan : Option ExecutionPlan
  simulation : Option SimulationResult
  localScore : Value

/-- `except Exception`: the variables keep what they have; only an overload goes on. -/
def keepOn (kept : Rescored) (e : PyError) : Except Stop Rescored :=
  if e = .sandboxOverloaded then .error (.raised e) else .ok kept

def assignScore (kept : Rescored) : Except PyError PyFloat → Except Stop Rescored
  | .ok score => .ok { kept with localScore := .float score }
  | .error e => keepOn kept e

def buildSimulationFromLeader (sim : Value) : Except PyError SimulationResult := do
  let items ← (← sim.get "token_transfers" (.list [])).iterate
  let tokenTransfers ← items.mapM fun t => do
    return ({
      token := ← t.get "token" (.str "")
      fromAddr := ← t.get "from_addr" (.str "")
      toAddr := ← t.get "to_addr" (.str "")
      amount := ← t.get "amount" (.str "0") } : TokenTransfer)
  return {
    success := ← sim.get "success" (.bool false)
    gasUsed := ← sim.get "gas_used" (.int 0)
    tokenTransfers
    onChainScore := ← sim.get "on_chain_score"
    error := ← sim.get "error" }

def trustedSimulation (p : Proposal) (plan : ExecutionPlan) : Except PyError SimulationResult :=
  match p.simulation with
  | .dict (field :: fields) => buildSimulationFromLeader (.dict (field :: fields))
  | _ => buildMockSimulation outside.discounted plan p.params

def followerState (p : Proposal) (deployment : Option String) : Except PyError IntentState := do
  let nonce ← (← p.params.get "user_nonce" (.int 0)).toIntOr 0
  return {
    contractAddress := deployment.getD ""
    chainId := p.chainId
    nonce := .int nonce
    owner := p.submittedBy
    rawParams := p.params
    intentFunction := p.intentFunction }

/-- `_is_bridge`: the generator asks every interaction for `.get`, which an
    `Interaction` does not have, so the flag on a plan with calls raises. -/
def isBridge (p : Proposal) (plan : ExecutionPlan) : Except PyError Bool := do
  let flag ← p.params.get "_is_bridge_leg"
  if flag.truthy then
    if plan.interactions.isEmpty then return false else throw .attributeError
  else return false

/-- The double `0.6`. -/
def bridgeScore : PyFloat := .fin (5404319552844595 / 9007199254740992)

def ownScore (p : Proposal) (deployment : Option String) (plan : ExecutionPlan)
    (simulation : SimulationResult) : Except PyError PyFloat := do
  let state ← followerState p deployment
  let bridge ← isBridge p plan
  if bridge && simulation.success.truthy then return bridgeScore
  outside.jsScore p.appId plan simulation state

/-- The body of the `try` once the plan is built. -/
def rescorePlan (p : Proposal) (deployment : Option String) (plan : ExecutionPlan) :
    Except Stop Rescored :=
  if outside.resimulate then
    match simulatePlan host outside p plan deployment with
    | none => .error (.rejected {
        reason := "Local Anvil simulator unreachable; refusing "
          ++ "to sign on leader-supplied simulation data."
        reasonCode := .simulatorUnavailable
        status := 503 })
    | some simulation =>
      assignScore { plan := some plan, simulation := some simulation, localScore := p.score }
        (ownScore outside p deployment plan simulation)
  else
    match trustedSimulation outside p plan with
    | .error e => keepOn { plan := some plan, simulation := none, localScore := p.score } e
    | .ok simulation =>
      assignScore { plan := some plan, simulation := some simulation, localScore := p.score }
        (ownScore outside p deployment plan simulation)

def isLoaded (loaded : List String) (p : Proposal) : Bool :=
  p.appId.truthy && loaded.any (p.appId.isStr ·) && p.planData.truthy

def rescore (loaded : List String) (p : Proposal) : Except Stop Rescored :=
  let untouched : Rescored := { plan := none, simulation := none, localScore := p.score }
  if isLoaded loaded p then
    match (do return (← outside.scoringDeployment p.appId p.chainId, ← parsePlan p) :
        Except PyError (Option String × ExecutionPlan)) with
    | .error e => keepOn untouched e
    | .ok (deployment, plan) => rescorePlan host outside p deployment plan
  else .ok untouched

def registryGate (p : Proposal) : Except Stop Unit :=
  if p.appId.truthy then do
    match (← raises (outside.registryDeployment p.appId p.chainId)).bind contractOf with
    | none => return ()
    | some contract =>
      orReject (← raises (outside.isRegisteredApp contract p.chainId)) {
        reason := s!"App {outside.str p.appId} contract {contract} not "
          ++ s!"registered in AppRegistry on chain {p.chainId}"
        reasonCode := .appNotRegistered
        status := 403 }
  else .ok ()

/-- The calldata a bridge check looks at; the second spelling is the camel-case one. -/
def interactionCallData (ix : Value) : Except PyError String := do
  let first ← ix.get "call_data" (.str "")
  let callData ← if first.truthy then pure first else ix.get "callData" (.str "")
  (callData.or (.str "")).asStr

/-- `verify_platform_compiled`; the text is the reason of a refusal. -/
def verifyPlatformCompiled (planData metadata : Value) : Except PyError (Except String Unit) := do
  let compiled ← metadata.get "_platform_compiled"
  if !compiled.truthy then return .ok ()
  let items ← (← planData.get "interactions" (.list [])).iterate
  let bad ← items.findSomeM? fun ix => do
    let selector := callSelector (← interactionCallData ix)
    return if selector ∈ bridgeCallSelectors then some selector else none
  match bad with
  | some selector => return .error s!"Bridge selector {selector} in solver interactions"
  | none => return .ok ()

def isBridgeLeg (leg : Value) : Except PyError Bool := do
  let metadata ← leg.get "metadata" (.dict [])
  if (← metadata.get "type").isStr "bridge" then return true
  let items ← (← leg.get "interactions" (.list [])).iterate
  items.anyM fun ix => do
    let callData ← (← ix.get "call_data" (.str "")).asStr
    let selector := if startsWith callData "0x" then slice callData 2 10 else slice callData 0 8
    return selector == "81b4e8b4"

def forwardLegs (metadata params : Value) : Except PyError (List Value) := do
  let own ← metadata.get "multi_leg_plan"
  let multiLegPlan ← if own.truthy then pure own else params.get "multi_leg_plan"
  (← (multiLegPlan.or (.dict [])).get "forward_legs" (.list [])).iterate

def destAfterBridge (metadata params : Value) : Except PyError (Option Int) := do
  let legIndex ← metadata.get "leg_index"
  if legIndex.isNone then return none
  let leg ← legIndex.toInt
  if leg ≤ 0 then return none
  let prior ← (← forwardLegs metadata params).filterM fun l => do
    (← l.get "leg_index" (.int (-1))).lt (.fin leg)
  return if ← prior.anyM isBridgeLeg then some leg else none

def escrowGate (p : Proposal) (dest : Option Int) (contract : Option String) : Except Stop Unit :=
  match dest, contract with
  | some leg, some contract => do
      match ← raises (outside.verifyEscrow contract p.chainId p.orderId leg) with
      | .ok _ => return ()
      | .error reason => .error (.rejected {
          reason := s!"Escrow not deposited for destination leg: {reason}"
          reasonCode := .simulationFailed })
  | _, _ => .ok ()

def feeGate (p : Proposal) (simulation : Option SimulationResult) : Except Stop Unit := do
  let locked ← raises (do (← p.params.get "platform_fee_wei" (.int 0)).toIntOr 0)
  match simulation with
  | none => return ()
  | some simulation =>
    if 0 < locked then
      let gasPrice ← raises (outside.gasPrice p.chainId)
      let gasUsed ← raises (simulation.gasUsed.toIntOr 0)
      match certifyFee (outside.feeClamp p.chainId) locked gasUsed gasPrice with
      | .ok _ => return ()
      | .error reason => .error (.rejected {
          reason := s!"Fee certification failed: {reason}"
          reasonCode := .feeNotCertified })
    else return ()

def thresholdOf (p : Proposal) : Except PyError Int :=
  if p.appId.truthy then do return (← outside.onChainThreshold p.appId).getD 5000 else .ok 5000

def onChainGate (p : Proposal) (contract : Option String) (simulation : Option SimulationResult) :
    Except Stop Unit :=
  match simulation with
  | none => .ok ()
  | some simulation => do
      let threshold ← raises (thresholdOf outside p)
      orReject (!(contract.isSome && simulation.onChainScore.isNone && outside.failClosed)) {
        reason := "On-chain score unavailable — contract returned invalid or unreadable "
          ++ "(dual-scoring fail-closed)"
        reasonCode := .onChainScoreBelowThreshold }
      if simulation.onChainScore.isNone then return ()
      let below ← raises (simulation.onChainScore.lt (.fin threshold))
      orReject (!below) {
        reason := s!"On-chain score {outside.str simulation.onChainScore} BPS "
          ++ s!"below threshold {threshold}"
        reasonCode := .onChainScoreBelowThreshold }

def scoreGate (score : Value) (scoreThreshold : PyFloat) : Except Stop PyFloat := do
  match score.number? with
  | none => .error (.raised .typeError)
  | some score =>
    orReject (!score.lt scoreThreshold) {
      reason := s!"Score {outside.fixed score} below threshold"
      reasonCode := .scoreBelowThreshold }
    return score

def signingContract (p : Proposal) : Except PyError (Option String) :=
  if p.appId.truthy then do return (← outside.signingDeployment p.appId p.chainId).bind contractOf
  else .ok none

def gates (p : Proposal) (r : Rescored) (scoreThreshold : PyFloat) : Except Stop Approval := do
  let metadata ← raises (if p.planData.truthy then p.planData.get "metadata" (.dict [])
    else .ok (.dict []))
  match ← raises (verifyPlatformCompiled p.planData metadata) with
  | .error reason => .error (.rejected {
      reason := s!"Plan verification failed: {reason}", reasonCode := .planHashMismatch })
  | .ok _ =>
    let dest ← raises (destAfterBridge metadata p.params)
    let contractAddress ← raises (signingContract outside p)
    escrowGate outside p dest contractAddress
    feeGate outside p r.simulation
    onChainGate outside p contractAddress r.simulation
    let localScore ← scoreGate outside r.localScore scoreThreshold
    return {
      localScore
      plan := r.plan
      simulation := r.simulation
      contractAddress
      orderId := p.orderId
      planHash := p.planHash
      chainId := p.chainId
      appId := p.appId }

def loadedFor (p : Proposal) : Except PyError (List String) :=
  if p.appId.truthy then outside.loadedIntents else .ok []

def verifyAndScoreProposalInner (body : Value) (scoreThreshold : PyFloat) : Except Stop Approval := do
  let p ← raises (parseProposal body)
  registryGate outside p
  let loaded ← raises (loadedFor outside p)
  let r ← rescore host outside loaded p
  gates outside p r scoreThreshold

end

end MinotaurSubnet.Validator
