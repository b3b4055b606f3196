import MinotaurSubnet.Shared.Plan

/-! # The leader's processing of a single-leg order

`OrderProcessor.process` of `blockloop/order_processor.py` from the simulation of a
generated plan to its proposal, with `SimulationRunner.simulate` and the payload
`_build_proposal_payload` sends to the followers. Plans that go to the multi-leg
orchestrator have left `process` before this point.
-/

namespace MinotaurSubnet.Blockloop

open Library Python Consensus Shared

/-- The fields of an order the pipeline reads; its parameters are a dictionary. -/
structure Order where
  orderId : String
  appId : String
  intentFunction : String
  params : List (String × Value)
  submittedBy : String
  chainId : Int := 1
  deadline : PyFloat := .fin 0
  perpetual : Bool := false
  maxExecutions : Int := 1
  cooldown : PyFloat := .fin 0

/-- `order.params.get(key, default)`. -/
def Order.param (order : Order) (key : String) (default : Value := .none) : Value :=
  (order.params.lookup key).getD default

/-- `params.get(k) or ... or params.get(last)`. -/
def Order.firstOf (order : Order) : List String → Value
  | [] => .none
  | [key] => order.param key
  | key :: rest => (order.param key).or (order.firstOf rest)

/-- What every node of the network sees alike: the app store, the simulator, the scoring
    engine, the gas price and the environment. -/
structure Network where
  deployment : Value → Int → Option String
  onChainThreshold : Value → Option Int
  simulate : SimulationRequest → Except PyError LocalSimulation
  jsScore : Value → ExecutionPlan → SimulationResult → IntentState → Except PyError PyFloat
  gasPrice : Int → Int
  feeClamp : Int → FeeClamp
  failClosed : Bool := true
  /-- `str(v)`. -/
  str : Value → String
  /-- `str(int(int(amount) * 0.98))`. -/
  discounted : String → Except PyError String

structure Leader where
  validatorId : String
  crossChainEnabled : Bool := false
  simulateCrossChain : Option (SimulationRequest → Except PyError LocalSimulation) := none
  /-- The simulator object itself can deal tokens, so a contract can be seeded. -/
  dealsErc20 : Bool := false
  /-- Dealing tokens and allowances on the fork before the simulation. -/
  deal : Order → Value × Int → Except PyError Unit := fun _ _ => .ok ()
  /-- `parse_address`; `none` is the `ValueError`. -/
  parseAddress : String → Int → Option String := fun _ _ => none
  /-- `PlanScorer.score`: the scoring engine, or a mock score. -/
  scorePlan : ExecutionPlan → SimulationResult → Except PyError PyFloat
  /-- `json.dumps`. -/
  jsonDumps : Value → String

inductive LeaderStop where
  | rejected (error : String)
  | raised (e : PyError)
  deriving DecidableEq

def raising {α : Type} : Except PyError α → Except LeaderStop α
  | .ok a => .ok a
  | .error e => .error (.raised e)

theorem raising_eq_ok {α : Type} {x : Except PyError α} {a : α} :
    raising x = .ok a ↔ x = .ok a := by
  cases x <;> simp [raising]

section

variable (host : Host) (net : Network) (leader : Leader)

def deployedContract (order : Order) : Option String :=
  (net.deployment (.str order.appId) order.chainId).bind contractOf

/-- `_KNOWN_SIGS` of the leader. -/
def leaderSigs : String → Option String
  | "swap" | "execute" => some "swap(address,address,uint256,uint256,address)"
  | "buy" => some "buy(address,address,uint256,uint256,address)"
  | "rebalance" => some "rebalance(address[],uint256[],address)"
  | _ => none

def leaderExplicit (order : Order) (metadata : Value) : Except PyError Value :=
  if (order.param "intent_selector").truthy then .ok (order.param "intent_selector")
  else metadata.get "intent_selector"

def leaderOrder (order : Order) (metadata : Value) (contract : String) :
    Except PyError IntentOrder := do
  let explicit ← leaderExplicit order metadata
  let intentSelector ← resolveSelector host net.str leaderSigs explicit (.str order.intentFunction)
  let deadline ← order.deadline.toInt
  let cooldown ← order.cooldown.toInt
  return {
    orderId := .str order.orderId
    app := contract
    intentSelector
    intentParams := order.param "intent_params_hex" (.str "")
    submittedBy := .str order.submittedBy
    chainId := order.chainId
    deadline
    nonce := order.param "user_nonce" (.int 0)
    perpetual := order.perpetual
    maxExecutions := order.maxExecutions
    cooldown
    nativeInput := if (order.param "_input_token_is_native").truthy
      then some (order.param "input_amount" (.str "0")) else none }

def inputToken (order : Order) : Except PyError Value := do
  let token := order.firstOf ["input_token", "tokenIn", "token_in", "asset"]
  if token.truthy then
    let text ← token.asStr
    return if startsWith text "eip155:" then .str ((leader.parseAddress text order.chainId).getD text)
      else token
  else return token

def isDepositModel (order : Order) : Bool :=
  (order.firstOf ["amountPerBuy", "amount_per_buy"]).truthy

def leaderBalances (order : Order) : Except PyError (Option (Value × Int)) := do
  let token ← inputToken leader order
  seedBalances token (order.firstOf ["input_amount", "amountPerBuy", "amount_per_buy", "amount"])

/-- The tokens the simulator is asked to seed. A deposit-model contract is seeded before,
    if the simulator can. -/
def simulatedTokens (order : Order) (balances : Option (Value × Int)) : Option (Value × Int) :=
  if isDepositModel order && (deployedContract net order).isSome && leader.dealsErc20 then none
  else balances

def leaderRequest (order : Order) (plan : ExecutionPlan) (intentOrder : Option IntentOrder)
    (balances : Option (Value × Int)) : SimulationRequest where
  plan := plan
  contractAddress := deployedContract net order
  intentOrder := intentOrder
  tokenBalances := simulatedTokens net leader order balances

def dealTokens (order : Order) (balances : Option (Value × Int)) (contract : Option String) :
    Except PyError Unit :=
  match balances, contract with
  | some balances, some _ => leader.deal order balances
  | _, _ => .ok ()

def runSimulation (order : Order) (balances : Option (Value × Int)) (request : SimulationRequest)
    (crossChain : Bool) : Except PyError LocalSimulation := do
  dealTokens leader order balances request.contractAddress
  match crossChain, leader.simulateCrossChain with
  | true, some simulateCrossChain => simulateCrossChain request
  | _, _ => net.simulate request

/-- `SimulationRunner.simulate`: whatever the simulator raises becomes a mock result. -/
def simulate (order : Order) (balances : Option (Value × Int)) (request : SimulationRequest)
    (crossChain : Bool) : Except PyError SimulationResult :=
  match runSimulation net leader order balances request crossChain with
  | .ok result => .ok result.result
  | .error _ => buildMockSimulation net.discounted request.plan (.dict order.params)

def recordFee (plan : ExecutionPlan) (fee : Int) : ExecutionPlan :=
  match plan.metadata with
  | .dict fields =>
    if 0 < fee then { plan with metadata := .dict (setField fields) } else plan
  | _ => plan
where
  setField : List (String × Value) → List (String × Value)
    | [] => [("platform_fee_wei", .int fee)]
    | (key, value) :: rest =>
      if key = "platform_fee_wei" then (key, .int fee) :: rest else (key, value) :: setField rest

def feeGate (order : Order) (fee : Int) (simulation : SimulationResult) : Except LeaderStop Unit :=
  if 0 < fee then do
    let gasUsed ← raising (simulation.gasUsed.toIntOr 0)
    match certifyFee (net.feeClamp order.chainId) fee gasUsed (net.gasPrice order.chainId) with
    | .ok _ => return ()
    | .error reason => .error (.rejected s!"Fee certification failed: {reason}")
  else .ok ()

def onChainGate (contract : Option String) (threshold : Int) (simulation : SimulationResult) :
    Except LeaderStop Unit := do
  ensure (!(contract.isSome && simulation.onChainScore.isNone && net.failClosed))
    (.rejected ("On-chain score unavailable — contract returned invalid or unreadable "
      ++ "(dual-scoring fail-closed)"))
  if simulation.onChainScore.isNone then return ()
  let below ← raising (simulation.onChainScore.lt (.fin threshold))
  ensure (!below) (.rejected (s!"On-chain score {net.str simulation.onChainScore} BPS "
    ++ s!"< threshold {threshold}"))

def crossChainDisabledMessage : String :=
  "Cross-chain / multi-leg orders are not enabled in this environment. "
    ++ "Beta scope is single-chain Base (chain 8453). "
    ++ "Set CROSS_CHAIN_ENABLED=1 on a staging target to exercise the dev-track path."

/-- What the leader sends to the followers. -/
structure Proposed where
  plan : ExecutionPlan
  request : SimulationRequest
  simulation : SimulationResult
  score : PyFloat
  planHash : String

def appThreshold (order : Order) : Except LeaderStop Int :=
  match net.onChainThreshold (.str order.appId) with
  | some threshold => .ok threshold
  | none => .error (.rejected s!"App not found: {order.appId}")

/-- `process` from the generated plan to the proposal. -/
def process (order : Order) (generated : ExecutionPlan) : Except LeaderStop Proposed := do
  let threshold ← appThreshold net order
  let fee ← raising (order.param "platform_fee_wei" (.int 0)).toInt
  let plan := recordFee generated fee
  let contract := deployedContract net order
  let intentOrder ← raising (contract.mapM (leaderOrder host net order plan.metadata))
  let crossChain := (← raising (plan.metadata.get "cross_chain" (.bool false))).truthy
  ensure (!(crossChain && !leader.crossChainEnabled)) (.rejected crossChainDisabledMessage)
  let balances ← raising (leaderBalances leader order)
  let request := leaderRequest net leader order plan intentOrder balances
  let simulation ← raising (simulate net leader order balances request crossChain)
  feeGate net order fee simulation
  let score ← raising (leader.scorePlan plan simulation)
  onChainGate net contract threshold simulation
  match hashPlan host leader.jsonDumps plan with
  | none => .error (.raised (.other "hash_plan"))
  | some planHash => return { plan, request, simulation, score, planHash }

/-- What a proposal went through. -/
structure Processed (order : Order) (generated : ExecutionPlan) (proposed : Proposed)
    (threshold fee : Int) (intentOrder : Option IntentOrder) (balances : Option (Value × Int))
    (crossChain : Value) : Prop where
  app : net.onChainThreshold (.str order.appId) = some threshold
  locked : (order.param "platform_fee_wei" (.int 0)).toInt = .ok fee
  planned : proposed.plan = recordFee generated fee
  scored : (deployedContract net order).mapM (leaderOrder host net order proposed.plan.metadata) =
    .ok intentOrder
  flagged : proposed.plan.metadata.get "cross_chain" (.bool false) = .ok crossChain
  seeded : leaderBalances leader order = .ok balances
  asked : proposed.request = leaderRequest net leader order proposed.plan intentOrder balances
  simulated : simulate net leader order balances proposed.request crossChain.truthy =
    .ok proposed.simulation
  paid : feeGate net order fee proposed.simulation = .ok ()
  passed : onChainGate net (deployedContract net order) threshold proposed.simulation = .ok ()

variable {host net leader}

theorem process_spec {order : Order} {generated : ExecutionPlan} {proposed : Proposed}
    (done : process host net leader order generated = .ok proposed) :
    ∃ threshold fee intentOrder balances crossChain,
      Processed host net leader order generated proposed threshold fee intentOrder balances crossChain := by
  obtain ⟨threshold, known, done⟩ := bind_eq_ok.mp done
  obtain ⟨fee, locked, done⟩ := bind_eq_ok.mp done
  obtain ⟨intentOrder, scored, done⟩ := bind_eq_ok.mp done
  obtain ⟨crossChain, flagged, done⟩ := bind_eq_ok.mp done
  obtain ⟨_, done⟩ := bind_ok done
  obtain ⟨balances, seeded, done⟩ := bind_eq_ok.mp done
  obtain ⟨simulation, simulated, done⟩ := bind_eq_ok.mp done
  obtain ⟨_, paid, done⟩ := bind_eq_ok.mp done
  obtain ⟨_, done⟩ := bind_ok done
  obtain ⟨_, passed, done⟩ := bind_eq_ok.mp done
  have app : net.onChainThreshold (.str order.appId) = some threshold := by
    unfold appThreshold at known
    split at known
    · next t found => rw [found, Except.ok.inj known]
    · simp at known
  split at done
  · simp at done
  · obtain rfl := pure_eq_ok.mp done
    exact ⟨threshold, fee, intentOrder, balances, crossChain, {
      app := app
      locked := raising_eq_ok.mp locked
      planned := rfl
      scored := raising_eq_ok.mp scored
      flagged := raising_eq_ok.mp flagged
      seeded := raising_eq_ok.mp seeded
      asked := rfl
      simulated := raising_eq_ok.mp simulated
      paid := paid
      passed := passed }⟩

variable (net leader)

def interactionDict (ix : Interaction) : Value :=
  .dict [("target", ix.target), ("value", ix.value), ("call_data", ix.callData),
    ("chain_id", ix.chainId)]

def planDict (plan : ExecutionPlan) : Value :=
  .dict [("intent_id", plan.intentId), ("interactions", .list (plan.interactions.map interactionDict)),
    ("deadline", plan.deadline), ("nonce", plan.nonce), ("metadata", plan.metadata)]

/-- `_serialize_simulation`. -/
def simulationDict (simulation : SimulationResult) : Value :=
  .dict [("success", simulation.success), ("gas_used", simulation.gasUsed),
    ("token_transfers", .list (simulation.tokenTransfers.map fun t =>
      .dict [("token", t.token), ("from_addr", t.fromAddr), ("to_addr", t.toAddr),
        ("amount", .str (net.str t.amount))])),
    ("on_chain_score", simulation.onChainScore), ("error", simulation.error)]

/-- `int(value or 0)` of a float field. -/
def floatField (value : PyFloat) : Except PyError Int :=
  if value = .fin 0 then .ok 0 else value.toInt

/-- `_build_proposal_payload`; the signature covers the rest of the payload. -/
def buildProposalPayload (order : Order) (proposed : Proposed) (clock : PyFloat)
    (signature : Option String) : Except PyError Value := do
  let deadline ← floatField order.deadline
  let cooldown ← floatField order.cooldown
  return .dict ([("order_id", .str order.orderId), ("plan", planDict proposed.plan),
    ("score", .float proposed.score), ("plan_hash", .str proposed.planHash),
    ("app_id", .str order.appId),
    ("intent_function", .str (if order.intentFunction = "" then "execute" else order.intentFunction)),
    ("params", .dict order.params), ("chain_id", .int (if order.chainId = 0 then 1 else order.chainId)),
    ("submitted_by", .str order.submittedBy), ("deadline", .int deadline),
    ("perpetual", .bool order.perpetual),
    ("max_executions", .int (if order.maxExecutions = 0 then 1 else order.maxExecutions)),
    ("cooldown", .int cooldown), ("proposer", .str leader.validatorId), ("timestamp", .float clock),
    ("simulation", simulationDict net proposed.simulation)]
    ++ (signature.map fun text => ("proposer_signature", Value.str text)).toList)

end

end MinotaurSubnet.Blockloop
