import MinotaurSubnet.Blockloop.OrderPipeline
import MinotaurSubnet.Bridge.Compiler

/-! # The bridge tracker

`BridgeTracker` of `relayer/bridge_tracker.py`: it polls the adapters of the bridges in
flight and, once a transfer is reported complete, runs what is left of the order on the
destination chain. What the adapters, the book, the simulator, the consensus manager and
the relayer answer is an argument, exceptions included.
-/

namespace MinotaurSubnet.BridgeTracker

open Library Python Consensus Shared Orderbook Blockloop
open Bridge (EscrowParams)

inductive BridgeStatusEnum where
  | pending
  | inTransit
  | completed
  | failed
  deriving DecidableEq

structure BridgeStatus where
  status : BridgeStatusEnum
  error : Option String := none

/-- An entry of `legs`, as solvers describe a substrate-origin route. -/
structure RouteLeg where
  legId : Int
  type : String
  chainId : Option Value := none
  interactionIndices : List Int := []

/-- The execution plan of a tracked bridge. The entries of its metadata that the tracker
    reads are fields of their own; `metadata` is the dictionary as the plan hash sees it. -/
structure TrackingPlan where
  intentId : Value
  interactions : List Interaction := []
  deadline : Value
  nonce : Value := .int 0
  metadata : List (String × Value) := []
  contractAddress : Value := .none
  remainingLegs : List LegPlan := []
  escrowParams : List EscrowParams := []
  legs : List RouteLeg := []
  substrateOrigin : Bool := false

structure TrackedBridge where
  srcTxHash : String
  plan : TrackingPlan
  srcChainId : Int
  dstChainId : Int
  pollCount : Nat := 0
  maxPolls : Nat := 120

/-- The calls of the tracker for one order. The legacy destination leg is submitted as the
    order itself; a leg of a multi-leg plan comes with its position among those left. -/
inductive TrackerAction where
  | update (u : OrderUpdate)
  | checkStatus (srcTxHash : String) (srcChainId dstChainId : Int)
      (answer : Except PyError BridgeStatus)
  | escrowDeposit (params : EscrowParams) (chainId : Int)
  | proposeRelease (releaseHash : String) (answer : Except PyError ConsensusResult)
  | escrowRelease (params : EscrowParams) (chainId : Int) (releaseHash : String)
  /-- Deal the bridged tokens on a test chain. -/
  | seedTokens
  | propose (what : Submission) (planHash : String) (answer : Except PyError ConsensusResult)
  | submit (what : Submission) (plan : ExecutionPlan) (consensus : Option ConsensusResult)
      (answer : Except PyError SubmitResult)

abbrev Tracking := Traced TrackerAction PyError

structure EscrowAnswers where
  deposit : Except PyError Unit := .ok ()
  releaseHash : Except PyError String := .ok ""
  propose : Except PyError ConsensusResult := .error (.other "")
  release : Except PyError Unit := .ok ()

structure DestAnswers where
  simulate : Except PyError LocalSimulation
  escrow : EscrowAnswers := {}
  propose : Except PyError ConsensusResult
  submit : Except PyError SubmitResult

structure PollAnswers where
  /-- `none`: the registry has no adapter for the protocol. -/
  status : Option (Except PyError BridgeStatus)
  order : Option BookOrder
  leg : Nat → DestAnswers
  legacy : DestAnswers

structure Tracker where
  host : Host
  jsonDumps : Value → String
  hasSimulator : Bool := true
  hasConsensus : Bool := true
  /-- The relayer knows `call_escrow_deposit`. -/
  hasEscrow : Bool := true
  /-- `str(exc)`. -/
  str : PyError → String

def markFilled (txHash : Option String) : Tracking Unit :=
  .emit (.update { status := some .filled, txHash := some txHash })

def markBridgeFailed (error : String) : Tracking Unit :=
  .emit (.update { status := some .bridgeFailed, error := some (some error) })

section

variable (node : Tracker) (order : BookOrder) (contract : Value)

/-- `hash_plan`, then `consensus.propose`; any exception is logged and leaves `None`. -/
def consultDest (what : Submission) (plan : ExecutionPlan)
    (answer : Except PyError ConsensusResult) : Tracking (Option ConsensusResult) :=
  if node.hasConsensus && contract.truthy then do
    let result ← Traced.caught (ε := PyError) do
      let planHash ← Traced.lift (match hashPlan node.host node.jsonDumps plan with
        | some planHash => .ok planHash
        | none => .error (.other "hash_plan"))
      .emit (.propose what planHash answer)
      Traced.lift answer
    return result.toOption
  else return none

/-- Whether the simulation lets the leg go on; a simulator that raises does. -/
def simulationPasses (answer : Except PyError LocalSimulation) : Bool :=
  if node.hasSimulator && contract.truthy then
    match answer with
    | .ok simulation => simulation.success
    | .error _ => true
  else true

def releaseSignatures (releaseHash : String) (answer : Except PyError ConsensusResult) :
    Tracking (List SignedApproval) :=
  if node.hasConsensus then do
    .emit (.proposeRelease releaseHash answer)
    match answer with
    | .ok result => return if result.reached then result.approvals else []
    | .error _ => return []
  else return []

def escrowFlow (params : EscrowParams) (chainId : Int) (answers : EscrowAnswers) : Tracking Unit := do
  .emit (.escrowDeposit params chainId)
  Traced.lift answers.deposit
  let releaseHash ← Traced.lift answers.releaseHash
  let signatures ← releaseSignatures node releaseHash answers.propose
  if signatures.isEmpty then return ()
  else do
    .emit (.escrowRelease params chainId releaseHash)
    Traced.lift answers.release

def escrowLeg (escrows : List EscrowParams) (leg : LegPlan) (answers : EscrowAnswers) :
    Tracking Unit :=
  match escrows.find? fun params => params.legIndex == leg.legIndex with
  | none => return ()
  | some params =>
    if contract.truthy && node.hasEscrow then do
      let _ ← (escrowFlow node params leg.chainId answers).caught
      return ()
    else return ()

/-- One remaining leg; `none` when the order was given up on. -/
def destLeg (escrows : List EscrowParams) (position : Nat) (leg : LegPlan) (answers : DestAnswers) :
    Tracking (Option SubmitResult) := do
  let plan ← Traced.lift (legExecutionPlan order leg [])
  if simulationPasses node contract answers.simulate then do
    escrowLeg node contract escrows leg answers.escrow
    let consensus ← consultDest node contract (.forwardLeg position leg) plan answers.propose
    .emit (.submit (.forwardLeg position leg) plan consensus answers.submit)
    match answers.submit with
    | .error e => do
        markBridgeFailed s!"Dest leg failed: {node.str e}"
        return none
    | .ok result =>
      if result.success then return some result
      else do
        markBridgeFailed s!"Dest leg {leg.legIndex} failed: {Blockloop.orNone result.error}"
        return none
  else do
    markBridgeFailed s!"Dest leg {leg.legIndex} simulation failed"
    return none

/-- The loop over the legs that are left; returns the transaction of the last one. -/
def destLegs (escrows : List EscrowParams) (answers : Nat → DestAnswers) :
    Nat → List LegPlan → Option String → Tracking (Option (Option String))
  | _, [], txHash => return some txHash
  | position, leg :: rest, _ => do
      match ← destLeg node order contract escrows position leg (answers position) with
      | none => return none
      | some result => destLegs escrows answers (position + 1) rest result.txHash

def executeRemainingLegs (plan : TrackingPlan) (answers : Nat → DestAnswers) : Tracking Unit := do
  .emit (.update { status := some .executingLeg })
  match ← destLegs node order contract plan.escrowParams answers 0 plan.remainingLegs none with
  | none => return ()
  | some txHash => markFilled txHash

/-- `extract_leg_plan`, for a leg of the plan. -/
def extractLegPlan (plan : TrackingPlan) (leg : RouteLeg) : Except PyError ExecutionPlan := do
  let picked ← leg.interactionIndices.mapM (pickInteraction plan.interactions)
  return {
    intentId := plan.intentId
    interactions := picked.filterMap id
    deadline := plan.deadline
    nonce := plan.nonce
    metadata := .dict (setKey "cross_chain_leg_index" (.int leg.legId)
      (setKey "phase" (.str "destination")
        (setKey "chain_id" (leg.chainId.getD ((plan.metadata.lookup "chain_id").getD .none))
          plan.metadata))) }

def submitLegacy (plan : TrackingPlan) (destPlan : ExecutionPlan) (answers : DestAnswers) :
    Tracking SubmitResult := do
  if plan.substrateOrigin then .emit .seedTokens
  let consensus ← consultDest node contract .order destPlan answers.propose
  .emit (.submit .order destPlan consensus answers.submit)
  Traced.lift answers.submit

def executeLegacyDestLeg (plan : TrackingPlan) (srcTxHash : String) (answers : DestAnswers) :
    Tracking Unit :=
  match plan.legs.find? fun leg => leg.type == "destination" with
  | none => markFilled (some srcTxHash)
  | some leg => do
      let destPlan ← Traced.lift (extractLegPlan plan leg)
      match ← (submitLegacy node contract plan destPlan answers).caught with
      | .ok result =>
        if result.success then markFilled result.txHash
        else markBridgeFailed s!"Dest leg submission failed: {Blockloop.orNone result.error}"
      | .error e => markBridgeFailed (node.str e)

end

section

variable (node : Tracker) (answers : PollAnswers) (tracked : TrackedBridge)

def onBridgeComplete : Tracking Unit :=
  match answers.order with
  | none => return ()
  | some order =>
    let contract := tracked.plan.contractAddress.or (order.param "app_address")
    if tracked.plan.remainingLegs.isEmpty then
      executeLegacyDestLeg node contract tracked.plan tracked.srcTxHash answers.legacy
    else executeRemainingLegs node order contract tracked.plan answers.leg

structure PollOutcome where
  removed : Bool := false
  completed : Bool := false

def checkBridge (answer : Except PyError BridgeStatus) : Tracking PollOutcome := do
  .emit (.checkStatus tracked.srcTxHash tracked.srcChainId tracked.dstChainId answer)
  let status ← Traced.lift answer
  match status.status with
  | .completed => do
      onBridgeComplete node answers tracked
      return { removed := true, completed := true }
  | .failed => do
      let error := status.error.getD ""
      markBridgeFailed (if error = "" then "Bridge transfer failed" else error)
      return { removed := true }
  | .pending | .inTransit => return {}

def pollBridge : List TrackerAction × PollOutcome :=
  if tracked.maxPolls < tracked.pollCount then
    ([.update { status := some .bridgeFailed, error := some (some "Bridge polling timeout") }],
      { removed := true })
  else
    match answers.status with
    | none => ([], {})
    | some answer =>
      let run := checkBridge node answers tracked answer
      (run.trace, run.result.toOption.getD {})

end

/-- `_tracked`, by order. -/
abbrev Tracked := Dict String TrackedBridge

inductive Event where
  | track (orderId : String) (bridge : TrackedBridge)
  | poll (answers : String → PollAnswers)

def TrackedBridge.counted (tracked : TrackedBridge) : TrackedBridge :=
  { tracked with pollCount := tracked.pollCount + 1 }

variable (node : Tracker)

/-- `poll_once`: the bridges left, the calls with their order, and the count returned. -/
def pollOnce (answers : String → PollAnswers) (tracked : Tracked) :
    Tracked × List (String × TrackerAction) × Nat :=
  let counted := tracked.mapValues fun _ bridge => bridge.counted
  let polled := fun orderId bridge => pollBridge node (answers orderId) bridge
  (counted.filter fun orderId bridge => !(polled orderId bridge).2.removed,
    counted.entries.flatMap fun (orderId, bridge) =>
      (polled orderId bridge).1.map fun action => (orderId, action),
    counted.entries.countP fun (orderId, bridge) => (polled orderId bridge).2.completed)

def step (tracked : Tracked) : Event → Tracked × List (String × TrackerAction)
  | .track orderId bridge => (tracked.set orderId bridge, [])
  | .poll answers =>
    let (tracked, calls, _) := pollOnce node answers tracked
    (tracked, calls)

end MinotaurSubnet.BridgeTracker
