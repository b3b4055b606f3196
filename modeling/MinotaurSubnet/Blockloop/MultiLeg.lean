import MinotaurSubnet.Library.Traced
import MinotaurSubnet.Consensus.Manager
import MinotaurSubnet.Orderbook.OrderBook

/-! # Multi-leg execution

`MultiLegOrchestrator.process` of `blockloop/multi_leg.py`: each forward leg of a plan
is simulated, scored, put to consensus and submitted, and a failed leg triggers the
rollback legs of what completed. The model is the trace of calls and the value returned
for any answers of the services, exceptions included.
-/

namespace MinotaurSubnet.Blockloop

open Library Python Consensus Shared Orderbook

structure LegPlan where
  legIndex : Int
  chainId : Int
  intentSelector : String := ""
  intentParamsHex : String := ""
  interactions : List Interaction := []
  dependsOn : List Int := []
  rollbackFor : Option Int := none
  metadata : List (String × Value) := []

structure MultiLegPlan where
  forwardLegs : List LegPlan
  rollbackLegs : List LegPlan := []

structure SubmitResult where
  success : Bool
  txHash : Option String := none
  error : Option String := none

/-- What a call of `relayer.submit_plan` is for; a forward leg comes with its position
    in the plan. -/
inductive Submission where
  | order
  | sourceLegs
  | forwardLeg (position : Nat) (leg : LegPlan)
  | rollbackLeg (leg : LegPlan)

/-- The calls the pipeline makes while it holds an order. -/
inductive Action where
  /-- `update_order`, which `sync` then persists. -/
  | update (u : OrderUpdate)
  /-- A point where another task may run. -/
  | suspend
  /-- Start broadcasting a proposal to the peers. -/
  | broadcast
  /-- `consensus.propose` of the order or of a leg ended, with a result or an exception. -/
  | propose (leg : Option Nat) (answer : Except PyError ConsensusResult)
  | submit (what : Submission) (consensus : Option ConsensusResult)
  | substrate (action : String)
  | track (srcTxHash : String) (srcChainId dstChainId : Int) (remaining : List LegPlan)
      (completed : List Int)
  | recordExecution (score : Option Int) (success : Bool)

/-- How `process` ends before its last line. -/
inductive Stop where
  | returned (approved : Bool)
  | raised (e : PyError)
  deriving DecidableEq

abbrev Pipeline := Traced Action Stop

def Pipeline.raising {α : Type} (x : Except PyError α) : Pipeline α :=
  .lift (match x with
    | .ok a => .ok a
    | .error e => .error (.raised e))

/-- `update_order(order_id, status=status)`. -/
def setStatus (status : OrderStatus) : Pipeline Unit := .emit (.update { status := some status })

/-- `update_order(order_id, status=status, error=error)`. -/
def setStatusError (status : OrderStatus) (error : Option String) : Pipeline Unit :=
  .emit (.update { status := some status, error := some error })

structure SimulationMocks where
  byText : List (String × Value) := []
  byIndex : List (Int × Value) := []

structure LegAnswers where
  simulate : Except PyError LocalSimulation
  score : Except PyError (Option PyFloat)
  propose : Except PyError ConsensusResult
  submit : Except PyError SubmitResult

structure Orchestrator where
  host : Host
  jsonDumps : Value → String
  discounted : String → Except PyError String
  hasSimulator : Bool := true
  hasConsensus : Bool := true
  hasPeers : Bool := true
  hasBridgeTracker : Bool := true

section

variable (node : Orchestrator) (order : BookOrder) (plan : MultiLegPlan) (mocks : SimulationMocks)
  (answers : Nat → LegAnswers) (rollbackAnswers : Nat → Except PyError SubmitResult)

/-- `d[key] = value`. -/
def setKey (key : String) (value : Value) : List (String × Value) → List (String × Value)
  | [] => [(key, value)]
  | (k, v) :: rest => if k = key then (key, value) :: rest else (k, v) :: setKey key value rest

def LegPlan.get (leg : LegPlan) (key : String) : Value := (leg.metadata.lookup key).getD .none

/-- The execution plan of one leg; `extra` is what the orchestrator adds to its metadata. -/
def legExecutionPlan (leg : LegPlan) (extra : List (String × Value)) :
    Except PyError ExecutionPlan := do
  let deadline ← order.deadline.toInt
  return {
    intentId := .str order.appId
    interactions := leg.interactions
    deadline := .int deadline
    nonce := .int 0
    metadata := .dict (([("leg_index", Value.int leg.legIndex), ("chain_id", .int leg.chainId)]
      ++ extra).foldl (fun fields field => setKey field.1 field.2 fields) leg.metadata) }

/-- `mocks.get(str(index)) or mocks.get(index)`; `none` is `None`. -/
def mockConfig (leg : LegPlan) : Option Value :=
  match mocks.byText.lookup (toString leg.legIndex) with
  | some config => if config.truthy then some config else mocks.byIndex.lookup leg.legIndex
  | none => mocks.byIndex.lookup leg.legIndex

/-- `(call_data or "")[2:10]` is a bridge selector. -/
def callsBridge (ix : Interaction) : Except PyError Bool :=
  match ix.callData.or (.str "") with
  | .str text => .ok (decide (slice text 2 10 ∈ bridgeCallSelectors))
  | .list _ => .ok false
  | _ => .error .typeError

/-- `any` stops at the first interaction that calls a bridge. -/
def anyCallsBridge : List Interaction → Except PyError Bool
  | [] => .ok false
  | ix :: rest => do
      if ← callsBridge ix then return true
      anyCallsBridge rest

def isBridgeLeg (leg : LegPlan) : Except PyError Bool :=
  match mockConfig mocks leg with
  | some _ => .ok true
  | none => do
      let declared := (leg.get "type").isStr "bridge_source" || (leg.get "type").isStr "bridge"
        || (leg.get "bridge_protocol").truthy
      let calls ← anyCallsBridge leg.interactions
      return declared && (calls || leg.interactions.isEmpty)

structure Progress where
  completed : List LegPlan := []
  bestOnChain : Option Int := none
  txHash : Option String := none

/-- One rollback submission; `none` when the relayer succeeded. -/
def rollbackLeg (position : Nat) (rollback : LegPlan) : Pipeline (Option Int) := do
  let _ ← Pipeline.raising (legExecutionPlan order rollback [("is_rollback", .bool true)])
  .emit (.submit (.rollbackLeg rollback) none)
  .emit .suspend
  match rollbackAnswers position with
  | .ok result => return if result.success then none else some rollback.legIndex
  | .error _ => return some rollback.legIndex

def rollbackLegs : Nat → List LegPlan → Pipeline (List Int)
  | _, [] => return []
  | position, leg :: rest =>
    match plan.rollbackLegs.find? fun r => r.rollbackFor == some leg.legIndex with
    | none => rollbackLegs (position + 1) rest
    | some rollback => do
        let failed ← rollbackLeg order rollbackAnswers position rollback
        let more ← rollbackLegs (position + 1) rest
        return failed.toList ++ more

def renderIndices (indices : List Int) : String :=
  "[" ++ String.intercalate ", " (indices.map toString) ++ "]"

def executeRollback (completed : List LegPlan) : Pipeline Unit := do
  setStatus .rollingBack
  let failures ← rollbackLegs order plan rollbackAnswers 0 completed.reverse
  if failures.isEmpty then setStatus .rolledBack
  else setStatusError .partialRollback (s!"Rollback failed for legs: " ++ renderIndices failures)

/-- Roll back what completed and return `False`. -/
def abandon {α : Type} (completed : List LegPlan) : Pipeline α := do
  executeRollback order plan rollbackAnswers completed
  .stop (.returned false)

def bridgeDependency (completed : List LegPlan) (leg : LegPlan) : Option LegPlan :=
  leg.dependsOn.findSome? fun index =>
    (completed.find? fun done => done.legIndex == index).filter fun done =>
      (done.get "bridge_protocol").truthy

/-- Hand the rest of the plan to the bridge tracker, if there is one and the dependency
    has a transaction to watch. -/
def registerBridge (completed : List LegPlan) (leg done : LegPlan) : Pipeline Unit :=
  match node.hasBridgeTracker, done.get "tx_hash" with
  | true, .str srcTxHash =>
    if srcTxHash = "" then return ()
    else .emit (.track srcTxHash done.chainId leg.chainId
      (plan.forwardLegs.filter fun l => leg.legIndex ≤ l.legIndex)
      (completed.map (·.legIndex)))
  | _, _ => return ()

def awaitBridge (completed : List LegPlan) (leg : LegPlan) : Pipeline Unit :=
  match bridgeDependency completed leg with
  | none => return ()
  | some done => do
      registerBridge node plan completed leg done
      setStatus .bridging
      .stop (.returned true)

def simulateLeg (legPlan : ExecutionPlan) (answer : Except PyError LocalSimulation) :
    Pipeline SimulationResult := do
  let mock := Pipeline.raising (buildMockSimulation node.discounted legPlan (.dict order.params))
  if node.hasSimulator then
    .emit .suspend
    match answer with
    | .ok simulation => return simulation.result
    | .error _ => mock
  else mock

def bestOf (best : Option Int) (seen : Value) : Option Int :=
  match best, seen with
  | none, .int score => some score
  | some best, .int score => if best < score then some score else some best
  | best, _ => best

def scoreLeg (bridge : Bool) (simulation : SimulationResult)
    (answer : Except PyError (Option PyFloat)) : Pipeline PyFloat := do
  if bridge && simulation.success.truthy then return .fin (6 / 10)
  else do
    .emit .suspend
    let score ← Pipeline.raising answer
    return score.getD (.fin (1 / 2))

/-- The consensus step of a leg. An exception of `propose` is logged and leaves the
    result `None`; the guard after it needs a result to refuse on. -/
def consultLeg (position : Nat) (legPlan : ExecutionPlan) (completed : List LegPlan)
    (answer : Except PyError ConsensusResult) : Pipeline (Option ConsensusResult) :=
  if node.hasConsensus then do
    let _ ← Pipeline.raising (match hashPlan node.host node.jsonDumps legPlan with
      | some hash => .ok hash
      | none => .error (.other "hash_plan"))
    if node.hasPeers then .emit .broadcast
    .emit .suspend
    .emit (.propose (some position) answer)
    match answer with
    | .error _ => return none
    | .ok result =>
      if result.reached then return some result
      else abandon order plan rollbackAnswers completed
  else return none

/-- `consultLeg` from its last suspension on. -/
def askPeers (position : Nat) (completed : List LegPlan) (answer : Except PyError ConsensusResult) :
    Pipeline (Option ConsensusResult) := do
  .emit .suspend
  .emit (.propose (some position) answer)
  match answer with
  | .error _ => return none
  | .ok result =>
    if result.reached then return some result
    else abandon order plan rollbackAnswers completed

def submitLeg (position : Nat) (leg : LegPlan) (completed : List LegPlan)
    (consensus : Option ConsensusResult) (answer : Except PyError SubmitResult) :
    Pipeline SubmitResult := do
  .emit (.submit (.forwardLeg position leg) consensus)
  .emit .suspend
  match answer with
  | .error _ => abandon order plan rollbackAnswers completed
  | .ok result =>
    if result.success then return result
    else abandon order plan rollbackAnswers completed

def prepareLeg (position : Nat) (leg : LegPlan) (progress : Progress) :
    Pipeline (ExecutionPlan × Option Int) := do
  setStatusError .executingLeg none
  let legPlan ← Pipeline.raising (legExecutionPlan order leg [])
  awaitBridge node plan progress.completed leg
  let bridge ← Pipeline.raising (isBridgeLeg mocks leg)
  let simulation ← simulateLeg node order legPlan (answers position).simulate
  let _ ← scoreLeg bridge simulation (answers position).score
  return (legPlan, bestOf progress.bestOnChain simulation.onChainScore)

/-- The leg as `completed_legs` keeps it, with the transaction it was settled in. -/
def settledLeg (leg : LegPlan) (result : SubmitResult) : LegPlan :=
  { leg with metadata := setKey "tx_hash" (.str (result.txHash.getD "")) leg.metadata }

def forwardLeg (position : Nat) (leg : LegPlan) (progress : Progress) : Pipeline Progress := do
  let (legPlan, best) ← prepareLeg node order plan mocks answers position leg progress
  let consensus ← consultLeg node order plan rollbackAnswers position legPlan progress.completed
    (answers position).propose
  let result ← submitLeg order plan rollbackAnswers position leg progress.completed consensus
    (answers position).submit
  return {
    completed := progress.completed ++ [settledLeg leg result]
    bestOnChain := best
    txHash := result.txHash }

def forwardLegs : Nat → List LegPlan → Progress → Pipeline Progress
  | _, [], progress => return progress
  | position, leg :: rest, progress => do
      let progress ← forwardLeg node order plan mocks answers rollbackAnswers position leg progress
      forwardLegs (position + 1) rest progress

/-- `MultiLegOrchestrator.process`. -/
def processMultiLeg : Pipeline Bool := do
  let done ← forwardLegs node order plan mocks answers rollbackAnswers 0 plan.forwardLegs {}
  .emit (.update { status := some .filled, txHash := some done.txHash })
  .emit (.recordExecution (some (done.bestOnChain.getD 0)) true)
  return true

end

end MinotaurSubnet.Blockloop
