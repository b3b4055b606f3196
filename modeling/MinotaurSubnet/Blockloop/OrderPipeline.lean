import MinotaurSubnet.Blockloop.MultiLeg

/-! # An order on its way through the pipeline

`OrderProcessor.process` as the trace of what it writes to the book, where it waits and
what it hands to the relayer, for any answers of the services it calls. The order object
is shared with the book, but `process` never reads the status back, so what it writes does
not depend on what other tasks did to the order in the meantime.
-/

namespace MinotaurSubnet.Blockloop

open Library Python Consensus Shared Orderbook

def orNone : Option String → String
  | none => "None"
  | some text => text

structure CrossChainLegs where
  /-- The actions of each substrate leg, with what the substrate relayer answers. -/
  substrateLegs : List (List (String × Except PyError SubmitResult)) := []
  hasSubstrateRelayer : Bool := false
  /-- Some source or bridge leg names an interaction; picking what they name may raise. -/
  source : Except PyError Bool := .ok true
  submit : Except PyError SubmitResult
  hasBridgeTracker : Bool := false

def substrateAction (action : String) (answer : Except PyError SubmitResult) :
    Pipeline (Option String) := do
  if action = "remove_stake" then setStatus .unstaking
  .emit (.substrate action)
  .emit .suspend
  let result ← Pipeline.raising answer
  if result.success then
    return if action = "bridge_deposit" then some (result.txHash.getD "") else none
  else do
    setStatusError .rejected (some s!"Substrate {action} failed: {orNone result.error}")
    .stop (.returned false)

def substrateActions : List (String × Except PyError SubmitResult) → String → Pipeline String
  | [], deposit => return deposit
  | (action, answer) :: rest, deposit => do
      let hash ← substrateAction action answer
      substrateActions rest (hash.getD deposit)

def substratePhase (legs : CrossChainLegs) : Pipeline String :=
  if legs.substrateLegs.isEmpty then return ""
  else if legs.hasSubstrateRelayer then substrateActions legs.substrateLegs.flatten ""
  else do
    setStatusError .rejected (some "Substrate relayer not configured for substrate legs")
    .stop (.returned false)

def sourcePhase (legs : CrossChainLegs) (consensus : Option ConsensusResult) : Pipeline String := do
  if ← Pipeline.raising legs.source then
    .emit (.submit .sourceLegs consensus)
    .emit .suspend
    let result ← Pipeline.raising legs.submit
    if result.success then return result.txHash.getD ""
    else
      setStatusError .rejected (some s!"EVM source leg failed: {orNone result.error}")
      .stop (.returned false)
  else return ""

/-- `CrossChainOrchestrator.submit`. -/
def submitCrossChain (legs : CrossChainLegs) (consensus : Option ConsensusResult) :
    Pipeline Bool := do
  let deposit ← substratePhase legs
  let source ← sourcePhase legs consensus
  let txHash := if source = "" then deposit else source
  if txHash ≠ "" then .emit (.update { status := some .submitted, txHash := some (some txHash) })
  if legs.hasBridgeTracker && txHash ≠ "" then setStatus .bridging
  else setStatus .filled
  .emit (.recordExecution none true)
  return true

structure GeneratedPlan where
  /-- The solver declared a cross-chain plan for the platform to compile. -/
  crossChainPlan : Bool := false
  /-- The multi-leg plan in the metadata, if any. -/
  multiLeg : Except PyError (Option MultiLegPlan) := .ok none
  mocks : SimulationMocks := {}
  crossChain : Bool := false

/-- What one pass of `process` gets back from everything it calls. -/
structure OrderAnswers where
  /-- The app's on-chain threshold; `none` when the app is unknown. -/
  app : Option Int
  contract : String := ""
  /-- The live balance check of a perpetual order: the reason it cannot be funded. -/
  funds : Except PyError (Option String) := .ok none
  generate : Except PyError (Option GeneratedPlan)
  assessed : Bool := false
  /-- Why an enforced policy refuses the plan. -/
  policy : Option String := none
  compile : Except String (MultiLegPlan × SimulationMocks) := .error ""
  /-- What building the simulated order raises. -/
  prepared : Except PyError Unit := .ok ()
  simulate : Except PyError LocalSimulation
  certifyFee : Except String Unit := .ok ()
  score : Except PyError (Option PyFloat)
  planHash : Except PyError String
  /-- Quorum above one and nobody to ask. -/
  noPeers : Bool := false
  propose : Except PyError ConsensusResult
  /-- The answer to the call that is repeated after a `TypeError`. -/
  proposeAgain : Except PyError ConsensusResult := .error .typeError
  broadcastPending : Bool := false
  /-- Earlier consensus attempts on the order, and when the last one was. -/
  attempts : Nat × ℚ := (0, 0)
  sign : Except PyError (Option String) := .ok none
  crossChain : CrossChainLegs
  submit : Except PyError SubmitResult
  leg : Nat → LegAnswers
  rollback : Nat → Except PyError SubmitResult
  now : ℚ

structure Processor where
  orchestrator : Orchestrator
  hasCompiler : Bool := true
  hasConsensus : Bool := true
  hasPeers : Bool := true
  hasWallets : Bool := true
  crossChainEnabled : Bool := false
  failClosed : Bool := true
  feeEnabled : Bool := false
  defaultFeeWei : Int := 10000000000000000
  retryMax : Nat := 3
  retrySpacing : ℚ := 45
  isUserSignatureFault : Option String → Bool := fun _ => false
  isUserFundFault : Option String → Bool := fun _ => false

section

variable (node : Processor) (order : BookOrder) (answers : OrderAnswers)

def reject {α : Type} (error : String) : Pipeline α := do
  setStatusError .rejected (some error)
  .stop (.returned false)

def rejectDebited {α : Type} (error : String) (score : Int) : Pipeline α := do
  setStatusError .rejected (some error)
  .emit (.recordExecution (some score) false)
  .stop (.returned false)

def livePerpetual : Bool :=
  order.perpetual && decide (order.executionCount < order.maxExecutions) &&
    (order.deadline.le (.fin 0) || (PyFloat.fin answers.now).lt order.deadline)

/-- `_try_requeue_perpetual`, else the given end. -/
def requeueOr {α : Type} (otherwise : Pipeline α) : Pipeline α :=
  if livePerpetual order answers then do
    .emit (.update { status := some .open_, lastFilledAt := some answers.now })
    .stop (.returned false)
  else otherwise

def fundsGate : Pipeline Unit :=
  if order.perpetual && answers.contract ≠ "" then do
    .emit .suspend
    match ← Pipeline.raising answers.funds with
    | none => return ()
    | some reason =>
      reject s!"Perpetual terminated — user can no longer fund the next fill ({reason})"
  else return ()

def generatePlan : Pipeline GeneratedPlan := do
  .emit .suspend
  match ← Pipeline.raising answers.generate with
  | some plan => return plan
  | none => requeueOr order answers (rejectDebited "solver produced no plan" 0)

def policyGate : Pipeline Unit :=
  if answers.assessed then do
    .emit (.update {})
    match answers.policy with
    | none => return ()
    | some reason => rejectDebited s!"Policy rejected plan: {reason}" 0
  else return ()

def compilePlan (plan : GeneratedPlan) : Pipeline GeneratedPlan :=
  if plan.crossChainPlan && node.hasCompiler then do
    .emit .suspend
    match answers.compile with
    | .ok (multiLeg, mocks) =>
      return { plan with crossChainPlan := false, multiLeg := .ok (some multiLeg), mocks, crossChain := true }
    | .error text => reject text
  else return plan

def multiLegPath (plan : GeneratedPlan) : Pipeline Unit := do
  match ← Pipeline.raising plan.multiLeg with
  | none => return ()
  | some multiLeg =>
    if 1 < multiLeg.forwardLegs.length then do
      let approved ← processMultiLeg node.orchestrator order multiLeg plan.mocks answers.leg
        answers.rollback
      .stop (.returned approved)
    else return ()

def simulatePlan (plan : GeneratedPlan) : Pipeline LocalSimulation := do
  let _ ← Pipeline.raising answers.prepared
  if plan.crossChain && !node.crossChainEnabled then reject crossChainDisabledMessage
  else do
    .emit .suspend
    Pipeline.raising answers.simulate

def certifyFeeGate (fee : Int) : Pipeline Unit :=
  if 0 < fee then
    match answers.certifyFee with
    | .ok _ => return ()
    | .error reason => rejectDebited s!"Fee certification failed: {reason}" 0
  else return ()

def scorePlan (simulation : LocalSimulation) : Pipeline Unit := do
  .emit .suspend
  let score ← Pipeline.raising answers.score
  .emit (.update {
    status := some .scored
    score := some (some (score.getD (.fin 0)))
    bestScore := some (some (max (order.bestScore.getD 0) (simulation.onChainScore.getD 0)))
    onChainScore := some simulation.onChainScore })

def onChainScoreGate (threshold : Int) (simulation : LocalSimulation) : Pipeline Unit :=
  match simulation.onChainScore with
  | none =>
    if answers.contract ≠ "" && node.failClosed then
      requeueOr order answers (rejectDebited ("On-chain score unavailable — contract returned "
        ++ "invalid or unreadable (dual-scoring fail-closed)") 0)
    else return ()
  | some score =>
    if score < threshold then
      requeueOr order answers
        (rejectDebited s!"On-chain score {score} BPS < threshold {threshold}" score)
    else return ()

def deadlineLeft (deadline : PyFloat) (now : ℚ) : PyFloat :=
  if (PyFloat.fin 0).lt deadline then
    match deadline with
    | .fin q => .fin (q - now)
    | other => other
  else .posInf

/-- `_defer_or_reject_consensus`; the retry bookkeeping only counts. -/
def deferOrReject {α : Type} (reason : String) : Pipeline α := do
  let headroom := (PyFloat.fin 60).lt (deadlineLeft order.deadline answers.now)
  let attempts := answers.attempts.1
  if 0 < attempts ∧ answers.now - answers.attempts.2 < node.retrySpacing ∧ headroom = true then
    setStatusError .open_ (some s!"{reason} (retry {attempts}/{node.retryMax} pending)")
  else if attempts < node.retryMax ∧ headroom = true then
    setStatusError .open_ (some s!"{reason} (retry {attempts + 1}/{node.retryMax} pending)")
  else setStatusError .rejected (some s!"{reason} — terminal after {attempts + 1} attempt(s)")
  .stop (.returned false)

/-- `consensus.propose`, once more without the domain after a `TypeError`. -/
def proposeOrder : Pipeline ConsensusResult := do
  .emit .suspend
  .emit (.propose none answers.propose)
  match answers.propose with
  | .error .typeError => do
      .emit .suspend
      .emit (.propose none answers.proposeAgain)
      Pipeline.raising answers.proposeAgain
  | answer => Pipeline.raising answer

def consultOrder : Pipeline (Option ConsensusResult) :=
  if node.hasConsensus then do
    let _ ← Pipeline.raising answers.planHash
    if node.hasPeers && answers.noPeers then
      deferOrReject node order answers "No reachable validator peers for consensus"
    else do
      if node.hasPeers then .emit .broadcast
      let result ← proposeOrder answers
      if node.hasPeers && answers.broadcastPending then .emit .suspend
      if result.reached then return some result
      else deferOrReject node order answers "Consensus not reached"
  else return none

def autoSign : Pipeline Unit :=
  if order.userSignature = "" && node.hasWallets then do
    .emit .suspend
    match answers.sign with
    | .ok (some signature) =>
      if signature = "" then return ()
      else .emit (.update { userSignature := some signature })
    | _ => return ()
  else return ()

def reopenPerpetual : Pipeline Unit :=
  if order.perpetual then do
    .emit (.update {
      executionCount := some (order.executionCount + 1), lastFilledAt := some answers.now })
    if order.executionCount + 1 < order.maxExecutions then setStatus .open_
  else return ()

def settlementError (error : Option String) : String :=
  if node.isUserSignatureFault error then
    s!"User signature rejected at settlement: {orNone error}"
  else if node.isUserFundFault error then
    "User cannot fund order (insufficient input-token balance/allowance) at settlement: "
      ++ orNone error
  else s!"Relayer submission failed: {orNone error}"

/-- A revert the user caused does not count against the solver. -/
def recordSettlement (score : Int) (result : SubmitResult) : Pipeline Unit :=
  if result.success then .emit (.recordExecution (some score) true)
  else if node.isUserSignatureFault result.error || node.isUserFundFault result.error then return ()
  else .emit (.recordExecution (some score) false)

def feeAmount : Int :=
  if node.feeEnabled && order.feeAmountWei = 0 then node.defaultFeeWei else order.feeAmountWei

def settle (score : Int) (consensus : Option ConsensusResult) : Pipeline Bool := do
  .emit (.submit .order consensus)
  .emit .suspend
  let result ← Pipeline.raising answers.submit
  if result.success then do
    .emit (.update {
      status := some .filled
      txHash := some result.txHash
      feePaid := some (node.feeEnabled && decide (0 < feeAmount node order)) })
    reopenPerpetual order answers
    recordSettlement node score result
    return true
  else do
    setStatusError .rejected (some (settlementError node result.error))
    recordSettlement node score result
    return false

def submitApproved (plan : GeneratedPlan) (simulation : LocalSimulation)
    (consensus : Option ConsensusResult) : Pipeline Bool := do
  setStatusError .approved none
  autoSign node order answers
  if (order.param "_user_submit").truthy then return true
  else if plan.crossChain then submitCrossChain answers.crossChain consensus
  else settle node order answers (simulation.onChainScore.getD 0) consensus

def processPlan (threshold : Int) (generated : GeneratedPlan) : Pipeline Bool := do
  let fee ← Pipeline.raising (order.param "platform_fee_wei" (.int 0)).toInt
  policyGate answers
  setStatus .solved
  let plan ← compilePlan node answers generated
  multiLegPath node order answers plan
  let simulation ← simulatePlan node answers plan
  certifyFeeGate answers fee
  scorePlan order answers simulation
  onChainScoreGate node order answers threshold simulation
  let consensus ← consultOrder node order answers
  submitApproved node order answers plan simulation consensus

/-- `OrderProcessor.process`. -/
def processOrder : Pipeline Bool :=
  match answers.app with
  | none => reject s!"App not found: {order.appId}"
  | some threshold => do
      fundsGate order answers
      let generated ← generatePlan order answers
      processPlan node order answers threshold generated

/-- What `tick` runs for one claimed order: an exception rejects it. -/
def tickTrace (str : PyError → String) : List Action :=
  let run := processOrder node order answers
  match run.result with
  | .error (.raised e) => run.trace ++ [.update { status := some .rejected, error := some (some (str e)) }]
  | _ => run.trace

end

/-- The call of a stage before the relayer: nothing is submitted, no fill is counted, and the order is
    not put back. -/
def Action.Staged : Action → Prop
  | .update u => u.status ≠ some .open_ ∧ u.executionCount = none ∧ u.lastFilledAt = none
  | .submit _ _ => False
  | _ => True

/-- The call of a gate, which may put the order back. -/
def Action.Waiting : Action → Prop
  | .update u => u.executionCount = none
  | .submit _ _ => False
  | _ => True

theorem Action.Staged.waiting {a : Action} (staged : a.Staged) : a.Waiting := by
  cases a with
  | update u => exact staged.2.1
  | submit what consensus => exact staged.elim
  | suspend | propose | broadcast | substrate | track | recordExecution => trivial

section

variable {node : Processor} {order : BookOrder} {answers : OrderAnswers} {α : Type}

theorem call_all {P : Action → Prop} {a} {next : Unit → Pipeline α} (here : P a)
    (rest : (next ()).All P) : (Traced.emit a >>= next).All P :=
  (Traced.all_emit.mpr here).bind fun _ _ => rest

theorem setStatus_staged {status} (other : status ≠ .open_) :
    (setStatus status).All Action.Staged := Traced.all_emit.mpr ⟨by simpa using other, rfl, rfl⟩

theorem setStatusError_staged {status error} (other : status ≠ .open_) :
    (setStatusError status error).All Action.Staged := Traced.all_emit.mpr ⟨by simpa using other, rfl, rfl⟩

theorem reject_staged {error} : (reject error : Pipeline α).All Action.Staged :=
  (setStatusError_staged (by decide)).bind fun _ _ => Traced.all_stop _

theorem rejectDebited_staged {error score} :
    (rejectDebited error score : Pipeline α).All Action.Staged := by
  refine (setStatusError_staged (by decide)).bind fun _ _ => ?_
  exact call_all trivial (Traced.all_stop _)

theorem fundsGate_staged : (fundsGate order answers).All Action.Staged := by
  unfold fundsGate
  split
  · refine call_all trivial ((Traced.all_lift _).bind fun funds _ => ?_)
    cases funds with
    | none => exact Traced.all_pure _
    | some reason => exact reject_staged
  · exact Traced.all_pure _

theorem policyGate_staged : (policyGate answers).All Action.Staged := by
  unfold policyGate
  split
  · refine call_all (by simp [Action.Staged]) ?_
    cases answers.policy with
    | none => exact Traced.all_pure _
    | some reason => exact rejectDebited_staged
  · exact Traced.all_pure _

theorem compilePlan_staged {plan} : (compilePlan node answers plan).All Action.Staged := by
  unfold compilePlan
  split
  · refine call_all trivial ?_
    cases answers.compile with
    | ok compiled => exact Traced.all_pure _
    | error text => exact reject_staged
  · exact Traced.all_pure _

theorem simulatePlan_staged {plan} : (simulatePlan node answers plan).All Action.Staged := by
  refine (Traced.all_lift _).bind fun _ _ => ?_
  split
  · exact reject_staged
  · exact call_all trivial (Traced.all_lift _)

theorem certifyFeeGate_staged {fee} : (certifyFeeGate answers fee).All Action.Staged := by
  unfold certifyFeeGate
  split
  · cases answers.certifyFee with
    | ok u => exact Traced.all_pure _
    | error reason => exact rejectDebited_staged
  · exact Traced.all_pure _

theorem scorePlan_staged {simulation} :
    (scorePlan order answers simulation).All Action.Staged := by
  refine call_all trivial ((Traced.all_lift _).bind fun _ _ => ?_)
  exact Traced.all_emit.mpr (by simp [Action.Staged])

theorem proposeOrder_staged : (proposeOrder answers).All Action.Staged := by
  refine call_all trivial (call_all trivial ?_)
  split
  · refine call_all trivial (call_all trivial ?_)
    exact Traced.all_lift _
  · exact Traced.all_lift _

theorem autoSign_staged : (autoSign node order answers).All Action.Staged := by
  unfold autoSign
  split
  · refine call_all trivial ?_
    split
    · split
      · exact Traced.all_pure _
      · exact Traced.all_emit.mpr (by simp [Action.Staged])
    · exact Traced.all_pure _
  · exact Traced.all_pure _

theorem requeueOr_waiting {otherwise : Pipeline α} (other : otherwise.All Action.Waiting) :
    (requeueOr order answers otherwise).All Action.Waiting := by
  unfold requeueOr
  split
  · exact call_all rfl (Traced.all_stop _)
  · exact other

theorem rejectDebited_waiting {error score} :
    (rejectDebited error score : Pipeline α).All Action.Waiting :=
  rejectDebited_staged.imp fun _ => Action.Staged.waiting

theorem generatePlan_waiting : (generatePlan order answers).All Action.Waiting := by
  refine call_all trivial ((Traced.all_lift _).bind fun generated _ => ?_)
  cases generated with
  | some plan => exact Traced.all_pure _
  | none => exact requeueOr_waiting rejectDebited_waiting

theorem onChainScoreGate_waiting {threshold simulation} :
    (onChainScoreGate node order answers threshold simulation).All Action.Waiting := by
  unfold onChainScoreGate
  split
  · split
    · exact requeueOr_waiting rejectDebited_waiting
    · exact Traced.all_pure _
  · split
    · exact requeueOr_waiting rejectDebited_waiting
    · exact Traced.all_pure _

theorem deferOrReject_waiting {reason} :
    (deferOrReject node order answers reason : Pipeline α).All Action.Waiting := by
  have written : ∀ u : OrderUpdate, u.executionCount = none →
      (do
        Traced.emit (.update u)
        .stop (.returned false) : Pipeline α).All Action.Waiting :=
    fun u uncounted => call_all uncounted (Traced.all_stop _)
  unfold deferOrReject
  dsimp only
  split
  · exact written _ rfl
  · split
    · exact written _ rfl
    · exact written _ rfl

theorem consultOrder_waiting : (consultOrder node order answers).All Action.Waiting := by
  have verdict : ∀ result : ConsensusResult,
      (if result.reached then return some result
        else deferOrReject node order answers "Consensus not reached" :
          Pipeline (Option ConsensusResult)).All Action.Waiting := by
    intro result
    split
    · exact Traced.all_pure _
    · exact deferOrReject_waiting
  have proposed : (do
      let result ← proposeOrder answers
      if node.hasPeers && answers.broadcastPending then .emit .suspend
      if result.reached then return some result
      else deferOrReject node order answers "Consensus not reached" :
        Pipeline (Option ConsensusResult)).All Action.Waiting := by
    refine (proposeOrder_staged.imp fun _ => Action.Staged.waiting).bind fun result _ => ?_
    dsimp only
    split
    · exact call_all trivial (verdict result)
    · exact verdict result
  unfold consultOrder
  split
  · refine (Traced.all_lift _).bind fun _ _ => ?_
    split
    · exact deferOrReject_waiting
    · dsimp only
      split
      · exact call_all trivial proposed
      · exact proposed
  · exact Traced.all_pure _

end

end MinotaurSubnet.Blockloop
