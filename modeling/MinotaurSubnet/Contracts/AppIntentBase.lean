import MinotaurSubnet.Library.Dict
import MinotaurSubnet.Library.Fallible
import MinotaurSubnet.Library.TokenLedger

/-! # The base contract of the apps

`AppIntentBase.sol`. A call reverts, and then changes nothing, or returns the next
state and the events it emits; gas is not counted. The signature checks of
`EIP712Verifier` are parameters, and so are the app's two overridable internals:
`_handleIntent` runs the plan and may leave any balances, any app state and, since
the admin calls are not guarded against re-entry, any settings. The replay marks and
the escrow are left alone: their writers here are all `nonReentrant` or internal, and
an override is assumed not to write these inherited mappings itself.
-/

namespace MinotaurSubnet.Contracts

open Library

abbrev Address := BitVec 160
abbrev Bytes := List UInt8
abbrev Bytes32 := BitVec 256
abbrev Bytes4 := BitVec 32

/-- `type(uint256).max`. -/
def uint256Max : Nat := 2 ^ 256 - 1

structure Call where
  target : Address
  value : Nat
  callData : Bytes
  deriving DecidableEq

structure IntentOrder where
  orderId : Bytes32
  app : Address
  intentSelector : Bytes4
  intentParams : Bytes
  submittedBy : Address
  chainId : Nat
  deadline : Nat
  nonce : Nat
  perpetual : Bool
  maxExecutions : Nat
  cooldown : Nat
  deriving DecidableEq

structure ExecutionPlan where
  calls : List Call
  deadline : Nat
  nonce : Nat
  metadata : Bytes
  deriving DecidableEq

structure EscrowDeposit where
  token : Address
  amount : Nat
  user : Address
  deadline : Nat
  released : Bool
  refunded : Bool
  deriving DecidableEq

def EscrowDeposit.unset : EscrowDeposit := ⟨0, 0, 0, 0, false, false⟩

inductive Revert where
  /-- A `require` of this contract. -/
  | reason (text : String)
  /-- Checked arithmetic overflowed. -/
  | panic
  /-- Value sent to a function that takes none. -/
  | nonPayable
  /-- A contract that was called reverted. -/
  | bubbled
  deriving DecidableEq

/-- The transaction, the block and the validator registry as a call sees them. -/
structure Env where
  sender : Address
  value : Nat
  timestamp : Nat
  chainid : Nat
  validators : List Address
  validatorCount : Nat
  quorumBps : Nat

/-- What the relayer may change, and re-entered calls with it. -/
structure Settings where
  scoreThreshold : Nat
  platformFeeCollector : Address
  maxPlatformFeeWei : Nat
  registeredIntents : Bytes4 → Bool

structure ReplayMarks where
  nonces : Address → Nat := fun _ => 0
  executedOrders : Bytes32 → Bool := fun _ => false
  executionCounts : Bytes32 → Nat := fun _ => 0
  lastFilledAt : Bytes32 → Nat := fun _ => 0
  legExecuted : Bytes32 → Nat → Bool := fun _ _ => false

/-- Everything outside the base contract's own storage. -/
structure World (α : Type) where
  tokens : TokenLedger Address Address
  app : α

structure State (α : Type) where
  settings : Settings
  marks : ReplayMarks
  /-- A mapping whose unset slots read as `EscrowDeposit.unset`. -/
  escrow : Dict (Bytes32 × Nat) EscrowDeposit
  world : World α

inductive Log where
  | intentExecuted (orderId : Bytes32) (submittedBy : Address) (score : Nat) (planHash : Bytes32)
  | intentLegExecuted (orderId : Bytes32) (submittedBy : Address) (legIndex score : Nat)
      (planHash : Bytes32)
  | platformFeeCollected (orderId : Bytes32) (user : Address) (amount : Nat)
  | escrowDeposited (orderId : Bytes32) (legIndex : Nat) (token : Address) (amount : Nat)
      (user : Address) (deadline : Nat)
  | escrowReleased (orderId : Bytes32) (legIndex : Nat) (token : Address) (amount : Nat)
  | escrowRefunded (orderId : Bytes32) (legIndex : Nat) (token : Address) (amount : Nat)
      (user : Address)
  deriving DecidableEq

/-- `EIP712Verifier`; recovering a signature may revert. -/
structure Verifier where
  verifyUserSignature : IntentOrder → Bytes → Bytes32 → Except Revert Bool
  hashPlan : ExecutionPlan → Bytes32
  /-- `verifyValidatorSignatures(orderId, planHash, score, signatures, registry, domain)`:
      how many distinct validators of the registry signed. -/
  verifyValidatorSignatures : Bytes32 → Bytes32 → Nat → List Bytes → List Address → Bytes32 →
    Except Revert Nat

/-- What `_handleIntent` leaves behind and returns. -/
structure Handled (α : Type) where
  settings : Settings
  world : World α
  score : Nat
  valid : Bool

structure App (α : Type) where
  self : Address
  relayer : Address
  wrappedNativeToken : Address
  domainSeparator : Bytes32
  verifier : Verifier
  collectPlatformFee : Env → State α → Bytes32 → Address → Bytes →
    Except Revert (World α × List Log)
  handleIntent : Env → State α → IntentOrder → ExecutionPlan → Except Revert (Handled α)

variable {α : Type} (app : App α)

/-- `require(c, text)`. -/
def require (c : Bool) (text : String) : Except Revert Unit := ensure c (.reason text)

def checked (n : Nat) : Except Revert Nat := if n ≤ uint256Max then .ok n else .error .panic

/-- `(validatorCount * quorumBps + 9999) / 10000`. -/
def quorumRequired (env : Env) : Except Revert Nat := do
  let product ← checked (env.validatorCount * env.quorumBps)
  let raised ← checked (product + 9999)
  return raised / 10000

def onlyRelayer (env : Env) : Except Revert Unit := require (env.sender == app.relayer) "Only relayer"

def nonPayable (env : Env) : Except Revert Unit := ensure (env.value == 0) .nonPayable

def requireQuorum (env : Env) (s : State α) (orderId hash : Bytes32) (signatures : List Bytes)
    (text : String) : Except Revert Unit := do
  let required ← quorumRequired env
  let validSigs ← app.verifier.verifyValidatorSignatures orderId hash s.settings.scoreThreshold
    signatures env.validators app.domainSeparator
  require (required ≤ validSigs) text

def decodeUint (bytes : Bytes) : Nat := bytes.foldl (fun n byte => 256 * n + byte.toNat) 0

def decodePlatformFee (intentParams : Bytes) : Nat :=
  if intentParams.length < 32 then 0 else decodeUint (intentParams.drop (intentParams.length - 32))

/-- `_collectPlatformFee` where the app does not override it. -/
def collectPlatformFee (self wrappedNativeToken : Address) (env : Env) (s : State α)
    (orderId : Bytes32) (user : Address) (intentParams : Bytes) :
    Except Revert (World α × List Log) :=
  if 0 < env.value then .ok (s.world, [])
  else
    let feeWei := decodePlatformFee intentParams
    if feeWei = 0 then .ok (s.world, [])
    else do
      require (feeWei ≤ s.settings.maxPlatformFeeWei) "Fee exceeds cap"
      require (s.settings.platformFeeCollector != 0) "No fee collector"
      match s.world.tokens.transferFrom wrappedNativeToken self user
          s.settings.platformFeeCollector feeWei with
      | none => .error .bubbled
      | some tokens => .ok ({ s.world with tokens }, [.platformFeeCollected orderId user feeWei])

/-- Step 3 of `executeIntent`. -/
def replayGuard (env : Env) (marks : ReplayMarks) (order : IntentOrder) : Except Revert Unit :=
  if order.perpetual then do
    require (marks.executionCounts order.orderId < order.maxExecutions) "Max executions reached"
    if 0 < marks.executionCounts order.orderId then do
      let ready ← checked (marks.lastFilledAt order.orderId + order.cooldown)
      require (ready ≤ env.timestamp) "Cooldown not elapsed"
    else return ()
  else require (!marks.executedOrders order.orderId) "Already executed"

def spendNonce (marks : ReplayMarks) (order : IntentOrder) : Except Revert ReplayMarks :=
  if order.nonce = uint256Max then .ok marks
  else do
    let next ← checked (marks.nonces order.submittedBy + 1)
    return { marks with nonces := Function.update marks.nonces order.submittedBy next }

/-- Step 11 of `executeIntent`. -/
def recordOrder (env : Env) (marks : ReplayMarks) (order : IntentOrder) : Except Revert ReplayMarks := do
  let marks ← spendNonce marks order
  if order.perpetual then do
    let count ← checked (marks.executionCounts order.orderId + 1)
    return { marks with
      executionCounts := Function.update marks.executionCounts order.orderId count
      lastFilledAt := Function.update marks.lastFilledAt order.orderId env.timestamp }
  else
    return { marks with executedOrders := Function.update marks.executedOrders order.orderId true }

def recordLeg (marks : ReplayMarks) (orderId : Bytes32) (legIndex : Nat) : ReplayMarks :=
  { marks with legExecuted := Function.update marks.legExecuted orderId
                (Function.update (marks.legExecuted orderId) legIndex true) }

/-- Collect the fee, run the plan and check what it returns: the part both kinds of
    execution share. The threshold is read again after the plan has run. -/
def runPlan (env : Env) (s : State α) (order : IntentOrder) (plan : ExecutionPlan) :
    Except Revert (State α × Nat × List Log) := do
  let (world, logs) ← app.collectPlatformFee env s order.orderId order.submittedBy order.intentParams
  let handled ← app.handleIntent env { s with world } order plan
  require handled.valid "Intent invariant check failed"
  require (handled.settings.scoreThreshold ≤ handled.score) "Score below threshold"
  return ({ s with settings := handled.settings, world := handled.world }, handled.score, logs)

/-- Steps 1 and 2 of both kinds of execution. -/
def requireLive (env : Env) (s : State α) (order : IntentOrder) : Except Revert Unit := do
  require (s.settings.registeredIntents order.intentSelector) "Intent not registered"
  require (order.chainId == env.chainid) "Wrong chain"
  require (env.timestamp ≤ order.deadline) "Order expired"

def requireUserSignature (order : IntentOrder) (userSignature : Bytes) : Except Revert Unit := do
  let signed ← app.verifier.verifyUserSignature order userSignature app.domainSeparator
  require signed "Invalid user signature"

def executeIntent (env : Env) (s : State α) (order : IntentOrder) (plan : ExecutionPlan)
    (userSignature : Bytes) (validatorSignatures : List Bytes) : Except Revert (State α × List Log) := do
  requireLive env s order
  replayGuard env s.marks order
  require (order.nonce == uint256Max || order.nonce == s.marks.nonces order.submittedBy) "Invalid nonce"
  requireUserSignature app order userSignature
  let planHash := app.verifier.hashPlan plan
  requireQuorum app env s order.orderId planHash validatorSignatures "Insufficient quorum"
  let (ran, score, logs) ← runPlan app env s order plan
  let marks ← recordOrder env ran.marks order
  return ({ ran with marks }, logs ++ [.intentExecuted order.orderId order.submittedBy score planHash])

def State.escrowOf (s : State α) (orderId : Bytes32) (legIndex : Nat) : EscrowDeposit :=
  (s.escrow.get? (orderId, legIndex)).getD .unset

def escrowGate (s : State α) (orderId : Bytes32) (legIndex : Nat) : Except Revert Unit :=
  if 0 < (s.escrowOf orderId legIndex).amount then
    require (s.escrowOf orderId legIndex).released "Escrow not released"
  else .ok ()

def requireLegSignature (order : IntentOrder) (userSignature : Bytes) : Except Revert Unit :=
  if 0 < userSignature.length then requireUserSignature app order userSignature else .ok ()

def executeLegInternal (env : Env) (s : State α) (order : IntentOrder) (plan : ExecutionPlan)
    (legIndex : Nat) (userSignature : Bytes) (validatorSignatures : List Bytes) :
    Except Revert (State α × List Log) := do
  requireLive env s order
  require (!s.marks.legExecuted order.orderId legIndex) "Leg already executed"
  escrowGate s order.orderId legIndex
  requireLegSignature app order userSignature
  let planHash := app.verifier.hashPlan plan
  requireQuorum app env s order.orderId planHash validatorSignatures "Insufficient quorum"
  let (ran, score, logs) ← runPlan app env s order plan
  return ({ ran with marks := recordLeg ran.marks order.orderId legIndex },
    logs ++ [.intentLegExecuted order.orderId order.submittedBy legIndex score planHash])

def executeLeg (env : Env) (s : State α) (order : IntentOrder) (plan : ExecutionPlan)
    (legIndex : Nat) (userSignature : Bytes) (validatorSignatures : List Bytes) :
    Except Revert (State α × List Log) :=
  executeLegInternal app env s order plan legIndex userSignature validatorSignatures

/-- Deprecated in favour of `executeLeg`. -/
def executeCrossChainLeg (env : Env) (s : State α) (order : IntentOrder) (plan : ExecutionPlan)
    (legIndex : Nat) (userSignature : Bytes) (validatorSignatures : List Bytes) :
    Except Revert (State α × List Log) :=
  executeLegInternal app env s order plan legIndex userSignature validatorSignatures

/-- Off-chain simulation: no signature, nonce or replay check, and no requirement on the score. -/
def scoreIntent (env : Env) (s : State α) (order : IntentOrder) (plan : ExecutionPlan) :
    Except Revert (State α × List Log) := do
  nonPayable env
  onlyRelayer app env
  let (world, logs) ← app.collectPlatformFee env s order.orderId order.submittedBy order.intentParams
  let handled ← app.handleIntent env { s with world } order plan
  return ({ s with settings := handled.settings, world := handled.world }, logs)

/-- What `escrowDeposit` requires. The balance is compared with this one deposit. -/
def depositGuards (env : Env) (s : State α) (orderId : Bytes32) (legIndex : Nat) (token : Address)
    (amount : Nat) (user : Address) (deadline : Nat) : Except Revert Unit := do
  nonPayable env
  onlyRelayer app env
  require (0 < amount) "Zero amount"
  require ((s.escrowOf orderId legIndex).amount == 0) "Already deposited"
  require (env.timestamp < deadline) "Deadline in past"
  require (user != 0) "Invalid user"
  require (amount ≤ s.world.tokens.balance token app.self) "Insufficient token balance for escrow"

def escrowDeposit (env : Env) (s : State α) (orderId : Bytes32) (legIndex : Nat) (token : Address)
    (amount : Nat) (user : Address) (deadline : Nat) : Except Revert (State α × List Log) := do
  depositGuards app env s orderId legIndex token amount user deadline
  let dep : EscrowDeposit := { token, amount, user, deadline, released := false, refunded := false }
  return ({ s with escrow := s.escrow.set (orderId, legIndex) dep },
    [.escrowDeposited orderId legIndex token amount user deadline])

/-- What `escrowRelease` requires. -/
def releaseGuards (env : Env) (s : State α) (orderId : Bytes32) (legIndex : Nat)
    (validatorSignatures : List Bytes) (releaseHash : Bytes32) : Except Revert Unit := do
  nonPayable env
  onlyRelayer app env
  let dep := s.escrowOf orderId legIndex
  require (0 < dep.amount) "No deposit"
  require (!dep.released && !dep.refunded) "Already settled"
  require (env.timestamp ≤ dep.deadline) "Expired: user must claim refund"
  requireQuorum app env s orderId releaseHash validatorSignatures "Insufficient quorum for release"

def escrowRelease (env : Env) (s : State α) (orderId : Bytes32) (legIndex : Nat)
    (validatorSignatures : List Bytes) (releaseHash : Bytes32) : Except Revert (State α × List Log) := do
  releaseGuards app env s orderId legIndex validatorSignatures releaseHash
  let dep := s.escrowOf orderId legIndex
  return ({ s with escrow := s.escrow.set (orderId, legIndex) { dep with released := true } },
    [.escrowReleased orderId legIndex dep.token dep.amount])

/-- What `escrowRefund` requires before it moves the tokens. -/
def refundGuards (env : Env) (s : State α) (orderId : Bytes32) (legIndex : Nat) : Except Revert Unit := do
  nonPayable env
  let dep := s.escrowOf orderId legIndex
  require (0 < dep.amount) "No deposit"
  require (!dep.released && !dep.refunded) "Already settled"
  require (dep.deadline < env.timestamp) "Not expired yet"
  require (env.sender == dep.user) "Not the depositor"

def escrowRefund (env : Env) (s : State α) (orderId : Bytes32) (legIndex : Nat) :
    Except Revert (State α × List Log) := do
  refundGuards env s orderId legIndex
  let dep := s.escrowOf orderId legIndex
  match s.world.tokens.transfer dep.token app.self dep.user dep.amount with
  | none => .error .bubbled
  | some tokens =>
    return ({ s with
      escrow := s.escrow.set (orderId, legIndex) { dep with refunded := true }
      world := { s.world with tokens } },
      [.escrowRefunded orderId legIndex dep.token dep.amount dep.user])

def registerIntent (env : Env) (s : State α) (selector : Bytes4) : Except Revert (State α × List Log) := do
  nonPayable env
  onlyRelayer app env
  require (selector != 0) "Invalid selector"
  let registeredIntents := Function.update s.settings.registeredIntents selector true
  return ({ s with settings := { s.settings with registeredIntents } }, [])

def minScoreThreshold : Nat := 5000

def updateScoreThreshold (env : Env) (s : State α) (threshold : Nat) :
    Except Revert (State α × List Log) := do
  nonPayable env
  onlyRelayer app env
  require (minScoreThreshold ≤ threshold && threshold ≤ 10000) "Threshold must be 5000-10000"
  return ({ s with settings := { s.settings with scoreThreshold := threshold } }, [])

def setPlatformFeeCollector (env : Env) (s : State α) (collector : Address) :
    Except Revert (State α × List Log) := do
  nonPayable env
  onlyRelayer app env
  require (collector != 0) "Invalid collector"
  return ({ s with settings := { s.settings with platformFeeCollector := collector } }, [])

def setMaxPlatformFeeWei (env : Env) (s : State α) (maxFee : Nat) :
    Except Revert (State α × List Log) := do
  nonPayable env
  onlyRelayer app env
  return ({ s with settings := { s.settings with maxPlatformFeeWei := maxFee } }, [])

def deployed (relayer validatorRegistry : Address) (scoreThreshold : Nat)
    (platformFeeCollector : Address) (maxPlatformFeeWei : Nat) (world : World α) :
    Except Revert (State α) := do
  require (relayer != 0) "Invalid relayer"
  require (validatorRegistry != 0) "Invalid registry"
  return {
    settings := {
      scoreThreshold := if 5000 ≤ scoreThreshold then scoreThreshold else 5000
      platformFeeCollector
      maxPlatformFeeWei
      registeredIntents := fun _ => false }
    marks := {}
    escrow := Dict.empty
    world }

inductive EntryPoint where
  | executeIntent (order : IntentOrder) (plan : ExecutionPlan) (userSignature : Bytes)
      (validatorSignatures : List Bytes)
  | executeLeg (order : IntentOrder) (plan : ExecutionPlan) (legIndex : Nat)
      (userSignature : Bytes) (validatorSignatures : List Bytes)
  | executeCrossChainLeg (order : IntentOrder) (plan : ExecutionPlan) (legIndex : Nat)
      (userSignature : Bytes) (validatorSignatures : List Bytes)
  | scoreIntent (order : IntentOrder) (plan : ExecutionPlan)
  | escrowDeposit (orderId : Bytes32) (legIndex : Nat) (token : Address) (amount : Nat)
      (user : Address) (deadline : Nat)
  | escrowRelease (orderId : Bytes32) (legIndex : Nat) (validatorSignatures : List Bytes)
      (releaseHash : Bytes32)
  | escrowRefund (orderId : Bytes32) (legIndex : Nat)
  | registerIntent (selector : Bytes4)
  | updateScoreThreshold (threshold : Nat)
  | setPlatformFeeCollector (collector : Address)
  | setMaxPlatformFeeWei (maxFee : Nat)

def dispatch (env : Env) (s : State α) : EntryPoint → Except Revert (State α × List Log)
  | .executeIntent order plan sig sigs => executeIntent app env s order plan sig sigs
  | .executeLeg order plan leg sig sigs => executeLeg app env s order plan leg sig sigs
  | .executeCrossChainLeg order plan leg sig sigs => executeCrossChainLeg app env s order plan leg sig sigs
  | .scoreIntent order plan => scoreIntent app env s order plan
  | .escrowDeposit orderId leg token amount user deadline =>
    escrowDeposit app env s orderId leg token amount user deadline
  | .escrowRelease orderId leg sigs hash => escrowRelease app env s orderId leg sigs hash
  | .escrowRefund orderId leg => escrowRefund app env s orderId leg
  | .registerIntent selector => registerIntent app env s selector
  | .updateScoreThreshold threshold => updateScoreThreshold app env s threshold
  | .setPlatformFeeCollector collector => setPlatformFeeCollector app env s collector
  | .setMaxPlatformFeeWei maxFee => setMaxPlatformFeeWei app env s maxFee

inductive Event (α : Type) where
  | call (env : Env) (entry : EntryPoint)
  /-- Tokens arrive at the contract. -/
  | incoming (token : Address) (amount : Nat)
  /-- Anything happens outside the contract's own storage. -/
  | outside (world : World α)

def step (s : State α) : Event α → State α × Except Revert (List Log)
  | .call env entry =>
    match dispatch app env s entry with
    | .ok (s', logs) => (s', .ok logs)
    | .error e => (s, .error e)
  | .incoming token amount =>
    ({ s with world := { s.world with tokens := s.world.tokens.credit token app.self amount } }, .ok [])
  | .outside world => ({ s with world }, .ok [])

end MinotaurSubnet.Contracts
