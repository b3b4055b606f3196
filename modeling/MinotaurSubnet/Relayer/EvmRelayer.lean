import MinotaurSubnet.Library.Dialogue
import MinotaurSubnet.Shared.Plan
import Mathlib.Data.List.Infix

/-! # What the EVM relayer asks

`relayer/evm_relayer.py`: the operations that sign a transaction, as what they ask of the nonce
manager, the node and the signer. A question is one atomic step: the nonce manager's methods
run under its lock, everything else is one RPC call.
-/

namespace MinotaurSubnet.EvmRelayer

open Library Python Shared

structure Raised where
  className : String := "Exception"
  text : String
  contractLogicError : Bool := false
  deriving DecidableEq

inductive FeeFields where
  | legacy (gasPrice : Nat)
  | dynamic (maxPriorityFee maxFee : Nat)
  /-- Filled in by `build_transaction`. -/
  | filled
  deriving DecidableEq

structure Tx where
  nonce : Nat
  gas : Nat
  fee : FeeFields
  value : Int := 0
  data : String
  deriving DecidableEq

structure Receipt where
  status : Nat
  blockNumber : Nat := 0
  gasUsed : Nat := 0
  contractAddress : String := ""
  deriving DecidableEq

inductive Question where
  /-- `NonceManager.get_and_increment`. -/
  | allocate
  /-- `NonceManager.reset`. -/
  | reset
  /-- `NonceManager.invalidate`. -/
  | invalidate
  | web3
  | registered (app : String)
  | balance
  | gasPrice
  | baseFee
  | priorityFee
  | estimate (value : Int) (data : String)
  | build (tx : Tx)
  | sign (tx : Tx)
  | send (tx : Tx)
  | receipt (tx : Tx)
  | replay (tx : Tx)
  deriving DecidableEq

abbrev Question.Answer : Question → Type
  | .allocate | .balance | .gasPrice | .priorityFee | .estimate _ _ => Except Raised Nat
  | .reset | .web3 | .build _ | .sign _ | .replay _ => Except Raised Unit
  | .invalidate => Unit
  | .registered _ => Bool
  | .baseFee => Except Raised (Option Nat)
  | .send _ => Except Raised String
  | .receipt _ => Except Raised Receipt

abbrev Talk := Dialogue Question Question.Answer

def ask (q : Question) : Talk q.Answer := Dialogue.put q

structure SubmitResult where
  success : Bool
  txHash : Option String := none
  error : Option String := none
  chainId : Int := 0
  blockNumber : Option Nat := none
  gasUsed : Nat := 0
  broadcastAttempted : Bool := false
  deriving DecidableEq

/-- The relayer of one chain: its configuration, and the float arithmetic and the texts of the
    host language. -/
structure Relayer where
  chainId : Int := 8453
  configured : Bool := true
  /-- `app_intent_base_address`. -/
  appIntentBase : String := ""
  maxRetries : Nat := 2
  minBalance : Nat := 10000000000000000
  /-- `int(estimate * _GAS_ESTIMATE_MULTIPLIER)`. -/
  withMargin : Nat → Except Raised Nat
  /-- `int(base_price * bump)` with the bump of an attempt. -/
  bumped : Nat → Nat → Except Raised Nat
  /-- `str.lower`. -/
  lower : String → String
  /-- `str(v)`. -/
  str : Value → String
  raise : PyError → Raised
  /-- `format(wei / 10**18, ".4f")`. -/
  eth : Nat → String

inductive CallFn where
  | executeLeg (legIndex : Value)
  | executeIntent

/-- The arguments of one `submit_plan`. -/
structure Job where
  orderId : String
  /-- `order.params`. -/
  params : Value
  plan : ExecutionPlan
  contractAddress : Option String := none
  /-- What encoding the order, the plan and the signatures raises. -/
  prepared : Except Raised Unit := .ok ()
  /-- `_encode_transaction_data` of the call. -/
  encode : CallFn → Except Raised String

def hasText (text part : String) : Bool := decide (part.toList <:+: text.toList)

section

variable (relayer : Relayer)

def raising {α : Type} : Except PyError α → Except Raised α
  | .ok a => .ok a
  | .error e => .error (relayer.raise e)

def isExecutionRevert (e : Raised) : Bool :=
  e.contractLogicError || hasText (relayer.lower e.text) "execution reverted"

def isNonceError (text : String) : Bool :=
  hasText text "nonce" || hasText text "already known" || hasText text "not in the chain"
    || hasText text "timeout"

def isUnderpriced (text : String) : Bool := hasText text "underpriced" || hasText text "replacement"

def bidOf (attempt : Nat) (answer : Except Raised Nat) : Except Raised Nat :=
  let basePrice := match answer with
    | .ok price => price
    | .error _ => 20000000000
  if 0 < attempt then relayer.bumped attempt basePrice else .ok basePrice

def getGasPrice (attempt : Nat) : Talk (Except Raised Nat) := do
  let answer : Except Raised Nat ← ask .gasPrice
  return bidOf relayer attempt answer

def legIndexOf (metadata : Value) : Except PyError Value := do
  let index ← metadata.get "leg_index"
  if index.isNone then metadata.get "cross_chain_leg_index" else return index

def callFnOf (metadata : Value) : Except PyError CallFn := do
  let index ← legIndexOf metadata
  let phase ← metadata.get "phase"
  if !index.isNone then return .executeLeg index
  else if phase.isStr "destination" then
    return .executeLeg (← metadata.get "cross_chain_leg_index" (.int 0))
  else return .executeIntent

def txValue (interactions : List Interaction) : Except PyError Int :=
  interactions.foldlM (fun total ix => do
    if ix.value.truthy && relayer.str ix.value != "0" then return total + (← ix.value.toInt)
    else return total) 0

def callOf (job : Job) : Except Raised (Int × String) := do
  let fn ← raising relayer (callFnOf (job.plan.metadata.or (.dict [])))
  let value ← raising relayer (txValue relayer job.plan.interactions)
  let data ← job.encode fn
  return (value, data)

inductive DryRun where
  | limit (gas : Nat)
  | reverted (reason : String)

/-- The answer to a failed estimate: a revert stops the order, anything else gets the default. -/
def fallbackLimit (e : Raised) : DryRun :=
  if isExecutionRevert relayer e then .reverted e.text else .limit 2000000

/-- `_dry_run_or_raise` on an answer of the node. -/
def dryRunOf : Except Raised Nat → DryRun
  | .error e => fallbackLimit relayer e
  | .ok estimate => match relayer.withMargin estimate with
      | .ok gas => .limit gas
      | .error e => fallbackLimit relayer e

/-- `int((order.params or {}).get("platform_fee_wei", 0) or 0)`. -/
def lockedFee (job : Job) : Except PyError Int := do
  let fee ← (job.params.or (.dict [])).get "platform_fee_wei" (.int 0)
  fee.toIntOr 0

def maxGasPriceWei (lockedFeeWei gasUnits : Int) : Int :=
  if gasUnits ≤ 0 then 0 else lockedFeeWei / gasUnits

def cappedGasPrice (lockedFee : Int) (gasLimit gasPrice : Nat) : Nat :=
  let cap := maxGasPriceWei lockedFee gasLimit
  if 0 < lockedFee ∧ 0 < gasLimit ∧ 0 < cap ∧ cap < gasPrice then cap.toNat else gasPrice

inductive Built where
  | tx (tx : Tx)
  | reverted (reason : String)
  | raised (e : Raised)

def priceTx (job : Job) (nonce gasPrice : Nat) (value : Int) (data : String) : Talk Built := do
  let estimate : Except Raised Nat ← ask (.estimate value data)
  match dryRunOf relayer estimate, raising relayer (lockedFee job) with
  | .reverted reason, _ => return .reverted reason
  | .limit _, .error e => return .raised e
  | .limit gasLimit, .ok fee =>
    let tx : Tx := {
      nonce, gas := gasLimit, fee := .legacy (cappedGasPrice fee gasLimit gasPrice), value, data }
    let built : Except Raised Unit ← ask (.build tx)
    match built with
    | .error e => return .raised e
    | .ok _ => return .tx tx

def buildTx (job : Job) (attempt : Nat) : Talk Built := do
  let allocated : Except Raised Nat ← ask .allocate
  match allocated with
  | .error e => return .raised e
  | .ok nonce =>
    match ← getGasPrice relayer attempt with
    | .error e => return .raised e
    | .ok gasPrice =>
      match callOf relayer job with
      | .error e => return .raised e
      | .ok (value, data) => priceTx relayer job nonce gasPrice value data

inductive Sent where
  | returned (result : SubmitResult)
  | raised (e : Raised) (broadcast : Bool)

/-- What a receipt says about the plan; a revert is replayed for its reason. -/
def readReceipt (tx : Tx) (hash : String) (receipt : Receipt) : Talk Sent :=
  if receipt.status = 1 then
    return .returned {
      success := true, txHash := some hash, chainId := relayer.chainId
      blockNumber := some receipt.blockNumber, gasUsed := receipt.gasUsed, broadcastAttempted := true }
  else do
    let replayed : Except Raised Unit ← ask (.replay tx)
    let reason := match replayed with
      | .ok _ => "Transaction reverted on-chain"
      | .error e => "Transaction reverted: " ++ e.text
    return .returned {
      success := false, txHash := some hash, error := some reason, chainId := relayer.chainId
      blockNumber := some receipt.blockNumber, gasUsed := receipt.gasUsed, broadcastAttempted := true }

def signAndSend (tx : Tx) : Talk Sent := do
  let signed : Except Raised Unit ← ask (.sign tx)
  match signed with
  | .error e => return .raised e false
  | .ok _ =>
    let sent : Except Raised String ← ask (.send tx)
    match sent with
    | .error e => return .raised e true
    | .ok hash =>
      let waited : Except Raised Receipt ← ask (.receipt tx)
      match waited with
      | .error e => return .raised e true
      | .ok receipt => readReceipt relayer tx hash receipt

def failure (error : String) (broadcast : Bool) : SubmitResult where
  success := false
  error := some error
  chainId := relayer.chainId
  broadcastAttempted := broadcast

def exhausted (last : Option Raised) (broadcast : Bool) : Talk SubmitResult := do
  ask .invalidate
  let text := match last with
    | some e => e.text
    | none => "None"
  return failure relayer s!"Failed after {relayer.maxRetries} attempts: {text}" broadcast

/-- The handler of an attempt; `next` is the attempt after it, if one is left. -/
def retry (next : Talk SubmitResult) (attempt : Nat) (e : Raised) (broadcast : Bool) :
    Talk SubmitResult := do
  let text := relayer.lower e.text
  if isNonceError text then
    let wasReset : Except Raised Unit ← ask .reset
    match wasReset with
    | .error e => return failure relayer (e.className ++ ": " ++ e.text) broadcast
    | .ok _ => next
  else if isUnderpriced text || decide (attempt < relayer.maxRetries - 1) then
    ask .invalidate
    next
  else exhausted relayer (some e) broadcast

def attempts (job : Job) : Nat → Nat → Option Raised → Bool → Talk SubmitResult
  | 0, _, last, broadcast => exhausted relayer last broadcast
  | left + 1, attempt, _, broadcast => do
      match ← buildTx relayer job attempt with
      | .reverted reason =>
        return failure relayer ("pre-broadcast dry-run reverted: " ++ reason) broadcast
      | .raised e =>
        retry relayer (attempts job left (attempt + 1) (some e) broadcast) attempt e broadcast
      | .tx tx =>
        match ← signAndSend relayer tx with
        | .returned result => return result
        | .raised e sent =>
          retry relayer (attempts job left (attempt + 1) (some e) (broadcast || sent)) attempt e
            (broadcast || sent)

/-- `_check_balance`; a failed read does not refuse. -/
def balanceError : Except Raised Nat → Option String
  | .error _ => none
  | .ok balance =>
    if balance < relayer.minBalance then
      some (s!"Relayer balance too low on chain {relayer.chainId}: {relayer.eth balance} ETH < "
        ++ s!"{relayer.eth relayer.minBalance} ETH minimum")
    else none

/-- The part of `_submit_plan_sync` under its outer `try`. -/
def submitToChain (job : Job) : Talk SubmitResult := do
  let connected : Except Raised Unit ← ask .web3
  match connected with
  | .error e => return failure relayer (e.className ++ ": " ++ e.text) false
  | .ok _ =>
    let balance : Except Raised Nat ← ask .balance
    match balanceError relayer balance, job.prepared with
    | some error, _ => return failure relayer error false
    | none, .error e => return failure relayer (e.className ++ ": " ++ e.text) false
    | none, .ok _ => attempts relayer job relayer.maxRetries 0 none false

def appAddress (job : Job) : String :=
  match job.contractAddress with
  | some address => if address = "" then relayer.appIntentBase else address
  | none => relayer.appIntentBase

/-- `_submit_plan_sync`. -/
def submitPlan (job : Job) : Talk SubmitResult :=
  if !relayer.configured then
    return failure relayer s!"Chain {relayer.chainId} not configured" false
  else if appAddress relayer job = "" then
    return failure relayer (s!"No app contract address for order {job.orderId} on chain "
      ++ s!"{relayer.chainId} (order carried no app_address; static "
      ++ "APP_INTENT_BASE env fallback removed)") false
  else do
    let known : Bool ← ask (.registered (appAddress relayer job))
    if known then submitToChain relayer job
    else
      return failure relayer (s!"App contract {appAddress relayer job} is not registered in the "
        ++ s!"AppRegistry on chain {relayer.chainId}") false

/-- `_build_deploy_gas_fields`; `minTip` is the chain's floor of the tip and `legacyPrice` the
    float product of the fallback. -/
def buildDeployGasFields (minTip : Nat) (legacyPrice : Nat → Nat) : Talk (Except Raised FeeFields) := do
  let base : Except Raised (Option Nat) ← ask .baseFee
  match base with
  | .error e => return .error e
  | .ok none =>
    let price : Except Raised Nat ← ask .gasPrice
    match price with
    | .error e => return .error e
    | .ok price => return .ok (.legacy (max (legacyPrice price) 1000000000))
  | .ok (some base) =>
    let answer : Except Raised Nat ← ask .priorityFee
    let tip := max (match answer with
      | .ok tip => tip
      | .error _ => 0) minTip
    return .ok (.dynamic tip (base * 4 + tip))

def estimateGas (data : String) : Talk Nat := do
  let answer : Except Raised Nat ← ask (.estimate 0 data)
  match answer with
  | .error _ => return 2000000
  | .ok estimate => match relayer.withMargin estimate with
      | .ok gas => return gas
      | .error _ => return 2000000

/-- Sign, send and wait; every failure is an exception of the caller. -/
def broadcastTx (tx : Tx) : Talk (Except Raised (String × Receipt)) := do
  let signed : Except Raised Unit ← ask (.sign tx)
  match signed with
  | .error e => return .error e
  | .ok _ =>
    let sent : Except Raised String ← ask (.send tx)
    match sent with
    | .error e => return .error e
    | .ok hash =>
      let waited : Except Raised Receipt ← ask (.receipt tx)
      match waited with
      | .error e => return .error e
      | .ok receipt => return .ok (hash, receipt)

/-- The guarded part of `deploy_contract`. -/
def deployTx (bytecode : String) (minTip : Nat) (legacyPrice : Nat → Nat) (nonce : Nat) :
    Talk (Except Raised (String × Receipt)) := do
  let estimate ← estimateGas relayer bytecode
  let gas := max estimate 6000000
  match ← buildDeployGasFields minTip legacyPrice with
  | .error e => return .error e
  | .ok fee => broadcastTx { nonce, gas, fee, data := bytecode }

def deployContract (bytecode : String) (minTip : Nat) (legacyPrice : Nat → Nat) :
    Talk (Except Raised (String × String)) := do
  let connected : Except Raised Unit ← ask .web3
  match connected with
  | .error e => return .error e
  | .ok _ =>
    let allocated : Except Raised Nat ← ask .allocate
    match allocated with
    | .error e => return .error e
    | .ok nonce =>
      match ← deployTx relayer bytecode minTip legacyPrice nonce with
      | .error e =>
        ask .invalidate
        return .error e
      | .ok (hash, receipt) =>
        if receipt.status = 1 then return .ok (receipt.contractAddress, hash)
        else return .error {
          className := "RuntimeError"
          text := s!"Contract deploy reverted on chain {relayer.chainId} (tx={hash} "
            ++ s!"gasUsed={receipt.gasUsed})" }

end

/-- A call from the relayer wallet: what encoding it gives, its gas, whether its price is asked
    of the node, and the name a revert is reported under. -/
structure ContractCall where
  encoded : Except Raised String
  gas : Nat
  value : Int := 0
  priced : Bool := true
  revertName : Option String := none

/-- The fee fields of a call; without a price `build_transaction` fills them in. -/
def callFee (relayer : Relayer) (call : ContractCall) (nonce : Nat) (data : String) :
    Talk (Except Raised FeeFields) := do
  if call.priced then
    match ← getGasPrice relayer 0 with
    | .error e => return .error e
    | .ok price => return .ok (.legacy price)
  else
    let tx : Tx := { nonce, gas := call.gas, fee := .filled, value := call.value, data }
    let built : Except Raised Unit ← ask (.build tx)
    match built with
    | .error e => return .error e
    | .ok _ => return .ok .filled

def callWith (relayer : Relayer) (call : ContractCall) (nonce : Nat) (data : String) :
    Talk (Except Raised String) := do
  match ← callFee relayer call nonce data with
  | .error e => return .error e
  | .ok fee =>
    let tx : Tx := { nonce, gas := call.gas, fee, value := call.value, data }
    match ← broadcastTx tx with
    | .error e => return .error e
    | .ok (hash, receipt) =>
      match call.revertName with
      | none => return .ok hash
      | some name =>
        if receipt.status = 1 then return .ok hash
        else return .error { className := "RuntimeError", text := s!"{name} reverted: tx={hash}" }

def sendCall (relayer : Relayer) (call : ContractCall) : Talk (Except Raised String) := do
  let connected : Except Raised Unit ← ask .web3
  match connected, call.encoded with
  | .error e, _ | .ok _, .error e => return .error e
  | .ok _, .ok data =>
    let allocated : Except Raised Nat ← ask .allocate
    match allocated with
    | .error e => return .error e
    | .ok nonce => callWith relayer call nonce data

def registerIntent (relayer : Relayer) (encoded : Except Raised String) : Talk (Except Raised String) :=
  sendCall relayer { encoded, gas := 100000, priced := false }

def syncValidators (relayer : Relayer) (encoded : Except Raised String) : Talk (Except Raised String) :=
  sendCall relayer { encoded, gas := 200000, priced := false }

def callEscrowDeposit (relayer : Relayer) (encoded : Except Raised String) :
    Talk (Except Raised String) :=
  sendCall relayer { encoded, gas := 200000, revertName := some "escrowDeposit" }

def callContractFunction (relayer : Relayer) (signature : String) (encoded : Except Raised String)
    (value : Int) (gas : Nat) : Talk (Except Raised String) :=
  sendCall relayer { encoded, gas, value, revertName := some signature }

def callEscrowRelease (relayer : Relayer) (encoded : Except Raised String) :
    Talk (Except Raised String) :=
  sendCall relayer { encoded, gas := 300000, revertName := some "escrowRelease" }

end MinotaurSubnet.EvmRelayer
