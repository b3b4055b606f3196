import MinotaurSubnet.Relayer.SubmitPlan

/-! # Deployments and contract calls

`RelayerService.handle_deploy` and `handle_contract_call` of `relayer/main.py`. Both climb the
ladder of `handle_submit_plan` (budget, wrapper, nonce, rate) over a hash of their own
parameters. Neither reserves a slot, and neither charges the budget afterwards.
-/

namespace MinotaurSubnet.Relayer

open Library Python Consensus Shared

/-- What the two endpoints use besides what `handle_submit_plan` does. -/
structure AdminService extends SubmitService where
  /-- `repr(v)`. -/
  repr : Value → String
  /-- `json.dumps(v, sort_keys=True, separators=(",", ":"))`. -/
  canonicalJson : Value → String
  /-- `abi_encode` of two byte strings. -/
  abiEncodeBytes : List UInt8 → List UInt8 → List UInt8

structure SignedWrapper where
  signer : String
  payload : WrapperPayload
  signature : Value

structure WrapperTexts where
  missing : String
  mismatch : String
  wrongChain : String
  unregistered : String

def submitTexts : WrapperTexts where
  missing := "missing wrapper or wrapper_signature in payload — the api must sign a freshness wrapper "
    ++ "around the bundle before submitting (see consensus.leader_wrapper.sign_wrapper)"
  mismatch := "wrapper plan_hash doesn't match plan"
  wrongChain := "wrapper chain_id doesn't match order"
  unregistered := "— only registered validators can submit"

def deployTexts : WrapperTexts where
  missing := "missing wrapper or wrapper_signature — the caller must sign a freshness wrapper around "
    ++ "the deploy request (see consensus.leader_wrapper.sign_wrapper with "
    ++ "plan_hash=compute_deploy_hash(bytecode, constructor_args))"
  mismatch := "wrapper plan_hash doesn't match deploy params"
  wrongChain := "wrapper chain_id doesn't match request"
  unregistered := "— only registered validators can deploy"

def callTexts : WrapperTexts where
  missing := "missing wrapper or wrapper_signature — sign a freshness wrapper with "
    ++ "plan_hash=compute_contract_call_hash(...)"
  mismatch := "wrapper plan_hash doesn't match call params"
  wrongChain := "wrapper chain_id doesn't match request"
  unregistered := "— only registered validators may call"

section

variable (svc : SubmitService) (now : Int)

def wrapperSigner (planHash : String) (payload : WrapperPayload) (signature : Value) :
    Except SubmitStop String :=
  match svc.recoverWrapperSigner planHash payload.submissionNonce payload.timestamp payload.chainId
      signature with
  | .ok signer => .ok signer
  | .error e => .error (.response 400 s!"wrapper sig invalid: {svc.errorText e}")

def registeredOn (chainId : Int) : Except SubmitStop (List String) :=
  match svc.authorizedValidators chainId with
  | .ok authorized => .ok authorized
  | .error e => .error (.response 502 s!"ValidatorRegistry read failed: {svc.errorText e}")

def admitWrapper (texts : WrapperTexts) (wrapper signature : Value) (expected : Except SubmitStop String)
    (chainId : Int) (registry : String) : Except SubmitStop (SignedWrapper × List String) := do
  ensure (wrapper.truthy && signature.truthy) (.response 400 texts.missing)
  let payload ← readWrapper svc wrapper
  let planHash ← expected
  ensure (payload.planHash.isStr planHash) (.response 400 texts.mismatch)
  ensure (payload.chainId = chainId) (.response 400 texts.wrongChain)
  refuseIf 400 (isWrapperFresh svc now payload)
  let signer ← wrapperSigner svc planHash payload signature
  ensure (registry ≠ "") (.response 500 s!"no ValidatorRegistry configured on chain {chainId}")
  let authorized ← registeredOn svc chainId
  ensure (isAuthorized svc authorized signer) (.response 403
    (s!"wrapper signer {signer} not in ValidatorRegistry on chain {chainId} " ++ texts.unregistered))
  return (⟨signer, payload, signature⟩, authorized)

def admitCall (texts : WrapperTexts) (wrapper signature : Value) (expected : Except SubmitStop String)
    (chainId : Int) (registry : String) (s : Safeguards) : Safeguards × Except SubmitStop SignedWrapper :=
  match admitWrapper svc now texts wrapper signature expected chainId registry with
  | .error stop => (s, .error stop)
  | .ok (signed, _) =>
  let (s, replayed) := s.checkSignerNonce svc.host.lower signed.signer signed.payload.submissionNonce
  match replayed with
  | some text => (s, .error (.response 409 text))
  | none =>
  let (s, flooded) := s.checkCallerRate svc.limits svc.host.lower now signed.signer
  match flooded with
  | some text => (s, .error (.response 429 text))
  | none => (s, .ok signed)

end

section

variable (svc : AdminService) (now : Int)

structure DeployRequest where
  bytecode : Value
  constructorArgs : Value
  chainId : Int
  registry : String
  wrapper : Value
  wrapperSignature : Value

def computeDeployHash (bytecode constructorArgs : Value) : Except PyError String := do
  let text ← bytecode.asStr
  match bytesFromHex (if startsWith text "0x" then slice text 2 text.length else text) with
  | none => .error .valueError
  | some code =>
    let args := utf8 (svc.canonicalJson (constructorArgs.or (.list [])))
    return "0x" ++ hexOfBytes (svc.host.keccak (svc.abiEncodeBytes code args))

/-- `int(chain_id_raw)`. -/
def deployChain (chainIdRaw : Value) : Except SubmitStop Int :=
  match chainIdRaw.toInt with
  | .ok chainId => .ok chainId
  | .error .overflowError => .error (.raised .overflowError)
  | .error _ => .error (.response 400 s!"invalid chain_id: {svc.repr chainIdRaw}")

def readDeploy (data : Value) : Except SubmitStop DeployRequest := do
  let bytecode ← raisingStop (data.get "bytecode")
  let constructorArgs := (← raisingStop (data.get "constructor_args" (.list []))).or (.list [])
  let chainIdRaw ← raisingStop (data.get "chain_id")
  ensure (bytecode.truthy && !chainIdRaw.isNone) (.response 400 "bytecode + chain_id required")
  let chainId ← deployChain svc chainIdRaw
  let registry ← supportedChain svc.toSubmitService chainId
  let wrapper ← raisingStop (data.get "wrapper")
  let wrapperSignature ← raisingStop (data.get "wrapper_signature")
  return { bytecode, constructorArgs, chainId, registry, wrapper, wrapperSignature }

def expectedDeployHash (request : DeployRequest) : Except SubmitStop String :=
  match computeDeployHash svc request.bytecode request.constructorArgs with
  | .ok hash => .ok hash
  | .error e => .error (.response 400 s!"bad bytecode/args: {svc.errorText e}")

/-- `handle_deploy` up to the call of `deploy_contract`. -/
def handleDeploy (s : Safeguards) (data : Value) : Safeguards × Except SubmitStop DeployRequest :=
  match readDeploy svc data with
  | .error stop => (s, .error stop)
  | .ok request =>
  let (s, full) := s.checkDailyGasRoom svc.limits now svc.eth
  match full with
  | some text => (s, .error (.response 429 text))
  | none =>
  let (s, admitted) := admitCall svc.toSubmitService now deployTexts request.wrapper
    request.wrapperSignature (expectedDeployHash svc request) request.chainId request.registry s
  (s, do
    let _ ← admitted
    -- the acceptance line of the log takes the length of the arguments
    ensure request.constructorArgs.sized (.raised .typeError)
    return request)

end

section

variable (svc : AdminService) (now : Int)

def contractCallAllowedSigs : List String :=
  ["deposit()", "transfer(address,uint256)", "withdrawFloat(address,uint256)",
    "setFeeBps(uint256)", "setVolumeCapBps(uint256)", "setFeeCollector(address)",
    "setFeeMode(uint8)", "setAppOwner(address)",
    "setDeveloperAllowed(address,bool)", "registerApp(bytes32,bytes32,address)", "revokeApp(bytes32)"]

def contractCallMaxGas : Int := 300000

def contractCallMaxValueWei : Int := 1000000000000000000

structure CallRequest where
  target : Value
  fnSignature : Value
  abiTypes : List Value
  values : List Value
  chainId : Int
  txValue : Int
  gas : Int
  registry : String
  wrapper : Value
  wrapperSignature : Value

def numericField (x : Except PyError Int) : Except SubmitStop Int :=
  match x with
  | .ok n => .ok n
  | .error .overflowError => .error (.raised .overflowError)
  | .error e => .error (.response 400 s!"invalid numeric field: {svc.errorText e}")

/-- `fn_signature not in CONTRACT_CALL_ALLOWED_SIGS`; what has no hash raises. -/
def checkAllowlisted (fnSignature : Value) : Except SubmitStop Unit :=
  if fnSignature.hashable then
    ensure (contractCallAllowedSigs.any fnSignature.isStr)
      (.response 403 s!"function not allowlisted for contract-call: {svc.repr fnSignature}")
  else .error (.raised .typeError)

def lengthMismatch : SubmitStop :=
  .response 400 "target required; abi_types/values length mismatch"

def readContractCall (data : Value) : Except SubmitStop CallRequest := do
  let target := (← raisingStop (data.get "target")).or (.str "")
  let fnSignature := (← raisingStop (data.get "fn_signature")).or (.str "")
  let abiTypes := (← raisingStop (data.get "abi_types")).or (.list [])
  let values := (← raisingStop (data.get "values")).or (.list [])
  let chainId ← numericField svc (← raisingStop (data.get "chain_id")).toInt
  let txValue ← numericField svc ((← raisingStop (data.get "tx_value")).toIntOr 0)
  let gas ← numericField svc ((← raisingStop (data.get "gas")).toIntOr 200000)
  checkAllowlisted svc fnSignature
  ensure target.truthy lengthMismatch
  let types ← raisingStop abiTypes.iterate
  let given ← raisingStop values.iterate
  ensure (types.length = given.length) lengthMismatch
  ensure (0 < gas ∧ gas ≤ contractCallMaxGas)
    (.response 400 s!"gas outside (0, {contractCallMaxGas}]")
  ensure (0 ≤ txValue ∧ txValue ≤ contractCallMaxValueWei)
    (.response 400 s!"tx_value outside [0, {contractCallMaxValueWei}]")
  let registry ← supportedChain svc.toSubmitService chainId
  let wrapper ← raisingStop (data.get "wrapper")
  let wrapperSignature ← raisingStop (data.get "wrapper_signature")
  return {
    target, fnSignature, abiTypes := types, values := given, chainId, txValue, gas, registry, wrapper
    wrapperSignature }

/-- `contract_call_wire_values`; a body holds no bytes. -/
def contractCallWireValues (values : List Value) : List Value :=
  values.map fun
    | .bool true => .str "true"
    | .bool false => .str "false"
    | v => .str (svc.str v)

def computeContractCallHash (request : CallRequest) : Except PyError String := do
  let target ← request.target.asStr
  let canonical : Value := .dict [
    ("chain_id", .int request.chainId), ("target", .str (svc.host.lower target)),
    ("fn_signature", .str (svc.str request.fnSignature)), ("abi_types", .list request.abiTypes),
    ("values", .list (contractCallWireValues svc request.values)),
    ("tx_value", .int request.txValue), ("gas", .int request.gas)]
  return "0x" ++ hexOfBytes (svc.host.keccak (utf8 (svc.canonicalJson canonical)))

inductive CallValue where
  | given (v : Value)
  | bytes (b : List UInt8)
  | bool (b : Bool)
  | int (i : Int)

/-- `_coerce`. -/
def coerceValue (type v : Value) : Except PyError CallValue :=
  match type with
  | .str name =>
    if name = "address" ∨ name = "string" then .ok (.given v)
    else if startsWith name "bytes" then
      let s := svc.str v
      match bytesFromHex (if startsWith s "0x" then slice s 2 s.length else s) with
      | some bytes => .ok (.bytes bytes)
      | none => .error .valueError
    else if name = "bool" then .ok (.bool (svc.host.lower (svc.str v) ∈ ["true", "1"]))
    else v.toInt.map .int
  | _ => .error .attributeError

/-- What goes to `call_contract_function`. -/
def coercedCall (request : CallRequest) : Except SubmitStop (CallRequest × List CallValue) :=
  match (request.abiTypes.zip request.values).mapM fun pair => coerceValue svc pair.1 pair.2 with
  | .ok coerced => .ok (request, coerced)
  | .error .typeError => .error (.response 400 s!"bad values for abi_types: {svc.errorText .typeError}")
  | .error .valueError => .error (.response 400 s!"bad values for abi_types: {svc.errorText .valueError}")
  | .error e => .error (.raised e)

/-- `handle_contract_call` up to the call of `call_contract_function`. -/
def handleContractCall (s : Safeguards) (data : Value) :
    Safeguards × Except SubmitStop (CallRequest × List CallValue) :=
  match readContractCall svc data with
  | .error stop => (s, .error stop)
  | .ok request =>
  let (s, full) := s.checkDailyGasRoom svc.limits now svc.eth
  match full with
  | some text => (s, .error (.response 429 text))
  | none =>
  let (s, admitted) := admitCall svc.toSubmitService now callTexts request.wrapper
    request.wrapperSignature (raisingStop (computeContractCallHash svc request)) request.chainId
    request.registry s
  match admitted with
  | .error stop => (s, .error stop)
  | .ok _ => (s, coercedCall svc request)

end

theorem checkWrapper_eq (svc : SubmitService) (now : Int) (bundle : Bundle) (planHash : String) :
    checkWrapper svc now bundle planHash =
      (admitWrapper svc now submitTexts bundle.wrapper bundle.wrapperSignature (.ok planHash)
        bundle.chainId bundle.registry).map fun admitted =>
          (admitted.1.payload, admitted.1.signer, admitted.2) := by
  simp only [checkWrapper, admitWrapper, map_bind]
  rfl

end MinotaurSubnet.Relayer
