import MinotaurSubnet.Consensus.Eip712
import MinotaurSubnet.Library.Fallible

/-! # Plans and their simulation

The data of `shared/types.py` that the leader and the followers exchange with the
simulator and the scoring engine, and the helpers both sides build it with. A plan
that arrives over the wire is not typed by anything, so its fields are dynamic values.
-/

namespace MinotaurSubnet.Shared

open Library Python Consensus

structure Interaction where
  target : Value
  value : Value
  callData : Value
  chainId : Value

/-- `interactions[i]` of an index below the length; negative ones count from the end. -/
def pickInteraction (interactions : List Interaction) (i : Int) :
    Except PyError (Option Interaction) :=
  let length : Int := interactions.length
  if i < length then
    match interactions[(if 0 ≤ i then i else length + i).toNat]? with
    | some ix => if -length ≤ i then .ok (some ix) else .error (.other "IndexError")
    | none => .error (.other "IndexError")
  else .ok none

theorem pickInteraction_ok {interactions i} :
    (∃ picked, pickInteraction interactions i = .ok picked) ↔ -(interactions.length : Int) ≤ i := by
  unfold pickInteraction
  dsimp only
  by_cases low : i < interactions.length
  · rw [if_pos low]
    by_cases high : -(interactions.length : Int) ≤ i
    · have inside : (if 0 ≤ i then i else interactions.length + i).toNat < interactions.length := by
        split <;> omega
      rw [List.getElem?_eq_getElem inside]
      simp [high]
    · cases interactions[(if 0 ≤ i then i else interactions.length + i).toNat]? with
      | none => simp [high]
      | some ix => simp [high]
  · simp only [if_neg low, Except.ok.injEq, exists_eq', true_iff]
    omega

structure ExecutionPlan where
  intentId : Value
  interactions : List Interaction
  deadline : Value
  nonce : Value
  metadata : Value

structure TokenTransfer where
  token : Value
  fromAddr : Value
  toAddr : Value
  amount : Value

/-- `SimulationResult`, also when it is rebuilt from a peer's message. -/
structure SimulationResult where
  success : Value
  gasUsed : Value := .int 0
  tokenTransfers : List TokenTransfer := []
  onChainScore : Value := .none
  error : Value := .none

/-- What a simulator of this node returns. -/
structure LocalSimulation where
  success : Bool
  gasUsed : Int := 0
  tokenTransfers : List TokenTransfer := []
  onChainScore : Option Int := none
  error : Option String := none

def LocalSimulation.result (s : LocalSimulation) : SimulationResult where
  success := .bool s.success
  gasUsed := .int s.gasUsed
  tokenTransfers := s.tokenTransfers
  onChainScore := (s.onChainScore.map Value.int).getD .none
  error := (s.error.map Value.str).getD .none

structure IntentState where
  contractAddress : String
  chainId : Int
  nonce : Value
  owner : Value
  rawParams : Value
  intentFunction : Value

/-- The order as `scoreIntent` gets it. `nativeInput` is the amount sent along when the
    input token is the native one. -/
structure IntentOrder where
  orderId : Value
  app : String
  intentSelector : String
  intentParams : Value
  submittedBy : Value
  chainId : Int
  deadline : Int
  nonce : Value
  perpetual : Bool
  maxExecutions : Int
  cooldown : Int
  nativeInput : Option Value := none

/-- The arguments of `simulate`. -/
structure SimulationRequest where
  plan : ExecutionPlan
  contractAddress : Option String
  intentOrder : Option IntentOrder
  tokenBalances : Option (Value × Int)

def contractOf (address : String) : Option String := if address = "" then none else some address

def isHexText (s : String) : Bool := s.toList.all fun c =>
  ('0' ≤ c && c ≤ '9') || ('a' ≤ c && c ≤ 'f') || ('A' ≤ c && c ≤ 'F')

/-- A selector given in hex; a `0x` alone passes the test too. -/
def explicitSelector (explicit : Value) : Except PyError (Option String) :=
  if explicit.truthy then do
    let given ← explicit.asStr
    return if isHexText (removeHexMarks given) then some given else none
  else .ok none

/-- The canonical signature of an intent function; `str` renders a value. -/
def signatureOf (str : Value → String) (knownSigs : String → Option String) (function : Value) :
    Except PyError String :=
  match function.or (.str "swap") with
  | .str name => .ok ((knownSigs name).getD (name ++ "()"))
  | .list _ | .dict _ => .error .typeError
  | other => .ok (str other ++ "()")

def hashedSelector (host : Host) (str : Value → String) (knownSigs : String → Option String)
    (function : Value) : Except PyError String := do
  let signature ← signatureOf str knownSigs function
  return hexOfBytes ((host.keccak (utf8 signature)).take 4)

def resolveSelector (host : Host) (str : Value → String) (knownSigs : String → Option String)
    (explicit function : Value) : Except PyError String := do
  match ← explicitSelector explicit with
  | some given => return given
  | none => hashedSelector host str knownSigs function

/-- `{token: int(amount)}` with the conversion errors swallowed. -/
def seedBalances (token amount : Value) : Except PyError (Option (Value × Int)) :=
  if token.truthy && amount.truthy then
    match amount.toInt with
    | .error .overflowError => .error .overflowError
    | .error _ => .ok none
    | .ok n => .ok (if token.hashable then some (token, n) else none)
  else .ok none

def bridgeCallSelectors : List String := ["81b4e8b4"]

def mockBridgeTarget : String := "0x" ++ String.ofList (List.replicate 40 'B')

def callSelector (callData : String) : String :=
  let raw := if startsWith callData "0x" then callData.toList.drop 2 else callData.toList
  if 8 ≤ raw.length then String.ofList (raw.take 8) else ""

/-- One step of `mock_bridge_interactions`. -/
def mockBridgeInteraction (host : Host) (tokenAddress : Value) (amount : Int) (ix : Interaction) :
    Except PyError Interaction := do
  let callData ← (ix.callData.or (.str "")).asStr
  if callSelector callData ∈ bridgeCallSelectors then
    match host.abiEncode [.address mockBridgeTarget, .uint256 amount] with
    | none => .error (.other "EncodingError")
    | some encoded => return {
        target := tokenAddress.or ix.target
        value := .str "0"
        callData := .str ("0x" ++ "a9059cbb" ++ hexOfBytes encoded)
        chainId := ix.chainId }
  else return ix

def mockBridgeInteractions (host : Host) (interactions : List Interaction) (tokenAddress : Value)
    (amount : Int) : Except PyError (List Interaction) :=
  interactions.mapM (mockBridgeInteraction host tokenAddress amount)

/-- `build_mock_simulation`. `discounted` is `str(int(int(amount) * 0.98))`. -/
def buildMockSimulation (discounted : String → Except PyError String) (plan : ExecutionPlan)
    (params : Value) : Except PyError SimulationResult := do
  let inputToken ← params.get "input_token" (.str "")
  let outputToken ← params.get "output_token" (.str "")
  let inputAmount ← params.get "input_amount" (.str "0")
  let transfers ← if inputToken.truthy && outputToken.truthy then do
      let text ← inputAmount.asStr
      let digits := !text.toList.isEmpty && text.toList.all fun c => (digitValue c).isSome
      let output ← if digits then discounted text else pure "0"
      let zero : Value := .str ("0x" ++ String.ofList (List.replicate 40 '0'))
      let one : Value := .str ("0x" ++ String.ofList (List.replicate 40 '1'))
      pure [{ token := inputToken, fromAddr := zero, toAddr := one, amount := inputAmount },
        { token := outputToken, fromAddr := one, toAddr := zero, amount := .str output }]
    else pure []
  return {
    success := .bool true
    gasUsed := .int (21000 + plan.interactions.length * 80000)
    tokenTransfers := transfers }

/-- One call of `hash_plan_eip712`; `none` is an exception. -/
def hashCall (host : Host) (ix : Interaction) : Option (List UInt8) := do
  let text ← ix.callData.asStr.toOption
  let data ← if text = "0x" then some [] else bytesFromHex (removeHexMarks text)
  let target ← ix.target.asStr.toOption
  let value ← ix.value.toInt.toOption
  hashWords host [.address target, .uint256 value, .bytes32 (host.keccak data)]

/-- An integer argument of the ABI encoder, which takes no other type. -/
def abiInt : Value → Option Int
  | .int i => some i
  | _ => none

def metadataBytes (jsonDumps : Value → String) (metadata : Value) : Option (List UInt8) :=
  if !metadata.truthy then some []
  else match metadata with
    | .dict _ => some (utf8 (jsonDumps metadata))
    | _ => none

/-- `hash_plan`; `none` is an exception. -/
def hashPlan (host : Host) (jsonDumps : Value → String) (plan : ExecutionPlan) : Option String := do
  let calls ← plan.interactions.mapM (hashCall host)
  let metadata ← metadataBytes jsonDumps plan.metadata
  let deadline ← abiInt plan.deadline
  let nonce ← abiInt plan.nonce
  let digest ← hashWords host
    [ .bytes32 (host.keccak calls.flatten), .uint256 deadline, .uint256 nonce,
      .bytes32 (host.keccak metadata) ]
  return "0x" ++ hexOfBytes digest

structure FeeClamp where
  min : Int
  cap : Int
  deriving DecidableEq

/-- `certify_fee`; the text says which of its three conditions failed. -/
def certifyFee (clamp : FeeClamp) (locked gasUsed gasPrice : Int) : Except String Unit :=
  let gasCost := max 0 gasUsed * max 0 gasPrice
  if locked < clamp.min then .error s!"fee {locked} below on-chain min {clamp.min}"
  else if clamp.cap < locked then .error s!"fee {locked} above on-chain max {clamp.cap}"
  else if locked < gasCost then .error s!"fee {locked} does not cover measured gas cost {gasCost}"
  else .ok ()

theorem certifyFee_eq_ok {clamp locked gasUsed gasPrice} :
    certifyFee clamp locked gasUsed gasPrice = .ok () ↔
      clamp.min ≤ locked ∧ locked ≤ clamp.cap ∧ max 0 gasUsed * max 0 gasPrice ≤ locked := by
  unfold certifyFee
  split_ifs <;> simp <;> omega

end MinotaurSubnet.Shared
