import MinotaurSubnet.Blockloop.MultiLeg

/-! # The cross-chain compiler

`CrossChainCompiler.compile` of `bridge/compiler.py` turns the legs and bridge requests of a
solver into a plan for the orchestrator: a bridge leg after every solver leg but the last,
with the escrow, the rollback and the simulation mock that go with it. The adapters and
what the registry quotes are arguments.
-/

namespace MinotaurSubnet.Bridge

open Library Python Shared Blockloop

structure BridgeRequest where
  token : String
  amount : Int
  srcChainId : Int
  dstChainId : Int
  recipient : String := ""
  minOutput : Int := 0

structure ChainLeg where
  chainId : Int
  interactions : List Interaction := []
  intentSelector : String := ""
  intentParamsHex : String := ""
  metadata : List (String × Value) := []

structure CrossChainPlan where
  legs : List ChainLeg
  bridgeRequests : List BridgeRequest

structure BridgeQuote where
  protocol : String
  tokenIn : String
  tokenOut : String
  amountIn : Int
  estimatedOutput : Int
  fee : Int

/-- An entry of `escrow_params`. -/
structure EscrowParams where
  orderId : String
  legIndex : Int
  token : String
  amount : Int
  user : String
  deadline : Int

structure Adapter where
  buildBridgeInteractions : BridgeQuote → String → Except String (List Interaction)
  mockConfig : BridgeQuote → Except String Value

/-- What `best_quote` answers for one request and for the way back. -/
structure QuoteAnswers where
  quote : Except String (Option BridgeQuote)
  reverse : Except String (Option BridgeQuote)

structure Compiler where
  adapter : String → Option Adapter
  /-- `int(output * 99 / 100)`, which divides in doubles. -/
  ninetyNinePercent : Int → Except String Int
  /-- `int(time.time())`. -/
  now : Int

structure CompiledCrossChainPlan where
  multiLegPlan : MultiLegPlan := { forwardLegs := [] }
  escrowParams : List EscrowParams := []
  bridgeQuotes : List BridgeQuote := []
  simulationMocks : List (Int × Value) := []

/-- `(ix.call_data or "")` without `0x`, its first eight characters if it has them. -/
def selectorOf (ix : Interaction) : Except String String :=
  match ix.callData.or (.str "") with
  | .str text =>
    let raw := if startsWith text "0x" then slice text 2 text.length else text
    .ok (if 8 ≤ raw.length then slice raw 0 8 else "")
  | _ => .error "AttributeError"

def requestErrors (legs : List ChainLeg) (i : Nat) (br : BridgeRequest) : List String :=
  (if br.amount ≤ 0 then [s!"bridge_request[{i}]: amount must be positive"] else []) ++
  (if br.srcChainId = br.dstChainId then [s!"bridge_request[{i}]: src == dst chain"] else []) ++
  (match legs[i]? with
    | some leg =>
      if leg.chainId = br.srcChainId then []
      else [s!"bridge_request[{i}]: src_chain {br.srcChainId} "
        ++ s!"doesn't match leg[{i}].chain_id {leg.chainId}"]
    | none => []) ++
  match legs[i + 1]? with
  | some leg =>
    if leg.chainId = br.dstChainId then []
    else [s!"bridge_request[{i}]: dst_chain {br.dstChainId} "
      ++ s!"doesn't match leg[{i + 1}].chain_id {leg.chainId}"]
  | none => []

def selectorErrors (i : Nat) (leg : ChainLeg) : Except String (List String) := do
  let selectors ← leg.interactions.mapM selectorOf
  return (selectors.filter (· ∈ bridgeCallSelectors)).map fun selector =>
    s!"leg[{i}] contains bridge selector {selector} — solvers must not include bridge calldata"

/-- `_validate`; an empty list is a valid plan. -/
def validate (plan : CrossChainPlan) : Except String (List String) :=
  if plan.legs.isEmpty then .ok ["No legs in plan"]
  else do
    let requests := plan.bridgeRequests.length
    let legs : Int := plan.legs.length
    let count := if (requests : Int) = legs - 1 then []
      else [s!"bridge_requests count ({requests}) must be len(legs)-1 ({legs - 1})"]
    let mismatches := plan.bridgeRequests.zipIdx.flatMap fun (br, i) => requestErrors plan.legs i br
    let selectors ← plan.legs.zipIdx.mapM fun (leg, i) => selectorErrors i leg
    return count ++ mismatches ++ selectors.flatten

section

variable (compiler : Compiler) (orderId userAddress : String) (deadline : Int)

def solverLeg (legIndex : Int) (leg : ChainLeg) : LegPlan where
  legIndex := legIndex
  chainId := leg.chainId
  intentSelector := leg.intentSelector
  intentParamsHex := leg.intentParamsHex
  interactions := leg.interactions
  dependsOn := if 0 < legIndex then [legIndex - 1] else []
  metadata := setKey "_platform_compiled" (.bool true)
    (setKey "type" (.str "solver_leg") leg.metadata)

def bridgeLeg (legIndex : Int) (br : BridgeRequest) (quote : BridgeQuote)
    (interactions : List Interaction) : LegPlan where
  legIndex := legIndex
  chainId := br.srcChainId
  interactions := interactions
  dependsOn := [legIndex - 1]
  metadata := [
    ("type", .str "bridge"),
    ("bridge_protocol", .str quote.protocol),
    ("bridge_token_in", .str quote.tokenIn),
    ("bridge_token_out", .str quote.tokenOut),
    ("bridge_amount", .int quote.amountIn),
    ("bridge_estimated_output", .int quote.estimatedOutput),
    ("bridge_fee", .int quote.fee),
    ("bridge_recipient", .str userAddress),
    ("_platform_compiled", .bool true)]

def rollbackBridge (position : Nat) (legIndex : Int) (br : BridgeRequest) (quote : BridgeQuote)
    (interactions : List Interaction) : LegPlan where
  legIndex := 100 + position
  chainId := br.dstChainId
  interactions := interactions
  rollbackFor := some legIndex
  metadata := [
    ("type", .str "rollback_bridge"),
    ("bridge_protocol", .str quote.protocol),
    ("_platform_compiled", .bool true)]

def acceptQuote (br : BridgeRequest) (answer : Except String (Option BridgeQuote)) :
    Except String BridgeQuote := do
  match ← answer with
  | none => .error (s!"No bridge route for {slice br.token 0 10}.. "
      ++ s!"from chain {br.srcChainId} to {br.dstChainId}")
  | some quote =>
    let minOut ← if br.minOutput ≠ 0 then .ok br.minOutput
      else compiler.ninetyNinePercent quote.estimatedOutput
    if quote.estimatedOutput < minOut then
      .error s!"Bridge output {quote.estimatedOutput} below min_output {minOut}"
    else return quote

def reverseBridge (adapter : Adapter) (answer : Except String (Option BridgeQuote)) :
    Option (List Interaction) :=
  match answer with
  | .ok (some quote) => (adapter.buildBridgeInteractions quote userAddress).toOption
  | _ => none

def compileBridge (answers : QuoteAnswers) (legIndex : Int) (br : BridgeRequest)
    (compiled : CompiledCrossChainPlan) : Except String CompiledCrossChainPlan := do
  let quote ← acceptQuote compiler br answers.quote
  match compiler.adapter quote.protocol with
  | none => .error s!"Bridge adapter '{quote.protocol}' not found"
  | some adapter =>
    let interactions ← adapter.buildBridgeInteractions quote userAddress
    let mock ← adapter.mockConfig quote
    let rollback := (reverseBridge userAddress adapter answers.reverse).map
      (rollbackBridge compiled.multiLegPlan.rollbackLegs.length legIndex br quote)
    return {
      multiLegPlan := {
        forwardLegs := compiled.multiLegPlan.forwardLegs ++
          [bridgeLeg userAddress legIndex br quote interactions]
        rollbackLegs := compiled.multiLegPlan.rollbackLegs ++ rollback.toList }
      escrowParams := compiled.escrowParams ++ [{
        orderId
        legIndex := legIndex + 1
        token := quote.tokenOut
        amount := quote.estimatedOutput
        user := userAddress
        deadline := if 0 < deadline then deadline else compiler.now + 7200 }]
      bridgeQuotes := compiled.bridgeQuotes ++ [quote]
      simulationMocks := compiled.simulationMocks ++ [(legIndex, mock)] }

def addSolverLeg (legIndex : Int) (leg : ChainLeg) (compiled : CompiledCrossChainPlan) :
    CompiledCrossChainPlan :=
  { compiled with
    multiLegPlan.forwardLegs := compiled.multiLegPlan.forwardLegs ++ [solverLeg legIndex leg] }

/-- The loop over the legs; `i` counts the requests. -/
def compileLegs (answers : Nat → QuoteAnswers) (i : Nat) (legIndex : Int) :
    List ChainLeg → List BridgeRequest → CompiledCrossChainPlan → Except String CompiledCrossChainPlan
  | [], _, compiled => return compiled
  | leg :: rest, requests, compiled => do
      let extended := addSolverLeg legIndex leg compiled
      match requests with
      | [] => compileLegs answers i (legIndex + 1) rest [] extended
      | br :: more => do
          let bridged ← compileBridge compiler orderId userAddress deadline (answers i) (legIndex + 1)
            br extended
          compileLegs answers (i + 1) (legIndex + 2) rest more bridged

def compile (answers : Nat → QuoteAnswers) (plan : CrossChainPlan) :
    Except String CompiledCrossChainPlan := do
  let errors ← validate plan
  if errors.isEmpty then
    compileLegs compiler orderId userAddress deadline answers 0 0 plan.legs plan.bridgeRequests {}
  else .error ("Invalid CrossChainPlan: " ++ String.intercalate "; " errors)

end

/-- Solver legs and bridge legs alternate, numbered from `i`. -/
inductive CompiledLegs (userAddress : String) :
    Int → List ChainLeg → List BridgeQuote → List LegPlan → Prop where
  | last {i : Int} {leg : ChainLeg} : CompiledLegs userAddress i [leg] [] [solverLeg i leg]
  | bridged {i : Int} {leg : ChainLeg} {br : BridgeRequest} {quote : BridgeQuote}
      {interactions : List Interaction} {rest : List ChainLeg} {quotes : List BridgeQuote}
      {legs : List LegPlan} (more : CompiledLegs userAddress (i + 2) rest quotes legs) :
      CompiledLegs userAddress i (leg :: rest) (quote :: quotes)
        (solverLeg i leg :: bridgeLeg userAddress (i + 1) br quote interactions :: legs)

section

variable {compiler : Compiler} {orderId userAddress : String} {deadline : Int}

theorem validate_lengths {plan} (valid : validate plan = .ok []) :
    plan.bridgeRequests.length + 1 = plan.legs.length := by
  unfold validate at valid
  split at valid
  · cases valid
  · obtain ⟨selectors, -, errors⟩ := bind_eq_ok.mp valid
    simp only [pure, Except.pure, Except.ok.injEq, List.append_eq_nil_iff] at errors
    obtain ⟨⟨count, -⟩, -⟩ := errors
    split at count
    · next same => omega
    · cases count

theorem compileBridge_adds {answers : QuoteAnswers} {legIndex : Int} {br : BridgeRequest}
    {compiled bridged : CompiledCrossChainPlan}
    (ok : compileBridge compiler orderId userAddress deadline answers legIndex br compiled =
      .ok bridged) :
    ∃ quote interactions, bridged.bridgeQuotes = compiled.bridgeQuotes ++ [quote] ∧
      bridged.multiLegPlan.forwardLegs = compiled.multiLegPlan.forwardLegs ++
        [bridgeLeg userAddress legIndex br quote interactions] := by
  unfold compileBridge at ok
  obtain ⟨quote, -, ok⟩ := bind_eq_ok.mp ok
  split at ok
  · cases ok
  · obtain ⟨interactions, -, ok⟩ := bind_eq_ok.mp ok
    obtain ⟨_, ok⟩ := bind_ok ok
    cases ok
    exact ⟨quote, interactions, rfl, rfl⟩

theorem compileLegs_adds {answers : Nat → QuoteAnswers} (legs : List ChainLeg) {i : Nat}
    {legIndex : Int} {requests : List BridgeRequest} {compiled result : CompiledCrossChainPlan}
    (lengths : requests.length + 1 = legs.length)
    (ok : compileLegs compiler orderId userAddress deadline answers i legIndex legs requests compiled =
      .ok result) :
    ∃ quotes added, CompiledLegs userAddress legIndex legs quotes added ∧
      result.bridgeQuotes = compiled.bridgeQuotes ++ quotes ∧
      result.multiLegPlan.forwardLegs = compiled.multiLegPlan.forwardLegs ++ added := by
  induction legs generalizing i legIndex requests compiled with
  | nil => simp at lengths
  | cons leg rest ih =>
    unfold compileLegs at ok
    cases requests with
    | nil =>
      obtain rfl : rest = [] := by simpa using lengths
      cases ok
      exact ⟨[], [solverLeg legIndex leg], .last, by simp [addSolverLeg], rfl⟩
    | cons br more =>
      obtain ⟨bridged, bridges, ok⟩ := bind_eq_ok.mp ok
      obtain ⟨quote, interactions, quoted, extended⟩ := compileBridge_adds bridges
      obtain ⟨quotes, added, compiles, quotes_eq, legs_eq⟩ := ih (by simpa using lengths) ok
      refine ⟨quote :: quotes, solverLeg legIndex leg ::
        bridgeLeg userAddress (legIndex + 1) br quote interactions :: added, .bridged compiles,
        ?_, ?_⟩
      · rw [quotes_eq, quoted]
        simp [addSolverLeg]
      · rw [legs_eq, extended]
        simp [addSolverLeg]

theorem compile_legs {answers : Nat → QuoteAnswers} {plan compiled}
    (ok : compile compiler orderId userAddress deadline answers plan = .ok compiled) :
    CompiledLegs userAddress 0 plan.legs compiled.bridgeQuotes compiled.multiLegPlan.forwardLegs := by
  unfold compile at ok
  obtain ⟨errors, valid, ok⟩ := bind_eq_ok.mp ok
  split at ok
  · next empty =>
      obtain rfl := List.isEmpty_iff.mp empty
      obtain ⟨quotes, added, compiles, quotes_eq, legs_eq⟩ :=
        compileLegs_adds plan.legs (validate_lengths valid) ok
      rw [quotes_eq, legs_eq]
      exact compiles
  · cases ok

end

end MinotaurSubnet.Bridge
