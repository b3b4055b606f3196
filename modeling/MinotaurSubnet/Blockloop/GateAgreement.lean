import MinotaurSubnet.Blockloop.SimulationRequests
import MinotaurSubnet.Validator.Evaluation

/-! # Leader and follower on the same order

The gates were written twice as well. Here both sides run in one network: the same app
store, simulator, scoring engine, gas price and environment. The fee and on-chain gates
of the leader imply the follower's; what else the follower needs is `Ready`.
-/

namespace MinotaurSubnet.Blockloop

open Library Python Consensus Shared Validator

section

variable (host : Host) (net : Network) (leader : Leader) (follower : Follower)

/-- The leader reaches the shared simulator with its request: dealing did not raise, and
    the plan is not simulated across chains. -/
def LeaderAsks (order : Order) (proposed : Proposed) : Prop :=
  ∃ balances crossChain, leaderBalances leader order = .ok balances
    ∧ proposed.plan.metadata.get "cross_chain" (.bool false) = .ok crossChain
    ∧ dealTokens leader order balances proposed.request.contractAddress = .ok ()
    ∧ (crossChain.truthy = true → leader.simulateCrossChain = none)

def FollowerAsks (payload : Value) (request : SimulationRequest) : Prop :=
  ∃ p loaded deployment plan, parseProposal payload = .ok p
    ∧ loadedFor (net.outside follower) p = .ok loaded ∧ isLoaded loaded p = true
    ∧ (net.outside follower).scoringDeployment p.appId p.chainId = .ok deployment
    ∧ parsePlan p = .ok plan
    ∧ followerRequest host (net.outside follower) p plan deployment = .ok request

def Agrees (order : Order) (payload : Value) (proposed : Proposed) : Prop :=
  (∃ v, verifyAndScoreProposalInner host (net.outside follower) payload follower.scoreThreshold = .ok v)
    ∧ LeaderAsks leader order proposed ∧ FollowerAsks host net follower payload proposed.request

structure Ready (order : Order) (proposed : Proposed) (p : Proposal) : Prop where
  loaded : order.appId ≠ "" ∧ order.appId ∈ follower.loaded
  registered : ∀ contract,
    (net.deployment (.str order.appId) (sentChain order)).bind contractOf = some contract →
      follower.isRegisteredApp contract (sentChain order) = .ok true
  /-- The leader falls back to a mock when the simulator raises. -/
  simulated : ∃ result, net.simulate proposed.request = .ok result
  score : ∃ score, LocalScore (net.outside follower) p
      (net.deployment (.str order.appId) (sentChain order)) proposed.plan proposed.simulation (.float score)
    ∧ score.lt follower.scoreThreshold = false
  compiled : verifyPlatformCompiled (planDict proposed.plan) proposed.plan.metadata = .ok (.ok ())
  escrow : ∃ dest, destAfterBridge proposed.plan.metadata (.dict order.params) = .ok dest
    ∧ escrowGate (net.outside follower) p dest (deployedContract net order) = .ok ()
  /-- On chain 0 the leader measures the fee by another chain than the payload names. -/
  fee : order.chainId = 0 →
    Validator.feeGate (net.outside follower) p (some proposed.simulation) = .ok ()

variable {host net leader follower}

variable {proposed : Proposed} {order : Order} {simulation : Value}

variable {intentOrder : Option IntentOrder} {balances : Option (Value × Int)}
  {deadline cooldown : Int}

theorem asked_simulation {generated threshold fee crossChain} {result : LocalSimulation}
    (work : Processed host net leader order generated proposed threshold fee intentOrder balances crossChain)
    (asks : LeaderAsks leader order proposed)
    (returned : net.simulate proposed.request = .ok result) :
    proposed.simulation = result.result := by
  obtain ⟨balances', crossChain', seeded, flagged, dealt, single⟩ := asks
  cases work.seeded.symm.trans seeded
  cases work.flagged.symm.trans flagged
  have ran : runSimulation net leader order balances proposed.request crossChain.truthy = .ok result := by
    refine bind_eq_ok.mpr ⟨(), dealt, ?_⟩
    cases flag : crossChain.truthy with
    | false => exact returned
    | true => simpa only [single flag] using returned
  have simulated := work.simulated
  simp only [simulate, ran] at simulated
  exact (Except.ok.inj simulated).symm

theorem isLoaded_sent {loaded} :
    isLoaded loaded (sentProposal order proposed simulation deadline cooldown) = true
      ↔ order.appId ≠ "" ∧ order.appId ∈ loaded := by
  have listed : loaded.any ((Value.str order.appId).isStr ·) = true ↔ order.appId ∈ loaded := by
    simp [Value.isStr]
  have named : (Value.str order.appId).truthy = true ↔ order.appId ≠ "" := by
    simp [Value.truthy]
  rw [← listed, ← named]
  constructor
  · intro entered
    obtain ⟨both, -⟩ := (Bool.and_eq_true _ _).mp entered
    exact (Bool.and_eq_true _ _).mp both
  · rintro ⟨some, found⟩
    exact (Bool.and_eq_true _ _).mpr ⟨(Bool.and_eq_true _ _).mpr ⟨some, found⟩, rfl⟩

theorem truthy_of_named {name} (named : name ≠ "") : (Value.str name).truthy = true := by
  simp [Value.truthy, named]

theorem loadedFor_sent (named : order.appId ≠ "") :
    loadedFor (net.outside follower) (sentProposal order proposed simulation deadline cooldown) =
      .ok follower.loaded :=
  if_pos (truthy_of_named named)

theorem signingContract_sent (named : order.appId ≠ "") :
    signingContract (net.outside follower) (sentProposal order proposed simulation deadline cooldown) =
      .ok ((net.deployment (.str order.appId) (sentChain order)).bind contractOf) :=
  if_pos (truthy_of_named named)

theorem registryGate_sent (named : order.appId ≠ "") :
    registryGate (net.outside follower) (sentProposal order proposed simulation deadline cooldown) = .ok ()
      ↔ ∀ contract, (net.deployment (.str order.appId) (sentChain order)).bind contractOf = some contract →
          follower.isRegisteredApp contract (sentChain order) = .ok true := by
  have truthy : (sentProposal order proposed simulation deadline cooldown).appId.truthy = true :=
    truthy_of_named named
  simp only [registryGate, truthy, if_true]
  cases deployed : (net.deployment (.str order.appId) (sentChain order)).bind contractOf with
  | none =>
    refine iff_of_true (bind_eq_ok.mpr ⟨_, rfl, ?_⟩) (by simp)
    simp only [sentProposal, deployed]
    rfl
  | some address =>
    constructor
    · intro done contract same
      cases same
      obtain ⟨deployment, found, done⟩ := bind_eq_ok.mp done
      cases found
      simp only [sentProposal, deployed] at done
      obtain ⟨registered, asked, done⟩ := bind_eq_ok.mp done
      rw [ensure_eq_ok.mp done] at asked
      exact raises_eq_ok.mp asked
    · intro registered
      refine bind_eq_ok.mpr ⟨_, rfl, ?_⟩
      simp only [sentProposal, deployed]
      exact bind_eq_ok.mpr ⟨true, raises_eq_ok.mpr (registered address rfl), rfl⟩

/-- `int(v)` and `int(v or 0)` differ only where the first raises. -/
theorem toIntOr_of_toInt {v : Value} {n} (converted : v.toInt = .ok n) : v.toIntOr 0 = .ok n := by
  unfold Value.toIntOr
  split
  · exact converted
  · next falsy =>
    cases v with
    | none => simp [Value.toInt] at converted
    | bool b => cases b with
      | false => exact converted
      | true => simp [Value.truthy] at falsy
    | int i =>
      obtain rfl : i = 0 := by simpa [Value.truthy] using falsy
      exact converted
    | float f => cases f with
      | fin q =>
        obtain rfl : q = 0 := by simpa [Value.truthy] using falsy
        simpa [Value.toInt, PyFloat.toInt] using converted
      | nan => simp [Value.truthy] at falsy
      | negInf => simp [Value.truthy] at falsy
      | posInf => simp [Value.truthy] at falsy
    | str s =>
      obtain rfl : s = "" := by simpa [Value.truthy] using falsy
      have unread : (Value.str "").toInt = .error .valueError := by decide
      simp [unread] at converted
    | list items => simp [Value.toInt] at converted
    | dict fields => simp [Value.toInt] at converted

theorem feeGate_agrees {deadline cooldown fee} {result : LocalSimulation}
    (chain : order.chainId ≠ 0) (locked : (order.param "platform_fee_wei" (.int 0)).toInt = .ok fee)
    (paid : feeGate net order fee result.result = .ok ()) :
    Validator.feeGate (net.outside follower) (sentProposal order proposed simulation deadline cooldown)
      (some result.result) = .ok () := by
  refine feeGate_eq_ok.mpr ⟨fee, ?_, ?_⟩
  · exact bind_eq_ok.mpr ⟨order.param "platform_fee_wei" (.int 0), rfl, toIntOr_of_toInt locked⟩
  · intro positive
    refine ⟨net.gasPrice (sentChain order), rfl, ?_⟩
    simp only [feeGate, positive, if_true] at paid
    obtain ⟨gasUsed, measured, paid⟩ := bind_eq_ok.mp paid
    obtain rfl : result.gasUsed = gasUsed :=
      Except.ok.inj ((toIntOr_int _).symm.trans (raising_eq_ok.mp measured))
    have same : sentChain order = order.chainId := by simp [sentChain, chain]
    split at paid
    · next certified => simpa only [Network.outside, sentProposal, same] using certified
    · simp at paid

theorem onChainGate_agrees {deadline cooldown threshold contract result} (named : order.appId ≠ "")
    (known : net.onChainThreshold (.str order.appId) = some threshold)
    (passed : onChainGate net contract threshold result = .ok ()) :
    Validator.onChainGate (net.outside follower)
      (sentProposal order proposed simulation deadline cooldown) contract (some result) = .ok () := by
  have own : thresholdOf (net.outside follower) (sentProposal order proposed simulation deadline cooldown)
      = .ok threshold := by
    simp only [thresholdOf, sentProposal, truthy_of_named named, if_true, Network.outside, known]
    rfl
  obtain ⟨_, blessed, passed⟩ := bind_eq_ok.mp passed
  refine bind_eq_ok.mpr ⟨threshold, raises_eq_ok.mpr own, ?_⟩
  refine bind_eq_ok.mpr ⟨(), ensure_eq_ok.mpr (ensure_eq_ok.mp blessed), ?_⟩
  cases scored : result.onChainScore.isNone with
  | true => rfl
  | false =>
    simp only [scored, Bool.false_eq_true, if_false] at passed ⊢
    obtain ⟨below, compared, passed⟩ := bind_eq_ok.mp passed
    refine bind_eq_ok.mpr ⟨below, raises_eq_ok.mpr (raising_eq_ok.mp compared), ?_⟩
    exact ensure_eq_ok.mpr (ensure_eq_ok.mp passed)

theorem approves_of_ready {generated : ExecutionPlan} {payload simulation crossChain : Value}
    {deadline cooldown threshold fee : Int}
    (work : Processed host net leader order generated proposed threshold fee intentOrder balances crossChain)
    (parsed : parseProposal payload = .ok (sentProposal order proposed simulation deadline cooldown))
    (contract : (net.deployment (.str order.appId) (sentChain order)).bind contractOf =
      deployedContract net order)
    (asks : LeaderAsks leader order proposed)
    (request : followerRequest host (net.outside follower)
      (sentProposal order proposed simulation deadline cooldown) proposed.plan
      (net.deployment (.str order.appId) (sentChain order)) = .ok proposed.request)
    (ready : Ready net follower order proposed
      (sentProposal order proposed simulation deadline cooldown)) :
    ∃ v, verifyAndScoreProposalInner host (net.outside follower) payload follower.scoreThreshold = .ok v := by
  obtain ⟨result, returned⟩ := ready.simulated
  have simulated := asked_simulation work asks returned
  obtain ⟨score, leaves, enough⟩ := ready.score
  obtain ⟨dest, found, escrow⟩ := ready.escrow
  have named := ready.loaded.1
  have rescored : rescore host (net.outside follower) follower.loaded
      (sentProposal order proposed simulation deadline cooldown) =
        .ok ⟨some proposed.plan, some proposed.simulation, .float score⟩ :=
    (rescore_simulated rfl (isLoaded_sent.mpr ready.loaded) rfl (sent_plan ..)
      (simulatePlan_eq_some.mpr ⟨net.simulate, proposed.request, result, rfl, request, returned,
        simulated⟩)).mpr ⟨.float score, leaves, rfl⟩
  refine ⟨⟨score, some proposed.plan, some proposed.simulation, deployedContract net order,
    .str order.orderId, .str proposed.planHash, sentChain order, .str order.appId⟩, ?_⟩
  refine inner_eq_ok.mpr ⟨_, follower.loaded, _, parsed, (registryGate_sent named).mpr ready.registered,
    loadedFor_sent named, rescored, ?_⟩
  exact {
    compiled := ⟨proposed.plan.metadata, dest, rfl, ready.compiled, found, escrow⟩
    contract := (signingContract_sent named).trans (congrArg Except.ok contract)
    fee := by
      by_cases chain : order.chainId = 0
      · exact ready.fee chain
      · have paid := work.paid
        rw [simulated] at paid
        simp only [simulated]
        exact feeGate_agrees chain work.locked paid
    onChain := onChainGate_agrees named work.app work.passed
    score := scoreGate_eq_ok.mpr ⟨rfl, enough⟩
    plan := rfl
    simulation := rfl
    orderId := rfl
    planHash := rfl
    chainId := rfl
    appId := rfl }

theorem ready_of_approves {generated : ExecutionPlan} {payload simulation crossChain : Value}
    {deadline cooldown threshold fee : Int}
    {v : Approval}
    (work : Processed host net leader order generated proposed threshold fee intentOrder balances crossChain)
    (parsed : parseProposal payload = .ok (sentProposal order proposed simulation deadline cooldown))
    (contract : (net.deployment (.str order.appId) (sentChain order)).bind contractOf =
      deployedContract net order)
    (asks : LeaderAsks leader order proposed)
    (loaded : order.appId ≠ "" ∧ order.appId ∈ follower.loaded)
    (request : followerRequest host (net.outside follower)
      (sentProposal order proposed simulation deadline cooldown) proposed.plan
      (net.deployment (.str order.appId) (sentChain order)) = .ok proposed.request)
    (approved : verifyAndScoreProposalInner host (net.outside follower) payload follower.scoreThreshold
      = .ok v) :
    Ready net follower order proposed (sentProposal order proposed simulation deadline cooldown) := by
  obtain ⟨p, listing, r, parsed', registered, listed, rescored, passed⟩ := inner_eq_ok.mp approved
  cases parsed.symm.trans parsed'
  cases (loadedFor_sent loaded.1).symm.trans listed
  have entered : isLoaded follower.loaded (sentProposal order proposed simulation deadline cooldown) = true :=
    isLoaded_sent.mpr loaded
  have built := sent_plan order proposed simulation deadline cooldown
  obtain ⟨_, ran⟩ := simulated_of_rescored rfl entered rfl built rescored
  obtain ⟨simulator, request', result, isNet, request', returned, rfl⟩ := simulatePlan_eq_some.mp ran
  cases isNet
  cases request.symm.trans request'
  have simulated := asked_simulation work asks returned
  rw [← simulated] at ran
  obtain ⟨score, leaves, rfl⟩ := (rescore_simulated rfl entered rfl built ran).mp rescored
  obtain ⟨isNumber, enough⟩ := scoreGate_eq_ok.mp passed.score
  have isFloat : score = .float v.localScore := by
    cases leaves with
    | own scored => rw [Option.some.inj isNumber]
    | leaders failed caught => exact congrArg Value.float (Option.some.inj isNumber)
  obtain ⟨metadata, dest, read, checked, found, escrow⟩ := passed.compiled
  obtain rfl : proposed.plan.metadata = metadata := Except.ok.inj read
  have signs : deployedContract net order = v.contractAddress :=
    contract.symm.trans (Except.ok.inj ((signingContract_sent loaded.1).symm.trans passed.contract))
  exact {
    loaded := loaded
    registered := (registryGate_sent loaded.1).mp registered
    simulated := ⟨result, returned⟩
    score := ⟨v.localScore, by rwa [← isFloat], enough⟩
    compiled := checked
    escrow := ⟨dest, found, by rw [signs]; exact escrow⟩
    fee := fun _ => passed.fee }

/-- A follower agrees with a leader that proposed exactly when it builds the leader's
    request from the payload, the leader asked the simulator, and the follower is ready. -/
theorem gates_agree_iff (separates : SeparatesRebalance host) {order : Order}
    {generated : ExecutionPlan} {proposed : Proposed} {clock : PyFloat} {signature : Option String}
    {payload : Value} (done : process host net leader order generated = .ok proposed)
    (built : buildProposalPayload net leader order proposed clock signature = .ok payload) :
    Agrees host net leader follower order payload proposed ↔
      SameRequest host net leader order proposed.plan ∧ LeaderAsks leader order proposed
        ∧ ∃ p, parseProposal payload = .ok p ∧ Ready net follower order proposed p := by
  obtain ⟨threshold, fee, intentOrder, balances, crossChain, work⟩ := process_spec done
  obtain ⟨simulation, deadline, cooldown, asDeadline, asCooldown, parsed⟩ := payload_parses built
  constructor
  · rintro ⟨⟨v, approved⟩, asks, p, listing, deployment, plan, parsed', listed, entered, deployed, read, asked⟩
    cases parsed.symm.trans parsed'
    cases (sent_plan ..).symm.trans read
    cases deployed
    have same := (request_agrees_iff separates asDeadline asCooldown work).mp asked
    have loaded := isLoaded_sent.mp entered
    cases (loadedFor_sent loaded.1).symm.trans listed
    exact ⟨same, asks, _, parsed,
      ready_of_approves work parsed same.contract asks loaded asked approved⟩
  · rintro ⟨same, asks, p, parsed', ready⟩
    cases parsed.symm.trans parsed'
    have asked : followerRequest host (net.outside follower)
        (sentProposal order proposed simulation deadline cooldown) proposed.plan
        (net.deployment (.str order.appId) (sentChain order)) = .ok proposed.request :=
      (request_agrees_iff separates asDeadline asCooldown work).mpr same
    exact ⟨approves_of_ready work parsed same.contract asks asked ready, asks, _, follower.loaded,
      net.deployment (.str order.appId) (sentChain order), proposed.plan, parsed,
      loadedFor_sent ready.loaded.1, isLoaded_sent.mpr ready.loaded, rfl, sent_plan .., asked⟩

/-- Keccak as it is on the signatures of `swap` and `rebalance`. -/
def selectorHost : Host :=
  { spellingHost with
    keccak := fun bytes =>
      if bytes = utf8 "swap(address,address,uint256,uint256,address)" then
        (bytesFromHex "d5bcb9b5425feb06765a790e915c59c45dcf8cebfb9a24251d55cfc38f92f048").getD []
      else if bytes = utf8 "rebalance(address[],uint256[],address)" then
        (bytesFromHex "5469c912793afa6b2be796661cecacd9e4fb1d99f3d768bab1eba1719e66aa0a").getD []
      else if bytes = utf8 "rebalance()" then
        (bytesFromHex "7d7c2a1c61d08afd6594adfb84b1c3ca28ee93c36e4029bf07f819b2a8bd9e73").getD []
      else bytes }

def twoFunctionNetwork : Network where
  deployment := fun _ _ => some "0xc0"
  onChainThreshold := fun _ => some 5000
  simulate := fun request => .ok {
    success := true
    gasUsed := 21000
    onChainScore := request.intentOrder.bind fun order =>
      if order.intentSelector ∈ ["d5bcb9b5", "5469c912"] then some 9000 else none }
  jsScore := fun _ _ _ _ => .ok (.fin 1)
  gasPrice := fun _ => 1
  feeClamp := fun _ => ⟨0, 1000000⟩
  str := fun _ => "app"
  discounted := fun amount => .ok amount

def smallLeader : Leader where
  validatorId := "0x0a"
  scorePlan := fun _ _ => .ok (.fin 1)
  jsonDumps := fun _ => ""

def loadedFollower : Follower where
  isRegisteredApp := fun _ _ => .ok true
  loaded := ["app"]
  verifyEscrow := fun _ _ _ _ => .ok (.ok ())
  fixed := fun _ => "1.0000"
  scoreThreshold := .fin (1 / 2)

def orderCalling (function : String) : Order where
  orderId := "o"
  appId := "app"
  intentFunction := function
  params := [("platform_fee_wei", .int 30000), ("user_nonce", .int 7)]
  submittedBy := "0x0d"

def planWithoutCalls : ExecutionPlan where
  intentId := .str "app"
  interactions := []
  deadline := .int 0
  nonce := .int 0
  metadata := .dict []

def fateOf (order : Order) : Option Bool := do
  let proposed ← (process selectorHost twoFunctionNetwork smallLeader order planWithoutCalls).toOption
  let payload ← (buildProposalPayload twoFunctionNetwork smallLeader order proposed (.fin 0) none).toOption
  return (verifyAndScoreProposalInner selectorHost (twoFunctionNetwork.outside loadedFollower) payload
    loadedFollower.scoreThreshold).isOk

/-- An order for the app's `rebalance`: the contract scored it for the leader, and does not
    know the selector the follower asks it with. -/
theorem rebalance_order_refused :
    ¬ ∀ (host : Host) (net : Network) (leader : Leader) (follower : Follower) (order : Order)
      (generated : ExecutionPlan) (proposed : Proposed) (clock : PyFloat) (signature : Option String)
      (payload : Value), process host net leader order generated = .ok proposed →
      buildProposalPayload net leader order proposed clock signature = .ok payload →
      Agrees host net leader follower order payload proposed := by
  intro always
  have refused : fateOf (orderCalling "rebalance") = some false := by decide +kernel
  obtain ⟨proposed, done, refused⟩ := Option.bind_eq_some_iff.mp refused
  obtain ⟨payload, built, refused⟩ := Option.bind_eq_some_iff.mp refused
  obtain ⟨⟨v, approved⟩, -⟩ := always selectorHost twoFunctionNetwork smallLeader loadedFollower
    (orderCalling "rebalance") planWithoutCalls proposed (.fin 0) none payload
    (toOption_eq_some.mp done) (toOption_eq_some.mp built)
  rw [approved] at refused
  exact Bool.noConfusion (Option.some.inj refused)

/-- An order for its `swap`. -/
theorem gates_agree_swap :
    ∃ proposed payload,
      process selectorHost twoFunctionNetwork smallLeader (orderCalling "swap") planWithoutCalls
          = .ok proposed
        ∧ buildProposalPayload twoFunctionNetwork smallLeader (orderCalling "swap") proposed (.fin 0) none
          = .ok payload
        ∧ Agrees selectorHost twoFunctionNetwork smallLeader loadedFollower (orderCalling "swap") payload
          proposed := by
  obtain ⟨proposed, done⟩ := isOk_iff.mp (by decide +kernel : (process selectorHost twoFunctionNetwork
    smallLeader (orderCalling "swap") planWithoutCalls).isOk = true)
  have separates : SeparatesRebalance selectorHost := by
    unfold SeparatesRebalance
    decide +kernel
  obtain ⟨payload, built⟩ : ∃ payload, buildProposalPayload twoFunctionNetwork smallLeader
    (orderCalling "swap") proposed (.fin 0) none = .ok payload := ⟨_, rfl⟩
  obtain ⟨threshold, fee, intentOrder, balances, crossChain, work⟩ := process_spec done
  obtain rfl : 30000 = fee := Except.ok.inj work.locked
  have metadata : proposed.plan.metadata = .dict [("platform_fee_wei", .int 30000)] := by
    rw [work.planned]
    rfl
  have calls : proposed.plan.interactions = [] := by
    rw [work.planned]
    rfl
  refine ⟨proposed, payload, done, built, (gates_agree_iff separates done built).mpr ⟨?_, ?_, ?_⟩⟩
  · have chosen : leaderExplicit (orderCalling "swap") proposed.plan.metadata = .ok .none := by
      rw [metadata]
      rfl
    exact {
      contract := rfl
      deployed := fun _ => {
        chain := by decide
        executions := by decide
        selector := .hashed chosen rfl (by decide)
        nonce := ⟨7, rfl⟩
        native := rfl
        encoded := rfl }
      tokens := ⟨none, rfl, rfl⟩
      plan := .unbridged rfl (by simp [calls]) }
  · exact ⟨none, .bool false, rfl, by rw [metadata]; rfl, rfl, by simp [Value.truthy]⟩
  · obtain ⟨simulation, deadline, cooldown, -, -, parsed⟩ := payload_parses built
    refine ⟨_, parsed, ?_⟩
    exact {
      loaded := by decide
      registered := fun _ _ => rfl
      simulated := ⟨_, rfl⟩
      score := ⟨.fin 1, .own (ownScore_eq_ok.mpr ⟨_, rfl, rfl, rfl⟩), by decide +kernel⟩
      compiled := by rw [metadata]; rfl
      escrow := ⟨none, by rw [metadata]; rfl, rfl⟩
      fee := fun zero => absurd zero (by decide) }

end

end MinotaurSubnet.Blockloop
