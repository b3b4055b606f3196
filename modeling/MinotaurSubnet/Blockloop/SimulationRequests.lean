import MinotaurSubnet.Blockloop.OrderProcessor
import MinotaurSubnet.Validator.ScoringEngine

/-! # The simulation requests of leader and follower

The order that goes to the simulator was written twice, in `process` and in
`_simulate_plan`, with different fallbacks. The request a follower makes from the
leader's payload is the leader's on the orders of `SameRequest`, and on no others.
-/

namespace MinotaurSubnet.Blockloop

open Library Python Consensus Shared Validator

structure Follower where
  isRegisteredApp : String → Int → Except PyError Bool
  loaded : List String
  verifyEscrow : String → Int → Value → Int → Except PyError (Except String Unit)
  fixed : PyFloat → String
  scoreThreshold : PyFloat

def Network.outside (net : Network) (follower : Follower) : Outside where
  failClosed := net.failClosed
  registryDeployment := fun app chain => .ok (net.deployment app chain)
  isRegisteredApp := follower.isRegisteredApp
  loadedIntents := .ok follower.loaded
  scoringDeployment := fun app chain => .ok (net.deployment app chain)
  simulate := some net.simulate
  jsScore := net.jsScore
  signingDeployment := fun app chain => .ok (net.deployment app chain)
  verifyEscrow := follower.verifyEscrow
  gasPrice := fun chain => .ok (net.gasPrice chain)
  feeClamp := net.feeClamp
  onChainThreshold := fun app => .ok (net.onChainThreshold app)
  str := net.str
  fixed := follower.fixed
  discounted := net.discounted

section

variable {host : Host} {net : Network} {leader : Leader} {follower : Follower}

def sentChain (order : Order) : Int := if order.chainId = 0 then 1 else order.chainId

def sentFunction (order : Order) : String :=
  if order.intentFunction = "" then "execute" else order.intentFunction

def sentProposal (order : Order) (proposed : Proposed) (simulation : Value) (deadline cooldown : Int) :
    Proposal where
  orderId := .str order.orderId
  planHash := .str proposed.planHash
  score := .float proposed.score
  appId := .str order.appId
  intentFunction := .str (sentFunction order)
  chainId := sentChain order
  params := .dict order.params
  submittedBy := .str order.submittedBy
  deadline := deadline
  perpetual := order.perpetual
  maxExecutions := if order.maxExecutions = 0 then 1 else order.maxExecutions
  cooldown := cooldown
  planData := planDict proposed.plan
  simulation := simulation

theorem toIntOr_int (n : Int) : (Value.int n).toIntOr 0 = .ok n := by
  by_cases zero : n = 0
  · simp [Value.toIntOr, Value.truthy, zero]
  · simp [Value.toIntOr, Value.truthy, Value.toInt, zero]

theorem toIntOr_or_one (n : Int) :
    (Value.int (if n = 0 then 1 else n)).toIntOr 1 = .ok (if n = 0 then 1 else n) := by
  by_cases zero : n = 0
  · simp [Value.toIntOr, Value.truthy, Value.toInt, zero]
  · simp [Value.toIntOr, Value.truthy, Value.toInt, zero]

theorem or_dict_nil (fields : List (String × Value)) :
    (Value.dict fields).or (.dict []) = .dict fields := by
  cases fields <;> rfl

theorem or_str_empty (s : String) : (Value.str s).or (.str "") = .str s := by
  by_cases empty : s = ""
  · simp [empty, Value.or, Value.truthy]
  · simp [Value.or, Value.truthy, empty]

variable {order : Order} {proposed : Proposed} {str : Value → String} {deadline cooldown : Int}

theorem payload_parses {clock signature payload}
    (built : buildProposalPayload net leader order proposed clock signature = .ok payload) :
    ∃ simulation deadline cooldown, floatField order.deadline = .ok deadline
      ∧ floatField order.cooldown = .ok cooldown
      ∧ parseProposal payload = .ok (sentProposal order proposed simulation deadline cooldown) := by
  obtain ⟨deadline, asDeadline, built⟩ := bind_eq_ok.mp built
  obtain ⟨cooldown, asCooldown, built⟩ := bind_eq_ok.mp built
  obtain rfl := pure_eq_ok.mp built
  refine ⟨simulationDict net proposed.simulation, deadline, cooldown, asDeadline, asCooldown, ?_⟩
  simp only [parseProposal, bind_eq_ok, pure_eq_ok]
  refine ⟨.str order.orderId, rfl, .str proposed.planHash, rfl, .float proposed.score, rfl,
    .str order.appId, rfl, .str (sentFunction order),
    rfl, .int (sentChain order), rfl, sentChain order,
    toIntOr_or_one _, .dict order.params, rfl, .str order.submittedBy, rfl, .int deadline, rfl,
    deadline, toIntOr_int _, .bool order.perpetual, rfl,
    .int (if order.maxExecutions = 0 then 1 else order.maxExecutions), rfl, _,
    toIntOr_or_one _, .int cooldown, rfl, cooldown, toIntOr_int _, planDict proposed.plan, rfl,
    simulationDict net proposed.simulation, rfl, ?_⟩
  rw [or_dict_nil, or_str_empty]
  rfl

theorem interactions_parse (interactions : List Interaction) :
    (interactions.map interactionDict).mapM parseInteraction = .ok interactions := by
  induction interactions with
  | nil => rfl
  | cons ix rest ih =>
    rw [List.map_cons, List.mapM_cons]
    exact bind_eq_ok.mpr ⟨ix, rfl, bind_eq_ok.mpr ⟨rest, ih, rfl⟩⟩

theorem sent_plan (order : Order) (proposed : Proposed) (simulation : Value) (deadline cooldown : Int) :
    parsePlan (sentProposal order proposed simulation deadline cooldown) = .ok proposed.plan := by
  refine bind_eq_ok.mpr ⟨_, rfl, bind_eq_ok.mpr ⟨_, rfl, ?_⟩⟩
  exact bind_eq_ok.mpr ⟨proposed.plan.interactions, interactions_parse _, rfl⟩

variable (host net) in
/-- The selector is given with the order, or it is given with the plan and is the hashed
    one, or it is hashed by both and not from `rebalance`, which the follower's table
    does not have. -/
inductive SameSelector (order : Order) (metadata : Value) : Prop
  | given {text : String} (explicit : explicitSelector (order.param "intent_selector") = .ok (some text)) :
      SameSelector order metadata
  | planned {chosen : Value} {text : String} (chosenBy : leaderExplicit order metadata = .ok chosen)
      (explicit : explicitSelector chosen = .ok (some text))
      (hashed : hashedSelector host net.str followerSigs (.str (sentFunction order)) = .ok text) :
      SameSelector order metadata
  | hashed {chosen : Value} (chosenBy : leaderExplicit order metadata = .ok chosen)
      (absent : explicitSelector chosen = .ok none) (other : order.intentFunction ≠ "rebalance") :
      SameSelector order metadata

variable (host) in
/-- The hash tells the two signatures of `rebalance` apart. -/
def SeparatesRebalance : Prop :=
  hexOfBytes ((host.keccak (utf8 "rebalance(address[],uint256[],address)")).take 4) ≠
    hexOfBytes ((host.keccak (utf8 "rebalance()")).take 4)

theorem sigs_agree {name} (other : name ≠ "rebalance") : leaderSigs name = followerSigs name := by
  unfold leaderSigs followerSigs
  split
  · rfl
  · rfl
  · rfl
  · exact absurd rfl other
  · split <;> simp_all

theorem signature_agrees (other : order.intentFunction ≠ "rebalance") :
    signatureOf str followerSigs (.str (sentFunction order)) =
      signatureOf str leaderSigs (.str order.intentFunction) := by
  by_cases empty : order.intentFunction = ""
  · simp only [sentFunction, empty]
    rfl
  · have given : (Value.str order.intentFunction).or (.str "swap") = .str order.intentFunction := by
      simp [Value.or, Value.truthy, empty]
    simp [signatureOf, sentFunction, empty, given, sigs_agree other]

theorem hashedSelector_agrees_iff (separates : SeparatesRebalance host) :
    hashedSelector host str followerSigs (.str (sentFunction order)) =
        hashedSelector host str leaderSigs (.str order.intentFunction)
      ↔ order.intentFunction ≠ "rebalance" := by
  constructor
  · intro same rebalance
    simp only [sentFunction, rebalance] at same
    exact separates (Except.ok.inj same).symm
  · intro other
    simp only [hashedSelector, signature_agrees other]

variable {sigs : String → Option String} {simulation crossChain : Value}

theorem resolveSelector_of_explicit {explicit function text}
    (given : explicitSelector explicit = .ok (some text)) :
    resolveSelector host str sigs explicit function = .ok text := by
  simp only [resolveSelector, given, bind, Except.bind, pure, Except.pure]

theorem resolveSelector_of_absent {explicit function}
    (absent : explicitSelector explicit = .ok none) :
    resolveSelector host str sigs explicit function = hashedSelector host str sigs function := by
  simp only [resolveSelector, absent, bind, Except.bind]

theorem explicitSelector_of_resolved {explicit function selector}
    (resolved : resolveSelector host str sigs explicit function = .ok selector) :
    explicitSelector explicit = .ok (some selector)
      ∨ explicitSelector explicit = .ok none ∧ hashedSelector host str sigs function = .ok selector := by
  obtain ⟨found, looked, resolved⟩ := bind_eq_ok.mp resolved
  cases found with
  | some text => exact .inl (looked.trans (by rw [pure_eq_ok.mp resolved]))
  | none => exact .inr ⟨looked, resolved⟩

theorem explicitSelector_of_chosen {metadata chosen found}
    (chosenBy : leaderExplicit order metadata = .ok chosen)
    (looked : explicitSelector chosen = .ok found) :
    explicitSelector (order.param "intent_selector") = .ok none
      ∨ explicitSelector (order.param "intent_selector") = .ok found := by
  unfold leaderExplicit at chosenBy
  split at chosenBy
  · rw [Except.ok.inj chosenBy]
    exact .inr looked
  · next absent =>
    left
    simp [explicitSelector, absent]

theorem selector_agrees_iff (separates : SeparatesRebalance host) {metadata chosen : Value}
    {selector : String}
    (chosenBy : leaderExplicit order metadata = .ok chosen)
    (resolved : resolveSelector host net.str leaderSigs chosen (.str order.intentFunction) = .ok selector) :
    resolveSelector host net.str followerSigs (order.param "intent_selector")
        (.str (sentFunction order)) = .ok selector
      ↔ SameSelector host net order metadata := by
  have sameChoice : ∀ other, leaderExplicit order metadata = .ok other → other = chosen :=
    fun _ also => Except.ok.inj (also.symm.trans chosenBy)
  constructor
  · intro follows
    rcases explicitSelector_of_resolved follows with given | ⟨-, hashed⟩
    · exact .given given
    rcases explicitSelector_of_resolved resolved with explicit | ⟨absent, leads⟩
    · exact .planned chosenBy explicit hashed
    · exact .hashed chosenBy absent
        ((hashedSelector_agrees_iff separates).mp (hashed.trans leads.symm))
  · intro same
    cases same with
    | given explicit =>
      rw [resolveSelector_of_explicit explicit]
      rcases explicitSelector_of_resolved resolved with looked | ⟨looked, -⟩
      · rcases explicitSelector_of_chosen chosenBy looked with absent | present
        · simp [absent] at explicit
        · simpa [present, eq_comm] using explicit
      · rcases explicitSelector_of_chosen chosenBy looked with absent | absent
        · simp [absent] at explicit
        · simp [absent] at explicit
    | planned also explicit hashed =>
      obtain rfl := sameChoice _ also
      rw [resolveSelector_of_explicit explicit] at resolved
      cases resolved
      rcases explicitSelector_of_chosen chosenBy explicit with absent | present
      · rw [resolveSelector_of_absent absent, hashed]
      · rw [resolveSelector_of_explicit present]
    | hashed also absent other =>
      obtain rfl := sameChoice _ also
      rw [resolveSelector_of_absent absent] at resolved
      rcases explicitSelector_of_chosen chosenBy absent with none | none
      · rw [resolveSelector_of_absent none, (hashedSelector_agrees_iff separates).mpr other, resolved]
      · rw [resolveSelector_of_absent none, (hashedSelector_agrees_iff separates).mpr other, resolved]

variable (host net) in
/-- The orders of a deployed app that both sides hand to the simulator alike. -/
structure SameOrder (order : Order) (metadata : Value) : Prop where
  /-- The `or 1` of the payload changes neither field. -/
  chain : order.chainId ≠ 0
  executions : order.maxExecutions ≠ 0
  selector : SameSelector host net order metadata
  /-- Only the follower converts the nonce. -/
  nonce : ∃ n, order.param "user_nonce" (.int 0) = .int n
  /-- Only the leader passes a native input on. -/
  native : (order.param "_input_token_is_native").truthy = false
  /-- Only the follower takes the length of the encoded parameters. -/
  encoded : (order.param "intent_params_hex" (.str "")).sized = true

theorem floatField_toInt {value : PyFloat} {n m : Int} (field : floatField value = .ok n)
    (converted : value.toInt = .ok m) : n = m := by
  unfold floatField at field
  split at field
  · next zero =>
    rw [zero] at converted
    rw [← Except.ok.inj field, ← Except.ok.inj converted]
    rfl
  · exact Except.ok.inj (field.symm.trans converted)

theorem or_one_eq_iff {n : Int} : (if n = 0 then 1 else n) = n ↔ n ≠ 0 := by
  split_ifs <;> omega

theorem followerOrder_eq_ok {simulation : Value} {contract : String} {intentOrder : IntentOrder} :
    followerOrder host (net.outside follower)
        (sentProposal order proposed simulation deadline cooldown) contract = .ok intentOrder
      ↔ ∃ selector n, resolveSelector host net.str followerSigs (order.param "intent_selector")
            (.str (sentFunction order)) = .ok selector
          ∧ (order.param "user_nonce" (.int 0)).toIntOr 0 = .ok n
          ∧ intentOrder = {
              orderId := .str order.orderId
              app := contract
              intentSelector := selector
              intentParams := order.param "intent_params_hex" (.str "")
              submittedBy := .str order.submittedBy
              chainId := sentChain order
              deadline
              nonce := .int n
              perpetual := order.perpetual
              maxExecutions := if order.maxExecutions = 0 then 1 else order.maxExecutions
              cooldown } := by
  constructor
  · intro made
    obtain ⟨explicit, read, made⟩ := bind_eq_ok.mp made
    obtain rfl : order.param "intent_selector" = explicit := Except.ok.inj read
    obtain ⟨selector, resolved, made⟩ := bind_eq_ok.mp made
    obtain ⟨encoded, read, made⟩ := bind_eq_ok.mp made
    obtain rfl : order.param "intent_params_hex" (.str "") = encoded := Except.ok.inj read
    obtain ⟨nonce, read, made⟩ := bind_eq_ok.mp made
    obtain rfl : order.param "user_nonce" (.int 0) = nonce := Except.ok.inj read
    obtain ⟨n, converted, made⟩ := bind_eq_ok.mp made
    exact ⟨selector, n, resolved, converted, (pure_eq_ok.mp made).symm⟩
  · rintro ⟨selector, n, resolved, converted, rfl⟩
    refine bind_eq_ok.mpr ⟨order.param "intent_selector", rfl, ?_⟩
    refine bind_eq_ok.mpr ⟨selector, resolved, ?_⟩
    refine bind_eq_ok.mpr ⟨order.param "intent_params_hex" (.str ""), rfl, ?_⟩
    refine bind_eq_ok.mpr ⟨order.param "user_nonce" (.int 0), rfl, ?_⟩
    exact bind_eq_ok.mpr ⟨n, converted, rfl⟩

theorem order_agrees_iff (separates : SeparatesRebalance host) {simulation : Value}
    {contract : String} {intentOrder : IntentOrder}
    (asDeadline : floatField order.deadline = .ok deadline)
    (asCooldown : floatField order.cooldown = .ok cooldown)
    (made : leaderOrder host net order proposed.plan.metadata contract = .ok intentOrder) :
    followerOrder host (net.outside follower)
          (sentProposal order proposed simulation deadline cooldown) contract = .ok intentOrder
        ∧ intentOrder.intentParams.sized = true
      ↔ SameOrder host net order proposed.plan.metadata := by
  obtain ⟨chosen, chosenBy, made⟩ := bind_eq_ok.mp made
  obtain ⟨selector, resolved, made⟩ := bind_eq_ok.mp made
  obtain ⟨deadline', fromDeadline, made⟩ := bind_eq_ok.mp made
  obtain ⟨cooldown', fromCooldown, made⟩ := bind_eq_ok.mp made
  obtain rfl := floatField_toInt asDeadline fromDeadline
  obtain rfl := floatField_toInt asCooldown fromCooldown
  obtain rfl := pure_eq_ok.mp made
  have selectors := selector_agrees_iff separates chosenBy resolved
  rw [followerOrder_eq_ok]
  constructor
  · rintro ⟨⟨own, n, follows, -, same⟩, encoded⟩
    simp only [IntentOrder.mk.injEq, ite_eq_right_iff, reduceCtorEq, imp_false] at same
    obtain ⟨-, -, rfl, -, -, chain, -, nonce, -, executions, -, native⟩ := same
    exact {
      chain := or_one_eq_iff.mp chain.symm
      executions := or_one_eq_iff.mp executions.symm
      selector := selectors.mp follows
      nonce := ⟨n, nonce⟩
      native := by simpa using native
      encoded := encoded }
  · intro same
    obtain ⟨n, nonce⟩ := same.nonce
    refine ⟨⟨selector, n, selectors.mpr same.selector, ?_, ?_⟩, same.encoded⟩
    · rw [nonce, toIntOr_int]
    · simp [same.native, nonce, same.executions, sentChain, same.chain]

def Unbridged (ix : Interaction) : Prop :=
  ∃ text, (ix.callData.or (.str "")).asStr = .ok text ∧ callSelector text ∉ bridgeCallSelectors

/-- No flag for the bridge mock, which only the follower has, or nothing for it to mock. -/
inductive SamePlan (order : Order) (plan : ExecutionPlan) : Prop
  | unflagged (crossChain : ∀ v, plan.metadata.get "cross_chain" = .ok v → v.truthy = false)
      (multiLeg : ∀ v, plan.metadata.get "multi_leg_plan" = .ok v → v.truthy = false)
      (bridgeLeg : (order.param "_is_bridge_leg").truthy = false) : SamePlan order plan
  | unbridged {amount : Int} (converted : (order.param "input_amount" (.str "0")).toIntOr 0 = .ok amount)
      (calls : ∀ ix ∈ plan.interactions, Unbridged ix) : SamePlan order plan

theorem callSelector_transfer (encoded : String) :
    callSelector ("0x" ++ "a9059cbb" ++ encoded) = "a9059cbb" := by
  have marked : startsWith ("0x" ++ "a9059cbb" ++ encoded) "0x" = true := by
    simp [startsWith, String.toList_append]
  have digits : ("0x" ++ "a9059cbb" ++ encoded).toList.drop 2 = "a9059cbb".toList ++ encoded.toList := by
    simp [String.toList_append]
  have long : 8 ≤ ("a9059cbb".toList ++ encoded.toList).length := by
    rw [List.length_append]
    exact Nat.le_add_right 8 _
  simp only [callSelector, marked, if_true, digits, long]
  rfl

/-- A mocked call is a transfer, so it is never the call it stands for. -/
theorem mockBridgeInteraction_self_iff {token amount ix} :
    mockBridgeInteraction host token amount ix = .ok ix ↔ Unbridged ix := by
  constructor
  · intro done
    obtain ⟨text, read, done⟩ := bind_eq_ok.mp done
    split at done
    · next bridge =>
      split at done
      · simp at done
      · next encoded _ =>
        have transfer := congrArg Interaction.callData (pure_eq_ok.mp done)
        rw [← transfer] at read
        cases (congrArg Value.asStr (or_str_empty _)).symm.trans read
        rw [callSelector_transfer] at bridge
        simp [bridgeCallSelectors] at bridge
    · next other => exact ⟨text, read, other⟩
  · rintro ⟨text, read, other⟩
    refine bind_eq_ok.mpr ⟨text, read, ?_⟩
    simp [other]
    rfl

theorem mocksBridge_sent
    (flagged : proposed.plan.metadata.get "cross_chain" (.bool false) = .ok crossChain) :
    ∃ mocks, mocksBridge (sentProposal order proposed simulation deadline cooldown) = .ok mocks
      ∧ (mocks = false ↔ (∀ v, proposed.plan.metadata.get "cross_chain" = .ok v → v.truthy = false)
          ∧ (∀ v, proposed.plan.metadata.get "multi_leg_plan" = .ok v → v.truthy = false)
          ∧ (order.param "_is_bridge_leg").truthy = false) := by
  obtain ⟨fields, isDict, -⟩ := Value.get_eq_ok.mp flagged
  have read : ∀ key, proposed.plan.metadata.get key = .ok ((fields.lookup key).getD .none) := by
    intro key
    rw [isDict]
    rfl
  simp only [read, Except.ok.injEq, forall_eq']
  refine ⟨((fields.lookup "cross_chain").getD .none).truthy
    || ((fields.lookup "multi_leg_plan").getD .none).truthy
    || (order.param "_is_bridge_leg").truthy, ?_, by simp [and_assoc]⟩
  refine bind_eq_ok.mpr ⟨proposed.plan.metadata, rfl, bind_eq_ok.mpr ⟨_, read _, ?_⟩⟩
  cases ((fields.lookup "cross_chain").getD .none).truthy with
  | true => rfl
  | false =>
    refine bind_eq_ok.mpr ⟨_, read _, ?_⟩
    cases ((fields.lookup "multi_leg_plan").getD .none).truthy with
    | true => rfl
    | false => exact bind_eq_ok.mpr ⟨order.param "_is_bridge_leg", rfl, rfl⟩

theorem simulatedPlan_self_iff
    (flagged : proposed.plan.metadata.get "cross_chain" (.bool false) = .ok crossChain) :
    simulatedPlan host (sentProposal order proposed simulation deadline cooldown) proposed.plan
        = .ok proposed.plan
      ↔ SamePlan order proposed.plan := by
  obtain ⟨mocks, looked, unflagged⟩ : ∃ mocks, mocksBridge
      (sentProposal order proposed simulation deadline cooldown) = .ok mocks ∧ _ := mocksBridge_sent flagged
  constructor
  · intro done
    obtain ⟨mocks', looked', done⟩ := bind_eq_ok.mp done
    cases looked.symm.trans looked'
    cases mocks with
    | false =>
      obtain ⟨crossChain, multiLeg, bridgeLeg⟩ := unflagged.mp rfl
      exact .unflagged crossChain multiLeg bridgeLeg
    | true =>
      obtain ⟨_, done⟩ := bind_ok done
      obtain ⟨amount, given, done⟩ := bind_eq_ok.mp done
      obtain rfl : order.param "input_amount" (.str "0") = amount := Except.ok.inj given
      obtain ⟨amount, converted, done⟩ := bind_eq_ok.mp done
      obtain ⟨mocked, mocking, done⟩ := bind_eq_ok.mp done
      have same := congrArg ExecutionPlan.interactions (pure_eq_ok.mp done)
      obtain rfl : mocked = proposed.plan.interactions := same
      refine .unbridged converted ?_
      intro ix member
      exact mockBridgeInteraction_self_iff.mp (mapM_eq_ok_self.mp mocking ix member)
  · intro same
    refine bind_eq_ok.mpr ⟨mocks, looked, ?_⟩
    cases same with
    | unflagged crossChain multiLeg bridgeLeg =>
      obtain rfl := unflagged.mpr ⟨crossChain, multiLeg, bridgeLeg⟩
      rfl
    | unbridged converted calls =>
      cases mocks with
      | false => rfl
      | true =>
        refine bind_eq_ok.mpr ⟨order.param "input_token" (.str ""), rfl, ?_⟩
        refine bind_eq_ok.mpr ⟨order.param "input_amount" (.str "0"), rfl, ?_⟩
        refine bind_eq_ok.mpr ⟨_, converted, ?_⟩
        refine bind_eq_ok.mpr ⟨proposed.plan.interactions, ?_, rfl⟩
        exact mapM_eq_ok_self.mpr fun ix member =>
          mockBridgeInteraction_self_iff.mpr (calls ix member)

variable (host net leader) in
structure SameRequest (order : Order) (plan : ExecutionPlan) : Prop where
  /-- The app has the same contract on the chain the payload names. -/
  contract : (net.deployment (.str order.appId) (sentChain order)).bind contractOf = deployedContract net order
  deployed : (deployedContract net order).isSome = true → SameOrder host net order plan.metadata
  /-- Only the leader has other names for the input, strips a chain from the token and
      seeds a deposit-model contract itself. -/
  tokens : ∃ balances, leaderBalances leader order = .ok balances
    ∧ seedBalances (order.param "input_token") (order.param "input_amount") =
      .ok (simulatedTokens net leader order balances)
  plan : SamePlan order plan

theorem orders_agree_iff (separates : SeparatesRebalance host) {simulation}
    {contract : Option String} {intentOrder : Option IntentOrder}
    (asDeadline : floatField order.deadline = .ok deadline)
    (asCooldown : floatField order.cooldown = .ok cooldown)
    (made : contract.mapM (leaderOrder host net order proposed.plan.metadata) = .ok intentOrder) :
    contract.mapM (followerOrder host (net.outside follower)
          (sentProposal order proposed simulation deadline cooldown)) = .ok intentOrder
        ∧ (intentOrder.map (·.intentParams.sized)).getD true = true
      ↔ (contract.isSome = true → SameOrder host net order proposed.plan.metadata) := by
  cases contract with
  | none =>
    obtain rfl := option_mapM_none_eq_ok.mp made
    exact iff_of_true ⟨rfl, rfl⟩ (by simp)
  | some address =>
    obtain ⟨leads, leading, rfl⟩ := option_mapM_some_eq_ok.mp made
    constructor
    · rintro ⟨ordered, sized⟩ -
      obtain ⟨follows, following, same⟩ := option_mapM_some_eq_ok.mp ordered
      cases same
      exact (order_agrees_iff separates asDeadline asCooldown leading).mp ⟨following, sized⟩
    · intro agreed
      obtain ⟨following, sized⟩ :=
        (order_agrees_iff separates asDeadline asCooldown leading).mpr (agreed rfl)
      exact ⟨option_mapM_some_eq_ok.mpr ⟨leads, following, rfl⟩, sized⟩

theorem request_agrees_iff (separates : SeparatesRebalance host) {generated : ExecutionPlan}
    {deadline cooldown threshold fee : Int}
    {intentOrder : Option IntentOrder} {balances : Option (Value × Int)}
    (asDeadline : floatField order.deadline = .ok deadline)
    (asCooldown : floatField order.cooldown = .ok cooldown)
    (work : Processed host net leader order generated proposed threshold fee intentOrder balances crossChain) :
    followerRequest host (net.outside follower)
          (sentProposal order proposed simulation deadline cooldown) proposed.plan
          (net.deployment (.str order.appId) (sentChain order)) = .ok proposed.request
      ↔ SameRequest host net leader order proposed.plan := by
  rw [work.asked]
  constructor
  · intro done
    obtain ⟨token, read, done⟩ := bind_eq_ok.mp done
    obtain rfl : order.param "input_token" = token := Except.ok.inj read
    obtain ⟨amount, read, done⟩ := bind_eq_ok.mp done
    obtain rfl : order.param "input_amount" = amount := Except.ok.inj read
    obtain ⟨tokens, seeded, done⟩ := bind_eq_ok.mp done
    obtain ⟨own, ordered, done⟩ := bind_eq_ok.mp done
    obtain ⟨simulated, mocked, done⟩ := bind_eq_ok.mp done
    obtain ⟨_, sized, done⟩ := bind_eq_ok.mp done
    obtain ⟨rfl, contract, rfl, rfl⟩ := SimulationRequest.mk.inj (pure_eq_ok.mp done)
    rw [contract] at ordered
    exact {
      contract := contract
      deployed := (orders_agree_iff separates asDeadline asCooldown work.scored).mp
        ⟨ordered, ensure_eq_ok.mp sized⟩
      tokens := ⟨balances, work.seeded, seeded⟩
      plan := (simulatedPlan_self_iff work.flagged).mp mocked }
  · intro same
    obtain ⟨balances', seeded', seeded⟩ := same.tokens
    cases work.seeded.symm.trans seeded'
    obtain ⟨ordered, sized⟩ :=
      (orders_agree_iff separates asDeadline asCooldown work.scored).mpr same.deployed
    refine bind_eq_ok.mpr ⟨order.param "input_token", rfl, ?_⟩
    refine bind_eq_ok.mpr ⟨order.param "input_amount", rfl, ?_⟩
    refine bind_eq_ok.mpr ⟨_, seeded, ?_⟩
    rw [same.contract]
    refine bind_eq_ok.mpr ⟨intentOrder, ordered, ?_⟩
    refine bind_eq_ok.mpr ⟨proposed.plan, (simulatedPlan_self_iff work.flagged).mpr same.plan, ?_⟩
    exact bind_eq_ok.mpr ⟨(), ensure_eq_ok.mpr sized, rfl⟩

end

end MinotaurSubnet.Blockloop
