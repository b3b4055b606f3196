import MinotaurSubnet.Bridge.LegDecisions
import MinotaurSubnet.Bridge.SelectorBan

/-! # What a solver can steer through metadata

The metadata of a solver leg is kept under the flags of the platform, and the orchestrator reads its
own decisions back from the same dictionary. The compiler overwrites every key it sets itself, but
a solver leg has no `bridge_protocol`, so one that names a bridge keeps it.
-/

namespace MinotaurSubnet.Bridge

open Library Python Shared Orderbook Blockloop

def ChainLeg.bare (leg : ChainLeg) : ChainLeg := { leg with metadata := [] }

def CrossChainPlan.bare (plan : CrossChainPlan) : CrossChainPlan :=
  { plan with legs := plan.legs.map ChainLeg.bare }

theorem namesBridge_solverLeg (legIndex : Int) (leg : ChainLeg) :
    namesBridge (solverLeg legIndex leg).metadata = namesBridge leg.metadata := by
  have declared : "bridge_protocol" ≠ "_platform_compiled" := by decide
  have typed : "bridge_protocol" ≠ "type" := by decide
  rw [namesBridge, solverLeg, lookup_setKey_ne declared, lookup_setKey_ne typed, namesBridge]

section

variable {compiler : Compiler} {orderId userAddress : String} {deadline : Int}
  {quotes : Nat → QuoteAnswers}

theorem requestErrors_bare (legs : List ChainLeg) (i : Nat) (br : BridgeRequest) :
    requestErrors (legs.map ChainLeg.bare) i br = requestErrors legs i br := by
  unfold requestErrors
  rw [List.getElem?_map, List.getElem?_map]
  cases legs[i]? <;> cases legs[i + 1]? <;> rfl

theorem validate_bare (plan : CrossChainPlan) : validate plan.bare = validate plan := by
  simp [validate, CrossChainPlan.bare, requestErrors_bare]
  rw [List.zipIdx_map, List.mapM_map]
  rfl

theorem validate_congr {plan plan'} (same : plan.bare = plan'.bare) :
    validate plan = validate plan' := by
  rw [← validate_bare, same, validate_bare]

structure TwinCompiled (compiled compiled' : CompiledCrossChainPlan) : Prop where
  plans : TwinPlans compiled.multiLegPlan compiled'.multiLegPlan
  mocks : compiled.simulationMocks = compiled'.simulationMocks

variable {compiled compiled' : CompiledCrossChainPlan}

theorem compileBridge_alike (twins : TwinCompiled compiled compiled') (answer : QuoteAnswers)
    (legIndex : Int)
    (br : BridgeRequest) :
    Agree TwinCompiled
      (compileBridge compiler orderId userAddress deadline answer legIndex br compiled)
      (compileBridge compiler orderId userAddress deadline answer legIndex br compiled') := by
  unfold compileBridge
  refine (agree_same _).bind ?_
  rintro quote _ rfl
  cases compiler.adapter quote.protocol with
  | none => exact .raised _
  | some adapter =>
    refine (agree_same _).bind ?_
    rintro interactions _ rfl
    refine (agree_same _).bind ?_
    rintro mock _ rfl
    refine .ended ⟨⟨?_, ?_⟩, ?_⟩
    · simp [twins.plans.forward]
    · simp only [twins.plans.rollback]
    · simp only [twins.mocks]

theorem addSolverLeg_alike (twins : TwinCompiled compiled compiled') (legIndex : Int) {leg leg'}
    (same : leg.bare = leg'.bare) :
    TwinCompiled (addSolverLeg legIndex leg compiled) (addSolverLeg legIndex leg' compiled') := by
  refine ⟨⟨?_, twins.plans.rollback⟩, twins.mocks⟩
  have added : bareLeg (solverLeg legIndex leg) = bareLeg (solverLeg legIndex leg') := by
    have whole (leg : ChainLeg) : bareLeg (solverLeg legIndex leg) =
        bareLeg (solverLeg legIndex leg.bare) := rfl
    rw [whole leg, same, ← whole leg']
  show (compiled.multiLegPlan.forwardLegs ++ [solverLeg legIndex leg]).map bareLeg =
    (compiled'.multiLegPlan.forwardLegs ++ [solverLeg legIndex leg']).map bareLeg
  rw [List.map_append, List.map_append, twins.plans.forward, List.map_singleton, List.map_singleton,
    added]

theorem compileLegs_alike (legs legs' : List ChainLeg)
    (same : legs.map ChainLeg.bare = legs'.map ChainLeg.bare) (i : Nat) (legIndex : Int)
    (requests : List BridgeRequest)
    (twins : TwinCompiled compiled compiled') :
    Agree TwinCompiled
      (compileLegs compiler orderId userAddress deadline quotes i legIndex legs requests compiled)
      (compileLegs compiler orderId userAddress deadline quotes i legIndex legs' requests compiled') := by
  induction legs generalizing legs' i legIndex requests compiled compiled' with
  | nil =>
    obtain rfl := List.map_eq_nil_iff.mp same.symm
    exact .ended twins
  | cons leg rest ih =>
    obtain ⟨leg', rest', rfl, here, later⟩ := List.map_eq_cons_iff.mp same.symm
    have extended := addSolverLeg_alike twins legIndex here.symm
    cases requests with
    | nil => exact ih rest' later.symm i (legIndex + 1) [] extended
    | cons br more =>
      refine (compileBridge_alike extended (quotes i) (legIndex + 1) br).bind ?_
      exact fun _ _ bridged => ih rest' later.symm (i + 1) (legIndex + 2) more bridged

theorem compile_alike {plan plan'} (same : plan.bare = plan'.bare) :
    Agree TwinCompiled (compile compiler orderId userAddress deadline quotes plan)
      (compile compiler orderId userAddress deadline quotes plan') := by
  have legs : plan.legs.map ChainLeg.bare = plan'.legs.map ChainLeg.bare :=
    (congrArg CrossChainPlan.legs same :)
  have requests : plan.bridgeRequests = plan'.bridgeRequests :=
    (congrArg CrossChainPlan.bridgeRequests same :)
  unfold compile
  rw [validate_congr same, requests]
  refine (agree_same _).bind ?_
  rintro errors _ rfl
  split
  · exact compileLegs_alike plan.legs plan'.legs legs 0 0 _ ⟨⟨rfl, rfl⟩, rfl⟩
  · exact .raised _

theorem compileBridge_quoted {answer : QuoteAnswers} {legIndex : Int} {br : BridgeRequest}
    {compiled bridged : CompiledCrossChainPlan}
    (ok : compileBridge compiler orderId userAddress deadline answer legIndex br compiled =
      .ok bridged) :
    ∃ quote, answer.quote = .ok (some quote) ∧
      bridged.bridgeQuotes = compiled.bridgeQuotes ++ [quote] := by
  unfold compileBridge at ok
  obtain ⟨quote, accepted, ok⟩ := bind_eq_ok.mp ok
  have given : answer.quote = .ok (some quote) := by
    unfold acceptQuote at accepted
    obtain ⟨found, answered, accepted⟩ := bind_eq_ok.mp accepted
    cases found with
    | none => cases accepted
    | some given =>
      dsimp only at accepted
      split at accepted
      all_goals
        obtain ⟨_, accepted⟩ := bind_ok accepted
        split at accepted
        · cases accepted
        · rw [answered, pure_eq_ok.mp accepted]
  refine ⟨quote, given, ?_⟩
  split at ok
  · cases ok
  · obtain ⟨interactions, -, ok⟩ := bind_eq_ok.mp ok
    obtain ⟨_, ok⟩ := bind_ok ok
    cases ok
    rfl

theorem compileLegs_quoted {P : BridgeQuote → Prop}
    (answered : ∀ i quote, (quotes i).quote = .ok (some quote) → P quote) (legs : List ChainLeg)
    {i : Nat} {legIndex : Int} {requests : List BridgeRequest}
    {compiled result : CompiledCrossChainPlan} (before : ∀ quote ∈ compiled.bridgeQuotes, P quote)
    (ok : compileLegs compiler orderId userAddress deadline quotes i legIndex legs requests compiled =
      .ok result) : ∀ quote ∈ result.bridgeQuotes, P quote := by
  induction legs generalizing i legIndex requests compiled with
  | nil =>
    cases ok
    exact before
  | cons leg rest ih =>
    unfold compileLegs at ok
    cases requests with
    | nil =>
      refine ih ?_ ok
      exact before
    | cons br more =>
      obtain ⟨bridged, bridges, ok⟩ := bind_eq_ok.mp ok
      obtain ⟨quote, given, grown⟩ := compileBridge_quoted bridges
      refine ih ?_ ok
      intro known member
      rw [grown] at member
      rcases List.mem_append.mp member with old | new
      · exact before known old
      · obtain rfl := List.mem_singleton.mp new
        exact answered i known given

theorem compile_valid {plan compiled}
    (ok : compile compiler orderId userAddress deadline quotes plan = .ok compiled) :
    validate plan = .ok [] := by
  unfold compile at ok
  obtain ⟨errors, valid, ok⟩ := bind_eq_ok.mp ok
  split at ok
  · next empty => rw [valid, List.isEmpty_iff.mp empty]
  · cases ok

theorem compile_quoted {P : BridgeQuote → Prop}
    (answered : ∀ i quote, (quotes i).quote = .ok (some quote) → P quote) {plan compiled}
    (ok : compile compiler orderId userAddress deadline quotes plan = .ok compiled) :
    ∀ quote ∈ compiled.bridgeQuotes, P quote := by
  unfold compile at ok
  obtain ⟨_, ok⟩ := bind_ok ok
  split at ok
  · exact compileLegs_quoted answered plan.legs (by simp) ok
  · cases ok

end

/-- The metadata of the legs decides nothing. The last leg waits for no one, and one that makes calls
    of its own and none to a bridge is no bridge leg whatever it is named; the leg before a bridge leg
    parks it as soon as it names a bridge. -/
def Unsteered : List ChainLeg → List ChainLeg → Prop
  | [leg], [leg'] => namesBridge leg.metadata = namesBridge leg'.metadata ∨
      (leg.interactions ≠ [] ∧ anyCallsBridge leg.interactions ≠ .ok true)
  | leg :: _, leg' :: _ => namesBridge leg.metadata = namesBridge leg'.metadata
  | _, _ => True

theorem solverLeg_type (legIndex : Int) (leg : ChainLeg) :
    (solverLeg legIndex leg).get "type" = .str "solver_leg" := by
  have declared : "type" ≠ "_platform_compiled" := by decide
  rw [LegPlan.get, solverLeg, lookup_setKey_ne declared, lookup_setKey_self]
  rfl

theorem isBridgeLeg_solverLeg {mocks legIndex leg leg'}
    (bare : bareLeg (solverLeg legIndex leg) = bareLeg (solverLeg legIndex leg'))
    (named : namesBridge leg.metadata = namesBridge leg'.metadata) :
    isBridgeLeg mocks (solverLeg legIndex leg) = isBridgeLeg mocks (solverLeg legIndex leg') := by
  apply isBridgeLeg_congr bare
  rw [solverLeg_type, solverLeg_type, namesBridge_solverLeg, namesBridge_solverLeg, named]

variable {userAddress : String}

theorem isBridgeLeg_bridgeLeg {mocks : SimulationMocks} {legIndex : Int} {br br' : BridgeRequest}
    {quote quote' : BridgeQuote} {interactions interactions' : List Interaction}
    (bare : bareLeg (bridgeLeg userAddress legIndex br quote interactions) =
      bareLeg (bridgeLeg userAddress legIndex br' quote' interactions')) :
    isBridgeLeg mocks (bridgeLeg userAddress legIndex br quote interactions) =
      isBridgeLeg mocks (bridgeLeg userAddress legIndex br' quote' interactions') := by
  apply isBridgeLeg_congr bare
  have typed : ∀ leg : LegPlan, leg.get "type" = .str "bridge" →
      ((leg.get "type").isStr "bridge_source" || (leg.get "type").isStr "bridge" ||
        namesBridge leg.metadata) = true := by
    intro leg type
    rw [type]
    rfl
  rw [typed _ rfl, typed _ rfl]

theorem isBridgeLeg_uncalled {mocks a b} (bare : bareLeg a = bareLeg b)
    (calls : a.interactions ≠ []) (elsewhere : anyCallsBridge a.interactions ≠ .ok true) :
    isBridgeLeg mocks a = isBridgeLeg mocks b := by
  have mocked : mockConfig mocks a = mockConfig mocks b := by
    unfold mockConfig
    rw [legIndex_of_bare bare]
  have plain : ∀ leg : LegPlan, leg.interactions = a.interactions → mockConfig mocks leg = none →
      isBridgeLeg mocks leg = (anyCallsBridge a.interactions).map fun _ => false := by
    intro leg same unmocked
    unfold isBridgeLeg
    rw [same, unmocked]
    cases found : anyCallsBridge a.interactions with
    | error e => rfl
    | ok calling =>
      cases calling with
      | true => exact absurd found elsewhere
      | false =>
        have filled : a.interactions.isEmpty = false := by simpa using calls
        simp [filled, Except.map, bind, Except.bind, pure, Except.pure]
  cases configured : mockConfig mocks b with
  | some mock =>
    unfold isBridgeLeg
    rw [mocked, configured]
  | none =>
    rw [plain a rfl (mocked.trans configured), plain b (interactions_of_bare bare).symm configured]

theorem namesBridge_bridgeLeg {legIndex br quote interactions} (named : quote.protocol ≠ "") :
    namesBridge (bridgeLeg userAddress legIndex br quote interactions).metadata = true := by
  show (Value.str quote.protocol).truthy = true
  simpa [Value.truthy] using named

theorem parked_after_bridge {before leg br quote interactions settled bridged}
    (named : quote.protocol ≠ "") :
    bridgeDependency ([settledLeg (solverLeg 0 before) settled] ++
      [settledLeg (bridgeLeg userAddress (0 + 1) br quote interactions) bridged])
      (solverLeg (0 + 2) leg) ≠ none := by
  have truthy : ((settledLeg (bridgeLeg userAddress (0 + 1) br quote interactions) bridged).get
      "bridge_protocol").truthy = true := by
    have kept := namesBridge_settledLeg (bridgeLeg userAddress (0 + 1) br quote interactions) bridged
    rw [namesBridge_bridgeLeg named] at kept
    exact kept
  have found : ([settledLeg (solverLeg 0 before) settled] ++
      [settledLeg (bridgeLeg userAddress (0 + 1) br quote interactions) bridged]).find?
        (fun done => done.legIndex == 1) =
      some (settledLeg (bridgeLeg userAddress (0 + 1) br quote interactions) bridged) := rfl
  have waits : (solverLeg (0 + 2) leg).dependsOn = [1] := rfl
  unfold bridgeDependency
  rw [waits, List.findSome?_cons, found, Option.filter_some, if_pos truthy]
  exact Option.some_ne_none _

theorem CompiledLegs.starts {i legs quotes added}
    (compiled : CompiledLegs userAddress i legs quotes added) :
    ∃ leg rest, added = solverLeg i leg :: rest := by
  cases compiled with
  | last => exact ⟨_, [], rfl⟩
  | bridged more => exact ⟨_, _, rfl⟩

section

variable {node : Orchestrator} {order : BookOrder} {plan plan' : MultiLegPlan}
  {mocks : SimulationMocks}
  {answers : Nat → LegAnswers} {rollbackAnswers : Nat → Except PyError SubmitResult}
  {userAddress : String}

theorem decidedLegs_alike (encodes : DigestsEncode node.host) (plans : TwinPlans plan plan')
    {legs legs' quotes quotes' added added'}
    (compiled : CompiledLegs userAddress 0 legs quotes added)
    (compiled' : CompiledLegs userAddress 0 legs' quotes' added')
    (forward : added.map bareLeg = added'.map bareLeg)
    (named : ∀ quote ∈ quotes, quote.protocol ≠ "")
    (named' : ∀ quote ∈ quotes', quote.protocol ≠ "") (unsteered : Unsteered legs legs') :
    Traced.Alike Decision.bare
      (fun x y => x.bestOnChain = y.bestOnChain ∧ x.txHash = y.txHash)
      (decidedLegs node order plan mocks answers rollbackAnswers 0 added {})
      (decidedLegs node order plan' mocks answers rollbackAnswers 0 added' {}) := by
  cases compiled with
  | @last _ leg =>
    cases compiled' with
    | bridged => simp at forward
    | @last _ leg' =>
      obtain ⟨bare, -⟩ := List.cons.inj forward
      have treated : isBridgeLeg mocks (solverLeg 0 leg) = isBridgeLeg mocks (solverLeg 0 leg') := by
        rcases unsteered with same | ⟨calls, elsewhere⟩
        · exact isBridgeLeg_solverLeg bare same
        · exact isBridgeLeg_uncalled bare calls elsewhere
      refine (decidedLeg_alike encodes plans .nil rfl bare (fun _ => treated) 0).bind ?_
      intro after after' advanced
      exact Traced.alike_pure ⟨advanced.best, advanced.txHash⟩
  | @bridged _ leg br quote interactions rest quotes legs more =>
    cases compiled' with
    | last => simp at forward
    | @bridged _ leg' br' quote' interactions' rest' quotes' legs' more' =>
      obtain ⟨bare, forward⟩ := List.cons.inj forward
      obtain ⟨bridge, forward⟩ := List.cons.inj forward
      have same : namesBridge leg.metadata = namesBridge leg'.metadata := by
        cases more <;> cases more' <;> exact unsteered
      have treated := @isBridgeLeg_solverLeg mocks _ _ _ bare same
      refine (decidedLeg_alike encodes plans .nil rfl bare (fun _ => treated) 0).bind ?_
      intro after after' advanced
      have steady : namesBridge (solverLeg 0 leg).metadata = namesBridge (solverLeg 0 leg').metadata := by
        rw [namesBridge_solverLeg, namesBridge_solverLeg, same]
      have kept := advanced.kept .nil bare steady
      refine (decidedLeg_alike encodes plans kept advanced.best bridge
        (fun _ => isBridgeLeg_bridgeLeg bridge) 1).bind ?_
      intro last last' further
      have steady' := (@namesBridge_bridgeLeg userAddress (0 + 1) br quote interactions
        (named quote List.mem_cons_self)).trans (@namesBridge_bridgeLeg userAddress (0 + 1) br' quote'
          interactions' (named' quote' List.mem_cons_self)).symm
      have kept' := further.kept kept bridge steady'
      obtain ⟨next, tail, rfl⟩ := more.starts
      obtain ⟨next', tail', rfl⟩ := more'.starts
      obtain ⟨bare', -⟩ := List.cons.inj forward
      have parked : bridgeDependency last.completed (solverLeg (0 + 2) next) ≠ none := by
        obtain ⟨settled, grown, -⟩ := advanced.completed
        obtain ⟨bridged, grown', -⟩ := further.completed
        rw [grown', grown]
        exact parked_after_bridge (named quote List.mem_cons_self)
      refine (decidedLeg_alike encodes plans kept' further.best bare'
        (fun free => absurd free parked) 2).bind ?_
      intro _ _ impossible
      exact absurd impossible.free parked

end

/-- Everything around the two runs: the order and what the platform, the registry, the simulator, the
    scorer, the validators and the relayer answer. A quote names the adapter it is of. -/
structure Surroundings where
  compiler : Compiler
  orderId : String
  userAddress : String
  deadline : Int
  quotes : Nat → QuoteAnswers
  named : ∀ i quote, (quotes i).quote = .ok (some quote) → quote.protocol ≠ ""
  node : Orchestrator
  encodes : DigestsEncode node.host
  order : BookOrder
  answers : Nat → LegAnswers
  rollbackAnswers : Nat → Except PyError SubmitResult

namespace Surroundings

variable (s : Surroundings)

def compile (plan : CrossChainPlan) : Except String CompiledCrossChainPlan :=
  Bridge.compile s.compiler s.orderId s.userAddress s.deadline s.quotes plan

def decide (compiled : CompiledCrossChainPlan) : Deciding Bool :=
  decidedProcess s.node s.order compiled.multiLegPlan { byIndex := compiled.simulationMocks } s.answers
    s.rollbackAnswers

end Surroundings

/-- Whatever is around them, both plans are refused alike, or they are run with the same decisions,
    calls and end. -/
def SameDecisions (plan plan' : CrossChainPlan) : Prop :=
  ∀ s : Surroundings, Agree
    (fun compiled compiled' => Traced.Alike Decision.bare (· = ·) (s.decide compiled) (s.decide compiled'))
    (s.compile plan) (s.compile plan')

variable {plan plan' : CrossChainPlan}

theorem sameDecisions_of_unsteered (same : plan.bare = plan'.bare)
    (unsteered : validate plan ≠ .ok [] ∨ Unsteered plan.legs plan'.legs) : SameDecisions plan plan' := by
  intro s
  have twins : Agree TwinCompiled (s.compile plan) (s.compile plan') := compile_alike same
  refine twins.imp_ended fun compiled compiled' ok ok' twins => ?_
  have steady := unsteered.resolve_left fun refused => refused (compile_valid ok)
  unfold Surroundings.decide
  rw [twins.mocks]
  exact decidedProcess_alike (decidedLegs_alike s.encodes twins.plans (compile_legs ok)
    (compile_legs ok') twins.plans.forward (compile_quoted s.named ok) (compile_quoted s.named ok')
    steady)

def probeQuote (output : Int) : BridgeQuote where
  protocol := "mock"
  tokenIn := "0xa"
  tokenOut := "0xb"
  amountIn := 0
  estimatedOutput := output
  fee := 0

/-- The services score a leg as `scores` has it, only the first leg simulates well, and a bridge
    delivers `output`. -/
def probe (output : Int) (scores : Nat → Except PyError (Option PyFloat)) : Surroundings where
  compiler := {
    adapter := fun _ => some
      { buildBridgeInteractions := fun _ _ => .ok [], mockConfig := fun _ => .ok (.dict []) }
    ninetyNinePercent := fun output => .ok (output * 99 / 100)
    now := 0 }
  orderId := "ord_1"
  userAddress := "0xuser"
  deadline := 0
  quotes _ := {
    quote := .ok (.some (probeQuote output))
    reverse := .ok .none }
  named := by
    intro i quote given
    cases given
    show "mock" ≠ ""
    decide
  node := { twoLegNode with hasConsensus := false }
  encodes := by
    intro words text text'
    rfl
  order := twoLegOrder
  answers position := {
    simulate := .ok { success := position = 0 }
    score := scores position
    propose := .ok { reached := true }
    submit := .ok { success := true } }
  rollbackAnswers _ := .ok { success := true }

theorem doing_result {α : Type} (x : Pipeline α) : (doing x).result = x.result := rfl

theorem isBridgeLeg_first {mocks leg} (unmocked : mockConfig mocks (solverLeg 0 leg) = none)
    (bridging : leg.interactions = [] ∨ anyCallsBridge leg.interactions = .ok true) :
    isBridgeLeg mocks (solverLeg 0 leg) = .ok (namesBridge leg.metadata) := by
  have interactions : (solverLeg 0 leg).interactions = leg.interactions := rfl
  have named : ((solverLeg 0 leg).get "bridge_protocol").truthy = namesBridge leg.metadata :=
    namesBridge_solverLeg 0 leg
  unfold isBridgeLeg
  rw [unmocked, solverLeg_type, interactions, named]
  rcases bridging with empty | calls
  · rw [empty]
    simp [anyCallsBridge, Value.isStr, bind, Except.bind, pure, Except.pure]
  · rw [calls]
    simp [Value.isStr, bind, Except.bind, pure, Except.pure]

variable {output : Int}

theorem probe_leg {scores : Nat → Except PyError (Option PyFloat)} {plan mocks leg progress bridge}
    (free : bridgeDependency progress.completed leg = none)
    (treated : isBridgeLeg mocks leg = .ok bridge) (position : Nat) :
    (decidedLeg (probe output scores).node (probe output scores).order plan mocks
      (probe output scores).answers (probe output scores).rollbackAnswers position leg progress).result =
      match if bridge && decide (position = 0) then .ok .none else scores position with
      | .error e => .error (.raised e)
      | .ok _ => .ok {
          completed := progress.completed ++ [settledLeg leg { success := true }]
          bestOnChain := bestOf progress.bestOnChain .none } := by
  have waits : awaitBridge (probe output scores).node plan progress.completed leg = Pure.pure () := by
    unfold awaitBridge
    rw [free]
  obtain ⟨legPlan, planned⟩ : ∃ legPlan,
      legExecutionPlan (probe output scores).order leg [] = .ok legPlan := ⟨_, rfl⟩
  have simulated : (simulateLeg (probe output scores).node (probe output scores).order legPlan
      ((probe output scores).answers position).simulate).result =
      .ok { success := .bool (position = 0) } := rfl
  have consulted : (consultLeg (probe output scores).node (probe output scores).order plan
      (probe output scores).rollbackAnswers position legPlan progress.completed
      ((probe output scores).answers position).propose).result = .ok none := rfl
  have submitted : (submitLeg (probe output scores).order plan (probe output scores).rollbackAnswers
      position leg progress.completed none ((probe output scores).answers position).submit).result =
      .ok { success := true } := rfl
  have going {α : Type} (a : α) : (Pipeline.raising (.ok a)).result = .ok a := rfl
  have next {ε α β : Type} (a : α) (f : α → Except ε β) : (.ok a >>= f) = f a := rfl
  unfold decidedLeg decidedPrepare
  simp only [Traced.result_bind, doing_result, waits, treated, planned, going, setStatusError,
    Traced.result_emit, Traced.result_pure, next, simulated]
  have scored : ((probe output scores).answers position).score = scores position := rfl
  have success : (Value.bool (decide (position = 0))).truthy = decide (position = 0) := rfl
  unfold scoreLeg
  rw [success]
  cases bridge && decide (position = 0) with
  | true =>
    simp only [if_true, Traced.result_pure, next, consulted, submitted]
  | false =>
    rw [scored]
    cases scores position with
    | ok score =>
      simp [Traced.result_bind, Traced.result_emit, next, going, Traced.result_pure, consulted, submitted]
    | error e => rfl

theorem decide_result (s : Surroundings) (compiled : CompiledCrossChainPlan) :
    (s.decide compiled).result =
      (decidedLegs s.node s.order compiled.multiLegPlan { byIndex := compiled.simulationMocks } s.answers
        s.rollbackAnswers 0 compiled.multiLegPlan.forwardLegs {}).result.map fun _ => true := by
  unfold Surroundings.decide decidedProcess
  rw [Traced.result_bind]
  cases (decidedLegs s.node s.order compiled.multiLegPlan { byIndex := compiled.simulationMocks }
    s.answers s.rollbackAnswers 0 compiled.multiLegPlan.forwardLegs {}).result with
  | error e => rfl
  | ok done => rfl

theorem probe_single {e leg}
    (bridging : leg.interactions = [] ∨ anyCallsBridge leg.interactions = .ok true) :
    ((probe output fun _ => .error e).decide (addSolverLeg 0 leg {})).result =
      if namesBridge leg.metadata then .ok true else .error (.raised e) := by
  have treated := @isBridgeLeg_first {} leg rfl bridging
  have legs : (addSolverLeg 0 leg {}).multiLegPlan.forwardLegs = [solverLeg 0 leg] := rfl
  have ran := @probe_leg output (fun _ => .error e) (addSolverLeg 0 leg {}).multiLegPlan {}
    (solverLeg 0 leg) {} _ rfl treated 0
  rw [decide_result, legs, decidedLegs, Traced.result_bind]
  show (Except.map _ (Except.bind (decidedLeg _ _ _ {} _ _ _ _ _).result _)) = _
  rw [ran]
  cases namesBridge leg.metadata with
  | true => rfl
  | false => rfl

theorem decidedLeg_parked {node order plan mocks} {answers : Nat → LegAnswers}
    {rollbackAnswers : Nat → Except PyError SubmitResult} {position leg progress legPlan}
    (planned : legExecutionPlan order leg [] = .ok legPlan)
    (waits : bridgeDependency progress.completed leg ≠ none) :
    (decidedLeg node order plan mocks answers rollbackAnswers position leg progress).result =
      .error (.returned true) := by
  obtain ⟨done, waiting⟩ := Option.ne_none_iff_exists'.mp waits
  have registered : (registerBridge node plan progress.completed leg done).result = .ok () := by
    unfold registerBridge
    split
    · split <;> rfl
    · rfl
  have parked : (awaitBridge node plan progress.completed leg).result = .error (.returned true) := by
    unfold awaitBridge
    rw [waiting]
    simp only [Traced.result_bind, registered]
    rfl
  unfold decidedLeg decidedPrepare
  simp only [Traced.result_bind, doing_result, planned, parked]
  rfl

theorem decidedLeg_unreadable {node order plan mocks} {answers : Nat → LegAnswers}
    {rollbackAnswers : Nat → Except PyError SubmitResult} {position leg progress legPlan e}
    (planned : legExecutionPlan order leg [] = .ok legPlan)
    (free : bridgeDependency progress.completed leg = none)
    (unreadable : isBridgeLeg mocks leg = .error e) :
    (decidedLeg node order plan mocks answers rollbackAnswers position leg progress).result =
      .error (.raised e) := by
  have waits : awaitBridge node plan progress.completed leg = Pure.pure () := by
    unfold awaitBridge
    rw [free]
  unfold decidedLeg decidedPrepare
  simp only [Traced.result_bind, doing_result, planned, waits, unreadable]
  rfl

def firstScored (e : PyError) (position : Nat) : Except PyError (Option PyFloat) :=
  if position = 0 then .ok none else .error e

theorem probe_several {e compiled leg userAddress br quote interactions rest bridge}
    (legs : compiled.multiLegPlan.forwardLegs =
      solverLeg 0 leg :: bridgeLeg userAddress (0 + 1) br quote interactions :: rest)
    (treated : isBridgeLeg { byIndex := compiled.simulationMocks } (solverLeg 0 leg) = .ok bridge) :
    ((probe output (firstScored e)).decide compiled).result = .error (.returned true) ↔
      namesBridge leg.metadata = true := by
  have first := @probe_leg output (firstScored e) compiled.multiLegPlan
    { byIndex := compiled.simulationMocks } (solverLeg 0 leg) {} _ rfl treated 0
  rw [firstScored, if_pos rfl, ite_self] at first
  have settled : namesBridge (settledLeg (solverLeg 0 leg) { success := true }).metadata =
      namesBridge leg.metadata := by
    rw [namesBridge_settledLeg, namesBridge_solverLeg]
  have depends : bridgeDependency ([] ++ [settledLeg (solverLeg 0 leg) { success := true }])
      (bridgeLeg userAddress (0 + 1) br quote interactions) =
      if namesBridge leg.metadata then some (settledLeg (solverLeg 0 leg) { success := true })
      else none := by
    have found : ([] ++ [settledLeg (solverLeg 0 leg) { success := true }]).find?
        (fun done => done.legIndex == 0) = some (settledLeg (solverLeg 0 leg) { success := true }) := rfl
    have waits : (bridgeLeg userAddress (0 + 1) br quote interactions).dependsOn = [0] := rfl
    have truthy : ((settledLeg (solverLeg 0 leg) { success := true }).get "bridge_protocol").truthy =
        namesBridge leg.metadata := settled
    rw [bridgeDependency, waits, List.findSome?_cons, found, Option.filter_some, truthy]
    cases namesBridge leg.metadata <;> rfl
  obtain ⟨legPlan, planned⟩ : ∃ legPlan, legExecutionPlan (probe output (firstScored e)).order
      (bridgeLeg userAddress (0 + 1) br quote interactions) [] = .ok legPlan := ⟨_, rfl⟩
  rw [decide_result, legs, decidedLegs, Traced.result_bind, first]
  show (Except.map _ ((decidedLegs _ _ _ _ _ _ 1 (_ :: rest) _).result)) = _ ↔ _
  rw [decidedLegs, Traced.result_bind]
  by_cases named : namesBridge leg.metadata = true
  · rw [if_pos named] at depends
    have waits : bridgeDependency ([] ++ [settledLeg (solverLeg 0 leg) { success := true }])
        (bridgeLeg userAddress (0 + 1) br quote interactions) ≠ none := by
      rw [depends]
      exact Option.some_ne_none _
    rw [decidedLeg_parked planned waits]
    exact iff_of_true rfl named
  · rw [if_neg named] at depends
    refine iff_of_false ?_ named
    cases treated' : isBridgeLeg { byIndex := compiled.simulationMocks }
        (bridgeLeg userAddress (0 + 1) br quote interactions) with
    | error e' =>
      rw [decidedLeg_unreadable planned depends treated']
      intro same
      cases same
    | ok bridge' =>
      have ran := @probe_leg output (firstScored e) compiled.multiLegPlan
        { byIndex := compiled.simulationMocks } _
        { completed := [] ++ [settledLeg (solverLeg 0 leg) { success := true }]
          bestOnChain := bestOf none .none } _ depends treated' 1
      have later : (bridge' && decide (1 = 0)) = false := by simp
      rw [later, if_neg Bool.false_ne_true, firstScored, if_neg Nat.one_ne_zero] at ran
      rw [ran]
      intro same
      cases same

theorem callsBridge_of_selectorOf {ix selector} (read : selectorOf ix = .ok selector) :
    ∃ calls, callsBridge ix = .ok calls := by
  unfold selectorOf at read
  unfold callsBridge
  cases spelled : ix.callData.or (.str "") with
  | str text => exact ⟨_, rfl⟩
  | _ =>
    rw [spelled] at read
    cases read

theorem anyCallsBridge_ok {interactions}
    (each : ∀ ix ∈ interactions, ∃ calls, callsBridge ix = .ok calls) :
    ∃ calls, anyCallsBridge interactions = .ok calls := by
  induction interactions with
  | nil => exact ⟨false, rfl⟩
  | cons ix rest ih =>
    obtain ⟨calls, here⟩ := each ix List.mem_cons_self
    obtain ⟨later, there⟩ := ih fun ix inside => each ix (List.mem_cons_of_mem _ inside)
    unfold anyCallsBridge
    rw [here]
    cases calls with
    | true => exact ⟨true, rfl⟩
    | false => exact ⟨later, there⟩

theorem anyCallsBridge_of_validate {plan} (valid : validate plan = .ok []) {leg}
    (inside : leg ∈ plan.legs) : ∃ calls, anyCallsBridge leg.interactions = .ok calls := by
  have passes := passesSelectorCheck_iff.mp (passesSelectorCheck_of_validate valid)
  refine anyCallsBridge_ok fun ix member => ?_
  have plain := passes ix (List.mem_flatMap.mpr ⟨leg, inside, member⟩)
  obtain ⟨selector, read, -⟩ := not_spelledPlainly.mp plain
  exact callsBridge_of_selectorOf read

theorem isBridgeLeg_ok {mocks leg} (calls : ∃ calls, anyCallsBridge leg.interactions = .ok calls) :
    ∃ bridge, isBridgeLeg mocks leg = .ok bridge := by
  obtain ⟨calls, found⟩ := calls
  unfold isBridgeLeg
  cases mockConfig mocks leg with
  | some mock => exact ⟨true, rfl⟩
  | none =>
    rw [found]
    exact ⟨_, rfl⟩

theorem probe_compileBridge {scores : Nat → Except PyError (Option PyFloat)} (positive : 0 ≤ output)
    {br} (enough : br.minOutput ≤ output) (i : Nat) (legIndex : Int)
    (compiled : CompiledCrossChainPlan) :
    ∃ bridged, compileBridge (probe output scores).compiler (probe output scores).orderId
      (probe output scores).userAddress (probe output scores).deadline ((probe output scores).quotes i)
      legIndex br compiled = .ok bridged := by
  have accepted : acceptQuote (probe output scores).compiler br ((probe output scores).quotes i).quote =
      .ok (probeQuote output) := by
    show (if br.minOutput ≠ 0 then _ else _) = _
    split
    · exact if_neg (not_lt.mpr enough)
    · have less : output * 99 / 100 ≤ output :=
        Int.ediv_le_of_le_mul (by decide) (mul_le_mul_of_nonneg_left (by decide) positive)
      exact if_neg (not_lt.mpr less)
  unfold compileBridge
  rw [accepted]
  exact ⟨_, rfl⟩

theorem probe_compileLegs {scores : Nat → Except PyError (Option PyFloat)} (positive : 0 ≤ output)
    (legs : List ChainLeg) (requests : List BridgeRequest)
    (enough : ∀ br ∈ requests, br.minOutput ≤ output) (i : Nat) (legIndex : Int)
    (compiled : CompiledCrossChainPlan) :
    ∃ result, compileLegs (probe output scores).compiler (probe output scores).orderId
      (probe output scores).userAddress (probe output scores).deadline (probe output scores).quotes i
      legIndex legs requests compiled = .ok result := by
  induction legs generalizing requests i legIndex compiled with
  | nil => exact ⟨compiled, rfl⟩
  | cons leg rest ih =>
    cases requests with
    | nil => exact ih [] (by simp) i (legIndex + 1) _
    | cons br more =>
      obtain ⟨bridged, bridges⟩ := @probe_compileBridge output scores positive br
        (enough br List.mem_cons_self) i (legIndex + 1) (addSolverLeg legIndex leg compiled)
      obtain ⟨result, later⟩ := ih more (fun br inside => enough br (List.mem_cons_of_mem _ inside))
        (i + 1) (legIndex + 2) bridged
      exact ⟨result, bind_eq_ok.mpr ⟨bridged, bridges, later⟩⟩

theorem exists_output (requests : List BridgeRequest) :
    ∃ output : Int, 0 ≤ output ∧ ∀ br ∈ requests, br.minOutput ≤ output := by
  induction requests with
  | nil => exact ⟨0, le_rfl, by simp⟩
  | cons br rest ih =>
    obtain ⟨output, positive, enough⟩ := ih
    refine ⟨max br.minOutput output, by omega, ?_⟩
    intro br' inside
    rcases List.mem_cons.mp inside with rfl | later
    · exact le_max_left _ _
    · exact (enough br' later).trans (le_max_right _ _)

theorem probe_compiles {plan} (valid : validate plan = .ok []) :
    ∃ output, ∀ scores, ∃ compiled, (probe output scores).compile plan = .ok compiled := by
  obtain ⟨output, positive, enough⟩ := exists_output plan.bridgeRequests
  refine ⟨output, fun scores => ?_⟩
  obtain ⟨compiled, done⟩ := @probe_compileLegs output scores positive plan.legs plan.bridgeRequests
    enough 0 0 {}
  exact ⟨compiled, bind_eq_ok.mpr ⟨[], valid, done⟩⟩

theorem SameDecisions.result (same : SameDecisions plan plan') {s : Surroundings}
    {compiled compiled'} (ok : s.compile plan = .ok compiled)
    (ok' : s.compile plan' = .ok compiled') :
    (s.decide compiled).result = (s.decide compiled').result := by
  obtain ⟨found, done, alike⟩ := (same s).ends ok
  obtain rfl : found = compiled' := Except.ok.inj (done.symm.trans ok')
  exact alike.result.eq

theorem named_of_single (valid : validate plan = .ok []) (valid' : validate plan' = .ok [])
    {leg leg' : ChainLeg} (legs : plan.legs = [leg])
    (legs' : plan'.legs = [leg']) (bare : leg.interactions = leg'.interactions)
    (bridging : leg.interactions = [] ∨ anyCallsBridge leg.interactions = .ok true)
    (same : SameDecisions plan plan') : namesBridge leg.metadata = namesBridge leg'.metadata := by
  have compiles {plan : CrossChainPlan} {leg : ChainLeg} (valid : validate plan = .ok [])
      (legs : plan.legs = [leg]) : (probe 0 fun _ => .error .typeError).compile plan =
        .ok (addSolverLeg 0 leg {}) := by
    have count := validate_lengths valid
    rw [legs] at count
    have requests : plan.bridgeRequests = [] := by
      rw [← List.length_eq_zero_iff]
      simpa using count
    refine bind_eq_ok.mpr ⟨[], valid, ?_⟩
    rw [legs, requests]
    rfl
  have result := same.result (compiles valid legs) (compiles valid' legs')
  rw [probe_single bridging, probe_single (bare ▸ bridging)] at result
  revert result
  cases namesBridge leg.metadata <;> cases namesBridge leg'.metadata <;> simp

theorem probe_iff {plan} (valid : validate plan = .ok []) {e leg rest}
    (legs : plan.legs = leg :: rest) (several : rest ≠ []) {compiled}
    (ok : (probe output (firstScored e)).compile plan = .ok compiled) :
    ((probe output (firstScored e)).decide compiled).result = .error (.returned true) ↔
      namesBridge leg.metadata = true := by
  have woven := compile_legs ok
  have inside : leg ∈ plan.legs := by
    rw [legs]
    exact List.mem_cons_self
  obtain ⟨bridge, treated⟩ := @isBridgeLeg_ok { byIndex := compiled.simulationMocks } (solverLeg 0 leg)
    (anyCallsBridge_of_validate valid inside)
  rw [legs] at woven
  generalize forward : compiled.multiLegPlan.forwardLegs = added at woven
  generalize compiled.bridgeQuotes = quotes at woven
  cases woven with
  | last => exact absurd rfl several
  | bridged more => exact probe_several forward treated

theorem named_of_several (valid : validate plan = .ok []) (valid' : validate plan' = .ok [])
    {leg leg' : ChainLeg} {rest rest'} (legs : plan.legs = leg :: rest)
    (legs' : plan'.legs = leg' :: rest') (several : rest ≠ []) (several' : rest' ≠ [])
    (same : SameDecisions plan plan') : namesBridge leg.metadata = namesBridge leg'.metadata := by
  obtain ⟨output, compiles⟩ := probe_compiles valid
  obtain ⟨compiled, ok⟩ := compiles (firstScored .typeError)
  obtain ⟨compiled', ok', -⟩ := (same _).ends ok
  have parked := probe_iff valid legs several ok
  have parked' := probe_iff valid' legs' several' ok'
  rw [same.result ok ok', parked'] at parked
  exact Bool.eq_iff_iff.mpr parked.symm

theorem unsteered_of_sameDecisions (bare : plan.bare = plan'.bare) (valid : validate plan = .ok [])
    (same : SameDecisions plan plan') :
    Unsteered plan.legs plan'.legs := by
  have valid' : validate plan' = .ok [] := (validate_congr bare).symm.trans valid
  have forward : plan.legs.map ChainLeg.bare = plan'.legs.map ChainLeg.bare :=
    (congrArg CrossChainPlan.legs bare :)
  cases legs : plan.legs with
  | nil => trivial
  | cons leg rest =>
    cases legs' : plan'.legs with
    | nil => simp [legs, legs'] at forward
    | cons leg' rest' =>
      rw [legs, legs'] at forward
      obtain ⟨here, later⟩ := List.cons.inj forward
      have interactions : leg.interactions = leg'.interactions :=
        (congrArg ChainLeg.interactions here :)
      cases rest with
      | nil =>
        obtain rfl := List.map_eq_nil_iff.mp later.symm
        by_cases bridging : leg.interactions = [] ∨ anyCallsBridge leg.interactions = .ok true
        · exact .inl (named_of_single valid valid' legs legs' interactions bridging same)
        · obtain ⟨calls, elsewhere⟩ := not_or.mp bridging
          exact .inr ⟨calls, elsewhere⟩
      | cons next more =>
        cases rest' with
        | nil => simp at later
        | cons next' more' =>
          exact named_of_several valid valid' legs legs' (by simp) (by simp) same

/-- Metadata decides nothing exactly when the compiler refuses the plan, or when the first legs agree in
    whether they name a bridge, or the only leg makes calls and none to a bridge. -/
theorem metadata_steers_iff {plan plan' : CrossChainPlan} (bare : plan.bare = plan'.bare) :
    SameDecisions plan plan' ↔ validate plan ≠ .ok [] ∨ Unsteered plan.legs plan'.legs := by
  constructor
  · intro same
    by_cases valid : validate plan = .ok []
    · exact .inr (unsteered_of_sameDecisions bare valid same)
    · exact .inl valid
  · exact sameDecisions_of_unsteered bare

def twoChains (metadata : List (String × Value)) : CrossChainPlan where
  legs := [{ chainId := 8453, metadata := metadata }, { chainId := 1 }]
  bridgeRequests := [{ token := "0xusdc", amount := 5, srcChainId := 8453, dstChainId := 1 }]

/-- A note of the solver is not read. -/
theorem note_steers_nothing :
    SameDecisions (twoChains [("note", .str "a")]) (twoChains [("note", .str "b")]) ↔
      validate (twoChains [("note", .str "a")]) ≠ .ok [] ∨
        Unsteered (twoChains [("note", .str "a")]).legs (twoChains [("note", .str "b")]).legs :=
  metadata_steers_iff rfl

/-- A solver that writes `bridge_protocol` on its first leg has the order parked before the bridge. -/
theorem named_bridge_steers : (twoChains [("bridge_protocol", .str "mock")]).bare = (twoChains []).bare ∧
    ¬ SameDecisions (twoChains [("bridge_protocol", .str "mock")]) (twoChains []) := by
  refine ⟨rfl, fun same => ?_⟩
  have named : namesBridge [("bridge_protocol", .str "mock")] = namesBridge [] :=
    named_of_several rfl rfl rfl rfl (by simp) (by simp) same
  revert named
  decide

end MinotaurSubnet.Bridge
