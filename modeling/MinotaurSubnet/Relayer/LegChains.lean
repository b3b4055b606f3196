import MinotaurSubnet.Relayer.EntryPoint
import MinotaurSubnet.Relayer.DestinationLegs
import MinotaurSubnet.Blockloop.MultiLegProposals

/-! # Which chain a leg goes to

Every leg names its chain. The approvals of a leg are asked for that chain, and the relayer
takes the chain of the order it is handed: a copy of the user's order in which only the
parameters are the leg's. So a leg reaches its chain exactly when that is the order's.
-/

namespace MinotaurSubnet.EvmRelayer

open Library Python Consensus Shared Orderbook
open Blockloop (LegPlan MultiLegPlan Action Orchestrator LegAnswers SimulationMocks setKey
  legExecutionPlan processMultiLeg)
open Library.Traced (Ensures ensures_pure ensures_emitted ensures_of_all)
open BridgeTracker (Tracker TrackerAction TrackingPlan DestAnswers executeRemainingLegs)

/-- The chains of `get_supported_chains`, with the variable their RPC url is read from. -/
def chainSpecs : List (Int × String) :=
  [(1, "ETHEREUM_RPC_URL"), (8453, "BASE_RPC_URL"), (42161, "ARBITRUM_RPC_URL"),
    (10, "OPTIMISM_RPC_URL"), (31337, "ANVIL_RPC_URL"), (964, "BITTENSOR_EVM_RPC_URL")]

/-- The keys of `get_supported_chains`. -/
def getSupportedChains (environ : String → String) : List Int :=
  (chainSpecs.filter fun spec => environ spec.2 ≠ "").map Prod.fst

def Relayer.on (relayer : Relayer) (environ : String → String) (chainId : Int) : Relayer :=
  { relayer with
    chainId := chainId
    configured := decide (chainId ∈ getSupportedChains environ)
    appIntentBase := "" }

structure LegBroadcast where
  chainId : Int
  contract : String
  tx : Tx

def legBroadcasts (relayer : Relayer) (job : Job) (trace : List (Exchange Question.Answer)) :
    List LegBroadcast :=
  (sentTxs trace).map fun tx => ⟨relayer.chainId, appAddress relayer job, tx⟩

theorem addressed_of_sent {relayer job trace result tx}
    (run : Dialogue.Runs (submitPlan relayer job) trace result) (sent : tx ∈ sentTxs trace) :
    appAddress relayer job ≠ "" := by
  intro missing
  obtain ⟨text, refused⟩ : ∃ text, submitPlan relayer job = Pure.pure (failure relayer text false) := by
    unfold submitPlan
    cases relayer.configured with
    | false => exact ⟨_, rfl⟩
    | true => exact ⟨_, if_pos missing⟩
  rw [refused] at run
  cases run
  cases sent

/-- A call of `consensus.propose` for a leg and its answer. -/
structure LegProposal where
  chainId : Int
  contractAddress : Option String
  answer : Except PyError ConsensusResult

def LegProposal.target (p : LegProposal) : Option (Int × String) :=
  orderTarget (some p.chainId) p.contractAddress

/-- The arguments of `submit_plan` for a leg, and the proposals made for legs before it. -/
structure LegCall where
  order : BookOrder
  plan : ExecutionPlan
  consensus : Option ConsensusResult
  contractAddress : Option String
  proposals : List LegProposal

def submitParams (order : BookOrder) (leg : LegPlan) : List (String × Value) :=
  let params := setKey "intent_selector" (.str leg.intentSelector) order.params
  if leg.intentParamsHex = "" then params
  else setKey "intent_params_hex" (.str leg.intentParamsHex) params

def submitOrder (order : BookOrder) (leg : LegPlan) : BookOrder :=
  { order with params := submitParams order leg }

/-- The orchestrator's `propose`. -/
def forwardProposal (plan : MultiLegPlan) (contract : Option String) : Action → Option LegProposal
  | .propose (some position) answer =>
    plan.forwardLegs[position]?.map fun leg => ⟨leg.chainId, contract, answer⟩
  | _ => none

def destProposal (contract : Option String) : TrackerAction → Option LegProposal
  | .propose (.forwardLeg _ leg) _ answer => some ⟨leg.chainId, contract, answer⟩
  | _ => none

def addressValue : Option String → Value
  | some address => .str address
  | none => .none

inductive SubmitsLeg (order : BookOrder) : LegPlan → LegCall → Prop where
  | forward {node : Orchestrator} {plan : MultiLegPlan} {mocks : SimulationMocks}
      {answers : Nat → LegAnswers} {rollbackAnswers : Nat → Except PyError Blockloop.SubmitResult}
      {contract : Option String} {before after : List Action} {position : Nat} {leg : LegPlan}
      {consensus : Option ConsensusResult} {legPlan : ExecutionPlan}
      (ran : (processMultiLeg node order plan mocks answers rollbackAnswers).trace =
        before ++ .submit (.forwardLeg position leg) consensus :: after)
      (built : legExecutionPlan order leg [] = .ok legPlan) :
      SubmitsLeg order leg {
        order := submitOrder order leg, plan := legPlan, consensus := consensus
        contractAddress := contract, proposals := before.filterMap (forwardProposal plan contract) }
  | rollback {node : Orchestrator} {plan : MultiLegPlan} {mocks : SimulationMocks}
      {answers : Nat → LegAnswers} {rollbackAnswers : Nat → Except PyError Blockloop.SubmitResult}
      {contract : Option String} {before after : List Action} {leg : LegPlan}
      {consensus : Option ConsensusResult} {legPlan : ExecutionPlan}
      (ran : (processMultiLeg node order plan mocks answers rollbackAnswers).trace =
        before ++ .submit (.rollbackLeg leg) consensus :: after)
      (built : legExecutionPlan order leg [("is_rollback", .bool true)] = .ok legPlan) :
      SubmitsLeg order leg {
        order := order, plan := legPlan, consensus := consensus
        contractAddress := contract, proposals := before.filterMap (forwardProposal plan contract) }
  | remaining {node : Tracker} {plan : TrackingPlan} {answers : Nat → DestAnswers}
      {contract : Option String} {before after : List TrackerAction} {position : Nat} {leg : LegPlan}
      {consensus : Option ConsensusResult} {legPlan : ExecutionPlan}
      {answer : Except PyError Blockloop.SubmitResult}
      (ran : (executeRemainingLegs node order (addressValue contract) plan answers).trace =
        before ++ .submit (.forwardLeg position leg) legPlan consensus answer :: after) :
      SubmitsLeg order leg {
        order := submitOrder order leg, plan := legPlan, consensus := consensus
        contractAddress := contract, proposals := before.filterMap (destProposal contract) }

/-- The job `EvmRelayer.submit_plan` makes of the call. -/
def LegCall.job (relayer : Relayer) (enc : Encoding) (call : LegCall) : Job :=
  planJob relayer enc
    (relayedOrder call.order.toOrder call.order.userSignature call.contractAddress) call.plan

/-- The transaction goes to the leg's chain, and the approvals it carries were proposed last,
    for the chain and the contract it goes to. -/
structure BoundTo (leg : LegPlan) (call : LegCall) (b : LegBroadcast) : Prop where
  chain : b.chainId = leg.chainId
  approved : ∀ result, call.consensus = some result → ∃ p, call.proposals.getLast? = some p ∧
    p.answer = .ok result ∧ p.target = some (b.chainId, b.contract)

/-- A forward leg is the plan's, and its approvals are what its own proposal has just returned;
    a rollback leg has none. -/
def Attached (plan : MultiLegPlan) (before : List Action) : Action → Prop
  | .submit (.forwardLeg position leg) consensus => plan.forwardLegs[position]? = some leg ∧
      ∀ result, consensus = some result →
        ∃ earlier, before = earlier ++ [.propose (some position) (.ok result)]
  | .submit (.rollbackLeg _) consensus => consensus = none
  | _ => True

theorem attached_of_passing (plan : MultiLegPlan) (a : Action) (passing : a.Passing) (past : List Action) :
    Attached plan past a := by
  cases a with
  | submit => exact passing.elim
  | update | suspend | propose | broadcast | substrate | track | recordExecution => trivial

section

variable {node : Orchestrator} {order : BookOrder} {plan : MultiLegPlan} {mocks : SimulationMocks}
  {answers : Nat → LegAnswers} {rollbackAnswers : Nat → Except PyError Blockloop.SubmitResult}
  {past : List Action} {position : Nat}

theorem abandon_attached {α : Type} {completed} {post : α → List Action → Prop} :
    Ensures (Attached plan) past (Blockloop.abandon order plan rollbackAnswers completed) post := by
  have undone : (Blockloop.abandon order plan rollbackAnswers completed : Blockloop.Pipeline α).All
      fun a => ∀ past, Attached plan past a :=
    Blockloop.abandon_all _ _ _ (attached_of_passing plan) (fun _ _ => rfl) completed
  exact ⟨follows_of_forall fun a member _ => undone a member _,
    fun a ended => absurd ended (Blockloop.abandon_stops _ _ _ _ _)⟩

theorem consultLeg_attached {legPlan completed answer} :
    Ensures (Attached plan) past
      (Blockloop.consultLeg node order plan rollbackAnswers position legPlan completed answer)
      fun consensus past => ∀ result, consensus = some result →
        ∃ earlier, past = earlier ++ [.propose (some position) (.ok result)] := by
  unfold Blockloop.consultLeg
  cases node.hasConsensus with
  | false => exact ensures_pure fun result none => absurd none (by simp)
  | true =>
    refine Ensures.bind (ensures_of_all (Traced.all_lift _)) fun _ past _ => ?_
    have ask : ∀ past, Ensures (Attached plan) past
        (Blockloop.askPeers order plan rollbackAnswers position completed answer)
        fun consensus past => ∀ result, consensus = some result →
          ∃ earlier, past = earlier ++ [.propose (some position) (.ok result)] := by
      intro past
      refine Ensures.bind (ensures_emitted trivial) fun _ past _ => ?_
      refine Ensures.bind (ensures_emitted trivial) fun _ now asked => ?_
      cases answer with
      | error e => exact ensures_pure fun result none => absurd none (by simp)
      | ok result =>
        dsimp only
        split
        · refine ensures_pure fun result' same => ?_
          cases same
          exact ⟨past, asked⟩
        · exact abandon_attached
    cases node.hasPeers with
    | true => exact Ensures.bind (ensures_emitted trivial) fun _ past _ => ask past
    | false => exact ask past

theorem submitLeg_attached {leg : LegPlan} {completed : List LegPlan}
    {consensus : Option ConsensusResult} {answer : Except PyError Blockloop.SubmitResult}
    (listed : plan.forwardLegs[position]? = some leg)
    (asked : ∀ result, consensus = some result →
      ∃ earlier, past = earlier ++ [.propose (some position) (.ok result)]) :
    Ensures (Attached plan) past
      (Blockloop.submitLeg order plan rollbackAnswers position leg completed consensus answer)
      fun _ _ => True := by
  refine Ensures.bind (ensures_emitted ⟨listed, asked⟩) fun _ past _ => ?_
  refine Ensures.bind (ensures_emitted trivial) fun _ past _ => ?_
  cases answer with
  | error e => exact abandon_attached
  | ok result =>
    dsimp only
    split
    · exact ensures_pure trivial
    · exact abandon_attached

theorem forwardLeg_attached {leg progress} (listed : plan.forwardLegs[position]? = some leg) :
    Ensures (Attached plan) past
      (Blockloop.forwardLeg node order plan mocks answers rollbackAnswers position leg progress)
      fun _ _ => True := by
  have prepares := Blockloop.prepareLeg_all node order plan mocks answers
    (P := fun a => ∀ past, Attached plan past a) (attached_of_passing plan)
    (fun _ _ _ _ _ _ => trivial) position leg progress
  refine Ensures.bind (ensures_of_all prepares) fun ready past _ => ?_
  refine Ensures.bind consultLeg_attached fun consensus past asked => ?_
  refine Ensures.bind (submitLeg_attached listed asked) fun result past _ => ?_
  exact ensures_pure trivial

theorem forwardLegs_attached {legs progress} (left : plan.forwardLegs.drop position = legs) :
    Ensures (Attached plan) past
      (Blockloop.forwardLegs node order plan mocks answers rollbackAnswers position legs progress)
      fun _ _ => True := by
  induction legs generalizing position past progress with
  | nil => exact ensures_pure trivial
  | cons leg rest ih =>
    have listed : plan.forwardLegs[position]? = some leg := by
      rw [← Nat.add_zero position, ← List.getElem?_drop, left]
      rfl
    refine Ensures.bind (forwardLeg_attached listed) fun progress past _ => ih ?_
    rw [← List.tail_drop, left, List.tail_cons]

theorem processMultiLeg_attached :
    Follows (Attached plan) (processMultiLeg node order plan mocks answers rollbackAnswers).trace := by
  have whole : Ensures (Attached plan) []
      (processMultiLeg node order plan mocks answers rollbackAnswers) fun _ _ => True := by
    refine Ensures.bind (forwardLegs_attached List.drop_zero) fun done past _ => ?_
    refine Ensures.bind (ensures_emitted trivial) fun _ past _ => ?_
    refine Ensures.bind (ensures_emitted trivial) fun _ past _ => ?_
    exact ensures_pure trivial
  exact whole.1

end

section

variable {node : Tracker} {order : BookOrder} {past : List TrackerAction}

/-- The approvals of a leg the tracker submits are what its own proposal has just returned. -/
def DestAttached (before : List TrackerAction) : TrackerAction → Prop
  | .submit what _ consensus _ => ∀ result, consensus = some result →
      ∃ earlier planHash, before = earlier ++ [.propose what planHash (.ok result)]
  | _ => True

theorem destAttached_of_escrow (a : TrackerAction) (escrow : a.Escrow) (past : List TrackerAction) :
    DestAttached past a := by
  cases a with
  | submit => exact escrow.elim
  | update | checkStatus | escrowDeposit | proposeRelease | escrowRelease | seedTokens | propose =>
    trivial

theorem consultDest_attached {contract what plan answer} :
    Ensures DestAttached past (BridgeTracker.consultDest node contract what plan answer)
      fun consensus past => ∀ result, consensus = some result →
        ∃ earlier planHash, past = earlier ++ [.propose what planHash (.ok result)] := by
  unfold BridgeTracker.consultDest
  cases node.hasConsensus && contract.truthy with
  | false => exact ensures_pure fun result none => nomatch none
  | true =>
    cases hashPlan node.host node.jsonDumps plan with
    | none => exact ensures_pure fun result none => nomatch none
    | some planHash =>
      refine ⟨follows_of_forall ?_, ?_⟩
      · intro a member before
        obtain rfl := List.mem_singleton.mp member
        trivial
      · intro consensus ended result same
        cases answer with
        | error e =>
          obtain rfl : none = consensus := Except.ok.inj ended
          cases same
        | ok given =>
          obtain rfl : some given = consensus := Except.ok.inj ended
          cases same
          exact ⟨past, planHash, rfl⟩

theorem destLeg_attached {contract escrows position leg answers} :
    Ensures DestAttached past (BridgeTracker.destLeg node order contract escrows position leg answers)
      fun _ _ => True := by
  unfold BridgeTracker.destLeg
  refine Ensures.bind (ensures_of_all (Traced.all_lift _)) fun plan past _ => ?_
  split
  · obtain ⟨calls, escrow, deposited⟩ :=
      BridgeTracker.escrowLeg_eq node contract escrows leg answers.escrow
    have deposits : (BridgeTracker.escrowLeg node contract escrows leg answers.escrow).All
        fun a => ∀ past, DestAttached past a := by
      rw [deposited]
      exact fun a member => destAttached_of_escrow a (escrow a member)
    refine Ensures.bind (ensures_of_all deposits) fun _ past _ => ?_
    refine Ensures.bind consultDest_attached fun consensus past asked => ?_
    refine Ensures.bind (ensures_emitted asked) fun _ past _ => ?_
    cases answers.submit with
    | error e => exact Ensures.bind (ensures_emitted trivial) fun _ past _ => ensures_pure trivial
    | ok result =>
      dsimp only
      split
      · exact ensures_pure trivial
      · exact Ensures.bind (ensures_emitted trivial) fun _ past _ => ensures_pure trivial
  · exact Ensures.bind (ensures_emitted trivial) fun _ past _ => ensures_pure trivial

theorem destLegs_attached {contract escrows} {answers : Nat → DestAnswers} {position legs txHash} :
    Ensures DestAttached past
      (BridgeTracker.destLegs node order contract escrows answers position legs txHash)
      fun _ _ => True := by
  induction legs generalizing past position txHash with
  | nil => exact ensures_pure trivial
  | cons leg rest ih =>
    refine Ensures.bind destLeg_attached fun result past _ => ?_
    cases result with
    | none => exact ensures_pure trivial
    | some result => exact ih

theorem executeRemainingLegs_attached {contract plan} {answers : Nat → DestAnswers} :
    Follows DestAttached (executeRemainingLegs node order contract plan answers).trace := by
  have whole : Ensures DestAttached [] (executeRemainingLegs node order contract plan answers)
      fun _ _ => True := by
    refine Ensures.bind (ensures_emitted trivial) fun _ past _ => ?_
    refine Ensures.bind destLegs_attached fun done past _ => ?_
    cases done with
    | none => exact ensures_pure trivial
    | some txHash => exact ⟨(ensures_emitted trivial).1, fun _ _ => trivial⟩
  exact whole.1

end

theorem SubmitsLeg.provenance {order leg call} (submits : SubmitsLeg order leg call) :
    call.order.chainId = order.chainId ∧ ∀ result, call.consensus = some result →
      call.proposals.getLast? = some ⟨leg.chainId, call.contractAddress, .ok result⟩ := by
  cases submits with
  | forward ran built =>
    refine ⟨rfl, fun result attached => ?_⟩
    obtain ⟨listed, asked⟩ := processMultiLeg_attached _ _ _ ran
    obtain ⟨earlier, rfl⟩ := asked result attached
    simp [List.filterMap_append, forwardProposal, listed]
  | rollback ran built =>
    refine ⟨rfl, fun result attached => ?_⟩
    have bare : _ = none := processMultiLeg_attached _ _ _ ran
    exact absurd (bare.symm.trans attached) (by simp)
  | remaining ran =>
    refine ⟨rfl, fun result attached => ?_⟩
    obtain ⟨earlier, planHash, rfl⟩ := executeRemainingLegs_attached _ _ _ ran result attached
    simp [List.filterMap_append, destProposal]

/-- A transaction sent for a leg of any plan goes to the leg's chain, with approvals for where it
    goes, exactly when the leg is on the chain of the user's order. -/
theorem leg_bound_iff {environ : String → String} {relayer : Relayer} {enc : Encoding}
    {order : BookOrder} {leg : LegPlan} {call : LegCall} {trace : List (Exchange Question.Answer)}
    {result : SubmitResult} {b : LegBroadcast} (submits : SubmitsLeg order leg call)
    (run : Dialogue.Runs (submitPlan (relayer.on environ call.order.chainId) (call.job relayer enc))
      trace result)
    (sent : b ∈ legBroadcasts (relayer.on environ call.order.chainId) (call.job relayer enc) trace) :
    BoundTo leg call b ↔ leg.chainId = order.chainId := by
  obtain ⟨copied, asked⟩ := submits.provenance
  obtain ⟨tx, inTrace, rfl⟩ := List.mem_map.mp sent
  have chain : (relayer.on environ call.order.chainId).chainId = order.chainId := copied
  constructor
  · intro bound
    exact bound.chain.symm.trans chain
  · intro same
    refine ⟨chain.trans same.symm, fun given attached => ⟨_, asked given attached, rfl, ?_⟩⟩
    have addressed := addressed_of_sent run inTrace
    have named : call.contractAddress =
        some (appAddress (relayer.on environ call.order.chainId) (call.job relayer enc)) := by
      have address : (call.job relayer enc).contractAddress = call.contractAddress := rfl
      unfold appAddress at addressed ⊢
      rw [address] at addressed ⊢
      cases contract : call.contractAddress with
      | none => simp [contract, Relayer.on] at addressed
      | some text =>
        simp only [contract] at addressed
        by_cases empty : text = ""
        · simp [empty, Relayer.on] at addressed
        · simp [empty]
    simp only [LegProposal.target, orderTarget, named, if_neg addressed, chain, same]

/-- The leg at `position` is submitted. -/
def submitsForward (position : Nat) : Action → Bool
  | .submit (.forwardLeg p _) _ => p == position
  | _ => false

def twoLegRun : Blockloop.Pipeline Bool :=
  processMultiLeg Blockloop.twoLegNode Blockloop.twoLegOrder Blockloop.twoLegPlan {}
    (Blockloop.legAnswers (.ok { reached := true })) fun _ => .ok { success := true }

theorem submitsLeg_of_run (position : Nat) {leg legPlan}
    (submitted : twoLegRun.trace.any (submitsForward position) = true)
    (listed : Blockloop.twoLegPlan.forwardLegs[position]? = some leg)
    (built : legExecutionPlan Blockloop.twoLegOrder leg [] = .ok legPlan) :
    ∃ consensus proposals, SubmitsLeg Blockloop.twoLegOrder leg {
      order := submitOrder Blockloop.twoLegOrder leg, plan := legPlan, consensus := consensus
      contractAddress := some "0xapp", proposals := proposals } := by
  obtain ⟨a, member, named⟩ := List.any_eq_true.mp submitted
  cases a with
  | submit what consensus =>
    cases what with
    | forwardLeg p leg' =>
      obtain rfl : p = position := beq_iff_eq.mp named
      obtain ⟨before, after, split⟩ := List.append_of_mem member
      obtain rfl : leg' = leg :=
        Option.some.inj ((processMultiLeg_attached _ _ _ split).1.symm.trans listed)
      exact ⟨consensus, _, .forward split built⟩
    | order | sourceLegs | rollbackLeg => cases named
  | update | suspend | propose | broadcast | substrate | track | recordExecution => cases named

def chainOneRelayer : Relayer := plainRelayer.on (fun _ => "http://rpc") 1

def legJob (leg : LegPlan) (legPlan : ExecutionPlan) : Job :=
  planJob plainRelayer spellingEncoding
    (relayedOrder (submitOrder Blockloop.twoLegOrder leg).toOrder "" (some "0xapp")) legPlan

def legTrace (leg : LegPlan) (legPlan : ExecutionPlan) : List (Exchange Question.Answer) :=
  Dialogue.transcript calmNode (submitPlan chainOneRelayer (legJob leg legPlan))

def sendsLeg (leg : LegPlan) : Bool :=
  match legExecutionPlan Blockloop.twoLegOrder leg [] with
  | .ok legPlan => !(sentTxs (legTrace leg legPlan)).isEmpty
  | .error _ => false

theorem exists_of_sendsLeg {leg} (sends : sendsLeg leg = true) :
    ∃ legPlan tx, legExecutionPlan Blockloop.twoLegOrder leg [] = .ok legPlan ∧
      tx ∈ sentTxs (legTrace leg legPlan) := by
  unfold sendsLeg at sends
  split at sends
  · next legPlan built =>
    cases txs : sentTxs (legTrace leg legPlan) with
    | nil => simp [txs] at sends
    | cons tx rest => exact ⟨legPlan, tx, built, by simp [txs]⟩
  · cases sends

/-- The bridge leg on 8453 is sent on chain 1. -/
theorem bridge_leg_sent_elsewhere :
    ¬ ∀ (environ : String → String) (relayer : Relayer) (enc : Encoding) (order : BookOrder)
      (leg : LegPlan) (call : LegCall) (trace : List (Exchange Question.Answer)) (result : SubmitResult)
      (b : LegBroadcast), SubmitsLeg order leg call →
      Dialogue.Runs (submitPlan (relayer.on environ call.order.chainId) (call.job relayer enc))
        trace result →
      b ∈ legBroadcasts (relayer.on environ call.order.chainId) (call.job relayer enc) trace →
      BoundTo leg call b := by
  intro always
  obtain ⟨legPlan, tx, built, sent⟩ := exists_of_sendsLeg
    (by decide +kernel : sendsLeg { legIndex := 0, chainId := 8453 } = true)
  obtain ⟨consensus, proposals, submits⟩ := submitsLeg_of_run 0 (by decide +kernel) rfl built
  have bound := always (fun _ => "http://rpc") plainRelayer spellingEncoding _ _ _ _ _
    ⟨1, appAddress chainOneRelayer (legJob { legIndex := 0, chainId := 8453 } legPlan), tx⟩ submits
    (Dialogue.runs_transcript _) (List.mem_map_of_mem sent)
  have chain : (1 : Int) = 8453 := bound.chain
  exact absurd chain (by decide)

/-- The swap leg on 1 is sent where it belongs. -/
theorem leg_bound_iff_swap :
    ∃ call b, SubmitsLeg Blockloop.twoLegOrder { legIndex := 1, chainId := 1 } call ∧
      BoundTo { legIndex := 1, chainId := 1 } call b := by
  obtain ⟨legPlan, tx, built, sent⟩ := exists_of_sendsLeg
    (by decide +kernel : sendsLeg { legIndex := 1, chainId := 1 } = true)
  obtain ⟨consensus, proposals, submits⟩ := submitsLeg_of_run 1 (by decide +kernel) rfl built
  refine ⟨_, ⟨1, appAddress chainOneRelayer (legJob { legIndex := 1, chainId := 1 } legPlan), tx⟩,
    submits, ?_⟩
  have swapped := @leg_bound_iff (fun _ => "http://rpc") plainRelayer spellingEncoding _ _ _ _ _ _
    submits (Dialogue.runs_transcript _) (List.mem_map_of_mem sent)
  exact swapped.mpr rfl

end MinotaurSubnet.EvmRelayer
