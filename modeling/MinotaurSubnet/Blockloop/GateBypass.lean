import MinotaurSubnet.Blockloop.OrderPipeline
import MinotaurSubnet.Blockloop.MultiLegProposals
import MinotaurSubnet.Library.SortedBy
import Mathlib.Data.List.Dedup

/-! # Which plans get past the gates

A plan goes to the relayer only past the gates that are due for it: the compiler and the
cross-chain flag if it touches several chains, the fee certification if the order carries a
fee, the on-chain score if a contract can give one. A plan of several legs leaves `process`
before the last three, whoever put them there; one that is not split is never asked which
chains it touches.
-/

namespace MinotaurSubnet.Blockloop

open Library Python Consensus Shared Orderbook

inductive Gate where
  | compiled (plan : MultiLegPlan)
  | crossChainAllowed
  | feeCertified
  | onChainScored

inductive GateEvent where
  | call (a : Action)
  | passed (gate : Gate)

abbrev GatedPipeline := Traced GateEvent Stop

def calls {α : Type} (x : Pipeline α) : GatedPipeline α := x.relabel .call

def passed (gate : Gate) : GatedPipeline Unit := .emit (.passed gate)

def GateEvent.call? : GateEvent → Option Action
  | .call a => some a
  | .passed _ => none

def unmarked {α : Type} (x : GatedPipeline α) : Pipeline α := x.erase GateEvent.call?

def compiledTo (node : Processor) (compile : Except String (MultiLegPlan × SimulationMocks))
    (generated : GeneratedPlan) : Option MultiLegPlan :=
  if generated.crossChainPlan && node.hasCompiler then
    match compile with
    | .ok (multiLeg, _) => some multiLeg
    | .error _ => none
  else none

section

variable (node : Processor) (order : BookOrder) (answers : OrderAnswers)

def markCompiled (generated : GeneratedPlan) : GatedPipeline Unit :=
  match compiledTo node answers.compile generated with
  | some multiLeg => passed (.compiled multiLeg)
  | none => return ()

def markAllowed (plan : GeneratedPlan) : GatedPipeline Unit :=
  if plan.crossChain then passed .crossChainAllowed else return ()

def markCertified (fee : Int) : GatedPipeline Unit :=
  if 0 < fee then passed .feeCertified else return ()

/-- `processPlan`, with its gates. -/
def gatedPlan (threshold : Int) (generated : GeneratedPlan) : GatedPipeline Bool := do
  let fee ← calls (Pipeline.raising (order.param "platform_fee_wei" (.int 0)).toInt)
  calls (policyGate answers)
  calls (setStatus .solved)
  let plan ← calls (compilePlan node answers generated)
  markCompiled node answers generated
  calls (multiLegPath node order answers plan)
  let simulation ← calls (simulatePlan node answers plan)
  markAllowed plan
  calls (certifyFeeGate answers fee)
  markCertified fee
  calls (scorePlan order answers simulation)
  calls (onChainScoreGate node order answers threshold simulation)
  passed .onChainScored
  let consensus ← calls (consultOrder node order answers)
  calls (submitApproved node order answers plan simulation consensus)

/-- `processOrder`, with its gates. -/
def gatedProcess : GatedPipeline Bool :=
  match answers.app with
  | none => calls (reject s!"App not found: {order.appId}")
  | some threshold => do
      calls (fundsGate order answers)
      let generated ← calls (generatePlan order answers)
      gatedPlan node order answers threshold generated

theorem unmarked_bind {α β : Type} (x : GatedPipeline α) (next : α → GatedPipeline β) :
    unmarked (x >>= next) = unmarked x >>= fun a => unmarked (next a) :=
  Traced.erase_bind _ _ _

theorem unmarked_calls {α : Type} (x : Pipeline α) : unmarked (calls x) = x := by
  have kept : ∀ a, GateEvent.call? (.call a) = some a := fun _ => rfl
  exact Traced.erase_relabel kept x

theorem unmarked_passed (gate : Gate) : unmarked (passed gate) = Pure.pure () :=
  Traced.erase_emit rfl

theorem unmarked_markCompiled (generated : GeneratedPlan) :
    unmarked (markCompiled node answers generated) = Pure.pure () := by
  unfold markCompiled
  cases compiledTo node answers.compile generated with
  | none => rfl
  | some multiLeg => exact unmarked_passed _

theorem unmarked_markAllowed (plan : GeneratedPlan) : unmarked (markAllowed plan) = Pure.pure () := by
  unfold markAllowed
  cases plan.crossChain with
  | false => rfl
  | true => exact unmarked_passed _

theorem unmarked_markCertified (fee : Int) : unmarked (markCertified fee) = Pure.pure () := by
  unfold markCertified
  split
  · exact unmarked_passed _
  · rfl

theorem unmarked_gatedPlan (threshold : Int) (generated : GeneratedPlan) :
    unmarked (gatedPlan node order answers threshold generated) =
      processPlan node order answers threshold generated := by
  simp only [gatedPlan, processPlan, unmarked_bind, unmarked_calls, unmarked_passed,
    unmarked_markCompiled, unmarked_markAllowed, unmarked_markCertified, Traced.pure_bind]

theorem unmarked_gatedProcess :
    unmarked (gatedProcess node order answers) = processOrder node order answers := by
  unfold gatedProcess processOrder
  cases answers.app with
  | none => exact unmarked_calls _
  | some threshold => simp only [unmarked_bind, unmarked_calls, unmarked_gatedPlan]

end

/-- An entry of `legs` in the metadata of a plan. -/
structure PlanLeg where
  runtime : String := ""
  type : String := ""
  chainId : Option Value := none
  interactionIndices : List Int := []
  substrateActions : List String := []

structure SolverPlan extends GeneratedPlan where
  interactions : List Interaction := []
  legs : List PlanLeg := []

def chainsOf (interactions : List Interaction) : List Value :=
  (interactions.map Interaction.chainId).filter Value.truthy

namespace SolverPlan

variable (plan : SolverPlan)

def chains : List Value := chainsOf plan.interactions ++ plan.legs.filterMap PlanLeg.chainId

def substrateActions : List (List String) :=
  (plan.legs.filter fun leg => leg.runtime == "substrate").map PlanLeg.substrateActions

def sourceIndices : List Int :=
  (plan.legs.filter fun leg => leg.runtime != "substrate" &&
    (leg.type == "source" || leg.type == "bridge")).flatMap PlanLeg.interactionIndices

def sourceInteractions : Except PyError (List Interaction) := do
  let picked ← (sortedBy id plan.sourceIndices.dedup).mapM (pickInteraction plan.interactions)
  return picked.filterMap id

/-- Whether the source legs name an interaction, which are then picked. -/
def source : Except PyError Bool := do
  if plan.sourceIndices.isEmpty then return false
  let _ ← plan.sourceInteractions
  return true

theorem source_eq_true : plan.source = .ok true ↔ plan.sourceIndices ≠ [] ∧
    ∀ i ∈ plan.sourceIndices, -(plan.interactions.length : Int) ≤ i := by
  have picks : (∃ picked, plan.sourceInteractions = .ok picked) ↔
      ∀ i ∈ plan.sourceIndices, -(plan.interactions.length : Int) ≤ i := by
    have each := @exists_mapM_eq_ok _ _ _ (pickInteraction plan.interactions)
      (sortedBy id plan.sourceIndices.dedup)
    simp only [mem_sortedBy, List.mem_dedup, pickInteraction_ok] at each
    rw [← each]
    unfold sourceInteractions
    cases (sortedBy id plan.sourceIndices.dedup).mapM (pickInteraction plan.interactions) with
    | error e => simp [bind, Except.bind]
    | ok picked => simp [bind, Except.bind, pure, Except.pure]
  rw [← picks]
  unfold source
  cases plan.sourceIndices with
  | nil => simp [pure, Except.pure]
  | cons i rest =>
    cases plan.sourceInteractions with
    | error e => simp [bind, Except.bind]
    | ok picked => simp [bind, Except.bind, pure, Except.pure]

end SolverPlan

/-- The chains of a plan's legs; the rollback legs are sent to the relayer as well. -/
def MultiLegPlan.chains (plan : MultiLegPlan) : List Value :=
  (plan.forwardLegs ++ plan.rollbackLegs).flatMap fun leg =>
    .int leg.chainId :: chainsOf leg.interactions

def MultiLegPlan.Carries (plan : MultiLegPlan) (interactions : List Interaction) : Prop :=
  ∀ ix ∈ interactions, ∃ leg ∈ plan.forwardLegs, ix ∈ leg.interactions

def SeveralChains (chains : List Value) : Prop := ∃ a ∈ chains, ∃ b ∈ chains, a ≠ b

structure Cleared (fee : Int) (scored : Prop) (chains : List Value) (isPlan : MultiLegPlan → Prop)
    (before : List GateEvent) : Prop where
  compiled : SeveralChains chains → ∃ compiled, .passed (.compiled compiled) ∈ before ∧ isPlan compiled
  allowed : SeveralChains chains → .passed .crossChainAllowed ∈ before
  certified : 0 < fee → .passed .feeCertified ∈ before
  onChain : scored → .passed .onChainScored ∈ before

inductive Settlement where
  | single
  | legs (plan : MultiLegPlan)

/-- `multi_leg_plan` with more than one forward leg, or the plan as it is. -/
def GeneratedPlan.settlement (plan : GeneratedPlan) : Option Settlement :=
  match plan.multiLeg with
  | .error _ => none
  | .ok none => some .single
  | .ok (some multiLeg) =>
    if 1 < multiLeg.forwardLegs.length then some (.legs multiLeg) else some .single

/-- A leg that a willing simulator and scorer let through can be built, simulated and hashed. -/
def LegStarts (node : Orchestrator) (order : BookOrder) (mocks : SimulationMocks) (leg : LegPlan) :
    Prop :=
  ∃ legPlan bridge, legExecutionPlan order leg [] = .ok legPlan ∧ isBridgeLeg mocks leg = .ok bridge ∧
    (node.hasSimulator = false →
      ∃ simulation, buildMockSimulation node.discounted legPlan (.dict order.params) = .ok simulation) ∧
    (node.hasConsensus = true → ∃ hash, hashPlan node.host node.jsonDumps legPlan = some hash)

/-- What one pass is about, and what the compiler says if it is asked. -/
structure Pass where
  node : Processor
  order : BookOrder
  contract : String := ""
  plan : SolverPlan
  compile : Except String (MultiLegPlan × SimulationMocks) := .error ""
  hasSubstrateRelayer : Bool := false

namespace Pass

variable (pass : Pass)

structure Answered (answers : OrderAnswers) : Prop where
  generate : answers.generate = .ok (some pass.plan.toGeneratedPlan)
  contract : answers.contract = pass.contract
  compile : answers.compile = pass.compile
  relayer : answers.crossChain.hasSubstrateRelayer = pass.hasSubstrateRelayer
  source : answers.crossChain.source = pass.plan.source
  substrate : answers.crossChain.substrateLegs.map (List.map Prod.fst) = pass.plan.substrateActions

def fee : Except PyError Int := (pass.order.param "platform_fee_wei" (.int 0)).toInt

/-- The order cannot be relayed without an on-chain score. -/
def ScoreGated : Prop := pass.contract ≠ "" ∧ pass.node.failClosed = true

def compiledTo : Option MultiLegPlan :=
  Blockloop.compiledTo pass.node pass.compile pass.plan.toGeneratedPlan

def compiledPlan : Option GeneratedPlan :=
  if pass.plan.crossChainPlan && pass.node.hasCompiler then
    match pass.compile with
    | .ok (multiLeg, mocks) => some {
        pass.plan.toGeneratedPlan with
          crossChainPlan := false, multiLeg := .ok (some multiLeg), mocks, crossChain := true }
    | .error _ => none
  else some pass.plan.toGeneratedPlan

def settlement : Option Settlement := pass.compiledPlan.bind GeneratedPlan.settlement

def ClearedBy (before : List GateEvent) : Prop :=
  match pass.fee, pass.settlement with
  | .ok fee, some .single =>
    Cleared fee pass.ScoreGated pass.plan.chains (·.Carries pass.plan.interactions) before
  | .ok fee, some (.legs plan) => Cleared fee pass.ScoreGated plan.chains (· = plan) before
  | _, _ => False

def Gated (before : List GateEvent) : GateEvent → Prop
  | .call (.submit _ _) => pass.ClearedBy before
  | _ => True

/-- The ways around the gates. -/
inductive Bypasses : Prop where
  /-- A plan of several legs, with a gate due after the exit for such plans. -/
  | legs {fee : Int} {compiled : GeneratedPlan} {plan : MultiLegPlan} {first : LegPlan}
      {rest : List LegPlan} (priced : pass.fee = .ok fee) (came : pass.compiledPlan = some compiled)
      (several : compiled.settlement = some (.legs plan)) (forward : plan.forwardLegs = first :: rest)
      (starts : LegStarts pass.node.orchestrator pass.order compiled.mocks first)
      (due : SeveralChains plan.chains ∨ 0 < fee ∨ pass.ScoreGated)
  /-- A plan in one piece whose calls are on several chains and were not compiled. -/
  | single {fee : Int} {compiled : GeneratedPlan} (priced : pass.fee = .ok fee)
      (came : pass.compiledPlan = some compiled) (one : compiled.settlement = some .single)
      (chains : SeveralChains pass.plan.chains)
      (unchecked : ∀ plan, pass.compiledTo = some plan → ¬ plan.Carries pass.plan.interactions)
      (relayed : (pass.order.param "_user_submit").truthy = false)
      (declared : compiled.crossChain = true → pass.node.crossChainEnabled = true ∧
        (pass.plan.substrateActions = [] ∨ pass.hasSubstrateRelayer = true) ∧
        pass.plan.sourceIndices ≠ [] ∧
        ∀ i ∈ pass.plan.sourceIndices, -(pass.plan.interactions.length : Int) ≤ i)

end Pass

def Action.Quiet : Action → Prop
  | .submit _ _ => False
  | _ => True

theorem Action.Idle.quiet {a : Action} (idle : a.Idle) : a.Quiet := by
  cases a with
  | submit => exact idle.elim
  | update | suspend | propose | broadcast | substrate | track | recordExecution => trivial

theorem Action.Waiting.quiet {a : Action} (waiting : a.Waiting) : a.Quiet := by
  cases a with
  | submit => exact waiting.elim
  | update | suspend | propose | broadcast | substrate | track | recordExecution => trivial

theorem quiet_of_staged {α : Type} {x : Pipeline α} (staged : x.All Action.Staged) : x.All Action.Quiet :=
  staged.imp fun _ staged => staged.waiting.quiet

theorem quiet_of_waiting {α : Type} {x : Pipeline α} (waiting : x.All Action.Waiting) :
    x.All Action.Quiet := waiting.imp fun _ => Action.Waiting.quiet

theorem raising_quiet {α : Type} (x : Except PyError α) : (Pipeline.raising x).All Action.Quiet :=
  Traced.all_lift _

theorem raising_bind_ok {α β : Type} (a : α) (next : α → Pipeline β) :
    Pipeline.raising (.ok a) >>= next = next a := by
  have ended : (Pipeline.raising (.ok a)).result = .ok a := rfl
  rw [Traced.bind_ok ended]
  rfl

theorem emit_quiet {a : Action} (quiet : a.Quiet) : (Traced.emit a : Pipeline Unit).All Action.Quiet :=
  Traced.all_emit.mpr quiet

theorem setStatus_quiet (status : OrderStatus) : (setStatus status).All Action.Quiet :=
  emit_quiet trivial

theorem optional_quiet {α : Type} {p : Prop} [Decidable p] (a : Action) {next : Unit → Pipeline α}
    (quiet : a.Quiet) (rest : (next ()).All Action.Quiet) :
    (if p then Traced.emit a >>= next else next () : Pipeline α).All Action.Quiet := by
  split
  · exact Traced.All.bind (emit_quiet quiet) fun _ _ => rest
  · exact rest

section

variable {node : Orchestrator} {order : BookOrder} {plan : MultiLegPlan} {mocks : SimulationMocks}
  {answers : Nat → LegAnswers} {rollbackAnswers : Nat → Except PyError SubmitResult}

theorem prepareLeg_quiet (position : Nat) (leg : LegPlan) :
    (prepareLeg node order plan mocks answers position leg {}).All Action.Quiet := by
  have free : bridgeDependency [] leg = none := by
    simp [bridgeDependency]
  refine Traced.All.bind (emit_quiet trivial) fun _ _ => ?_
  refine Traced.All.bind (raising_quiet _) fun legPlan _ => ?_
  refine Traced.All.bind ?_ fun _ _ => ?_
  · unfold awaitBridge
    rw [free]
    exact Traced.all_pure _
  refine Traced.All.bind (raising_quiet _) fun bridge _ => ?_
  have simulates := simulateLeg_passing node order legPlan (answers position).simulate
  refine Traced.All.bind (simulates.imp fun _ passing => passing.idle.quiet) fun simulation _ => ?_
  have scores := scoreLeg_passing bridge simulation (answers position).score
  exact Traced.All.bind (scores.imp fun _ passing => passing.idle.quiet) fun _ _ => Traced.all_pure _

theorem prepareLeg_ends {position leg ready}
    (ended : (prepareLeg node order plan mocks answers position leg {}).result = .ok ready) :
    legExecutionPlan order leg [] = .ok ready.1 ∧ (∃ bridge, isBridgeLeg mocks leg = .ok bridge) ∧
      (node.hasSimulator = false → ∃ simulation,
        buildMockSimulation node.discounted ready.1 (.dict order.params) = .ok simulation) := by
  unfold prepareLeg at ended
  simp only [Traced.result_bind_eq_ok, Pipeline.result_raising_eq_ok, simulateLeg_eq_ok,
    Traced.result_pure, Except.ok.injEq] at ended
  obtain ⟨_, _, legPlan, planned, _, _, bridge, bridged, simulation, simulated, _, _, rfl⟩ := ended
  refine ⟨planned, ⟨bridge, bridged⟩, fun without => ⟨simulation, ?_⟩⟩
  simpa [legSimulation, without] using simulated

theorem consultLeg_hashes {position : Nat} {legPlan : ExecutionPlan} {completed : List LegPlan}
    {answer : Except PyError ConsensusResult} (configured : node.hasConsensus = true)
    (runs : (∃ a, a ∈ (consultLeg node order plan rollbackAnswers position legPlan completed
        answer).trace) ∨
      ∃ consensus, (consultLeg node order plan rollbackAnswers position legPlan completed
        answer).result = .ok consensus) :
    ∃ hash, hashPlan node.host node.jsonDumps legPlan = some hash := by
  cases hashed : hashPlan node.host node.jsonDumps legPlan with
  | some hash => exact ⟨hash, rfl⟩
  | none =>
    unfold consultLeg at runs
    rw [if_pos configured, hashed] at runs
    rw [Traced.bind_error (x := Pipeline.raising _) rfl] at runs
    simp [Pipeline.raising] at runs

theorem LegStarts.of_submit {first : LegPlan} {rest : List LegPlan} {what : Submission}
    {consensus : Option ConsensusResult}
    (sent : .submit what consensus ∈
      (forwardLegs node order plan mocks answers rollbackAnswers 0 (first :: rest) {}).trace) :
    LegStarts node order mocks first := by
  have starts : ∀ ready, (prepareLeg node order plan mocks answers 0 first {}).result = .ok ready →
      (node.hasConsensus = true → ∃ hash, hashPlan node.host node.jsonDumps ready.1 = some hash) →
      LegStarts node order mocks first := by
    intro ready ended hashes
    obtain ⟨planned, ⟨bridge, bridged⟩, mock⟩ := prepareLeg_ends ended
    exact ⟨ready.1, bridge, planned, bridged, mock, hashes⟩
  unfold forwardLegs at sent
  rcases Traced.mem_bind.mp sent with here | ⟨progress, went, later⟩
  · unfold forwardLeg at here
    rcases Traced.mem_bind.mp here with preparing | ⟨ready, ended, on⟩
    · exact (prepareLeg_quiet 0 first _ preparing).elim
    · refine starts ready ended fun configured => ?_
      rcases Traced.mem_bind.mp on with consulting | ⟨consensus, consulted, _⟩
      · exact consultLeg_hashes configured (.inl ⟨_, consulting⟩)
      · exact consultLeg_hashes configured (.inr ⟨consensus, consulted⟩)
  · unfold forwardLeg at went
    obtain ⟨ready, ended, on⟩ := Traced.result_bind_eq_ok.mp went
    obtain ⟨consensus, consulted, _⟩ := Traced.result_bind_eq_ok.mp on
    exact starts ready ended fun configured => consultLeg_hashes configured (.inr ⟨consensus, consulted⟩)

end

end MinotaurSubnet.Blockloop
