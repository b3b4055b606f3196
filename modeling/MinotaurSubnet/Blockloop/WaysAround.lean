import MinotaurSubnet.Blockloop.GateCompleteness
import MinotaurSubnet.Blockloop.Cancellation

/-! # The ways around the gates lead to the relayer

When every service answers well, a plan that gets around a gate is submitted, and the
history before its submission lacks the mark of that gate.
-/

namespace MinotaurSubnet.Blockloop

open Library Python Consensus Shared Orderbook

section

variable {pass : Pass} {answers : OrderAnswers}

theorem calls_all {α : Type} (x : Pipeline α) {P : GateEvent → Prop} (always : ∀ a, P (.call a)) :
    (calls x).All P := by
  intro e member
  obtain ⟨a, -, rfl⟩ := List.mem_map.mp member
  exact always a

theorem call_mem_gatedProcess {a} :
    .call a ∈ (gatedProcess pass.node pass.order answers).trace ↔
      a ∈ (processOrder pass.node pass.order answers).trace := by
  have erased := congrArg Traced.trace (unmarked_gatedProcess pass.node pass.order answers)
  rw [← erased]
  constructor
  · intro member
    exact List.mem_filterMap.mpr ⟨.call a, member, rfl⟩
  · intro member
    obtain ⟨e, marked, kept⟩ := List.mem_filterMap.mp member
    cases e with
    | call b =>
      cases kept
      exact marked
    | passed gate => cases kept

def Pass.TrueMark (pass : Pass) : GateEvent → Prop
  | .passed (.compiled plan) => pass.compiledTo = some plan
  | _ => True

theorem gatedPlan_trueMarks (answered : pass.Answered answers) (threshold : Int) :
    (gatedPlan pass.node pass.order answers threshold pass.plan.toGeneratedPlan).All
      pass.TrueMark := by
  have called : ∀ {α : Type} (x : Pipeline α), (calls x).All pass.TrueMark :=
    fun x => calls_all x fun _ => trivial
  refine Traced.All.bind (called _) fun fee _ => ?_
  refine Traced.All.bind (called _) fun _ _ => ?_
  refine Traced.All.bind (called _) fun _ _ => ?_
  refine Traced.All.bind (called _) fun plan _ => ?_
  refine Traced.All.bind ?_ fun _ _ => ?_
  · unfold markCompiled
    rw [answered.compile]
    cases asked : compiledTo pass.node pass.compile pass.plan.toGeneratedPlan with
    | none => exact Traced.all_pure _
    | some compiled => exact Traced.all_emit.mpr asked
  refine Traced.All.bind (called _) fun _ _ => ?_
  refine Traced.All.bind (called _) fun simulation _ => ?_
  refine Traced.All.bind ?_ fun _ _ => ?_
  · unfold markAllowed
    split
    · exact Traced.all_emit.mpr trivial
    · exact Traced.all_pure _
  refine Traced.All.bind (called _) fun _ _ => ?_
  refine Traced.All.bind ?_ fun _ _ => ?_
  · unfold markCertified
    split
    · exact Traced.all_emit.mpr trivial
    · exact Traced.all_pure _
  refine Traced.All.bind (called _) fun _ _ => ?_
  refine Traced.All.bind (called _) fun _ _ => ?_
  refine Traced.All.bind (Traced.all_emit.mpr trivial) fun _ _ => ?_
  exact Traced.All.bind (called _) fun consensus _ => called _

/-- A pass that leaves with a split plan passes no gate after the compiler. -/
def GateEvent.Early : GateEvent → Prop
  | .call _ | .passed (.compiled _) => True
  | .passed _ => False

theorem gatedPlan_early (answered : pass.Answered answers) {compiled}
    (came : pass.compiledPlan = some compiled) {plan}
    (several : compiled.settlement = some (.legs plan)) (threshold : Int) :
    (gatedPlan pass.node pass.order answers threshold pass.plan.toGeneratedPlan).All
      GateEvent.Early := by
  have called : ∀ {α : Type} (x : Pipeline α), (calls x).All GateEvent.Early :=
    fun x => calls_all x fun _ => trivial
  refine Traced.All.bind (called _) fun fee _ => ?_
  refine Traced.All.bind (called _) fun _ _ => ?_
  refine Traced.All.bind (called _) fun _ _ => ?_
  refine Traced.All.bind (called _) fun found ended => ?_
  have same : found = compiled := by
    have found_came := (compilePlan_ends answered).mp ended
    rw [came] at found_came
    exact (Option.some.inj found_came).symm
  refine Traced.All.bind ?_ fun _ _ => ?_
  · unfold markCompiled
    split
    · exact Traced.all_emit.mpr trivial
    · exact Traced.all_pure _
  refine Traced.All.bind (called _) fun u left => ?_
  rw [same] at left
  exact ((@multiLegPath_legs answers pass.node pass.order _ _ several).2.2 u left).elim

theorem gatedProcess_all {P : GateEvent → Prop} (always : ∀ a, P (.call a))
    (answered : pass.Answered answers)
    (planned : ∀ threshold,
      (gatedPlan pass.node pass.order answers threshold pass.plan.toGeneratedPlan).All P) :
    (gatedProcess pass.node pass.order answers).All P := by
  unfold gatedProcess
  cases answers.app with
  | none => exact calls_all _ always
  | some threshold =>
    refine Traced.All.bind (calls_all _ always) fun _ _ => ?_
    refine Traced.All.bind (calls_all _ always) fun generated ended => ?_
    replace ended : (generatePlan pass.order answers).result = .ok generated := ended
    have same : generated = pass.plan.toGeneratedPlan := by
      simp only [generatePlan, Traced.result_bind_eq_ok, answered.generate, raising_bind_ok,
        Traced.result_pure, Except.ok.injEq] at ended
      obtain ⟨_, _, same⟩ := ended
      exact same.symm
    rw [same]
    exact planned threshold

end

section

def goodSimulation : LocalSimulation := { success := true, onChainScore := some 0 }

def goodLeg : LegAnswers where
  simulate := .ok goodSimulation
  score := .ok none
  propose := .ok { reached := true }
  submit := .ok { success := true }

def Pass.goodAnswers (pass : Pass) : OrderAnswers where
  app := some 0
  contract := pass.contract
  generate := .ok (some pass.plan.toGeneratedPlan)
  compile := pass.compile
  simulate := .ok goodSimulation
  score := .ok none
  planHash := .ok ""
  propose := .ok { reached := true }
  crossChain := {
    substrateLegs := pass.plan.substrateActions.map fun leg =>
      leg.map fun action => (action, .ok { success := true })
    hasSubstrateRelayer := pass.hasSubstrateRelayer
    source := pass.plan.source
    submit := .ok { success := true } }
  submit := .ok { success := true }
  leg := fun _ => goodLeg
  rollback := fun _ => .ok { success := true }
  now := 0

variable (pass : Pass)

theorem Pass.goodAnswers_answered : pass.Answered pass.goodAnswers where
  generate := rfl
  contract := rfl
  compile := rfl
  relayer := rfl
  source := rfl
  substrate := by
    simp [Pass.goodAnswers, Function.comp_def]

variable {pass}

theorem forwardLegs_submits {node order plan mocks} {rollback : Nat → Except PyError SubmitResult}
    {first rest} (starts : LegStarts node order mocks first) :
    ∃ consensus, .submit (.forwardLeg 0 first) consensus ∈
      (forwardLegs node order plan mocks (fun _ => goodLeg) rollback 0 (first :: rest) {}).trace := by
  obtain ⟨legPlan, bridge, planned, bridged, mock, hashes⟩ := starts
  obtain ⟨simulation, simulated⟩ :
      ∃ simulation, (simulateLeg node order legPlan goodLeg.simulate).result = .ok simulation := by
    cases equipped : node.hasSimulator with
    | true => exact ⟨goodSimulation.result, by simp [simulateLeg_eq_ok, legSimulation, equipped, goodLeg]⟩
    | false =>
      obtain ⟨simulation, made⟩ := mock equipped
      exact ⟨simulation, by simp [simulateLeg_eq_ok, legSimulation, equipped, made]⟩
  obtain ⟨score, scored⟩ := (@scoreLeg_ends bridge simulation goodLeg.score).mpr (.inr ⟨none, rfl⟩)
  have free : (awaitBridge node plan [] first).result = .ok () := by
    rw [awaitBridge_ends]
    simp [bridgeDependency]
  obtain ⟨ready, prepared, same⟩ : ∃ ready,
      (prepareLeg node order plan mocks (fun _ => goodLeg) 0 first {}).result = .ok ready ∧
        ready.1 = legPlan := by
    refine ⟨(legPlan, bestOf none simulation.onChainScore), ?_, rfl⟩
    unfold prepareLeg
    simp only [Traced.result_bind_eq_ok, Pipeline.result_raising_eq_ok, Traced.result_pure,
      Except.ok.injEq]
    exact ⟨(), rfl, legPlan, planned, (), free, bridge, bridged, simulation, simulated, score, scored,
      rfl⟩
  obtain ⟨consensus, consulted⟩ : ∃ consensus, (consultLeg node order plan rollback 0 ready.1 []
      goodLeg.propose).result = .ok consensus := by
    cases configured : node.hasConsensus with
    | false => exact ⟨none, by simp [consultLeg, configured]⟩
    | true =>
      rw [consultLeg_ends configured, same]
      exact ⟨hashes configured, .inr ⟨_, rfl, rfl⟩⟩
  refine ⟨consensus, Traced.mem_bind.mpr (.inl ?_)⟩
  apply Traced.mem_after prepared
  apply Traced.mem_after consulted
  exact Traced.mem_bind.mpr (.inl (Traced.mem_bind.mpr (.inl (by simp))))

theorem mem_processOrder {fee : Int} (priced : pass.fee = .ok fee) {compiled : GeneratedPlan}
    (came : pass.compiledPlan = some compiled) {a : Action}
    (later : a ∈ (do
      multiLegPath pass.node pass.order pass.goodAnswers compiled
      let simulation ← simulatePlan pass.node pass.goodAnswers compiled
      certifyFeeGate pass.goodAnswers fee
      scorePlan pass.order pass.goodAnswers simulation
      onChainScoreGate pass.node pass.order pass.goodAnswers 0 simulation
      let consensus ← consultOrder pass.node pass.order pass.goodAnswers
      submitApproved pass.node pass.order pass.goodAnswers compiled simulation consensus :
        Pipeline Bool).trace) :
    a ∈ (processOrder pass.node pass.order pass.goodAnswers).trace := by
  have funded : (fundsGate pass.order pass.goodAnswers).result = .ok () := by
    unfold fundsGate
    split
    · rfl
    · rfl
  have generated : (generatePlan pass.order pass.goodAnswers).result =
      .ok pass.plan.toGeneratedPlan := rfl
  apply Traced.mem_after funded
  apply Traced.mem_after generated
  apply Traced.mem_after (Pipeline.result_raising_eq_ok.mpr priced)
  have assessed : (policyGate pass.goodAnswers).result = .ok () := rfl
  apply Traced.mem_after assessed
  apply Traced.mem_after (Traced.result_emit _)
  exact Traced.mem_after ((compilePlan_ends pass.goodAnswers_answered).mpr came) later

theorem scorePlan_good :
    (scorePlan pass.order pass.goodAnswers goodSimulation).result = .ok () := rfl

theorem consultOrder_good :
    ∃ consensus, (consultOrder pass.node pass.order pass.goodAnswers).result = .ok consensus := by
  unfold consultOrder
  cases pass.node.hasConsensus with
  | false => exact ⟨none, rfl⟩
  | true => cases pass.node.hasPeers <;> exact ⟨some { reached := true }, rfl⟩

theorem autoSign_good : (autoSign pass.node pass.order pass.goodAnswers).result = .ok () := by
  unfold autoSign
  split
  · rfl
  · rfl

theorem substrateActions_good (actions : List String) (deposit : String) :
    ∃ hash, (substrateActions (actions.map fun action => (action, .ok { success := true }))
      deposit).result = .ok hash := by
  induction actions generalizing deposit with
  | nil => exact ⟨deposit, rfl⟩
  | cons action rest ih =>
    obtain ⟨extrinsic, acted⟩ : ∃ extrinsic,
        (substrateAction action (.ok { success := true })).result = .ok extrinsic := by
      refine ⟨if action = "bridge_deposit" then some "" else none, ?_⟩
      unfold substrateAction
      by_cases unstakes : action = "remove_stake"
      · simp [unstakes, setStatus, Traced.result_bind_eq_ok, raising_bind_ok]
      · by_cases deposits : action = "bridge_deposit"
        · simp [deposits, Traced.result_bind_eq_ok, raising_bind_ok]
        · simp [unstakes, deposits, Traced.result_bind_eq_ok, raising_bind_ok]
    obtain ⟨hash, ended⟩ := ih (extrinsic.getD deposit)
    exact ⟨hash, Traced.result_bind_eq_ok.mpr ⟨extrinsic, acted, ended⟩⟩

theorem substratePhase_good (equipped : pass.plan.substrateActions = [] ∨
    pass.hasSubstrateRelayer = true) :
    ∃ hash, (substratePhase pass.goodAnswers.crossChain).result = .ok hash := by
  unfold substratePhase
  rcases equipped with none_left | relayer
  · refine ⟨"", ?_⟩
    simp [Pass.goodAnswers, none_left]
  · split
    · exact ⟨"", rfl⟩
    · have all := substrateActions_good pass.plan.substrateActions.flatten ""
      simp only [Pass.goodAnswers, relayer, if_true]
      simpa [List.map_flatten, Function.comp_def] using all

theorem submitApproved_submits {compiled : GeneratedPlan} {simulation : LocalSimulation}
    {consensus : Option ConsensusResult}
    (relayed : (pass.order.param "_user_submit").truthy = false)
    (routed : compiled.crossChain = true →
      (pass.plan.substrateActions = [] ∨ pass.hasSubstrateRelayer = true) ∧
        pass.plan.sourceIndices ≠ [] ∧
        ∀ i ∈ pass.plan.sourceIndices, -(pass.plan.interactions.length : Int) ≤ i) :
    ∃ what, .submit what consensus ∈
      (submitApproved pass.node pass.order pass.goodAnswers compiled simulation consensus).trace := by
  obtain ⟨what, sent⟩ : ∃ what, .submit what consensus ∈
      (if compiled.crossChain then submitCrossChain pass.goodAnswers.crossChain consensus
        else settle pass.node pass.order pass.goodAnswers (simulation.onChainScore.getD 0)
          consensus).trace := by
    cases crosses : compiled.crossChain with
    | false => exact ⟨.order, Traced.mem_bind.mpr (.inl (by simp))⟩
    | true =>
      obtain ⟨equipped, sources⟩ := routed crosses
      obtain ⟨deposit, done⟩ := substratePhase_good equipped
      refine ⟨.sourceLegs, ?_⟩
      rw [if_pos rfl]
      apply Traced.mem_after done
      have sourced : pass.goodAnswers.crossChain.source = .ok true := pass.plan.source_eq_true.mpr sources
      refine Traced.mem_bind.mpr (.inl ?_)
      apply Traced.mem_after (Pipeline.result_raising_eq_ok.mpr sourced)
      rw [if_pos rfl]
      exact Traced.mem_bind.mpr (.inl (by simp))
  refine ⟨what, ?_⟩
  apply Traced.mem_after (Traced.result_emit _)
  apply Traced.mem_after autoSign_good
  rw [if_neg (by simp [relayed])]
  exact sent

theorem Pass.Bypasses.submits (bypasses : pass.Bypasses) :
    ∃ what consensus, .submit what consensus ∈
      (processOrder pass.node pass.order pass.goodAnswers).trace := by
  cases bypasses with
  | @legs fee compiled plan first rest priced came several forward starts due =>
    obtain ⟨-, same, -⟩ :=
      @multiLegPath_legs pass.goodAnswers pass.node pass.order _ _ several
    obtain ⟨consensus, sent⟩ := @forwardLegs_submits pass.node.orchestrator pass.order plan
      compiled.mocks pass.goodAnswers.rollback first rest starts
    refine ⟨.forwardLeg 0 first, consensus, mem_processOrder priced came ?_⟩
    refine Traced.mem_bind.mpr (.inl ?_)
    rw [same]
    refine Traced.mem_bind.mpr (.inl ?_)
    rw [forward]
    exact sent
  | @single fee compiled priced came one chains unchecked relayed declared =>
    obtain ⟨consensus, consulted⟩ := @consultOrder_good pass
    obtain ⟨what, sent⟩ := @submitApproved_submits pass compiled goodSimulation consensus relayed
      fun crosses => (declared crosses).2
    have simulated : (simulatePlan pass.node pass.goodAnswers compiled).result =
        .ok goodSimulation := by
      unfold simulatePlan
      cases crosses : compiled.crossChain with
      | false => rfl
      | true =>
        rw [(declared crosses).1]
        rfl
    have certified : (certifyFeeGate pass.goodAnswers fee).result = .ok () := by
      unfold certifyFeeGate
      split
      · rfl
      · rfl
    have scored : (onChainScoreGate pass.node pass.order pass.goodAnswers 0 goodSimulation).result =
        .ok () := rfl
    refine ⟨what, consensus, mem_processOrder priced came ?_⟩
    rw [multiLegPath_single one]
    apply Traced.mem_after (Traced.result_pure ())
    apply Traced.mem_after simulated
    apply Traced.mem_after certified
    apply Traced.mem_after scorePlan_good
    apply Traced.mem_after scored
    exact Traced.mem_after consulted sent

theorem Pass.Bypasses.ungated (bypasses : pass.Bypasses) :
    ¬ Follows pass.Gated (gatedProcess pass.node pass.order pass.goodAnswers).trace := by
  intro gated
  obtain ⟨what, consensus, sent⟩ := bypasses.submits
  obtain ⟨before, among, cleared⟩ := gated.before (call_mem_gatedProcess.mpr sent)
  replace cleared : pass.ClearedBy before := cleared
  have answered := pass.goodAnswers_answered
  unfold Pass.ClearedBy at cleared
  cases bypasses with
  | @legs fee compiled plan first rest priced came several forward starts due =>
    have carried : pass.settlement = some (.legs plan) := by
      rw [Pass.settlement, came, Option.bind_some, several]
    rw [priced, carried] at cleared
    have early := gatedProcess_all (fun _ => trivial) answered (gatedPlan_early answered came several)
    rcases due with chains | positive | scored
    · exact early _ (among (cleared.allowed chains))
    · exact early _ (among (cleared.certified positive))
    · exact early _ (among (cleared.onChain scored))
  | @single fee compiled priced came one chains unchecked relayed declared =>
    have carried : pass.settlement = some .single := by
      rw [Pass.settlement, came, Option.bind_some, one]
    rw [priced, carried] at cleared
    obtain ⟨plan, marked, carries⟩ := cleared.compiled chains
    have truth := gatedProcess_all (fun _ => trivial) answered (gatedPlan_trueMarks answered)
    exact unchecked plan (truth _ (among marked)) carries

end

/-- Two legs on two chains, put into `multi_leg_plan` by the solver itself, for an order
    with a locked fee and an app with a contract. -/
def selfSplitPass : Pass where
  node := dexProcessor
  order := { swapOrder with params := [("platform_fee_wei", .int 1000)] }
  contract := "0xdex"
  plan := { multiLeg := .ok (some twoLegPlan) }

end MinotaurSubnet.Blockloop
