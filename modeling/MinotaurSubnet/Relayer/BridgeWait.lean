import MinotaurSubnet.Relayer.HandOff

/-! # Waiting for a bridge

A leg behind a bridge must not run before the bridge has delivered. The orchestrator waits
for the first bridge of a plan and gives the rest to the tracker, which waits for no other:
a compiled plan is safe when it has one bridge and the orchestrator waits at that one.
-/

namespace MinotaurSubnet.BridgeTracker

open Library Python Consensus Shared Orderbook Blockloop
open Bridge (CrossChainPlan CompiledCrossChainPlan BridgeQuote CompiledLegs solverLeg bridgeLeg)

/-- `leg` names the bridge leg `b` among those it depends on. -/
def DependsOnBridge (plan : MultiLegPlan) (leg b : LegPlan) : Prop :=
  b ∈ plan.forwardLegs ∧ b.legIndex ∈ leg.dependsOn ∧ (b.get "type").isStr "bridge" = true

/-- A leg behind a bridge leg is submitted only after the transfer of that bridge leg's own
    transaction was reported complete. -/
def Awaits (plan : MultiLegPlan) (before : List Milestone) : Milestone → Prop
  | .submitted leg _ => ∀ b, DependsOnBridge plan leg b →
      ∃ result, result.success = true ∧ .submitted b (.ok result) ∈ before ∧
        .arrived (result.txHash.getD "") ∈ before
  | _ => True

/-- At most one bridge, which the orchestrator recognises, and nothing before it that the
    orchestrator takes for a bridge. -/
def OneBridge (plan : CrossChainPlan) (quotes : List BridgeQuote) : Prop :=
  plan.legs.length ≤ 1 ∨ plan.legs.length = 2 ∧
    (∀ leg ∈ plan.legs.head?, ((leg.metadata.lookup "bridge_protocol").getD .none).truthy = false) ∧
    ∀ quote ∈ quotes, quote.protocol ≠ ""

def AfterArrival (srcTxHash : String) (before : List Milestone) : Milestone → Prop
  | .submitted _ _ => .arrived srcTxHash ∈ before
  | _ => True

variable {marks : List Milestone}

theorem TrackerRun.arrives_first {srcTxHash legs} (run : TrackerRun srcTxHash legs marks) :
    Follows (AfterArrival srcTxHash) marks := by
  have watched (n : Nat) :
      Follows (AfterArrival srcTxHash) (List.replicate n (.arrived srcTxHash)) := by
    apply follows_of_forall
    intro m member before
    obtain rfl := List.eq_of_mem_replicate member
    trivial
  cases run with
  | watched => exact watched _
  | failed =>
    refine follows_append.mpr ⟨watched _, ?_⟩
    exact follows_of_forall (by simp [AfterArrival])
  | executed =>
    refine follows_append.mpr ⟨watched _, ?_⟩
    apply follows_of_forall
    intro m member before
    cases m with
    | submitted => simp [AfterArrival, List.mem_replicate]
    | rolledBack | handedOver | arrived | filled | bridgeFailed => trivial

theorem submitted_mem_settled {settled : List SettledLeg} {leg answer}
    (member : .submitted leg answer ∈ settled.map SettledLeg.mark) :
    leg ∈ settled.map SettledLeg.leg := by
  obtain ⟨s, among, same⟩ := List.mem_map.mp member
  cases same
  exact List.mem_map_of_mem among

theorem submitted_notMem_undone (undone : ∀ m ∈ marks, m.Undoes) {leg answer} :
    .submitted leg answer ∉ marks :=
  fun member => undone _ member

theorem TrackerRun.submits {srcTxHash legs} (run : TrackerRun srcTxHash legs marks) {leg answer}
    (member : .submitted leg answer ∈ marks) : leg ∈ legs := by
  cases run with
  | watched => simp [List.mem_replicate] at member
  | failed => simp [List.mem_replicate] at member
  | executed ran =>
    rcases List.mem_append.mp member with watched | later
    · cases List.eq_of_mem_replicate watched
    cases ran with
    | filled all =>
      rcases List.mem_append.mp later with here | last
      · exact all ▸ submitted_mem_settled here
      · simp at last
    | failed cut attempt =>
      rcases List.mem_append.mp later with here | last
      · rw [cut]
        exact List.mem_append_left _ (submitted_mem_settled here)
      · rcases List.mem_append.mp last with tried | marked
        · obtain ⟨answer', same, -⟩ := attempt _ tried
          cases same
          simp [cut]
        · simp at marked

theorem OrderLife.submits {node} {plan : MultiLegPlan} (life : OrderLife node plan marks)
    {leg answer} (member : .submitted leg answer ∈ marks) : leg ∈ plan.forwardLegs := by
  cases life with
  | filled unblocked all =>
    rcases List.mem_append.mp member with here | last
    · exact all ▸ submitted_mem_settled here
    · simp at last
  | parked unblocked among => exact among.subset (submitted_mem_settled member)
  | stopped unblocked among undone =>
    rcases List.mem_append.mp member with here | later
    · exact among.subset (submitted_mem_settled here)
    · exact absurd later (submitted_notMem_undone undone)
  | failed unblocked cut free unsettled undone =>
    rw [cut]
    rcases List.mem_append.mp member with here | later
    · exact List.mem_append_left _ (submitted_mem_settled here)
    · rcases List.mem_cons.mp later with same | after
      · cases same
        simp
      · exact absurd after (submitted_notMem_undone undone)
  | handedOver unblocked cut waits registers follows =>
    rcases List.mem_append.mp member with here | later
    · rw [cut]
      exact List.mem_append_left _ (submitted_mem_settled here)
    · rcases List.mem_cons.mp later with same | after
      · cases same
      · have left := follows.submits after
        rw [(remaining_ne_nil cut registers).1] at left
        exact (List.mem_filter.mp left).1

structure BridgedLegs (plan : MultiLegPlan) where
  source : LegPlan
  bridge : LegPlan
  destination : LegPlan
  legs : plan.forwardLegs = [source, bridge, destination]
  sourceFree : source.dependsOn = []
  sourcePlain : (source.get "type").isStr "bridge" = false
  bridgeWaits : bridge.dependsOn = [source.legIndex]
  sourceSilent : (source.get "bridge_protocol").truthy = false
  destinationWaits : destination.dependsOn = [bridge.legIndex]
  bridgeNamed : (bridge.get "bridge_protocol").truthy = true
  sourceFirst : source.legIndex < bridge.legIndex
  bridgeFirst : bridge.legIndex < destination.legIndex

namespace BridgedLegs

variable {plan : MultiLegPlan} (legs : BridgedLegs plan)

theorem source_waits_not (completed : List LegPlan) :
    bridgeDependency completed legs.source = none := by
  unfold bridgeDependency
  rw [legs.sourceFree]
  rfl

theorem bridge_waits_not {s : SettledLeg} (first : s.leg = legs.source) :
    bridgeDependency [s.kept] legs.bridge = none := by
  have index : (s.kept.legIndex == legs.source.legIndex) = true := by
    simp [SettledLeg.kept, settledLeg, first]
  have silent : (s.kept.get "bridge_protocol").truthy = false := by
    rw [SettledLeg.kept, get_settledLeg (by decide), first]
    exact legs.sourceSilent
  unfold bridgeDependency
  rw [legs.bridgeWaits]
  simp [List.findSome?, List.find?, index, Option.filter, silent]

theorem destination_waits {s t : SettledLeg} (first : s.leg = legs.source)
    (second : t.leg = legs.bridge) :
    bridgeDependency [s.kept, t.kept] legs.destination = some t.kept := by
  have before : (s.kept.legIndex == legs.bridge.legIndex) = false := by
    have := legs.sourceFirst
    simp only [SettledLeg.kept, settledLeg, first, beq_eq_false_iff_ne]
    omega
  have index : (t.kept.legIndex == legs.bridge.legIndex) = true := by
    simp [SettledLeg.kept, settledLeg, second]
  have named : (t.kept.get "bridge_protocol").truthy = true := by
    rw [SettledLeg.kept, get_settledLeg (by decide), second]
    exact legs.bridgeNamed
  unfold bridgeDependency
  rw [legs.destinationWaits]
  simp [List.findSome?, List.find?, before, index, Option.filter, named]

theorem depends {leg b} (among : leg ∈ plan.forwardLegs) (depends : DependsOnBridge plan leg b) :
    leg = legs.destination ∧ b = legs.bridge := by
  obtain ⟨listed, named, isBridge⟩ := depends
  rw [legs.legs] at among listed
  have firstly := legs.sourceFirst
  have secondly := legs.bridgeFirst
  simp only [List.mem_cons, List.not_mem_nil, or_false] at among listed
  rcases among with rfl | rfl | rfl
  · simp [legs.sourceFree] at named
  · rw [legs.bridgeWaits, List.mem_singleton] at named
    rcases listed with rfl | rfl | rfl
    · exact absurd isBridge (by simp [legs.sourcePlain])
    · omega
    · omega
  · rw [legs.destinationWaits, List.mem_singleton] at named
    rcases listed with rfl | rfl | rfl
    · omega
    · exact ⟨rfl, rfl⟩
    · omega

theorem waits_at {settled leg rest}
    (cut : plan.forwardLegs = settled.map SettledLeg.leg ++ leg :: rest) :
    (leg = legs.source ∧ settled = []) ∨
      (leg = legs.bridge ∧ ∃ s, settled = [s] ∧ s.leg = legs.source) ∨
      leg = legs.destination ∧ ∃ s t, settled = [s, t] ∧ s.leg = legs.source ∧ t.leg = legs.bridge := by
  rw [legs.legs] at cut
  match settled with
  | [] =>
    obtain ⟨rfl, -⟩ := List.cons.inj cut
    exact .inl ⟨rfl, rfl⟩
  | [s] =>
    obtain ⟨first, cut₁⟩ := List.cons.inj cut
    obtain ⟨rfl, -⟩ := List.cons.inj cut₁
    exact .inr (.inl ⟨rfl, s, rfl, first.symm⟩)
  | [s, t] =>
    obtain ⟨first, cut₁⟩ := List.cons.inj cut
    obtain ⟨second, cut₂⟩ := List.cons.inj cut₁
    obtain ⟨rfl, -⟩ := List.cons.inj cut₂
    exact .inr (.inr ⟨rfl, s, t, rfl, first.symm, second.symm⟩)
  | s :: t :: u :: more =>
    have lengths := congrArg List.length cut
    simp at lengths

theorem destination_notMem {settled : List SettledLeg} (unblocked : Unblocked settled)
    (among : settled.map SettledLeg.leg <+: plan.forwardLegs) :
    legs.destination ∉ settled.map SettledLeg.leg := by
  intro member
  obtain ⟨u, here, isLast⟩ := List.mem_map.mp member
  obtain ⟨before, after, rfl⟩ := List.append_of_mem here
  obtain ⟨rest, whole⟩ := among
  have cut : plan.forwardLegs = before.map SettledLeg.leg ++ u.leg ::
      (after.map SettledLeg.leg ++ rest) := by
    rw [← whole]
    simp
  have free := unblocked before u after rfl
  have firstly := legs.sourceFirst
  have secondly := legs.bridgeFirst
  rcases legs.waits_at cut with ⟨same, -⟩ | ⟨same, -⟩ | ⟨same, s, t, rfl, first, second⟩
  · have := congrArg LegPlan.legIndex (isLast.symm.trans same)
    omega
  · have := congrArg LegPlan.legIndex (isLast.symm.trans same)
    omega
  · rw [isLast, List.map_cons, List.map_cons, List.map_nil, legs.destination_waits first second] at free
    cases free

theorem awaits_of_other {m : Milestone} (before : List Milestone)
    (other : ∀ leg answer, m = .submitted leg answer →
      leg ∈ plan.forwardLegs ∧ leg ≠ legs.destination) : Awaits plan before m := by
  cases m with
  | submitted leg answer =>
    obtain ⟨among, different⟩ := other leg answer rfl
    intro b depends
    exact absurd (legs.depends among depends).1 different
  | rolledBack | handedOver | arrived | filled | bridgeFailed => trivial

theorem awaits_settled (legs : BridgedLegs plan) {settled : List SettledLeg} (unblocked : Unblocked settled)
    (among : settled.map SettledLeg.leg <+: plan.forwardLegs) :
    Follows (Awaits plan) (settled.map SettledLeg.mark) := by
  apply follows_of_forall
  rintro m member before
  apply legs.awaits_of_other
  rintro leg answer rfl
  have here := submitted_mem_settled member
  refine ⟨among.subset here, ?_⟩
  rintro rfl
  exact legs.destination_notMem unblocked among here

theorem awaits_undone {marks} (undone : ∀ m ∈ marks, m.Undoes) (past : List Milestone) :
    Follows (fun before => Awaits plan (past ++ before)) marks := by
  apply follows_of_forall
  intro m member before
  have undoes := undone m member
  cases m with
  | rolledBack => trivial
  | submitted | handedOver | arrived | filled | bridgeFailed => exact undoes.elim

theorem awaits (legs : BridgedLegs plan) {node marks} (life : OrderLife node plan marks) :
    Follows (Awaits plan) marks := by
  cases life with
  | @filled settled unblocked all =>
    have last : legs.destination ∈ settled.map SettledLeg.leg := by
      rw [all, legs.legs]
      simp
    exact absurd last (legs.destination_notMem unblocked (all ▸ List.prefix_rfl))
  | parked unblocked among => exact legs.awaits_settled unblocked among
  | stopped unblocked among undone =>
    exact follows_append.mpr ⟨legs.awaits_settled unblocked among, awaits_undone undone _⟩
  | @failed settled leg rest answer marks unblocked cut free unsettled undone =>
    have among : settled.map SettledLeg.leg <+: plan.forwardLegs := cut ▸ List.prefix_append _ _
    have other : leg ≠ legs.destination := by
      have firstly := legs.sourceFirst
      have secondly := legs.bridgeFirst
      rintro rfl
      rcases legs.waits_at cut with ⟨same, -⟩ | ⟨same, -⟩ | ⟨-, s, t, rfl, first, second⟩
      · have := congrArg LegPlan.legIndex same
        omega
      · have := congrArg LegPlan.legIndex same
        omega
      · rw [List.map_cons, List.map_cons, List.map_nil, legs.destination_waits first second] at free
        cases free
    refine follows_append.mpr ⟨legs.awaits_settled unblocked among, follows_cons.mpr ⟨?_, ?_⟩⟩
    · apply legs.awaits_of_other
      rintro leg' answer' same
      cases same
      exact ⟨by simp [cut], other⟩
    · have later : Follows (fun before => Awaits plan
          ((settled.map SettledLeg.mark ++ [.submitted leg answer]) ++ before)) _ :=
        awaits_undone undone _
      simpa using later
  | @handedOver settled leg done rest given tail unblocked cut waits registers follows =>
    have among : settled.map SettledLeg.leg <+: plan.forwardLegs := cut ▸ List.prefix_append _ _
    -- the orchestrator waits at the destination leg only
    obtain ⟨s, t, rfl, second, delivered⟩ : ∃ s t, settled = [s, t] ∧ t.leg = legs.bridge ∧
        given.srcTxHash = t.result.txHash.getD "" := by
      rcases legs.waits_at cut with ⟨rfl, rfl⟩ | ⟨rfl, s, rfl, first⟩ | ⟨rfl, s, t, rfl, first, second⟩
      · rw [legs.source_waits_not] at waits
        cases waits
      · rw [List.map_cons, List.map_nil, legs.bridge_waits_not first] at waits
        cases waits
      · rw [List.map_cons, List.map_cons, List.map_nil, legs.destination_waits first second] at waits
        cases waits
        have found := (remaining_ne_nil cut registers).2.2
        rw [SettledLeg.kept_txHash] at found
        exact ⟨s, t, rfl, second, (Value.str.inj found).symm⟩
    refine follows_append.mpr ⟨legs.awaits_settled unblocked among, follows_cons.mpr ⟨trivial, ?_⟩⟩
    intro before m after split
    cases m with
    | submitted leg' answer =>
      have left : leg' ∈ given.remaining := by
        apply @TrackerRun.submits _ _ _ follows leg' answer
        simp [split]
      rw [(remaining_ne_nil cut registers).1] at left
      have arrived := follows.arrives_first before _ after split
      intro b depends
      obtain ⟨-, rfl⟩ := legs.depends (List.mem_filter.mp left).1 depends
      refine ⟨t.result, t.success, ?_, ?_⟩
      · rw [← second]
        simp [SettledLeg.mark]
      · rw [← delivered]
        have arrived : Milestone.arrived given.srcTxHash ∈ before := arrived
        simp [arrived]
    | rolledBack | handedOver | arrived | filled | bridgeFailed => trivial

end BridgedLegs

section

variable {userAddress : String}

theorem solverLeg_type (i : Int) (leg : Bridge.ChainLeg) :
    (solverLeg i leg).get "type" = .str "solver_leg" := by
  unfold LegPlan.get solverLeg
  rw [lookup_setKey_ne (by decide), lookup_setKey_self]
  rfl

theorem solverLeg_bridgeProtocol (i : Int) (leg : Bridge.ChainLeg) :
    (solverLeg i leg).get "bridge_protocol" =
      (leg.metadata.lookup "bridge_protocol").getD .none := by
  unfold LegPlan.get solverLeg
  rw [lookup_setKey_ne (by decide), lookup_setKey_ne (by decide)]

theorem bridgedLegs_of_compiled {solverPlan : CrossChainPlan} {quotes} {plan : MultiLegPlan}
    (compiled : CompiledLegs userAddress 0 solverPlan.legs quotes plan.forwardLegs)
    (two : solverPlan.legs.length = 2)
    (silent : ∀ leg ∈ solverPlan.legs.head?, ((leg.metadata.lookup "bridge_protocol").getD .none).truthy = false)
    (named : ∀ quote ∈ quotes, quote.protocol ≠ "") : Nonempty (BridgedLegs plan) := by
  generalize solverPlan.legs = solverLegs at compiled two silent
  generalize forward : plan.forwardLegs = forwardLegs at compiled
  cases compiled with
  | last => simp at two
  | @bridged _ leg br quote interactions rest quotes legs more =>
    cases more with
    | bridged deeper => cases deeper <;> simp at two
    | @last _ leg' =>
      refine ⟨{
        source := solverLeg 0 leg
        bridge := bridgeLeg userAddress (0 + 1) br quote interactions
        destination := solverLeg (0 + 2) leg'
        legs := forward
        sourceFree := rfl
        sourcePlain := ?_
        bridgeWaits := rfl
        sourceSilent := ?_
        destinationWaits := rfl
        bridgeNamed := ?_
        sourceFirst := by simp [bridgeLeg, solverLeg]
        bridgeFirst := by simp [bridgeLeg, solverLeg] }⟩
      · rw [solverLeg_type]
        decide
      · rw [solverLeg_bridgeProtocol]
        exact silent leg rfl
      · have protocol : quote.protocol ≠ "" := named quote List.mem_cons_self
        have stored : (bridgeLeg userAddress (0 + 1) br quote interactions).get
            "bridge_protocol" = .str quote.protocol := rfl
        rw [stored]
        simp [Value.truthy, protocol]

/-- A compiled plan with at most one bridge, where the orchestrator waits for that bridge and
    for nothing else: no leg behind the bridge runs before its transfer is complete. -/
theorem compiled_plan_awaits_bridge {compiler : Bridge.Compiler} {orderId : String} {deadline : Int}
    {quoted : Nat → Bridge.QuoteAnswers} {solverPlan : CrossChainPlan}
    {compiled : CompiledCrossChainPlan}
    (compiles : Bridge.compile compiler orderId userAddress deadline quoted solverPlan = .ok compiled)
    (one : OneBridge solverPlan compiled.bridgeQuotes) (run : OrderRun)
    (runs : run.plan = compiled.multiLegPlan) : Follows (Awaits run.plan) run.life := by
  have legs := Bridge.compile_legs compiles
  rw [← runs] at legs
  have life := run.life_run
  rcases one with few | ⟨two, silent, named⟩
  · apply follows_of_forall
    intro m member before
    cases m with
    | submitted leg answer =>
      have among := life.submits member
      generalize solverPlan.legs = solverLegs at legs few
      generalize run.plan.forwardLegs = forwardLegs at legs among
      generalize compiled.bridgeQuotes = quotes at legs
      rintro b ⟨-, named, -⟩
      cases legs with
      | last =>
        obtain rfl := List.mem_singleton.mp among
        simp [solverLeg] at named
      | bridged more => cases more <;> simp at few
    | rolledBack | handedOver | arrived | filled | bridgeFailed => trivial
  · obtain ⟨bridged⟩ := bridgedLegs_of_compiled legs two silent named
    exact bridged.awaits life

end

def plainAdapter : Bridge.Adapter where
  buildBridgeInteractions := fun _ _ => .ok []
  mockConfig := fun _ => .ok (.dict [])

def plainCompiler : Bridge.Compiler where
  adapter := fun _ => some plainAdapter
  ninetyNinePercent := fun output => .ok (output * 99 / 100)
  now := 0

def plainQuote : BridgeQuote where
  protocol := "mock"
  tokenIn := "0x01"
  tokenOut := "0x01"
  amountIn := 100
  estimatedOutput := 99
  fee := 1

def plainQuotes (_ : Nat) : Bridge.QuoteAnswers where
  quote := .ok (some plainQuote)
  reverse := .ok (some plainQuote)

def hops (chains : List Int) : CrossChainPlan where
  legs := chains.map fun chainId => { chainId }
  bridgeRequests := (chains.zip chains.tail).map fun (srcChainId, dstChainId) =>
    { token := "0x01", amount := 100, srcChainId, dstChainId }

def compiledHops (chains : List Int) : CompiledCrossChainPlan :=
  (Bridge.compile plainCompiler "ord_1" "0xuser" 0 plainQuotes (hops chains)).toOption.getD {}

theorem compiles_hops {chains : List Int} (ok : (Bridge.compile plainCompiler "ord_1" "0xuser" 0
    plainQuotes (hops chains)).toOption.isSome = true) :
    Bridge.compile plainCompiler "ord_1" "0xuser" 0 plainQuotes (hops chains) =
      .ok (compiledHops chains) := by
  unfold compiledHops
  cases compiled : Bridge.compile plainCompiler "ord_1" "0xuser" 0 plainQuotes (hops chains) with
  | ok plan => rfl
  | error e => simp [compiled, Except.toOption] at ok

def hopsRun (chains : List Int) : OrderRun :=
  bridgedRun (compiledHops chains).multiLegPlan (arrival (.ok { reached := true }))

def Milestone.submitsAt (legIndex : Int) : Milestone → Bool
  | .submitted leg _ => leg.legIndex == legIndex
  | _ => false

def Milestone.onlyFirst : Milestone → Bool
  | .arrived srcTxHash => srcTxHash == "0xaa"
  | _ => true

def Milestone.secondBridge : Milestone → Bool
  | .submitted leg (.ok result) => leg.legIndex != 3 || result.txHash.getD "" == "0xbb"
  | _ => true

/-- Over two bridges the last leg is submitted while the second transfer is in flight. -/
theorem second_bridge_not_awaited :
    Bridge.compile plainCompiler "ord_1" "0xuser" 0 plainQuotes (hops [1, 8453, 10]) =
        .ok (compiledHops [1, 8453, 10]) ∧
      ¬ Follows (Awaits (hopsRun [1, 8453, 10]).plan) (hopsRun [1, 8453, 10]).life := by
  refine ⟨compiles_hops (by decide +kernel), fun safe => ?_⟩
  have submits : (hopsRun [1, 8453, 10]).life.any (Milestone.submitsAt 4) = true := by
    decide +kernel
  have arrivals : (hopsRun [1, 8453, 10]).life.all Milestone.onlyFirst = true := by decide +kernel
  have bridges : (hopsRun [1, 8453, 10]).life.all Milestone.secondBridge = true := by
    decide +kernel
  have last : (hopsRun [1, 8453, 10]).plan.forwardLegs.all (fun leg =>
      leg.legIndex != 4 || leg.dependsOn == [3]) = true := by decide +kernel
  have second : (hopsRun [1, 8453, 10]).plan.forwardLegs.any (fun leg =>
      leg.legIndex == 3 && (leg.get "type").isStr "bridge") = true := by decide +kernel
  obtain ⟨m, member, submitted⟩ := List.any_eq_true.mp submits
  obtain ⟨b, listed, isSecond⟩ := List.any_eq_true.mp second
  obtain ⟨index, isBridge⟩ := Bool.and_eq_true_iff.mp isSecond
  cases m with
  | submitted leg answer =>
    have among := (hopsRun [1, 8453, 10]).life_run.submits member
    have waits := List.all_eq_true.mp last leg among
    obtain ⟨before, after, split⟩ := List.append_of_mem member
    have depends : DependsOnBridge (hopsRun [1, 8453, 10]).plan leg b := by
      refine ⟨listed, ?_, isBridge⟩
      simp_all [Milestone.submitsAt]
    obtain ⟨result, -, settled, arrived⟩ := safe before _ after split b depends
    have inLife {e : Milestone} (early : e ∈ before) : e ∈ (hopsRun [1, 8453, 10]).life := by
      rw [split]
      exact List.mem_append_left _ early
    have theirs := List.all_eq_true.mp bridges _ (inLife settled)
    have first := List.all_eq_true.mp arrivals _ (inLife arrived)
    simp only [Milestone.onlyFirst, beq_iff_eq] at first
    simp only [Milestone.secondBridge, first] at theirs
    simp_all
  | rolledBack | handedOver | arrived | filled | bridgeFailed => cases submitted

/-- Over one bridge the last leg waits. -/
theorem one_bridge_awaited :
    Follows (Awaits (hopsRun [1, 8453]).plan) (hopsRun [1, 8453]).life := by
  apply compiled_plan_awaits_bridge (compiles_hops (by decide +kernel)) _ (hopsRun [1, 8453]) rfl
  refine .inr ⟨rfl, ?_, ?_⟩
  · rintro leg head
    cases head
    rfl
  · have named : (compiledHops [1, 8453]).bridgeQuotes.all (fun quote =>
        quote.protocol != "") = true := by decide +kernel
    intro quote member
    simpa using List.all_eq_true.mp named quote member

end MinotaurSubnet.BridgeTracker
