import MinotaurSubnet.Relayer.TrackerRuns

/-! # An order across the bridge hand-off

One call of the orchestrator, then any number of polls of the tracker: first what such a run
comes to as a whole, then that no leg is settled twice or left out when the hand-off cuts the
plan in the order it is listed, and that nothing is ever rolled back after it.
-/

namespace MinotaurSubnet.BridgeTracker

open Library Python Consensus Shared Orderbook Blockloop

/-- The bridge `registerBridge` tracks for an order. -/
def bridgeOf (order : BookOrder) (contract : Value) (handOver : HandOver) : TrackedBridge where
  srcTxHash := handOver.srcTxHash
  plan := {
    intentId := .str order.appId
    deadline := (order.deadline.toInt.toOption.map Value.int).getD .none
    contractAddress := contract
    remainingLegs := handOver.remaining }
  srcChainId := handOver.srcChainId
  dstChainId := handOver.dstChainId

def givenOver : Milestone → Option HandOver
  | .handedOver handOver => some handOver
  | _ => none

structure OrderRun where
  node : Orchestrator
  tracker : Tracker
  order : BookOrder
  plan : MultiLegPlan
  mocks : SimulationMocks := {}
  answers : Nat → LegAnswers
  rollbackAnswers : Nat → Except PyError SubmitResult
  contract : Value
  tracked : Tracked
  events : List Event
  fresh : tracked.get? order.orderId = none
  once : ∀ bridge, .track order.orderId bridge ∉ events

namespace OrderRun

variable (run : OrderRun)

def orchestrated : List Milestone :=
  Blockloop.milestones run.answers
    (processMultiLeg run.node run.order run.plan run.mocks run.answers run.rollbackAnswers).trace

def registered : Tracked :=
  (run.orchestrated.filterMap givenOver).foldl
    (fun tracked handOver =>
      tracked.set run.order.orderId (bridgeOf run.order run.contract handOver)) run.tracked

def followed : List Milestone :=
  milestones (callsFor run.order.orderId (history run.tracker run.registered run.events))

def life : List Milestone := run.orchestrated ++ run.followed

end OrderRun

inductive OrderLife (node : Orchestrator) (plan : MultiLegPlan) : List Milestone → Prop where
  | filled {settled : List SettledLeg} (unblocked : Unblocked settled)
      (all : settled.map SettledLeg.leg = plan.forwardLegs) :
      OrderLife node plan (settled.map SettledLeg.mark ++ [.filled])
  | handedOver {settled : List SettledLeg} {leg done : LegPlan} {rest : List LegPlan}
      {given : HandOver} {tail : List Milestone} (unblocked : Unblocked settled)
      (cut : plan.forwardLegs = settled.map SettledLeg.leg ++ leg :: rest)
      (waits : bridgeDependency (settled.map SettledLeg.kept) leg = some done)
      (registers : handOver node plan leg done = some given)
      (follows : TrackerRun given.srcTxHash given.remaining tail) :
      OrderLife node plan (settled.map SettledLeg.mark ++ .handedOver given :: tail)
  /-- A leg waits for a bridge nobody watches. -/
  | parked {settled : List SettledLeg} (unblocked : Unblocked settled)
      (among : settled.map SettledLeg.leg <+: plan.forwardLegs) :
      OrderLife node plan (settled.map SettledLeg.mark)
  | failed {settled : List SettledLeg} {leg : LegPlan} {rest : List LegPlan}
      {answer : Except PyError SubmitResult} {marks : List Milestone} (unblocked : Unblocked settled)
      (cut : plan.forwardLegs = settled.map SettledLeg.leg ++ leg :: rest)
      (free : bridgeDependency (settled.map SettledLeg.kept) leg = none)
      (unsettled : Unsettled answer) (undone : ∀ m ∈ marks, m.Undoes) :
      OrderLife node plan (settled.map SettledLeg.mark ++ .submitted leg answer :: marks)
  | stopped {settled : List SettledLeg} {marks : List Milestone} (unblocked : Unblocked settled)
      (among : settled.map SettledLeg.leg <+: plan.forwardLegs) (undone : ∀ m ∈ marks, m.Undoes) :
      OrderLife node plan (settled.map SettledLeg.mark ++ marks)

variable (settled : List SettledLeg)

theorem givenOver_settled :
    (settled.map SettledLeg.mark).filterMap givenOver = [] := by
  induction settled with
  | nil => rfl
  | cons s rest ih => exact ih

theorem givenOver_undone {marks : List Milestone} (undone : ∀ m ∈ marks, m.Undoes) :
    marks.filterMap givenOver = [] := by
  apply List.filterMap_eq_nil_iff.mpr
  intro m member
  have undoes := undone m member
  cases m with
  | rolledBack leg => rfl
  | submitted | handedOver | arrived | filled | bridgeFailed => exact undoes.elim

theorem remaining_ne_nil {node} {plan : MultiLegPlan} {leg done : LegPlan} {before rest}
    {given : HandOver} (cut : plan.forwardLegs = before ++ leg :: rest)
    (registers : handOver node plan leg done = some given) :
    given.remaining = plan.forwardLegs.filter (fun l => leg.legIndex ≤ l.legIndex) ∧
      given.remaining ≠ [] ∧ done.get "tx_hash" = .str given.srcTxHash := by
  unfold handOver at registers
  split at registers
  · next srcTxHash _ found =>
      split at registers
      · cases registers
      · cases registers
        refine ⟨rfl, ?_, found⟩
        have member : leg ∈ plan.forwardLegs.filter (fun l => leg.legIndex ≤ l.legIndex) := by
          simp [cut]
        exact List.ne_nil_of_mem member
  · cases registers

namespace OrderRun

variable (run : OrderRun)

theorem followed_of_kept (kept : run.orchestrated.filterMap givenOver = []) : run.followed = [] := by
  unfold followed registered
  rw [kept, callsFor_history run.tracker run.events _ run.once, List.foldl_nil, run.fresh, watch_none]
  rfl

theorem followed_of_given {given : HandOver}
    (handed : run.orchestrated.filterMap givenOver = [given]) (left : given.remaining ≠ []) :
    TrackerRun given.srcTxHash given.remaining run.followed := by
  unfold followed registered
  rw [handed, callsFor_history run.tracker run.events _ run.once, List.foldl_cons, List.foldl_nil,
    Dict.get?_set, if_pos rfl]
  exact @watch_run run.tracker (pollsFor run.order.orderId run.events)
    (bridgeOf run.order run.contract given) left

theorem life_run : OrderLife run.node run.plan run.life := by
  have ran : OrchestratorRun run.node run.plan run.orchestrated :=
    processMultiLeg_run run.node run.order run.plan run.mocks run.answers run.rollbackAnswers
  have kept := run.followed_of_kept
  have given : ∀ h, run.orchestrated.filterMap givenOver = [h] → h.remaining ≠ [] →
      TrackerRun h.srcTxHash h.remaining run.followed := fun _ => run.followed_of_given
  unfold life
  generalize run.orchestrated = marks at ran kept given ⊢
  cases ran with
  | @filled settled unblocked all =>
    rw [kept (by rw [List.filterMap_append, givenOver_settled]; rfl), List.append_nil]
    exact .filled unblocked all
  | @handedOver settled leg done rest unblocked cut waits =>
    cases registers : handOver run.node run.plan leg done with
    | none =>
      rw [registers] at kept
      rw [kept (by rw [List.filterMap_append, givenOver_settled]; rfl), List.append_nil]
      rw [Option.map_none, Option.toList_none, List.append_nil]
      exact .parked unblocked (cut ▸ List.prefix_append _ _)
    | some h =>
      rw [registers] at given
      have follows := given h (by rw [List.filterMap_append, givenOver_settled]; rfl)
        (remaining_ne_nil cut registers).2.1
      rw [List.append_assoc]
      exact .handedOver unblocked cut waits registers follows
  | @failed settled leg rest answer marks unblocked cut free unsettled undone =>
    have nothing : (settled.map SettledLeg.mark ++ .submitted leg answer :: marks).filterMap
        givenOver = [] := by
      rw [List.filterMap_append, givenOver_settled, List.filterMap_cons]
      exact givenOver_undone undone
    rw [kept nothing, List.append_nil]
    exact .failed unblocked cut free unsettled undone
  | @stopped settled rest marks unblocked cut undone =>
    have nothing : (settled.map SettledLeg.mark ++ marks).filterMap givenOver = [] := by
      rw [List.filterMap_append, givenOver_settled, givenOver_undone undone]
      rfl
    rw [kept nothing, List.append_nil]
    exact .stopped unblocked (cut ▸ List.prefix_append _ _) undone

end OrderRun

def settledIndex : Milestone → Option Int
  | .submitted leg (.ok result) => if result.success then some leg.legIndex else none
  | _ => none

def settledIndices (marks : List Milestone) : List Int := marks.filterMap settledIndex

def HandsOverAt (plan : MultiLegPlan) (before : List LegPlan) (leg : LegPlan) (rest : List LegPlan) :
    Prop :=
  plan.forwardLegs = before ++ leg :: rest ∧ bridgeDependency before leg ≠ none ∧
    ∀ earlier l later, before = earlier ++ l :: later → bridgeDependency earlier l = none

/-- The indices put the same legs behind the hand-off as the list does. -/
def CutsInOrder (plan : MultiLegPlan) : Prop :=
  ∀ before leg rest, HandsOverAt plan before leg rest →
    (∀ l ∈ before, l.legIndex < leg.legIndex) ∧ ∀ l ∈ rest, leg.legIndex < l.legIndex

@[simp] theorem settledIndices_append (xs ys : List Milestone) :
    settledIndices (xs ++ ys) = settledIndices xs ++ settledIndices ys := List.filterMap_append

@[simp] theorem settledIndices_settled :
    settledIndices (settled.map SettledLeg.mark) =
      (settled.map SettledLeg.leg).map (·.legIndex) := by
  induction settled with
  | nil => rfl
  | cons s rest ih =>
    have first : settledIndex s.mark = some s.leg.legIndex := if_pos s.success
    rw [List.map_cons, settledIndices, List.filterMap_cons, first, List.map_cons, List.map_cons]
    exact congrArg _ ih

variable {marks : List Milestone}

theorem settledIndices_undone (undone : ∀ m ∈ marks, m.Undoes) :
    settledIndices marks = [] := by
  apply List.filterMap_eq_nil_iff.mpr
  intro m member
  have undoes := undone m member
  cases m with
  | rolledBack leg => rfl
  | submitted | handedOver | arrived | filled | bridgeFailed => exact undoes.elim

theorem settledIndex_unsettled (leg : LegPlan) {answer} (unsettled : Unsettled answer) :
    settledIndex (.submitted leg answer) = none := by
  cases answer with
  | error e => rfl
  | ok result => exact if_neg (by simp [unsettled result rfl])

@[simp] theorem settledIndices_arrived (n : Nat) (srcTxHash : String) :
    settledIndices (List.replicate n (.arrived srcTxHash)) = [] := by
  apply List.filterMap_eq_nil_iff.mpr
  intro m member
  obtain rfl := List.eq_of_mem_replicate member
  rfl

theorem settledIndices_attempt {tail leg}
    (attempt : ∀ m ∈ tail, ∃ answer, m = .submitted leg answer ∧ Unsettled answer) :
    settledIndices tail = [] := by
  apply List.filterMap_eq_nil_iff.mpr
  intro m member
  obtain ⟨answer, rfl, unsettled⟩ := attempt m member
  exact settledIndex_unsettled leg unsettled

@[simp] theorem settledIndices_filled : settledIndices [.filled] = [] := rfl

@[simp] theorem settledIndices_bridgeFailed : settledIndices [.bridgeFailed] = [] := rfl

@[simp] theorem settledIndices_handedOver (given : HandOver) (marks : List Milestone) :
    settledIndices (.handedOver given :: marks) = settledIndices marks := rfl

@[simp] theorem filled_notMem_settled :
    .filled ∉ settled.map SettledLeg.mark := by
  simp [SettledLeg.mark]

theorem filled_notMem_undone (undone : ∀ m ∈ marks, m.Undoes) :
    .filled ∉ marks := fun member => undone _ member

/-- The tracker settles the legs it was given in their order, and all of them when it marks
    the order filled. -/
theorem TrackerRun.settles {srcTxHash} {legs : List LegPlan}
    (run : TrackerRun srcTxHash legs marks) :
    settledIndices marks <+: legs.map (·.legIndex) ∧
      (.filled ∈ marks → settledIndices marks = legs.map (·.legIndex)) := by
  cases run with
  | watched => simp [List.mem_replicate]
  | failed => simp [List.mem_replicate]
  | @executed n marks ran =>
    cases ran with
    | filled all => simp [all]
    | @failed settled leg rest tail cut attempt =>
      have unfilled : .filled ∉ tail := by
        intro member
        obtain ⟨answer, same, -⟩ := attempt _ member
        cases same
      simp [settledIndices_attempt attempt, cut, unfilled, List.mem_replicate]

theorem filter_cut {before rest} {leg : LegPlan} (smaller : ∀ l ∈ before, l.legIndex < leg.legIndex)
    (larger : ∀ l ∈ rest, leg.legIndex < l.legIndex) :
    (before ++ leg :: rest).filter (fun l => leg.legIndex ≤ l.legIndex) = leg :: rest := by
  have front : before.filter (fun l => leg.legIndex ≤ l.legIndex) = [] := by
    apply List.filter_eq_nil_iff.mpr
    intro l member
    have := smaller l member
    simp
    omega
  have back : rest.filter (fun l => leg.legIndex ≤ l.legIndex) = rest := by
    apply List.filter_eq_self.mpr
    intro l member
    have := larger l member
    simp
    omega
  rw [List.filter_append, front, List.nil_append, List.filter_cons_of_pos (by simp), back]

theorem completes_settled :
    Blockloop.Completes (settled.map SettledLeg.kept) (settled.map SettledLeg.leg) := by
  induction settled with
  | nil => exact .nil
  | cons s rest ih => exact .cons ⟨s.result, rfl⟩ ih

theorem handsOverAt_of_waits {plan : MultiLegPlan} {settled : List SettledLeg} {leg done rest}
    (unblocked : Unblocked settled)
    (cut : plan.forwardLegs = settled.map SettledLeg.leg ++ leg :: rest)
    (waits : bridgeDependency (settled.map SettledLeg.kept) leg = some done) :
    HandsOverAt plan (settled.map SettledLeg.leg) leg rest := by
  refine ⟨cut, ?_, ?_⟩
  · rw [ne_eq, ← (completes_settled settled).bridgeDependency, waits]
    simp
  · intro earlier l later split
    obtain ⟨before, others, rfl, rfl, tail⟩ := List.map_eq_append_iff.mp split
    obtain ⟨s, after, rfl, rfl, rfl⟩ := List.map_eq_cons_iff.mp tail
    rw [← (completes_settled before).bridgeDependency]
    exact unblocked before s after rfl

def bridgedPlan (first bridge last : Int) : MultiLegPlan where
  forwardLegs := [
    { legIndex := first, chainId := 1 },
    { legIndex := bridge, chainId := 1, metadata := [("bridge_protocol", .str "hyperlane")] },
    { legIndex := last, chainId := 8453, dependsOn := [bridge] }]
  rollbackLegs := [
    { legIndex := 100, chainId := 1, rollbackFor := some first },
    { legIndex := 101, chainId := 1, rollbackFor := some bridge },
    { legIndex := 102, chainId := 8453, rollbackFor := some last }]

def bridgedRun (plan : MultiLegPlan) (poll : PollAnswers) : OrderRun where
  node := twoLegNode
  tracker := plainTracker
  order := bridgedOrder
  plan := plan
  answers := legAnswers (.ok { reached := true })
  rollbackAnswers := fun _ => .ok { success := true }
  contract := .str "0xapp"
  tracked := .empty
  events := [.poll fun _ => poll]
  fresh := rfl
  once := by simp

theorem bridgedPlan_cutsInOrder : CutsInOrder (bridgedPlan 0 1 2) := by
  rintro before leg rest ⟨cut, waits, -⟩
  match before with
  | [] =>
    obtain ⟨rfl, -⟩ := List.cons.inj cut
    exact absurd rfl waits
  | [first] =>
    obtain ⟨rfl, cut₁⟩ := List.cons.inj cut
    obtain ⟨rfl, -⟩ := List.cons.inj cut₁
    exact absurd rfl waits
  | [first, bridge] =>
    obtain ⟨rfl, cut₁⟩ := List.cons.inj cut
    obtain ⟨rfl, cut₂⟩ := List.cons.inj cut₁
    obtain ⟨rfl, rfl⟩ := List.cons.inj cut₂
    simp
  | first :: bridge :: last :: later =>
    have lengths := congrArg List.length cut
    simp [bridgedPlan] at lengths

def rolledBackLeg : Milestone → Option LegPlan
  | .rolledBack leg => some leg
  | _ => none

def settledLegOf : Milestone → Option LegPlan
  | .submitted leg (.ok result) => if result.success then some leg else none
  | _ => none

def owedRollbacks (plan : MultiLegPlan) (marks : List Milestone) : List LegPlan :=
  (marks.filterMap settledLegOf).reverse.filterMap fun leg =>
    plan.rollbackLegs.find? fun r => r.rollbackFor == some leg.legIndex

theorem settledLegOf_settled :
    (settled.map SettledLeg.mark).filterMap settledLegOf = settled.map SettledLeg.leg := by
  induction settled with
  | nil => rfl
  | cons s rest ih =>
    have first : settledLegOf s.mark = some s.leg := if_pos s.success
    rw [List.map_cons, List.filterMap_cons, first, List.map_cons]
    exact congrArg _ ih

theorem rolledBackLeg_settled :
    (settled.map SettledLeg.mark).filterMap rolledBackLeg = [] := by
  induction settled with
  | nil => rfl
  | cons s rest ih => exact ih

theorem TrackerRun.rollsNothingBack {srcTxHash legs} (run : TrackerRun srcTxHash legs marks) :
    marks.filterMap rolledBackLeg = [] := by
  have watched (n : Nat) : (List.replicate n (.arrived srcTxHash)).filterMap rolledBackLeg = [] := by
    apply List.filterMap_eq_nil_iff.mpr
    intro m member
    obtain rfl := List.eq_of_mem_replicate member
    rfl
  cases run with
  | watched => exact watched _
  | failed =>
    rw [List.filterMap_append, watched]
    rfl
  | executed ran =>
    rw [List.filterMap_append, watched, List.nil_append]
    cases ran with
    | filled all =>
      rw [List.filterMap_append, rolledBackLeg_settled]
      rfl
    | @failed settled leg rest tail cut attempt =>
      have tried : tail.filterMap rolledBackLeg = [] := by
        apply List.filterMap_eq_nil_iff.mpr
        intro m member
        obtain ⟨answer, rfl, -⟩ := attempt m member
        rfl
      rw [List.filterMap_append, rolledBackLeg_settled, List.filterMap_append, tried]
      rfl

/-- After the hand-off at least the leg that was waited for is settled, and nothing is ever
    rolled back. -/
theorem OrderRun.stranded (run : OrderRun)
    (covered : ∀ leg ∈ run.plan.forwardLegs,
      ∃ r ∈ run.plan.rollbackLegs, r.rollbackFor = some leg.legIndex)
    (handed : ∃ given, .handedOver given ∈ run.life) :
    run.life.filterMap rolledBackLeg = [] ∧ owedRollbacks run.plan run.life ≠ [] := by
  have ran := run.life_run
  generalize run.life = marks at ran handed ⊢
  obtain ⟨given, handed⟩ := handed
  have quiet {settled : List SettledLeg} : .handedOver given ∉ settled.map SettledLeg.mark := by
    simp [SettledLeg.mark]
  cases ran with
  | filled => simp [quiet] at handed
  | parked => exact absurd handed quiet
  | @failed settled leg rest answer marks unblocked cut free unsettled undone =>
    have among : .handedOver given ∉ marks := fun member => undone _ member
    simp [quiet, among] at handed
  | @stopped settled marks unblocked among undone =>
    have among : .handedOver given ∉ marks := fun member => undone _ member
    simp [quiet, among] at handed
  | @handedOver settled leg done rest given tail unblocked cut waits registers follows =>
    constructor
    · rw [List.filterMap_append, rolledBackLeg_settled, List.filterMap_cons]
      exact follows.rollsNothingBack
    · obtain ⟨s, member⟩ : ∃ s, s ∈ settled := by
        apply List.exists_mem_of_ne_nil
        rintro rfl
        have nobody : bridgeDependency [] leg = none :=
          List.findSome?_eq_none_iff.mpr fun _ _ => rfl
        rw [List.map_nil, nobody] at waits
        cases waits
      have listed : s.leg ∈ settled.map SettledLeg.leg := List.mem_map_of_mem member
      obtain ⟨r, among, undoes⟩ := covered s.leg (cut ▸ List.mem_append_left _ listed)
      obtain ⟨r', found⟩ : ∃ r', run.plan.rollbackLegs.find?
          (fun r => r.rollbackFor == some s.leg.legIndex) = some r' :=
        Option.isSome_iff_exists.mp (List.find?_isSome.mpr ⟨r, among, by simp [undoes]⟩)
      apply List.ne_nil_of_mem (a := r')
      unfold owedRollbacks
      rw [List.filterMap_append, settledLegOf_settled]
      exact List.mem_filterMap.mpr ⟨s.leg, by simp [listed], found⟩

def RollsBackOnFailure (plan : MultiLegPlan) (marks : List Milestone) : Prop :=
  .bridgeFailed ∈ marks → marks.filterMap rolledBackLeg = owedRollbacks plan marks

/-- An order that was handed over and then failed is left as it is. -/
theorem never_rolled_back_after_hand_off (run : OrderRun)
    (covered : ∀ leg ∈ run.plan.forwardLegs,
      ∃ r ∈ run.plan.rollbackLegs, r.rollbackFor = some leg.legIndex)
    (handed : ∃ given, .handedOver given ∈ run.life) (failed : .bridgeFailed ∈ run.life) :
    ¬ RollsBackOnFailure run.plan run.life := by
  intro rollsBack
  obtain ⟨nothing, owed⟩ := run.stranded covered handed
  exact owed ((rollsBack failed).symm.trans nothing)

def lostTransfer : PollAnswers where
  status := some (.ok { status := .failed })
  order := some bridgedOrder
  leg := fun _ => destAnswers (.ok { reached := true })
  legacy := destAnswers (.ok { reached := true })

def lostRun : OrderRun := bridgedRun (bridgedPlan 0 1 2) lostTransfer

def Milestone.isHandedOver : Milestone → Bool
  | .handedOver _ => true
  | _ => false

def Milestone.isBridgeFailed : Milestone → Bool
  | .bridgeFailed => true
  | _ => false

theorem lostRun_handedOver : ∃ given, .handedOver given ∈ lostRun.life := by
  have handed : lostRun.life.any Milestone.isHandedOver = true := by decide +kernel
  obtain ⟨m, member, isHanded⟩ := List.any_eq_true.mp handed
  cases m with
  | handedOver given => exact ⟨given, member⟩
  | submitted | rolledBack | arrived | filled | bridgeFailed => cases isHanded

theorem lostRun_failed : .bridgeFailed ∈ lostRun.life := by
  have failed : lostRun.life.any Milestone.isBridgeFailed = true := by decide +kernel
  obtain ⟨m, member, isFailed⟩ := List.any_eq_true.mp failed
  cases m with
  | bridgeFailed => exact member
  | submitted | rolledBack | arrived | filled | handedOver => cases isFailed

/-- Two legs are settled and the transfer is lost: neither of them is rolled back. -/
theorem lost_transfer_strands_legs :
    ¬ RollsBackOnFailure lostRun.plan lostRun.life ∧
      (owedRollbacks lostRun.plan lostRun.life).map (·.legIndex) = [101, 100] := by
  refine ⟨fun rollsBack => ?_, by decide +kernel⟩
  obtain ⟨nothing, owed⟩ := lostRun.stranded (by decide) lostRun_handedOver
  exact owed ((rollsBack lostRun_failed).symm.trans nothing)

theorem never_rolled_back_lost_transfer : ¬ RollsBackOnFailure lostRun.plan lostRun.life :=
  never_rolled_back_after_hand_off lostRun (by decide) lostRun_handedOver lostRun_failed

end MinotaurSubnet.BridgeTracker
