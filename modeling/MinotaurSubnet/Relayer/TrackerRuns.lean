import MinotaurSubnet.Blockloop.MultiLegRuns
import MinotaurSubnet.Relayer.TrackerConsensus

/-! # What becomes of a tracked bridge

The tracker serves many orders; what it does for one of them depends on its own bridge and
on the answers about it alone. Over any number of polls a bridge is watched, then given up
or followed by one execution of the legs that are left.
-/

namespace MinotaurSubnet.BridgeTracker

open Library Python Consensus Shared Orderbook Blockloop
open Bridge (EscrowParams)

section

variable (node : Tracker)

def history : Tracked → List Event → List (String × TrackerAction)
  | _, [] => []
  | tracked, e :: rest => (step node tracked e).2 ++ history (step node tracked e).1 rest

def callsFor (orderId : String) (calls : List (String × TrackerAction)) : List TrackerAction :=
  calls.filterMap fun call => if call.1 = orderId then some call.2 else none

def pollsFor (orderId : String) (events : List Event) : List PollAnswers :=
  events.filterMap fun
    | .track _ _ => none
    | .poll answers => some (answers orderId)

def watch : Option TrackedBridge → List PollAnswers → List TrackerAction
  | none, _ | _, [] => []
  | some tracked, answers :: rest =>
    let (calls, outcome) := pollBridge node answers tracked.counted
    calls ++ watch (if outcome.removed then none else some tracked.counted) rest

theorem callsFor_append (orderId : String) (xs ys : List (String × TrackerAction)) :
    callsFor orderId (xs ++ ys) = callsFor orderId xs ++ callsFor orderId ys :=
  List.filterMap_append

theorem callsFor_poll (orderId : String) (tracked : Tracked) (answers : String → PollAnswers) :
    callsFor orderId (step node tracked (.poll answers)).2 =
      ((tracked.get? orderId).map fun bridge =>
        (pollBridge node (answers orderId) bridge.counted).1).getD [] := by
  have own := Dict.filterMap_flatMap_entries (tracked.mapValues fun _ bridge => bridge.counted)
    (fun orderId bridge => (pollBridge node (answers orderId) bridge).1) orderId
  rw [Dict.get?_mapValues, Option.map_map] at own
  exact own

theorem get?_poll (orderId : String) (tracked : Tracked) (answers : String → PollAnswers) :
    (step node tracked (.poll answers)).1.get? orderId =
      (tracked.get? orderId).bind fun bridge =>
        if (pollBridge node (answers orderId) bridge.counted).2.removed then none
        else some bridge.counted := by
  have kept := Dict.get?_filter (tracked.mapValues fun _ bridge => bridge.counted)
    (fun orderId bridge => !(pollBridge node (answers orderId) bridge).2.removed) orderId
  rw [Dict.get?_mapValues] at kept
  refine Eq.trans kept ?_
  cases tracked.get? orderId with
  | none => rfl
  | some bridge =>
    cases removed : (pollBridge node (answers orderId) bridge.counted).2.removed <;>
      simp [Option.filter, removed]

theorem watch_none (polls : List PollAnswers) : watch node none polls = [] := by
  cases polls <;> rfl

theorem callsFor_history {orderId} (events : List Event) (tracked : Tracked)
    (once : ∀ bridge, .track orderId bridge ∉ events) :
    callsFor orderId (history node tracked events) =
      watch node (tracked.get? orderId) (pollsFor orderId events) := by
  induction events generalizing tracked with
  | nil => cases tracked.get? orderId <;> rfl
  | cons e rest ih =>
    have onward := ih (step node tracked e).1 fun bridge member =>
      once bridge (List.mem_cons_of_mem _ member)
    rw [history, callsFor_append, onward]
    cases e with
    | track orderId' bridge =>
      have other : orderId ≠ orderId' := by
        rintro rfl
        exact once bridge List.mem_cons_self
      have kept : (step node tracked (.track orderId' bridge)).1.get? orderId =
          tracked.get? orderId := Dict.get?_set_ne _ _ other
      rw [kept]
      rfl
    | poll answers =>
      rw [callsFor_poll, get?_poll]
      cases tracked.get? orderId with
      | none => simp [watch_none]
      | some bridge => rfl

end

def TrackerAction.milestone : TrackerAction → Option Milestone
  | .update u =>
    if u.status = some .filled then some .filled
    else if u.status = some .bridgeFailed then some .bridgeFailed
    else none
  | .checkStatus srcTxHash _ _ (.ok status) =>
    if status.status = .completed then some (.arrived srcTxHash) else none
  | .submit (.forwardLeg _ leg) _ _ answer => some (.submitted leg answer)
  | .submit (.rollbackLeg leg) _ _ _ => some (.rolledBack leg)
  | _ => none

def milestones (calls : List TrackerAction) : List Milestone :=
  calls.filterMap TrackerAction.milestone

theorem milestones_append (xs ys : List TrackerAction) :
    milestones (xs ++ ys) = milestones xs ++ milestones ys := List.filterMap_append

theorem milestones_escrow {calls} (escrow : ∀ a ∈ calls, a.Escrow) :
    milestones calls = [] := by
  apply List.filterMap_eq_nil_iff.mpr
  intro a member
  have quiet := escrow a member
  cases a with
  | escrowDeposit | proposeRelease | escrowRelease => rfl
  | update | checkStatus | seedTokens | propose | submit => exact quiet.elim

theorem milestones_asked (node : Tracker) (contract : Value) (what : Submission) (plan : ExecutionPlan)
    (answer : Except PyError ConsensusResult) :
    milestones (asked node contract what plan answer) = [] := by
  unfold asked
  split
  · cases hashPlan node.host node.jsonDumps plan with
    | none => rfl
    | some planHash => rfl
  · rfl

/-- The ways the legs that are left can go, once they can be built at all. -/
inductive DestLegsRun (legs : List LegPlan) : List Milestone → Option (Option String) → Prop where
  | all {settled : List SettledLeg} {txHash : Option String}
      (all : settled.map SettledLeg.leg = legs) :
      DestLegsRun legs (settled.map SettledLeg.mark) (some txHash)
  | failed {settled : List SettledLeg} {leg : LegPlan} {rest : List LegPlan} {tail : List Milestone}
      (cut : legs = settled.map SettledLeg.leg ++ leg :: rest)
      (attempt : ∀ m ∈ tail, ∃ answer, m = .submitted leg answer ∧ Unsettled answer) :
      DestLegsRun legs (settled.map SettledLeg.mark ++ (tail ++ [.bridgeFailed])) none

theorem DestLegsRun.cons {s : SettledLeg} {legs marks outcome}
    (run : DestLegsRun legs marks outcome) :
    DestLegsRun (s.leg :: legs) (s.mark :: marks) outcome := by
  cases run with
  | @all settled txHash all =>
    exact @DestLegsRun.all _ (s :: settled) txHash (by rw [List.map_cons, all])
  | @failed settled leg rest tail cut attempt =>
    exact @DestLegsRun.failed _ (s :: settled) leg rest tail (by rw [List.map_cons, cut]; rfl) attempt

section

variable {node : Tracker} {order : BookOrder} {contract : Value}

theorem DestRun.milestones {position leg answers run}
    (ran : DestRun node order contract position leg answers run) {plan}
    (built : legExecutionPlan order leg [] = .ok plan) :
    (∃ s : SettledLeg, s.leg = leg ∧ run.result = .ok (some s.result) ∧
        BridgeTracker.milestones run.trace = [s.mark]) ∨
      run.result = .ok none ∧ ∃ tail, BridgeTracker.milestones run.trace = tail ++ [.bridgeFailed] ∧
        ∀ m ∈ tail, ∃ answer, m = .submitted leg answer ∧ Unsettled answer := by
  cases ran with
  | unbuildable raises => simp [raises] at built
  | simulationFailed => exact .inr ⟨rfl, [], rfl, by simp⟩
  | @submitted _ _ result _ _ _ escrow answered success =>
    refine .inl ⟨⟨leg, result, success⟩, rfl, rfl, ?_⟩
    dsimp only
    rw [milestones_append, milestones_append, milestones_escrow escrow, milestones_asked, answered]
    rfl
  | submitFailed _ _ escrow unsettled =>
    refine .inr ⟨rfl, [.submitted leg answers.submit], ?_, by simpa [Unsettled] using unsettled⟩
    dsimp only
    rw [milestones_append, milestones_append, milestones_escrow escrow, milestones_asked]
    rfl

theorem destLegs_run {escrows} {answers : Nat → DestAnswers}
    (buildable : ∀ leg, ∃ plan, legExecutionPlan order leg [] = .ok plan) (legs : List LegPlan)
    (position : Nat) (txHash : Option String) :
    ∃ outcome, (destLegs node order contract escrows answers position legs txHash).result =
        .ok outcome ∧
      DestLegsRun legs
        (milestones (destLegs node order contract escrows answers position legs txHash).trace)
        outcome := by
  induction legs generalizing position txHash with
  | nil => exact ⟨some txHash, rfl, @DestLegsRun.all _ [] _ rfl⟩
  | cons leg rest ih =>
    obtain ⟨plan, built⟩ := buildable leg
    unfold destLegs
    rcases (destLeg_run node order contract escrows position leg (answers position)).milestones
      built with ⟨s, same, ended, marked⟩ | ⟨ended, tail, marked, attempt⟩
    · obtain ⟨outcome, finished, run⟩ := ih (position + 1) s.result.txHash
      rw [Traced.bind_ok ended]
      refine ⟨outcome, finished, ?_⟩
      dsimp only
      rw [milestones_append, marked, ← same]
      exact run.cons
    · rw [Traced.bind_ok ended]
      refine ⟨none, rfl, ?_⟩
      have stopped : milestones (Pure.pure none : Tracking (Option (Option String))).trace = [] := rfl
      dsimp only
      rw [milestones_append, marked, stopped, List.append_nil]
      exact @DestLegsRun.failed _ [] leg rest tail rfl attempt

inductive Execution (legs : List LegPlan) : List Milestone → Prop where
  | filled {settled : List SettledLeg} (all : settled.map SettledLeg.leg = legs) :
      Execution legs (settled.map SettledLeg.mark ++ [.filled])
  | failed {settled : List SettledLeg} {leg : LegPlan} {rest : List LegPlan} {tail : List Milestone}
      (cut : legs = settled.map SettledLeg.leg ++ leg :: rest)
      (attempt : ∀ m ∈ tail, ∃ answer, m = .submitted leg answer ∧ Unsettled answer) :
      Execution legs (settled.map SettledLeg.mark ++ (tail ++ [.bridgeFailed]))

theorem executeRemainingLegs_run {plan} (answers : Nat → DestAnswers)
    (left : plan.remainingLegs ≠ []) :
    ((executeRemainingLegs node order contract plan answers).result = .ok () ∧
        Execution plan.remainingLegs
          (milestones (executeRemainingLegs node order contract plan answers).trace)) ∨
      ∃ e, (executeRemainingLegs node order contract plan answers).result = .error e ∧
        milestones (executeRemainingLegs node order contract plan answers).trace = [] := by
  unfold executeRemainingLegs
  rw [Traced.bind_ok (Traced.result_emit _)]
  cases deadline : order.deadline.toInt with
  | error e =>
    have unbuildable : ∀ leg, legExecutionPlan order leg [] = .error e := by
      intro leg
      unfold legExecutionPlan
      rw [deadline]
      rfl
    obtain ⟨leg, rest, legs⟩ := List.exists_cons_of_ne_nil left
    rw [legs]
    unfold destLegs destLeg
    rw [unbuildable, Traced.bind_error (Traced.result_lift _), Traced.bind_error rfl,
      Traced.bind_error rfl]
    exact .inr ⟨e, rfl, rfl⟩
  | ok seconds =>
    have buildable : ∀ leg, ∃ plan, legExecutionPlan order leg [] = .ok plan := by
      intro leg
      unfold legExecutionPlan
      rw [deadline]
      exact ⟨_, rfl⟩
    obtain ⟨outcome, ended, run⟩ :=
      @destLegs_run node order contract plan.escrowParams answers buildable plan.remainingLegs 0 none
    rw [Traced.bind_ok ended]
    refine .inl ?_
    dsimp only
    rw [milestones_append, milestones_append]
    generalize milestones (destLegs node order contract plan.escrowParams answers 0
      plan.remainingLegs none).trace = marks at run ⊢
    cases run with
    | all all => exact ⟨rfl, .filled all⟩
    | failed cut attempt =>
      refine ⟨rfl, ?_⟩
      have stopped : milestones (Pure.pure () : Tracking Unit).trace = [] := rfl
      rw [stopped, List.append_nil]
      exact .failed cut attempt

end

section

variable {node : Tracker}

inductive PollRun (srcTxHash : String) (legs : List LegPlan) : List Milestone → PollOutcome → Prop where
  | quiet : PollRun srcTxHash legs [] {}
  | failed : PollRun srcTxHash legs [.bridgeFailed] { removed := true }
  /-- The transfer is complete, but the order is gone or its legs cannot be built. -/
  | idle {outcome : PollOutcome} : PollRun srcTxHash legs [.arrived srcTxHash] outcome
  | executed {marks : List Milestone} (ran : Execution legs marks) :
      PollRun srcTxHash legs (.arrived srcTxHash :: marks) { removed := true, completed := true }

theorem pollBridge_run (answers : PollAnswers) (tracked : TrackedBridge)
    (left : tracked.plan.remainingLegs ≠ []) :
    PollRun tracked.srcTxHash tracked.plan.remainingLegs
      (milestones (pollBridge node answers tracked).1) (pollBridge node answers tracked).2 := by
  unfold pollBridge
  split
  · exact .failed
  cases answers.status with
  | none => exact .quiet
  | some answer =>
    dsimp only
    unfold checkBridge
    rw [Traced.bind_ok (Traced.result_emit _)]
    cases answer with
    | error e =>
      rw [Traced.bind_error (Traced.result_lift _)]
      exact .quiet
    | ok status =>
      rw [Traced.bind_ok (Traced.result_lift _)]
      dsimp only
      cases reported : status.status with
      | pending | inTransit =>
        simp [milestones, Traced.trace_emit, Traced.trace_lift, Traced.trace_pure, TrackerAction.milestone, reported]
        exact .quiet
      | failed =>
        have marks : milestones ([.checkStatus tracked.srcTxHash tracked.srcChainId
            tracked.dstChainId (.ok status)] : List TrackerAction) = [] := by
          simp [milestones, TrackerAction.milestone, reported]
        dsimp only [Traced.trace_emit]
        rw [milestones_append, marks]
        exact .failed
      | completed =>
        have marks : milestones ([.checkStatus tracked.srcTxHash tracked.srcChainId
            tracked.dstChainId (.ok status)] : List TrackerAction) =
              [.arrived tracked.srcTxHash] := by
          simp [milestones, TrackerAction.milestone, reported]
        dsimp only [Traced.trace_emit, Traced.trace_lift]
        rw [milestones_append, marks, List.nil_append]
        have finished : PollRun tracked.srcTxHash tracked.plan.remainingLegs
            ([.arrived tracked.srcTxHash] ++
              milestones (onBridgeComplete node answers tracked).trace)
            ((do
              onBridgeComplete node answers tracked
              return { removed := true, completed := true } :
                Tracking PollOutcome).result.toOption.getD {}) := by
          unfold onBridgeComplete
          cases answers.order with
          | none => exact .idle
          | some order =>
            have some_left : tracked.plan.remainingLegs.isEmpty = false := by
              simpa using left
            dsimp only
            rw [if_neg (by simp [some_left])]
            rcases @executeRemainingLegs_run node order
              (tracked.plan.contractAddress.or (order.param "app_address")) tracked.plan
              answers.leg left with ⟨ended, ran⟩ | ⟨e, ended, nothing⟩
            · rw [Traced.bind_ok ended]
              exact .executed ran
            · rw [Traced.bind_error ended, nothing]
              exact .idle
        rw [Traced.trace_bind_pure (onBridgeComplete node answers tracked)
          fun _ => ({ removed := true, completed := true } : PollOutcome)]
        exact finished

inductive TrackerRun (srcTxHash : String) (legs : List LegPlan) : List Milestone → Prop where
  | watched {n : Nat} : TrackerRun srcTxHash legs (List.replicate n (.arrived srcTxHash))
  | failed {n : Nat} :
      TrackerRun srcTxHash legs (List.replicate n (.arrived srcTxHash) ++ [.bridgeFailed])
  | executed {n : Nat} {marks : List Milestone} (ran : Execution legs marks) :
      TrackerRun srcTxHash legs (List.replicate (n + 1) (.arrived srcTxHash) ++ marks)

theorem TrackerRun.arrived {srcTxHash legs marks} (run : TrackerRun srcTxHash legs marks) :
    TrackerRun srcTxHash legs (.arrived srcTxHash :: marks) := by
  cases run with
  | @watched n => exact .watched (n := n + 1)
  | @failed n => exact .failed (n := n + 1)
  | @executed n marks ran => exact .executed (n := n + 1) ran

theorem watch_run (polls : List PollAnswers) (tracked : TrackedBridge)
    (left : tracked.plan.remainingLegs ≠ []) :
    TrackerRun tracked.srcTxHash tracked.plan.remainingLegs
      (milestones (watch node (some tracked) polls)) := by
  induction polls generalizing tracked with
  | nil => exact .watched (n := 0)
  | cons answers rest ih =>
    have onward := ih tracked.counted left
    have poll := @pollBridge_run node answers tracked.counted left
    unfold watch
    dsimp only
    rw [milestones_append]
    generalize milestones (pollBridge node answers tracked.counted).1 = marks at poll
    generalize (pollBridge node answers tracked.counted).2 = outcome at poll
    cases poll with
    | quiet => exact onward
    | failed =>
      rw [if_pos rfl, watch_none]
      exact .failed (n := 0)
    | idle =>
      cases outcome.removed with
      | false => exact onward.arrived
      | true =>
        rw [if_pos rfl, watch_none]
        exact .watched (n := 1)
    | executed ran =>
      have removed : milestones ([] : List TrackerAction) = [] := rfl
      rw [if_pos rfl, watch_none, removed, List.append_nil]
      exact .executed (n := 0) ran

end

end MinotaurSubnet.BridgeTracker
