import MinotaurSubnet.Relayer.BridgeTracker

/-! # How the tracker runs a leg

The ways one destination leg can go and what each of them calls. The rest of the
development about the tracker reads off these, not off the definitions.
-/

namespace MinotaurSubnet.BridgeTracker

open Library Python Consensus Shared Orderbook Blockloop
open Bridge (EscrowParams)

def TrackerAction.Escrow : TrackerAction → Prop
  | .escrowDeposit _ _ | .proposeRelease _ _ | .escrowRelease _ _ _ => True
  | _ => False

def bridgeFailed (error : String) : TrackerAction :=
  .update { status := some .bridgeFailed, error := some (some error) }

section

variable (node : Tracker) (order : BookOrder) (contract : Value)

def asked (what : Submission) (plan : ExecutionPlan) (answer : Except PyError ConsensusResult) :
    List TrackerAction :=
  if node.hasConsensus && contract.truthy then
    ((hashPlan node.host node.jsonDumps plan).map fun planHash => .propose what planHash answer).toList
  else []

theorem consultDest_eq (what : Submission) (plan : ExecutionPlan)
    (answer : Except PyError ConsensusResult) :
    ∃ consensus, consultDest node contract what plan answer =
      ⟨asked node contract what plan answer, .ok consensus⟩ := by
  unfold consultDest asked
  cases node.hasConsensus && contract.truthy with
  | false => exact ⟨none, rfl⟩
  | true =>
    cases hashPlan node.host node.jsonDumps plan with
    | none => exact ⟨none, rfl⟩
    | some planHash => exact ⟨answer.toOption, rfl⟩

theorem releaseSignatures_escrow (releaseHash : String) (answer : Except PyError ConsensusResult) :
    (releaseSignatures node releaseHash answer).All TrackerAction.Escrow := by
  unfold releaseSignatures
  cases node.hasConsensus with
  | false => exact Traced.all_pure _
  | true =>
    refine Traced.All.bind (Traced.all_emit.mpr trivial) fun _ _ => ?_
    cases answer with
    | ok result => exact Traced.all_pure _
    | error e => exact Traced.all_pure _

theorem escrowFlow_escrow (params : EscrowParams) (chainId : Int) (answers : EscrowAnswers) :
    (escrowFlow node params chainId answers).All TrackerAction.Escrow := by
  refine Traced.All.bind (Traced.all_emit.mpr trivial) fun _ _ => ?_
  refine Traced.All.bind (Traced.all_lift _) fun _ _ => ?_
  refine Traced.All.bind (Traced.all_lift _) fun releaseHash _ => ?_
  refine Traced.All.bind (releaseSignatures_escrow node releaseHash _) fun signatures _ => ?_
  cases signatures.isEmpty with
  | true => exact Traced.all_pure _
  | false => exact Traced.All.bind (Traced.all_emit.mpr trivial) fun _ _ => Traced.all_lift _

theorem escrowLeg_eq (escrows : List EscrowParams) (leg : LegPlan) (answers : EscrowAnswers) :
    ∃ calls, (∀ a ∈ calls, a.Escrow) ∧
      escrowLeg node contract escrows leg answers = ⟨calls, .ok ()⟩ := by
  unfold escrowLeg
  cases escrows.find? fun params => params.legIndex == leg.legIndex with
  | none => exact ⟨[], by simp, rfl⟩
  | some params =>
    cases contract.truthy && node.hasEscrow with
    | false => exact ⟨[], by simp, rfl⟩
    | true =>
      refine ⟨(escrowFlow node params leg.chainId answers).trace,
        escrowFlow_escrow node params leg.chainId answers, ?_⟩
      simp
      rw [Traced.bind_ok (Traced.result_caught _), Traced.trace_caught]
      simp [Traced.trace_pure, Traced.result_pure]

inductive DestRun (position : Nat) (leg : LegPlan) (answers : DestAnswers) :
    Tracking (Option SubmitResult) → Prop where
  | unbuildable {e : PyError} (raises : legExecutionPlan order leg [] = .error e) :
      DestRun position leg answers ⟨[], .error e⟩
  | simulationFailed {plan : ExecutionPlan} (built : legExecutionPlan order leg [] = .ok plan)
      (fails : simulationPasses node contract answers.simulate = false) (error : String) :
      DestRun position leg answers ⟨[bridgeFailed error], .ok none⟩
  | submitted {plan : ExecutionPlan} {calls : List TrackerAction} {result : SubmitResult}
      {consensus : Option ConsensusResult} (built : legExecutionPlan order leg [] = .ok plan)
      (passes : simulationPasses node contract answers.simulate = true)
      (escrow : ∀ a ∈ calls, a.Escrow) (answered : answers.submit = .ok result)
      (success : result.success = true) :
      DestRun position leg answers
        ⟨calls ++ (asked node contract (.forwardLeg position leg) plan answers.propose ++
          [.submit (.forwardLeg position leg) plan consensus answers.submit]), .ok (some result)⟩
  | submitFailed {plan : ExecutionPlan} {calls : List TrackerAction}
      {consensus : Option ConsensusResult} (built : legExecutionPlan order leg [] = .ok plan)
      (passes : simulationPasses node contract answers.simulate = true)
      (escrow : ∀ a ∈ calls, a.Escrow)
      (unsettled : ∀ result, answers.submit = .ok result → result.success = false)
      (error : String) :
      DestRun position leg answers
        ⟨calls ++ (asked node contract (.forwardLeg position leg) plan answers.propose ++
          [.submit (.forwardLeg position leg) plan consensus answers.submit, bridgeFailed error]),
          .ok none⟩

theorem destLeg_run (escrows : List EscrowParams) (position : Nat) (leg : LegPlan)
    (answers : DestAnswers) :
    DestRun node order contract position leg answers
      (destLeg node order contract escrows position leg answers) := by
  unfold destLeg
  cases built : legExecutionPlan order leg [] with
  | error e => exact .unbuildable built
  | ok plan =>
    rw [Traced.bind_ok (Traced.result_lift _)]
    cases passes : simulationPasses node contract answers.simulate with
    | false => exact .simulationFailed built passes _
    | true =>
      obtain ⟨calls, escrow, deposited⟩ := escrowLeg_eq node contract escrows leg answers.escrow
      obtain ⟨consensus, consulted⟩ :=
        consultDest_eq node contract (.forwardLeg position leg) plan answers.propose
      simp only [if_true, deposited, consulted]
      rw [Traced.bind_ok rfl, Traced.bind_ok rfl]
      dsimp only
      cases answered : answers.submit with
      | error e =>
        have ran : DestRun node order contract position leg answers
            ⟨_ ++ (_ ++ [.submit _ _ consensus _, _]), _⟩ :=
          .submitFailed built passes escrow (by simp [answered])
            s!"Dest leg failed: {node.str e}"
        rw [answered] at ran
        exact ran
      | ok result =>
        cases success : result.success with
        | true =>
          have ran : DestRun node order contract position leg answers
              ⟨_ ++ (_ ++ [.submit _ _ consensus _]), _⟩ :=
            .submitted built passes escrow answered success
          rw [answered] at ran
          simp only [success, if_true]
          exact ran
        | false =>
          have ran : DestRun node order contract position leg answers
              ⟨_ ++ (_ ++ [.submit _ _ consensus _, _]), _⟩ :=
            .submitFailed built passes escrow (by simp [answered, success])
              s!"Dest leg {leg.legIndex} failed: {Blockloop.orNone result.error}"
          rw [answered] at ran
          simp [success]
          exact ran

end

end MinotaurSubnet.BridgeTracker
