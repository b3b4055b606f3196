import MinotaurSubnet.Relayer.DestinationLegs

/-! # Which destination legs the relayer gets

The tracker asks for consensus on every destination leg and submits the leg whatever the
answer was. So a leg goes out approved exactly when the validators happen to agree.
-/

namespace MinotaurSubnet.BridgeTracker

open Library Python Consensus Shared Orderbook Blockloop
open Bridge (EscrowParams)

/-- A destination leg goes to the relayer only after consensus on the hash of its plan. -/
def Gated (node : Tracker) (before : List TrackerAction) : TrackerAction → Prop
  | .submit what plan _ _ => ∃ planHash result,
      hashPlan node.host node.jsonDumps plan = some planHash ∧
        .propose what planHash (.ok result) ∈ before ∧ result.reached = true
  | _ => True

def DestAnswers.Settles (answers : DestAnswers) : Prop :=
  ∃ result, answers.submit = .ok result ∧ result.success = true

def Approves (node : Tracker) (contract : Value) (plan : ExecutionPlan)
    (proposed : Except PyError ConsensusResult) : Prop :=
  contract.truthy = true ∧ (∃ planHash, hashPlan node.host node.jsonDumps plan = some planHash) ∧
    ∃ result, proposed = .ok result ∧ result.reached = true

theorem Gated.mono {node} (xs before : List TrackerAction) (e : TrackerAction)
    (gated : Gated node before e) : Gated node (xs ++ before) e := by
  cases e with
  | submit what plan consensus answer =>
    obtain ⟨planHash, result, hashed, proposed, reached⟩ := gated
    exact ⟨planHash, result, hashed, List.mem_append_right _ proposed, reached⟩
  | update | checkStatus | escrowDeposit | proposeRelease | escrowRelease | seedTokens | propose =>
    trivial

theorem follows_gated_checkStatus {node srcTxHash srcChainId dstChainId answer rest} :
    Follows (Gated node) (.checkStatus srcTxHash srcChainId dstChainId answer :: rest) ↔
      Follows (Gated node) rest := by
  rw [follows_cons]
  have same : (fun before => Gated node
      (.checkStatus srcTxHash srcChainId dstChainId answer :: before)) = Gated node := by
    funext before e
    cases e with
    | submit => simp [Gated]
    | update | checkStatus | escrowDeposit | proposeRelease | escrowRelease | seedTokens | propose =>
      rfl
  rw [same]
  simp [Gated]

section

variable {node : Tracker} {order : BookOrder} {contract : Value}

theorem follows_gated_of_escrow {calls} (escrow : ∀ a ∈ calls, a.Escrow) :
    Follows (Gated node) calls := by
  apply follows_of_forall
  intro a member before
  cases a with
  | submit => exact (escrow _ member).elim
  | update | checkStatus | escrowDeposit | proposeRelease | escrowRelease | seedTokens | propose =>
    trivial

theorem follows_gated_submit (configured : node.hasConsensus = true)
    {what plan proposed consensus answer after} (approves : Approves node contract plan proposed)
    (quiet : ∀ a ∈ after, ∀ before, Gated node before a) :
    Follows (Gated node)
      (asked node contract what plan proposed ++ .submit what plan consensus answer :: after) := by
  obtain ⟨contracted, ⟨planHash, hashed⟩, result, rfl, reached⟩ := approves
  have one : asked node contract what plan (.ok result) = [.propose what planHash (.ok result)] := by
    simp [asked, configured, contracted, hashed]
  rw [one, List.singleton_append, follows_cons, follows_cons]
  refine ⟨trivial, ⟨planHash, result, hashed, by simp, reached⟩, ?_⟩
  exact follows_of_forall fun a member before => quiet a member _

theorem mem_asked {what what' plan planHash proposed answer}
    (member : .propose what' planHash answer ∈ asked node contract what plan proposed) :
    what' = what ∧ hashPlan node.host node.jsonDumps plan = some planHash ∧ answer = proposed ∧
      contract.truthy = true := by
  unfold asked at member
  split at member
  · next configured =>
      cases hashed : hashPlan node.host node.jsonDumps plan with
      | none => simp [hashed] at member
      | some planHash' =>
        simp only [hashed, Option.map_some, Option.toList_some, List.mem_singleton] at member
        cases member
        exact ⟨rfl, rfl, rfl, (Bool.and_eq_true_iff.mp configured).2⟩
  · cases member

theorem propose_notMem_escrow {calls : List TrackerAction} {what : Submission} {planHash : String}
    {answer : Except PyError ConsensusResult} (escrow : ∀ a ∈ calls, a.Escrow) :
    .propose what planHash answer ∉ calls := fun member => escrow _ member

section

variable {position : Nat} {leg : LegPlan} {answers : DestAnswers}
  {run : Tracking (Option SubmitResult)}

theorem DestRun.submits (ran : DestRun node order contract position leg answers run) {plan}
    (built : legExecutionPlan order leg [] = .ok plan)
    (passes : simulationPasses node contract answers.simulate = true) :
    ∃ consensus, .submit (.forwardLeg position leg) plan consensus answers.submit ∈ run.trace := by
  cases ran with
  | unbuildable raises => simp [raises] at built
  | simulationFailed _ fails => simp [fails] at passes
  | @submitted _ _ _ consensus built' =>
    cases built.symm.trans built'
    exact ⟨consensus, by simp⟩
  | @submitFailed _ _ consensus built' =>
    cases built.symm.trans built'
    exact ⟨consensus, by simp⟩

theorem DestRun.proposes (ran : DestRun node order contract position leg answers run)
    {what : Submission} {planHash : String} {answer : Except PyError ConsensusResult}
    (member : .propose what planHash answer ∈ run.trace) :
    what = .forwardLeg position leg ∧ answer = answers.propose ∧ contract.truthy = true := by
  cases ran with
  | unbuildable => simp at member
  | simulationFailed => simp [bridgeFailed] at member
  | submitted built passes escrow =>
    simp only [List.mem_append, List.mem_singleton, propose_notMem_escrow escrow, false_or,
      reduceCtorEq, or_false] at member
    obtain ⟨same, -, given, contracted⟩ := mem_asked member
    exact ⟨same, given, contracted⟩
  | submitFailed built passes escrow =>
    simp only [List.mem_append, List.mem_cons, propose_notMem_escrow escrow, false_or,
      reduceCtorEq, bridgeFailed, List.not_mem_nil, or_false] at member
    obtain ⟨same, -, given, contracted⟩ := mem_asked member
    exact ⟨same, given, contracted⟩

theorem DestRun.settles_iff (ran : DestRun node order contract position leg answers run) {plan}
    (built : legExecutionPlan order leg [] = .ok plan) :
    (∃ result, run.result = .ok (some result)) ↔
      simulationPasses node contract answers.simulate = true ∧ answers.Settles := by
  cases ran with
  | unbuildable raises => simp [raises] at built
  | simulationFailed _ fails => simp [fails]
  | submitted _ passes _ answered success => simp [passes, DestAnswers.Settles, answered, success]
  | submitFailed _ passes _ unsettled =>
    simp [passes]
    rintro ⟨result, answered, success⟩
    simp [unsettled result answered] at success

theorem DestRun.gated (configured : node.hasConsensus = true)
    (ran : DestRun node order contract position leg answers run)
    (approves : ∀ plan, legExecutionPlan order leg [] = .ok plan →
      simulationPasses node contract answers.simulate = true →
        Approves node contract plan answers.propose) :
    Follows (Gated node) run.trace := by
  have after {plan : ExecutionPlan} {calls : List TrackerAction} {rest : List TrackerAction}
      (escrow : ∀ a ∈ calls, a.Escrow)
      (gated : Follows (Gated node) (asked node contract (.forwardLeg position leg) plan
        answers.propose ++ rest)) :
      Follows (Gated node) (calls ++ (asked node contract (.forwardLeg position leg) plan
        answers.propose ++ rest)) := by
    refine follows_append.mpr ⟨follows_gated_of_escrow escrow, ?_⟩
    intro before e later split
    exact Gated.mono calls before e (gated before e later split)
  cases ran with
  | unbuildable => exact follows_nil
  | simulationFailed => exact follows_of_forall (by simp [bridgeFailed, Gated])
  | submitted built passes escrow =>
    exact after escrow (follows_gated_submit configured (approves _ built passes) (by simp))
  | submitFailed built passes escrow =>
    exact after escrow (follows_gated_submit configured (approves _ built passes)
      (by simp [bridgeFailed, Gated]))

end

section

variable {escrows : List EscrowParams} {answers : Nat → DestAnswers}

/-- The loop started at `start` comes to submit the leg at `i` under `plan`. -/
def LoopComes (node : Tracker) (order : BookOrder) (contract : Value) (answers : Nat → DestAnswers)
    (start : Nat) (legs : List LegPlan) (i : Nat) (leg : LegPlan) (plan : ExecutionPlan) : Prop :=
  legs[i]? = some leg ∧ legExecutionPlan order leg [] = .ok plan ∧
    simulationPasses node contract (answers (start + i)).simulate = true ∧
    ∀ earlier < i, simulationPasses node contract (answers (start + earlier)).simulate = true ∧
      (answers (start + earlier)).Settles

theorem legExecutionPlan_buildable {leg plan} (other : LegPlan)
    (built : legExecutionPlan order leg [] = .ok plan) :
    ∃ plan', legExecutionPlan order other [] = .ok plan' := by
  unfold legExecutionPlan at built ⊢
  cases deadline : order.deadline.toInt with
  | error e =>
    rw [deadline] at built
    cases built
  | ok seconds => exact ⟨_, rfl⟩

theorem destLegs_submits (legs : List LegPlan) {start i leg plan txHash}
    (comes : LoopComes node order contract answers start legs i leg plan) :
    ∃ consensus, .submit (.forwardLeg (start + i) leg) plan consensus (answers (start + i)).submit ∈
      (destLegs node order contract escrows answers start legs txHash).trace := by
  induction legs generalizing start i txHash with
  | nil => simp [LoopComes] at comes
  | cons first rest ih =>
    obtain ⟨found, built, passes, earlier⟩ := comes
    have ran := destLeg_run node order contract escrows start first (answers start)
    unfold destLegs
    simp only [Traced.mem_bind]
    cases i with
    | zero =>
      cases Option.some.inj found
      obtain ⟨consensus, sent⟩ := ran.submits built passes
      exact ⟨consensus, .inl sent⟩
    | succ i =>
      obtain ⟨plan', built'⟩ := legExecutionPlan_buildable first built
      obtain ⟨result, settled⟩ := (ran.settles_iff built').mpr (earlier 0 (by omega))
      have comes' : LoopComes node order contract answers (start + 1) rest i leg plan := by
        refine ⟨found, built, ?_, fun e before => ?_⟩
        · rwa [Nat.add_assoc, Nat.add_comm 1 i]
        · have := earlier (e + 1) (by omega)
          rwa [Nat.add_assoc, Nat.add_comm 1 e]
      obtain ⟨consensus, sent⟩ := @ih _ _ result.txHash comes'
      rw [Nat.add_assoc, Nat.add_comm 1 i] at sent
      exact ⟨consensus, .inr ⟨some result, settled, sent⟩⟩

theorem destLegs_proposes (legs : List LegPlan) {start : Nat} {txHash : Option String}
    {what : Submission} {planHash : String} {answer : Except PyError ConsensusResult}
    (member : .propose what planHash answer ∈
      (destLegs node order contract escrows answers start legs txHash).trace) :
    ∃ position leg, what = .forwardLeg position leg ∧ answer = (answers position).propose ∧
      contract.truthy = true := by
  induction legs generalizing start txHash with
  | nil => simp [destLegs] at member
  | cons first rest ih =>
    unfold destLegs at member
    simp only [Traced.mem_bind] at member
    rcases member with here | ⟨outcome, ended, later⟩
    · exact ⟨start, first,
        (destLeg_run node order contract escrows start first (answers start)).proposes here⟩
    · cases outcome with
      | none => simp at later
      | some result => exact ih later

theorem destLegs_gated (configured : node.hasConsensus = true) (legs : List LegPlan) {start : Nat}
    {txHash : Option String}
    (approves : ∀ i leg plan, LoopComes node order contract answers start legs i leg plan →
      Approves node contract plan (answers (start + i)).propose) :
    Follows (Gated node)
      (destLegs node order contract escrows answers start legs txHash).trace := by
  induction legs generalizing start txHash with
  | nil => exact follows_nil
  | cons first rest ih =>
    have ran := destLeg_run node order contract escrows start first (answers start)
    unfold destLegs
    apply Follows.bind Gated.mono
    · exact ran.gated configured fun plan built passes =>
        approves 0 first plan ⟨rfl, built, passes, by simp⟩
    · intro outcome ended
      cases outcome with
      | none => exact follows_nil
      | some result =>
        apply ih
        intro i leg plan ⟨found, built, passes, earlier⟩
        obtain ⟨plan', built'⟩ := legExecutionPlan_buildable first built
        have settled := (ran.settles_iff built').mp ⟨result, ended⟩
        have onward := approves (i + 1) leg plan
        rw [Nat.add_comm i 1, ← Nat.add_assoc] at onward
        apply onward
        refine ⟨by rwa [Nat.add_comm, List.getElem?_cons_succ], built, ?_, fun e before => ?_⟩
        · rwa [← Nat.add_assoc]
        · cases e with
          | zero => exact settled
          | succ e =>
            have := earlier e (by omega)
            rwa [Nat.add_comm e 1, ← Nat.add_assoc]

end

section

variable {plan : TrackingPlan} {destPlan : ExecutionPlan} {answers : DestAnswers}

theorem submitLegacy_trace (node : Tracker) (contract : Value) (plan : TrackingPlan)
    (destPlan : ExecutionPlan) (answers : DestAnswers) :
    ∃ consensus, (submitLegacy node contract plan destPlan answers).trace =
      (if plan.substrateOrigin then [.seedTokens] else []) ++
        (asked node contract .order destPlan answers.propose ++
          [.submit .order destPlan consensus answers.submit]) := by
  obtain ⟨consensus, consulted⟩ := consultDest_eq node contract .order destPlan answers.propose
  refine ⟨consensus, ?_⟩
  unfold submitLegacy
  rw [consulted]
  cases plan.substrateOrigin with
  | true => rfl
  | false => rfl

theorem executeLegacyDestLeg_trace {leg} (srcTxHash : String)
    (found : plan.legs.find? (fun leg => leg.type == "destination") = some leg)
    (extracted : extractLegPlan plan leg = .ok destPlan) :
    ∃ consensus u, (executeLegacyDestLeg node contract plan srcTxHash answers).trace =
      (if plan.substrateOrigin then [.seedTokens] else []) ++
        (asked node contract .order destPlan answers.propose ++
          [.submit .order destPlan consensus answers.submit, .update u]) := by
  obtain ⟨consensus, sent⟩ := submitLegacy_trace node contract plan destPlan answers
  refine ⟨consensus, ?_⟩
  unfold executeLegacyDestLeg
  rw [found]
  dsimp only
  rw [extracted, Traced.bind_ok (Traced.result_lift _), Traced.bind_ok (Traced.result_caught _),
    Traced.trace_caught, sent]
  simp [Traced.trace_lift]
  cases (submitLegacy node contract plan destPlan answers).result with
  | error e => exact ⟨_, rfl⟩
  | ok result =>
    cases success : result.success with
    | true =>
      simp only [success, if_true]
      exact ⟨_, rfl⟩
    | false =>
      simp [success]
      exact ⟨_, rfl⟩

theorem executeLegacyDestLeg_gated_iff (configured : node.hasConsensus = true) {leg}
    (srcTxHash : String) (found : plan.legs.find? (fun leg => leg.type == "destination") = some leg)
    (extracted : extractLegPlan plan leg = .ok destPlan) :
    Follows (Gated node) (executeLegacyDestLeg node contract plan srcTxHash answers).trace ↔
      Approves node contract destPlan answers.propose := by
  obtain ⟨consensus, u, ran⟩ :=
    @executeLegacyDestLeg_trace node contract plan destPlan answers leg srcTxHash found extracted
  rw [ran]
  have seeds : ∀ a ∈ (if plan.substrateOrigin then [.seedTokens] else [] : List TrackerAction),
      a = .seedTokens := by
    cases plan.substrateOrigin <;> simp
  generalize (if plan.substrateOrigin then [.seedTokens] else [] : List TrackerAction) = seed at seeds
  constructor
  · intro safe
    obtain ⟨planHash, result, hashed, proposed, reached⟩ := safe
      (seed ++ asked node contract .order destPlan answers.propose)
      (.submit .order destPlan consensus answers.submit) [.update u] (by simp)
    rcases List.mem_append.mp proposed with early | asked
    · cases seeds _ early
    · obtain ⟨-, -, given, contracted⟩ := mem_asked asked
      exact ⟨contracted, ⟨planHash, hashed⟩, result, given.symm, reached⟩
  · intro approves
    refine follows_append.mpr ⟨?_, ?_⟩
    · apply follows_of_forall
      intro a member before
      rw [seeds a member]
      trivial
    · intro before e after split
      exact Gated.mono seed before e
        (follows_gated_submit configured approves (by simp [Gated]) before e after split)

end

end

section

variable {node : Tracker} {answers : PollAnswers} {tracked : TrackedBridge}

def TrackedBridge.contract (tracked : TrackedBridge) (order : BookOrder) : Value :=
  tracked.plan.contractAddress.or (order.param "app_address")

/-- What a completed bridge comes to submit for `order`, and the answer to its consensus call. -/
inductive ComesToSubmit (node : Tracker) (answers : PollAnswers) (tracked : TrackedBridge)
    (order : BookOrder) : Submission → ExecutionPlan → Except PyError ConsensusResult → Prop where
  | remaining {position : Nat} {leg : LegPlan} {plan : ExecutionPlan}
      (comes : LoopComes node order (tracked.contract order) answers.leg 0
        tracked.plan.remainingLegs position leg plan) :
      ComesToSubmit node answers tracked order (.forwardLeg position leg) plan
        (answers.leg position).propose
  | legacy {leg : RouteLeg} {destPlan : ExecutionPlan} (nothingLeft : tracked.plan.remainingLegs = [])
      (found : tracked.plan.legs.find? (fun leg => leg.type == "destination") = some leg)
      (extracted : extractLegPlan tracked.plan leg = .ok destPlan) :
      ComesToSubmit node answers tracked order .order destPlan answers.legacy.propose

def FoundComplete (answers : PollAnswers) (tracked : TrackedBridge) (order : BookOrder) : Prop :=
  tracked.pollCount ≤ tracked.maxPolls ∧ answers.order = some order ∧
    ∃ status, answers.status = some (.ok status) ∧ status.status = .completed

theorem mem_executeRemainingLegs {order contract plan} {answers : Nat → DestAnswers} {a}
    (calls : ∀ u, a ≠ .update u) :
    a ∈ (executeRemainingLegs node order contract plan answers).trace ↔
      a ∈ (destLegs node order contract plan.escrowParams answers 0 plan.remainingLegs none).trace := by
  unfold executeRemainingLegs
  simp only [Traced.mem_bind, Traced.trace_emit, List.mem_singleton, calls, Traced.result_emit,
    exists_const, true_and, false_or, or_iff_left_iff_imp]
  rintro ⟨outcome, -, marked⟩
  cases outcome with
  | none => simp at marked
  | some txHash => simp [markFilled, calls] at marked

theorem executeRemainingLegs_gated_iff (configured : node.hasConsensus = true) {order contract plan}
    {answers : Nat → DestAnswers} :
    Follows (Gated node) (executeRemainingLegs node order contract plan answers).trace ↔
      ∀ position leg legPlan,
        LoopComes node order contract answers 0 plan.remainingLegs position leg legPlan →
          Approves node contract legPlan (answers position).propose := by
  constructor
  · intro safe position leg legPlan comes
    obtain ⟨consensus, sent⟩ :=
      @destLegs_submits node order contract plan.escrowParams answers plan.remainingLegs 0 position
        leg legPlan none comes
    obtain ⟨before, after, split⟩ :=
      List.append_of_mem ((mem_executeRemainingLegs (by simp)).mpr sent)
    obtain ⟨planHash, result, hashed, proposed, reached⟩ := safe before _ after split
    have among : .propose (.forwardLeg (0 + position) leg) planHash (.ok result) ∈
        (executeRemainingLegs node order contract plan answers).trace := by
      rw [split]
      exact List.mem_append_left _ proposed
    obtain ⟨position', leg', same, given, contracted⟩ :=
      destLegs_proposes plan.remainingLegs ((mem_executeRemainingLegs (by simp)).mp among)
    obtain ⟨rfl, rfl⟩ := Submission.forwardLeg.inj same
    rw [Nat.zero_add] at given
    exact ⟨contracted, ⟨planHash, hashed⟩, result, given.symm, reached⟩
  · intro approves
    unfold executeRemainingLegs
    apply Follows.bind Gated.mono
    · exact follows_of_forall (by simp [Gated])
    · intro _ _
      apply Follows.bind Gated.mono
      · apply destLegs_gated configured
        intro i leg legPlan comes
        rw [Nat.zero_add]
        exact approves i leg legPlan comes
      · intro outcome _
        cases outcome with
        | none => exact follows_nil
        | some txHash => exact follows_of_forall (by simp [markFilled, Gated])

theorem onBridgeComplete_gated_iff (configured : node.hasConsensus = true) {order}
    (found : answers.order = some order) :
    Follows (Gated node) (onBridgeComplete node answers tracked).trace ↔
      ∀ what plan proposed, ComesToSubmit node answers tracked order what plan proposed →
        Approves node (tracked.contract order) plan proposed := by
  unfold onBridgeComplete
  rw [found]
  dsimp only
  rw [← TrackedBridge.contract]
  cases left : tracked.plan.remainingLegs.isEmpty with
  | true =>
    have nothingLeft := List.isEmpty_iff.mp left
    simp
    cases destination : tracked.plan.legs.find? (fun leg => leg.type == "destination") with
    | none =>
      unfold executeLegacyDestLeg
      rw [destination]
      constructor
      · intro _ what plan proposed comes
        cases comes with
        | remaining comes => simp [nothingLeft, LoopComes] at comes
        | legacy _ found' => simp [destination] at found'
      · intro _
        exact follows_of_forall (by simp [markFilled, Gated])
    | some leg =>
      cases extracted : extractLegPlan tracked.plan leg with
      | error e =>
        unfold executeLegacyDestLeg
        rw [destination]
        dsimp only
        rw [extracted, Traced.bind_error (Traced.result_lift _)]
        constructor
        · intro _ what plan proposed comes
          cases comes with
          | remaining comes => simp [nothingLeft, LoopComes] at comes
          | legacy _ found' extracted' =>
            cases destination.symm.trans found'
            simp [extracted] at extracted'
        · intro _
          exact follows_nil
      | ok destPlan =>
        rw [executeLegacyDestLeg_gated_iff configured tracked.srcTxHash destination extracted]
        constructor
        · intro approves what plan proposed comes
          cases comes with
          | remaining comes => simp [nothingLeft, LoopComes] at comes
          | legacy _ found' extracted' =>
            cases destination.symm.trans found'
            cases extracted.symm.trans extracted'
            exact approves
        · intro approves
          exact approves _ _ _ (.legacy nothingLeft destination extracted)
  | false =>
    simp
    rw [executeRemainingLegs_gated_iff configured]
    constructor
    · intro approves what plan proposed comes
      cases comes with
      | remaining comes => exact approves _ _ _ comes
      | legacy nothingLeft => simp [nothingLeft] at left
    · intro approves position leg plan comes
      exact approves _ _ _ (.remaining comes)

/-- A poll with a consensus manager submits destination legs only after consensus on their
    plans exactly when the validators agree on every plan it comes to submit. -/
theorem tracker_submits_after_consensus_iff (configured : node.hasConsensus = true) :
    Follows (Gated node) (pollBridge node answers tracked).1 ↔
      ∀ order, FoundComplete answers tracked order → ∀ what plan proposed,
        ComesToSubmit node answers tracked order what plan proposed →
          Approves node (tracked.contract order) plan proposed := by
  unfold pollBridge
  by_cases late : tracked.maxPolls < tracked.pollCount
  · rw [if_pos late]
    refine iff_of_true (follows_of_forall (by simp [Gated])) ?_
    intro order completes
    exact absurd completes.1 (by omega)
  rw [if_neg late]
  cases checked : answers.status with
  | none =>
    refine iff_of_true follows_nil ?_
    rintro order ⟨-, -, status, found, -⟩
    simp [checked] at found
  | some answer =>
    dsimp only
    unfold checkBridge
    rw [Traced.bind_ok (Traced.result_emit _)]
    cases answer with
    | error e =>
      rw [Traced.bind_error (Traced.result_lift _)]
      refine iff_of_true (follows_of_forall (by simp [Gated])) ?_
      rintro order ⟨-, -, status, found, -⟩
      simp [checked] at found
    | ok status =>
      rw [Traced.bind_ok (Traced.result_lift _), Traced.trace_emit, Traced.trace_lift,
        List.nil_append, List.singleton_append, follows_gated_checkStatus]
      cases reported : status.status with
      | completed =>
        dsimp only
        rw [Traced.trace_bind_pure (onBridgeComplete node answers tracked)
          fun _ => ({ removed := true, completed := true } : PollOutcome)]
        cases found : answers.order with
        | none =>
          unfold onBridgeComplete
          rw [found]
          refine iff_of_true follows_nil ?_
          rintro order ⟨-, found', -⟩
          simp [found] at found'
        | some order =>
          rw [onBridgeComplete_gated_iff configured found]
          constructor
          · rintro approves order' ⟨-, found', -⟩
            cases found.symm.trans found'
            exact approves
          · intro approves
            exact approves order ⟨by omega, found, status, checked, reported⟩
      | pending | inTransit | failed =>
        refine iff_of_true (follows_of_forall ?_) ?_
        · simp [markBridgeFailed, Gated, Traced.mem_bind]
        · rintro order ⟨-, -, status', found, completed⟩
          cases checked.symm.trans found
          simp [reported] at completed

end

def plainTracker : Tracker where
  host := spellingHost
  jsonDumps := fun _ => ""
  str := fun _ => "error"

def bridgedOrder : BookOrder where
  orderId := "ord_1"
  appId := "dex"
  intentFunction := "swap"
  params := []
  submittedBy := "0xuser"

def arrivedBridge : TrackedBridge where
  srcTxHash := "0xaa"
  plan := {
    intentId := .str "dex"
    deadline := .int 0
    contractAddress := .str "0xapp"
    remainingLegs := [{ legIndex := 2, chainId := 8453 }] }
  srcChainId := 1
  dstChainId := 8453
  pollCount := 1

/-- Every service answers well, except that the consensus call answers `proposed`. -/
def destAnswers (proposed : Except PyError ConsensusResult) : DestAnswers where
  simulate := .ok { success := true }
  propose := proposed
  submit := .ok { success := true, txHash := some "0xbb" }

def arrival (proposed : Except PyError ConsensusResult) : PollAnswers where
  status := some (.ok { status := .completed })
  order := some bridgedOrder
  leg := fun _ => destAnswers proposed
  legacy := destAnswers proposed

def TrackerAction.submits : TrackerAction → Bool
  | .submit _ _ _ _ => true
  | _ => false

def TrackerAction.agrees : TrackerAction → Bool
  | .propose _ _ (.ok result) => result.reached
  | _ => false

/-- The validators refuse the leg, and it is submitted. -/
theorem refused_leg_submitted :
    ¬ Follows (Gated plainTracker)
      (pollBridge plainTracker (arrival (.ok { reached := false })) arrivedBridge).1 := by
  intro safe
  have submits : (pollBridge plainTracker (arrival (.ok { reached := false }))
      arrivedBridge).1.any TrackerAction.submits = true := by decide +kernel
  have refused : (pollBridge plainTracker (arrival (.ok { reached := false }))
      arrivedBridge).1.any TrackerAction.agrees = false := by decide +kernel
  obtain ⟨a, member, submitted⟩ := List.any_eq_true.mp submits
  cases a with
  | submit what plan consensus answer =>
    obtain ⟨before, after, split⟩ := List.append_of_mem member
    obtain ⟨planHash, result, -, proposed, reached⟩ := safe before _ after split
    have among : .propose what planHash (.ok result) ∈ (pollBridge plainTracker
        (arrival (.ok { reached := false })) arrivedBridge).1 := by
      rw [split]
      exact List.mem_append_left _ proposed
    have agreed := List.any_eq_false.mp refused _ among
    exact agreed reached
  | update | checkStatus | escrowDeposit | proposeRelease | escrowRelease | seedTokens | propose =>
    cases submitted

/-- The validators agree, and the leg is submitted after that. -/
theorem agreed_leg_submitted :
    Follows (Gated plainTracker)
      (pollBridge plainTracker (arrival (.ok { reached := true })) arrivedBridge).1 := by
  apply (tracker_submits_after_consensus_iff rfl).mpr
  rintro order ⟨-, found, -⟩ what plan proposed comes
  cases found
  cases comes with
  | @remaining position leg plan comes =>
    obtain ⟨listed, built, -⟩ := comes
    cases position with
    | zero =>
      cases listed
      cases built
      refine ⟨by decide, Option.isSome_iff_exists.mp (by decide +kernel), _, rfl, rfl⟩
    | succ position => cases listed
  | legacy nothingLeft => cases nothingLeft

end MinotaurSubnet.BridgeTracker
