import MinotaurSubnet.Blockloop.MultiLeg

/-! # Which forward legs the relayer gets

A forward leg is meant to be submitted only after consensus on it was reached. The
broad `except` around `propose` breaks this on one path: an exception leaves no result
to refuse on, and the leg is submitted all the same. Every other path is safe.
-/

namespace MinotaurSubnet.Blockloop

open Library Python Consensus Shared Orderbook

/-- Consensus on the leg at `position` was reached. -/
def ReachedBefore (before : List Action) (position : Nat) : Prop :=
  ∃ result, Action.propose (some position) (.ok result) ∈ before ∧ result.reached = true

def OnlyReached (before : List Action) : Action → Prop
  | .submit (.forwardLeg position _) _ => ReachedBefore before position
  | _ => True

def Action.Neutral : Action → Prop
  | .propose _ _ => False
  | .submit (.forwardLeg _ _) _ => False
  | _ => True

/-- Nothing comes of it: the order is not finished. -/
def Action.Idle : Action → Prop
  | .update u => u.status ≠ some .filled
  | .suspend => True
  | _ => False

/-- Idle, and the order is not put back either. -/
def Action.Passing : Action → Prop
  | .update u => u.status ≠ some .filled ∧ u.status ≠ some .open_
  | .suspend => True
  | _ => False

def Action.Background : Action → Prop
  | .submit (.rollbackLeg _) _ => True
  | a => a.Idle

def NoProposalRaised (trace : List Action) : Prop :=
  ∀ leg e, Action.propose leg (.error e) ∉ trace

theorem Action.Neutral.onlyReached {a} (neutral : a.Neutral) (before : List Action) :
    OnlyReached before a := by
  cases a with
  | submit what consensus =>
    cases what with
    | forwardLeg position leg => exact neutral.elim
    | order | sourceLegs | rollbackLeg => trivial
  | propose | update | suspend | broadcast | substrate | track | recordExecution => trivial

theorem Action.Passing.idle {a : Action} (passing : a.Passing) : a.Idle := by
  cases a with
  | update u => exact passing.1
  | suspend => trivial
  | propose | submit | broadcast | substrate | track | recordExecution => exact passing.elim

theorem Action.Idle.background {a : Action} (idle : a.Idle) : a.Background := by
  cases a with
  | submit => exact idle.elim
  | update | suspend => exact idle
  | propose | broadcast | substrate | track | recordExecution => exact idle

theorem Action.Background.neutral {a : Action} (background : a.Background) : a.Neutral := by
  cases a with
  | submit what consensus =>
    cases what with
    | rollbackLeg leg => trivial
    | order | sourceLegs | forwardLeg => exact background.elim
  | update | suspend => trivial
  | propose | broadcast | substrate | track | recordExecution => exact background.elim

section

variable (node : Orchestrator) (order : BookOrder) (plan : MultiLegPlan) (mocks : SimulationMocks)
  (answers : Nat → LegAnswers) (rollbackAnswers : Nat → Except PyError SubmitResult)

section

variable {P : Action → Prop} (passing : ∀ a : Action, a.Passing → P a)

include passing

theorem rollbackLeg_all (undoes : ∀ leg, P (.submit (.rollbackLeg leg) none)) (position : Nat)
    (rollback : LegPlan) : (rollbackLeg order rollbackAnswers position rollback).All P := by
  refine Traced.All.bind (Traced.all_lift _) fun _ _ => ?_
  refine Traced.All.bind (Traced.all_emit.mpr (undoes rollback)) fun _ _ => ?_
  refine Traced.All.bind (Traced.all_emit.mpr (passing _ trivial)) fun _ _ => ?_
  cases rollbackAnswers position with
  | ok result => exact Traced.all_pure _
  | error e => exact Traced.all_pure _

theorem rollbackLegs_all (undoes : ∀ leg, P (.submit (.rollbackLeg leg) none)) (position : Nat)
    (legs : List LegPlan) : (rollbackLegs order plan rollbackAnswers position legs).All P := by
  induction legs generalizing position with
  | nil => exact Traced.all_pure _
  | cons leg rest ih =>
    unfold rollbackLegs
    cases plan.rollbackLegs.find? fun r => r.rollbackFor == some leg.legIndex with
    | none => exact ih _
    | some rollback =>
      have here := rollbackLeg_all order rollbackAnswers passing undoes position rollback
      refine Traced.All.bind here fun _ _ => ?_
      exact Traced.All.bind (ih _) fun _ _ => Traced.all_pure _

theorem abandon_all {α : Type} (undoes : ∀ leg, P (.submit (.rollbackLeg leg) none))
    (completed : List LegPlan) :
    (abandon order plan rollbackAnswers completed : Pipeline α).All P := by
  refine Traced.All.bind ?_ fun _ _ => Traced.all_stop _
  refine Traced.All.bind (Traced.all_emit.mpr (passing _ (by simp [Action.Passing]))) fun _ _ => ?_
  refine Traced.All.bind (rollbackLegs_all _ _ _ passing undoes _ _) fun failures _ => ?_
  cases failures.isEmpty with
  | true => exact Traced.all_emit.mpr (passing _ (by simp [Action.Passing]))
  | false => exact Traced.all_emit.mpr (passing _ (by simp [Action.Passing]))

end

variable (completed : List LegPlan)

theorem abandon_background {α : Type} :
    (abandon order plan rollbackAnswers completed : Pipeline α).All Action.Background :=
  abandon_all order plan rollbackAnswers (fun _ passing => passing.idle.background) (fun _ => trivial)
    completed

theorem abandon_neutral {α : Type} :
    (abandon order plan rollbackAnswers completed : Pipeline α).All Action.Neutral :=
  (abandon_background order plan rollbackAnswers completed).imp fun _ => Action.Background.neutral

theorem abandon_stops {α : Type} (a : α) :
    (abandon order plan rollbackAnswers completed).result ≠ .ok a := by
  unfold abandon
  cases ended : (executeRollback order plan rollbackAnswers completed).result with
  | error e => simp [Traced.bind_error ended]
  | ok u => simp [Traced.bind_ok ended]

theorem simulateLeg_passing (legPlan : ExecutionPlan) (answer : Except PyError LocalSimulation) :
    (simulateLeg node order legPlan answer).All Action.Passing := by
  unfold simulateLeg
  cases node.hasSimulator with
  | false => exact Traced.all_lift _
  | true =>
    refine Traced.All.bind (Traced.all_emit.mpr trivial) fun _ _ => ?_
    cases answer with
    | ok simulation => exact Traced.all_pure _
    | error e => exact Traced.all_lift _

theorem scoreLeg_passing (bridge : Bool) (simulation : SimulationResult)
    (answer : Except PyError (Option PyFloat)) :
    (scoreLeg bridge simulation answer).All Action.Passing := by
  unfold scoreLeg
  cases bridge && simulation.success.truthy with
  | true => exact Traced.all_pure _
  | false =>
    refine Traced.All.bind (Traced.all_emit.mpr trivial) fun _ _ => ?_
    exact Traced.All.bind (Traced.all_lift _) fun _ _ => Traced.all_pure _

section

variable {P : Action → Prop} (passing : ∀ a : Action, a.Passing → P a)
  (tracks : ∀ srcTxHash srcChainId dstChainId remaining completed,
    P (.track srcTxHash srcChainId dstChainId remaining completed))

include tracks

theorem registerBridge_all (completed : List LegPlan) (leg done : LegPlan) :
    (registerBridge node plan completed leg done).All P := by
  unfold registerBridge
  split
  · split
    · exact Traced.all_pure _
    · exact Traced.all_emit.mpr (tracks _ _ _ _ _)
  · exact Traced.all_pure _

include passing

theorem awaitBridge_all (completed : List LegPlan) (leg : LegPlan) :
    (awaitBridge node plan completed leg).All P := by
  unfold awaitBridge
  cases bridgeDependency completed leg with
  | none => exact Traced.all_pure _
  | some done =>
    refine Traced.All.bind (registerBridge_all _ _ tracks _ _ _) fun _ _ => ?_
    have parked := passing (.update { status := some .bridging }) (by simp [Action.Passing])
    exact Traced.All.bind (Traced.all_emit.mpr parked) fun _ _ => Traced.all_stop _

theorem prepareLeg_all (position : Nat) (leg : LegPlan) (progress : Progress) :
    (prepareLeg node order plan mocks answers position leg progress).All P := by
  have started := passing (.update { status := some .executingLeg, error := some none })
    (by simp [Action.Passing])
  refine Traced.All.bind (Traced.all_emit.mpr started) fun _ _ => ?_
  refine Traced.All.bind (Traced.all_lift _) fun legPlan _ => ?_
  refine Traced.All.bind (awaitBridge_all _ _ passing tracks _ _) fun _ _ => ?_
  refine Traced.All.bind (Traced.all_lift _) fun bridge _ => ?_
  have simulates := simulateLeg_passing node order legPlan (answers position).simulate
  refine Traced.All.bind (simulates.imp passing) fun simulation _ => ?_
  have scores := scoreLeg_passing bridge simulation (answers position).score
  exact Traced.All.bind (scores.imp passing) fun _ _ => Traced.all_pure _

end

theorem prepareLeg_neutral (position : Nat) (leg : LegPlan) (progress : Progress) :
    (prepareLeg node order plan mocks answers position leg progress).All Action.Neutral :=
  prepareLeg_all node order plan mocks answers (fun _ passing => passing.idle.background.neutral)
    (fun _ _ _ _ _ => trivial) position leg progress

end

inductive LegTrace (position : Nat) : List Action → Prop where
  /-- Stopped before consensus. -/
  | unproposed {calls : List Action} (quiet : ∀ a ∈ calls, a.Neutral) : LegTrace position calls
  /-- Consensus not reached: rolled back. -/
  | refused {before after : List Action} {result : ConsensusResult}
      (quiet : ∀ a ∈ before, a.Neutral) (quiet' : ∀ a ∈ after, a.Neutral)
      (refusal : result.reached = false) :
      LegTrace position (before ++ .propose (some position) (.ok result) :: after)
  | approved {before after : List Action} {result : ConsensusResult} {leg : LegPlan}
      {consensus : Option ConsensusResult}
      (quiet : ∀ a ∈ before, a.Neutral) (quiet' : ∀ a ∈ after, a.Neutral)
      (approval : result.reached = true) :
      LegTrace position (before ++ .propose (some position) (.ok result) ::
        .submit (.forwardLeg position leg) consensus :: after)
  /-- The consensus call raised: submitted without approval. -/
  | unanswered {before after : List Action} {e : PyError} {leg : LegPlan}
      {consensus : Option ConsensusResult}
      (quiet : ∀ a ∈ before, a.Neutral) (quiet' : ∀ a ∈ after, a.Neutral) :
      LegTrace position (before ++ .propose (some position) (.error e) ::
        .submit (.forwardLeg position leg) consensus :: after)

inductive LegTraces : Nat → List Action → Prop where
  | nil {position : Nat} : LegTraces position []
  | cons {position : Nat} {here later : List Action} (leg : LegTrace position here)
      (rest : LegTraces (position + 1) later) : LegTraces position (here ++ later)

section

variable (node : Orchestrator) (order : BookOrder) (plan : MultiLegPlan) (mocks : SimulationMocks)
  (answers : Nat → LegAnswers) (rollbackAnswers : Nat → Except PyError SubmitResult)

theorem submitLeg_trace (position : Nat) (leg : LegPlan) (completed : List LegPlan)
    (consensus : Option ConsensusResult) (answer : Except PyError SubmitResult) :
    ∃ after, (∀ a ∈ after, a.Neutral) ∧
      (submitLeg order plan rollbackAnswers position leg completed consensus answer).trace =
        .submit (.forwardLeg position leg) consensus :: after := by
  unfold submitLeg
  have settled : ∀ tail : Pipeline SubmitResult, tail.All Action.Neutral →
      ∃ after, (∀ a ∈ after, a.Neutral) ∧
        (do
          Traced.emit (.submit (.forwardLeg position leg) consensus)
          Traced.emit .suspend
          tail : Pipeline SubmitResult).trace =
            .submit (.forwardLeg position leg) consensus :: after := by
    intro tail quiet
    refine ⟨.suspend :: tail.trace, ?_, rfl⟩
    intro a member
    rcases List.mem_cons.mp member with rfl | member
    · trivial
    · exact quiet a member
  cases answer with
  | error e => exact settled _ (abandon_neutral _ _ _ _)
  | ok result =>
    cases success : result.success with
    | true => simpa [success] using settled (Pure.pure result) (Traced.all_pure _)
    | false => simpa [success] using settled _ (abandon_neutral order plan rollbackAnswers completed)

inductive Consulted (position : Nat) : Pipeline (Option ConsensusResult) → Prop where
  | unhashable {calls : List Action} {stop : Stop} (quiet : ∀ a ∈ calls, a.Neutral) :
      Consulted position ⟨calls, .error stop⟩
  | refused {before after : List Action} {result : ConsensusResult} {stop : Stop}
      (quiet : ∀ a ∈ before, a.Neutral) (quiet' : ∀ a ∈ after, a.Neutral)
      (refusal : result.reached = false) :
      Consulted position
        ⟨before ++ .propose (some position) (.ok result) :: after, .error stop⟩
  | approved {before : List Action} {result : ConsensusResult}
      (quiet : ∀ a ∈ before, a.Neutral) (approval : result.reached = true) :
      Consulted position ⟨before ++ [.propose (some position) (.ok result)], .ok (some result)⟩
  | unanswered {before : List Action} {e : PyError} (quiet : ∀ a ∈ before, a.Neutral) :
      Consulted position ⟨before ++ [.propose (some position) (.error e)], .ok none⟩

theorem abandon_eq {α : Type} (completed : List LegPlan) :
    ∃ after stop, (∀ a ∈ after, a.Neutral) ∧
      (abandon order plan rollbackAnswers completed : Pipeline α) = ⟨after, .error stop⟩ := by
  cases ended : (abandon order plan rollbackAnswers completed : Pipeline α).result with
  | ok a => exact (abandon_stops order plan rollbackAnswers completed a ended).elim
  | error stop =>
    refine ⟨(abandon order plan rollbackAnswers completed : Pipeline α).trace, stop,
      abandon_neutral order plan rollbackAnswers completed, ?_⟩
    rw [← ended]

theorem consultLeg_consulted (configured : node.hasConsensus = true) (position : Nat)
    (legPlan : ExecutionPlan) (completed : List LegPlan)
    (answer : Except PyError ConsensusResult) :
    Consulted position
      (consultLeg node order plan rollbackAnswers position legPlan completed answer) := by
  unfold consultLeg
  rw [if_pos configured]
  cases hashPlan node.host node.jsonDumps legPlan with
  | none => exact .unhashable (Traced.all_lift _)
  | some hash =>
    -- everything up to the answer of `propose`
    have asked : ∃ before : List Action, (∀ a ∈ before, a.Neutral) ∧
        ∀ tail : Pipeline (Option ConsensusResult),
          (do
            let _ ← Pipeline.raising (Except.ok hash)
            if node.hasPeers then Traced.emit .broadcast
            Traced.emit .suspend
            Traced.emit (.propose (some position) answer)
            tail : Pipeline (Option ConsensusResult)) =
          ⟨before ++ .propose (some position) answer :: tail.trace, tail.result⟩ := by
      cases node.hasPeers with
      | true => exact ⟨[.broadcast, .suspend], by simp [Action.Neutral], fun tail => rfl⟩
      | false => exact ⟨[.suspend], by simp [Action.Neutral], fun tail => rfl⟩
    obtain ⟨before, quiet, shape⟩ := asked
    cases answer with
    | error e =>
      have ran := shape (Pure.pure none)
      rw [ran]
      exact .unanswered quiet
    | ok result =>
      dsimp only at shape ⊢
      cases verdict : result.reached with
      | true =>
        have ran := shape (Pure.pure (some result))
        simp only [if_true] at ran ⊢
        rw [ran]
        exact .approved quiet verdict
      | false =>
        obtain ⟨after, stop, quiet', left⟩ : ∃ after stop, (∀ a ∈ after, a.Neutral) ∧
            (abandon order plan rollbackAnswers completed :
              Pipeline (Option ConsensusResult)) = ⟨after, .error stop⟩ :=
          abandon_eq order plan rollbackAnswers completed
        have ran := shape (abandon order plan rollbackAnswers completed)
        simp only [Bool.false_eq_true, if_false] at ran ⊢
        rw [ran, left]
        exact .refused quiet quiet' verdict

theorem forwardLeg_trace (configured : node.hasConsensus = true) (position : Nat) (leg : LegPlan)
    (progress : Progress) :
    LegTrace position
      (forwardLeg node order plan mocks answers rollbackAnswers position leg progress).trace := by
  unfold forwardLeg
  have quiet := prepareLeg_neutral node order plan mocks answers position leg progress
  cases prepared : (prepareLeg node order plan mocks answers position leg progress).result with
  | error stop =>
    rw [Traced.bind_error prepared]
    exact .unproposed quiet
  | ok ready =>
    rw [Traced.bind_ok prepared]
    dsimp only
    have consulted := consultLeg_consulted node order plan rollbackAnswers configured position
      ready.1 progress.completed (answers position).propose
    generalize consultLeg node order plan rollbackAnswers position ready.1 progress.completed
      (answers position).propose = step at consulted
    have joined : ∀ before : List Action, (∀ a ∈ before, a.Neutral) → ∀ a ∈
        (prepareLeg node order plan mocks answers position leg progress).trace ++ before,
        a.Neutral := by
      intro before quiet' a member
      rcases List.mem_append.mp member with early | late
      · exact quiet a early
      · exact quiet' a late
    cases consulted with
    | unhashable quiet' =>
      rw [Traced.bind_error rfl]
      exact .unproposed (joined _ quiet')
    | refused quiet' quiet'' refusal =>
      rw [Traced.bind_error rfl, ← List.append_assoc]
      exact .refused (joined _ quiet') quiet'' refusal
    | approved quiet' approval =>
      obtain ⟨after, quiet'', sent⟩ := submitLeg_trace order plan rollbackAnswers position leg
        progress.completed _ (answers position).submit
      rw [Traced.bind_ok rfl, Traced.trace_bind_pure, sent]
      simp
      rw [← List.append_assoc]
      exact .approved (joined _ quiet') quiet'' approval
    | unanswered quiet' =>
      obtain ⟨after, quiet'', sent⟩ := submitLeg_trace order plan rollbackAnswers position leg
        progress.completed none (answers position).submit
      rw [Traced.bind_ok rfl, Traced.trace_bind_pure, sent]
      simp
      rw [← List.append_assoc]
      exact .unanswered (joined _ quiet') quiet''

theorem forwardLegs_traces (configured : node.hasConsensus = true) (position : Nat)
    (legs : List LegPlan) (progress : Progress) :
    LegTraces position
      (forwardLegs node order plan mocks answers rollbackAnswers position legs progress).trace := by
  induction legs generalizing position progress with
  | nil => exact .nil
  | cons leg rest ih =>
    unfold forwardLegs
    have here := forwardLeg_trace node order plan mocks answers rollbackAnswers configured position
      leg progress
    cases ended : (forwardLeg node order plan mocks answers rollbackAnswers position leg
        progress).result with
    | error stop =>
      rw [Traced.bind_error ended, ← List.append_nil (Traced.trace _)]
      exact .cons here .nil
    | ok next =>
      rw [Traced.bind_ok ended]
      exact .cons here (ih (position + 1) next)

end

def ProposedBelow (position : Nat) (before : List Action) : Prop :=
  ∀ leg answer, Action.propose (some leg) answer ∈ before → leg < position

theorem propose_mem_neutral {calls : List Action} (quiet : ∀ a ∈ calls, a.Neutral)
    {leg : Option Nat} {answer : Except PyError ConsensusResult} :
    Action.propose leg answer ∉ calls := fun member => quiet _ member

theorem follows_neutral {calls before} (quiet : ∀ a ∈ calls, a.Neutral) :
    Follows (fun earlier => OnlyReached (before ++ earlier)) calls :=
  follows_of_forall fun a member _ => (quiet a member).onlyReached _

theorem LegTrace.proposed {position : Nat} {calls : List Action} (shape : LegTrace position calls)
    {leg : Nat} {answer : Except PyError ConsensusResult}
    (member : Action.propose (some leg) answer ∈ calls) : leg = position := by
  cases shape with
  | unproposed quiet => exact (quiet _ member).elim
  | refused quiet quiet' _ | approved quiet quiet' _ | unanswered quiet quiet' =>
    simp only [List.mem_append, List.mem_cons, Action.propose.injEq, Option.some.injEq,
      reduceCtorEq, false_or, propose_mem_neutral quiet, propose_mem_neutral quiet',
      or_false] at member
    exact member.1

theorem LegTrace.safe_iff {position : Nat} {calls before : List Action}
    (shape : LegTrace position calls) (below : ProposedBelow position before) :
    Follows (fun earlier => OnlyReached (before ++ earlier)) calls ↔ NoProposalRaised calls := by
  cases shape with
  | unproposed quiet =>
    exact ⟨fun _ leg e member => quiet _ member, fun _ => follows_neutral quiet⟩
  | refused quiet quiet' refusal =>
    constructor
    · intro _ leg e member
      simp [propose_mem_neutral quiet, propose_mem_neutral quiet'] at member
    · intro _
      rw [follows_append, follows_cons]
      refine ⟨follows_neutral quiet, trivial, ?_⟩
      exact follows_of_forall fun a member _ => (quiet' a member).onlyReached _
  | approved quiet quiet' approval =>
    constructor
    · intro _ leg e member
      simp [propose_mem_neutral quiet, propose_mem_neutral quiet'] at member
    · intro _
      rw [follows_append, follows_cons, follows_cons]
      refine ⟨follows_neutral quiet, trivial, ⟨_, ?_, approval⟩, ?_⟩
      · simp
      · exact follows_of_forall fun a member _ => (quiet' a member).onlyReached _
  | @unanswered early late e leg consensus quiet quiet' =>
    constructor
    · intro safe
      rw [follows_append, follows_cons, follows_cons] at safe
      obtain ⟨result, member, -⟩ := safe.2.2.1
      -- the only consensus call on this leg is the one that raised
      simp only [List.mem_append, List.mem_singleton, propose_mem_neutral quiet,
        Action.propose.injEq, reduceCtorEq, and_false, or_false] at member
      exact absurd (below position _ member) (lt_irrefl _)
    · intro answered
      exact (answered (some position) e (by simp)).elim

theorem noProposalRaised_append {xs ys} :
    NoProposalRaised (xs ++ ys) ↔ NoProposalRaised xs ∧ NoProposalRaised ys := by
  simp [NoProposalRaised]
  exact ⟨fun all => ⟨fun leg e => (all leg e).1, fun leg e => (all leg e).2⟩,
    fun both leg e => ⟨both.1 leg e, both.2 leg e⟩⟩

theorem LegTraces.safe_iff {position calls} (shape : LegTraces position calls)
    (before : List Action) (below : ProposedBelow position before) :
    Follows (fun earlier => OnlyReached (before ++ earlier)) calls ↔ NoProposalRaised calls := by
  induction shape generalizing before with
  | nil => simp [NoProposalRaised]
  | @cons position here later leg rest ih =>
    have next : ProposedBelow (position + 1) (before ++ here) := by
      intro leg' answer member
      rcases List.mem_append.mp member with early | now
      · exact Nat.lt_succ_of_lt (below leg' answer early)
      · rw [leg.proposed now]
        exact Nat.lt_succ_self position
    rw [follows_append, noProposalRaised_append, leg.safe_iff below]
    simp only [← List.append_assoc]
    rw [ih (before ++ here) next]

section

variable (node : Orchestrator) (order : BookOrder) (plan : MultiLegPlan) (mocks : SimulationMocks)
  (answers : Nat → LegAnswers) (rollbackAnswers : Nat → Except PyError SubmitResult)

theorem processMultiLeg_trace (configured : node.hasConsensus = true) :
    ∃ legs closing, LegTraces 0 legs ∧ (∀ a ∈ closing, a.Neutral) ∧
      (processMultiLeg node order plan mocks answers rollbackAnswers).trace = legs ++ closing := by
  have legs := forwardLegs_traces node order plan mocks answers rollbackAnswers configured 0
    plan.forwardLegs {}
  unfold processMultiLeg
  cases ended : (forwardLegs node order plan mocks answers rollbackAnswers 0 plan.forwardLegs
      {}).result with
  | error stop =>
    rw [Traced.bind_error ended]
    exact ⟨_, [], legs, by simp, (List.append_nil _).symm⟩
  | ok done =>
    rw [Traced.bind_ok ended]
    refine ⟨_, _, legs, ?_, rfl⟩
    refine Traced.All.bind (Traced.all_emit.mpr trivial) fun _ _ => ?_
    exact Traced.All.bind (Traced.all_emit.mpr trivial) fun _ _ => Traced.all_pure _

theorem processMultiLeg_safe (configured : node.hasConsensus = true)
    (answered : NoProposalRaised
      (processMultiLeg node order plan mocks answers rollbackAnswers).trace) :
    Follows OnlyReached (processMultiLeg node order plan mocks answers rollbackAnswers).trace := by
  obtain ⟨legs, closing, shape, quiet, split⟩ :=
    processMultiLeg_trace node order plan mocks answers rollbackAnswers configured
  rw [split] at answered ⊢
  rw [follows_append]
  refine ⟨(shape.safe_iff [] ?_).mpr (noProposalRaised_append.mp answered).1, follows_neutral quiet⟩
  intro leg answer member
  cases member

theorem processMultiLeg_unsafe (configured : node.hasConsensus = true) {leg : Option Nat}
    {e : PyError} (raised : Action.propose leg (.error e) ∈
      (processMultiLeg node order plan mocks answers rollbackAnswers).trace) :
    ¬ Follows OnlyReached
      (processMultiLeg node order plan mocks answers rollbackAnswers).trace := by
  obtain ⟨legs, closing, shape, quiet, split⟩ :=
    processMultiLeg_trace node order plan mocks answers rollbackAnswers configured
  rw [split] at raised ⊢
  intro safe
  have answered := (shape.safe_iff [] (by intro leg answer member; cases member)).mp
    (follows_append.mp safe).1
  rcases List.mem_append.mp raised with early | late
  · exact answered leg e early
  · exact quiet _ late

end

end MinotaurSubnet.Blockloop
