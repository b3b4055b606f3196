import MinotaurSubnet.Blockloop.MultiLegProposals

/-! # What a multi-leg execution comes to

A run of the orchestrator seen from the relayer and the order book: the legs it settled,
where it handed the rest to the bridge tracker, and how it ended.
-/

namespace MinotaurSubnet.Blockloop

open Library Python Consensus Shared Orderbook

/-- What the bridge tracker is given. -/
structure HandOver where
  srcTxHash : String
  srcChainId : Int
  dstChainId : Int
  remaining : List LegPlan

inductive Milestone where
  | submitted (leg : LegPlan) (answer : Except PyError SubmitResult)
  | rolledBack (leg : LegPlan)
  | handedOver (handOver : HandOver)
  /-- The bridge adapter reported the transfer of this transaction complete. -/
  | arrived (srcTxHash : String)
  | filled
  | bridgeFailed

def Milestone.Undoes : Milestone → Prop
  | .rolledBack _ => True
  | _ => False

/-- A submission the relayer did not settle. -/
def Unsettled (answer : Except PyError SubmitResult) : Prop :=
  ∀ result, answer = .ok result → result.success = false

structure SettledLeg where
  leg : LegPlan
  result : SubmitResult
  success : result.success = true

namespace SettledLeg

def mark (s : SettledLeg) : Milestone := .submitted s.leg (.ok s.result)

def kept (s : SettledLeg) : LegPlan := settledLeg s.leg s.result

theorem kept_txHash (s : SettledLeg) : s.kept.get "tx_hash" = .str (s.result.txHash.getD "") := by
  unfold LegPlan.get kept settledLeg
  rw [lookup_setKey_self]
  rfl

end SettledLeg

def Unblocked (settled : List SettledLeg) : Prop :=
  ∀ before s after, settled = before ++ s :: after →
    bridgeDependency (before.map SettledLeg.kept) s.leg = none

theorem Unblocked.snoc {settled} (unblocked : Unblocked settled) {s}
    (free : bridgeDependency (settled.map SettledLeg.kept) s.leg = none) :
    Unblocked (settled ++ [s]) := by
  intro before t after split
  rcases List.eq_nil_or_concat after with rfl | ⟨init, last, rfl⟩
  · obtain ⟨rfl, same⟩ := List.append_inj' split rfl
    obtain rfl := List.singleton_inj.mp same
    exact free
  · rw [List.concat_eq_append, ← List.cons_append, ← List.append_assoc] at split
    obtain ⟨rfl, -⟩ := List.append_inj' split rfl
    exact unblocked before t init rfl

section

variable (answers : Nat → LegAnswers)

def Action.milestone : Action → Option Milestone
  | .update u => if u.status = some .filled then some .filled else none
  | .submit (.forwardLeg position leg) _ => some (.submitted leg (answers position).submit)
  | .submit (.rollbackLeg leg) _ => some (.rolledBack leg)
  | .track srcTxHash srcChainId dstChainId remaining _ =>
    some (.handedOver { srcTxHash, srcChainId, dstChainId, remaining })
  | _ => none

def milestones (trace : List Action) : List Milestone := trace.filterMap (Action.milestone answers)

theorem milestones_append (xs ys : List Action) :
    milestones answers (xs ++ ys) = milestones answers xs ++ milestones answers ys :=
  List.filterMap_append

theorem milestones_idle {calls} (idle : ∀ a ∈ calls, a.Idle) :
    milestones answers calls = [] := by
  apply List.filterMap_eq_nil_iff.mpr
  intro a member
  have quiet := idle a member
  cases a with
  | update u => exact if_neg quiet
  | suspend => rfl
  | propose | broadcast | submit | substrate | track | recordExecution => exact quiet.elim

theorem undoes_of_background {calls} (background : ∀ a ∈ calls, a.Background) :
    ∀ m ∈ milestones answers calls, m.Undoes := by
  intro m member
  obtain ⟨a, among, marked⟩ := List.mem_filterMap.mp member
  have quiet := background a among
  cases a with
  | submit what consensus =>
    cases what with
    | rollbackLeg leg =>
      cases marked
      trivial
    | order | sourceLegs | forwardLeg => exact quiet.elim
  | update u =>
    rw [Action.milestone, if_neg quiet] at marked
    cases marked
  | suspend => cases marked
  | propose | broadcast | substrate | track | recordExecution => exact quiet.elim

end

section

variable (node : Orchestrator) (order : BookOrder) (plan : MultiLegPlan) (mocks : SimulationMocks)
  (answers : Nat → LegAnswers) (rollbackAnswers : Nat → Except PyError SubmitResult)

/-- What `registerBridge` gives the tracker, if anything. -/
def handOver (leg done : LegPlan) : Option HandOver :=
  match node.hasBridgeTracker, done.get "tx_hash" with
  | true, .str srcTxHash =>
    if srcTxHash = "" then none
    else some {
      srcTxHash
      srcChainId := done.chainId
      dstChainId := leg.chainId
      remaining := plan.forwardLegs.filter fun l => leg.legIndex ≤ l.legIndex }
  | _, _ => none

variable (completed : List LegPlan)

theorem registerBridge_milestones (leg done : LegPlan) :
    (registerBridge node plan completed leg done).result = .ok () ∧
      milestones answers (registerBridge node plan completed leg done).trace =
        ((handOver node plan leg done).map .handedOver).toList := by
  unfold registerBridge handOver
  cases node.hasBridgeTracker with
  | false => exact ⟨rfl, rfl⟩
  | true =>
    cases done.get "tx_hash" with
    | str srcTxHash =>
      by_cases missing : srcTxHash = ""
      · simp [missing, milestones]
      · simp [missing, milestones, Action.milestone]
    | none | bool | int | float | list | dict => exact ⟨rfl, rfl⟩

/-- How one forward leg can go, and what it comes to. -/
inductive LegRun (progress : Progress) (leg : LegPlan) (answer : LegAnswers) :
    List Milestone → Except Stop Progress → Prop where
  | settled {result : SubmitResult} {next : Progress}
      (free : bridgeDependency progress.completed leg = none) (answered : answer.submit = .ok result)
      (success : result.success = true)
      (completed : next.completed = progress.completed ++ [settledLeg leg result]) :
      LegRun progress leg answer [.submitted leg answer.submit] (.ok next)
  | waits {done : LegPlan} {stop : Stop}
      (waits : bridgeDependency progress.completed leg = some done) :
      LegRun progress leg answer ((handOver node plan leg done).map .handedOver).toList (.error stop)
  | failed {marks : List Milestone} {stop : Stop}
      (free : bridgeDependency progress.completed leg = none) (unsettled : Unsettled answer.submit)
      (undone : ∀ m ∈ marks, m.Undoes) :
      LegRun progress leg answer (.submitted leg answer.submit :: marks) (.error stop)
  | stopped {marks : List Milestone} {stop : Stop} (undone : ∀ m ∈ marks, m.Undoes) :
      LegRun progress leg answer marks (.error stop)

theorem awaitBridge_run (leg : LegPlan) :
    (bridgeDependency completed leg = none ∧ awaitBridge node plan completed leg = ⟨[], .ok ()⟩) ∨
      ∃ done stop, bridgeDependency completed leg = some done ∧
        (awaitBridge node plan completed leg).result = .error stop ∧
        milestones answers (awaitBridge node plan completed leg).trace =
          ((handOver node plan leg done).map .handedOver).toList := by
  unfold awaitBridge
  cases bridgeDependency completed leg with
  | none => exact .inl ⟨rfl, rfl⟩
  | some done =>
    obtain ⟨ended, registered⟩ := registerBridge_milestones node plan answers completed leg done
    refine .inr ⟨done, .returned true, rfl, ?_, ?_⟩
    · dsimp only
      rw [Traced.bind_ok ended]
      rfl
    · dsimp only
      rw [Traced.bind_ok ended, milestones_append, registered]
      exact List.append_nil _

inductive Prepared {α : Type} (completed : List LegPlan) (leg : LegPlan) :
    List Milestone → Except Stop α → Prop where
  | ready {a : α} (free : bridgeDependency completed leg = none) : Prepared completed leg [] (.ok a)
  | waits {done : LegPlan} {stop : Stop} (waits : bridgeDependency completed leg = some done) :
      Prepared completed leg ((handOver node plan leg done).map .handedOver).toList (.error stop)
  | raised {stop : Stop} : Prepared completed leg [] (.error stop)

theorem Prepared.of_idle {α : Type} {completed leg} {x : Pipeline α}
    (free : bridgeDependency completed leg = none) (idle : x.All Action.Idle) :
    Prepared node plan completed leg (milestones answers x.trace) x.result := by
  rw [milestones_idle answers idle]
  cases x.result with
  | ok a => exact .ready free
  | error stop => exact .raised

theorem Prepared.after_idle {α β : Type} {completed leg} {x : Pipeline α} {f : α → Pipeline β}
    (idle : x.All Action.Idle)
    (rest : ∀ a, Prepared node plan completed leg (milestones answers (f a).trace) (f a).result) :
    Prepared node plan completed leg (milestones answers (x >>= f).trace) (x >>= f).result := by
  cases ended : x.result with
  | ok a =>
    rw [Traced.bind_ok ended, milestones_append, milestones_idle answers idle, List.nil_append]
    exact rest a
  | error stop =>
    rw [Traced.bind_error ended, milestones_idle answers idle]
    exact .raised

theorem prepareLeg_run (position : Nat) (leg : LegPlan) (progress : Progress) :
    Prepared node plan progress.completed leg
      (milestones answers (prepareLeg node order plan mocks answers position leg progress).trace)
      (prepareLeg node order plan mocks answers position leg progress).result := by
  unfold prepareLeg
  apply Prepared.after_idle
  · exact Traced.all_emit.mpr (by simp [Action.Idle])
  intro _
  apply Prepared.after_idle
  · exact Traced.all_lift _
  intro legPlan
  rcases awaitBridge_run node plan answers progress.completed leg with
    ⟨free, passed⟩ | ⟨done, stop, waits, ended, registered⟩
  · rw [passed, Traced.bind_ok rfl]
    apply Prepared.of_idle node plan answers free
    refine Traced.All.bind (Traced.all_lift _) fun bridge _ => ?_
    have simulates := simulateLeg_passing node order legPlan (answers position).simulate
    refine Traced.All.bind (simulates.imp fun _ => Action.Passing.idle) fun simulation _ => ?_
    have scores := scoreLeg_passing bridge simulation (answers position).score
    exact Traced.All.bind (scores.imp fun _ => Action.Passing.idle) fun _ _ => Traced.all_pure _
  · rw [Traced.bind_error ended, registered]
    exact .waits waits

/-- Nothing is settled on the way; a run that stops may have rolled back. -/
inductive Unsettling {α : Type} : List Milestone → Except Stop α → Prop where
  | through {a : α} : Unsettling [] (.ok a)
  | stopped {marks : List Milestone} {stop : Stop} (undone : ∀ m ∈ marks, m.Undoes) :
      Unsettling marks (.error stop)

theorem Unsettling.undone {α : Type} {marks : List Milestone} {outcome : Except Stop α}
    (quiet : Unsettling marks outcome) : ∀ m ∈ marks, m.Undoes := by
  cases quiet with
  | through => simp
  | stopped undone => exact undone

theorem Unsettling.after {α β : Type} {x : Pipeline α} {f : α → Pipeline β}
    (silent : milestones answers x.trace = [])
    (rest : ∀ a, Unsettling (milestones answers (f a).trace) (f a).result) :
    Unsettling (milestones answers (x >>= f).trace) (x >>= f).result := by
  cases ended : x.result with
  | ok a =>
    rw [Traced.bind_ok ended, milestones_append, silent, List.nil_append]
    exact rest a
  | error stop =>
    rw [Traced.bind_error ended, silent]
    exact .stopped (by simp)

theorem abandon_unsettling {α : Type} :
    Unsettling (milestones answers
        (abandon order plan rollbackAnswers completed : Pipeline α).trace)
      (abandon order plan rollbackAnswers completed : Pipeline α).result := by
  have background : (abandon order plan rollbackAnswers completed : Pipeline α).All _ :=
    abandon_background order plan rollbackAnswers completed
  cases ended : (abandon order plan rollbackAnswers completed : Pipeline α).result with
  | ok a => exact (abandon_stops order plan rollbackAnswers completed a ended).elim
  | error stop => exact .stopped (undoes_of_background answers background)

theorem consultLeg_unsettling (position : Nat) (legPlan : ExecutionPlan) (completed : List LegPlan)
    (answer : Except PyError ConsensusResult) :
    Unsettling (milestones answers (consultLeg node order plan rollbackAnswers position legPlan
        completed answer).trace)
      (consultLeg node order plan rollbackAnswers position legPlan completed answer).result := by
  unfold consultLeg
  cases node.hasConsensus with
  | false => exact .through
  | true =>
    simp
    apply Unsettling.after
    · rfl
    intro hash
    have asked : Unsettling
        (milestones answers (askPeers order plan rollbackAnswers position completed answer).trace)
        (askPeers order plan rollbackAnswers position completed answer).result := by
      apply Unsettling.after
      · rfl
      intro _
      apply Unsettling.after
      · rfl
      intro _
      cases answer with
      | error e => exact .through
      | ok result =>
        cases verdict : result.reached with
        | true => simpa [verdict, milestones] using Unsettling.through
        | false =>
          simpa [verdict] using
            abandon_unsettling order plan answers rollbackAnswers completed
    cases node.hasPeers with
    | true =>
      simp
      apply Unsettling.after
      · rfl
      exact fun _ => asked
    | false => exact asked

theorem submitLeg_run (position : Nat) (leg : LegPlan) (completed : List LegPlan)
    (consensus : Option ConsensusResult) :
    let run := submitLeg order plan rollbackAnswers position leg completed consensus
      (answers position).submit
    (∃ result, (answers position).submit = .ok result ∧ result.success = true ∧
        run.result = .ok result ∧
        milestones answers run.trace = [.submitted leg (answers position).submit]) ∨
      Unsettled (answers position).submit ∧ ∃ marks stop, run.result = .error stop ∧
        milestones answers run.trace = .submitted leg (answers position).submit :: marks ∧
        ∀ m ∈ marks, m.Undoes := by
  obtain ⟨stop, ended, undone⟩ : ∃ stop, (abandon order plan rollbackAnswers completed :
      Pipeline SubmitResult).result = .error stop ∧ ∀ m ∈ milestones answers
        (abandon order plan rollbackAnswers completed : Pipeline SubmitResult).trace, m.Undoes := by
    have abandoned : Unsettling (milestones answers (abandon order plan rollbackAnswers completed :
        Pipeline SubmitResult).trace) _ := abandon_unsettling order plan answers rollbackAnswers completed
    cases left : (abandon order plan rollbackAnswers completed : Pipeline SubmitResult).result with
    | ok a => exact (abandon_stops order plan rollbackAnswers completed a left).elim
    | error stop => exact ⟨stop, rfl, abandoned.undone⟩
  have marked (tail : Pipeline SubmitResult) : milestones answers (do
      Traced.emit (.submit (.forwardLeg position leg) consensus)
      Traced.emit .suspend
      tail : Pipeline SubmitResult).trace =
        .submitted leg (answers position).submit :: milestones answers tail.trace := rfl
  intro run
  simp only [run]
  unfold submitLeg
  cases answered : (answers position).submit with
  | error e =>
    refine .inr ⟨by simp [Unsettled], _, stop, ended, ?_, undone⟩
    rw [marked, answered]
  | ok result =>
    cases success : result.success with
    | true =>
      refine .inl ⟨result, rfl, success, ?_, ?_⟩
      · simp only [success, if_true]
        rfl
      · simp only [success, if_true]
        rw [marked, answered]
        rfl
    | false =>
      refine .inr ⟨by simpa [Unsettled] using success, _, stop, ?_, ?_, undone⟩
      · simp [success]
        exact ended
      · simp [success]
        rw [marked, answered]

theorem forwardLeg_run (position : Nat) (leg : LegPlan) (progress : Progress) :
    LegRun node plan progress leg (answers position)
      (milestones answers
        (forwardLeg node order plan mocks answers rollbackAnswers position leg progress).trace)
      (forwardLeg node order plan mocks answers rollbackAnswers position leg progress).result := by
  unfold forwardLeg
  have prepared := prepareLeg_run node order plan mocks answers position leg progress
  generalize prepareLeg node order plan mocks answers position leg progress = first at prepared ⊢
  obtain ⟨calls, outcome⟩ := first
  cases outcome with
  | error stop =>
    rw [Traced.bind_error rfl]
    generalize milestones answers calls = marks at prepared
    cases prepared with
    | waits waits => exact .waits waits
    | raised => exact .stopped (by simp)
  | ok ready =>
    rw [Traced.bind_ok rfl]
    dsimp only
    generalize prepares : milestones answers calls = marks at prepared
    cases prepared with
    | ready free =>
      have consulted := consultLeg_unsettling node order plan answers rollbackAnswers position
        ready.1 progress.completed (answers position).propose
      generalize consultLeg node order plan rollbackAnswers position ready.1 progress.completed
        (answers position).propose = second at consulted ⊢
      obtain ⟨calls', outcome⟩ := second
      cases outcome with
      | error stop =>
        rw [Traced.bind_error rfl, milestones_append, prepares, List.nil_append]
        exact .stopped consulted.undone
      | ok consensus =>
        rw [Traced.bind_ok rfl, milestones_append, prepares, List.nil_append,
          milestones_append]
        generalize consults : milestones answers calls' = marks at consulted
        cases consulted with
        | through =>
          rw [List.nil_append]
          rcases submitLeg_run order plan answers rollbackAnswers position leg
            progress.completed consensus with
            ⟨result, answered, success, ended, marked⟩ |
              ⟨unsettled, marks, stop, ended, marked, undone⟩
          · rw [Traced.bind_ok ended, milestones_append, marked]
            exact .settled free answered success rfl
          · rw [Traced.bind_error ended, marked]
            exact .failed free unsettled undone

end

inductive OrchestratorRun (node : Orchestrator) (plan : MultiLegPlan) : List Milestone → Prop where
  | filled {settled : List SettledLeg} (unblocked : Unblocked settled)
      (all : settled.map SettledLeg.leg = plan.forwardLegs) :
      OrchestratorRun node plan (settled.map SettledLeg.mark ++ [.filled])
  /-- A leg waits for a bridge; the rest goes to the tracker if it can be given to it. -/
  | handedOver {settled : List SettledLeg} {leg done : LegPlan} {rest : List LegPlan}
      (unblocked : Unblocked settled)
      (cut : plan.forwardLegs = settled.map SettledLeg.leg ++ leg :: rest)
      (waits : bridgeDependency (settled.map SettledLeg.kept) leg = some done) :
      OrchestratorRun node plan (settled.map SettledLeg.mark ++
        ((handOver node plan leg done).map .handedOver).toList)
  | failed {settled : List SettledLeg} {leg : LegPlan} {rest : List LegPlan}
      {answer : Except PyError SubmitResult} {marks : List Milestone} (unblocked : Unblocked settled)
      (cut : plan.forwardLegs = settled.map SettledLeg.leg ++ leg :: rest)
      (free : bridgeDependency (settled.map SettledLeg.kept) leg = none)
      (unsettled : Unsettled answer) (undone : ∀ m ∈ marks, m.Undoes) :
      OrchestratorRun node plan (settled.map SettledLeg.mark ++ .submitted leg answer :: marks)
  | stopped {settled : List SettledLeg} {rest : List LegPlan} {marks : List Milestone}
      (unblocked : Unblocked settled) (cut : plan.forwardLegs = settled.map SettledLeg.leg ++ rest)
      (undone : ∀ m ∈ marks, m.Undoes) :
      OrchestratorRun node plan (settled.map SettledLeg.mark ++ marks)

section

variable (node : Orchestrator) (order : BookOrder) (plan : MultiLegPlan) (mocks : SimulationMocks)
  (answers : Nat → LegAnswers) (rollbackAnswers : Nat → Except PyError SubmitResult)

theorem forwardLegs_run (legs : List LegPlan) (position : Nat) (progress : Progress)
    (settled : List SettledLeg) (unblocked : Unblocked settled)
    (kept : progress.completed = settled.map SettledLeg.kept)
    (cut : plan.forwardLegs = settled.map SettledLeg.leg ++ legs) :
    let run := forwardLegs node order plan mocks answers rollbackAnswers position legs progress
    (∃ next settled', run.result = .ok next ∧ Unblocked settled' ∧
        settled'.map SettledLeg.leg = plan.forwardLegs ∧
        settled.map SettledLeg.mark ++ milestones answers run.trace = settled'.map SettledLeg.mark) ∨
      ∃ stop, run.result = .error stop ∧
        OrchestratorRun node plan (settled.map SettledLeg.mark ++ milestones answers run.trace) := by
  induction legs generalizing position progress settled with
  | nil =>
    rw [List.append_nil] at cut
    exact .inl ⟨progress, settled, rfl, unblocked, cut.symm, by simp [forwardLegs, milestones]⟩
  | cons leg rest ih =>
    intro run
    simp only [run]
    unfold forwardLegs
    have ran := forwardLeg_run node order plan mocks answers rollbackAnswers position leg progress
    generalize forwardLeg node order plan mocks answers rollbackAnswers position leg progress =
      first at ran ⊢
    obtain ⟨calls, outcome⟩ := first
    cases outcome with
    | error stop =>
      rw [Traced.bind_error rfl]
      refine .inr ⟨stop, rfl, ?_⟩
      generalize milestones answers calls = marks at ran
      cases ran with
      | waits waits => exact .handedOver unblocked cut (kept ▸ waits)
      | failed free unsettled undone => exact .failed unblocked cut (kept ▸ free) unsettled undone
      | stopped undone => exact .stopped unblocked cut undone
    | ok next =>
      rw [Traced.bind_ok rfl]
      generalize here : milestones answers calls = marks at ran
      cases ran with
      | @settled result _ free answered success completed =>
        let s : SettledLeg := ⟨leg, result, success⟩
        have onward := ih (position + 1) next (settled ++ [s]) (unblocked.snoc (kept ▸ free))
          (by rw [completed, kept, List.map_append]; rfl)
          (by rw [cut, List.map_append, List.append_assoc]; rfl)
        have marks : settled.map SettledLeg.mark ++ milestones answers (calls ++
            (forwardLegs node order plan mocks answers rollbackAnswers (position + 1) rest
              next).trace) = (settled ++ [s]).map SettledLeg.mark ++ milestones answers
            (forwardLegs node order plan mocks answers rollbackAnswers (position + 1) rest
              next).trace := by
          rw [milestones_append, here, answered, List.map_append, List.append_assoc]
          rfl
        rw [marks]
        exact onward

theorem processMultiLeg_run :
    OrchestratorRun node plan
      (milestones answers (processMultiLeg node order plan mocks answers rollbackAnswers).trace) := by
  have loop := forwardLegs_run node order plan mocks answers rollbackAnswers plan.forwardLegs 0 {} []
    (by simp [Unblocked]) rfl rfl
  unfold processMultiLeg
  rcases loop with ⟨next, settled, ended, unblocked, all, marks⟩ | ⟨stop, ended, ran⟩
  · rw [Traced.bind_ok ended, milestones_append]
    rw [List.map_nil, List.nil_append] at marks
    rw [marks]
    exact .filled unblocked all
  · rw [Traced.bind_error ended]
    exact ran

end

end MinotaurSubnet.Blockloop
