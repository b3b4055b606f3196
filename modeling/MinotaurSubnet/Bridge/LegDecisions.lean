import MinotaurSubnet.Blockloop.MultiLegProposals

/-! # The decisions of a multi-leg run

`process` once more, with a mark for what it decides on each forward leg: whether it is parked behind a
bridge, and whether it is treated as a bridge leg. Two runs whose legs differ in metadata alone go hand
in hand for as long as these decisions agree.
-/

namespace MinotaurSubnet.Bridge

open Library Python Consensus Shared Orderbook Blockloop

/-- What the pipeline does, and what it decides on its way. -/
inductive Decision where
  | call (a : Action)
  /-- Whether the leg is parked behind a bridge. -/
  | waits (legIndex : Int) (parked : Bool)
  /-- Whether the leg gets a mocked simulation and a fixed score. -/
  | treated (legIndex : Int) (bridge : Bool)

abbrev Deciding := Traced Decision Stop

def doing {α : Type} (x : Pipeline α) : Deciding α := x.relabel .call

def Decision.call? : Decision → Option Action
  | .call a => some a
  | _ => none

def undecided {α : Type} (x : Deciding α) : Pipeline α := x.erase Decision.call?

section

variable (node : Orchestrator) (order : BookOrder) (plan : MultiLegPlan) (mocks : SimulationMocks)
  (answers : Nat → LegAnswers) (rollbackAnswers : Nat → Except PyError SubmitResult)

/-- `prepareLeg`, with its decisions. -/
def decidedPrepare (position : Nat) (leg : LegPlan) (progress : Progress) :
    Deciding (ExecutionPlan × Option Int) := do
  doing (setStatusError .executingLeg none)
  let legPlan ← doing (Pipeline.raising (legExecutionPlan order leg []))
  .emit (.waits leg.legIndex (bridgeDependency progress.completed leg).isSome)
  doing (awaitBridge node plan progress.completed leg)
  let bridge ← doing (Pipeline.raising (isBridgeLeg mocks leg))
  .emit (.treated leg.legIndex bridge)
  let simulation ← doing (simulateLeg node order legPlan (answers position).simulate)
  let _ ← doing (scoreLeg bridge simulation (answers position).score)
  return (legPlan, bestOf progress.bestOnChain simulation.onChainScore)

def decidedLeg (position : Nat) (leg : LegPlan) (progress : Progress) : Deciding Progress := do
  let (legPlan, best) ← decidedPrepare node order plan mocks answers position leg progress
  let consensus ← doing (consultLeg node order plan rollbackAnswers position legPlan
    progress.completed (answers position).propose)
  let result ← doing (submitLeg order plan rollbackAnswers position leg progress.completed consensus
    (answers position).submit)
  return {
    completed := progress.completed ++ [settledLeg leg result]
    bestOnChain := best
    txHash := result.txHash }

def decidedLegs : Nat → List LegPlan → Progress → Deciding Progress
  | _, [], progress => return progress
  | position, leg :: rest, progress => do
      let progress ← decidedLeg node order plan mocks answers rollbackAnswers position leg progress
      decidedLegs (position + 1) rest progress

/-- `processMultiLeg`, with its decisions. -/
def decidedProcess : Deciding Bool := do
  let done ← decidedLegs node order plan mocks answers rollbackAnswers 0 plan.forwardLegs {}
  doing (.emit (.update { status := some .filled, txHash := some done.txHash }))
  doing (.emit (.recordExecution (some (done.bestOnChain.getD 0)) true))
  return true

theorem undecided_bind {α β : Type} (x : Deciding α) (next : α → Deciding β) :
    undecided (x >>= next) = undecided x >>= fun a => undecided (next a) :=
  Traced.erase_bind _ _ _

theorem undecided_doing {α : Type} (x : Pipeline α) : undecided (doing x) = x := by
  have kept : ∀ a, Decision.call? (.call a) = some a := fun _ => rfl
  exact Traced.erase_relabel kept x

theorem undecided_waits (legIndex : Int) (parked : Bool) :
    undecided (.emit (.waits legIndex parked)) = Pure.pure () :=
  Traced.erase_emit rfl

theorem undecided_treated (legIndex : Int) (bridge : Bool) :
    undecided (.emit (.treated legIndex bridge)) = Pure.pure () :=
  Traced.erase_emit rfl

theorem undecided_pure {α : Type} (a : α) : undecided (Pure.pure a : Deciding α) = Pure.pure a := rfl

theorem undecided_decidedPrepare (position : Nat) (leg : LegPlan) (progress : Progress) :
    undecided (decidedPrepare node order plan mocks answers position leg progress) =
      prepareLeg node order plan mocks answers position leg progress := by
  simp only [decidedPrepare, prepareLeg, undecided_bind, undecided_doing, undecided_waits,
    undecided_treated, undecided_pure, Traced.pure_bind]

theorem undecided_decidedLeg (position : Nat) (leg : LegPlan) (progress : Progress) :
    undecided (decidedLeg node order plan mocks answers rollbackAnswers position leg progress) =
      forwardLeg node order plan mocks answers rollbackAnswers position leg progress := by
  simp only [decidedLeg, forwardLeg, undecided_bind, undecided_decidedPrepare, undecided_doing,
    undecided_pure]

theorem undecided_decidedLegs (legs : List LegPlan) (position : Nat) (progress : Progress) :
    undecided (decidedLegs node order plan mocks answers rollbackAnswers position legs progress) =
      forwardLegs node order plan mocks answers rollbackAnswers position legs progress := by
  induction legs generalizing position progress with
  | nil => rfl
  | cons leg rest ih =>
    simp only [decidedLegs, forwardLegs, undecided_bind, undecided_decidedLeg, ih]

theorem undecided_decidedProcess :
    undecided (decidedProcess node order plan mocks answers rollbackAnswers) =
      processMultiLeg node order plan mocks answers rollbackAnswers := by
  simp only [decidedProcess, processMultiLeg, undecided_bind, undecided_decidedLegs, undecided_doing,
    undecided_pure]

end

def bareLeg (leg : LegPlan) : LegPlan := { leg with metadata := [] }

def bareSubmission : Submission → Submission
  | .forwardLeg position leg => .forwardLeg position (bareLeg leg)
  | what => what

def bareAction : Action → Action
  | .submit what consensus => .submit (bareSubmission what) consensus
  | .track srcTxHash srcChainId dstChainId remaining completed =>
    .track srcTxHash srcChainId dstChainId (remaining.map bareLeg) completed
  | a => a

def Decision.bare : Decision → Decision
  | .call a => .call (bareAction a)
  | d => d

def namesBridge (metadata : List (String × Value)) : Bool :=
  ((metadata.lookup "bridge_protocol").getD .none).truthy

theorem namesBridge_settledLeg (leg : LegPlan) (result : SubmitResult) :
    namesBridge (settledLeg leg result).metadata = namesBridge leg.metadata := by
  have settled : "bridge_protocol" ≠ "tx_hash" := by decide
  rw [namesBridge, settledLeg, lookup_setKey_ne settled, namesBridge]

/-- Two legs `completed_legs` may hold in their place without anything noticing. -/
structure Kept (a b : LegPlan) : Prop where
  bare : bareLeg a = bareLeg b
  named : namesBridge a.metadata = namesBridge b.metadata
  sent : a.get "tx_hash" = b.get "tx_hash"

variable {a b : LegPlan}

theorem Kept.settled (bare : bareLeg a = bareLeg b)
    (named : namesBridge a.metadata = namesBridge b.metadata) (result : SubmitResult) :
    Kept (settledLeg a result) (settledLeg b result) where
  bare := bare
  named := by rw [namesBridge_settledLeg, namesBridge_settledLeg, named]
  sent := by
    show ((settledLeg a result).metadata.lookup "tx_hash").getD .none = _
    rw [settledLeg, lookup_setKey_self]
    show _ = ((settledLeg b result).metadata.lookup "tx_hash").getD .none
    rw [settledLeg, lookup_setKey_self]

theorem legIndex_of_bare (bare : bareLeg a = bareLeg b) : a.legIndex = b.legIndex :=
  (congrArg LegPlan.legIndex bare :)

theorem dependsOn_of_bare (bare : bareLeg a = bareLeg b) :
    a.dependsOn = b.dependsOn :=
  (congrArg LegPlan.dependsOn bare :)

theorem interactions_of_bare (bare : bareLeg a = bareLeg b) :
    a.interactions = b.interactions :=
  (congrArg LegPlan.interactions bare :)

theorem chainId_of_bare (bare : bareLeg a = bareLeg b) : a.chainId = b.chainId :=
  (congrArg LegPlan.chainId bare :)

section

variable {completed completed' : List LegPlan} {a b : LegPlan}

theorem completed_found (kept : List.Forall₂ Kept completed completed') (index : Int) :
    Option.Rel Kept
      ((completed.find? fun done => done.legIndex == index).filter fun done =>
        (done.get "bridge_protocol").truthy)
      ((completed'.find? fun done => done.legIndex == index).filter fun done =>
        (done.get "bridge_protocol").truthy) := by
  induction kept with
  | nil => exact .none
  | @cons done done' completed completed' same rest ih =>
    rw [List.find?_cons, List.find?_cons, legIndex_of_bare same.bare]
    cases done'.legIndex == index with
    | false => exact ih
    | true =>
      have named : (done.get "bridge_protocol").truthy = (done'.get "bridge_protocol").truthy :=
        same.named
      simp only [Option.filter, named]
      split
      · exact .some same
      · exact .none

theorem bridgeDependency_kept (kept : List.Forall₂ Kept completed completed')
    (bare : bareLeg a = bareLeg b) :
    Option.Rel Kept (bridgeDependency completed a) (bridgeDependency completed' b) := by
  unfold bridgeDependency
  rw [dependsOn_of_bare bare]
  induction b.dependsOn with
  | nil => exact .none
  | cons index rest ih =>
    rw [List.findSome?_cons, List.findSome?_cons]
    have found := completed_found kept index
    revert found
    generalize (completed.find? _).filter _ = x
    generalize (completed'.find? _).filter _ = y
    rintro (same | _)
    · exact .some same
    · exact ih

section

variable {node : Orchestrator} {order : BookOrder} {plan plan' : MultiLegPlan}
  {mocks : SimulationMocks}
  {answers : Nat → LegAnswers} {rollbackAnswers : Nat → Except PyError SubmitResult}

structure TwinPlans (plan plan' : MultiLegPlan) : Prop where
  forward : plan.forwardLegs.map bareLeg = plan'.forwardLegs.map bareLeg
  rollback : plan.rollbackLegs = plan'.rollbackLegs

theorem doing_alike {α β : Type} {R : α → β → Prop} {x y} (alike : Traced.Alike bareAction R x y) :
    Traced.Alike Decision.bare R (doing x) (doing y) := by
  refine ⟨?_, alike.result⟩
  have traces := congrArg (List.map Decision.call) alike.trace
  simpa only [doing, Traced.trace_relabel, List.map_map, Function.comp_def, Decision.bare] using traces

theorem remaining_bare (plans : TwinPlans plan plan') (from_ : Int) :
    (plan.forwardLegs.filter fun l => from_ ≤ l.legIndex).map bareLeg =
      (plan'.forwardLegs.filter fun l => from_ ≤ l.legIndex).map bareLeg := by
  have kept (legs : List LegPlan) : (legs.filter fun l => from_ ≤ l.legIndex).map bareLeg =
      (legs.map bareLeg).filter fun l => from_ ≤ l.legIndex := by
    rw [List.filter_map]
    rfl
  rw [kept, kept, plans.forward]

theorem legIndices_kept (kept : List.Forall₂ Kept completed completed') :
    completed.map (·.legIndex) = completed'.map (·.legIndex) := by
  induction kept with
  | nil => rfl
  | cons same rest ih => rw [List.map_cons, List.map_cons, legIndex_of_bare same.bare, ih]

theorem registerBridge_alike (plans : TwinPlans plan plan')
    (kept : List.Forall₂ Kept completed completed') (bare : bareLeg a = bareLeg b) {done done'}
    (same : Kept done done') :
    Traced.Alike bareAction (· = ·) (registerBridge node plan completed a done)
      (registerBridge node plan' completed' b done') := by
  unfold registerBridge
  rw [same.sent]
  split
  · split
    · exact Traced.alike_pure rfl
    · apply Traced.alike_emit
      simp only [bareAction, remaining_bare plans, legIndices_kept kept, chainId_of_bare same.bare,
        chainId_of_bare bare, legIndex_of_bare bare]
  · exact Traced.alike_pure rfl

theorem awaitBridge_alike (plans : TwinPlans plan plan')
    (kept : List.Forall₂ Kept completed completed') (bare : bareLeg a = bareLeg b) :
    Traced.Alike bareAction (fun _ _ => bridgeDependency completed a = none)
      (awaitBridge node plan completed a) (awaitBridge node plan' completed' b) := by
  have waits := bridgeDependency_kept kept bare
  unfold awaitBridge
  revert waits
  generalize bridgeDependency completed a = x
  generalize bridgeDependency completed' b = y
  rintro (same | _)
  · refine (registerBridge_alike plans kept bare same).bind fun _ _ _ => ?_
    exact (Traced.alike_same _).bind fun _ _ _ => Traced.alike_stop _
  · exact Traced.alike_pure rfl

structure TwinExecutions (plan plan' : ExecutionPlan) : Prop where
  interactions : plan.interactions = plan'.interactions
  deadline : plan.deadline = plan'.deadline
  nonce : plan.nonce = plan'.nonce
  metadata : ∃ fields, plan.metadata = .dict fields
  metadata' : ∃ fields, plan'.metadata = .dict fields

theorem legExecutionPlan_alike (bare : bareLeg a = bareLeg b) :
    Agree TwinExecutions (legExecutionPlan order a []) (legExecutionPlan order b []) := by
  unfold legExecutionPlan
  refine (agree_same _).bind ?_
  rintro deadline _ rfl
  exact .ended ⟨interactions_of_bare bare, rfl, rfl, ⟨_, rfl⟩, ⟨_, rfl⟩⟩

theorem raising_alike {α β : Type} {R : α → β → Prop} {x y} (agree : Agree R x y) :
    Traced.Alike bareAction R (Pipeline.raising x) (Pipeline.raising y) := by
  cases agree with
  | raised e => exact Traced.alike_lift (.raised _)
  | ended related => exact Traced.alike_lift (.ended related)

theorem isBridgeLeg_congr (bare : bareLeg a = bareLeg b)
    (declared : ((a.get "type").isStr "bridge_source" || (a.get "type").isStr "bridge" ||
      namesBridge a.metadata) = ((b.get "type").isStr "bridge_source" ||
        (b.get "type").isStr "bridge" || namesBridge b.metadata)) :
    isBridgeLeg mocks a = isBridgeLeg mocks b := by
  have mocked : mockConfig mocks a = mockConfig mocks b := by
    unfold mockConfig
    rw [legIndex_of_bare bare]
  unfold isBridgeLeg
  rw [mocked, interactions_of_bare bare]
  cases mockConfig mocks b with
  | some mock => rfl
  | none =>
    show (do
      let calls ← anyCallsBridge b.interactions
      return ((a.get "type").isStr "bridge_source" || (a.get "type").isStr "bridge" ||
        namesBridge a.metadata) && (calls || b.interactions.isEmpty)) = _
    rw [declared]
    rfl

variable {legPlan legPlan' : ExecutionPlan}

theorem simulateLeg_congr (twins : TwinExecutions legPlan legPlan')
    (answer : Except PyError LocalSimulation) :
    simulateLeg node order legPlan answer = simulateLeg node order legPlan' answer := by
  unfold simulateLeg buildMockSimulation
  rw [twins.interactions]

theorem rollbackLegs_congr (plans : TwinPlans plan plan') {done done'}
    (kept : List.Forall₂ Kept done done') (position : Nat) :
    rollbackLegs order plan rollbackAnswers position done =
      rollbackLegs order plan' rollbackAnswers position done' := by
  induction kept generalizing position with
  | nil => rfl
  | cons same rest ih =>
    rw [rollbackLegs, rollbackLegs, plans.rollback, legIndex_of_bare same.bare, ih]

theorem abandon_congr {α : Type} (plans : TwinPlans plan plan')
    (kept : List.Forall₂ Kept completed completed') :
    (abandon order plan rollbackAnswers completed : Pipeline α) =
      abandon order plan' rollbackAnswers completed' := by
  unfold abandon executeRollback
  rw [rollbackLegs_congr plans (List.rel_reverse kept)]

/-- A digest that the encoder takes does not decide whether it takes the words. -/
def DigestsEncode (host : Host) : Prop :=
  ∀ words text text', (host.abiEncode (words ++ [.bytes32 (host.keccak text)])).isSome =
    (host.abiEncode (words ++ [.bytes32 (host.keccak text')])).isSome

theorem metadataBytes_dict (jsonDumps : Value → String) (fields : List (String × Value)) :
    ∃ text, metadataBytes jsonDumps (.dict fields) = some text := by
  unfold metadataBytes
  split
  · exact ⟨_, rfl⟩
  · exact ⟨_, rfl⟩

theorem hashPlan_isSome (encodes : DigestsEncode node.host)
    (twins : TwinExecutions legPlan legPlan') :
    (hashPlan node.host node.jsonDumps legPlan).isSome =
      (hashPlan node.host node.jsonDumps legPlan').isSome := by
  obtain ⟨fields, metadata⟩ := twins.metadata
  obtain ⟨fields', metadata'⟩ := twins.metadata'
  obtain ⟨text, serialized⟩ := metadataBytes_dict node.jsonDumps fields
  obtain ⟨text', serialized'⟩ := metadataBytes_dict node.jsonDumps fields'
  unfold hashPlan
  rw [twins.interactions, twins.deadline, twins.nonce, metadata, metadata', serialized, serialized']
  cases legPlan'.interactions.mapM (hashCall node.host) with
  | none => rfl
  | some calls =>
    cases abiInt legPlan'.deadline with
    | none => rfl
    | some deadline =>
      cases abiInt legPlan'.nonce with
      | none => rfl
      | some nonce =>
        have encoded := encodes [.bytes32 (node.host.keccak calls.flatten), .uint256 deadline,
          .uint256 nonce] text text'
        simp only [List.cons_append, List.nil_append] at encoded
        simp [hashWords]
        revert encoded
        generalize node.host.abiEncode _ = x
        generalize node.host.abiEncode _ = y
        cases x <;> cases y <;> simp

theorem hashed_alike (encodes : DigestsEncode node.host) (twins : TwinExecutions legPlan legPlan') :
    Agree (fun _ _ => True)
      (match hashPlan node.host node.jsonDumps legPlan with
        | some hash => (.ok hash : Except PyError String)
        | none => .error (.other "hash_plan"))
      (match hashPlan node.host node.jsonDumps legPlan' with
        | some hash => .ok hash
        | none => .error (.other "hash_plan")) := by
  have same := hashPlan_isSome encodes twins
  revert same
  cases hashPlan node.host node.jsonDumps legPlan with
  | none =>
    cases hashPlan node.host node.jsonDumps legPlan' with
    | none => exact fun _ => .raised _
    | some hash => exact fun same => nomatch same
  | some hash =>
    cases hashPlan node.host node.jsonDumps legPlan' with
    | none => exact fun same => nomatch same
    | some hash' => exact fun _ => .ended trivial

theorem consultLeg_alike (encodes : DigestsEncode node.host) (plans : TwinPlans plan plan')
    (kept : List.Forall₂ Kept completed completed')
    (twins : TwinExecutions legPlan legPlan') (position : Nat)
    (answer : Except PyError ConsensusResult) :
    Traced.Alike bareAction (· = ·)
      (consultLeg node order plan rollbackAnswers position legPlan completed answer)
      (consultLeg node order plan' rollbackAnswers position legPlan' completed' answer) := by
  unfold consultLeg
  split
  · refine (raising_alike (hashed_alike encodes twins)).bind fun _ _ _ => ?_
    rw [abandon_congr plans kept]
    exact Traced.alike_same _
  · exact Traced.alike_pure rfl

theorem submitLeg_alike (plans : TwinPlans plan plan')
    (kept : List.Forall₂ Kept completed completed') (bare : bareLeg a = bareLeg b) (position : Nat)
    (consensus : Option ConsensusResult) (answer : Except PyError SubmitResult) :
    Traced.Alike bareAction (· = ·)
      (submitLeg order plan rollbackAnswers position a completed consensus answer)
      (submitLeg order plan' rollbackAnswers position b completed' consensus answer) := by
  unfold submitLeg
  have sent : bareAction (.submit (.forwardLeg position a) consensus) =
      bareAction (.submit (.forwardLeg position b) consensus) := by
    rw [bareAction, bareAction, bareSubmission, bareSubmission, bare]
  refine (Traced.alike_emit sent).bind fun _ _ _ => ?_
  rw [abandon_congr plans kept]
  exact Traced.alike_same _

theorem decidedPrepare_alike (plans : TwinPlans plan plan') {progress progress'}
    (kept : List.Forall₂ Kept progress.completed progress'.completed)
    (best : progress.bestOnChain = progress'.bestOnChain) (bare : bareLeg a = bareLeg b)
    (treated : bridgeDependency progress.completed a = none → isBridgeLeg mocks a = isBridgeLeg mocks b)
    (position : Nat) :
    Traced.Alike Decision.bare
      (fun x y => bridgeDependency progress.completed a = none ∧ TwinExecutions x.1 y.1 ∧ x.2 = y.2)
      (decidedPrepare node order plan mocks answers position a progress)
      (decidedPrepare node order plan' mocks answers position b progress') := by
  unfold decidedPrepare
  refine (doing_alike (Traced.alike_same _)).bind fun _ _ _ => ?_
  refine (doing_alike (raising_alike (legExecutionPlan_alike bare))).bind fun legPlan legPlan' twins => ?_
  have waits : (bridgeDependency progress.completed a).isSome =
      (bridgeDependency progress'.completed b).isSome := by
    have same := bridgeDependency_kept kept bare
    revert same
    generalize bridgeDependency progress.completed a = x
    generalize bridgeDependency progress'.completed b = y
    rintro (_ | _) <;> rfl
  rw [waits, legIndex_of_bare bare]
  refine (Traced.alike_same _).bind fun _ _ _ => ?_
  refine (doing_alike (awaitBridge_alike plans kept bare)).bind fun _ _ free => ?_
  rw [treated free]
  refine (doing_alike (Traced.alike_same _)).bind ?_
  rintro bridge _ rfl
  refine (Traced.alike_same _).bind fun _ _ _ => ?_
  rw [simulateLeg_congr twins]
  refine (doing_alike (Traced.alike_same _)).bind ?_
  rintro simulation _ rfl
  refine (doing_alike (Traced.alike_same _)).bind fun _ _ _ => ?_
  exact Traced.alike_pure ⟨free, twins, by rw [best]⟩

structure Advanced (a b : LegPlan) (before before' after after' : Progress) : Prop where
  free : bridgeDependency before.completed a = none
  best : after.bestOnChain = after'.bestOnChain
  txHash : after.txHash = after'.txHash
  completed : ∃ result, after.completed = before.completed ++ [settledLeg a result] ∧
    after'.completed = before'.completed ++ [settledLeg b result]

theorem Advanced.kept {before before' after after'}
    (advanced : Advanced a b before before' after after')
    (kept : List.Forall₂ Kept before.completed before'.completed) (bare : bareLeg a = bareLeg b)
    (named : namesBridge a.metadata = namesBridge b.metadata) :
    List.Forall₂ Kept after.completed after'.completed := by
  obtain ⟨result, grown, grown'⟩ := advanced.completed
  rw [grown, grown']
  exact List.rel_append kept (.cons (Kept.settled bare named result) .nil)

theorem decidedLeg_alike (encodes : DigestsEncode node.host) (plans : TwinPlans plan plan')
    {progress progress'} (kept : List.Forall₂ Kept progress.completed progress'.completed)
    (best : progress.bestOnChain = progress'.bestOnChain) (bare : bareLeg a = bareLeg b)
    (treated : bridgeDependency progress.completed a = none → isBridgeLeg mocks a = isBridgeLeg mocks b)
    (position : Nat) :
    Traced.Alike Decision.bare (Advanced a b progress progress')
      (decidedLeg node order plan mocks answers rollbackAnswers position a progress)
      (decidedLeg node order plan' mocks answers rollbackAnswers position b progress') := by
  unfold decidedLeg
  refine (decidedPrepare_alike plans kept best bare treated position).bind ?_
  rintro ⟨legPlan, best⟩ ⟨legPlan', _⟩ ⟨free, twins, rfl⟩
  refine (doing_alike (consultLeg_alike encodes plans kept twins position _)).bind ?_
  rintro consensus _ rfl
  refine (doing_alike (submitLeg_alike plans kept bare position consensus _)).bind ?_
  rintro result _ rfl
  exact Traced.alike_pure ⟨free, rfl, rfl, result, rfl, rfl⟩

theorem decidedProcess_alike
    (legs : Traced.Alike Decision.bare
      (fun x y => x.bestOnChain = y.bestOnChain ∧ x.txHash = y.txHash)
      (decidedLegs node order plan mocks answers rollbackAnswers 0 plan.forwardLegs {})
      (decidedLegs node order plan' mocks answers rollbackAnswers 0 plan'.forwardLegs {})) :
    Traced.Alike Decision.bare (· = ·) (decidedProcess node order plan mocks answers rollbackAnswers)
      (decidedProcess node order plan' mocks answers rollbackAnswers) := by
  unfold decidedProcess
  refine legs.bind ?_
  rintro x y ⟨best, txHash⟩
  rw [best, txHash]
  exact Traced.alike_same _

end

end

end MinotaurSubnet.Bridge
