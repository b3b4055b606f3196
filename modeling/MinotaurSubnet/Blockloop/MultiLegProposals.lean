import MinotaurSubnet.Blockloop.MultiLegConsensus

/-! # Which consensus calls a multi-leg run makes

A leg is put to consensus when every leg before it was approved and settled and nothing
stops the leg itself first. Both can be told from the plan and the answers of the
services, without the run; so can the runs that submit a leg no consensus stands behind.
-/

namespace MinotaurSubnet.Blockloop

open Library Python Consensus Shared Orderbook

section

variable (node : Orchestrator) (order : BookOrder) (plan : MultiLegPlan) (mocks : SimulationMocks)
  (answers : Nat → LegAnswers)

def legSimulation (legPlan : ExecutionPlan) (answer : Except PyError LocalSimulation) :
    Except PyError SimulationResult :=
  match node.hasSimulator, answer with
  | true, .ok simulation => .ok simulation.result
  | _, _ => buildMockSimulation node.discounted legPlan (.dict order.params)

/-- Nothing stops a leg before its consensus call: it waits for no bridge, its plan can be
    built, simulated and hashed, and it needs no score or gets one. -/
def ComesToConsensus (earlier : List LegPlan) (leg : LegPlan) (answer : LegAnswers) : Prop :=
  bridgeDependency earlier leg = none ∧ ∃ legPlan bridge simulation,
    legExecutionPlan order leg [] = .ok legPlan ∧ isBridgeLeg mocks leg = .ok bridge ∧
    legSimulation node order legPlan answer.simulate = .ok simulation ∧
    ((bridge && simulation.success.truthy) = true ∨ ∃ score, answer.score = .ok score) ∧
    ∃ hash, hashPlan node.host node.jsonDumps legPlan = some hash

def LegAnswers.Settles (answer : LegAnswers) : Prop :=
  (∃ result, answer.propose = .ok result ∧ result.reached = true) ∧
    ∃ result, answer.submit = .ok result ∧ result.success = true

/-- The forward leg at `position` comes to its consensus call, after the legs before it. -/
def LegComes (position : Nat) : Prop :=
  ∃ leg, plan.forwardLegs[position]? = some leg ∧
    ComesToConsensus node order mocks (plan.forwardLegs.take position) leg (answers position)

/-- The forward leg at `position` is put to consensus. -/
structure PutToConsensus (position : Nat) : Prop where
  comes : ∀ earlier ≤ position, LegComes node order plan mocks answers earlier
  settled : ∀ earlier < position, (answers earlier).Settles

end

theorem lookup_setKey_self (key : String) (value : Value) (fields : List (String × Value)) :
    (setKey key value fields).lookup key = some value := by
  induction fields with
  | nil => simp [setKey]
  | cons field rest ih =>
    obtain ⟨k, v⟩ := field
    unfold setKey
    split
    next same => simp
    next different => rw [List.lookup_cons, beq_false_of_ne fun same => different same.symm, ih]

theorem lookup_setKey_ne {key other} (different : other ≠ key) (value : Value)
    (fields : List (String × Value)) :
    (setKey key value fields).lookup other = fields.lookup other := by
  induction fields with
  | nil => rw [setKey, List.lookup_cons, beq_false_of_ne different]
  | cons field rest ih =>
    obtain ⟨k, v⟩ := field
    unfold setKey
    split
    next same =>
      subst same
      rw [List.lookup_cons, List.lookup_cons, beq_false_of_ne different]
    next => rw [List.lookup_cons, List.lookup_cons, ih]

theorem get_settledLeg {key} (different : key ≠ "tx_hash") (leg : LegPlan) (result : SubmitResult) :
    (settledLeg leg result).get key = leg.get key := by
  unfold LegPlan.get settledLeg
  rw [lookup_setKey_ne different]

/-- `completed_legs` holds the legs of the plan, each with its transaction. -/
def Completes (completed earlier : List LegPlan) : Prop :=
  List.Forall₂ (fun done leg => ∃ result, done = settledLeg leg result) completed earlier

theorem Completes.bridgeDependency {completed earlier} (same : Completes completed earlier)
    (leg : LegPlan) :
    bridgeDependency completed leg = none ↔ bridgeDependency earlier leg = none := by
  have found : ∀ index : Int,
      (completed.find? fun done => done.legIndex == index).filter
          (fun done => (done.get "bridge_protocol").truthy) = none ↔
        (earlier.find? fun done => done.legIndex == index).filter
          (fun done => (done.get "bridge_protocol").truthy) = none := by
    intro index
    induction same with
    | nil => rfl
    | @cons done leg completed earlier settled rest ih =>
      obtain ⟨result, rfl⟩ := settled
      have sameIndex : (settledLeg leg result).legIndex = leg.legIndex := rfl
      rw [List.find?_cons, List.find?_cons, sameIndex]
      cases leg.legIndex == index with
      | true => simp [Option.filter, get_settledLeg]
      | false => exact ih
  unfold Blockloop.bridgeDependency
  rw [List.findSome?_eq_none_iff, List.findSome?_eq_none_iff]
  exact forall₂_congr fun index _ => found index

section

variable {node : Orchestrator} {order : BookOrder} {plan : MultiLegPlan} {mocks : SimulationMocks}
  {answers : Nat → LegAnswers} {rollbackAnswers : Nat → Except PyError SubmitResult}

theorem Pipeline.result_raising_eq_ok {α : Type} {x : Except PyError α} {a : α} :
    (Pipeline.raising x).result = .ok a ↔ x = .ok a := by
  cases x <;> simp [Pipeline.raising]

variable {legPlan : ExecutionPlan}

theorem simulateLeg_eq_ok {answer : Except PyError LocalSimulation}
    {simulation : SimulationResult} :
    (simulateLeg node order legPlan answer).result = .ok simulation ↔
      legSimulation node order legPlan answer = .ok simulation := by
  unfold simulateLeg legSimulation
  cases node.hasSimulator with
  | false => exact Pipeline.result_raising_eq_ok
  | true =>
    rw [if_pos rfl, Traced.result_bind_eq_ok]
    cases answer with
    | ok done => simp
    | error e => simp [Pipeline.result_raising_eq_ok]

theorem scoreLeg_ends {bridge : Bool} {simulation : SimulationResult}
    {answer : Except PyError (Option PyFloat)} :
    (∃ score, (scoreLeg bridge simulation answer).result = .ok score) ↔
      (bridge && simulation.success.truthy) = true ∨ ∃ score, answer = .ok score := by
  unfold scoreLeg
  cases bridge && simulation.success.truthy with
  | true => simp
  | false =>
    cases answer with
    | ok score => simp [Traced.result_bind_eq_ok, Pipeline.result_raising_eq_ok]
    | error e => simp [Traced.result_bind_eq_ok, Pipeline.result_raising_eq_ok]

variable {completed : List LegPlan} {leg : LegPlan}

theorem awaitBridge_ends :
    (awaitBridge node plan completed leg).result = .ok () ↔ bridgeDependency completed leg = none := by
  unfold awaitBridge
  cases bridgeDependency completed leg with
  | none => simp
  | some done => simp [Traced.result_bind_eq_ok]

variable {position : Nat}

theorem prepareLeg_comes {progress : Progress} :
    (∃ ready, (prepareLeg node order plan mocks answers position leg progress).result = .ok ready ∧
        ∃ hash, hashPlan node.host node.jsonDumps ready.1 = some hash) ↔
      ComesToConsensus node order mocks progress.completed leg (answers position) := by
  unfold prepareLeg ComesToConsensus
  simp only [Traced.result_bind_eq_ok, Pipeline.result_raising_eq_ok, simulateLeg_eq_ok,
    Traced.result_pure, Except.ok.injEq]
  constructor
  · rintro ⟨_, ⟨_, _, legPlan, planned, _, waits, bridge, bridged, simulation, simulated, score,
      scored, rfl⟩, hashed⟩
    exact ⟨awaitBridge_ends.mp waits, legPlan, bridge, simulation, planned, bridged, simulated,
      scoreLeg_ends.mp ⟨score, scored⟩, hashed⟩
  · rintro ⟨free, legPlan, bridge, simulation, planned, bridged, simulated, scores, hashed⟩
    obtain ⟨score, scored⟩ := scoreLeg_ends.mpr scores
    exact ⟨_, ⟨(), rfl, legPlan, planned, (), awaitBridge_ends.mpr free, bridge, bridged, simulation,
      simulated, score, scored, rfl⟩, hashed⟩

theorem consultLeg_ends (configured : node.hasConsensus = true)
    {answer : Except PyError ConsensusResult} :
    (∃ consensus, (consultLeg node order plan rollbackAnswers position legPlan completed
        answer).result = .ok consensus) ↔
      (∃ hash, hashPlan node.host node.jsonDumps legPlan = some hash) ∧
        ((∃ e, answer = .error e) ∨ ∃ result, answer = .ok result ∧ result.reached = true) := by
  unfold consultLeg
  rw [if_pos configured]
  simp only [Traced.result_bind_eq_ok, Pipeline.result_raising_eq_ok]
  cases hashPlan node.host node.jsonDumps legPlan with
  | none => simp
  | some hash =>
    cases answer with
    | error e => cases node.hasPeers <;> simp [Traced.result_bind_eq_ok]
    | ok result =>
      cases verdict : result.reached with
      | true => cases node.hasPeers <;> simp [Traced.result_bind_eq_ok, verdict]
      | false => cases node.hasPeers <;> simp [Traced.result_bind_eq_ok, verdict, abandon_stops]

theorem propose_mem_consultLeg (configured : node.hasConsensus = true)
    {answer given : Except PyError ConsensusResult} {leg : Option Nat} :
    .propose leg given ∈ (consultLeg node order plan rollbackAnswers position legPlan completed
        answer).trace ↔
      (∃ hash, hashPlan node.host node.jsonDumps legPlan = some hash) ∧
        leg = some position ∧ given = answer := by
  unfold consultLeg
  rw [if_pos configured]
  have quiet : .propose leg given ∉ (abandon order plan rollbackAnswers completed :
      Pipeline (Option ConsensusResult)).trace :=
    propose_mem_neutral (abandon_neutral order plan rollbackAnswers completed)
  simp only [Traced.mem_bind, Pipeline.result_raising_eq_ok]
  cases hashPlan node.host node.jsonDumps legPlan with
  | none => simp [Pipeline.raising]
  | some hash =>
    cases answer with
    | error e => cases node.hasPeers <;> simp [Traced.mem_bind, Pipeline.raising]
    | ok result =>
      cases verdict : result.reached with
      | true => cases node.hasPeers <;> simp [Traced.mem_bind, Pipeline.raising, verdict]
      | false => cases node.hasPeers <;> simp [Traced.mem_bind, Pipeline.raising, verdict, quiet]

theorem submitLeg_eq_ok {consensus answer result} :
    (submitLeg order plan rollbackAnswers position leg completed consensus answer).result =
      .ok result ↔ answer = .ok result ∧ result.success = true := by
  unfold submitLeg
  simp only [Traced.result_bind_eq_ok]
  cases answer with
  | error e => simp [abandon_stops]
  | ok given =>
    cases success : given.success with
    | true =>
      simp only [success, if_true, Traced.result_pure, Except.ok.injEq, Traced.result_emit,
        exists_const, true_and]
      constructor
      · rintro rfl
        exact ⟨rfl, success⟩
      · exact And.left
    | false =>
      simp [success, Traced.result_emit, abandon_stops]
      rintro rfl
      simp [success]

theorem propose_mem_forwardLeg (configured : node.hasConsensus = true) {progress index given} :
    .propose index given ∈ (forwardLeg node order plan mocks answers rollbackAnswers position leg
        progress).trace ↔
      ComesToConsensus node order mocks progress.completed leg (answers position) ∧
        index = some position ∧ given = (answers position).propose := by
  have prepares : .propose index given ∉
      (prepareLeg node order plan mocks answers position leg progress).trace :=
    propose_mem_neutral (prepareLeg_neutral node order plan mocks answers position leg progress)
  have submits : ∀ consensus, .propose index given ∉ (submitLeg order plan rollbackAnswers position
      leg progress.completed consensus (answers position).submit).trace := by
    intro consensus member
    obtain ⟨after, quiet, sent⟩ := submitLeg_trace order plan rollbackAnswers position leg
      progress.completed consensus (answers position).submit
    rw [sent] at member
    rcases List.mem_cons.mp member with same | late
    · cases same
    · exact propose_mem_neutral quiet late
  unfold forwardLeg
  rw [← prepareLeg_comes]
  simp [Traced.mem_bind, prepares, propose_mem_consultLeg configured, submits, Traced.trace_pure]
  constructor
  · rintro ⟨ready, prepared, hashed, asked⟩
    exact ⟨⟨ready, prepared, hashed⟩, asked⟩
  · rintro ⟨⟨ready, prepared, hashed⟩, asked⟩
    exact ⟨ready, prepared, hashed, asked⟩

/-- A forward leg goes through when it comes to its consensus call, the call is not refused
    and the relayer settles the leg. -/
theorem forwardLeg_ends (configured : node.hasConsensus = true) {progress} :
    (∃ next, (forwardLeg node order plan mocks answers rollbackAnswers position leg
        progress).result = .ok next) ↔
      ComesToConsensus node order mocks progress.completed leg (answers position) ∧
        ((∃ e, (answers position).propose = .error e) ∨
          ∃ result, (answers position).propose = .ok result ∧ result.reached = true) ∧
        ∃ result, (answers position).submit = .ok result ∧ result.success = true := by
  unfold forwardLeg
  rw [← prepareLeg_comes]
  simp only [Traced.result_bind_eq_ok, submitLeg_eq_ok, Traced.result_pure, Except.ok.injEq]
  constructor
  · rintro ⟨_, ready, prepared, consensus, consulted, result, settled, -⟩
    obtain ⟨hashed, passed⟩ := (consultLeg_ends configured).mp ⟨consensus, consulted⟩
    exact ⟨⟨ready, prepared, hashed⟩, passed, result, settled⟩
  · rintro ⟨⟨ready, prepared, hashed⟩, passed, result, settled⟩
    obtain ⟨consensus, consulted⟩ := (consultLeg_ends configured).mpr ⟨hashed, passed⟩
    exact ⟨_, ready, prepared, consensus, consulted, result, settled, rfl⟩

theorem forwardLeg_completed {progress next : Progress}
    (ended : (forwardLeg node order plan mocks answers rollbackAnswers position leg
      progress).result = .ok next) :
    ∃ result, next.completed = progress.completed ++ [settledLeg leg result] := by
  unfold forwardLeg at ended
  simp only [Traced.result_bind_eq_ok, Traced.result_pure, Except.ok.injEq] at ended
  obtain ⟨_, _, _, _, result, _, rfl⟩ := ended
  exact ⟨result, rfl⟩

end

section

variable {node : Orchestrator} {order : BookOrder} {plan : MultiLegPlan} {mocks : SimulationMocks}
  {answers : Nat → LegAnswers} {rollbackAnswers : Nat → Except PyError SubmitResult}

theorem ComesToConsensus.of_completes {completed earlier} (same : Completes completed earlier)
    {leg answer} :
    ComesToConsensus node order mocks completed leg answer ↔
      ComesToConsensus node order mocks earlier leg answer := by
  unfold ComesToConsensus
  rw [same.bridgeDependency]

/-- A leg whose consensus call raises is not one of the settled legs. -/
theorem le_of_raised {position index e} (settled : ∀ earlier < position, (answers earlier).Settles)
    (raised : (answers index).propose = .error e) : position ≤ index := by
  by_contra behind
  obtain ⟨⟨result, answered, -⟩, -⟩ := settled index (by omega)
  rw [raised] at answered
  cases answered

/-- From `position` on, with every leg before it settled, some consensus call raises exactly
    when that of a leg put to consensus does. -/
theorem forwardLegs_raises_iff (configured : node.hasConsensus = true) (legs : List LegPlan)
    (position : Nat) (progress : Progress) (left : plan.forwardLegs.drop position = legs)
    (same : Completes progress.completed (plan.forwardLegs.take position))
    (came : ∀ earlier < position, LegComes node order plan mocks answers earlier)
    (settled : ∀ earlier < position, (answers earlier).Settles) :
    (∃ asked e, .propose asked (.error e) ∈
        (forwardLegs node order plan mocks answers rollbackAnswers position legs progress).trace) ↔
      ∃ index, PutToConsensus node order plan mocks answers index ∧
        ∃ e, (answers index).propose = .error e := by
  induction legs generalizing position progress with
  | nil =>
    constructor
    · rintro ⟨asked, e, member⟩
      simp [forwardLegs] at member
    · rintro ⟨index, put, e, raised⟩
      obtain ⟨leg, found, -⟩ := put.comes position (le_of_raised settled raised)
      rw [List.drop_eq_nil_iff] at left
      rw [List.getElem?_eq_none left] at found
      cases found
  | cons leg rest ih =>
    have here : plan.forwardLegs[position]? = some leg := by
      rw [← List.head?_drop, left, List.head?_cons]
    have comes : ComesToConsensus node order mocks progress.completed leg (answers position) ↔
        LegComes node order plan mocks answers position := by
      rw [ComesToConsensus.of_completes same, LegComes, here]
      simp
    have upTo : LegComes node order plan mocks answers position →
        ∀ earlier < position + 1, LegComes node order plan mocks answers earlier := by
      intro now earlier before
      rcases Nat.lt_succ_iff_lt_or_eq.mp before with early | rfl
      · exact came earlier early
      · exact now
    -- once the leg is settled, the rest of the loop decides
    have further : ∀ after, (forwardLeg node order plan mocks answers rollbackAnswers position leg
        progress).result = .ok after → LegComes node order plan mocks answers position →
        (answers position).Settles →
        ((∃ asked e, .propose asked (.error e) ∈ (forwardLegs node order plan mocks answers
            rollbackAnswers (position + 1) rest after).trace) ↔
          ∃ index, PutToConsensus node order plan mocks answers index ∧
            ∃ e, (answers index).propose = .error e) := by
      intro after ended now settles
      obtain ⟨result, completed⟩ := forwardLeg_completed ended
      apply ih (position + 1) after
      · rw [← List.tail_drop, left, List.tail_cons]
      · rw [completed, List.take_add_one, here]
        exact List.rel_append same (.cons ⟨result, rfl⟩ .nil)
      · exact upTo now
      · intro earlier before
        rcases Nat.lt_succ_iff_lt_or_eq.mp before with early | rfl
        · exact settled earlier early
        · exact settles
    unfold forwardLegs
    simp only [Traced.mem_bind, propose_mem_forwardLeg configured, comes]
    constructor
    · rintro ⟨asked, e, ⟨now, -, raised⟩ | ⟨after, ended, there⟩⟩
      · exact ⟨position, ⟨fun earlier upto => upTo now earlier (by omega), settled⟩, e, raised.symm⟩
      · obtain ⟨now, passed, settles⟩ := (forwardLeg_ends configured).mp ⟨after, ended⟩
        rw [comes] at now
        rcases passed with ⟨e', raised⟩ | reached
        · exact ⟨position, ⟨fun earlier upto => upTo now earlier (by omega), settled⟩, e', raised⟩
        · exact (further after ended now ⟨reached, settles⟩).mp ⟨asked, e, there⟩
    · rintro ⟨index, put, e, raised⟩
      have ahead := le_of_raised settled raised
      have now := put.comes position ahead
      rcases ahead.eq_or_lt with rfl | later
      · exact ⟨_, e, .inl ⟨now, rfl, raised.symm⟩⟩
      · have settles := put.settled position later
        obtain ⟨after, ended⟩ := (forwardLeg_ends configured).mpr
          ⟨comes.mpr now, .inr settles.1, settles.2⟩
        obtain ⟨asked, e', there⟩ := (further after ended now settles).mpr ⟨index, put, e, raised⟩
        exact ⟨asked, e', .inr ⟨after, ended, there⟩⟩

theorem processMultiLeg_raises_iff (configured : node.hasConsensus = true) :
    (∃ asked e, .propose asked (.error e) ∈
        (processMultiLeg node order plan mocks answers rollbackAnswers).trace) ↔
      ∃ index, PutToConsensus node order plan mocks answers index ∧
        ∃ e, (answers index).propose = .error e := by
  have loop : (∃ asked e, .propose asked (.error e) ∈ (forwardLegs node order plan mocks answers
      rollbackAnswers 0 plan.forwardLegs {}).trace) ↔ _ :=
    forwardLegs_raises_iff configured plan.forwardLegs 0 {} rfl .nil (by simp) (by simp)
  rw [← loop]
  unfold processMultiLeg
  simp [Traced.mem_bind]

/-- With a consensus manager configured, a run submits forward legs only after consensus on
    them exactly when no call about a leg put to consensus raises. -/
theorem multi_leg_submits_after_consensus_iff (configured : node.hasConsensus = true) :
    Follows OnlyReached
        (processMultiLeg node order plan mocks answers rollbackAnswers).trace ↔
      ∀ position, PutToConsensus node order plan mocks answers position →
        ∀ e, (answers position).propose ≠ .error e := by
  constructor
  · intro safe position put e raised
    obtain ⟨asked, e', member⟩ :=
      (processMultiLeg_raises_iff configured).mpr ⟨position, put, e, raised⟩
    exact processMultiLeg_unsafe node order plan mocks answers rollbackAnswers configured member safe
  · intro answered
    apply processMultiLeg_safe node order plan mocks answers rollbackAnswers configured
    intro asked e member
    obtain ⟨position, put, e', raised⟩ := (processMultiLeg_raises_iff configured).mp ⟨asked, e, member⟩
    exact answered position put e' raised

end

def twoLegNode : Orchestrator where
  host := spellingHost
  jsonDumps := fun _ => ""
  discounted := fun text => .ok text

def twoLegOrder : BookOrder where
  orderId := "ord_1"
  appId := "dex"
  intentFunction := "swap"
  params := []
  submittedBy := "0xuser"

def twoLegPlan : MultiLegPlan where
  forwardLegs := [{ legIndex := 0, chainId := 8453 }, { legIndex := 1, chainId := 1 }]

/-- Every service answers well, except that the consensus calls answer `proposed`. -/
def legAnswers (proposed : Except PyError ConsensusResult) (_ : Nat) : LegAnswers where
  simulate := .ok { success := true, onChainScore := some 9000 }
  score := .ok (some (.fin 1))
  propose := proposed
  submit := .ok { success := true, txHash := some "0xaa" }

def Action.raisedProposal : Action → Bool
  | .propose _ (.error _) => true
  | _ => false

theorem Action.raisedProposal_iff {a : Action} :
    a.raisedProposal = true ↔ ∃ leg e, a = .propose leg (.error e) := by
  cases a with
  | propose leg answer => cases answer <;> simp [raisedProposal]
  | update | suspend | broadcast | submit | substrate | track | recordExecution =>
    simp [raisedProposal]

/-- The signer times out on the first leg, which is submitted without a single approval. -/
theorem multi_leg_submits_unapproved :
    ¬ Follows OnlyReached (processMultiLeg twoLegNode twoLegOrder twoLegPlan {}
      (legAnswers (.error (.other "TimeoutError"))) fun _ => .ok { success := true }).trace := by
  have raises : (processMultiLeg twoLegNode twoLegOrder twoLegPlan {}
      (legAnswers (.error (.other "TimeoutError"))) fun _ => .ok { success := true }).trace.any
        Action.raisedProposal = true := by decide +kernel
  obtain ⟨a, member, raised⟩ := List.any_eq_true.mp raises
  obtain ⟨leg, e, rfl⟩ := Action.raisedProposal_iff.mp raised
  exact processMultiLeg_unsafe _ _ _ _ _ _ rfl member

/-- Both legs approved: both are submitted, each after its own consensus. -/
theorem multi_leg_submits_after_consensus_two_legs :
    Follows OnlyReached (processMultiLeg twoLegNode twoLegOrder twoLegPlan {}
      (legAnswers (.ok { reached := true })) fun _ => .ok { success := true }).trace := by
  apply (multi_leg_submits_after_consensus_iff rfl).mpr
  intro position put e raised
  cases raised

end MinotaurSubnet.Blockloop
