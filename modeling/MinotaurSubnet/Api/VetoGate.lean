import MinotaurSubnet.Api.VetoCoverage

/-! # What the certification gate's answer rests on

An `allow` before the interior deadline means that the leader benched every veto recorded by the
time of the terminal record and reproduced none of it; a `block` means that a pass of this
process reproduced a claimed violation on the leader's own rows.
-/

namespace MinotaurSubnet.Veto

open Library Python

variable {l : Leader} {s : State} {phase : VetoPhaseState}

theorem gate_allow {now ddl peers} (live : s.phase = some phase)
    (allows : certificationGate l s now (some ddl) peers = .allow) (interior : now ≤ ddl - 2) :
    s.gateResolved = true ∧ ¬ s.BlockStored := by
  simp only [certificationGate, live, vetoGateDecision] at allows
  cases resolved : s.gateResolved with
  | false => simp [resolved, not_lt.mpr interior] at allows
  | true =>
    refine ⟨rfl, fun stored => ?_⟩
    simp only [resolved, if_true] at allows
    rw [show s.observe.bind ObserveRecord.wouldGateConfirmed = some true from stored] at allows
    simp at allows

theorem gate_block {now ddl peers} (blocks : certificationGate l s now ddl peers = .block) :
    (∃ phase, s.phase = some phase) ∧ s.BlockStored := by
  have confirmed : ∀ {resolved n wgc reverify now ddl},
      vetoGateDecision resolved n wgc reverify now ddl = .block → wgc = some true := by
    intro resolved n wgc reverify now ddl blocks
    unfold vetoGateDecision at blocks
    split at blocks
    · assumption
    · repeat' split at blocks
      all_goals cases blocks
  cases ddl with
  | none => cases blocks
  | some ddl =>
    cases live : s.phase with
    | none =>
      simp only [certificationGate, live] at blocks
      split at blocks
      · cases blocks
      · exact nomatch confirmed blocks
    | some phase =>
      simp only [certificationGate, live] at blocks
      have stored := confirmed blocks
      split at stored
      · exact ⟨⟨phase, rfl⟩, stored⟩
      · cases stored

theorem HeldOpen.unblocked (held : HeldOpen s phase) : ¬ s.BlockStored := by
  rcases held with ⟨id, n, opened⟩ | ⟨-, id, skipped⟩
  · simp [State.BlockStored, opened, ObserveRecord.wouldGateConfirmed]
  · simp [State.BlockStored, skipped, ObserveRecord.wouldGateConfirmed]

theorem HeldOpen.unresolved (held : HeldOpen s phase) (bound : Bound l.host phase) {evm r}
    (recorded : phase.responses.get? evm = some r) : s.gateResolved = false := by
  rcases held with ⟨id, n, opened⟩ | ⟨none, -⟩
  · simp [State.gateResolved, opened, ObserveRecord.resolution]
  · obtain ⟨a, assigned, -⟩ := bound evm r recorded
    rw [assignmentOf, none] at assigned
    cases assigned

/-- When certification may proceed before the interior deadline, every veto but those recorded
    after the terminal record was benched in full by one pass, and nothing of it was reproduced. -/
theorem allowed_round_is_covered {observe : Option ObserveRecord} {now ddl : Int} {peers : Bool}
    {evm : String} {r : VetoResponse} (enabled : l.reverifyEnabled = true)
    (reached : Reaches (step l) (fun _ _ => True) (State.boot observe) s)
    (allows : (step l s (.poll now (some ddl) peers)).2 = .gate .allow) (interior : now ≤ ddl - 2)
    (live : s.phase = some phase) (recorded : phase.responses.get? evm = some r)
    (veto : r.verdict = some verdictVeto) (inTime : evm ∉ s.late) :
    planReverification r ≠ [] ∧
      (∃ pass ∈ s.passes, ∀ v ∈ planReverification r, v.orderId ∈ pass.outcome.benched ∧
        pass.outcome.result.orders.get? v.orderId = some false) ∧
      ∀ pass ∈ s.passes, ∀ v ∈ planReverification r, ¬ pass.Reproduced v.orderId := by
  have gate : certificationGate l s now (some ddl) peers = .allow := by
    simp only [step] at allows
    split at allows
    · cases allows
    · exact Answer.gate.inj allows
  obtain ⟨resolved, unblocked⟩ := gate_allow live gate interior
  cases inv_of_reaches reached with
  | dormant noPhase => cases noPhase.symm.trans live
  | @live phase' st atPhase atStream core verdicts =>
    obtain rfl : phase' = phase := Option.some.inj (atPhase.symm.trans live)
    have unreproduced : ∀ pass ∈ s.passes, ∀ oid, ¬ pass.Reproduced oid :=
      fun pass member oid reproduced => unblocked (verdicts.reproduced pass member oid reproduced).2
    cases written : st.done with
    | false =>
      have open_ := (verdicts.held written).unresolved core.bound recorded
      cases open_.symm.trans resolved
    | true =>
      have covered := (verdicts.clean written unblocked).complete enabled evm r recorded veto inTime
      obtain ⟨pass, member, included, r', recorded', planned, benched⟩ := core.covered evm covered
      obtain rfl : r' = r := Option.some.inj (recorded'.symm.trans recorded)
      refine ⟨planned, ⟨pass, member, fun v inPlan => ⟨benched v inPlan, ?_⟩⟩,
        fun p inPasses v _ => unreproduced p inPasses v.orderId⟩
      obtain ⟨work, workIs⟩ := outcome_work (benched v inPlan)
      obtain ⟨r'', recorded'', inWork⟩ := (core.passes pass member work workIs).answered evm included
      obtain rfl : r'' = r' := Option.some.inj (recorded''.symm.trans recorded)
      obtain ⟨b, judged⟩ := outcome_judges workIs (benched v inPlan) (inWork v inPlan)
      cases b with
      | true => exact absurd judged (unreproduced pass member v.orderId)
      | false => exact judged

/-- A chain's orders of the pass, benched at the round's pin, show the violation of `oid`. -/
def LeaderReproduced (phase : VetoPhaseState) (pass : Landed) (oid : String) : Prop :=
  ∃ work group order pin, pass.work = some work ∧ group ∈ work.byChain ∧ order.idText = oid ∧
    (∀ o ∈ group.2, o.chainId = order.chainId) ∧ pin ≠ 0 ∧ phase.assignments ≠ [] ∧
    ∀ a ∈ phase.assignments, a.forkPins.get? (chainText order.chainId) = some pin ∧
      ShowsViolation pass.bench a.candidateImageRef a.incumbentImageRef pin group.2 order

theorem blocked_round_is_reproduced {observe : Option ObserveRecord} {now : Int} {ddl : Option Int}
    {peers : Bool} (reached : Reaches (step l) (fun _ _ => True) (State.boot observe) s)
    (blocks : (step l s (.poll now ddl peers)).2 = .gate .block) :
    ∃ phase, s.phase = some phase ∧ ∃ pass ∈ s.passes, ∃ evm r v,
      phase.responses.get? evm = some r ∧ r.verdict = some verdictVeto ∧ v ∈ r.violations ∧
        LeaderReproduced phase pass v.orderId := by
  have gate : certificationGate l s now ddl peers = .block := by
    simp only [step] at blocks
    split at blocks
    · cases blocks
    · exact Answer.gate.inj blocks
  obtain ⟨⟨phase, live⟩, stored⟩ := gate_block gate
  refine ⟨phase, live, ?_⟩
  cases inv_of_reaches reached with
  | dormant noPhase => cases noPhase.symm.trans live
  | @live phase' st atPhase atStream core verdicts =>
    obtain rfl : phase' = phase := Option.some.inj (atPhase.symm.trans live)
    have written : st.done = true := by
      by_contra undone
      exact (verdicts.held (Bool.eq_false_iff.mpr undone)).unblocked stored
    obtain ⟨pass, member, oid, reproduced⟩ := verdicts.blocking written stored
    obtain ⟨work, workIs, planned, -⟩ := outcome_verdict reproduced
    obtain ⟨v, inPlan, rfl⟩ := List.mem_map.mp planned
    have of := core.passes pass member work workIs
    obtain ⟨evm, r, recorded, claimed⟩ := of.claimed v inPlan
    obtain ⟨veto, violation⟩ := mem_planReverification claimed
    refine ⟨pass, member, evm, r, v, recorded, veto, violation, ?_⟩
    obtain ⟨work', group, pin, o, workIs', inGroups, pinned, nonzero, text, shows⟩ :=
      outcome_reproduced reproduced
    obtain rfl : work' = work := Option.some.inj (workIs'.symm.trans workIs)
    have chain := of.grouped group inGroups o shows.benched
    refine ⟨_, group, o, pin, workIs, inGroups, text, ?_, nonzero, of.issued, ?_⟩
    · exact fun other inGroup => (of.grouped group inGroups other inGroup).trans chain.symm
    · intro a issued
      obtain ⟨candidate, incumbent, pins⟩ := of.carried a issued
      rw [candidate, incumbent, pins, chain]
      exact ⟨pinned, shows⟩

def demoHost : Host where
  lower := id
  repr := id
  sha256Hex := fun _ => "00"

def demoLeader : Leader where
  host := demoHost
  roundId := "round-e7-n1"
  repo := defaultCandidateRepo

def demoOrder (oid : String) : OrderRecord where
  orderId := some oid
  appId := some "app"
  chainId := some 8453

def demoView : RoundView where
  certifyState := true
  finalistSubmissionId := some "sub-2"
  candidateDigest := some (String.ofList (List.replicate 64 'a'))
  incumbentDigest := some (String.ofList (List.replicate 64 'b'))
  decisionDeadlineEpoch := some 30
  forkPins := Dict.empty.set "8453" 100
  peers := ["0xa", "0xb"]
  corpus := {
    slices := [[demoOrder "o1"], [demoOrder "o2"]]
    calibration := []
    replayHash := fun _ => "h" }

def demoAssignmentId (evm : String) : String :=
  ((assignmentOf demoHost (openVetoPhase demoLeader demoView 1).1 evm).map
    (SliceAssignment.assignmentId demoHost)).getD ""

def demoVeto : VetoResponse where
  assignmentId := demoAssignmentId "0xa"
  roundId := "round-e7-n1"
  validatorEvm := "0xa"
  status := statusCompleted
  verdict := some verdictVeto
  violations := [{ orderId := "o1", kind := violationDropped, champRaw := "100", chalRaw := "" }]

def demoOk : VetoResponse where
  assignmentId := demoAssignmentId "0xb"
  roundId := "round-e7-n1"
  validatorEvm := "0xb"
  status := statusCompleted
  verdict := some verdictOk

/-- The champion delivers, and the challenger what `chal` says. -/
def demoBench (chal : Value) : Bench where
  pullImage := fun _ => true
  champion := fun _ _ orders => some (orders.map fun o =>
    { intentId := some o.label, rawOutput := .int 100 })
  challenger := fun _ _ orders => some (orders.map fun o =>
    { intentId := some o.label, rawOutput := chal })

def reverifiedRun (chal : Value) : List Event :=
  [.drive 1 true demoView, .fanned (fun _ => false), .response demoVeto, .response demoOk,
    .drive 2 true demoView, .passBegins 0 (fun oid => some (demoOrder oid)),
    .passLands 0 (demoBench chal), .drive 3 true demoView]

def lateVetoRun : List Event :=
  [.drive 1 true demoView, .fanned (fun _ => false), .drive 2 true demoView, .fanned (fun _ => false),
    .drive 3 true demoView, .response demoOk, .fanned (fun evm => evm = "0xa"),
    .poll 3 (some 30) true, .response demoVeto, .drive 4 true demoView]

def afterRun (events : List Event) : State := runEvents (step demoLeader) (State.boot none) events

theorem afterRun_reaches (events : List Event) :
    Reaches (step demoLeader) (fun _ _ => True) (State.boot none) (afterRun events) :=
  reaches_runEvents (step demoLeader) (State.boot none) events

def recordedVeto (events : List Event) : Option VetoResponse :=
  (afterRun events).phase.bind fun phase => phase.responses.get? "0xa"

theorem exists_recordedVeto (events : List Event)
    (holds : (recordedVeto events).any (fun r =>
      decide (r.verdict = some verdictVeto) && !(planReverification r).isEmpty) = true) :
    ∃ phase r, (afterRun events).phase = some phase ∧ phase.responses.get? "0xa" = some r ∧
      r.verdict = some verdictVeto ∧ planReverification r ≠ [] := by
  cases found : recordedVeto events with
  | none => simp [found] at holds
  | some r =>
    obtain ⟨phase, live, recorded⟩ := Option.bind_eq_some_iff.mp found
    have holds : r.verdict = some verdictVeto ∧ planReverification r ≠ [] := by
      simpa [found] using holds
    exact ⟨phase, r, live, recorded, holds⟩

theorem reverified_veto_certifies :
    ∃ r pass, r.verdict = some verdictVeto ∧ pass ∈ (afterRun (reverifiedRun (.int 100))).passes ∧
      planReverification r ≠ [] ∧ ∀ v ∈ planReverification r, v.orderId ∈ pass.outcome.benched := by
  have allows : (step demoLeader (afterRun (reverifiedRun (.int 100))) (.poll 3 (some 30) true)).2 =
      .gate .allow := by decide +kernel
  have inTime : "0xa" ∉ (afterRun (reverifiedRun (.int 100))).late := by decide +kernel
  obtain ⟨phase, r, live, recorded, veto, -⟩ :=
    exists_recordedVeto (reverifiedRun (.int 100)) (by decide +kernel)
  obtain ⟨planned, ⟨pass, member, benched⟩, -⟩ := allowed_round_is_covered rfl (afterRun_reaches _)
    allows (by decide) live recorded veto inTime
  exact ⟨r, pass, veto, member, planned, fun v inPlan => (benched v inPlan).1⟩

theorem late_veto_is_allowed :
    ¬ ∀ (l : Leader) (observe : Option ObserveRecord) (s : State) (now ddl : Int) (peers : Bool)
      (phase : VetoPhaseState) (evm : String) (r : VetoResponse), l.reverifyEnabled = true →
      Reaches (step l) (fun _ _ => True) (State.boot observe) s →
      (step l s (.poll now (some ddl) peers)).2 = .gate .allow → now ≤ ddl - 2 →
      s.phase = some phase → phase.responses.get? evm = some r → r.verdict = some verdictVeto →
      ∀ v ∈ planReverification r, ∃ pass ∈ s.passes, v.orderId ∈ pass.outcome.benched := by
  intro claim
  have allows : (step demoLeader (afterRun lateVetoRun) (.poll 4 (some 30) true)).2 = .gate .allow := by
    decide +kernel
  have nothing : (afterRun lateVetoRun).passes.isEmpty = true := by decide +kernel
  obtain ⟨phase, r, live, recorded, veto, planned⟩ :=
    exists_recordedVeto lateVetoRun (by decide +kernel)
  obtain ⟨v, member⟩ := List.exists_mem_of_ne_nil _ planned
  obtain ⟨pass, landed, -⟩ := claim demoLeader none _ 4 30 true phase "0xa" r rfl (afterRun_reaches _)
    allows (by decide) live recorded veto v member
  rw [List.isEmpty_iff.mp nothing] at landed
  cases landed

theorem reproduced_veto_blocks :
    ∃ phase, (afterRun (reverifiedRun .none)).phase = some phase ∧
      ∃ pass ∈ (afterRun (reverifiedRun .none)).passes, ∃ evm r v,
        phase.responses.get? evm = some r ∧ r.verdict = some verdictVeto ∧ v ∈ r.violations ∧
          LeaderReproduced phase pass v.orderId := by
  have blocks : (step demoLeader (afterRun (reverifiedRun .none)) (.poll 3 (some 30) true)).2 =
      .gate .block := by decide +kernel
  exact blocked_round_is_reproduced (afterRun_reaches _) blocks

end MinotaurSubnet.Veto
