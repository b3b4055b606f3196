import MinotaurSubnet.Blockloop.GateBypass

/-! # The gates stop exactly what does not get around them

Every pass that does not take one of the ways around the gates submits nothing before
the gates that are due; on each of those ways some answers of the services bring the plan
to the relayer unchecked.
-/

namespace MinotaurSubnet.Blockloop

open Library Python Consensus Shared Orderbook

section

variable {pass : Pass} {before past : List GateEvent}

theorem Cleared.mono {fee} {scored : Prop} {chains} {isPlan : MultiLegPlan → Prop}
    (cleared : Cleared fee scored chains isPlan before) (longer : before ⊆ past) :
    Cleared fee scored chains isPlan past where
  compiled several := by
    obtain ⟨compiled, member, same⟩ := cleared.compiled several
    exact ⟨compiled, longer member, same⟩
  allowed several := longer (cleared.allowed several)
  certified positive := longer (cleared.certified positive)
  onChain scored := longer (cleared.onChain scored)

theorem Pass.ClearedBy.mono (cleared : pass.ClearedBy before) (longer : before ⊆ past) :
    pass.ClearedBy past := by
  unfold Pass.ClearedBy at cleared ⊢
  split at cleared
  · exact cleared.mono longer
  · exact cleared.mono longer
  · exact cleared.elim

theorem Pass.Gated.mono (more : List GateEvent) {e} (gated : pass.Gated before e) :
    pass.Gated (before ++ more) e := by
  cases e with
  | passed gate => trivial
  | call a =>
    cases a with
    | submit what consensus => exact Pass.ClearedBy.mono gated (List.subset_append_left _ _)
    | update | suspend | propose | broadcast | substrate | track | recordExecution => trivial

theorem calls_quiet {α : Type} {x : Pipeline α} (quiet : x.All Action.Quiet)
    (before : List GateEvent) :
    (calls x).Ensures pass.Gated before fun a past => x.result = .ok a ∧ before ⊆ past := by
  apply Traced.ensures_of_all
  intro e member past
  obtain ⟨a, called, rfl⟩ := List.mem_map.mp member
  have silent := quiet a called
  cases a with
  | submit => exact silent.elim
  | update | suspend | propose | broadcast | substrate | track | recordExecution => trivial

theorem calls_cleared {α : Type} (x : Pipeline α) (cleared : pass.ClearedBy before) :
    (calls x).Ensures pass.Gated before fun _ _ => True := by
  apply Traced.ensures_of_mono fun past more e => Pass.Gated.mono more
  intro e member
  obtain ⟨a, -, rfl⟩ := List.mem_map.mp member
  cases a with
  | submit => exact cleared
  | update | suspend | propose | broadcast | substrate | track | recordExecution => trivial

theorem passed_ensures (gate : Gate) (before : List GateEvent) :
    (passed gate).Ensures pass.Gated before fun _ past => .passed gate ∈ past ∧ before ⊆ past := by
  apply Traced.ensures_emit
  · trivial
  · exact ⟨by simp, List.subset_append_left _ _⟩

theorem markCompiled_ensures (node : Processor) (answers : OrderAnswers) (generated : GeneratedPlan)
    (before : List GateEvent) :
    (markCompiled node answers generated).Ensures pass.Gated before fun _ past =>
      (∀ plan, compiledTo node answers.compile generated = some plan →
        .passed (.compiled plan) ∈ past) ∧ before ⊆ past := by
  unfold markCompiled
  cases compiledTo node answers.compile generated with
  | none => exact Traced.ensures_pure ⟨by simp, List.Subset.refl _⟩
  | some plan =>
    apply Traced.ensures_emit
    · trivial
    · exact ⟨by simp, List.subset_append_left _ _⟩

theorem markAllowed_ensures (plan : GeneratedPlan) (before : List GateEvent) :
    (markAllowed plan).Ensures pass.Gated before fun _ past =>
      (plan.crossChain = true → .passed .crossChainAllowed ∈ past) ∧ before ⊆ past := by
  unfold markAllowed
  cases plan.crossChain with
  | false => exact Traced.ensures_pure ⟨by simp, List.Subset.refl _⟩
  | true =>
    apply Traced.ensures_emit
    · trivial
    · exact ⟨by simp, List.subset_append_left _ _⟩

theorem markCertified_ensures (fee : Int) (before : List GateEvent) :
    (markCertified fee).Ensures pass.Gated before fun _ past =>
      (0 < fee → .passed .feeCertified ∈ past) ∧ before ⊆ past := by
  unfold markCertified
  split
  · apply Traced.ensures_emit
    · trivial
    · exact ⟨by simp, List.subset_append_left _ _⟩
  next free => exact Traced.ensures_pure ⟨fun positive => (free positive).elim, List.Subset.refl _⟩

end

section

variable {pass : Pass} {answers : OrderAnswers}

theorem compilePlan_ends (answered : pass.Answered answers) {plan} :
    (compilePlan pass.node answers pass.plan.toGeneratedPlan).result = .ok plan ↔
      pass.compiledPlan = some plan := by
  unfold compilePlan Pass.compiledPlan
  rw [answered.compile]
  cases asked : pass.plan.crossChainPlan && pass.node.hasCompiler with
  | false => simp
  | true =>
    rw [if_pos rfl, if_pos rfl]
    cases pass.compile with
    | ok compiled => simp [Traced.result_bind_eq_ok]
    | error text => simp [Traced.result_bind_eq_ok, reject]

theorem Pass.crossChain_of_compiled {compiled plan} (came : pass.compiledPlan = some compiled)
    (asked : pass.compiledTo = some plan) :
    compiled.crossChain = true := by
  unfold Pass.compiledPlan at came
  unfold Pass.compiledTo Blockloop.compiledTo at asked
  cases due : pass.plan.crossChainPlan && pass.node.hasCompiler with
  | false => simp [due] at asked
  | true =>
    rw [due, if_pos rfl] at came asked
    cases answer : pass.compile with
    | error text => simp [answer] at asked
    | ok pair =>
      rw [answer] at came
      cases came
      rfl

variable {node : Processor}

variable {plan : GeneratedPlan}

theorem multiLegPath_single {order} (one : plan.settlement = some .single) :
    multiLegPath node order answers plan = Pure.pure () := by
  unfold GeneratedPlan.settlement at one
  unfold multiLegPath
  cases parsed : plan.multiLeg with
  | error e => simp [parsed] at one
  | ok found =>
    rw [raising_bind_ok]
    cases found with
    | none => rfl
    | some multiLeg =>
      rw [parsed] at one
      dsimp only at one ⊢
      split at one
      · cases one
      next few =>
        rw [if_neg few]

theorem multiLegPath_legs {order plan multiLeg}
    (several : plan.settlement = some (.legs multiLeg)) :
    plan.multiLeg = .ok (some multiLeg) ∧
      (multiLegPath node order answers plan).trace =
        (processMultiLeg node.orchestrator order multiLeg plan.mocks answers.leg
          answers.rollback).trace ∧
      ∀ u, (multiLegPath node order answers plan).result ≠ .ok u := by
  unfold GeneratedPlan.settlement at several
  unfold multiLegPath
  cases parsed : plan.multiLeg with
  | error e => simp [parsed] at several
  | ok found =>
    rw [raising_bind_ok]
    cases found with
    | none => simp [parsed] at several
    | some found =>
      rw [parsed] at several
      dsimp only at several ⊢
      split at several
      next many =>
        cases several
        rw [if_pos many]
        refine ⟨rfl, ?_, ?_⟩
        · cases ended : (processMultiLeg node.orchestrator order multiLeg plan.mocks answers.leg
              answers.rollback).result with
          | error stop => rw [Traced.bind_error ended]
          | ok approved => rw [Traced.bind_ok ended]; simp
        · intro u ended
          obtain ⟨approved, -, stopped⟩ := Traced.result_bind_eq_ok.mp ended
          simp at stopped
      · cases several

theorem multiLegPath_unreadable {order} {plan : GeneratedPlan} (unread : plan.settlement = none) :
    ∃ stop, multiLegPath node order answers plan = ⟨[], .error stop⟩ := by
  unfold GeneratedPlan.settlement at unread
  unfold multiLegPath
  cases parsed : plan.multiLeg with
  | error e =>
    refine ⟨.raised e, ?_⟩
    rw [Traced.bind_error rfl]
    rfl
  | ok found =>
    cases found with
    | none => simp [parsed] at unread
    | some multiLeg =>
      simp only [parsed] at unread
      split at unread <;> cases unread

theorem simulatePlan_allowed {simulation}
    (ended : (simulatePlan node answers plan).result = .ok simulation)
    (marked : plan.crossChain = true) : node.crossChainEnabled = true := by
  unfold simulatePlan at ended
  obtain ⟨_, _, on⟩ := Traced.result_bind_eq_ok.mp ended
  cases enabled : node.crossChainEnabled with
  | true => rfl
  | false => simp [marked, enabled, reject, Traced.result_bind_eq_ok] at on

theorem substrateActions_quiet (actions : List (String × Except PyError SubmitResult))
    (deposit : String) : (substrateActions actions deposit).All Action.Quiet := by
  induction actions generalizing deposit with
  | nil => exact Traced.all_pure _
  | cons first rest ih =>
    obtain ⟨action, answer⟩ := first
    refine Traced.All.bind ?_ fun hash _ => ih _
    refine optional_quiet _ trivial ?_
    refine Traced.All.bind (emit_quiet trivial) fun _ _ => ?_
    refine Traced.All.bind (emit_quiet trivial) fun _ _ => ?_
    refine Traced.All.bind (raising_quiet _) fun result _ => ?_
    split
    · exact Traced.all_pure _
    · exact Traced.All.bind (emit_quiet trivial) fun _ _ => Traced.all_stop _

theorem substratePhase_quiet (legs : CrossChainLegs) : (substratePhase legs).All Action.Quiet := by
  unfold substratePhase
  split
  · exact Traced.all_pure _
  · split
    · exact substrateActions_quiet _ _
    · exact Traced.All.bind (emit_quiet trivial) fun _ _ => Traced.all_stop _

/-- A route without source calls that can be picked, or with substrate legs nobody can take, stays away
    from the relayer. -/
theorem submitCrossChain_quiet {legs : CrossChainLegs} (consensus : Option ConsensusResult)
    (barred : legs.source ≠ .ok true ∨
      (legs.substrateLegs.isEmpty = false ∧ legs.hasSubstrateRelayer = false)) :
    (submitCrossChain legs consensus).All Action.Quiet := by
  refine Traced.All.bind (substratePhase_quiet legs) fun deposit ended => ?_
  rcases barred with sourceless | ⟨some_left, unequipped⟩
  · refine Traced.All.bind ?_ fun source _ => ?_
    · refine Traced.All.bind (raising_quiet _) fun sourced ended => ?_
      have none : sourced = false := by
        rw [Bool.eq_false_iff]
        rintro rfl
        exact sourceless (Pipeline.result_raising_eq_ok.mp ended)
      rw [none]
      exact Traced.all_pure _
    generalize (if source = "" then deposit else source) = txHash
    refine optional_quiet _ trivial ?_
    split
    · refine Traced.All.bind (setStatus_quiet _) fun _ _ => ?_
      exact Traced.All.bind (emit_quiet trivial) fun _ _ => Traced.all_pure _
    · refine Traced.All.bind (setStatus_quiet _) fun _ _ => ?_
      exact Traced.All.bind (emit_quiet trivial) fun _ _ => Traced.all_pure _
  · simp [substratePhase, some_left, unequipped, Traced.result_bind_eq_ok] at ended

theorem submitApproved_quiet {order : BookOrder} {simulation : LocalSimulation}
    {consensus : Option ConsensusResult}
    (barred : (order.param "_user_submit").truthy = true ∨ (plan.crossChain = true ∧
      (answers.crossChain.source ≠ .ok true ∨ (answers.crossChain.substrateLegs.isEmpty = false ∧
        answers.crossChain.hasSubstrateRelayer = false)))) :
    (submitApproved node order answers plan simulation consensus).All Action.Quiet := by
  refine Traced.All.bind (emit_quiet trivial) fun _ _ => ?_
  refine Traced.All.bind (quiet_of_staged autoSign_staged) fun _ _ => ?_
  cases direct : (order.param "_user_submit").truthy with
  | true => exact Traced.all_pure _
  | false =>
    obtain stays | ⟨crosses, closed⟩ := barred
    · rw [direct] at stays
      cases stays
    · rw [if_neg (by simp), if_pos crosses]
      exact submitCrossChain_quiet consensus closed

end

section

variable {pass : Pass} {answers : OrderAnswers}

theorem multiLegPath_safe (safe : ¬ pass.Bypasses) {fee} (priced : pass.fee = .ok fee)
    {compiled : GeneratedPlan} (came : pass.compiledPlan = some compiled) {plan}
    (several : compiled.settlement = some (.legs plan)) (before : List GateEvent) :
    (calls (multiLegPath pass.node pass.order answers compiled)).Ensures pass.Gated before
      fun _ _ => False := by
  obtain ⟨parsed, same, stops⟩ := @multiLegPath_legs answers pass.node pass.order _ _ several
  have ends : ∀ {post : Unit → List GateEvent → Prop},
      (calls (multiLegPath pass.node pass.order answers compiled)).Ensures pass.Gated before post →
      (calls (multiLegPath pass.node pass.order answers compiled)).Ensures pass.Gated before
        fun _ _ => False :=
    fun allowed => ⟨allowed.1, fun u ended => (stops u ended).elim⟩
  have carried : pass.settlement = some (.legs plan) := by
    rw [Pass.settlement, came, Option.bind_some, several]
  by_cases due : SeveralChains plan.chains ∨ 0 < fee ∨ pass.ScoreGated
  · apply ends (calls_quiet _ before)
    intro a member
    rw [same] at member
    cases a with
    | update | suspend | propose | broadcast | substrate | track | recordExecution => trivial
    | submit what consensus =>
      apply safe
      cases forward : plan.forwardLegs with
      | nil => simp [processMultiLeg, forward, forwardLegs, Traced.mem_bind] at member
      | cons first rest =>
        refine .legs priced came several forward ?_ due
        unfold processMultiLeg at member
        rw [forward] at member
        rcases Traced.mem_bind.mp member with sent | ⟨_, _, finished⟩
        · exact LegStarts.of_submit sent
        · simp [Traced.mem_bind] at finished
  · obtain ⟨oneChain, rest⟩ := not_or.mp due
    obtain ⟨free, unscored⟩ := not_or.mp rest
    apply ends (calls_cleared _ _)
    unfold Pass.ClearedBy
    rw [priced, carried]
    exact {
      compiled := fun several => (oneChain several).elim
      allowed := fun several => (oneChain several).elim
      certified := fun positive => (free positive).elim
      onChain := fun scored => (unscored scored).elim }

theorem submitApproved_safe (answered : pass.Answered answers) (safe : ¬ pass.Bypasses) {fee}
    (priced : pass.fee = .ok fee) {compiled : GeneratedPlan}
    (came : pass.compiledPlan = some compiled) (one : compiled.settlement = some .single)
    (enabled : compiled.crossChain = true → pass.node.crossChainEnabled = true) {before}
    (marked : ∀ plan, pass.compiledTo = some plan → .passed (.compiled plan) ∈ before)
    (allowed : compiled.crossChain = true → .passed .crossChainAllowed ∈ before)
    (certified : 0 < fee → .passed .feeCertified ∈ before)
    (onChain : .passed .onChainScored ∈ before) (simulation : LocalSimulation)
    (consensus : Option ConsensusResult) :
    (calls (submitApproved pass.node pass.order answers compiled simulation consensus)).Ensures
      pass.Gated before fun _ _ => True := by
  have carried : pass.settlement = some .single := by
    rw [Pass.settlement, came, Option.bind_some, one]
  have quiet : (submitApproved pass.node pass.order answers compiled simulation consensus).All
      Action.Quiet → (calls (submitApproved pass.node pass.order answers compiled simulation
        consensus)).Ensures pass.Gated before fun _ _ => True :=
    fun quiet => ⟨(calls_quiet quiet before).1, fun _ _ => trivial⟩
  have clears : (SeveralChains pass.plan.chains → (∃ plan, .passed (.compiled plan) ∈ before ∧
      plan.Carries pass.plan.interactions) ∧ .passed .crossChainAllowed ∈ before) →
      (calls (submitApproved pass.node pass.order answers compiled simulation consensus)).Ensures
        pass.Gated before fun _ _ => True := by
    intro crossing
    apply calls_cleared
    unfold Pass.ClearedBy
    rw [priced, carried]
    exact {
      compiled := fun several => (crossing several).1
      allowed := fun several => (crossing several).2
      certified := certified
      onChain := fun _ => onChain }
  by_cases chains : SeveralChains pass.plan.chains
  · by_cases checked : ∃ plan, pass.compiledTo = some plan ∧ plan.Carries pass.plan.interactions
    · obtain ⟨plan, asked, carries⟩ := checked
      exact clears fun _ =>
        ⟨⟨plan, marked plan asked, carries⟩, allowed (Pass.crossChain_of_compiled came asked)⟩
    -- not compiled: the way around the gates must be barred further on
    · apply quiet
      apply submitApproved_quiet
      by_contra open_
      obtain ⟨relayed, routed⟩ := not_or.mp open_
      apply safe
      refine .single priced came one chains (fun plan asked carries => checked ⟨plan, asked, carries⟩)
        (by simpa using relayed) fun crosses => ⟨enabled crosses, ?_, ?_⟩
      · by_contra barred
        obtain ⟨some_left, unequipped⟩ := not_or.mp barred
        refine routed ⟨crosses, .inr ⟨?_, ?_⟩⟩
        · cases left : answers.crossChain.substrateLegs with
          | nil => exact (some_left (by rw [← answered.substrate, left]; rfl)).elim
          | cons leg rest => rfl
        · rw [answered.relayer]
          simpa using unequipped
      · apply pass.plan.source_eq_true.mp
        rw [← answered.source]
        by_contra sourceless
        exact routed ⟨crosses, .inl sourceless⟩
  · exact clears fun several => (chains several).elim

theorem gatedPlan_safe (answered : pass.Answered answers) (safe : ¬ pass.Bypasses) (threshold : Int)
    (before : List GateEvent) :
    (gatedPlan pass.node pass.order answers threshold pass.plan.toGeneratedPlan).Ensures pass.Gated
      before fun _ _ => True := by
  refine (calls_quiet (raising_quiet _) before).bind fun fee _ priced => ?_
  replace priced : pass.fee = .ok fee := Pipeline.result_raising_eq_ok.mp priced.1
  refine (calls_quiet (quiet_of_staged policyGate_staged) _).bind fun _ _ _ => ?_
  refine (calls_quiet (setStatus_quiet _) _).bind fun _ _ _ => ?_
  refine (calls_quiet (quiet_of_staged compilePlan_staged) _).bind fun compiled _ came => ?_
  replace came := (compilePlan_ends answered).mp came.1
  refine (markCompiled_ensures _ _ _ _).bind fun _ marks compiledMarks => ?_
  have marked : ∀ plan, pass.compiledTo = some plan → .passed (.compiled plan) ∈ marks := by
    intro plan asked
    apply compiledMarks.1
    rw [answered.compile]
    exact asked
  cases kind : compiled.settlement with
  | none =>
    obtain ⟨stop, ends⟩ := @multiLegPath_unreadable answers pass.node pass.order _ kind
    have nothing : (multiLegPath pass.node pass.order answers compiled).All Action.Quiet := by
      rw [ends]
      exact Traced.all_stop stop
    refine (calls_quiet nothing _).bind fun _ _ ended => ?_
    rw [ends] at ended
    cases ended.1
  | some settlement =>
    cases settlement with
    | legs plan =>
      exact (multiLegPath_safe safe priced came kind marks).bind fun _ _ never => never.elim
    | single =>
      rw [multiLegPath_single kind]
      refine (calls_quiet (Traced.all_pure ()) _).bind fun _ _ m₁ => ?_
      refine (calls_quiet (quiet_of_staged simulatePlan_staged) _).bind fun simulation _ m₂ => ?_
      refine (markAllowed_ensures _ _).bind fun _ _ m₃ => ?_
      refine (calls_quiet (quiet_of_staged certifyFeeGate_staged) _).bind fun _ _ m₄ => ?_
      refine (markCertified_ensures _ _).bind fun _ _ m₅ => ?_
      refine (calls_quiet (quiet_of_staged scorePlan_staged) _).bind fun _ _ m₆ => ?_
      refine (calls_quiet (quiet_of_waiting onChainScoreGate_waiting) _).bind fun _ _ m₇ => ?_
      refine (passed_ensures _ _).bind fun _ _ m₈ => ?_
      refine (calls_quiet (quiet_of_waiting consultOrder_waiting) _).bind fun consensus _ m₉ => ?_
      -- the history only grows, so every mark is still there at the end
      have scored := List.Subset.trans m₈.2 m₉.2
      have certified := List.Subset.trans m₆.2 (List.Subset.trans m₇.2 scored)
      have allowed := List.Subset.trans m₄.2 (List.Subset.trans m₅.2 certified)
      have all := List.Subset.trans m₁.2 (List.Subset.trans m₂.2 (List.Subset.trans m₃.2 allowed))
      exact submitApproved_safe answered safe priced came kind
        (fun crosses => simulatePlan_allowed m₂.1 crosses)
        (fun plan asked => all (marked plan asked)) (fun crosses => allowed (m₃.1 crosses))
        (fun positive => certified (m₅.1 positive)) (m₉.2 m₈.1) simulation consensus

theorem gatedProcess_safe (answered : pass.Answered answers) (safe : ¬ pass.Bypasses) :
    Follows pass.Gated (gatedProcess pass.node pass.order answers).trace := by
  have ensured : (gatedProcess pass.node pass.order answers).Ensures pass.Gated []
      fun _ _ => True := by
    unfold gatedProcess
    cases answers.app with
    | none => exact ⟨(calls_quiet (quiet_of_staged reject_staged) []).1, fun _ _ => trivial⟩
    | some threshold =>
      refine (calls_quiet (quiet_of_staged fundsGate_staged) []).bind fun _ _ _ => ?_
      refine (calls_quiet (quiet_of_waiting generatePlan_waiting) _).bind fun generated past came => ?_
      have same : generated = pass.plan.toGeneratedPlan := by
        have ended := came.1
        simp only [generatePlan, Traced.result_bind_eq_ok, answered.generate, raising_bind_ok,
          Traced.result_pure, Except.ok.injEq] at ended
        obtain ⟨_, _, same⟩ := ended
        exact same.symm
      rw [same]
      exact gatedPlan_safe answered safe threshold past
  simpa using ensured.1

end

end MinotaurSubnet.Blockloop
