import MinotaurSubnet.Validator.ScoringEngine

/-! # What an approving evaluation went through

One lemma for each part of the evaluation: what it did when it let the proposal pass.
Everything about approvals is derived from these.
-/

namespace MinotaurSubnet.Validator

open Library Python Consensus Shared

section

variable {host : Host} {outside : Outside}

structure Passes (outside : Outside) (p : Proposal) (r : Rescored) (scoreThreshold : PyFloat)
    (v : Approval) : Prop where
  compiled : ∃ metadata dest,
    (if p.planData.truthy then p.planData.get "metadata" (.dict []) else .ok (.dict [])) = .ok metadata
      ∧ verifyPlatformCompiled p.planData metadata = .ok (.ok ())
      ∧ destAfterBridge metadata p.params = .ok dest
      ∧ escrowGate outside p dest v.contractAddress = .ok ()
  contract : signingContract outside p = .ok v.contractAddress
  fee : feeGate outside p r.simulation = .ok ()
  onChain : onChainGate outside p v.contractAddress r.simulation = .ok ()
  score : scoreGate outside r.localScore scoreThreshold = .ok v.localScore
  plan : v.plan = r.plan
  simulation : v.simulation = r.simulation
  orderId : v.orderId = p.orderId
  planHash : v.planHash = p.planHash
  chainId : v.chainId = p.chainId
  appId : v.appId = p.appId

variable {p : Proposal}

theorem gates_eq_ok {r scoreThreshold v} :
    gates outside p r scoreThreshold = .ok v ↔ Passes outside p r scoreThreshold v := by
  constructor
  · intro done
    obtain ⟨metadata, read, done⟩ := bind_eq_ok.mp done
    obtain ⟨verified, checked, done⟩ := bind_eq_ok.mp done
    cases verified with
    | error reason => simp at done
    | ok u =>
      obtain ⟨dest, found, done⟩ := bind_eq_ok.mp done
      obtain ⟨contract, signs, done⟩ := bind_eq_ok.mp done
      obtain ⟨_, escrow, done⟩ := bind_eq_ok.mp done
      obtain ⟨_, fee, done⟩ := bind_eq_ok.mp done
      obtain ⟨_, onChain, done⟩ := bind_eq_ok.mp done
      obtain ⟨score, enough, done⟩ := bind_eq_ok.mp done
      obtain rfl := pure_eq_ok.mp done
      exact {
        compiled := ⟨metadata, dest, raises_eq_ok.mp read, raises_eq_ok.mp checked,
          raises_eq_ok.mp found, escrow⟩
        contract := raises_eq_ok.mp signs
        fee := fee
        onChain := onChain
        score := enough
        plan := rfl
        simulation := rfl
        orderId := rfl
        planHash := rfl
        chainId := rfl
        appId := rfl }
  · intro passed
    obtain ⟨metadata, dest, read, checked, found, escrow⟩ := passed.compiled
    refine bind_eq_ok.mpr ⟨metadata, raises_eq_ok.mpr read, ?_⟩
    refine bind_eq_ok.mpr ⟨.ok (), raises_eq_ok.mpr checked, ?_⟩
    refine bind_eq_ok.mpr ⟨dest, raises_eq_ok.mpr found, ?_⟩
    refine bind_eq_ok.mpr ⟨v.contractAddress, raises_eq_ok.mpr passed.contract, ?_⟩
    refine bind_eq_ok.mpr ⟨(), escrow, ?_⟩
    refine bind_eq_ok.mpr ⟨(), passed.fee, ?_⟩
    refine bind_eq_ok.mpr ⟨(), passed.onChain, ?_⟩
    refine bind_eq_ok.mpr ⟨v.localScore, passed.score, ?_⟩
    rw [pure_eq_ok, ← passed.plan, ← passed.simulation, ← passed.orderId, ← passed.planHash,
      ← passed.chainId, ← passed.appId]

theorem inner_eq_ok {body scoreThreshold v} :
    verifyAndScoreProposalInner host outside body scoreThreshold = .ok v ↔
      ∃ p loaded r, parseProposal body = .ok p ∧ registryGate outside p = .ok ()
        ∧ loadedFor outside p = .ok loaded ∧ rescore host outside loaded p = .ok r
        ∧ Passes outside p r scoreThreshold v := by
  constructor
  · intro done
    obtain ⟨p, parsed, done⟩ := bind_eq_ok.mp done
    obtain ⟨_, registered, done⟩ := bind_eq_ok.mp done
    obtain ⟨loaded, listed, done⟩ := bind_eq_ok.mp done
    obtain ⟨r, rescored, done⟩ := bind_eq_ok.mp done
    exact ⟨p, loaded, r, raises_eq_ok.mp parsed, registered, raises_eq_ok.mp listed, rescored,
      gates_eq_ok.mp done⟩
  · rintro ⟨p, loaded, r, parsed, registered, listed, rescored, passed⟩
    refine bind_eq_ok.mpr ⟨p, raises_eq_ok.mpr parsed, ?_⟩
    refine bind_eq_ok.mpr ⟨(), registered, ?_⟩
    refine bind_eq_ok.mpr ⟨loaded, raises_eq_ok.mpr listed, ?_⟩
    exact bind_eq_ok.mpr ⟨r, rescored, gates_eq_ok.mpr passed⟩

/-- How the block leaves its variables when this node re-simulates. -/
inductive Rescoring (host : Host) (outside : Outside) (loaded : List String) (p : Proposal) :
    Rescored → Prop
  /-- Not entered, or left before a plan was built. -/
  | untouched (unbuilt : isLoaded loaded p = false ∨ ∀ deployment plan,
        ¬ (outside.scoringDeployment p.appId p.chainId = .ok deployment ∧ parsePlan p = .ok plan)) :
      Rescoring host outside loaded p ⟨none, none, p.score⟩
  /-- Simulated, then something raised. -/
  | unscored {deployment : Option String} {plan : ExecutionPlan} {simulation : SimulationResult}
      {e : PyError} (entered : isLoaded loaded p = true)
      (deployed : outside.scoringDeployment p.appId p.chainId = .ok deployment)
      (built : parsePlan p = .ok plan)
      (simulated : simulatePlan host outside p plan deployment = some simulation)
      (failed : ownScore outside p deployment plan simulation = .error e)
      (caught : e ≠ .sandboxOverloaded) :
      Rescoring host outside loaded p ⟨some plan, some simulation, p.score⟩
  | scored {deployment : Option String} {plan : ExecutionPlan} {simulation : SimulationResult}
      {score : PyFloat} (entered : isLoaded loaded p = true)
      (deployed : outside.scoringDeployment p.appId p.chainId = .ok deployment)
      (built : parsePlan p = .ok plan)
      (simulated : simulatePlan host outside p plan deployment = some simulation)
      (own : ownScore outside p deployment plan simulation = .ok score) :
      Rescoring host outside loaded p ⟨some plan, some simulation, .float score⟩

theorem keepOn_eq_ok {kept r e} :
    keepOn kept e = .ok r ↔ e ≠ .sandboxOverloaded ∧ r = kept := by
  unfold keepOn
  split
  · next overloaded => simp [overloaded]
  · next other => simp [other, eq_comm]

theorem rescore_spec (resimulates : outside.resimulate = true) {loaded r}
    (done : rescore host outside loaded p = .ok r) :
    Rescoring host outside loaded p r := by
  unfold rescore at done
  split at done
  · next entered =>
    split at done
    · next e failed =>
      obtain ⟨-, rfl⟩ := keepOn_eq_ok.mp done
      refine .untouched (.inr ?_)
      rintro deployment plan ⟨deployed, built⟩
      rw [deployed, built] at failed
      exact absurd failed (by simp [bind, Except.bind, pure, Except.pure])
    · next deployment plan both =>
      obtain ⟨deployment', deployed, both⟩ := bind_eq_ok.mp both
      obtain ⟨plan', built, both⟩ := bind_eq_ok.mp both
      obtain ⟨rfl, rfl⟩ := Prod.mk.inj (pure_eq_ok.mp both)
      simp only [rescorePlan, resimulates, if_true] at done
      split at done
      · simp at done
      · next simulation simulated =>
        cases scored : ownScore outside p deployment' plan' simulation with
        | error e =>
          rw [scored] at done
          obtain ⟨caught, rfl⟩ := keepOn_eq_ok.mp done
          exact .unscored entered deployed built simulated scored caught
        | ok score =>
          rw [scored] at done
          cases done
          exact .scored entered deployed built simulated scored
  · next absent =>
    cases done
    exact .untouched (.inl (by simpa using absent))

/-- The score the block leaves behind a simulation: its own, or the leader's when
    computing that raises. -/
inductive LocalScore (outside : Outside) (p : Proposal) (deployment : Option String)
    (plan : ExecutionPlan) (simulation : SimulationResult) : Value → Prop
  | own {score : PyFloat} (scored : ownScore outside p deployment plan simulation = .ok score) :
      LocalScore outside p deployment plan simulation (.float score)
  | leaders {e : PyError} (failed : ownScore outside p deployment plan simulation = .error e)
      (caught : e ≠ .sandboxOverloaded) : LocalScore outside p deployment plan simulation p.score

variable {plan : ExecutionPlan} {deployment : Option String} {simulation : SimulationResult}

theorem rescore_simulated (resimulates : outside.resimulate = true) {loaded r}
    (entered : isLoaded loaded p = true)
    (deployed : outside.scoringDeployment p.appId p.chainId = .ok deployment)
    (built : parsePlan p = .ok plan)
    (simulated : simulatePlan host outside p plan deployment = some simulation) :
    rescore host outside loaded p = .ok r ↔
      ∃ score, LocalScore outside p deployment plan simulation score
        ∧ r = ⟨some plan, some simulation, score⟩ := by
  have unfolded : rescore host outside loaded p =
      assignScore { plan := some plan, simulation := some simulation, localScore := p.score }
        (ownScore outside p deployment plan simulation) := by
    simp [rescore, entered, deployed, built, rescorePlan, resimulates, simulated, bind, Except.bind,
      pure, Except.pure]
  rw [unfolded]
  cases scored : ownScore outside p deployment plan simulation with
  | error e =>
    constructor
    · intro kept
      obtain ⟨caught, rfl⟩ := keepOn_eq_ok.mp kept
      exact ⟨p.score, .leaders scored caught, rfl⟩
    · rintro ⟨score, leaves, rfl⟩
      cases leaves with
      | own scored' => simp [scored] at scored'
      | leaders failed caught =>
        cases scored.symm.trans failed
        exact keepOn_eq_ok.mpr ⟨caught, rfl⟩
  | ok own =>
    constructor
    · intro assigned
      exact ⟨.float own, .own scored, (Except.ok.inj assigned).symm⟩
    · rintro ⟨score, leaves, rfl⟩
      cases leaves with
      | own scored' =>
        cases scored.symm.trans scored'
        rfl
      | leaders failed => simp [scored] at failed

theorem simulated_of_rescored (resimulates : outside.resimulate = true) {loaded r}
    (entered : isLoaded loaded p = true)
    (deployed : outside.scoringDeployment p.appId p.chainId = .ok deployment)
    (built : parsePlan p = .ok plan) (done : rescore host outside loaded p = .ok r) :
    ∃ simulation, simulatePlan host outside p plan deployment = some simulation := by
  cases rescore_spec resimulates done with
  | untouched unbuilt =>
    rcases unbuilt with out | unbuilt
    · simp [out] at entered
    · exact absurd ⟨deployed, built⟩ (unbuilt deployment plan)
  | unscored _ deployed' built' simulated =>
    cases deployed.symm.trans deployed'
    cases built.symm.trans built'
    exact ⟨_, simulated⟩
  | scored _ deployed' built' simulated =>
    cases deployed.symm.trans deployed'
    cases built.symm.trans built'
    exact ⟨_, simulated⟩

theorem simulatePlan_eq_some :
    simulatePlan host outside p plan deployment = some simulation ↔
      ∃ simulate request result, outside.simulate = some simulate
        ∧ followerRequest host outside p plan deployment = .ok request
        ∧ simulate request = .ok result ∧ simulation = result.result := by
  unfold simulatePlan
  cases outside.simulate with
  | none => simp
  | some simulate =>
    cases followerRequest host outside p plan deployment with
    | error e => simp [bind, Except.bind, Except.toOption]
    | ok request =>
      cases returned : simulate request with
      | error e => simp [bind, Except.bind, Except.toOption, returned]
      | ok result =>
        simp [bind, Except.bind, Except.toOption, returned, pure, Except.pure, eq_comm]

/-- The bridge-leg rule never applies: on a plan without calls the flag does nothing, and
    on any other it raises. -/
theorem isBridge_false {b} (done : isBridge p plan = .ok b) : b = false := by
  obtain ⟨_, done⟩ := bind_ok done
  split at done
  · split at done
    · exact (pure_eq_ok.mp done).symm
    · simp [throw, throwThe, MonadExceptOf.throw] at done
  · exact (pure_eq_ok.mp done).symm

theorem ownScore_eq_ok {score} :
    ownScore outside p deployment plan simulation = .ok score ↔
      ∃ state, followerState p deployment = .ok state ∧ isBridge p plan = .ok false
        ∧ outside.jsScore p.appId plan simulation state = .ok score := by
  constructor
  · intro done
    obtain ⟨state, made, done⟩ := bind_eq_ok.mp done
    obtain ⟨bridge, flagged, done⟩ := bind_eq_ok.mp done
    obtain rfl := isBridge_false flagged
    simp only [Bool.false_and, Bool.false_eq_true, if_false] at done
    exact ⟨state, made, flagged, by simpa using done⟩
  · rintro ⟨state, made, flagged, scored⟩
    refine bind_eq_ok.mpr ⟨state, made, bind_eq_ok.mpr ⟨false, flagged, ?_⟩⟩
    simpa using scored

theorem scoreGate_eq_ok {score scoreThreshold x} :
    scoreGate outside score scoreThreshold = .ok x ↔
      score.number? = some x ∧ x.lt scoreThreshold = false := by
  unfold scoreGate
  cases score.number? with
  | none => simp
  | some y =>
    simp only [orReject, bind_eq_ok, ensure_eq_ok, pure_eq_ok, Option.some.injEq]
    constructor
    · rintro ⟨_, above, rfl⟩
      exact ⟨rfl, by simpa using above⟩
    · rintro ⟨rfl, above⟩
      exact ⟨(), by simpa using above, rfl⟩

def lockedFee (p : Proposal) : Except PyError Int := do
  (← p.params.get "platform_fee_wei" (.int 0)).toIntOr 0

theorem feeGate_eq_ok {simulation : LocalSimulation} :
    feeGate outside p (some simulation.result) = .ok () ↔
      ∃ locked, lockedFee p = .ok locked ∧ (0 < locked → ∃ gasPrice,
        outside.gasPrice p.chainId = .ok gasPrice
          ∧ certifyFee (outside.feeClamp p.chainId) locked simulation.gasUsed gasPrice = .ok ()) := by
  have gas : simulation.result.gasUsed.toIntOr 0 = .ok simulation.gasUsed := by
    simp only [LocalSimulation.result, Value.toIntOr, Value.truthy, Value.toInt]
    by_cases zero : simulation.gasUsed = 0
    · simp [zero]
    · simp [zero]
  constructor
  · intro done
    obtain ⟨locked, read, done⟩ := bind_eq_ok.mp done
    refine ⟨locked, raises_eq_ok.mp read, ?_⟩
    intro positive
    simp only [positive, if_true] at done
    obtain ⟨gasPrice, priced, done⟩ := bind_eq_ok.mp done
    rw [gas] at done
    obtain ⟨gasUsed, measured, done⟩ := bind_eq_ok.mp done
    cases raises_eq_ok.mp measured
    refine ⟨gasPrice, raises_eq_ok.mp priced, ?_⟩
    split at done
    · next certified => exact certified
    · simp at done
  · rintro ⟨locked, read, certified⟩
    refine bind_eq_ok.mpr ⟨locked, raises_eq_ok.mpr read, ?_⟩
    by_cases positive : 0 < locked
    · obtain ⟨gasPrice, priced, ok⟩ := certified positive
      simp only [positive, if_true]
      refine bind_eq_ok.mpr ⟨gasPrice, raises_eq_ok.mpr priced, ?_⟩
      rw [gas]
      refine bind_eq_ok.mpr ⟨simulation.gasUsed, rfl, ?_⟩
      rw [ok]
      rfl
    · simp [positive]
      rfl

/-- With a simulation of its own and the gate closed, a deployed contract must have given
    a score of at least the threshold. -/
theorem onChainGate_eq_ok (closed : outside.failClosed = true) {contract : Option String}
    {simulation : LocalSimulation} :
    onChainGate outside p contract (some simulation.result) = .ok () ↔
      ∃ threshold, thresholdOf outside p = .ok threshold
        ∧ (contract.isSome = true → simulation.onChainScore.isSome = true)
        ∧ ∀ score, simulation.onChainScore = some score → threshold ≤ score := by
  cases scored : simulation.onChainScore with
  | none =>
    simp only [onChainGate, LocalSimulation.result, scored, Option.map_none, Option.getD_none,
      Value.isNone, closed, Bool.and_true, bind_eq_ok, raises_eq_ok, orReject, ensure_eq_ok,
      if_true, pure_eq_ok, and_true]
    simp
  | some score =>
    simp only [onChainGate, LocalSimulation.result, scored, Option.map_some, Option.getD_some,
      Value.isNone, Bool.and_false, Bool.false_and, bind_eq_ok, raises_eq_ok, orReject,
      ensure_eq_ok, Bool.false_eq_true, if_false, Value.lt_eq_ok, Value.number?]
    simp [PyFloat.lt]

end

end MinotaurSubnet.Validator
