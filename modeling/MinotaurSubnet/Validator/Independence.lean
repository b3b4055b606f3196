import MinotaurSubnet.Validator.Evaluation
import MinotaurSubnet.Validator.ProposalHandler

/-! # The follower's own judgement

An approval should rest on the follower's own simulation and score, and not on what the
leader claims. The evaluation starts from the leader's score and falls back to it
when the re-scoring block is not entered or raises, so the question is when the block
runs to its end.
-/

namespace MinotaurSubnet.Validator

open Library Python Consensus Shared

section

variable (host : Host) (outside : Outside)

/-- The bodies that differ in the leader's `score` and `simulation` only. -/
def SameRequest (body body' : Value) : Prop :=
  ∀ key, key ≠ "score" → key ≠ "simulation" → ∀ default, body'.get key default = body.get key default

def SimulatedHere (p : Proposal) (deployment : Option String) (plan : ExecutionPlan)
    (result : LocalSimulation) : Prop :=
  parsePlan p = .ok plan ∧ ∃ simulate request, outside.simulate = some simulate
    ∧ followerRequest host outside p plan deployment = .ok request ∧ simulate request = .ok result

def ScoredOnChain (p : Proposal) (result : LocalSimulation) : Prop :=
  ∀ contract, signingContract outside p = .ok (some contract) →
    ∃ threshold score, thresholdOf outside p = .ok threshold ∧ result.onChainScore = some score
      ∧ threshold ≤ score

def FeeCertified (p : Proposal) (result : LocalSimulation) : Prop :=
  ∃ locked, lockedFee p = .ok locked ∧ (0 < locked → ∃ gasPrice,
    outside.gasPrice p.chainId = .ok gasPrice
      ∧ certifyFee (outside.feeClamp p.chainId) locked result.gasUsed gasPrice = .ok ())

def ScoredHere (p : Proposal) (deployment : Option String) (plan : ExecutionPlan)
    (result : LocalSimulation) (score : PyFloat) : Prop :=
  ∃ state, followerState p deployment = .ok state
    ∧ (outside.jsScore p.appId plan result.result state = .ok score
      ∨ isBridge p plan = .ok true ∧ result.success = true ∧ score = bridgeScore)

/-- The approval rests on this node's own simulation and score of the body's plan, and the
    leader's claims do not change it. -/
structure Independent (body : Value) (scoreThreshold : PyFloat) (v : Approval) : Prop where
  judged : ∃ p deployment plan result, parseProposal body = .ok p
    ∧ outside.scoringDeployment p.appId p.chainId = .ok deployment
    ∧ SimulatedHere host outside p deployment plan result
    ∧ v.plan = some plan ∧ v.simulation = some result.result
    ∧ ScoredOnChain outside p result ∧ FeeCertified outside p result
    ∧ ScoredHere outside p deployment plan result v.localScore
  leaderless : ∀ body', SameRequest body body' →
    verifyAndScoreProposalInner host outside body' scoreThreshold = .ok v

/-- Nothing raises in the re-scoring block: the app is loaded, the body has a plan that
    parses, the deployment can be read, the nonce is a number, the bridge flag is not set
    on a plan with calls, and the scoring engine answers on what the simulator returned. -/
def Rescorable (body : Value) : Prop :=
  ∃ p loaded deployment plan state, parseProposal body = .ok p
    ∧ loadedFor outside p = .ok loaded ∧ isLoaded loaded p = true
    ∧ outside.scoringDeployment p.appId p.chainId = .ok deployment ∧ parsePlan p = .ok plan
    ∧ followerState p deployment = .ok state ∧ isBridge p plan = .ok false
    ∧ ∀ simulation, simulatePlan host outside p plan deployment = some simulation →
        ∃ score, outside.jsScore p.appId plan simulation state = .ok score

variable {host outside}

def Proposal.claiming (p : Proposal) (score simulation : Value) : Proposal :=
  { p with score, simulation }

theorem parseProposal_same {body body'} (same : SameRequest body body') {p}
    (parsed : parseProposal body = .ok p) :
    ∃ score simulation, body'.get "score" (.float (.fin 0)) = .ok score
      ∧ parseProposal body' = .ok (p.claiming score simulation) := by
  have kept : ∀ {key default r}, body.get key default = .ok r → key ≠ "score" → key ≠ "simulation" →
      body'.get key default = .ok r := fun read a b => (same _ a b _).trans read
  simp only [parseProposal, bind_eq_ok, pure_eq_ok] at parsed ⊢
  obtain ⟨orderId, readOrder, planHash, readHash, score, readScore, appId, readApp, function,
    readFunction, chain, readChain, chainId, asChain, params, readParams, submittedBy, readBy, limit,
    readLimit, deadline, asDeadline, perpetual, readPerpetual, executions, readExecutions,
    maxExecutions, asExecutions, rest, readRest, cooldown, asCooldown, planData, readPlan, simulation,
    readSimulation, rfl⟩ := parsed
  obtain ⟨fields, isDict, -⟩ := Value.get_eq_ok.mp (kept readOrder (by decide) (by decide))
  subst isDict
  refine ⟨_, _, rfl, orderId, kept readOrder (by decide) (by decide), planHash,
    kept readHash (by decide) (by decide), _, rfl, appId, kept readApp (by decide) (by decide),
    function, kept readFunction (by decide) (by decide), chain, kept readChain (by decide) (by decide),
    chainId, asChain, params, kept readParams (by decide) (by decide), submittedBy,
    kept readBy (by decide) (by decide), limit, kept readLimit (by decide) (by decide), deadline,
    asDeadline, perpetual, kept readPerpetual (by decide) (by decide), executions,
    kept readExecutions (by decide) (by decide), maxExecutions, asExecutions, rest,
    kept readRest (by decide) (by decide), cooldown, asCooldown, planData,
    kept readPlan (by decide) (by decide), _, rfl, rfl⟩

def withScore (body score : Value) : Value :=
  match body with
  | .dict fields => .dict (("score", score) :: fields.filter fun field => field.1 ≠ "score")
  | other => other

theorem lookup_filter_ne {fields : List (String × Value)} {key dropped} (other : key ≠ dropped) :
    (fields.filter fun field => field.1 ≠ dropped).lookup key = fields.lookup key := by
  induction fields with
  | nil => rfl
  | cons field rest ih =>
    obtain ⟨name, value⟩ := field
    by_cases gone : name = dropped
    · have differs : (key == name) = false := by simpa [gone] using other
      simp only [gone, ne_eq, not_true_eq_false, decide_false, Bool.false_eq_true,
        not_false_eq_true, List.filter_cons_of_neg, List.lookup_cons]
      rw [gone] at differs
      simpa [differs] using ih
    · simp only [ne_eq, gone, not_false_eq_true, decide_true, List.filter_cons_of_pos,
        List.lookup_cons]
      cases key == name with
      | true => rfl
      | false => simpa using ih

theorem withScore_same (body score : Value) : SameRequest body (withScore body score) := by
  intro key notScore _ default
  cases body with
  | dict fields =>
    have differs : (key == "score") = false := by simpa using notScore
    simp only [withScore, Value.get, List.lookup_cons, differs, lookup_filter_ne notScore]
  | _ => rfl

def otherScore (score : PyFloat) : PyFloat := if score = .fin 0 then .fin 1 else .fin 0

theorem otherScore_ne (score : PyFloat) : otherScore score ≠ score := by
  unfold otherScore
  split
  · next zero => simp [zero]
  · next other => exact fun same => other same.symm

variable {scoreThreshold : PyFloat}

/-- The parts of an evaluation that never look at the leader's claims. -/
theorem passes_claiming {p r v} (score simulation : Value) :
    Passes outside (p.claiming score simulation) r scoreThreshold v ↔
      Passes outside p r scoreThreshold v := by
  rw [← gates_eq_ok, ← gates_eq_ok]
  rfl

theorem not_leaderless_of_unscored {body v p loaded deployment plan simulation e}
    (resimulates : outside.resimulate = true) (parsed : parseProposal body = .ok p)
    (listed : loadedFor outside p = .ok loaded)
    (deployed : outside.scoringDeployment p.appId p.chainId = .ok deployment)
    (built : parsePlan p = .ok plan) (entered : isLoaded loaded p = true)
    (failed : ownScore outside p deployment plan simulation = .error e)
    (simulated : simulatePlan host outside p plan deployment = some simulation) :
    ¬ ∀ body', SameRequest body body' →
      verifyAndScoreProposalInner host outside body' scoreThreshold = .ok v := by
  intro leaderless
  let score : Value := .float (otherScore v.localScore)
  have same := withScore_same body score
  obtain ⟨claimed, sim, read, parsed'⟩ := parseProposal_same same parsed
  obtain ⟨orderId, dict, -⟩ := bind_eq_ok.mp parsed
  obtain rfl : score = claimed := by
    obtain ⟨fields, rfl, -⟩ := Value.get_eq_ok.mp dict
    exact Except.ok.inj read
  obtain ⟨p', loaded', r, parsed'', -, listed', rescored, passed⟩ := inner_eq_ok.mp (leaderless _ same)
  cases parsed'.symm.trans parsed''
  obtain rfl : loaded = loaded' := Except.ok.inj (listed.symm.trans listed')
  have own : v.localScore = otherScore v.localScore := by
    cases rescore_spec resimulates rescored with
    | untouched unbuilt =>
      rcases unbuilt with out | unbuilt
      · exact absurd (out.symm.trans entered) (by decide)
      · exact absurd ⟨deployed, built⟩ (unbuilt deployment plan)
    | unscored _ _ _ _ _ _ =>
      have scored := (scoreGate_eq_ok.mp passed.score).1
      exact (Option.some.inj scored).symm
    | scored _ deployed' built' simulated' own =>
      cases deployed.symm.trans deployed'
      cases built.symm.trans built'
      cases simulated.symm.trans simulated'
      exact absurd (failed.symm.trans own) (by simp)
  exact otherScore_ne _ own.symm

theorem leaderless_of_scored {body v p loaded deployment plan simulation score}
    (resimulates : outside.resimulate = true) (parsed : parseProposal body = .ok p)
    (registered : registryGate outside p = .ok ()) (listed : loadedFor outside p = .ok loaded)
    (entered : isLoaded loaded p = true)
    (deployed : outside.scoringDeployment p.appId p.chainId = .ok deployment)
    (built : parsePlan p = .ok plan)
    (simulated : simulatePlan host outside p plan deployment = some simulation)
    (own : ownScore outside p deployment plan simulation = .ok score)
    (passed : Passes outside p ⟨some plan, some simulation, .float score⟩ scoreThreshold v) :
    ∀ body', SameRequest body body' →
      verifyAndScoreProposalInner host outside body' scoreThreshold = .ok v := by
  intro body' same
  obtain ⟨claimed, sim, -, parsed'⟩ := parseProposal_same same parsed
  refine inner_eq_ok.mpr ⟨p.claiming claimed sim, loaded, ⟨some plan, some simulation, .float score⟩,
    parsed', registered, listed, ?_, (passes_claiming claimed sim).mpr passed⟩
  exact (rescore_simulated resimulates (p := p.claiming claimed sim) entered deployed built simulated).mpr
    ⟨.float score, .own own, rfl⟩

theorem independent_iff (resimulates : outside.resimulate = true)
    (closed : outside.failClosed = true) {body v}
    (approved : verifyAndScoreProposalInner host outside body scoreThreshold = .ok v) :
    Independent host outside body scoreThreshold v ↔ Rescorable host outside body := by
  obtain ⟨p, loaded, r, parsed, registered, listed, rescored, passed⟩ := inner_eq_ok.mp approved
  constructor
  · rintro ⟨⟨_, _, plan, _, _, _, _, planned, _⟩, leaderless⟩
    cases rescore_spec resimulates rescored with
    | untouched _ => exact absurd (planned.symm.trans passed.plan) (by simp)
    | unscored entered deployed built simulated failed _ =>
      exact absurd leaderless
        (not_leaderless_of_unscored resimulates parsed listed deployed built entered failed simulated)
    | scored entered deployed built simulated own =>
      obtain ⟨state, made, flagged, scored⟩ := ownScore_eq_ok.mp own
      refine ⟨p, loaded, _, _, state, parsed, listed, entered, deployed, built, made, flagged, ?_⟩
      intro simulation again
      cases simulated.symm.trans again
      exact ⟨_, scored⟩
  · rintro ⟨p', loaded', deployment, plan, state, parsed', listed', entered, deployed, built, made,
      flagged, answers⟩
    cases parsed.symm.trans parsed'
    cases listed.symm.trans listed'
    cases rescore_spec resimulates rescored with
    | untouched unbuilt =>
      rcases unbuilt with out | unbuilt
      · exact absurd (out.symm.trans entered) (by decide)
      · exact absurd ⟨deployed, built⟩ (unbuilt deployment plan)
    | unscored _ deployed' built' simulated failed _ =>
      cases deployed.symm.trans deployed'
      cases built.symm.trans built'
      obtain ⟨score, scored⟩ := answers _ simulated
      exact absurd (failed.symm.trans (ownScore_eq_ok.mpr ⟨state, made, flagged, scored⟩)) (by simp)
    | scored _ deployed' built' simulated own =>
      cases deployed.symm.trans deployed'
      cases built.symm.trans built'
      obtain ⟨simulate, request, result, simulator, asked, returned, rfl⟩ :=
        simulatePlan_eq_some.mp simulated
      obtain ⟨state', made', -, scored⟩ := ownScore_eq_ok.mp own
      have judgedScore := Option.some.inj (scoreGate_eq_ok.mp passed.score).1
      obtain ⟨threshold, read, scores, above⟩ := (onChainGate_eq_ok closed).mp passed.onChain
      refine ⟨⟨p, deployment, plan, result, parsed, deployed,
        ⟨built, simulate, request, simulator, asked, returned⟩, passed.plan, passed.simulation,
        ?_, feeGate_eq_ok.mp passed.fee, ⟨state', made', .inl (judgedScore ▸ scored)⟩⟩, ?_⟩
      · intro contract signs
        obtain same := Except.ok.inj (passed.contract.symm.trans signs)
        obtain ⟨score, found⟩ := Option.isSome_iff_exists.mp (scores (by rw [same]; rfl))
        exact ⟨threshold, score, read, found, above score found⟩
      · exact leaderless_of_scored resimulates parsed registered listed entered deployed built
          simulated own passed

theorem follower_approval_independent_iff {handler : Handler} {s : GuardState} {ref : Nat}
    {later : ℚ} {signing : Signing} {a : SignedApproval} (resimulates : outside.resimulate = true)
    (closed : outside.failClosed = true)
    (out : (handler.step host s (.finish ref outside later signing)).2 = .approval a) :
    ∃ call v, s.running.get? ref = some call
      ∧ verifyAndScoreProposalInner host outside call.body handler.scoreThreshold = .ok v
      ∧ a.score = v.localScore
      ∧ (Independent host outside call.body handler.scoreThreshold v ↔
          Rescorable host outside call.body) := by
  obtain ⟨call, v, running, evaluated, scored⟩ := Handler.finish_approval out
  exact ⟨call, v, running, evaluated, scored, independent_iff resimulates closed evaluated⟩

end

/-- The app is not loaded: nothing is simulated and the leader's score is signed. -/
theorem unloaded_app_approved :
    ¬ ∀ (host : Host) (outside : Outside) (handler : Handler) (s : GuardState) (ref : Nat)
        (later : ℚ) (signing : Signing) (a : SignedApproval) (call : Evaluation) (v : Approval),
      outside.resimulate = true → outside.failClosed = true →
      (handler.step host s (.finish ref outside later signing)).2 = .approval a →
      s.running.get? ref = some call →
      verifyAndScoreProposalInner host outside call.body handler.scoreThreshold = .ok v →
      Independent host outside call.body handler.scoreThreshold v := by
  intro always
  let body := proposalBody "h" emptyPlan []
  have seen : (smallFollower.step spellingHost (receivedBy body)
      (.finish 0 (wellOutside []) 1 ⟨5000, 1⟩)).2.approval?.isSome = true := by decide +kernel
  obtain ⟨a, out⟩ := Option.isSome_iff_exists.mp seen
  rw [GuardOutput.approval?_eq_some] at out
  obtain ⟨call, v, running, evaluated, -⟩ := Handler.finish_approval out
  have judged := always _ _ _ _ _ _ _ a call v rfl rfl out running evaluated
  obtain ⟨p, loaded, _, _, _, _, listed, entered, _⟩ := (independent_iff rfl rfl evaluated).mp judged
  -- the list of loaded apps is empty
  have none : loaded = [] := by
    unfold loadedFor at listed
    split at listed <;> exact (Except.ok.inj listed).symm
  simp [isLoaded, none] at entered

/-- The same proposal with the app loaded. -/
theorem follower_approval_independent_loaded :
    let body := proposalBody "h" emptyPlan []
    let e := GuardEvent.finish 0 (wellOutside ["app"]) 1 ⟨5000, 1⟩
    ∃ a call v, (smallFollower.step spellingHost (receivedBy body) e).2 = .approval a
      ∧ (receivedBy body).running.get? 0 = some call
      ∧ verifyAndScoreProposalInner spellingHost (wellOutside ["app"]) call.body
          smallFollower.scoreThreshold = .ok v
      ∧ Independent spellingHost (wellOutside ["app"]) call.body smallFollower.scoreThreshold v := by
  intro body e
  have seen : (smallFollower.step spellingHost (receivedBy body) e).2.approval?.isSome = true := by
    decide +kernel
  obtain ⟨a, out⟩ := Option.isSome_iff_exists.mp seen
  rw [GuardOutput.approval?_eq_some] at out
  obtain ⟨call, v, running, evaluated, -, iff⟩ := follower_approval_independent_iff rfl rfl out
  refine ⟨a, call, v, out, running, evaluated, iff.mpr ?_⟩
  rw [receivedBy_running running]
  exact ⟨_, ["app"], some "0xc0", _, _, rfl, rfl, rfl, rfl, rfl, rfl, rfl,
    fun simulation _ => ⟨.fin 1, rfl⟩⟩

end MinotaurSubnet.Validator
