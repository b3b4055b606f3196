import MinotaurSubnet.Consensus.ChampionQuorum
import MinotaurSubnet.Harness.RoundStore

/-! # Certifying a round

`_certify_solver_round_state` of `api/routes/submissions/champion_consensus.py`: how a
node turns a certify request, its own round record and its consensus manager into the
certificate it stores. With approvals in the request there is no suspension point
after the preparation, so the call is one function of the prepared store.
-/

namespace MinotaurSubnet.Api

open Library Python Consensus Harness

/-- How a call ends without a result: an `HTTPException`, or anything else raised. -/
inductive CertifyError where
  | http (statusCode : Nat) (detail : String)
  | raised (e : PyError)
  deriving DecidableEq

def raising {α : Type} : Except PyError α → Except CertifyError α
  | .ok a => .ok a
  | .error e => .error (.raised e)

structure ChampionApprovalPayload where
  validatorId : String
  timestamp : ℚ := 0
  signature : String := ""
  committeeHash : Option String := none
  incumbentImageId : Option String := none
  candidateSubmissionId : Option String := none
  candidateImageId : Option String := none
  benchmarkPackHash : Option String := none
  shadowCaseLogHash : Option String := none
  effectiveEpoch : Option Int := none
  commitHash : Option String := none
  nonce : Int := 0
  deadline : Int := 0
  deriving DecidableEq

/-- The request model; its `ge=0` fields are naturals. -/
structure CertifyRoundRequest where
  roundId : String
  candidateSubmissionId : Option String := none
  candidateImageId : Option String := none
  committeeHash : Option String := none
  incumbentImageId : Option String := none
  benchmarkPackHash : Option String := none
  shadowCaseLogHash : Option String := none
  effectiveEpoch : Nat
  benchmarkAnchorEpoch : Option Nat := none
  quorumRequired : Nat := 0
  commitHash : Option String := none
  nonce : Int := 0
  deadline : Int := 0
  approvals : List ChampionApprovalPayload := []
  force : Bool := false
  deriving DecidableEq

structure Submission where
  submissionId : String
  repoUrl : String
  commitHash : String
  hotkey : String
  imageId : Option String := none
  imageDigest : Option String := none
  deriving DecidableEq

structure Awaited (α : Type) where
  store : RoundStore
  result : Except PyError α

/-- The singletons and the clocks a certification reads. -/
structure Surroundings where
  /-- The champion consensus manager with its state, if configured. -/
  manager : Option (ChampionNode × ChampionState) := none
  submissions : Dict String Submission := .empty
  /-- `evaluate_round` of the epoch manager, if configured. -/
  evaluateRound : Option (RoundStore → String → Int → Awaited Unit) := none
  /-- `propose` of the consensus manager, with what happens to the store meanwhile. -/
  propose : RoundStore → ChampionProposal → Awaited ChampionConsensusResult
  currentEpoch : Int := 0
  now : Int := 0
  nowMs : Int := 0
  /-- The `lastNonce` read of every signer; `none` without a configured registry. -/
  lastNonces : Option (List (Option Int)) := none
  /-- `repr` of a list of strings. -/
  reprStrings : List String → String

/-- `value or fallback`. -/
def strOr (value fallback : Option String) : Option String :=
  match value with
  | some "" | none => fallback
  | some s => some s

/-- `value or fallback` for integers. -/
def intOr (value fallback : Int) : Int := if value = 0 then fallback else value

section

variable (host : Host) (env : Surroundings)

/-- An explicit candidate moves the round straight to `CERTIFYING`; otherwise the epoch
    manager evaluates it, and whatever that raises is swallowed. -/
def nameFinalist (s : RoundStore) (round : RoundState) (roundId : String)
    (candidateSubmissionId : Option String) : Except CertifyError (RoundStore × RoundState) :=
  match (strOr candidateSubmissionId none).bind env.submissions.get? with
  | some candidate =>
    raising (s.setRoundFinalist roundId candidate.submissionId candidate.imageId)
  | none =>
    match env.evaluateRound with
    | none => .ok (s, round)
    | some evaluateRound =>
      let after := evaluateRound s roundId (round.closeEpoch.getD round.openedEpoch)
      match after.result with
      | .ok _ => .ok (after.store, (after.store.getRound roundId).getD round)
      | .error _ => .ok (after.store, round)

def maybePrepareRoundForCertification (s : RoundStore) (roundId : String) (updates : RoundUpdates)
    (candidateSubmissionId : Option String) : Except CertifyError (RoundStore × RoundState) := do
  let s ← raising (adoptLeaderRoundIfBehind s roundId .closed updates)
  match s.getRound roundId with
  | none => .error (.http 404 "Solver round not found")
  | some round =>
    let current := (s.getCurrentRound.map (·.roundId)) == some roundId
    let (s, round) ← if round.status = .open ∧ updates.closeEpoch.isSome ∧ current
      then raising (s.closeCurrentRound updates) else .ok (s, round)
    if round.status = .closed ∨ round.status = .replaying then
      nameFinalist env s round roundId candidateSubmissionId
    else .ok (s, round)

def roundCertificationDeadlineElapsed (round : RoundState) : Bool :=
  match round.certificate, round.decisionDeadlineEpoch with
  | none, some deadline => deadline < env.currentEpoch
  | _, _ => false

/-- The manager's `quorum_required`, zero without a manager. -/
def managerQuorum : Int :=
  match env.manager with
  | some (node, state) => node.quorumRequired host state
  | none => 0

/-- The `committee_hash` property: the lower-cased members in order. -/
def committeeHash (node : ChampionNode) (state : ChampionState) : String :=
  let members := ((node.membership state).validators host.lower).filter (· ≠ "")
  let ordered := (members.map host.lower).insertionSort (· ≤ ·)
  "0x" ++ hexOfBytes (host.keccak (utf8 ("|".intercalate ordered)))

def resolvedImageId (candidateImageId : Option String) (candidate : Submission)
    (round : RoundState) : Option String :=
  let passedBare := if isBareDigest (candidateImageId.getD "") then candidateImageId else none
  let resolved := strOr passedBare (strOr (bareHex candidate.imageDigest)
    (strOr candidateImageId (strOr candidate.imageId round.finalistImageId)))
  strOr resolved
    (if candidate.hotkey = "__genesis__" ∨ candidate.repoUrl.toList.take 10 = "builtin://".toList then
      some ("builtin:" ++ if candidate.commitHash = "" then "genesis" else candidate.commitHash)
    else none)

/-- `_floor_champion_nonce`: above every signer's last nonce, unless a read failed. -/
def floorChampionNonce : Int :=
  match env.lastNonces with
  | none | some [] => env.nowMs
  | some reads =>
    match reads.mapM id with
    | none => env.nowMs
    | some nonces => max env.nowMs (nonces.foldl max 0 + 1)

/-- `_champion_approval_deadline`: an hour from now, or the activation with its margin. -/
def championApprovalDeadline (effectiveEpoch : Int) : Int :=
  max (env.now + 3600) (effectiveEpoch * 60 + 900)

/-- `required value, or an HTTPException`. -/
def orRefuse {α : Type} (value : Option α) (statusCode : Nat) (detail : String) :
    Except CertifyError α :=
  match value with
  | some a => .ok a
  | none => .error (.http statusCode detail)

def defaultQuorum (round : RoundState) : Int :=
  intOr (round.quorumRequired.getD 0) (managerQuorum host env)

/-- `_build_champion_proposal_for_round`, with the overrides a certify request passes. -/
def buildChampionProposalForRound (round : RoundState) (body : CertifyRoundRequest) :
    Except CertifyError (ChampionProposal × Int) := do
  let submissionId ← orRefuse
    (strOr (strOr body.candidateSubmissionId round.finalistSubmissionId) none) 400
    "No finalist candidate selected"
  let candidate ← orRefuse (env.submissions.get? submissionId) 404 "Certified submission not found"
  let imageId ← orRefuse (resolvedImageId body.candidateImageId candidate round) 400
    "Certified candidate is missing image_id"
  let managerHash := env.manager.map fun (node, state) => committeeHash host node state
  let committeeHash ← orRefuse
    (strOr (strOr body.committeeHash round.committeeHash) managerHash) 400
    "Round is missing committee_hash"
  let benchmarkPackHash ← orRefuse
    (strOr (strOr body.benchmarkPackHash round.benchmarkPackHash) none) 400
    "Round is missing benchmark_pack_hash"
  let quorum := defaultQuorum host env round
  let builtin := imageId.toList.take 8 == "builtin:".toList
  ensure (!(1 < quorum && !builtin && !isBareDigest imageId))
    (.http 409 (s!"Candidate {candidate.submissionId} has no pushed image digest "
      ++ s!"(image_digest unset) — refusing to propose at quorum {quorum}: "
      ++ "followers cannot pull-by-digest to independently verify it. The "
      ++ "candidate image must be pushed to the registry (CANDIDATE_IMAGE_REPO) "
      ++ "before it can be certified by a multi-validator quorum."))
  let proposal : ChampionProposal := {
    roundId := round.roundId
    committeeHash := some committeeHash
    incumbentImageId := strOr body.incumbentImageId round.incumbentImageId
    candidateSubmissionId := submissionId
    candidateImageId := imageId
    benchmarkPackHash := some benchmarkPackHash
    shadowCaseLogHash := strOr body.shadowCaseLogHash round.shadowCaseLogHash
    effectiveEpoch := body.effectiveEpoch
    commitHash := match body.commitHash with
      | some commit => strOr (some commit) none
      | none => strOr (some candidate.commitHash) none
    nonce := intOr body.nonce (floorChampionNonce env)
    deadline := intOr body.deadline (championApprovalDeadline env body.effectiveEpoch) }
  return (proposal, quorum)

def buildChampionApprovalFromPayload (p : ChampionProposal) (a : ChampionApprovalPayload) :
    ChampionApproval where
  validatorId := a.validatorId
  roundId := p.roundId
  committeeHash := strOr a.committeeHash p.committeeHash
  incumbentImageId := strOr a.incumbentImageId p.incumbentImageId
  candidateSubmissionId := strOr a.candidateSubmissionId (some p.candidateSubmissionId)
  candidateImageId := strOr a.candidateImageId (some p.candidateImageId)
  benchmarkPackHash := strOr a.benchmarkPackHash p.benchmarkPackHash
  shadowCaseLogHash := strOr a.shadowCaseLogHash p.shadowCaseLogHash
  effectiveEpoch := intOr (a.effectiveEpoch.getD 0) p.effectiveEpoch
  commitHash := strOr a.commitHash p.commitHash
  nonce := intOr a.nonce p.nonce
  deadline := intOr a.deadline p.deadline
  timestamp := a.timestamp
  signature := a.signature

/-- The approvals the manager does not accept; nobody is asked under `force` or without
    a manager. -/
def invalidApprovals (p : ChampionProposal) (force : Bool) (approvals : List ChampionApproval) :
    List ChampionApproval :=
  match env.manager, force with
  | some (node, state), false => approvals.filter fun a => !node.verifyApproval host state a p
  | _, _ => []

def certificateOf (p : ChampionProposal) (quorumRequired : Int) (approvals : List ChampionApproval) :
    ChampionCertificate where
  roundId := p.roundId
  committeeHash := p.committeeHash
  candidateSubmissionId := some p.candidateSubmissionId
  candidateImageId := some p.candidateImageId
  incumbentImageId := p.incumbentImageId
  benchmarkPackHash := p.benchmarkPackHash
  shadowCaseLogHash := p.shadowCaseLogHash
  effectiveEpoch := p.effectiveEpoch
  quorumRequired := quorumRequired
  approvals := approvals

def suppliedCertificate (body : CertifyRoundRequest) (p : ChampionProposal) (quorumRequired : Int) :
    Except CertifyError ChampionCertificate := do
  let approvals := body.approvals.map (buildChampionApprovalFromPayload p)
  let invalid := (invalidApprovals host env p body.force approvals).map (·.validatorId)
  ensure invalid.isEmpty
    (.http 409 ("Invalid champion approvals from validators: "
      ++ env.reprStrings (invalid.insertionSort (· ≤ ·))))
  ensure (!(0 < quorumRequired && (approvals.length : Int) < quorumRequired))
    (.http 409 (s!"Round {body.roundId} requires {quorumRequired} approvals; "
      ++ s!"received {approvals.length}"))
  return certificateOf p quorumRequired approvals

def quorumInForce (round : RoundState) (body : CertifyRoundRequest) : Int :=
  intOr body.quorumRequired (defaultQuorum host env round)

/-- The checks of a prepared round and its request. -/
def admitCertify (round : RoundState) (body : CertifyRoundRequest) : Except CertifyError ChampionProposal := do
  ensure (round.status == .certifying || round.status == .certified)
    (.http 409 (s!"Round {body.roundId} is {round.status.value}; " ++ "expected certifying"))
  ensure (body.force || !roundCertificationDeadlineElapsed env round)
    (.http 409 (s!"Round {body.roundId} exceeded certification deadline "
      ++ s!"{round.decisionDeadlineEpoch.getD 0}"))
  let (proposal, _) ← buildChampionProposalForRound host env round body
  let quorumRequired := quorumInForce host env round body
  ensure (round.quorumRequired.all fun q => q == 0 || q == quorumRequired)
    (.http 409 (s!"Round quorum {round.quorumRequired.getD 0} does not match "
      ++ s!"requested quorum {quorumRequired}"))
  return proposal

/-- The checks before the node's own manager is asked. -/
def admitPropose (round : RoundState) (body : CertifyRoundRequest) : Except CertifyError Unit := do
  ensure env.manager.isSome
    (.http 503 ("Champion consensus not configured; supply approvals manually "
      ++ "or configure VALIDATOR_PRIVATE_KEY plus VALIDATOR_REGISTRY_<chain> "
      ++ "and CHAMPION_REGISTRY_<chain> so peer discovery can run"))
  let configured := managerQuorum host env
  ensure (body.quorumRequired == 0 || (body.quorumRequired : Int) == configured)
    (.http 409 (s!"Requested quorum {body.quorumRequired} does not match "
      ++ s!"configured validator quorum {configured}"))
  ensure (round.quorumRequired.all (· == configured))
    (.http 409 (s!"Round quorum {round.quorumRequired.getD 0} does not match "
      ++ s!"configured validator quorum {configured}"))

/-- What `propose` returned. -/
def quorumCertificate (body : CertifyRoundRequest) (result : ChampionConsensusResult) :
    Except CertifyError ChampionCertificate :=
  orRefuse (if result.reached then result.certificate else none) 409
    (s!"Champion quorum not reached for round {body.roundId}: "
      ++ s!"{result.collected}/{result.quorum}")

/-- The branch that asks the node's own manager for a quorum. -/
def proposedCertificate (s : RoundStore) (round : RoundState) (body : CertifyRoundRequest)
    (p : ChampionProposal) : Except CertifyError (RoundStore × ChampionCertificate) := do
  admitPropose host env round body
  let after := env.propose s p
  let result ← raising after.result
  return (after.store, ← quorumCertificate body result)

/-- `_certify_solver_round_state` after the preparation. -/
def certifyPrepared (s : RoundStore) (round : RoundState) (body : CertifyRoundRequest) :
    Except CertifyError (RoundStore × RoundState) := do
  let proposal ← admitCertify host env round body
  if body.approvals.isEmpty then
    let (s, certificate) ← proposedCertificate host env s round body proposal
    raising (s.certifyRound body.roundId certificate)
  else
    let certificate ← suppliedCertificate host env body proposal (quorumInForce host env round body)
    raising (s.certifyRound body.roundId certificate)

def prepare (s : RoundStore) (body : CertifyRoundRequest) :
    Except CertifyError (RoundStore × RoundState) :=
  maybePrepareRoundForCertification env s body.roundId
    { benchmarkAnchorEpoch := body.benchmarkAnchorEpoch.map Int.ofNat } body.candidateSubmissionId

def certifySolverRoundState (s : RoundStore) (body : CertifyRoundRequest) :
    Except CertifyError (RoundStore × RoundState) := do
  let (s, round) ← prepare env s body
  certifyPrepared host env s round body

variable {host env}

theorem raising_eq_ok {α : Type} {x : Except PyError α} {a : α} : raising x = .ok a ↔ x = .ok a := by
  cases x <;> simp [raising]

theorem certifyPrepared_supplied {s s' : RoundStore} {round state : RoundState}
    {body : CertifyRoundRequest} (supplied : body.approvals.isEmpty = false)
    (done : certifyPrepared host env s round body = .ok (s', state)) :
    ∃ p quorum, buildChampionProposalForRound host env round body = .ok (p, quorum)
      ∧ invalidApprovals host env p body.force
          (body.approvals.map (buildChampionApprovalFromPayload p)) = []
      ∧ s.certifyRound body.roundId (certificateOf p (quorumInForce host env round body)
          (body.approvals.map (buildChampionApprovalFromPayload p))) = .ok (s', state) := by
  obtain ⟨_, admitted, done⟩ := bind_eq_ok.mp done
  obtain ⟨_, admitted⟩ := bind_ok admitted
  obtain ⟨_, admitted⟩ := bind_ok admitted
  obtain ⟨⟨p, quorum⟩, proposed, admitted⟩ := bind_eq_ok.mp admitted
  obtain ⟨_, admitted⟩ := bind_ok admitted
  obtain rfl := pure_eq_ok.mp admitted
  simp only [supplied, Bool.false_eq_true, if_false] at done
  obtain ⟨certificate, built, done⟩ := bind_eq_ok.mp done
  obtain ⟨_, valid, built⟩ := bind_eq_ok.mp built
  obtain ⟨_, built⟩ := bind_ok built
  obtain rfl := pure_eq_ok.mp built
  refine ⟨p, quorum, proposed, ?_, raising_eq_ok.mp done⟩
  simpa [List.isEmpty_iff] using ensure_eq_ok.mp valid

end

end MinotaurSubnet.Api
