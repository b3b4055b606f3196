import MinotaurSubnet.Api.CertifyRound
import MinotaurSubnet.Epoch.Activation

/-! # The round messages a follower processes

The handlers behind `/solver/round/internal/*` and what a proposal request does to the
rounds before the node re-benchmarks, as steps of one node. Every message is processed
to its end, except a certify request without approvals: it waits in `propose`, and the
certificate arrives with a later step of the consensus manager. A certify or proposal
request persists, and evicts, once at its end. The replies render the round and are
left out.
-/

namespace MinotaurSubnet.Api

open Library Consensus Harness
open Epoch (EpochManager)

/-- The request model without `force`; its `ge=0` fields are naturals. The records of
    the snapshot are those that parse. -/
structure CloseRoundRequest where
  roundId : Option String := none
  closeEpoch : Nat
  benchmarkPackHash : Option String := none
  committeeBlock : Option Nat := none
  committeeHash : Option String := none
  quorumRequired : Option Nat := none
  decisionDeadlineEpoch : Option Nat := none
  effectiveEpoch : Option Nat := none
  benchmarkAnchorEpoch : Option Nat := none
  submissions : List SubmissionRecord := []
  deriving DecidableEq

structure ChampionConsensusProposalRequest where
  roundId : String
  candidateSubmissionId : String
  committeeHash : Option String := none
  benchmarkPackHash : Option String := none
  effectiveEpoch : Nat
  benchmarkAnchorEpoch : Option Nat := none
  closeEpoch : Option Nat := none
  quorumRequired : Option Nat := none
  decisionDeadlineEpoch : Option Nat := none
  committeeBlock : Option Nat := none
  deriving DecidableEq

structure AbortRoundRequest where
  roundId : String
  reason : String
  deriving DecidableEq

structure ActivateRoundRequest where
  roundId : String
  activationEpoch : Nat
  championChanged : Option Bool := none
  deriving DecidableEq

def CloseRoundRequest.updates (body : CloseRoundRequest) : RoundUpdates where
  closeEpoch := some body.closeEpoch
  benchmarkPackHash := body.benchmarkPackHash
  committeeBlock := body.committeeBlock.map Int.ofNat
  committeeHash := body.committeeHash
  quorumRequired := body.quorumRequired.map Int.ofNat
  decisionDeadlineEpoch := body.decisionDeadlineEpoch.map Int.ofNat
  effectiveEpoch := body.effectiveEpoch.map Int.ofNat
  benchmarkAnchorEpoch := body.benchmarkAnchorEpoch.map Int.ofNat

def ChampionConsensusProposalRequest.updates (body : ChampionConsensusProposalRequest) :
    RoundUpdates where
  closeEpoch := body.closeEpoch.map Int.ofNat
  benchmarkPackHash := body.benchmarkPackHash
  committeeBlock := body.committeeBlock.map Int.ofNat
  committeeHash := body.committeeHash
  quorumRequired := body.quorumRequired.map Int.ofNat
  decisionDeadlineEpoch := body.decisionDeadlineEpoch.map Int.ofNat
  effectiveEpoch := some body.effectiveEpoch
  benchmarkAnchorEpoch := body.benchmarkAnchorEpoch.map Int.ofNat

section

variable (host : Host) (node : ChampionNode) (consensus : ChampionState) (env : Epoch.Surroundings)

def roundCall (m : EpochManager) (op : RoundStore.Op) : Outcome EpochManager CertifyError Unit :=
  (m.roundOp env op).mapError .raised

/-- `_submission_to_champion_snapshot` of an adopted submission. -/
def submissionToChampionSnapshot (sub : SubmissionRecord) : ChampionSnapshot where
  submissionId := some sub.submissionId
  imageId := sub.imageId
  solverName := sub.solverName
  solverVersion := sub.solverVersion
  hotkey := some sub.hotkey
  activatedRoundId := some sub.roundId
  activatedEpoch := sub.epoch
  activatedAt := sub.updatedAt

def syncRoundIncumbentFromSubmissionStore (m : EpochManager) :
    Outcome EpochManager CertifyError ChampionSnapshot :=
  match m.subs.getChampion with
  | none => .returns m m.rounds.activeChampion
  | some adopted =>
    let snapshot := submissionToChampionSnapshot adopted
    if snapshot = m.rounds.activeChampion then .returns m snapshot
    else (roundCall env m (.setActiveChampion snapshot true)).andThen fun m _ => .returns m snapshot

/-- `_get_current_solver_round`: the first open round is created lazily. -/
def getCurrentSolverRound (m : EpochManager) (epochHint : Int) :
    Outcome EpochManager CertifyError RoundState :=
  (syncRoundIncumbentFromSubmissionStore env m).andThen fun m incumbent =>
  match m.rounds.getCurrentRound with
  | some current => .returns m current
  | none =>
    (roundCall env m (.ensureOpenRound epochHint (some incumbent))).andThen fun m _ =>
    -- the round that was just opened
    match m.rounds.getCurrentRound with
    | some current => .returns m current
    | none => .raises m (.raised .attributeError)

def closeSolverRoundState (m : EpochManager) (body : CloseRoundRequest) :
    Outcome EpochManager CertifyError Unit :=
  (getCurrentSolverRound env m body.closeEpoch).andThen fun m current =>
  let requested := body.roundId.getD ""
  if requested ≠ "" ∧ requested ≠ current.roundId then
    .raises m (.http 409 (s!"Requested round {requested} does not match current round "
      ++ s!"{current.roundId}"))
  else if current.status ≠ .open then
    .raises m (.http 409 s!"Round {current.roundId} is {current.status.value}, not open")
  else roundCall env m (.closeCurrentRound { body.updates with
    committeeHash := body.committeeHash <|> some (committeeHash host node consensus)
    quorumRequired := body.updates.quorumRequired <|> some (node.quorumRequired host consensus) })

def syncCloseSolverRoundState (m : EpochManager) (body : CloseRoundRequest) :
    Outcome EpochManager CertifyError Unit :=
  let roundId := body.roundId.getD ""
  -- a round that is no longer open is left alone
  if (m.rounds.getRound roundId).any (·.status ≠ .open) then .returns m ()
  else
    let m := { m with subs := body.submissions.foldl SubmissionStore.put m.subs }
    match adoptLeaderRoundIfBehind m.rounds roundId .closed body.updates with
    | .error e => .raises m (.raised e)
    | .ok s =>
      if (m.rounds.getRound roundId).isNone ∧ (s.getRound roundId).isSome then
        .returns { m with rounds := env.persistence.evict s } ()
      else closeSolverRoundState host node consensus env m body

end

section

variable (host : Host) (node : ChampionNode) (consensus : ChampionState) (env : Epoch.Surroundings)

def certifiedView (sub : SubmissionRecord) : Submission where
  submissionId := sub.submissionId
  repoUrl := sub.repoUrl
  commitHash := sub.commitHash
  hotkey := sub.hotkey
  imageId := sub.imageId
  imageDigest := sub.imageDigest

/-- The node's own manager and submissions; `evaluate_round` returns at once on a node
    that does not lead. -/
def followerContext (m : EpochManager) (clock : Surroundings) : Surroundings :=
  { clock with
    manager := some (node, consensus)
    submissions := m.subs.submissions.image certifiedView
    evaluateRound := some fun s _ _ => ⟨s, .ok ()⟩ }

/-- `_sync_certified_round_state`, up to `propose` if the request brings no approvals. -/
def syncCertifiedRoundState (m : EpochManager) (clock : Surroundings) (body : CertifyRoundRequest) :
    Outcome EpochManager CertifyError Unit :=
  let context := followerContext node consensus m clock
  if (m.rounds.getRound body.roundId).any fun r => r.status = .certified ∨ r.status = .activated then
    .returns m ()
  else
    match prepare context m.rounds body with
    | .error e => .raises m e
    | .ok (prepared, round) =>
      let waiting := { m with rounds := env.persistence.evict prepared }
      if body.approvals.isEmpty then .returns waiting ()
      else
        match certifyPrepared host context prepared round body with
        | .error e => .raises waiting e
        | .ok (s, _) => .returns { m with rounds := env.persistence.evict s } ()

/-- A `propose` call has returned; the certify request that waits in it, if any, stores
    the certificate. -/
def storeProposedCertificate (m : EpochManager) (output : ChampionOutput) (waiting : Option String) :
    EpochManager :=
  match output.returned?, waiting with
  | some (_, result), some roundId =>
    match if result.reached then result.certificate else none with
    | some certificate => (m.roundOp env (.certifyRound roundId certificate)).state
    | none => m
  | _, _ => m

def prepareForProposal (m : EpochManager) (clock : Surroundings)
    (body : ChampionConsensusProposalRequest) : Outcome EpochManager CertifyError Unit :=
  match maybePrepareRoundForCertification (followerContext node consensus m clock) m.rounds
      body.roundId body.updates (some body.candidateSubmissionId) with
  | .error e => .raises m e
  | .ok (prepared, _) => .returns { m with rounds := env.persistence.evict prepared } ()

end

section

variable (env : Epoch.Surroundings)

/-- `_sync_abort_solver_round_state`; an aborted round only takes a new reason. -/
def syncAbortSolverRoundState (m : EpochManager) (body : AbortRoundRequest) :
    Outcome EpochManager CertifyError Unit :=
  match m.rounds.getRound body.roundId with
  | none => .raises m (.http 404 "Solver round not found")
  | some round =>
    match round.status with
    | .aborted =>
      if body.reason ≠ "" ∧ round.abortReason ≠ some body.reason then
        roundCall env m (.abortRound body.roundId body.reason)
      else .returns m ()
    | .activated =>
      .raises m (.http 409 s!"Round {body.roundId} is activated and cannot be aborted")
    | .certified =>
      .raises m (.http 409 s!"Round {body.roundId} is certified and cannot be aborted")
    | _ => roundCall env m (.abortRound body.roundId body.reason)

def activateSolverRoundState (m : EpochManager) (body : ActivateRoundRequest) :
    Outcome EpochManager CertifyError Unit :=
  if (m.rounds.getRound body.roundId).any (·.status = .activated) then .returns m ()
  else ((m.activateCertifiedRound env body.roundId body.activationEpoch body.championChanged).mapError
    .raised).andThen fun m _ => .returns m ()

end

/-- A follower: its epoch manager with the two stores, its consensus manager, and the
    candidates it has marked self-verified, by round. -/
structure FollowerNode where
  manager : EpochManager := {}
  consensus : ChampionState := { docket := .empty }
  verified : List (String × String) := []

inductive FollowerEvent where
  | close (env : Epoch.Surroundings) (body : CloseRoundRequest)
  | certify (env : Epoch.Surroundings) (clock : Surroundings) (body : CertifyRoundRequest)
  | abort (env : Epoch.Surroundings) (body : AbortRoundRequest)
  | activate (env : Epoch.Surroundings) (body : ActivateRoundRequest)
  /-- The consensus manager runs; the certify request for `waiting` waits for it. -/
  | consensus (env : Epoch.Surroundings) (event : ChampionEvent) (waiting : Option String)
  | proposal (env : Epoch.Surroundings) (clock : Surroundings) (body : ChampionConsensusProposalRequest)
  /-- The node's own benchmark agreed with the candidate of a proposal. -/
  | selfVerified (env : Epoch.Surroundings) (roundId submissionId : String)
  | submission (sub : SubmissionRecord)

namespace FollowerNode

def after (n : FollowerNode) (call : Outcome EpochManager CertifyError Unit) :
    FollowerNode × Except CertifyError Unit :=
  ({ n with manager := call.state }, call.result)

def step (host : Host) (node : ChampionNode) (n : FollowerNode) :
    FollowerEvent → FollowerNode × Except CertifyError Unit
  | .close env body =>
    n.after (syncCloseSolverRoundState host node n.consensus env n.manager body)
  | .certify env clock body =>
    n.after (syncCertifiedRoundState host node n.consensus env n.manager clock body)
  | .abort env body => n.after (syncAbortSolverRoundState env n.manager body)
  | .activate env body => n.after (activateSolverRoundState env n.manager body)
  | .consensus env event waiting =>
    let stepped := node.step host n.consensus event
    ({ n with
      manager := storeProposedCertificate env n.manager stepped.2 waiting
      consensus := stepped.1 }, .ok ())
  | .proposal env clock body => n.after (prepareForProposal node n.consensus env n.manager clock body)
  | .selfVerified env roundId submissionId =>
    let marked := roundCall env n.manager (.markSelfVerified roundId (some submissionId))
    match marked.result with
    | .ok _ =>
      ({ n with manager := marked.state, verified := (roundId, submissionId) :: n.verified }, .ok ())
    | .error e => (n, .error e)
  | .submission sub =>
    ({ n with manager := { n.manager with subs := n.manager.subs.put sub } }, .ok ())

end FollowerNode

end MinotaurSubnet.Api
