import MinotaurSubnet.Api.FollowerRounds
import MinotaurSubnet.Epoch.ActivationTurns
import MinotaurSubnet.Epoch.EvaluateRound
import MinotaurSubnet.Harness.SettledRounds

/-! # The round calls of one node, turn by turn

The round messages, `evaluate_round`, `activate_certified_round` and the abort at the
deadline share one event loop. A close and an abort are over in one turn; an evaluation,
an activation, and a certification that evaluates its round or asks a quorum wait in
between. A message without `force` is the only kind modelled here, except that the
`force` of a certification also passes its checks.
-/

namespace MinotaurSubnet.Api

open Library Python Consensus Harness
open Epoch (EpochManager EvaluationStage EvaluationSteps EvaluationVerdict ActivationStage
  ActivationVerdict)

structure Moment where
  env : Epoch.Surroundings
  steps : EvaluationSteps
  clock : Surroundings
  evaluates : Bool := true
  isSolverRoundLeader : Bool := true
  /-- How `propose` of the consensus manager ended, where it was awaited. -/
  proposed : Except PyError ChampionConsensusResult := .error .valueError

inductive RoundRequest where
  | evaluate (roundId : String) (epoch : Int)
  | close (node : ChampionNode) (consensus : ChampionState) (body : CloseRoundRequest)
  | certify (body : CertifyRoundRequest)
  | abort (body : AbortRoundRequest)
  | activate (body : ActivateRoundRequest)
  /-- The coordinator checks the deadline of a round it has read. -/
  | deadline (current : RoundState)
  /-- Screening, the benchmark worker and the refresh of the incumbent write elsewhere. -/
  | elsewhere (subs : SubmissionStore) (champion : Epoch.ChampionInfo)

structure UnevaluatedRound where
  round : RoundState
  unevaluated : round.status = .closed ∨ round.status = .replaying

def UnevaluatedRound.epoch (r : UnevaluatedRound) : Int := r.round.closeEpoch.getD r.round.openedEpoch

inductive RoundStage where
  | evaluating (roundId : String) (epoch : Int) (stage : EvaluationStage)
  | preparing (body : CertifyRoundRequest) (found : UnevaluatedRound) (stage : EvaluationStage)
  | proposing (body : CertifyRoundRequest)
  | activating (stage : ActivationStage)

section

variable (host : Host) (env : Surroundings)

def askForCertificate (round : RoundState) (body : CertifyRoundRequest) :
    Except CertifyError (ChampionProposal ⊕ ChampionCertificate) := do
  let proposal ← admitCertify host env round body
  if body.approvals.isEmpty then
    admitPropose host env round body
    return .inl proposal
  else
    let certificate ← suppliedCertificate host env body proposal (quorumInForce host env round body)
    return .inr certificate

theorem certifyPrepared_eq (s : RoundStore) (round : RoundState) (body : CertifyRoundRequest) :
    certifyPrepared host env s round body = (askForCertificate host env round body >>= fun
      | .inr certificate => raising (s.certifyRound body.roundId certificate)
      | .inl proposal => do
          let after := env.propose s proposal
          let result ← raising after.result
          let certificate ← quorumCertificate body result
          raising (after.store.certifyRound body.roundId certificate)) := by
  unfold certifyPrepared askForCertificate proposedCertificate
  cases body.approvals.isEmpty with
  | true => simp
  | false => simp

end

section

variable (host : Host) (at_ : Moment)

def certifyContext (m : EpochManager) : Surroundings :=
  { at_.clock with submissions := m.subs.submissions.image certifiedView }

/-- The round of the request, adopted when the node is behind; a certify request brings no
    `close_epoch`. -/
def findRoundToCertify (m : EpochManager) (body : CertifyRoundRequest) :
    Outcome EpochManager CertifyError RoundState :=
  match adoptLeaderRoundIfBehind m.rounds body.roundId .closed
      { benchmarkAnchorEpoch := body.benchmarkAnchorEpoch.map Int.ofNat } with
  | .error e => .raises m (.raised e)
  | .ok s =>
    let m := if adoptsRound m.rounds body.roundId
      then { m with rounds := at_.env.persistence.evict s } else m
    match m.rounds.getRound body.roundId with
    | none => .raises m (.http 404 "Solver round not found")
    | some round => .returns m round

/-- `_certify_solver_round_state` after the preparation, up to `propose`; the refresh of the
    peers' mirror that is awaited before it reads and writes no round. -/
def certifyRoundState (m : EpochManager) (round : RoundState) (body : CertifyRoundRequest) :
    Turn EpochManager RoundStage CertifyError :=
  match askForCertificate host (certifyContext at_ m) round body with
  | .error e => .ends (.raises m e)
  | .ok (.inl _) => .waits m (.proposing body)
  | .ok (.inr certificate) => .ends (roundCall at_.env m (.certifyRound body.roundId certificate))

/-- The evaluation of a certification has ended; whatever it raised is swallowed. -/
def afterEvaluation (round : RoundState) (body : CertifyRoundRequest)
    (evaluated : Outcome EpochManager PyError Unit) : Turn EpochManager RoundStage CertifyError :=
  certifyRoundState host at_ evaluated.state
    (match evaluated.result with
      | .ok _ => (evaluated.state.rounds.getRound body.roundId).getD round
      | .error _ => round) body

def prepareAndCertify (m : EpochManager) (round : RoundState) (body : CertifyRoundRequest) :
    Turn EpochManager RoundStage CertifyError :=
  if unevaluated : round.status = .closed ∨ round.status = .replaying then
    match (strOr body.candidateSubmissionId none).bind m.subs.get with
    | some candidate =>
      match m.rounds.setRoundFinalist body.roundId candidate.submissionId candidate.imageId with
      | .error e => .ends (.raises m (.raised e))
      | .ok (s, round) =>
        certifyRoundState host at_ { m with rounds := at_.env.persistence.evict s } round body
    | none =>
      if at_.evaluates then
        let found : UnevaluatedRound := ⟨round, unevaluated⟩
        (m.evaluateRound at_.env at_.steps body.roundId found.epoch).within
          (.preparing body found) (afterEvaluation host at_ round body)
      else certifyRoundState host at_ m round body
  else certifyRoundState host at_ m round body

def isCertified (m : EpochManager) (roundId : String) : Bool :=
  (m.rounds.getRound roundId).any fun r => r.status = .certified ∨ r.status = .activated

/-- `_sync_certified_round_state`. -/
def certifyRoundMessage (m : EpochManager) (body : CertifyRoundRequest) :
    Turn EpochManager RoundStage CertifyError :=
  if isCertified m body.roundId then .ends (.returns m ())
  else
    let found := findRoundToCertify at_ m body
    match found.result with
    | .error e => .ends ⟨found.state, .error e⟩
    | .ok round => prepareAndCertify host at_ found.state round body

/-- The rest of a certification, after `propose`. -/
def certifyProposed (m : EpochManager) (body : CertifyRoundRequest) :
    Outcome EpochManager CertifyError Unit :=
  match raising at_.proposed >>= quorumCertificate body with
  | .error e => .raises m e
  | .ok certificate => roundCall at_.env m (.certifyRound body.roundId certificate)

end

/-- `_maybe_abort_expired_round`, which hands the round it has read to `_abort_solver_round_state`. -/
def maybeAbortExpiredRound (at_ : Moment) (m : EpochManager) (current : RoundState) :
    Outcome EpochManager CertifyError Unit :=
  if (current.status = .closed ∨ current.status = .replaying ∨ current.status = .certifying) ∧
      at_.isSolverRoundLeader ∧ current.decisionDeadlineEpoch.any (· < at_.clock.currentEpoch) then
    syncAbortSolverRoundState at_.env m
      { roundId := current.roundId, reason := "certification_deadline_elapsed" }
  else .returns m ()

def handled {Stage : Type} (place : Stage → RoundStage) (t : Turn EpochManager Stage PyError) :
    Turn EpochManager RoundStage CertifyError :=
  t.within place fun call => .ends (call.mapError .raised)

def startRoundRequest (host : Host) (at_ : Moment) (m : EpochManager) :
    RoundRequest → Turn EpochManager RoundStage CertifyError
  | .evaluate roundId epoch =>
    handled (.evaluating roundId epoch) (m.evaluateRound at_.env at_.steps roundId epoch)
  | .close node consensus body =>
    .ends (syncCloseSolverRoundState host node consensus at_.env m body)
  | .certify body => certifyRoundMessage host at_ m body
  | .abort body => .ends (syncAbortSolverRoundState at_.env m body)
  | .activate body =>
    if (m.rounds.getRound body.roundId).any (·.status = .activated) then .ends (.returns m ())
    else handled .activating
      (m.activateRound at_.env body.roundId body.activationEpoch body.championChanged)
  | .deadline current => .ends (maybeAbortExpiredRound at_ m current)
  | .elsewhere subs champion => .ends (.returns { m with subs, champion } ())

def resumeRoundStage (host : Host) (at_ : Moment) (m : EpochManager) :
    RoundStage → Turn EpochManager RoundStage CertifyError
  | .evaluating roundId epoch stage =>
    handled (.evaluating roundId epoch) (m.resumeEvaluation at_.env at_.steps roundId epoch stage)
  | .preparing body found stage =>
    (m.resumeEvaluation at_.env at_.steps body.roundId found.epoch stage).within
      (.preparing body found) (afterEvaluation host at_ found.round body)
  | .proposing body => .ends (certifyProposed at_ m body)
  | .activating stage => handled .activating (m.resumeActivation at_.env stage)

def roundCalls (host : Host) :
    Cooperative EpochManager (RoundRequest × Moment) RoundStage Moment CertifyError where
  start request m := startRoundRequest host request.2 m request.1
  resume stage at_ m := resumeRoundStage host at_ m stage

abbrev RoundSchedule := Schedule (RoundRequest × Moment) Moment

/-- A node in the middle of its calls, and the rounds it has ever seen settled. -/
structure RoundHistory where
  calls : Waiting EpochManager RoundStage
  settled : List String

namespace RoundHistory

def start (m : EpochManager) : RoundHistory := ⟨⟨m, []⟩, m.rounds.settledIds⟩

def step (host : Host) (h : RoundHistory) (e : RoundSchedule) : RoundHistory × Unit :=
  let calls := ((roundCalls host).step h.calls e).1
  (⟨calls, calls.shared.rounds.settledIds ++ h.settled⟩, ())

def status (h : RoundHistory) (roundId : String) : Option RoundStatus :=
  (h.calls.shared.rounds.getRound roundId).map (·.status)

end RoundHistory

end MinotaurSubnet.Api
