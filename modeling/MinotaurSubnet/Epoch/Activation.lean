import MinotaurSubnet.Harness.RoundLifecycle
import MinotaurSubnet.Harness.SubmissionStore
import MinotaurSubnet.Library.Outcome

/-! # Activating a champion

`activate_certified_round`, `on_epoch_boundary` and `_hot_swap` of `epoch/manager.py`.
The manager keeps its champion in memory, in the round store and in the submission
store. What a call asks of the outside (docker, the relayer, the environment
variables, the benchmark) is in its surroundings; the clock is read once. The runtime
handed to the block loop, the adoption bar, the notifications and the weights are
written for others and not read here.
-/

namespace MinotaurSubnet.Epoch

open Library Python Harness

structure ChampionInfo where
  submissionId : Option String := none
  solverName : Option String := none
  solverVersion : Option String := none
  epochAdopted : Int := 0
  imageTag : Option String := none
  hotkey : Option String := none
  adoptedAt : ℚ := 0
  deriving DecidableEq

structure EpochManager where
  champion : ChampionInfo := {}
  rounds : RoundStore := {}
  subs : SubmissionStore := .empty

/-- What the relayer callback answers. -/
structure MergeResult where
  ok : Bool
  reason : String := ""
  stage : String := ""
  mainSha : String := ""
  deriving DecidableEq

/-- What a call reads outside the manager. -/
structure Surroundings where
  persistence : RoundPersistence
  now : ℚ := 0
  /-- `DISABLE_CHAMPION_ADOPTION`, as the caller and as `_hot_swap` read it. -/
  frozenAtGate : Bool := false
  frozenAtSwap : Bool := false
  /-- The configured runtime builder; it may raise. -/
  runtimeBuilder : Option (SubmissionRecord → Int → Except PyError Unit) := none
  /-- Starting and initializing a session with the configured orchestrator. -/
  orchestrator : Option (String → Int → Except PyError Unit) := none
  /-- `_resolve_image_id_via_docker`. -/
  resolveImageId : String → Except PyError (Option String)
  lower : String → String
  /-- Whether the submission store gets the adoption written. -/
  persistAdoption : Except PyError Unit := .ok ()
  onChampionAdopted : Option (SubmissionRecord → String → Except PyError MergeResult) := none
  /-- The answer of the leader check, if one is wired. -/
  isLeader : Option Bool := none
  followerWeightAdopt : Bool := true
  followerTrustLeaderQuorum1 : Bool := true
  finalizeTransientDeferEpochs : Int := 10
  emitWeights : Bool := false
  describe : PyError → String

section

variable (env : Surroundings)

def EpochManager.roundOp (m : EpochManager) (op : RoundStore.Op) : Outcome EpochManager PyError Unit :=
  match m.rounds.run env.now op with
  | .error e => .raises m e
  | .ok none => .returns m ()
  | .ok (some s) => .returns { m with rounds := env.persistence.evict s } ()

/-- The runtime of a submission; `false` when the local image is not the certified one. -/
def prepareRuntime (submission : SubmissionRecord) (epoch : Int) : Except PyError Bool :=
  match env.runtimeBuilder with
  | some build => (build submission epoch).map fun _ => true
  | none =>
    match env.orchestrator, submission.imageTag.filter (· ≠ "") with
    | some start, some imageTag =>
      match submission.imageId.filter (· ≠ "") with
      | none => (start imageTag epoch).map fun _ => true
      | some imageId =>
        match env.resolveImageId imageTag with
        | .error e => .error e
        | .ok none => .ok false
        | .ok (some localId) =>
          if env.lower localId = env.lower imageId then
            (start imageTag epoch).map fun _ => true
          else .ok false
    | _, _ => .ok true

def championOf (submission : SubmissionRecord) (epoch : Int) (now : ℚ) : ChampionInfo where
  submissionId := some submission.submissionId
  solverName := submission.solverName
  solverVersion := submission.solverVersion
  epochAdopted := epoch
  imageTag := submission.imageTag
  hotkey := some submission.hotkey
  adoptedAt := now

def snapshotOf (submission : SubmissionRecord) (epoch : Int) (roundId : Option String)
    (canonicalMainSha : Option String) (now : ℚ) : ChampionSnapshot where
  submissionId := some submission.submissionId
  imageId := submission.imageId
  solverName := submission.solverName
  solverVersion := submission.solverVersion
  hotkey := some submission.hotkey
  activatedRoundId := roundId
  activatedEpoch := epoch
  activatedAt := now
  canonicalMainSha := canonicalMainSha

def EpochManager.capturePrevious (m : EpochManager) (submissionId : String) :
    Outcome EpochManager PyError Unit :=
  let outgoing := m.rounds.activeChampion
  if truthy outgoing.submissionId && outgoing.submissionId != some submissionId then
    m.roundOp env (.setPreviousChampion outgoing)
  else .returns m ()

def EpochManager.commitSwap (m : EpochManager) (submission : SubmissionRecord) (epoch : Int)
    (roundId canonicalMainSha : Option String) : Outcome EpochManager PyError Unit :=
  let (subs, known) := m.subs.adopt submission.submissionId env.now
  let m := { m with champion := championOf submission epoch env.now, subs }
  if known = false then .raises m .keyError
  else
    match env.persistAdoption with
    | .error e => .raises m e
    | .ok _ =>
      (m.roundOp env .setChampionAdoptionBar).andThen fun m _ =>
      (m.capturePrevious env submission.submissionId).andThen fun m _ =>
      m.roundOp env (.setActiveChampion
        (snapshotOf submission epoch roundId canonicalMainSha env.now) false)

/-- `_hot_swap`, without `force`. -/
def EpochManager.hotSwap (m : EpochManager) (submission : SubmissionRecord) (epoch : Int)
    (roundId canonicalMainSha : Option String) : Outcome EpochManager PyError Unit :=
  if env.frozenAtSwap then .returns m ()
  else
    match prepareRuntime env submission epoch with
    | .error e => .raises m e
    | .ok false => .returns m ()
    | .ok true => m.commitSwap env submission epoch roundId canonicalMainSha

/-- `_get_incumbent_snapshot`: the round store first, the others repair a cold boot. -/
def EpochManager.getIncumbentSnapshot (m : EpochManager) : Option ChampionSnapshot :=
  if truthy m.rounds.activeChampion.submissionId then some m.rounds.activeChampion
  else
    match m.subs.getChampion with
    | some adopted => some {
        submissionId := some adopted.submissionId
        imageId := adopted.imageId
        solverName := adopted.solverName
        solverVersion := adopted.solverVersion
        hotkey := some adopted.hotkey
        activatedRoundId := (some adopted.roundId).filter (· ≠ "")
        activatedEpoch := adopted.epoch
        activatedAt := adopted.updatedAt }
    | none =>
      if truthy m.champion.submissionId then some {
        submissionId := m.champion.submissionId
        solverName := m.champion.solverName
        solverVersion := m.champion.solverVersion
        hotkey := m.champion.hotkey
        activatedEpoch := m.champion.epochAdopted
        activatedAt := m.champion.adoptedAt }
      else none

def EpochManager.reopen (m : EpochManager) (epoch : Int) :
    Outcome EpochManager PyError (Option String) :=
  (m.roundOp env (.openNextRound epoch m.getIncumbentSnapshot)).andThen fun m _ =>
  .returns m m.rounds.currentRoundId

/-- `_complete_round`: the processed round ends with `closing`, and intake reopens. -/
def EpochManager.completeRound (m : EpochManager) (roundId : String) (epoch : Int)
    (closing : RoundStore.Op) : Outcome EpochManager PyError (Option String) :=
  (m.roundOp env closing).andThen fun m _ =>
  EpochManager.reopen env
    { m with subs := m.subs.reapOrphanedBenchmarking roundId env.now } epoch

def EpochManager.abortAndReopen (m : EpochManager) (roundId : String) (epoch : Int)
    (abortReason : String) : Outcome EpochManager PyError (Option String) :=
  m.completeRound env roundId epoch
    (.abortRound roundId (if abortReason = "" then "round_aborted" else abortReason))

end

structure ActivationResult where
  roundId : String
  epoch : Int
  effectiveEpoch : Int
  championChanged : Bool := false
  newChampion : Option ChampionInfo := none
  nextRoundId : Option String := none
  weightsEmitted : Bool := false
  abortReason : Option String := none
  deferReason : Option String := none
  deriving DecidableEq

section

variable (env : Surroundings)

/-- Not a definite leader: a check is wired, and the callback is not, or the check says no. -/
def Surroundings.isFollower : Bool := env.isLeader == some false

def Surroundings.isDefiniteLeader : Bool :=
  env.isLeader.isNone || (env.onChampionAdopted.isSome && !env.isFollower)

/-- The attest and merge of the leader; without a callback, or on a follower, it is not
    asked for. -/
def mergeOutcome (submission : SubmissionRecord) (roundId : String) : MergeResult :=
  match env.onChampionAdopted, env.isFollower with
  | some callback, false =>
    match callback submission roundId with
    | .ok answer => answer
    | .error _ => { ok := false, reason := "callback_exception", stage := "client" }
  | _, _ => { ok := true }

def defersMerge (merge : MergeResult) (round : RoundState) (certificate : Consensus.ChampionCertificate)
    (epoch : Int) : Bool :=
  let deadline := round.decisionDeadlineEpoch.getD 0
  let unknown := merge.stage = "client" ∧ (deadline = 0 ∨ epoch ≤ deadline)
  let anchor := if certificate.effectiveEpoch ≠ 0 then certificate.effectiveEpoch
    else round.effectiveEpoch.getD 0
  let transient := (merge.reason = "vr_read_failed" ∨ merge.reason = "publish_failed") ∧
    0 < anchor ∧ epoch ≤ anchor + env.finalizeTransientDeferEpochs
  decide (unknown ∨ transient)

def selfVerifiedFor (round : RoundState) (candidate : String) : Bool :=
  round.selfVerifiedSubmissionId == some candidate

def followerAdopts (round : RoundState) (certificate : Consensus.ChampionCertificate)
    (candidate : String) (submission : SubmissionRecord) (leaderChampionChanged : Option Bool) : Bool :=
  leaderChampionChanged != some false && env.followerWeightAdopt &&
    (selfVerifiedFor round candidate ||
      (decide (certificate.quorumRequired ≤ 1) && env.followerTrustLeaderQuorum1)) &&
    isRealMinerHotkey (some submission.hotkey)

/-- `_reset_self_adopted_champion_to_burn`. -/
def EpochManager.resetToBurn (m : EpochManager) : EpochManager :=
  let m := if isRealMinerHotkey m.rounds.activeChampion.hotkey
    then (m.roundOp env (.setActiveChampion {} false)).state else m
  let subs := match m.subs.getChampion with
    | some champ => if isRealMinerHotkey (some champ.hotkey)
        then m.subs.updateStatus champ.submissionId .scored env.now else m.subs
    | none => m.subs
  { m with champion := {}, subs }

def EpochManager.commitActivation (m : EpochManager) (result : ActivationResult)
    (submission : SubmissionRecord) (mainSha : String) :
    Outcome EpochManager PyError ActivationResult :=
  (m.hotSwap env submission result.effectiveEpoch (some result.roundId) (some mainSha)).andThen
    fun m _ =>
  (m.roundOp env (.activateRound result.roundId result.effectiveEpoch)).andThen fun m _ =>
  (m.reopen env result.effectiveEpoch).andThen fun m next =>
  .returns m { result with
    championChanged := true
    newChampion := some m.champion
    nextRoundId := next
    weightsEmitted := env.emitWeights }

def EpochManager.refuseActivation (m : EpochManager) (result : ActivationResult) (reason : String) :
    Outcome EpochManager PyError ActivationResult :=
  (m.abortAndReopen env result.roundId result.epoch reason).andThen fun m next =>
  .returns m { result with abortReason := some reason, nextRoundId := next }

/-- `activate_certified_round` once the candidate is known: merge gate, follower gate,
    commit. -/
def EpochManager.activateCandidate (m : EpochManager) (round : RoundState)
    (certificate : Consensus.ChampionCertificate) (result : ActivationResult) (candidate : String)
    (submission : SubmissionRecord) (leaderChampionChanged : Option Bool) :
    Outcome EpochManager PyError ActivationResult :=
  let merge := mergeOutcome env submission result.roundId
  if merge.ok = false then
    if defersMerge env merge round certificate result.epoch then
      .returns m { result with
        deferReason := some (if merge.reason = "" then "finalize_unconfirmed" else merge.reason) }
    else m.refuseActivation env result
      (if merge.reason = "" then "merge_failed" else "merge_failed:" ++ merge.reason)
  else if !env.isDefiniteLeader &&
      !followerAdopts env round certificate candidate submission leaderChampionChanged then
    (m.resetToBurn env).refuseActivation env result
      (if leaderChampionChanged = some false then "leader_merge_failed" else "follower_adopt_gated")
  else m.commitActivation env result submission merge.mainSha

def certifiedCandidate (round : RoundState) : Option (Consensus.ChampionCertificate × String) :=
  round.certificate.bind fun certificate =>
    (certificate.candidateSubmissionId.filter (· ≠ "")).map fun candidate => (certificate, candidate)

/-- The submission that `activate_certified_round` is to install. -/
def EpochManager.certifiedSubmission (m : EpochManager) (roundId : String) : Option SubmissionRecord :=
  (m.rounds.getRound roundId).bind fun round =>
    (certifiedCandidate round).bind fun certified => m.subs.get certified.2

/-- `certificate.effective_epoch or round_state.effective_epoch or epoch`. -/
def effectiveEpochOf (round : RoundState) (certificate : Consensus.ChampionCertificate) (epoch : Int) :
    Int :=
  if certificate.effectiveEpoch ≠ 0 then certificate.effectiveEpoch
  else if round.effectiveEpoch.getD 0 ≠ 0 then round.effectiveEpoch.getD 0 else epoch

def EpochManager.activateCertifiedRound (m : EpochManager) (roundId : String) (epoch : Int)
    (leaderChampionChanged : Option Bool) : Outcome EpochManager PyError ActivationResult :=
  match m.rounds.getRound roundId with
  | none => .raises m .keyError
  | some round =>
    if round.status ≠ .certified then .raises m .valueError
    else
      match certifiedCandidate round with
      | none => .raises m .valueError
      | some (certificate, candidate) =>
        let effectiveEpoch := effectiveEpochOf round certificate epoch
        let result : ActivationResult := { roundId, epoch, effectiveEpoch }
        if env.frozenAtGate then m.refuseActivation env result "adoption_frozen"
        else if epoch < effectiveEpoch then .returns m result
        else
          match m.subs.get candidate with
          | none => .raises m .keyError
          | some submission => m.activateCandidate env round certificate result candidate
              submission leaderChampionChanged

end

/-- The parts of `on_epoch_boundary` around the adoption. -/
structure BoundarySteps where
  /-- `run_once` of the benchmark worker, when the manager drives it. -/
  runOnce : Option (SubmissionStore → SubmissionStore × Except PyError Unit) := none
  findChampion : EpochManager → Int → String → Option SubmissionRecord
  /-- `_refresh_incumbent_score` may seed a genesis champion and stores its new rows. -/
  refreshIncumbent : EpochManager → ChampionInfo × SubmissionStore
  /-- The verdict of the adoption rule and its reason. -/
  meetsAdoptionCriteria : EpochManager → SubmissionRecord → Bool × String

def BoundarySteps.benchmark (steps : BoundarySteps) (subs : SubmissionStore) :
    SubmissionStore × Except PyError Unit :=
  match steps.runOnce with
  | some runOnce => runOnce subs
  | none => (subs, .ok ())

structure BoundaryResult where
  epoch : Int
  roundId : String
  championChanged : Bool := false
  newChampion : Option ChampionInfo := none
  error : Option PyError := none
  nextRoundId : Option String := none
  weightsEmitted : Bool := false
  deriving DecidableEq

section

variable (env : Surroundings) (steps : BoundarySteps)

def EpochManager.currentRound (m : EpochManager) : Outcome EpochManager PyError RoundState :=
  match m.rounds.getCurrentRound with
  | some current => .returns m current
  | none => .raises m .valueError

/-- `_prepare_round`: there is a current round, it is live, it is closed, it is replaying. -/
def EpochManager.prepareRound (m : EpochManager) (epoch : Int) :
    Outcome EpochManager PyError RoundState :=
  let opening : Outcome EpochManager PyError Unit := match m.rounds.getCurrentRound with
    | none => m.roundOp env (.ensureOpenRound epoch m.getIncumbentSnapshot)
    | some current =>
      if current.status = .activated ∨ current.status = .aborted then
        m.roundOp env (.openNextRound epoch m.getIncumbentSnapshot)
      else .returns m ()
  opening.andThen fun m _ =>
  m.currentRound.andThen fun m current =>
  (if current.status = .open then m.roundOp env (.closeCurrentRound { closeEpoch := some epoch })
    else .returns m ()).andThen fun m _ =>
  m.currentRound.andThen fun m current =>
  (if current.status = .closed then m.roundOp env (.setRoundStatus current.roundId .replaying)
    else .returns m ()).andThen fun m _ =>
  m.currentRound

def EpochManager.adoptAtBoundary (m : EpochManager) (result : BoundaryResult)
    (submission : SubmissionRecord) : Outcome EpochManager PyError BoundaryResult :=
  let failed (m : EpochManager) (result : BoundaryResult) (e : PyError) :=
    (m.abortAndReopen env result.roundId result.epoch ("activation_failed: " ++ env.describe e)).andThen
      fun m next => Outcome.returns m { result with
        error := some e, nextRoundId := next, weightsEmitted := env.emitWeights }
  let swapped := m.hotSwap env submission result.epoch (some result.roundId) none
  match swapped.result with
  | .error e => failed swapped.state result e
  | .ok _ =>
    let result := { result with
      championChanged := true, newChampion := some swapped.state.champion }
    let completed := swapped.state.completeRound env result.roundId result.epoch
      (.activateRound result.roundId result.epoch)
    match completed.result with
    | .ok next => .returns completed.state { result with
        nextRoundId := next, weightsEmitted := env.emitWeights }
    | .error e => failed completed.state result e

def EpochManager.refuseAtBoundary (m : EpochManager) (result : BoundaryResult) (reason : String) :
    Outcome EpochManager PyError BoundaryResult :=
  (m.abortAndReopen env result.roundId result.epoch reason).andThen fun m next =>
  .returns m { result with nextRoundId := next }

/-- What the boundary does with the prepared round: `inl` when it ends without a
    candidate to adopt, `inr` with the submission that is to be adopted. -/
def EpochManager.decideBoundary (m : EpochManager) (result : BoundaryResult) :
    Outcome EpochManager PyError (BoundaryResult ⊕ SubmissionRecord) :=
  let finish (x : Outcome EpochManager PyError BoundaryResult) :=
    x.andThen fun m result => Outcome.returns m (Sum.inl result)
  let (subs, ran) := steps.benchmark m.subs
  let m := { m with subs }
  match ran with
  | .error e => finish
      ((m.refuseAtBoundary env result ("benchmark_failed: " ++ env.describe e)).andThen fun m result =>
        .returns m { result with error := some e })
  | .ok _ =>
    match steps.findChampion m result.epoch result.roundId with
    | none => finish ((m.refuseAtBoundary env result "no_champion_candidate").andThen fun m result =>
      .returns m { result with weightsEmitted := env.emitWeights })
    | some submission =>
      let (champion, subs) := steps.refreshIncumbent m
      let m := { m with champion, subs }
      let (adopts, reason) := steps.meetsAdoptionCriteria m submission
      if env.frozenAtGate = false ∧ adopts then .returns m (Sum.inr submission)
      else finish
        ((m.refuseAtBoundary env result
            (if env.frozenAtGate then "adoption disabled (DISABLE_CHAMPION_ADOPTION)"
              else if reason = "" then "did not beat the champion" else reason)).andThen
          fun m result => .returns m { result with weightsEmitted := env.emitWeights })

def EpochManager.onEpochBoundary (m : EpochManager) (epoch : Int) :
    Outcome EpochManager PyError BoundaryResult :=
  (m.prepareRound env epoch).andThen fun m round =>
  let result : BoundaryResult := { epoch, roundId := round.roundId }
  (m.decideBoundary env steps result).andThen fun m decision =>
  match decision with
  | .inl result => .returns m result
  | .inr submission => m.adoptAtBoundary env result submission

end

end MinotaurSubnet.Epoch
