import MinotaurSubnet.Api.FollowerActivation
import MinotaurSubnet.Epoch.ActivationRecords
import MinotaurSubnet.Epoch.SettledTurns

/-! # Pulling the leader's champion

A follower that has another champion than its leader fetches the leader's forced chain,
`_reattest_chain_payloads`, and applies close, certify and activate by the handlers of
the round messages. These return early on a round they consider done, and the activation
goes through the follower gate, so a pull converges where neither stands in the way. It is
modelled without other calls in between, and with a chain that brings approvals.
-/

namespace MinotaurSubnet.Api

open Library Python Consensus Harness
open Epoch (EpochManager)
open Epoch.EpochManager (OpSteps)

/-- A `ge=0` field of a request model. -/
def parseNonnegative : Option Int → Except PyError (Option Nat)
  | none => .ok none
  | some (.ofNat n) => .ok (some n)
  | some (.negSucc _) => .error .valueError

def parseRequired (value : Option Int) : Except PyError Nat := do
  match ← parseNonnegative value with
  | some n => return n
  | none => .error .valueError

/-- `_close_round_sync_payload`, as the request model reads it. -/
def closeRoundSyncPayload (state : RoundState) (submissions : List SubmissionRecord) :
    Except PyError CloseRoundRequest := do
  let closeEpoch ← parseRequired state.closeEpoch
  let committeeBlock ← parseNonnegative state.committeeBlock
  let quorumRequired ← parseNonnegative state.quorumRequired
  let decisionDeadlineEpoch ← parseNonnegative state.decisionDeadlineEpoch
  let effectiveEpoch ← parseNonnegative state.effectiveEpoch
  let benchmarkAnchorEpoch ← parseNonnegative state.benchmarkAnchorEpoch
  ensure (submissions.length ≤ 1024) .valueError
  return {
    roundId := some state.roundId
    closeEpoch
    benchmarkPackHash := state.benchmarkPackHash
    committeeBlock
    committeeHash := state.committeeHash
    quorumRequired
    decisionDeadlineEpoch
    effectiveEpoch
    benchmarkAnchorEpoch
    submissions }

/-- `to_dict` of an approval, as the request model reads it. -/
def approvalPayload (a : ChampionApproval) : ChampionApprovalPayload where
  validatorId := a.validatorId
  timestamp := a.timestamp
  signature := a.signature
  committeeHash := a.committeeHash
  incumbentImageId := a.incumbentImageId
  candidateSubmissionId := a.candidateSubmissionId
  candidateImageId := a.candidateImageId
  benchmarkPackHash := a.benchmarkPackHash
  shadowCaseLogHash := a.shadowCaseLogHash
  effectiveEpoch := some a.effectiveEpoch
  commitHash := a.commitHash
  nonce := a.nonce
  deadline := a.deadline

/-- `_certify_round_sync_payload` under `force`. -/
def certifyRoundSyncPayload (state : RoundState) : Except PyError CertifyRoundRequest := do
  let certApprovals := (state.certificate.map (·.approvals)).getD []
  let lead := certApprovals.head?
  let effectiveEpoch ← parseRequired (some (state.effectiveEpoch.getD 0))
  let benchmarkAnchorEpoch ← parseNonnegative state.benchmarkAnchorEpoch
  let quorumRequired ← parseRequired (some (state.quorumRequired.getD 0))
  return {
    roundId := state.roundId
    candidateSubmissionId := state.finalistSubmissionId
    candidateImageId := state.finalistImageId
    committeeHash := state.committeeHash
    incumbentImageId := strOr (lead.bind (·.incumbentImageId)) state.incumbentImageId
    benchmarkPackHash := state.benchmarkPackHash
    shadowCaseLogHash := state.shadowCaseLogHash
    effectiveEpoch
    benchmarkAnchorEpoch
    quorumRequired
    commitHash := lead.bind (·.commitHash)
    nonce := (lead.map (·.nonce)).getD 0
    deadline := (lead.map (·.deadline)).getD 0
    approvals := certApprovals.map approvalPayload
    force := true }

/-- `effective_epoch or close_epoch`. -/
def activationEpochOf (state : RoundState) : Option Int :=
  if state.effectiveEpoch.getD 0 ≠ 0 then state.effectiveEpoch else state.closeEpoch

/-- The three payloads; each is parsed when its turn comes. -/
structure RoundChain where
  close : Except PyError CloseRoundRequest
  certify : Except PyError CertifyRoundRequest
  activate : Except PyError ActivateRoundRequest

def reattestChainPayloads (state : RoundState) (submissions : List SubmissionRecord) : RoundChain where
  close := closeRoundSyncPayload state submissions
  certify := certifyRoundSyncPayload state
  activate := do
    let activationEpoch ← parseRequired (activationEpochOf state)
    return { roundId := state.roundId, activationEpoch, championChanged := some true }

section

variable (host : Host) (node : ChampionNode) (consensus : ChampionState) (env : Epoch.Surroundings)
  (clock : Surroundings)

/-- `_adopt_leader_round_if_behind` under `force`: the staleness guards are skipped. -/
def forceAdoptLeaderRound (s : RoundStore) (roundId : String) (updates : RoundUpdates) :
    Except PyError RoundStore :=
  if roundId = "" ∨ (s.getRound roundId).isSome then .ok s
  else
    match parseRoundOpenedEpoch roundId with
    | .error e => .error e
    | .ok none => .ok s
    | .ok (some leaderEpoch) => .ok (s.adoptRound roundId leaderEpoch .closed updates)

/-- `_sync_close_solver_round_state` under `force`. -/
def forceCloseSolverRoundState (m : EpochManager) (body : CloseRoundRequest) :
    Outcome EpochManager CertifyError Unit :=
  let roundId := body.roundId.getD ""
  let mirrored := { m with subs := body.submissions.foldl SubmissionStore.put m.subs }
  if (m.rounds.getRound roundId).any (·.status ≠ .open) then
    -- only an aborted round is reopened for the certificate
    if (m.rounds.getRound roundId).any (·.status = .aborted) then
      roundCall env mirrored (.setRoundStatus roundId .closed)
    else .returns mirrored ()
  else
    match forceAdoptLeaderRound m.rounds roundId body.updates with
    | .error e => .raises mirrored (.raised e)
    | .ok s =>
      if (m.rounds.getRound roundId).isNone ∧ (s.getRound roundId).isSome then
        .returns { mirrored with rounds := env.persistence.evict s } ()
      else closeSolverRoundState host node consensus env mirrored body

def parsed {α : Type} (m : EpochManager) (request : Except PyError α) :
    Outcome EpochManager CertifyError α :=
  ⟨m, raising request⟩

def installRound (m : EpochManager) (chain : RoundChain) : Outcome EpochManager CertifyError Unit :=
  (parsed m chain.close).andThen fun m body =>
  (forceCloseSolverRoundState host node consensus env m body).andThen fun m _ =>
  (parsed m chain.certify).andThen fun m body =>
  syncCertifiedRoundState host node consensus env m clock body

def applyChain (m : EpochManager) (chain : RoundChain) : Outcome EpochManager CertifyError Unit :=
  (installRound host node consensus env clock m chain).andThen fun m _ =>
  (parsed m chain.activate).andThen fun m body => activateSolverRoundState env m body

structure LeaderApi where
  apiUrl : Option String
  /-- The `submission_id` and `activated_round_id` of `/v1/solver/champion`. -/
  champion : Except PyError (Option String × Option String)
  syncBundle : Except PyError RoundChain

def InSync (m : EpochManager) (leaderSub leaderRid : Option String) : Prop :=
  m.rounds.activeChampion.submissionId = leaderSub ∧
    m.rounds.activeChampion.activatedRoundId = leaderRid

instance (m : EpochManager) (leaderSub leaderRid : Option String) :
    Decidable (InSync m leaderSub leaderRid) :=
  inferInstanceAs (Decidable (_ ∧ _))

/-- `ChampionPullReconcile.reconcile_once`; its `is_follower` is the leader check of the
    activation. -/
def reconcileOnce (m : EpochManager) (leader : LeaderApi) : Outcome EpochManager CertifyError Bool :=
  if !env.isFollower then .returns m false
  else if (leader.apiUrl.getD "").toList.all (· = '/') then .returns m false
  else
    match leader.champion with
    | .error e => .raises m (.raised e)
    | .ok (leaderSub, leaderRid) =>
      if !truthy leaderSub || !truthy leaderRid then .returns m false
      else if InSync m leaderSub leaderRid then .returns m false
      else
        match leader.syncBundle with
        | .error e => .raises m (.raised e)
        | .ok chain =>
          (applyChain host node consensus env clock m chain).andThen fun m _ => .returns m true

end

structure StandingChampion where
  submissionId : String
  round : RoundState
  certificate : ChampionCertificate
  submissions : List SubmissionRecord
  named : submissionId ≠ ""
  roundNamed : round.roundId ≠ ""
  certified : round.certificate = some certificate
  candidate : certificate.candidateSubmissionId = some submissionId
  finalist : round.finalistSubmissionId = some submissionId
  quorum : 0 < certificate.quorumRequired
  approved : certificate.quorumRequired ≤ certificate.approvals.length

namespace StandingChampion

variable (c : StandingChampion)

def chain : RoundChain := reattestChainPayloads c.round c.submissions

def api (apiUrl : Option String) : LeaderApi where
  apiUrl
  champion := .ok (some c.submissionId, some c.round.roundId)
  syncBundle := .ok c.chain

structure StandsFor (r : RoundState) : Prop where
  status : r.status = .certified
  certificate : ∃ certificate, Epoch.certifiedCandidate r = some (certificate, c.submissionId) ∧
    ∀ epoch, activationEpochOf c.round = some epoch →
      Epoch.effectiveEpochOf r certificate epoch ≤ epoch

def Healable (m : EpochManager) : Prop :=
  ∀ r, m.rounds.getRound c.round.roundId = some r →
    r.status ≠ .activated ∧ (r.status = .certified → c.StandsFor r)

/-- What keeps the follower from the champion once the certificate is stored: adoption is
    frozen, its gate refuses the candidate, or the swap is given up. -/
def HeldBack (env : Epoch.Surroundings) (m : EpochManager) : Prop :=
  env.frozenAtGate = true ∨ ∃ round certificate submission,
    m.rounds.getRound c.round.roundId = some round ∧
    Epoch.certifiedCandidate round = some (certificate, c.submissionId) ∧
    m.subs.get c.submissionId = some submission ∧
    (Epoch.followerAdopts env round certificate c.submissionId submission (some true) = false ∨
      ¬ env.SwapUnblocked submission)

end StandingChampion

section

variable {host : Host} {node : ChampionNode} {consensus : ChampionState} {env : Epoch.Surroundings}
  {clock : Surroundings} {c : StandingChampion} {m : EpochManager}

def Pending (status : RoundStatus) : Prop := status ≠ .activated ∧ status ≠ .certified

theorem StandingChampion.healable_of_pending (within : m.rounds.StatusIn c.round.roundId Pending) :
    c.Healable m := by
  intro r found
  obtain ⟨unactivated, uncertified⟩ := within r found
  exact ⟨unactivated, fun certified => absurd certified uncertified⟩

def ClosingOp : RoundStore.Op → Prop
  | .setActiveChampion _ _ | .ensureOpenRound _ _ | .closeCurrentRound _ => True
  | _ => False

theorem run_pending {s s' : RoundStore} {roundId now op} (within : s.StatusIn roundId Pending)
    (closing : ClosingOp op) (ran : s.run now op = .ok (some s')) :
    s'.StatusIn roundId Pending := by
  have opened : Pending .open := by simp [Pending]
  have closed : Pending .closed := by simp [Pending]
  cases op with
  | setActiveChampion champion syncOpenRound =>
    apply RoundStore.run_statusIn within _ _ ran
    · trivial
    · intro r st _ written
      cases written
  | ensureOpenRound epoch incumbent =>
    simp only [RoundStore.run, Except.ok.injEq, RoundStore.ensureOpenRound] at ran
    split at ran
    · cases incumbent with
      | none => cases ran
      | some champion =>
        cases ran
        exact RoundStore.modifyCurrent_statusIn within fun _ => rfl
    · cases ran
      apply within.set rfl
      intro _
      cases incumbent <;> exact opened
  | closeCurrentRound updates =>
    simp only [RoundStore.run, RoundStore.closeCurrentRound] at ran
    split at ran
    · cases ran
    · cases ran
      exact within.set rfl fun _ => closed
  | _ => exact closing.elim

theorem closeSolverRoundState_pending (within : m.rounds.StatusIn c.round.roundId Pending)
    (body : CloseRoundRequest) :
    (closeSolverRoundState host node consensus env m body).state.rounds.StatusIn c.round.roundId
      Pending := by
  have steps : OpSteps env ClosingOp m (closeSolverRoundState host node consensus env m body).state :=
    closeSolverRoundState_steps (fun _ => trivial) (fun _ _ => trivial) m fun _ _ => trivial
  apply steps.invariant (fun s => s.StatusIn c.round.roundId Pending) within
  intro s s' op closing ran within
  exact (run_pending within closing ran).evict _

theorem adoptRound_status {s : RoundStore} {roundId epoch status updates} {r : RoundState}
    (found : (s.adoptRound roundId epoch status updates).getRound roundId = some r) :
    r.status = status := by
  simp only [RoundStore.getRound, RoundStore.adoptRound, Dict.get?_set_self, Option.some.injEq] at found
  subst found
  split <;> rfl

theorem forceAdoptLeaderRound_pending {s s' : RoundStore} {roundId updates}
    (unknown : s.getRound roundId = none) (ran : forceAdoptLeaderRound s roundId updates = .ok s') :
    s'.StatusIn roundId Pending := by
  have absent : s.StatusIn roundId Pending := by
    intro r found
    rw [RoundStore.getRound] at unknown
    rw [unknown] at found
    cases found
  unfold forceAdoptLeaderRound at ran
  split at ran
  · cases ran
    exact absent
  · split at ran
    · cases ran
    · cases ran
      exact absent
    · cases ran
      intro r found
      rw [adoptRound_status found]
      simp [Pending]

theorem forceClose_healable {body} (named : body.roundId = some c.round.roundId)
    (healable : c.Healable m) :
    c.Healable (forceCloseSolverRoundState host node consensus env m body).state := by
  unfold forceCloseSolverRoundState
  simp only [named, Option.getD_some]
  split
  · split
    · next ended aborted =>
      obtain ⟨r, found, status⟩ := (Option.any_eq_true _ _).mp aborted
      apply StandingChampion.healable_of_pending
      rw [roundCall_state]
      apply EpochManager.writeStatus_statusIn
      · intro r' found'
        cases found.symm.trans found'
        simp_all [Pending]
      · trivial
      · exact rfl
      · intro _ _ _
        simp [Pending]
    · exact healable
  · next live =>
    split
    · exact healable
    · next s adopts =>
      split
      · next fresh =>
        apply StandingChampion.healable_of_pending
        exact (forceAdoptLeaderRound_pending (Option.isNone_iff_eq_none.mp fresh.1) adopts).evict _
      · apply StandingChampion.healable_of_pending
        apply closeSolverRoundState_pending
        intro r found
        have status : r.status = .open := by
          simpa [RoundStore.getRound, show m.rounds.rounds.get? c.round.roundId = some r from found]
            using live
        simp [status, Pending]

theorem proposal_of_request {context round body submissionId p quorum}
    (asked : body.candidateSubmissionId = some submissionId) (named : submissionId ≠ "")
    (built : buildChampionProposalForRound host context round body = .ok (p, quorum)) :
    p.candidateSubmissionId = submissionId ∧ p.effectiveEpoch = body.effectiveEpoch := by
  obtain ⟨chosen, choice, built⟩ := bind_eq_ok.mp built
  iterate 5 obtain ⟨_, built⟩ := bind_ok built
  obtain ⟨rfl, -⟩ := Prod.mk.inj (pure_eq_ok.mp built)
  refine ⟨?_, rfl⟩
  simpa [asked, strOr, named, orRefuse, eq_comm] using choice

namespace StandingChampion

theorem certifyPayload_spec {body} (parses : certifyRoundSyncPayload c.round = .ok body) :
    body.roundId = c.round.roundId ∧ body.candidateSubmissionId = some c.submissionId ∧
      body.approvals.isEmpty = false ∧ (body.effectiveEpoch : Int) = c.round.effectiveEpoch.getD 0 := by
  obtain ⟨effectiveEpoch, read, parses⟩ := bind_eq_ok.mp parses
  obtain ⟨_, parses⟩ := bind_ok parses
  obtain ⟨_, parses⟩ := bind_ok parses
  obtain rfl := pure_eq_ok.mp parses
  refine ⟨rfl, c.finalist, ?_, ?_⟩
  · have filled : 0 < c.certificate.approvals.length := by
      have quorum := c.quorum
      have approved := c.approved
      omega
    simpa [c.certified, List.length_pos_iff] using filled
  · cases stated : c.round.effectiveEpoch.getD 0 with
    | ofNat n =>
      rw [stated] at read
      cases read
      rfl
    | negSucc n =>
      rw [stated] at read
      cases read

theorem effectiveEpoch_le {r certificate}
    (copied : certificate.effectiveEpoch = c.round.effectiveEpoch.getD 0)
    (kept : r.effectiveEpoch = some certificate.effectiveEpoch) {epoch}
    (told : activationEpochOf c.round = some epoch) :
    Epoch.effectiveEpochOf r certificate epoch ≤ epoch := by
  unfold Epoch.effectiveEpochOf
  split
  · next stated =>
    unfold activationEpochOf at told
    rw [if_pos (copied ▸ stated)] at told
    simp [copied, told]
  · next unstated =>
    have zero : certificate.effectiveEpoch = 0 := not_not.mp unstated
    simp [kept, zero]

theorem standsFor_of_certify {body : CertifyRoundRequest}
    (parses : certifyRoundSyncPayload c.round = .ok body) (healable : c.Healable m)
    (ended : (syncCertifiedRoundState host node consensus env m clock body).result = .ok ())
    {r : RoundState} (found : (syncCertifiedRoundState host node consensus env m clock
      body).state.rounds.getRound c.round.roundId = some r) : c.StandsFor r := by
  obtain ⟨sameRound, asked, supplied, copied⟩ := certifyPayload_spec parses
  unfold syncCertifiedRoundState at ended found
  rw [sameRound] at ended found
  dsimp only at ended found
  split at found
  · next done =>
    obtain ⟨unactivated, stands⟩ := healable r found
    rw [Outcome.state_returns] at found
    rw [found] at done
    apply stands
    simpa [unactivated] using done
  · next fresh =>
    rw [if_neg fresh] at ended
    split at ended
    · cases ended
    · next prepared round ready =>
      rw [ready] at found
      simp only [supplied, Bool.false_eq_true, if_false] at ended found
      split at ended
      · cases ended
      · next s state certifies =>
        rw [certifies] at found
        obtain ⟨p, quorum, built, _, stored⟩ := certifyPrepared_supplied supplied certifies
        obtain ⟨candidate, effective⟩ := proposal_of_request asked c.named built
        have kept : s.getRound body.roundId = some r := sameRound ▸ RoundPersistence.evict_some found
        obtain ⟨certified, stands⟩ := RoundStore.certifyRound_spec stored
        obtain rfl := Option.some.inj (stands.symm.trans kept)
        have written : state.status = .certified ∧ state.effectiveEpoch = some p.effectiveEpoch := by
          unfold RoundStore.certifyRound at stored
          split at stored
          · cases stored
          · obtain ⟨-, rfl⟩ := Prod.mk.inj (Except.ok.inj stored)
            exact ⟨rfl, rfl⟩
        refine ⟨written.1, certificateOf p
          (quorumInForce host (followerContext node consensus m clock) round body)
          (body.approvals.map (buildChampionApprovalFromPayload p)), ?_, ?_⟩
        · simp [Epoch.certifiedCandidate, certified, certificateOf, candidate, c.named]
        · intro epoch told
          exact effectiveEpoch_le (effective.trans copied) written.2 told

theorem standsFor_of_install (healable : c.Healable m)
    (ended : (installRound host node consensus env clock m c.chain).result = .ok ()) {r : RoundState}
    (found : (installRound host node consensus env clock m c.chain).state.rounds.getRound
      c.round.roundId = some r) : c.StandsFor r := by
  unfold installRound at ended found
  obtain ⟨close, closes, call, ended⟩ := Outcome.andThen_eq_ok ended
  rw [call] at found
  obtain ⟨_, _, call, ended⟩ := Outcome.andThen_eq_ok ended
  rw [call] at found
  obtain ⟨certify, parses, call, ended⟩ := Outcome.andThen_eq_ok ended
  rw [call] at found
  have named : close.roundId = some c.round.roundId := by
    have built : closeRoundSyncPayload c.round c.submissions = .ok close := raising_eq_ok.mp closes
    iterate 7 obtain ⟨_, built⟩ := bind_ok built
    obtain rfl := pure_eq_ok.mp built
    rfl
  exact standsFor_of_certify (raising_eq_ok.mp parses) (forceClose_healable named healable) ended found

/-- A commit that ends well and whose swap is not blocked installs the submission for the
    round. -/
theorem inSync_of_commit {result submission mainSha} (unblocked : env.SwapUnblocked submission)
    (named : submission.submissionId ≠ "") {done}
    (ended : (m.commitActivation env result submission mainSha).result = .ok done) :
    InSync (m.commitActivation env result submission mainSha).state (some submission.submissionId)
      (some result.roundId) := by
  unfold EpochManager.commitActivation at ended ⊢
  obtain ⟨_, swaps, call, ended⟩ := Outcome.andThen_eq_ok ended
  rw [call]
  have swapped := EpochManager.activeChampion_hotSwap unblocked swaps
  generalize m.hotSwap env submission result.effectiveEpoch (some result.roundId) (some mainSha) = swap
    at swapped ended ⊢
  obtain ⟨_, marks, call, ended⟩ := Outcome.andThen_eq_ok ended
  rw [call]
  obtain ⟨marked, -, -⟩ := EpochManager.roundOp_ends (fun _ => rfl) (by simp) marks
  generalize swap.state.roundOp env (.activateRound result.roundId result.effectiveEpoch) = mark
    at marked ended ⊢
  obtain ⟨next, reopens, call, ended⟩ := Outcome.andThen_eq_ok ended
  rw [call]
  rw [swapped] at marked
  have standing : truthy mark.state.rounds.activeChampion.submissionId = true := by
    rw [marked]
    simpa [Epoch.snapshotOf, truthy] using named
  cases live : mark.state.rounds.currentIsOpen with
  | true =>
    rw [EpochManager.reopen_of_open env _ live] at reopens
    cases reopens
  | false =>
    obtain ⟨_, reopened⟩ := EpochManager.reopen_of_idle env result.effectiveEpoch live
    have active : (mark.state.reopen env result.effectiveEpoch).state.rounds.activeChampion =
        mark.state.rounds.activeChampion := by
      rw [reopened]
      refine (RoundStore.activeChampion_evict _ _).trans ?_
      simp [RoundStore.openRound, EpochManager.getIncumbentSnapshot, standing]
    constructor
    · exact congrArg ChampionSnapshot.submissionId (active.trans marked)
    · exact congrArg ChampionSnapshot.activatedRoundId (active.trans marked)

theorem mergeOutcome_of_follower (follower : env.isFollower = true) (submission : SubmissionRecord)
    (roundId : String) : Epoch.mergeOutcome env submission roundId = { ok := true } := by
  unfold Epoch.mergeOutcome
  rw [follower]
  cases env.onChampionAdopted <;> rfl

theorem inSync_of_activate (follower : env.isFollower = true) {epoch}
    (told : activationEpochOf c.round = some epoch)
    (stands : ∀ r, m.rounds.getRound c.round.roundId = some r → c.StandsFor r) {done}
    (ended : (m.activateCertifiedRound env c.round.roundId epoch (some true)).result = .ok done) :
    c.HeldBack env m ∨
      InSync (m.activateCertifiedRound env c.round.roundId epoch (some true)).state
        (some c.submissionId) (some c.round.roundId) := by
  unfold EpochManager.activateCertifiedRound at ended ⊢
  cases known : m.rounds.getRound c.round.roundId with
  | none =>
    rw [known] at ended
    cases ended
  | some round =>
    obtain ⟨status, certificate, certified, due⟩ := stands round known
    simp only [known, status, certified, ne_eq, not_true_eq_false, if_false] at ended ⊢
    by_cases frozen : env.frozenAtGate = true
    · exact .inl (.inl frozen)
    rw [if_neg frozen, if_neg (not_lt.mpr (due epoch told))] at ended ⊢
    cases found : m.subs.get c.submissionId with
    | none =>
      rw [found] at ended
      cases ended
    | some submission =>
      have own : submission.submissionId = c.submissionId := m.subs.keyed _ _ found
      have indefinite : env.isDefiniteLeader = false := by
        have told : env.isLeader = some false := by
          simpa [Epoch.Surroundings.isFollower] using follower
        simp [Epoch.Surroundings.isDefiniteLeader, told, follower]
      by_cases adopts : Epoch.followerAdopts env round certificate c.submissionId submission
          (some true) = true
      · by_cases unblocked : env.SwapUnblocked submission
        · right
          simp only [found, EpochManager.activateCandidate, mergeOutcome_of_follower follower,
            Bool.true_eq_false, if_false, indefinite, adopts, Bool.not_true, Bool.and_false,
            Bool.false_eq_true] at ended ⊢
          have installed := inSync_of_commit unblocked (own ▸ c.named) ended
          rw [own] at installed
          exact installed
        · exact .inl (.inr ⟨round, certificate, submission, known, certified, found, .inr unblocked⟩)
      · left
        right
        exact ⟨round, certificate, submission, known, certified, found,
          .inl (Bool.eq_false_iff.mpr adopts)⟩

theorem inSync_of_activateMessage (follower : env.isFollower = true) {body}
    (activates : c.chain.activate = .ok body)
    (stands : ∀ r, m.rounds.getRound c.round.roundId = some r → c.StandsFor r)
    (ended : (activateSolverRoundState env m body).result = .ok ()) :
    c.HeldBack env m ∨
      InSync (activateSolverRoundState env m body).state (some c.submissionId) (some c.round.roundId) := by
  obtain ⟨epoch, read, built⟩ := bind_eq_ok.mp activates
  obtain rfl := pure_eq_ok.mp built
  have told : activationEpochOf c.round = some (epoch : Int) := by
    obtain ⟨parsed, parses, required⟩ := bind_eq_ok.mp read
    cases stated : activationEpochOf c.round with
    | none =>
      rw [stated] at parses
      cases parses
      cases required
    | some value =>
      rw [stated] at parses
      cases value with
      | ofNat n =>
        cases parses
        obtain rfl := pure_eq_ok.mp required
        rfl
      | negSucc n => cases parses
  have unfinished : ¬ (m.rounds.getRound c.round.roundId).any (·.status = .activated) = true := by
    intro finished
    obtain ⟨r, found, activated⟩ := (Option.any_eq_true _ _).mp finished
    simp [(stands r found).status] at activated
  unfold activateSolverRoundState at ended ⊢
  rw [if_neg unfinished] at ended ⊢
  rw [Outcome.state_andThen_returns]
  obtain ⟨done, activated, -, -⟩ := Outcome.andThen_eq_ok ended
  exact inSync_of_activate follower told stands (Outcome.mapError_eq_ok.mp activated)

end StandingChampion

theorem reconcileOnce_of_inSync {leader leaderSub leaderRid}
    (answer : leader.champion = .ok (leaderSub, leaderRid))
    (inSync : InSync m leaderSub leaderRid) :
    reconcileOnce host node consensus env clock m leader = .returns m false := by
  unfold reconcileOnce
  split
  · rfl
  · split
    · rfl
    · simp only [answer, inSync, if_true]
      split <;> rfl

theorem reconcileOnce_healed {apiUrl}
    (healed : (reconcileOnce host node consensus env clock m (c.api apiUrl)).result = .ok true) :
    env.isFollower = true ∧ (applyChain host node consensus env clock m c.chain).result = .ok () ∧
      (reconcileOnce host node consensus env clock m (c.api apiUrl)).state =
        (applyChain host node consensus env clock m c.chain).state := by
  unfold reconcileOnce at healed ⊢
  split at healed
  · cases healed
  · next follower =>
    split at healed
    · cases healed
    · next addressed =>
      rw [if_neg follower, if_neg addressed]
      simp only [StandingChampion.api] at healed ⊢
      split at healed
      · cases healed
      · next standing =>
        rw [if_neg standing]
        split at healed
        · cases healed
        · next diverged =>
          rw [if_neg diverged, Outcome.state_andThen_returns]
          obtain ⟨_, applied, -, -⟩ := Outcome.andThen_eq_ok healed
          exact ⟨by simpa using follower, applied, rfl⟩

theorem StandingChampion.inSync_of_applyChain (follower : env.isFollower = true) (healable : c.Healable m)
    (applied : (applyChain host node consensus env clock m c.chain).result = .ok ()) :
    c.HeldBack env (installRound host node consensus env clock m c.chain).state ∨
      InSync (applyChain host node consensus env clock m c.chain).state (some c.submissionId)
        (some c.round.roundId) := by
  unfold applyChain at applied ⊢
  obtain ⟨_, installs, call, applied⟩ := Outcome.andThen_eq_ok applied
  rw [call]
  obtain ⟨body, activates, call, applied⟩ := Outcome.andThen_eq_ok applied
  rw [call]
  apply inSync_of_activateMessage follower (raising_eq_ok.mp activates) _ applied
  exact fun r found => standsFor_of_install healable installs found

end

/-- A pull that reports a heal, from a state that the handlers do not consider done, is
    held back by the follower's own gates or ends in sync, and then the next one does
    nothing. -/
theorem reconcile_converges (host : Host) (node : ChampionNode) (consensus : ChampionState)
    (env : Epoch.Surroundings) (clock : Surroundings) (c : StandingChampion) (apiUrl : Option String)
    (m : EpochManager) (healable : c.Healable m)
    (healed : (reconcileOnce host node consensus env clock m (c.api apiUrl)).result = .ok true) :
    c.HeldBack env (installRound host node consensus env clock m c.chain).state ∨
      let after := (reconcileOnce host node consensus env clock m (c.api apiUrl)).state
      InSync after (some c.submissionId) (some c.round.roundId) ∧
        ∀ consensus env clock, reconcileOnce host node consensus env clock after (c.api apiUrl) =
          .returns after false := by
  obtain ⟨follower, applied, same⟩ := reconcileOnce_healed healed
  cases StandingChampion.inSync_of_applyChain follower healable applied with
  | inl heldBack => exact .inl heldBack
  | inr inSync =>
    right
    rw [← same] at inSync
    exact ⟨inSync, fun consensus env clock => reconcileOnce_of_inSync rfl inSync⟩

def minerApprovals (validatorIds : List String) : List ChampionApproval :=
  validatorIds.map fun validatorId => {
    validatorId, roundId := "round-e5-n1", candidateSubmissionId := some "sub", effectiveEpoch := 7
    nonce := 1, deadline := 1 }

def stagedCertificate (validatorIds : List String) : ChampionCertificate where
  roundId := "round-e5-n1"
  candidateSubmissionId := some "sub"
  benchmarkPackHash := some "pack"
  effectiveEpoch := 7
  quorumRequired := validatorIds.length
  approvals := minerApprovals validatorIds

def minerRound (validatorIds : List String) : RoundState where
  roundId := "round-e5-n1"
  status := .activated
  openedEpoch := 5
  closeEpoch := some 6
  benchmarkPackHash := some "pack"
  quorumRequired := some validatorIds.length
  finalistSubmissionId := some "sub"
  effectiveEpoch := some 7
  certificate := some (stagedCertificate validatorIds)

def standingMiner (first : String) (others : List String) : StandingChampion where
  submissionId := "sub"
  round := minerRound (first :: others)
  certificate := stagedCertificate (first :: others)
  submissions := [minerSubmission]
  named := by decide
  roundNamed := by simp [minerRound]
  certified := rfl
  candidate := rfl
  finalist := rfl
  quorum := by simp [stagedCertificate]
  approved := by simp [stagedCertificate, minerApprovals]

def leaderUrl : Option String := some "http://leader:8080/"

def missedRound : EpochManager := { subs := .empty }

def rolledBack : EpochManager where
  rounds := { rounds := Dict.empty.set "round-e5-n1" (minerRound ["0x0b"]) }
  subs := .empty

def certifiedLater : EpochManager where
  rounds := { rounds := Dict.empty.set "round-e5-n1" { minerRound ["0x0b"] with
    status := .certified
    effectiveEpoch := some 9
    certificate := some { stagedCertificate ["0x0b"] with effectiveEpoch := 9 } } }
  subs := .empty

def pull (c : StandingChampion) (m : EpochManager) : Outcome EpochManager CertifyError Bool :=
  reconcileOnce spellingHost unanimousNode idleState followerWorld followerClock m (c.api leaderUrl)

theorem reconcile_converges_missed_round :
    InSync (pull (standingMiner "0x0b" []) missedRound).state (some "sub") (some "round-e5-n1") := by
  have unknown : (standingMiner "0x0b" []).Healable missedRound := by
    intro r found
    cases found
  have healed : (pull (standingMiner "0x0b" []) missedRound).result = .ok true := by decide +kernel
  cases reconcile_converges spellingHost unanimousNode idleState followerWorld followerClock
      (standingMiner "0x0b" []) leaderUrl missedRound unknown healed with
  | inr converged => exact converged.1
  | inl heldBack =>
    obtain frozen | ⟨round, certificate, submission, known, certified, found, refused⟩ := heldBack
    · cases frozen
    · let installed := installRound spellingHost unanimousNode idleState followerWorld followerClock
        missedRound (standingMiner "0x0b" []).chain
      have adopts : (installed.state.rounds.getRound "round-e5-n1").all fun round =>
          (Epoch.certifiedCandidate round).all fun certified =>
            (installed.state.subs.get "sub").all fun submission =>
              Epoch.followerAdopts followerWorld round certified.1 "sub" submission (some true) := by
        decide +kernel
      cases refused with
      | inl gated => simp_all [standingMiner, minerRound, installed]
      | inr blocked => exact absurd ⟨rfl, .inr (.inl rfl)⟩ blocked

theorem reconcile_reports_heals_that_change_nothing :
    let unverified := pull (standingMiner "0x0a" ["0x0b", "0x0c"]) missedRound
    (unverified.result = .ok true ∧ ¬ InSync unverified.state (some "sub") (some "round-e5-n1")) ∧
      ∀ m ∈ [rolledBack, certifiedLater],
        (pull (standingMiner "0x0b" []) m).result = .ok true ∧
          ¬ InSync (pull (standingMiner "0x0b" []) m).state (some "sub") (some "round-e5-n1") := by
  decide +kernel

end MinotaurSubnet.Api
