import MinotaurSubnet.Api.FollowerGuard

/-! # What a follower installs

A follower whose own quorum is above one is meant to install only a candidate that it
verified itself. The gate waives the verification when the stored certificate says a
quorum of at most one, and with approvals in the request the certificate takes its
quorum from the request or from an earlier close. So the rule stands in the runs whose
requests never say one, or whose node never trusts the leader.
-/

namespace MinotaurSubnet.Api

open Library Consensus Harness
open Epoch (EpochManager)
open Epoch.EpochManager (OpSteps)

variable {trusts : Bool} {host : Host}

namespace FollowerEvent

def Unforced : FollowerEvent → Prop
  | .certify _ _ body => body.force = false
  | _ => True

def ByFollower : FollowerEvent → Prop
  | .activate env _ => env.isLeader = some false
  | _ => True

def SaysNotOne : FollowerEvent → Prop
  | .close _ body => body.quorumRequired ≠ some 1
  | .certify _ _ body => body.quorumRequired ≠ 1
  | .proposal _ _ body => body.quorumRequired ≠ some 1
  | _ => True

/-- An activation trusts the leader at a quorum of one only in a run that `trusts`. -/
def TrustsOnlyIf (trusts : Bool) : FollowerEvent → Prop
  | .activate env _ => env.followerTrustLeaderQuorum1 = true → trusts = true
  | _ => True

end FollowerEvent

namespace FollowerNode

structure Follows (host : Host) (node : ChampionNode) (n : FollowerNode) (e : FollowerEvent) : Prop where
  own : 1 < node.quorumRequired host n.consensus
  unforced : e.Unforced
  follower : e.ByFollower

structure Careful (trusts : Bool) (host : Host) (node : ChampionNode) (n : FollowerNode)
    (e : FollowerEvent) : Prop extends Follows host node n e where
  request : trusts = true → e.SaysNotOne
  trust : e.TrustsOnlyIf trusts

structure Invariant (trusts : Bool) (n : FollowerNode) : Prop where
  rounds : AllGuarded trusts n.verified n.manager.rounds
  pending : trusts = true → ∀ key x, n.consensus.docket.current key = some x → 1 < x.quorum

structure Boots (n : FollowerNode) : Prop where
  rounds : n.manager.rounds.rounds = .empty
  pending : n.consensus.docket = .empty

variable {node : ChampionNode} {n : FollowerNode}

theorem Boots.invariant (boots : n.Boots) : n.Invariant trusts where
  rounds := by
    intro roundId r found
    rw [boots.rounds] at found
    simp at found
  pending := by
    intro _ key x found
    rw [boots.pending] at found
    simp [Docket.current, Docket.empty] at found

theorem one_lt_of_arises {e key x} (inv : n.Invariant trusts)
    (own : 1 < node.quorumRequired host n.consensus) (trusting : trusts = true)
    (arises : Arises host node n.consensus e key x) : 1 < x.quorum := by
  cases arises with
  | kept before => exact inv.pending trusting key x before
  | opened signed => exact own
  | extended before _ _ =>
    have earlier := inv.pending trusting _ _ before
    exact earlier

theorem one_lt_of_reached {e result certificate} (inv : n.Invariant trusts)
    (own : 1 < node.quorumRequired host n.consensus) (trusting : trusts = true)
    (out : (node.step host n.consensus e).2.result? = some result) (reached : result.reached = true)
    (issued : result.certificate = some certificate) : 1 < certificate.quorumRequired := by
  obtain ⟨_, x, returns, _, built⟩ := step_reached out reached
  obtain ⟨key, arises⟩ := returns.arises
  obtain ⟨approvals, _, returned⟩ := bind_eq_ok.mp built
  obtain rfl := pure_eq_ok.mp returned
  cases issued
  exact one_lt_of_arises inv own trusting arises

theorem invariant_step {e} (inv : n.Invariant trusts) (careful : Careful trusts host node n e) :
    (n.step host node e).1.Invariant trusts := by
  cases e with
  | close env body =>
    refine ⟨?_, inv.pending⟩
    exact syncCloseSolverRoundState_guarded inv.rounds careful.own careful.request
  | certify env clock body =>
    refine ⟨?_, inv.pending⟩
    exact syncCertifiedRoundState_guarded inv.rounds clock careful.own careful.request
  | abort env body =>
    exact ⟨guarded_of_steps (syncAbortSolverRoundState_steps n.manager body) inv.rounds, inv.pending⟩
  | activate env body =>
    exact ⟨guarded_of_steps (activateSolverRoundState_steps n.manager body) inv.rounds, inv.pending⟩
  | consensus env event waiting =>
    constructor
    · apply storeProposedCertificate_guarded inv.rounds
      intro result certificate out reached issued trusting
      exact one_lt_of_reached inv careful.own trusting out reached issued
    · intro trusting key x after
      exact one_lt_of_arises inv careful.own trusting (step_current after)
  | proposal env clock body =>
    refine ⟨?_, inv.pending⟩
    exact prepareForProposal_guarded inv.rounds clock careful.request
  | selfVerified env roundId submissionId =>
    simp only [step]
    split
    · refine ⟨?_, inv.pending⟩
      have known : AllGuarded trusts ((roundId, submissionId) :: n.verified) n.manager.rounds :=
        fun key r found => (inv.rounds key r found).mono (List.subset_cons_self _ _)
      have marked : OpSteps env (GuardedOp trusts ((roundId, submissionId) :: n.verified)) n.manager
          (roundCall env n.manager (.markSelfVerified roundId (some submissionId))).state := by
        apply OpSteps.one
        intro id same
        cases same
        exact List.mem_cons_self
      exact guarded_of_steps marked known
    · exact inv
  | submission sub => exact ⟨inv.rounds, inv.pending⟩

/-- The activation message makes the node mark the round `ACTIVATED`. -/
structure Installs (host : Host) (node : ChampionNode) (n : FollowerNode) (env : Epoch.Surroundings)
    (body : ActivateRoundRequest) : Prop where
  before : ¬ n.manager.rounds.Activated body.roundId
  after : (n.step host node (.activate env body)).1.manager.rounds.Activated body.roundId

/-- The candidate was marked self-verified here for this round, a real miner owns it, and
    the leader did not refuse it. -/
def Vouched (n : FollowerNode) (body : ActivateRoundRequest) : Prop :=
  ∃ submission, n.manager.certifiedSubmission body.roundId = some submission ∧
    (body.roundId, submission.submissionId) ∈ n.verified ∧
    isRealMinerHotkey (some submission.hotkey) = true ∧ body.championChanged ≠ some false

theorem vouched_of_installs {env body} (inv : n.Invariant trusts)
    (careful : Careful trusts host node n (.activate env body))
    (installs : n.Installs host node env body) : n.Vouched body := by
  have after := installs.after
  simp only [step, FollowerNode.after, activateSolverRoundState] at after
  split at after
  · exact absurd after installs.before
  · rw [Outcome.state_andThen_returns] at after
    obtain ⟨round, certificate, candidate, submission, known, certified, found, adopts⟩ :=
      follower_commits_through_gate careful.follower installs.before after
    have own : submission.submissionId = candidate := n.manager.subs.keyed candidate submission found
    have guarded := inv.rounds body.roundId round known
    simp only [Epoch.followerAdopts, Bool.and_eq_true, Bool.or_eq_true, decide_eq_true_eq,
      bne_iff_ne] at adopts
    obtain ⟨⟨⟨notRefused, _⟩, verdict⟩, real⟩ := adopts
    refine ⟨submission, ?_, ?_, ?_, ?_⟩
    · unfold EpochManager.certifiedSubmission
      rw [known, Option.bind_some, certified, Option.bind_some]
      exact found
    · rw [own]
      cases verdict with
      | inl selfVerified => exact guarded.verified candidate (by simpa [Epoch.selfVerifiedFor] using selfVerified)
      | inr trusted =>
        have trusting := careful.trust trusted.2
        have above := guarded.certificate trusting certificate (certifiedCandidate_some certified)
        exact absurd trusted.1 (by omega)
    · exact real
    · exact notRefused

end FollowerNode

/-- In a run whose requests never say a quorum of one, or whose node never trusts the
    leader, the follower installs only what it vouches for itself. -/
theorem follower_installs_only_vouched (host : Host) (node : ChampionNode) (trusts : Bool)
    {start n : FollowerNode} (boots : start.Boots)
    (reached : Reaches (FollowerNode.step host node) (FollowerNode.Careful trusts host node) start n)
    (env : Epoch.Surroundings) (body : ActivateRoundRequest)
    (careful : FollowerNode.Careful trusts host node n (.activate env body))
    (installs : n.Installs host node env body) : n.Vouched body := by
  have inv : n.Invariant trusts := by
    apply reached.invariant (FollowerNode.Invariant trusts) boots.invariant
    intro n e inv careful
    exact FollowerNode.invariant_step inv careful
  exact FollowerNode.vouched_of_installs inv careful installs

def followerWorld : Epoch.Surroundings where
  persistence := ⟨true, 2000⟩
  resolveImageId := fun _ => .ok none
  lower := id
  isLeader := some false
  describe := fun _ => ""

def followerClock : Surroundings where
  propose := fun store _ => ⟨store, .error (.other "propose")⟩
  currentEpoch := 6
  reprStrings := fun ids => "[" ++ ", ".intercalate ids ++ "]"

def minerSubmission : SubmissionRecord where
  submissionId := "sub"
  hotkey := "5Miner"
  roundId := "round-e5-n1"
  imageDigest := some (String.ofList (List.replicate 64 'a'))

def minerCertificate (quorumRequired : Nat) (approvals : List ChampionApprovalPayload) :
    CertifyRoundRequest where
  roundId := "round-e5-n1"
  candidateSubmissionId := some "sub"
  benchmarkPackHash := some "pack"
  effectiveEpoch := 7
  quorumRequired := quorumRequired
  nonce := 1
  deadline := 1
  approvals := approvals

def approvedBy (validatorId signature : String) : ChampionApprovalPayload where
  validatorId := validatorId
  signature := signature

def minerActivation : ActivateRoundRequest where
  roundId := "round-e5-n1"
  activationEpoch := 7
  championChanged := some true

def trustingRun : List FollowerEvent :=
  [.submission minerSubmission,
    .certify followerWorld followerClock (minerCertificate 1 [approvedBy "0x0b" "0b"])]

def trustingNode : FollowerNode := runEvents (FollowerNode.step spellingHost unanimousNode) {} trustingRun

def verifyingRun : List FollowerEvent :=
  [.submission minerSubmission,
    .certify followerWorld followerClock (minerCertificate 3
      [approvedBy "0x0a" "0a", approvedBy "0x0b" "0b", approvedBy "0x0c" "0c"]),
    .selfVerified followerWorld "round-e5-n1" "sub"]

def verifyingNode : FollowerNode := runEvents (FollowerNode.step spellingHost unanimousNode) {} verifyingRun

theorem unanimous_own (n : FollowerNode) (unpinned : n.consensus.validatorsOverride = none) :
    1 < unanimousNode.quorumRequired spellingHost n.consensus := by
  have three : unanimousNode.quorumRequired spellingHost n.consensus =
      unanimousNode.quorumRequired spellingHost idleState := by
    simp only [ChampionNode.quorumRequired, ChampionNode.membership, unpinned]
    rfl
  rw [three]
  decide +kernel

theorem installs_of_status {n : FollowerNode} {env : Epoch.Surroundings} {body : ActivateRoundRequest}
    {host : Host} {node : ChampionNode}
    (before : (n.manager.rounds.getRound body.roundId).map (·.status) = some .certified)
    (after : ((n.step host node (.activate env body)).1.manager.rounds.getRound body.roundId).map
      (·.status) = some .activated) : n.Installs host node env body where
  before := by
    rintro ⟨r, found, activated⟩
    rw [RoundStore.getRound, found, Option.map_some, activated] at before
    cases before
  after := Option.map_eq_some_iff.mp after

theorem consensus_step {host node e} (other : ∀ env event waiting, e ≠ .consensus env event waiting)
    (n : FollowerNode) :
    (n.step host node e).1.consensus = n.consensus := by
  cases e with
  | consensus env event waiting => exact absurd rfl (other env event waiting)
  | selfVerified env roundId submissionId =>
    simp only [FollowerNode.step]
    split <;> rfl
  | _ => rfl

theorem reaches_messages {allowed : FollowerNode → FollowerEvent → Prop} (events : List FollowerEvent)
    (other : ∀ e ∈ events, ∀ env event waiting, e ≠ .consensus env event waiting)
    (permitted : ∀ e ∈ events, ∀ n : FollowerNode,
      1 < unanimousNode.quorumRequired spellingHost n.consensus → allowed n e) :
    Reaches (FollowerNode.step spellingHost unanimousNode) allowed {}
      (runEvents (FollowerNode.step spellingHost unanimousNode) {} events) := by
  apply reaches_runEvents_while fun n : FollowerNode => n.consensus.validatorsOverride = none
  · rfl
  · intro e member n unpinned
    rw [consensus_step (other e member)]
    exact unpinned
  · intro e member n unpinned
    exact permitted e member n (unanimous_own n unpinned)

theorem follower_installs_only_vouched_self_verified : verifyingNode.Vouched minerActivation := by
  have reached : Reaches (FollowerNode.step spellingHost unanimousNode)
      (FollowerNode.Careful true spellingHost unanimousNode) {} verifyingNode := by
    apply reaches_messages
    · intro e member
      simp only [verifyingRun, List.mem_cons, List.not_mem_nil, or_false] at member
      rcases member with rfl | rfl | rfl <;> simp
    · intro e member n own
      simp only [verifyingRun, List.mem_cons, List.not_mem_nil, or_false] at member
      rcases member with rfl | rfl | rfl
      · exact ⟨⟨own, trivial, trivial⟩, fun _ => trivial, trivial⟩
      · exact ⟨⟨own, rfl, trivial⟩, fun _ => by simp [FollowerEvent.SaysNotOne, minerCertificate], trivial⟩
      · exact ⟨⟨own, trivial, trivial⟩, fun _ => trivial, trivial⟩
  have installs : verifyingNode.Installs spellingHost unanimousNode followerWorld minerActivation := by
    apply installs_of_status
    · decide +kernel
    · decide +kernel
  have own : 1 < unanimousNode.quorumRequired spellingHost verifyingNode.consensus := by decide +kernel
  exact follower_installs_only_vouched spellingHost unanimousNode true ⟨rfl, rfl⟩ reached followerWorld
    minerActivation ⟨⟨own, trivial, rfl⟩, fun _ => trivial, fun _ => rfl⟩ installs

theorem follower_installs_unverified_at_quorum_one :
    ¬ ∀ (host : Host) (node : ChampionNode) (start n : FollowerNode), start.Boots →
      Reaches (FollowerNode.step host node) (FollowerNode.Follows host node) start n →
      ∀ env body, FollowerNode.Follows host node n (.activate env body) →
        n.Installs host node env body → n.Vouched body := by
  intro claim
  have reached : Reaches (FollowerNode.step spellingHost unanimousNode)
      (FollowerNode.Follows spellingHost unanimousNode) {} trustingNode := by
    apply reaches_messages
    · intro e member
      simp only [trustingRun, List.mem_cons, List.not_mem_nil, or_false] at member
      rcases member with rfl | rfl <;> simp
    · intro e member n own
      simp only [trustingRun, List.mem_cons, List.not_mem_nil, or_false] at member
      rcases member with rfl | rfl
      · exact ⟨own, trivial, trivial⟩
      · exact ⟨own, rfl, trivial⟩
  have installs : trustingNode.Installs spellingHost unanimousNode followerWorld minerActivation := by
    apply installs_of_status
    · decide +kernel
    · decide +kernel
  have own : 1 < unanimousNode.quorumRequired spellingHost trustingNode.consensus := by decide +kernel
  obtain ⟨submission, _, marked, _⟩ := claim spellingHost unanimousNode {} trustingNode ⟨rfl, rfl⟩ reached
    followerWorld minerActivation ⟨own, trivial, rfl⟩ installs
  have none : trustingNode.verified = [] := by decide +kernel
  rw [none] at marked
  cases marked

end MinotaurSubnet.Api
