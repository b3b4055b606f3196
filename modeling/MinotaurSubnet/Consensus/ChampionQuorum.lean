import MinotaurSubnet.Consensus.ChampionSteps
import MinotaurSubnet.Library.Machine
import Mathlib.Data.Finset.Card

/-! # The quorum behind a champion certificate

A returned certificate should carry approvals of at least `quorum` validators. The
manager counts the keys of a dict keyed by the raw `validator_id`, while signatures
and authorization compare lower-cased addresses, so the count is right as long as no
accepted approval spells a counted validator differently.
-/

namespace MinotaurSubnet.Consensus

open Library

section

variable (host : Host) (node : ChampionNode)

def Endorses (s : ChampionState) (p : ChampionProposal) (a : ChampionApproval) : Prop :=
  approvalMatchesProposal a p = true
    ∧ ((a.validatorId = node.validatorId
        ∧ signChampionApproval host node.privateKey p node.domainSeparator = some a.signature)
      ∨ ((node.membership s).isAuthorizedSigner host.lower a.validatorId = true
        ∧ verifyChampionApproval host a.validatorId a.signature p node.domainSeparator = true))

/-- Every approval of the record is filed under its signer and endorses the record's tuple. -/
structure EndorsedPending (s : ChampionState) (x : PendingChampionProposal) : Prop where
  keyed : ∀ id a, x.approvals.get? id = some a → a.validatorId = id
  endorsed : ∀ id a, x.approvals.get? id = some a → Endorses host node s x.proposal a

/-- Moreover the approvals stand for as many validators as the record has keys. -/
structure SoundPending (s : ChampionState) (x : PendingChampionProposal) : Prop
    extends EndorsedPending host node s x where
  distinct : ∀ id ∈ x.approvals.keys, ∀ id' ∈ x.approvals.keys,
    host.lower id = host.lower id' → id = id'

/-- A received approval that the manager would accept does not name, in another
    spelling, a validator whose approval the record already has. -/
def CaseClean (s : ChampionState) : ChampionEvent → Prop
  | .receiveApproval a => ∀ x, s.docket.current a.roundId = some x →
      node.verifyApproval host s a x.proposal = true →
      ∀ id ∈ x.approvals.keys, host.lower id = host.lower a.validatorId → id = a.validatorId
  | _ => True

def Certifies (cert : ChampionCertificate) (p : ChampionProposal) : Prop :=
  cert.roundId = p.roundId ∧ cert.committeeHash = p.committeeHash
    ∧ cert.incumbentImageId = p.incumbentImageId
    ∧ cert.candidateSubmissionId = some p.candidateSubmissionId
    ∧ cert.candidateImageId = some p.candidateImageId
    ∧ cert.benchmarkPackHash = p.benchmarkPackHash
    ∧ cert.shadowCaseLogHash = p.shadowCaseLogHash ∧ cert.effectiveEpoch = p.effectiveEpoch

/-- At least `quorum` distinct validators, up to letter case, endorse one tuple, the
    certificate's. -/
def QuorumCertificate (s : ChampionState) (quorum : Int) (cert : ChampionCertificate) : Prop :=
  quorum ≤ (cert.approvals.map fun a => host.lower a.validatorId).toFinset.card
    ∧ ∃ p, Certifies cert p ∧ ∀ a ∈ cert.approvals, Endorses host node s p a

variable {host node}

variable {p : ChampionProposal}

theorem Endorses.congr {s s' a}
    (same : ∀ address, (node.membership s').isAuthorizedSigner host.lower address =
      (node.membership s).isAuthorizedSigner host.lower address)
    (endorses : Endorses host node s p a) : Endorses host node s' p a := by
  unfold Endorses
  rw [same]
  exact endorses

variable {x : PendingChampionProposal} {s : ChampionState}

theorem EndorsedPending.congr {s s'}
    (same : ∀ address, (node.membership s').isAuthorizedSigner host.lower address =
      (node.membership s).isAuthorizedSigner host.lower address)
    (filed : EndorsedPending host node s x) : EndorsedPending host node s' x where
  keyed := filed.keyed
  endorsed := fun id a found => (filed.endorsed id a found).congr same

theorem SoundPending.congr {s s'}
    (same : ∀ address, (node.membership s').isAuthorizedSigner host.lower address =
      (node.membership s).isAuthorizedSigner host.lower address)
    (sound : SoundPending host node s x) : SoundPending host node s' x where
  toEndorsedPending := sound.toEndorsedPending.congr same
  distinct := sound.distinct

theorem signApproval_endorses {now own} (signed : node.signApproval host p now = some own) :
    Endorses host node s p own := by
  obtain ⟨signature, made, rfl⟩ := Option.map_eq_some_iff.mp signed
  refine ⟨?_, .inl ⟨rfl, made⟩⟩
  simp [approvalMatchesProposal, orEmpty]

/-- A record as `propose` opens it holds the proposer's approval only. -/
theorem openPending_only {own a now id}
    (found : (node.openPending host s p own now).approvals.get? id = some a) :
    id = own.validatorId ∧ a = own := by
  simp only [ChampionNode.openPending, PendingChampionProposal.addApproval, Dict.get?_set] at found
  split at found
  · next same => exact ⟨same, (Option.some.inj found).symm⟩
  · simp at found

theorem openPending_endorsed {now own} (signed : node.signApproval host p now = some own) :
    EndorsedPending host node s (node.openPending host s p own now) := by
  constructor
  · intro id a found
    obtain ⟨rfl, rfl⟩ := openPending_only found
    rfl
  · intro id a found
    obtain ⟨-, rfl⟩ := openPending_only found
    exact signApproval_endorses signed

theorem openPending_sound {now own} (signed : node.signApproval host p now = some own) :
    SoundPending host node s (node.openPending host s p own now) where
  toEndorsedPending := openPending_endorsed signed
  distinct := by
    intro id member id' member' _
    obtain ⟨a, found⟩ := Dict.mem_keys.mp member
    obtain ⟨a', found'⟩ := Dict.mem_keys.mp member'
    exact (openPending_only found).1.trans (openPending_only found').1.symm

theorem addApproval_get? {a b id} (found : (x.addApproval a).approvals.get? id = some b) :
    id = a.validatorId ∧ b = a ∨ x.approvals.get? id = some b := by
  simp only [PendingChampionProposal.addApproval, Dict.get?_set] at found
  split at found
  · next same => exact .inl ⟨same, (Option.some.inj found).symm⟩
  · exact .inr found

theorem addApproval_endorsed {a} (filed : EndorsedPending host node s x)
    (verified : node.verifyApproval host s a x.proposal = true) :
    EndorsedPending host node s (x.addApproval a) := by
  constructor
  · intro id b found
    rcases addApproval_get? found with ⟨rfl, rfl⟩ | old
    · rfl
    · exact filed.keyed id b old
  · intro id b found
    rcases addApproval_get? found with ⟨-, rfl⟩ | old
    · simp only [ChampionNode.verifyApproval, Option.getD_some, Bool.and_eq_true] at verified
      exact ⟨verified.1.2, .inr ⟨verified.1.1, verified.2⟩⟩
    · exact filed.endorsed id b old

theorem addApproval_sound {a : ChampionApproval} (sound : SoundPending host node s x)
    (verified : node.verifyApproval host s a x.proposal = true)
    (clean : ∀ id ∈ x.approvals.keys, host.lower id = host.lower a.validatorId → id = a.validatorId) :
    SoundPending host node s (x.addApproval a) where
  toEndorsedPending := addApproval_endorsed sound.toEndorsedPending verified
  distinct := by
    have known : ∀ id ∈ (x.addApproval a).approvals.keys,
        id = a.validatorId ∨ id ∈ x.approvals.keys := by
      intro id member
      obtain ⟨b, found⟩ := Dict.mem_keys.mp member
      rcases addApproval_get? found with ⟨same, -⟩ | old
      · exact .inl same
      · exact .inr (Dict.mem_keys.mpr ⟨b, old⟩)
    intro id member id' member' same
    rcases known id member with rfl | old <;> rcases known id' member' with rfl | old'
    · rfl
    · exact (clean id' old' same.symm).symm
    · exact clean id old same
    · exact sound.distinct id old id' old' same

def SoundTable (host : Host) (node : ChampionNode) (s : ChampionState) : Prop :=
  ∀ round x, s.docket.current round = some x → SoundPending host node s x

theorem Arises.sound {e round} (table : SoundTable host node s) (clean : CaseClean host node s e)
    (arises : Arises host node s e round x) : SoundPending host node s x := by
  cases arises with
  | kept before => exact table round x before
  | opened signed => exact openPending_sound signed
  | extended before _ verified =>
    exact addApproval_sound (table _ _ before) verified (clean _ before verified)

theorem soundTable_step {e} (table : SoundTable host node s) (clean : CaseClean host node s e) :
    SoundTable host node (node.step host s e).1 := by
  intro round x after
  exact ((step_current after).sound table clean).congr (step_authorized after)

theorem reachedResult_spec {result} (built : x.reachedResult = .ok result) :
    ∃ approvals, approvals.Perm x.approvals.values ∧ result.quorum = x.quorum
      ∧ result.certificate = some (x.certificate approvals) := by
  obtain ⟨approvals, sorted, returned⟩ := bind_eq_ok.mp built
  obtain rfl := pure_eq_ok.mp returned
  exact ⟨approvals, sortById_perm _ sorted, rfl, rfl⟩

theorem SoundPending.ids (sound : SoundPending host node s x) :
    x.approvals.values.map (·.validatorId) = x.approvals.keys := by
  simp only [Dict.values, Dict.keys, List.map_map]
  apply List.map_congr_left
  rintro ⟨id, a⟩ member
  exact sound.keyed id a (Dict.get?_eq_some.mpr member)

theorem SoundPending.certificate (sound : SoundPending host node s x) (quorum : x.hasQuorum = true)
    {approvals} (perm : approvals.Perm x.approvals.values) :
    QuorumCertificate host node s x.quorum (x.certificate approvals) := by
  constructor
  · have lowers : (approvals.map fun a => host.lower a.validatorId).Perm
        (x.approvals.keys.map host.lower) := by
      rw [← sound.ids, List.map_map]
      exact perm.map _
    have distinct : (approvals.map fun a => host.lower a.validatorId).Nodup :=
      lowers.nodup_iff.mpr
        (x.approvals.keysNodup.map_on fun id member id' member' same =>
          sound.distinct id member id' member' same)
    have count : (approvals.map fun a => host.lower a.validatorId).length = x.approvals.size := by
      rw [lowers.length_eq, List.length_map, Dict.size_eq_keys]
    have enough : x.quorum ≤ x.approvals.size := by
      simpa [PendingChampionProposal.hasQuorum] using quorum
    simpa only [PendingChampionProposal.certificate, List.toFinset_card_of_nodup distinct, count]
      using enough
  · refine ⟨x.proposal, ⟨rfl, rfl, rfl, rfl, rfl, rfl, rfl, rfl⟩, ?_⟩
    intro a member
    obtain ⟨id, found⟩ := Dict.mem_values.mp (perm.mem_iff.mp member)
    exact sound.endorsed id a found

theorem champion_certificate_quorum {start s : ChampionState} (fresh : start.docket = .empty)
    (run : Reaches (node.step host) (CaseClean host node) start s)
    {e : ChampionEvent} (clean : CaseClean host node s e) {result : ChampionConsensusResult}
    (out : (node.step host s e).2.result? = some result) (reached : result.reached = true) :
    ∃ cert, result.certificate = some cert
      ∧ QuorumCertificate host node (node.step host s e).1 result.quorum cert := by
  have table : SoundTable host node s := by
    refine run.invariant (SoundTable host node) ?_ fun s e table clean => soundTable_step table clean
    intro round x found
    rw [fresh, Docket.current_empty] at found
    simp at found
  obtain ⟨q, x, returned, quorum, built⟩ := step_reached out reached
  obtain ⟨round, arises⟩ := returned.arises
  obtain ⟨approvals, perm, same, certificate⟩ := reachedResult_spec built
  refine ⟨_, certificate, ?_⟩
  rw [same]
  have unpinned : (node.step host s e).1.validatorsOverride = s.validatorsOverride := by
    apply step_override
    rintro validators rfl
    cases returned
  have sound : SoundPending host node (node.step host s e).1 x := by
    refine (arises.sound table clean).congr fun address => ?_
    simp only [ChampionNode.membership, unpinned]
  exact sound.certificate quorum perm

end

def unanimousNode : ChampionNode where
  validatorId := "0x0a"
  privateKey := "0a"
  protocolConfig := some {
    quorumBps := 6667
    onChainValidatorCount := 3
    onChainValidators := ["0x0a", "0x0b", "0x0c"] }
  sourced := fun _ => rfl

def idleState : ChampionState where
  docket := .empty

/-- The state after `events`. -/
def stateAfter (events : List ChampionEvent) : ChampionState :=
  events.foldl (fun s e => (unanimousNode.step spellingHost s e).1) idleState

def approvalOf (validatorId signature : String) : ChampionApproval where
  validatorId := validatorId
  roundId := "r"
  signature := signature

/-- One validator approves twice, with its address in two spellings. -/
theorem two_validators_certify_for_three :
    ¬ ∀ (host : Host) (node : ChampionNode) (start s : ChampionState), start.docket = .empty →
      Reaches (node.step host) (fun _ _ => True) start s →
      ∀ (e : ChampionEvent) (result : ChampionConsensusResult),
        (node.step host s e).2.result? = some result → result.reached = true →
        ∃ cert, result.certificate = some cert
          ∧ QuorumCertificate host node (node.step host s e).1 result.quorum cert := by
  intro always
  let s := stateAfter [.propose { roundId := "r" } 0 0, .receiveApproval (approvalOf "0x0B" "0b")]
  let e := ChampionEvent.receiveApproval (approvalOf "0x0b" "0b")
  have run : Reaches (unanimousNode.step spellingHost) (fun _ _ => True) idleState s :=
    .next _ (.next _ .refl trivial) trivial
  -- three keys, two addresses
  have seen : (unanimousNode.step spellingHost s e).2.result?.map (fun result =>
      (result.reached, result.quorum, result.certificate.map fun cert =>
        (cert.approvals.map fun a => spellingHost.lower a.validatorId).toFinset.card)) =
      some (true, 3, some 2) := by decide +kernel
  obtain ⟨result, out, facts⟩ := Option.map_eq_some_iff.mp seen
  simp only [Prod.mk.injEq] at facts
  obtain ⟨cert, certified, enough, -⟩ :=
    always spellingHost unanimousNode idleState s rfl run e result out facts.1
  obtain ⟨-, three, two⟩ := facts
  simp only [certified, Option.map_some, Option.some.injEq] at two
  rw [two, three] at enough
  exact absurd enough (by decide)

/-- Three validators approve, the last in upper case. -/
theorem champion_certificate_quorum_three :
    let s := stateAfter [.propose { roundId := "r" } 0 0, .receiveApproval (approvalOf "0x0b" "0b")]
    let e := ChampionEvent.receiveApproval (approvalOf "0x0C" "0c")
    ∃ result cert, (unanimousNode.step spellingHost s e).2.result? = some result
      ∧ result.certificate = some cert
      ∧ QuorumCertificate spellingHost unanimousNode (unanimousNode.step spellingHost s e).1
          result.quorum cert := by
  intro s e
  have seen : (unanimousNode.step spellingHost s e).2.result?.map (·.reached) = some true := by
    decide +kernel
  obtain ⟨result, out, reached⟩ := Option.map_eq_some_iff.mp seen
  have cleanFirst : CaseClean spellingHost unanimousNode (stateAfter [.propose { roundId := "r" } 0 0])
      (.receiveApproval (approvalOf "0x0b" "0b")) := by
    intro x here _
    cases here.symm.trans (Option.some_get (by decide +kernel)).symm
    decide +kernel
  have cleanLast : CaseClean spellingHost unanimousNode s e := by
    intro x here _
    cases here.symm.trans (Option.some_get (by decide +kernel)).symm
    decide +kernel
  have run : Reaches (unanimousNode.step spellingHost) (CaseClean spellingHost unanimousNode)
      idleState s := .next _ (.next _ .refl trivial) cleanFirst
  obtain ⟨cert, certified, quorum⟩ := champion_certificate_quorum rfl run cleanLast out reached
  exact ⟨result, cert, out, certified, quorum⟩

end MinotaurSubnet.Consensus
