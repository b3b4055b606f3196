import MinotaurSubnet.Consensus.Committee
import MinotaurSubnet.Consensus.Eip712
import MinotaurSubnet.Library.Docket

/-! # The champion consensus manager

`ChampionConsensusManager` of `consensus/champion_manager.py` as a machine. Every
method runs to its end except `propose`, which suspends at `asyncio.sleep` while it
polls; one event is one stretch of code between two suspension points.
-/

namespace MinotaurSubnet.Consensus

open Library Python

structure ChampionProposal where
  roundId : String
  committeeHash : Option String := none
  incumbentImageId : Option String := none
  candidateSubmissionId : String := ""
  candidateImageId : String := ""
  benchmarkPackHash : Option String := none
  shadowCaseLogHash : Option String := none
  effectiveEpoch : Int := 0
  commitHash : Option String := none
  nonce : Int := 0
  deadline : Int := 0
  deriving DecidableEq

structure ChampionApproval where
  validatorId : String
  roundId : String
  committeeHash : Option String := none
  incumbentImageId : Option String := none
  candidateSubmissionId : Option String := none
  candidateImageId : Option String := none
  benchmarkPackHash : Option String := none
  shadowCaseLogHash : Option String := none
  effectiveEpoch : Int := 0
  commitHash : Option String := none
  nonce : Int := 0
  deadline : Int := 0
  timestamp : ℚ := 0
  signature : String := ""
  deriving DecidableEq

/-- The certificate; its wall-clock `certified_at` is not read by anything here. -/
structure ChampionCertificate where
  roundId : String
  committeeHash : Option String := none
  candidateSubmissionId : Option String := none
  candidateImageId : Option String := none
  incumbentImageId : Option String := none
  benchmarkPackHash : Option String := none
  shadowCaseLogHash : Option String := none
  effectiveEpoch : Int := 0
  quorumRequired : Int := 0
  approvals : List ChampionApproval := []
  deriving DecidableEq

structure ChampionConsensusResult where
  reached : Bool
  approvals : List ChampionApproval := []
  quorum : Int := 1
  collected : Nat := 0
  certificate : Option ChampionCertificate := none
  deriving DecidableEq

/-- `value or None`: the empty string counts as absent. -/
def orNone : Option String → Option String
  | some "" => none
  | value => value

/-- `value or ""`. -/
def orEmpty (value : Option String) : String := value.getD ""

/-- `_str_to_bytes32` of `champion_manager.py`: absent is zero, one `0x` is dropped. -/
def fieldToBytes32 (host : Host) (value : Option String) : List UInt8 :=
  let raw := strip (value.getD "").toList
  if raw.isEmpty then List.replicate 32 0
  else
    let raw := match raw with
      | '0' :: 'x' :: rest => rest
      | cs => cs
    match if raw.length = 64 then bytesFromHex (String.ofList raw) else none with
    | some bytes => bytes
    | none => host.keccak (utf8 (String.ofList raw))

def championApprovalTypehash (host : Host) : List UInt8 :=
  host.keccak (utf8 ("ChampionApproval(bytes32 roundId,bytes32 committeeHash,bytes32 incumbentImageId,"
    ++ "bytes32 candidateSubmissionId,bytes32 candidateImageId,bytes32 benchmarkPackHash,"
    ++ "bytes32 shadowCaseLogHash,uint256 effectiveEpoch,bytes32 commitHash,uint256 nonce,"
    ++ "uint256 deadline)"))

def hashChampionApprovalStruct (host : Host) (p : ChampionProposal) : Option (List UInt8) :=
  hashWords host
    [ .bytes32 (championApprovalTypehash host),
      .bytes32 (fieldToBytes32 host p.roundId),
      .bytes32 (fieldToBytes32 host p.committeeHash),
      .bytes32 (fieldToBytes32 host p.incumbentImageId),
      .bytes32 (fieldToBytes32 host p.candidateSubmissionId),
      .bytes32 (fieldToBytes32 host p.candidateImageId),
      .bytes32 (fieldToBytes32 host p.benchmarkPackHash),
      .bytes32 (fieldToBytes32 host p.shadowCaseLogHash),
      .uint256 p.effectiveEpoch,
      .bytes32 (fieldToBytes32 host p.commitHash),
      .uint256 p.nonce,
      .uint256 p.deadline ]

def approvalDigest (host : Host) (domainSeparator : List UInt8) (p : ChampionProposal) :
    Option (List UInt8) :=
  (hashChampionApprovalStruct host p).map (toTypedDataHash host domainSeparator)

def signChampionApproval (host : Host) (privateKey : String) (p : ChampionProposal)
    (domainSeparator : List UInt8) : Option String := do
  let digest ← approvalDigest host domainSeparator p
  let signature ← host.unsafeSignHash digest privateKey
  return hexOfBytes signature

/-- `verify_champion_approval`: any exception on the way is a rejection. -/
def verifyChampionApproval (host : Host) (address signature : String) (p : ChampionProposal)
    (domainSeparator : List UInt8) : Bool :=
  let recovered : Option String := do
    let digest ← approvalDigest host domainSeparator p
    let bytes ← bytesFromHex (removeHexMarks signature)
    host.recoverHash digest bytes
  match recovered with
  | some signer => host.lower signer == host.lower address
  | none => false

def approvalMatchesProposal (a : ChampionApproval) (p : ChampionProposal) : Bool :=
  a.roundId == p.roundId
    && orNone a.committeeHash == orNone p.committeeHash
    && orNone a.incumbentImageId == orNone p.incumbentImageId
    && orEmpty a.candidateSubmissionId == p.candidateSubmissionId
    && orEmpty a.candidateImageId == p.candidateImageId
    && orNone a.benchmarkPackHash == orNone p.benchmarkPackHash
    && orNone a.shadowCaseLogHash == orNone p.shadowCaseLogHash
    && a.effectiveEpoch == p.effectiveEpoch
    && orNone a.commitHash == orNone p.commitHash
    && a.nonce == p.nonce
    && a.deadline == p.deadline

structure PendingChampionProposal where
  proposal : ChampionProposal
  quorum : Int
  approvals : Dict String ChampionApproval
  createdAt : ℚ

namespace PendingChampionProposal

def addApproval (p : PendingChampionProposal) (a : ChampionApproval) : PendingChampionProposal :=
  { p with approvals := p.approvals.set a.validatorId a }

def hasQuorum (p : PendingChampionProposal) : Bool := p.quorum ≤ p.approvals.size

def sortedApprovals (p : PendingChampionProposal) : Except PyError (List ChampionApproval) :=
  sortById ChampionApproval.validatorId p.approvals.values

def certificate (p : PendingChampionProposal) (approvals : List ChampionApproval) :
    ChampionCertificate where
  roundId := p.proposal.roundId
  committeeHash := p.proposal.committeeHash
  candidateSubmissionId := some p.proposal.candidateSubmissionId
  candidateImageId := some p.proposal.candidateImageId
  incumbentImageId := p.proposal.incumbentImageId
  benchmarkPackHash := p.proposal.benchmarkPackHash
  shadowCaseLogHash := p.proposal.shadowCaseLogHash
  effectiveEpoch := p.proposal.effectiveEpoch
  quorumRequired := p.quorum
  approvals := approvals

/-- The `reached=True` result, with `build_certificate`. -/
def reachedResult (p : PendingChampionProposal) : Except PyError ChampionConsensusResult := do
  let approvals ← p.sortedApprovals
  return {
    reached := true
    approvals := approvals
    quorum := p.quorum
    collected := p.approvals.size
    certificate := some (p.certificate approvals) }

end PendingChampionProposal

/-- What the constructor fixes. It refuses a manager without a quorum source. -/
structure ChampionNode where
  validatorId : String
  privateKey : String
  protocolConfig : Option ProtocolConfig := none
  quorumBpsOverride : Option Int := none
  timeout : ℚ := 30
  domainSeparator : List UInt8 := []
  sourced : quorumBpsOverride = none → protocolConfig.isSome = true

/-- A `propose` call suspended in its polling loop. -/
structure WaitingPropose where
  proposal : ChampionProposal
  deadline : ℚ
  deriving DecidableEq

structure ChampionState where
  validatorsOverride : Option (List String) := none
  docket : Docket String PendingChampionProposal WaitingPropose

/-- One stretch of code between two suspension points. The clock readings it makes
    come with it. -/
inductive ChampionEvent where
  | propose (proposal : ChampionProposal) (now later : ℚ)
  | resume (ref : Nat) (now : ℚ)
  | receiveApproval (approval : ChampionApproval)
  | setValidators (validators : List String)
  | clearAllPending
  | pruneExpired (now : Option ℚ) (clock : ℚ)

inductive ChampionOutput where
  | proposed (proposal : ChampionProposal) (result : Except PyError ChampionConsensusResult)
  | suspended
  | received (result : Except PyError (Option ChampionConsensusResult))
  | validatorsSet
  | cleared (count : Nat)
  | pruned (expired : List String)
  | idle

namespace ChampionNode

variable (host : Host) (node : ChampionNode)

/-- The `quorum_bps` property. -/
def quorumBps : Int :=
  match pinned : node.quorumBpsOverride with
  | some quorumBps => quorumBps
  | none => (node.protocolConfig.get (node.sourced pinned)).quorumBps

def membership (s : ChampionState) : Membership where
  validatorId := node.validatorId
  validatorsOverride := s.validatorsOverride
  protocolConfig := node.protocolConfig

def quorumRequired (s : ChampionState) : Int :=
  (node.membership s).quorumRequired host.lower node.quorumBps

def signApproval (p : ChampionProposal) (now : ℚ) : Option ChampionApproval :=
  (signChampionApproval host node.privateKey p node.domainSeparator).map fun signature => {
    validatorId := node.validatorId
    roundId := p.roundId
    committeeHash := p.committeeHash
    incumbentImageId := p.incumbentImageId
    candidateSubmissionId := some p.candidateSubmissionId
    candidateImageId := some p.candidateImageId
    benchmarkPackHash := p.benchmarkPackHash
    shadowCaseLogHash := p.shadowCaseLogHash
    effectiveEpoch := p.effectiveEpoch
    commitHash := p.commitHash
    nonce := p.nonce
    deadline := p.deadline
    timestamp := now
    signature := signature }

def proposalFromApproval (a : ChampionApproval) : ChampionProposal where
  roundId := a.roundId
  committeeHash := a.committeeHash
  incumbentImageId := a.incumbentImageId
  candidateSubmissionId := orEmpty a.candidateSubmissionId
  candidateImageId := orEmpty a.candidateImageId
  benchmarkPackHash := a.benchmarkPackHash
  shadowCaseLogHash := a.shadowCaseLogHash
  effectiveEpoch := a.effectiveEpoch
  commitHash := a.commitHash
  nonce := a.nonce
  deadline := a.deadline

/-- `verify_approval`: signer, tuple, signature. -/
def verifyApproval (s : ChampionState) (a : ChampionApproval)
    (proposal : Option ChampionProposal := none) : Bool :=
  let expected := proposal.getD (proposalFromApproval a)
  (node.membership s).isAuthorizedSigner host.lower a.validatorId
    && approvalMatchesProposal a expected
    && verifyChampionApproval host a.validatorId a.signature expected node.domainSeparator

/-- The record `propose` opens, its own approval included. -/
def openPending (s : ChampionState) (p : ChampionProposal) (own : ChampionApproval) (now : ℚ) :
    PendingChampionProposal :=
  PendingChampionProposal.addApproval
    { proposal := p, quorum := node.quorumRequired host s, approvals := Dict.empty, createdAt := now }
    own

/-- The result of a `propose` that ran out of time. -/
def timedOut (own : PendingChampionProposal) : Except PyError ChampionConsensusResult := do
  let approvals ← own.sortedApprovals
  return { reached := false, approvals, quorum := own.quorum, collected := own.approvals.size }

/-- The head of the polling loop, up to the next `asyncio.sleep` or the return. -/
def poll (s : ChampionState) (ref : Nat) (t : WaitingPropose) (now : ℚ)
    (bound : ref < s.docket.records.length) : ChampionState × ChampionOutput :=
  let own := s.docket.records.get ⟨ref, bound⟩
  let polled := s.docket.poll ref t t.proposal.roundId (now < t.deadline) (·.hasQuorum) bound
  ({ s with docket := polled.1 },
    match polled.2 with
    | .gone => .proposed t.proposal (.ok { reached := false, quorum := own.quorum })
    | .ready current => .proposed t.proposal current.reachedResult
    | .again => .suspended
    | .expired => .proposed t.proposal (timedOut own))

/-- `propose` up to its first suspension. -/
def propose (s : ChampionState) (p : ChampionProposal) (now later : ℚ) :
    ChampionState × ChampionOutput :=
  match node.signApproval host p now with
  | none => (s, .proposed p (.error (.other "sign_approval")))
  | some own =>
    let pending := node.openPending host s p own now
    let opened := { s with docket := s.docket.register p.roundId pending }
    if pending.hasQuorum then
      match pending.reachedResult with
      -- `build_certificate` raises before the entry is deleted
      | .error e => (opened, .proposed p (.error e))
      | .ok result => ({ opened with docket := opened.docket.remove p.roundId }, .proposed p (.ok result))
    else
      poll opened s.docket.fresh { proposal := p, deadline := now + node.timeout } later
        (by simp [opened, Docket.register, Docket.fresh])

def receiveApproval (s : ChampionState) (a : ChampionApproval) : ChampionState × ChampionOutput :=
  match s.docket.current a.roundId with
  | none => (s, .received (.ok none))
  | some pending =>
    if !approvalMatchesProposal a pending.proposal then (s, .received (.ok none))
    else if !node.verifyApproval host s a pending.proposal then (s, .received (.ok none))
    else
      let added := pending.addApproval a
      let s := { s with docket := s.docket.modify a.roundId (·.addApproval a) }
      if added.hasQuorum then (s, .received (added.reachedResult.map some))
      else (s, .received (.ok none))

/-- The set `set_validators` pins: empty ids are dropped, an empty set is self. -/
def cleanedValidators (validators : List String) : List String :=
  let cleaned := validators.filter (· ≠ "")
  if cleaned.isEmpty then [node.validatorId] else cleaned

def setValidators (s : ChampionState) (validators : List String) : ChampionState where
  validatorsOverride := some (node.cleanedValidators validators)
  docket :=
    if node.cleanedValidators validators ≠ (node.membership s).validators host.lower
    then s.docket.clear else s.docket

/-- The entries `prune_expired` deletes. -/
def isExpired (now : ℚ) (pending : Option PendingChampionProposal) : Bool :=
  match pending with
  | some pending => now - pending.createdAt > node.timeout
  | none => false

def pruneExpired (s : ChampionState) (now : Option ℚ) (clock : ℚ) :
    ChampionState × ChampionOutput :=
  let now := orClock now clock
  let expired := s.docket.table.keys.filter fun k => node.isExpired now (s.docket.current k)
  ({ s with docket := s.docket.restrict fun _ pending => !node.isExpired now pending },
    .pruned expired)

def step (s : ChampionState) : ChampionEvent → ChampionState × ChampionOutput
  | .propose p now later => node.propose host s p now later
  | .resume ref now =>
    match found : s.docket.waiting.get? ref with
    | none => (s, .idle)
    | some t => poll s ref t now (s.docket.waitingBound ref t found)
  | .receiveApproval a => node.receiveApproval host s a
  | .setValidators validators => (node.setValidators host s validators, .validatorsSet)
  | .clearAllPending => ({ s with docket := s.docket.clear }, .cleared s.docket.table.size)
  | .pruneExpired now clock => node.pruneExpired s now clock

end ChampionNode

/-- The result a finished `propose` or `receive_approval` hands back. -/
def ChampionOutput.result? : ChampionOutput → Option ChampionConsensusResult
  | .proposed _ (.ok result) => some result
  | .received (.ok result) => result
  | _ => none

/-- The `propose` call that returns with this output, and its result. -/
def ChampionOutput.returned? : ChampionOutput → Option (ChampionProposal × ChampionConsensusResult)
  | .proposed p (.ok result) => some (p, result)
  | _ => none

end MinotaurSubnet.Consensus
