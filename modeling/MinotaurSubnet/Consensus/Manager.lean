import MinotaurSubnet.Consensus.Committee
import MinotaurSubnet.Consensus.Eip712
import MinotaurSubnet.Library.Docket

/-! # The order consensus manager

`ConsensusManager` of `consensus/manager.py` as a machine. The lock never spans a
suspension point, so every method is one event except `propose`, which suspends at
`asyncio.sleep` while it polls. What a method reads from outside (the clock, an
App's on-chain score threshold, the on-chain registry) comes with its event, and the
protocol config changes by `refresh` events.
-/

namespace MinotaurSubnet.Consensus

open Library Python

structure SignedApproval where
  validatorId : String
  orderId : String
  planHash : String
  score : PyFloat
  signature : String
  timestamp : ℚ := 0
  deriving DecidableEq

structure ConsensusResult where
  reached : Bool
  approvals : List SignedApproval := []
  quorum : Int := 1
  collected : Nat := 0
  combinedScore : PyFloat := .fin 0
  deriving DecidableEq

structure PendingProposal where
  orderId : String
  planHash : String
  score : PyFloat
  quorum : Int
  approvals : Dict String SignedApproval
  createdAt : ℚ
  domainSeparator : List UInt8
  chainId : Int
  contractAddress : Option String

namespace PendingProposal

def addApproval (p : PendingProposal) (a : SignedApproval) : PendingProposal :=
  { p with approvals := p.approvals.set a.validatorId a }

def hasQuorum (p : PendingProposal) : Bool := p.quorum ≤ p.approvals.size

end PendingProposal

/-- The arguments of `propose` that it reads. -/
structure ProposeCall where
  orderId : String
  score : PyFloat
  planHash : String
  chainId : Option Int := none
  contractAddress : Option String := none
  deriving DecidableEq

/-- `chain_id is not None and contract_address`: the target of a per-order domain. -/
def orderTarget (chainId : Option Int) (contractAddress : Option String) : Option (Int × String) :=
  match chainId, contractAddress with
  | some chainId, some contract => if contract = "" then none else some (chainId, contract)
  | _, _ => none

/-- What the constructor fixes. `meanScore` is the float `sum(...) / len(...)`. -/
structure OrderNode where
  validatorId : String
  privateKey : String
  validatorsOverride : Option (List String) := none
  timeout : ℚ := 30
  chainId : Int := 31337
  domainSeparator : List UInt8 := []
  scoreThresholdBps : Int := 5000
  meanScore : List PyFloat → PyFloat

/-- A `propose` call suspended in its polling loop. -/
structure WaitingOrder where
  orderId : String
  deadline : ℚ
  deriving DecidableEq

structure OrderState where
  protocolConfig : ProtocolConfig
  docket : Docket String PendingProposal WaitingOrder

inductive OrderEvent where
  | propose (call : ProposeCall) (thresholdRead : Int) (now later : ℚ)
  | resume (ref : Nat) (now : ℚ)
  | receiveApproval (approval : SignedApproval) (thresholdRead : Int) (registered : Bool)
  | clearAllPending
  | pruneExpired (now : Option ℚ) (clock : ℚ)
  | refresh (protocolConfig : ProtocolConfig)

inductive OrderOutput where
  | proposed (result : Except PyError ConsensusResult)
  | suspended
  | received (result : Except PyError (Option ConsensusResult))
  | cleared (count : Nat)
  | pruned (expired : List String)
  | refreshed
  | idle

/-- The result of a `propose` that returns with this output. -/
def OrderOutput.returned? : OrderOutput → Option ConsensusResult
  | .proposed (.ok result) => some result
  | _ => none

def OrderOutput.isSuspended : OrderOutput → Bool
  | .suspended => true
  | _ => false

namespace OrderNode

variable (host : Host) (node : OrderNode)

def membership (s : OrderState) : Membership where
  validatorId := node.validatorId
  validatorsOverride := node.validatorsOverride
  protocolConfig := some s.protocolConfig

def validators (s : OrderState) : List String := (node.membership s).validators host.lower

def quorumRequired (s : OrderState) : Int :=
  (node.membership s).quorumRequired host.lower s.protocolConfig.quorumBps

/-- The `average_score` of a record. -/
def averageScore (p : PendingProposal) : PyFloat :=
  if p.approvals.size = 0 then .fin 0 else node.meanScore (p.approvals.values.map (·.score))

def signingContext (target : Option (Int × String)) (thresholdRead : Int) :
    Option (List UInt8 × Int) :=
  match target with
  | some (chainId, contract) =>
    (buildDomainSeparator host chainId contract).map fun domain => (domain, thresholdRead)
  | none => some (node.domainSeparator, node.scoreThresholdBps)

def signApproval (orderId planHash : String) (score : PyFloat) (target : Option (Int × String))
    (thresholdRead : Int) (now : ℚ) : Option SignedApproval := do
  let (domain, thresholdBps) ← node.signingContext host target thresholdRead
  let signature ← signPlanApproval host node.privateKey orderId planHash thresholdBps domain
  return {
    validatorId := node.validatorId
    orderId := orderId
    planHash := planHash
    score := score
    signature := signature
    timestamp := now }

/-- The record `propose` opens, its own approval included. -/
def openPending (s : OrderState) (call : ProposeCall) (domain : List UInt8) (own : SignedApproval)
    (now : ℚ) : PendingProposal :=
  PendingProposal.addApproval
    { orderId := call.orderId
      planHash := call.planHash
      score := call.score
      quorum := node.quorumRequired host s
      approvals := Dict.empty
      createdAt := now
      domainSeparator := domain
      chainId := call.chainId.getD node.chainId
      contractAddress := call.contractAddress }
    own

/-- The `reached=True` result of `propose`, with its approvals sorted. -/
def reachedResult (p : PendingProposal) : Except PyError ConsensusResult := do
  let approvals ← sortById SignedApproval.validatorId p.approvals.values
  return {
    reached := true
    approvals := approvals
    quorum := p.quorum
    collected := approvals.length
    combinedScore := node.averageScore p }

/-- The result a record gives without sorting: on a timeout, and from `receive_approval`. -/
def snapshot (reached : Bool) (p : PendingProposal) : ConsensusResult where
  reached := reached
  approvals := p.approvals.values
  quorum := p.quorum
  collected := p.approvals.size
  combinedScore := node.averageScore p

/-- The head of the polling loop, up to the next `asyncio.sleep` or the return. -/
def poll (s : OrderState) (ref : Nat) (t : WaitingOrder) (now : ℚ)
    (bound : ref < s.docket.records.length) : OrderState × OrderOutput :=
  let own := s.docket.records.get ⟨ref, bound⟩
  let polled := s.docket.poll ref t t.orderId (now < t.deadline) (·.hasQuorum) bound
  ({ s with docket := polled.1 },
    match polled.2 with
    | .gone => .proposed (.ok { reached := false, quorum := own.quorum })
    | .ready p => .proposed (node.reachedResult p)
    | .again => .suspended
    | .expired => .proposed (.ok (node.snapshot false own)))

/-- Start collecting: the part of `propose` after the single-validator fast path. -/
def collect (s : OrderState) (call : ProposeCall) (own : SignedApproval) (domain : List UInt8)
    (now later : ℚ) : OrderState × OrderOutput :=
  let pending := node.openPending host s call domain own now
  let opened := { s with docket := s.docket.register call.orderId pending }
  if pending.hasQuorum then
    match node.reachedResult pending with
    -- sorting raises before the entry is deleted
    | .error e => (opened, .proposed (.error e))
    | .ok result => ({ opened with docket := opened.docket.remove call.orderId }, .proposed (.ok result))
  else
    node.poll opened s.docket.fresh { orderId := call.orderId, deadline := now + node.timeout } later
      (by simp [opened, Docket.register, Docket.fresh])

/-- `propose` up to its first suspension. -/
def propose (s : OrderState) (call : ProposeCall) (thresholdRead : Int) (now later : ℚ) :
    OrderState × OrderOutput :=
  let target := orderTarget call.chainId call.contractAddress
  match node.signApproval host call.orderId call.planHash call.score target thresholdRead now with
  | none => (s, .proposed (.error (.other "sign_approval")))
  | some own =>
    if (node.validators host s).length = 1 then
      (s, .proposed (.ok {
        reached := true, approvals := [own], quorum := 1, collected := 1
        combinedScore := call.score }))
    else match node.signingContext host target thresholdRead with
      | none => (s, .proposed (.error (.other "build_domain_separator")))
      | some (domain, _) => node.collect host s call own domain now later

/-- The checks of `receive_approval` on a pending record; `none` is an exception. -/
def accepts (s : OrderState) (p : PendingProposal) (a : SignedApproval) (thresholdRead : Int)
    (registered : Bool) : Option Bool :=
  if !(node.membership s).isAuthorizedSigner host.lower a.validatorId then some false
  else do
    let domain := if p.domainSeparator.isEmpty then node.domainSeparator else p.domainSeparator
    let thresholdBps :=
      if p.chainId ≠ 0 ∧ (p.contractAddress.getD "") ≠ "" then thresholdRead
      else node.scoreThresholdBps
    let genuine ← verifyPlanApproval host a.validatorId a.signature a.orderId a.planHash
      thresholdBps domain
    return genuine && !(decide (p.chainId ≠ 0) && !registered) && a.planHash == p.planHash

def receiveApproval (s : OrderState) (a : SignedApproval) (thresholdRead : Int)
    (registered : Bool) : OrderState × OrderOutput :=
  match s.docket.current a.orderId with
  | none => (s, .received (.ok none))
  | some p =>
    match node.accepts host s p a thresholdRead registered with
    | none => (s, .received (.error (.other "verify_plan_approval")))
    | some false => (s, .received (.ok none))
    | some true =>
      let added := p.addApproval a
      ({ s with docket := s.docket.modify a.orderId (·.addApproval a) },
        .received (.ok (if added.hasQuorum then some (node.snapshot true added) else none)))

/-- The entries `prune_expired` deletes. -/
def isExpired (now : ℚ) (p : Option PendingProposal) : Bool :=
  match p with
  | some p => now - p.createdAt > node.timeout
  | none => false

def pruneExpired (s : OrderState) (now : Option ℚ) (clock : ℚ) : OrderState × OrderOutput :=
  let now := orClock now clock
  let expired := s.docket.table.keys.filter fun k => node.isExpired now (s.docket.current k)
  ({ s with docket := s.docket.restrict fun _ p => !node.isExpired now p }, .pruned expired)

def step (s : OrderState) : OrderEvent → OrderState × OrderOutput
  | .propose call thresholdRead now later => node.propose host s call thresholdRead now later
  | .resume ref now =>
    match found : s.docket.waiting.get? ref with
    | none => (s, .idle)
    | some t => node.poll s ref t now (s.docket.waitingBound ref t found)
  | .receiveApproval a thresholdRead registered =>
    node.receiveApproval host s a thresholdRead registered
  | .clearAllPending => ({ s with docket := s.docket.clear }, .cleared s.docket.table.size)
  | .pruneExpired now clock => node.pruneExpired s now clock
  | .refresh protocolConfig => ({ s with protocolConfig }, .refreshed)

end OrderNode

end MinotaurSubnet.Consensus
