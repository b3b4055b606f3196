import MinotaurSubnet.Consensus.ChampionManager
import MinotaurSubnet.Relayer.SubmitPlan

/-! # Finalizing a champion

`RelayerService._finalize_core` up to its call of `on_champion_adopted_pr`. The body is untrusted
JSON: the certificate with its approvals, the round id, the submission and the wrapper are separate
parts of it. Whatever raises on the way ends in a refusal.
-/

namespace MinotaurSubnet.Relayer

open Library Python Consensus

/-- `ChampionApproval.from_dict`; what it does not convert stays as the body has it. -/
structure WireChampionApproval where
  validatorId : String
  roundId : String
  committeeHash : Value
  incumbentImageId : Value
  candidateSubmissionId : Value
  candidateImageId : Value
  benchmarkPackHash : Value
  shadowCaseLogHash : Value
  effectiveEpoch : Int
  commitHash : Value
  nonce : Int
  deadline : Int
  timestamp : PyFloat
  signature : String

/-- `ChampionCertificate.from_dict`. -/
structure WireCertificate where
  roundId : String
  committeeHash : Value
  candidateSubmissionId : Value
  candidateImageId : Value
  incumbentImageId : Value
  benchmarkPackHash : Value
  shadowCaseLogHash : Value
  effectiveEpoch : Int
  quorumRequired : Int
  approvals : List WireChampionApproval
  certifiedAt : PyFloat

/-- A `FinalizeOutcome` that is not ok. -/
structure FinalizeRefusal where
  code : String
  stage : String
  detail : String
  roundId : String := ""
  submissionId : String := ""
  deriving DecidableEq

structure FinalizeService where
  host : Host
  /-- `abi_encode(["string", "string"], ...)`. -/
  abiEncodeStrings : List String → Option (List UInt8)
  str : Value → String
  float : Value → Except PyError PyFloat
  errorText : PyError → String
  env : String → Option String
  /-- The ValidatorRegistry of a configured chain. -/
  registryOf : Int → Option String
  /-- `_read_authorized_validators`. -/
  authorizedValidators : Int → Except PyError (List String)
  /-- `recover_wrapper_signer` of a plan hash, nonce, timestamp and chain. -/
  recoverWrapperSigner : String → Int → Int → Int → Value → Except PyError String
  maxWrapperAge : Int := 30
  maxWrapperSkew : Int := 5

/-- The call of `on_champion_adopted_pr`, with the domain and the registry it was accepted on. -/
structure FinalizeCall where
  submissionId : Value
  commitHash : Value
  prNumber : Value
  isPrivate : Bool
  privateRepo : Value
  repoToken : Value
  roundId : String
  certificate : WireCertificate
  domain : List UInt8
  authorized : List String

section

variable (svc : FinalizeService)

/-- `str(data.get(key) or "")`. -/
def textOf (data : Value) (key : String) : Except PyError String := do
  return svc.str ((← data.get key).or (.str ""))

/-- `int(data.get(key) or 0)`. -/
def intOf (data : Value) (key : String) : Except PyError Int := do (← data.get key).toIntOr 0

/-- `float(data.get(key) or 0.0)`. -/
def floatOf (data : Value) (key : String) : Except PyError PyFloat := do
  svc.float ((← data.get key).or (.float (.fin 0)))

def championApprovalFromDict (raw : Value) : Except PyError WireChampionApproval := do
  let data := raw.or (.dict [])
  return {
    validatorId := ← textOf svc data "validator_id"
    roundId := ← textOf svc data "round_id"
    committeeHash := ← data.get "committee_hash"
    incumbentImageId := ← data.get "incumbent_image_id"
    candidateSubmissionId := ← data.get "candidate_submission_id"
    candidateImageId := ← data.get "candidate_image_id"
    benchmarkPackHash := ← data.get "benchmark_pack_hash"
    shadowCaseLogHash := ← data.get "shadow_case_log_hash"
    effectiveEpoch := ← intOf data "effective_epoch"
    commitHash := ← data.get "commit_hash"
    nonce := ← intOf data "nonce"
    deadline := ← intOf data "deadline"
    timestamp := ← floatOf svc data "timestamp"
    signature := ← textOf svc data "signature" }

def championCertificateFromDict (raw : Value) : Except PyError (Option WireCertificate) := do
  if raw.isNone then return none
  return some {
    roundId := ← textOf svc raw "round_id"
    committeeHash := ← raw.get "committee_hash"
    candidateSubmissionId := ← raw.get "candidate_submission_id"
    candidateImageId := ← raw.get "candidate_image_id"
    incumbentImageId := ← raw.get "incumbent_image_id"
    benchmarkPackHash := ← raw.get "benchmark_pack_hash"
    shadowCaseLogHash := ← raw.get "shadow_case_log_hash"
    effectiveEpoch := ← intOf raw "effective_epoch"
    quorumRequired := ← intOf raw "quorum_required"
    approvals := ← (← ((← raw.get "approvals").or (.list [])).iterate).mapM
      (championApprovalFromDict svc)
    certifiedAt := ← floatOf svc raw "certified_at" }

end

section

variable (svc : FinalizeService)

/-- What `_str_to_bytes32` makes of a field; anything else that is not empty has no `strip`. -/
def fieldText (value : Value) : Option (Option String) :=
  match value with
  | .str s => some (some s)
  | other => if other.truthy then none else some none

def WireChampionApproval.proposal (ap : WireChampionApproval) : Option ChampionProposal := do
  return {
    roundId := ap.roundId
    committeeHash := ← fieldText ap.committeeHash
    incumbentImageId := ← fieldText ap.incumbentImageId
    candidateSubmissionId := orEmpty (← fieldText ap.candidateSubmissionId)
    candidateImageId := orEmpty (← fieldText ap.candidateImageId)
    benchmarkPackHash := ← fieldText ap.benchmarkPackHash
    shadowCaseLogHash := ← fieldText ap.shadowCaseLogHash
    effectiveEpoch := ap.effectiveEpoch
    commitHash := ← fieldText ap.commitHash
    nonce := ap.nonce
    deadline := ap.deadline }

def approvalVerifies (domain : List UInt8) (ap : WireChampionApproval) : Bool :=
  match ap.proposal with
  | none => false
  | some p => verifyChampionApproval svc.host ap.validatorId ap.signature p domain

/-- `verified_signers & authorized_lower`. -/
def authorizedVerified (domain : List UInt8) (authorized : List String)
    (approvals : List WireChampionApproval) : Finset String :=
  ((approvals.filter (approvalVerifies svc domain)).map fun ap =>
      svc.host.lower ap.validatorId).toFinset ∩
    (authorized.map svc.host.lower).toFinset

end

section

variable (svc : FinalizeService) (now : Int)

def crashing {α : Type} : Except PyError α → Except FinalizeRefusal α
  | .ok a => .ok a
  | .error e =>
    .error ⟨"finalize_crashed", "internal", s!"finalize crashed: {svc.errorText e}", "", ""⟩

def refusal (code detail roundId : String) : FinalizeRefusal :=
  ⟨code, "validation", detail, roundId, ""⟩

def stripped (text : String) : String := String.ofList (strip text.toList)

/-- `CHAMPION_CONSENSUS_CHAIN_ID`. -/
def championChainId : Except PyError Int :=
  let raw := stripped ((svc.env "CHAMPION_CONSENSUS_CHAIN_ID").getD "964")
  match intOfStr (if raw = "" then "964" else raw) with
  | some chainId => .ok chainId
  | none => .error .valueError

def championRegistryAddress (chainId : Int) : String :=
  let own := stripped ((svc.env s!"CHAMPION_REGISTRY_{chainId}").getD "")
  if own ≠ "" then own else stripped ((svc.env "CHAMPION_CONSENSUS_CONTRACT_ADDRESS").getD "")

def championDomain (roundId : String) (chainId : Int) : Except FinalizeRefusal (List UInt8) := do
  let address := championRegistryAddress svc chainId
  ensure (address ≠ "") (refusal "registry_unconfigured"
    s!"no CHAMPION_REGISTRY_{chainId} configured — cannot recompute champion domain separator" roundId)
  match buildDomainSeparator svc.host chainId address "MinotaurChampionConsensus" "1" with
  | some domain => return domain
  | none => crashing svc (.error (.other "abi_encode"))

def readCertificate (roundId : String) (data : Value) : Except FinalizeRefusal WireCertificate := do
  let read ← crashing svc (do championCertificateFromDict svc (← data.get "certificate"))
  match read with
  | none => .error (refusal "missing_certificate" "missing certificate" roundId)
  | some cert =>
    ensure (!cert.approvals.isEmpty) (refusal "no_approvals" "certificate has no approvals" roundId)
    ensure (1 ≤ cert.quorumRequired)
      (refusal "invalid_quorum" s!"invalid quorum_required {cert.quorumRequired} (< 1)" roundId)
    return cert

def readRegistry (roundId : String) (chainId : Int) : Except FinalizeRefusal (List String) := do
  ensure (((svc.registryOf chainId).getD "") ≠ "") (refusal "vr_unconfigured"
    s!"no ValidatorRegistry configured on champion chain {chainId}" roundId)
  match svc.authorizedValidators chainId with
  | .ok authorized => return authorized
  | .error e =>
    .error (refusal "vr_read_failed" s!"ValidatorRegistry read failed: {svc.errorText e}" roundId)

/-- `compute_champion_finalize_hash`. -/
def championFinalizeHash (roundId candidateSubmissionId : String) : Except PyError String :=
  match svc.abiEncodeStrings [roundId, candidateSubmissionId] with
  | some encoded => .ok ("0x" ++ hexOfBytes (svc.host.keccak encoded))
  | none => .error (.other "abi_encode")

def finalizeWrapper (roundId : String) (wrapper : Value) : Except FinalizeRefusal WrapperPayload :=
  let fields : Except PyError WrapperPayload := do
    let planHash ← item wrapper "plan_hash"
    let submissionNonce ← (← item wrapper "submission_nonce").toInt
    let timestamp ← (← item wrapper "timestamp").toInt
    let chainId ← (← item wrapper "chain_id").toInt
    return { planHash, submissionNonce, timestamp, chainId }
  match fields with
  | .ok payload => .ok payload
  | .error .overflowError => crashing svc (.error .overflowError)
  | .error e => .error (refusal "malformed_wrapper" s!"malformed wrapper: {svc.errorText e}" roundId)

/-- `is_wrapper_fresh`. -/
def finalizeFresh (roundId : String) (payload : WrapperPayload) : Except FinalizeRefusal Unit :=
  let age := now - payload.timestamp
  if svc.maxWrapperAge < age then
    .error (refusal "wrapper_stale" s!"wrapper too old: {age}s > {svc.maxWrapperAge}s window" roundId)
  else if svc.maxWrapperSkew < -age then
    .error (refusal "wrapper_stale"
      s!"wrapper timestamp too far in the future: {-age}s > {svc.maxWrapperSkew}s skew" roundId)
  else .ok ()

/-- The caller is a registered validator whose fresh wrapper binds round and candidate. -/
def checkFinalizeWrapper (roundId : String) (cert : WireCertificate) (chainId : Int)
    (authorized : List String) (data : Value) : Except FinalizeRefusal Unit := do
  let wrapper ← crashing svc (data.get "wrapper")
  let signature ← crashing svc (data.get "wrapper_signature")
  ensure (wrapper.truthy && signature.truthy)
    (refusal "missing_wrapper" "missing wrapper or wrapper_signature" roundId)
  let payload ← finalizeWrapper svc roundId wrapper
  let expected ← crashing svc
    (championFinalizeHash svc roundId (svc.str (cert.candidateSubmissionId.or (.str ""))))
  ensure (payload.planHash.isStr expected) (refusal "wrapper_hash_mismatch"
    "wrapper plan_hash doesn't bind round+submission" roundId)
  finalizeFresh svc now roundId payload
  match svc.recoverWrapperSigner expected payload.submissionNonce payload.timestamp payload.chainId
      signature with
  | .error e =>
    .error (refusal "wrapper_sig_invalid" s!"wrapper sig invalid: {svc.errorText e}" roundId)
  | .ok signer =>
    ensure (authorized.any fun a => svc.host.lower a == svc.host.lower signer)
      (refusal "wrapper_signer_unauthorized" (s!"wrapper signer {signer} not in ValidatorRegistry "
        ++ s!"on champion chain {chainId}") roundId)

def checkQuorum (roundId : String) (cert : WireCertificate) (domain : List UInt8)
    (authorized : List String) : Except FinalizeRefusal Unit :=
  let counted := (authorizedVerified svc domain authorized cert.approvals).card
  ensure (cert.quorumRequired ≤ counted) ⟨"quorum_not_reached", "quorum",
    s!"quorum not reached: {counted}/{cert.quorumRequired} authorized verified signers "
      ++ s!"(of {authorized.length} validators)", roundId,
    svc.str (cert.candidateSubmissionId.or (.str ""))⟩

def finalizeCall (roundId : String) (cert : WireCertificate) (domain : List UInt8)
    (authorized : List String) (data : Value) : Except PyError FinalizeCall := do
  let submission := (← data.get "submission").or (.dict [])
  return {
    isPrivate := (← submission.get "is_private" (.bool false)).truthy
    submissionId := ← submission.get "submission_id" (.str "")
    commitHash := ← submission.get "commit_hash" (.str "")
    prNumber := ← submission.get "pr_number"
    privateRepo := ← submission.get "private_repo"
    repoToken := ← submission.get "repo_token"
    roundId, certificate := cert, domain, authorized }

/-- `_finalize_core` up to the call of `on_champion_adopted_pr`. -/
def finalizeCore (body : Except PyError Value) : Except FinalizeRefusal FinalizeCall :=
  match body with
  | .error e => .error ⟨"bad_json", "validation", s!"bad JSON: {svc.errorText e}", "", ""⟩
  | .ok data => do
      let roundId := stripped (← crashing svc (textOf svc data "round_id"))
      let cert ← readCertificate svc roundId data
      let chainId ← crashing svc (championChainId svc)
      let domain ← championDomain svc roundId chainId
      let authorized ← readRegistry svc roundId chainId
      checkFinalizeWrapper svc now roundId cert chainId authorized data
      checkQuorum svc roundId cert domain authorized
      crashing svc (finalizeCall roundId cert domain authorized data)

end

end MinotaurSubnet.Relayer
