import MinotaurSubnet.Library.Dialogue
import MinotaurSubnet.Library.SortedBy
import MinotaurSubnet.Relayer.FinalizeChampion

/-! # The solver repository and the champion registry

What `relayer/solver_repo.py` asks of GitHub and of the BT-EVM node, and the two checks
its merge gate rests on: `attest_champion_on_chain`, which writes a certificate, and
`_onchain_cert_binds`, which reads one. Every call may fail or time out; `none` and a
status outside 2xx are the failures.
-/

namespace MinotaurSubnet.Relayer.SolverRepo

open Library Python Consensus

structure Repo where
  owner : String
  name : String
  deriving DecidableEq

structure TreeEntry where
  path : String
  mode : String
  type : String
  sha : String
  deriving DecidableEq

/-- A recursive tree listing. `object` is what the requested name stood for when GitHub looked it
    up; the answer does not show it and nothing reads it. -/
structure TreeBody where
  object : String
  truncated : Bool
  tree : List TreeEntry

structure BlobBody where
  content : Option String
  encoding : Option String

structure NewEntry where
  path : String
  mode : String
  sha : String
  deriving DecidableEq

structure OpenPull where
  number : Option Int
  headOwner : Option String

inductive GithubCall where
  | pullFiles (repo : Repo) (number : Int)
  | mergePull (repo : Repo) (number : Int) (sha : String)
  | tree (repo : Repo) (name : String)
  | mainRef (repo : Repo)
  | commitTree (repo : Repo) (sha : String)
  | blob (repo : Repo) (sha : String)
  | createBlob (repo : Repo) (content encoding : String)
  | createTree (repo : Repo) (entries : List NewEntry)
  | createCommit (repo : Repo) (message tree parent : String)
  | createRef (repo : Repo) (branch sha : String)
  | forceRef (repo : Repo) (branch sha : String)
  | deleteRef (repo : Repo) (branch : String)
  | openPull (repo : Repo) (title head body : String)
  | comment (repo : Repo) (number : Int) (body : String)
  | closePull (repo : Repo) (number : Int)
  | openPulls (repo : Repo)

/-- What is read of the answer's JSON. -/
abbrev GithubCall.Body : GithubCall → Type
  | .pullFiles .. => List (Option String)
  | .tree .. => TreeBody
  | .mainRef .. | .commitTree .. | .createBlob .. | .createTree .. | .createCommit .. => Option String
  | .blob .. => BlobBody
  | .openPull .. => Option Int
  | .openPulls .. => List OpenPull
  | _ => Unit

structure Reply (call : GithubCall) where
  status : Nat
  body : Option call.Body

/-- `_gh_json`'s `ok`. -/
def Reply.ok {call : GithubCall} (reply : Reply call) : Bool :=
  200 ≤ reply.status && reply.status < 300

def Reply.value {call : GithubCall} (reply : Reply call) : Option call.Body :=
  if reply.ok then reply.body else none

structure PullBody where
  state : Option String
  baseFullName : Option String
  headSha : Option String
  cloneUrl : Option String

/-- The arguments of `ChampionRegistry.certify`. -/
structure CertifyCall where
  roundId : List UInt8
  committeeHash : List UInt8
  incumbentImageId : List UInt8
  candidateSubmissionId : List UInt8
  candidateImageId : List UInt8
  benchmarkPackHash : List UInt8
  shadowCaseLogHash : List UInt8
  effectiveEpoch : Int
  commitHash : List UInt8
  deadline : Int
  nonces : List Int
  signatures : List (List UInt8)
  deriving DecidableEq

/-- The fields of a `ChampionRecord` the gate looks at. -/
structure ChampionRecord where
  commitHash : List UInt8
  approvalCount : Int
  present : Bool
  deriving DecidableEq

/-- Everything the finalization asks of the outside. -/
inductive Question where
  | http (call : GithubCall) (token : Option String)
  /-- `_resolve_full_sha`'s request. -/
  | commitLookup (repo : Repo) (name : String)
  /-- `_fetch_pr`. -/
  | pull (repo : Repo) (number : Int) (token : Option String)
  /-- The node is reachable and the contract handle built, for the attest. -/
  | attestRegistry
  | transactionCount
  | sendCertify (call : CertifyCall) (nonce : Nat)
  | receipt (tx : String)
  /-- The same handle, for reading. -/
  | registry
  | quorumRequired
  | latestChampion
  | champion (round : List UInt8)

/-- `none` is an exception, `some none` a record that cannot be indexed. -/
abbrev Question.Answer : Question → Type
  | .http call _ => Reply call
  | .commitLookup .. => Option String
  | .pull .. => Option PullBody
  | .attestRegistry | .registry => Bool
  | .transactionCount => Option Nat
  | .sendCertify .. => Option String
  | .receipt _ | .quorumRequired => Option Int
  | .latestChampion | .champion _ => Option (Option ChampionRecord)

abbrev Talk (α : Type) : Type := Dialogue Question Question.Answer α

abbrev Said : Type := List (Exchange Question.Answer)

section

def http (call : GithubCall) (token : Option String) : Talk (Reply call) :=
  Dialogue.put (Question.http call token)

def commitLookup (repo : Repo) (name : String) : Talk (Option String) :=
  Dialogue.put (Question.commitLookup repo name)

def fetchPr (repo : Repo) (number : Int) (token : Option String) : Talk (Option PullBody) :=
  Dialogue.put (Question.pull repo number token)

def attestRegistry : Talk Bool := Dialogue.put Question.attestRegistry

def transactionCount : Talk (Option Nat) := Dialogue.put Question.transactionCount

def sendCertify (call : CertifyCall) (nonce : Nat) : Talk (Option String) :=
  Dialogue.put (Question.sendCertify call nonce)

def waitForReceipt (tx : String) : Talk (Option Int) := Dialogue.put (Question.receipt tx)

def readChampionRegistry : Talk Bool := Dialogue.put Question.registry

def getQuorumRequired : Talk (Option Int) := Dialogue.put Question.quorumRequired

def getLatestChampion : Talk (Option (Option ChampionRecord)) :=
  Dialogue.put Question.latestChampion

def getChampion (round : List UInt8) : Talk (Option (Option ChampionRecord)) :=
  Dialogue.put (Question.champion round)

end

/-- The process environment, the two settings read from it at import, and the libraries. -/
structure Deployment where
  host : Host
  env : String → Option String
  trustAttestReceipt : Bool := true
  certReadAttempts : Int := 4

section

/-- A commit SHA as `resolve_pr` accepts it: forty lower-case hex digits. -/
def isFullSha (sha : String) : Bool :=
  sha.toList.length == 40 && sha.toList.all fun c => "0123456789abcdef".toList.contains c

/-- `value or default`. -/
def orText (value : Option String) (default : String) : String :=
  match value with
  | some "" | none => default
  | some text => text

def slashed (c : Char) : Char := if c = '/' then '-' else c

def githubPrefixes : List String :=
  ["https://github.com/", "git@github.com:", "ssh://git@github.com/"]

/-- `path.removesuffix(".git")`. -/
def removeGitSuffix (path : List Char) : List Char :=
  if ".git".toList.isSuffixOf path then path.take (path.length - 4) else path

def githubParts (url : String) : List (List String) :=
  githubPrefixes.filterMap fun lead =>
    if lead.toList.isPrefixOf url.toList then
      some (((removeGitSuffix (url.toList.drop lead.toList.length)).splitOn '/').map String.ofList)
    else none

/-- `private_repo.split("/", 1)`, when there is a slash. -/
def splitRepo (repo : String) : Option Repo :=
  if repo.toList.contains '/' then
    some ⟨String.ofList (repo.toList.takeWhile (· ≠ '/')),
      String.ofList ((repo.toList.dropWhile (· ≠ '/')).drop 1)⟩
  else none

end

namespace Deployment

variable (dep : Deployment)

/-- `os.environ.get(key, "").strip()`. -/
def envText (key : String) : String := stripped ((dep.env key).getD "")

/-- `_str_to_bytes32`. -/
def bytes32 (value : String) : List UInt8 := fieldToBytes32 dep.host (some value)

/-- `value.strip().lower()`. -/
def normalised (value : String) : String := dep.host.lower (stripped value)

/-- `_parse_github_owner_repo`. -/
def ownerRepo : Option Repo :=
  (githubParts (dep.envText "SOLVER_REPO_URL")).findSome? fun
    | owner :: name :: _ => some ⟨owner, name⟩
    | _ => none

def canonicalSolverRepo : Repo :=
  ((githubParts (dep.envText "SOLVER_REPO_URL")).findSome? fun
    | owner :: name :: _ => if owner ≠ "" ∧ name ≠ "" then some (Repo.mk owner name) else none
    | _ => none).getD ⟨"subnet112", "minotaur-solver"⟩

def pushToken : String :=
  stripped (orText (dep.env "SOLVER_REPO_PR_TOKEN") (orText (dep.env "SOLVER_REPO_TOKEN") ""))

/-- `CHAMPION_REGISTRY_964` and `BITTENSOR_EVM_RPC_URL` are set. -/
def registryConfigured : Bool :=
  dep.envText "CHAMPION_REGISTRY_964" ≠ "" ∧ dep.envText "BITTENSOR_EVM_RPC_URL" ≠ ""

end Deployment

section

def retryStatuses : List Nat := [0, 429, 500, 502, 503, 504]

/-- The attempts of `_github_api_request` after `left` more are allowed. -/
def githubAttempts (call : GithubCall) (token : Option String) : Nat → Talk (Reply call)
  | 0 => http call token
  | left + 1 => do
      let reply ← http call token
      if retryStatuses.contains reply.status then githubAttempts call token left else return reply

/-- `_github_api_request`: four attempts. -/
def githubApiRequest (call : GithubCall) (token : Option String := none) : Talk (Reply call) :=
  githubAttempts call token 3

variable (dep : Deployment)

def resolveFullSha (short : String) : Talk (Option String) :=
  match dep.ownerRepo with
  | none => return none
  | some repo => commitLookup repo short

def commentOnPr (number : Int) (body : String) (repo : Option Repo := none)
    (token : Option String := none) : Talk Bool :=
  match repo.or dep.ownerRepo with
  | none => return false
  | some repo => do
      if number = 0 then return false
      let reply ← githubApiRequest (.comment repo number body) token
      return reply.status = 200 || reply.status = 201

def closePr (number : Int) : Talk Bool :=
  match dep.ownerRepo with
  | none => return false
  | some repo => do
      if number = 0 then return false
      let reply ← githubApiRequest (.closePull repo number)
      return reply.status = 200

/-- `resolve_pr`: the head SHA of an open pull request on the expected base; `none` is the
    `PRResolutionError`. -/
def resolvePr (number : Int) (repo : Option Repo := none) (token : Option String := none) :
    Talk (Option String) := do
  let base := repo.getD dep.canonicalSolverRepo
  let some data ← fetchPr base number token | return none
  let lower := dep.host.lower
  if lower (data.state.getD "") ≠ "open" then return none
  if lower (data.baseFullName.getD "") ≠ lower (base.owner ++ "/" ++ base.name) then return none
  let headSha := dep.normalised (data.headSha.getD "")
  if !isFullSha headSha then return none
  let cloneUrl := stripped (data.cloneUrl.getD "")
  if !("https://github.com/".toList.isPrefixOf cloneUrl.toList) then return none
  return some headSha

/-- `_pr_touches_ci`; a failed read counts as touching. -/
def prTouchesCi (repo : Repo) (number : Int) : Talk Bool := do
  let reply ← githubApiRequest (.pullFiles repo number)
  match reply.body with
  | none => return true
  | some files =>
    if reply.status ≠ 200 then return true
    return files.any fun file => ".github/".toList.isPrefixOf (file.getD "").toList

end

section

variable (dep : Deployment)

def approvalKey (approval : ChampionApproval) : Option Int :=
  let raw := removeHexMarks (orText (some approval.validatorId) "0x0")
  hexOfStr (orText (some raw) "0")

/-- The arguments of `certify()`; `none` is an exception or one of the early returns. -/
def certifyCall (certificate : ChampionCertificate) (commitHash : List UInt8) :
    Option CertifyCall := do
  let keyed ← certificate.approvals.mapM fun a => do return (← approvalKey a, a)
  let sortedApprovals := (sortedBy Prod.fst keyed).map Prod.snd
  let signed := sortedApprovals.filter fun a => a.signature ≠ ""
  let signatures ← signed.mapM fun a => bytesFromHex (removeHexMarks a.signature)
  if signatures.isEmpty then none
  else match (signed.map ChampionApproval.deadline).eraseDups with
    | [deadline] =>
      let field := fieldToBytes32 dep.host
      some {
        roundId := field certificate.roundId
        committeeHash := field certificate.committeeHash
        incumbentImageId := field certificate.incumbentImageId
        candidateSubmissionId := field certificate.candidateSubmissionId
        candidateImageId := field certificate.candidateImageId
        benchmarkPackHash := field certificate.benchmarkPackHash
        shadowCaseLogHash := field certificate.shadowCaseLogHash
        effectiveEpoch := certificate.effectiveEpoch
        commitHash, deadline, signatures
        nonces := signed.map ChampionApproval.nonce }
    | _ => none

def attestedCommit (commitHash : String) : Talk String := do
  if commitHash.length < 40 then
    return orText (← resolveFullSha dep commitHash) commitHash
  return commitHash

/-- Send `certify()` and wait for its receipt. -/
def sendAndWait (call : CertifyCall) : Talk (Option String) := do
  let some nonce ← transactionCount | return none
  let some tx ← sendCertify call nonce | return none
  let status ← waitForReceipt tx
  if status = some 1 then return some ("0x" ++ tx) else return none

def attestChampionOnChain (certificate : ChampionCertificate) (commitHash : String) :
    Talk (Option String) := do
  if !dep.registryConfigured || dep.envText "RELAYER_PRIVATE_KEY" = "" then return none
  if !(← attestRegistry) then return none
  let attested ← attestedCommit dep commitHash
  match certifyCall dep certificate (dep.bytes32 attested) with
  | none => return none
  | some call => sendAndWait call

/-- The attempts of the adoption, `left` more after a failed one. -/
def attestAttempts (certificate : ChampionCertificate) (commitHash : String) :
    Nat → Talk (Option String)
  | 0 => return none
  | left + 1 => do
      match ← attestChampionOnChain dep certificate commitHash with
      | some tx => return some tx
      | none => attestAttempts certificate commitHash left

end

section

variable (dep : Deployment)

/-- `_binds` of `_onchain_cert_binds`. -/
def binds (target : List UInt8) (quorum : Int) : Option ChampionRecord → Bool
  | none => false
  | some record =>
    record.present && record.commitHash = target && decide (quorum ≤ record.approvalCount)

/-- One attempt at the registry; `none` is the transient failure that is tried again. -/
def certReadOnce (target : List UInt8) (roundId : Option String) : Talk (Option Bool) := do
  if !(← readChampionRegistry) then return none
  let some quorum ← getQuorumRequired | return none
  if quorum < 1 then return some false
  let some latest ← getLatestChampion | return none
  if binds target quorum latest then return some true
  match orNone roundId with
  | none => return some false
  | some round =>
    let some record ← getChampion (dep.bytes32 round) | return none
    return some (binds target quorum record)

def certReadAttempts (target : List UInt8) (roundId : Option String) : Nat → Talk Bool
  | 0 => return false
  | left + 1 => do
      match ← certReadOnce dep target roundId with
      | some verdict => return verdict
      | none => certReadAttempts target roundId left

/-- The receipt of this call's own `certify()` stands in for the read. -/
def receiptTrusted (target : List UInt8) (attestConfirmed : Option String) : Bool :=
  match orNone attestConfirmed with
  | none => false
  | some confirmed => dep.trustAttestReceipt && dep.bytes32 confirmed = target

def onchainCertBinds (headSha : String) (roundId : Option String)
    (attestConfirmed : Option String := none) : Talk Bool := do
  let target := dep.bytes32 (dep.normalised headSha)
  if receiptTrusted dep target attestConfirmed then return true
  if !dep.registryConfigured then return false
  certReadAttempts dep target roundId (max 1 dep.certReadAttempts).toNat

end

end MinotaurSubnet.Relayer.SolverRepo
