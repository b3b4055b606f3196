import MinotaurSubnet.Relayer.SolverRepo

/-! # The merge gate

`on_champion_adopted_pr` and what it calls: the attest with its re-drive, the squash merge
of a fork pull request, and the publisher that rebuilds a certified tree on canonical `main`
when the pull request cannot be merged or lives in a private repository.
-/

namespace MinotaurSubnet.Relayer.SolverRepo

open Library Python Consensus

structure MergeResult where
  ok : Bool
  code : String := ""
  stage : String := ""
  detail : String := ""
  mainSha : String := ""
  deriving DecidableEq

def mergeRefused (code detail : String) : MergeResult := ⟨false, code, "merge", detail, ""⟩

/-- The submission as the finalization reads it; `privateRepo` is the first of its two names that is
    set. -/
structure Candidate where
  submissionId : String
  commitHash : String
  prNumber : Option Int
  isPrivate : Bool := false
  privateRepo : Option String := none
  repoToken : Option String := none

def roundText (roundId : Option String) : String := roundId.getD "None"

section

/-- The blobs of a tree outside `.github/`. -/
def solverEntries (tree : List TreeEntry) : List NewEntry :=
  (tree.filter fun e => e.type = "blob" && !(".github/".toList.isPrefixOf e.path.toList)).map
    fun e => ⟨e.path, e.mode, e.sha⟩

def githubEntries (tree : List TreeEntry) : List NewEntry :=
  (tree.filter fun e => e.type = "blob" && ".github/".toList.isPrefixOf e.path.toList).map
    fun e => ⟨e.path, e.mode, e.sha⟩

def privateTreeBlobs (repo : Repo) (headSha : String) (token : Option String) :
    Talk (Option (List NewEntry)) := do
  let reply ← githubApiRequest (.tree repo headSha) token
  match reply.value with
  | none => return none
  | some body =>
    if body.truncated || (solverEntries body.tree).isEmpty then return none
    return some (solverEntries body.tree)

def canonicalGithubEntries (repo : Repo) (mainTreeSha : String) (token : Option String) :
    Talk (Option (List NewEntry)) := do
  let reply ← githubApiRequest (.tree repo mainTreeSha) token
  match reply.value with
  | none => return none
  | some body => return some (githubEntries body.tree)

def recreateBlob (source canonical : Repo) (sourceToken pushToken : Option String)
    (blob : NewEntry) : Talk (Option NewEntry) := do
  let read ← githubApiRequest (.blob source blob.sha) sourceToken
  match read.value with
  | none => return none
  | some body =>
    let created ← githubApiRequest
      (.createBlob canonical (body.content.getD "") (body.encoding.getD "base64")) pushToken
    match orNone (created.value.getD none) with
    | none => return none
    | some sha => return some ⟨blob.path, blob.mode, sha⟩

def recreateBlobs (source canonical : Repo) (sourceToken pushToken : Option String) :
    List NewEntry → Talk (Option (List NewEntry))
  | [] => return some []
  | blob :: rest => do
      let some entry ← recreateBlob source canonical sourceToken pushToken blob | return none
      let some entries ← recreateBlobs source canonical sourceToken pushToken rest | return none
      return some (entry :: entries)

def publishBranch (branchPrefix : String) (roundId : Option String) (certifiedSha : String) :
    String :=
  let round := String.ofList ((orText roundId "round").toList.map slashed)
  branchPrefix ++ "/" ++ round ++ "-" ++ String.ofList (certifiedSha.toList.take 12)

def placeBranch (canonical : Repo) (branch commit : String) (token : Option String) : Talk Bool := do
  let created ← githubApiRequest (.createRef canonical branch commit) token
  if created.ok then return true
  let moved ← githubApiRequest (.forceRef canonical branch commit) token
  return moved.ok

def mergeBranch (canonical : Repo) (title branch message commit : String)
    (token : Option String) : Talk Bool := do
  let opened ← githubApiRequest (.openPull canonical title branch message) token
  match opened.value.getD none with
  | none => return false
  | some number =>
    if number = 0 then return false
    let merged ← githubApiRequest (.mergePull canonical number commit) token
    return merged.ok

/-- From the finished tree to the merge; the branch is removed either way. -/
def landTree (canonical : Repo) (title branch message parent : String) (entries : List NewEntry)
    (token : Option String) : Talk Bool := do
  let tree ← githubApiRequest (.createTree canonical entries) token
  match orNone (tree.value.getD none) with
  | none => return false
  | some treeSha =>
    let commit ← githubApiRequest (.createCommit canonical message treeSha parent) token
    match orNone (commit.value.getD none) with
    | none => return false
    | some commitSha =>
      if !(← placeBranch canonical branch commitSha token) then return false
      let merged ← mergeBranch canonical title branch message commitSha token
      let _ ← githubApiRequest (.deleteRef canonical branch) token
      return merged

def publishBlobs (source canonical : Repo) (certifiedSha : String) (roundId : Option String)
    (prNumber : Int) (sourceToken : Option String) (branchPrefix label : String)
    (blobs : List NewEntry) (push : Option String) : Talk Bool := do
  let mainRef ← githubApiRequest (.mainRef canonical) push
  let some mainBody := mainRef.value | return false
  let mainSha := stripped (mainBody.getD "")
  let mainCommit ← githubApiRequest (.commitTree canonical mainSha) push
  let some treeBody := mainCommit.value | return false
  let some preserved ← canonicalGithubEntries canonical (stripped (treeBody.getD "")) push
    | return false
  let some entries ← recreateBlobs source canonical sourceToken push blobs | return false
  let round := roundText roundId
  let message := s!"champion: {label} via PR #{prNumber} (round {round})\n\n"
    ++ s!"source: {source.owner}/{source.name}@{certifiedSha}\n"
  landTree canonical s!"champion: {label} round {round}"
    (publishBranch branchPrefix roundId certifiedSha) message mainSha (entries ++ preserved) push

variable (dep : Deployment)

def publishCertifiedTreeToCanonical (source : Repo) (certifiedSha : String) (roundId : Option String)
    (prNumber : Int) (sourceToken : Option String) (branchPrefix label : String) : Talk Bool := do
  let some canonical := dep.ownerRepo | return false
  if prNumber = 0 || dep.pushToken = "" then return false
  let some blobs ← privateTreeBlobs source certifiedSha sourceToken | return false
  publishBlobs source canonical certifiedSha roundId prNumber sourceToken branchPrefix label blobs
    (some dep.pushToken)

end

section

variable (dep : Deployment)

def publishedDirectly (roundId : Option String) (certifiedSha : String) : String :=
  let round := roundText roundId
  "### ⚠️ Certified tree published directly\n\n"
    ++ s!"- round: `{round}`\n- certified SHA: `{certifiedSha}`\n\n"
    ++ "This PR's head changed (or the PR was closed) AFTER the round was "
    ++ "certified, so the PR itself cannot be merged — only the certified SHA "
    ++ "is quorum-approved. The certified tree was published to canonical "
    ++ "`main` directly and the adoption proceeds; the post-certification "
    ++ "changes were NOT included. Submit them in a future round."

def publishCertifiedTreeDespitePr (repo : Repo) (prNumber : Int) (certifiedSha : String)
    (roundId attestConfirmed : Option String) : Talk MergeResult := do
  if certifiedSha = "" then return mergeRefused "no_certified_sha" "empty certified SHA"
  if !(← onchainCertBinds dep certifiedSha roundId attestConfirmed) then
    return mergeRefused "no_quorum_cert"
      "no on-chain quorum cert binds the certified SHA (drift-fallback publish)"
  if !(← publishCertifiedTreeToCanonical dep repo certifiedSha roundId prNumber none
      "certified-champion" "certified submission (PR drifted/closed post-certification)") then
    return mergeRefused "publish_failed" "certified-tree publish to canonical failed"
  let _ ← commentOnPr dep prNumber (publishedDirectly roundId certifiedSha)
  let _ ← closePr dep prNumber
  return { ok := true }

def squashMerge (repo : Repo) (prNumber : Int) (liveHead : String)
    (roundId attestConfirmed : Option String) : Talk MergeResult := do
  if ← prTouchesCi repo prNumber then
    return mergeRefused "ci_disarm" "PR diff touches .github/**"
  if !(← onchainCertBinds dep liveHead roundId attestConfirmed) then
    return mergeRefused "no_quorum_cert" "no on-chain quorum cert binds the certified head SHA"
  let reply ← githubApiRequest (.mergePull repo prNumber liveHead)
  if reply.status = 200 then return { ok := true }
  return mergeRefused "merge_http_error" s!"GitHub squash-merge HTTP {reply.status}"

def liveHeadOf (resolved : Option String) : String :=
  match resolved with
  | none => ""
  | some headSha => dep.normalised headSha

def mergeMinerPrWhenCertified (prNumber : Int) (expectedHeadSha : String)
    (roundId attestConfirmed : Option String) : Talk MergeResult := do
  let some repo := dep.ownerRepo | return mergeRefused "no_pr_number" "no owner/repo or pr_number"
  if prNumber = 0 then return mergeRefused "no_pr_number" "no owner/repo or pr_number"
  let certified := dep.normalised expectedHeadSha
  let liveHead := liveHeadOf dep (← resolvePr dep prNumber)
  if liveHead = "" && certified = "" then
    return mergeRefused "pr_unresolvable" "PR has no resolvable head SHA"
  if certified ≠ "" && liveHead ≠ certified then
    publishCertifiedTreeDespitePr dep repo prNumber certified roundId attestConfirmed
  else squashMerge dep repo prNumber liveHead roundId attestConfirmed

def publishPrivateChampionWhenCertified (prNumber : Int) (expectedHeadSha : String)
    (roundId : Option String) (privateRepo repoToken : String) (attestConfirmed : Option String) :
    Talk MergeResult := do
  if dep.ownerRepo.isNone || prNumber = 0 then
    return mergeRefused "no_pr_number" "no canonical owner/repo or pr_number"
  let some source := splitRepo privateRepo
    | return mergeRefused "malformed_repo" "malformed private_repo"
  let certified := dep.normalised expectedHeadSha
  let liveHead := liveHeadOf dep (← resolvePr dep prNumber source repoToken)
  let target := orText (some certified) liveHead
  if target = "" then
    return mergeRefused "pr_unresolvable" "no certified or resolvable head SHA"
  if !(← onchainCertBinds dep target roundId attestConfirmed) then
    return mergeRefused "no_quorum_cert" "no on-chain quorum cert binds the private head SHA"
  if !(← publishCertifiedTreeToCanonical dep source target roundId prNumber repoToken
      "private-champion" "private submission") then
    return mergeRefused "publish_failed" "private certified-tree publish failed"
  return { ok := true }

end

section

variable (dep : Deployment)

def staleNotice (championLabel : String) : String :=
  "### Closed — a new champion was elected\n\n"
    ++ s!"`main` has advanced to {championLabel}, so this PR's base is now stale: "
    ++ "it replaces `solver.py` from an older `main` and will conflict — it can no "
    ++ "longer be merged or adopted, even if it wins a benchmark.\n\n"
    ++ "**Rebase your fork onto the latest `main` and resubmit** to compete "
    ++ "against the new champion."

def isStale (repo : Repo) (winner : Int) (pull : OpenPull) : Option Int :=
  match pull.number with
  | none => none
  | some number =>
    let headOwner := pull.headOwner.getD ""
    if number = 0 || number = winner || headOwner = ""
        || dep.host.lower headOwner = dep.host.lower repo.owner then none
    else some number

def closeEach (notice : String) : List Int → Talk Unit
  | [] => return ()
  | number :: rest => do
      let _ ← commentOnPr dep number notice
      let _ ← closePr dep number
      closeEach notice rest

def closeStaleSubmissionPrs (winner : Int) : Talk Unit := do
  let some repo := dep.ownerRepo | return ()
  let reply ← githubApiRequest (.openPulls repo)
  match reply.body with
  | none => return ()
  | some pulls =>
    if reply.status ≠ 200 then return ()
    closeEach dep (staleNotice s!"PR #{winner}") (pulls.filterMap (isStale dep repo winner))

def canonicalMainHeadSha : Talk String := do
  let some repo := dep.ownerRepo | return ""
  let reply ← githubApiRequest (.mainRef repo) (orNone (some dep.pushToken))
  return stripped ((reply.value.getD none).getD "")

/-- A re-drive: the certificate of an earlier finalization is already on the chain. -/
def attestAlreadyOnchain (commitHash : String) (roundId : Option String) : Talk Bool := do
  onchainCertBinds dep (← attestedCommit dep commitHash) roundId

/-- The attest with its three attempts, and whether the cert was already on the chain. -/
def attestPhase (certificate : Option ChampionCertificate) (commitHash : String)
    (roundId : Option String) : Talk (Option String × Bool) := do
  match certificate with
  | none => return (none, false)
  | some cert =>
    match ← attestAttempts dep cert commitHash 3 with
    | some tx => return (some tx, false)
    | none => return (none, ← attestAlreadyOnchain dep commitHash roundId)

def attestReason (certificate : Option ChampionCertificate) (tx : Option String)
    (already : Bool) : String :=
  if certificate.isNone then "no_certificate"
  else if tx.isNone && !already then "attest_failed"
  else ""

def commentTarget (sub : Candidate) : Option Repo × Option String :=
  match if sub.isPrivate then splitRepo (sub.privateRepo.getD "") else none, orNone sub.repoToken with
  | some repo, some token => (some repo, some token)
  | _, _ => (none, none)

def adoptedNotice (sub : Candidate) (roundId tx : Option String) : String :=
  let round := roundText roundId
  let id := sub.submissionId
  let attest := tx.getD "pending"
  "### ✅ Adopted as champion\n\n"
    ++ s!"- round: `{round}`\n- submission: `{id}`\n"
    ++ s!"- on-chain attest tx: `{attest}`\n\n"
    ++ "The leader will publish to canonical main after its own on-chain cert re-verification."

def mergePhase (sub : Candidate) (prNumber : Int) (roundId : Option String)
    (attestConfirmed : Option String) : Talk MergeResult :=
  if sub.isPrivate then
    publishPrivateChampionWhenCertified dep prNumber sub.commitHash roundId
      (sub.privateRepo.getD "") (sub.repoToken.getD "") attestConfirmed
  else mergeMinerPrWhenCertified dep prNumber sub.commitHash roundId attestConfirmed

def missingToken (sub : Candidate) : Bool :=
  sub.isPrivate && ((orNone sub.privateRepo).isNone || (orNone sub.repoToken).isNone)

def adoptionResult (reason : String) (attested : Bool) (merged : MergeResult) : Talk MergeResult := do
  if attested && merged.ok then
    return { ok := true, mainSha := ← canonicalMainHeadSha dep }
  if reason ≠ "" then
    return ⟨false, reason, "attest", "on-chain attestation was skipped or failed", ""⟩
  if !merged.ok then return merged
  return mergeRefused "adopt_failed" ""

def onChampionAdoptedPr (sub : Candidate) (roundId : Option String)
    (certificate : Option ChampionCertificate) : Talk MergeResult := do
  let commitHash := sub.commitHash
  if commitHash = "" || commitHash = "builtin" then
    return ⟨false, "non_git_submission", "attest", "non-git submission (nothing to attest/merge)", ""⟩
  let (tx, already) ← attestPhase dep certificate commitHash roundId
  let reason := attestReason certificate tx already
  let prNumber := sub.prNumber.getD 0
  if prNumber = 0 then
    return ⟨false, orText (some reason) "no_pr_number", if reason ≠ "" then "attest" else "merge",
      "no PR to merge", ""⟩
  let (commentRepo, commentToken) := commentTarget sub
  let _ ← commentOnPr dep prNumber (adoptedNotice sub roundId tx) commentRepo commentToken
  if missingToken sub then
    return mergeRefused "private_missing_token" "private submission missing repo/token"
  let attestConfirmed := tx.map fun _ => commitHash
  let merged ← mergePhase dep sub prNumber roundId attestConfirmed
  if merged.ok then closeStaleSubmissionPrs dep prNumber
  adoptionResult dep reason (tx.isSome || already) merged

end

end MinotaurSubnet.Relayer.SolverRepo
