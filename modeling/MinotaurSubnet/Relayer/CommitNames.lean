import MinotaurSubnet.Relayer.MergeVerdict

/-! # Commit hashes that name no commit

`on_champion_adopted_pr` compares commit hashes as bytes, asks GitHub for them as names and merges
them as SHAs. These agree on the hashes that spell a full SHA: a shorter one is certified under the
SHA it was looked up to, trusted as it is spelled, and published as whatever it resolves to.
-/

namespace MinotaurSubnet.Relayer.SolverRepo

open Library Python Consensus Dialogue

section

/-- GitHub while a tree is published: whatever the source name stands for is `landed`, and no
    request for a full SHA or for a pull request's files is answered. -/
def publishing (landed : String) : (call : GithubCall) → Reply call
  | .pullFiles .. => ⟨404, none⟩
  | .tree _ name =>
    if isFullSha name then ⟨404, none⟩
    else ⟨200, some ⟨landed, false, [⟨"solver.py", "100644", "blob", "b"⟩]⟩⟩
  | .mainRef _ => ⟨200, some (some "main")⟩
  | .commitTree .. => ⟨200, some (some "tree")⟩
  | .blob _ sha => if sha = "b" then ⟨200, some ⟨some "", some "base64"⟩⟩ else ⟨404, none⟩
  | .createBlob .. => ⟨201, some (some "b")⟩
  | .createTree .. => ⟨201, some (some "t")⟩
  | .createCommit .. => ⟨201, some (some "c")⟩
  | .openPull .. => ⟨201, some (some 7)⟩
  | .openPulls .. => ⟨404, none⟩
  | .mergePull .. | .createRef .. | .forceRef .. | .deleteRef .. | .comment .. | .closePull .. =>
    ⟨200, some ()⟩

theorem publishing_status (landed : String) (call : GithubCall) :
    retryStatuses.contains (publishing landed call).status = false := by
  cases call with
  | tree repo name => by_cases full : isFullSha name = true <;> simp [publishing, full, retryStatuses]
  | blob repo sha => by_cases known : sha = "b" <;> simp [publishing, known, retryStatuses]
  | _ => rfl

theorem honest_publishing {landed} (call : GithubCall) (token : Option String) :
    Honest (fun _ _ => "b") (.http call token) (publishing landed call) := by
  cases call with
  | tree repo name =>
    intro body value full
    simp [publishing, full, Reply.value, Reply.ok] at value
  | blob repo sha =>
    intro body value
    by_cases known : sha = "b"
    · exact known.symm
    · simp [publishing, known, Reply.value, Reply.ok] at value
  | createBlob repo content encoding =>
    intro sha value
    simpa [publishing, Reply.value, Reply.ok, eq_comm] using value
  | _ => trivial

variable {world : (q : Question) → q.Answer} {landed : String}

theorem replies_http (call : GithubCall) (token : Option String) :
    replies world (http call token) = world (.http call token) := rfl

theorem replies_githubApiRequest
    (github : ∀ call token, world (.http call token) = publishing landed call) (call : GithubCall)
    (token : Option String) : replies world (githubApiRequest call token) = publishing landed call := by
  show replies world (http call token >>= fun reply =>
    if retryStatuses.contains reply.status then githubAttempts call token 2 else pure reply) = _
  rw [replies_bind, replies_http, github call token, publishing_status]
  rfl

theorem replies_publish {dep source canonical name roundId token number branchPrefix label}
    (github : ∀ call token, world (.http call token) = publishing landed call)
    (repo : dep.ownerRepo = some canonical) (push : dep.pushToken ≠ "") (nonzero : number ≠ 0)
    (short : isFullSha name = false) :
    replies world (publishCertifiedTreeToCanonical dep source name roundId number token branchPrefix
      label) = true := by
  have tree : isFullSha (stripped "tree") = false := by decide
  have entries : solverEntries [⟨"solver.py", "100644", "blob", "b"⟩] =
      [⟨"solver.py", "100644", "b"⟩] := by decide
  simp [publishCertifiedTreeToCanonical, repo, push, nonzero, privateTreeBlobs, publishBlobs,
    replies_githubApiRequest github, publishing, short, Reply.value, Reply.ok, entries, tree,
    canonicalGithubEntries, recreateBlobs, recreateBlob, landTree, placeBranch, mergeBranch, orNone]

theorem replies_resolvePr {dep number repo token}
    (unanswered : ∀ repo number token, world (.pull repo number token) = none) :
    replies world (resolvePr dep number repo token) = none := by
  have missing : replies world (fetchPr (repo.getD dep.canonicalSolverRepo) number token) = none :=
    unanswered _ _ _
  simp only [resolvePr, replies_bind, missing, replies_pure]

/-- A finalization that ends ok although nothing certifies the commit whose tree is published. -/
theorem not_sound_of_replies {dep p}
    (github : ∀ call token, world (.http call token) = publishing landed call)
    (ok : (replies world p).ok = true)
    (uncertified : ¬ Certified (transcript world p) (dep.bytes32 landed)) :
    ¬ Sound dep (transcript world p) (replies world p) := by
  intro sound
  obtain ⟨repo, number, commit, token, reply, merged, -⟩ := sound.landed ok
  obtain ⟨before, after, split⟩ := List.append_of_mem merged
  have within : before <+: transcript world p := ⟨_, split.symm⟩
  have answered {call : GithubCall} {token : Option String} {reply : Reply call}
      (heard : Heard before (.http call token) reply) : reply = publishing landed call := by
    rw [← github call token]
    exact answer_of_mem_transcript (heard.mono within)
  obtain ⟨sha, certified, carried⟩ := sound.guarded before _ after split
  rcases carried with ⟨-, token, reply, files, heard, status, -⟩ | rebuilt
  · rw [answered heard] at status
    cases status
  · obtain ⟨entries, -, -, -, -, -, -, -, -, -, read, -⟩ := rebuilt
    obtain ⟨repo, name, token, reply, body, heard, value, rfl, -⟩ := read
    rw [answered heard] at value
    have published : body.object = landed := by
      by_cases full : isFullSha name = true
      · simp [publishing, Reply.value, Reply.ok, full] at value
      · simp only [publishing, Reply.value, Reply.ok, full] at value
        cases value
        rfl
    rw [published] at certified
    exact uncertified (certified.mono within)

/-- A relayer without a key of its own, on a configured registry and repository. -/
def keyless (host : Host) : Deployment where
  host := host
  env := fun
    | "SOLVER_REPO_URL" => some "https://github.com/o/r"
    | "SOLVER_REPO_TOKEN" => some "token"
    | "CHAMPION_REGISTRY_964" => some "registry"
    | "BITTENSOR_EVM_RPC_URL" => some "node"
    | _ => none

def wandering (latest ofRound : List UInt8) (landed : String) : (q : Question) → q.Answer
  | .http call _ => publishing landed call
  | .registry => true
  | .quorumRequired => some 1
  | .latestChampion => some (some ⟨latest, 1, true⟩)
  | .champion _ => some (some ⟨ofRound, 1, true⟩)
  | .attestRegistry => false
  | .commitLookup .. => none
  | .pull .. => none
  | .transactionCount => none
  | .sendCertify .. => none
  | .receipt _ => none

theorem keyless_configured (host : Host) : (keyless host).ownerRepo = some ⟨"o", "r"⟩ ∧
    (keyless host).registryConfigured = true ∧ (keyless host).envText "RELAYER_PRIVATE_KEY" = "" ∧
      (keyless host).pushToken ≠ "" := by
  have known : (keyless spellingHost).ownerRepo = some ⟨"o", "r"⟩ ∧
      (keyless spellingHost).registryConfigured = true ∧
        (keyless spellingHost).envText "RELAYER_PRIVATE_KEY" = "" ∧
          (keyless spellingHost).pushToken ≠ "" := by decide +kernel
  exact known

theorem replies_certBinds {host : Host} {latest ofRound : List UInt8} {landed headSha : String}
    (bound : latest = (keyless host).bytes32 ((keyless host).normalised headSha) ∨
      ofRound = (keyless host).bytes32 ((keyless host).normalised headSha)) :
    replies (wandering latest ofRound landed)
      (onchainCertBinds (keyless host) headSha (some "round") none) = true := by
  have configured := (keyless_configured host).2.1
  have once : replies (wandering latest ofRound landed) (certReadOnce (keyless host)
      ((keyless host).bytes32 ((keyless host).normalised headSha)) (some "round")) = some true := by
    by_cases first : latest = (keyless host).bytes32 ((keyless host).normalised headSha)
    · simp [certReadOnce, readChampionRegistry, getQuorumRequired, getLatestChampion, wandering, binds,
        first]
    · have second := bound.resolve_left first
      simp [certReadOnce, readChampionRegistry, getQuorumRequired, getLatestChampion, getChampion,
        wandering, binds, first, second, orNone]
  have attempts : (max 1 (keyless host).certReadAttempts).toNat = 3 + 1 := rfl
  simp [onchainCertBinds, receiptTrusted, orNone, configured, attempts, certReadAttempts, once]

def publicCandidate (commitHash : String) : Candidate where
  submissionId := "submission"
  commitHash := commitHash
  prNumber := some 1

/-- The registry binds the text of the hash, in either spelling the gate computes from it. -/
def drifting (host : Host) (commitHash landed : String) : (q : Question) → q.Answer :=
  wandering ((keyless host).bytes32 ((keyless host).normalised commitHash))
    ((keyless host).bytes32 ((keyless host).normalised ((keyless host).normalised commitHash))) landed

section

variable {host : Host} {commitHash landed : String}

theorem replies_attestPhase (certificate : ChampionCertificate) :
    replies (drifting host commitHash landed)
      (attestPhase (keyless host) (some certificate) commitHash (some "round")) = (none, true) := by
  obtain ⟨repo, configured, noKey, -⟩ := keyless_configured host
  have unattested : replies (drifting host commitHash landed)
      (attestChampionOnChain (keyless host) certificate commitHash) = none := by
    simp [attestChampionOnChain, configured, noKey]
  have kept : replies (drifting host commitHash landed) (attestedCommit (keyless host) commitHash)
      = commitHash := by
    by_cases short : commitHash.length < 40
    · simp [attestedCommit, short, resolveFullSha, repo, commitLookup, drifting, wandering, orText]
    · simp [attestedCommit, short]
  have bound : replies (drifting host commitHash landed)
      (onchainCertBinds (keyless host) commitHash (some "round") none) = true :=
    replies_certBinds (Or.inl rfl)
  simp [attestPhase, attestAttempts, unattested, attestAlreadyOnchain, kept, bound]

theorem replies_mergePhase (laws : HostLaws host) (nonblank : stripped commitHash ≠ "")
    (short : isFullSha ((keyless host).normalised commitHash) = false) :
    (replies (drifting host commitHash landed) (mergePhase (keyless host) (publicCandidate commitHash) 1
      (some "round") none)).ok = true := by
  obtain ⟨repo, -, -, push⟩ := keyless_configured host
  have named : (keyless host).normalised commitHash ≠ "" := by
    show host.lower (stripped commitHash) ≠ ""
    rwa [ne_eq, laws.lower_eq_empty]
  have unresolved : replies (drifting host commitHash landed) (resolvePr (keyless host) 1) = none :=
    replies_resolvePr fun _ _ _ => rfl
  have github (call : GithubCall) (token : Option String) :
      drifting host commitHash landed (.http call token) = publishing landed call := rfl
  have bound : replies (drifting host commitHash landed) (onchainCertBinds (keyless host)
      ((keyless host).normalised commitHash) (some "round") none) = true :=
    replies_certBinds (Or.inr rfl)
  have published : replies (drifting host commitHash landed) (publishCertifiedTreeToCanonical
      (keyless host) ⟨"o", "r"⟩ ((keyless host).normalised commitHash) (some "round") 1 none
      "certified-champion" "certified submission (PR drifted/closed post-certification)") = true :=
    replies_publish github repo push (by decide) short
  simp [mergePhase, publicCandidate, mergeMinerPrWhenCertified, repo, unresolved, liveHeadOf, named,
    named.symm, publishCertifiedTreeDespitePr, bound, published]

theorem replies_drifting (laws : HostLaws host) (unnamed : ¬ NamesOneCommit host commitHash) :
    (replies (drifting host commitHash landed) (onChampionAdoptedPr (keyless host)
      (publicCandidate commitHash) (some "round") (some { roundId := "round" }))).ok = true := by
  obtain ⟨short, nonblank, notBuiltin⟩ := by
    simpa only [NamesOneCommit, not_or] using unnamed
  have nonempty : commitHash ≠ "" := by
    rintro rfl
    exact nonblank rfl
  have merged : (replies (drifting host commitHash landed) (mergePhase (keyless host)
      (publicCandidate commitHash) 1 (some "round") none)).ok = true :=
    replies_mergePhase laws nonblank (Bool.eq_false_iff.mpr short)
  have attested : replies (drifting host commitHash landed) (attestPhase (keyless host)
      (some { roundId := "round" }) commitHash (some "round")) = (none, true) := replies_attestPhase _
  have hash : (publicCandidate commitHash).commitHash = commitHash := rfl
  have number : (publicCandidate commitHash).prNumber.getD 0 = 1 := rfl
  have token : missingToken (publicCandidate commitHash) = false := rfl
  simp [onChampionAdoptedPr, hash, number, token, attested, nonempty, notBuiltin, merged,
    adoptionResult]

theorem honest_drifting (q : Question) :
    Honest (fun _ _ => "b") q (drifting host commitHash landed q) := by
  cases q with
  | http call token => exact honest_publishing call token
  | _ => trivial

theorem uncertified_drifting {p : Talk MergeResult}
    (apart : (keyless host).bytes32 landed ≠
      (keyless host).bytes32 ((keyless host).normalised commitHash))
    (apart' : (keyless host).bytes32 landed ≠
      (keyless host).bytes32 ((keyless host).normalised ((keyless host).normalised commitHash))) :
    ¬ Certified (transcript (drifting host commitHash landed) p) ((keyless host).bytes32 landed) := by
  rintro (⟨call, nonce, tx, -, mined, -⟩ | ⟨quorum, record, -, -, read, -, same, -⟩)
  · cases answer_of_mem_transcript mined
  · rcases read with latest | ⟨round, ofRound⟩
    · cases answer_of_mem_transcript latest
      exact apart same.symm
    · cases answer_of_mem_transcript ofRound
      exact apart' same.symm

end

end

/-- Over every deployment, submission, certificate and sequence of answers, the finalization of a
    commit hash lands nothing but certified commits, and answers ok only when one landed, exactly when
    the hash names one commit. -/
theorem merge_gate_sound_iff {host : Host} (laws : HostLaws host) (commitHash : String) :
    (∀ (dep : Deployment) (sub : Candidate) (roundId : Option String)
      (certificate : Option ChampionCertificate) (blobSha : String → String → String) (said : Said)
      (result : MergeResult), dep.host = host → sub.commitHash = commitHash →
        (∀ e ∈ said, Honest blobSha e.1 e.2) →
        Runs (onChampionAdoptedPr dep sub roundId certificate) said result → Sound dep said result) ↔
      NamesOneCommit host commitHash := by
  constructor
  · intro sound
    by_contra unnamed
    obtain ⟨landed, full, apart, apart'⟩ := laws.keccak_spread
      ((keyless host).bytes32 ((keyless host).normalised commitHash))
      ((keyless host).bytes32 ((keyless host).normalised ((keyless host).normalised commitHash)))
    have word : (keyless host).bytes32 landed = host.keccak (utf8 landed) := bytes32_fullSha full
    have uncertified := uncertified_drifting (p := onChampionAdoptedPr (keyless host)
      (publicCandidate commitHash) (some "round") (some { roundId := "round" }))
      (word ▸ apart) (word ▸ apart')
    refine not_sound_of_replies (fun _ _ => rfl) (replies_drifting laws unnamed) uncertified ?_
    refine sound (keyless host) (publicCandidate commitHash) _ _ (fun _ _ => "b") _ _ rfl rfl ?_
      (runs_transcript _)
    intro e member
    rw [answer_of_mem_transcript member]
    exact honest_drifting e.1
  · rintro named dep sub roundId certificate blobSha said result rfl rfl honest run
    have keeps : Keeps dep blobSha (onChampionAdoptedPr dep sub roundId certificate) []
        fun later result => result.ok = true → Landed later := keeps_onChampionAdoptedPr laws named
    obtain ⟨landed, guarded⟩ := keeps.sound run honest
    exact ⟨landed, guarded⟩

section

def shaHost : Host := { spellingHost with keccak := fun bytes => 1 :: bytes }

def repeated (c : Char) : String := String.ofList (List.replicate 40 c)

theorem one_apart {α : Type} {a b c w w' : α} (ab : a ≠ b) (ac : a ≠ c) (bc : b ≠ c) :
    (a ≠ w ∧ a ≠ w') ∨ (b ≠ w ∧ b ≠ w') ∨ (c ≠ w ∧ c ≠ w') := by grind

theorem shaHost_laws : HostLaws shaHost where
  lower_sha := by
    intro sha full
    have plain : ∀ c ∈ "0123456789abcdef".toList, c.toLower = c := by simp
    have kept : sha.toList.map Char.toLower = sha.toList := by
      rw [List.map_congr_left fun c member => plain c ((isFullSha_iff.mp full).2 c member),
        List.map_id']
    show String.ofList (sha.toList.map Char.toLower) = sha
    rw [kept, String.ofList_toList]
  lower_eq_empty := by
    intro text
    show String.ofList (text.toList.map Char.toLower) = "" ↔ text = ""
    constructor
    · intro empty
      have spelled := congrArg String.toList empty
      rw [String.toList_ofList] at spelled
      exact String.toList_inj.mp (List.map_eq_nil_iff.mp spelled)
    · rintro rfl
      rfl
  length_of_lower := by
    intro text full
    have long := (isFullSha_iff.mp full).1
    simpa [shaHost, spellingHost] using long
  keccak_ne_zero := by
    intro sha _ zero
    cases zero
  keccak_spread := by
    intro word word'
    have apart (c d : Char) (distinct : utf8 (repeated c) ≠ utf8 (repeated d)) :
        shaHost.keccak (utf8 (repeated c)) ≠ shaHost.keccak (utf8 (repeated d)) := fun same =>
      distinct (List.cons.inj same).2
    rcases one_apart (apart '0' '1' (by decide +kernel)) (apart '0' '2' (by decide +kernel))
      (apart '1' '2' (by decide +kernel)) with free | free | free
    · exact ⟨repeated '0', by decide, free⟩
    · exact ⟨repeated '1', by decide, free⟩
    · exact ⟨repeated '2', by decide, free⟩

def keyed : Deployment where
  host := shaHost
  env := fun
    | "SOLVER_REPO_URL" => some "https://github.com/o/r"
    | "SOLVER_REPO_TOKEN" => some "token"
    | "CHAMPION_REGISTRY_964" => some "registry"
    | "BITTENSOR_EVM_RPC_URL" => some "node"
    | "RELAYER_PRIVATE_KEY" => some "key"
    | _ => none

def certifiedSha : String := "abc1234000000000000000000000000000000000"

def swappedSha : String := "abc1234111111111111111111111111111111111"

/-- The canonical repository resolves the short hash to the certified commit, whose `certify()` is
    mined; the registry cannot be read. -/
def diverted : (q : Question) → q.Answer
  | .http call _ => publishing swappedSha call
  | .attestRegistry => true
  | .commitLookup .. => some certifiedSha
  | .transactionCount => some 0
  | .sendCertify call _ =>
    if call.commitHash = keyed.bytes32 certifiedSha then some "tx" else none
  | .receipt _ => some 1
  | .registry => false
  | .pull .. => none
  | .quorumRequired => none
  | .latestChampion => none
  | .champion _ => none

def signedCertificate : ChampionCertificate where
  roundId := "round"
  approvals := [{ validatorId := "0x1", roundId := "round", signature := "0x01" }]

def shortened : Candidate where
  submissionId := "submission"
  commitHash := "abc1234"
  prNumber := some 1
  isPrivate := true
  privateRepo := some "miner/private"
  repoToken := some "pat"

def finalizing : Talk MergeResult :=
  onChampionAdoptedPr keyed shortened (some "round") (some signedCertificate)

/-- The receipt for the certified commit lets the miner's other commit through. -/
theorem short_hash_lands_swapped_tree :
    (replies diverted finalizing).ok = true ∧
      (∀ e ∈ transcript diverted finalizing, Honest (fun _ _ => "b") e.1 e.2) ∧
      Runs finalizing (transcript diverted finalizing) (replies diverted finalizing) ∧
      HostLaws keyed.host ∧
      ¬ Sound keyed (transcript diverted finalizing) (replies diverted finalizing) := by
  have ok : (replies diverted finalizing).ok = true := by decide +kernel
  refine ⟨ok, ?_, runs_transcript _, shaHost_laws, not_sound_of_replies (fun _ _ => rfl) ok ?_⟩
  · intro e member
    rw [answer_of_mem_transcript member]
    cases e.1 with
    | http call token => exact honest_publishing call token
    | _ => trivial
  · rintro (⟨call, nonce, tx, sent, -, same⟩ | ⟨quorum, -, -, required, -⟩)
    · have mined := answer_of_mem_transcript sent
      simp only [diverted] at mined
      split at mined
      · next certified =>
          rw [same] at certified
          exact absurd certified (by decide +kernel)
      · cases mined
    · cases answer_of_mem_transcript required

def merging : (call : GithubCall) → Reply call
  | .pullFiles .. => ⟨200, some [some "solver.py"]⟩
  | .mainRef _ => ⟨200, some (some "main")⟩
  | .mergePull .. => ⟨200, some ()⟩
  | _ => ⟨404, none⟩

def confirming : (q : Question) → q.Answer
  | .http call _ => merging call
  | .attestRegistry => true
  | .transactionCount => some 0
  | .sendCertify .. => some "tx"
  | .receipt _ => some 1
  | .pull .. =>
    some ⟨some "open", some "o/r", some certifiedSha, some "https://github.com/miner/solver.git"⟩
  | .registry => false
  | .commitLookup .. => none
  | .quorumRequired => none
  | .latestChampion => none
  | .champion _ => none

def squashing : Talk MergeResult :=
  onChampionAdoptedPr keyed (publicCandidate certifiedSha) (some "round") (some signedCertificate)

theorem full_sha_finalized :
    (replies confirming squashing).ok = true ∧
      Sound keyed (transcript confirming squashing) (replies confirming squashing) := by
  refine ⟨by decide +kernel, ?_⟩
  refine (merge_gate_sound_iff shaHost_laws certifiedSha).mpr (.inl (by decide +kernel)) keyed
    (publicCandidate certifiedSha) (some "round") (some signedCertificate) (fun _ _ => "b") _ _ rfl rfl
    ?_ (runs_transcript _)
  intro e member
  rw [answer_of_mem_transcript member]
  cases e.1 with
  | http call token =>
    cases call with
    | tree repo name => exact fun body value => nomatch value
    | blob repo sha => exact fun body value => nomatch value
    | createBlob repo content encoding => exact fun sha value => nomatch value
    | _ => trivial
  | _ => trivial

end

end MinotaurSubnet.Relayer.SolverRepo
