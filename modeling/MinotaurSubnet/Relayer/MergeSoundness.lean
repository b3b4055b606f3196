import MinotaurSubnet.Relayer.MergeGate

/-! # What the merge gate lands

A run of the finalization is the list of what it asked and was answered. `Certified` reads off
such a list which commit words were certified, `Rebuilt` which commit a published tree is that of,
and `MergeGuard` says of every call that writes canonical `main` what has to stand before it.
-/

namespace MinotaurSubnet.Relayer.SolverRepo

open Library Python Consensus Dialogue

section

def Heard (said : Said) (q : Question) (answer : q.Answer) : Prop :=
  (⟨q, answer⟩ : Exchange Question.Answer) ∈ said

/-- A `certify()` receipt with status 1 for the word. -/
def Receipt (said : Said) (word : List UInt8) : Prop :=
  ∃ call nonce tx, Heard said (.sendCertify call nonce) (some tx) ∧
    Heard said (.receipt tx) (some 1) ∧ call.commitHash = word

def Registered (said : Said) (word : List UInt8) : Prop :=
  ∃ quorum record, 1 ≤ quorum ∧ Heard said .quorumRequired (some quorum) ∧
    (Heard said .latestChampion (some (some record)) ∨
      ∃ round, Heard said (.champion round) (some (some record))) ∧
    record.present = true ∧ record.commitHash = word ∧ quorum ≤ record.approvalCount

def Certified (said : Said) (word : List UInt8) : Prop := Receipt said word ∨ Registered said word

def outsideGithub (entry : NewEntry) : Bool := !(".github/".toList.isPrefixOf entry.path.toList)

/-- The tree of the commit `sha` was read, and these are its blobs outside `.github/`. -/
def SourceRead (said : Said) (sha : String) (entries : List NewEntry) : Prop :=
  ∃ repo name token reply body, Heard said (.http (.tree repo name) token) reply ∧
    reply.value = some body ∧ body.object = sha ∧ entries = solverEntries body.tree

/-- `commit` was created with a tree that is the one of `sha` outside `.github/`. -/
def Rebuilt (said : Said) (commit sha : String) : Prop :=
  ∃ entries repo posted treeToken treeReply tree message parent token reply,
    SourceRead said sha entries ∧
      Heard said (.http (.createTree repo posted) treeToken) treeReply ∧
      treeReply.value = some (some tree) ∧ posted.filter outsideGithub = entries ∧
      Heard said (.http (.createCommit repo message tree parent) token) reply ∧
      reply.value = some (some commit)

/-- The pull request's files were read and none is under `.github/`. -/
def CiClean (said : Said) (repo : Repo) (number : Int) : Prop :=
  ∃ token reply files, Heard said (.http (.pullFiles repo number) token) reply ∧
    reply.status = 200 ∧ reply.body = some files ∧
    (files.any fun file => ".github/".toList.isPrefixOf (file.getD "").toList) = false

/-- What stands before a call that merges or publishes. -/
def MergeGuard (dep : Deployment) (said : Said) : Question → Prop
  | .http (.mergePull repo number commit) _ =>
    ∃ sha, Certified said (dep.bytes32 sha) ∧
      (commit = sha ∧ CiClean said repo number ∨ Rebuilt said commit sha)
  | .http (.createBlob ..) _ | .http (.createTree ..) _ | .http (.createCommit ..) _
  | .http (.createRef ..) _ | .http (.forceRef ..) _ | .http (.openPull ..) _ =>
    ∃ sha entries, SourceRead said sha entries ∧ Certified said (dep.bytes32 sha)
  | _ => True

def Landed (said : Said) : Prop :=
  ∃ repo number commit token reply,
    Heard said (.http (.mergePull repo number commit) token) reply ∧ reply.ok = true

/-- An ok verdict comes with a merge, and every merge or publish call came after its checks. -/
structure Sound (dep : Deployment) (said : Said) (result : MergeResult) : Prop where
  landed : result.ok = true → Landed said
  guarded : Follows (fun before e => MergeGuard dep before e.1) said

def Honest (blobSha : String → String → String) : (q : Question) → q.Answer → Prop
  | .http (.tree _ name) _, reply =>
    ∀ body : TreeBody, Reply.value reply = some body → isFullSha name = true → body.object = name
  | .http (.blob _ sha) _, reply =>
    ∀ body : BlobBody, Reply.value reply = some body →
      blobSha (body.content.getD "") (body.encoding.getD "base64") = sha
  | .http (.createBlob _ content encoding) _, reply =>
    ∀ sha : String, Reply.value reply = some (some sha) → sha = blobSha content encoding
  | _, _ => True

end

section

variable {dep : Deployment} {past later : Said}

theorem Heard.mono {q answer} (grown : past <+: later) (heard : Heard past q answer) :
    Heard later q answer := grown.subset heard

theorem heard_last {q answer} : Heard (past ++ [⟨q, answer⟩]) q answer := by
  simp [Heard]

theorem Certified.mono {word} (grown : past <+: later) (certified : Certified past word) :
    Certified later word := by
  rcases certified with receipt | registered
  · obtain ⟨call, nonce, tx, sent, mined, same⟩ := receipt
    exact .inl ⟨call, nonce, tx, sent.mono grown, mined.mono grown, same⟩
  · obtain ⟨quorum, record, positive, required, read, record⟩ := registered
    refine .inr ⟨quorum, _, positive, required.mono grown, ?_, record⟩
    exact read.imp (·.mono grown) fun ⟨round, heard⟩ => ⟨round, heard.mono grown⟩

theorem SourceRead.mono {sha entries} (grown : past <+: later)
    (read : SourceRead past sha entries) : SourceRead later sha entries := by
  obtain ⟨repo, name, token, reply, body, heard, rest⟩ := read
  exact ⟨repo, name, token, reply, body, heard.mono grown, rest⟩

theorem Rebuilt.mono {commit sha} (grown : past <+: later) (rebuilt : Rebuilt past commit sha) :
    Rebuilt later commit sha := by
  obtain ⟨entries, repo, posted, treeToken, treeReply, tree, message, parent, token, reply, read,
    treeMade, treeValue, same, commitMade, commitValue⟩ := rebuilt
  exact ⟨entries, repo, posted, treeToken, treeReply, tree, message, parent, token, reply,
    read.mono grown, treeMade.mono grown, treeValue, same, commitMade.mono grown, commitValue⟩

theorem CiClean.mono {repo number} (grown : past <+: later) (clean : CiClean past repo number) :
    CiClean later repo number := by
  obtain ⟨token, reply, files, heard, rest⟩ := clean
  exact ⟨token, reply, files, heard.mono grown, rest⟩

theorem Landed.mono (grown : past <+: later) (landed : Landed past) : Landed later := by
  obtain ⟨repo, number, commit, token, reply, heard, ok⟩ := landed
  exact ⟨repo, number, commit, token, reply, heard.mono grown, ok⟩

theorem MergeGuard.mono {q} (grown : past <+: later) (allowed : MergeGuard dep past q) :
    MergeGuard dep later q := by
  have published (allowed : ∃ sha entries, SourceRead past sha entries ∧
      Certified past (dep.bytes32 sha)) : ∃ sha entries, SourceRead later sha entries ∧
      Certified later (dep.bytes32 sha) := by
    obtain ⟨sha, entries, read, certified⟩ := allowed
    exact ⟨sha, entries, read.mono grown, certified.mono grown⟩
  cases q with
  | http call token =>
    cases call with
    | mergePull repo number commit =>
      obtain ⟨sha, certified, carried⟩ := allowed
      refine ⟨sha, certified.mono grown, ?_⟩
      exact carried.imp (fun squash => ⟨squash.1, squash.2.mono grown⟩) (·.mono grown)
    | createBlob => exact published allowed
    | createTree => exact published allowed
    | createCommit => exact published allowed
    | createRef => exact published allowed
    | forceRef => exact published allowed
    | openPull => exact published allowed
    | _ => trivial
  | _ => trivial

end

section

variable {dep : Deployment} {blobSha : String → String → String} {past : Said}

abbrev Keeps {α : Type} (dep : Deployment) (blobSha : String → String → String) (p : Talk α)
    (past : Said) (post : Said → α → Prop) : Prop :=
  Holds (MergeGuard dep) (Honest blobSha) p past post

variable {token : Option String} {entries : List NewEntry}

theorem keeps_githubApiRequest {call} (allowed : MergeGuard dep past (.http call token)) :
    Keeps dep blobSha (githubApiRequest call token) past fun later reply =>
      Heard later (.http call token) reply ∧ Honest blobSha (.http call token) reply := by
  have attempts (left : Nat) : ∀ past, MergeGuard dep past (.http call token) →
      Keeps dep blobSha (githubAttempts call token left) past fun later reply =>
        Heard later (.http call token) reply ∧ Honest blobSha (.http call token) reply := by
    induction left with
    | zero =>
      intro past allowed
      exact holds_put.mpr ⟨allowed, fun reply honest => ⟨heard_last, honest⟩⟩
    | succ left ih =>
      intro past allowed
      refine holds_bind.mpr (holds_put.mpr ⟨allowed, fun reply honest => ?_⟩)
      split
      · exact ih _ (allowed.mono (List.prefix_append _ _))
      · exact holds_pure.mpr ⟨heard_last, honest⟩
  exact attempts 3 past allowed

theorem keeps_resolveFullSha (short : String) :
    Keeps dep blobSha (resolveFullSha dep short) past fun _ _ => True := by
  unfold resolveFullSha
  split
  · exact holds_pure.mpr trivial
  · exact holds_put.mpr ⟨trivial, fun _ _ => trivial⟩

theorem keeps_commentOnPr (number : Int) (body : String) (repo : Option Repo) (token : Option String) :
    Keeps dep blobSha (commentOnPr dep number body repo token) past fun _ _ => True := by
  unfold commentOnPr
  split
  · exact holds_pure.mpr trivial
  · split
    · exact holds_pure.mpr trivial
    · exact Holds.seq (keeps_githubApiRequest trivial) fun _ _ _ _ => holds_pure.mpr trivial

theorem keeps_closePr (number : Int) :
    Keeps dep blobSha (closePr dep number) past fun _ _ => True := by
  unfold closePr
  split
  · exact holds_pure.mpr trivial
  · split
    · exact holds_pure.mpr trivial
    · exact Holds.seq (keeps_githubApiRequest trivial) fun _ _ _ _ => holds_pure.mpr trivial

theorem keeps_closeEach (notice : String) (numbers : List Int) :
    Keeps dep blobSha (closeEach dep notice numbers) past fun _ _ => True := by
  induction numbers generalizing past with
  | nil =>
    rw [closeEach]
    exact holds_pure.mpr trivial
  | cons number rest ih =>
    rw [closeEach]
    refine Holds.seq (keeps_commentOnPr number notice none none) fun _ _ _ _ => ?_
    exact Holds.seq (keeps_closePr number) fun _ _ _ _ => ih

theorem keeps_closeStaleSubmissionPrs (winner : Int) :
    Keeps dep blobSha (closeStaleSubmissionPrs dep winner) past fun _ _ => True := by
  unfold closeStaleSubmissionPrs
  split
  · refine Holds.seq (keeps_githubApiRequest trivial) fun _ reply _ _ => ?_
    split
    · exact holds_pure.mpr trivial
    · split
      · exact holds_pure.mpr trivial
      · exact keeps_closeEach _ _
  · exact holds_pure.mpr trivial

theorem keeps_canonicalMainHeadSha :
    Keeps dep blobSha (canonicalMainHeadSha dep) past fun _ _ => True := by
  unfold canonicalMainHeadSha
  split
  · exact Holds.seq (keeps_githubApiRequest trivial) fun _ _ _ _ => holds_pure.mpr trivial
  · exact holds_pure.mpr trivial

theorem keeps_resolvePr (number : Int) (repo : Option Repo) (token : Option String) :
    Keeps dep blobSha (resolvePr dep number repo token) past fun _ resolved =>
      ∀ headSha, resolved = some headSha → isFullSha headSha = true := by
  unfold resolvePr
  refine holds_bind.mpr (holds_put.mpr ⟨trivial, fun data _ => ?_⟩)
  cases data with
  | none => exact holds_pure.mpr fun headSha found => nomatch found
  | some data =>
    dsimp only
    split
    · exact holds_pure.mpr fun headSha found => nomatch found
    · split
      · exact holds_pure.mpr fun headSha found => nomatch found
      · split
        · exact holds_pure.mpr fun headSha found => nomatch found
        · split
          · exact holds_pure.mpr fun headSha found => nomatch found
          · refine holds_pure.mpr fun headSha found => ?_
            cases found
            simp_all

theorem keeps_attestedCommit (commitHash : String) :
    Keeps dep blobSha (attestedCommit dep commitHash) past fun _ attested =>
      40 ≤ commitHash.length → attested = commitHash := by
  unfold attestedCommit
  split
  · next short =>
      refine Holds.seq (keeps_resolveFullSha commitHash) fun _ _ _ _ => ?_
      refine holds_pure.mpr ?_
      intro long
      omega
  · exact holds_pure.mpr fun _ => rfl

theorem commitHash_of_certifyCall {certificate word call}
    (built : certifyCall dep certificate word = some call) :
    call.commitHash = word := by
  simp only [certifyCall, Option.bind_eq_bind, Option.bind_eq_some_iff] at built
  obtain ⟨keyed, -, signatures, -, built⟩ := built
  split at built
  · cases built
  · split at built
    · cases built
      rfl
    · cases built

theorem keeps_sendAndWait (call : CertifyCall) :
    Keeps dep blobSha (sendAndWait call) past fun later tx =>
      tx.isSome = true → Receipt later call.commitHash := by
  unfold sendAndWait
  refine holds_bind.mpr (holds_put.mpr ⟨trivial, fun nonce _ => ?_⟩)
  cases nonce with
  | none => exact holds_pure.mpr fun sent => nomatch sent
  | some nonce =>
    refine holds_bind.mpr (holds_put.mpr ⟨trivial, fun sent _ => ?_⟩)
    cases sent with
    | none => exact holds_pure.mpr fun sent => nomatch sent
    | some tx =>
      refine holds_bind.mpr (holds_put.mpr ⟨trivial, fun status _ => ?_⟩)
      split
      · next mined =>
          subst mined
          refine holds_pure.mpr fun _ => ⟨call, nonce, tx, ?_, heard_last, rfl⟩
          exact heard_last.mono (List.prefix_append _ _)
      · exact holds_pure.mpr fun sent => nomatch sent

theorem keeps_attestChampionOnChain (certificate : ChampionCertificate) (commitHash : String) :
    Keeps dep blobSha (attestChampionOnChain dep certificate commitHash) past fun later tx =>
      tx.isSome = true → 40 ≤ commitHash.length → Receipt later (dep.bytes32 commitHash) := by
  unfold attestChampionOnChain
  split
  · exact holds_pure.mpr fun sent => nomatch sent
  · refine holds_bind.mpr (holds_put.mpr ⟨trivial, fun connected _ => ?_⟩)
    split
    · exact holds_pure.mpr fun sent => nomatch sent
    · refine Holds.seq (keeps_attestedCommit commitHash) fun later attested _ same => ?_
      split
      · exact holds_pure.mpr fun sent => nomatch sent
      · next call built =>
          refine (keeps_sendAndWait call).mono fun later tx receipt sent long => ?_
          rw [← same long, ← commitHash_of_certifyCall built]
          exact receipt sent

theorem keeps_attestAttempts (certificate : ChampionCertificate) (commitHash : String) (left : Nat) :
    Keeps dep blobSha (attestAttempts dep certificate commitHash left) past fun later tx =>
      tx.isSome = true → 40 ≤ commitHash.length → Receipt later (dep.bytes32 commitHash) := by
  induction left generalizing past with
  | zero => exact holds_pure.mpr fun sent => nomatch sent
  | succ left ih =>
    refine Holds.seq (keeps_attestChampionOnChain certificate commitHash) fun later tx _ receipt => ?_
    cases tx with
    | none => exact ih
    | some tx => exact holds_pure.mpr receipt

theorem registered_of_binds {target : List UInt8} {quorum : Int} {read : Option ChampionRecord}
    (bound : binds target quorum read = true) (positive : 1 ≤ quorum)
    (required : Heard past .quorumRequired (some quorum))
    (heard : Heard past .latestChampion (some read) ∨
      ∃ round, Heard past (.champion round) (some read)) :
    Registered past target := by
  cases read with
  | none => cases bound
  | some record =>
    simp only [binds, Bool.and_eq_true, decide_eq_true_eq] at bound
    obtain ⟨⟨present, same⟩, enough⟩ := bound
    exact ⟨quorum, record, positive, required, heard, present, same, enough⟩

theorem keeps_certReadOnce (target : List UInt8) (roundId : Option String) :
    Keeps dep blobSha (certReadOnce dep target roundId) past fun later verdict =>
      verdict = some true → Registered later target := by
  unfold certReadOnce
  refine holds_bind.mpr (holds_put.mpr ⟨trivial, fun readable _ => ?_⟩)
  split
  · exact holds_pure.mpr fun bound => nomatch bound
  refine holds_bind.mpr (holds_put.mpr ⟨trivial, fun quorum _ => ?_⟩)
  cases quorum with
  | none => exact holds_pure.mpr fun bound => nomatch bound
  | some quorum =>
  dsimp only
  split
  · exact holds_pure.mpr fun bound => nomatch bound
  next positive =>
  refine holds_bind.mpr (holds_put.mpr ⟨trivial, fun latest _ => ?_⟩)
  cases latest with
  | none => exact holds_pure.mpr fun bound => nomatch bound
  | some latest =>
  dsimp only
  split
  · next bound =>
      refine holds_pure.mpr fun _ => registered_of_binds bound (by omega) ?_ (.inl heard_last)
      exact heard_last.mono (List.prefix_append _ _)
  · cases orNone roundId with
    | none => exact holds_pure.mpr fun bound => nomatch bound
    | some round =>
      refine holds_bind.mpr (holds_put.mpr ⟨trivial, fun record _ => ?_⟩)
      cases record with
      | none => exact holds_pure.mpr fun bound => nomatch bound
      | some record =>
        refine holds_pure.mpr fun bound => ?_
        refine registered_of_binds (Option.some.inj bound) (by omega) ?_ (.inr ⟨_, heard_last⟩)
        exact heard_last.mono ((List.prefix_append _ _).trans (List.prefix_append _ _))

theorem keeps_certReadAttempts (target : List UInt8) (roundId : Option String) (left : Nat) :
    Keeps dep blobSha (certReadAttempts dep target roundId left) past fun later verdict =>
      verdict = true → Registered later target := by
  induction left generalizing past with
  | zero => exact holds_pure.mpr fun bound => nomatch bound
  | succ left ih =>
    refine Holds.seq (keeps_certReadOnce target roundId) fun later verdict _ registered => ?_
    cases verdict with
    | none => exact ih
    | some verdict => exact holds_pure.mpr fun bound => registered (congrArg some bound)

def Backed (dep : Deployment) (said : Said) (attestConfirmed : Option String) : Prop :=
  ∀ sha, isFullSha sha = true → receiptTrusted dep (dep.bytes32 sha) attestConfirmed = true →
    Certified said (dep.bytes32 sha)

theorem Backed.mono {later attestConfirmed} (grown : past <+: later)
    (backed : Backed dep past attestConfirmed) : Backed dep later attestConfirmed :=
  fun sha full trusted => (backed sha full trusted).mono grown

theorem keeps_onchainCertBinds {headSha : String} {roundId attestConfirmed : Option String}
    (backed : receiptTrusted dep (dep.bytes32 (dep.normalised headSha)) attestConfirmed = true →
      Certified past (dep.bytes32 (dep.normalised headSha))) :
    Keeps dep blobSha (onchainCertBinds dep headSha roundId attestConfirmed) past fun later verdict =>
      verdict = true → Certified later (dep.bytes32 (dep.normalised headSha)) := by
  unfold onchainCertBinds
  dsimp only
  split
  · next trusted => exact holds_pure.mpr fun _ => backed trusted
  · split
    · exact holds_pure.mpr fun bound => nomatch bound
    · exact (keeps_certReadAttempts _ roundId _).mono fun later verdict registered bound =>
        .inr (registered bound)

theorem keeps_attestAlreadyOnchain (commitHash : String) (roundId : Option String) :
    Keeps dep blobSha (attestAlreadyOnchain dep commitHash roundId) past fun _ _ => True := by
  unfold attestAlreadyOnchain
  refine Holds.seq (keeps_attestedCommit commitHash) fun _ _ _ _ => ?_
  refine (keeps_onchainCertBinds ?_).mono fun _ _ _ => trivial
  intro trusted
  cases trusted

theorem keeps_attestPhase {certificate commitHash roundId} :
    Keeps dep blobSha (attestPhase dep certificate commitHash roundId) past fun later attested =>
      attested.1.isSome = true → 40 ≤ commitHash.length → Receipt later (dep.bytes32 commitHash) := by
  unfold attestPhase
  split
  · exact holds_pure.mpr fun sent => nomatch sent
  · next cert =>
      refine Holds.seq (keeps_attestAttempts cert commitHash 3) fun _ tx _ receipt => ?_
      cases tx with
      | some tx => exact holds_pure.mpr receipt
      | none =>
        refine Holds.seq (keeps_attestAlreadyOnchain commitHash roundId) fun _ _ _ _ => ?_
        exact holds_pure.mpr fun sent => nomatch sent

theorem keeps_privateTreeBlobs {repo headSha} (full : isFullSha headSha = true) :
    Keeps dep blobSha (privateTreeBlobs repo headSha token) past fun later blobs =>
      ∀ entries, blobs = some entries → SourceRead later headSha entries := by
  unfold privateTreeBlobs
  refine Holds.seq (keeps_githubApiRequest trivial) fun later reply _ answered => ?_
  split
  · exact holds_pure.mpr fun entries read => nomatch read
  · next body value =>
      split
      · exact holds_pure.mpr fun entries read => nomatch read
      · refine holds_pure.mpr fun entries read => ?_
        cases read
        exact ⟨repo, headSha, token, reply, body, answered.1, value, answered.2 body value full, rfl⟩

theorem keeps_canonicalGithubEntries (repo : Repo) (mainTreeSha : String) (token : Option String) :
    Keeps dep blobSha (canonicalGithubEntries repo mainTreeSha token) past fun _ preserved =>
      ∀ entries, preserved = some entries → entries.filter outsideGithub = [] := by
  unfold canonicalGithubEntries
  refine Holds.seq (keeps_githubApiRequest trivial) fun _ reply _ _ => ?_
  split
  · exact holds_pure.mpr fun entries read => nomatch read
  · refine holds_pure.mpr fun entries read => ?_
    cases read
    rw [List.filter_eq_nil_iff]
    intro entry member
    obtain ⟨e, listed, rfl⟩ := List.mem_map.mp member
    have inside := (List.mem_filter.mp listed).2
    simp_all [outsideGithub]

theorem solverEntries_outsideGithub (tree : List TreeEntry) :
    (solverEntries tree).filter outsideGithub = solverEntries tree := by
  rw [List.filter_eq_self]
  intro entry member
  obtain ⟨e, listed, rfl⟩ := List.mem_map.mp member
  have outside := (List.mem_filter.mp listed).2
  simp_all [outsideGithub]

theorem eq_of_orNone {value text} (present : orNone value = some text) :
    value = some text := by
  unfold orNone at present
  split at present
  · cases present
  · exact present

theorem some_of_orNone {value name} (named : orNone (value.getD none) = some name) :
    value = some (some name) := by
  cases value with
  | none => cases eq_of_orNone named
  | some inner => exact congrArg some (eq_of_orNone named)

theorem keeps_recreateBlob {source canonical sourceToken pushToken blob sha}
    (read : SourceRead past sha entries) (certified : Certified past (dep.bytes32 sha)) :
    Keeps dep blobSha (recreateBlob source canonical sourceToken pushToken blob) past
      fun _ made => ∀ entry, made = some entry → entry = blob := by
  unfold recreateBlob
  refine Holds.seq (keeps_githubApiRequest trivial) fun later reply grown answered => ?_
  split
  · exact holds_pure.mpr fun entry made => nomatch made
  · next body value =>
      have allowed : MergeGuard dep later (.http (.createBlob canonical (body.content.getD "")
          (body.encoding.getD "base64")) pushToken) :=
        ⟨sha, entries, read.mono grown, certified.mono grown⟩
      refine Holds.seq (keeps_githubApiRequest allowed) fun _ created _ posted => ?_
      split
      · exact holds_pure.mpr fun entry made => nomatch made
      · next name named =>
          refine holds_pure.mpr fun entry made => ?_
          cases made
          have content : blobSha (body.content.getD "") (body.encoding.getD "base64") = blob.sha :=
            answered.2 body value
          have kept : name = blobSha (body.content.getD "") (body.encoding.getD "base64") :=
            posted.2 name (some_of_orNone named)
          rw [kept, content]

theorem keeps_recreateBlobs {source canonical sourceToken pushToken blobs sha}
    (read : SourceRead past sha entries) (certified : Certified past (dep.bytes32 sha)) :
    Keeps dep blobSha (recreateBlobs source canonical sourceToken pushToken blobs) past
      fun _ made => ∀ posted, made = some posted → posted = blobs := by
  induction blobs generalizing past with
  | nil =>
    refine holds_pure.mpr fun posted made => ?_
    exact (Option.some.inj made).symm
  | cons blob rest ih =>
    rw [recreateBlobs]
    refine Holds.seq (keeps_recreateBlob read certified) fun later entry grown first => ?_
    cases entry with
    | none => exact holds_pure.mpr fun posted made => nomatch made
    | some entry =>
      refine Holds.seq (ih (read.mono grown) (certified.mono grown)) fun _ others _ second => ?_
      cases others with
      | none => exact holds_pure.mpr fun posted made => nomatch made
      | some others =>
        refine holds_pure.mpr fun posted made => ?_
        cases made
        rw [first entry rfl, second others rfl]

theorem keeps_placeBranch {canonical branch commit sha} (read : SourceRead past sha entries)
    (certified : Certified past (dep.bytes32 sha)) :
    Keeps dep blobSha (placeBranch canonical branch commit token) past fun _ _ => True := by
  unfold placeBranch
  refine Holds.seq (keeps_githubApiRequest ⟨sha, entries, read, certified⟩) fun later _ grown _ => ?_
  split
  · exact holds_pure.mpr trivial
  · have allowed : MergeGuard dep later (.http (.forceRef canonical branch commit) token) :=
      ⟨sha, entries, read.mono grown, certified.mono grown⟩
    exact Holds.seq (keeps_githubApiRequest allowed) fun _ _ _ _ => holds_pure.mpr trivial

theorem keeps_mergeBranch {canonical title branch message commit sha}
    (read : SourceRead past sha entries) (certified : Certified past (dep.bytes32 sha))
    (rebuilt : Rebuilt past commit sha) :
    Keeps dep blobSha (mergeBranch canonical title branch message commit token) past
      fun later merged => merged = true → Landed later := by
  unfold mergeBranch
  refine Holds.seq (keeps_githubApiRequest ⟨sha, entries, read, certified⟩) fun later _ grown _ => ?_
  split
  · exact holds_pure.mpr fun merged => nomatch merged
  · next number opened =>
      split
      · exact holds_pure.mpr fun merged => nomatch merged
      · have allowed : MergeGuard dep later (.http (.mergePull canonical number commit) token) :=
          ⟨sha, certified.mono grown, .inr (rebuilt.mono grown)⟩
        refine Holds.seq (keeps_githubApiRequest allowed) fun _ reply _ answered => ?_
        exact holds_pure.mpr fun merged => ⟨canonical, number, commit, token, reply, answered.1, merged⟩

theorem keeps_landTree {canonical title branch message parent sha posted}
    (read : SourceRead past sha (posted.filter outsideGithub))
    (certified : Certified past (dep.bytes32 sha)) :
    Keeps dep blobSha (landTree canonical title branch message parent posted token) past
      fun later landed => landed = true → Landed later := by
  unfold landTree
  refine Holds.seq (keeps_githubApiRequest ⟨sha, _, read, certified⟩)
    fun withTree treeReply grownTree treeMade => ?_
  split
  · exact holds_pure.mpr fun landed => nomatch landed
  next tree treeNamed =>
  have allowed : MergeGuard dep withTree (.http (.createCommit canonical message tree parent) token) :=
    ⟨sha, _, read.mono grownTree, certified.mono grownTree⟩
  refine Holds.seq (keeps_githubApiRequest allowed) fun withCommit reply grownCommit commitMade => ?_
  split
  · exact holds_pure.mpr fun landed => nomatch landed
  next commit commitNamed =>
  have readHere := read.mono (grownTree.trans grownCommit)
  have certifiedHere := certified.mono (grownTree.trans grownCommit)
  have rebuilt : Rebuilt withCommit commit sha :=
    ⟨_, canonical, posted, token, treeReply, tree, message, parent, token, reply, readHere,
      treeMade.1.mono grownCommit, some_of_orNone treeNamed, rfl, commitMade.1,
      some_of_orNone commitNamed⟩
  refine Holds.seq (keeps_placeBranch readHere certifiedHere) fun placed _ grownRef _ => ?_
  split
  · exact holds_pure.mpr fun landed => nomatch landed
  · refine Holds.seq (keeps_mergeBranch (readHere.mono grownRef) (certifiedHere.mono grownRef)
      (rebuilt.mono grownRef)) fun _ merged _ landed => ?_
    refine Holds.seq (keeps_githubApiRequest trivial) fun _ _ grown _ => ?_
    exact holds_pure.mpr fun done => (landed done).mono grown

theorem keeps_publishBlobs
    {source canonical certifiedSha roundId prNumber sourceToken push branchPrefix label blobs}
    (read : SourceRead past certifiedSha blobs)
    (certified : Certified past (dep.bytes32 certifiedSha)) :
    Keeps dep blobSha (publishBlobs source canonical certifiedSha roundId prNumber sourceToken
        branchPrefix label blobs push) past fun later published => published = true → Landed later := by
  unfold publishBlobs
  refine Holds.seq (keeps_githubApiRequest trivial) fun _ mainRef grownMain _ => ?_
  split
  case' h_2 => exact holds_pure.mpr fun published => nomatch published
  dsimp only
  refine Holds.seq (keeps_githubApiRequest trivial) fun _ mainCommit grownCommit _ => ?_
  split
  case' h_2 => exact holds_pure.mpr fun published => nomatch published
  refine Holds.seq (keeps_canonicalGithubEntries _ _ _) fun _ preserved grownEntries inside => ?_
  split
  case' h_2 => exact holds_pure.mpr fun published => nomatch published
  next preserved =>
  have grown := (grownMain.trans grownCommit).trans grownEntries
  refine Holds.seq (keeps_recreateBlobs (read.mono grown) (certified.mono grown))
    fun _ made grownBlobs same => ?_
  split
  case' h_2 => exact holds_pure.mpr fun published => nomatch published
  next posted =>
  have whole : (posted ++ preserved).filter outsideGithub = blobs := by
    obtain ⟨repo, name, token, reply, body, -, -, -, rfl⟩ := read
    rw [List.filter_append, inside preserved rfl, List.append_nil, same posted rfl,
      solverEntries_outsideGithub]
  refine keeps_landTree ?_ (certified.mono (grown.trans grownBlobs))
  rw [whole]
  exact read.mono (grown.trans grownBlobs)

theorem keeps_publishCertifiedTreeToCanonical
    {source certifiedSha roundId prNumber sourceToken branchPrefix label}
    (full : isFullSha certifiedSha = true) (certified : Certified past (dep.bytes32 certifiedSha)) :
    Keeps dep blobSha (publishCertifiedTreeToCanonical dep source certifiedSha roundId prNumber
        sourceToken branchPrefix label) past
      fun later published => published = true → Landed later := by
  unfold publishCertifiedTreeToCanonical
  split
  · split
    · exact holds_pure.mpr fun published => nomatch published
    · refine Holds.seq (keeps_privateTreeBlobs full) fun _ blobs grown read => ?_
      split
      · next blobs =>
          exact keeps_publishBlobs (read blobs rfl) (certified.mono grown)
      · exact holds_pure.mpr fun published => nomatch published
  · exact holds_pure.mpr fun published => nomatch published

end

end MinotaurSubnet.Relayer.SolverRepo
