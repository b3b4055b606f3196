import MinotaurSubnet.Relayer.MergeSoundness

/-! # The verdict of the merge gate

On a commit hash that spells a full SHA the word that is certified, the head that is checked and the
tree that is merged are those of one commit, so every path of `on_champion_adopted_pr` keeps to the
merge guard.
-/

namespace MinotaurSubnet.Relayer.SolverRepo

open Library Python Consensus Dialogue

section

/-- What the finalization relies on in `str.lower` and `keccak`. -/
structure HostLaws (host : Host) : Prop where
  lower_sha : ∀ sha, isFullSha sha = true → host.lower sha = sha
  lower_eq_empty : ∀ text, host.lower text = "" ↔ text = ""
  length_of_lower : ∀ text, isFullSha (host.lower text) = true → text.toList.length = 40
  keccak_ne_zero : ∀ sha, isFullSha sha = true → host.keccak (utf8 sha) ≠ List.replicate 32 0
  keccak_spread : ∀ word word', ∃ sha, isFullSha sha = true ∧ host.keccak (utf8 sha) ≠ word ∧
    host.keccak (utf8 sha) ≠ word'

theorem isFullSha_iff {sha} :
    isFullSha sha = true ↔
      sha.toList.length = 40 ∧ ∀ c ∈ sha.toList, c ∈ "0123456789abcdef".toList := by
  simp [isFullSha]

theorem hexDigit_plain {c} (digit : c ∈ "0123456789abcdef".toList) :
    isSpace c = false ∧ c ≠ 'x' := by
  have plain : ("0123456789abcdef".toList.all fun c => !isSpace c && c != 'x') = true := by decide
  simpa using List.all_eq_true.mp plain c digit

theorem length_strip_le (cs : List Char) : (strip cs).length ≤ cs.length := by
  have first := (List.dropWhile_sublist (l := cs) isSpace).length_le
  have last := (List.dropWhile_sublist (l := (cs.dropWhile isSpace).reverse) isSpace).length_le
  simp only [List.length_reverse] at last
  simp [strip]
  omega

theorem stripped_fullSha {sha} (full : isFullSha sha = true) : stripped sha = sha := by
  have plain : ∀ c ∈ sha.toList, isSpace c = false := fun c member =>
    (hexDigit_plain ((isFullSha_iff.mp full).2 c member)).1
  rw [stripped, strip_eq_self plain, String.ofList_toList]

variable {dep : Deployment}

theorem normalised_fullSha (laws : HostLaws dep.host) {sha} (full : isFullSha sha = true) :
    dep.normalised sha = sha := by
  rw [Deployment.normalised, stripped_fullSha full, laws.lower_sha sha full]

theorem bytes32_fullSha {sha} (full : isFullSha sha = true) :
    dep.bytes32 sha = dep.host.keccak (utf8 sha) := by
  obtain ⟨long, digits⟩ := isFullSha_iff.mp full
  have plain : ∀ c ∈ sha.toList, isSpace c = false := fun c member =>
    (hexDigit_plain (digits c member)).1
  have unmarked : ∀ rest, sha.toList ≠ '0' :: 'x' :: rest := by
    intro rest spelled
    exact (hexDigit_plain (digits 'x' (by simp [spelled]))).2 rfl
  have whole : strip (some sha |>.getD "").toList = sha.toList := strip_eq_self plain
  have nonempty : sha.toList.isEmpty = false := by
    cases spelled : sha.toList with
    | nil => simp [spelled] at long
    | cons c rest => rfl
  unfold Deployment.bytes32 fieldToBytes32
  simp only [whole, nonempty, Bool.false_eq_true, if_false]
  split
  · next word spelled =>
      rw [if_neg (by omega)] at spelled
      cases spelled
  · rw [String.ofList_toList]

theorem length_of_normalised (laws : HostLaws dep.host) {commitHash}
    (full : isFullSha (dep.normalised commitHash) = true) : 40 ≤ commitHash.length := by
  have long := laws.length_of_lower (stripped commitHash) full
  rw [stripped, String.toList_ofList] at long
  have shrunk := length_strip_le commitHash.toList
  rw [String.length_toList] at shrunk
  omega

theorem bytes32_blank {commitHash} (blank : stripped commitHash = "") :
    dep.bytes32 commitHash = List.replicate 32 0 := by
  have none : strip commitHash.toList = [] := by
    have spelled := congrArg String.toList blank
    rwa [stripped, String.toList_ofList] at spelled
  unfold Deployment.bytes32 fieldToBytes32
  simp [none]

end

section

variable {dep : Deployment} {blobSha : String → String → String} {past : Said}

/-- The commit hashes on which what is certified, what is checked and what lands are one commit: a
    full SHA up to case and outer blanks, or one for which nothing is published under its name. -/
def NamesOneCommit (host : Host) (commitHash : String) : Prop :=
  isFullSha (host.lower (stripped commitHash)) = true ∨ stripped commitHash = "" ∨
    commitHash = "builtin"

def FullOrEmpty (head : String) : Prop := isFullSha head = true ∨ head = ""

theorem fullOrEmpty_orText {head other} (first : FullOrEmpty head) (second : FullOrEmpty other) :
    FullOrEmpty (orText (some head) other) := by
  by_cases empty : head = ""
  · simpa [orText, empty] using second
  · simpa [orText, empty] using first

theorem fullOrEmpty_liveHeadOf (laws : HostLaws dep.host) {resolved}
    (full : ∀ headSha, resolved = some headSha → isFullSha headSha = true) :
    FullOrEmpty (liveHeadOf dep resolved) := by
  cases resolved with
  | none => exact .inr rfl
  | some headSha =>
    rw [liveHeadOf, normalised_fullSha laws (full headSha rfl)]
    exact .inl (full headSha rfl)

theorem keeps_prTouchesCi (repo : Repo) (number : Int) :
    Keeps dep blobSha (prTouchesCi repo number) past fun later touches =>
      touches = false → CiClean later repo number := by
  unfold prTouchesCi
  refine Holds.seq (keeps_githubApiRequest trivial) fun later reply _ answered => ?_
  split
  · exact holds_pure.mpr fun clean => nomatch clean
  · next files read =>
      split
      · exact holds_pure.mpr fun clean => nomatch clean
      · next okay =>
          exact holds_pure.mpr fun clean =>
            ⟨none, reply, files, answered.1, not_not.mp okay, read, clean⟩

variable {roundId attestConfirmed : Option String}

theorem keeps_certBindsFullSha (laws : HostLaws dep.host) {headSha}
    (backed : Backed dep past attestConfirmed) (full : isFullSha headSha = true) :
    Keeps dep blobSha (onchainCertBinds dep headSha roundId attestConfirmed) past fun later verdict =>
      verdict = true → Certified later (dep.bytes32 headSha) := by
  have same := normalised_fullSha laws full
  have bound : Keeps dep blobSha (onchainCertBinds dep headSha roundId attestConfirmed) past
      fun later verdict => verdict = true → Certified later (dep.bytes32 (dep.normalised headSha)) :=
    keeps_onchainCertBinds (same.symm ▸ backed headSha full)
  rwa [same] at bound

variable {prNumber : Int}

theorem keeps_squashMerge (laws : HostLaws dep.host) {repo liveHead}
    (backed : Backed dep past attestConfirmed) (full : isFullSha liveHead = true) :
    Keeps dep blobSha (squashMerge dep repo prNumber liveHead roundId attestConfirmed) past
      fun later merged => merged.ok = true → Landed later := by
  unfold squashMerge
  refine Holds.seq (keeps_prTouchesCi repo prNumber) fun _ touches grownCi clean => ?_
  split
  · exact holds_pure.mpr fun merged => nomatch merged
  next untouched =>
  refine Holds.seq (keeps_certBindsFullSha laws (backed.mono grownCi) full)
    fun checked bound grownCert certified => ?_
  split
  · exact holds_pure.mpr fun merged => nomatch merged
  next passed =>
  have allowed : MergeGuard dep checked (.http (.mergePull repo prNumber liveHead) none) := by
    refine ⟨liveHead, certified (by simpa using passed), .inl ⟨rfl, ?_⟩⟩
    exact (clean (by simpa using untouched)).mono grownCert
  refine Holds.seq (keeps_githubApiRequest allowed) fun _ reply _ answered => ?_
  split
  · next status =>
      refine holds_pure.mpr fun _ => ⟨repo, prNumber, liveHead, none, reply, answered.1, ?_⟩
      simp [Reply.ok, status]
  · exact holds_pure.mpr fun merged => nomatch merged

theorem keeps_publishCertifiedTreeDespitePr (laws : HostLaws dep.host) {repo certifiedSha}
    (backed : Backed dep past attestConfirmed) (full : isFullSha certifiedSha = true) :
    Keeps dep blobSha
      (publishCertifiedTreeDespitePr dep repo prNumber certifiedSha roundId attestConfirmed) past
      fun later merged => merged.ok = true → Landed later := by
  unfold publishCertifiedTreeDespitePr
  split
  · exact holds_pure.mpr fun merged => nomatch merged
  refine Holds.seq (keeps_certBindsFullSha laws backed full)
    fun _ bound _ certified => ?_
  split
  · exact holds_pure.mpr fun merged => nomatch merged
  next passed =>
  refine Holds.seq (keeps_publishCertifiedTreeToCanonical full (certified (by simpa using passed)))
    fun _ published _ landed => ?_
  split
  · exact holds_pure.mpr fun merged => nomatch merged
  next done =>
  refine Holds.seq (keeps_commentOnPr _ _ _ _) fun _ _ grownComment _ => ?_
  refine Holds.seq (keeps_closePr _) fun _ _ grownClose _ => holds_pure.mpr fun _ => ?_
  exact (landed (by simpa using done)).mono (grownComment.trans grownClose)

theorem keeps_mergeMinerPrWhenCertified (laws : HostLaws dep.host) {commitHash}
    (backed : Backed dep past attestConfirmed)
    (certified : FullOrEmpty (dep.normalised commitHash)) :
    Keeps dep blobSha (mergeMinerPrWhenCertified dep prNumber commitHash roundId attestConfirmed) past
      fun later merged => merged.ok = true → Landed later := by
  unfold mergeMinerPrWhenCertified
  split
  case' h_2 => exact holds_pure.mpr fun merged => nomatch merged
  split
  · exact holds_pure.mpr fun merged => nomatch merged
  dsimp only
  refine Holds.seq (keeps_resolvePr _ _ _) fun _ resolved grown full => ?_
  have live := fullOrEmpty_liveHeadOf laws full
  split
  · exact holds_pure.mpr fun merged => nomatch merged
  next someHead =>
  split
  · next drifted =>
      have known : isFullSha (dep.normalised commitHash) = true :=
        certified.resolve_right (by simp_all)
      exact keeps_publishCertifiedTreeDespitePr laws (backed.mono grown) known
  · next agreed =>
      have known : isFullSha (liveHeadOf dep resolved) = true := by
        refine live.resolve_right fun missing => ?_
        simp_all
      exact keeps_squashMerge laws (backed.mono grown) known

theorem keeps_publishPrivateChampionWhenCertified (laws : HostLaws dep.host)
    {commitHash privateRepo repoToken} (backed : Backed dep past attestConfirmed)
    (certified : FullOrEmpty (dep.normalised commitHash)) :
    Keeps dep blobSha (publishPrivateChampionWhenCertified dep prNumber commitHash roundId privateRepo
        repoToken attestConfirmed) past fun later merged => merged.ok = true → Landed later := by
  unfold publishPrivateChampionWhenCertified
  split
  · exact holds_pure.mpr fun merged => nomatch merged
  split
  case' h_2 => exact holds_pure.mpr fun merged => nomatch merged
  dsimp only
  refine Holds.seq (keeps_resolvePr _ _ _) fun _ resolved grown full => ?_
  have live := fullOrEmpty_liveHeadOf laws full
  split
  · exact holds_pure.mpr fun merged => nomatch merged
  next target =>
  have known := (fullOrEmpty_orText certified live).resolve_right target
  refine Holds.seq (keeps_certBindsFullSha laws (backed.mono grown) known)
    fun _ bound _ shown => ?_
  split
  · exact holds_pure.mpr fun merged => nomatch merged
  next passed =>
  refine Holds.seq (keeps_publishCertifiedTreeToCanonical known (shown (by simpa using passed)))
    fun _ published _ landed => ?_
  split
  · exact holds_pure.mpr fun merged => nomatch merged
  · next done => exact holds_pure.mpr fun _ => landed (by simpa using done)

theorem fullOrEmpty_normalised (laws : HostLaws dep.host) {commitHash}
    (named : isFullSha (dep.normalised commitHash) = true ∨ stripped commitHash = "") :
    FullOrEmpty (dep.normalised commitHash) := by
  refine named.imp_right fun blank => ?_
  rw [Deployment.normalised, blank, laws.lower_eq_empty]

theorem keeps_mergePhase (laws : HostLaws dep.host) {sub} (backed : Backed dep past attestConfirmed)
    (certified : FullOrEmpty (dep.normalised sub.commitHash)) :
    Keeps dep blobSha (mergePhase dep sub prNumber roundId attestConfirmed) past
      fun later merged => merged.ok = true → Landed later := by
  unfold mergePhase
  split
  · exact keeps_publishPrivateChampionWhenCertified laws backed certified
  · exact keeps_mergeMinerPrWhenCertified laws backed certified

theorem bytes32_of_receiptTrusted {target confirmed}
    (trusted : receiptTrusted dep target (some confirmed) = true) :
    dep.bytes32 confirmed = target := by
  unfold receiptTrusted at trusted
  split at trusted
  · cases trusted
  · next text present =>
      cases eq_of_orNone present
      simp_all

theorem backed_of_receipt (laws : HostLaws dep.host) {commitHash : String} {tx : Option String}
    (named : isFullSha (dep.normalised commitHash) = true ∨ stripped commitHash = "")
    (receipt : tx.isSome = true → 40 ≤ commitHash.length → Receipt past (dep.bytes32 commitHash)) :
    Backed dep past (tx.map fun _ => commitHash) := by
  intro sha full trusted
  cases tx with
  | none => cases trusted
  | some tx =>
    have same : dep.bytes32 commitHash = dep.bytes32 sha := bytes32_of_receiptTrusted trusted
    rcases named with spelled | blank
    · rw [← same]
      exact .inl (receipt rfl (length_of_normalised laws spelled))
    · rw [bytes32_blank blank, bytes32_fullSha full] at same
      exact absurd same.symm (laws.keccak_ne_zero sha full)

theorem keeps_adoptionResult {reason attested merged} (landed : merged.ok = true → Landed past) :
    Keeps dep blobSha (adoptionResult dep reason attested merged) past
      fun later result => result.ok = true → Landed later := by
  unfold adoptionResult
  split
  · next both =>
      refine Holds.seq keeps_canonicalMainHeadSha fun _ _ grown _ => holds_pure.mpr fun _ => ?_
      exact (landed (by simp_all)).mono grown
  · split
    · exact holds_pure.mpr fun ok => nomatch ok
    · split
      · exact holds_pure.mpr landed
      · exact holds_pure.mpr fun ok => nomatch ok

/-- On a hash that names one commit the finalization keeps to its guard and answers ok only after a
    merge. -/
theorem keeps_onChampionAdoptedPr (laws : HostLaws dep.host) {sub : Candidate} {roundId certificate}
    (named : NamesOneCommit dep.host sub.commitHash) :
    Keeps dep blobSha (onChampionAdoptedPr dep sub roundId certificate) past
      fun later result => result.ok = true → Landed later := by
  unfold onChampionAdoptedPr
  dsimp only
  split
  · exact holds_pure.mpr fun ok => nomatch ok
  next git =>
  have named : isFullSha (dep.normalised sub.commitHash) = true ∨ stripped sub.commitHash = "" := by
    rcases named with spelled | blank | builtin
    · exact .inl spelled
    · exact .inr blank
    · simp [builtin] at git
  refine Holds.seq keeps_attestPhase fun _ attested _ receipt => ?_
  obtain ⟨tx, already⟩ := attested
  dsimp only
  split
  · exact holds_pure.mpr fun ok => nomatch ok
  refine Holds.seq (keeps_commentOnPr _ _ _ _) fun _ _ grown _ => ?_
  split
  · exact holds_pure.mpr fun ok => nomatch ok
  have backed := (backed_of_receipt laws named receipt).mono grown
  refine Holds.seq (keeps_mergePhase laws backed (fullOrEmpty_normalised laws named))
    fun _ merged _ landed => ?_
  split
  · refine Holds.seq (keeps_closeStaleSubmissionPrs _) fun _ _ grown _ => ?_
    exact keeps_adoptionResult fun ok => (landed ok).mono grown
  · exact keeps_adoptionResult landed

end

end MinotaurSubnet.Relayer.SolverRepo
