import MinotaurSubnet.Relayer.CommitNames

/-! # What a merge leaves of canonical's CI

Canonical as GitHub holds it: trees and commits by name, the diff of each pull request and the head
of `main`. A squash merge brings to `main` what the merged commit changes since it left `main`, file
by file.
The gate reads one page of the diff and only new names; the publisher posts what the listing of
`main` shows of `.github/`, and of that the blobs.
-/

namespace MinotaurSubnet.Relayer.SolverRepo

open Library Consensus Dialogue

structure Leaf where
  mode : String
  type : String
  sha : String
  deriving DecidableEq

abbrev GitTree := String → Option Leaf

def inGithub (path : String) : Bool := ".github/".toList.isPrefixOf path.toList

/-- A changed file as the files endpoint reports it; a rename is one entry. -/
structure ChangedFile where
  filename : String
  previous : Option String := none

def treeOf (entries : List NewEntry) : GitTree := fun path =>
  (entries.find? (·.path = path)).map fun e => ⟨e.mode, "blob", e.sha⟩

@[simp] theorem treeOf_nil (path : String) : treeOf [] path = none := rfl

@[simp] theorem treeOf_cons (e : NewEntry) (rest : List NewEntry) (path : String) :
    treeOf (e :: rest) path =
      if e.path = path then some ⟨e.mode, "blob", e.sha⟩ else treeOf rest path := by
  unfold treeOf
  by_cases same : e.path = path <;> simp [same]

/-- Canonical during one call; `main` is its head when the merge comes. -/
structure Canonical where
  trees : String → GitTree
  commits : String → GitTree
  /-- The tree where a commit left `main`. -/
  bases : String → GitTree
  /-- What a merge makes of one file, from its base, `main` and the merged commit. -/
  mergeLeaf : Option Leaf → Option Leaf → Option Leaf → Option Leaf
  main : GitTree
  /-- The head of `main` when it is read, and its tree. -/
  mainCommit : String
  mainTree : String
  /-- What a recursive listing shows; a truncated one leaves entries out. -/
  listings : String → List TreeEntry
  heads : Int → String
  files : Int → List ChangedFile
  mergeLeaf_unchanged : ∀ base main, mergeLeaf base main base = main
  mergeLeaf_removed : ∀ leaf main, mergeLeaf (some leaf) main none = none
  mainTree_eq : trees mainTree = commits mainCommit
  listed : ∀ name, ∀ e ∈ listings name, e.type = "blob" →
    trees name e.path = some ⟨e.mode, e.type, e.sha⟩
  changed : ∀ number path, commits (heads number) path ≠ bases (heads number) path ↔
    ∃ f ∈ files number, f.filename = path ∨ f.previous = some path

namespace Canonical

variable (w : Canonical)

/-- The squash merge of a commit into `main`. -/
def squashed (sha : String) (main : GitTree) : GitTree := fun path =>
  w.mergeLeaf (w.bases sha path) (main path) (w.commits sha path)

/-- `main` after an exchange. -/
def merged (main : GitTree) : Exchange Question.Answer → GitTree
  | ⟨.http (.mergePull _ _ sha) _, reply⟩ => if Reply.ok reply then w.squashed sha main else main
  | _ => main

/-- `main` after all that was said. -/
def mainAfter (said : Said) : GitTree := said.foldl w.merged w.main

def Honest : (q : Question) → q.Answer → Prop
  | .http (.pullFiles _ number) _, reply =>
    reply.status = 200 → ∀ files : List (Option String), reply.body = some files →
      files = ((w.files number).take 100).map fun f => some f.filename
  | .http (.mainRef _) _, reply =>
    ∀ body : Option String, Reply.value reply = some body → stripped (body.getD "") = w.mainCommit
  | .http (.commitTree _ sha) _, reply =>
    ∀ body : Option String, Reply.value reply = some body → sha = w.mainCommit →
      stripped (body.getD "") = w.mainTree
  | .http (.tree _ name) _, reply =>
    ∀ body : TreeBody, Reply.value reply = some body → body.tree = w.listings name
  | .http (.createTree _ entries) _, reply =>
    ∀ tree : String, Reply.value reply = some (some tree) → w.trees tree = treeOf entries
  | .http (.createCommit _ _ tree parent) _, reply =>
    ∀ commit : String, Reply.value reply = some (some commit) →
      w.commits commit = w.trees tree ∧ w.bases commit = w.commits parent
  | .http (.mergePull _ number sha) _, reply => Reply.ok reply = true → sha = w.heads number
  | _, _ => True

/-- Nothing under `.github/` is other than before. -/
def CiKept (said : Said) : Prop := ∀ path, inGithub path = true → w.mainAfter said path = w.main path

/-- The pull request changes a file under `.github/`, by its new or its previous name, and `main` does
    not have the change already. -/
def TouchesCi (number : Int) : Prop :=
  ∃ path, inGithub path = true ∧ (∃ f ∈ w.files number, f.filename = path ∨ f.previous = some path) ∧
    w.mergeLeaf (w.bases (w.heads number) path) (w.main path) (w.commits (w.heads number) path)
      ≠ w.main path

/-- If it does, one of the first hundred new names is there. -/
def DiffShows (number : Int) : Prop :=
  w.TouchesCi number → ∃ f ∈ (w.files number).take 100, inGithub f.filename = true

/-- Everything under `.github/` is a blob and listed, or gone from `main` by the merge. -/
def ListingShows : Prop :=
  ∀ path leaf, inGithub path = true → w.trees w.mainTree path = some leaf →
    (∃ e ∈ w.listings w.mainTree, e.type = "blob" ∧ e.path = path) ∨ w.main path = none

end Canonical

section

variable {dep : Deployment} {w : Canonical} {past : Said}

abbrev Tracks {α : Type} (w : Canonical) (p : Talk α) (past : Said) (post : Said → α → Prop) : Prop :=
  Holds (fun _ _ => True) w.Honest p past post

/-- The program merges nothing. -/
abbrev Still {α : Type} (w : Canonical) (p : Talk α) (past : Said) (post : Said → α → Prop) : Prop :=
  Tracks w p past fun later a => w.mainAfter later = w.mainAfter past ∧ post later a

theorem mainAfter_snoc (said : Said) (e : Exchange Question.Answer) :
    w.mainAfter (said ++ [e]) = w.merged (w.mainAfter said) e := by
  simp [Canonical.mainAfter]

theorem Still.seq {α β : Type} {p} {f : α → Talk β} {mid : Said → α → Prop} {post : Said → β → Prop}
    (first : Still w p past mid)
    (rest : ∀ later a, past <+: later → mid later a → Still w (f a) later post) :
    Still w (p >>= f) past post := by
  refine Holds.seq first fun later a grown left => ?_
  refine (rest later a grown left.2).mono fun last b ends => ?_
  exact ⟨ends.1.trans left.1, ends.2⟩

theorem still_put {q} (quiet : ∀ main answer, w.merged main ⟨q, answer⟩ = main) :
    Still w (put q) past fun later answer => Heard later q answer ∧ w.Honest q answer := by
  refine holds_put.mpr ⟨trivial, fun answer honest => ?_⟩
  exact ⟨(mainAfter_snoc _ _).trans (quiet _ answer), heard_last, honest⟩

theorem still_githubApiRequest {call token}
    (quiet : ∀ main answer, w.merged main ⟨.http call token, answer⟩ = main) :
    Still w (githubApiRequest call token) past fun later reply =>
      Heard later (.http call token) reply ∧ w.Honest (.http call token) reply := by
  have attempts (left : Nat) : ∀ past, Still w (githubAttempts call token left) past fun later reply =>
      Heard later (.http call token) reply ∧ w.Honest (.http call token) reply := by
    induction left with
    | zero => exact fun past => still_put quiet
    | succ left ih =>
      intro past
      refine Still.seq (still_put quiet) fun later reply _ heard => ?_
      split
      · exact ih later
      · exact holds_pure.mpr ⟨rfl, heard⟩
  exact attempts 3 past

theorem tracks_mergePull {repo number sha token} :
    Tracks w (githubApiRequest (.mergePull repo number sha) token) past fun later reply =>
      Reply.ok reply = true → sha = w.heads number ∧
        w.mainAfter later = w.squashed sha (w.mainAfter past) := by
  have last (left : Nat) : ∀ past, Tracks w (githubAttempts (.mergePull repo number sha) token left) past
      fun later reply => Reply.ok reply = true → sha = w.heads number ∧
        w.mainAfter later = w.squashed sha (w.mainAfter past) := by
    have landed : ∀ (past : Said) (reply : Reply (.mergePull repo number sha)), Reply.ok reply = true →
        w.mainAfter (past ++ [⟨.http (.mergePull repo number sha) token, reply⟩]) =
          w.squashed sha (w.mainAfter past) := by
      intro past reply ok
      rw [mainAfter_snoc]
      exact if_pos ok
    induction left with
    | zero =>
      intro past
      exact holds_put.mpr ⟨trivial, fun reply honest ok => ⟨honest ok, landed past reply ok⟩⟩
    | succ left ih =>
      intro past
      refine holds_bind.mpr (holds_put.mpr ⟨trivial, fun reply honest => ?_⟩)
      split
      · next again =>
        -- an answer that is tried again is no merge
        have failed : Reply.ok reply = false := by
          simp only [retryStatuses, List.contains_iff_mem, List.mem_cons, List.not_mem_nil,
            or_false] at again
          simp [Reply.ok]
          omega
        have same : w.mainAfter (past ++ [⟨.http (.mergePull repo number sha) token, reply⟩]) =
            w.mainAfter past := by
          rw [mainAfter_snoc]
          exact if_neg (by simp [failed])
        refine (ih _).mono fun later reply merges ok => ?_
        rw [same] at merges
        exact merges ok
      · exact holds_pure.mpr fun ok => ⟨honest ok, landed past reply ok⟩
  exact last 3 past

theorem still_commentOnPr (number : Int) (body : String) (repo : Option Repo) (token : Option String) :
    Still w (commentOnPr dep number body repo token) past fun _ _ => True := by
  unfold commentOnPr
  split
  · exact holds_pure.mpr ⟨rfl, trivial⟩
  · split
    · exact holds_pure.mpr ⟨rfl, trivial⟩
    · exact Still.seq (still_githubApiRequest fun _ _ => rfl) fun _ _ _ _ => holds_pure.mpr ⟨rfl, trivial⟩

theorem still_closePr (number : Int) : Still w (closePr dep number) past fun _ _ => True := by
  unfold closePr
  split
  · exact holds_pure.mpr ⟨rfl, trivial⟩
  · split
    · exact holds_pure.mpr ⟨rfl, trivial⟩
    · exact Still.seq (still_githubApiRequest fun _ _ => rfl) fun _ _ _ _ => holds_pure.mpr ⟨rfl, trivial⟩

theorem still_resolvePr (number : Int) (repo : Option Repo) (token : Option String) :
    Still w (resolvePr dep number repo token) past fun _ _ => True := by
  unfold resolvePr
  refine Still.seq (still_put fun _ _ => rfl) fun later data _ _ => ?_
  cases data with
  | none => exact holds_pure.mpr ⟨rfl, trivial⟩
  | some data =>
    dsimp only
    split
    · exact holds_pure.mpr ⟨rfl, trivial⟩
    · split
      · exact holds_pure.mpr ⟨rfl, trivial⟩
      · split
        · exact holds_pure.mpr ⟨rfl, trivial⟩
        · split
          · exact holds_pure.mpr ⟨rfl, trivial⟩
          · exact holds_pure.mpr ⟨rfl, trivial⟩

theorem still_certReadOnce (target : List UInt8) (roundId : Option String) :
    Still w (certReadOnce dep target roundId) past fun _ _ => True := by
  unfold certReadOnce
  refine Still.seq (still_put fun _ _ => rfl) fun _ readable _ _ => ?_
  split
  · exact holds_pure.mpr ⟨rfl, trivial⟩
  refine Still.seq (still_put fun _ _ => rfl) fun _ quorum _ _ => ?_
  cases quorum with
  | none => exact holds_pure.mpr ⟨rfl, trivial⟩
  | some quorum =>
  dsimp only
  split
  · exact holds_pure.mpr ⟨rfl, trivial⟩
  refine Still.seq (still_put fun _ _ => rfl) fun _ latest _ _ => ?_
  cases latest with
  | none => exact holds_pure.mpr ⟨rfl, trivial⟩
  | some latest =>
  dsimp only
  split
  · exact holds_pure.mpr ⟨rfl, trivial⟩
  · cases orNone roundId with
    | none => exact holds_pure.mpr ⟨rfl, trivial⟩
    | some round =>
      refine Still.seq (still_put fun _ _ => rfl) fun _ record _ _ => ?_
      cases record with
      | none => exact holds_pure.mpr ⟨rfl, trivial⟩
      | some record => exact holds_pure.mpr ⟨rfl, trivial⟩

theorem still_certReadAttempts (target : List UInt8) (roundId : Option String) (left : Nat) :
    Still w (certReadAttempts dep target roundId left) past fun _ _ => True := by
  induction left generalizing past with
  | zero => exact holds_pure.mpr ⟨rfl, trivial⟩
  | succ left ih =>
    refine Still.seq (still_certReadOnce target roundId) fun _ verdict _ _ => ?_
    cases verdict with
    | none => exact ih
    | some verdict => exact holds_pure.mpr ⟨rfl, trivial⟩

theorem still_onchainCertBinds (headSha : String) (roundId attestConfirmed : Option String) :
    Still w (onchainCertBinds dep headSha roundId attestConfirmed) past fun _ _ => True := by
  unfold onchainCertBinds
  dsimp only
  split
  · exact holds_pure.mpr ⟨rfl, trivial⟩
  · split
    · exact holds_pure.mpr ⟨rfl, trivial⟩
    · exact still_certReadAttempts _ roundId _

def ReadsFiles (said : Said) (number : Int) : Prop :=
  ∃ repo token reply, Heard said (.http (.pullFiles repo number) token) reply

theorem still_prTouchesCi (repo : Repo) (number : Int) :
    Still w (prTouchesCi repo number) past fun later touches => ReadsFiles later number ∧
      (touches = false → ∀ f ∈ (w.files number).take 100, inGithub f.filename = false) := by
  unfold prTouchesCi
  refine Still.seq (still_githubApiRequest fun _ _ => rfl) fun later reply _ answered => ?_
  obtain ⟨heard, honest⟩ := answered
  have reads : ReadsFiles later number := ⟨repo, none, reply, heard⟩
  cases listing : reply.body with
  | none => exact holds_pure.mpr ⟨rfl, reads, fun clean => nomatch clean⟩
  | some files =>
    dsimp only
    split
    · exact holds_pure.mpr ⟨rfl, reads, fun clean => nomatch clean⟩
    · next status =>
      refine holds_pure.mpr ⟨rfl, reads, fun clean f inside => ?_⟩
      have shown := honest (not_not.mp status) files listing
      rw [List.any_eq_false] at clean
      have outside := clean (some f.filename) (shown ▸ List.mem_map_of_mem inside)
      exact Bool.eq_false_iff.mpr outside

theorem tracks_squashMerge (repo : Repo) (number : Int) (liveHead : String)
    (roundId attestConfirmed : Option String) :
    Tracks w (squashMerge dep repo number liveHead roundId attestConfirmed) past fun later result =>
      result.ok = true → ReadsFiles later number ∧
        (∀ f ∈ (w.files number).take 100, inGithub f.filename = false) ∧
        w.mainAfter later = w.squashed (w.heads number) (w.mainAfter past) := by
  unfold squashMerge
  refine Holds.seq (still_prTouchesCi repo number) fun afterFiles touches _ read => ?_
  obtain ⟨same, reads, clean⟩ := read
  split
  · exact holds_pure.mpr fun ok => absurd ok Bool.false_ne_true
  next untouched =>
  refine Holds.seq (still_onchainCertBinds liveHead roundId attestConfirmed) fun _ _ grown cert => ?_
  split
  · exact holds_pure.mpr fun ok => absurd ok Bool.false_ne_true
  refine Holds.seq tracks_mergePull fun last reply grown' merges => ?_
  split
  · next status =>
    refine holds_pure.mpr fun _ => ?_
    obtain ⟨head, landed⟩ := merges (by simp [Reply.ok, status])
    obtain ⟨repo', token, filesReply, heard⟩ := reads
    have still : ReadsFiles _ number := ⟨repo', token, filesReply, heard.mono (grown.trans grown')⟩
    refine ⟨still, clean (by simpa using untouched), ?_⟩
    rw [landed, cert.1, same, head]
  · exact holds_pure.mpr fun ok => absurd ok Bool.false_ne_true

theorem still_privateTreeBlobs (repo : Repo) (headSha : String) (token : Option String) :
    Still w (privateTreeBlobs repo headSha token) past fun _ blobs =>
      ∀ entries, blobs = some entries → ∀ e ∈ entries, inGithub e.path = false := by
  unfold privateTreeBlobs
  refine Still.seq (still_githubApiRequest fun _ _ => rfl) fun later reply _ _ => ?_
  split
  · exact holds_pure.mpr ⟨rfl, fun entries read => nomatch read⟩
  · next body value =>
      split
      · exact holds_pure.mpr ⟨rfl, fun entries read => nomatch read⟩
      · refine holds_pure.mpr ⟨rfl, fun entries read e member => ?_⟩
        cases read
        obtain ⟨source, listed, rfl⟩ := List.mem_map.mp member
        have outside := (List.mem_filter.mp listed).2
        simp only [Bool.and_eq_true, Bool.not_eq_true'] at outside
        exact outside.2

theorem still_canonicalGithubEntries (repo : Repo) (mainTreeSha : String) (token : Option String) :
    Still w (canonicalGithubEntries repo mainTreeSha token) past fun _ preserved =>
      ∀ entries, preserved = some entries → entries = githubEntries (w.listings mainTreeSha) := by
  unfold canonicalGithubEntries
  refine Still.seq (still_githubApiRequest fun _ _ => rfl) fun _ reply _ answered => ?_
  split
  · exact holds_pure.mpr ⟨rfl, fun entries read => nomatch read⟩
  · next body value =>
    refine holds_pure.mpr ⟨rfl, fun entries read => ?_⟩
    cases read
    rw [answered.2 body value]

variable (source canonical : Repo)

theorem still_recreateBlob (sourceToken pushToken : Option String) (blob : NewEntry) :
    Still w (recreateBlob source canonical sourceToken pushToken blob) past
      fun _ made => ∀ entry, made = some entry → entry.path = blob.path := by
  unfold recreateBlob
  refine Still.seq (still_githubApiRequest fun _ _ => rfl) fun _ reply _ _ => ?_
  split
  · exact holds_pure.mpr ⟨rfl, fun entry made => nomatch made⟩
  · next body value =>
      refine Still.seq (still_githubApiRequest fun _ _ => rfl) fun _ created _ _ => ?_
      split
      · exact holds_pure.mpr ⟨rfl, fun entry made => nomatch made⟩
      · refine holds_pure.mpr ⟨rfl, fun entry made => ?_⟩
        cases made
        rfl

theorem still_recreateBlobs (sourceToken pushToken : Option String) (blobs : List NewEntry) :
    Still w (recreateBlobs source canonical sourceToken pushToken blobs) past
      fun _ made => ∀ posted, made = some posted →
        posted.map NewEntry.path = blobs.map NewEntry.path := by
  induction blobs generalizing past with
  | nil =>
    refine holds_pure.mpr ⟨rfl, fun posted made => ?_⟩
    cases made
    rfl
  | cons blob rest ih =>
    rw [recreateBlobs]
    refine Still.seq (still_recreateBlob source canonical sourceToken pushToken blob)
      fun _ entry _ first => ?_
    cases entry with
    | none => exact holds_pure.mpr ⟨rfl, fun posted made => by cases made⟩
    | some entry =>
      refine Still.seq ih fun _ others _ second => ?_
      cases others with
      | none => exact holds_pure.mpr ⟨rfl, fun posted made => by cases made⟩
      | some others =>
        refine holds_pure.mpr ⟨rfl, fun posted made => ?_⟩
        cases made
        rw [List.map_cons, List.map_cons, first entry rfl, second others rfl]

theorem still_placeBranch (canonical : Repo) (branch commit : String) (token : Option String) :
    Still w (placeBranch canonical branch commit token) past fun _ _ => True := by
  unfold placeBranch
  refine Still.seq (still_githubApiRequest fun _ _ => rfl) fun _ _ _ _ => ?_
  split
  · exact holds_pure.mpr ⟨rfl, trivial⟩
  · exact Still.seq (still_githubApiRequest fun _ _ => rfl) fun _ _ _ _ => holds_pure.mpr ⟨rfl, trivial⟩

theorem tracks_mergeBranch (canonical : Repo) (title branch message commit : String)
    (token : Option String) :
    Tracks w (mergeBranch canonical title branch message commit token) past fun later merged =>
      merged = true → w.mainAfter later = w.squashed commit (w.mainAfter past) := by
  unfold mergeBranch
  refine Holds.seq (still_githubApiRequest fun _ _ => rfl) fun _ _ _ opened => ?_
  split
  · exact holds_pure.mpr fun merged => nomatch merged
  · split
    · exact holds_pure.mpr fun merged => nomatch merged
    · refine Holds.seq tracks_mergePull fun _ reply _ merges => ?_
      refine holds_pure.mpr fun merged => ?_
      rw [(merges merged).2, opened.1]

def PostsTree (said : Said) : Prop :=
  ∃ repo entries token reply, Heard said (.http (.createTree repo entries) token) reply

theorem tracks_landTree (canonical : Repo) (title branch message parent : String)
    (posted : List NewEntry) (token : Option String) :
    Tracks w (landTree canonical title branch message parent posted token) past fun later landed =>
      landed = true → PostsTree later ∧ ∃ commit, w.commits commit = treeOf posted ∧
        w.bases commit = w.commits parent ∧
        w.mainAfter later = w.squashed commit (w.mainAfter past) := by
  unfold landTree
  refine Holds.seq (still_githubApiRequest fun _ _ => rfl) fun withTree treeReply _ treeMade => ?_
  obtain ⟨same, heard, made⟩ := treeMade
  split
  · exact holds_pure.mpr fun landed => nomatch landed
  next tree treeNamed =>
  refine Holds.seq (still_githubApiRequest fun _ _ => rfl) fun _ _ grownCommit commitMade => ?_
  obtain ⟨same', _, committed⟩ := commitMade
  split
  · exact holds_pure.mpr fun landed => nomatch landed
  next commit commitNamed =>
  refine Holds.seq (still_placeBranch _ _ _ _) fun placed _ grownRef ref => ?_
  split
  · exact holds_pure.mpr fun landed => nomatch landed
  refine Holds.seq (tracks_mergeBranch _ _ _ _ _ _) fun withMerge merged grownMerge landed => ?_
  refine Holds.seq (still_githubApiRequest fun _ _ => rfl) fun _ _ grownDelete deleted => ?_
  refine holds_pure.mpr fun done => ⟨?_, commit, ?_, ?_, ?_⟩
  · exact ⟨_, _, _, _, heard.mono
      (((grownCommit.trans grownRef).trans grownMerge).trans grownDelete)⟩
  · rw [(committed commit (some_of_orNone commitNamed)).1, made tree (some_of_orNone treeNamed)]
  · exact (committed commit (some_of_orNone commitNamed)).2
  · rw [deleted.1, landed done, ref.1, same', same]

/-- What the publisher makes of `main`: it squashes a commit that has under `.github/` what the listing
    shows there. -/
def Canonical.Publishes (w : Canonical) (main after : GitTree) : Prop :=
  ∃ commit, w.bases commit = w.trees w.mainTree ∧
    (∀ path, inGithub path = true →
      w.commits commit path = treeOf (githubEntries (w.listings w.mainTree)) path) ∧
    after = w.squashed commit main

theorem treeOf_posted {entries preserved} (outside : ∀ e ∈ entries, inGithub e.path = false) {path}
    (inside : inGithub path = true) :
    treeOf (entries ++ preserved) path = treeOf preserved path := by
  have none : entries.find? (·.path = path) = none := by
    rw [List.find?_eq_none]
    intro e member same
    have here := outside e member
    rw [of_decide_eq_true same, inside] at here
    cases here
  rw [treeOf, List.find?_append, none]
  rfl

theorem treeOf_githubEntries (name : String) {path} (inside : inGithub path = true) :
    (∃ e ∈ w.listings name, e.type = "blob" ∧ e.path = path) ∧
        treeOf (githubEntries (w.listings name)) path = w.trees name path ∨
      (¬ ∃ e ∈ w.listings name, e.type = "blob" ∧ e.path = path) ∧
        treeOf (githubEntries (w.listings name)) path = none := by
  unfold treeOf
  cases found : (githubEntries (w.listings name)).find? (·.path = path) with
  | none =>
    right
    refine ⟨?_, rfl⟩
    intro listed
    obtain ⟨e, listed, blob, same⟩ := listed
    have kept : (⟨e.path, e.mode, e.sha⟩ : NewEntry) ∈ githubEntries (w.listings name) := by
      refine List.mem_map.mpr ⟨e, List.mem_filter.mpr ⟨listed, ?_⟩, rfl⟩
      rw [← same] at inside
      simp only [blob, decide_true, Bool.true_and]
      exact inside
    rw [List.find?_eq_none] at found
    exact found _ kept (decide_eq_true same)
  | some entry =>
    left
    have member := List.mem_of_find?_eq_some found
    have same := List.find?_some found
    rw [decide_eq_true_eq] at same
    obtain ⟨e, kept, rfl⟩ := List.mem_map.mp member
    obtain ⟨listed, here⟩ := List.mem_filter.mp kept
    have blob : e.type = "blob" := by
      simp only [Bool.and_eq_true, decide_eq_true_eq] at here
      exact here.1
    refine ⟨⟨e, listed, blob, same⟩, ?_⟩
    rw [← same, w.listed name e listed blob, blob]
    rfl

theorem tracks_publishBlobs (certifiedSha : String) (roundId : Option String) (prNumber : Int)
    (sourceToken push : Option String) (branchPrefix label : String) {blobs}
    (outside : ∀ e ∈ blobs, inGithub e.path = false) :
    Tracks w (publishBlobs source canonical certifiedSha roundId prNumber sourceToken branchPrefix label
        blobs push) past fun later published =>
      published = true → PostsTree later ∧ w.Publishes (w.mainAfter past) (w.mainAfter later) := by
  unfold publishBlobs
  refine Holds.seq (still_githubApiRequest fun _ _ => rfl) fun _ mainRef _ main => ?_
  obtain ⟨sameMain, -, ref⟩ := main
  split
  case' h_2 => exact holds_pure.mpr fun published => nomatch published
  next mainBody mainNamed =>
  dsimp only
  refine Holds.seq (still_githubApiRequest fun _ _ => rfl) fun _ mainCommit _ tree => ?_
  obtain ⟨sameTree, -, treeRead⟩ := tree
  split
  case' h_2 => exact holds_pure.mpr fun published => nomatch published
  next treeBody treeNamed =>
  refine Holds.seq (still_canonicalGithubEntries _ _ _) fun _ preserved _ kept => ?_
  split
  case' h_2 => exact holds_pure.mpr fun published => nomatch published
  next preserved =>
  refine Holds.seq (still_recreateBlobs _ _ _ _ _) fun _ made _ remade => ?_
  split
  case' h_2 => exact holds_pure.mpr fun published => nomatch published
  next posted =>
  have headName := ref mainBody mainNamed
  have treeName := treeRead treeBody treeNamed headName
  have clean : ∀ e ∈ posted, inGithub e.path = false := by
    intro e member
    have named : e.path ∈ blobs.map NewEntry.path :=
      remade.2 posted rfl ▸ List.mem_map_of_mem member
    obtain ⟨blob, member, same⟩ := List.mem_map.mp named
    rw [← same]
    exact outside blob member
  refine (tracks_landTree _ _ _ _ _ _ _).mono fun last landed lands published => ?_
  obtain ⟨posts, commit, content, base, after⟩ := lands published
  refine ⟨posts, commit, ?_, ?_, ?_⟩
  · rw [base, headName, w.mainTree_eq]
  · intro path inside
    rw [content, treeOf_posted clean inside, kept.2 preserved rfl, treeName]
  · rw [after, remade.1, kept.1, sameTree, sameMain]

theorem tracks_publishCertifiedTreeToCanonical (source : Repo) (certifiedSha : String)
    (roundId : Option String) (prNumber : Int) (sourceToken : Option String)
    (branchPrefix label : String) :
    Tracks w (publishCertifiedTreeToCanonical dep source certifiedSha roundId prNumber sourceToken
        branchPrefix label) past fun later published =>
      published = true → PostsTree later ∧ w.Publishes (w.mainAfter past) (w.mainAfter later) := by
  unfold publishCertifiedTreeToCanonical
  split
  · split
    · exact holds_pure.mpr fun published => nomatch published
    · refine Holds.seq (still_privateTreeBlobs source certifiedSha sourceToken) fun _ blobs _ read => ?_
      split
      · next blobs =>
          rw [← read.1]
          exact tracks_publishBlobs _ _ _ _ _ _ _ _ _ (read.2 blobs rfl)
      · exact holds_pure.mpr fun published => nomatch published
  · exact holds_pure.mpr fun published => nomatch published

theorem PostsTree.mono {later} (grown : past <+: later) (posts : PostsTree past) :
    PostsTree later := by
  obtain ⟨repo, entries, token, reply, heard⟩ := posts
  exact ⟨repo, entries, token, reply, heard.mono grown⟩

theorem tracks_publishCertifiedTreeDespitePr (repo : Repo) (prNumber : Int) (certifiedSha : String)
    (roundId attestConfirmed : Option String) :
    Tracks w (publishCertifiedTreeDespitePr dep repo prNumber certifiedSha roundId attestConfirmed) past
      fun later result => result.ok = true →
        PostsTree later ∧ w.Publishes (w.mainAfter past) (w.mainAfter later) := by
  unfold publishCertifiedTreeDespitePr
  split
  · exact holds_pure.mpr fun ok => nomatch ok
  refine Holds.seq (still_onchainCertBinds _ _ _) fun _ bound _ cert => ?_
  split
  · exact holds_pure.mpr fun ok => nomatch ok
  refine Holds.seq (tracks_publishCertifiedTreeToCanonical _ _ _ _ _ _ _) fun _ published _ publishes => ?_
  split
  · exact holds_pure.mpr fun ok => nomatch ok
  next done =>
  refine Holds.seq (still_commentOnPr _ _ _ _) fun _ _ grownComment comment => ?_
  refine Holds.seq (still_closePr _) fun _ _ grownClose closed => holds_pure.mpr fun _ => ?_
  obtain ⟨posts, after⟩ := publishes (by simpa using done)
  refine ⟨posts.mono (grownComment.trans grownClose), ?_⟩
  rw [closed.1, comment.1, ← cert.1]
  exact after

theorem tracks_mergeMinerPrWhenCertified (prNumber : Int) (expectedHeadSha : String)
    (roundId attestConfirmed : Option String) :
    Tracks w (mergeMinerPrWhenCertified dep prNumber expectedHeadSha roundId attestConfirmed) past
      fun later result => result.ok = true →
        (ReadsFiles later prNumber ∧ (∀ f ∈ (w.files prNumber).take 100, inGithub f.filename = false) ∧
          w.mainAfter later = w.squashed (w.heads prNumber) (w.mainAfter past)) ∨
        (PostsTree later ∧ w.Publishes (w.mainAfter past) (w.mainAfter later)) := by
  unfold mergeMinerPrWhenCertified
  split
  case' h_2 => exact holds_pure.mpr fun ok => nomatch ok
  split
  · exact holds_pure.mpr fun ok => nomatch ok
  dsimp only
  refine Holds.seq (still_resolvePr _ _ _) fun _ resolved _ same => ?_
  split
  · exact holds_pure.mpr fun ok => nomatch ok
  rw [← same.1]
  split
  · exact (tracks_publishCertifiedTreeDespitePr _ _ _ _ _).mono fun _ _ publishes ok =>
      .inr (publishes ok)
  · exact (tracks_squashMerge _ _ _ _ _).mono fun _ _ squashes ok => .inl (squashes ok)

end

section

variable {w : Canonical} {said : Said}

theorem ciKept_iff_diffShows {number}
    (clean : ∀ f ∈ (w.files number).take 100, inGithub f.filename = false)
    (after : w.mainAfter said = w.squashed (w.heads number) w.main) :
    w.CiKept said ↔ w.DiffShows number := by
  constructor
  · intro kept touches
    obtain ⟨path, inside, -, fresh⟩ := touches
    have same := kept path inside
    rw [after] at same
    exact absurd same fresh
  · intro shows path inside
    rw [after]
    by_cases listed : ∃ f ∈ w.files number, f.filename = path ∨ f.previous = some path
    · by_contra fresh
      obtain ⟨f, early, shown⟩ := shows ⟨path, inside, listed, fresh⟩
      rw [clean f early] at shown
      cases shown
    · -- a path that the diff does not have is as the pull request found it
      have unchanged := not_not.mp (mt (w.changed number path).mp listed)
      rw [Canonical.squashed, unchanged]
      exact w.mergeLeaf_unchanged _ _

theorem ciKept_iff_listingShows (publishes : w.Publishes w.main (w.mainAfter said)) :
    w.CiKept said ↔ w.ListingShows := by
  obtain ⟨commit, base, content, after⟩ := publishes
  -- at a listed path the commit has the file of its base, elsewhere it has none
  have kept_iff : ∀ path, inGithub path = true → (w.mainAfter said path = w.main path ↔
      ∀ leaf, w.trees w.mainTree path = some leaf →
        (∃ e ∈ w.listings w.mainTree, e.type = "blob" ∧ e.path = path) ∨ w.main path = none) := by
    intro path inside
    rw [after, Canonical.squashed, base, content path inside]
    rcases treeOf_githubEntries w.mainTree inside with shown | hidden
    · obtain ⟨listed, same⟩ := shown
      rw [same, w.mergeLeaf_unchanged]
      exact ⟨fun _ _ _ => .inl listed, fun _ => rfl⟩
    · obtain ⟨unlisted, dropped⟩ := hidden
      rw [dropped]
      cases had : w.trees w.mainTree path with
      | none =>
        constructor
        · exact fun _ _ held => nomatch held
        · exact fun _ => w.mergeLeaf_unchanged _ _
      | some leaf =>
        rw [w.mergeLeaf_removed]
        constructor
        · exact fun same _ _ => .inr same.symm
        · exact fun kept => ((kept leaf rfl).resolve_left unlisted).symm
  constructor
  · exact fun kept path leaf inside held => (kept_iff path inside).mp (kept path inside) leaf held
  · exact fun shows path inside => (kept_iff path inside).mpr fun leaf held => shows path leaf inside held

end

/-- After a merge that succeeded `.github/` is as it was exactly when what the gate looked at shows what
    there is: the first page of the diff on one path, the listing of `main` on the others. -/
theorem ci_kept_iff (dep : Deployment) (w : Canonical) :
    (∀ (prNumber : Int) (expectedHeadSha : String) (roundId attestConfirmed : Option String)
      (said : Said) (result : MergeResult),
      Runs (mergeMinerPrWhenCertified dep prNumber expectedHeadSha roundId attestConfirmed) said result →
      (∀ e ∈ said, w.Honest e.1 e.2) → result.ok = true →
      (ReadsFiles said prNumber ∧ (w.CiKept said ↔ w.DiffShows prNumber)) ∨
        (PostsTree said ∧ (w.CiKept said ↔ w.ListingShows))) ∧
    (∀ (source : Repo) (certifiedSha : String) (roundId : Option String) (prNumber : Int)
      (sourceToken : Option String) (branchPrefix label : String) (said : Said),
      Runs (publishCertifiedTreeToCanonical dep source certifiedSha roundId prNumber sourceToken
        branchPrefix label) said true →
      (∀ e ∈ said, w.Honest e.1 e.2) → (w.CiKept said ↔ w.ListingShows)) := by
  constructor
  · intro prNumber expectedHeadSha roundId attestConfirmed said result run honest ok
    have tracked : Tracks w (mergeMinerPrWhenCertified dep prNumber expectedHeadSha roundId
      attestConfirmed) [] _ := tracks_mergeMinerPrWhenCertified prNumber _ _ _
    rcases (tracked.sound run honest).1 ok with squashes | publishes
    · obtain ⟨reads, clean, after⟩ := squashes
      exact .inl ⟨reads, ciKept_iff_diffShows clean after⟩
    · exact .inr ⟨publishes.1, ciKept_iff_listingShows publishes.2⟩
  · intro source certifiedSha roundId prNumber sourceToken branchPrefix label said run honest
    have tracked : Tracks w (publishCertifiedTreeToCanonical dep source certifiedSha roundId prNumber
      sourceToken branchPrefix label) [] _ := tracks_publishCertifiedTreeToCanonical _ _ _ _ _ _ _
    exact ciKept_iff_listingShows ((tracked.sound run honest).1 rfl).2

section

def workflow : String := ".github/workflows/ci.yml"

def solverFile : NewEntry := ⟨"solver.py", "100644", "b"⟩

def movedSha : String := repeated 'a'

def wholeTree : GitTree := treeOf [solverFile, ⟨workflow, "100644", "w"⟩]

def movedTree : GitTree := treeOf [solverFile, ⟨"ci.yml", "100644", "w"⟩]

def bareTree : GitTree := treeOf [solverFile]

theorem movedTree_ne_iff (path : String) :
    movedTree path ≠ wholeTree path ↔ path = "ci.yml" ∨ path = workflow := by
  have named : workflow ≠ "ci.yml" := by decide
  have solver : workflow ≠ "solver.py" := by decide
  unfold movedTree wholeTree
  rw [treeOf_cons, treeOf_cons, treeOf_cons, treeOf_cons, treeOf_nil]
  generalize workflow = hidden at named solver ⊢
  unfold solverFile
  grind

theorem bareTree_ne_iff (path : String) : bareTree path ≠ wholeTree path ↔ path = workflow := by
  have solver : workflow ≠ "solver.py" := by decide
  unfold bareTree wholeTree
  rw [treeOf_cons, treeOf_cons, treeOf_cons, treeOf_nil]
  generalize workflow = hidden at solver ⊢
  unfold solverFile
  grind

def movedCommits (sha : String) : GitTree :=
  if sha = "main" then wholeTree else if sha = movedSha then movedTree else bareTree

def movedFiles (number : Int) : List ChangedFile :=
  if number = 1 then [⟨"ci.yml", some workflow⟩] else [⟨workflow, none⟩]

def movedHeads (number : Int) : String := if number = 1 then movedSha else "c"

theorem moved_changed (number : Int) (path : String) :
    movedCommits (movedHeads number) path ≠ wholeTree path ↔
      ∃ f ∈ movedFiles number, f.filename = path ∨ f.previous = some path := by
  have apart : movedSha ≠ "main" := by decide
  have apart' : "c" ≠ movedSha := by decide
  by_cases miner : number = 1
  · simp [movedCommits, movedHeads, movedFiles, miner, apart, movedTree_ne_iff, eq_comm]
  · simp [movedCommits, movedHeads, movedFiles, miner, apart', bareTree_ne_iff, eq_comm]

def renamed : Canonical where
  trees name := if name = "tree" then wholeTree else bareTree
  commits := movedCommits
  bases _ := wholeTree
  mergeLeaf base main head := if head = base then main else head
  main := wholeTree
  mainCommit := "main"
  mainTree := "tree"
  listings _ := [⟨"solver.py", "100644", "blob", "b"⟩]
  heads := movedHeads
  files := movedFiles
  mergeLeaf_unchanged base main := if_pos rfl
  mergeLeaf_removed leaf main := rfl
  mainTree_eq := rfl
  listed := by
    intro name e member blob
    obtain rfl := List.mem_singleton.mp member
    by_cases whole : name = "tree" <;> simp [whole, wholeTree, bareTree, solverFile]
  changed := moved_changed

def movesWorkflow : (q : Question) → q.Answer
  | .http (.pullFiles _ number) _ =>
    ⟨200, some (((renamed.files number).take 100).map fun f => some f.filename)⟩
  | .http (.tree _ name) _ => ⟨200, some ⟨name, name = "tree", renamed.listings name⟩⟩
  | .http (.createTree _ entries) _ =>
    if entries = [solverFile] then ⟨201, some (some "t")⟩ else ⟨404, none⟩
  | .http (.createCommit _ _ tree parent) _ =>
    if tree = "t" ∧ parent = "main" then ⟨201, some (some "c")⟩ else ⟨404, none⟩
  | .http (.mergePull _ number sha) _ =>
    if sha = renamed.heads number then ⟨200, some ()⟩ else ⟨409, none⟩
  | .http call _ => publishing movedSha call
  | .registry => true
  | .quorumRequired => some 1
  | .latestChampion => some (some ⟨(keyless spellingHost).bytes32 movedSha, 1, true⟩)
  | .pull .. => some ⟨some "open", some "o/r", some movedSha, some "https://github.com/o/r.git"⟩
  | .attestRegistry => false
  | .commitLookup .. => none
  | .champion _ => none
  | .transactionCount => none
  | .sendCertify .. => none
  | .receipt _ => none

theorem honest_movesWorkflow (q : Question) : renamed.Honest q (movesWorkflow q) := by
  cases q with
  | http call token =>
    cases call with
    | pullFiles repo number =>
      intro status files listing
      exact (Option.some.inj listing).symm
    | tree repo name =>
      intro body value
      cases value
      rfl
    | mainRef repo =>
      intro body value
      cases value
      decide
    | commitTree repo sha =>
      intro body value main
      cases value
      decide
    | createTree repo entries =>
      intro tree value
      by_cases posted : entries = [solverFile]
      · simp only [movesWorkflow, posted, if_true, Reply.value, Reply.ok] at value
        cases value
        rw [posted]
        rfl
      · simp [movesWorkflow, posted, Reply.value, Reply.ok] at value
    | createCommit repo message tree parent =>
      intro commit value
      by_cases rebuilt : tree = "t" ∧ parent = "main"
      · simp only [movesWorkflow, rebuilt, if_true, and_self, Reply.value, Reply.ok] at value
        cases value
        obtain ⟨rfl, rfl⟩ := rebuilt
        exact ⟨rfl, rfl⟩
      · simp [movesWorkflow, rebuilt, Reply.value, Reply.ok] at value
    | mergePull repo number sha =>
      intro ok
      by_contra apart
      simp [movesWorkflow, apart, Reply.ok] at ok
    | _ => trivial
  | _ => trivial

def mergeOfRenamed : Talk MergeResult :=
  mergeMinerPrWhenCertified (keyless spellingHost) 1 "" (some "round") none

def publishOfRenamed : Talk Bool :=
  publishCertifiedTreeToCanonical (keyless spellingHost) ⟨"o", "r"⟩ movedSha (some "round") 1 none
    "certified-champion" "certified submission"

theorem mergeOfRenamed_ok : (replies movesWorkflow mergeOfRenamed).ok = true := by decide +kernel

theorem runs_publishOfRenamed :
    Runs publishOfRenamed (transcript movesWorkflow publishOfRenamed) true := by
  have published : replies movesWorkflow publishOfRenamed = true := by decide +kernel
  have run := @runs_transcript _ _ _ movesWorkflow publishOfRenamed
  rwa [published] at run

theorem honest_transcript {α : Type} {p : Talk α} :
    ∀ e ∈ transcript movesWorkflow p, renamed.Honest e.1 e.2 := by
  intro e member
  rw [answer_of_mem_transcript member]
  exact honest_movesWorkflow e.1

theorem not_ciKept_of_removed {said : Said} (removed : renamed.mainAfter said workflow = none) :
    ¬ renamed.CiKept said := by
  intro kept
  have inside : inGithub workflow = true := by decide
  have same := kept workflow inside
  rw [removed] at same
  exact absurd same (by decide)

theorem ci_kept_iff_renamed :
    (ReadsFiles (transcript movesWorkflow mergeOfRenamed) 1 ∧
        (renamed.CiKept (transcript movesWorkflow mergeOfRenamed) ↔ renamed.DiffShows 1) ∨
      PostsTree (transcript movesWorkflow mergeOfRenamed) ∧
        (renamed.CiKept (transcript movesWorkflow mergeOfRenamed) ↔ renamed.ListingShows)) ∧
    (renamed.CiKept (transcript movesWorkflow publishOfRenamed) ↔ renamed.ListingShows) :=
  ⟨(ci_kept_iff (keyless spellingHost) renamed).1 1 "" (some "round") none _ _ (runs_transcript _)
      honest_transcript mergeOfRenamed_ok,
    (ci_kept_iff (keyless spellingHost) renamed).2 _ _ _ _ _ _ _ _ runs_publishOfRenamed
      honest_transcript⟩

/-- Both ways of landing can take the workflow from `main`. -/
theorem workflow_removed :
    (∃ said result, Runs mergeOfRenamed said result ∧ (∀ e ∈ said, renamed.Honest e.1 e.2) ∧
      result.ok = true ∧ ¬ renamed.CiKept said) ∧
    ∃ said, Runs publishOfRenamed said true ∧ (∀ e ∈ said, renamed.Honest e.1 e.2) ∧
      ¬ renamed.CiKept said := by
  constructor
  · refine ⟨_, _, @runs_transcript _ _ _ movesWorkflow mergeOfRenamed, honest_transcript,
      mergeOfRenamed_ok, ?_⟩
    exact not_ciKept_of_removed (by decide +kernel)
  · refine ⟨_, runs_publishOfRenamed, honest_transcript, ?_⟩
    exact not_ciKept_of_removed (by decide +kernel)

end

end MinotaurSubnet.Relayer.SolverRepo
