import Mathlib.Data.List.DropRight
import MinotaurSubnet.Harness.SubmissionStore
import MinotaurSubnet.Library.Outcome

/-! # The submission store's records and its mutators

The in-memory side of `harness/submission_store.py`, with every field of a submission.
A mutator leaves the store behind and says which records it hands to `_persist_records`
(`none` when it does not get that far), or raises. `now` is the clock and a new
submission's id is an argument. Ids are stripped and not empty, rounds are not empty:
the two places that build records make them so.
-/

namespace MinotaurSubnet.Harness

open Library Python

theorem strip_strip (cs : List Char) : strip (strip cs) = strip cs := by
  have tail : ∀ l : List Char, (l.reverse.dropWhile isSpace).reverse = l.rdropWhile isSpace :=
    fun _ => rfl
  unfold strip
  simp only [tail]
  have head : ((cs.dropWhile isSpace).rdropWhile isSpace).dropWhile isSpace =
      (cs.dropWhile isSpace).rdropWhile isSpace := by
    obtain ⟨rest, whole⟩ := List.rdropWhile_prefix isSpace (l := cs.dropWhile isSpace)
    cases kept : (cs.dropWhile isSpace).rdropWhile isSpace with
    | nil => rfl
    | cons c more =>
      rw [kept, List.cons_append] at whole
      have visible : isSpace c = false := by
        have := List.head?_dropWhile_not isSpace cs
        rw [← whole] at this
        simpa using this
      rw [List.dropWhile_cons, visible]
      rfl
  rw [head, List.rdropWhile_idempotent]

/-- An id as `upsert` makes it. -/
structure SubmissionId where
  text : String
  stripped : String.ofList (strip text.toList) = text
  nonempty : text ≠ ""
  deriving DecidableEq

/-- `(raw or "").strip()`; `none` when nothing is left. -/
def SubmissionId.ofRaw (raw : String) : Option SubmissionId :=
  if nonempty : String.ofList (strip raw.toList) ≠ "" then
    some ⟨String.ofList (strip raw.toList), by rw [String.toList_ofList, strip_strip], nonempty⟩
  else none

theorem SubmissionId.ofRaw_text (id : SubmissionId) : SubmissionId.ofRaw id.text = some id := by
  obtain ⟨text, stripped, nonempty⟩ := id
  simp [SubmissionId.ofRaw, stripped, nonempty]

def SubmissionId.subA : SubmissionId := ⟨"sub_a", by decide, by decide⟩

def SubmissionId.subB : SubmissionId := ⟨"sub_b", by decide, by decide⟩

def SubmissionId.subC : SubmissionId := ⟨"sub_c", by decide, by decide⟩

structure RoundId where
  text : String
  nonempty : text ≠ ""
  deriving DecidableEq

/-- `f"legacy-epoch-{epoch}"`. -/
def legacyRoundId (epoch : Int) : RoundId where
  text := "legacy-epoch-" ++ toString epoch
  nonempty same := by
    have := congrArg String.length same
    simp at this

/-- `raw or legacy`. -/
def RoundId.ofRaw (raw : String) (epoch : Int) : RoundId :=
  if nonempty : raw ≠ "" then ⟨raw, nonempty⟩ else legacyRoundId epoch

theorem RoundId.ofRaw_text (round : RoundId) (epoch : Int) : RoundId.ofRaw round.text epoch = round := by
  simp [RoundId.ofRaw, round.nonempty]

structure StageResult where
  passed : Option Bool := none
  durationMs : Option Int := none
  details : Option String := none
  errorCode : Option String := none
  deriving DecidableEq

structure Waitlist where
  position : Option Int
  contenders : Option Int
  slots : Option Int
  nextRoundPriority : Bool
  deriving DecidableEq

theorem stages_nodup :
    (([("stage_1", {}), ("stage_2", {}), ("stage_3", {})] : List (String × StageResult)).map
      Prod.fst).Nodup := by decide

/-- `Submission`; the clone path is not persisted and not read here. -/
structure Submission where
  submissionId : SubmissionId
  repoUrl : String
  commitHash : String
  epoch : Int
  hotkey : String
  roundId : RoundId
  prNumber : Option Int := none
  isPrivate : Bool := false
  privateRepoFull : Option String := none
  githubOwner : Option String := none
  status : SubmissionStatus := .queued
  createdAt : ℚ := 0
  updatedAt : ℚ := 0
  screening : Dict String StageResult := ⟨[("stage_1", {}), ("stage_2", {}), ("stage_3", {})], stages_nodup⟩
  imageTag : Option String := none
  imageId : Option String := none
  imageDigest : Option String := none
  provenance : Option (Dict String Value) := none
  solverPath : Option String := none
  solverName : Option String := none
  solverVersion : Option String := none
  isCopycat : Bool := false
  coinedByHotkey : Option String := none
  maxRegionNodes : Option Int := none
  contentFingerprint : Option String := none
  unproductiveNodes : Option Int := none
  unproductiveMetricVersion : Option Int := none
  unproductiveTopOffenders : Option (List Value) := none
  benchmarkRank : Option Int := none
  benchmarkDetails : Option (Dict String Value) := none
  rejectionReason : Option String := none
  outcomeCode : Option String := none
  waitlist : Option Waitlist := none

structure NameEntry where
  ownerHotkey : String
  coinedAt : ℚ
  coinedSubmissionId : String
  display : Option String
  deriving DecidableEq

/-- Text operations of the host, the names nobody can coin and the token cipher. -/
structure StoreHost where
  lower : String → String
  repr : String → String
  normalizeSolverName : Option String → String
  exemptNames : List String
  /-- `_encrypt_token` under the store's key; `none` without a key. -/
  encryptToken : Option (String → String)
  decryptToken : String → Option String

def StoreHost.plain : StoreHost where
  lower := id
  repr := id
  normalizeSolverName name := name.getD ""
  exemptNames := []
  encryptToken := none
  decryptToken _ := none

/-- The in-memory store. `encTokens` mirrors the encrypted sidecar file. -/
structure StoreMemory where
  submissions : Dict String Submission
  keyed : ∀ id sub, submissions.get? id = some sub → sub.submissionId.text = id
  tokens : Dict String String := .empty
  encTokens : Dict String String := .empty
  names : Dict String NameEntry := .empty

inductive StoreError where
  | valueError (text : String)
  | keyError (text : String)
  deriving DecidableEq

/-- What a mutator leaves, and the ids it persists. -/
abbrev Mutation := Outcome StoreMemory StoreError (Option (List String))

namespace StoreMemory

def empty : StoreMemory where
  submissions := .empty
  keyed := by
    intro id sub found
    simp at found

def get (m : StoreMemory) (submissionId : String) : Option Submission :=
  m.submissions.get? submissionId

def put (m : StoreMemory) (sub : Submission) : StoreMemory :=
  { m with
    submissions := m.submissions.set sub.submissionId.text sub
    keyed := by
      intro id found record
      rw [Dict.get?_set] at record
      split at record
      · next same =>
        cases record
        exact same.symm
      · exact m.keyed id found record }

variable (m : StoreMemory)

theorem get_put (sub : Submission) (id : String) :
    (m.put sub).get id = if id = sub.submissionId.text then some sub else m.get id :=
  Dict.get?_set m.submissions sub.submissionId.text id sub

def mapRecords (m : StoreMemory) (f : Submission → Submission)
    (sameId : ∀ sub, (f sub).submissionId = sub.submissionId) : StoreMemory :=
  { m with
    submissions := m.submissions.mapValues fun _ sub => f sub
    keyed := by
      intro id sub found
      rw [Dict.get?_mapValues, Option.map_eq_some_iff] at found
      obtain ⟨old, record, rfl⟩ := found
      rw [sameId]
      exact m.keyed id old record }

theorem get_mapRecords (f : Submission → Submission)
    (sameId : ∀ sub, (f sub).submissionId = sub.submissionId) (id : String) :
    (m.mapRecords f sameId).get id = (m.get id).map f :=
  Dict.get?_mapValues m.submissions (fun _ sub => f sub) id

def withNames (m : StoreMemory) (names : Dict String NameEntry) : StoreMemory := { m with names }

@[simp] theorem get_withNames (names : Dict String NameEntry) (id : String) :
    (m.withNames names).get id = m.get id := rfl

def values (m : StoreMemory) : List Submission := m.submissions.values

variable (host : StoreHost)

/-- `purge_token`: the plain copy and the encrypted one. -/
def purgeToken (m : StoreMemory) (submissionId : String) : StoreMemory :=
  { m with tokens := m.tokens.erase submissionId, encTokens := m.encTokens.erase submissionId }

/-- `get_repo_token`: the plain copy, else the encrypted one where it decrypts. -/
def getRepoToken (m : StoreMemory) (submissionId : String) : Option String :=
  match m.tokens.get? submissionId with
  | some token => some token
  | none => (m.encTokens.get? submissionId).bind host.decryptToken

/-- The token part of `create`; the sidecar only keeps ids the store has. -/
def stashToken (m : StoreMemory) (submissionId token : String) : StoreMemory :=
  { m with
    tokens := m.tokens.set submissionId token
    encTokens := match host.encryptToken with
      | none => m.encTokens
      | some encrypt => (m.encTokens.set submissionId (encrypt token)).filter
          fun id _ => (m.get id).isSome }

@[simp] theorem get_purgeToken (submissionId id : String) :
    (m.purgeToken submissionId).get id = m.get id := rfl

@[simp] theorem get_stashToken (submissionId token id : String) :
    (m.stashToken host submissionId token).get id = m.get id := rfl

end StoreMemory

end MinotaurSubnet.Harness
