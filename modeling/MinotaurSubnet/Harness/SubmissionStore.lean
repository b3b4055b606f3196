import MinotaurSubnet.Library.Dict
import MinotaurSubnet.Python.Value

/-! # Submissions and the adopted champion

The part of `harness/submission_store.py` that the champion lifecycle uses. A
submission is stored under its own id, and the store carries the proof.
-/

namespace MinotaurSubnet.Harness

open Library Python

inductive SubmissionStatus where
  | queued
  | screeningStage1
  | screeningStage2
  | screeningStage3
  | pendingSelection
  | benchmarking
  | scored
  | waitlisted
  | rejected
  | adopted
  deriving DecidableEq

structure SubmissionRecord where
  submissionId : String
  repoUrl : String := ""
  commitHash : String := ""
  epoch : Int := 0
  roundId : String := ""
  hotkey : String := ""
  status : SubmissionStatus := .queued
  imageTag : Option String := none
  imageId : Option String := none
  imageDigest : Option String := none
  solverName : Option String := none
  solverVersion : Option String := none
  updatedAt : ℚ := 0
  deriving DecidableEq

/-- `bool(value)` of an optional string. -/
def truthy (value : Option String) : Bool := value.any (· ≠ "")

def genesisHotkey : String := "__genesis__"

def isRealMinerHotkey (hotkey : Option String) : Bool :=
  let value := String.ofList (strip (hotkey.getD "").toList)
  value ≠ "" && value ≠ genesisHotkey

structure SubmissionStore where
  submissions : Dict String SubmissionRecord
  keyed : ∀ id sub, submissions.get? id = some sub → sub.submissionId = id

namespace SubmissionStore

def empty : SubmissionStore where
  submissions := .empty
  keyed := by
    intro id sub found
    simp at found

def get (s : SubmissionStore) (submissionId : String) : Option SubmissionRecord :=
  s.submissions.get? submissionId

/-- The insert of `create` and `upsert_submission`: a record goes under its own id. -/
def put (s : SubmissionStore) (sub : SubmissionRecord) : SubmissionStore where
  submissions := s.submissions.set sub.submissionId sub
  keyed := by
    intro id found record
    rw [Dict.get?_set] at record
    split at record
    · next same =>
      cases record
      exact same.symm
    · exact s.keyed id found record

def mapRecords (s : SubmissionStore) (f : SubmissionRecord → SubmissionRecord)
    (sameId : ∀ sub, (f sub).submissionId = sub.submissionId) : SubmissionStore where
  submissions := s.submissions.mapValues fun _ sub => f sub
  keyed := by
    intro id sub found
    rw [Dict.get?_mapValues, Option.map_eq_some_iff] at found
    obtain ⟨old, record, rfl⟩ := found
    rw [sameId]
    exact s.keyed id old record

/-- `get_champion`: the first submission with status `ADOPTED`. -/
def getChampion (s : SubmissionStore) : Option SubmissionRecord :=
  s.submissions.values.find? fun sub => sub.status == .adopted

/-- What `adopt` makes of each record: the others lose the title before the id is looked
    up. -/
def adoptedRecord (submissionId : String) (now : ℚ) (sub : SubmissionRecord) : SubmissionRecord :=
  if sub.submissionId = submissionId then { sub with status := .adopted, updatedAt := now }
  else if sub.status = .adopted then { sub with status := .scored, updatedAt := now }
  else sub

/-- `adopt`: the records it leaves, and whether the submission was there. -/
def adopt (s : SubmissionStore) (submissionId : String) (now : ℚ) : SubmissionStore × Bool :=
  (s.mapRecords (adoptedRecord submissionId now) (by
    intro sub
    unfold adoptedRecord
    split
    · rfl
    · split <;> rfl), (s.get submissionId).isSome)

/-- `update_status` of a submission that is there. -/
def updateStatus (s : SubmissionStore) (submissionId : String) (status : SubmissionStatus) (now : ℚ) :
    SubmissionStore :=
  s.mapRecords
    (fun sub => if sub.submissionId = submissionId then { sub with status, updatedAt := now } else sub)
    (by
      intro sub
      split <;> rfl)

/-- `_reap_orphaned_benchmarking`: what is still benchmarking in the round is waitlisted. -/
def reapOrphanedBenchmarking (s : SubmissionStore) (roundId : String) (now : ℚ) : SubmissionStore :=
  if roundId = "" then s
  else s.mapRecords
    (fun sub => if sub.roundId = roundId ∧ sub.status = .benchmarking
      then { sub with status := .waitlisted, updatedAt := now } else sub)
    (by
      intro sub
      split <;> rfl)

def adoptedId (s : SubmissionStore) : Option String := s.getChampion.map (·.submissionId)

theorem adoptedId_mapRecords {s : SubmissionStore} {f : SubmissionRecord → SubmissionRecord}
    (sameId : ∀ sub, (f sub).submissionId = sub.submissionId)
    (sameTitle : ∀ sub, (f sub).status = .adopted ↔ sub.status = .adopted) :
    (s.mapRecords f sameId).adoptedId = s.adoptedId := by
  have values : (s.mapRecords f sameId).submissions.values = s.submissions.values.map f := by
    simp [mapRecords, Dict.mapValues, Dict.values]
  have title : ((fun sub : SubmissionRecord => sub.status == .adopted) ∘ f) =
      fun sub => sub.status == .adopted := by
    funext sub
    rw [Function.comp_apply, Bool.eq_iff_iff, beq_iff_eq, beq_iff_eq]
    exact sameTitle sub
  unfold adoptedId getChampion
  rw [values, List.find?_map, title, Option.map_map]
  congr 1
  funext sub
  exact sameId sub

theorem adoptedId_reapOrphanedBenchmarking (s : SubmissionStore) (roundId : String) (now : ℚ) :
    (s.reapOrphanedBenchmarking roundId now).adoptedId = s.adoptedId := by
  unfold reapOrphanedBenchmarking
  split
  · rfl
  · apply adoptedId_mapRecords
    intro sub
    split
    · next orphan => simp [orphan.2]
    · rfl

theorem adoptedId_adopt {s : SubmissionStore} {submissionId} (now : ℚ)
    (known : (s.adopt submissionId now).2 = true) :
    (s.adopt submissionId now).1.adoptedId = some submissionId := by
  obtain ⟨sub, found⟩ := Option.isSome_iff_exists.mp known
  have own : sub.submissionId = submissionId := s.keyed submissionId sub found
  have values : (s.adopt submissionId now).1.submissions.values =
      s.submissions.values.map (adoptedRecord submissionId now) := by
    simp [adopt, mapRecords, Dict.mapValues, Dict.values]
  have titled : ∃ x, (s.adopt submissionId now).1.getChampion = some x := by
    rw [← Option.isSome_iff_exists, getChampion, values, List.find?_isSome]
    refine ⟨adoptedRecord submissionId now sub, ?_, by simp [adoptedRecord, own]⟩
    exact List.mem_map_of_mem (Dict.mem_values.mpr ⟨submissionId, found⟩)
  obtain ⟨x, champion⟩ := titled
  have member := List.mem_of_find?_eq_some champion
  have adopted := List.find?_some champion
  rw [values] at member
  obtain ⟨old, _, rfl⟩ := List.mem_map.mp member
  have holder : old.submissionId = submissionId := by
    by_contra other
    simp only [adoptedRecord, if_neg other] at adopted
    split at adopted
    · simp at adopted
    · next untitled => exact untitled (by simpa using adopted)
  unfold adoptedId
  rw [champion, Option.map_some]
  simp [adoptedRecord, holder]

end SubmissionStore

end MinotaurSubnet.Harness
