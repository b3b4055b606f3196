import MinotaurSubnet.Harness.SubmissionMutators
import MinotaurSubnet.Library.Fallible
import MinotaurSubnet.Python.Json

/-! # The rows of the submission database

`to_dict`, the two tables of `submission_db.py` with what is in their blobs, and the two decoders:
the row building of `_load`, which takes what it finds, and `_upsert_one`, which strips the id and
replaces empty values. A field of the dataclass holds any value, a status and a flag apart, and a
text is Unicode; `orjson`, `json` and `str` are parameters.
-/

namespace MinotaurSubnet.Harness

open Library Python

/-- A dictionary as `loads` returns it. -/
abbrev RowRecord := List (String × Value)

namespace RowRecord

/-- `d.get(key, default)`. -/
def get (d : RowRecord) (key : String) (default : Value := .none) : Value := (d.lookup key).getD default

/-- `d[key]`. -/
def item (d : RowRecord) (key : String) : Except PyError Value :=
  match d.lookup key with
  | some v => .ok v
  | none => .error .keyError

end RowRecord

namespace SubmissionStatus

def value : SubmissionStatus → String
  | queued => "queued"
  | screeningStage1 => "screening_stage_1"
  | screeningStage2 => "screening_stage_2"
  | screeningStage3 => "screening_stage_3"
  | pendingSelection => "pending_selection"
  | benchmarking => "benchmarking"
  | scored => "scored"
  | waitlisted => "waitlisted"
  | rejected => "rejected"
  | adopted => "adopted"

def all : List SubmissionStatus :=
  [queued, screeningStage1, screeningStage2, screeningStage3, pendingSelection, benchmarking, scored,
    waitlisted, rejected, adopted]

/-- `SubmissionStatus(v)`; a `ValueError` is none. -/
def ofValue? : Value → Option SubmissionStatus
  | .str text => all.find? (·.value = text)
  | _ => none

theorem ofValue?_value (status : SubmissionStatus) : ofValue? (.str status.value) = some status := by
  cases status <;> decide

end SubmissionStatus

/-- `Submission`, without the clone path, which is not persisted. -/
structure StoredSubmission where
  submissionId : Value
  repoUrl : Value
  commitHash : Value
  epoch : Value
  hotkey : Value
  roundId : Value := .str ""
  prNumber : Value := .none
  isPrivate : Bool := false
  privateRepoFull : Value := .none
  githubOwner : Value := .none
  status : SubmissionStatus := .queued
  createdAt : Value := .float (.fin 0)
  updatedAt : Value := .float (.fin 0)
  screening : Value
  imageTag : Value := .none
  imageId : Value := .none
  imageDigest : Value := .none
  provenance : Value := .none
  solverPath : Value := .none
  solverName : Value := .none
  solverVersion : Value := .none
  isCopycat : Bool := false
  coinedByHotkey : Value := .none
  maxRegionNodes : Value := .none
  contentFingerprint : Value := .none
  unproductiveNodes : Value := .none
  unproductiveMetricVersion : Value := .none
  unproductiveTopOffenders : Value := .none
  benchmarkRank : Value := .none
  benchmarkDetails : Value := .none
  rejectionReason : Value := .none
  outcomeCode : Value := .none
  waitlist : Value := .none

namespace StoredSubmission

def toDict (s : StoredSubmission) : RowRecord := [
  ("submission_id", s.submissionId), ("repo_url", s.repoUrl), ("commit_hash", s.commitHash),
  ("epoch", s.epoch), ("hotkey", s.hotkey), ("round_id", s.roundId), ("pr_number", s.prNumber),
  ("is_private", .bool s.isPrivate), ("private_repo_full", s.privateRepoFull),
  ("github_owner", s.githubOwner), ("status", .str s.status.value), ("created_at", s.createdAt),
  ("updated_at", s.updatedAt), ("screening", s.screening), ("image_tag", s.imageTag),
  ("image_id", s.imageId), ("image_digest", s.imageDigest), ("provenance", s.provenance),
  ("solver_path", s.solverPath), ("solver_name", s.solverName), ("solver_version", s.solverVersion),
  ("is_copycat", .bool s.isCopycat), ("coined_by_hotkey", s.coinedByHotkey),
  ("max_region_nodes", s.maxRegionNodes), ("content_fingerprint", s.contentFingerprint),
  ("unproductive_nodes", s.unproductiveNodes),
  ("unproductive_metric_version", s.unproductiveMetricVersion),
  ("unproductive_top_offenders", s.unproductiveTopOffenders), ("benchmark_rank", s.benchmarkRank),
  ("benchmark_details", s.benchmarkDetails), ("rejection_reason", s.rejectionReason),
  ("outcome_code", s.outcomeCode), ("waitlist", s.waitlist)]

end StoredSubmission

section

-- `str` of a value.
variable (str : Value → String)

/-- `_legacy_round_id`. -/
def legacyRoundIdOf (epoch : Value) : Value := .str ("legacy-epoch-" ++ str epoch)

/-- The row building of `_load`. -/
def loadRow (d : RowRecord) : Except PyError StoredSubmission := do
  let roundId := (d.get "round_id").or (legacyRoundIdOf str (d.get "epoch" (.int 0)))
  let submissionId ← d.item "submission_id"
  let repoUrl ← d.item "repo_url"
  let commitHash ← d.item "commit_hash"
  let epoch ← d.item "epoch"
  let hotkey ← d.item "hotkey"
  let rawStatus ← d.item "status"
  match SubmissionStatus.ofValue? rawStatus with
  | none => .error .valueError
  | some status => .ok {
      submissionId, repoUrl, commitHash, epoch, hotkey, roundId, status
      prNumber := d.get "pr_number"
      isPrivate := (d.get "is_private" (.bool false)).truthy
      privateRepoFull := d.get "private_repo_full"
      githubOwner := d.get "github_owner"
      createdAt := d.get "created_at" (.int 0)
      updatedAt := d.get "updated_at" (.int 0)
      screening := d.get "screening" (.dict [])
      imageTag := d.get "image_tag"
      imageId := d.get "image_id"
      imageDigest := d.get "image_digest"
      provenance := d.get "provenance"
      solverPath := d.get "solver_path"
      solverName := d.get "solver_name"
      solverVersion := d.get "solver_version"
      isCopycat := (d.get "is_copycat" (.bool false)).truthy
      coinedByHotkey := d.get "coined_by_hotkey"
      maxRegionNodes := d.get "max_region_nodes"
      contentFingerprint := d.get "content_fingerprint"
      unproductiveNodes := d.get "unproductive_nodes"
      unproductiveMetricVersion := d.get "unproductive_metric_version"
      unproductiveTopOffenders := d.get "unproductive_top_offenders"
      benchmarkRank := d.get "benchmark_rank"
      benchmarkDetails := d.get "benchmark_details"
      rejectionReason := d.get "rejection_reason"
      outcomeCode := d.get "outcome_code"
      waitlist := d.get "waitlist" }

/-- The row building of `_upsert_one`. -/
def upsertRow (record : RowRecord) : Except PyError StoredSubmission := do
  let sid := stripText (← ((record.get "submission_id").or (.str "")).asStr)
  if sid = "" then .error .valueError
  else
    let roundId := (record.get "round_id").or (legacyRoundIdOf str (record.get "epoch" (.int 0)))
    let rawStatus := record.get "status" (.str SubmissionStatus.queued.value)
    let epoch ← (record.get "epoch" (.int 0)).toIntOr 0
    .ok {
      submissionId := .str sid
      repoUrl := record.get "repo_url" (.str "")
      commitHash := record.get "commit_hash" (.str "")
      epoch := .int epoch
      hotkey := record.get "hotkey" (.str "")
      roundId
      prNumber := record.get "pr_number"
      isPrivate := (record.get "is_private" (.bool false)).truthy
      privateRepoFull := record.get "private_repo_full"
      githubOwner := record.get "github_owner"
      status := (SubmissionStatus.ofValue? rawStatus).getD .queued
      createdAt := (record.get "created_at" (.float (.fin 0))).or (.float (.fin 0))
      updatedAt := (record.get "updated_at" (.float (.fin 0))).or (.float (.fin 0))
      screening := (record.get "screening").or (.dict [])
      imageTag := record.get "image_tag"
      imageId := record.get "image_id"
      imageDigest := record.get "image_digest"
      provenance := record.get "provenance"
      solverPath := record.get "solver_path"
      solverName := record.get "solver_name"
      solverVersion := record.get "solver_version"
      isCopycat := (record.get "is_copycat" (.bool false)).truthy
      coinedByHotkey := record.get "coined_by_hotkey"
      maxRegionNodes := record.get "max_region_nodes"
      contentFingerprint := record.get "content_fingerprint"
      unproductiveNodes := record.get "unproductive_nodes"
      unproductiveMetricVersion := record.get "unproductive_metric_version"
      unproductiveTopOffenders := record.get "unproductive_top_offenders"
      benchmarkRank := record.get "benchmark_rank"
      benchmarkDetails := record.get "benchmark_details"
      rejectionReason := record.get "rejection_reason"
      outcomeCode := record.get "outcome_code"
      waitlist := record.get "waitlist" }

end

mutual

/-- Its integers are those of 64 bits. -/
def isNarrow : Value → Bool
  | .int i => decide (-2 ^ 63 ≤ i ∧ i < 2 ^ 64)
  | .list items => isNarrowItems items
  | .dict fields => isNarrowFields fields
  | _ => true

def isNarrowItems : List Value → Bool
  | [] => true
  | v :: rest => isNarrow v && isNarrowItems rest

def isNarrowFields : List (String × Value) → Bool
  | [] => true
  | (_, v) :: rest => isNarrow v && isNarrowFields rest

/-- How many lists and objects stand in one another. -/
def levels : Value → Nat
  | .list items => levelsOfItems items + 1
  | .dict fields => levelsOfFields fields + 1
  | _ => 0

def levelsOfItems : List Value → Nat
  | [] => 0
  | v :: rest => max (levels v) (levelsOfItems rest)

def levelsOfFields : List (String × Value) → Nat
  | [] => 0
  | (_, v) :: rest => max (levels v) (levelsOfFields rest)

end

theorem isNarrowFields_iff (fields : List (String × Value)) :
    isNarrowFields fields = true ↔ ∀ field ∈ fields, isNarrow field.2 = true := by
  induction fields with
  | nil => simp [isNarrowFields]
  | cons field rest ih =>
    obtain ⟨key, v⟩ := field
    simp [isNarrowFields, ih]

theorem levelsOfFields_le {n} (fields : List (String × Value)) :
    levelsOfFields fields ≤ n ↔ ∀ field ∈ fields, levels field.2 ≤ n := by
  induction fields with
  | nil => simp [levelsOfFields]
  | cons field rest ih =>
    obtain ⟨key, v⟩ := field
    simp [levelsOfFields, ih]

/-- A value that `orjson` takes; it gives up on the 255th level. -/
def Portable (v : Value) : Prop := v.isJson = true ∧ isNarrow v = true ∧ levels v < 255

theorem portable_dict {fields} : Portable (.dict fields) ↔ (Value.dict fields).isJson = true ∧
    ∀ field ∈ fields, isNarrow field.2 = true ∧ levels field.2 < 254 := by
  have few : levels (.dict fields) < 255 ↔ levelsOfFields fields ≤ 253 := by
    simp only [levels]
    omega
  rw [Portable, few, levelsOfFields_le, isNarrow, isNarrowFields_iff]
  simp only [Nat.le_iff_lt_add_one, forall₂_and]

theorem Portable.popMember {fields} (portable : Portable (.dict fields)) (key : String) :
    Portable (.dict (Value.popMember fields key)) := by
  refine portable_dict.mpr ⟨Value.isJson_popMember portable.1 key, fun field member => ?_⟩
  exact (portable_dict.mp portable).2 field (List.mem_of_mem_filter member)

theorem Portable.of_lookup {fields} (portable : Portable (.dict fields)) {key v}
    (found : fields.lookup key = some v) : Portable v := by
  obtain ⟨before, after, rfl, _⟩ := List.lookup_eq_some_iff.mp found
  obtain ⟨narrow, few⟩ := (portable_dict.mp portable).2 (key, v) (by simp)
  exact ⟨Value.isJson_of_lookup portable.1 found, narrow, few.trans (by decide)⟩

/-- The serializers of `fastjson.py`. `orjson` refuses some values that `json` writes, and what it
    takes comes back, as it does from `json`. -/
structure FastJson (β : Type*) where
  haveOrjson : Bool
  orjsonDumps : Value → Option β
  orjsonLoads : β → Option Value
  jsonDumps : Value → β
  jsonLoads : β → Option Value
  orjson_round_trip : ∀ v, Portable v → ∃ data, orjsonDumps v = some data ∧ orjsonLoads data = some v
  json_round_trip : ∀ v, Portable v → jsonLoads (jsonDumps v) = some v

namespace FastJson

variable {β : Type*} (codec : FastJson β)

def dumps (v : Value) : β :=
  if codec.haveOrjson then (codec.orjsonDumps v).getD (codec.jsonDumps v) else codec.jsonDumps v

/-- What `json` wrote because `orjson` refused it is left to `orjson` here. -/
def loads (data : β) : Option Value :=
  if codec.haveOrjson then codec.orjsonLoads data else codec.jsonLoads data

theorem loads_dumps {v} (portable : Portable v) : codec.loads (codec.dumps v) = some v := by
  unfold loads dumps
  cases codec.haveOrjson with
  | true =>
    obtain ⟨data, written, read⟩ := codec.orjson_round_trip v portable
    simp [written, read]
  | false => simp [codec.json_round_trip v portable]

end FastJson

structure BlobRow (β : Type*) where
  data : β
  updatedSeq : Nat
  writer : Option String

structure BlobDb (β : Type*) where
  rows : Dict String (BlobRow β) := .empty
  details : Dict String β := .empty
  migrated : Bool := false

namespace BlobDb

variable {β : Type*} (codec : FastJson β)

def split (record : RowRecord) : β × Option β :=
  let details := record.get "benchmark_details"
  (codec.dumps (.dict (Value.popMember record "benchmark_details")),
    if details.truthy then some (codec.dumps details) else none)

/-- `COALESCE(MAX(updated_seq), 0)`. -/
def maxSeq (db : BlobDb β) : Nat := (db.rows.values.map (·.updatedSeq)).foldr max 0

/-- One record of `write_records`. -/
def writeNext (writer : String) (acc : BlobDb β × Nat) (entry : String × RowRecord) : BlobDb β × Nat :=
  let (data, det) := split codec entry.2
  ({ acc.1 with
      rows := acc.1.rows.set entry.1 ⟨data, acc.2 + 1, some writer⟩
      details := match det with
        | some blob => acc.1.details.set entry.1 blob
        | none => acc.1.details.erase entry.1 }, acc.2 + 1)

/-- `write_records`, in one transaction. -/
def writeRecords (db : BlobDb β) (writer : String) (records : List (String × RowRecord))
    (stripIds : List String) : BlobDb β :=
  let written := (records.foldl (writeNext codec writer) (db, db.maxSeq)).1
  { written with details := written.details.filter fun id _ => !stripIds.contains id }

def importNext (db : BlobDb β) (entry : String × Value) : BlobDb β :=
  match entry.2 with
  | .dict record =>
    let (data, det) := split codec record
    { db with
      rows := db.rows.set entry.1 ⟨data, 0, none⟩
      details := match det with
        | some blob => db.details.set entry.1 blob
        | none => db.details }
  | _ => db

/-- `migrate_from_json` of the object in the file, when there is one. -/
def migrateFromJson (db : BlobDb β) (file : Option (List (String × Value))) : BlobDb β :=
  if db.migrated then db
  else if 0 < db.rows.size then { db with migrated := true }
  else { (file.getD []).foldl (importNext codec) db with migrated := true }

def joined (data : β) (details : Option β) : Option RowRecord :=
  match codec.loads data, details with
  | some (.dict body), none => some (Value.setMember body "benchmark_details" .none)
  | some (.dict body), some blob =>
    (codec.loads blob).map (Value.setMember body "benchmark_details")
  | _, _ => none

/-- `load_all`; a row that cannot be decoded raises. -/
def loadAll (db : BlobDb β) : Option (List (String × RowRecord)) :=
  db.rows.entries.mapM fun entry =>
    (joined codec entry.2.data (db.details.get? entry.1)).map (entry.1, ·)

/-- `load_since`; none when a row cannot be decoded. -/
def loadSince (db : BlobDb β) (me : String) (seq : Nat) : Option (List (String × RowRecord × Nat)) :=
  (sortedBy (·.2.updatedSeq) (db.rows.entries.filter fun entry =>
    seq < entry.2.updatedSeq && entry.2.writer ≠ some me)).mapM fun entry =>
      (joined codec entry.2.data (db.details.get? entry.1)).map (entry.1, ·, entry.2.updatedSeq)

end BlobDb

end MinotaurSubnet.Harness
