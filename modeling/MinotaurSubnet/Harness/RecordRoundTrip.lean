import MinotaurSubnet.Harness.SubmissionRows

/-! # Submissions written and read back

A submission comes back from the database through either decoder, with empty details as none, if
its round id is not empty and, for `_upsert_one`, its own id is stripped and not empty. On a row
from elsewhere the decoders agree when what only one of them repairs needs no repair.
-/

namespace MinotaurSubnet.Harness

open Library Python

def SameTime (v w : Value) : Prop := v = w ∨ ∃ x, v.number? = some x ∧ w.number? = some x

namespace StoredSubmission

/-- Equal in Python: times as numbers, everything else as it is. -/
structure Same (a b : StoredSubmission) : Prop where
  createdAt : SameTime a.createdAt b.createdAt
  updatedAt : SameTime a.updatedAt b.updatedAt
  rest : { a with createdAt := b.createdAt, updatedAt := b.updatedAt } = b

/-- The fields have the types that the decoders look at. -/
structure Annotated (s : StoredSubmission) (sid : String) : Prop where
  submissionId : s.submissionId = .str sid
  roundId : ∃ text, s.roundId = .str text
  epoch : ∃ n, s.epoch = .int n
  createdAt : ∃ x, s.createdAt.number? = some x
  updatedAt : ∃ x, s.updatedAt.number? = some x
  screening : ∃ fields, s.screening = .dict fields

def persisted (s : StoredSubmission) : StoredSubmission :=
  { s with benchmarkDetails := if s.benchmarkDetails.truthy then s.benchmarkDetails else .none }

/-- The record holds what `to_dict` says, with these details. -/
def Holds (s : StoredSubmission) (record : RowRecord) : Prop :=
  ∀ key, record.lookup key =
    if key = "benchmark_details" then some s.persisted.benchmarkDetails else s.toDict.lookup key

variable (str : Value → String)

variable {s : StoredSubmission} {record : RowRecord}

theorem loadRow_holds (holds : s.Holds record) :
    loadRow str record =
      .ok { s.persisted with roundId := s.roundId.or (legacyRoundIdOf str s.epoch) } := by
  unfold loadRow
  simp [RowRecord.get, RowRecord.item, holds _, toDict, List.lookup_cons, bind, Except.bind,
    SubmissionStatus.ofValue?_value, Value.truthy, persisted]

theorem upsertRow_holds (holds : s.Holds record) {sid} (own : s.submissionId = .str sid) {n}
    (epoch : s.epoch = .int n) :
    upsertRow str record = if stripText sid = "" then .error .valueError else
      .ok { s.persisted with
        submissionId := .str (stripText sid)
        roundId := s.roundId.or (legacyRoundIdOf str s.epoch)
        createdAt := s.createdAt.or (.float (.fin 0))
        updatedAt := s.updatedAt.or (.float (.fin 0))
        screening := s.screening.or (.dict []) } := by
  have text : ((record.get "submission_id").or (.str "")).asStr = .ok sid := by
    simp [RowRecord.get, holds _, toDict, own]
    by_cases blank : sid = ""
    · simp [blank, Value.or, Value.truthy, Value.asStr]
    · simp [blank, Value.or, Value.truthy, Value.asStr]
  have number : (record.get "epoch" (.int 0)).toIntOr 0 = .ok n := by
    simp only [RowRecord.get, holds _, toDict, List.lookup_cons, epoch]
    by_cases zero : n = 0
    · simp [zero, Value.toIntOr, Value.truthy]
    · simp [zero, Value.toIntOr, Value.truthy, Value.toInt]
  unfold upsertRow
  simp only [text, number, bind, Except.bind]
  split
  · rfl
  · simp [RowRecord.get, holds _, toDict, List.lookup_cons, SubmissionStatus.ofValue?_value, Value.truthy,
      persisted, epoch]

theorem or_of_truthy {v : Value} (fallback : Value) (truthy : v.truthy = true) : v.or fallback = v :=
  if_pos truthy

theorem sameTime_or {v : Value} (number : ∃ x, v.number? = some x) :
    SameTime (v.or (.float (.fin 0))) v := by
  by_cases truthy : v.truthy = true
  · rw [or_of_truthy _ truthy]
    exact .inl rfl
  · obtain ⟨x, is⟩ := number
    refine .inr ⟨x, ?_, is⟩
    rw [Value.or, if_neg truthy]
    -- the numbers that are not true are zero
    cases v with
    | bool b => simp_all [Value.truthy, Value.number?]
    | int i => simp_all [Value.truthy, Value.number?]
    | float f => cases f <;> simp_all [Value.truthy, Value.number?]
    | _ => simp [Value.number?] at is

theorem dict_or (fields : List (String × Value)) : (Value.dict fields).or (.dict []) = .dict fields := by
  cases fields <;> simp [Value.or, Value.truthy]

/-- A round id is replaced when it is empty, and never by itself. -/
theorem roundId_or {v : Value} (epoch : Value) (typed : ∃ text, v = .str text) :
    v.or (legacyRoundIdOf str epoch) = v ↔ v ≠ .str "" := by
  obtain ⟨text, rfl⟩ := typed
  by_cases blank : text = ""
  · subst blank
    have long := fun same : "legacy-epoch-" ++ str epoch = "" => congrArg String.length same
    simp only [Value.or, Value.truthy, legacyRoundIdOf, String.length_append] at long ⊢
    simp
  · simp [Value.or, Value.truthy, blank]

variable {str}

/-- `_load` reads the submission back. -/
def Loads (str : Value → String) (s : StoredSubmission) (record : RowRecord) : Prop :=
  ∃ b, loadRow str record = .ok b ∧ b.Same s.persisted

/-- `_upsert_one` reads the submission back. -/
def Upserts (str : Value → String) (s : StoredSubmission) (record : RowRecord) : Prop :=
  ∃ b, upsertRow str record = .ok b ∧ b.Same s.persisted

theorem loads_iff {sid} (annotated : s.Annotated sid) (holds : s.Holds record) :
    s.Loads str record ↔ s.roundId ≠ .str "" := by
  have round := roundId_or str s.epoch annotated.roundId
  unfold Loads
  rw [loadRow_holds str holds, ← round]
  constructor
  · rintro ⟨b, loaded, same⟩
    cases loaded
    exact congrArg roundId same.rest
  · intro kept
    exact ⟨_, rfl, .inl rfl, .inl rfl, by rw [kept]; rfl⟩

theorem upserts_iff {sid} (annotated : s.Annotated sid) (holds : s.Holds record) :
    s.Upserts str record ↔ s.roundId ≠ .str "" ∧ stripText sid = sid ∧ sid ≠ "" := by
  obtain ⟨n, epoch⟩ := annotated.epoch
  obtain ⟨fields, screening⟩ := annotated.screening
  have round := roundId_or str s.epoch annotated.roundId
  unfold Upserts
  rw [upsertRow_holds str holds annotated.submissionId epoch, ← round]
  constructor
  · rintro ⟨b, upserted, same⟩
    split at upserted
    · cases upserted
    · next named =>
      cases upserted
      have own := congrArg submissionId same.rest
      simp only [persisted, annotated.submissionId, Value.str.injEq] at own
      exact ⟨congrArg roundId same.rest, own, own ▸ named⟩
  · rintro ⟨kept, stripped, named⟩
    rw [if_neg (by rw [stripped]; exact named)]
    refine ⟨_, rfl, sameTime_or annotated.createdAt, sameTime_or annotated.updatedAt, ?_⟩
    rw [kept, stripped, screening, dict_or, ← annotated.submissionId, ← screening]
    rfl

end StoredSubmission

/-- What only one of the decoders repairs needs no repair. -/
structure RowRecord.Regular (d : RowRecord) : Prop where
  submissionId : ∃ sid, d.lookup "submission_id" = some (.str sid) ∧ stripText sid = sid ∧ sid ≠ ""
  repoUrl : ∃ v, d.lookup "repo_url" = some v
  commitHash : ∃ v, d.lookup "commit_hash" = some v
  epoch : ∃ n, d.lookup "epoch" = some (.int n)
  hotkey : ∃ v, d.lookup "hotkey" = some v
  status : ∃ status : SubmissionStatus, d.lookup "status" = some (.str status.value)
  createdAt : ∀ v, d.lookup "created_at" = some v → ∃ x, v.number? = some x
  updatedAt : ∀ v, d.lookup "updated_at" = some v → ∃ x, v.number? = some x
  screening : ∀ v, d.lookup "screening" = some v → ∃ fields, v = .dict fields

def RowRecord.Agreed (str : Value → String) (d : RowRecord) : Prop :=
  ∃ a b, loadRow str d = .ok a ∧ upsertRow str d = .ok b ∧ b.Same a

theorem sameTime_get {d : RowRecord} {key}
    (number : ∀ v, d.lookup key = some v → ∃ x, v.number? = some x) :
    SameTime ((d.get key (.float (.fin 0))).or (.float (.fin 0))) (d.get key (.int 0)) := by
  unfold RowRecord.get
  cases found : d.lookup key with
  | none =>
    refine .inr ⟨.fin 0, ?_, ?_⟩
    · simp [Value.or, Value.truthy, Value.number?]
    · simp [Value.number?]
  | some v => exact StoredSubmission.sameTime_or (number v found)

theorem screening_get {d : RowRecord}
    (dict : ∀ v, d.lookup "screening" = some v → ∃ fields, v = .dict fields) :
    (d.get "screening").or (.dict []) = d.get "screening" (.dict []) := by
  unfold RowRecord.get
  cases found : d.lookup "screening" with
  | none => rfl
  | some v =>
    obtain ⟨fields, rfl⟩ := dict v found
    exact StoredSubmission.dict_or fields

theorem agreed_of_regular (str : Value → String) {d : RowRecord} (regular : d.Regular) : d.Agreed str := by
  obtain ⟨sid, own, stripped, named⟩ := regular.submissionId
  obtain ⟨repoUrl, hasRepo⟩ := regular.repoUrl
  obtain ⟨commitHash, hasCommit⟩ := regular.commitHash
  obtain ⟨n, hasEpoch⟩ := regular.epoch
  obtain ⟨hotkey, hasHotkey⟩ := regular.hotkey
  obtain ⟨status, hasStatus⟩ := regular.status
  have text : ((d.get "submission_id").or (.str "")).asStr = .ok sid := by
    simp [RowRecord.get, own, Value.or, Value.truthy, named, Value.asStr]
  have number : (d.get "epoch" (.int 0)).toIntOr 0 = .ok n := by
    by_cases zero : n = 0
    · simp [RowRecord.get, hasEpoch, zero, Value.toIntOr, Value.truthy]
    · simp [RowRecord.get, hasEpoch, zero, Value.toIntOr, Value.truthy, Value.toInt]
  unfold RowRecord.Agreed loadRow upsertRow
  simp only [text, number, stripped, if_neg named, bind, Except.bind, RowRecord.item, own, hasRepo,
    hasCommit, hasEpoch, hasHotkey, hasStatus, SubmissionStatus.ofValue?_value]
  refine ⟨_, _, rfl, rfl, sameTime_get regular.createdAt, sameTime_get regular.updatedAt, ?_⟩
  simp only [screening_get regular.screening]
  simp [RowRecord.get, hasRepo, hasCommit, hasHotkey, hasStatus, SubmissionStatus.ofValue?_value]

def RowRecord.rejoined (record : RowRecord) : RowRecord :=
  Value.setMember (Value.popMember record "benchmark_details") "benchmark_details"
    (if (record.get "benchmark_details").truthy then record.get "benchmark_details" else .none)

theorem lookup_rejoined (record : RowRecord) (key : String) : record.rejoined.lookup key =
    if key = "benchmark_details" then
      some (if (record.get "benchmark_details").truthy then record.get "benchmark_details" else .none)
    else record.lookup key := by
  unfold RowRecord.rejoined
  rw [Value.lookup_setMember]
  split
  · rfl
  · next other => exact Value.lookup_popMember_of_ne record other

theorem holds_rejoined (s : StoredSubmission) : s.Holds (RowRecord.rejoined s.toDict) := by
  intro key
  rw [lookup_rejoined]
  have details : RowRecord.get s.toDict "benchmark_details" = s.benchmarkDetails := by
    simp [RowRecord.get, StoredSubmission.toDict, List.lookup_cons]
  rw [details]
  rfl

theorem regular_rejoined {record : RowRecord} (regular : record.Regular) :
    record.rejoined.Regular := by
  have kept : ∀ {key}, key ≠ "benchmark_details" → record.rejoined.lookup key = record.lookup key :=
    fun other => (lookup_rejoined record _).trans (if_neg other)
  constructor
  · rw [kept (by decide)]
    exact regular.submissionId
  · rw [kept (by decide)]
    exact regular.repoUrl
  · rw [kept (by decide)]
    exact regular.commitHash
  · rw [kept (by decide)]
    exact regular.epoch
  · rw [kept (by decide)]
    exact regular.hotkey
  · rw [kept (by decide)]
    exact regular.status
  · rw [kept (by decide)]
    exact regular.createdAt
  · rw [kept (by decide)]
    exact regular.updatedAt
  · rw [kept (by decide)]
    exact regular.screening

namespace BlobDb

variable {β : Type*} (codec : FastJson β)

variable {record : RowRecord}

theorem joined_split (portable : Portable (.dict record)) :
    joined codec (split codec record).1 (split codec record).2 = some record.rejoined := by
  have body := codec.loads_dumps (portable.popMember "benchmark_details")
  simp only [split, joined, body]
  unfold RowRecord.rejoined
  by_cases truthy : (record.get "benchmark_details").truthy = true
  · have details : Portable (record.get "benchmark_details") := by
      unfold RowRecord.get at truthy ⊢
      cases found : record.lookup "benchmark_details" with
      | none => exact ⟨rfl, rfl, by decide⟩
      | some v => exact portable.of_lookup found
    simp only [if_pos truthy, codec.loads_dumps details, Option.map_some]
  · simp only [if_neg truthy]

def read (db : BlobDb β) (id : String) : Option RowRecord :=
  (db.rows.get? id).bind fun row => joined codec row.data (db.details.get? id)

variable {db : BlobDb β} {id : String} {row : BlobRow β}

theorem lookup_loadAll {rows : List (String × RowRecord)} (loaded : db.loadAll codec = some rows)
    (id : String) : rows.lookup id = db.read codec id := by
  unfold loadAll at loaded
  unfold read Dict.get?
  generalize db.rows.entries = entries at loaded
  induction entries generalizing rows with
  | nil =>
    obtain rfl : [] = rows := Option.some.inj loaded
    rfl
  | cons entry rest ih =>
    rw [List.mapM_cons] at loaded
    obtain ⟨head, here, loaded⟩ := Option.bind_eq_some_iff.mp loaded
    obtain ⟨tail, later, loaded⟩ := Option.bind_eq_some_iff.mp loaded
    obtain rfl : head :: tail = rows := Option.some.inj loaded
    obtain ⟨record, decoded, rfl⟩ := Option.map_eq_some_iff.mp here
    obtain ⟨key, row⟩ := entry
    by_cases same : id = key
    · subst same
      simp
      exact decoded.symm
    · rw [List.lookup_cons, List.lookup_cons, beq_eq_false_iff_ne.mpr same]
      exact ih later

theorem mem_loadSince {me seq pulled} (since : db.loadSince codec me seq = some pulled)
    (found : db.rows.get? id = some row) (later : seq < row.updatedSeq)
    (peer : row.writer ≠ some me) :
    ∃ record n, (id, record, n) ∈ pulled ∧ db.read codec id = some record := by
  have listed : (id, row) ∈ sortedBy (·.2.updatedSeq) (db.rows.entries.filter fun entry =>
      seq < entry.2.updatedSeq && entry.2.writer ≠ some me) := by
    rw [mem_sortedBy, List.mem_filter]
    exact ⟨Dict.get?_eq_some.mp found, by simp [later, peer]⟩
  unfold loadSince at since
  obtain ⟨pull, member, decoded⟩ := exists_mem_mapM_some since listed
  obtain ⟨record, joins, rfl⟩ := Option.map_eq_some_iff.mp decoded
  refine ⟨record, row.updatedSeq, member, ?_⟩
  rw [read, found, Option.bind_some]
  exact joins

def Stores (db : BlobDb β) (id : String) (record : RowRecord) (row : BlobRow β) : Prop :=
  db.rows.get? id = some row ∧ row.data = (split codec record).1 ∧
    db.details.get? id = (split codec record).2

theorem Stores.read (stores : db.Stores codec id record row)
    (portable : Portable (.dict record)) :
    db.read codec id = some record.rejoined := by
  obtain ⟨found, data, details⟩ := stores
  rw [BlobDb.read, found, Option.bind_some, data, details]
  exact joined_split codec portable

theorem stores_writeNext (writer : String) (acc : BlobDb β × Nat) (id : String) (record : RowRecord) :
    (writeNext codec writer acc (id, record)).1.Stores codec id record
      ⟨(split codec record).1, acc.2 + 1, some writer⟩ := by
  refine ⟨Dict.get?_set_self _ _ _, rfl, ?_⟩
  simp only [writeNext]
  cases (split codec record).2 with
  | none => simp [Dict.get?_erase]
  | some blob => simp

theorem Stores.writeNext {counter} (stores : db.Stores codec id record row) (writer : String)
    {entry} (other : entry.1 ≠ id) :
    (writeNext codec writer (db, counter) entry).1.Stores codec id record row := by
  obtain ⟨found, data, details⟩ := stores
  refine ⟨?_, data, ?_⟩
  · exact (Dict.get?_set_ne _ _ (Ne.symm other)).trans found
  · rw [← details]
    simp only [BlobDb.writeNext]
    cases (split codec entry.2).2 with
    | none => rw [Dict.get?_erase, if_neg (Ne.symm other)]
    | some blob => rw [Dict.get?_set_ne _ _ (Ne.symm other)]

theorem Stores.foldl_writeNext (writer : String) {entries : List (String × RowRecord)}
    (others : id ∉ entries.map Prod.fst) {acc} (stores : acc.1.Stores codec id record row) :
    (entries.foldl (BlobDb.writeNext codec writer) acc).1.Stores codec id record row := by
  induction entries generalizing acc with
  | nil => exact stores
  | cons entry rest ih =>
    rw [List.map_cons, List.mem_cons, not_or] at others
    exact ih others.2 (stores.writeNext codec writer (Ne.symm others.1))

theorem counter_foldl_writeNext (writer : String) (entries : List (String × RowRecord))
    (acc : BlobDb β × Nat) :
    (entries.foldl (writeNext codec writer) acc).2 = acc.2 + entries.length := by
  induction entries generalizing acc with
  | nil => rfl
  | cons entry rest ih =>
    rw [List.foldl_cons, ih, List.length_cons]
    show acc.2 + 1 + rest.length = _
    omega

theorem stores_writeRecords (db : BlobDb β) (writer : String)
    (before after : List (String × RowRecord)) {stripIds} (record : RowRecord)
    (last : id ∉ after.map Prod.fst) (kept : id ∉ stripIds) :
    (db.writeRecords codec writer (before ++ (id, record) :: after) stripIds).Stores codec id record
      ⟨(split codec record).1, db.maxSeq + before.length + 1, some writer⟩ := by
  have stored := stores_writeNext codec writer (before.foldl (writeNext codec writer) (db, db.maxSeq))
    id record
  rw [counter_foldl_writeNext] at stored
  obtain ⟨found, data, details⟩ := stored.foldl_writeNext codec writer last
  unfold writeRecords
  rw [List.foldl_append, List.foldl_cons]
  refine ⟨found, data, ?_⟩
  rw [Dict.get?_filter_key, if_pos (by simpa using kept)]
  exact details

theorem stores_importNext (db : BlobDb β) (id : String) (record : RowRecord)
    (fresh : db.details.get? id = none) :
    (importNext codec db (id, .dict record)).Stores codec id record
      ⟨(split codec record).1, 0, none⟩ := by
  refine ⟨Dict.get?_set_self _ _ _, rfl, ?_⟩
  simp only [importNext]
  cases (split codec record).2 with
  | none => exact fresh
  | some blob => simp

theorem get?_importNext_ne (db : BlobDb β) {entry} (other : entry.1 ≠ id) :
    (importNext codec db entry).rows.get? id = db.rows.get? id ∧
      (importNext codec db entry).details.get? id = db.details.get? id := by
  unfold importNext
  split
  · next record _ =>
    refine ⟨Dict.get?_set_ne _ _ (Ne.symm other), ?_⟩
    simp only
    cases (split codec record).2 with
    | none => rfl
    | some blob => exact Dict.get?_set_ne _ _ (Ne.symm other)
  · exact ⟨rfl, rfl⟩

theorem get?_foldl_importNext {file : List (String × Value)} (others : id ∉ file.map Prod.fst)
    (db : BlobDb β) :
    (file.foldl (importNext codec) db).rows.get? id = db.rows.get? id ∧
      (file.foldl (importNext codec) db).details.get? id = db.details.get? id := by
  induction file generalizing db with
  | nil => exact ⟨rfl, rfl⟩
  | cons entry rest ih =>
    rw [List.map_cons, List.mem_cons, not_or] at others
    obtain ⟨rows, details⟩ := get?_importNext_ne codec db (Ne.symm others.1)
    obtain ⟨rows', details'⟩ := ih others.2 (importNext codec db entry)
    exact ⟨rows'.trans rows, details'.trans details⟩

theorem stores_migrateFromJson {file : List (String × Value)} (distinct : (file.map Prod.fst).Nodup)
    (member : (id, Value.dict record) ∈ file) :
    (migrateFromJson codec {} (some file)).Stores codec id record
      ⟨(split codec record).1, 0, none⟩ := by
  obtain ⟨before, after, rfl⟩ := List.append_of_mem member
  rw [List.map_append, List.map_cons] at distinct
  obtain ⟨-, tailDistinct, apart⟩ := List.nodup_append.mp distinct
  have notBefore : id ∉ before.map Prod.fst := fun inside => apart id inside id List.mem_cons_self rfl
  have notAfter : id ∉ after.map Prod.fst := (List.nodup_cons.mp tailDistinct).1
  obtain ⟨-, fresh⟩ := get?_foldl_importNext codec notBefore ({} : BlobDb β)
  obtain ⟨found, data, details⟩ := stores_importNext codec (before.foldl (importNext codec) {}) id record
    (fresh.trans (Dict.get?_empty id))
  obtain ⟨rows, details'⟩ := get?_foldl_importNext codec notAfter
    (importNext codec (before.foldl (importNext codec) {}) (id, .dict record))
  have imported : migrateFromJson codec {} (some (before ++ (id, .dict record) :: after)) =
      { after.foldl (importNext codec)
          (importNext codec (before.foldl (importNext codec) {}) (id, .dict record)) with
        migrated := true } := by
    rw [← List.foldl_cons, ← List.foldl_append]
    rfl
  rw [imported]
  exact ⟨rows.trans found, data, details'.trans details⟩

/-- `load_all` has the record under the id, and `load_since` of another instance that has seen
    nothing after `seen` has it too. -/
def Yields (db : BlobDb β) (writer : String) (seen : Nat) (id : String) (record : RowRecord) : Prop :=
  (∀ rows, db.loadAll codec = some rows → rows.lookup id = some record) ∧
    ∀ me seq pulled, me ≠ writer → seq ≤ seen → db.loadSince codec me seq = some pulled →
      ∃ n, (id, record, n) ∈ pulled

theorem Stores.yields {id writer} (stores : db.Stores codec id record row)
    (portable : Portable (.dict record)) {seen} (newer : seen < row.updatedSeq)
    (own : row.writer = some writer) :
    db.Yields codec writer seen id record.rejoined := by
  have read := stores.read codec portable
  constructor
  · intro rows loaded
    rw [lookup_loadAll codec loaded, read]
  · intro me seq pulled other before since
    have peer : row.writer ≠ some me := by
      rw [own]
      exact fun same => other (Option.some.inj same).symm
    obtain ⟨pulledRecord, n, member, reads⟩ := mem_loadSince codec since stores.1 (by omega) peer
    have same : pulledRecord = record.rejoined := Option.some.inj (reads.symm.trans read)
    exact ⟨n, same ▸ member⟩

end BlobDb

open BlobDb

theorem regular_of_holds {s : StoredSubmission} {sid} (annotated : s.Annotated sid)
    {record : RowRecord} (holds : s.Holds record) (stripped : stripText sid = sid)
    (named : sid ≠ "") :
    record.Regular where
  submissionId := ⟨sid, by simp [holds _, StoredSubmission.toDict, annotated.submissionId],
    stripped, named⟩
  repoUrl := by simp [holds _, StoredSubmission.toDict, List.lookup_cons]
  commitHash := by simp [holds _, StoredSubmission.toDict, List.lookup_cons]
  epoch := by simpa [holds _, StoredSubmission.toDict, List.lookup_cons] using annotated.epoch
  hotkey := by simp [holds _, StoredSubmission.toDict, List.lookup_cons]
  status := ⟨s.status, by simp [holds _, StoredSubmission.toDict, List.lookup_cons]⟩
  createdAt := by simpa [holds _, StoredSubmission.toDict, List.lookup_cons] using annotated.createdAt
  updatedAt := by simpa [holds _, StoredSubmission.toDict, List.lookup_cons] using annotated.updatedAt
  screening := by simpa [holds _, StoredSubmission.toDict, List.lookup_cons] using annotated.screening

/-- A written submission is read back by `_load` if its round id is not empty, and by `_upsert_one`
    if its id is stripped and not empty besides. The decoders agree on its row if the id is, and on
    every imported row that is regular. -/
theorem decoders_round_trip {β : Type*} (codec : FastJson β) (str : Value → String) :
    (∀ (db : BlobDb β) (writer : String) (before after : List (String × RowRecord))
        (stripIds : List String) (s : StoredSubmission) (sid : String), s.Annotated sid →
        Portable (.dict s.toDict) → sid ∉ after.map Prod.fst → sid ∉ stripIds →
        ∃ record, (db.writeRecords codec writer (before ++ (sid, s.toDict) :: after) stripIds).Yields
            codec writer db.maxSeq sid record ∧
          (s.Loads str record ↔ s.roundId ≠ .str "") ∧
          (s.Upserts str record ↔ s.roundId ≠ .str "" ∧ stripText sid = sid ∧ sid ≠ "") ∧
          (stripText sid = sid → sid ≠ "" → record.Agreed str)) ∧
      ∀ (file : List (String × Value)) (sid : String) (fields : RowRecord), (file.map Prod.fst).Nodup →
        (sid, Value.dict fields) ∈ file → Portable (.dict fields) → fields.Regular →
        ∃ record, (∀ rows, (migrateFromJson codec {} (some file)).loadAll codec = some rows →
          rows.lookup sid = some record) ∧ record.Agreed str := by
  constructor
  · intro db writer before after stripIds s sid annotated portable last kept
    have stores := stores_writeRecords codec db writer before after s.toDict last kept
    have holds := holds_rejoined s
    refine ⟨_, stores.yields codec portable (by simp only; omega) rfl, ?_, ?_, ?_⟩
    · exact StoredSubmission.loads_iff annotated holds
    · exact StoredSubmission.upserts_iff annotated holds
    · intro stripped named
      exact agreed_of_regular str (regular_of_holds annotated holds stripped named)
  · intro file sid fields distinct member portable regular
    have read := (stores_migrateFromJson codec distinct member).read codec portable
    refine ⟨fields.rejoined, fun rows loaded => ?_, agreed_of_regular str (regular_rejoined regular)⟩
    rw [lookup_loadAll codec loaded, read]

/-- Each serializer keeps a value as it is, and `orjson` takes no wide integer. -/
def plainCodec : FastJson Value where
  haveOrjson := true
  orjsonDumps v := if v.isJson && isNarrow v && decide (levels v < 255) then some v else none
  orjsonLoads := some
  jsonDumps := id
  jsonLoads := some
  orjson_round_trip v portable := ⟨v, by simp [portable.1, portable.2.1, portable.2.2], rfl⟩
  json_round_trip _ _ := rfl

def storedExample (roundId screening : Value) : StoredSubmission where
  submissionId := .str "sub_a"
  repoUrl := .str "https://github.com/a/solver"
  commitHash := .str "c0ffee"
  epoch := .int 7
  hotkey := .str "5Alice"
  roundId := roundId
  screening := screening

theorem annotated_storedExample (roundId : String) (screening : List (String × Value)) :
    (storedExample (.str roundId) (.dict screening)).Annotated "sub_a" :=
  ⟨rfl, ⟨_, rfl⟩, ⟨7, rfl⟩, ⟨_, rfl⟩, ⟨_, rfl⟩, ⟨_, rfl⟩⟩

theorem storedExample_read_back : ∃ record,
    (storedExample (.str "r1") (.dict [])).Loads (fun _ => "7") record ∧
      (storedExample (.str "r1") (.dict [])).Upserts (fun _ => "7") record ∧
      record.Agreed fun _ => "7" := by
  obtain ⟨record, -, loads, upserts, agreed⟩ := (decoders_round_trip plainCodec fun _ => "7").1 {} "api"
    [] [] [] _ "sub_a" (annotated_storedExample "r1" []) ⟨by decide, by decide, by decide⟩ (by simp) (by simp)
  have round : (storedExample (.str "r1") (.dict [])).roundId ≠ .str "" := by simp [storedExample]
  have stripped : stripText "sub_a" = "sub_a" := by decide
  exact ⟨record, loads.mpr round, upserts.mpr ⟨round, stripped, by decide⟩, agreed stripped (by decide)⟩

/-- A submission without a round id comes back under the legacy one, and on an imported row whose
    screening is null the decoders differ. -/
theorem decoders_differ :
    (¬ ∀ (s : StoredSubmission) (sid : String), s.Annotated sid → Portable (.dict s.toDict) →
        ∃ record, (({} : BlobDb Value).writeRecords plainCodec "api" [(sid, s.toDict)] []).Yields plainCodec
          "api" 0 sid record ∧ s.Loads (fun _ => "7") record ∧ s.Upserts (fun _ => "7") record) ∧
      ¬ ∀ (file : List (String × Value)) (sid : String) (fields : RowRecord), (file.map Prod.fst).Nodup →
        (sid, Value.dict fields) ∈ file → Portable (.dict fields) →
        ∃ record, (∀ rows, (migrateFromJson plainCodec {} (some file)).loadAll plainCodec = some rows →
          rows.lookup sid = some record) ∧ record.Agreed fun _ => "7" := by
  constructor
  · intro readBack
    obtain ⟨record, yields, loads, -⟩ := readBack (storedExample (.str "") (.dict [])) "sub_a"
      (annotated_storedExample "" []) ⟨by decide, by decide, by decide⟩
    have written : (({} : BlobDb Value).writeRecords plainCodec "api"
        [("sub_a", (storedExample (.str "") (.dict [])).toDict)] []).loadAll plainCodec =
        some [("sub_a", RowRecord.rejoined (storedExample (.str "") (.dict [])).toDict)] := rfl
    obtain rfl : RowRecord.rejoined _ = record := by simpa using yields.1 _ written
    have kept := (StoredSubmission.loads_iff (annotated_storedExample "" []) (holds_rejoined _)).mp loads
    exact kept rfl
  · intro agreed
    obtain ⟨record, only, a, b, loaded, upserted, same⟩ := agreed
      [("sub_a", .dict (storedExample (.str "r1") .none).toDict)] "sub_a" _ (by simp)
      List.mem_cons_self ⟨by decide, by decide, by decide⟩
    have imported : (migrateFromJson plainCodec {}
        (some [("sub_a", .dict (storedExample (.str "r1") .none).toDict)])).loadAll plainCodec =
        some [("sub_a", RowRecord.rejoined (storedExample (.str "r1") .none).toDict)] := rfl
    obtain rfl : RowRecord.rejoined _ = record := by simpa using only _ imported
    rw [StoredSubmission.loadRow_holds _ (holds_rejoined _)] at loaded
    rw [StoredSubmission.upsertRow_holds _ (holds_rejoined _) rfl rfl] at upserted
    cases loaded
    rw [if_neg (by decide)] at upserted
    cases upserted
    have screening := congrArg StoredSubmission.screening same.rest
    simp [StoredSubmission.persisted, storedExample, Value.or, Value.truthy] at screening

end MinotaurSubnet.Harness
