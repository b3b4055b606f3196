import MinotaurSubnet.Harness.SubmissionMutators

/-! # The submission database and the pull from it

`harness/submission_db.py` as two tables, and the parts of the store that read and write
them: `_load` with its record retention, `_maybe_reload` and `_persist_records`. Every
statement succeeds. A row's data is the record without its benchmark details, which have
their own table; a blob is the record it encodes.
-/

namespace MinotaurSubnet.Harness

open Library Python

abbrev Details := Dict String Value

structure Row where
  data : Submission
  updatedSeq : Nat
  writer : Option String

structure SubmissionDb where
  rows : Dict String Row
  details : Dict String Details
  keyed : ∀ id row, rows.get? id = some row → row.data.submissionId.text = id

/-- A row as `load_since` returns it. -/
structure PulledRow where
  submissionId : String
  record : Submission
  updatedSeq : Nat

/-- `_split`: the record without its details. -/
def Submission.data (sub : Submission) : Submission := { sub with benchmarkDetails := none }

/-- `_split`: the details, when there are any. -/
def Submission.details? (sub : Submission) : Option Details :=
  sub.benchmarkDetails.filter (·.entries ≠ [])

namespace SubmissionDb

def empty : SubmissionDb where
  rows := .empty
  details := .empty
  keyed := by
    intro id row found
    simp at found

/-- `COALESCE(MAX(updated_seq), 0)`. -/
def maxSeq (db : SubmissionDb) : Nat := (db.rows.values.map (·.updatedSeq)).foldr max 0

def record (db : SubmissionDb) (row : Row) : Submission :=
  { row.data with benchmarkDetails := db.details.get? row.data.submissionId.text }

def loadAll (db : SubmissionDb) : Dict String Submission := db.rows.image db.record

/-- One record of `write_records`: a data upsert and a details upsert or delete. -/
def writeNext (writer : String) (acc : SubmissionDb × Nat) (sub : Submission) : SubmissionDb × Nat :=
  ({ rows := acc.1.rows.set sub.submissionId.text ⟨sub.data, acc.2 + 1, some writer⟩
     details := match sub.details? with
      | some details => acc.1.details.set sub.submissionId.text details
      | none => acc.1.details.erase sub.submissionId.text
     keyed := by
      intro id row found
      rw [Dict.get?_set] at found
      split at found
      next same =>
        cases found
        exact same.symm
      next => exact acc.1.keyed id row found }, acc.2 + 1)

def dropDetails (db : SubmissionDb) (ids : List String) : SubmissionDb :=
  { db with details := db.details.filter fun id _ => !ids.contains id }

/-- `write_records`, in one transaction. -/
def writeRecords (db : SubmissionDb) (writer : String) (records : List Submission)
    (stripIds : List String) : SubmissionDb :=
  (records.foldl (writeNext writer) (db, db.maxSeq)).1.dropDetails stripIds

/-- `delete_records`; the details go with their rows. -/
def deleteRecords (db : SubmissionDb) (ids : List String) : SubmissionDb where
  rows := db.rows.filter fun id _ => !ids.contains id
  details := db.details.filter fun id _ => !ids.contains id
  keyed id row found := db.keyed id row (Dict.get?_filter_some found)

/-- `load_since`: what others wrote after `seq`, oldest first. -/
def loadSince (db : SubmissionDb) (me : String) (seq : Nat) : List PulledRow :=
  (sortedBy (·.updatedSeq) (db.rows.values.filter fun row =>
    seq < row.updatedSeq && row.writer ≠ some me)).map
      fun row => ⟨row.data.submissionId.text, db.record row, row.updatedSeq⟩

theorem le_foldr_max {n} {seqs : List Nat} (member : n ∈ seqs) : n ≤ seqs.foldr max 0 := by
  induction seqs with
  | nil => cases member
  | cons head rest ih =>
    cases member with
    | head => exact le_max_left _ _
    | tail _ later => exact (ih later).trans (le_max_right _ _)

theorem foldr_max_mem (seqs : List Nat) : seqs.foldr max 0 = 0 ∨ seqs.foldr max 0 ∈ seqs := by
  induction seqs with
  | nil => exact .inl rfl
  | cons head rest ih =>
    rw [List.foldr_cons]
    rcases le_total head (rest.foldr max 0) with le | le
    · rw [max_eq_right le]
      exact ih.imp_right (List.mem_cons_of_mem head)
    · rw [max_eq_left le]
      exact .inr List.mem_cons_self

variable {db : SubmissionDb}

theorem updatedSeq_le_maxSeq {id} {row : Row} (found : db.rows.get? id = some row) :
    row.updatedSeq ≤ db.maxSeq :=
  le_foldr_max (List.mem_map.mpr ⟨row, Dict.mem_values.mpr ⟨id, found⟩, rfl⟩)

theorem maxSeq_mem (db : SubmissionDb) :
    db.maxSeq = 0 ∨ ∃ id row, db.rows.get? id = some row ∧ row.updatedSeq = db.maxSeq := by
  refine (foldr_max_mem (db.rows.values.map (·.updatedSeq))).imp_right ?_
  intro member
  obtain ⟨row, value, same⟩ := List.mem_map.mp member
  obtain ⟨id, found⟩ := Dict.mem_values.mp value
  exact ⟨id, row, found, same⟩

theorem maxSeq_le {bound} (each : ∀ id row, db.rows.get? id = some row → row.updatedSeq ≤ bound) :
    db.maxSeq ≤ bound := by
  obtain zero | ⟨id, row, found, same⟩ := db.maxSeq_mem
  · rw [zero]
    exact Nat.zero_le bound
  · exact same ▸ each id row found

@[simp] theorem rows_dropDetails (db : SubmissionDb) (ids : List String) :
    (db.dropDetails ids).rows = db.rows := rfl

variable (writer : String)

theorem get?_writeNext (acc : SubmissionDb × Nat) (sub : Submission) (id : String) :
    (writeNext writer acc sub).1.rows.get? id =
      if id = sub.submissionId.text then some ⟨sub.data, acc.2 + 1, some writer⟩
      else acc.1.rows.get? id :=
  Dict.get?_set _ _ _ _

theorem details_writeNext (acc : SubmissionDb × Nat) (sub : Submission) (id : String) :
    (writeNext writer acc sub).1.details.get? id =
      if id = sub.submissionId.text then sub.details? else acc.1.details.get? id := by
  unfold writeNext
  simp only
  split
  next details found =>
    rw [Dict.get?_set]
    split
    · exact found.symm
    · rfl
  next found =>
    rw [Dict.get?_erase]
    split
    · exact found.symm
    · rfl

theorem details_dropDetails (db : SubmissionDb) (ids : List String) (id : String) :
    (db.dropDetails ids).details.get? id = if id ∈ ids then none else db.details.get? id := by
  show (db.details.filter _).get? id = _
  rw [Dict.get?_filter]
  cases db.details.get? id with
  | none => simp
  | some details =>
    by_cases listed : id ∈ ids
    · simp [listed]
    · simp [listed]

theorem mem_loadSince {me seq pulled} :
    pulled ∈ db.loadSince me seq ↔ ∃ row, db.rows.get? pulled.submissionId = some row ∧
      seq < row.updatedSeq ∧ row.writer ≠ some me ∧
        pulled = ⟨row.data.submissionId.text, db.record row, row.updatedSeq⟩ := by
  simp [loadSince, mem_sortedBy, Dict.mem_values]
  constructor
  · rintro ⟨row, ⟨⟨id, found⟩, later, other⟩, rfl⟩
    have own := db.keyed id row found
    subst own
    exact ⟨row, found, later, other, rfl⟩
  · rintro ⟨row, found, later, other, same⟩
    exact ⟨row, ⟨⟨_, found⟩, later, other⟩, same.symm⟩

/-- Beyond `above`, no two rows share a sequence number. -/
def SeqsDistinct (db : SubmissionDb) (above : Nat) : Prop :=
  ∀ id id' row row', db.rows.get? id = some row → db.rows.get? id' = some row' →
    row.updatedSeq = row'.updatedSeq → above < row.updatedSeq → id = id'

theorem seqsDistinct_maxSeq (db : SubmissionDb) : db.SeqsDistinct db.maxSeq :=
  fun _ _ _ _ found _ _ beyond => absurd (updatedSeq_le_maxSeq found) (Nat.not_le.mpr beyond)

/-- The counter of a transaction is ahead of every row, and beyond `base` rows are numbered apart. -/
structure Numbered (base : Nat) (acc : SubmissionDb × Nat) : Prop where
  counter : ∀ id row, acc.1.rows.get? id = some row → row.updatedSeq ≤ acc.2
  distinct : acc.1.SeqsDistinct base

theorem SeqsDistinct.numbered {base} (distinct : db.SeqsDistinct base) :
    Numbered base (db, db.maxSeq) :=
  ⟨fun _ _ found => updatedSeq_le_maxSeq found, distinct⟩

theorem Numbered.writeNext {base acc} (numbered : Numbered base acc) (writer : String)
    (sub : Submission) : Numbered base (writeNext writer acc sub) where
  counter id row found := by
    rw [get?_writeNext] at found
    show row.updatedSeq ≤ acc.2 + 1
    split at found
    · cases found
      exact le_rfl
    · exact (numbered.counter id row found).trans (Nat.le_succ _)
  distinct id id' row row' found found' same beyond := by
    rw [get?_writeNext] at found found'
    split at found
    next here =>
      cases found
      split at found'
      next here' => exact here.trans here'.symm
      next =>
        have ahead := numbered.counter id' row' found'
        simp only at same
        omega
    next =>
      split at found'
      next =>
        cases found'
        have ahead := numbered.counter id row found
        simp only at same
        omega
      next => exact numbered.distinct id id' row row' found found' same beyond

theorem Numbered.foldl {base} (records : List Submission) {acc} (numbered : Numbered base acc) :
    Numbered base (records.foldl (SubmissionDb.writeNext writer) acc) := by
  induction records generalizing acc with
  | nil => exact numbered
  | cons sub rest ih => exact ih (numbered.writeNext writer sub)

theorem SeqsDistinct.writeRecords {base} (distinct : db.SeqsDistinct base) (writer : String)
    (records : List Submission) (stripIds : List String) :
    (db.writeRecords writer records stripIds).SeqsDistinct base :=
  (distinct.numbered.foldl writer records).distinct

theorem foldl_writeNext_absent (records : List Submission) (acc : SubmissionDb × Nat) {id}
    (absent : ∀ sub ∈ records, sub.submissionId.text ≠ id) :
    (records.foldl (writeNext writer) acc).1.rows.get? id = acc.1.rows.get? id ∧
      (records.foldl (writeNext writer) acc).1.details.get? id = acc.1.details.get? id := by
  induction records generalizing acc with
  | nil => exact ⟨rfl, rfl⟩
  | cons sub rest ih =>
    obtain ⟨here, later⟩ := List.forall_mem_cons.mp absent
    rw [List.foldl_cons]
    obtain ⟨row, details⟩ := ih (writeNext writer acc sub) later
    rw [row, details, get?_writeNext, details_writeNext, if_neg (Ne.symm here), if_neg (Ne.symm here)]
    exact ⟨rfl, rfl⟩

theorem foldl_writeNext_mem (records : List Submission) (acc : SubmissionDb × Nat) {sub}
    (member : sub ∈ records)
    (alone : ∀ other ∈ records, other.submissionId.text = sub.submissionId.text → other = sub) :
    (∃ seq, acc.2 < seq ∧ (records.foldl (writeNext writer) acc).1.rows.get? sub.submissionId.text =
        some ⟨sub.data, seq, some writer⟩) ∧
      (records.foldl (writeNext writer) acc).1.details.get? sub.submissionId.text = sub.details? := by
  induction records generalizing acc with
  | nil => cases member
  | cons head rest ih =>
    obtain ⟨aloneHere, aloneLater⟩ := List.forall_mem_cons.mp alone
    rw [List.foldl_cons]
    by_cases again : sub ∈ rest
    · obtain ⟨⟨seq, later, row⟩, details⟩ := ih (writeNext writer acc head) again aloneLater
      exact ⟨⟨seq, Nat.lt_of_succ_lt later, row⟩, details⟩
    · have here : sub = head := (List.mem_cons.mp member).resolve_right again
      subst here
      have last : ∀ other ∈ rest, other.submissionId.text ≠ sub.submissionId.text := by
        intro other otherMember same
        exact again (aloneLater other otherMember same ▸ otherMember)
      obtain ⟨row, details⟩ := foldl_writeNext_absent writer rest (writeNext writer acc sub) last
      rw [row, details, get?_writeNext, details_writeNext, if_pos rfl, if_pos rfl]
      exact ⟨⟨acc.2 + 1, Nat.lt_succ_self _, rfl⟩, rfl⟩

theorem loadSince_sorted (db : SubmissionDb) (me : String) (seq : Nat) :
    (db.loadSince me seq).Pairwise fun a b => a.updatedSeq ≤ b.updatedSeq :=
  List.pairwise_map.mpr (pairwise_sortedBy _ _)

theorem loadSince_own {me seq pulled} (member : pulled ∈ db.loadSince me seq) :
    pulled.record.submissionId.text = pulled.submissionId := by
  obtain ⟨row, -, -, -, same⟩ := mem_loadSince.mp member
  rw [same]
  rfl

theorem loadSince_unique {me seq a b} (memberA : a ∈ db.loadSince me seq)
    (memberB : b ∈ db.loadSince me seq) (same : a.submissionId = b.submissionId) : a = b := by
  obtain ⟨row, found, -, -, rowA⟩ := mem_loadSince.mp memberA
  obtain ⟨row', found', -, -, rowB⟩ := mem_loadSince.mp memberB
  rw [same, found'] at found
  cases found
  rw [rowA, rowB]

end SubmissionDb

structure StoreInstance where
  memory : StoreMemory
  lastSeenSeq : Nat

namespace StoreInstance

/-- `_RETENTION_PRUNABLE_VALUES`. -/
def prunableStatuses : List SubmissionStatus := [.scored, .waitlisted, .rejected]

/-- The ids `_apply_record_retention` drops: the oldest terminal rows beyond the cap. -/
def dropIds (cap : Int) (data : Dict String Submission) : List String :=
  if cap ≤ 0 ∨ (data.size : Int) ≤ cap then []
  else
    let excess := data.size - cap.toNat
    let prunable := data.entries.filter fun entry => prunableStatuses.contains entry.2.status
    ((sortedBy (fun entry => entry.2.createdAt) prunable).take excess).map Prod.fst

def hydrate (db : SubmissionDb) (drop : List String) : StoreMemory where
  submissions := db.loadAll.filter fun id _ => !drop.contains id
  keyed id sub found := by
    have loaded := Dict.get?_eq_some.mp (Dict.get?_filter_some found)
    obtain ⟨⟨key, row⟩, entry, same⟩ := List.mem_map.mp loaded
    cases same
    exact db.keyed key row (Dict.get?_eq_some.mpr entry)

/-- `_load`: the watermark is read before the rows and the rows before the prune. -/
def load (cap : Int) (db : SubmissionDb) : StoreInstance × SubmissionDb :=
  let drop := dropIds cap db.loadAll
  (⟨hydrate db drop, db.maxSeq⟩, if drop = [] then db else db.deleteRecords drop)

/-- What the merge of `_maybe_reload` has done so far. -/
structure Merge where
  memory : StoreMemory
  appliedThrough : Nat
  complete : Bool

def mergeNext (acc : Merge) (pulled : PulledRow) : Merge :=
  if !acc.complete || pulled.updatedSeq ≤ acc.appliedThrough then acc
  else match acc.memory.upsertOne (.ofRecord pulled.record) with
    | .error _ => { acc with complete := false }
    | .ok (memory, _) => ⟨memory, pulled.updatedSeq, true⟩

/-- The locked merge of the rows pulled after `max_seq` had answered `latest`; without rows
    only the watermark moves. -/
def merge (inst : StoreInstance) (latest : Nat) (rows : List PulledRow) : StoreInstance :=
  if rows = [] then { inst with lastSeenSeq := max inst.lastSeenSeq latest }
  else
    let merged := rows.foldl mergeNext ⟨inst.memory, inst.lastSeenSeq, true⟩
    ⟨merged.memory, max inst.lastSeenSeq (if merged.complete then latest else merged.appliedThrough)⟩

/-- `_maybe_reload` with nothing in between its steps. -/
def maybeReload (inst : StoreInstance) (me : String) (db : SubmissionDb) : StoreInstance :=
  if db.maxSeq ≤ inst.lastSeenSeq then inst
  else inst.merge db.maxSeq (db.loadSince me inst.lastSeenSeq)

/-- `_persist_records`: the retention pass, then one transaction. -/
def persistRecords (cap : Int) (me : String) (m : StoreMemory) (touched : List String)
    (db : SubmissionDb) : StoreMemory × SubmissionDb :=
  let stripped := m.strippedIds cap
  let kept := m.enforceRetention cap
  (kept, db.writeRecords me (touched.filterMap kept.get) stripped)

theorem upsertOne_ofRecord (m : StoreMemory) (sub : Submission) :
    m.upsertOne (.ofRecord sub) = .ok (m.put sub, sub.submissionId.text) := by
  simp [StoreMemory.upsertOne, IncomingRecord.ofRecord, SubmissionId.ofRaw_text, RoundId.ofRaw_text]

theorem mergeNext_eq (acc : Merge) (complete : acc.complete = true) (pulled : PulledRow) :
    mergeNext acc pulled = if pulled.updatedSeq ≤ acc.appliedThrough then acc
      else ⟨acc.memory.put pulled.record, pulled.updatedSeq, true⟩ := by
  unfold mergeNext
  rw [upsertOne_ofRecord, complete]
  simp

variable (rows : List PulledRow)

theorem foldl_mergeNext_complete (acc : Merge) (complete : acc.complete = true) :
    (rows.foldl mergeNext acc).complete = true := by
  induction rows generalizing acc with
  | nil => exact complete
  | cons pulled rest ih =>
    apply ih
    rw [mergeNext_eq acc complete]
    split
    · exact complete
    · rfl

theorem get_foldl_of_absent (acc : Merge) (complete : acc.complete = true)
    (own : ∀ pulled ∈ rows, pulled.record.submissionId.text = pulled.submissionId) {id}
    (absent : ∀ pulled ∈ rows, pulled.submissionId = id → pulled.updatedSeq ≤ acc.appliedThrough) :
    (rows.foldl mergeNext acc).memory.get id = acc.memory.get id := by
  induction rows generalizing acc with
  | nil => rfl
  | cons pulled rest ih =>
    obtain ⟨here, later⟩ := List.forall_mem_cons.mp absent
    obtain ⟨ownHere, ownLater⟩ := List.forall_mem_cons.mp own
    rw [List.foldl_cons, mergeNext_eq acc complete]
    split
    next seen => exact ih acc complete ownLater later
    next unseen =>
      have further : acc.appliedThrough ≤ pulled.updatedSeq := (Nat.lt_of_not_le unseen).le
      rw [ih _ rfl ownLater (fun p member same => (later p member same).trans further)]
      show (acc.memory.put pulled.record).get id = _
      rw [StoreMemory.get_put, ownHere, if_neg]
      intro same
      exact unseen (here same.symm)

theorem get_foldl_of_mem (acc : Merge) (complete : acc.complete = true)
    (own : ∀ pulled ∈ rows, pulled.record.submissionId.text = pulled.submissionId)
    (sorted : rows.Pairwise fun a b => a.updatedSeq ≤ b.updatedSeq)
    (unique : ∀ a ∈ rows, ∀ b ∈ rows, a.submissionId = b.submissionId → a = b) {pulled}
    (member : pulled ∈ rows)
    (alone : ∀ other ∈ rows, other.updatedSeq = pulled.updatedSeq → other = pulled)
    (unseen : acc.appliedThrough < pulled.updatedSeq) :
    (rows.foldl mergeNext acc).memory.get pulled.submissionId = some pulled.record := by
  induction rows generalizing acc with
  | nil => cases member
  | cons head rest ih =>
    obtain ⟨before, sortedRest⟩ := List.pairwise_cons.mp sorted
    obtain ⟨ownHere, ownLater⟩ := List.forall_mem_cons.mp own
    obtain ⟨aloneHere, aloneLater⟩ := List.forall_mem_cons.mp alone
    rw [List.foldl_cons]
    by_cases here : head = pulled
    · subst here
      rw [mergeNext_eq acc complete, if_neg (by omega), get_foldl_of_absent rest _ rfl ownLater]
      · show (acc.memory.put head.record).get _ = _
        rw [StoreMemory.get_put, ownHere, if_pos rfl]
      · intro other otherMember same
        rw [unique other (List.mem_cons_of_mem _ otherMember) head List.mem_cons_self same]
    · have later : pulled ∈ rest := (List.mem_cons.mp member).resolve_left (Ne.symm here)
      have order : head.updatedSeq < pulled.updatedSeq :=
        lt_of_le_of_ne (before pulled later) fun same => here (aloneHere same)
      apply ih _ _ ownLater sortedRest
        (fun a memberA b memberB => unique a (List.mem_cons_of_mem _ memberA) b
          (List.mem_cons_of_mem _ memberB)) later aloneLater
      · rw [mergeNext_eq acc complete]
        split
        · exact unseen
        · exact order
      · rw [mergeNext_eq acc complete]
        split
        · exact complete
        · rfl

theorem get_foldl_loadSince {db : SubmissionDb} {above seq} (distinct : db.SeqsDistinct above)
    {me id} {row : Row} (found : db.rows.get? id = some row) (beyond : above < row.updatedSeq)
    (later : seq < row.updatedSeq) (other : row.writer ≠ some me) (acc : Merge)
    (complete : acc.complete = true) (unseen : acc.appliedThrough < row.updatedSeq) :
    ((db.loadSince me seq).foldl mergeNext acc).memory.get id = some (db.record row) := by
  have own := db.keyed id row found
  subst own
  have member : (⟨row.data.submissionId.text, db.record row, row.updatedSeq⟩ : PulledRow) ∈
      db.loadSince me seq := SubmissionDb.mem_loadSince.mpr ⟨row, found, later, other, rfl⟩
  refine get_foldl_of_mem (db.loadSince me seq) acc complete
    (fun p member => SubmissionDb.loadSince_own member) (db.loadSince_sorted me seq)
    (fun a memberA b memberB same => SubmissionDb.loadSince_unique memberA memberB same) member ?_ unseen
  intro pulled pulledMember same
  apply SubmissionDb.loadSince_unique pulledMember member
  obtain ⟨row', found', -, -, sameRow⟩ := SubmissionDb.mem_loadSince.mp pulledMember
  have sameSeq : row'.updatedSeq = row.updatedSeq := by
    rw [sameRow] at same
    exact same
  exact distinct _ _ row' row found' found sameSeq (sameSeq ▸ beyond)

end StoreInstance

end MinotaurSubnet.Harness
