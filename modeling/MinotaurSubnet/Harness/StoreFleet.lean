import MinotaurSubnet.Harness.SubmissionDb
import MinotaurSubnet.Library.Machine

/-! # Stores of several processes over one database

Every store has a writer id. A mutator takes the file lock and reloads, then runs and
persists. A reload outside the lock is three steps: the `max_seq` query, the `load_since`
query and the merge; other steps may come between them, also steps of the same store.
A merge of rows waits for a mutator of its own store.
-/

namespace MinotaurSubnet.Harness

open Library Python

/-- A lock-free `_maybe_reload` that has not finished. -/
inductive Reload where
  /-- `max_seq` answered `latest`. -/
  | queried (latest : Nat)
  /-- `load_since` answered `rows`. -/
  | pulled (latest : Nat) (rows : List PulledRow)

structure Fleet where
  db : SubmissionDb
  store : String → StoreInstance
  reloads : String → List Reload
  /-- The writer id of the store that holds the file lock. -/
  guard : Option String

inductive FleetEvent where
  /-- A store is opened and hydrates, with record retention off. -/
  | start (me : String)
  | query (me : String)
  | pull (me : String) (k : Nat)
  | merge (me : String) (k : Nat)
  /-- Entering `_write_guard`. -/
  | lock (me : String)
  /-- The body of a mutator, and leaving the guard. -/
  | mutate (me : String) (op : StoreOp) (now : ℚ)

namespace Fleet

/-- Stores that have just hydrated. -/
def fresh (db : SubmissionDb) : Fleet where
  db := db
  store _ := (StoreInstance.load 0 db).1
  reloads _ := []
  guard := none

def withStore (s : Fleet) (me : String) (inst : StoreInstance) : Fleet :=
  { s with store := Function.update s.store me inst }

def withReloads (s : Fleet) (me : String) (reloads : List Reload) : Fleet :=
  { s with reloads := Function.update s.reloads me reloads }

variable (host : StoreHost) (cap : Int)

/-- The mutator's body and `_persist_records`; a body that does not persist leaves the
    database. -/
def mutate (s : Fleet) (me : String) (op : StoreOp) (now : ℚ) : Fleet :=
  let ran := op.run host now (s.store me).memory
  match ran.result with
  | .ok (some touched) =>
    let persisted := StoreInstance.persistRecords cap me ran.state touched s.db
    { (s.withStore me { s.store me with memory := persisted.1 }) with db := persisted.2, guard := none }
  | _ => { (s.withStore me { s.store me with memory := ran.state }) with guard := none }

/-- One step. The output names the store whose reload has just finished, and what `max_seq`
    had answered it. -/
def step (s : Fleet) : FleetEvent → Fleet × Option (String × Nat)
  | .start me =>
    ({ ((s.withStore me (StoreInstance.load 0 s.db).1).withReloads me []) with
        db := (StoreInstance.load 0 s.db).2
        guard := s.guard.filter (· ≠ me) }, none)
  | .query me =>
    if s.db.maxSeq ≤ (s.store me).lastSeenSeq then (s, some (me, s.db.maxSeq))
    else (s.withReloads me (s.reloads me ++ [.queried s.db.maxSeq]), none)
  | .pull me k =>
    match (s.reloads me)[k]? with
    | some (.queried latest) =>
      (s.withReloads me ((s.reloads me).set k
        (.pulled latest (s.db.loadSince me (s.store me).lastSeenSeq))), none)
    | _ => (s, none)
  | .merge me k =>
    match (s.reloads me)[k]? with
    | some (.pulled latest rows) =>
      if s.guard = some me ∧ rows ≠ [] then (s, none)
      else ((s.withStore me ((s.store me).merge latest rows)).withReloads me
        ((s.reloads me).eraseIdx k), some (me, latest))
    | _ => (s, none)
  | .lock me =>
    if s.guard.isSome then (s, none)
    else ({ s.withStore me ((s.store me).maybeReload me s.db) with guard := some me },
      some (me, s.db.maxSeq))
  | .mutate me op now => if s.guard = some me then (s.mutate host cap me op now, none) else (s, none)

/-- No `adopt` of an unknown id while another record is adopted. -/
def AdoptsKnown (s : Fleet) : FleetEvent → Prop
  | .mutate me op _ => ∀ id, op = .adopt id → (s.store me).memory.AdoptsKnown id
  | _ => True

end Fleet

/-- The two records are written as the same row and the same details, but for details a
    retention pass has deleted. -/
def Submission.Matches (cap : Int) (stored sub : Submission) : Prop :=
  sub.data = stored.data ∧ (sub.details? = stored.details? ∨ 0 < cap ∧ stored.details? = none)

structure StoreMemory.Agrees (cap : Int) (m : StoreMemory) (db : SubmissionDb) : Prop where
  rows : ∀ id row, db.rows.get? id = some row → ∃ sub, m.get id = some sub ∧ (db.record row).Matches cap sub
  known : ∀ id, (m.get id).isSome → (db.rows.get? id).isSome

theorem Submission.Matches.refl (cap : Int) (sub : Submission) : sub.Matches cap sub := ⟨rfl, .inl rfl⟩

theorem Submission.filter_details? (sub : Submission) :
    sub.details?.filter (·.entries ≠ []) = sub.details? := by
  unfold Submission.details?
  cases sub.benchmarkDetails with
  | none => rfl
  | some details =>
    by_cases filled : details.entries = []
    · simp [Option.filter, filled]
    · simp [Option.filter, filled]

namespace SubmissionDb

theorem details?_record {db : SubmissionDb} {id row} (found : db.rows.get? id = some row) :
    (db.record row).details? = (db.details.get? id).filter (·.entries ≠ []) := by
  have own := db.keyed id row found
  subst own
  rfl

end SubmissionDb

namespace StoreInstance

section

variable (cap : Int) (me : String) (m : StoreMemory) (touched : List String) (db : SubmissionDb)

theorem get_enforceRetention (id : String) : (m.enforceRetention cap).get id =
    (m.get id).map (StoreMemory.withoutDetails (m.strippedIds cap)) :=
  StoreMemory.get_mapRecords _ _ _ _

variable {id : String} {sub : Submission}

theorem pos_of_mem_strippedIds {cap} {m : StoreMemory} (stripped : id ∈ m.strippedIds cap) :
    0 < cap := by
  unfold StoreMemory.strippedIds at stripped
  simp only at stripped
  split at stripped
  · cases stripped
  next on => exact Int.not_le.mp on

theorem details?_withoutDetails {ids} (own : sub.submissionId.text = id) :
    (StoreMemory.withoutDetails ids sub).details? =
      if id ∈ ids then none else sub.details? := by
  unfold StoreMemory.withoutDetails
  rw [own]
  split <;> rfl

theorem data_withoutDetails (ids : List String) (sub : Submission) :
    (StoreMemory.withoutDetails ids sub).data = sub.data := by
  unfold StoreMemory.withoutDetails
  split <;> rfl

theorem persistRecords_untouched (fresh : id ∉ touched) :
    (persistRecords cap me m touched db).2.rows.get? id = db.rows.get? id ∧
      (persistRecords cap me m touched db).2.details.get? id =
        if id ∈ m.strippedIds cap then none else db.details.get? id := by
  have absent : ∀ sub ∈ touched.filterMap (m.enforceRetention cap).get, sub.submissionId.text ≠ id := by
    intro sub member same
    obtain ⟨id', listed, found⟩ := List.mem_filterMap.mp member
    have own := (m.enforceRetention cap).keyed id' sub found
    exact fresh (same ▸ own ▸ listed)
  obtain ⟨row, details⟩ := SubmissionDb.foldl_writeNext_absent me _ (db, db.maxSeq) absent
  constructor
  · exact row
  · show (SubmissionDb.dropDetails _ _).details.get? id = _
    rw [SubmissionDb.details_dropDetails, details]

theorem persistRecords_touched (listed : id ∈ touched) (found : m.get id = some sub) :
    (∃ seq, db.maxSeq < seq ∧ (persistRecords cap me m touched db).2.rows.get? id =
        some ⟨sub.data, seq, some me⟩) ∧
      (persistRecords cap me m touched db).2.details.get? id =
        if id ∈ m.strippedIds cap then none else sub.details? := by
  have own := m.keyed id sub found
  have kept : (m.enforceRetention cap).get id =
      some (StoreMemory.withoutDetails (m.strippedIds cap) sub) := by
    rw [get_enforceRetention, found, Option.map_some]
  have ownKept := (m.enforceRetention cap).keyed id _ kept
  have member : StoreMemory.withoutDetails (m.strippedIds cap) sub ∈
      touched.filterMap (m.enforceRetention cap).get := List.mem_filterMap.mpr ⟨id, listed, kept⟩
  have alone : ∀ other ∈ touched.filterMap (m.enforceRetention cap).get,
      other.submissionId.text = (StoreMemory.withoutDetails (m.strippedIds cap) sub).submissionId.text →
        other = StoreMemory.withoutDetails (m.strippedIds cap) sub := by
    intro other otherMember same
    obtain ⟨id', -, found'⟩ := List.mem_filterMap.mp otherMember
    have own' := (m.enforceRetention cap).keyed id' other found'
    have sameId : id' = id := by rw [← own', same, ownKept]
    rw [sameId, kept] at found'
    exact (Option.some.inj found').symm
  obtain ⟨⟨seq, later, row⟩, details⟩ := SubmissionDb.foldl_writeNext_mem me _ (db, db.maxSeq) member alone
  rw [ownKept] at row details
  rw [data_withoutDetails] at row
  refine ⟨⟨seq, later, row⟩, ?_⟩
  show (SubmissionDb.dropDetails _ _).details.get? id = _
  rw [SubmissionDb.details_dropDetails, details, details?_withoutDetails own]
  split <;> rfl

variable {cap me m touched db}

theorem matches_untouched (fresh : id ∉ touched) {row} (found : db.rows.get? id = some row)
    (record : (db.record row).Matches cap sub) :
    ((persistRecords cap me m touched db).2.record row).Matches cap sub := by
  obtain ⟨sameRow, details⟩ := persistRecords_untouched cap me m touched db fresh
  refine ⟨record.1, ?_⟩
  rw [SubmissionDb.details?_record (sameRow.trans found), details]
  split
  next stripped => exact .inr ⟨pos_of_mem_strippedIds stripped, rfl⟩
  next =>
    rw [← SubmissionDb.details?_record found]
    exact record.2

/-- For the store itself it does so still after the retention pass. -/
theorem matches_kept (fresh : id ∉ touched) {row} (found : db.rows.get? id = some row)
    (own : sub.submissionId.text = id) (record : (db.record row).Matches cap sub) :
    ((persistRecords cap me m touched db).2.record row).Matches cap
      (StoreMemory.withoutDetails (m.strippedIds cap) sub) := by
  obtain ⟨sameRow, details⟩ := persistRecords_untouched cap me m touched db fresh
  constructor
  · rw [data_withoutDetails]
    exact record.1
  · rw [SubmissionDb.details?_record (sameRow.trans found), details, details?_withoutDetails own]
    split
    · exact .inl rfl
    · rw [← SubmissionDb.details?_record found]
      exact record.2

theorem matches_touched (listed : id ∈ touched) (held : m.get id = some sub) {row : Row}
    (found : (persistRecords cap me m touched db).2.rows.get? id = some row) :
    (row.writer = some me ∧ db.maxSeq < row.updatedSeq) ∧
      ((persistRecords cap me m touched db).2.record row).Matches cap
        (StoreMemory.withoutDetails (m.strippedIds cap) sub) := by
  have own := m.keyed id sub held
  obtain ⟨⟨seq, later, written⟩, details⟩ := persistRecords_touched cap me m touched db listed held
  have read := SubmissionDb.details?_record found
  rw [written] at found
  cases found
  refine ⟨⟨rfl, later⟩, ?_, .inl ?_⟩
  · rw [data_withoutDetails]
    rfl
  · rw [read, details, details?_withoutDetails own]
    split
    · rfl
    · exact sub.filter_details?.symm

end

end StoreInstance

end MinotaurSubnet.Harness
