import MinotaurSubnet.Harness.SubmissionDb

/-! # Pruning and the watermarks

Load-time retention deletes the oldest terminal rows by creation time, and the next
sequence number is one more than the largest left. What is committed later is delivered
to a store exactly when its watermark is not above the largest surviving number, so
retention is safe exactly when a row with the largest number survives it.
-/

namespace MinotaurSubnet.Harness

open Library Python

/-- One transaction of a store: who writes, what, and which details rows it strips. -/
structure Commit where
  writer : String
  records : List Submission
  stripIds : List String

/-- What other stores do to the database. -/
inductive PeerStep where
  | commit (write : Commit)
  /-- A store starts, and prunes as it loads. -/
  | start (cap : Int)

def KeepsNewest (cap : Int) (db : SubmissionDb) : Prop :=
  db.maxSeq = 0 ∨ ∃ id row, db.rows.get? id = some row ∧ row.updatedSeq = db.maxSeq ∧
    id ∉ StoreInstance.dropIds cap db.loadAll

def SubmissionDb.peerStep (db : SubmissionDb) : PeerStep → SubmissionDb
  | .commit write => db.writeRecords write.writer write.records write.stripIds
  | .start cap => (StoreInstance.load cap db).2

/-- Steps of others than `me` whose own loads keep a newest row. -/
def PeerStep.Sound (me : String) (db : SubmissionDb) : PeerStep → Prop
  | .commit write => write.writer ≠ me
  | .start cap => KeepsNewest cap db

/-- The databases others make of `db`. -/
inductive Later (me : String) (db : SubmissionDb) : SubmissionDb → Prop where
  | refl : Later me db db
  | next {db' : SubmissionDb} (step : PeerStep) : Later me db db' → step.Sound me db' →
      Later me db (db'.peerStep step)

/-- Whatever others commit from `db` on, the next `_maybe_reload` puts every row of it into
    memory. -/
def StoreInstance.Delivered (store : StoreInstance) (me : String) (db : SubmissionDb) : Prop :=
  ∀ db', Later me db db' → ∀ id row, db'.rows.get? id = some row → db.maxSeq < row.updatedSeq →
    (store.maybeReload me db').memory.get id = some (db'.record row)

namespace StoreInstance

theorem get?_load_rows (cap : Int) (db : SubmissionDb) (id : String) :
    (load cap db).2.rows.get? id = if id ∈ dropIds cap db.loadAll then none else db.rows.get? id := by
  unfold load
  by_cases nothing : dropIds cap db.loadAll = []
  · simp [nothing]
  · simp [nothing]
    show (db.rows.filter _).get? id = _
    rw [Dict.get?_filter]
    cases db.rows.get? id with
    | none => simp
    | some row =>
      by_cases listed : id ∈ dropIds cap db.loadAll
      · simp [listed]
      · simp [listed]

theorem rows_of_load {cap db id row} (found : (load cap db).2.rows.get? id = some row) :
    db.rows.get? id = some row := by
  rw [get?_load_rows] at found
  split at found
  · cases found
  · exact found

theorem maxSeq_load_le (cap : Int) (db : SubmissionDb) : (load cap db).2.maxSeq ≤ db.maxSeq := by
  apply SubmissionDb.maxSeq_le
  intro id row found
  exact SubmissionDb.updatedSeq_le_maxSeq (rows_of_load found)

theorem maxSeq_load_iff (cap : Int) (db : SubmissionDb) :
    (load cap db).2.maxSeq = db.maxSeq ↔ KeepsNewest cap db := by
  constructor
  · intro same
    obtain zero | ⟨id, row, found, newest⟩ := (load cap db).2.maxSeq_mem
    · exact .inl (same ▸ zero)
    · have kept : id ∉ dropIds cap db.loadAll := by
        intro dropped
        rw [get?_load_rows, if_pos dropped] at found
        cases found
      exact .inr ⟨id, row, rows_of_load found, newest.trans same, kept⟩
  · intro keeps
    apply le_antisymm (maxSeq_load_le cap db)
    cases keeps with
    | inl zero => exact zero ▸ Nat.zero_le _
    | inr newest =>
      obtain ⟨id, row, found, top, kept⟩ := newest
      rw [← top]
      refine SubmissionDb.updatedSeq_le_maxSeq (?_ : Dict.get? _ id = some row)
      rw [get?_load_rows, if_neg kept, found]

end StoreInstance

namespace SubmissionDb

/-- Rows numbered after `base` are numbered apart and were not written by `me`. -/
structure CommittedBy (base : Nat) (me : String) (acc : SubmissionDb × Nat) : Prop where
  numbered : Numbered base acc
  others : ∀ id row, acc.1.rows.get? id = some row → base < row.updatedSeq → row.writer ≠ some me

theorem CommittedBy.writeNext {base me writer acc} (committed : CommittedBy base me acc)
    (other : writer ≠ me) (sub : Submission) :
    CommittedBy base me (writeNext writer acc sub) where
  numbered := committed.numbered.writeNext writer sub
  others id row found beyond := by
    rw [get?_writeNext] at found
    split at found
    · cases found
      simpa using other
    · exact committed.others id row found beyond

theorem CommittedBy.foldl {base me writer} (other : writer ≠ me) (records : List Submission) {acc}
    (committed : CommittedBy base me acc) :
    CommittedBy base me (records.foldl (SubmissionDb.writeNext writer) acc) := by
  induction records generalizing acc with
  | nil => exact committed
  | cons sub rest ih => exact ih (committed.writeNext other sub)

theorem CommittedBy.peerStep {base me db step} (committed : CommittedBy base me (db, db.maxSeq))
    (sound : step.Sound me db) :
    CommittedBy base me (db.peerStep step, (db.peerStep step).maxSeq) := by
  cases step with
  | commit write =>
    have written := committed.foldl sound write.records
    have distinct := committed.numbered.distinct.writeRecords write.writer write.records write.stripIds
    exact ⟨distinct.numbered, written.others⟩
  | start cap =>
    have distinct : (StoreInstance.load cap db).2.SeqsDistinct base := by
      intro id id' row row' found found'
      exact committed.numbered.distinct id id' row row' (StoreInstance.rows_of_load found)
        (StoreInstance.rows_of_load found')
    constructor
    · exact distinct.numbered
    · intro id row found
      exact committed.others id row (StoreInstance.rows_of_load found)

theorem committedBy_start (db : SubmissionDb) (me : String) :
    CommittedBy db.maxSeq me (db, db.maxSeq) where
  numbered := (seqsDistinct_maxSeq db).numbered
  others _ _ found beyond := absurd (updatedSeq_le_maxSeq found) (Nat.not_le.mpr beyond)

theorem committedBy_later {me db db'} (later : Later me db db') :
    CommittedBy db.maxSeq me (db', db'.maxSeq) := by
  induction later with
  | refl => exact committedBy_start db me
  | next step _ sound ih => exact ih.peerStep sound

theorem get?_writeRecords_one (db : SubmissionDb) (writer : String) (sub : Submission) (id : String) :
    (db.writeRecords writer [sub] []).rows.get? id =
      if id = sub.submissionId.text then some ⟨sub.data, db.maxSeq + 1, some writer⟩
      else db.rows.get? id :=
  get?_writeNext writer (db, db.maxSeq) sub id

theorem maxSeq_writeRecords_one (db : SubmissionDb) (writer : String) (sub : Submission) :
    (db.writeRecords writer [sub] []).maxSeq ≤ db.maxSeq + 1 := by
  apply maxSeq_le
  intro id row found
  rw [get?_writeRecords_one] at found
  split at found
  · cases found
    exact le_rfl
  · exact (updatedSeq_le_maxSeq found).trans (Nat.le_succ _)

end SubmissionDb

namespace StoreInstance

variable {store : StoreInstance}

theorem delivered_of_le {me} {db : SubmissionDb} (behind : store.lastSeenSeq ≤ db.maxSeq) :
    store.Delivered me db := by
  intro db' later id row found beyond
  have committed := SubmissionDb.committedBy_later later
  have other := committed.others id row found beyond
  have reached := SubmissionDb.updatedSeq_le_maxSeq found
  unfold maybeReload
  rw [if_neg (by omega)]
  have unseen : store.lastSeenSeq < row.updatedSeq := by omega
  have pulled := get_foldl_loadSince committed.numbered.distinct found beyond unseen other
    ⟨store.memory, store.lastSeenSeq, true⟩ rfl unseen
  have some_ : db'.loadSince me store.lastSeenSeq ≠ [] := by
    intro none
    have own := db'.keyed id row found
    subst own
    have member := SubmissionDb.mem_loadSince.mpr ⟨row, found, unseen, other, rfl⟩
    rw [none] at member
    cases member
  unfold merge
  rw [if_neg some_]
  exact pulled

def strangerTo (store : StoreInstance) (sample : Submission) : Submission :=
  { sample with hotkey := match store.memory.get sample.submissionId.text with
      | none => ""
      | some sub => sub.hotkey ++ "'" }

theorem append_prime_ne (text : String) : text ++ "'" ≠ text := by
  intro same
  have lengths := congrArg String.length same
  simp at lengths

theorem behind_of_delivered {me} {db : SubmissionDb} (sample : Submission)
    (delivered : store.Delivered me db) : store.lastSeenSeq ≤ db.maxSeq := by
  by_contra ahead
  let write : Commit := ⟨me ++ "'", [store.strangerTo sample], []⟩
  have later : Later me db (db.peerStep (.commit write)) :=
    .next (.commit write) .refl (append_prime_ne me)
  have written := delivered _ later sample.submissionId.text _
    ((SubmissionDb.get?_writeRecords_one db _ _ _).trans (if_pos rfl)) (Nat.lt_succ_self _)
  have unread : store.maybeReload me (db.peerStep (.commit write)) = store := by
    have top : (db.peerStep (.commit write)).maxSeq ≤ db.maxSeq + 1 :=
      SubmissionDb.maxSeq_writeRecords_one db (me ++ "'") (store.strangerTo sample)
    unfold maybeReload
    apply if_pos
    omega
  rw [unread] at written
  -- the store would have to have the stranger's hotkey already
  have same : (store.memory.get sample.submissionId.text).map (·.hotkey) =
      some (store.strangerTo sample).hotkey := by rw [written]; rfl
  unfold strangerTo at same
  cases known : store.memory.get sample.submissionId.text with
  | none => simp [known] at same
  | some sub =>
    simp only [known, Option.map_some, Option.some.injEq] at same
    exact append_prime_ne sub.hotkey same.symm

/-- The store that loads, and every store that has not read beyond what it loads from. -/
def RunsAt (store : StoreInstance) (cap : Int) (db : SubmissionDb) : Prop :=
  store = (load cap db).1 ∨ store.lastSeenSeq ≤ db.maxSeq

theorem RunsAt.behind {cap} {db : SubmissionDb} (running : store.RunsAt cap db) :
    store.lastSeenSeq ≤ db.maxSeq := by
  cases running with
  | inl loaded => exact loaded ▸ le_rfl
  | inr behind => exact behind

def oldId : SubmissionId := .subA

def oldRecord : Submission where
  submissionId := oldId
  repoUrl := "https://github.com/a/solver"
  commitHash := "c0ffee"
  epoch := 7
  hotkey := "5Alice"
  roundId := legacyRoundId 7
  status := .scored
  createdAt := 1

def newerRecord : Submission :=
  { oldRecord with
    submissionId := .subB, hotkey := "5Bob", status := .queued, createdAt := 2 }

theorem delivered_after_load_iff (cap : Int) (db : SubmissionDb) :
    ((∀ (me : String) (store : StoreInstance), store.RunsAt cap db →
        store.Delivered me (load cap db).2) ↔ KeepsNewest cap db) ∧
      ((∀ store : StoreInstance, store.RunsAt cap db →
        store.lastSeenSeq < (load cap db).2.maxSeq + 1) ↔ KeepsNewest cap db) := by
  have kept : KeepsNewest cap db → ∀ store : StoreInstance, store.RunsAt cap db →
      store.lastSeenSeq ≤ (load cap db).2.maxSeq := by
    intro keeps store running
    rw [(maxSeq_load_iff cap db).mpr keeps]
    exact running.behind
  have keeps (behind : (load cap db).1.lastSeenSeq ≤ (load cap db).2.maxSeq) : KeepsNewest cap db :=
    (maxSeq_load_iff cap db).mp (le_antisymm (maxSeq_load_le cap db) behind)
  constructor
  · constructor
    · intro delivered
      exact keeps (behind_of_delivered oldRecord (delivered "" (load cap db).1 (.inl rfl)))
    · intro newest me store running
      exact delivered_of_le (kept newest store running)
  · constructor
    · intro behind
      exact keeps (Nat.le_of_lt_succ (behind (load cap db).1 (.inl rfl)))
    · intro newest store running
      exact Nat.lt_succ_of_le (kept newest store running)

def scoredLast : SubmissionDb :=
  (SubmissionDb.empty.writeRecords "api" [newerRecord] []).writeRecords "worker" [oldRecord] []

theorem pruned_below_watermark :
    ¬ ∀ (cap : Int) (db : SubmissionDb) (me : String) (store : StoreInstance), store.RunsAt cap db →
        store.Delivered me (load cap db).2 ∧ store.lastSeenSeq < (load cap db).2.maxSeq + 1 := by
  intro delivered
  have behind := (delivered 1 scoredLast "api" (load 1 scoredLast).1 (.inl rfl)).2
  revert behind
  decide +kernel

end StoreInstance

end MinotaurSubnet.Harness
