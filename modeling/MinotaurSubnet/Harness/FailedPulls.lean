import MinotaurSubnet.Harness.StoreAgreement

/-! # Reloads whose queries fail

`max_seq` answers 0 when its query fails and `load_since` answers `None`, and `_maybe_reload`
takes both for nothing to pull. A mutator reloads when it takes the lock and, all but
`set_solver_info` and `purge_token`, once more at its start; so a change of another store is
dropped when none of its reloads is answered and it rewrites a row it has not read.
-/

namespace MinotaurSubnet.Harness

open Library

structure Failing where
  maxSeq : Bool := false
  loadSince : Bool := false

namespace SubmissionDb

/-- `max_seq`. -/
def maxSeqOr (db : SubmissionDb) (fails : Bool) : Nat := if fails then 0 else db.maxSeq

def loadSince? (db : SubmissionDb) (fails : Bool) (me : String) (seq : Nat) : Option (List PulledRow) :=
  if fails then none else some (db.loadSince me seq)

end SubmissionDb

namespace StoreInstance

/-- `_maybe_reload` with nothing in between its steps. -/
def reload (inst : StoreInstance) (failing : Failing) (me : String) (db : SubmissionDb) : StoreInstance :=
  let latest := db.maxSeqOr failing.maxSeq
  if latest ≤ inst.lastSeenSeq then inst
  else match db.loadSince? failing.loadSince me inst.lastSeenSeq with
    | none => inst
    | some rows => inst.merge latest rows

end StoreInstance

/-- The queries that fail in the body of a mutator: at its start and, in `create`, before the
    rounds of the commit are counted. -/
structure BodyFailing where
  start : Failing := {}
  count : Failing := {}

def StoreOp.reloads : StoreOp → Bool
  | .setSolverInfo .. => false
  | .purgeToken _ => false
  | _ => true

/-- The caps that `create` checks before it reloads again. -/
def NewSubmission.roundCaps (request : NewSubmission) : NewSubmission :=
  { request with maxRoundsPerCommit := 0 }

def NewSubmission.commitCap (request : NewSubmission) : NewSubmission :=
  { request with maxPerRound := 0, maxPerOwnerPerRound := 0, maxTotalPerRound := 0 }

namespace StoreInstance

variable (host : StoreHost) (me : String) (db : SubmissionDb)

def begin (inst : StoreInstance) (failing : Failing) (op : StoreOp) : StoreInstance :=
  if op.reloads then inst.reload failing me db else inst

/-- The reload of `create` that counts the rounds of the commit, and what is left to do. -/
def count (inst : StoreInstance) (failing : Failing) : StoreOp → StoreInstance × StoreOp
  | .create request id =>
    let round := RoundId.ofRaw (stripText (request.roundId.getD "")) request.epoch
    if (inst.memory.capError host request.roundCaps round).isNone && 0 < request.maxRoundsPerCommit then
      (inst.reload failing me db, .create request.commitCap id)
    else (inst, .create request id)
  | op => (inst, op)

/-- The reloads of a mutator's body, and what is left to do after the last of them. -/
def prepare (inst : StoreInstance) (failing : BodyFailing) (op : StoreOp) : StoreInstance × StoreOp :=
  (inst.begin me db failing.start op).count host me db failing.count op

end StoreInstance

inductive FailingEvent where
  | start (me : String)
  | query (me : String) (fails : Bool)
  | pull (me : String) (k : Nat) (fails : Bool)
  | merge (me : String) (k : Nat)
  | lock (me : String) (failing : Failing)
  | mutate (me : String) (op : StoreOp) (now : ℚ) (failing : BodyFailing)

namespace Fleet

variable (host : StoreHost) (cap : Int)

/-- A failed `max_seq` or `load_since` ends a reload outside the lock. -/
def stepFailing (s : Fleet) : FailingEvent → Fleet × Unit
  | .start me => ((step host cap s (.start me)).1, ())
  | .query me fails => (if fails then s else (step host cap s (.query me)).1, ())
  | .pull me k fails =>
    match fails, (s.reloads me)[k]? with
    | true, some (.queried _) => (s.withReloads me ((s.reloads me).eraseIdx k), ())
    | true, _ => (s, ())
    | false, _ => ((step host cap s (.pull me k)).1, ())
  | .merge me k => ((step host cap s (.merge me k)).1, ())
  | .lock me failing =>
    (if s.guard.isSome then s
      else { s.withStore me ((s.store me).reload failing me s.db) with guard := some me }, ())
  | .mutate me op now failing =>
    (if s.guard = some me then
      let prepared := (s.store me).prepare host me s.db failing op
      (s.withStore me prepared.1).mutate host cap me prepared.2 now
    else s, ())

end Fleet

/-- The records the call may write: those it names and, for `adopt`, the champions. -/
def StoreOp.Concerns (m : StoreMemory) (id : String) : StoreOp → Prop
  | .create _ newId => id = newId.text
  | .upsertSubmission record => (SubmissionId.ofRaw record.rawId).map (·.text) = some id
  | .upsertSubmissions records => ∃ record ∈ records, (SubmissionId.ofRaw record.rawId).map (·.text) = some id
  | .setBenchmarkRanks ranks => id ∈ ranks.keys
  | .adopt submissionId => id = submissionId ∨ ∃ sub, m.get id = some sub ∧ sub.status = .adopted
  | .purgeToken _ => False
  | .updateStatus submissionId _ => id = submissionId
  | .setScreeningResult submissionId _ _ _ _ _ => id = submissionId
  | .setImageTag submissionId _ => id = submissionId
  | .setImageId submissionId _ => id = submissionId
  | .setContentFingerprint submissionId _ => id = submissionId
  | .setMaxRegionNodes submissionId _ => id = submissionId
  | .setDeadwoodMetric submissionId _ _ _ => id = submissionId
  | .setImageDigest submissionId _ => id = submissionId
  | .setProvenance submissionId _ => id = submissionId
  | .setSolverPath submissionId _ => id = submissionId
  | .setSolverInfo _ submissionId _ _ => id = submissionId
  | .setBenchmarkResult submissionId _ _ _ => id = submissionId
  | .setBenchmarkRank submissionId _ => id = submissionId
  | .mergeBenchmarkDetails submissionId _ => id = submissionId
  | .reject submissionId _ _ => id = submissionId
  | .waitlist submissionId _ _ _ _ _ => id = submissionId

namespace Fleet

variable (host : StoreHost) (cap : Int)

/-- The mutator's own reload is answered, or the store has read, or written, what the call may
    replace; and no `adopt` names an unknown id while another record is adopted. -/
def ReadsFirst (s : Fleet) : FailingEvent → Prop
  | .mutate me op _ failing =>
    (∀ id, op = .adopt id → ((s.store me).prepare host me s.db failing op).1.memory.AdoptsKnown id) ∧
      (op.reloads = true ∧ failing.start.maxSeq = false ∧ failing.start.loadSince = false ∨
        ∀ id row, op.Concerns (s.store me).memory id → s.db.rows.get? id = some row →
          row.writer = some me ∨ row.updatedSeq ≤ (s.store me).lastSeenSeq)
  | _ => True

/-- A step leaves a row, or a mutator rewrites it with what it makes of a record that says what
    the row says. -/
def SeesWhatItWrites (s : Fleet) (e : FailingEvent) : Prop :=
  ∀ id row, s.db.rows.get? id = some row →
    (stepFailing host cap s e).1.db.rows.get? id = some row ∨
      ∃ me op now failing before after seq, e = .mutate me op now failing ∧ s.guard = some me ∧
        let (inst, rest) := (s.store me).prepare host me s.db failing op
        inst.memory.get id = some before ∧ (s.db.record row).Matches cap before ∧
        (rest.run host now inst.memory).state.get id = some after ∧
        (stepFailing host cap s e).1.db.rows.get? id = some ⟨after.data, seq, some me⟩

end Fleet

namespace StoreInstance

variable (host : StoreHost) (me : String) (db : SubmissionDb) (inst : StoreInstance)

theorem reload_answered {failing} (gate : failing.maxSeq = false)
    (rows : failing.loadSince = false) : inst.reload failing me db = inst.maybeReload me db := by
  simp [reload, maybeReload, SubmissionDb.maxSeqOr, SubmissionDb.loadSince?, gate, rows]

theorem reload_cases (failing : Failing) :
    inst.reload failing me db = inst ∨ inst.reload failing me db = inst.maybeReload me db := by
  cases gate : failing.maxSeq with
  | true => exact .inl (by simp [reload, SubmissionDb.maxSeqOr, gate])
  | false =>
    cases rows : failing.loadSince with
    | true => exact .inl (by simp [reload, SubmissionDb.loadSince?, rows])
    | false => exact .inr (inst.reload_answered me db gate rows)

section

variable {host me db inst} (P : StoreInstance → Prop)
  (keeps : ∀ inst, P inst → P (inst.maybeReload me db))

include keeps in
theorem reload_invariant (initial : P inst) (failing : Failing) : P (inst.reload failing me db) := by
  cases inst.reload_cases me db failing with
  | inl same =>
    rw [same]
    exact initial
  | inr answered =>
    rw [answered]
    exact keeps inst initial

include keeps in
theorem count_invariant (initial : P inst) (failing : Failing) (op : StoreOp) :
    P (inst.count host me db failing op).1 := by
  cases op with
  | create request id =>
    simp only [count]
    split
    · exact reload_invariant P keeps initial failing
    · exact initial
  | _ => exact initial

include keeps in
theorem prepare_invariant (initial : P inst) (failing : BodyFailing) (op : StoreOp) :
    P (inst.prepare host me db failing op).1 := by
  apply count_invariant P keeps
  unfold begin
  split
  · exact reload_invariant P keeps initial failing.start
  · exact initial

end

theorem further_maybeReload (inst : StoreInstance) (me : String) (db : SubmissionDb) :
    inst.lastSeenSeq ≤ (inst.maybeReload me db).lastSeenSeq := by
  rw [Fleet.lastSeenSeq_maybeReload]
  exact le_max_left _ _

theorem through_maybeReload (inst : StoreInstance) (me : String) (db : SubmissionDb) :
    db.maxSeq ≤ (inst.maybeReload me db).lastSeenSeq := by
  rw [Fleet.lastSeenSeq_maybeReload]
  exact le_max_right _ _

theorem prepare_further (failing : BodyFailing) (op : StoreOp) :
    inst.lastSeenSeq ≤ (inst.prepare host me db failing op).1.lastSeenSeq := by
  apply prepare_invariant (inst.lastSeenSeq ≤ ·.lastSeenSeq)
  · exact fun next further => further.trans (next.further_maybeReload me db)
  · exact le_rfl

theorem prepare_cases (failing : BodyFailing) (op : StoreOp) :
    (inst.prepare host me db failing op).1 = inst ∨
      db.maxSeq ≤ (inst.prepare host me db failing op).1.lastSeenSeq := by
  apply prepare_invariant fun next => next = inst ∨ db.maxSeq ≤ next.lastSeenSeq
  · exact fun next _ => .inr (next.through_maybeReload me db)
  · exact .inl rfl

theorem prepare_answered {failing : BodyFailing} {op : StoreOp} (reloads : op.reloads = true)
    (gate : failing.start.maxSeq = false) (rows : failing.start.loadSince = false) :
    db.maxSeq ≤ (inst.prepare host me db failing op).1.lastSeenSeq := by
  apply count_invariant (db.maxSeq ≤ ·.lastSeenSeq)
  · exact fun next _ => next.through_maybeReload me db
  · rw [begin, if_pos reloads, inst.reload_answered me db gate rows]
    exact inst.through_maybeReload me db

theorem concerns_count {failing} {op : StoreOp} {m id}
    (concerns : (inst.count host me db failing op).2.Concerns m id) : op.Concerns m id := by
  cases op with
  | create request newId =>
    simp only [count] at concerns
    split at concerns <;> exact concerns
  | _ => exact concerns

end StoreInstance

namespace StoreMemory

variable {m : StoreMemory} {id : String}

theorem persisted_edit {submissionId} {f : Submission → Submission}
    (listed : id ∈ persistedIds (m.edit submissionId f).result) : id = submissionId := by
  unfold edit at listed
  split at listed
  · cases listed
  · exact List.mem_singleton.mp listed

theorem persisted_upsertNext {records : List IncomingRecord} {acc}
    (listed : id ∈ (records.foldl upsertNext acc).2) :
    id ∈ acc.2 ∨ ∃ record ∈ records, (SubmissionId.ofRaw record.rawId).map (·.text) = some id := by
  induction records generalizing acc with
  | nil => exact .inl listed
  | cons record rest ih =>
    cases ih listed with
    | inr later =>
      obtain ⟨other, member, named⟩ := later
      exact .inr ⟨other, List.mem_cons_of_mem _ member, named⟩
    | inl earlier =>
      unfold upsertNext upsertOne at earlier
      cases named : SubmissionId.ofRaw record.rawId with
      | none =>
        rw [named] at earlier
        exact .inl earlier
      | some newId =>
        rw [named] at earlier
        cases List.mem_append.mp earlier with
        | inl before => exact .inl before
        | inr here =>
          rw [List.mem_singleton.mp here]
          exact .inr ⟨record, List.mem_cons_self, by rw [named, Option.map_some]⟩

theorem persisted_rankNext {now} {entries : List (String × Int)} {acc}
    (listed : id ∈ (entries.foldl (rankNext now) acc).2) :
    id ∈ acc.2 ∨ id ∈ entries.map Prod.fst := by
  induction entries generalizing acc with
  | nil => exact .inl listed
  | cons entry rest ih =>
    cases ih listed with
    | inr later => exact .inr (List.mem_cons_of_mem _ later)
    | inl earlier =>
      unfold rankNext at earlier
      split at earlier
      · exact .inl earlier
      · cases List.mem_append.mp earlier with
        | inl before => exact .inl before
        | inr here =>
          rw [List.mem_singleton.mp here]
          exact .inr List.mem_cons_self

theorem persisted_adopt {now submissionId}
    (listed : id ∈ persistedIds (m.adopt now submissionId).result) :
    id = submissionId ∨ ∃ sub, m.get id = some sub ∧ sub.status = .adopted := by
  unfold adopt at listed
  simp only at listed
  split at listed
  · cases listed
  · cases List.mem_append.mp listed with
    | inr here => exact .inl (List.mem_singleton.mp here)
    | inl champion => exact .inr (mem_champions.mp champion).2

end StoreMemory

theorem StoreOp.concerns_of_persisted {host now m} {op : StoreOp} {id}
    (listed : id ∈ persistedIds (op.run host now m).result) : op.Concerns m id := by
  cases op with
  | create request newId =>
    simp only [StoreOp.run, StoreMemory.create] at listed
    split at listed
    · cases listed
    · exact List.mem_singleton.mp listed
  | upsertSubmission record =>
    simp only [StoreOp.run, StoreMemory.upsertSubmission, StoreMemory.upsertOne] at listed
    cases named : SubmissionId.ofRaw record.rawId with
    | none =>
      rw [named] at listed
      cases listed
    | some newId =>
      rw [named] at listed
      rw [List.mem_singleton.mp listed, StoreOp.Concerns, named, Option.map_some]
  | upsertSubmissions records =>
    simp only [StoreOp.run, StoreMemory.upsertSubmissions] at listed
    split at listed
    · cases listed
    · exact (StoreMemory.persisted_upsertNext listed).resolve_left List.not_mem_nil
  | setBenchmarkRanks ranks => exact (StoreMemory.persisted_rankNext listed).resolve_left List.not_mem_nil
  | adopt submissionId => exact StoreMemory.persisted_adopt listed
  | setScreeningResult submissionId stage passed durationMs details errorCode =>
    simp only [StoreOp.run, StoreMemory.setScreeningResult] at listed
    split at listed
    · cases listed
    · split at listed <;> exact List.mem_singleton.mp listed
  | setSolverInfo sidecar submissionId name version =>
    simp only [StoreOp.run, StoreMemory.setSolverInfo] at listed
    split at listed
    · cases listed
    · split at listed
      · exact List.mem_singleton.mp listed
      · split at listed
        · exact List.mem_singleton.mp listed
        · split at listed <;> exact List.mem_singleton.mp listed
  | setBenchmarkResult submissionId valid rank details =>
    simp only [StoreOp.run, StoreMemory.setBenchmarkResult] at listed
    split at listed
    · cases listed
    · split at listed
      · exact List.mem_singleton.mp listed
      · split at listed <;> exact List.mem_singleton.mp listed
  | reject submissionId reason outcomeCode =>
    simp only [StoreOp.run, StoreMemory.reject] at listed
    split at listed
    · cases listed
    · exact List.mem_singleton.mp listed
  | waitlist submissionId reason outcomeCode position contenders slots =>
    simp only [StoreOp.run, StoreMemory.waitlist] at listed
    split at listed
    · cases listed
    · exact List.mem_singleton.mp listed
  | purgeToken submissionId => cases listed
  | updateStatus submissionId status => exact StoreMemory.persisted_edit listed
  | setImageTag submissionId imageTag => exact StoreMemory.persisted_edit listed
  | setImageId submissionId imageId => exact StoreMemory.persisted_edit listed
  | setContentFingerprint submissionId value => exact StoreMemory.persisted_edit listed
  | setMaxRegionNodes submissionId value => exact StoreMemory.persisted_edit listed
  | setDeadwoodMetric submissionId nodes version topOffenders => exact StoreMemory.persisted_edit listed
  | setImageDigest submissionId imageDigest => exact StoreMemory.persisted_edit listed
  | setProvenance submissionId provenance => exact StoreMemory.persisted_edit listed
  | setSolverPath submissionId solverPath => exact StoreMemory.persisted_edit listed
  | setBenchmarkRank submissionId rank => exact StoreMemory.persisted_edit listed
  | mergeBenchmarkDetails submissionId extra => exact StoreMemory.persisted_edit listed

namespace Fleet

variable {host : StoreHost} {cap : Int} {base : Nat} {s : Fleet} {me : String}

theorem store_withStore (s : Fleet) (me : String) (inst : StoreInstance) :
    (s.withStore me inst).store me = inst := by
  simp [withStore]

/-- The lock aside: it orders the mutators, and what they read is in the watermarks. -/
def unlocked (s : Fleet) : Fleet := { s with guard := none }

theorem Inv.unlocked (inv : Inv cap base s) : Inv cap base s.unlocked := inv.withGuard fun _ none => nomatch none

variable {failing : BodyFailing} {op : StoreOp}

theorem read_of_readsFirst {now : ℚ} (reads : ReadsFirst host s (.mutate me op now failing))
    {id : String} {row : Row}
    (found : s.db.rows.get? id = some row)
    (listed : id ∈ persistedIds (((s.store me).prepare host me s.db failing op).2.run host now
      ((s.store me).prepare host me s.db failing op).1.memory).result) :
    row.writer = some me ∨
      row.updatedSeq ≤ ((s.store me).prepare host me s.db failing op).1.lastSeenSeq := by
  have newest := SubmissionDb.updatedSeq_le_maxSeq found
  cases (s.store me).prepare_cases host me s.db failing op with
  | inr through => exact .inr (newest.trans through)
  | inl unanswered =>
    cases reads.2 with
    | inl answered =>
      obtain ⟨reloads, gate, rows⟩ := answered
      exact .inr (newest.trans ((s.store me).prepare_answered host me s.db reloads gate rows))
    | inr read =>
      have concerns := StoreInstance.concerns_count host me s.db _ (StoreOp.concerns_of_persisted listed)
      rw [unanswered] at concerns ⊢
      exact read id row concerns found

theorem adoptsKnown_prepare {now} (reads : ReadsFirst host s (.mutate me op now failing))
    (id : String) (adopts : ((s.store me).prepare host me s.db failing op).2 = .adopt id) :
    ((s.store me).prepare host me s.db failing op).1.memory.AdoptsKnown id := by
  apply reads.1
  cases op with
  | create request newId =>
    unfold StoreInstance.prepare at adopts
    simp only [StoreInstance.count] at adopts
    split at adopts <;> cases adopts
  | _ => exact adopts

theorem inv_reload (inv : Inv cap base s.unlocked) (me : String) (failing : Failing) :
    Inv cap base (s.withStore me ((s.store me).reload failing me s.db)).unlocked := by
  apply Inv.withStore inv
  · apply StoreInstance.reload_invariant (Caught cap base me s.db)
    · exact fun inst caught => caught.maybeReload inv.distinct
    · exact inv.caught me
  · apply StoreInstance.reload_invariant ((s.store me).lastSeenSeq ≤ ·.lastSeenSeq)
    · exact fun inst further => further.trans (inst.further_maybeReload me s.db)
    · exact le_rfl

theorem caught_prepare (inv : Inv cap base s.unlocked) (host : StoreHost) (me : String)
    (failing : BodyFailing) (op : StoreOp) :
    Caught cap base me s.db ((s.store me).prepare host me s.db failing op).1 := by
  apply StoreInstance.prepare_invariant (Caught cap base me s.db)
  · exact fun inst caught => caught.maybeReload inv.distinct
  · exact inv.caught me

variable (cap) in
theorem rows_prepared {now} (reads : ReadsFirst host s (.mutate me op now failing)) (id : String) :
    let prepared := (s.store me).prepare host me s.db failing op
    let called := (s.withStore me prepared.1).mutate host cap me prepared.2 now
    called.db.rows.get? id = s.db.rows.get? id ∨
      (∀ row, s.db.rows.get? id = some row → row.writer = some me ∨ row.updatedSeq ≤ prepared.1.lastSeenSeq) ∧
        ∃ after seq, (prepared.2.run host now prepared.1.memory).state.get id = some after ∧
          called.db.rows.get? id = some ⟨after.data, seq, some me⟩ := by
  intro prepared called
  have here := s.store_withStore me prepared.1
  have frame := prepared.2.frame host now prepared.1.memory (adoptsKnown_prepare reads)
  rw [← here] at frame
  cases rows_mutate (s.withStore me prepared.1) host cap me prepared.2 now frame id with
  | inl stays => exact .inl stays
  | inr rewritten =>
    obtain ⟨listed, after, seq, changed, -, written⟩ := rewritten
    rw [here] at listed changed
    exact .inr ⟨fun row found => read_of_readsFirst reads found listed, after, seq, changed, written⟩

theorem inv_prepared (inv : Inv cap base s.unlocked) {now}
    (reads : ReadsFirst host s (.mutate me op now failing)) :
    let prepared := (s.store me).prepare host me s.db failing op
    Inv cap base ((s.withStore me prepared.1).mutate host cap me prepared.2 now).unlocked := by
  intro prepared
  have here := s.store_withStore me prepared.1
  have ready : Inv cap base (s.withStore me prepared.1).unlocked :=
    Inv.withStore inv (caught_prepare inv host me failing op)
      ((s.store me).prepare_further host me s.db failing op)
  have called := inv_mutate_of_read ready host me prepared.2 now
    (by
      intro id adopts
      show ((s.withStore me prepared.1).store me).memory.AdoptsKnown id
      rw [here]
      exact adoptsKnown_prepare reads id adopts)
    (by
      intro id row found replaced
      show row.writer = some me ∨ row.updatedSeq ≤ ((s.withStore me prepared.1).store me).lastSeenSeq
      rw [here]
      cases rows_prepared cap reads id with
      | inl stays => exact absurd (stays.trans found) replaced
      | inr rewritten => exact rewritten.1 row found)
  exact called.unlocked

theorem unlocked_query (host : StoreHost) (cap : Int) (s : Fleet) (me : String) :
    (step host cap s (.query me)).1.unlocked = (step host cap s.unlocked (.query me)).1.unlocked := by
  by_cases read : s.db.maxSeq ≤ (s.store me).lastSeenSeq
  · have alike : s.unlocked.db.maxSeq ≤ (s.unlocked.store me).lastSeenSeq := read
    simp only [step, if_pos read, if_pos alike]
    rfl
  · have alike : ¬ s.unlocked.db.maxSeq ≤ (s.unlocked.store me).lastSeenSeq := read
    simp only [step, if_neg read, if_neg alike]
    rfl

theorem unlocked_pull (host : StoreHost) (cap : Int) (s : Fleet) (me : String) (k : Nat) :
    (step host cap s (.pull me k)).1.unlocked = (step host cap s.unlocked (.pull me k)).1.unlocked := by
  simp only [step, unlocked]
  split <;> rfl

theorem unlocked_merge (host : StoreHost) (cap : Int) (s : Fleet) (me : String) (k : Nat) :
    (step host cap s (.merge me k)).1.unlocked = s.unlocked ∨
      (step host cap s (.merge me k)).1.unlocked = (step host cap s.unlocked (.merge me k)).1.unlocked := by
  simp only [step, unlocked]
  split
  · split
    · exact .inl rfl
    · right
      simp only [reduceCtorEq, false_and, if_false]
      rfl
  · exact .inl rfl

theorem inv_stepFailing (inv : Inv cap base s.unlocked) (host : StoreHost) (e : FailingEvent)
    (reads : ReadsFirst host s e) : Inv cap base (stepFailing host cap s e).1.unlocked := by
  cases e with
  | start me => exact (inv_start inv host me).unlocked
  | query me fails =>
    cases fails with
    | true => exact inv
    | false =>
      show Inv cap base (step host cap s (.query me)).1.unlocked
      rw [unlocked_query]
      exact (inv_query inv host me).unlocked
  | pull me k fails =>
    cases fails with
    | false =>
      show Inv cap base (step host cap s (.pull me k)).1.unlocked
      rw [unlocked_pull]
      exact (inv_pull inv host me k).unlocked
    | true =>
      simp only [stepFailing]
      split
      next => exact inv.withReloads fun r member => inv.reloads me r (List.mem_of_mem_eraseIdx member)
      next => exact inv
      next impossible => cases impossible
  | merge me k =>
    simp only [stepFailing]
    cases unlocked_merge host cap s me k with
    | inl waits =>
      rw [waits]
      exact inv
    | inr same =>
      rw [same]
      exact (inv_merge inv host me k).unlocked
  | lock me failing =>
    simp only [stepFailing]
    split
    · exact inv
    · exact inv_reload inv me failing
  | mutate me op now failing =>
    simp only [stepFailing]
    split
    · exact inv_prepared inv reads
    · exact inv

theorem inv_of_reachesFailing {db}
    (reached : Reaches (stepFailing host cap) (ReadsFirst host) (fresh db) s) :
    Inv cap db.maxSeq s.unlocked := by
  refine reached.invariant (fun s => Inv cap db.maxSeq s.unlocked) (inv_fresh cap db).unlocked ?_
  exact fun s e inv reads => inv_stepFailing inv host e reads

theorem db_stepFailing (host : StoreHost) (cap : Int) (s : Fleet) {e}
    (passive : ∀ me op now failing, e ≠ .mutate me op now failing) :
    (stepFailing host cap s e).1.db = s.db := by
  cases e with
  | start me => rfl
  | query me fails =>
    cases fails with
    | true => rfl
    | false => exact db_step host cap s fun _ _ _ same => nomatch same
  | pull me k fails =>
    simp only [stepFailing]
    split
    · rfl
    · rfl
    · exact db_step host cap s fun _ _ _ same => nomatch same
  | merge me k => exact db_step host cap s fun _ _ _ same => nomatch same
  | lock me failing =>
    simp only [stepFailing]
    split <;> rfl
  | mutate me op now failing => exact absurd rfl (passive me op now failing)

theorem seesWhatItWrites_mutate (inv : Inv cap base s.unlocked) (host : StoreHost) {now}
    (reads : ReadsFirst host s (.mutate me op now failing)) :
    SeesWhatItWrites host cap s (.mutate me op now failing) := by
  intro id row found
  by_cases holds : s.guard = some me
  · simp only [stepFailing, holds, if_true]
    cases rows_prepared cap reads id with
    | inl stays => exact .inl (stays.trans found)
    | inr rewritten =>
      obtain ⟨read, after, seq, changed, written⟩ := rewritten
      obtain ⟨before, held, record⟩ :=
        (caught_prepare inv host me failing op).covered id row found (read row found)
      exact .inr ⟨me, op, now, failing, before, after, seq, rfl, rfl, held, record, changed, written⟩
  · left
    simp only [stepFailing, if_neg holds]
    exact found

theorem seesWhatItWrites_step (inv : Inv cap base s.unlocked) (host : StoreHost) (e : FailingEvent)
    (reads : ReadsFirst host s e) : SeesWhatItWrites host cap s e := by
  by_cases active : ∃ me op now failing, e = .mutate me op now failing
  · obtain ⟨me, op, now, failing, rfl⟩ := active
    exact seesWhatItWrites_mutate inv host reads
  · intro id row found
    left
    rw [db_stepFailing host cap s fun me op now failing same => active ⟨me, op, now, failing, same⟩]
    exact found

theorem setSolverInfo_persists (host : StoreHost) (now : ℚ) {m : StoreMemory} {id sub}
    (held : m.get id = some sub) (sidecar : Option (Dict String NameEntry))
    (name version : Option String) :
    (m.setSolverInfo host now sidecar id name version).result = .ok (some [id]) := by
  unfold StoreMemory.setSolverInfo
  rw [held]
  simp only
  split
  · rfl
  · split
    · rfl
    · split <;> rfl

theorem loses_stale {id row sub} (holds : s.guard = some me) (found : s.db.rows.get? id = some row)
    (held : (s.store me).memory.get id = some sub) (stale : ¬ (s.db.record row).Matches cap sub)
    (sidecar : Option (Dict String NameEntry)) (name version : Option String) (now : ℚ)
    (failing : BodyFailing) :
    ¬ SeesWhatItWrites host cap s (.mutate me (.setSolverInfo sidecar id name version) now failing) := by
  intro sees
  cases sees id row found with
  | inr rewritten =>
    obtain ⟨me', op', now', failing', before, after, seq, same, -, seen, record, -⟩ := rewritten
    cases same
    change (s.store me).memory.get id = some before at seen
    rw [held] at seen
    cases seen
    exact stale record
  | inl stays =>
    have frame := (StoreOp.setSolverInfo sidecar id name version).frame host now (s.store me).memory
      fun _ same => nomatch same
    have persists := setSolverInfo_persists host now held sidecar name version
    change (StoreOp.run host now (s.store me).memory (.setSolverInfo sidecar id name version)).result = _
      at persists
    rw [persists] at frame
    obtain ⟨after, changed⟩ := Option.isSome_iff_exists.mp (frame.stored id List.mem_cons_self)
    obtain ⟨⟨seq, later, written⟩, -⟩ :=
      StoreInstance.persistRecords_touched cap me _ [id] s.db List.mem_cons_self changed
    simp only [stepFailing, holds, if_true, mutate, StoreInstance.prepare, StoreInstance.begin,
      StoreInstance.count, StoreOp.reloads, Bool.false_eq_true, if_false, store_withStore, persists] at stays
    have same := written.symm.trans stays
    have newest := SubmissionDb.updatedSeq_le_maxSeq found
    cases same
    exact absurd later (Nat.not_lt.mpr newest)

/-- In a run whose mutators read first, a mutator only rewrites records that say what their rows
    say; and a stale record under the lock is written back by `set_solver_info`. -/
theorem failed_pulls_drop_nothing (host : StoreHost) (cap : Int) (db : SubmissionDb) (s : Fleet)
    (reached : Reaches (stepFailing host cap) (ReadsFirst host) (fresh db) s) :
    (∀ e, ReadsFirst host s e → SeesWhatItWrites host cap s e) ∧
      ∀ me id row sub sidecar name version now failing, s.guard = some me →
        s.db.rows.get? id = some row → (s.store me).memory.get id = some sub →
          ¬ (s.db.record row).Matches cap sub →
            ¬ SeesWhatItWrites host cap s (.mutate me (.setSolverInfo sidecar id name version) now failing) := by
  constructor
  · exact fun e reads => seesWhatItWrites_step (inv_of_reachesFailing reached) host e reads
  · intro me id row sub sidecar name version now failing holds found held stale
    exact loses_stale holds found held stale sidecar name version now failing

def benchmarkingDb : SubmissionDb :=
  SubmissionDb.empty.writeRecords "seed" [{ championRecord with status := .benchmarking }] []

/-- The worker scores the submission, and the api takes the lock while `max_seq` fails. -/
def scoredUnseen : List FailingEvent :=
  [.lock "worker" {}, .mutate "worker" (.setBenchmarkResult "sub_a" true (some 1) none) 1 {},
    .lock "api" { maxSeq := true }]

theorem scoredUnseen_reached : Reaches (stepFailing StoreHost.plain 0) (ReadsFirst StoreHost.plain)
    (fresh benchmarkingDb) (runEvents (stepFailing StoreHost.plain 0) (fresh benchmarkingDb) scoredUnseen) :=
  AllowedAlong.reaches
    ⟨trivial, ⟨fun _ same => (nomatch same), .inl ⟨rfl, rfl, rfl⟩⟩, trivial, trivial⟩

theorem failed_max_seq_drops_the_score :
    ¬ ∀ (host : StoreHost) (cap : Int) (db : SubmissionDb) (s : Fleet),
      Reaches (stepFailing host cap) (fun _ _ => True) (fresh db) s →
        ∀ e, SeesWhatItWrites host cap s e := by
  intro claim
  have sees := claim StoreHost.plain 0 benchmarkingDb _
    (reaches_runEvents (stepFailing StoreHost.plain 0) (fresh benchmarkingDb) scoredUnseen)
    (.mutate "api" (.setSolverInfo none "sub_a" (some "router") none) 2 {})
  let s := runEvents (stepFailing StoreHost.plain 0) (fresh benchmarkingDb) scoredUnseen
  obtain ⟨row, found⟩ := Option.isSome_iff_exists.mp
    (show (s.db.rows.get? "sub_a").isSome = true by decide +kernel)
  obtain ⟨sub, held⟩ := Option.isSome_iff_exists.mp
    (show ((s.store "api").memory.get "sub_a").isSome = true by decide +kernel)
  have scored : (s.db.rows.get? "sub_a").map (·.data.status) = some .scored := by decide +kernel
  have benchmarking : ((s.store "api").memory.get "sub_a").map (·.status) = some .benchmarking := by
    decide +kernel
  rw [found, Option.map_some] at scored
  rw [held, Option.map_some] at benchmarking
  apply loses_stale (show s.guard = some "api" by rfl) found held _ none (some "router") none 2 {} sees
  intro record
  have same : sub.data.status = (s.db.record row).data.status := congrArg Submission.status record.1
  change sub.status = row.data.status at same
  rw [Option.some.inj scored, Option.some.inj benchmarking] at same
  cases same

/-- A mutator that reloads at its start sees the score, although the lock's own query failed. -/
theorem reload_at_start_sees_the_score :
    SeesWhatItWrites StoreHost.plain 0
      (runEvents (stepFailing StoreHost.plain 0) (fresh benchmarkingDb) scoredUnseen)
      (.mutate "api" (.setBenchmarkRank "sub_a" 2) 2 {}) :=
  (failed_pulls_drop_nothing StoreHost.plain 0 benchmarkingDb _ scoredUnseen_reached).1 _
    ⟨fun _ same => (nomatch same), .inl ⟨rfl, rfl, rfl⟩⟩

end Fleet

end MinotaurSubnet.Harness
