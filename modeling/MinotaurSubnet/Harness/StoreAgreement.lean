import MinotaurSubnet.Harness.StoreFleet

/-! # Agreement of the stores

A store has in memory every row it wrote and every row up to its watermark. What a reload
pulled may be old when it is merged, but a row overwritten since has a number beyond the pull
and, if the store wrote it itself, the watermark, so the merge never reverts one. Only
`adopt` breaks this: it dethrones the champion in memory before it raises for an unknown id.
-/

namespace MinotaurSubnet.Harness

open Library Python

namespace Fleet

structure Caught (cap : Int) (base : Nat) (me : String) (db : SubmissionDb) (inst : StoreInstance) :
    Prop where
  lower : base ≤ inst.lastSeenSeq
  upper : inst.lastSeenSeq ≤ db.maxSeq
  covered : ∀ id row, db.rows.get? id = some row →
    row.writer = some me ∨ row.updatedSeq ≤ inst.lastSeenSeq →
      ∃ sub, inst.memory.get id = some sub ∧ (db.record row).Matches cap sub
  known : ∀ id, (inst.memory.get id).isSome → (db.rows.get? id).isSome

inductive Snapshot (cap : Int) (me : String) (db : SubmissionDb) (seen latest : Nat)
    (pulled : PulledRow) (row : Row) : Prop where
  | current (other : row.writer ≠ some me) (same : row.updatedSeq = pulled.updatedSeq)
      (record : (db.record row).Matches cap pulled.record)
  | superseded (older : pulled.updatedSeq < row.updatedSeq) (later : latest < row.updatedSeq)
      (own : row.writer = some me → pulled.updatedSeq ≤ seen)

structure Pulled (cap : Int) (me : String) (db : SubmissionDb) (seen latest : Nat)
    (rows : List PulledRow) : Prop where
  own : ∀ p ∈ rows, p.record.submissionId.text = p.submissionId
  sorted : rows.Pairwise fun a b => a.updatedSeq ≤ b.updatedSeq
  unique : ∀ a ∈ rows, ∀ b ∈ rows, a.submissionId = b.submissionId → a = b
  alone : ∀ a ∈ rows, ∀ b ∈ rows, a.updatedSeq = b.updatedSeq → a = b
  complete : ∀ id row, db.rows.get? id = some row → row.writer ≠ some me → row.updatedSeq ≤ latest →
    row.updatedSeq ≤ seen ∨ ∃ p ∈ rows, p.submissionId = id ∧ p.updatedSeq = row.updatedSeq
  each : ∀ p ∈ rows, ∃ row, db.rows.get? p.submissionId = some row ∧ Snapshot cap me db seen latest p row

theorem Caught.agrees {cap base me db inst} (caught : Caught cap base me db inst)
    (through : db.maxSeq ≤ inst.lastSeenSeq) :
    inst.memory.Agrees cap db where
  rows id row found :=
    caught.covered id row found (.inr ((SubmissionDb.updatedSeq_le_maxSeq found).trans through))
  known := caught.known

theorem Pulled.mono {cap me db seen seen' latest rows} (pulled : Pulled cap me db seen latest rows)
    (further : seen ≤ seen') :
    Pulled cap me db seen' latest rows where
  own := pulled.own
  sorted := pulled.sorted
  unique := pulled.unique
  alone := pulled.alone
  complete id row found other reached :=
    (pulled.complete id row found other reached).imp_left (Nat.le_trans · further)
  each p member := by
    obtain ⟨row, found, snapshot⟩ := pulled.each p member
    refine ⟨row, found, ?_⟩
    cases snapshot with
    | current other same record => exact .current other same record
    | superseded older later own =>
      exact .superseded older later fun mine => (own mine).trans further

theorem pulled_loadSince {base db} (distinct : db.SeqsDistinct base) (cap : Int) (me : String)
    {seen} (lower : base ≤ seen) (latest : Nat) :
    Pulled cap me db seen latest (db.loadSince me seen) where
  own _ member := SubmissionDb.loadSince_own member
  sorted := db.loadSince_sorted me seen
  unique _ memberA _ memberB same := SubmissionDb.loadSince_unique memberA memberB same
  alone a memberA b memberB same := by
    apply SubmissionDb.loadSince_unique memberA memberB
    obtain ⟨row, found, after, -, rowA⟩ := SubmissionDb.mem_loadSince.mp memberA
    obtain ⟨row', found', -, -, rowB⟩ := SubmissionDb.mem_loadSince.mp memberB
    rw [rowA, rowB] at same
    exact distinct _ _ row row' found found' same (lower.trans_lt after)
  complete id row found other _ := by
    by_cases before : row.updatedSeq ≤ seen
    · exact .inl before
    · have own := db.keyed id row found
      subst own
      exact .inr ⟨⟨_, db.record row, row.updatedSeq⟩,
        SubmissionDb.mem_loadSince.mpr ⟨row, found, Nat.lt_of_not_le before, other, rfl⟩, rfl, rfl⟩
  each p member := by
    obtain ⟨row, found, -, other, same⟩ := SubmissionDb.mem_loadSince.mp member
    refine ⟨row, found, .current other ?_ ?_⟩
    · rw [same]
    · rw [same]
      exact .refl cap _

section

variable {cap : Int} {base : Nat} {me : String} {db : SubmissionDb} {inst : StoreInstance}
  {latest : Nat} {rows : List PulledRow}

theorem lastSeenSeq_merge (inst : StoreInstance) (latest : Nat) (rows : List PulledRow) :
    (inst.merge latest rows).lastSeenSeq = max inst.lastSeenSeq latest := by
  unfold StoreInstance.merge
  split
  · rfl
  next =>
    have complete := StoreInstance.foldl_mergeNext_complete rows ⟨inst.memory, inst.lastSeenSeq, true⟩ rfl
    simp only [complete, if_true]

theorem get_merge_of_covered (pulled : Pulled cap me db inst.lastSeenSeq latest rows) {id row}
    (found : db.rows.get? id = some row)
    (covered : row.writer = some me ∨ row.updatedSeq ≤ inst.lastSeenSeq) :
    (inst.merge latest rows).memory.get id = inst.memory.get id := by
  unfold StoreInstance.merge
  split
  · rfl
  next =>
    apply StoreInstance.get_foldl_of_absent rows ⟨inst.memory, inst.lastSeenSeq, true⟩ rfl pulled.own
    intro p member same
    obtain ⟨row', found', snapshot⟩ := pulled.each p member
    rw [same, found] at found'
    cases found'
    cases snapshot with
    | current other current record =>
      have read := covered.resolve_left other
      show p.updatedSeq ≤ inst.lastSeenSeq
      omega
    | superseded older later own =>
      cases covered with
      | inl mine => exact own mine
      | inr read => exact older.le.trans read

theorem get_merge_of_pulled (pulled : Pulled cap me db inst.lastSeenSeq latest rows) {id row}
    (found : db.rows.get? id = some row) (other : row.writer ≠ some me)
    (reached : row.updatedSeq ≤ latest) (unread : inst.lastSeenSeq < row.updatedSeq) :
    ∃ sub, (inst.merge latest rows).memory.get id = some sub ∧ (db.record row).Matches cap sub := by
  obtain ⟨p, member, rfl, seq⟩ := (pulled.complete id row found other reached).resolve_left (by omega)
  obtain ⟨row', found', snapshot⟩ := pulled.each p member
  rw [found] at found'
  cases found'
  cases snapshot with
  | superseded older => omega
  | current _ _ record =>
    refine ⟨p.record, ?_, record⟩
    unfold StoreInstance.merge
    rw [if_neg (List.ne_nil_of_mem member)]
    apply StoreInstance.get_foldl_of_mem rows _ rfl pulled.own pulled.sorted pulled.unique member
    · exact fun q memberQ same => pulled.alone q memberQ p member same
    · show inst.lastSeenSeq < p.updatedSeq
      omega

theorem isSome_of_get_merge (pulled : Pulled cap me db inst.lastSeenSeq latest rows)
    (known : ∀ id, (inst.memory.get id).isSome → (db.rows.get? id).isSome) {id}
    (held : ((inst.merge latest rows).memory.get id).isSome) : (db.rows.get? id).isSome := by
  by_cases listed : ∃ p ∈ rows, p.submissionId = id
  · obtain ⟨p, member, rfl⟩ := listed
    obtain ⟨row, found, -⟩ := pulled.each p member
    rw [found]
    rfl
  · have same : (inst.merge latest rows).memory.get id = inst.memory.get id := by
      unfold StoreInstance.merge
      split
      · rfl
      next =>
        apply StoreInstance.get_foldl_of_absent rows ⟨inst.memory, inst.lastSeenSeq, true⟩ rfl pulled.own
        exact fun p member sameId => absurd ⟨p, member, sameId⟩ listed
    rw [same] at held
    exact known id held

theorem Caught.merge (caught : Caught cap base me db inst)
    (pulled : Pulled cap me db inst.lastSeenSeq latest rows) (reached : latest ≤ db.maxSeq) :
    Caught cap base me db (inst.merge latest rows) where
  lower := by
    rw [lastSeenSeq_merge]
    exact caught.lower.trans (le_max_left _ _)
  upper := by
    rw [lastSeenSeq_merge]
    exact max_le caught.upper reached
  covered id row found covered := by
    by_cases before : row.writer = some me ∨ row.updatedSeq ≤ inst.lastSeenSeq
    · rw [get_merge_of_covered pulled found before]
      exact caught.covered id row found before
    · rw [not_or, Nat.not_le] at before
      have within := covered.resolve_left before.1
      rw [lastSeenSeq_merge] at within
      exact get_merge_of_pulled pulled found before.1 (by omega) before.2
  known _ held := isSome_of_get_merge pulled caught.known held

theorem Caught.maybeReload (caught : Caught cap base me db inst) (distinct : db.SeqsDistinct base) :
    Caught cap base me db (inst.maybeReload me db) := by
  unfold StoreInstance.maybeReload
  split
  · exact caught
  · exact caught.merge (pulled_loadSince distinct cap me caught.lower _) le_rfl

theorem lastSeenSeq_maybeReload (inst : StoreInstance) (me : String) (db : SubmissionDb) :
    (inst.maybeReload me db).lastSeenSeq = max inst.lastSeenSeq db.maxSeq := by
  unfold StoreInstance.maybeReload
  split
  next read => exact (max_eq_left read).symm
  next => exact lastSeenSeq_merge _ _ _

end

theorem load_zero (db : SubmissionDb) :
    StoreInstance.load 0 db = (⟨StoreInstance.hydrate db [], db.maxSeq⟩, db) := rfl

theorem get_hydrate (db : SubmissionDb) (id : String) :
    (StoreInstance.hydrate db []).get id = (db.rows.get? id).map db.record := by
  show (db.loadAll.filter fun id _ => !([] : List String).contains id).get? id = _
  rw [Dict.get?_filter, SubmissionDb.loadAll, Dict.get?_image]
  cases db.rows.get? id with
  | none => rfl
  | some row => rfl

theorem caught_load {base db} (reached : base ≤ db.maxSeq) (cap : Int) (me : String) :
    Caught cap base me db (StoreInstance.load 0 db).1 where
  lower := reached
  upper := le_rfl
  covered id row found _ := by
    refine ⟨db.record row, ?_, .refl cap _⟩
    show (StoreInstance.hydrate db []).get id = _
    rw [get_hydrate, found, Option.map_some]
  known id held := by
    rw [load_zero, get_hydrate, Option.isSome_map] at held
    exact held

/-- What a transaction of `me` does for the others: the rows it writes get new numbers, and the
    others stay, apart from their details. -/
structure Advanced (cap : Int) (me : String) (db db' : SubmissionDb) : Prop where
  rows : ∀ id row, db'.rows.get? id = some row → (row.writer = some me ∧ db.maxSeq < row.updatedSeq) ∨
    (db.rows.get? id = some row ∧
      ∀ sub, (db.record row).Matches cap sub → (db'.record row).Matches cap sub)
  stays : ∀ id, (db.rows.get? id).isSome → (db'.rows.get? id).isSome

section

variable {cap : Int} {base : Nat} {me other : String} {db db' : SubmissionDb} {inst : StoreInstance}

theorem Advanced.maxSeq_le (advanced : Advanced cap me db db') : db.maxSeq ≤ db'.maxSeq := by
  obtain zero | ⟨id, row, found, top⟩ := db.maxSeq_mem
  · rw [zero]
    exact Nat.zero_le _
  · obtain ⟨row', found'⟩ := Option.isSome_iff_exists.mp (advanced.stays id (by rw [found]; rfl))
    have reached := SubmissionDb.updatedSeq_le_maxSeq found'
    cases advanced.rows id row' found' with
    | inl written => exact written.2.le.trans reached
    | inr stayed =>
      rw [found] at stayed
      cases stayed.1
      exact top ▸ reached

theorem Caught.advance (caught : Caught cap base other db inst) (advanced : Advanced cap me db db')
    (different : me ≠ other) : Caught cap base other db' inst where
  lower := caught.lower
  upper := caught.upper.trans advanced.maxSeq_le
  covered id row found covered := by
    cases advanced.rows id row found with
    | inl written =>
      have reached := caught.upper
      cases covered with
      | inl own =>
        rw [own] at written
        exact absurd (Option.some.inj written.1).symm different
      | inr read => omega
    | inr stayed =>
      obtain ⟨sub, held, record⟩ := caught.covered id row stayed.1 covered
      exact ⟨sub, held, stayed.2 sub record⟩
  known id held := advanced.stays id (caught.known id held)

def ReplacesRead (me : String) (seen : Nat) (db db' : SubmissionDb) : Prop :=
  ∀ id row, db.rows.get? id = some row → db'.rows.get? id ≠ some row →
    row.writer = some me ∨ row.updatedSeq ≤ seen

theorem replacesRead_of_through {seen} (through : db.maxSeq ≤ seen) : ReplacesRead me seen db db' :=
  fun _ _ found _ => .inr ((SubmissionDb.updatedSeq_le_maxSeq found).trans through)

theorem Pulled.advance {seen latest rows} (pulled : Pulled cap other db seen latest rows)
    (reached : latest ≤ db.maxSeq) (advanced : Advanced cap me db db')
    (own : me = other → ReplacesRead me seen db db') :
    Pulled cap other db' seen latest rows where
  own := pulled.own
  sorted := pulled.sorted
  unique := pulled.unique
  alone := pulled.alone
  complete id row found foreign within := by
    cases advanced.rows id row found with
    | inl written => omega
    | inr stayed => exact pulled.complete id row stayed.1 foreign within
  each p member := by
    obtain ⟨row, found, snapshot⟩ := pulled.each p member
    have before := SubmissionDb.updatedSeq_le_maxSeq found
    have older : p.updatedSeq ≤ row.updatedSeq := by
      cases snapshot with
      | current _ same => exact same.ge
      | superseded older => exact older.le
    obtain ⟨row', found'⟩ :=
      Option.isSome_iff_exists.mp (advanced.stays p.submissionId (by rw [found]; rfl))
    refine ⟨row', found', ?_⟩
    cases advanced.rows p.submissionId row' found' with
    | inl written =>
      apply Snapshot.superseded
      · omega
      · omega
      · intro mine
        rw [mine] at written
        have same : me = other := (Option.some.inj written.1).symm
        have replaced : db'.rows.get? p.submissionId ≠ some row := by
          rw [found']
          rintro ⟨⟩
          omega
        cases own same p.submissionId row found replaced with
        | inl mineBefore =>
          cases snapshot with
          | current foreign => exact absurd (same ▸ mineBefore) foreign
          | superseded _ _ mineRead => exact mineRead (same ▸ mineBefore)
        | inr read => exact older.trans read
    | inr stayed =>
      rw [found] at stayed
      cases stayed.1
      cases snapshot with
      | current foreign same record => exact .current foreign same (stayed.2 _ record)
      | superseded older later mine => exact .superseded older later mine

end

section

variable {cap : Int} {base : Nat} {me : String} {db : SubmissionDb} {inst : StoreInstance}
  {m : StoreMemory} {touched : List String}

theorem advanced_persistRecords (stored : ∀ id ∈ touched, (m.get id).isSome) :
    Advanced cap me db (StoreInstance.persistRecords cap me m touched db).2 where
  rows id row found := by
    by_cases listed : id ∈ touched
    · obtain ⟨sub, held⟩ := Option.isSome_iff_exists.mp (stored id listed)
      exact .inl (StoreInstance.matches_touched listed held found).1
    · rw [(StoreInstance.persistRecords_untouched cap me m touched db listed).1] at found
      exact .inr ⟨found, fun _ record => StoreInstance.matches_untouched listed found record⟩
  stays id was := by
    by_cases listed : id ∈ touched
    · obtain ⟨sub, held⟩ := Option.isSome_iff_exists.mp (stored id listed)
      obtain ⟨⟨seq, -, written⟩, -⟩ :=
        StoreInstance.persistRecords_touched cap me m touched db listed held
      rw [written]
      rfl
    · rw [(StoreInstance.persistRecords_untouched cap me m touched db listed).1]
      exact was

theorem Caught.commit (caught : Caught cap base me db inst) (frame : inst.memory.Frame m touched) :
    Caught cap base me (StoreInstance.persistRecords cap me m touched db).2
      { inst with memory := (StoreInstance.persistRecords cap me m touched db).1 } where
  lower := caught.lower
  upper := caught.upper.trans (advanced_persistRecords frame.stored).maxSeq_le
  covered id row found covered := by
    show ∃ sub, (m.enforceRetention cap).get id = some sub ∧ _
    rw [StoreInstance.get_enforceRetention]
    by_cases listed : id ∈ touched
    · obtain ⟨sub, held⟩ := Option.isSome_iff_exists.mp (frame.stored id listed)
      rw [held, Option.map_some]
      exact ⟨_, rfl, (StoreInstance.matches_touched listed held found).2⟩
    · have before := found
      rw [(StoreInstance.persistRecords_untouched cap me m touched db listed).1] at before
      obtain ⟨sub, held, record⟩ := caught.covered id row before covered
      rw [frame.others id listed, held, Option.map_some]
      exact ⟨_, rfl, StoreInstance.matches_kept listed before (inst.memory.keyed id sub held) record⟩
  known id held := by
    change ((m.enforceRetention cap).get id).isSome at held
    rw [StoreInstance.get_enforceRetention, Option.isSome_map] at held
    by_cases listed : id ∈ touched
    · obtain ⟨sub, stored⟩ := Option.isSome_iff_exists.mp held
      obtain ⟨⟨seq, -, written⟩, -⟩ :=
        StoreInstance.persistRecords_touched cap me m touched db listed stored
      rw [written]
      rfl
    · rw [frame.others id listed] at held
      exact (advanced_persistRecords frame.stored).stays id (caught.known id held)

theorem Caught.congr (caught : Caught cap base me db inst)
    (same : ∀ id, m.get id = inst.memory.get id) : Caught cap base me db { inst with memory := m } where
  lower := caught.lower
  upper := caught.upper
  covered id row found covered := by
    obtain ⟨sub, held, record⟩ := caught.covered id row found covered
    exact ⟨sub, (same id).trans held, record⟩
  known id held := caught.known id (same id ▸ held)

end

def SoundReload (cap : Int) (me : String) (db : SubmissionDb) (seen : Nat) : Reload → Prop
  | .queried latest => latest ≤ db.maxSeq
  | .pulled latest rows => latest ≤ db.maxSeq ∧ Pulled cap me db seen latest rows

structure Inv (cap : Int) (base : Nat) (s : Fleet) : Prop where
  distinct : s.db.SeqsDistinct base
  caught : ∀ i, Caught cap base i s.db (s.store i)
  reloads : ∀ i, ∀ r ∈ s.reloads i, SoundReload cap i s.db (s.store i).lastSeenSeq r
  guarded : ∀ i, s.guard = some i → s.db.maxSeq ≤ (s.store i).lastSeenSeq

theorem SoundReload.mono {cap me db seen seen' r} (sound : SoundReload cap me db seen r)
    (further : seen ≤ seen') : SoundReload cap me db seen' r := by
  cases r with
  | queried latest => exact sound
  | pulled latest rows => exact ⟨sound.1, sound.2.mono further⟩

theorem SoundReload.advance {cap me other db db' seen r} (sound : SoundReload cap other db seen r)
    (advanced : Advanced cap me db db') (own : me = other → ReplacesRead me seen db db') :
    SoundReload cap other db' seen r := by
  cases r with
  | queried latest => exact Nat.le_trans sound advanced.maxSeq_le
  | pulled latest rows =>
    exact ⟨sound.1.trans advanced.maxSeq_le, sound.2.advance sound.1 advanced own⟩

section

variable {cap : Int} {base : Nat} {s : Fleet} {me : String}

theorem Inv.withStore (inv : Inv cap base s) {inst} (caught : Caught cap base me s.db inst)
    (further : (s.store me).lastSeenSeq ≤ inst.lastSeenSeq) :
    Inv cap base (s.withStore me inst) where
  distinct := inv.distinct
  caught i := by
    by_cases here : i = me
    · subst here
      simpa [Fleet.withStore] using caught
    · simpa [Fleet.withStore, here] using inv.caught i
  reloads i r member := by
    by_cases here : i = me
    · subst here
      simpa [Fleet.withStore] using (inv.reloads i r member).mono further
    · simpa [Fleet.withStore, here] using inv.reloads i r member
  guarded i holds := by
    by_cases here : i = me
    · subst here
      simpa [Fleet.withStore] using (inv.guarded i holds).trans further
    · simpa [Fleet.withStore, here] using inv.guarded i holds

theorem Inv.withReloads (inv : Inv cap base s) {reloads}
    (sound : ∀ r ∈ reloads, SoundReload cap me s.db (s.store me).lastSeenSeq r) :
    Inv cap base (s.withReloads me reloads) where
  distinct := inv.distinct
  caught := inv.caught
  reloads i r member := by
    by_cases here : i = me
    · subst here
      simp only [Fleet.withReloads, Function.update_self] at member
      exact sound r member
    · simp only [Fleet.withReloads, Function.update_of_ne here] at member
      exact inv.reloads i r member
  guarded := inv.guarded

theorem Inv.withGuard (inv : Inv cap base s) {guard}
    (read : ∀ i, guard = some i → s.db.maxSeq ≤ (s.store i).lastSeenSeq) :
    Inv cap base { s with guard } :=
  ⟨inv.distinct, inv.caught, inv.reloads, read⟩

theorem inv_start (inv : Inv cap base s) (host : StoreHost) (me : String) :
    Inv cap base (step host cap s (.start me)).1 := by
  have caught := inv.caught me
  have hydrated := inv.withStore (caught_load (caught.lower.trans caught.upper) cap me) caught.upper
  have without : Inv cap base ((s.withStore me (StoreInstance.load 0 s.db).1).withReloads me []) :=
    hydrated.withReloads fun r member => by cases member
  refine without.withGuard fun i holds => without.guarded i ?_
  exact (Option.filter_eq_some_iff.mp holds).1

theorem inv_query (inv : Inv cap base s) (host : StoreHost) (me : String) :
    Inv cap base (step host cap s (.query me)).1 := by
  simp only [step]
  split
  · exact inv
  · apply inv.withReloads
    intro r member
    cases List.mem_append.mp member with
    | inl earlier => exact inv.reloads me r earlier
    | inr new =>
      rw [List.mem_singleton.mp new]
      exact le_rfl

theorem inv_pull (inv : Inv cap base s) (host : StoreHost) (me : String) (k : Nat) :
    Inv cap base (step host cap s (.pull me k)).1 := by
  simp only [step]
  split
  next latest found =>
    have queried : latest ≤ s.db.maxSeq := inv.reloads me _ (List.mem_of_getElem? found)
    apply inv.withReloads
    intro r member
    cases List.mem_or_eq_of_mem_set member with
    | inl earlier => exact inv.reloads me r earlier
    | inr new =>
      rw [new]
      exact ⟨queried, pulled_loadSince inv.distinct cap me (inv.caught me).lower latest⟩
  next => exact inv

theorem inv_merge (inv : Inv cap base s) (host : StoreHost) (me : String) (k : Nat) :
    Inv cap base (step host cap s (.merge me k)).1 := by
  simp only [step]
  split
  next latest rows found =>
    obtain ⟨reached, pulled⟩ := inv.reloads me _ (List.mem_of_getElem? found)
    split
    · exact inv
    · have further : (s.store me).lastSeenSeq ≤ ((s.store me).merge latest rows).lastSeenSeq := by
        rw [lastSeenSeq_merge]
        exact le_max_left _ _
      have merged := inv.withStore ((inv.caught me).merge pulled reached) further
      apply merged.withReloads
      exact fun r member => merged.reloads me r (List.mem_of_mem_eraseIdx member)
  next => exact inv

theorem inv_lock (inv : Inv cap base s) (host : StoreHost) (me : String) :
    Inv cap base (step host cap s (.lock me)).1 := by
  simp only [step]
  split
  · exact inv
  · have seq := lastSeenSeq_maybeReload (s.store me) me s.db
    have reloaded := inv.withStore ((inv.caught me).maybeReload inv.distinct)
      (seq ▸ le_max_left _ _)
    apply reloaded.withGuard
    intro i holds
    cases holds
    simp only [Fleet.withStore, Function.update_self, seq]
    exact le_max_right _ _

theorem inv_mutate_of_read (inv : Inv cap base s) (host : StoreHost) (me : String) (op : StoreOp) (now : ℚ)
    (known : ∀ id, op = .adopt id → (s.store me).memory.AdoptsKnown id)
    (read : ReplacesRead me (s.store me).lastSeenSeq s.db (s.mutate host cap me op now).db) :
    Inv cap base (s.mutate host cap me op now) := by
  have frame := op.frame host now (s.store me).memory known
  unfold mutate at read ⊢
  simp only at read ⊢
  split
  next touched ended =>
    rw [ended] at frame
    simp only [ended] at read
    change StoreMemory.Frame _ _ touched at frame
    have advanced : Advanced cap me s.db (StoreInstance.persistRecords cap me _ touched s.db).2 :=
      advanced_persistRecords frame.stored
    constructor
    · exact inv.distinct.writeRecords me _ _
    · intro i
      by_cases here : i = me
      · subst here
        simpa only [withStore, Function.update_self] using (inv.caught i).commit frame
      · simpa only [withStore, Function.update_of_ne here] using
          (inv.caught i).advance advanced (Ne.symm here)
    · intro i r member
      have sound := (inv.reloads i r member).advance advanced fun same => same ▸ read
      by_cases here : i = me
      · subst here
        simpa only [withStore, Function.update_self] using sound
      · simpa only [withStore, Function.update_of_ne here] using sound
    · intro i none
      cases none
  next unpersisted =>
    have nothing : persistedIds (op.run host now (s.store me).memory).result = [] := by
      unfold persistedIds
      split
      next touched ended => exact absurd ended (unpersisted touched)
      next => rfl
    rw [nothing] at frame
    have same (id : String) := frame.others id List.not_mem_nil
    exact (inv.withStore ((inv.caught me).congr same) le_rfl).withGuard fun i none => by cases none

theorem inv_mutate (inv : Inv cap base s) (host : StoreHost) (holds : s.guard = some me) (op : StoreOp)
    (now : ℚ) (known : ∀ id, op = .adopt id → (s.store me).memory.AdoptsKnown id) :
    Inv cap base (s.mutate host cap me op now) :=
  inv_mutate_of_read inv host me op now known (replacesRead_of_through (inv.guarded me holds))

theorem inv_step (inv : Inv cap base s) (host : StoreHost) (e : FleetEvent) (allowed : AdoptsKnown s e) :
    Inv cap base (step host cap s e).1 := by
  cases e with
  | start me => exact inv_start inv host me
  | query me => exact inv_query inv host me
  | pull me k => exact inv_pull inv host me k
  | merge me k => exact inv_merge inv host me k
  | lock me => exact inv_lock inv host me
  | mutate me op now =>
    simp only [step]
    split
    next holds => exact inv_mutate inv host holds op now allowed
    next => exact inv

end

theorem inv_fresh (cap : Int) (db : SubmissionDb) : Inv cap db.maxSeq (fresh db) where
  distinct := SubmissionDb.seqsDistinct_maxSeq db
  caught i := caught_load le_rfl cap i
  reloads i r member := by cases member
  guarded i none := by cases none

theorem inv_of_reaches {host cap db s}
    (reached : Reaches (step host cap) AdoptsKnown (fresh db) s) : Inv cap db.maxSeq s :=
  reached.invariant (Inv cap db.maxSeq) (inv_fresh cap db) fun _ e inv allowed =>
    inv_step inv host e allowed

/-- A step leaves a row, or a mutator rewrites it with what it makes of a record that says what
    the row says. -/
def LosesNothing (host : StoreHost) (cap : Int) (s : Fleet) (e : FleetEvent) : Prop :=
  ∀ id row, s.db.rows.get? id = some row →
    (step host cap s e).1.db.rows.get? id = some row ∨
      ∃ me op now before after seq, e = .mutate me op now ∧ s.guard = some me ∧
        (s.store me).memory.get id = some before ∧ (s.db.record row).Matches cap before ∧
        (op.run host now (s.store me).memory).state.get id = some after ∧
        (step host cap s e).1.db.rows.get? id = some ⟨after.data, seq, some me⟩

section

variable {cap : Int} {base : Nat} {s : Fleet}

theorem rows_mutate (s : Fleet) (host : StoreHost) (cap : Int) (me : String) (op : StoreOp) (now : ℚ)
    (frame : (s.store me).memory.Frame (op.run host now (s.store me).memory).state
      (persistedIds (op.run host now (s.store me).memory).result)) (id : String) :
    (s.mutate host cap me op now).db.rows.get? id = s.db.rows.get? id ∨
      id ∈ persistedIds (op.run host now (s.store me).memory).result ∧
        ∃ after seq, (op.run host now (s.store me).memory).state.get id = some after ∧ s.db.maxSeq < seq ∧
          (s.mutate host cap me op now).db.rows.get? id = some ⟨after.data, seq, some me⟩ := by
  unfold mutate
  simp only
  split
  next touched ended =>
    rw [ended] at frame ⊢
    by_cases listed : id ∈ touched
    · right
      obtain ⟨after, changed⟩ := Option.isSome_iff_exists.mp (frame.stored id listed)
      obtain ⟨⟨seq, later, written⟩, -⟩ := StoreInstance.persistRecords_touched cap me _ touched
        s.db listed changed
      exact ⟨listed, after, seq, changed, later, written⟩
    · exact .inl (StoreInstance.persistRecords_untouched cap me _ touched s.db listed).1
  next => exact .inl rfl

theorem losesNothing_mutate (inv : Inv cap base s) (host : StoreHost) (me : String) (op : StoreOp)
    (now : ℚ) (known : ∀ id, op = .adopt id → (s.store me).memory.AdoptsKnown id) :
    LosesNothing host cap s (.mutate me op now) := by
  intro id row found
  by_cases holds : s.guard = some me
  · have agrees := (inv.caught me).agrees (inv.guarded me holds)
    simp only [step, holds, if_true]
    cases rows_mutate s host cap me op now (op.frame host now (s.store me).memory known) id with
    | inl stays => exact .inl (stays.trans found)
    | inr rewritten =>
      obtain ⟨-, after, seq, changed, -, written⟩ := rewritten
      obtain ⟨before, held, record⟩ := agrees.rows id row found
      exact .inr ⟨me, op, now, before, after, seq, rfl, rfl, held, record, changed, written⟩
  · left
    simp only [step, if_neg holds]
    exact found

theorem db_step (host : StoreHost) (cap : Int) (s : Fleet) {e}
    (passive : ∀ me op now, e ≠ .mutate me op now) : (step host cap s e).1.db = s.db := by
  cases e with
  | start me => rfl
  | query me =>
    simp only [step]
    split <;> rfl
  | pull me k =>
    simp only [step]
    split <;> rfl
  | merge me k =>
    simp only [step]
    split
    · split <;> rfl
    · rfl
  | lock me =>
    simp only [step]
    split <;> rfl
  | mutate me op now => exact absurd rfl (passive me op now)

theorem losesNothing_step (inv : Inv cap base s) (host : StoreHost) (e : FleetEvent)
    (allowed : AdoptsKnown s e) : LosesNothing host cap s e := by
  by_cases active : ∃ me op now, e = .mutate me op now
  · obtain ⟨me, op, now, rfl⟩ := active
    exact losesNothing_mutate inv host me op now allowed
  · intro id row found
    left
    rw [db_step host cap s fun me op now same => active ⟨me, op, now, same⟩]
    exact found

theorem lastSeenSeq_withStore (s : Fleet) {me inst}
    (further : (s.store me).lastSeenSeq ≤ inst.lastSeenSeq) (i : String) :
    (s.store i).lastSeenSeq ≤ ((s.withStore me inst).store i).lastSeenSeq := by
  by_cases here : i = me
  · subst here
    simpa only [withStore, Function.update_self] using further
  · simp only [withStore, Function.update_of_ne here]
    exact le_rfl

theorem lastSeenSeq_mutate (s : Fleet) (host : StoreHost) (me : String) (op : StoreOp) (now : ℚ)
    (i : String) : ((s.mutate host cap me op now).store i).lastSeenSeq = (s.store i).lastSeenSeq := by
  unfold mutate
  by_cases here : i = me
  · subst here
    simp only
    split <;> simp [withStore]
  · simp only
    split <;> simp only [withStore, Function.update_of_ne here]

theorem lastSeenSeq_step (inv : Inv cap base s) (host : StoreHost) (e : FleetEvent) (i : String) :
    (s.store i).lastSeenSeq ≤ ((step host cap s e).1.store i).lastSeenSeq := by
  cases e with
  | start me => exact lastSeenSeq_withStore s (inv.caught me).upper i
  | query me =>
    simp only [step]
    split <;> exact le_rfl
  | pull me k =>
    simp only [step]
    split <;> exact le_rfl
  | merge me k =>
    simp only [step]
    split
    · split
      · exact le_rfl
      · exact lastSeenSeq_withStore s (by rw [lastSeenSeq_merge]; exact le_max_left _ _) i
    · exact le_rfl
  | lock me =>
    simp only [step]
    split
    · exact le_rfl
    · exact lastSeenSeq_withStore s (by rw [lastSeenSeq_maybeReload]; exact le_max_left _ _) i
  | mutate me op now =>
    simp only [step]
    split
    · exact (lastSeenSeq_mutate s host me op now i).ge
    · exact le_rfl

theorem reloaded_through {host e me latest} (finished : (step host cap s e).2 = some (me, latest)) :
    latest ≤ ((step host cap s e).1.store me).lastSeenSeq := by
  cases e with
  | start me' => cases finished
  | query me' =>
    simp only [step] at finished ⊢
    split at finished
    next read =>
      cases finished
      rw [if_pos read]
      exact read
    next => cases finished
  | pull me' k =>
    simp only [step] at finished
    split at finished <;> cases finished
  | merge me' k =>
    simp only [step] at finished ⊢
    split at finished
    next latest' rows found =>
      split at finished
      · cases finished
      next free =>
        cases finished
        simp only [if_neg free, withReloads, withStore, Function.update_self,
          lastSeenSeq_merge]
        exact le_max_right _ _
    next => cases finished
  | lock me' =>
    simp only [step] at finished ⊢
    split at finished
    · cases finished
    next free =>
      cases finished
      simp only [if_neg free, withStore, Function.update_self, lastSeenSeq_maybeReload]
      exact le_max_right _ _
  | mutate me' op now =>
    simp only [step] at finished
    split at finished <;> cases finished

end

def championRecord : Submission where
  submissionId := .subA
  repoUrl := "https://github.com/a/solver"
  commitHash := "c0ffee"
  epoch := 7
  hotkey := "5Alice"
  roundId := legacyRoundId 7
  status := .adopted

def championDb : SubmissionDb := SubmissionDb.empty.writeRecords "seed" [championRecord] []

def adoptMissing : List FleetEvent := [.lock "api", .mutate "api" (.adopt "sub_b") 1]

def tagAndPull : List FleetEvent :=
  [.lock "api", .mutate "api" (.setImageTag "sub_a" "solver:1") 1, .query "worker", .pull "worker" 0]

end Fleet

end MinotaurSubnet.Harness
