import MinotaurSubnet.Harness.TokenSidecar

/-! # What becomes of a token

A call that purges erases one token from the copy, `create` adds one, the others leave the
copy alone. A store that has reloaded knows every submission of the database, and with it
every submission with a token that was created and not purged, so the prune takes none of them.
-/

namespace MinotaurSubnet.Harness

open Library Python

namespace StoreMemory

theorem isSome_get_put_of_known {m : StoreMemory} {sub old : Submission} {submissionId}
    (found : m.get submissionId = some old) (own : sub.submissionId = old.submissionId)
    (id : String) :
    ((m.put sub).get id).isSome = (m.get id).isSome := by
  rw [get_put]
  split
  next same =>
    rw [same, own, m.keyed submissionId old found, found]
    rfl
  next => rfl

end StoreMemory

section

variable {host : StoreHost} {now : ℚ} {m : StoreMemory} {op : StoreOp}

theorem stashes_of_purges {id} (purges : op.purges m = some id) : op.stashes host m = none := by
  cases op with
  | create request newId => cases purges
  | _ => rfl

theorem purges_withEncTokens (encTokens : Dict String String) :
    op.purges (m.withEncTokens encTokens) = op.purges m := by
  cases op <;> rfl

theorem run_of_purges {id} (purges : op.purges m = some id) :
    (op.run host now m).state.encTokens = m.encTokens.erase id ∧
      ∀ other, ((op.run host now m).state.get other).isSome = (m.get other).isSome := by
  cases op with
  | purgeToken submissionId =>
    cases purges
    exact ⟨rfl, fun _ => rfl⟩
  | reject submissionId reason outcomeCode =>
    obtain ⟨sub, found, rfl⟩ := Option.map_eq_some_iff.mp purges
    simp only [StoreOp.run, StoreMemory.reject, found, Outcome.state_returns]
    exact ⟨rfl, fun other => StoreMemory.isSome_get_put_of_known found (by rfl) other⟩
  | waitlist submissionId reason outcomeCode position contenders slots =>
    obtain ⟨sub, found, rfl⟩ := Option.map_eq_some_iff.mp purges
    simp only [StoreOp.run, StoreMemory.waitlist, found, Outcome.state_returns]
    exact ⟨rfl, fun other => StoreMemory.isSome_get_put_of_known found (by rfl) other⟩
  | adopt submissionId =>
    obtain ⟨sub, found, rfl⟩ := Option.map_eq_some_iff.mp purges
    simp only [StoreOp.run, StoreMemory.adopt, StoreMemory.get_mapRecords, found, Option.map_some,
      Outcome.state_returns]
    refine ⟨rfl, fun other => ?_⟩
    have kept : (m.mapRecords (StoreMemory.dethroned now submissionId)
        (StoreMemory.dethroned_id now submissionId)).get submissionId =
          some (StoreMemory.dethroned now submissionId sub) := by
      rw [StoreMemory.get_mapRecords, found, Option.map_some]
    rw [StoreMemory.get_purgeToken, StoreMemory.isSome_get_put_of_known kept (by rfl),
      StoreMemory.get_mapRecords, Option.isSome_map]
  | setScreeningResult submissionId stage passed durationMs details errorCode =>
    cases passed with
    | true => cases purges
    | false =>
      obtain ⟨sub, found, rfl⟩ := Option.map_eq_some_iff.mp purges
      simp only [StoreOp.run, StoreMemory.setScreeningResult, found]
      exact ⟨rfl, fun other => StoreMemory.isSome_get_put_of_known found (by rfl) other⟩
  | setBenchmarkResult submissionId valid rank details =>
    obtain ⟨sub, found, ends⟩ := Option.bind_eq_some_iff.mp purges
    split at ends
    · cases ends
    next live =>
      cases ends
      simp only [Bool.or_eq_true, not_or] at live
      simp only [StoreOp.run, StoreMemory.setBenchmarkResult, found, live.1, live.2]
      exact ⟨rfl, fun other => StoreMemory.isSome_get_put_of_known found (by rfl) other⟩
  | _ => cases purges

theorem run_of_stashes (now : ℚ) {id token} (stashes : op.stashes host m = some (id, token))
    {encrypt : String → String} (key : host.encryptToken = some encrypt) :
    (∀ other, (op.run host now m).state.encTokens.get? other =
      if ((op.run host now m).state.get other).isSome then (m.encTokens.set id (encrypt token)).get? other
      else none) ∧
    ((op.run host now m).state.get id).isSome ∧ (op.run host now m).result = .ok (some [id]) ∧
      ∀ other, other ≠ id → (op.run host now m).state.get other = m.get other := by
  cases op with
  | create request newId =>
    cases capped : m.capError host request
        (RoundId.ofRaw (stripText (request.roundId.getD "")) request.epoch) with
    | some error =>
      simp only [StoreOp.stashes, capped] at stashes
      cases stashes
    | none =>
      simp only [StoreOp.stashes, capped] at stashes
      obtain ⟨given, filled, same⟩ := Option.map_eq_some_iff.mp stashes
      cases same
      simp only [StoreOp.run, StoreMemory.create, capped, filled, Outcome.state_returns,
        Outcome.result_returns, StoreMemory.get_stashToken, StoreMemory.get_put]
      refine ⟨fun other => ?_, by rw [if_pos (by rfl)]; rfl, trivial, fun other ne => if_neg ne⟩
      simp only [StoreMemory.stashToken, key]
      exact (Dict.get?_filter_key _ (fun id => ((m.put _).get id).isSome) other).trans
        (by rw [StoreMemory.get_put]; rfl)
  | _ => cases stashes

/-- No call loses a record, and every record it hands to `_persist_records` is there. -/
theorem known_run (host : StoreHost) (now : ℚ) (m : StoreMemory) (op : StoreOp) :
    (∀ id, (m.get id).isSome → ((op.run host now m).state.get id).isSome) ∧
      ∀ id ∈ persistedIds (op.run host now m).result, ((op.run host now m).state.get id).isSome := by
  by_cases unknown : ∃ id, op = .adopt id ∧ m.get id = none
  · -- `adopt` then raises, with everybody else dethroned
    obtain ⟨submissionId, rfl, missing⟩ := unknown
    simp only [StoreOp.run, StoreMemory.adopt, StoreMemory.get_mapRecords, missing, Option.map_none,
      Outcome.state_raises, Outcome.result_raises, Option.isSome_map]
    exact ⟨fun _ known => known, fun id member => absurd member List.not_mem_nil⟩
  · have frame := op.frame host now m fun id same =>
      .inl (Option.isSome_iff_ne_none.mpr fun missing => unknown ⟨id, same, missing⟩)
    refine ⟨fun id known => ?_, frame.stored⟩
    by_cases listed : id ∈ persistedIds (op.run host now m).result
    · exact frame.stored id listed
    · rw [frame.others id listed]
      exact known

end

namespace TokenFleet

structure Knows (base : Nat) (me : String) (db : SubmissionDb) (inst : StoreInstance) : Prop where
  lower : base ≤ inst.lastSeenSeq
  upper : inst.lastSeenSeq ≤ db.maxSeq
  covered : ∀ id row, db.rows.get? id = some row →
    row.writer = some me ∨ row.updatedSeq ≤ inst.lastSeenSeq → (inst.memory.get id).isSome

section

variable {base : Nat} {me other : String} {db : SubmissionDb} {inst : StoreInstance}

theorem Knows.congr (knows : Knows base me db inst) {m}
    (same : ∀ id, m.get id = inst.memory.get id) : Knows base me db { inst with memory := m } where
  lower := knows.lower
  upper := knows.upper
  covered id row found covered := by
    rw [same]
    exact knows.covered id row found covered

theorem knows_load (reached : base ≤ db.maxSeq) : Knows base me db (StoreInstance.load 0 db).1 where
  lower := reached
  upper := le_rfl
  covered id row found _ := by
    rw [Fleet.load_zero, Fleet.get_hydrate, found]
    rfl

theorem Knows.maybeReload (knows : Knows base me db inst) (distinct : db.SeqsDistinct base) {id}
    (stored : (db.rows.get? id).isSome) : ((inst.maybeReload me db).memory.get id).isSome := by
  obtain ⟨row, found⟩ := Option.isSome_iff_exists.mp stored
  have reached := SubmissionDb.updatedSeq_le_maxSeq found
  unfold StoreInstance.maybeReload
  split
  next read => exact knows.covered id row found (.inr (reached.trans read))
  next =>
    have pulled := Fleet.pulled_loadSince distinct 0 me knows.lower db.maxSeq
    by_cases before : row.writer = some me ∨ row.updatedSeq ≤ inst.lastSeenSeq
    · rw [Fleet.get_merge_of_covered pulled found before]
      exact knows.covered id row found before
    · rw [not_or, Nat.not_le] at before
      obtain ⟨sub, held, -⟩ := Fleet.get_merge_of_pulled pulled found before.1 reached before.2
      rw [held]
      rfl

theorem Knows.advance {cap db'} (knows : Knows base other db inst)
    (advanced : Fleet.Advanced cap me db db') (different : other ≠ me) :
    Knows base other db' inst where
  lower := knows.lower
  upper := knows.upper.trans advanced.maxSeq_le
  covered id row found covered := by
    cases advanced.rows id row found with
    | inl written =>
      have reached := knows.upper
      cases covered with
      | inl own =>
        rw [own] at written
        exact absurd (Option.some.inj written.1) different
      | inr read => omega
    | inr stayed => exact knows.covered id row stayed.1 covered

end

section

variable {cap : Int} {me : String} {db : SubmissionDb} {ran : Mutation}

theorem get_persist (ran : Mutation) (cap : Int) (me : String) (db : SubmissionDb) (id : String) :
    ((ran.persist cap me db).1.get id).isSome = (ran.state.get id).isSome := by
  unfold Mutation.persist
  split
  · show ((ran.state.enforceRetention cap).get id).isSome = _
    rw [StoreInstance.get_enforceRetention, Option.isSome_map]
  · rfl

theorem encTokens_persist (ran : Mutation) (cap : Int) (me : String) (db : SubmissionDb) :
    (ran.persist cap me db).1.encTokens = ran.state.encTokens := by
  unfold Mutation.persist
  split <;> rfl

theorem advanced_persist (stored : ∀ id ∈ persistedIds ran.result, (ran.state.get id).isSome) :
    Fleet.Advanced cap me db (ran.persist cap me db).2 := by
  unfold Mutation.persist
  split
  next touched ended =>
    rw [ended] at stored
    exact Fleet.advanced_persistRecords stored
  next => exact ⟨fun id row found => .inr ⟨found, fun _ record => record⟩, fun id was => was⟩

theorem distinct_persist {base} (distinct : db.SeqsDistinct base) :
    (ran.persist cap me db).2.SeqsDistinct base := by
  unfold Mutation.persist
  split
  · exact distinct.writeRecords me _ _
  · exact distinct

theorem row_persist {id} (found : ((ran.persist cap me db).2.rows.get? id).isSome) :
    id ∈ persistedIds ran.result ∨ (db.rows.get? id).isSome := by
  unfold Mutation.persist at found
  split at found
  next touched ended =>
    by_cases listed : id ∈ touched
    · rw [ended]
      exact .inl listed
    · rw [(StoreInstance.persistRecords_untouched cap me _ touched db listed).1] at found
      exact .inr found
  next => exact .inr found

theorem row_of_persisted {id} (listed : id ∈ persistedIds ran.result)
    (stored : (ran.state.get id).isSome) : ((ran.persist cap me db).2.rows.get? id).isSome := by
  unfold Mutation.persist
  split
  next touched ended =>
    rw [ended] at listed
    obtain ⟨sub, held⟩ := Option.isSome_iff_exists.mp stored
    obtain ⟨⟨seq, -, written⟩, -⟩ := StoreInstance.persistRecords_touched cap me _ touched db listed held
    rw [written]
    rfl
  next unpersisted =>
    unfold persistedIds at listed
    split at listed
    next touched ended => exact absurd ended (unpersisted touched)
    next => cases listed

end

structure Inv (base : Nat) (s : TokenFleet) : Prop where
  distinct : s.db.SeqsDistinct base
  knows : ∀ me, Knows base me s.db (s.store me)
  stored : ∀ id blob, s.fates id = some (.created blob) → (s.db.rows.get? id).isSome
  keeps : s.KeepsFates

section

variable {host : StoreHost} {cap : Int} {base : Nat} {s : TokenFleet} {me : String} {op : StoreOp}
  {now : ℚ} {mtime : Nat}

theorem db_call : (s.call host cap me op now mtime).db =
    ((s.body host me op now).persist cap me s.db).2 := by
  unfold call
  simp only
  split <;> rfl

theorem fates_call : (s.call host cap me op now mtime).fates = s.fatesAfter host me op := by
  unfold call
  simp only
  split <;> rfl

theorem blob?_call (id : String) : (s.call host cap me op now mtime).blob? id =
    if s.rewrites host me op then
      if ((s.body host me op now).state.get id).isSome then
        (s.body host me op now).state.encTokens.get? id
      else none
    else s.blob? id := by
  unfold call
  simp only
  split
  · show (StoreMemory.knownTokens _).get? id = _
    rw [StoreMemory.get?_knownTokens, get_persist, encTokens_persist]
  · rfl

theorem known_body (host : StoreHost) (s : TokenFleet) (me : String) (op : StoreOp) (now : ℚ) {id}
    (known : ((s.records me).get id).isSome) : ((s.body host me op now).state.get id).isSome :=
  (known_run host now _ op).1 id known

theorem stored_body (host : StoreHost) (s : TokenFleet) (me : String) (op : StoreOp) (now : ℚ) :
    ∀ id ∈ persistedIds (s.body host me op now).result, ((s.body host me op now).state.get id).isSome :=
  (known_run host now _ op).2

theorem knows_call (inv : Inv base s) (i : String) :
    Knows base i (s.call host cap me op now mtime).db ((s.call host cap me op now mtime).store i) := by
  have advanced : Fleet.Advanced cap me s.db ((s.body host me op now).persist cap me s.db).2 :=
    advanced_persist (stored_body host s me op now)
  rw [db_call]
  by_cases here : i = me
  · subst here
    have seq := Fleet.lastSeenSeq_maybeReload (s.store i) i s.db
    have own : Knows base i ((s.body host i op now).persist cap i s.db).2
        { (s.store i).maybeReload i s.db with
          memory := ((s.body host i op now).persist cap i s.db).1 } := by
      constructor
      · rw [seq]
        exact (inv.knows i).lower.trans (le_max_left _ _)
      · rw [seq]
        exact max_le ((inv.knows i).upper.trans advanced.maxSeq_le) advanced.maxSeq_le
      · intro id row found _
        rw [get_persist]
        cases row_persist (Option.isSome_of_eq_some found) with
        | inl listed => exact stored_body host s i op now id listed
        | inr was => exact known_body host s i op now ((inv.knows i).maybeReload inv.distinct was)
    unfold call
    simp only
    split
    · simp
      exact own.congr fun _ => rfl
    · simp
      exact own
  · have same : (s.call host cap me op now mtime).store i = s.store i := by
      unfold call
      simp only
      split <;> exact Function.update_of_ne here _ _
    rw [same]
    exact (inv.knows i).advance advanced here

theorem encTokens_records (s : TokenFleet) (me : String) :
    (s.records me).encTokens = (s.store me).memory.encTokens := by
  have along (rows : List PulledRow) (acc : StoreInstance.Merge) :
      (rows.foldl StoreInstance.mergeNext acc).memory.encTokens = acc.memory.encTokens := by
    induction rows generalizing acc with
    | nil => rfl
    | cons pulled rest ih =>
      rw [List.foldl_cons, ih]
      unfold StoreInstance.mergeNext
      split
      · rfl
      · rw [StoreInstance.upsertOne_ofRecord]
        rfl
  unfold records StoreInstance.maybeReload
  split
  · rfl
  · unfold StoreInstance.merge
    split
    · rfl
    · exact along _ _

theorem get?_reloadTokens (newer : s.newer me = true) (id : String) :
    (s.reloadTokens me).1.get? id = s.blob? id := by
  unfold reloadTokens
  cases file : s.file with
  | none => simp [TokenFleet.newer, file] at newer
  | some sidecar =>
    simp [newer, blob?, file]

theorem reloadTokens_of_old (old : s.newer me = false) :
    (s.reloadTokens me).1 = (s.store me).memory.encTokens := by
  unfold reloadTokens
  rw [old]
  split <;> rfl

variable {encrypt : String → String}

/-- A purge works on a copy that says what the sidecar says, if it has the token; if it does
    not, there is nothing to purge. -/
theorem copy_of_purges (key : host.encryptToken = some encrypt) {id}
    (purges : op.purges (s.records me) = some id) (inDate : InDate host s (.call me op now mtime)) :
    if ((s.copyFor host me op).1.get? id).isSome then
      ∀ other, other ≠ id → ((s.records me).get other).isSome →
        (s.copyFor host me op).1.get? other = s.blob? other
    else s.blob? id = none := by
  have copy : s.copyFor host me op = s.reloadTokens me := by
    unfold copyFor
    rw [if_pos ⟨by rw [key]; rfl, by rw [purges]; rfl⟩]
  rw [copy]
  cases newer : s.newer me with
  | true =>
    simp only [get?_reloadTokens newer]
    split
    · exact fun _ _ _ => trivial
    next empty => exact Option.not_isSome_iff_eq_none.mp empty
  | false =>
    rw [reloadTokens_of_old newer]
    obtain ⟨-, purging⟩ := inDate (by rw [key]; rfl)
    exact (purging id purges).resolve_left (by rw [newer]; exact Bool.false_ne_true)

theorem KeepsFates.decide {s' : TokenFleet} (keeps : s.KeepsFates) (m : StoreMemory)
    (known : ∀ id blob, s.fates id = some (.created blob) → (m.get id).isSome) {id : String}
    {fate : TokenFate} (fates : s'.fates = Function.update s.fates id (some fate))
    (own : s'.blob? id = fate.blob?) (others : ∀ other, other ≠ id →
      s'.blob? other = s.blob? other ∨ (m.get other).isSome = false ∧ s'.blob? other = none) :
    s'.KeepsFates := by
  intro other otherFate decided
  rw [fates] at decided
  by_cases here : other = id
  · subst here
    rw [Function.update_self] at decided
    exact Option.some.inj decided ▸ own
  · rw [Function.update_of_ne here] at decided
    cases others other here with
    | inl same => rw [same, keeps other otherFate decided]
    | inr pruned =>
      cases otherFate with
      | created blob =>
        have := known other blob decided
        rw [pruned.1] at this
        cases this
      | purged => exact pruned.2

theorem known_of_created (inv : Inv base s) {id blob}
    (created : s.fates id = some (.created blob)) : ((s.records me).get id).isSome :=
  (inv.knows me).maybeReload inv.distinct (inv.stored id blob created)

theorem body_of_unpurged (host : StoreHost) (s : TokenFleet) (me : String) (op : StoreOp) (now : ℚ)
    (purges : op.purges (s.records me) = none) : s.body host me op now = op.run host now (s.records me) := by
  have copy : (s.copyFor host me op).1 = (s.records me).encTokens := by
    unfold copyFor
    rw [if_neg (by rw [purges]; rintro ⟨-, none⟩; cases none), encTokens_records]
  rw [TokenFleet.body, copy]
  rfl

theorem keepsFates_purge (inv : Inv base s) (key : host.encryptToken = some encrypt) {id}
    (purges : op.purges (s.records me) = some id) (inDate : InDate host s (.call me op now mtime)) :
    (s.call host cap me op now mtime).KeepsFates := by
  have copy := copy_of_purges key purges inDate
  obtain ⟨erased, known⟩ : (s.body host me op now).state.encTokens = (s.copyFor host me op).1.erase id ∧
      ∀ other, ((s.body host me op now).state.get other).isSome = ((s.records me).get other).isSome :=
    run_of_purges ((purges_withEncTokens (s.copyFor host me op).1).trans purges)
  have fates : s.fatesAfter host me op = Function.update s.fates id (some .purged) := by
    simp only [fatesAfter, key, purges]
  have rewrites : s.rewrites host me op = ((s.copyFor host me op).1.get? id).isSome := by
    simp [TokenFleet.rewrites, key, purges, stashes_of_purges purges]
  apply inv.keeps.decide (s.records me) (fun _ _ => known_of_created inv) (fates_call.trans fates)
  · rw [blob?_call, rewrites]
    split
    next => rw [erased, Dict.get?_erase, if_pos rfl, ite_self]; rfl
    next missing =>
      rw [if_neg missing] at copy
      exact copy
  · intro other ne
    rw [blob?_call, rewrites]
    split
    next has =>
      rw [if_pos has] at copy
      rw [erased, Dict.get?_erase, if_neg ne, known]
      cases there : ((s.records me).get other).isSome with
      | true => exact .inl ((if_pos rfl).trans (copy other ne there))
      | false => exact .inr ⟨rfl, if_neg Bool.false_ne_true⟩
    next => exact .inl rfl

theorem keepsFates_stash (inv : Inv base s) (key : host.encryptToken = some encrypt)
    (purges : op.purges (s.records me) = none) {id token}
    (stashes : op.stashes host (s.records me) = some (id, token))
    (inDate : InDate host s (.call me op now mtime)) :
    (s.call host cap me op now mtime).KeepsFates := by
  have agree := (inDate (by rw [key]; rfl)).1 id token stashes
  obtain ⟨tokens, stored, -, others⟩ := run_of_stashes now stashes key
  have body := body_of_unpurged host s me op now purges
  have fates : s.fatesAfter host me op = Function.update s.fates id (some (.created (encrypt token))) := by
    simp only [fatesAfter, key, purges, stashes]
  have rewrites : s.rewrites host me op = true := by
    simp [TokenFleet.rewrites, key, stashes]
  apply inv.keeps.decide (s.records me) (fun _ _ => known_of_created inv) (fates_call.trans fates)
  · rw [blob?_call, rewrites, if_pos rfl, body, tokens, if_pos stored, if_pos stored, Dict.get?_set_self]
    rfl
  · intro other ne
    rw [blob?_call, rewrites, if_pos rfl, body, tokens, others other ne, Dict.get?_set_ne _ _ ne]
    cases there : ((s.records me).get other).isSome with
    | true =>
      rw [encTokens_records]
      exact .inl (agree other ne there)
    | false => exact .inr ⟨rfl, rfl⟩

theorem keepsFates_call (inv : Inv base s) (inDate : InDate host s (.call me op now mtime)) :
    (s.call host cap me op now mtime).KeepsFates := by
  have untouched (fates : s.fatesAfter host me op = s.fates) (rewrites : s.rewrites host me op = false) :
      (s.call host cap me op now mtime).KeepsFates := by
    intro id fate decided
    rw [fates_call, fates] at decided
    rw [blob?_call, rewrites]
    exact inv.keeps id fate decided
  cases key : host.encryptToken with
  | none => exact untouched (by simp only [fatesAfter, key]) (by simp [TokenFleet.rewrites, key])
  | some encrypt =>
    cases purges : op.purges (s.records me) with
    | some id => exact keepsFates_purge inv key purges inDate
    | none =>
      cases stashes : op.stashes host (s.records me) with
      | some stashed => exact keepsFates_stash inv key purges stashes inDate
      | none =>
        exact untouched (by simp only [fatesAfter, key, purges, stashes])
          (by simp [TokenFleet.rewrites, key, purges, stashes])

theorem stored_call (inv : Inv base s) {id blob}
    (created : (s.call host cap me op now mtime).fates id = some (.created blob)) :
    ((s.call host cap me op now mtime).db.rows.get? id).isSome := by
  have advanced : Fleet.Advanced cap me s.db ((s.body host me op now).persist cap me s.db).2 :=
    advanced_persist (stored_body host s me op now)
  have before (old : s.fates id = some (.created blob)) :=
    advanced.stays id (inv.stored id blob old)
  rw [fates_call] at created
  rw [db_call]
  cases key : host.encryptToken with
  | none =>
    simp only [fatesAfter, key] at created
    exact before created
  | some encrypt =>
    cases purges : op.purges (s.records me) with
    | some purged =>
      simp only [fatesAfter, key, purges, Function.update_apply] at created
      split at created
      · cases created
      · exact before created
    | none =>
      cases stashes : op.stashes host (s.records me) with
      | none =>
        simp only [fatesAfter, key, purges, stashes] at created
        exact before created
      | some stashed =>
        simp only [fatesAfter, key, purges, stashes, Function.update_apply] at created
        split at created
        next here =>
          obtain ⟨-, stored, result, -⟩ := run_of_stashes now stashes key
          rw [← body_of_unpurged host s me op now purges] at stored result
          subst here
          apply row_of_persisted _ stored
          rw [result]
          exact List.mem_singleton_self _
        next => exact before created

theorem inv_call (inv : Inv base s) (inDate : InDate host s (.call me op now mtime)) :
    Inv base (s.call host cap me op now mtime) where
  distinct := by
    rw [db_call]
    exact distinct_persist inv.distinct
  knows := knows_call inv
  stored _ _ := stored_call inv
  keeps := keepsFates_call inv inDate

theorem knows_opened {db} (reached : base ≤ db.maxSeq) (file : Option SidecarFile) (me : String) :
    Knows base me db (opened host db file).1 := by
  unfold opened
  simp only
  split
  · exact (knows_load reached).congr fun _ => rfl
  · exact knows_load reached

theorem Inv.withStore (inv : Inv base s) {inst} (knows : Knows base me s.db inst)
    (seen : String → Option Nat) :
    Inv base { s with store := Function.update s.store me inst, seen } where
  distinct := inv.distinct
  knows i := by
    by_cases here : i = me
    · subst here
      simpa only [Function.update_self] using knows
    · simpa only [Function.update_of_ne here] using inv.knows i
  stored := inv.stored
  keeps := inv.keeps

theorem inv_getRepoToken (inv : Inv base s) (submissionId : String) :
    Inv base (s.getRepoToken host me submissionId).1 := by
  unfold getRepoToken
  simp only
  split
  · exact inv
  · exact inv
  next =>
    refine inv.withStore ((inv.knows me).congr fun id => ?_) _
    split <;> rfl

theorem inv_step (inv : Inv base s) (e : TokenEvent) (inDate : InDate host s e) :
    Inv base (step host cap s e).1 := by
  cases e with
  | start me =>
    have reached := (inv.knows me).lower.trans (inv.knows me).upper
    exact inv.withStore (knows_opened reached s.file me) _
  | call me op now mtime => exact inv_call inv inDate
  | getRepoToken me submissionId => exact inv_getRepoToken inv submissionId

end

theorem othersAgree_of_entries {s : TokenFleet} {me}
    (same : (s.store me).memory.encTokens.entries = (s.file.map (·.entries.entries)).getD [])
    (id : String) : s.OthersAgree me id := by
  intro other _ _
  unfold blob? Dict.get?
  rw [same]
  cases s.file <;> rfl

def keyedHost : StoreHost :=
  { StoreHost.plain with
    encryptToken := some fun token => String.ofList token.toList.reverse
    decryptToken := fun blob => some (String.ofList blob.toList.reverse) }

def privateRequest (hotkey token : String) : NewSubmission where
  repoUrl := "https://github.com/a/solver"
  commitHash := "c0ffee"
  epoch := 7
  hotkey := hotkey
  isPrivate := true
  repoToken := some token

def aliceId : SubmissionId := .subA

def bobId : SubmissionId := .subB

/-- The worker purges the first token; the next `create` of the API writes it back. -/
def purgeThenCreate : List TokenEvent :=
  [.call "api" (.create (privateRequest "5Alice" "ghp_a") aliceId) 1 1,
    .call "worker" (.reject "sub_a" "static checks failed" none) 2 2,
    .call "api" (.create (privateRequest "5Bob" "ghp_b") bobId) 3 3]

def readThenCreate : List TokenEvent :=
  [.call "api" (.create (privateRequest "5Alice" "ghp_a") aliceId) 1 1, .getRepoToken "worker" "sub_a",
    .call "worker" (.create (privateRequest "5Bob" "ghp_b") bobId) 2 2,
    .call "api" (.purgeToken "sub_a") 3 3]

end TokenFleet

end MinotaurSubnet.Harness
