import MinotaurSubnet.Harness.FailedPulls

/-! # A guarded call and its outcome

A mutator with everything that may fail around it: the queries of its reloads, which count as
nothing to pull, and its transaction, which is only logged. `adopt` gives the title to one
record in memory whatever fails, and to one row when the transaction commits; an id the store
does not know leaves the rows alone.
-/

namespace MinotaurSubnet.Harness

open Library Python

structure Blips where
  guard : Failing := {}
  body : BodyFailing := {}
  commits : Bool := true

namespace StoreInstance

variable (host : StoreHost) (cap : Int) (me : String) (now : ℚ) (inst : StoreInstance)
  (db : SubmissionDb) (blips : Blips)

/-- `_persist_records`, where a failed transaction is logged. -/
def persistOrLog (m : StoreMemory) (touched : List String) : StoreMemory × SubmissionDb :=
  if blips.commits then persistRecords cap me m touched db else (m.enforceRetention cap, db)

def underGuard (op : StoreOp) : StoreInstance × StoreOp :=
  (inst.reload blips.guard me db).prepare host me db blips.body op

/-- `_write_locked`: reload, body, persist. -/
def guardedCall (op : StoreOp) : Outcome (StoreInstance × SubmissionDb) StoreError Unit :=
  let prepared := inst.underGuard host me db blips op
  let ran := prepared.2.run host now prepared.1.memory
  match ran.result with
  | .error e => .raises ({ prepared.1 with memory := ran.state }, db) e
  | .ok none => .returns ({ prepared.1 with memory := ran.state }, db) ()
  | .ok (some touched) =>
    let persisted := persistOrLog cap me db blips ran.state touched
    .returns ({ prepared.1 with memory := persisted.1 }, persisted.2) ()

end StoreInstance

namespace StoreMemory

variable {now : ℚ} {m : StoreMemory} {submissionId : String}

/-- What `adopt` makes of each record of a store that knows the id. -/
def titled (now : ℚ) (submissionId : String) (sub : Submission) : Submission :=
  if sub.submissionId.text = submissionId then { sub with status := .adopted, updatedAt := now }
  else dethroned now submissionId sub

theorem dethroned_of_status {sub : Submission} (untitled : sub.status ≠ .adopted) :
    dethroned now submissionId sub = sub := by
  unfold dethroned
  rw [if_neg]
  rintro ⟨adopted, -⟩
  exact untitled adopted

theorem dethroned_of_id {sub} (own : sub.submissionId.text = submissionId) :
    dethroned now submissionId sub = sub := by
  unfold dethroned
  rw [if_neg]
  rintro ⟨-, other⟩
  exact other own

theorem status_titled (sub : Submission) :
    (titled now submissionId sub).status = .adopted ↔ sub.submissionId.text = submissionId := by
  unfold titled
  by_cases own : sub.submissionId.text = submissionId
  · simp [own]
  · rw [if_neg own]
    unfold dethroned
    split
    · simp [own]
    next kept =>
      simp [own]
      exact fun adopted => kept ⟨adopted, own⟩

variable (now) in
theorem adopt_unknown (unknown : m.get submissionId = none) :
    (m.adopt now submissionId).result = .error (notFound submissionId) ∧
      ∀ id, (m.adopt now submissionId).state.get id = (m.get id).map (dethroned now submissionId) := by
  unfold adopt
  simp only [get_mapRecords, unknown, Option.map_none]
  exact ⟨rfl, fun id => get_mapRecords m _ (dethroned_id now submissionId) id⟩

variable (now) in
theorem adopt_known {sub} (known : m.get submissionId = some sub) :
    (m.adopt now submissionId).result = .ok (some (m.champions submissionId ++ [submissionId])) ∧
      ∀ id, (m.adopt now submissionId).state.get id = (m.get id).map (titled now submissionId) := by
  have own := m.keyed submissionId sub known
  unfold adopt
  simp only [get_mapRecords, known, Option.map_some]
  refine ⟨rfl, ?_⟩
  intro id
  rw [Outcome.state_returns, get_purgeToken, get_put, get_mapRecords]
  simp only [dethroned_id, own]
  split
  next here =>
    rw [here, known, Option.map_some, titled, if_pos own, dethroned_of_id own]
  next other =>
    cases found : m.get id with
    | none => rfl
    | some kept =>
      have ownKept := m.keyed id kept found
      rw [Option.map_some, Option.map_some, titled, if_neg (ownKept.trans_ne other)]

end StoreMemory

/-- Memory after the adoption, from the store `m` it worked on: one title, and the retention
    pass may have dropped details of scored and rejected records. -/
structure AdoptedInMemory (cap : Int) (now : ℚ) (submissionId : String) (stripped : List String)
    (m after : StoreMemory) : Prop where
  only : ∀ id sub, after.get id = some sub → (sub.status = .adopted ↔ id = submissionId)
  champion : ∀ sub, m.get submissionId = some sub →
    after.get submissionId = some { sub with status := .adopted, updatedAt := now }
  dethroned : ∀ id sub, id ≠ submissionId → m.get id = some sub → sub.status = .adopted →
    after.get id = some (StoreMemory.withoutDetails stripped { sub with status := .scored, updatedAt := now })
  others : ∀ id sub, id ≠ submissionId → m.get id = some sub → sub.status ≠ .adopted →
    after.get id = some (StoreMemory.withoutDetails stripped sub)
  absent : ∀ id, m.get id = none → after.get id = none
  retention : ∀ id ∈ stripped, 0 < cap ∧ ∃ sub, after.get id = some sub ∧
    sub.status ∈ StoreMemory.strippableStatuses

structure AdoptedInRows (cap : Int) (me submissionId : String) (stripped : List String)
    (m after : StoreMemory) (db db' : SubmissionDb) : Prop where
  written : ∀ id sub, id = submissionId ∨ id ∈ m.champions submissionId → after.get id = some sub →
    (∃ seq, db'.rows.get? id = some ⟨sub.data, seq, some me⟩) ∧ db'.details.get? id = sub.details?
  others : ∀ id, id ≠ submissionId → id ∉ m.champions submissionId →
    db'.rows.get? id = db.rows.get? id ∧
      db'.details.get? id = if id ∈ stripped then none else db.details.get? id
  only : m.Agrees cap db → ∀ id row, db'.rows.get? id = some row →
    (row.data.status = .adopted ↔ id = submissionId)

namespace StoreInstance

section

variable {cap : Int} {me : String} {now : ℚ} {m : StoreMemory} {submissionId : String} {sub : Submission}

def strippedByAdoption (cap : Int) (now : ℚ) (m : StoreMemory) (submissionId : String) : List String :=
  (m.adopt now submissionId).state.strippedIds cap

theorem mem_strippedIds {m : StoreMemory} {id} (stripped : id ∈ m.strippedIds cap) :
    ∃ sub, m.get id = some sub ∧ sub.status ∈ StoreMemory.strippableStatuses := by
  unfold StoreMemory.strippedIds at stripped
  simp only at stripped
  split at stripped
  · cases stripped
  · obtain ⟨sub, dropped, named⟩ := List.mem_map.mp stripped
    have listed := mem_sortedBy.mp (List.mem_of_mem_drop dropped)
    obtain ⟨value, holds⟩ := List.mem_filter.mp listed
    obtain ⟨key, found⟩ := Dict.mem_values.mp value
    have own := m.keyed key sub found
    rw [Bool.and_eq_true, List.contains_iff_mem] at holds
    rw [← named, own]
    exact ⟨sub, found, holds.1⟩

theorem status_withoutDetails (ids : List String) (sub : Submission) :
    (StoreMemory.withoutDetails ids sub).status = sub.status := by
  unfold StoreMemory.withoutDetails
  split <;> rfl

theorem get_kept (known : m.get submissionId = some sub) (cap : Int) (now : ℚ) (id : String) :
    ((m.adopt now submissionId).state.enforceRetention cap).get id =
      (m.get id).map fun sub => StoreMemory.withoutDetails (strippedByAdoption cap now m submissionId)
        (StoreMemory.titled now submissionId sub) := by
  rw [get_enforceRetention, (StoreMemory.adopt_known now known).2, Option.map_map]
  rfl

theorem champion_not_stripped (known : m.get submissionId = some sub) (cap : Int) (now : ℚ) :
    submissionId ∉ strippedByAdoption cap now m submissionId := by
  intro stripped
  obtain ⟨kept, held, strippable⟩ := mem_strippedIds stripped
  rw [(StoreMemory.adopt_known now known).2, known, Option.map_some, StoreMemory.titled,
    if_pos (m.keyed submissionId sub known)] at held
  cases held
  simp [StoreMemory.strippableStatuses] at strippable

theorem adoptedInMemory (known : m.get submissionId = some sub) (cap : Int) (now : ℚ) :
    AdoptedInMemory cap now submissionId (strippedByAdoption cap now m submissionId) m
      ((m.adopt now submissionId).state.enforceRetention cap) where
  only id after held := by
    rw [get_kept known, Option.map_eq_some_iff] at held
    obtain ⟨before, found, rfl⟩ := held
    rw [status_withoutDetails, StoreMemory.status_titled, m.keyed id before found]
  champion new found := by
    have own := m.keyed submissionId new found
    have kept := champion_not_stripped known cap now
    rw [get_kept known, found, Option.map_some, StoreMemory.titled, if_pos own, StoreMemory.withoutDetails,
      if_neg (by exact own.symm ▸ kept)]
  dethroned id old other found adopted := by
    have own := m.keyed id old found
    rw [get_kept known, found, Option.map_some, StoreMemory.titled, if_neg (own.trans_ne other),
      StoreMemory.dethroned, if_pos ⟨adopted, own.trans_ne other⟩]
  others id kept other found untitled := by
    have own := m.keyed id kept found
    rw [get_kept known, found, Option.map_some, StoreMemory.titled, if_neg (own.trans_ne other),
      StoreMemory.dethroned_of_status untitled]
  absent id missing := by rw [get_kept known, missing, Option.map_none]
  retention id stripped := by
    refine ⟨pos_of_mem_strippedIds stripped, ?_⟩
    obtain ⟨after, held, strippable⟩ := mem_strippedIds stripped
    rw [get_enforceRetention, held, Option.map_some]
    exact ⟨_, rfl, by rwa [status_withoutDetails]⟩

def committed (cap : Int) (me : String) (now : ℚ) (m : StoreMemory) (submissionId : String)
    (db : SubmissionDb) : SubmissionDb :=
  (persistRecords cap me (m.adopt now submissionId).state (m.champions submissionId ++ [submissionId]) db).2

variable (me) in
theorem committed_written {id} (db : SubmissionDb)
    (touched : id = submissionId ∨ id ∈ m.champions submissionId) {after}
    (held : ((m.adopt now submissionId).state.enforceRetention cap).get id = some after) :
    (∃ seq, (committed cap me now m submissionId db).rows.get? id = some ⟨after.data, seq, some me⟩) ∧
      (committed cap me now m submissionId db).details.get? id = after.details? := by
  have listed : id ∈ m.champions submissionId ++ [submissionId] := by
    rw [List.mem_append, List.mem_singleton]
    exact touched.symm
  rw [get_enforceRetention, Option.map_eq_some_iff] at held
  obtain ⟨before, found, rfl⟩ := held
  have own := (m.adopt now submissionId).state.keyed id before found
  obtain ⟨⟨seq, -, row⟩, details⟩ := persistRecords_touched cap me _ _ db listed found
  rw [details?_withoutDetails own, data_withoutDetails]
  exact ⟨⟨seq, row⟩, details⟩

theorem committed_others {id} (db : SubmissionDb) (other : id ≠ submissionId)
    (untitled : id ∉ m.champions submissionId) :
    (committed cap me now m submissionId db).rows.get? id = db.rows.get? id ∧
      (committed cap me now m submissionId db).details.get? id =
        if id ∈ strippedByAdoption cap now m submissionId then none else db.details.get? id := by
  apply persistRecords_untouched
  rw [List.mem_append, List.mem_singleton, not_or]
  exact ⟨untitled, other⟩

theorem committed_only (known : m.get submissionId = some sub) {db} (agrees : m.Agrees cap db)
    {id row} (found : (committed cap me now m submissionId db).rows.get? id = some row) :
    row.data.status = .adopted ↔ id = submissionId := by
  by_cases touched : id = submissionId ∨ id ∈ m.champions submissionId
  · have held : (((m.adopt now submissionId).state.enforceRetention cap).get id).isSome := by
      rw [get_kept known, Option.isSome_map]
      cases touched with
      | inl here => rw [here, known, Option.isSome_some]
      | inr champion =>
        obtain ⟨-, old, there, -⟩ := StoreMemory.mem_champions.mp champion
        rw [there, Option.isSome_some]
    obtain ⟨after, there⟩ := Option.isSome_iff_exists.mp held
    obtain ⟨⟨seq, written⟩, -⟩ := committed_written me db touched there
    rw [written] at found
    cases found
    exact (adoptedInMemory known cap now).only id after there
  · rw [not_or] at touched
    rw [(committed_others db touched.1 touched.2).1] at found
    obtain ⟨before, there, record⟩ := agrees.rows id row found
    have same : before.status = row.data.status := by
      have fields := congrArg Submission.status record.1
      exact fields
    rw [← same, iff_false_intro touched.1, iff_false]
    intro adopted
    exact touched.2 (StoreMemory.mem_champions.mpr ⟨touched.1, before, there, adopted⟩)

theorem adoptedInRows (known : m.get submissionId = some sub) (cap : Int) (me : String) (now : ℚ)
    (db : SubmissionDb) :
    AdoptedInRows cap me submissionId (strippedByAdoption cap now m submissionId) m
      ((m.adopt now submissionId).state.enforceRetention cap) db (committed cap me now m submissionId db) where
  written _ _ touched held := committed_written me db touched held
  others _ other untitled := committed_others db other untitled
  only agrees _ _ found := committed_only known agrees found

end

end StoreInstance

namespace StoreInstance

section

variable (host : StoreHost) (cap : Int) (me : String) (now : ℚ) (inst : StoreInstance)
  (db : SubmissionDb) (blips : Blips) (submissionId : String)

theorem guardedCall_adopt_error {e : StoreError}
    (raises : ((inst.underGuard host me db blips (.adopt submissionId)).1.memory.adopt now
      submissionId).result = .error e) :
    inst.guardedCall host cap me now db blips (.adopt submissionId) =
      .raises ({ (inst.underGuard host me db blips (.adopt submissionId)).1 with
        memory := ((inst.underGuard host me db blips (.adopt submissionId)).1.memory.adopt now
          submissionId).state }, db) e := by
  unfold guardedCall
  simp only [show (inst.underGuard host me db blips (.adopt submissionId)).2 = .adopt submissionId from rfl,
    StoreOp.run, raises]

theorem guardedCall_adopt_ok {touched : List String}
    (returns : ((inst.underGuard host me db blips (.adopt submissionId)).1.memory.adopt now
      submissionId).result = .ok (some touched)) :
    inst.guardedCall host cap me now db blips (.adopt submissionId) =
      .returns ({ (inst.underGuard host me db blips (.adopt submissionId)).1 with
        memory := ((inst.underGuard host me db blips (.adopt submissionId)).1.memory.adopt now
          submissionId).state.enforceRetention cap },
        if blips.commits then (persistRecords cap me ((inst.underGuard host me db blips
          (.adopt submissionId)).1.memory.adopt now submissionId).state touched db).2 else db) () := by
  unfold guardedCall
  simp only [show (inst.underGuard host me db blips (.adopt submissionId)).2 = .adopt submissionId from rfl,
    StoreOp.run, returns, persistOrLog]
  cases blips.commits with
  | true => rfl
  | false => rfl

/-- The memory `adopt` works on. -/
def adoptsIn : StoreMemory := (inst.underGuard host me db blips (.adopt submissionId)).1.memory

/-- An `adopt` of an id that `m` does not know. -/
structure AdoptRaises (m : StoreMemory) (call : Outcome (StoreInstance × SubmissionDb) StoreError Unit) :
    Prop where
  result : call.result = .error (StoreMemory.notFound submissionId)
  rows : call.state.2 = db
  memory : (∀ id sub, m.get id = some sub → sub.status ≠ .adopted) →
    ∀ id, call.state.1.memory.get id = m.get id

/-- An `adopt` of an id that `m` knows. -/
structure AdoptReturns (m : StoreMemory) (call : Outcome (StoreInstance × SubmissionDb) StoreError Unit) :
    Prop where
  result : call.result = .ok ()
  memory : AdoptedInMemory cap now submissionId (strippedByAdoption cap now m submissionId) m
    call.state.1.memory
  rows : if blips.commits then AdoptedInRows cap me submissionId
      (strippedByAdoption cap now m submissionId) m call.state.1.memory db call.state.2
    else call.state.2 = db

theorem adopt_raises (unknown : (inst.adoptsIn host me db blips submissionId).get submissionId = none) :
    AdoptRaises db submissionId (inst.adoptsIn host me db blips submissionId)
      (inst.guardedCall host cap me now db blips (.adopt submissionId)) := by
  obtain ⟨raises, left⟩ := StoreMemory.adopt_unknown now unknown
  rw [guardedCall_adopt_error host cap me now inst db blips submissionId raises]
  constructor
  · rfl
  · rfl
  · intro untitled id
    refine (left id).trans ?_
    cases found : (inst.adoptsIn host me db blips submissionId).get id with
    | none => rfl
    | some sub => rw [Option.map_some, StoreMemory.dethroned_of_status (untitled id sub found)]

theorem adopt_returns {sub}
    (known : (inst.adoptsIn host me db blips submissionId).get submissionId = some sub) :
    AdoptReturns cap me now db blips submissionId (inst.adoptsIn host me db blips submissionId)
      (inst.guardedCall host cap me now db blips (.adopt submissionId)) := by
  have returns := (StoreMemory.adopt_known now known).1
  rw [guardedCall_adopt_ok host cap me now inst db blips submissionId returns]
  constructor
  · rfl
  · exact adoptedInMemory known cap now
  · cases blips.commits with
    | true => exact adoptedInRows known cap me now db
    | false => rfl

/-- Whatever queries and transactions fail: `adopt` of a known id returns with that one record
    adopted in memory, and in the rows if its transaction commits, which else stay as they are; an
    unknown id raises, leaves the rows, and memory too unless it took the title from someone. -/
theorem adopt_outcome :
    ((inst.adoptsIn host me db blips submissionId).get submissionId = none →
      AdoptRaises db submissionId (inst.adoptsIn host me db blips submissionId)
        (inst.guardedCall host cap me now db blips (.adopt submissionId))) ∧
      ∀ sub, (inst.adoptsIn host me db blips submissionId).get submissionId = some sub →
        AdoptReturns cap me now db blips submissionId (inst.adoptsIn host me db blips submissionId)
          (inst.guardedCall host cap me now db blips (.adopt submissionId)) := by
  constructor
  · exact fun unknown => adopt_raises host cap me now inst db blips submissionId unknown
  · exact fun sub known => adopt_returns host cap me now inst db blips submissionId known

end

/-- The call returns with the title moved and no other record changed, or raises with nothing
    changed. -/
def MovesTitleOnly (submissionId : String) (m : StoreMemory) (db : SubmissionDb)
    (call : Outcome (StoreInstance × SubmissionDb) StoreError Unit) : Prop :=
  (call.result = .ok () ∧
    (∀ id sub, call.state.1.memory.get id = some sub → (sub.status = .adopted ↔ id = submissionId)) ∧
    (∀ id row, call.state.2.rows.get? id = some row → (row.data.status = .adopted ↔ id = submissionId)) ∧
    ∀ id sub, id ≠ submissionId → m.get id = some sub → sub.status ≠ .adopted →
      call.state.1.memory.get id = some sub) ∨
  ((∃ e, call.result = .error e) ∧ (∀ id, call.state.1.memory.get id = m.get id) ∧ call.state.2 = db)

def someDetails : Dict String Value := ⟨[("relative", .none)], by decide⟩

def titleDb : SubmissionDb := SubmissionDb.empty.writeRecords "seed"
  [{ Fleet.championRecord with benchmarkDetails := some someDetails },
    { Fleet.championRecord with
      submissionId := .subB
      status := .scored
      epoch := 6
      benchmarkDetails := some someDetails },
    { Fleet.championRecord with submissionId := .subC, status := .scored, epoch := 8 }]
  []

/-- The dethroned champion counts against the cap of one, so the older record loses its details. -/
theorem adoption_strips_another_record :
    ¬ ∀ (host : StoreHost) (cap : Int) (me : String) (now : ℚ) (inst : StoreInstance) (db : SubmissionDb)
        (blips : Blips) (submissionId : String),
      MovesTitleOnly submissionId (inst.underGuard host me db blips (.adopt submissionId)).1.memory db
        (inst.guardedCall host cap me now db blips (.adopt submissionId)) := by
  intro claim
  have only := claim StoreHost.plain 1 "api" 9 (load 0 titleDb).1 titleDb {} "sub_c"
  cases only with
  | inr raises =>
    obtain ⟨⟨e, raised⟩, -⟩ := raises
    cases raised
  | inl returns =>
    obtain ⟨sub, held⟩ := Option.isSome_iff_exists.mp
      (show (((load 0 titleDb).1.underGuard StoreHost.plain "api" titleDb {}
        (.adopt "sub_c")).1.memory.get "sub_b").isSome = true by decide +kernel)
    have before : ((((load 0 titleDb).1.underGuard StoreHost.plain "api" titleDb {}
        (.adopt "sub_c")).1.memory.get "sub_b").map fun sub => (sub.status, sub.benchmarkDetails.isSome)) =
          some (.scored, true) := by decide +kernel
    rw [held, Option.map_some, Option.some.injEq, Prod.mk.injEq] at before
    have kept := returns.2.2.2 "sub_b" sub (by decide) held (by simp [before.1])
    have stripped : ((((load 0 titleDb).1.guardedCall StoreHost.plain 1 "api" 9 titleDb {}
        (.adopt "sub_c")).state.1.memory.get "sub_b").map (·.benchmarkDetails.isSome)) = some false := by
      decide +kernel
    rw [kept, Option.map_some, before.2] at stripped
    cases stripped

end StoreInstance

end MinotaurSubnet.Harness
