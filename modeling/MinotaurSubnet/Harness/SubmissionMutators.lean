import MinotaurSubnet.Harness.Submissions
import MinotaurSubnet.Library.SortedBy

/-! # The mutators of the submission store

One definition per write-locked method, on the store in memory. The clock stands
still during a call. `StoreOp` names them all, and `StoreOp.frame` is what they have
in common: a mutator that persists changes only the records it persists, and one that
raises changes nothing, `adopt` of an unknown id apart.
-/

namespace MinotaurSubnet.Harness

open Library Python

/-- A record as a caller hands it to `upsert`; a status this code does not know is `none`.
    The id, the round and the status in `fields` are not read. -/
structure IncomingRecord where
  rawId : String
  rawRoundId : String
  status : Option SubmissionStatus
  fields : Submission

def IncomingRecord.ofRecord (sub : Submission) : IncomingRecord :=
  ⟨sub.submissionId.text, sub.roundId.text, some sub.status, sub⟩

/-- The arguments of `create`. -/
structure NewSubmission where
  repoUrl : String
  commitHash : String
  epoch : Int
  hotkey : String
  roundId : Option String := none
  prNumber : Option Int := none
  maxPerRound : Int := 1
  maxTotalPerRound : Int := 0
  isPrivate : Bool := false
  privateRepoFull : Option String := none
  repoToken : Option String := none
  githubOwner : Option String := none
  maxPerOwnerPerRound : Int := 0
  maxRoundsPerCommit : Int := 0

def benchedStatuses : List SubmissionStatus := [.benchmarking, .scored, .adopted]

def noResurrectionStatuses : List SubmissionStatus := [.rejected, .waitlisted]

def stripText (text : String) : String := String.ofList (strip text.toList)

namespace StoreMemory

variable (host : StoreHost) (now : ℚ) (m : StoreMemory)

def notFound (submissionId : String) : StoreError := .keyError s!"Submission not found: {submissionId}"

def edit (submissionId : String) (f : Submission → Submission) : Mutation :=
  match m.get submissionId with
  | none => .raises m (notFound submissionId)
  | some sub => .returns (m.put (f sub)) (some [submissionId])

def countBenchedRoundsByCommit (hotkey commitHash : String) : Nat :=
  let commit := host.lower (stripText commitHash)
  if commit = "" then 0
  else ((m.values.filter fun s => s.hotkey = hotkey && host.lower (stripText s.commitHash) = commit
    && benchedStatuses.contains s.status).map (·.roundId.text)).dedup.length

/-- The caps of `create`, in order; `none` when the submission may enter. -/
def capError (request : NewSubmission) (round : RoundId) : Option StoreError :=
  let mine := m.values.countP fun s => s.hotkey = request.hotkey && s.roundId = round
  let owner := host.lower (request.githubOwner.getD "")
  let owned := m.values.countP fun s => host.lower (s.githubOwner.getD "") = owner && s.roundId = round
  let total := m.values.countP fun s => s.roundId = round
  let benched := m.countBenchedRoundsByCommit host request.hotkey request.commitHash
  if 0 < request.maxPerRound && request.maxPerRound ≤ mine then
    some (.valueError (s!"Miner {slice request.hotkey 0 12}... already submitted {mine} "
      ++ s!"time(s) for round {round.text} (max {request.maxPerRound} per round)"))
  else if owner ≠ "" && 0 < request.maxPerOwnerPerRound && request.maxPerOwnerPerRound ≤ owned then
    some (.valueError (s!"GitHub account {host.repr owner} already submitted {owned} "
      ++ s!"time(s) for round {round.text} (max {request.maxPerOwnerPerRound} per round per account)"))
  else if 0 < request.maxTotalPerRound && request.maxTotalPerRound ≤ total then
    some (.valueError (s!"Round {round.text} is full ({total}/{request.maxTotalPerRound} submissions); "
      ++ "try again next round"))
  else if 0 < request.maxRoundsPerCommit && request.maxRoundsPerCommit ≤ benched then
    some (.valueError (s!"Commit {slice request.commitHash 0 12} has already been benchmarked in "
      ++ s!"{benched} round(s) for this hotkey (max {request.maxRoundsPerCommit}); submit new code to "
      ++ "participate again"))
  else none

/-- The record `create` stores. -/
def newRecord (request : NewSubmission) (round : RoundId) (id : SubmissionId) : Submission where
  submissionId := id
  repoUrl := request.repoUrl
  commitHash := request.commitHash
  epoch := request.epoch
  hotkey := request.hotkey
  roundId := round
  prNumber := request.prNumber
  isPrivate := request.isPrivate
  privateRepoFull := request.privateRepoFull
  githubOwner := request.githubOwner.filter (· ≠ "")
  createdAt := now
  updatedAt := now

def create (request : NewSubmission) (id : SubmissionId) : Mutation :=
  let round := RoundId.ofRaw (stripText (request.roundId.getD "")) request.epoch
  match m.capError host request round with
  | some error => .raises m error
  | none =>
    let stored := m.put (newRecord now request round id)
    .returns (match request.repoToken.filter (· ≠ "") with
      | some token => stored.stashToken host id.text token
      | none => stored) (some [id.text])

/-- `_upsert_one`: the store with the record, and the record's id. -/
def upsertOne (record : IncomingRecord) : Except StoreError (StoreMemory × String) :=
  match SubmissionId.ofRaw record.rawId with
  | none => .error (.valueError "upsert requires a submission_id")
  | some id =>
    .ok (m.put { record.fields with
      submissionId := id
      roundId := RoundId.ofRaw record.rawRoundId record.fields.epoch
      status := record.status.getD .queued }, id.text)

def upsertSubmission (record : IncomingRecord) : Mutation :=
  match m.upsertOne record with
  | .error e => .raises m e
  | .ok (stored, id) => .returns stored (some [id])

/-- One pass of the loop of `upsert_submissions`; a bad record is skipped. -/
def upsertNext (acc : StoreMemory × List String) (record : IncomingRecord) : StoreMemory × List String :=
  match acc.1.upsertOne record with
  | .error _ => acc
  | .ok (stored, id) => (stored, acc.2 ++ [id])

def upsertSubmissions (records : List IncomingRecord) : Mutation :=
  let upserted := records.foldl upsertNext (m, [])
  .returns upserted.1 (if upserted.2 = [] then none else some upserted.2)

def setImageTag (submissionId imageTag : String) : Mutation :=
  m.edit submissionId fun sub => { sub with imageTag := some imageTag, updatedAt := now }

def setImageId (submissionId imageId : String) : Mutation :=
  m.edit submissionId fun sub => { sub with imageId := some imageId, updatedAt := now }

def setContentFingerprint (submissionId value : String) : Mutation :=
  m.edit submissionId fun sub => { sub with contentFingerprint := some value, updatedAt := now }

def setMaxRegionNodes (submissionId : String) (value : Int) : Mutation :=
  m.edit submissionId fun sub => { sub with maxRegionNodes := some value, updatedAt := now }

def setDeadwoodMetric (submissionId : String) (nodes : Option Int) (version : Int)
    (topOffenders : Option (List Value)) : Mutation :=
  m.edit submissionId fun sub => { sub with
    unproductiveNodes := nodes
    unproductiveMetricVersion := some version
    unproductiveTopOffenders := topOffenders
    updatedAt := now }

def setImageDigest (submissionId imageDigest : String) : Mutation :=
  m.edit submissionId fun sub => { sub with imageDigest := some imageDigest, updatedAt := now }

def setProvenance (submissionId : String) (provenance : Dict String Value) : Mutation :=
  m.edit submissionId fun sub => { sub with provenance := some provenance, updatedAt := now }

def setSolverPath (submissionId solverPath : String) : Mutation :=
  m.edit submissionId fun sub => { sub with solverPath := some solverPath, updatedAt := now }

/-- `set_solver_info`; `sidecar` is the coinage file when another process has updated it. -/
def setSolverInfo (sidecar : Option (Dict String NameEntry)) (submissionId : String)
    (name version : Option String) : Mutation :=
  match m.get submissionId with
  | none => .raises m (notFound submissionId)
  | some sub =>
    let named := { sub with solverName := name, solverVersion := version, isCopycat := false,
                            coinedByHotkey := none, updatedAt := now }
    let norm := host.normalizeSolverName name
    if norm = "" || host.exemptNames.contains norm then .returns (m.put named) (some [submissionId])
    else
      let names := sidecar.getD m.names
      match names.get? norm with
      | none =>
        let entry : NameEntry := ⟨sub.hotkey, now, submissionId, name⟩
        .returns ((m.put named).withNames (names.set norm entry)) (some [submissionId])
      | some entry =>
        if entry.ownerHotkey = sub.hotkey then
          .returns ((m.put named).withNames names) (some [submissionId])
        else
          let copied := { named with isCopycat := true, coinedByHotkey := some entry.ownerHotkey }
          .returns ((m.put copied).withNames names) (some [submissionId])

def updateStatus (submissionId : String) (status : SubmissionStatus) : Mutation :=
  m.edit submissionId fun sub => { sub with status, updatedAt := now }

def screeningOutcome (stage : Int) (errorCode current : Option String) : Option String :=
  if stage = 1 ∧ errorCode = some "too_entangled" then some "too_entangled"
  else if stage = 1 then some "static_checks_failed"
  else if stage = 2 then some "build_failed"
  else if stage = 3 then some "invalid_plans"
  else current

def setScreeningResult (submissionId : String) (stage : Int) (passed : Bool) (durationMs : Int)
    (details : String) (errorCode : Option String) : Mutation :=
  match m.get submissionId with
  | none => .raises m (notFound submissionId)
  | some sub =>
    let stageResult : StageResult := ⟨some passed, some durationMs, some details, errorCode⟩
    let noted := { sub with screening := sub.screening.set s!"stage_{stage}" stageResult,
                            updatedAt := now }
    let shown := errorCode.getD "None"
    if passed then .returns (m.put noted) (some [submissionId])
    else
      .returns ((m.put { noted with
        status := .rejected
        rejectionReason := some s!"Stage {stage}: {shown} — {details}"
        outcomeCode := screeningOutcome stage errorCode sub.outcomeCode }).purgeToken submissionId)
        (some [submissionId])

def setBenchmarkResult (submissionId : String) (valid : Bool) (rank : Option Int)
    (details : Option (Dict String Value)) : Mutation :=
  match m.get submissionId with
  | none => .raises m (notFound submissionId)
  | some sub =>
    let noted := { sub with benchmarkRank := rank <|> sub.benchmarkRank,
                            benchmarkDetails := details <|> sub.benchmarkDetails,
                            updatedAt := now }
    if noResurrectionStatuses.contains sub.status then .returns (m.put noted) (some [submissionId])
    else if valid then
      .returns (m.put { noted with status := .scored, rejectionReason := none }) (some [submissionId])
    else
      .returns ((m.put { noted with
        status := .rejected
        rejectionReason := sub.rejectionReason.filter (· ≠ "")
          <|> some "no order delivered value (solver produced no valid plans)" }).purgeToken
        submissionId) (some [submissionId])

def setBenchmarkRank (submissionId : String) (rank : Int) : Mutation :=
  m.edit submissionId fun sub => { sub with benchmarkRank := some rank, updatedAt := now }

/-- One pass of the loop of `set_benchmark_ranks`; an unknown id is skipped. -/
def rankNext (acc : StoreMemory × List String) (entry : String × Int) : StoreMemory × List String :=
  match acc.1.get entry.1 with
  | none => acc
  | some sub => (acc.1.put { sub with benchmarkRank := some entry.2, updatedAt := now },
      acc.2 ++ [entry.1])

def setBenchmarkRanks (ranks : Dict String Int) : Mutation :=
  let ranked := ranks.entries.foldl (rankNext now) (m, [])
  .returns ranked.1 (some ranked.2)

def mergeBenchmarkDetails (submissionId : String) (extra : Dict String Value) : Mutation :=
  m.edit submissionId fun sub => { sub with
    benchmarkDetails := some (extra.entries.foldl (fun d entry => d.set entry.1 entry.2)
      (sub.benchmarkDetails.getD .empty))
    updatedAt := now }

def reject (submissionId reason : String) (outcomeCode : Option String) : Mutation :=
  match m.get submissionId with
  | none => .raises m (notFound submissionId)
  | some sub =>
    .returns ((m.put { sub with status := .rejected, rejectionReason := some reason, outcomeCode,
                                updatedAt := now }).purgeToken submissionId) (some [submissionId])

def waitlist (submissionId reason outcomeCode : String) (position contenders slots : Option Int) :
    Mutation :=
  match m.get submissionId with
  | none => .raises m (notFound submissionId)
  | some sub =>
    .returns ((m.put { sub with
      status := .waitlisted
      rejectionReason := some reason
      outcomeCode := some outcomeCode
      waitlist := some ⟨position, contenders, slots, true⟩
      updatedAt := now }).purgeToken submissionId) (some [submissionId])

/-- What `adopt` makes of the other records before it looks the id up. -/
def dethroned (submissionId : String) (sub : Submission) : Submission :=
  if sub.status = .adopted ∧ sub.submissionId.text ≠ submissionId then
    { sub with status := .scored, updatedAt := now }
  else sub

theorem dethroned_id (now : ℚ) (submissionId : String) (sub : Submission) :
    (dethroned now submissionId sub).submissionId = sub.submissionId := by
  unfold dethroned
  split <;> rfl

/-- `adopt`: the previous champions lose the title even when the id is then unknown. -/
def adopt (submissionId : String) : Mutation :=
  let others := m.values.filter fun s => s.status = .adopted && s.submissionId.text ≠ submissionId
  let dethroned := m.mapRecords (dethroned now submissionId) (by
    intro sub
    unfold StoreMemory.dethroned
    split <;> rfl)
  match dethroned.get submissionId with
  | none => .raises dethroned (notFound submissionId)
  | some sub =>
    .returns ((dethroned.put { sub with status := .adopted, updatedAt := now }).purgeToken submissionId)
      (some (others.map (·.submissionId.text) ++ [submissionId]))

def champions (submissionId : String) : List String :=
  (m.values.filter fun s => s.status = .adopted && s.submissionId.text ≠ submissionId).map
    (·.submissionId.text)

theorem mem_champions {m : StoreMemory} {submissionId id} : id ∈ m.champions submissionId ↔
    id ≠ submissionId ∧ ∃ sub, m.get id = some sub ∧ sub.status = .adopted := by
  unfold champions values
  constructor
  · intro listed
    obtain ⟨sub, member, named⟩ := List.mem_map.mp listed
    obtain ⟨value, holds⟩ := List.mem_filter.mp member
    obtain ⟨key, found⟩ := Dict.mem_values.mp value
    have own := m.keyed key sub found
    simp only [Bool.and_eq_true, decide_eq_true_eq] at holds
    rw [← named]
    exact ⟨holds.2, sub, own ▸ found, holds.1⟩
  · rintro ⟨other, sub, found, adopted⟩
    have own := m.keyed id sub found
    refine List.mem_map.mpr ⟨sub, List.mem_filter.mpr ⟨Dict.mem_values.mpr ⟨id, found⟩, ?_⟩, own⟩
    simp [adopted, own, other]

/-- `_DETAILS_STRIPPABLE_STATUSES`. -/
def strippableStatuses : List SubmissionStatus := [.scored, .rejected]

/-- A dictionary that is there and not empty. -/
def hasDetails (sub : Submission) : Bool := sub.benchmarkDetails.any (·.entries ≠ [])

/-- The ids `_enforce_benchmark_details_retention` strips: beyond the `cap` most recent by epoch. -/
def strippedIds (cap : Int) : List String :=
  let withDetails := m.values.filter fun s => strippableStatuses.contains s.status && hasDetails s
  if cap ≤ 0 then []
  else ((sortedBy (fun s => OrderDual.toDual s.epoch) withDetails).drop cap.toNat).map
    (·.submissionId.text)

def withoutDetails (ids : List String) (sub : Submission) : Submission :=
  if sub.submissionId.text ∈ ids then { sub with benchmarkDetails := none } else sub

/-- `_enforce_benchmark_details_retention`: the store it leaves. -/
def enforceRetention (cap : Int) : StoreMemory :=
  m.mapRecords (withoutDetails (m.strippedIds cap)) (by
    intro sub
    unfold withoutDetails
    split <;> rfl)

end StoreMemory

/-- The write-locked methods. -/
inductive StoreOp where
  | create (request : NewSubmission) (id : SubmissionId)
  | upsertSubmission (record : IncomingRecord)
  | upsertSubmissions (records : List IncomingRecord)
  | updateStatus (submissionId : String) (status : SubmissionStatus)
  | setScreeningResult (submissionId : String) (stage : Int) (passed : Bool) (durationMs : Int)
      (details : String) (errorCode : Option String)
  | setImageTag (submissionId imageTag : String)
  | setImageId (submissionId imageId : String)
  | setContentFingerprint (submissionId value : String)
  | setMaxRegionNodes (submissionId : String) (value : Int)
  | setDeadwoodMetric (submissionId : String) (nodes : Option Int) (version : Int)
      (topOffenders : Option (List Value))
  | setImageDigest (submissionId imageDigest : String)
  | setProvenance (submissionId : String) (provenance : Dict String Value)
  | setSolverPath (submissionId solverPath : String)
  | setSolverInfo (sidecar : Option (Dict String NameEntry)) (submissionId : String)
      (name version : Option String)
  | setBenchmarkResult (submissionId : String) (valid : Bool) (rank : Option Int)
      (details : Option (Dict String Value))
  | setBenchmarkRank (submissionId : String) (rank : Int)
  | setBenchmarkRanks (ranks : Dict String Int)
  | mergeBenchmarkDetails (submissionId : String) (extra : Dict String Value)
  | reject (submissionId reason : String) (outcomeCode : Option String)
  | waitlist (submissionId reason outcomeCode : String) (position contenders slots : Option Int)
  | adopt (submissionId : String)
  | purgeToken (submissionId : String)

def StoreOp.run (host : StoreHost) (now : ℚ) (m : StoreMemory) : StoreOp → Mutation
  | .create request id => m.create host now request id
  | .upsertSubmission record => m.upsertSubmission record
  | .upsertSubmissions records => m.upsertSubmissions records
  | .updateStatus id status => m.updateStatus now id status
  | .setScreeningResult id stage passed durationMs details errorCode =>
    m.setScreeningResult now id stage passed durationMs details errorCode
  | .setImageTag id imageTag => m.setImageTag now id imageTag
  | .setImageId id imageId => m.setImageId now id imageId
  | .setContentFingerprint id value => m.setContentFingerprint now id value
  | .setMaxRegionNodes id value => m.setMaxRegionNodes now id value
  | .setDeadwoodMetric id nodes version topOffenders =>
    m.setDeadwoodMetric now id nodes version topOffenders
  | .setImageDigest id imageDigest => m.setImageDigest now id imageDigest
  | .setProvenance id provenance => m.setProvenance now id provenance
  | .setSolverPath id solverPath => m.setSolverPath now id solverPath
  | .setSolverInfo sidecar id name version => m.setSolverInfo host now sidecar id name version
  | .setBenchmarkResult id valid rank details => m.setBenchmarkResult now id valid rank details
  | .setBenchmarkRank id rank => m.setBenchmarkRank now id rank
  | .setBenchmarkRanks ranks => m.setBenchmarkRanks now ranks
  | .mergeBenchmarkDetails id extra => m.mergeBenchmarkDetails now id extra
  | .reject id reason outcomeCode => m.reject now id reason outcomeCode
  | .waitlist id reason outcomeCode position contenders slots =>
    m.waitlist now id reason outcomeCode position contenders slots
  | .adopt id => m.adopt now id
  | .purgeToken id => .returns (m.purgeToken id) none

/-- The ids a call hands to `_persist_records`. -/
def persistedIds (result : Except StoreError (Option (List String))) : List String :=
  match result with
  | .ok (some touched) => touched
  | _ => []

namespace StoreMemory

structure Frame (before after : StoreMemory) (touched : List String) : Prop where
  stored : ∀ id ∈ touched, (after.get id).isSome
  others : ∀ id, id ∉ touched → after.get id = before.get id

variable (m : StoreMemory)

theorem Frame.refl : Frame m m [] where
  stored _ member := by cases member
  others _ _ := rfl

variable {touched : List String}

theorem Frame.congr {before after after'} (frame : Frame before after touched)
    (same : ∀ id, after'.get id = after.get id) :
    Frame before after' touched where
  stored id member := (same id) ▸ frame.stored id member
  others id fresh := (same id).trans (frame.others id fresh)

theorem Frame.purgeToken {before after} (frame : Frame before after touched) (id : String) :
    Frame before (after.purgeToken id) touched :=
  frame.congr fun _ => rfl

theorem Frame.withNames {before after} (frame : Frame before after touched)
    (names : Dict String NameEntry) :
    Frame before (after.withNames names) touched :=
  frame.congr fun _ => rfl

theorem Frame.snoc {before after} (frame : Frame before after touched) (sub : Submission) {id}
    (own : sub.submissionId.text = id) : Frame before (after.put sub) (touched ++ [id]) where
  stored other member := by
    rw [get_put, own]
    split
    · rfl
    next ne =>
      have earlier : other ∈ touched := by simpa [ne] using member
      exact frame.stored other earlier
  others other fresh := by
    rw [List.mem_append, List.mem_singleton, not_or] at fresh
    rw [get_put, own, if_neg fresh.2]
    exact frame.others other fresh.1

theorem Frame.put (sub : Submission) {id} (own : sub.submissionId.text = id) :
    Frame m (m.put sub) [id] :=
  (Frame.refl m).snoc sub own

theorem Frame.edit (submissionId : String) {f : Submission → Submission}
    (sameId : ∀ sub, (f sub).submissionId = sub.submissionId) :
    Frame m (m.edit submissionId f).state (persistedIds (m.edit submissionId f).result) := by
  unfold StoreMemory.edit
  split
  · exact .refl m
  next sub found =>
    apply Frame.put
    rw [sameId]
    exact m.keyed submissionId sub found

theorem Frame.create (host : StoreHost) (now : ℚ) (m : StoreMemory) (request : NewSubmission)
    (id : SubmissionId) : Frame m (m.create host now request id).state
      (persistedIds (m.create host now request id).result) := by
  unfold StoreMemory.create
  simp only
  split
  · exact .refl m
  next =>
    rw [Outcome.state_returns]
    let sub := newRecord now request (RoundId.ofRaw (stripText (request.roundId.getD "")) request.epoch) id
    have stored : Frame m (m.put sub) [id.text] := Frame.put m sub rfl
    split
    · exact stored.congr fun _ => rfl
    · exact stored

theorem Frame.upsertNext {m acc} (frame : Frame m acc.1 acc.2) (record : IncomingRecord) :
    Frame m (StoreMemory.upsertNext acc record).1 (StoreMemory.upsertNext acc record).2 := by
  unfold StoreMemory.upsertNext upsertOne
  cases SubmissionId.ofRaw record.rawId with
  | none => exact frame
  | some id => exact frame.snoc _ (by rfl)

theorem Frame.upsertSubmissions (records : List IncomingRecord) :
    Frame m (m.upsertSubmissions records).state (persistedIds (m.upsertSubmissions records).result) := by
  have along : ∀ acc : StoreMemory × List String, Frame m acc.1 acc.2 →
      Frame m (records.foldl StoreMemory.upsertNext acc).1
        (records.foldl StoreMemory.upsertNext acc).2 := by
    induction records with
    | nil => exact fun _ frame => frame
    | cons record rest ih => exact fun acc frame => ih _ (frame.upsertNext record)
  have upserted := along (m, []) (.refl m)
  unfold StoreMemory.upsertSubmissions
  simp only
  split
  next nothing =>
    rw [nothing] at upserted
    exact upserted
  next => exact upserted

theorem Frame.rankNext {m acc} (frame : Frame m acc.1 acc.2) (now : ℚ) (entry : String × Int) :
    Frame m (StoreMemory.rankNext now acc entry).1 (StoreMemory.rankNext now acc entry).2 := by
  unfold StoreMemory.rankNext
  split
  · exact frame
  next sub found => exact frame.snoc _ (acc.1.keyed entry.1 sub found)

theorem Frame.setBenchmarkRanks (now : ℚ) (m : StoreMemory) (ranks : Dict String Int) :
    Frame m (m.setBenchmarkRanks now ranks).state
      (persistedIds (m.setBenchmarkRanks now ranks).result) := by
  have along : ∀ (entries : List (String × Int)) (acc : StoreMemory × List String),
      Frame m acc.1 acc.2 → Frame m (entries.foldl (StoreMemory.rankNext now) acc).1
        (entries.foldl (StoreMemory.rankNext now) acc).2 := by
    intro entries
    induction entries with
    | nil => exact fun _ frame => frame
    | cons entry rest ih => exact fun acc frame => ih _ (frame.rankNext now entry)
  exact along ranks.entries (m, []) (.refl m)

def AdoptsKnown (m : StoreMemory) (submissionId : String) : Prop :=
  (m.get submissionId).isSome ∨ ∀ id sub, m.get id = some sub → sub.status ≠ .adopted

theorem get_dethroned_others {now} {m : StoreMemory} {submissionId id}
    (fresh : id ∉ m.champions submissionId) :
    (m.get id).map (dethroned now submissionId) = m.get id := by
  cases found : m.get id with
  | none => rfl
  | some sub =>
    have own := m.keyed id sub found
    rw [Option.map_some, dethroned, if_neg]
    rintro ⟨adopted, ne⟩
    exact fresh (mem_champions.mpr ⟨own ▸ ne, sub, found, adopted⟩)

theorem Frame.adopt (now : ℚ) {m : StoreMemory} {submissionId}
    (known : m.AdoptsKnown submissionId) :
    Frame m (m.adopt now submissionId).state (persistedIds (m.adopt now submissionId).result) := by
  unfold StoreMemory.adopt
  simp only
  split
  next missing =>
    -- nobody is dethroned
    have unknown : m.get submissionId = none := by
      rw [get_mapRecords, Option.map_eq_none_iff] at missing
      exact missing
    have unadopted := known.resolve_left (by simp [unknown])
    apply (Frame.refl m).congr
    intro id
    rw [Outcome.state_raises, get_mapRecords]
    cases found : m.get id with
    | none => rfl
    | some sub =>
      have free := unadopted id sub found
      simp [dethroned, free]
  next sub found =>
    have own := (m.mapRecords _ _).keyed submissionId sub found
    constructor
    · intro id member
      rw [Outcome.state_returns, get_purgeToken, get_put]
      split
      · rfl
      next ne =>
        rw [Outcome.result_returns] at member
        have dethroned := (List.mem_append.mp member).resolve_right (by simpa [own] using ne)
        obtain ⟨-, champion, known, -⟩ := mem_champions.mp dethroned
        rw [get_mapRecords, known]
        rfl
    · intro id fresh
      rw [Outcome.result_returns] at fresh
      obtain ⟨undethroned, ne⟩ := not_or.mp (mt List.mem_append.mpr fresh)
      rw [Outcome.state_returns, get_purgeToken, get_put, if_neg (by simpa [own] using ne),
        get_mapRecords]
      exact get_dethroned_others undethroned

end StoreMemory

theorem StoreOp.frame (host : StoreHost) (now : ℚ) (m : StoreMemory) (op : StoreOp)
    (known : ∀ id, op = .adopt id → m.AdoptsKnown id) :
    m.Frame (op.run host now m).state (persistedIds (op.run host now m).result) := by
  cases op with
  | create request id => exact .create host now m request id
  | upsertSubmission record =>
    simp only [StoreOp.run, StoreMemory.upsertSubmission, StoreMemory.upsertOne]
    cases SubmissionId.ofRaw record.rawId with
    | none => exact .refl m
    | some id => exact .put m _ (by rfl)
  | upsertSubmissions records => exact .upsertSubmissions m records
  | setScreeningResult id stage passed durationMs details errorCode =>
    simp only [StoreOp.run, StoreMemory.setScreeningResult]
    split
    · exact .refl m
    next sub found =>
      have own := m.keyed id sub found
      split
      · exact .put m _ own
      · rw [Outcome.state_returns]
        exact (StoreMemory.Frame.put m _ (by exact own)).purgeToken id
  | setSolverInfo sidecar id name version =>
    simp only [StoreOp.run, StoreMemory.setSolverInfo]
    split
    · exact .refl m
    next sub found =>
      have own := m.keyed id sub found
      split
      · exact .put m _ own
      · split
        · rw [Outcome.state_returns]
          exact (StoreMemory.Frame.put m _ (by exact own)).withNames _
        · split
          · rw [Outcome.state_returns]
            exact (StoreMemory.Frame.put m _ (by exact own)).withNames _
          · rw [Outcome.state_returns]
            exact (StoreMemory.Frame.put m _ (by exact own)).withNames _
  | setBenchmarkResult id valid rank details =>
    simp only [StoreOp.run, StoreMemory.setBenchmarkResult]
    split
    · exact .refl m
    next sub found =>
      have own := m.keyed id sub found
      split
      · exact .put m _ own
      · split
        · exact .put m _ own
        · rw [Outcome.state_returns]
          exact (StoreMemory.Frame.put m _ (by exact own)).purgeToken id
  | setBenchmarkRanks ranks => exact .setBenchmarkRanks now m ranks
  | reject id reason outcomeCode =>
    simp only [StoreOp.run, StoreMemory.reject]
    split
    · exact .refl m
    next sub found =>
      rw [Outcome.state_returns]
      exact (StoreMemory.Frame.put m _ (by exact m.keyed id sub found)).purgeToken id
  | waitlist id reason outcomeCode position contenders slots =>
    simp only [StoreOp.run, StoreMemory.waitlist]
    split
    · exact .refl m
    next sub found =>
      rw [Outcome.state_returns]
      exact (StoreMemory.Frame.put m _ (by exact m.keyed id sub found)).purgeToken id
  | adopt id => exact .adopt now (known id rfl)
  | purgeToken id => exact (StoreMemory.Frame.refl m).congr fun _ => rfl
  | updateStatus id status => exact .edit m id fun _ => rfl
  | setImageTag id imageTag => exact .edit m id fun _ => rfl
  | setImageId id imageId => exact .edit m id fun _ => rfl
  | setContentFingerprint id value => exact .edit m id fun _ => rfl
  | setMaxRegionNodes id value => exact .edit m id fun _ => rfl
  | setDeadwoodMetric id nodes version topOffenders => exact .edit m id fun _ => rfl
  | setImageDigest id imageDigest => exact .edit m id fun _ => rfl
  | setProvenance id provenance => exact .edit m id fun _ => rfl
  | setSolverPath id solverPath => exact .edit m id fun _ => rfl
  | setBenchmarkRank id rank => exact .edit m id fun _ => rfl
  | mergeBenchmarkDetails id extra => exact .edit m id fun _ => rfl

end MinotaurSubnet.Harness
