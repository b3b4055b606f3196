import MinotaurSubnet.Harness.SubmissionMutators
import MinotaurSubnet.Library.Machine

/-! # Terminal submissions and their tokens

A submission that was rejected or waitlisted has lost its token, so it must not be
scored again. `set_benchmark_result` refuses, but `adopt` takes any id, and an
adopted submission is scored again by the next adoption or by a late benchmark.
Without such an adoption a terminal status is final; and a token lasts until one of
the operations that end a submission.
-/

namespace MinotaurSubnet.Harness

open Library Python

namespace StoreMemory

def status? (m : StoreMemory) (id : String) : Option SubmissionStatus := (m.get id).map (·.status)

@[simp] theorem status?_put (m : StoreMemory) (sub : Submission) (id : String) :
    (m.put sub).status? id = if id = sub.submissionId.text then some sub.status else m.status? id := by
  unfold status?
  rw [get_put]
  split <;> rfl

@[simp] theorem status?_purgeToken (m : StoreMemory) (submissionId id : String) :
    (m.purgeToken submissionId).status? id = m.status? id := rfl

@[simp] theorem status?_stashToken (m : StoreMemory) (host : StoreHost) (submissionId token id : String) :
    (m.stashToken host submissionId token).status? id = m.status? id := rfl

variable {m : StoreMemory} {id : String}

variable {f : Submission → Submission}

theorem status?_mapRecords (sameId : ∀ sub, (f sub).submissionId = sub.submissionId)
    (sameStatus : ∀ sub, (f sub).status = sub.status) (id : String) :
    (m.mapRecords f sameId).status? id = m.status? id := by
  unfold status?
  rw [get_mapRecords, Option.map_map]
  exact congrFun (congrArg Option.map (funext sameStatus)) (m.get id)

theorem text_of_get {sub} (found : m.get id = some sub) :
    sub.submissionId.text = id := m.keyed id sub found

structure Quiet (before after : StoreMemory) : Prop where
  status : ∀ id, after.status? id = before.status? id
  tokens : after.tokens = before.tokens

theorem Quiet.refl (m : StoreMemory) : Quiet m m := ⟨fun _ => rfl, rfl⟩

theorem Quiet.trans {a b c} (first : Quiet a b) (second : Quiet b c) : Quiet a c :=
  ⟨fun id => (second.status id).trans (first.status id), second.tokens.trans first.tokens⟩

theorem Quiet.put {old sub : Submission} (found : m.get id = some old)
    (sameId : sub.submissionId = old.submissionId) (sameStatus : sub.status = old.status) :
    Quiet m (m.put sub) where
  status other := by
    rw [status?_put, sameId, text_of_get found, sameStatus]
    split
    next here => rw [here, status?, found, Option.map_some]
    next => rfl
  tokens := rfl

theorem Quiet.edit (m : StoreMemory) (submissionId : String)
    (sameId : ∀ sub, (f sub).submissionId = sub.submissionId)
    (sameStatus : ∀ sub, (f sub).status = sub.status) :
    Quiet m (m.edit submissionId f).state := by
  unfold StoreMemory.edit
  split
  · exact .refl m
  · next sub found => exact .put found (sameId sub) (sameStatus sub)

theorem Quiet.withNames {before after} (quiet : Quiet before after)
    (names : Dict String NameEntry) : Quiet before (after.withNames names) :=
  ⟨quiet.status, quiet.tokens⟩

theorem Quiet.setSolverInfo (m : StoreMemory) (host : StoreHost) (now : ℚ)
    (sidecar : Option (Dict String NameEntry)) (submissionId : String) (name version : Option String) :
    Quiet m (m.setSolverInfo host now sidecar submissionId name version).state := by
  unfold StoreMemory.setSolverInfo
  split
  · exact .refl m
  · next sub found =>
    simp only
    split
    · rw [Outcome.state_returns]
      exact .put found rfl rfl
    · split
      · rw [Outcome.state_returns]
        exact Quiet.withNames (Quiet.put found (by rfl) (by rfl)) _
      · split
        · rw [Outcome.state_returns]
          exact Quiet.withNames (Quiet.put found (by rfl) (by rfl)) _
        · rw [Outcome.state_returns]
          exact Quiet.withNames (Quiet.put found (by rfl) (by rfl)) _

theorem Quiet.rankNext (now : ℚ) (acc : StoreMemory × List String) (entry : String × Int) :
    Quiet acc.1 (StoreMemory.rankNext now acc entry).1 := by
  unfold StoreMemory.rankNext
  split
  · exact .refl acc.1
  · next sub found => exact .put found rfl rfl

theorem Quiet.setBenchmarkRanks (m : StoreMemory) (now : ℚ) (ranks : Dict String Int) :
    Quiet m (m.setBenchmarkRanks now ranks).state := by
  have along : ∀ (entries : List (String × Int)) (acc : StoreMemory × List String),
      Quiet acc.1 (entries.foldl (StoreMemory.rankNext now) acc).1 := by
    intro entries
    induction entries with
    | nil => exact fun acc => .refl acc.1
    | cons entry rest ih => exact fun acc => (Quiet.rankNext now acc entry).trans (ih _)
  exact along ranks.entries (m, [])

theorem Quiet.enforceRetention (m : StoreMemory) (cap : Int) : Quiet m (m.enforceRetention cap) where
  status := by
    apply status?_mapRecords
    intro sub
    unfold withoutDetails
    split <;> rfl
  tokens := rfl

variable (host : StoreHost) (cap : Int)

/-- A call and, when it persists, the retention pass. A store without a database has none,
    which is the pass with `cap = 0`. -/
def call (m : StoreMemory) (event : ℚ × StoreOp) : StoreMemory × Except StoreError (Option (List String)) :=
  let ran := event.2.run host event.1 m
  match ran.result with
  | .ok (some touched) => (ran.state.enforceRetention cap, .ok (some touched))
  | other => (ran.state, other)

theorem call_quiet (m : StoreMemory) (event : ℚ × StoreOp) :
    Quiet (event.2.run host event.1 m).state (call host cap m event).1 := by
  simp only [call]
  split
  · exact .enforceRetention _ cap
  · exact .refl _

theorem call_result (m : StoreMemory) (event : ℚ × StoreOp) :
    (call host cap m event).2 = (event.2.run host event.1 m).result := by
  simp only [call]
  split
  next ended => exact ended.symm
  next => rfl

/-- The operations whose order is free, on any ids: new ids are new. -/
def InScope (m : StoreMemory) : ℚ × StoreOp → Prop
  | (_, .create _ id) => m.get id.text = none
  | (_, .upsertSubmission _) => False
  | (_, .upsertSubmissions _) => False
  | (_, .updateStatus _ _) => False
  | (_, .purgeToken _) => False
  | _ => True

def AdoptsNoTerminal (m : StoreMemory) : ℚ × StoreOp → Prop
  | (_, .adopt id) => ∀ status ∈ noResurrectionStatuses, m.status? id ≠ some status
  | _ => True

def Terminal (m : StoreMemory) (id : String) : Prop :=
  ∃ status ∈ noResurrectionStatuses, m.status? id = some status

theorem Terminal.put (terminal : m.Terminal id) {sub : Submission}
    (stays : sub.submissionId.text = id → sub.status ∈ noResurrectionStatuses) :
    (m.put sub).Terminal id := by
  by_cases here : id = sub.submissionId.text
  · exact ⟨sub.status, stays here.symm, by rw [status?_put, if_pos here]⟩
  · obtain ⟨status, final, held⟩ := terminal
    exact ⟨status, final, by rw [status?_put, if_neg here, held]⟩

theorem Quiet.terminal {before after} (quiet : Quiet before after) (terminal : before.Terminal id) :
    after.Terminal id := by
  obtain ⟨status, final, held⟩ := terminal
  exact ⟨status, final, (quiet.status id).trans held⟩

theorem Terminal.edit (terminal : m.Terminal id) {submissionId}
    (sameId : ∀ sub, (f sub).submissionId = sub.submissionId)
    (sameStatus : ∀ sub, (f sub).status = sub.status) : (m.edit submissionId f).state.Terminal id :=
  (Quiet.edit m submissionId sameId sameStatus).terminal terminal

theorem Terminal.not_scored (terminal : m.Terminal id) :
    m.status? id ≠ some .scored := by
  obtain ⟨status, final, held⟩ := terminal
  rw [held]
  rintro ⟨⟩
  simp [noResurrectionStatuses] at final

theorem rejected_final : SubmissionStatus.rejected ∈ noResurrectionStatuses := by decide

theorem waitlisted_final : SubmissionStatus.waitlisted ∈ noResurrectionStatuses := by decide

theorem Terminal.create (terminal : m.Terminal id) (now : ℚ) (request : NewSubmission) {newId}
    (fresh : m.get newId.text = none) :
    (m.create host now request newId).state.Terminal id := by
  have other : newId.text ≠ id := by
    intro same
    obtain ⟨status, -, held⟩ := terminal
    rw [status?, ← same, fresh] at held
    cases held
  let sub := newRecord now request (RoundId.ofRaw (stripText (request.roundId.getD "")) request.epoch) newId
  have stored : (m.put sub).Terminal id := terminal.put fun same => absurd same other
  unfold StoreMemory.create
  simp only
  cases m.capError host request (RoundId.ofRaw (stripText (request.roundId.getD "")) request.epoch) with
  | some error => exact terminal
  | none =>
    cases request.repoToken.filter (· ≠ "") with
    | some token => exact stored
    | none => exact stored

theorem Terminal.setScreeningResult (terminal : m.Terminal id) (now : ℚ) (submissionId : String)
    (stage : Int) (passed : Bool) (durationMs : Int) (details : String)
    (errorCode : Option String) :
    (m.setScreeningResult now submissionId stage passed durationMs details errorCode).state.Terminal id := by
  unfold StoreMemory.setScreeningResult
  split
  · exact terminal
  · next sub found =>
    simp only
    split
    · rw [Outcome.state_returns]
      exact Quiet.terminal (Quiet.put found (by rfl) (by rfl)) terminal
    · exact terminal.put fun _ => rejected_final

theorem Terminal.setBenchmarkResult (terminal : m.Terminal id) (now : ℚ) (submissionId : String)
    (valid : Bool) (rank : Option Int) (details : Option (Dict String Value)) :
    (m.setBenchmarkResult now submissionId valid rank details).state.Terminal id := by
  unfold StoreMemory.setBenchmarkResult
  split
  · exact terminal
  · next sub found =>
    simp only
    split
    · rw [Outcome.state_returns]
      exact Quiet.terminal (Quiet.put found (by rfl) (by rfl)) terminal
    next live =>
      split
      · rw [Outcome.state_returns]
        apply terminal.put
        -- the scored record is not the terminal one, whose status is final
        intro same
        obtain ⟨status, final, held⟩ := terminal
        rw [← same, text_of_get found, status?, found] at held
        cases held
        exact absurd (List.contains_iff_mem.mpr final) live
      · exact terminal.put fun _ => rejected_final

theorem Terminal.reject (terminal : m.Terminal id) (now : ℚ) (submissionId reason : String)
    (outcomeCode : Option String) :
    (m.reject now submissionId reason outcomeCode).state.Terminal id := by
  unfold StoreMemory.reject
  split
  · exact terminal
  · exact terminal.put fun _ => rejected_final

theorem Terminal.waitlist (terminal : m.Terminal id) (now : ℚ)
    (submissionId reason outcomeCode : String) (position contenders slots : Option Int) :
    (m.waitlist now submissionId reason outcomeCode position contenders slots).state.Terminal id := by
  unfold StoreMemory.waitlist
  split
  · exact terminal
  · exact terminal.put fun _ => waitlisted_final

theorem Terminal.adopt (terminal : m.Terminal id) (now : ℚ) {submissionId}
    (other : submissionId ≠ id) :
    (m.adopt now submissionId).state.Terminal id := by
  have kept : (m.mapRecords (dethroned now submissionId) (dethroned_id now submissionId)).Terminal id := by
    obtain ⟨status, final, held⟩ := terminal
    refine ⟨status, final, ?_⟩
    unfold status? at held ⊢
    rw [get_mapRecords]
    cases found : m.get id with
    | none => simp [found] at held
    | some sub =>
      rw [found] at held
      cases held
      have untitled : sub.status ≠ .adopted := by
        intro titled
        simp [titled, noResurrectionStatuses] at final
      simp [dethroned, untitled]
  unfold StoreMemory.adopt
  simp only
  split
  · exact kept
  · next sub found =>
    apply kept.put
    intro same
    exact absurd ((text_of_get found).symm.trans same) other

theorem call_keeps_terminal {event} (scope : InScope m event) (adopts : AdoptsNoTerminal m event)
    (terminal : m.Terminal id) :
    (call host cap m event).1.Terminal id := by
  refine (call_quiet host cap m event).terminal ?_
  obtain ⟨now, op⟩ := event
  cases op with
  | create request newId => exact terminal.create host now request scope
  | upsertSubmission record => exact scope.elim
  | upsertSubmissions records => exact scope.elim
  | updateStatus submissionId status => exact scope.elim
  | setScreeningResult submissionId stage passed durationMs details errorCode =>
    exact terminal.setScreeningResult now submissionId stage passed durationMs details errorCode
  | setImageTag submissionId imageTag => exact terminal.edit (fun _ => rfl) fun _ => rfl
  | setImageId submissionId imageId => exact terminal.edit (fun _ => rfl) fun _ => rfl
  | setContentFingerprint submissionId value =>
    exact terminal.edit (fun _ => rfl) fun _ => rfl
  | setMaxRegionNodes submissionId value =>
    exact terminal.edit (fun _ => rfl) fun _ => rfl
  | setDeadwoodMetric submissionId nodes version topOffenders =>
    exact terminal.edit (fun _ => rfl) fun _ => rfl
  | setImageDigest submissionId imageDigest =>
    exact terminal.edit (fun _ => rfl) fun _ => rfl
  | setProvenance submissionId provenance =>
    exact terminal.edit (fun _ => rfl) fun _ => rfl
  | setSolverPath submissionId solverPath =>
    exact terminal.edit (fun _ => rfl) fun _ => rfl
  | setSolverInfo sidecar submissionId name version =>
    exact (Quiet.setSolverInfo m host now sidecar submissionId name version).terminal terminal
  | setBenchmarkResult submissionId valid rank details =>
    exact terminal.setBenchmarkResult now submissionId valid rank details
  | setBenchmarkRank submissionId rank =>
    exact terminal.edit (fun _ => rfl) fun _ => rfl
  | setBenchmarkRanks ranks => exact (Quiet.setBenchmarkRanks m now ranks).terminal terminal
  | mergeBenchmarkDetails submissionId extra =>
    exact terminal.edit (fun _ => rfl) fun _ => rfl
  | reject submissionId reason outcomeCode => exact terminal.reject now submissionId reason outcomeCode
  | waitlist submissionId reason outcomeCode position contenders slots =>
    exact terminal.waitlist now submissionId reason outcomeCode position contenders slots
  | adopt submissionId =>
    obtain ⟨status, final, held⟩ := terminal
    refine Terminal.adopt ⟨status, final, held⟩ now ?_
    rintro rfl
    exact adopts status final held
  | purgeToken submissionId => exact scope.elim

def endedStatuses : List SubmissionStatus := [.rejected, .waitlisted, .adopted]

def LeavesOpen (id : String) (m : StoreMemory) (event : ℚ × StoreOp) : Prop :=
  ∀ status ∈ endedStatuses, (call host cap m event).1.status? id ≠ some status

structure HoldsToken (m : StoreMemory) (id token : String) : Prop where
  known : (m.get id).isSome
  token : m.tokens.get? id = some token

def KeepsTokens (before after : StoreMemory) : Prop :=
  ∀ id token, (∀ status ∈ endedStatuses, after.status? id ≠ some status) →
    before.HoldsToken id token → after.HoldsToken id token

theorem KeepsTokens.refl (m : StoreMemory) : KeepsTokens m m := fun _ _ _ holds => holds

theorem Quiet.keepsTokens {before after} (quiet : Quiet before after) :
    KeepsTokens before after := by
  intro id token _ holds
  have same := congrArg Option.isSome (quiet.status id)
  simp only [status?, Option.isSome_map] at same
  exact ⟨same.trans holds.known, quiet.tokens ▸ holds.token⟩

theorem HoldsToken.put {id token} (holds : m.HoldsToken id token) (sub : Submission) :
    (m.put sub).HoldsToken id token where
  known := by
    rw [get_put]
    split
    · rfl
    · exact holds.known
  token := holds.token

theorem KeepsTokens.edit (m : StoreMemory) (submissionId : String) (f : Submission → Submission) :
    KeepsTokens m (m.edit submissionId f).state := by
  unfold StoreMemory.edit
  split
  · exact .refl m
  · exact fun id token _ holds => holds.put _

theorem KeepsTokens.ending {before m : StoreMemory} {submissionId} {old sub : Submission}
    (quiet : ∀ id token, before.HoldsToken id token → m.HoldsToken id token)
    (found : m.get submissionId = some old) (sameId : sub.submissionId = old.submissionId)
    (ends : sub.status ∈ endedStatuses) :
    KeepsTokens before ((m.put sub).purgeToken submissionId) := by
  intro id token isOpen holds
  have other : id ≠ submissionId := by
    intro same
    apply isOpen sub.status ends
    rw [status?_purgeToken, status?_put, sameId, text_of_get found, if_pos same]
  refine ⟨((quiet id token holds).put sub).known, ?_⟩
  show (m.tokens.erase submissionId).get? id = some token
  rw [Dict.get?_erase, if_neg other]
  exact (quiet id token holds).token

theorem KeepsTokens.create (m : StoreMemory) (now : ℚ) (request : NewSubmission) {newId}
    (fresh : m.get newId.text = none) : KeepsTokens m (m.create host now request newId).state := by
  intro id token _ holds
  have other : id ≠ newId.text := by
    rintro rfl
    have known := holds.known
    simp [fresh] at known
  have stored := holds.put (newRecord now request
    (RoundId.ofRaw (stripText (request.roundId.getD "")) request.epoch) newId)
  unfold StoreMemory.create
  simp only
  cases m.capError host request (RoundId.ofRaw (stripText (request.roundId.getD "")) request.epoch) with
  | some error => exact holds
  | none =>
    cases request.repoToken.filter (· ≠ "") with
    | none => exact stored
    | some own => exact ⟨stored.known, (Dict.get?_set_ne _ own other).trans stored.token⟩

theorem rejected_ends : SubmissionStatus.rejected ∈ endedStatuses := by decide

theorem waitlisted_ends : SubmissionStatus.waitlisted ∈ endedStatuses := by decide

theorem adopted_ends : SubmissionStatus.adopted ∈ endedStatuses := by decide

theorem KeepsTokens.setScreeningResult (m : StoreMemory) (now : ℚ) (submissionId : String) (stage : Int)
    (passed : Bool) (durationMs : Int) (details : String) (errorCode : Option String) :
    KeepsTokens m
      (m.setScreeningResult now submissionId stage passed durationMs details errorCode).state := by
  unfold StoreMemory.setScreeningResult
  split
  · exact .refl m
  · next sub found =>
    simp only
    split
    · exact fun id token _ holds => holds.put _
    · exact .ending (fun _ _ => id) found (by rfl) rejected_ends

theorem KeepsTokens.setBenchmarkResult (m : StoreMemory) (now : ℚ) (submissionId : String) (valid : Bool)
    (rank : Option Int) (details : Option (Dict String Value)) :
    KeepsTokens m (m.setBenchmarkResult now submissionId valid rank details).state := by
  unfold StoreMemory.setBenchmarkResult
  split
  · exact .refl m
  · next sub found =>
    simp only
    split
    · exact fun id token _ holds => holds.put _
    · split
      · exact fun id token _ holds => holds.put _
      · exact .ending (fun _ _ => id) found (by rfl) rejected_ends

theorem KeepsTokens.reject (m : StoreMemory) (now : ℚ) (submissionId reason : String)
    (outcomeCode : Option String) :
    KeepsTokens m (m.reject now submissionId reason outcomeCode).state := by
  unfold StoreMemory.reject
  split
  · exact .refl m
  · next sub found => exact .ending (fun _ _ => id) found (by rfl) rejected_ends

theorem KeepsTokens.waitlist (m : StoreMemory) (now : ℚ) (submissionId reason outcomeCode : String)
    (position contenders slots : Option Int) :
    KeepsTokens m
      (m.waitlist now submissionId reason outcomeCode position contenders slots).state := by
  unfold StoreMemory.waitlist
  split
  · exact .refl m
  · next sub found => exact .ending (fun _ _ => id) found (by rfl) waitlisted_ends

theorem KeepsTokens.adopt (m : StoreMemory) (now : ℚ) (submissionId : String) :
    KeepsTokens m (m.adopt now submissionId).state := by
  have kept : ∀ id token, m.HoldsToken id token →
      (m.mapRecords (dethroned now submissionId) (dethroned_id now submissionId)).HoldsToken id token := by
    intro id token holds
    exact ⟨by rw [get_mapRecords, Option.isSome_map]; exact holds.known, holds.token⟩
  unfold StoreMemory.adopt
  simp only
  split
  · exact fun id token _ holds => kept id token holds
  · next sub found => exact .ending kept found (by rfl) adopted_ends

theorem call_keeps_token {event id token} (scope : InScope m event)
    (isOpen : LeavesOpen host cap id m event) (holds : m.HoldsToken id token) :
    (call host cap m event).1.HoldsToken id token := by
  have quiet := call_quiet host cap m event
  have keeps : KeepsTokens m (event.2.run host event.1 m).state := by
    obtain ⟨now, op⟩ := event
    cases op with
    | create request newId => exact .create host m now request scope
    | upsertSubmission record => exact scope.elim
    | upsertSubmissions records => exact scope.elim
    | updateStatus submissionId status => exact scope.elim
    | setScreeningResult submissionId stage passed durationMs details errorCode =>
      exact .setScreeningResult m now submissionId stage passed durationMs details errorCode
    | setImageTag submissionId imageTag => exact .edit m submissionId _
    | setImageId submissionId imageId => exact .edit m submissionId _
    | setContentFingerprint submissionId value => exact .edit m submissionId _
    | setMaxRegionNodes submissionId value => exact .edit m submissionId _
    | setDeadwoodMetric submissionId nodes version topOffenders => exact .edit m submissionId _
    | setImageDigest submissionId imageDigest => exact .edit m submissionId _
    | setProvenance submissionId provenance => exact .edit m submissionId _
    | setSolverPath submissionId solverPath => exact .edit m submissionId _
    | setSolverInfo sidecar submissionId name version =>
      exact (Quiet.setSolverInfo m host now sidecar submissionId name version).keepsTokens
    | setBenchmarkResult submissionId valid rank details =>
      exact .setBenchmarkResult m now submissionId valid rank details
    | setBenchmarkRank submissionId rank => exact .edit m submissionId _
    | setBenchmarkRanks ranks => exact (Quiet.setBenchmarkRanks m now ranks).keepsTokens
    | mergeBenchmarkDetails submissionId extra => exact .edit m submissionId _
    | reject submissionId reason outcomeCode => exact .reject m now submissionId reason outcomeCode
    | waitlist submissionId reason outcomeCode position contenders slots =>
      exact .waitlist m now submissionId reason outcomeCode position contenders slots
    | adopt submissionId => exact .adopt m now submissionId
    | purgeToken submissionId => exact scope.elim
  refine quiet.keepsTokens id token isOpen (keeps id token ?_ holds)
  intro status ended
  rw [← quiet.status id]
  exact isOpen status ended

theorem create_with_token {now request id token} (withToken : request.repoToken = some token)
    (nonempty : token ≠ "") {touched}
    (created : (m.create host now request id).result = .ok touched) :
    ∃ round, (m.create host now request id).state =
      (m.put (newRecord now request round id)).stashToken host id.text token := by
  have own : request.repoToken.filter (· ≠ "") = some token := by simp [withToken, nonempty]
  refine ⟨RoundId.ofRaw (stripText (request.roundId.getD "")) request.epoch, ?_⟩
  unfold StoreMemory.create at created ⊢
  simp only at created ⊢
  split at created
  · cases created
  next admitted => rw [own, Outcome.state_returns]

theorem holdsToken_created {now request id token} (withToken : request.repoToken = some token)
    (nonempty : token ≠ "") {touched}
    (created : (call host cap m (now, .create request id)).2 = .ok touched) :
    (call host cap m (now, .create request id)).1.HoldsToken id.text token := by
  have quiet := call_quiet host cap m (now, .create request id)
  rw [call_result] at created
  obtain ⟨round, stored⟩ := create_with_token host withToken nonempty created
  have left : (StoreOp.run host now m (.create request id)).state =
      (m.put (newRecord now request round id)).stashToken host id.text token := stored
  rw [left] at quiet
  have known := congrArg Option.isSome (quiet.status id.text)
  rw [status?_stashToken, status?_put] at known
  simp only [newRecord, if_true, Option.isSome_some, status?, Option.isSome_map] at known
  exact ⟨known, quiet.tokens ▸ Dict.get?_set_self _ _ _⟩

/-- As long as no terminal submission is adopted, a submission that was rejected or waitlisted
    is never scored; and a submission created with a token has it as long as it has not been
    rejected, waitlisted or adopted. -/
theorem no_resurrection :
    (∀ (m last : StoreMemory) (id : String), m.Terminal id →
      Reaches (call host cap) (fun m event => InScope m event ∧ AdoptsNoTerminal m event) m last →
        last.status? id ≠ some .scored) ∧
      ∀ (m last : StoreMemory) (now : ℚ) (request : NewSubmission) (id : SubmissionId) (token : String)
        (touched : Option (List String)), request.repoToken = some token → token ≠ "" →
        (call host cap m (now, .create request id)).2 = .ok touched →
        Reaches (call host cap)
          (fun m event => InScope m event ∧ LeavesOpen host cap id.text m event)
          (call host cap m (now, .create request id)).1 last →
        last.getRepoToken host id.text = some token := by
  constructor
  · intro m last id terminal run
    have final : last.Terminal id := by
      refine run.invariant (Terminal · id) terminal ?_
      exact fun m event terminal allowed =>
        call_keeps_terminal host cap allowed.1 allowed.2 terminal
    exact final.not_scored
  · intro m last now request id token touched withToken nonempty created run
    have holds : last.HoldsToken id.text token := by
      refine run.invariant (HoldsToken · id.text token)
        (holdsToken_created host cap withToken nonempty created) ?_
      exact fun m event holds allowed => call_keeps_token host cap allowed.1 allowed.2 holds
    simp [getRepoToken, holds.token]

def firstId : SubmissionId := .subA

def secondId : SubmissionId := .subB

def firstRequest : NewSubmission where
  repoUrl := "https://github.com/a/solver"
  commitHash := "c0ffee"
  epoch := 7
  hotkey := "5Alice"
  repoToken := some "token"

def createFirst : ℚ × StoreOp := (1, .create firstRequest firstId)

def createSecond : ℚ × StoreOp := (2, .create { firstRequest with hotkey := "5Bob" } secondId)

def waitlistFirst : ℚ × StoreOp :=
  (3, .waitlist "sub_a" "not selected" "rotation_not_selected" none none none)

def waitlisted : StoreMemory :=
  runEvents (call StoreHost.plain 0) empty [createFirst, createSecond, waitlistFirst]

theorem waitlisted_scored_again :
    ¬ ∀ (host : StoreHost) (cap : Int) (m last : StoreMemory) (id : String),
      Reaches (call host cap) InScope empty m → m.Terminal id →
      Reaches (call host cap) InScope m last → last.status? id ≠ some .scored := by
  intro never
  have first : Reaches (call StoreHost.plain 0) InScope empty waitlisted :=
    AllowedAlong.reaches ⟨rfl, by show get _ _ = none; rfl, trivial, trivial⟩
  have terminal : waitlisted.Terminal "sub_a" := ⟨.waitlisted, by decide, by decide +kernel⟩
  have second : Reaches (call StoreHost.plain 0) InScope waitlisted
      (runEvents (call StoreHost.plain 0) waitlisted [(4, .adopt "sub_a"), (5, .adopt "sub_b")]) :=
    AllowedAlong.reaches ⟨trivial, trivial, trivial⟩
  have scored := never StoreHost.plain 0 waitlisted _ "sub_a" first terminal second
  revert scored
  decide +kernel

/-- A late benchmark leaves the waitlisted submission unscored, and the token of the first
    submission outlives the second one's screening. -/
theorem waitlisted_stays :
    (runEvents (call StoreHost.plain 0) waitlisted [(4, .setBenchmarkResult "sub_a" true none none)]).status?
        "sub_a" ≠ some .scored ∧
      (runEvents (call StoreHost.plain 0) (call StoreHost.plain 0 empty createFirst).1
        [createSecond]).getRepoToken StoreHost.plain "sub_a" = some "token" := by
  constructor
  · apply (no_resurrection StoreHost.plain 0).1 waitlisted _ "sub_a"
    · exact ⟨.waitlisted, by decide, by decide +kernel⟩
    · exact AllowedAlong.reaches ⟨⟨trivial, trivial⟩, trivial⟩
  · apply (no_resurrection StoreHost.plain 0).2 empty _ 1 firstRequest firstId "token" (some ["sub_a"]) rfl
      (by decide) rfl
    exact AllowedAlong.reaches ⟨⟨by show get _ _ = none; rfl, by unfold LeavesOpen; decide +kernel⟩, trivial⟩

end StoreMemory

end MinotaurSubnet.Harness
