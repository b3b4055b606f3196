import MinotaurSubnet.Epoch.ActivationSteps
import MinotaurSubnet.Library.Cooperative

/-! # The turns of an activation

`activate_certified_round` waits for the merge callback, for the runtime of the new
champion and for the submission store to write the adoption. Its turns, one after the
other and with nothing between them, are the activation of `Epoch/Activation`.
-/

namespace MinotaurSubnet.Epoch

open Library Python Harness

structure Candidacy where
  round : RoundState
  certificate : Consensus.ChampionCertificate
  candidate : String
  submission : SubmissionRecord
  result : ActivationResult
  leaderChampionChanged : Option Bool

inductive ActivationStage where
  | finalizing (c : Candidacy)
  | preparing (c : Candidacy) (mainSha : String)
  | recording (c : Candidacy) (mainSha : String) (adoptedAt : ℚ)

def ActivationStage.candidacy : ActivationStage → Candidacy
  | .finalizing c | .preparing c _ | .recording c _ _ => c

def ActivationStage.roundId (stage : ActivationStage) : String := stage.candidacy.result.roundId

inductive ActivationVerdict where
  | ends (result : Except PyError Unit)
  | waits (stage : ActivationStage)
  | refuses (result : ActivationResult) (reason : String)
  | commits (result : ActivationResult)

section

variable (env : Surroundings)

def Surroundings.runsSubmission (submission : SubmissionRecord) : Bool :=
  env.runtimeBuilder.isSome || (env.orchestrator.isSome && truthy submission.imageTag)

/-- The champion in memory is set before the submission store is asked to write. -/
def EpochManager.recordAdoption (m : EpochManager) (c : Candidacy) (mainSha : String) :
    EpochManager × ActivationVerdict :=
  ({ m with champion := championOf c.submission c.result.effectiveEpoch env.now },
    .waits (.recording c mainSha env.now))

/-- `_hot_swap` up to where it waits. -/
def EpochManager.openSwap (m : EpochManager) (c : Candidacy) (mainSha : String) :
    EpochManager × ActivationVerdict :=
  if env.frozenAtSwap then (m, .commits c.result)
  else if env.runsSubmission c.submission then (m, .waits (.preparing c mainSha))
  else m.recordAdoption env c mainSha

/-- The rest of `_hot_swap`, after the write of the submission store. -/
def EpochManager.swapRecorded (m : EpochManager) (c : Candidacy) (mainSha : String) (adoptedAt : ℚ) :
    Outcome EpochManager PyError Unit :=
  let (subs, known) := m.subs.adopt c.submission.submissionId env.now
  let m := { m with subs }
  if known = false then .raises m .keyError
  else
    match env.persistAdoption with
    | .error e => .raises m e
    | .ok _ =>
      (m.roundOp env .setChampionAdoptionBar).andThen fun m _ =>
      (m.capturePrevious env c.submission.submissionId).andThen fun m _ =>
      m.roundOp env (.setActiveChampion (snapshotOf c.submission c.result.effectiveEpoch
        (some c.result.roundId) (some mainSha) adoptedAt) false)

/-- The first turn once the candidate is known: the callback is asked, or the follower gate and
    the swap come at once. -/
def EpochManager.openCandidacy (m : EpochManager) (c : Candidacy) : EpochManager × ActivationVerdict :=
  if env.onChampionAdopted.isSome && !env.isFollower then (m, .waits (.finalizing c))
  else if !env.isDefiniteLeader &&
      !followerAdopts env c.round c.certificate c.candidate c.submission c.leaderChampionChanged then
    (m.resetToBurn env, .refuses c.result
      (if c.leaderChampionChanged = some false then "leader_merge_failed" else "follower_adopt_gated"))
  else m.openSwap env c ""

def EpochManager.openActivation (m : EpochManager) (roundId : String) (epoch : Int)
    (leaderChampionChanged : Option Bool) : EpochManager × ActivationVerdict :=
  match m.rounds.getRound roundId with
  | none => (m, .ends (.error .keyError))
  | some round =>
    if round.status ≠ .certified then (m, .ends (.error .valueError))
    else
      match certifiedCandidate round with
      | none => (m, .ends (.error .valueError))
      | some (certificate, candidate) =>
        let effectiveEpoch := effectiveEpochOf round certificate epoch
        let result : ActivationResult := { roundId, epoch, effectiveEpoch }
        if env.frozenAtGate then (m, .refuses result "adoption_frozen")
        else if epoch < effectiveEpoch then (m, .ends (.ok ()))
        else
          match m.subs.get candidate with
          | none => (m, .ends (.error .keyError))
          | some submission => m.openCandidacy env
              { round, certificate, candidate, submission, result, leaderChampionChanged }

def mergeAnswer (c : Candidacy) : MergeResult :=
  match env.onChampionAdopted with
  | none => { ok := true }
  | some callback =>
    match callback c.submission c.result.roundId with
    | .ok answer => answer
    | .error _ => { ok := false, reason := "callback_exception", stage := "client" }

def EpochManager.continueActivation (m : EpochManager) :
    ActivationStage → Outcome EpochManager PyError ActivationVerdict
  | .finalizing c =>
    let merge := mergeAnswer env c
    if merge.ok = false then
      .returns m <|
        if defersMerge env merge c.round c.certificate c.result.epoch then .ends (.ok ())
        else .refuses c.result
          (if merge.reason = "" then "merge_failed" else "merge_failed:" ++ merge.reason)
    else
      -- only a definite leader has asked
      let swap := m.openSwap env c merge.mainSha
      .returns swap.1 swap.2
  | .preparing c mainSha =>
    match prepareRuntime env c.submission c.result.effectiveEpoch with
    | .error e => .raises m e
    | .ok false => .returns m (.commits c.result)
    | .ok true =>
      let recorded := m.recordAdoption env c mainSha
      .returns recorded.1 recorded.2
  | .recording c mainSha adoptedAt =>
    (m.swapRecorded env c mainSha adoptedAt).andThen fun m _ => .returns m (.commits c.result)

def EpochManager.markActivated (m : EpochManager) (result : ActivationResult) :
    Outcome EpochManager PyError Unit :=
  (m.roundOp env (.activateRound result.roundId result.effectiveEpoch)).andThen fun m _ =>
  (m.reopen env result.effectiveEpoch).andThen fun m _ => .returns m ()

def EpochManager.settle (m : EpochManager) : ActivationVerdict → Turn EpochManager ActivationStage PyError
  | .ends result => .ends ⟨m, result⟩
  | .waits stage => .waits m stage
  | .refuses result reason =>
    .ends ((m.refuseActivation env result reason).andThen fun m _ => .returns m ())
  | .commits result => .ends (m.markActivated env result)

/-- `activate_certified_round`, its first turn. -/
def EpochManager.activateRound (m : EpochManager) (roundId : String) (epoch : Int)
    (leaderChampionChanged : Option Bool) : Turn EpochManager ActivationStage PyError :=
  let opened := m.openActivation env roundId epoch leaderChampionChanged
  opened.1.settle env opened.2

/-- `activate_certified_round`, a later turn. -/
def EpochManager.resumeActivation (m : EpochManager) (stage : ActivationStage) :
    Turn EpochManager ActivationStage PyError :=
  let continued := m.continueActivation env stage
  match continued.result with
  | .error e => .ends ⟨continued.state, .error e⟩
  | .ok verdict => continued.state.settle env verdict

end

section

/-- A turn and up to `n` further ones, with nothing in between. -/
def finish (env : Surroundings) : ℕ → Turn EpochManager ActivationStage PyError →
    Outcome EpochManager PyError Unit
  | _, .ends call => call
  | 0, .waits m _ => .returns m ()
  | n + 1, .waits m stage => finish env n (m.resumeActivation env stage)

variable {env : Surroundings} {m : EpochManager} {c : Candidacy} {mainSha : String}

theorem finish_ends (n : ℕ) (call : Outcome EpochManager PyError Unit) :
    finish env n (.ends call) = call := by
  cases n <;> rfl

theorem resumeActivation_recording (adoptedAt : ℚ) :
    m.resumeActivation env (.recording c mainSha adoptedAt) =
      .ends ((m.swapRecorded env c mainSha adoptedAt).andThen fun m _ => m.markActivated env c.result) := by
  unfold EpochManager.resumeActivation EpochManager.continueActivation
  cases written : (m.swapRecorded env c mainSha adoptedAt).result with
  | ok u => simp only [Outcome.andThen_of_ok written, Outcome.result_returns, Outcome.state_returns,
      EpochManager.settle]
  | error e => simp only [Outcome.andThen_of_error written]

theorem resumeActivation_preparing :
    m.resumeActivation env (.preparing c mainSha) =
      match prepareRuntime env c.submission c.result.effectiveEpoch with
      | .error e => .ends (.raises m e)
      | .ok false => .ends (m.markActivated env c.result)
      | .ok true => (m.recordAdoption env c mainSha).1.settle env (m.recordAdoption env c mainSha).2 := by
  unfold EpochManager.resumeActivation EpochManager.continueActivation
  dsimp only
  cases prepareRuntime env c.submission c.result.effectiveEpoch with
  | error e => rfl
  | ok started => cases started <;> rfl

theorem resumeActivation_finalizing :
    m.resumeActivation env (.finalizing c) =
      if (mergeAnswer env c).ok = false then
        if defersMerge env (mergeAnswer env c) c.round c.certificate c.result.epoch
        then .ends (.returns m ())
        else .ends ((m.refuseActivation env c.result (if (mergeAnswer env c).reason = "" then
          "merge_failed" else "merge_failed:" ++ (mergeAnswer env c).reason)).andThen
            fun m _ => .returns m ())
      else (m.openSwap env c (mergeAnswer env c).mainSha).1.settle env
        (m.openSwap env c (mergeAnswer env c).mainSha).2 := by
  unfold EpochManager.resumeActivation EpochManager.continueActivation
  dsimp only
  by_cases failed : (mergeAnswer env c).ok = false
  · rw [if_pos failed, if_pos failed]
    by_cases defers : defersMerge env (mergeAnswer env c) c.round c.certificate c.result.epoch = true
    · rw [if_pos defers, if_pos defers]
      rfl
    · rw [if_neg defers, if_neg defers]
      rfl
  · rw [if_neg failed, if_neg failed]
    rfl

theorem finish_recording (n : ℕ) :
    finish env (n + 1) ((m.recordAdoption env c mainSha).1.settle env (m.recordAdoption env c mainSha).2) =
      (m.commitSwap env c.submission c.result.effectiveEpoch (some c.result.roundId)
        (some mainSha)).andThen fun m _ => m.markActivated env c.result := by
  unfold EpochManager.recordAdoption EpochManager.settle finish
  rw [resumeActivation_recording, finish_ends]
  rfl

theorem prepareRuntime_of_idle (idle : env.runsSubmission c.submission = false) (epoch : Int) :
    prepareRuntime env c.submission epoch = .ok true := by
  unfold Surroundings.runsSubmission at idle
  obtain ⟨unbuilt, unstarted⟩ := Bool.or_eq_false_iff.mp idle
  unfold prepareRuntime
  cases builder : env.runtimeBuilder with
  | some build => simp [builder] at unbuilt
  | none =>
    dsimp only
    split
    · next start imageTag configured tagged =>
      obtain ⟨named, filled⟩ := Option.filter_eq_some_iff.mp tagged
      simp [configured, named, truthy] at unstarted
      simp [unstarted] at filled
    · rfl

theorem finish_openSwap (n : ℕ) :
    finish env (n + 2) ((m.openSwap env c mainSha).1.settle env (m.openSwap env c mainSha).2) =
      (m.hotSwap env c.submission c.result.effectiveEpoch (some c.result.roundId)
        (some mainSha)).andThen fun m _ => m.markActivated env c.result := by
  unfold EpochManager.openSwap EpochManager.hotSwap
  by_cases frozen : env.frozenAtSwap = true
  · simp only [if_pos frozen, EpochManager.settle, finish_ends, Outcome.returns_andThen]
  · rw [if_neg frozen, if_neg frozen]
    by_cases runs : env.runsSubmission c.submission = true
    · rw [if_pos runs]
      change finish env (n + 1) (m.resumeActivation env (.preparing c mainSha)) = _
      rw [resumeActivation_preparing]
      cases prepareRuntime env c.submission c.result.effectiveEpoch with
      | error e => exact finish_ends _ _
      | ok started =>
        cases started with
        | false => exact finish_ends _ _
        | true => exact finish_recording n
    · rw [if_neg runs, prepareRuntime_of_idle (by simpa using runs)]
      exact finish_recording (n + 1)

theorem commitActivation_ends (result : ActivationResult) (submission : SubmissionRecord) :
    (m.commitActivation env result submission mainSha).andThen (fun m _ => .returns m ()) =
      (m.hotSwap env submission result.effectiveEpoch (some result.roundId)
        (some mainSha)).andThen fun m _ => m.markActivated env result := by
  unfold EpochManager.commitActivation EpochManager.markActivated
  simp only [Outcome.andThen_assoc, Outcome.returns_andThen]

theorem mergeOutcome_of_asked (asked : (env.onChampionAdopted.isSome && !env.isFollower) = true) :
    mergeOutcome env c.submission c.result.roundId = mergeAnswer env c ∧
      env.isDefiniteLeader = true := by
  obtain ⟨configured, leads⟩ := Bool.and_eq_true_iff.mp asked
  obtain ⟨callback, wired⟩ := Option.isSome_iff_exists.mp configured
  have leads : env.isFollower = false := by simpa using leads
  constructor
  · cases answer : callback c.submission c.result.roundId with
    | ok merged => simp [mergeOutcome, mergeAnswer, wired, leads, answer]
    | error e => simp [mergeOutcome, mergeAnswer, wired, leads, answer]
  · simp [Surroundings.isDefiniteLeader, wired, leads]

theorem mergeOutcome_of_unasked (submission : SubmissionRecord) (roundId : String)
    (unasked : ¬ (env.onChampionAdopted.isSome && !env.isFollower) = true) :
    mergeOutcome env submission roundId = { ok := true } := by
  unfold mergeOutcome
  split
  · next callback wired leads => simp [wired, leads] at unasked
  · rfl

theorem finish_openCandidacy :
    finish env 3 ((m.openCandidacy env c).1.settle env (m.openCandidacy env c).2) =
      (m.activateCandidate env c.round c.certificate c.result c.candidate c.submission
        c.leaderChampionChanged).andThen fun m _ => .returns m () := by
  unfold EpochManager.openCandidacy EpochManager.activateCandidate
  by_cases asked : (env.onChampionAdopted.isSome && !env.isFollower) = true
  · obtain ⟨answer, definite⟩ := mergeOutcome_of_asked (c := c) asked
    rw [if_pos asked, answer, definite]
    change finish env 2 (m.resumeActivation env (.finalizing c)) = _
    rw [resumeActivation_finalizing]
    dsimp only
    by_cases failed : (mergeAnswer env c).ok = false
    · rw [if_pos failed, if_pos failed]
      by_cases defers : defersMerge env (mergeAnswer env c) c.round c.certificate c.result.epoch = true
      · rw [if_pos defers, if_pos defers]
        exact finish_ends _ _
      · rw [if_neg defers, if_neg defers]
        exact finish_ends _ _
    · rw [if_neg failed, if_neg failed]
      exact (finish_openSwap 0).trans (commitActivation_ends _ _).symm
  · rw [if_neg asked, mergeOutcome_of_unasked c.submission c.result.roundId asked]
    dsimp only
    rw [if_neg (by decide : ¬ true = false)]
    split
    · exact finish_ends _ _
    · exact (finish_openSwap 1).trans (commitActivation_ends _ _).symm

theorem finish_activateRound (roundId : String) (epoch : Int) (leaderChampionChanged : Option Bool) :
    finish env 3 (m.activateRound env roundId epoch leaderChampionChanged) =
      (m.activateCertifiedRound env roundId epoch leaderChampionChanged).andThen
        fun m _ => .returns m () := by
  unfold EpochManager.activateRound EpochManager.openActivation EpochManager.activateCertifiedRound
  cases m.rounds.getRound roundId with
  | none => rfl
  | some round =>
    dsimp only
    by_cases certified : round.status = .certified
    · rw [if_neg (not_not.mpr certified), if_neg (not_not.mpr certified)]
      cases certifiedCandidate round with
      | none => rfl
      | some named =>
        dsimp only
        by_cases frozen : env.frozenAtGate = true
        · simp only [if_pos frozen]
          exact finish_ends _ _
        · rw [if_neg frozen, if_neg frozen]
          by_cases early : epoch < effectiveEpochOf round named.1 epoch
          · simp only [if_pos early]
            exact finish_ends _ _
          · rw [if_neg early, if_neg early]
            cases m.subs.get named.2 with
            | none => rfl
            | some submission => exact finish_openCandidacy
    · simp only [if_pos certified]
      exact finish_ends _ _

end

end MinotaurSubnet.Epoch
