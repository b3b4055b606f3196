import MinotaurSubnet.Epoch.ActivationSteps

/-! # A reported adoption and the three champion records

When a call reports a new champion, or leaves a round `ACTIVATED`, the champion in
memory, in the round store and in the submission store should all name the adopted
submission. `_hot_swap` gives up silently when adoption is frozen or the local image
is not the certified one, and then they do so only if they did before.
-/

namespace MinotaurSubnet.Epoch

open Library Python Harness

variable {env : Surroundings} {m : EpochManager} {submission : SubmissionRecord}

/-- What `_hot_swap` finds before it gives up silently: adoption is not frozen, and where
    it starts a certified image itself, the local image is that image. -/
structure Surroundings.SwapUnblocked (env : Surroundings) (submission : SubmissionRecord) : Prop where
  notFrozen : env.frozenAtSwap = false
  image : env.runtimeBuilder.isSome ∨ env.orchestrator.isNone ∨
    ∀ imageTag imageId, submission.imageTag.filter (· ≠ "") = some imageTag →
      submission.imageId.filter (· ≠ "") = some imageId →
      ∃ localId, env.resolveImageId imageTag = .ok (some localId) ∧ env.lower localId = env.lower imageId

namespace EpochManager

/-- The champion in memory, in the round store and in the submission store is `id`. -/
structure NamesChampion (m : EpochManager) (id : String) : Prop where
  memory : m.champion.submissionId = some id
  rounds : m.rounds.activeChampion.submissionId = some id
  subs : m.subs.adoptedId = some id

/-- The records name `id` once the round is activated and the next one opened: opening
    fills in a missing active champion from the submission store. -/
structure AlreadyChampion (m : EpochManager) (roundId id : String) : Prop where
  memory : m.champion.submissionId = some id
  rounds : m.rounds.activeChampion.submissionId = some id ∨
    (truthy m.rounds.activeChampion.submissionId = false ∧
      (m.rounds.currentIsOpen = false ∨ m.rounds.currentRoundId = some roundId))
  subs : m.subs.adoptedId = some id

theorem NamesChampion.already {id} (names : m.NamesChampion id) (roundId : String) :
    m.AlreadyChampion roundId id :=
  ⟨names.memory, .inl names.rounds, names.subs⟩

theorem getIncumbentSnapshot_of_falsy {id}
    (falsy : truthy m.rounds.activeChampion.submissionId = false)
    (adopted : m.subs.adoptedId = some id) :
    ∃ snapshot, m.getIncumbentSnapshot = some snapshot ∧ snapshot.submissionId = some id := by
  unfold SubmissionStore.adoptedId at adopted
  unfold getIncumbentSnapshot
  cases champion : m.subs.getChampion with
  | none =>
    rw [champion] at adopted
    cases adopted
  | some sub =>
    rw [champion] at adopted
    rw [if_neg (by simp [falsy])]
    exact ⟨_, rfl, adopted⟩

theorem names_reopen (m : EpochManager) (epoch : Int) (id : String) :
    (m.reopen env epoch).state.NamesChampion id ↔
      m.champion.submissionId = some id ∧ m.subs.adoptedId = some id ∧
        (m.rounds.activeChampion.submissionId = some id ∨
          (truthy m.rounds.activeChampion.submissionId = false ∧ m.rounds.currentIsOpen = false)) := by
  cases live : m.rounds.currentIsOpen with
  | true =>
    rw [reopen_of_open env epoch live]
    constructor
    · intro names
      exact ⟨names.memory, names.subs, .inl names.rounds⟩
    · rintro ⟨memory, subs, rounds⟩
      exact ⟨memory, by simpa using rounds, subs⟩
  | false =>
    obtain ⟨next, reopened⟩ := reopen_of_idle env epoch live
    have incumbent : ∀ adopted : m.subs.adoptedId = some id,
        ((m.getIncumbentSnapshot.getD m.rounds.activeChampion).submissionId = some id ↔
          m.rounds.activeChampion.submissionId = some id ∨
            truthy m.rounds.activeChampion.submissionId = false) := by
      intro adopted
      cases named : truthy m.rounds.activeChampion.submissionId with
      | true => simp [getIncumbentSnapshot, named]
      | false =>
        obtain ⟨snapshot, read, same⟩ := getIncumbentSnapshot_of_falsy named adopted
        simp [read, same]
    have active : (env.persistence.evict
        (m.rounds.openRound epoch m.getIncumbentSnapshot env.now)).activeChampion =
          m.getIncumbentSnapshot.getD m.rounds.activeChampion :=
      RoundStore.activeChampion_evict _ _
    rw [reopened]
    constructor
    · intro names
      have rounds := names.rounds
      rw [Outcome.state_returns, active, incumbent names.subs] at rounds
      exact ⟨names.memory, names.subs, by simpa using rounds⟩
    · rintro ⟨memory, subs, rounds⟩
      refine ⟨memory, ?_, subs⟩
      rw [Outcome.state_returns, active, incumbent subs]
      simpa using rounds

/-- Activating the round and opening the next one leave the records naming `id` exactly
    when they did before. -/
theorem names_after_activation {roundId id effectiveEpoch epoch} {m' : EpochManager}
    (ended : (m.roundOp env (.activateRound roundId effectiveEpoch)).result = .ok ())
    (champion : m'.champion = m.champion) (subs : m'.subs.adoptedId = m.subs.adoptedId)
    (rounds : m'.rounds = (m.roundOp env (.activateRound roundId effectiveEpoch)).state.rounds) :
    (m'.reopen env epoch).state.NamesChampion id ↔ m.AlreadyChampion roundId id := by
  obtain ⟨sameActive, _, live⟩ := roundOp_ends (fun _ => rfl) (by simp) ended
  have idle : m'.rounds.currentIsOpen = false ↔
      m.rounds.currentIsOpen = false ∨ m.rounds.currentRoundId = some roundId := by
    rw [rounds, ← Bool.not_eq_true, live, not_and_or, Bool.not_eq_true, not_not]
  rw [names_reopen, champion, subs, idle, rounds, sameActive]
  constructor
  · rintro ⟨memory, adopted, active⟩
    exact ⟨memory, active, adopted⟩
  · rintro ⟨memory, active, adopted⟩
    exact ⟨memory, adopted, active⟩

variable {epoch : Int} {roundId mainSha : Option String}

theorem names_completeRound {roundId id next}
    (ended : (m.completeRound env roundId epoch (.activateRound roundId epoch)).result = .ok next) :
    (m.completeRound env roundId epoch (.activateRound roundId epoch)).state.NamesChampion id ↔
      m.AlreadyChampion roundId id := by
  obtain ⟨_, marked, completed, _⟩ := Outcome.andThen_eq_ok ended
  unfold completeRound
  rw [completed]
  apply names_after_activation marked
  · exact champion_roundOp m _
  · rw [SubmissionStore.adoptedId_reapOrphanedBenchmarking, subs_roundOp]
  · rfl

theorem prepareRuntime_true (notFrozen : env.frozenAtSwap = false)
    (ready : prepareRuntime env submission epoch = .ok true) : env.SwapUnblocked submission := by
  refine ⟨notFrozen, ?_⟩
  unfold prepareRuntime at ready
  cases builder : env.runtimeBuilder with
  | some build => exact .inl rfl
  | none =>
    cases sessions : env.orchestrator with
    | none => exact .inr (.inl rfl)
    | some start =>
      refine .inr (.inr ?_)
      intro imageTag imageId tagged certified
      simp only [builder, sessions, tagged, certified] at ready
      split at ready
      · cases ready
      · cases ready
      · next localId resolved =>
        split at ready
        · next same => exact ⟨localId, resolved, same⟩
        · cases ready

theorem prepareRuntime_false (refused : prepareRuntime env submission epoch = .ok false) :
    ¬ env.SwapUnblocked submission := by
  intro unblocked
  unfold prepareRuntime at refused
  have finishes : ∀ x : Except PyError Unit, x.map (fun _ => true) ≠ .ok false := by
    intro x
    cases x <;> simp [Except.map]
  split at refused
  · exact finishes _ refused
  · next noBuilder =>
    split at refused
    · next start imageTag sessions tagged =>
      split at refused
      · exact finishes _ refused
      · next imageId certified =>
        have local' : ∃ localId, env.resolveImageId imageTag = .ok (some localId) ∧
            env.lower localId = env.lower imageId := by
          rcases unblocked.image with built | none | image
          · simp [noBuilder] at built
          · simp [sessions] at none
          · exact image imageTag imageId tagged certified
        obtain ⟨localId, resolved, same⟩ := local'
        rw [resolved] at refused
        simp only [same, if_true] at refused
        exact finishes _ refused
    · cases refused

theorem champion_capturePrevious (m : EpochManager) (submissionId : String) :
    (m.capturePrevious env submissionId).state.champion = m.champion := by
  unfold capturePrevious
  dsimp only
  split
  · exact champion_roundOp m _
  · rfl

theorem subs_capturePrevious (m : EpochManager) (submissionId : String) :
    (m.capturePrevious env submissionId).state.subs = m.subs := by
  unfold capturePrevious
  dsimp only
  split
  · exact subs_roundOp m _
  · rfl

theorem names_commitSwap
    (ended : (m.commitSwap env submission epoch roundId mainSha).result = .ok ()) :
    (m.commitSwap env submission epoch roundId mainSha).state.NamesChampion submission.submissionId := by
  unfold commitSwap at ended ⊢
  dsimp only at ended ⊢
  split at ended
  · cases ended
  · next known =>
    rw [if_neg known]
    have adopted := SubmissionStore.adoptedId_adopt env.now (Bool.eq_true_of_not_eq_false known)
    split at ended
    · cases ended
    · obtain ⟨_, _, eqBar, ended⟩ := Outcome.andThen_eq_ok ended
      obtain ⟨_, _, eqPrevious, ended⟩ := Outcome.andThen_eq_ok ended
      rw [eqBar, eqPrevious]
      constructor
      · rw [champion_roundOp, champion_capturePrevious, champion_roundOp]
        rfl
      · unfold roundOp
        exact congrArg _ (RoundStore.activeChampion_evict _ _)
      · rw [subs_roundOp, subs_capturePrevious, subs_roundOp]
        exact adopted

theorem activeChampion_commitSwap
    (ended : (m.commitSwap env submission epoch roundId mainSha).result = .ok ()) :
    (m.commitSwap env submission epoch roundId mainSha).state.rounds.activeChampion =
      snapshotOf submission epoch roundId mainSha env.now := by
  unfold commitSwap at ended ⊢
  dsimp only at ended ⊢
  split at ended
  · cases ended
  · next known =>
    rw [if_neg known]
    split at ended
    · cases ended
    · obtain ⟨_, _, eqBar, ended⟩ := Outcome.andThen_eq_ok ended
      obtain ⟨_, _, eqPrevious, ended⟩ := Outcome.andThen_eq_ok ended
      rw [eqBar, eqPrevious]
      exact RoundStore.activeChampion_evict _ _

theorem activeChampion_hotSwap (unblocked : env.SwapUnblocked submission)
    (ended : (m.hotSwap env submission epoch roundId mainSha).result = .ok ()) :
    (m.hotSwap env submission epoch roundId mainSha).state.rounds.activeChampion =
      snapshotOf submission epoch roundId mainSha env.now := by
  unfold hotSwap at ended ⊢
  rw [if_neg (by simp [unblocked.notFrozen])] at ended ⊢
  split
  · next raised =>
    rw [raised] at ended
    cases ended
  · next refused => exact absurd unblocked (prepareRuntime_false refused)
  · next ready =>
    rw [ready] at ended
    exact activeChampion_commitSwap ended

/-- A swap that does not raise names the submission, or changes nothing. -/
theorem hotSwap_returns (env : Surroundings) (m : EpochManager) (submission : SubmissionRecord)
    (epoch : Int) (roundId mainSha : Option String)
    (ended : (m.hotSwap env submission epoch roundId mainSha).result = .ok ()) :
    (env.SwapUnblocked submission ∧
      (m.hotSwap env submission epoch roundId mainSha).state.NamesChampion submission.submissionId) ∨
    (¬ env.SwapUnblocked submission ∧ (m.hotSwap env submission epoch roundId mainSha).state = m) := by
  unfold hotSwap at ended ⊢
  split
  · next frozen =>
    refine .inr ⟨?_, rfl⟩
    intro unblocked
    simp [unblocked.notFrozen] at frozen
  · next notFrozen =>
    rw [if_neg notFrozen] at ended
    split
    · next raised =>
      rw [raised] at ended
      cases ended
    · next refused => exact .inr ⟨prepareRuntime_false refused, rfl⟩
    · next ready =>
      rw [ready] at ended
      exact .inl ⟨prepareRuntime_true (by simpa using notFrozen) ready, names_commitSwap ended⟩

theorem already_after_swap {m' : EpochManager}
    (swapped : (env.SwapUnblocked submission ∧ m'.NamesChampion submission.submissionId) ∨
      (¬ env.SwapUnblocked submission ∧ m' = m)) (roundId : String) :
    m'.AlreadyChampion roundId submission.submissionId ↔
      env.SwapUnblocked submission ∨ m.AlreadyChampion roundId submission.submissionId := by
  rcases swapped with ⟨unblocked, names⟩ | ⟨blocked, rfl⟩
  · exact iff_of_true (names.already roundId) (.inl unblocked)
  · exact ⟨.inr, fun either => either.resolve_left blocked⟩

/-- What a commit reports is true when the swap was not blocked, or blocked on the
    champion it had. -/
theorem commitActivation_names (m : EpochManager) (result : ActivationResult)
    (submission : SubmissionRecord) (mainSha : String) :
    Silent ActivationResult.championChanged m (m.commitActivation env result submission mainSha) ∨
      ((m.commitActivation env result submission mainSha).state.NamesChampion submission.submissionId ↔
        env.SwapUnblocked submission ∨ m.AlreadyChampion result.roundId submission.submissionId) := by
  unfold commitActivation
  have quiet : m.ActivatesNothing (m.hotSwap env submission result.effectiveEpoch
      (some result.roundId) (some mainSha)).state := (hotSwap_steps m _ _ _ _).activatesNothing
  have swapped := hotSwap_returns env m submission result.effectiveEpoch (some result.roundId)
    (some mainSha)
  generalize m.hotSwap env submission result.effectiveEpoch (some result.roundId) (some mainSha) = swap
    at quiet swapped ⊢
  cases swapEnds : swap.result with
  | error e =>
    rw [Outcome.andThen_of_error swapEnds]
    exact .inl (.raises quiet)
  | ok _ =>
    rw [Outcome.andThen_of_ok swapEnds]
    cases marked : (swap.state.roundOp env
        (.activateRound result.roundId result.effectiveEpoch)).result with
    | error e =>
      left
      rw [Outcome.andThen_of_error marked, roundOp_of_error marked]
      exact .raises quiet
    | ok _ =>
      right
      rw [Outcome.andThen_of_ok marked, Outcome.state_andThen_returns,
        names_after_activation marked (champion_roundOp _ _)
          (congrArg _ (subs_roundOp _ _)) rfl]
      exact already_after_swap (swapped swapEnds) _

theorem activateCandidate_names (env : Surroundings) (m : EpochManager) (round : RoundState)
    (certificate : Consensus.ChampionCertificate) (result : ActivationResult)
    (unchanged : result.championChanged = false) (candidate : String) (submission : SubmissionRecord)
    (leaderChampionChanged : Option Bool) :
    let call := m.activateCandidate env round certificate result candidate submission
      leaderChampionChanged
    Silent ActivationResult.championChanged m call ∨
      (call.state.NamesChampion submission.submissionId ↔
        env.SwapUnblocked submission ∨ m.AlreadyChampion result.roundId submission.submissionId) := by
  dsimp only [activateCandidate]
  split
  · left
    split
    · exact .returns (.refl m) unchanged
    · exact refuseActivation_silent unchanged m _
  · split
    · left
      exact (refuseActivation_silent unchanged _ _).after (resetToBurn_steps m).activatesNothing
    · exact commitActivation_names m result submission _

theorem activateCertifiedRound_names (env : Surroundings) (m : EpochManager) (roundId : String) (epoch : Int)
    (leaderChampionChanged : Option Bool) :
    let call := m.activateCertifiedRound env roundId epoch leaderChampionChanged
    Silent ActivationResult.championChanged m call ∨
      ∃ submission, m.certifiedSubmission roundId = some submission ∧
        (call.state.NamesChampion submission.submissionId ↔
          env.SwapUnblocked submission ∨ m.AlreadyChampion roundId submission.submissionId) := by
  dsimp only [activateCertifiedRound]
  unfold certifiedSubmission
  split
  · exact .inl (.raises (.refl m))
  · next round known =>
    split
    · exact .inl (.raises (.refl m))
    · split
      · exact .inl (.raises (.refl m))
      · next certificate candidate certified =>
        split
        · exact .inl (refuseActivation_silent rfl m _)
        · split
          · exact .inl (.returns (.refl m) rfl)
          · split
            · exact .inl (.raises (.refl m))
            · next submission found =>
              obtain silent | names := activateCandidate_names env m round certificate
                { roundId, epoch, effectiveEpoch := effectiveEpochOf round certificate epoch } rfl
                candidate submission leaderChampionChanged
              · exact .inl silent
              · refine .inr ⟨submission, ?_, names⟩
                rw [known, Option.bind_some, certified, Option.bind_some]
                exact found

/-- The adopt step: what it reports is true under the same condition as for a certified
    round. -/
theorem adoptAtBoundary_names (env : Surroundings) (m : EpochManager) (result : BoundaryResult)
    (unchanged : result.championChanged = false) (submission : SubmissionRecord) :
    let call := m.adoptAtBoundary env result submission
    Silent BoundaryResult.championChanged m call ∨
      (call.state.NamesChampion submission.submissionId ↔
        env.SwapUnblocked submission ∨ m.AlreadyChampion result.roundId submission.submissionId) := by
  dsimp only [adoptAtBoundary]
  have quiet : m.ActivatesNothing (m.hotSwap env submission result.epoch (some result.roundId) none).state :=
    (hotSwap_steps m _ _ _ _).activatesNothing
  have swapped := hotSwap_returns env m submission result.epoch (some result.roundId) none
  generalize m.hotSwap env submission result.epoch (some result.roundId) none = swap at quiet swapped ⊢
  cases swapEnds : swap.result with
  | error e =>
    left
    apply Silent.andThen (quiet.trans (abortAndReopen_steps _ _ _ _).activatesNothing)
    intro next _
    exact .returns (.refl _) unchanged
  | ok _ =>
    cases completes : (swap.state.completeRound env result.roundId result.epoch
        (.activateRound result.roundId result.epoch)).result with
    | error e =>
      left
      have raises : ∃ e', ((swap.state.completeRound env result.roundId result.epoch
          (.activateRound result.roundId result.epoch)).state.abortAndReopen env result.roundId
            result.epoch ("activation_failed: " ++ env.describe e)).result = .error e' :=
        abort_raises_after_failed_completion completes _
      obtain ⟨e', raised⟩ := raises
      dsimp only
      rw [Outcome.andThen_of_error raised]
      exact .raises (quiet.trans (abort_undoes_activation _ _ _ _))
    | ok next =>
      right
      dsimp only [Outcome.state_returns]
      rw [names_completeRound completes]
      exact already_after_swap (swapped swapEnds) _

end EpochManager

inductive ManagerCall where
  | activateCertifiedRound (roundId : String) (epoch : Int) (leaderChampionChanged : Option Bool)
  | onEpochBoundary (steps : BoundarySteps) (epoch : Int)

/-- Where a call reaches the swap: the manager by then, the round it processes and the
    certified or chosen submission. -/
structure SwapPoint where
  manager : EpochManager
  roundId : String
  submission : SubmissionRecord

namespace ManagerCall

/-- The call; its value is `champion_changed`. -/
def run (env : Surroundings) (m : EpochManager) : ManagerCall → Outcome EpochManager PyError Bool
  | .activateCertifiedRound roundId epoch leaderChampionChanged =>
    (m.activateCertifiedRound env roundId epoch leaderChampionChanged).andThen fun m result =>
      .returns m result.championChanged
  | .onEpochBoundary steps epoch =>
    (m.onEpochBoundary env steps epoch).andThen fun m result => .returns m result.championChanged

def swapPoint (env : Surroundings) (m : EpochManager) : ManagerCall → Option SwapPoint
  | .activateCertifiedRound roundId _ _ =>
    (m.certifiedSubmission roundId).map fun submission => ⟨m, roundId, submission⟩
  | .onEpochBoundary steps epoch =>
    let prepared := m.prepareRound env epoch
    match prepared.result with
    | .error _ => none
    | .ok round =>
      let decided := prepared.state.decideBoundary env steps { epoch, roundId := round.roundId }
      match decided.result with
      | .ok (.inr submission) => some ⟨decided.state, round.roundId, submission⟩
      | _ => none

/-- The call returns `champion_changed=True`, or leaves a round newly `ACTIVATED`. -/
def Reports (env : Surroundings) (m : EpochManager) (call : ManagerCall) : Prop :=
  (call.run env m).result = .ok true ∨
    ∃ roundId, ¬ m.rounds.Activated roundId ∧ (call.run env m).state.rounds.Activated roundId

theorem not_reports {call : ManagerCall} (silent : EpochManager.Silent id m (call.run env m)) :
    ¬ call.Reports env m := by
  intro reported
  cases reported with
  | inl changed => cases silent.result true changed
  | inr activated =>
    obtain ⟨roundId, before, after⟩ := activated
    exact before (silent.activates roundId after)

/-- Either the call says nothing, or it reached the swap and the records agree with what it
    says under the condition. -/
theorem run_names (env : Surroundings) (m : EpochManager) (call : ManagerCall) :
    EpochManager.Silent id m (call.run env m) ∨
      ∃ point, call.swapPoint env m = some point ∧
        ((call.run env m).state.NamesChampion point.submission.submissionId ↔
          env.SwapUnblocked point.submission ∨
            point.manager.AlreadyChampion point.roundId point.submission.submissionId) := by
  cases call with
  | activateCertifiedRound roundId epoch leaderChampionChanged =>
    simp only [run, swapPoint]
    obtain silent | ⟨submission, certified, names⟩ :=
      EpochManager.activateCertifiedRound_names env m roundId epoch leaderChampionChanged
    · exact .inl (silent.map fun _ => rfl)
    · refine .inr ⟨⟨m, roundId, submission⟩, by rw [certified]; rfl, ?_⟩
      rw [Outcome.state_andThen_returns]
      exact names
  | onEpochBoundary steps epoch =>
    simp only [run, swapPoint, EpochManager.onEpochBoundary]
    have prepares : m.ActivatesNothing (m.prepareRound env epoch).state :=
      (EpochManager.prepareRound_steps m epoch).activatesNothing
    generalize m.prepareRound env epoch = prepared at prepares ⊢
    cases prepareEnds : prepared.result with
    | error e =>
      left
      rw [Outcome.andThen_of_error prepareEnds]
      exact .raises prepares
    | ok round =>
      rw [Outcome.andThen_of_ok prepareEnds]
      dsimp only
      have decides : EpochManager.Silent EpochManager.decisionChanged prepared.state
          (prepared.state.decideBoundary env steps { epoch, roundId := round.roundId }) :=
        EpochManager.decideBoundary_silent steps prepared.state rfl
      generalize prepared.state.decideBoundary env steps { epoch, roundId := round.roundId } = decided
        at decides ⊢
      have quiet := prepares.trans decides.activates
      cases decideEnds : decided.result with
      | error e =>
        left
        rw [Outcome.andThen_of_error decideEnds]
        exact .raises quiet
      | ok decision =>
        rw [Outcome.andThen_of_ok decideEnds]
        cases decision with
        | inl result =>
          left
          exact .returns quiet (decides.result _ decideEnds)
        | inr submission =>
          obtain silent | names := EpochManager.adoptAtBoundary_names env decided.state
            { epoch, roundId := round.roundId } rfl submission
          · left
            apply EpochManager.Silent.after _ quiet
            exact silent.map fun _ => rfl
          · right
            refine ⟨⟨decided.state, round.roundId, submission⟩, rfl, ?_⟩
            rw [Outcome.state_andThen_returns]
            exact names

end ManagerCall

/-- A reported adoption is in all three records exactly when the swap was not given up, or
    was given up on the submission that already was the champion. -/
theorem reported_adoption_names_champion (env : Surroundings) (m : EpochManager) (call : ManagerCall)
    (reported : call.Reports env m) :
    ∃ point, call.swapPoint env m = some point ∧
      ((call.run env m).state.NamesChampion point.submission.submissionId ↔
        env.SwapUnblocked point.submission ∨
          point.manager.AlreadyChampion point.roundId point.submission.submissionId) := by
  obtain silent | names := call.run_names env m
  · exact absurd reported (ManagerCall.not_reports silent)
  · exact names

/-- A node that starts champions with docker and has the image `docker` answers. -/
def dockerNode (docker : Option String) : Surroundings where
  persistence := ⟨true, 2000⟩
  now := 600
  orchestrator := some fun _ _ => .ok ()
  resolveImageId := fun _ => .ok docker
  lower := id
  describe := fun _ => ""

def challenger : SubmissionRecord where
  submissionId := "sub-1"
  hotkey := "5Miner"
  roundId := "round-e5-n1"
  status := .scored
  imageTag := some "solver:1"
  imageId := some "sha256:aa"

def certifiedManager : EpochManager :=
  let env := dockerNode none
  let opened := (EpochManager.roundOp env { subs := SubmissionStore.empty.put challenger }
    (.ensureOpenRound 5 none)).state
  let closed := (opened.roundOp env (.closeCurrentRound { closeEpoch := some 5 })).state
  (closed.roundOp env (.certifyRound "round-e5-n1" {
    roundId := "round-e5-n1"
    candidateSubmissionId := some "sub-1"
    effectiveEpoch := 6 })).state

theorem reported_adoption_names_champion_installed :
    (ManagerCall.run (dockerNode (some "sha256:aa")) certifiedManager
      (.activateCertifiedRound "round-e5-n1" 6 none)).state.NamesChampion "sub-1" := by
  have reported : ManagerCall.Reports (dockerNode (some "sha256:aa")) certifiedManager
      (.activateCertifiedRound "round-e5-n1" 6 none) := .inl (by decide +kernel)
  obtain ⟨point, reaches, names⟩ := reported_adoption_names_champion _ _ _ reported
  have certified : certifiedManager.certifiedSubmission "round-e5-n1" = some challenger := by
    decide +kernel
  rw [ManagerCall.swapPoint, certified] at reaches
  cases reaches
  apply names.mpr
  left
  refine ⟨rfl, .inr (.inr ?_)⟩
  intro imageTag imageId tagged known
  cases known
  exact ⟨"sha256:aa", rfl, rfl⟩

/-- Without the image the swap is given up, and the call still reports the new champion. -/
theorem reported_adoption_without_image :
    (ManagerCall.run (dockerNode none) certifiedManager
      (.activateCertifiedRound "round-e5-n1" 6 none)).result = .ok true ∧
    (ManagerCall.run (dockerNode none) certifiedManager
      (.activateCertifiedRound "round-e5-n1" 6 none)).state.rounds.Activated "round-e5-n1" ∧
    certifiedManager.certifiedSubmission "round-e5-n1" = some challenger ∧
    ¬ (ManagerCall.run (dockerNode none) certifiedManager
      (.activateCertifiedRound "round-e5-n1" 6 none)).state.NamesChampion "sub-1" := by
  refine ⟨by decide +kernel, ?_, by decide +kernel, ?_⟩
  · have status : ((ManagerCall.run (dockerNode none) certifiedManager
        (.activateCertifiedRound "round-e5-n1" 6 none)).state.rounds.rounds.get? "round-e5-n1").map
          (·.status) = some .activated := by decide +kernel
    exact Option.map_eq_some_iff.mp status
  · intro names
    have memory := names.memory
    revert memory
    decide +kernel

end MinotaurSubnet.Epoch
