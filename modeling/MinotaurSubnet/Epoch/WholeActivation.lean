import MinotaurSubnet.Epoch.ActivationRecords

/-! # Activations that raise half-way

The commit of a certified round writes the champion to memory, the submission store and the round
store, marks the round and opens the next. The submission store may fail to write, the round may be
evicted before it is marked, and the opening refuses beside another open round: the call then raises
over what it has written.
-/

namespace MinotaurSubnet.Harness.RoundStore

open Library

def statusOf (s : RoundStore) (roundId : String) : Option RoundStatus :=
  (s.rounds.get? roundId).map (·.status)

theorem roundIdOf_ne_empty (epoch : Int) (n : ℕ) : roundIdOf epoch n ≠ "" := by
  intro empty
  have letters := congrArg String.toList empty
  simp [roundIdOf] at letters

theorem currentIsOpen_openRound (s : RoundStore) (epoch : Int) (incumbent : Option ChampionSnapshot)
    (now : ℚ) : (s.openRound epoch incumbent now).currentIsOpen = true := by
  have named : s.buildRoundId epoch ≠ "" := roundIdOf_ne_empty _ _
  unfold currentIsOpen getCurrentRound openRound
  split
  · next empty => exact absurd (Option.some.inj empty) named
  · next none => cases none
  · next roundId _ current =>
    cases current
    rw [Dict.get?_set_self]
    cases incumbent <;> rfl

theorem statusOf_evict {s : RoundStore} {p : RoundPersistence} {roundId status}
    (kept : (p.evict s).statusOf roundId = some status) : s.statusOf roundId = some status := by
  obtain ⟨r, found, here⟩ := Option.map_eq_some_iff.mp kept
  rw [statusOf, RoundPersistence.evict_some found]
  exact congrArg some here

end MinotaurSubnet.Harness.RoundStore

namespace MinotaurSubnet.Epoch

open Library Python Harness

/-- Where an activation goes before its first write: it raises or returns, it ends the round (after
    it may have reset the champion), or it commits. -/
inductive ActivationPath where
  | ends
  | refuses (reset : Bool)
  | commits (submission : SubmissionRecord) (effectiveEpoch : Int)

namespace EpochManager

variable (env : Surroundings) (m : EpochManager)

def candidatePath (round : RoundState) (certificate : Consensus.ChampionCertificate) (roundId : String)
    (epoch : Int) (candidate : String) (submission : SubmissionRecord)
    (leaderChampionChanged : Option Bool) : ActivationPath :=
  let merge := mergeOutcome env submission roundId
  if merge.ok = false then
    if defersMerge env merge round certificate epoch then .ends else .refuses false
  else if !env.isDefiniteLeader &&
      !followerAdopts env round certificate candidate submission leaderChampionChanged then .refuses true
  else .commits submission (effectiveEpochOf round certificate epoch)

def activationPath (roundId : String) (epoch : Int) (leaderChampionChanged : Option Bool) :
    ActivationPath :=
  match m.rounds.getRound roundId with
  | none => .ends
  | some round =>
    if round.status ≠ .certified then .ends
    else
      match certifiedCandidate round with
      | none => .ends
      | some (certificate, candidate) =>
        if env.frozenAtGate then .refuses false
        else if epoch < effectiveEpochOf round certificate epoch then .ends
        else
          match m.subs.get candidate with
          | none => .ends
          | some submission =>
            candidatePath env round certificate roundId epoch candidate submission leaderChampionChanged

/-- The round is still there when the swap has made its writes to the round store. -/
def KeepsRound (roundId submissionId : String) : Prop :=
  (((m.roundOp env .setChampionAdoptionBar).state.capturePrevious env
    submissionId).state.rounds.getRound roundId).isSome = true

def CommitsWhole (roundId : String) (submission : SubmissionRecord) (effectiveEpoch : Int) : Prop :=
  if env.frozenAtSwap then m.rounds.currentIsOpen = false
  else
    match prepareRuntime env submission effectiveEpoch with
    | .error _ => True
    | .ok false => m.rounds.currentIsOpen = false
    | .ok true =>
      match env.persistAdoption with
      | .error _ => m.champion = championOf submission effectiveEpoch env.now ∧
          m.subs.adoptedId = some submission.submissionId
      | .ok _ => m.rounds.currentIsOpen = false ∧ m.KeepsRound env roundId submission.submissionId

def PathWhole (roundId : String) : ActivationPath → Prop
  | .ends => True
  | .refuses reset => m.rounds.currentIsOpen = false ∧
      (reset = true → ((m.resetToBurn env).rounds.getRound roundId).isSome = true)
  | .commits submission effectiveEpoch => m.CommitsWhole env roundId submission effectiveEpoch

def ActivatesWhole (roundId : String) (epoch : Int) (leaderChampionChanged : Option Bool) : Prop :=
  m.PathWhole env roundId (m.activationPath env roundId epoch leaderChampionChanged)

/-- The champion in memory and in the round store, the adopted submission and the status of every
    round are what they were. -/
structure Unchanged (m m' : EpochManager) : Prop where
  memory : m'.champion = m.champion
  activeChampion : m'.rounds.activeChampion = m.rounds.activeChampion
  adopted : m'.subs.adoptedId = m.subs.adoptedId
  statuses : ∀ roundId, m'.rounds.statusOf roundId = m.rounds.statusOf roundId

theorem Unchanged.refl (m : EpochManager) : m.Unchanged m := ⟨rfl, rfl, rfl, fun _ => rfl⟩

def AllOrNothing (call : Outcome EpochManager PyError ActivationResult) : Prop :=
  (∀ e, call.result = .error e → m.Unchanged call.state) ∧
    ∀ result, call.result = .ok result → result.championChanged = true →
      call.state.rounds.currentIsOpen = true

section

variable {env m} {roundId : String} {op : RoundStore.Op} {f : RoundState → RoundState}

theorem statusOf_roundOp (rewrites : ∀ s : RoundStore, s.run env.now op = (s.modifyRound roundId f).map some)
    (leaves : ∀ r, (f r).status ≠ .certified) :
    (m.roundOp env op).state.rounds.statusOf roundId ≠ some .certified := by
  intro certified
  unfold roundOp at certified
  rw [rewrites, RoundStore.modifyRound] at certified
  cases found : m.rounds.rounds.get? roundId with
  | none =>
    rw [found] at certified
    change m.rounds.statusOf roundId = some .certified at certified
    rw [RoundStore.statusOf, found] at certified
    cases certified
  | some r =>
    rw [found] at certified
    have kept := RoundStore.statusOf_evict certified
    rw [RoundStore.statusOf, Dict.get?_set_self] at kept
    exact leaves r (Option.some.inj kept)

/-- How the end of a round and the opening of the next go together: they raise exactly when the
    round is gone or another one is open, the round is not certified any more then, and otherwise
    a round is open. -/
theorem ended_reopened (rewrites : ∀ s : RoundStore, s.run env.now op = (s.modifyRound roundId f).map some)
    (closes : ∀ r, (f r).status ≠ .open) (leaves : ∀ r, (f r).status ≠ .certified)
    (certified : ∀ r, m.rounds.getRound roundId = some r → r.status = .certified)
    {g : EpochManager → EpochManager} (sameRounds : ∀ m, (g m).rounds = m.rounds) (epoch : Int) :
    let call := (m.roundOp env op).andThen fun m _ => (g m).reopen env epoch
    ((∃ e, call.result = .error e) ↔
      ¬ (m.rounds.currentIsOpen = false ∧ (m.rounds.getRound roundId).isSome = true)) ∧
    (∀ e, call.result = .error e → call.state.rounds.statusOf roundId ≠ some .certified) ∧
    ∀ next, call.result = .ok next → call.state.rounds.currentIsOpen = true := by
  have left := @statusOf_roundOp env m roundId op f rewrites leaves
  dsimp only
  cases ended : (m.roundOp env op).result with
  | error e =>
    have gone := (roundOp_raises rewrites).mp ⟨e, ended⟩
    rw [Outcome.andThen_of_error ended]
    refine ⟨?_, fun _ _ => left, fun next returned => by cases returned⟩
    rw [RoundStore.getRound, gone]
    simp
  | ok _ =>
    have present : (m.rounds.getRound roundId).isSome = true := by
      cases found : m.rounds.getRound roundId with
      | some r => rfl
      | none =>
        obtain ⟨e, raised⟩ := (roundOp_raises rewrites).mpr found
        rw [raised] at ended
        cases ended
    have live := (roundOp_ends rewrites closes ended).2.2
    rw [Outcome.andThen_of_ok ended]
    generalize (m.roundOp env op).state = m' at left live ⊢
    -- a certified round is not the open one
    have beside : m.rounds.currentIsOpen = true → m.rounds.currentRoundId ≠ some roundId := by
      intro isOpen same
      obtain ⟨r, known⟩ := Option.isSome_iff_exists.mp present
      unfold RoundStore.currentIsOpen RoundStore.getCurrentRound at isOpen
      rw [same] at isOpen
      split at isOpen
      · cases isOpen
      · cases isOpen
      · next key _ pointer =>
        cases pointer
        rw [RoundStore.getRound] at known
        simp [known, certified r known] at isOpen
    have stays : (g m').rounds.currentIsOpen = m.rounds.currentIsOpen := by
      rw [sameRounds, Bool.eq_iff_iff, live]
      exact ⟨fun both => both.1, fun isOpen => ⟨isOpen, beside isOpen⟩⟩
    cases isOpen : m.rounds.currentIsOpen with
    | true =>
      rw [isOpen] at stays
      rw [reopen_of_open env epoch stays]
      refine ⟨by simp, ?_, fun next returned => by cases returned⟩
      intro _ _
      rw [Outcome.state_raises, sameRounds]
      exact left
    | false =>
      rw [isOpen] at stays
      obtain ⟨next, reopened⟩ := reopen_of_idle env epoch stays
      rw [reopened]
      refine ⟨by simp [present], fun e raised => by (cases raised), ?_⟩
      intro _ _
      rw [Outcome.state_returns, RoundStore.currentIsOpen_evict]
      exact RoundStore.currentIsOpen_openRound _ _ _ _

/-- The end of a round as a whole call: it is all or nothing exactly when it does not raise. -/
theorem allOrNothing_of_ended {call : Outcome EpochManager PyError (Option String)}
    {whole : Prop} (before : m.rounds.statusOf roundId = some .certified)
    (ends : ((∃ e, call.result = .error e) ↔ ¬ whole) ∧
      (∀ e, call.result = .error e → call.state.rounds.statusOf roundId ≠ some .certified) ∧
      ∀ next, call.result = .ok next → call.state.rounds.currentIsOpen = true)
    (report : EpochManager → Option String → ActivationResult) :
    m.AllOrNothing (call.andThen fun m next => .returns m (report m next)) ↔ whole := by
  obtain ⟨raises, leaves, opens⟩ := ends
  cases ended : call.result with
  | error e =>
    rw [Outcome.andThen_of_error ended]
    constructor
    · intro all
      have same := (all.1 e rfl).statuses roundId
      exact absurd (same.trans before) (leaves e ended)
    · intro fits
      exact absurd fits (raises.mp ⟨e, ended⟩)
  | ok next =>
    rw [Outcome.andThen_of_ok ended]
    constructor
    · intro _
      by_contra stuck
      obtain ⟨e, raised⟩ := raises.mpr stuck
      rw [raised] at ended
      cases ended
    · intro _
      exact ⟨fun e raised => by (cases raised), fun _ _ _ => opens next ended⟩

end

section

variable {env m} {result : ActivationResult}

theorem refuse_allOrNothing {m₀ : EpochManager}
    (before : m.rounds.statusOf result.roundId = some .certified)
    (certified : ∀ r, m₀.rounds.getRound result.roundId = some r → r.status = .certified)
    (reason : String) :
    m.AllOrNothing (m₀.refuseActivation env result reason) ↔
      m₀.rounds.currentIsOpen = false ∧ (m₀.rounds.getRound result.roundId).isSome = true := by
  unfold refuseActivation abortAndReopen completeRound
  apply allOrNothing_of_ended before
  exact @ended_reopened env m₀ result.roundId (.abortRound result.roundId _)
    (fun r => { r with status := .aborted, abortReason := some _ }) (fun _ => rfl) (fun _ => nofun)
    (fun _ => nofun) certified
    (fun m => { m with subs := m.subs.reapOrphanedBenchmarking result.roundId env.now })
    (fun _ => rfl) _

theorem mark_allOrNothing {m₀ : EpochManager}
    (before : m.rounds.statusOf result.roundId = some .certified)
    (certified : ∀ r, m₀.rounds.getRound result.roundId = some r → r.status = .certified) :
    m.AllOrNothing ((m₀.roundOp env (.activateRound result.roundId result.effectiveEpoch)).andThen
      fun m _ => (m.reopen env result.effectiveEpoch).andThen fun m next =>
        .returns m { result with
          championChanged := true
          newChampion := some m.champion
          nextRoundId := next
          weightsEmitted := env.emitWeights }) ↔
      m₀.rounds.currentIsOpen = false ∧ (m₀.rounds.getRound result.roundId).isSome = true := by
  rw [← Outcome.andThen_assoc]
  apply allOrNothing_of_ended before
  exact @ended_reopened env m₀ result.roundId (.activateRound result.roundId result.effectiveEpoch)
    (fun r => { r with
      status := .activated, effectiveEpoch := some result.effectiveEpoch, abortReason := none })
    (fun _ => rfl) (fun _ => nofun) (fun _ => nofun) certified id (fun _ => rfl) _

/-- A call that only changes the champions keeps what there is of the rounds. -/
structure Shrinks (m m' : EpochManager) : Prop where
  live : m'.rounds.currentIsOpen = m.rounds.currentIsOpen
  kept : ∀ roundId r, m'.rounds.getRound roundId = some r → m.rounds.getRound roundId = some r

theorem Shrinks.trans {m' m'' : EpochManager} (first : m.Shrinks m') (second : m'.Shrinks m'') :
    m.Shrinks m'' :=
  ⟨second.live.trans first.live, fun roundId r found => first.kept roundId r (second.kept roundId r found)⟩

theorem roundOp_champion {op s} (ran : m.rounds.run env.now op = .ok (some s))
    (rounds : s.rounds = m.rounds.rounds) (current : s.currentRoundId = m.rounds.currentRoundId) :
    m.roundOp env op = .returns { m with rounds := env.persistence.evict s } () ∧
      m.Shrinks { m with rounds := env.persistence.evict s } := by
  have call : m.roundOp env op = .returns { m with rounds := env.persistence.evict s } () := by
    unfold roundOp
    rw [ran]
  refine ⟨call, ?_, ?_⟩
  · rw [RoundStore.currentIsOpen_evict]
    unfold RoundStore.currentIsOpen RoundStore.getCurrentRound
    rw [rounds, current]
  · intro roundId r found
    have kept := RoundPersistence.evict_some found
    rwa [rounds] at kept

theorem rounds_roundOp {m' : EpochManager} (same : m.rounds = m'.rounds) (op : RoundStore.Op) :
    (m.roundOp env op).state.rounds = (m'.roundOp env op).state.rounds := by
  unfold roundOp
  rw [same]
  split
  · exact same
  · exact same
  · rfl

theorem rounds_capturePrevious {m' : EpochManager} (same : m.rounds = m'.rounds) (submissionId : String) :
    (m.capturePrevious env submissionId).state.rounds =
      (m'.capturePrevious env submissionId).state.rounds := by
  unfold capturePrevious
  dsimp only
  rw [same]
  split
  · exact rounds_roundOp same _
  · exact same

theorem capturePrevious_returns (m : EpochManager) (submissionId : String) :
    (m.capturePrevious env submissionId).result = .ok () ∧
      m.Shrinks (m.capturePrevious env submissionId).state := by
  unfold capturePrevious
  dsimp only
  split
  · obtain ⟨call, shrinks⟩ := @roundOp_champion env m (.setPreviousChampion m.rounds.activeChampion)
      { m.rounds with previousChampion := m.rounds.activeChampion } rfl rfl rfl
    rw [call]
    exact ⟨rfl, shrinks⟩
  · exact ⟨rfl, rfl, fun _ _ found => found⟩

theorem keepsRound_congr {m' : EpochManager} (same : m.rounds = m'.rounds) {roundId submissionId} :
    m.KeepsRound env roundId submissionId ↔ m'.KeepsRound env roundId submissionId := by
  unfold KeepsRound
  rw [rounds_capturePrevious (rounds_roundOp same _)]

variable {submission : SubmissionRecord}

/-- The writes of a swap that the submission store takes: they return, and the round is there
    afterwards if the store kept it. -/
theorem commitSwap_returns {epoch roundId mainSha}
    (known : (m.subs.get submission.submissionId).isSome = true)
    (written : env.persistAdoption = .ok ()) :
    ∃ m', m.commitSwap env submission epoch (some roundId) mainSha = .returns m' () ∧ m.Shrinks m' ∧
      ((m'.rounds.getRound roundId).isSome = true ↔ m.KeepsRound env roundId submission.submissionId) := by
  unfold commitSwap
  have adopted : (m.subs.adopt submission.submissionId env.now).2 = true := known
  dsimp only
  rw [if_neg (by rw [adopted]; decide), written]
  dsimp only
  obtain ⟨m₁, recorded⟩ : ∃ m₁ : EpochManager, m₁ = { m with
    champion := championOf submission epoch env.now
    subs := (m.subs.adopt submission.submissionId env.now).1 } := ⟨_, rfl⟩
  have same : m.rounds = m₁.rounds := by rw [recorded]
  have start : m.Shrinks m₁ := by
    rw [recorded]
    exact ⟨rfl, fun _ _ found => found⟩
  rw [← recorded, keepsRound_congr same]
  unfold KeepsRound
  obtain ⟨barred, barShrinks⟩ := @roundOp_champion env m₁ .setChampionAdoptionBar m₁.rounds rfl rfl rfl
  rw [barred, Outcome.returns_andThen, Outcome.state_returns]
  generalize ({ m₁ with rounds := env.persistence.evict m₁.rounds } : EpochManager) = m₂ at barShrinks ⊢
  obtain ⟨captured, captureShrinks⟩ := @capturePrevious_returns env m₂ submission.submissionId
  rw [Outcome.andThen_of_ok captured]
  generalize (m₂.capturePrevious env submission.submissionId).state = m₃ at captureShrinks ⊢
  let snapshot := snapshotOf submission epoch (some roundId) mainSha env.now
  obtain ⟨activated, activeShrinks⟩ := @roundOp_champion env m₃ (.setActiveChampion snapshot false)
    { m₃.rounds with activeChampion := snapshot } rfl rfl rfl
  refine ⟨_, activated, ((start.trans barShrinks).trans captureShrinks).trans activeShrinks, ?_⟩
  constructor
  · intro present
    obtain ⟨r, found⟩ := Option.isSome_iff_exists.mp present
    exact Option.isSome_iff_exists.mpr ⟨r, activeShrinks.kept roundId r found⟩
  · intro present
    obtain ⟨r, found⟩ := Option.isSome_iff_exists.mp present
    apply Option.isSome_iff_exists.mpr
    refine ⟨r, ?_⟩
    -- the new champion's round is pinned
    have pinned : roundId ∈ RoundStore.pinned { m₃.rounds with activeChampion := snapshot } := by
      show roundId ∈ List.filterMap id _
      simp [snapshot, snapshotOf]
    unfold RoundStore.getRound RoundPersistence.evict
    split
    · exact RoundStore.evictRounds_pinned _ found pinned
    · exact found

theorem commit_allOrNothing (mainSha : String)
    (before : m.rounds.statusOf result.roundId = some .certified)
    (certified : ∀ r, m.rounds.getRound result.roundId = some r → r.status = .certified)
    (known : (m.subs.get submission.submissionId).isSome = true) :
    m.AllOrNothing (m.commitActivation env result submission mainSha) ↔
      m.CommitsWhole env result.roundId submission result.effectiveEpoch := by
  have here : (m.rounds.getRound result.roundId).isSome = true := by
    obtain ⟨r, found, _⟩ := Option.map_eq_some_iff.mp before
    exact Option.isSome_iff_exists.mpr ⟨r, found⟩
  unfold commitActivation CommitsWhole hotSwap
  by_cases frozen : env.frozenAtSwap = true
  · rw [if_pos frozen, if_pos frozen, Outcome.returns_andThen, mark_allOrNothing before certified]
    exact and_iff_left here
  · rw [if_neg frozen, if_neg frozen]
    cases prepareRuntime env submission result.effectiveEpoch with
    | error e =>
      refine iff_of_true ⟨?_, fun _ returned => by (cases returned)⟩ trivial
      intro _ _
      exact Unchanged.refl m
    | ok started =>
      cases started with
      | false =>
        dsimp only
        rw [Outcome.returns_andThen, mark_allOrNothing before certified]
        exact and_iff_left here
      | true =>
        dsimp only
        cases written : env.persistAdoption with
        | ok _ =>
          obtain ⟨m', swapped, shrinks, keeps⟩ := @commitSwap_returns env m submission
            result.effectiveEpoch result.roundId (some mainSha) known written
          rw [swapped, Outcome.returns_andThen, mark_allOrNothing before
            fun r found => certified r (shrinks.kept _ r found), shrinks.live, keeps]
        | error e =>
          have adopted : (m.subs.adopt submission.submissionId env.now).2 = true := known
          have raised : m.commitSwap env submission result.effectiveEpoch (some result.roundId)
              (some mainSha) = .raises { m with
                champion := championOf submission result.effectiveEpoch env.now
                subs := (m.subs.adopt submission.submissionId env.now).1 } e := by
            unfold commitSwap
            dsimp only
            rw [if_neg (by rw [adopted]; decide), written]
          have title := SubmissionStore.adoptedId_adopt env.now adopted
          rw [raised]
          constructor
          · intro all
            have same := all.1 e rfl
            exact ⟨same.memory.symm, same.adopted.symm.trans title⟩
          · rintro ⟨memory, holder⟩
            refine ⟨?_, fun _ returned => by (cases returned)⟩
            intro _ _
            exact ⟨memory.symm, rfl, title.trans holder.symm, fun _ => rfl⟩

theorem resetToBurn_shrinks (env : Surroundings) (m : EpochManager) :
    m.Shrinks (m.resetToBurn env) := by
  unfold resetToBurn
  dsimp only
  by_cases real : isRealMinerHotkey m.rounds.activeChampion.hotkey = true
  · obtain ⟨call, shrinks⟩ := @roundOp_champion env m (.setActiveChampion {} false)
      { m.rounds with activeChampion := {} } rfl rfl rfl
    rw [if_pos real, call]
    exact ⟨shrinks.live, shrinks.kept⟩
  · rw [if_neg real]
    exact ⟨rfl, fun _ _ found => found⟩

theorem allOrNothing_raises (e : PyError) : m.AllOrNothing (.raises m e) :=
  ⟨fun _ _ => Unchanged.refl m, fun _ returned => by (cases returned)⟩

theorem allOrNothing_returns (unchanged : result.championChanged = false) :
    m.AllOrNothing (.returns m result) := by
  refine ⟨fun _ raised => by (cases raised), ?_⟩
  intro _ returned changed
  cases returned
  rw [unchanged] at changed
  cases changed

theorem statusOf_of_found {round roundId} (found : m.rounds.getRound roundId = some round)
    (status : round.status = .certified) :
    m.rounds.statusOf roundId = some .certified ∧
      ∀ r, m.rounds.getRound roundId = some r → r.status = .certified := by
  constructor
  · rw [RoundStore.statusOf, show m.rounds.rounds.get? roundId = some round from found]
    exact congrArg some status
  · intro r here
    rw [found] at here
    rw [← Option.some.inj here, status]

theorem refused_allOrNothing {round : RoundState} (found : m.rounds.getRound result.roundId = some round)
    (status : round.status = .certified) (reason : String) :
    m.AllOrNothing (m.refuseActivation env result reason) ↔
      m.PathWhole env result.roundId (.refuses false) := by
  obtain ⟨before, certified⟩ := statusOf_of_found found status
  rw [refuse_allOrNothing before certified]
  simp [PathWhole, found]

theorem candidate_allOrNothing {round : RoundState} {certificate candidate roundId epoch}
    (found : m.rounds.getRound roundId = some round) (status : round.status = .certified)
    (known : m.subs.get candidate = some submission) (leaderChampionChanged : Option Bool) :
    m.AllOrNothing (m.activateCandidate env round certificate
      { roundId, epoch, effectiveEpoch := effectiveEpochOf round certificate epoch } candidate submission
        leaderChampionChanged) ↔
      m.PathWhole env roundId (candidatePath env round certificate roundId epoch candidate submission
        leaderChampionChanged) := by
  obtain ⟨before, certified⟩ := statusOf_of_found found status
  unfold activateCandidate candidatePath
  dsimp only
  split
  · split
    · exact iff_of_true (allOrNothing_returns rfl) trivial
    · exact refused_allOrNothing found status _
  · split
    · have shrinks := resetToBurn_shrinks env m
      rw [refuse_allOrNothing before fun r found => certified r (shrinks.kept _ r found), shrinks.live]
      simp [PathWhole]
    · apply commit_allOrNothing _ before certified
      rw [m.subs.keyed candidate submission known]
      exact Option.isSome_iff_exists.mpr ⟨submission, known⟩

end

end EpochManager

def besideOpenRound : EpochManager :=
  (certifiedManager.roundOp (dockerNode none) (.openNextRound 6 none)).state

end MinotaurSubnet.Epoch
