import MinotaurSubnet.Api.FollowerRounds
import MinotaurSubnet.Epoch.ActivationRecords

/-! # What an activation recorded of its champion

The activation writes the champion's round, epoch, time and main commit to the round store.
Every later reading of the current round builds the snapshot anew from the adopted submission and
overwrites the stored one where they differ.
-/

namespace MinotaurSubnet.Api

open Library Harness
open Epoch (EpochManager)

/-- What an activation records of a champion beside its solver. -/
structure Provenance where
  submissionId : Option String
  activatedRoundId : Option String
  activatedEpoch : Int
  activatedAt : ℚ
  canonicalMainSha : Option String
  deriving DecidableEq

def provenance (champion : ChampionSnapshot) : Provenance where
  submissionId := champion.submissionId
  activatedRoundId := champion.activatedRoundId
  activatedEpoch := champion.activatedEpoch
  activatedAt := champion.activatedAt
  canonicalMainSha := champion.canonicalMainSha

inductive QuietCall where
  | getCurrentSolverRound (env : Epoch.Surroundings) (epochHint : Int)
  | syncRoundIncumbent (env : Epoch.Surroundings)
  /-- A call on the round store that is handed no champion but the standing one. -/
  | rounds (env : Epoch.Surroundings) (op : RoundStore.Op)
  /-- The submission store changes: a new submission, a status, a score. -/
  | submissions (subs : SubmissionStore)

namespace QuietCall

def step (m : EpochManager) : QuietCall → EpochManager × Unit
  | .getCurrentSolverRound env epochHint => ((Api.getCurrentSolverRound env m epochHint).state, ())
  | .syncRoundIncumbent env => ((syncRoundIncumbentFromSubmissionStore env m).state, ())
  | .rounds env op => ((m.roundOp env op).state, ())
  | .submissions subs => ({ m with subs }, ())

/-- The incumbents that the callers of an opening pass: none, the standing champion, or
    `_get_incumbent_snapshot`. -/
def StandingIncumbent (m : EpochManager) (incumbent : Option ChampionSnapshot) : Prop :=
  incumbent = none ∨ incumbent = some m.rounds.activeChampion ∨ incumbent = m.getIncumbentSnapshot

def QuietOp (m : EpochManager) : RoundStore.Op → Prop
  | .setActiveChampion _ _ => False
  | .ensureOpenRound _ incumbent | .openNextRound _ incumbent => StandingIncumbent m incumbent
  | .adoptRound _ _ _ incumbent _ => incumbent = none
  | _ => True

def Quiet (m : EpochManager) : QuietCall → Prop
  | .rounds _ op => QuietOp m op
  | _ => True

def Reads : QuietCall → Prop
  | .getCurrentSolverRound _ _ | .syncRoundIncumbent _ => True
  | _ => False

end QuietCall

def SubmissionAgrees (recorded : Provenance) (m : EpochManager) : Prop :=
  ∀ adopted, m.subs.getChampion = some adopted →
    recorded.submissionId = some adopted.submissionId ∧ recorded.activatedRoundId = some adopted.roundId ∧
      recorded.activatedEpoch = adopted.epoch ∧ recorded.activatedAt = adopted.updatedAt ∧
      recorded.canonicalMainSha = none

section

variable {m : EpochManager} {env : Epoch.Surroundings} {recorded : Provenance}

theorem submissionAgrees_iff : SubmissionAgrees recorded m ↔
    ∀ adopted, m.subs.getChampion = some adopted →
      provenance (submissionToChampionSnapshot adopted) = recorded := by
  apply forall₂_congr
  intro adopted _
  obtain ⟨submissionId, roundId, epoch, at_, sha⟩ := recorded
  simp only [provenance, submissionToChampionSnapshot, Provenance.mk.injEq, eq_comm]

theorem standingIncumbent_getD (standing : truthy m.rounds.activeChampion.submissionId = true)
    {incumbent} (quiet : QuietCall.StandingIncumbent m incumbent) :
    incumbent.getD m.rounds.activeChampion = m.rounds.activeChampion := by
  rcases quiet with rfl | rfl | rfl
  · rfl
  · rfl
  · unfold EpochManager.getIncumbentSnapshot
    rw [if_pos standing]
    rfl

theorem activeChampion_modifyRound {s s' : RoundStore} {roundId} {f : RoundState → RoundState}
    (ran : (s.modifyRound roundId f).map some = .ok (some s')) :
    s'.activeChampion = s.activeChampion := by
  unfold RoundStore.modifyRound at ran
  split at ran
  · cases ran
  · cases ran
    rfl

theorem activeChampion_modifyCurrent (s : RoundStore) (f : RoundState → RoundState) :
    (s.modifyCurrent f).activeChampion = s.activeChampion := by
  unfold RoundStore.modifyCurrent
  split <;> rfl

theorem activeChampion_ensureOpenRound {s openedEpoch incumbent now}
    (kept : incumbent.getD m.rounds.activeChampion = m.rounds.activeChampion)
    (opened : m.rounds.ensureOpenRound openedEpoch incumbent now = some s) :
    s.activeChampion = m.rounds.activeChampion := by
  unfold RoundStore.ensureOpenRound at opened
  split at opened
  · cases incumbent with
    | none => cases opened
    | some champion =>
      cases opened
      exact kept
  · cases opened
    exact kept

theorem activeChampion_run {s : RoundStore} {now op}
    (standing : truthy m.rounds.activeChampion.submissionId = true) (quiet : QuietCall.QuietOp m op)
    (ran : m.rounds.run now op = .ok (some s)) : s.activeChampion = m.rounds.activeChampion := by
  cases op with
  | setActiveChampion champion syncOpenRound => cases quiet
  | setPreviousChampion champion =>
    cases ran
    rfl
  | setChampionAdoptionBar =>
    cases ran
    rfl
  | ensureOpenRound openedEpoch incumbent =>
    exact activeChampion_ensureOpenRound (standingIncumbent_getD standing quiet) (Except.ok.inj ran)
  | openNextRound openedEpoch incumbent =>
    simp only [RoundStore.run, RoundStore.openNextRound] at ran
    split at ran
    · cases ran
    · exact activeChampion_ensureOpenRound (standingIncumbent_getD standing quiet)
        (Except.ok.inj ran)
  | adoptRound roundId openedEpoch status incumbent fields =>
    obtain rfl : incumbent = none := quiet
    cases ran
    unfold RoundStore.adoptRoundWith RoundStore.supersede
    split
    · split <;> rfl
    · rfl
  | closeCurrentRound updates =>
    simp only [RoundStore.run, RoundStore.closeCurrentRound] at ran
    split at ran
    · cases ran
    · cases ran
      rfl
  | setRoundStatus roundId status => exact activeChampion_modifyRound ran
  | setRoundVetoObserve roundId =>
    simp only [RoundStore.run] at ran
    split at ran
    · cases ran
      rfl
    · cases ran
  | setRoundFinalist roundId submissionId imageId shadowCaseLogHash =>
    simp only [RoundStore.run, RoundStore.setRoundFinalist] at ran
    split at ran
    · cases ran
    · cases ran
      rfl
  | setRoundForkPins roundId pins =>
    simp only [RoundStore.run, RoundStore.setRoundForkPins] at ran
    split at ran
    · cases ran
    · split at ran
      · split at ran
        · cases ran
          rfl
        · cases ran
      · cases ran
        rfl
  | certifyRound roundId certificate =>
    simp only [RoundStore.run, RoundStore.certifyRound] at ran
    split at ran
    · cases ran
    · cases ran
      rfl
  | activateRound roundId effectiveEpoch => exact activeChampion_modifyRound ran
  | abortRound roundId reason => exact activeChampion_modifyRound ran
  | markSelfVerified roundId submissionId => exact activeChampion_modifyRound ran
  | setBenchedSlate roundId submissionIds => exact activeChampion_modifyRound ran

theorem activeChampion_roundOp {op} (standing : truthy m.rounds.activeChampion.submissionId = true)
    (quiet : QuietCall.QuietOp m op) :
    (m.roundOp env op).state.rounds.activeChampion = m.rounds.activeChampion := by
  rcases m.roundOp_cases env op with ⟨e, raised, -⟩ | ⟨untouched, -⟩ | ⟨s, changed, ran⟩
  · rw [raised]
    rfl
  · rw [untouched]
    rfl
  · rw [changed]
    exact (RoundStore.activeChampion_evict _ _).trans (activeChampion_run standing quiet ran)

def rederived (m : EpochManager) : ChampionSnapshot :=
  (m.subs.getChampion.map submissionToChampionSnapshot).getD m.rounds.activeChampion

theorem activeChampion_setActiveChampion (s : RoundStore) (champion : ChampionSnapshot)
    (syncOpenRound : Bool) : (s.setActiveChampion champion syncOpenRound).activeChampion = champion := by
  unfold RoundStore.setActiveChampion
  dsimp only
  split
  · exact activeChampion_modifyCurrent _ _
  · rfl

theorem syncRoundIncumbent_spec (env : Epoch.Surroundings) (m : EpochManager) :
    ∃ rounds, rounds.activeChampion = rederived m ∧
      syncRoundIncumbentFromSubmissionStore env m = .returns { m with rounds } (rederived m) := by
  unfold syncRoundIncumbentFromSubmissionStore rederived
  cases m.subs.getChampion with
  | none => exact ⟨m.rounds, rfl, rfl⟩
  | some adopted =>
    dsimp only [Option.map_some, Option.getD_some]
    split
    · next same => exact ⟨m.rounds, same.symm, rfl⟩
    · refine ⟨_, ?_, rfl⟩
      exact (RoundStore.activeChampion_evict _ _).trans (activeChampion_setActiveChampion _ _ _)

theorem activeChampion_ensureOpenRound_standing {epochHint} :
    (m.roundOp env (.ensureOpenRound epochHint (some m.rounds.activeChampion))).state.rounds.activeChampion =
      m.rounds.activeChampion := by
  rcases m.roundOp_cases env (.ensureOpenRound epochHint (some m.rounds.activeChampion)) with
    ⟨e, raised, -⟩ | ⟨untouched, -⟩ | ⟨s, changed, ran⟩
  · rw [raised]
    rfl
  · rw [untouched]
    rfl
  · rw [changed]
    have kept := activeChampion_ensureOpenRound rfl (Except.ok.inj ran)
    exact (RoundStore.activeChampion_evict _ _).trans kept

theorem activeChampion_getCurrentSolverRound (env : Epoch.Surroundings) (m : EpochManager)
    (epochHint : Int) :
    (getCurrentSolverRound env m epochHint).state.rounds.activeChampion = rederived m := by
  obtain ⟨rounds, same, synced⟩ := syncRoundIncumbent_spec env m
  unfold getCurrentSolverRound
  rw [synced, Outcome.andThen_of_ok rfl, Outcome.state_returns, ← same]
  cases rounds.getCurrentRound with
  | some current => rfl
  | none =>
    apply Outcome.andThen_state (fun m' : EpochManager => m'.rounds.activeChampion = rounds.activeChampion)
    · exact activeChampion_ensureOpenRound_standing
    · intro _ _ kept
      split <;> exact kept

theorem provenance_rederived (held : provenance m.rounds.activeChampion = recorded) :
    provenance (rederived m) = recorded ↔ SubmissionAgrees recorded m := by
  rw [submissionAgrees_iff]
  unfold rederived
  cases m.subs.getChampion with
  | none => simpa using held
  | some adopted => simp

theorem activeChampion_step {call} (standing : truthy m.rounds.activeChampion.submissionId = true)
    (quiet : QuietCall.Quiet m call) (silent : ¬ QuietCall.Reads call) :
    (QuietCall.step m call).1.rounds.activeChampion = m.rounds.activeChampion := by
  cases call with
  | getCurrentSolverRound env epochHint => exact absurd trivial silent
  | syncRoundIncumbent env => exact absurd trivial silent
  | rounds env op => exact activeChampion_roundOp standing quiet
  | submissions subs => rfl

theorem activeChampion_reading {call} (reads : QuietCall.Reads call) :
    (QuietCall.step m call).1.rounds.activeChampion = rederived m := by
  cases call with
  | getCurrentSolverRound env epochHint => exact activeChampion_getCurrentSolverRound env m epochHint
  | syncRoundIncumbent env =>
    obtain ⟨rounds, same, synced⟩ := syncRoundIncumbent_spec env m
    show (syncRoundIncumbentFromSubmissionStore env m).state.rounds.activeChampion = _
    rw [synced]
    exact same
  | rounds env op => cases reads
  | submissions subs => cases reads

theorem provenance_step {call} (named : truthy recorded.submissionId = true)
    (held : provenance m.rounds.activeChampion = recorded) (quiet : QuietCall.Quiet m call) :
    provenance (QuietCall.step m call).1.rounds.activeChampion = recorded ↔
      (QuietCall.Reads call → SubmissionAgrees recorded m) := by
  by_cases reads : QuietCall.Reads call
  · rw [activeChampion_reading reads, provenance_rederived held]
    exact ⟨fun agrees _ => agrees, fun agrees => agrees reads⟩
  · have standing : truthy m.rounds.activeChampion.submissionId = true := by
      rw [← named, ← held]
      rfl
    rw [activeChampion_step standing quiet reads]
    exact iff_of_true held fun read => absurd read reads

end

/-- After every part of a run of quiet calls, the round store holds what was recorded of the
    champion, exactly when each reading on the way finds an adopted submission that says the
    same. -/
theorem champion_record_survives_iff {m : EpochManager} {recorded : Provenance} {calls : List QuietCall}
    (named : truthy recorded.submissionId = true)
    (activated : provenance m.rounds.activeChampion = recorded)
    (quiet : AllowedAlong QuietCall.step QuietCall.Quiet m calls) :
    (∀ before after, calls = before ++ after →
      provenance (runEvents QuietCall.step m before).rounds.activeChampion = recorded) ↔
    AllowedAlong QuietCall.step (fun m call => QuietCall.Reads call → SubmissionAgrees recorded m)
      m calls := by
  induction calls generalizing m with
  | nil =>
    refine iff_of_true ?_ trivial
    intro before after split
    obtain rfl : before = [] := (List.append_eq_nil_iff.mp split.symm).1
    exact activated
  | cons call rest ih =>
    have first := provenance_step named activated quiet.1
    constructor
    · intro kept
      have here := kept [call] rest rfl
      refine ⟨first.mp here, (ih here quiet.2).mp ?_⟩
      intro before after split
      exact kept (call :: before) after (congrArg (call :: ·) split)
    · rintro ⟨agrees, later⟩ before after split
      cases before with
      | nil => exact activated
      | cons head before =>
        obtain ⟨rfl, same⟩ := List.cons_eq_cons.mp split
        exact (ih (first.mpr agrees) quiet.2).mpr later before after same

def adoptedAtBoundary : EpochManager :=
  let submission := { Epoch.challenger with epoch := 6 }
  (EpochManager.commitSwap (Epoch.dockerNode none) { subs := SubmissionStore.empty.put submission }
    submission 6 (some "round-e5-n1") none).state

def closingBetweenReads : List QuietCall :=
  [.getCurrentSolverRound (Epoch.dockerNode none) 6,
    .rounds (Epoch.dockerNode none) (.closeCurrentRound { closeEpoch := some 7 }),
    .syncRoundIncumbent (Epoch.dockerNode none)]

theorem champion_record_survives_boundary :
    AllowedAlong QuietCall.step QuietCall.Quiet adoptedAtBoundary closingBetweenReads ∧
    ∀ before after, closingBetweenReads = before ++ after →
      provenance (runEvents QuietCall.step adoptedAtBoundary before).rounds.activeChampion =
        ⟨some "sub-1", some "round-e5-n1", 6, 600, none⟩ := by
  have quiet : AllowedAlong QuietCall.step QuietCall.Quiet adoptedAtBoundary closingBetweenReads :=
    ⟨trivial, trivial, trivial, trivial⟩
  refine ⟨quiet, (champion_record_survives_iff rfl (by decide +kernel) quiet).mpr ?_⟩
  have agrees : ∀ m : EpochManager, m.subs.getChampion = adoptedAtBoundary.subs.getChampion →
      SubmissionAgrees ⟨some "sub-1", some "round-e5-n1", 6, 600, none⟩ m := by
    intro m same
    rw [submissionAgrees_iff, same]
    intro adopted found
    have known : adoptedAtBoundary.subs.getChampion.map
        (fun sub => provenance (submissionToChampionSnapshot sub)) =
          some ⟨some "sub-1", some "round-e5-n1", 6, 600, none⟩ := by decide +kernel
    rw [found] at known
    exact Option.some.inj known
  refine ⟨fun _ => agrees _ rfl, ?_, fun _ => agrees _ ?_, trivial⟩
  · intro reads
    cases reads
  · decide +kernel

def activatedManager : EpochManager :=
  (Epoch.ManagerCall.run (Epoch.dockerNode (some "sha256:aa")) Epoch.certifiedManager
    (.activateCertifiedRound "round-e5-n1" 6 none)).state

/-- One look at the current round resets the epoch and drops the main commit. -/
theorem reading_resets_activation :
    provenance activatedManager.rounds.activeChampion =
      ⟨some "sub-1", some "round-e5-n1", 6, 600, some ""⟩ ∧
    provenance (runEvents QuietCall.step activatedManager
        [.getCurrentSolverRound (Epoch.dockerNode none) 6]).rounds.activeChampion =
      ⟨some "sub-1", some "round-e5-n1", 0, 600, none⟩ := by
  constructor <;> decide +kernel

end MinotaurSubnet.Api
