import MinotaurSubnet.Api.FollowerActivation
import MinotaurSubnet.Api.RoundTurns
import MinotaurSubnet.Epoch.SettledTurns

/-! # Orderly round calls

A call that waits relies on the status of its round. In an orderly run no request that could
change that status is handled meanwhile, no settled round is evaluated again, and neither a
reopened intake nor a leader's message brings back an id that is taken. Then each turn leaves
what the waiting calls rely on, by the guards that the calls have passed before they wait.
-/

namespace MinotaurSubnet.Api

open Library Python Consensus Harness
open Epoch (EpochManager EvaluationStage EvaluationSteps EvaluationVerdict ActivationStage
  ActivationResult ActivationVerdict ReopensUnused Undecided)

namespace RoundStage

def roundId : RoundStage → String
  | .evaluating roundId _ _ => roundId
  | .preparing body _ _ | .proposing body => body.roundId
  | .activating stage => stage.roundId

def Proposes : RoundStage → Prop
  | .proposing _ => True
  | _ => False

/-- The statuses that the rest of the call is made for. -/
def Statuses : RoundStage → RoundStatus → Prop
  | .evaluating _ _ _ | .preparing _ _ _ => Undecided
  | .proposing _ => fun st => st = .certifying ∨ st = .certified
  | .activating _ => (· = .certified)

def Standing (stage : RoundStage) (m : EpochManager) : Prop :=
  m.rounds.StatusIn stage.roundId stage.Statuses

/-- Only quorums may be asked side by side about one round. -/
def Apart (a b : RoundStage) : Prop := a.roundId = b.roundId → a.Proposes ∧ b.Proposes

end RoundStage

namespace RoundRequest

def about : RoundRequest → Option String
  | .evaluate roundId _ => some roundId
  | .certify body => some body.roundId
  | .activate body => some body.roundId
  | .abort body => some body.roundId
  | .deadline current => some current.roundId
  | .close _ _ _ | .elsewhere _ _ => none

def Disturbs : RoundRequest → RoundStage → Prop
  | .evaluate _ _, .activating _ | .abort _, .activating _ | .deadline _, .activating _ => False
  | .evaluate _ _, _ | .abort _, _ | .deadline _, _ => True
  | .certify _, .evaluating _ _ _ | .certify _, .preparing _ _ _ => True
  | .activate _, .proposing _ | .activate _, .activating _ => True
  | _, _ => False

/-- The request could change the status that a waiting call about its round relies on, or wait for
    the same. -/
def Clashes (request : RoundRequest) (stage : RoundStage) : Prop :=
  request.about = some stage.roundId ∧ request.Disturbs stage

end RoundRequest

section

variable (taken : List String) (at_ : Moment) (m : EpochManager)

def AdoptsUnused (roundId : String) : Prop := adoptsRound m.rounds roundId = true → roundId ∉ taken

/-- The close of a round that is open, or not known here, opens a round where there is no current one. -/
def CloseSound (body : CloseRoundRequest) : Prop :=
  let roundId := body.roundId.getD ""
  (m.rounds.getRound roundId).all (·.status = .open) →
    AdoptsUnused taken m roundId ∧
    (adoptsRound m.rounds roundId = false →
      ∀ s, m.rounds.RewrittenTo at_.env.persistence at_.env.now none s → s.getCurrentRound = none →
        s.buildRoundId body.closeEpoch ∉ taken)

def CertifySound (body : CertifyRoundRequest) : Prop :=
  isCertified m body.roundId = false →
    AdoptsUnused taken m body.roundId ∧
    let read := findRoundToCertify at_ m body
    ∀ found : UnevaluatedRound, read.result = .ok found.round →
      (strOr body.candidateSubmissionId none).bind read.state.subs.get = none → at_.evaluates = true →
        ReopensUnused taken at_.env body.roundId found.epoch read.state.rounds

def ActivateSound (body : ActivateRoundRequest) : Prop :=
  ∀ round certificate candidate, m.rounds.getRound body.roundId = some round →
    Epoch.certifiedCandidate round = some (certificate, candidate) →
      let effectiveEpoch := Epoch.effectiveEpochOf round certificate body.activationEpoch
      ActivationResult.ReopensUnused taken at_.env
        { roundId := body.roundId, epoch := body.activationEpoch, effectiveEpoch } m.rounds

def RequestSound : RoundRequest → Prop
  | .evaluate roundId epoch => (∀ r ∈ m.rounds.getRound roundId, r.status.settled = false) ∧
      ReopensUnused taken at_.env roundId epoch m.rounds
  | .close _ _ body => CloseSound taken at_ m body
  | .certify body => CertifySound taken at_ m body
  | .activate body => ActivateSound taken at_ m body
  | .abort _ | .deadline _ | .elsewhere _ _ => True

def StageSound : RoundStage → Prop
  | .evaluating roundId epoch _ => ReopensUnused taken at_.env roundId epoch m.rounds
  | .preparing body found _ => ReopensUnused taken at_.env body.roundId found.epoch m.rounds
  | .proposing _ => True
  | .activating stage => stage.candidacy.result.ReopensUnused taken at_.env m.rounds

end

namespace RoundHistory

/-- The ids of the rounds that have been settled here, and of those that a waiting call is about. -/
def taken (h : RoundHistory) : List String := h.settled ++ h.calls.stages.map RoundStage.roundId

def Orderly (h : RoundHistory) : RoundSchedule → Prop
  | .start (request, at_) => (∀ stage ∈ h.calls.stages, ¬ request.Clashes stage) ∧
      RequestSound h.taken at_ h.calls.shared request
  | .resume i at_ => ∀ stage, h.calls.stages[i]? = some stage → StageSound h.taken at_ h.calls.shared stage

end RoundHistory

section

variable {host : Host} {at_ : Moment} {m : EpochManager} {taken : List String} {roundId : String}
  {P : RoundStatus → Prop}

/-- What keeps a request from writing a status outside `P` on the round. -/
def RoundRequest.Spares (m : EpochManager) (roundId : String) (P : RoundStatus → Prop) : RoundRequest → Prop
  | .evaluate key _ => key = roundId → m.rounds.getRound key = none
  | .certify body => body.roundId = roundId → ∀ r ∈ m.rounds.getRound roundId,
      r.status.settled = true ∨ r.status = .certifying ∧ P .certified
  | .activate body => body.roundId = roundId → ∀ r ∈ m.rounds.getRound roundId,
      r.status = .certified → P .activated ∧ P .aborted
  | .abort body => body.roundId = roundId → ∀ r ∈ m.rounds.getRound roundId, r.status.settled = true
  | .deadline current => current.roundId = roundId → ∀ r ∈ m.rounds.getRound roundId, r.status.settled = true
  | .close _ _ _ | .elsewhere _ _ => True

def RoundStage.Spares (m : EpochManager) (roundId : String) (P : RoundStatus → Prop) : RoundStage → Prop
  | .evaluating key _ _ => key = roundId → m.rounds.getRound key = none
  | .preparing body _ _ => body.roundId = roundId → m.rounds.getRound body.roundId = none
  | .proposing body => body.roundId = roundId → ∀ _ ∈ m.rounds.getRound roundId, P .certified
  | .activating stage => stage.roundId = roundId → ∀ _ ∈ m.rounds.getRound roundId, P .activated ∧ P .aborted

theorem statusIn_false : m.rounds.StatusIn roundId (fun _ => False) ↔ m.rounds.getRound roundId = none :=
  ⟨fun within => Option.eq_none_iff_forall_not_mem.mpr within,
    fun absent _ found => by cases absent.symm.trans found⟩

theorem handled_statusIn {Stage : Type} {place : Stage → RoundStage} {t}
    (turn : t.state.rounds.StatusIn roundId P) :
    (handled place t).state.rounds.StatusIn roundId P :=
  Turn.within_state (fun m' : EpochManager => m'.rounds.StatusIn roundId P) turn fun _ kept => kept

theorem abort_statusIn (within : m.rounds.StatusIn roundId P) (body : AbortRoundRequest)
    (spares : RoundRequest.Spares m roundId P (.abort body)) :
    (syncAbortSolverRoundState at_.env m body).state.rounds.StatusIn roundId P := by
  have aborts : ∀ r, m.rounds.getRound body.roundId = some r → r.status ≠ .activated →
      r.status ≠ .certified →
      (m.roundOp at_.env (.abortRound body.roundId body.reason)).state.rounds.StatusIn roundId P := by
    intro r found unactivated uncertified
    apply EpochManager.writeStatus_statusIn within
    · trivial
    · exact rfl
    rintro r' read rfl
    cases found.symm.trans read
    have standing : P r.status := within r found
    have closed := spares rfl r found
    cases status : r.status <;> simp_all [RoundStatus.settled]
  unfold syncAbortSolverRoundState
  split
  · exact within
  · next r found =>
    split
    · next aborted =>
      split
      · exact aborts r found (by simp [aborted]) (by simp [aborted])
      · exact within
    · exact within
    · exact within
    · next unactivated uncertified => exact aborts r found unactivated uncertified

theorem deadline_statusIn (within : m.rounds.StatusIn roundId P) (current : RoundState)
    (spares : RoundRequest.Spares m roundId P (.deadline current)) :
    (maybeAbortExpiredRound at_ m current).state.rounds.StatusIn roundId P := by
  unfold maybeAbortExpiredRound
  split
  · exact abort_statusIn within _ spares
  · exact within

theorem syncRoundIncumbent_rewritten : m.rounds.RewrittenTo at_.env.persistence at_.env.now none
    (syncRoundIncumbentFromSubmissionStore at_.env m).state.rounds := by
  unfold syncRoundIncumbentFromSubmissionStore
  split
  · exact .refl
  · dsimp only
    split
    · exact .refl
    · rw [Outcome.state_andThen_returns, roundCall_state]
      exact EpochManager.roundOp_rewritten trivial

theorem ensureOpenRound_statusIn (within : m.rounds.StatusIn roundId P) {epoch incumbent}
    (unused : m.rounds.buildRoundId epoch ≠ roundId) :
    (m.roundOp at_.env (.ensureOpenRound epoch incumbent)).state.rounds.StatusIn roundId P := by
  obtain ⟨e, call, _⟩ | ⟨call, _⟩ | ⟨s, call, ran⟩ :=
    EpochManager.roundOp_cases at_.env m (.ensureOpenRound epoch incumbent)
  · rw [call]
    exact within
  · rw [call]
    exact within
  · rw [call]
    apply RoundStore.StatusIn.evict
    exact RoundStore.ensureOpenRound_statusIn within (fun _ => unused) (Except.ok.inj ran)

theorem getCurrentSolverRound_spec (within : m.rounds.StatusIn roundId P) (member : roundId ∈ taken)
    {epochHint : Int}
    (unused : ∀ s, m.rounds.RewrittenTo at_.env.persistence at_.env.now none s →
      s.getCurrentRound = none → s.buildRoundId epochHint ∉ taken) :
    (getCurrentSolverRound at_.env m epochHint).state.rounds.StatusIn roundId P ∧
      ∀ current, (getCurrentSolverRound at_.env m epochHint).result = .ok current →
        (getCurrentSolverRound at_.env m epochHint).state.rounds.getCurrentRound = some current := by
  have synced : (syncRoundIncumbentFromSubmissionStore at_.env m).state.rounds.StatusIn roundId P :=
    within.rewritten (by simp) syncRoundIncumbent_rewritten
  unfold getCurrentSolverRound
  cases incumbent : (syncRoundIncumbentFromSubmissionStore at_.env m).result with
  | error e =>
    rw [Outcome.andThen_of_error incumbent]
    exact ⟨synced, fun current ended => by cases ended⟩
  | ok snapshot =>
    rw [Outcome.andThen_of_ok incumbent]
    split
    · next current found =>
      refine ⟨synced, ?_⟩
      rintro read ended
      cases ended
      exact found
    · next missing =>
      have opened : (roundCall at_.env (syncRoundIncumbentFromSubmissionStore at_.env m).state
          (.ensureOpenRound epochHint (some snapshot))).state.rounds.StatusIn roundId P := by
        apply ensureOpenRound_statusIn synced
        rintro rfl
        exact unused _ syncRoundIncumbent_rewritten missing member
      cases called : (roundCall at_.env (syncRoundIncumbentFromSubmissionStore at_.env m).state
          (.ensureOpenRound epochHint (some snapshot))).result with
      | error e =>
        rw [Outcome.andThen_of_error called]
        exact ⟨opened, fun current ended => by cases ended⟩
      | ok u =>
        rw [Outcome.andThen_of_ok called]
        split
        · next current found =>
          refine ⟨opened, ?_⟩
          rintro read ended
          cases ended
          exact found
        · exact ⟨opened, fun current ended => by cases ended⟩

theorem closeSolverRoundState_statusIn (within : m.rounds.StatusIn roundId P)
    (unopened : ¬ P .open) (member : roundId ∈ taken) {node : ChampionNode}
    {consensus : ChampionState} {body : CloseRoundRequest}
    (unused : ∀ s, m.rounds.RewrittenTo at_.env.persistence at_.env.now none s →
      s.getCurrentRound = none → s.buildRoundId body.closeEpoch ∉ taken) :
    (closeSolverRoundState host node consensus at_.env m body).state.rounds.StatusIn roundId P := by
  obtain ⟨kept, current⟩ := getCurrentSolverRound_spec within member unused
  unfold closeSolverRoundState
  apply Outcome.andThen_state (fun m' : EpochManager => m'.rounds.StatusIn roundId P) kept
  intro round ended' _
  dsimp only
  split
  · exact kept
  · split
    · exact kept
    · next live =>
      rw [roundCall_state]
      obtain ⟨e, call, _⟩ | ⟨call, _⟩ | ⟨s, call, ran⟩ := EpochManager.roundOp_cases at_.env
        (getCurrentSolverRound at_.env m body.closeEpoch).state (.closeCurrentRound { body.updates with
          committeeHash := body.committeeHash <|> some (committeeHash host node consensus)
          quorumRequired := body.updates.quorumRequired <|> some (node.quorumRequired host consensus) })
      · rw [call]
        exact kept
      · rw [call]
        exact kept
      · rw [call]
        apply RoundStore.StatusIn.evict
        obtain ⟨⟨s', closed⟩, closes, same⟩ := map_eq_ok.mp ran
        cases same
        exact RoundStore.closeCurrentRound_statusIn kept unopened (current round ended')
          (not_not.mp live) closes

theorem close_statusIn (within : m.rounds.StatusIn roundId P) (unopened : ¬ P .open)
    (member : roundId ∈ taken) {node consensus body} (sound : CloseSound taken at_ m body) :
    (syncCloseSolverRoundState host node consensus at_.env m body).state.rounds.StatusIn roundId P := by
  unfold syncCloseSolverRoundState
  dsimp only
  split
  · exact within
  · next fresh =>
    have fresh : (m.rounds.getRound (body.roundId.getD "")).all (·.status = .open) = true := by
      cases found : m.rounds.getRound (body.roundId.getD "") with
      | none => rfl
      | some r => simpa [found] using fresh
    obtain ⟨unadopted, unused⟩ := sound fresh
    split
    · exact within
    · next s adopts =>
      have kept : s.StatusIn roundId P := by
        apply adoptLeaderRoundIfBehind_statusIn within unopened _ adopts
        rintro adopting rfl
        exact unadopted adopting member
      split
      · exact kept.evict at_.env.persistence
      · next known =>
        apply closeSolverRoundState_statusIn
        · exact within
        · exact unopened
        · exact member
        · apply unused
          exact Bool.eq_false_iff.mpr fun adopting => known (known_of_adoptsRound adopting adopts)

theorem askForCertificate_status {context round body asked}
    (admitted : askForCertificate host context round body = .ok asked) :
    round.status = .certifying ∨ round.status = .certified := by
  obtain ⟨proposal, admitted, _⟩ := bind_eq_ok.mp admitted
  obtain ⟨_, status, _⟩ := bind_eq_ok.mp admitted
  simpa using ensure_eq_ok.mp status

variable {body : CertifyRoundRequest}

theorem certifyRoundState_statusIn (within : m.rounds.StatusIn roundId P) {round : RoundState}
    (certified : body.roundId = roundId → round.status = .certifying ∨ round.status = .certified → P .certified) :
    (certifyRoundState host at_ m round body).state.rounds.StatusIn roundId P := by
  unfold certifyRoundState
  split
  · exact within
  · exact within
  · next certificate admitted =>
    apply EpochManager.writeStatus_statusIn within
    · trivial
    · exact rfl
    intro r _ same
    exact certified same (askForCertificate_status admitted)

theorem absent_of_rewritten {s key} (absent : m.rounds.getRound roundId = none)
    (other : key ≠ some roundId)
    (rewritten : m.rounds.RewrittenTo at_.env.persistence at_.env.now key s) :
    s.getRound roundId = none :=
  Option.eq_none_iff_forall_not_mem.mpr
    (RoundStore.StatusIn.rewritten (statusIn_false.mpr absent) other rewritten)

theorem stale (found : UnevaluatedRound) :
    ¬ (found.round.status = .certifying ∨ found.round.status = .certified) := by
  obtain closed | replaying := found.unevaluated
  · simp [closed]
  · simp [replaying]

theorem certifyRoundState_waits {m' round body stage}
    (waits : certifyRoundState host at_ m round body = .waits m' stage) :
    m' = m ∧ stage = .proposing body ∧ (round.status = .certifying ∨ round.status = .certified) := by
  unfold certifyRoundState at waits
  split at waits
  · cases waits
  · next admitted =>
    obtain ⟨rfl, rfl⟩ := Turn.waits.inj waits
    exact ⟨rfl, rfl, askForCertificate_status admitted⟩
  · cases waits

theorem afterEvaluation_statusIn {evaluated} (within : evaluated.state.rounds.StatusIn roundId P)
    (found : UnevaluatedRound) (body : CertifyRoundRequest)
    (absent : body.roundId = roundId → evaluated.state.rounds.getRound body.roundId = none) :
    (afterEvaluation host at_ found.round body evaluated).state.rounds.StatusIn roundId P := by
  apply certifyRoundState_statusIn within
  intro same asked
  split at asked
  · rw [absent same] at asked
    exact absurd asked (stale found)
  · exact absurd asked (stale found)

variable {stage : RoundStage}

theorem afterEvaluation_waits {evaluated} {found : UnevaluatedRound} {body m'}
    (waits : afterEvaluation host at_ found.round body evaluated = .waits m' stage) :
    stage.Standing m' ∧ stage = .proposing body := by
  obtain ⟨rfl, rfl, asked⟩ := certifyRoundState_waits waits
  refine ⟨?_, rfl⟩
  split at asked
  · intro r read
    rw [show evaluated.state.rounds.getRound body.roundId = some r from read] at asked
    exact asked
  · exact absurd asked (stale found)

/-- The evaluation inside a certification leaves a round that is not known here unknown. -/
theorem preparing_statusIn {t : Turn EpochManager EvaluationStage PyError} (found : UnevaluatedRound)
    (body : CertifyRoundRequest) (turn : t.state.rounds.StatusIn roundId P)
    (absent : body.roundId = roundId → t.state.rounds.StatusIn roundId fun _ => False) :
    (t.within (.preparing body found) (afterEvaluation host at_ found.round body)).state.rounds.StatusIn
      roundId P := by
  cases t with
  | waits s stage => exact turn
  | ends evaluated =>
    apply afterEvaluation_statusIn turn
    rintro rfl
    exact statusIn_false.mp (absent rfl)

theorem preparing_waits {t : Turn EpochManager EvaluationStage PyError} (found : UnevaluatedRound)
    {m' : EpochManager}
    (standing : ∀ s waiting, t = .waits s waiting → s.rounds.StatusIn body.roundId Undecided)
    (waits : t.within (.preparing body found) (afterEvaluation host at_ found.round body) = .waits m' stage) :
    stage.Standing m' ∧ (stage = .proposing body ∨ ∃ waiting, stage = .preparing body found waiting) := by
  cases t with
  | waits s waiting =>
    obtain ⟨rfl, rfl⟩ := Turn.waits.inj waits
    exact ⟨standing s waiting rfl, .inr ⟨waiting, rfl⟩⟩
  | ends evaluated =>
    obtain ⟨stands, same⟩ := afterEvaluation_waits waits
    exact ⟨stands, .inl same⟩

theorem findRoundToCertify_read {body} (unadopted : AdoptsUnused taken m body.roundId) :
    (∀ round, (findRoundToCertify at_ m body).result = .ok round →
      (findRoundToCertify at_ m body).state.rounds.getRound body.roundId = some round) ∧
    (body.roundId ∈ taken → (findRoundToCertify at_ m body).state = m) := by
  unfold findRoundToCertify
  split
  · exact ⟨(fun round found => by cases found), fun _ => rfl⟩
  · dsimp only
    split
    · exact ⟨(fun round found => by cases found),
        fun known => if_neg fun adopts => unadopted adopts known⟩
    · next read =>
      refine ⟨fun round found => ?_, fun known => if_neg fun adopts => unadopted adopts known⟩
      cases found
      exact read

theorem findRoundToCertify_statusIn (within : m.rounds.StatusIn roundId P) (unopened : ¬ P .open)
    (member : roundId ∈ taken) {body} (unadopted : AdoptsUnused taken m body.roundId) :
    (findRoundToCertify at_ m body).state.rounds.StatusIn roundId P := by
  unfold findRoundToCertify
  split
  · exact within
  · next s adopts =>
    have kept : s.StatusIn roundId P := by
      apply adoptLeaderRoundIfBehind_statusIn within unopened _ adopts
      rintro adopting rfl
      exact unadopted adopting member
    have left : EpochManager.rounds (if adoptsRound m.rounds body.roundId = true
        then { m with rounds := at_.env.persistence.evict s } else m) |>.StatusIn roundId P := by
      split
      · exact kept.evict _
      · exact within
    dsimp only
    split
    · exact left
    · exact left

theorem prepareAndCertify_statusIn (within : m.rounds.StatusIn roundId P) (member : roundId ∈ taken)
    {round : RoundState}
    (standing : body.roundId = roundId → round.status = .aborted ∨ round.status = .certifying ∧ P .certified)
    (unused : ∀ found : UnevaluatedRound, round = found.round →
      (strOr body.candidateSubmissionId none).bind m.subs.get = none → at_.evaluates = true →
        ReopensUnused taken at_.env body.roundId found.epoch m.rounds) :
    (prepareAndCertify host at_ m round body).state.rounds.StatusIn roundId P := by
  have asked : body.roundId = roundId → round.status = .certifying ∨ round.status = .certified →
      P .certified := by
    intro same asked
    obtain aborted | ⟨-, certified⟩ := standing same
    · simp [aborted] at asked
    · exact certified
  unfold prepareAndCertify
  split
  · next unevaluated =>
    have other : body.roundId ≠ roundId := by
      intro same
      obtain aborted | ⟨certifying, -⟩ := standing same
      · simp [aborted] at unevaluated
      · simp [certifying] at unevaluated
    split
    · next candidate _ =>
      split
      · exact within
      · next s named finalist =>
        apply certifyRoundState_statusIn
        · apply RoundStore.StatusIn.evict
          unfold RoundStore.setRoundFinalist at finalist
          split at finalist
          · cases finalist
          · obtain ⟨rfl, -⟩ := Prod.mk.inj (Except.ok.inj finalist)
            exact within.set rfl fun same => absurd same other
        · exact fun same => absurd same other
    · next missing =>
      split
      · next configured =>
        refine preparing_statusIn ⟨round, unevaluated⟩ body ?_ ?_
        · apply EpochManager.evaluateRound_statusIn within member fun same => absurd same other
          exact unused ⟨round, unevaluated⟩ rfl missing configured
        · exact fun same => absurd same other
      · exact certifyRoundState_statusIn within asked
  · exact certifyRoundState_statusIn within asked

theorem prepareAndCertify_waits {round body m' stage}
    (read : m.rounds.getRound body.roundId = some round)
    (waits : prepareAndCertify host at_ m round body = .waits m' stage) :
    stage.Standing m' ∧ (stage = .proposing body ∨
      (round.status = .closed ∨ round.status = .replaying) ∧
        ∃ found waiting, stage = .preparing body found waiting) := by
  have proposed : ∀ {m' : EpochManager}, certifyRoundState host at_ m round body = .waits m' stage →
      stage.Standing m' ∧ stage = .proposing body := by
    intro m' waits
    obtain ⟨rfl, rfl, asked⟩ := certifyRoundState_waits waits
    refine ⟨fun r found => ?_, rfl⟩
    cases read.symm.trans found
    exact asked
  unfold prepareAndCertify at waits
  split at waits
  · next unevaluated =>
    split at waits
    · next candidate _ =>
      split at waits
      · cases waits
      · next s named finalist =>
        obtain ⟨rfl, rfl, asked⟩ := certifyRoundState_waits waits
        refine ⟨?_, .inl rfl⟩
        apply RoundStore.StatusIn.evict
        unfold RoundStore.setRoundFinalist at finalist
        split at finalist
        · cases finalist
        · obtain ⟨rfl, rfl⟩ := Prod.mk.inj (Except.ok.inj finalist)
          intro r found
          cases (Dict.get?_set_self _ _ _).symm.trans found
          exact asked
    · split at waits
      · have unsettled : ∀ r ∈ m.rounds.getRound body.roundId, r.status.settled = false := by
          rintro r found
          cases read.symm.trans found
          obtain closed | replaying := unevaluated
          · rw [closed]
            rfl
          · rw [replaying]
            rfl
        obtain ⟨stands, proposing | ⟨waiting, preparing⟩⟩ := preparing_waits ⟨round, unevaluated⟩
          (fun s waiting ended => (EpochManager.evaluateRound_waits unsettled ended).2) waits
        · exact ⟨stands, .inl proposing⟩
        · exact ⟨stands, .inr ⟨unevaluated, _, waiting, preparing⟩⟩
      · exact (proposed waits).imp_right .inl
  · exact (proposed waits).imp_right .inl

theorem certify_statusIn (within : m.rounds.StatusIn roundId P) (unopened : ¬ P .open)
    (member : roundId ∈ taken) {body} (spares : RoundRequest.Spares m roundId P (.certify body))
    (sound : CertifySound taken at_ m body) :
    (certifyRoundMessage host at_ m body).state.rounds.StatusIn roundId P := by
  unfold certifyRoundMessage
  split
  · exact within
  · next fresh =>
    obtain ⟨unadopted, unused⟩ := sound (by simpa using fresh)
    have kept := @findRoundToCertify_statusIn at_ _ _ _ _ within unopened member body unadopted
    obtain ⟨read, same⟩ := @findRoundToCertify_read at_ _ _ body unadopted
    dsimp only
    split
    · exact kept
    · next round found =>
      apply prepareAndCertify_statusIn kept member
      · rintro rfl
        have here : m.rounds.getRound body.roundId = some round := by
          rw [← same member]
          exact read round found
        obtain closed | certifying := spares rfl round here
        · refine .inl ?_
          cases status : round.status <;> simp_all [isCertified, RoundStatus.settled]
        · exact .inr certifying
      · rintro unevaluated rfl missing configured
        exact unused unevaluated found missing configured

theorem certifyProposed_statusIn (within : m.rounds.StatusIn roundId P) {body}
    (spares : RoundStage.Spares m roundId P (.proposing body)) :
    (certifyProposed at_ m body).state.rounds.StatusIn roundId P := by
  unfold certifyProposed
  split
  · exact within
  · apply EpochManager.writeStatus_statusIn within
    · trivial
    · exact rfl
    rintro r found rfl
    exact spares rfl r found

theorem activate_statusIn (within : m.rounds.StatusIn roundId P) (member : roundId ∈ taken) {body}
    (spares : RoundRequest.Spares m roundId P (.activate body))
    (sound : ActivateSound taken at_ m body) :
    (m.activateRound at_.env body.roundId body.activationEpoch
      body.championChanged).state.rounds.StatusIn roundId P := by
  unfold EpochManager.activateRound
  obtain ⟨same, call, ended⟩ | ⟨round, certificate, candidate, found, certified, named, rewritten, concerns⟩ :=
    @EpochManager.openActivation_cases at_.env m body.roundId body.activationEpoch body.championChanged
  · dsimp only at same ended ⊢
    rw [same, ended]
    exact within
  · apply EpochManager.settle_statusIn (within.rewritten (by simp) rewritten) member concerns
    · rintro rfl r _
      exact spares rfl round found certified
    · obtain ⟨aborts, commits⟩ := sound round certificate candidate found named
      exact ⟨aborts.after rewritten.of_none, commits.after rewritten.of_none⟩

theorem activate_waits {body : ActivateRoundRequest} {m' : EpochManager} {stage : ActivationStage}
    (waits : m.activateRound at_.env body.roundId body.activationEpoch body.championChanged =
      .waits m' stage) :
    stage.roundId = body.roundId ∧ m'.rounds.StatusIn body.roundId (· = .certified) ∧
      ∃ round, m.rounds.getRound body.roundId = some round ∧ round.status = .certified := by
  unfold EpochManager.activateRound at waits
  obtain ⟨same, call, ended⟩ | ⟨round, certificate, candidate, found, certified, named, rewritten, concerns⟩ :=
    @EpochManager.openActivation_cases at_.env m body.roundId body.activationEpoch body.championChanged
  · dsimp only at waits ended
    rw [ended] at waits
    cases waits
  · obtain ⟨rfl, result⟩ := EpochManager.settle_waits concerns waits
    refine ⟨congrArg ActivationResult.roundId result, ?_, round, found, certified⟩
    refine RoundStore.StatusIn.rewritten ?_ (by simp) rewritten
    intro r read
    cases found.symm.trans read
    exact certified

theorem resumeActivation_statusIn (within : m.rounds.StatusIn roundId P) (member : roundId ∈ taken)
    {stage} (spares : RoundStage.Spares m roundId P (.activating stage))
    (sound : StageSound taken at_ m (.activating stage)) :
    (m.resumeActivation at_.env stage).state.rounds.StatusIn roundId P := by
  obtain ⟨rewritten, concerns⟩ := @EpochManager.continueActivation_spec at_.env m stage
  have kept := within.rewritten (by simp) rewritten
  unfold EpochManager.resumeActivation
  dsimp only
  cases continued : (m.continueActivation at_.env stage).result with
  | error e => exact kept
  | ok verdict =>
    apply EpochManager.settle_statusIn kept member (concerns verdict continued)
    · intro same r found
      cases known : m.rounds.getRound roundId with
      | some before => exact spares same before known
      | none =>
        rw [absent_of_rewritten known (by simp) rewritten] at found
        cases found
    · exact ⟨sound.1.after rewritten.of_none, sound.2.after rewritten.of_none⟩

theorem resumeActivation_waits {stage next m'}
    (standing : RoundStage.Standing (.activating stage) m)
    (waits : m.resumeActivation at_.env stage = .waits m' next) :
    next.roundId = stage.roundId ∧ RoundStage.Standing (.activating next) m' := by
  obtain ⟨rewritten, concerns⟩ := @EpochManager.continueActivation_spec at_.env m stage
  unfold EpochManager.resumeActivation at waits
  dsimp only at waits
  cases continued : (m.continueActivation at_.env stage).result with
  | error e =>
    rw [continued] at waits
    cases waits
  | ok verdict =>
    rw [continued] at waits
    obtain ⟨rfl, result⟩ := EpochManager.settle_waits (concerns verdict continued) waits
    have same : next.roundId = stage.roundId := congrArg ActivationResult.roundId result
    refine ⟨same, ?_⟩
    change RoundStore.StatusIn _ next.roundId _
    rw [same]
    exact standing.rewritten (by simp) rewritten

theorem start_statusIn (within : m.rounds.StatusIn roundId P) (unopened : ¬ P .open)
    (member : roundId ∈ taken) {request} (spares : request.Spares m roundId P)
    (sound : RequestSound taken at_ m request) :
    (startRoundRequest host at_ m request).state.rounds.StatusIn roundId P := by
  cases request with
  | evaluate key epoch =>
    exact handled_statusIn (EpochManager.evaluateRound_statusIn within member spares sound.2)
  | close node consensus body => exact close_statusIn within unopened member sound
  | certify body => exact certify_statusIn within unopened member spares sound
  | abort body => exact abort_statusIn within body spares
  | activate body =>
    simp only [startRoundRequest]
    split
    · exact within
    · exact handled_statusIn (activate_statusIn within member spares sound)
  | deadline current => exact deadline_statusIn within current spares
  | elsewhere subs champion => exact within

theorem resume_statusIn (within : m.rounds.StatusIn roundId P) (member : roundId ∈ taken)
    (spares : stage.Spares m roundId P) (sound : StageSound taken at_ m stage) :
    (resumeRoundStage host at_ m stage).state.rounds.StatusIn roundId P := by
  cases stage with
  | evaluating key epoch stage =>
    exact handled_statusIn (EpochManager.conclude_statusIn within member spares sound _)
  | preparing body found stage =>
    refine preparing_statusIn found body ?_ ?_
    · exact EpochManager.conclude_statusIn within member spares sound _
    · rintro rfl
      exact EpochManager.conclude_statusIn (statusIn_false.mpr (spares rfl)) member spares sound _
  | proposing body => exact certifyProposed_statusIn within spares
  | activating stage => exact handled_statusIn (resumeActivation_statusIn within member spares sound)

theorem handled_waits {Stage : Type} {place : Stage → RoundStage} {t m' stage}
    (waits : handled place t = .waits m' stage) :
    ∃ waiting, t = .waits m' waiting ∧ stage = place waiting := by
  cases t with
  | ends call => cases waits
  | waits s waiting =>
    obtain ⟨rfl, rfl⟩ := Turn.waits.inj waits
    exact ⟨waiting, rfl, rfl⟩

/-- A request that waits does so beside calls that it does not clash with. -/
theorem start_waits {request} (sound : RequestSound taken at_ m request) {m' stage}
    (waits : startRoundRequest host at_ m request = .waits m' stage) :
    stage.Standing m' ∧ ∀ other : RoundStage, other.roundId ∈ taken → other.Standing m →
      ¬ request.Clashes other → other.Apart stage := by
  cases request with
  | close | abort | deadline | elsewhere => cases waits
  | evaluate key epoch =>
    obtain ⟨waiting, ended, rfl⟩ := handled_waits waits
    obtain ⟨⟨r, found⟩, standing⟩ := EpochManager.evaluateRound_waits sound.1 ended
    refine ⟨standing, fun other _ stands free same => ?_⟩
    have same : other.roundId = key := same
    cases other with
    | evaluating | preparing | proposing => exact absurd ⟨congrArg some same.symm, trivial⟩ free
    | activating =>
      have certified : r.status = .certified := stands r (same ▸ found)
      have unsettled := sound.1 r found
      rw [certified] at unsettled
      cases unsettled
  | certify body =>
    simp only [startRoundRequest, certifyRoundMessage] at waits
    split at waits
    · cases waits
    · next fresh =>
      split at waits
      · cases waits
      · next round found =>
        obtain ⟨unadopted, -⟩ := sound (by simpa using fresh)
        obtain ⟨read, known⟩ := @findRoundToCertify_read at_ _ _ body unadopted
        have status : ∀ other : RoundStage, other.roundId ∈ taken → other.Standing m →
            other.roundId = body.roundId → other.Statuses round.status := by
          intro other member stands same
          apply stands round
          rw [same] at member ⊢
          rw [← known member]
          exact read round found
        obtain ⟨standing, rfl | ⟨unevaluated, _, waiting, rfl⟩⟩ :=
          prepareAndCertify_waits (read round found) waits
        · refine ⟨standing, fun other member stands free same => ?_⟩
          have same : other.roundId = body.roundId := same
          have asked := status other member stands same
          cases other with
          | proposing => exact ⟨trivial, trivial⟩
          | evaluating | preparing => exact absurd ⟨congrArg some same.symm, trivial⟩ free
          | activating =>
            have here : m.rounds.getRound body.roundId = some round := by
              rw [← known (same ▸ member)]
              exact read round found
            simp [isCertified, here, show round.status = .certified from asked] at fresh
        · refine ⟨standing, fun other member stands free same => ?_⟩
          have asked := status other member stands same
          cases other with
          | evaluating | preparing => exact absurd ⟨congrArg some same.symm, trivial⟩ free
          | proposing =>
            have asked : round.status = .certifying ∨ round.status = .certified := asked
            obtain unevaluated | unevaluated := unevaluated
            · simp [unevaluated] at asked
            · simp [unevaluated] at asked
          | activating =>
            have asked : round.status = .certified := asked
            simp [asked] at unevaluated
  | activate body =>
    simp only [startRoundRequest] at waits
    split at waits
    · cases waits
    · obtain ⟨waiting, ended, rfl⟩ := handled_waits waits
      obtain ⟨own, standing, r, found, certified⟩ := activate_waits ended
      refine ⟨?_, fun other _ stands free same => ?_⟩
      · change RoundStore.StatusIn _ waiting.roundId _
        rw [own]
        exact standing
      have same : other.roundId = body.roundId := same.trans own
      cases other with
      | proposing | activating => exact absurd ⟨congrArg some same.symm, trivial⟩ free
      | evaluating | preparing =>
        have undecided : Undecided r.status := stands r (same ▸ found)
        have unsettled := undecided.2
        rw [certified] at unsettled
        cases unsettled

/-- A call that waits again relies on its round as before. -/
theorem resume_waits {stage next} (standing : stage.Standing m) {m'}
    (waits : resumeRoundStage host at_ m stage = .waits m' next) :
    next.Standing m' ∧ next.roundId = stage.roundId ∧ ¬ stage.Proposes := by
  cases stage with
  | evaluating key epoch stage =>
    obtain ⟨waiting, ended, rfl⟩ := handled_waits waits
    obtain rfl := EpochManager.conclude_waits ended
    exact ⟨standing, rfl, not_false⟩
  | preparing body found stage =>
    have kept : ∀ s waiting, m.resumeEvaluation at_.env at_.steps body.roundId found.epoch stage =
        .waits s waiting → s.rounds.StatusIn body.roundId Undecided := by
      intro s waiting ended
      rw [EpochManager.conclude_waits ended]
      exact standing
    obtain ⟨stands, rfl | ⟨waiting, rfl⟩⟩ := preparing_waits _ kept waits
    · exact ⟨stands, rfl, not_false⟩
    · exact ⟨stands, rfl, not_false⟩
  | proposing body => cases waits
  | activating stage =>
    obtain ⟨waiting, ended, rfl⟩ := handled_waits waits
    obtain ⟨same, stands⟩ := resumeActivation_waits standing ended
    exact ⟨stands, same, not_false⟩

end

end MinotaurSubnet.Api
