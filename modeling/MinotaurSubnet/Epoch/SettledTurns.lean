import MinotaurSubnet.Epoch.ActivationTurns
import MinotaurSubnet.Epoch.EvaluateRound
import MinotaurSubnet.Harness.SettledRounds

/-! # Turns and settled rounds

An evaluation and an activation look at the status of their round before they wait, and
write it after. Their turns write no other round's status, except that intake reopens under an
id that may be taken.
-/

namespace MinotaurSubnet.Epoch

open Library Harness

/-- The statuses of a round that `evaluate_round` has admitted and not yet decided. -/
def Undecided (st : RoundStatus) : Prop := st ≠ .open ∧ st.settled = false

/-- However the call rewrites the round `key` first, the id that intake would reopen under is
    not taken. -/
def ReopensUnused (taken : List String) (env : Surroundings) (key : String) (epoch : Int)
    (s : RoundStore) : Prop :=
  ∀ s', s.RewrittenTo env.persistence env.now (some key) s' → s'.currentIsOpen = false →
    s'.buildRoundId epoch ∉ taken

theorem ReopensUnused.after {taken env key epoch s s'}
    (unused : ReopensUnused taken env key epoch s)
    (rewritten : s.RewrittenTo env.persistence env.now (some key) s') :
    ReopensUnused taken env key epoch s' :=
  fun _ later => unused _ (rewritten.trans later)

/-- A refused activation reopens at the epoch of the request, a committed one at the effective epoch. -/
def ActivationResult.ReopensUnused (taken : List String) (env : Surroundings)
    (result : ActivationResult) (s : RoundStore) : Prop :=
  Epoch.ReopensUnused taken env result.roundId result.epoch s ∧
    Epoch.ReopensUnused taken env result.roundId result.effectiveEpoch s

def ActivationVerdict.Concerns (result : ActivationResult) : ActivationVerdict → Prop
  | .refuses r _ | .commits r => r = result
  | .waits stage => stage.candidacy.result = result
  | .ends _ => True

namespace EpochManager

variable {env : Surroundings} {m : EpochManager} {roundId : String} {P : RoundStatus → Prop}
  {taken : List String} {op : RoundStore.Op}

theorem roundOp_rewritten {key} (stays : op.StaysWith key) :
    m.rounds.RewrittenTo env.persistence env.now key (m.roundOp env op).state.rounds := by
  obtain ⟨e, call, _⟩ | ⟨call, _⟩ | ⟨s, call, ran⟩ := roundOp_cases env m op
  · rw [call]
    exact .refl
  · rw [call]
    exact .refl
  · rw [call]
    exact .single ⟨op, s, stays, ran, rfl⟩

theorem roundOp_statusIn (within : m.rounds.StatusIn roundId P) (named : op.NamesRound)
    (status : ∀ r st, m.rounds.getRound roundId = some r → op.writes roundId = some st → P st) :
    (m.roundOp env op).state.rounds.StatusIn roundId P := by
  obtain ⟨e, call, _⟩ | ⟨call, _⟩ | ⟨s, call, ran⟩ := roundOp_cases env m op
  · rw [call]
    exact within
  · rw [call]
    exact within
  · rw [call]
    exact (RoundStore.run_statusIn within named status ran).evict env.persistence

theorem reopen_statusIn (within : m.rounds.StatusIn roundId P) {key epoch}
    (unused : ReopensUnused taken env key epoch m.rounds) (member : roundId ∈ taken) :
    (m.reopen env epoch).state.rounds.StatusIn roundId P := by
  cases live : m.rounds.currentIsOpen with
  | true =>
    rw [reopen_of_open env epoch live]
    exact within
  | false =>
    obtain ⟨next, reopened⟩ := reopen_of_idle env epoch live
    rw [reopened]
    apply RoundStore.StatusIn.evict
    apply RoundStore.openRound_statusIn within
    rintro rfl
    exact unused m.rounds .refl live member

theorem writeStatus_statusIn (within : m.rounds.StatusIn roundId P) {key st} (named : op.NamesRound)
    (writes : op.writes roundId = if key = roundId then some st else none)
    (agrees : ∀ r ∈ m.rounds.getRound key, key = roundId → P st) :
    (m.roundOp env op).state.rounds.StatusIn roundId P := by
  apply roundOp_statusIn within named
  intro r written found given
  rw [writes] at given
  split at given
  · next same =>
    cases given
    exact agrees r (same ▸ found) same
  · cases given

theorem abortAndReopen_statusIn (within : m.rounds.StatusIn roundId P) (member : roundId ∈ taken)
    {key epoch reason} (aborted : ∀ r ∈ m.rounds.getRound key, key = roundId → P .aborted)
    (unused : ReopensUnused taken env key epoch m.rounds) :
    (m.abortAndReopen env key epoch reason).state.rounds.StatusIn roundId P := by
  unfold abortAndReopen completeRound
  apply Outcome.andThen_state (fun m' : EpochManager => m'.rounds.StatusIn roundId P)
  · exact writeStatus_statusIn within trivial rfl aborted
  · intro u _ kept
    apply reopen_statusIn
    · exact kept
    · exact unused.after (roundOp_rewritten rfl)
    · exact member

theorem markActivated_statusIn (within : m.rounds.StatusIn roundId P) (member : roundId ∈ taken)
    {result}
    (activated : ∀ r ∈ m.rounds.getRound result.roundId, result.roundId = roundId → P .activated)
    (unused : ReopensUnused taken env result.roundId result.effectiveEpoch m.rounds) :
    (m.markActivated env result).state.rounds.StatusIn roundId P := by
  unfold markActivated
  apply Outcome.andThen_state (fun m' : EpochManager => m'.rounds.StatusIn roundId P)
  · exact writeStatus_statusIn within trivial rfl activated
  · intro u _ kept
    rw [Outcome.state_andThen_returns]
    exact reopen_statusIn kept (unused.after (roundOp_rewritten rfl)) member

section

variable {steps : EvaluationSteps} {key : String} {epoch : Int}

theorem conclude_statusIn (within : m.rounds.StatusIn roundId P) (member : roundId ∈ taken)
    (absent : key = roundId → m.rounds.getRound key = none)
    (unused : ReopensUnused taken env key epoch m.rounds) (verdict : EvaluationVerdict) :
    (m.conclude env key epoch verdict).state.rounds.StatusIn roundId P := by
  cases verdict with
  | ends result => exact within
  | waits stage => exact within
  | aborts reason =>
    simp only [conclude, Turn.state_ends, Outcome.state_andThen_returns]
    apply abortAndReopen_statusIn within member _ unused
    intro r found same
    rw [absent same] at found
    cases found
  | chooses finalist =>
    apply writeStatus_statusIn within
    · trivial
    · exact rfl
    intro r found same
    rw [absent same] at found
    cases found

theorem conclude_waits {m' verdict stage}
    (waits : m.conclude env key epoch verdict = .waits m' stage) : m' = m := by
  cases verdict with
  | waits waiting =>
    obtain ⟨rfl, -⟩ := Turn.waits.inj waits
    rfl
  | ends | aborts | chooses => cases waits

/-- The first turn of `evaluate_round`: it is over at once, or its round is not open and replays if
    it was closed. -/
theorem openEvaluation_cases :
    ((m.openEvaluation env steps key epoch).1 = m ∧
      ∃ call, (m.openEvaluation env steps key epoch).2 = .ends call) ∨
    ∃ r, m.rounds.getRound key = some r ∧ r.status ≠ .open ∧
      (m.openEvaluation env steps key epoch).1 = if r.status = .closed
        then (m.roundOp env (.setRoundStatus key .replaying)).state else m := by
  unfold openEvaluation
  split
  · exact .inl ⟨rfl, _, rfl⟩
  · next round found =>
    split
    · exact .inl ⟨rfl, _, rfl⟩
    · next admitted =>
      split
      · exact .inl ⟨rfl, _, rfl⟩
      · exact .inr ⟨round, found, admitted, rfl⟩

theorem openEvaluation_rewritten : m.rounds.RewrittenTo env.persistence env.now (some key)
    (m.openEvaluation env steps key epoch).1.rounds := by
  obtain ⟨same, -⟩ | ⟨r, -, -, opened⟩ := @openEvaluation_cases env m steps key epoch
  · rw [same]
    exact .refl
  · rw [opened]
    split
    · exact roundOp_rewritten rfl
    · exact .refl

theorem evaluateRound_statusIn (within : m.rounds.StatusIn roundId P) (member : roundId ∈ taken)
    (absent : key = roundId → m.rounds.getRound key = none)
    (unused : ReopensUnused taken env key epoch m.rounds) :
    (m.evaluateRound env steps key epoch).state.rounds.StatusIn roundId P := by
  have opened : (m.openEvaluation env steps key epoch).1.rounds.StatusIn roundId P ∧
      (key = roundId → (m.openEvaluation env steps key epoch).1.rounds.getRound key = none) := by
    by_cases same : key = roundId
    · obtain ⟨kept, -⟩ | ⟨r, found, -⟩ := @openEvaluation_cases env m steps key epoch
      · rw [kept]
        exact ⟨within, absent⟩
      · rw [absent same] at found
        cases found
    · refine ⟨within.rewritten ?_ openEvaluation_rewritten, fun same' => absurd same' same⟩
      simpa using same
  exact conclude_statusIn opened.1 member opened.2 (unused.after openEvaluation_rewritten) _

theorem evaluateRound_waits {m' stage}
    (unsettled : ∀ r ∈ m.rounds.getRound key, r.status.settled = false)
    (waits : m.evaluateRound env steps key epoch = .waits m' stage) :
    (∃ r, m.rounds.getRound key = some r) ∧ m'.rounds.StatusIn key Undecided := by
  obtain rfl := conclude_waits waits
  obtain ⟨-, call, ended⟩ | ⟨r, found, admitted, opened⟩ := @openEvaluation_cases env m steps key epoch
  · unfold evaluateRound at waits
    dsimp only at waits
    rw [ended] at waits
    cases waits
  · refine ⟨⟨r, found⟩, ?_⟩
    have within : m.rounds.StatusIn key Undecided := by
      intro r' found'
      cases found.symm.trans found'
      exact ⟨admitted, unsettled r found⟩
    rw [opened]
    split
    · exact writeStatus_statusIn within trivial rfl fun _ _ _ => ⟨by decide, rfl⟩
    · exact within

end

section

variable {c : Candidacy} {mainSha : String}

theorem resetToBurn_rewritten :
    m.rounds.RewrittenTo env.persistence env.now none (m.resetToBurn env).rounds := by
  unfold resetToBurn
  dsimp only
  split
  · exact roundOp_rewritten trivial
  · exact .refl

theorem openSwap_rounds : (m.openSwap env c mainSha).1.rounds = m.rounds := by
  unfold openSwap
  split
  · rfl
  · split <;> rfl

theorem openSwap_concerns : (m.openSwap env c mainSha).2.Concerns c.result := by
  unfold openSwap
  split
  · exact rfl
  · split <;> exact rfl

theorem swapRecorded_rewritten (adoptedAt : ℚ) : m.rounds.RewrittenTo env.persistence env.now none
    (m.swapRecorded env c mainSha adoptedAt).state.rounds := by
  unfold swapRecorded
  dsimp only
  split
  · exact .refl
  · split
    · exact .refl
    · apply Outcome.andThen_state fun m' : EpochManager =>
        m.rounds.RewrittenTo env.persistence env.now none m'.rounds
      · exact @roundOp_rewritten env { m with subs := (m.subs.adopt c.submission.submissionId env.now).1 }
          .setChampionAdoptionBar none trivial
      intro _ _ barred
      apply Outcome.andThen_state fun m' : EpochManager =>
        m.rounds.RewrittenTo env.persistence env.now none m'.rounds
      · unfold capturePrevious
        dsimp only
        split
        · exact barred.trans (roundOp_rewritten trivial)
        · exact barred
      intro _ _ captured
      exact captured.trans (roundOp_rewritten trivial)

theorem openCandidacy_spec :
    m.rounds.RewrittenTo env.persistence env.now none (m.openCandidacy env c).1.rounds ∧
      (m.openCandidacy env c).2.Concerns c.result := by
  unfold openCandidacy
  split
  · exact ⟨.refl, rfl⟩
  · split
    · exact ⟨resetToBurn_rewritten, rfl⟩
    · rw [openSwap_rounds]
      exact ⟨.refl, openSwap_concerns⟩

/-- The first turn of `activate_certified_round`: it is over at once, or it is about a certified round. -/
theorem openActivation_cases (key : String) (epoch : Int) (leaderChampionChanged : Option Bool) :
    let opened := m.openActivation env key epoch leaderChampionChanged
    (opened.1 = m ∧ ∃ call, opened.2 = .ends call) ∨
    ∃ round certificate candidate, m.rounds.getRound key = some round ∧ round.status = .certified ∧
      certifiedCandidate round = some (certificate, candidate) ∧
      m.rounds.RewrittenTo env.persistence env.now none opened.1.rounds ∧
      opened.2.Concerns
        { roundId := key, epoch, effectiveEpoch := effectiveEpochOf round certificate epoch } := by
  unfold openActivation
  split
  · exact .inl ⟨rfl, _, rfl⟩
  · next round found =>
    split
    · exact .inl ⟨rfl, _, rfl⟩
    · next certified =>
      split
      · exact .inl ⟨rfl, _, rfl⟩
      · next certificate candidate named =>
        have certified := not_not.mp certified
        dsimp only
        split
        · exact .inr ⟨round, certificate, candidate, found, certified, named, .refl, rfl⟩
        · split
          · exact .inl ⟨rfl, _, rfl⟩
          · split
            · exact .inl ⟨rfl, _, rfl⟩
            · exact .inr ⟨round, certificate, candidate, found, certified, named, openCandidacy_spec⟩

theorem continueActivation_spec (stage : ActivationStage) :
    m.rounds.RewrittenTo env.persistence env.now none (m.continueActivation env stage).state.rounds ∧
      ∀ verdict, (m.continueActivation env stage).result = .ok verdict →
        verdict.Concerns stage.candidacy.result := by
  cases stage with
  | finalizing c =>
    unfold continueActivation
    dsimp only
    split
    · refine ⟨.refl, ?_⟩
      rintro verdict ended
      cases ended
      split
      · trivial
      · exact rfl
    · refine ⟨by rw [Outcome.state_returns, openSwap_rounds]; exact .refl, ?_⟩
      rintro verdict ended
      cases ended
      exact openSwap_concerns
  | preparing c mainSha =>
    unfold continueActivation
    dsimp only
    split
    · exact ⟨.refl, fun verdict ended => by cases ended⟩
    · refine ⟨.refl, ?_⟩
      rintro verdict ended
      cases ended
      exact rfl
    · refine ⟨.refl, ?_⟩
      rintro verdict ended
      cases ended
      exact rfl
  | recording c mainSha adoptedAt =>
    unfold continueActivation
    refine ⟨?_, ?_⟩
    · rw [Outcome.state_andThen_returns]
      exact swapRecorded_rewritten adoptedAt
    · intro verdict ended
      obtain ⟨u, _, _, last⟩ := Outcome.andThen_eq_ok ended
      cases last
      exact rfl

variable {result : ActivationResult} {verdict : ActivationVerdict}

theorem settle_statusIn (within : m.rounds.StatusIn roundId P) (member : roundId ∈ taken)
    (concerns : verdict.Concerns result)
    (own : result.roundId = roundId → ∀ r ∈ m.rounds.getRound roundId, P .activated ∧ P .aborted)
    (unused : result.ReopensUnused taken env m.rounds) :
    (m.settle env verdict).state.rounds.StatusIn roundId P := by
  cases verdict with
  | ends call => exact within
  | waits stage => exact within
  | refuses r reason =>
    obtain rfl := concerns
    simp only [settle, Turn.state_ends, Outcome.state_andThen_returns, refuseActivation]
    apply abortAndReopen_statusIn within member _ unused.1
    exact fun r found same => (own same r (same ▸ found)).2
  | commits r =>
    obtain rfl := concerns
    apply markActivated_statusIn within member _ unused.2
    exact fun r found same => (own same r (same ▸ found)).1

theorem settle_waits {m' stage} (concerns : verdict.Concerns result)
    (waits : m.settle env verdict = .waits m' stage) :
    m' = m ∧ stage.candidacy.result = result := by
  cases verdict with
  | waits waiting =>
    obtain ⟨rfl, rfl⟩ := Turn.waits.inj waits
    exact ⟨rfl, concerns⟩
  | ends | refuses | commits => cases waits

end

end EpochManager

end MinotaurSubnet.Epoch
