import MinotaurSubnet.Epoch.Activation

/-! # What the steps of an activation leave behind

A call on the round store changes the rounds only, and few calls leave a round
`ACTIVATED`. The parts of `activate_certified_round` and `on_epoch_boundary` that do
not commit activate nothing and report nothing.
-/

namespace MinotaurSubnet.Harness.RoundStore

open Library

variable (s : RoundStore)

theorem getCurrentRound_evict (p : RoundPersistence) :
    (p.evict s).getCurrentRound = s.getCurrentRound := by
  unfold RoundPersistence.evict
  split
  · unfold getCurrentRound
    rw [evictRounds_current]
    cases pointer : s.currentRoundId with
    | none => rfl
    | some roundId =>
      split
      · rfl
      · rfl
      · next key _ same =>
        cases same
        cases found : s.rounds.get? roundId with
        | some r =>
          apply evictRounds_pinned _ found
          show roundId ∈ List.filterMap id _
          simp [pointer]
        | none =>
          cases kept : (s.evictRounds p.maxRounds).rounds.get? roundId with
          | none => rfl
          | some r =>
            rw [evictRounds_some kept] at found
            cases found
  · rfl

theorem currentIsOpen_evict (p : RoundPersistence) :
    (p.evict s).currentIsOpen = s.currentIsOpen := by
  unfold currentIsOpen
  rw [getCurrentRound_evict]

theorem activeChampion_evict (p : RoundPersistence) :
    (p.evict s).activeChampion = s.activeChampion := by
  unfold RoundPersistence.evict evictRounds
  split
  · split
    · rfl
    · split <;> rfl
  · rfl

theorem currentRoundId_evict (p : RoundPersistence) :
    (p.evict s).currentRoundId = s.currentRoundId := by
  unfold RoundPersistence.evict
  split
  · exact evictRounds_current s p.maxRounds
  · rfl

theorem currentIsOpen_modifyRound {s s' : RoundStore} {roundId} {f : RoundState → RoundState}
    (ran : s.modifyRound roundId f = .ok s') (ends : ∀ r, (f r).status ≠ .open) :
    s'.currentIsOpen = true ↔ s.currentIsOpen = true ∧ s.currentRoundId ≠ some roundId := by
  unfold modifyRound at ran
  split at ran
  · cases ran
  · next r found =>
    cases ran
    unfold currentIsOpen getCurrentRound
    cases pointer : s.currentRoundId with
    | none => simp
    | some key =>
      by_cases named : key = ""
      · subst named
        simp
      · simp only [Dict.get?_set]
        by_cases same : key = roundId
        · subst same
          simp [ends]
        · simp [same]

/-- A round has the status `ACTIVATED`. -/
def Activated (s : RoundStore) (roundId : String) : Prop :=
  ∃ r, s.rounds.get? roundId = some r ∧ r.status = .activated

theorem activated_of_evict {s : RoundStore} {p : RoundPersistence} {roundId}
    (activated : (p.evict s).Activated roundId) : s.Activated roundId := by
  obtain ⟨r, kept, status⟩ := activated
  exact ⟨r, RoundPersistence.evict_some kept, status⟩

theorem Change.activated {s s' : RoundStore} {now} {op : Op} {roundId} (change : s.Change now op s')
    (quiet : ¬ op.Activates roundId) (activated : s'.Activated roundId) :
    s.Activated roundId := by
  obtain ⟨r, found, status⟩ := activated
  cases change with
  | records same current => exact ⟨r, same ▸ found, status⟩
  | rewrite key old new record records current how =>
    rw [records, Dict.get?_set] at found
    split at found
    · next same =>
      cases found
      subst same
      cases how.activated with
      | inl kept => exact ⟨old, record, kept.symm.trans status⟩
      | inr changed =>
        cases changed with
        | inl other => exact absurd status other
        | inr activates => exact absurd activates quiet
    · exact ⟨r, found, status⟩
  | opened openedEpoch incumbent call idle result =>
    subst result
    simp only [openRound, Dict.get?_set] at found
    split at found
    · cases found
      cases incumbent with
      | none => cases status
      | some champion => cases status
    · exact ⟨r, found, status⟩
  | adopted key openedEpoch adoptedAs incumbent fields call result =>
    subst call result
    simp only [adoptRoundWith, Dict.get?_set] at found
    split at found
    · next same =>
      cases found
      have given : adoptedAs = .activated := by
        rw [← status]
        cases incumbent <;> (simp only [RoundState.syncIncumbent?]; split <;> rfl)
      exact absurd ⟨same.symm, given⟩ quiet
    · next other =>
      unfold supersede at found
      split at found
      · next current pointer =>
        split at found
        · rw [Dict.get?_set] at found
          split at found
          · cases found
            cases status
          · exact ⟨r, found, status⟩
        · exact ⟨r, found, status⟩
      · exact ⟨r, found, status⟩

end MinotaurSubnet.Harness.RoundStore

namespace MinotaurSubnet.Epoch.EpochManager

open Library Python Harness

variable {env : Surroundings} {m : EpochManager}

theorem roundOp_cases (env : Surroundings) (m : EpochManager) (op : RoundStore.Op) :
    (∃ e, m.roundOp env op = .raises m e ∧ m.rounds.run env.now op = .error e) ∨
    (m.roundOp env op = .returns m () ∧ m.rounds.run env.now op = .ok none) ∨
    (∃ s, m.roundOp env op = .returns { m with rounds := env.persistence.evict s } () ∧
      m.rounds.run env.now op = .ok (some s)) := by
  unfold roundOp
  cases m.rounds.run env.now op with
  | error e => exact .inl ⟨e, rfl, rfl⟩
  | ok changed =>
    cases changed with
    | none => exact .inr (.inl ⟨rfl, rfl⟩)
    | some s => exact .inr (.inr ⟨s, rfl, rfl⟩)

@[simp] theorem champion_roundOp (m : EpochManager) (op : RoundStore.Op) :
    (m.roundOp env op).state.champion = m.champion := by
  unfold roundOp
  split <;> rfl

@[simp] theorem subs_roundOp (m : EpochManager) (op : RoundStore.Op) :
    (m.roundOp env op).state.subs = m.subs := by
  unfold roundOp
  split <;> rfl

variable {op : RoundStore.Op} {m' : EpochManager}

theorem roundOp_of_error {e} (raised : (m.roundOp env op).result = .error e) :
    (m.roundOp env op).state = m := by
  obtain ⟨_, call, _⟩ | ⟨call, _⟩ | ⟨_, call, _⟩ := roundOp_cases env m op
  · rw [call]
    rfl
  · rw [call] at raised
    cases raised
  · rw [call] at raised
    cases raised

variable {roundId : String}

/-- A round that was ended keeps the champion and the pointer; the current round is open
    afterwards only if it was, and is another one. -/
theorem roundOp_ends {f : RoundState → RoundState}
    (ends : ∀ s : RoundStore, s.run env.now op = (s.modifyRound roundId f).map some)
    (closed : ∀ r, (f r).status ≠ .open) (ended : (m.roundOp env op).result = .ok ()) :
    (m.roundOp env op).state.rounds.activeChampion = m.rounds.activeChampion ∧
      (m.roundOp env op).state.rounds.currentRoundId = m.rounds.currentRoundId ∧
      ((m.roundOp env op).state.rounds.currentIsOpen = true ↔
        m.rounds.currentIsOpen = true ∧ m.rounds.currentRoundId ≠ some roundId) := by
  have ran := ends m.rounds
  cases changed : m.rounds.modifyRound roundId f with
  | error e =>
    rw [changed] at ran
    unfold roundOp at ended
    rw [ran] at ended
    cases ended
  | ok s =>
    rw [changed] at ran
    have same : s.activeChampion = m.rounds.activeChampion ∧
        s.currentRoundId = m.rounds.currentRoundId := by
      unfold RoundStore.modifyRound at changed
      split at changed
      · cases changed
      · cases changed
        exact ⟨rfl, rfl⟩
    have call : m.roundOp env op = .returns { m with rounds := env.persistence.evict s } () := by
      unfold roundOp
      rw [ran]
      rfl
    rw [call]
    simp only [Outcome.state_returns, RoundStore.activeChampion_evict,
      RoundStore.currentRoundId_evict, RoundStore.currentIsOpen_evict]
    exact ⟨same.1, same.2, RoundStore.currentIsOpen_modifyRound changed closed⟩

theorem roundOp_raises {f : RoundState → RoundState}
    (ends : ∀ s : RoundStore, s.run env.now op = (s.modifyRound roundId f).map some) :
    (∃ e, (m.roundOp env op).result = .error e) ↔ m.rounds.rounds.get? roundId = none := by
  unfold roundOp
  rw [ends, RoundStore.modifyRound]
  cases m.rounds.rounds.get? roundId with
  | none => exact iff_of_true ⟨_, rfl⟩ rfl
  | some r => simp [Except.map]

theorem reopen_of_open (env : Surroundings) (epoch : Int) (live : m.rounds.currentIsOpen = true) :
    m.reopen env epoch = .raises m .valueError := by
  have ran : m.rounds.run env.now (.openNextRound epoch m.getIncumbentSnapshot) = .error .valueError := by
    simp only [RoundStore.run, RoundStore.openNextRound, if_pos live]
  unfold reopen roundOp
  rw [ran]
  rfl

theorem reopen_of_idle (env : Surroundings) (epoch : Int) (idle : m.rounds.currentIsOpen = false) :
    ∃ next, m.reopen env epoch = .returns { m with
      rounds := env.persistence.evict
        (m.rounds.openRound epoch m.getIncumbentSnapshot env.now) } next := by
  have ran : m.rounds.run env.now (.openNextRound epoch m.getIncumbentSnapshot) =
      .ok (some (m.rounds.openRound epoch m.getIncumbentSnapshot env.now)) := by
    simp [RoundStore.run, RoundStore.openNextRound, RoundStore.ensureOpenRound, idle]
  unfold reopen roundOp
  rw [ran]
  exact ⟨_, rfl⟩

/-- The calls around a commit: they neither end a round with a champion nor say what its
    certificate needs. -/
def Minor : RoundStore.Op → Prop
  | .setActiveChampion _ _ | .setPreviousChampion _ | .setChampionAdoptionBar => True
  | .ensureOpenRound _ _ | .openNextRound _ _ | .abortRound _ _ => True
  | .closeCurrentRound updates => updates.quorumRequired = none
  | .setRoundStatus _ status => status = .replaying
  | _ => False

/-- From `m` to another manager by calls on the round store that are `Allowed`, and by
    changes elsewhere. -/
inductive OpSteps (env : Surroundings) (Allowed : RoundStore.Op → Prop) (m : EpochManager) :
    EpochManager → Prop where
  | refl : OpSteps env Allowed m m
  | elsewhere {m' m'' : EpochManager} (before : OpSteps env Allowed m m')
      (rounds : m''.rounds = m'.rounds) : OpSteps env Allowed m m''
  | call (m' : EpochManager) (op : RoundStore.Op) (before : OpSteps env Allowed m m')
      (allowed : Allowed op) : OpSteps env Allowed m (m'.roundOp env op).state

variable {Allowed : RoundStore.Op → Prop}

theorem OpSteps.one (allowed : Allowed op) :
    OpSteps env Allowed m (m.roundOp env op).state :=
  .call m op .refl allowed

theorem OpSteps.trans {m' m''} (first : OpSteps env Allowed m m')
    (second : OpSteps env Allowed m' m'') : OpSteps env Allowed m m'' := by
  induction second with
  | refl => exact first
  | elsewhere _ rounds ih => exact .elsewhere ih rounds
  | call m' op _ allowed ih => exact .call m' op ih allowed

theorem OpSteps.mono {Wider : RoundStore.Op → Prop} (steps : OpSteps env Allowed m m')
    (wider : ∀ op, Allowed op → Wider op) :
    OpSteps env Wider m m' := by
  induction steps with
  | refl => exact .refl
  | elsewhere _ rounds ih => exact .elsewhere ih rounds
  | call m' op _ allowed ih => exact .call m' op ih (wider op allowed)

theorem OpSteps.invariant (steps : OpSteps env Allowed m m') (Inv : RoundStore → Prop)
    (initial : Inv m.rounds)
    (run : ∀ s s' op, Allowed op → s.run env.now op = .ok (some s') → Inv s →
      Inv (env.persistence.evict s')) : Inv m'.rounds := by
  induction steps with
  | refl => exact initial
  | elsewhere _ rounds ih => exact rounds ▸ ih
  | call m' op _ allowed ih =>
    obtain ⟨e, call, _⟩ | ⟨call, _⟩ | ⟨s, call, ran⟩ := roundOp_cases env m' op
    · rw [call]
      exact ih
    · rw [call]
      exact ih
    · rw [call]
      exact run _ s op allowed ran ih

theorem OpSteps.andThen {ε α β : Type} {x : Outcome EpochManager ε α}
    {f : EpochManager → α → Outcome EpochManager ε β} (first : OpSteps env Allowed m x.state)
    (rest : ∀ (m' : EpochManager) a, OpSteps env Allowed m' (f m' a).state) :
    OpSteps env Allowed m (x.andThen f).state := by
  apply Outcome.andThen_state (fun m' => OpSteps env Allowed m m') first
  intro a _ sofar
  exact sofar.trans (rest x.state a)

theorem capturePrevious_steps (m : EpochManager) (submissionId : String) :
    OpSteps env Minor m (m.capturePrevious env submissionId).state := by
  unfold capturePrevious
  dsimp only
  split
  · apply OpSteps.one
    trivial
  · exact .refl

theorem commitSwap_steps (m : EpochManager) (submission : SubmissionRecord) (epoch : Int)
    (roundId mainSha : Option String) :
    OpSteps env Minor m (m.commitSwap env submission epoch roundId mainSha).state := by
  unfold commitSwap
  dsimp only
  split
  · exact .elsewhere .refl rfl
  · split
    · exact .elsewhere .refl rfl
    · apply OpSteps.andThen
      · apply OpSteps.call
        · exact .elsewhere .refl rfl
        · trivial
      · intro m' _
        apply OpSteps.andThen
        · exact capturePrevious_steps m' _
        · intro m'' _
          apply OpSteps.one
          trivial

theorem hotSwap_steps (m : EpochManager) (submission : SubmissionRecord) (epoch : Int)
    (roundId mainSha : Option String) :
    OpSteps env Minor m (m.hotSwap env submission epoch roundId mainSha).state := by
  unfold hotSwap
  split
  · exact .refl
  · split
    · exact .refl
    · exact .refl
    · exact commitSwap_steps m submission epoch roundId mainSha

theorem reopen_steps (m : EpochManager) (epoch : Int) :
    OpSteps env Minor m (m.reopen env epoch).state := by
  apply OpSteps.andThen
  · apply OpSteps.one
    trivial
  · exact fun m' _ => .refl

theorem completeRound_steps (m : EpochManager) (roundId : String) (epoch : Int)
    (closing : RoundStore.Op) :
    OpSteps env Minor (m.roundOp env closing).state (m.completeRound env roundId epoch closing).state := by
  apply OpSteps.andThen .refl
  intro m' _
  apply OpSteps.trans _ (reopen_steps _ epoch)
  exact .elsewhere .refl rfl

theorem abortAndReopen_steps (m : EpochManager) (roundId : String) (epoch : Int) (reason : String) :
    OpSteps env Minor m (m.abortAndReopen env roundId epoch reason).state := by
  apply OpSteps.trans _ (completeRound_steps m roundId epoch _)
  apply OpSteps.one
  trivial

theorem resetToBurn_steps (m : EpochManager) : OpSteps env Minor m (m.resetToBurn env) := by
  unfold resetToBurn
  dsimp only
  split
  · have cleared : OpSteps env Minor m (m.roundOp env (.setActiveChampion {} false)).state := .one trivial
    exact .elsewhere cleared rfl
  · exact .elsewhere .refl rfl

theorem currentRound_steps (m : EpochManager) : OpSteps env Minor m m.currentRound.state := by
  unfold currentRound
  split <;> exact .refl

theorem prepareRound_steps (m : EpochManager) (epoch : Int) :
    OpSteps env Minor m (m.prepareRound env epoch).state := by
  unfold prepareRound
  dsimp only
  apply OpSteps.andThen
  · split
    · apply OpSteps.one
      trivial
    · split
      · apply OpSteps.one
        trivial
      · exact .refl
  intro m _
  apply OpSteps.andThen (currentRound_steps m)
  intro m current
  apply OpSteps.andThen
  · split
    · apply OpSteps.one
      rfl
    · exact .refl
  intro m _
  apply OpSteps.andThen (currentRound_steps m)
  intro m current
  apply OpSteps.andThen
  · split
    · apply OpSteps.one
      rfl
    · exact .refl
  intro m _
  exact currentRound_steps m

theorem activateCertifiedRound_steps (minor : ∀ op, Minor op → Allowed op)
    (marks : ∀ roundId effectiveEpoch, Allowed (.activateRound roundId effectiveEpoch))
    (m : EpochManager) (roundId : String) (epoch : Int) (leaderChampionChanged : Option Bool) :
    OpSteps env Allowed m
      (m.activateCertifiedRound env roundId epoch leaderChampionChanged).state := by
  have refuses : ∀ (m : EpochManager) result reason,
      OpSteps env Allowed m (m.refuseActivation env result reason).state := by
    intro m result reason
    apply OpSteps.andThen
    · exact (abortAndReopen_steps m _ _ _).mono minor
    · exact fun _ _ => .refl
  unfold activateCertifiedRound
  split
  · exact .refl
  · split
    · exact .refl
    · split
      · exact .refl
      · dsimp only
        split
        · exact refuses m _ _
        · split
          · exact .refl
          · split
            · exact .refl
            · unfold activateCandidate
              dsimp only
              split
              · split
                · exact .refl
                · exact refuses m _ _
              · split
                · exact .trans ((resetToBurn_steps m).mono minor) (refuses _ _ _)
                · apply OpSteps.andThen
                  · exact (hotSwap_steps m _ _ _ _).mono minor
                  · intro m' _
                    apply OpSteps.andThen
                    · exact .one (marks _ _)
                    · intro m'' _
                      apply OpSteps.andThen
                      · exact (reopen_steps m'' _).mono minor
                      · exact fun _ _ => .refl

/-- No round becomes `ACTIVATED` on the way from `m` to `m'`. -/
def ActivatesNothing (m m' : EpochManager) : Prop :=
  ∀ roundId, m'.rounds.Activated roundId → m.rounds.Activated roundId

theorem ActivatesNothing.refl (m : EpochManager) : m.ActivatesNothing m := fun _ activated => activated

theorem ActivatesNothing.trans {m m' m'' : EpochManager} (first : m.ActivatesNothing m')
    (second : m'.ActivatesNothing m'') : m.ActivatesNothing m'' :=
  fun roundId activated => first roundId (second roundId activated)

theorem Minor.not_activates (minor : Minor op) (roundId : String) :
    ¬ op.Activates roundId := by
  intro activates
  cases op with
  | setRoundStatus key status =>
    have replaying : status = .replaying := minor
    rw [replaying] at activates
    cases activates.2
  | activateRound | adoptRound => exact minor
  | _ => exact activates

theorem OpSteps.activatesNothing (steps : OpSteps env Minor m m') :
    m.ActivatesNothing m' := by
  apply steps.invariant fun s => ∀ roundId, s.Activated roundId → m.rounds.Activated roundId
  · exact fun _ activated => activated
  · intro s s' op minor ran holds roundId activated
    apply holds
    exact (RoundStore.run_change ran).activated (minor.not_activates roundId)
      (RoundStore.activated_of_evict activated)

/-- A call that activates no round and does not return a changed champion. -/
structure Silent {α : Type} (changed : α → Bool) (m : EpochManager) (x : Outcome EpochManager PyError α) :
    Prop where
  activates : m.ActivatesNothing x.state
  result : ∀ a, x.result = .ok a → changed a = false

theorem Silent.raises {α : Type} {changed : α → Bool} {e} (quiet : m.ActivatesNothing m') :
    Silent changed m (.raises m' e) where
  activates := quiet
  result := by
    intro a ended
    cases ended

theorem Silent.returns {α : Type} {changed : α → Bool} {a} (quiet : m.ActivatesNothing m')
    (unchanged : changed a = false) :
    Silent changed m (.returns m' a) where
  activates := quiet
  result := by
    intro b ended
    cases ended
    exact unchanged

theorem Silent.after {α : Type} {changed : α → Bool} {x} (silent : Silent changed m' x)
    (quiet : m.ActivatesNothing m') :
    Silent changed m x :=
  ⟨quiet.trans silent.activates, silent.result⟩

theorem Silent.andThen {α β : Type} {changed : β → Bool} {x : Outcome EpochManager PyError α}
    {f : EpochManager → α → Outcome EpochManager PyError β} (first : m.ActivatesNothing x.state)
    (rest : ∀ a, x.result = .ok a → Silent changed x.state (f x.state a)) :
    Silent changed m (x.andThen f) := by
  cases ended : x.result with
  | error e =>
    rw [Outcome.andThen_of_error ended]
    exact .raises first
  | ok a =>
    rw [Outcome.andThen_of_ok ended]
    exact (rest a ended).after first

theorem Silent.map {α β : Type} {changed : α → Bool} {changed' : β → Bool}
    {x : Outcome EpochManager PyError α} (silent : Silent changed m x) {g : α → β}
    (same : ∀ a, changed' (g a) = changed a) :
    Silent changed' m (x.andThen fun m a => .returns m (g a)) := by
  apply Silent.andThen silent.activates
  intro a ended
  exact .returns (.refl _) ((same a).trans (silent.result a ended))

theorem refuseActivation_silent {result : ActivationResult} (unchanged : result.championChanged = false)
    (m : EpochManager) (reason : String) :
    Silent ActivationResult.championChanged m (m.refuseActivation env result reason) := by
  apply Silent.andThen
  · exact (abortAndReopen_steps m _ _ _).activatesNothing
  · intro next _
    exact .returns (.refl _) unchanged

theorem refuseAtBoundary_silent {result : BoundaryResult} (unchanged : result.championChanged = false)
    (m : EpochManager) (reason : String) :
    Silent BoundaryResult.championChanged m (m.refuseAtBoundary env result reason) := by
  apply Silent.andThen
  · exact (abortAndReopen_steps m _ _ _).activatesNothing
  · intro next _
    exact .returns (.refl _) unchanged

/-- What a boundary decides without a candidate reports nothing. -/
def decisionChanged : BoundaryResult ⊕ SubmissionRecord → Bool :=
  Sum.elim BoundaryResult.championChanged fun _ => false

theorem refuseAtBoundary_decision (rounds : m'.rounds = m.rounds) {result}
    (unchanged : result.championChanged = false) (reason : String)
    (answer : BoundaryResult → BoundaryResult)
    (same : ∀ r, (answer r).championChanged = r.championChanged) :
    Silent decisionChanged m
      (((m'.refuseAtBoundary env result reason).andThen fun m r => .returns m (answer r)).andThen
        fun m r => .returns m (Sum.inl r)) := by
  have quiet : m.ActivatesNothing m' := by
    intro roundId activated
    rw [rounds] at activated
    exact activated
  apply Silent.map _ fun _ => rfl
  apply Silent.map _ same
  exact (refuseAtBoundary_silent unchanged m' reason).after quiet

theorem decideBoundary_silent (steps : BoundarySteps) (m : EpochManager) {result}
    (unchanged : result.championChanged = false) :
    Silent decisionChanged m (m.decideBoundary env steps result) := by
  simp only [decideBoundary]
  split
  · next e _ =>
    exact refuseAtBoundary_decision (by rfl) unchanged _ (fun r => { r with error := some e }) fun _ => rfl
  · split
    · exact refuseAtBoundary_decision (by rfl) unchanged _
        (fun r => { r with weightsEmitted := env.emitWeights }) fun _ => rfl
    · split
      · exact .returns (fun _ activated => activated) (by rfl)
      · exact refuseAtBoundary_decision (by rfl) unchanged _
          (fun r => { r with weightsEmitted := env.emitWeights }) fun _ => rfl

/-- Aborting an unknown round raises, and so does opening the next round beside another
    open one. -/
theorem abort_raises (epoch : Int) (reason : String) (stuck : m.rounds.rounds.get? roundId = none ∨
      (m.rounds.currentIsOpen = true ∧ m.rounds.currentRoundId ≠ some roundId)) :
    ∃ e, (m.completeRound env roundId epoch (.abortRound roundId reason)).result = .error e := by
  unfold completeRound
  cases aborted : (m.roundOp env (.abortRound roundId reason)).result with
  | error e =>
    rw [Outcome.andThen_of_error aborted]
    exact ⟨e, rfl⟩
  | ok _ =>
    rw [Outcome.andThen_of_ok aborted]
    cases stuck with
    | inl unknown =>
      have raises : ∃ e, (m.roundOp env (.abortRound roundId reason)).result = .error e :=
        (roundOp_raises fun _ => rfl).mpr unknown
      obtain ⟨e, raised⟩ := raises
      rw [raised] at aborted
      cases aborted
    | inr beside =>
      have stays := (roundOp_ends (fun _ => rfl) (by simp) aborted).2.2.mpr beside
      exact ⟨_, congrArg Outcome.result (reopen_of_open env epoch (by exact stays))⟩

/-- When the activation could not be completed, the abort that follows cannot either: the
    round is unknown, or another round is open. -/
theorem abort_raises_after_failed_completion {epoch e}
    (failed : (m.completeRound env roundId epoch (.activateRound roundId epoch)).result = .error e)
    (reason : String) :
    ∃ e', ((m.completeRound env roundId epoch (.activateRound roundId epoch)).state.abortAndReopen env
      roundId epoch reason).result = .error e' := by
  apply abort_raises
  unfold completeRound at failed ⊢
  cases marked : (m.roundOp env (.activateRound roundId epoch)).result with
  | error e =>
    left
    rw [Outcome.andThen_of_error marked, roundOp_of_error marked]
    exact (roundOp_raises fun _ => rfl).mp ⟨e, marked⟩
  | ok _ =>
    right
    rw [Outcome.andThen_of_ok marked] at failed ⊢
    obtain ⟨_, pointer, live⟩ := roundOp_ends (fun _ => rfl) (by simp) marked
    generalize (m.roundOp env (.activateRound roundId epoch)).state = m' at failed pointer live ⊢
    cases stillOpen : m'.rounds.currentIsOpen with
    | true =>
      have raised := reopen_of_open (m := { m' with
        subs := m'.subs.reapOrphanedBenchmarking roundId env.now }) env epoch stillOpen
      rw [raised]
      exact ⟨stillOpen, pointer ▸ (live.mp stillOpen).2⟩
    | false =>
      obtain ⟨next, reopened⟩ := reopen_of_idle (m := { m' with
        subs := m'.subs.reapOrphanedBenchmarking roundId env.now }) env epoch stillOpen
      rw [reopened] at failed
      cases failed

theorem not_activated_of_abort (m : EpochManager) (roundId reason : String) :
    ¬ (m.roundOp env (.abortRound roundId reason)).state.rounds.Activated roundId := by
  intro activated
  obtain ⟨e, call, ran⟩ | ⟨_, ran⟩ | ⟨s, call, ran⟩ := roundOp_cases env m (.abortRound roundId reason)
  all_goals
    simp only [RoundStore.run, RoundStore.modifyRound] at ran
    split at ran
  · next unknown =>
    rw [call] at activated
    obtain ⟨r, found, _⟩ := activated
    rw [Outcome.state_raises, unknown] at found
    cases found
  · cases ran
  · cases ran
  · cases ran
  · cases ran
  · rw [call] at activated
    obtain ⟨r, found, status⟩ := RoundStore.activated_of_evict activated
    cases ran
    rw [Dict.get?_set, if_pos rfl] at found
    cases found
    cases status

theorem roundOp_activated (quiet : ¬ op.Activates roundId)
    (activated : (m.roundOp env op).state.rounds.Activated roundId) : m.rounds.Activated roundId := by
  have one : OpSteps env (· = op) m (m.roundOp env op).state := .one rfl
  apply one.invariant (fun s => s.Activated roundId → m.rounds.Activated roundId) id _ activated
  rintro s s' _ rfl ran before after
  exact before ((RoundStore.run_change ran).activated quiet (RoundStore.activated_of_evict after))

theorem abort_undoes_activation (m : EpochManager) (roundId : String) (epoch : Int) (reason : String) :
    m.ActivatesNothing ((m.completeRound env roundId epoch (.activateRound roundId epoch)).state.abortAndReopen
      env roundId epoch reason).state := by
  intro key activated
  by_cases same : key = roundId
  · subst same
    exact absurd ((completeRound_steps _ _ _ _).activatesNothing key activated)
      (not_activated_of_abort _ _ _)
  · have completed := (abortAndReopen_steps _ _ _ _).activatesNothing key activated
    have before := (completeRound_steps _ _ _ _).activatesNothing key completed
    exact roundOp_activated (by exact fun marks => same marks.symm) before

end MinotaurSubnet.Epoch.EpochManager
