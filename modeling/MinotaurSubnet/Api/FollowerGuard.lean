import MinotaurSubnet.Api.FollowerRounds
import MinotaurSubnet.Epoch.ActivationSteps

/-! # What the round messages leave in the records

A round is guarded when neither it nor its certificate says a quorum of one and what it
calls self-verified was verified by this node. Each handler keeps every round guarded
when its request says no quorum of one either, and a follower commits an activation only
through its gate.
-/

namespace MinotaurSubnet.Api

open Library Consensus Harness
open Epoch (EpochManager)
open Epoch.EpochManager (OpSteps Minor)

def OpenOrAboveOne (quorum : Option Int) : Prop := ∀ q, quorum = some q → q = 0 ∨ 1 < q

theorem openOrAboveOne_request {quorum} (request : quorum ≠ some 1) :
    OpenOrAboveOne (quorum.map Int.ofNat) := by
  intro q given
  obtain ⟨n, rfl, rfl⟩ := Option.map_eq_some_iff.mp given
  have other : n ≠ 1 := fun same => request (same ▸ rfl)
  simp
  omega

theorem openOrAboveOne_orElse {quorum own} (given : OpenOrAboveOne quorum) (above : 1 < own) :
    OpenOrAboveOne (quorum <|> some own) := by
  cases quorum with
  | none =>
    intro q same
    cases same
    exact .inr above
  | some q => exact given

/-- Where the node trusts the leader (`trusts`), the round and its certificate do not say
    one; a verified candidate is in the list `verified` of what this node marked. -/
structure Guarded (trusts : Bool) (verified : List (String × String)) (roundId : String)
    (r : RoundState) : Prop where
  quorum : trusts = true → OpenOrAboveOne r.quorumRequired
  certificate : trusts = true → ∀ c, r.certificate = some c → 1 < c.quorumRequired
  verified : ∀ id, r.selfVerifiedSubmissionId = some id → (roundId, id) ∈ verified

def AllGuarded (trusts : Bool) (verified : List (String × String)) (s : RoundStore) : Prop :=
  ∀ roundId r, s.rounds.get? roundId = some r → Guarded trusts verified roundId r

variable {trusts : Bool} {verified : List (String × String)} {roundId : String} {r r' : RoundState}
  {s s' : RoundStore}

theorem Guarded.fresh (quorum : r.quorumRequired = none) (certificate : r.certificate = none)
    (marked : r.selfVerifiedSubmissionId = none) : Guarded trusts verified roundId r where
  quorum := by
    intro _ q some
    rw [quorum] at some
    cases some
  certificate := by
    intro _ c some
    rw [certificate] at some
    cases some
  verified := by
    intro id some
    rw [marked] at some
    cases some

theorem Guarded.same (guarded : Guarded trusts verified roundId r)
    (quorum : r'.quorumRequired = r.quorumRequired) (certificate : r'.certificate = r.certificate)
    (marked : r'.selfVerifiedSubmissionId = r.selfVerifiedSubmissionId) :
    Guarded trusts verified roundId r' where
  quorum := quorum ▸ guarded.quorum
  certificate := certificate ▸ guarded.certificate
  verified := marked ▸ guarded.verified

theorem Guarded.mono {more} (guarded : Guarded trusts verified roundId r)
    (subset : verified ⊆ more) : Guarded trusts more roundId r :=
  ⟨guarded.quorum, guarded.certificate, fun id marked => subset (guarded.verified id marked)⟩

variable {u : RoundUpdates}

theorem Guarded.update (guarded : Guarded trusts verified roundId r)
    (quorum : trusts = true → OpenOrAboveOne u.quorumRequired) :
    Guarded trusts verified roundId (r.update u) where
  quorum := by
    intro trusting q some
    simp only [RoundState.update] at some
    cases given : u.quorumRequired with
    | none =>
      rw [given] at some
      exact guarded.quorum trusting q some
    | some q' =>
      rw [given] at some
      exact quorum trusting q (given.trans some)
  certificate := guarded.certificate
  verified := guarded.verified

theorem AllGuarded.set {s'} (all : AllGuarded trusts verified s)
    (guarded : Guarded trusts verified roundId r) (rounds : s'.rounds = s.rounds.set roundId r) :
    AllGuarded trusts verified s' := by
  intro key found record
  rw [rounds, Dict.get?_set] at record
  split at record
  · next same =>
    cases record
    exact same ▸ guarded
  · exact all key found record

theorem AllGuarded.of_rounds (all : AllGuarded trusts verified s) (rounds : s'.rounds = s.rounds) :
    AllGuarded trusts verified s' := by
  intro key found record
  exact all key found (rounds ▸ record)

theorem AllGuarded.evict (all : AllGuarded trusts verified s) (p : RoundPersistence) :
    AllGuarded trusts verified (p.evict s) := by
  intro key found record
  exact all key found (RoundPersistence.evict_some record)

theorem AllGuarded.current (all : AllGuarded trusts verified s) (current : s.getCurrentRound = some r) :
    ∃ key, s.currentRoundId = some key ∧ Guarded trusts verified key r := by
  obtain ⟨key, pointer, _, record⟩ := RoundStore.getCurrentRound_some current
  exact ⟨key, pointer, all key r record⟩

theorem modifyCurrent_guarded (all : AllGuarded trusts verified s) {f : RoundState → RoundState}
    (keeps : ∀ key r, Guarded trusts verified key r → Guarded trusts verified key (f r)) :
    AllGuarded trusts verified (s.modifyCurrent f) := by
  unfold RoundStore.modifyCurrent
  split
  · exact all
  · next current found =>
    obtain ⟨key, pointer, guarded⟩ := all.current found
    apply all.set (keeps key current guarded)
    rw [pointer]
    rfl

theorem modifyRound_guarded (all : AllGuarded trusts verified s) {f : RoundState → RoundState}
    (ran : (s.modifyRound roundId f).map some = .ok (some s'))
    (keeps : ∀ r, Guarded trusts verified roundId r → Guarded trusts verified roundId (f r)) :
    AllGuarded trusts verified s' := by
  unfold RoundStore.modifyRound at ran
  split at ran
  · cases ran
  · next r found =>
    cases ran
    exact all.set (keeps r (all roundId r found)) rfl

theorem openRound_guarded (all : AllGuarded trusts verified s) (epoch : Int)
    (incumbent : Option ChampionSnapshot) (now : ℚ) :
    AllGuarded trusts verified (s.openRound epoch incumbent now) := by
  apply all.set _ rfl
  cases incumbent with
  | none => exact .fresh rfl rfl rfl
  | some champion => exact .fresh rfl rfl rfl

theorem ensureOpenRound_guarded (all : AllGuarded trusts verified s) {epoch incumbent now}
    (ran : s.ensureOpenRound epoch incumbent now = some s') : AllGuarded trusts verified s' := by
  unfold RoundStore.ensureOpenRound at ran
  split at ran
  · cases incumbent with
    | none => cases ran
    | some champion =>
      cases ran
      have synced : AllGuarded trusts verified (s.modifyCurrent (·.syncIncumbent champion)) :=
        modifyCurrent_guarded all fun _ _ guarded => guarded.same rfl rfl rfl
      exact synced.of_rounds rfl
  · cases ran
    exact openRound_guarded all epoch incumbent now

theorem closeCurrentRound_guarded (all : AllGuarded trusts verified s)
    (quorum : trusts = true → OpenOrAboveOne u.quorumRequired)
    (ran : s.closeCurrentRound u = .ok (s', r)) :
    AllGuarded trusts verified s' ∧ (trusts = true → OpenOrAboveOne r.quorumRequired) := by
  unfold RoundStore.closeCurrentRound at ran
  split at ran
  · cases ran
  · next current found =>
    obtain ⟨key, pointer, guarded⟩ := all.current found
    simp only [Except.ok.injEq, Prod.mk.injEq] at ran
    obtain ⟨rfl, rfl⟩ := ran
    have closed : Guarded trusts verified key
        { current.update { u with benchmarkAnchorEpoch := none } with status := .closed } :=
      (guarded.update quorum).same rfl rfl rfl
    refine ⟨all.set closed ?_, closed.quorum⟩
    rw [pointer]
    rfl

theorem setRoundFinalist_guarded (all : AllGuarded trusts verified s)
    {submissionId imageId shadowCaseLogHash}
    (ran : s.setRoundFinalist roundId submissionId imageId shadowCaseLogHash = .ok (s', r)) :
    AllGuarded trusts verified s' ∧ (trusts = true → OpenOrAboveOne r.quorumRequired) := by
  unfold RoundStore.setRoundFinalist at ran
  split at ran
  · cases ran
  · next old found =>
    simp only [Except.ok.injEq, Prod.mk.injEq] at ran
    obtain ⟨rfl, rfl⟩ := ran
    have named : Guarded trusts verified roundId { old with
        finalistSubmissionId := some submissionId
        finalistImageId := imageId
        shadowCaseLogHash := shadowCaseLogHash <|> old.shadowCaseLogHash
        status := .certifying } := (all roundId old found).same rfl rfl rfl
    exact ⟨all.set named rfl, named.quorum⟩

theorem certifyRound_guarded (all : AllGuarded trusts verified s) {certificate}
    (quorum : trusts = true → 1 < certificate.quorumRequired)
    (ran : s.certifyRound roundId certificate = .ok (s', r)) : AllGuarded trusts verified s' := by
  unfold RoundStore.certifyRound at ran
  split at ran
  · cases ran
  · next old found =>
    simp only [Except.ok.injEq, Prod.mk.injEq] at ran
    obtain ⟨rfl, rfl⟩ := ran
    apply all.set _ rfl
    constructor
    · intro trusting q some
      cases some
      exact .inr (quorum trusting)
    · intro trusting c some
      cases some
      exact quorum trusting
    · exact (all roundId old found).verified

theorem supersede_guarded (all : AllGuarded trusts verified s) (roundId : String) :
    AllGuarded trusts verified (s.supersede roundId) := by
  unfold RoundStore.supersede
  split
  · next current found =>
    split
    · obtain ⟨key, pointer, guarded⟩ := all.current found
      have aborted : Guarded trusts verified key { current with
          status := .aborted
          abortReason := some ("superseded by leader round " ++ roundId) } := guarded.same rfl rfl rfl
      apply all.set aborted
      rw [pointer]
      rfl
    · exact all
  · exact all

theorem adoptRound_guarded (all : AllGuarded trusts verified s) (roundId : String) (epoch : Int)
    (status : RoundStatus) (quorum : trusts = true → OpenOrAboveOne u.quorumRequired) :
    AllGuarded trusts verified (s.adoptRound roundId epoch status u) := by
  have superseded := supersede_guarded all roundId
  unfold RoundStore.adoptRound
  apply superseded.set _ rfl
  apply Guarded.update _ quorum
  cases known : (s.supersede roundId).rounds.get? roundId with
  | none => exact .fresh rfl rfl rfl
  | some old => exact (superseded roundId old known).same rfl rfl rfl

theorem adoptLeaderRoundIfBehind_guarded (all : AllGuarded trusts verified s) {status}
    (quorum : trusts = true → OpenOrAboveOne u.quorumRequired)
    (ran : adoptLeaderRoundIfBehind s roundId status u = .ok s') :
    AllGuarded trusts verified s' := by
  unfold adoptLeaderRoundIfBehind at ran
  split at ran
  · cases ran
    exact all
  · split at ran
    · cases ran
    · cases ran
      exact all
    · split at ran
      · cases ran
        exact adoptRound_guarded all _ _ _ quorum
      · cases ran
        exact all

/-- The calls of the handlers and of an activation that keep every round guarded. -/
def GuardedOp (trusts : Bool) (verified : List (String × String)) : RoundStore.Op → Prop
  | .setActiveChampion _ _ | .setPreviousChampion _ | .setChampionAdoptionBar => True
  | .ensureOpenRound _ _ | .openNextRound _ _ | .abortRound _ _ | .activateRound _ _ => True
  | .setRoundStatus _ _ => True
  | .closeCurrentRound updates => trusts = true → OpenOrAboveOne updates.quorumRequired
  | .certifyRound _ certificate => trusts = true → 1 < certificate.quorumRequired
  | .markSelfVerified roundId submissionId => ∀ id, submissionId = some id → (roundId, id) ∈ verified
  | _ => False

theorem run_guarded {now op} (all : AllGuarded trusts verified s)
    (allowed : GuardedOp trusts verified op) (ran : s.run now op = .ok (some s')) :
    AllGuarded trusts verified s' := by
  cases op with
  | setActiveChampion champion syncOpenRound =>
    cases ran
    unfold RoundStore.setActiveChampion
    dsimp only
    have crowned : AllGuarded trusts verified { s with activeChampion := champion } := all
    split
    · exact modifyCurrent_guarded crowned fun _ _ guarded => guarded.same rfl rfl rfl
    · exact crowned
  | setPreviousChampion champion =>
    cases ran
    exact all
  | setChampionAdoptionBar =>
    cases ran
    exact all
  | ensureOpenRound epoch incumbent => exact ensureOpenRound_guarded all (Except.ok.inj ran)
  | openNextRound epoch incumbent =>
    simp only [RoundStore.run, RoundStore.openNextRound] at ran
    split at ran
    · cases ran
    · exact ensureOpenRound_guarded all (Except.ok.inj ran)
  | closeCurrentRound updates =>
    simp only [RoundStore.run] at ran
    cases closed : s.closeCurrentRound updates with
    | error e =>
      rw [closed] at ran
      cases ran
    | ok done =>
      rw [closed] at ran
      cases ran
      exact (closeCurrentRound_guarded all allowed closed).1
  | setRoundStatus roundId status =>
    exact modifyRound_guarded all ran fun _ guarded => guarded.same rfl rfl rfl
  | certifyRound roundId certificate =>
    simp only [RoundStore.run] at ran
    cases certified : s.certifyRound roundId certificate with
    | error e =>
      rw [certified] at ran
      cases ran
    | ok done =>
      rw [certified] at ran
      cases ran
      exact certifyRound_guarded all allowed certified
  | activateRound roundId effectiveEpoch =>
    exact modifyRound_guarded all ran fun _ guarded => guarded.same rfl rfl rfl
  | abortRound roundId reason =>
    exact modifyRound_guarded all ran fun _ guarded => guarded.same rfl rfl rfl
  | markSelfVerified roundId submissionId =>
    exact modifyRound_guarded all ran fun _ guarded => ⟨guarded.quorum, guarded.certificate, allowed⟩
  | adoptRound | setRoundVetoObserve | setRoundFinalist | setRoundForkPins | setBenchedSlate =>
    exact allowed.elim

variable {host : Host} {env : Surroundings}

def LeavesStore (env : Surroundings) : Prop :=
  ∀ evaluateRound, env.evaluateRound = some evaluateRound →
    ∀ s roundId epoch, (evaluateRound s roundId epoch).store = s

theorem nameFinalist_guarded (all : AllGuarded trusts verified s)
    (quorum : trusts = true → OpenOrAboveOne r.quorumRequired) (quiet : LeavesStore env) {candidate}
    (ran : nameFinalist env s r roundId candidate = .ok (s', r')) :
    AllGuarded trusts verified s' ∧ (trusts = true → OpenOrAboveOne r'.quorumRequired) := by
  unfold nameFinalist at ran
  split at ran
  · next finalist _ =>
    cases named : s.setRoundFinalist roundId finalist.submissionId finalist.imageId with
    | error e =>
      rw [named] at ran
      cases ran
    | ok done =>
      rw [named] at ran
      cases ran
      exact setRoundFinalist_guarded all named
  · split at ran
    · cases ran
      exact ⟨all, quorum⟩
    · next evaluateRound configured =>
      have same := quiet evaluateRound configured s roundId (r.closeEpoch.getD r.openedEpoch)
      dsimp only at ran
      rw [same] at ran
      split at ran
      · cases ran
        refine ⟨all, ?_⟩
        cases found : s.getRound roundId with
        | none => exact quorum
        | some read => exact (all roundId read found).quorum
      · cases ran
        exact ⟨all, quorum⟩

theorem maybePrepareRoundForCertification_guarded (all : AllGuarded trusts verified s)
    (quiet : LeavesStore env) (quorum : trusts = true → OpenOrAboveOne u.quorumRequired) {candidate}
    (ran : maybePrepareRoundForCertification env s roundId u candidate = .ok (s', r)) :
    AllGuarded trusts verified s' ∧ (trusts = true → OpenOrAboveOne r.quorumRequired) := by
  obtain ⟨adopted, adopts, ran⟩ := bind_eq_ok.mp ran
  have allAdopted : AllGuarded trusts verified adopted :=
    adoptLeaderRoundIfBehind_guarded all quorum (raising_eq_ok.mp adopts)
  split at ran
  · cases ran
  · next round known =>
    dsimp only at ran
    split at ran
    · obtain ⟨⟨closed, _⟩, closes, ran⟩ := bind_eq_ok.mp ran
      have guarded := closeCurrentRound_guarded allAdopted quorum (raising_eq_ok.mp closes)
      split at ran
      · exact nameFinalist_guarded guarded.1 guarded.2 quiet ran
      · cases ran
        exact guarded
    · obtain ⟨_, kept, ran⟩ := bind_eq_ok.mp ran
      cases kept
      split at ran
      · exact nameFinalist_guarded allAdopted (allAdopted roundId round known).quorum quiet ran
      · cases ran
        exact ⟨allAdopted, (allAdopted roundId _ known).quorum⟩

theorem certifyPrepared_guarded (all : AllGuarded trusts verified s) {body}
    (supplied : body.approvals.isEmpty = false)
    (quorum : trusts = true → 1 < quorumInForce host env r body)
    (ran : certifyPrepared host env s r body = .ok (s', r')) : AllGuarded trusts verified s' := by
  obtain ⟨p, _, _, _, stored⟩ := certifyPrepared_supplied supplied ran
  exact certifyRound_guarded all quorum stored

theorem one_lt_quorumInForce {body} (manager : 1 < managerQuorum host env)
    (round : OpenOrAboveOne r.quorumRequired) (request : body.quorumRequired ≠ 1) :
    1 < quorumInForce host env r body := by
  have default : 1 < defaultQuorum host env r := by
    unfold defaultQuorum intOr
    split
    · exact manager
    · next stated =>
      cases given : r.quorumRequired with
      | none => simp [given] at stated
      | some q =>
        rw [given, Option.getD_some] at stated
        exact (round q given).resolve_left stated
  unfold quorumInForce intOr
  split
  · exact default
  · next stated => omega

section

variable {node : ChampionNode} {consensus : ChampionState} {world : Epoch.Surroundings}
  {m m' : EpochManager}

theorem minor_guardedOp {op} (minor : Minor op) : GuardedOp trusts verified op := by
  cases op with
  | closeCurrentRound updates =>
    intro _ q some
    have absent : updates.quorumRequired = none := minor
    rw [absent] at some
    cases some
  | setRoundStatus roundId status => trivial
  | setActiveChampion | setPreviousChampion | setChampionAdoptionBar => trivial
  | ensureOpenRound | openNextRound | abortRound => trivial
  | _ => exact minor.elim

theorem guarded_of_steps (steps : OpSteps world (GuardedOp trusts verified) m m')
    (all : AllGuarded trusts verified m.rounds) : AllGuarded trusts verified m'.rounds := by
  apply steps.invariant (AllGuarded trusts verified) all
  intro s s' op allowed ran all
  exact (run_guarded all allowed ran).evict _

theorem roundCall_state (m : EpochManager) (op : RoundStore.Op) :
    (roundCall world m op).state = (m.roundOp world op).state := rfl

section

variable {Allowed : RoundStore.Op → Prop}

theorem getCurrentSolverRound_steps (crowns : ∀ champion, Allowed (.setActiveChampion champion true))
    (opens : ∀ epoch incumbent, Allowed (.ensureOpenRound epoch incumbent)) (m : EpochManager)
    (epochHint : Int) : OpSteps world Allowed m (getCurrentSolverRound world m epochHint).state := by
  apply OpSteps.andThen
  · unfold syncRoundIncumbentFromSubmissionStore
    split
    · exact .refl
    · dsimp only
      split
      · exact .refl
      · apply OpSteps.andThen
        · apply OpSteps.one
          exact crowns _
        · exact fun _ _ => .refl
  · intro m incumbent
    split
    · exact .refl
    · apply OpSteps.andThen
      · apply OpSteps.one
        exact opens _ _
      · intro m _
        split <;> exact .refl

theorem closeSolverRoundState_steps (crowns : ∀ champion, Allowed (.setActiveChampion champion true))
    (opens : ∀ epoch incumbent, Allowed (.ensureOpenRound epoch incumbent)) (m : EpochManager)
    {body : CloseRoundRequest}
    (closes : ∀ updates : RoundUpdates, updates.quorumRequired =
      (body.updates.quorumRequired <|> some (node.quorumRequired host consensus)) →
      Allowed (.closeCurrentRound updates)) :
    OpSteps world Allowed m (closeSolverRoundState host node consensus world m body).state := by
  apply OpSteps.andThen
  · exact getCurrentSolverRound_steps crowns opens m _
  · intro m current
    dsimp only
    split
    · exact .refl
    · split
      · exact .refl
      · exact .one (closes _ rfl)

end

theorem syncCloseSolverRoundState_guarded (all : AllGuarded trusts verified m.rounds) {body}
    (own : 1 < node.quorumRequired host consensus)
    (request : trusts = true → body.quorumRequired ≠ some 1) :
    AllGuarded trusts verified (syncCloseSolverRoundState host node consensus world m body).state.rounds := by
  unfold syncCloseSolverRoundState
  dsimp only
  split
  · exact all
  · split
    · exact all
    · next adopted adopts =>
      split
      · apply AllGuarded.evict
        exact adoptLeaderRoundIfBehind_guarded all
          (fun trusting => openOrAboveOne_request (request trusting)) adopts
      · have crowns : ∀ champion, GuardedOp trusts verified (.setActiveChampion champion true) :=
          fun _ => trivial
        have opens : ∀ epoch incumbent, GuardedOp trusts verified (.ensureOpenRound epoch incumbent) :=
          fun _ _ => trivial
        have closes : ∀ updates : RoundUpdates, updates.quorumRequired =
            (body.updates.quorumRequired <|> some (node.quorumRequired host consensus)) →
            GuardedOp trusts verified (.closeCurrentRound updates) := by
          intro updates asked trusting
          rw [asked]
          exact openOrAboveOne_orElse (openOrAboveOne_request (request trusting)) own
        exact guarded_of_steps (closeSolverRoundState_steps crowns opens _ closes) all

theorem followerContext_leavesStore (m : EpochManager) (clock : Surroundings) :
    LeavesStore (followerContext node consensus m clock) := by
  intro evaluateRound configured s roundId epoch
  cases configured
  rfl

theorem syncCertifiedRoundState_guarded (all : AllGuarded trusts verified m.rounds)
    (clock : Surroundings) {body} (own : 1 < node.quorumRequired host consensus)
    (request : trusts = true → body.quorumRequired ≠ 1) :
    AllGuarded trusts verified
      (syncCertifiedRoundState host node consensus world m clock body).state.rounds := by
  unfold syncCertifiedRoundState
  dsimp only
  split
  · exact all
  · split
    · exact all
    · next prepared round ready =>
      have guarded := maybePrepareRoundForCertification_guarded all
        (followerContext_leavesStore m clock) (fun _ q none => by cases none) ready
      split
      · exact guarded.1.evict _
      · next supplied =>
        split
        · exact guarded.1.evict _
        · next certified =>
          apply AllGuarded.evict
          apply certifyPrepared_guarded guarded.1 (by simpa using supplied) _ certified
          intro trusting
          exact one_lt_quorumInForce own (guarded.2 trusting) (request trusting)

theorem prepareForProposal_guarded (all : AllGuarded trusts verified m.rounds)
    (clock : Surroundings) {body} (request : trusts = true → body.quorumRequired ≠ some 1) :
    AllGuarded trusts verified (prepareForProposal node consensus world m clock body).state.rounds := by
  unfold prepareForProposal
  split
  · exact all
  · next prepared round ready =>
    apply AllGuarded.evict
    exact (maybePrepareRoundForCertification_guarded all (followerContext_leavesStore m clock)
      (fun trusting => openOrAboveOne_request (request trusting)) ready).1

theorem storeProposedCertificate_guarded (all : AllGuarded trusts verified m.rounds)
    {output : ChampionOutput} (waiting : Option String)
    (built : ∀ result certificate, output.result? = some result → result.reached = true →
      result.certificate = some certificate → trusts = true → 1 < certificate.quorumRequired) :
    AllGuarded trusts verified (storeProposedCertificate world m output waiting).rounds := by
  unfold storeProposedCertificate
  split
  · next p result roundId returned =>
    split
    · next certificate reached =>
      have stored : OpSteps world (GuardedOp trusts verified) m
          (m.roundOp world (.certifyRound roundId certificate)).state := by
        apply OpSteps.one
        split at reached
        · next yes =>
          have out : output.result? = some result := by
            rw [returned?_eq_some.mp returned]
            rfl
          exact built result certificate out yes reached
        · cases reached
      exact guarded_of_steps stored all
    · exact all
  · exact all

theorem syncAbortSolverRoundState_steps (m : EpochManager) (body : AbortRoundRequest) :
    OpSteps world (GuardedOp trusts verified) m (syncAbortSolverRoundState world m body).state := by
  have aborts : OpSteps world (GuardedOp trusts verified) m
      (roundCall world m (.abortRound body.roundId body.reason)).state := by
    apply OpSteps.one
    trivial
  unfold syncAbortSolverRoundState
  split
  · exact .refl
  · split
    · split
      · exact aborts
      · exact .refl
    · exact .refl
    · exact .refl
    · exact aborts

theorem activateSolverRoundState_steps (m : EpochManager) (body : ActivateRoundRequest) :
    OpSteps world (GuardedOp trusts verified) m (activateSolverRoundState world m body).state := by
  unfold activateSolverRoundState
  split
  · exact .refl
  · apply OpSteps.andThen
    · exact EpochManager.activateCertifiedRound_steps (fun _ => minor_guardedOp) (fun _ _ => trivial)
        m _ _ _
    · exact fun _ _ => .refl

theorem certifiedCandidate_some {round certificate candidate}
    (certified : Epoch.certifiedCandidate round = some (certificate, candidate)) :
    round.certificate = some certificate := by
  unfold Epoch.certifiedCandidate at certified
  cases stored : round.certificate with
  | none =>
    rw [stored] at certified
    cases certified
  | some c =>
    rw [stored, Option.bind_some, Option.map_eq_some_iff] at certified
    obtain ⟨_, _, same⟩ := certified
    cases same
    rfl

theorem follower_commits_through_gate {roundId : String} {epoch : Int} {leaderChampionChanged : Option Bool}
    (follower : world.isLeader = some false) (before : ¬ m.rounds.Activated roundId)
    (after : (m.activateCertifiedRound world roundId epoch
      leaderChampionChanged).state.rounds.Activated roundId) :
    ∃ round certificate candidate submission, m.rounds.getRound roundId = some round ∧
      Epoch.certifiedCandidate round = some (certificate, candidate) ∧
      m.subs.get candidate = some submission ∧
      Epoch.followerAdopts world round certificate candidate submission leaderChampionChanged = true := by
  have refuses : ∀ (m' : EpochManager) result reason, m.ActivatesNothing m' →
      ¬ (m'.refuseActivation world result reason).state.rounds.Activated roundId := by
    intro m' result reason quiet activated
    have aborts : OpSteps world Minor m' (m'.refuseActivation world result reason).state := by
      apply OpSteps.andThen
      · exact EpochManager.abortAndReopen_steps m' _ _ _
      · exact fun _ _ => .refl
    exact before (quiet roundId (aborts.activatesNothing roundId activated))
  unfold EpochManager.activateCertifiedRound at after
  split at after
  · exact absurd after before
  · next round known =>
    split at after
    · exact absurd after before
    · split at after
      · exact absurd after before
      · next certificate candidate certified =>
        dsimp only at after
        split at after
        · exact absurd after (refuses m _ _ (.refl m))
        · split at after
          · exact absurd after before
          · split at after
            · exact absurd after before
            · next submission found =>
              refine ⟨round, certificate, candidate, submission, known, certified, found, ?_⟩
              unfold EpochManager.activateCandidate at after
              dsimp only at after
              split at after
              · split at after
                · exact absurd after before
                · exact absurd after (refuses m _ _ (.refl m))
              · split at after
                · exact absurd after (refuses _ _ _ (EpochManager.resetToBurn_steps m).activatesNothing)
                · next adopts =>
                  have indefinite : world.isDefiniteLeader = false := by
                    simp [Epoch.Surroundings.isDefiniteLeader, Epoch.Surroundings.isFollower, follower]
                  simpa [indefinite] using adopts

end

end MinotaurSubnet.Api
