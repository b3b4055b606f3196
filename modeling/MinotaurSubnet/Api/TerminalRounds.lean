import MinotaurSubnet.Api.OrderlyRounds
import MinotaurSubnet.Harness.RoundFreshness

/-! # Terminal rounds

In an orderly run a round that is activated or aborted keeps that status, and a certified round
changes only in an activation of its own.
-/

namespace MinotaurSubnet.Api

open Library Python Consensus Harness
open Epoch (EpochManager ReopensUnused)

def RoundRequest.Activates (roundId : String) : RoundRequest → Prop
  | .activate body => body.roundId = roundId
  | _ => False

def RoundStage.Activates (roundId : String) : RoundStage → Prop
  | .activating stage => stage.roundId = roundId
  | _ => False

namespace RoundHistory

variable {host : Host} {h later : RoundHistory} {roundId : String} {P : RoundStatus → Prop}

def ActivationTurn (h : RoundHistory) (roundId : String) : RoundSchedule → Prop
  | .start request => request.1.Activates roundId
  | .resume i _ => ∃ stage, h.calls.stages[i]? = some stage ∧ stage.Activates roundId

abbrev Attended (h : RoundHistory) : Prop :=
  Cooperative.Attended RoundStage.Standing RoundStage.Apart h.calls

theorem mem_taken_of_settled (member : roundId ∈ h.settled) : roundId ∈ h.taken :=
  List.mem_append_left _ member

theorem mem_taken_of_waits {stage} (waits : stage ∈ h.calls.stages) :
    stage.roundId ∈ h.taken :=
  List.mem_append_right _ (List.mem_map_of_mem waits)

theorem unopened (stage : RoundStage) : ¬ stage.Statuses .open := by
  cases stage with
  | evaluating | preparing => exact fun undecided => undecided.1 rfl
  | proposing => exact fun asked => by simp [RoundStage.Statuses] at asked
  | activating => exact fun certified => by cases certified

/-- A request that clashes with no waiting call leaves each what it relies on. -/
theorem request_spares {request m at_ taken other} (stands : other.Standing m)
    (free : ¬ request.Clashes other) (sound : RequestSound taken at_ m request) :
    request.Spares m other.roundId other.Statuses := by
  have status : ∀ r ∈ m.rounds.getRound other.roundId, other.Statuses r.status := stands
  cases request with
  | close | elsewhere => trivial
  | evaluate key epoch =>
    rintro rfl
    cases other with
    | evaluating | preparing | proposing => exact absurd ⟨rfl, trivial⟩ free
    | activating =>
      refine Option.eq_none_iff_forall_not_mem.mpr fun r found => ?_
      have unsettled := sound.1 r found
      rw [show r.status = .certified from status r found] at unsettled
      cases unsettled
  | certify body =>
    intro same r found
    cases other with
    | evaluating | preparing => exact absurd ⟨congrArg some same, trivial⟩ free
    | proposing =>
      obtain certifying | certified := status r found
      · exact .inr ⟨certifying, .inr rfl⟩
      · exact .inl (by rw [certified]; rfl)
    | activating => exact .inl (by rw [show r.status = .certified from status r found]; rfl)
  | activate body =>
    intro same r found certified
    cases other with
    | proposing | activating => exact absurd ⟨congrArg some same, trivial⟩ free
    | evaluating | preparing =>
      have undecided := (status r found).2
      rw [certified] at undecided
      cases undecided
  | abort | deadline =>
    intro same r found
    cases other with
    | evaluating | preparing | proposing => exact absurd ⟨congrArg some same, trivial⟩ free
    | activating =>
      rw [show r.status = .certified from status r found]
      rfl

theorem stage_spares {stage other : RoundStage} {m} (apart : stage.Apart other) :
    stage.Spares m other.roundId other.Statuses := by
  cases stage with
  | evaluating | preparing | activating => exact fun same => absurd (apart same).1 not_false
  | proposing =>
    intro same r found
    cases other with
    | proposing => exact .inr rfl
    | evaluating | preparing | activating => exact absurd (apart same).2 not_false

theorem attended_step {e} (attended : h.Attended) (orderly : h.Orderly e) :
    (h.step host e).1.Attended := by
  apply Cooperative.Attended.step attended fun apart same => (apart same.symm).symm
  · rintro ⟨request, at_⟩ rfl
    obtain ⟨free, sound⟩ := orderly
    constructor
    · intro other waiting
      have stands := attended.relies other waiting
      exact start_statusIn stands (unopened other) (mem_taken_of_waits waiting)
        (request_spares stands (free other waiting) sound) sound
    · intro m' stage waits
      obtain ⟨standing, beside⟩ := start_waits sound waits
      refine ⟨standing, fun other waiting => ?_⟩
      exact beside other (mem_taken_of_waits waiting) (attended.relies other waiting) (free other waiting)
  · rintro i stage at_ others rfl waits rest
    have sound := orderly stage waits
    constructor
    · intro other member
      obtain ⟨waiting, apart⟩ := rest other member
      exact resume_statusIn (attended.relies other waiting) (mem_taken_of_waits waiting)
        (stage_spares apart) sound
    · intro m' next waitsAgain
      have standing := attended.relies stage (List.mem_of_getElem? waits)
      obtain ⟨stands, same, silent⟩ := resume_waits standing waitsAgain
      refine ⟨stands, fun other member same' => ?_⟩
      obtain ⟨-, apart⟩ := rest other member
      exact absurd (apart (same'.trans same).symm).1 silent

theorem attended_of_reached {m} (reached : Reaches (step host) Orderly (start m) h) :
    h.Attended :=
  reached.invariant Attended ⟨(fun _ waiting => by cases waiting), .nil⟩ fun _ _ attended => attended_step attended

def Noted (h : RoundHistory) : Prop :=
  ∀ roundId r, h.calls.shared.rounds.getRound roundId = some r → r.status.settled = true →
    roundId ∈ h.settled

theorem noted_start (m : EpochManager) : (start m).Noted := fun _ _ found settled =>
  RoundStore.mem_settledIds found settled

theorem noted_step (h : RoundHistory) (e : RoundSchedule) : (h.step host e).1.Noted :=
  fun _ _ found settled => List.mem_append_left _ (RoundStore.mem_settledIds found settled)

theorem noted_of_reached {m} (reached : Reaches (step host) Orderly (start m) h) :
    h.Noted :=
  reached.invariant Noted (noted_start m) fun h e _ _ => h.noted_step e

section

variable {m : EpochManager} {at_ : Moment} {taken : List String}

theorem request_spares_of_settled (ended : ∀ st, P st → st.settled = true)
    (within : m.rounds.StatusIn roundId P) {request} (sound : RequestSound taken at_ m request)
    (own : request.Activates roundId → P .certified → P .activated ∧ P .aborted) :
    request.Spares m roundId P := by
  cases request with
  | close | elsewhere => trivial
  | evaluate key epoch =>
    rintro rfl
    refine Option.eq_none_iff_forall_not_mem.mpr fun r found => ?_
    have unsettled := sound.1 r found
    rw [ended r.status (within r found)] at unsettled
    cases unsettled
  | certify body => exact fun _ r found => .inl (ended r.status (within r found))
  | activate body => exact fun same r found certified => own same (certified ▸ within r found)
  | abort | deadline => exact fun _ r found => ended r.status (within r found)

theorem stage_spares_of_settled (ended : ∀ st, P st → st.settled = true)
    (within : m.rounds.StatusIn roundId P) {stage : RoundStage} (standing : stage.Standing m)
    (own : stage.Activates roundId → P .certified → P .activated ∧ P .aborted) :
    stage.Spares m roundId P := by
  cases stage with
  | evaluating | preparing =>
    rintro rfl
    refine Option.eq_none_iff_forall_not_mem.mpr fun r found => ?_
    have undecided := (standing r found).2
    rw [ended r.status (within r found)] at undecided
    cases undecided
  | proposing body =>
    rintro rfl r found
    have settled := within r found
    obtain certifying | certified := standing r found
    · rw [certifying] at settled
      exact absurd (ended _ settled) (by decide)
    · exact certified ▸ settled
  | activating stage =>
    rintro rfl r found
    have certified : r.status = .certified := standing r found
    exact own rfl (certified ▸ within r found)

end

/-- What a settled round is after an orderly step. -/
theorem step_statusIn (ended : ∀ st, P st → st.settled = true)
    (within : h.calls.shared.rounds.StatusIn roundId P) (member : roundId ∈ h.settled)
    (attended : h.Attended) {e} (orderly : h.Orderly e)
    (own : h.ActivationTurn roundId e → P .certified → P .activated ∧ P .aborted) :
    (h.step host e).1.calls.shared.rounds.StatusIn roundId P := by
  have permitted : Cooperative.Permits
      (fun m (request : RoundRequest × Moment) => RequestSound h.taken request.2 m request.1)
      (fun m stage at_ => StageSound h.taken at_ m stage) h.calls e := by
    cases e with
    | start request => exact orderly.2
    | resume i at_ => exact orderly
  apply Cooperative.step_shared permitted (fun m : EpochManager => m.rounds.StatusIn roundId P) within
  · rintro request rfl sound
    have unopened : ¬ P .open := fun opened => absurd (ended .open opened) (by decide)
    exact start_statusIn within unopened (mem_taken_of_settled member)
      (request_spares_of_settled ended within sound own) sound
  · rintro i stage at_ rfl waits sound
    apply resume_statusIn within (mem_taken_of_settled member) _ sound
    apply stage_spares_of_settled ended within (attended.relies stage (List.mem_of_getElem? waits))
    exact fun activates => own ⟨stage, waits, activates⟩

theorem status_of_statusIn {P : RoundStatus → Prop}
    (within : h.calls.shared.rounds.StatusIn roundId P) :
    h.status roundId = none ∨ ∃ st, P st ∧ h.status roundId = some st := by
  unfold status
  cases found : h.calls.shared.rounds.getRound roundId with
  | none => exact .inl rfl
  | some r => exact .inr ⟨r.status, within r found, rfl⟩

theorem statusIn_of_status {st} (known : h.status roundId = some st) :
    h.calls.shared.rounds.StatusIn roundId (· = st) := by
  intro r found
  unfold status at known
  rw [show h.calls.shared.rounds.getRound roundId = some r from found] at known
  exact Option.some.inj known

theorem Noted.member (noted : h.Noted) {st} (known : h.status roundId = some st)
    (settled : st.settled = true) : roundId ∈ h.settled := by
  obtain ⟨r, found, rfl⟩ := Option.map_eq_some_iff.mp known
  exact noted roundId r found settled

theorem status_kept {st} (terminal : st = .activated ∨ st = .aborted)
    (known : h.status roundId = some st) (noted : h.Noted) (attended : h.Attended)
    (run : Reaches (step host) Orderly h later) :
    later.status roundId = some st ∨ later.status roundId = none := by
  have settled : st.settled = true := by obtain rfl | rfl := terminal <;> rfl
  have kept : later.calls.shared.rounds.StatusIn roundId (· = st) ∧ roundId ∈ later.settled ∧
      later.Attended := by
    apply run.invariant fun h : RoundHistory =>
      h.calls.shared.rounds.StatusIn roundId (· = st) ∧ roundId ∈ h.settled ∧ h.Attended
    · exact ⟨statusIn_of_status known, noted.member known settled, attended⟩
    · rintro h e ⟨within, member, attended⟩ orderly
      refine ⟨step_statusIn ?_ within member attended orderly ?_, List.mem_append_right _ member,
        attended_step attended orderly⟩
      · rintro st rfl
        exact settled
      · rintro - rfl
        obtain same | same := terminal <;> cases same
  obtain gone | ⟨st', rfl, same⟩ := status_of_statusIn kept.1
  · exact .inr gone
  · exact .inl same

end RoundHistory

/-- In an orderly run an activated or aborted round stays so, and a certified one is
    only changed by an activation of its own, which activates or aborts it. A round the store
    has forgotten has no status. -/
theorem terminal_rounds_stay (host : Host) (m : EpochManager) (h : RoundHistory)
    (reached : Reaches (RoundHistory.step host) RoundHistory.Orderly (.start m) h)
    (roundId : String) :
    (∀ st, st = .activated ∨ st = .aborted → h.status roundId = some st →
      ∀ later, Reaches (RoundHistory.step host) RoundHistory.Orderly h later →
        later.status roundId = some st ∨ later.status roundId = none) ∧
    (h.status roundId = some .certified → ∀ e, h.Orderly e →
      let next := (h.step host e).1
      next.status roundId = some .certified ∨ next.status roundId = none ∨
        (h.ActivationTurn roundId e ∧
          (next.status roundId = some .activated ∨ next.status roundId = some .aborted))) := by
  have noted := RoundHistory.noted_of_reached reached
  have attended := RoundHistory.attended_of_reached reached
  refine ⟨fun st terminal known later run => RoundHistory.status_kept terminal known noted attended run, ?_⟩
  intro known e orderly
  have member := noted.member known rfl
  have standing := RoundHistory.statusIn_of_status known
  by_cases own : h.ActivationTurn roundId e
  · have turned : (h.step host e).1.calls.shared.rounds.StatusIn roundId (·.settled = true) := by
      apply RoundHistory.step_statusIn (fun _ settled => settled) _ member attended orderly
      · exact fun _ _ => ⟨rfl, rfl⟩
      · intro r found
        rw [standing r found]
        rfl
    obtain gone | ⟨st, settled, status⟩ := RoundHistory.status_of_statusIn turned
    · exact .inr (.inl gone)
    · cases st with
      | certified => exact .inl status
      | activated => exact .inr (.inr ⟨own, .inl status⟩)
      | aborted => exact .inr (.inr ⟨own, .inr status⟩)
      | «open» | closed | replaying | shadowing | certifying => cases settled
  · have kept : (h.step host e).1.calls.shared.rounds.StatusIn roundId (· = .certified) := by
      apply RoundHistory.step_statusIn _ standing member attended orderly
      · exact fun turn => absurd turn own
      · rintro st rfl
        rfl
    obtain gone | ⟨st, rfl, status⟩ := RoundHistory.status_of_statusIn kept
    · exact .inr (.inl gone)
    · exact .inl status

/-- A store within its cap evicts nothing when a record is rewritten. -/
theorem epochCount_of_room {p : RoundPersistence} {now key} {s s' : RoundStore}
    (room : (s.rounds.size : Int) ≤ p.maxRounds) (rewritten : s.RewrittenTo p now key s')
    (epoch : Int) :
    s'.rounds.size = s.rounds.size ∧ s'.epochCount epoch = s.epochCount epoch := by
  induction rewritten with
  | refl => exact ⟨rfl, rfl⟩
  | @tail t _ _ last ih =>
    obtain ⟨op, u, stays, ran, rfl⟩ := last
    have rewrites : u.rounds.size = t.rounds.size ∧ u.epochCount epoch = t.epochCount epoch := by
      cases RoundStore.run_change ran with
      | records same current => exact ⟨by rw [same], by unfold RoundStore.epochCount; rw [same]⟩
      | rewrite roundId r r' found records current how =>
        refine ⟨?_, RoundStore.epochCount_rewrite found records how.sameEpoch epoch⟩
        rw [records]
        have whole : ((t.rounds.set roundId r').values.countP fun _ => true) =
            t.rounds.values.countP fun _ => true := Dict.countP_set_of_some found rfl
        simpa using whole
      | opened openedEpoch incumbent call idle result =>
        obtain rfl | rfl := call
        · exact stays.elim
        · exact stays.elim
      | adopted roundId openedEpoch status incumbent fields call result =>
        subst call
        exact stays.elim
    have kept : p.evict u = u := by
      unfold RoundPersistence.evict RoundStore.evictRounds
      split
      · rw [if_pos (.inr (by rw [rewrites.1, ih.1]; exact room))]
      · rfl
    rw [kept]
    exact ⟨rewrites.1.trans ih.1, rewrites.2.trans ih.2⟩

theorem reopensUnused_of_room {taken} {env : Epoch.Surroundings} {s : RoundStore} {key epoch}
    (room : (s.rounds.size : Int) ≤ env.persistence.maxRounds)
    (unused : s.buildRoundId epoch ∉ taken) : ReopensUnused taken env key epoch s := by
  intro s' rewritten _
  unfold RoundStore.buildRoundId
  rw [(epochCount_of_room room rewritten epoch).2]
  exact unused

def scoredMiner : SubmissionRecord := { minerSubmission with status := .scored }

def closedRound : EpochManager where
  rounds := {
    rounds := Dict.empty.set "round-e5-n1"
      { roundId := "round-e5-n1", status := .closed, openedEpoch := 5, closeEpoch := some 5 }
    currentRoundId := some "round-e5-n1" }
  subs := SubmissionStore.empty.put scoredMiner

def leaderMoment : Moment where
  env := { followerWorld with isLeader := none }
  steps := { findChampionCandidates := fun _ _ _ => [scoredMiner], meetsAdoptionCriteria := fun _ _ => true }
  clock := followerClock

def evaluateClosedRound : RoundSchedule := .start (.evaluate "round-e5-n1" 5, leaderMoment)

def abortRound (roundId : String) : RoundSchedule :=
  .start (.abort { roundId, reason := "operator" }, leaderMoment)

def earlierRound : RoundState where
  roundId := "round-e4-n1"
  status := .closed
  openedEpoch := 4
  closeEpoch := some 4

def twoRounds : EpochManager :=
  { closedRound with
    rounds := { closedRound.rounds with
      rounds := closedRound.rounds.rounds.set "round-e4-n1" earlierRound } }

/-- The earlier round is aborted while the evaluation of the other one waits. -/
def abortedBeside : RoundHistory :=
  runEvents (RoundHistory.step spellingHost) (.start twoRounds)
    [evaluateClosedRound, abortRound "round-e4-n1"]

theorem terminal_rounds_stay_aborted_beside :
    abortedBeside.status "round-e4-n1" = some .aborted ∧
      ∀ later, Reaches (RoundHistory.step spellingHost) RoundHistory.Orderly abortedBeside later →
        later.status "round-e4-n1" = some .aborted ∨ later.status "round-e4-n1" = none := by
  have aborted : abortedBeside.status "round-e4-n1" = some .aborted := by decide +kernel
  have evaluates : (RoundHistory.start twoRounds).Orderly evaluateClosedRound := by
    refine ⟨(fun stage waits => by cases waits), ?_, ?_⟩
    · decide +kernel
    · exact reopensUnused_of_room (by decide +kernel) (by decide +kernel)
  have aborts : ((RoundHistory.start twoRounds).step spellingHost evaluateClosedRound).1.Orderly
      (abortRound "round-e4-n1") := by
    have waiting : ∀ stage ∈ ((RoundHistory.start twoRounds).step spellingHost
        evaluateClosedRound).1.calls.stages, stage.roundId ≠ "round-e4-n1" := by
      decide +kernel
    refine ⟨fun stage waits clash => ?_, trivial⟩
    exact waiting stage waits (Option.some.inj clash.1).symm
  have reached : Reaches (RoundHistory.step spellingHost) RoundHistory.Orderly (.start twoRounds)
      abortedBeside := by
    apply AllowedAlong.reaches
    exact ⟨evaluates, aborts, trivial⟩
  exact ⟨aborted, (terminal_rounds_stay spellingHost twoRounds abortedBeside reached
    "round-e4-n1").1 .aborted (.inr rfl) aborted⟩

/-- The round is aborted while its own evaluation waits. -/
def abortedMeanwhile : RoundHistory :=
  runEvents (RoundHistory.step spellingHost) (.start closedRound)
    [evaluateClosedRound, abortRound "round-e5-n1"]

def evaluatedAnyway : RoundHistory :=
  runEvents (RoundHistory.step spellingHost) abortedMeanwhile
    [.resume 0 leaderMoment, .resume 0 leaderMoment, .resume 0 leaderMoment]

theorem aborted_round_is_certifying_again :
    ¬ ∀ (host : Host) (m : EpochManager) (h : RoundHistory),
      Reaches (RoundHistory.step host) (fun _ _ => True) (.start m) h → ∀ roundId st,
        st = .activated ∨ st = .aborted → h.status roundId = some st → ∀ later,
          Reaches (RoundHistory.step host) (fun _ _ => True) h later →
            later.status roundId = some st ∨ later.status roundId = none := by
  intro claim
  have revived : evaluatedAnyway.status "round-e5-n1" = some .certifying := by decide +kernel
  have kept := claim spellingHost closedRound abortedMeanwhile (reaches_runEvents _ _ _) "round-e5-n1"
    .aborted (.inr rfl) (by decide +kernel) evaluatedAnyway (reaches_runEvents _ _ _)
  rw [revived] at kept
  simp at kept

end MinotaurSubnet.Api
