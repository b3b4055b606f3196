import Mathlib.Logic.Relation
import MinotaurSubnet.Harness.RoundLifecycle

/-! # Settled rounds

A round is settled once it is certified, activated or aborted. The mutators of the store
set the status they are asked for, whatever it was; what a call can do to a settled round
is therefore the status it names, a round opened under the same id, and an adoption.
-/

namespace MinotaurSubnet.Harness

open Library Python Consensus

def RoundStatus.settled : RoundStatus → Bool
  | .certified | .activated | .aborted => true
  | _ => false

namespace RoundStore

/-- The status of the round, where the store knows the round, satisfies `P`. -/
def StatusIn (s : RoundStore) (roundId : String) (P : RoundStatus → Prop) : Prop :=
  ∀ r, s.rounds.get? roundId = some r → P r.status

def settledIds (s : RoundStore) : List String :=
  (s.rounds.entries.filter fun entry => entry.2.status.settled).map Prod.fst

theorem mem_settledIds {s : RoundStore} {roundId} {r : RoundState}
    (found : s.rounds.get? roundId = some r) (settled : r.status.settled = true) :
    roundId ∈ s.settledIds :=
  List.mem_map.mpr ⟨(roundId, r), List.mem_filter.mpr ⟨Dict.get?_eq_some.mp found, settled⟩, rfl⟩

def Op.writes (roundId : String) : Op → Option RoundStatus
  | .setRoundStatus key status => if key = roundId then some status else none
  | .setRoundFinalist key _ _ _ => if key = roundId then some .certifying else none
  | .certifyRound key _ => if key = roundId then some .certified else none
  | .activateRound key _ => if key = roundId then some .activated else none
  | .abortRound key _ => if key = roundId then some .aborted else none
  | _ => none

def Op.NamesRound : Op → Prop
  | .ensureOpenRound _ _ | .openNextRound _ _ | .adoptRound _ _ _ _ _ | .closeCurrentRound _ => False
  | _ => True

/-- The call rewrites the record of `key` only; with no key, it rewrites no round's status. -/
def Op.StaysWith (key : Option String) : Op → Prop
  | .setRoundStatus k _ | .setRoundFinalist k _ _ _ | .certifyRound k _ | .activateRound k _
  | .abortRound k _ => some k = key
  | .setActiveChampion _ _ | .setPreviousChampion _ | .setChampionAdoptionBar => True
  | _ => False

/-- What such calls make of a store, each with the eviction of its persist. -/
def RewrittenTo (p : RoundPersistence) (now : ℚ) (key : Option String) :
    RoundStore → RoundStore → Prop :=
  Relation.ReflTransGen fun s s' =>
    ∃ op u, Op.StaysWith key op ∧ s.run now op = .ok (some u) ∧ s' = p.evict u

variable {s s' : RoundStore} {roundId : String} {P : RoundStatus → Prop}

theorem Op.StaysWith.of_none {key} {op : Op} (stays : op.StaysWith none) :
    op.StaysWith key := by
  cases op with
  | setActiveChampion | setPreviousChampion | setChampionAdoptionBar => trivial
  | setRoundStatus | setRoundFinalist | certifyRound | activateRound | abortRound => cases stays
  | ensureOpenRound | openNextRound | adoptRound | closeCurrentRound | setRoundVetoObserve
  | setRoundForkPins | markSelfVerified | setBenchedSlate => exact stays.elim

theorem Op.StaysWith.spares {key} {op : Op} (stays : op.StaysWith key)
    (other : key ≠ some roundId) : op.NamesRound ∧ op.writes roundId = none := by
  have ne : ∀ k, some k = key → k ≠ roundId := by
    rintro k rfl rfl
    exact other rfl
  cases op with
  | setActiveChampion | setPreviousChampion | setChampionAdoptionBar => exact ⟨trivial, rfl⟩
  | setRoundStatus | setRoundFinalist | certifyRound | activateRound | abortRound =>
    exact ⟨trivial, if_neg (ne _ stays)⟩
  | ensureOpenRound | openNextRound | adoptRound | closeCurrentRound | setRoundVetoObserve
  | setRoundForkPins | markSelfVerified | setBenchedSlate => exact stays.elim

theorem RewrittenTo.of_none {p now key} (rewritten : s.RewrittenTo p now none s') :
    s.RewrittenTo p now key s' := by
  induction rewritten with
  | refl => exact .refl
  | tail _ last ih =>
    obtain ⟨op, u, stays, ran, rfl⟩ := last
    exact ih.tail ⟨op, u, stays.of_none, ran, rfl⟩

theorem StatusIn.set {key r} (within : s.StatusIn roundId P)
    (records : s'.rounds = s.rounds.set key r) (status : key = roundId → P r.status) :
    s'.StatusIn roundId P := by
  intro found record
  rw [records, Dict.get?_set] at record
  split at record
  · next same =>
    cases record
    exact status same.symm
  · exact within found record

theorem StatusIn.evict (within : s.StatusIn roundId P) (p : RoundPersistence) :
    (p.evict s).StatusIn roundId P := by
  intro r record
  exact within r (RoundPersistence.evict_some record)

theorem modifyRound_statusIn {key} {f : RoundState → RoundState} (within : s.StatusIn roundId P)
    (ran : (s.modifyRound key f).map some = .ok (some s'))
    (status : ∀ r, s.rounds.get? key = some r → key = roundId → P (f r).status) :
    s'.StatusIn roundId P := by
  unfold modifyRound at ran
  split at ran
  · cases ran
  · next r found =>
    cases ran
    exact within.set rfl (status r found)

theorem modifyCurrent_statusIn {f : RoundState → RoundState} (within : s.StatusIn roundId P)
    (keeps : ∀ r, (f r).status = r.status) : (s.modifyCurrent f).StatusIn roundId P := by
  unfold modifyCurrent
  split
  · exact within
  · next current found =>
    obtain ⟨key, pointer, _, record⟩ := getCurrentRound_some found
    rw [pointer]
    apply within.set rfl
    rintro rfl
    rw [keeps]
    exact within current record

theorem run_statusIn {now op} (within : s.StatusIn roundId P) (named : op.NamesRound)
    (status : ∀ r st, s.rounds.get? roundId = some r → op.writes roundId = some st → P st)
    (ran : s.run now op = .ok (some s')) : s'.StatusIn roundId P := by
  cases op with
  | setActiveChampion champion syncOpenRound =>
    cases ran
    unfold setActiveChampion
    dsimp only
    have crowned : StatusIn { s with activeChampion := champion } roundId P := within
    split
    · exact modifyCurrent_statusIn crowned fun _ => rfl
    · exact crowned
  | setPreviousChampion champion =>
    cases ran
    exact within
  | setChampionAdoptionBar =>
    cases ran
    exact within
  | setRoundVetoObserve key =>
    simp only [run, Except.ok.injEq] at ran
    split at ran
    · cases ran
      exact within
    · cases ran
  | setRoundStatus key written =>
    apply modifyRound_statusIn within ran
    rintro r found rfl
    exact status r written found (if_pos rfl)
  | setRoundFinalist key submissionId imageId shadowCaseLogHash =>
    simp only [run, setRoundFinalist] at ran
    split at ran
    · cases ran
    · next r found =>
      cases ran
      apply within.set rfl
      rintro rfl
      exact status r .certifying found (if_pos rfl)
  | setRoundForkPins key pins =>
    simp only [run, setRoundForkPins] at ran
    split at ran
    · cases ran
    · next r found =>
      split at ran
      · split at ran
        · cases ran
          apply within.set rfl
          rintro rfl
          exact within r found
        · cases ran
      · cases ran
        apply within.set rfl
        rintro rfl
        exact within r found
  | certifyRound key certificate =>
    simp only [run, certifyRound] at ran
    split at ran
    · cases ran
    · next r found =>
      cases ran
      apply within.set rfl
      rintro rfl
      exact status r .certified found (if_pos rfl)
  | activateRound key effectiveEpoch =>
    apply modifyRound_statusIn within ran
    rintro r found rfl
    exact status r .activated found (if_pos rfl)
  | abortRound key reason =>
    apply modifyRound_statusIn within ran
    rintro r found rfl
    exact status r .aborted found (if_pos rfl)
  | markSelfVerified key submissionId =>
    apply modifyRound_statusIn within ran
    rintro r found rfl
    exact within r found
  | setBenchedSlate key submissionIds =>
    apply modifyRound_statusIn within ran
    rintro r found rfl
    exact within r found
  | ensureOpenRound | openNextRound | adoptRound | closeCurrentRound => exact named.elim

theorem StatusIn.rewritten {p now key} (within : s.StatusIn roundId P) (other : key ≠ some roundId)
    (rewritten : s.RewrittenTo p now key s') : s'.StatusIn roundId P := by
  induction rewritten with
  | refl => exact within
  | tail _ last ih =>
    obtain ⟨op, u, stays, ran, rfl⟩ := last
    obtain ⟨named, quiet⟩ := stays.spares other
    apply StatusIn.evict
    apply run_statusIn ih named _ ran
    intro r st _ written
    rw [quiet] at written
    cases written

theorem openRound_statusIn (within : s.StatusIn roundId P) {epoch}
    (unused : s.buildRoundId epoch ≠ roundId) (incumbent : Option ChampionSnapshot) (now : ℚ) :
    (s.openRound epoch incumbent now).StatusIn roundId P :=
  within.set rfl fun same => absurd same unused

theorem ensureOpenRound_statusIn {epoch incumbent now} (within : s.StatusIn roundId P)
    (unused : s.currentIsOpen = false → s.buildRoundId epoch ≠ roundId)
    (ran : s.ensureOpenRound epoch incumbent now = some s') : s'.StatusIn roundId P := by
  unfold ensureOpenRound at ran
  split at ran
  · cases incumbent with
    | none => cases ran
    | some champion =>
      cases ran
      exact modifyCurrent_statusIn within fun _ => rfl
  · next idle =>
    cases ran
    exact openRound_statusIn within (unused (by simpa using idle)) incumbent now

theorem current_ne_of_open (within : s.StatusIn roundId P) (settled : ¬ P .open) {current}
    (found : s.getCurrentRound = some current) (live : current.status = .open) :
    s.currentRoundId.getD "" ≠ roundId := by
  obtain ⟨key, pointer, _, record⟩ := getCurrentRound_some found
  rw [pointer]
  rintro rfl
  exact settled (live ▸ within current record)

theorem closeCurrentRound_statusIn (within : s.StatusIn roundId P) (settled : ¬ P .open)
    {current closed u} (found : s.getCurrentRound = some current) (live : current.status = .open)
    (ran : s.closeCurrentRound u = .ok (s', closed)) :
    s'.StatusIn roundId P := by
  unfold closeCurrentRound at ran
  rw [found] at ran
  obtain ⟨rfl, -⟩ := Prod.mk.inj (Except.ok.inj ran)
  exact within.set rfl fun same => absurd same (current_ne_of_open within settled found live)

theorem supersede_statusIn (within : s.StatusIn roundId P) (settled : ¬ P .open) (adopted : String) :
    (s.supersede adopted).StatusIn roundId P := by
  unfold supersede
  split
  · next current found =>
    split
    · next stale =>
      exact within.set rfl fun same => absurd same (current_ne_of_open within settled found stale.1)
    · exact within
  · exact within

theorem adoptRound_statusIn (within : s.StatusIn roundId P) (settled : ¬ P .open) {adopted}
    (other : adopted ≠ roundId) (epoch : Int) (status : RoundStatus) (u : RoundUpdates) :
    (s.adoptRound adopted epoch status u).StatusIn roundId P :=
  (supersede_statusIn within settled adopted).set rfl fun same => absurd same other

end RoundStore

/-- `_adopt_leader_round_if_behind` adopts. -/
def adoptsRound (s : RoundStore) (roundId : String) : Bool :=
  match parseRoundOpenedEpoch roundId with
  | .ok (some leaderEpoch) =>
    decide (roundId ≠ "") && (s.getRound roundId).isNone && isBehind s roundId leaderEpoch
  | _ => false

theorem known_of_adoptsRound {s s' roundId status u} (adopts : adoptsRound s roundId = true)
    (ran : adoptLeaderRoundIfBehind s roundId status u = .ok s') :
    (s.getRound roundId).isNone = true ∧ (s'.getRound roundId).isSome = true := by
  unfold adoptsRound at adopts
  split at adopts
  · next leaderEpoch parsed =>
    simp only [Bool.and_eq_true, decide_eq_true_eq] at adopts
    obtain ⟨⟨named, absent⟩, behind⟩ := adopts
    refine ⟨absent, ?_⟩
    unfold adoptLeaderRoundIfBehind at ran
    rw [if_neg (by simp [named, Option.isNone_iff_eq_none.mp absent])] at ran
    simp only [parsed, behind, if_true, Except.ok.injEq] at ran
    subst ran
    simp [RoundStore.getRound, RoundStore.adoptRound]
  · cases adopts

theorem adoptLeaderRoundIfBehind_statusIn {s s' roundId adopted} {P : RoundStatus → Prop} {status u}
    (within : s.StatusIn roundId P) (settled : ¬ P .open)
    (other : adoptsRound s adopted = true → adopted ≠ roundId)
    (ran : adoptLeaderRoundIfBehind s adopted status u = .ok s') : s'.StatusIn roundId P := by
  unfold adoptLeaderRoundIfBehind at ran
  split at ran
  · cases ran
    exact within
  · next unknown =>
    split at ran
    · cases ran
    · cases ran
      exact within
    · next leaderEpoch parsed =>
      split at ran
      · next behind =>
        cases ran
        obtain ⟨named, absent⟩ := not_or.mp unknown
        have adopts : adoptsRound s adopted = true := by
          simp [adoptsRound, parsed, behind]
          simp [named]
          simpa using absent
        exact RoundStore.adoptRound_statusIn within settled (other adopts) _ _ _
      · cases ran
        exact within

end MinotaurSubnet.Harness
