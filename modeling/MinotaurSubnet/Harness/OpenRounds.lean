import MinotaurSubnet.Harness.RoundLifecycle
import MinotaurSubnet.Library.Machine

/-! # At most one open round

Whatever sequence of calls, reloads and restarts a round store goes through, an open
round is the current one. Two calls are left out: setting the status `OPEN` directly,
and adopting a round without a name as open, because a nameless current round counts
as none.
-/

namespace MinotaurSubnet.Harness

open Library

namespace RoundStore

def OpenIsCurrent (s : RoundStore) : Prop :=
  ∀ roundId r, s.rounds.get? roundId = some r → r.status = .open →
    s.currentRoundId = some roundId ∧ s.getCurrentRound = some r

structure OpenInv (s : RoundStore) : Prop where
  keyed : ∀ roundId r, s.rounds.get? roundId = some r → r.roundId = roundId
  current : ∀ roundId r, s.rounds.get? roundId = some r → r.status = .open →
    s.currentRoundId = some roundId ∧ roundId ≠ ""

variable {s : RoundStore}

theorem getCurrentRound_eq {roundId} (current : s.currentRoundId = some roundId)
    (named : roundId ≠ "") :
    s.getCurrentRound = s.rounds.get? roundId := by
  unfold getCurrentRound
  rw [current]
  split
  · next empty => exact absurd (Option.some.inj empty) named
  · next absent => cases absent
  · next other same => rw [Option.some.inj same]

theorem OpenInv.openIsCurrent (inv : s.OpenInv) : s.OpenIsCurrent := by
  intro roundId r found opening
  obtain ⟨current, named⟩ := inv.current roundId r found opening
  exact ⟨current, (getCurrentRound_eq current named).trans found⟩

theorem OpenInv.getCurrentRound (inv : s.OpenInv) {roundId r}
    (found : s.rounds.get? roundId = some r) (opening : r.status = .open) :
    s.getCurrentRound = some r :=
  (inv.openIsCurrent roundId r found opening).2

theorem openInv_empty : ({} : RoundStore).OpenInv where
  keyed := by
    intro roundId r found
    simp at found
  current := by
    intro roundId r found
    simp at found

theorem OpenInv.openRound (inv : s.OpenInv) (idle : s.currentIsOpen = false) (openedEpoch : Int)
    (incumbent : Option ChampionSnapshot) (now : ℚ) :
    (s.openRound openedEpoch incumbent now).OpenInv := by
  constructor
  · intro roundId r found
    simp only [RoundStore.openRound, Dict.get?_set] at found
    split at found
    · next minted =>
      cases found
      cases incumbent with
      | none => exact minted.symm
      | some champion => exact minted.symm
    · exact inv.keyed roundId r found
  · intro roundId r found opening
    simp only [RoundStore.openRound, Dict.get?_set] at found
    split at found
    · next minted =>
      constructor
      · simp only [RoundStore.openRound, minted]
      · rw [minted]
        simp [buildRoundId, roundIdOf, String.ext_iff]
    · have current := inv.getCurrentRound found opening
      simp [currentIsOpen, current, opening] at idle

/-- What superseding leaves of a round: the round, unless it is the current one and open under
    another id, or that one aborted. -/
theorem get?_supersede {roundId k r} (found : (s.supersede roundId).rounds.get? k = some r) :
    (s.rounds.get? k = some r ∧ ∀ current, s.getCurrentRound = some current → current.status = .open →
        current.roundId ≠ roundId → s.currentRoundId ≠ some k) ∨
      ∃ current, s.rounds.get? k = some current ∧ r.roundId = current.roundId ∧ r.status = .aborted := by
  unfold supersede at found
  split at found
  · next current pointer =>
    split at found
    · obtain ⟨key, currentKey, _, record⟩ := getCurrentRound_some pointer
      rw [currentKey, Dict.get?_set] at found
      split at found
      · next same =>
        cases found
        subst same
        exact .inr ⟨current, record, rfl, rfl⟩
      · next other =>
        refine .inl ⟨found, fun _ _ _ _ here => other ?_⟩
        rw [currentKey] at here
        exact (Option.some.inj here).symm
    · next kept =>
      refine .inl ⟨found, fun current' pointer' opening other => ?_⟩
      rw [pointer] at pointer'
      cases pointer'
      exact absurd ⟨opening, other⟩ kept
  · next absent =>
    refine .inl ⟨found, fun current pointer => ?_⟩
    rw [absent] at pointer
    cases pointer

theorem OpenInv.keyed_supersede (inv : s.OpenInv) (roundId : String) :
    ∀ k r, (s.supersede roundId).rounds.get? k = some r → r.roundId = k := by
  intro k r found
  obtain ⟨before, -⟩ | ⟨current, before, same, -⟩ := get?_supersede found
  · exact inv.keyed k r before
  · exact same.trans (inv.keyed k current before)

theorem OpenInv.open_supersede (inv : s.OpenInv) {roundId k r}
    (found : (s.supersede roundId).rounds.get? k = some r) (opening : r.status = .open) :
    k = roundId := by
  obtain ⟨before, kept⟩ | ⟨current, -, -, aborted⟩ := get?_supersede found
  · by_contra other
    have named : r.roundId ≠ roundId := by
      rw [inv.keyed k r before]
      exact other
    exact kept r (inv.getCurrentRound before opening) opening named (inv.current k r before opening).1
  · rw [aborted] at opening
    cases opening

theorem OpenInv.adoptRoundWith (inv : s.OpenInv) {roundId status}
    (named : status = .open → roundId ≠ "") (openedEpoch : Int)
    (incumbent : Option ChampionSnapshot) (fields : RoundFields) (now : ℚ) :
    (s.adoptRoundWith roundId openedEpoch status incumbent fields now).OpenInv := by
  have state : ∀ r : RoundState, r.roundId = roundId → r.status = status →
      ((r.assign fields).syncIncumbent? incumbent).roundId = roundId ∧
        ((r.assign fields).syncIncumbent? incumbent).status = status := by
    intro r key as
    cases incumbent with
    | none => exact ⟨key, as⟩
    | some champion => exact ⟨key, as⟩
  have adopted : ∀ r, (s.adoptRoundWith roundId openedEpoch status incumbent fields now).rounds.get?
      roundId = some r → r.roundId = roundId ∧ r.status = status := by
    intro r found
    simp only [RoundStore.adoptRoundWith, Dict.get?_set_self] at found
    cases found
    apply state
    · split
      · rfl
      · next old record => exact inv.keyed_supersede roundId roundId old record
    · split <;> rfl
  have others : ∀ k, k ≠ roundId →
      (s.adoptRoundWith roundId openedEpoch status incumbent fields now).rounds.get? k =
        (s.supersede roundId).rounds.get? k := by
    intro k other
    simp only [RoundStore.adoptRoundWith]
    exact Dict.get?_set_ne _ _ other
  constructor
  · intro k r found
    by_cases same : k = roundId
    · subst same
      exact (adopted r found).1
    · rw [others k same] at found
      exact inv.keyed_supersede roundId k r found
  · intro k r found opening
    by_cases same : k = roundId
    · subst same
      exact ⟨rfl, named ((adopted r found).2.symm.trans opening)⟩
    · rw [others k same] at found
      exact absurd (inv.open_supersede found opening) same

/-- The calls left out: a direct `OPEN`, and the adoption of a nameless open round. -/
def Op.NamesOpenRound : Op → Prop
  | .setRoundStatus _ status => status ≠ .open
  | .adoptRound roundId _ status _ _ => status = .open → roundId ≠ ""
  | _ => True

theorem OpenInv.change {s s' : RoundStore} {now} {op : Op} (inv : s.OpenInv)
    (named : op.NamesOpenRound) (change : s.Change now op s') : s'.OpenInv := by
  cases change with
  | records same current =>
    constructor
    · intro roundId r found
      exact inv.keyed roundId r (same ▸ found)
    · intro roundId r found
      rw [current]
      exact inv.current roundId r (same ▸ found)
  | rewrite key r r' found records current how =>
    constructor
    · intro roundId state member
      rw [records, Dict.get?_set] at member
      split at member
      · next same =>
        cases member
        rw [how.sameId, same]
        exact inv.keyed key r found
      · exact inv.keyed roundId state member
    · intro roundId state member opening
      rw [current]
      rw [records, Dict.get?_set] at member
      split at member
      · next same =>
        cases member
        rw [same]
        cases how.status with
        | inl kept => exact inv.current key r found (kept.symm.trans opening)
        | inr changed =>
          cases changed with
          | inl closed => exact absurd opening closed
          | inr direct =>
            subst direct
            exact absurd rfl named
      · exact inv.current roundId state member opening
  | opened openedEpoch incumbent call idle result =>
    subst result
    exact inv.openRound idle openedEpoch incumbent now
  | adopted roundId openedEpoch status incumbent fields call result =>
    subst call result
    exact inv.adoptRoundWith named openedEpoch incumbent fields now

theorem OpenInv.evictRounds (inv : s.OpenInv) (cap : Int) : (s.evictRounds cap).OpenInv where
  keyed roundId r found := inv.keyed roundId r (evictRounds_some found)
  current roundId r found opening := by
    rw [evictRounds_current]
    exact inv.current roundId r (evictRounds_some found) opening

theorem OpenInv.load {file : RoundStore} (inv : file.OpenInv) (now : ℚ) : (file.load now).OpenInv := by
  constructor
  · intro roundId r found
    simp only [RoundStore.load, Dict.get?_mapValues, Option.map_eq_some_iff] at found
    obtain ⟨old, record, rfl⟩ := found
    exact inv.keyed roundId old record
  · intro roundId r found opening
    simp only [RoundStore.load, Dict.get?_mapValues, Option.map_eq_some_iff] at found
    obtain ⟨old, record, rfl⟩ := found
    obtain ⟨current, named⟩ := inv.current roundId old record opening
    refine ⟨?_, named⟩
    simp [RoundStore.load, current, record]

end RoundStore

def RoundEvent.NamesOpenRound : RoundEvent → Prop
  | .call op _ _ => op.NamesOpenRound
  | _ => True

structure RoundNode.OpenInv (n : RoundNode) : Prop where
  mem : n.mem.OpenInv
  file : ∀ file, n.file = some file → file.OpenInv

theorem RoundPersistence.openInv_evict {s} (p : RoundPersistence) (inv : s.OpenInv) :
    (p.evict s).OpenInv := by
  unfold RoundPersistence.evict
  split
  · exact inv.evictRounds p.maxRounds
  · exact inv

theorem RoundNode.OpenInv.step {p} {n : RoundNode} {e : RoundEvent} (inv : n.OpenInv)
    (named : e.NamesOpenRound) : (n.step p e).1.OpenInv := by
  cases e with
  | call op now lands =>
    simp only [RoundNode.step]
    split
    · exact inv
    · exact inv
    · next s ran =>
      have after := p.openInv_evict (inv.mem.change named (RoundStore.run_change ran))
      constructor
      · exact after
      · intro file written
        simp only [RoundNode.persist] at written
        split at written
        · exact Option.some.inj written ▸ after
        · exact inv.file file written
  | reload now =>
    simp only [RoundNode.step]
    split
    · exact inv
    · next file written => exact ⟨(inv.file file written).load now, inv.file⟩
  | restartEmpty => exact ⟨RoundStore.openInv_empty, inv.file⟩

/-- In every reachable state each open round is the current one, so at most one is open. -/
theorem open_round_is_current (p : RoundPersistence) (n : RoundNode)
    (reached : Reaches (RoundNode.step p) (fun _ e => e.NamesOpenRound) {} n) :
    n.mem.OpenIsCurrent ∧ ∀ roundId r roundId' r', n.mem.rounds.get? roundId = some r →
      r.status = .open → n.mem.rounds.get? roundId' = some r' → r'.status = .open →
      roundId = roundId' := by
  have inv : n.OpenInv := by
    apply reached.invariant RoundNode.OpenInv
    · constructor
      · exact RoundStore.openInv_empty
      · intro file written
        cases written
    · intro n e inv named
      exact inv.step named
  constructor
  · exact inv.mem.openIsCurrent
  · intro roundId r roundId' r' found opening found' opening'
    have current := (inv.mem.current roundId r found opening).1
    rw [(inv.mem.current roundId' r' found' opening').1] at current
    exact (Option.some.inj current).symm

def RoundStore.isOpen (s : RoundStore) (roundId : String) : Bool :=
  (s.rounds.get? roundId).any fun r => r.status == .open

theorem RoundStore.isOpen_iff {s : RoundStore} {roundId} :
    s.isOpen roundId = true ↔ ∃ r, s.rounds.get? roundId = some r ∧ r.status = .open := by
  simp [isOpen, Option.any_eq_true]

def reopening : List RoundEvent := [.call (.ensureOpenRound 5 none) 300 true, .reload 360]

def reopenedNode : RoundNode := runEvents (RoundNode.step ⟨true, 2000⟩) {} reopening

theorem open_round_is_current_after_restart :
    (∃ r, reopenedNode.mem.rounds.get? "round-e5-n1" = some r ∧ r.status = .open) ∧
      reopenedNode.mem.OpenIsCurrent := by
  have reached : Reaches (RoundNode.step ⟨true, 2000⟩) (fun _ e => e.NamesOpenRound) {}
      reopenedNode := by
    apply reaches_runEvents_of
    simp [reopening, RoundEvent.NamesOpenRound, RoundStore.Op.NamesOpenRound]
  constructor
  · exact RoundStore.isOpen_iff.mp (by decide +kernel)
  · exact (open_round_is_current ⟨true, 2000⟩ reopenedNode reached).1

/-- Any call but a direct `OPEN`. -/
def RoundEvent.NotDirectOpen : RoundEvent → Prop
  | .call (.setRoundStatus _ status) _ _ => status ≠ .open
  | _ => True

def namelessAdoption : List RoundEvent :=
  [.call (.adoptRound "" 5 .open none {}) 300 true, .call (.ensureOpenRound 6 none) 360 true]

def namelessNode : RoundNode := runEvents (RoundNode.step ⟨false, 0⟩) {} namelessAdoption

theorem nameless_round_stays_open_beside_another :
    ¬ ∀ (p : RoundPersistence) (n : RoundNode),
      Reaches (RoundNode.step p) (fun _ e => e.NotDirectOpen) {} n →
      n.mem.OpenIsCurrent ∧ ∀ roundId r roundId' r', n.mem.rounds.get? roundId = some r →
        r.status = .open → n.mem.rounds.get? roundId' = some r' → r'.status = .open →
        roundId = roundId' := by
  intro claim
  have reached : Reaches (RoundNode.step ⟨false, 0⟩) (fun _ e => e.NotDirectOpen) {} namelessNode := by
    apply reaches_runEvents_of
    simp [namelessAdoption, RoundEvent.NotDirectOpen]
  have single := (claim ⟨false, 0⟩ namelessNode reached).2
  have first : namelessNode.mem.isOpen "" = true := by decide +kernel
  have second : namelessNode.mem.isOpen "round-e6-n1" = true := by decide +kernel
  obtain ⟨r, found, opening⟩ := RoundStore.isOpen_iff.mp first
  obtain ⟨r', found', opening'⟩ := RoundStore.isOpen_iff.mp second
  have same := single _ r _ r' found opening found' opening'
  exact absurd same (by decide)

end MinotaurSubnet.Harness
