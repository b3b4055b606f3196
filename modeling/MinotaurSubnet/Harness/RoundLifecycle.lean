import Mathlib.Data.Prod.Lex
import MinotaurSubnet.Harness.RoundStore
import MinotaurSubnet.Library.SortedBy

/-! # The life of the round store

Every public mutator of `RoundStore`, the eviction that persisting does, and the file.
The observe record of the veto and the adoption bar are written and never read here, so
their setters only persist.
-/

namespace MinotaurSubnet.Harness

open Library Python Consensus

/-- The fields `adopt_round` may be given; `None` leaves the record's value. -/
structure RoundFields extends RoundUpdates where
  createdAt : Option ℚ := none
  incumbentSubmissionId : Option String := none
  incumbentImageId : Option String := none
  incumbentHotkey : Option String := none
  forkPins : Option (Dict Int Int) := none
  finalistSubmissionId : Option String := none
  finalistImageId : Option String := none
  shadowCaseLogHash : Option String := none
  certificate : Option ChampionCertificate := none
  abortReason : Option String := none
  selfVerified : Option Bool := none
  selfVerifiedSubmissionId : Option String := none
  benchedSlate : Option (List String) := none
  deriving DecidableEq

namespace RoundState

def assign (r : RoundState) (f : RoundFields) : RoundState :=
  { r.update f.toRoundUpdates with
    createdAt := f.createdAt.getD r.createdAt
    incumbentSubmissionId := f.incumbentSubmissionId <|> r.incumbentSubmissionId
    incumbentImageId := f.incumbentImageId <|> r.incumbentImageId
    incumbentHotkey := f.incumbentHotkey <|> r.incumbentHotkey
    forkPins := f.forkPins <|> r.forkPins
    finalistSubmissionId := f.finalistSubmissionId <|> r.finalistSubmissionId
    finalistImageId := f.finalistImageId <|> r.finalistImageId
    shadowCaseLogHash := f.shadowCaseLogHash <|> r.shadowCaseLogHash
    certificate := f.certificate <|> r.certificate
    abortReason := f.abortReason <|> r.abortReason
    selfVerified := f.selfVerified.getD r.selfVerified
    selfVerifiedSubmissionId := f.selfVerifiedSubmissionId <|> r.selfVerifiedSubmissionId
    benchedSlate := f.benchedSlate <|> r.benchedSlate }

def syncIncumbent (r : RoundState) (champion : ChampionSnapshot) : RoundState :=
  { r with
    incumbentSubmissionId := champion.submissionId
    incumbentImageId := champion.imageId
    incumbentHotkey := champion.hotkey }

def syncIncumbent? (r : RoundState) (incumbent : Option ChampionSnapshot) : RoundState :=
  incumbent.elim r r.syncIncumbent

end RoundState

def sameItems (d e : Dict Int Int) : Prop := d.entries.Perm e.entries

instance (d e : Dict Int Int) : Decidable (sameItems d e) :=
  inferInstanceAs (Decidable (d.entries.Perm e.entries))

def truthyPins (pins : Option (Dict Int Int)) : Option (Dict Int Int) :=
  pins.filter fun d => !d.entries.isEmpty

namespace RoundStore

/-- Change the record of a round; an unknown round is a `KeyError`. -/
def modifyRound (s : RoundStore) (roundId : String) (f : RoundState → RoundState) :
    Except PyError RoundStore :=
  match s.rounds.get? roundId with
  | none => .error .keyError
  | some state => .ok { s with rounds := s.rounds.set roundId (f state) }

def currentIsOpen (s : RoundStore) : Bool :=
  s.getCurrentRound.any fun current => current.status == .open

def modifyCurrent (s : RoundStore) (f : RoundState → RoundState) : RoundStore :=
  match s.getCurrentRound with
  | none => s
  | some current => { s with rounds := s.rounds.set (s.currentRoundId.getD "") (f current) }

def setActiveChampion (s : RoundStore) (champion : ChampionSnapshot) (syncOpenRound : Bool) :
    RoundStore :=
  let s := { s with activeChampion := champion }
  if syncOpenRound && s.currentIsOpen then s.modifyCurrent (·.syncIncumbent champion) else s

def epochCount (s : RoundStore) (openedEpoch : Int) : ℕ :=
  s.rounds.values.countP fun r => r.openedEpoch = openedEpoch

def roundIdOf (openedEpoch : Int) (n : ℕ) : String :=
  "round-e" ++ toString openedEpoch ++ "-n" ++ toString n

def buildRoundId (s : RoundStore) (openedEpoch : Int) : String :=
  roundIdOf openedEpoch (s.epochCount openedEpoch + 1)

/-- The second half of `ensure_open_round`: a new record under a freshly built id. -/
def openRound (s : RoundStore) (openedEpoch : Int) (incumbent : Option ChampionSnapshot) (now : ℚ) :
    RoundStore :=
  let roundId := s.buildRoundId openedEpoch
  let state : RoundState := {
    roundId
    status := .open
    openedEpoch
    benchmarkAnchorEpoch := some ⌊now / 60⌋
    createdAt := now }
  { s with
    rounds := s.rounds.set roundId (state.syncIncumbent? incumbent)
    currentRoundId := some roundId
    activeChampion := incumbent.getD s.activeChampion }

/-- `ensure_open_round`; `none` when it returns without touching the store. -/
def ensureOpenRound (s : RoundStore) (openedEpoch : Int) (incumbent : Option ChampionSnapshot)
    (now : ℚ) : Option RoundStore :=
  if s.currentIsOpen then
    incumbent.map fun champion =>
      { s.modifyCurrent (·.syncIncumbent champion) with activeChampion := champion }
  else some (s.openRound openedEpoch incumbent now)

def openNextRound (s : RoundStore) (openedEpoch : Int) (incumbent : Option ChampionSnapshot)
    (now : ℚ) : Except PyError (Option RoundStore) :=
  if s.currentIsOpen then .error .valueError
  else .ok (s.ensureOpenRound openedEpoch incumbent now)

/-- `adopt_round` with all its parameters. -/
def adoptRoundWith (s : RoundStore) (roundId : String) (openedEpoch : Int) (status : RoundStatus)
    (incumbent : Option ChampionSnapshot) (fields : RoundFields) (now : ℚ) : RoundStore :=
  let s := s.supersede roundId
  let state : RoundState := match s.rounds.get? roundId with
    | none => { roundId, status, openedEpoch, createdAt := now }
    | some state => { state with openedEpoch, status }
  { s with
    rounds := s.rounds.set roundId ((state.assign fields).syncIncumbent? incumbent)
    currentRoundId := some roundId
    activeChampion := incumbent.getD s.activeChampion }

theorem adoptRound_eq (s : RoundStore) (roundId : String) (openedEpoch : Int) (status : RoundStatus)
    (updates : RoundUpdates) :
    s.adoptRound roundId openedEpoch status updates =
      s.adoptRoundWith roundId openedEpoch status none { toRoundUpdates := updates } 0 := by
  unfold adoptRound adoptRoundWith
  cases (s.supersede roundId).rounds.get? roundId with
  | none => rfl
  | some state => rfl

/-- `set_round_fork_pins`; `none` when it refuses a differing overwrite. -/
def setRoundForkPins (s : RoundStore) (roundId : String) (pins : Option (Dict Int Int)) :
    Except PyError (Option RoundStore) :=
  match s.rounds.get? roundId with
  | none => .error .keyError
  | some state =>
    match truthyPins state.forkPins, truthyPins pins with
    | some existing, some newPins =>
      if sameItems newPins existing then
        .ok (some { s with
          rounds := s.rounds.set roundId { state with forkPins := some newPins } })
      else .ok none
    | _, newPins =>
      .ok (some { s with rounds := s.rounds.set roundId { state with forkPins := newPins } })

/-- The public mutators with their arguments. -/
inductive Op where
  | setActiveChampion (champion : ChampionSnapshot) (syncOpenRound : Bool)
  | setPreviousChampion (champion : ChampionSnapshot)
  | setChampionAdoptionBar
  | ensureOpenRound (openedEpoch : Int) (incumbent : Option ChampionSnapshot)
  | openNextRound (openedEpoch : Int) (incumbent : Option ChampionSnapshot)
  | adoptRound (roundId : String) (openedEpoch : Int) (status : RoundStatus)
      (incumbent : Option ChampionSnapshot) (fields : RoundFields)
  | closeCurrentRound (updates : RoundUpdates)
  | setRoundStatus (roundId : String) (status : RoundStatus)
  | setRoundVetoObserve (roundId : String)
  | setRoundFinalist (roundId submissionId : String) (imageId shadowCaseLogHash : Option String)
  | setRoundForkPins (roundId : String) (pins : Option (Dict Int Int))
  | certifyRound (roundId : String) (certificate : ChampionCertificate)
  | activateRound (roundId : String) (effectiveEpoch : Int)
  | abortRound (roundId reason : String)
  | markSelfVerified (roundId : String) (submissionId : Option String)
  | setBenchedSlate (roundId : String) (submissionIds : List String)

/-- What a call does to the store in memory, before it persists; `none` when it returns
    without a change. -/
def run (s : RoundStore) (now : ℚ) : Op → Except PyError (Option RoundStore)
  | .setActiveChampion champion syncOpenRound =>
    .ok (some (s.setActiveChampion champion syncOpenRound))
  | .setPreviousChampion champion => .ok (some { s with previousChampion := champion })
  | .setChampionAdoptionBar => .ok (some s)
  | .ensureOpenRound openedEpoch incumbent => .ok (s.ensureOpenRound openedEpoch incumbent now)
  | .openNextRound openedEpoch incumbent => s.openNextRound openedEpoch incumbent now
  | .adoptRound roundId openedEpoch status incumbent fields =>
    .ok (some (s.adoptRoundWith roundId openedEpoch status incumbent fields now))
  | .closeCurrentRound updates => (s.closeCurrentRound updates).map fun closed => some closed.1
  | .setRoundStatus roundId status =>
    (s.modifyRound roundId fun r => { r with status }).map some
  | .setRoundVetoObserve roundId =>
    .ok (if (s.getRound roundId).isSome then some s else none)
  | .setRoundFinalist roundId submissionId imageId shadowCaseLogHash =>
    (s.setRoundFinalist roundId submissionId imageId shadowCaseLogHash).map fun done => some done.1
  | .setRoundForkPins roundId pins => s.setRoundForkPins roundId pins
  | .certifyRound roundId certificate =>
    (s.certifyRound roundId certificate).map fun done => some done.1
  | .activateRound roundId effectiveEpoch =>
    (s.modifyRound roundId fun r =>
      { r with status := .activated, effectiveEpoch := some effectiveEpoch, abortReason := none }).map
      some
  | .abortRound roundId reason =>
    (s.modifyRound roundId fun r => { r with status := .aborted, abortReason := some reason }).map some
  | .markSelfVerified roundId submissionId =>
    (s.modifyRound roundId fun r =>
      { r with selfVerified := true, selfVerifiedSubmissionId := submissionId }).map some
  | .setBenchedSlate roundId submissionIds =>
    (s.modifyRound roundId fun r => { r with benchedSlate := some submissionIds }).map some

/-- The calls that may leave a round `ACTIVATED`. -/
def Op.Activates (roundId : String) : Op → Prop
  | .activateRound k _ => k = roundId
  | .setRoundStatus k status => k = roundId ∧ status = .activated
  | .adoptRound k _ status _ _ => k = roundId ∧ status = .activated
  | _ => False

/-- How a call may rewrite one record. -/
structure Rewrites (op : Op) (roundId : String) (r r' : RoundState) : Prop where
  sameId : r'.roundId = r.roundId
  sameEpoch : r'.openedEpoch = r.openedEpoch
  status : r'.status = r.status ∨ r'.status ≠ .open ∨ op = .setRoundStatus roundId .open
  activated : r'.status = r.status ∨ r'.status ≠ .activated ∨ op.Activates roundId
  forkPins : r'.forkPins = r.forkPins ∨ ∃ pins, op = .setRoundForkPins roundId pins ∧
    r'.forkPins = truthyPins pins ∧ ∀ existing newPins, truthyPins r.forkPins = some existing →
      truthyPins pins = some newPins → sameItems newPins existing

inductive Change (s : RoundStore) (now : ℚ) (op : Op) (s' : RoundStore) : Prop where
  | records (same : s'.rounds = s.rounds) (current : s'.currentRoundId = s.currentRoundId)
  | rewrite (roundId : String) (r r' : RoundState) (found : s.rounds.get? roundId = some r)
      (records : s'.rounds = s.rounds.set roundId r')
      (current : s'.currentRoundId = s.currentRoundId) (how : Rewrites op roundId r r')
  | opened (openedEpoch : Int) (incumbent : Option ChampionSnapshot)
      (call : op = .ensureOpenRound openedEpoch incumbent ∨ op = .openNextRound openedEpoch incumbent)
      (idle : s.currentIsOpen = false) (result : s' = s.openRound openedEpoch incumbent now)
  | adopted (roundId : String) (openedEpoch : Int) (status : RoundStatus)
      (incumbent : Option ChampionSnapshot) (fields : RoundFields)
      (call : op = .adoptRound roundId openedEpoch status incumbent fields)
      (result : s' = s.adoptRoundWith roundId openedEpoch status incumbent fields now)

theorem getCurrentRound_some {s : RoundStore} {r} (found : s.getCurrentRound = some r) :
    ∃ roundId, s.currentRoundId = some roundId ∧ roundId ≠ "" ∧ s.rounds.get? roundId = some r := by
  unfold getCurrentRound at found
  split at found
  · simp at found
  · simp at found
  · next roundId named current =>
    exact ⟨roundId, current, named, found⟩

variable {s s' : RoundStore}

theorem modifyRound_change {now op roundId} {f : RoundState → RoundState}
    (ran : (s.modifyRound roundId f).map some = .ok (some s'))
    (how : ∀ r, Rewrites op roundId r (f r)) : s.Change now op s' := by
  unfold modifyRound at ran
  split at ran
  · cases ran
  · next r found =>
    simp only [Except.map, Except.ok.injEq, Option.some.injEq] at ran
    subst ran
    exact .rewrite roundId r (f r) found rfl rfl (how r)

theorem modifyCurrent_change {now op} {f : RoundState → RoundState}
    (how : ∀ roundId r, Rewrites op roundId r (f r))
    (records : s'.rounds = (s.modifyCurrent f).rounds)
    (current : s'.currentRoundId = s.currentRoundId) : s.Change now op s' := by
  unfold modifyCurrent at records
  split at records
  · exact .records records current
  · next r found =>
    obtain ⟨roundId, pointer, _, record⟩ := getCurrentRound_some found
    rw [pointer] at records
    exact .rewrite roundId r (f r) record records current (how roundId r)

theorem ensureOpenRound_change {now op openedEpoch incumbent}
    (call : op = .ensureOpenRound openedEpoch incumbent ∨ op = .openNextRound openedEpoch incumbent)
    (ran : s.ensureOpenRound openedEpoch incumbent now = some s') : s.Change now op s' := by
  unfold ensureOpenRound at ran
  split at ran
  · cases incumbent with
    | none => simp at ran
    | some champion =>
      simp only [Option.map_some, Option.some.injEq] at ran
      subst ran
      apply modifyCurrent_change (f := (·.syncIncumbent champion))
      · exact fun _ _ => ⟨rfl, rfl, Or.inl rfl, Or.inl rfl, Or.inl rfl⟩
      · rfl
      · simp only [modifyCurrent]
        split <;> rfl
  · next idle =>
    cases ran
    exact .opened openedEpoch incumbent call (by simpa using idle) rfl

theorem run_change {now op} (ran : s.run now op = .ok (some s')) :
    s.Change now op s' := by
  cases op with
  | setActiveChampion champion syncOpenRound =>
    simp only [run, setActiveChampion, Except.ok.injEq, Option.some.injEq] at ran
    subst ran
    split
    · apply modifyCurrent_change (f := (·.syncIncumbent champion))
      · exact fun _ _ => ⟨rfl, rfl, Or.inl rfl, Or.inl rfl, Or.inl rfl⟩
      · simp only [modifyCurrent, getCurrentRound]
        split <;> rfl
      · simp only [modifyCurrent]
        split <;> rfl
    · exact .records rfl rfl
  | setPreviousChampion champion =>
    simp only [run, Except.ok.injEq, Option.some.injEq] at ran
    subst ran
    exact .records rfl rfl
  | setChampionAdoptionBar =>
    simp only [run, Except.ok.injEq, Option.some.injEq] at ran
    subst ran
    exact .records rfl rfl
  | ensureOpenRound openedEpoch incumbent =>
    simp only [run, Except.ok.injEq] at ran
    exact ensureOpenRound_change (Or.inl rfl) ran
  | openNextRound openedEpoch incumbent =>
    simp only [run, openNextRound] at ran
    split at ran
    · cases ran
    · exact ensureOpenRound_change (Or.inr rfl) (Except.ok.inj ran)
  | adoptRound roundId openedEpoch status incumbent fields =>
    simp only [run, Except.ok.injEq, Option.some.injEq] at ran
    exact .adopted roundId openedEpoch status incumbent fields rfl ran.symm
  | closeCurrentRound updates =>
    simp only [run, closeCurrentRound] at ran
    split at ran
    · cases ran
    · next current found =>
      simp only [Except.map, Except.ok.injEq, Option.some.injEq] at ran
      subst ran
      obtain ⟨roundId, pointer, _, record⟩ := getCurrentRound_some found
      rw [pointer]
      exact .rewrite roundId current _ record rfl pointer.symm
        ⟨rfl, rfl, Or.inr (Or.inl (by simp)), Or.inr (Or.inl (by simp)), Or.inl rfl⟩
  | setRoundStatus roundId status =>
    simp only [run] at ran
    refine modifyRound_change ran fun r => ⟨rfl, rfl, ?_, ?_, Or.inl rfl⟩
    · by_cases opening : status = .open
      · exact Or.inr (Or.inr (by rw [opening]))
      · exact Or.inr (Or.inl opening)
    · by_cases activating : status = .activated
      · exact Or.inr (Or.inr ⟨rfl, activating⟩)
      · exact Or.inr (Or.inl activating)
  | setRoundVetoObserve roundId =>
    simp only [run, Except.ok.injEq] at ran
    split at ran
    · cases ran
      exact .records rfl rfl
    · cases ran
  | setRoundFinalist roundId submissionId imageId shadowCaseLogHash =>
    simp only [run, setRoundFinalist] at ran
    split at ran
    · cases ran
    · next r found =>
      simp only [Except.map, Except.ok.injEq, Option.some.injEq] at ran
      subst ran
      exact .rewrite roundId r _ found rfl rfl
        ⟨rfl, rfl, Or.inr (Or.inl (by simp)), Or.inr (Or.inl (by simp)), Or.inl rfl⟩
  | setRoundForkPins roundId pins =>
    simp only [run, setRoundForkPins] at ran
    split at ran
    · cases ran
    · next r found =>
      split at ran
      · next existing newPins old new =>
        split at ran
        · next same =>
          simp only [Except.ok.injEq, Option.some.injEq] at ran
          subst ran
          refine .rewrite roundId r _ found rfl rfl
            ⟨rfl, rfl, Or.inl rfl, Or.inl rfl, Or.inr ⟨pins, rfl, ?_, ?_⟩⟩
          · exact new.symm
          · intro existing' newPins' old' new'
            rw [old] at old'
            rw [new] at new'
            cases old'
            cases new'
            exact same
        · cases ran
      · next absent =>
        simp only [Except.ok.injEq, Option.some.injEq] at ran
        subst ran
        refine .rewrite roundId r _ found rfl rfl
          ⟨rfl, rfl, Or.inl rfl, Or.inl rfl, Or.inr ⟨pins, rfl, rfl, ?_⟩⟩
        intro existing newPins old new
        exact absurd new (absent existing newPins old)
  | certifyRound roundId certificate =>
    simp only [run, certifyRound] at ran
    split at ran
    · cases ran
    · next r found =>
      simp only [Except.map, Except.ok.injEq, Option.some.injEq] at ran
      subst ran
      exact .rewrite roundId r _ found rfl rfl
        ⟨rfl, rfl, Or.inr (Or.inl (by simp)), Or.inr (Or.inl (by simp)), Or.inl rfl⟩
  | activateRound roundId effectiveEpoch =>
    simp only [run] at ran
    exact modifyRound_change ran fun r =>
      ⟨rfl, rfl, Or.inr (Or.inl (by simp)), Or.inr (Or.inr rfl), Or.inl rfl⟩
  | abortRound roundId reason =>
    simp only [run] at ran
    exact modifyRound_change ran fun r =>
      ⟨rfl, rfl, Or.inr (Or.inl (by simp)), Or.inr (Or.inl (by simp)), Or.inl rfl⟩
  | markSelfVerified roundId submissionId =>
    simp only [run] at ran
    exact modifyRound_change ran fun r => ⟨rfl, rfl, Or.inl rfl, Or.inl rfl, Or.inl rfl⟩
  | setBenchedSlate roundId submissionIds =>
    simp only [run] at ran
    exact modifyRound_change ran fun r => ⟨rfl, rfl, Or.inl rfl, Or.inl rfl, Or.inl rfl⟩

/-- Kept whatever their age: the current round and the rounds that made the standing and
    the previous champion. -/
def pinned (s : RoundStore) : List String :=
  [s.currentRoundId, s.activeChampion.activatedRoundId, s.previousChampion.activatedRoundId].reduceOption

def maxEpoch (s : RoundStore) : Int := (s.rounds.values.map (·.openedEpoch)).max?.getD 0

def protectedIds (s : RoundStore) : List String :=
  (s.rounds.entries.filter fun entry =>
    decide (entry.1 ∈ s.pinned) || decide (s.maxEpoch ≤ entry.2.openedEpoch)).map Prod.fst

/-- The other rounds, newest first. -/
def ranked (s : RoundStore) : List String :=
  (sortedBy
    (fun entry : String × RoundState => OrderDual.toDual
      (toLex (entry.2.openedEpoch, toLex (entry.2.createdAt, entry.1)) : ℤ ×ₗ ℚ ×ₗ String))
    (s.rounds.entries.filter fun entry => decide (entry.1 ∉ s.protectedIds))).map Prod.fst

def survivors (s : RoundStore) (cap : Int) : List String :=
  let room := cap - s.protectedIds.length
  s.protectedIds ++ if 0 < room then s.ranked.take room.toNat else []

def evictRounds (s : RoundStore) (cap : Int) : RoundStore :=
  if cap ≤ 0 ∨ (s.rounds.size : Int) ≤ cap then s
  else if s.rounds.size ≤ (s.survivors cap).length then s
  else { s with rounds := s.rounds.filter fun roundId _ => decide (roundId ∈ s.survivors cap) }

theorem evictRounds_current (s : RoundStore) (cap : Int) :
    (s.evictRounds cap).currentRoundId = s.currentRoundId := by
  unfold evictRounds
  split
  · rfl
  · split <;> rfl

theorem evictRounds_some {s : RoundStore} {cap roundId r}
    (kept : (s.evictRounds cap).rounds.get? roundId = some r) : s.rounds.get? roundId = some r := by
  unfold evictRounds at kept
  split at kept
  · exact kept
  · split at kept
    · exact kept
    · exact Dict.get?_filter_some kept

theorem evictRounds_pinned {s : RoundStore} (cap : Int) {roundId r}
    (found : s.rounds.get? roundId = some r) (pin : roundId ∈ s.pinned) :
    (s.evictRounds cap).rounds.get? roundId = some r := by
  unfold evictRounds
  split
  · exact found
  · split
    · exact found
    · have guarded : roundId ∈ s.protectedIds := by
        apply List.mem_map.mpr
        exact ⟨(roundId, r), List.mem_filter.mpr ⟨Dict.get?_eq_some.mp found, by simp [pin]⟩, rfl⟩
      have survives : roundId ∈ s.survivors cap := List.mem_append_left _ guarded
      simp [Dict.get?_filter, found, survives]

/-- A record read back: falsy pins and a falsy creation time are replaced. -/
def reparse (now : ℚ) (r : RoundState) : RoundState :=
  { r with
    forkPins := truthyPins r.forkPins
    createdAt := if r.createdAt = 0 then now else r.createdAt }

/-- `_load` of a file that this store wrote. -/
def load (file : RoundStore) (now : ℚ) : RoundStore :=
  { file with
    rounds := file.rounds.mapValues fun _ r => reparse now r
    currentRoundId := file.currentRoundId.filter fun roundId => (file.rounds.get? roundId).isSome }

end RoundStore

/-- How a process keeps its rounds: without a path nothing is evicted or written. -/
structure RoundPersistence where
  persistPath : Bool
  maxRounds : Int
  deriving DecidableEq

def RoundPersistence.evict (p : RoundPersistence) (s : RoundStore) : RoundStore :=
  if p.persistPath then s.evictRounds p.maxRounds else s

theorem RoundPersistence.evict_some {s : RoundStore} {p : RoundPersistence} {roundId r}
    (kept : (p.evict s).rounds.get? roundId = some r) :
    s.rounds.get? roundId = some r := by
  unfold RoundPersistence.evict at kept
  split at kept
  · exact RoundStore.evictRounds_some kept
  · exact kept

structure RoundNode where
  mem : RoundStore := {}
  file : Option RoundStore := none

inductive RoundEvent where
  /-- A call at a time, and whether the write of the file lands. -/
  | call (op : RoundStore.Op) (now : ℚ) (lands : Bool)
  /-- The file is read again, by a new process or because it looks newer. -/
  | reload (now : ℚ)
  | restartEmpty

namespace RoundNode

/-- `_persist` of a changed store. -/
def persist (p : RoundPersistence) (n : RoundNode) (s : RoundStore) (lands : Bool) : RoundNode where
  mem := p.evict s
  file := if p.persistPath && lands then some (p.evict s) else n.file

def step (p : RoundPersistence) (n : RoundNode) : RoundEvent → RoundNode × Option PyError
  | .call op now lands =>
    match n.mem.run now op with
    | .error e => (n, some e)
    | .ok none => (n, none)
    | .ok (some s) => (n.persist p s lands, none)
  | .reload now =>
    match n.file with
    | none => (n, none)
    | some file => ({ n with mem := file.load now }, none)
  | .restartEmpty => ({ n with mem := {} }, none)

end RoundNode

end MinotaurSubnet.Harness
