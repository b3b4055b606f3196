import MinotaurSubnet.Harness.BuildBudgetBooks
import MinotaurSubnet.Library.IdleEviction

/-! # The rounds that the build budget gate tracks

`BuildBudgetGate` keeps the states of a few rounds. A round that is touched first is put last and
the oldest idle rounds are dropped, so between busy rounds the new one is the one that goes.
-/

namespace MinotaurSubnet.Harness

open Library

/-- `_rounds`, in the order of insertion. -/
abbrev GateRounds (τ : Type) := Dict String (RoundGate τ)

def maxTrackedRounds : Nat := 8

def RoundGate.isIdle {τ : Type} (g : RoundGate τ) : Bool := g.waiters.isEmpty && decide (g.inFlight = ∅)

/-- What `ensure_round` is called with and what it reads. -/
structure RoundTouch (τ : Type) where
  budget : Int
  cfg : GateConfig τ
  priorAttempts : List (String × String) := []

def RoundTouch.bare {τ : Type} (touch : RoundTouch τ) : RoundTouch τ :=
  ⟨touch.budget, { touch.cfg with openedAt := 0, openSeconds := 0 }, []⟩

namespace GateRounds

variable {τ : Type}

def prune (rounds : GateRounds τ) : GateRounds τ := rounds.evict maxTrackedRounds RoundGate.isIdle

structure PrunesIdle (rounds : GateRounds τ) : Prop where
  stops : rounds.prune.size ≤ maxTrackedRounds ∨ ∀ entry ∈ rounds.prune.entries, entry.2.isIdle = false
  keeps : ∀ roundId g, rounds.get? roundId = some g → g.isIdle = false → rounds.prune.get? roundId = some g

theorem prunesIdle (rounds : GateRounds τ) : PrunesIdle rounds where
  stops := rounds.evict_stops
  keeps _ _ found working := Dict.get?_evict_of_busy found working

variable [LinearOrder τ] [Zero τ] (sha256Hex : String → String)

def opened (roundId : String) (touch : RoundTouch τ) : RoundGate τ :=
  (RoundGate.bootstrap roundId touch.budget touch.cfg).rebuild touch.priorAttempts

def ensureRound (rounds : GateRounds τ) (roundId : String) (touch : RoundTouch τ) : GateRounds τ :=
  match rounds.get? roundId with
  | some _ => rounds
  | none => prune (rounds.set roundId (opened roundId touch))

/-- `acquire`, up to its wait; `none` when the lookup after the fallback raises `KeyError`. -/
def acquire (rounds : GateRounds τ) (roundId : String) (touch : RoundTouch τ) (call : AcquireCall) :
    Option (GateRounds τ) :=
  match rounds.get? roundId with
  | some g => some (rounds.set roundId (g.acquire sha256Hex call))
  | none =>
    let bootstrapped := ensureRound rounds roundId touch.bare
    (bootstrapped.get? roundId).map fun g => bootstrapped.set roundId (g.acquire sha256Hex call)

variable {sha256Hex}

theorem rebuilt_opened (roundId : String) (touch : RoundTouch τ) :
    (RoundGate.bootstrap roundId touch.budget touch.cfg).Rebuilt (opened roundId touch)
      (touch.priorAttempts.map Prod.fst) :=
  (RoundGate.books_bootstrap roundId touch.cfg 0 []).rebuild touch.priorAttempts

theorem isIdle_opened (roundId : String) (touch : RoundTouch τ) : (opened roundId touch).isIdle = true := by
  have rebuilt := rebuilt_opened roundId touch
  unfold RoundGate.isIdle
  rw [rebuilt.waiters, rebuilt.inFlight]
  rfl

theorem chargedIds_opened (roundId : String) (touch : RoundTouch τ) :
    (opened roundId touch).chargedIds = (touch.priorAttempts.map Prod.fst).toFinset :=
  (rebuilt_opened roundId touch).all.trans (Finset.empty_union _)

/-- The round is tracked with the units that were spent, and an `acquire` uses this state. -/
structure Tracked (sha256Hex : String → String) (rounds : GateRounds τ) (roundId : String)
    (touch : RoundTouch τ) (g : RoundGate τ) : Prop where
  found : (rounds.ensureRound roundId touch).get? roundId = some g
  kept : ∀ old, rounds.get? roundId = some old → g = old
  charged : rounds.get? roundId = none → g.chargedIds = (touch.priorAttempts.map Prod.fst).toFinset
  used : ∀ touch' call, (rounds.ensureRound roundId touch).acquire sha256Hex roundId touch' call =
    some ((rounds.ensureRound roundId touch).set roundId (g.acquire sha256Hex call))

theorem acquire_of_found {rounds : GateRounds τ} {roundId} {g : RoundGate τ}
    (found : rounds.get? roundId = some g) (touch : RoundTouch τ) (call : AcquireCall) :
    rounds.acquire sha256Hex roundId touch call = some (rounds.set roundId (g.acquire sha256Hex call)) := by
  unfold acquire
  rw [found]

/-- A touched round is tracked exactly when it was tracked before or fewer than eight rounds are
    busy. -/
theorem ensureRound_tracks_iff (rounds : GateRounds τ) (roundId : String) (touch : RoundTouch τ) :
    ((∃ g, Tracked sha256Hex rounds roundId touch g) ∧ PrunesIdle rounds) ↔
      (rounds.get? roundId).isSome ∨ rounds.busy RoundGate.isIdle < maxTrackedRounds := by
  cases before : rounds.get? roundId with
  | some old =>
    have same : rounds.ensureRound roundId touch = rounds := by
      unfold ensureRound
      rw [before]
    have tracked : Tracked sha256Hex rounds roundId touch old :=
      { found := by rw [same, before]
        kept := fun old' found => Option.some.inj (before.symm.trans found)
        charged := fun absent => by rw [before] at absent; cases absent
        used := fun touch' call => acquire_of_found (by rw [same, before]) touch' call }
    simp
    exact ⟨⟨old, tracked⟩, prunesIdle rounds⟩
  | none =>
    have new : rounds.ensureRound roundId touch =
        prune (rounds.set roundId (opened roundId touch)) := by
      unfold ensureRound
      rw [before]
    have room : (prune (rounds.set roundId (opened roundId touch))).get? roundId =
        some (opened roundId touch) ↔ rounds.busy RoundGate.isIdle < maxTrackedRounds :=
      Dict.get?_evict_set_iff before (isIdle_opened roundId touch)
    simp
    constructor
    · rintro ⟨⟨g, tracked⟩, _⟩
      have found := tracked.found
      rw [new] at found
      have stored := Dict.get?_evict_some found
      rw [Dict.get?_set, if_pos rfl] at stored
      cases stored
      exact room.mp found
    · intro few
      have found : (rounds.ensureRound roundId touch).get? roundId = some (opened roundId touch) := by
        rw [new]
        exact room.mpr few
      have tracked : Tracked sha256Hex rounds roundId touch (opened roundId touch) :=
        { found
          kept := fun old there => by rw [before] at there; cases there
          charged := fun _ => chargedIds_opened roundId touch
          used := fun touch' call => acquire_of_found found touch' call }
      exact ⟨⟨_, tracked⟩, prunesIdle rounds⟩

/-- A miner builds in each of eight rounds. -/
def eightBuilding : GateRounds ℕ :=
  ["r1", "r2", "r3", "r4", "r5", "r6", "r7", "r8"].foldl
    (fun rounds roundId => (rounds.acquire contestDigests roundId ⟨3, RoundGate.twoProven, []⟩
      { submissionId := "sub_" ++ roundId, hotkey := "A" }).getD rounds) Dict.empty

/-- Between eight busy rounds a new one is dropped at once, and `acquire` raises. -/
theorem new_round_dropped :
    ¬(∃ g, Tracked contestDigests eightBuilding "r9" ⟨3, RoundGate.twoProven, []⟩ g) ∧
      ((ensureRound eightBuilding "r9" ⟨3, RoundGate.twoProven, []⟩).acquire contestDigests "r9"
        ⟨3, RoundGate.twoProven, []⟩ { submissionId := "sub_r9", hotkey := "A" }).isNone = true := by
  have gone : ((ensureRound eightBuilding "r9" ⟨3, RoundGate.twoProven, []⟩).get? "r9").isNone = true := by
    decide +kernel
  constructor
  · rintro ⟨g, tracked⟩
    rw [tracked.found] at gone
    cases gone
  · decide +kernel

end GateRounds

end MinotaurSubnet.Harness
