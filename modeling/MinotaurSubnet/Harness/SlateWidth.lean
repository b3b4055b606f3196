import MinotaurSubnet.Harness.Rotation
import MinotaurSubnet.Harness.SubmissionMutators
import MinotaurSubnet.Library.Machine

/-! # The slate belt and its width

The belt keeps a pass to the recorded slate only while more submissions are queued than the slate
has slots. Once the slate itself has been benched, an overflow of at most that many is benched
after it.
-/

namespace MinotaurSubnet.Harness

open Library Python

def terminalStatuses : List SubmissionStatus := [.rejected, .adopted, .waitlisted]

def Submission.candidate (sub : Submission) : Candidate := ⟨sub.submissionId.text, sub.hotkey⟩

namespace StoreMemory

def listByRound (m : StoreMemory) (roundId : String) : List Submission :=
  sortedBy (·.createdAt) (m.values.filter fun s => s.roundId.text = roundId)

def listByStatus (m : StoreMemory) (status : SubmissionStatus) : List Submission :=
  m.values.filter fun s => s.status = status

end StoreMemory

section

def notSelectedReason (roundId : String) (contenders : Nat) (slots : Int) : String :=
  s!"not selected for {roundId} (rotation: {contenders} candidates, {slots} slots) — resubmit "
    ++ "next round; miners benched longest ago go first"

/-- The sweep over the overflow; `lands` tells whom it gets to park. -/
def parkSkipped (now : ℚ) (roundId : String) (contenders : Nat) (slots : Int) (lands : String → Bool)
    (m : StoreMemory) (skipped : List Candidate) : StoreMemory :=
  (skipped.zipIdx 1).foldl
    (fun m item =>
      if lands item.1.submissionId then
        (m.waitlist now item.1.submissionId (notSelectedReason roundId contenders slots)
          "rotation_not_selected" (some item.2) (some contenders) (some slots)).state
      else m) m

variable {τ : Type} [LinearOrder τ] [Zero τ] (sha256Hex : String → String)

/-- `apply_rotation_slate` with rotation on: the store it leaves and the selected ids. -/
def applyRotationSlate (now : ℚ) (roundId : String) (slots : Int) (ledger : Dict String τ)
    (actorOf : Option (String → String)) (lands : String → Bool) (m : StoreMemory) :
    StoreMemory × List String :=
  let candidates := ((m.listByRound roundId).filter fun s => !terminalStatuses.contains s.status).map
    Submission.candidate
  let slate := selectRotationSlate sha256Hex candidates slots ledger roundId actorOf
  (parkSkipped now roundId candidates.length slots lands m slate.2, slate.1.map Candidate.submissionId)

end

def occupiesSlot (sub : Submission) : Bool :=
  match sub.status with
  | .adopted => false
  | .rejected => StoreMemory.hasDetails sub
  | _ => true

/-- The closed round as the worker sees it: its id, the slate width, the recorded slate, and what
    a recomputation would use. -/
structure SlateRound (τ : Type) where
  roundId : String
  slots : Int
  benchedSlate : Option (List String)
  ledger : Dict String τ
  actorOf : Option (String → String)

section

variable {τ : Type} [LinearOrder τ] [Zero τ] (sha256Hex : String → String) (round : SlateRound τ)

def recordedOn (slate : List String) (sub : Submission) : Bool := slate.contains sub.submissionId.text

def capToRotationSlate (m : StoreMemory) (benchmarking : List Submission) : List Submission :=
  if round.slots ≤ 0 ∨ (benchmarking.length : Int) ≤ round.slots then benchmarking
  else match round.benchedSlate with
    | some slate => benchmarking.filter (recordedOn slate)
    | none =>
      let live := (m.listByRound round.roundId).filter occupiesSlot
      if (live.length : Int) ≤ round.slots then benchmarking
      else
        let slate := (selectRotationSlate sha256Hex (live.map Submission.candidate) round.slots
          round.ledger round.roundId round.actorOf).1
        benchmarking.filter (recordedOn (slate.map Candidate.submissionId))

def queuedFor (m : StoreMemory) : List Submission :=
  (m.listByStatus .benchmarking).filter fun s => s.roundId.text = round.roundId

end

/-- How the benchmark of one submission ends. -/
inductive BenchOutcome where
  | results (valid : Bool) (details : Dict String Value)
  /-- `RealSimulationUnavailable`. -/
  | unavailable (error : String)
  | failed (error : String)

def errorDetails (error : String) : Dict String Value := Dict.empty.set "error" (.str error)

/-- One submission of a pass: the store after it, and whether its solver was run. -/
def benchmarkOne (now : ℚ) (allowSubprocess : Bool) (delivered : Dict String Value → Bool)
    (m : StoreMemory) (sub : Submission) (outcome : BenchOutcome) : StoreMemory × Bool :=
  let id := sub.submissionId.text
  if (m.get id).map (·.status) ≠ some .benchmarking then (m, false)
  else if sub.benchmarkDetails.any delivered then (m, false)
  else match sub.solverPath, sub.imageTag with
    | some _, _ =>
      if allowSubprocess then
        match outcome with
        | .results valid details =>
          ((m.setBenchmarkResult now id valid none (some details)).state, true)
        | .unavailable error | .failed error =>
          ((m.setBenchmarkResult now id false none (some (errorDetails error))).state, true)
      else
        ((m.reject now id ("Subprocess benchmarking is disabled by policy. "
          ++ "Use signed git/docker submissions.") (some "benchmark_failed")).state, false)
    | none, some _ =>
      match outcome with
      | .results valid details => ((m.setBenchmarkResult now id valid none (some details)).state, true)
      -- the submission stays queued for the next pass
      | .unavailable _ => (m, true)
      | .failed error =>
        ((m.setBenchmarkResult now id false none (some (errorDetails error))).state, true)
    | none, none =>
      ((m.reject now id "No solver_path or image_tag available for benchmarking"
        (some "benchmark_failed")).state, false)

/-- The worker: its view of the store and what is left of the pass it is in. No step reads
    `benched`, the ids whose solver was run. -/
structure SlateWorker where
  store : StoreMemory
  pending : List Submission := []
  benched : List String := []

inductive SlateEvent where
  /-- A pass begins; `ready` when the simulator, the fork pin and the intents are there. -/
  | runOnce (ready : Bool)
  | next (now : ℚ) (outcome : BenchOutcome)
  | reload (store : StoreMemory)
  | restart

/-- What is common to all passes of a worker. -/
structure BenchPolicy where
  allowSubprocess : Bool
  /-- `has_delivered_value_rows` of the per-order rows. -/
  delivered : Dict String Value → Bool

namespace SlateWorker

variable {τ : Type} [LinearOrder τ] [Zero τ] (sha256Hex : String → String) (round : SlateRound τ)
  (policy : BenchPolicy)

def step (s : SlateWorker) : SlateEvent → SlateWorker × Unit
  | .runOnce ready =>
    -- a second caller waits for the lock
    if ready ∧ s.pending = [] then
      ({ s with
        pending := capToRotationSlate sha256Hex round s.store (queuedFor round s.store) }, ())
    else (s, ())
  | .next now outcome =>
    match s.pending with
    | [] => (s, ())
    | sub :: rest =>
      let (store, ran) :=
        benchmarkOne now policy.allowSubprocess policy.delivered s.store sub outcome
      ({ s with
        store
        pending := rest
        benched := if ran then s.benched ++ [sub.submissionId.text] else s.benched }, ())
  | .reload store => ({ s with store }, ())
  | .restart => ({ s with pending := [] }, ())

end SlateWorker

section

variable {τ : Type} [LinearOrder τ] [Zero τ] (sha256Hex : String → String)

theorem length_fillSeats {slots selected} (overflow : List Candidate)
    (fits : selected.length ≤ slots) : (fillSeats slots selected overflow).1.length ≤ slots := by
  induction overflow generalizing selected with
  | nil => exact fits
  | cons sub rest ih =>
    unfold fillSeats
    split
    next room =>
      apply ih
      rw [List.length_append, List.length_singleton]
      exact room
    next => exact fits

theorem length_offers {resolve : String → String} {slots} (ordered : List Candidate) {slate}
    (fits : slate.selected.length ≤ slots) :
    (ordered.foldl (Slate.offer resolve slots) slate).selected.length ≤ slots := by
  induction ordered generalizing slate with
  | nil => exact fits
  | cons sub rest ih =>
    apply ih
    unfold Slate.offer
    simp only
    split
    next room =>
      rw [List.length_append, List.length_singleton]
      exact room.1
    next => exact fits

theorem length_selectRotationSlate (candidates : List Candidate) (slots : Int)
    (ledger : Dict String τ) (roundId : String) (actorOf : Option (String → String)) :
    (selectRotationSlate sha256Hex candidates slots ledger roundId actorOf).1.length ≤
      slots.toNat := by
  unfold selectRotationSlate
  cases actorOf with
  | none => simp
  | some resolve => exact length_fillSeats _ (length_offers _ (Nat.zero_le _))

end

section

variable {τ : Type} [LinearOrder τ] [Zero τ] (sha256Hex : String → String) {round : SlateRound τ}
  {slate : List String}

theorem recorded_of_cap_iff (slots : 0 < round.slots) (recorded : round.benchedSlate = some slate)
    (m : StoreMemory) (benchmarking : List Submission) :
    (∀ sub ∈ capToRotationSlate sha256Hex round m benchmarking, recordedOn slate sub) ↔
      (round.slots < benchmarking.length ∨ ∀ sub ∈ benchmarking, recordedOn slate sub) := by
  unfold capToRotationSlate
  by_cases few : (benchmarking.length : Int) ≤ round.slots
  · rw [if_pos (.inr few)]
    simp [not_lt.mpr few]
  · rw [if_neg (by omega), recorded]
    simp [lt_of_not_ge few]

end

namespace SlateWorker

variable {τ : Type} [LinearOrder τ] [Zero τ] {sha256Hex : String → String} {round : SlateRound τ}
  {policy : BenchPolicy} {slate : List String}

/-- A pass that begins finds more submissions than slots, or only submissions of the slate. -/
def Heeded (round : SlateRound τ) (slate : List String) (s : SlateWorker) : SlateEvent → Prop
  | .runOnce ready => ready → s.pending = [] →
      round.slots < (queuedFor round s.store).length ∨
        ∀ sub ∈ queuedFor round s.store, recordedOn slate sub
  | _ => True

structure OnSlate (slate : List String) (s : SlateWorker) : Prop where
  pending : ∀ sub ∈ s.pending, recordedOn slate sub
  benched : ∀ id ∈ s.benched, id ∈ slate

theorem OnSlate.step {s : SlateWorker} (kept : s.OnSlate slate) (slots : 0 < round.slots)
    (recorded : round.benchedSlate = some slate) (e : SlateEvent) (heeded : s.Heeded round slate e) :
    (s.step sha256Hex round policy e).1.OnSlate slate := by
  cases e with
  | runOnce ready =>
    simp only [SlateWorker.step]
    split
    next begins =>
      exact
        { pending := (recorded_of_cap_iff sha256Hex slots recorded s.store _).mpr
            (heeded begins.1 begins.2)
          benched := kept.benched }
    next => exact kept
  | next now outcome =>
    simp only [SlateWorker.step]
    split
    next => exact kept
    next sub rest queued =>
      have own : sub.submissionId.text ∈ slate := by
        simpa [recordedOn] using kept.pending sub (queued ▸ List.mem_cons_self)
      refine { pending := fun other member => kept.pending other ?_, benched := ?_ }
      · exact queued ▸ List.mem_cons_of_mem sub member
      · intro id member
        simp only at member
        split at member
        next =>
          cases List.mem_append.mp member with
          | inl old => exact kept.benched id old
          | inr new =>
            obtain rfl := List.mem_singleton.mp new
            exact own
        next => exact kept.benched id member
  | reload store => exact { pending := kept.pending, benched := kept.benched }
  | restart =>
    exact
      { pending := fun _ member => by cases member
        benched := kept.benched }

end SlateWorker

def closedRound {τ : Type} (roundId : String) (slots : Int) (slate : List String)
    (ledger : Dict String τ) (actorOf : Option (String → String)) : SlateRound τ :=
  ⟨roundId, slots, some slate, ledger, actorOf⟩

def WithinSlate (slate : List String) (slots : Int) (s : SlateWorker) : Prop :=
  (∀ id ∈ s.benched, id ∈ slate) ∧ (s.benched.toFinset.card : Int) ≤ slots

section

variable {τ : Type} [LinearOrder τ] [Zero τ] (sha256Hex : String → String) (policy : BenchPolicy)

/-- However far the sweep of the close got, heeded passes bench the slate and nobody else.
    `later` is the ledger that a recomputation would find. -/
theorem slate_width_kept (roundId : String) (slots : Int) (positive : 0 < slots)
    (ledger later : Dict String τ) (actorOf : Option (String → String)) (now : ℚ) (m : StoreMemory)
    (lands : String → Bool) (s : SlateWorker)
    (reached :
      let closed := applyRotationSlate sha256Hex now roundId slots ledger actorOf lands m
      let round := closedRound roundId slots closed.2 later actorOf
      Reaches (SlateWorker.step sha256Hex round policy) (SlateWorker.Heeded round closed.2)
        { store := closed.1 } s) :
    WithinSlate (applyRotationSlate sha256Hex now roundId slots ledger actorOf lands m).2 slots s := by
  have onSlate := reached.invariant (SlateWorker.OnSlate _)
    { pending := fun _ member => by cases member
      benched := fun _ member => by cases member }
    fun _ e kept heeded => kept.step positive rfl e heeded
  refine ⟨onSlate.benched, ?_⟩
  generalize closed :
    applyRotationSlate sha256Hex now roundId slots ledger actorOf lands m = out at onSlate ⊢
  have width : out.2.length ≤ slots.toNat := by
    rw [← closed, applyRotationSlate, List.length_map]
    exact length_selectRotationSlate sha256Hex _ slots ledger roundId actorOf
  have inside : s.benched.toFinset ⊆ out.2.toFinset := by
    intro id member
    rw [List.mem_toFinset] at member ⊢
    exact onSlate.benched id member
  have few : s.benched.toFinset.card ≤ out.2.length :=
    (Finset.card_le_card inside).trans (List.toFinset_card_le out.2)
  omega

end

def entrant (id : SubmissionId) (hotkey : String) : Submission where
  submissionId := id
  repoUrl := "https://github.com/miner/solver"
  commitHash := "c0ffee"
  epoch := 1
  hotkey := hotkey
  roundId := ⟨"r1", by decide⟩
  status := .benchmarking
  imageTag := some "solver:latest"

def threeEntrants : StoreMemory :=
  StoreMemory.empty.put (entrant .subA "A")
    |>.put (entrant .subB "B")
    |>.put (entrant .subC "C")

def fiveEntrants : StoreMemory :=
  threeEntrants.put (entrant ⟨"sub_d", by decide, by decide⟩ "D")
    |>.put (entrant ⟨"sub_e", by decide, by decide⟩ "E")

def slateDigests (text : String) : String :=
  match text with
  | "A:r1" => "f40e4ec9211fd949805a525019721d83c180600df767d483b124cd52e260d1cc"
  | "B:r1" => "9e7a1f0029d59fd05df1868e266fd6d5dcfadb9d5f21251470489346ef63cc4a"
  | "C:r1" => "9c83440497deb153ef717dcc287dfaa8231d8d5327238f6e35f942ffa38f4256"
  | "D:r1" => "cf329a120ce6fcc9344dd4063205772687c71a8c85b814effe5b97236f9c2c90"
  | "E:r1" => "1a5dd8d2aa2ecae4e0c67cead34bacba13f8df36b104c5d7f8bd13396ef0f15b"
  | _ => ""

def dockerOnly : BenchPolicy := ⟨false, fun _ => true⟩

def IsPass (_ : SlateWorker) : SlateEvent → Prop
  | .runOnce _ | .next _ _ => True
  | .reload _ | .restart => False

def brokenClose (m : StoreMemory) : StoreMemory × List String :=
  applyRotationSlate slateDigests 0 "r1" 2 (.empty : Dict String Nat) none (fun _ => false) m

def brokenRound (m : StoreMemory) : SlateRound Nat := closedRound "r1" 2 (brokenClose m).2 .empty none

def twoPasses : List SlateEvent :=
  [.runOnce true, .next 1 (.results true .empty), .next 2 (.results true .empty),
    .runOnce true, .next 3 (.results true .empty)]

def afterTwoPasses (m : StoreMemory) : SlateWorker :=
  runEvents (SlateWorker.step slateDigests (brokenRound m) dockerOnly) { store := (brokenClose m).1 }
    twoPasses

theorem overflow_benched_after_slate :
    ¬ ∀ (policy : BenchPolicy) (roundId : String) (slots : Int) (_ : 0 < slots)
        (ledger later : Dict String Nat) (actorOf : Option (String → String)) (now : ℚ) (m : StoreMemory)
        (lands : String → Bool) (s : SlateWorker),
        let closed := applyRotationSlate slateDigests now roundId slots ledger actorOf lands m
        let round := closedRound roundId slots closed.2 later actorOf
        Reaches (SlateWorker.step slateDigests round policy) IsPass { store := closed.1 } s →
          WithinSlate closed.2 slots s := by
  intro kept
  have passes : AllowedAlong (SlateWorker.step slateDigests (brokenRound threeEntrants) dockerOnly) IsPass
      { store := (brokenClose threeEntrants).1 } twoPasses :=
    ⟨trivial, trivial, trivial, trivial, trivial, trivial⟩
  have within := kept dockerOnly "r1" 2 (by decide) .empty .empty none 0 threeEntrants (fun _ => false)
    (afterTwoPasses threeEntrants) passes.reaches
  have slate : (brokenClose threeEntrants).2 = ["sub_c", "sub_b"] := by decide +kernel
  have last : (afterTwoPasses threeEntrants).benched = ["sub_b", "sub_c", "sub_a"] := by decide +kernel
  have inside : "sub_a" ∈ (brokenClose threeEntrants).2 := within.1 "sub_a" (by rw [last]; decide)
  rw [slate] at inside
  revert inside
  decide

/-- Three of five are left after the slate is benched. -/
theorem long_overflow_held_back :
    WithinSlate (brokenClose fiveEntrants).2 2 (afterTwoPasses fiveEntrants) := by
  have heeded : AllowedAlong (SlateWorker.step slateDigests (brokenRound fiveEntrants) dockerOnly)
      (SlateWorker.Heeded (brokenRound fiveEntrants) (brokenClose fiveEntrants).2)
      { store := (brokenClose fiveEntrants).1 } twoPasses :=
    ⟨fun _ _ => .inl (by decide +kernel), trivial, trivial, fun _ _ => .inl (by decide +kernel),
      trivial, trivial⟩
  exact slate_width_kept slateDigests dockerOnly "r1" 2 (by decide) .empty .empty none 0 fiveEntrants
    (fun _ => false) (afterTwoPasses fiveEntrants) heeded.reaches

end MinotaurSubnet.Harness
