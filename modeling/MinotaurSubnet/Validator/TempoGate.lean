import Mathlib.Data.Rat.Floor
import MinotaurSubnet.Library.Machine

/-! # One weight commit in a tempo epoch

The chain keeps one pending commit of a validator for each of its epochs. The gate of
`validator/tempo_gate.py` lets `_epoch_loop` commit in a short window before the step that ends
an epoch; it extrapolates the height from a local clock between two looks at the chain, and a
failed emission is tried again. What the loop emits without an answer of the gate is left out.
-/

namespace MinotaurSubnet.Validator

open Library

/-- What `_sync_blocking` reads. -/
structure TempoReading where
  block : Int
  tempo : Int
  blocksSinceLastStep : Int

structure TempoEmitGate where
  tempo : Option Int := none
  syncedBlock : Int := 0
  syncedAt : Option ℚ := none
  nextBoundaryBlock : Option Int := none
  committedBoundary : Option Int := none
  lastSyncAttempt : Option ℚ := none

structure GateConfig where
  blockTime : ℚ := 12
  leadBlocks : Int := 20
  resyncSeconds : ℚ := 300

/-- One tick of the loop: the three readings of the clock, what the chain answers if it is asked,
    the height it has then, and whether an emission goes through. -/
structure Tick where
  now : ℚ
  syncedNow : ℚ
  estimatedNow : ℚ
  reading : Option TempoReading
  height : Int
  emits : Bool

namespace TempoEmitGate

variable (cfg : GateConfig) (g : TempoEmitGate) (t : Tick)

def maybeResync : TempoEmitGate :=
  if g.syncedAt.any fun synced => t.now - synced ≤ cfg.resyncSeconds then g
  else if g.lastSyncAttempt.any fun tried => t.now - tried < 30 then g
  else match t.reading with
  | none => { g with lastSyncAttempt := some t.now }
  | some reading =>
    if reading.tempo ≤ 0 then { g with tempo := none, lastSyncAttempt := some t.now }
    else { g with
      tempo := some reading.tempo
      syncedBlock := reading.block
      syncedAt := some t.syncedNow
      nextBoundaryBlock :=
        some (reading.block + max 0 (reading.tempo - reading.blocksSinceLastStep))
      lastSyncAttempt := some t.now }

def estimatedBlock : Int :=
  g.syncedBlock + ⌊max 0 (t.estimatedNow - g.syncedAt.getD 0) / cfg.blockTime⌋

/-- The `while` of `should_emit_now`; a tempo is only kept when it is positive, so is a period. -/
def catchUp (period est boundary : Int) : Int :=
  if boundary < est ∧ 0 < period then catchUp period est (boundary + period) else boundary
termination_by (est - boundary).toNat

def shouldEmitNow : TempoEmitGate × Option Bool :=
  let g := g.maybeResync cfg t
  match g.tempo, g.nextBoundaryBlock with
  | some tempo, some known =>
    let est := g.estimatedBlock cfg t
    let boundary := catchUp (tempo + 1) est known
    ({ g with nextBoundaryBlock := some boundary },
      some (decide (boundary - est ≤ cfg.leadBlocks) &&
        !g.committedBoundary.any fun committed => |boundary - committed| < (tempo + 1) / 2))
  | _, _ => (g, none)

def markCommitted : TempoEmitGate := { g with committedBoundary := g.nextBoundaryBlock }

end TempoEmitGate

/-- The loop, with the boundaries it committed for, newest first, and the chain's height. -/
structure EmitLoop where
  gate : TempoEmitGate := {}
  commits : List Int := []
  height : Int := 0

def EmitLoop.tick (cfg : GateConfig) (l : EmitLoop) (t : Tick) : EmitLoop × Option Bool :=
  let (gate, decision) := l.gate.shouldEmitNow cfg t
  if decision = some true ∧ t.emits then
    ({ gate := gate.markCommitted, commits := gate.nextBoundaryBlock.toList ++ l.commits,
       height := t.height }, decision)
  else ({ l with gate, height := t.height }, decision)

/-- A chain that steps every `tempo + 1` blocks. A reading is off by at most `skew` blocks, an
    extrapolated height by at most `drift`. -/
structure TempoChain where
  tempo : Int
  first : Int
  skew : Int
  drift : Int

namespace TempoChain

variable (chain : TempoChain)

/-- The epoch that ends at the step next to a boundary, and that it is next to one. -/
def epochOf (boundary : Int) : Int := (boundary - chain.first + chain.skew) / (chain.tempo + 1)

def Sighted (boundary : Int) : Prop :=
  (boundary - chain.first + chain.skew) % (chain.tempo + 1) ≤ 2 * chain.skew

structure Follows (cfg : GateConfig) (l : EmitLoop) (t : Tick) : Prop where
  reads : ∀ r, t.reading = some r → r.tempo = chain.tempo ∧
    chain.Sighted (r.block + max 0 (r.tempo - r.blocksSinceLastStep))
  grows : l.height ≤ t.height
  near : (l.gate.maybeResync cfg t).tempo.isSome →
    |(l.gate.maybeResync cfg t).estimatedBlock cfg t - t.height| ≤ chain.drift

/-- Two sightings of one step, or a window and twice the drift, span less than half a period. -/
structure Unambiguous (cfg : GateConfig) : Prop where
  positive : 0 < chain.tempo
  sightings : 2 * chain.skew < (chain.tempo + 1) / 2
  window : cfg.leadBlocks + 2 * chain.drift < (chain.tempo + 1) / 2

/-- What the gate knows of the chain and of the last commit. -/
structure Knows (commits : List Int) (g : TempoEmitGate) : Prop where
  last : g.committedBoundary = commits.head?
  tempo : ∀ tempo, g.tempo = some tempo → tempo = chain.tempo
  boundary : ∀ known, g.nextBoundaryBlock = some known → chain.Sighted known

/-- The commits are those of ever later epochs, made in their windows. -/
structure Paced (cfg : GateConfig) (l : EmitLoop) : Prop where
  knows : chain.Knows l.commits l.gate
  later : (l.commits.map chain.epochOf).Pairwise (· > ·)
  sighted : ∀ c ∈ l.commits, chain.Sighted c
  reached : ∀ c ∈ l.commits, c - cfg.leadBlocks - chain.drift ≤ l.height

variable {chain} {cfg : GateConfig} {l : EmitLoop} {t : Tick} {b c : Int}

theorem Sighted.spans (sure : chain.Unambiguous cfg) (sighted : chain.Sighted b) :
    chain.epochOf b * (chain.tempo + 1) ≤ b - chain.first + chain.skew ∧
      b - chain.first - chain.skew ≤ chain.epochOf b * (chain.tempo + 1) := by
  have period : 0 < chain.tempo + 1 := by have := sure.positive; omega
  have parts := Int.ediv_mul_add_emod (b - chain.first + chain.skew) (chain.tempo + 1)
  have := Int.emod_nonneg (b - chain.first + chain.skew) period.ne'
  rw [Sighted] at sighted
  rw [epochOf]
  omega

theorem Sighted.lt (sure : chain.Unambiguous cfg) (here : chain.Sighted b) (there : chain.Sighted c)
    (apart : c + (chain.tempo + 1) / 2 ≤ b) : chain.epochOf c < chain.epochOf b := by
  by_contra behind
  have steps := Int.mul_le_mul_of_nonneg_right (not_lt.mp behind)
    (by have := sure.positive; omega : 0 ≤ chain.tempo + 1)
  have := sure.sightings
  have := here.spans sure
  have := there.spans sure
  omega

theorem Sighted.le (sure : chain.Unambiguous cfg) (here : chain.Sighted b) (there : chain.Sighted c)
    (near : b < c + (chain.tempo + 1) / 2) : chain.epochOf b ≤ chain.epochOf c := by
  by_contra ahead
  have steps := Int.mul_le_mul_of_nonneg_right (Int.add_one_le_iff.mpr (not_le.mp ahead))
    (by have := sure.positive; omega : 0 ≤ chain.tempo + 1)
  rw [Int.add_mul] at steps
  have := sure.sightings
  have := here.spans sure
  have := there.spans sure
  omega

theorem catchUp_spec (sure : chain.Unambiguous cfg) (est : Int) {boundary}
    (sighted : chain.Sighted boundary) :
    est ≤ TempoEmitGate.catchUp (chain.tempo + 1) est boundary ∧
      chain.Sighted (TempoEmitGate.catchUp (chain.tempo + 1) est boundary) := by
  have := sure.positive
  induction boundary using TempoEmitGate.catchUp.induct (chain.tempo + 1) est with
  | case1 boundary behind ih =>
    rw [TempoEmitGate.catchUp, if_pos behind]
    apply ih
    rwa [Sighted, show boundary + (chain.tempo + 1) - chain.first + chain.skew =
      boundary - chain.first + chain.skew + (chain.tempo + 1) by ring, Int.add_emod_right]
  | case2 boundary ahead =>
    rw [TempoEmitGate.catchUp, if_neg ahead]
    exact ⟨by omega, sighted⟩

theorem Paced.resynced (paced : chain.Paced cfg l) (follows : chain.Follows cfg l t) :
    chain.Knows l.commits (l.gate.maybeResync cfg t) := by
  unfold TempoEmitGate.maybeResync
  split
  · exact paced.knows
  split
  · exact paced.knows
  split
  · exact { paced.knows with }
  · next reading read =>
    obtain ⟨same, sighted⟩ := follows.reads reading read
    split
    · exact { paced.knows with tempo := nofun }
    · exact ⟨paced.knows.last, fun _ kept => (Option.some.inj kept).symm.trans same,
        fun _ kept => Option.some.inj kept ▸ sighted⟩

/-- Half a period away from the newest commit is a later epoch than every commit's; nearer is the
    epoch of that commit. -/
theorem Paced.apart (sure : chain.Unambiguous cfg) (paced : chain.Paced cfg l)
    (sighted : chain.Sighted b) (passed : l.height ≤ b + chain.drift) {newest older}
    (made : l.commits = newest :: older) :
    ((chain.tempo + 1) / 2 ≤ |b - newest| → ∀ c ∈ l.commits, chain.epochOf c < chain.epochOf b) ∧
      (|b - newest| < (chain.tempo + 1) / 2 → chain.epochOf b = chain.epochOf newest) := by
  have first : newest ∈ l.commits := by rw [made]; exact List.mem_cons_self
  have known := paced.sighted newest first
  constructor
  · intro apart c member
    have newer : chain.epochOf newest < chain.epochOf b := by
      apply sighted.lt sure known
      have := sure.window
      have := paced.reached newest first
      rcases le_abs.mp apart with ahead | behind <;> omega
    have ordered := paced.later
    rw [made] at member ordered
    rcases List.mem_cons.mp member with rfl | old
    · exact newer
    · exact (List.rel_of_pairwise_cons ordered (List.mem_map_of_mem old)).trans newer
  · intro near
    have near := abs_lt.mp near
    exact le_antisymm (sighted.le sure known (by omega)) (known.le sure sighted (by omega))

/-- What a question leaves behind, and its answer: it is `True` in the window of an epoch that has
    no commit, and all commits are of earlier epochs then. -/
theorem Paced.asked (sure : chain.Unambiguous cfg) (paced : chain.Paced cfg l)
    (follows : chain.Follows cfg l t) : chain.Knows l.commits (l.gate.shouldEmitNow cfg t).1 ∧
      ∀ answer, (l.gate.shouldEmitNow cfg t).2 = some answer →
        ∃ boundary, (l.gate.shouldEmitNow cfg t).1.nextBoundaryBlock = some boundary ∧
          (answer = true → boundary - cfg.leadBlocks - chain.drift ≤ t.height ∧
            ∀ c ∈ l.commits, chain.epochOf c < chain.epochOf boundary) ∧
          (answer = true ↔ chain.epochOf boundary ∉ l.commits.map chain.epochOf ∧
            boundary - (l.gate.maybeResync cfg t).estimatedBlock cfg t ≤ cfg.leadBlocks) := by
  have synced := paced.resynced follows
  have near := follows.near
  unfold TempoEmitGate.shouldEmitNow
  dsimp only
  generalize l.gate.maybeResync cfg t = g at *
  split
  · next tempo known period scheduled =>
    obtain rfl := synced.tempo tempo period
    have close := abs_le.mp (near (by rw [period]; rfl))
    generalize g.estimatedBlock cfg t = est at *
    obtain ⟨passed, sighted⟩ := catchUp_spec sure est (synced.boundary known scheduled)
    generalize TempoEmitGate.catchUp (chain.tempo + 1) est known = boundary at *
    refine ⟨{ synced with boundary := fun _ kept => Option.some.inj kept ▸ sighted }, ?_⟩
    rintro answer ⟨⟩
    refine ⟨boundary, rfl, ?_⟩
    rw [synced.last, Bool.and_eq_true, decide_eq_true_eq, Bool.not_eq_true']
    have grows := follows.grows
    have passed : l.height ≤ boundary + chain.drift := by omega
    cases made : l.commits with
    | nil => simp; omega
    | cons newest older =>
      obtain ⟨later, same⟩ := paced.apart sure sighted passed made
      rw [made] at later
      simp only [List.head?_cons, Option.any_some, decide_eq_false_iff_not, not_lt]
      refine ⟨fun passes => ⟨by omega, later passes.2⟩, ?_⟩
      constructor
      · refine fun passes => ⟨fun member => ?_, passes.1⟩
        obtain ⟨c, old, equal⟩ := List.mem_map.mp member
        exact (later passes.2 c old).ne equal
      · rintro ⟨fresh, window⟩
        refine ⟨window, le_of_not_gt fun close => fresh ?_⟩
        rw [same close]
        exact List.mem_cons_self
  · exact ⟨synced, nofun⟩

theorem Paced.tick (sure : chain.Unambiguous cfg) (paced : chain.Paced cfg l)
    (follows : chain.Follows cfg l t) : chain.Paced cfg (l.tick cfg t).1 := by
  obtain ⟨knows, answers⟩ := paced.asked sure follows
  have stood : ∀ c ∈ l.commits, c - cfg.leadBlocks - chain.drift ≤ t.height :=
    fun c member => (paced.reached c member).trans follows.grows
  unfold EmitLoop.tick
  generalize l.gate.shouldEmitNow cfg t = asked at *
  dsimp only
  split
  · next passes =>
    obtain ⟨boundary, next, through, -⟩ := answers true passes.1
    obtain ⟨arrived, newest⟩ := through rfl
    rw [next]
    refine ⟨⟨next, knows.tempo, knows.boundary⟩, ?_, ?_, ?_⟩
    · exact List.pairwise_cons.mpr ⟨by simpa using newest, paced.later⟩
    · exact List.forall_mem_cons.mpr ⟨knows.boundary _ next, paced.sighted⟩
    · exact List.forall_mem_cons.mpr ⟨arrived, stood⟩
  · exact ⟨knows, paced.later, paced.sighted, stood⟩

/-- Whatever syncs and emissions fail: the commits are for ever later epochs, so one for each, and
    the gate lets a tick through exactly in the window of an epoch that has none. -/
theorem one_commit_per_epoch (sure : chain.Unambiguous cfg)
    (run : Reaches (EmitLoop.tick cfg) (chain.Follows cfg) {} l) :
    (l.commits.map chain.epochOf).Pairwise (· > ·) ∧
      ∀ t, chain.Follows cfg l t → ∀ answer, (l.gate.shouldEmitNow cfg t).2 = some answer →
        ∃ boundary, (l.gate.shouldEmitNow cfg t).1.nextBoundaryBlock = some boundary ∧
          (answer = true ↔ chain.epochOf boundary ∉ l.commits.map chain.epochOf ∧
            boundary - (l.gate.maybeResync cfg t).estimatedBlock cfg t ≤ cfg.leadBlocks) := by
  have start : chain.Paced cfg {} := ⟨⟨rfl, nofun, nofun⟩, .nil, by simp, by simp⟩
  have paced := run.invariant _ start fun _ _ paced follows => paced.tick sure follows
  refine ⟨paced.later, fun t follows answer answered => ?_⟩
  obtain ⟨boundary, next, -, passes⟩ := (paced.asked sure follows).2 answer answered
  exact ⟨boundary, next, passes⟩

def finney : TempoChain := { tempo := 360, first := 0, skew := 1, drift := 2 }

def windowTick : Tick where
  now := 100
  syncedNow := 100
  estimatedNow := 112
  reading := some { block := 345, tempo := 360, blocksSinceLastStep := 345 }
  height := 346
  emits := true

/-- A minute later, and an epoch later. -/
def laterTicks : List Tick := [
  { now := 160, syncedNow := 160, estimatedNow := 160, reading := none, height := 350, emits := true },
  { now := 4432, syncedNow := 4432, estimatedNow := 4444,
    reading := some { block := 706, tempo := 360, blocksSinceLastStep := 345 }, height := 707, emits := true }]

def windowRun (n : Nat) : EmitLoop := runEvents (EmitLoop.tick {}) {} (windowTick :: laterTicks.take n)

/-- The tick a minute later is refused, since its epoch has a commit, and the next epoch gets one. -/
theorem one_commit_per_epoch_window :
    ((windowRun 2).commits.map finney.epochOf).Pairwise (· > ·) ∧ (windowRun 2).commits = [721, 360] ∧
      ∀ t ∈ laterTicks.head?, ∃ boundary,
        ((windowRun 0).gate.shouldEmitNow {} t).1.nextBoundaryBlock = some boundary ∧
        finney.epochOf boundary ∈ (windowRun 0).commits.map finney.epochOf := by
  have sighted : ∀ t ∈ windowTick :: laterTicks, ∀ r ∈ t.reading, r.tempo = finney.tempo ∧
      finney.Sighted (r.block + max 0 (r.tempo - r.blocksSinceLastStep)) := by
    unfold Sighted
    decide
  have first : finney.Follows {} {} windowTick :=
    ⟨sighted _ List.mem_cons_self, by decide, fun _ => by decide +kernel⟩
  have second : finney.Follows {} (windowRun 0) laterTicks[0] :=
    ⟨sighted _ (by simp [laterTicks]), by decide +kernel, fun _ => by decide +kernel⟩
  have third : finney.Follows {} (windowRun 1) laterTicks[1] :=
    ⟨sighted _ (by simp [laterTicks]), by decide +kernel, fun _ => by decide +kernel⟩
  have sure : finney.Unambiguous {} := ⟨by decide, by decide, by decide⟩
  have run : Reaches (EmitLoop.tick {}) (finney.Follows {}) {} (windowRun 2) :=
    AllowedAlong.reaches ⟨first, second, third, trivial⟩
  refine ⟨(one_commit_per_epoch sure run).1, by decide +kernel, ?_⟩
  rintro t (_ | _)
  have one : Reaches (EmitLoop.tick {}) (finney.Follows {}) {} (windowRun 0) :=
    AllowedAlong.reaches ⟨first, trivial⟩
  obtain ⟨boundary, next, passes⟩ := (one_commit_per_epoch sure one).2 laterTicks[0] second false
    (by decide +kernel)
  have known : ((windowRun 0).gate.shouldEmitNow {} laterTicks[0]).1.nextBoundaryBlock = some 360 := by
    decide +kernel
  cases known.symm.trans next
  refine ⟨360, next, ?_⟩
  by_contra fresh
  exact absurd (passes.mpr ⟨fresh, by decide +kernel⟩) (by decide)

end TempoChain

end MinotaurSubnet.Validator
