import MinotaurSubnet.Harness.RoundPins

/-! # The pins a round is scored at and the pins it is sealed with

Derivations that succeed agree, because a pin is a property of the chain. Passes and pack
hash can still part: a close at which no derivation has succeeded yet seals a hash without
pins, while the worker never scores without them and derives its own a moment later.
-/

namespace MinotaurSubnet.Harness

open Library Python Consensus

variable {ts : Int → Nat → Int}

/-- Every pass of a closed round ran at the map in its pack hash; without a segment in the
    hash it ran unpinned. -/
def PinRun.ScoredAsSealed (s : PinRun) : Prop :=
  ∀ pins, s.sealedPins = some pins → ∀ bench ∈ s.benches,
    bench = pins ∧ (pinSegment pins = "" → bench = none)

def IsRoundPins (ts : Int → Nat → Int) (epoch : Int) (chains : List Int) (pins : Pins) : Prop :=
  ∃ node : PinAccessors, node.Reads ts ∧
    deriveForkPins (roundAnchorTs epoch) (some (roundAnchorTsForChain epoch)) chains node
      roundAnchorConfirmations = .ok pins

theorem IsRoundPins.unique (ordered : ∀ chainId, Monotone (ts chainId)) {epoch chains pins pins'}
    (first : IsRoundPins ts epoch chains pins) (second : IsRoundPins ts epoch chains pins') :
    pins = pins' := by
  obtain ⟨node, reads, derived⟩ := first
  obtain ⟨node', reads', derived'⟩ := second
  exact deriveForkPins_agree ordered reads reads' derived derived'

theorem IsRoundPins.primary {epoch pins} (derived : IsRoundPins ts epoch roundAnchorChains pins) :
    ∃ block, pins = Dict.empty.set primaryChain block := by
  obtain ⟨node, -, derived⟩ := derived
  simp only [deriveForkPins, roundAnchorChains, List.foldlM_cons, List.foldlM_nil] at derived
  obtain ⟨pinned, here, last⟩ := bind_eq_ok.mp derived
  obtain ⟨block, -, set⟩ := bind_eq_ok.mp here
  exact ⟨block, by rw [← pure_eq_ok.mp last, ← pure_eq_ok.mp set]⟩

theorem truthyPins_eq_some {pins held} (truthy : truthyPins pins = some held) :
    pins = some held ∧ held.entries ≠ [] := by
  obtain ⟨given, nonempty⟩ := Option.filter_eq_some_iff.mp truthy
  exact ⟨given, by simpa using nonempty⟩

theorem deriveRoundForkPins_isRoundPins {gates epoch} {attempt : PinAttempt ts} {pins}
    (derived : truthyPins (deriveRoundForkPins gates epoch attempt) = some pins) :
    IsRoundPins ts epoch (benchmarkPinChains gates attempt.deployments) pins := by
  have derived := (truthyPins_eq_some derived).1
  unfold deriveRoundForkPins at derived
  refine ⟨attempt.node, attempt.reads, ?_⟩
  cases ran : deriveForkPins (roundAnchorTs epoch) (some (roundAnchorTsForChain epoch))
      (benchmarkPinChains gates attempt.deployments) attempt.node roundAnchorConfirmations with
  | error e => simp [ran, Except.toOption] at derived
  | ok found =>
    rw [ran] at derived
    rw [Option.some.inj derived]

theorem serializeForkPins_ne_empty {pins} (nonempty : pins.entries ≠ []) :
    serializeForkPins pins ≠ "" := by
  unfold serializeForkPins
  cases sorted : pins.entries.insertionSort fun a b => a.1 ≤ b.1 with
  | nil =>
    have perm := List.perm_insertionSort (fun a b : Int × Int => a.1 ≤ b.1) pins.entries
    rw [sorted] at perm
    exact (nonempty perm.nil_eq.symm).elim
  | cons entry rest =>
    rw [List.map_cons]
    intro blank
    have colon : ':' ∈ (String.intercalate "|" (s!"{entry.1}:{entry.2}" ::
        rest.map fun entry => s!"{entry.1}:{entry.2}")).toList := by
      cases rest with
      | nil => simp [ToString.toString]
      | cons next rest =>
        rw [List.map_cons, String.intercalate_cons_cons]
        simp [ToString.toString]
    rw [blank] at colon
    simp at colon

def PinAttempt.Sees (gates : PinGates) (chains : List Int) (attempt : PinAttempt ts) : Prop :=
  benchmarkPinChains gates attempt.deployments = chains

def RoundPinned (ts : Int → Nat → Int) (gates : PinGates) (epoch : Int) (chains : List Int)
    (pins : Option Pins) : Prop :=
  if gates.pinEnabled then ∃ found, pins = some found ∧ found.entries ≠ [] ∧
    IsRoundPins ts epoch chains found
  else pins = none

section

variable {gates : PinGates} {roundId : String} {epoch : Int} {chains : List Int}

def RecordPinned (ts : Int → Nat → Int) (gates : PinGates) (roundId : String) (epoch : Int)
    (chains : List Int) (store : RoundStore) : Prop :=
  ∃ round, store.rounds.get? roundId = some round ∧ roundForkAnchorEpoch gates round = epoch ∧
    ∀ pins, truthyPins round.forkPins = some pins → IsRoundPins ts epoch chains pins

variable {store : RoundStore}

theorem RecordPinned.cache (record : RecordPinned ts gates roundId epoch chains store) {pins}
    (derived : IsRoundPins ts epoch chains pins) (stores : Bool) :
    RecordPinned ts gates roundId epoch chains (cacheForkPins store roundId pins stores) := by
  obtain ⟨round, found, anchored, cached⟩ := record
  have written : ∀ given : Option Pins,
      (∀ held, truthyPins given = some held → IsRoundPins ts epoch chains held) →
      RecordPinned ts gates roundId epoch chains
        { store with rounds := store.rounds.set roundId { round with forkPins := given } } :=
    fun given holds => ⟨_, Dict.get?_set_self _ _ _, anchored, holds⟩
  have truth : ∀ held, truthyPins (some pins) = some held → IsRoundPins ts epoch chains held := by
    intro held truthy
    obtain rfl := Option.some.inj (truthyPins_eq_some truthy).1
    exact derived
  unfold cacheForkPins
  cases stores with
  | false => exact ⟨round, found, anchored, cached⟩
  | true =>
    rw [if_pos rfl]
    simp only [RoundStore.setRoundForkPins, found]
    cases existing : truthyPins round.forkPins with
    | none =>
      apply written
      exact fun held truthy => truth held (truthyPins_eq_some truthy).1
    | some old =>
      cases new : truthyPins (some pins) with
      | none =>
        apply written
        intro held truthy
        simp [truthyPins] at truthy
      | some given =>
        dsimp only
        by_cases same : sameItems given old
        · rw [if_pos same]
          apply written
          intro held truthy
          obtain rfl := Option.some.inj (truthyPins_eq_some truthy).1
          exact truth _ new
        · rw [if_neg same]
          exact ⟨round, found, anchored, cached⟩

theorem RecordPinned.resolve (record : RecordPinned ts gates roundId epoch chains store)
    {attempt : PinAttempt ts}
    (sees : attempt.Sees gates chains) (persist : Bool) :
    RecordPinned ts gates roundId epoch chains
        (resolveRoundForkPins gates persist store roundId attempt).1 ∧
      ∀ pins, (resolveRoundForkPins gates persist store roundId attempt).2 = some pins →
        gates.pinEnabled = true ∧ pins.entries ≠ [] ∧ IsRoundPins ts epoch chains pins := by
  have kept := record
  obtain ⟨round, found, anchored, cached⟩ := record
  unfold resolveRoundForkPins
  cases enabled : gates.pinEnabled with
  | false => exact ⟨kept, by simp⟩
  | true =>
    cases attempt.lookup with
    | false => exact ⟨kept, by simp⟩
    | true =>
      simp only [Bool.and_self, if_true, RoundStore.getRound, found, anchored]
      cases existing : truthyPins round.forkPins with
      | some old =>
        refine ⟨kept, fun pins same => ?_⟩
        cases same
        exact ⟨trivial, (truthyPins_eq_some existing).2, cached old existing⟩
      | none =>
        cases derived : truthyPins (deriveRoundForkPins gates epoch attempt) with
        | none => exact ⟨kept, by simp⟩
        | some pins =>
          have right : IsRoundPins ts epoch chains pins :=
            sees ▸ deriveRoundForkPins_isRoundPins derived
          refine ⟨?_, fun pins' same => ?_⟩
          · cases persist with
            | false => exact kept
            | true => exact kept.cache right attempt.stores
          · cases same
            exact ⟨trivial, (truthyPins_eq_some derived).2, right⟩

theorem RecordPinned.populate (record : RecordPinned ts gates roundId epoch chains store)
    {attempt : PinAttempt ts}
    (sees : attempt.Sees gates chains) :
    RecordPinned ts gates roundId epoch chains
      (maybePopulateRoundForkPins gates store roundId attempt) := by
  have kept := record
  obtain ⟨round, found, anchored, -⟩ := record
  unfold maybePopulateRoundForkPins
  cases gates.pinEnabled with
  | false => exact kept
  | true =>
    simp only [RoundStore.getRound, found, anchored]
    cases derived : truthyPins (deriveRoundForkPins gates epoch attempt) with
    | none => exact kept
    | some pins => exact kept.cache (sees ▸ deriveRoundForkPins_isRoundPins derived) attempt.stores

/-- Somebody has pins by the time the hash is built: they are cached already, the close
    derives and caches them, or the hash derives its own. -/
def Resolvable (gates : PinGates) (roundId : String) (store : RoundStore)
    (populate hash : PinAttempt ts) : Prop :=
  hash.lookup = true ∧ ∃ round, store.getRound roundId = some round ∧
    let derives := fun attempt : PinAttempt ts =>
      (truthyPins (deriveRoundForkPins gates (roundForkAnchorEpoch gates round) attempt)).isSome = true
    ((truthyPins round.forkPins).isSome = true ∨ (derives populate ∧ populate.stores = true) ∨
      derives hash)

theorem cacheForkPins_isSome {round pins stores} (found : store.getRound roundId = some round)
    (truthy : truthyPins (some pins) = some pins)
    (either : (truthyPins round.forkPins).isSome = true ∨ stores = true) :
    ∃ round', (cacheForkPins store roundId pins stores).getRound roundId = some round' ∧
      (truthyPins round'.forkPins).isSome = true := by
  unfold RoundStore.getRound at found ⊢
  have writes : (truthyPins (some pins)).isSome = true := by simp [truthy]
  cases stores with
  | false => exact ⟨round, found, either.resolve_right (by simp)⟩
  | true =>
    simp only [cacheForkPins, RoundStore.setRoundForkPins, found, truthy, if_true]
    cases cached : truthyPins round.forkPins with
    | none => exact ⟨_, Dict.get?_set_self _ _ _, writes⟩
    | some old =>
      dsimp only
      by_cases same : sameItems pins old
      · rw [if_pos same]
        exact ⟨_, Dict.get?_set_self _ _ _, writes⟩
      · rw [if_neg same]
        exact ⟨round, found, by simp [cached]⟩

theorem resolveRoundForkPins_isSome {round : RoundState} (persist : Bool)
    (enabled : gates.pinEnabled = true) (found : store.getRound roundId = some round)
    {attempt : PinAttempt ts} (lookup : attempt.lookup = true)
    (some_pins : (truthyPins round.forkPins).isSome = true ∨ (truthyPins (deriveRoundForkPins gates
      (roundForkAnchorEpoch gates round) attempt)).isSome = true) :
    (resolveRoundForkPins gates persist store roundId attempt).2.isSome = true := by
  simp [resolveRoundForkPins, enabled, lookup, found]
  cases cached : truthyPins round.forkPins with
  | some pins => rfl
  | none =>
    obtain ⟨pins, derived⟩ := Option.isSome_iff_exists.mp (some_pins.resolve_left (by simp [cached]))
    rw [derived]
    rfl

theorem Resolvable.seals {populate hash : PinAttempt ts}
    (resolvable : Resolvable gates roundId store populate hash) (enabled : gates.pinEnabled = true) :
    (resolveRoundForkPins gates true (maybePopulateRoundForkPins gates store roundId populate) roundId
      hash).2.isSome = true := by
  obtain ⟨lookup, round, found, ways⟩ := resolvable
  have unchanged : maybePopulateRoundForkPins gates store roundId populate = store →
      ((truthyPins round.forkPins).isSome = true ∨ (truthyPins (deriveRoundForkPins gates
        (roundForkAnchorEpoch gates round) hash)).isSome = true) →
      (resolveRoundForkPins gates true (maybePopulateRoundForkPins gates store roundId populate)
        roundId hash).2.isSome = true := by
    intro same way
    rw [same]
    exact resolveRoundForkPins_isSome true enabled found lookup way
  unfold maybePopulateRoundForkPins at unchanged ⊢
  rw [enabled, found] at unchanged ⊢
  dsimp only at unchanged ways ⊢
  cases derived : truthyPins (deriveRoundForkPins gates (roundForkAnchorEpoch gates round) populate) with
  | none =>
    rw [derived] at unchanged ways
    exact unchanged rfl (ways.imp_right fun way => way.resolve_left (by simp))
  | some pins =>
    rw [derived] at unchanged ways
    dsimp only at unchanged ⊢
    have truthy : truthyPins (some pins) = some pins := by
      simpa [truthyPins] using (truthyPins_eq_some derived).2
    by_cases either : (truthyPins round.forkPins).isSome = true ∨ populate.stores = true
    · obtain ⟨round', found', cached⟩ := cacheForkPins_isSome found truthy either
      exact resolveRoundForkPins_isSome true enabled found' lookup (.inl cached)
    · obtain ⟨uncached, lost⟩ := not_or.mp either
      apply unchanged (by simp [cacheForkPins, lost])
      exact ways.imp_right fun way => way.resolve_left fun stored => lost stored.2

end

section

variable {gates : PinGates} {roundId : String} {epoch : Int} {chains : List Int}

structure PinRun.Pinned (ts : Int → Nat → Int) (gates : PinGates) (roundId : String) (epoch : Int)
    (chains : List Int) (s : PinRun) : Prop where
  record : RecordPinned ts gates roundId epoch chains s.store
  idle : gates.pinEnabled = false → s.worker = {}
  benches : ∀ bench ∈ s.benches, RoundPinned ts gates epoch chains bench
  sealedAs : ∀ pins, s.sealedPins = some pins → RoundPinned ts gates epoch chains pins

def PinEvent.Sound (gates : PinGates) (roundId : String) (chains : List Int) (s : PinRun) :
    PinEvent ts → Prop
  | .resolve attempt | .bench attempt => attempt.Sees gates chains
  | .close populate hash lands => populate.Sees gates chains ∧ hash.Sees gates chains ∧
      (gates.pinEnabled = true → lands = true → Resolvable gates roundId s.store populate hash)

theorem RoundPinned.unique (ordered : ∀ chainId, Monotone (ts chainId)) {pins pins'}
    (first : RoundPinned ts gates epoch chains pins)
    (second : RoundPinned ts gates epoch chains pins') : pins = pins' := by
  unfold RoundPinned at first second
  cases enabled : gates.pinEnabled with
  | false =>
    rw [enabled] at first second
    exact first.trans second.symm
  | true =>
    rw [enabled] at first second
    obtain ⟨found, rfl, -, derived⟩ := first
    obtain ⟨found', rfl, -, derived'⟩ := second
    rw [derived.unique ordered derived']

theorem RecordPinned.roundPinned {store : RoundStore}
    (record : RecordPinned ts gates roundId epoch chains store) {attempt : PinAttempt ts}
    (sees : attempt.Sees gates chains) (persist : Bool)
    (finds : gates.pinEnabled = true →
      (resolveRoundForkPins gates persist store roundId attempt).2.isSome = true) :
    RoundPinned ts gates epoch chains
      (resolveRoundForkPins gates persist store roundId attempt).2 := by
  unfold RoundPinned
  cases enabled : gates.pinEnabled with
  | false => simp [resolveRoundForkPins, enabled]
  | true =>
    obtain ⟨pins, same⟩ := Option.isSome_iff_exists.mp (finds enabled)
    obtain ⟨-, nonempty, derived⟩ := (record.resolve sees persist).2 pins same
    exact ⟨pins, same, nonempty, derived⟩

theorem applyRoundAnchoredPin_roundPinned {store : RoundStore}
    (record : RecordPinned ts gates roundId epoch chains store) {attempt : PinAttempt ts}
    (sees : attempt.Sees gates chains) {worker applied : WorkerPins}
    (idle : gates.pinEnabled = false → worker = {})
    (goes : applyRoundAnchoredPin gates worker
      (leaderForkPinResolver gates store roundId attempt).2 = some applied) :
    RoundPinned ts gates epoch chains applied.pinMap ∧ (gates.pinEnabled = false → applied = {}) := by
  unfold leaderForkPinResolver at goes
  unfold RoundPinned
  have right := (record.resolve sees (!gates.splitWorker)).2
  cases resolved : (resolveRoundForkPins gates (!gates.splitWorker) store roundId attempt).2 with
  | none =>
    simp only [resolved, Option.bind_none, applyRoundAnchoredPin] at goes
    cases enabled : gates.pinEnabled with
    | true => simp [enabled] at goes
    | false =>
      rw [enabled] at goes
      cases goes
      rw [idle enabled]
      exact ⟨rfl, fun _ => rfl⟩
  | some pins =>
    obtain ⟨enabled, nonempty, derived⟩ := right pins resolved
    simp only [resolved, Option.bind_some] at goes
    rw [enabled]
    refine ⟨?_, by simp⟩
    cases all : gates.allChains with
    | true =>
      rw [all] at goes
      cases goes
      refine ⟨pins, ?_, nonempty, derived⟩
      simp [WorkerPins.pinMap, WorkerPins.setForkPins, nonempty]
    | false =>
      -- without the other chains the pins of the round are one block on Base
      have alone : chains = roundAnchorChains := by
        rw [← sees, benchmarkPinChains, all]
        rfl
      obtain ⟨block, same⟩ := IsRoundPins.primary (alone ▸ derived)
      rw [all, same, Dict.get?_set_self] at goes
      cases goes
      exact ⟨pins, by simp [WorkerPins.pinMap, same], nonempty, derived⟩

theorem PinRun.Pinned.step {s : PinRun} (pinned : s.Pinned ts gates roundId epoch chains)
    (e : PinEvent ts) (sound : e.Sound gates roundId chains s) :
    (pinStep gates roundId s e).1.Pinned ts gates roundId epoch chains := by
  cases e with
  | resolve attempt =>
    exact { pinned with record := (pinned.record.resolve sound true).1 }
  | bench attempt =>
    have record := (pinned.record.resolve sound (!gates.splitWorker)).1
    simp only [pinStep, benchStep]
    cases goes : applyRoundAnchoredPin gates s.worker
        (leaderForkPinResolver gates s.store roundId attempt).2 with
    | none => exact { pinned with record := record }
    | some worker =>
      obtain ⟨ran, idle⟩ :=
        applyRoundAnchoredPin_roundPinned pinned.record sound pinned.idle goes
      refine ⟨record, idle, ?_, pinned.sealedAs⟩
      intro bench member
      rcases List.mem_append.mp member with earlier | now
      · exact pinned.benches bench earlier
      · rw [List.mem_singleton.mp now]
        exact ran
  | close populate hash lands =>
    obtain ⟨populates, hashes, resolvable⟩ := sound
    simp only [pinStep]
    split
    · exact pinned
    · have populated := pinned.record.populate populates
      have record := (populated.resolve hashes true).1
      unfold closeStep
      dsimp only
      cases landed : lands with
      | false => exact { pinned with record := record }
      | true =>
        refine ⟨record, pinned.idle, pinned.benches, ?_⟩
        intro pins same
        cases same
        exact populated.roundPinned hashes true fun enabled =>
          (resolvable enabled landed).seals enabled

theorem pinStart_pinned (openedEpoch : Int) (anchorEpoch : Option Int) (earlier : WorkerPins)
    (chains : List Int) :
    (pinStart gates roundId openedEpoch anchorEpoch earlier).Pinned ts gates roundId
      (roundForkAnchorEpoch gates { roundId, openedEpoch, benchmarkAnchorEpoch := anchorEpoch })
      chains where
  record := ⟨_, Dict.get?_set_self _ _ _, rfl, by simp [truthyPins]⟩
  idle off := by simp [pinStart, off]
  benches := by simp [pinStart]
  sealedAs := by simp [pinStart]

/-- If every close finds pins and every derivation sees the same chains, then every pass of
    the round, before or after the close, ran at the pins the round is sealed with. -/
theorem scored_pins_are_sealed_pins (ordered : ∀ chainId, Monotone (ts chainId))
    {openedEpoch : Int} {anchorEpoch : Option Int} {earlier : WorkerPins} {s : PinRun}
    (run : Reaches (@pinStep ts gates roundId) (fun s e => e.Sound gates roundId chains s)
      (pinStart gates roundId openedEpoch anchorEpoch earlier) s) : s.ScoredAsSealed := by
  have pinned := run.invariant
    (fun s => s.Pinned ts gates roundId
      (roundForkAnchorEpoch gates { roundId, openedEpoch, benchmarkAnchorEpoch := anchorEpoch }) chains)
    (pinStart_pinned openedEpoch anchorEpoch earlier chains) fun _ e kept sound => kept.step e sound
  intro pins closed bench member
  have same := (pinned.benches bench member).unique ordered (pinned.sealedAs pins closed)
  refine ⟨same, fun blank => ?_⟩
  rw [same]
  cases found : pins with
  | none => rfl
  | some held =>
    have sealedAs := pinned.sealedAs pins closed
    rw [found] at blank sealedAs
    unfold RoundPinned at sealedAs
    split at sealedAs
    · obtain ⟨held', given, nonempty, -⟩ := sealedAs
      cases given
      exact (serializeForkPins_ne_empty nonempty blank).elim
    · cases sealedAs

end

def evenTs (_ : Int) (n : Nat) : Int := 2 * n

theorem evenTs_monotone (chainId : Int) : Monotone (evenTs chainId) := by
  intro m n le
  simp only [evenTs]
  omega

/-- What a process gets from its RPC when the head is `head`. -/
def attemptAt (head : Int) : PinAttempt evenTs where
  node := {
    headOf := fun _ => .ok head
    blockTimestampOf := fun chainId => (ChainView.upTo (evenTs chainId) head 0 0).blockTimestamp }
  reads chainId read same := by
    cases same
    exact ⟨ChainView.upTo (evenTs chainId) head 0 0, rfl, rfl⟩

def pinRun (events : List (PinEvent evenTs)) : PinRun :=
  runEvents (pinStep {} "round-1") (pinStart {} "round-1" 1 (some 2) {}) events

/-- The RPC of the leader lags at the close; the worker derives the pins a moment later. -/
theorem unsealed_pins_scored :
    ¬ ∀ (ts : Int → Nat → Int) (gates : PinGates) (roundId : String) (openedEpoch : Int)
        (anchorEpoch : Option Int) (earlier : WorkerPins) (s : PinRun),
      (∀ chainId, Monotone (ts chainId)) →
      Reaches (@pinStep ts gates roundId) (fun _ _ => True)
        (pinStart gates roundId openedEpoch anchorEpoch earlier) s → s.ScoredAsSealed := by
  intro claimed
  have scored := claimed evenTs {} "round-1" 1 (some 2) {}
    (pinRun [.close (attemptAt 20) (attemptAt 20) true, .bench (attemptAt 100)])
    evenTs_monotone (reaches_runEvents _ _ _)
  have sealedWithout : (pinRun [.close (attemptAt 20) (attemptAt 20) true,
      .bench (attemptAt 100)]).sealedPins = some none := by decide +kernel
  have ran : some (Dict.empty.set primaryChain 30) ∈ (pinRun [.close (attemptAt 20) (attemptAt 20) true,
      .bench (attemptAt 100)]).benches := by decide +kernel
  cases (scored none sealedWithout _ ran).1

/-- A pass before the close, one after it, and the same block in the hash. -/
theorem scored_pins_are_sealed_pins_bracketed :
    (pinRun [.bench (attemptAt 100), .close (attemptAt 20) (attemptAt 110) true,
      .bench (attemptAt 120)]).ScoredAsSealed := by
  apply scored_pins_are_sealed_pins evenTs_monotone
  apply AllowedAlong.reaches
  refine ⟨rfl, ⟨rfl, rfl, fun _ _ => ?_⟩, rfl, trivial⟩
  exact ⟨rfl, _, rfl, by decide +kernel⟩

end MinotaurSubnet.Harness
