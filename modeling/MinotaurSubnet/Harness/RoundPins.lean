import MinotaurSubnet.Consensus.RoundAnchor
import MinotaurSubnet.Harness.RoundLifecycle
import MinotaurSubnet.Library.Machine

/-! # Deriving, caching and applying the fork pins of a round

The pins are derived on demand: by the coordinator when it closes the round or builds a
pack hash, and by the benchmark worker when it starts a pass. Whoever may write the round
store caches what it derived. A worker process of its own only reads the store.
-/

namespace MinotaurSubnet.Harness

open Library Python Consensus

abbrev Pins := Dict Int Int

structure PinGates where
  /-- `ROUND_ANCHORED_PIN`. -/
  pinEnabled : Bool := true
  /-- `BENCHMARK_ALL_DEPLOYMENT_CHAINS`. -/
  allChains : Bool := true
  /-- `BENCHMARK_ANCHOR_REAL_EPOCH`. -/
  anchorRealEpoch : Bool := true
  /-- The benchmark worker is a process of its own. -/
  splitWorker : Bool := false

def primaryChain : Int := 8453

def roundAnchorChains : List Int := [primaryChain]

def roundAnchorConfirmations : Int := 12

def epochSeconds : Int := 60

def roundAnchorLookbackEpochs (chainId : Int) : Int := if chainId = 1 then 3 else 1

def epochAnchorTs (epoch : Int) : Int := epoch * epochSeconds

def roundAnchorTs (epoch : Int) : Int := epochAnchorTs (epoch - 1)

def roundAnchorTsForChain (epoch chainId : Int) : Int :=
  epochAnchorTs (epoch - roundAnchorLookbackEpochs chainId)

/-- One call that may derive pins: what the process sees of its stores and of the chains,
    whose histories are `ts`. -/
structure PinAttempt (ts : Int → Nat → Int) where
  lookup : Bool := true
  /-- The operational deployment chains of the app store; none if it cannot be read. -/
  deployments : List Int := []
  node : PinAccessors
  reads : node.Reads ts
  stores : Bool := true

section

variable {ts : Int → Nat → Int} (gates : PinGates)

def benchmarkPinChains (deployments : List Int) : List Int :=
  if gates.allChains then (roundAnchorChains ++ deployments).dedup.insertionSort (· ≤ ·)
  else roundAnchorChains

/-- `_derive_round_fork_pins`: a derivation that defers or fails gives no pins. -/
def deriveRoundForkPins (anchorEpoch : Int) (attempt : PinAttempt ts) : Option Pins :=
  (deriveForkPins (roundAnchorTs anchorEpoch) (some (roundAnchorTsForChain anchorEpoch))
    (benchmarkPinChains gates attempt.deployments) attempt.node roundAnchorConfirmations).toOption

def roundForkAnchorEpoch (round : RoundState) : Int :=
  match gates.anchorRealEpoch, round.benchmarkAnchorEpoch with
  | true, some epoch => epoch
  | _, _ => round.openedEpoch

/-- `set_round_fork_pins`, where an exception is logged. -/
def cacheForkPins (store : RoundStore) (roundId : String) (pins : Pins) (stores : Bool) :
    RoundStore :=
  if stores then
    match store.setRoundForkPins roundId (some pins) with
    | .ok (some written) => written
    | _ => store
  else store

/-- `_resolve_round_fork_pins`; an empty map is as good as none to every caller. -/
def resolveRoundForkPins (persist : Bool) (store : RoundStore) (roundId : String)
    (attempt : PinAttempt ts) : RoundStore × Option Pins :=
  if gates.pinEnabled && attempt.lookup then
    match store.getRound roundId with
    | none => (store, none)
    | some round =>
      match truthyPins round.forkPins with
      | some cached => (store, some cached)
      | none =>
        match truthyPins (deriveRoundForkPins gates (roundForkAnchorEpoch gates round) attempt) with
        | none => (store, none)
        | some pins =>
          (if persist then cacheForkPins store roundId pins attempt.stores else store, some pins)
  else (store, none)

/-- `_maybe_populate_round_fork_pins`, which derives whether or not pins are cached. -/
def maybePopulateRoundForkPins (store : RoundStore) (roundId : String) (attempt : PinAttempt ts) :
    RoundStore :=
  match gates.pinEnabled, store.getRound roundId with
  | true, some round =>
    match truthyPins (deriveRoundForkPins gates (roundForkAnchorEpoch gates round) attempt) with
    | none => store
    | some pins => cacheForkPins store roundId pins attempt.stores
  | _, _ => store

def serializeForkPins (pins : Pins) : String :=
  String.intercalate "|" ((pins.entries.insertionSort fun a b => a.1 ≤ b.1).map fun entry =>
    s!"{entry.1}:{entry.2}")

/-- `_round_anchored_pin_segment` of the pins the hash is built with. -/
def pinSegment : Option Pins → String
  | none => ""
  | some pins => serializeForkPins pins

/-- What a resolver returns: the block of each chain, or that of the primary chain. -/
inductive ForkPin where
  | map (pins : Pins)
  | block (block : Int)

/-- `_fork_pins` and `_epoch_block_number` of a `BenchmarkWorker`. -/
structure WorkerPins where
  forkPins : Option Pins := none
  epochBlock : Option Int := none

def WorkerPins.setForkPins (worker : WorkerPins) (pins : Pins) : WorkerPins :=
  if pins.entries.isEmpty then { worker with forkPins := none }
  else {
    forkPins := some pins
    epochBlock := pins.get? primaryChain <|> worker.epochBlock }

def WorkerPins.pinMap (worker : WorkerPins) : Option Pins :=
  worker.forkPins <|> worker.epochBlock.map (Dict.empty.set primaryChain)

/-- `_leader_fork_pin_resolver`, or its read-only variant in a split worker. -/
def leaderForkPinResolver (store : RoundStore) (roundId : String) (attempt : PinAttempt ts) :
    RoundStore × Option ForkPin :=
  let (store, pins) := resolveRoundForkPins gates (!gates.splitWorker) store roundId attempt
  (store, pins.bind fun pins =>
    if gates.allChains then some (.map pins) else (pins.get? primaryChain).map .block)

/-- `_apply_round_anchored_pin`; `none` is `ForkPinUnavailable`, which defers the pass. -/
def applyRoundAnchoredPin (worker : WorkerPins) : Option ForkPin → Option WorkerPins
  | some (.map pins) => some (worker.setForkPins pins)
  | some (.block block) => some { forkPins := none, epochBlock := some block }
  | none => if gates.pinEnabled then none else some worker

end

structure PinRun where
  store : RoundStore
  worker : WorkerPins
  /-- The map each benchmark pass of the round ran at. -/
  benches : List (Option Pins) := []
  /-- The pins in the pack hash the round was closed with. -/
  sealedPins : Option (Option Pins) := none

inductive PinEvent (ts : Int → Nat → Int) where
  /-- The coordinator resolves the pins, for a hash it only logs or probes. -/
  | resolve (attempt : PinAttempt ts)
  | bench (attempt : PinAttempt ts)
  /-- The leader closes the round: it populates the pins, builds the hash and closes, if
      the closing call goes through. -/
  | close (populate hash : PinAttempt ts) (lands : Bool)

section

variable {ts : Int → Nat → Int} (gates : PinGates) (roundId : String)

def resolveStep (s : PinRun) (attempt : PinAttempt ts) : PinRun :=
  { s with store := (resolveRoundForkPins gates true s.store roundId attempt).1 }

def benchStep (s : PinRun) (attempt : PinAttempt ts) : PinRun :=
  let (store, pin) := leaderForkPinResolver gates s.store roundId attempt
  match applyRoundAnchoredPin gates s.worker pin with
  | none => { s with store }
  | some worker => { s with store, worker, benches := s.benches ++ [worker.pinMap] }

def closeStep (s : PinRun) (populate hash : PinAttempt ts) (lands : Bool) : PinRun :=
  let store := maybePopulateRoundForkPins gates s.store roundId populate
  let (store, pins) := resolveRoundForkPins gates true store roundId hash
  if lands then { s with store, sealedPins := some pins } else { s with store }

def pinStep (s : PinRun) : PinEvent ts → PinRun × Unit
  | .resolve attempt => (resolveStep gates roundId s attempt, ())
  | .bench attempt => (benchStep gates roundId s attempt, ())
  | .close populate hash lands =>
    if s.sealedPins.isSome then (s, ()) else (closeStep gates roundId s populate hash lands, ())

/-- The round as it is opened. The worker may still hold the pins of earlier rounds, which
    it has none of if pinning is off. -/
def pinStart (openedEpoch : Int) (anchorEpoch : Option Int) (earlier : WorkerPins) : PinRun where
  store := { rounds := Dict.empty.set roundId {
    roundId, openedEpoch, benchmarkAnchorEpoch := anchorEpoch } }
  worker := if gates.pinEnabled then earlier else {}

end

end MinotaurSubnet.Harness
