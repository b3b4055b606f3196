import MinotaurSubnet.Harness.Rotation
import MinotaurSubnet.Harness.SubmissionMutators
import MinotaurSubnet.Library.Machine

/-! # The build budget gate

One round of `BuildBudgetGate`. `acquire` may wait, and everything between two waits is one step:
a call of `acquire`, the poll of a waiting call, `release`, `flush_round`, and the restart that
rebuilds the gate from the store. Floats of the clock and the window are rationals; the rounding
of the proven share is an argument.
-/

namespace MinotaurSubnet.Harness

open Library Python

def dispatchConcurrency (env : Option String) : Int :=
  let raw := stripText (env.getD "1")
  max 1 ((intOfStr (if raw = "" then "1" else raw)).getD 1)

structure BuildGrant where
  granted : Bool
  charged : Bool := false
  parked : Bool := false
  reason : String := ""
  deriving DecidableEq

inductive BuildPool where
  | proven
  | newcomer
  deriving DecidableEq

def BuildPool.text : BuildPool → String
  | .proven => "proven"
  | .newcomer => "newcomer"

/-- `_Waiter`; `call` stands for its event, which no other waiter shares. -/
structure BuildWaiter (τ : Type) where
  call : Nat
  submissionId : String
  hotkey : String
  key : τ ×ₗ String ×ₗ String
  proven : Bool
  actor : String

/-- `==` of two waiters as far as it tells them apart. -/
def BuildWaiter.same {τ : Type} (w v : BuildWaiter τ) : Bool :=
  v.call == w.call && v.submissionId == w.submissionId

structure GateConfig (τ : Type) where
  /-- `round(budget * share)`. -/
  roundedShare : Int
  openedAt : ℚ
  openSeconds : ℚ
  spillAfterFraction : ℚ
  ledger : Dict String τ
  actorOf : Option (String → String)

/-- `_RoundGateState`. -/
structure RoundGate (τ : Type) where
  roundId : String
  budget : Int
  provenUnits : Int
  newcomerUnits : Int
  openedAt : ℚ
  openSeconds : ℚ
  spillAfterFraction : ℚ
  ledger : Dict String τ
  actorOf : Option (String → String)
  actorLast : Dict String τ
  chargedActors : Finset String := ∅
  chargedIds : Finset String := ∅
  provenCharged : Int := 0
  newcomerCharged : Int := 0
  inFlight : Finset String := ∅
  waiters : List (BuildWaiter τ) := []
  flushed : Bool := false
  outcomes : List (Nat × BuildGrant) := []
  nextCall : Nat := 0
  -- No step reads the rest: the units charged in this process life, the builds ever granted, the
  -- granted builds of this life that have not ended, and what was in flight after each dispatch.
  charges : List String := []
  granted : List String := []
  building : List String := []
  paced : List (Nat × Int) := []

/-- The arguments of `acquire`, and what it reads: the round's status, the clock and the pacing
    width. -/
structure AcquireCall where
  submissionId : String
  hotkey : String
  priorAttempt : Bool := false
  roundIsOpen : Bool := true
  concurrency : Option String := none
  now : ℚ := 0

namespace RoundGate

variable {τ : Type} [LinearOrder τ] [Zero τ] (sha256Hex : String → String)

def totalCharged (g : RoundGate τ) : Int := g.provenCharged + g.newcomerCharged

def actor (g : RoundGate τ) (hotkey : String) : String := actorKey g.actorOf hotkey

def isProven (g : RoundGate τ) (hotkey : String) : Bool :=
  0 < (g.actorLast.get? (g.actor hotkey)).getD 0

def spend (g : RoundGate τ) (submissionId actor : String) (pool : BuildPool) : RoundGate τ :=
  { g with
    chargedIds := insert submissionId g.chargedIds
    chargedActors := insert actor g.chargedActors
    provenCharged := if pool = .proven then g.provenCharged + 1 else g.provenCharged
    newcomerCharged := if pool = .newcomer then g.newcomerCharged + 1 else g.newcomerCharged
    charges := g.charges ++ [submissionId] }

def chargeUnit (g : RoundGate τ) (submissionId hotkey : String) : RoundGate τ :=
  g.spend submissionId (g.actor hotkey) (if g.isProven hotkey then .proven else .newcomer)

def beginBuild (g : RoundGate τ) (submissionId : String) : RoundGate τ :=
  { g with
    inFlight := insert submissionId g.inFlight
    granted := g.granted ++ [submissionId]
    building := g.building ++ [submissionId] }

def answer (g : RoundGate τ) (call : Nat) (outcome : BuildGrant) : RoundGate τ :=
  { g with outcomes := g.outcomes ++ [(call, outcome)] }

def spillToProvenOpen (g : RoundGate τ) (now : ℚ) : Bool :=
  if g.spillAfterFraction ≤ 0 then true
  else if g.openSeconds ≤ 0 ∨ g.openedAt ≤ 0 then false
  else g.spillAfterFraction * g.openSeconds ≤ now - g.openedAt

def pool (g : RoundGate τ) (waiters : List (BuildWaiter τ)) : List (BuildWaiter τ) :=
  match g.actorOf with
  | none => sortedBy (·.key) waiters
  | some _ => sortedBy (fun w => toLex (decide (w.actor ∈ g.chargedActors), w.key)) waiters

def pickNext (g : RoundGate τ) (now : ℚ) : Option (BuildWaiter τ × BuildPool) :=
  let provenW := g.pool (g.waiters.filter (·.proven))
  let newcomerW := g.pool (g.waiters.filter (! ·.proven))
  let provenLeft := g.provenUnits - g.provenCharged
  let newcomerLeft := g.newcomerUnits - g.newcomerCharged
  let own : BuildPool → Option (BuildWaiter τ × BuildPool)
    | .proven => if 0 < provenLeft then provenW.head?.map (·, .proven) else none
    | .newcomer => if 0 < newcomerLeft then newcomerW.head?.map (·, .newcomer) else none
  -- the pool at or below its proportional pace comes first
  let order : List BuildPool :=
    if g.provenCharged * g.newcomerUnits ≤ g.newcomerCharged * g.provenUnits
    then [.proven, .newcomer] else [.newcomer, .proven]
  match order.findSome? own with
  | some picked => some picked
  | none =>
    match provenW, newcomerW with
    | w :: _, [] => if 0 < newcomerLeft then some (w, .newcomer) else none
    | [], w :: _ => if 0 < provenLeft ∧ g.spillToProvenOpen now then some (w, .proven) else none
    | _, _ => none

def grant (g : RoundGate τ) (concurrency : Int) (waiter : BuildWaiter τ) (pool : BuildPool) :
    RoundGate τ :=
  let taken := { g with waiters := g.waiters.eraseP waiter.same }
  let g := (taken.spend waiter.submissionId waiter.actor pool).beginBuild waiter.submissionId
  let text := pool.text
  let granted := g.answer waiter.call
    ⟨true, true, false, s!"unit {g.totalCharged}/{g.budget} ({text} pool)"⟩
  { granted with paced := g.paced ++ [(g.building.length, concurrency)] }

/-- The loop of `_dispatch`; every grant takes a waiter away, so it goes round at most once for
    each. -/
def dispatchLoop (concurrency : Int) (now : ℚ) : Nat → RoundGate τ → RoundGate τ
  | 0, g => g
  | rounds + 1, g =>
    if g.waiters ≠ [] ∧ (g.inFlight.card : Int) < concurrency ∧ g.totalCharged < g.budget then
      match g.pickNext now with
      | none => g
      | some (waiter, pool) => dispatchLoop concurrency now rounds (g.grant concurrency waiter pool)
    else g

def dispatch (g : RoundGate τ) (env : Option String) (now : ℚ) : RoundGate τ :=
  if g.flushed then g else dispatchLoop (dispatchConcurrency env) now g.waiters.length g

def waiterKey (g : RoundGate τ) (hotkey : String) : τ ×ₗ String ×ₗ String :=
  match g.actorOf with
  | none =>
    let key := ofLex (rotationSortKey sha256Hex hotkey g.roundId g.ledger)
    toLex (key.1, toLex (key.2, ""))
  | some resolve => actorRotationSortKey sha256Hex hotkey g.roundId g.actorLast resolve

/-- `acquire`, up to its wait. -/
def acquire (g : RoundGate τ) (a : AcquireCall) : RoundGate τ :=
  let call := g.nextCall
  let g := { g with nextCall := call + 1 }
  if g.budget ≤ 0 then g.answer call ⟨true, false, false, "budget unlimited"⟩
  else if a.priorAttempt ∨ a.submissionId ∈ g.chargedIds then
    let spent := if a.submissionId ∈ g.chargedIds then g else g.chargeUnit a.submissionId a.hotkey
    (spent.beginBuild a.submissionId).answer call
      ⟨true, false, false, "prior build attempt — unit already spent"⟩
  else if g.flushed ∨ ¬ a.roundIsOpen then
    if g.totalCharged < g.budget then
      ((g.chargeUnit a.submissionId a.hotkey).beginBuild a.submissionId).answer call
        ⟨true, true, false, "post-close grant (budget remained)"⟩
    else
      let roundId := g.roundId
      g.answer call ⟨false, false, false,
        s!"round {roundId} closed with its build budget ({g.budget}) fully spent"⟩
  else
    let waiter : BuildWaiter τ :=
      ⟨call, a.submissionId, a.hotkey, g.waiterKey sha256Hex a.hotkey, g.isProven a.hotkey,
        g.actor a.hotkey⟩
    { g with waiters := g.waiters ++ [waiter] }.dispatch a.concurrency a.now

def poll (g : RoundGate τ) (call : Nat) (roundIsOpen : Bool) : RoundGate τ :=
  match g.waiters.find? (·.call == call) with
  | none => g
  | some waiter =>
    if ¬ roundIsOpen ∧ ¬ g.flushed then
      let roundId := g.roundId
      { g with waiters := g.waiters.eraseP waiter.same }.answer call ⟨false, false, false,
        s!"round {roundId} closed before a build unit freed (no flush observed)"⟩
    else g

def release (g : RoundGate τ) (submissionId : String) (env : Option String) (now : ℚ) :
    RoundGate τ :=
  { g with
    inFlight := g.inFlight.erase submissionId
    building := g.building.erase submissionId }.dispatch env now

/-- `flush_round`: the gate and the parked ids; `lands` tells which stores of `park` succeed. -/
def flushRound (g : RoundGate τ) (lands : Nat → Bool) : RoundGate τ × List String :=
  let ordered := sortedBy (fun w => toLex (!w.proven, w.key)) g.waiters
  let roundId := g.roundId
  let reason := s!"build budget for {roundId} exhausted ({g.totalCharged}/{g.budget} builds dispatched "
    ++ "by seniority) — waitlisted, seniority retained"
  ({ g with
    flushed := true
    waiters := []
    outcomes := g.outcomes ++ ordered.map fun w => (w.call, ⟨false, false, lands w.call, reason⟩) },
    ordered.map (·.submissionId))

def bootstrap (roundId : String) (budget : Int) (cfg : GateConfig τ) : RoundGate τ where
  roundId
  budget
  provenUnits := if 0 < budget then min budget (max 0 cfg.roundedShare) else 0
  newcomerUnits := max 0 (budget - if 0 < budget then min budget (max 0 cfg.roundedShare) else 0)
  openedAt := cfg.openedAt
  openSeconds := cfg.openSeconds
  spillAfterFraction := cfg.spillAfterFraction
  ledger := cfg.ledger
  actorOf := cfg.actorOf
  actorLast := match cfg.actorOf with
    | none => cfg.ledger
    | some resolve => actorLastSelected cfg.ledger resolve

/-- The loop of `ensure_round` over the prior attempts. -/
def rebuild (g : RoundGate τ) (priorAttempts : List (String × String)) : RoundGate τ :=
  priorAttempts.foldl
    (fun g attempt => if attempt.1 ∈ g.chargedIds then g else g.chargeUnit attempt.1 attempt.2) g

/-- `ensure_round` of a process that has no state of the round; what was granted stays granted. -/
def ensureRound (g : RoundGate τ) (cfg : GateConfig τ) (priorAttempts : List (String × String)) :
    RoundGate τ :=
  { bootstrap g.roundId g.budget cfg with nextCall := g.nextCall, granted := g.granted }.rebuild
    priorAttempts

end RoundGate

inductive GateEvent (τ : Type) where
  | acquire (call : AcquireCall)
  | poll (call : Nat) (roundIsOpen : Bool)
  | release (submissionId : String) (concurrency : Option String) (now : ℚ)
  | flushRound (lands : Nat → Bool)
  | restart (cfg : GateConfig τ) (priorAttempts : List (String × String))

def RoundGate.step {τ : Type} [LinearOrder τ] [Zero τ] (sha256Hex : String → String)
    (g : RoundGate τ) : GateEvent τ → RoundGate τ × List String
  | .acquire call => (g.acquire sha256Hex call, [])
  | .poll call roundIsOpen => (g.poll call roundIsOpen, [])
  | .release submissionId concurrency now => (g.release submissionId concurrency now, [])
  | .flushRound lands => g.flushRound lands
  | .restart cfg priorAttempts => (g.ensureRound cfg priorAttempts, [])

end MinotaurSubnet.Harness
