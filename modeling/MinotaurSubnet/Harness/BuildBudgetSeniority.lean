import MinotaurSubnet.Harness.GateRounds

/-! # Seniority and the reserve of the build budget

An open round watched through its `acquire` and `release` calls: every grant of the dispatcher is
noted with the gate that it was decided in. A grant goes to the first waiter of its pool, and a
unit changes pools only when its own constituency has no waiter.
-/

namespace MinotaurSubnet.Harness

open Library

structure Decision (τ : Type) where
  before : RoundGate τ
  waiter : BuildWaiter τ
  pool : BuildPool

inductive OpenEvent where
  | acquire (call : AcquireCall)
  | release (submissionId : String) (concurrency : Option String) (now : ℚ)
  | poll (call : Nat) (now : ℚ)

def OpenEvent.now : OpenEvent → ℚ
  | .acquire call => call.now
  | .release _ _ now => now
  | .poll _ now => now

def OpenEvent.gateEvent {τ : Type} : OpenEvent → GateEvent τ
  | .acquire call => .acquire { call with roundIsOpen := true }
  | .release submissionId concurrency now => .release submissionId concurrency now
  | .poll call _ => .poll call true

namespace RoundGate

variable {τ : Type} [LinearOrder τ] [Zero τ] (sha256Hex : String → String)

/-- The grants of `dispatchLoop`. -/
def decisionsLoop (concurrency : Int) (now : ℚ) : Nat → RoundGate τ → List (Decision τ)
  | 0, _ => []
  | rounds + 1, g =>
    if g.waiters ≠ [] ∧ (g.inFlight.card : Int) < concurrency ∧ g.totalCharged < g.budget then
      match g.pickNext now with
      | none => []
      | some (waiter, pool) =>
        ⟨g, waiter, pool⟩ :: decisionsLoop concurrency now rounds (g.grant concurrency waiter pool)
    else []

/-- The grants of `dispatch`. -/
def decisions (g : RoundGate τ) (env : Option String) (now : ℚ) : List (Decision τ) :=
  if g.flushed then [] else decisionsLoop (dispatchConcurrency env) now g.waiters.length g

/-- A call of `acquire` has put its waiter at the end. -/
def queued (g : RoundGate τ) (a : AcquireCall) : RoundGate τ :=
  let waiter : BuildWaiter τ :=
    ⟨g.nextCall, a.submissionId, a.hotkey, g.waiterKey sha256Hex a.hotkey, g.isProven a.hotkey,
      g.actor a.hotkey⟩
  { g with nextCall := g.nextCall + 1, waiters := g.waiters ++ [waiter] }

def ended (g : RoundGate τ) (submissionId : String) : RoundGate τ :=
  { g with
    inFlight := g.inFlight.erase submissionId
    building := g.building.erase submissionId }

/-- The gate that the dispatcher runs on, and the pacing width it reads, when it runs. -/
def dispatching (g : RoundGate τ) : OpenEvent → Option (RoundGate τ × Option String)
  | .acquire a =>
    if g.budget ≤ 0 ∨ a.priorAttempt ∨ a.submissionId ∈ g.chargedIds ∨ g.flushed then none
    else some (g.queued sha256Hex a, a.concurrency)
  | .release submissionId concurrency _ => some (g.ended submissionId, concurrency)
  | .poll _ _ => none

end RoundGate

/-- An open round with what its dispatcher has decided, and when it last ran. -/
structure WatchedGate (τ : Type) where
  gate : RoundGate τ
  log : List (Decision τ) := []
  dispatchedAt : ℚ := 0
  now : ℚ := 0

namespace WatchedGate

variable {τ : Type} [LinearOrder τ] [Zero τ] (sha256Hex : String → String)

def step (s : WatchedGate τ) (e : OpenEvent) : WatchedGate τ × Unit :=
  let gate := (s.gate.step sha256Hex e.gateEvent).1
  (match s.gate.dispatching sha256Hex e with
    | some (g, env) => ⟨gate, s.log ++ g.decisions env e.now, e.now, e.now⟩
    | none => ⟨gate, s.log, s.dispatchedAt, e.now⟩, ())

def opened (roundId : String) (touch : RoundTouch τ) : WatchedGate τ where
  gate := GateRounds.opened roundId touch

end WatchedGate

namespace RoundGate

variable {τ : Type}

section

variable [LinearOrder τ]

def unitsLeft (g : RoundGate τ) : BuildPool → Int
  | .proven => g.provenUnits - g.provenCharged
  | .newcomer => g.newcomerUnits - g.newcomerCharged

def ownPool (w : BuildWaiter τ) : BuildPool := if w.proven then .proven else .newcomer

structure Picked (g : RoundGate τ) (now : ℚ) (w : BuildWaiter τ) (pool : BuildPool) : Prop where
  first : (g.pool (g.waiters.filter fun v => v.proven == w.proven)).head? = some w
  unit : 0 < g.unitsLeft pool
  alone : pool ≠ ownPool w → ∀ v ∈ g.waiters, v.proven = w.proven
  spilled : w.proven = false → pool = .proven → g.spillToProvenOpen now = true

variable {g : RoundGate τ} {w : BuildWaiter τ}

theorem pool_nil {waiters} (empty : g.pool waiters = []) :
    waiters = [] := by
  cases waiters with
  | nil => rfl
  | cons w rest =>
    have inside : w ∈ g.pool (w :: rest) := mem_pool.mpr List.mem_cons_self
    rw [empty] at inside
    cases inside

theorem head_proven {p : BuildWaiter τ → Bool}
    (first : (g.pool (g.waiters.filter p)).head? = some w) : p w = true :=
  (List.mem_filter.mp (mem_pool.mp (List.mem_of_mem_head? first))).2

variable {pool : BuildPool}

theorem picked_proven {now} (first : (g.pool (g.waiters.filter (·.proven))).head? = some w)
    (unit : 0 < g.unitsLeft pool)
    (alone : pool = .newcomer → g.pool (g.waiters.filter (!·.proven)) = []) :
    g.Picked now w pool where
  first := by
    have proven : w.proven = true := head_proven first
    simpa [proven] using first
  unit
  alone other v inside := by
    have proven : w.proven = true := head_proven first
    have crossed : pool = .newcomer := by
      cases pool with
      | proven => exact absurd (by simp [ownPool, proven]) other
      | newcomer => rfl
    have none := pool_nil (alone crossed)
    rw [List.filter_eq_nil_iff] at none
    simpa [proven] using none v inside
  spilled newcomer := by
    have proven : w.proven = true := head_proven first
    rw [proven] at newcomer
    cases newcomer

theorem picked_newcomer {now : ℚ} (first : (g.pool (g.waiters.filter (!·.proven))).head? = some w)
    (unit : 0 < g.unitsLeft pool)
    (alone : pool = .proven →
      g.pool (g.waiters.filter (·.proven)) = [] ∧ g.spillToProvenOpen now = true) :
    g.Picked now w pool where
  first := by
    have newcomer : w.proven = false := by simpa using head_proven first
    simpa [newcomer] using first
  unit
  alone other v inside := by
    have newcomer : w.proven = false := by simpa using head_proven first
    have crossed : pool = .proven := by
      cases pool with
      | proven => rfl
      | newcomer => exact absurd (by simp [ownPool, newcomer]) other
    have none := pool_nil (alone crossed).1
    rw [List.filter_eq_nil_iff] at none
    simpa [newcomer] using none v inside
  spilled _ crossed := (alone crossed).2

/-- What `_pick_next` returns. -/
theorem picked_of_pickNext {now} (picked : g.pickNext now = some (w, pool)) :
    g.Picked now w pool := by
  unfold pickNext at picked
  simp only at picked
  split at picked
  next found =>
    cases picked
    obtain ⟨own, _, head⟩ := List.exists_of_findSome?_eq_some found
    cases own with
    | proven =>
      simp only [Option.ite_none_right_eq_some, Option.map_eq_some_iff, Prod.mk.injEq] at head
      obtain ⟨unit, v, first, rfl, rfl⟩ := head
      exact picked_proven first unit nofun
    | newcomer =>
      simp only [Option.ite_none_right_eq_some, Option.map_eq_some_iff, Prod.mk.injEq] at head
      obtain ⟨unit, v, first, rfl, rfl⟩ := head
      exact picked_newcomer first unit nofun
  next =>
    split at picked
    next v _ proven newcomers =>
      simp only [Option.ite_none_right_eq_some, Option.some.injEq, Prod.mk.injEq] at picked
      obtain ⟨unit, rfl, rfl⟩ := picked
      exact picked_proven (by rw [proven]; rfl) unit fun _ => newcomers
    next v _ proven newcomers =>
      simp only [Option.ite_none_right_eq_some, Option.some.injEq, Prod.mk.injEq] at picked
      obtain ⟨⟨unit, spilled⟩, rfl, rfl⟩ := picked
      exact picked_newcomer (by rw [newcomers]; rfl) unit fun _ => ⟨proven, spilled⟩
    next => cases picked

theorem Picked.senior {now} (picked : g.Picked now w pool) {v : BuildWaiter τ}
    (waiting : v ∈ g.waiters) (own : v.proven = w.proven) (fresh : v.actor ∉ g.chargedActors) :
    w.key ≤ v.key := by
  have inside : v ∈ g.waiters.filter fun v => v.proven == w.proven :=
    List.mem_filter.mpr ⟨waiting, by simp [own]⟩
  have first := picked.first
  unfold RoundGate.pool at first
  cases resolver : g.actorOf with
  | none =>
    rw [resolver] at first
    exact key_head_le first inside
  | some resolve =>
    rw [resolver] at first
    have least := key_head_le first inside
    simp only [Prod.Lex.toLex_le_toLex, fresh, decide_false] at least
    rcases least with charged | ⟨_, senior⟩
    · exact absurd charged (by simp)
    · exact senior

/-- With a resolver an actor gets another unit only when everybody in the pool has spent one. -/
theorem Picked.fresh_first {now} (picked : g.Picked now w pool) (resolved : g.actorOf.isSome = true)
    (again : w.actor ∈ g.chargedActors) {v : BuildWaiter τ} (waiting : v ∈ g.waiters)
    (own : v.proven = w.proven) :
    v.actor ∈ g.chargedActors := by
  have inside : v ∈ g.waiters.filter fun v => v.proven == w.proven :=
    List.mem_filter.mpr ⟨waiting, by simp [own]⟩
  have first := picked.first
  unfold RoundGate.pool at first
  obtain ⟨resolve, resolver⟩ := Option.isSome_iff_exists.mp resolved
  rw [resolver] at first
  have least := key_head_le first inside
  by_contra fresh
  simp only [Prod.Lex.toLex_le_toLex, again, fresh, decide_true, decide_false] at least
  rcases least with below | ⟨same, _⟩
  · exact absurd below (by decide)
  · cases same

end

structure RoundTerms (τ : Type) where
  budget : Int
  provenUnits : Int
  newcomerUnits : Int
  openedAt : ℚ
  openSeconds : ℚ
  spillAfterFraction : ℚ
  actorOf : Option (String → String)
  actorLast : Dict String τ

def terms (g : RoundGate τ) : RoundTerms τ :=
  ⟨g.budget, g.provenUnits, g.newcomerUnits, g.openedAt, g.openSeconds, g.spillAfterFraction, g.actorOf,
    g.actorLast⟩

variable {g g' : RoundGate τ}

theorem isProven_congr [LinearOrder τ] [Zero τ] (same : g'.terms = g.terms) (hotkey : String) :
    g'.isProven hotkey = g.isProven hotkey := by
  have actorOf := congrArg RoundTerms.actorOf same
  have actorLast := congrArg RoundTerms.actorLast same
  simp only [terms] at actorOf actorLast
  unfold isProven actor
  rw [actorOf, actorLast]

theorem spill_congr (same : g'.terms = g.terms) (now : ℚ) :
    g'.spillToProvenOpen now = g.spillToProvenOpen now := by
  have openedAt := congrArg RoundTerms.openedAt same
  have openSeconds := congrArg RoundTerms.openSeconds same
  have fraction := congrArg RoundTerms.spillAfterFraction same
  simp only [terms] at openedAt openSeconds fraction
  unfold spillToProvenOpen
  rw [openedAt, openSeconds, fraction]

structure Grows (g g' : RoundGate τ) : Prop where
  terms : g'.terms = g.terms
  flushed : g'.flushed = g.flushed
  provens : g.provenCharged ≤ g'.provenCharged
  newcomers : g.newcomerCharged ≤ g'.newcomerCharged
  waiters : g'.waiters.Sublist g.waiters

theorem Grows.refl (g : RoundGate τ) : g.Grows g := ⟨rfl, rfl, le_rfl, le_rfl, .refl _⟩

theorem Grows.trans {g g' g'' : RoundGate τ} (first : g.Grows g') (second : g'.Grows g'') : g.Grows g'' where
  terms := second.terms.trans first.terms
  flushed := second.flushed.trans first.flushed
  provens := first.provens.trans second.provens
  newcomers := first.newcomers.trans second.newcomers
  waiters := second.waiters.trans first.waiters

theorem grows_spend (g : RoundGate τ) (id actor : String) (pool : BuildPool) : g.Grows (g.spend id actor pool) where
  terms := rfl
  flushed := rfl
  provens := by
    unfold spend
    split <;> simp
  newcomers := by
    unfold spend
    simp only
    split <;> simp
  waiters := .refl _

theorem grows_grant (g : RoundGate τ) (concurrency : Int) (w : BuildWaiter τ) (pool : BuildPool) :
    g.Grows (g.grant concurrency w pool) := by
  have taken : g.Grows { g with waiters := g.waiters.eraseP w.same } :=
    ⟨rfl, rfl, le_rfl, le_rfl, List.eraseP_sublist⟩
  have spent := taken.trans (grows_spend _ w.submissionId w.actor pool)
  exact ⟨spent.terms, spent.flushed, spent.provens, spent.newcomers, spent.waiters⟩

/-- `count` grants to newcomers are within the units that are spent and the units that there are. -/
structure Within (g : RoundGate τ) (count : Nat) : Prop where
  spent : (count : Int) ≤ g.newcomerCharged
  units : (count : Int) ≤ g.newcomerUnits

theorem Within.of_grows {count} (within : g.Within count) (grown : g.Grows g') :
    g'.Within count where
  spent := within.spent.trans grown.newcomers
  units := by
    have same := congrArg RoundTerms.newcomerUnits grown.terms
    simp only [terms] at same
    rw [same]
    exact within.units

section

variable [LinearOrder τ]

theorem Picked.newcomer_unit {g : RoundGate τ} {now} {w : BuildWaiter τ} {pool}
    (picked : g.Picked now w pool) (early : g.spillToProvenOpen now = false)
    (newcomer : w.proven = false) :
    pool = .newcomer ∧ g.newcomerCharged < g.newcomerUnits := by
  cases pool with
  | proven =>
    have spilled := picked.spilled newcomer rfl
    rw [early] at spilled
    cases spilled
  | newcomer =>
    have unit := picked.unit
    simp only [unitsLeft] at unit
    exact ⟨rfl, by omega⟩

theorem picked_of_decisionsLoop {concurrency now} (rounds : Nat) {g : RoundGate τ} :
    ∀ d ∈ g.decisionsLoop concurrency now rounds, g.Grows d.before ∧ d.before.Picked now d.waiter d.pool := by
  induction rounds generalizing g with
  | zero =>
    intro d decided
    rw [decisionsLoop] at decided
    cases decided
  | succ rounds ih =>
    intro d decided
    rw [decisionsLoop] at decided
    split at decided
    next =>
      split at decided
      next => cases decided
      next w pool picked =>
        cases List.mem_cons.mp decided with
        | inl here =>
          subst here
          exact ⟨.refl g, picked_of_pickNext picked⟩
        | inr later =>
          obtain ⟨grown, rule⟩ := ih d later
          exact ⟨(grows_grant g concurrency w pool).trans grown, rule⟩
    next => cases decided

theorem dispatchLoop_eq_foldl {concurrency now} (rounds : Nat) (g : RoundGate τ) :
    g.dispatchLoop concurrency now rounds = (g.decisionsLoop concurrency now rounds).foldl
      (fun g d => g.grant concurrency d.waiter d.pool) g := by
  induction rounds generalizing g with
  | zero => rfl
  | succ rounds ih =>
    rw [decisionsLoop, dispatchLoop]
    split
    next =>
      cases g.pickNext now with
      | none => rfl
      | some choice => exact ih (g.grant concurrency choice.1 choice.2)
    next => rfl

theorem grows_dispatchLoop {concurrency now} (rounds : Nat) (g : RoundGate τ) :
    g.Grows (g.dispatchLoop concurrency now rounds) := by
  induction rounds generalizing g with
  | zero => exact .refl g
  | succ rounds ih =>
    unfold dispatchLoop
    split
    next =>
      split
      next => exact .refl g
      next w pool _ => exact (grows_grant g concurrency w pool).trans (ih _)
    next => exact .refl g

theorem grows_dispatch (g : RoundGate τ) (env : Option String) (now : ℚ) : g.Grows (g.dispatch env now) := by
  unfold dispatch
  split
  · exact .refl g
  · exact grows_dispatchLoop g.waiters.length g

theorem picked_of_decisions {g : RoundGate τ} {env now} :
    ∀ d ∈ g.decisions env now, g.Grows d.before ∧ d.before.Picked now d.waiter d.pool := by
  intro d decided
  unfold decisions at decided
  split at decided
  · cases decided
  · exact picked_of_decisionsLoop g.waiters.length d decided

end

section

variable [LinearOrder τ] [Zero τ] {sha256Hex : String → String}

variable {g : RoundGate τ}

theorem step_of_dispatching {e d env} (runs : g.dispatching sha256Hex e = some (d, env)) :
    (g.step sha256Hex e.gateEvent).1 = d.dispatch env e.now := by
  cases e with
  | acquire a =>
    simp only [dispatching, Option.ite_none_left_eq_some, Option.some.injEq, Prod.mk.injEq,
      not_or] at runs
    obtain ⟨⟨limited, new, fresh, unflushed⟩, rfl, rfl⟩ := runs
    change g.acquire sha256Hex { a with roundIsOpen := true } = _
    unfold acquire
    simp only
    rw [if_neg limited, if_neg (by simp [new, fresh]), if_neg (by simp [unflushed])]
    rfl
  | release id env' now =>
    obtain ⟨rfl, rfl⟩ := Prod.mk.inj (Option.some.inj runs)
    rfl
  | poll call now => cases runs

/-- What a step that does not dispatch does: at most it charges and begins one build. -/
structure Passes (g g' : RoundGate τ) (e : OpenEvent) : Prop extends g.Grows g' where
  queue : g'.waiters = g.waiters
  flight : ∀ a, e = .acquire a → 0 < g.budget → g'.inFlight = insert a.submissionId g.inFlight
  total : ∀ a, e = .acquire a → 0 < g.budget →
    g'.totalCharged = g.totalCharged + if a.submissionId ∈ g.chargedIds then 0 else 1
  still : (∀ a, e ≠ .acquire a) → g' = g

theorem passes_of_not_dispatching {e} (unflushed : g.flushed = false)
    (rests : g.dispatching sha256Hex e = none) : g.Passes (g.step sha256Hex e.gateEvent).1 e := by
  cases e with
  | acquire a =>
    have free : g.budget ≤ 0 ∨ a.priorAttempt = true ∨ a.submissionId ∈ g.chargedIds := by
      by_contra held
      have asks : ¬(g.budget ≤ 0 ∨ a.priorAttempt = true ∨ a.submissionId ∈ g.chargedIds ∨
          g.flushed = true) := by
        rw [unflushed]
        grind
      simp only [dispatching, if_neg asks] at rests
      cases rests
    change g.Passes (g.acquire sha256Hex { a with roundIsOpen := true }) (.acquire a)
    unfold acquire
    simp only
    by_cases unlimited : g.budget ≤ 0
    · rw [if_pos unlimited]
      exact
        { RoundGate.Grows.refl g with
          queue := rfl
          flight := fun _ _ limited => absurd unlimited (not_le.mpr limited)
          total := fun _ _ limited => absurd unlimited (not_le.mpr limited)
          still := fun other => absurd rfl (other a) }
    rw [if_neg unlimited, if_pos (by simpa [unlimited] using free)]
    split
    next known =>
      exact
        { RoundGate.Grows.refl g with
          queue := rfl
          flight := by
            intro _ same _
            obtain rfl := OpenEvent.acquire.inj same
            rfl
          total := by
            intro _ same _
            obtain rfl := OpenEvent.acquire.inj same
            rw [if_pos known, add_zero]
            rfl
          still := fun other => absurd rfl (other a) }
    next fresh =>
      have charged := grows_spend g a.submissionId (g.actor a.hotkey)
        (if g.isProven a.hotkey then .proven else .newcomer)
      exact
        { terms := rfl
          flushed := rfl
          provens := charged.provens
          newcomers := charged.newcomers
          waiters := .refl _
          queue := rfl
          flight := by
            intro _ same _
            obtain rfl := OpenEvent.acquire.inj same
            rfl
          total := by
            intro _ same _
            obtain rfl := OpenEvent.acquire.inj same
            rw [if_neg fresh]
            exact totalCharged_spend g a.submissionId (g.actor a.hotkey)
              (if g.isProven a.hotkey then .proven else .newcomer)
          still := fun other => absurd rfl (other a) }
  | release id env now => cases rests
  | poll call now =>
    have unmoved : (g.poll call true) = g := by
      unfold poll
      split <;> simp
    change g.Passes (g.poll call true) (.poll call now)
    rw [unmoved]
    exact
      { RoundGate.Grows.refl g with
        queue := rfl
        flight := nofun
        total := nofun
        still := fun _ => rfl }

def Labelled (g : RoundGate τ) : Prop := ∀ w ∈ g.waiters, w.proven = g.isProven w.hotkey

theorem Labelled.of_grows {g g' : RoundGate τ} (labelled : g.Labelled) (grown : g.Grows g') : g'.Labelled := by
  intro w waiting
  rw [isProven_congr grown.terms]
  exact labelled w (grown.waiters.subset waiting)

theorem Labelled.queued (labelled : g.Labelled) (a : AcquireCall) :
    (g.queued sha256Hex a).Labelled := by
  intro w waiting
  cases List.mem_append.mp waiting with
  | inl old => exact labelled w old
  | inr new =>
    obtain rfl := List.mem_singleton.mp new
    rfl

def newcomerGrants (log : List (Decision τ)) : Nat :=
  log.countP fun d => !d.before.isProven d.waiter.hotkey

theorem newcomerGrants_append (log later : List (Decision τ)) :
    newcomerGrants (log ++ later) = newcomerGrants log + newcomerGrants later :=
  List.countP_append

theorem Within.loop {concurrency now} (rounds : Nat) {count} (within : g.Within count)
    (labelled : g.Labelled) (early : g.spillToProvenOpen now = false) :
    (g.dispatchLoop concurrency now rounds).Within
      (count + newcomerGrants (g.decisionsLoop concurrency now rounds)) := by
  induction rounds generalizing g count with
  | zero => exact within
  | succ rounds ih =>
    rw [decisionsLoop, dispatchLoop]
    split
    next =>
      cases picked : g.pickNext now with
      | none => exact within
      | some choice =>
        obtain ⟨w, pool⟩ := choice
        have grown := grows_grant g concurrency w pool
        have rule := picked_of_pickNext picked
        have flag := labelled w (mem_of_pickNext picked)
        simp only
        have counted : count + newcomerGrants (⟨g, w, pool⟩ ::
            decisionsLoop concurrency now rounds (g.grant concurrency w pool)) =
            (count + if g.isProven w.hotkey then 0 else 1) +
              newcomerGrants (decisionsLoop concurrency now rounds (g.grant concurrency w pool)) := by
          simp only [newcomerGrants, List.countP_cons]
          cases g.isProven w.hotkey with
          | true => simp
          | false =>
            simp
            omega
        rw [counted]
        apply ih _ (labelled.of_grows grown) ((spill_congr grown.terms now).trans early)
        cases benched : g.isProven w.hotkey with
        | true => simpa using within.of_grows grown
        | false =>
          rw [benched] at flag
          obtain ⟨rfl, room⟩ := rule.newcomer_unit early flag
          have units := within.units
          have spent := within.spent
          constructor
          · change _ ≤ g.newcomerCharged + 1
            simp
            omega
          · change _ ≤ g.newcomerUnits
            simp
            omega
    next => exact within

theorem Within.dispatch {env now count} (within : g.Within count) (labelled : g.Labelled)
    (early : g.spillToProvenOpen now = false) :
    (g.dispatch env now).Within (count + newcomerGrants (g.decisions env now)) := by
  unfold RoundGate.dispatch decisions
  split
  · exact within
  · exact within.loop g.waiters.length labelled early

end

end RoundGate

namespace WatchedGate

open RoundGate

variable {τ : Type} [LinearOrder τ] [Zero τ] {sha256Hex : String → String}

theorem terms_dispatching {g : RoundGate τ} {e} {d : RoundGate τ} {env}
    (runs : g.dispatching sha256Hex e = some (d, env)) : d.terms = g.terms ∧ d.flushed = g.flushed ∧
      d.newcomerCharged = g.newcomerCharged ∧ (g.Labelled → d.Labelled) := by
  cases e with
  | acquire a =>
    simp only [dispatching, Option.ite_none_left_eq_some, Option.some.injEq, Prod.mk.injEq] at runs
    obtain ⟨_, rfl, _⟩ := runs
    exact ⟨rfl, rfl, rfl, fun labelled => labelled.queued a⟩
  | release id env' now =>
    obtain ⟨rfl, _⟩ := Prod.mk.inj (Option.some.inj runs)
    exact ⟨rfl, rfl, rfl, fun labelled => labelled⟩
  | poll call now => cases runs

/-- What every open step keeps. -/
structure Kept (fixed : RoundTerms τ) (s : WatchedGate τ) : Prop where
  terms : s.gate.terms = fixed
  unflushed : s.gate.flushed = false
  labelled : s.gate.Labelled
  logged : ∀ d ∈ s.log, d.before.terms = fixed ∧ ∃ now, d.before.Picked now d.waiter d.pool

theorem Kept.step {fixed} {s : WatchedGate τ} (kept : s.Kept fixed) (e : OpenEvent) :
    (step sha256Hex s e).1.Kept fixed := by
  unfold WatchedGate.step
  simp only
  cases runs : s.gate.dispatching sha256Hex e with
  | some run =>
    obtain ⟨d, env⟩ := run
    obtain ⟨sameTerms, sameFlush, _, labels⟩ := terms_dispatching runs
    have grown := grows_dispatch d env e.now
    simp only
    rw [step_of_dispatching runs]
    exact
      { terms := grown.terms.trans (sameTerms.trans kept.terms)
        unflushed := grown.flushed.trans (sameFlush.trans kept.unflushed)
        labelled := (labels kept.labelled).of_grows grown
        logged := by
          intro decision inside
          cases List.mem_append.mp inside with
          | inl old => exact kept.logged decision old
          | inr new =>
            obtain ⟨later, rule⟩ := picked_of_decisions decision new
            exact ⟨later.terms.trans (sameTerms.trans kept.terms), e.now, rule⟩ }
  | none =>
    have passed := passes_of_not_dispatching kept.unflushed runs
    exact
      { terms := passed.terms.trans kept.terms
        unflushed := passed.flushed.trans kept.unflushed
        labelled := kept.labelled.of_grows passed.toGrows
        logged := kept.logged }

variable (roundId : String)

theorem opened_waiters (touch : RoundTouch τ) :
    (GateRounds.opened roundId touch).waiters = [] := (GateRounds.rebuilt_opened roundId touch).waiters

theorem grows_rebuild (g : RoundGate τ) (priorAttempts : List (String × String)) :
    g.Grows (g.rebuild priorAttempts) := by
  unfold RoundGate.rebuild
  induction priorAttempts generalizing g with
  | nil => exact .refl g
  | cons attempt rest ih =>
    rw [List.foldl_cons]
    split
    · exact ih g
    · exact (grows_spend g _ _ _).trans (ih _)

theorem grows_opened (touch : RoundTouch τ) :
    (RoundGate.bootstrap roundId touch.budget touch.cfg).Grows (GateRounds.opened roundId touch) :=
  grows_rebuild (RoundGate.bootstrap roundId touch.budget touch.cfg) touch.priorAttempts

theorem kept_opened (touch : RoundTouch τ) :
    (opened roundId touch).Kept (RoundGate.bootstrap roundId touch.budget touch.cfg).terms where
  terms := (grows_opened roundId touch).terms
  unflushed := by
    change (GateRounds.opened roundId touch).flushed = false
    rw [(grows_opened roundId touch).flushed]
    rfl
  labelled w waiting := by
    change w ∈ (GateRounds.opened roundId touch).waiters at waiting
    rw [opened_waiters] at waiting
    cases waiting
  logged _ inside := by cases inside

def Early (s : WatchedGate τ) (e : OpenEvent) : Prop := s.gate.spillToProvenOpen e.now = false

theorem within_step {fixed} {s : WatchedGate τ} (kept : s.Kept fixed)
    (within : s.gate.Within (newcomerGrants s.log)) (e : OpenEvent) (early : s.Early e) :
    (step sha256Hex s e).1.gate.Within (newcomerGrants (step sha256Hex s e).1.log) := by
  unfold WatchedGate.step
  simp only
  cases runs : s.gate.dispatching sha256Hex e with
  | some run =>
    obtain ⟨d, env⟩ := run
    obtain ⟨sameTerms, _, sameUnits, labels⟩ := terms_dispatching runs
    have units := congrArg RoundTerms.newcomerUnits sameTerms
    simp only [RoundGate.terms] at units
    have before : d.Within (newcomerGrants s.log) := ⟨sameUnits ▸ within.spent, units ▸ within.units⟩
    simp only
    rw [step_of_dispatching runs, newcomerGrants_append]
    exact before.dispatch (labels kept.labelled) ((spill_congr sameTerms e.now).trans early)
  | none => exact within.of_grows (passes_of_not_dispatching kept.unflushed runs).toGrows

theorem within_opened (touch : RoundTouch τ) :
    (opened roundId touch).gate.Within (newcomerGrants (opened roundId touch).log) := by
  have first : (RoundGate.bootstrap roundId touch.budget touch.cfg).Within 0 :=
    ⟨le_rfl, le_max_left 0 _⟩
  exact first.of_grows (grows_opened roundId touch)

/-- While the window is closed newcomers get at most their units; whenever it is, a unit of theirs
    goes to a proven waiter only when no newcomer waits, nobody is granted before a senior waiter of
    the pool whose actor has spent nothing, and with a resolver no actor gets a second unit while a
    fresh one waits. -/
theorem reserve_and_seniority (sha256Hex : String → String) (roundId : String) (touch : RoundTouch τ) :
    (∀ s, Reaches (step sha256Hex) Early (opened roundId touch) s →
      (newcomerGrants s.log : Int) ≤ s.gate.newcomerUnits) ∧
    ∀ s, Reaches (step sha256Hex) (fun _ _ => True) (opened roundId touch) s → ∀ d ∈ s.log,
      (d.waiter.proven = true → d.pool = .newcomer → ∀ w ∈ d.before.waiters, w.proven = true) ∧
      (∀ w ∈ d.before.waiters, w.proven = d.waiter.proven → w.actor ∉ d.before.chargedActors →
        ¬w.key < d.waiter.key) ∧
      (touch.cfg.actorOf.isSome = true → d.waiter.actor ∈ d.before.chargedActors →
        ∀ w ∈ d.before.waiters, w.proven = d.waiter.proven → w.actor ∈ d.before.chargedActors) := by
  constructor
  · intro s reached
    have both := reached.invariant
      (fun s => s.Kept (RoundGate.bootstrap roundId touch.budget touch.cfg).terms ∧
        s.gate.Within (newcomerGrants s.log))
      ⟨kept_opened roundId touch, within_opened roundId touch⟩
      fun s e inv early => ⟨inv.1.step e, within_step inv.1 inv.2 e early⟩
    exact both.2.units
  · intro s reached d logged
    have kept := reached.invariant (Kept (RoundGate.bootstrap roundId touch.budget touch.cfg).terms)
      (kept_opened roundId touch) fun s e inv _ => inv.step e
    obtain ⟨sameTerms, now, rule⟩ := kept.logged d logged
    refine ⟨?_, ?_, ?_⟩
    · intro proven crossed w waiting
      rw [rule.alone (by simp [ownPool, proven, crossed]) w waiting, proven]
    · intro w waiting own fresh
      exact not_lt.mpr (rule.senior waiting own fresh)
    · intro resolved again w waiting own
      have resolver := congrArg RoundTerms.actorOf sameTerms
      simp only [RoundGate.terms, RoundGate.bootstrap] at resolver
      exact rule.fresh_first (by rw [resolver]; exact resolved) again waiting own

/-- Without a resolver a hotkey with two submissions gets both units before another one waits no
    longer. -/
def twoOfOneHotkey : List OpenEvent :=
  [.acquire { submissionId := "sub_x", hotkey := "A", now := 1010 },
    .acquire { submissionId := "sub_a", hotkey := "A", now := 1020 },
    .acquire { submissionId := "sub_b", hotkey := "B", now := 1030 },
    .release "sub_x" none 1040]

theorem second_unit_before_fresh :
    ¬ ∀ (roundId : String) (touch : RoundTouch ℕ) (s : WatchedGate ℕ),
        Reaches (step contestDigests) (fun _ _ => True) (opened roundId touch) s → ∀ d ∈ s.log,
          d.waiter.actor ∈ d.before.chargedActors →
            ∀ w ∈ d.before.waiters, w.proven = d.waiter.proven → w.actor ∈ d.before.chargedActors := by
  intro kept
  have reached := reaches_runEvents (step contestDigests) (opened "r1" ⟨3, twoProven, []⟩) twoOfOneHotkey
  have each := kept "r1" ⟨3, twoProven, []⟩ _ reached
  have again : ((runEvents (step contestDigests) (opened "r1" ⟨3, twoProven, []⟩) twoOfOneHotkey).log.any
      fun d => decide (d.waiter.actor ∈ d.before.chargedActors) &&
        d.before.waiters.any fun w => w.proven == d.waiter.proven &&
          !decide (w.actor ∈ d.before.chargedActors)) = true := by decide +kernel
  obtain ⟨d, logged, charged⟩ := List.any_eq_true.mp again
  simp only [Bool.and_eq_true, decide_eq_true_eq, List.any_eq_true, beq_iff_eq, Bool.not_eq_true',
    decide_eq_false_iff_not] at charged
  obtain ⟨spent, w, waiting, own, fresh⟩ := charged
  exact fresh (each d logged spent w waiting own)

end WatchedGate

end MinotaurSubnet.Harness
