import MinotaurSubnet.Library.Machine
import MinotaurSubnet.Python.Value
import Mathlib.Data.Fintype.Basic

/-! # The scenario pool

`_run_scenarios` and its workers. Every runtime drains one shared queue and writes each
result back under the input index. An event is a worker going on after what it has awaited:
the scenario or the restart of its solver. What a scenario gives, and whether its solver has
to be restarted then, is a parameter; a session can always be relaunched.
-/

namespace MinotaurSubnet.Harness

open Library

/-- What a worker awaits. -/
inductive PoolPhase (α : Type*) where
  | unstarted
  | running (idx : Nat) (scenario : α)
  | restarting
  | finished

structure PoolWorker (α : Type*) where
  phase : PoolPhase α := .unstarted
  respawns : Nat := 0
  /-- `dead_reason`, once `solver_dead`. -/
  dead : Option String := none

/-- The pool of `k` runtimes. No step reads `ran`, `zeroed` and `refused`. -/
structure ScenarioPool (α β : Type*) (k : Nat) where
  queue : List (Nat × α)
  results : List (Option β)
  workers : Fin k → PoolWorker α
  /-- The scenarios that were run: the worker and the index. -/
  ran : List (Fin k × Nat) := []
  /-- The indices that were scored zero without a run. -/
  zeroed : List Nat := []
  /-- How often the respawn ceiling stopped a restart. -/
  refused : Nat := 0

inductive PoolEvent (k : Nat) where
  /-- A worker begins; `late` tells if the run budget is exceeded then. -/
  | start (w : Fin k) (late : Bool)
  /-- `_process_scenario` returns. -/
  | returned (w : Fin k) (late : Bool)
  /-- The restart ends, well or not. -/
  | restarted (w : Fin k) (ok late : Bool)

namespace ScenarioPool

variable {α β : Type*} {k : Nat}

def solverUnrecoverable : String := "skipped: solver unrecoverable"

def runBudgetExceeded : String := "skipped: total run budget exceeded"

def withWorker (p : ScenarioPool α β k) (w : Fin k) (worker : PoolWorker α) : ScenarioPool α β k :=
  { p with workers := Function.update p.workers w worker }

section

-- The result and the respawn flag of a scenario, and the zero result with its error.
variable (outcome : α → β × Bool) (skipped : α → String → β)

/-- A dead worker scores the rest of the queue zero; it awaits nothing. -/
def zeroFill (p : ScenarioPool α β k) (reason : String) : ScenarioPool α β k :=
  { p with
    queue := []
    results := p.queue.foldl
      (fun results item => results.set item.1 (some (skipped item.2 reason))) p.results
    zeroed := p.zeroed ++ p.queue.map Prod.fst }

/-- The loop of `_scenario_pool_worker` from its top to the next await. -/
def loop (p : ScenarioPool α β k) (w : Fin k) (worker : PoolWorker α) (late : Bool) :
    ScenarioPool α β k :=
  match p.queue with
  | [] => p.withWorker w { worker with phase := .finished }
  | (idx, scenario) :: rest =>
    match worker.dead, late with
    | none, false =>
      { (p.withWorker w { worker with phase := .running idx scenario }) with
        queue := rest
        ran := p.ran ++ [(w, idx)] }
    | dead, _ =>
      let reason := dead.getD runBudgetExceeded
      (p.zeroFill skipped reason).withWorker w
        { worker with phase := .finished, dead := some reason }

/-- One step of the pool of `n` scenarios. -/
def step (n : Nat) (p : ScenarioPool α β k) : PoolEvent k → ScenarioPool α β k × Unit
  | .start w late =>
    match (p.workers w).phase with
    | .unstarted => (p.loop skipped w (p.workers w) late, ())
    | _ => (p, ())
  | .returned w late =>
    match (p.workers w).phase with
    | .running idx scenario =>
      let written := { p with results := p.results.set idx (some (outcome scenario).1) }
      if (outcome scenario).2 then
        -- `max_respawns`
        if max 4 n ≤ (p.workers w).respawns then
          ({ written with refused := p.refused + 1 }.loop skipped w
            { p.workers w with dead := some solverUnrecoverable } late, ())
        else (written.withWorker w { p.workers w with phase := .restarting }, ())
      else (written.loop skipped w (p.workers w) late, ())
    | _ => (p, ())
  | .restarted w ok late =>
    match (p.workers w).phase with
    | .restarting =>
      if ok then
        (p.loop skipped w { p.workers w with respawns := (p.workers w).respawns + 1 } late, ())
      else (p.loop skipped w { p.workers w with dead := some solverUnrecoverable } late, ())
    | _ => (p, ())

end

/-- The queue and the workers of `_run_scenarios` before any of them begins. -/
def initial (k : Nat) (intents : List α) : ScenarioPool α β k where
  queue := (List.range intents.length).zip intents
  results := List.replicate intents.length none
  workers _ := {}

/-- `gather` returns when every worker has. -/
def Finished (p : ScenarioPool α β k) : Prop :=
  ∀ w, (p.workers w).phase = .finished

/-- What `_run_scenarios` returns then; the error carries the missing indices. -/
def returned (p : ScenarioPool α β k) : Except (List Nat) (List β) :=
  let missing := (List.range p.results.length).filter fun i => (p.results[i]?.join).isNone
  if missing = [] then .ok p.results.reduceOption else .error missing

def Awaits (p : ScenarioPool α β k) : PoolEvent k → Prop
  | .start w _ => (p.workers w).phase = .unstarted
  | .returned w _ => ∃ idx scenario, (p.workers w).phase = .running idx scenario
  | .restarted w _ _ => (p.workers w).phase = .restarting

def Undisturbed (_ : ScenarioPool α β k) : PoolEvent k → Prop
  | .start _ late | .returned _ late => late = false
  | .restarted _ ok late => ok = true ∧ late = false

end ScenarioPool

end MinotaurSubnet.Harness
