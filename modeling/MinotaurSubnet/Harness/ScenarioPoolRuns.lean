import MinotaurSubnet.Harness.ScenarioPool
import Mathlib.Algebra.BigOperators.Group.Finset.Basic

/-! # Runs of the scenario pool

While no run budget runs out and every restart succeeds, the pool has dequeued the scenarios in
input order, each is being run or has its own result at its index, and no worker has restarted
its solver more often than it has run a scenario.
-/

namespace MinotaurSubnet.Harness

open Library

def PoolPhase.owed {α : Type*} : PoolPhase α → Nat
  | .running _ _ | .restarting => 1
  | .unstarted | .finished => 0

/-- A bound on how often a worker goes on when the queue gives it nothing more. -/
def PoolPhase.left {α : Type*} : PoolPhase α → Nat
  | .running _ _ => 2
  | .unstarted | .restarting => 1
  | .finished => 0

section

variable {α : Type*}

@[simp] theorem left_unstarted : (PoolPhase.unstarted : PoolPhase α).left = 1 := rfl
@[simp] theorem left_running (idx : Nat) (scenario : α) :
    (PoolPhase.running idx scenario).left = 2 := rfl
@[simp] theorem left_restarting : (PoolPhase.restarting : PoolPhase α).left = 1 := rfl
@[simp] theorem left_finished : (PoolPhase.finished : PoolPhase α).left = 0 := rfl

@[simp] theorem owed_unstarted : (PoolPhase.unstarted : PoolPhase α).owed = 0 := rfl
@[simp] theorem owed_running (idx : Nat) (scenario : α) :
    (PoolPhase.running idx scenario).owed = 1 := rfl
@[simp] theorem owed_restarting : (PoolPhase.restarting : PoolPhase α).owed = 1 := rfl
@[simp] theorem owed_finished : (PoolPhase.finished : PoolPhase α).owed = 0 := rfl

end

namespace ScenarioPool

variable {α β : Type*} {k : Nat}

variable (p : ScenarioPool α β k)

@[simp] theorem withWorker_queue (w worker) :
    (p.withWorker w worker).queue = p.queue := rfl

@[simp] theorem withWorker_results (w worker) :
    (p.withWorker w worker).results = p.results := rfl

@[simp] theorem withWorker_ran (w worker) :
    (p.withWorker w worker).ran = p.ran := rfl

@[simp] theorem withWorker_self (w worker) :
    (p.withWorker w worker).workers w = worker := Function.update_self ..

theorem withWorker_same (w : Fin k) : p.withWorker w (p.workers w) = p := by
  simp [withWorker]

theorem withWorker_twice (w : Fin k) (first last : PoolWorker α) :
    (p.withWorker w first).withWorker w last = p.withWorker w last := by
  simp [withWorker]

theorem withWorker_other {w v} (worker) (apart : v ≠ w) :
    (p.withWorker w worker).workers v = p.workers v := Function.update_of_ne apart ..

def remaining (p : ScenarioPool α β k) : Nat :=
  3 * p.queue.length + ∑ w, (p.workers w).phase.left

theorem sum_left_withWorker (w : Fin k) (worker : PoolWorker α) :
    ∑ v, ((p.withWorker w worker).workers v).phase.left + (p.workers w).phase.left =
      ∑ v, (p.workers v).phase.left + worker.phase.left := by
  have before := Finset.add_sum_erase Finset.univ (fun v => (p.workers v).phase.left) (Finset.mem_univ w)
  have after := Finset.add_sum_erase Finset.univ
    (fun v => ((p.withWorker w worker).workers v).phase.left) (Finset.mem_univ w)
  have others : ∑ v ∈ Finset.univ.erase w, ((p.withWorker w worker).workers v).phase.left =
      ∑ v ∈ Finset.univ.erase w, (p.workers v).phase.left := by
    apply Finset.sum_congr rfl
    intro v apart
    rw [withWorker_other p worker (Finset.ne_of_mem_erase apart)]
  simp only [withWorker_self] at before after
  omega

section

variable (outcome : α → β × Bool) (skipped : α → String → β)

theorem remaining_loop (p : ScenarioPool α β k) (w : Fin k) (worker : PoolWorker α) (late : Bool)
    (awaits : 0 < (p.workers w).phase.left) :
    (p.loop skipped w worker late).remaining < p.remaining := by
  unfold loop
  split
  · have sums := p.sum_left_withWorker w { worker with phase := .finished }
    simp only [left_finished, remaining, withWorker_queue] at sums ⊢
    omega
  · rename_i idx scenario rest queued
    have sums := p.sum_left_withWorker w { worker with phase := .running idx scenario }
    split
    · simp only [left_running, remaining, queued, List.length_cons] at sums ⊢
      omega
    · have sums := (p.zeroFill skipped (worker.dead.getD runBudgetExceeded)).sum_left_withWorker w
        { worker with phase := .finished, dead := some (worker.dead.getD runBudgetExceeded) }
      simp only [left_finished, remaining, queued, List.length_cons, withWorker_queue, zeroFill,
        List.length_nil] at sums ⊢
      omega

theorem remaining_step (n : Nat) (p : ScenarioPool α β k) (e : PoolEvent k) (awaits : p.Awaits e) :
    (p.step outcome skipped n e).1.remaining < p.remaining := by
  cases e with
  | start w late =>
    have starts : (p.workers w).phase = .unstarted := awaits
    simp only [step, starts]
    exact p.remaining_loop skipped w _ late (by simp [starts])
  | returned w late =>
    obtain ⟨idx, scenario, runs⟩ := awaits
    have busy : 0 < (p.workers w).phase.left := by simp [runs]
    simp only [step, runs]
    split
    · split
      · exact remaining_loop skipped { p with results := _, refused := _ } w _ late busy
      · have sums := p.sum_left_withWorker w { p.workers w with phase := .restarting }
        simp only [runs, left_running, left_restarting, remaining, withWorker] at sums ⊢
        omega
    · exact remaining_loop skipped { p with results := _ } w _ late busy
  | restarted w ok late =>
    have restarts : (p.workers w).phase = .restarting := awaits
    have busy : 0 < (p.workers w).phase.left := by simp [restarts]
    simp only [step, restarts]
    split <;> exact p.remaining_loop skipped w _ late busy

structure Works (intents : List α) (queue : List (Nat × α)) (ran : List (Fin k × Nat)) (w : Fin k)
    (worker : PoolWorker α) : Prop where
  alive : worker.dead = none
  runs : ∀ idx scenario, worker.phase = .running idx scenario → intents[idx]? = some scenario
  restarts : worker.respawns + worker.phase.owed ≤ ran.countP (·.1 = w)
  drained : worker.phase = .finished → queue = []

structure Steady (intents : List α) (p : ScenarioPool α β k) : Prop where
  dequeued : p.queue = ((List.range intents.length).zip intents).drop p.ran.length
  order : p.ran.map Prod.snd = List.range p.ran.length
  within : p.ran.length ≤ intents.length
  slots : p.results.length = intents.length
  works : ∀ w, Works intents p.queue p.ran w (p.workers w)
  written : ∀ idx scenario, idx < p.ran.length → intents[idx]? = some scenario →
    p.results[idx]? = some (some (outcome scenario).1) ∨
      ∃ w, (p.workers w).phase = .running idx scenario
  clean : p.zeroed = [] ∧ p.refused = 0

variable {outcome} {intents : List α}

theorem steady_initial : Steady outcome intents (initial k intents : ScenarioPool α β k) where
  dequeued := rfl
  order := rfl
  within := Nat.zero_le _
  slots := List.length_replicate
  works _ :=
    { alive := rfl
      runs := fun _ _ runs => by cases runs
      restarts := Nat.zero_le _
      drained := fun finished => by cases finished }
  written _ _ early := by cases early
  clean := ⟨rfl, rfl⟩

variable {p : ScenarioPool α β k}

theorem Steady.withWorker (steady : Steady outcome intents p) {w : Fin k} {worker : PoolWorker α}
    (works : Works intents p.queue p.ran w worker)
    (done : ∀ idx scenario, (p.workers w).phase = .running idx scenario →
      p.results[idx]? = some (some (outcome scenario).1)) :
    Steady outcome intents (p.withWorker w worker) where
  dequeued := steady.dequeued
  order := steady.order
  within := steady.within
  slots := steady.slots
  works := (Function.forall_update_iff p.workers (Works intents p.queue p.ran)).mpr
    ⟨works, fun v _ => steady.works v⟩
  written := by
    intro idx scenario early found
    cases steady.written idx scenario early found with
    | inl right => exact .inl right
    | inr runs =>
      obtain ⟨v, runs⟩ := runs
      by_cases same : v = w
      · subst same
        exact .inl (done idx scenario runs)
      · exact .inr ⟨v, by rw [p.withWorker_other worker same, runs]⟩
  clean := steady.clean

theorem Steady.write (steady : Steady outcome intents p) {w idx scenario}
    (runs : (p.workers w).phase = .running idx scenario) :
    Steady outcome intents { p with results := p.results.set idx (some (outcome scenario).1) } where
  dequeued := steady.dequeued
  order := steady.order
  within := steady.within
  slots := by simpa only [List.length_set] using steady.slots
  works := steady.works
  written := by
    intro j other early found
    have inside : j < p.results.length := by
      rw [steady.slots]
      exact Nat.lt_of_lt_of_le early steady.within
    by_cases same : idx = j
    · subst same
      have found' := (steady.works w).runs idx scenario runs
      rw [found] at found'
      cases found'
      exact .inl (by simp [inside])
    · cases steady.written j other early found with
      | inl right => exact .inl (by rw [List.getElem?_set_ne same, right])
      | inr runs => exact .inr runs
  clean := steady.clean

theorem next_of_drop {r idx scenario rest}
    (queued : ((List.range intents.length).zip intents).drop r = (idx, scenario) :: rest) :
    idx = r ∧ intents[r]? = some scenario ∧
      rest = ((List.range intents.length).zip intents).drop (r + 1) := by
  have first : ((List.range intents.length).zip intents)[r]? = some (idx, scenario) := by
    have head : (((List.range intents.length).zip intents).drop r)[0]? = some (idx, scenario) := by
      rw [queued, List.getElem?_cons_zero]
    rwa [List.getElem?_drop, Nat.add_zero] at head
  obtain ⟨index, found⟩ := List.getElem?_zip_eq_some.mp first
  have inside : r < intents.length := (List.getElem?_eq_some_iff.mp found).1
  rw [List.getElem?_range inside] at index
  refine ⟨(Option.some.inj index).symm, found, ?_⟩
  rw [← List.tail_drop, queued, List.tail_cons]

theorem Steady.dequeue {w : Fin k} {worker : PoolWorker α} {idx : Nat} {scenario : α}
    {rest : List (Nat × α)} (queued : p.queue = (idx, scenario) :: rest)
    (steady : Steady outcome intents (p.withWorker w { worker with phase := .unstarted })) :
    Steady outcome intents
      { (p.withWorker w { worker with phase := .running idx scenario }) with
        queue := rest
        ran := p.ran ++ [(w, idx)] } := by
  have next : ((List.range intents.length).zip intents).drop p.ran.length = (idx, scenario) :: rest :=
    steady.dequeued.symm.trans queued
  obtain ⟨rfl, found, left⟩ := next_of_drop next
  have inside : p.ran.length < intents.length := (List.getElem?_eq_some_iff.mp found).1
  have own := steady.works w
  simp only [withWorker_self] at own
  constructor
  case dequeued => simpa using left
  case order =>
    have order : p.ran.map Prod.snd = List.range p.ran.length := steady.order
    simp [order, List.range_succ]
  case within =>
    rw [List.length_append, List.length_singleton]
    exact inside
  case slots => exact steady.slots
  case clean => exact steady.clean
  case works =>
    apply (Function.forall_update_iff p.workers (Works intents rest (p.ran ++ [(w, p.ran.length)]))).mpr
    constructor
    · exact
        { alive := own.alive
          runs := by
            intro idx other runs
            cases runs
            exact found
          restarts := by
            have owes : worker.respawns + 0 ≤ p.ran.countP (·.1 = w) := own.restarts
            simpa using owes
          drained := fun finished => by cases finished }
    · intro v apart
      have other := steady.works v
      rw [p.withWorker_other _ apart] at other
      exact
        { alive := other.alive
          runs := other.runs
          restarts := other.restarts.trans (by simp)
          drained := fun finished => by
            have empty : p.queue = [] := other.drained finished
            rw [queued] at empty
            cases empty }
  case written =>
    intro j other early found'
    rw [List.length_append, List.length_singleton] at early
    by_cases last : j = p.ran.length
    · subst last
      rw [found] at found'
      cases found'
      exact .inr ⟨w, by simp⟩
    · cases steady.written j other (by simp only [withWorker_ran]; omega) found' with
      | inl right => exact .inl right
      | inr runs =>
        obtain ⟨v, runs⟩ := runs
        by_cases same : v = w
        · subst same
          rw [withWorker_self] at runs
          cases runs
        · rw [p.withWorker_other _ same] at runs
          exact .inr ⟨v, by simpa [p.withWorker_other _ same] using runs⟩

theorem Steady.loop {w : Fin k} {worker : PoolWorker α}
    (steady : Steady outcome intents (p.withWorker w { worker with phase := .unstarted })) :
    Steady outcome intents (p.loop skipped w worker false) := by
  have own := steady.works w
  rw [withWorker_self] at own
  obtain ⟨phase, respawns, dead⟩ := worker
  obtain rfl : dead = none := own.alive
  unfold ScenarioPool.loop
  split
  · rename_i empty
    rw [← p.withWorker_twice w { phase := .unstarted, respawns := respawns }]
    apply steady.withWorker
    · exact
        { alive := rfl
          runs := fun _ _ runs => by cases runs
          restarts := own.restarts
          drained := fun _ => empty }
    · intro idx scenario runs
      rw [withWorker_self] at runs
      cases runs
  · rename_i idx scenario rest queued
    exact steady.dequeue queued

theorem Steady.step (steady : Steady outcome intents p) (e : PoolEvent k)
    (undisturbed : p.Undisturbed e) :
    Steady outcome intents (p.step outcome skipped intents.length e).1 := by
  cases e with
  | start w late =>
    obtain rfl : late = false := undisturbed
    cases phase : (p.workers w).phase with
    | unstarted =>
      simp only [ScenarioPool.step, phase]
      apply Steady.loop
      rw [← phase, withWorker_same]
      exact steady
    | running | restarting | finished =>
      simp only [ScenarioPool.step, phase]
      exact steady
  | returned w late =>
    obtain rfl : late = false := undisturbed
    cases phase : (p.workers w).phase with
    | running idx scenario =>
      have own := steady.works w
      have owes := own.restarts
      rw [phase, owed_running] at owes
      have inside : idx < p.results.length := by
        rw [steady.slots]
        exact (List.getElem?_eq_some_iff.mp (own.runs idx scenario phase)).1
      have right : ∀ j other, (p.workers w).phase = .running j other →
          (p.results.set idx (some (outcome scenario).1))[j]? = some (some (outcome other).1) := by
        intro j other runs
        rw [phase] at runs
        cases runs
        simp [inside]
      simp only [ScenarioPool.step, phase]
      split
      · have few : (p.workers w).respawns < max 4 intents.length := by
          have ran : p.ran.countP (·.1 = w) ≤ p.ran.length := List.countP_le_length
          have within := steady.within
          omega
        rw [if_neg (Nat.not_le.mpr few)]
        apply (steady.write phase).withWorker _ right
        exact
          { alive := own.alive
            runs := fun _ _ runs => by cases runs
            restarts := owes
            drained := fun finished => by cases finished }
      · apply Steady.loop
        apply (steady.write phase).withWorker _ right
        exact
          { alive := own.alive
            runs := fun _ _ runs => by cases runs
            restarts := Nat.le_of_succ_le owes
            drained := fun finished => by cases finished }
    | unstarted | restarting | finished =>
      simp only [ScenarioPool.step, phase]
      exact steady
  | restarted w ok late =>
    obtain ⟨rfl, rfl⟩ : ok = true ∧ late = false := undisturbed
    cases phase : (p.workers w).phase with
    | restarting =>
      have own := steady.works w
      have owes := own.restarts
      rw [phase, owed_restarting] at owes
      simp only [ScenarioPool.step, phase, if_true]
      apply Steady.loop
      apply steady.withWorker
      · exact
          { alive := own.alive
            runs := fun _ _ runs => by cases runs
            restarts := owes
            drained := fun finished => by cases finished }
      · intro idx scenario runs
        rw [phase] at runs
        cases runs
    | unstarted | running | finished =>
      simp only [ScenarioPool.step, phase]
      exact steady

theorem Steady.all_ran (steady : Steady outcome intents p) (runtimes : 0 < k)
    (finished : p.Finished) : p.ran.length = intents.length := by
  have empty : p.queue = [] := (steady.works ⟨0, runtimes⟩).drained (finished _)
  have drained := steady.dequeued.symm.trans empty
  rw [List.drop_eq_nil_iff, List.length_zip, List.length_range, Nat.min_self] at drained
  exact Nat.le_antisymm steady.within drained

theorem Steady.all_written (steady : Steady outcome intents p) (runtimes : 0 < k)
    (finished : p.Finished) :
    p.results = intents.map fun scenario => some (outcome scenario).1 := by
  have ran := steady.all_ran runtimes finished
  apply List.ext_getElem?
  intro idx
  rw [List.getElem?_map]
  cases found : intents[idx]? with
  | none =>
    rw [List.getElem?_eq_none_iff, ← steady.slots] at found
    exact List.getElem?_eq_none_iff.mpr found
  | some scenario =>
    have inside : idx < p.ran.length := by
      rw [ran]
      exact (List.getElem?_eq_some_iff.mp found).1
    cases steady.written idx scenario inside found with
    | inl right => exact right
    | inr runs =>
      obtain ⟨w, runs⟩ := runs
      rw [finished w] at runs
      cases runs

theorem returned_of_all_written
    (written : p.results = intents.map fun scenario => some (outcome scenario).1) :
    p.returned = .ok (intents.map fun scenario => (outcome scenario).1) := by
  have none_missing :
      ((List.range p.results.length).filter fun i => (p.results[i]?.join).isNone) = [] := by
    rw [List.filter_eq_nil_iff]
    intro i inside
    have inside : i < intents.length := by simpa [written] using inside
    simp [written, inside]
  have all : (intents.map fun scenario => some (outcome scenario).1).reduceOption =
      intents.map fun scenario => (outcome scenario).1 := by
    change (intents.map fun scenario => some (outcome scenario).1).filterMap id = _
    simp [List.filterMap_map]
  unfold returned
  rw [if_pos none_missing, written, all]

theorem steady_of_reaches
    (reached : Reaches (step outcome skipped intents.length) Undisturbed (initial k intents) p) :
    Steady outcome intents p :=
  reached.invariant (Steady outcome intents) steady_initial fun _ e steady undisturbed =>
    steady.step skipped e undisturbed

theorem exists_awaits (waits : ¬ p.Finished) :
    ∃ e, p.Undisturbed e ∧ p.Awaits e := by
  obtain ⟨w, open_⟩ := not_forall.mp waits
  cases phase : (p.workers w).phase with
  | unstarted => exact ⟨.start w false, rfl, phase⟩
  | running idx scenario => exact ⟨.returned w false, rfl, idx, scenario, phase⟩
  | restarting => exact ⟨.restarted w true false, ⟨rfl, rfl⟩, phase⟩
  | finished => exact absurd phase open_

end

/-- Whatever the schedule, the pool runs every scenario once and returns what one runtime returns. -/
theorem concurrency_invisible (outcome : α → β × Bool) (skipped : α → String → β)
    (intents : List α) (runtimes : 0 < k) (p : ScenarioPool α β k)
    (reached : Reaches (step outcome skipped intents.length) Undisturbed (initial k intents) p) :
    (p.ran.map Prod.snd).Nodup ∧ p.zeroed = [] ∧ p.refused = 0 ∧
    (¬ p.Finished → ∃ e, p.Undisturbed e ∧ p.Awaits e) ∧
    (∀ e, p.Awaits e → (p.step outcome skipped intents.length e).1.remaining < p.remaining) ∧
    (p.Finished → p.ran.map Prod.snd = List.range intents.length ∧
      p.returned = .ok (intents.map fun scenario => (outcome scenario).1) ∧
      ∀ sequential : ScenarioPool α β 1,
        Reaches (step outcome skipped intents.length) Undisturbed (initial 1 intents) sequential →
          sequential.Finished → p.returned = sequential.returned) := by
  have steady := steady_of_reaches skipped reached
  refine ⟨?_, steady.clean.1, steady.clean.2, exists_awaits, p.remaining_step outcome skipped _, ?_⟩
  · rw [steady.order]
    exact List.nodup_range
  intro finished
  have whole := returned_of_all_written (steady.all_written runtimes finished)
  refine ⟨by rw [steady.order, steady.all_ran runtimes finished], whole, ?_⟩
  intro sequential reached alone
  have steady := steady_of_reaches skipped reached
  rw [whole, returned_of_all_written (steady.all_written Nat.one_pos alone)]

def crashingFirst (scenario : Nat) : Nat × Bool := (10 * scenario, scenario = 0)

def lateCrash : List (PoolEvent 2) :=
  [.start 0 false, .start 1 false, .returned 1 false, .returned 0 false, .returned 1 false,
    .restarted 0 true false]

theorem crash_keeps_places :
    (runEvents (step crashingFirst (fun _ _ => 0) 3) (initial 2 [0, 1, 2]) lateCrash).returned =
      .ok [0, 10, 20] := by
  have along :
      AllowedAlong (step crashingFirst (fun _ _ => 0) 3) Undisturbed (initial 2 [0, 1, 2]) lateCrash :=
    ⟨rfl, rfl, rfl, rfl, rfl, ⟨rfl, rfl⟩, trivial⟩
  have finished :
      (runEvents (step crashingFirst (fun _ _ => 0) 3) (initial 2 [0, 1, 2]) lateCrash).Finished
    | 0 => rfl
    | 1 => rfl
  have kept := concurrency_invisible crashingFirst (fun _ _ => 0) [0, 1, 2] Nat.two_pos _ along.reaches
  exact (kept.2.2.2.2.2 finished).2.1

end ScenarioPool

end MinotaurSubnet.Harness
