import MinotaurSubnet.Harness.ScenarioPoolRuns

/-! # Runtimes that die

A runtime whose restart fails scores the rest of the shared queue zero, although other runtimes
could still run it. When the queue is empty by then, the run is one in which the restart had
succeeded: the runtime had nothing more to do.
-/

namespace MinotaurSubnet.Harness

open Library

namespace ScenarioPool

variable {α β : Type*} {k : Nat}

def Alive (p : ScenarioPool α β k) (w : Fin k) : Prop := (p.workers w).dead = none

def InTime : PoolEvent k → Prop
  | .start _ late | .returned _ late | .restarted _ _ late => late = false

def FailsDrained (p : ScenarioPool α β k) : PoolEvent k → Prop
  | .restarted w ok late =>
    late = false ∧ ((p.workers w).phase = .restarting → ok = false → p.queue = [])
  | e => InTime e

/-- While a runtime is alive nothing is scored zero without a run, and every scenario of a finished
    pool has its own result. -/
def Isolated (outcome : α → β × Bool) (intents : List α) (p : ScenarioPool α β k) : Prop :=
  (∃ w, p.Alive w) → p.zeroed = [] ∧
    (p.Finished → p.returned = .ok (intents.map fun scenario => (outcome scenario).1))

def mend : PoolEvent k → PoolEvent k
  | .restarted w _ late => .restarted w true late
  | e => e

structure Mirrors (p q : ScenarioPool α β k) : Prop where
  queue : p.queue = q.queue
  results : p.results = q.results
  zeroed : p.zeroed = q.zeroed
  workers : ∀ w, p.workers w = q.workers w ∨
    (p.workers w).phase = .finished ∧ (q.workers w).phase = .finished

theorem Mirrors.refl (p : ScenarioPool α β k) : p.Mirrors p := ⟨rfl, rfl, rfl, fun _ => .inl rfl⟩

variable {p q : ScenarioPool α β k}

theorem Mirrors.withWorker (mirrors : p.Mirrors q) (w : Fin k) {worker worker' : PoolWorker α}
    (alike : worker = worker' ∨ worker.phase = .finished ∧ worker'.phase = .finished) :
    (p.withWorker w worker).Mirrors (q.withWorker w worker') where
  queue := mirrors.queue
  results := mirrors.results
  zeroed := mirrors.zeroed
  workers v := by
    by_cases same : v = w
    · subst same
      rw [withWorker_self, withWorker_self]
      exact alike
    · rw [p.withWorker_other worker same, q.withWorker_other worker' same]
      exact mirrors.workers v

section

variable (outcome : α → β × Bool) (skipped : α → String → β)

variable {p q : ScenarioPool α β k}

theorem Mirrors.loop (mirrors : p.Mirrors q) (w : Fin k) (worker : PoolWorker α) (late : Bool) :
    (p.loop skipped w worker late).Mirrors (q.loop skipped w worker late) := by
  unfold ScenarioPool.loop
  rw [mirrors.queue]
  split
  · exact mirrors.withWorker w (.inl rfl)
  · next idx scenario rest _ =>
    split
    · have next := mirrors.withWorker w (Or.inl (Eq.refl { worker with phase := .running idx scenario }))
      exact { next with queue := rfl }
    · apply Mirrors.withWorker _ w (.inl rfl)
      exact
        { queue := rfl
          results := by simp only [zeroFill, mirrors.queue, mirrors.results]
          zeroed := by simp only [zeroFill, mirrors.queue, mirrors.zeroed]
          workers := mirrors.workers }

theorem Mirrors.loop_drained (mirrors : p.Mirrors q) (drained : p.queue = []) (w : Fin k)
    (worker worker' : PoolWorker α) (late : Bool) :
    (p.loop skipped w worker late).Mirrors (q.loop skipped w worker' late) := by
  unfold ScenarioPool.loop
  rw [← mirrors.queue, drained]
  exact mirrors.withWorker w (.inr ⟨rfl, rfl⟩)

theorem Mirrors.step (mirrors : p.Mirrors q) (n : Nat) (e : PoolEvent k)
    (allowed : p.FailsDrained e) :
    (p.step outcome skipped n e).1.Mirrors (q.step outcome skipped n (mend e)).1 := by
  cases e with
  | start w late =>
    rcases mirrors.workers w with same | ⟨done, done'⟩
    · simp only [mend, ScenarioPool.step, same]
      split
      · exact mirrors.loop skipped w _ late
      · exact mirrors
    · simp only [mend, ScenarioPool.step, done, done']
      exact mirrors
  | returned w late =>
    rcases mirrors.workers w with same | ⟨done, done'⟩
    · simp only [mend, ScenarioPool.step, same]
      split
      · next idx scenario _ =>
        have written : ({ p with results := p.results.set idx (some (outcome scenario).1) } :
            ScenarioPool α β k).Mirrors
            { q with results := q.results.set idx (some (outcome scenario).1) } :=
          { mirrors with results := by simp only [mirrors.results] }
        split
        · split
          · have refused : ({ p with
                results := p.results.set idx (some (outcome scenario).1)
                refused := p.refused + 1 } : ScenarioPool α β k).Mirrors
                { q with
                  results := q.results.set idx (some (outcome scenario).1)
                  refused := q.refused + 1 } := { written with }
            exact refused.loop skipped w _ late
          · exact written.withWorker w (.inl rfl)
        · exact written.loop skipped w _ late
      · exact mirrors
    · simp only [mend, ScenarioPool.step, done, done']
      exact mirrors
  | restarted w ok late =>
    rcases mirrors.workers w with same | ⟨done, done'⟩
    · simp only [mend, ScenarioPool.step, same]
      split
      · next restarting =>
        cases ok with
        | true => exact mirrors.loop skipped w _ late
        | false =>
          have drained := allowed.2 (by rw [same]; exact restarting) rfl
          exact mirrors.loop_drained skipped drained w _ _ late
      · exact mirrors
    · simp only [mend, ScenarioPool.step, done, done']
      exact mirrors

theorem undisturbed_mend {e} (allowed : p.FailsDrained e) :
    q.Undisturbed (mend e) := by
  cases e with
  | start w late => exact allowed
  | returned w late => exact allowed
  | restarted w ok late => exact ⟨rfl, allowed.1⟩

variable {outcome skipped} {intents : List α}

theorem exists_undisturbed {p : ScenarioPool α β k}
    (reached : Reaches (step outcome skipped intents.length) FailsDrained (initial k intents) p) :
    ∃ q, Reaches (step outcome skipped intents.length) Undisturbed (initial k intents) q ∧ p.Mirrors q := by
  induction reached with
  | refl => exact ⟨_, .refl, .refl _⟩
  | next e _ allowed ih =>
    obtain ⟨q, reached, mirrors⟩ := ih
    exact ⟨_, .next (mend e) reached (undisturbed_mend allowed),
      mirrors.step outcome skipped intents.length e allowed⟩

end

theorem Mirrors.finished (mirrors : p.Mirrors q) (finished : p.Finished) :
    q.Finished := by
  intro w
  rcases mirrors.workers w with same | ⟨_, done⟩
  · rw [← same]
    exact finished w
  · exact done

theorem Mirrors.returned_eq (mirrors : p.Mirrors q) : p.returned = q.returned := by
  unfold returned
  rw [mirrors.results]

variable {outcome : α → β × Bool}

theorem Mirrors.alive {intents} (mirrors : p.Mirrors q) (steady : Steady outcome intents q)
    (waits : p.queue ≠ []) (w : Fin k) :
    p.Alive w := by
  rcases mirrors.workers w with same | ⟨_, done⟩
  · unfold Alive
    rw [same]
    exact (steady.works w).alive
  · exact absurd (mirrors.queue.trans ((steady.works w).drained done)) waits

theorem zeroed_of_failed {skipped : α → String → β} {n} {p : ScenarioPool α β k} {w}
    (restarting : (p.workers w).phase = .restarting) (waits : p.queue ≠ []) :
    (p.step outcome skipped n (.restarted w false false)).1.zeroed ≠ [] := by
  obtain ⟨item, rest, queued⟩ := List.exists_cons_of_ne_nil waits
  simp [step, restarting, loop, queued, zeroFill, withWorker]

theorem others_kept_of_failed {skipped : α → String → β} {n} {p : ScenarioPool α β k} {w v}
    (restarting : (p.workers w).phase = .restarting) (waits : p.queue ≠ []) (apart : v ≠ w) :
    (p.step outcome skipped n (.restarted w false false)).1.workers v = p.workers v := by
  obtain ⟨item, rest, queued⟩ := List.exists_cons_of_ne_nil waits
  simp [step, restarting, loop, queued, zeroFill, withWorker, Function.update_of_ne apart]

/-- A failed restart harms no other runtime's scenario exactly as long as the queue is empty then:
    in such runs every state isolates the failures, and the first failure with something left in the
    queue does not. -/
theorem failures_isolated (outcome : α → β × Bool) (skipped : α → String → β) (intents : List α)
    (two : 2 ≤ k) (p : ScenarioPool α β k)
    (reached : Reaches (step outcome skipped intents.length) FailsDrained (initial k intents) p) :
    p.Isolated outcome intents ∧
      ∀ w, (p.workers w).phase = .restarting → p.queue ≠ [] →
        ¬(p.step outcome skipped intents.length (.restarted w false false)).1.Isolated outcome intents := by
  obtain ⟨q, undisturbed, mirrors⟩ := exists_undisturbed reached
  have steady := steady_of_reaches skipped undisturbed
  constructor
  · intro _
    refine ⟨mirrors.zeroed.trans steady.clean.1, fun finished => ?_⟩
    rw [mirrors.returned_eq]
    exact returned_of_all_written (steady.all_written (by omega) (mirrors.finished finished))
  · intro w restarting waits isolated
    have : Nontrivial (Fin k) := Fin.nontrivial_iff_two_le.mpr two
    obtain ⟨v, apart⟩ := exists_ne w
    have living : (p.step outcome skipped intents.length (.restarted w false false)).1.Alive v := by
      unfold Alive
      rw [others_kept_of_failed restarting waits apart]
      exact mirrors.alive steady waits v
    exact zeroed_of_failed restarting waits (isolated ⟨v, living⟩).1

/-- The first worker's restart fails when the second has drained the queue. -/
theorem late_failure_isolated :
    (runEvents (step crashingFirst (fun _ _ => 0) 3) (initial 2 [0, 1, 2])
      [.start 0 false, .start 1 false, .returned 1 false, .returned 0 false, .returned 1 false,
        .restarted 0 false false]).Isolated crashingFirst [0, 1, 2] := by
  have along : AllowedAlong (step crashingFirst (fun _ _ => 0) 3) FailsDrained (initial 2 [0, 1, 2])
      [.start 0 false, .start 1 false, .returned 1 false, .returned 0 false, .returned 1 false,
        .restarted 0 false false] :=
    ⟨rfl, rfl, rfl, rfl, rfl, ⟨rfl, fun _ _ => rfl⟩, trivial⟩
  exact (failures_isolated crashingFirst (fun _ _ => 0) [0, 1, 2] le_rfl _ along.reaches).1

/-- It fails before the second worker has begun, and the other scenarios are scored zero. -/
theorem early_failure_zero_fills :
    ¬ ∀ (k : Nat) (outcome : Nat → Nat × Bool) (skipped : Nat → String → Nat) (intents : List Nat)
        (p : ScenarioPool Nat Nat k), 2 ≤ k →
        Reaches (step outcome skipped intents.length) (fun _ e => InTime e) (initial k intents) p →
          p.Isolated outcome intents := by
  intro kept
  have along : AllowedAlong (step crashingFirst (fun _ _ => 7) 3) (fun _ e => InTime e)
      (initial 2 [0, 1, 2]) [.start 0 false, .returned 0 false, .restarted 0 false false] :=
    ⟨rfl, rfl, rfl, trivial⟩
  have isolated := kept 2 crashingFirst (fun _ _ => 7) [0, 1, 2] _ le_rfl along.reaches
  have clean := (isolated ⟨1, rfl⟩).1
  revert clean
  decide

end ScenarioPool

end MinotaurSubnet.Harness
