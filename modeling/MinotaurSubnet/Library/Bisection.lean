import MinotaurSubnet.Library.Fallible

/-! # Bisection with a fallible test

A search for the last point of an integer interval that passes a test, where the
test may raise. The test stands for a downward closed set: whenever it answers,
it answers membership.
-/

namespace MinotaurSubnet.Library

variable {ε : Type*}

/-- Keep `best` passing the test and narrow `[low, high]` to the points that
    could still beat it. -/
def bisectLast (test : ℤ → Except ε Bool) : ℕ → ℤ → ℤ → ℤ → Except ε ℤ
  | 0, best, _, _ => .ok best
  | fuel + 1, best, low, high =>
    if low ≤ high then do
      let mid := (low + high) / 2
      if ← test mid then bisectLast test fuel mid (mid + 1) high
      else bisectLast test fuel best low (mid - 1)
    else .ok best

/-- The passes a bisection of `[low, high]` can need. -/
def bisectFuel (low high : ℤ) : ℕ := (high + 1 - low).toNat

/-- What a bisection keeps true of the points outside the remaining interval. -/
structure Bracketed (P : ℤ → Prop) (best low high : ℤ) : Prop where
  passes : P best
  reached : low ≤ best + 1
  beyond : ∀ b, high < b → ¬ P b

section

variable {test : ℤ → Except ε Bool} {P : ℤ → Prop}

theorem Bracketed.raise {best low high mid} (kept : Bracketed P best low high) (passed : P mid) :
    Bracketed P mid (mid + 1) high where
  passes := passed
  reached := Int.le_refl _
  beyond := kept.beyond

theorem Bracketed.lower (closed : ∀ a b, a ≤ b → P b → P a) {best low high mid}
    (kept : Bracketed P best low high) (failed : ¬ P mid) : Bracketed P best low (mid - 1) where
  passes := kept.passes
  reached := kept.reached
  beyond := by
    intro b above passed
    exact failed (closed mid b (by omega) passed)

theorem Bracketed.last {best low high} (kept : Bracketed P best low high) (empty : high < low) :
    P best ∧ ∀ b, P b → b ≤ best := by
  refine ⟨kept.passes, ?_⟩
  intro b passed
  by_contra above
  have := kept.reached
  exact kept.beyond b (by omega) passed

theorem bisectLast_last (closed : ∀ a b, a ≤ b → P b → P a)
    (answers : ∀ b v, test b = .ok v → (v = true ↔ P b)) :
    ∀ (fuel : ℕ) (best low high result : ℤ), bisectFuel low high ≤ fuel →
      Bracketed P best low high → bisectLast test fuel best low high = .ok result →
      P result ∧ ∀ b, P b → b ≤ result := by
  intro fuel
  induction fuel with
  | zero =>
    intro best low high result enough kept ran
    cases ran
    exact kept.last (by unfold bisectFuel at enough; omega)
  | succ fuel ih =>
    intro best low high result enough kept ran
    unfold bisectFuel at enough
    unfold bisectLast at ran
    split at ran
    next nonempty =>
      obtain ⟨verdict, tested, ran⟩ := bind_eq_ok.mp ran
      have meaning := answers _ verdict tested
      cases verdict with
      | true =>
        refine ih _ _ _ result ?_ (kept.raise (meaning.mp rfl)) ran
        unfold bisectFuel
        omega
      | false =>
        have failed : ¬ P ((low + high) / 2) := fun passed => by
          cases meaning.mpr passed
        refine ih _ _ _ result ?_ (kept.lower closed failed) ran
        unfold bisectFuel
        omega
    next empty =>
      cases ran
      exact kept.last (by omega)

/-- Termination with an answer: the search raises only if the test does. -/
theorem bisectLast_returns :
    ∀ (fuel : ℕ) (best low high : ℤ), (∀ b, low ≤ b → b ≤ high → ∃ v, test b = .ok v) →
      ∃ result, bisectLast test fuel best low high = .ok result := by
  intro fuel
  induction fuel with
  | zero => exact fun best _ _ _ => ⟨best, rfl⟩
  | succ fuel ih =>
    intro best low high answered
    unfold bisectLast
    split
    next nonempty =>
      obtain ⟨verdict, tested⟩ := answered ((low + high) / 2) (by omega) (by omega)
      cases verdict with
      | true =>
        obtain ⟨result, ran⟩ := ih ((low + high) / 2) ((low + high) / 2 + 1) high
          fun b above below => answered b (by omega) below
        exact ⟨result, bind_eq_ok.mpr ⟨true, tested, ran⟩⟩
      | false =>
        obtain ⟨result, ran⟩ := ih best low ((low + high) / 2 - 1)
          fun b above below => answered b above (by omega)
        exact ⟨result, bind_eq_ok.mpr ⟨false, tested, ran⟩⟩
    next empty => exact ⟨best, rfl⟩

end

end MinotaurSubnet.Library
