import MinotaurSubnet.Harness.BuildBudgetSeniority

/-! # Idle units of the build budget

The dispatcher runs when a call of `acquire` queues and at every `release`, and stops only when
nobody may take a unit. The clock may open the newcomers' window later, and neither a wait-poll
nor a call that passes free runs the dispatcher again.
-/

namespace MinotaurSubnet.Harness

open Library

namespace RoundGate

variable {τ : Type}

/-- A free slot and a free unit are left idle only for newcomers whose units are spent, before
    their window opens. -/
def Conserves (env : Option String) (g : RoundGate τ) (now : ℚ) : Prop :=
  g.waiters ≠ [] → (g.inFlight.card : Int) < dispatchConcurrency env → g.totalCharged < g.budget →
    (∀ w ∈ g.waiters, w.proven = false) ∧ g.newcomerUnits ≤ g.newcomerCharged ∧
      g.spillToProvenOpen now = false

theorem Conserves.of_passes {env} {g g' : RoundGate τ} {now} (conserves : g.Conserves env now)
    (grown : g.Grows g') (queue : g'.waiters = g.waiters)
    (flight : g.inFlight.card ≤ g'.inFlight.card) :
    g'.Conserves env now := by
  intro waiting free left
  have newcomerUnits := congrArg RoundTerms.newcomerUnits grown.terms
  have budget := congrArg RoundTerms.budget grown.terms
  simp only [terms] at newcomerUnits budget
  have provens := grown.provens
  have spent := grown.newcomers
  rw [queue] at waiting ⊢
  have before : g.totalCharged < g.budget := by
    unfold totalCharged at left ⊢
    omega
  obtain ⟨newcomers, used, closed⟩ := conserves waiting (by omega) before
  exact ⟨newcomers, by omega, (spill_congr grown.terms now).trans closed⟩

section

variable [LinearOrder τ]

theorem newcomers_of_pickNext_none {g : RoundGate τ} {now} (stuck : g.pickNext now = none)
    (waiting : g.waiters ≠ []) (left : 0 < g.unitsLeft .proven ∨ 0 < g.unitsLeft .newcomer) :
    (∀ w ∈ g.waiters, w.proven = false) ∧ g.unitsLeft .newcomer ≤ 0 ∧
      g.spillToProvenOpen now = false := by
  unfold pickNext at stuck
  simp only at stuck
  have members (w : BuildWaiter τ) (inside : w ∈ g.waiters) :
      (w.proven = true → w ∈ g.pool (g.waiters.filter (·.proven))) ∧
        (w.proven = false → w ∈ g.pool (g.waiters.filter (!·.proven))) := by
    constructor
    · intro proven
      exact mem_pool.mpr (List.mem_filter.mpr ⟨inside, proven⟩)
    · intro newcomer
      exact mem_pool.mpr (List.mem_filter.mpr ⟨inside, by simp [newcomer]⟩)
  generalize g.pool (g.waiters.filter (·.proven)) = provenW at *
  generalize g.pool (g.waiters.filter (!·.proven)) = newcomerW at *
  unfold unitsLeft at *
  simp only at *
  split at stuck
  · cases stuck
  next unpicked =>
    rw [List.findSome?_eq_none_iff] at unpicked
    have provenNone : 0 < g.provenUnits - g.provenCharged → provenW = [] := by
      intro unit
      have own := unpicked .proven (by split <;> simp)
      simp only [if_pos unit] at own
      simpa using own
    have newcomerNone : 0 < g.newcomerUnits - g.newcomerCharged → newcomerW = [] := by
      intro unit
      have own := unpicked .newcomer (by split <;> simp)
      simp only [if_pos unit] at own
      simpa using own
    cases provenW with
    | cons w rest =>
      -- a proven waiter would take a unit of either pool
      have spent : ¬0 < g.provenUnits - g.provenCharged := fun unit => by cases provenNone unit
      have unit : 0 < g.newcomerUnits - g.newcomerCharged := left.resolve_left spent
      rw [newcomerNone unit] at stuck
      simp only [if_pos unit] at stuck
      cases stuck
    | nil =>
      have newcomers : ∀ w ∈ g.waiters, w.proven = false := by
        intro w inside
        by_contra proven
        exact absurd ((members w inside).1 (by simpa using proven)) List.not_mem_nil
      cases newcomerW with
      | nil =>
        obtain ⟨w, inside⟩ := List.exists_mem_of_ne_nil g.waiters waiting
        exact absurd ((members w inside).2 (newcomers w inside)) List.not_mem_nil
      | cons v rest =>
        have spent : ¬0 < g.newcomerUnits - g.newcomerCharged := fun unit => by cases newcomerNone unit
        have unit : 0 < g.provenUnits - g.provenCharged := left.resolve_right spent
        refine ⟨newcomers, not_lt.mp spent, ?_⟩
        by_contra opened
        have spills : 0 < g.provenUnits - g.provenCharged ∧ g.spillToProvenOpen now = true :=
          ⟨unit, by simpa using opened⟩
        simp only [if_pos spills] at stuck
        cases stuck

theorem conserves_dispatch {env} {g : RoundGate τ} {now} (unflushed : g.flushed = false)
    (units : 0 < g.budget → g.provenUnits + g.newcomerUnits = g.budget)
    (queue : g.budget ≤ 0 → g.waiters = []) : Conserves env (g.dispatch env now) now := by
  have grown := grows_dispatch g env now
  have run : g.dispatch env now = g.dispatchLoop (dispatchConcurrency env) now g.waiters.length := by
    unfold dispatch
    rw [if_neg (by simp [unflushed])]
  have stopped : (g.dispatch env now).waiters = [] ∨
      dispatchConcurrency env ≤ (g.dispatch env now).inFlight.card ∨
      (g.dispatch env now).budget ≤ (g.dispatch env now).totalCharged ∨
      (g.dispatch env now).pickNext now = none := by
    rw [run]
    exact dispatchLoop_stops g.waiters.length le_rfl
  intro waiting free left
  rcases stopped with empty | full | spent | stuck
  · exact absurd empty waiting
  · exact absurd free (not_lt.mpr full)
  · exact absurd left (not_lt.mpr spent)
  · have positive : 0 < g.budget := by
      by_contra unlimited
      have none := grown.waiters
      rw [queue (not_lt.mp unlimited)] at none
      exact waiting (List.sublist_nil.mp none)
    have provenUnits := congrArg RoundTerms.provenUnits grown.terms
    have newcomerUnits := congrArg RoundTerms.newcomerUnits grown.terms
    have budget := congrArg RoundTerms.budget grown.terms
    simp only [terms] at provenUnits newcomerUnits budget
    have all := units positive
    have some_left : 0 < (g.dispatch env now).unitsLeft .proven ∨
        0 < (g.dispatch env now).unitsLeft .newcomer := by
      simp only [unitsLeft, totalCharged] at left ⊢
      omega
    obtain ⟨newcomers, used, closed⟩ := newcomers_of_pickNext_none stuck waiting some_left
    simp only [unitsLeft] at used
    exact ⟨newcomers, by omega, closed⟩

end

end RoundGate

namespace WatchedGate

open RoundGate

variable {τ : Type}

def flightAfter (g : RoundGate τ) : OpenEvent → Finset String
  | .acquire a => insert a.submissionId g.inFlight
  | _ => g.inFlight

def spentAfter (g : RoundGate τ) : OpenEvent → Int
  | .acquire a => g.totalCharged + if a.submissionId ∈ g.chargedIds then 0 else 1
  | _ => g.totalCharged

variable {e : OpenEvent}

theorem after_of_passes {g g' : RoundGate τ} (passed : g.Passes g' e) (limited : 0 < g.budget) :
    g'.inFlight = flightAfter g e ∧ g'.totalCharged = spentAfter g e := by
  cases e with
  | acquire a => exact ⟨passed.flight a rfl limited, passed.total a rfl limited⟩
  | release id width now =>
    have still : g' = g := passed.still nofun
    rw [still]
    exact ⟨rfl, rfl⟩
  | poll call now =>
    have still : g' = g := passed.still nofun
    rw [still]
    exact ⟨rfl, rfl⟩

theorem card_flightAfter_ge (g : RoundGate τ) (e : OpenEvent) : g.inFlight.card ≤ (flightAfter g e).card := by
  cases e with
  | acquire a => exact Finset.card_le_card (Finset.subset_insert _ _)
  | release id width now => exact le_rfl
  | poll call now => exact le_rfl

variable [LinearOrder τ] [Zero τ] {sha256Hex : String → String}

def OpenedSince (s : WatchedGate τ) (now : ℚ) : Prop :=
  s.gate.spillToProvenOpen s.dispatchedAt = false ∧ s.gate.spillToProvenOpen now = true

/-- The dispatcher reads this pacing width, and no wait-poll or free pass comes, while submissions
    wait for a free slot and a unit, after the window has opened and before the dispatcher ran again. -/
def Attended (sha256Hex : String → String) (env : Option String) (s : WatchedGate τ) (e : OpenEvent) : Prop :=
  match s.gate.dispatching sha256Hex e with
  | some (_, width) => width = env
  | none => s.gate.waiters ≠ [] → ((flightAfter s.gate e).card : Int) < dispatchConcurrency env →
      spentAfter s.gate e < s.gate.budget → ¬s.OpenedSince e.now

instance Attended.decidable (sha256Hex : String → String) (env : Option String) (s : WatchedGate τ)
    (e : OpenEvent) : Decidable (s.Attended sha256Hex env e) :=
  match runs : s.gate.dispatching sha256Hex e with
  | some (_, width) => decidable_of_iff (width = env) (by simp only [Attended, runs])
  | none => decidable_of_iff (s.gate.waiters ≠ [] →
      ((flightAfter s.gate e).card : Int) < dispatchConcurrency env →
        spentAfter s.gate e < s.gate.budget → ¬(s.gate.spillToProvenOpen s.dispatchedAt = false ∧
          s.gate.spillToProvenOpen e.now = true)) (by simp only [Attended, OpenedSince, runs])

/-- What the attended steps keep. -/
structure Serving (env : Option String) (fixed : RoundTerms τ) (s : WatchedGate τ) : Prop extends
    s.Kept fixed where
  queue : s.gate.budget ≤ 0 → s.gate.waiters = []
  dispatched : s.gate.Conserves env s.dispatchedAt
  conserved : s.gate.Conserves env s.now

theorem queue_dispatching {g d : RoundGate τ} {width}
    (runs : g.dispatching sha256Hex e = some (d, width)) (queue : g.budget ≤ 0 → g.waiters = []) :
    d.budget ≤ 0 → d.waiters = [] := by
  cases e with
  | acquire a =>
    simp only [dispatching, Option.ite_none_left_eq_some, Option.some.injEq, Prod.mk.injEq,
      not_or] at runs
    obtain ⟨⟨limited, _⟩, rfl, _⟩ := runs
    exact fun unlimited => absurd unlimited limited
  | release id env' now =>
    obtain ⟨rfl, _⟩ := Prod.mk.inj (Option.some.inj runs)
    exact queue
  | poll call now => cases runs

theorem Serving.dispatching {env width} {fixed : RoundTerms τ} {s : WatchedGate τ}
    (units : 0 < fixed.budget → fixed.provenUnits + fixed.newcomerUnits = fixed.budget)
    (serving : s.Serving env fixed) {d : RoundGate τ}
    (runs : s.gate.dispatching sha256Hex e = some (d, width)) :
    (d.dispatch width e.now).Conserves width e.now ∧
      ((d.dispatch width e.now).budget ≤ 0 → (d.dispatch width e.now).waiters = []) := by
  obtain ⟨sameTerms, sameFlush, _, _⟩ := terms_dispatching runs
  have queue := queue_dispatching runs serving.queue
  have grown := grows_dispatch d width e.now
  have known : d.terms = fixed := sameTerms.trans serving.terms
  constructor
  · apply conserves_dispatch (sameFlush.trans serving.unflushed) _ queue
    intro positive
    subst known
    exact units positive
  · intro unlimited
    have budget := congrArg RoundTerms.budget grown.terms
    simp only [RoundGate.terms] at budget
    have none := grown.waiters
    rw [queue (budget ▸ unlimited)] at none
    exact List.sublist_nil.mp none

theorem Serving.passing {env : Option String} {fixed : RoundTerms τ} {s : WatchedGate τ}
    (serving : s.Serving env fixed) {g : RoundGate τ} (passed : s.gate.Passes g e)
    (attended : s.gate.waiters ≠ [] → ((flightAfter s.gate e).card : Int) < dispatchConcurrency env →
      spentAfter s.gate e < s.gate.budget → ¬s.OpenedSince e.now) :
    g.Conserves env s.dispatchedAt ∧ g.Conserves env e.now := by
  have budget := congrArg RoundTerms.budget passed.terms
  simp only [RoundGate.terms] at budget
  by_cases limited : 0 < s.gate.budget
  · obtain ⟨flight, spent⟩ := after_of_passes passed limited
    have before := serving.dispatched.of_passes passed.toGrows passed.queue
      (flight ▸ card_flightAfter_ge s.gate e)
    constructor
    · exact before
    · intro waiting free left
      obtain ⟨newcomers, used, closed⟩ := before waiting free left
      have unopened := attended (passed.queue ▸ waiting) (flight ▸ free) (by omega)
      refine ⟨newcomers, used, ?_⟩
      rw [spill_congr passed.terms] at closed ⊢
      by_contra opened
      exact unopened ⟨closed, by simpa using opened⟩
  · have empty : g.waiters = [] := passed.queue.trans (serving.queue (not_lt.mp limited))
    exact ⟨fun waiting => absurd empty waiting, fun waiting => absurd empty waiting⟩

theorem Serving.step {env} {fixed : RoundTerms τ} {s : WatchedGate τ}
    (units : 0 < fixed.budget → fixed.provenUnits + fixed.newcomerUnits = fixed.budget)
    (serving : s.Serving env fixed) (attended : s.Attended sha256Hex env e) :
    (step sha256Hex s e).1.Serving env fixed := by
  have kept : (WatchedGate.step sha256Hex s e).1.Kept fixed := serving.toKept.step e
  unfold Attended at attended
  unfold WatchedGate.step at kept ⊢
  simp only at kept ⊢
  cases runs : s.gate.dispatching sha256Hex e with
  | some run =>
    obtain ⟨d, width⟩ := run
    rw [runs] at attended
    simp only at attended
    subst attended
    obtain ⟨conserves, queue⟩ := serving.dispatching units runs
    rw [← step_of_dispatching runs] at conserves queue
    rw [runs] at kept
    exact { kept with queue, dispatched := conserves, conserved := conserves }
  | none =>
    rw [runs] at attended kept
    have passed := passes_of_not_dispatching serving.unflushed runs
    obtain ⟨dispatched, conserved⟩ := serving.passing passed attended
    have budget := congrArg RoundTerms.budget passed.terms
    simp only [RoundGate.terms] at budget
    exact
      { kept with
        queue := fun unlimited => passed.queue.trans (serving.queue (budget ▸ unlimited))
        dispatched
        conserved }

theorem serving_opened (env : Option String) (roundId : String) (touch : RoundTouch τ) :
    (opened roundId touch).Serving env (RoundGate.bootstrap roundId touch.budget touch.cfg).terms :=
  { kept_opened roundId touch with
    queue := fun _ => opened_waiters roundId touch
    dispatched := fun waiting => absurd (opened_waiters roundId touch) waiting
    conserved := fun waiting => absurd (opened_waiters roundId touch) waiting }

theorem units_bootstrap (roundId : String) (touch : RoundTouch τ) :
    0 < (RoundGate.bootstrap roundId touch.budget touch.cfg).budget →
      (RoundGate.bootstrap roundId touch.budget touch.cfg).provenUnits +
        (RoundGate.bootstrap roundId touch.budget touch.cfg).newcomerUnits =
          (RoundGate.bootstrap roundId touch.budget touch.cfg).budget := by
  intro positive
  change 0 < touch.budget at positive
  simp [RoundGate.bootstrap]
  omega

/-- No unit is left idle in a state that follows an `acquire`, a `release` or a wait-poll, as long as
    the steps are attended. -/
theorem idle_units_conserved (sha256Hex : String → String) (env : Option String) (roundId : String)
    (touch : RoundTouch τ) (s : WatchedGate τ)
    (reached : Reaches (step sha256Hex) (Attended sha256Hex env) (opened roundId touch) s) :
    s.gate.Conserves env s.now :=
  (reached.invariant (Serving env (RoundGate.bootstrap roundId touch.budget touch.cfg).terms)
    (serving_opened env roundId touch)
    fun _ _ serving attended => serving.step (units_bootstrap roundId touch) attended).conserved

def pollAfterOpening : List OpenEvent :=
  [.acquire { submissionId := "sub_c", hotkey := "C", now := 1010 },
    .acquire { submissionId := "sub_d", hotkey := "D", now := 1020 }, .release "sub_c" none 1100,
    .poll 1 1160]

theorem unit_idle_after_opening :
    ¬ ∀ (env : Option String) (roundId : String) (touch : RoundTouch ℕ) (s : WatchedGate ℕ),
        Reaches (step contestDigests) (fun s e => ∀ run ∈ s.gate.dispatching contestDigests e, run.2 = env)
          (opened roundId touch) s → s.gate.Conserves env s.now := by
  intro kept
  have reached : Reaches (step contestDigests)
      (fun s e => ∀ run ∈ s.gate.dispatching contestDigests e, run.2 = none)
      (opened "r1" ⟨3, twoProven, []⟩)
      (runEvents (step contestDigests) (opened "r1" ⟨3, twoProven, []⟩) pollAfterOpening) := by
    have along : AllowedAlong (step contestDigests)
        (fun s e => ∀ run ∈ s.gate.dispatching contestDigests e, run.2 = none)
        (opened "r1" ⟨3, twoProven, []⟩) pollAfterOpening := by decide +kernel
    exact along.reaches
  have conserves := kept none "r1" ⟨3, twoProven, []⟩ _ reached
  have closed := (conserves (by decide +kernel) (by decide +kernel) (by decide +kernel)).2.2
  revert closed
  decide +kernel

/-- A release after the opening hands the unit out, and a later wait-poll finds nothing idle. -/
theorem unit_handed_out_after_opening :
    (runEvents (step contestDigests) (opened "r1" ⟨3, twoProven, []⟩)
      [.acquire { submissionId := "sub_c", hotkey := "C", now := 1010 },
        .acquire { submissionId := "sub_d", hotkey := "D", now := 1020 }, .release "sub_c" none 1160,
        .poll 1 1170]).gate.Conserves none 1170 := by
  have along : AllowedAlong (step contestDigests) (Attended contestDigests none)
      (opened "r1" ⟨3, twoProven, []⟩)
      [.acquire { submissionId := "sub_c", hotkey := "C", now := 1010 },
        .acquire { submissionId := "sub_d", hotkey := "D", now := 1020 }, .release "sub_c" none 1160,
        .poll 1 1170] := by decide +kernel
  exact idle_units_conserved contestDigests none "r1" ⟨3, twoProven, []⟩ _ along.reaches

end WatchedGate

end MinotaurSubnet.Harness
