import MinotaurSubnet.Harness.BuildBudget
import MinotaurSubnet.Harness.RotationFairness

/-! # The books of the build budget

The gate counts units by submission, but a unit is spent by every waiter that is granted, and a
build is in flight until the first release of its submission. As long as a submission has one
call at a time, the counters are the granted submissions, across restarts, and a dispatch never
overfills the builds.
-/

namespace MinotaurSubnet.Harness

open Library

namespace RoundGate

variable {τ : Type} {b : Int}

section

theorem nodup_snoc {ids : List String} {id} (fresh : id ∉ ids) (distinct : ids.Nodup) :
    (ids ++ [id]).Nodup := by
  rw [← List.concat_eq_append]
  exact distinct.concat fresh

theorem toFinset_snoc (ids : List String) (id : String) :
    (ids ++ [id]).toFinset = insert id ids.toFinset := by
  ext x
  simp

theorem not_mem_eraseP_same {waiters : List (BuildWaiter τ)} {w : BuildWaiter τ}
    (distinct : (waiters.map BuildWaiter.submissionId).Nodup) (member : w ∈ waiters) :
    ∀ v ∈ waiters.eraseP w.same, v.submissionId ≠ w.submissionId := by
  induction waiters with
  | nil => cases member
  | cons x rest ih =>
    rw [List.map_cons, List.nodup_cons] at distinct
    by_cases hit : w.same x = true
    · rw [List.eraseP_cons_of_pos hit]
      have own : x.submissionId = w.submissionId := by
        simp only [BuildWaiter.same, Bool.and_eq_true, beq_iff_eq] at hit
        exact hit.2
      intro v later same
      exact distinct.1 (own ▸ same ▸ List.mem_map_of_mem later)
    · have behind : w ∈ rest := by
        cases List.mem_cons.mp member with
        | inl same =>
          subst same
          exact absurd (by simp [BuildWaiter.same]) hit
        | inr behind => exact behind
      rw [List.eraseP_cons_of_neg hit]
      intro v left
      cases List.mem_cons.mp left with
      | inl same =>
        subst same
        intro shared
        exact distinct.1 (shared ▸ List.mem_map_of_mem behind)
      | inr left => exact ih distinct.2 behind v left

structure Books (g : RoundGate τ) : Prop where
  once : g.charges.Nodup
  charged : g.chargedIds = g.charges.toFinset
  total : g.totalCharged = g.charges.length

theorem totalCharged_spend (g : RoundGate τ) (id actor : String) (pool : BuildPool) :
    (g.spend id actor pool).totalCharged = g.totalCharged + 1 := by
  cases pool <;> simp [totalCharged, spend] <;> omega

variable {g : RoundGate τ}

theorem Books.spend (books : g.Books) {id} (fresh : id ∉ g.chargedIds) (actor : String)
    (pool : BuildPool) : (g.spend id actor pool).Books where
  once := by
    rw [books.charged, List.mem_toFinset] at fresh
    exact nodup_snoc fresh books.once
  charged := by
    rw [RoundGate.spend, books.charged, toFinset_snoc]
  total := by
    rw [totalCharged_spend, books.total]
    simp [RoundGate.spend]

theorem Books.card (books : g.Books) : g.totalCharged = g.chargedIds.card := by
  rw [books.total, books.charged, List.toFinset_card_of_nodup books.once]

/-- What the steps keep while every submission has one call at a time. -/
structure Steady (b : Int) (g : RoundGate τ) : Prop extends g.Books where
  width : g.budget = b
  waiting : (g.waiters.map BuildWaiter.submissionId).Nodup
  uncharged : ∀ w ∈ g.waiters, w.submissionId ∉ g.chargedIds
  granted : g.chargedIds = g.granted.toFinset
  within : g.totalCharged ≤ b
  single : g.building.Nodup
  flight : g.inFlight = g.building.toFinset
  spent : g.inFlight ⊆ g.chargedIds
  paced : ∀ entry ∈ g.paced, (entry.1 : Int) ≤ entry.2

theorem Steady.answer (steady : g.Steady b) (call : Nat) (outcome : BuildGrant) :
    (g.answer call outcome).Steady b := { steady with }

theorem Steady.withWaiters (steady : g.Steady b) {waiters} (fewer : waiters.Sublist g.waiters) :
    { g with waiters }.Steady b :=
  { steady with
    waiting := steady.waiting.sublist (fewer.map _)
    uncharged := fun w member => steady.uncharged w (fewer.subset member) }

theorem Steady.card_inFlight (steady : g.Steady b) :
    g.inFlight.card = g.building.length := by
  rw [steady.flight, List.toFinset_card_of_nodup steady.single]

theorem Steady.beginBuild (steady : g.Steady b) {id} (charged : id ∈ g.chargedIds)
    (idle : id ∉ g.building) : (g.beginBuild id).Steady b :=
  { steady with
    granted := by
      rw [RoundGate.beginBuild, toFinset_snoc, ← steady.granted, Finset.insert_eq_of_mem charged]
    single := nodup_snoc idle steady.single
    flight := by rw [RoundGate.beginBuild, toFinset_snoc, steady.flight]
    spent := by
      intro x builds
      cases Finset.mem_insert.mp builds with
      | inl new => exact new ▸ charged
      | inr old => exact steady.spent old }

theorem Steady.spendAndBuild (steady : g.Steady b) {id} (fresh : id ∉ g.chargedIds)
    (unqueued : ∀ w ∈ g.waiters, w.submissionId ≠ id) (room : g.totalCharged < b) (actor : String)
    (pool : BuildPool) :
    ((g.spend id actor pool).beginBuild id).Steady b := by
  have idle : id ∉ g.building := by
    intro builds
    rw [← List.mem_toFinset, ← steady.flight] at builds
    exact fresh (steady.spent builds)
  exact
    { steady.toBooks.spend fresh actor pool with
      width := steady.width
      waiting := steady.waiting
      uncharged := by
        intro w member charged
        cases Finset.mem_insert.mp charged with
        | inl new => exact unqueued w member new
        | inr old => exact steady.uncharged w member old
      granted := by rw [RoundGate.beginBuild, RoundGate.spend, toFinset_snoc, steady.granted]
      within := by
        change (g.spend id actor pool).totalCharged ≤ b
        rw [totalCharged_spend]
        omega
      single := nodup_snoc idle steady.single
      flight := by rw [RoundGate.beginBuild, RoundGate.spend, toFinset_snoc, steady.flight]
      spent := Finset.insert_subset_insert id steady.spent
      paced := steady.paced }

theorem Steady.grant (steady : g.Steady b) {w} (member : w ∈ g.waiters) {concurrency}
    (width : (g.inFlight.card : Int) < concurrency) (room : g.totalCharged < b) (pool : BuildPool) :
    (g.grant concurrency w pool).Steady b := by
  have left := steady.withWaiters (List.eraseP_sublist (p := w.same) (l := g.waiters))
  have built := left.spendAndBuild (steady.uncharged w member)
    (not_mem_eraseP_same steady.waiting member) room w.actor pool
  refine { built with paced := ?_ }
  intro entry dispatched
  cases List.mem_append.mp dispatched with
  | inl old => exact steady.paced entry old
  | inr new =>
    obtain rfl := List.mem_singleton.mp new
    rw [steady.card_inFlight] at width
    simp [RoundGate.beginBuild, RoundGate.spend]
    omega

theorem Steady.poll (steady : g.Steady b) (call : Nat) (roundIsOpen : Bool) :
    (g.poll call roundIsOpen).Steady b := by
  unfold RoundGate.poll
  split
  next => exact steady
  next w _ =>
    split
    · exact (steady.withWaiters (List.eraseP_sublist (p := w.same))).answer call _
    · exact steady

/-- What the budget is to guarantee. -/
structure Accounts (b : Int) (g : RoundGate τ) : Prop where
  total : g.totalCharged = g.granted.toFinset.card
  once : ∀ id ∈ g.granted, g.charges.count id = 1
  only : ∀ id ∈ g.charges, id ∈ g.granted
  within : (g.granted.toFinset.card : Int) ≤ b
  paced : ∀ entry ∈ g.paced, (entry.1 : Int) ≤ entry.2

theorem Steady.accounts (steady : g.Steady b) : g.Accounts b := by
  have total : g.totalCharged = g.granted.toFinset.card := by
    rw [steady.toBooks.card, steady.granted]
  have same : ∀ id, id ∈ g.charges ↔ id ∈ g.granted := by
    intro id
    rw [← List.mem_toFinset, ← steady.charged, steady.granted, List.mem_toFinset]
  exact
    { total
      once := fun id known => List.count_eq_one_of_mem steady.once ((same id).mpr known)
      only := fun id charged => (same id).mp charged
      within := total ▸ steady.within
      paced := steady.paced }

end

section

variable [LinearOrder τ]

variable {g : RoundGate τ}

theorem mem_pool {waiters w} :
    w ∈ g.pool waiters ↔ w ∈ waiters := by
  unfold pool
  cases g.actorOf with
  | none => exact mem_sortedBy
  | some _ => exact mem_sortedBy

theorem mem_of_mem_pool {p : BuildWaiter τ → Bool} {w} (member : w ∈ g.pool (g.waiters.filter p)) :
    w ∈ g.waiters :=
  (List.mem_filter.mp (mem_pool.mp member)).1

theorem mem_of_pickNext {now w pool} (picked : g.pickNext now = some (w, pool)) :
    w ∈ g.waiters := by
  unfold pickNext at picked
  simp only at picked
  split at picked
  next found =>
    cases picked
    obtain ⟨own, _, head⟩ := List.exists_of_findSome?_eq_some found
    cases own with
    | proven =>
      simp only [Option.ite_none_right_eq_some, Option.map_eq_some_iff, Prod.mk.injEq] at head
      obtain ⟨_, v, first, rfl, _⟩ := head
      exact mem_of_mem_pool (List.mem_of_mem_head? first)
    | newcomer =>
      simp only [Option.ite_none_right_eq_some, Option.map_eq_some_iff, Prod.mk.injEq] at head
      obtain ⟨_, v, first, rfl, _⟩ := head
      exact mem_of_mem_pool (List.mem_of_mem_head? first)
  next =>
    split at picked
    next v _ proven _ =>
      simp only [Option.ite_none_right_eq_some, Option.some.injEq, Prod.mk.injEq] at picked
      obtain ⟨_, rfl, _⟩ := picked
      exact mem_of_mem_pool (proven ▸ List.mem_cons_self)
    next v _ _ newcomers =>
      simp only [Option.ite_none_right_eq_some, Option.some.injEq, Prod.mk.injEq] at picked
      obtain ⟨_, rfl, _⟩ := picked
      exact mem_of_mem_pool (newcomers ▸ List.mem_cons_self)
    next => cases picked

theorem dispatchLoop_stops {concurrency now} (rounds : Nat) (enough : g.waiters.length ≤ rounds) :
    let stopped := g.dispatchLoop concurrency now rounds
    stopped.waiters = [] ∨ concurrency ≤ stopped.inFlight.card ∨
      stopped.budget ≤ stopped.totalCharged ∨ stopped.pickNext now = none := by
  induction rounds generalizing g with
  | zero => exact .inl (List.length_eq_zero_iff.mp (Nat.le_zero.mp enough))
  | succ rounds ih =>
    unfold RoundGate.dispatchLoop
    simp only
    split
    next =>
      split
      next stuck => exact .inr (.inr (.inr stuck))
      next w pool picked =>
        apply ih
        have gone : (g.waiters.eraseP w.same).length = g.waiters.length - 1 :=
          List.length_eraseP_of_mem (mem_of_pickNext picked) (by simp [BuildWaiter.same])
        change (g.waiters.eraseP w.same).length ≤ rounds
        omega
    next blocked =>
      by_cases empty : g.waiters = []
      · exact .inl empty
      by_cases full : (g.inFlight.card : Int) < concurrency
      · exact .inr (.inr (.inl (not_lt.mp fun room => blocked ⟨empty, full, room⟩)))
      · exact .inr (.inl (not_lt.mp full))

theorem Steady.dispatchLoop {concurrency now} (rounds : Nat) (steady : g.Steady b) :
    (g.dispatchLoop concurrency now rounds).Steady b := by
  induction rounds generalizing g with
  | zero => exact steady
  | succ rounds ih =>
    unfold RoundGate.dispatchLoop
    split
    next free =>
      split
      next => exact steady
      next w pool picked =>
        apply ih
        exact steady.grant (mem_of_pickNext picked) free.2.1 (steady.width ▸ free.2.2) pool
    next => exact steady

theorem Steady.dispatch (steady : g.Steady b) (env : Option String) (now : ℚ) :
    (g.dispatch env now).Steady b := by
  unfold RoundGate.dispatch
  split
  · exact steady
  · exact steady.dispatchLoop g.waiters.length

theorem Steady.release (steady : g.Steady b) (id : String) (env : Option String) (now : ℚ) :
    (g.release id env now).Steady b := by
  apply Steady.dispatch
  exact
    { steady with
      single := steady.single.erase id
      flight := by
        ext x
        simp [steady.flight, steady.single.mem_erase_iff]
      spent := (Finset.erase_subset id g.inFlight).trans steady.spent }

theorem Steady.flushRound (steady : g.Steady b) (lands : Nat → Bool) :
    (g.flushRound lands).1.Steady b :=
  { steady.withWaiters (List.nil_sublist g.waiters) with }

end

section

variable [LinearOrder τ] [Zero τ] {sha256Hex : String → String}

structure Single (g : RoundGate τ) (a : AcquireCall) : Prop where
  unqueued : ∀ w ∈ g.waiters, w.submissionId ≠ a.submissionId
  idle : a.submissionId ∉ g.building
  prior : a.priorAttempt → a.submissionId ∈ g.granted

theorem Steady.acquire {g : RoundGate τ} (steady : g.Steady b) (positive : 0 < b) {a}
    (single : g.Single a) : (g.acquire sha256Hex a).Steady b := by
  have called : { g with nextCall := g.nextCall + 1 }.Steady b := { steady with }
  unfold RoundGate.acquire
  simp only
  rw [if_neg (by rw [steady.width]; omega)]
  by_cases charged : a.submissionId ∈ g.chargedIds
  · rw [if_pos (.inr charged), if_pos charged]
    exact (called.beginBuild charged single.idle).answer g.nextCall _
  have fresh : ¬ (a.priorAttempt = true ∨ a.submissionId ∈ g.chargedIds) := by
    rintro (flag | known)
    · have before := single.prior flag
      rw [← List.mem_toFinset, ← steady.granted] at before
      exact charged before
    · exact charged known
  rw [if_neg fresh]
  split
  next =>
    split
    next room =>
      have spent := called.spendAndBuild charged single.unqueued (steady.width ▸ room)
      exact (spent _ _).answer g.nextCall _
    next => exact called.answer g.nextCall _
  next =>
    apply Steady.dispatch
    refine { called with waiting := ?_, uncharged := ?_ }
    · rw [List.map_append, List.map_singleton]
      apply nodup_snoc _ steady.waiting
      intro queued
      obtain ⟨w, member, same⟩ := List.mem_map.mp queued
      exact single.unqueued w member same
    · intro w member
      cases List.mem_append.mp member with
      | inl old => exact steady.uncharged w old
      | inr new =>
        obtain rfl := List.mem_singleton.mp new
        exact charged

/-- What the loop over the prior attempts does: it charges, and touches nothing else. -/
structure Rebuilt (g g' : RoundGate τ) (ids : List String) : Prop extends g'.Books where
  width : g'.budget = g.budget
  waiters : g'.waiters = g.waiters
  inFlight : g'.inFlight = g.inFlight
  building : g'.building = g.building
  granted : g'.granted = g.granted
  paced : g'.paced = g.paced
  all : g'.chargedIds = g.chargedIds ∪ ids.toFinset

theorem Books.rebuild {g : RoundGate τ} (books : g.Books) (priorAttempts : List (String × String)) :
    g.Rebuilt (g.rebuild priorAttempts) (priorAttempts.map Prod.fst) := by
  unfold RoundGate.rebuild
  induction priorAttempts using List.reverseRecOn with
  | nil =>
    exact
      { books with
        width := rfl
        waiters := rfl
        inFlight := rfl
        building := rfl
        granted := rfl
        paced := rfl
        all := by simp }
  | append_singleton rest attempt ih =>
    rw [List.foldl_append, List.foldl_cons, List.foldl_nil, List.map_append, List.map_singleton]
    split
    next known =>
      refine { ih with all := ?_ }
      rw [toFinset_snoc, Finset.union_insert, ← ih.all, Finset.insert_eq_of_mem known]
    next fresh =>
      exact
        { ih.toBooks.spend fresh _ _ with
          width := ih.width
          waiters := ih.waiters
          inFlight := ih.inFlight
          building := ih.building
          granted := ih.granted
          paced := ih.paced
          all := by rw [toFinset_snoc, Finset.union_insert, ← ih.all]; rfl }

theorem books_bootstrap (roundId : String) (cfg : GateConfig τ) (nextCall : Nat)
    (granted : List String) :
    { bootstrap roundId b cfg with nextCall, granted }.Books where
  once := List.nodup_nil
  charged := rfl
  total := rfl

theorem Steady.ensureRound {g : RoundGate τ} (steady : g.Steady b) (cfg : GateConfig τ)
    {priorAttempts : List (String × String)}
    (complete : ∀ id, id ∈ priorAttempts.map Prod.fst ↔ id ∈ g.granted) :
    (g.ensureRound cfg priorAttempts).Steady b := by
  have rebuilt :=
    (books_bootstrap (b := g.budget) g.roundId cfg g.nextCall g.granted).rebuild priorAttempts
  have same : (g.ensureRound cfg priorAttempts).chargedIds = g.granted.toFinset := by
    refine rebuilt.all.trans ?_
    ext x
    rw [Finset.mem_union, List.mem_toFinset, List.mem_toFinset, complete]
    simp [bootstrap]
  exact
    { rebuilt.toBooks with
      width := rebuilt.width.trans steady.width
      waiting := by rw [RoundGate.ensureRound, rebuilt.waiters]; exact List.nodup_nil
      uncharged := by
        intro w member
        rw [RoundGate.ensureRound, rebuilt.waiters] at member
        cases member
      granted := by rw [same, RoundGate.ensureRound, rebuilt.granted]
      within := by
        have before := steady.within
        rw [steady.toBooks.card, steady.granted] at before
        have after := rebuilt.toBooks.card
        change (g.ensureRound cfg priorAttempts).totalCharged = _ at after
        rw [after]
        change ((g.ensureRound cfg priorAttempts).chargedIds.card : Int) ≤ b
        rw [same]
        exact before
      single := by rw [RoundGate.ensureRound, rebuilt.building]; exact List.nodup_nil
      flight := by rw [RoundGate.ensureRound, rebuilt.inFlight, rebuilt.building]; rfl
      spent := by rw [RoundGate.ensureRound, rebuilt.inFlight]; exact Finset.empty_subset _
      paced := by
        intro entry member
        rw [RoundGate.ensureRound, rebuilt.paced] at member
        cases member }

def Truthful (g : RoundGate τ) : GateEvent τ → Prop
  | .acquire a => a.priorAttempt → a.submissionId ∈ g.granted
  | .restart _ priorAttempts => ∀ id, id ∈ priorAttempts.map Prod.fst ↔ id ∈ g.granted
  | _ => True

/-- Besides, a submission asks for a build only when it neither waits nor builds. -/
def OneCall (g : RoundGate τ) : GateEvent τ → Prop
  | .acquire a => g.Single a
  | e => g.Truthful e

theorem Steady.step {g : RoundGate τ} (steady : g.Steady b) (positive : 0 < b) (e : GateEvent τ)
    (allowed : g.OneCall e) : (g.step sha256Hex e).1.Steady b := by
  cases e with
  | acquire a => exact steady.acquire positive allowed
  | poll call roundIsOpen => exact steady.poll call roundIsOpen
  | release id env now => exact steady.release id env now
  | flushRound lands => exact steady.flushRound lands
  | restart cfg priorAttempts => exact steady.ensureRound cfg allowed

theorem steady_bootstrap (roundId : String) (positive : 0 < b) (cfg : GateConfig τ) :
    (bootstrap roundId b cfg).Steady b :=
  { books_bootstrap (b := b) roundId cfg 0 [] with
    width := rfl
    waiting := List.nodup_nil
    uncharged := fun _ member => by cases member
    granted := rfl
    within := positive.le
    single := List.nodup_nil
    flight := rfl
    spent := Finset.Subset.refl _
    paced := fun _ member => by cases member }

/-- With one call a submission at a time, the books are right in every state of every run, over
    all restarts. -/
theorem accounts_kept (sha256Hex : String → String) (roundId : String) (positive : 0 < b)
    (cfg : GateConfig τ) (g : RoundGate τ)
    (reached : Reaches (step sha256Hex) OneCall (bootstrap roundId b cfg) g) : g.Accounts b :=
  (reached.invariant (Steady b) (steady_bootstrap roundId positive cfg)
    fun _ e steady allowed => steady.step positive e allowed).accounts

end

def twoProven : GateConfig ℕ where
  roundedShare := 2
  openedAt := 1000
  openSeconds := 300
  spillAfterFraction := 1 / 2
  ledger := (Dict.empty.set "A" 100).set "B" 200
  actorOf := none

def doubleAsk : List (GateEvent ℕ) :=
  [.acquire { submissionId := "sub_x", hotkey := "A" },
    .acquire { submissionId := "sub_y", hotkey := "B" },
    .acquire { submissionId := "sub_y", hotkey := "B" }, .release "sub_x" none 1100,
    .release "sub_y" none 1200]

theorem double_ask_charged_twice :
    ¬ ∀ (b : Int) (roundId : String) (cfg : GateConfig ℕ) (g : RoundGate ℕ), 0 < b →
        Reaches (step contestDigests) Truthful (bootstrap roundId b cfg) g → g.Accounts b := by
  intro kept
  have along : AllowedAlong (step contestDigests) Truthful (bootstrap "r1" 3 twoProven) doubleAsk :=
    ⟨nofun, nofun, nofun, trivial, trivial, trivial⟩
  have accounts := kept 3 "r1" twoProven _ (by decide) along.reaches
  have total := accounts.total
  revert total
  decide +kernel

def restartedMidBuild : List (GateEvent ℕ) :=
  [.acquire { submissionId := "sub_x", hotkey := "A" },
    .acquire { submissionId := "sub_y", hotkey := "B" },
    .release "sub_x" none 1100, .restart twoProven [("sub_y", "B"), ("sub_x", "A")],
    .acquire { submissionId := "sub_x", hotkey := "A", priorAttempt := true }]

theorem restart_not_double_charged :
    (runEvents (step contestDigests) (bootstrap "r1" 2 twoProven) restartedMidBuild).Accounts 2 := by
  have along : AllowedAlong (step contestDigests) OneCall (bootstrap "r1" 2 twoProven)
      restartedMidBuild := by
    refine ⟨⟨by decide +kernel, by decide +kernel, nofun⟩,
      ⟨by decide +kernel, by decide +kernel, nofun⟩, trivial, ?_,
      ⟨by decide +kernel, by decide +kernel, fun _ => by decide +kernel⟩, trivial⟩
    intro id
    let before := runEvents (step contestDigests) (bootstrap "r1" 2 twoProven) (restartedMidBuild.take 3)
    have granted : before.granted = ["sub_x", "sub_y"] := by decide +kernel
    change id ∈ ["sub_y", "sub_x"] ↔ id ∈ before.granted
    rw [granted]
    simp [or_comm]
  exact accounts_kept contestDigests "r1" (by decide) twoProven _ along.reaches

end RoundGate

end MinotaurSubnet.Harness
