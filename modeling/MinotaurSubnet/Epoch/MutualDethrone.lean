import MinotaurSubnet.Epoch.DeliverMore
import MinotaurSubnet.Epoch.TieBreaks

/-! # When two solvers dethrone each other

The noise band is measured on the champion's output, so swapping the roles does not swap
the two tests exactly: an order just above the smaller output's band is a win one way and
matched the other way. These one-sided orders are the whole difference, and two of them
are enough for a pair of solvers to adopt over each other.
-/

namespace MinotaurSubnet.Epoch

open Library

def Gasless (rows : List Row) : Prop :=
  ∀ row ∈ rows, row.gasBasis = .none ∧ row.gasMetered = .none

theorem Gasless.gasOf_eq {rows} (gasless : Gasless rows) (iid : String) :
    gasOf (lastRow rows iid) = .ok none := by
  cases found : lastRow rows iid with
  | none => rfl
  | some row =>
    have member : row ∈ rows := List.mem_reverse.mp (List.mem_of_find?_eq_some found)
    simp only [gasOf, (gasless row member).1]
    split
    · rfl
    · split <;> rfl

theorem Gasless.reads {rows} (gasless : Gasless rows) : GasReads rows :=
  fun iid => ⟨none, gasless.gasOf_eq iid⟩

theorem Gasless.gasAt_eq {rows} (gasless : Gasless rows) (iid : String) :
    gasAt rows iid = none := by
  rw [gasAt, gasless.gasOf_eq iid]

/-- The challenger wins the order, and with the roles swapped the order is matched. -/
def isOneSided (tolBps : Int) (champ chal : Option Int) : Bool :=
  isWin tolBps champ chal && isMatched tolBps chal champ

/-- The order survives a change of champion: it is neither dropped nor cut past
    the floor. -/
def isKept (tolBps : Int) (champ chal : Option Int) : Bool :=
  !isDropped champ chal && !isCatastrophic tolBps champ chal

variable {champ chal : Option Int}

theorem isWin_iff {tolBps} :
    isWin tolBps champ chal = true ↔
      ∃ v w, champ = some v ∧ chal = some w ∧ 0 < v ∧ 0 < w ∧ w * bps > v * (bps + tolBps) := by
  cases champ <;> cases chal <;> simp [isWin, and_assoc]

theorem isRegression_iff {tolBps} :
    isRegression tolBps champ chal = true ↔
      ∃ v w, champ = some v ∧ chal = some w ∧ 0 < v ∧ 0 < w ∧ w * bps < v * (bps - tolBps) := by
  cases champ <;> cases chal <;> simp [isRegression, and_assoc]

theorem isMatched_iff {tolBps} :
    isMatched tolBps champ chal = true ↔
      ∃ v w, champ = some v ∧ chal = some w ∧ 0 < v ∧ 0 < w
        ∧ ¬ w * bps < v * (bps - tolBps) ∧ ¬ w * bps > v * (bps + tolBps) := by
  cases champ <;> cases chal <;> simp [isMatched, and_assoc]

/-- Whatever is below the band of the larger output is above the band of the
    smaller one. -/
theorem win_of_regression (regression : isRegression relativeTolBps chal champ = true) :
    isWin relativeTolBps champ chal = true := by
  obtain ⟨w, v, rfl, rfl, chalPos, champPos, below⟩ := isRegression_iff.mp regression
  refine isWin_iff.mpr ⟨v, w, rfl, rfl, champPos, chalPos, ?_⟩
  simp only [relativeTolBps, bps] at below ⊢
  omega

theorem matched_of_win (win : isWin relativeTolBps champ chal = true)
    (notRegression : isRegression relativeTolBps chal champ = false) :
    isMatched relativeTolBps chal champ = true := by
  obtain ⟨v, w, rfl, rfl, champPos, chalPos, above⟩ := isWin_iff.mp win
  refine isMatched_iff.mpr ⟨w, v, rfl, rfl, chalPos, champPos, ?_, ?_⟩
  · intro below
    have regression := isRegression_iff.mpr ⟨w, v, rfl, rfl, chalPos, champPos, below⟩
    simp [regression] at notRegression
  · simp only [relativeTolBps, bps] at above ⊢
    omega

theorem win_split (champ chal : Option Int) :
    isWin relativeTolBps champ chal =
      (isRegression relativeTolBps chal champ || isOneSided relativeTolBps champ chal) := by
  cases regression : isRegression relativeTolBps chal champ with
  | true => simp [win_of_regression regression]
  | false =>
    cases win : isWin relativeTolBps champ chal with
    | false => simp [isOneSided, win]
    | true => simp [isOneSided, win, matched_of_win win regression]

theorem regression_not_oneSided (regression : isRegression relativeTolBps chal champ = true) :
    isOneSided relativeTolBps champ chal = false := by
  obtain ⟨w, v, rfl, rfl, -, -, below⟩ := isRegression_iff.mp regression
  simp [isOneSided, isMatched, below]

section

variable {a b : List Row}

theorem countOrders_swap (p : String → Bool) : countOrders a b p = countOrders b a p := by
  unfold countOrders
  rw [Finset.union_comm]

theorem tieAdopt_unmeasured {t : Tally} (unmeasured : t.gasMeasuredFull = false) :
    t.gasTieAdopt = false ∧ t.factorTieAdopt 0 = false ∧ t.deadwoodTieAdopt 0 0 = false := by
  simp [Tally.gasTieAdopt, gasMarginBps, unmeasured, Tally.factorTieAdopt, factorMargin,
    Tally.deadwoodTieAdopt, unproductiveMargin]

/-- Without gas and with both deltas zero only the performance clause can adopt. -/
theorem adopt_performance {t : Tally} (unmeasured : t.gasMeasuredFull = false) :
    t.adopt 0 0 = true ↔
      t.nCatastrophic = 0 ∧ t.nDropped = 0 ∧ t.nRegressions + dethroneWinMargin ≤ t.netBetter := by
  simp [Tally.adopt, tieAdopt_unmeasured unmeasured, Tally.performanceAdopt, and_assoc]

theorem cover_without_bar (champ chal : Option Int) (iid : String) :
    isCreditedCover relativeTolBps (barValue none iid) none champ chal = isDropped chal champ := by
  simp [isCreditedCover, isDropped, barValue, parseOutput, isRepeat, Bool.and_comm]

theorem kept_iff {t} (tallied : Tallied a b relativeTolBps none none t) :
    (t.nCatastrophic = 0 ∧ t.nDropped = 0) ↔
      ∀ iid, isKept relativeTolBps (delivered a iid) (delivered b iid) = true := by
  have served : ∀ iid, isKept relativeTolBps (delivered a iid) (delivered b iid) = false →
      hasValue (delivered a iid) = true := by
    intro iid lost
    cases value : hasValue (delivered a iid) with
    | true => rfl
    | false =>
      have noCut := (bands_silent relativeTolBps _ (delivered b iid) (.inl value)).2.2.1
      simp [isKept, isDropped, value, noCut] at lost
  constructor
  · rintro ⟨noCuts, noDrops⟩ iid
    have uncut := countOrders_eq_zero.mp (tallied.catastrophic.symm.trans noCuts)
    have kept := countOrders_eq_zero.mp (tallied.dropped.symm.trans noDrops)
    by_contra lost
    have member : iid ∈ mentioned a ∪ mentioned b :=
      mem_orders_of_hasValue (.inl (served iid (by simpa using lost)))
    simp [isKept, uncut iid member, kept iid member] at lost
  · intro kept
    simp only [isKept, Bool.and_eq_true, Bool.not_eq_true'] at kept
    rw [tallied.catastrophic, tallied.dropped, countOrders_eq_zero, countOrders_eq_zero]
    exact ⟨fun iid _ => (kept iid).2, fun iid _ => (kept iid).1⟩

/-- `b` keeps the floor against `a` and clears the margin. -/
def Outdelivers (a b : List Row) : Prop :=
  (∀ iid, isKept relativeTolBps (delivered a iid) (delivered b iid) = true)
  ∧ countOrders a b (fun iid =>
      isRegression relativeTolBps (delivered a iid) (delivered b iid)) + dethroneWinMargin
    ≤ countOrders a b (fun iid => isWin relativeTolBps (delivered a iid) (delivered b iid))
      + countOrders a b (fun iid => isDropped (delivered b iid) (delivered a iid))

theorem unmeasured_gasless (gaslessA : Gasless a) (gaslessB : Gasless b) {t}
    (done : (orderIds (byIntent a) (byIntent b)).foldlM
      (tallyOrder (Comparison.ofRows a b relativeTolBps none none)) {} = .ok t) :
    t.gasMeasuredFull = false := by
  have tallied := tallied_of_loop (by decide) done
  have gasTallied := gasTallied_of_loop gaslessA.reads gaslessB.reads done
  have allMatched : t.gasUnmeasured = t.nMatched := by
    rw [gasTallied.unmeasured, tallied.matched]
    simp [gaslessA.gasAt_eq]
  simp only [Tally.gasMeasuredFull, gasMarginBps, allMatched]
  cases t.nMatched <;> simp

theorem adopt_gasless (gaslessA : Gasless a) (gaslessB : Gasless b) {res}
    (ran : evaluateRelativeAdoption a b relativeTolBps none none 0 0 = .ok res) :
    res.adopt = true ↔ Outdelivers a b := by
  obtain ⟨t, done, -, rfl⟩ := evaluate_eq_ok.mp ran
  have tallied := tallied_of_loop (by decide) done
  have covers := tallied.blindSpots
  simp only [cover_without_bar] at covers
  rw [Outdelivers, verdictOf, adopt_performance (unmeasured_gasless gaslessA gaslessB done),
    ← and_assoc, kept_iff tallied, tallied.regressions, Tally.netBetter, tallied.wins, covers]

theorem returns_gasless (gaslessA : Gasless a) (gaslessB : Gasless b) :
    (∃ res, evaluateRelativeAdoption a b relativeTolBps none none 0 0 = .ok res) ↔
      OutputsPrint a b := by
  rw [evaluate_returns_iff]
  have reads : MatchedGasReads a b relativeTolBps :=
    fun iid _ => ⟨gaslessA.reads iid, gaslessB.reads iid⟩
  refine ⟨fun returns => returns.1.2.1, fun outputs => ⟨⟨reads, outputs, barsPrint_none⟩, ?_⟩⟩
  intro t done
  simp [shownInts, tieAdopt_unmeasured (unmeasured_gasless gaslessA gaslessB done)]

theorem adopts_gasless (gaslessA : Gasless a) (gaslessB : Gasless b) :
    adopts (evaluateRelativeAdoption a b relativeTolBps none none 0 0) = true ↔
      OutputsPrint a b ∧ Outdelivers a b := by
  rw [← returns_gasless gaslessA gaslessB]
  constructor
  · intro adopted
    obtain ⟨res, ran, passed⟩ := ok_of_adopts adopted
    exact ⟨⟨res, ran⟩, (adopt_gasless gaslessA gaslessB ran).mp passed⟩
  · rintro ⟨⟨res, ran⟩, counts⟩
    rw [ran]
    exact (adopt_gasless gaslessA gaslessB ran).mpr counts

/-- The regressions of `b` against `a`, and the one-sided orders of `b` over `a`. -/
def regressionsOf (a b : List Row) : Nat :=
  countOrders a b fun iid => isRegression relativeTolBps (delivered a iid) (delivered b iid)

def oneSidedOf (a b : List Row) : Nat :=
  countOrders a b fun iid => isOneSided relativeTolBps (delivered a iid) (delivered b iid)

theorem wins_eq (a b : List Row) :
    countOrders a b (fun iid => isWin relativeTolBps (delivered a iid) (delivered b iid)) =
      regressionsOf b a + oneSidedOf a b := by
  simp only [win_split]
  rw [countOrders_or fun iid h => regression_not_oneSided h, countOrders_swap]
  rfl

theorem no_covers (kept : ∀ iid, isKept relativeTolBps (delivered b iid) (delivered a iid) = true) :
    countOrders a b (fun iid => isDropped (delivered b iid) (delivered a iid)) = 0 := by
  refine countOrders_eq_zero.mpr fun iid _ => ?_
  have here := kept iid
  simp only [isKept, Bool.and_eq_true, Bool.not_eq_true'] at here
  exact here.1

/-- Both calls adopt exactly when every output can be written as a text, none is lost either way,
    and each side is ahead by the margin. -/
theorem dethrone_each_other_iff (gaslessA : Gasless a) (gaslessB : Gasless b) :
    let ab := adopts (evaluateRelativeAdoption a b relativeTolBps none none 0 0)
    let ba := adopts (evaluateRelativeAdoption b a relativeTolBps none none 0 0)
    (ab = true ∧ ba = true ↔
      OutputsPrint a b
      ∧ (∀ iid, isKept relativeTolBps (delivered a iid) (delivered b iid) = true
        ∧ isKept relativeTolBps (delivered b iid) (delivered a iid) = true)
      ∧ regressionsOf a b + dethroneWinMargin ≤ regressionsOf b a + oneSidedOf a b
      ∧ regressionsOf b a + dethroneWinMargin ≤ regressionsOf a b + oneSidedOf b a)
    ∧ (oneSidedOf a b + oneSidedOf b a < 2 * dethroneWinMargin → ¬ (ab = true ∧ ba = true)) := by
  intro ab ba
  have both : ab = true ∧ ba = true ↔
      OutputsPrint a b
      ∧ (∀ iid, isKept relativeTolBps (delivered a iid) (delivered b iid) = true
        ∧ isKept relativeTolBps (delivered b iid) (delivered a iid) = true)
      ∧ regressionsOf a b + dethroneWinMargin ≤ regressionsOf b a + oneSidedOf a b
      ∧ regressionsOf b a + dethroneWinMargin ≤ regressionsOf a b + oneSidedOf b a := by
    simp only [ab, ba]
    rw [adopts_gasless gaslessA gaslessB, adopts_gasless gaslessB gaslessA, Outdelivers, Outdelivers,
      wins_eq, wins_eq]
    constructor
    · rintro ⟨⟨written, keptAB, marginAB⟩, -, keptBA, marginBA⟩
      rw [no_covers keptBA] at marginAB
      rw [no_covers keptAB] at marginBA
      exact ⟨written, fun iid => ⟨keptAB iid, keptBA iid⟩, marginAB, marginBA⟩
    · rintro ⟨written, kept, marginAB, marginBA⟩
      rw [no_covers fun iid => (kept iid).1, no_covers fun iid => (kept iid).2]
      exact ⟨⟨written, fun iid => (kept iid).1, marginAB⟩, fun iid => (written iid).symm,
        fun iid => (kept iid).2, marginBA⟩
  refine ⟨both, fun few dethroned => ?_⟩
  obtain ⟨-, -, marginAB, marginBA⟩ := both.mp dethroned
  omega

end

/-- Two orders, each solver ahead on one of them by 0.1001% of its own output. -/
theorem dethrone_each_other_iff_sliver :
    let a : List Row :=
      [ { intentId := some "o1", rawOutput := .int 1000000 },
        { intentId := some "o2", rawOutput := .int 999000 } ]
    let b : List Row :=
      [ { intentId := some "o1", rawOutput := .int 999000 },
        { intentId := some "o2", rawOutput := .int 1000000 } ]
    (regressionsOf a b = 0 ∧ oneSidedOf a b = 1)
      ∧ regressionsOf a b + dethroneWinMargin ≤ regressionsOf b a + oneSidedOf a b := by
  intro a b
  have gaslessA : Gasless a := by simp [Gasless, a]
  have gaslessB : Gasless b := by simp [Gasless, b]
  refine ⟨by decide, ?_⟩
  exact (((dethrone_each_other_iff gaslessA gaslessB).1).mp (by decide +kernel)).2.2.1

theorem both_directions_adopt :
    ¬ ∀ a b : List Row, Gasless a → Gasless b →
      ¬ (adopts (evaluateRelativeAdoption a b relativeTolBps none none 0 0) = true
        ∧ adopts (evaluateRelativeAdoption b a relativeTolBps none none 0 0) = true) := by
  intro never
  let a : List Row :=
    [ { intentId := some "o1", rawOutput := .int 1000000 },
      { intentId := some "o2", rawOutput := .int 999000 } ]
  let b : List Row :=
    [ { intentId := some "o1", rawOutput := .int 999000 },
      { intentId := some "o2", rawOutput := .int 1000000 } ]
  exact never a b (by simp [Gasless, a]) (by simp [Gasless, b]) (by decide +kernel)

end MinotaurSubnet.Epoch
