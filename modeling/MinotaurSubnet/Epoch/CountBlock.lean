import MinotaurSubnet.Epoch.AdoptionTally

/-! # The count block of a verdict

`counts_from_verdict` re-aggregates the counters of a finished comparison: repeats fold into
`matched`, drops into `worse`, and regressions split at the hard floor. The loop moves each
counter exactly when it writes the row with that verdict, so the block is a partition of the
rows, whatever the tolerance.
-/

namespace MinotaurSubnet.Epoch

open Library Python

inductive CountVerdict where
  | dethrone
  | matched
  | behind
  deriving DecidableEq

structure GasCounts where
  champTotal : Int
  chalTotal : Int
  measuredFull : Bool
  unmeasured : Nat
  orderWorse : Nat
  deriving DecidableEq

structure Counts where
  better : Nat
  worse : Nat
  matched : Nat
  new : Nat
  repeats : Nat
  compared : Nat
  -- a difference of two counters, so an integer
  tolerated : Int
  lost : Nat
  catastrophic : Nat
  dropped : Nat
  floorBps : Int
  verdict : CountVerdict
  adoptVia : Option AdoptVia
  perOrder : List OrderRow
  gas : Option GasCounts
  deriving DecidableEq

def countsFromVerdict (res : Verdict) : Counts :=
  let better := res.tally.nWins + res.tally.nBlindSpots
  let worse := res.tally.nRegressions + res.tally.nDropped
  let repeats := res.tally.nBlindSpotRepeats
  let matched := res.tally.nMatched + repeats
  { better
    worse
    matched
    new := res.tally.nBlindSpots
    repeats
    compared := better + worse + matched
    tolerated := (res.tally.nRegressions : Int) - res.tally.nCatastrophic
    lost := res.tally.nCatastrophic + res.tally.nDropped
    catastrophic := res.tally.nCatastrophic
    dropped := res.tally.nDropped
    floorBps := floorBps
    verdict :=
      if res.adopt then .dethrone
      else if better = 0 ∧ worse = 0 then .matched
      else .behind
    adoptVia := res.adoptVia
    perOrder := res.tally.perOrder
    gas :=
      if gasMarginBps.isSome then
        some {
          champTotal := res.tally.champGasTotal
          chalTotal := res.tally.chalGasTotal
          measuredFull := res.tally.gasMeasuredFull
          unmeasured := res.tally.gasUnmeasured
          orderWorse := res.tally.gasOrderWorse }
      else none }

def rowsWith (rows : List OrderRow) (verdict : OrderVerdict) : Nat :=
  rows.countP fun row => row.mark.verdict = verdict

structure Booked (t : Tally) : Prop where
  wins : t.nWins = rowsWith t.perOrder .win
  regressions : t.nRegressions = rowsWith t.perOrder .regression
  catastrophic : t.nCatastrophic = t.perOrder.countP (·.mark.catastrophic)
  dropped : t.nDropped = rowsWith t.perOrder .dropped
  blindSpots : t.nBlindSpots = rowsWith t.perOrder .blindSpotCover
  repeats : t.nBlindSpotRepeats = rowsWith t.perOrder .blindSpotRepeat
  observed : t.nBlindSpotRepeatsObserved = rowsWith t.perOrder .blindSpotRepeat
  matched : t.nMatched = rowsWith t.perOrder .matched
  compared : t.scenariosCompared = t.perOrder.countP (·.mark.verdict ≠ .skip)
  hard : ∀ row ∈ t.perOrder, row.mark.catastrophic = true → row.mark.verdict = .regression

theorem booked_empty : Booked {} := by
  constructor <;> simp [rowsWith]

variable (rows : List OrderRow)

theorem countP_row (row : OrderRow) (p : OrderMark → Bool) :
    (rows ++ [row]).countP (fun r => p r.mark) =
      rows.countP (fun r => p r.mark) + (p row.mark).toNat := by
  rw [List.countP_append, List.countP_singleton]
  cases p row.mark <;> rfl

theorem rowsWith_row (row : OrderRow) (verdict : OrderVerdict) :
    rowsWith (rows ++ [row]) verdict =
      rowsWith rows verdict + (decide (row.mark.verdict = verdict)).toNat :=
  countP_row rows row fun mark => mark.verdict = verdict

theorem tallyOrder_booked {c t t' iid} (books : Booked t) (done : tallyOrder c t iid = .ok t') :
    Booked t' ∧ t'.perOrder.map OrderRow.intentId = t.perOrder.map OrderRow.intentId ++ [iid] := by
  obtain ⟨t₁, mark, pass, -, rfl⟩ := tallyOrder_eq_ok.mp done
  have entered := compareOrder_entered pass
  refine ⟨?_, by simp [entered.rows]⟩
  constructor <;> simp only [entered.rows, rowsWith_row]
  · rw [entered.wins, books.wins]
  · rw [entered.regressions, books.regressions]
  · rw [entered.catastrophic, books.catastrophic, countP_row _ _ OrderMark.catastrophic]
  · rw [entered.dropped, books.dropped]
  · rw [entered.blindSpots, books.blindSpots]
  · rw [entered.repeats, books.repeats]
  · rw [entered.observed, books.observed]
  · rw [entered.matched, books.matched]
  · rw [entered.compared, books.compared, countP_row _ _ fun mark => mark.verdict ≠ .skip]
  · intro row member isHard
    rcases List.mem_append.mp member with old | fresh
    · exact books.hard row old isHard
    · obtain rfl := List.mem_singleton.mp fresh
      exact entered.hard isHard

theorem booked_of_loop {c ids t} (done : ids.foldlM (tallyOrder c) {} = .ok t) :
    Booked t ∧ t.perOrder.map OrderRow.intentId = ids := by
  have whole := foldlM_invariant
    (fun before t => Booked t ∧ t.perOrder.map OrderRow.intentId = before)
    (by
      rintro before iid t t' ⟨books, rows⟩ pass
      obtain ⟨books', appended⟩ := tallyOrder_booked books pass
      exact ⟨books', by rw [appended, rows]⟩)
    ids [] {} t ⟨booked_empty, rfl⟩ done
  simpa using whole

theorem booked_of_evaluate {champion challenger : List Row} {tolBps : Int}
    {championBar : Option (Dict String Value)} {barAgeS : Option PyFloat}
    {factorDelta deadwoodDelta : Int} {res : Verdict}
    (ran : evaluateRelativeAdoption champion challenger tolBps championBar barAgeS factorDelta
      deadwoodDelta = .ok res) :
    Booked res.tally ∧
      res.tally.perOrder.map OrderRow.intentId =
        orderIds (byIntent champion) (byIntent challenger) := by
  obtain ⟨t, done, -, rfl⟩ := evaluate_eq_ok.mp ran
  exact booked_of_loop done

theorem Tally.saturated_of_tieAdopt {t : Tally} {factorDelta deadwoodDelta : Int}
    (clause : t.gasTieAdopt = true ∨ t.factorTieAdopt factorDelta = true ∨
      t.deadwoodTieAdopt factorDelta deadwoodDelta = true) : t.saturatedTie = true := by
  rcases clause with gas | factor | deadwood
  · simp only [Tally.gasTieAdopt, gasMarginBps, Bool.and_eq_true] at gas
    exact gas.1.1.1.1.1.1
  · simp only [Tally.factorTieAdopt, factorMargin, Bool.and_eq_true] at factor
    exact factor.1.1
  · simp only [Tally.deadwoodTieAdopt, unproductiveMargin, Bool.and_eq_true] at deadwood
    exact deadwood.1.1.1.1

def OrderVerdict.differs : OrderVerdict → Bool
  | .win | .blindSpotCover | .regression | .dropped => true
  | .matched | .blindSpotRepeat | .skip => false

structure Partition (champion challenger : List Row) (res : Verdict) (counts : Counts) : Prop where
  shown : counts.perOrder = res.tally.perOrder
  split : counts.compared = counts.better + counts.worse + counts.matched
  scenarios : counts.compared = res.tally.scenariosCompared
  rows : counts.compared = counts.perOrder.countP (·.mark.verdict ≠ .skip)
  worse : (counts.worse : Int) = counts.tolerated + counts.lost
  tolerated : 0 ≤ counts.tolerated
  wins : res.tally.nWins = rowsWith counts.perOrder .win
  regressions : res.tally.nRegressions = rowsWith counts.perOrder .regression
  dropped : res.tally.nDropped = rowsWith counts.perOrder .dropped
  blindSpots : res.tally.nBlindSpots = rowsWith counts.perOrder .blindSpotCover
  repeats : res.tally.nBlindSpotRepeats = rowsWith counts.perOrder .blindSpotRepeat
  observed : res.tally.nBlindSpotRepeatsObserved = rowsWith counts.perOrder .blindSpotRepeat
  matched : res.tally.nMatched = rowsWith counts.perOrder .matched
  catastrophic : res.tally.nCatastrophic = counts.perOrder.countP fun row =>
    row.mark.verdict = .regression && row.mark.catastrophic
  sorted : (counts.perOrder.map OrderRow.intentId).Pairwise (· < ·)
  joined : ∀ iid, iid ∈ counts.perOrder.map OrderRow.intentId ↔
    iid ∈ mentioned champion ∪ mentioned challenger
  tie : counts.verdict = .matched → ∀ row ∈ counts.perOrder, row.mark.verdict.differs = false

theorem countP_compared :
    rows.countP (·.mark.verdict ≠ .skip) =
      rowsWith rows .win + rowsWith rows .blindSpotCover
        + (rowsWith rows .regression + rowsWith rows .dropped)
        + (rowsWith rows .matched + rowsWith rows .blindSpotRepeat) := by
  induction rows with
  | nil => rfl
  | cons row rest ih =>
    simp only [rowsWith, List.countP_cons] at ih ⊢
    rw [ih]
    cases row.mark.verdict <;> simp <;> omega

theorem Booked.hard_le {t} (books : Booked t) : t.nCatastrophic ≤ t.nRegressions := by
  rw [books.catastrophic, books.regressions]
  refine List.countP_mono_left fun row member isHard => ?_
  exact decide_eq_true (books.hard row member isHard)

theorem Booked.hard_rows {t} (books : Booked t) :
    t.nCatastrophic = t.perOrder.countP fun row =>
      row.mark.verdict = .regression && row.mark.catastrophic := by
  rw [books.catastrophic]
  refine List.countP_congr fun row member => ?_
  rw [Bool.and_eq_true, decide_eq_true_iff]
  exact ⟨fun isHard => ⟨books.hard row member isHard, isHard⟩, fun both => both.2⟩

theorem rowsWith_eq_zero {rows verdict} :
    rowsWith rows verdict = 0 ↔ ∀ row ∈ rows, row.mark.verdict ≠ verdict := by
  simp [rowsWith, List.countP_eq_zero]

theorem orderIds_sorted (champBy chalBy : Dict String Row) :
    (orderIds champBy chalBy).Pairwise (· < ·) := by
  have weak : (orderIds champBy chalBy).Pairwise (· ≤ ·) := List.pairwise_insertionSort _ _
  exact (weak.and (orderIds_nodup champBy chalBy)).imp fun both => lt_of_le_of_ne both.1 both.2

theorem Booked.tie_rows {res} (books : Booked res.tally)
    (tie : (countsFromVerdict res).verdict = .matched) :
    ∀ row ∈ res.tally.perOrder, row.mark.verdict.differs = false := by
  have level : res.tally.nWins + res.tally.nBlindSpots = 0 ∧
      res.tally.nRegressions + res.tally.nDropped = 0 := by
    simp only [countsFromVerdict] at tie
    split at tie
    · cases tie
    · split at tie
      · next level => exact level
      · cases tie
  obtain ⟨better, worse⟩ := level
  have noWin := rowsWith_eq_zero.mp (books.wins.symm.trans (by omega))
  have noCover := rowsWith_eq_zero.mp (books.blindSpots.symm.trans (by omega))
  have noRegression := rowsWith_eq_zero.mp (books.regressions.symm.trans (by omega))
  have noDrop := rowsWith_eq_zero.mp (books.dropped.symm.trans (by omega))
  intro row member
  cases verdict : row.mark.verdict with
  | win => exact absurd verdict (noWin row member)
  | blindSpotCover => exact absurd verdict (noCover row member)
  | regression => exact absurd verdict (noRegression row member)
  | dropped => exact absurd verdict (noDrop row member)
  | matched | blindSpotRepeat | skip => rfl

/-- The count block of any comparison that returns is a partition of its rows. -/
theorem counts_partition {champion challenger : List Row} {tolBps : Int}
    {championBar : Option (Dict String Value)} {barAgeS : Option PyFloat}
    {factorDelta deadwoodDelta : Int} {res : Verdict}
    (ran : evaluateRelativeAdoption champion challenger tolBps championBar barAgeS factorDelta
      deadwoodDelta = .ok res) :
    Partition champion challenger res (countsFromVerdict res) := by
  obtain ⟨books, ids⟩ := booked_of_evaluate ran
  have whole : (countsFromVerdict res).compared =
      res.tally.perOrder.countP (·.mark.verdict ≠ .skip) := by
    rw [countP_compared]
    simp only [countsFromVerdict, books.wins, books.blindSpots, books.regressions, books.dropped,
      books.matched, books.repeats]
  refine {
    shown := rfl
    split := rfl
    scenarios := whole.trans books.compared.symm
    rows := whole
    worse := ?_
    tolerated := ?_
    wins := books.wins
    regressions := books.regressions
    dropped := books.dropped
    blindSpots := books.blindSpots
    repeats := books.repeats
    observed := books.observed
    matched := books.matched
    catastrophic := books.hard_rows
    sorted := ?_
    joined := ?_
    tie := books.tie_rows }
  · simp only [countsFromVerdict]
    push_cast
    ring
  · have bounded := books.hard_le
    simp only [countsFromVerdict]
    omega
  · exact ids ▸ orderIds_sorted _ _
  · intro iid
    change iid ∈ res.tally.perOrder.map OrderRow.intentId ↔ _
    rw [ids]
    exact mem_orderIds

def mixedRows (outputs : List (String × String)) : List Row :=
  outputs.map fun (iid, output) => { intentId := some iid, rawOutput := .str output }

theorem counts_partition_mixed : ∃ res, Partition
    (mixedRows [("a", "1000"), ("b", "1000"), ("c", "5"), ("d", "7"), ("d", "1000")])
    (mixedRows [("b", "995"), ("a", "2000"), ("d", "1000"), ("e", "x")]) res
    (countsFromVerdict res) ∧ (countsFromVerdict res).compared = 4 ∧
    (countsFromVerdict res).lost = 1 := by
  refine ⟨_, @counts_partition _ _ 10 none none 0 0 _ rfl, ?_, ?_⟩
  · decide +kernel
  · decide +kernel

/-- The champion is blind, and the challenger delivers what the fresh bar already paid. -/
def isNeutralRepeat (tolBps : Int) (bar : Option Int) (barAgeS : Option PyFloat)
    (champ chal : Option Int) : Bool :=
  !hasValue champ && hasValue chal && isRepeat tolBps bar barAgeS (chal.getD 0)
    && repeatGuarded barAgeS

def TrueTie (res : Verdict) : Prop :=
  0 < res.tally.scenariosCompared ∧
    ∀ row ∈ res.tally.perOrder, row.mark.verdict ≠ .skip → row.mark.verdict = .matched

instance (res : Verdict) : Decidable (TrueTie res) := by
  unfold TrueTie
  infer_instance

theorem compareOrder_repeat {c t t' iid mark} (done : compareOrder c t iid = .ok (t', mark)) :
    decide (mark.verdict = .blindSpotRepeat) =
      isNeutralRepeat c.tolBps (c.barOut iid) c.barAgeS (c.champOut iid) (c.chalOut iid) := by
  rw [(compareOrder_band done).1]
  unfold bandOf isNeutralRepeat
  cases hasValue (c.champOut iid) <;> cases hasValue (c.chalOut iid)
  · rfl
  · dsimp only
    split
    · next again => simpa using again
    · next once => simpa using once
  · rfl
  · dsimp only
    split_ifs <;> rfl

section

variable {champion challenger : List Row} {tolBps : Int}
  {championBar : Option (Dict String Value)} {barAgeS : Option PyFloat}

theorem repeats_of_loop {t : Tally}
    (done : (orderIds (byIntent champion) (byIntent challenger)).foldlM
      (tallyOrder (Comparison.ofRows champion challenger tolBps championBar barAgeS)) {} = .ok t) :
    t.nBlindSpotRepeats = countOrders champion challenger fun iid =>
      isNeutralRepeat tolBps (barValue championBar iid) barAgeS
        (delivered champion iid) (delivered challenger iid) := by
  have counted := foldlM_count Tally.nBlindSpotRepeats
    (fun iid => isNeutralRepeat tolBps (barValue championBar iid) barAgeS
      (delivered champion iid) (delivered challenger iid))
    (by
      intro t iid t' passed
      obtain ⟨t₁, mark, pass, -, rfl⟩ := tallyOrder_eq_ok.mp passed
      have repeated := compareOrder_repeat pass
      simp only [ofRows_champOut, ofRows_chalOut, ofRows_barOut, ofRows_tolBps, ofRows_barAgeS]
        at repeated
      rw [← repeated]
      exact (compareOrder_entered pass).repeats) done
  rw [countP_orderIds] at counted
  simpa using counted

variable {factorDelta deadwoodDelta : Int}

theorem Tally.tied_of_adoptVia {t via}
    (adopted : (verdictOf t factorDelta deadwoodDelta).adoptVia = some via)
    (tieBreak : via ≠ .performance) :
    0 < t.scenariosCompared ∧ t.nWins + t.nBlindSpots = 0 ∧ t.nRegressions = 0 ∧ t.nDropped = 0 := by
  simp only [verdictOf] at adopted
  split at adopted
  · cases adopted
  next adopts =>
    split at adopted
    · exact absurd (Option.some.inj adopted).symm tieBreak
    next notBetter =>
      have passed : t.adopt factorDelta deadwoodDelta = true := by simpa using adopts
      simp only [Tally.adopt, Bool.and_eq_true, Bool.or_eq_true, beq_iff_eq] at passed
      obtain ⟨⟨-, noDrop⟩, clauses⟩ := passed
      have clause : t.gasTieAdopt = true ∨ t.factorTieAdopt factorDelta = true ∨
          t.deadwoodTieAdopt factorDelta deadwoodDelta = true := by
        rcases clauses with ((better | gas) | factor) | deadwood
        · exact absurd better notBetter
        · exact .inl gas
        · exact .inr (.inl factor)
        · exact .inr (.inr deadwood)
      have saturated := Tally.saturated_of_tieAdopt clause
      simp only [Tally.saturatedTie, Tally.netBetter, Bool.and_eq_true, decide_eq_true_eq,
        beq_iff_eq] at saturated
      exact ⟨saturated.1.1, saturated.1.2, saturated.2, noDrop⟩

theorem Booked.tied_rows {t} (books : Booked t) (noBetter : t.nWins + t.nBlindSpots = 0)
    (noRegression : t.nRegressions = 0) (noDrop : t.nDropped = 0) {row}
    (member : row ∈ t.perOrder) :
    row.mark.verdict = .matched ∨ row.mark.verdict = .blindSpotRepeat ∨ row.mark.verdict = .skip := by
  have win := rowsWith_eq_zero.mp (books.wins.symm.trans (by omega)) row member
  have cover := rowsWith_eq_zero.mp (books.blindSpots.symm.trans (by omega)) row member
  have regression := rowsWith_eq_zero.mp (books.regressions.symm.trans noRegression) row member
  have dropped := rowsWith_eq_zero.mp (books.dropped.symm.trans noDrop) row member
  cases verdict : row.mark.verdict <;> simp_all

/-- A tie-break dethrone fires on a true all-matched tie exactly when no order is a
    blind-spot repeat. -/
theorem tie_break_on_true_tie_iff {res : Verdict} {via : AdoptVia}
    (ran : evaluateRelativeAdoption champion challenger tolBps championBar barAgeS factorDelta
      deadwoodDelta = .ok res)
    (adopted : res.adoptVia = some via) (tieBreak : via ≠ .performance) :
    TrueTie res ↔ ∀ iid ∈ mentioned champion ∪ mentioned challenger,
      isNeutralRepeat tolBps (barValue championBar iid) barAgeS
        (delivered champion iid) (delivered challenger iid) = false := by
  have books := (booked_of_evaluate ran).1
  obtain ⟨t, done, -, rfl⟩ := evaluate_eq_ok.mp ran
  obtain ⟨compared, noBetter, noRegression, noDrop⟩ := Tally.tied_of_adoptVia adopted tieBreak
  replace books : Booked t := books
  rw [← countOrders_eq_zero, ← repeats_of_loop done, books.repeats, rowsWith_eq_zero]
  constructor
  · rintro ⟨-, matched⟩ row member again
    have same := matched row member (by simp [again])
    simp [again] at same
  · intro fresh
    refine ⟨compared, fun row member shown => ?_⟩
    rcases books.tied_rows noBetter noRegression noDrop member with same | again | skipped
    · exact same
    · exact absurd again (fresh row member)
    · exact absurd skipped shown

end

/-- Two matched orders, and a challenger that is better factored. -/
theorem tie_break_on_true_tie_iff_factored :
    ∃ res, res.adoptVia = some .factorization ∧ (TrueTie res ↔
      ∀ iid ∈ mentioned (mixedRows [("a", "1000"), ("b", "5")]) ∪
          mentioned (mixedRows [("b", "5"), ("a", "1000")]),
        isNeutralRepeat 10 (barValue none iid) none
          (delivered (mixedRows [("a", "1000"), ("b", "5")]) iid)
          (delivered (mixedRows [("b", "5"), ("a", "1000")]) iid) = false) := by
  refine ⟨_, ?_, @tie_break_on_true_tie_iff (mixedRows [("a", "1000"), ("b", "5")])
    (mixedRows [("b", "5"), ("a", "1000")]) 10 none none 100 0 _ .factorization rfl ?_ (by decide)⟩
  · decide +kernel
  · decide +kernel

/-- The only order repeats the incumbent's bar, and a better factored challenger dethrones. -/
theorem repeat_only_comparison_dethrones :
    ∃ res, evaluateRelativeAdoption [{ intentId := some "o", rawOutput := .none }]
        (mixedRows [("o", "1000")]) 10 (some (Dict.empty.set "o" (.str "1000"))) (some (.fin 60))
        100 0 = .ok res ∧
      res.adoptVia = some .factorization ∧ ¬ TrueTie res := by
  refine ⟨_, rfl, ?_, ?_⟩ <;> decide +kernel

end MinotaurSubnet.Epoch
