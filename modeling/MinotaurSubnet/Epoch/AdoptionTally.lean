import MinotaurSubnet.Epoch.RelativeScoring
import Mathlib.Data.Finset.Card

/-! # What the per-order loop counts

Each counter of the loop is the number of order ids in one band, where the bands
are read off the two outputs alone. One lemma says what a single pass does to
every counter; the loop rule turns it into the final tallies. Everything later
argues about bands and never unfolds the loop.
-/

namespace MinotaurSubnet.Epoch

open Library Python

/-- Both deliver and the challenger is above the noise band. -/
def isWin (tolBps : Int) : Option Int → Option Int → Bool
  | some v, some w => 0 < v && 0 < w && w * bps > v * (bps + tolBps)
  | _, _ => false

/-- Both deliver and the challenger is below the noise band. -/
def isRegression (tolBps : Int) : Option Int → Option Int → Bool
  | some v, some w => 0 < v && 0 < w && w * bps < v * (bps - tolBps)
  | _, _ => false

/-- A regression that also cuts below the hard floor. -/
def isCatastrophic (tolBps : Int) : Option Int → Option Int → Bool
  | some v, some w =>
    0 < v && 0 < w && w * bps < v * (bps - tolBps) && w * bps < v * (bps - floorBps)
  | _, _ => false

/-- Both deliver inside the noise band. -/
def isMatched (tolBps : Int) : Option Int → Option Int → Bool
  | some v, some w =>
    0 < v && 0 < w && !(w * bps < v * (bps - tolBps)) && !(w * bps > v * (bps + tolBps))
  | _, _ => false

/-- The champion delivers and the challenger does not. -/
def isDropped (champ chal : Option Int) : Bool := hasValue champ && !hasValue chal

def isCreditedCover (tolBps : Int) (bar : Option Int) (barAgeS : Option PyFloat)
    (champ chal : Option Int) : Bool :=
  !hasValue champ && hasValue chal
    && !(isRepeat tolBps bar barAgeS (chal.getD 0) && repeatGuarded barAgeS)

/-- What a completed pass over `iid` does to the counters. -/
structure Counted (c : Comparison) (iid : String) (t t' : Tally) : Prop where
  wins : t'.nWins = t.nWins + (isWin c.tolBps (c.champOut iid) (c.chalOut iid)).toNat
  regressions : t'.nRegressions =
    t.nRegressions + (isRegression c.tolBps (c.champOut iid) (c.chalOut iid)).toNat
  catastrophic : t'.nCatastrophic =
    t.nCatastrophic + (isCatastrophic c.tolBps (c.champOut iid) (c.chalOut iid)).toNat
  dropped : t'.nDropped = t.nDropped + (isDropped (c.champOut iid) (c.chalOut iid)).toNat
  blindSpots : t'.nBlindSpots = t.nBlindSpots +
    (isCreditedCover c.tolBps (c.barOut iid) c.barAgeS (c.champOut iid) (c.chalOut iid)).toNat
  matched : t'.nMatched =
    t.nMatched + (isMatched c.tolBps (c.champOut iid) (c.chalOut iid)).toNat
  compared : t'.scenariosCompared =
    t.scenariosCompared + (hasValue (c.champOut iid) || hasValue (c.chalOut iid)).toNat

/-- The gas bookkeeping touches the gas accumulators only. -/
theorem tallyGas_frame {champRow chalRow champI chalI t t' mark}
    (done : tallyGas champRow chalRow champI chalI t = .ok (t', mark)) :
    t' = { t with
      champGasTotal := t'.champGasTotal
      chalGasTotal := t'.chalGasTotal
      gasUnmeasured := t'.gasUnmeasured
      gasOrderWorse := t'.gasOrderWorse
      gasOutOk := t'.gasOutOk } := by
  simp only [tallyGas, gasMarginBps] at done
  obtain ⟨_, done⟩ := bind_ok done
  obtain ⟨_, done⟩ := bind_ok done
  split at done <;> obtain ⟨rfl, rfl⟩ := Prod.mk.inj (pure_eq_ok.mp done) <;> rfl

/-- What a pass that decided `mark` does to the counters. -/
structure Entered (mark : OrderMark) (t t' : Tally) : Prop where
  wins : t'.nWins = t.nWins + (decide (mark.verdict = .win)).toNat
  regressions : t'.nRegressions = t.nRegressions + (decide (mark.verdict = .regression)).toNat
  catastrophic : t'.nCatastrophic = t.nCatastrophic + mark.catastrophic.toNat
  dropped : t'.nDropped = t.nDropped + (decide (mark.verdict = .dropped)).toNat
  blindSpots : t'.nBlindSpots = t.nBlindSpots + (decide (mark.verdict = .blindSpotCover)).toNat
  repeats : t'.nBlindSpotRepeats =
    t.nBlindSpotRepeats + (decide (mark.verdict = .blindSpotRepeat)).toNat
  observed : t'.nBlindSpotRepeatsObserved =
    t.nBlindSpotRepeatsObserved + (decide (mark.verdict = .blindSpotRepeat)).toNat
  matched : t'.nMatched = t.nMatched + (decide (mark.verdict = .matched)).toNat
  compared : t'.scenariosCompared =
    t.scenariosCompared + (decide (mark.verdict ≠ .skip)).toNat
  hard : mark.catastrophic = true → mark.verdict = .regression
  rows : t'.perOrder = t.perOrder

theorem tallyGas_mark {champRow chalRow v w t t' mark}
    (done : tallyGas champRow chalRow v w t = .ok (t', mark)) :
    mark.verdict = .matched ∧ mark.catastrophic = false := by
  simp only [tallyGas, gasMarginBps] at done
  obtain ⟨_, done⟩ := bind_ok done
  obtain ⟨_, done⟩ := bind_ok done
  split at done <;> obtain ⟨-, rfl⟩ := Prod.mk.inj (pure_eq_ok.mp done) <;> exact ⟨rfl, rfl⟩

theorem tallyDelivered_entered {tolBps champRow chalRow v w t t' mark}
    (done : tallyDelivered tolBps champRow chalRow v w t = .ok (t', mark)) :
    Entered mark t t' := by
  simp only [tallyDelivered] at done
  split at done
  · split at done <;> obtain ⟨rfl, rfl⟩ := Prod.mk.inj (Except.ok.inj done) <;>
      constructor <;> simp
  · split at done
    · obtain ⟨rfl, rfl⟩ := Prod.mk.inj (Except.ok.inj done)
      constructor <;> simp
    · obtain ⟨verdict, notHard⟩ := tallyGas_mark done
      rw [tallyGas_frame done]
      constructor <;> simp [verdict, notHard]

theorem within_observeTtl (barAgeS : Option PyFloat) :
    within barAgeS blindSpotBarObserveTtlS = repeatGuarded barAgeS := rfl

theorem tallyBlindSpot_entered {tolBps bar barAgeS w t t' mark}
    (done : tallyBlindSpot tolBps bar barAgeS w t = (t', mark)) : Entered mark t t' := by
  simp only [tallyBlindSpot, within_observeTtl] at done
  split at done
  · next again =>
      obtain ⟨rfl, rfl⟩ := Prod.mk.inj done
      constructor <;> simp [again]
  · next once =>
      obtain ⟨rfl, rfl⟩ := Prod.mk.inj done
      constructor <;> simp [once]

theorem compareOrder_entered {c t t' iid mark} (done : compareOrder c t iid = .ok (t', mark)) :
    Entered mark t t' := by
  unfold compareOrder at done
  split at done
  · exact tallyDelivered_entered done
  · exact tallyBlindSpot_entered (Except.ok.inj done)
  · obtain ⟨rfl, rfl⟩ := Prod.mk.inj (Except.ok.inj done)
    constructor <;> simp
  · obtain ⟨rfl, rfl⟩ := Prod.mk.inj (Except.ok.inj done)
    constructor <;> simp

theorem compareOrder_matched {c t t' iid mark} (done : compareOrder c t iid = .ok (t', mark))
    (matched : mark.verdict = .matched) :
    tallyGas (c.champBy.get? iid) (c.chalBy.get? iid) ((c.champOut iid).getD 0)
      ((c.chalOut iid).getD 0) { t with
        scenariosCompared := t.scenariosCompared + 1
        nMatched := t.nMatched + 1 } = .ok (t', mark) ∧
      hasValue (c.champOut iid) = true ∧ hasValue (c.chalOut iid) = true := by
  unfold compareOrder at done
  cases champ : hasValue (c.champOut iid) <;> cases chal : hasValue (c.chalOut iid) <;>
    simp only [champ, chal] at done
  · obtain ⟨-, rfl⟩ := Prod.mk.inj (Except.ok.inj done)
    cases matched
  · have done := Except.ok.inj done
    simp only [tallyBlindSpot] at done
    split at done <;> obtain ⟨-, rfl⟩ := Prod.mk.inj done <;> cases matched
  · obtain ⟨-, rfl⟩ := Prod.mk.inj (Except.ok.inj done)
    cases matched
  · refine ⟨?_, rfl, rfl⟩
    simp only [tallyDelivered] at done
    split at done
    · split at done <;> obtain ⟨-, rfl⟩ := Prod.mk.inj (Except.ok.inj done) <;> cases matched
    · split at done
      · obtain ⟨-, rfl⟩ := Prod.mk.inj (Except.ok.inj done)
        cases matched
      · exact done

theorem compareOrder_gasKept {c t t' iid mark} (done : compareOrder c t iid = .ok (t', mark))
    (other : mark.verdict ≠ .matched) :
    t'.champGasTotal = t.champGasTotal ∧ t'.chalGasTotal = t.chalGasTotal ∧
      t'.gasUnmeasured = t.gasUnmeasured ∧ t'.gasOrderWorse = t.gasOrderWorse ∧
      t'.gasOutOk = t.gasOutOk := by
  unfold compareOrder at done
  split at done
  · simp only [tallyDelivered] at done
    split at done
    · split at done <;> obtain ⟨rfl, -⟩ := Prod.mk.inj (Except.ok.inj done) <;> simp
    · split at done
      · obtain ⟨rfl, -⟩ := Prod.mk.inj (Except.ok.inj done)
        simp
      · exact absurd (tallyGas_mark done).1 other
  · have done := Except.ok.inj done
    simp only [tallyBlindSpot] at done
    split at done <;> obtain ⟨rfl, -⟩ := Prod.mk.inj done <;> simp
  · obtain ⟨rfl, -⟩ := Prod.mk.inj (Except.ok.inj done)
    simp
  · obtain ⟨rfl, -⟩ := Prod.mk.inj (Except.ok.inj done)
    simp

theorem not_above_of_below {tolBps v w} (tol : 0 ≤ tolBps) (champPos : 0 < v)
    (below : w * bps < v * (bps - tolBps)) : ¬ w * bps > v * (bps + tolBps) := by
  have widen : v * (bps - tolBps) ≤ v * (bps + tolBps) :=
    mul_le_mul_of_nonneg_left (by omega) champPos.le
  omega

theorem hasValue_some {v} : hasValue (some v) = true ↔ 0 < v := by
  simp only [hasValue]
  exact decide_eq_true_iff

theorem exists_of_hasValue {o} (h : hasValue o = true) : ∃ v, o = some v ∧ 0 < v := by
  cases o with
  | none => simp [hasValue] at h
  | some v => exact ⟨v, rfl, hasValue_some.mp h⟩

theorem bands_silent (tolBps : Int) (champ chal : Option Int)
    (silent : hasValue champ = false ∨ hasValue chal = false) :
    isWin tolBps champ chal = false ∧ isRegression tolBps champ chal = false
      ∧ isCatastrophic tolBps champ chal = false ∧ isMatched tolBps champ chal = false := by
  cases champ with
  | none => simp [isWin, isRegression, isCatastrophic, isMatched]
  | some v =>
    cases chal with
    | none => simp [isWin, isRegression, isCatastrophic, isMatched]
    | some w =>
      have blocked : ¬ (0 < v ∧ 0 < w) := by
        rintro ⟨champPos, chalPos⟩
        rcases silent with h | h
        · exact absurd (hasValue_some.mpr champPos) (by simp [h])
        · exact absurd (hasValue_some.mpr chalPos) (by simp [h])
      have gate : (decide (0 < v) && decide (0 < w)) = false := by simpa using blocked
      simp [isWin, isRegression, isCatastrophic, isMatched, gate]

variable {iid : String} {champion challenger : List Row}

def bandOf (tolBps : Int) (bar : Option Int) (barAgeS : Option PyFloat)
    (champ chal : Option Int) : OrderVerdict :=
  match hasValue champ, hasValue chal with
  | true, true =>
    if chal.getD 0 * bps < champ.getD 0 * (bps - tolBps) then .regression
    else if chal.getD 0 * bps > champ.getD 0 * (bps + tolBps) then .win
    else .matched
  | false, true =>
    if isRepeat tolBps bar barAgeS (chal.getD 0) && repeatGuarded barAgeS then .blindSpotRepeat
    else .blindSpotCover
  | true, false => .dropped
  | false, false => .skip

theorem compareOrder_band {c t t' iid mark} (done : compareOrder c t iid = .ok (t', mark)) :
    mark.verdict = bandOf c.tolBps (c.barOut iid) c.barAgeS (c.champOut iid) (c.chalOut iid) ∧
      mark.catastrophic = isCatastrophic c.tolBps (c.champOut iid) (c.chalOut iid) := by
  unfold compareOrder at done
  unfold bandOf
  cases champ : hasValue (c.champOut iid) <;> cases chal : hasValue (c.chalOut iid) <;>
    simp only [champ, chal] at done ⊢
  · obtain ⟨-, rfl⟩ := Prod.mk.inj (Except.ok.inj done)
    exact ⟨rfl, (bands_silent c.tolBps _ (c.chalOut iid) (.inl champ)).2.2.1.symm⟩
  · have silent := (bands_silent c.tolBps _ (c.chalOut iid) (.inl champ)).2.2.1
    have done := Except.ok.inj done
    simp only [tallyBlindSpot] at done
    split at done
    · next again =>
        obtain ⟨-, rfl⟩ := Prod.mk.inj done
        exact ⟨by simp [again], silent.symm⟩
    · next once =>
        obtain ⟨-, rfl⟩ := Prod.mk.inj done
        exact ⟨by simp [once], silent.symm⟩
  · obtain ⟨-, rfl⟩ := Prod.mk.inj (Except.ok.inj done)
    exact ⟨rfl, (bands_silent c.tolBps (c.champOut iid) _ (.inr chal)).2.2.1.symm⟩
  · obtain ⟨v, champEq, champPos⟩ := exists_of_hasValue champ
    obtain ⟨w, chalEq, chalPos⟩ := exists_of_hasValue chal
    simp only [champEq, chalEq, Option.getD_some, tallyDelivered, isCatastrophic, champPos, chalPos,
      decide_true, Bool.true_and] at done ⊢
    split at done
    · next below =>
      split at done
      · next cut =>
        obtain ⟨-, rfl⟩ := Prod.mk.inj (Except.ok.inj done)
        simp [below, cut]
      · next kept =>
        obtain ⟨-, rfl⟩ := Prod.mk.inj (Except.ok.inj done)
        simp [below, kept]
    · next notBelow =>
      split at done
      · next above =>
        obtain ⟨-, rfl⟩ := Prod.mk.inj (Except.ok.inj done)
        simp [notBelow, above]
      · next notAbove =>
        obtain ⟨matched, notHard⟩ := tallyGas_mark done
        simp [matched, notHard, notBelow, notAbove]

/-- The counters as the bands of the two outputs. -/
theorem bands_of_bandOf {tolBps} (tol : 0 ≤ tolBps) (bar : Option Int) (barAgeS : Option PyFloat)
    (champ chal : Option Int) : let band := bandOf tolBps bar barAgeS champ chal
    isWin tolBps champ chal = decide (band = .win) ∧
      isRegression tolBps champ chal = decide (band = .regression) ∧
      isDropped champ chal = decide (band = .dropped) ∧
      isCreditedCover tolBps bar barAgeS champ chal = decide (band = .blindSpotCover) ∧
      (hasValue champ || hasValue chal) = decide (band ≠ .skip) := by
  unfold bandOf isDropped isCreditedCover
  cases champValue : hasValue champ <;> cases chalValue : hasValue chal
  · simp [bands_silent tolBps _ chal (.inl champValue)]
  · simp only [bands_silent tolBps _ chal (.inl champValue)]
    split
    · next again => simp [again]
    · next once => simp [once]
  · simp [bands_silent tolBps champ _ (.inr chalValue)]
  · obtain ⟨v, rfl, champPos⟩ := exists_of_hasValue champValue
    obtain ⟨w, rfl, chalPos⟩ := exists_of_hasValue chalValue
    by_cases below : w * bps < v * (bps - tolBps)
    · have notAbove := not_above_of_below tol champPos below
      simp [isWin, isRegression, champPos, chalPos, below, notAbove]
    · by_cases above : w * bps > v * (bps + tolBps)
      · simp [isWin, isRegression, champPos, chalPos, below, above]
      · simp [isWin, isRegression, champPos, chalPos, below, above]

theorem isMatched_eq (tolBps : Int) (bar : Option Int) (barAgeS : Option PyFloat) (champ chal : Option Int) :
    isMatched tolBps champ chal = decide (bandOf tolBps bar barAgeS champ chal = .matched) := by
  unfold bandOf
  cases champValue : hasValue champ <;> cases chalValue : hasValue chal
  · simp [bands_silent tolBps _ chal (.inl champValue)]
  · simp only [bands_silent tolBps _ chal (.inl champValue)]
    split <;> rfl
  · simp [bands_silent tolBps champ _ (.inr chalValue)]
  · obtain ⟨v, rfl, champPos⟩ := exists_of_hasValue champValue
    obtain ⟨w, rfl, chalPos⟩ := exists_of_hasValue chalValue
    by_cases below : w * bps < v * (bps - tolBps)
    · simp [isMatched, below]
    · by_cases above : w * bps > v * (bps + tolBps)
      · simp [isMatched, below, above]
      · simp [isMatched, champPos, chalPos, below, above]

theorem compareOrder_counted {c t t' mark} (tol : 0 ≤ c.tolBps)
    (done : compareOrder c t iid = .ok (t', mark)) : Counted c iid t t' := by
  have entered := compareOrder_entered done
  obtain ⟨band, hard⟩ := compareOrder_band done
  obtain ⟨win, regression, dropped, cover, compared⟩ :=
    bands_of_bandOf tol (c.barOut iid) c.barAgeS (c.champOut iid) (c.chalOut iid)
  have matched := isMatched_eq c.tolBps (c.barOut iid) c.barAgeS (c.champOut iid) (c.chalOut iid)
  rw [← band] at win regression dropped cover compared matched
  constructor
  · rw [win, entered.wins]
  · rw [regression, entered.regressions]
  · rw [← hard, entered.catastrophic]
  · rw [dropped, entered.dropped]
  · rw [cover, entered.blindSpots]
  · rw [matched, entered.matched]
  · rw [compared, entered.compared]

theorem written_none : Written none := fun _ absent => by cases absent

theorem tallyOrder_eq_ok {c t t'} : tallyOrder c t iid = .ok t' ↔
    ∃ u mark, compareOrder c t iid = .ok (u, mark) ∧
      (Written mark.bar ∧ Written (c.champOut iid) ∧ Written (c.chalOut iid)) ∧
      t' = { u with perOrder :=
        u.perOrder ++ [{ intentId := iid, champ := c.champOut iid, chal := c.chalOut iid, mark }] } := by
  unfold tallyOrder
  constructor
  · intro done
    obtain ⟨⟨u, mark⟩, pass, done⟩ := bind_eq_ok.mp done
    obtain ⟨_, written, done⟩ := bind_eq_ok.mp done
    exact ⟨u, mark, pass, of_decide_eq_true (ensure_eq_ok.mp written), (pure_eq_ok.mp done).symm⟩
  · rintro ⟨u, mark, pass, written, rfl⟩
    refine bind_eq_ok.mpr ⟨(u, mark), pass, bind_eq_ok.mpr ⟨(), ?_, rfl⟩⟩
    exact ensure_eq_ok.mpr (decide_eq_true written)

theorem tallyOrder_counted {c t t'} (tol : 0 ≤ c.tolBps) (done : tallyOrder c t iid = .ok t') :
    Counted c iid t t' := by
  obtain ⟨t₁, mark, pass, -, rfl⟩ := tallyOrder_eq_ok.mp done
  obtain ⟨wins, regressions, catastrophic, dropped, blindSpots, matched, compared⟩ :=
    compareOrder_counted tol pass
  exact ⟨wins, regressions, catastrophic, dropped, blindSpots, matched, compared⟩

/-- The last row carrying `iid`. -/
def lastRow (rows : List Row) (iid : String) : Option Row :=
  rows.reverse.find? (fun row => row.intentId == some iid)

/-- The parsed output of the last row carrying `iid`. -/
def delivered (rows : List Row) (iid : String) : Option Int :=
  parseOutput (rawOutput (lastRow rows iid))

def mentioned (rows : List Row) : Finset String := (rows.filterMap Row.intentId).toFinset

theorem byIntent_get? (rows : List Row) (iid : String) :
    (byIntent rows).get? iid = lastRow rows iid := by
  induction rows using List.reverseRecOn with
  | nil => rfl
  | append_singleton rows row ih =>
    simp [byIntent, lastRow]
    cases key : row.intentId with
    | none => simpa [List.find?_cons, key, lastRow, byIntent] using ih
    | some here =>
      rw [Dict.get?_set]
      by_cases same : iid = here
      · simp [key, same]
      · have other : ¬ here = iid := fun h => same h.symm
        simpa [List.find?_cons, key, same, other, lastRow, byIntent] using ih

theorem mem_mentioned {rows} :
    iid ∈ mentioned rows ↔ (lastRow rows iid).isSome := by
  simp [mentioned, lastRow, List.find?_isSome, List.mem_filterMap]

theorem mem_byIntent_keys {rows} :
    iid ∈ (byIntent rows).keys ↔ iid ∈ mentioned rows := by
  rw [Dict.mem_keys, mem_mentioned, byIntent_get?, Option.isSome_iff_exists]

theorem orderIds_nodup (champBy chalBy : Dict String Row) : (orderIds champBy chalBy).Nodup :=
  (List.perm_insertionSort _ _).nodup_iff.mpr (List.nodup_dedup _)

theorem mem_orderIds :
    iid ∈ orderIds (byIntent champion) (byIntent challenger) ↔
      iid ∈ mentioned champion ∪ mentioned challenger := by
  simp [orderIds, mem_byIntent_keys]

/-- The number of joined order ids satisfying `p`. -/
def countOrders (champion challenger : List Row) (p : String → Bool) : Nat :=
  ((mentioned champion ∪ mentioned challenger).filter (fun iid => p iid = true)).card

theorem countP_orderIds (champion challenger : List Row) (p : String → Bool) :
    (orderIds (byIntent champion) (byIntent challenger)).countP p =
      countOrders champion challenger p := by
  have distinct := orderIds_nodup (byIntent champion) (byIntent challenger)
  rw [List.countP_eq_length_filter, ← List.toFinset_card_of_nodup (distinct.filter p),
    countOrders]
  congr 1
  ext iid
  simp [mem_orderIds]

theorem countOrders_eq_zero {p : String → Bool} :
    countOrders champion challenger p = 0 ↔
      ∀ iid ∈ mentioned champion ∪ mentioned challenger, p iid = false := by
  simp [countOrders, Finset.card_eq_zero, Finset.filter_eq_empty_iff]

theorem delivered_eq_none {rows} (absent : iid ∉ mentioned rows) :
    delivered rows iid = none := by
  have missing : lastRow rows iid = none := by
    simpa [mem_mentioned] using absent
  simp [delivered, missing, rawOutput, parseOutput]

theorem mem_orders_of_hasValue
    (value : hasValue (delivered champion iid) = true ∨ hasValue (delivered challenger iid) = true) :
    iid ∈ mentioned champion ∪ mentioned challenger := by
  by_contra absent
  obtain ⟨noChamp, noChal⟩ := not_or.mp (fun h => absent (Finset.mem_union.mpr h))
  simp [delivered_eq_none noChamp, delivered_eq_none noChal, hasValue] at value

section

variable (champion challenger : List Row) (tolBps : Int)
  (championBar : Option (Dict String Value)) (barAgeS : Option PyFloat)

def barValue (iid : String) : Option Int :=
  parseOutput ((championBar.bind (·.get? iid)).getD .none)

/-- The counters of a finished loop, as numbers of order ids. -/
structure Tallied (t : Tally) : Prop where
  wins : t.nWins = countOrders champion challenger fun iid =>
    isWin tolBps (delivered champion iid) (delivered challenger iid)
  regressions : t.nRegressions = countOrders champion challenger fun iid =>
    isRegression tolBps (delivered champion iid) (delivered challenger iid)
  catastrophic : t.nCatastrophic = countOrders champion challenger fun iid =>
    isCatastrophic tolBps (delivered champion iid) (delivered challenger iid)
  dropped : t.nDropped = countOrders champion challenger fun iid =>
    isDropped (delivered champion iid) (delivered challenger iid)
  blindSpots : t.nBlindSpots = countOrders champion challenger fun iid =>
    isCreditedCover tolBps (barValue championBar iid) barAgeS
      (delivered champion iid) (delivered challenger iid)
  matched : t.nMatched = countOrders champion challenger fun iid =>
    isMatched tolBps (delivered champion iid) (delivered challenger iid)
  compared : t.scenariosCompared = countOrders champion challenger fun iid =>
    hasValue (delivered champion iid) || hasValue (delivered challenger iid)

variable {champion challenger tolBps championBar barAgeS}

@[simp] theorem ofRows_champOut (iid : String) :
    (Comparison.ofRows champion challenger tolBps championBar barAgeS).champOut iid =
      delivered champion iid :=
  congrArg (fun row => parseOutput (rawOutput row)) (byIntent_get? champion iid)

@[simp] theorem ofRows_chalOut (iid : String) :
    (Comparison.ofRows champion challenger tolBps championBar barAgeS).chalOut iid =
      delivered challenger iid :=
  congrArg (fun row => parseOutput (rawOutput row)) (byIntent_get? challenger iid)

@[simp] theorem ofRows_barOut (iid : String) :
    (Comparison.ofRows champion challenger tolBps championBar barAgeS).barOut iid =
      barValue championBar iid := rfl

@[simp] theorem ofRows_tolBps :
    (Comparison.ofRows champion challenger tolBps championBar barAgeS).tolBps = tolBps := rfl

@[simp] theorem ofRows_barAgeS :
    (Comparison.ofRows champion challenger tolBps championBar barAgeS).barAgeS = barAgeS := rfl

theorem tallied_of_loop (tol : 0 ≤ tolBps) {t : Tally}
    (done : (orderIds (byIntent champion) (byIntent challenger)).foldlM
      (tallyOrder (Comparison.ofRows champion challenger tolBps championBar barAgeS)) {} = .ok t) :
    Tallied champion challenger tolBps championBar barAgeS t := by
  have counter := fun (field : Tally → Nat) (p : String → Bool)
      (each : ∀ t iid t', tallyOrder _ t iid = .ok t' → field t' = field t + (p iid).toNat) =>
    (foldlM_count field p each done).trans
      (congrArg (field {} + ·) (countP_orderIds champion challenger p))
  constructor
  · simpa using counter Tally.nWins _ fun _ _ _ pass => (tallyOrder_counted tol pass).wins
  · simpa using counter Tally.nRegressions _ fun _ _ _ pass =>
      (tallyOrder_counted tol pass).regressions
  · simpa using counter Tally.nCatastrophic _ fun _ _ _ pass =>
      (tallyOrder_counted tol pass).catastrophic
  · simpa using counter Tally.nDropped _ fun _ _ _ pass => (tallyOrder_counted tol pass).dropped
  · simpa using counter Tally.nBlindSpots _ fun _ _ _ pass =>
      (tallyOrder_counted tol pass).blindSpots
  · simpa using counter Tally.nMatched _ fun _ _ _ pass => (tallyOrder_counted tol pass).matched
  · simpa using counter Tally.scenariosCompared _ fun _ _ _ pass =>
      (tallyOrder_counted tol pass).compared

theorem evaluate_eq_ok {factorDelta deadwoodDelta res} :
    evaluateRelativeAdoption champion challenger tolBps championBar barAgeS factorDelta deadwoodDelta =
      .ok res ↔
    ∃ t, (orderIds (byIntent champion) (byIntent challenger)).foldlM
        (tallyOrder (Comparison.ofRows champion challenger tolBps championBar barAgeS)) {} = .ok t ∧
      (∀ i ∈ shownInts t factorDelta deadwoodDelta, Printable i) ∧
      res = verdictOf t factorDelta deadwoodDelta := by
  constructor
  · intro ran
    obtain ⟨t, done, ran⟩ := bind_eq_ok.mp ran
    obtain ⟨_, shown, ran⟩ := bind_eq_ok.mp ran
    exact ⟨t, done, of_decide_eq_true (ensure_eq_ok.mp shown), (pure_eq_ok.mp ran).symm⟩
  · rintro ⟨t, done, shown, rfl⟩
    exact bind_eq_ok.mpr ⟨t, done, bind_eq_ok.mpr ⟨(), ensure_eq_ok.mpr (decide_eq_true shown), rfl⟩⟩

theorem ok_of_adopts {result} (adopted : adopts result = true) :
    ∃ res, result = .ok res ∧ res.adopt = true := by
  cases result with
  | error e => simp [adopts] at adopted
  | ok res => exact ⟨res, rfl, adopted⟩

theorem tallied_of_adopts (tol : 0 ≤ tolBps) {factorDelta deadwoodDelta : Int}
    (adopted : adopts (evaluateRelativeAdoption champion challenger tolBps championBar barAgeS
      factorDelta deadwoodDelta) = true) :
    ∃ t, Tallied champion challenger tolBps championBar barAgeS t
      ∧ t.adopt factorDelta deadwoodDelta = true := by
  obtain ⟨res, ran, passed⟩ := ok_of_adopts adopted
  obtain ⟨t, done, -, rfl⟩ := evaluate_eq_ok.mp ran
  exact ⟨t, tallied_of_loop tol done, passed⟩

end

end MinotaurSubnet.Epoch
