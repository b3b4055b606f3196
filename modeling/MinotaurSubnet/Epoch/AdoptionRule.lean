import MinotaurSubnet.Epoch.AdoptionTally

/-! # What an adoption guarantees

A dethrone keeps every order the champion serves within the hard floor, and it
is either net better on breadth or a tie on every order. Both halves are read
off the tallies: the two vetoes bound single orders, the four clauses bound the
counts.
-/

namespace MinotaurSubnet.Epoch

open Library Python

theorem adopt_cases {t : Tally} {factorDelta deadwoodDelta}
    (adopted : t.adopt factorDelta deadwoodDelta = true) :
    t.nCatastrophic = 0 ∧ t.nDropped = 0
      ∧ (t.nRegressions + dethroneWinMargin ≤ t.netBetter
        ∨ (t.netBetter = 0 ∧ t.nRegressions = 0)) := by
  simp only [Tally.adopt, Bool.and_eq_true, beq_iff_eq, Bool.or_eq_true] at adopted
  obtain ⟨⟨cuts, drops⟩, clause⟩ := adopted
  refine ⟨cuts, drops, ?_⟩
  have ofTie : t.saturatedTie = true → t.netBetter = 0 ∧ t.nRegressions = 0 := by
    intro tie
    simp only [Tally.saturatedTie, Bool.and_eq_true, beq_iff_eq] at tie
    exact ⟨tie.1.2, tie.2⟩
  rcases clause with ((performance | gas) | factor) | deadwood
  · exact .inl (by simpa [Tally.performanceAdopt] using performance)
  · simp only [Tally.gasTieAdopt, gasMarginBps, Bool.and_eq_true] at gas
    exact .inr (ofTie gas.1.1.1.1.1.1)
  · simp only [Tally.factorTieAdopt, factorMargin, Bool.and_eq_true] at factor
    exact .inr (ofTie factor.1.1)
  · simp only [Tally.deadwoodTieAdopt, unproductiveMargin, Bool.and_eq_true] at deadwood
    exact .inr (ofTie deadwood.1.1.1.1)

def isTolerated (tolBps : Int) (champ chal : Option Int) : Bool :=
  isRegression tolBps champ chal && !isCatastrophic tolBps champ chal

def isGain (tolBps : Int) (bar : Option Int) (barAgeS : Option PyFloat)
    (champ chal : Option Int) : Bool :=
  isWin tolBps champ chal || isCreditedCover tolBps bar barAgeS champ chal

variable {champion challenger : List Row}

theorem countOrders_congr {p q : String → Bool}
    (same : ∀ iid ∈ mentioned champion ∪ mentioned challenger, p iid = q iid) :
    countOrders champion challenger p = countOrders champion challenger q := by
  unfold countOrders
  congr 1
  apply Finset.filter_congr
  intro iid member
  rw [same iid member]

theorem countOrders_or {p q : String → Bool} (apart : ∀ iid, p iid = true → q iid = false) :
    countOrders champion challenger (fun iid => p iid || q iid) =
      countOrders champion challenger p + countOrders champion challenger q := by
  unfold countOrders
  rw [← Finset.card_union_of_disjoint, ← Finset.filter_or]
  · congr 1
    ext iid
    simp
  · apply Finset.disjoint_filter.mpr
    intro iid _ hp hq
    simp [apart iid hp] at hq

theorem win_not_cover {tolBps bar barAgeS champ chal} (win : isWin tolBps champ chal = true) :
    isCreditedCover tolBps bar barAgeS champ chal = false := by
  cases value : hasValue champ with
  | true => simp [isCreditedCover, value]
  | false => simp [(bands_silent tolBps champ chal (.inl value)).1] at win

theorem served_within_floor {tolBps} (floor : tolBps ≤ floorBps) {champ chal}
    (uncut : isCatastrophic tolBps champ chal = false) (kept : isDropped champ chal = false) {v}
    (served : champ = some v) (pos : 0 < v) :
    ∃ w, chal = some w ∧ 0 < w ∧ w * bps ≥ v * (bps - floorBps) := by
  have champValue : hasValue champ = true := by rw [served]; exact hasValue_some.mpr pos
  have chalValue : hasValue chal = true := by simpa [isDropped, champValue] using kept
  obtain ⟨w, found, chalPos⟩ := exists_of_hasValue chalValue
  refine ⟨w, found, chalPos, ?_⟩
  by_contra cut
  have belowFloor : w * bps < v * (bps - floorBps) := not_le.mp cut
  have belowBand : w * bps < v * (bps - tolBps) :=
    belowFloor.trans_le (mul_le_mul_of_nonneg_left (by omega) pos.le)
  simp [isCatastrophic, served, found, pos, chalPos, belowFloor, belowBand] at uncut

theorem band_empty {p : String → Bool} (needs : ∀ iid, p iid = true →
      hasValue (delivered champion iid) = true ∨ hasValue (delivered challenger iid) = true)
    (zero : countOrders champion challenger p = 0) (iid : String) : p iid = false := by
  cases inside : p iid with
  | false => rfl
  | true =>
    have member := mem_orders_of_hasValue (needs iid inside)
    exact inside.symm.trans (countOrders_eq_zero.mp zero iid member)

theorem champ_delivers_of_band {tolBps champ chal}
    (inside : isWin tolBps champ chal = true ∨ isRegression tolBps champ chal = true) :
    hasValue champ = true := by
  cases value : hasValue champ with
  | true => rfl
  | false =>
    obtain ⟨noWin, noRegression, -⟩ := bands_silent tolBps champ chal (.inl value)
    simp [noWin, noRegression] at inside

section

variable {champion challenger : List Row} {championBar : Option (Dict String Value)}
  {barAgeS : Option PyFloat}

theorem not_dropped_of_adopts {factorDelta deadwoodDelta}
    (adopted : adopts (evaluateRelativeAdoption champion challenger relativeTolBps championBar barAgeS
      factorDelta deadwoodDelta) = true)
    {iid} (served : hasValue (delivered champion iid) = true) :
    hasValue (delivered challenger iid) = true := by
  obtain ⟨t, tallied, adopt⟩ := tallied_of_adopts (by decide) adopted
  obtain ⟨-, noDrops, -⟩ := adopt_cases adopt
  have kept := countOrders_eq_zero.mp (tallied.dropped.symm.trans noDrops) iid
    (mem_orders_of_hasValue (.inl served))
  simpa [isDropped, served] using kept

theorem adopts_floor_and_margin {factorDelta deadwoodDelta : Int}
    (adopted : adopts (evaluateRelativeAdoption champion challenger relativeTolBps championBar
      barAgeS factorDelta deadwoodDelta) = true) :
    (∀ iid v, delivered champion iid = some v → 0 < v →
      ∃ w, delivered challenger iid = some w ∧ 0 < w ∧ w * bps ≥ v * (bps - floorBps))
    ∧ (countOrders champion challenger (fun iid =>
          isTolerated relativeTolBps (delivered champion iid) (delivered challenger iid))
        + dethroneWinMargin
        ≤ countOrders champion challenger (fun iid =>
          isGain relativeTolBps (barValue championBar iid) barAgeS
            (delivered champion iid) (delivered challenger iid))
      ∨ ∀ iid,
          isRegression relativeTolBps (delivered champion iid) (delivered challenger iid) = false
          ∧ isWin relativeTolBps (delivered champion iid) (delivered challenger iid) = false
          ∧ isCreditedCover relativeTolBps (barValue championBar iid) barAgeS
              (delivered champion iid) (delivered challenger iid) = false) := by
  obtain ⟨t, tallied, adopt⟩ := tallied_of_adopts (by decide) adopted
  obtain ⟨noCuts, noDrops, clause⟩ := adopt_cases adopt
  have uncut := countOrders_eq_zero.mp (tallied.catastrophic.symm.trans noCuts)
  have kept := countOrders_eq_zero.mp (tallied.dropped.symm.trans noDrops)
  have tolerated : countOrders champion challenger (fun iid =>
      isTolerated relativeTolBps (delivered champion iid) (delivered challenger iid)) =
      t.nRegressions := by
    rw [tallied.regressions]
    exact countOrders_congr fun iid member => by simp [isTolerated, uncut iid member]
  have gains : countOrders champion challenger (fun iid =>
      isGain relativeTolBps (barValue championBar iid) barAgeS
        (delivered champion iid) (delivered challenger iid)) = t.netBetter := by
    rw [Tally.netBetter, tallied.wins, tallied.blindSpots]
    exact countOrders_or fun iid win => win_not_cover win
  refine ⟨?_, ?_⟩
  · intro iid v served pos
    have member : iid ∈ mentioned champion ∪ mentioned challenger :=
      mem_orders_of_hasValue (.inl (by rw [served]; exact hasValue_some.mpr pos))
    exact served_within_floor (by decide) (uncut iid member) (kept iid member) served pos
  · rw [tolerated, gains]
    refine clause.imp id ?_
    rintro ⟨noGain, noRegression⟩ iid
    simp only [Tally.netBetter, Nat.add_eq_zero_iff] at noGain
    refine ⟨?_, ?_, ?_⟩
    · exact band_empty (fun iid h => .inl (champ_delivers_of_band (.inr h)))
        (tallied.regressions.symm.trans noRegression) iid
    · exact band_empty (fun iid h => .inl (champ_delivers_of_band (.inl h)))
        (tallied.wins.symm.trans noGain.1) iid
    · refine band_empty (fun iid h => .inr ?_) (tallied.blindSpots.symm.trans noGain.2) iid
      simp only [isCreditedCover, Bool.and_eq_true] at h
      exact h.1.2

/-- Three orders: one win, one cover of a blind spot, one regression of 0.5%. -/
theorem adopts_floor_and_margin_netted :
    let champion : List Row :=
      [ { intentId := some "a", rawOutput := .str "1000" },
        { intentId := some "b", rawOutput := .str "1000" },
        { intentId := some "c", rawOutput := .str "0" } ]
    let challenger : List Row :=
      [ { intentId := some "a", rawOutput := .str "1100" },
        { intentId := some "b", rawOutput := .str "995" },
        { intentId := some "c", rawOutput := .str "7" } ]
    adopts (evaluateRelativeAdoption champion challenger relativeTolBps none none 0 0) = true
      ∧ ∃ w, delivered challenger "b" = some w ∧ 0 < w ∧ w * bps ≥ 1000 * (bps - floorBps) := by
  intro champion challenger
  have adopted : adopts (evaluateRelativeAdoption champion challenger relativeTolBps none none 0 0)
      = true := by decide
  exact ⟨adopted, (adopts_floor_and_margin adopted).1 "b" 1000 (by decide) (by decide)⟩

end

end MinotaurSubnet.Epoch
