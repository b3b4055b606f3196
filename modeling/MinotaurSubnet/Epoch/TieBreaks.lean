import Mathlib.Algebra.BigOperators.Fin
import Mathlib.Data.Prod.Lex
import Mathlib.Algebra.Order.BigOperators.Group.Finset
import MinotaurSubnet.Epoch.AdoptionRule

/-! # Chains of tie-break dethrones

Solvers that deliver the same on every order can only dethrone through the gas clause,
which says nothing about the max region, and the factor clause, which tolerates a bounded
gas increase. Neither measure decreases under both, and three dethrones can return to the
first champion; a chain along which one measure never rises does not.
-/

namespace MinotaurSubnet.Epoch

open Library Python

/-- One side's share of a matched order: counted only when both sides are measured. -/
def spentGas (own other : Option Int) : Int :=
  match own, other with
  | some gas, some _ => gas
  | _, _ => 0

/-- What a completed pass over `iid` does to the gas accumulators. -/
structure GasCounted (c : Comparison) (iid : String) (champGas chalGas : Option Int)
    (t t' : Tally) : Prop where
  unmeasured : t'.gasUnmeasured = t.gasUnmeasured +
    (isMatched c.tolBps (c.champOut iid) (c.chalOut iid)
      && !(champGas.isSome && chalGas.isSome)).toNat
  champTotal : t'.champGasTotal = t.champGasTotal +
    if isMatched c.tolBps (c.champOut iid) (c.chalOut iid) then spentGas champGas chalGas else 0
  chalTotal : t'.chalGasTotal = t.chalGasTotal +
    if isMatched c.tolBps (c.champOut iid) (c.chalOut iid) then spentGas chalGas champGas else 0

variable {champGas chalGas : Option Int}

theorem tallyGas_counts {champRow chalRow v w t t' mark} (champ : gasOf champRow = .ok champGas)
    (chal : gasOf chalRow = .ok chalGas) (done : tallyGas champRow chalRow v w t = .ok (t', mark)) :
    t'.gasUnmeasured = t.gasUnmeasured + (!(champGas.isSome && chalGas.isSome)).toNat ∧
      t'.champGasTotal = t.champGasTotal + spentGas champGas chalGas ∧
      t'.chalGasTotal = t.chalGasTotal + spentGas chalGas champGas := by
  simp only [tallyGas, gasMarginBps, champ, chal, bind, Except.bind] at done
  split at done <;> obtain ⟨rfl, -⟩ := Prod.mk.inj (pure_eq_ok.mp done)
  · simp [spentGas]
  · cases champGas <;> cases chalGas <;> simp_all [spentGas]

theorem tallyOrder_reads {c iid} (champ : gasOf (c.champBy.get? iid) = .ok champGas)
    (chal : gasOf (c.chalBy.get? iid) = .ok chalGas) {t t'} (done : tallyOrder c t iid = .ok t') :
    GasCounted c iid champGas chalGas t t' := by
  obtain ⟨u, mark, pass, -, rfl⟩ := tallyOrder_eq_ok.mp done
  have matched := isMatched_eq c.tolBps (c.barOut iid) c.barAgeS (c.champOut iid) (c.chalOut iid)
  rw [← (compareOrder_band pass).1] at matched
  by_cases inside : mark.verdict = .matched
  · obtain ⟨unmeasured, champTotal, chalTotal⟩ :=
      tallyGas_counts champ chal (compareOrder_matched pass inside).1
    constructor <;> simp [matched, inside, unmeasured, champTotal, chalTotal]
  · obtain ⟨champTotal, chalTotal, unmeasured, -⟩ := compareOrder_gasKept pass inside
    constructor <;> simp [matched, inside, unmeasured, champTotal, chalTotal]

def GasReads (rows : List Row) : Prop := ∀ iid, ∃ gas, gasOf (lastRow rows iid) = .ok gas

/-- The gas of the last row carrying `iid`, when it is measured. -/
def gasAt (rows : List Row) (iid : String) : Option Int :=
  match gasOf (lastRow rows iid) with
  | .ok gas => gas
  | .error _ => none

theorem gasOf_lastRow {rows} (reads : GasReads rows) (iid : String) :
    gasOf ((byIntent rows).get? iid) = .ok (gasAt rows iid) := by
  obtain ⟨gas, read⟩ := reads iid
  rw [byIntent_get?, gasAt, read]

section

variable (champion challenger : List Row) (tolBps : Int)

def tiedOrders : Finset String :=
  (mentioned champion ∪ mentioned challenger).filter fun iid =>
    isMatched tolBps (delivered champion iid) (delivered challenger iid) = true

structure GasTallied (t : Tally) : Prop where
  unmeasured : t.gasUnmeasured = countOrders champion challenger fun iid =>
    isMatched tolBps (delivered champion iid) (delivered challenger iid)
      && !((gasAt champion iid).isSome && (gasAt challenger iid).isSome)
  champTotal : t.champGasTotal = ∑ iid ∈ tiedOrders champion challenger tolBps,
    spentGas (gasAt champion iid) (gasAt challenger iid)
  chalTotal : t.chalGasTotal = ∑ iid ∈ tiedOrders champion challenger tolBps,
    spentGas (gasAt challenger iid) (gasAt champion iid)

variable {champion challenger tolBps} {championBar : Option (Dict String Value)}
  {barAgeS : Option PyFloat}

theorem sum_orderIds (amount : String → Int) :
    ((orderIds (byIntent champion) (byIntent challenger)).map fun iid =>
      if isMatched tolBps (delivered champion iid) (delivered challenger iid) then amount iid
      else 0).sum = ∑ iid ∈ tiedOrders champion challenger tolBps, amount iid := by
  rw [← List.sum_toFinset _ (orderIds_nodup _ _), tiedOrders, Finset.sum_filter]
  apply Finset.sum_congr
  · ext iid
    rw [List.mem_toFinset, mem_orderIds]
  · exact fun _ _ => rfl

theorem gasTallied_of_loop (champReads : GasReads champion) (chalReads : GasReads challenger)
    {t : Tally} (done : (orderIds (byIntent champion) (byIntent challenger)).foldlM
      (tallyOrder (Comparison.ofRows champion challenger tolBps championBar barAgeS)) {} = .ok t) :
    GasTallied champion challenger tolBps t := by
  have each : ∀ t iid t',
      tallyOrder (Comparison.ofRows champion challenger tolBps championBar barAgeS) t iid = .ok t' →
      GasCounted (Comparison.ofRows champion challenger tolBps championBar barAgeS) iid
        (gasAt champion iid) (gasAt challenger iid) t t' := by
    intro t iid t' pass
    exact tallyOrder_reads (gasOf_lastRow champReads iid) (gasOf_lastRow chalReads iid) pass
  constructor
  · have counter := foldlM_count Tally.gasUnmeasured _ (fun t iid t' h => (each t iid t' h).unmeasured)
      done
    rw [countP_orderIds] at counter
    simpa using counter
  · have total := foldlM_sum Tally.champGasTotal _ (fun t iid t' h => (each t iid t' h).champTotal)
      done
    simp only [ofRows_champOut, ofRows_chalOut, ofRows_tolBps, sum_orderIds] at total
    simpa using total
  · have total := foldlM_sum Tally.chalGasTotal _ (fun t iid t' h => (each t iid t' h).chalTotal)
      done
    simp only [ofRows_champOut, ofRows_chalOut, ofRows_tolBps, sum_orderIds] at total
    simpa using total

theorem gasTallied_of_adopts (champReads : GasReads champion) (chalReads : GasReads challenger)
    (tol : 0 ≤ tolBps) {factorDelta deadwoodDelta : Int}
    (adopted : adopts (evaluateRelativeAdoption champion challenger tolBps championBar barAgeS
      factorDelta deadwoodDelta) = true) :
    ∃ t, Tallied champion challenger tolBps championBar barAgeS t
      ∧ GasTallied champion challenger tolBps t ∧ t.adopt factorDelta deadwoodDelta = true := by
  obtain ⟨res, ran, passed⟩ := ok_of_adopts adopted
  obtain ⟨t, done, -, rfl⟩ := evaluate_eq_ok.mp ran
  exact ⟨t, tallied_of_loop tol done, gasTallied_of_loop champReads chalReads done, passed⟩

end

/-- The orders of a round and the output every solver delivers on them. -/
structure OrderBook where
  ids : Finset String
  output : String → Int
  positive : ∀ iid ∈ ids, 0 < output iid

structure Contender (book : OrderBook) where
  rows : List Row
  maxRegionNodes : Int
  covers : mentioned rows = book.ids
  delivers : ∀ iid ∈ book.ids, delivered rows iid = some (book.output iid)
  metered : ∀ iid ∈ book.ids, ∃ gas, gasOf (lastRow rows iid) = .ok (some gas)

/-- `challenger` is adopted over `champion`, whatever bar the call is given. -/
def Dethrones {book : OrderBook} (champion challenger : Contender book) : Prop :=
  ∃ championBar barAgeS,
    adopts (evaluateRelativeAdoption champion.rows challenger.rows relativeTolBps championBar barAgeS
      (factorDeltaBetween (some champion.maxRegionNodes) (some challenger.maxRegionNodes)) 0) = true

theorem gasOf_pos {row gas} (read : gasOf row = .ok (some gas)) : 0 < gas := by
  unfold gasOf at read
  grind

namespace Contender

variable {book : OrderBook}

def gas (s : Contender book) (iid : String) : Int := (gasAt s.rows iid).getD 0

def totalGas (s : Contender book) : Int := ∑ iid ∈ book.ids, s.gas iid

variable (s : Contender book)

theorem gasAt_eq {iid} (member : iid ∈ book.ids) :
    gasAt s.rows iid = some (s.gas iid) ∧ 0 < s.gas iid := by
  obtain ⟨gas, read⟩ := s.metered iid member
  have found : gasAt s.rows iid = some gas := by rw [gasAt, read]
  simp [Contender.gas, found]
  exact gasOf_pos read

theorem reads : GasReads s.rows := by
  intro iid
  by_cases member : iid ∈ book.ids
  · obtain ⟨gas, read⟩ := s.metered iid member
    exact ⟨some gas, read⟩
  · have absent : lastRow s.rows iid = none := by
      rw [← s.covers, mem_mentioned] at member
      simpa using member
    exact ⟨none, by rw [absent]; rfl⟩

theorem totalGas_nonneg : 0 ≤ s.totalGas :=
  Finset.sum_nonneg fun _ member => (s.gasAt_eq member).2.le

end Contender

section

variable {book : OrderBook} {champion challenger : Contender book}

theorem parity_bands {v} (pos : 0 < v) :
    isWin relativeTolBps (some v) (some v) = false
      ∧ isMatched relativeTolBps (some v) (some v) = true := by
  constructor
  · refine Bool.eq_false_iff.mpr fun win => ?_
    simp only [isWin, Bool.and_eq_true, decide_eq_true_iff] at win
    simp only [relativeTolBps, bps] at win
    omega
  · simp [isMatched]
    simp only [relativeTolBps, bps]
    omega

theorem orders_eq (champion challenger : Contender book) :
    mentioned champion.rows ∪ mentioned challenger.rows = book.ids := by
  rw [champion.covers, challenger.covers, Finset.union_self]

theorem tiedOrders_eq (champion challenger : Contender book) :
    tiedOrders champion.rows challenger.rows relativeTolBps = book.ids := by
  rw [tiedOrders, orders_eq, Finset.filter_eq_self]
  intro iid member
  rw [champion.delivers iid member, challenger.delivers iid member]
  exact (parity_bands (book.positive iid member)).2

theorem netBetter_zero {championBar barAgeS t}
    (tallied : Tallied champion.rows challenger.rows relativeTolBps championBar barAgeS t) :
    t.netBetter = 0 := by
  have wins : t.nWins = 0 := by
    refine tallied.wins.trans (countOrders_eq_zero.mpr ?_)
    rw [orders_eq]
    intro iid member
    rw [champion.delivers iid member, challenger.delivers iid member]
    exact (parity_bands (book.positive iid member)).1
  have covers : t.nBlindSpots = 0 := by
    refine tallied.blindSpots.trans (countOrders_eq_zero.mpr ?_)
    rw [orders_eq]
    intro iid member
    have value : hasValue (delivered champion.rows iid) = true := by
      rw [champion.delivers iid member]
      exact hasValue_some.mpr (book.positive iid member)
    simp [isCreditedCover, value]
  simp [Tally.netBetter, wins, covers]

theorem spentGas_total (own other : Contender book) :
    ∑ iid ∈ book.ids, spentGas (gasAt own.rows iid) (gasAt other.rows iid) = own.totalGas :=
  Finset.sum_congr rfl fun iid member => by
    rw [(own.gasAt_eq member).1, (other.gasAt_eq member).1, spentGas]

theorem dethrone_lowers (step : Dethrones champion challenger) :
    challenger.totalGas < champion.totalGas
      ∨ challenger.maxRegionNodes < champion.maxRegionNodes := by
  obtain ⟨championBar, barAgeS, adopted⟩ := step
  obtain ⟨t, tallied, gasTallied, adopted⟩ :=
    gasTallied_of_adopts champion.reads challenger.reads (by decide) adopted
  have level := netBetter_zero tallied
  have champTotal := gasTallied.champTotal
  have chalTotal := gasTallied.chalTotal
  rw [tiedOrders_eq, spentGas_total] at champTotal chalTotal
  simp only [Tally.adopt, Bool.and_eq_true, Bool.or_eq_true] at adopted
  rcases adopted.2 with ((performance | gas) | factor) | deadwood
  · simp [Tally.performanceAdopt, level, dethroneWinMargin] at performance
  · left
    simp only [Tally.gasTieAdopt, gasMarginBps, Bool.and_eq_true, decide_eq_true_iff] at gas
    have cheaper := gas.1.1.2
    rw [champTotal, chalTotal] at cheaper
    have := champion.totalGas_nonneg
    simp only [bps] at cheaper
    omega
  · right
    simp only [Tally.factorTieAdopt, factorMargin, Bool.and_eq_true, decide_eq_true_iff] at factor
    have smaller := factor.1.2
    simp only [factorDeltaBetween] at smaller
    omega
  · simp [Tally.deadwoodTieAdopt, unproductiveMargin] at deadwood

/-- A run that keeps lowering a measure in some strict order never repeats a state. -/
theorem nodup_of_lowers {α : Type*} [Preorder α] (measure : Contender book → α)
    {run : List (Contender book)}
    (lowers : run.IsChain fun earlier later => measure later < measure earlier) : run.Nodup := by
  have falling : (run.map measure).IsChain (· > ·) := (List.isChain_map measure).mpr lowers
  exact falling.pairwise.nodup.of_map

theorem dethrone_run_nodup {run : List (Contender book)}
    (steps : run.IsChain (fun champion challenger => Dethrones champion challenger
          ∧ challenger.maxRegionNodes ≤ champion.maxRegionNodes)
      ∨ run.IsChain (fun champion challenger => Dethrones champion challenger
          ∧ challenger.totalGas ≤ champion.totalGas)) :
    run.Nodup := by
  rcases steps with nodes | gas
  · refine nodup_of_lowers (fun s => toLex (s.maxRegionNodes, s.totalGas)) (nodes.imp ?_)
    rintro champion challenger ⟨step, atMost⟩
    refine Prod.Lex.toLex_lt_toLex'.mpr ⟨atMost, fun same => ?_⟩
    rcases dethrone_lowers step with cheaper | smaller
    · exact cheaper
    · exact absurd same smaller.ne
  · refine nodup_of_lowers (fun s => toLex (s.totalGas, s.maxRegionNodes)) (gas.imp ?_)
    rintro champion challenger ⟨step, atMost⟩
    refine Prod.Lex.toLex_lt_toLex'.mpr ⟨atMost, fun same => ?_⟩
    rcases dethrone_lowers step with cheaper | smaller
    · exact absurd same cheaper.ne
    · exact smaller

end

def singleOrder : OrderBook where
  ids := {"o"}
  output := fun _ => 1000
  positive := fun _ _ => by decide

def meteredSolver (gas : Nat) (pos : 0 < gas) (maxRegionNodes : Int) : Contender singleOrder where
  rows := [{ intentId := some "o", rawOutput := .int 1000, gasBasis := .str gasBasis,
             gasMetered := .int gas }]
  maxRegionNodes := maxRegionNodes
  covers := rfl
  delivers := by
    intro iid member
    obtain rfl := Finset.mem_singleton.mp member
    rfl
  metered := by
    intro iid member
    obtain rfl := Finset.mem_singleton.mp member
    exact ⟨gas, by simp [lastRow, gasOf, Value.truthy, Value.isNone, Value.toInt, pos]⟩

/-- Two factor dethrones, each 2% gassier, and one gas dethrone back. -/
theorem dethrone_cycle :
    ¬ ∀ (book : OrderBook) (s : Contender book), ¬ Relation.TransGen Dethrones s s := by
  intro acyclic
  let a := meteredSolver 1000 (by decide) 1000
  let b := meteredSolver 1020 (by decide) 900
  let c := meteredSolver 1040 (by decide) 800
  have ab : Dethrones a b := ⟨none, none, by decide⟩
  have bc : Dethrones b c := ⟨none, none, by decide⟩
  have ca : Dethrones c a := ⟨none, none, by decide⟩
  exact acyclic singleOrder a (((Relation.TransGen.single ab).tail bc).tail ca)

theorem dethrone_run_nodup_factor :
    [meteredSolver 1000 (by decide) 1000, meteredSolver 1020 (by decide) 900,
      meteredSolver 1040 (by decide) 800].Nodup := by
  refine dethrone_run_nodup (.inl ?_)
  exact .cons_cons ⟨⟨none, none, by decide⟩, by decide⟩
    (.cons_cons ⟨⟨none, none, by decide⟩, by decide⟩ (.singleton _))

end MinotaurSubnet.Epoch
