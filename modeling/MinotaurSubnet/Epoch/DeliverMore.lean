import MinotaurSubnet.Epoch.CountBlock

/-! # Delivering more

A challenger that delivers at least as much on every order is compared by the same loop
over the same ids, so the two runs are read side by side. An order only moves up: a
tolerated regression to a match or a win, a match to a win, a skip to a repeat or a cover,
a repeat to a cover. While the net count stays at zero the tie bases are the same.
-/

namespace MinotaurSubnet.Epoch

open Library Python

/-- A missing or non-positive output counts as zero. -/
def amountOf (o : Option Int) : Int := max 0 (o.getD 0)

/-- The fields `_gas_of` reads. -/
def Row.gasFields (row : Row) : Value × Value × Value × Value :=
  (row.mockSimulation, row.error, row.gasBasis, row.gasMetered)

/-- The second challenger has the ids and gas fields of the first and delivers at least
    as much on each order. -/
structure DeliversMore (challenger challenger' : List Row) : Prop where
  gas : ∀ iid, (lastRow challenger' iid).map Row.gasFields =
    (lastRow challenger iid).map Row.gasFields
  outputs : ∀ iid, amountOf (delivered challenger iid) ≤ amountOf (delivered challenger' iid)

structure RowImproves (row row' : Row) : Prop where
  id : row'.intentId = row.intentId
  gas : row'.gasFields = row.gasFields
  output : amountOf (parseOutput (rawOutput (some row))) ≤ amountOf (parseOutput (rawOutput (some row')))

theorem find?_improves {p : Option String → Bool} {rows rows'}
    (improves : List.Forall₂ RowImproves rows rows') :
    Option.Rel RowImproves (rows.find? fun row => p row.intentId)
      (rows'.find? fun row => p row.intentId) := by
  induction improves with
  | nil => exact .none
  | @cons row row' rest rest' here _ ih =>
    rw [List.find?_cons, List.find?_cons, here.id]
    cases p row.intentId with
    | true => exact .some here
    | false => exact ih

theorem DeliversMore.of_rows {challenger challenger'}
    (improves : List.Forall₂ RowImproves challenger challenger') :
    DeliversMore challenger challenger' := by
  have found := fun iid => @find?_improves (· == some iid) _ _ (List.rel_reverse improves)
  constructor
  · intro iid
    have related : Option.Rel RowImproves (lastRow challenger iid) (lastRow challenger' iid) :=
      found iid
    generalize lastRow challenger iid = row, lastRow challenger' iid = row' at related ⊢
    cases related with
    | none => rfl
    | some here => simp [here.gas]
  · intro iid
    have related : Option.Rel RowImproves (lastRow challenger iid) (lastRow challenger' iid) :=
      found iid
    unfold delivered
    generalize lastRow challenger iid = row, lastRow challenger' iid = row' at related ⊢
    cases related with
    | none => exact le_rfl
    | some here => exact here.output

theorem gasOf_congr {row row'} (same : row'.map Row.gasFields = row.map Row.gasFields) :
    gasOf row' = gasOf row := by
  cases row with
  | none =>
    obtain rfl : row' = none := by simpa using same
    rfl
  | some r =>
    obtain ⟨r', rfl, fields⟩ := Option.map_eq_some_iff.mp same
    simp only [Row.gasFields, Prod.mk.injEq] at fields
    obtain ⟨mock, error, basis, metered⟩ := fields
    simp only [gasOf, mock, error, basis, metered]

theorem DeliversMore.mentioned_eq {challenger challenger'}
    (more : DeliversMore challenger challenger') :
    mentioned challenger' = mentioned challenger := by
  ext iid
  have same := congrArg Option.isSome (more.gas iid)
  simp only [Option.isSome_map] at same
  rw [mem_mentioned, mem_mentioned, same]

/-- How an order that was not dropped can move when more is delivered. -/
inductive Moves : OrderVerdict → OrderVerdict → Prop
  | same (verdict : OrderVerdict) : Moves verdict verdict
  | recovers : Moves .regression .matched
  | overtakes : Moves .regression .win
  | improves : Moves .matched .win
  | repeats : Moves .skip .blindSpotRepeat
  | covers : Moves .skip .blindSpotCover
  | exceeds : Moves .blindSpotRepeat .blindSpotCover

theorem Moves.counts {a b} (moves : Moves a b) :
    (decide (b = .regression)).toNat ≤ (decide (a = .regression)).toNat ∧
      (decide (b = .dropped)).toNat ≤ (decide (a = .dropped)).toNat ∧
      (decide (a = .win)).toNat + (decide (a = .blindSpotCover)).toNat ≤
        (decide (b = .win)).toNat + (decide (b = .blindSpotCover)).toNat ∧
      (decide (a ≠ .skip)).toNat ≤ (decide (b ≠ .skip)).toNat := by
  cases moves with
  | same => exact ⟨le_rfl, le_rfl, le_rfl, le_rfl⟩
  | recovers | overtakes | improves | repeats | covers | exceeds => simp

theorem Moves.matched_iff {a b} (moves : Moves a b) (noWin : b ≠ .win)
    (noRegression : a ≠ .regression) : a = .matched ↔ b = .matched := by
  cases moves with
  | same => exact Iff.rfl
  | overtakes | improves => exact absurd rfl noWin
  | recovers => exact absurd rfl noRegression
  | repeats | covers | exceeds => simp

theorem amountOf_pos {o} : 0 < amountOf o ↔ hasValue o = true := by
  cases o with
  | none => simp [amountOf, hasValue]
  | some v =>
    rw [hasValue_some]
    simp [amountOf]

theorem amountOf_of_hasValue {o} (value : hasValue o = true) :
    amountOf o = o.getD 0 := by
  obtain ⟨v, rfl, positive⟩ := exists_of_hasValue value
  simp [amountOf, positive.le]

theorem scaled_le {w w'} (more : w ≤ w') : w * bps ≤ w' * bps :=
  mul_le_mul_of_nonneg_right more (by decide)

theorem isRepeat_mono {tolBps bar barAgeS w w'} (more : w ≤ w')
    (again : isRepeat tolBps bar barAgeS w' = true) :
    isRepeat tolBps bar barAgeS w = true := by
  cases bar with
  | none => simp [isRepeat] at again
  | some b =>
    have scaled := scaled_le more
    simp only [isRepeat, Bool.and_eq_true, Bool.not_eq_true', decide_eq_false_iff_not] at again ⊢
    exact ⟨⟨again.1.1, by omega⟩, again.2⟩

section

variable {tolBps : Int} {bar : Option Int} {barAgeS : Option PyFloat} {champ chal chal' : Option Int}

theorem hasValue_mono (more : amountOf chal ≤ amountOf chal') (value : hasValue chal = true) :
    hasValue chal' = true :=
  amountOf_pos.mp ((amountOf_pos.mpr value).trans_le more)

theorem getD_mono (more : amountOf chal ≤ amountOf chal') (value : hasValue chal = true) :
    chal.getD 0 ≤ chal'.getD 0 := by
  have value' := hasValue_mono more value
  rwa [amountOf_of_hasValue value, amountOf_of_hasValue value'] at more

theorem bandOf_moves (more : amountOf chal ≤ amountOf chal')
    (kept : bandOf tolBps bar barAgeS champ chal ≠ .dropped) :
    Moves (bandOf tolBps bar barAgeS champ chal) (bandOf tolBps bar barAgeS champ chal') := by
  cases champValue : hasValue champ with
  | true =>
    cases chalValue : hasValue chal with
    | false => exact absurd (by simp [bandOf, champValue, chalValue]) kept
    | true =>
      have chalValue' := hasValue_mono more chalValue
      have scaled := scaled_le (getD_mono more chalValue)
      simp only [bandOf, champValue, chalValue, chalValue']
      split_ifs
      · exact .same _
      · exact .overtakes
      · exact .recovers
      · omega
      · exact .same _
      · omega
      · omega
      · exact .improves
      · exact .same _
  | false =>
    cases chalValue : hasValue chal with
    | false =>
      cases chalValue' : hasValue chal' with
      | false =>
        simp only [bandOf, champValue, chalValue, chalValue']
        exact .same _
      | true =>
        simp only [bandOf, champValue, chalValue, chalValue']
        split_ifs
        · exact .repeats
        · exact .covers
    | true =>
      have chalValue' := hasValue_mono more chalValue
      have larger := getD_mono more chalValue
      simp [bandOf, champValue, chalValue, chalValue']
      split_ifs with again again'
      · exact .same _
      · exact .exceeds
      · next again' => exact absurd ⟨isRepeat_mono larger again'.1, again'.2⟩ again
      · exact .same _

theorem isCatastrophic_mono (more : amountOf chal ≤ amountOf chal')
    (kept : bandOf tolBps bar barAgeS champ chal ≠ .dropped)
    (uncut : isCatastrophic tolBps champ chal = false) :
    isCatastrophic tolBps champ chal' = false := by
  cases champValue : hasValue champ with
  | false => exact (bands_silent tolBps champ chal' (.inl champValue)).2.2.1
  | true =>
    cases chalValue : hasValue chal with
    | false => exact absurd (by simp [bandOf, champValue, chalValue]) kept
    | true =>
      have chalValue' := hasValue_mono more chalValue
      have scaled := scaled_le (getD_mono more chalValue)
      obtain ⟨v, rfl, champPos⟩ := exists_of_hasValue champValue
      obtain ⟨w, rfl, chalPos⟩ := exists_of_hasValue chalValue
      obtain ⟨w', rfl, chalPos'⟩ := exists_of_hasValue chalValue'
      simp only [isCatastrophic, champPos, chalPos, chalPos', decide_true, Bool.true_and,
        Bool.and_eq_false_iff, decide_eq_false_iff_not, not_lt, Option.getD_some] at uncut scaled ⊢
      omega

end

theorem tallyGas_reads_of_ok {champRow chalRow v w t t' mark}
    (done : tallyGas champRow chalRow v w t = .ok (t', mark)) :
    (∃ gas, gasOf champRow = .ok gas) ∧ ∃ gas, gasOf chalRow = .ok gas := by
  simp only [tallyGas, gasMarginBps] at done
  obtain ⟨champGas, champ, done⟩ := bind_eq_ok.mp done
  obtain ⟨chalGas, chal, done⟩ := bind_eq_ok.mp done
  exact ⟨⟨champGas, champ⟩, ⟨chalGas, chal⟩⟩

theorem tallyGas_finishes {champRow chalRow} (champ : ∃ gas, gasOf champRow = .ok gas)
    (chal : ∃ gas, gasOf chalRow = .ok gas) (v w : Int) (t : Tally) :
    ∃ t' mark, tallyGas champRow chalRow v w t = .ok (t', mark) := by
  obtain ⟨champGas, champ⟩ := champ
  obtain ⟨chalGas, chal⟩ := chal
  simp only [tallyGas, gasMarginBps, champ, chal, bind, Except.bind]
  split <;> exact ⟨_, _, rfl⟩

def Comparison.ReadsGas (c : Comparison) (iid : String) : Prop :=
  isMatched c.tolBps (c.champOut iid) (c.chalOut iid) = true →
    (∃ gas, gasOf (c.champBy.get? iid) = .ok gas) ∧ ∃ gas, gasOf (c.chalBy.get? iid) = .ok gas

theorem compareOrder_finishes_iff {c iid t} :
    (∃ t' mark, compareOrder c t iid = .ok (t', mark)) ↔ c.ReadsGas iid := by
  unfold compareOrder Comparison.ReadsGas
  cases champ : hasValue (c.champOut iid) <;> cases chal : hasValue (c.chalOut iid) <;>
    simp only []
  · simp [bands_silent c.tolBps _ (c.chalOut iid) (.inl champ)]
  · refine iff_of_true ⟨_, _, rfl⟩ fun matched => ?_
    simp [bands_silent c.tolBps _ (c.chalOut iid) (.inl champ)] at matched
  · simp [bands_silent c.tolBps (c.champOut iid) _ (.inr chal)]
  · obtain ⟨v, champEq, champPos⟩ := exists_of_hasValue champ
    obtain ⟨w, chalEq, chalPos⟩ := exists_of_hasValue chal
    simp only [champEq, chalEq, Option.getD_some, tallyDelivered, isMatched, champPos, chalPos,
      decide_true, Bool.true_and, Bool.and_eq_true, Bool.not_eq_true', decide_eq_false_iff_not]
    by_cases below : w * bps < v * (bps - c.tolBps)
    · rw [if_pos below]
      refine iff_of_true ?_ fun matched => absurd below matched.1
      split <;> exact ⟨_, _, rfl⟩
    · rw [if_neg below]
      by_cases above : w * bps > v * (bps + c.tolBps)
      · rw [if_pos above]
        exact iff_of_true ⟨_, _, rfl⟩ fun matched => absurd above matched.2
      · rw [if_neg above]
        constructor
        · rintro ⟨t', mark, done⟩ -
          exact tallyGas_reads_of_ok done
        · intro reads
          obtain ⟨champReads, chalReads⟩ := reads ⟨below, above⟩
          exact tallyGas_finishes champReads chalReads _ _ _

/-- Every integer that the row of an order prints: both outputs, and the bar of a blind spot. -/
def Comparison.Prints (c : Comparison) (iid : String) : Prop :=
  Written (c.champOut iid) ∧ Written (c.chalOut iid) ∧
    (hasValue (c.champOut iid) = false → hasValue (c.chalOut iid) = true →
      hasValue (c.barOut iid) = true → Written (c.barOut iid))

theorem tallyDelivered_bar {tolBps champRow chalRow v w t t' mark}
    (done : tallyDelivered tolBps champRow chalRow v w t = .ok (t', mark)) : mark.bar = none := by
  simp only [tallyDelivered, tallyGas, gasMarginBps] at done
  split at done
  · split at done <;> obtain ⟨-, rfl⟩ := Prod.mk.inj (Except.ok.inj done) <;> rfl
  · split at done
    · obtain ⟨-, rfl⟩ := Prod.mk.inj (Except.ok.inj done)
      rfl
    · obtain ⟨champGas, -, done⟩ := bind_eq_ok.mp done
      obtain ⟨_, done⟩ := bind_ok done
      split at done <;> obtain ⟨-, rfl⟩ := Prod.mk.inj (pure_eq_ok.mp done) <;> rfl

theorem tallyBlindSpot_bar (tolBps : Int) (bar : Option Int) (barAgeS : Option PyFloat) (w : Int)
    (t : Tally) : (tallyBlindSpot tolBps bar barAgeS w t).2.bar = if hasValue bar then bar else none := by
  simp only [tallyBlindSpot]
  split <;> rfl

theorem compareOrder_bar {c t t' iid mark} (done : compareOrder c t iid = .ok (t', mark)) :
    Written mark.bar ↔ (hasValue (c.champOut iid) = false → hasValue (c.chalOut iid) = true →
      hasValue (c.barOut iid) = true → Written (c.barOut iid)) := by
  unfold compareOrder at done
  cases champ : hasValue (c.champOut iid) <;> cases chal : hasValue (c.chalOut iid) <;>
    simp only [champ, chal] at done
  · obtain ⟨-, rfl⟩ := Prod.mk.inj (Except.ok.inj done)
    exact iff_of_true written_none fun _ served => by cases served
  · have shown := tallyBlindSpot_bar c.tolBps (c.barOut iid) c.barAgeS ((c.chalOut iid).getD 0) t
    rw [congrArg Prod.snd (Except.ok.inj done)] at shown
    rw [shown]
    split
    · next value => simp [value]
    · next silent => exact iff_of_true written_none fun _ _ value => absurd value silent
  · obtain ⟨-, rfl⟩ := Prod.mk.inj (Except.ok.inj done)
    exact iff_of_true written_none fun served => by cases served
  · rw [tallyDelivered_bar done]
    exact iff_of_true written_none fun served => by cases served

theorem tallyOrder_finishes_iff {c iid t} :
    (∃ t', tallyOrder c t iid = .ok t') ↔ c.ReadsGas iid ∧ c.Prints iid := by
  simp only [tallyOrder_eq_ok]
  constructor
  · rintro ⟨t', u, mark, pass, ⟨bar, champ, chal⟩, -⟩
    exact ⟨compareOrder_finishes_iff.mp ⟨u, mark, pass⟩, champ, chal, (compareOrder_bar pass).mp bar⟩
  · rintro ⟨reads, champ, chal, bar⟩
    obtain ⟨u, mark, pass⟩ := (@compareOrder_finishes_iff _ _ t).mpr reads
    exact ⟨_, u, mark, pass, ⟨(compareOrder_bar pass).mpr bar, champ, chal⟩, rfl⟩

structure SameTie (t t' : Tally) : Prop where
  matched : t'.nMatched = t.nMatched
  champTotal : t'.champGasTotal = t.champGasTotal
  chalTotal : t'.chalGasTotal = t.chalGasTotal
  unmeasured : t'.gasUnmeasured = t.gasUnmeasured
  orderWorse : t'.gasOrderWorse = t.gasOrderWorse
  outOk : t.gasOutOk = true → t'.gasOutOk = true

/-- The second run is at least as good; while it is no better the tie base is the same. -/
structure Lifted (t t' : Tally) : Prop where
  uncut : t'.nCatastrophic = 0
  undropped : t'.nDropped = 0
  regressions : t'.nRegressions ≤ t.nRegressions
  better : t.netBetter ≤ t'.netBetter
  compared : t.scenariosCompared ≤ t'.scenariosCompared
  tie : t'.netBetter = 0 → t.nRegressions = 0 → SameTie t t'

structure Comparison.Raises (c c' : Comparison) : Prop where
  champ : c'.champBy = c.champBy
  tol : c'.tolBps = c.tolBps
  bar : c'.championBar = c.championBar
  age : c'.barAgeS = c.barAgeS
  gas : ∀ iid, gasOf (c'.chalBy.get? iid) = gasOf (c.chalBy.get? iid)
  outputs : ∀ iid, amountOf (c.chalOut iid) ≤ amountOf (c'.chalOut iid)

theorem tallyGas_sameTie {champRow chalRow chalRow' v w w' t t' t₁ t₁' mark mark'}
    (gas : gasOf chalRow' = gasOf chalRow) (more : w ≤ w') (tie : SameTie t t')
    (done : tallyGas champRow chalRow v w t = .ok (t₁, mark))
    (done' : tallyGas champRow chalRow' v w' t' = .ok (t₁', mark')) : SameTie t₁ t₁' := by
  obtain ⟨matched, champTotal, chalTotal, unmeasured, orderWorse, outOk⟩ := tie
  simp only [tallyGas, gasMarginBps, gas] at done done'
  obtain ⟨champGas, champ, done⟩ := bind_eq_ok.mp done
  obtain ⟨chalGas, chal, done⟩ := bind_eq_ok.mp done
  rw [champ] at done'
  obtain ⟨champGas', champ', done'⟩ := bind_eq_ok.mp done'
  cases champ'
  rw [chal] at done'
  obtain ⟨chalGas', chal', done'⟩ := bind_eq_ok.mp done'
  cases chal'
  cases champGas with
  | none =>
    obtain ⟨rfl, -⟩ := Prod.mk.inj (pure_eq_ok.mp done)
    obtain ⟨rfl, -⟩ := Prod.mk.inj (pure_eq_ok.mp done')
    exact ⟨matched, champTotal, chalTotal, by simp [unmeasured], orderWorse, outOk⟩
  | some cg =>
    cases chalGas with
    | none =>
      obtain ⟨rfl, -⟩ := Prod.mk.inj (pure_eq_ok.mp done)
      obtain ⟨rfl, -⟩ := Prod.mk.inj (pure_eq_ok.mp done')
      exact ⟨matched, champTotal, chalTotal, by simp [unmeasured], orderWorse, outOk⟩
    | some xg =>
      obtain ⟨rfl, -⟩ := Prod.mk.inj (pure_eq_ok.mp done)
      obtain ⟨rfl, -⟩ := Prod.mk.inj (pure_eq_ok.mp done')
      refine ⟨matched, by simp [champTotal], by simp [chalTotal], unmeasured, by simp [orderWorse], ?_⟩
      have scaled := scaled_le more
      simp only [Bool.and_eq_true, decide_eq_true_eq]
      rintro ⟨kept, parity⟩
      exact ⟨outOk kept, parity.trans scaled⟩

theorem compareOrder_sameTie {c c'} (raises : c.Raises c') {t t' t₁ t₁' iid mark mark'}
    (tie : SameTie t t') (done : compareOrder c t iid = .ok (t₁, mark))
    (done' : compareOrder c' t' iid = .ok (t₁', mark'))
    (both : mark.verdict = .matched ↔ mark'.verdict = .matched) : SameTie t₁ t₁' := by
  by_cases matched : mark.verdict = .matched
  · obtain ⟨gas, -, chalValue⟩ := compareOrder_matched done matched
    obtain ⟨gas', -, chalValue'⟩ := compareOrder_matched done' (both.mp matched)
    have larger := getD_mono (raises.outputs iid) chalValue
    have champOut : c'.champOut iid = c.champOut iid := by
      simp only [Comparison.champOut, raises.champ]
    rw [raises.champ, champOut] at gas'
    refine tallyGas_sameTie (raises.gas iid) larger ?_ gas gas'
    exact ⟨by rw [tie.matched], tie.champTotal, tie.chalTotal, tie.unmeasured, tie.orderWorse, tie.outOk⟩
  · have other' : mark'.verdict ≠ .matched := fun matched' => matched (both.mpr matched')
    obtain ⟨champTotal, chalTotal, unmeasured, orderWorse, outOk⟩ := compareOrder_gasKept done matched
    obtain ⟨champTotal', chalTotal', unmeasured', orderWorse', outOk'⟩ :=
      compareOrder_gasKept done' other'
    have count := (compareOrder_entered done).matched
    have count' := (compareOrder_entered done').matched
    refine ⟨?_, ?_, ?_, ?_, ?_, ?_⟩
    · simp [count, count', matched, other', tie.matched]
    · rw [champTotal', champTotal, tie.champTotal]
    · rw [chalTotal', chalTotal, tie.chalTotal]
    · rw [unmeasured', unmeasured, tie.unmeasured]
    · rw [orderWorse', orderWorse, tie.orderWorse]
    · rw [outOk', outOk]
      exact tie.outOk

theorem compareOrder_lifted {c c'} (raises : c.Raises c') {t t' t₁ t₁' iid mark mark'}
    (lifted : Lifted t t') (done : compareOrder c t iid = .ok (t₁, mark))
    (done' : compareOrder c' t' iid = .ok (t₁', mark')) (kept : mark.verdict ≠ .dropped)
    (uncut : mark.catastrophic = false) : Lifted t₁ t₁' := by
  have entered := compareOrder_entered done
  have entered' := compareOrder_entered done'
  have more := raises.outputs iid
  have champOut : c'.champOut iid = c.champOut iid := by simp only [Comparison.champOut, raises.champ]
  have barOut : c'.barOut iid = c.barOut iid := by simp only [Comparison.barOut, raises.bar]
  obtain ⟨band, hard⟩ := compareOrder_band done
  obtain ⟨band', hard'⟩ := compareOrder_band done'
  rw [champOut, raises.tol] at band' hard'
  rw [barOut, raises.age] at band'
  have uncut' : mark'.catastrophic = false :=
    hard'.trans (isCatastrophic_mono more (band ▸ kept) (hard.symm.trans uncut))
  have moves : Moves mark.verdict mark'.verdict := by
    rw [band, band']
    exact bandOf_moves more (band ▸ kept)
  obtain ⟨regressed, dropped, bettered, shown⟩ := moves.counts
  have better := lifted.better
  refine ⟨?_, ?_, ?_, ?_, ?_, ?_⟩
  · rw [entered'.catastrophic, lifted.uncut, uncut']
    rfl
  · rw [entered'.dropped, lifted.undropped]
    simp only [kept, decide_false, Bool.toNat_false] at dropped
    omega
  · rw [entered.regressions, entered'.regressions]
    have regressions := lifted.regressions
    omega
  · simp only [Tally.netBetter, entered.wins, entered.blindSpots, entered'.wins,
      entered'.blindSpots] at better ⊢
    omega
  · rw [entered.compared, entered'.compared]
    have compared := lifted.compared
    omega
  · intro level steady
    simp only [Tally.netBetter, entered'.wins, entered'.blindSpots] at level
    rw [entered.regressions] at steady
    have before : SameTie t t' := by
      refine lifted.tie ?_ (by omega)
      simp only [Tally.netBetter]
      omega
    have noWin : mark'.verdict ≠ .win := by
      intro won
      simp [won] at level
    have noRegression : mark.verdict ≠ .regression := by
      intro fell
      simp [fell] at steady
    exact compareOrder_sameTie raises before done done' (moves.matched_iff noWin noRegression)

/-- The first run dropped and cut nothing, so the second is lifted. -/
theorem tallyOrder_lifted {c c'} (raises : c.Raises c') {t t' t₁ t₁' iid}
    (before : t.nCatastrophic = 0 → t.nDropped = 0 → Lifted t t')
    (done : tallyOrder c t iid = .ok t₁) (done' : tallyOrder c' t' iid = .ok t₁')
    (uncut : t₁.nCatastrophic = 0) (undropped : t₁.nDropped = 0) : Lifted t₁ t₁' := by
  obtain ⟨u, mark, pass, -, rfl⟩ := tallyOrder_eq_ok.mp done
  obtain ⟨u', mark', pass', -, rfl⟩ := tallyOrder_eq_ok.mp done'
  have entered := compareOrder_entered pass
  simp only [entered.catastrophic] at uncut
  simp only [entered.dropped] at undropped
  have kept : mark.verdict ≠ .dropped := by
    intro drop
    simp [drop] at undropped
  have soft : mark.catastrophic = false := by
    cases hard : mark.catastrophic with
    | false => rfl
    | true => simp [hard] at uncut
  obtain ⟨a, b, d, e, f, g⟩ :=
    compareOrder_lifted raises (before (by omega) (by omega)) pass pass' kept soft
  exact ⟨a, b, d, e, f, fun level steady =>
    let ⟨m, cg, xg, un, ow, ok⟩ := g level steady
    ⟨m, cg, xg, un, ow, ok⟩⟩

theorem lifted_empty : Lifted {} {} :=
  ⟨rfl, rfl, le_rfl, le_rfl, le_rfl, fun _ _ => ⟨rfl, rfl, rfl, rfl, rfl, id⟩⟩

section

variable {t t' : Tally} {factorDelta deadwoodDelta : Int}

theorem SameTie.gasMeasuredFull (tie : SameTie t t') : t'.gasMeasuredFull = t.gasMeasuredFull := by
  simp only [Tally.gasMeasuredFull, tie.matched, tie.unmeasured]

theorem SameTie.gasTieWorse (tie : SameTie t t') : t'.gasTieWorse = t.gasTieWorse := by
  simp only [Tally.gasTieWorse, tie.gasMeasuredFull, tie.champTotal, tie.chalTotal, tie.orderWorse]

theorem SameTie.gasTieAdopt (tie : SameTie t t') (saturated : t'.saturatedTie = true)
    (adopted : t.gasTieAdopt = true) : t'.gasTieAdopt = true := by
  simp only [Tally.gasTieAdopt, gasMarginBps, Bool.and_eq_true, tie.matched, tie.gasMeasuredFull,
    tie.orderWorse, tie.champTotal, tie.chalTotal] at adopted ⊢
  obtain ⟨⟨⟨⟨⟨⟨-, some⟩, full⟩, noWorse⟩, cheaper⟩, parity⟩, believable⟩ := adopted
  exact ⟨⟨⟨⟨⟨⟨saturated, some⟩, full⟩, noWorse⟩, cheaper⟩, tie.outOk parity⟩, believable⟩

theorem SameTie.factorTieAdopt (tie : SameTie t t') (saturated : t'.saturatedTie = true)
    (adopted : t.factorTieAdopt factorDelta = true) : t'.factorTieAdopt factorDelta = true := by
  simp only [Tally.factorTieAdopt, factorMargin, Bool.and_eq_true, tie.gasTieWorse] at adopted ⊢
  exact ⟨⟨saturated, adopted.1.2⟩, adopted.2⟩

theorem SameTie.deadwoodTieAdopt (tie : SameTie t t') (saturated : t'.saturatedTie = true)
    (adopted : t.deadwoodTieAdopt factorDelta deadwoodDelta = true) :
    t'.deadwoodTieAdopt factorDelta deadwoodDelta = true := by
  simp only [Tally.deadwoodTieAdopt, unproductiveMargin, Bool.and_eq_true, tie.matched,
    tie.gasTieWorse] at adopted ⊢
  obtain ⟨⟨⟨⟨-, some⟩, tied⟩, notWorse⟩, cleaner⟩ := adopted
  exact ⟨⟨⟨⟨saturated, some⟩, tied⟩, notWorse⟩, cleaner⟩

theorem Lifted.clauses (lifted : Lifted t t')
    (clauses : t.performanceAdopt = true ∨ t.gasTieAdopt = true ∨
      t.factorTieAdopt factorDelta = true ∨ t.deadwoodTieAdopt factorDelta deadwoodDelta = true) :
    t'.performanceAdopt = true ∨ t'.gasTieAdopt = true ∨
      t'.factorTieAdopt factorDelta = true ∨ t'.deadwoodTieAdopt factorDelta deadwoodDelta = true := by
  have regressions := lifted.regressions
  have better := lifted.better
  rcases clauses with performance | tieBreak
  · left
    simp only [Tally.performanceAdopt, decide_eq_true_eq] at performance ⊢
    omega
  · have saturated := Tally.saturated_of_tieAdopt tieBreak
    simp only [Tally.saturatedTie, Bool.and_eq_true, decide_eq_true_eq, beq_iff_eq] at saturated
    obtain ⟨⟨compared, level⟩, steady⟩ := saturated
    by_cases ahead : 0 < t'.netBetter
    · left
      refine decide_eq_true ?_
      change t'.nRegressions + 1 ≤ t'.netBetter
      omega
    · right
      have tie := lifted.tie (by omega) steady
      have saturated' : t'.saturatedTie = true := by
        have compared' := lifted.compared
        simp [Tally.saturatedTie]
        omega
      rcases tieBreak with gas | factor | deadwood
      · exact .inl (tie.gasTieAdopt saturated' gas)
      · exact .inr (.inl (tie.factorTieAdopt saturated' factor))
      · exact .inr (.inr (tie.deadwoodTieAdopt saturated' deadwood))

theorem Lifted.adopt (lifted : Lifted t t') (adopted : t.adopt factorDelta deadwoodDelta = true) :
    t'.adopt factorDelta deadwoodDelta = true := by
  simp only [Tally.adopt, Bool.and_eq_true, Bool.or_eq_true, beq_iff_eq, or_assoc] at adopted ⊢
  exact ⟨⟨lifted.uncut, lifted.undropped⟩, lifted.clauses adopted.2⟩

end

section

variable {champion challenger challenger' : List Row} {tolBps : Int}
  {championBar : Option (Dict String Value)} {barAgeS : Option PyFloat}
  {factorDelta deadwoodDelta : Int}

theorem DeliversMore.orderIds_eq (more : DeliversMore challenger challenger') :
    orderIds (byIntent champion) (byIntent challenger') =
      orderIds (byIntent champion) (byIntent challenger) := by
  refine List.Perm.eq_of_pairwise' (orderIds_sorted _ _) (orderIds_sorted _ _) ?_
  refine (List.perm_ext_iff_of_nodup (orderIds_nodup _ _) (orderIds_nodup _ _)).mpr fun iid => ?_
  rw [mem_orderIds, mem_orderIds, more.mentioned_eq]

theorem DeliversMore.raises (more : DeliversMore challenger challenger') :
    (Comparison.ofRows champion challenger tolBps championBar barAgeS).Raises
      (Comparison.ofRows champion challenger' tolBps championBar barAgeS) where
  champ := rfl
  tol := rfl
  bar := rfl
  age := rfl
  gas := by
    intro iid
    change gasOf ((byIntent challenger').get? iid) = gasOf ((byIntent challenger).get? iid)
    rw [byIntent_get?, byIntent_get?]
    exact gasOf_congr (more.gas iid)
  outputs := by
    intro iid
    rw [ofRows_chalOut, ofRows_chalOut]
    exact more.outputs iid

def MatchedGasReads (champion challenger : List Row) (tolBps : Int) : Prop :=
  ∀ iid, isMatched tolBps (delivered champion iid) (delivered challenger iid) = true →
    (∃ gas, gasOf (lastRow champion iid) = .ok gas) ∧ ∃ gas, gasOf (lastRow challenger iid) = .ok gas

theorem ofRows_readsGas {iid} :
    (Comparison.ofRows champion challenger tolBps championBar barAgeS).ReadsGas iid ↔
      (isMatched tolBps (delivered champion iid) (delivered challenger iid) = true →
        (∃ gas, gasOf (lastRow champion iid) = .ok gas) ∧
          ∃ gas, gasOf (lastRow challenger iid) = .ok gas) := by
  have champRow : (Comparison.ofRows champion challenger tolBps championBar barAgeS).champBy.get? iid =
      lastRow champion iid := byIntent_get? champion iid
  have chalRow : (Comparison.ofRows champion challenger tolBps championBar barAgeS).chalBy.get? iid =
      lastRow challenger iid := byIntent_get? challenger iid
  simp only [Comparison.ReadsGas, ofRows_champOut, ofRows_chalOut, ofRows_tolBps, champRow, chalRow]

/-- `str` writes every output. -/
def OutputsPrint (champion challenger : List Row) : Prop :=
  ∀ iid, Written (delivered champion iid) ∧ Written (delivered challenger iid)

/-- `str` writes the bar of every blind spot. -/
def BarsPrint (champion challenger : List Row) (championBar : Option (Dict String Value)) : Prop :=
  ∀ iid, hasValue (delivered champion iid) = false → hasValue (delivered challenger iid) = true →
    hasValue (barValue championBar iid) = true → Written (barValue championBar iid)

theorem barsPrint_none : BarsPrint champion challenger none := by
  intro iid _ _ value
  cases value

/-- `str` writes the integers that the reason shows. -/
def ReasonPrints (champion challenger : List Row) (tolBps : Int)
    (championBar : Option (Dict String Value)) (barAgeS : Option PyFloat)
    (factorDelta deadwoodDelta : Int) : Prop :=
  ∀ t, (orderIds (byIntent champion) (byIntent challenger)).foldlM
      (tallyOrder (Comparison.ofRows champion challenger tolBps championBar barAgeS)) {} = .ok t →
    ∀ i ∈ shownInts t factorDelta deadwoodDelta, Printable i

theorem loop_returns_iff :
    (∃ t, (orderIds (byIntent champion) (byIntent challenger)).foldlM
      (tallyOrder (Comparison.ofRows champion challenger tolBps championBar barAgeS)) {} = .ok t) ↔
      MatchedGasReads champion challenger tolBps ∧ OutputsPrint champion challenger ∧
        BarsPrint champion challenger championBar := by
  have loop : (∃ t, (orderIds (byIntent champion) (byIntent challenger)).foldlM
      (tallyOrder (Comparison.ofRows champion challenger tolBps championBar barAgeS)) {} = .ok t) ↔
        ∀ iid ∈ mentioned champion ∪ mentioned challenger,
          (Comparison.ofRows champion challenger tolBps championBar barAgeS).ReadsGas iid ∧
            (Comparison.ofRows champion challenger tolBps championBar barAgeS).Prints iid := by
    constructor
    · rintro ⟨t, done⟩ iid member
      obtain ⟨before, after, pass⟩ := foldlM_passed done iid (mem_orderIds.mpr member)
      exact tallyOrder_finishes_iff.mp ⟨after, pass⟩
    · intro each
      exact foldlM_finishes _ {} fun before iid member =>
        tallyOrder_finishes_iff.mpr (each iid (mem_orderIds.mp member))
  rw [loop]
  constructor
  · intro each
    have printed : ∀ iid,
        (Comparison.ofRows champion challenger tolBps championBar barAgeS).Prints iid := by
      intro iid
      by_cases member : iid ∈ mentioned champion ∪ mentioned challenger
      · exact (each iid member).2
      · obtain ⟨noChamp, noChal⟩ := not_or.mp fun either => member (Finset.mem_union.mpr either)
        simp [Comparison.Prints, delivered_eq_none noChamp, delivered_eq_none noChal, written_none,
          hasValue]
    simp only [Comparison.Prints, ofRows_champOut, ofRows_chalOut, ofRows_barOut] at printed
    refine ⟨fun iid matched => ?_, fun iid => ⟨(printed iid).1, (printed iid).2.1⟩,
      fun iid => (printed iid).2.2⟩
    · have member : iid ∈ mentioned champion ∪ mentioned challenger := by
        refine mem_orders_of_hasValue (.inl ?_)
        by_contra blind
        have silent := bands_silent tolBps (delivered champion iid) (delivered challenger iid)
          (.inl (by simpa using blind))
        simp [silent.2.2.2] at matched
      exact ofRows_readsGas.mp (each iid member).1 matched
  · rintro ⟨reads, outputs, bars⟩ iid -
    refine ⟨ofRows_readsGas.mpr (reads iid), ?_⟩
    simp only [Comparison.Prints, ofRows_champOut, ofRows_chalOut, ofRows_barOut]
    exact ⟨(outputs iid).1, (outputs iid).2, bars iid⟩

theorem evaluate_returns_iff :
    (∃ res, evaluateRelativeAdoption champion challenger tolBps championBar barAgeS factorDelta
      deadwoodDelta = .ok res) ↔
      (MatchedGasReads champion challenger tolBps ∧ OutputsPrint champion challenger ∧
        BarsPrint champion challenger championBar) ∧
      ReasonPrints champion challenger tolBps championBar barAgeS factorDelta deadwoodDelta := by
  rw [← @loop_returns_iff _ _ _ _ barAgeS]
  simp only [evaluate_eq_ok]
  constructor
  · rintro ⟨_, t, done, shown, -⟩
    exact ⟨⟨t, done⟩, fun t' done' => Except.ok.inj (done.symm.trans done') ▸ shown⟩
  · rintro ⟨⟨t, done⟩, shown⟩
    exact ⟨_, t, done, shown t done, rfl⟩

/-- The declared types of what the comparison converts: an output is a text or missing, the
    metered gas an integer or missing. -/
structure Row.Declared (row : Row) : Prop where
  rawOutput : row.rawOutput = .none ∨ ∃ text, row.rawOutput = .str text
  shadowScore : row.shadowScore = .none ∨ ∃ text, row.shadowScore = .str text
  gasMetered : row.gasMetered = .none ∨ ∃ gas, row.gasMetered = .int gas

def TextBar (championBar : Option (Dict String Value)) : Prop :=
  ∀ bar ∈ championBar, ∀ iid v, bar.get? iid = some v → ∃ text, v = .str text

theorem written_of_text {v} (text : v = .none ∨ ∃ s, v = .str s) : Written (parseOutput v) := by
  rcases text with rfl | ⟨s, rfl⟩
  · exact written_none
  · intro i parsed
    have read : intOfStr (String.ofList (strip s.toList)) = some i := by rw [← parsed]; rfl
    exact printable_of_intOfStr read

theorem mem_of_lastRow {rows iid row} (found : lastRow rows iid = some row) : row ∈ rows :=
  List.mem_reverse.mp (List.mem_of_find?_eq_some found)

theorem written_delivered {rows} (declared : ∀ row ∈ rows, row.Declared) (iid : String) :
    Written (delivered rows iid) := by
  unfold delivered
  cases found : lastRow rows iid with
  | none => exact written_of_text (.inl rfl)
  | some row =>
    have typed := declared row (mem_of_lastRow found)
    simp only [rawOutput]
    split
    · exact written_of_text typed.shadowScore
    · exact written_of_text typed.rawOutput

theorem gasOf_declared {rows} (declared : ∀ row ∈ rows, row.Declared) (iid : String) :
    ∃ gas, gasOf (lastRow rows iid) = .ok gas := by
  cases found : lastRow rows iid with
  | none => exact ⟨none, rfl⟩
  | some row =>
    simp only [gasOf]
    split
    · exact ⟨_, rfl⟩
    split
    · exact ⟨_, rfl⟩
    split
    · split
      · exact ⟨_, rfl⟩
      rcases (declared row (mem_of_lastRow found)).gasMetered with missing | ⟨gas, metered⟩
      · rw [missing]
        exact ⟨_, rfl⟩
      · rw [metered]
        exact ⟨_, rfl⟩
    · exact ⟨_, rfl⟩

theorem barsPrint_of_text (bar : TextBar championBar) :
    BarsPrint champion challenger championBar := by
  intro iid _ _ _
  unfold barValue
  cases championBar with
  | none => exact written_of_text (.inl rfl)
  | some bars =>
    cases found : bars.get? iid with
    | none => simpa [found] using written_of_text (.inl rfl)
    | some v =>
      obtain ⟨text, rfl⟩ := bar bars rfl iid v found
      simpa [found] using written_of_text (.inr ⟨text, rfl⟩)

/-- A challenger that delivers more is never refused: the second call adopts, or it raises. -/
theorem adopts_iff_returns (more : DeliversMore challenger challenger')
    (adopted : adopts (evaluateRelativeAdoption champion challenger tolBps championBar barAgeS
      factorDelta deadwoodDelta) = true) :
    adopts (evaluateRelativeAdoption champion challenger' tolBps championBar barAgeS
      factorDelta deadwoodDelta) = true ↔
    ∃ res, evaluateRelativeAdoption champion challenger' tolBps championBar barAgeS
      factorDelta deadwoodDelta = .ok res := by
  obtain ⟨res, ran, passed⟩ := ok_of_adopts adopted
  constructor
  · intro adopted'
    obtain ⟨res', ran', -⟩ := ok_of_adopts adopted'
    exact ⟨res', ran'⟩
  · rintro ⟨res', ran'⟩
    rw [ran']
    obtain ⟨t, done, -, rfl⟩ := evaluate_eq_ok.mp ran
    obtain ⟨t', done', -, rfl⟩ := evaluate_eq_ok.mp ran'
    have walked := @DeliversMore.orderIds_eq champion _ _ more
    change List.foldlM _ {} (orderIds (byIntent champion) (byIntent challenger')) =
      Except.ok t' at done'
    rw [walked] at done'
    have related : t.nCatastrophic = 0 → t.nDropped = 0 → Lifted t t' := by
      refine foldlM_related (fun t t' => t.nCatastrophic = 0 → t.nDropped = 0 → Lifted t t')
        (orderIds (byIntent champion) (byIntent challenger)) {} t {} t' (fun _ _ => lifted_empty) ?_
        done done'
      intro iid _ a a' b b' before here here'
      exact tallyOrder_lifted more.raises before here here'
    replace passed : t.adopt factorDelta deadwoodDelta = true := passed
    have vetoes := passed
    simp only [Tally.adopt, Bool.and_eq_true, beq_iff_eq] at vetoes
    exact (related vetoes.1.1 vetoes.1.2).adopt passed

/-- Delivering more keeps the adoption, unless the comparison cannot read the gas of an order it
    now matches or cannot write an integer. On the declared types that is one of the reason. -/
theorem deliver_more_adopts_iff (more : DeliversMore challenger challenger')
    (adopted : adopts (evaluateRelativeAdoption champion challenger tolBps championBar barAgeS
      factorDelta deadwoodDelta) = true) :
    (adopts (evaluateRelativeAdoption champion challenger' tolBps championBar barAgeS
      factorDelta deadwoodDelta) = true ↔
        (MatchedGasReads champion challenger' tolBps ∧ OutputsPrint champion challenger' ∧
          BarsPrint champion challenger' championBar) ∧
        ReasonPrints champion challenger' tolBps championBar barAgeS factorDelta deadwoodDelta) ∧
    ((∀ row ∈ champion, row.Declared) → (∀ row ∈ challenger', row.Declared) → TextBar championBar →
      ReasonPrints champion challenger' tolBps championBar barAgeS factorDelta deadwoodDelta →
      adopts (evaluateRelativeAdoption champion challenger' tolBps championBar barAgeS
        factorDelta deadwoodDelta) = true) := by
  have kept := adopts_iff_returns more adopted
  rw [evaluate_returns_iff] at kept
  refine ⟨kept, fun champ chal bar shown =>
    kept.mpr ⟨⟨fun iid _ => ?_, fun iid => ?_, barsPrint_of_text bar⟩, shown⟩⟩
  · exact ⟨gasOf_declared champ iid, gasOf_declared chal iid⟩
  · exact ⟨written_delivered champ iid, written_delivered chal iid⟩

end

def meteredRow (iid output : String) (gas : Value) : Row where
  intentId := some iid
  rawOutput := .str output
  gasBasis := .str gasBasis
  gasMetered := gas

def meteredRows (gas : Value) (a b c : String) : List Row :=
  [meteredRow "a" a gas, meteredRow "b" b gas, meteredRow "c" c gas]

theorem meteredRows_improves {gas a b c a' b' c'}
    (first : amountOf (parseOutput (.str a)) ≤ amountOf (parseOutput (.str a')))
    (second : amountOf (parseOutput (.str b)) ≤ amountOf (parseOutput (.str b')))
    (third : amountOf (parseOutput (.str c)) ≤ amountOf (parseOutput (.str c'))) :
    DeliversMore (meteredRows gas a b c) (meteredRows gas a' b' c') :=
  .of_rows (.cons ⟨rfl, rfl, first⟩ (.cons ⟨rfl, rfl, second⟩ (.cons ⟨rfl, rfl, third⟩ .nil)))

theorem meteredRows_declared (gas : Int) (a b c : String) :
    ∀ row ∈ meteredRows (.int gas) a b c, row.Declared := by
  intro row inside
  simp only [meteredRows, List.mem_cons, List.not_mem_nil, or_false] at inside
  rcases inside with rfl | rfl | rfl <;> exact ⟨.inr ⟨_, rfl⟩, .inl rfl, .inr ⟨gas, rfl⟩⟩

/-- A tolerated regression recovers next to two wins. -/
theorem deliver_more_adopts_iff_recovered :
    adopts (evaluateRelativeAdoption (meteredRows (.int 7) "1000" "1000" "1000")
      (meteredRows (.int 7) "2000" "2000" "1000") 10 none none 0 0) = true ∧
    MatchedGasReads (meteredRows (.int 7) "1000" "1000" "1000")
      (meteredRows (.int 7) "2000" "2000" "1000") 10 ∧
    OutputsPrint (meteredRows (.int 7) "1000" "1000" "1000")
      (meteredRows (.int 7) "2000" "2000" "1000") := by
  have whole := @deliver_more_adopts_iff (meteredRows (.int 7) "1000" "1000" "1000")
    (meteredRows (.int 7) "2000" "2000" "995") (meteredRows (.int 7) "2000" "2000" "1000") 10 none
    none 0 0
    (meteredRows_improves (by decide +kernel) (by decide +kernel) (by decide +kernel))
    (by decide +kernel)
  have shown : ReasonPrints (meteredRows (.int 7) "1000" "1000" "1000")
      (meteredRows (.int 7) "2000" "2000" "1000") 10 none none 0 0 :=
    (evaluate_returns_iff.mp (isOk_iff.mp (by decide +kernel))).2
  have adopted := whole.2 (meteredRows_declared _ _ _ _) (meteredRows_declared _ _ _ _)
    (fun _ absent => by cases absent) shown
  obtain ⟨⟨reads, outputs, -⟩, -⟩ := whole.1.mp adopted
  exact ⟨adopted, reads, outputs⟩

def servedRow (iid : String) (output : Value) : Row where
  intentId := some iid
  rawOutput := output

/-- A bar that is an integer, not a text. -/
def weiBar (wei : Nat) : Dict String Value := Dict.empty.set "b" (.int wei)

/-- The second challenger also serves the blind spot, and `str` raises on its bar of 4301 digits. -/
theorem deliver_more_rejected :
    DeliversMore [servedRow "a" (.str "2000"), servedRow "b" .none]
        [servedRow "a" (.str "2000"), servedRow "b" (.str "1")] ∧
      adopts (evaluateRelativeAdoption [servedRow "a" (.str "1000")]
        [servedRow "a" (.str "2000"), servedRow "b" .none] 10
        (some (weiBar (10 ^ intMaxStrDigits))) (some (.fin 60)) 0 0) = true ∧
      adopts (evaluateRelativeAdoption [servedRow "a" (.str "1000")]
        [servedRow "a" (.str "2000"), servedRow "b" (.str "1")] 10
        (some (weiBar (10 ^ intMaxStrDigits))) (some (.fin 60)) 0 0) = false := by
  refine ⟨.of_rows (.cons ⟨rfl, rfl, le_rfl⟩ (.cons ⟨rfl, rfl, by decide +kernel⟩ .nil)),
    by decide +kernel, Bool.eq_false_iff.mpr fun adopted => ?_⟩
  obtain ⟨res, ran, -⟩ := ok_of_adopts adopted
  have shown (wei : Nat) : barValue (some (weiBar wei)) "b" = some (wei : Int) := rfl
  have written := (evaluate_returns_iff.mp ⟨res, ran⟩).1.2.2 "b" (by decide +kernel) (by decide +kernel)
  rw [shown] at written
  have short := printable_iff.mp (written (by decide +kernel) _ rfl)
  rw [Int.natAbs_natCast] at short
  exact absurd short (lt_irrefl _)

end MinotaurSubnet.Epoch
