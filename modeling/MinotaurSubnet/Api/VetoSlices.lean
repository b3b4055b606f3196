import MinotaurSubnet.Api.VetoPasses
import MinotaurSubnet.Epoch.DeliverMore
import MinotaurSubnet.Library.UpToOrder

/-! # The hard veto, slice by slice

A slice is benched alone and its evidence is read off the verdict of its own rows. The rule and
the evidence both look at one order at a time, through the last row that carries its label, so
cutting the orders into slices neither loses a hard loss nor adds one.
-/

namespace MinotaurSubnet.Veto

open Library Python Epoch

def rowsOf (orders : List OrderRecord) (rows : List Row) : List Row :=
  rows.filter fun row => row.intentId.any fun iid => decide (iid ∈ orders.map OrderRecord.label)

namespace SliceEvidence

def verdict (e : SliceEvidence) : String := if e.violations = [] then verdictOk else verdictVeto

/-- How `run_slice_bench` answers once both sides are benched; `none` refuses on a lost row. -/
def answer (e : SliceEvidence) (expected : Nat) : Option String :=
  if e.matchedRows ≠ expected then none else some e.verdict

end SliceEvidence

section

variable (champion challenger : List Row) (tolBps : Int)

def sliceEvidence (slice : List OrderRecord) : Except PyError SliceEvidence := do
  let verdict ← evaluateRelativeAdoption (rowsOf slice champion) (rowsOf slice challenger) tolBps
  return extractSliceEvidence verdict slice [] (rowsOf slice challenger)

def sliceViolations (slice : List OrderRecord) : List SliceViolation :=
  ((sliceEvidence champion challenger tolBps slice).toOption.map SliceEvidence.violations).getD []

def sliceVerdict (slice : List OrderRecord) : Option String :=
  (sliceEvidence champion challenger tolBps slice).toOption.map SliceEvidence.verdict

def Extends (slice : List OrderRecord) (rows rows' : List Row) : Prop :=
  rowsOf slice rows' = rowsOf slice rows

end

def lossRow (oid : String) (row : OrderRow) : Option SliceViolation :=
  let violation (kind : String) : SliceViolation :=
    { orderId := oid, kind, champRaw := rawText row.champ, chalRaw := rawText row.chal }
  if row.mark.verdict = .dropped then some (violation violationDropped)
  else if row.mark.catastrophic then some (violation violationCatastrophic)
  else none

def hardLoss (whole : Verdict) (o : OrderRecord) : Option SliceViolation :=
  (whole.tally.perOrder.find? (·.intentId = o.label)).bind (lossRow o.idText)

def HardVetoed (whole : Verdict) : Prop := whole.tally.nCatastrophic ≠ 0 ∨ whole.tally.nDropped ≠ 0

/-- `_is_catastrophic` on the strings of a row. -/
def isCatastrophicText (champ chal : Option String) : Bool :=
  isCatastrophic (champ.bind intOfStr) (chal.bind intOfStr)

structure Reported (champion challenger : List Row) (tolBps : Int) (row : OrderRow) : Prop where
  champ : row.champ = delivered champion row.intentId
  chal : row.chal = delivered challenger row.intentId
  champWritten : Written row.champ
  chalWritten : Written row.chal
  dropped : row.mark.verdict = .dropped ↔ isDropped row.champ row.chal = true
  catastrophic : row.mark.catastrophic = Epoch.isCatastrophic tolBps row.champ row.chal
  hard : row.mark.catastrophic = true → row.mark.verdict = .regression
  regression : row.mark.verdict = .regression → hasValue row.champ = true ∧ hasValue row.chal = true ∧
    (row.chal.getD 0) * bps < (row.champ.getD 0) * (bps - tolBps)

section

variable {tolBps : Int} {bar : Option Int} {barAgeS : Option PyFloat} {champ chal : Option Int}

theorem bandOf_dropped : bandOf tolBps bar barAgeS champ chal = .dropped ↔ isDropped champ chal = true := by
  unfold bandOf isDropped
  cases hasValue champ <;> cases hasValue chal <;> simp only []
  · simp
  · split <;> simp
  · simp
  · split
    · simp
    · split <;> simp

theorem bandOf_regression (band : bandOf tolBps bar barAgeS champ chal = .regression) :
    hasValue champ = true ∧ hasValue chal = true ∧
      chal.getD 0 * bps < champ.getD 0 * (bps - tolBps) := by
  unfold bandOf at band
  cases champValue : hasValue champ <;> cases chalValue : hasValue chal <;>
    simp only [champValue, chalValue] at band
  · cases band
  · split at band <;> cases band
  · cases band
  · split at band
    · next below => exact ⟨rfl, rfl, below⟩
    · split at band <;> cases band

theorem isCatastrophic_agrees (champValue : hasValue champ = true) (chalValue : hasValue chal = true)
    (below : chal.getD 0 * bps < champ.getD 0 * (bps - tolBps)) :
    isCatastrophic champ chal = Epoch.isCatastrophic tolBps champ chal := by
  obtain ⟨v, rfl, positive⟩ := exists_of_hasValue champValue
  obtain ⟨w, rfl, positive'⟩ := exists_of_hasValue chalValue
  have delivers : ¬ v ≤ 0 := by omega
  simp only [Option.getD_some] at below
  simp [isCatastrophic, Epoch.isCatastrophic, delivers, positive, positive', below]

theorem intOfStr_written {v} (written : Written v) : (v.map toString).bind intOfStr = v := by
  cases v with
  | none => rfl
  | some i => exact intOfStr_toString (written i rfl)

theorem isCatastrophicText_eq (champWritten : Written champ) (chalWritten : Written chal) :
    isCatastrophicText (champ.map toString) (chal.map toString) = isCatastrophic champ chal := by
  rw [isCatastrophicText, intOfStr_written champWritten, intOfStr_written chalWritten]

end

section

variable {champion challenger : List Row} {tolBps : Int} {championBar : Option (Dict String Value)}
  {barAgeS : Option PyFloat} {factorDelta deadwoodDelta : Int} {res : Verdict}

theorem reported_of_tallyOrder {t t' : Tally} {iid : String}
    (sofar : ∀ row ∈ t.perOrder, Reported champion challenger tolBps row)
    (pass : tallyOrder (Comparison.ofRows champion challenger tolBps championBar barAgeS) t iid = .ok t') :
    ∀ row ∈ t'.perOrder, Reported champion challenger tolBps row := by
  obtain ⟨t₁, mark, compared, ⟨-, champWritten, chalWritten⟩, rfl⟩ := tallyOrder_eq_ok.mp pass
  obtain ⟨band, hard⟩ := compareOrder_band compared
  simp only [ofRows_champOut, ofRows_chalOut, ofRows_tolBps] at band hard
  intro row inside
  rcases List.mem_append.mp inside with old | new
  · rw [(compareOrder_entered compared).rows] at old
    exact sofar row old
  · obtain rfl := List.mem_singleton.mp new
    constructor
    · simp
    · simp
    · exact champWritten
    · exact chalWritten
    · simp [band, bandOf_dropped]
    · simp [hard]
    · exact (compareOrder_entered compared).hard
    · intro regression
      simp only [ofRows_champOut, ofRows_chalOut]
      exact bandOf_regression (band.symm.trans regression)

/-- A verdict on these rows, whether or not its reason can be written. -/
structure Graded (champion challenger : List Row) (tolBps : Int) (res : Verdict) : Prop where
  books : Booked res.tally
  ids : res.tally.perOrder.map OrderRow.intentId = orderIds (byIntent champion) (byIntent challenger)
  reported : ∀ row ∈ res.tally.perOrder, Reported champion challenger tolBps row

theorem graded_of_loop {t} (done : (orderIds (byIntent champion) (byIntent challenger)).foldlM
      (tallyOrder (Comparison.ofRows champion challenger tolBps championBar barAgeS)) {} = .ok t) :
    Graded champion challenger tolBps (verdictOf t factorDelta deadwoodDelta) where
  books := (booked_of_loop done).1
  ids := (booked_of_loop done).2
  reported := foldlM_invariant (fun _ t => ∀ row ∈ t.perOrder, Reported champion challenger tolBps row)
    (fun _ _ _ _ sofar pass => reported_of_tallyOrder sofar pass) _ [] {} t (by simp) done

theorem graded_of_evaluate
    (ran : evaluateRelativeAdoption champion challenger tolBps championBar barAgeS factorDelta
      deadwoodDelta = .ok res) : Graded champion challenger tolBps res := by
  obtain ⟨t, done, -, rfl⟩ := evaluate_eq_ok.mp ran
  exact graded_of_loop done

end

def HarnessClean (rows : List Row) : Prop := ∀ row ∈ rows, row.error.truthy = false

theorem HarnessClean.rowsOf {rows} (clean : HarnessClean rows) (orders : List OrderRecord) :
    HarnessClean (rowsOf orders rows) :=
  fun row inside => clean row (List.mem_filter.mp inside).1

theorem HarnessClean.chalErrored {rows} (clean : HarnessClean rows) (iid : String) :
    ((chalErrored rows).get? iid).getD false = false := by
  cases found : (Veto.chalErrored rows).get? iid with
  | none => rfl
  | some failed =>
    rcases Dict.get?_assignAll_some found with listed | absent
    · obtain ⟨row, inside, pair⟩ := List.mem_map.mp listed
      exact (Prod.mk.inj pair).2.symm.trans (clean row inside)
    · cases absent

section

variable {champion challenger : List Row} {tolBps : Int} {orders : List OrderRecord}

theorem labelToOid_get? (distinct : (orders.map OrderRecord.label).Nodup) (chal : List Row)
    (iid : String) : (evidenceTables orders [] chal).labelToOid.get? iid =
      (orders.find? (·.label = iid)).map OrderRecord.idText := by
  unfold evidenceTables
  rw [List.append_nil]
  cases found : orders.find? (·.label = iid) with
  | none =>
    refine (Dict.get?_assignAll_of_absent ?_).trans rfl
    simpa [List.find?_eq_none] using found
  | some o =>
    have inside := List.mem_of_find?_eq_some found
    obtain rfl : o.label = iid := by simpa using List.find?_some found
    refine Dict.get?_assignAll_of_mem ?_ ?_
    · simpa using ⟨o, inside, rfl⟩
    · intro pair listed same
      obtain ⟨o', inside', rfl⟩ := List.mem_map.mp listed
      exact congrArg OrderRecord.idText (List.inj_on_of_nodup_map distinct inside' inside same)

structure Extracted (tables : EvidenceTables) (rows : List OrderRow) (e e' : SliceEvidence) : Prop where
  violations : e'.violations = e.violations ++ rows.filterMap fun row =>
    (tables.labelToOid.get? row.intentId).bind (lossRow · row)
  matched : e'.matchedRows =
    e.matchedRows + rows.countP fun row => (tables.labelToOid.get? row.intentId).isSome

theorem countSliceRow_loss {tables oid e row}
    (clean : (tables.chalErrored.get? row.intentId).getD false = false)
    (reported : Reported champion challenger tolBps row) :
    (countSliceRow tables oid e row).violations = e.violations ++ (lossRow oid row).toList ∧
      (countSliceRow tables oid e row).matchedRows = e.matchedRows := by
  have soft (other : row.mark.verdict ≠ .regression) : row.mark.catastrophic = false := by
    exact Bool.eq_false_iff.mpr fun isHard => other (reported.hard isHard)
  unfold countSliceRow lossRow
  cases verdict : row.mark.verdict with
  | win | matched | blindSpotCover | blindSpotRepeat | skip =>
    simp [soft (by simp [verdict])]
  | dropped => simp [clean, addViolation]
  | regression =>
    obtain ⟨champValue, chalValue, below⟩ := reported.regression verdict
    rw [isCatastrophic_agrees champValue chalValue below, ← reported.catastrophic]
    cases row.mark.catastrophic <;> simp [addViolation]

theorem extracted_of_foldl {tables rows e}
    (clean : ∀ iid, (tables.chalErrored.get? iid).getD false = false)
    (noCalib : tables.calibIds = [])
    (reported : ∀ row ∈ rows, Reported champion challenger tolBps row) :
    Extracted tables rows e (rows.foldl (evidenceRow tables) e) := by
  induction rows generalizing e with
  | nil => exact ⟨by simp, by simp⟩
  | cons row rest ih =>
    obtain ⟨violations, matched⟩ := @ih (evidenceRow tables e row)
      fun row inside => reported row (List.mem_cons_of_mem _ inside)
    rw [List.foldl_cons]
    have here := reported row List.mem_cons_self
    cases found : tables.labelToOid.get? row.intentId with
    | none =>
      have skipped : evidenceRow tables e row = e := by simp [evidenceRow, found]
      rw [skipped] at violations matched ⊢
      exact ⟨by simp [violations, found], by simp [matched, found]⟩
    | some oid =>
      have counted : evidenceRow tables e row =
          countSliceRow tables oid { e with matchedRows := e.matchedRows + 1 } row := by
        simp [evidenceRow, found, noCalib]
      obtain ⟨loss, kept⟩ := @countSliceRow_loss champion challenger tolBps tables oid
        { e with matchedRows := e.matchedRows + 1 } row (clean _) here
      rw [counted] at violations matched ⊢
      constructor
      · rw [violations, loss, List.append_assoc]
        congr 1
        cases lost : lossRow oid row <;> simp [found, lost]
      · rw [matched, kept]
        simp [found]
        omega

section

variable {championBar : Option (Dict String Value)} {barAgeS : Option PyFloat}
  {factorDelta deadwoodDelta : Int} {res : Verdict}

theorem Graded.extracted (graded : Graded champion challenger tolBps res)
    (clean : HarnessClean challenger) :
    Extracted (evidenceTables orders [] challenger) res.tally.perOrder {}
      (extractSliceEvidence res orders [] challenger) :=
  extracted_of_foldl clean.chalErrored rfl graded.reported

theorem perOrder_nodup (graded : Graded champion challenger tolBps res) :
    (res.tally.perOrder.map OrderRow.intentId).Nodup := by
  rw [graded.ids]
  exact orderIds_nodup _ _

theorem violations_perm (distinct : (orders.map OrderRecord.label).Nodup)
    (clean : HarnessClean challenger) (graded : Graded champion challenger tolBps res) :
    (extractSliceEvidence res orders [] challenger).violations.Perm (orders.filterMap (hardLoss res)) := by
  have joined := join_perm (perOrder_nodup graded) distinct fun o row => lossRow o.idText row
  rw [(@Graded.extracted _ _ _ orders _ graded clean).violations]
  refine .trans (.of_eq ?_) joined
  simp [labelToOid_get? distinct, Option.bind_map]

theorem countP_lossRow (rows : List OrderRow) (hard : ∀ row ∈ rows, row.mark.catastrophic = true →
    row.mark.verdict = .regression) (oid : OrderRow → String) :
    rows.countP (fun row => (lossRow (oid row) row).isSome) =
      rowsWith rows .dropped + rows.countP (·.mark.catastrophic) := by
  induction rows with
  | nil => rfl
  | cons row rest ih =>
    have later := ih fun row inside => hard row (List.mem_cons_of_mem _ inside)
    have here := hard row List.mem_cons_self
    simp only [rowsWith, List.countP_cons, lossRow] at later ⊢
    rw [later]
    cases verdict : row.mark.verdict <;> cases isHard : row.mark.catastrophic <;>
      simp_all <;> omega

def OverOrders (orders : List OrderRecord) (champion challenger : List Row) : Prop :=
  ∀ iid ∈ mentioned champion ∪ mentioned challenger, iid ∈ orders.map OrderRecord.label

theorem hardLoss_length (distinct : (orders.map OrderRecord.label).Nodup)
    (told : OverOrders orders champion challenger) (graded : Graded champion challenger tolBps res) :
    (orders.filterMap (hardLoss res)).length = res.tally.nDropped + res.tally.nCatastrophic := by
  have joined := join_perm (perOrder_nodup graded) distinct fun o row => lossRow o.idText row
  rw [graded.books.dropped, graded.books.catastrophic, ← countP_lossRow _ graded.books.hard fun _ => ""]
  refine joined.symm.length_eq.trans ?_
  rw [List.length_filterMap_eq_countP]
  refine List.countP_congr fun row inside => ?_
  have listed : row.intentId ∈ orders.map OrderRecord.label := by
    refine told _ (mem_orderIds.mp ?_)
    rw [← graded.ids]
    exact List.mem_map_of_mem inside
  obtain ⟨o, inOrders, label⟩ := List.mem_map.mp listed
  cases found : orders.find? (·.label = row.intentId) with
  | none => exact absurd label (by simpa using List.find?_eq_none.mp found o inOrders)
  | some o' =>
    simp [lossRow]
    split
    · simp
    · split <;> simp

theorem perOrder_find?_isSome (graded : Graded champion challenger tolBps res) (iid : String) :
    (res.tally.perOrder.find? (·.intentId = iid)).isSome = true ↔
      iid ∈ mentioned champion ∪ mentioned challenger := by
  rw [← mem_orderIds, ← graded.ids]
  simp [List.find?_isSome]

theorem lossRow_congr {champion' challenger' row row'} (same : row'.intentId = row.intentId)
    (reported : Reported champion challenger tolBps row)
    (reported' : Reported champion' challenger' tolBps row')
    (champ : lastRow champion' row.intentId = lastRow champion row.intentId)
    (chal : lastRow challenger' row.intentId = lastRow challenger row.intentId) (oid : String) :
    lossRow oid row' = lossRow oid row := by
  have champOut : row'.champ = row.champ := by
    rw [reported'.champ, reported.champ, same, delivered, delivered, champ]
  have chalOut : row'.chal = row.chal := by
    rw [reported'.chal, reported.chal, same, delivered, delivered, chal]
  have dropped : row'.mark.verdict = .dropped ↔ row.mark.verdict = .dropped := by
    rw [reported'.dropped, reported.dropped, champOut, chalOut]
  have hard : row'.mark.catastrophic = row.mark.catastrophic := by
    rw [reported'.catastrophic, reported.catastrophic, champOut, chalOut]
  simp only [lossRow, dropped, hard, champOut, chalOut]

theorem hardLoss_congr {champion' challenger' res' o} (graded : Graded champion challenger tolBps res)
    (graded' : Graded champion' challenger' tolBps res')
    (champ : lastRow champion' o.label = lastRow champion o.label)
    (chal : lastRow challenger' o.label = lastRow challenger o.label) :
    hardLoss res' o = hardLoss res o := by
  have alike : o.label ∈ mentioned champion' ∪ mentioned challenger' ↔
      o.label ∈ mentioned champion ∪ mentioned challenger := by
    simp [mem_mentioned, champ, chal]
  rw [← perOrder_find?_isSome graded, ← perOrder_find?_isSome graded'] at alike
  unfold hardLoss
  cases found : res.tally.perOrder.find? (·.intentId = o.label) with
  | none =>
    cases found' : res'.tally.perOrder.find? (·.intentId = o.label) with
    | none => rfl
    | some row' => simp [found, found'] at alike
  | some row =>
    cases found' : res'.tally.perOrder.find? (·.intentId = o.label) with
    | none => simp [found, found'] at alike
    | some row' =>
      have here : row.intentId = o.label := by simpa using List.find?_some found
      have here' : row'.intentId = o.label := by simpa using List.find?_some found'
      refine lossRow_congr (here'.trans here.symm)
        (graded.reported row (List.mem_of_find?_eq_some found))
        (graded'.reported row' (List.mem_of_find?_eq_some found')) ?_ ?_ _
      · rw [here, champ]
      · rw [here, chal]

theorem hardVetoed_of_hardLoss {o v} (graded : Graded champion challenger tolBps res)
    (lost : hardLoss res o = some v) : HardVetoed res := by
  obtain ⟨row, found, loss⟩ := Option.bind_eq_some_iff.mp lost
  have inside := List.mem_of_find?_eq_some found
  unfold lossRow at loss
  by_cases dropped : row.mark.verdict = .dropped
  · refine .inr fun zero => ?_
    exact rowsWith_eq_zero.mp (graded.books.dropped.symm.trans zero) row inside dropped
  · rw [if_neg dropped] at loss
    split at loss
    · next isHard =>
      refine .inl fun zero => ?_
      exact List.countP_eq_zero.mp (graded.books.catastrophic.symm.trans zero) row inside isHard
    · cases loss

theorem not_adopt_of_hardVetoed
    (ran : evaluateRelativeAdoption champion challenger tolBps championBar barAgeS factorDelta
      deadwoodDelta = .ok res) (vetoed : HardVetoed res) : res.adopt = false := by
  obtain ⟨t, -, -, rfl⟩ := evaluate_eq_ok.mp ran
  have refused : t.nCatastrophic ≠ 0 ∨ t.nDropped ≠ 0 := vetoed
  rcases refused with cut | dropped
  · simp [verdictOf, Tally.adopt, cut]
  · simp [verdictOf, Tally.adopt, dropped]

end

end

section

variable {slice : List OrderRecord} {rows : List Row} {iid : String}

theorem lastRow_rowsOf (known : iid ∈ slice.map OrderRecord.label) :
    lastRow (rowsOf slice rows) iid = lastRow rows iid := by
  unfold lastRow rowsOf
  rw [← List.filter_reverse, List.find?_filter]
  congr 1
  funext row
  by_cases here : row.intentId = some iid
  · rw [here]
    simpa using known
  · simp [here]

theorem lastRow_rowsOf_of_foreign (foreign : iid ∉ slice.map OrderRecord.label) :
    lastRow (rowsOf slice rows) iid = none := by
  unfold lastRow rowsOf
  rw [← List.filter_reverse, List.find?_filter, List.find?_eq_none]
  intro row _
  by_cases here : row.intentId = some iid
  · rw [here]
    simpa using foreign
  · simp [here]

theorem delivered_rowsOf (known : iid ∈ slice.map OrderRecord.label) :
    delivered (rowsOf slice rows) iid = delivered rows iid := by
  rw [delivered, delivered, lastRow_rowsOf known]

theorem mem_mentioned_rowsOf :
    iid ∈ mentioned (rowsOf slice rows) ↔ iid ∈ mentioned rows ∧ iid ∈ slice.map OrderRecord.label := by
  rw [mem_mentioned, mem_mentioned]
  by_cases known : iid ∈ slice.map OrderRecord.label
  · simp [lastRow_rowsOf known, known]
  · simp [lastRow_rowsOf_of_foreign known, known]

theorem overOrders_rowsOf (champion challenger : List Row) :
    OverOrders slice (rowsOf slice champion) (rowsOf slice challenger) := by
  intro iid told
  rcases Finset.mem_union.mp told with inside | inside
  · exact (mem_mentioned_rowsOf.mp inside).2
  · exact (mem_mentioned_rowsOf.mp inside).2

theorem lastRow_of_extends {rows'} (extended : Extends slice rows rows')
    (known : iid ∈ slice.map OrderRecord.label) : lastRow rows' iid = lastRow rows iid := by
  rw [← lastRow_rowsOf known, extended, lastRow_rowsOf known]

end

section

variable {champion challenger : List Row} {tolBps : Int} {orders : List OrderRecord}
  {slices : List (List OrderRecord)}

theorem mentioned_of_isMatched {iid}
    (matched : isMatched tolBps (delivered champion iid) (delivered challenger iid) = true) :
    iid ∈ mentioned champion ∪ mentioned challenger := by
  refine mem_orders_of_hasValue (.inl ?_)
  by_contra blind
  have silent := bands_silent tolBps (delivered champion iid) (delivered challenger iid)
    (.inl (by simpa using blind))
  simp [silent.2.2.2] at matched

theorem matchedGasReads_iff (told : OverOrders orders champion challenger)
    (partition : slices.flatten.Perm orders) : MatchedGasReads champion challenger tolBps ↔
      ∀ slice ∈ slices, MatchedGasReads (rowsOf slice champion) (rowsOf slice challenger) tolBps := by
  constructor
  · intro reads slice _ iid matched
    have known := overOrders_rowsOf champion challenger iid (mentioned_of_isMatched matched)
    rw [delivered_rowsOf known, delivered_rowsOf known] at matched
    rw [lastRow_rowsOf known, lastRow_rowsOf known]
    exact reads iid matched
  · intro reads iid matched
    obtain ⟨o, inOrders, rfl⟩ := List.mem_map.mp (told iid (mentioned_of_isMatched matched))
    obtain ⟨slice, inSlices, inside⟩ := List.mem_flatten.mp (partition.mem_iff.mpr inOrders)
    have known : o.label ∈ slice.map OrderRecord.label := List.mem_map_of_mem inside
    have here := reads slice inSlices o.label
    rw [delivered_rowsOf known, delivered_rowsOf known, lastRow_rowsOf known, lastRow_rowsOf known] at here
    exact here matched

theorem outputsPrint_iff (told : OverOrders orders champion challenger)
    (partition : slices.flatten.Perm orders) : OutputsPrint champion challenger ↔
      ∀ slice ∈ slices, OutputsPrint (rowsOf slice champion) (rowsOf slice challenger) := by
  have silent {rows : List Row} {iid : String} (absent : iid ∉ mentioned rows) :
      Written (delivered rows iid) := by
    rw [delivered_eq_none absent]
    exact written_none
  constructor
  · intro outputs slice _ iid
    by_cases known : iid ∈ slice.map OrderRecord.label
    · rw [delivered_rowsOf known, delivered_rowsOf known]
      exact outputs iid
    · exact ⟨silent fun inside => known (mem_mentioned_rowsOf.mp inside).2,
        silent fun inside => known (mem_mentioned_rowsOf.mp inside).2⟩
  · intro outputs iid
    by_cases named : iid ∈ mentioned champion ∪ mentioned challenger
    · obtain ⟨o, inOrders, rfl⟩ := List.mem_map.mp (told iid named)
      obtain ⟨slice, inSlices, inside⟩ := List.mem_flatten.mp (partition.mem_iff.mpr inOrders)
      have known : o.label ∈ slice.map OrderRecord.label := List.mem_map_of_mem inside
      have here := outputs slice inSlices o.label
      rwa [delivered_rowsOf known, delivered_rowsOf known] at here
    · obtain ⟨noChamp, noChal⟩ := not_or.mp fun either => named (Finset.mem_union.mpr either)
      exact ⟨silent noChamp, silent noChal⟩

variable {slice : List OrderRecord}

theorem sliceEvidence_returns_iff : (∃ e, sliceEvidence champion challenger tolBps slice = .ok e) ↔
      (MatchedGasReads (rowsOf slice champion) (rowsOf slice challenger) tolBps ∧
        OutputsPrint (rowsOf slice champion) (rowsOf slice challenger)) ∧
      ReasonPrints (rowsOf slice champion) (rowsOf slice challenger) tolBps none none 0 0 := by
  have whole := @evaluate_returns_iff (rowsOf slice champion) (rowsOf slice challenger) tolBps none none 0 0
  simp only [barsPrint_none, and_true] at whole
  rw [← whole]
  constructor
  · rintro ⟨e, ran⟩
    obtain ⟨res, evaluated, -⟩ := bind_eq_ok.mp ran
    exact ⟨res, evaluated⟩
  · rintro ⟨res, evaluated⟩
    exact ⟨_, bind_eq_ok.mpr ⟨res, evaluated, rfl⟩⟩

theorem labels_nodup_of_slice (distinct : (orders.map OrderRecord.label).Nodup)
    (partition : slices.flatten.Perm orders) (inSlices : slice ∈ slices) :
    (slice.map OrderRecord.label).Nodup := by
  have whole : (slices.flatten.map OrderRecord.label).Nodup :=
    (partition.map _).nodup_iff.mpr distinct
  exact whole.sublist ((List.sublist_flatten_of_mem inSlices).map _)

theorem sliceViolations_perm {whole : Verdict}
    (distinct : (slice.map OrderRecord.label).Nodup) (clean : HarnessClean challenger)
    (reads : MatchedGasReads (rowsOf slice champion) (rowsOf slice challenger) tolBps)
    (outputs : OutputsPrint (rowsOf slice champion) (rowsOf slice challenger))
    (graded : Graded champion challenger tolBps whole) :
    (sliceViolations champion challenger tolBps slice).Perm (slice.filterMap (hardLoss whole)) := by
  obtain ⟨t, done⟩ := (@loop_returns_iff _ _ _ _ none).mpr ⟨reads, outputs, barsPrint_none⟩
  have alone := @graded_of_loop _ _ _ _ _ 0 0 t done
  have same : slice.filterMap (hardLoss (verdictOf t 0 0)) = slice.filterMap (hardLoss whole) := by
    refine List.filterMap_congr fun o inside => ?_
    have known : o.label ∈ slice.map OrderRecord.label := List.mem_map_of_mem inside
    exact hardLoss_congr graded alone (lastRow_rowsOf known) (lastRow_rowsOf known)
  rw [← same]
  cases extracted : sliceEvidence champion challenger tolBps slice with
  | ok e =>
    obtain ⟨res, evaluated, written⟩ := bind_eq_ok.mp extracted
    obtain ⟨t', done', -, rfl⟩ := evaluate_eq_ok.mp evaluated
    cases done.symm.trans done'
    obtain rfl := pure_eq_ok.mp written
    simpa [sliceViolations, extracted, Except.toOption] using
      violations_perm distinct (clean.rowsOf slice) alone
  | error e =>
    -- a slice whose reason cannot be written keeps every order
    have clear : slice.filterMap (hardLoss (verdictOf t 0 0)) = [] := by
      refine List.filterMap_eq_nil_iff.mpr fun o _ => Option.eq_none_iff_forall_ne_some.mpr fun v lost => ?_
      have cut : t.nCatastrophic > 0 ∨ t.nDropped > 0 :=
        (hardVetoed_of_hardLoss alone lost).imp Nat.pos_of_ne_zero Nat.pos_of_ne_zero
      have shown : ∀ i ∈ shownInts t 0 0, Printable i := by
        rw [shownInts, if_pos (cut.elim .inl fun dropped => .inr (.inl dropped))]
        simp
      cases extracted.symm.trans
        (bind_eq_ok.mpr ⟨_, evaluate_eq_ok.mpr ⟨t, done, shown, rfl⟩, pure_eq_ok.mpr rfl⟩)
    simp [clear, sliceViolations, extracted, Except.toOption]

theorem sliceVerdict_veto_iff :
    sliceVerdict champion challenger tolBps slice = some verdictVeto ↔
      sliceViolations champion challenger tolBps slice ≠ [] := by
  unfold sliceVerdict sliceViolations
  cases ran : sliceEvidence champion challenger tolBps slice with
  | error e => simp [Except.toOption]
  | ok e =>
    simp only [Except.toOption, Option.map_some, Option.getD_some, Option.some.injEq,
      SliceEvidence.verdict]
    split
    · next clear => simp [clear, verdictOk, verdictVeto]
    · next found => simp [found]

structure Decomposes (champion challenger : List Row) (tolBps : Int) (orders : List OrderRecord)
    (slices : List (List OrderRecord)) (whole : Verdict) : Prop where
  losses : (slices.flatMap (sliceViolations champion challenger tolBps)).Perm
    (orders.filterMap (hardLoss whole))
  counted : (orders.filterMap (hardLoss whole)).length =
    whole.tally.nDropped + whole.tally.nCatastrophic
  vetoed : (∃ slice ∈ slices, sliceVerdict champion challenger tolBps slice = some verdictVeto) ↔
    HardVetoed whole
  /-- Both floor tests agree, the evidence's one on the strings of the row. -/
  floor : ∀ row ∈ whole.tally.perOrder, row.mark.verdict = .regression →
      isCatastrophicText (row.champ.map toString) (row.chal.map toString) = row.mark.catastrophic

theorem decomposes (distinct : (orders.map OrderRecord.label).Nodup)
    (told : OverOrders orders champion challenger) (clean : HarnessClean challenger)
    (partition : slices.flatten.Perm orders) {championBar : Option (Dict String Value)}
    {barAgeS : Option PyFloat} {factorDelta deadwoodDelta : Int} {whole : Verdict}
    (ran : evaluateRelativeAdoption champion challenger tolBps championBar barAgeS factorDelta
      deadwoodDelta = .ok whole) : Decomposes champion challenger tolBps orders slices whole := by
  obtain ⟨⟨matched, outputs, -⟩, -⟩ := evaluate_returns_iff.mp ⟨whole, ran⟩
  have graded := graded_of_evaluate ran
  have reads := (matchedGasReads_iff told partition).mp matched
  have printed := (outputsPrint_iff told partition).mp outputs
  have losses : (slices.flatMap (sliceViolations champion challenger tolBps)).Perm
      (orders.filterMap (hardLoss whole)) := by
    have each : (slices.flatMap (sliceViolations champion challenger tolBps)).Perm
        (slices.flatMap fun slice => slice.filterMap (hardLoss whole)) := by
      refine List.Perm.flatMap_left slices fun slice inSlices => ?_
      exact sliceViolations_perm (labels_nodup_of_slice distinct partition inSlices) clean
        (reads slice inSlices) (printed slice inSlices) graded
    have glued : (slices.flatMap fun slice => slice.filterMap (hardLoss whole)) =
        slices.flatten.filterMap (hardLoss whole) := by
      rw [List.filterMap_flatten, List.flatMap_def]
    rw [glued] at each
    exact each.trans (partition.filterMap _)
  have counted := hardLoss_length distinct told graded
  refine ⟨losses, counted, ?_, ?_⟩
  · simp only [sliceVerdict_veto_iff]
    have some_iff : (∃ slice ∈ slices, sliceViolations champion challenger tolBps slice ≠ []) ↔
        (slices.flatMap (sliceViolations champion challenger tolBps)).length ≠ 0 := by
      rw [Ne, List.length_eq_zero_iff, List.flatMap_eq_nil_iff]
      simp
    rw [some_iff, losses.length_eq, counted, HardVetoed]
    omega
  · intro row inside regression
    have reported := graded.reported row inside
    obtain ⟨champValue, chalValue, below⟩ := reported.regression regression
    rw [isCatastrophicText_eq reported.champWritten reported.chalWritten,
      isCatastrophic_agrees champValue chalValue below, reported.catastrophic]

theorem not_adopts_of_extends (clean : HarnessClean challenger)
    (distinct : (slice.map OrderRecord.label).Nodup)
    (vetoed : sliceVerdict champion challenger tolBps slice = some verdictVeto)
    {champion' challenger'} (champ : Extends slice champion champion')
    (chal : Extends slice challenger challenger') (championBar : Option (Dict String Value))
    (barAgeS : Option PyFloat) (factorDelta deadwoodDelta : Int) :
    adopts (evaluateRelativeAdoption champion' challenger' tolBps championBar barAgeS factorDelta
      deadwoodDelta) = false := by
  cases ran' : evaluateRelativeAdoption champion' challenger' tolBps championBar barAgeS factorDelta
      deadwoodDelta with
  | error e => rfl
  | ok whole =>
    have found := sliceVerdict_veto_iff.mp vetoed
    unfold sliceViolations at found
    cases extracted : sliceEvidence champion challenger tolBps slice with
    | error e => simp [extracted, Except.toOption] at found
    | ok e =>
      obtain ⟨res, evaluated, written⟩ := bind_eq_ok.mp extracted
      obtain rfl := pure_eq_ok.mp written
      have graded := graded_of_evaluate evaluated
      have whole' := graded_of_evaluate ran'
      obtain ⟨v, listed⟩ := List.exists_mem_of_ne_nil _ found
      have listed : v ∈ (extractSliceEvidence res slice [] (rowsOf slice challenger)).violations := by
        simpa [extracted, Except.toOption] using listed
      have lost := (violations_perm distinct (clean.rowsOf slice) graded).mem_iff.mp listed
      obtain ⟨o, inside, loss⟩ := List.mem_filterMap.mp lost
      have known : o.label ∈ slice.map OrderRecord.label := List.mem_map_of_mem inside
      have same := hardLoss_congr graded whole'
        ((lastRow_of_extends champ known).trans (lastRow_rowsOf known).symm)
        ((lastRow_of_extends chal known).trans (lastRow_rowsOf known).symm)
      exact not_adopt_of_hardVetoed ran' (hardVetoed_of_hardLoss whole' (same.trans loss))

theorem answer_of_covered {e} (clean : HarnessClean challenger)
    (distinct : (slice.map OrderRecord.label).Nodup)
    (covered : ∀ o ∈ slice, o.label ∈ mentioned champion ∪ mentioned challenger)
    (extracted : sliceEvidence champion challenger tolBps slice = .ok e) :
    e.answer slice.length = some e.verdict := by
  obtain ⟨res, evaluated, written⟩ := bind_eq_ok.mp extracted
  obtain rfl := pure_eq_ok.mp written
  have graded := graded_of_evaluate evaluated
  have labels : (res.tally.perOrder.map OrderRow.intentId).Perm (slice.map OrderRecord.label) := by
    rw [graded.ids]
    refine (List.perm_ext_iff_of_nodup (orderIds_nodup _ _) distinct).mpr fun iid => ?_
    rw [mem_orderIds]
    refine ⟨overOrders_rowsOf champion challenger iid, fun known => ?_⟩
    obtain ⟨o, inside, rfl⟩ := List.mem_map.mp known
    simpa only [Finset.mem_union, mem_mentioned_rowsOf, known, and_true] using covered o inside
  have all : ∀ row ∈ res.tally.perOrder,
      (((evidenceTables slice [] (rowsOf slice challenger)).labelToOid).get? row.intentId).isSome = true := by
    intro row inside
    have known := labels.mem_iff.mp (List.mem_map_of_mem inside)
    rw [labelToOid_get? distinct, Option.isSome_map, List.find?_isSome]
    simpa using known
  have matched := (@Graded.extracted _ _ _ slice _ graded (clean.rowsOf slice)).matched
  rw [List.countP_eq_length.mpr all] at matched
  have length := labels.length_eq
  simp only [List.length_map] at length
  rw [SliceEvidence.answer, if_neg (by simp [matched, length])]

/-- The slices' violations are the orders the whole list counts as dropped or catastrophic, a slice
    votes against the challenger exactly when the rule's hard veto refuses it, and a vote against it
    stands on every list that extends the slice. -/
theorem slices_decompose_hard_veto (distinct : (orders.map OrderRecord.label).Nodup)
    (told : OverOrders orders champion challenger) (clean : HarnessClean challenger)
    (partition : slices.flatten.Perm orders) :
    (∀ championBar barAgeS factorDelta deadwoodDelta,
      ((∃ whole, evaluateRelativeAdoption champion challenger tolBps championBar barAgeS factorDelta
          deadwoodDelta = .ok whole) ∧
          (∀ slice ∈ slices,
            ReasonPrints (rowsOf slice champion) (rowsOf slice challenger) tolBps none none 0 0) ↔
        (∀ slice ∈ slices, ∃ e, sliceEvidence champion challenger tolBps slice = .ok e) ∧
          BarsPrint champion challenger championBar ∧
            ReasonPrints champion challenger tolBps championBar barAgeS factorDelta deadwoodDelta) ∧
      ∀ whole, evaluateRelativeAdoption champion challenger tolBps championBar barAgeS factorDelta
          deadwoodDelta = .ok whole → Decomposes champion challenger tolBps orders slices whole) ∧
    ∀ slice ∈ slices,
      (sliceVerdict champion challenger tolBps slice = some verdictVeto →
        ∀ champion' challenger', Extends slice champion champion' →
          Extends slice challenger challenger' → ∀ championBar barAgeS factorDelta deadwoodDelta,
            adopts (evaluateRelativeAdoption champion' challenger' tolBps championBar barAgeS
              factorDelta deadwoodDelta) = false) ∧
      ((∀ o ∈ slice, o.label ∈ mentioned champion ∪ mentioned challenger) → ∀ e,
        sliceEvidence champion challenger tolBps slice = .ok e →
          e.answer slice.length = some e.verdict) := by
  refine ⟨fun championBar barAgeS factorDelta deadwoodDelta => ⟨?_, fun whole ran => ?_⟩,
    fun slice inSlices => ⟨?_, ?_⟩⟩
  · simp only [sliceEvidence_returns_iff, forall₂_and]
    rw [evaluate_returns_iff, matchedGasReads_iff told partition, outputsPrint_iff told partition]
    tauto
  · exact decomposes distinct told clean partition ran
  · intro vetoed champion' challenger' champ chal
    exact not_adopts_of_extends clean (labels_nodup_of_slice distinct partition inSlices) vetoed champ chal
  · intro covered e extracted
    exact answer_of_covered clean (labels_nodup_of_slice distinct partition inSlices) covered extracted

end

def orderAndQuote : List OrderRecord :=
  [{ orderId := some "1", appId := some "dex", chainId := some 1 },
    { orderId := some "q_2", appId := some "dex", chainId := some 1 }]

def outputRow (iid output : String) : Row where
  intentId := some iid
  rawOutput := .str output

/-- The order is cut by two percent, the quote kept. -/
theorem slices_decompose_hard_veto_cut : ∃ whole,
    evaluateRelativeAdoption [outputRow "dex:hist:1" "1000", outputRow "dex:quote:q_2" "1000"]
      [outputRow "dex:hist:1" "980", outputRow "dex:quote:q_2" "2000"] 10 none none 0 0 = .ok whole ∧
    Decomposes [outputRow "dex:hist:1" "1000", outputRow "dex:quote:q_2" "1000"]
      [outputRow "dex:hist:1" "980", outputRow "dex:quote:q_2" "2000"] 10 orderAndQuote
      (orderAndQuote.map fun o => [o]) whole ∧ HardVetoed whole := by
  obtain ⟨whole, ran⟩ := isOk_iff.mp (show (evaluateRelativeAdoption
    [outputRow "dex:hist:1" "1000", outputRow "dex:quote:q_2" "1000"]
    [outputRow "dex:hist:1" "980", outputRow "dex:quote:q_2" "2000"] 10 none none 0 0).isOk = true by
      decide +kernel)
  have all := (@slices_decompose_hard_veto
    [outputRow "dex:hist:1" "1000", outputRow "dex:quote:q_2" "1000"]
    [outputRow "dex:hist:1" "980", outputRow "dex:quote:q_2" "2000"] 10 orderAndQuote
    (orderAndQuote.map fun o => [o]) (by decide +kernel) (by unfold OverOrders; decide +kernel)
    (by unfold HarnessClean; decide +kernel) (.refl _)).1 none none 0 0
  have decomposed := all.2 whole ran
  refine ⟨whole, ran, decomposed, decomposed.vetoed.mp ?_⟩
  decide +kernel

end MinotaurSubnet.Veto
