import MinotaurSubnet.Library.Dict
import MinotaurSubnet.Library.Fallible
import MinotaurSubnet.Python.Value
import Mathlib.Data.List.Sort
import Mathlib.Data.List.Dedup

/-! # The relative per-order adoption rule

The champion-adoption decision of `epoch/relative_scoring.py`. Champion and
challenger rows are joined by intent id; each order is compared on its raw
delivered output in exact integer wei, the loop tallies the orders, and the
verdict reads the tallies through four clauses (performance, gas, factorization,
deadwood). The display-only float `ratio` of a per-order row is not modelled:
nothing reads it.
-/

namespace MinotaurSubnet.Epoch

open Library Python

def relativeTolBps : Int := 10
def floorBps : Int := 100
def dethroneWinMargin : Nat := 1

/-- The arming switches are optional constants; `none` disarms the clause. -/
def blindSpotBarTtlS : Option PyFloat := some (.fin 86400)
def blindSpotBarObserveTtlS : PyFloat := .fin 86400
def factorMargin : Option Int := some 100
def gasMarginBps : Option Int := some 200
def gasOutGuardBps : Int := 2
def gasCollapseFloor : Int := 2
def gasBasis : String := "scoreintent_prerefund_v1"
def unproductiveMargin : Option Int := some 2000
def bps : Int := 10000
def minValidOutput : Int := 0

/-- A result row as `_field` reads it: an absent key or attribute is `None`,
    whether the row is a stored dict or a benchmark result object. -/
structure Row where
  intentId : Option String := none
  rawOutput : Value := .none
  shadowScore : Value := .none
  mockSimulation : Value := .none
  error : Value := .none
  gasBasis : Value := .none
  gasMetered : Value := .none

/-- `_raw_output`, with the fallback to the legacy key. -/
def rawOutput : Option Row → Value
  | none => .none
  | some row => if row.rawOutput.isNone then row.shadowScore else row.rawOutput

/-- `_parse_output`: exact integer wei, `none` for anything unusable. -/
def parseOutput : Value → Option Int
  | .none | .bool _ => none
  | .int i => some i
  | .float f => f.toInt.toOption
  | .str s => intOfStr (String.ofList (strip s.toList))
  -- `str(score)` of a container is never an integer literal
  | .list _ | .dict _ => none

/-- `_has_value` on an already parsed output. -/
def hasValue : Option Int → Bool
  | none => false
  | some i => minValidOutput < i

/-- `_gas_of`: the metered gas of an eligible row. An infinite float is the one
    value whose `int(...)` raises past the handler. -/
def gasOf : Option Row → Except PyError (Option Int)
  | none => .ok none
  | some row =>
    if row.mockSimulation.truthy then .ok none
    else if !row.error.isNone then .ok none
    else match row.gasBasis with
      | .str basis =>
        if basis ≠ gasBasis then .ok none
        else match row.gasMetered with
          | .none | .bool _ => .ok none
          | raw => match raw.toInt with
              | .ok g => .ok (if 0 < g then some g else none)
              | .error .typeError | .error .valueError => .ok none
              | .error e => .error e
      | _ => .ok none

/-- `factor_delta_between`: zero unless both sides are measured. -/
def factorDeltaBetween : Option Int → Option Int → Int
  | some champion, some challenger => champion - challenger
  | _, _ => 0

inductive OrderVerdict where
  | regression
  | win
  | matched
  | blindSpotCover
  | blindSpotRepeat
  | dropped
  | skip
  deriving DecidableEq

inductive BarVerdict where
  | exceed
  | repeat
  deriving DecidableEq

/-- What the loop body decides about one order besides the counters. -/
structure OrderMark where
  verdict : OrderVerdict
  catastrophic : Bool := false
  bar : Option Int := none
  barVerdict : Option BarVerdict := none
  champGas : Option Int := none
  chalGas : Option Int := none
  deriving DecidableEq

structure OrderRow where
  intentId : String
  champ : Option Int
  chal : Option Int
  mark : OrderMark
  deriving DecidableEq

structure Tally where
  perOrder : List OrderRow := []
  nWins : Nat := 0
  nRegressions : Nat := 0
  nBlindSpots : Nat := 0
  nMatched : Nat := 0
  nCatastrophic : Nat := 0
  nDropped : Nat := 0
  nBlindSpotRepeats : Nat := 0
  nBlindSpotRepeatsObserved : Nat := 0
  scenariosCompared : Nat := 0
  champGasTotal : Int := 0
  chalGasTotal : Int := 0
  gasUnmeasured : Nat := 0
  gasOrderWorse : Nat := 0
  gasOutOk : Bool := true
  deriving DecidableEq

def tallyGas (champRow chalRow : Option Row) (champI chalI : Int) (t : Tally) :
    Except PyError (Tally × OrderMark) :=
  match gasMarginBps with
  | none => .ok (t, { verdict := .matched })
  | some margin => do
      let champGas ← gasOf champRow
      let chalGas ← gasOf chalRow
      let mark : OrderMark := { verdict := .matched, champGas, chalGas }
      match champGas, chalGas with
      | some cg, some xg =>
        return ({ t with
          champGasTotal := t.champGasTotal + cg
          chalGasTotal := t.chalGasTotal + xg
          gasOrderWorse := t.gasOrderWorse + if xg * bps > cg * (bps + margin) then 1 else 0
          gasOutOk := t.gasOutOk && decide (chalI * bps ≥ champI * (bps - gasOutGuardBps)) },
          mark)
      | _, _ => return ({ t with gasUnmeasured := t.gasUnmeasured + 1 }, mark)

/-- Both sides deliver: the exact-integer bands. -/
def tallyDelivered (tolBps : Int) (champRow chalRow : Option Row) (champI chalI : Int)
    (t : Tally) : Except PyError (Tally × OrderMark) :=
  let t := { t with scenariosCompared := t.scenariosCompared + 1 }
  if chalI * bps < champI * (bps - tolBps) then
    let t := { t with nRegressions := t.nRegressions + 1 }
    if chalI * bps < champI * (bps - floorBps) then
      .ok ({ t with nCatastrophic := t.nCatastrophic + 1 },
        { verdict := .regression, catastrophic := true })
    else .ok (t, { verdict := .regression })
  else if chalI * bps > champI * (bps + tolBps) then
    .ok ({ t with nWins := t.nWins + 1 }, { verdict := .win })
  else
    tallyGas champRow chalRow champI chalI { t with nMatched := t.nMatched + 1 }

/-- `bar_age_s <= ttl`, false when no age is given. -/
def within (barAgeS : Option PyFloat) (ttl : PyFloat) : Bool :=
  match barAgeS with
  | none => false
  | some age => age.le ttl

def isRepeat (tolBps : Int) (bar : Option Int) (barAgeS : Option PyFloat) (chalI : Int) : Bool :=
  match bar with
  | some b => hasValue bar && !decide (chalI * bps > b * (bps + tolBps)) && barAgeS.isSome
  | none => false

/-- The guard is armed and the bar is fresher than its time to live. -/
def repeatGuarded (barAgeS : Option PyFloat) : Bool :=
  match blindSpotBarTtlS with
  | none => false
  | some ttl => within barAgeS ttl

/-- Champion blind, challenger delivers: a cover, or a neutral repeat. -/
def tallyBlindSpot (tolBps : Int) (bar : Option Int) (barAgeS : Option PyFloat) (chalI : Int)
    (t : Tally) : Tally × OrderMark :=
  let t := { t with scenariosCompared := t.scenariosCompared + 1 }
  let exceeds := match bar with
    | some b => decide (chalI * bps > b * (bps + tolBps))
    | none => false
  let barShown := if hasValue bar then bar else none
  let barVerdict := if hasValue bar then some (if exceeds then BarVerdict.exceed else .repeat)
    else none
  let again := isRepeat tolBps bar barAgeS chalI
  let t := { t with
    nBlindSpotRepeatsObserved := t.nBlindSpotRepeatsObserved +
      if again && within barAgeS blindSpotBarObserveTtlS then 1 else 0 }
  if again && repeatGuarded barAgeS then
    ({ t with nBlindSpotRepeats := t.nBlindSpotRepeats + 1 },
      { verdict := .blindSpotRepeat, bar := barShown, barVerdict })
  else
    ({ t with nBlindSpots := t.nBlindSpots + 1 },
      { verdict := .blindSpotCover, bar := barShown, barVerdict })

structure Comparison where
  champBy : Dict String Row
  chalBy : Dict String Row
  tolBps : Int
  championBar : Option (Dict String Value)
  barAgeS : Option PyFloat

namespace Comparison

def champOut (c : Comparison) (iid : String) : Option Int :=
  parseOutput (rawOutput (c.champBy.get? iid))

def chalOut (c : Comparison) (iid : String) : Option Int :=
  parseOutput (rawOutput (c.chalBy.get? iid))

/-- `_parse_output((champion_bar or {}).get(iid))`. -/
def barOut (c : Comparison) (iid : String) : Option Int :=
  parseOutput ((c.championBar.bind (·.get? iid)).getD .none)

end Comparison

def compareOrder (c : Comparison) (t : Tally) (iid : String) :
    Except PyError (Tally × OrderMark) :=
  match hasValue (c.champOut iid), hasValue (c.chalOut iid) with
  | true, true =>
    tallyDelivered c.tolBps (c.champBy.get? iid) (c.chalBy.get? iid)
      ((c.champOut iid).getD 0) ((c.chalOut iid).getD 0) t
  | false, true =>
    .ok (tallyBlindSpot c.tolBps (c.barOut iid) c.barAgeS ((c.chalOut iid).getD 0) t)
  | true, false =>
    .ok ({ t with
      nDropped := t.nDropped + 1
      scenariosCompared := t.scenariosCompared + 1 }, { verdict := .dropped })
  | false, false => .ok (t, { verdict := .skip })

/-- `None if i is None else str(i)` returns. -/
def Written (v : Option Int) : Prop := ∀ i ∈ v, Printable i

instance : DecidablePred Written
  | none => decidable_of_iff True (by simp [Written])
  | some i => decidable_of_iff (Printable i) (by simp [Written])

def tallyOrder (c : Comparison) (t : Tally) (iid : String) : Except PyError Tally := do
  let (t, mark) ← compareOrder c t iid
  -- the row holds texts, and `str` raises on an integer that is too long
  ensure (Written mark.bar ∧ Written (c.champOut iid) ∧ Written (c.chalOut iid)) .valueError
  let row := { intentId := iid, champ := c.champOut iid, chal := c.chalOut iid, mark }
  return { t with perOrder := t.perOrder ++ [row] }

/-- Join key: rows without an intent id are skipped, a later row replaces an
    earlier one. -/
def byIntent (rows : List Row) : Dict String Row :=
  rows.foldl (fun d row => match row.intentId with
    | some iid => d.set iid row
    | none => d) Dict.empty

def Comparison.ofRows (championResults challengerResults : List Row) (tolBps : Int)
    (championBar : Option (Dict String Value)) (barAgeS : Option PyFloat) : Comparison where
  champBy := byIntent championResults
  chalBy := byIntent challengerResults
  tolBps := tolBps
  championBar := championBar
  barAgeS := barAgeS

/-- `sorted(set(champ_by) | set(chal_by))`. -/
def orderIds (champBy chalBy : Dict String Row) : List String :=
  (champBy.keys ++ chalBy.keys).dedup.insertionSort (· ≤ ·)

namespace Tally

def netBetter (t : Tally) : Nat := t.nWins + t.nBlindSpots

def performanceAdopt (t : Tally) : Bool := t.netBetter ≥ t.nRegressions + dethroneWinMargin

def gasMeasuredFull (t : Tally) : Bool :=
  gasMarginBps.isSome && decide (t.nMatched > 0) && t.gasUnmeasured == 0

/-- The shared base of the three tie-break clauses: something was compared and
    nothing was better or worse. -/
def saturatedTie (t : Tally) : Bool :=
  decide (t.scenariosCompared > 0) && t.netBetter == 0 && t.nRegressions == 0

def gasTieAdopt (t : Tally) : Bool :=
  match gasMarginBps with
  | none => false
  | some margin =>
    t.saturatedTie && decide (t.nMatched > 0) && t.gasMeasuredFull && t.gasOrderWorse == 0
      && decide (t.chalGasTotal * bps < t.champGasTotal * (bps - margin))
      && t.gasOutOk
      && decide (t.chalGasTotal * gasCollapseFloor ≥ t.champGasTotal)

def gasTieWorse (t : Tally) : Bool :=
  match gasMarginBps with
  | none => false
  | some margin =>
    t.gasMeasuredFull && (decide (t.chalGasTotal * bps > t.champGasTotal * (bps + margin))
      || decide (t.gasOrderWorse > 0))

def factorTieAdopt (t : Tally) (factorDelta : Int) : Bool :=
  match factorMargin with
  | none => false
  | some margin => t.saturatedTie && decide (factorDelta ≥ margin) && !t.gasTieWorse

def factorRegionTied (factorDelta : Int) : Bool :=
  match factorMargin with
  | none => true
  | some margin => decide (|factorDelta| < margin)

def deadwoodTieAdopt (t : Tally) (factorDelta deadwoodDelta : Int) : Bool :=
  match unproductiveMargin with
  | none => false
  | some margin =>
    t.saturatedTie && decide (t.nMatched > 0) && factorRegionTied factorDelta
      && !t.gasTieWorse && decide (deadwoodDelta ≥ margin)

def adopt (t : Tally) (factorDelta deadwoodDelta : Int) : Bool :=
  t.nCatastrophic == 0 && t.nDropped == 0
    && (t.performanceAdopt || t.gasTieAdopt || t.factorTieAdopt factorDelta
      || t.deadwoodTieAdopt factorDelta deadwoodDelta)

end Tally

inductive AdoptVia where
  | performance
  | gas
  | factorization
  | deadwood
  deriving DecidableEq

structure Verdict where
  adopt : Bool
  reason : String
  adoptVia : Option AdoptVia
  factorDelta : Int
  deadwoodDelta : Int
  tally : Tally
  deriving DecidableEq

/-- An arming switch as the f-strings print it. -/
def shown : Option Int → String
  | none => "None"
  | some i => toString i

def tieHints (t : Tally) (factorDelta deadwoodDelta : Int) : String :=
  let factorHint :=
    if factorMargin.isSome && t.scenariosCompared > 0 && factorDelta > 0 then
      s!" (factor delta {factorDelta} < margin {shown factorMargin})" else ""
  let gasHint := match gasMarginBps with
    | none => ""
    | some margin =>
      if !t.gasMeasuredFull then ""
      else if t.chalGasTotal * gasCollapseFloor < t.champGasTotal then
        " (gas collapse >50%: implausible, gas clause inert)"
      else if t.chalGasTotal < t.champGasTotal
          && !decide (t.chalGasTotal * bps < t.champGasTotal * (bps - margin)) then
        let d := ((t.champGasTotal - t.chalGasTotal) * bps).fdiv t.champGasTotal
        s!" (gas -{d} bps < margin {margin})"
      else ""
  let deadwoodHint := match unproductiveMargin with
    | none => ""
    | some margin =>
      if t.scenariosCompared > 0 && 0 < deadwoodDelta && deadwoodDelta < margin then
        s!" (deadwood delta {deadwoodDelta} < margin {margin})" else ""
  factorHint ++ gasHint ++ deadwoodHint

def reasonOf (t : Tally) (factorDelta deadwoodDelta : Int) : String :=
  let adopt := t.adopt factorDelta deadwoodDelta
  let base :=
    if t.nCatastrophic > 0 then s!"reject: {t.nCatastrophic} order(s) cut >1% (hard floor)"
    else if t.nDropped > 0 then s!"reject: dropped {t.nDropped} order(s) the champion serves"
    else if adopt && !t.performanceAdopt && t.gasTieAdopt then
      let d := ((t.champGasTotal - t.chalGasTotal) * bps).fdiv t.champGasTotal
      s!"dethrone: matched on all {t.nMatched} order(s), materially cheaper (gas {t.chalGasTotal} vs {t.champGasTotal}, -{d} bps >= margin {shown gasMarginBps})"
    else if adopt && !t.performanceAdopt && t.factorTieAdopt factorDelta then
      s!"dethrone: matched on all {t.nMatched} order(s), better factored (max region -{factorDelta} nodes >= margin {shown factorMargin})"
    else if adopt && !t.performanceAdopt then
      s!"dethrone: matched on all {t.nMatched} order(s), less dead code (unproductive -{deadwoodDelta} nodes >= margin {shown unproductiveMargin})"
    else if adopt then
      s!"dethrone: {t.netBetter} better, {t.nRegressions} minor regression(s) within 1% floor (net +{t.netBetter - t.nRegressions})"
    else if t.netBetter = 0 ∧ t.nRegressions = 0 then
      "matched: no order better or worse" ++ tieHints t factorDelta deadwoodDelta
    else s!"reject: net better {t.netBetter} <= regressions {t.nRegressions} + margin {dethroneWinMargin}"
  if t.nBlindSpotRepeats > 0 then
    base ++ s!" ({t.nBlindSpotRepeats} blind-spot repeat(s) not credited: cover does not exceed the incumbent's adoption-time value)"
  else base

/-- The integers that the reason shows besides counts. -/
def shownInts (t : Tally) (factorDelta deadwoodDelta : Int) : List Int :=
  if t.nCatastrophic > 0 ∨ t.nDropped > 0 ∨ t.performanceAdopt then []
  else if t.gasTieAdopt then [t.chalGasTotal, t.champGasTotal]
  else if t.factorTieAdopt factorDelta then [factorDelta]
  else if t.deadwoodTieAdopt factorDelta deadwoodDelta then [deadwoodDelta]
  else if factorMargin.isSome && t.saturatedTie && factorDelta > 0 then [factorDelta]
  else []

def verdictOf (t : Tally) (factorDelta deadwoodDelta : Int) : Verdict where
  adopt := t.adopt factorDelta deadwoodDelta
  reason := reasonOf t factorDelta deadwoodDelta
  adoptVia :=
    if !t.adopt factorDelta deadwoodDelta then none
    else if t.performanceAdopt then some .performance
    else if t.gasTieAdopt then some .gas
    else if t.factorTieAdopt factorDelta then some .factorization
    else some .deadwood
  factorDelta := factorDelta
  deadwoodDelta := deadwoodDelta
  tally := t

def evaluateRelativeAdoption (championResults challengerResults : List Row)
    (tolBps : Int := relativeTolBps) (championBar : Option (Dict String Value) := none)
    (barAgeS : Option PyFloat := none) (factorDelta : Int := 0) (deadwoodDelta : Int := 0) :
    Except PyError Verdict := do
  let c := Comparison.ofRows championResults challengerResults tolBps championBar barAgeS
  let t ← (orderIds c.champBy c.chalBy).foldlM (tallyOrder c) {}
  ensure (∀ i ∈ shownInts t factorDelta deadwoodDelta, Printable i) .valueError
  return verdictOf t factorDelta deadwoodDelta

/-- The call returned and its `adopt` flag is set. -/
def adopts (result : Except PyError Verdict) : Bool :=
  match result with
  | .ok v => v.adopt
  | .error _ => false

end MinotaurSubnet.Epoch
