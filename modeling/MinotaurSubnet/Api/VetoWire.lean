import MinotaurSubnet.Epoch.AdoptionTally
import MinotaurSubnet.Epoch.DistributedVeto
import MinotaurSubnet.Harness.RoundStore

/-! # The distributed veto on the leader

`veto_wire.py`: the decisions of the gate and of the streaming re-verification, the registry's
ingestion of responses, the assignments of a phase, and the pass in which the leader benches the
claimed orders itself. The corpus partition and the bench are arguments; a call of the block
that raises, whatever it raises, is `none`.
-/

namespace MinotaurSubnet.Veto

open Library Python Epoch
open Harness (repoDigest bareHex isBareDigest)

inductive OpenDecision where
  | open
  | defer
  | skip
  deriving DecidableEq

def vetoOpenDecision (isCertifyState hasFinalist phaseExists hasPeers : Bool) : OpenDecision :=
  if phaseExists || !isCertifyState || !hasFinalist then .skip
  else if !hasPeers then .defer
  else .open

inductive GateDecision where
  | wait
  | allow
  | block
  deriving DecidableEq

def vetoGateDecision (resolved : Bool) (nVeto : Nat) (wouldGateConfirmed : Option Bool)
    (reverifyEnabled : Bool) (currentEpoch vetoDeadlineEpoch : Int) : GateDecision :=
  if wouldGateConfirmed = some true then .block
  else if vetoDeadlineEpoch < currentEpoch then .allow
  else if !resolved then .wait
  else if 0 < nVeto ∧ wouldGateConfirmed = none ∧ reverifyEnabled then .wait
  else .allow

inductive StreamAction where
  | spawn
  | writeResult
  | writeNone
  | pending
  | noop
  deriving DecidableEq

def vetoStreamAction (reverifyEnabled hasVeto resolved inflight uncovered resultPresent
    confirmed : Bool) : StreamAction :=
  if confirmed then .writeResult
  else if !(reverifyEnabled && hasVeto) then if resolved then .writeNone else .noop
  else if uncovered && !inflight then .spawn
  else if !resolved then .noop
  else if inflight || uncovered then .pending
  else if resultPresent then .writeResult
  else .pending

def assignmentOf (host : Host) (phase : VetoPhaseState) (evm : String) : Option SliceAssignment :=
  phase.assignments.find? fun a => host.lower a.validatorEvm = evm

def markUnsupported (host : Host) (phase : VetoPhaseState) (validatorEvm : String) : VetoPhaseState :=
  let evm := host.lower validatorEvm
  if evm ∈ phase.unsupported then phase
  else { phase with unsupported := phase.unsupported ++ [evm] }

/-- `record_response`: the phase afterwards, and the detail or the reason of the refusal. -/
def recordResponse (host : Host) (phase : VetoPhaseState) (response : VetoResponse) :
    VetoPhaseState × Except String String :=
  let evm := host.lower response.validatorEvm
  match assignmentOf host phase evm with
  | none => (phase, .error "no assignment for validator")
  | some assignment =>
    if response.assignmentId ≠ assignment.assignmentId host then (phase, .error "stale assignment")
    else match validateResponse host response assignment with
      | .error reason => (phase, .error reason)
      | .ok () =>
        if (phase.responses.get? evm).any (·.assignmentId = response.assignmentId) then
          (phase, .ok "duplicate")
        else ({ phase with responses := phase.responses.set evm response }, .ok "accepted")

/-- A corpus case as the store returns it, an order or a quote. -/
structure OrderRecord where
  orderId : Option String
  appId : Option String
  chainId : Option Int
  deriving DecidableEq

namespace OrderRecord

/-- `str(order.get("order_id"))`. -/
def idText (o : OrderRecord) : String := o.orderId.getD "None"

/-- `_order_label`: the harness row label of the case. -/
def label (o : OrderRecord) : String :=
  let oid := o.orderId.getD ""
  let kind := if startsWith oid "q_" then "quote" else "hist"
  o.appId.getD "None" ++ ":" ++ kind ++ ":" ++ oid

end OrderRecord

/-- `str(chain_id)`. -/
def chainText : Option Int → String
  | none => "None"
  | some chain => toString chain

def defaultCandidateRepo : String := "ghcr.io/subnet112/minotaur-solver"

def isDigestRef (s : String) : Bool := (repoDigest (strip s.toList)).isSome

def makeDigestRef (repo hexOrRef : String) : Option String :=
  match bareHex (some hexOrRef) with
  | some hex => if repo = "" then none else some (repo ++ "@sha256:" ++ hex)
  | none => none

/-- What the stores give: `partition_follower_slices`, `calibration_overlap` and
    `order_replay_hash`. -/
structure Corpus where
  slices : List (List OrderRecord)
  calibration : List OrderRecord
  replayHash : OrderRecord → String

/-- `assign_slices`: validators ranked by a keyed hash, with their slice index. -/
def assignSlices (host : Host) (validatorEvms : List String) (nSlices : Nat) (entropy : String) :
    List (String × Nat) :=
  let unique := ((validatorEvms.filter (· ≠ "")).map host.lower).dedup.insertionSort (· ≤ ·)
  let ranked := sortedBy (fun evm => host.sha256Hex (entropy ++ "|" ++ evm)) unique
  (ranked.take nSlices).zipIdx

/-- The keyword arguments of `build_assignments`. -/
structure BuildRequest where
  roundId : String
  candidateSubmissionId : String
  candidateImageId : String
  incumbentImageId : String
  forkPins : Dict String Int
  deadlineEpoch : Int
  validatorEvms : List String
  entropy : String
  leaderApiUrl : String := ""

def assignmentFor (corpus : Corpus) (request : BuildRequest) (candidateRef incumbentRef : String)
    (evm : String) (idx : Nat) : SliceAssignment :=
  let orders := corpus.slices[idx]?.getD []
  let chain := orders.head?.bind OrderRecord.chainId
  let sliceCalib := corpus.calibration.filter (·.chainId = chain)
  { roundId := request.roundId
    sliceIndex := idx
    validatorEvm := evm
    candidateSubmissionId := request.candidateSubmissionId
    candidateImageId := request.candidateImageId
    incumbentImageId := request.incumbentImageId
    candidateImageRef := candidateRef
    incumbentImageRef := incumbentRef
    orderIds := orders.map OrderRecord.idText
    orderHashes := Dict.empty.assignAll
      ((orders ++ sliceCalib).map fun o => (o.idText, corpus.replayHash o))
    calibrationOrderIds := sliceCalib.map OrderRecord.idText
    forkPins := request.forkPins
    deadlineEpoch := request.deadlineEpoch
    leaderApiUrl := request.leaderApiUrl }

def buildAssignments (host : Host) (repo : String) (corpus : Corpus) (request : BuildRequest) :
    List SliceAssignment :=
  if !isBareDigest request.candidateImageId || !isBareDigest request.incumbentImageId then []
  else match makeDigestRef repo request.candidateImageId,
      makeDigestRef repo request.incumbentImageId with
    | some candidateRef, some incumbentRef =>
      (assignSlices host request.validatorEvms corpus.slices.length request.entropy).map
        fun entry => assignmentFor corpus request candidateRef incumbentRef entry.1 entry.2
    | _, _ => []

/-- `_is_catastrophic`: the row's decimal strings read back as the integers they print. -/
def isCatastrophic (champ chal : Option Int) : Bool :=
  match champ, chal with
  | some champ, some chal =>
    if champ ≤ 0 then false else decide (chal * bps < champ * (bps - floorBps))
  | _, _ => false

def rawText (v : Option Int) : String := (v.map toString).getD ""

structure SliceCounts where
  wins : Nat := 0
  regressions : Nat := 0
  catastrophic : Nat := 0
  dropped : Nat := 0
  blindSpotCovers : Nat := 0
  matched : Nat := 0
  compared : Nat := 0
  benchError : Nat := 0
  deriving DecidableEq

structure CalibrationRow where
  orderId : String
  champRaw : String
  chalRaw : String
  deriving DecidableEq

structure SliceEvidence where
  violations : List SliceViolation := []
  counts : SliceCounts := {}
  calibrationRows : List CalibrationRow := []
  matchedRows : Nat := 0
  deriving DecidableEq

/-- The challenger's rows by label, and whether the harness failed on each. -/
def chalErrored (chalResults : List Row) : Dict String Bool :=
  Dict.empty.assignAll (chalResults.map fun r => (r.intentId.getD "", r.error.truthy))

/-- What the loop over the verdict's rows looks up. -/
structure EvidenceTables where
  labelToOid : Dict String String
  calibIds : List String
  chalErrored : Dict String Bool

def evidenceTables (sliceOrders calibOrders : List OrderRecord) (chalResults : List Row) :
    EvidenceTables where
  labelToOid := Dict.empty.assignAll ((sliceOrders ++ calibOrders).map fun o => (o.label, o.idText))
  calibIds := calibOrders.map OrderRecord.idText
  chalErrored := chalErrored chalResults

def addViolation (e : SliceEvidence) (oid kind : String) (row : OrderRow) : SliceEvidence :=
  { e with violations := e.violations ++
      [{ orderId := oid, kind, champRaw := rawText row.champ, chalRaw := rawText row.chal }] }

/-- One pass of the loop, for a row that is neither foreign nor a calibration row. -/
def countSliceRow (tables : EvidenceTables) (oid : String) (e : SliceEvidence) (row : OrderRow) :
    SliceEvidence :=
  let e := if row.mark.verdict = .skip then e
    else { e with counts := { e.counts with compared := e.counts.compared + 1 } }
  match row.mark.verdict with
  | .win => { e with counts := { e.counts with wins := e.counts.wins + 1 } }
  | .blindSpotCover =>
    { e with counts := { e.counts with blindSpotCovers := e.counts.blindSpotCovers + 1 } }
  | .matched => { e with counts := { e.counts with matched := e.counts.matched + 1 } }
  | .dropped =>
    -- nothing delivered because the harness failed is infrastructure noise, not evidence
    if (tables.chalErrored.get? row.intentId).getD false then
      { e with counts := { e.counts with benchError := e.counts.benchError + 1 } }
    else
      addViolation { e with counts := { e.counts with dropped := e.counts.dropped + 1 } }
        oid violationDropped row
  | .regression =>
    let e := { e with counts := { e.counts with regressions := e.counts.regressions + 1 } }
    if isCatastrophic row.champ row.chal then
      addViolation { e with counts := { e.counts with catastrophic := e.counts.catastrophic + 1 } }
        oid violationCatastrophic row
    else e
  | .blindSpotRepeat | .skip => e

def evidenceRow (tables : EvidenceTables) (e : SliceEvidence) (row : OrderRow) : SliceEvidence :=
  match tables.labelToOid.get? row.intentId with
  | none => e
  | some oid =>
    let e := { e with matchedRows := e.matchedRows + 1 }
    if oid ∈ tables.calibIds then
      { e with calibrationRows := e.calibrationRows ++
          [{ orderId := oid, champRaw := rawText row.champ, chalRaw := rawText row.chal }] }
    else countSliceRow tables oid e row

def extractSliceEvidence (verdict : Verdict) (sliceOrders calibOrders : List OrderRecord)
    (chalResults : List Row) : SliceEvidence :=
  verdict.tally.perOrder.foldl
    (evidenceRow (evidenceTables sliceOrders calibOrders chalResults)) {}

/-- The summary of one or of several passes. -/
structure ReverifyResult where
  ran : Bool := false
  planned : Nat := 0
  confirmed : Nat := 0
  discarded : Nat := 0
  orders : Dict String Bool := Dict.empty

structure PassResult where
  result : ReverifyResult := {}
  benched : List String := []

def unionOfPlans (phase : VetoPhaseState) (includeResponders : Option (List String)) :
    List SliceViolation :=
  firstSeen SliceViolation.orderId
    ((phase.responses.entries.filter fun entry => includeResponders.all (entry.1 ∈ ·)).flatMap
      fun entry => planReverification entry.2)

def plannedViolations (phase : VetoPhaseState) (includeResponders : Option (List String)) :
    List SliceViolation :=
  (unionOfPlans phase includeResponders).take (vetoVerifyBudgetOrders * max 1 phase.assignments.length)

/-- What a pass has settled before its first bench. -/
structure ReverifyWork where
  planned : List SliceViolation
  candidateImageRef : String
  incumbentImageRef : String
  forkPins : Dict String Int
  byChain : List (Option Int × List OrderRecord)

def groupByChain (orders : List OrderRecord) : List (Option Int × List OrderRecord) :=
  (sortedBy chainText (firstSeen id (orders.map OrderRecord.chainId))).map fun chain =>
    (chain, orders.filter (·.chainId = chain))

/-- `reverify_dissents` up to its first bench; `none` where it returns the empty summary. -/
def reverifyWork (phase : VetoPhaseState) (includeResponders : Option (List String))
    (orderLookup : String → Option OrderRecord) : Option ReverifyWork :=
  match phase.assignments with
  | [] => none
  | a0 :: _ =>
    let planned := plannedViolations phase includeResponders
    let orders := planned.filterMap fun v => orderLookup v.orderId
    if planned.isEmpty then none
    else if !(isDigestRef a0.candidateImageRef && isDigestRef a0.incumbentImageRef) then none
    else if orders.isEmpty then none
    else some {
      planned
      candidateImageRef := a0.candidateImageRef
      incumbentImageRef := a0.incumbentImageRef
      forkPins := a0.forkPins
      byChain := groupByChain orders }

structure Bench where
  pullImage : String → Bool
  champion : String → Int → List OrderRecord → Option (List Row)
  challenger : String → Int → List OrderRecord → Option (List Row)

def benchChain (bench : Bench) (work : ReverifyWork) (group : Option Int × List OrderRecord) :
    Option (List String × List String) :=
  match work.forkPins.get? (chainText group.1) with
  | none | some 0 => some ([], [])
  | some pin => do
      let champ ← bench.champion work.incumbentImageRef pin group.2
      let chal ← bench.challenger work.candidateImageRef pin group.2
      let verdict ← (evaluateRelativeAdoption champ chal).toOption
      let evidence := extractSliceEvidence verdict group.2 [] chal
      return (evidence.violations.map SliceViolation.orderId,
        (group.2.filterMap OrderRecord.orderId).filter (· ≠ ""))

def passResult (planned : List SliceViolation) (confirmedIds benchedIds : List String) : PassResult :=
  if benchedIds.isEmpty then {}
  else
    let orders := Dict.empty.assignAll
      (planned.map fun v => (v.orderId, decide (v.orderId ∈ confirmedIds)))
    let confirmed := orders.values.countP id
    { result := {
        ran := true
        planned := planned.length
        confirmed := confirmed
        discarded := planned.length - confirmed
        orders := orders }
      benched := benchedIds }

/-- `reverify_dissents` from its first pull on. -/
def reverifyBench (bench : Bench) (work : ReverifyWork) : PassResult :=
  if !(bench.pullImage work.candidateImageRef && bench.pullImage work.incumbentImageRef) then {}
  else match work.byChain.mapM (benchChain bench work) with
    | none => {}
    | some chains => passResult work.planned (chains.flatMap Prod.fst) (chains.flatMap Prod.snd)

def reverifyDissents (bench : Bench) : Option ReverifyWork → PassResult
  | none => {}
  | some work => reverifyBench bench work

/-- `merge_reverify_results`; a pass that crashed merges as the empty summary. -/
def mergeReverifyResults (prev : Option ReverifyResult) (new : ReverifyResult) : ReverifyResult :=
  let orders := ((prev.map ReverifyResult.orders).getD Dict.empty).update new.orders
  let confirmed := orders.values.countP id
  { ran := (prev.map ReverifyResult.ran).getD false || new.ran
    planned := orders.size
    confirmed := confirmed
    discarded := orders.size - confirmed
    orders := orders }

def maxReportViolations : Nat := 24

structure ViolationReport where
  orderId : String
  kind : String
  champRaw : String
  chalRaw : String
  confirmed : Bool
  deriving DecidableEq

structure ObserveSummary where
  roundId : String
  candidateSubmissionId : String
  resolution : Resolution
  counts : ObserveCounts
  reverify : Option ReverifyResult
  wouldGateClaims : Bool
  wouldGateConfirmed : Option Bool
  violations : List ViolationReport

def reportedViolations (phase : VetoPhaseState) (reverify : Option ReverifyResult) :
    List ViolationReport :=
  let claims := (firstSeen SliceViolation.orderId
    (phase.responses.values.flatMap VetoResponse.violations)).take maxReportViolations
  let confirmedMap := (reverify.map ReverifyResult.orders).getD Dict.empty
  let rows := claims.map fun v =>
    { orderId := v.orderId, kind := v.kind, champRaw := v.champRaw, chalRaw := v.chalRaw
      confirmed := (confirmedMap.get? v.orderId).getD false : ViolationReport }
  sortedBy (fun v => toLex (!v.confirmed, v.orderId)) rows

def observeSummary (roundId : String) (phase : VetoPhaseState) (resolution : Resolution)
    (reverify : Option ReverifyResult) : ObserveSummary where
  roundId := roundId
  candidateSubmissionId := phase.candidateSubmissionId
  resolution := resolution
  counts := phaseObserveCounts phase
  reverify := reverify
  wouldGateClaims := decide (0 < (phaseObserveCounts phase).nVeto)
  wouldGateConfirmed := (reverify.filter ReverifyResult.ran).map fun r => decide (0 < r.confirmed)
  violations := reportedViolations phase reverify

/-- The three shapes of a round's `veto_observe`. -/
inductive ObserveRecord where
  | skipped (roundId : String)
  | opened (roundId : String) (nAssignments : Nat)
  | summary (s : ObserveSummary)

namespace ObserveRecord

def resolution : ObserveRecord → Resolution
  | .skipped _ => .skippedNoDigest
  | .opened _ _ => .opened
  | .summary s => s.resolution

/-- `summary.get("n_veto", 0)`. -/
def nVeto : ObserveRecord → Nat
  | .skipped _ | .opened _ _ => 0
  | .summary s => s.counts.nVeto

def wouldGateConfirmed : ObserveRecord → Option Bool
  | .skipped _ | .opened _ _ => some false
  | .summary s => s.wouldGateConfirmed

end ObserveRecord

end MinotaurSubnet.Veto
