import Mathlib.Data.Prod.Lex
import MinotaurSubnet.Library.Fallible
import MinotaurSubnet.Library.FirstSeen
import MinotaurSubnet.Python.Json

/-! # The distributed veto protocol

The pure module: assignments, follower responses and their validation, when a phase resolves,
and which claimed violations the leader benches itself. A response's `counts` and `error` are
not modelled: no decision reads them.
-/

namespace MinotaurSubnet.Veto

open Library Python

/-- `str.lower`, `repr` of a string and SHA-256 as a hex digest. -/
structure Host where
  lower : String → String
  repr : String → String
  sha256Hex : String → String

def vetoVerifyBudgetOrders : Nat := 10
def maxViolationsPerResponse : Nat := 64
def maxCalibrationRows : Nat := 16

def violationCatastrophic : String := "catastrophic"
def violationDropped : String := "dropped"
def violationKinds : List String := [violationCatastrophic, violationDropped]

def statusCompleted : String := "completed"
def statusFailed : String := "failed"
def statusRefused : String := "refused"
def responseStatuses : List String := [statusCompleted, statusFailed, statusRefused]

def verdictOk : String := "ok"
def verdictVeto : String := "veto"

structure SliceViolation where
  orderId : String
  kind : String
  champRaw : String
  chalRaw : String
  deriving DecidableEq

/-- `violation_severity_key`: dropped orders first, then the largest claimed cut. -/
def violationSeverityKey (v : SliceViolation) : Nat ×ₗ Int ×ₗ String :=
  if v.kind = violationDropped then toLex (0, toLex (0, v.orderId))
  else match intOfStr v.champRaw, intOfStr v.chalRaw with
    | some champ, some chal =>
      let cutBps := if 0 < champ then ((champ - chal) * 10000).fdiv champ else 0
      toLex (1, toLex (-cutBps, v.orderId))
    | _, _ => toLex (1, toLex (0, v.orderId))

structure SliceAssignment where
  roundId : String
  sliceIndex : Nat
  validatorEvm : String
  candidateSubmissionId : String
  candidateImageId : String
  incumbentImageId : String
  candidateImageRef : String
  incumbentImageRef : String
  orderIds : List String
  orderHashes : Dict String String
  calibrationOrderIds : List String
  forkPins : Dict String Int
  deadlineEpoch : Int
  leaderApiUrl : String := ""

def SliceAssignment.sliceHash (host : Host) (a : SliceAssignment) : String :=
  host.sha256Hex ("\n".intercalate
    (a.orderIds.map fun oid => oid ++ ":" ++ (a.orderHashes.get? oid).getD ""))

def SliceAssignment.assignmentId (host : Host) (a : SliceAssignment) : String :=
  slice (host.sha256Hex (PyStr.dumpsObject [
    ("round_id", .ofString a.roundId),
    ("candidate_image_id", .ofString a.candidateImageId),
    ("slice_hash", .ofString (a.sliceHash host))])) 0 32

structure VetoResponse where
  assignmentId : String
  roundId : String
  validatorEvm : String
  status : String
  verdict : Option String := none
  violations : List SliceViolation := []
  calibration : List (Dict String String) := []

/-- `repr` of an optional string. -/
def reprOptional (host : Host) : Option String → String
  | none => "None"
  | some s => host.repr s

def checkViolation (host : Host) (sliceIds : List String) (v : SliceViolation) :
    Except String Unit := do
  ensure (v.kind ∈ violationKinds) ("unknown violation kind " ++ host.repr v.kind)
  ensure (v.orderId ∈ sliceIds)
    ("violation references order outside the slice: " ++ v.orderId)

def checkCalibrationRow (calibIds : List String) (row : Dict String String) : Except String Unit :=
  ensure ((row.get? "order_id").any (· ∈ calibIds))
    "calibration row references a non-calibration order"

def checkVerdict (host : Host) (response : VetoResponse) : Except String Unit :=
  if response.status = statusCompleted then
    ensure (response.verdict = some verdictOk ∨ response.verdict = some verdictVeto)
      ("completed response with verdict " ++ reprOptional host response.verdict)
  else ensure response.verdict.isNone "verdict on a non-completed response"

/-- `validate_response`; the error is the reason of the refusal. -/
def validateResponse (host : Host) (response : VetoResponse) (assignment : SliceAssignment) :
    Except String Unit := do
  ensure (response.assignmentId = assignment.assignmentId host) "assignment_id mismatch"
  ensure (response.roundId = assignment.roundId) "round_id mismatch"
  ensure (host.lower response.validatorEvm = host.lower assignment.validatorEvm) "validator mismatch"
  ensure (response.status ∈ responseStatuses) ("unknown status " ++ host.repr response.status)
  checkVerdict host response
  ensure (response.violations.length ≤ maxViolationsPerResponse) "too many violations"
  ensure (response.calibration.length ≤ maxCalibrationRows) "too many calibration rows"
  ensure (response.violations = [] ∨ response.verdict = some verdictVeto)
    "violations on a non-veto response"
  ensure (response.verdict = some verdictVeto → response.violations ≠ []) "veto with no violations"
  response.violations.forM (checkViolation host assignment.orderIds)
  response.calibration.forM (checkCalibrationRow assignment.calibrationOrderIds)

/-- Why a phase counts as resolved; `opened` and `reverified` appear on the stored record only. -/
inductive Resolution where
  | noAssignments
  | allTerminal
  | windowElapsed
  | reverified
  | skippedNoDigest
  | opened
  deriving DecidableEq

structure VetoPhaseState where
  candidateSubmissionId : String
  candidateImageId : String
  deadlineEpoch : Int
  assignments : List SliceAssignment := []
  responses : Dict String VetoResponse := Dict.empty
  unsupported : List String := []
  resolved : Bool := false
  resolution : Option Resolution := none

inductive PhaseAction where
  | wait
  | resolve
  | noop
  deriving DecidableEq

def responseIsTerminal : Option VetoResponse → Bool
  | none => false
  | some response => response.status ∈ responseStatuses

/-- `_terminal` of `resolve_phase`: marked unsupported, or answered this very assignment. -/
def assignmentTerminal (host : Host) (phase : VetoPhaseState) (a : SliceAssignment) : Bool :=
  let evm := host.lower a.validatorEvm
  decide (evm ∈ phase.unsupported.map host.lower) ||
    match phase.responses.get? evm with
    | none => false
    | some r => responseIsTerminal (some r) && r.assignmentId == a.assignmentId host

def resolvePhase (host : Host) (phase : VetoPhaseState) (currentEpoch : Int) :
    PhaseAction × Option Resolution :=
  if phase.resolved then (.noop, none)
  else if phase.assignments.isEmpty then (.resolve, some .noAssignments)
  else if phase.assignments.all (assignmentTerminal host phase) then (.resolve, some .allTerminal)
  else if phase.deadlineEpoch < currentEpoch then (.resolve, some .windowElapsed)
  else (.wait, none)

/-- `plan_reverification` with the default budget: one claim an order, the most severe first. -/
def planReverification (response : VetoResponse) : List SliceViolation :=
  if response.verdict ≠ some verdictVeto ∨ response.violations = [] then []
  else (firstSeen SliceViolation.orderId
    (sortedBy violationSeverityKey response.violations)).take vetoVerifyBudgetOrders

structure ObserveCounts where
  nAssignments : Nat
  nResponses : Nat
  nCompleted : Nat
  nOk : Nat
  nVeto : Nat
  nFailed : Nat
  nRefused : Nat
  nClaimedViolations : Nat
  nUnsupported : Nat
  deriving DecidableEq

def vetoes (phase : VetoPhaseState) : List VetoResponse :=
  phase.responses.values.filter fun r =>
    r.status = statusCompleted ∧ r.verdict = some verdictVeto

def phaseObserveCounts (phase : VetoPhaseState) : ObserveCounts where
  nAssignments := phase.assignments.length
  nResponses := phase.responses.size
  nCompleted := phase.responses.values.countP (·.status = statusCompleted)
  nOk := phase.responses.values.countP fun r =>
    r.status = statusCompleted ∧ r.verdict = some verdictOk
  nVeto := (vetoes phase).length
  nFailed := phase.responses.values.countP (·.status = statusFailed)
  nRefused := phase.responses.values.countP (·.status = statusRefused)
  nClaimedViolations := ((vetoes phase).map (·.violations.length)).sum
  nUnsupported := phase.unsupported.countP (· ∉ phase.responses.keys)

theorem mem_planReverification {response v} (planned : v ∈ planReverification response) :
    response.verdict = some verdictVeto ∧ v ∈ response.violations := by
  unfold planReverification at planned
  split at planned
  · cases planned
  · next claims =>
    rw [not_or, not_ne_iff] at claims
    have sorted := (firstSeen_sublist _ _).subset (List.mem_of_mem_take planned)
    exact ⟨claims.1, mem_sortedBy.mp sorted⟩

theorem length_planReverification (response : VetoResponse) :
    (planReverification response).length ≤ vetoVerifyBudgetOrders := by
  unfold planReverification
  split
  · exact Nat.zero_le _
  · exact List.length_take_le _ _

theorem forM_ok {α : Type} {check : α → Except String Unit} {items : List α}
    (passed : items.forM check = .ok ()) : ∀ x ∈ items, check x = .ok () := by
  induction items with
  | nil => exact fun x member => nomatch member
  | cons y rest ih =>
    obtain ⟨_, head, tail⟩ := bind_eq_ok.mp passed
    intro x member
    rcases List.mem_cons.mp member with rfl | later
    · exact head
    · exact ih tail x later

structure WellBound (host : Host) (a : SliceAssignment) (r : VetoResponse) : Prop where
  answers : r.assignmentId = a.assignmentId host
  claimsInSlice : ∀ v ∈ r.violations, v.orderId ∈ a.orderIds
  vetoClaims : r.verdict = some verdictVeto → r.violations ≠ []

theorem validateResponse_ok {host a r} (valid : validateResponse host r a = .ok ()) :
    WellBound host a r := by
  obtain ⟨_, answers, valid⟩ := bind_eq_ok.mp valid
  iterate 7 obtain ⟨_, valid⟩ := bind_ok valid
  obtain ⟨_, claims, valid⟩ := bind_eq_ok.mp valid
  obtain ⟨_, inside, -⟩ := bind_eq_ok.mp valid
  refine ⟨by simpa using answers, ?_, of_decide_eq_true (ensure_eq_ok.mp claims)⟩
  intro v member
  obtain ⟨_, bound⟩ := bind_ok (forM_ok inside v member)
  simpa using bound

end MinotaurSubnet.Veto
