import MinotaurSubnet.Api.VetoWire
import MinotaurSubnet.Library.Machine

/-! # One round's veto phase on the leader

Three activities of one event loop share the phase: the coordinator tick (`_drive_veto_observe`,
then the gate of `_maybe_certify_round`), the response handler, and the re-verify tasks. What
lies between two awaits is one step. The drive may suspend at its fan-out, and other rounds'
phases may suspend it before and after this round's turn, so the drive and the gate are separate
events. A restart loses everything but the round store.
-/

namespace MinotaurSubnet.Veto

open Library

structure Leader where
  host : Host
  roundId : String
  repo : String
  entropy : String := "degraded:observe-only-phase0"
  leaderApiUrl : String := ""
  reverifyEnabled : Bool := true

structure RoundView where
  certifyState : Bool
  finalistSubmissionId : Option String
  candidateDigest : Option String
  incumbentDigest : Option String
  decisionDeadlineEpoch : Option Int
  forkPins : Dict String Int
  peers : List String
  corpus : Corpus

/-- An entry of `_VETO_REVERIFY_STATE`. -/
structure StreamState where
  covered : List String := []
  inflight : Bool := false
  result : Option ReverifyResult := none
  done : Bool := false

/-- A re-verify task: created, or with its plan made and its benches under way. -/
inductive TaskStage where
  | queued
  | benching (work : Option ReverifyWork)

structure ReverifyTask where
  includeResponders : List String
  stage : TaskStage := .queued

structure Landed where
  includeResponders : List String
  work : Option ReverifyWork
  bench : Bench

def Landed.outcome (pass : Landed) : PassResult := reverifyDissents pass.bench pass.work

/-- `passes` and `late` are history: the completed passes of the process, and the validators whose
    response was recorded after the terminal record was written. -/
structure State where
  phase : Option VetoPhaseState := none
  stream : Option StreamState := none
  tasks : List ReverifyTask := []
  observe : Option ObserveRecord := none
  /-- The drive waits for its fan-out; the epoch it read before. -/
  fanning : Option Int := none
  passes : List Landed := []
  late : List String := []

/-- A process that finds `observe` in the round store. -/
def State.boot (observe : Option ObserveRecord) : State := { observe }

inductive Event where
  | drive (now : Int) (network : Bool) (view : RoundView)
  | fanned (rejectTerminal : String → Bool)
  | poll (now : Int) (decisionDeadlineEpoch : Option Int) (peers : Bool)
  | response (r : VetoResponse)
  | passBegins (i : Nat) (orderLookup : String → Option OrderRecord)
  | passLands (i : Nat) (bench : Bench)
  | restart

inductive Answer where
  | quiet
  | gate (decision : GateDecision)
  | ingested (outcome : Except String String)
  deriving DecidableEq

variable (l : Leader)

def recordVetoSkip (view : RoundView) (now : Int) : VetoPhaseState × ObserveRecord :=
  ({ candidateSubmissionId := view.finalistSubmissionId.getD ""
     candidateImageId := view.candidateDigest.getD ""
     deadlineEpoch := now
     resolved := true
     resolution := some .skippedNoDigest }, .skipped l.roundId)

def phaseDeadline (now : Int) (decisionDeadlineEpoch : Option Int) : Int :=
  let upper := match decisionDeadlineEpoch with
    | none => now + 20
    | some ddl => min (now + 20) (ddl - 1)
  max (now + 1) upper

/-- `_open_veto_phase`: the phase it registers and the record it stores. -/
def openVetoPhase (view : RoundView) (now : Int) : VetoPhaseState × ObserveRecord :=
  let candidate := view.candidateDigest.getD ""
  let incumbent := view.incumbentDigest.getD ""
  if candidate = "" ∨ incumbent = "" then recordVetoSkip l view now
  else
    let deadline := phaseDeadline now view.decisionDeadlineEpoch
    let assignments := buildAssignments l.host l.repo view.corpus {
      roundId := l.roundId
      candidateSubmissionId := view.finalistSubmissionId.getD ""
      candidateImageId := candidate
      incumbentImageId := incumbent
      forkPins := view.forkPins
      deadlineEpoch := deadline
      validatorEvms := view.peers
      entropy := l.entropy
      leaderApiUrl := l.leaderApiUrl }
    ({ candidateSubmissionId := view.finalistSubmissionId.getD ""
       candidateImageId := candidate
       deadlineEpoch := deadline
       assignments := assignments }, .opened l.roundId assignments.length)

/-- The terminal record, written by the drive or by a completing pass. -/
def writeRecord (s : State) (phase : VetoPhaseState) (st : StreamState) (resolution : Resolution)
    (reverify : Option ReverifyResult) : State :=
  let phase := { phase with resolved := true, resolution := some resolution }
  { s with
    phase := some phase
    observe := some (.summary (observeSummary l.roundId phase resolution reverify))
    stream := some { st with done := true } }

def vetoResponders (phase : VetoPhaseState) : List String :=
  (phase.responses.entries.filter fun entry => entry.2.verdict = some verdictVeto).map Prod.fst

def uncoveredResponders (phase : VetoPhaseState) (st : StreamState) : List String :=
  (vetoResponders phase).filter (· ∉ st.covered)

def StreamState.confirmed (st : StreamState) : Bool := st.result.any fun r => 0 < r.confirmed

/-- What `veto_stream_action` answers for the phase. -/
def streamAction (phase : VetoPhaseState) (st : StreamState) (now : Int) : StreamAction :=
  vetoStreamAction l.reverifyEnabled (!(vetoResponders phase).isEmpty)
    (decide ((resolvePhase l.host phase now).1 = .resolve)) st.inflight
    (!(uncoveredResponders phase st).isEmpty) st.result.isSome st.confirmed

def resolutionNow (phase : VetoPhaseState) (now : Int) : Resolution :=
  ((resolvePhase l.host phase now).2).getD .reverified

def vetoStreamStep (s : State) (now : Int) : State :=
  match s.stream, s.phase with
  | some st, some phase =>
    if st.done then s
    else match streamAction l phase st now with
      | .spawn =>
        { s with
          stream := some { st with inflight := true }
          tasks := s.tasks ++ [{ includeResponders := uncoveredResponders phase st }] }
      | .writeResult => writeRecord l s phase st (resolutionNow l phase now) st.result
      | .writeNone => writeRecord l s phase st (resolutionNow l phase now) none
      | .pending | .noop => s
  | _, _ => s

/-- The opening half of `_drive_veto_observe`. -/
def openIfDue (s : State) (now : Int) (view : RoundView) : State :=
  match vetoOpenDecision view.certifyState (view.finalistSubmissionId.any (· ≠ "")) s.phase.isSome
      (!view.peers.isEmpty) with
  | .open =>
    let opened := openVetoPhase l view now
    { s with phase := some opened.1, observe := some opened.2 }
  | .defer | .skip => s

def driveTurn (s : State) (now : Int) (network : Bool) : State :=
  match s.phase with
  | none => s
  | some phase =>
    let st := s.stream.getD {}
    let s := { s with stream := some st }
    if st.done then s
    else if (resolvePhase l.host phase now).1 ≠ .resolve ∧ network ∧ phase.assignments ≠ [] then
      { s with fanning := some now }
    else vetoStreamStep l s now

def markRejected (rejectTerminal : String → Bool) (phase : VetoPhaseState) : VetoPhaseState :=
  phase.assignments.foldl
    (fun p a => if rejectTerminal a.validatorEvm then markUnsupported l.host p a.validatorEvm else p)
    phase

def committed (phase : VetoPhaseState) (benched : List String) (evm : String) : Bool :=
  match phase.responses.get? evm with
  | none => false
  | some r =>
    let planned := (planReverification r).map SliceViolation.orderId
    !planned.isEmpty && planned.all (· ∈ benched)

def StreamState.land (st : StreamState) (phase : VetoPhaseState) (pass : Landed) : StreamState :=
  { st with
    inflight := false
    result := some (mergeReverifyResults st.result pass.outcome.result)
    covered := st.covered ++
      pass.includeResponders.filter fun evm => committed phase pass.outcome.benched evm }

/-- `_run` after its `reverify_dissents` returned. -/
def landPass (s : State) (pass : Landed) : State :=
  let s := { s with passes := s.passes ++ [pass] }
  match s.stream, s.phase with
  | some st, some phase =>
    let st := st.land phase pass
    if st.confirmed && !st.done then
      writeRecord l s phase st (phase.resolution.getD .reverified) st.result
    else { s with stream := some st }
  | _, _ => s

def State.gateResolved (s : State) : Bool := s.observe.any (·.resolution ≠ .opened)

/-- The veto gate of `_maybe_certify_round`. -/
def certificationGate (s : State) (now : Int) (decisionDeadlineEpoch : Option Int) (peers : Bool) :
    GateDecision :=
  match decisionDeadlineEpoch with
  -- without a deadline the gate could wait forever, so it is skipped
  | none => .allow
  | some ddl =>
    match s.phase with
    | none =>
      if !peers then .allow
      else vetoGateDecision false 0 none l.reverifyEnabled now (ddl - 2)
    | some _ =>
      vetoGateDecision s.gateResolved ((s.observe.map ObserveRecord.nVeto).getD 0)
        (if s.gateResolved then s.observe.bind ObserveRecord.wouldGateConfirmed else none)
        l.reverifyEnabled now (ddl - 2)

/-- `ingest_response` after its signature checks. -/
def ingest (s : State) (r : VetoResponse) : State × Except String String :=
  match s.phase with
  | none => (s, .error "unknown round")
  | some phase =>
    let (phase', outcome) := recordResponse l.host phase r
    let accepted := match outcome with
      | .ok detail => detail = "accepted"
      | .error _ => false
    ({ s with
        phase := some phase'
        late := if accepted && s.stream.any StreamState.done
          then s.late ++ [l.host.lower r.validatorEvm] else s.late }, outcome)

def beginPass (phase : VetoPhaseState) (orderLookup : String → Option OrderRecord)
    (t : ReverifyTask) : ReverifyTask :=
  match t.stage with
  | .queued =>
    { t with stage := .benching (reverifyWork phase (some t.includeResponders) orderLookup) }
  | .benching _ => t

def step (s : State) : Event → State × Answer
  | .drive now network view =>
    if s.fanning.isSome then (s, .quiet)
    else (driveTurn l (openIfDue l s now view) now network, .quiet)
  | .fanned rejectTerminal =>
    match s.fanning, s.phase with
    | some now, some phase =>
      (vetoStreamStep l
        { s with phase := some (markRejected l rejectTerminal phase), fanning := none } now, .quiet)
    | _, _ => (s, .quiet)
  | .poll now decisionDeadlineEpoch peers =>
    -- the tick polls after its drive returned
    if s.fanning.isSome then (s, .quiet)
    else (s, .gate (certificationGate l s now decisionDeadlineEpoch peers))
  | .response r =>
    -- another round's response goes to that round's phase
    if r.roundId ≠ l.roundId then (s, .quiet)
    else
      let (s', outcome) := ingest l s r
      (s', .ingested outcome)
  | .passBegins i orderLookup =>
    match s.phase with
    | none => (s, .quiet)
    | some phase => ({ s with tasks := s.tasks.modify i (beginPass phase orderLookup) }, .quiet)
  | .passLands i bench =>
    match s.tasks[i]? with
    | some { includeResponders, stage := .benching work } =>
      (landPass l { s with tasks := s.tasks.eraseIdx i } { includeResponders, work, bench }, .quiet)
    | _ => (s, .quiet)
  | .restart => (State.boot s.observe, .quiet)

end MinotaurSubnet.Veto
