import MinotaurSubnet.Consensus.ChampionManager

/-! # Solver rounds

The records of `harness/round_store.py` and the store operations a certification
goes through. The time of the last update is left out, a certification does not look
at the time of creation, and the persisted copy has its own module. A `RoundState` that
the store hands out is a deep copy, so here it is a value.
-/

namespace MinotaurSubnet.Harness

open Library Python Consensus

inductive RoundStatus where
  | «open»
  | closed
  | replaying
  | shadowing
  | certifying
  | certified
  | activated
  | aborted
  deriving DecidableEq

/-- The enumeration's `value`. -/
def RoundStatus.value : RoundStatus → String
  | .open => "open"
  | .closed => "closed"
  | .replaying => "replaying"
  | .shadowing => "shadowing"
  | .certifying => "certifying"
  | .certified => "certified"
  | .activated => "activated"
  | .aborted => "aborted"

structure ChampionSnapshot where
  submissionId : Option String := none
  imageId : Option String := none
  imageDigest : Option String := none
  solverName : Option String := none
  solverVersion : Option String := none
  hotkey : Option String := none
  activatedRoundId : Option String := none
  activatedEpoch : Int := 0
  activatedAt : ℚ := 0
  canonicalMainSha : Option String := none
  deriving DecidableEq

structure RoundState where
  roundId : String
  status : RoundStatus := .open
  openedEpoch : Int := 0
  closeEpoch : Option Int := none
  createdAt : ℚ := 0
  incumbentSubmissionId : Option String := none
  incumbentImageId : Option String := none
  incumbentHotkey : Option String := none
  benchmarkPackHash : Option String := none
  committeeBlock : Option Int := none
  committeeHash : Option String := none
  forkPins : Option (Dict Int Int) := none
  quorumRequired : Option Int := none
  decisionDeadlineEpoch : Option Int := none
  finalistSubmissionId : Option String := none
  finalistImageId : Option String := none
  shadowCaseLogHash : Option String := none
  certificate : Option ChampionCertificate := none
  effectiveEpoch : Option Int := none
  benchmarkAnchorEpoch : Option Int := none
  abortReason : Option String := none
  selfVerified : Bool := false
  selfVerifiedSubmissionId : Option String := none
  benchedSlate : Option (List String) := none
  deriving DecidableEq

/-- The fields a lifecycle broadcast may carry; `None` leaves the record's value. -/
structure RoundUpdates where
  closeEpoch : Option Int := none
  benchmarkPackHash : Option String := none
  committeeBlock : Option Int := none
  committeeHash : Option String := none
  quorumRequired : Option Int := none
  decisionDeadlineEpoch : Option Int := none
  effectiveEpoch : Option Int := none
  benchmarkAnchorEpoch : Option Int := none
  deriving DecidableEq

def RoundState.update (r : RoundState) (u : RoundUpdates) : RoundState :=
  { r with
    closeEpoch := u.closeEpoch <|> r.closeEpoch
    benchmarkPackHash := u.benchmarkPackHash <|> r.benchmarkPackHash
    committeeBlock := u.committeeBlock <|> r.committeeBlock
    committeeHash := u.committeeHash <|> r.committeeHash
    quorumRequired := u.quorumRequired <|> r.quorumRequired
    decisionDeadlineEpoch := u.decisionDeadlineEpoch <|> r.decisionDeadlineEpoch
    effectiveEpoch := u.effectiveEpoch <|> r.effectiveEpoch
    benchmarkAnchorEpoch := u.benchmarkAnchorEpoch <|> r.benchmarkAnchorEpoch }

structure RoundStore where
  rounds : Dict String RoundState := .empty
  currentRoundId : Option String := none
  activeChampion : ChampionSnapshot := {}
  previousChampion : ChampionSnapshot := {}

namespace RoundStore

def getRound (s : RoundStore) (roundId : String) : Option RoundState := s.rounds.get? roundId

def getCurrentRound (s : RoundStore) : Option RoundState :=
  match s.currentRoundId with
  | some "" | none => none
  | some roundId => s.rounds.get? roundId

def supersede (s : RoundStore) (roundId : String) : RoundStore :=
  match s.getCurrentRound with
  | some current =>
    if current.status = .open ∧ current.roundId ≠ roundId then
      { s with rounds := s.rounds.set (s.currentRoundId.getD "") { current with
          status := .aborted
          abortReason := some ("superseded by leader round " ++ roundId) } }
    else s
  | none => s

/-- `adopt_round`, for a broadcast without an incumbent snapshot. -/
def adoptRound (s : RoundStore) (roundId : String) (openedEpoch : Int) (status : RoundStatus)
    (updates : RoundUpdates) : RoundStore :=
  let s := s.supersede roundId
  let state : RoundState := match s.rounds.get? roundId with
    | none => { roundId, status, openedEpoch }
    | some state => { state with openedEpoch, status }
  { s with rounds := s.rounds.set roundId (state.update updates), currentRoundId := some roundId }

/-- `close_current_round`; it has no parameter for the anchor epoch. -/
def closeCurrentRound (s : RoundStore) (updates : RoundUpdates) :
    Except PyError (RoundStore × RoundState) :=
  match s.getCurrentRound with
  | none => .error .valueError
  | some current =>
    let state := { current.update { updates with benchmarkAnchorEpoch := none } with status := .closed }
    .ok ({ s with rounds := s.rounds.set (s.currentRoundId.getD "") state }, state)

def setRoundFinalist (s : RoundStore) (roundId submissionId : String) (imageId : Option String)
    (shadowCaseLogHash : Option String := none) : Except PyError (RoundStore × RoundState) :=
  match s.rounds.get? roundId with
  | none => .error .keyError
  | some state =>
    let state := { state with
      finalistSubmissionId := some submissionId
      finalistImageId := imageId
      shadowCaseLogHash := shadowCaseLogHash <|> state.shadowCaseLogHash
      status := .certifying }
    .ok ({ s with rounds := s.rounds.set roundId state }, state)

/-- `certify_round`: the only writer of a round's certificate. -/
def certifyRound (s : RoundStore) (roundId : String) (certificate : ChampionCertificate) :
    Except PyError (RoundStore × RoundState) :=
  match s.rounds.get? roundId with
  | none => .error .keyError
  | some state =>
    let state := { state with
      certificate := some certificate
      finalistSubmissionId := certificate.candidateSubmissionId
      finalistImageId := certificate.candidateImageId
      shadowCaseLogHash := certificate.shadowCaseLogHash
      committeeHash := certificate.committeeHash
      benchmarkPackHash := certificate.benchmarkPackHash
      quorumRequired := some certificate.quorumRequired
      effectiveEpoch := some certificate.effectiveEpoch
      status := .certified }
    .ok ({ s with rounds := s.rounds.set roundId state }, state)

theorem certifyRound_spec {s s' : RoundStore} {roundId certificate} {state : RoundState}
    (done : s.certifyRound roundId certificate = .ok (s', state)) :
    state.certificate = some certificate ∧ s'.getRound roundId = some state := by
  unfold certifyRound at done
  split at done
  · exact absurd done (by simp)
  · simp only [Except.ok.injEq, Prod.mk.injEq] at done
    obtain ⟨rfl, rfl⟩ := done
    exact ⟨rfl, by simp only [getRound, Dict.get?_set_self]⟩

end RoundStore

def takeDigits (cs : List Char) : Option (List Char × List Char) :=
  let digits := cs.takeWhile fun c => (digitValue c).isSome
  if digits.isEmpty then none else some (digits, cs.drop digits.length)

/-- The epoch digits of `^round-e(\d+)-n\d+$`, where `$` allows one final newline. -/
def matchRoundId (roundId : String) : Option (List Char) :=
  match roundId.toList with
  | 'r' :: 'o' :: 'u' :: 'n' :: 'd' :: '-' :: 'e' :: rest => do
      let (epoch, rest) ← takeDigits rest
      match rest with
      | '-' :: 'n' :: rest =>
        let (_, tail) ← takeDigits rest
        if tail = [] ∨ tail = ['\n'] then some epoch else none
      | _ => none
  | _ => none

/-- `_parse_round_opened_epoch`; `int` refuses too many digits. -/
def parseRoundOpenedEpoch (roundId : String) : Except PyError (Option Int) :=
  match matchRoundId roundId with
  | none => .ok none
  | some digits =>
    match intOfStr (String.ofList digits) with
    | some epoch => .ok (some epoch)
    | none => .error .valueError

/-- The staleness guards of `_adopt_leader_round_if_behind`. -/
def isBehind (s : RoundStore) (roundId : String) (leaderEpoch : Int) : Bool :=
  match s.getCurrentRound with
  | some current => !(current.roundId != roundId && leaderEpoch ≤ current.openedEpoch)
  | none => s.rounds.values.all fun r => r.openedEpoch ≤ leaderEpoch

/-- `_adopt_leader_round_if_behind`, without `force`. -/
def adoptLeaderRoundIfBehind (s : RoundStore) (roundId : String) (status : RoundStatus)
    (updates : RoundUpdates) : Except PyError RoundStore :=
  if roundId = "" ∨ (s.getRound roundId).isSome then .ok s
  else
    match parseRoundOpenedEpoch roundId with
    | .error e => .error e
    | .ok none => .ok s
    | .ok (some leaderEpoch) =>
      if isBehind s roundId leaderEpoch then .ok (s.adoptRound roundId leaderEpoch status updates)
      else .ok s

def isHex64 (cs : List Char) : Bool :=
  cs.length == 64 && cs.all fun c => ('0' ≤ c && c ≤ '9') || ('a' ≤ c && c ≤ 'f')

def isBareDigest (s : String) : Bool := isHex64 ((strip s.toList).map Char.toLower)

/-- The digest of `^(?P<repo>.+)@sha256:(?P<hex>[0-9a-f]{64})$`. -/
def repoDigest (cs : List Char) : Option (List Char) :=
  let repo := cs.take (cs.length - 72)
  let ref := cs.drop (cs.length - 72)
  if !repo.isEmpty && !repo.contains '\n' && ref.take 8 == "@sha256:".toList && isHex64 (ref.drop 8)
  then some (ref.drop 8) else none

def bareHex (ref : Option String) : Option String :=
  let cs := strip (ref.getD "").toList
  match repoDigest cs with
  | some hex => some (String.ofList hex)
  | none =>
    let lowered := cs.map Char.toLower
    let hex := if lowered.take 7 == "sha256:".toList then lowered.drop 7 else lowered
    if isHex64 hex then some (String.ofList hex) else none

end MinotaurSubnet.Harness
