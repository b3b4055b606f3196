import MinotaurSubnet.Epoch.Activation
import MinotaurSubnet.Library.Cooperative

/-! # Evaluating a closed round

`evaluate_round` of `epoch/manager.py`, cut into its turns. What the submission store
holds for the ranking, the verdict of the adoption rule and the ends of the awaited calls
are in the `EvaluationSteps` of a turn; the summary, the comments on pull requests and the
badges are written for others.
-/

namespace MinotaurSubnet.Epoch

open Library Python Harness

def inflight : List SubmissionStatus :=
  [.queued, .screeningStage1, .screeningStage2, .screeningStage3, .benchmarking]

def roundHasInflightSubmissions (subs : SubmissionStore) (roundId : String) : Bool :=
  subs.submissions.values.any fun sub => sub.roundId == roundId && inflight.contains sub.status

structure EvaluationSteps where
  /-- There is a benchmark worker and the coordinator runs the slate. -/
  runsSlate : Bool := false
  /-- How the call ended that the evaluation waited for. -/
  awaited : Except PyError Unit := .ok ()
  findChampionCandidates : EpochManager → Int → String → List SubmissionRecord
  incumbentRefreshFailed : Bool := false
  meetsAdoptionCriteria : EpochManager → SubmissionRecord → Bool
  lastAdoptReason : String := ""

/-- Where `evaluate_round` waits: in `run_once`, in `_refresh_incumbent_score`, in
    `_persist_round_relative_counts`, or for the badge of a candidate with its verdict. -/
inductive EvaluationStage where
  | benchmarking
  | refreshing (candidates : List SubmissionRecord)
  | counting (candidates : List SubmissionRecord)
  | badging (candidate : SubmissionRecord) (adopted : Bool) (lower : List SubmissionRecord)
      (headline : Option String)

inductive EvaluationVerdict where
  | ends (result : Except PyError Unit)
  | waits (stage : EvaluationStage)
  | aborts (reason : String)
  | chooses (finalist : SubmissionRecord)

section

variable (env : Surroundings) (steps : EvaluationSteps) (roundId : String) (epoch : Int)

def abortUnlessInflight (m : EpochManager) (reason : String) : EvaluationVerdict :=
  if roundHasInflightSubmissions m.subs roundId then .ends (.ok ()) else .aborts reason

def rankSlate (m : EpochManager) : EvaluationVerdict :=
  match steps.findChampionCandidates m epoch roundId with
  | [] => abortUnlessInflight roundId m "no_champion_candidate"
  | candidates =>
    if roundHasInflightSubmissions m.subs roundId then .ends (.ok ()) else .waits (.refreshing candidates)

def judgeNext (m : EpochManager) (headline : Option String) :
    List SubmissionRecord → EvaluationVerdict
  | [] => abortUnlessInflight roundId m (headline.getD "did not beat the champion")
  | candidate :: lower =>
    .waits (.badging candidate (steps.meetsAdoptionCriteria m candidate) lower headline)

def judge (m : EpochManager) : EvaluationStage → EvaluationVerdict
  | .benchmarking =>
    match steps.awaited with
    | .error e => .aborts ("benchmark_failed: " ++ env.describe e)
    | .ok _ => rankSlate steps roundId epoch m
  | .refreshing candidates => .waits (.counting candidates) |> ifAwaited
  | .counting candidates =>
    -- a stale incumbent bar abstains for every candidate alike
    let candidates := if truthy m.champion.submissionId && steps.incumbentRefreshFailed
      then candidates.take 1 else candidates
    ifAwaited (judgeNext steps roundId m none candidates)
  | .badging candidate adopted lower headline =>
    ifAwaited <|
      if adopted then .chooses candidate
      else judgeNext steps roundId m
        (headline <|> some (if steps.lastAdoptReason = "" then "did not beat the champion"
          else steps.lastAdoptReason)) lower
where
  ifAwaited (verdict : EvaluationVerdict) : EvaluationVerdict :=
    match steps.awaited with
    | .error e => .ends (.error e)
    | .ok _ => verdict

def EpochManager.conclude (m : EpochManager) : EvaluationVerdict → Turn EpochManager EvaluationStage PyError
  | .ends result => .ends ⟨m, result⟩
  | .waits stage => .waits m stage
  | .aborts reason =>
    .ends ((m.abortAndReopen env roundId epoch reason).andThen fun m _ => .returns m ())
  | .chooses finalist =>
    .ends (m.roundOp env (.setRoundFinalist roundId finalist.submissionId finalist.imageId none))

def EpochManager.openEvaluation (m : EpochManager) : EpochManager × EvaluationVerdict :=
  match m.rounds.getRound roundId with
  | none => (m, .ends (.error .keyError))
  | some round =>
    if round.status = .open then (m, .ends (.error .valueError))
    else if env.isFollower then (m, .ends (.ok ()))
    else
      let m := if round.status = .closed
        then (m.roundOp env (.setRoundStatus roundId .replaying)).state else m
      (m, if steps.runsSlate then .waits .benchmarking else rankSlate steps roundId epoch m)

/-- `evaluate_round`, its first turn. -/
def EpochManager.evaluateRound (m : EpochManager) : Turn EpochManager EvaluationStage PyError :=
  let opened := m.openEvaluation env steps roundId epoch
  opened.1.conclude env roundId epoch opened.2

/-- `evaluate_round`, a later turn. -/
def EpochManager.resumeEvaluation (m : EpochManager) (stage : EvaluationStage) :
    Turn EpochManager EvaluationStage PyError :=
  m.conclude env roundId epoch (judge env steps roundId epoch m stage)

end

end MinotaurSubnet.Epoch
