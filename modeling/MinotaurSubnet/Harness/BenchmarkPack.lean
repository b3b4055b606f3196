import MinotaurSubnet.Harness.OrderSampler
import MinotaurSubnet.Harness.PackHash

/-! # The benchmark pack hash

`_build_solver_round_benchmark_pack_hash` with `harness/benchmark_pack.py` and the draws of
`harness/order_sampler.py`. The builder reads the stores several times, and each read may
fail: two of them stop it, the others leave an empty list behind. The texts of the stores hold no
surrogate, and stand for their UTF-8 bytes.
-/

namespace MinotaurSubnet.Harness

open Library Python

structure PackStore where
  apps : List AppRecord
  distinct : (apps.map (·.appId)).Nodup
  noColon : ∀ app ∈ apps, ':' ∉ app.appId.toList
  deployments : String → Dict Int DeploymentResult
  orders : List OrderRecord := []
  quotes : List OrderRecord := []

def PackStore.appStore (store : PackStore) : AppStore where
  apps := store.apps.map (·.appId)
  distinct := store.distinct
  noColon app listed := by
    obtain ⟨record, member, rfl⟩ := List.mem_map.mp listed
    exact store.noColon record member
  deployments := store.deployments

/-- Who asks which apps are retired. -/
inductive PackPass where
  | payload
  | synthetic
  | orders
  | quotes
  deriving DecidableEq

/-- The reads of the builder. -/
inductive StoreRead where
  | listByRound
  | listApps
  | syntheticApps
  | listOrders
  | listQuotes
  | retirementApps (pass : PackPass)
  | retirementDeployments (pass : PackPass) (app : String)
  deriving DecidableEq

/-- A validator. `chainRecords` is the corpus that its worker rebuilds from chain when it is
    told to, `pinSegment` the fork pins of the round. -/
structure Node where
  store : PackStore
  submissions : List Submission := []
  engine : Option (String → Option Manifest) := none
  chainRecords : Option (List OrderRecord) := none
  pinSegment : String := ""
  fails : StoreRead → Bool := fun _ => false

def Node.read {α : Type} (node : Node) (site : StoreRead) (stored : α) : Option α :=
  if node.fails site then none else some stored

def Node.view (node : Node) (pass : PackPass) : AppsView where
  listApps := node.read (.retirementApps pass) node.store.apps
  getDeployments app := node.read (.retirementDeployments pass app) (node.store.deployments app)

def allRetired (atEpoch : Option Int) (deployments : Dict Int DeploymentResult) : Bool :=
  !deployments.values.isEmpty && deployments.values.all (·.isEffectivelyRetired atEpoch)

def deregisteredAppIds (view : AppsView) (atEpoch : Option Int) : List String :=
  match view.listApps with
  | none => []
  | some apps => (apps.map (·.appId)).filter fun app =>
    (view.getDeployments app).any (allRetired atEpoch)

/-- `{"app_id": app_id, **scenario}`. -/
def scenarioFields (entry : String × ManifestScenario) : List (String × Value) :=
  let optional (key : String) (v : Option Value) := v.toList.map fun v => (key, v)
  ("app_id", entry.2.ownAppId.getD (.str entry.1)) ::
    (optional "name" entry.2.name ++ optional "intent_function" entry.2.intentFunction ++
      optional "params" (entry.2.params.map fun params => .dict params.entries) ++
      optional "chains" (entry.2.chains.map fun chains => .list (chains.map .int)) ++
      optional "fund" entry.2.fund)

/-- The switches of a fleet; the two records are there when the round routes solver reads
    through the proxy. -/
structure PackEnv where
  computeBudget : Option (List (String × Value)) := none
  blockRewrite : Option (List (String × Value)) := none
  quoteCorpus : Bool := false
  allowSubprocessBenchmark : Bool := false
  requireSignedProvenance : Bool := false
  requireAsymmetricProvenance : Bool := false
  allDeploymentChains : Bool := false

def AppRecord.payload (app : AppRecord) : Value := .dict [
  ("app_id", .str app.appId), ("name", .str app.name), ("intent_type", .str app.intentType),
  ("supported_chains", .list (app.supportedChains.map .int)),
  ("trigger_type", .str app.triggerType)]

def optionText (text : Option String) : Value := (text.map .str).getD .none

def Submission.payload (sub : Submission) : Value := .dict [
  ("submission_id", .str sub.submissionId.text), ("hotkey", .str sub.hotkey),
  ("repo_url", .str sub.repoUrl), ("commit_hash", .str sub.commitHash),
  ("image_id", optionText sub.imageId), ("solver_name", optionText sub.solverName),
  ("solver_version", optionText sub.solverVersion)]

namespace Node

variable {σ : Type} (node : Node)

def roundSubmissions (roundId : String) : List Submission :=
  node.submissions.filter fun sub => sub.roundId.text = roundId

def hashedSubmissions (roundId : String) : List Submission :=
  sortedBy (·.submissionId.text) (sortedBy (·.createdAt) (node.roundSubmissions roundId))

def hashedApps (atEpoch : Option Int) : List AppRecord :=
  (sortedBy (·.appId) node.store.apps).filter fun app =>
    !(deregisteredAppIds (node.view .payload) atEpoch).contains app.appId

/-- `collect_synthetic_scenarios`. -/
def syntheticScenarios (atEpoch : Option Int) : List (String × ManifestScenario) :=
  match node.read .syntheticApps node.store.apps with
  | none => []
  | some apps => (apps.filter fun app =>
    !(deregisteredAppIds (node.view .synthetic) atEpoch).contains app.appId).flatMap fun app =>
      app.manifest.benchmarkScenarios.map fun s => (app.appId, s)

variable (host : PackHost σ) (roundId : String) (atEpoch : Option Int)

def orderIds : List String :=
  ((sampleHistoricalOrders host (node.view .orders) (node.read .listOrders node.store.orders) roundId
    {}).getD []).map (·.orderId.getD "")

def quoteIds : List String :=
  ((sampleHistoricalQuotes host (node.view .quotes) (node.read .listQuotes node.store.quotes) roundId
    {}).getD []).map (·.quoteId.getD "")

def coveredQuoteIds (env : PackEnv) : Option (List String) :=
  if env.quoteCorpus then some (node.quoteIds host roundId) else none

/-- `compute_pack_hash` as the builder calls it. -/
def scenarioHash (env : PackEnv) : String :=
  @computePackHash host.floats host.sha256Hex
    { roundId
      syntheticScenarios := (node.syntheticScenarios atEpoch).map scenarioFields
      historicalOrderIds := (node.orderIds host roundId).map .ofString
      computeBudget := env.computeBudget
      blockRewrite := env.blockRewrite
      historicalQuoteIds := (node.coveredQuoteIds host roundId env).map (·.map .ofString) }

def packPayload (env : PackEnv) : List (String × Value) :=
  [("round_id", .str roundId),
    ("apps", .list ((node.hashedApps atEpoch).map (·.payload))),
    ("submissions", .list ((node.hashedSubmissions roundId).map (·.payload))),
    ("scenario_hash", .str (node.scenarioHash host roundId atEpoch env)),
    ("historical_order_count", .int (node.orderIds host roundId).length),
    ("synthetic_scenario_count", .int (node.syntheticScenarios atEpoch).length),
    ("policy", .dict [("allow_subprocess_benchmark", .bool env.allowSubprocessBenchmark),
      ("require_signed_provenance", .bool env.requireSignedProvenance),
      ("require_asymmetric_provenance", .bool env.requireAsymmetricProvenance)])] ++
  ((node.coveredQuoteIds host roundId env).toList.map fun ids =>
    ("historical_quote_count", .int ids.length)) ++
  if node.pinSegment = "" then [] else [("fork_pins", .str node.pinSegment)]

end Node

/-- `_build_solver_round_benchmark_pack_hash`; `none` when it raises. -/
def buildSolverRoundBenchmarkPackHash {σ : Type} (host : PackHost σ) (env : PackEnv)
    (roundId : String) (node : Node) : Option String := do
  let _ ← node.read .listByRound node.submissions
  let atEpoch ← openedEpochFromRoundId roundId
  let _ ← node.read .listApps node.store.apps
  return "0x" ++ host.sha256Hex (host.jsonDumps (.dict (node.packPayload host roundId atEpoch env)))

/-- What the worker of a validator builds its scenarios from when its reads succeed. -/
def Node.benchmark {σ : Type} (host : PackHost σ) (env : PackEnv)
    (statuses : Option (List AppStatus)) (roundId : String) (atEpoch : Option Int)
    (node : Node) : BenchmarkInputs :=
  let view : AppsView := ⟨some node.store.apps, fun app => some (node.store.deployments app)⟩
  { store := node.store.appStore
    engine := node.engine
    allChains := env.allDeploymentChains
    atEpoch
    deploymentStatuses := statuses
    orders := ((sampleHistoricalOrders host view (some node.store.orders) roundId
      { records := node.chainRecords }).getD []).map (·.drawn)
    quotes := ((sampleHistoricalQuotes host view (some node.store.quotes) roundId {}).getD []).map
      (·.drawn)
    quoteCorpus := env.quoteCorpus }

end MinotaurSubnet.Harness
