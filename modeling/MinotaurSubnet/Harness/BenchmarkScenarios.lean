import MinotaurSubnet.Library.Dict
import MinotaurSubnet.Python.Value

/-! # The flat benchmark set

The three builders of `harness/benchmark_worker.py`: the intents of the app store, their
expansion by the manifests, and the historical draw. The label of a scenario is the key
under which champion and challenger are compared. What the sampler drew is an argument.
-/

namespace MinotaurSubnet.Harness

open Library Python

inductive AppStatus where
  | draft
  | deploying
  | solving
  | solved
  | active
  | partiallyDeployed
  | paused
  | retiring
  | retired
  deriving DecidableEq

namespace AppStatus

def isOperational (s : AppStatus) : Bool := [solving, solved, active].contains s

def isBenchmarkLoadable (s : AppStatus) : Bool := s.isOperational || s == retiring

def isOrderReady (s : AppStatus) : Bool := [solved, active].contains s

end AppStatus

structure DeploymentResult where
  status : AppStatus
  contractAddress : Option String := none
  chainId : Int := 0
  retireEffectiveEpoch : Option Int := none

def DeploymentResult.isEffectivelyRetired (d : DeploymentResult) (atEpoch : Option Int) : Bool :=
  match d.status, d.retireEffectiveEpoch with
  | .retired, _ => true
  | .retiring, some effective => atEpoch.any (effective ≤ ·)
  | _, _ => false

structure AppStore where
  apps : List String
  distinct : apps.Nodup
  noColon : ∀ app ∈ apps, ':' ∉ app.toList
  deployments : String → Dict Int DeploymentResult

namespace AppStore

/-- `get_deployment` without a chain: order-ready first, then operational, then any. -/
def getDeployment (store : AppStore) (app : String) : Option DeploymentResult :=
  let all := (store.deployments app).values
  all.find? (·.status.isOrderReady) <|> all.find? (·.status.isOperational) <|> all.head?

/-- `_benchmark_deployments_for_app`; `allChains` is `BENCHMARK_ALL_DEPLOYMENT_CHAINS`. -/
def benchmarkDeployments (store : AppStore) (allChains : Bool) (app : String) : List DeploymentResult :=
  if allChains then (store.deployments app).values else (store.getDeployment app).toList

end AppStore

/-- `IntentState`, as far as the builders fill it. -/
structure ScenarioState where
  contractAddress : Option String
  chainId : Int
  nonce : Int := 0
  owner : String := ""
  rawParams : Dict String Value := .empty
  control : Dict String Value := .empty

structure Scenario where
  appId : String
  state : ScenarioState

/-- `{**base, **extra}`. -/
def merged (base extra : Dict String Value) : Dict String Value :=
  extra.entries.foldl (fun d entry => d.set entry.1 entry.2) base

/-- An entry of `benchmark_scenarios`, with the defaults of `get` for what it leaves out. -/
structure ScenarioSpec where
  name : Value := .str ""
  chains : Option (List Int) := none
  intentFunction : Value := .str "execute"
  params : Dict String Value := .empty
  fund : Value := .none

/-- An entry of `intent_functions`. -/
structure FunctionSpec where
  name : Value := .str "execute"
  exampleParams : Dict String Value := .empty

structure Manifest where
  benchmarkScenarios : List ScenarioSpec := []
  intentFunctions : List FunctionSpec := []

namespace Manifest

/-- A scenario without `chains` runs everywhere. -/
def applicable (manifest : Manifest) (chainId : Int) : List ScenarioSpec :=
  manifest.benchmarkScenarios.filter fun s => match s.chains with
    | none | some [] => true
    | some chains => chains.contains chainId

end Manifest

def scenarioOf (base : Scenario) (spec : ScenarioSpec) : Scenario :=
  let control := (base.state.control.set "_intent_function" spec.intentFunction).set
    "_scenario_name" spec.name
  { base with state := { base.state with
      rawParams := merged base.state.rawParams spec.params
      control := if spec.fund.truthy then control.set "_fund" spec.fund else control } }

def functionOf (base : Scenario) (spec : FunctionSpec) : Scenario :=
  { base with state := { base.state with
      rawParams := merged base.state.rawParams spec.exampleParams
      control := base.state.control.set "_intent_function" spec.name } }

def enrich (manifest : Option Manifest) (base : Scenario) : List Scenario :=
  match manifest with
  | none => [base]
  | some manifest =>
    let scenarios := manifest.applicable base.state.chainId
    if scenarios ≠ [] then scenarios.map (scenarioOf base)
    else if manifest.intentFunctions = [] then [base]
    else manifest.intentFunctions.map (functionOf base)

/-- A record the sampler drew; for a quote, `order_id` is the quote id. -/
structure DrawnRecord where
  orderId : Option String
  appId : Option String
  chainId : Option Int
  params : Dict String Value := .empty
  intentFunction : Value := .str "swap"
  blockNumber : Value := .none
  txHash : Value := .none

def DrawnRecord.idText (record : DrawnRecord) : String := record.orderId.getD "?"

structure BenchmarkInputs where
  store : AppStore
  /-- `get_manifest` of the JS engine; without an engine nothing is expanded. -/
  engine : Option (String → Option Manifest)
  allChains : Bool
  atEpoch : Option Int
  deploymentStatuses : Option (List AppStatus)
  orders : List DrawnRecord
  quotes : List DrawnRecord
  quoteCorpus : Bool

namespace BenchmarkInputs

variable (b : BenchmarkInputs)

/-- The deployments of an app that `_load_benchmark_intents` keeps. -/
def loaded (app : String) : List DeploymentResult :=
  (b.store.benchmarkDeployments b.allChains app).filter fun d =>
    !d.isEffectivelyRetired b.atEpoch && d.status.isBenchmarkLoadable &&
      b.deploymentStatuses.all (·.contains d.status)

/-- `deployment.chain_id or 1`. -/
def chainOf (d : DeploymentResult) : Int := if d.chainId = 0 then 1 else d.chainId

def intentOf (app : String) (d : DeploymentResult) : Scenario where
  appId := app
  state := { contractAddress := some (d.contractAddress.getD ""), chainId := chainOf d }

def loadBenchmarkIntents : List Scenario :=
  b.store.apps.flatMap fun app => (b.loaded app).map (intentOf app)

def manifestOf (app : String) : Option Manifest := b.engine.bind (· app)

def enrichIntentsWithManifests (intents : List Scenario) : List Scenario :=
  intents.flatMap fun base => enrich (b.manifestOf base.appId) base

/-- `_order_to_scenario`: nothing for a record whose app is not in the store. -/
def orderToScenario (scenarioPrefix : String) (order : DrawnRecord) : Option Scenario :=
  match order.appId, order.chainId with
  | some app, some chain =>
    if app ∈ b.store.apps ∧ app ≠ "" then
      some {
        appId := app
        state := {
          contractAddress := match b.store.getDeployment app with
            | some deployment => deployment.contractAddress
            | none => some ""
          chainId := chain
          rawParams := order.params
          control := (((Dict.empty.set "_scenario_name"
            (.str (scenarioPrefix ++ ":" ++ order.idText))).set
            "_intent_function" order.intentFunction).set
            "_original_block_number" order.blockNumber).set "_original_tx_hash" order.txHash } }
    else none
  | _, _ => none

/-- Without an order in the draw the quotes are not looked at. -/
def loadHistoricalScenarios : List Scenario :=
  if b.orders = [] then []
  else b.orders.filterMap (b.orderToScenario "hist") ++
    if b.quoteCorpus then b.quotes.filterMap (b.orderToScenario "quote") else []

def benchmarkSet : List Scenario :=
  b.enrichIntentsWithManifests b.loadBenchmarkIntents ++ b.loadHistoricalScenarios

end BenchmarkInputs

/-- `str(value)` in an f-string; `str` renders what is not a string. -/
def nameText (str : Value → String) : Value → String
  | .str text => text
  | value => str value

/-- The `_scenario_name` of a state, when there is one. -/
def ScenarioState.scenarioName (str : Value → String) (state : ScenarioState) : Option String :=
  let name := (state.control.get? "_scenario_name").getD (.str "")
  if name.truthy then some (nameText str name) else none

def labelOf (app : String) : Option String → String
  | some name => app ++ ":" ++ name
  | none => app

/-- The `intent_label` of `_process_scenario`. -/
def Scenario.intentLabel (str : Value → String) (s : Scenario) : String :=
  labelOf s.appId (s.state.scenarioName str)

end MinotaurSubnet.Harness
