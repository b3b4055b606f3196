import MinotaurSubnet.Harness.BenchmarkScenarios
import MinotaurSubnet.Library.Machine
import MinotaurSubnet.Library.ReadThrough
import MinotaurSubnet.Library.SortedBy

/-! # The champion memo

`memo_champion_bench`: the champion runs of the quorum verdicts share one process-wide cache,
interleaved at the await of `run`. The key is the round, image, scalar block and simulation
mode of the run and two truncated digests, of the labels of the tuples and of the hashes of
the loaded scoring code. The digest and what a run returns are parameters.
-/

namespace MinotaurSubnet.Harness

open Library Python

def consolidateChampionBench (env : Option String) : Bool :=
  !(["0", "false", "no", "off"].contains
    (String.ofList ((strip (env.getD "1").toList).map Char.toLower)))

def championBenchCacheMax : Nat := 32

/-- A tuple of `intents`; `rest` is what the labels leave out, with the market snapshot. -/
structure BenchTuple (α : Type*) where
  scenario : Scenario
  rest : α

/-- What `run` reads; the loaded code is that of the tuples' apps. -/
structure RunInputs (α : Type*) where
  image : Option String
  forkBlock : Option Int
  forkPins : Option (Dict Int Int)
  intents : List (BenchTuple α)
  loadedJs : List (Option String)
  realSim : Bool

structure MemoCall (α : Type*) where
  /-- `CONSOLIDATE_CHAMPION_BENCH`. -/
  consolidate : Option String
  roundId : Option String
  image : Option String
  forkBlock : Option Int
  /-- `_fork_pins` of the worker. -/
  forkPins : Option (Dict Int Int)
  intents : List (BenchTuple α)
  loadedJs : Dict String String
  realSim : Bool

structure MemoKey where
  roundId : String
  image : String
  forkBlock : Int
  realSim : Bool
  corpus : String
  js : String
  deriving DecidableEq

namespace MemoCall

variable {α : Type*} (sha : String → String) (str : Value → String) (call : MemoCall α)

def corpusFingerprint : String :=
  sha ("\n".intercalate (call.intents.map fun t =>
    labelOf t.scenario.appId (t.scenario.state.scenarioName str)))

def loadedJsHashes : Dict String String := call.loadedJs.mapValues fun _ code => sha code

def loadedJsFingerprint : String :=
  let apps := sortedBy id (call.intents.map fun t => t.scenario.appId).dedup
  sha ("\n".intercalate (apps.map fun app =>
    app ++ "=" ++ ((call.loadedJsHashes sha).get? app).getD ""))

def inputs : RunInputs α where
  image := call.image
  forkBlock := call.forkBlock
  forkPins := call.forkPins
  intents := call.intents
  loadedJs := call.intents.map fun t => call.loadedJs.get? t.scenario.appId
  realSim := call.realSim

def key : Option MemoKey :=
  match call.roundId, call.image, call.forkBlock with
  | some roundId, some image, some forkBlock =>
    if consolidateChampionBench call.consolidate ∧ roundId ≠ "" ∧ image ≠ "" then
      some {
        roundId, image, forkBlock
        realSim := call.realSim
        corpus := call.corpusFingerprint sha str
        js := call.loadedJsFingerprint sha }
    else none
  | _, _, _ => none

end MemoCall

/-- A cached list. No step reads `storedBy`. -/
structure MemoEntry (α β : Type*) where
  results : List β
  storedBy : RunInputs α

/-- The cache and the calls that await their `run`, by task. -/
structure ChampionMemo (κ α β : Type*) where
  cache : Dict MemoKey (MemoEntry α β) := .empty
  running : Dict κ (Option MemoKey × RunInputs α) := .empty

inductive MemoEvent (κ α : Type*) where
  | call (task : κ) (call : MemoCall α)
  | returned (task : κ)

inductive MemoAnswer (β : Type*) where
  | reused (results : List β)
  | awaits
  /-- What the task's own `run` gave. -/
  | ran (results : Option (List β))

namespace ChampionMemo

variable {κ α β : Type*} [DecidableEq κ]

/-- Other rounds are dropped, and a full cache is cleared. -/
def stored (cache : Dict MemoKey (MemoEntry α β)) (key : MemoKey) (entry : MemoEntry α β) :
    Dict MemoKey (MemoEntry α β) :=
  let current := cache.filter fun k _ => k.roundId = key.roundId
  (if championBenchCacheMax ≤ current.size then .empty else current).set key entry

-- `bench` is none when the run raises or returns no list.
variable (bench : RunInputs α → Option (List β)) (sha : String → String) (str : Value → String)

def step (m : ChampionMemo κ α β) : MemoEvent κ α → ChampionMemo κ α β × MemoAnswer β
  | .call task call =>
    match m.running.get? task with
    | some _ => (m, .awaits)
    | none =>
      match (call.key sha str).bind m.cache.get? with
      | some entry => (m, .reused entry.results)
      | none =>
        ({ m with running := m.running.set task (call.key sha str, call.inputs) }, .awaits)
  | .returned task =>
    match m.running.get? task with
    | none => (m, .awaits)
    | some (key, inputs) =>
      let ended := { m with running := m.running.erase task }
      match key, bench inputs with
      | some key, some results =>
        ({ ended with cache := stored m.cache key ⟨results, inputs⟩ }, .ran (some results))
      | _, outcome => (ended, .ran outcome)

def SameRun (m : ChampionMemo κ α β) (call : MemoCall α) : Prop :=
  ∀ key entry, call.key sha str = some key → m.cache.get? key = some entry →
    entry.storedBy.forkPins = call.forkPins ∧ entry.storedBy.intents = call.intents ∧
      entry.storedBy.loadedJs = call.inputs.loadedJs

def Describes (key : MemoKey) (inputs : RunInputs α) : Prop :=
  inputs.image = some key.image ∧ inputs.forkBlock = some key.forkBlock ∧ inputs.realSim = key.realSim

structure Kept (m : ChampionMemo κ α β) : Prop where
  cached : m.cache.Faithful fun key entry =>
    bench entry.storedBy = some entry.results ∧ Describes key entry.storedBy
  awaited : m.running.Faithful fun _ run => ∀ key, run.1 = some key → Describes key run.2

variable {bench sha str}

theorem describes_of_key {call : MemoCall α} {key} (keyed : call.key sha str = some key) :
    Describes key call.inputs := by
  unfold MemoCall.key at keyed
  split at keyed
  next roundId image forkBlock _ hasImage hasBlock =>
    split at keyed
    · cases keyed
      exact ⟨hasImage, hasBlock, rfl⟩
    · cases keyed
  next => cases keyed

theorem inputs_eq {key} {first second : RunInputs α} (describes : Describes key first)
    (describes' : Describes key second) (pins : first.forkPins = second.forkPins)
    (intents : first.intents = second.intents) (loadedJs : first.loadedJs = second.loadedJs) :
    first = second := by
  obtain ⟨image, block, mode⟩ := describes
  obtain ⟨image', block', mode'⟩ := describes'
  cases first
  cases second
  simp_all

theorem Kept.initial : Kept bench ({} : ChampionMemo κ α β) := ⟨.empty, .empty⟩

variable {m : ChampionMemo κ α β}

theorem Kept.ended (kept : Kept bench m) (task : κ) :
    Kept bench { m with running := m.running.erase task } where
  cached := kept.cached
  awaited t run found := kept.awaited t run (Dict.get?_erase_some found)

theorem Kept.store (kept : Kept bench m) {key inputs results} (ran : bench inputs = some results)
    (describes : Describes key inputs) :
    Kept bench { m with cache := stored m.cache key ⟨results, inputs⟩ } where
  cached := by
    have current := kept.cached.filter fun k _ => k.roundId = key.roundId
    simp only [stored]
    split
    · exact Dict.Faithful.empty.set ⟨ran, describes⟩
    · exact current.set ⟨ran, describes⟩
  awaited := kept.awaited

theorem Kept.step (kept : Kept bench m) (e : MemoEvent κ α) :
    Kept bench (m.step bench sha str e).1 := by
  cases e with
  | call task call =>
    simp only [ChampionMemo.step]
    cases m.running.get? task with
    | some run => exact kept
    | none =>
      cases (call.key sha str).bind m.cache.get? with
      | some entry => exact kept
      | none =>
        exact
          { cached := kept.cached
            awaited := kept.awaited.set fun key keyed => describes_of_key keyed }
  | returned task =>
    simp only [ChampionMemo.step]
    cases found : m.running.get? task with
    | none => exact kept
    | some run =>
      obtain ⟨key, inputs⟩ := run
      cases key with
      | none => exact kept.ended task
      | some key =>
        dsimp only
        cases ran : bench inputs with
        | none => exact kept.ended task
        | some results => exact (kept.ended task).store ran (kept.awaited task _ found key rfl)

theorem kept_of_reaches (reached : Reaches (step bench sha str) (fun _ _ => True) {} m) :
    Kept bench m :=
  reached.invariant (Kept bench) .initial fun _ e kept _ => kept.step e

theorem entry_of_reused {task} {call : MemoCall α} {results}
    (reused : (m.step bench sha str (.call task call)).2 = .reused results) :
    ∃ key entry, call.key sha str = some key ∧ m.cache.get? key = some entry ∧
      entry.results = results := by
  simp only [step] at reused
  split at reused
  · cases reused
  · split at reused
    · next entry hit =>
      obtain ⟨key, keyed, found⟩ := Option.bind_eq_some_iff.mp hit
      cases reused
      exact ⟨key, entry, keyed, found, rfl⟩
    · cases reused

/-- In every run a reused list is that of the caller's own run if the stored one read the same
    pins, tuples and loaded code; a benchmark that tells its inputs apart needs that. -/
theorem reused_is_own_run (bench : RunInputs α → Option (List β)) (sha : String → String)
    (str : Value → String) (m : ChampionMemo κ α β)
    (reached : Reaches (step bench sha str) (fun _ _ => True) {} m) (task : κ) (call : MemoCall α)
    (results : List β) (reused : (m.step bench sha str (.call task call)).2 = .reused results) :
    (SameRun sha str m call → bench call.inputs = some results) ∧
      (Function.Injective bench → bench call.inputs = some results → SameRun sha str m call) := by
  have kept := kept_of_reaches reached
  obtain ⟨key, entry, keyed, found, rfl⟩ := entry_of_reused reused
  obtain ⟨ran, describes⟩ := kept.cached key entry found
  constructor
  · intro same
    obtain ⟨pins, intents, loadedJs⟩ := same key entry keyed found
    rw [← inputs_eq describes (describes_of_key keyed) pins intents loadedJs]
    exact ran
  · intro injective own key' entry' keyed' found'
    have sameKey : key' = key := Option.some.inj (keyed'.symm.trans keyed)
    subst sameKey
    have sameEntry : entry' = entry := Option.some.inj (found'.symm.trans found)
    subst sameEntry
    have sameInputs : entry'.storedBy = call.inputs := injective (ran.trans own.symm)
    rw [sameInputs]
    exact ⟨rfl, rfl, rfl⟩

theorem reused_after {first second key results} (task : κ) (keyed : first.key sha str = some key)
    (keyed' : second.key sha str = some key) (ran : bench first.inputs = some results) :
    let m := runEvents (step bench sha str) {} [.call task first, .returned task]
    m.cache = Dict.empty.set key ⟨results, first.inputs⟩ ∧
      (m.step bench sha str (.call task second)).2 = .reused results := by
  have called : ((step bench sha str {} (.call task first)).1 : ChampionMemo κ α β) =
      { running := Dict.empty.set task (some key, first.inputs) } := by
    simp [step, keyed]
  have returned : ((step bench sha str (step bench sha str {} (.call task first)).1
      (.returned task)).1 : ChampionMemo κ α β) =
      { cache := Dict.empty.set key ⟨results, first.inputs⟩
        running := (Dict.empty.set task (some key, first.inputs)).erase task } := by
    rw [called]
    simp only [step, Dict.get?_set_self, ran]
    rfl
  have last : (runEvents (step bench sha str) {} [.call task first, .returned task] :
      ChampionMemo κ α β) = _ := returned
  rw [last]
  refine ⟨rfl, ?_⟩
  simp [step, keyed', Dict.get?_erase]

/-- A verdict on the scenario `swap`, as the manifest has it at the time. -/
def verdictCall (amount : Int) : MemoCall Unit where
  consolidate := none
  roundId := some "r1"
  image := some "champion"
  forkBlock := some 100
  forkPins := none
  intents := [{
    scenario := {
      appId := "app"
      state := {
        contractAddress := none
        chainId := 8453
        rawParams := Dict.empty.set "amount" (.int amount)
        control := Dict.empty.set "_scenario_name" (.str "swap") } }
    rest := () }]
  loadedJs := Dict.empty.set "app" "score"
  realSim := true

def verdictKey : MemoKey where
  roundId := "r1"
  image := "champion"
  forkBlock := 100
  realSim := true
  corpus := (verdictCall 0).corpusFingerprint id fun _ => ""
  js := (verdictCall 0).loadedJsFingerprint id

theorem verdictCall_key (amount : Int) :
    (verdictCall amount).key id (fun _ => "") = some verdictKey := by
  have on : consolidateChampionBench none = true := by decide
  unfold MemoCall.key
  exact if_pos ⟨on, by decide, by decide⟩

def amountsBench (inputs : RunInputs Unit) : Option (List (Option Value)) :=
  some (inputs.intents.map fun t => t.scenario.state.rawParams.get? "amount")

/-- The verdict on a second candidate reuses the list of the first, on the same tuples. -/
theorem reused_for_same_tuples :
    amountsBench (verdictCall 5).inputs = some [some (.int 5)] := by
  have keyed := verdictCall_key 5
  have ran : amountsBench (verdictCall 5).inputs = some [some (.int 5)] := rfl
  obtain ⟨stored, reused⟩ := reused_after 0 keyed keyed ran
  refine (reused_is_own_run amountsBench id (fun _ => "") _ (reaches_runEvents _ _ _) 0 _ _
    reused).1 ?_
  intro key entry keyed found
  rw [stored, Dict.get?_set] at found
  split at found
  · cases found
    exact ⟨rfl, rfl, rfl⟩
  · cases found

/-- The manifest changed the amount between the two verdicts. -/
theorem reused_across_tuples :
    ¬ ∀ (bench : RunInputs Unit → Option (List (Option Value))) (sha : String → String)
        (str : Value → String) (m : ChampionMemo Nat Unit (Option Value)) (task : Nat)
        (call : MemoCall Unit) (results : List (Option Value)),
        Reaches (step bench sha str) (fun _ _ => True) {} m →
          (m.step bench sha str (.call task call)).2 = .reused results →
            bench call.inputs = some results := by
  intro sound
  have ran : amountsBench (verdictCall 5).inputs = some [some (.int 5)] := rfl
  obtain ⟨_, reused⟩ := reused_after 0 (verdictCall_key 5) (verdictCall_key 6) ran
  have own := sound amountsBench id (fun _ => "") _ 0 (verdictCall 6) _ (reaches_runEvents _ _ _) reused
  simp [amountsBench, verdictCall, MemoCall.inputs, Dict.get?_set_self] at own

end ChampionMemo

end MinotaurSubnet.Harness
