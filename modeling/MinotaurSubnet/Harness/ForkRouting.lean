import MinotaurSubnet.Shared.Plan
import MinotaurSubnet.Library.Dict
import Mathlib.Data.List.Infix

/-! # The fork a benchmarked plan is simulated on

The simulation stage of `_process_scenario` over a `MultiChainSimulator`. The block is the
pin of the scenario's chain. The simulator is found through the plan, and the scenario's
chain is only written into the plan when the solver has left the field out.
-/

namespace MinotaurSubnet.Harness

open Library Python Shared

structure MultiChainSimulator (σ : Type*) where
  simulators : Dict Int σ
  defaultChainId : Int

structure ForkScenario where
  chainId : Int
  forkBlocks : Dict Int Int := .empty
  forkBlock : Option Int := none

def ForkScenario.pin (s : ForkScenario) : Option Int :=
  if s.forkBlocks.entries ≠ [] then s.forkBlocks.get? s.chainId <|> s.forkBlock else s.forkBlock

inductive SimulationStage where
  /-- The fork of a chain's simulator, at a block. -/
  | onFork (chainId : Int) (block : Option Int)
  /-- A failed result: not even the default chain has a simulator. -/
  | unconfigured
  /-- Something was raised, and a real simulation is required. -/
  | refused
  | mock
  deriving DecidableEq

def inferredChain (interactions : List Interaction) (hint : Value) : Value :=
  match hint.isNone, interactions with
  | true, first :: _ => first.chainId
  | _, _ => hint

namespace MultiChainSimulator

variable {σ : Type*} (sims : MultiChainSimulator σ)

/-- `self.simulators.get(key)`: the key that is found, by equality of numbers. -/
def lookup (key : Value) : Except PyError (Option Int) :=
  if key.hashable then .ok (sims.simulators.keys.find? fun chain => key.number? = some (.fin chain))
  else .error .typeError

def resolve (chainId : Value) : Except PyError (Option Int) := do
  let chainId := match chainId with
    | .none => .int sims.defaultChainId
    | .str s => .int ((intOfStr s).getD sims.defaultChainId)
    | v => v
  match ← sims.lookup chainId with
  | some chain => return some chain
  | none => sims.lookup (.int sims.defaultChainId)

/-- `_get_simulator`, as the chain of the simulator it returns. -/
def getSimulator (plan : ExecutionPlan) : Except PyError (Option Int) := do
  sims.resolve (inferredChain plan.interactions (← plan.metadata.get "chain_id"))

end MultiChainSimulator

/-- `key in v`. -/
def holds (key : String) : Value → Except PyError Bool
  | .dict fields => .ok (fields.lookup key).isSome
  | .list items => .ok (items.any (·.isStr key))
  | .str s => .ok (decide (key.toList <:+: s.toList))
  | _ => .error .typeError

/-- `v[key] = new` for a key that is not there. -/
def assigned (key : String) (new : Value) : Value → Except PyError Value
  | .dict fields => .ok (.dict (fields ++ [(key, new)]))
  | _ => .error .typeError

/-- The scenario's chain goes into the plan if the solver left the field out. -/
def tagPlan (chainId : Int) (plan : ExecutionPlan) : Except PyError ExecutionPlan :=
  if chainId = 0 then .ok plan
  else do
    let metadata := if plan.metadata.isNone then .dict [] else plan.metadata
    if ← holds "chain_id" metadata then return { plan with metadata }
    else return { plan with metadata := ← assigned "chain_id" (.int chainId) metadata }

/-- The simulation stage of `_process_scenario`. -/
def simulationStage {σ : Type*} (sims : MultiChainSimulator σ) (requireRealSim : Bool)
    (s : ForkScenario) (plan : ExecutionPlan) : SimulationStage :=
  match tagPlan s.chainId plan >>= sims.getSimulator with
  | .ok (some chain) => .onFork chain s.pin
  | .ok none => .unconfigured
  | .error _ => if requireRealSim then .refused else .mock

namespace MultiChainSimulator

variable {σ : Type*} (sims : MultiChainSimulator σ)

/-- A chain id that leads to `chain`: it is `chain`, or `chain` is the default and it is nothing
    any simulator is known by. -/
def LeadsTo (chain : Int) : Value → Prop
  | .none => sims.defaultChainId = chain
  | .list _ | .dict _ => False
  | .str s => match intOfStr s with
      | some i => i = chain ∨ i ∉ sims.simulators.keys ∧ sims.defaultChainId = chain
      | none => sims.defaultChainId = chain
  | v => v.number? = some (.fin chain) ∨
      (∀ other ∈ sims.simulators.keys, v.number? ≠ some (.fin other)) ∧
        sims.defaultChainId = chain

theorem lookup_eq_some {key chain} (known : chain ∈ sims.simulators.keys) :
    sims.lookup key = .ok (some chain) ↔ key.number? = some (.fin chain) := by
  unfold lookup
  constructor
  · intro found
    split at found
    · have hit := List.find?_some (Except.ok.inj found)
      exact of_decide_eq_true hit
    · cases found
  · intro number
    have hashable : key.hashable = true := by
      cases key with
      | list items => cases number
      | dict fields => cases number
      | _ => rfl
    rw [if_pos hashable]
    obtain ⟨other, hit⟩ : ∃ other, sims.simulators.keys.find?
        (fun chain : Int => decide (key.number? = some (.fin chain))) = some other := by
      apply Option.isSome_iff_exists.mp
      rw [List.find?_isSome]
      exact ⟨chain, known, decide_eq_true number⟩
    have matched : key.number? = some (.fin other) := by simpa using List.find?_some hit
    have same := matched.symm.trans number
    simp only [Option.some.injEq, PyFloat.fin.injEq, Int.cast_inj] at same
    rw [hit, same]

theorem lookup_eq_none {key} : sims.lookup key = .ok none ↔
    key.hashable = true ∧ ∀ other ∈ sims.simulators.keys, key.number? ≠ some (.fin other) := by
  unfold lookup
  split
  next hashable =>
    simp [hashable]
  next unhashable => simp [unhashable]

theorem lookup_int_eq_some {i chain} (known : chain ∈ sims.simulators.keys) :
    sims.lookup (.int i) = .ok (some chain) ↔ i = chain := by
  rw [sims.lookup_eq_some known]
  simp [Value.number?, PyFloat.fin.injEq]

theorem resolveKey_eq_some {key chain} (known : chain ∈ sims.simulators.keys) :
    (do match ← sims.lookup key with
        | some found => return some found
        | none => sims.lookup (.int sims.defaultChainId)) = Except.ok (some chain) ↔
      key.number? = some (.fin chain) ∨
        (key.hashable = true ∧ ∀ other ∈ sims.simulators.keys, key.number? ≠ some (.fin other)) ∧
          sims.defaultChainId = chain := by
  rw [← sims.lookup_eq_some known, ← lookup_eq_none, ← sims.lookup_int_eq_some known]
  cases found : sims.lookup key with
  | error e => simp [bind, Except.bind]
  | ok answer =>
    cases answer with
    | none => simp [bind, Except.bind]
    | some other => simp [bind, Except.bind, pure, Except.pure]

theorem resolve_eq_some {v chain} (known : chain ∈ sims.simulators.keys) :
    sims.resolve v = .ok (some chain) ↔ sims.LeadsTo chain v := by
  unfold resolve
  rw [resolveKey_eq_some sims known]
  cases v with
  | none =>
    simp only [LeadsTo, Value.number?, Option.some.injEq, PyFloat.fin.injEq, Int.cast_inj]
    exact ⟨fun found => found.elim id And.right, Or.inl⟩
  | str s =>
    simp only [LeadsTo, Value.number?, Value.hashable, Option.some.injEq, PyFloat.fin.injEq,
      Int.cast_inj, ne_eq, true_and]
    cases number : intOfStr s with
    | none => exact ⟨fun found => found.elim id And.right, Or.inl⟩
    | some i =>
      have absent : (∀ other ∈ sims.simulators.keys, ¬i = other) ↔ i ∉ sims.simulators.keys := by
        constructor
        · exact fun apart member => apart i member rfl
        · exact fun absent other member same => absent (same ▸ member)
      simp [absent]
  | list items => simp [LeadsTo, Value.number?, Value.hashable]
  | dict fields => simp [LeadsTo, Value.number?, Value.hashable]
  | bool b => simp [LeadsTo, Value.hashable]
  | int i => simp [LeadsTo, Value.hashable]
  | float f => simp [LeadsTo, Value.hashable]

end MultiChainSimulator

def NamesOwnChain {σ : Type*} (sims : MultiChainSimulator σ) (chainId : Int) (plan : ExecutionPlan) :
    Prop :=
  match plan.metadata with
  | .none => chainId ≠ 0
  | .dict fields => match fields.lookup "chain_id" with
      | none => chainId ≠ 0 ∨ sims.LeadsTo chainId (inferredChain plan.interactions .none)
      | some named => sims.LeadsTo chainId (inferredChain plan.interactions named)
  | _ => False

theorem simulationStage_eq_onFork {σ : Type*} (sims : MultiChainSimulator σ) (requireRealSim : Bool)
    (s : ForkScenario) (plan : ExecutionPlan) (chain : Int) :
    simulationStage sims requireRealSim s plan = .onFork chain s.pin ↔
      (tagPlan s.chainId plan >>= sims.getSimulator) = .ok (some chain) := by
  unfold simulationStage
  cases tagPlan s.chainId plan >>= sims.getSimulator with
  | ok answer => cases answer <;> simp
  | error e => cases requireRealSim <;> simp

section

variable {σ : Type*} (sims : MultiChainSimulator σ)

variable {plan : ExecutionPlan} {fields : List (String × Value)}

theorem getSimulator_dict (metadata : plan.metadata = .dict fields) : sims.getSimulator plan =
      sims.resolve (inferredChain plan.interactions ((fields.lookup "chain_id").getD .none)) := by
  unfold MultiChainSimulator.getSimulator
  rw [metadata]
  rfl

theorem getSimulator_of_not_dict (other : ∀ fields, plan.metadata ≠ .dict fields) :
    sims.getSimulator plan = .error .attributeError := by
  unfold MultiChainSimulator.getSimulator
  cases metadata : plan.metadata with
  | dict fields => exact absurd metadata (other fields)
  | _ => rfl

theorem tagPlan_missing {chainId} (nonzero : chainId ≠ 0) (metadata : plan.metadata = .dict fields)
    (missing : fields.lookup "chain_id" = none) : tagPlan chainId plan =
      .ok { plan with metadata := .dict (fields ++ [("chain_id", .int chainId)]) } := by
  unfold tagPlan
  rw [if_neg nonzero, metadata]
  simp [Value.isNone, holds, missing]
  rfl

theorem tagPlan_named {chainId given} (metadata : plan.metadata = .dict fields)
    (named : fields.lookup "chain_id" = some given) : tagPlan chainId plan = .ok plan := by
  obtain ⟨intentId, interactions, deadline, nonce, _⟩ := plan
  subst metadata
  unfold tagPlan
  simp only [Value.isNone, Bool.false_eq_true, if_false, holds, named, Option.isSome_some]
  split <;> rfl

theorem tagPlan_none {chainId} (nonzero : chainId ≠ 0) (metadata : plan.metadata = .none) :
    tagPlan chainId plan =
      .ok { plan with metadata := .dict [("chain_id", .int chainId)] } := by
  unfold tagPlan
  rw [if_neg nonzero, metadata]
  simp [Value.isNone, holds]
  rfl

theorem lookup_tag (fields : List (String × Value)) (missing : fields.lookup "chain_id" = none)
    (v : Value) : (fields ++ [("chain_id", v)]).lookup "chain_id" = some v := by
  rw [List.lookup_append, missing, Option.none_or, List.lookup_cons_self]

theorem getSimulator_tagged {chain} (known : chain ∈ sims.simulators.keys)
    (metadata : plan.metadata = .dict fields) (own : fields.lookup "chain_id" = some (.int chain)) :
    sims.getSimulator plan = .ok (some chain) := by
  rw [getSimulator_dict sims metadata, own]
  exact (sims.resolve_eq_some known).mpr (.inl rfl)

theorem routed_of_other {chainId} (filled : plan.metadata.isNone = false)
    (other : ∀ fields, plan.metadata ≠ .dict fields) (answer : Option Int) :
    (tagPlan chainId plan >>= sims.getSimulator) ≠ .ok answer := by
  have lost : sims.getSimulator plan ≠ .ok answer := by
    rw [getSimulator_of_not_dict sims other]
    exact fun routed => nomatch routed
  have unassigned : assigned "chain_id" (.int chainId) plan.metadata = .error .typeError := by
    cases metadata : plan.metadata with
    | dict fields => exact absurd metadata (other fields)
    | _ => rfl
  unfold tagPlan
  split
  · exact lost
  · rw [filled]
    simp
    cases holds "chain_id" plan.metadata with
    | error e => exact fun routed => nomatch routed
    | ok held =>
      cases held with
      | true => exact lost
      | false =>
        rw [unassigned]
        exact fun routed => nomatch routed

/-- A plan is simulated on the fork of the scenario's chain, at its block, exactly if it does not
    name another chain. -/
theorem onFork_iff (requireRealSim : Bool) (s : ForkScenario) (plan : ExecutionPlan)
    (simulated : s.chainId ∈ sims.simulators.keys) :
    simulationStage sims requireRealSim s plan = .onFork s.chainId s.pin ↔
      NamesOwnChain sims s.chainId plan := by
  rw [simulationStage_eq_onFork]
  unfold NamesOwnChain
  cases metadata : plan.metadata with
  | dict fields =>
    cases named : fields.lookup "chain_id" with
    | some given =>
      rw [tagPlan_named metadata named]
      show sims.getSimulator plan = _ ↔ _
      rw [getSimulator_dict sims metadata, named]
      simp only [named]
      exact sims.resolve_eq_some simulated
    | none =>
      simp only [named]
      by_cases zero : s.chainId = 0
      · have untagged : tagPlan s.chainId plan = .ok plan := by rw [tagPlan, if_pos zero]
        rw [untagged]
        show sims.getSimulator plan = _ ↔ _
        rw [getSimulator_dict sims metadata, named, sims.resolve_eq_some simulated]
        exact ⟨.inr, fun leads => leads.resolve_left (not_not.mpr zero)⟩
      · rw [tagPlan_missing zero metadata named]
        refine ⟨fun _ => .inl zero, fun _ => ?_⟩
        show sims.getSimulator
          { plan with metadata := .dict (fields ++ [("chain_id", .int s.chainId)]) } = _
        exact getSimulator_tagged sims simulated rfl (lookup_tag fields named _)
  | none =>
    by_cases zero : s.chainId = 0
    · have untagged : tagPlan s.chainId plan = .ok plan := by rw [tagPlan, if_pos zero]
      rw [untagged]
      refine ⟨fun routed => ?_, fun nonzero => absurd zero nonzero⟩
      change sims.getSimulator plan = _ at routed
      rw [getSimulator_of_not_dict sims fun fields same => nomatch metadata.symm.trans same] at routed
      cases routed
    · rw [tagPlan_none zero metadata]
      refine ⟨fun _ => zero, fun _ => ?_⟩
      show sims.getSimulator { plan with metadata := .dict [("chain_id", .int s.chainId)] } = _
      exact getSimulator_tagged sims simulated rfl (lookup_tag [] (by rfl) _)
  | _ =>
    refine ⟨fun routed => ?_, False.elim⟩
    exact routed_of_other sims (by rw [metadata]; rfl)
      (fun fields same => nomatch metadata.symm.trans same) _ routed

end

def twoChains : MultiChainSimulator Unit where
  simulators := (Dict.empty.set 8453 ()).set 1 ()
  defaultChainId := 8453

def baseScenario : ForkScenario where
  chainId := 8453
  forkBlocks := (Dict.empty.set 8453 31000000).set 1 22000000

def planNaming (chain : Value) : ExecutionPlan where
  intentId := .str "app_a"
  interactions := []
  deadline := .int 0
  nonce := .int 0
  metadata := .dict [("chain_id", chain)]

theorem solver_picks_the_fork : ¬ ∀ (sims : MultiChainSimulator Unit) (requireRealSim : Bool)
    (s : ForkScenario) (plan : ExecutionPlan), s.chainId ∈ sims.simulators.keys →
      simulationStage sims requireRealSim s plan = .onFork s.chainId s.pin := by
  intro own
  have onBase := own twoChains true baseScenario (planNaming (.int 1)) (by decide)
  have onEthereum : simulationStage twoChains true baseScenario (planNaming (.int 1)) =
      .onFork 1 (some 31000000) := by decide +kernel
  rw [onEthereum] at onBase
  exact absurd onBase (by decide +kernel)

theorem own_chain_named : simulationStage twoChains true baseScenario (planNaming (.str "8453")) =
    .onFork 8453 (some 31000000) :=
  (onFork_iff twoChains true baseScenario (planNaming (.str "8453")) (by decide)).mpr (.inl (by rfl))

end MinotaurSubnet.Harness
