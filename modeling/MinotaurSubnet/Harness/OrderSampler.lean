import MinotaurSubnet.Harness.BenchmarkScenarios
import MinotaurSubnet.Harness.Submissions
import MinotaurSubnet.Library.BestPerKey
import MinotaurSubnet.Library.Slicing
import MinotaurSubnet.Python.JsonTexts
import Mathlib.Data.List.Dedup
import Mathlib.Data.Prod.Lex

/-! # Drawing past orders and quotes

`harness/order_sampler.py`: what may be drawn in a round, how the requests of one trade become
one, and the draw itself. The hash, the random generator and `str` on what is no string are
parameters.
-/

namespace MinotaurSubnet.Harness

open Library Python

/-- An entry of a manifest's `benchmark_scenarios`, with the keys that it has. -/
structure ManifestScenario where
  ownAppId : Option Value := none
  name : Option Value := none
  intentFunction : Option Value := none
  params : Option (Dict String Value) := none
  chains : Option (List Int) := none
  fund : Option Value := none

structure StoredManifest where
  benchmarkScenarios : List ManifestScenario := []
  intentFunctions : List FunctionSpec := []

structure AppRecord where
  appId : String
  name : String
  intentType : String := ""
  supportedChains : List Int := []
  triggerType : String := ""
  manifest : StoredManifest := {}

/-- A row of `list_orders` or `list_quotes`. -/
structure OrderRecord where
  orderId : Option String := none
  quoteId : Option String := none
  status : String := ""
  appId : Option String := none
  chainId : Option Int := none
  intentFunction : Option Value := none
  params : Dict String Value := .empty
  blockNumber : Value := .none
  txHash : Value := .none
  capturedOpenedEpoch : Option Int := none
  /-- The fields of `_PII_FIELDS` that it has. -/
  pii : Dict String Value := .empty

def OrderRecord.stripPii (order : OrderRecord) : OrderRecord := { order with pii := .empty }

def OrderRecord.drawn (order : OrderRecord) : DrawnRecord where
  orderId := order.orderId
  appId := order.appId
  chainId := order.chainId
  params := order.params
  intentFunction := order.intentFunction.getD (.str "swap")
  blockNumber := order.blockNumber
  txHash := order.txHash

structure AppsView where
  listApps : Option (List AppRecord)
  getDeployments : String → Option (Dict Int DeploymentResult)

def isDecimal (c : Char) : Bool := (digitValue c).isSome

/-- The group of `^round-e(\d+)-n\d+$`; the end of a line is an end as well. -/
def roundEpochDigits (roundId : String) : Option (List Char) :=
  if startsWith roundId "round-e" then
    let rest := roundId.toList.drop 7
    match rest.dropWhile isDecimal with
    | '-' :: 'n' :: number =>
      let after := number.dropWhile isDecimal
      if rest.takeWhile isDecimal ≠ [] ∧ number.takeWhile isDecimal ≠ [] ∧
          (after = [] ∨ after = ['\n']) then
        some (rest.takeWhile isDecimal)
      else none
    | _ => none
  else none

/-- `none` when `int` refuses the digits. -/
def openedEpochFromRoundId (roundId : String) : Option (Option Int) :=
  match roundEpochDigits roundId with
  | none => some none
  | some digits => (intOfStr (String.ofList digits)).map some

def retiredAppChainKeys (view : AppsView) (atEpoch : Option Int) : List (String × Int) :=
  match view.listApps with
  | none => []
  | some apps => ((apps.map (·.appId)).filter (· ≠ "")).flatMap fun app =>
    match view.getDeployments app with
    | none => []
    | some deployments => (deployments.entries.filter fun entry =>
      entry.2.isEffectivelyRetired atEpoch).map fun entry => (app, entry.1)

/-- `sha256` on texts, `str` on what is no string, and `random.Random` seeded by a text: `sample`
    gives the positions of a sample from a population, `shuffle` where each position of the
    shuffled list comes from. -/
structure PackHost (σ : Type) where
  sha256Hex : String → String
  floats : FloatRepr
  str : Value → String
  lower : String → String
  seed : String → σ
  sample : σ → Nat → Nat → List Nat × σ
  sample_length : ∀ s n k, k ≤ n → (sample s n k).1.length = k
  sample_nodup : ∀ s n k, (sample s n k).1.Nodup
  sample_lt : ∀ s n k, ∀ i ∈ (sample s n k).1, i < n
  shuffle : σ → Nat → List Nat
  shuffle_perm : ∀ s n, (shuffle s n).Perm (List.range n)

def PackHost.jsonDumps {σ : Type} (host : PackHost σ) : Value → String := @Value.dumps host.floats

/-- `STAGE2_CORPUS_SAMPLES`, which is `QUOTE_CORPUS_SAMPLES` as well. -/
def stage2CorpusSamples : Nat := 50

def quoteRetentionEpochs : Int := 20160

def volatileParams : List String := ["quoted_output", "platform_fee_wei", "intent_params_hex"]

def bucketedParams : List String :=
  ["input_token", "output_token", "input_amount", "min_output_amount"]

def terminalDemand : List String := ["filled", "rejected", "expired"]

structure DrawOptions where
  chainIds : Option (List Int) := none
  nPerChain : Nat := stage2CorpusSamples
  excludeStatuses : Option (List String) := none
  records : Option (List OrderRecord) := none
  excludeAppChains : Option (List (String × Int)) := none

def plainPackHost : PackHost Unit where
  sha256Hex := id
  floats := fractions
  str _ := ""
  lower := id
  seed _ := ()
  sample _ n count := (List.range (min count n), ())
  sample_length _ n count few := by simp [few]
  sample_nodup _ _ _ := List.nodup_range
  sample_lt _ n count i inside := by
    have := List.mem_range.mp inside
    omega
  shuffle _ n := List.range n
  shuffle_perm _ _ := .refl _

section

variable {σ : Type} (host : PackHost σ)

def filterCandidates (orders : List OrderRecord) (included excluded : Option (List String))
    (chainIds : Option (List Int)) (excludedAppChains : List (String × Int)) : List OrderRecord :=
  orders.filter fun order =>
    let status := host.lower order.status
    included.all (·.contains status) && excluded.all (!·.contains status) &&
      chainIds.all (fun ids => order.chainId.any (ids.contains ·)) &&
      !(match order.appId, order.chainId with
        | some app, some chain => excludedAppChains.contains (app, chain)
        | _, _ => false)

/-- `_amount_decade`: the number of digits after the first. -/
def amountDecade (amount : Value) : String :=
  let spelled := nameText host.str amount
  match intOfStr spelled with
  | some value => if value ≤ 0 then "raw:" ++ spelled
      else "e" ++ toString ((toString value).length - 1)
  | none => "raw:" ++ spelled

def dedupKey (order : OrderRecord) : String :=
  let core := order.params.entries.filter fun param => !volatileParams.contains param.1
  let trade : List Value := [.str (order.appId.getD ""), order.intentFunction.getD (.str ""),
    (order.chainId.map .int).getD .none]
  let inputToken := (core.lookup "input_token").getD .none
  let outputToken := (core.lookup "output_token").getD .none
  let exactly : Value := .list (trade ++ [.dict core])
  if inputToken.truthy && outputToken.truthy then
    match (core.lookup "input_amount").getD .none with
    | .none => host.jsonDumps exactly
    | amount => host.jsonDumps (.list (trade ++ [.str (host.lower (nameText host.str inputToken)),
        .str (host.lower (nameText host.str outputToken)), .str (amountDecade host amount),
        .dict (core.filter fun param => !bucketedParams.contains param.1)]))
  else host.jsonDumps exactly

def representativeRank (order : OrderRecord) : Nat ×ₗ String :=
  toLex (if host.lower order.status = "filled" then 0 else 1, order.orderId.getD "")

def dedupCandidates (candidates : List OrderRecord) : List OrderRecord :=
  bestPerKey (dedupKey host) (representativeRank host) candidates

def sampleChain (nPerChain : Nat) (candidates : List OrderRecord)
    (before : List OrderRecord × σ) (chain : Int) : List OrderRecord × σ :=
  let orders := sortedBy (·.orderId.getD "") (candidates.filter (·.chainId = some chain))
  let chosen := host.sample before.2 orders.length (min nPerChain orders.length)
  (before.1 ++ picked orders chosen.1, chosen.2)

def sampleByChain (seedText : String) (nPerChain : Nat) (candidates : List OrderRecord) :
    List OrderRecord :=
  let chains := sortedBy id (candidates.filterMap (·.chainId)).dedup
  (chains.foldl (sampleChain host nPerChain candidates) ([], host.seed seedText)).1.map (·.stripPii)

/-- What is retired in the round; `none` when the round id cannot be read. -/
def excludedAppChains (view : AppsView) (roundId : String) (given : Option (List (String × Int))) :
    Option (List (String × Int)) :=
  match given with
  | some keys => some keys
  | none => (openedEpochFromRoundId roundId).map (retiredAppChainKeys view)

def eligibleOrders (view : AppsView) (listed : Option (List OrderRecord)) (roundId : String)
    (options : DrawOptions) : Option (List OrderRecord) :=
  match options.records <|> listed with
  | none => some []
  | some orders => (excludedAppChains view roundId options.excludeAppChains).map fun retired =>
    let included := if options.excludeStatuses.isNone then some terminalDemand else none
    filterCandidates host orders included options.excludeStatuses options.chainIds retired

def sampleHistoricalOrders (view : AppsView) (listed : Option (List OrderRecord))
    (roundId : String) (options : DrawOptions) : Option (List OrderRecord) :=
  (eligibleOrders host view listed roundId options).map fun candidates =>
    sampleByChain host roundId options.nPerChain (dedupCandidates host candidates)

/-- The two-sided cutoff; without an epoch in the round id there is none. -/
def OrderRecord.inWindow (quote : OrderRecord) (drawEpoch : Option Int) : Bool :=
  drawEpoch.all fun epoch => quote.capturedOpenedEpoch.any fun captured =>
    captured < epoch && epoch - quoteRetentionEpochs ≤ captured

def OrderRecord.asOrder (quote : OrderRecord) : Option OrderRecord :=
  match quote.quoteId with
  | none | some "" => none
  | some quoteId => some { quote with orderId := some quoteId }

def eligibleQuotes (view : AppsView) (listed : Option (List OrderRecord)) (roundId : String)
    (options : DrawOptions) : Option (List OrderRecord) :=
  match options.records <|> listed with
  | none => some []
  | some quotes => do
      let drawEpoch ← openedEpochFromRoundId roundId
      let retired ← excludedAppChains view roundId options.excludeAppChains
      let candidates := (quotes.filter (·.inWindow drawEpoch)).filterMap (·.asOrder)
      return filterCandidates host candidates none none options.chainIds retired

def quoteCandidates (view : AppsView) (listed : Option (List OrderRecord)) (roundId : String)
    (options : DrawOptions) : Option (List OrderRecord) :=
  (eligibleQuotes host view listed roundId options).map (dedupCandidates host)

def sampleHistoricalQuotes (view : AppsView) (listed : Option (List OrderRecord))
    (roundId : String) (options : DrawOptions) : Option (List OrderRecord) :=
  (quoteCandidates host view listed roundId options).map
    (sampleByChain host (roundId ++ ":quotes") options.nPerChain)

end

variable (order : OrderRecord)

@[simp] theorem stripPii_orderId : order.stripPii.orderId = order.orderId := rfl

@[simp] theorem stripPii_quoteId : order.stripPii.quoteId = order.quoteId := rfl

@[simp] theorem stripPii_chainId : order.stripPii.chainId = order.chainId := rfl

@[simp] theorem stripPii_drawn : order.stripPii.drawn = order.drawn := rfl

@[simp] theorem dedupKey_stripPii {σ : Type} (host : PackHost σ) (order : OrderRecord) :
    dedupKey host order.stripPii = dedupKey host order := rfl

section

variable {σ : Type} {host : PackHost σ}

theorem mem_filterCandidates {orders included excluded chainIds retired order}
    (inside : order ∈ filterCandidates host orders included excluded chainIds retired) :
    order ∈ orders :=
  List.mem_of_mem_filter inside

/-- The filter asks of the retired deployments only which ones they are. -/
theorem filterCandidates_congr {orders included excluded chainIds retired retired'}
    (same : ∀ key, key ∈ retired ↔ key ∈ retired') :
    filterCandidates host orders included excluded chainIds retired =
      filterCandidates host orders included excluded chainIds retired' := by
  have contained : retired.contains = retired'.contains := by
    funext key
    rw [Bool.eq_iff_iff, List.contains_iff_mem, List.contains_iff_mem]
    exact same key
  unfold filterCandidates
  rw [contained]

theorem mem_dedupCandidates {candidates order} (inside : order ∈ dedupCandidates host candidates) :
    order ∈ candidates :=
  mem_of_mem_bestPerKey inside

structure Drawn (nPerChain : Nat) (candidates : List OrderRecord) (done : List Int)
    (drawn : List OrderRecord) : Prop where
  listed : ∀ order ∈ drawn, order ∈ candidates
  onChain : ∀ order ∈ drawn, ∃ chain ∈ done, order.chainId = some chain
  distinct : candidates.Nodup → drawn.Nodup
  perChain : ∀ chain, (drawn.filter (·.chainId = some chain)).length ≤ nPerChain

variable {nPerChain : Nat} {candidates : List OrderRecord}

theorem Drawn.chain {done before} (drawn : Drawn nPerChain candidates done before.1) {chain}
    (fresh : chain ∉ done) :
    Drawn nPerChain candidates (chain :: done)
      (sampleChain host nPerChain candidates before chain).1 := by
  unfold sampleChain
  let orders := sortedBy (·.orderId.getD "") (candidates.filter (·.chainId = some chain))
  let chosen := host.sample before.2 orders.length (min nPerChain orders.length)
  have here {order : OrderRecord} (now : order ∈ picked orders chosen.1) :
      order ∈ candidates ∧ order.chainId = some chain := by
    have listed := List.mem_filter.mp (mem_sortedBy.mp (mem_of_mem_picked now))
    exact ⟨listed.1, of_decide_eq_true listed.2⟩
  have elsewhere {order : OrderRecord} (earlier : order ∈ before.1) : order.chainId ≠ some chain := by
    intro same
    obtain ⟨c, finished, on⟩ := drawn.onChain order earlier
    cases on.symm.trans same
    exact fresh finished
  have few : (picked orders chosen.1).length ≤ nPerChain := by
    have bound := List.length_filterMap_le (fun i => orders[i]?) chosen.1
    have asked : chosen.1.length = min nPerChain orders.length :=
      host.sample_length before.2 orders.length _ (Nat.min_le_right _ _)
    unfold picked
    omega
  refine ⟨fun order inside => ?_, fun order inside => ?_, fun nodup => ?_, fun c => ?_⟩
  · rcases List.mem_append.mp inside with earlier | now
    · exact drawn.listed order earlier
    · exact (here now).1
  · rcases List.mem_append.mp inside with earlier | now
    · obtain ⟨c, finished, on⟩ := drawn.onChain order earlier
      exact ⟨c, List.mem_cons_of_mem _ finished, on⟩
    · exact ⟨chain, List.mem_cons_self, (here now).2⟩
  · have sorted : orders.Nodup := (sortedBy_perm _ _).nodup_iff.mpr (nodup.filter _)
    exact List.Nodup.append (drawn.distinct nodup) (picked_nodup sorted (host.sample_nodup _ _ _))
      fun order earlier now => elsewhere earlier (here now).2
  · rw [List.filter_append, List.length_append]
    by_cases this : c = chain
    · subst this
      have none : before.1.filter (·.chainId = some c) = [] :=
        List.filter_eq_nil_iff.mpr fun order earlier => by simpa using elsewhere earlier
      have kept := List.length_filter_le (fun o : OrderRecord => o.chainId = some c)
        (picked orders chosen.1)
      rw [none, List.length_nil, Nat.zero_add]
      exact kept.trans few
    · have none : (picked orders chosen.1).filter (·.chainId = some c) = [] := by
        refine List.filter_eq_nil_iff.mpr fun order now => ?_
        rw [(here now).2, decide_eq_true_eq, Option.some.injEq]
        exact fun same => this same.symm
      rw [none, List.length_nil, Nat.add_zero]
      exact drawn.perChain c

theorem Drawn.chains {chains} : ∀ {done : List Int} {before : List OrderRecord × σ},
    Drawn nPerChain candidates done before.1 → (done ++ chains).Nodup →
      ∃ done', Drawn nPerChain candidates done'
        (chains.foldl (sampleChain host nPerChain candidates) before).1 := by
  induction chains with
  | nil => exact fun drawn _ => ⟨_, drawn⟩
  | cons chain rest ih =>
    intro done before drawn distinct
    have fresh : chain ∉ done := fun finished =>
      (List.nodup_append.mp distinct).2.2 chain finished chain List.mem_cons_self rfl
    exact ih (drawn.chain fresh) (List.perm_middle.nodup_iff.mp distinct)

theorem sampleByChain_drawn (seedText : String) (nPerChain : Nat) (candidates : List OrderRecord) :
    ∃ drawn done, Drawn nPerChain candidates done drawn ∧
      sampleByChain host seedText nPerChain candidates = drawn.map (·.stripPii) := by
  have distinct : (sortedBy id (candidates.filterMap (·.chainId)).dedup).Nodup :=
    (sortedBy_perm _ _).nodup_iff.mpr (List.nodup_dedup _)
  have start : Drawn nPerChain candidates [] ([], host.seed seedText).1 := by
    constructor <;> simp
  obtain ⟨done, drawn⟩ := start.chains distinct
  exact ⟨_, done, drawn, rfl⟩

theorem mem_sampleByChain {seedText nPerChain candidates row}
    (inside : row ∈ sampleByChain host seedText nPerChain candidates) :
    ∃ order ∈ candidates, order.stripPii = row := by
  obtain ⟨drawn, _, sound, spelled⟩ := @sampleByChain_drawn _ host seedText nPerChain candidates
  rw [spelled] at inside
  obtain ⟨order, chosen, rfl⟩ := List.mem_map.mp inside
  exact ⟨order, sound.listed order chosen, rfl⟩

end

end MinotaurSubnet.Harness
