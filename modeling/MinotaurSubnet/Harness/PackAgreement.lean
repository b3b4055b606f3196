import MinotaurSubnet.Harness.BenchmarkPack

/-! # What equal pack hashes say

Under an injective hash the hashed text is known, and with it what the builder put into it: the
apps, the submissions, the manifest scenarios and the drawn ids. It does not say what is
deployed for an app, what is stored under an id or what the script engine serves, and there the
scenarios of two workers may differ.
-/

namespace MinotaurSubnet.Harness

open Library Python

def AppRecord.identity (app : AppRecord) : String × String × String × List Int × String :=
  (app.appId, app.name, app.intentType, app.supportedChains, app.triggerType)

def Submission.identity (sub : Submission) :
    String × String × String × String × Option String × Option String × Option String :=
  (sub.submissionId.text, sub.hotkey, sub.repoUrl, sub.commitHash, sub.imageId, sub.solverName,
    sub.solverVersion)

theorem lookup_sortedFields (fields : List (String × Value)) (key : String) :
    (Value.sortedFields fields).lookup key = (fields.lookup key).map Value.sorted := by
  induction fields with
  | nil => rfl
  | cons field rest ih =>
    obtain ⟨name, v⟩ := field
    rw [Value.sortedFields, List.lookup_cons, List.lookup_cons, ih]
    cases key == name <;> rfl

theorem lookup_of_sorted {fields fields' : List (String × Value)} (distinct : (fields.map Prod.fst).Nodup)
    (distinct' : (fields'.map Prod.fst).Nodup)
    (same : (Value.dict fields).sorted = (Value.dict fields').sorted) (key : String) :
    (fields.lookup key).map Value.sorted = (fields'.lookup key).map Value.sorted := by
  rw [← Value.sortedFields_keys] at distinct distinct'
  let d : Dict String Value := ⟨Value.sortedFields fields, distinct⟩
  let d' : Dict String Value := ⟨Value.sortedFields fields', distinct'⟩
  have lookups : d.get? key = d'.get? key := by
    refine Option.ext fun v => ?_
    rw [Dict.get?_eq_some, Dict.get?_eq_some]
    exact (Value.perm_of_sorted same).mem_iff
  rw [← lookup_sortedFields, ← lookup_sortedFields]
  exact lookups

theorem sorted_str (text : String) : (Value.str text).sorted = .str text := by
  rw [Value.sorted]

theorem sorted_list (items : List Value) :
    (Value.list items).sorted = .list (items.map Value.sorted) := by
  rw [Value.sorted, Value.sortedItems_eq_map]

theorem ints_of_sorted {l m : List Int}
    (same : (Value.list (l.map .int)).sorted = (Value.list (m.map .int)).sorted) : l = m := by
  rw [sorted_list, sorted_list, List.map_map, List.map_map] at same
  have injective : Function.Injective (Value.sorted ∘ Value.int) := fun a b same => Value.int.inj same
  exact List.map_injective_iff.mpr injective (Value.list.inj same)

theorem AppRecord.identity_of_payload {a b : AppRecord} (same : a.payload.sorted = b.payload.sorted) :
    a.identity = b.identity := by
  unfold AppRecord.payload at same
  have fields := Value.fields_of_sorted (by rfl) (by simp) same
  simp only [Value.sortedFields, sorted_str, List.cons.injEq, Prod.mk.injEq, Value.str.injEq, true_and,
    and_true] at fields
  obtain ⟨appId, name, intentType, chains, trigger⟩ := fields
  exact Prod.ext appId (Prod.ext name (Prod.ext intentType (Prod.ext (ints_of_sorted chains) trigger)))

theorem optionText_of_sorted {a b} (same : (optionText a).sorted = (optionText b).sorted) :
    a = b := by
  cases a with
  | none =>
    cases b with
    | none => rfl
    | some b => cases same
  | some a =>
    cases b with
    | none => cases same
    | some b => exact congrArg some (Value.str.inj same)

theorem Submission.identity_of_payload {a b : Submission} (same : a.payload.sorted = b.payload.sorted) :
    a.identity = b.identity := by
  unfold Submission.payload at same
  have fields := Value.fields_of_sorted (by rfl) (by simp) same
  simp only [Value.sortedFields, sorted_str, List.cons.injEq, Prod.mk.injEq, Value.str.injEq, true_and,
    and_true] at fields
  obtain ⟨submissionId, hotkey, repoUrl, commitHash, imageId, solverName, solverVersion⟩ := fields
  have image := optionText_of_sorted imageId
  have solver := optionText_of_sorted solverName
  have version := optionText_of_sorted solverVersion
  simp only [Submission.identity, submissionId, hotkey, repoUrl, commitHash, image, solver, version]

def scenarioKey (entry : String × ManifestScenario) : Value :=
  (Value.dict (canonicalScenario (scenarioFields entry))).sorted

structure SameInventory {σ : Type} (host : PackHost σ) (env : PackEnv) (roundId : String)
    (atEpoch : Option Int) (n m : Node) : Prop where
  apps : (n.hashedApps atEpoch).map (·.identity) = (m.hashedApps atEpoch).map (·.identity)
  submissions : (n.hashedSubmissions roundId).map (·.identity) =
    (m.hashedSubmissions roundId).map (·.identity)
  scenarios : ((n.syntheticScenarios atEpoch).map scenarioKey).Perm
    ((m.syntheticScenarios atEpoch).map scenarioKey)
  orders : (n.orderIds host roundId).Perm (m.orderIds host roundId)
  quotes : Pack.SameIds (n.coveredQuoteIds host roundId env) (m.coveredQuoteIds host roundId env)
  pins : n.pinSegment = m.pinSegment

section

variable {σ : Type} {host : PackHost σ} {env : PackEnv} {roundId : String} {atEpoch : Option Int}

variable (node : Node)

theorem packPayload_keys :
    ((node.packPayload host roundId atEpoch env).map Prod.fst).Nodup := by
  unfold Node.packPayload
  cases node.coveredQuoteIds host roundId env with
  | none => by_cases unpinned : node.pinSegment = "" <;> simp [unpinned]
  | some ids => by_cases unpinned : node.pinSegment = "" <;> simp [unpinned]

theorem lookup_apps : (node.packPayload host roundId atEpoch env).lookup "apps" =
    some (.list ((node.hashedApps atEpoch).map (·.payload))) := by
  simp [Node.packPayload, List.lookup_cons]

theorem lookup_submissions :
    (node.packPayload host roundId atEpoch env).lookup "submissions" =
      some (.list ((node.hashedSubmissions roundId).map (·.payload))) := by
  simp [Node.packPayload, List.lookup_cons]

theorem lookup_scenario_hash :
    (node.packPayload host roundId atEpoch env).lookup "scenario_hash" =
      some (.str (node.scenarioHash host roundId atEpoch env)) := by
  simp [Node.packPayload, List.lookup_cons]

theorem lookup_fork_pins :
    (node.packPayload host roundId atEpoch env).lookup "fork_pins" =
      if node.pinSegment = "" then none else some (.str node.pinSegment) := by
  unfold Node.packPayload
  cases node.coveredQuoteIds host roundId env with
  | none => by_cases unpinned : node.pinSegment = "" <;> simp [unpinned, List.lookup_cons]
  | some ids =>
    by_cases unpinned : node.pinSegment = "" <;> simp [unpinned, List.lookup_cons]

theorem ids_of_units {ids ids' : List String}
    (same : ((ids.map PyStr.ofString).map PyStr.units).Perm ((ids'.map PyStr.ofString).map PyStr.units)) :
    ids.Perm ids' := by
  rw [List.map_map, List.map_map] at same
  refine (List.map_perm_map_iff fun id id' units => ?_).mp same
  exact PyStr.ofString_injective
    (PyStr.units_inj (PyStr.unpaired_ofString id) (PyStr.unpaired_ofString id') units)

theorem sameInventory_of_payload (injective : Function.Injective host.sha256Hex) {n m : Node}
    (same : host.jsonDumps (.dict (n.packPayload host roundId atEpoch env)) =
      host.jsonDumps (.dict (m.packPayload host roundId atEpoch env))) :
    SameInventory host env roundId atEpoch n m := by
  have fields := lookup_of_sorted (packPayload_keys n) (packPayload_keys m) 
    (@Value.sorted_of_dumps host.floats _ _ same)
  have lists {α : Type} {payload : α → Value} {l l' : List α}
      (same : (Value.list (l.map payload)).sorted = (Value.list (l'.map payload)).sorted) :
      l.map (fun a => (payload a).sorted) = l'.map fun a => (payload a).sorted := by
    rw [sorted_list, sorted_list, List.map_map, List.map_map] at same
    exact Value.list.inj same
  have apps := fields "apps"
  have submissions := fields "submissions"
  have hash := fields "scenario_hash"
  have pins := fields "fork_pins"
  rw [lookup_apps, lookup_apps] at apps
  rw [lookup_submissions, lookup_submissions] at submissions
  rw [lookup_scenario_hash, lookup_scenario_hash] at hash
  rw [lookup_fork_pins, lookup_fork_pins] at pins
  have digests := Value.str.inj (Option.some.inj hash)
  unfold Node.scenarioHash computePackHash at digests
  have texts := injective ((String.append_right_inj _).mp digests)
  obtain ⟨tokens, quotes, -⟩ := (@Pack.text_eq_iff_of_round host.floats _ _ (by rfl)).mp texts
  obtain ⟨scenarios, orders⟩ := (@Pack.tokens_perm_iff host.floats _ _).mp tokens
  exact {
    apps := map_eq_of_determined (fun _ _ => AppRecord.identity_of_payload)
      (lists (Option.some.inj apps))
    submissions := map_eq_of_determined (fun _ _ => Submission.identity_of_payload)
      (lists (Option.some.inj submissions))
    scenarios := by
      unfold Pack.scenarioValues at scenarios
      rwa [List.map_map, List.map_map] at scenarios
    orders := ids_of_units orders
    quotes := by
      revert quotes
      cases n.coveredQuoteIds host roundId env <;> cases m.coveredQuoteIds host roundId env
      · exact id
      · exact id
      · exact id
      · exact ids_of_units
    pins := by
      by_cases unpinned : n.pinSegment = "" <;> by_cases unpinned' : m.pinSegment = "" <;>
        simp_all [Value.sorted] }

theorem payload_of_built (injective : Function.Injective host.sha256Hex)
    (epoch : openedEpochFromRoundId roundId = some atEpoch) {n m : Node} {hash}
    (built : buildSolverRoundBenchmarkPackHash host env roundId n = some hash)
    (built' : buildSolverRoundBenchmarkPackHash host env roundId m = some hash) :
    host.jsonDumps (.dict (n.packPayload host roundId atEpoch env)) =
      host.jsonDumps (.dict (m.packPayload host roundId atEpoch env)) := by
  have digest {node : Node} (built : buildSolverRoundBenchmarkPackHash host env roundId node = some hash) :
      "0x" ++ host.sha256Hex (host.jsonDumps (.dict (node.packPayload host roundId atEpoch env))) =
        hash := by
    simp only [buildSolverRoundBenchmarkPackHash, epoch, Option.bind_eq_bind, Option.bind_eq_some_iff]
      at built
    obtain ⟨_, -, atEpoch', same, _, -, digest⟩ := built
    cases same
    exact Option.some.inj digest
  have same := (digest built).trans (digest built').symm
  exact injective ((String.append_right_inj _).mp same)

end

section

variable {σ : Type} {host : PackHost σ} {view : AppsView} {roundId : String} {atEpoch : Option Int}

theorem sampleHistoricalOrders_eq (epoch : openedEpochFromRoundId roundId = some atEpoch)
    (orders : List OrderRecord) (records : Option (List OrderRecord)) :
    (sampleHistoricalOrders host view (some orders) roundId { records }).getD [] =
      sampleByChain host roundId stage2CorpusSamples (dedupCandidates host (filterCandidates host
        (records.getD orders) (some terminalDemand) none none (retiredAppChainKeys view atEpoch))) := by
  cases records <;>
    simp [sampleHistoricalOrders, eligibleOrders, excludedAppChains, epoch]

theorem mem_sampleHistoricalOrders (epoch : openedEpochFromRoundId roundId = some atEpoch)
    {orders row}
    (inside : row ∈ (sampleHistoricalOrders host view (some orders) roundId {}).getD []) :
    ∃ order ∈ orders, order.stripPii = row := by
  rw [sampleHistoricalOrders_eq epoch] at inside
  obtain ⟨order, listed, stripped⟩ := mem_sampleByChain inside
  exact ⟨order, mem_filterCandidates (mem_dedupCandidates listed), stripped⟩

theorem quoteId_of_asOrder {quote order : OrderRecord} (shape : quote.asOrder = some order) :
    order.quoteId = quote.quoteId := by
  unfold OrderRecord.asOrder at shape
  split at shape
  · cases shape
  · cases shape
  · cases shape
    rfl

theorem mem_sampleHistoricalQuotes (epoch : openedEpochFromRoundId roundId = some atEpoch)
    {quotes row}
    (inside : row ∈ (sampleHistoricalQuotes host view (some quotes) roundId {}).getD []) :
    ∃ quote ∈ quotes, ∃ order, quote.asOrder = some order ∧ order.stripPii = row := by
  have drawn : row ∈ sampleByChain host (roundId ++ ":quotes") stage2CorpusSamples (dedupCandidates host
      (filterCandidates host ((quotes.filter (·.inWindow atEpoch)).filterMap (·.asOrder)) none none none
        (retiredAppChainKeys view atEpoch))) := by
    simpa [sampleHistoricalQuotes, quoteCandidates, eligibleQuotes, excludedAppChains, epoch] using inside
  obtain ⟨order, listed, stripped⟩ := mem_sampleByChain drawn
  obtain ⟨quote, windowed, shape⟩ :=
    List.mem_filterMap.mp (mem_filterCandidates (mem_dedupCandidates listed))
  exact ⟨quote, List.mem_of_mem_filter windowed, order, shape, stripped⟩

end

theorem BenchmarkInputs.benchmarkSet_perm {b c : BenchmarkInputs} (apps : b.store.apps.Perm c.store.apps)
    (deployments : ∀ app ∈ b.store.apps, b.store.deployments app = c.store.deployments app)
    (engine : b.engine = c.engine) (allChains : b.allChains = c.allChains) (epoch : b.atEpoch = c.atEpoch)
    (statuses : b.deploymentStatuses = c.deploymentStatuses) (flag : b.quoteCorpus = c.quoteCorpus)
    (orders : b.orders.Perm c.orders) (quotes : b.quoteCorpus = true → b.quotes.Perm c.quotes) :
    b.benchmarkSet.Perm c.benchmarkSet := by
  have getDeployment {app : String} (listed : app ∈ b.store.apps) :
      b.store.getDeployment app = c.store.getDeployment app := by
    unfold AppStore.getDeployment
    rw [deployments app listed]
  have loaded : ∀ app ∈ b.store.apps, b.loaded app = c.loaded app := by
    intro app listed
    unfold BenchmarkInputs.loaded AppStore.benchmarkDeployments
    rw [deployments app listed, getDeployment listed, allChains, epoch, statuses]
  have intents : b.loadBenchmarkIntents.Perm c.loadBenchmarkIntents := by
    refine apps.flatMap fun app listed => ?_
    rw [loaded app listed]
  have enriched : (b.enrichIntentsWithManifests b.loadBenchmarkIntents).Perm
      (c.enrichIntentsWithManifests c.loadBenchmarkIntents) := by
    refine intents.flatMap fun base _ => ?_
    unfold BenchmarkInputs.manifestOf
    rw [engine]
  have replayed (scenarioPrefix : String) :
      b.orderToScenario scenarioPrefix = c.orderToScenario scenarioPrefix := by
    funext order
    unfold BenchmarkInputs.orderToScenario
    split
    · next app chain _ _ =>
        by_cases listed : app ∈ b.store.apps
        · rw [getDeployment listed]
          simp [listed, apps.mem_iff.mp listed]
        · have absent : app ∉ c.store.apps := fun inside => listed (apps.mem_iff.mpr inside)
          simp [listed, absent]
    · rfl
  have quoted : (if b.quoteCorpus then b.quotes.filterMap (c.orderToScenario "quote") else []).Perm
      (if c.quoteCorpus then c.quotes.filterMap (c.orderToScenario "quote") else []) := by
    rw [← flag]
    split
    · next covered =>
        exact (quotes covered).filterMap _
    · exact .nil
  unfold BenchmarkInputs.benchmarkSet BenchmarkInputs.loadHistoricalScenarios
  rw [replayed "hist", replayed "quote"]
  refine enriched.append ?_
  by_cases undrawn : b.orders = []
  · rw [if_pos undrawn, if_pos (List.nil_perm.mp (undrawn ▸ orders))]
  · have drawn : c.orders ≠ [] := fun empty => undrawn (List.perm_nil.mp (empty ▸ orders))
    rw [if_neg undrawn, if_neg drawn]
    exact (orders.filterMap _).append quoted

structure SameBeneath (atEpoch : Option Int) (n m : Node) : Prop where
  reads : ∀ site, n.fails site = false ∧ m.fails site = false
  retired : ∀ app, app ∈ n.store.appStore.apps ∧ allRetired atEpoch (n.store.deployments app) = true ↔
    app ∈ m.store.appStore.apps ∧ allRetired atEpoch (m.store.deployments app) = true
  deployments : ∀ app ∈ n.store.appStore.apps, app ∈ m.store.appStore.apps →
    n.store.deployments app = m.store.deployments app
  engine : n.engine = m.engine
  chainRecords : n.chainRecords = m.chainRecords
  orders : ∀ a ∈ n.store.orders, ∀ b ∈ m.store.orders,
    a.orderId.getD "" = b.orderId.getD "" → a.drawn = b.drawn
  quotes : ∀ a ∈ n.store.quotes, ∀ b ∈ m.store.quotes,
    a.quoteId.getD "" = b.quoteId.getD "" → a.asOrder.map (·.drawn) = b.asOrder.map (·.drawn)

section

variable {σ : Type} {host : PackHost σ} {env : PackEnv} {roundId : String} {atEpoch : Option Int}
  {n m : Node}

def Node.wholeView (node : Node) : AppsView :=
  ⟨some node.store.apps, fun app => some (node.store.deployments app)⟩

theorem view_eq_wholeView {node : Node} (reads : ∀ site, node.fails site = false) (pass : PackPass) :
    node.view pass = node.wholeView := by
  simp [Node.view, Node.wholeView, Node.read, reads]

theorem mem_hashedIds {node : Node} (reads : ∀ site, node.fails site = false) (app : String) :
    app ∈ (node.hashedApps atEpoch).map (·.appId) ↔
      app ∈ node.store.appStore.apps ∧ ¬allRetired atEpoch (node.store.deployments app) = true := by
  have retired (app : String) : (deregisteredAppIds (node.view .payload) atEpoch).contains app = true ↔
      app ∈ node.store.appStore.apps ∧ allRetired atEpoch (node.store.deployments app) = true := by
    rw [view_eq_wholeView reads, List.contains_iff_mem]
    simp [deregisteredAppIds, Node.wholeView, PackStore.appStore]
  unfold Node.hashedApps
  constructor
  · intro hashed
    obtain ⟨record, inside, rfl⟩ := List.mem_map.mp hashed
    obtain ⟨sorted, kept⟩ := List.mem_filter.mp inside
    have listed : record.appId ∈ node.store.appStore.apps :=
      List.mem_map_of_mem (mem_sortedBy.mp sorted)
    refine ⟨listed, fun gone => ?_⟩
    rw [(retired record.appId).mpr ⟨listed, gone⟩] at kept
    cases kept
  · rintro ⟨listed, alive⟩
    obtain ⟨record, inside, rfl⟩ := List.mem_map.mp listed
    refine List.mem_map_of_mem (List.mem_filter.mpr ⟨mem_sortedBy.mpr inside, ?_⟩)
    rw [Bool.not_eq_true', Bool.eq_false_iff]
    exact fun gone => alive ((retired record.appId).mp gone).2

theorem SameBeneath.apps_perm (beneath : SameBeneath atEpoch n m)
    (inventory : SameInventory host env roundId atEpoch n m) :
    n.store.appStore.apps.Perm m.store.appStore.apps := by
  have hashed : (n.hashedApps atEpoch).map (·.appId) = (m.hashedApps atEpoch).map (·.appId) := by
    have ids := congrArg (List.map Prod.fst) inventory.apps
    rwa [List.map_map, List.map_map] at ids
  refine (List.perm_ext_iff_of_nodup n.store.appStore.distinct m.store.appStore.distinct).mpr fun app => ?_
  have alive := @mem_hashedIds atEpoch n (fun site => (beneath.reads site).1) app
  have alive' := @mem_hashedIds atEpoch m (fun site => (beneath.reads site).2) app
  rw [hashed] at alive
  have kept := alive.symm.trans alive'
  have gone := beneath.retired app
  tauto

theorem mem_retiredAppChainKeys {node : Node} {key} :
    key ∈ retiredAppChainKeys node.wholeView atEpoch ↔ key.1 ∈ node.store.appStore.apps ∧ key.1 ≠ "" ∧
      ∃ d, (key.2, d) ∈ (node.store.deployments key.1).entries ∧
        d.isEffectivelyRetired atEpoch = true := by
  show key ∈ (node.store.appStore.apps.filter (· ≠ "")).flatMap (fun app =>
    ((node.store.deployments app).entries.filter fun entry =>
      entry.2.isEffectivelyRetired atEpoch).map fun entry => (app, entry.1)) ↔ _
  constructor
  · intro inside
    obtain ⟨app, named, inside⟩ := List.mem_flatMap.mp inside
    obtain ⟨entry, kept, rfl⟩ := List.mem_map.mp inside
    obtain ⟨listed, gone⟩ := List.mem_filter.mp kept
    obtain ⟨known, nonempty⟩ := List.mem_filter.mp named
    exact ⟨known, of_decide_eq_true nonempty, entry.2, listed, gone⟩
  · rintro ⟨known, nonempty, d, listed, gone⟩
    refine List.mem_flatMap.mpr ⟨key.1, List.mem_filter.mpr ⟨known, decide_eq_true nonempty⟩, ?_⟩
    exact List.mem_map.mpr ⟨(key.2, d), List.mem_filter.mpr ⟨listed, gone⟩, rfl⟩

theorem SameBeneath.retired_iff (beneath : SameBeneath atEpoch n m)
    (apps : n.store.appStore.apps.Perm m.store.appStore.apps) (key : String × Int) :
    key ∈ retiredAppChainKeys n.wholeView atEpoch ↔ key ∈ retiredAppChainKeys m.wholeView atEpoch := by
  rw [mem_retiredAppChainKeys, mem_retiredAppChainKeys, ← apps.mem_iff]
  refine and_congr_right fun listed => ?_
  rw [beneath.deployments key.1 listed (apps.mem_iff.mp listed)]

theorem SameBeneath.orders_perm (beneath : SameBeneath atEpoch n m)
    (epoch : openedEpochFromRoundId roundId = some atEpoch)
    (inventory : SameInventory host env roundId atEpoch n m)
    (retired : ∀ key, key ∈ retiredAppChainKeys n.wholeView atEpoch ↔
      key ∈ retiredAppChainKeys m.wholeView atEpoch) :
    (((sampleHistoricalOrders host n.wholeView (some n.store.orders) roundId
      { records := n.chainRecords }).getD []).map (·.drawn)).Perm
    (((sampleHistoricalOrders host m.wholeView (some m.store.orders) roundId
      { records := m.chainRecords }).getD []).map (·.drawn)) := by
  rw [← beneath.chainRecords]
  cases n.chainRecords with
  | some records =>
    rw [sampleHistoricalOrders_eq epoch, sampleHistoricalOrders_eq epoch, Option.getD_some,
      Option.getD_some, filterCandidates_congr retired]
  | none =>
    have ids := inventory.orders
    unfold Node.orderIds at ids
    rw [view_eq_wholeView fun site => (beneath.reads site).1,
      view_eq_wholeView fun site => (beneath.reads site).2, Node.read, Node.read,
      (beneath.reads .listOrders).1, (beneath.reads .listOrders).2] at ids
    refine perm_map_of_determined (fun a drawn b drawn' same => ?_) ids
    obtain ⟨order, listed, rfl⟩ := mem_sampleHistoricalOrders epoch drawn
    obtain ⟨order', listed', rfl⟩ := mem_sampleHistoricalOrders epoch drawn'
    exact beneath.orders order listed order' listed' same

theorem SameBeneath.quotes_perm (beneath : SameBeneath atEpoch n m)
    (epoch : openedEpochFromRoundId roundId = some atEpoch)
    (inventory : SameInventory host env roundId atEpoch n m) (covered : env.quoteCorpus = true) :
    (((sampleHistoricalQuotes host n.wholeView (some n.store.quotes) roundId {}).getD []).map
      (·.drawn)).Perm
    (((sampleHistoricalQuotes host m.wholeView (some m.store.quotes) roundId {}).getD []).map
      (·.drawn)) := by
  have ids := inventory.quotes
  simp only [Node.coveredQuoteIds, covered, if_true, Pack.SameIds] at ids
  unfold Node.quoteIds at ids
  rw [view_eq_wholeView fun site => (beneath.reads site).1,
    view_eq_wholeView fun site => (beneath.reads site).2, Node.read, Node.read,
    (beneath.reads .listQuotes).1, (beneath.reads .listQuotes).2] at ids
  refine perm_map_of_determined (fun a drawn b drawn' same => ?_) ids
  obtain ⟨quote, listed, order, shape, rfl⟩ := mem_sampleHistoricalQuotes epoch drawn
  obtain ⟨quote', listed', order', shape', rfl⟩ := mem_sampleHistoricalQuotes epoch drawn'
  rw [stripPii_quoteId, stripPii_quoteId, quoteId_of_asOrder shape, quoteId_of_asOrder shape'] at same
  have records := beneath.quotes quote listed quote' listed' same
  rw [shape, shape'] at records
  exact Option.some.inj records

end

/-- Two nodes that answer with one pack hash have the same inventory, and their workers build the same
    scenarios up to order when they have the same beneath it. -/
theorem equal_pack_hashes {σ : Type} {host : PackHost σ} (injective : Function.Injective host.sha256Hex)
    (env : PackEnv) {roundId : String} {atEpoch : Option Int}
    (epoch : openedEpochFromRoundId roundId = some atEpoch) {n m : Node} {hash : String}
    (built : buildSolverRoundBenchmarkPackHash host env roundId n = some hash)
    (built' : buildSolverRoundBenchmarkPackHash host env roundId m = some hash) :
    SameInventory host env roundId atEpoch n m ∧
      (SameBeneath atEpoch n m → ∀ statuses : Option (List AppStatus),
        (n.benchmark host env statuses roundId atEpoch).benchmarkSet.Perm
          (m.benchmark host env statuses roundId atEpoch).benchmarkSet) := by
  have inventory : SameInventory host env roundId atEpoch n m :=
    sameInventory_of_payload injective (payload_of_built injective epoch built built')
  refine ⟨inventory, fun beneath statuses => ?_⟩
  have apps := beneath.apps_perm inventory
  have retired := beneath.retired_iff apps
  refine BenchmarkInputs.benchmarkSet_perm apps ?_ beneath.engine rfl rfl rfl rfl
    (beneath.orders_perm epoch inventory retired)
    fun covered => beneath.quotes_perm epoch inventory covered
  exact fun app listed => beneath.deployments app listed (apps.mem_iff.mp listed)

section

def deployedAt (address : String) : Node where
  store := {
    apps := [{ appId := "dex", name := "Dex" }]
    distinct := by simp
    noColon := by decide
    deployments := fun _ => Dict.empty.set 1 { status := .active, contractAddress := some address } }

def firstOrder : OrderRecord :=
  { orderId := some "o1", status := "filled", appId := some "dex", chainId := some 1 }

def secondOrder : OrderRecord :=
  { orderId := some "o2", status := "expired", appId := some "dex", chainId := some 10 }

def withOrders (orders : List OrderRecord) : Node :=
  { deployedAt "0xa" with store := { (deployedAt "0xa").store with orders } }

theorem sameBeneath_withOrders {orders orders' : List OrderRecord}
    (determined : ∀ a ∈ orders, ∀ b ∈ orders', a.orderId.getD "" = b.orderId.getD "" → a.drawn = b.drawn) :
    SameBeneath none (withOrders orders) (withOrders orders') where
  reads _ := ⟨rfl, rfl⟩
  retired _ := Iff.rfl
  deployments _ _ _ := rfl
  engine := rfl
  chainRecords := rfl
  orders := determined
  quotes _ listed := absurd listed List.not_mem_nil

theorem equal_pack_hashes_relisted :
    SameInventory plainPackHost {} "round" none (withOrders [firstOrder, secondOrder])
        (withOrders [secondOrder, firstOrder]) ∧
      ((withOrders [firstOrder, secondOrder]).benchmark plainPackHost {} none "round" none).benchmarkSet.Perm
        ((withOrders [secondOrder, firstOrder]).benchmark plainPackHost {} none "round" none).benchmarkSet := by
  have hashed : buildSolverRoundBenchmarkPackHash plainPackHost {} "round"
      (withOrders [firstOrder, secondOrder]) = buildSolverRoundBenchmarkPackHash plainPackHost {} "round"
        (withOrders [secondOrder, firstOrder]) := by decide +kernel
  obtain ⟨hash, built⟩ : ∃ hash, buildSolverRoundBenchmarkPackHash plainPackHost {} "round"
      (withOrders [firstOrder, secondOrder]) = some hash := ⟨_, rfl⟩
  have epoch : openedEpochFromRoundId "round" = some none := rfl
  have injective : Function.Injective plainPackHost.sha256Hex := Function.injective_id
  have agreed := equal_pack_hashes injective {} epoch built (hashed.symm.trans built)
  refine ⟨agreed.1, agreed.2 (sameBeneath_withOrders ?_) none⟩
  simp [firstOrder, secondOrder]

/-- Two deployments of one app are one hash and two sets of scenarios. -/
theorem address_not_hashed :
    buildSolverRoundBenchmarkPackHash plainPackHost {} "round" (deployedAt "0xa") =
        buildSolverRoundBenchmarkPackHash plainPackHost {} "round" (deployedAt "0xb") ∧
      (buildSolverRoundBenchmarkPackHash plainPackHost {} "round" (deployedAt "0xa")).isSome = true ∧
      ¬ ((deployedAt "0xa").benchmark plainPackHost {} none "round" none).benchmarkSet.Perm
        ((deployedAt "0xb").benchmark plainPackHost {} none "round" none).benchmarkSet := by
  refine ⟨rfl, rfl, fun same => ?_⟩
  have addresses := same.map (·.state.contractAddress)
  exact absurd addresses (by decide)

end

end MinotaurSubnet.Harness
