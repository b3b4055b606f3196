import MinotaurSubnet.Harness.BenchmarkScenarios
import MinotaurSubnet.Epoch.AdoptionRule
import Mathlib.Data.List.ReduceOption
import Mathlib.Data.List.TakeWhile

/-! # The labels of the benchmark set

A label is an app and at most one scenario name, and app ids have no colon. Scenarios of one
app collide when two have no name (every function of a manifest, every deployment without
one), when a name runs on two benchmarked chains, or when it is that of a drawn record. The
rule keeps the last row of a label, so a collision takes the others out of the hard veto.
-/

namespace MinotaurSubnet.Harness

open Library Python Epoch

theorem nodup_options {α : Type*} (keys : List (Option α)) :
    keys.Nodup ↔ keys.countP (·.isNone) ≤ 1 ∧ keys.reduceOption.Nodup := by
  induction keys with
  | nil => simp
  | cons key rest ih =>
    rw [List.nodup_cons, ih]
    cases key with
    | none =>
      have missing : none ∈ rest ↔ 0 < rest.countP (·.isNone) := by
        simp [List.countP_pos_iff]
      rw [missing, List.reduceOption_cons_of_none, List.countP_cons_of_pos (by rfl)]
      constructor
      · rintro ⟨no, -, nodup⟩
        exact ⟨by omega, nodup⟩
      · rintro ⟨one, nodup⟩
        exact ⟨by omega, by omega, nodup⟩
    | some a =>
      rw [List.reduceOption_cons_of_some, List.nodup_cons, List.reduceOption_mem_iff,
        List.countP_cons_of_neg (by simp)]
      tauto

theorem takeWhile_labelOf {app} (noColon : ':' ∉ app.toList) (name : Option String) :
    (labelOf app name).toList.takeWhile (· ≠ ':') = app.toList := by
  have visible : ∀ c ∈ app.toList, decide (c ≠ ':') = true :=
    fun c member => decide_eq_true fun colon => noColon (colon ▸ member)
  cases name with
  | none => exact List.takeWhile_eq_self_iff.mpr visible
  | some text =>
    simp only [labelOf, String.toList_append, List.append_assoc]
    rw [List.takeWhile_append_of_pos visible]
    exact List.append_nil _

theorem labelOf_inj {app app'} (noColon : ':' ∉ app.toList) (noColon' : ':' ∉ app'.toList)
    {name name'} (same : labelOf app name = labelOf app' name') :
    app = app' ∧ name = name' := by
  have apps : app = app' := by
    apply String.toList_inj.mp
    rw [← takeWhile_labelOf noColon name, ← takeWhile_labelOf noColon' name', same]
  subst apps
  refine ⟨rfl, ?_⟩
  have lengths := congrArg String.length same
  have colon : ":".length = 1 := by decide
  cases name with
  | none =>
    cases name' with
    | none => rfl
    | some text' =>
      simp only [labelOf, String.length_append] at lengths
      omega
  | some text =>
    cases name' with
    | none =>
      simp only [labelOf, String.length_append] at lengths
      omega
    | some text' =>
      simp only [labelOf, String.append_assoc, String.append_right_inj] at same
      rw [same]

section

variable (str : Value → String)

def ScenarioSpec.shownName (spec : ScenarioSpec) : Option String :=
  if spec.name.truthy then some (nameText str spec.name) else none

/-- How many scenarios without a name a deployment on `chainId` adds. -/
def unnamed (manifest : Option Manifest) (chainId : Int) : Nat :=
  match manifest with
  | none => 1
  | some manifest =>
    let scenarios := manifest.applicable chainId
    if scenarios ≠ [] then scenarios.countP fun spec => !spec.name.truthy
    else max 1 manifest.intentFunctions.length

/-- The names of the scenarios a deployment on `chainId` adds. -/
def named (manifest : Option Manifest) (chainId : Int) : List String :=
  match manifest with
  | none => []
  | some manifest => (manifest.applicable chainId).filterMap (·.shownName str)

theorem scenarioName_scenarioOf (base : Scenario) (spec : ScenarioSpec) :
    (scenarioOf base spec).state.scenarioName str = spec.shownName str := by
  have kept : (scenarioOf base spec).state.control.get? "_scenario_name" = some spec.name := by
    unfold scenarioOf
    simp only
    split
    · rw [Dict.get?_set_ne _ _ (by decide), Dict.get?_set_self]
    · rw [Dict.get?_set_self]
  unfold ScenarioState.scenarioName ScenarioSpec.shownName
  simp [kept]

theorem scenarioName_functionOf (app : String) (d : DeploymentResult) (spec : FunctionSpec) :
    (functionOf (BenchmarkInputs.intentOf app d) spec).state.scenarioName str = none := by
  have missing : (functionOf (BenchmarkInputs.intentOf app d) spec).state.control.get? "_scenario_name" =
      none := by
    unfold functionOf
    rw [Dict.get?_set_ne _ _ (by decide)]
    rfl
  unfold ScenarioState.scenarioName
  simp [missing]
  rfl

def expansionNames (manifest : Option Manifest) (app : String) (d : DeploymentResult) :
    List (Option String) :=
  (enrich manifest (BenchmarkInputs.intentOf app d)).map (·.state.scenarioName str)

theorem map_shownName (specs : List ScenarioSpec) (base : Scenario) :
    (specs.map (scenarioOf base)).map (·.state.scenarioName str) = specs.map (·.shownName str) := by
  rw [List.map_map]
  exact List.map_congr_left fun spec _ => scenarioName_scenarioOf str base spec

theorem map_functionName (specs : List FunctionSpec) (app : String) (d : DeploymentResult) :
    (specs.map (functionOf (BenchmarkInputs.intentOf app d))).map (·.state.scenarioName str) =
      List.replicate specs.length none := by
  rw [List.map_map, List.eq_replicate_iff, List.length_map]
  refine ⟨rfl, fun name member => ?_⟩
  obtain ⟨spec, -, rfl⟩ := List.mem_map.mp member
  exact scenarioName_functionOf str app d spec

theorem isNone_shownName (spec : ScenarioSpec) : (spec.shownName str).isNone = !spec.name.truthy := by
  unfold ScenarioSpec.shownName
  cases spec.name.truthy <;> rfl

theorem expansionNames_spec (manifest : Option Manifest) (app : String) (d : DeploymentResult) :
    (expansionNames str manifest app d).countP (·.isNone) = unnamed manifest (BenchmarkInputs.chainOf d) ∧
      (expansionNames str manifest app d).reduceOption = named str manifest (BenchmarkInputs.chainOf d) := by
  cases manifest with
  | none => exact ⟨rfl, rfl⟩
  | some manifest =>
    unfold expansionNames enrich unnamed named
    have chain : (BenchmarkInputs.intentOf app d).state.chainId = BenchmarkInputs.chainOf d := rfl
    simp only [chain]
    by_cases expanded : manifest.applicable (BenchmarkInputs.chainOf d) = []
    · rw [if_neg (not_not.mpr expanded), if_neg (not_not.mpr expanded), expanded]
      by_cases functions : manifest.intentFunctions = []
      · rw [if_pos functions, functions]
        exact ⟨rfl, rfl⟩
      · rw [if_neg functions, map_functionName, List.countP_replicate,
          List.reduceOption_replicate_none, max_eq_right (List.length_pos_of_ne_nil functions)]
        exact ⟨rfl, rfl⟩
    · rw [if_pos expanded, if_pos expanded, map_shownName, List.countP_map]
      refine ⟨List.countP_congr fun spec _ => ?_, ?_⟩
      · rw [Function.comp_apply, isNone_shownName]
      · exact List.filterMap_map

end

namespace BenchmarkInputs

variable (b : BenchmarkInputs) (str : Value → String)

def appNames (app : String) : List (Option String) :=
  (b.loaded app).flatMap (expansionNames str (b.manifestOf app) app)

def drawnEntry (scenarioPrefix : String) (record : DrawnRecord) : Option (String × String) :=
  match record.appId, record.chainId with
  | some app, some _ =>
    if app ∈ b.store.apps ∧ app ≠ "" then some (app, scenarioPrefix ++ ":" ++ record.idText)
    else none
  | _, _ => none

def drawn (scenarioPrefix : String) (records : List DrawnRecord) : List (String × String) :=
  records.filterMap (b.drawnEntry scenarioPrefix)

def drawnNames : List (String × String) :=
  if b.orders = [] then []
  else b.drawn "hist" b.orders ++ if b.quoteCorpus then b.drawn "quote" b.quotes else []

theorem appId_enrich {manifest base s} (member : s ∈ enrich manifest base) :
    s.appId = base.appId := by
  unfold enrich at member
  split at member
  · rw [List.mem_singleton.mp member]
  · simp only at member
    split at member
    · obtain ⟨spec, -, rfl⟩ := List.mem_map.mp member
      rfl
    · split at member
      · rw [List.mem_singleton.mp member]
      · obtain ⟨spec, -, rfl⟩ := List.mem_map.mp member
        rfl

theorem labels_synthetic :
    (b.enrichIntentsWithManifests b.loadBenchmarkIntents).map (·.intentLabel str) =
      b.store.apps.flatMap fun app => (b.appNames str app).map (labelOf app) := by
  unfold enrichIntentsWithManifests loadBenchmarkIntents appNames expansionNames
  simp only [List.flatMap_assoc, List.flatMap_map, List.map_flatMap, List.map_map]
  refine List.flatMap_congr fun app _ => List.flatMap_congr fun d _ => ?_
  refine List.map_congr_left fun s member => ?_
  show labelOf s.appId _ = labelOf app _
  rw [appId_enrich member]
  rfl

theorem scenarioName_drawn (scenarioPrefix : String) (record : DrawnRecord) (state : ScenarioState)
    (control : state.control = (((Dict.empty.set "_scenario_name"
      (.str (scenarioPrefix ++ ":" ++ record.idText))).set "_intent_function" record.intentFunction).set
      "_original_block_number" record.blockNumber).set "_original_tx_hash" record.txHash) :
    state.scenarioName str = some (scenarioPrefix ++ ":" ++ record.idText) := by
  have kept : state.control.get? "_scenario_name" =
      some (.str (scenarioPrefix ++ ":" ++ record.idText)) := by
    rw [control, Dict.get?_set_ne _ _ (by decide), Dict.get?_set_ne _ _ (by decide),
      Dict.get?_set_ne _ _ (by decide), Dict.get?_set_self]
  have filled : (Value.str (scenarioPrefix ++ ":" ++ record.idText)).truthy = true := by
    simp only [Value.truthy, bne_iff_ne]
    intro empty
    have := congrArg String.length empty
    simp at this
  unfold ScenarioState.scenarioName
  simp [kept, filled, nameText]

theorem labels_drawn (scenarioPrefix : String) (records : List DrawnRecord) :
    (records.filterMap (b.orderToScenario scenarioPrefix)).map (·.intentLabel str) =
      (b.drawn scenarioPrefix records).map fun entry => labelOf entry.1 (some entry.2) := by
  unfold drawn
  rw [List.map_filterMap, List.map_filterMap]
  refine List.filterMap_congr fun record _ => ?_
  unfold orderToScenario drawnEntry
  cases record.appId with
  | none => rfl
  | some app =>
    cases record.chainId with
    | none => rfl
    | some chain =>
      by_cases known : app ∈ b.store.apps ∧ app ≠ ""
      · simp only [if_pos known, Option.map_some]
        refine congrArg some (congrArg (labelOf app) ?_)
        exact scenarioName_drawn str scenarioPrefix record _ rfl
      · simp only [if_neg known]
        rfl

theorem labels_benchmarkSet : b.benchmarkSet.map (·.intentLabel str) =
    (b.store.apps.flatMap fun app => (b.appNames str app).map (labelOf app)) ++
      b.drawnNames.map fun entry => labelOf entry.1 (some entry.2) := by
  unfold benchmarkSet loadHistoricalScenarios drawnNames
  rw [List.map_append, labels_synthetic]
  split
  · rfl
  · rw [List.map_append, List.map_append, labels_drawn]
    cases b.quoteCorpus with
    | true => rw [if_pos rfl, if_pos rfl, labels_drawn]
    | false => rfl

structure UniqueIds : Prop where
  orders : (b.orders.map (·.idText)).Nodup
  quotes : (b.quotes.map (·.idText)).Nodup

/-- Over its benchmarked deployments an app has at most one scenario without a name, no name
    twice, and no name that a drawn record of the app has. -/
structure LabelsApart : Prop where
  oneUnnamed : ∀ app ∈ b.store.apps,
    ((b.loaded app).map fun d => unnamed (b.manifestOf app) (chainOf d)).sum ≤ 1
  namedOnce : ∀ app ∈ b.store.apps,
    ((b.loaded app).flatMap fun d => named str (b.manifestOf app) (chainOf d)).Nodup
  notDrawn : ∀ app ∈ b.store.apps, ∀ d ∈ b.loaded app,
    ∀ name ∈ named str (b.manifestOf app) (chainOf d), (app, name) ∉ b.drawnNames

theorem reduceOption_appNames (app : String) : (b.appNames str app).reduceOption =
    (b.loaded app).flatMap fun d => named str (b.manifestOf app) (chainOf d) := by
  unfold appNames List.reduceOption
  rw [List.filterMap_flatMap]
  exact List.flatMap_congr fun d _ => (expansionNames_spec str (b.manifestOf app) app d).2

theorem some_mem_appNames {app name} : some name ∈ b.appNames str app ↔
    ∃ d ∈ b.loaded app, name ∈ named str (b.manifestOf app) (chainOf d) := by
  rw [← List.reduceOption_mem_iff, reduceOption_appNames, List.mem_flatMap]

theorem nodup_appNames (app : String) : (b.appNames str app).Nodup ↔
    ((b.loaded app).map fun d => unnamed (b.manifestOf app) (chainOf d)).sum ≤ 1 ∧
      ((b.loaded app).flatMap fun d => named str (b.manifestOf app) (chainOf d)).Nodup := by
  rw [nodup_options, reduceOption_appNames]
  unfold appNames
  rw [List.countP_flatMap]
  have counts : (b.loaded app).map (List.countP (·.isNone) ∘ expansionNames str (b.manifestOf app) app) =
      (b.loaded app).map fun d => unnamed (b.manifestOf app) (chainOf d) :=
    List.map_congr_left fun d _ => (expansionNames_spec str (b.manifestOf app) app d).1
  rw [counts]

theorem nodup_synthetic :
    (b.store.apps.flatMap fun app => (b.appNames str app).map (labelOf app)).Nodup ↔
      ∀ app ∈ b.store.apps, (b.appNames str app).Nodup := by
  have injective (app : String) (known : app ∈ b.store.apps) : Function.Injective (labelOf app) :=
    fun _ _ same => (labelOf_inj (b.store.noColon app known) (b.store.noColon app known) same).2
  have apart : b.store.apps.Pairwise
      (Function.onFun List.Disjoint fun app => (b.appNames str app).map (labelOf app)) := by
    refine b.store.distinct.imp_of_mem fun {app app'} known known' other label member member' => other ?_
    obtain ⟨name, -, rfl⟩ := List.mem_map.mp member
    obtain ⟨name', -, same⟩ := List.mem_map.mp member'
    exact (labelOf_inj (b.store.noColon app' known') (b.store.noColon app known) same).1.symm
  rw [List.nodup_flatMap]
  constructor
  · exact fun ⟨each, _⟩ app known => (List.nodup_map_iff (injective app known)).mp (each app known)
  · intro each
    refine ⟨fun app known => ?_, apart⟩
    exact (List.nodup_map_iff (injective app known)).mpr (each app known)

theorem drawnEntry_eq_some {scenarioPrefix record entry}
    (drew : b.drawnEntry scenarioPrefix record = some entry) :
    entry.1 ∈ b.store.apps ∧ entry.2 = scenarioPrefix ++ ":" ++ record.idText := by
  unfold drawnEntry at drew
  split at drew
  · split at drew
    next known =>
      cases drew
      exact ⟨known.1, rfl⟩
    · cases drew
  · cases drew

theorem pairwise_drawn {scenarioPrefix records} (unique : (records.map (·.idText)).Nodup) :
    (b.drawn scenarioPrefix records).Pairwise fun a c => a.2 ≠ c.2 := by
  unfold drawn
  rw [List.pairwise_filterMap]
  refine (List.pairwise_map.mp unique).imp fun {r r'} other entry drew entry' drew' same => other ?_
  rw [(b.drawnEntry_eq_some drew).2, (b.drawnEntry_eq_some drew').2] at same
  exact (String.append_right_inj _).mp same

theorem mem_drawnNames {entry} (member : entry ∈ b.drawnNames) :
    entry.1 ∈ b.store.apps := by
  unfold drawnNames at member
  split at member
  · cases member
  · cases List.mem_append.mp member with
    | inl order =>
      obtain ⟨record, -, drew⟩ := List.mem_filterMap.mp order
      exact (b.drawnEntry_eq_some drew).1
    | inr quote =>
      split at quote
      · obtain ⟨record, -, drew⟩ := List.mem_filterMap.mp quote
        exact (b.drawnEntry_eq_some drew).1
      · cases quote

/-- An order and a quote never have one name. -/
theorem hist_ne_quote (id id' : String) : "hist:" ++ id ≠ "quote:" ++ id' := by
  intro same
  have chars := congrArg String.toList same
  simp at chars

theorem pairwise_drawnNames (unique : b.UniqueIds) :
    b.drawnNames.Pairwise fun a c => a.2 ≠ c.2 := by
  unfold drawnNames
  split
  · exact .nil
  · cases b.quoteCorpus with
    | false => exact List.append_nil _ ▸ b.pairwise_drawn unique.orders
    | true =>
      rw [if_pos rfl, List.pairwise_append]
      refine ⟨b.pairwise_drawn unique.orders, b.pairwise_drawn unique.quotes, ?_⟩
      intro entry member entry' member' same
      obtain ⟨order, -, drew⟩ := List.mem_filterMap.mp member
      obtain ⟨quote, -, drew'⟩ := List.mem_filterMap.mp member'
      rw [(b.drawnEntry_eq_some drew).2, (b.drawnEntry_eq_some drew').2] at same
      exact hist_ne_quote order.idText quote.idText same

theorem nodup_drawnLabels (unique : b.UniqueIds) :
    (b.drawnNames.map fun entry => labelOf entry.1 (some entry.2)).Nodup := by
  refine List.pairwise_map.mpr ((b.pairwise_drawnNames unique).imp_of_mem ?_)
  intro entry entry' member member' other same
  have names := (labelOf_inj (b.store.noColon _ (b.mem_drawnNames member))
    (b.store.noColon _ (b.mem_drawnNames member')) same).2
  exact other (Option.some.inj names)

theorem nodup_labels (unique : b.UniqueIds) :
    (b.benchmarkSet.map (·.intentLabel str)).Nodup ↔ b.LabelsApart str := by
  rw [labels_benchmarkSet, List.nodup_append, nodup_synthetic]
  constructor
  · rintro ⟨each, -, apart⟩
    refine ⟨fun app known => ((b.nodup_appNames str app).mp (each app known)).1,
      fun app known => ((b.nodup_appNames str app).mp (each app known)).2, ?_⟩
    intro app known d loaded name member drew
    have synthetic : labelOf app (some name) ∈ (b.appNames str app).map (labelOf app) :=
      List.mem_map_of_mem ((b.some_mem_appNames str).mpr ⟨d, loaded, member⟩)
    exact apart _ (List.mem_flatMap.mpr ⟨app, known, synthetic⟩) _
      (List.mem_map.mpr ⟨(app, name), drew, rfl⟩) rfl
  · intro apart
    refine ⟨fun app known => (b.nodup_appNames str app).mpr
      ⟨apart.oneUnnamed app known, apart.namedOnce app known⟩, b.nodup_drawnLabels unique, ?_⟩
    intro label member label' member' same
    obtain ⟨app, known, synthetic⟩ := List.mem_flatMap.mp member
    obtain ⟨name, shown, rfl⟩ := List.mem_map.mp synthetic
    obtain ⟨⟨app', name'⟩, drew, rfl⟩ := List.mem_map.mp member'
    obtain ⟨rfl, rfl⟩ := labelOf_inj (b.store.noColon app known)
      (b.store.noColon _ (b.mem_drawnNames drew)) same
    obtain ⟨d, loaded, listed⟩ := (b.some_mem_appNames str).mp shown
    exact apart.notDrawn app known d loaded name' listed drew

end BenchmarkInputs

def Labelled (labels : List String) (rows : List Row) : Prop := rows.map (·.intentId) = labels.map some

def delivers (row : Row) : Bool := hasValue (parseOutput (rawOutput (some row)))

/-- No scenario is lost: the labels are distinct, the join keeps every row, and a challenger that
    does not deliver where the champion does is never adopted. -/
structure NothingLost (labels : List String) : Prop where
  distinct : labels.Nodup
  joined : ∀ rows, Labelled labels rows → ∀ row ∈ rows, ∃ label ∈ labels,
    row.intentId = some label ∧ (byIntent rows).get? label = some row
  vetoed : ∀ champion challenger, Labelled labels champion → Labelled labels challenger →
    ∀ (i : Nat) (champRow chalRow : Row), champion[i]? = some champRow → challenger[i]? = some chalRow →
      delivers champRow = true → delivers chalRow = false →
        ∀ championBar barAgeS factorDelta deadwoodDelta,
          adopts (evaluateRelativeAdoption champion challenger relativeTolBps championBar barAgeS
            factorDelta deadwoodDelta) = false

variable {labels : List String}

theorem lastRow_of_mem (distinct : labels.Nodup) {rows : List Row} (labelled : Labelled labels rows)
    {row : Row} (member : row ∈ rows) {label : String}
    (own : row.intentId = some label) : lastRow rows label = some row := by
  have ids : (rows.map (·.intentId)).Nodup := by
    rw [labelled]
    exact distinct.map (Option.some_injective _)
  obtain ⟨found, last⟩ : ∃ found, lastRow rows label = some found := by
    apply Option.isSome_iff_exists.mp
    rw [← mem_mentioned, mentioned, List.mem_toFinset, List.mem_filterMap]
    exact ⟨row, member, own⟩
  have there : found ∈ rows := List.mem_reverse.mp (List.mem_of_find?_eq_some last)
  have same : found.intentId = some label := by simpa using List.find?_some last
  rw [last, List.inj_on_of_nodup_map ids there member (same.trans own.symm)]

theorem hasValue_delivered (distinct : labels.Nodup) {rows : List Row}
    (labelled : Labelled labels rows) {row : Row} (member : row ∈ rows) {label : String}
    (own : row.intentId = some label) : hasValue (delivered rows label) = delivers row := by
  rw [delivered, lastRow_of_mem distinct labelled member own, delivers]

theorem label_of_getElem? {rows : List Row} (labelled : Labelled labels rows) {i : Nat} {row : Row}
    (found : rows[i]? = some row) :
    ∃ label, labels[i]? = some label ∧ row.intentId = some label := by
  have ids := congrArg (·[i]?) labelled
  simp only [List.getElem?_map, found, Option.map_some] at ids
  obtain ⟨label, there, own⟩ := Option.map_eq_some_iff.mp ids.symm
  exact ⟨label, there, own.symm⟩

theorem nothingLost_of_nodup (distinct : labels.Nodup) : NothingLost labels where
  distinct := distinct
  joined rows labelled row member := by
    obtain ⟨i, found⟩ := List.mem_iff_getElem?.mp member
    obtain ⟨label, there, own⟩ := label_of_getElem? labelled found
    exact ⟨label, List.mem_of_getElem? there, own, (byIntent_get? rows label).trans
      (lastRow_of_mem distinct labelled member own)⟩
  vetoed champion challenger champLabelled chalLabelled i champRow chalRow champFound chalFound served
      failed championBar barAgeS factorDelta deadwoodDelta := by
    obtain ⟨label, there, champOwn⟩ := label_of_getElem? champLabelled champFound
    obtain ⟨label', there', chalOwn⟩ := label_of_getElem? chalLabelled chalFound
    obtain rfl : label = label' := Option.some.inj (there.symm.trans there')
    rw [Bool.eq_false_iff]
    intro adopted
    have champion_delivers :=
      hasValue_delivered distinct champLabelled (List.mem_of_getElem? champFound) champOwn
    have challenger_fails :=
      hasValue_delivered distinct chalLabelled (List.mem_of_getElem? chalFound) chalOwn
    have kept := not_dropped_of_adopts adopted (champion_delivers.trans served)
    rw [challenger_fails, failed] at kept
    cases kept

/-- No scenario is lost exactly if the scenarios of each app have names of their own. -/
theorem nothingLost_iff (b : BenchmarkInputs) (str : Value → String) (unique : b.UniqueIds) :
    NothingLost (b.benchmarkSet.map (·.intentLabel str)) ↔ b.LabelsApart str :=
  ⟨fun kept => (b.nodup_labels str unique).mp kept.distinct,
    fun apart => nothingLost_of_nodup ((b.nodup_labels str unique).mpr apart)⟩

def oneApp : AppStore where
  apps := ["app_a"]
  distinct := by decide
  noColon := by decide
  deployments _ := Dict.empty.set 8453
    { status := .solved, contractAddress := some "0xaa", chainId := 8453 }

def benchmarkOf (manifest : Manifest) (orders : List DrawnRecord) : BenchmarkInputs where
  store := oneApp
  engine := some fun _ => some manifest
  allChains := true
  atEpoch := none
  deploymentStatuses := none
  orders := orders
  quotes := []
  quoteCorpus := false

def twoFunctions : Manifest where
  intentFunctions := [{ name := .str "swap" }, { name := .str "limit" }]

theorem failed_function_hidden : ¬ ∀ (b : BenchmarkInputs) (str : Value → String), b.UniqueIds →
    NothingLost (b.benchmarkSet.map (·.intentLabel str)) := by
  intro kept
  have lost := kept (benchmarkOf twoFunctions []) (fun _ => "") ⟨List.nodup_nil, List.nodup_nil⟩
  -- the challenger fails the swap and does better on the limit order
  have vetoed := lost.vetoed
    [{ intentId := some "app_a", rawOutput := .str "1000" },
      { intentId := some "app_a", rawOutput := .str "1000" }]
    [{ intentId := some "app_a" }, { intentId := some "app_a", rawOutput := .str "1100" }]
    rfl rfl 0 _ _ rfl rfl (by decide) (by decide) none none 0 0
  revert vetoed
  decide

def twoScenarios : Manifest where
  benchmarkScenarios := [{ name := .str "small", intentFunction := .str "swap" },
    { name := .str "large", chains := some [1, 8453], intentFunction := .str "swap" }]

theorem named_scenarios_kept :
    let b := benchmarkOf twoScenarios
      [{ orderId := some "o_1", appId := some "app_a", chainId := some 8453 }]
    b.benchmarkSet.map (·.intentLabel fun _ => "") =
        ["app_a:small", "app_a:large", "app_a:hist:o_1"] ∧
      NothingLost (b.benchmarkSet.map (·.intentLabel fun _ => "")) := by
  intro b
  exact ⟨by decide, (nothingLost_iff b (fun _ => "") ⟨by decide, by decide⟩).mpr
    ⟨by decide, by decide, by decide⟩⟩

end MinotaurSubnet.Harness
