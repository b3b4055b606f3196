import MinotaurSubnet.Harness.OrderSampler

/-! # One draw for the whole fleet

Two nodes with the same eligible rows draw the same list, however their stores list them: the rows
of one trade are told apart by rank and id, the chains are taken in order, and each chain is
sampled from its rows in order of their ids.
-/

namespace MinotaurSubnet.Harness

open Library Python

structure DrawCall where
  view : AppsView
  listed : Option (List OrderRecord)
  options : DrawOptions := {}

def DrawCall.Keyed (call : DrawCall) (id : OrderRecord → String) : Prop :=
  ∀ rows, (call.options.records <|> call.listed) = some rows → (rows.map id).Nodup

def SameRows (rows rows' : List OrderRecord) : Prop := ∀ row, row ∈ rows ↔ row ∈ rows'

section

variable {σ : Type} (host : PackHost σ)

structure RepresentativeDraw (nPerChain : Nat) (eligible drawn : List OrderRecord) : Prop where
  best : ∀ row ∈ drawn, ∃ order ∈ eligible, order.stripPii = row ∧ ∀ other ∈ eligible,
    dedupKey host other = dedupKey host order → representativeRank host order ≤ representativeRank host other
  distinct : (drawn.map (dedupKey host)).Nodup
  perChain : ∀ chain, (drawn.filter (·.chainId = chain)).length ≤ nPerChain

variable {host} {eligible eligible' : List OrderRecord}

theorem eq_of_representativeRank (keyed : (eligible.map (·.orderId.getD "")).Nodup) {a b}
    (inside : a ∈ eligible) (inside' : b ∈ eligible)
    (same : representativeRank host a = representativeRank host b) : a = b :=
  List.inj_on_of_nodup_map keyed inside inside' (congrArg (fun rank => (ofLex rank).2) same)

theorem dedupCandidates_perm (keyed : (eligible.map (·.orderId.getD "")).Nodup)
    (same : SameRows eligible eligible') :
    (dedupCandidates host eligible).Perm (dedupCandidates host eligible') :=
  bestPerKey_perm (fun _ inside _ inside' _ => eq_of_representativeRank keyed inside inside') same

theorem dedupCandidates_keyed (keyed : (eligible.map (·.orderId.getD "")).Nodup) :
    ((dedupCandidates host eligible).map (·.orderId.getD "")).Nodup := by
  have distinct : (dedupCandidates host eligible).Nodup := (bestPerKey_keys_nodup eligible).of_map
  refine distinct.map_on fun a inside b inside' same => ?_
  exact List.inj_on_of_nodup_map keyed (mem_dedupCandidates inside) (mem_dedupCandidates inside') same

theorem sampleChain_perm {nPerChain candidates candidates'}
    (keyed : (candidates.map (·.orderId.getD "")).Nodup) (perm : candidates.Perm candidates') :
    sampleChain host nPerChain candidates = sampleChain host nPerChain candidates' := by
  funext before chain
  have onChain : sortedBy (·.orderId.getD "") (candidates.filter (·.chainId = some chain)) =
      sortedBy (·.orderId.getD "") (candidates'.filter (·.chainId = some chain)) :=
    sortedBy_eq_of_perm (keyed.sublist ((List.filter_sublist).map _)) (perm.filter _)
  unfold sampleChain
  rw [onChain]

theorem sampleByChain_perm {seedText nPerChain candidates candidates'}
    (keyed : (candidates.map (·.orderId.getD "")).Nodup) (perm : candidates.Perm candidates') :
    sampleByChain host seedText nPerChain candidates =
      sampleByChain host seedText nPerChain candidates' := by
  have chains : sortedBy id (candidates.filterMap (·.chainId)).dedup =
      sortedBy id (candidates'.filterMap (·.chainId)).dedup :=
    sortedBy_id_eq_of_perm (perm.filterMap _).dedup
  unfold sampleByChain
  rw [sampleChain_perm keyed perm, chains]

theorem representativeDraw (seedText : String) (nPerChain : Nat) (eligible : List OrderRecord) :
    RepresentativeDraw host nPerChain eligible
      (sampleByChain host seedText nPerChain (dedupCandidates host eligible)) := by
  obtain ⟨drawn, done, sound, spelled⟩ :=
    @sampleByChain_drawn _ host seedText nPerChain (dedupCandidates host eligible)
  rw [spelled]
  have keys : ((dedupCandidates host eligible).map (dedupKey host)).Nodup := bestPerKey_keys_nodup eligible
  refine ⟨fun row inside => ?_, ?_, fun chain => ?_⟩
  · obtain ⟨order, chosen, rfl⟩ := List.mem_map.mp inside
    have kept := sound.listed order chosen
    exact ⟨order, mem_dedupCandidates kept, rfl, fun other listed same =>
      rank_le_of_mem_bestPerKey kept listed same⟩
  · rw [List.map_map]
    refine (sound.distinct keys.of_map).map_on fun a chosen b chosen' same => ?_
    exact List.inj_on_of_nodup_map keys (sound.listed a chosen) (sound.listed b chosen') same
  · rw [List.filter_map, List.length_map]
    cases chain with
    | some chain => exact sound.perChain chain
    | none =>
      -- a row without a chain is in no group
      have unplaced : drawn.filter ((fun row : OrderRecord => decide (row.chainId = none)) ∘
          OrderRecord.stripPii) = [] := by
        refine List.filter_eq_nil_iff.mpr fun order chosen => ?_
        obtain ⟨chain, -, on⟩ := sound.onChain order chosen
        simp [on]
      rw [unplaced]
      exact Nat.zero_le _

end

theorem asOrder_orderId {quote order : OrderRecord} (shape : quote.asOrder = some order) :
    order.orderId.getD "" = quote.quoteId.getD "" := by
  unfold OrderRecord.asOrder at shape
  split at shape
  · cases shape
  · cases shape
  · next named =>
      cases shape
      rw [named]

theorem asOrders_ids (quotes : List OrderRecord) :
    ((quotes.filterMap (·.asOrder)).map (·.orderId.getD "")).Sublist
      (quotes.map (·.quoteId.getD "")) := by
  induction quotes with
  | nil => exact .slnil
  | cons quote rest ih =>
    rw [List.filterMap_cons]
    split
    · exact ih.cons _
    · next order shape =>
        rw [List.map_cons, List.map_cons, asOrder_orderId shape]
        exact ih.cons_cons _

section

variable {σ : Type} {host : PackHost σ} {included excluded : Option (List String)}
  {chainIds : Option (List Int)} {retired : List (String × Int)}

theorem filterCandidates_keyed {orders} (keyed : (orders.map (·.orderId.getD "")).Nodup) :
    ((filterCandidates host orders included excluded chainIds retired).map (·.orderId.getD "")).Nodup :=
  keyed.sublist (List.filter_sublist.map _)

theorem filterQuotes_keyed {quotes : List OrderRecord} (keyed : (quotes.map (·.quoteId.getD "")).Nodup)
    (atEpoch : Option Int) :
    ((filterCandidates host ((quotes.filter (·.inWindow atEpoch)).filterMap (·.asOrder)) included excluded
      chainIds retired).map (·.orderId.getD "")).Nodup := by
  have windowed : ((quotes.filter (·.inWindow atEpoch)).map (·.quoteId.getD "")).Nodup :=
    keyed.sublist (List.filter_sublist.map _)
  exact filterCandidates_keyed (windowed.sublist (asOrders_ids _))

end

namespace DrawCall

variable {σ : Type} (call : DrawCall) (host : PackHost σ) (roundId : String)

def eligibleOrders : Option (List OrderRecord) :=
  Harness.eligibleOrders host call.view call.listed roundId call.options

def eligibleQuotes : Option (List OrderRecord) :=
  Harness.eligibleQuotes host call.view call.listed roundId call.options

def sampleHistoricalOrders : Option (List OrderRecord) :=
  Harness.sampleHistoricalOrders host call.view call.listed roundId call.options

def sampleHistoricalQuotes : Option (List OrderRecord) :=
  Harness.sampleHistoricalQuotes host call.view call.listed roundId call.options

variable {call host roundId}

theorem sampleHistoricalOrders_eq : call.sampleHistoricalOrders host roundId =
    (call.eligibleOrders host roundId).map fun eligible =>
      sampleByChain host roundId call.options.nPerChain (dedupCandidates host eligible) :=
  rfl

theorem sampleHistoricalQuotes_eq : call.sampleHistoricalQuotes host roundId =
    (call.eligibleQuotes host roundId).map fun eligible =>
      sampleByChain host (roundId ++ ":quotes") call.options.nPerChain (dedupCandidates host eligible) := by
  unfold DrawCall.sampleHistoricalQuotes Harness.sampleHistoricalQuotes quoteCandidates
  rw [Option.map_map]
  rfl

theorem Keyed.eligibleOrders (keyed : call.Keyed (·.orderId.getD "")) {eligible : List OrderRecord}
    (drawable : call.eligibleOrders host roundId = some eligible) :
    (eligible.map (·.orderId.getD "")).Nodup := by
  unfold DrawCall.eligibleOrders Harness.eligibleOrders at drawable
  split at drawable
  · cases drawable
    exact .nil
  · next rows read =>
      obtain ⟨retired, -, rfl⟩ := Option.map_eq_some_iff.mp drawable
      exact filterCandidates_keyed (keyed rows read)

theorem Keyed.eligibleQuotes (keyed : call.Keyed (·.quoteId.getD "")) {eligible : List OrderRecord}
    (drawable : call.eligibleQuotes host roundId = some eligible) :
    (eligible.map (·.orderId.getD "")).Nodup := by
  unfold DrawCall.eligibleQuotes Harness.eligibleQuotes at drawable
  split at drawable
  · cases drawable
    exact .nil
  · next rows read =>
      simp only [Option.bind_eq_bind, Option.bind_eq_some_iff, Option.pure_def, Option.some.injEq]
        at drawable
      obtain ⟨epoch, -, retired, -, rfl⟩ := drawable
      exact filterQuotes_keyed (keyed rows read) epoch

end DrawCall

theorem draw_shared {σ : Type} {host : PackHost σ} {seedText : String} {nPerChain : Nat}
    {eligible eligible' : Option (List OrderRecord)}
    (keyed : ∀ rows, eligible = some rows → (rows.map (·.orderId.getD "")).Nodup)
    (same : Option.Rel SameRows eligible eligible') :
    (eligible.map fun rows => sampleByChain host seedText nPerChain (dedupCandidates host rows)) =
      eligible'.map fun rows => sampleByChain host seedText nPerChain (dedupCandidates host rows) := by
  cases same with
  | none => rfl
  | some agreed =>
    have distinct := keyed _ rfl
    rw [Option.map_some, Option.map_some, sampleByChain_perm (dedupCandidates_keyed distinct)
      (dedupCandidates_perm distinct agreed)]

/-- Nodes with the same eligible rows draw the same lists of representatives. -/
theorem historical_draws_shared {σ : Type} (host : PackHost σ) (roundId : String) {n m : DrawCall}
    (size : n.options.nPerChain = m.options.nPerChain) :
    (n.Keyed (·.orderId.getD "") →
      Option.Rel SameRows (n.eligibleOrders host roundId) (m.eligibleOrders host roundId) →
        n.sampleHistoricalOrders host roundId = m.sampleHistoricalOrders host roundId ∧
        Option.Rel (RepresentativeDraw host n.options.nPerChain) (n.eligibleOrders host roundId)
          (n.sampleHistoricalOrders host roundId)) ∧
    (n.Keyed (·.quoteId.getD "") →
      Option.Rel SameRows (n.eligibleQuotes host roundId) (m.eligibleQuotes host roundId) →
        n.sampleHistoricalQuotes host roundId = m.sampleHistoricalQuotes host roundId ∧
        Option.Rel (RepresentativeDraw host n.options.nPerChain) (n.eligibleQuotes host roundId)
          (n.sampleHistoricalQuotes host roundId)) := by
  have representative (seedText : String) (eligible : Option (List OrderRecord)) :
      Option.Rel (RepresentativeDraw host n.options.nPerChain) eligible (eligible.map fun rows =>
        sampleByChain host seedText n.options.nPerChain (dedupCandidates host rows)) := by
    cases eligible with
    | none => exact .none
    | some rows => exact .some (representativeDraw seedText _ rows)
  constructor
  · intro keyed same
    rw [DrawCall.sampleHistoricalOrders_eq, DrawCall.sampleHistoricalOrders_eq, ← size]
    exact ⟨draw_shared (fun _ => keyed.eligibleOrders) same, representative _ _⟩
  · intro keyed same
    rw [DrawCall.sampleHistoricalQuotes_eq, DrawCall.sampleHistoricalQuotes_eq, ← size]
    exact ⟨draw_shared (fun _ => keyed.eligibleQuotes) same, representative _ _⟩

section

def swapRow (id status : String) : OrderRecord where
  orderId := some id
  quoteId := some id
  status := status
  appId := some "dex"
  chainId := some 1
  capturedOpenedEpoch := some 4

def listing (rows : List OrderRecord) : DrawCall where
  view := { listApps := some [], getDeployments := fun _ => none }
  listed := some rows

/-- The filled order stands for the trade, whatever else is listed and in whatever order. -/
theorem historical_draws_relisted :
    (listing [swapRow "a" "expired", swapRow "b" "filled", swapRow "c" "open"]).sampleHistoricalOrders
        plainPackHost "round-e5-n1" =
      (listing [swapRow "b" "filled", swapRow "a" "expired"]).sampleHistoricalOrders plainPackHost
        "round-e5-n1" ∧
    (listing [swapRow "a" "", swapRow "b" ""]).sampleHistoricalQuotes plainPackHost "round-e5-n1" =
      (listing [swapRow "b" "", swapRow "a" ""]).sampleHistoricalQuotes plainPackHost "round-e5-n1" := by
  have orders : Option.Rel SameRows
      ((listing [swapRow "a" "expired", swapRow "b" "filled", swapRow "c" "open"]).eligibleOrders
        plainPackHost "round-e5-n1")
      ((listing [swapRow "b" "filled", swapRow "a" "expired"]).eligibleOrders plainPackHost
        "round-e5-n1") := by
    show Option.Rel SameRows (some [swapRow "a" "expired", swapRow "b" "filled"])
      (some [swapRow "b" "filled", swapRow "a" "expired"])
    exact .some fun row => by simp [or_comm]
  have quotes : Option.Rel SameRows
      ((listing [swapRow "a" "", swapRow "b" ""]).eligibleQuotes plainPackHost "round-e5-n1")
      ((listing [swapRow "b" "", swapRow "a" ""]).eligibleQuotes plainPackHost "round-e5-n1") := by
    show Option.Rel SameRows (some [swapRow "a" "", swapRow "b" ""])
      (some [swapRow "b" "", swapRow "a" ""])
    exact .some fun row => by simp [or_comm]
  have keyed : (listing [swapRow "a" "expired", swapRow "b" "filled", swapRow "c" "open"]).Keyed
      (·.orderId.getD "") := by
    rintro rows ⟨⟩
    decide
  have keyed' : (listing [swapRow "a" "", swapRow "b" ""]).Keyed (·.quoteId.getD "") := by
    rintro rows ⟨⟩
    decide
  constructor
  · exact ((historical_draws_shared plainPackHost "round-e5-n1" (by rfl)).1 keyed orders).1
  · exact ((historical_draws_shared plainPackHost "round-e5-n1" (by rfl)).2 keyed' quotes).1

end

end MinotaurSubnet.Harness
