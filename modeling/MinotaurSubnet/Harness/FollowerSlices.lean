import MinotaurSubnet.Harness.SharedDraw
import MinotaurSubnet.Library.UpToOrder

/-! # The slices of the followers

`partition_follower_slices`: what the canonical draws leave over is shuffled and cut into slices
of one chain each. Quotes are merged in after the function has already returned when no order is
eligible.
-/

namespace MinotaurSubnet.Harness

open Library

/-- `str` of a chain id. -/
def chainText : Option Int → String
  | none => "None"
  | some chain => toString chain

section

variable {σ : Type} (host : PackHost σ)

def slicesOf (roundId : String) (sliceSize : Nat) (remainder : List OrderRecord) :
    List (List OrderRecord) :=
  let sorted := sortedBy (·.orderId.getD "") remainder
  let shuffled := picked sorted (host.shuffle (host.seed (roundId ++ ":veto-slices")) sorted.length)
  let chains := sortedBy chainText (shuffled.map (·.chainId)).dedup
  let perChain := chains.map fun chain => chunks sliceSize (shuffled.filter (·.chainId = chain))
  (dealt perChain).map fun slice => slice.map (·.stripPii)

def outside (drawn candidates : List OrderRecord) : List OrderRecord :=
  candidates.filter fun order => !(drawn.map (·.orderId)).contains order.orderId

def quoteRemainder (view : AppsView) (listedQuotes : Option (List OrderRecord)) (roundId : String)
    (chainIds : List Int) (retired : List (String × Int)) : Option (List OrderRecord) := do
  let quotes := listedQuotes.getD []
  let candidates ← quoteCandidates host view listedQuotes roundId
    { chainIds := some chainIds, records := some quotes, excludeAppChains := some retired }
  let drawn ← sampleHistoricalQuotes host view listedQuotes roundId
    { records := some quotes, excludeAppChains := some retired }
  return outside drawn candidates

/-- `none` when it raises: no chain is given, or the round id cannot be read. -/
def partitionFollowerSlices (quoteCorpusEnabled : Bool) (view : AppsView)
    (listedOrders listedQuotes : Option (List OrderRecord)) (roundId : String) (chainIds : List Int)
    (sliceSize : Nat) (records : Option (List OrderRecord)) : Option (List (List OrderRecord)) :=
  if chainIds = [] then none else
  match records <|> listedOrders with
  | none => some []
  | some orders => do
      let retired := retiredAppChainKeys view (← openedEpochFromRoundId roundId)
      let eligible := filterCandidates host orders (some terminalDemand) none (some chainIds) retired
      if eligible.isEmpty then return []
      let drawn ← sampleHistoricalOrders host view listedOrders roundId
        { records := some orders, excludeAppChains := some retired }
      let remainder := outside drawn (dedupCandidates host eligible)
      let quotes ← if quoteCorpusEnabled then
          quoteRemainder host view listedQuotes roundId chainIds retired
        else some []
      return slicesOf host roundId sliceSize (remainder ++ quotes)

end

structure SlicePartition (sliceSize : Nat) (chainIds : List Int) (remainder : List OrderRecord)
    (slices : List (List OrderRecord)) : Prop where
  disjoint : (slices.flatten.map (·.orderId)).Nodup
  inhabited : ∀ slice ∈ slices, slice ≠ []
  oneChain : ∀ slice ∈ slices, ∃ chain ∈ chainIds, ∀ order ∈ slice, order.chainId = some chain
  short : ∀ slice ∈ slices, slice.length ≤ sliceSize
  covers : ∀ order, order ∈ slices.flatten ↔ order ∈ remainder.map (·.stripPii)

section

variable {σ : Type} (host : PackHost σ) {roundId : String} {sliceSize : Nat} {chainIds : List Int}
  {remainder : List OrderRecord}

theorem orderIds_nodup {rows : List OrderRecord} (keyed : (rows.map (·.orderId.getD "")).Nodup) :
    (rows.map (·.orderId)).Nodup := by
  have spelled : rows.map (·.orderId.getD "") = (rows.map (·.orderId)).map (·.getD "") := by
    rw [List.map_map]
    rfl
  rw [spelled] at keyed
  exact keyed.of_map

theorem slicesOf_perm {remainder'} (keyed : (remainder.map (·.orderId.getD "")).Nodup)
    (perm : remainder.Perm remainder') :
    slicesOf host roundId sliceSize remainder = slicesOf host roundId sliceSize remainder' := by
  unfold slicesOf
  rw [sortedBy_eq_of_perm keyed perm]

theorem slicesOf_flatten (positive : 0 < sliceSize) :
    (slicesOf host roundId sliceSize remainder).flatten.Perm (remainder.map (·.stripPii)) := by
  let sorted := sortedBy (·.orderId.getD "") remainder
  let shuffled := picked sorted (host.shuffle (host.seed (roundId ++ ":veto-slices")) sorted.length)
  let chains := sortedBy chainText (shuffled.map (·.chainId)).dedup
  let column (chain : Option Int) := shuffled.filter (·.chainId = chain)
  have whole : shuffled.Perm remainder :=
    (picked_perm (host.shuffle_perm _ _)).trans (sortedBy_perm _ _)
  have distinct : chains.Nodup := (sortedBy_perm _ _).nodup_iff.mpr (List.nodup_dedup _)
  have placed : ∀ order ∈ shuffled, order.chainId ∈ chains := fun order inside =>
    mem_sortedBy.mpr (List.mem_dedup.mpr (List.mem_map_of_mem inside))
  have columns : (chains.map fun chain => chunks sliceSize (column chain)).flatten.flatten =
      chains.flatMap column := by
    rw [← List.flatMap_def, List.flatMap_def, List.flatten_flatten, List.map_map, List.flatMap_def]
    congr 1
    exact List.map_congr_left fun chain _ => chunks_flatten positive (column chain)
  have dealtAll : (dealt (chains.map fun chain => chunks sliceSize (column chain))).flatten.Perm
      remainder := by
    refine (dealt_perm _).flatten.trans ?_
    rw [columns]
    exact (flatMap_filter_perm distinct placed).trans whole
  show ((dealt (chains.map fun chain => chunks sliceSize (column chain))).map
    (List.map OrderRecord.stripPii)).flatten.Perm _
  rw [← List.map_flatten]
  exact dealtAll.map _

theorem mem_slicesOf {slice} (inside : slice ∈ slicesOf host roundId sliceSize remainder) :
    ∃ chain rows chunk, (∀ order ∈ rows, order ∈ remainder ∧ order.chainId = chain) ∧
      chunk ∈ chunks sliceSize rows ∧ slice = chunk.map (·.stripPii) := by
  obtain ⟨chunk, dealtOut, rfl⟩ := List.mem_map.mp inside
  obtain ⟨column, listed, cut⟩ := List.mem_flatten.mp ((dealt_perm _).mem_iff.mp dealtOut)
  obtain ⟨chain, -, rfl⟩ := List.mem_map.mp listed
  refine ⟨chain, _, chunk, fun order onChain => ?_, cut, rfl⟩
  obtain ⟨shuffled, here⟩ := List.mem_filter.mp onChain
  exact ⟨mem_sortedBy.mp (mem_of_mem_picked shuffled), of_decide_eq_true here⟩

theorem slicesOf_partition (positive : 0 < sliceSize)
    (keyed : (remainder.map (·.orderId.getD "")).Nodup)
    (onChains : ∀ order ∈ remainder, ∃ chain ∈ chainIds, order.chainId = some chain) :
    SlicePartition sliceSize chainIds remainder (slicesOf host roundId sliceSize remainder) where
  disjoint := by
    have ids : (slicesOf host roundId sliceSize remainder).flatten.map (·.orderId) |>.Perm
        (remainder.map (·.orderId)) := by
      refine ((slicesOf_flatten host positive).map _).trans (.of_eq ?_)
      rw [List.map_map]
      rfl
    exact ids.nodup_iff.mpr (orderIds_nodup keyed)
  inhabited slice inside := by
    obtain ⟨_, rows, chunk, -, cut, rfl⟩ := mem_slicesOf host inside
    exact List.map_eq_nil_iff.not.mpr (chunks_bounds positive rows chunk cut).1
  oneChain slice inside := by
    obtain ⟨chain, rows, chunk, same, cut, rfl⟩ := mem_slicesOf host inside
    have member {order : OrderRecord} (here : order ∈ chunk) : order ∈ rows := by
      rw [← chunks_flatten positive rows]
      exact List.mem_flatten_of_mem cut here
    obtain ⟨first, here⟩ := List.exists_mem_of_ne_nil _ (chunks_bounds positive rows chunk cut).1
    obtain ⟨chain', given, on⟩ := onChains first (same first (member here)).1
    refine ⟨chain', given, fun order inChunk => ?_⟩
    obtain ⟨order, here', rfl⟩ := List.mem_map.mp inChunk
    exact (same order (member here')).2.trans ((same first (member here)).2.symm.trans on)
  short slice inside := by
    obtain ⟨_, rows, chunk, -, cut, rfl⟩ := mem_slicesOf host inside
    rw [List.length_map]
    exact (chunks_bounds positive rows chunk cut).2
  covers order := (slicesOf_flatten host positive).mem_iff

end

structure SliceStore where
  view : AppsView
  orders : List OrderRecord
  quotes : List OrderRecord
  keyed : (orders.map (·.orderId.getD "") ++ quotes.map (·.quoteId.getD "")).Nodup

theorem chain_of_filterCandidates {σ : Type} {host : PackHost σ} {orders : List OrderRecord}
    {included : Option (List String)} {chainIds : List Int} {retired : List (String × Int)}
    {order : OrderRecord}
    (inside : order ∈ filterCandidates host orders included none (some chainIds) retired) :
    ∃ chain ∈ chainIds, order.chainId = some chain := by
  have kept := (List.mem_filter.mp inside).2
  simp only [Option.all_some, Bool.and_eq_true, Option.any_eq_true, List.contains_iff_mem] at kept
  obtain ⟨chain, placed, given⟩ := kept.1.2
  exact ⟨chain, given, placed⟩

theorem mem_outside {drawn candidates : List OrderRecord} {row : OrderRecord} :
    row ∈ outside drawn candidates ↔ row ∈ candidates ∧ row.orderId ∉ drawn.map (·.orderId) := by
  simp [outside]

namespace SliceStore

theorem orders_keyed (store : SliceStore) : (store.orders.map (·.orderId.getD "")).Nodup :=
  (List.nodup_append.mp store.keyed).1

theorem quotes_keyed (store : SliceStore) : (store.quotes.map (·.quoteId.getD "")).Nodup :=
  (List.nodup_append.mp store.keyed).2.1

theorem orderId_ne_quoteId {store : SliceStore} {order quote : OrderRecord}
    (listed : order ∈ store.orders) (listed' : quote ∈ store.quotes) :
    order.orderId.getD "" ≠ quote.quoteId.getD "" :=
  (List.nodup_append.mp store.keyed).2.2 _ (List.mem_map_of_mem listed) _ (List.mem_map_of_mem listed')

variable {σ : Type} (store : SliceStore) (host : PackHost σ) (roundId : String)
  (chainIds : List Int)

def eligible : List OrderRecord :=
  (eligibleOrders host store.view (some store.orders) roundId { chainIds := some chainIds }).getD []

def orderDraw : List OrderRecord :=
  (sampleHistoricalOrders host store.view (some store.orders) roundId {}).getD []

def quoteDraw : List OrderRecord :=
  (sampleHistoricalQuotes host store.view (some store.quotes) roundId {}).getD []

def orderRemainder : List OrderRecord :=
  outside (store.orderDraw host roundId) (dedupCandidates host (store.eligible host roundId chainIds))

def quoteRemainder : List OrderRecord :=
  outside (store.quoteDraw host roundId) ((quoteCandidates host store.view (some store.quotes) roundId
    { chainIds := some chainIds }).getD [])

def remainder (quoteCorpusEnabled : Bool) : List OrderRecord :=
  store.orderRemainder host roundId chainIds ++
    if quoteCorpusEnabled then store.quoteRemainder host roundId chainIds else []

/-- The same rows and the same retirements, however they are listed. -/
structure Relisted (store' : SliceStore) : Prop where
  orders : store.orders.Perm store'.orders
  quotes : store.quotes.Perm store'.quotes
  retired : ∀ atEpoch key, key ∈ retiredAppChainKeys store.view atEpoch ↔
    key ∈ retiredAppChainKeys store'.view atEpoch

variable {store host roundId chainIds} {atEpoch : Option Int}

section

variable (epoch : openedEpochFromRoundId roundId = some atEpoch)

include epoch

theorem eligible_eq : store.eligible host roundId chainIds = filterCandidates host store.orders
    (some terminalDemand) none (some chainIds) (retiredAppChainKeys store.view atEpoch) := by
  simp [eligible, eligibleOrders, excludedAppChains, epoch]

theorem orderDraw_eq : store.orderDraw host roundId = sampleByChain host roundId stage2CorpusSamples
    (dedupCandidates host (filterCandidates host store.orders (some terminalDemand) none none
      (retiredAppChainKeys store.view atEpoch))) := by
  simp [orderDraw, sampleHistoricalOrders, eligibleOrders, excludedAppChains, epoch]

theorem quoteCandidates_eq (chains : Option (List Int)) :
    quoteCandidates host store.view (some store.quotes) roundId { chainIds := chains } =
      some (dedupCandidates host (filterCandidates host
        ((store.quotes.filter (·.inWindow atEpoch)).filterMap (·.asOrder)) none none chains
          (retiredAppChainKeys store.view atEpoch))) := by
  simp [quoteCandidates, eligibleQuotes, excludedAppChains, epoch]

theorem quoteDraw_eq : store.quoteDraw host roundId =
    sampleByChain host (roundId ++ ":quotes") stage2CorpusSamples (dedupCandidates host
      (filterCandidates host ((store.quotes.filter (·.inWindow atEpoch)).filterMap (·.asOrder)) none none
        none (retiredAppChainKeys store.view atEpoch))) := by
  unfold quoteDraw sampleHistoricalQuotes
  rw [quoteCandidates_eq epoch, Option.map_some, Option.getD_some]

theorem partitionFollowerSlices_eq {listedOrders records}
    (read : (records <|> listedOrders) = some store.orders) (chains : chainIds ≠ [])
    (quoteCorpusEnabled : Bool) (sliceSize : Nat) :
    partitionFollowerSlices host quoteCorpusEnabled store.view listedOrders (some store.quotes) roundId
        chainIds sliceSize records =
      some (if store.eligible host roundId chainIds = [] then [] else
        slicesOf host roundId sliceSize (store.remainder host roundId chainIds quoteCorpusEnabled)) := by
  have drawn : sampleHistoricalOrders host store.view listedOrders roundId
      { records := some store.orders
        excludeAppChains := some (retiredAppChainKeys store.view atEpoch) } =
      some (store.orderDraw host roundId) := by
    rw [orderDraw_eq epoch]
    simp [sampleHistoricalOrders, eligibleOrders, excludedAppChains]
  have quotes : Harness.quoteRemainder host store.view (some store.quotes) roundId chainIds
      (retiredAppChainKeys store.view atEpoch) = some (store.quoteRemainder host roundId chainIds) := by
    unfold SliceStore.quoteRemainder
    rw [quoteDraw_eq epoch, quoteCandidates_eq epoch]
    simp [Harness.quoteRemainder, sampleHistoricalQuotes, quoteCandidates, eligibleQuotes,
      excludedAppChains, epoch]
  unfold partitionFollowerSlices
  rw [if_neg chains, read]
  simp [epoch, drawn, quotes, ← eligible_eq epoch]
  by_cases empty : store.eligible host roundId chainIds = []
  · simp [empty]
  · cases quoteCorpusEnabled <;> simp [empty, remainder, orderRemainder]

theorem mem_eligible {order : OrderRecord} (inside : order ∈ store.eligible host roundId chainIds) :
    order ∈ store.orders ∧ ∃ chain ∈ chainIds, order.chainId = some chain := by
  rw [eligible_eq epoch] at inside
  exact ⟨mem_filterCandidates inside, chain_of_filterCandidates inside⟩

theorem mem_orderRemainder {order : OrderRecord}
    (inside : order ∈ store.orderRemainder host roundId chainIds) :
    order ∈ store.orders ∧ (∃ chain ∈ chainIds, order.chainId = some chain) ∧
      order.orderId ∉ (store.orderDraw host roundId).map (·.orderId) := by
  obtain ⟨kept, undrawn⟩ := mem_outside.mp inside
  obtain ⟨listed, placed⟩ := mem_eligible epoch (mem_dedupCandidates kept)
  exact ⟨listed, placed, undrawn⟩

variable {row : OrderRecord}

theorem mem_orderDraw (drawn : row ∈ store.orderDraw host roundId) :
    ∃ order ∈ store.orders, order.stripPii = row := by
  rw [orderDraw_eq epoch] at drawn
  obtain ⟨order, listed, stripped⟩ := mem_sampleByChain drawn
  exact ⟨order, mem_filterCandidates (mem_dedupCandidates listed), stripped⟩

theorem mem_quoteRemainder (inside : row ∈ store.quoteRemainder host roundId chainIds) :
    (∃ quote ∈ store.quotes, quote.asOrder = some row) ∧
      (∃ chain ∈ chainIds, row.chainId = some chain) ∧
      row.orderId ∉ (store.quoteDraw host roundId).map (·.orderId) := by
  obtain ⟨kept, undrawn⟩ := mem_outside.mp inside
  rw [quoteCandidates_eq epoch, Option.getD_some] at kept
  have filtered := mem_dedupCandidates kept
  obtain ⟨quote, windowed, shape⟩ := List.mem_filterMap.mp (mem_filterCandidates filtered)
  exact ⟨⟨quote, List.mem_of_mem_filter windowed, shape⟩, chain_of_filterCandidates filtered, undrawn⟩

theorem mem_quoteDraw (drawn : row ∈ store.quoteDraw host roundId) :
    ∃ quote ∈ store.quotes, ∃ order, quote.asOrder = some order ∧ order.stripPii = row := by
  rw [quoteDraw_eq epoch] at drawn
  obtain ⟨order, listed, stripped⟩ := mem_sampleByChain drawn
  obtain ⟨quote, windowed, shape⟩ :=
    List.mem_filterMap.mp (mem_filterCandidates (mem_dedupCandidates listed))
  exact ⟨quote, List.mem_of_mem_filter windowed, order, shape, stripped⟩

theorem orderRemainder_keyed :
    ((store.orderRemainder host roundId chainIds).map (·.orderId.getD "")).Nodup := by
  have eligible : ((store.eligible host roundId chainIds).map (·.orderId.getD "")).Nodup := by
    rw [eligible_eq epoch]
    exact filterCandidates_keyed store.orders_keyed
  exact (dedupCandidates_keyed eligible).sublist (List.filter_sublist.map _)

theorem quoteRemainder_keyed :
    ((store.quoteRemainder host roundId chainIds).map (·.orderId.getD "")).Nodup := by
  unfold SliceStore.quoteRemainder
  rw [quoteCandidates_eq epoch, Option.getD_some]
  exact (dedupCandidates_keyed (filterQuotes_keyed store.quotes_keyed atEpoch)).sublist
    (List.filter_sublist.map _)

theorem remainder_keyed (quoteCorpusEnabled : Bool) :
    ((store.remainder host roundId chainIds quoteCorpusEnabled).map (·.orderId.getD "")).Nodup := by
  unfold remainder
  cases quoteCorpusEnabled with
  | false => simpa using orderRemainder_keyed epoch
  | true =>
    rw [if_pos rfl, List.map_append]
    refine List.nodup_append.mpr ⟨orderRemainder_keyed epoch, quoteRemainder_keyed epoch, ?_⟩
    intro id ofOrder id' ofQuote same
    obtain ⟨order, inside, rfl⟩ := List.mem_map.mp ofOrder
    obtain ⟨row, inside', rfl⟩ := List.mem_map.mp ofQuote
    obtain ⟨quote, listed, shape⟩ := (mem_quoteRemainder epoch inside').1
    exact orderId_ne_quoteId (mem_orderRemainder epoch inside).1 listed
      (same.trans (asOrder_orderId shape))

theorem remainder_onChains {quoteCorpusEnabled} :
    ∀ row ∈ store.remainder host roundId chainIds quoteCorpusEnabled,
      ∃ chain ∈ chainIds, row.chainId = some chain := by
  intro row inside
  rcases List.mem_append.mp inside with order | quote
  · exact (mem_orderRemainder epoch order).2.1
  · cases quoteCorpusEnabled with
    | false => cases quote
    | true => exact (mem_quoteRemainder epoch quote).2.1

theorem remainder_apart {quoteCorpusEnabled}
    (inside : row ∈ store.remainder host roundId chainIds quoteCorpusEnabled) :
    row.orderId ∉ (store.orderDraw host roundId ++ store.quoteDraw host roundId).map (·.orderId) := by
  rw [List.map_append, List.mem_append]
  rcases List.mem_append.mp inside with order | quote
  · obtain ⟨listed, -, undrawn⟩ := mem_orderRemainder epoch order
    rintro (drawn | drawn)
    · exact undrawn drawn
    · obtain ⟨row', drawn, same⟩ := List.mem_map.mp drawn
      obtain ⟨quote, listed', shaped, shape, rfl⟩ := mem_quoteDraw epoch drawn
      refine orderId_ne_quoteId listed listed' ?_
      rw [← asOrder_orderId shape, ← same, stripPii_orderId]
  · cases quoteCorpusEnabled with
    | false => cases quote
    | true =>
      obtain ⟨⟨original, listed', shape⟩, -, undrawn⟩ := mem_quoteRemainder epoch quote
      rintro (drawn | drawn)
      · obtain ⟨row', drawn, same⟩ := List.mem_map.mp drawn
        obtain ⟨order, listed, rfl⟩ := mem_orderDraw epoch drawn
        refine orderId_ne_quoteId listed listed' ?_
        rw [← asOrder_orderId shape, ← same, stripPii_orderId]
      · exact undrawn drawn

variable {store' : SliceStore} (relisted : store.Relisted store')

include relisted

theorem Relisted.eligible :
    (store.eligible host roundId chainIds).Perm (store'.eligible host roundId chainIds) := by
  rw [eligible_eq epoch, eligible_eq epoch, filterCandidates_congr (relisted.retired atEpoch)]
  exact relisted.orders.filter _

theorem Relisted.orderDraw : store.orderDraw host roundId = store'.orderDraw host roundId := by
  rw [orderDraw_eq epoch, orderDraw_eq epoch, filterCandidates_congr (relisted.retired atEpoch)]
  have keyed := @filterCandidates_keyed _ host (some terminalDemand) none none
    (retiredAppChainKeys store'.view atEpoch) _ store.orders_keyed
  exact sampleByChain_perm (dedupCandidates_keyed keyed)
    (dedupCandidates_perm keyed fun row => (relisted.orders.filter _).mem_iff)

theorem Relisted.quoteCandidates (chains : Option (List Int)) {rows rows' : List OrderRecord}
    (own : quoteCandidates host store.view (some store.quotes) roundId { chainIds := chains } = some rows)
    (other : quoteCandidates host store'.view (some store'.quotes) roundId { chainIds := chains } =
      some rows') : (rows.map (·.orderId.getD "")).Nodup ∧ rows.Perm rows' := by
  rw [quoteCandidates_eq epoch] at own other
  rw [filterCandidates_congr (relisted.retired atEpoch)] at own
  cases own
  cases other
  have keyed := @filterQuotes_keyed _ host none none chains (retiredAppChainKeys store'.view atEpoch) _
    store.quotes_keyed atEpoch
  exact ⟨dedupCandidates_keyed keyed, dedupCandidates_perm keyed fun row =>
    (((relisted.quotes.filter _).filterMap _).filter _).mem_iff⟩

theorem Relisted.quoteDraw : store.quoteDraw host roundId = store'.quoteDraw host roundId := by
  obtain ⟨keyed, perm⟩ := relisted.quoteCandidates epoch none (quoteCandidates_eq epoch none)
    (quoteCandidates_eq epoch none)
  rw [quoteDraw_eq epoch, quoteDraw_eq epoch]
  exact sampleByChain_perm keyed perm

theorem Relisted.remainder (quoteCorpusEnabled : Bool) :
    (store.remainder host roundId chainIds quoteCorpusEnabled).Perm
      (store'.remainder host roundId chainIds quoteCorpusEnabled) := by
  have keyed : ((store.eligible host roundId chainIds).map (·.orderId.getD "")).Nodup := by
    rw [eligible_eq epoch]
    exact filterCandidates_keyed store.orders_keyed
  have orders : (store.orderRemainder host roundId chainIds).Perm
      (store'.orderRemainder host roundId chainIds) := by
    unfold orderRemainder
    rw [relisted.orderDraw epoch]
    exact (dedupCandidates_perm keyed fun row => (relisted.eligible epoch).mem_iff).filter _
  have quotes : (store.quoteRemainder host roundId chainIds).Perm
      (store'.quoteRemainder host roundId chainIds) := by
    obtain ⟨-, perm⟩ := relisted.quoteCandidates epoch (some chainIds) (quoteCandidates_eq epoch _)
      (quoteCandidates_eq epoch _)
    unfold SliceStore.quoteRemainder
    rw [relisted.quoteDraw epoch, quoteCandidates_eq epoch, quoteCandidates_eq epoch]
    exact perm.filter _
  unfold SliceStore.remainder
  cases quoteCorpusEnabled with
  | false => simpa using orders
  | true => exact orders.append quotes

end

end SliceStore

structure FollowerSlices {σ : Type} (host : PackHost σ) (quoteCorpusEnabled : Bool) (store : SliceStore)
    (roundId : String) (chainIds : List Int) (sliceSize : Nat) (slices : List (List OrderRecord)) :
    Prop where
  cut : SlicePartition sliceSize chainIds (store.remainder host roundId chainIds quoteCorpusEnabled) slices
  apart : ∀ row ∈ slices.flatten,
    row.orderId ∉ (store.orderDraw host roundId ++ store.quoteDraw host roundId).map (·.orderId)
  relisted : ∀ store', store.Relisted store' →
    partitionFollowerSlices host quoteCorpusEnabled store'.view (some store'.orders)
      (some store'.quotes) roundId chainIds sliceSize none = some slices

/-- The slices are what they are to be unless quotes are left over and no order is eligible. -/
theorem followerSlices_iff {σ : Type} (host : PackHost σ) (quoteCorpusEnabled : Bool) (store : SliceStore)
    {roundId : String} {atEpoch : Option Int} (epoch : openedEpochFromRoundId roundId = some atEpoch)
    {chainIds : List Int} (chains : chainIds ≠ []) {sliceSize : Nat} (positive : 1 ≤ sliceSize)
    {listedOrders records : Option (List OrderRecord)}
    (read : (records <|> listedOrders) = some store.orders) :
    ∃ slices, partitionFollowerSlices host quoteCorpusEnabled store.view listedOrders
        (some store.quotes) roundId chainIds sliceSize records = some slices ∧
      (FollowerSlices host quoteCorpusEnabled store roundId chainIds sliceSize slices ↔
        quoteCorpusEnabled = false ∨ store.eligible host roundId chainIds ≠ [] ∨
          store.quoteRemainder host roundId chainIds = []) := by
  refine ⟨_, SliceStore.partitionFollowerSlices_eq epoch read chains quoteCorpusEnabled sliceSize, ?_⟩
  have relisted (store' : SliceStore) (same : store.Relisted store') :
      partitionFollowerSlices host quoteCorpusEnabled store'.view (some store'.orders)
          (some store'.quotes) roundId chainIds sliceSize none =
        some (if store.eligible host roundId chainIds = [] then [] else
          slicesOf host roundId sliceSize (store.remainder host roundId chainIds quoteCorpusEnabled)) := by
    rw [SliceStore.partitionFollowerSlices_eq epoch (by rfl) chains,
      slicesOf_perm host (SliceStore.remainder_keyed epoch quoteCorpusEnabled) (same.remainder epoch _)]
    have empty : store'.eligible host roundId chainIds = [] ↔ store.eligible host roundId chainIds = [] := by
      rw [← List.length_eq_zero_iff, ← List.length_eq_zero_iff, (same.eligible epoch).length_eq]
    simp only [empty]
  by_cases empty : store.eligible host roundId chainIds = []
  · -- the function returns before it looks at the quotes
    rw [if_pos empty] at relisted ⊢
    have orders : store.orderRemainder host roundId chainIds = [] := by
      unfold SliceStore.orderRemainder
      rw [empty]
      rfl
    have remainder : store.remainder host roundId chainIds quoteCorpusEnabled =
        if quoteCorpusEnabled then store.quoteRemainder host roundId chainIds else [] := by
      unfold SliceStore.remainder
      rw [orders, List.nil_append]
    constructor
    · intro slices
      have none : store.remainder host roundId chainIds quoteCorpusEnabled = [] := by
        refine List.eq_nil_iff_forall_not_mem.mpr fun row inside => ?_
        exact List.not_mem_nil ((slices.cut.covers _).mpr (List.mem_map_of_mem inside))
      rw [remainder] at none
      cases quoteCorpusEnabled with
      | false => exact .inl rfl
      | true => exact .inr (.inr none)
    · intro covered
      have none : store.remainder host roundId chainIds quoteCorpusEnabled = [] := by
        rw [remainder]
        rcases covered with off | eligible | drawn
        · simp [off]
        · exact absurd empty eligible
        · simp [drawn]
      exact ⟨⟨.nil, by simp, by simp, by simp, by simp [none]⟩, by simp, relisted⟩
  · rw [if_neg empty] at relisted ⊢
    have keyed := @SliceStore.remainder_keyed _ store host _ chainIds _ epoch quoteCorpusEnabled
    have cut : SlicePartition sliceSize chainIds _ (slicesOf host roundId sliceSize _) :=
      slicesOf_partition host positive keyed (SliceStore.remainder_onChains epoch)
    refine iff_of_true ⟨cut, fun row inside => ?_, relisted⟩ (.inr (.inl empty))
    obtain ⟨order, left, rfl⟩ := List.mem_map.mp ((cut.covers row).mp inside)
    rw [stripPii_orderId]
    exact SliceStore.remainder_apart epoch left

section

def manyQuotes (orders : List OrderRecord)
    (keyed : (orders.map (·.orderId.getD "") ++ (List.range 51).map toString).Nodup) : SliceStore where
  view := { listApps := some [], getDeployments := fun _ => none }
  orders
  quotes := (List.range 51).map fun i =>
    { quoteId := some (toString i), appId := some (toString i), chainId := some 1 }
  keyed := by rwa [List.map_map]

def besideOrder : SliceStore :=
  manyQuotes [swapRow "order" "filled"] (by decide +kernel)

theorem followerSlices_beside_order :
    ∃ slices, partitionFollowerSlices plainPackHost true besideOrder.view (some besideOrder.orders)
        (some besideOrder.quotes) "round" [1] 50 none = some slices ∧
      FollowerSlices plainPackHost true besideOrder "round" [1] 50 slices := by
  have epoch : openedEpochFromRoundId "round" = some none := by rfl
  obtain ⟨slices, returned, cut⟩ := followerSlices_iff plainPackHost true besideOrder epoch
    (List.cons_ne_nil 1 []) (by decide : 1 ≤ 50) (by rfl : (none <|> some besideOrder.orders) = _)
  exact ⟨slices, returned, cut.mpr (.inr (.inl (List.cons_ne_nil (swapRow "order" "filled") [])))⟩

def onlyQuotes : SliceStore :=
  manyQuotes [] (by decide +kernel)

/-- Without an eligible order the quote that is left over is in no slice. -/
theorem quotes_lost_without_orders :
    partitionFollowerSlices plainPackHost true onlyQuotes.view (some onlyQuotes.orders)
        (some onlyQuotes.quotes) "round" [1] 50 none = some [] ∧
      ¬ FollowerSlices plainPackHost true onlyQuotes "round" [1] 50 [] := by
  refine ⟨by rfl, fun slices => ?_⟩
  have left : (onlyQuotes.remainder plainPackHost "round" [1] true).length ≠ 0 := by decide +kernel
  obtain ⟨row, inside⟩ := List.exists_mem_of_ne_nil _ (List.length_eq_zero_iff.not.mp left)
  exact List.not_mem_nil ((slices.cut.covers _).mpr (List.mem_map_of_mem inside))

end

end MinotaurSubnet.Harness
