import MinotaurSubnet.Harness.SubmissionRows
import MinotaurSubnet.Orderbook.OrderBook
import Mathlib.Data.List.Infix

/-! # Orders stored and loaded again

`Order.to_dict`, the table of orders and `OrderPersistence`. On a change of the leader the open
orders are read back from the table into the book; the decoder there names thirteen of the fields
that the encoder writes. The JSON codec, `str` and `str.lower` are parameters.
-/

namespace MinotaurSubnet.Blockloop.OrderPersistence

open Library Python Orderbook Harness

def orderStatusValue : OrderStatus → String
  | .open_ => "open"
  | .assigned => "assigned"
  | .solved => "solved"
  | .scored => "scored"
  | .approved => "approved"
  | .submitted => "submitted"
  | .filled => "filled"
  | .rejected => "rejected"
  | .expired => "expired"
  | .cancelled => "cancelled"
  | .unstaking => "unstaking"
  | .bridging => "bridging"
  | .bridgeFailed => "bridge_failed"
  | .executingLeg => "executing_leg"
  | .rollingBack => "rolling_back"
  | .rolledBack => "rolled_back"
  | .partialRollback => "partial_rollback"

def userFaultMarkers : List String := [
  "0xf645eedf", "0xfce698f7", "0xd78bce0c", "invalid user signature", "ecdsainvalidsignature",
  "user signature rejected", "transfer amount exceeds balance", "transfer amount exceeds allowance",
  "erc20: insufficient allowance", "erc20insufficientbalance", "erc20insufficientallowance",
  "user cannot fund order"]

def duplicateMarkers : List String := ["plan_hash already submitted"]

def infraMarkers : List String := [
  "on-chain score unavailable", "dual-scoring fail-closed", "consensus not reached",
  "relayer balance too low", "requires signing_key", "relayer transport", "cannot connect to host",
  "exceeded per-window limit", "invalid eip-55 checksum", "only accepts checksum addresses"]

def solverMarkers : List String := [
  "solver produced no plan", "no plan", "policy rejected plan", "below threshold", "< threshold",
  "fee certification failed"]

/-- `classify_rejection`; only an order that failed for good has a class. -/
def classifyRejection (lower : String → String) (status : OrderStatus) (error : Option String) :
    Option String :=
  match status with
  | .expired => some "expired"
  | .rejected =>
    let text := lower (error.getD "")
    let marked (markers : List String) : Bool := markers.any fun m => decide (m.toList <:+: text.toList)
    some (if text = "" then "other"
      else if marked duplicateMarkers then "duplicate"
      else if marked userFaultMarkers then "user"
      else if marked infraMarkers then "infra"
      else if marked solverMarkers then "solver"
      else "other")
  | _ => none

/-- `Order` with all its fields; those whose type nothing here looks at hold any value. -/
structure WholeOrder where
  orderId : String
  appId : Value
  intentFunction : Value
  params : Value
  submittedBy : Value
  status : OrderStatus := .open_
  chainId : Value := .int 1
  deadline : Value := .float (.fin 0)
  perpetual : Value := .bool false
  maxExecutions : Value := .int 1
  cooldown : Value := .float (.fin 0)
  executionCount : Value := .int 0
  lastFilledAt : Value := .float (.fin 0)
  createdAt : PyFloat
  plan : Value := .none
  score : Value := .none
  txHash : Value := .none
  error : Option String := none
  blockNumber : Value := .none
  consensusResult : Value := .none
  userSignature : String := ""
  onChainScore : Value := .none
  bestScore : Value := .none
  policyTier : String := "hybrid"
  automationId : String := ""
  planAssessment : Value := .none
  feeAmountWei : Int := 0
  feePaid : Bool := false

def textOrNone (text : Option String) : Value := (text.map .str).getD .none

def WholeOrder.toDict (str : Value → String) (lower : String → String) (order : WholeOrder) : RowRecord := [
  ("order_id", .str order.orderId), ("app_id", order.appId),
  ("intent_function", order.intentFunction), ("params", order.params),
  ("submitted_by", order.submittedBy), ("status", .str (orderStatusValue order.status)),
  ("chain_id", order.chainId), ("deadline", order.deadline), ("perpetual", order.perpetual),
  ("max_executions", order.maxExecutions), ("cooldown", order.cooldown),
  ("execution_count", order.executionCount), ("last_filled_at", order.lastFilledAt),
  ("created_at", .float order.createdAt), ("plan", order.plan), ("score", order.score),
  ("tx_hash", order.txHash), ("error", textOrNone order.error),
  ("rejection_class", textOrNone (classifyRejection lower order.status order.error)),
  ("block_number", order.blockNumber), ("consensus_result", order.consensusResult),
  ("user_signature", .str order.userSignature), ("on_chain_score", order.onChainScore),
  ("best_score", order.bestScore), ("policy_tier", .str order.policyTier),
  ("automation_id", .str order.automationId), ("plan_assessment", order.planAssessment),
  ("fee_amount_wei", .int order.feeAmountWei), ("fee_paid", .bool order.feePaid)] ++
  if order.submittedBy.truthy && order.chainId.truthy then
    [("interop_address", .str ("eip155:" ++ str order.chainId ++ ":" ++ str order.submittedBy))]
  else []

/-- The `Order` that `load_open_orders` builds; what it does not name has its default, and the time
    of its creation is that of the loading. -/
def reloadedOrder (now : PyFloat) (orderId : String) (record : RowRecord) : WholeOrder where
  orderId
  appId := record.get "app_id" (.str "")
  intentFunction := record.get "intent_function" (.str "execute")
  params := record.get "params" (.dict [])
  submittedBy := record.get "submitted_by" (.str "")
  chainId := record.get "chain_id" (.int 1)
  perpetual := record.get "perpetual" (.bool false)
  maxExecutions := record.get "max_executions" (.int 1)
  cooldown := record.get "cooldown" (.float (.fin 0))
  deadline := record.get "deadline" (.float (.fin 0))
  lastFilledAt := record.get "last_filled_at" (.float (.fin 0))
  executionCount := record.get "execution_count" (.int 0)
  createdAt := now

/-- A row of `orders`, with the columns that are asked for. -/
structure OrderRow (β : Type*) where
  status : Value
  data : β

abbrev OrderTable (β : Type*) := Dict String (OrderRow β)

abbrev WholeBook := Dict String WholeOrder

/-- `json.dumps` and `json.loads`: what JSON carries comes back. -/
structure JsonCodec (β : Type*) where
  dumps : Value → β
  loads : β → Option Value
  loads_dumps : ∀ v, v.isJson = true → loads (dumps v) = some v

/-- The codec that keeps a value as it is. -/
def JsonCodec.plain : JsonCodec Value := ⟨id, some, fun _ _ => rfl⟩

section

variable {β : Type*} (codec : JsonCodec β)

/-- `save_order`; the id of an order is a text. -/
def saveOrder (table : OrderTable β) (record : RowRecord) : OrderTable β :=
  match record.lookup "order_id" with
  | some (.str orderId) =>
    table.set orderId { status := record.get "status", data := codec.dumps (.dict record) }
  | _ => table

def rowRecord (row : OrderRow β) : Option RowRecord :=
  match codec.loads row.data with
  | some (.dict record) => some record
  | _ => none

def hasStatus (status : String) (row : OrderRow β) : Bool :=
  match row.status with
  | .str text => text = status
  | _ => false

/-- `list_orders(status=…)`; none when a row cannot be read. -/
def listOrders (table : OrderTable β) (status : String) : Option (List RowRecord) :=
  (table.values.filter (hasStatus status)).mapM (rowRecord codec)

def syncOrder (str : Value → String) (lower : String → String) (book : WholeBook)
    (table : OrderTable β) (orderId : String) : OrderTable β :=
  match book.get? orderId with
  | none => table
  | some order => saveOrder codec table (order.toDict str lower)

def loadOrder (clock : String → PyFloat) (before : WholeBook × Nat) (record : RowRecord) :
    WholeBook × Nat :=
  match record.get "order_id" (.str "") with
  | .str orderId =>
    match before.1.get? orderId with
    | some _ => before
    | none => (before.1.set orderId (reloadedOrder (clock orderId) orderId record), before.2 + 1)
  | _ => before

/-- `load_open_orders`, at the times at which it builds the orders. -/
def loadOpenOrders (clock : String → PyFloat) (table : OrderTable β) (book : WholeBook) :
    Option (WholeBook × Nat) :=
  (listOrders codec table "open").map fun stored => stored.foldl (loadOrder clock) (book, 0)

end

section

variable {β : Type*} {codec : JsonCodec β} {str : Value → String} {lower : String → String}
  {clock : String → PyFloat}

def KeptRow (codec : JsonCodec β) (orderId : String) (row : OrderRow β) : Prop :=
  ∃ record, rowRecord codec row = some record ∧ record.lookup "order_id" = some (.str orderId)

def KeptTable (codec : JsonCodec β) (table : OrderTable β) : Prop :=
  ∀ orderId row, table.get? orderId = some row → KeptRow codec orderId row

theorem keptTable_empty : KeptTable codec .empty := fun _ _ found => nomatch found

theorem toDict_orderId (order : WholeOrder) :
    (order.toDict str lower).lookup "order_id" = some (.str order.orderId) := by
  simp [WholeOrder.toDict]

theorem saveOrder_toDict (table : OrderTable β) (order : WholeOrder) :
    saveOrder codec table (order.toDict str lower) = table.set order.orderId
      { status := .str (orderStatusValue order.status)
        data := codec.dumps (.dict (order.toDict str lower)) } := by
  unfold saveOrder
  rw [toDict_orderId]
  simp [WholeOrder.toDict, RowRecord.get, List.lookup_cons]

variable {record : RowRecord} {orderId : String}

theorem rowRecord_dumps (json : (Value.dict record).isJson = true) (status : Value) :
    rowRecord codec { status, data := codec.dumps (.dict record) } = some record := by
  simp [rowRecord, codec.loads_dumps _ json]

theorem KeptTable.sync {table : OrderTable β} (kept : KeptTable codec table) {book : WholeBook}
    (json : ∀ order, book.get? orderId = some order →
      order.orderId = orderId ∧ (Value.dict (order.toDict str lower)).isJson = true) :
    KeptTable codec (syncOrder codec str lower book table orderId) := by
  unfold syncOrder
  split
  · exact kept
  · next order held =>
      obtain ⟨own, json⟩ := json order held
      intro other row found
      rw [saveOrder_toDict, Dict.get?_set] at found
      split at found
      · next here =>
          cases found
          exact ⟨_, rowRecord_dumps json _, by rw [here, toDict_orderId]⟩
      · exact kept other row found

theorem loadOrder_stays {order before} (held : before.1.get? orderId = some order)
    (record : RowRecord) :
    (loadOrder clock before record).1.get? orderId = some order := by
  unfold loadOrder
  split
  · next other _ =>
      split
      · exact held
      · next absent =>
          have different : orderId ≠ other := by
            rintro rfl
            rw [held] at absent
            cases absent
          rw [Dict.get?_set_ne _ _ different, held]
  · exact held

theorem foldl_loadOrder_stays {order} (records : List RowRecord) :
    ∀ before : WholeBook × Nat, before.1.get? orderId = some order →
      (records.foldl (loadOrder clock) before).1.get? orderId = some order := by
  induction records with
  | nil => exact fun _ held => held
  | cons record rest ih => exact fun before held => ih _ (loadOrder_stays held record)

theorem loadOrder_fresh {before} (own : record.lookup "order_id" = some (.str orderId))
    (absent : before.1.get? orderId = none) :
    (loadOrder clock before record).1 =
      before.1.set orderId (reloadedOrder (clock orderId) orderId record) := by
  simp [loadOrder, RowRecord.get, own, absent]

theorem loadOrder_other {orderId other} (different : other ≠ orderId) {before}
    (own : record.lookup "order_id" = some (.str orderId)) :
    (loadOrder clock before record).1.get? other = before.1.get? other := by
  cases held : before.1.get? orderId with
  | some order => simp [loadOrder, RowRecord.get, own, held]
  | none => rw [loadOrder_fresh own held, Dict.get?_set_ne _ _ different]

theorem load_entries {entries : List (String × OrderRow β)} (distinct : (entries.map Prod.fst).Nodup)
    (kept : ∀ entry ∈ entries, KeptRow codec entry.1 entry.2) :
    ∃ records, (entries.map Prod.snd).mapM (rowRecord codec) = some records ∧
      ∀ before : WholeBook × Nat, ∀ orderId row record, (orderId, row) ∈ entries →
        rowRecord codec row = some record → before.1.get? orderId = none →
          (records.foldl (loadOrder clock) before).1.get? orderId =
            some (reloadedOrder (clock orderId) orderId record) := by
  induction entries with
  | nil => exact ⟨[], rfl, fun _ _ _ _ inside => absurd inside List.not_mem_nil⟩
  | cons entry entries ih =>
    obtain ⟨fresh, distinct⟩ := List.nodup_cons.mp distinct
    obtain ⟨own, read, named⟩ := kept entry List.mem_cons_self
    obtain ⟨records, rest, loaded⟩ := ih distinct fun e inside => kept e (List.mem_cons_of_mem _ inside)
    refine ⟨own :: records, by simp [read, rest], fun before orderId row record inside read' absent => ?_⟩
    rw [List.foldl_cons]
    rcases List.mem_cons.mp inside with here | later
    · subst here
      cases read.symm.trans read'
      exact foldl_loadOrder_stays records _ (by rw [loadOrder_fresh named absent, Dict.get?_set_self])
    · have different : orderId ≠ entry.1 := by
        rintro rfl
        exact fresh (List.mem_map.mpr ⟨_, later, rfl⟩)
      exact loaded _ orderId row record later read' ((loadOrder_other different named).trans absent)

theorem loadOpenOrders_get {table : OrderTable β} (kept : KeptTable codec table) {row : OrderRow β}
    (stored : table.get? orderId = some row)
    (isOpen : row.status = .str "open") (read : rowRecord codec row = some record) :
    ∃ book count, loadOpenOrders codec clock table .empty = some (book, count) ∧
      book.get? orderId = some (reloadedOrder (clock orderId) orderId record) := by
  let entries := table.entries.filter fun entry => hasStatus "open" entry.2
  have distinct : (entries.map Prod.fst).Nodup :=
    table.keysNodup.sublist (List.filter_sublist.map _)
  have keptEntries : ∀ entry ∈ entries, KeptRow codec entry.1 entry.2 := fun entry inside =>
    kept entry.1 entry.2 (Dict.get?_eq_some.mpr (List.mem_of_mem_filter inside))
  obtain ⟨records, listed, loaded⟩ := load_entries distinct keptEntries
  have values : table.values.filter (hasStatus "open") = entries.map Prod.snd := List.filter_map
  have inside : (orderId, row) ∈ entries :=
    List.mem_filter.mpr ⟨Dict.get?_eq_some.mp stored, by simp [hasStatus, isOpen]⟩
  refine ⟨_, (records.foldl (loadOrder clock) (.empty, 0)).2, ?_,
    loaded (.empty, 0) orderId row record inside read rfl⟩
  unfold loadOpenOrders listOrders
  rw [values, listed]
  rfl

/-- Equal in what processing, signing, encoding, expiry and the fees read. -/
structure SameWhereRead (a b : WholeOrder) : Prop where
  orderId : a.orderId = b.orderId
  appId : a.appId = b.appId
  intentFunction : a.intentFunction = b.intentFunction
  params : a.params = b.params
  submittedBy : a.submittedBy = b.submittedBy
  status : a.status = b.status
  chainId : a.chainId = b.chainId
  deadline : a.deadline = b.deadline
  perpetual : a.perpetual = b.perpetual
  maxExecutions : a.maxExecutions = b.maxExecutions
  cooldown : a.cooldown = b.cooldown
  executionCount : a.executionCount = b.executionCount
  lastFilledAt : a.lastFilledAt = b.lastFilledAt
  createdAt : a.createdAt = b.createdAt
  userSignature : a.userSignature = b.userSignature
  bestScore : a.bestScore = b.bestScore
  policyTier : a.policyTier = b.policyTier
  automationId : a.automationId = b.automationId
  feeAmountWei : a.feeAmountWei = b.feeAmountWei

structure NothingLost (order : WholeOrder) (now : PyFloat) : Prop where
  createdAt : order.createdAt = now
  userSignature : order.userSignature = ""
  bestScore : order.bestScore = .none
  policyTier : order.policyTier = "hybrid"
  automationId : order.automationId = ""
  feeAmountWei : order.feeAmountWei = 0

theorem reloadedOrder_toDict (order : WholeOrder) (now : PyFloat) :
    reloadedOrder now order.orderId (order.toDict str lower) =
      { orderId := order.orderId, appId := order.appId, intentFunction := order.intentFunction
        params := order.params, submittedBy := order.submittedBy, chainId := order.chainId
        perpetual := order.perpetual, maxExecutions := order.maxExecutions
        cooldown := order.cooldown, deadline := order.deadline
        lastFilledAt := order.lastFilledAt, executionCount := order.executionCount
        createdAt := now } := by
  simp [reloadedOrder, RowRecord.get, WholeOrder.toDict, List.lookup_cons]

theorem sameWhereRead_reloaded {order} (isOpen : order.status = .open_) (now : PyFloat) :
    SameWhereRead order (reloadedOrder now order.orderId (order.toDict str lower)) ↔
      NothingLost order now := by
  rw [reloadedOrder_toDict]
  constructor
  · intro same
    exact ⟨same.createdAt, same.userSignature, same.bestScore, same.policyTier, same.automationId,
      same.feeAmountWei⟩
  · intro kept
    exact ⟨rfl, rfl, rfl, rfl, rfl, isOpen, rfl, rfl, rfl, rfl, rfl, rfl, rfl, kept.createdAt,
      kept.userSignature, kept.bestScore, kept.policyTier, kept.automationId, kept.feeAmountWei⟩

end

/-- An open order that is stored and loaded into an empty book is the same where it is read exactly
    when it has the defaults of what the decoder leaves out. -/
theorem reload_round_trip_iff {β : Type*} (codec : JsonCodec β) (str : Value → String)
    (lower : String → String) (clock : String → PyFloat) {table : OrderTable β}
    (kept : KeptTable codec table) {book : WholeBook} {orderId : String} {order : WholeOrder}
    (held : book.get? orderId = some order) (own : order.orderId = orderId)
    (isOpen : order.status = .open_) (json : (Value.dict (order.toDict str lower)).isJson = true) :
    ∃ loaded count reloaded,
      loadOpenOrders codec clock (syncOrder codec str lower book table orderId) .empty =
        some (loaded, count) ∧
      loaded.get? orderId = some reloaded ∧
      (SameWhereRead order reloaded ↔ NothingLost order (clock orderId)) := by
  subst own
  have keptAfter : KeptTable codec (syncOrder codec str lower book table order.orderId) := by
    refine kept.sync fun other held' => ?_
    cases held.symm.trans held'
    exact ⟨rfl, json⟩
  have stored : (syncOrder codec str lower book table order.orderId).get? order.orderId =
      some { status := .str (orderStatusValue order.status)
             data := codec.dumps (.dict (order.toDict str lower)) } := by
    unfold syncOrder
    rw [held]
    simp only [saveOrder_toDict, Dict.get?_set_self]
  obtain ⟨loaded, count, returned, found⟩ :=
    loadOpenOrders_get keptAfter stored (by rw [isOpen]; rfl) (rowRecord_dumps json _)
  exact ⟨loaded, count, _, returned, found, sameWhereRead_reloaded isOpen _⟩

section

def submittedOrder (userSignature : String) : WholeOrder where
  orderId := "ord_1"
  appId := .str "dex"
  intentFunction := .str "swap"
  params := .dict [("input_amount", .str "100")]
  submittedBy := .str "0xa"
  createdAt := .fin 7
  userSignature

def submittedBook (userSignature : String) : WholeBook :=
  Dict.empty.set "ord_1" (submittedOrder userSignature)

def plainOrders : JsonCodec Value := .plain

theorem reload_unsigned :
    ∃ loaded count reloaded,
      loadOpenOrders plainOrders (fun _ => .fin 7)
        (syncOrder plainOrders (fun _ => "") id (submittedBook "") .empty "ord_1") .empty =
          some (loaded, count) ∧
      loaded.get? "ord_1" = some reloaded ∧
      (SameWhereRead (submittedOrder "") reloaded ↔ NothingLost (submittedOrder "") (.fin 7)) :=
  reload_round_trip_iff plainOrders (fun _ => "") id (fun _ => .fin 7) keptTable_empty
    (by rfl : (submittedBook "").get? "ord_1" = some (submittedOrder "")) rfl rfl (by rfl)

/-- The signature of the user is gone. -/
theorem reload_signed :
    ∃ loaded count reloaded,
      loadOpenOrders plainOrders (fun _ => .fin 7)
        (syncOrder plainOrders (fun _ => "") id (submittedBook "0xsig") .empty "ord_1") .empty =
          some (loaded, count) ∧
      loaded.get? "ord_1" = some reloaded ∧ reloaded.userSignature = "" ∧
      ¬ SameWhereRead (submittedOrder "0xsig") reloaded := by
  refine ⟨_, _, _, rfl, rfl, rfl, fun same => ?_⟩
  have kept : "0xsig" = "" := same.userSignature
  exact absurd kept (by decide)

end

end MinotaurSubnet.Blockloop.OrderPersistence
