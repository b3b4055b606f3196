import MinotaurSubnet.Blockloop.OrderProcessor
import MinotaurSubnet.Library.Dict
import MinotaurSubnet.Library.Machine
import MinotaurSubnet.Library.SlidingWindow

/-! # The intent order book

`IntentOrderBook` of `orderbook/orderbook.py`: users submit and cancel orders, each
tick of the block loop expires what is past its deadline and claims what is open,
and the pipeline writes its progress back with `update_order`. Every operation runs
under the book's lock, so it is one step.
-/

namespace MinotaurSubnet.Orderbook

open Library Python Blockloop

inductive OrderStatus where
  | open_
  | assigned
  | solved
  | scored
  | approved
  | submitted
  | filled
  | rejected
  | expired
  | cancelled
  | unstaking
  | bridging
  | bridgeFailed
  | executingLeg
  | rollingBack
  | rolledBack
  | partialRollback
  deriving DecidableEq

structure BookOrder extends Order where
  status : OrderStatus := .open_
  executionCount : Int := 0
  lastFilledAt : ℚ := 0
  score : Option PyFloat := none
  bestScore : Option Int := none
  onChainScore : Option Int := none
  txHash : Option String := none
  error : Option String := none
  userSignature : String := ""
  feeAmountWei : Int := 0
  feePaid : Bool := false

/-- The keyword arguments of `update_order`; a field that is not given is `none`. -/
structure OrderUpdate where
  status : Option OrderStatus := none
  executionCount : Option Int := none
  lastFilledAt : Option ℚ := none
  score : Option (Option PyFloat) := none
  bestScore : Option (Option Int) := none
  onChainScore : Option (Option Int) := none
  txHash : Option (Option String) := none
  error : Option (Option String) := none
  userSignature : Option String := none
  feePaid : Option Bool := none

def BookOrder.update (order : BookOrder) (u : OrderUpdate) : BookOrder :=
  { order with
    status := u.status.getD order.status
    executionCount := u.executionCount.getD order.executionCount
    lastFilledAt := u.lastFilledAt.getD order.lastFilledAt
    score := u.score.getD order.score
    bestScore := u.bestScore.getD order.bestScore
    onChainScore := u.onChainScore.getD order.onChainScore
    txHash := u.txHash.getD order.txHash
    error := u.error.getD order.error
    userSignature := u.userSignature.getD order.userSignature
    feePaid := u.feePaid.getD order.feePaid }

@[simp] theorem BookOrder.update_status (order : BookOrder) (u : OrderUpdate) :
    (order.update u).status = u.status.getD order.status := rfl

abbrev Book := Dict String BookOrder

namespace Book

def statusOf (book : Book) (orderId : String) : Option OrderStatus :=
  (book.get? orderId).map (·.status)

/-- `update_order`: nothing happens to an order the book does not hold. -/
def updateOrder (book : Book) (orderId : String) (u : OrderUpdate) : Book :=
  match book.get? orderId with
  | none => book
  | some order => book.set orderId (order.update u)

inductive CancelOutcome where
  | done (cancelled : Bool)
  | permissionError (text : String)
  deriving DecidableEq

/-- An order the user can still withdraw, and the deadline can still close. -/
def OrderStatus.closable (status : OrderStatus) : Bool :=
  status = .open_ || status = .assigned

/-- `cancel`; `lower` is `str.lower`. -/
def cancel (lower : String → String) (book : Book) (orderId submittedBy : String) :
    Book × CancelOutcome :=
  match book.get? orderId with
  | none => (book, .done false)
  | some order =>
    if lower order.submittedBy ≠ lower submittedBy then
      (book, .permissionError
        s!"Order {orderId} belongs to {order.submittedBy}, not {submittedBy}")
    else if OrderStatus.closable order.status then
      (book.set orderId { order with status := .cancelled }, .done true)
    else (book, .done false)

/-- The orders `expire_stale` closes at `now`. -/
def isStale (now : ℚ) (order : BookOrder) : Bool :=
  (PyFloat.fin 0).lt order.deadline && order.deadline.lt (.fin now) &&
    OrderStatus.closable order.status

def expireStale (book : Book) (now : ℚ) : Book :=
  book.mapValues fun _ order => if isStale now order then { order with status := .expired } else order

def cooling (now : ℚ) (floor : PyFloat) (order : BookOrder) : Bool :=
  order.perpetual && decide (0 < order.lastFilledAt) &&
    (PyFloat.fin (now - order.lastFilledAt)).lt
      (if order.cooldown.lt floor then floor else order.cooldown)

/-- The first `slots` open orders that are not resting, in the book's order. -/
def claimable (now : ℚ) (floor : PyFloat) (slots : Nat) (book : Book) : List String :=
  ((book.entries.filter fun entry =>
    entry.2.status = .open_ && !cooling now floor entry.2).take slots).map Prod.fst

/-- `snapshot_open`. The count is tested after an order was taken, so a bound below one
    still takes one. -/
def snapshotOpen (book : Book) (now : ℚ) (floor : PyFloat) (maxCount : Int) :
    Book × List String :=
  let claimed := claimable now floor (max 1 maxCount).toNat book
  (book.mapValues fun orderId order =>
    if orderId ∈ claimed then { order with status := .assigned } else order, claimed)

theorem statusOf_updateOrder_ne (book : Book) {orderId other} (u : OrderUpdate)
    (different : other ≠ orderId) :
    statusOf (updateOrder book orderId u) other = statusOf book other := by
  unfold statusOf updateOrder
  cases book.get? orderId with
  | none => rfl
  | some order => rw [Dict.get?_set_ne _ _ different]

variable {orderId : String} {book : Book} {status : OrderStatus}

theorem open_of_claimable {now floor slots} (claimed : orderId ∈ claimable now floor slots book) :
    statusOf book orderId = some .open_ := by
  obtain ⟨⟨k, order⟩, taken, rfl⟩ := List.mem_map.mp claimed
  have kept := (List.mem_filter.mp (List.mem_of_mem_take taken))
  have found : book.get? k = some order := Dict.get?_eq_some.mpr kept.1
  simp only [Bool.and_eq_true, decide_eq_true_eq] at kept
  rw [statusOf, found, Option.map_some, kept.2.1]

def Closed (book : Book) (orderId : String) (status : OrderStatus) : Prop :=
  statusOf book orderId = some status ∧ OrderStatus.closable status = false

theorem Closed.cancel (closed : Closed book orderId status) (lower : String → String)
    (other submittedBy : String) :
    Closed (Book.cancel lower book other submittedBy).1 orderId status := by
  refine ⟨?_, closed.2⟩
  unfold Book.cancel
  cases found : book.get? other with
  | none => exact closed.1
  | some order =>
    dsimp only
    split
    · exact closed.1
    · split
      next withdrawn =>
        by_cases same : orderId = other
        · subst same
          have held := closed.1
          rw [statusOf, found, Option.map_some, Option.some.injEq] at held
          rw [held, closed.2] at withdrawn
          cases withdrawn
        · rw [statusOf, Dict.get?_set_ne _ _ same]
          exact closed.1
      · exact closed.1

theorem Closed.expireStale (closed : Closed book orderId status) (now : ℚ) :
    Closed (Book.expireStale book now) orderId status := by
  refine ⟨?_, closed.2⟩
  obtain ⟨order, found, held⟩ := Option.map_eq_some_iff.mp closed.1
  have fresh : isStale now order = false := by
    simp [isStale, held, closed.2]
  simp [statusOf, Book.expireStale, Dict.get?_mapValues, found, fresh, held]

theorem Closed.not_claimed (closed : Closed book orderId status) (now : ℚ) (floor : PyFloat)
    (slots : Nat) :
    orderId ∉ claimable now floor slots book := by
  intro claimed
  have wasOpen := open_of_claimable claimed
  rw [closed.1, Option.some.injEq] at wasOpen
  have shut := closed.2
  rw [wasOpen] at shut
  exact absurd shut (by decide)

theorem Closed.snapshotOpen (closed : Closed book orderId status) (now : ℚ) (floor : PyFloat)
    (maxCount : Int) :
    Closed (Book.snapshotOpen book now floor maxCount).1 orderId status := by
  refine ⟨?_, closed.2⟩
  obtain ⟨order, found, held⟩ := Option.map_eq_some_iff.mp closed.1
  have unclaimed := closed.not_claimed now floor (max 1 maxCount).toNat
  simp [statusOf, Book.snapshotOpen, Dict.get?_mapValues, found, unclaimed, held]

theorem Closed.updateOrder {orderId other} (closed : Closed book orderId status)
    (different : orderId ≠ other) (u : OrderUpdate) :
    Closed (Book.updateOrder book other u) orderId status :=
  ⟨(statusOf_updateOrder_ne book u different).trans closed.1, closed.2⟩

end Book

def rateLimit : Nat := 10
def rateWindow : ℚ := 60

/-- What `submit` is given, with the id the order gets. -/
structure SubmitCall where
  now : ℚ
  order : Order
  userSignature : String := ""

structure SubmitDesk where
  orders : Book := Dict.empty
  limiter : Dict String (List ℚ) := Dict.empty
  /-- The times of every accepted order, and of the last call. No step reads them. -/
  accepted : Dict String (List ℚ) := Dict.empty
  clock : ℚ := 0

namespace SubmitDesk

def timestamps (s : SubmitDesk) (user : String) : List ℚ := (s.limiter.get? user).getD []

def acceptedAt (s : SubmitDesk) (user : String) : List ℚ := (s.accepted.get? user).getD []

def checkRateLimit (s : SubmitDesk) (user : String) (now : ℚ) : SubmitDesk × Except String Unit :=
  let timestamps := (s.timestamps user).dropWhile (· < now - rateWindow)
  if rateLimit ≤ timestamps.length then
    ({ s with limiter := s.limiter.set user timestamps },
      .error "Rate limit exceeded: 10 orders per 60.0s")
  else ({ s with limiter := s.limiter.set user (timestamps ++ [now]) }, .ok ())

def submit (s : SubmitDesk) (call : SubmitCall) : SubmitDesk × Except String BookOrder :=
  let order := call.order
  let user := order.submittedBy
  let s := { s with clock := call.now }
  if order.appId = "" then (s, .error "app_id is required")
  else if user = "" then (s, .error "submitted_by is required")
  else
    match s.checkRateLimit user call.now with
    | (s, .error text) => (s, .error text)
    | (s, .ok ()) =>
      let placed : BookOrder := { order with
        intentFunction := if order.intentFunction = "" then "execute" else order.intentFunction
        maxExecutions := if order.perpetual then order.maxExecutions else 1
        userSignature := call.userSignature }
      ({ s with
        orders := s.orders.set order.orderId placed
        accepted := s.accepted.set user (s.acceptedAt user ++ [call.now]) }, .ok placed)

/-- The clock does not run backwards. -/
def Timely (s : SubmitDesk) (call : SubmitCall) : Prop := s.clock ≤ call.now

instance (s : SubmitDesk) (call : SubmitCall) : Decidable (s.Timely call) :=
  inferInstanceAs (Decidable (_ ≤ _))

def Limited (s : SubmitDesk) : Prop :=
  ∀ user, Windowed rateWindow rateLimit s.clock (s.timestamps user) (s.acceptedAt user)

variable {s : SubmitDesk} {call : SubmitCall}

theorem Limited.submit (limited : s.Limited) (timely : s.Timely call) :
    (s.submit call).1.Limited ∧ (call.order.appId ≠ "" → call.order.submittedBy ≠ "" →
      ((s.submit call).2.isOk = false ↔
        (window rateWindow (s.acceptedAt call.order.submittedBy) call.now).length = rateLimit)) := by
  have onward user := (limited user).onward timely
  have mine := onward call.order.submittedBy
  have deque := (limited call.order.submittedBy).dropWhile_eq timely
  unfold SubmitDesk.submit checkRateLimit
  dsimp only [timestamps] at deque ⊢
  rw [deque]
  split
  · exact ⟨onward, fun app => absurd ‹_› app⟩
  split
  · exact ⟨onward, fun _ user => absurd ‹_› user⟩
  by_cases full : rateLimit ≤ (window rateWindow (s.acceptedAt call.order.submittedBy) call.now).length
  · simp only [if_pos full]
    refine ⟨fun user => ?_, fun _ _ => iff_of_true rfl (le_antisymm (mine.bounded _) full)⟩
    by_cases same : user = call.order.submittedBy
    · subst same
      simpa [timestamps, acceptedAt] using mine.purged
    · simpa [timestamps, acceptedAt, Dict.get?_set_ne _ _ same] using onward user
  · simp only [if_neg full]
    refine ⟨fun user => ?_, fun _ _ => iff_of_false nofun (not_le.mp full).ne⟩
    by_cases same : user = call.order.submittedBy
    · subst same
      simpa [timestamps, acceptedAt] using mine.noted (by norm_num [rateWindow]) (not_le.mp full)
    · simpa [timestamps, acceptedAt, Dict.get?_set_ne _ _ same] using onward user

/-- In every run no user gets more than ten orders into any minute, and a call that names its app
    and its user is refused exactly when the minute before it has ten of that user's. -/
theorem orders_per_minute (run : Reaches SubmitDesk.submit SubmitDesk.Timely {} s) :
    (∀ user now, (window rateWindow (s.acceptedAt user) now).length ≤ rateLimit) ∧
      ∀ call, s.Timely call → call.order.appId ≠ "" → call.order.submittedBy ≠ "" →
        ((s.submit call).2.isOk = false ↔
          (window rateWindow (s.acceptedAt call.order.submittedBy) call.now).length = rateLimit) := by
  have start : SubmitDesk.Limited {} :=
    fun _ => ⟨.nil, by simp [acceptedAt], ⟨_, le_rfl, rfl⟩, by simp [window, acceptedAt]⟩
  have limited := run.invariant Limited start fun _ _ kept timely => (kept.submit timely).1
  exact ⟨fun user => (limited user).bounded, fun call timely => (limited.submit timely).2⟩

def callAt (now : ℚ) : SubmitCall where
  now := now
  order := { orderId := "", appId := "dex", intentFunction := "", params := [], submittedBy := "alice" }

theorem orders_per_minute_eleventh : ((runEvents SubmitDesk.submit {}
    (List.replicate 10 (callAt 1))).submit (callAt 61)).2.isOk = false :=
  ((orders_per_minute (AllowedAlong.reaches (by decide +kernel))).2 (callAt 61) (by decide +kernel)
    (by decide) (by decide)).mpr (by decide +kernel)

end SubmitDesk

end MinotaurSubnet.Orderbook
