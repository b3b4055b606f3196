import MinotaurSubnet.Blockloop.OrderPipeline

/-! # Cancellation and the block loop

The pipeline holds an order across many awaits, and a user or the deadline can close
the order at any of them. The machine interleaves the book's operations with the
passes of the pipeline; a pass is the trace of `process` cut at its awaits.
-/

namespace MinotaurSubnet.Blockloop

open Library Python Consensus Orderbook

/-- A claimed order: waiting for its pass, or with the rest of its pass ahead. -/
inductive Task where
  | claimed
  | running (rest : List Action)

structure LoopState where
  book : Book := Dict.empty
  tasks : List (String × Task) := []
  /-- The orders of the calls to `relayer.submit_plan`, oldest first. -/
  submissions : List String := []

inductive LoopEvent where
  | submit (order : BookOrder)
  | cancel (orderId submittedBy : String)
  | expireStale (now : ℚ)
  | snapshotOpen (now : ℚ) (floor : PyFloat) (maxCount : Int)
  /-- `process` is called for a claimed order and runs to its first await. -/
  | begin (task : Nat) (answers : OrderAnswers)
  | resume (task : Nat)
  | drop (task : Nat)

inductive LoopOutput where
  | cancelled (outcome : Book.CancelOutcome)
  | none
  deriving DecidableEq

def LoopState.perform (s : LoopState) (orderId : String) : Action → LoopState
  | .update u => { s with book := s.book.updateOrder orderId u }
  | .submit _ _ => { s with submissions := s.submissions ++ [orderId] }
  | _ => s

def LoopState.runToAwait (s : LoopState) (orderId : String) :
    List Action → LoopState × Option (List Action)
  | [] => (s, Option.none)
  | .suspend :: rest => (s, some rest)
  | action :: rest => (s.perform orderId action).runToAwait orderId rest

def LoopState.advance (s : LoopState) (task : Nat) (orderId : String) (calls : List Action) :
    LoopState :=
  let ran := s.runToAwait orderId calls
  match ran.2 with
  | some rest => { ran.1 with tasks := s.tasks.set task (orderId, .running rest) }
  | Option.none => { ran.1 with tasks := s.tasks.eraseIdx task }

section

variable (node : Processor) (str : PyError → String) (lower : String → String)

/-- Ids are fresh random values, so an order with a taken id is not submitted. -/
def LoopState.submitOrder (s : LoopState) (order : BookOrder) : LoopState :=
  match s.book.get? order.orderId with
  | some _ => s
  | Option.none => { s with book := s.book.set order.orderId { order with status := .open_ } }

def LoopState.beginTask (s : LoopState) (task : Nat) (answers : OrderAnswers) : LoopState :=
  match s.tasks[task]? with
  | some (orderId, .claimed) =>
    match s.book.get? orderId with
    | some order => s.advance task orderId (tickTrace node order answers str)
    | Option.none => s
  | _ => s

def LoopState.resumeTask (s : LoopState) (task : Nat) : LoopState :=
  match s.tasks[task]? with
  | some (orderId, .running rest) => s.advance task orderId rest
  | _ => s

def loopStep (s : LoopState) : LoopEvent → LoopState × LoopOutput
  | .submit order => (s.submitOrder order, .none)
  | .cancel orderId submittedBy =>
    let ran := s.book.cancel lower orderId submittedBy
    ({ s with book := ran.1 }, .cancelled ran.2)
  | .expireStale now => ({ s with book := s.book.expireStale now }, .none)
  | .snapshotOpen now floor maxCount =>
    let ran := s.book.snapshotOpen now floor maxCount
    ({ s with book := ran.1, tasks := s.tasks ++ ran.2.map fun orderId => (orderId, .claimed) },
      .none)
  | .begin task answers => (s.beginTask node str task answers, .none)
  | .resume task => (s.resumeTask task, .none)
  | .drop task => ({ s with tasks := s.tasks.eraseIdx task }, .none)

/-- The event closes the order: a cancellation that returned `True`, or an expiry. -/
def Closes (s : LoopState) (e : LoopEvent) (orderId : String) (status : OrderStatus) : Prop :=
  match e with
  | .cancel id _ => id = orderId ∧ status = .cancelled ∧
      (loopStep node str lower s e).2 = .cancelled (.done true)
  | .expireStale _ => status = .expired ∧ s.book.statusOf orderId ≠ some .expired ∧
      (loopStep node str lower s e).1.book.statusOf orderId = some .expired
  | _ => False

def LoopState.Holds (s : LoopState) (orderId : String) : Prop :=
  ∃ task, (orderId, task) ∈ s.tasks

def StaysClosed (s t : LoopState) (orderId : String) (status : OrderStatus) : Prop :=
  t.book.statusOf orderId = some status ∧
    t.submissions.count orderId = s.submissions.count orderId

end

theorem LoopState.perform_tasks (s : LoopState) (orderId : String) (a : Action) :
    (s.perform orderId a).tasks = s.tasks := by
  cases a <;> rfl

structure ShutOut (s : LoopState) (orderId : String) (status : OrderStatus) (sent : Nat) : Prop where
  closed : Book.Closed s.book orderId status
  unheld : ¬ s.Holds orderId
  submitted : s.submissions.count orderId = sent

section

variable {s : LoopState} {orderId : String} {status : OrderStatus} {sent : Nat}

theorem ShutOut.perform (shut : ShutOut s orderId status sent) {other} (different : orderId ≠ other)
    (a : Action) :
    ShutOut (s.perform other a) orderId status sent := by
  have unheld : ¬ (s.perform other a).Holds orderId := by
    unfold LoopState.Holds
    rw [LoopState.perform_tasks]
    exact shut.unheld
  cases a with
  | update u => exact ⟨shut.closed.updateOrder different u, unheld, shut.submitted⟩
  | submit what consensus =>
    refine ⟨shut.closed, unheld, ?_⟩
    have elsewhere : [other].count orderId = 0 := by
      rw [List.count_eq_zero, List.mem_singleton]
      exact different
    rw [LoopState.perform, List.count_append, elsewhere, Nat.add_zero]
    exact shut.submitted
  | suspend | broadcast | propose | substrate | track | recordExecution =>
    exact ⟨shut.closed, unheld, shut.submitted⟩

theorem ShutOut.runToAwait (shut : ShutOut s orderId status sent) {other}
    (different : orderId ≠ other) (calls : List Action) :
    ShutOut (s.runToAwait other calls).1 orderId status sent := by
  induction calls generalizing s with
  | nil => exact shut
  | cons a rest ih =>
    cases a with
    | suspend => exact shut
    | update | broadcast | propose | submit | substrate | track | recordExecution =>
      exact ih (shut.perform different _)

theorem ShutOut.advance (shut : ShutOut s orderId status sent) {other : String}
    (different : orderId ≠ other) (task : Nat) (calls : List Action) :
    ShutOut (s.advance task other calls) orderId status sent := by
  have ran := shut.runToAwait different calls
  unfold LoopState.advance
  cases ended : (s.runToAwait other calls).2 with
  | some rest =>
    simp only [ended]
    refine ⟨ran.closed, ?_, ran.submitted⟩
    rintro ⟨kind, member⟩
    rcases List.mem_or_eq_of_mem_set member with old | new
    · exact shut.unheld ⟨kind, old⟩
    · exact different (Prod.mk.inj new).1
  | none =>
    simp only [ended]
    refine ⟨ran.closed, ?_, ran.submitted⟩
    rintro ⟨kind, member⟩
    exact shut.unheld ⟨kind, List.mem_of_mem_eraseIdx member⟩

theorem ShutOut.other_of_task (shut : ShutOut s orderId status sent) {task : Nat} {other : String}
    {kind : Task} (found : s.tasks[task]? = some (other, kind)) : orderId ≠ other := by
  rintro rfl
  exact shut.unheld ⟨kind, List.mem_of_getElem? found⟩

theorem ShutOut.submitOrder (shut : ShutOut s orderId status sent) (order : BookOrder) :
    ShutOut (s.submitOrder order) orderId status sent := by
  unfold LoopState.submitOrder
  cases found : s.book.get? order.orderId with
  | some taken => exact shut
  | none =>
    refine ⟨⟨?_, shut.closed.2⟩, shut.unheld, shut.submitted⟩
    have different : orderId ≠ order.orderId := by
      rintro rfl
      have held := shut.closed.1
      rw [Book.statusOf, found] at held
      cases held
    rw [Book.statusOf, Dict.get?_set_ne _ _ different]
    exact shut.closed.1

variable (node : Processor) (str : PyError → String) (lower : String → String)

theorem ShutOut.beginTask (shut : ShutOut s orderId status sent) (task : Nat)
    (answers : OrderAnswers) : ShutOut (s.beginTask node str task answers) orderId status sent := by
  unfold LoopState.beginTask
  split
  next other found =>
    split
    · exact shut.advance (shut.other_of_task found) task _
    · exact shut
  · exact shut

theorem ShutOut.resumeTask (shut : ShutOut s orderId status sent) (task : Nat) :
    ShutOut (s.resumeTask task) orderId status sent := by
  unfold LoopState.resumeTask
  split
  next other rest found => exact shut.advance (shut.other_of_task found) task rest
  · exact shut

theorem ShutOut.step (shut : ShutOut s orderId status sent) (e : LoopEvent) :
    ShutOut (loopStep node str lower s e).1 orderId status sent := by
  cases e with
  | submit order => exact shut.submitOrder order
  | cancel other submittedBy =>
    exact ⟨shut.closed.cancel lower other submittedBy, shut.unheld, shut.submitted⟩
  | expireStale now => exact ⟨shut.closed.expireStale now, shut.unheld, shut.submitted⟩
  | snapshotOpen now floor maxCount =>
    refine ⟨shut.closed.snapshotOpen now floor maxCount, ?_, shut.submitted⟩
    rintro ⟨kind, member⟩
    rcases List.mem_append.mp member with old | new
    · exact shut.unheld ⟨kind, old⟩
    · obtain ⟨claimed, taken, same⟩ := List.mem_map.mp new
      rw [(Prod.mk.inj same).1] at taken
      exact shut.closed.not_claimed now floor _ taken
  | begin task answers => exact shut.beginTask node str task answers
  | resume task => exact shut.resumeTask task
  | drop task =>
    refine ⟨shut.closed, ?_, shut.submitted⟩
    rintro ⟨kind, member⟩
    exact shut.unheld ⟨kind, List.mem_of_mem_eraseIdx member⟩

end

theorem Book.statusOf_cancel {lower : String → String} {book : Book} {orderId submittedBy}
    (done : (book.cancel lower orderId submittedBy).2 = .done true) :
    Book.statusOf (book.cancel lower orderId submittedBy).1 orderId = some .cancelled := by
  unfold Book.cancel at done ⊢
  cases found : book.get? orderId with
  | none => simp [found] at done
  | some order =>
    simp only [found] at done ⊢
    split at done
    · cases done
    · split at done
      next owner withdrawn =>
        rw [if_neg owner, if_pos withdrawn, Book.statusOf, Dict.get?_set_self]
        rfl
      · cases done

section

variable {node : Processor} {str : PyError → String} {lower : String → String}

theorem Closes.shutOut {s : LoopState} {e orderId status}
    (closes : Closes node str lower s e orderId status) (unheld : ¬ s.Holds orderId) :
    ShutOut (loopStep node str lower s e).1 orderId status
      ((loopStep node str lower s e).1.submissions.count orderId) := by
  cases e with
  | cancel id submittedBy =>
    obtain ⟨rfl, rfl, done⟩ := closes
    exact ⟨⟨Book.statusOf_cancel (LoopOutput.cancelled.inj done), rfl⟩, unheld, rfl⟩
  | expireStale now =>
    obtain ⟨rfl, -, expired⟩ := closes
    exact ⟨⟨expired, rfl⟩, unheld, rfl⟩
  | submit | snapshotOpen | begin | resume | drop => exact closes.elim

/-- An order that is closed while no tick holds it keeps its terminal status in every
    later state of every run, and no plan of it is submitted any more. -/
theorem closed_order_is_final {s t : LoopState} {e : LoopEvent} {orderId : String}
    {status : OrderStatus} (closes : Closes node str lower s e orderId status)
    (unheld : ¬ s.Holds orderId)
    (later : Reaches (loopStep node str lower) (fun _ _ => True)
      (loopStep node str lower s e).1 t) :
    StaysClosed (loopStep node str lower s e).1 t orderId status := by
  have shut := later.invariant
    (fun t => ShutOut t orderId status
      ((loopStep node str lower s e).1.submissions.count orderId))
    (closes.shutOut unheld) (fun _ e kept _ => kept.step node str lower e)
  exact ⟨shut.closed.1, shut.submitted⟩

end

def dexProcessor : Processor where
  orchestrator := {
    host := spellingHost
    jsonDumps := fun _ => ""
    discounted := fun text => .ok text }

def swapOrder : BookOrder where
  orderId := "ord_1"
  appId := "dex"
  intentFunction := "swap"
  params := []
  submittedBy := "0xuser"
  deadline := .fin 1000

def settledAnswers : OrderAnswers where
  app := some 5000
  contract := "0xdex"
  generate := .ok (some {})
  simulate := .ok { success := true, onChainScore := some 9000 }
  score := .ok (some (.fin 1))
  planHash := .ok "0x01"
  propose := .ok { reached := true }
  crossChain := { submit := .error (.other "unused") }
  submit := .ok { success := true, txHash := some "0xaa" }
  leg := fun _ => {
    simulate := .error (.other "unused"), score := .ok none, propose := .error (.other "unused")
    submit := .error (.other "unused") }
  rollback := fun _ => .error (.other "unused")
  now := 10

def errorText : PyError → String
  | .other name => name
  | _ => "error"

def claimedState : LoopState :=
  runEvents (loopStep dexProcessor errorText id) {} [.submit swapOrder, .snapshotOpen 5 (.fin 60) 50]

def filledState : LoopState :=
  runEvents (loopStep dexProcessor errorText id)
    (loopStep dexProcessor errorText id claimedState (.cancel "ord_1" "0xuser")).1
    [.begin 0 settledAnswers, .resume 0, .resume 0, .resume 0, .resume 0, .resume 0, .resume 0]

theorem filledState_status : filledState.book.statusOf "ord_1" = some .filled := by decide +kernel

/-- `cancel` returns `True` for a claimed order, and the order is submitted and filled. -/
theorem cancelled_order_is_filled :
    ¬ ∀ (node : Processor) (str : PyError → String) (lower : String → String) (s t : LoopState)
        (e : LoopEvent) (orderId : String) (status : OrderStatus),
      Reaches (loopStep node str lower) (fun _ _ => True) {} s →
      Closes node str lower s e orderId status →
      Reaches (loopStep node str lower) (fun _ _ => True) (loopStep node str lower s e).1 t →
      StaysClosed (loopStep node str lower s e).1 t orderId status := by
  intro final
  have cancelled : Closes dexProcessor errorText id claimedState (.cancel "ord_1" "0xuser") "ord_1"
      .cancelled := ⟨rfl, rfl, by decide +kernel⟩
  have stays := final dexProcessor errorText id claimedState filledState (.cancel "ord_1" "0xuser")
    "ord_1" .cancelled (reaches_runEvents _ _ _) cancelled (reaches_runEvents _ _ _)
  have status := stays.1
  rw [filledState_status] at status
  cases status

/-- Cancelled while it was still open, the order is left alone by the next tick. -/
theorem closed_order_is_final_open :
    StaysClosed
      (loopStep dexProcessor errorText id
        (runEvents (loopStep dexProcessor errorText id) {} [.submit swapOrder])
        (.cancel "ord_1" "0xuser")).1
      (runEvents (loopStep dexProcessor errorText id)
        (loopStep dexProcessor errorText id
          (runEvents (loopStep dexProcessor errorText id) {} [.submit swapOrder])
          (.cancel "ord_1" "0xuser")).1
        [.snapshotOpen 5 (.fin 60) 50, .begin 0 settledAnswers, .resume 0])
      "ord_1" .cancelled := by
  refine closed_order_is_final (e := .cancel "ord_1" "0xuser") ⟨rfl, rfl, by decide +kernel⟩ ?_
    (reaches_runEvents _ _ _)
  rintro ⟨kind, member⟩
  have idle : (runEvents (loopStep dexProcessor errorText id) {} [.submit swapOrder]).tasks = [] := by
    rfl
  rw [idle] at member
  cases member

end MinotaurSubnet.Blockloop
