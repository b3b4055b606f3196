import Mathlib.Data.List.Induction
import MinotaurSubnet.Blockloop.Cancellation
import MinotaurSubnet.Blockloop.MultiLegConsensus

/-! # What a restart finds of an order

The pipeline persists the order after almost every write, under whatever status it has come to.
A restart reads back the orders that are stored as OPEN and no others.
-/

namespace MinotaurSubnet.Blockloop

open Library Python Consensus Shared Orderbook

structure BookAndStore where
  book : Book := Dict.empty
  store : Book := Dict.empty

/-- `OrderPersistence.sync`; `saves` says whether `save_order` goes through. A failure is only
    logged. -/
def BookAndStore.sync (s : BookAndStore) (orderId : String) (saves : Bool) : BookAndStore :=
  match s.book.get? orderId with
  | some order => if saves then { s with store := s.store.set orderId order } else s
  | none => s

/-- The order a row is read back as: what is not read keeps its default. -/
def reinjected (row : BookOrder) : BookOrder :=
  { toOrder := row.toOrder
    status := .open_
    executionCount := row.executionCount
    lastFilledAt := row.lastFilledAt }

def reload (found : Book × Nat) (row : String × BookOrder) : Book × Nat :=
  match found.1.get? row.1 with
  | some _ => found
  | none => (found.1.set row.1 (reinjected row.2), found.2 + 1)

/-- `OrderPersistence.load_open_orders`, with the number of orders loaded. -/
def loadOpenOrders (store book : Book) : Book × Nat :=
  (store.entries.filter fun row => row.2.status = .open_).foldl reload (book, 0)

def BookAndStore.accept (s : BookAndStore) (order : BookOrder) (saves : Bool) : BookAndStore :=
  { s with book := s.book.set order.orderId { order with status := .open_ } }.sync order.orderId saves

/-- Whether `sync` follows an update; a signature is left to the next one. -/
def OrderUpdate.isSynced (u : OrderUpdate) : Bool := u.userSignature.isNone

def BookAndStore.perform (s : BookAndStore) (orderId : String) : Action × Bool → BookAndStore
  | (.update u, saves) =>
    let s := { s with book := s.book.updateOrder orderId u }
    if OrderUpdate.isSynced u then s.sync orderId saves else s
  | _ => s

def BookAndStore.run (s : BookAndStore) (orderId : String) (done : List (Action × Bool)) :
    BookAndStore := done.foldl (fun s call => s.perform orderId call) s

def BookAndStore.ComesBack (s : BookAndStore) (orderId : String) : Prop :=
  (loadOpenOrders s.store Dict.empty).1.statusOf orderId = some .open_

section

variable {orderId : String}

theorem reload_statusOf (found : Book × Nat) (row : String × BookOrder) :
    (reload found row).1.statusOf orderId = some .open_ ↔
      found.1.statusOf orderId = some .open_ ∨ (row.1 = orderId ∧ found.1.get? orderId = none) := by
  unfold reload
  cases held : found.1.get? row.1 with
  | some order =>
    constructor
    · exact .inl
    · rintro (back | ⟨rfl, absent⟩)
      · exact back
      · rw [held] at absent
        cases absent
  | none =>
    by_cases same : orderId = row.1
    · subst same
      simp [Book.statusOf, held, reinjected]
    · have other : row.1 ≠ orderId := fun eq => same eq.symm
      simp [Book.statusOf, Dict.get?_set_ne _ _ same, other]

theorem reload_get?_none {found row} :
    (reload found row).1.get? orderId = none ↔ found.1.get? orderId = none ∧ row.1 ≠ orderId := by
  unfold reload
  cases held : found.1.get? row.1 with
  | some order =>
    constructor
    · intro absent
      refine ⟨absent, ?_⟩
      rintro rfl
      rw [held] at absent
      cases absent
    · exact And.left
  | none =>
    rw [Dict.get?_set]
    split
    next same => simp [same]
    next other =>
      constructor
      · exact fun absent => ⟨absent, fun same => other same.symm⟩
      · exact And.left

/-- Induction on the rows: the first row of an order is put back, if the book lacks it. -/
theorem reload_all {rows : List (String × BookOrder)} {found} :
    (rows.foldl reload found).1.statusOf orderId = some .open_ ↔
      found.1.statusOf orderId = some .open_ ∨
        (found.1.get? orderId = none ∧ ∃ row ∈ rows, row.1 = orderId) := by
  induction rows generalizing found with
  | nil => simp
  | cons row rows ih =>
    rw [List.foldl_cons, ih, reload_statusOf, reload_get?_none]
    by_cases here : row.1 = orderId <;> simp [here]

theorem comesBack_iff {s : BookAndStore} :
    s.ComesBack orderId ↔ s.store.statusOf orderId = some .open_ := by
  unfold BookAndStore.ComesBack loadOpenOrders
  rw [reload_all]
  constructor
  · rintro (back | ⟨-, ⟨k, row⟩, member, rfl⟩)
    · cases back
    obtain ⟨stored, isOpen⟩ := List.mem_filter.mp member
    have found : s.store.get? k = some row := Dict.get?_eq_some.mpr stored
    have opened : row.status = .open_ := of_decide_eq_true isOpen
    rw [Book.statusOf, found, Option.map_some, opened]
  · intro stored
    obtain ⟨row, found, opened⟩ := Option.map_eq_some_iff.mp stored
    have listed : (orderId, row) ∈ s.store.entries.filter fun row => row.2.status = .open_ :=
      List.mem_filter.mpr ⟨Dict.get?_eq_some.mp found, decide_eq_true opened⟩
    exact .inr ⟨rfl, (orderId, row), listed, rfl⟩

end

/-- The call does not put the order back. -/
def Action.Onward : Action → Prop
  | .update u => u.status ≠ some .open_
  | _ => True

/-- Nothing is written to the order once it was put back. -/
def RequeueLast (past : List Action) : Action → Prop
  | .update _ => ∀ a ∈ past, a.Onward
  | _ => True

theorem Action.Staged.onward {a : Action} (staged : a.Staged) : a.Onward := by
  cases a with
  | update u => exact staged.1
  | suspend | propose | submit | broadcast | substrate | track | recordExecution => trivial

theorem Action.Passing.onward {a : Action} (passing : a.Passing) : a.Onward := by
  cases a with
  | update u => exact passing.2
  | suspend | propose | submit | broadcast | substrate | track | recordExecution => trivial

section

variable {node : Processor} {order : BookOrder} {answers : OrderAnswers} {α : Type}

theorem setStatus_onward {status} (other : status ≠ .open_) :
    (setStatus status).All Action.Onward := (setStatus_staged other).imp fun _ => Action.Staged.onward

theorem setStatusError_onward {status error} (other : status ≠ .open_) :
    (setStatusError status error).All Action.Onward :=
  (setStatusError_staged other).imp fun _ => Action.Staged.onward

section

variable {orchestrator : Orchestrator} {plan : MultiLegPlan} {mocks : SimulationMocks}
  {legs : Nat → LegAnswers} {rollback : Nat → Except PyError SubmitResult}

theorem abandon_onward {completed} :
    (abandon order plan rollback completed : Pipeline α).All Action.Onward :=
  abandon_all order plan rollback (fun _ passing => passing.onward) (fun _ => trivial) completed

theorem consultLeg_onward {position legPlan completed answer} :
    (consultLeg orchestrator order plan rollback position legPlan completed answer).All Action.Onward := by
  unfold consultLeg
  split
  · refine (Traced.all_lift _).bind fun _ _ => ?_
    have asked : (askPeers order plan rollback position completed answer).All Action.Onward := by
      refine call_all trivial (call_all trivial ?_)
      cases answer with
      | error e => exact Traced.all_pure _
      | ok result =>
        dsimp only
        split
        · exact Traced.all_pure _
        · exact abandon_onward
    cases orchestrator.hasPeers with
    | true => exact call_all trivial asked
    | false => exact asked
  · exact Traced.all_pure _

theorem submitLeg_onward {position leg completed consensus answer} :
    (submitLeg order plan rollback position leg completed consensus answer).All Action.Onward := by
  refine call_all trivial (call_all trivial ?_)
  cases answer with
  | error e => exact abandon_onward
  | ok result =>
    dsimp only
    split
    · exact Traced.all_pure _
    · exact abandon_onward

theorem forwardLegs_onward {position left progress} :
    (forwardLegs orchestrator order plan mocks legs rollback position left progress).All
      Action.Onward := by
  induction left generalizing position progress with
  | nil => exact Traced.all_pure _
  | cons leg rest ih =>
    refine Traced.All.bind ?_ fun _ _ => ih
    have prepares := prepareLeg_all orchestrator order plan mocks legs
      (fun _ passing => passing.onward) (fun _ _ _ _ _ => trivial) position leg progress
    refine prepares.bind fun ready _ => consultLeg_onward.bind fun _ _ => ?_
    exact submitLeg_onward.bind fun _ _ => Traced.all_pure _

theorem processMultiLeg_onward :
    (processMultiLeg orchestrator order plan mocks legs rollback).All Action.Onward := by
  refine forwardLegs_onward.bind fun _ _ => ?_
  refine call_all (by simp [Action.Onward]) ?_
  exact call_all trivial (Traced.all_pure _)

end

theorem multiLegPath_onward {plan} :
    (multiLegPath node order answers plan).All Action.Onward := by
  refine (Traced.all_lift _).bind fun multiLeg _ => ?_
  cases multiLeg with
  | none => exact Traced.all_pure _
  | some multiLeg =>
    dsimp only
    split
    · exact processMultiLeg_onward.bind fun _ _ => Traced.all_stop _
    · exact Traced.all_pure _

theorem substrateAction_onward {action answer} :
    (substrateAction action answer).All Action.Onward := by
  have acts : (do
      Traced.emit (.substrate action)
      Traced.emit .suspend
      let result ← Pipeline.raising answer
      if result.success then
        return if action = "bridge_deposit" then some (result.txHash.getD "") else none
      else do
        setStatusError .rejected (some s!"Substrate {action} failed: {orNone result.error}")
        .stop (.returned false) : Pipeline (Option String)).All Action.Onward := by
    refine call_all trivial (call_all trivial ?_)
    refine (Traced.all_lift _).bind fun result _ => ?_
    split
    · exact Traced.all_pure _
    · exact (setStatusError_onward (by decide)).bind fun _ _ => Traced.all_stop _
  unfold substrateAction
  by_cases unstakes : action = "remove_stake"
  · rw [if_pos unstakes]
    exact (setStatus_onward (by decide)).bind fun _ _ => acts
  · rw [if_neg unstakes]
    exact acts

theorem substrateActions_onward {actions deposit} :
    (substrateActions actions deposit).All Action.Onward := by
  induction actions generalizing deposit with
  | nil => exact Traced.all_pure _
  | cons action rest ih => exact substrateAction_onward.bind fun _ _ => ih

theorem substratePhase_onward {legs} : (substratePhase legs).All Action.Onward := by
  unfold substratePhase
  split
  · exact Traced.all_pure _
  · split
    · exact substrateActions_onward
    · exact (setStatusError_onward (by decide)).bind fun _ _ => Traced.all_stop _

theorem sourcePhase_onward {legs consensus} :
    (sourcePhase legs consensus).All Action.Onward := by
  refine (Traced.all_lift _).bind fun sourced _ => ?_
  split
  · refine call_all trivial (call_all trivial ?_)
    refine (Traced.all_lift _).bind fun result _ => ?_
    split
    · exact Traced.all_pure _
    · exact (setStatusError_onward (by decide)).bind fun _ _ => Traced.all_stop _
  · exact Traced.all_pure _

theorem submitCrossChain_onward {legs consensus} :
    (submitCrossChain legs consensus).All Action.Onward := by
  have recorded : (do
      Traced.emit (.recordExecution none true)
      return true : Pipeline Bool).All Action.Onward := call_all trivial (Traced.all_pure _)
  refine substratePhase_onward.bind fun deposit _ => sourcePhase_onward.bind fun source _ => ?_
  generalize (if source = "" then deposit else source) = txHash
  have ends : (if legs.hasBridgeTracker && txHash ≠ "" then do
      setStatus .bridging
      Traced.emit (.recordExecution none true)
      return true
    else do
      setStatus .filled
      Traced.emit (.recordExecution none true)
      return true : Pipeline Bool).All Action.Onward := by
    split
    · exact (setStatus_onward (by decide)).bind fun _ _ => recorded
    · exact (setStatus_onward (by decide)).bind fun _ _ => recorded
  by_cases sent : txHash ≠ ""
  · rw [if_pos sent]
    exact call_all (by simp [Action.Onward]) ends
  · rw [if_neg sent]
    exact ends

end

open Traced (Ensures ensures_pure ensures_emit ensures_stop ensures_of_all)

/-- No call so far put the order back. -/
abbrev Clean (past : List Action) : Prop := ∀ a ∈ past, a.Onward

section

variable {node : Processor} {order : BookOrder} {answers : OrderAnswers} {past : List Action}
  {α : Type} {post : α → List Action → Prop}

theorem ensures_onward {x : Pipeline α} (onward : x.All Action.Onward) (clean : Clean past) :
    Ensures RequeueLast past x fun _ past => Clean past := by
  have clean_append {more : List Action} (later : ∀ a ∈ more, a.Onward) : Clean (past ++ more) := by
    intro a member
    rcases List.mem_append.mp member with before | after
    · exact clean a before
    · exact later a after
  refine ⟨fun before e after split => ?_, fun _ _ => clean_append onward⟩
  cases e with
  | update u =>
    apply clean_append
    intro a member
    exact onward a (by simp [split, member])
  | suspend | propose | submit | broadcast | substrate | track | recordExecution => trivial

theorem ensures_staged {x : Pipeline α} (staged : x.All Action.Staged) (clean : Clean past) :
    Ensures RequeueLast past x fun _ past => Clean past :=
  ensures_onward (staged.imp fun _ => Action.Staged.onward) clean

theorem call_last {a : Action} {next : Unit → Pipeline α} (onward : a.Onward) (clean : Clean past)
    (rest : ∀ past, Clean past → Ensures RequeueLast past (next ()) post) :
    Ensures RequeueLast past (Traced.emit a >>= next) post :=
  (ensures_onward (Traced.all_emit.mpr onward) clean).bind fun _ past clean => rest past clean

theorem ensures_written {u e} (clean : Clean past) :
    Ensures RequeueLast past (do
      Traced.emit (.update u)
      .stop e : Pipeline α) post :=
  (Traced.ensures_emitted (ε := Stop) clean).bind fun _ _ _ => ensures_stop

theorem requeueOr_last {otherwise} (clean : Clean past)
    (other : Ensures RequeueLast past otherwise post) :
    Ensures RequeueLast past (requeueOr order answers otherwise) post := by
  unfold requeueOr
  split
  · exact ensures_written clean
  · exact other

theorem rejected_last {error score} (clean : Clean past) :
    Ensures RequeueLast past (rejectDebited error score : Pipeline α) post := by
  refine (Traced.ensures_emitted clean).bind fun _ _ _ => ?_
  exact (Traced.ensures_emitted trivial).bind fun _ _ _ => ensures_stop

theorem generatePlan_last (clean : Clean past) :
    Ensures RequeueLast past (generatePlan order answers) fun _ past => Clean past := by
  refine call_last trivial clean fun past clean => ?_
  refine (ensures_onward (Traced.all_lift _) clean).bind fun generated past clean => ?_
  cases generated with
  | some plan => exact ensures_pure clean
  | none => exact requeueOr_last clean (rejected_last clean)

theorem onChainScoreGate_last {threshold simulation} (clean : Clean past) :
    Ensures RequeueLast past (onChainScoreGate node order answers threshold simulation)
      fun _ past => Clean past := by
  unfold onChainScoreGate
  split
  · split
    · exact requeueOr_last clean (rejected_last clean)
    · exact ensures_pure clean
  · split
    · exact requeueOr_last clean (rejected_last clean)
    · exact ensures_pure clean

theorem deferOrReject_last {reason} (clean : Clean past) :
    Ensures RequeueLast past (deferOrReject node order answers reason : Pipeline α) post := by
  unfold deferOrReject
  dsimp only
  split
  · exact ensures_written clean
  · split
    · exact ensures_written clean
    · exact ensures_written clean

theorem consultOrder_last (clean : Clean past) :
    Ensures RequeueLast past (consultOrder node order answers) fun _ past => Clean past := by
  unfold consultOrder
  split
  · refine (ensures_onward (Traced.all_lift _) clean).bind fun _ past clean => ?_
    split
    · exact deferOrReject_last clean
    · have verdict : ∀ (result : ConsensusResult) (past : List Action), Clean past →
          Ensures RequeueLast past
            (if result.reached then return some result
            else deferOrReject node order answers "Consensus not reached" :
              Pipeline (Option ConsensusResult)) fun _ past => Clean past := by
        intro result past clean
        split
        · exact ensures_pure clean
        · exact deferOrReject_last clean
      have proposed : ∀ past : List Action, Clean past → Ensures RequeueLast past (do
          let result ← proposeOrder answers
          if node.hasPeers && answers.broadcastPending then .emit .suspend
          if result.reached then return some result
          else deferOrReject node order answers "Consensus not reached" :
            Pipeline (Option ConsensusResult)) fun _ past => Clean past := by
        intro past clean
        refine (ensures_staged proposeOrder_staged clean).bind fun result past clean => ?_
        dsimp only
        split
        · refine call_last trivial clean fun past clean => ?_
          exact verdict result past clean
        · exact verdict result past clean
      by_cases peers : node.hasPeers = true
      · rw [if_pos peers]
        exact call_last trivial clean proposed
      · rw [if_neg peers]
        exact proposed past clean
  · exact ensures_pure clean

theorem settle_last {score consensus} (clean : Clean past) :
    Ensures RequeueLast past (settle node order answers score consensus) fun _ _ => True := by
  have records : ∀ (past : List Action) (result : SubmitResult) (approved : Bool),
      Ensures RequeueLast past (do
        recordSettlement node score result
        return approved : Pipeline Bool) fun _ _ => True := by
    intro past result approved
    refine (ensures_of_all ?_).bind fun _ _ _ => ensures_pure trivial
    unfold recordSettlement
    split
    · exact Traced.all_emit.mpr fun _ => trivial
    · split
      · exact Traced.all_pure _
      · exact Traced.all_emit.mpr fun _ => trivial
  refine call_last trivial clean fun past clean => ?_
  refine call_last trivial clean fun past clean => ?_
  refine (ensures_onward (Traced.all_lift _) clean).bind fun result past clean => ?_
  split
  · refine call_last (by simp [Action.Onward]) clean fun past clean => ?_
    have reopened : Ensures RequeueLast past (reopenPerpetual order answers) fun _ _ => True := by
      unfold reopenPerpetual
      split
      · refine call_last (by simp [Action.Onward]) clean fun past clean => ?_
        split
        · exact ensures_emit clean trivial
        · exact ensures_pure trivial
      · exact ensures_pure trivial
    exact reopened.bind fun _ past _ => records past result true
  · refine (ensures_onward (setStatusError_onward (by decide)) clean).bind fun _ past clean => ?_
    exact records past result false

theorem submitApproved_last {plan simulation consensus} (clean : Clean past) :
    Ensures RequeueLast past (submitApproved node order answers plan simulation consensus)
      fun _ _ => True := by
  refine (ensures_onward (setStatusError_onward (by decide)) clean).bind fun _ past clean => ?_
  refine (ensures_staged autoSign_staged clean).bind fun _ past clean => ?_
  split
  · exact ensures_pure trivial
  · split
    · have crosses := ensures_onward (@submitCrossChain_onward answers.crossChain consensus) clean
      exact ⟨crosses.1, fun _ _ => trivial⟩
    · exact settle_last clean

theorem processOrder_last : Ensures RequeueLast [] (processOrder node order answers) fun _ _ => True := by
  have clean : Clean [] := fun _ member => (List.not_mem_nil member).elim
  unfold processOrder
  split
  · exact ensures_written clean
  · next threshold known =>
    refine (ensures_staged fundsGate_staged clean).bind fun _ past clean => ?_
    refine (generatePlan_last clean).bind fun generated past clean => ?_
    refine (ensures_onward (Traced.all_lift _) clean).bind fun fee past clean => ?_
    refine (ensures_staged policyGate_staged clean).bind fun _ past clean => ?_
    refine (ensures_onward (setStatus_onward (by decide)) clean).bind fun _ past clean => ?_
    refine (ensures_staged compilePlan_staged clean).bind fun plan past clean => ?_
    refine (ensures_onward multiLegPath_onward clean).bind fun _ past clean => ?_
    refine (ensures_staged simulatePlan_staged clean).bind fun simulation past clean => ?_
    refine (ensures_staged certifyFeeGate_staged clean).bind fun _ past clean => ?_
    refine (ensures_staged scorePlan_staged clean).bind fun _ past clean => ?_
    refine (onChainScoreGate_last clean).bind fun _ past clean => ?_
    refine (consultOrder_last clean).bind fun consensus past clean => ?_
    exact submitApproved_last clean

end

def statusAfter (status : OrderStatus) (done : List Action) : OrderStatus :=
  done.foldl (fun status a => match a with
    | .update u => u.status.getD status
    | _ => status) status

def isTerminal : OrderStatus → Bool
  | .filled | .rejected | .expired | .cancelled | .bridgeFailed | .rolledBack | .partialRollback => true
  | _ => false

/-- A pass cut short: what it did, with how each save of it went, before it submitted anything and
    while the order was alive. -/
structure CrashPoint (node : Processor) (order : BookOrder) (answers : OrderAnswers) where
  done : List (Action × Bool)
  reached : done.map Prod.fst <+: (processOrder node order answers).trace
  unsent : ∀ what consensus, Action.submit what consensus ∉ done.map Prod.fst
  alive : isTerminal (statusAfter order.status (done.map Prod.fst)) = false

/-- A save of the order went through at `u`. -/
def SavedAt (done : List (Action × Bool)) (u : OrderUpdate) : Prop :=
  (.update u, true) ∈ done ∧ OrderUpdate.isSynced u = true

/-- No save of the pass went through yet. -/
def Unsaved (done : List (Action × Bool)) : Prop := ∀ u, ¬ SavedAt done u

def PutBack (done : List (Action × Bool)) : Prop := ∃ u, SavedAt done u ∧ u.status = some .open_

structure Claimed (s : BookAndStore) (order : BookOrder) : Prop where
  held : s.book.get? order.orderId = some order
  assigned : order.status = .assigned

theorem claimed_of_snapshot {s : BookAndStore} {orderId} {order : BookOrder} {now floor maxCount}
    (held : s.book.get? orderId = some order) (named : order.orderId = orderId)
    (taken : orderId ∈ (s.book.snapshotOpen now floor maxCount).2) :
    Claimed { s with book := (s.book.snapshotOpen now floor maxCount).1 }
      { order with status := .assigned } := by
  subst named
  refine ⟨?_, rfl⟩
  unfold Book.snapshotOpen at taken ⊢
  rw [Dict.get?_mapValues, held, Option.map_some, if_pos taken]

section

variable {s : BookAndStore} {order : BookOrder} {done : List (Action × Bool)} {orderId : String}

variable {status : OrderStatus} {u : OrderUpdate}

theorem statusAfter_snoc {done a} :
    statusAfter status (done ++ [a]) = match a with
      | .update u => u.status.getD (statusAfter status done)
      | _ => statusAfter status done := by
  simp [statusAfter]

theorem statusAfter_of_clean {done} (closed : status ≠ .open_) (clean : Clean done) :
    statusAfter status done ≠ .open_ := by
  induction done using List.reverseRecOn with
  | nil => exact closed
  | append_singleton done a ih =>
    have before := ih fun a member => clean a (List.mem_append_left _ member)
    have onward := clean a (by simp)
    rw [statusAfter_snoc]
    cases a with
    | update u =>
      dsimp only
      cases written : u.status with
      | none => exact before
      | some status' =>
        intro back
        exact onward (by rw [written, ← back]; rfl)
    | suspend | propose | submit | broadcast | substrate | track | recordExecution => exact before

theorem run_snoc {call} :
    s.run orderId (done ++ [call]) = (s.run orderId done).perform orderId call := by
  simp [BookAndStore.run]

theorem updateOrder_status {book : Book} (held : book.statusOf orderId = some status) :
    (book.updateOrder orderId u).statusOf orderId = some (u.status.getD status) := by
  obtain ⟨row, found, rfl⟩ := Option.map_eq_some_iff.mp held
  rw [Book.statusOf, Book.updateOrder, found]
  simp

theorem sync_book {saves} : (s.sync orderId saves).book = s.book := by
  unfold BookAndStore.sync
  split
  · split <;> rfl
  · rfl

theorem perform_book {saves} :
    (s.perform orderId (.update u, saves)).book = s.book.updateOrder orderId u := by
  unfold BookAndStore.perform
  dsimp only
  split
  · exact sync_book
  · rfl

theorem run_status (held : s.book.statusOf orderId = some order.status) :
    (s.run orderId done).book.statusOf orderId =
      some (statusAfter order.status (done.map Prod.fst)) := by
  induction done using List.reverseRecOn with
  | nil => exact held
  | append_singleton done call ih =>
    obtain ⟨a, saves⟩ := call
    rw [run_snoc, List.map_append, List.map_singleton, statusAfter_snoc]
    cases a with
    | update u =>
      rw [perform_book]
      exact updateOrder_status ih
    | suspend | propose | submit | broadcast | substrate | track | recordExecution => exact ih

theorem perform_store {saves} :
    (s.perform orderId (.update u, saves)).store.statusOf orderId =
      if saves && OrderUpdate.isSynced u then
        ((s.book.updateOrder orderId u).statusOf orderId).or (s.store.statusOf orderId)
      else s.store.statusOf orderId := by
  unfold BookAndStore.perform BookAndStore.sync
  dsimp only
  cases OrderUpdate.isSynced u with
  | false => simp
  | true =>
    cases saves with
    | false => cases (s.book.updateOrder orderId u).get? orderId <;> simp
    | true =>
      cases found : (s.book.updateOrder orderId u).get? orderId with
      | none => simp [Book.statusOf, found]
      | some row => simp [Book.statusOf, found]

theorem savedAt_snoc {a saves} :
    SavedAt (done ++ [(a, saves)]) u ↔
      SavedAt done u ∨ (a = .update u ∧ saves = true ∧ OrderUpdate.isSynced u = true) := by
  simp [SavedAt]
  constructor
  · rintro ⟨before | ⟨rfl, rfl⟩, synced⟩
    · exact .inl ⟨before, synced⟩
    · exact .inr ⟨rfl, rfl, synced⟩
  · rintro (⟨before, synced⟩ | ⟨rfl, rfl, synced⟩)
    · exact ⟨.inl before, synced⟩
    · exact ⟨.inr ⟨rfl, rfl⟩, synced⟩

theorem putBack_saved (clean : Clean (done.map Prod.fst)) (synced : OrderUpdate.isSynced u = true) :
    PutBack (done ++ [(.update u, true)]) ↔ u.status = some .open_ := by
  constructor
  · rintro ⟨u', saved, back⟩
    rcases savedAt_snoc.mp saved with early | ⟨same, -, -⟩
    · exact absurd back (clean (.update u') (List.mem_map.mpr ⟨_, early.1, rfl⟩))
    · rw [Action.update.inj same]
      exact back
  · exact fun back => ⟨u, savedAt_snoc.mpr (.inr ⟨rfl, rfl, synced⟩), back⟩

theorem getD_open {written : Option OrderStatus} (idle : status ≠ .open_) :
    written.getD status = .open_ ↔ written = some .open_ := by
  cases written with
  | none => simp [idle]
  | some written => simp

theorem run_stored_open (claimed : Claimed s order)
    (last : Follows RequeueLast (done.map Prod.fst)) :
    (s.run order.orderId done).store.statusOf order.orderId = some .open_ ↔
      (s.store.statusOf order.orderId = some .open_ ∧ Unsaved done) ∨ PutBack done := by
  induction done using List.reverseRecOn with
  | nil => simp [BookAndStore.run, Unsaved, PutBack, SavedAt]
  | append_singleton done call ih =>
    obtain ⟨a, saves⟩ := call
    rw [List.map_append, List.map_singleton] at last
    have before := ih (follows_append.mp last).1
    have same (kept : ∀ u, ¬ (a = .update u ∧ saves = true ∧ OrderUpdate.isSynced u = true)) :
        (Unsaved (done ++ [(a, saves)]) ↔ Unsaved done) ∧
          (PutBack (done ++ [(a, saves)]) ↔ PutBack done) := by
      simp [Unsaved, PutBack, savedAt_snoc, kept]
    rw [run_snoc]
    cases a with
    | update u =>
      rw [perform_store]
      by_cases saved : (saves && OrderUpdate.isSynced u) = true
      · obtain ⟨rfl, synced⟩ := Bool.and_eq_true_iff.mp saved
        have clean : Clean (done.map Prod.fst) := last _ (.update u) [] rfl
        have idle : statusAfter order.status (done.map Prod.fst) ≠ .open_ :=
          statusAfter_of_clean (by simp [claimed.assigned]) clean
        have written : ¬ Unsaved (done ++ [(.update u, true)]) := fun unsaved =>
          unsaved u (savedAt_snoc.mpr (.inr ⟨rfl, rfl, synced⟩))
        have held : s.book.statusOf order.orderId = some order.status := by
          rw [Book.statusOf, claimed.held, Option.map_some]
        rw [if_pos saved, updateOrder_status (run_status held), Option.some_or,
          Option.some.injEq, getD_open idle, putBack_saved clean synced]
        simp [written]
      · rw [if_neg saved, before]
        have kept := same (by
          rintro u' ⟨eq, rfl, synced⟩
          rw [Action.update.inj eq] at saved
          exact saved (by simpa using synced))
        rw [kept.1, kept.2]
    | suspend | propose | submit | broadcast | substrate | track | recordExecution =>
      have kept := same (by simp)
      rw [kept.1, kept.2]
      exact before

end

/-- Wherever a pass is cut short: a restart puts the order back as OPEN iff its row was OPEN when the
    pass began and no save went through since, or the pass itself put it back. -/
theorem comes_back_iff {node : Processor} {order : BookOrder} {answers : OrderAnswers}
    {s : BookAndStore} (claimed : Claimed s order) (cut : CrashPoint node order answers) :
    (s.run order.orderId cut.done).ComesBack order.orderId ↔
      (s.store.statusOf order.orderId = some .open_ ∧ Unsaved cut.done) ∨ PutBack cut.done := by
  have whole : Follows RequeueLast (processOrder node order answers).trace := processOrder_last.1
  have last : Follows RequeueLast (cut.done.map Prod.fst) := whole.of_prefix cut.reached
  rw [comesBack_iff]
  exact run_stored_open claimed last

def assignedSwap : BookOrder := { swapOrder with status := .assigned }

def savedAndClaimed : BookAndStore :=
  let s := ({} : BookAndStore).accept swapOrder true
  { s with book := (s.book.snapshotOpen 5 (.fin 60) 50).1 }

theorem savedAndClaimed_claimed : Claimed savedAndClaimed assignedSwap :=
  claimed_of_snapshot (show _ = some swapOrder from rfl) rfl (by decide +kernel)

theorem swap_begins : ∃ rest, (processOrder dexProcessor assignedSwap settledAnswers).trace =
    .suspend :: .update { status := some .solved } :: .suspend :: rest := ⟨_, rfl⟩

def waitingForPlan : CrashPoint dexProcessor assignedSwap settledAnswers where
  done := [(.suspend, true)]
  reached := by
    obtain ⟨rest, trace⟩ := swap_begins
    rw [trace]
    exact ⟨_, rfl⟩
  unsent := by simp
  alive := rfl

def waitingForSimulation : CrashPoint dexProcessor assignedSwap settledAnswers where
  done := [(.suspend, true), (.update { status := some .solved }, true), (.suspend, true)]
  reached := by
    obtain ⟨rest, trace⟩ := swap_begins
    rw [trace]
    exact ⟨_, rfl⟩
  unsent := by simp
  alive := rfl

/-- The plan of an accepted order is generated and saved, and the leader stops while it is
    simulated: the order stays SOLVED. -/
theorem solved_order_is_stranded :
    ¬ ∀ (node : Processor) (order : BookOrder) (answers : OrderAnswers) (s : BookAndStore)
        (cut : CrashPoint node order answers), Claimed s order →
      s.store.statusOf order.orderId = some .open_ → (∀ call ∈ cut.done, call.2 = true) →
      (s.run order.orderId cut.done).ComesBack order.orderId := by
  intro always
  have back := always _ _ _ savedAndClaimed waitingForSimulation savedAndClaimed_claimed
    (by decide +kernel) (by simp [waitingForSimulation])
  rw [comesBack_iff] at back
  have stored : (savedAndClaimed.run "ord_1" waitingForSimulation.done).store.statusOf "ord_1" =
      some .solved := by decide +kernel
  cases back.symm.trans stored

/-- Before the plan is there the row is still OPEN. -/
theorem waiting_order_comes_back :
    (savedAndClaimed.run "ord_1" waitingForPlan.done).ComesBack "ord_1" := by
  refine (comes_back_iff savedAndClaimed_claimed waitingForPlan).mpr (.inl ⟨by decide +kernel, ?_⟩)
  rintro u ⟨saved, -⟩
  simp [waitingForPlan] at saved

end MinotaurSubnet.Blockloop
