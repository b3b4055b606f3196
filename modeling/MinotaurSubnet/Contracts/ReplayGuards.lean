import MinotaurSubnet.Contracts.CallEffects

/-! # How often an order and a plan are handled together

`executeIntent` marks the order and a leg marks its index, and neither reads the
other's mark. The leg index is an argument of the caller that no signature covers,
so one signed order and one approved plan pass once under each mark. Under a single
mark they pass once.
-/

namespace MinotaurSubnet.Contracts

open Library

/-- The mark that an execution of a one-shot order reads and sets. -/
inductive Guard where
  | order
  | leg (index : Nat)
  deriving DecidableEq

structure Handling where
  order : IntentOrder
  plan : ExecutionPlan
  guard : Guard
  deriving DecidableEq

def EntryPoint.handling? : EntryPoint → Option Handling
  | .executeIntent order plan _ _ => some ⟨order, plan, .order⟩
  | .executeLeg order plan legIndex _ _ => some ⟨order, plan, .leg legIndex⟩
  | .executeCrossChainLeg order plan legIndex _ _ => some ⟨order, plan, .leg legIndex⟩
  | _ => none

def Event.handling? {α : Type} : Event α → Option Handling
  | .call _ entry => entry.handling?
  | _ => none

/-- The contract with the executions that succeeded so far. -/
structure History (α : Type) where
  state : State α
  handled : List Handling

namespace History

variable {α : Type}

def step (app : App α) (h : History α) (event : Event α) :
    History α × Except Revert (List Log) :=
  let ran := Contracts.step app h.state event
  (⟨ran.1, if ran.2.isOk then event.handling?.toList ++ h.handled else h.handled⟩, ran.2)

def times (h : History α) (order : IntentOrder) (plan : ExecutionPlan) : Nat :=
  h.handled.countP fun x => x.order = order ∧ x.plan = plan

/-- The call does not present a one-shot order with a plan that was handled for it under
    another mark. -/
def OneGuard (h : History α) (event : Event α) : Prop :=
  ∀ x ∈ event.handling?, x.order.perpetual = false →
    ∀ y ∈ h.handled, y.order = x.order → y.plan = x.plan → y.guard = x.guard

instance (h : History α) (event : Event α) : Decidable (OneGuard h event) :=
  inferInstanceAs (Decidable (∀ x ∈ event.handling?, x.order.perpetual = false →
    ∀ y ∈ h.handled, y.order = x.order → y.plan = x.plan → y.guard = x.guard))

end History

/-- Only the user's own signature verifies for an order, and only signatures of validators
    that approved `PlanApproval(orderId, planHash, score)` are counted for it. -/
structure Unforgeable (verifier : Verifier) (domain : Bytes32) (signed : IntentOrder → Prop)
    (approved : Bytes32 → Bytes32 → Nat → Prop) : Prop where
  user : ∀ order sig, verifier.verifyUserSignature order sig domain = .ok true → signed order
  validators : ∀ orderId planHash score sigs registered n,
    verifier.verifyValidatorSignatures orderId planHash score sigs registered domain = .ok n →
      0 < n → approved orderId planHash score

def Guard.Marked (marks : ReplayMarks) (orderId : Bytes32) : Guard → Prop
  | .order => marks.executedOrders orderId = true
  | .leg index => marks.legExecuted orderId index = true

theorem recordLeg_marked (marks : ReplayMarks) (orderId : Bytes32) (legIndex : Nat) :
    Guard.Marked (recordLeg marks orderId legIndex) orderId (.leg legIndex) := by
  simp [Guard.Marked, recordLeg]

theorem recordLeg_keeps {marks orderId orderId' legIndex} {guard : Guard}
    (set : guard.Marked marks orderId') :
    guard.Marked (recordLeg marks orderId legIndex) orderId' := by
  cases guard with
  | order => exact set
  | leg index =>
    simp only [Guard.Marked, recordLeg, Function.update_apply] at set ⊢
    split
    next same =>
      rw [Function.update_apply]
      split
      · rfl
      · exact same ▸ set
    next => exact set

theorem recordOrder_marked {env marks marks' order}
    (recorded : recordOrder env marks order = .ok marks') (oneShot : order.perpetual = false) :
    Guard.Marked marks' order.orderId .order := by
  obtain ⟨-, executed⟩ := recordOrder_cases recorded
  simp [Guard.Marked, executed, oneShot]

theorem recordOrder_keeps {env marks marks' order orderId} {guard : Guard}
    (recorded : recordOrder env marks order = .ok marks') (set : guard.Marked marks orderId) :
    guard.Marked marks' orderId := by
  obtain ⟨legs, executed⟩ := recordOrder_cases recorded
  cases guard with
  | order =>
    simp only [Guard.Marked] at set ⊢
    rw [executed]
    split
    · exact set
    · rw [Function.update_apply]
      split
      · rfl
      · exact set
  | leg index => simpa only [Guard.Marked, legs] using set

section

variable {α : Type} {app : App α}

variable {entry : EntryPoint}

theorem Effect.keeps_marks {env} {s s' : State α} (effect : Effect app env s entry s') {orderId}
    {guard : Guard} (set : guard.Marked s.marks orderId) : guard.Marked s'.marks orderId := by
  cases effect with
  | intent unused marks escrow => exact recordOrder_keeps marks set
  | leg isLeg unused gate marks escrow => exact marks ▸ recordLeg_keeps set
  | deposit guards => exact set
  | release guards => exact set
  | refund guards paid => exact set
  | neither kind marks escrow => exact marks ▸ set

theorem step_keeps_marks (s : State α) (event : Event α) {orderId} {guard : Guard}
    (set : guard.Marked s.marks orderId) : guard.Marked (step app s event).1.marks orderId := by
  obtain ⟨env, entry, logs, -, -, effect⟩ | ⟨marks, -, -⟩ := step_cases app s event
  · exact effect.keeps_marks set
  · exact marks ▸ set

theorem handling?_of_leg? {order plan legIndex}
    (isLeg : entry.leg? = some (order, plan, legIndex)) :
    entry.handling? = some ⟨order, plan, .leg legIndex⟩ := by
  cases entry <;> simp_all [EntryPoint.leg?, EntryPoint.handling?]

theorem handling?_of_marksNothing (kind : entry.marksNothing = true) :
    entry.handling? = none := by
  cases entry <;> first | rfl | cases kind

theorem Effect.handles {env s s' x} (effect : Effect app env s entry s')
    (handles : entry.handling? = some x) (oneShot : x.order.perpetual = false) :
    ¬ x.guard.Marked s.marks x.order.orderId ∧ x.guard.Marked s'.marks x.order.orderId := by
  cases effect with
  | intent unused marks escrow =>
    cases handles
    exact ⟨by simp [Guard.Marked, unused oneShot], recordOrder_marked marks oneShot⟩
  | leg isLeg unused gate marks escrow =>
    rw [handling?_of_leg? isLeg] at handles
    cases handles
    exact ⟨by simp [Guard.Marked, unused], marks ▸ recordLeg_marked s.marks _ _⟩
  | deposit guards => cases handles
  | release guards => cases handles
  | refund guards paid => cases handles
  | neither kind marks escrow =>
    rw [handling?_of_marksNothing kind] at handles
    cases handles

theorem step_handles {s event x} (returned : (step app s event).2.isOk = true)
    (handles : event.handling? = some x) :
    ∃ env entry, entry.handling? = some x ∧ Effect app env s entry (step app s event).1 := by
  obtain ⟨env, entry, logs, rfl, -, effect⟩ | ⟨-, -, ⟨env, entry, e, rfl, failed⟩ | noCall⟩ :=
    step_cases app s event
  · exact ⟨env, entry, handles, effect⟩
  · simp [step, failed, Except.isOk, Except.toBool] at returned
  · cases event with
    | call env entry => exact absurd rfl (noCall env entry)
    | incoming token amount => cases handles
    | outside world => cases handles

end

namespace History

variable {α : Type} {app : App α}

/-- Every one-shot execution has left its mark, and none happened twice. -/
structure Marks (h : History α) : Prop where
  marked : ∀ x ∈ h.handled, x.order.perpetual = false → x.guard.Marked h.state.marks x.order.orderId
  once : ∀ order plan, order.perpetual = false → h.times order plan ≤ 1

theorem Marks.step {h : History α} (inv : h.Marks) {event} (oneGuard : h.OneGuard event) :
    (h.step app event).1.Marks := by
  have kept : ∀ x ∈ h.handled, x.order.perpetual = false →
      x.guard.Marked (h.step app event).1.state.marks x.order.orderId :=
    fun x member oneShot => step_keeps_marks h.state event (inv.marked x member oneShot)
  by_cases returned : (Contracts.step app h.state event).2.isOk = true
  · cases handles : event.handling? with
    | none =>
      have same : (h.step app event).1.handled = h.handled := by
        simp [History.step, returned, handles]
      exact ⟨by rwa [same], by simpa only [times, same] using inv.once⟩
    | some x =>
      have next : (h.step app event).1.handled = x :: h.handled := by
        simp [History.step, returned, handles]
      obtain ⟨env, entry, presents, effect⟩ := step_handles returned handles
      constructor
      · intro y member oneShot
        rw [next, List.mem_cons] at member
        cases member with
        | inl here =>
          subst here
          exact (effect.handles presents oneShot).2
        | inr earlier => exact kept y earlier oneShot
      · intro order plan oneShot
        simp only [times, next, List.countP_cons]
        by_cases pair : x.order = order ∧ x.plan = plan
        · obtain ⟨rfl, rfl⟩ := pair
          -- an earlier handling of the pair would have left the very mark that was unset
          have fresh : h.handled.countP (fun y => y.order = x.order ∧ y.plan = x.plan) = 0 := by
            rw [List.countP_eq_zero]
            intro y earlier same
            obtain ⟨sameOrder, samePlan⟩ := of_decide_eq_true same
            have sameGuard := oneGuard x (by rw [handles]; rfl) oneShot y earlier sameOrder samePlan
            have set := inv.marked y earlier (sameOrder ▸ oneShot)
            rw [sameGuard, sameOrder] at set
            exact (effect.handles presents oneShot).1 set
          rw [fresh]
          simp
        · have := inv.once order plan oneShot
          simpa [pair, times] using this
  · have same : (h.step app event).1.handled = h.handled := by simp [History.step, returned]
    exact ⟨by rwa [same], by simpa only [times, same] using inv.once⟩

/-- A one-shot order and a plan are handled at most once as long as no call presents them
    under a second mark. -/
theorem handled_at_most_once (app : App α) (start : State α) {h : History α}
    (run : Reaches (step app) OneGuard ⟨start, []⟩ h) (order : IntentOrder) (plan : ExecutionPlan)
    (oneShot : order.perpetual = false) : h.times order plan ≤ 1 := by
  have inv : h.Marks := by
    refine run.invariant Marks ⟨by simp, by simp [times]⟩ ?_
    exact fun h event inv oneGuard => inv.step oneGuard
  exact inv.once order plan oneShot

end History

def swapOrder : IntentOrder where
  orderId := 1
  app := 10
  intentSelector := 5
  intentParams := []
  submittedBy := 20
  chainId := 1
  deadline := 100
  nonce := uint256Max
  perpetual := false
  maxExecutions := 0
  cooldown := 0

def swapPlan : ExecutionPlan := ⟨[⟨30, 0, [1]⟩], 100, 0, []⟩

/-- The user signed `swapOrder` with `[1]`; each registered validator approved hash 7 for it at
    score 5000, and `[[2]]` are their signatures. -/
def swapVerifier : Verifier where
  verifyUserSignature order sig _ := .ok (order = swapOrder && sig = [1])
  hashPlan plan := if plan = swapPlan then 7 else 8
  verifyValidatorSignatures orderId planHash score sigs registered _ :=
    .ok (if orderId = 1 ∧ planHash = 7 ∧ score = 5000 ∧ sigs = [[2]] then registered.length else 0)

def swapApp : App Unit where
  self := 10
  relayer := 40
  wrappedNativeToken := 50
  domainSeparator := 60
  verifier := swapVerifier
  collectPlatformFee := collectPlatformFee 10 50
  handleIntent _ s _ _ := .ok ⟨s.settings, s.world, 8000, true⟩

def swapWorld : World Unit := ⟨⟨fun _ _ => 0, fun _ _ _ => 0⟩, ()⟩

def swapStart : State Unit :=
  ⟨⟨5000, 41, 0, fun _ => false⟩, {}, Dict.empty, swapWorld⟩

def swapEnv (sender : Address) : Env := ⟨sender, 0, 50, 1, [71, 72, 73], 3, 6667⟩

def registerSwap : Event Unit := .call (swapEnv 40) (.registerIntent 5)

def executeSwap : Event Unit := .call (swapEnv 20) (.executeIntent swapOrder swapPlan [1] [[2]])

def executeSwapLeg (legIndex : Nat) : Event Unit :=
  .call (swapEnv 20) (.executeLeg swapOrder swapPlan legIndex [] [[2]])

theorem swapVerifier_unforgeable : Unforgeable swapVerifier 60 (· = swapOrder)
    (fun orderId planHash score => orderId = 1 ∧ planHash = 7 ∧ score = 5000) where
  user order sig verified := by
    simp only [swapVerifier, Except.ok.injEq, Bool.and_eq_true, decide_eq_true_eq] at verified
    exact verified.1
  validators orderId planHash score sigs registered n counted some := by
    simp only [swapVerifier, Except.ok.injEq] at counted
    split at counted
    next approved => exact ⟨approved.1, approved.2.1, approved.2.2.1⟩
    next => omega

theorem pair_handled_under_two_marks :
    ¬ ∀ (app : App Unit) (signed : IntentOrder → Prop) (approved : Bytes32 → Bytes32 → Nat → Prop),
      Unforgeable app.verifier app.domainSeparator signed approved →
      ∀ (registry collector : Address) (threshold maxFee : Nat) (world : World Unit)
        (start : State Unit),
        deployed app.relayer registry threshold collector maxFee world = .ok start →
        ∀ h, Reaches (History.step app) (fun _ _ => True) ⟨start, []⟩ h →
          ∀ order plan, order.perpetual = false → signed order →
            (∃ score, approved order.orderId (app.verifier.hashPlan plan) score) →
            h.times order plan ≤ 1 := by
  intro once
  have bound := once swapApp _ _ swapVerifier_unforgeable 80 41 5000 0 swapWorld swapStart rfl _
    (reaches_runEvents _ _ [registerSwap, executeSwap, executeSwapLeg 0]) swapOrder swapPlan rfl rfl
    ⟨5000, by decide +kernel⟩
  revert bound
  decide +kernel

/-- A second `executeIntent` of the pair reverts. -/
theorem swap_handled_once :
    (runEvents (History.step swapApp) ⟨swapStart, []⟩
      [registerSwap, executeSwap, executeSwap]).times swapOrder swapPlan ≤ 1 :=
  History.handled_at_most_once swapApp swapStart
    (AllowedAlong.reaches (by decide +kernel)) swapOrder swapPlan rfl

end MinotaurSubnet.Contracts
