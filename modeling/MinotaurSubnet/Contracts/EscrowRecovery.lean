import MinotaurSubnet.Contracts.EscrowSolvency

/-! # Getting escrowed funds back

A refund is open to the depositor after the deadline, except that a released deposit
counts as settled whether its leg ran or not. A leg with an open deposit does not run
and a released deposit is not refunded, so no leg is both executed and refunded unless
its deposit was registered after it had already run.
-/

namespace MinotaurSubnet.Contracts

open Library

variable {α : Type} {app : App α}

def NotLate (app : App α) (s : State α) : Event α → Prop
  | .call env (.escrowDeposit orderId legIndex token amount user deadline) =>
    depositGuards app env s orderId legIndex token amount user deadline = .ok () →
      s.marks.legExecuted orderId legIndex = false
  | _ => True

structure Claimed (env : Env) (s : State α) (orderId : Bytes32) (legIndex : Nat) : Prop where
  noValue : env.value = 0
  deposited : 0 < (s.escrowOf orderId legIndex).amount
  expired : (s.escrowOf orderId legIndex).deadline < env.timestamp
  neverRan : s.marks.legExecuted orderId legIndex = false
  notRefunded : (s.escrowOf orderId legIndex).refunded = false
  depositor : env.sender = (s.escrowOf orderId legIndex).user

variable {s : State α} {orderId : Bytes32}

theorem Claimed.refundGuards_iff {env legIndex} (claimed : Claimed env s orderId legIndex) :
    refundGuards env s orderId legIndex = .ok () ↔
      (s.escrowOf orderId legIndex).released = false := by
  rw [refundGuards_eq_ok]
  constructor
  · intro passed
    exact passed.2.2.1.1
  · intro unreleased
    exact ⟨claimed.noValue, claimed.deposited, ⟨unreleased, claimed.notRefunded⟩, claimed.expired,
      claimed.depositor⟩

structure LegSettled (executed : Bool) (dep : EscrowDeposit) : Prop where
  ran : executed = true → 0 < dep.amount → dep.released = true
  refunded : dep.refunded = true → 0 < dep.amount ∧ dep.released = false

def LegsSettled (s : State α) : Prop :=
  ∀ orderId legIndex, LegSettled (s.marks.legExecuted orderId legIndex) (s.escrowOf orderId legIndex)

theorem LegSettled.not_both {executed dep} (settled : LegSettled executed dep) :
    ¬ (executed = true ∧ dep.refunded = true) := by
  intro ⟨executed, refunded⟩
  obtain ⟨positive, unreleased⟩ := settled.refunded refunded
  have released := settled.ran executed positive
  rw [unreleased] at released
  cases released

theorem legSettled_unset (executed : Bool) : LegSettled executed .unset where
  ran _ positive := by simp [EscrowDeposit.unset] at positive
  refunded refunded := by cases refunded

theorem LegsSettled.set (settled : LegsSettled s) {legIndex dep}
    (slot : LegSettled (s.marks.legExecuted orderId legIndex) dep) (world : World α) :
    LegsSettled { s with escrow := s.escrow.set (orderId, legIndex) dep, world } := by
  intro orderId' legIndex'
  simp only [State.escrowOf, Dict.get?_set]
  split
  next same =>
    cases same
    exact slot
  next => exact settled orderId' legIndex'

theorem recordLeg_legExecuted (marks : ReplayMarks) (orderId orderId' : Bytes32)
    (legIndex legIndex' : Nat) :
    (recordLeg marks orderId legIndex).legExecuted orderId' legIndex' =
      if orderId' = orderId ∧ legIndex' = legIndex then true
      else marks.legExecuted orderId' legIndex' := by
  simp only [recordLeg, Function.update_apply]
  by_cases order : orderId' = orderId
  · subst order
    simp only [if_true, true_and, Function.update_apply]
  · simp [order]

theorem escrowGate_released {legIndex} (gate : escrowGate s orderId legIndex = .ok ())
    (positive : 0 < (s.escrowOf orderId legIndex).amount) :
    (s.escrowOf orderId legIndex).released = true := by
  simpa [escrowGate, positive] using gate

theorem releaseGuards_open {env legIndex sigs hash}
    (passed : releaseGuards app env s orderId legIndex sigs hash = .ok ()) :
    (s.escrowOf orderId legIndex).refunded = false := by
  unfold releaseGuards at passed
  obtain ⟨_, passed⟩ := bind_ok passed
  obtain ⟨_, passed⟩ := bind_ok passed
  obtain ⟨_, passed⟩ := bind_ok passed
  obtain ⟨_, isOpen, passed⟩ := bind_eq_ok.mp passed
  simp only [require_eq_ok, Bool.and_eq_true, Bool.not_eq_true'] at isOpen
  exact isOpen.2

theorem LegsSettled.effect {env s s' entry} (effect : Effect app env s entry s')
    (notLate : NotLate app s (.call env entry)) (settled : LegsSettled s) : LegsSettled s' := by
  cases effect with
  | intent unused marks escrow =>
    intro orderId legIndex
    obtain ⟨legs, -⟩ := recordOrder_cases marks
    rw [legs, State.escrowOf, escrow]
    exact settled orderId legIndex
  | @leg entry order plan legIndex s' isLeg unused gate marks escrow =>
    intro orderId' legIndex'
    rw [marks, State.escrowOf, escrow, recordLeg_legExecuted]
    split
    next same =>
      obtain ⟨rfl, rfl⟩ := same
      exact ⟨fun _ positive => escrowGate_released gate positive, (settled _ _).refunded⟩
    next => exact settled orderId' legIndex'
  | deposit guards =>
    refine settled.set ⟨fun executed => ?_, fun refunded => by cases refunded⟩ s.world
    rw [notLate guards] at executed
    cases executed
  | release guards =>
    refine settled.set ⟨fun _ _ => rfl, fun refunded => ?_⟩ s.world
    rw [releaseGuards_open guards] at refunded
    cases refunded
  | @refund orderId legIndex tokens guards paid =>
    obtain ⟨-, positive, ⟨unreleased, -⟩, -, -⟩ := refundGuards_eq_ok.mp guards
    refine settled.set ⟨?_, fun _ => ?_⟩ _
    · exact (settled orderId legIndex).ran
    · exact ⟨positive, unreleased⟩
  | neither kind marks escrow =>
    intro orderId legIndex
    rw [marks, State.escrowOf, escrow]
    exact settled orderId legIndex

theorem LegsSettled.step {event} (notLate : NotLate app s event) (settled : LegsSettled s) :
    LegsSettled (Contracts.step app s event).1 := by
  obtain ⟨env, entry, logs, rfl, -, effect⟩ | ⟨marks, escrow, -⟩ := step_cases app s event
  · exact settled.effect effect notLate
  · intro orderId legIndex
    rw [marks, State.escrowOf, escrow]
    exact settled orderId legIndex

/-- Throughout a run that registers no deposit for a leg that already ran, a claim after the
    deadline passes the refund guards exactly when the deposit was not released, and no leg is
    both executed and refunded. -/
theorem escrow_recovery (app : App α) (start : State α) (fresh : start.escrow = Dict.empty)
    {s : State α} (run : Reaches (step app) (NotLate app) start s) :
    (∀ env orderId legIndex, Claimed env s orderId legIndex →
      (refundGuards env s orderId legIndex = .ok () ↔
        (s.escrowOf orderId legIndex).released = false)) ∧
      ∀ orderId legIndex, ¬ (s.marks.legExecuted orderId legIndex = true ∧
        (s.escrowOf orderId legIndex).refunded = true) := by
  have settled : LegsSettled s := by
    refine run.invariant LegsSettled ?_ fun s event settled notLate => settled.step notLate
    intro orderId legIndex
    simpa [State.escrowOf, fresh] using legSettled_unset _
  exact ⟨fun _ _ _ claimed => claimed.refundGuards_iff,
    fun orderId legIndex => (settled orderId legIndex).not_both⟩

def bridgeRelease : Event Unit := .call (bridgeEnv 40 60) (.escrowRelease 1 1 [[2]] 0)

def bridgeOrder : IntentOrder where
  orderId := 1
  app := 10
  intentSelector := 5
  intentParams := []
  submittedBy := 20
  chainId := 1
  deadline := 200
  nonce := uint256Max
  perpetual := false
  maxExecutions := 0
  cooldown := 0

/-- The destination leg of `bridgeOrder`, without a user signature. -/
def bridgeLeg : List (Event Unit) :=
  [.call (bridgeEnv 40 50) (.registerIntent 5),
    .call (bridgeEnv 40 50) (.executeLeg bridgeOrder ⟨[], 200, 0, []⟩ 1 [] [[2]])]

def bridgeRefund : Event Unit := .call (bridgeEnv 20 91) (.escrowRefund 1 1)

theorem released_deposit_not_refundable :
    (¬ ∀ (app : App Unit) (registry collector : Address) (threshold maxFee : Nat)
        (world : World Unit) (start s : State Unit),
        deployed app.relayer registry threshold collector maxFee world = .ok start →
        Reaches (step app) (fun _ _ => True) start s →
        ∀ env orderId legIndex, Claimed env s orderId legIndex →
          refundGuards env s orderId legIndex = .ok ()) ∧
      ¬ ∀ (app : App Unit) (registry collector : Address) (threshold maxFee : Nat)
        (world : World Unit) (start s : State Unit),
        deployed app.relayer registry threshold collector maxFee world = .ok start →
        Reaches (step app) (fun _ _ => True) start s →
        ∀ orderId legIndex, ¬ (s.marks.legExecuted orderId legIndex = true ∧
          (s.escrowOf orderId legIndex).refunded = true) := by
  constructor
  · intro recovers
    have passed := recovers bridgeApp 80 41 5000 0 bridgeStart.world bridgeStart _ rfl
      (reaches_runEvents _ _ [.incoming 70 100, bridgeDeposit 1, bridgeRelease]) (bridgeEnv 20 91) 1 1
      ⟨rfl, by decide +kernel, by decide +kernel, by decide +kernel, by decide +kernel,
        by decide +kernel⟩
    revert passed
    decide +kernel
  · intro never
    have both := never bridgeApp 80 41 5000 0 bridgeStart.world bridgeStart _ rfl
      (reaches_runEvents _ _ (bridgeLeg ++ [.incoming 70 100, bridgeDeposit 1, bridgeRefund])) 1 1
    revert both
    decide +kernel

theorem bridge_recovery :
    (∀ env orderId legIndex,
      Claimed env (runEvents (step bridgeApp) bridgeStart [.incoming 70 100, bridgeDeposit 1])
        orderId legIndex →
      (refundGuards env (runEvents (step bridgeApp) bridgeStart [.incoming 70 100, bridgeDeposit 1])
        orderId legIndex = .ok () ↔
        ((runEvents (step bridgeApp) bridgeStart [.incoming 70 100, bridgeDeposit 1]).escrowOf
          orderId legIndex).released = false)) ∧
      ∀ orderId legIndex,
        ¬ ((runEvents (step bridgeApp) bridgeStart [.incoming 70 100, bridgeDeposit 1]).marks.legExecuted
            orderId legIndex = true ∧
          ((runEvents (step bridgeApp) bridgeStart [.incoming 70 100, bridgeDeposit 1]).escrowOf
            orderId legIndex).refunded = true) :=
  escrow_recovery bridgeApp bridgeStart rfl
    (AllowedAlong.reaches ⟨trivial, fun _ => rfl, trivial⟩)

end MinotaurSubnet.Contracts
