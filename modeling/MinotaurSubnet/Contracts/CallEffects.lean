import MinotaurSubnet.Contracts.AppIntentBase
import MinotaurSubnet.Library.Machine

/-! # What one call does to the marks and the escrow

Every entry point of the base contract, inverted once: which guard it passed and what
it left in the replay marks and in the escrow. The invariants of the contract are
case analyses over `Effect`.
-/

namespace MinotaurSubnet.Contracts

open Library

variable {α : Type} {app : App α}

def EntryPoint.leg? : EntryPoint → Option (IntentOrder × ExecutionPlan × Nat)
  | .executeLeg order plan legIndex _ _ => some (order, plan, legIndex)
  | .executeCrossChainLeg order plan legIndex _ _ => some (order, plan, legIndex)
  | _ => none

def EntryPoint.marksNothing : EntryPoint → Bool
  | .scoreIntent .. => true
  | .registerIntent .. => true
  | .updateScoreThreshold .. => true
  | .setPlatformFeeCollector .. => true
  | .setMaxPlatformFeeWei .. => true
  | _ => false

/-- `Effect app env s entry s'`: what holds of a call that leads from `s` to `s'`. -/
inductive Effect (app : App α) (env : Env) (s : State α) : EntryPoint → State α → Prop where
  | intent {order plan sig sigs s'}
      (unused : order.perpetual = false → s.marks.executedOrders order.orderId = false)
      (marks : recordOrder env s.marks order = .ok s'.marks) (escrow : s'.escrow = s.escrow) :
      Effect app env s (.executeIntent order plan sig sigs) s'
  | leg {entry order plan legIndex s'} (isLeg : entry.leg? = some (order, plan, legIndex))
      (unused : s.marks.legExecuted order.orderId legIndex = false)
      (gate : escrowGate s order.orderId legIndex = .ok ())
      (marks : s'.marks = recordLeg s.marks order.orderId legIndex) (escrow : s'.escrow = s.escrow) :
      Effect app env s entry s'
  | deposit {orderId legIndex token amount user deadline}
      (guards : depositGuards app env s orderId legIndex token amount user deadline = .ok ()) :
      Effect app env s (.escrowDeposit orderId legIndex token amount user deadline)
        { s with escrow := s.escrow.set (orderId, legIndex)
                  ⟨token, amount, user, deadline, false, false⟩ }
  | release {orderId legIndex sigs hash}
      (guards : releaseGuards app env s orderId legIndex sigs hash = .ok ()) :
      Effect app env s (.escrowRelease orderId legIndex sigs hash)
        { s with escrow := s.escrow.set (orderId, legIndex)
                  { s.escrowOf orderId legIndex with released := true } }
  | refund {orderId legIndex tokens} (guards : refundGuards env s orderId legIndex = .ok ())
      (paid : s.world.tokens.transfer (s.escrowOf orderId legIndex).token app.self
        (s.escrowOf orderId legIndex).user (s.escrowOf orderId legIndex).amount = some tokens) :
      Effect app env s (.escrowRefund orderId legIndex)
        { s with
          escrow := s.escrow.set (orderId, legIndex)
            { s.escrowOf orderId legIndex with refunded := true }
          world := { s.world with tokens } }
  | neither {entry s'} (kind : entry.marksNothing = true) (marks : s'.marks = s.marks)
      (escrow : s'.escrow = s.escrow) : Effect app env s entry s'

@[simp] theorem require_eq_ok {c text u} :
    require c text = .ok u ↔ c = true := ensure_eq_ok

variable {logs : List Log} {order : IntentOrder} {env : Env} {s s' : State α}

variable {plan : ExecutionPlan}

theorem runPlan_frame {s ran score} (done : runPlan app env s order plan = .ok (ran, score, logs)) :
    ran.marks = s.marks ∧ ran.escrow = s.escrow := by
  unfold runPlan at done
  obtain ⟨⟨world, fees⟩, -, done⟩ := bind_eq_ok.mp done
  obtain ⟨_, done⟩ := bind_ok done
  obtain ⟨_, done⟩ := bind_ok done
  obtain ⟨_, done⟩ := bind_ok done
  cases pure_eq_ok.mp done
  exact ⟨rfl, rfl⟩

theorem replayGuard_oneShot {marks} (passed : replayGuard env marks order = .ok ())
    (oneShot : order.perpetual = false) :
    marks.executedOrders order.orderId = false := by
  simpa [replayGuard, oneShot] using passed

theorem spendNonce_frame {marks marks'} (spent : spendNonce marks order = .ok marks') :
    marks'.legExecuted = marks.legExecuted ∧ marks'.executedOrders = marks.executedOrders := by
  unfold spendNonce at spent
  split at spent
  · cases spent
    exact ⟨rfl, rfl⟩
  · obtain ⟨next, -, spent⟩ := bind_eq_ok.mp spent
    cases pure_eq_ok.mp spent
    exact ⟨rfl, rfl⟩

theorem recordOrder_cases {marks marks'} (recorded : recordOrder env marks order = .ok marks') :
    marks'.legExecuted = marks.legExecuted ∧
      marks'.executedOrders = if order.perpetual then marks.executedOrders
        else Function.update marks.executedOrders order.orderId true := by
  unfold recordOrder at recorded
  obtain ⟨counted, nonce, recorded⟩ := bind_eq_ok.mp recorded
  have same := spendNonce_frame nonce
  split at recorded
  next perpetual =>
    obtain ⟨_, recorded⟩ := bind_ok recorded
    cases pure_eq_ok.mp recorded
    rw [if_pos perpetual]
    exact same
  next oneShot =>
    cases pure_eq_ok.mp recorded
    rw [if_neg oneShot, same.2]
    exact ⟨same.1, rfl⟩

theorem executeIntent_effect {sig sigs}
    (done : executeIntent app env s order plan sig sigs = .ok (s', logs)) :
    Effect app env s (.executeIntent order plan sig sigs) s' := by
  unfold executeIntent at done
  obtain ⟨_, done⟩ := bind_ok done
  obtain ⟨⟨⟩, unused, done⟩ := bind_eq_ok.mp done
  obtain ⟨_, done⟩ := bind_ok done
  obtain ⟨_, done⟩ := bind_ok done
  obtain ⟨_, done⟩ := bind_ok done
  obtain ⟨⟨ran, score, fees⟩, executed, done⟩ := bind_eq_ok.mp done
  obtain ⟨marks, recorded, done⟩ := bind_eq_ok.mp done
  cases pure_eq_ok.mp done
  obtain ⟨sameMarks, sameEscrow⟩ := runPlan_frame executed
  rw [sameMarks] at recorded
  exact .intent (replayGuard_oneShot unused) recorded sameEscrow

theorem executeLegInternal_effect {entry legIndex sig sigs}
    (isLeg : entry.leg? = some (order, plan, legIndex))
    (done : executeLegInternal app env s order plan legIndex sig sigs = .ok (s', logs)) :
    Effect app env s entry s' := by
  unfold executeLegInternal at done
  obtain ⟨_, done⟩ := bind_ok done
  obtain ⟨_, unused, done⟩ := bind_eq_ok.mp done
  obtain ⟨⟨⟩, gate, done⟩ := bind_eq_ok.mp done
  obtain ⟨_, done⟩ := bind_ok done
  obtain ⟨_, done⟩ := bind_ok done
  obtain ⟨⟨ran, score, fees⟩, executed, done⟩ := bind_eq_ok.mp done
  cases pure_eq_ok.mp done
  obtain ⟨sameMarks, sameEscrow⟩ := runPlan_frame executed
  have fresh : s.marks.legExecuted order.orderId legIndex = false := by simpa using unused
  exact .leg isLeg fresh gate (congrArg (recordLeg · order.orderId legIndex) sameMarks) sameEscrow

theorem escrowDeposit_effect {orderId legIndex token amount user deadline}
    (done : escrowDeposit app env s orderId legIndex token amount user deadline = .ok (s', logs)) :
    Effect app env s (.escrowDeposit orderId legIndex token amount user deadline) s' := by
  unfold escrowDeposit at done
  obtain ⟨⟨⟩, guards, done⟩ := bind_eq_ok.mp done
  cases pure_eq_ok.mp done
  exact .deposit guards

theorem escrowRelease_effect {orderId legIndex sigs hash}
    (done : escrowRelease app env s orderId legIndex sigs hash = .ok (s', logs)) :
    Effect app env s (.escrowRelease orderId legIndex sigs hash) s' := by
  unfold escrowRelease at done
  obtain ⟨⟨⟩, guards, done⟩ := bind_eq_ok.mp done
  cases pure_eq_ok.mp done
  exact .release guards

theorem escrowRefund_effect {orderId legIndex}
    (done : escrowRefund app env s orderId legIndex = .ok (s', logs)) :
    Effect app env s (.escrowRefund orderId legIndex) s' := by
  unfold escrowRefund at done
  obtain ⟨⟨⟩, guards, done⟩ := bind_eq_ok.mp done
  simp only at done
  split at done
  next => cases done
  next tokens paid =>
    cases pure_eq_ok.mp done
    exact .refund guards paid

theorem scoreIntent_frame (done : scoreIntent app env s order plan = .ok (s', logs)) :
    s'.marks = s.marks ∧ s'.escrow = s.escrow := by
  unfold scoreIntent at done
  obtain ⟨_, done⟩ := bind_ok done
  obtain ⟨_, done⟩ := bind_ok done
  obtain ⟨⟨world, fees⟩, -, done⟩ := bind_eq_ok.mp done
  obtain ⟨_, done⟩ := bind_ok done
  cases pure_eq_ok.mp done
  exact ⟨rfl, rfl⟩

theorem settings_frame (first second third : Except Revert Unit) {settings}
    (done : (do first; second; third; return ({ s with settings }, [])) = Except.ok (s', logs)) :
    s'.marks = s.marks ∧ s'.escrow = s.escrow := by
  obtain ⟨_, done⟩ := bind_ok done
  obtain ⟨_, done⟩ := bind_ok done
  obtain ⟨_, done⟩ := bind_ok done
  cases pure_eq_ok.mp done
  exact ⟨rfl, rfl⟩

theorem dispatch_effect {entry} (done : dispatch app env s entry = .ok (s', logs)) :
    Effect app env s entry s' := by
  cases entry with
  | executeIntent order plan sig sigs => exact executeIntent_effect done
  | executeLeg order plan legIndex sig sigs => exact executeLegInternal_effect rfl done
  | executeCrossChainLeg order plan legIndex sig sigs => exact executeLegInternal_effect rfl done
  | scoreIntent order plan =>
    obtain ⟨marks, escrow⟩ := scoreIntent_frame done
    exact .neither rfl marks escrow
  | escrowDeposit orderId legIndex token amount user deadline => exact escrowDeposit_effect done
  | escrowRelease orderId legIndex sigs hash => exact escrowRelease_effect done
  | escrowRefund orderId legIndex => exact escrowRefund_effect done
  | registerIntent selector =>
    obtain ⟨marks, escrow⟩ := settings_frame _ _ _ done
    exact .neither rfl marks escrow
  | updateScoreThreshold threshold =>
    obtain ⟨marks, escrow⟩ := settings_frame _ _ _ done
    exact .neither rfl marks escrow
  | setPlatformFeeCollector collector =>
    obtain ⟨marks, escrow⟩ := settings_frame _ _ _ done
    exact .neither rfl marks escrow
  | setMaxPlatformFeeWei maxFee =>
    obtain ⟨marks, escrow⟩ := settings_frame _ _ (.ok ()) done
    exact .neither rfl marks escrow

theorem step_cases (app : App α) (s : State α) (event : Event α) :
    (∃ env entry logs, event = .call env entry ∧ dispatch app env s entry = .ok ((step app s event).1, logs) ∧
        Effect app env s entry (step app s event).1) ∨
      ((step app s event).1.marks = s.marks ∧ (step app s event).1.escrow = s.escrow ∧
        ((∃ env entry e, event = .call env entry ∧ dispatch app env s entry = .error e) ∨
          ∀ env entry, event ≠ .call env entry)) := by
  cases event with
  | call env entry =>
    cases ran : dispatch app env s entry with
    | ok result =>
      obtain ⟨s', logs⟩ := result
      have next : (step app s (.call env entry)).1 = s' := by simp only [step, ran]
      rw [next]
      exact .inl ⟨env, entry, logs, rfl, ran, dispatch_effect ran⟩
    | error e =>
      have same : (step app s (.call env entry)).1 = s := by simp only [step, ran]
      rw [same]
      exact .inr ⟨rfl, rfl, .inl ⟨env, entry, e, rfl, ran⟩⟩
  | incoming token amount => exact .inr ⟨rfl, rfl, .inr fun _ _ same => by cases same⟩
  | outside world => exact .inr ⟨rfl, rfl, .inr fun _ _ same => by cases same⟩

end MinotaurSubnet.Contracts
