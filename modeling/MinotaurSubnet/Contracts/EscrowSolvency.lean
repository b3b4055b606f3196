import MinotaurSubnet.Contracts.CallEffects
import Mathlib.Data.List.Infix

/-! # What the escrow owes and what the contract holds

Every open deposit is a debt in its token. `escrowDeposit` compares the whole balance with
the one deposit it registers, so a balance can be counted twice. The contract stays solvent
exactly when every registered deposit finds its amount beyond what is already owed.
-/

namespace MinotaurSubnet.Contracts

open Library

variable {α : Type} {app : App α}

def EscrowDeposit.openIn (token : Address) (dep : EscrowDeposit) : Nat :=
  if dep.token = token ∧ dep.released = false ∧ dep.refunded = false then dep.amount else 0

def State.owed (s : State α) (token : Address) : Nat :=
  s.escrow.total (EscrowDeposit.openIn token)

def State.holds (app : App α) (s : State α) (token : Address) : Nat :=
  s.world.tokens.balance token app.self

def Solvent (app : App α) (s : State α) : Prop := ∀ token, s.owed token ≤ s.holds app token

def RefundsPay (app : App α) (s : State α) : Prop :=
  ∀ env orderId legIndex, refundGuards env s orderId legIndex = .ok () →
    ∃ result, escrowRefund app env s orderId legIndex = .ok result

def Event.isEscrow : Event α → Bool
  | .call _ (.escrowDeposit ..) => true
  | .call _ (.escrowRelease ..) => true
  | .call _ (.escrowRefund ..) => true
  | .incoming _ _ => true
  | _ => false

/-- A deposit that is about to be registered is held beyond what is already owed. -/
def Covered (app : App α) (s : State α) : Event α → Prop
  | .call env (.escrowDeposit orderId legIndex token amount user deadline) =>
    depositGuards app env s orderId legIndex token amount user deadline = .ok () →
      s.owed token + amount ≤ s.holds app token
  | _ => True

variable {s : State α}

variable {orderId : Bytes32} {legIndex : Nat}

theorem depositGuards_amount {env token amount user deadline}
    (passed : depositGuards app env s orderId legIndex token amount user deadline = .ok ()) :
    0 < amount ∧ (s.escrowOf orderId legIndex).amount = 0 := by
  unfold depositGuards at passed
  obtain ⟨_, passed⟩ := bind_ok passed
  obtain ⟨_, passed⟩ := bind_ok passed
  obtain ⟨_, positive, passed⟩ := bind_eq_ok.mp passed
  obtain ⟨_, vacant, passed⟩ := bind_eq_ok.mp passed
  exact ⟨by simpa using positive, by simpa using vacant⟩

theorem refundGuards_eq_ok {env : Env} :
    refundGuards env s orderId legIndex = .ok () ↔
      env.value = 0 ∧ 0 < (s.escrowOf orderId legIndex).amount ∧
        ((s.escrowOf orderId legIndex).released = false ∧
          (s.escrowOf orderId legIndex).refunded = false) ∧
        (s.escrowOf orderId legIndex).deadline < env.timestamp ∧
        env.sender = (s.escrowOf orderId legIndex).user := by
  simp [refundGuards, nonPayable, bind_eq_ok]

theorem get?_of_amount (positive : 0 < (s.escrowOf orderId legIndex).amount) :
    s.escrow.get? (orderId, legIndex) = some (s.escrowOf orderId legIndex) := by
  unfold State.escrowOf at positive ⊢
  cases found : s.escrow.get? (orderId, legIndex) with
  | none => simp [found, EscrowDeposit.unset] at positive
  | some dep => rfl

theorem openIn_unset (token : Address) : EscrowDeposit.unset.openIn token = 0 := by
  simp [EscrowDeposit.openIn, EscrowDeposit.unset]

theorem owed_set (s : State α) (orderId : Bytes32) (legIndex : Nat) (dep : EscrowDeposit)
    (token : Address) :
    (s.escrow.set (orderId, legIndex) dep).total (EscrowDeposit.openIn token) +
      (s.escrowOf orderId legIndex).openIn token = s.owed token + dep.openIn token :=
  s.escrow.total_set_getD (openIn_unset token) (orderId, legIndex) dep

theorem openIn_of_no_amount {dep : EscrowDeposit} (vacant : dep.amount = 0) (token : Address) :
    dep.openIn token = 0 := by
  simp [EscrowDeposit.openIn, vacant]

theorem openIn_of_open {dep : EscrowDeposit} (released : dep.released = false)
    (refunded : dep.refunded = false) (token : Address) :
    dep.openIn token = if token = dep.token then dep.amount else 0 := by
  simp [EscrowDeposit.openIn, released, refunded, eq_comm]

theorem owed_deposit {env token amount user deadline}
    (passed : depositGuards app env s orderId legIndex token amount user deadline = .ok ())
    (token' : Address) :
    (s.escrow.set (orderId, legIndex) ⟨token, amount, user, deadline, false, false⟩).total
      (EscrowDeposit.openIn token') = s.owed token' + if token' = token then amount else 0 := by
  obtain ⟨-, vacant⟩ := depositGuards_amount passed
  have traded := owed_set s orderId legIndex ⟨token, amount, user, deadline, false, false⟩ token'
  rw [openIn_of_no_amount vacant, openIn_of_open rfl rfl] at traded
  exact traded

theorem owed_release (s : State α) (orderId : Bytes32) (legIndex : Nat) (token : Address) :
    (s.escrow.set (orderId, legIndex) { s.escrowOf orderId legIndex with released := true }).total
      (EscrowDeposit.openIn token) ≤ s.owed token := by
  have traded := owed_set s orderId legIndex { s.escrowOf orderId legIndex with released := true } token
  have closed : EscrowDeposit.openIn token
      { s.escrowOf orderId legIndex with released := true } = 0 := by simp [EscrowDeposit.openIn]
  rw [closed] at traded
  omega

theorem owed_refund (released : (s.escrowOf orderId legIndex).released = false)
    (refunded : (s.escrowOf orderId legIndex).refunded = false) (token : Address) :
    (s.escrow.set (orderId, legIndex) { s.escrowOf orderId legIndex with refunded := true }).total
        (EscrowDeposit.openIn token) +
      (if token = (s.escrowOf orderId legIndex).token then (s.escrowOf orderId legIndex).amount else 0) =
      s.owed token := by
  have traded := owed_set s orderId legIndex { s.escrowOf orderId legIndex with refunded := true } token
  have closed : EscrowDeposit.openIn token
      { s.escrowOf orderId legIndex with refunded := true } = 0 := by simp [EscrowDeposit.openIn]
  rw [closed, openIn_of_open released refunded] at traded
  exact traded

theorem leg?_of_isEscrow {env entry} (isEscrow : (Event.call env entry : Event α).isEscrow = true) :
    entry.leg? = none ∧ entry.marksNothing = false := by
  cases entry <;> first | exact ⟨rfl, rfl⟩ | cases isEscrow

theorem Solvent.effect {env s s' entry} (effect : Effect app env s entry s')
    (isEscrow : (Event.call env entry : Event α).isEscrow = true)
    (covered : Covered app s (.call env entry)) (solvent : Solvent app s) : Solvent app s' := by
  intro token
  have before := solvent token
  obtain ⟨noLeg, noOther⟩ := leg?_of_isEscrow isEscrow
  cases effect with
  | intent unused marks escrow => cases isEscrow
  | leg isLeg unused gate marks escrow =>
    rw [noLeg] at isLeg
    cases isLeg
  | @deposit orderId legIndex token' amount user deadline guards =>
    refine (owed_deposit guards token).trans_le ?_
    by_cases same : token = token'
    · subst same
      rw [if_pos rfl]
      exact covered guards
    · rw [if_neg same]
      exact before
  | @release orderId legIndex sigs hash guards =>
    exact (owed_release s orderId legIndex token).trans before
  | @refund orderId legIndex tokens guards paid =>
    obtain ⟨-, -, ⟨released, refunded⟩, -, -⟩ := refundGuards_eq_ok.mp guards
    have debt := owed_refund released refunded token
    have spent := TokenLedger.balance_source_of_transfer paid token
    simp only [State.owed, State.holds] at before debt ⊢
    omega
  | neither kind marks escrow =>
    rw [noOther] at kind
    cases kind

theorem Solvent.step {event} (isEscrow : event.isEscrow = true) (covered : Covered app s event)
    (solvent : Solvent app s) :
    Solvent app (Contracts.step app s event).1 := by
  cases event with
  | call env entry =>
    cases ran : dispatch app env s entry with
    | ok result =>
      have effect : Effect app env s entry result.1 := dispatch_effect ran
      simpa only [Contracts.step, ran] using solvent.effect effect isEscrow covered
    | error e => simpa only [Contracts.step, ran] using solvent
  | incoming token amount =>
    intro token'
    have before := solvent token'
    simp only [Contracts.step, State.owed, State.holds, TokenLedger.balance_credit] at before ⊢
    omega
  | outside world => cases isEscrow

theorem covered_of_solvent_step {event} (after : Solvent app (Contracts.step app s event).1) :
    Covered app s event := by
  unfold Covered
  split
  next env orderId legIndex token amount user deadline =>
    intro passed
    have ran : dispatch app env s (.escrowDeposit orderId legIndex token amount user deadline) = .ok
        ({ s with escrow := s.escrow.set (orderId, legIndex)
                    ⟨token, amount, user, deadline, false, false⟩ },
          [.escrowDeposited orderId legIndex token amount user deadline]) := by
      simp only [dispatch, escrowDeposit, passed]
      rfl
    have grown := owed_deposit passed token
    rw [if_pos rfl] at grown
    have solvent := after token
    simp only [Contracts.step, ran] at solvent
    exact grown.symm.trans_le solvent
  next => trivial

theorem Solvent.refundsPay (solvent : Solvent app s) : RefundsPay app s := by
  intro env orderId legIndex passed
  obtain ⟨-, positive, ⟨released, refunded⟩, -, -⟩ := refundGuards_eq_ok.mp passed
  have part : (s.escrowOf orderId legIndex).openIn (s.escrowOf orderId legIndex).token ≤
      s.owed (s.escrowOf orderId legIndex).token := Dict.le_total (get?_of_amount positive)
  rw [openIn_of_open released refunded, if_pos rfl] at part
  have enough := part.trans (solvent (s.escrowOf orderId legIndex).token)
  have pays : (s.world.tokens.transfer (s.escrowOf orderId legIndex).token app.self
      (s.escrowOf orderId legIndex).user (s.escrowOf orderId legIndex).amount).isSome :=
    TokenLedger.transfer_isSome.mpr enough
  obtain ⟨tokens, paid⟩ := Option.isSome_iff_exists.mp pays
  simp only [escrowRefund, passed, paid]
  exact ⟨_, rfl⟩

/-- The contract is solvent and pays refunds throughout a run of the escrow exactly when
    every deposit the run registers is covered. -/
theorem escrow_solvent_iff (app : App α) (start : State α) (fresh : start.escrow = Dict.empty)
    (events : List (Event α)) (escrowOnly : ∀ event ∈ events, event.isEscrow = true) :
    (∀ before, before <+: events →
      Solvent app (runEvents (step app) start before) ∧
        RefundsPay app (runEvents (step app) start before)) ↔
      ∀ before event, before ++ [event] <+: events →
        Covered app (runEvents (step app) start before) event := by
  have next : ∀ before event, runEvents (step app) start (before ++ [event]) =
      (step app (runEvents (step app) start before) event).1 := by
    intro before event
    simp [runEvents]
  constructor
  · intro solvent before event here
    have after := (solvent (before ++ [event]) here).1
    rw [next] at after
    exact covered_of_solvent_step after
  · intro covered before
    have solvent : before <+: events → Solvent app (runEvents (step app) start before) := by
      induction before using List.reverseRecOn with
      | nil =>
        intro _ token
        simp [runEvents, State.owed, fresh, Dict.total, Dict.values, Dict.empty]
      | append_singleton before event ih =>
        intro here
        rw [next]
        have earlier : before <+: events := (List.prefix_append before [event]).trans here
        have member : event ∈ events := here.subset (by simp)
        exact (ih earlier).step (escrowOnly event member) (covered before event here)
    exact fun here => ⟨solvent here, (solvent here).refundsPay⟩

/-- Three validators are registered and sign with `[[2]]`. -/
def bridgeApp : App Unit where
  self := 10
  relayer := 40
  wrappedNativeToken := 50
  domainSeparator := 60
  verifier := {
    verifyUserSignature := fun _ sig _ => .ok (sig = [1])
    hashPlan := fun plan => BitVec.ofNat 256 plan.nonce
    verifyValidatorSignatures := fun _ _ _ sigs registered _ =>
      .ok (if sigs = [[2]] then registered.length else 0) }
  collectPlatformFee := collectPlatformFee 10 50
  handleIntent _ s _ _ := .ok ⟨s.settings, s.world, 8000, true⟩

def bridgeStart : State Unit :=
  ⟨⟨5000, 41, 0, fun _ => false⟩, {}, Dict.empty, ⟨⟨fun _ _ => 0, fun _ _ _ => 0⟩, ()⟩⟩

def bridgeEnv (sender : Address) (timestamp : Nat) : Env :=
  ⟨sender, 0, timestamp, 1, [71, 72, 73], 3, 6667⟩

def bridgeDeposit (orderId : Bytes32) : Event Unit :=
  .call (bridgeEnv 40 50) (.escrowDeposit orderId 1 70 100 20 90)

theorem deposits_share_a_balance :
    ¬ ∀ (app : App Unit) (registry collector : Address) (threshold maxFee : Nat) (world : World Unit)
      (start : State Unit),
      deployed app.relayer registry threshold collector maxFee world = .ok start →
      ∀ events : List (Event Unit), (∀ event ∈ events, event.isEscrow = true) →
        Solvent app (runEvents (step app) start events) ∧
          RefundsPay app (runEvents (step app) start events) := by
  intro solvent
  have bound := (solvent bridgeApp 80 41 5000 0 bridgeStart.world bridgeStart rfl
    [.incoming 70 100, bridgeDeposit 1, bridgeDeposit 2] (by decide)).1 70
  revert bound
  decide +kernel

theorem bridge_solvent_iff :
    (∀ before, before <+: [.incoming 70 100, bridgeDeposit 1] →
      Solvent bridgeApp (runEvents (step bridgeApp) bridgeStart before) ∧
        RefundsPay bridgeApp (runEvents (step bridgeApp) bridgeStart before)) ↔
      ∀ before event, before ++ [event] <+: [.incoming 70 100, bridgeDeposit 1] →
        Covered bridgeApp (runEvents (step bridgeApp) bridgeStart before) event :=
  escrow_solvent_iff bridgeApp bridgeStart rfl _ (by decide)

end MinotaurSubnet.Contracts
