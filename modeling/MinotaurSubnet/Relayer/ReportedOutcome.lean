import MinotaurSubnet.Relayer.GasCap
import MinotaurSubnet.Relayer.Safeguards
import MinotaurSubnet.Blockloop.OrderPipeline

/-! # What a submission reports of the chain

`success` says that the relayer read a receipt, not that nothing was mined: a transaction can be
mined after the receipt wait gave up, and the dry run of the next attempt then reverts. For that case
the result carries `broadcast_attempted`, and the relayer service keeps the reservation.
-/

namespace MinotaurSubnet.EvmRelayer

open Library Python Shared Orderbook
open Blockloop (Action Processor OrderAnswers settle)

/-- `not submit_result.tx_hash`. -/
def lacksHash (result : SubmitResult) : Bool :=
  match result.txHash with
  | none => true
  | some hash => hash = ""

/-- What `handle_submit_plan` does with its reservation after `submit_plan`. -/
def releaseUnsent (key : String) (result : SubmitResult) (s : Relayer.Safeguards) : Relayer.Safeguards :=
  if !result.success && lacksHash result && !result.broadcastAttempted then s.releasePlanHash key
  else s

/-- The result as `OrderProcessor` reads it. -/
def SubmitResult.forProcessor (result : SubmitResult) : Blockloop.SubmitResult where
  success := result.success
  txHash := result.txHash
  error := result.error

def NeverRejects (a : Action) : Prop := ∀ u, a = .update u → u.status ≠ some .rejected

theorem update_neverRejects {u} (other : u.status ≠ some .rejected) :
    NeverRejects (.update u) := by
  rintro u ⟨rfl⟩
  exact other

theorem neverRejects_of_other {a} (other : ∀ u, a ≠ .update u) : NeverRejects a :=
  fun u same => absurd same (other u)

section

variable {node : Processor} {order : BookOrder} {answers : OrderAnswers} {score : Int}

theorem reopenPerpetual_neverRejects :
    (Blockloop.reopenPerpetual order answers).All NeverRejects := by
  unfold Blockloop.reopenPerpetual
  split
  · refine Traced.All.bind (Traced.all_emit.mpr (update_neverRejects (by simp))) fun _ _ => ?_
    split
    · exact Traced.all_emit.mpr (update_neverRejects (by simp))
    · exact Traced.all_pure _
  · exact Traced.all_pure _

theorem settle_neverRejects {consensus answer} (submitted : answers.submit = .ok answer)
    (success : answer.success = true) :
    (settle node order answers score consensus).All NeverRejects := by
  unfold settle
  refine Traced.All.bind (Traced.all_emit.mpr (neverRejects_of_other (by simp))) fun _ _ => ?_
  refine Traced.All.bind (Traced.all_emit.mpr (neverRejects_of_other (by simp))) fun _ _ => ?_
  refine Traced.All.bind (Traced.all_lift _) fun result ended => ?_
  obtain rfl : answer = result := by simpa [Blockloop.Pipeline.raising, submitted] using ended
  rw [if_pos success]
  refine Traced.All.bind (Traced.all_emit.mpr (update_neverRejects (by simp))) fun _ _ => ?_
  refine Traced.All.bind reopenPerpetual_neverRejects fun _ _ => ?_
  refine Traced.All.bind ?_ fun _ _ => Traced.all_pure _
  unfold Blockloop.recordSettlement
  rw [if_pos success]
  exact Traced.all_emit.mpr (neverRejects_of_other (by simp))

end

section

variable {relayer : Relayer} {job : Job} {trace : List (Exchange Question.Answer)}
  {result : SubmitResult}

theorem success_iff (run : Dialogue.Runs (submitPlan relayer job) trace result) :
    result.success = true ↔
      ∃ tx ∈ sentTxs trace, ∃ receipt, ⟨.receipt tx, .ok receipt⟩ ∈ trace ∧ receipt.status = 1 := by
  rw [(run_reports run).success, confirmed_iff]
  constructor
  · rintro ⟨tx, receipt, heard, mined⟩
    obtain ⟨before, after, split⟩ := List.append_of_mem heard
    obtain ⟨hash, sent⟩ := run_priced run before _ after split
    exact ⟨tx, mem_sentTxs.mpr ⟨.ok hash, by simp [split, sent]⟩, receipt, heard, mined⟩
  · rintro ⟨tx, -, receipt, heard, mined⟩
    exact ⟨tx, receipt, heard, mined⟩

theorem broadcastAttempted_of_sent (run : Dialogue.Runs (submitPlan relayer job) trace result) {tx}
    (sent : tx ∈ sentTxs trace) : result.broadcastAttempted = true := by
  rw [(run_reports run).broadcast, sent_iff]
  exact List.ne_nil_of_mem sent

/-- For every run, whatever becomes of the transactions it broadcast: each of them shows in
    `broadcast_attempted` and keeps the reservation of the submission; the result is a success
    exactly when a receipt of one of them was read with status 1, and such an order is never
    rejected. -/
theorem broadcast_is_reported (run : Dialogue.Runs (submitPlan relayer job) trace result) :
    (∀ tx ∈ sentTxs trace, result.broadcastAttempted = true ∧
        ∀ key s, releaseUnsent key result s = s) ∧
      (result.success = true ↔
        ∃ tx ∈ sentTxs trace, ∃ receipt, ⟨.receipt tx, .ok receipt⟩ ∈ trace ∧ receipt.status = 1) ∧
      (result.success = true → ∀ (node : Processor) (order : BookOrder) (answers : OrderAnswers)
        (score : Int) (consensus : Option Consensus.ConsensusResult),
        answers.submit = .ok result.forProcessor →
          ∀ u, Action.update u ∈ (settle node order answers score consensus).trace →
            u.status ≠ some .rejected) := by
  refine ⟨fun tx sent => ?_, success_iff run, ?_⟩
  · have flagged := broadcastAttempted_of_sent run sent
    exact ⟨flagged, fun key s => by simp [releaseUnsent, flagged]⟩
  · intro success node order answers score consensus submitted u member
    exact settle_neverRejects submitted success _ member u rfl

end

def lateReceipt (n : Nat) : (q : Question) → q.Answer
  | .receipt _ => .error { className := "TimeExhausted", text := "not in the chain after 15 seconds" }
  | .estimate value data =>
    if n < 10 then calmNode (.estimate value data)
    else .error { text := "execution reverted: nonce already used", contractLogicError := true }
  | q => calmNode q

def lateTrace : List (Exchange Question.Answer) :=
  Dialogue.transcriptFrom lateReceipt 0 (submitPlan plainRelayer (plainJob 0))

def lateResult : SubmitResult :=
  Dialogue.repliesFrom lateReceipt 0 (submitPlan plainRelayer (plainJob 0))

/-- The only transaction of the run is mined with success before the run returns, and the run
    returns a failure. -/
theorem executed_order_reported_failed :
    ¬ ∀ (mined : Tx → Prop) (relayer : Relayer) (job : Job) (trace : List (Exchange Question.Answer))
        (result : SubmitResult), Dialogue.Runs (submitPlan relayer job) trace result →
        (∀ tx receipt, ⟨.receipt tx, .ok receipt⟩ ∈ trace → (receipt.status = 1 ↔ mined tx)) →
        (∃ tx ∈ sentTxs trace, mined tx) → result.success = true := by
  intro claimed
  have run : Dialogue.Runs (submitPlan plainRelayer (plainJob 0)) lateTrace lateResult :=
    Dialogue.runs_transcriptFrom _ _ _
  have unread : ∀ tx receipt, ⟨.receipt tx, .ok receipt⟩ ∉ lateTrace := by
    intro tx receipt heard
    obtain ⟨m, answered⟩ := Dialogue.answer_of_mem_transcriptFrom heard
    cases answered
  have sent : sentTxs lateTrace = [{ nonce := 5, gas := 1500000, fee := .legacy 10, data := "0x" }] := by
    decide +kernel
  have failed : lateResult.success = false := by decide +kernel
  have reported := claimed (fun _ => True) plainRelayer (plainJob 0) lateTrace lateResult run
    (fun tx receipt heard => absurd heard (unread tx receipt))
    ⟨_, by rw [sent]; exact List.mem_singleton_self _, trivial⟩
  rw [failed] at reported
  cases reported

/-- The timely receipt of the same order. -/
theorem timely_receipt_reported :
    (∀ tx ∈ sentTxs (calmTrace 0), (calmResult 0).broadcastAttempted = true ∧
        ∀ key s, releaseUnsent key (calmResult 0) s = s) ∧ (calmResult 0).success = true :=
  ⟨(broadcast_is_reported (runs_calm 0)).1, by decide +kernel⟩

end MinotaurSubnet.EvmRelayer
