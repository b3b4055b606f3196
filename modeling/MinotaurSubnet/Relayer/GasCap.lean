import MinotaurSubnet.Relayer.SubmitRuns

/-! # What a transaction can cost the relayer

The relayer bids at most `locked_fee // gas_limit`, so that the gas of an order never costs more than
the fee its user locked. A quotient of zero reads as "no cap": an order whose gas limit is larger
than its fee in wei is bid at the market price.
-/

namespace MinotaurSubnet.EvmRelayer

open Library Python Shared

def WithinFee (fee : Int) (tx : Tx) : Prop :=
  ∃ gasPrice, tx.fee = .legacy gasPrice ∧ (tx.gas : Int) * gasPrice ≤ fee

/-- The cap binds, or there is nothing to pay: the gas limit estimated last does not exceed the fee,
    or the price asked last is zero. -/
def Reading.Covered (fee : Int) (r : Reading) : Prop :=
  (∃ limit : Nat, r.limit = some limit ∧ (limit : Int) ≤ fee) ∨ r.price = some 0

theorem maxGasPriceWei_of_pos {fee : Int} {limit : Nat} (positive : 0 < limit) :
    maxGasPriceWei fee limit = fee / limit := if_neg (by omega)

variable {limit gasPrice : Nat}

theorem cappedGasPrice_le {fee : Int} (positive : 0 < limit) (covered : (limit : Int) ≤ fee) :
    (cappedGasPrice fee limit gasPrice : Int) ≤ fee / limit := by
  have one_le : 1 ≤ fee / (limit : Int) := by
    rw [Int.le_ediv_iff_mul_le (by omega)]
    omega
  unfold cappedGasPrice
  rw [maxGasPriceWei_of_pos positive]
  dsimp only
  split
  · omega
  · omega

theorem cappedGasPrice_of_lt {fee : Int} (positive : 0 < fee) (uncovered : fee < limit) :
    cappedGasPrice fee limit gasPrice = gasPrice := by
  have zero : fee / (limit : Int) = 0 := Int.ediv_eq_zero_of_lt (by omega) uncovered
  unfold cappedGasPrice
  rw [maxGasPriceWei_of_pos (by omega), zero]
  simp

theorem spend_le_iff {fee : Int} (positive : 0 < fee) :
    (limit : Int) * cappedGasPrice fee limit gasPrice ≤ fee ↔ (limit : Int) ≤ fee ∨ gasPrice = 0 := by
  constructor
  · intro within
    by_contra neither
    obtain ⟨uncovered, paid⟩ := not_or.mp neither
    rw [cappedGasPrice_of_lt positive (by omega)] at within
    have one_le : (1 : Int) ≤ gasPrice := by omega
    have grows : (limit : Int) * 1 ≤ limit * gasPrice := by gcongr
    omega
  · rintro (covered | rfl)
    · rcases Nat.eq_zero_or_pos limit with rfl | some_gas
      · simpa using positive.le
      · have capped : (cappedGasPrice fee limit gasPrice : Int) ≤ fee / limit :=
          cappedGasPrice_le some_gas covered
        calc (limit : Int) * cappedGasPrice fee limit gasPrice
            ≤ limit * (fee / limit) := by gcongr
          _ ≤ fee := Int.mul_ediv_self_le (by omega)
    · have free : cappedGasPrice fee limit 0 = 0 := by
        unfold cappedGasPrice
        dsimp only
        split
        · next capped => omega
        · rfl
      simpa [free] using positive.le

section

variable {relayer : Relayer} {job : Job} {fee : Int}

theorem withinFee_iff {before tx} (locked : lockedFee job = .ok fee) (positive : 0 < fee)
    (priced : Priced relayer job before (.send tx)) :
    WithinFee fee tx ↔ (reading relayer before).Covered fee := by
  obtain ⟨known, gasPrice, again, priceRead, limitRead, -, bid, -⟩ := priced
  obtain rfl : fee = known := Except.ok.inj (locked.symm.trans again)
  have spend : (tx.gas : Int) * cappedGasPrice fee tx.gas gasPrice ≤ fee ↔
      (tx.gas : Int) ≤ fee ∨ gasPrice = 0 := spend_le_iff positive
  simpa [WithinFee, Reading.Covered, bid, priceRead, limitRead] using spend

/-- In every run, whatever the node answers: each transaction broadcast for an order with a locked
    fee costs at most that fee iff each time the gas limit is at most the fee or gas is free. -/
theorem gas_within_fee_iff {trace : List (Exchange Question.Answer)} {result : SubmitResult}
    (run : Dialogue.Runs (submitPlan relayer job) trace result) (locked : lockedFee job = .ok fee)
    (positive : 0 < fee) :
    (∀ tx ∈ sentTxs trace, WithinFee fee tx) ↔
      ∀ before tx answer after, trace = before ++ ⟨.send tx, answer⟩ :: after →
        (reading relayer before).Covered fee := by
  have judged (before : List (Exchange Question.Answer)) (tx : Tx) (answer : Question.Answer (.send tx))
      (after : List (Exchange Question.Answer)) (split : trace = before ++ ⟨.send tx, answer⟩ :: after) :
      WithinFee fee tx ↔ (reading relayer before).Covered fee :=
    withinFee_iff locked positive (run_priced run before _ after split)
  constructor
  · intro within before tx answer after split
    apply (judged before tx answer after split).mp
    apply within
    exact mem_sentTxs.mpr ⟨answer, by simp [split]⟩
  · intro covered tx member
    obtain ⟨answer, inTrace⟩ := mem_sentTxs.mp member
    obtain ⟨before, after, split⟩ := List.append_of_mem inTrace
    exact (judged before tx answer after split).mpr (covered before tx answer after split)

end

def plainRelayer : Relayer where
  withMargin := fun estimate => .ok (estimate * 3 / 2)
  bumped := fun attempt price => .ok (price * (100 + 20 * attempt) / 100)
  lower := id
  str := fun _ => "0"
  raise := fun _ => { text := "conversion" }
  eth := fun _ => "0.0000"

def plainJob (fee : Int) : Job where
  orderId := "ord_1"
  params := .dict [("platform_fee_wei", .int fee)]
  plan := {
    intentId := .str "app"
    interactions := []
    deadline := .int 0
    nonce := .int 0
    metadata := .dict [] }
  contractAddress := some "0xa1"
  encode := fun _ => .ok "0x"

def calmNode : (q : Question) → q.Answer
  | .allocate => .ok 5
  | .reset => .ok ()
  | .invalidate => ()
  | .web3 => .ok ()
  | .registered _ => true
  | .balance => .ok 1000000000000000000
  | .gasPrice => .ok 10
  | .baseFee => .ok none
  | .priorityFee => .ok 0
  | .estimate _ _ => .ok 1000000
  | .build _ => .ok ()
  | .sign _ => .ok ()
  | .send _ => .ok "0xaa"
  | .receipt _ => .ok { status := 1 }
  | .replay _ => .ok ()

def calmTrace (fee : Int) : List (Exchange Question.Answer) :=
  Dialogue.transcript calmNode (submitPlan plainRelayer (plainJob fee))

def calmResult (fee : Int) : SubmitResult :=
  Dialogue.replies calmNode (submitPlan plainRelayer (plainJob fee))

theorem runs_calm (fee : Int) :
    Dialogue.Runs (submitPlan plainRelayer (plainJob fee)) (calmTrace fee) (calmResult fee) :=
  Dialogue.runs_transcript _

/-- A fee of a million wei is certified against 100000 units at 10 wei and pays for 15 times that. -/
theorem uncapped_bid_overspends :
    certifyFee { min := 0, cap := 100000000000000000 } 1000000 100000 10 = .ok () ∧
      ∃ trace result, Dialogue.Runs (submitPlan plainRelayer (plainJob 1000000)) trace result ∧
        ¬ ∀ tx ∈ sentTxs trace, WithinFee 1000000 tx := by
  refine ⟨certifyFee_eq_ok.mpr (by decide), _, _, runs_calm 1000000, ?_⟩
  intro within
  have sent : sentTxs (calmTrace 1000000) =
      [{ nonce := 5, gas := 1500000, fee := .legacy 10, data := "0x" }] := by decide +kernel
  obtain ⟨gasPrice, price, cost⟩ := within { nonce := 5, gas := 1500000, fee := .legacy 10, data := "0x" }
    (by rw [sent]; exact List.mem_singleton_self _)
  cases price
  exact absurd cost (by decide)

/-- Twice the gas limit is enough of a fee to bid 2 wei. -/
theorem gas_within_fee_funded :
    0 < (3000000 : Int) ∧ lockedFee (plainJob 3000000) = .ok 3000000 ∧
      ((∀ tx ∈ sentTxs (calmTrace 3000000), WithinFee 3000000 tx) ↔
        ∀ before tx answer after, calmTrace 3000000 = before ++ ⟨.send tx, answer⟩ :: after →
          (reading plainRelayer before).Covered 3000000) ∧
      sentTxs (calmTrace 3000000) = [{ nonce := 5, gas := 1500000, fee := .legacy 2, data := "0x" }] := by
  refine ⟨by decide, by decide, ?_, by decide +kernel⟩
  exact gas_within_fee_iff (runs_calm 3000000) (by decide) (by decide)

end MinotaurSubnet.EvmRelayer
