import MinotaurSubnet.Relayer.EvmRelayer
import Mathlib.Data.List.Induction

/-! # What a submission has heard

A run of `submit_plan` is a list of exchanges. `Reading` is what the answers so far mean for the
next transaction, and `submitPlan_reads` says that every transaction is sent on such a reading, with
the call of the job, and that the result reports it.
-/

namespace MinotaurSubnet.EvmRelayer

open Library Python Shared
open Dialogue (Holds holds_pure holds_put holds_bind)

/-- The answers so far: the attempts begun, the nonce given and not used up, the price and gas limit
    last given, whether something went to the node and whether a success was seen. -/
structure Reading where
  attempts : Nat := 0
  nonce : Option Nat := none
  price : Option Nat := none
  limit : Option Nat := none
  sent : Bool := false
  confirmed : Bool := false

def DryRun.gas? : DryRun → Option Nat
  | .limit gas => some gas
  | .reverted _ => none

def succeeded : Except Raised Receipt → Bool
  | .ok receipt => receipt.status == 1
  | .error _ => false

section

variable (relayer : Relayer)

def Reading.note (r : Reading) : Exchange Question.Answer → Reading
  | ⟨.allocate, answer⟩ =>
    { r with attempts := r.attempts + 1, nonce := Except.toOption (answer : Except Raised Nat) }
  | ⟨.gasPrice, answer⟩ => { r with price := (bidOf relayer (r.attempts - 1) answer).toOption }
  | ⟨.estimate _ _, answer⟩ => { r with limit := (dryRunOf relayer answer).gas? }
  | ⟨.reset, _⟩ => { r with nonce := none }
  | ⟨.send _, _⟩ => { r with nonce := none, sent := true }
  | ⟨.receipt _, answer⟩ => { r with confirmed := r.confirmed || succeeded answer }
  | _ => r

def reading (past : List (Exchange Question.Answer)) : Reading :=
  past.foldl (Reading.note relayer) {}

@[simp] theorem reading_append (past rest : List (Exchange Question.Answer)) :
    reading relayer (past ++ rest) = rest.foldl (Reading.note relayer) (reading relayer past) := by
  simp [reading]

def receiptOf : Exchange Question.Answer → Option (Tx × Receipt)
  | ⟨.receipt tx, .ok receipt⟩ => some (tx, receipt)
  | _ => none

/-- The receipts that were read, with what they are of. -/
def receipts (past : List (Exchange Question.Answer)) : List (Tx × Receipt) := past.filterMap receiptOf

/-- A transaction is sent with the nonce allocated last, the gas limit estimated last, and the price
    asked last under the cap of the order's fee, for the call of the job; a receipt is asked of what
    was sent. -/
def Priced (job : Job) (past : List (Exchange Question.Answer)) : Question → Prop
  | .send tx => ∃ fee price, lockedFee job = .ok fee ∧ (reading relayer past).price = some price ∧
      (reading relayer past).limit = some tx.gas ∧ (reading relayer past).nonce = some tx.nonce ∧
      tx.fee = .legacy (cappedGasPrice fee tx.gas price) ∧
      callOf relayer job = .ok (tx.value, tx.data)
  | .receipt tx => ∃ hash, ⟨.send tx, .ok hash⟩ ∈ past
  | _ => True

abbrev Reads (job : Job) {α : Type} (p : Talk α) (past : List (Exchange Question.Answer))
    (post : List (Exchange Question.Answer) → α → Prop) : Prop :=
  Holds (Priced relayer job) (fun _ _ => True) p past post

structure Reports (past : List (Exchange Question.Answer)) (result : SubmitResult) : Prop where
  success : result.success = (reading relayer past).confirmed
  broadcast : result.broadcastAttempted = (reading relayer past).sent
  gas : (receipts past = [] ∧ result.gasUsed = 0) ∨
    ∃ tx receipt, receipts past = [(tx, receipt)] ∧ result.gasUsed = receipt.gasUsed
  named : result.txHash = none ∨ (reading relayer past).sent = true

/-- Nothing seen mined, and the flags as the loop keeps them. -/
def Unconfirmed (past : List (Exchange Question.Answer)) (attempts : Nat) (broadcast : Bool) : Prop :=
  receipts past = [] ∧ (reading relayer past).confirmed = false ∧
    (reading relayer past).sent = broadcast ∧ (reading relayer past).attempts = attempts

variable {relayer} {job : Job} {past : List (Exchange Question.Answer)}

theorem eq_ok_of_raising {α : Type} {x : Except PyError α} {a : α} (ended : raising relayer x = .ok a) :
    x = .ok a := by
  cases x with
  | error e => simp [raising] at ended
  | ok b => simpa [raising] using ended

/-- What `buildTx` leaves behind. -/
def BuiltOn (relayer : Relayer) (job : Job) (attempts : Nat) (broadcast : Bool)
    (past : List (Exchange Question.Answer)) (built : Built) : Prop :=
  Unconfirmed relayer past attempts broadcast ∧
    ∀ tx, built = .tx tx → Priced relayer job past (.send tx)

variable {broadcast : Bool}

@[simp] theorem receipts_append (past rest : List (Exchange Question.Answer)) :
    receipts (past ++ rest) = receipts past ++ rest.filterMap receiptOf := List.filterMap_append

theorem priceTx_reads {attempts nonce gasPrice : Nat} {value : Int} {data : String}
    (quiet : Unconfirmed relayer past attempts broadcast)
    (called : callOf relayer job = .ok (value, data))
    (priced : (reading relayer past).price = some gasPrice)
    (allocated : (reading relayer past).nonce = some nonce) :
    Reads relayer job (priceTx relayer job nonce gasPrice value data) past
      (BuiltOn relayer job attempts broadcast) := by
  refine holds_bind.mpr (holds_put.mpr ⟨trivial, fun estimate _ => ?_⟩)
  have estimated :
      Unconfirmed relayer (past ++ [⟨.estimate value data, estimate⟩]) attempts broadcast := by
    simpa [Unconfirmed, Reading.note, receiptOf] using quiet
  cases dryRun : dryRunOf relayer estimate with
  | reverted reason => exact holds_pure.mpr ⟨estimated, nofun⟩
  | limit gasLimit =>
    cases fee : raising relayer (lockedFee job) with
    | error e => exact holds_pure.mpr ⟨estimated, nofun⟩
    | ok locked =>
      refine holds_bind.mpr (holds_put.mpr ⟨trivial, fun built _ => ?_⟩)
      cases built with
      | error e =>
        refine holds_pure.mpr ⟨?_, nofun⟩
        simpa [Unconfirmed, Reading.note, receiptOf] using quiet
      | ok u =>
        refine holds_pure.mpr ⟨by simpa [Unconfirmed, Reading.note, receiptOf] using quiet, ?_⟩
        rintro tx ⟨rfl⟩
        refine ⟨locked, gasPrice, eq_ok_of_raising fee, ?_, ?_, ?_, rfl, called⟩
        · simpa [Reading.note] using priced
        · simp [Reading.note, dryRun, DryRun.gas?]
        · simpa [Reading.note] using allocated

theorem buildTx_reads {attempt} (quiet : Unconfirmed relayer past attempt broadcast) :
    Reads relayer job (buildTx relayer job attempt) past
      (BuiltOn relayer job (attempt + 1) broadcast) := by
  obtain ⟨unread, unconfirmed, sent, begun⟩ := quiet
  refine holds_bind.mpr (holds_put.mpr ⟨trivial, fun allocated _ => ?_⟩)
  have started : Unconfirmed relayer (past ++ [⟨.allocate, allocated⟩]) (attempt + 1) broadcast := by
    simp [Unconfirmed, Reading.note, receiptOf, unread, unconfirmed, sent, begun]
  cases allocated with
  | error e => exact holds_pure.mpr ⟨started, nofun⟩
  | ok nonce =>
    refine holds_bind.mpr (holds_bind.mpr (holds_put.mpr ⟨trivial, fun answer _ => holds_pure.mpr ?_⟩))
    have asked : Unconfirmed relayer (past ++ [⟨.allocate, .ok nonce⟩] ++ [⟨.gasPrice, answer⟩])
        (attempt + 1) broadcast := by
      simp [Unconfirmed, Reading.note, receiptOf, unread, unconfirmed, sent, begun]
    cases bid : bidOf relayer attempt answer with
    | error e => exact holds_pure.mpr ⟨asked, nofun⟩
    | ok gasPrice =>
      cases called : callOf relayer job with
      | error e => exact holds_pure.mpr ⟨asked, nofun⟩
      | ok call =>
        apply priceTx_reads asked called
        · simp [Reading.note, begun, bid, Except.toOption]
        · simp [Reading.note, Except.toOption]

def SentOn (relayer : Relayer) (attempts : Nat) (broadcast : Bool)
    (past : List (Exchange Question.Answer)) : Sent → Prop
  | .returned result => Reports relayer past result
  | .raised _ sent => Unconfirmed relayer past attempts (broadcast || sent)

theorem readReceipt_reads {tx hash receipt} (sent : (reading relayer past).sent = true)
    (seen : (reading relayer past).confirmed = (receipt.status == 1))
    (read : receipts past = [(tx, receipt)]) :
    Reads relayer job (readReceipt relayer tx hash receipt) past
      fun later ending => ∃ result, ending = .returned result ∧ Reports relayer later result := by
  unfold readReceipt
  split
  · next mined =>
      refine holds_pure.mpr ⟨_, rfl, ?_⟩
      constructor <;> simp [sent, seen, mined, read]
  · next reverted =>
      refine holds_bind.mpr (holds_put.mpr ⟨trivial, fun replayed _ => holds_pure.mpr ⟨_, rfl, ?_⟩⟩)
      constructor <;> simp [Reading.note, sent, seen, reverted, read, receiptOf]

theorem signAndSend_reads {attempts tx} (quiet : Unconfirmed relayer past attempts broadcast)
    (priced : Priced relayer job past (.send tx)) :
    Reads relayer job (signAndSend relayer tx) past (SentOn relayer attempts broadcast) := by
  obtain ⟨unread, unconfirmed, flag, begun⟩ := quiet
  refine holds_bind.mpr (holds_put.mpr ⟨trivial, fun signed _ => ?_⟩)
  cases signed with
  | error e =>
    refine holds_pure.mpr ?_
    simp [SentOn, Unconfirmed, Reading.note, receiptOf, unread, unconfirmed, flag, begun]
  | ok u =>
    have ready : Priced relayer job (past ++ [⟨.sign tx, .ok u⟩]) (.send tx) := by
      simpa [Priced, Reading.note] using priced
    refine holds_bind.mpr (holds_put.mpr ⟨ready, fun sent _ => ?_⟩)
    cases sent with
    | error e =>
      refine holds_pure.mpr ?_
      simp [SentOn, Unconfirmed, Reading.note, receiptOf, unread, unconfirmed, begun]
    | ok hash =>
      refine holds_bind.mpr (holds_put.mpr ⟨⟨hash, by simp⟩, fun waited _ => ?_⟩)
      cases waited with
      | error e =>
        refine holds_pure.mpr ?_
        simp [SentOn, Unconfirmed, Reading.note, receiptOf, unread, unconfirmed, begun, succeeded]
      | ok receipt =>
        refine (readReceipt_reads ?_ ?_ ?_).mono ?_
        · simp [Reading.note]
        · simp [Reading.note, unconfirmed, succeeded]
        · simp [List.filterMap_cons, receiptOf, unread]
        · rintro later _ ⟨result, rfl, reports⟩
          exact reports

theorem failure_reports {attempts error} (quiet : Unconfirmed relayer past attempts broadcast) :
    Reports relayer past (failure relayer error broadcast) := by
  obtain ⟨unread, unconfirmed, flag, -⟩ := quiet
  constructor <;> simp [failure, unread, unconfirmed, flag]

theorem exhausted_reads {attempts last} (quiet : Unconfirmed relayer past attempts broadcast) :
    Reads relayer job (exhausted relayer last broadcast) past (Reports relayer) := by
  refine holds_bind.mpr (holds_put.mpr ⟨trivial, fun u _ => holds_pure.mpr ?_⟩)
  have kept : Unconfirmed relayer (past ++ [⟨.invalidate, u⟩]) attempts broadcast := by
    simpa [Unconfirmed, Reading.note, receiptOf] using quiet
  exact failure_reports kept

theorem retry_reads {next : Talk SubmitResult} {attempt attempts : Nat} {e : Raised}
    (quiet : Unconfirmed relayer past attempts broadcast)
    (rest : ∀ past, Unconfirmed relayer past attempts broadcast →
      Reads relayer job next past (Reports relayer)) :
    Reads relayer job (retry relayer next attempt e broadcast) past (Reports relayer) := by
  unfold retry
  dsimp only
  split
  · refine holds_bind.mpr (holds_put.mpr ⟨trivial, fun wasReset _ => ?_⟩)
    have kept : Unconfirmed relayer (past ++ [⟨.reset, wasReset⟩]) attempts broadcast := by
      simpa [Unconfirmed, Reading.note, receiptOf] using quiet
    cases wasReset with
    | error e => exact holds_pure.mpr (failure_reports kept)
    | ok u => exact rest _ kept
  · split
    · refine holds_bind.mpr (holds_put.mpr ⟨trivial, fun u _ => rest _ ?_⟩)
      simpa [Unconfirmed, Reading.note, receiptOf] using quiet
    · exact exhausted_reads quiet

theorem attempts_reads {left attempt last} (quiet : Unconfirmed relayer past attempt broadcast) :
    Reads relayer job (attempts relayer job left attempt last broadcast) past (Reports relayer) := by
  induction left generalizing past attempt last broadcast with
  | zero => exact exhausted_reads quiet
  | succ left ih =>
    refine (buildTx_reads quiet).seq fun later built _ ⟨kept, priced⟩ => ?_
    cases built with
    | reverted reason => exact holds_pure.mpr (failure_reports kept)
    | raised e => exact retry_reads kept fun past quiet => ih quiet
    | tx tx =>
      refine (signAndSend_reads kept (priced tx rfl)).seq fun later ending _ ended => ?_
      cases ending with
      | returned result => exact holds_pure.mpr ended
      | raised e sent => exact retry_reads ended fun past quiet => ih quiet

theorem submitToChain_reads (quiet : Unconfirmed relayer past 0 false) :
    Reads relayer job (submitToChain relayer job) past (Reports relayer) := by
  refine holds_bind.mpr (holds_put.mpr ⟨trivial, fun connected _ => ?_⟩)
  have joined : Unconfirmed relayer (past ++ [⟨.web3, connected⟩]) 0 false := by
    simpa [Unconfirmed, Reading.note, receiptOf] using quiet
  cases connected with
  | error e => exact holds_pure.mpr (failure_reports joined)
  | ok u =>
    refine holds_bind.mpr (holds_put.mpr ⟨trivial, fun balance _ => ?_⟩)
    have checked : Unconfirmed relayer (past ++ [⟨.web3, .ok u⟩] ++ [⟨.balance, balance⟩]) 0 false := by
      simpa [Unconfirmed, Reading.note, receiptOf] using quiet
    cases balanceError relayer balance with
    | some error => exact holds_pure.mpr (failure_reports checked)
    | none =>
      cases job.prepared with
      | error e => exact holds_pure.mpr (failure_reports checked)
      | ok u => exact attempts_reads checked

theorem submitPlan_reads :
    Reads relayer job (submitPlan relayer job) [] (Reports relayer) := by
  have start : Unconfirmed relayer [] 0 false := ⟨rfl, rfl, rfl, rfl⟩
  unfold submitPlan
  split
  · exact holds_pure.mpr (failure_reports start)
  · split
    · exact holds_pure.mpr (failure_reports start)
    · refine holds_bind.mpr (holds_put.mpr ⟨trivial, fun known _ => ?_⟩)
      have asked : Unconfirmed relayer [⟨.registered (appAddress relayer job), known⟩] 0 false :=
        ⟨rfl, rfl, rfl, rfl⟩
      cases known with
      | true => exact submitToChain_reads asked
      | false => exact holds_pure.mpr (failure_reports asked)

/-- The transactions a run broadcast. -/
def sentTxs (trace : List (Exchange Question.Answer)) : List Tx :=
  trace.filterMap fun
    | ⟨.send tx, _⟩ => some tx
    | _ => none

variable {trace : List (Exchange Question.Answer)}

theorem mem_sentTxs {tx} :
    tx ∈ sentTxs trace ↔ ∃ answer, ⟨.send tx, answer⟩ ∈ trace := by
  unfold sentTxs
  rw [List.mem_filterMap]
  constructor
  · rintro ⟨⟨q, answer⟩, member, found⟩
    cases q <;> cases found
    exact ⟨answer, member⟩
  · rintro ⟨answer, member⟩
    exact ⟨_, member, rfl⟩

theorem sent_iff :
    (reading relayer trace).sent = true ↔ sentTxs trace ≠ [] := by
  induction trace using List.reverseRecOn with
  | nil => simp [reading, sentTxs]
  | append_singleton trace e ih =>
    obtain ⟨q, answer⟩ := e
    rw [reading_append]
    cases q <;> simp_all [Reading.note, sentTxs]

theorem confirmed_iff :
    (reading relayer trace).confirmed = true ↔
      ∃ tx receipt, ⟨.receipt tx, .ok receipt⟩ ∈ trace ∧ receipt.status = 1 := by
  induction trace using List.reverseRecOn with
  | nil => simp [reading]
  | append_singleton trace e ih =>
    obtain ⟨q, answer⟩ := e
    rw [reading_append]
    cases q <;> simp_all [Reading.note]
    next asked =>
      cases answer with
      | error e => simp_all [succeeded]
      | ok receipt =>
        simp only [succeeded, beq_iff_eq, Except.ok.injEq, or_and_right, exists_or]
        simp

variable {trace : List (Exchange Question.Answer)} {result : SubmitResult}
  (run : Dialogue.Runs (submitPlan relayer job) trace result)

include run

theorem run_reports : Reports relayer trace result :=
  (submitPlan_reads.sound run fun _ _ => trivial).1

theorem run_priced : Follows (fun before e => Priced relayer job before e.1) trace :=
  (submitPlan_reads.sound run fun _ _ => trivial).2

end

end MinotaurSubnet.EvmRelayer
