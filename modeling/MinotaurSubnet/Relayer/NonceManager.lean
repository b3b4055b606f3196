import MinotaurSubnet.Relayer.SubmitRuns
import MinotaurSubnet.Library.Machine

/-! # Operations that share a nonce counter

Any number of relayer operations run at once on one chain. A turn of the machine answers the next
question of one operation; the nonce manager answers its own from the cached counter, asking the
chain for its pending count when there is none.
-/

namespace MinotaurSubnet.EvmRelayer

open Library Python Shared
open Dialogue (Holds holds_pure holds_put holds_bind holds_ask)

/-- `NonceManager.get_and_increment`: the nonce and the counter it leaves. -/
def getAndIncrement (cached : Option Nat) (count : Except Raised Nat) : Except Raised Nat × Option Nat :=
  match cached, count with
  | some nonce, _ => (.ok nonce, some (nonce + 1))
  | none, .ok onChain => (.ok onChain, some (onChain + 1))
  | none, .error e => (.error e, none)

/-- `NonceManager.reset`. -/
def resetCounter (cached : Option Nat) (count : Except Raised Nat) : Except Raised Unit × Option Nat :=
  match count with
  | .ok onChain => (.ok (), some onChain)
  | .error e => (.error e, cached)

inductive Operation where
  | submitPlan (job : Job)
  | deployContract (bytecode : String) (minTip : Nat) (legacyPrice : Nat → Nat)
  | registerIntent (encoded : Except Raised String)
  | syncValidators (encoded : Except Raised String)
  | callEscrowDeposit (encoded : Except Raised String)
  | callContractFunction (signature : String) (encoded : Except Raised String) (value : Int) (gas : Nat)
  | callEscrowRelease (encoded : Except Raised String)

def runOnly {α : Type} (p : Talk α) : Talk Unit := do
  let _ ← p
  return ()

def Operation.program (relayer : Relayer) : Operation → Talk Unit
  | .submitPlan job => runOnly (EvmRelayer.submitPlan relayer job)
  | .deployContract bytecode minTip legacyPrice =>
    runOnly (EvmRelayer.deployContract relayer bytecode minTip legacyPrice)
  | .registerIntent encoded => runOnly (EvmRelayer.registerIntent relayer encoded)
  | .syncValidators encoded => runOnly (EvmRelayer.syncValidators relayer encoded)
  | .callEscrowDeposit encoded => runOnly (EvmRelayer.callEscrowDeposit relayer encoded)
  | .callContractFunction signature encoded value gas =>
    runOnly (EvmRelayer.callContractFunction relayer signature encoded value gas)
  | .callEscrowRelease encoded => runOnly (EvmRelayer.callEscrowRelease relayer encoded)

inductive Fate where
  | pending
  | mined
  | dropped
  deriving DecidableEq

structure Broadcast where
  op : Nat
  nonce : Nat
  fate : Fate := .pending
  deriving DecidableEq

/-- Still pending, or mined. -/
def Broadcast.live (b : Broadcast) : Bool := b.fate != .dropped

structure World where
  counter : Option Nat := none
  running : List (Talk Unit) := []
  sent : List Broadcast := []

inductive Event where
  | start (operation : Operation)
  /-- The next step of an operation, with what the node answers to it, and to a count of the pending
      transactions if the nonce manager needs one. -/
  | turn (op : Nat) (node : (q : Question) → q.Answer) (count : Except Raised Nat)
  /-- The chain decides a pending transaction. -/
  | settle (index : Nat) (mined : Bool)
  /-- `on_leader_changed`. -/
  | leaderChanged

def answerTo (counter : Option Nat) (node : (q : Question) → q.Answer) (count : Except Raised Nat) :
    (q : Question) → q.Answer × Option Nat
  | .allocate => getAndIncrement counter count
  | .reset => resetCounter counter count
  | .invalidate => ((), none)
  | q => (node q, counter)

def broadcastOf (op : Nat) : Question → Option Broadcast
  | .send tx => some { op, nonce := tx.nonce }
  | _ => none

def Broadcast.settled (mined : Bool) (b : Broadcast) : Broadcast :=
  if b.fate = .pending then { b with fate := if mined then .mined else .dropped } else b

def step (relayer : Relayer) (s : World) : Event → World × Option Broadcast
  | .start operation => ({ s with running := s.running ++ [operation.program relayer] }, none)
  | .turn op node count =>
    match s.running[op]? with
    | some (.ask q next) =>
      let (answer, counter) := answerTo s.counter node count q
      ({ counter, running := s.running.set op (next answer)
         sent := s.sent ++ (broadcastOf op q).toList }, broadcastOf op q)
    | _ => (s, none)
  | .settle index mined => ({ s with sent := s.sent.modify index (Broadcast.settled mined) }, none)
  | .leaderChanged => ({ s with counter := none }, none)

/-- Without asking for another nonce the program may broadcast one with `n`. -/
inductive MaySend (n : Nat) : Talk Unit → Prop where
  | send {tx : Tx} {next : Question.Answer (.send tx) → Talk Unit} (same : tx.nonce = n) :
      MaySend n (.ask (.send tx) next)
  | later {q : Question} {next : q.Answer → Talk Unit} {answer : q.Answer} (other : q ≠ .allocate)
      (rest : MaySend n (next answer)) : MaySend n (.ask q next)

def GivenNonce (relayer : Relayer) (past : List (Exchange Question.Answer)) : Question → Prop
  | .send tx => (reading relayer past).nonce = some tx.nonce
  | _ => True

abbrev Sends (relayer : Relayer) {α : Type} (p : Talk α) (past : List (Exchange Question.Answer))
    (post : List (Exchange Question.Answer) → α → Prop) : Prop :=
  Holds (GivenNonce relayer) (fun _ _ => True) p past post

/-- Whatever the answers so far, the program sends only what it was given. -/
def Tame (relayer : Relayer) (p : Talk Unit) (past : List (Exchange Question.Answer)) : Prop :=
  Sends relayer p past fun _ _ => True

section

variable {relayer : Relayer} {past : List (Exchange Question.Answer)}

theorem nonce_of_note {r : Reading} {q : Question} {answer n} (other : q ≠ .allocate)
    (given : (r.note relayer ⟨q, answer⟩).nonce = some n) : r.nonce = some n := by
  cases q <;> simp_all [Reading.note]

theorem MaySend.given {p n} (may : MaySend n p) (tame : Tame relayer p past) :
    (reading relayer past).nonce = some n := by
  induction may generalizing past with
  | send same => rw [← same]; exact (holds_ask.mp tame).1
  | later other rest ih =>
    apply nonce_of_note other
    simpa using ih ((holds_ask.mp tame).2 _ trivial)

theorem runOnly_tame {α : Type} {p} {post : List (Exchange Question.Answer) → α → Prop}
    (sends : Sends relayer p past post) : Tame relayer (runOnly p) past :=
  holds_bind.mpr (sends.mono fun _ _ _ => holds_pure.mpr trivial)

def Kept (relayer : Relayer) (past : List (Exchange Question.Answer)) {α : Type}
    (later : List (Exchange Question.Answer)) (_ : α) : Prop :=
  (reading relayer later).nonce = (reading relayer past).nonce

theorem getGasPrice_sends (attempt : Nat) :
    Sends relayer (getGasPrice relayer attempt) past (Kept relayer past) := by
  refine holds_bind.mpr (holds_put.mpr ⟨trivial, fun answer _ => holds_pure.mpr ?_⟩)
  simp [Kept, Reading.note]

theorem estimateGas_sends (data : String) :
    Sends relayer (estimateGas relayer data) past (Kept relayer past) := by
  refine holds_bind.mpr (holds_put.mpr ⟨trivial, fun answer _ => ?_⟩)
  cases answer with
  | error e => exact holds_pure.mpr (by simp [Kept, Reading.note])
  | ok estimate =>
    dsimp only
    split
    · exact holds_pure.mpr (by simp [Kept, Reading.note])
    · exact holds_pure.mpr (by simp [Kept, Reading.note])

theorem buildDeployGasFields_sends (minTip : Nat) (legacyPrice : Nat → Nat) :
    Sends relayer (buildDeployGasFields minTip legacyPrice) past (Kept relayer past) := by
  refine holds_bind.mpr (holds_put.mpr ⟨trivial, fun base _ => ?_⟩)
  match base with
  | .error e => exact holds_pure.mpr (by simp [Kept, Reading.note])
  | .ok none =>
    refine holds_bind.mpr (holds_put.mpr ⟨trivial, fun price _ => ?_⟩)
    cases price with
    | error e => exact holds_pure.mpr (by simp [Kept, Reading.note])
    | ok price => exact holds_pure.mpr (by simp [Kept, Reading.note])
  | .ok (some base) =>
    refine holds_bind.mpr (holds_put.mpr ⟨trivial, fun tip _ => holds_pure.mpr ?_⟩)
    simp [Kept, Reading.note]

theorem broadcastTx_sends {tx} (given : (reading relayer past).nonce = some tx.nonce) :
    Sends relayer (broadcastTx tx) past fun _ _ => True := by
  refine holds_bind.mpr (holds_put.mpr ⟨trivial, fun signed _ => ?_⟩)
  cases signed with
  | error e => exact holds_pure.mpr trivial
  | ok u =>
    refine holds_bind.mpr (holds_put.mpr ⟨by simpa [GivenNonce, Reading.note] using given, fun sent _ => ?_⟩)
    cases sent with
    | error e => exact holds_pure.mpr trivial
    | ok hash =>
      refine holds_bind.mpr (holds_put.mpr ⟨trivial, fun waited _ => ?_⟩)
      cases waited with
      | error e => exact holds_pure.mpr trivial
      | ok receipt => exact holds_pure.mpr trivial

theorem submitPlan_sends (job : Job) :
    Sends relayer (submitPlan relayer job) [] fun _ _ => True := by
  refine (submitPlan_reads.weaken fun past q priced => ?_).mono fun _ _ _ => trivial
  cases q with
  | send tx =>
    obtain ⟨fee, price, -, -, -, given, -⟩ := priced
    exact given
  | _ => trivial

theorem deployTx_sends {bytecode minTip nonce} {legacyPrice : Nat → Nat}
    (given : (reading relayer past).nonce = some nonce) :
    Sends relayer (deployTx relayer bytecode minTip legacyPrice nonce) past fun _ _ => True := by
  refine (estimateGas_sends bytecode).seq fun later estimate _ kept => ?_
  refine (buildDeployGasFields_sends minTip legacyPrice).seq fun last fee _ again => ?_
  cases fee with
  | error e => exact holds_pure.mpr trivial
  | ok fee => exact broadcastTx_sends (by rw [again, kept, given])

theorem deployContract_sends (bytecode : String) (minTip : Nat) (legacyPrice : Nat → Nat) :
    Sends relayer (deployContract relayer bytecode minTip legacyPrice) past fun _ _ => True := by
  refine holds_bind.mpr (holds_put.mpr ⟨trivial, fun connected _ => ?_⟩)
  cases connected with
  | error e => exact holds_pure.mpr trivial
  | ok u =>
    refine holds_bind.mpr (holds_put.mpr ⟨trivial, fun allocated _ => ?_⟩)
    cases allocated with
    | error e => exact holds_pure.mpr trivial
    | ok nonce =>
      refine (deployTx_sends (by simp [Reading.note, Except.toOption])).seq fun later ended _ _ => ?_
      cases ended with
      | error e => exact holds_bind.mpr (holds_put.mpr ⟨trivial, fun _ _ => holds_pure.mpr trivial⟩)
      | ok done =>
        dsimp only
        split
        · exact holds_pure.mpr trivial
        · exact holds_pure.mpr trivial

theorem callFee_sends (call : ContractCall) (nonce : Nat) (data : String) :
    Sends relayer (callFee relayer call nonce data) past (Kept relayer past) := by
  unfold callFee
  split
  · refine (getGasPrice_sends 0).seq fun later price _ kept => ?_
    cases price with
    | error e => exact holds_pure.mpr kept
    | ok price => exact holds_pure.mpr kept
  · refine holds_bind.mpr (holds_put.mpr ⟨trivial, fun built _ => ?_⟩)
    cases built with
    | error e => exact holds_pure.mpr (by simp [Kept, Reading.note])
    | ok u => exact holds_pure.mpr (by simp [Kept, Reading.note])

theorem callWith_sends {call nonce data} (given : (reading relayer past).nonce = some nonce) :
    Sends relayer (callWith relayer call nonce data) past fun _ _ => True := by
  refine (callFee_sends call nonce data).seq fun later fee _ kept => ?_
  cases fee with
  | error e => exact holds_pure.mpr trivial
  | ok fee =>
    refine (broadcastTx_sends (by rw [kept, given])).seq fun last ended _ _ => ?_
    cases ended with
    | error e => exact holds_pure.mpr trivial
    | ok done =>
      dsimp only
      split
      · exact holds_pure.mpr trivial
      · split
        · exact holds_pure.mpr trivial
        · exact holds_pure.mpr trivial

theorem sendCall_sends (call : ContractCall) :
    Sends relayer (sendCall relayer call) past fun _ _ => True := by
  refine holds_bind.mpr (holds_put.mpr ⟨trivial, fun connected _ => ?_⟩)
  cases connected with
  | error e => exact holds_pure.mpr trivial
  | ok u =>
    cases call.encoded with
    | error e => exact holds_pure.mpr trivial
    | ok data =>
      refine holds_bind.mpr (holds_put.mpr ⟨trivial, fun allocated _ => ?_⟩)
      cases allocated with
      | error e => exact holds_pure.mpr trivial
      | ok nonce => exact callWith_sends (by simp [Reading.note, Except.toOption])

theorem program_tame (operation : Operation) : Tame relayer (operation.program relayer) [] := by
  cases operation with
  | submitPlan job => exact runOnly_tame (submitPlan_sends job)
  | deployContract bytecode minTip legacyPrice =>
    exact runOnly_tame (deployContract_sends bytecode minTip legacyPrice)
  | registerIntent encoded => exact runOnly_tame (sendCall_sends _)
  | syncValidators encoded => exact runOnly_tame (sendCall_sends _)
  | callEscrowDeposit encoded => exact runOnly_tame (sendCall_sends _)
  | callContractFunction signature encoded value gas => exact runOnly_tame (sendCall_sends _)
  | callEscrowRelease encoded => exact runOnly_tame (sendCall_sends _)

end

end MinotaurSubnet.EvmRelayer
