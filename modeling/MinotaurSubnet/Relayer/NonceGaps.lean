import MinotaurSubnet.Relayer.NonceRuns

/-! # One operation after the other

With one operation at a time the cached nonce should be the account's pending count whenever one is
broadcast. An operation that takes a nonce and gives up before the node has its transaction has to drop
the cached counter, or leave it ahead of the chain for the operations after it.
-/

namespace MinotaurSubnet.EvmRelayer

open Library Python Shared
open Dialogue (Meets meets_pure meets_ask meets_bind)

structure Account where
  counter : Option Nat := none
  pending : Nat

/-- The node takes a transaction into its count when it comes next. -/
def Account.after (a : Account) (counter : Option Nat) (accepted : Bool) : Question → Account
  | .send tx =>
    { counter, pending := if accepted && decide (tx.nonce = a.pending) then a.pending + 1 else a.pending }
  | _ => { counter, pending := a.pending }

def Account.Settled (a : Account) : Prop := a.counter = none ∨ a.counter = some a.pending

/-- A nonce was taken and the node may not have its transaction. -/
def Account.Loose (a : Account) : Prop := a.Settled ∨ a.counter = some (a.pending + 1)

def Account.Holding (a : Account) (nonce : Nat) : Prop :=
  a.counter = some (nonce + 1) ∧ a.pending = nonce

inductive Kind where
  | submission
  | deployment
  | call
  deriving DecidableEq

def Operation.kind : Operation → Kind
  | .submitPlan _ => .submission
  | .deployContract _ _ _ => .deployment
  | _ => .call

/-- No answer after which an operation returns with the nonce it has taken and not used: in a
    submission a dry run that reverts, or a reset that fails while the counter is ahead; in a call
    one that is not built or signed, or that the node does not take. -/
def Lossless (relayer : Relayer) (kind : Kind) (a : Account) (accepted : Bool) :
    (q : Question) → q.Answer → Prop
  | .estimate _ _, answer => kind = .submission → ∀ reason, dryRunOf relayer answer ≠ .reverted reason
  | .reset, answer => kind = .submission → a.Settled ∨ answer = .ok ()
  | .build _, answer | .sign _, answer => kind = .call → answer = .ok ()
  | .send _, _ => kind = .call → accepted = true
  | _, _ => True

structure Truthful (a : Account) (q : Question) (node : (q : Question) → q.Answer)
    (count : Except Raised Nat) (accepted : Bool) : Prop where
  count : ∀ n, count = .ok n → n = a.pending
  taken : ∀ tx hash, q = .send tx → node (.send tx) = .ok hash → accepted = true

def Goes (relayer : Relayer) (kind : Kind) (a : Account) (q : Question) (answer : q.Answer)
    (a' : Account) : Prop :=
  ∃ node count accepted, Truthful a q node count accepted ∧
    answer = (answerTo a.counter node count q).1 ∧
    a' = a.after (answerTo a.counter node count q).2 accepted q ∧ Lossless relayer kind a accepted q answer

def InOrder (a : Account) : Question → Prop
  | .send tx => tx.nonce = a.pending
  | _ => True

abbrev Orders (relayer : Relayer) (kind : Kind) {α : Type} (p : Talk α) (a : Account)
    (post : α → Account → Prop) : Prop :=
  Meets (Goes relayer kind) InOrder p a post

section

variable {relayer : Relayer} {kind : Kind} {a a' : Account}

theorem goes_allocate {answer} (goes : Goes relayer kind a .allocate answer a')
    (settled : a.Settled) :
    (∃ e, answer = .error e ∧ a'.Settled) ∨ ∃ nonce, answer = .ok nonce ∧ a'.Holding nonce := by
  obtain ⟨node, count, accepted, truthful, rfl, rfl, -⟩ := goes
  obtain ⟨counter, pending⟩ := a
  rcases settled with dropped | agrees
  · obtain rfl : counter = none := dropped
    cases count with
    | error e => exact .inl ⟨e, rfl, .inl rfl⟩
    | ok n =>
      obtain rfl := truthful.count n rfl
      exact .inr ⟨_, rfl, rfl, rfl⟩
  · obtain rfl : counter = some pending := agrees
    exact .inr ⟨pending, rfl, rfl, rfl⟩

theorem goes_reset {answer} (goes : Goes relayer .submission a .reset answer a') :
    a'.Settled := by
  obtain ⟨node, count, accepted, truthful, rfl, rfl, lossless⟩ := goes
  cases count with
  | ok n =>
    obtain rfl := truthful.count n rfl
    exact .inr rfl
  | error e =>
    rcases lossless rfl with settled | done
    · exact settled
    · cases done

theorem goes_invalidate {answer} (goes : Goes relayer kind a .invalidate answer a') :
    a'.Settled := by
  obtain ⟨node, count, accepted, -, -, rfl, -⟩ := goes
  exact .inl rfl

theorem goes_send {tx answer} (goes : Goes relayer kind a (.send tx) answer a')
    (holding : a.Holding tx.nonce) :
    a'.Loose ∧ ((∃ hash, answer = .ok hash) ∨ kind = .call → a'.Settled) := by
  obtain ⟨node, count, accepted, truthful, rfl, rfl, lossless⟩ := goes
  obtain ⟨counter, pending⟩ := a
  obtain ⟨rfl, rfl⟩ : counter = some (tx.nonce + 1) ∧ pending = tx.nonce := holding
  cases accepted with
  | true => exact ⟨.inl (.inr (by simp [Account.after, answerTo])),
      fun _ => .inr (by simp [Account.after, answerTo])⟩
  | false =>
    refine ⟨.inr (by simp [Account.after, answerTo]), ?_⟩
    rintro (⟨hash, sent⟩ | called)
    · cases truthful.taken tx hash rfl sent
    · cases lossless called

def Question.idle : Question → Bool
  | .allocate | .reset | .invalidate | .send _ => false
  | _ => true

theorem goes_idle {q answer} (goes : Goes relayer kind a q answer a') (idle : q.idle = true) :
    a' = a := by
  obtain ⟨node, count, accepted, -, -, rfl, -⟩ := goes
  cases q with
  | allocate | reset | invalidate | send => cases idle
  | _ => rfl

theorem goes_lossless {q answer} (goes : Goes relayer kind a q answer a') :
    ∃ accepted, Lossless relayer kind a accepted q answer := by
  obtain ⟨node, count, accepted, -, -, -, lossless⟩ := goes
  exact ⟨accepted, lossless⟩

theorem idle_orders {α : Type} {q} {f : q.Answer → Talk α} {post : α → Account → Prop}
    (idle : q.idle = true)
    (rest : ∀ answer, Goes relayer kind a q answer a → Orders relayer kind (f answer) a post) :
    Orders relayer kind (ask q >>= f) a post := by
  refine Meets.asks (f := f) ?_ fun answer a' goes => ?_
  · cases q with
    | send => cases idle
    | _ => trivial
  · obtain rfl := goes_idle goes idle
    exact rest answer goes

end

section

variable {relayer : Relayer} {kind : Kind} {a : Account}

theorem allocate_orders {α : Type} {f : Except Raised Nat → Talk α} {post : α → Account → Prop}
    (settled : a.Settled)
    (failed : ∀ e (a' : Account), a'.Settled → Orders relayer kind (f (.error e)) a' post)
    (given : ∀ nonce (a' : Account), a'.Holding nonce → Orders relayer kind (f (.ok nonce)) a' post) :
    Orders relayer kind (ask .allocate >>= f) a post := by
  refine Meets.asks trivial fun answer a' goes => ?_
  rcases goes_allocate goes settled with ⟨e, rfl, settled⟩ | ⟨nonce, rfl, holding⟩
  · exact failed e a' settled
  · exact given nonce a' holding

theorem Account.Holding.loose {nonce} (holding : a.Holding nonce) : a.Loose := by
  obtain ⟨counter, pending⟩ := holding
  exact .inr (by rw [counter, pending])

theorem getGasPrice_orders {attempt} :
    Orders relayer kind (getGasPrice relayer attempt) a fun price a' =>
      a' = a ∧ (attempt = 0 → ∃ n, price = .ok n) := by
  refine idle_orders rfl fun answer _ => meets_pure.mpr ⟨rfl, ?_⟩
  rintro rfl
  exact ⟨_, rfl⟩

/-- What an attempt wants signed, with the nonce it took; a failed attempt may be ahead. -/
def BuiltIn (built : Built) (a : Account) : Prop :=
  match built with
  | .tx tx => a.Holding tx.nonce
  | .raised _ => a.Loose
  | .reverted _ => False

theorem priceTx_orders {job nonce gasPrice value data} (holding : a.Holding nonce) :
    Orders relayer .submission (priceTx relayer job nonce gasPrice value data) a BuiltIn := by
  refine idle_orders rfl fun estimate goes => ?_
  obtain ⟨accepted, lossless⟩ := goes_lossless goes
  cases dryRun : dryRunOf relayer estimate with
  | reverted reason => exact absurd dryRun (lossless rfl reason)
  | limit gasLimit =>
    cases raising relayer (lockedFee job) with
    | error e => exact meets_pure.mpr holding.loose
    | ok fee =>
      refine idle_orders rfl fun built _ => ?_
      cases built with
      | error e => exact meets_pure.mpr holding.loose
      | ok u => exact meets_pure.mpr holding

theorem buildTx_orders {job attempt} (settled : a.Settled) :
    Orders relayer .submission (buildTx relayer job attempt) a BuiltIn := by
  refine allocate_orders settled (fun e a' settled => meets_pure.mpr (.inl settled))
    fun nonce a' holding => ?_
  refine getGasPrice_orders.seq fun price a'' ⟨same, _⟩ => ?_
  subst same
  cases price with
  | error e => exact meets_pure.mpr holding.loose
  | ok gasPrice =>
    dsimp only
    cases callOf relayer job with
    | error e => exact meets_pure.mpr holding.loose
    | ok call => exact priceTx_orders holding

def SentIn (sent : Sent) (a : Account) : Prop :=
  match sent with
  | .returned _ => a.Settled
  | .raised _ _ => a.Loose

theorem readReceipt_orders {tx hash receipt} (settled : a.Settled) :
    Orders relayer kind (readReceipt relayer tx hash receipt) a SentIn := by
  unfold readReceipt
  split
  · exact meets_pure.mpr settled
  · exact idle_orders rfl fun _ _ => meets_pure.mpr settled

theorem signAndSend_orders {tx} (holding : a.Holding tx.nonce) :
    Orders relayer .submission (signAndSend relayer tx) a SentIn := by
  refine idle_orders rfl fun signed _ => ?_
  cases signed with
  | error e => exact meets_pure.mpr holding.loose
  | ok u =>
    refine Meets.asks holding.2.symm fun sent a' goes => ?_
    obtain ⟨loose, settled⟩ := goes_send goes holding
    cases sent with
    | error e => exact meets_pure.mpr loose
    | ok hash =>
      have settled := settled (.inl ⟨hash, rfl⟩)
      refine idle_orders rfl fun waited _ => ?_
      cases waited with
      | error e => exact meets_pure.mpr loose
      | ok receipt => exact readReceipt_orders settled

abbrev EndsSettled {α : Type} (_ : α) (a : Account) : Prop := a.Settled

theorem exhausted_orders {last broadcast} :
    Orders relayer kind (exhausted relayer last broadcast) a EndsSettled :=
  Meets.asks trivial fun _ _ goes => meets_pure.mpr (goes_invalidate goes)

theorem retry_orders {next attempt e broadcast}
    (rest : ∀ a : Account, a.Settled → Orders relayer .submission next a EndsSettled) :
    Orders relayer .submission (retry relayer next attempt e broadcast) a EndsSettled := by
  unfold retry
  dsimp only
  split
  · refine Meets.asks trivial fun wasReset a' goes => ?_
    have settled := goes_reset goes
    cases wasReset with
    | error e => exact meets_pure.mpr settled
    | ok u => exact rest a' settled
  · split
    · exact Meets.asks trivial fun _ a' goes => rest a' (goes_invalidate goes)
    · exact exhausted_orders

theorem attempts_orders {job left attempt last broadcast} (settled : a.Settled) :
    Orders relayer .submission (attempts relayer job left attempt last broadcast) a EndsSettled := by
  induction left generalizing a attempt last broadcast with
  | zero => exact exhausted_orders
  | succ left ih =>
    refine (buildTx_orders settled).seq fun built a' builtIn => ?_
    cases built with
    | reverted reason => cases builtIn
    | raised e => exact retry_orders fun _ settled => ih settled
    | tx tx =>
      refine (signAndSend_orders builtIn).seq fun sent a'' sentIn => ?_
      cases sent with
      | returned result => exact meets_pure.mpr sentIn
      | raised e sent => exact retry_orders fun _ settled => ih settled

theorem submitPlan_orders {job : Job} (settled : a.Settled) :
    Orders relayer .submission (submitPlan relayer job) a EndsSettled := by
  unfold submitPlan
  split
  · exact meets_pure.mpr settled
  · split
    · exact meets_pure.mpr settled
    · refine idle_orders rfl fun known _ => ?_
      cases known with
      | false => exact meets_pure.mpr settled
      | true =>
        refine idle_orders rfl fun connected _ => ?_
        cases connected with
        | error e => exact meets_pure.mpr settled
        | ok u =>
          refine idle_orders rfl fun balance _ => ?_
          cases balanceError relayer balance with
          | some error => exact meets_pure.mpr settled
          | none =>
            cases job.prepared with
            | error e => exact meets_pure.mpr settled
            | ok u => exact attempts_orders settled

theorem estimateGas_orders {data} :
    Orders relayer .deployment (estimateGas relayer data) a fun _ a' => a' = a := by
  refine idle_orders rfl fun answer _ => ?_
  cases answer with
  | error e => exact meets_pure.mpr rfl
  | ok estimate =>
    dsimp only
    cases relayer.withMargin estimate with
    | error e => exact meets_pure.mpr rfl
    | ok gas => exact meets_pure.mpr rfl

variable {legacyPrice : Nat → Nat}

theorem buildDeployGasFields_orders {minTip} :
    Orders relayer kind (buildDeployGasFields minTip legacyPrice) a fun _ a' => a' = a := by
  refine idle_orders rfl fun base _ => ?_
  match base with
  | .error e => exact meets_pure.mpr rfl
  | .ok none =>
    refine idle_orders rfl fun price _ => ?_
    cases price with
    | error e => exact meets_pure.mpr rfl
    | ok price => exact meets_pure.mpr rfl
  | .ok (some base) => exact idle_orders rfl fun tip _ => meets_pure.mpr rfl

theorem broadcastTx_orders {tx} (holding : a.Holding tx.nonce) :
    Orders relayer kind (broadcastTx tx) a fun ended a' =>
      a'.Loose ∧ ((∃ done, ended = .ok done) ∨ kind = .call → a'.Settled) := by
  refine idle_orders rfl fun signed goes => ?_
  obtain ⟨accepted, lossless⟩ := goes_lossless goes
  cases signed with
  | error e =>
    refine meets_pure.mpr ⟨holding.loose, ?_⟩
    rintro (⟨done, same⟩ | called)
    · cases same
    · cases lossless called
  | ok u =>
    refine Meets.asks holding.2.symm fun sent a' goes => ?_
    obtain ⟨loose, settled⟩ := goes_send goes holding
    cases sent with
    | error e =>
      refine meets_pure.mpr ⟨loose, ?_⟩
      rintro (⟨done, same⟩ | called)
      · cases same
      · exact settled (.inr called)
    | ok hash =>
      have settled := settled (.inl ⟨hash, rfl⟩)
      refine idle_orders rfl fun waited _ => ?_
      cases waited with
      | error e => exact meets_pure.mpr ⟨loose, fun _ => settled⟩
      | ok receipt => exact meets_pure.mpr ⟨loose, fun _ => settled⟩

theorem deployTx_orders {bytecode minTip nonce} (holding : a.Holding nonce) :
    Orders relayer .deployment (deployTx relayer bytecode minTip legacyPrice nonce) a fun ended a' =>
      (∃ done, ended = .ok done) → a'.Settled := by
  refine estimateGas_orders.seq fun estimate a' same => ?_
  subst same
  refine buildDeployGasFields_orders.seq fun fee a'' same => ?_
  subst same
  cases fee with
  | error e => exact meets_pure.mpr (by simp)
  | ok fee => exact (broadcastTx_orders holding).mono fun _ _ ⟨_, settled⟩ done => settled (.inl done)

theorem deployContract_orders {bytecode : String} {minTip : Nat} (settled : a.Settled) :
    Orders relayer .deployment (deployContract relayer bytecode minTip legacyPrice) a EndsSettled := by
  refine idle_orders rfl fun connected _ => ?_
  cases connected with
  | error e => exact meets_pure.mpr settled
  | ok u =>
    refine allocate_orders settled (fun e a' settled => meets_pure.mpr settled) fun nonce a' holding => ?_
    refine (deployTx_orders holding).seq fun ended a'' done => ?_
    cases ended with
    | error e => exact Meets.asks trivial fun _ _ goes => meets_pure.mpr (goes_invalidate goes)
    | ok deployed =>
      have settled := done ⟨deployed, rfl⟩
      dsimp only
      split
      · exact meets_pure.mpr settled
      · exact meets_pure.mpr settled

theorem callFee_orders {call nonce data} :
    Orders relayer .call (callFee relayer call nonce data) a fun fee a' =>
      a' = a ∧ ∃ given, fee = .ok given := by
  unfold callFee
  split
  · refine getGasPrice_orders.seq fun price a' ⟨same, answered⟩ => ?_
    obtain ⟨n, rfl⟩ := answered rfl
    exact meets_pure.mpr ⟨same, _, rfl⟩
  · refine idle_orders rfl fun built goes => ?_
    obtain ⟨accepted, lossless⟩ := goes_lossless goes
    obtain rfl : built = .ok () := lossless rfl
    exact meets_pure.mpr ⟨rfl, _, rfl⟩

theorem callWith_orders {call nonce data} (holding : a.Holding nonce) :
    Orders relayer .call (callWith relayer call nonce data) a EndsSettled := by
  refine callFee_orders.seq fun fee a' ⟨same, given, ok⟩ => ?_
  subst same ok
  refine (broadcastTx_orders holding).seq fun ended a'' ⟨_, ends⟩ => ?_
  have settled : a''.Settled := ends (.inr rfl)
  cases ended with
  | error e => exact meets_pure.mpr settled
  | ok done =>
    dsimp only
    split
    · exact meets_pure.mpr settled
    · split
      · exact meets_pure.mpr settled
      · exact meets_pure.mpr settled

theorem sendCall_orders {call : ContractCall} (settled : a.Settled) :
    Orders relayer .call (sendCall relayer call) a EndsSettled := by
  refine idle_orders rfl fun connected _ => ?_
  cases connected with
  | error e => exact meets_pure.mpr settled
  | ok u =>
    cases call.encoded with
    | error e => exact meets_pure.mpr settled
    | ok data =>
      exact allocate_orders settled (fun e a' settled => meets_pure.mpr settled)
        fun nonce a' holding => callWith_orders holding

theorem runOnly_orders {α : Type} {p : Talk α} (orders : Orders relayer kind p a EndsSettled) :
    Orders relayer kind (runOnly p) a EndsSettled :=
  orders.seq fun _ _ settled => meets_pure.mpr settled

theorem program_orders (operation : Operation) (settled : a.Settled) :
    Orders relayer operation.kind (operation.program relayer) a EndsSettled := by
  cases operation with
  | submitPlan job => exact runOnly_orders (submitPlan_orders settled)
  | deployContract bytecode minTip legacyPrice => exact runOnly_orders (deployContract_orders settled)
  | registerIntent encoded => exact runOnly_orders (sendCall_orders settled)
  | syncValidators encoded => exact runOnly_orders (sendCall_orders settled)
  | callEscrowDeposit encoded => exact runOnly_orders (sendCall_orders settled)
  | callContractFunction signature encoded value gas => exact runOnly_orders (sendCall_orders settled)
  | callEscrowRelease encoded => exact runOnly_orders (sendCall_orders settled)

end

structure Session where
  account : Account
  operation : Operation
  program : Talk Unit := .done ()

inductive SessionEvent where
  | start (operation : Operation)
  /-- The running operation goes on: what the node answers, its count if the nonce manager asks for it,
      and whether it has the transaction if one is sent. -/
  | turn (node : (q : Question) → q.Answer) (count : Except Raised Nat) (accepted : Bool)

def nonceOf : Question → Option Nat
  | .send tx => some tx.nonce
  | _ => none

def sessionStep (relayer : Relayer) (s : Session) : SessionEvent → Session × Option Nat
  | .start operation => ({ s with operation, program := operation.program relayer }, none)
  | .turn node count accepted =>
    match s.program with
    | .done _ => (s, none)
    | .ask q next =>
      let (answer, counter) := answerTo s.account.counter node count q
      ({ s with account := s.account.after counter accepted q, program := next answer }, nonceOf q)

def InTurn (s : Session) : SessionEvent → Prop
  | .start _ => s.program = .done ()
  | .turn node count accepted =>
    ∀ q next, s.program = .ask q next → Truthful s.account q node count accepted

def KeepsNonce (relayer : Relayer) (s : Session) : SessionEvent → Prop
  | .start _ => True
  | .turn node count accepted => ∀ q next, s.program = .ask q next →
      Lossless relayer s.operation.kind s.account accepted q (answerTo s.account.counter node count q).1

def SessionInOrder (relayer : Relayer) (s : Session) : Prop :=
  Orders relayer s.operation.kind s.program s.account EndsSettled

section

variable {relayer : Relayer} {s : Session}

theorem sessionInOrder_step (ordered : SessionInOrder relayer s) {e} (inTurn : InTurn s e)
    (kept : KeepsNonce relayer s e) : SessionInOrder relayer (sessionStep relayer s e).1 := by
  obtain ⟨account, last, program⟩ := s
  cases e with
  | start operation =>
    obtain rfl : program = .done () := inTurn
    have ended : Orders relayer last.kind (pure () : Talk Unit) account EndsSettled := ordered
    have settled := meets_pure.mp ended
    exact program_orders operation settled
  | turn node count accepted =>
    cases program with
    | done u => exact ordered
    | ask q next =>
      have truthful := inTurn q next rfl
      have lossless := kept q next rfl
      exact (meets_ask.mp ordered).2 _ _ ⟨node, count, accepted, truthful, rfl, rfl, lossless⟩

theorem nonce_of_inOrder (ordered : SessionInOrder relayer s) {e nonce}
    (sent : (sessionStep relayer s e).2 = some nonce) : nonce = s.account.pending := by
  obtain ⟨account, operation, program⟩ := s
  cases e with
  | start operation => cases sent
  | turn node count accepted =>
    cases program with
    | done u => cases sent
    | ask q next =>
      cases q with
      | send tx =>
        obtain rfl : tx.nonce = nonce := Option.some.inj sent
        exact (meets_ask.mp ordered).1
      | _ => cases sent

end

/-- In every sequence of operations in which no answer makes one lose its nonce, every transaction is
    broadcast with the pending count. -/
theorem no_nonce_gap {relayer : Relayer} {pending : Nat} {first : Operation} {s : Session}
    {e : SessionEvent} {nonce : Nat}
    (reached : Reaches (sessionStep relayer) (fun s e => InTurn s e ∧ KeepsNonce relayer s e)
      { account := { pending }, operation := first } s)
    (sent : (sessionStep relayer s e).2 = some nonce) : nonce = s.account.pending := by
  have start : SessionInOrder relayer { account := { pending }, operation := first } :=
    meets_pure.mpr (.inl rfl)
  exact nonce_of_inOrder (reached.invariant (SessionInOrder relayer) start
    fun _ _ ordered legal => sessionInOrder_step ordered legal.1 legal.2) sent

def plainlyInTurn (s : Session) : SessionEvent → Bool
  | .start _ => match s.program with
      | .done _ => true
      | .ask _ _ => false
  | .turn _ (.ok count) accepted => count == s.account.pending && accepted
  | .turn _ (.error _) _ => false

theorem inTurn_of_plainly {s e} (plainly : plainlyInTurn s e = true) :
    InTurn s e := by
  cases e with
  | start operation =>
    unfold plainlyInTurn at plainly
    dsimp only at plainly
    split at plainly
    · next u done => exact done
    · cases plainly
  | turn node count accepted =>
    cases count with
    | error e => cases plainly
    | ok n =>
      obtain ⟨same, rfl⟩ : n = s.account.pending ∧ accepted = true := by
        simpa [plainlyInTurn] using plainly
      intro q next _
      refine ⟨?_, fun _ _ _ _ => rfl⟩
      rintro _ ⟨rfl⟩
      exact same

def revertingTurn : SessionEvent :=
  .turn (fun
    | .estimate _ _ => .error { text := "execution reverted", contractLogicError := true }
    | q => calmNode q) (.ok 5) true

def calmlyGoesOn (count : Nat) : SessionEvent := .turn calmNode (.ok count) true

def idleSession : Session := { account := { pending := 5 }, operation := plainCall }

def gappedRun : List SessionEvent :=
  [.start (.submitPlan (plainJob 0))] ++ List.replicate 6 revertingTurn ++ [.start plainCall]
    ++ List.replicate 4 (calmlyGoesOn 5)

theorem nonce_gap :
    ¬ ∀ (relayer : Relayer) (pending : Nat) (first : Operation) (s : Session) (e : SessionEvent)
        (nonce : Nat), Reaches (sessionStep relayer) InTurn { account := { pending }, operation := first } s →
        InTurn s e → (sessionStep relayer s e).2 = some nonce → nonce = s.account.pending := by
  intro always
  have along : AllowedAlong (sessionStep plainRelayer) (fun s e => plainlyInTurn s e = true) idleSession
      gappedRun := by
    decide +kernel
  have run := (along.mono fun _ _ => inTurn_of_plainly).reaches
  have sent : (sessionStep plainRelayer (runEvents (sessionStep plainRelayer) idleSession gappedRun)
      (calmlyGoesOn 5)).2 = some 6 := by
    decide +kernel
  have five : (runEvents (sessionStep plainRelayer) idleSession gappedRun).account.pending = 5 := by
    decide +kernel
  have next : plainlyInTurn (runEvents (sessionStep plainRelayer) idleSession gappedRun)
      (calmlyGoesOn 5) = true := by
    decide +kernel
  have same := always plainRelayer 5 plainCall _ _ 6 run (inTurn_of_plainly next) sent
  rw [five] at same
  cases same

def callGoesOn (s : Session) : SessionEvent → Bool
  | .start _ => true
  | .turn node _ accepted => s.operation.kind = .call && match s.program with
      | .ask (.build tx) _ => (node (.build tx)).isOk
      | .ask (.sign tx) _ => (node (.sign tx)).isOk
      | .ask (.send _) _ => accepted
      | _ => true

theorem keepsNonce_of_callGoesOn {relayer s e} (goesOn : callGoesOn s e = true) :
    KeepsNonce relayer s e := by
  cases e with
  | start operation => trivial
  | turn node count accepted =>
    intro q next running
    obtain ⟨called, answered⟩ := Bool.and_eq_true_iff.mp goesOn
    rw [of_decide_eq_true called]
    rw [running] at answered
    cases q with
    | build tx | sign tx =>
      obtain ⟨u, done⟩ := isOk_iff.mp answered
      exact fun _ => done
    | send tx => exact fun _ => answered
    | estimate | reset => exact fun other => nomatch other
    | _ => trivial

def callsInARow : List SessionEvent :=
  [.start plainCall] ++ List.replicate 5 (calmlyGoesOn 5) ++ [calmlyGoesOn 6, .start plainCall]
    ++ List.replicate 4 (calmlyGoesOn 6)

theorem second_call_in_order :
    (6 : Nat) = (runEvents (sessionStep plainRelayer) idleSession callsInARow).account.pending := by
  have along : AllowedAlong (sessionStep plainRelayer)
      (fun s e => InTurn s e ∧ KeepsNonce plainRelayer s e) idleSession callsInARow := by
    have checked : AllowedAlong (sessionStep plainRelayer)
        (fun s e => (plainlyInTurn s e && callGoesOn s e) = true) idleSession callsInARow := by
      decide +kernel
    refine checked.mono fun s e fine => ?_
    obtain ⟨plainly, goesOn⟩ := Bool.and_eq_true_iff.mp fine
    exact ⟨inTurn_of_plainly plainly, keepsNonce_of_callGoesOn goesOn⟩
  exact no_nonce_gap along.reaches (by decide +kernel :
    (sessionStep plainRelayer (runEvents (sessionStep plainRelayer) idleSession callsInARow)
      (calmlyGoesOn 6)).2 = some 6)

end MinotaurSubnet.EvmRelayer
