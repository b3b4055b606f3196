import MinotaurSubnet.Relayer.AdminCalls
import MinotaurSubnet.Relayer.ReportedOutcome
import MinotaurSubnet.Relayer.SubmitQuorum

/-! # The relayer service over time

The three endpoints that spend from the relayer's wallet share one set of safeguards, and a
restart of the service starts it afresh. A run is any sequence of requests, of results coming
back and of restarts.
-/

namespace MinotaurSubnet.Relayer

open Library Python Consensus Shared

def mark (svc : SubmitService) (s : Safeguards) (signer : String) : Int :=
  (s.nonceHighWater.get? (svc.host.lower signer)).getD 0

structure Keeps (svc : SubmitService) (s s' : Safeguards) : Prop where
  marks : ∀ signer, mark svc s signer ≤ mark svc s' signer
  day : s'.dayStartUtc = s.dayStartUtc
  spent : s'.gasUsedWei = s.gasUsedWei

section

variable {svc : SubmitService} {s s' s'' : Safeguards}

theorem Keeps.refl : Keeps svc s s := ⟨fun _ => le_refl _, rfl, rfl⟩

theorem Keeps.trans (first : Keeps svc s s') (second : Keeps svc s' s'') : Keeps svc s s'' where
  marks := fun signer => (first.marks signer).trans (second.marks signer)
  day := second.day.trans first.day
  spent := second.spent.trans first.spent

theorem checkCallerRate_nonces {limits} {lower : String → String} {now caller} :
    (s.checkCallerRate limits lower now caller).1.nonceHighWater = s.nonceHighWater ∧
      (s.checkCallerRate limits lower now caller).1.dayStartUtc = s.dayStartUtc ∧
      (s.checkCallerRate limits lower now caller).1.gasUsedWei = s.gasUsedWei := by
  unfold Safeguards.checkCallerRate
  dsimp only
  split <;> exact ⟨rfl, rfl, rfl⟩

theorem checkPlanHashUnseen_nonces {limits now deadline key} :
    (s.checkPlanHashUnseen limits now key deadline).1.nonceHighWater = s.nonceHighWater ∧
      (s.checkPlanHashUnseen limits now key deadline).1.dayStartUtc = s.dayStartUtc ∧
      (s.checkPlanHashUnseen limits now key deadline).1.gasUsedWei = s.gasUsedWei := by
  unfold Safeguards.checkPlanHashUnseen
  dsimp only
  split <;> exact ⟨rfl, rfl, rfl⟩

theorem Keeps.of_same (same : s'.nonceHighWater = s.nonceHighWater ∧ s'.dayStartUtc = s.dayStartUtc ∧
    s'.gasUsedWei = s.gasUsedWei) : Keeps svc s s' where
  marks := fun signer => by rw [mark, mark, same.1]
  day := same.2.1
  spent := same.2.2

theorem checkSignerNonce_accepts {lower : String → String} {signer nonce}
    (accepted : (s.checkSignerNonce lower signer nonce).2 = none) :
    (s.nonceHighWater.get? (lower signer)).getD 0 < nonce ∧
      (s.checkSignerNonce lower signer nonce).1 =
        { s with nonceHighWater := s.nonceHighWater.set (lower signer) nonce } := by
  unfold Safeguards.checkSignerNonce at accepted ⊢
  dsimp only at accepted ⊢
  split at accepted
  · cases accepted
  · next above =>
    rw [if_neg above]
    exact ⟨not_le.mp above, rfl⟩

theorem checkSignerNonce_keeps {signer nonce} :
    Keeps svc s (s.checkSignerNonce svc.host.lower signer nonce).1 := by
  cases accepted : (s.checkSignerNonce svc.host.lower signer nonce).2 with
  | some text =>
    have same : (s.checkSignerNonce svc.host.lower signer nonce).1 = s := by
      unfold Safeguards.checkSignerNonce at accepted ⊢
      dsimp only at accepted ⊢
      split at accepted
      · next below => rw [if_pos below]
      · cases accepted
    rw [same]
    exact .refl
  | none =>
    obtain ⟨above, next⟩ := checkSignerNonce_accepts accepted
    rw [next]
    refine ⟨fun other => ?_, rfl, rfl⟩
    simp only [mark, Dict.get?_set]
    split
    · next same =>
      rw [same]
      exact le_of_lt above
    · exact le_refl _

end

def dayOf (now : Int) : Int := now - now % 86400

def rolled (now : Int) (s : Safeguards) : Safeguards :=
  if s.dayStartUtc = dayOf now then s else { s with dayStartUtc := dayOf now, gasUsedWei := 0 }

theorem checkDailyGasRoom_fst {limits now} {eth : Int → String} {s} :
    (s.checkDailyGasRoom limits now eth).1 = rolled now s := rfl

theorem checkDailyGasRoom_none {limits now} {eth : Int → String} {s}
    (room : (s.checkDailyGasRoom limits now eth).2 = none) :
    (rolled now s).gasUsedWei < limits.dailyGasCapWei := by
  unfold Safeguards.checkDailyGasRoom at room
  change (if limits.dailyGasCapWei ≤ (rolled now s).gasUsedWei then _ else none) = none at room
  split at room
  · cases room
  · next below => exact not_le.mp below

theorem rolled_nonces {now s} : (rolled now s).nonceHighWater = s.nonceHighWater := by
  unfold rolled
  split <;> rfl

theorem rolled_day {now s} : (rolled now s).dayStartUtc = dayOf now := by
  unfold rolled
  split
  · next same => exact same
  · rfl

def wrapperOf (svc : SubmitService) (data : Value) : Option SignedWrapper := do
  let wrapper ← (data.get "wrapper").toOption
  let signature ← (data.get "wrapper_signature").toOption
  let payload ← (readWrapper svc wrapper).toOption
  let planHash ← payload.planHash.asStr.toOption
  let signer ← (svc.recoverWrapperSigner planHash payload.submissionNonce payload.timestamp
    payload.chainId signature).toOption
  return ⟨signer, payload, signature⟩

/-- A request that is answered leaves the safeguards as they were, or as the check of the day
    left them, up to what the checks may change. -/
def Handled (svc : SubmitService) (now : Int) (s s' : Safeguards) : Prop :=
  Keeps svc s s' ∨ Keeps svc (rolled now s) s'

/-- A request that reached the relayer's wallet. -/
structure Admitted (svc : SubmitService) (now : Int) (data : Value) (signed : SignedWrapper)
    (s s' : Safeguards) : Prop where
  carried : wrapperOf svc data = some signed
  fresh : isWrapperFresh svc now signed.payload = none
  above : mark svc s signed.signer < signed.payload.submissionNonce
  marked : mark svc s' signed.signer = signed.payload.submissionNonce
  room : (rolled now s).gasUsedWei < svc.limits.dailyGasCapWei
  keeps : Keeps svc (rolled now s) s'

section

variable {svc : SubmitService} {now : Int} {data : Value} {s s' : Safeguards}

variable {expected : Except SubmitStop String}

theorem admitWrapper_ok {texts wrapper signature chainId registry signed authorized}
    (admitted : admitWrapper svc now texts wrapper signature expected chainId registry = .ok (signed, authorized))
    (wrapperSent : data.get "wrapper" = .ok wrapper)
    (signatureSent : data.get "wrapper_signature" = .ok signature) :
    wrapperOf svc data = some signed ∧ isWrapperFresh svc now signed.payload = none := by
  obtain ⟨_, admitted⟩ := bind_ok admitted
  obtain ⟨payload, read, admitted⟩ := bind_eq_ok.mp admitted
  obtain ⟨planHash, _, admitted⟩ := bind_eq_ok.mp admitted
  obtain ⟨_, bound, admitted⟩ := bind_eq_ok.mp admitted
  obtain ⟨_, admitted⟩ := bind_ok admitted
  obtain ⟨_, fresh, admitted⟩ := bind_eq_ok.mp admitted
  obtain ⟨signer, recovered, admitted⟩ := bind_eq_ok.mp admitted
  obtain ⟨_, admitted⟩ := bind_ok admitted
  obtain ⟨_, admitted⟩ := bind_ok admitted
  obtain ⟨_, admitted⟩ := bind_ok admitted
  obtain ⟨rfl, rfl⟩ := Prod.mk.inj (pure_eq_ok.mp admitted)
  have named : payload.planHash = .str planHash := Value.isStr_iff.mp (ensure_eq_ok.mp bound)
  have recovers : svc.recoverWrapperSigner planHash payload.submissionNonce payload.timestamp
      payload.chainId signature = .ok signer := by
    unfold wrapperSigner at recovered
    split at recovered
    · next same => rw [same, Except.ok.inj recovered]
    · cases recovered
  constructor
  · simp [wrapperOf, wrapperSent, signatureSent, read, named, recovers, Except.toOption, Value.asStr]
  · unfold refuseIf at fresh
    split at fresh
    · cases fresh
    · next young => exact young

theorem ladder_keeps {signer nonce} :
    Keeps svc s ((s.checkSignerNonce svc.host.lower signer nonce).1.checkCallerRate svc.limits
      svc.host.lower now signer).1 :=
  checkSignerNonce_keeps.trans (.of_same checkCallerRate_nonces)

theorem ladder_marks {signer nonce}
    (accepted : (s.checkSignerNonce svc.host.lower signer nonce).2 = none) :
    mark svc s signer < nonce ∧
      mark svc ((s.checkSignerNonce svc.host.lower signer nonce).1.checkCallerRate svc.limits
        svc.host.lower now signer).1 signer = nonce := by
  obtain ⟨above, next⟩ := checkSignerNonce_accepts accepted
  refine ⟨above, ?_⟩
  rw [mark, checkCallerRate_nonces.1, next]
  simp

theorem mark_rolled {signer} : mark svc (rolled now s) signer = mark svc s signer := by
  rw [mark, mark, rolled_nonces]

theorem admitCall_keeps {texts wrapper signature chainId registry} :
    Keeps svc s (admitCall svc now texts wrapper signature expected chainId registry s).1 := by
  unfold admitCall
  split
  · exact .refl
  · dsimp only
    split
    · exact checkSignerNonce_keeps
    · split <;> exact ladder_keeps

theorem admitCall_ok {texts wrapper signature chainId registry signed}
    (admitted : (admitCall svc now texts wrapper signature expected chainId registry s).2 = .ok signed)
    (wrapperSent : data.get "wrapper" = .ok wrapper)
    (signatureSent : data.get "wrapper_signature" = .ok signature) :
    wrapperOf svc data = some signed ∧ isWrapperFresh svc now signed.payload = none ∧
      mark svc s signed.signer < signed.payload.submissionNonce ∧
      mark svc (admitCall svc now texts wrapper signature expected chainId registry s).1
        signed.signer = signed.payload.submissionNonce := by
  unfold admitCall at admitted ⊢
  split at admitted
  · cases admitted
  next given authorized wrapped =>
    dsimp only at admitted ⊢
    split at admitted
    · cases admitted
    next accepted =>
      split at admitted
      · cases admitted
      · cases admitted
        obtain ⟨carried, fresh⟩ := admitWrapper_ok wrapped wrapperSent signatureSent
        exact ⟨carried, fresh, ladder_marks accepted⟩

end

inductive Endpoint where
  | submitPlan
  | deploy
  | contractCall

def handle (svc : AdminService) (endpoint : Endpoint) (now : Int) (s : Safeguards) (data : Value) :
    Safeguards × Bool :=
  match endpoint with
  | .submitPlan =>
    let (s, outcome) := handleSubmitPlan svc.toSubmitService now s data
    (s, outcome.isOk)
  | .deploy =>
    let (s, outcome) := handleDeploy svc now s data
    (s, outcome.isOk)
  | .contractCall =>
    let (s, outcome) := handleContractCall svc now s data
    (s, outcome.isOk)

section

variable {svc : AdminService} {now : Int} {data : Value} {s : Safeguards}

/-- What a request that is answered did, and what one that is carried out went through. -/
structure Serves (svc : SubmitService) (now : Int) (data : Value) (s s' : Safeguards) (called : Bool) :
    Prop where
  handled : Handled svc now s s'
  admitted : called = true → ∃ signed, Admitted svc now data signed s s'

theorem Serves.refused {svc s'} (handled : Handled svc now s s') :
    Serves svc now data s s' false := ⟨handled, fun called => nomatch called⟩

theorem admitted_of_call {svc texts wrapper signature expected chainId registry signed}
    (room : (s.checkDailyGasRoom svc.limits now svc.eth).2 = none)
    (admitted : (admitCall svc now texts wrapper signature expected chainId registry (rolled now s)).2 = .ok signed)
    (sent : data.get "wrapper" = .ok wrapper ∧ data.get "wrapper_signature" = .ok signature) :
    Admitted svc now data signed s
      (admitCall svc now texts wrapper signature expected chainId registry (rolled now s)).1 := by
  obtain ⟨carried, fresh, above, marked⟩ := admitCall_ok admitted sent.1 sent.2
  rw [mark_rolled] at above
  exact ⟨carried, fresh, above, marked, checkDailyGasRoom_none room, admitCall_keeps⟩

theorem readDeploy_sent {request} (read : readDeploy svc data = .ok request) :
    data.get "wrapper" = .ok request.wrapper ∧
      data.get "wrapper_signature" = .ok request.wrapperSignature := by
  iterate 6 obtain ⟨_, read⟩ := bind_ok read
  obtain ⟨wrapper, wrapperSent, read⟩ := bind_eq_ok.mp read
  obtain ⟨signature, signatureSent, read⟩ := bind_eq_ok.mp read
  obtain rfl := pure_eq_ok.mp read
  exact ⟨raisingStop_eq_ok.mp wrapperSent, raisingStop_eq_ok.mp signatureSent⟩

theorem handleDeploy_serves :
    Serves svc.toSubmitService now data s (handleDeploy svc now s data).1
      (handleDeploy svc now s data).2.isOk := by
  unfold handleDeploy
  split
  · exact .refused (.inl .refl)
  next request read =>
    dsimp only
    split
    · exact .refused (.inr .refl)
    next room =>
      refine ⟨.inr admitCall_keeps, fun called => ?_⟩
      obtain ⟨given, ended⟩ := isOk_iff.mp called
      obtain ⟨signed, admitted, -⟩ := bind_eq_ok.mp ended
      exact ⟨signed, admitted_of_call room admitted (readDeploy_sent read)⟩

theorem readContractCall_sent {request} (read : readContractCall svc data = .ok request) :
    data.get "wrapper" = .ok request.wrapper ∧
      data.get "wrapper_signature" = .ok request.wrapperSignature := by
  -- the other fields are read and checked before the wrapper
  iterate 18 obtain ⟨_, read⟩ := bind_ok read
  obtain ⟨wrapper, wrapperSent, read⟩ := bind_eq_ok.mp read
  obtain ⟨signature, signatureSent, read⟩ := bind_eq_ok.mp read
  obtain rfl := pure_eq_ok.mp read
  exact ⟨raisingStop_eq_ok.mp wrapperSent, raisingStop_eq_ok.mp signatureSent⟩

theorem handleContractCall_serves :
    Serves svc.toSubmitService now data s (handleContractCall svc now s data).1
      (handleContractCall svc now s data).2.isOk := by
  unfold handleContractCall
  split
  · exact .refused (.inl .refl)
  next request read =>
    dsimp only
    split
    · exact .refused (.inr .refl)
    next room =>
      split
      next stop refused => exact .refused (.inr admitCall_keeps)
      next signed admitted =>
        have passed := admitted_of_call room admitted (readContractCall_sent read)
        exact ⟨.inr admitCall_keeps, fun _ => ⟨signed, passed⟩⟩

theorem upToQuorum_serves {svc} :
    Serves svc now data s (upToQuorum svc now s data).1 (upToQuorum svc now s data).2.isOk := by
  unfold upToQuorum
  split
  · exact .refused (.inl .refl)
  next bundle read =>
    split
    · exact .refused (.inl .refl)
    · dsimp only
      split
      · exact .refused (.inr .refl)
      next room =>
        split
        · exact .refused (.inr .refl)
        · split
          · exact .refused (.inr .refl)
          next payload signer authorized wrapped =>
            split
            · exact .refused (.inr checkSignerNonce_keeps)
            next accepted =>
              split
              · exact .refused (.inr ladder_keeps)
              · split
                · exact .refused (.inr ladder_keeps)
                · refine ⟨.inr ladder_keeps, fun _ => ?_⟩
                  rw [checkWrapper_eq] at wrapped
                  obtain ⟨⟨signed, listed⟩, admitted, same⟩ := map_eq_ok.mp wrapped
                  obtain ⟨rfl, rfl, rfl⟩ : signed.payload = payload ∧ signed.signer = signer ∧
                      listed = authorized := by simpa using same
                  obtain ⟨-, sent⟩ := readBundle_ok read
                  obtain ⟨carried, fresh⟩ := admitWrapper_ok admitted sent.1 sent.2.1
                  obtain ⟨above, marked⟩ := @ladder_marks _ now _ _ _ accepted
                  rw [checkDailyGasRoom_fst, mark_rolled] at above
                  exact ⟨signed, carried, fresh, above, marked, checkDailyGasRoom_none room, ladder_keeps⟩

theorem handleSubmitPlan_serves {svc} :
    Serves svc now data s (handleSubmitPlan svc now s data).1 (handleSubmitPlan svc now s data).2.isOk := by
  have served := @upToQuorum_serves now data s svc
  unfold handleSubmitPlan
  split
  next stopped =>
    rw [stopped] at served
    exact served
  next s' bundle submission passed =>
    rw [passed] at served
    split
    · exact .refused served.handled
    next key keyed =>
      have reserves : Keeps svc s' (s'.checkPlanHashUnseen svc.limits now key bundle.deadline).1 :=
        .of_same checkPlanHashUnseen_nonces
      dsimp only
      split
      · exact .refused (served.handled.imp (·.trans reserves) (·.trans reserves))
      · refine ⟨served.handled.imp (·.trans reserves) (·.trans reserves), fun _ => ?_⟩
        obtain ⟨signed, admitted⟩ := served.admitted rfl
        exact ⟨signed, admitted.carried, admitted.fresh, admitted.above,
          by rw [mark, checkPlanHashUnseen_nonces.1]; exact admitted.marked, admitted.room,
          admitted.keeps.trans reserves⟩

theorem handle_serves (endpoint : Endpoint) :
    Serves svc.toSubmitService now data s (handle svc endpoint now s data).1
      (handle svc endpoint now s data).2 := by
  cases endpoint with
  | submitPlan => exact handleSubmitPlan_serves
  | deploy => exact handleDeploy_serves
  | contractCall => exact handleContractCall_serves

end

structure Mined where
  gasUsed : Nat
  gasPrice : Nat

def Mined.cost (m : Mined) : Int := m.gasUsed * m.gasPrice

def bidOf : EvmRelayer.FeeFields → Nat
  | .legacy gasPrice => gasPrice
  | .dynamic _ maxFee => maxFee
  | .filled => 0

def minedIn (trace : List (Exchange EvmRelayer.Question.Answer)) : List Mined :=
  trace.filterMap fun
    | ⟨.receipt tx, .ok receipt⟩ => some ⟨receipt.gasUsed, bidOf tx.fee⟩
    | _ => none

/-- What comes back to the service: what the relayer asked and heard, and what it returned. -/
inductive Report where
  | submitted (dedupKey : String) (trace : List (Exchange EvmRelayer.Question.Answer))
      (result : EvmRelayer.SubmitResult)
  | deployed (trace : List (Exchange EvmRelayer.Question.Answer))
      (answer : Except EvmRelayer.Raised (String × String))
  | called (trace : List (Exchange EvmRelayer.Question.Answer)) (answer : Except EvmRelayer.Raised String)

def Report.mined : Report → List Mined
  | .submitted _ trace _ | .deployed trace _ | .called trace _ => minedIn trace

def approxGasPriceWei : Int := 50000000

/-- What the handlers do with a report, and what they charge: `handle_submit_plan` frees its
    slot when nothing was sent and charges the gas used; the others return. -/
def settle (report : Report) (s : Safeguards) : Safeguards × List Int :=
  match report with
  | .submitted dedupKey _ result =>
    let s := EvmRelayer.releaseUnsent dedupKey result s
    if result.gasUsed = 0 then (s, [])
    else (s.recordGasUsed result.gasUsed approxGasPriceWei, [result.gasUsed * approxGasPriceWei])
  | .deployed _ _ | .called _ _ => (s, [])

structure Entry where
  day : Int
  mined : Mined
  charges : List Int

/-- The service, with what its runs leave behind: the bodies carried out since the last start
    and before it, the mined transactions, and the wallet's spending at each acceptance. -/
structure Service where
  safeguards : Safeguards := {}
  current : List Value := []
  earlier : List Value := []
  ledger : List Entry := []
  admissions : List Int := []

inductive ServiceEvent where
  | request (endpoint : Endpoint) (now : Int) (data : Value)
  | reported (now : Int) (report : Report)
  | restart

def spentOn (day : Int) (ledger : List Entry) : Int :=
  ((ledger.filter (·.day = day)).map (·.mined.cost)).sum

def serviceStep (svc : AdminService) (s : Service) : ServiceEvent → Service × Bool
  | .request endpoint now data =>
    let (safeguards, called) := handle svc endpoint now s.safeguards data
    if called then
      ({ s with
        safeguards := safeguards
        current := data :: s.current
        admissions := spentOn (dayOf now) s.ledger :: s.admissions }, true)
    else ({ s with safeguards := safeguards }, false)
  | .reported now report =>
    let (safeguards, charges) := settle report s.safeguards
    let entries := report.mined.map fun mined => ⟨dayOf now, mined, charges⟩
    ({ s with safeguards := safeguards, ledger := entries ++ s.ledger }, false)
  | .restart => ({ s with safeguards := {}, current := [], earlier := s.current ++ s.earlier }, false)

def plainAdmin : AdminService :=
  { twoValidators with
    repr := fun _ => ""
    canonicalJson := fun _ => "[]"
    abiEncodeBytes := abiPair }

end MinotaurSubnet.Relayer
