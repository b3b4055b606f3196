import MinotaurSubnet.Consensus.Eip712
import MinotaurSubnet.Harness.SubmissionMutators
import MinotaurSubnet.Library.Fallible
import MinotaurSubnet.Library.Machine

/-! # Deploy fees

`verify_deploy_fee_payment` writes to the store twice: the verifier of the rail spends the
payment reference, then the nonce of the deployer's signature is consumed. Each write is a
transaction, and other requests of the API come between them. What the rail finds on its chain
and who signed is the answer of the outside.
-/

namespace MinotaurSubnet.Api

open Library Python Consensus
open Harness (stripText strip_strip)

/-- The typed data a developer signs. -/
structure DeveloperAuth where
  action : String
  appId : String
  paramsHash : List UInt8
  nonce : Int
  deadline : Int

structure DeployFeePayment where
  paymentRef : String
  nonce : Int
  deadline : Int
  signature : String

/-- A payment claimed for an app, with the settings and the answer of the rail it meets. -/
structure FeeRequest where
  appId : String
  deployer : String
  payment : DeployFeePayment
  publicDeployment : Bool
  chainId : Int
  amountRao : Int
  now : Int
  /-- Why the rail finds no such payment. -/
  unpaid : Option String := none

/-- The two tables of `app_intent_store.py` that payments write. -/
structure AuthStore where
  developerNonces : Dict (String × String) Int := Dict.empty
  consumedPayments : Dict String String := Dict.empty

structure FeeHost where
  lower : String → String
  keccak : List UInt8 → List UInt8
  recover : DeveloperAuth → String → Except String String

section

variable (host : FeeHost) (store : AuthStore)

def accountOf (appId deployer : String) : String × String := (appId, host.lower (stripText deployer))

def AuthStore.developerNonce (account : String × String) : Int :=
  (store.developerNonces.get? account).getD 0

def AuthStore.consumeDeveloperNonce (appId deployer : String) (nonce : Int) :
    Except String AuthStore := do
  let account := accountOf host appId deployer
  let expected := store.developerNonce account + 1
  ensure (nonce = expected) s!"bad nonce: got {nonce}, expected {expected}"
  return { store with developerNonces := store.developerNonces.set account nonce }

def AuthStore.consumePaymentRef (paymentRef appId : String) : Except String AuthStore := do
  let ref := stripText paymentRef
  ensure (ref ≠ "") "payment_ref is required"
  ensure (store.consumedPayments.get? ref).isNone "payment already used for a deploy"
  return { store with consumedPayments := store.consumedPayments.set ref appId }

def verifyDeveloperAuth (now : Int) (expectedDeployer signature : String) (auth : DeveloperAuth) :
    Except String Unit := do
  let expected := host.lower (stripText expectedDeployer)
  ensure (expectedDeployer ≠ "") "expected_deployer is empty"
  ensure (signature ≠ "") "signature is required for this action"
  ensure (now < auth.deadline) (s!"signature deadline expired ({auth.deadline} <= now {now}); "
    ++ "re-sign with a fresh deadline")
  ensure (auth.deadline - now ≤ 86400)
    s!"deadline too far in the future ({auth.deadline - now}s > 86400s)"
  let recovered ← (host.recover auth signature).mapError fun e => s!"signature malformed: {e}"
  ensure (host.lower recovered = expected) (s!"signature does not match deployer: signer "
    ++ s!"{slice recovered 0 10}..., deployer {slice expected 0 10}...")

def deployFeeParamsHash (paymentRef : String) (chainId amountRao : Int) : List UInt8 :=
  host.keccak (utf8 s!"{paymentRef}|{chainId}|{amountRao}")

def FeeRequest.auth (r : FeeRequest) : DeveloperAuth where
  action := "pay_deploy_fee"
  appId := r.appId
  paramsHash := deployFeeParamsHash host r.payment.paymentRef r.chainId r.amountRao
  nonce := r.payment.nonce
  deadline := r.payment.deadline

/-- `verify_deploy_fee_payment` to the end of the verifier, which spends the reference. -/
def AuthStore.verifyPayment (r : FeeRequest) : Except String AuthStore := do
  let deployer := stripText r.deployer
  ensure r.publicDeployment "deploy-fee collection is not live (ENABLE_PUBLIC_DEPLOYMENT off)"
  ensure (deployer ≠ "") "app has no deployer; a paid deploy requires a deployer identity"
  ensure (r.payment.paymentRef ≠ "") "payment_ref is required"
  ensure (r.payment.signature ≠ "") "pay_deploy_fee signature is required"
  verifyDeveloperAuth host r.now deployer r.payment.signature (r.auth host)
  ensure r.unpaid.isNone (r.unpaid.getD "")
  store.consumePaymentRef r.payment.paymentRef r.appId

end

structure FeeDesk where
  store : AuthStore := {}
  /-- The requests between their two writes, the ones that were answered `True`, newest first,
      and the ones whose nonce was refused after their reference was spent. -/
  waiting : List FeeRequest := []
  authorized : List FeeRequest := []
  lost : List FeeRequest := []

inductive FeeEvent where
  | verify (r : FeeRequest)
  | resume (i : Nat)
  /-- A nonce is consumed for another action of the developer. -/
  | other (appId signer : String) (nonce : Int)

/-- A step, and the error it answers. -/
def FeeDesk.step (host : FeeHost) (s : FeeDesk) : FeeEvent → FeeDesk × Option String
  | .verify r =>
    match s.store.verifyPayment host r with
    | .error e => (s, some e)
    | .ok store => ({ s with store, waiting := r :: s.waiting }, none)
  | .resume i =>
    match s.waiting[i]? with
    | none => (s, none)
    | some r =>
      let s := { s with waiting := s.waiting.eraseIdx i }
      match s.store.consumeDeveloperNonce host r.appId (host.lower (stripText r.deployer))
        r.payment.nonce with
      | .error e => ({ s with lost := r :: s.lost }, some e)
      | .ok store => ({ s with store, authorized := r :: s.authorized }, none)
  | .other appId signer nonce =>
    match s.store.consumeDeveloperNonce host appId signer nonce with
    | .error e => (s, some e)
    | .ok store => ({ s with store }, none)

namespace FeeDesk

variable (host : FeeHost)

def refs (requests : List FeeRequest) : List String :=
  requests.map fun r => stripText r.payment.paymentRef

/-- Whose nonce the request consumes. -/
def account (r : FeeRequest) : String × String :=
  accountOf host r.appId (host.lower (stripText r.deployer))

/-- The deployer has signed the payment, the reference and the fee, and the rail has found it. -/
structure Backed (r : FeeRequest) : Prop where
  live : r.publicDeployment = true
  paid : r.unpaid = none
  timely : r.now < r.payment.deadline ∧ r.payment.deadline - r.now ≤ 86400
  signed : ∃ signer, host.recover (r.auth host) r.payment.signature = .ok signer ∧
    host.lower signer = host.lower (stripText r.deployer)

/-- What was spent since the store held `old` was spent by one request each. -/
structure Sound (old : List String) (s : FeeDesk) : Prop where
  spent : s.store.consumedPayments.keys.Perm (old ++ refs (s.waiting ++ s.authorized ++ s.lost))
  backed : ∀ r ∈ s.waiting ++ s.authorized ++ s.lost, Backed host r
  past : ∀ r ∈ s.authorized, r.payment.nonce ≤ s.store.developerNonce (account host r)
  rising : s.authorized.Pairwise fun newer older =>
    account host newer = account host older → older.payment.nonce < newer.payment.nonce

variable {host} {old : List String} {s : FeeDesk} {store store' : AuthStore} {r : FeeRequest}

theorem consumeDeveloperNonce_ok {appId deployer nonce}
    (consumed : store.consumeDeveloperNonce host appId deployer nonce = .ok store') :
    store'.consumedPayments = store.consumedPayments ∧
      store.developerNonce (accountOf host appId deployer) < nonce ∧
      store'.developerNonce (accountOf host appId deployer) = nonce ∧
      ∀ account, store.developerNonce account ≤ store'.developerNonce account := by
  obtain ⟨_, next, written⟩ := bind_eq_ok.mp consumed
  obtain rfl := pure_eq_ok.mp written
  have next : nonce = store.developerNonce (accountOf host appId deployer) + 1 := by simpa using next
  refine ⟨rfl, by omega, by simp [AuthStore.developerNonce], fun account => ?_⟩
  by_cases same : account = accountOf host appId deployer
  · subst same
    simp only [AuthStore.developerNonce, Dict.get?_set_self, Option.getD_some] at next ⊢
    omega
  · simp [AuthStore.developerNonce, Dict.get?_set_ne _ _ same]

theorem verifyPayment_ok (verified : store.verifyPayment host r = .ok store') : Backed host r ∧
    store'.developerNonces = store.developerNonces ∧
    store'.consumedPayments.keys = store.consumedPayments.keys ++ refs [r] := by
  obtain ⟨_, live, verified⟩ := bind_eq_ok.mp verified
  obtain ⟨_, verified⟩ := bind_ok verified
  obtain ⟨_, verified⟩ := bind_ok verified
  obtain ⟨_, verified⟩ := bind_ok verified
  obtain ⟨_, signed, verified⟩ := bind_eq_ok.mp verified
  obtain ⟨_, paid, verified⟩ := bind_eq_ok.mp verified
  obtain ⟨_, verified⟩ := bind_ok verified
  obtain ⟨_, unspent, written⟩ := bind_eq_ok.mp verified
  obtain rfl := pure_eq_ok.mp written
  obtain ⟨_, signed⟩ := bind_ok signed
  obtain ⟨_, signed⟩ := bind_ok signed
  obtain ⟨_, fresh, signed⟩ := bind_eq_ok.mp signed
  obtain ⟨_, near, signed⟩ := bind_eq_ok.mp signed
  obtain ⟨signer, recovered, named⟩ := bind_eq_ok.mp signed
  refine ⟨⟨ensure_eq_ok.mp live, by simpa using paid, ⟨of_decide_eq_true (ensure_eq_ok.mp fresh),
    of_decide_eq_true (ensure_eq_ok.mp near)⟩, signer, ?_,
    by simpa [stripText, strip_strip] using named⟩, rfl, ?_⟩
  · cases asked : host.recover (r.auth host) r.payment.signature with
    | error e =>
      rw [asked] at recovered
      cases recovered
    | ok found =>
      rw [asked] at recovered
      exact recovered
  · have absent : store.consumedPayments.get? (stripText r.payment.paymentRef) = none := by
      simpa using unspent
    simp [Dict.keys, Dict.set, Dict.assign_of_lookup_none _ absent, refs]

theorem Sound.verified (sound : Sound host old s) (r : FeeRequest) :
    Sound host old (s.step host (.verify r)).1 := by
  unfold FeeDesk.step
  dsimp only
  cases verified : s.store.verifyPayment host r with
  | error e => exact sound
  | ok store =>
    obtain ⟨backed, nonces, keys⟩ := verifyPayment_ok verified
    have same account : store.developerNonce account = s.store.developerNonce account := by
      rw [AuthStore.developerNonce, AuthStore.developerNonce, nonces]
    refine ⟨?_, ?_, ?_, sound.rising⟩
    · rw [keys]
      refine (sound.spent.append_right _).trans ?_
      rw [List.append_assoc]
      exact List.perm_append_comm.append_left _
    · exact List.forall_mem_cons.mpr ⟨backed, sound.backed⟩
    · exact fun r member => (sound.past r member).trans (same _).ge

theorem Sound.resumed (sound : Sound host old s) (i : Nat) :
    Sound host old (s.step host (.resume i)).1 := by
  unfold FeeDesk.step
  dsimp only
  cases taken : s.waiting[i]? with
  | none => exact sound
  | some r =>
    obtain ⟨inside, rfl⟩ := List.getElem?_eq_some_iff.mp taken
    have perm := List.getElem_cons_eraseIdx_perm inside
    have all : ∀ r ∈ s.waiting[i] :: (s.waiting.eraseIdx i ++ s.authorized ++ s.lost),
        Backed host r :=
      fun r member => sound.backed r (((perm.append_right _).append_right _).mem_iff.mp member)
    have moved : s.store.consumedPayments.keys.Perm
        (old ++ refs (s.waiting[i] :: (s.waiting.eraseIdx i ++ s.authorized ++ s.lost))) :=
      sound.spent.trans ((((perm.symm.append_right _).append_right _).map _).append_left _)
    dsimp only
    cases consumed : s.store.consumeDeveloperNonce host s.waiting[i].appId
      (host.lower (stripText s.waiting[i].deployer)) s.waiting[i].payment.nonce with
    | error e =>
      refine ⟨moved.trans ((List.perm_middle.symm.map _).append_left _), ?_,
        sound.past, sound.rising⟩
      exact fun r member => all r (List.perm_middle.mem_iff.mp member)
    | ok store =>
      obtain ⟨kept, before, now, grows⟩ := consumeDeveloperNonce_ok consumed
      refine ⟨?_, ?_, ?_, ?_⟩
      · rw [kept]
        refine moved.trans (List.Perm.append_left _ (List.Perm.map _ ?_))
        exact List.perm_middle.symm.append_right _
      · exact fun r member => all r ((List.perm_middle.append_right _).mem_iff.mp member)
      · exact List.forall_mem_cons.mpr
          ⟨now.ge, fun r member => (sound.past r member).trans (grows _)⟩
      · refine List.pairwise_cons.mpr ⟨fun older member same => ?_, sound.rising⟩
        have := sound.past older member
        rw [← same] at this
        exact this.trans_lt before

theorem Sound.spentElsewhere (sound : Sound host old s) (appId signer : String) (nonce : Int) :
    Sound host old (s.step host (.other appId signer nonce)).1 := by
  unfold FeeDesk.step
  dsimp only
  cases consumed : s.store.consumeDeveloperNonce host appId signer nonce with
  | error e => exact sound
  | ok store =>
    obtain ⟨kept, -, -, grows⟩ := consumeDeveloperNonce_ok consumed
    refine ⟨?_, sound.backed, ?_, sound.rising⟩
    · rw [kept]
      exact sound.spent
    · exact fun r member => (sound.past r member).trans (grows _)

theorem Sound.step (sound : Sound host old s) (e : FeeEvent) : Sound host old (s.step host e).1 := by
  cases e with
  | verify r => exact sound.verified r
  | resume i => exact sound.resumed i
  | other appId signer nonce => exact sound.spentElsewhere appId signer nonce

/-- However requests, their second writes and other actions of the developers interleave: a payment
    reference is spent by one request at most, and only by one that its deployer has signed and the
    rail has found paid; and the deploys of one deployer are authorized under rising nonces. -/
theorem one_deploy_per_payment (store : AuthStore) (events : List FeeEvent) :
    Sound host store.consumedPayments.keys (runEvents (FeeDesk.step host) { store } events) ∧
      (store.consumedPayments.keys ++ refs ((runEvents (FeeDesk.step host) { store } events).waiting ++
        (runEvents (FeeDesk.step host) { store } events).authorized ++
        (runEvents (FeeDesk.step host) { store } events).lost)).Nodup := by
  have start : Sound host store.consumedPayments.keys { store } := ⟨by simp [refs], by simp, by simp, .nil⟩
  have sound := (reaches_runEvents (FeeDesk.step host) { store } events).invariant
    (Sound host store.consumedPayments.keys) start fun _ e sound _ => sound.step e
  exact ⟨sound, sound.spent.nodup_iff.mp (Dict.keysNodup _)⟩

end FeeDesk

end MinotaurSubnet.Api
