import MinotaurSubnet.Relayer.GasCap
import MinotaurSubnet.Relayer.SubmitQuorum
import MinotaurSubnet.Blockloop.GateAgreement

/-! # Which entry point a plan reaches

`_submit_plan_sync` picks the contract's entry point and the user signature from the plan's
metadata. A single-leg plan comes with its solver's: the leader adds the locked fee, and
nobody takes a key away. So the order's signature reaches `executeIntent` exactly when the
solver left the control keys alone.
-/

namespace MinotaurSubnet.EvmRelayer

open Library Python Shared

/-- `canonicalize_user_signature`: a recovery byte of 0 or 1 becomes 27 or 28. -/
def canonicalizeUserSignature (sig : List UInt8) : List UInt8 :=
  match sig.length == 65, sig[64]? with
  | true, some v => if v = 0 ∨ v = 1 then sig.take 64 ++ [v + 27] else sig
  | _, _ => sig

/-- `key in v`. -/
def contains (v : Value) (key : String) : Except PyError Bool :=
  match v with
  | .dict fields => .ok (fields.lookup key).isSome
  | .list items => .ok (items.any (·.isStr key))
  | .str s => .ok (hasText s key)
  | _ => .error .typeError

def ownSignature (userSignature : String) : Except PyError (List UInt8) :=
  if userSignature ≠ "" then
    match bytesFromHex (removeHexMarks userSignature) with
    | some bytes => .ok (canonicalizeUserSignature bytes)
    | none => .error .valueError
  else .ok (List.replicate 65 0)

def userSigOf (metadata : Value) (userSignature : String) : Except PyError (List UInt8) := do
  let leg ← contains metadata "leg_index"
  let hasLegIndex ← if leg then .ok true else contains metadata "cross_chain_leg_index"
  if hasLegIndex then return [] else ownSignature userSignature

/-- What `submit_plan` is given besides the plan. -/
structure RelayedOrder where
  orderId : String
  params : Value
  userSignature : String
  contractAddress : Option String

/-- The ABI encoder of the two entry points, and what encoding the order, the plan and the
    approvals raises. -/
structure Encoding where
  abi : CallFn → List UInt8 → Except Raised String
  encoded : Except Raised Unit := .ok ()

/-- The metadata `_submit_plan_sync` reads. -/
def metaOf (plan : ExecutionPlan) : Value := plan.metadata.or (.dict [])

/-- The job of `submit_plan(order, plan, …)`. -/
def planJob (relayer : Relayer) (enc : Encoding) (order : RelayedOrder) (plan : ExecutionPlan) : Job where
  orderId := order.orderId
  params := order.params
  plan := plan
  contractAddress := order.contractAddress
  prepared := do
    enc.encoded
    let _ ← raising relayer (userSigOf (metaOf plan) order.userSignature)
  encode := fun fn => do
    enc.abi fn (← raising relayer (userSigOf (metaOf plan) order.userSignature))

theorem sent_carries {relayer job trace result tx}
    (run : Dialogue.Runs (submitPlan relayer job) trace result) (sent : tx ∈ sentTxs trace) :
    callOf relayer job = .ok (tx.value, tx.data) := by
  obtain ⟨answer, member⟩ := mem_sentTxs.mp sent
  obtain ⟨before, after, split⟩ := List.append_of_mem member
  obtain ⟨_, _, -, -, -, -, -, called⟩ := run_priced run before _ after split
  exact called

def fieldOf (metadata : Value) (key : String) : Option Value :=
  match metadata with
  | .dict fields => fields.lookup key
  | _ => none

/-- The control keys are left alone: no leg index, no destination phase, and no leg key at all,
    unless the order's signature has no bytes to drop. -/
structure Unmarked (metadata : Value) (userSignature : String) : Prop where
  leg : (fieldOf metadata "leg_index").all Value.isNone = true
  crossChainLeg : (fieldOf metadata "cross_chain_leg_index").all Value.isNone = true
  phase : (fieldOf metadata "phase").all (fun v => !v.isStr "destination") = true
  kept : (fieldOf metadata "leg_index" = none ∧ fieldOf metadata "cross_chain_leg_index" = none) ∨
    ownSignature userSignature = .ok []

section

variable {fields : List (String × Value)}

theorem getD_isNone (v : Option Value) : (v.getD .none).isNone = v.all Value.isNone := by
  cases v with
  | none => rfl
  | some v => rfl

theorem getD_isStr (v : Option Value) (text : String) :
    (v.getD .none).isStr text = !v.all fun v => !v.isStr text := by
  cases v with
  | none => rfl
  | some v => simp

theorem callFnOf_executeIntent {fn} (selected : callFnOf (.dict fields) = .ok fn) :
    fn = .executeIntent ↔ (fieldOf (.dict fields) "leg_index").all Value.isNone = true ∧
      (fieldOf (.dict fields) "cross_chain_leg_index").all Value.isNone = true ∧
      (fieldOf (.dict fields) "phase").all (fun v => !v.isStr "destination") = true := by
  simp only [callFnOf, legIndexOf, Value.get, bind, Except.bind, pure, Except.pure, getD_isNone,
    getD_isStr] at selected
  simp only [fieldOf]
  cases leg : (fields.lookup "leg_index").all Value.isNone with
  | false =>
    simp only [leg, Bool.false_eq_true, if_false, getD_isNone, Bool.not_false, if_true,
      Except.ok.injEq] at selected
    simp [← selected]
  | true =>
    simp only [leg, if_true, getD_isNone] at selected
    cases crossLeg : (fields.lookup "cross_chain_leg_index").all Value.isNone with
    | false =>
      simp only [crossLeg, Bool.not_false, if_true, Except.ok.injEq] at selected
      simp [← selected]
    | true =>
      cases phase : (fields.lookup "phase").all (fun v => !v.isStr "destination") <;>
        simp only [crossLeg, phase, Bool.not_true, Bool.not_false, Bool.false_eq_true, if_false,
          if_true, Except.ok.injEq] at selected <;> simp [← selected]

theorem contains_dict {key} :
    contains (.dict fields) key = .ok (fieldOf (.dict fields) key).isSome := rfl

theorem userSigOf_dict {userSignature} :
    userSigOf (.dict fields) userSignature =
      if fieldOf (.dict fields) "leg_index" = none ∧
          fieldOf (.dict fields) "cross_chain_leg_index" = none then
        ownSignature userSignature
      else .ok [] := by
  split
  · next bare =>
    simp [userSigOf, contains_dict, bare.1, bare.2, bind, Except.bind]
  · next marked =>
    cases leg : fieldOf (.dict fields) "leg_index" with
    | some v => simp [userSigOf, contains_dict, leg, bind, Except.bind, pure, Except.pure]
    | none =>
      cases crossLeg : fieldOf (.dict fields) "cross_chain_leg_index" with
      | some v =>
        simp [userSigOf, contains_dict, leg, crossLeg, bind, Except.bind, pure, Except.pure]
      | none => exact absurd ⟨leg, crossLeg⟩ marked

theorem selection_iff {fn sig userSignature} (selected : callFnOf (.dict fields) = .ok fn)
    (signed : userSigOf (.dict fields) userSignature = .ok sig) :
    (fn = .executeIntent ∧ ownSignature userSignature = .ok sig) ↔
      Unmarked (.dict fields) userSignature := by
  rw [callFnOf_executeIntent selected]
  rw [userSigOf_dict] at signed
  constructor
  · rintro ⟨⟨leg, crossLeg, phase⟩, own⟩
    refine ⟨leg, crossLeg, phase, ?_⟩
    split at signed
    · next bare => exact .inl bare
    · cases signed
      exact .inr own
  · rintro ⟨leg, crossLeg, phase, kept⟩
    refine ⟨⟨leg, crossLeg, phase⟩, ?_⟩
    rcases kept with bare | empty
    · rwa [if_pos bare] at signed
    · split at signed
      · exact signed
      · cases signed
        exact empty

end

theorem metaOf_dict {plan fields} (dict : plan.metadata = .dict fields) :
    metaOf plan = .dict fields := by
  cases fields with
  | nil => simp [metaOf, dict, Value.or, Value.truthy]
  | cons field rest => simp [metaOf, dict, Value.or, Value.truthy]

theorem lookup_setField {fee fields key} (other : key ≠ "platform_fee_wei") :
    (Blockloop.recordFee.setField fee fields).lookup key = fields.lookup key := by
  have apart : (key == "platform_fee_wei") = false := beq_false_of_ne other
  induction fields with
  | nil => simp [Blockloop.recordFee.setField, List.lookup_cons, apart]
  | cons field rest ih =>
    obtain ⟨name, value⟩ := field
    simp only [Blockloop.recordFee.setField]
    split
    · next same => simp [List.lookup_cons, same, apart]
    · simp only [List.lookup_cons, ih]

theorem fieldOf_recordFee {plan fee key} (other : key ≠ "platform_fee_wei") :
    fieldOf (Blockloop.recordFee plan fee).metadata key = fieldOf plan.metadata key := by
  cases dict : plan.metadata with
  | dict fields =>
    simp only [Blockloop.recordFee, dict]
    split
    · exact lookup_setField other
    · rw [dict]
  | none | bool | int | float | str | list => simp only [Blockloop.recordFee, dict]

theorem unmarked_congr {metadata metadata' userSignature}
    (leg : fieldOf metadata' "leg_index" = fieldOf metadata "leg_index")
    (crossLeg : fieldOf metadata' "cross_chain_leg_index" = fieldOf metadata "cross_chain_leg_index")
    (phase : fieldOf metadata' "phase" = fieldOf metadata "phase") :
    Unmarked metadata' userSignature ↔ Unmarked metadata userSignature := by
  constructor
  · rintro ⟨a, b, c, d⟩
    rw [leg] at a d
    rw [crossLeg] at b d
    rw [phase] at c
    exact ⟨a, b, c, d⟩
  · rintro ⟨a, b, c, d⟩
    rw [← leg] at a d
    rw [← crossLeg] at b d
    rw [← phase] at c
    exact ⟨a, b, c, d⟩

/-- The two routes from the leader to `EvmRelayer.submit_plan`: the embedded relayer gets the
    objects, the HTTP service rebuilds them from an accepted body. -/
inductive HandedOver (svc : Relayer.SubmitService) (plan : ExecutionPlan) (order : RelayedOrder) :
    ExecutionPlan → RelayedOrder → Prop where
  | embedded : HandedOver svc plan order plan order
  | http {now : Int} {s s' : Relayer.Safeguards} {data : Value} {sentPlan sentOrder : List (String × Value)}
      {sub : Relayer.Submission} {order' : RelayedOrder}
      (planSent : data.get "plan" = .ok (.dict sentPlan))
      (metadataSent : sentPlan.lookup "metadata" = some plan.metadata)
      (orderSent : data.get "order" = .ok (.dict sentOrder))
      (signatureSent : sentOrder.lookup "user_signature" = some (.str order.userSignature))
      (accepted : Relayer.handleSubmitPlan svc now s data = (s', .ok sub))
      (light : (Value.dict sentOrder).get "user_signature" (.str "") = .ok (.str order'.userSignature)) :
      HandedOver svc plan order sub.plan order'

variable {svc : Relayer.SubmitService}

theorem rehydratePlan_metadata {sentPlan metadata plan'}
    (sent : sentPlan.lookup "metadata" = some metadata)
    (rebuilt : Relayer.rehydratePlan svc (.dict sentPlan) = .ok plan') :
    plan'.metadata = metadata.or (.dict []) := by
  iterate 8 obtain ⟨_, rebuilt⟩ := bind_ok rebuilt
  obtain ⟨held, read, rebuilt⟩ := bind_eq_ok.mp rebuilt
  obtain rfl := pure_eq_ok.mp rebuilt
  obtain rfl : metadata = held := by
    simpa [Value.get, sent] using read
  rfl

theorem accepted_plan {now s s' data sub field rest}
    (planSent : data.get "plan" = .ok (.dict (field :: rest)))
    (accepted : Relayer.handleSubmitPlan svc now s data = (s', .ok sub)) :
    Relayer.rehydratePlan svc (.dict (field :: rest)) = .ok sub.plan := by
  obtain ⟨bundle, planHash, authorized, read, _, verified⟩ := Relayer.handleSubmitPlan_ok accepted
  have carried : sub.plan = bundle.plan := by
    iterate 5 obtain ⟨_, verified⟩ := bind_ok verified
    obtain rfl := pure_eq_ok.mp verified
    rfl
  obtain ⟨⟨planData, sent, rebuilt⟩, -⟩ := Relayer.readBundle_ok read
  obtain rfl : .dict (field :: rest) = planData := Except.ok.inj (planSent.symm.trans sent)
  rw [carried]
  exact rebuilt

theorem HandedOver.metadata {plan plan' order order'}
    (handed : HandedOver svc plan order plan' order') :
    metaOf plan' = metaOf plan ∧ order'.userSignature = order.userSignature := by
  cases handed with
  | embedded => exact ⟨rfl, rfl⟩
  | @http _ _ _ _ sentPlan _ _ _ planSent metadataSent _ signatureSent accepted light =>
    refine ⟨?_, ?_⟩
    · cases sentPlan with
      | nil => simp at metadataSent
      | cons field rest =>
        have rebuilt := rehydratePlan_metadata metadataSent (accepted_plan planSent accepted)
        simp only [metaOf, rebuilt, Value.or]
        split <;> simp_all
    · simpa [Value.get, signatureSent] using light.symm

theorem raising_eq_ok {relayer : Relayer} {α : Type} {x : Except PyError α} {a : α} :
    raising relayer x = .ok a ↔ x = .ok a := by
  cases x <;> simp [raising]

theorem called_planJob {relayer : Relayer} {enc : Encoding} {order : RelayedOrder}
    {plan : ExecutionPlan} {value : Int} {data : String}
    (called : callOf relayer (planJob relayer enc order plan) = .ok (value, data)) :
    ∃ fn sig, callFnOf (metaOf plan) = .ok fn ∧ userSigOf (metaOf plan) order.userSignature = .ok sig ∧
      enc.abi fn sig = .ok data := by
  obtain ⟨fn, selected, called⟩ := bind_eq_ok.mp called
  obtain ⟨value', _, called⟩ := bind_eq_ok.mp called
  obtain ⟨data', encoded, called⟩ := bind_eq_ok.mp called
  obtain ⟨rfl, rfl⟩ := Prod.mk.inj (pure_eq_ok.mp called)
  obtain ⟨sig, signed, abi⟩ := bind_eq_ok.mp encoded
  exact ⟨fn, sig, raising_eq_ok.mp selected, raising_eq_ok.mp signed, abi⟩

def relayedOrder (order : Blockloop.Order) (userSignature : String) (contractAddress : Option String) :
    RelayedOrder where
  orderId := order.orderId
  params := .dict order.params
  userSignature := userSignature
  contractAddress := contractAddress

/-- Whatever a solver returns for an order, by either route, a transaction is an `executeIntent`
    with the order's own signature exactly when the solver left the control keys alone. -/
theorem own_signature_iff {host : Consensus.Host} {net : Blockloop.Network} {leader : Blockloop.Leader}
    {order : Blockloop.Order} {generated plan : ExecutionPlan} {proposed : Blockloop.Proposed}
    {userSignature : String} {contractAddress : Option String} {svc : Relayer.SubmitService}
    {relayed : RelayedOrder} {relayer : Relayer} {enc : Encoding}
    {trace : List (Exchange Question.Answer)} {result : SubmitResult} {tx : Tx}
    (done : Blockloop.process host net leader order generated = .ok proposed)
    (handed : HandedOver svc proposed.plan (relayedOrder order userSignature contractAddress) plan relayed)
    (run : Dialogue.Runs (submitPlan relayer (planJob relayer enc relayed plan)) trace result)
    (sent : tx ∈ sentTxs trace) :
    ∃ fn sig, callFnOf (metaOf plan) = .ok fn ∧ userSigOf (metaOf plan) relayed.userSignature = .ok sig ∧
      enc.abi fn sig = .ok tx.data ∧
      ((fn = .executeIntent ∧ ownSignature userSignature = .ok sig) ↔
        Unmarked generated.metadata userSignature) := by
  obtain ⟨fn, sig, selected, signed, data⟩ := called_planJob (sent_carries run sent)
  refine ⟨fn, sig, selected, signed, data, ?_⟩
  obtain ⟨threshold, fee, intentOrder, balances, crossChain, work⟩ := Blockloop.process_spec done
  obtain ⟨same, signature⟩ := handed.metadata
  obtain ⟨fields, dict⟩ : ∃ fields, proposed.plan.metadata = .dict fields := by
    cases held : proposed.plan.metadata with
    | dict fields => exact ⟨fields, rfl⟩
    | none | bool | int | float | str | list =>
      have flagged := work.flagged
      simp [held, Value.get] at flagged
  rw [same, metaOf_dict dict] at selected signed
  rw [signature] at signed
  change (fn = .executeIntent ∧
    ownSignature (relayedOrder order userSignature contractAddress).userSignature = .ok sig) ↔ _
  rw [selection_iff selected signed, ← dict, work.planned]
  exact unmarked_congr (fieldOf_recordFee (by decide)) (fieldOf_recordFee (by decide))
    (fieldOf_recordFee (by decide))

def entryPoint : CallFn → String
  | .executeIntent => "executeIntent"
  | .executeLeg _ => "executeLeg"

def spellingEncoding : Encoding where
  abi := fun fn sig => .ok (entryPoint fn ++ " " ++ hexOfBytes sig)

def signedSwap : RelayedOrder :=
  relayedOrder (Blockloop.orderCalling "swap") "0xbeef" (some "0xc0")

def swapJob (plan : ExecutionPlan) : Job := planJob plainRelayer spellingEncoding signedSwap plan

def swapTrace (plan : ExecutionPlan) : List (Exchange Question.Answer) :=
  Dialogue.transcript calmNode (submitPlan plainRelayer (swapJob plan))

def processedSwap (metadata : Value) : Except Blockloop.LeaderStop Blockloop.Proposed :=
  Blockloop.process Blockloop.selectorHost Blockloop.twoFunctionNetwork Blockloop.smallLeader
    (Blockloop.orderCalling "swap") { Blockloop.planWithoutCalls with metadata := metadata }

def sentFor (metadata : Value) : Option (List String) := do
  let proposed ← (processedSwap metadata).toOption
  return (sentTxs (swapTrace proposed.plan)).map Tx.data

theorem of_sentFor {metadata data} (sent : sentFor metadata = some [data]) :
    ∃ proposed tx, processedSwap metadata = .ok proposed ∧ tx ∈ sentTxs (swapTrace proposed.plan) ∧
      tx.data = data := by
  obtain ⟨proposed, done, sent⟩ := Option.bind_eq_some_iff.mp sent
  have only : (sentTxs (swapTrace proposed.plan)).map Tx.data = [data] := Option.some.inj sent
  obtain ⟨tx, member, named⟩ := List.mem_map.mp (only ▸ List.mem_singleton_self data)
  exact ⟨proposed, tx, toOption_eq_some.mp done, member, named⟩

/-- The leg index 0 of a solver sends a signed swap to `executeLeg`, without the signature. -/
theorem leg_index_drops_signature :
    ¬ ∀ (host : Consensus.Host) (net : Blockloop.Network) (leader : Blockloop.Leader)
      (order : Blockloop.Order) (generated : ExecutionPlan) (proposed : Blockloop.Proposed)
      (userSignature : String) (contractAddress : Option String) (relayer : Relayer) (enc : Encoding)
      (trace : List (Exchange Question.Answer)) (result : SubmitResult) (tx : Tx),
      Blockloop.process host net leader order generated = .ok proposed →
      Dialogue.Runs (submitPlan relayer
        (planJob relayer enc (relayedOrder order userSignature contractAddress) proposed.plan)) trace result →
      tx ∈ sentTxs trace →
      ∃ sig, ownSignature userSignature = .ok sig ∧ enc.abi .executeIntent sig = .ok tx.data := by
  intro always
  have dropped : sentFor (.dict [("leg_index", .int 0)]) = some ["executeLeg "] := by decide +kernel
  obtain ⟨proposed, tx, done, sent, data⟩ := of_sentFor dropped
  obtain ⟨sig, own, abi⟩ := always Blockloop.selectorHost Blockloop.twoFunctionNetwork Blockloop.smallLeader
    (Blockloop.orderCalling "swap")
    { Blockloop.planWithoutCalls with metadata := .dict [("leg_index", .int 0)] } proposed "0xbeef"
    (some "0xc0") plainRelayer spellingEncoding (swapTrace proposed.plan) _ tx done
    (Dialogue.runs_transcript _) sent
  obtain rfl : [0xbe, 0xef] = sig := Except.ok.inj ((by decide +kernel : ownSignature "0xbeef" =
    .ok [0xbe, 0xef]).symm.trans own)
  rw [data] at abi
  exact absurd abi (by decide +kernel)

/-- Without control keys it goes to `executeIntent` with the signature. -/
theorem own_signature_iff_plain :
    ∃ proposed tx, processedSwap (.dict []) = .ok proposed ∧ tx ∈ sentTxs (swapTrace proposed.plan) ∧
      tx.data = "executeIntent beef" ∧
      ∃ fn sig, callFnOf (metaOf proposed.plan) = .ok fn ∧
        userSigOf (metaOf proposed.plan) "0xbeef" = .ok sig ∧ spellingEncoding.abi fn sig = .ok tx.data ∧
        ((fn = .executeIntent ∧ ownSignature "0xbeef" = .ok sig) ↔ Unmarked (.dict []) "0xbeef") := by
  have sentSwap : sentFor (.dict []) = some ["executeIntent beef"] := by decide +kernel
  obtain ⟨proposed, tx, done, sent, data⟩ := of_sentFor sentSwap
  exact ⟨proposed, tx, done, sent, data,
    own_signature_iff done (@HandedOver.embedded Relayer.twoValidators _ _) (Dialogue.runs_transcript _) sent⟩

end MinotaurSubnet.EvmRelayer
