import MinotaurSubnet.Python.Json
import MinotaurSubnet.Relayer.IntentOrders
import MinotaurSubnet.Relayer.SubmitQuorum

/-! # The plan that is hashed and the plan that is executed

The quorum signs a hash of the plan the leader holds; the relayer rebuilds the plan from JSON and
encodes it. The metadata enters each hash as a text, and its keys need not be texts.
-/

namespace MinotaurSubnet.Relayer

open Library Python Consensus Shared

/-- The keys `json.dumps` takes. -/
inductive JsonKey where
  | none
  | bool (b : Bool)
  | int (i : Int)
  | float (f : PyFloat)
  | str (s : String)

inductive Metadata where
  | none
  | bool (b : Bool)
  | int (i : Int)
  | float (f : PyFloat)
  | str (s : String)
  | list (items : List Metadata)
  | tuple (items : List Metadata)
  | dict (fields : List (JsonKey × Metadata))

section

variable (repr : PyFloat → String)

def JsonKey.text : JsonKey → String
  | .none => "null"
  | .bool b => if b then "true" else "false"
  | .int i => toString i
  | .float f => repr f
  | .str s => s

mutual

/-- What `json.dumps` writes: the keys as texts, tuples as arrays. -/
def Metadata.written : Metadata → Value
  | .none => .none
  | .bool b => .bool b
  | .int i => .int i
  | .float f => .float f
  | .str s => .str s
  | .list items | .tuple items => .list (writtenItems items)
  | .dict fields => .dict (writtenFields fields)

def Metadata.writtenItems : List Metadata → List Value
  | [] => []
  | v :: rest => v.written :: writtenItems rest

def Metadata.writtenFields : List (JsonKey × Metadata) → List (String × Value)
  | [] => []
  | (key, v) :: rest => (key.text repr, v.written) :: writtenFields rest

end

mutual

/-- `json.dumps(v)`. -/
def jsonText : Value → String
  | .none => "null"
  | .bool b => if b then "true" else "false"
  | .int i => toString i
  | .float f => repr f
  | .str s => Value.quote s
  | .list items => "[" ++ ", ".intercalate (jsonItems items) ++ "]"
  | .dict fields => "\x7b" ++ ", ".intercalate (jsonFields fields) ++ "\x7d"

def jsonItems : List Value → List String
  | [] => []
  | v :: rest => jsonText v :: jsonItems rest

def jsonFields : List (String × Value) → List String
  | [] => []
  | (key, v) :: rest => (Value.quote key ++ ": " ++ jsonText v) :: jsonFields rest

end

end

mutual

/-- `json.loads` of a text that says `v`: of members with one key the last one counts. -/
def loaded : Value → Value
  | .list items => .list (loadedItems items)
  | .dict fields => .dict (loadedFields fields [])
  | v => v

def loadedItems : List Value → List Value
  | [] => []
  | v :: rest => loaded v :: loadedItems rest

def loadedFields : List (String × Value) → List (String × Value) → List (String × Value)
  | [], read => read
  | (key, v) :: rest, read => loadedFields rest (Value.setMember read key (loaded v))

end

mutual

/-- A value without repeated keys comes back as it was. -/
theorem loaded_eq : ∀ {v : Value}, v.isJson = true → loaded v = v
  | .none, _ | .bool _, _ | .int _, _ | .float _, _ | .str _, _ => by rw [loaded] <;> simp
  | .list items, json => by rw [loaded, loadedItems_eq items json]
  | .dict fields, json => by
    rw [Value.isJson, Bool.and_eq_true, decide_eq_true_eq] at json
    rw [loaded, loadedFields_eq fields [] json.2 (by simpa using json.1)]
    rfl

theorem loadedItems_eq : ∀ items : List Value, Value.isJsonItems items = true → loadedItems items = items
  | [], _ => rfl
  | v :: rest, json => by
    rw [Value.isJsonItems, Bool.and_eq_true] at json
    rw [loadedItems, loaded_eq json.1, loadedItems_eq rest json.2]

theorem loadedFields_eq : ∀ fields read : List (String × Value), Value.isJsonFields fields = true →
    ((read ++ fields).map Prod.fst).Nodup → loadedFields fields read = read ++ fields
  | [], read, _, _ => by rw [loadedFields, List.append_nil]
  | (key, v) :: rest, read, json, distinct => by
    rw [Value.isJsonFields, Bool.and_eq_true] at json
    rw [List.append_cons] at distinct ⊢
    have absent : read.lookup key = none := by
      rw [List.map_append, List.map_append, List.append_assoc, List.nodup_append] at distinct
      refine List.lookup_eq_none_iff.mpr fun field member => bne_iff_ne.mpr ?_
      exact fun same => distinct.2.2 _ (List.mem_map_of_mem member) key (by simp) same.symm
    rw [loadedFields, loaded_eq json.1, Value.setMember, Dict.assign_of_lookup_none v absent]
    exact loadedFields_eq rest _ json.2 distinct

end

structure SolverCall where
  target : String
  value : String
  callData : String
  chainId : Int

structure SolverPlan where
  intentId : String
  calls : List SolverCall
  deadline : Int
  nonce : Int
  metadata : List (JsonKey × Metadata)

def SolverCall.interaction (call : SolverCall) : Interaction where
  target := .str call.target
  value := .str call.value
  callData := .str call.callData
  chainId := .int call.chainId

/-- The plan, its metadata as `json.dumps` reads it. -/
def SolverPlan.plan (repr : PyFloat → String) (p : SolverPlan) : ExecutionPlan where
  intentId := .str p.intentId
  interactions := p.calls.map SolverCall.interaction
  deadline := .int p.deadline
  nonce := .int p.nonce
  metadata := (Metadata.dict p.metadata).written repr

/-- `_to_jsonable` of a plan and of its interactions. -/
def toJsonable (plan : ExecutionPlan) : Value :=
  .dict [("intent_id", plan.intentId), ("interactions", .list (plan.interactions.map interaction)),
    ("deadline", plan.deadline), ("nonce", plan.nonce), ("metadata", plan.metadata)]
where
  interaction (ix : Interaction) : Value :=
    .dict [("target", ix.target), ("value", ix.value), ("call_data", ix.callData),
      ("chain_id", ix.chainId)]

section

variable {repr : PyFloat → String} {svc : SubmitService} {p : SolverPlan}

theorem toJsonable_isJson (json : ((Metadata.dict p.metadata).written repr).isJson = true) :
    (toJsonable (p.plan repr)).isJson = true := by
  have calls (calls : List SolverCall) : Value.isJsonItems
      ((calls.map SolverCall.interaction).map toJsonable.interaction) = true := by
    induction calls with
    | nil => rfl
    | cons call rest ih =>
      rw [List.map_cons, List.map_cons, Value.isJsonItems, ih]
      simp [toJsonable.interaction, SolverCall.interaction, Value.isJson, Value.isJsonFields]
  have items := calls p.calls
  simp only [toJsonable, SolverPlan.plan, Value.isJson, Value.isJsonFields, json, items]
  simp

/-- The relayer rebuilds the plan it was sent. -/
theorem rehydrate_toJsonable (texts : ∀ s, svc.str (.str s) = s)
    (json : ((Metadata.dict p.metadata).written repr).isJson = true) :
    rehydratePlan svc (loaded (toJsonable (p.plan repr))) = .ok (p.plan repr) := by
  have calls (calls : List SolverCall) :
      ((calls.map SolverCall.interaction).map toJsonable.interaction).mapM (rehydrateInteraction svc) =
        .ok (calls.map SolverCall.interaction) := by
    induction calls with
    | nil => rfl
    | cons call rest ih =>
      have here : rehydrateInteraction svc (toJsonable.interaction call.interaction) =
          .ok { call.interaction with value := .str (svc.str (.str call.value)) } := rfl
      rw [List.map_cons, List.map_cons, List.mapM_cons, here, ih, texts]
      rfl
  rw [loaded_eq (toJsonable_isJson json)]
  have read : rehydratePlan svc (toJsonable (p.plan repr)) = (do
      let interactions ← ((p.calls.map SolverCall.interaction).map toJsonable.interaction).mapM
        (rehydrateInteraction svc)
      return { p.plan repr with interactions, metadata := (p.plan repr).metadata.or (.dict []) }) := rfl
  rw [read, calls]
  have kept : (p.plan repr).metadata.or (.dict []) = (p.plan repr).metadata := by
    cases fields : p.metadata with
    | nil => simp [SolverPlan.plan, fields, Value.or, Metadata.written, Metadata.writtenFields]
    | cons field rest => simp [SolverPlan.plan, fields, Value.or, Metadata.written, Metadata.writtenFields,
        Value.truthy]
  rw [kept]
  rfl

end

/-- The tuple of `encode_execution_plan`. -/
structure EncodedPlan where
  calls : List (String × Int × List UInt8)
  deadline : Value
  nonce : Value
  metadata : List UInt8

section

variable (host : Host) (texts : AddressTexts) (jsonDumps : Value → String)

def encodeCall (ix : Interaction) : Option (String × Int × List UInt8) := do
  let text ← ix.callData.asStr.toOption
  let data ← (if text = "0x" then some [] else bytesFromHex (removeHexMarks text) : Option (List UInt8))
  let target ← ix.target.asStr.toOption
  let value ← ix.value.toInt.toOption
  return (safeChecksum host texts target, value, data)

def encodeExecutionPlan (plan : ExecutionPlan) : Option EncodedPlan := do
  let calls ← plan.interactions.mapM (encodeCall host texts)
  let metadata ← metadataBytes jsonDumps plan.metadata
  return { calls, deadline := plan.deadline, nonce := plan.nonce, metadata }

def hashEncodedCall (call : String × Int × List UInt8) : Option (List UInt8) :=
  hashWords host [.address call.1, .uint256 call.2.1, .bytes32 (host.keccak call.2.2)]

/-- `hash_plan_eip712` of the tuple, in hex. -/
def EncodedPlan.hash (e : EncodedPlan) : Option String := do
  let calls ← e.calls.mapM (hashEncodedCall host)
  let deadline ← abiInt e.deadline
  let nonce ← abiInt e.nonce
  let digest ← hashWords host
    [ .bytes32 (host.keccak calls.flatten), .uint256 deadline, .uint256 nonce,
      .bytes32 (host.keccak e.metadata) ]
  return "0x" ++ hexOfBytes digest

/-- `hash_execution_plan`, which builds the same tuple. -/
def hashExecutionPlan (plan : ExecutionPlan) : Option String :=
  (encodeExecutionPlan host texts jsonDumps plan).bind (·.hash host)

structure EncoderLaws : Prop extends AddressLaws host texts where
  refuses : ∀ s words, texts.address s = none → host.abiEncode (.address s :: words) = none
  encodes : ∀ s t words, texts.address s = texts.address t →
    host.abiEncode (.address s :: words) = host.abiEncode (.address t :: words)

variable {host texts jsonDumps} {repr : PyFloat → String} {svc : SubmitService} {p : SolverPlan}

theorem encodeCall_of_hashCall (laws : EncoderLaws host texts) (ix : Interaction) (bytes : List UInt8)
    (hashed : hashCall host ix = some bytes) :
    ∃ call, encodeCall host texts ix = some call ∧ hashEncodedCall host call = some bytes := by
  obtain ⟨text, isText, hashed⟩ := Option.bind_eq_some_iff.mp hashed
  obtain ⟨data, isData, hashed⟩ : ∃ data,
      (if text = "0x" then some [] else bytesFromHex (removeHexMarks text)) = some data ∧ (do
        let target ← ix.target.asStr.toOption
        let value ← ix.value.toInt.toOption
        hashWords host [.address target, .uint256 value, .bytes32 (host.keccak data)]) = some bytes := by
    split at hashed
    · next empty => exact ⟨[], if_pos empty, hashed⟩
    · next filled =>
      rw [if_neg filled]
      exact Option.bind_eq_some_iff.mp hashed
  obtain ⟨target, isTarget, hashed⟩ := Option.bind_eq_some_iff.mp hashed
  obtain ⟨value, isValue, hashed⟩ := Option.bind_eq_some_iff.mp hashed
  refine ⟨(safeChecksum host texts target, value, data), ?_, ?_⟩
  · simp only [encodeCall, isText, isData, isTarget, isValue, Option.bind_eq_bind, Option.bind_some]
    rfl
  · cases spelled : texts.address target with
    | none =>
      simp only [hashWords, laws.refuses target _ spelled] at hashed
      cases hashed
    | some a =>
      have same := (address_safeChecksum laws.toAddressLaws spelled).trans spelled.symm
      simp only [hashEncodedCall, hashWords, laws.encodes _ target _ same]
      exact hashed

theorem hashExecutionPlan_of_hashPlan (laws : EncoderLaws host texts) {plan h}
    (hashed : hashPlan host jsonDumps plan = some h) :
    hashExecutionPlan host texts jsonDumps plan = some h := by
  obtain ⟨calls, isCalls, hashed⟩ := Option.bind_eq_some_iff.mp hashed
  obtain ⟨metadata, isMetadata, hashed⟩ := Option.bind_eq_some_iff.mp hashed
  obtain ⟨encoded, read, sum⟩ := mapM_through (encodeCall_of_hashCall laws) isCalls
  have tuple : encodeExecutionPlan host texts jsonDumps plan =
      some ⟨encoded, plan.deadline, plan.nonce, metadata⟩ := by
    simp only [encodeExecutionPlan, read, isMetadata, Option.bind_eq_bind, Option.bind_some]
    rfl
  rw [hashExecutionPlan, tuple, Option.bind_some, EncodedPlan.hash, sum]
  exact hashed

/-- When no two keys of an object are written alike, whatever hash the leader takes of a plan is that
    of the rebuilt plan and that of either plan as it is encoded. -/
theorem plan_hash_survives (laws : EncoderLaws host texts) (strings : ∀ s, svc.str (.str s) = s)
    (json : ((Metadata.dict p.metadata).written repr).isJson = true) {h : String}
    (hashed : hashPlan host (jsonText repr) (p.plan repr) = some h) :
    hashExecutionPlan host texts (jsonText repr) (p.plan repr) = some h ∧
      ∃ plan, rehydratePlan svc (loaded (toJsonable (p.plan repr))) = .ok plan ∧
        hashPlan host (jsonText repr) plan = some h ∧
        ∃ tuple, encodeExecutionPlan host texts (jsonText repr) plan = some tuple ∧
          tuple.hash host = some h := by
  have encoded := hashExecutionPlan_of_hashPlan laws hashed
  refine ⟨encoded, p.plan repr, rehydrate_toJsonable strings json, hashed, ?_⟩
  exact Option.bind_eq_some_iff.mp encoded

end

def plainPlanDigests : List (List UInt8 × Nat) :=
  let words : List Nat → List UInt8 := List.flatMap abiWord
  let contract := 0x1111111111111111111111111111111111111111
  let data := 0xda82d77ec678e0461071269c70cf6c1d154ed51e0e5db68db2843cc2d0913858
  let call := 0x1e2278d7626ee139be2387a18f687fa58ef1f5e6d2bb7e31d5b04d71029029e5
  let calls := 0x32ca5030d82dcff733b2bd6c812628228ad9d5031b3a2f0beb98d8e5421380e6
  let listed := 0x78b9b1628e98365d71aba8f4c08b14c2f6c5c3450105e591abedc1c1d0bf5bdb
  let twins := 0x9a31d2df8f8aff91aa923fbd7da2f2779f6fde9f00e180b68f748d7daf80bbd0
  let last := 0x7a6bcefa3ffbe9f434b334f3995cb57b763ff11b2aff93a4b315eeeef15d4fa4
  [ ([0x0a, 0xff], data), (words [contract, 7, data], call), (words [call], calls),
    (utf8 "\x7b\"1\": [\"a\"]\x7d", listed),
    (utf8 "\x7b\"1\": \"a\", \"1\": \"b\"\x7d", twins), (utf8 "\x7b\"1\": \"b\"\x7d", last),
    (words [calls, 100, 1, listed],
      0xc45d764197a53e980bcdf7f7105d3661796f43cdbbd3891f10dc063a86302b18),
    (words [calls, 100, 1, twins],
      0x1f4694c7e7378506a74dc071b45699ea031c26c52140feb74f0c30fc7e5609a7),
    (words [calls, 100, 1, last],
      0xed04c4328ecc77184a51184990014b1df7440ec2311190c82dfeb545146bc81c) ]

def plainEncoder : Host := { caselessHost with
  keccak := tabled plainPlanDigests
  abiEncode := abiWords plainTexts.address }

def plainService : SubmitService := { twoValidators with str := fun
  | .str text => text
  | _ => "" }

def plainFloats (_ : PyFloat) : String := ""

def callingPlan (metadata : List (JsonKey × Metadata)) : SolverPlan where
  intentId := "dex"
  calls := [{ target := plainContract, value := "7", callData := "0x0aff", chainId := 1 }]
  deadline := 100
  nonce := 1
  metadata

def twinKeys : SolverPlan := callingPlan [(.int 1, .str "a"), (.str "1", .str "b")]

theorem plainEncoder_laws : EncoderLaws plainEncoder plainTexts where
  toAddressLaws := ⟨plainTexts_laws.checksum_address, plainTexts_laws.address_empty⟩
  refuses := by
    intro s words unspelled
    simp [plainEncoder, abiWords, abiWordBytes, unspelled]
  encodes := by
    intro s t words same
    simp [plainEncoder, abiWords, abiWordBytes, same]

theorem plan_hash_survives_calling : ∃ h plan,
    hashPlan plainEncoder (jsonText plainFloats)
      ((callingPlan [(.int 1, .tuple [.str "a"])]).plan plainFloats) = some h ∧
    rehydratePlan plainService (loaded (toJsonable
      ((callingPlan [(.int 1, .tuple [.str "a"])]).plan plainFloats))) = .ok plan ∧
    hashPlan plainEncoder (jsonText plainFloats) plan = some h := by
  have hashes : (hashPlan plainEncoder (jsonText plainFloats)
    ((callingPlan [(.int 1, .tuple [.str "a"])]).plan plainFloats)).isSome := by decide +kernel
  obtain ⟨h, hashed⟩ := Option.isSome_iff_exists.mp hashes
  have strings : ∀ s, plainService.str (.str s) = s := fun _ => rfl
  obtain ⟨-, plan, rebuilt, same, -⟩ :=
    plan_hash_survives plainEncoder_laws strings (by decide +kernel) hashed
  exact ⟨h, plan, hashed, rebuilt, same⟩

/-- The keys `1` and `"1"` are both written `"1"`, and the relayer reads the second. -/
theorem twin_keys_rehashed :
    (hashPlan plainEncoder (jsonText plainFloats) (twinKeys.plan plainFloats)).isSome ∧
    ((rehydratePlan plainService (loaded (toJsonable (twinKeys.plan plainFloats)))).toOption.bind
      (hashPlan plainEncoder (jsonText plainFloats))).isSome ∧
    hashPlan plainEncoder (jsonText plainFloats) (twinKeys.plan plainFloats) ≠
      (rehydratePlan plainService (loaded (toJsonable (twinKeys.plan plainFloats)))).toOption.bind
        (hashPlan plainEncoder (jsonText plainFloats)) := by decide +kernel

end MinotaurSubnet.Relayer
