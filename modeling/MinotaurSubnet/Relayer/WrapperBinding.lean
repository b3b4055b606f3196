import MinotaurSubnet.Python.JsonTexts
import MinotaurSubnet.Bridge.SelectorBan
import MinotaurSubnet.Relayer.FinalizeChampion
import MinotaurSubnet.Relayer.HashedContents
import MinotaurSubnet.Relayer.SubmitQuorum

/-! # What a wrapper binds

Two requests with one binding hash ask for the same effect, save that a deployment and a finalization may
be the same two byte strings, and that the relayer reads some arguments of a call off the value it got
where the hash is over the text.
-/

namespace MinotaurSubnet.Relayer

open Library Python Consensus Shared

/-- The services that hash, and how `eth_abi` reads an address. -/
structure WrapperDesk where
  admin : AdminService
  finalizer : FinalizeService
  address : String → Option (List UInt8)
  /-- The JSON text of a dictionary is that of an object. -/
  object : ∀ fields, ∃ rest, admin.canonicalJson (.dict fields) = "\x7b" ++ rest

namespace WrapperDesk

variable (desk : WrapperDesk)

abbrev keccak : List UInt8 → List UInt8 := desk.admin.host.keccak

/-- What the libraries around the four hashes do. -/
structure Documented : Prop where
  host : desk.finalizer.host = desk.admin.host
  keccak_length : ∀ text, (desk.keccak text).length = 32
  address_length : ∀ text bytes, desk.address text = some bytes → bytes.length = 20
  words : ∀ words, desk.admin.host.abiEncode words = abiWords desk.address words
  pair : ∀ a b, desk.admin.abiEncodeBytes a b = abiPair a b
  strings : ∀ a b, desk.finalizer.abiEncodeStrings [a, b] = some (abiPair (utf8 a) (utf8 b))
  /-- A JSON text determines its value up to the order of members. -/
  canonicalJson : ∀ v w, desk.admin.canonicalJson v = desk.admin.canonicalJson w ↔ v.sorted = w.sorted
  /-- A dictionary is determined by its JSON text, which is not empty. -/
  jsonDumps : ∀ fields fields', desk.admin.jsonDumps (.dict fields) = desk.admin.jsonDumps (.dict fields') →
    (Value.dict fields).sorted = (Value.dict fields').sorted
  jsonDumps_ne : ∀ fields, desk.admin.jsonDumps (.dict fields) ≠ ""
  str_bool : ∀ b, desk.admin.str (.bool b) = if b then "True" else "False"
  lower_word : desk.admin.host.lower "True" = "true" ∧ desk.admin.host.lower "False" = "false" ∧
    desk.admin.host.lower "true" = "true" ∧ desk.admin.host.lower "false" = "false"

/-- The hash that binds a request; `none` is an exception. -/
def bindingHash : WrappedRequest → Option String
  | .plan plan => hashPlan desk.admin.host desk.admin.jsonDumps plan
  | .deploy bytecode constructorArgs => (computeDeployHash desk.admin bytecode constructorArgs).toOption
  | .finalize roundId candidate => (championFinalizeHash desk.finalizer roundId candidate).toOption
  | .call request => (computeContractCallHash desk.admin request).toOption

end WrapperDesk

def uint256? (i : Int) : Option Uint256 := if range : 0 ≤ i ∧ i < 2 ^ 256 then some ⟨i, range⟩ else none

def deployCode (bytecode : Value) : Option (List UInt8) :=
  match bytecode with
  | .str text => bytesFromHex (if startsWith text "0x" then slice text 2 text.length else text)
  | _ => none

namespace WrapperDesk

variable (desk : WrapperDesk)

/-- A call with its address read; `none` when the encoder refuses it. -/
def planCall (target : String) (value : Int) (data : List UInt8) : Option PlanCall := do
  let bytes ← desk.address target
  let word ← uint256? value
  if sized : bytes.length = 20 then
    some { target := bytes, target_length := sized, value := word, data }
  else none

def readCall (ix : Interaction) : Option PlanCall := do
  let text ← ix.callData.asStr.toOption
  let data ← if text = "0x" then some [] else bytesFromHex (removeHexMarks text)
  let target ← ix.target.asStr.toOption
  let value ← ix.value.toInt.toOption
  desk.planCall target value data

def callFields (request : CallRequest) (target : String) : List (String × Value) :=
  [("chain_id", .int request.chainId), ("target", .str (desk.admin.host.lower target)),
    ("fn_signature", .str (desk.admin.str request.fnSignature)), ("abi_types", .list request.abiTypes),
    ("values", .list (contractCallWireValues desk.admin request.values)),
    ("tx_value", .int request.txValue), ("gas", .int request.gas)]

def read : WrappedRequest → Option Bound
  | .plan plan => do
      let calls ← plan.interactions.mapM desk.readCall
      let metadata ← metadataBytes desk.admin.jsonDumps plan.metadata
      let deadline ← (abiInt plan.deadline).bind uint256?
      let nonce ← (abiInt plan.nonce).bind uint256?
      return .plan calls deadline nonce metadata
  | .deploy bytecode constructorArgs =>
    (deployCode bytecode).map fun code =>
      .deploy code (desk.admin.canonicalJson (constructorArgs.or (.list [])))
  | .finalize roundId candidate => some (.finalize roundId candidate)
  | .call request => do
      let target ← request.target.asStr.toOption
      return .call (desk.admin.canonicalJson (.dict (desk.callFields request target))) (desk.object _)

section

variable {desk} (documented : desk.Documented)

include documented

theorem word_digest (text : List UInt8) :
    abiWordBytes desk.address (.bytes32 (desk.keccak text)) = some (desk.keccak text) := by
  have length := documented.keccak_length text
  simp [abiWordBytes, filled, length]

omit documented in
theorem word_uint256 (i : Int) :
    abiWordBytes desk.address (.uint256 i) = (uint256? i).map fun word => abiWord word.1.toNat := by
  simp only [abiWordBytes, uint256?]
  split <;> rfl

theorem hashWords_planCall (target : String) (value : Int) (data : List UInt8) :
    hashWords desk.admin.host [.address target, .uint256 value, .bytes32 (desk.keccak data)] =
      (desk.planCall target value data).map fun call => desk.keccak (call.text desk.keccak) := by
  simp [hashWords, documented.words, abiWords, word_digest documented, word_uint256, planCall]
  cases located : desk.address target with
  | none => simp [abiWordBytes, located]
  | some bytes =>
    have sized := documented.address_length target bytes located
    cases uint256? value with
    | none => simp [abiWordBytes, located]
    | some word => simp [abiWordBytes, located, sized, PlanCall.text]

theorem hashCall_eq (ix : Interaction) : hashCall desk.admin.host ix =
    (desk.readCall ix).map fun call => desk.keccak (call.text desk.keccak) := by
  unfold hashCall readCall
  cases ix.callData.asStr.toOption with
  | none => rfl
  | some text =>
    cases ix.target.asStr.toOption with
    | none =>
      simp only [Option.bind_eq_bind, Option.bind_some, Option.bind_none]
      split <;> simp
    | some target =>
      cases ix.value.toInt.toOption with
      | none =>
        simp only [Option.bind_eq_bind, Option.bind_some, Option.bind_none]
        split <;> simp
      | some value =>
        simp only [Option.bind_eq_bind, Option.bind_some, hashWords_planCall documented]
        split
        · rfl
        · cases bytesFromHex (removeHexMarks text) <;> rfl

/-- The text of the hash of `b`. -/
def hexDigest (keccak : List UInt8 → List UInt8) (b : Bound) : String :=
  "0x" ++ hexOfBytes (keccak (b.text keccak))

theorem mapM_hashCall (interactions : List Interaction) :
    interactions.mapM (hashCall desk.admin.host) =
      (interactions.mapM desk.readCall).map fun calls =>
        calls.map fun call => desk.keccak (call.text desk.keccak) := by
  induction interactions with
  | nil => rfl
  | cons ix rest ih =>
    rw [List.mapM_cons, List.mapM_cons, hashCall_eq documented, ih]
    cases desk.readCall ix with
    | none => rfl
    | some call => cases rest.mapM desk.readCall <;> rfl

theorem hashPlan_eq (plan : ExecutionPlan) :
    hashPlan desk.admin.host desk.admin.jsonDumps plan =
      (desk.read (.plan plan)).map (hexDigest desk.keccak) := by
  rw [hashPlan, read, mapM_hashCall documented]
  cases plan.interactions.mapM desk.readCall with
  | none => rfl
  | some calls =>
    cases metadataBytes desk.admin.jsonDumps plan.metadata with
    | none => rfl
    | some metadata =>
      cases abiInt plan.deadline with
      | none => rfl
      | some deadline =>
        cases abiInt plan.nonce with
        | none =>
          simp only [Option.bind_eq_bind, Option.bind_some, Option.bind_none, Option.map_some]
          cases uint256? deadline <;> rfl
        | some nonce =>
          simp only [Option.bind_eq_bind, Option.bind_some, Option.map_some, hashWords,
            documented.words, abiWords, List.mapM_cons, List.mapM_nil, word_digest documented,
            word_uint256]
          cases uint256? deadline with
          | none => rfl
          | some deadline =>
            cases uint256? nonce with
            | none => rfl
            | some nonce => simp [hexDigest, Bound.text, packedCalls]

theorem deployHash_eq (bytecode constructorArgs : Value) :
    (computeDeployHash desk.admin bytecode constructorArgs).toOption =
      (desk.read (.deploy bytecode constructorArgs)).map (hexDigest desk.keccak) := by
  rw [read]
  cases bytecode with
  | str text =>
    simp only [computeDeployHash, Value.asStr, deployCode, bind, Except.bind]
    cases bytesFromHex (if startsWith text "0x" then slice text 2 text.length else text) with
    | none => rfl
    | some code =>
      simp only [documented.pair]
      rfl
  | _ => rfl

theorem finalizeHash_eq (roundId candidate : String) :
    (championFinalizeHash desk.finalizer roundId candidate).toOption =
      (desk.read (.finalize roundId candidate)).map (hexDigest desk.keccak) := by
  rw [championFinalizeHash, read, documented.strings, documented.host]
  rfl

omit documented in
theorem callHash_eq (request : CallRequest) :
    (computeContractCallHash desk.admin request).toOption =
      (desk.read (.call request)).map (hexDigest desk.keccak) := by
  rw [computeContractCallHash, read]
  cases request.target.asStr with
  | error e => rfl
  | ok target => rfl

theorem bindingHash_eq (r : WrappedRequest) :
    desk.bindingHash r = (desk.read r).map (hexDigest desk.keccak) := by
  cases r with
  | plan plan => exact hashPlan_eq documented plan
  | deploy bytecode constructorArgs => exact deployHash_eq documented bytecode constructorArgs
  | finalize roundId candidate => exact finalizeHash_eq documented roundId candidate
  | call request => exact callHash_eq request

end

end WrapperDesk

section

variable (svc : AdminService)

/-- The arguments of a call as the encoder gets them; `none` when one is refused. -/
def coercedValues (request : CallRequest) : Option (List CallValue) :=
  ((request.abiTypes.zip request.values).mapM fun pair => coerceValue svc pair.1 pair.2).toOption

def wireText : Value → String
  | .bool true => "true"
  | .bool false => "false"
  | v => svc.str v

/-- What a type makes of two values with one text: an address or a string is passed on as it came, bytes
    and truth values are read off the text, and a number is read off the value. -/
def SameReading (type v v' : Value) : Prop :=
  match type with
  | .str name =>
    if name = "address" ∨ name = "string" then v = v'
    else if startsWith name "bytes" ∨ name = "bool" then True
    else v.toInt.toOption = v'.toInt.toOption
  | _ => True

structure SameFields (request request' : CallRequest) : Prop where
  chainId : request.chainId = request'.chainId
  target : ∃ target target', request.target = .str target ∧ request'.target = .str target' ∧
    svc.host.lower target = svc.host.lower target'
  fnSignature : svc.str request.fnSignature = svc.str request'.fnSignature
  abiTypes : request.abiTypes.map Value.sorted = request'.abiTypes.map Value.sorted
  values : request.values.map (wireText svc) = request'.values.map (wireText svc)
  txValue : request.txValue = request'.txValue
  gas : request.gas = request'.gas

def SameArguments (request request' : CallRequest) : Prop :=
  (coercedValues svc request = none ∧ coercedValues svc request' = none) ∨
    ∀ entry ∈ request.abiTypes.zip (request.values.zip request'.values),
      SameReading entry.1 entry.2.1 entry.2.2

end

inductive Effect where
  | submit (calls : Option (List PlanCall)) (deadline nonce metadata : Value)
  | deploy (code : Option (List UInt8)) (arguments : Value)
  | finalize (roundId candidate : String)
  | call (chainId : Int) (target : Option String) (function : String) (types : List Value)
      (values : Option (List CallValue)) (txValue gas : Int)

namespace WrapperDesk

variable (desk : WrapperDesk)

/-- Objects are compared up to the order of their members, and no metadata is empty metadata. -/
def effect : WrappedRequest → Effect
  | .plan plan => .submit (plan.interactions.mapM desk.readCall) plan.deadline plan.nonce
      (if plan.metadata.truthy then plan.metadata.sorted else .none)
  | .deploy bytecode constructorArgs =>
    .deploy (deployCode bytecode) (constructorArgs.or (.list [])).sorted
  | .finalize roundId candidate => .finalize roundId candidate
  | .call request => .call request.chainId (request.target.asStr.toOption.map desk.admin.host.lower)
      (desk.admin.str request.fnSignature) (request.abiTypes.map Value.sorted)
      (coercedValues desk.admin request) request.txValue request.gas

/-- A deployment is not the byte strings of a finalization, and two calls that are hashed alike have
    arguments that come out alike. -/
def Separate : WrappedRequest → WrappedRequest → Prop
  | .deploy bytecode constructorArgs, .finalize roundId candidate
  | .finalize roundId candidate, .deploy bytecode constructorArgs =>
    ¬ (deployCode bytecode = some (utf8 roundId) ∧
      desk.admin.canonicalJson (constructorArgs.or (.list [])) = candidate)
  | .call request, .call request' =>
    SameFields desk.admin request request' → SameArguments desk.admin request request'
  | _, _ => True

section

variable {desk} (documented : desk.Documented)

include documented

theorem metadata_effect {v v' bytes} (given : metadataBytes desk.admin.jsonDumps v = some bytes)
    (given' : metadataBytes desk.admin.jsonDumps v' = some bytes) :
    (if v.truthy then v.sorted else .none) = if v'.truthy then v'.sorted else .none := by
  have forms {v : Value} (given : metadataBytes desk.admin.jsonDumps v = some bytes) :
      (v.truthy = false ∧ bytes = []) ∨
        ∃ fields, v = .dict fields ∧ v.truthy = true ∧ bytes = utf8 (desk.admin.jsonDumps v) := by
    unfold metadataBytes at given
    cases filled : v.truthy with
    | false =>
      rw [filled] at given
      exact .inl ⟨rfl, (Option.some.inj given).symm⟩
    | true =>
      rw [filled] at given
      cases v with
      | dict fields => exact .inr ⟨fields, rfl, rfl, (Option.some.inj given).symm⟩
      | _ => cases given
  have written (fields : List (String × Value)) : utf8 (desk.admin.jsonDumps (.dict fields)) ≠ [] := by
    intro empty
    have nothing : utf8 "" = [] := by
      rw [utf8_eq_data]
      rfl
    exact documented.jsonDumps_ne fields (utf8_inj (empty.trans nothing.symm))
  rcases forms given with ⟨falsy, empty⟩ | ⟨fields, rfl, truthy, text⟩
  · rcases forms given' with ⟨falsy', -⟩ | ⟨fields', rfl, -, text'⟩
    · rw [falsy, falsy']
      rfl
    · exact absurd (text'.symm.trans empty) (written fields')
  · rcases forms given' with ⟨-, empty⟩ | ⟨fields', rfl, truthy', text'⟩
    · exact absurd (text.symm.trans empty) (written fields)
    · rw [truthy, truthy']
      exact documented.jsonDumps fields fields' (utf8_inj (text.symm.trans text'))

omit documented in
theorem abiInt_word {v word} (given : (abiInt v).bind uint256? = some word) :
    v = .int word.1 := by
  obtain ⟨i, read, fits⟩ := Option.bind_eq_some_iff.mp given
  have number : v = .int i := by
    cases v with
    | int j => exact congrArg Value.int (Option.some.inj read)
    | _ => cases read
  unfold uint256? at fits
  split at fits
  · cases fits
    exact number
  · cases fits

theorem plan_effect {plan plan' b} (given : desk.read (.plan plan) = some b)
    (given' : desk.read (.plan plan') = some b) :
    desk.effect (.plan plan) = desk.effect (.plan plan') := by
  have forms {plan : ExecutionPlan} (given : desk.read (.plan plan) = some b) :
      ∃ calls deadline nonce metadata, b = .plan calls deadline nonce metadata ∧
        plan.interactions.mapM desk.readCall = some calls ∧ plan.deadline = .int deadline.1 ∧
        plan.nonce = .int nonce.1 ∧ metadataBytes desk.admin.jsonDumps plan.metadata = some metadata := by
    rw [read] at given
    simp only [Option.bind_eq_bind] at given
    obtain ⟨calls, readable, given⟩ := Option.bind_eq_some_iff.mp given
    obtain ⟨metadata, written, given⟩ := Option.bind_eq_some_iff.mp given
    obtain ⟨deadline, before, given⟩ := Option.bind_eq_some_iff.mp given
    obtain ⟨nonce, numbered, given⟩ := Option.bind_eq_some_iff.mp given
    exact ⟨calls, deadline, nonce, metadata, (Option.some.inj given).symm, readable, abiInt_word before,
      abiInt_word numbered, written⟩
  obtain ⟨calls, deadline, nonce, metadata, rfl, readable, before, numbered, written⟩ := forms given
  obtain ⟨calls', deadline', nonce', metadata', same, readable', before', numbered', written'⟩ :=
    forms given'
  obtain ⟨rfl, rfl, rfl, rfl⟩ := Bound.plan.inj same
  rw [effect, effect, readable, readable', before, before', numbered, numbered',
    metadata_effect documented written written']

theorem deploy_effect {bytecode constructorArgs bytecode' constructorArgs' b}
    (given : desk.read (.deploy bytecode constructorArgs) = some b)
    (given' : desk.read (.deploy bytecode' constructorArgs') = some b) :
    desk.effect (.deploy bytecode constructorArgs) = desk.effect (.deploy bytecode' constructorArgs') := by
  rw [read] at given given'
  obtain ⟨code, decoded, rfl⟩ := Option.map_eq_some_iff.mp given
  obtain ⟨code', decoded', same⟩ := Option.map_eq_some_iff.mp given'
  obtain ⟨rfl, texts⟩ := Bound.deploy.inj same
  rw [effect, effect, decoded, decoded', (documented.canonicalJson _ _).mp texts]

omit documented in
theorem wireValues_eq (values : List Value) :
    contractCallWireValues desk.admin values = (values.map (wireText desk.admin)).map Value.str := by
  unfold contractCallWireValues
  rw [List.map_map]
  apply List.map_congr_left
  intro v _
  cases v with
  | bool b => cases b <;> rfl
  | _ => rfl

omit documented in
theorem sorted_texts (texts : List String) : (texts.map Value.str).map Value.sorted = texts.map Value.str := by
  rw [List.map_map]
  rfl

omit documented in
theorem str_map_inj {texts texts' : List String} :
    texts.map Value.str = texts'.map Value.str ↔ texts = texts' := by
  have inj : Function.Injective Value.str := fun _ _ same => Value.str.inj same
  exact (List.map_injective_iff.mpr inj).eq_iff

theorem callFields_eq_iff {request request' : CallRequest} {target target'}
    (named : request.target = .str target) (named' : request'.target = .str target') :
    desk.admin.canonicalJson (.dict (desk.callFields request target)) =
        desk.admin.canonicalJson (.dict (desk.callFields request' target')) ↔
      SameFields desk.admin request request' := by
  have keys : (desk.callFields request target).map Prod.fst =
      (desk.callFields request' target').map Prod.fst := rfl
  have distinct : ((desk.callFields request target).map Prod.fst).Nodup := by
    show ["chain_id", "target", "fn_signature", "abi_types", "values", "tx_value", "gas"].Nodup
    decide
  have fields : Value.sortedFields (desk.callFields request target) =
      Value.sortedFields (desk.callFields request' target') ↔ SameFields desk.admin request request' := by
    simp only [callFields, Value.sortedFields, Value.sorted, Value.sortedItems_eq_map, wireValues_eq,
      sorted_texts, str_map_inj, List.cons.injEq, Prod.mk.injEq, Value.int.injEq, Value.str.injEq,
      Value.list.injEq, true_and, and_true]
    constructor
    · rintro ⟨chainId, lowered, fnSignature, abiTypes, values, txValue, gas⟩
      exact ⟨chainId, ⟨target, target', named, named', lowered⟩, fnSignature, abiTypes, values, txValue,
        gas⟩
    · rintro ⟨chainId, ⟨text, text', named'', named''', lowered⟩, fnSignature, abiTypes, values, txValue,
        gas⟩
      cases named.symm.trans named''
      cases named'.symm.trans named'''
      exact ⟨chainId, lowered, fnSignature, abiTypes, values, txValue, gas⟩
  rw [← fields, documented.canonicalJson]
  constructor
  · exact Value.fields_of_sorted keys distinct
  · intro same
    rw [Value.sorted, Value.sorted, same]

theorem bytes_reading (v : Value) :
    bytesFromHex (if startsWith (desk.admin.str v) "0x" then
        slice (desk.admin.str v) 2 (desk.admin.str v).length else desk.admin.str v) =
      bytesFromHex (if startsWith (wireText desk.admin v) "0x" then
        slice (wireText desk.admin v) 2 (wireText desk.admin v).length else wireText desk.admin v) := by
  have refused : ∀ text ∈ ["True", "False", "true", "false"],
      bytesFromHex (if startsWith text "0x" then slice text 2 text.length else text) = none := by
    decide +kernel
  cases v with
  | bool b =>
    rw [documented.str_bool]
    cases b with
    | true => exact (refused "True" (by simp)).trans (refused "true" (by simp)).symm
    | false => exact (refused "False" (by simp)).trans (refused "false" (by simp)).symm
  | _ => rfl

theorem bool_reading (v : Value) :
    desk.admin.host.lower (desk.admin.str v) = desk.admin.host.lower (wireText desk.admin v) := by
  obtain ⟨capitalTrue, capitalFalse, smallTrue, smallFalse⟩ := documented.lower_word
  cases v with
  | bool b =>
    rw [documented.str_bool]
    cases b with
    | true => exact capitalTrue.trans smallTrue.symm
    | false => exact capitalFalse.trans smallFalse.symm
  | _ => rfl

theorem coerceValue_eq_iff {type v v'} (same : wireText desk.admin v = wireText desk.admin v') :
    (coerceValue desk.admin type v).toOption = (coerceValue desk.admin type v').toOption ↔
      SameReading type v v' := by
  cases type with
  | str name =>
    unfold coerceValue SameReading
    by_cases passed : name = "address" ∨ name = "string"
    · simp only [if_pos passed]
      constructor
      · intro given
        exact CallValue.given.inj (Option.some.inj given)
      · rintro rfl
        rfl
    · by_cases bytes : startsWith name "bytes" = true
      · have texts : startsWith name "bytes" = true ∨ name = "bool" := .inl bytes
        simp only [if_neg passed, if_pos bytes, if_pos texts, bytes_reading documented, same]
      · by_cases truth : name = "bool"
        · have texts : startsWith name "bytes" = true ∨ name = "bool" := .inr truth
          simp only [if_neg passed, if_neg bytes, if_pos truth, if_pos texts, bool_reading documented, same]
        · have numbers : ¬ (startsWith name "bytes" = true ∨ name = "bool") := not_or.mpr ⟨bytes, truth⟩
          simp only [if_neg passed, if_neg bytes, if_neg truth, if_neg numbers]
          cases v.toInt with
          | error e => cases v'.toInt <;> simp [Except.map, Except.toOption]
          | ok i => cases v'.toInt <;> simp [Except.map, Except.toOption]
  | _ => exact iff_of_true rfl trivial

omit documented in
theorem coerceValue_sorted {type type'} (same : type.sorted = type'.sorted) (v : Value) :
    coerceValue desk.admin type v = coerceValue desk.admin type' v := by
  cases type with
  | str name =>
    cases type' with
    | str name' =>
      cases same
      rfl
    | _ => cases same
  | _ =>
    cases type' with
    | str name' => cases same
    | _ => rfl

theorem arguments_eq_iff {types types' values values' : List Value}
    (sameTypes : types.map Value.sorted = types'.map Value.sorted)
    (sameTexts : values.map (wireText desk.admin) = values'.map (wireText desk.admin)) :
    ((types.zip values).map fun pair => (coerceValue desk.admin pair.1 pair.2).toOption) =
        ((types'.zip values').map fun pair => (coerceValue desk.admin pair.1 pair.2).toOption) ↔
      ∀ entry ∈ types.zip (values.zip values'), SameReading entry.1 entry.2.1 entry.2.2 := by
  induction types generalizing types' values values' with
  | nil =>
    obtain rfl := List.map_eq_nil_iff.mp sameTypes.symm
    simp
  | cons type types ih =>
    obtain ⟨type', types', rfl, hereType, laterTypes⟩ := List.map_eq_cons_iff.mp sameTypes.symm
    cases values with
    | nil =>
      obtain rfl := List.map_eq_nil_iff.mp sameTexts.symm
      simp
    | cons v values =>
      obtain ⟨v', values', rfl, hereText, laterTexts⟩ := List.map_eq_cons_iff.mp sameTexts.symm
      rw [List.zip_cons_cons, List.zip_cons_cons, List.zip_cons_cons, List.zip_cons_cons,
        List.map_cons, List.map_cons, List.cons.injEq, List.forall_mem_cons,
        ← coerceValue_sorted hereType.symm v', coerceValue_eq_iff documented hereText.symm,
        ih laterTypes.symm laterTexts.symm]

theorem coercedValues_eq_iff {request request'} (fields : SameFields desk.admin request request') :
    coercedValues desk.admin request = coercedValues desk.admin request' ↔
      SameArguments desk.admin request request' := by
  unfold SameArguments coercedValues
  rw [mapM_toOption, mapM_toOption, mapM_eq_mapM_iff,
    arguments_eq_iff documented fields.abiTypes fields.values]

omit documented in
theorem call_effect_iff {request request'} (fields : SameFields desk.admin request request') :
    desk.effect (.call request) = desk.effect (.call request') ↔
      coercedValues desk.admin request = coercedValues desk.admin request' := by
  obtain ⟨chainId, ⟨target, target', named, named', lowered⟩, fnSignature, abiTypes, -, txValue, gas⟩ :=
    fields
  rw [effect, effect, chainId, named, named', fnSignature, abiTypes, txValue, gas]
  have targets : (Value.str target).asStr.toOption.map desk.admin.host.lower =
      (Value.str target').asStr.toOption.map desk.admin.host.lower := congrArg some lowered
  rw [targets]
  constructor
  · intro same
    exact (Effect.call.inj same).2.2.2.2.1
  · intro same
    rw [same]

omit documented in
theorem kind_of_read {r b} (given : desk.read r = some b) : b.kind = r.kind := by
  cases r with
  | plan plan =>
    rw [read] at given
    simp only [Option.bind_eq_bind] at given
    obtain ⟨calls, -, given⟩ := Option.bind_eq_some_iff.mp given
    obtain ⟨metadata, -, given⟩ := Option.bind_eq_some_iff.mp given
    obtain ⟨deadline, -, given⟩ := Option.bind_eq_some_iff.mp given
    obtain ⟨nonce, -, given⟩ := Option.bind_eq_some_iff.mp given
    cases given
    rfl
  | deploy bytecode constructorArgs =>
    obtain ⟨code, -, rfl⟩ := Option.map_eq_some_iff.mp given
    rfl
  | finalize roundId candidate =>
    cases given
    rfl
  | call request =>
    rw [read] at given
    obtain ⟨target, -, given⟩ := Option.bind_eq_some_iff.mp given
    cases given
    rfl

omit documented in
theorem hexDigest_inj {keccak : List UInt8 → List UInt8} {b b'}
    (same : hexDigest keccak b = hexDigest keccak b') :
    keccak (b.text keccak) = keccak (b'.text keccak) := by
  have digits := congrArg String.toList same
  rw [hexDigest, hexDigest, String.toList_append, String.toList_append,
    List.append_cancel_left_eq] at digits
  exact Bridge.hexOfBytes_inj (String.toList_injective digits)

variable {r r' : WrappedRequest}

theorem indistinct_of_hash {hash}
    (sound : ∀ b b', desk.read r = some b → desk.read r' = some b' → Collisionless desk.keccak b b')
    (given : desk.bindingHash r = some hash) (given' : desk.bindingHash r' = some hash) :
    ∃ b b', desk.read r = some b ∧ desk.read r' = some b' ∧ Indistinct b b' := by
  rw [bindingHash_eq documented] at given given'
  obtain ⟨b, here, rfl⟩ := Option.map_eq_some_iff.mp given
  obtain ⟨b', there, same⟩ := Option.map_eq_some_iff.mp given'
  refine ⟨b, b', here, there, ?_⟩
  exact indistinct_of_digest documented.keccak_length (sound b b' here there) (hexDigest_inj same).symm

theorem hash_of_indistinct {b b'} (here : desk.read r = some b) (there : desk.read r' = some b')
    (indistinct : Indistinct b b') :
    ∃ hash, desk.bindingHash r = some hash ∧ desk.bindingHash r' = some hash := by
  have texts : b.text desk.keccak = b'.text desk.keccak := indistinct.text_eq
  rw [bindingHash_eq documented, bindingHash_eq documented, here, there]
  exact ⟨hexDigest desk.keccak b, rfl, by rw [Option.map_some, hexDigest, hexDigest, texts]⟩

theorem call_read {request request' b} (here : desk.read (.call request) = some b)
    (there : desk.read (.call request') = some b) : SameFields desk.admin request request' := by
  have forms {request : CallRequest} (given : desk.read (.call request) = some b) :
      ∃ target, request.target = .str target ∧
        b = .call (desk.admin.canonicalJson (.dict (desk.callFields request target))) (desk.object _) := by
    rw [read] at given
    obtain ⟨target, named, given⟩ := Option.bind_eq_some_iff.mp given
    refine ⟨target, ?_, (Option.some.inj given).symm⟩
    cases text : request.target with
    | str name =>
      rw [text] at named
      exact congrArg Value.str (Option.some.inj named)
    | _ =>
      rw [text] at named
      cases named
  obtain ⟨target, named, rfl⟩ := forms here
  obtain ⟨target', named', same⟩ := forms there
  exact (callFields_eq_iff documented named named').mp (Bound.call.inj same)

omit documented in
theorem deploy_read {bytecode constructorArgs code arguments}
    (given : desk.read (.deploy bytecode constructorArgs) = some (.deploy code arguments)) :
    deployCode bytecode = some code ∧
      desk.admin.canonicalJson (constructorArgs.or (.list [])) = arguments := by
  obtain ⟨code', decoded, same⟩ := Option.map_eq_some_iff.mp given
  obtain ⟨rfl, rfl⟩ := Bound.deploy.inj same
  exact ⟨decoded, rfl⟩

omit documented in
theorem not_samePair {bytecode constructorArgs roundId candidate code arguments}
    (separate : desk.Separate (.deploy bytecode constructorArgs) (.finalize roundId candidate))
    (given : desk.read (.deploy bytecode constructorArgs) = some (.deploy code arguments)) :
    ¬ SamePair code arguments roundId candidate := by
  rintro ⟨rfl, rfl⟩
  obtain ⟨decoded, text⟩ := deploy_read given
  exact separate ⟨decoded, text⟩

theorem effect_of_separate (separate : desk.Separate r r') {b b'} (here : desk.read r = some b)
    (there : desk.read r' = some b') (indistinct : Indistinct b b') :
    desk.effect r = desk.effect r' := by
  have kind := kind_of_read here
  have kind' := kind_of_read there
  cases indistinct with
  | same =>
    cases r with
    | plan plan =>
      cases r' with
      | plan plan' => exact plan_effect documented here there
      | deploy | finalize | call => exact nomatch kind.symm.trans kind'
    | deploy bytecode constructorArgs =>
      cases r' with
      | deploy bytecode' constructorArgs' => exact deploy_effect documented here there
      | plan | finalize | call => exact nomatch kind.symm.trans kind'
    | finalize roundId candidate =>
      cases r' with
      | finalize roundId' candidate' =>
        obtain ⟨rfl, rfl⟩ := Bound.finalize.inj (Option.some.inj (here.trans there.symm))
        rfl
      | plan | deploy | call => exact nomatch kind.symm.trans kind'
    | call request =>
      cases r' with
      | call request' =>
        have fields := call_read documented here there
        exact (call_effect_iff fields).mpr
          ((coercedValues_eq_iff documented fields).mpr (separate fields))
      | plan | deploy | finalize => exact nomatch kind.symm.trans kind'
  | deployed same =>
    cases r with
    | deploy bytecode constructorArgs =>
      cases r' with
      | finalize roundId candidate =>
        cases there
        exact absurd same (not_samePair separate here)
      | plan | deploy | call => cases kind'
    | plan | finalize | call => cases kind
  | finalized same =>
    cases r with
    | finalize roundId candidate =>
      cases r' with
      | deploy bytecode constructorArgs =>
        cases here
        exact absurd same (not_samePair separate there)
      | plan | finalize | call => cases kind'
    | plan | deploy | call => cases kind

theorem separate_of_effect
    (bound : ∀ hash, desk.bindingHash r = some hash → desk.bindingHash r' = some hash →
      desk.effect r = desk.effect r') : desk.Separate r r' := by
  have alike {b b' : Bound} (here : desk.read r = some b) (there : desk.read r' = some b')
      (indistinct : Indistinct b b') : desk.effect r = desk.effect r' := by
    obtain ⟨hash, first, second⟩ := hash_of_indistinct documented here there indistinct
    exact bound hash first second
  have reads {bytecode constructorArgs : Value} {roundId candidate : String}
      (decoded : deployCode bytecode = some (utf8 roundId))
      (text : desk.admin.canonicalJson (constructorArgs.or (.list [])) = candidate) :
      desk.read (.deploy bytecode constructorArgs) = some (.deploy (utf8 roundId) candidate) := by
    rw [read, decoded, ← text]
    rfl
  cases r with
  | deploy bytecode constructorArgs =>
    cases r' with
    | finalize roundId candidate =>
      rintro ⟨decoded, text⟩
      cases alike (reads decoded text) rfl (.deployed ⟨rfl, rfl⟩)
    | plan | deploy | call => trivial
  | finalize roundId candidate =>
    cases r' with
    | deploy bytecode constructorArgs =>
      rintro ⟨decoded, text⟩
      cases alike rfl (reads decoded text) (.finalized ⟨rfl, rfl⟩)
    | plan | finalize | call => trivial
  | call request =>
    cases r' with
    | call request' =>
      intro fields
      obtain ⟨target, target', named, named', lowered⟩ := fields.target
      have here : desk.read (.call request) =
          some (.call (desk.admin.canonicalJson (.dict (desk.callFields request target)))
            (desk.object _)) := by
        rw [read, named]
        rfl
      have there : desk.read (.call request') =
          some (.call (desk.admin.canonicalJson (.dict (desk.callFields request target)))
            (desk.object _)) := by
        have texts := (callFields_eq_iff documented named named').mpr fields
        simp only [texts]
        rw [read, named']
        rfl
      exact (coercedValues_eq_iff documented fields).mp
        ((call_effect_iff fields).mp (alike here there (.same _)))
    | plan | deploy | finalize => trivial
  | plan plan => trivial

/-- Requests that one hash binds ask for the same effect exactly when they are kept separate. -/
theorem wrapper_binding_iff (r r' : WrappedRequest)
    (sound : ∀ b b', desk.read r = some b → desk.read r' = some b' → Collisionless desk.keccak b b') :
    (∀ hash, desk.bindingHash r = some hash → desk.bindingHash r' = some hash →
      desk.effect r = desk.effect r') ↔ desk.Separate r r' := by
  constructor
  · exact separate_of_effect documented
  · intro separate hash given given'
    obtain ⟨b, b', here, there, indistinct⟩ := indistinct_of_hash documented sound given given'
    exact effect_of_separate documented separate here there indistinct

end

end WrapperDesk

def firstRoundDigest : List UInt8 :=
  [0x5c, 0xfc, 0x49, 0xc6, 0xaf, 0x56, 0xde, 0xc8, 0x58, 0x2e, 0xdf, 0xb9, 0xc8, 0x29, 0x84, 0xd3,
    0x51, 0x80, 0x7a, 0xdc, 0x5a, 0x36, 0x34, 0x2f, 0xb8, 0x53, 0xdf, 0x99, 0xba, 0x27, 0x32, 0xef]

def pushDigest : List UInt8 :=
  [0x38, 0xe4, 0x94, 0xd1, 0xb4, 0x5d, 0xc3, 0xc2, 0x61, 0xbb, 0x99, 0xe3, 0x2b, 0x7a, 0x11, 0x98,
    0x5a, 0xc9, 0xbb, 0x8c, 0x90, 0xb4, 0xb4, 0xb6, 0x1f, 0x51, 0x83, 0x66, 0x13, 0xc2, 0xf9, 0xc6]

def letterDigest : List UInt8 :=
  [0xca, 0x33, 0x43, 0x5a, 0xdc, 0x72, 0x8b, 0x65, 0x45, 0x04, 0x17, 0xd7, 0x4c, 0x61, 0x2e, 0xe0,
    0xad, 0x18, 0x3a, 0x35, 0x8e, 0x9d, 0xc0, 0x48, 0x04, 0xe4, 0x82, 0xd4, 0x6d, 0x5f, 0x4e, 0x62]

def tableKeccak (text : List UInt8) : List UInt8 :=
  if text = abiPair (utf8 "round-1") (utf8 "sub-1") then firstRoundDigest
  else if text = abiPair [0x60, 0x01] (utf8 "[]") then pushDigest
  else if text = abiPair (utf8 "r") (utf8 "[]") then letterDigest
  else List.replicate 32 0

def tableHost : Host :=
  { spellingHost with keccak := tableKeccak, abiEncode := abiWords addressBytes }

def tableStr : Value → String
  | .str text => text
  | .bool b => if b then "True" else "False"
  | v => @Value.dumps fractions v

def tableDesk : WrapperDesk where
  admin := { twoValidators with
    host := tableHost
    jsonDumps := @Value.dumps fractions
    str := tableStr
    repr := tableStr
    canonicalJson := @Value.dumps fractions
    abiEncodeBytes := abiPair }
  finalizer := {
    host := tableHost
    abiEncodeStrings := fun texts => match texts with
      | [a, b] => some (abiPair (utf8 a) (utf8 b))
      | _ => none
    str := tableStr
    float := twoValidators.float
    errorText := fun _ => ""
    env := fun _ => none
    registryOf := twoValidators.registryOf
    authorizedValidators := twoValidators.authorizedValidators
    recoverWrapperSigner := twoValidators.recoverWrapperSigner }
  address := addressBytes
  object := @Value.dumps_object fractions

theorem tableDesk_documented : tableDesk.Documented where
  host := rfl
  keccak_length text := by
    show (tableKeccak text).length = 32
    unfold tableKeccak
    split
    · rfl
    · split
      · rfl
      · split <;> simp [letterDigest]
  address_length _ _ := length_addressBytes
  words _ := rfl
  pair _ _ := rfl
  strings _ _ := rfl
  canonicalJson _ _ := @Value.dumps_eq_iff fractions _ _
  jsonDumps _ _ same := @Value.sorted_of_dumps fractions _ _ same
  jsonDumps_ne fields empty := by
    obtain ⟨rest, text⟩ := tableDesk.object fields
    have length := congrArg String.length (text.symm.trans empty)
    rw [String.length_append] at length
    exact absurd length (by simp)
  str_bool _ := rfl
  lower_word := by decide +kernel

theorem utf8_texts : utf8 "round-1" = [0x72, 0x6f, 0x75, 0x6e, 0x64, 0x2d, 0x31] ∧
    utf8 "sub-1" = [0x73, 0x75, 0x62, 0x2d, 0x31] ∧ utf8 "[]" = [0x5b, 0x5d] ∧ utf8 "r" = [0x72] := by
  simp only [utf8_eq_data]
  decide +kernel

theorem tableKeccak_texts :
    tableKeccak (abiPair (utf8 "round-1") (utf8 "sub-1")) = firstRoundDigest ∧
      tableKeccak (abiPair [0x60, 0x01] (utf8 "[]")) = pushDigest := by
  refine ⟨if_pos rfl, (if_neg ?_).trans (if_pos rfl)⟩
  obtain ⟨round, submission, empty, -⟩ := utf8_texts
  rw [round, submission, empty]
  decide +kernel

theorem tableKeccak_collisionless :
    Collisionless tableKeccak (.finalize "round-1" "sub-1") (.deploy [0x60, 0x01] "[]") := by
  obtain ⟨first, second⟩ := tableKeccak_texts
  have texts : (Bound.finalize "round-1" "sub-1").hashed tableKeccak ++
      (Bound.deploy [0x60, 0x01] "[]").hashed tableKeccak =
      [abiPair (utf8 "round-1") (utf8 "sub-1"), abiPair [0x60, 0x01] (utf8 "[]")] := rfl
  have plain : (Bound.finalize "round-1" "sub-1").plain tableKeccak ++
      (Bound.deploy [0x60, 0x01] "[]").plain tableKeccak =
      [abiPair (utf8 "round-1") (utf8 "sub-1"), abiPair [0x60, 0x01] (utf8 "[]")] := rfl
  have different : firstRoundDigest ≠ pushDigest := by decide
  have unlike {digest a b : List UInt8} (high : digest.head? ≠ some 0) (filled : digest ≠ []) :
      ¬ digest <+: abiPair a b := by
    rintro ⟨rest, same⟩
    have heads := head_abiPair a b
    rw [← same, List.head?_append_of_ne_nil _ filled] at heads
    exact high heads
  refine ⟨?_, ?_, ?_⟩
  · rw [texts]
    obtain ⟨round, submission, empty, -⟩ := utf8_texts
    rw [round, submission, empty]
    decide +kernel
  · rw [texts]
    intro text inside text' inside' same
    simp only [List.mem_cons, List.not_mem_nil, or_false] at inside inside'
    rcases inside with rfl | rfl <;> rcases inside' with rfl | rfl
    · rfl
    · exact absurd (first.symm.trans (same.trans second)) different
    · exact absurd (first.symm.trans (same.symm.trans second)) different
    · rfl
  · rw [texts, plain]
    intro text inside text' inside'
    simp only [List.mem_cons, List.not_mem_nil, or_false] at inside inside'
    rcases inside with rfl | rfl <;> rcases inside' with rfl | rfl
    · exact first ▸ unlike (by decide) (by decide)
    · exact first ▸ unlike (by decide) (by decide)
    · exact second ▸ unlike (by decide) (by decide)
    · exact second ▸ unlike (by decide) (by decide)

theorem read_deploy {bytecode code} (decoded : deployCode bytecode = some code) :
    tableDesk.read (.deploy bytecode (.list [])) = some (.deploy code "[]") := by
  rw [WrapperDesk.read, decoded]
  rfl

/-- A champion and a contract: two texts, two digests. -/
theorem separate_requests :
    (∀ hash, tableDesk.bindingHash (.finalize "round-1" "sub-1") = some hash →
      tableDesk.bindingHash (.deploy (.str "0x6001") (.list [])) = some hash →
      tableDesk.effect (.finalize "round-1" "sub-1") =
        tableDesk.effect (.deploy (.str "0x6001") (.list []))) ↔
      tableDesk.Separate (.finalize "round-1" "sub-1") (.deploy (.str "0x6001") (.list [])) := by
  refine WrapperDesk.wrapper_binding_iff tableDesk_documented _ _ ?_
  intro b b' here there
  have decoded : deployCode (.str "0x6001") = some [0x60, 0x01] := by decide +kernel
  cases here
  cases (read_deploy decoded).symm.trans there
  exact tableKeccak_collisionless

/-- The hash of the finalization of `[]` in the round `r` is that of the deployment of the byte `72`
    without arguments. -/
theorem finalization_is_deployment :
    tableDesk.bindingHash (.finalize "r" "[]") = tableDesk.bindingHash (.deploy (.str "0x72") (.list [])) ∧
      (tableDesk.bindingHash (.finalize "r" "[]")).isSome ∧
      tableDesk.effect (.finalize "r" "[]") ≠ tableDesk.effect (.deploy (.str "0x72") (.list [])) := by
  have decoded : deployCode (.str "0x72") = some (utf8 "r") := by
    rw [utf8_texts.2.2.2]
    decide +kernel
  have read : tableDesk.read (.finalize "r" "[]") = some (.finalize "r" "[]") := rfl
  obtain ⟨hash, finalized, deployed⟩ := WrapperDesk.hash_of_indistinct tableDesk_documented read
    (read_deploy decoded) (.finalized ⟨rfl, rfl⟩)
  refine ⟨finalized.trans deployed.symm, by rw [finalized]; rfl, ?_⟩
  exact fun same => nomatch same

end MinotaurSubnet.Relayer
