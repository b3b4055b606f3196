import MinotaurSubnet.Bridge.SelectorBan

/-! # The intent order that is executed

`encode_intent_order` turns an order into the struct the contract checks. Validators and the
escrow spell the same order id in their own ways, and a managed wallet signs a struct of which some
fields are taken from the order again.
-/

namespace MinotaurSubnet.Relayer

open Library Python Consensus Blockloop Shared

/-- A `bytes32` argument of the ABI encoder: filled up with zeros, refused when it is longer. -/
def bytes32Word (bytes : List UInt8) : Option (List UInt8) :=
  if bytes.length ≤ 32 then some (bytes ++ List.replicate (32 - bytes.length) 0) else none

/-- `s.zfill(width)`: the zeros stand behind a sign. -/
def zfill (s : String) (width : Nat) : String :=
  let zeros := List.replicate (width - s.length) '0'
  match s.toList with
  | '+' :: rest => String.ofList ('+' :: (zeros ++ rest))
  | '-' :: rest => String.ofList ('-' :: (zeros ++ rest))
  | chars => String.ofList (zeros ++ chars)

section

variable (host : Host)

/-- `_str_to_bytes32` of the encoder. -/
def encoderBytes32 (s : String) : List UInt8 := host.keccak (utf8 s)

/-- The id in the executed `IntentOrder`. -/
def executedOrderId (orderId : String) : Option (List UInt8) := bytes32Word (encoderBytes32 host orderId)

/-- The id in a signed `PlanApproval`. -/
def approvedOrderId (orderId : String) : Option (List UInt8) := bytes32Word (strToBytes32 host orderId)

/-- The id an escrow is kept under: `bytes.fromhex(order_id.replace("0x", "").zfill(64))`. -/
def escrowOrderId (orderId : String) : Option (List UInt8) := do
  bytes32Word (← bytesFromHex (zfill (removeHexMarks orderId) 64))

def OneBytes32 (orderId : String) : Prop :=
  ∃ word, executedOrderId host orderId = some word ∧ approvedOrderId host orderId = some word ∧
    escrowOrderId orderId = some word

/-- The id, without every `0x` and behind zeros, is the hexadecimal text of its own hash. -/
def SpellsOwnHash (orderId : String) : Prop :=
  ∃ bytes word, bytesFromHex (zfill (removeHexMarks orderId) 64) = some bytes ∧
    bytes32Word bytes = some word ∧ bytes32Word (host.keccak (utf8 orderId)) = some word

end

/-- What `IntentOrderBook.submit` mints: `ord_` and sixteen digits of a UUID. -/
def IsMinted (orderId : String) : Prop :=
  ∃ digits : List Char, digits.length = 16 ∧ (∀ c ∈ digits, c ∈ "0123456789abcdef".toList) ∧
    orderId = "ord_" ++ String.ofList digits

theorem zfill_of_length {s width} (full : width ≤ s.length) : zfill s width = s := by
  have none : width - s.length = 0 := Nat.sub_eq_zero_of_le full
  unfold zfill
  rw [none]
  dsimp only [List.replicate_zero, List.nil_append]
  split
  · next rest chars => rw [← chars, String.ofList_toList]
  · next rest chars => rw [← chars, String.ofList_toList]
  · exact String.ofList_toList

theorem mem_zfill {s width c} (inside : c ∈ s.toList) :
    c ∈ (zfill s width).toList := by
  unfold zfill
  dsimp only
  split
  · next rest chars =>
    rw [chars] at inside
    rw [String.toList_ofList]
    simp only [List.mem_cons, List.mem_append] at inside ⊢
    exact inside.imp_right .inr
  · next rest chars =>
    rw [chars] at inside
    rw [String.toList_ofList]
    simp only [List.mem_cons, List.mem_append] at inside ⊢
    exact inside.imp_right .inr
  · rw [String.toList_ofList]
    exact List.mem_append_right _ inside

theorem char_of_hexText {cs} (spelled : Bridge.HexText cs) :
    ∀ c ∈ cs, Bridge.isHexBlank c = true ∨ (bytesFromHex.nibble c).isSome = true := by
  induction spelled with
  | nil => simp
  | blank skipped more ih =>
    rintro c (_ | ⟨_, inside⟩)
    · exact .inl skipped
    · exact ih c inside
  | byte high low more ih =>
    rintro c (_ | ⟨_, _ | ⟨_, inside⟩⟩)
    · exact .inr high
    · exact .inr low
    · exact ih c inside

theorem removeHexMarks_of_plain {s} (plain : 'x' ∉ s.toList) : removeHexMarks s = s := by
  have kept (cs : List Char) : 'x' ∉ cs → removeHexMarks.go cs = cs := by
    induction cs using removeHexMarks.go.induct with
    | case1 rest ih => simp
    | case2 c rest other ih =>
      intro plain
      rw [removeHexMarks.go.eq_2 _ _ other, ih fun inside => plain (List.mem_cons_of_mem _ inside)]
    | case3 => exact fun _ => rfl
  rw [removeHexMarks, kept _ plain, String.ofList_toList]

theorem IsMinted.removeHexMarks {orderId} (minted : IsMinted orderId) :
    Python.removeHexMarks orderId = orderId := by
  obtain ⟨digits, -, hex, rfl⟩ := minted
  refine removeHexMarks_of_plain ?_
  rw [String.toList_append, List.mem_append, not_or]
  refine ⟨by decide, fun inside => ?_⟩
  have digit := hex 'x' (by simpa using inside)
  exact absurd digit (by decide)

theorem IsMinted.escrowOrderId {orderId} (minted : IsMinted orderId) :
    Relayer.escrowOrderId orderId = none := by
  have unread : bytesFromHex (zfill (Python.removeHexMarks orderId) 64) = none := by
    by_contra read
    have spelled := Bridge.bytesFromHex_isSome.mp (Option.isSome_iff_ne_none.mpr read)
    rw [minted.removeHexMarks] at spelled
    have inside : 'o' ∈ orderId.toList := by
      obtain ⟨digits, -, -, rfl⟩ := minted
      rw [String.toList_append]
      exact List.mem_append_left _ (by decide)
    have digit := char_of_hexText spelled 'o' (mem_zfill inside)
    exact absurd digit (by decide)
  rw [Relayer.escrowOrderId, unread]
  rfl

theorem IsMinted.length {orderId} (minted : IsMinted orderId) : orderId.length = 20 := by
  obtain ⟨digits, sixteen, -, rfl⟩ := minted
  have prefixed : "ord_".length = 4 := by decide
  simp [String.length_append, sixteen, prefixed]

theorem IsMinted.approvedOrderId (host : Host) {orderId} (minted : IsMinted orderId) :
    Relayer.approvedOrderId host orderId = executedOrderId host orderId := by
  have short : ¬ orderId.length = 64 := by rw [minted.length]; decide
  rw [Relayer.approvedOrderId, strToBytes32, minted.removeHexMarks]
  simp only [if_neg short]
  rfl

theorem approvedOrderId_cases (host : Host) (orderId : String) :
    approvedOrderId host orderId = executedOrderId host orderId ∨
      approvedOrderId host orderId = escrowOrderId orderId := by
  unfold approvedOrderId strToBytes32
  dsimp only
  by_cases full : (removeHexMarks orderId).length = 64
  · rw [if_pos full]
    cases read : bytesFromHex (removeHexMarks orderId) with
    | none => exact .inl rfl
    | some bytes =>
      right
      rw [escrowOrderId, zfill_of_length full.ge, read]
      rfl
  · rw [if_neg full]
    exact .inl rfl

/-- The three words of an id are one exactly for an id that spells its own hash; a minted id is hashed
    alike for execution and approval, and has no escrow. -/
theorem one_bytes32_iff (host : Host) :
    (∀ orderId, OneBytes32 host orderId ↔ SpellsOwnHash host orderId) ∧
      ∀ orderId, IsMinted orderId → ¬ OneBytes32 host orderId ∧ escrowOrderId orderId = none ∧
        approvedOrderId host orderId = executedOrderId host orderId := by
  constructor
  · intro orderId
    constructor
    · rintro ⟨word, executed, -, kept⟩
      obtain ⟨bytes, read, filled⟩ := Option.bind_eq_some_iff.mp kept
      exact ⟨bytes, word, read, filled, executed⟩
    · rintro ⟨bytes, word, read, filled, executed⟩
      have kept : escrowOrderId orderId = some word := Option.bind_eq_some_iff.mpr ⟨bytes, read, filled⟩
      have hashed : executedOrderId host orderId = some word := executed
      refine ⟨word, hashed, ?_, kept⟩
      rcases approvedOrderId_cases host orderId with same | same
      · exact same.trans hashed
      · exact same.trans kept
  · intro orderId minted
    refine ⟨?_, minted.escrowOrderId, minted.approvedOrderId host⟩
    rintro ⟨word, -, -, kept⟩
    rw [minted.escrowOrderId] at kept
    cases kept

theorem minted_id_diverges : ¬ OneBytes32 spellingHost "ord_0123456789abcdef" ∧
    escrowOrderId "ord_0123456789abcdef" = none ∧
    executedOrderId spellingHost "ord_0123456789abcdef" ≠ none := by
  have unread : escrowOrderId "ord_0123456789abcdef" = none := by decide +kernel
  refine ⟨?_, unread, by decide⟩
  rintro ⟨word, -, -, kept⟩
  rw [unread] at kept
  cases kept

/-- The ABI encoder's reading of an address text, and `to_checksum_address`; `none` raises. -/
structure AddressTexts where
  address : String → Option (List UInt8)
  checksum : String → Option String

/-- What the code relies on in the two. -/
structure AddressLaws (host : Host) (texts : AddressTexts) : Prop where
  /-- The checksummed spelling of an address is that address. -/
  checksum_address : ∀ s a t, texts.address s = some a → texts.checksum (host.lower s) = some t →
    texts.address t = some a
  address_empty : texts.address "" = none

def zeroAddressText : String := "0x" ++ String.ofList (List.replicate 40 '0')

/-- `_safe_checksum` of a text. -/
def safeChecksum (host : Host) (texts : AddressTexts) (addr : String) : String :=
  if addr = "" then zeroAddressText else (texts.checksum (host.lower addr)).getD addr

/-- `_safe_checksum` of a parameter: what has no `lower` is handed on. -/
def safeChecksumParam (host : Host) (texts : AddressTexts) (addr : Value) : Value :=
  if !addr.truthy then .str zeroAddressText
  else match addr with
    | .str s => .str (safeChecksum host texts s)
    | other => other

def sentinelNonce : Int := 2 ^ 256 - 1

/-- `_resolve_nonce`; `none` raises. -/
def resolveNonce : Value → Option Int
  | .none => some sentinelNonce
  | .str s =>
    if startsWith s "0x" then hexOfStr s
    else if s = "" then some sentinelNonce
    else intOfStr s
  | raw => raw.toInt.toOption

/-- The tuple of `encode_intent_order`. -/
structure IntentTuple where
  orderId : List UInt8
  app : Value
  intentSelector : List UInt8
  intentParams : List UInt8
  submittedBy : String
  chainId : Int
  deadline : Int
  nonce : Int
  perpetual : Bool
  maxExecutions : Int
  cooldown : Int

/-- `bytes.fromhex` of a parameter. -/
def bytesOfParam (v : Value) : Option (List UInt8) := v.asStr.toOption.bind bytesFromHex

def intentParamsOf (order : Order) : Option (List UInt8) :=
  if (order.param "intent_params_hex").truthy then
    bytesOfParam (order.param "intent_params_hex" (.str ""))
  else some []

/-- `int(deadline) if deadline else 0`. -/
def deadlineOf (deadline : PyFloat) : Option Int :=
  if (Value.float deadline).truthy then deadline.toInt.toOption else some 0

def encodeIntentOrder (host : Host) (texts : AddressTexts) (order : Order) : Option IntentTuple := do
  let intentSelector ← bytesOfParam (order.param "intent_selector" (.str "00000000"))
  let intentParams ← intentParamsOf order
  let deadline ← deadlineOf order.deadline
  let nonce ← resolveNonce (order.param "user_nonce")
  let cooldown ← order.cooldown.toInt.toOption
  return {
    orderId := encoderBytes32 host order.orderId
    app := safeChecksumParam host texts (order.param "app_address")
    intentSelector, intentParams
    submittedBy := safeChecksum host texts order.submittedBy
    chainId := order.chainId
    deadline, nonce
    perpetual := order.perpetual
    maxExecutions := order.maxExecutions
    cooldown }

/-- The keyword arguments of `sign_eip712_order`. -/
structure SignedOrder where
  orderId : List UInt8
  app : String
  intentSelector : List UInt8
  intentParams : List UInt8
  submittedBy : String
  chainId : Int
  deadline : Int
  nonce : Value
  perpetual : Bool
  maxExecutions : Int
  cooldown : Int

/-- The order a managed wallet is asked to sign: half of it is taken from the encoder. -/
def signedOrder (host : Host) (texts : AddressTexts) (order : Order) (contractAddress : String) :
    Option SignedOrder := do
  let fields ← encodeIntentOrder host texts order
  let deadline ← order.deadline.toInt.toOption
  let cooldown ← order.cooldown.toInt.toOption
  return {
    orderId := fields.orderId
    app := contractAddress
    intentSelector := fields.intentSelector
    intentParams := fields.intentParams
    submittedBy := order.submittedBy
    chainId := order.chainId
    deadline
    nonce := order.param "user_nonce" (.int 0)
    perpetual := order.perpetual
    maxExecutions := order.maxExecutions
    cooldown }

/-- A `uint256` the encoder takes. -/
def uint256Arg (v : Value) : Option Int :=
  (abiInt v).filter fun i => decide (0 ≤ i ∧ i < 2 ^ 256)

/-- What the encoder takes of the struct before it is hashed; a text or a truth value is no number. -/
structure StructWords where
  app : List UInt8
  submittedBy : List UInt8
  numbers : List Int

def structWords (texts : AddressTexts) (order : SignedOrder) : Option StructWords := do
  let app ← texts.address order.app
  let submittedBy ← texts.address order.submittedBy
  let numbers ← [.int order.chainId, .int order.deadline, order.nonce, .int order.maxExecutions,
    .int order.cooldown].mapM uint256Arg
  if 32 < order.intentSelector.length then none else some { app, submittedBy, numbers }

structure Wallets where
  manages : String → Bool
  sign : SignedOrder → StructWords → Option String

/-- `_auto_sign_order`; `none` where it returns nothing or raises. -/
def autoSignOrder (host : Host) (texts : AddressTexts) (wallets : Wallets) (order : Order)
    (contractAddress : String) : Option String := do
  if !wallets.manages order.submittedBy then none
  else do
    let fields ← signedOrder host texts order contractAddress
    let words ← structWords texts fields
    wallets.sign fields words

/-- Every field of the signed struct is the field of the executed one; addresses are compared as the
    addresses they spell. -/
structure FieldsAgree (texts : AddressTexts) (signed : SignedOrder) (executed : IntentTuple) : Prop where
  orderId : signed.orderId = executed.orderId
  app : ∃ app a, executed.app = .str app ∧ texts.address signed.app = some a ∧ texts.address app = some a
  intentSelector : signed.intentSelector = executed.intentSelector
  intentParams : signed.intentParams = executed.intentParams
  submittedBy : ∃ a, texts.address signed.submittedBy = some a ∧
    texts.address executed.submittedBy = some a
  chainId : signed.chainId = executed.chainId
  deadline : signed.deadline = executed.deadline
  nonce : signed.nonce = .int executed.nonce
  perpetual : signed.perpetual = executed.perpetual
  maxExecutions : signed.maxExecutions = executed.maxExecutions
  cooldown : signed.cooldown = executed.cooldown

def NonceGiven (order : Order) : Prop := order.params.lookup "user_nonce" ≠ none

def NamesContract (host : Host) (texts : AddressTexts) (order : Order) (contractAddress : String) : Prop :=
  ∃ app a, safeChecksumParam host texts (order.param "app_address") = .str app ∧
    texts.address contractAddress = some a ∧ texts.address app = some a

section

variable {host : Host} {texts : AddressTexts} {order : Order} {contractAddress : String}

theorem address_safeChecksum (laws : AddressLaws host texts) {s a}
    (spelled : texts.address s = some a) : texts.address (safeChecksum host texts s) = some a := by
  unfold safeChecksum
  split
  · next empty =>
    rw [empty, laws.address_empty] at spelled
    cases spelled
  · cases canonical : texts.checksum (host.lower s) with
    | none => exact spelled
    | some t => exact laws.checksum_address s a t spelled canonical

theorem deadlineOf_of_toInt {deadline i} (read : deadline.toInt.toOption = some i) :
    deadlineOf deadline = some i := by
  unfold deadlineOf
  split
  · exact read
  · next zero =>
    cases deadline with
    | fin q =>
      obtain rfl : q = 0 := by simpa [Value.truthy] using zero
      rw [← read]
      rfl
    | _ => simp [Value.truthy] at zero

theorem uint256Arg_eq_some {v i} (taken : uint256Arg v = some i) :
    v = .int i ∧ 0 ≤ i ∧ i < 2 ^ 256 := by
  obtain ⟨number, range⟩ := Option.filter_eq_some_iff.mp taken
  cases v with
  | int j =>
    obtain rfl : j = i := Option.some.inj number
    exact ⟨rfl, of_decide_eq_true range⟩
  | _ => cases number

theorem nonce_agrees_iff {i j} (taken : uint256Arg (order.param "user_nonce" (.int 0)) = some i)
    (resolved : resolveNonce (order.param "user_nonce") = some j) :
    order.param "user_nonce" (.int 0) = .int j ↔ NonceGiven order := by
  obtain ⟨number, -, -⟩ := uint256Arg_eq_some taken
  unfold NonceGiven
  unfold Order.param at number resolved ⊢
  cases given : order.params.lookup "user_nonce" with
  | none =>
    rw [given] at resolved
    obtain rfl : sentinelNonce = j := Option.some.inj resolved
    simp only [Option.getD_none, Value.int.injEq]
    exact iff_of_false (by decide) (by simp)
  | some v =>
    rw [given] at number resolved
    simp only [Option.getD_some] at number resolved ⊢
    rw [number] at resolved ⊢
    obtain rfl : i = j := Option.some.inj resolved
    simp

theorem signedOrder_eq_some {fields}
    (signed : signedOrder host texts order contractAddress = some fields) :
    ∃ executed, encodeIntentOrder host texts order = some executed ∧
      order.deadline.toInt.toOption = some fields.deadline ∧
      order.cooldown.toInt.toOption = some fields.cooldown ∧
      fields = {
        orderId := executed.orderId
        app := contractAddress
        intentSelector := executed.intentSelector
        intentParams := executed.intentParams
        submittedBy := order.submittedBy
        chainId := order.chainId
        deadline := fields.deadline
        nonce := order.param "user_nonce" (.int 0)
        perpetual := order.perpetual
        maxExecutions := order.maxExecutions
        cooldown := fields.cooldown } := by
  obtain ⟨executed, encoded, signed⟩ := Option.bind_eq_some_iff.mp signed
  obtain ⟨deadline, timed, signed⟩ := Option.bind_eq_some_iff.mp signed
  obtain ⟨cooldown, rested, written⟩ := Option.bind_eq_some_iff.mp signed
  cases written
  exact ⟨executed, encoded, timed, rested, rfl⟩

theorem encodeIntentOrder_eq_some {executed}
    (encoded : encodeIntentOrder host texts order = some executed) :
    deadlineOf order.deadline = some executed.deadline ∧
      resolveNonce (order.param "user_nonce") = some executed.nonce ∧
      order.cooldown.toInt.toOption = some executed.cooldown ∧
      executed.app = safeChecksumParam host texts (order.param "app_address") ∧
      executed.submittedBy = safeChecksum host texts order.submittedBy ∧
      executed.chainId = order.chainId ∧ executed.perpetual = order.perpetual ∧
      executed.maxExecutions = order.maxExecutions := by
  obtain ⟨selector, -, encoded⟩ := Option.bind_eq_some_iff.mp encoded
  obtain ⟨params, -, encoded⟩ := Option.bind_eq_some_iff.mp encoded
  obtain ⟨deadline, timed, encoded⟩ := Option.bind_eq_some_iff.mp encoded
  obtain ⟨nonce, resolved, encoded⟩ := Option.bind_eq_some_iff.mp encoded
  obtain ⟨cooldown, rested, written⟩ := Option.bind_eq_some_iff.mp encoded
  cases written
  exact ⟨timed, resolved, rested, rfl, rfl, rfl, rfl, rfl⟩

theorem structWords_eq_some {fields words} (taken : structWords texts fields = some words) :
    (∃ a, texts.address fields.app = some a) ∧
      (∃ a, texts.address fields.submittedBy = some a) ∧ ∃ i, uint256Arg fields.nonce = some i := by
  obtain ⟨app, named, taken⟩ := Option.bind_eq_some_iff.mp taken
  obtain ⟨submitter, owned, taken⟩ := Option.bind_eq_some_iff.mp taken
  obtain ⟨numbers, read, -⟩ := Option.bind_eq_some_iff.mp taken
  obtain ⟨i, -, nonce⟩ := exists_mem_mapM_some read (show fields.nonce ∈ _ by simp)
  exact ⟨⟨app, named⟩, ⟨submitter, owned⟩, i, nonce⟩

/-- The struct a managed wallet signed is the executed one exactly when the order states its nonce and
    names the contract it was signed for. -/
theorem signed_struct_executed_iff (laws : AddressLaws host texts) {wallets : Wallets} {signature : String}
    (signed : autoSignOrder host texts wallets order contractAddress = some signature) :
    ∃ fields executed, signedOrder host texts order contractAddress = some fields ∧
      encodeIntentOrder host texts order = some executed ∧
      (FieldsAgree texts fields executed ↔
        NonceGiven order ∧ NamesContract host texts order contractAddress) := by
  unfold autoSignOrder at signed
  split at signed
  · cases signed
  · obtain ⟨fields, asked, signed⟩ := Option.bind_eq_some_iff.mp signed
    obtain ⟨words, taken, -⟩ := Option.bind_eq_some_iff.mp signed
    obtain ⟨executed, encoded, timed, rested, written⟩ := signedOrder_eq_some asked
    obtain ⟨timed', resolved, rested', app, submitter, chain, perpetual, executions⟩ :=
      encodeIntentOrder_eq_some encoded
    obtain ⟨⟨contract, named⟩, ⟨owner, owned⟩, i, number⟩ := structWords_eq_some taken
    have nonce := @nonce_agrees_iff order i executed.nonce (by rw [written] at number; exact number) resolved
    refine ⟨fields, executed, asked, encoded, ?_⟩
    constructor
    · intro agree
      refine ⟨nonce.mp ?_, ?_⟩
      · have same := agree.nonce
        rw [written] at same
        exact same
      · obtain ⟨text, a, spelled, here, there⟩ := agree.app
        rw [written] at here
        exact ⟨text, a, app.symm.trans spelled, here, there⟩
    · rintro ⟨given, text, a, spelled, here, there⟩
      rw [written] at owned ⊢
      exact {
        orderId := rfl
        app := ⟨text, a, app.trans spelled, here, there⟩
        intentSelector := rfl
        intentParams := rfl
        submittedBy := ⟨owner, owned, submitter ▸ address_safeChecksum laws owned⟩
        chainId := chain.symm
        deadline := Option.some.inj ((deadlineOf_of_toInt timed).symm.trans timed')
        nonce := nonce.mpr given
        perpetual := perpetual.symm
        maxExecutions := executions.symm
        cooldown := Option.some.inj (rested.symm.trans rested') }

end

def caselessHost : Host := { spellingHost with lower := id }

def plainTexts : AddressTexts where
  address := fun s =>
    if s.length = 42 ∧ startsWith s "0x" then bytesFromHex (slice s 2 42) else none
  checksum := fun s =>
    if s.length = 42 ∧ startsWith s "0x" ∧ (bytesFromHex (slice s 2 42)).isSome then some s else none

theorem plainTexts_laws : AddressLaws caselessHost plainTexts where
  checksum_address := by
    intro s a t spelled canonical
    simp only [plainTexts, caselessHost, id_eq] at canonical
    split at canonical
    · cases canonical
      exact spelled
    · cases canonical
  address_empty := by decide

def plainOwner : String := "0x" ++ String.ofList (List.replicate 40 '2')

def plainWallets : Wallets where
  manages := fun s => s = plainOwner
  sign := fun _ _ => some "signature"

def walletOrder (nonce : List (String × Value)) : Order where
  orderId := "ord_0123456789abcdef"
  appId := "dex"
  intentFunction := "swap"
  params := ("app_address", .str plainContract) :: nonce
  submittedBy := plainOwner

theorem signed_struct_executed_stated : ∃ fields executed,
    signedOrder caselessHost plainTexts (walletOrder [("user_nonce", .int 7)]) plainContract = some fields ∧
      encodeIntentOrder caselessHost plainTexts (walletOrder [("user_nonce", .int 7)]) = some executed ∧
      FieldsAgree plainTexts fields executed := by
  have signed : autoSignOrder caselessHost plainTexts plainWallets (walletOrder [("user_nonce", .int 7)])
      plainContract = some "signature" := by decide +kernel
  obtain ⟨fields, executed, asked, encoded, agree⟩ := signed_struct_executed_iff plainTexts_laws signed
  have stated : (Value.str plainContract).truthy = true := by decide +kernel
  have checksum : safeChecksum caselessHost plainTexts plainContract = plainContract := by decide +kernel
  have param : (walletOrder [("user_nonce", .int 7)]).param "app_address" = .str plainContract := by
    simp [Order.param, walletOrder]
  have named : safeChecksumParam caselessHost plainTexts
      ((walletOrder [("user_nonce", .int 7)]).param "app_address") = .str plainContract := by
    rw [param]
    simp [safeChecksumParam, stated, checksum]
  refine ⟨fields, executed, asked, encoded, agree.mpr ⟨?_, plainContract, List.replicate 20 0x11, ?_⟩⟩
  · exact fun absent => by cases absent
  · exact ⟨named, by decide +kernel, by decide +kernel⟩

/-- Without a nonce the wallet signs zero and the contract is handed the sentinel. -/
theorem absent_nonce_diverges : autoSignOrder caselessHost plainTexts plainWallets (walletOrder [])
      plainContract = some "signature" ∧
    ∃ fields executed, signedOrder caselessHost plainTexts (walletOrder []) plainContract = some fields ∧
      encodeIntentOrder caselessHost plainTexts (walletOrder []) = some executed ∧
      ¬ FieldsAgree plainTexts fields executed := by
  have asks : (signedOrder caselessHost plainTexts (walletOrder []) plainContract).isSome = true := by
    decide +kernel
  obtain ⟨fields, asked⟩ := Option.isSome_iff_exists.mp asks
  obtain ⟨executed, encoded, -, -, written⟩ := signedOrder_eq_some asked
  obtain ⟨-, resolved, -⟩ := encodeIntentOrder_eq_some encoded
  refine ⟨by decide +kernel, fields, executed, asked, encoded, ?_⟩
  intro agree
  have absent : ∀ default, (walletOrder []).param "user_nonce" default = default := by
    intro default
    simp [Order.param, walletOrder, List.lookup_cons]
  have zero := agree.nonce
  rw [written, absent] at zero
  rw [absent, ← Value.int.inj zero] at resolved
  exact absurd resolved (by decide)

end MinotaurSubnet.Relayer
