import MinotaurSubnet.Library.AbiWords
import MinotaurSubnet.Library.Fallible
import MinotaurSubnet.Python.Value

/-! # Typed-data hashing and signing

The parts of `consensus/eip712.py` and `consensus/signatures.py` the managers sign and
verify with. Hashing, ABI encoding, signing and key recovery belong to `eth_hash`,
`eth_abi` and `eth_account`; they enter as a `Host`, together with `str.lower`.
-/

namespace MinotaurSubnet.Consensus

open Library Python

inductive AbiWord where
  | bytes32 (bytes : List UInt8)
  | uint256 (i : Int)
  | address (text : String)
  deriving DecidableEq

/-- The library functions the managers call; `none` is an exception. -/
structure Host where
  lower : String → String
  keccak : List UInt8 → List UInt8
  abiEncode : List AbiWord → Option (List UInt8)
  unsafeSignHash : List UInt8 → String → Option (List UInt8)
  recoverHash : List UInt8 → List UInt8 → Option String

variable (host : Host)

/-- `keccak(abi_encode(...))`. -/
def hashWords (words : List AbiWord) : Option (List UInt8) := (host.abiEncode words).map host.keccak

def utf8 (s : String) : List UInt8 := s.toUTF8.toList

def toTypedDataHash (domainSeparator structHash : List UInt8) : List UInt8 :=
  host.keccak ([0x19, 0x01] ++ domainSeparator ++ structHash)

def buildDomainSeparator (chainId : Int) (contractAddress : String)
    (name : String := "MinotaurAppIntent") (version : String := "1") : Option (List UInt8) :=
  hashWords host
    [ .bytes32 (host.keccak (utf8 ("EIP712Domain(string name,string version,uint256 chainId,"
        ++ "address verifyingContract)"))),
      .bytes32 (host.keccak (utf8 name)),
      .bytes32 (host.keccak (utf8 version)),
      .uint256 chainId,
      .address contractAddress ]

/-- `_str_to_bytes32` of `signatures.py`. -/
def strToBytes32 (s : String) : List UInt8 :=
  let clean := removeHexMarks s
  match if clean.length = 64 then bytesFromHex clean else none with
  | some bytes => bytes
  | none => host.keccak (utf8 s)

def hashPlanApprovalStruct (orderId planHash : List UInt8) (scoreBps : Int) : Option (List UInt8) :=
  hashWords host
    [ .bytes32 (host.keccak (utf8 "PlanApproval(bytes32 orderId,bytes32 planHash,uint256 score)")),
      .bytes32 orderId, .bytes32 planHash, .uint256 scoreBps ]

def planApprovalDigest (orderId planHash : String) (scoreBps : Int) (domainSeparator : List UInt8) :
    Option (List UInt8) :=
  (hashPlanApprovalStruct host (strToBytes32 host orderId) (strToBytes32 host planHash) scoreBps).map
    (toTypedDataHash host domainSeparator)

/-- `sign_plan_approval` with an explicit score in basis points. -/
def signPlanApproval (privateKey orderId planHash : String) (scoreBps : Int)
    (domainSeparator : List UInt8) : Option String := do
  let digest ← planApprovalDigest host orderId planHash scoreBps domainSeparator
  let signature ← host.unsafeSignHash digest privateKey
  return hexOfBytes signature

/-- `verify_plan_approval`; a malformed signature raises. -/
def verifyPlanApproval (publicKey signature orderId planHash : String) (scoreBps : Int)
    (domainSeparator : List UInt8) : Option Bool := do
  let bytes ← bytesFromHex (removeHexMarks signature)
  let digest ← planApprovalDigest host orderId planHash scoreBps domainSeparator
  let recovered ← host.recoverHash digest bytes
  return host.lower recovered == host.lower publicKey

/-- A `bytes32` as it is written: filled up with zeros. -/
def filled (bytes : List UInt8) : List UInt8 := bytes ++ List.replicate (32 - bytes.length) 0

/-- A static word as `eth_abi` writes it; `none` is an exception. -/
def abiWordBytes (address : String → Option (List UInt8)) : AbiWord → Option (List UInt8)
  | .bytes32 bytes => if bytes.length ≤ 32 then some (filled bytes) else none
  | .uint256 i => if 0 ≤ i ∧ i < 2 ^ 256 then some (abiWord i.toNat) else none
  | .address text => (address text).map (List.replicate 12 0 ++ ·)

def abiWords (address : String → Option (List UInt8)) (words : List AbiWord) : Option (List UInt8) :=
  (words.mapM (abiWordBytes address)).map List.flatten

def addressBytes (text : String) : Option (List UInt8) :=
  (bytesFromHex (removeHexMarks text)).filter fun bytes => bytes.length = 20

theorem length_addressBytes {text bytes} (located : addressBytes text = some bytes) :
    bytes.length = 20 := by
  obtain ⟨-, sized⟩ := Option.filter_eq_some_iff.mp located
  simpa using sized

theorem length_abiWordBytes {word bytes} (written : abiWordBytes addressBytes word = some bytes) :
    bytes.length = 32 := by
  cases word with
  | bytes32 short =>
    rw [abiWordBytes] at written
    split at written
    · cases written
      rw [filled, List.length_append, List.length_replicate]
      omega
    · cases written
  | uint256 i =>
    rw [abiWordBytes] at written
    split at written
    · rw [← Option.some.inj written, length_abiWord]
    · cases written
  | address text =>
    obtain ⟨place, located, rfl⟩ := Option.map_eq_some_iff.mp written
    rw [List.length_append, List.length_replicate, length_addressBytes located]

/-- Word lists with one encoding are written alike, word for word. -/
theorem abiWords_inj {words words' encoded} (here : abiWords addressBytes words = some encoded)
    (there : abiWords addressBytes words' = some encoded) :
    words.map (abiWordBytes addressBytes) = words'.map (abiWordBytes addressBytes) ∧
      ∀ word ∈ words, ∃ bytes, abiWordBytes addressBytes word = some bytes := by
  obtain ⟨blocks, read, rfl⟩ := Option.map_eq_some_iff.mp here
  obtain ⟨blocks', read', same⟩ := Option.map_eq_some_iff.mp there
  rw [mapM_eq_some_iff] at read read'
  have sized : ∀ {words : List AbiWord} {blocks : List (List UInt8)},
      words.map (abiWordBytes addressBytes) = blocks.map some → ∀ block ∈ blocks, block.length = 32 := by
    intro words blocks each block member
    have written : some block ∈ words.map (abiWordBytes addressBytes) :=
      each ▸ List.mem_map_of_mem member
    obtain ⟨word, -, written⟩ := List.mem_map.mp written
    exact length_abiWordBytes written
  refine ⟨?_, ?_⟩
  · rw [read, read', flatten_inj_of_length (by decide) (sized read') (sized read) same]
  · intro word member
    have listed : abiWordBytes addressBytes word ∈ blocks.map some := read ▸ List.mem_map_of_mem member
    obtain ⟨bytes, -, written⟩ := List.mem_map.mp listed
    exact ⟨bytes, written.symm⟩

theorem filled_of_written {address bytes word} (written : abiWordBytes address (.bytes32 bytes) = some word) :
    filled bytes = word := by
  rw [abiWordBytes] at written
  split at written
  · exact Option.some.inj written
  · cases written

theorem abiWordBytes_filled {bytes bytes'} (address) (same : filled bytes = filled bytes') :
    abiWordBytes address (.bytes32 bytes) = abiWordBytes address (.bytes32 bytes') := by
  have length := congrArg List.length same
  simp only [filled, List.length_append, List.length_replicate] at length
  have fits : bytes.length ≤ 32 ↔ bytes'.length ≤ 32 := by omega
  simp only [abiWordBytes, fits, same]

def plainContract : String := "0x" ++ String.ofList (List.replicate 40 '1')

def spellingHost : Host where
  lower := fun s => String.ofList (s.toList.map Char.toLower)
  keccak := fun _ => []
  abiEncode := fun _ => some []
  unsafeSignHash := fun _ key => bytesFromHex key
  recoverHash := fun _ signature => some ("0x" ++ hexOfBytes signature)

end MinotaurSubnet.Consensus
