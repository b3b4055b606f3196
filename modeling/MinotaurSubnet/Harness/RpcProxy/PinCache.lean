import MinotaurSubnet.Python.Json
import MinotaurSubnet.Library.ReadThrough

/-! # The consensus tables and the pinned reads

What the proxy charges for a request, how it pins the block of one, and the cache of what was
read at a pinned block.
-/

namespace MinotaurSubnet.Harness.RpcProxy

open Library Python

def defaultCost : Nat := 1

def methodCost : List (String × Nat) :=
  [("eth_call", 1), ("eth_getStorageAt", 1), ("eth_getCode", 1), ("eth_getBalance", 1),
   ("eth_getTransactionCount", 1), ("eth_getBlockByNumber", 1), ("eth_getLogs", 2),
   ("eth_blockNumber", 0), ("eth_chainId", 0), ("net_version", 0), ("eth_gasPrice", 0)]

/-- `request_cost`; anything but a string costs the default. -/
def requestCost : Value → Nat
  | .str method => if method = "" then defaultCost else (methodCost.lookup method).getD defaultCost
  | _ => defaultCost

def batchCost (methods : List Value) : Nat := (methods.map requestCost).sum

def blockParamIndex : List (String × Nat) :=
  [("eth_call", 1), ("eth_getBalance", 1), ("eth_getCode", 1), ("eth_getTransactionCount", 1),
   ("eth_getStorageAt", 2), ("eth_getProof", 2), ("eth_getBlockByNumber", 0)]

def interceptBlockNumber : String := "eth_blockNumber"

def getLogs : String := "eth_getLogs"

def rejectMethods : List String :=
  ["eth_sendTransaction", "eth_sendRawTransaction", "eth_submitWork", "eth_submitHashrate"]

def rejectPrefixes : List String := ["anvil_", "evm_", "hardhat_", "ots_"]

def isReject (method : String) : Bool :=
  rejectMethods.contains method || rejectPrefixes.any (startsWith method)

/-- The answers of `classify`. -/
inductive MethodKind where
  | reject
  | blockNumber
  | getLogs
  | rewrite
  | passthrough
  deriving DecidableEq

def classify : Value → MethodKind
  | .str method =>
    if isReject method then .reject
    else if method = interceptBlockNumber then .blockNumber
    else if method = getLogs then .getLogs
    else if (blockParamIndex.lookup method).isSome then .rewrite
    else .passthrough
  | _ => .passthrough

/-- The positional case of `rewrite_params`: pad up to the index and set it. -/
def pinAt (index : Nat) (params : Value) (block : String) : Value :=
  let items := match params with
    | .list items => items
    | _ => []
  .list ((items ++ List.replicate (index + 1 - items.length) .none).set index (.str block))

/-- The `eth_getLogs` case of `rewrite_params`: clamp the range of the filter. -/
def pinLogs (params : Value) (block : String) : Value :=
  let filter := match params with
    | .list (.dict fields :: _) => fields
    | _ => []
  .list [.dict (Value.popMember (Value.setMember (Value.setMember filter "fromBlock" (.str block))
    "toBlock" (.str block)) "blockHash")]

def rewriteParams (method : String) (params : Value) (block : String) : Value :=
  if method = getLogs then pinLogs params block
  else pinAt ((blockParamIndex.lookup method).getD 0) params block

/-- The actions of `rewrite_single`. -/
inductive Rewritten where
  | forward (request : Value)
  | blockNumber (block : String)
  | reject (method : Value)

def pinnedRequest (fields : List (String × Value)) (method block : String) : Value :=
  .dict (Value.setMember fields "params" (rewriteParams method (Value.member fields "params") block))

def rewriteSingle (request : Value) (block : String) : Rewritten :=
  match request with
  | .dict fields =>
    match classify (Value.member fields "method"), Value.member fields "method" with
    | .reject, method => .reject method
    | .blockNumber, _ => .blockNumber block
    | .getLogs, .str method | .rewrite, .str method => .forward (pinnedRequest fields method block)
    | _, _ => .forward request
  | _ => .forward request

theorem classify_str {method kind} (known : classify method = kind) (read : kind ≠ .passthrough) :
    ∃ m, method = .str m := by
  cases method with
  | str m => exact ⟨m, rfl⟩
  | none | bool | int | float | list | dict => exact absurd known.symm read

theorem rewriteSingle_dict (fields : List (String × Value)) (block : String) :
    (classify (Value.member fields "method") = .reject ∧
        rewriteSingle (.dict fields) block = .reject (Value.member fields "method")) ∨
      (classify (Value.member fields "method") = .blockNumber ∧
        rewriteSingle (.dict fields) block = .blockNumber block) ∨
      (∃ method, Value.member fields "method" = .str method ∧
        (classify (.str method) = .getLogs ∨ classify (.str method) = .rewrite) ∧
        rewriteSingle (.dict fields) block = .forward (pinnedRequest fields method block)) ∨
      (classify (Value.member fields "method") = .passthrough ∧
        rewriteSingle (.dict fields) block = .forward (.dict fields)) := by
  cases kind : classify (Value.member fields "method") with
  | reject => exact .inl ⟨rfl, by simp [rewriteSingle, kind]⟩
  | blockNumber => exact .inr (.inl ⟨rfl, by simp [rewriteSingle, kind]⟩)
  | getLogs =>
    obtain ⟨method, named⟩ := classify_str kind (by decide)
    rw [named] at kind
    exact .inr (.inr (.inl ⟨method, named, .inl kind, by simp [rewriteSingle, named, kind]⟩))
  | rewrite =>
    obtain ⟨method, named⟩ := classify_str kind (by decide)
    rw [named] at kind
    exact .inr (.inr (.inl ⟨method, named, .inr kind, by simp [rewriteSingle, named, kind]⟩))
  | passthrough => exact .inr (.inr (.inr ⟨rfl, by simp [rewriteSingle, kind]⟩))

theorem method_pinnedRequest (fields : List (String × Value)) (method block : String) :
    ∃ pinned, pinnedRequest fields method block = .dict pinned ∧
      Value.member pinned "method" = Value.member fields "method" ∧
      Value.member pinned "params" = rewriteParams method (Value.member fields "params") block := by
  refine ⟨_, rfl, ?_, ?_⟩
  · rw [Value.member_setMember, if_neg (by decide)]
  · rw [Value.member_setMember, if_pos rfl]

/-- What an upstream, or the transport in its place, answers. -/
structure Response where
  status : Int
  /-- `len(body)`. -/
  size : Nat
  json : Option Value

def Response.result? (r : Response) : Option Value :=
  match r.json with
  | some (.dict fields) =>
    if r.status = 200 ∧ (Value.member fields "error").isNone then fields.lookup "result" else none
  | _ => none

structure PinKey where
  method : String
  params : String
  deriving DecidableEq

/-- `PinCache.key`, with the writer of canonical JSON. -/
def pinKey (canonicalJson : Value → String) (method : String) (params : Value) : PinKey :=
  ⟨method, canonicalJson params⟩

structure PinBounds where
  maxBlocks : Nat
  maxEntriesPerBlock : Nat
  maxResultBytes : Nat

/-- `(chain, block) -> {key: result}`, least recently used first. -/
abbrev PinCache := Dict (String × String) (Dict PinKey Value)

namespace PinCache

variable (bounds : PinBounds)

/-- `_group`: the group becomes the newest one, and old ones go. -/
def touch (cache : PinCache) (at_ : String × String) : PinCache :=
  let present := match cache.get? at_ with
    | none => cache.set at_ .empty
    | some _ => cache.refresh at_
  present.newest bounds.maxBlocks

/-- The group `_group` returns. -/
def group (cache : PinCache) (at_ : String × String) : Dict PinKey Value :=
  (cache.get? at_).getD .empty

/-- `get`. -/
def find (cache : PinCache) (chain block : String) (key : PinKey) : PinCache × Option Value :=
  (cache.touch bounds (chain, block), (cache.group (chain, block)).get? key)

def putFromResponse (cache : PinCache) (chain block : String) (key : PinKey) (r : Response) :
    PinCache :=
  if bounds.maxResultBytes < r.size then cache
  else match r.result? with
    | none => cache
    | some result =>
      let entries := cache.group (chain, block)
      let touched := cache.touch bounds (chain, block)
      if bounds.maxEntriesPerBlock ≤ entries.size ∧ entries.get? key = none then touched
      else if (touched.get? (chain, block)).isSome then
        touched.set (chain, block) (entries.set key result)
      else touched

/-- `restore` of the rows a `snapshot` has written; `rows[-0:]` is all of them. -/
def restore (rows : PinCache) : PinCache :=
  (if bounds.maxBlocks = 0 then rows else rows.newest bounds.maxBlocks).mapValues
    fun _ entries => entries.oldest bounds.maxEntriesPerBlock

/-- Every cached result is what `source` says of its chain and key. -/
def Holds (source : String → PinKey → Value → Prop) (cache : PinCache) : Prop :=
  cache.Faithful fun at_ entries => entries.Faithful (source at_.1)

variable {bounds} {source : String → PinKey → Value → Prop} {cache : PinCache}

theorem Holds.touch (holds : cache.Holds source) (at_ : String × String) :
    (cache.touch bounds at_).Holds source := by
  unfold PinCache.touch
  apply Dict.Faithful.newest
  split
  · exact Dict.Faithful.set holds .empty
  · exact Dict.Faithful.refresh holds at_

theorem Holds.group (holds : cache.Holds source) (at_ : String × String) :
    (cache.group at_).Faithful (source at_.1) :=
  Dict.Faithful.getD holds at_

theorem Holds.putFromResponse (holds : cache.Holds source) {chain} (block : String) {key r}
    (answered : ∀ v, r.result? = some v → source chain key v) :
    (cache.putFromResponse bounds chain block key r).Holds source := by
  unfold PinCache.putFromResponse
  split
  · exact holds
  · split
    · exact holds
    next result known =>
      have entries := (holds.group (chain, block)).set (answered result known)
      have touched : (cache.touch bounds (chain, block)).Holds source := holds.touch (chain, block)
      simp only
      split
      · exact touched
      · split
        · exact Dict.Faithful.set touched entries
        · exact touched

theorem Holds.restore (holds : cache.Holds source) : (restore bounds cache).Holds source := by
  have kept : (if bounds.maxBlocks = 0 then cache else cache.newest bounds.maxBlocks).Holds source := by
    split
    · exact holds
    · exact Dict.Faithful.newest holds bounds.maxBlocks
  intro at_ entries found
  rw [PinCache.restore, Dict.get?_mapValues, Option.map_eq_some_iff] at found
  obtain ⟨whole, found, rfl⟩ := found
  exact (kept at_ whole found).oldest bounds.maxEntriesPerBlock

end PinCache

end MinotaurSubnet.Harness.RpcProxy
